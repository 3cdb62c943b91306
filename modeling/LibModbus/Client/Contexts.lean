import LibModbus.Client.Uses
import LibModbus.Model.Reply

/-! All that a program may call with its context, one call after the other. -/

namespace LibModbus

open Library Library.Prog

inductive ContextCall where
  | connect
  | close
  | client (use : ClientUse)
  | receive (req : Mem UInt8)
  | reply (req : Mem UInt8) (reqLength : ℤ) (mbMapping : Mapping)
  | replyException (req : Mem UInt8) (exceptionCode : ℕ)
  | setSlave (slave : ℤ)
  | setErrorRecovery (errorRecovery : UInt32)
  | setSocket (socket : ℤ)
  | setResponseTimeout (timeout : Timeval)
  | setByteTimeout (timeout : Timeval)

namespace ContextCall

def run : ContextCall → M Unit
  | connect => do
    let _ ← modbusConnect
  | close => modbusClose
  | client use => use.run
  | receive req => do
    let _ ← modbusReceive req
  | reply req reqLength mbMapping => do
    let _ ← modbusReply req reqLength mbMapping
  | replyException req exceptionCode => do
    let _ ← modbusReplyException req exceptionCode
  | setSlave slave => do
    let _ ← modbusSetSlave slave
  | setErrorRecovery errorRecovery => do
    let _ ← modbusSetErrorRecovery errorRecovery
  | setSocket socket => modbusSetSocket socket
  | setResponseTimeout timeout => modbusSetResponseTimeout timeout
  | setByteTimeout timeout => modbusSetByteTimeout timeout

end ContextCall

structure ContextTurn where
  call : ContextCall
  script : List Response
  rx : List UInt8

namespace World

/-- A call that is not answered is left where it stands. -/
def turn (w : World) (t : ContextTurn) : World :=
  (t.call.run { w with script := t.script, rx := w.rx ++ t.rx }).state

def turns (w : World) (ts : List ContextTurn) : World := ts.foldl turn w

end World

def newContext : Backend → Modbus
  | .rtu => modbusNewRtu
  | .tcp => modbusNewTcp
  | .tcpPi => modbusNewTcpPi

class Unaffected (R : World → World → Prop) : Prop extends Neutral R where
  stored (w : World) (o n : ℕ) : R w { w with trace := w.trace ++ [.stored o n] }
  ignore (w : World) (confirmationToIgnore : Bool) :
    R w { w with ctx := { w.ctx with confirmationToIgnore } }
  slave (w : World) (slave : ℤ) : R w { w with ctx := { w.ctx with slave } }
  recovery (w : World) (errorRecovery : ℕ) : R w { w with ctx := { w.ctx with errorRecovery } }

namespace Unaffected

variable {R : World → World → Prop} [Unaffected R]

lemma receiveMsg (msgType : MsgType) (msg : Mem UInt8) : Keeps R (receiveMsg msgType msg) :=
  Neutral.receiveMsg Unaffected.stored msgType msg

lemma modbusReceive (req : Mem UInt8) : Keeps R (modbusReceive req) := by
  have hignore (b : Bool) : Keeps R (setConfirmationToIgnore b) := fun w => Unaffected.ignore w b
  refine .bind Neutral.getCtx fun ctx => ?_
  cases ctx.backend with
  | tcp | tcpPi => exact receiveMsg .indication req
  | rtu =>
    refine .bind Neutral.getCtx fun ctx => .ite (.bind (receiveMsg _ req) ?_) (.bind (receiveMsg _ req) ?_)
    · rintro ⟨_, req⟩
      exact .bind (hignore false) fun _ => .pure _
    · rintro ⟨rc, req⟩
      exact .ite (.bind (hignore true) fun _ => .pure _) (.pure _)

lemma modbusReply (req : Mem UInt8) (reqLength : ℤ) (mbMapping : Mapping) :
    Keeps R (modbusReply req reqLength mbMapping) := by
  refine .bind Neutral.getCtx fun ctx => .ite .stuck ?_
  cases (replyBuild ctx.backend req reqLength mbMapping).rsp with
  | none => exact .bind (Neutral.setErrno _) fun _ => .pure _
  | some rsp => exact .bind (Neutral.sendMsg rsp) fun _ => .pure _

lemma modbusReplyException (req : Mem UInt8) (exceptionCode : ℕ) :
    Keeps R (modbusReplyException req exceptionCode) := by
  refine .bind Neutral.getCtx fun ctx => .ite (.bind (Neutral.sendMsg _) fun _ => .pure _) ?_
  exact .bind (Neutral.setErrno _) fun _ => .pure _

lemma modbusSetSlave (slave : ℤ) : Keeps R (modbusSetSlave slave) := by
  have hset : Keeps R (Prog.modify fun w => { w with ctx := { w.ctx with slave } }) :=
    fun w => Unaffected.slave w slave
  refine .bind Neutral.getCtx fun ctx => ?_
  cases ctx.backend with
  | rtu | tcp | tcpPi =>
    exact .ite (.bind hset fun _ => .pure _) (.bind (Neutral.setErrno _) fun _ => .pure _)

lemma modbusSetErrorRecovery (errorRecovery : UInt32) : Keeps R (modbusSetErrorRecovery errorRecovery) := by
  refine .ite (.bind (fun w => Unaffected.recovery w _) fun _ => .pure _) ?_
  exact .bind (Neutral.setErrno _) fun _ => .pure _

lemma sendRawRequest (rawReq : List UInt8) : Keeps R (ClientUse.sendRawRequest rawReq).run := by
  refine .bind (.ite (.bind (Neutral.setErrno _) fun _ => .pure _) ?_) fun _ => .pure ()
  exact .bind Neutral.getCtx fun ctx => .bind (Neutral.sendMsg _) fun _ => .pure _

lemma run (call : ContextCall)
    (hop : ∀ c stack dest, call = .client (.operation c stack dest) →
      Keeps R (ClientUse.operation c stack dest).run)
    (hresponse : ∀ timeout, call ≠ .setResponseTimeout timeout)
    (hbyte : ∀ timeout, call ≠ .setByteTimeout timeout) : Keeps R call.run := by
  cases call with
  | connect => exact .bind Neutral.modbusConnect fun _ => .pure _
  | close => exact Neutral.modbusClose
  | client use =>
    cases use with
    | operation c stack dest => exact hop c stack dest rfl
    | sendRawRequest rawReq => exact sendRawRequest rawReq
    | receiveConfirmation rsp => exact .bind (receiveMsg _ _) fun _ => .pure ()
    | flush => exact .of_maintains fun _ => .bind Attached.modbusFlush fun _ => .pure ()
  | receive req => exact .bind (modbusReceive req) fun _ => .pure _
  | reply req reqLength mbMapping => exact .bind (modbusReply req reqLength mbMapping) fun _ => .pure _
  | replyException req code => exact .bind (modbusReplyException req code) fun _ => .pure _
  | setSlave slave => exact .bind (modbusSetSlave slave) fun _ => .pure _
  | setErrorRecovery mode => exact .bind (modbusSetErrorRecovery mode) fun _ => .pure _
  | setSocket socket => exact Neutral.setSocket socket
  | setResponseTimeout timeout => exact absurd rfl (hresponse timeout)
  | setByteTimeout timeout => exact absurd rfl (hbyte timeout)

end Unaffected

end LibModbus
