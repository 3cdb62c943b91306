import LibModbus.Client.Calls
import LibModbus.Link.Neutral

/-! What a client does with a context that has a connection. -/

namespace LibModbus

open Library Library.Prog

/-- An operation of the client with its destination and whatever the stack holds, or one of the plain
functions around it. -/
inductive ClientUse where
  | operation (call : ClientCall) (stack : Mem UInt8) (dest : Dest)
  | sendRawRequest (rawReq : List UInt8)
  | receiveConfirmation (rsp : Mem UInt8)
  | flush

namespace ClientUse

def run : ClientUse → M Unit
  | operation call stack dest => do
    let _ ← call.operation.run stack dest
  | sendRawRequest rawReq => do
    let _ ← modbusSendRawRequest rawReq
  | receiveConfirmation rsp => do
    let _ ← receiveMsg .confirmation rsp
  | flush => do
    let _ ← modbusFlush

end ClientUse

structure Leaves (I : World → Prop) (call : ClientCall) : Prop where
  basis (w : World) : I w → I { w with ctx := nextRequest w.ctx }
  sends (h : call.operation.tooMany = false) (u v w : World) : I u → I v → I w →
    I { w with
      trace := w.trace ++
        [.send w.ctx.s (sendMsgPre v.ctx.backend (requestHeader u.ctx ++ call.pdu))] }
  sent (w : World) (tx : List UInt8) : I w → I { w with tx }
  stored (w : World) (o n : ℕ) : I w → I { w with trace := w.trace ++ [.stored o n] }

section Uses

variable {I B : World → Prop} [Attached I B]

lemma Leaves.run {call : ClientCall} (h : Leaves I call) (stack : Mem UInt8) (dest : Dest) :
    Maintains I B (call.operation.run stack dest) := by
  refine .bind (Attached.issue ?_ (fun hfew u v w hu hv hw => ?_) h.sent) ?_
  · intro w hw
    rw [call.build_eq]
    exact h.basis w hw
  · rw [call.build_eq]
    exact h.sends hfew u v w hu hv hw
  · rintro ⟨rc, req⟩
    exact Attached.confirm h.stored stack rc req dest

namespace ClientUse

lemma run_maintains (basis : ∀ w, I w → I { w with ctx := nextRequest w.ctx })
    (sends : ∀ w msg, I w → I { w with trace := w.trace ++ [.send w.ctx.s msg] })
    (sent : ∀ w tx, I w → I { w with tx })
    (stored : ∀ w o n, I w → I { w with trace := w.trace ++ [.stored o n] }) (u : ClientUse) :
    Maintains I B u.run := by
  cases u with
  | operation call stack dest =>
    have h : Leaves I call := ⟨basis, fun _ _ _ w _ _ hw => sends w _ hw, sent, stored⟩
    exact .bind (h.run stack dest) fun _ => .pure ()
  | sendRawRequest rawReq =>
    refine .bind (.ite (.bind (Attached.setErrno _) fun _ => .pure _) ?_) fun _ => .pure ()
    refine .bind Attached.getCtx fun ctx => .bind ?_ fun _ => .pure _
    exact Attached.sendMsg (fun _ w _ hw => sends w _ hw) sent
  | receiveConfirmation rsp => exact .bind (Attached.receiveMsg stored _ _) fun _ => .pure ()
  | flush => exact .bind Attached.modbusFlush fun _ => .pure ()

end ClientUse

end Uses

end LibModbus
