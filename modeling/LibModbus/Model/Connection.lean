import LibModbus.Model.Backend

/-! The system calls and the entries of the backend tables that make them: connecting, closing,
flushing, waiting, sending and receiving. -/

namespace LibModbus

open Library

section SystemCalls

/-- A system call whose result the code does not look at. It may still leave an errno. -/
def osIgnored (c : Call) : M Unit := do
  record c
  let r ← ask
  match r.trouble with
  | none => return ()
  | some e => setErrno e

def osOption (c : Call) : M ℤ := do
  record c
  let r ← ask
  match r.option with
  | none => return 0
  | some e =>
    setErrno e
    return -1

def osDescriptor : M ℤ := do
  let r ← ask
  match r.descriptor with
  | .ok fd =>
    record (.opened fd)
    return fd
  | .error e =>
    setErrno e
    return -1

def osClose (fd : ℤ) : M Unit := osIgnored (.close fd)

/-- `send()` or `write()`: the first bytes of the message enter the link. -/
def osSend (fd : ℤ) (msg : List UInt8) : M ℤ := do
  record (.send fd msg)
  let r ← ask
  match r.send with
  | .ok n =>
    Prog.modify fun w => { w with tx := w.tx ++ msg.take n }
    return (msg.take n).length
  | .error e =>
    setErrno e
    return -1

/-- `recv()` or `read()` into `msg + offset`. Without a byte on the link it does not return. -/
def osRecv (fd : ℤ) (msg : Mem UInt8) (offset length : ℕ) : M (ℤ × Mem UInt8) := do
  record (.recv fd)
  let r ← ask
  match r.recv with
  | .data n =>
    let w ← Prog.get
    let chunk := w.rx.take (max 1 (min n length))
    if chunk = [] then Prog.stuck
    else do
      Prog.modify fun w => { w with rx := w.rx.drop chunk.length }
      record (.stored offset chunk.length)
      return (chunk.length, msg.write offset chunk)
  | .eof => return (0, msg)
  | .fail e =>
    setErrno e
    return (-1, msg)

/-- `recv()` of at most `length` bytes with `MSG_DONTWAIT`, into a buffer that is thrown away. -/
def osRecvDontwait (fd : ℤ) (length : ℕ) : M ℤ := do
  record (.recv fd)
  let r ← ask
  match r.recv with
  | .data _ =>
    let w ← Prog.get
    if w.rx = [] then do
      setErrno .eagain
      return -1
    else do
      Prog.modify fun w => { w with rx := w.rx.drop length }
      return (w.rx.take length).length
  | .eof => return 0
  | .fail e =>
    setErrno e
    return -1

/-- What a `struct timeval *` points to. A local variable is given back with what it then holds. -/
class Place (π : Type) where
  load : π → M Timeval
  store : Timeval → π → M π

instance : Place Timeval where
  load tv := return tv
  store tv _ := return tv

inductive TimeoutField where
  | responseTimeout
  | byteTimeout

instance : Place TimeoutField where
  load
    | .responseTimeout => do
      let ctx ← getCtx
      return ctx.responseTimeout
    | .byteTimeout => do
      let ctx ← getCtx
      return ctx.byteTimeout
  store tv
    | .responseTimeout => do
      Prog.modify fun w => { w with ctx := { w.ctx with responseTimeout := tv } }
      return .responseTimeout
    | .byteTimeout => do
      Prog.modify fun w => { w with ctx := { w.ctx with byteTimeout := tv } }
      return .byteTimeout

variable {π : Type} [Place π]

/-- What `select()` does to the timeout it is given: it may leave anything there. -/
def osOverwrite (tv : Timeval) : Option π → M (Option π)
  | none => return none
  | some p => do
    let p ← Place.store tv p
    return some p

def osSelect (fd : ℤ) (tv : Option π) : M (ℤ × Option π) := do
  record (.select fd)
  let r ← ask
  let tv ← osOverwrite r.selectTv tv
  match r.select with
  | .ok true => return (1, tv)
  | .ok false => return (0, tv)
  | .error e =>
    setErrno e
    return (-1, tv)

def osSelectWritable (fd : ℤ) (tv : Option π) : M (ℤ × Option π) := do
  record (.select fd)
  let r ← ask
  let tv ← osOverwrite r.selectTv tv
  match r.writable with
  | .ok true => return (1, tv)
  | .ok false => return (0, tv)
  | .error e =>
    setErrno e
    return (-1, tv)

lemma osSelect_variable (fd : ℤ) (tv : Option Timeval) : osSelect fd tv = (do
    record (.select fd)
    let r ← ask
    let tv := tv.map fun _ => r.selectTv
    match r.select with
    | .ok true => return (1, tv)
    | .ok false => return (0, tv)
    | .error e =>
      setErrno e
      return (-1, tv)) := by
  cases tv <;> rfl

lemma osSelectWritable_variable (fd : ℤ) (tv : Option Timeval) : osSelectWritable fd tv = (do
    record (.select fd)
    let r ← ask
    let tv := tv.map fun _ => r.selectTv
    match r.writable with
    | .ok true => return (1, tv)
    | .ok false => return (0, tv)
    | .error e =>
      setErrno e
      return (-1, tv)) := by
  cases tv <;> rfl

end SystemCalls

section Connect

def tcpSetIpv4Options (s : ℤ) : M ℤ := do
  let rc ← osOption (.setsockopt s)
  if rc = -1 then return -1
  else do
    let rc ← osOption (.setsockopt s)
    if rc = -1 then return -1 else return 0

/-- `tv_copy = *tv; tv_ptr = &tv_copy`, unless `tv` is null. -/
def copyTimeval {π : Type} [Place π] : Option π → M (Option Timeval)
  | none => return none
  | some tv => do
    let tvCopy ← Place.load tv
    return some tvCopy

/-- `_connect` of modbus-tcp.c. -/
def connectSocket {π : Type} [Place π] (sockfd : ℤ) (tv : Option π) : M ℤ := do
  let tvPtr ← copyTimeval tv
  record (.connect sockfd)
  let r ← ask
  match r.connect with
  | .ok _ => return 0
  | .error e => do
    setErrno e
    if e = .einprogress then do
      let (rc, _) ← osSelectWritable sockfd tvPtr
      if rc ≤ 0 then return -1
      else do
        let r ← ask
        if r.option = none ∧ r.soError = false then return 0
        else do
          setErrno .econnrefused
          return -1
    else return -1

lemma connectSocket_variable (sockfd : ℤ) (tv : Option Timeval) : connectSocket sockfd tv = (do
    record (.connect sockfd)
    let r ← ask
    match r.connect with
    | .ok _ => return 0
    | .error e => do
      setErrno e
      if e = .einprogress then do
        let (rc, _) ← osSelectWritable sockfd tv
        if rc ≤ 0 then return -1
        else do
          let r ← ask
          if r.option = none ∧ r.soError = false then return 0
          else do
            setErrno .econnrefused
            return -1
      else return -1) := by
  cases tv <;> rfl

lemma connectSocket_responseTimeout (sockfd : ℤ) :
    connectSocket sockfd (some TimeoutField.responseTimeout) = (do
      let ctx ← getCtx
      connectSocket sockfd (some ctx.responseTimeout)) := rfl

def tcpConnect : M ℤ := do
  let s ← osDescriptor
  setSocket s
  if s = -1 then return -1
  else do
    let rc ← tcpSetIpv4Options s
    if rc = -1 then do
      osClose s
      return -1
    else do
      let rc ← connectSocket s (some TimeoutField.responseTimeout)
      if rc = -1 then do
        osClose s
        return -1
      else return 0

/-- The loop over `ai_list`. It leaves `ctx->s` alone when no address can be reached. -/
def tcpPiConnectLoop : List Bool → M Unit
  | [] => return ()
  | inet :: rest => do
    let s ← osDescriptor
    if s < 0 then tcpPiConnectLoop rest
    else do
      if inet then do
        let _ ← tcpSetIpv4Options s
      let rc ← connectSocket s (some TimeoutField.responseTimeout)
      if rc = -1 then do
        osClose s
        tcpPiConnectLoop rest
      else setSocket s

def tcpPiConnect : M ℤ := do
  let r ← ask
  match r.addresses with
  | none => return -1
  | some aiList => do
    tcpPiConnectLoop aiList
    let ctx ← getCtx
    if ctx.s < 0 then return -1 else return 0

/-- `_modbus_rtu_connect` without the settings of the port: nobody looks at the result of `tcgetattr()`. -/
def rtuConnect : M ℤ := do
  let s ← osDescriptor
  setSocket s
  if s = -1 then return -1
  else do
    osIgnored (.tcgetattr s)
    let rc ← osOption (.tcsetattr s)
    if rc < 0 then do
      osClose s
      setSocket (-1)
      return -1
    else return 0

def modbusConnect : M ℤ := do
  let ctx ← getCtx
  match ctx.backend with
  | .rtu => rtuConnect
  | .tcp => tcpConnect
  | .tcpPi => tcpPiConnect

def tcpClose : M Unit := do
  let ctx ← getCtx
  osIgnored (.shutdown ctx.s)
  osClose ctx.s

def rtuClose : M Unit := do
  let ctx ← getCtx
  osIgnored (.tcsetattr ctx.s)
  osClose ctx.s

def modbusClose : M Unit := do
  let ctx ← getCtx
  match ctx.backend with
  | .rtu => rtuClose
  | .tcp | .tcpPi => tcpClose

/-- Whether a context that has no descriptor would get a connection now. -/
def reachable (w : World) : Bool :=
  match modbusConnect { w with ctx := { w.ctx with s := -1 } } with
  | .done rc _ => rc = 0
  | .blocked _ => true

/-- The recovery of a lost link. Nobody looks at what `modbus_connect` returns. -/
def reconnect : M Unit := do
  modbusClose
  let w ← Prog.get
  let _ ← modbusConnect
  record (.reconnecting (reachable w))

end Connect

section Settings

def rtuSetSlave (slave : ℤ) : M ℤ := do
  if 0 ≤ slave ∧ slave ≤ 247 then do
    Prog.modify fun w => { w with ctx := { w.ctx with slave } }
    return 0
  else do
    setErrno .einval
    return -1

/-- `MODBUS_TCP_SLAVE` restores the default. -/
def tcpSetSlave (slave : ℤ) : M ℤ := do
  if 0 ≤ slave ∧ slave ≤ 247 ∨ slave = modbusTcpSlave then do
    Prog.modify fun w => { w with ctx := { w.ctx with slave } }
    return 0
  else do
    setErrno .einval
    return -1

def modbusSetSlave (slave : ℤ) : M ℤ := do
  let ctx ← getCtx
  match ctx.backend with
  | .rtu => rtuSetSlave slave
  | .tcp | .tcpPi => tcpSetSlave slave

/-- `modbus_error_recovery_mode` is unsigned, so that every mode passes. It is kept in eight bits. -/
def modbusSetErrorRecovery (errorRecovery : UInt32) : M ℤ := do
  if 0 ≤ errorRecovery then do
    Prog.modify fun w => { w with ctx := { w.ctx with errorRecovery := errorRecovery.toNat % 256 } }
    return 0
  else do
    setErrno .einval
    return -1

def modbusSetSocket (socket : ℤ) : M Unit := setSocket socket

def modbusSetResponseTimeout (timeout : Timeval) : M Unit :=
  Prog.modify fun w => { w with ctx := { w.ctx with responseTimeout := timeout } }

def modbusSetByteTimeout (timeout : Timeval) : M Unit :=
  Prog.modify fun w => { w with ctx := { w.ctx with byteTimeout := timeout } }

end Settings

section Transfer

def tcpFlushStep (rcSum : ℤ) : M (ℤ ⊕ ℤ) := do
  let ctx ← getCtx
  let rc ← osRecvDontwait ctx.s modbusTcpMaxAduLength
  let rcSum := if rc > 0 then rcSum + rc else rcSum
  if rc = modbusTcpMaxAduLength then return .inl rcSum else return .inr rcSum

def tcpFlush : M ℤ := loop tcpFlushStep 0

/-- `tcflush()` drops everything that was received and not read. -/
def rtuFlush : M ℤ := do
  let ctx ← getCtx
  let rc ← osOption (.tcflush ctx.s)
  if rc = 0 then do
    Prog.modify fun w => { w with rx := [] }
    return rc
  else return rc

def modbusFlush : M ℤ := do
  let ctx ← getCtx
  match ctx.backend with
  | .rtu => rtuFlush
  | .tcp | .tcpPi => tcpFlush

/-- `nanosleep()` is called again for as long as a signal interrupts it. -/
def nanosleepStep (_ : Unit) : M (Unit ⊕ Unit) := do
  let r ← ask
  match r.trouble with
  | none => return .inr ()
  | some e => do
    setErrno e
    if e = .eintr then return .inl () else return .inr ()

def sleepAndFlush : M ℤ := do
  loop nanosleepStep ()
  modbusFlush

def backendSend (msg : List UInt8) : M ℤ := do
  let ctx ← getCtx
  osSend ctx.s msg

def backendRecv (msg : Mem UInt8) (offset length : ℕ) : M (ℤ × Mem UInt8) := do
  let ctx ← getCtx
  osRecv ctx.s msg offset length

/-- One turn of the loop that both `_modbus_tcp_select` and `_modbus_rtu_select` run: `select()`
again after a signal. -/
def backendSelectStep {π : Type} [Place π] (tv : Option π) : M (Option π ⊕ (ℤ × Option π)) := do
  let ctx ← getCtx
  let (sRc, tv) ← osSelect ctx.s tv
  if sRc = -1 then do
    let e ← getErrno
    if e = .eintr then return .inl tv else return .inr (-1, tv)
  else if sRc = 0 then do
    setErrno .etimedout
    return .inr (-1, tv)
  else return .inr (sRc, tv)

def backendSelect {π : Type} [Place π] (tv : Option π) : M (ℤ × Option π) := loop backendSelectStep tv

/-- The exit of `_modbus_rtu_check_integrity` on a bad checksum. -/
def rtuRejectChecksum : M ℤ := do
  let ctx ← getCtx
  if ctx.recoversProtocol then do
    let _ ← rtuFlush
  setErrno embbadcrc
  return -1

/-- The filter on the unit identifier. -/
def notForMe (ctx : Modbus) (msg : Mem UInt8) : Bool :=
  let slave : ℤ := (msg 0).toNat
  slave ≠ ctx.slave ∧ slave ≠ modbusBroadcastAddress

def rtuCheckIntegrity (msg : Mem UInt8) (msgLength : ℕ) : M ℤ := do
  let ctx ← getCtx
  if notForMe ctx msg then return 0
  else if crcMatches msg msgLength then return msgLength
  else rtuRejectChecksum

def checkIntegrity (msg : Mem UInt8) (msgLength : ℕ) : M ℤ := do
  let ctx ← getCtx
  match ctx.backend with
  | .rtu => rtuCheckIntegrity msg msgLength
  | .tcp | .tcpPi => return msgLength

def rtuPreCheckConfirmation (req : List UInt8) (rsp : Mem UInt8) : M ℤ := do
  if req.getD 0 0 ≠ 0 ∧ req.getD 0 0 ≠ rsp 0 then do
    setErrno embbadslave
    return -1
  else return 0

def tcpPreCheckConfirmation (req : List UInt8) (rsp : Mem UInt8) : M ℤ := do
  if req.getD 0 0 ≠ rsp 0 ∨ req.getD 1 0 ≠ rsp 1 then do
    setErrno embbaddata
    return -1
  else return 0

def preCheckConfirmation (req : List UInt8) (rsp : Mem UInt8) : M ℤ := do
  let ctx ← getCtx
  match ctx.backend with
  | .rtu => rtuPreCheckConfirmation req rsp
  | .tcp | .tcpPi => tcpPreCheckConfirmation req rsp

end Transfer

end LibModbus
