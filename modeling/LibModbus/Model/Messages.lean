import LibModbus.Model.Connection

/-! Sending and receiving one message: `send_msg` and `_modbus_receive_msg` of modbus.c. -/

namespace LibModbus

open Library

section Send

def sendMsgStep (msg : List UInt8) (_ : Unit) : M (Unit ⊕ ℤ) := do
  let rc ← backendSend msg
  let ctx ← getCtx
  if rc = -1 ∧ ctx.recoversLink then do
    let savedErrno ← getErrno
    if savedErrno = .ebadf ∨ savedErrno = .econnreset ∨ savedErrno = .epipe then reconnect
    else do
      let _ ← sleepAndFlush
    setErrno savedErrno
    return .inl ()
  else return .inr rc

/-- Returns the result and the message as `send_msg_pre` left it in the caller's array. -/
def sendMsg (msg : List UInt8) : M (ℤ × List UInt8) := do
  let ctx ← getCtx
  let msg := sendMsgPre ctx.backend msg
  let rc ← loop (sendMsgStep msg) ()
  if rc > 0 ∧ rc ≠ msg.length then do
    setErrno embbaddata
    return (-1, msg)
  else return (rc, msg)

end Send

section Lengths

def computeMetaLengthAfterFunction (function : ℕ) : MsgType → ℕ
  | .indication =>
    if function ≤ fcWriteSingleRegister then 4
    else if function = fcWriteMultipleCoils ∨ function = fcWriteMultipleRegisters then 5
    else if function = fcWriteAndReadRegisters then 9
    else 0
  | .confirmation =>
    if function = fcWriteSingleCoil ∨ function = fcWriteSingleRegister ∨
        function = fcWriteMultipleCoils ∨ function = fcWriteMultipleRegisters then 4
    else 1

/-- The bytes that follow the meta information, without the checksum. -/
def computeDataLength (b : Backend) (msg : Mem UInt8) : MsgType → ℕ
  | .indication =>
    let function := (msg b.headerLength).toNat
    if function = fcWriteMultipleCoils ∨ function = fcWriteMultipleRegisters then
      (msg (b.headerLength + 5)).toNat
    else if function = fcWriteAndReadRegisters then (msg (b.headerLength + 9)).toNat
    else 0
  | .confirmation =>
    let function := (msg b.headerLength).toNat
    if function ≤ fcReadInputRegisters ∨ function = fcReportSlaveId ∨
        function = fcWriteAndReadRegisters then (msg (b.headerLength + 1)).toNat
    else 0

def computeDataLengthAfterMeta (b : Backend) (msg : Mem UInt8) (msgType : MsgType) : ℕ :=
  computeDataLength b msg msgType + b.checksumLength

end Lengths

section Receive

inductive Step where
  | function
  | metadata
  | data
  deriving DecidableEq, Repr

/-- The locals of `_modbus_receive_msg` and the caller's array. -/
structure Receiving where
  step : Step
  lengthToRead : ℕ
  msgLength : ℕ
  msg : Mem UInt8
  pTv : Option Timeval

/-- The switch over `step`, entered when everything asked for has arrived. `none` is the exit on
too many data. The function step falls through when no meta information follows. -/
def Receiving.advance (b : Backend) (msgType : MsgType) (st : Receiving) : Option Receiving :=
  let afterMeta : Option Receiving :=
    let lengthToRead := computeDataLengthAfterMeta b st.msg msgType
    if st.msgLength + lengthToRead > b.maxAduLength then none
    else some { st with step := .data, lengthToRead }
  match st.step with
  | .function =>
    let lengthToRead := computeMetaLengthAfterFunction (st.msg b.headerLength).toNat msgType
    if lengthToRead ≠ 0 then some { st with step := .metadata, lengthToRead } else afterMeta
  | .metadata => afterMeta
  | .data => some st

def recoverAfterSelect : M Unit := do
  let ctx ← getCtx
  if ctx.recoversLink then do
    let savedErrno ← getErrno
    if savedErrno = .etimedout then do
      let _ ← sleepAndFlush
    else if savedErrno = .ebadf then reconnect
    setErrno savedErrno

def recoverAfterRecv : M Unit := do
  let ctx ← getCtx
  let savedErrno ← getErrno
  if ctx.recoversLink ∧ (savedErrno = .econnreset ∨ savedErrno = .econnrefused ∨
      savedErrno = .ebadf) then do
    reconnect
    setErrno savedErrno

def receiveMore (msgType : MsgType) (st : Receiving) : M (Receiving ⊕ (ℤ × Mem UInt8)) := do
  let ctx ← getCtx
  let (rc, pTv) ← backendSelect st.pTv
  if rc = -1 then do
    recoverAfterSelect
    return .inr (-1, st.msg)
  else do
    let (rc, msg) ← backendRecv st.msg st.msgLength st.lengthToRead
    if rc = 0 then setErrno .econnreset
    if rc = 0 ∨ rc = -1 then do
      recoverAfterRecv
      return .inr (-1, msg)
    else do
      let st := { st with
        pTv, msg
        msgLength := st.msgLength + rc.toNat
        lengthToRead := st.lengthToRead - rc.toNat }
      match if st.lengthToRead = 0 then st.advance ctx.backend msgType else some st with
      | none => do
        setErrno embbaddata
        return .inr (-1, msg)
      | some st =>
        let pTv := if st.lengthToRead > 0 ∧ ctx.byteTimeout.sec ≠ -1 then some ctx.byteTimeout
          else st.pTv
        return .inl { st with pTv }

def receiveMsgStep (msgType : MsgType) (st : Receiving) : M (Receiving ⊕ (ℤ × Mem UInt8)) :=
  if st.lengthToRead = 0 then do
    let rc ← checkIntegrity st.msg st.msgLength
    return .inr (rc, st.msg)
  else receiveMore msgType st

/-- `_modbus_receive_msg`. The array comes back with whatever was received in it. -/
def receiveMsg (msgType : MsgType) (msg : Mem UInt8) : M (ℤ × Mem UInt8) := do
  let ctx ← getCtx
  let pTv := match msgType with
    | .indication => none
    | .confirmation => some ctx.responseTimeout
  loop (receiveMsgStep msgType) ⟨.function, ctx.backend.headerLength + 1, 0, msg, pTv⟩

def setConfirmationToIgnore (b : Bool) : M Unit :=
  Prog.modify fun w => { w with ctx := { w.ctx with confirmationToIgnore := b } }

def rtuReceive (req : Mem UInt8) : M (ℤ × Mem UInt8) := do
  let ctx ← getCtx
  if ctx.confirmationToIgnore then do
    let (_, req) ← receiveMsg .confirmation req
    setConfirmationToIgnore false
    return (0, req)
  else do
    let (rc, req) ← receiveMsg .indication req
    if rc = 0 then setConfirmationToIgnore true
    return (rc, req)

def modbusReceive (req : Mem UInt8) : M (ℤ × Mem UInt8) := do
  let ctx ← getCtx
  match ctx.backend with
  | .rtu => rtuReceive req
  | .tcp | .tcpPi => receiveMsg .indication req

end Receive

end LibModbus
