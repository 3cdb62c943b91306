import LibModbus.Model.Messages

/-! The client: `check_confirmation` and the operations of modbus.c that send a request. -/

namespace LibModbus

open Library

/-- `none` is `MSG_LENGTH_UNDEFINED`. -/
def computeResponseLengthFromRequest (b : Backend) (req : List UInt8) : Option ℕ :=
  let offset := b.headerLength
  let nb := word (req.getD (offset + 3) 0) (req.getD (offset + 4) 0)
  let length : Option ℕ := match (req.getD offset 0).toNat with
    | fcReadCoils | fcReadDiscreteInputs => some (2 + nb / 8 + if nb % 8 ≠ 0 then 1 else 0)
    | fcWriteAndReadRegisters | fcReadHoldingRegisters | fcReadInputRegisters => some (2 + 2 * nb)
    | fcReadExceptionStatus => some 3
    | fcReportSlaveId => none
    | _ => some 5
  length.map fun length => offset + length + b.checksumLength

/-- The number of values asked for and the number answered, as `check_confirmation` compares
them once the function code of the response is known to be that of the request. -/
def confirmationCounts (b : Backend) (req : List UInt8) (rsp : Mem UInt8) : ℕ × ℕ :=
  let offset := b.headerLength
  let nb := word (req.getD (offset + 3) 0) (req.getD (offset + 4) 0)
  match (rsp offset).toNat with
  | fcReadCoils | fcReadDiscreteInputs =>
    (nb / 8 + if nb % 8 ≠ 0 then 1 else 0, (rsp (offset + 1)).toNat)
  | fcWriteAndReadRegisters | fcReadHoldingRegisters | fcReadInputRegisters =>
    (nb, (rsp (offset + 1)).toNat / 2)
  | fcWriteMultipleCoils | fcWriteMultipleRegisters =>
    (nb, word (rsp (offset + 3)) (rsp (offset + 4)))
  | fcReportSlaveId => ((rsp (offset + 1)).toNat, (rsp (offset + 1)).toNat)
  | _ => (1, 1)

/-- The exits of `check_confirmation` that flush in protocol recovery mode. -/
def rejectConfirmation : M ℤ := do
  let ctx ← getCtx
  if ctx.recoversProtocol then do
    let _ ← sleepAndFlush
  setErrno embbaddata
  return -1

def checkConfirmation (req : List UInt8) (rsp : Mem UInt8) (rspLength : ℤ) : M ℤ := do
  let ctx ← getCtx
  let b := ctx.backend
  let offset := b.headerLength
  let function := (rsp offset).toNat
  let rc ← preCheckConfirmation req rsp
  if rc = -1 then do
    if ctx.recoversProtocol then do
      let _ ← sleepAndFlush
    return -1
  else do
    let rspLengthComputed := computeResponseLengthFromRequest b req
    if function ≥ 0x80 then do
      if rspLength = (offset + 2 + b.checksumLength : ℕ) ∧
          (req.getD offset 0).toNat = function - 0x80 then do
        let exceptionCode := (rsp (offset + 1)).toNat
        if exceptionCode < modbusExceptionMax then setErrno (.modbus exceptionCode)
        else setErrno embbadexc
        return -1
      else do
        setErrno embbadexc
        return -1
    else if rspLengthComputed = none ∨ rspLengthComputed.map Nat.cast = some rspLength then do
      if function ≠ (req.getD offset 0).toNat then rejectConfirmation
      else do
        let (reqNbValue, rspNbValue) := confirmationCounts b req rsp
        if reqNbValue = rspNbValue then return rspNbValue else rejectConfirmation
    else rejectConfirmation

/-- The caller's destination arrays, of bits and of registers. -/
structure Dest where
  bits : Mem UInt8
  words : Mem UInt16

/-- One client function. They all check a quantity against their own maximum, build a request
in an array, send it, receive into an `rsp` array, check the confirmation, and decode it. -/
structure Operation where
  tooMany : Bool
  build : Modbus → Modbus × List UInt8
  rspSize : ℕ
  /-- Fills the destination arrays, from the checked result and the response. -/
  decode : Backend → ℕ → Mem UInt8 → Dest → Dest
  value : ℤ → ℤ

namespace Operation

/-- The part of a client function up to and including `send_msg`. -/
def issue (op : Operation) : M (ℤ × List UInt8) := do
  if op.tooMany then do
    setErrno embmdata
    return (-1, [])
  else do
    let ctx ← getCtx
    let (ctx, req) := op.build ctx
    Prog.modify fun w => { w with ctx }
    sendMsg req

/-- The part of a client function after `send_msg`, which returned `rc` for the request `req`.
The local array `rsp` starts with whatever the stack held. -/
def confirm (op : Operation) (stack : Mem UInt8) (rc : ℤ) (req : List UInt8) (dest : Dest) :
    M (ℤ × Dest) := do
  if rc > 0 then do
    let (rc, rsp) ← receiveMsg .confirmation stack
    if rc = -1 then return (-1, dest)
    else do
      let rc ← checkConfirmation req rsp rc
      if rc = -1 then return (-1, dest)
      else do
        let ctx ← getCtx
        return (op.value rc, op.decode ctx.backend rc.toNat rsp dest)
  else return (if rc = -1 then -1 else op.value rc, dest)

def run (op : Operation) (stack : Mem UInt8) (dest : Dest) : M (ℤ × Dest) := do
  let (rc, req) ← op.issue
  op.confirm stack rc req dest

end Operation

section Decoding

/-- The inner loop of `read_io_status` over the bits of one byte, at most `n` more of them. -/
def readBitsLoop (nb : ℤ) (temp : ℕ) : ℕ → ℕ → ℕ → Mem UInt8 → ℕ × Mem UInt8
  | 0, _, pos, dest => (pos, dest)
  | n + 1, bit, pos, dest =>
    if bit &&& 0xff ≠ 0 ∧ pos < nb then
      readBitsLoop nb temp n (bit <<< 1) (pos + 1)
        (dest.store pos (if temp &&& bit ≠ 0 then 1 else 0))
    else (pos, dest)

/-- The outer loop of `read_io_status`, over `n` bytes from `rsp[i]` on. A byte has eight bits,
so the inner loop ends within nine turns. -/
def readBytesLoop (nb : ℤ) (rsp : Mem UInt8) : ℕ → ℕ → ℕ → Mem UInt8 → Mem UInt8
  | 0, _, _, dest => dest
  | n + 1, i, pos, dest =>
    let (pos, dest) := readBitsLoop nb (rsp i).toNat 9 0x01 pos dest
    readBytesLoop nb rsp n (i + 1) pos dest

def readIoStatusDecode (nb : ℤ) (b : Backend) (rc : ℕ) (rsp : Mem UInt8) (dest : Dest) : Dest :=
  { dest with bits := readBytesLoop nb rsp rc (b.headerLength + 2) 0 dest.bits }

def readRegistersLoop (rsp : Mem UInt8) (offset : ℕ) : ℕ → ℕ → Mem UInt16 → Mem UInt16
  | 0, _, dest => dest
  | n + 1, i, dest =>
    readRegistersLoop rsp offset n (i + 1)
      (dest.store i (UInt16.ofNat (word (rsp (offset + 2 + i <<< 1)) (rsp (offset + 3 + i <<< 1)))))

def readRegistersDecode (b : Backend) (rc : ℕ) (rsp : Mem UInt8) (dest : Dest) : Dest :=
  { dest with words := readRegistersLoop rsp b.headerLength rc 0 dest.words }

def reportSlaveIdLoop (rsp : Mem UInt8) (offset : ℕ) : ℕ → ℕ → Mem UInt8 → Mem UInt8
  | 0, _, dest => dest
  | n + 1, i, dest => reportSlaveIdLoop rsp offset n (i + 1) (dest.store i (rsp (offset + i)))

def reportSlaveIdDecode (b : Backend) (rc : ℕ) (rsp : Mem UInt8) (dest : Dest) : Dest :=
  { dest with bits := reportSlaveIdLoop rsp (b.headerLength + 2) rc 0 dest.bits }

def noDecode (_ : Backend) (_ : ℕ) (_ : Mem UInt8) (dest : Dest) : Dest := dest

end Decoding

section Packing

/-- The inner loop of `modbus_write_bits`: `req[req_length]`, `bit_check` and `pos` after at most
`n` more bits. -/
def packBitsLoop (nb : ℤ) (src : Mem UInt8) : ℕ → ℕ → UInt8 → ℕ → ℕ → UInt8 × ℕ × ℕ
  | 0, _, byte, bitCheck, pos => (byte, bitCheck, pos)
  | n + 1, bit, byte, bitCheck, pos =>
    if bit &&& 0xFF ≠ 0 then
      if bitCheck < nb then
        let byte := if src pos ≠ 0 then byte ||| UInt8.ofNat bit else byte &&& ~~~UInt8.ofNat bit
        packBitsLoop nb src n (bit <<< 1) byte (bitCheck + 1) (pos + 1)
      else (byte, bitCheck + 1, pos)
    else (byte, bitCheck, pos)

def packBytesLoop (nb : ℤ) (src : Mem UInt8) : ℕ → ℕ → ℕ → List UInt8
  | 0, _, _ => []
  | n + 1, bitCheck, pos =>
    let (byte, bitCheck, pos) := packBitsLoop nb src 9 0x01 0 bitCheck pos
    byte :: packBytesLoop nb src n bitCheck pos

def packRegisters (src : Mem UInt16) (nb : ℕ) : List UInt8 :=
  (List.range nb).flatMap fun i => [hiByte (src i).toNat, loByte (src i).toNat]

end Packing

section Operations

def requestBasis (function : ℕ) (addr nb : ℤ) (ctx : Modbus) : Modbus × List UInt8 :=
  buildRequestBasis ctx function addr nb

def requestWith (function : ℕ) (addr nb : ℤ) (payload : List UInt8) (ctx : Modbus) :
    Modbus × List UInt8 :=
  ((buildRequestBasis ctx function addr nb).1, (buildRequestBasis ctx function addr nb).2 ++ payload)

/-- The wrappers return `nb` in place of the byte count that `read_io_status` returns. -/
def readIoStatus (function : ℕ) (addr nb : ℤ) : Operation where
  tooMany := nb > modbusMaxReadBits
  build := requestBasis function addr nb
  rspSize := maxMessageLength
  decode := readIoStatusDecode nb
  value _ := nb

def modbusReadBits (addr nb : ℤ) : Operation := readIoStatus fcReadCoils addr nb

def modbusReadInputBits (addr nb : ℤ) : Operation := readIoStatus fcReadDiscreteInputs addr nb

/-- Checks the quantity as its two callers already did. -/
def readRegisters (function : ℕ) (addr nb : ℤ) : Operation where
  tooMany := nb > modbusMaxReadRegisters
  build := requestBasis function addr nb
  rspSize := maxMessageLength
  decode := readRegistersDecode
  value rc := rc

def modbusReadRegisters (addr nb : ℤ) : Operation := readRegisters fcReadHoldingRegisters addr nb

def modbusReadInputRegisters (addr nb : ℤ) : Operation := readRegisters fcReadInputRegisters addr nb

/-- The one client function whose `rsp` is only `_MIN_REQ_LENGTH` bytes long. -/
def writeSingle (function : ℕ) (addr value : ℤ) : Operation where
  tooMany := false
  build := requestBasis function addr value
  rspSize := minReqLength
  decode := noDecode
  value rc := rc

def modbusWriteBit (addr status : ℤ) : Operation :=
  writeSingle fcWriteSingleCoil addr (if status ≠ 0 then 0xFF00 else 0)

def modbusWriteRegister (addr value : ℤ) : Operation := writeSingle fcWriteSingleRegister addr value

/-- `/` and `%` of C, which round towards zero. -/
def bitByteCount (nb : ℤ) : ℤ := nb.tdiv 8 + if nb.tmod 8 ≠ 0 then 1 else 0

def modbusWriteBits (addr nb : ℤ) (src : Mem UInt8) : Operation where
  tooMany := nb > modbusMaxWriteBits
  build := requestWith fcWriteMultipleCoils addr nb
    (UInt8.ofInt (bitByteCount nb) :: packBytesLoop nb src (bitByteCount nb).toNat 0 0)
  rspSize := maxMessageLength
  decode := noDecode
  value rc := rc

def modbusWriteRegisters (addr nb : ℤ) (src : Mem UInt16) : Operation where
  tooMany := nb > modbusMaxWriteRegisters
  build := requestWith fcWriteMultipleRegisters addr nb
    (UInt8.ofInt (nb * 2) :: packRegisters src nb.toNat)
  rspSize := maxMessageLength
  decode := noDecode
  value rc := rc

def modbusWriteAndReadRegisters (writeAddr writeNb : ℤ) (src : Mem UInt16)
    (readAddr readNb : ℤ) : Operation where
  tooMany := writeNb > modbusMaxRwWriteRegisters ∨ readNb > modbusMaxReadRegisters
  build := requestWith fcWriteAndReadRegisters readAddr readNb
    (hiByte writeAddr :: loByte writeAddr :: hiByte writeNb :: loByte writeNb ::
      UInt8.ofInt (writeNb * 2) :: packRegisters src writeNb.toNat)
  rspSize := maxMessageLength
  decode := readRegistersDecode
  value rc := rc

/-- Address and count are not used: the last four bytes of the request basis are given up. -/
def modbusReportSlaveId : Operation where
  tooMany := false
  build ctx :=
    let (ctx, req) := buildRequestBasis ctx fcReportSlaveId 0 0
    (ctx, req.take (req.length - 4))
  rspSize := maxMessageLength
  decode := reportSlaveIdDecode
  value rc := rc

end Operations

/-- The response function only sets the header, so it builds the raw request too. -/
def modbusSendRawRequest (rawReq : List UInt8) : M ℤ := do
  if rawReq.length < 2 then do
    setErrno .einval
    return -1
  else do
    let ctx ← getCtx
    let sft : Sft := ⟨(rawReq.getD 0 0).toNat, (rawReq.getD 1 0).toNat, 0⟩
    let (rc, _) ← sendMsg (buildResponseBasis ctx.backend sft ++ rawReq.drop 2)
    return rc

end LibModbus
