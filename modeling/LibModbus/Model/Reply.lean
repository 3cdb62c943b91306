import LibModbus.Model.Messages

/-! The server: the register tables, the bit utilities of modbus-data.c, and `modbus_reply`. -/

namespace LibModbus

open Library

/-- Each table is a pointer with its number of entries. -/
structure Mapping where
  nbBits : ℕ
  nbInputBits : ℕ
  nbInputRegisters : ℕ
  nbRegisters : ℕ
  tabBits : Mem UInt8
  tabInputBits : Mem UInt8
  tabInputRegisters : Mem UInt16
  tabRegisters : Mem UInt16

inductive Table where
  | bits
  | inputBits
  | inputRegisters
  | registers
  deriving DecidableEq, Repr

def Mapping.size (m : Mapping) : Table → ℕ
  | .bits => m.nbBits
  | .inputBits => m.nbInputBits
  | .inputRegisters => m.nbInputRegisters
  | .registers => m.nbRegisters

/-- One access to a table entry, for a store with the value stored. -/
inductive Access where
  | load (table : Table) (index : ℕ)
  | store (table : Table) (index : ℕ) (value : ℕ)
  deriving DecidableEq, Repr

namespace Access

def table : Access → Table
  | load t _ => t
  | store t _ _ => t

def index : Access → ℕ
  | load _ i => i
  | store _ i _ => i

end Access

section Data

def setBitsFromByteLoop (index : ℕ) (value : UInt8) : ℕ → ℕ → Mem UInt8 → Mem UInt8
  | 0, _, dest => dest
  | n + 1, i, dest =>
    setBitsFromByteLoop index value n (i + 1)
      (dest.store (index + i) (if value.toNat &&& (1 <<< i) ≠ 0 then 1 else 0))

def modbusSetBitsFromByte (dest : Mem UInt8) (index : ℕ) (value : UInt8) : Mem UInt8 :=
  setBitsFromByteLoop index value 8 0 dest

/-- The loop of `modbus_set_bits_from_bytes` from `i` on, with the entries it stored in order. -/
def setBitsFromBytesLoop (index : ℕ) (tabByte : Mem UInt8) :
    ℕ → ℕ → ℕ → Mem UInt8 → Mem UInt8 × List (ℕ × UInt8)
  | 0, _, _, dest => (dest, [])
  | n + 1, i, shift, dest =>
    let value := if (tabByte ((i - index) / 8)).toNat &&& (1 <<< shift) ≠ 0 then 1 else 0
    let (dest, stores) :=
      setBitsFromBytesLoop index tabByte n (i + 1) ((shift + 1) % 8) (dest.store i value)
    (dest, (i, value) :: stores)

def modbusSetBitsFromBytes (dest : Mem UInt8) (index nbBits : ℕ) (tabByte : Mem UInt8) :
    Mem UInt8 × List (ℕ × UInt8) :=
  setBitsFromBytesLoop index tabByte nbBits index 0 dest

/-- The loop of `modbus_get_byte_from_bits` from `i` on. What is shifted is an `int`, of which the byte
takes eight bits. -/
def getByteFromBitsLoop (src : Mem UInt8) (index : ℕ) : ℕ → ℕ → UInt8 → UInt8
  | 0, _, value => value
  | n + 1, i, value =>
    getByteFromBitsLoop src index n (i + 1) (value ||| UInt8.ofNat ((src (index + i)).toNat <<< i))

/-- For more than eight bits the assertion stops the program, unless `NDEBUG` is set. -/
def modbusGetByteFromBits (ndebug : Bool) (src : Mem UInt8) (index nbBits : ℕ) : Option UInt8 :=
  if nbBits > 8 then
    if ndebug then some (getByteFromBitsLoop src index 8 0 0) else none
  else some (getByteFromBitsLoop src index nbBits 0 0)

/-- A `float` is its bits, which are copied to and from a `uint32_t`. -/
def modbusGetFloat (src : Mem UInt16) : BitVec 32 :=
  BitVec.ofNat 32 ((src 1).toNat <<< 16 + (src 0).toNat)

/-- `dest` starts at the index `i` of an array. -/
def modbusSetFloat (f : BitVec 32) (dest : Mem UInt16) (i : ℕ) : Mem UInt16 :=
  (dest.store i (UInt16.ofNat f.toNat)).store (i + 1) (UInt16.ofNat (f.toNat >>> 16))

/-- The loop of `response_io_status` from `i` on: the bytes appended to `rsp` and the entries
read. `byte` is an `int` that is cut to eight bits when it is stored. -/
def responseIoStatusLoop (tab : Mem UInt8) : ℕ → ℕ → ℕ → ℕ → List UInt8 × List ℕ
  | 0, _, shift, byte => (if shift ≠ 0 then [UInt8.ofNat byte] else [], [])
  | n + 1, i, shift, byte =>
    let byte := byte ||| (tab i).toNat <<< shift
    if shift = 7 then
      let (bytes, reads) := responseIoStatusLoop tab n (i + 1) 0 0
      (UInt8.ofNat byte :: bytes, i :: reads)
    else
      let (bytes, reads) := responseIoStatusLoop tab n (i + 1) (shift + 1) byte
      (bytes, i :: reads)

def responseIoStatus (address nb : ℕ) (tabIoStatus : Mem UInt8) : List UInt8 × List ℕ :=
  responseIoStatusLoop tabIoStatus nb address 0 0

/-- `for (i = address; i < address + nb; i++)` over a register table, high byte first. -/
def loadRegisters (tab : Mem UInt16) : ℕ → ℕ → List UInt8 × List ℕ
  | 0, _ => ([], [])
  | n + 1, i =>
    let (bytes, reads) := loadRegisters tab n (i + 1)
    (hiByte (tab i).toNat :: loByte (tab i).toNat :: bytes, i :: reads)

/-- `for (i = address, j = first; i < address + nb; i++, j += 2)`, the words at `req + j`. -/
def storeRegisters (req : Mem UInt8) : ℕ → ℕ → ℕ → Mem UInt16 → Mem UInt16 × List (ℕ × UInt16)
  | 0, _, _, tab => (tab, [])
  | n + 1, i, j, tab =>
    let value := UInt16.ofNat (word (req j) (req (j + 1)))
    let (tab, stores) := storeRegisters req n (i + 1) (j + 2) (tab.store i value)
    (tab, (i, value) :: stores)

end Data

section Reply

def responseException (b : Backend) (sft : Sft) (exceptionCode : ℕ) : List UInt8 :=
  buildResponseBasis b { sft with function := sft.function + 0x80 } ++ [UInt8.ofNat exceptionCode]

/-- What `modbus_reply` has done when it reaches `send_msg`: the tables, every access to them in
order, and the part of `rsp` written so far. `none` is the exit that sends nothing. A `memcpy()` of a
negative size is undefined. -/
structure Reply where
  mapping : Mapping
  accesses : List Access
  rsp : Option (List UInt8)
  undefined : Bool

def loads (t : Table) (reads : List ℕ) : List Access := reads.map (Access.load t)

def bitStores (stores : List (ℕ × UInt8)) : List Access :=
  stores.map fun p => .store .bits p.1 p.2.toNat

def registerStores (stores : List (ℕ × UInt16)) : List Access :=
  stores.map fun p => .store .registers p.1 p.2.toNat

section Requests

variable (b : Backend) (req : Mem UInt8) (sft : Sft) (address : ℕ) (mbMapping : Mapping)

def replyException (exceptionCode : ℕ) : Reply :=
  ⟨mbMapping, [], some (responseException b sft exceptionCode), false⟩

/-- The branches of `_FC_READ_COILS` and `_FC_READ_DISCRETE_INPUTS`. -/
def replyReadIoStatus (t : Table) (tab : Mem UInt8) : Reply :=
  let nb := word (req (b.headerLength + 3)) (req (b.headerLength + 4))
  if address + nb > mbMapping.size t then
    replyException b sft mbMapping modbusExceptionIllegalDataAddress
  else
    let (bytes, reads) := responseIoStatus address nb tab
    ⟨mbMapping, loads t reads,
      some (buildResponseBasis b sft ++
        UInt8.ofNat (nb / 8 + if nb % 8 ≠ 0 then 1 else 0) :: bytes), false⟩

/-- The branches of `_FC_READ_HOLDING_REGISTERS` and `_FC_READ_INPUT_REGISTERS`. -/
def replyReadRegisters (t : Table) (tab : Mem UInt16) : Reply :=
  let nb := word (req (b.headerLength + 3)) (req (b.headerLength + 4))
  if address + nb > mbMapping.size t then
    replyException b sft mbMapping modbusExceptionIllegalDataAddress
  else
    let (bytes, reads) := loadRegisters tab nb address
    ⟨mbMapping, loads t reads, some (buildResponseBasis b sft ++ UInt8.ofNat (nb <<< 1) :: bytes), false⟩

def replyWriteSingleCoil (reqLength : ℤ) : Reply :=
  if address ≥ mbMapping.nbBits then
    replyException b sft mbMapping modbusExceptionIllegalDataAddress
  else
    let data := word (req (b.headerLength + 3)) (req (b.headerLength + 4))
    if data = 0xFF00 ∨ data = 0x0 then
      let value : UInt8 := if data ≠ 0 then 1 else 0
      ⟨{ mbMapping with tabBits := mbMapping.tabBits.store address value },
        bitStores [(address, value)], some (req.slice 0 reqLength.toNat), decide (reqLength < 0)⟩
    else replyException b sft mbMapping modbusExceptionIllegalDataValue

def replyWriteSingleRegister (reqLength : ℤ) : Reply :=
  if address ≥ mbMapping.nbRegisters then
    replyException b sft mbMapping modbusExceptionIllegalDataAddress
  else
    let data := UInt16.ofNat (word (req (b.headerLength + 3)) (req (b.headerLength + 4)))
    ⟨{ mbMapping with tabRegisters := mbMapping.tabRegisters.store address data },
      registerStores [(address, data)], some (req.slice 0 reqLength.toNat), decide (reqLength < 0)⟩

def replyWriteMultipleCoils : Reply :=
  let nb := word (req (b.headerLength + 3)) (req (b.headerLength + 4))
  if address + nb > mbMapping.nbBits then
    replyException b sft mbMapping modbusExceptionIllegalDataAddress
  else
    let (tab, stores) :=
      modbusSetBitsFromBytes mbMapping.tabBits address nb fun k => req (b.headerLength + 6 + k)
    ⟨{ mbMapping with tabBits := tab }, bitStores stores,
      some (buildResponseBasis b sft ++ req.slice (b.headerLength + 1) 4), false⟩

def replyWriteMultipleRegisters : Reply :=
  let nb := word (req (b.headerLength + 3)) (req (b.headerLength + 4))
  if address + nb > mbMapping.nbRegisters then
    replyException b sft mbMapping modbusExceptionIllegalDataAddress
  else
    let (tab, stores) :=
      storeRegisters req nb address (b.headerLength + 6) mbMapping.tabRegisters
    ⟨{ mbMapping with tabRegisters := tab }, registerStores stores,
      some (buildResponseBasis b sft ++ req.slice (b.headerLength + 1) 4), false⟩

/-- `"LMB" LIBMODBUS_VERSION_STRING`. -/
def reportSlaveIdText : List UInt8 := [0x4C, 0x4D, 0x42, 0x33, 0x2E, 0x30, 0x2E, 0x31]

def replyReportSlaveId : Reply :=
  let data := reportSlaveId :: 0xFF :: reportSlaveIdText
  ⟨mbMapping, [], some (buildResponseBasis b sft ++ UInt8.ofNat data.length :: data), false⟩

def replyWriteAndReadRegisters : Reply :=
  let nb := word (req (b.headerLength + 3)) (req (b.headerLength + 4))
  let addressWrite := word (req (b.headerLength + 5)) (req (b.headerLength + 6))
  let nbWrite := word (req (b.headerLength + 7)) (req (b.headerLength + 8))
  if address + nb > mbMapping.nbRegisters ∨ addressWrite + nbWrite > mbMapping.nbRegisters then
    replyException b sft mbMapping modbusExceptionIllegalDataAddress
  else
    -- Write first, and read the data for the response from the table just written.
    let (tab, stores) :=
      storeRegisters req nbWrite addressWrite (b.headerLength + 10) mbMapping.tabRegisters
    let (bytes, reads) := loadRegisters tab nb address
    ⟨{ mbMapping with tabRegisters := tab }, registerStores stores ++ loads .registers reads,
      some (buildResponseBasis b sft ++ UInt8.ofNat (nb <<< 1) :: bytes), false⟩

end Requests

/-- `modbus_reply` up to `return send_msg(ctx, rsp, rsp_length)`. -/
def replyBuild (b : Backend) (req : Mem UInt8) (reqLength : ℤ) (mbMapping : Mapping) : Reply :=
  let slave := (req (b.headerLength - 1)).toNat
  let function := (req b.headerLength).toNat
  let address := word (req (b.headerLength + 1)) (req (b.headerLength + 2))
  let (tId, reqLength) := prepareResponseTid b req reqLength
  let sft : Sft := ⟨slave, function, tId⟩
  match function with
  | fcReadCoils => replyReadIoStatus b req sft address mbMapping .bits mbMapping.tabBits
  | fcReadDiscreteInputs =>
    replyReadIoStatus b req sft address mbMapping .inputBits mbMapping.tabInputBits
  | fcReadHoldingRegisters =>
    replyReadRegisters b req sft address mbMapping .registers mbMapping.tabRegisters
  | fcReadInputRegisters =>
    replyReadRegisters b req sft address mbMapping .inputRegisters mbMapping.tabInputRegisters
  | fcWriteSingleCoil => replyWriteSingleCoil b req sft address mbMapping reqLength
  | fcWriteSingleRegister => replyWriteSingleRegister b req sft address mbMapping reqLength
  | fcWriteMultipleCoils => replyWriteMultipleCoils b req sft address mbMapping
  | fcWriteMultipleRegisters => replyWriteMultipleRegisters b req sft address mbMapping
  | fcReportSlaveId => replyReportSlaveId b sft mbMapping
  | fcReadExceptionStatus => ⟨mbMapping, [], none, false⟩
  | fcWriteAndReadRegisters => replyWriteAndReadRegisters b req sft address mbMapping
  | _ => replyException b sft mbMapping modbusExceptionIllegalFunction

/-- What is undefined ends the program. -/
def modbusReply (req : Mem UInt8) (reqLength : ℤ) (mbMapping : Mapping) : M (ℤ × Reply) := do
  let ctx ← getCtx
  let reply := replyBuild ctx.backend req reqLength mbMapping
  if reply.undefined then Prog.stuck
  else match reply.rsp with
    | none => do
      setErrno .enoprotoopt
      return (-1, reply)
    | some rsp => do
      let (rc, _) ← sendMsg rsp
      return (rc, reply)

def modbusReplyException (req : Mem UInt8) (exceptionCode : ℕ) : M ℤ := do
  let ctx ← getCtx
  let b := ctx.backend
  let sft : Sft := ⟨(req (b.headerLength - 1)).toNat, (req b.headerLength).toNat + 0x80,
    (prepareResponseTid b req 99).1⟩
  if exceptionCode < modbusExceptionMax then do
    let (rc, _) ← sendMsg (buildResponseBasis b sft ++ [UInt8.ofNat exceptionCode])
    return rc
  else do
    setErrno .einval
    return -1

end Reply

end LibModbus
