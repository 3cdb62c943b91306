import LibModbus.Library.Heap
import LibModbus.Model.Network
import LibModbus.Model.Reply

/-! What `malloc()` hands out to the library: register tables and contexts. -/

namespace LibModbus

open Library Library.Heap

/-- `modbus_mapping_t`. What was not assigned yet is `none`. -/
structure MappingFields where
  nb : Table → Option ℤ
  tab : Table → Option ℕ

/-- `modbus_rtu_t` without the data that `modbus_connect` and later calls write. -/
structure ModbusRtu where
  device : Mem UInt8
  baud : Option ℤ
  parity : Option UInt8
  dataBit : Option UInt8
  stopBit : Option UInt8

structure ModbusTcpPi where
  node : Mem UInt8
  service : Mem UInt8

inductive Block where
  | uninit (size : ℕ)
  | mapping (fields : MappingFields)
  | bits (tab : List UInt8)
  | registers (tab : List UInt16)
  | context (ctx : Modbus) (backendData : Option ℕ)
  | rtu (data : ModbusRtu)
  | tcp (ip : Mem UInt8) (port : Option ℤ)
  | tcpPi (data : ModbusTcpPi)

inductive CharArray where
  | device
  | ip
  | node
  | service
  deriving DecidableEq, Repr

namespace Block

def fields : Block → Option MappingFields
  | mapping fields => some fields
  | _ => none

def isEntry (i : ℕ) : Block → Option Unit
  | bits tab => if i < tab.length then some () else none
  | registers tab => if i < tab.length then some () else none
  | _ => none

def set (i value : ℕ) : Block → Option Block
  | bits tab => if i < tab.length then some (bits (tab.set i (UInt8.ofNat value))) else none
  | registers tab => if i < tab.length then some (registers (tab.set i (UInt16.ofNat value))) else none
  | _ => none

def array : CharArray → Block → Option (Mem UInt8)
  | .device, rtu data => some data.device
  | .ip, tcp ip _ => some ip
  | .node, tcpPi data => some data.node
  | .service, tcpPi data => some data.service
  | _, _ => none

def setArray (m : Mem UInt8) : CharArray → Block → Block
  | .device, rtu data => rtu { data with device := m }
  | .ip, tcp _ port => tcp m port
  | .node, tcpPi data => tcpPi { data with node := m }
  | .service, tcpPi data => tcpPi { data with service := m }
  | _, block => block

def init (made : Modbus) : Block → Option Block
  | uninit _ => some (context made none)
  | _ => none

def setData (data : ℕ) : Block → Option Block
  | context made _ => some (context made (some data))
  | _ => none

def data : Block → Option ℕ
  | context _ data => data
  | _ => none

def mapRtu (f : ModbusRtu → ModbusRtu) : Block → Option Block
  | rtu data => some (rtu (f data))
  | _ => none

def setPort (port : ℤ) : Block → Option Block
  | tcp ip _ => some (tcp ip (some port))
  | _ => none

end Block

namespace Table

def sizeof : Table → ℕ
  | bits | inputBits => 1
  | inputRegisters | registers => 2

/-- What `memset()` to zero makes of `nb` entries. -/
def zeros : Table → ℕ → Block
  | bits, nb | inputBits, nb => .bits (List.replicate nb 0)
  | inputRegisters, nb | registers, nb => .registers (List.replicate nb 0)

def clear (t : Table) (size : ℕ) : Block → Option Block
  | .uninit n => if n = size then some (t.zeros (size / t.sizeof)) else none
  | _ => none

/-- `nb * sizeof(…)`, where the product is a `size_t`. -/
def size (t : Table) (nb : ℤ) : ℕ := (nb * t.sizeof % 2 ^ 64).toNat

end Table

section Mappings

def setNb (mb : ℕ) (t : Table) (nb : ℤ) : Prog (Heap Block) Unit :=
  modify mb fun block => block.fields.map fun f => .mapping { f with nb := Function.update f.nb t (some nb) }

def setTab (mb : ℕ) (t : Table) (p : ℕ) : Prog (Heap Block) Unit :=
  modify mb fun block => block.fields.map fun f => .mapping { f with tab := Function.update f.tab t (some p) }

def getNb (mb : ℕ) (t : Table) : Prog (Heap Block) ℤ := load mb fun block => block.fields.bind fun f => f.nb t

def getTab (mb : ℕ) (t : Table) : Prog (Heap Block) ℕ := load mb fun block => block.fields.bind fun f => f.tab t

/-- `memset(p, 0, size)` over all of a new block that is a table from there on. -/
def memset (p : ℕ) (t : Table) (size : ℕ) : Prog (Heap Block) Unit := modify p (t.clear size)

/-- The tables in the order in which they are freed, and the structure after them. -/
def freeTables (mb : ℕ) : List Table → Prog (Heap Block) Unit
  | [] => free mb
  | t :: ts => do
    let p ← getTab mb t
    free p
    freeTables mb ts

/-- One table of `modbus_mapping_new`. Without memory for it, those made before are freed. -/
def newTable (A : Allocator Block) (mb : ℕ) (t : Table) (nb : ℤ) (made : List Table)
    (next : Prog (Heap Block) ℕ) : Prog (Heap Block) ℕ := do
  setNb mb t nb
  if nb = 0 then do
    setTab mb t null
    next
  else do
    let p ← malloc A (t.size nb) (.uninit (t.size nb))
    setTab mb t p
    if p = null then do
      freeTables mb made
      return null
    else do
      memset p t (t.size nb)
      next

def sizeofMapping : ℕ := 48

def modbusMappingNew (A : Allocator Block) (nbBits nbInputBits nbRegisters nbInputRegisters : ℤ) :
    Prog (Heap Block) ℕ := do
  let mb ← malloc A sizeofMapping (.mapping ⟨fun _ => none, fun _ => none⟩)
  if mb = null then return null
  else
    newTable A mb .bits nbBits [] <|
    newTable A mb .inputBits nbInputBits [.bits] <|
    newTable A mb .registers nbRegisters [.inputBits, .bits] <|
    newTable A mb .inputRegisters nbInputRegisters [.registers, .inputBits, .bits] <|
    return mb

def modbusMappingFree (mb : ℕ) : Prog (Heap Block) Unit :=
  if mb = null then return ()
  else freeTables mb [.inputRegisters, .registers, .inputBits, .bits]

end Mappings

section Tables

def loadBits (mb : ℕ) (t : Table) : Prog (Heap Block) (Mem UInt8) := do
  let p ← getTab mb t
  if p = null then return fun _ => 0
  else load p fun
    | .bits tab => some fun i => tab.getD i 0
    | _ => none

def loadWords (mb : ℕ) (t : Table) : Prog (Heap Block) (Mem UInt16) := do
  let p ← getTab mb t
  if p = null then return fun _ => 0
  else load p fun
    | .registers tab => some fun i => tab.getD i 0
    | _ => none

def loadMapping (mb : ℕ) : Prog (Heap Block) Mapping := do
  let nbBits ← getNb mb .bits
  let nbInputBits ← getNb mb .inputBits
  let nbInputRegisters ← getNb mb .inputRegisters
  let nbRegisters ← getNb mb .registers
  let tabBits ← loadBits mb .bits
  let tabInputBits ← loadBits mb .inputBits
  let tabInputRegisters ← loadWords mb .inputRegisters
  let tabRegisters ← loadWords mb .registers
  return ⟨nbBits.toNat, nbInputBits.toNat, nbInputRegisters.toNat, nbRegisters.toNat,
    tabBits, tabInputBits, tabInputRegisters, tabRegisters⟩

def perform (mb : ℕ) : Access → Prog (Heap Block) Unit
  | .load t i => do
    let p ← getTab mb t
    load p (Block.isEntry i)
  | .store t i value => do
    let p ← getTab mb t
    modify p (Block.set i value)

def performAll (mb : ℕ) : List Access → Prog (Heap Block) Unit
  | [] => pure ()
  | a :: as => do
    perform mb a
    performAll mb as

/-- Whether a response runs past the end of `rsp`, where `send_msg` also puts the checksum. -/
def Reply.Overruns (b : Backend) (reply : Reply) : Prop :=
  ∃ rsp ∈ reply.rsp, maxMessageLength < (sendMsgPre b rsp).length

instance (b : Backend) (reply : Reply) : Decidable (reply.Overruns b) := by
  unfold Reply.Overruns
  infer_instance

/-- `modbus_reply` up to `send_msg`, with the accesses it makes to the tables. -/
def replyFrom (mb : ℕ) (b : Backend) (req : Mem UInt8) (reqLength : ℤ) :
    Prog (Heap Block) (Option (List UInt8)) := do
  let mapping ← loadMapping mb
  let reply := replyBuild b req reqLength mapping
  performAll mb reply.accesses
  if reply.undefined ∨ reply.Overruns b then Prog.stuck
  else return reply.rsp

end Tables

section Copies

/-- The `do`-`while` loop of the `strlcpy` of modbus.c, with `n` as it is when a turn starts. `dest` and `src` are
at the same index `i`. It ends with what is left of `n` and of `src`, and with the index. -/
def strlcpyLoop : ℕ → ℕ → List UInt8 → Mem UInt8 → ℕ × ℕ × List UInt8 × Mem UInt8
  | n + 1, i, c :: cs, dest =>
    if c = 0 then (n + 1, i + 1, cs, dest.store i c) else strlcpyLoop n (i + 1) cs (dest.store i c)
  | n, i, cs, dest => (n, i, cs, dest)

/-- `while (*s++);` from `s` on. -/
def traverse : List UInt8 → ℕ
  | [] => 0
  | c :: cs => if c = 0 then 1 else 1 + traverse cs

/-- `strlcpy` of modbus.c, where the system has none. -/
def strlcpyPortable (dest : Mem UInt8) (src : List UInt8) (destSize : ℕ) : Mem UInt8 × ℕ :=
  let (n, i, rest, copied) :=
    if destSize ≠ 0 ∧ destSize - 1 ≠ 0 then strlcpyLoop (destSize - 1) 0 (src ++ [0]) dest
    else (destSize - 1, 0, src ++ [0], dest)
  if n = 0 then (if destSize ≠ 0 then copied.store i 0 else copied, i + traverse rest - 1)
  else (copied, i - 1)

end Copies

section Contexts

/-- Without the null character that ends it. -/
structure CString where
  val : List UInt8
  noNull : 0 ∉ val

/-- `_modbus_init_common` and what else a constructor assigns before it allocates the backend data. -/
def initCommon (ctx : ℕ) (made : Modbus) : Prog (Heap Block) Unit := modify ctx (Block.init made)

def setBackendData (ctx data : ℕ) : Prog (Heap Block) Unit := modify ctx (Block.setData data)

def getBackendData (ctx : ℕ) : Prog (Heap Block) ℕ := load ctx Block.data

def modbusFree (ctx : ℕ) : Prog (Heap Block) Unit :=
  if ctx = null then return ()
  else do
    let data ← getBackendData ctx
    free data
    free ctx

/-- `modbus_free(ctx); errno = EINVAL; return NULL`. -/
def refuse (ctx : ℕ) : Prog (Heap Block) (Except Errno ℕ) := do
  modbusFree ctx
  return .error .einval

def copyInto (data : ℕ) (field : CharArray) (src : CString) (destSize : ℕ) : Prog (Heap Block) ℕ := do
  let array ← load data (Block.array field)
  modify data fun block => some (block.setArray (strlcpy array src.val destSize).1 field)
  return (strlcpy array src.val destSize).2

/-- A string is copied into the backend data, and the constructor goes on if there is one that fits. -/
def withString (ctx data : ℕ) (field : CharArray) (src : CString) (destSize : ℕ)
    (next : Prog (Heap Block) (Except Errno ℕ)) : Prog (Heap Block) (Except Errno ℕ) := do
  let retSize ← copyInto data field src destSize
  if retSize = 0 then refuse ctx
  else if retSize ≥ destSize then refuse ctx
  else next

/-- The length of `device` and the size of `modbus_rtu_t`, which differ between systems. -/
structure Platform where
  room : ℕ
  sizeofRtu : ℕ
  bounded : sizeofRtu < 2 ^ 63

def sizeofModbus : ℕ := 64

def sizeofTcp : ℕ := 24

def sizeofTcpPi : ℕ := 1068

/-- What the constructors start with. `malloc()` is not checked: where it fails the pointer is followed. -/
def allocateContext (A : Allocator Block) (made : Modbus) (sizeofData : ℕ) (found : Block)
    (next : ℕ → ℕ → Prog (Heap Block) (Except Errno ℕ)) : Prog (Heap Block) (Except Errno ℕ) := do
  let ctx ← malloc A sizeofModbus (.uninit sizeofModbus)
  initCommon ctx made
  let data ← malloc A sizeofData found
  setBackendData ctx data
  next ctx data

def isParity (parity : UInt8) : Prop := parity = 78 ∨ parity = 69 ∨ parity = 79

instance (parity : UInt8) : Decidable (isParity parity) := by
  unfold isParity
  infer_instance

section Constructors

variable (A : Allocator Block) (platform : Platform) (found : CharArray → Mem UInt8)

/-- `modbus_new_rtu`. -/
def mallocRtu (device : CString) (baud : ℤ) (parity : UInt8) (dataBit stopBit : ℤ) :
    Prog (Heap Block) (Except Errno ℕ) :=
  allocateContext A modbusNewRtu platform.sizeofRtu (.rtu ⟨found .device, none, none, none, none⟩) fun ctx data =>
    withString ctx data .device device platform.room do
      modify data (Block.mapRtu fun rtu => { rtu with baud := some baud })
      if isParity parity then do
        modify data (Block.mapRtu fun rtu => { rtu with parity := some parity })
        modify data (Block.mapRtu fun rtu =>
          { rtu with dataBit := some (UInt8.ofInt dataBit), stopBit := some (UInt8.ofInt stopBit) })
        return .ok ctx
      else refuse ctx

/-- `modbus_new_tcp`. -/
def mallocTcp (ip : CString) (port : ℤ) : Prog (Heap Block) (Except Errno ℕ) :=
  allocateContext A modbusNewTcp sizeofTcp (.tcp (found .ip) none) fun ctx data =>
    withString ctx data .ip ip 16 do
      modify data (Block.setPort port)
      return .ok ctx

/-- `modbus_new_tcp_pi`. -/
def mallocTcpPi (node service : CString) : Prog (Heap Block) (Except Errno ℕ) :=
  allocateContext A modbusNewTcpPi sizeofTcpPi (.tcpPi ⟨found .node, found .service⟩) fun ctx data =>
    withString ctx data .node node 1025 <|
    withString ctx data .service service 32 <|
    return .ok ctx

end Constructors

end Contexts

end LibModbus
