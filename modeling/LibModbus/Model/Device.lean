import LibModbus.Library.Bytes
import LibModbus.Model.Client

/-! The methods of the Swift actor `ModbusDevice` on a little-endian host, behind `connectWhenNeeded`. A
value of `FixedWidthInteger` is its bits, `size` bytes of them. -/

namespace LibModbus

open Library

inductive ModbusError where
  | couldNotCreateDevice (error : Option Errno)
  | couldNotConnect (error : Errno)
  | couldNotRead (error : Errno)
  | couldNotWrite (error : Errno)
  deriving DecidableEq, Repr

inductive ModbusRegisterType where
  | coil
  | discrete
  | holding
  | input
  deriving DecidableEq, Repr

inductive ModbusDeviceEndianness where
  | bigEndian
  | littleEndian
  deriving DecidableEq, Repr

namespace ModbusDevice

section Memory

variable {size : ℕ}

/-- `bigEndian` of an integer on a little-endian host. -/
def bigEndian (v : BitVec (8 * size)) : BitVec (8 * size) := byteSwapped v

def convertBigEndian (size count : ℕ) (typedPointer : Mem UInt8) : Mem UInt8 :=
  (List.range count).foldl
    (fun typedPointer i => typedPointer.storeInt i (bigEndian (typedPointer.loadInt size i))) typedPointer

def wordCount (size count : ℕ) : ℕ := (8 * size * count + 15) / 16

def uint16Pointer (rawPointer : Mem UInt8) : Mem UInt16 := fun i => .ofBitVec (rawPointer.loadInt 2 i)

def rawBytes (uint16Pointer : Mem UInt16) : Mem UInt8 := fun j =>
  @byteOf 2 (uint16Pointer (j / 2)).toBitVec (j % 2)

/-- The registers that `writeRegisters` hands to `modbus_write_registers`, in memory that held
anything when it was allocated. -/
def registersToWrite (arrayToWrite : List (BitVec (8 * size))) (endianness : ModbusDeviceEndianness)
    (rawPointer : Mem UInt8) : Mem UInt16 :=
  let count := arrayToWrite.length
  let cleanLast := @Mem.storeInt 2 rawPointer (wordCount size count - 1) 0
  let rawPointer := cleanLast.write 0 (Mem.ofInts arrayToWrite)
  let rawPointer := match endianness with
    | .bigEndian => convertBigEndian 2 (wordCount size count) (convertBigEndian size count rawPointer)
    | .littleEndian => rawPointer
  uint16Pointer rawPointer

/-- The array that `readRegisters` makes of the registers it received. -/
def registersRead (size count : ℕ) (endianness : ModbusDeviceEndianness) (uint16Pointer : Mem UInt16) :
    List (BitVec (8 * size)) :=
  let rawPointer := rawBytes uint16Pointer
  let returnPointer := match endianness with
    | .bigEndian => convertBigEndian size count (convertBigEndian 2 (wordCount size count) rawPointer)
    | .littleEndian => rawPointer
  (List.range count).map (returnPointer.loadInt size)

/-- `couldNotRead` with the text of an errno, or with one of its own. -/
inductive ReadError where
  | device (error : ModbusError)
  | couldNotRead (error : String)
  deriving DecidableEq, Repr

/-- The overload for raw memory. -/
def convertBigEndianRaw (rawPointer : Mem UInt8) (elementSize count : ℕ) :
    Except ReadError (Mem UInt8) :=
  match elementSize with
  | 1 => .ok rawPointer
  | 2 => .ok (convertBigEndian 2 count rawPointer)
  | 4 => .ok (convertBigEndian 4 count rawPointer)
  | 8 => .ok (convertBigEndian 8 count rawPointer)
  | 16 => .ok (convertBigEndian 16 count rawPointer)
  | _ => .error (.couldNotRead ("convertBigEndian: unknown elementSize " ++ toString elementSize))

def floatingPointWordCount (size count : ℕ) : ℕ := (size * 8 * count + 15) / 16

/-- The array that the `FloatingPoint` overload of `readRegisters` makes of the registers it received.
A value is its bits again. -/
def floatingPointsRead (size count : ℕ) (endianness : ModbusDeviceEndianness)
    (uint16Pointer : Mem UInt16) : Except ReadError (List (BitVec (8 * size))) := do
  let rawPointer := rawBytes uint16Pointer
  let returnPointer ← match endianness with
    | .bigEndian =>
      convertBigEndianRaw (convertBigEndian 2 (floatingPointWordCount size count) rawPointer) size count
    | .littleEndian => .ok rawPointer
  return (List.range count).map (returnPointer.loadInt size)

end Memory

section Methods

def emptyBuffer : Dest := ⟨fun _ => 0, fun _ => 0⟩

def modbusfunction (type : ModbusRegisterType) (startAddress nb : ℤ) : Operation :=
  if type = .input then modbusReadInputRegisters startAddress nb
  else modbusReadRegisters startAddress nb

def FitsInt32 (x : ℤ) : Prop := -2147483648 ≤ x ∧ x < 2147483648

instance (x : ℤ) : Decidable (FitsInt32 x) := inferInstanceAs (Decidable (_ ∧ _))

/-- `Int32()`, which stops the program when the value does not fit. -/
def int32 (x : ℤ) : M ℤ := if FitsInt32 x then pure x else Prog.stuck

def performing {α : Type} (op : Operation) (stack : Mem UInt8) (failure : Errno → ModbusError)
    (value : Dest → M α) : M (Except ModbusError α) := do
  let (rc, buffer) ← op.run stack emptyBuffer
  if rc ≥ 0 then do
    let v ← value buffer
    return .ok v
  else do
    let e ← getErrno
    return .error (failure e)

/-- An array cannot have a negative count. -/
def readingBits (read : ℤ → ℤ → Operation) (startAddress count : ℤ) (stack : Mem UInt8) :
    M (Except ModbusError (List Bool)) := do
  if count < 0 then Prog.stuck
  else do
    let addr ← int32 startAddress
    let nb ← int32 count
    performing (read addr nb) stack .couldNotRead fun buffer =>
      return (buffer.bits.slice 0 count.toNat).map (· ≠ 0)

def readInputCoilsBody : ℤ → ℤ → Mem UInt8 → M (Except ModbusError (List Bool)) :=
  readingBits modbusReadBits

def readInputBitsBody : ℤ → ℤ → Mem UInt8 → M (Except ModbusError (List Bool)) :=
  readingBits modbusReadInputBits

/-- A failed write is reported as a failed read. -/
def writeInputCoilBody (startAddress : ℤ) (value : Bool) (stack : Mem UInt8) :
    M (Except ModbusError Unit) := do
  let addr ← int32 startAddress
  performing (modbusWriteBit addr (if value then 1 else 0)) stack .couldNotRead fun _ => return ()

/-- Memory of a negative size cannot be allocated, and an array cannot have a negative count. -/
def readRegistersBody (size : ℕ) (startAddress count : ℤ) (type : ModbusRegisterType)
    (endianness : ModbusDeviceEndianness) (stack : Mem UInt8) :
    M (Except ModbusError (List (BitVec (8 * size)))) := do
  let wordCount := (8 * size * count + 15).tdiv 16
  if wordCount < 0 then Prog.stuck
  else do
    let addr ← int32 startAddress
    let nb ← int32 wordCount
    performing (modbusfunction type addr nb) stack .couldNotRead fun buffer =>
      if count < 0 then Prog.stuck else return registersRead size count.toNat endianness buffer.words

/-- The overload for `FloatingPoint` values. It can also throw behind the C function. -/
def readFloatingPointsBody (size : ℕ) (startAddress count : ℤ) (type : ModbusRegisterType)
    (endianness : ModbusDeviceEndianness) (stack : Mem UInt8) :
    M (Except ReadError (List (BitVec (8 * size)))) := do
  let wordCount := (size * 8 * count + 15).tdiv 16
  if wordCount < 0 then Prog.stuck
  else do
    let addr ← int32 startAddress
    let nb ← int32 wordCount
    let result ← performing (modbusfunction type addr nb) stack .couldNotRead fun buffer =>
      if count < 0 then Prog.stuck
      else return floatingPointsRead size count.toNat endianness buffer.words
    match result with
    | .error e => return .error (.device e)
    | .ok values => return values

/-- `rawPointer` is what the memory held when it was allocated. -/
def writeRegistersBody {size : ℕ} (startAddress : ℤ) (arrayToWrite : List (BitVec (8 * size)))
    (endianness : ModbusDeviceEndianness) (rawPointer stack : Mem UInt8) :
    M (Except ModbusError Unit) := do
  if arrayToWrite.length = 0 then return .ok ()
  else do
    let addr ← int32 startAddress
    let nb ← int32 (wordCount size arrayToWrite.length)
    performing (modbusWriteRegisters addr nb (registersToWrite arrayToWrite endianness rawPointer)) stack
      .couldNotWrite fun _ => return ()

end Methods

section Strings

def cr : Char := .ofNat 0x0D

def lf : Char := .ofNat 0x0A

/-- The Characters of a string of ASCII scalars: only CR LF is one of two scalars. -/
def characters : List Char → List (List Char)
  | [] => []
  | [c] => [[c]]
  | c :: d :: rest =>
    if c = cr ∧ d = lf then [c, d] :: characters rest else [c] :: characters (d :: rest)

def asciiValue : List Char → Option UInt8
  | [c] => if c.toNat < 128 then some (UInt8.ofNat c.toNat) else none
  | [c, d] => if c = cr ∧ d = lf then some 0x0A else none
  | _ => none

/-- The loop that fills the buffer. An index outside of it traps. -/
def fillValues : ℕ → List (List Char) → List UInt8 → Option (List UInt8)
  | _, [], values => some values
  | index, character :: rest, values =>
    if index < values.length then
      fillValues (index + 1) rest (values.set index ((asciiValue character).getD 0))
    else none

/-- The buffer that `writeASCIIString` writes. -/
def asciiValues (count : ℕ) (string : List Char) : Option (List UInt8) :=
  fillValues 0 (characters string) (List.replicate count 0)

def validCharacters (values : List UInt8) : List UInt8 := values.take (values.findIdx (· = 0))

def asciiString (values : List UInt8) : List Char :=
  (validCharacters values).map fun value => .ofNat value.toNat

def readASCIIStringBody (startAddress count : ℤ) (type : ModbusRegisterType)
    (endianness : ModbusDeviceEndianness) (stack : Mem UInt8) : M (Except ModbusError (List Char)) := do
  let result ← readRegistersBody 1 startAddress count type endianness stack
  return result.map fun values => asciiString (values.map .ofBitVec)

/-- An array cannot have a negative count. The buffer is filled before the device is connected. -/
def writeASCIIStringBody (startAddress count : ℤ) (string : List Char)
    (endianness : ModbusDeviceEndianness) (rawPointer stack : Mem UInt8) :
    M (Except ModbusError Unit) :=
  if count < 0 then Prog.stuck
  else match asciiValues count.toNat string with
    | none => Prog.stuck
    | some values =>
      @writeRegistersBody 1 startAddress (values.map UInt8.toBitVec) endianness rawPointer stack

end Strings

end ModbusDevice

end LibModbus
