import LibModbus.Client.Uses
import LibModbus.Model.Actor

/-! What the methods of a device do to the world of its context. -/

namespace LibModbus

open Library Library.Prog

namespace DeviceCall

/-- The call of the C library that a method makes once the device is connected. There is none where
the program stops before it, or has nothing to write. -/
def asks : DeviceCall → Option ClientCall
  | connect | disconnect => none
  | readInputCoilsFrom startAddress count _ =>
    if 0 ≤ count ∧ ModbusDevice.FitsInt32 startAddress ∧ ModbusDevice.FitsInt32 count then
      some (.readBits startAddress count)
    else none
  | readInputBitsFrom startAddress count _ =>
    if 0 ≤ count ∧ ModbusDevice.FitsInt32 startAddress ∧ ModbusDevice.FitsInt32 count then
      some (.readInputBits startAddress count)
    else none
  | writeInputCoil startAddress value _ =>
    if ModbusDevice.FitsInt32 startAddress then some (.writeBit startAddress (if value then 1 else 0))
    else none
  | readRegisters size startAddress count type _ _ =>
    let wordCount := (8 * size * count + 15).tdiv 16
    if 0 ≤ wordCount ∧ ModbusDevice.FitsInt32 startAddress ∧ ModbusDevice.FitsInt32 wordCount then
      some (if type = .input then .readInputRegisters startAddress wordCount
        else .readRegisters startAddress wordCount)
    else none
  | writeRegisters size startAddress arrayToWrite endianness rawPointer _ =>
    let wordCount := ModbusDevice.wordCount size arrayToWrite.length
    if arrayToWrite.length ≠ 0 ∧ ModbusDevice.FitsInt32 startAddress ∧
        ModbusDevice.FitsInt32 wordCount then
      some (.writeRegisters startAddress wordCount
        (ModbusDevice.registersToWrite arrayToWrite endianness rawPointer))
    else none

end DeviceCall

namespace ModbusDevice

variable {α : Type}

lemma int32_bind (x : ℤ) (f : ℤ → M α) :
    (int32 x >>= f) = if FitsInt32 x then f x else Prog.stuck := by
  unfold int32
  split_ifs <;> rfl

lemma readingBits_eq (read : ℤ → ℤ → Operation) (startAddress count : ℤ) (stack : Mem UInt8) :
    readingBits read startAddress count stack =
      if 0 ≤ count ∧ FitsInt32 startAddress ∧ FitsInt32 count then
        performing (read startAddress count) stack .couldNotRead fun buffer =>
          return (buffer.bits.slice 0 count.toNat).map fun flag => decide (flag ≠ 0)
      else Prog.stuck := by
  unfold readingBits
  rw [int32_bind]
  by_cases h0 : count < 0
  · rw [if_pos h0, if_neg fun h => absurd h.1 (not_le.mpr h0)]
  · simp only [h0, not_lt.mp h0, if_false, true_and, int32_bind]
    split_ifs <;> first | rfl | tauto

lemma writeInputCoilBody_eq (startAddress : ℤ) (value : Bool) (stack : Mem UInt8) :
    writeInputCoilBody startAddress value stack = if FitsInt32 startAddress then
        performing (modbusWriteBit startAddress (if value then 1 else 0)) stack .couldNotRead
          fun _ => return ()
      else Prog.stuck :=
  int32_bind _ _

lemma readRegistersBody_eq (size : ℕ) (startAddress count : ℤ) (type : ModbusRegisterType)
    (endianness : ModbusDeviceEndianness) (stack : Mem UInt8) :
    readRegistersBody size startAddress count type endianness stack =
      if 0 ≤ (8 * size * count + 15).tdiv 16 ∧ FitsInt32 startAddress ∧
          FitsInt32 ((8 * size * count + 15).tdiv 16) then
        performing (modbusfunction type startAddress ((8 * size * count + 15).tdiv 16)) stack .couldNotRead
          fun buffer =>
            if count < 0 then Prog.stuck
            else return registersRead size count.toNat endianness buffer.words
      else Prog.stuck := by
  unfold readRegistersBody
  generalize (8 * size * count + 15).tdiv 16 = nb
  by_cases h0 : nb < 0
  · rw [if_pos h0, if_neg fun h => absurd h.1 (not_le.mpr h0)]
  · simp only [h0, not_lt.mp h0, if_false, true_and, int32_bind]
    split_ifs <;> first | rfl | tauto

lemma writeRegistersBody_eq {size : ℕ} (startAddress : ℤ) (arrayToWrite : List (BitVec (8 * size)))
    (endianness : ModbusDeviceEndianness) (rawPointer stack : Mem UInt8)
    (h : arrayToWrite.length ≠ 0) :
    writeRegistersBody startAddress arrayToWrite endianness rawPointer stack =
      if FitsInt32 startAddress ∧ FitsInt32 (wordCount size arrayToWrite.length) then
        performing (modbusWriteRegisters startAddress (wordCount size arrayToWrite.length)
          (registersToWrite arrayToWrite endianness rawPointer)) stack .couldNotWrite fun _ => return ()
      else Prog.stuck := by
  unfold writeRegistersBody
  generalize ((wordCount size arrayToWrite.length : ℕ) : ℤ) = nb
  simp only [h, if_false, int32_bind]
  split_ifs <;> first | rfl | tauto

lemma modbusfunction_eq (type : ModbusRegisterType) (startAddress nb : ℤ) :
    (if type = .input then ClientCall.readInputRegisters startAddress nb
      else .readRegisters startAddress nb).operation = modbusfunction type startAddress nb := by
  unfold modbusfunction
  split_ifs <;> rfl

section Performing

variable {op : Operation} {stack : Mem UInt8} {failure : Errno → ModbusError} {value : Dest → M α}
  {w w' : World}

lemma performing_blocked (h : op.run stack emptyBuffer w = .blocked w') :
    performing op stack failure value w = .blocked w' :=
  bind_blocked h _

variable {rc : ℤ} {buffer : Dest}

lemma performing_done (h : op.run stack emptyBuffer w = .done (rc, buffer) w') (hrc : 0 ≤ rc)
    {a : α} (hv : value buffer w' = .done a w') :
    performing op stack failure value w = .done (.ok a) w' := by
  rw [performing, bind_done h]
  dsimp only
  rw [if_pos hrc, bind_done hv]
  rfl

lemma performing_failed (h : op.run stack emptyBuffer w = .done (rc, buffer) w') (hrc : ¬0 ≤ rc) :
    performing op stack failure value w = .done (.error (failure w'.errno)) w' := by
  rw [performing, bind_done h]
  dsimp only
  rw [if_neg hrc, bind_getErrno]
  rfl

end Performing

section Registers

variable {size : ℕ} {startAddress : ℤ}

lemma wordCount_cast (size count : ℕ) :
    (8 * (size : ℤ) * (count : ℤ) + 15).tdiv 16 = (wordCount size count : ℕ) := by
  rw [Int.tdiv_eq_ediv_of_nonneg (by positivity), wordCount]
  push_cast
  rfl

lemma readRegistersBody_performing {count : ℕ} (h : FitsInt32 startAddress)
    (hn : FitsInt32 (wordCount size count)) (type : ModbusRegisterType)
    (endianness : ModbusDeviceEndianness) (stack : Mem UInt8) :
    readRegistersBody size startAddress count type endianness stack =
      performing (modbusfunction type startAddress (wordCount size count)) stack .couldNotRead
        fun buffer => return registersRead size count endianness buffer.words := by
  have hcount : ¬(count : ℤ) < 0 := by omega
  rw [readRegistersBody_eq, wordCount_cast, if_pos ⟨by omega, h, hn⟩]
  simp only [hcount, if_false, Int.toNat_natCast]

lemma readFloatingPointsBody_performing {count : ℕ} (h : FitsInt32 startAddress)
    (hn : FitsInt32 (wordCount size count)) (type : ModbusRegisterType)
    (endianness : ModbusDeviceEndianness) (stack : Mem UInt8) :
    readFloatingPointsBody size startAddress count type endianness stack = (do
      let result ← performing (modbusfunction type startAddress (wordCount size count)) stack
        .couldNotRead fun buffer => return floatingPointsRead size count endianness buffer.words
      match result with
      | .error e => return .error (.device e)
      | .ok values => return values) := by
  have hcount : ¬(count : ℤ) < 0 := by omega
  have hwords : ((size : ℤ) * 8 * (count : ℤ) + 15).tdiv 16 = (wordCount size count : ℕ) := by
    rw [mul_comm (size : ℤ), wordCount_cast]
  unfold readFloatingPointsBody
  simp only [hwords, hcount, if_false, Int.toNat_natCast]
  rw [if_neg (by omega), int32_bind, if_pos h, int32_bind]
  exact if_pos hn

end Registers

end ModbusDevice

def DeviceCall.Does (c : DeviceCall) {α : Type} (body : M (Except ModbusError α)) : Prop :=
  match c.asks with
  | none => body = Prog.stuck ∨ ∃ r, body = pure r
  | some call => ∃ stack failure value,
    body = ModbusDevice.performing call.operation stack failure value ∧
      ∀ buffer, value buffer = Prog.stuck ∨ ∃ v, value buffer = pure v

def DeviceCall.IsOperation (c : DeviceCall) : Prop :=
  ∃ (α : Type) (body : M (Except ModbusError α)),
    c.run = (Actor.operation body >>= fun _ => pure ()) ∧ c.Does body

section Does

variable {c : DeviceCall} {α : Type} {body : M (Except ModbusError α)}

lemma DeviceCall.does_of {p : Prop} [Decidable p] (call : ClientCall) {stack : Mem UInt8}
    {failure : Errno → ModbusError} {value : Dest → M α}
    (ha : c.asks = if p then some call else none)
    (hb : body = if p then ModbusDevice.performing call.operation stack failure value else Prog.stuck)
    (hv : ∀ buffer, value buffer = Prog.stuck ∨ ∃ v, value buffer = pure v) : c.Does body := by
  unfold Does
  rw [ha, hb]
  split_ifs
  · exact ⟨stack, failure, value, rfl, hv⟩
  · exact .inl rfl

end Does

lemma DeviceCall.cases (c : DeviceCall) : c = .connect ∨ c = .disconnect ∨ c.IsOperation := by
  cases c with
  | connect => exact .inl rfl
  | disconnect => exact .inr (.inl rfl)
  | readInputCoilsFrom startAddress count stack =>
    refine .inr (.inr ⟨_, _, rfl, does_of (.readBits startAddress count) rfl
      (ModbusDevice.readingBits_eq _ _ _ _) fun _ => ?_⟩)
    exact .inr ⟨_, rfl⟩
  | readInputBitsFrom startAddress count stack =>
    refine .inr (.inr ⟨_, _, rfl, does_of (.readInputBits startAddress count) rfl
      (ModbusDevice.readingBits_eq _ _ _ _) fun _ => ?_⟩)
    exact .inr ⟨_, rfl⟩
  | writeInputCoil startAddress value stack =>
    refine .inr (.inr ⟨_, _, rfl, does_of (.writeBit startAddress (if value then 1 else 0)) rfl
      (ModbusDevice.writeInputCoilBody_eq _ _ _) fun _ => ?_⟩)
    exact .inr ⟨_, rfl⟩
  | readRegisters size startAddress count type endianness stack =>
    have hb := ModbusDevice.readRegistersBody_eq size startAddress count type endianness stack
    rw [← ModbusDevice.modbusfunction_eq] at hb
    refine .inr (.inr ⟨_, _, rfl, does_of _ rfl hb fun _ => ?_⟩)
    split_ifs
    · exact .inl rfl
    · exact .inr ⟨_, rfl⟩
  | writeRegisters size startAddress arrayToWrite endianness rawPointer stack =>
    refine .inr (.inr ⟨_, _, rfl, ?_⟩)
    by_cases hlen : arrayToWrite.length = 0
    · rw [Does, asks, if_neg (by simp [hlen]), ModbusDevice.writeRegistersBody, if_pos hlen]
      exact .inr ⟨_, rfl⟩
    · have hb := ModbusDevice.writeRegistersBody_eq startAddress arrayToWrite endianness rawPointer stack hlen
      refine does_of (.writeRegisters startAddress (ModbusDevice.wordCount size arrayToWrite.length)
        (ModbusDevice.registersToWrite arrayToWrite endianness rawPointer)) ?_ hb fun _ => .inr ⟨_, rfl⟩
      simp only [asks, ne_eq, hlen, not_false_eq_true, true_and]

lemma DeviceCall.Does.maintains {I B : World → Prop} [Attached I B] {c : DeviceCall} {α : Type}
    {body : M (Except ModbusError α)} (h : c.Does body) (hleaves : ∀ call ∈ c.asks, Leaves I call) :
    Maintains I B body := by
  have hstuck {β : Type} : Maintains I B (Prog.stuck : M β) := .stuck (Bound.left (I := I))
  unfold Does at h
  cases ha : c.asks with
  | none =>
    rw [ha] at h
    rcases h with rfl | ⟨r, rfl⟩
    · exact hstuck
    · exact .pure r
  | some call =>
    rw [ha] at h
    obtain ⟨stack, failure, value, rfl, hvalue⟩ := h
    refine .bind ((hleaves call ha).run stack _) ?_
    rintro ⟨rc, buffer⟩
    refine .ite (.bind ?_ fun _ => .pure _) (.bind Attached.getErrno fun _ => .pure _)
    rcases hvalue buffer with hv | ⟨v, hv⟩
    · rw [hv]
      exact hstuck
    · rw [hv]
      exact .pure v

end LibModbus
