import LibModbus.Bank.Answering
import LibModbus.Device.Methods

/-! Integers that go through registers and come back. -/

namespace LibModbus.ModbusDevice

open Library Library.Prog

section Conversion

variable {size count : ℕ}

lemma convertBigEndian_succ (m : Mem UInt8) : convertBigEndian size (count + 1) m =
    (convertBigEndian size count m).storeInt count
      (bigEndian ((convertBigEndian size count m).loadInt size count)) := by
  rw [convertBigEndian, List.range_succ, List.foldl_append]
  rfl

lemma convertBigEndian_apply (m : Mem UInt8) (j : ℕ) : convertBigEndian size count m j =
    if j < size * count then m (mirror size j) else m j := by
  induction count generalizing j with
  | zero => rfl
  | succ n ih =>
    rw [convertBigEndian_succ, Mem.storeInt, Nat.mul_succ]
    by_cases hlast : size * n ≤ j ∧ j < size * n + size
    · -- the element that this turn converts
      obtain ⟨k, rfl⟩ := Nat.exists_eq_add_of_le hlast.1
      have hk : k < size := by omega
      have hmirror : mirror size (size * n + k) = size * n + (size - 1 - k) := by
        rw [mirror, Nat.mul_add_div (by omega), Nat.div_eq_of_lt hk, Nat.mul_add_mod,
          Nat.mod_eq_of_lt hk, Nat.add_zero]
      rw [if_pos hlast, if_pos hlast.2, Nat.add_sub_cancel_left, bigEndian, byteOf_byteSwapped _ hk,
        Mem.byteOf_loadInt _ _ (by omega), hmirror, ih, if_neg (by omega)]
    · rw [if_neg hlast, ih]
      have hiff : j < size * n ↔ j < size * n + size := by omega
      simp only [hiff]

lemma two_mul_wordCount (size count : ℕ) :
    2 * wordCount size count = size * count + size * count % 2 := by
  rw [wordCount, Nat.mul_assoc]
  omega

lemma rawBytes_uint16Pointer (m : Mem UInt8) (j : ℕ) : rawBytes (uint16Pointer m) j = m j := by
  have hb : rawBytes (uint16Pointer m) j = m (2 * (j / 2) + j % 2) :=
    @Mem.byteOf_loadInt 2 m (j / 2) (j % 2) (Nat.mod_lt j (by decide))
  rw [hb, Nat.div_add_mod]

end Conversion

section Order

variable {size : ℕ}

def registerByte (endianness : ModbusDeviceEndianness) (registers : Mem UInt16) (j : ℕ) : UInt8 :=
  match endianness with
  | .bigEndian => rawBytes registers (mirror 2 j)
  | .littleEndian => rawBytes registers j

def valueByte (endianness : ModbusDeviceEndianness) (xs : List (BitVec (8 * size))) (j : ℕ) : UInt8 :=
  match endianness with
  | .bigEndian => byteOf (xs.getD (j / size) 0) (size - 1 - j % size)
  | .littleEndian => byteOf (xs.getD (j / size) 0) (j % size)

variable {xs : List (BitVec (8 * size))} {endianness : ModbusDeviceEndianness}

lemma lt_of_lt_mul {j : ℕ} (hj : j < size * xs.length) : 0 < size ∧ j / size < xs.length :=
  ⟨Nat.pos_of_mul_pos_right (Nat.zero_lt_of_lt hj), Nat.div_lt_of_lt_mul hj⟩

lemma written_bytes (rawPointer : Mem UInt8) {j : ℕ} (hj : j < 2 * wordCount size xs.length) :
    (@Mem.storeInt 2 rawPointer (wordCount size xs.length - 1) 0).write 0 (Mem.ofInts xs) j =
      if j < size * xs.length then valueByte .littleEndian xs j else 0 := by
  have hroom := two_mul_wordCount size xs.length
  rw [Mem.write_apply]
  split_ifs with h hlt hlt
  · obtain ⟨hsize, hi⟩ := lt_of_lt_mul hlt
    have hidx : j - 0 = size * (j / size) + j % size := (Nat.div_add_mod j size).symm
    have hlen : size * (j / size) + j % size < (Mem.ofInts xs).length := by
      rw [Mem.ofInts_length, Nat.div_add_mod]
      exact hlt
    rw [valueByte, List.getD_eq_getElem _ _ hi, ← Mem.ofInts_getElem xs hi (Nat.mod_lt j hsize) hlen]
    simp only [hidx]
  · rw [Mem.ofInts_length] at h
    omega
  · rw [Mem.ofInts_length] at h
    omega
  · -- only the last word has room behind the elements
    rw [Mem.storeInt, if_pos (by omega), byteOf_zero]

lemma registersToWrite_bytes (rawPointer : Mem UInt8) {j : ℕ}
    (hj : j < 2 * wordCount size xs.length) :
    registerByte endianness (registersToWrite xs endianness rawPointer) j =
      if j < size * xs.length then valueByte endianness xs j else 0 := by
  have hroom := two_mul_wordCount size xs.length
  cases endianness with
  | littleEndian =>
    rw [registerByte, registersToWrite, rawBytes_uint16Pointer]
    exact written_bytes rawPointer hj
  | bigEndian =>
    simp only [registerByte, registersToWrite, rawBytes_uint16Pointer]
    rw [convertBigEndian_apply, if_pos (mirror_lt hj), mirror_mirror (by decide),
      convertBigEndian_apply]
    split_ifs with hlt
    · obtain ⟨hsize, -⟩ := lt_of_lt_mul hlt
      have hm := mirror_lt hlt
      obtain ⟨hdiv, hmod⟩ := mirror_div_mod hsize j
      rw [written_bytes rawPointer (by omega), if_pos hm, valueByte, valueByte, hdiv, hmod]
    · rw [written_bytes rawPointer hj, if_neg hlt]

lemma registersRead_eq {registers : Mem UInt16}
    (h : ∀ j < size * xs.length, registerByte endianness registers j = valueByte endianness xs j) :
    registersRead size xs.length endianness registers = xs := by
  have hroom := two_mul_wordCount size xs.length
  apply List.ext_getElem
  · simp [registersRead]
  · intro i _ hi
    simp only [registersRead, List.getElem_map, List.getElem_range]
    refine Mem.loadInt_eq fun k hk => ?_
    have hj : size * i + k < size * xs.length := by
      have := Nat.mul_le_mul_left size hi
      rw [Nat.mul_succ] at this
      omega
    have hdiv : (size * i + k) / size = i := by
      rw [Nat.mul_add_div (by omega), Nat.div_eq_of_lt hk, Nat.add_zero]
    have hmod : (size * i + k) % size = k := by rw [Nat.mul_add_mod, Nat.mod_eq_of_lt hk]
    cases endianness with
    | littleEndian =>
      have hbyte := h _ hj
      rw [valueByte, hdiv, hmod, List.getD_eq_getElem _ _ hi] at hbyte
      exact hbyte
    | bigEndian =>
      have hm := mirror_lt hj
      have hbyte := h _ hm
      obtain ⟨hdiv', hmod'⟩ := mirror_div_mod (show 0 < size by omega) (size * i + k)
      rw [valueByte, hdiv', hmod', hdiv, hmod, List.getD_eq_getElem _ _ hi,
        show size - 1 - (size - 1 - k) = k by omega] at hbyte
      dsimp only
      rw [convertBigEndian_apply, if_pos hj, convertBigEndian_apply, if_pos (by omega)]
      exact hbyte

end Order

/-- The method hands these registers to `modbus_write_registers`, and throws if and only if that fails. -/
def HandsOver (startAddress nb : ℤ) (written : Mem UInt16) (stack : Mem UInt8)
    (method : M (Except ModbusError Unit)) : Prop :=
  ∀ w, method w =
    match (modbusWriteRegisters startAddress nb written).run stack emptyBuffer w with
    | .blocked w' => .blocked w'
    | .done (rc, _) w' => .done (if 0 ≤ rc then .ok () else .error (.couldNotWrite w'.errno)) w'

/-- The bytes of the integers, each in the order asked for, fill the registers up to at most one byte,
which is zero and is not looked at again. -/
structure Padded {size : ℕ} (xs : List (BitVec (8 * size))) (endianness : ModbusDeviceEndianness)
    (written : Mem UInt16) : Prop where
  room : 2 * wordCount size xs.length = size * xs.length + size * xs.length % 2
  data : ∀ j < size * xs.length, registerByte endianness written j = valueByte endianness xs j
  zero : ∀ j, size * xs.length ≤ j → j < 2 * wordCount size xs.length →
    registerByte endianness written j = 0
  hidden : ∀ registers : Mem UInt16,
    (∀ j < size * xs.length, registerByte endianness registers j = registerByte endianness written j) →
    registersRead size xs.length endianness registers = xs

section RoundTrip

variable {size : ℕ} (xs : List (BitVec (8 * size))) (endianness : ModbusDeviceEndianness)

lemma padded (rawPointer : Mem UInt8) :
    Padded xs endianness (registersToWrite xs endianness rawPointer) := by
  have hroom := two_mul_wordCount size xs.length
  have hdata : ∀ j < size * xs.length,
      registerByte endianness (registersToWrite xs endianness rawPointer) j =
        valueByte endianness xs j := fun j hj => by
    rw [registersToWrite_bytes rawPointer (by omega), if_pos hj]
  refine ⟨hroom, hdata, fun j hle hlt => ?_, fun registers h => ?_⟩
  · rw [registersToWrite_bytes rawPointer hlt, if_neg (Nat.not_lt.mpr hle)]
  · exact registersRead_eq fun j hj => (h j hj).trans (hdata j hj)

lemma registerByte_congr {registers registers' : Mem UInt16} {count j : ℕ}
    (h : ∀ i < count, registers i = registers' i) (hj : j < 2 * count) :
    registerByte endianness registers j = registerByte endianness registers' j := by
  have hraw {k : ℕ} (hk : k < 2 * count) : rawBytes registers k = rawBytes registers' k := by
    rw [rawBytes, rawBytes, h (k / 2) (by omega)]
  cases endianness with
  | littleEndian => exact hraw hj
  | bigEndian => exact hraw (mirror_lt hj)

variable {xs endianness} {startAddress : ℤ}

lemma writeRegistersBody_handsOver (hstart : FitsInt32 startAddress)
    (hn : FitsInt32 (wordCount size xs.length)) (hne : xs ≠ []) (rawPointer stack : Mem UInt8) :
    HandsOver startAddress (wordCount size xs.length) (registersToWrite xs endianness rawPointer) stack
      (writeRegistersBody startAddress xs endianness rawPointer stack) := by
  intro w
  rw [writeRegistersBody_eq _ _ _ _ _ (by simpa using hne), if_pos ⟨hstart, hn⟩]
  cases hrun : (modbusWriteRegisters startAddress (wordCount size xs.length)
      (registersToWrite xs endianness rawPointer)).run stack emptyBuffer w with
  | blocked w' => exact performing_blocked hrun
  | done r w' =>
    obtain ⟨rc, buffer⟩ := r
    dsimp only
    split_ifs with hrc
    · exact performing_done hrun hrc rfl
    · exact performing_failed hrun hrc

lemma readRegistersBody_back {written : Mem UInt16} (h : Padded xs endianness written)
    (hstart : FitsInt32 startAddress) (hn : FitsInt32 (wordCount size xs.length))
    {type : ModbusRegisterType} {stack : Mem UInt8} {w w' : World} {rc : ℤ} {buffer : Dest}
    (hrun : (modbusfunction type startAddress (wordCount size xs.length)).run stack emptyBuffer w =
      .done (rc, buffer) w') (hrc : 0 ≤ rc)
    (hwords : ∀ i < wordCount size xs.length, buffer.words i = written i) :
    readRegistersBody size startAddress xs.length type endianness stack w = .done (.ok xs) w' := by
  have hread : registersRead size xs.length endianness buffer.words = xs :=
    h.hidden _ fun j hj => registerByte_congr endianness hwords (hj.trans_le (by rw [h.room]; omega))
  rw [readRegistersBody_performing hstart hn]
  refine performing_done hrun hrc ?_
  rw [hread]
  rfl

variable (xs endianness)

/-- The registers that `writeRegisters` hands over are those from which `readRegisters` returns the
integers again, for integers of every size and in both orders. -/
theorem readRegisters_writeRegisters (hstart : FitsInt32 startAddress)
    (hmax : wordCount size xs.length ≤ 123) (rawPointer : Mem UInt8) :
    (xs ≠ [] → ∀ stack, HandsOver startAddress (wordCount size xs.length)
      (registersToWrite xs endianness rawPointer) stack
      (writeRegistersBody startAddress xs endianness rawPointer stack)) ∧
    (∀ (type : ModbusRegisterType) (stack : Mem UInt8) (w w' : World) (rc : ℤ) (buffer : Dest),
      (modbusfunction type startAddress (wordCount size xs.length)).run stack emptyBuffer w =
        .done (rc, buffer) w' → 0 ≤ rc →
      (∀ i < wordCount size xs.length, buffer.words i = registersToWrite xs endianness rawPointer i) →
      readRegistersBody size startAddress xs.length type endianness stack w = .done (.ok xs) w') ∧
    Padded xs endianness (registersToWrite xs endianness rawPointer) := by
  have hn : FitsInt32 (wordCount size xs.length) := ⟨by omega, by omega⟩
  have hpad := padded xs endianness rawPointer
  exact ⟨fun hne stack => writeRegistersBody_handsOver hstart hn hne rawPointer stack,
    fun _ _ _ _ _ _ hrun hrc hwords => readRegistersBody_back hpad hstart hn hrun hrc hwords, hpad⟩

theorem readRegisters_writeRegisters_example : ∃ pdu pdu' w w',
    @writeRegistersBody 4 8 [0x11223344, 0x55667788] .bigEndian (fun _ => 0) (fun _ => 0) (answering pdu) =
      .done (.ok ()) w ∧
    w.tx = [0, 1, 0, 0, 0, 15, 255, 16, 0, 8, 0, 4, 8, 0x11, 0x22, 0x33, 0x44, 0x55, 0x66, 0x77, 0x88] ∧
    readRegistersBody 4 8 2 .holding .bigEndian (fun _ => 0) (answering pdu') =
      .done (.ok [0x11223344, 0x55667788]) w' := by
  obtain ⟨hwrite, hread, -⟩ := @readRegisters_writeRegisters 4 [0x11223344, 0x55667788] .bigEndian 8
    (by decide) (by decide) fun _ => 0
  obtain ⟨pdu, w, _, hrun⟩ := writing_run 8 (show 4 ≤ 123 by decide)
    (@registersToWrite 4 [0x11223344, 0x55667788] .bigEndian fun _ => 0) (fun _ => 0) emptyBuffer
  obtain ⟨pdu', w', buffer, hrun', hwords⟩ := reading_run 8 (show 4 ≤ 125 by decide)
    (@registersToWrite 4 [0x11223344, 0x55667788] .bigEndian fun _ => 0) (fun _ => 0) emptyBuffer
  refine ⟨pdu, pdu', w, w', ?_, ?_, hread .holding _ _ _ _ _ hrun' (by decide) hwords⟩
  · refine (hwrite (by simp) _ _).trans ?_
    rw [show ((wordCount 4 [(0x11223344 : BitVec (8 * 4)), 0x55667788].length : ℕ) : ℤ) = (4 : ℕ) from rfl, hrun]
    rfl
  · rw [answering_sent (writeRegisters_counts 8 (show 4 ≤ 123 by decide) _) hrun]
    decide +kernel

example : (@registersToWrite 1 [0x11, 0x22, 0x33] .bigEndian fun _ => 0xFF).slice 0 2 =
    [0x1122, 0x3300] := by decide +kernel

end RoundTrip

end LibModbus.ModbusDevice
