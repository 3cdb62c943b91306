import LibModbus.Device.Registers

/-! Which value stands at which place of the array that a read returns. -/

namespace LibModbus.ModbusDevice

open Library Library.Prog

def wordsValue (endianness : ModbusDeviceEndianness) (width : ℕ) (words : Mem UInt16) (j : ℕ) : ℕ :=
  match endianness with
  | .bigEndian => ∑ i ∈ Finset.range width, (words (j * width + i)).toNat * 65536 ^ (width - 1 - i)
  | .littleEndian => ∑ i ∈ Finset.range width, (words (j * width + i)).toNat * 65536 ^ i

def byteValue (endianness : ModbusDeviceEndianness) (words : Mem UInt16) (j : ℕ) : ℕ :=
  let high := (words (j / 2)).toNat / 256
  let low := (words (j / 2)).toNat % 256
  match endianness with
  | .bigEndian => if j % 2 = 0 then high else low
  | .littleEndian => if j % 2 = 0 then low else high

section Elements

variable {size count width : ℕ} {words : Mem UInt16} {i j b : ℕ}

lemma registersRead_length (endianness : ModbusDeviceEndianness) :
    (registersRead size count endianness words).length = count := by
  simp [registersRead]

lemma byteOf_littleEndian (h : j < (registersRead size count .littleEndian words).length)
    (hb : b < size) :
    byteOf (registersRead size count .littleEndian words)[j] b = rawBytes words (size * j + b) := by
  simp only [registersRead, List.getElem_map, List.getElem_range]
  exact Mem.byteOf_loadInt _ _ hb

lemma byteOf_bigEndian (h : j < (registersRead size count .bigEndian words).length) (hb : b < size) :
    byteOf (registersRead size count .bigEndian words)[j] b =
      rawBytes words (mirror 2 (size * j + (size - 1 - b))) := by
  have hj : j < count := by rwa [registersRead_length] at h
  have hpos : size * j + b < size * count := by
    have := Nat.mul_le_mul_left size hj
    rw [Nat.mul_succ] at this
    omega
  have hmirror : mirror size (size * j + b) = size * j + (size - 1 - b) := by
    rw [mirror, Nat.mul_add_div (by omega), Nat.div_eq_of_lt hb, Nat.mul_add_mod, Nat.mod_eq_of_lt hb,
      Nat.add_zero]
  have hroom := two_mul_wordCount size count
  have hlt := mirror_lt hpos
  simp only [registersRead, List.getElem_map, List.getElem_range]
  rw [Mem.byteOf_loadInt _ _ hb, convertBigEndian_apply, if_pos hpos, convertBigEndian_apply,
    if_pos (by omega), hmirror]

lemma toNat_littleEndian (h : j < (registersRead (2 * width) count .littleEndian words).length) :
    (registersRead (2 * width) count .littleEndian words)[j].toNat =
      wordsValue .littleEndian width words j := by
  refine toNat_of_words (g := fun i => words (j * width + i)) _ fun b hb => ?_
  rw [byteOf_littleEndian h hb, rawBytes]
  have hmul : 2 * width * j = 2 * (j * width) := by rw [Nat.mul_assoc, Nat.mul_comm width]
  rw [hmul, show (2 * (j * width) + b) / 2 = j * width + b / 2 by omega,
    show (2 * (j * width) + b) % 2 = b % 2 by omega]

lemma toNat_bigEndian (h : j < (registersRead (2 * width) count .bigEndian words).length) :
    (registersRead (2 * width) count .bigEndian words)[j].toNat =
      wordsValue .bigEndian width words j := by
  have hsum : (registersRead (2 * width) count .bigEndian words)[j].toNat =
      ∑ i ∈ Finset.range width, (words (j * width + (width - 1 - i))).toNat * 65536 ^ i := by
    refine toNat_of_words (g := fun i => words (j * width + (width - 1 - i))) _ fun b hb => ?_
    have hmul : 2 * width * j = 2 * (j * width) := by rw [Nat.mul_assoc, Nat.mul_comm width]
    have hplace : mirror 2 (2 * width * j + (2 * width - 1 - b)) =
        2 * (j * width + (width - 1 - b / 2)) + b % 2 := by
      rw [mirror, hmul]
      omega
    rw [byteOf_bigEndian h hb, hplace, rawBytes, Nat.mul_add_div (by decide), Nat.mul_add_mod,
      show b % 2 / 2 = 0 by omega, Nat.add_zero, Nat.mod_mod]
  rw [hsum, wordsValue, ← Finset.sum_range_reflect]
  refine Finset.sum_congr rfl fun i hi => ?_
  have hlt := Finset.mem_range.mp hi
  rw [show width - 1 - (width - 1 - i) = i by omega]

lemma toNat_wordsValue (endianness : ModbusDeviceEndianness)
    (h : j < (registersRead (2 * width) count endianness words).length) :
    (registersRead (2 * width) count endianness words)[j].toNat = wordsValue endianness width words j := by
  cases endianness with
  | bigEndian => exact toNat_bigEndian h
  | littleEndian => exact toNat_littleEndian h

lemma rawBytes_toNat (p : ℕ) : (rawBytes words p).toNat =
    if p % 2 = 0 then (words (p / 2)).toNat % 256 else (words (p / 2)).toNat / 256 := by
  have hbyte : (rawBytes words p).toNat = (words (p / 2)).toNat / 256 ^ (p % 2) % 256 :=
    @byteOf_toNat 2 _ _
  have hlt := (words (p / 2)).toNat_lt
  rw [hbyte]
  split_ifs with hp
  · rw [hp, Nat.pow_zero, Nat.div_one]
  · rw [show p % 2 = 1 by omega, Nat.pow_one]
    omega

lemma toNat_of_byte (v : BitVec (8 * 1)) : v.toNat = (byteOf v 0).toNat := by
  have hlt := v.isLt
  rw [byteOf_toNat]
  omega

lemma toNat_byteValue (endianness : ModbusDeviceEndianness)
    (h : j < (registersRead 1 count endianness words).length) :
    (registersRead 1 count endianness words)[j].toNat = byteValue endianness words j := by
  rw [toNat_of_byte]
  cases endianness with
  | littleEndian =>
    rw [byteOf_littleEndian h (by decide), rawBytes_toNat, byteValue]
    simp
  | bigEndian =>
    have hplace : mirror 2 (1 * j + (1 - 1 - 0)) = 2 * (j / 2) + (1 - j % 2) := by
      rw [mirror]
      omega
    rw [byteOf_bigEndian h (by decide), hplace, rawBytes_toNat, byteValue,
      show (2 * (j / 2) + (1 - j % 2)) / 2 = j / 2 by omega]
    split_ifs <;> omega

end Elements

section Overloads

variable {size count : ℕ} {endianness : ModbusDeviceEndianness}

lemma floatingPointsRead_eq (hsize : size = 2 ∨ size = 4 ∨ size = 8) (words : Mem UInt16) :
    floatingPointsRead size count endianness words = .ok (registersRead size count endianness words) := by
  have hcount : floatingPointWordCount size count = wordCount size count := by
    rw [floatingPointWordCount, wordCount, Nat.mul_comm size]
  cases endianness with
  | littleEndian => rfl
  | bigEndian =>
    rw [floatingPointsRead, hcount]
    rcases hsize with rfl | rfl | rfl <;> rfl

end Overloads

section Results

variable {size count : ℕ} {startAddress : ℤ} {type : ModbusRegisterType}
  {endianness : ModbusDeviceEndianness} {stack : Mem UInt8}

lemma readRegistersBody_values (hstart : FitsInt32 startAddress)
    (hn : FitsInt32 (wordCount size count)) {w w' : World} {rc : ℤ} {buffer : Dest}
    (hrun : (modbusfunction type startAddress (wordCount size count)).run stack emptyBuffer w =
      .done (rc, buffer) w') (hrc : 0 ≤ rc) :
    readRegistersBody size startAddress count type endianness stack w =
      .done (.ok (registersRead size count endianness buffer.words)) w' := by
  rw [readRegistersBody_performing hstart hn]
  exact performing_done hrun hrc rfl

lemma overloads_agree (hstart : FitsInt32 startAddress) (hn : FitsInt32 (wordCount size count))
    (hsize : size = 2 ∨ size = 4 ∨ size = 8) :
    readFloatingPointsBody size startAddress count type endianness stack = (do
      let result ← readRegistersBody size startAddress count type endianness stack
      return result.mapError .device) := by
  rw [readFloatingPointsBody_performing hstart hn, readRegistersBody_performing hstart hn]
  funext w
  cases hrun : (modbusfunction type startAddress (wordCount size count)).run stack emptyBuffer w with
  | blocked w' => rw [bind_blocked (performing_blocked hrun), bind_blocked (performing_blocked hrun)]
  | done r w' =>
    obtain ⟨rc, buffer⟩ := r
    by_cases hrc : 0 ≤ rc
    · have hdone {α : Type} (f : Dest → α) := @performing_done _ _ _ ModbusError.couldNotRead
        (fun buffer => pure (f buffer)) _ _ _ _ hrun hrc _ rfl
      rw [bind_done (hdone _), bind_done (hdone _), floatingPointsRead_eq hsize]
      rfl
    · rw [bind_done (performing_failed hrun hrc), bind_done (performing_failed hrun hrc)]
      rfl

/-- Reads decode by position: values of any number of words, and bytes, in both orders. The overload for
floating-point values returns or throws what the one for integers does. -/
theorem readRegisters_positions (count : ℕ) (endianness : ModbusDeviceEndianness) {startAddress : ℤ}
    (hstart : FitsInt32 startAddress) (type : ModbusRegisterType) (stack : Mem UInt8) :
    (∀ (size : ℕ) (w w' : World) (rc : ℤ) (buffer : Dest), FitsInt32 (wordCount size count) →
      (modbusfunction type startAddress (wordCount size count)).run stack emptyBuffer w =
        .done (rc, buffer) w' → 0 ≤ rc →
      ∃ xs : List (BitVec (8 * size)),
        readRegistersBody size startAddress count type endianness stack w = .done (.ok xs) w' ∧
        xs.length = count ∧
        (∀ width, size = 2 * width →
          ∀ j (h : j < xs.length), xs[j].toNat = wordsValue endianness width buffer.words j) ∧
        (size = 1 → ∀ j (h : j < xs.length), xs[j].toNat = byteValue endianness buffer.words j)) ∧
    ∀ size ∈ [2, 4, 8], FitsInt32 (wordCount size count) →
      readFloatingPointsBody size startAddress count type endianness stack = (do
        let result ← readRegistersBody size startAddress count type endianness stack
        return result.mapError .device) := by
  refine ⟨fun size w w' rc buffer hn hrun hrc => ?_, fun size hsize hn => ?_⟩
  · refine ⟨_, readRegistersBody_values hstart hn hrun hrc, registersRead_length endianness, ?_, ?_⟩
    · rintro width rfl j h
      exact toNat_wordsValue endianness h
    · rintro rfl j h
      exact toNat_byteValue endianness h
  · exact overloads_agree hstart hn (by simpa using hsize)

theorem readRegisters_positions_example : ∃ pdu w' v,
    readRegistersBody 4 8 1 .holding .bigEndian (fun _ => 0) (answering pdu) = .done (.ok [v]) w' ∧
    v.toNat = 0x1122 * 65536 + 0x3344 ∧
    readFloatingPointsBody 4 8 1 .holding .bigEndian (fun _ => 0) (answering pdu) = .done (.ok [v]) w' := by
  obtain ⟨hread, hfloat⟩ := @readRegisters_positions 1 .bigEndian 8 (by decide) .holding fun _ => 0
  obtain ⟨pdu, w', buffer, hrun, hwords⟩ := reading_run 8 (show 2 ≤ 125 by decide)
    (fun i => [0x1122, 0x3344].getD i 0) (fun _ => 0) emptyBuffer
  obtain ⟨xs, hxs, hlen, hvalue, -⟩ := hread 4 _ w' _ buffer (by decide) hrun (by decide)
  obtain ⟨v, rfl⟩ := List.length_eq_one_iff.mp hlen
  refine ⟨pdu, w', v, hxs, ?_, ?_⟩
  · have h := hvalue 2 rfl 0 Nat.one_pos
    have h₀ := hwords 0 (by decide)
    have h₁ := hwords 1 (by decide)
    simp only [wordsValue, Finset.sum_range_succ, Finset.sum_range_zero] at h
    rw [show 0 * 2 + 0 = 0 from rfl, show 0 * 2 + 1 = 1 from rfl, h₀, h₁] at h
    exact h
  · refine (congrFun (hfloat 4 (by decide) (by decide)) _).trans ?_
    rw [bind_done hxs]
    rfl

example : (registersRead 4 1 .bigEndian fun i => [0x1122, 0x3344].getD i 0) = [0x11223344] := by
  decide +kernel

end Results

end LibModbus.ModbusDevice
