import LibModbus.Server.Loops

/-! The bit utilities of modbus-data.c on one table: what was set from bytes is read back as these
bytes, and nothing else of the table is touched. -/

namespace LibModbus

open Library

section Setting

variable {index : ℕ}

lemma setBitsFromByteLoop_eq (value : UInt8) (n i : ℕ) (dest : Mem UInt8) (j : ℕ) :
    setBitsFromByteLoop index value n i dest j =
      if index + i ≤ j ∧ j < index + i + n then (value.toNat.testBit (j - index)).toUInt8 else dest j := by
  induction n generalizing i dest with
  | zero => rw [setBitsFromByteLoop, if_neg (by omega)]
  | succ n ih =>
    have hv : (if value.toNat &&& (1 <<< i) ≠ 0 then (1 : UInt8) else 0) =
        (value.toNat.testBit i).toUInt8 := by
      simp only [and_one_shiftLeft_ne_zero]
      rfl
    rw [setBitsFromByteLoop, hv, ih]
    by_cases hj : j = index + i
    · subst hj
      rw [if_neg (by omega), if_pos (by omega), Mem.store_self, Nat.add_sub_cancel_left]
    · rw [Mem.store_of_ne _ _ hj]
      by_cases hr : index + (i + 1) ≤ j ∧ j < index + (i + 1) + n
      · rw [if_pos hr, if_pos (by omega)]
      · rw [if_neg hr, if_neg (by omega)]

lemma modbusSetBitsFromByte_apply (dest : Mem UInt8) (value : UInt8) (j : ℕ) :
    modbusSetBitsFromByte dest index value j =
      if index ≤ j ∧ j < index + 8 then (value.toNat.testBit (j - index)).toUInt8 else dest j :=
  setBitsFromByteLoop_eq value 8 0 dest j

def setBitsBytewise (dest : Mem UInt8) (index : ℕ) (tabByte : Mem UInt8) (m : ℕ) : Mem UInt8 :=
  (List.range m).foldl (fun table k => modbusSetBitsFromByte table (index + 8 * k) (tabByte k)) dest

lemma setBitsBytewise_eq (dest tabByte : Mem UInt8) (m : ℕ) :
    setBitsBytewise dest index tabByte m = (modbusSetBitsFromBytes dest index (8 * m) tabByte).1 := by
  induction m with
  | zero =>
    funext j
    rw [modbusSetBitsFromBytes_apply, if_neg (by omega)]
    rfl
  | succ m ih =>
    funext j
    rw [setBitsBytewise, List.range_succ, List.foldl_append, List.foldl_cons, List.foldl_nil,
      ← setBitsBytewise, ih, modbusSetBitsFromByte_apply, modbusSetBitsFromBytes_apply,
      modbusSetBitsFromBytes_apply]
    by_cases hlast : index + 8 * m ≤ j ∧ j < index + 8 * m + 8
    · rw [if_pos hlast, if_pos (by omega), bitAt, show (j - index) / 8 = m by omega,
        show (j - index) % 8 = j - (index + 8 * m) by omega]
    · rw [if_neg hlast]
      by_cases hearlier : index ≤ j ∧ j < index + 8 * m
      · rw [if_pos hearlier, if_pos (by omega)]
      · rw [if_neg hearlier, if_neg (by omega)]

end Setting

section Getting

variable {src : Mem UInt8} {index : ℕ}

lemma getByteFromBitsLoop_bit {s : ℕ} (hs : s < 8) (n i : ℕ) (value : UInt8) :
    (getByteFromBitsLoop src index n i value).toNat.testBit s = true ↔
      value.toNat.testBit s = true ∨
        ∃ k, i ≤ k ∧ k < i + n ∧ k ≤ s ∧ (src (index + k)).toNat.testBit (s - k) = true := by
  induction n generalizing i value with
  | zero =>
    rw [getByteFromBitsLoop, or_iff_left]
    rintro ⟨k, hik, hk, -⟩
    omega
  | succ n ih =>
    rw [getByteFromBitsLoop, ih, testBit_or_shiftLeft value (src (index + i)) hs, or_assoc]
    apply or_congr_right
    constructor
    · rintro (⟨his, hbit⟩ | ⟨k, hik, hk, hks, hbit⟩)
      · exact ⟨i, le_rfl, by omega, his, hbit⟩
      · exact ⟨k, by omega, by omega, hks, hbit⟩
    · rintro ⟨k, hik, hk, hks, hbit⟩
      rcases Nat.eq_or_lt_of_le hik with rfl | hlt
      · exact .inl ⟨hks, hbit⟩
      · exact .inr ⟨k, hlt, by omega, hks, hbit⟩

lemma modbusGetByteFromBits_eq (ndebug : Bool) {n : ℕ} (hn : n ≤ 8) :
    modbusGetByteFromBits ndebug src index n = some (getByteFromBitsLoop src index n 0 0) :=
  if_neg (Nat.not_lt.mpr hn)

lemma getByteFromBitsLoop_flags {n s : ℕ} (hs : s < 8)
    (hflags : ∀ k < n, src (index + k) = 0 ∨ src (index + k) = 1) :
    (getByteFromBitsLoop src index n 0 0).toNat.testBit s = true ↔ s < n ∧ src (index + s) ≠ 0 := by
  rw [getByteFromBitsLoop_bit hs]
  constructor
  · rintro (hzero | ⟨k, -, hk, hks, hbit⟩)
    · simp at hzero
    · rcases hflags k (by omega) with h | h <;> rw [h] at hbit
      · simp at hbit
      · have hsk : s - k = 0 := Nat.testBit_one_eq_true_iff_self_eq_zero.mp hbit
        obtain rfl : k = s := by omega
        exact ⟨by omega, by simp [h]⟩
  · rintro ⟨hsn, hne⟩
    have hone : src (index + s) = 1 := (hflags s hsn).resolve_left hne
    exact .inr ⟨s, Nat.zero_le s, by omega, le_rfl, by simp [hone]⟩

end Getting

section Inverse

variable {dest tabByte : Mem UInt8} {index nbBits : ℕ}

/-- What `modbus_set_bits_from_bytes` makes of a table, and what can be read back of it. -/
structure SetsBits (dest : Mem UInt8) (index nbBits : ℕ) (tabByte table : Mem UInt8) : Prop where
  outside : ∀ j, j < index ∨ index + nbBits ≤ j → table j = dest j
  inside : ∀ j, index ≤ j → j < index + nbBits → table j = 0 ∨ table j = 1
  full : ∀ ndebug k, 8 * k + 8 ≤ nbBits →
    modbusGetByteFromBits ndebug table (index + 8 * k) (min 8 (nbBits - 8 * k)) = some (tabByte k)
  last : ∀ ndebug k, 8 * k < nbBits → nbBits < 8 * k + 8 →
    modbusGetByteFromBits ndebug table (index + 8 * k) (min 8 (nbBits - 8 * k)) =
      some (tabByte k &&& UInt8.ofNat (2 ^ (nbBits - 8 * k) - 1))
  bytewise : ∀ m, nbBits = 8 * m → table = setBitsBytewise dest index tabByte m
  reads : ∀ tabByte' : Mem UInt8, (∀ k < (nbBits + 7) / 8, tabByte' k = tabByte k) →
    (modbusSetBitsFromBytes dest index nbBits tabByte').1 = table

lemma and_mask_bit (x : UInt8) {n s : ℕ} (hn : n ≤ 8) :
    (x &&& UInt8.ofNat (2 ^ n - 1)).toNat.testBit s = (x.toNat.testBit s && decide (s < n)) := by
  have hpow : 2 ^ n ≤ 2 ^ 8 := Nat.pow_le_pow_right (by omega) hn
  have hpos : 0 < 2 ^ n := Nat.two_pow_pos n
  rw [UInt8.toNat_and, Nat.testBit_and, UInt8.toNat_ofNat_of_lt' (show 2 ^ n - 1 < 256 by omega),
    Nat.testBit_two_pow_sub_one]

lemma setBits_group {k n : ℕ} (hn : n ≤ 8) (hk : 8 * k + n ≤ nbBits) :
    getByteFromBitsLoop (modbusSetBitsFromBytes dest index nbBits tabByte).1 (index + 8 * k) n 0 0 =
      tabByte k &&& UInt8.ofNat (2 ^ n - 1) := by
  have hset (s : ℕ) (hs : s < n) : (modbusSetBitsFromBytes dest index nbBits tabByte).1
      (index + 8 * k + s) = ((tabByte k).toNat.testBit s).toUInt8 := by
    rw [modbusSetBitsFromBytes_apply, if_pos (by omega), bitAt,
      show (index + 8 * k + s - index) / 8 = k by omega,
      show (index + 8 * k + s - index) % 8 = s by omega]
  have hflags (s : ℕ) (hs : s < n) : (modbusSetBitsFromBytes dest index nbBits tabByte).1
      (index + 8 * k + s) = 0 ∨ (modbusSetBitsFromBytes dest index nbBits tabByte).1
        (index + 8 * k + s) = 1 := by
    rw [hset s hs]
    exact toUInt8_flag _
  apply eq_of_bits
  intro s hs
  rw [Bool.eq_iff_iff, getByteFromBitsLoop_flags hs hflags, and_mask_bit _ hn, Bool.and_eq_true,
    decide_eq_true_eq, and_comm, and_congr_left_iff]
  intro hsn
  rw [hset s hsn, toUInt8_ne_zero]

/-- The three utilities agree on every table, for every start and every number of bits. -/
theorem setBitsFromBytes_inverse (dest : Mem UInt8) (index nbBits : ℕ) (tabByte : Mem UInt8) :
    SetsBits dest index nbBits tabByte (modbusSetBitsFromBytes dest index nbBits tabByte).1 where
  outside j hj := by
    rw [modbusSetBitsFromBytes_apply, if_neg (by omega)]
  inside j hj hlt := by
    rw [modbusSetBitsFromBytes_apply, if_pos ⟨hj, hlt⟩]
    exact toUInt8_flag _
  full ndebug k hk := by
    rw [Nat.min_eq_left (by omega), modbusGetByteFromBits_eq ndebug le_rfl, setBits_group le_rfl hk]
    congr 1
    apply eq_of_bits
    intro s hs
    rw [and_mask_bit _ le_rfl, decide_eq_true hs, Bool.and_true]
  last ndebug k hk hlt := by
    rw [Nat.min_eq_right (by omega), modbusGetByteFromBits_eq ndebug (by omega),
      setBits_group (by omega) (by omega)]
  bytewise m hm := by
    rw [hm, setBitsBytewise_eq]
  reads tabByte' h := by
    funext j
    rw [modbusSetBitsFromBytes_apply, modbusSetBitsFromBytes_apply]
    split_ifs with hj
    · rw [bitAt_congr (h ((j - index) / 8) (by omega))]
    · rfl

end Inverse

end LibModbus
