import LibModbus.Client.Calls
import LibModbus.Library.Bits

/-! What the loops of the client over its arrays do. -/

namespace LibModbus

open Library

lemma mask_ne_zero {k : ℕ} (hk : k ≤ 8) : 2 ^ k &&& 0xff ≠ 0 ↔ k < 8 := by
  interval_cases k <;> decide

lemma two_pow_shiftLeft (k : ℕ) : 2 ^ k <<< 1 = 2 ^ (k + 1) := by
  rw [Nat.shiftLeft_eq, Nat.pow_one, ← Nat.pow_succ]

section Decoding

variable {nb : ℕ}

lemma readBitsLoop_eq (temp n k pos : ℕ) (hn : n + k = 9) (hk : k ≤ 8) (hpos : pos ≤ nb)
    (dest : Mem UInt8) :
    (readBitsLoop nb temp n (2 ^ k) pos dest).1 = min nb (pos + (8 - k)) ∧
    ∀ j, (readBitsLoop nb temp n (2 ^ k) pos dest).2 j =
      if pos ≤ j ∧ j < min nb (pos + (8 - k)) then (temp.testBit (k + (j - pos))).toUInt8
      else dest j := by
  induction n generalizing k pos dest with
  | zero => omega
  | succ n ih =>
    rw [readBitsLoop]
    by_cases hstop : k < 8 ∧ pos < nb
    · have hflag : (if temp &&& 2 ^ k ≠ 0 then (1 : UInt8) else 0) = (temp.testBit k).toUInt8 := by
        simp only [and_two_pow_ne_zero]
        rfl
      obtain ⟨h₁, h₂⟩ := ih (k + 1) (pos + 1) (by omega) (by omega) (by omega)
        (dest.store pos (temp.testBit k).toUInt8)
      rw [if_pos ⟨(mask_ne_zero hk).mpr hstop.1, by exact_mod_cast hstop.2⟩, two_pow_shiftLeft, hflag]
      refine ⟨h₁.trans (by omega), fun j => (h₂ j).trans ?_⟩
      by_cases hj : j = pos
      · subst hj
        rw [if_neg (by omega), if_pos (by omega), Mem.store_self, Nat.sub_self, Nat.add_zero]
      · rw [Mem.store_of_ne _ _ hj]
        by_cases hr : pos + 1 ≤ j ∧ j < min nb (pos + 1 + (8 - (k + 1)))
        · rw [if_pos hr, if_pos (by omega), show k + 1 + (j - (pos + 1)) = k + (j - pos) by omega]
        · rw [if_neg hr, if_neg (by omega)]
    · rw [if_neg (by rw [mask_ne_zero hk]; exact_mod_cast hstop)]
      refine ⟨by omega, fun j => ?_⟩
      rw [if_neg (by omega)]

lemma readBytesLoop_eq (rsp : Mem UInt8) (n i pos : ℕ) (hpos : pos ≤ nb) (dest : Mem UInt8) (j : ℕ) :
    readBytesLoop nb rsp n i pos dest j =
      if pos ≤ j ∧ j < min nb (pos + 8 * n) then (bitAt (fun k => rsp (i + k)) (j - pos)).toUInt8
      else dest j := by
  induction n generalizing i pos dest with
  | zero => rw [readBytesLoop, if_neg (by omega)]
  | succ n ih =>
    obtain ⟨h₁, h₂⟩ := readBitsLoop_eq (rsp i).toNat 9 0 pos (by omega) (by omega) hpos dest
    rw [Nat.pow_zero] at h₁ h₂
    change readBytesLoop nb rsp n (i + 1) (readBitsLoop nb (rsp i).toNat 9 1 pos dest).1
      (readBitsLoop nb (rsp i).toNat 9 1 pos dest).2 j = _
    rw [h₁, ih _ _ (by omega), h₂]
    by_cases hlater : min nb (pos + (8 - 0)) ≤ j ∧ j < min nb (min nb (pos + (8 - 0)) + 8 * n)
    · rw [if_pos hlater, if_pos (by omega)]
      have hj : j - pos = j - min nb (pos + (8 - 0)) + 8 := by omega
      rw [hj]
      simp only [bitAt]
      rw [show (j - min nb (pos + (8 - 0)) + 8) / 8 = (j - min nb (pos + (8 - 0))) / 8 + 1 by omega,
        Nat.add_mod_right, show i + ((j - min nb (pos + (8 - 0))) / 8 + 1) =
          i + 1 + (j - min nb (pos + (8 - 0))) / 8 by omega]
    · rw [if_neg hlater]
      by_cases hnow : pos ≤ j ∧ j < min nb (pos + (8 - 0))
      · rw [if_pos hnow, if_pos (by omega)]
        simp only [bitAt]
        rw [Nat.div_eq_of_lt (by omega), Nat.mod_eq_of_lt (by omega), Nat.zero_add, Nat.add_zero]
      · rw [if_neg hnow, if_neg (by omega)]

lemma readRegistersLoop_eq (rsp : Mem UInt8) (offset n i : ℕ) (dest : Mem UInt16) (j : ℕ) :
    readRegistersLoop rsp offset n i dest j =
      if i ≤ j ∧ j < i + n then wordAt rsp (offset + 2 + 2 * j) else dest j := by
  induction n generalizing i dest with
  | zero => rw [readRegistersLoop, if_neg (by omega)]
  | succ n ih =>
    rw [readRegistersLoop, ih]
    by_cases hj : j = i
    · subst hj
      rw [if_neg (by omega), if_pos (by omega), Mem.store_self, Nat.shiftLeft_eq, wordAt]
      ring_nf
    · rw [Mem.store_of_ne _ _ hj]
      by_cases hr : i + 1 ≤ j ∧ j < i + 1 + n
      · rw [if_pos hr, if_pos (by omega)]
      · rw [if_neg hr, if_neg (by omega)]

end Decoding

section Packing

variable {nb : ℕ}

lemma testBit_pack (byte : UInt8) {k j : ℕ} (hk : k < 8) (hj : j < 8) (c : Prop) [Decidable c] :
    (if c then byte ||| UInt8.ofNat (2 ^ k) else byte &&& ~~~UInt8.ofNat (2 ^ k)).toNat.testBit j =
      if j = k then decide c else byte.toNat.testBit j := by
  have hpow : (UInt8.ofNat (2 ^ k)).toNat = 2 ^ k :=
    UInt8.toNat_ofNat_of_lt' (Nat.pow_lt_pow_right (by omega) hk)
  have hbit : (2 ^ k).testBit j = decide (k = j) := Nat.testBit_two_pow
  split_ifs with hc hjk hjk
  · simp [UInt8.toNat_or, hpow, hjk, hc]
  · simp [UInt8.toNat_or, hpow, hbit, Ne.symm hjk]
  · rw [UInt8.toNat_and, Nat.testBit_and, not_testBit _ hj, hpow, hbit]
    simp [hjk, hc]
  · rw [UInt8.toNat_and, Nat.testBit_and, not_testBit _ hj, hpow, hbit]
    simp [Ne.symm hjk]

lemma packBitsLoop_eq (src : Mem UInt8) (n k : ℕ) (byte : UInt8) (bitCheck pos : ℕ) (hn : n + k = 9)
    (hk : k ≤ 8) :
    (∀ j < k, (packBitsLoop nb src n (2 ^ k) byte bitCheck pos).1.toNat.testBit j =
      byte.toNat.testBit j) ∧
    (∀ j, k ≤ j → j < 8 → bitCheck + (j - k) < nb →
      (packBitsLoop nb src n (2 ^ k) byte bitCheck pos).1.toNat.testBit j =
        decide (src (pos + (j - k)) ≠ 0)) ∧
    (bitCheck + (8 - k) ≤ nb → (packBitsLoop nb src n (2 ^ k) byte bitCheck pos).2 =
      (bitCheck + (8 - k), pos + (8 - k))) := by
  induction n generalizing k byte bitCheck pos with
  | zero => omega
  | succ n ih =>
    rw [packBitsLoop]
    by_cases hfull : k < 8
    · rw [if_pos ((mask_ne_zero hk).mpr hfull)]
      by_cases hleft : bitCheck < nb
      · rw [if_pos (by exact_mod_cast hleft), two_pow_shiftLeft]
        obtain ⟨h₁, h₂, h₃⟩ := ih (k + 1) (if src pos ≠ 0 then byte ||| UInt8.ofNat (2 ^ k)
          else byte &&& ~~~UInt8.ofNat (2 ^ k)) (bitCheck + 1) (pos + 1) (by omega) (by omega)
        refine ⟨fun j hj => ?_, fun j hkj hj hlt => ?_, fun hle => ?_⟩
        · apply (h₁ j (by omega)).trans
          rw [testBit_pack _ hfull (by omega), if_neg (by omega)]
        · by_cases hjk : j = k
          · subst hjk
            apply (h₁ j (by omega)).trans
            rw [testBit_pack _ hfull hj, if_pos rfl, Nat.sub_self, Nat.add_zero]
          · apply (h₂ j (by omega) hj (by omega)).trans
            rw [show pos + 1 + (j - (k + 1)) = pos + (j - k) by omega]
        · apply (h₃ (by omega)).trans
          rw [Prod.mk.injEq]
          omega
      · rw [if_neg (by exact_mod_cast hleft)]
        exact ⟨fun _ _ => rfl, fun j _ _ h => by omega, fun h => by omega⟩
    · rw [if_neg (by rw [mask_ne_zero hk]; exact hfull)]
      obtain rfl : k = 8 := by omega
      exact ⟨fun _ _ => rfl, fun j _ _ _ => by omega, fun _ => rfl⟩

lemma packBytesLoop_packs (src : Mem UInt8) (n pos : ℕ) (hn : n = (nb - pos + 7) / 8) :
    Packs (packBytesLoop nb src n pos pos) (nb - pos) fun i => decide (src (pos + i) ≠ 0) := by
  induction n generalizing pos with
  | zero =>
    rw [show nb - pos = 0 by omega]
    exact .nil
  | succ n ih =>
    obtain ⟨-, h₂, h₃⟩ := @packBitsLoop_eq nb src 9 0 0 pos pos (by omega) (by omega)
    rw [Nat.pow_zero] at h₂ h₃
    change Packs ((packBitsLoop nb src 9 1 0 pos pos).1 :: packBytesLoop nb src n
      (packBitsLoop nb src 9 1 0 pos pos).2.1 (packBitsLoop nb src 9 1 0 pos pos).2.2) _ _
    refine .cons (fun i hi hlt => h₂ i (by omega) hi (by omega)) (by omega) ?_
    rcases Nat.lt_or_ge (nb - pos) 8 with hlast | hmore
    · obtain rfl : n = 0 := by omega
      rw [show nb - pos - 8 = 0 by omega]
      exact .nil
    · rw [h₃ (by omega), show nb - pos - 8 = nb - (pos + 8) by omega]
      refine (ih (pos + 8) (by omega)).congr fun i _ => ?_
      rw [show pos + 8 + i = pos + (i + 8) by omega]

lemma packRegisters_eq (src : Mem UInt16) (n : ℕ) :
    packRegisters src n = (src.slice 0 n).flatMap registerBytes := by
  simp only [packRegisters, Mem.slice, List.flatMap_map, Nat.zero_add]
  rfl

end Packing

end LibModbus
