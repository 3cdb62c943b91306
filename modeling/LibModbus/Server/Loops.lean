import LibModbus.Library.Bits
import LibModbus.Model.Reply

/-! What the loops of the server over its tables do. -/

namespace LibModbus

open Library

section Bits

lemma setBitsFromBytesLoop_eq (index : ℕ) (tabByte : Mem UInt8) (n i : ℕ) (dest : Mem UInt8)
    (hi : index ≤ i) :
    (∀ j, (setBitsFromBytesLoop index tabByte n i ((i - index) % 8) dest).1 j =
      if i ≤ j ∧ j < i + n then (bitAt tabByte (j - index)).toUInt8 else dest j) ∧
    (setBitsFromBytesLoop index tabByte n i ((i - index) % 8) dest).2 =
      (List.range' i n).map fun j => (j, (bitAt tabByte (j - index)).toUInt8) := by
  induction n generalizing i dest with
  | zero => exact ⟨fun j => by rw [if_neg (by omega)]; rfl, rfl⟩
  | succ n ih =>
    have hv : (if (tabByte ((i - index) / 8)).toNat &&& (1 <<< ((i - index) % 8)) ≠ 0 then (1 : UInt8)
        else 0) = (bitAt tabByte (i - index)).toUInt8 := by
      simp only [and_one_shiftLeft_ne_zero, bitAt]
      rfl
    have hshift : ((i - index) % 8 + 1) % 8 = (i + 1 - index) % 8 := by omega
    obtain ⟨h₁, h₂⟩ := ih (i + 1) (dest.store i (bitAt tabByte (i - index)).toUInt8) (by omega)
    simp only [setBitsFromBytesLoop, hv, hshift, h₂, List.range'_succ, List.map_cons, and_true]
    intro j
    rw [h₁]
    by_cases hj : j = i
    · subst hj
      simp
    · rw [Mem.store_of_ne _ _ hj]
      congr 1
      simp only [eq_iff_iff]
      omega

lemma modbusSetBitsFromBytes_apply (dest : Mem UInt8) (index nbBits : ℕ) (tabByte : Mem UInt8)
    (j : ℕ) : (modbusSetBitsFromBytes dest index nbBits tabByte).1 j =
      if index ≤ j ∧ j < index + nbBits then (bitAt tabByte (j - index)).toUInt8 else dest j := by
  have h := (setBitsFromBytesLoop_eq index tabByte nbBits index dest le_rfl).1 j
  rwa [Nat.sub_self] at h

lemma modbusSetBitsFromBytes_stores (dest : Mem UInt8) (index nbBits : ℕ) (tabByte : Mem UInt8) :
    (modbusSetBitsFromBytes dest index nbBits tabByte).2 =
      (List.range' index nbBits).map fun j => (j, (bitAt tabByte (j - index)).toUInt8) := by
  have h := (setBitsFromBytesLoop_eq index tabByte nbBits index dest le_rfl).2
  rwa [Nat.sub_self] at h

lemma responseIoStatusLoop_length (tab : Mem UInt8) (n i shift byte : ℕ) (hs : shift < 8) :
    (responseIoStatusLoop tab n i shift byte).1.length = (shift + n + 7) / 8 := by
  induction n generalizing i shift byte with
  | zero =>
    rw [responseIoStatusLoop]
    split_ifs with h <;> simp <;> omega
  | succ n ih =>
    rw [responseIoStatusLoop]
    split_ifs with h
    · simp only [List.length_cons, ih _ _ _ (by omega : 0 < 8)]
      omega
    · simp only [ih _ _ _ (by omega : shift + 1 < 8)]
      congr 1
      omega

lemma responseIoStatusLoop_reads (tab : Mem UInt8) (n i shift byte : ℕ) :
    (responseIoStatusLoop tab n i shift byte).2 = List.range' i n := by
  induction n generalizing i shift byte with
  | zero => rfl
  | succ n ih =>
    rw [responseIoStatusLoop, List.range'_succ]
    split_ifs <;> simp only [ih]

lemma testBit_or_flag {byte shift : ℕ} {x : UInt8} (hx : x = 0 ∨ x = 1) (hb : byte < 2 ^ shift)
    (j : ℕ) : (byte ||| x.toNat <<< shift).testBit j =
      if j < shift then byte.testBit j else decide (x ≠ 0) && decide (j = shift) := by
  rw [Nat.testBit_or, Nat.testBit_shiftLeft]
  by_cases hj : j < shift
  · simp [hj]
  · rw [if_neg hj, Nat.testBit_lt_two_pow (hb.trans_le (Nat.pow_le_pow_right (by omega) (by omega)))]
    by_cases hjs : j = shift
    · subst hjs
      rcases hx with rfl | rfl <;> simp
    · rcases hx with rfl | rfl
      · simp
      · have h0 : j - shift ≠ 0 := by omega
        have h1 : Nat.testBit 1 (j - shift) = false :=
          Nat.testBit_lt_two_pow (Nat.one_lt_two_pow h0)
        simp [hjs, h1]

lemma responseIoStatusLoop_packs {tab : Mem UInt8} (n i shift byte : ℕ) (hs : shift < 8)
    (hb : byte < 2 ^ shift) (htab : ∀ j, i ≤ j → j < i + n → tab j = 0 ∨ tab j = 1) :
    Packs (responseIoStatusLoop tab n i shift byte).1 (shift + n) fun j =>
      if j < shift then byte.testBit j else decide (tab (i + (j - shift)) ≠ 0) := by
  induction n generalizing i shift byte with
  | zero =>
    rw [responseIoStatusLoop, Nat.add_zero]
    split_ifs with h
    · have hsmall : byte < 256 := hb.trans_le (Nat.pow_le_pow_right (by omega) hs.le)
      refine .cons (fun j _ hj => ?_) (by omega) ?_
      · rw [UInt8.toNat_ofNat_of_lt' hsmall, if_pos hj]
      · rw [Nat.sub_eq_zero_of_le (by omega)]
        exact .nil
    · rw [not_not.mp h]
      exact .nil
  | succ n ih =>
    have hx : tab i = 0 ∨ tab i = 1 := htab i le_rfl (by omega)
    have hb' : byte ||| (tab i).toNat <<< shift < 2 ^ (shift + 1) := by
      apply Nat.or_lt_two_pow (hb.trans_le (Nat.pow_le_pow_right (by omega) (by omega)))
      rw [Nat.shiftLeft_eq, Nat.pow_succ]
      have : 0 < 2 ^ shift := Nat.two_pow_pos shift
      rcases hx with hx | hx <;> simp [hx]
    rw [responseIoStatusLoop]
    split_ifs with h
    · subst h
      refine .cons (fun j hj _ => ?_) (by omega) ?_
      · rw [UInt8.toNat_ofNat_of_lt' hb', testBit_or_flag hx hb]
        by_cases hlt : j < 7
        · simp [hlt]
        · obtain rfl : j = 7 := by omega
          simp
      · refine (show 7 + (n + 1) - 8 = 0 + n by omega) ▸
          (ih (i + 1) 0 0 (by omega) (by simp) fun j h₁ h₂ => htab j (by omega) (by omega)).congr ?_
        intro j hj
        rw [if_neg (by omega), if_neg (by omega), show i + 1 + (j - 0) = i + (j + 8 - 7) by omega]
    · refine (show shift + 1 + n = shift + (n + 1) by omega) ▸
        (ih (i + 1) (shift + 1) _ (by omega) hb' fun j h₁ h₂ => htab j (by omega) (by omega)).congr ?_
      intro j hj
      rw [testBit_or_flag hx hb]
      by_cases h₁ : j < shift
      · rw [if_pos (by omega), if_pos h₁, if_pos h₁]
      · rw [if_neg h₁]
        by_cases h₂ : j = shift
        · subst h₂
          simp
        · rw [if_neg (by omega), if_neg h₁, show i + 1 + (j - (shift + 1)) = i + (j - shift) by omega]

lemma responseIoStatus_length (address nb : ℕ) (tab : Mem UInt8) :
    (responseIoStatus address nb tab).1.length = (nb + 7) / 8 := by
  rw [responseIoStatus, responseIoStatusLoop_length _ _ _ _ _ (by omega), Nat.zero_add]

lemma responseIoStatus_reads (address nb : ℕ) (tab : Mem UInt8) :
    (responseIoStatus address nb tab).2 = List.range' address nb :=
  responseIoStatusLoop_reads _ _ _ _ _

lemma responseIoStatus_packs {tab : Mem UInt8} (address nb : ℕ)
    (htab : ∀ j, address ≤ j → j < address + nb → tab j = 0 ∨ tab j = 1) :
    Packs (responseIoStatus address nb tab).1 nb fun j => decide (tab (address + j) ≠ 0) := by
  have h := responseIoStatusLoop_packs nb address 0 0 (by omega) (by simp) htab
  rw [Nat.zero_add] at h
  exact h.congr fun j _ => by rw [if_neg (by omega), Nat.sub_zero]

end Bits

section Registers

lemma loadRegisters_eq (tab : Mem UInt16) (n i : ℕ) : loadRegisters tab n i =
    ((List.range' i n).flatMap fun k => registerBytes (tab k), List.range' i n) := by
  induction n generalizing i with
  | zero => rfl
  | succ n ih =>
    rw [loadRegisters, ih, List.range'_succ]
    rfl

lemma loadRegisters_length (tab : Mem UInt16) (n i : ℕ) :
    (loadRegisters tab n i).1.length = 2 * n := by
  rw [loadRegisters_eq, List.length_flatMap]
  simp [registerBytes]
  omega

lemma storeRegisters_eq (req : Mem UInt8) (n i j : ℕ) (tab : Mem UInt16) :
    (∀ k, (storeRegisters req n i j tab).1 k =
      if i ≤ k ∧ k < i + n then wordAt req (j + 2 * (k - i)) else tab k) ∧
    (storeRegisters req n i j tab).2 =
      (List.range' i n).map fun k => (k, wordAt req (j + 2 * (k - i))) := by
  induction n generalizing i j tab with
  | zero => exact ⟨fun k => by rw [if_neg (by omega)]; rfl, rfl⟩
  | succ n ih =>
    obtain ⟨h₁, h₂⟩ := ih (i + 1) (j + 2) (tab.store i (wordAt req j))
    have hnext (k : ℕ) (hk : i < k) : j + 2 + 2 * (k - (i + 1)) = j + 2 * (k - i) := by omega
    constructor
    · intro k
      rw [storeRegisters]
      apply (h₁ k).trans
      by_cases hk : k = i
      · subst hk
        simp
      · rw [Mem.store_of_ne _ _ hk]
        by_cases hr : i + 1 ≤ k ∧ k < i + 1 + n
        · rw [if_pos hr, if_pos (by omega), hnext k (by omega)]
        · rw [if_neg hr, if_neg (by omega)]
    · rw [storeRegisters, List.range'_succ, List.map_cons, Nat.sub_self]
      refine congrArg _ (h₂.trans (List.map_congr_left fun k hk => ?_))
      rw [List.mem_range'_1] at hk
      rw [hnext k (by omega)]

end Registers

end LibModbus
