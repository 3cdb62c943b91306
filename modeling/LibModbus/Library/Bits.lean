import LibModbus.Library.Memory
import Mathlib.Data.Nat.Bitwise

/-! Flags packed into bytes, eight to a byte and the lowest bit first. -/

namespace LibModbus.Library

def bitAt (bytes : Mem UInt8) (i : ℕ) : Bool := (bytes (i / 8)).toNat.testBit (i % 8)

structure Packs (bytes : List UInt8) (n : ℕ) (f : ℕ → Bool) : Prop where
  length : bytes.length = (n + 7) / 8
  bit : ∀ i < n, bitAt (bytes.getD · 0) i = f i

lemma bitAt_congr {m m' : Mem UInt8} {i : ℕ} (h : m (i / 8) = m' (i / 8)) : bitAt m i = bitAt m' i := by
  rw [bitAt, bitAt, h]

lemma and_one_shiftLeft_ne_zero (x k : ℕ) : x &&& (1 <<< k) ≠ 0 ↔ x.testBit k = true := by
  rw [Nat.one_shiftLeft, Nat.and_two_pow]
  cases x.testBit k <;> simp

lemma and_two_pow_ne_zero (x k : ℕ) : x &&& 2 ^ k ≠ 0 ↔ x.testBit k = true := by
  rw [Nat.and_two_pow]
  cases x.testBit k <;> simp

lemma toUInt8_toNat (b : Bool) : b.toUInt8.toNat = if b then 1 else 0 := by
  cases b <;> rfl

lemma toUInt8_flag (b : Bool) : b.toUInt8 = 0 ∨ b.toUInt8 = 1 := by
  cases b
  · exact .inl rfl
  · exact .inr rfl

lemma toUInt8_ne_zero (b : Bool) : b.toUInt8 ≠ 0 ↔ b = true := by
  cases b <;> decide

@[simp] lemma decide_toUInt8_ne_zero (b : Bool) : decide (b.toUInt8 ≠ 0) = b := by
  cases b <;> rfl

lemma toUInt8_decide_ne_zero {x : UInt8} (h : x = 0 ∨ x = 1) : (decide (x ≠ 0)).toUInt8 = x := by
  rcases h with rfl | rfl <;> rfl

lemma not_testBit (x : UInt8) {k : ℕ} (hk : k < 8) : (~~~x).toNat.testBit k = !x.toNat.testBit k := by
  have h : (~~~x).toBitVec.getLsbD k = !x.toBitVec.getLsbD k := by
    rw [UInt8.toBitVec_not, BitVec.getLsbD_not, decide_eq_true hk, Bool.true_and]
  exact h

lemma eq_of_bits {x y : UInt8} (h : ∀ s < 8, x.toNat.testBit s = y.toNat.testBit s) : x = y := by
  apply UInt8.toNat_inj.mp
  apply Nat.eq_of_testBit_eq
  intro s
  by_cases hs : s < 8
  · exact h s hs
  · have hpow : 256 ≤ 2 ^ s := Nat.pow_le_pow_right (n := 2) (by omega) (not_lt.mp hs)
    rw [Nat.testBit_lt_two_pow (x.toNat_lt.trans_le hpow), Nat.testBit_lt_two_pow (y.toNat_lt.trans_le hpow)]

lemma testBit_or_shiftLeft (value x : UInt8) {i s : ℕ} (hs : s < 8) :
    (value ||| UInt8.ofNat (x.toNat <<< i)).toNat.testBit s = true ↔
      value.toNat.testBit s = true ∨ i ≤ s ∧ x.toNat.testBit (s - i) = true := by
  rw [UInt8.toNat_or, Nat.testBit_or, UInt8.toNat_ofNat', Nat.testBit_mod_two_pow,
    Nat.testBit_shiftLeft]
  simp [hs]

namespace Packs

variable {bytes : List UInt8} {n : ℕ} {f : ℕ → Bool}

lemma cons {byte : UInt8} (hbyte : ∀ i < 8, i < n → byte.toNat.testBit i = f i) (hn : 0 < n)
    (h : Packs bytes (n - 8) fun i => f (i + 8)) : Packs (byte :: bytes) n f where
  length := by
    rw [List.length_cons, h.length]
    omega
  bit i hi := by
    by_cases h8 : i < 8
    · simp only [bitAt, Nat.div_eq_of_lt h8, Nat.mod_eq_of_lt h8]
      exact hbyte i h8 hi
    · have hb := h.bit (i - 8) (by omega)
      rw [Nat.sub_add_cancel (by omega)] at hb
      rw [← hb]
      obtain ⟨k, hk⟩ : ∃ k, i / 8 = k + 1 := ⟨i / 8 - 1, by omega⟩
      simp only [bitAt, hk, List.getD_cons_succ]
      rw [show (i - 8) / 8 = k by omega, show (i - 8) % 8 = i % 8 by omega]

lemma congr {g : ℕ → Bool} (h : Packs bytes n f) (hfg : ∀ i < n, f i = g i) : Packs bytes n g :=
  ⟨h.length, fun i hi => (h.bit i hi).trans (hfg i hi)⟩

lemma nil : Packs [] 0 f := ⟨rfl, fun i hi => absurd hi (Nat.not_lt_zero i)⟩

end Packs

end LibModbus.Library
