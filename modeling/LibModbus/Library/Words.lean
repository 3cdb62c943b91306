import LibModbus.Library.Memory
import Mathlib.Tactic

/-! Sixteen bit words as two bytes, high byte first. -/

namespace LibModbus.Library

def hiByte (x : ℤ) : UInt8 := UInt8.ofInt (x >>> (8 : ℕ))

def loByte (x : ℤ) : UInt8 := UInt8.ofInt (x % 256)

def word (hi lo : UInt8) : ℕ := hi.toNat <<< 8 + lo.toNat

lemma toNat_ofInt (x : ℤ) : ((UInt8.ofInt x).toNat : ℤ) = x % 256 := by
  simp only [UInt8.ofInt, UInt8.toNat_ofNat']
  omega

lemma hiByte_toNat (x : ℤ) : ((hiByte x).toNat : ℤ) = x / 256 % 256 := by
  rw [hiByte, toNat_ofInt, Int.shiftRight_eq_div_pow]
  norm_num

lemma loByte_toNat (x : ℤ) : ((loByte x).toNat : ℤ) = x % 256 := by
  rw [loByte, toNat_ofInt, Int.emod_emod_of_dvd x (dvd_refl 256)]

lemma word_eq (hi lo : UInt8) : word hi lo = hi.toNat * 256 + lo.toNat := by
  simp [word, Nat.shiftLeft_eq]

lemma word_lt (hi lo : UInt8) : word hi lo < 65536 := by
  have := hi.toNat_lt
  have := lo.toNat_lt
  rw [word_eq]
  omega

lemma word_bytes (x : ℤ) : (word (hiByte x) (loByte x) : ℤ) = x % 65536 := by
  rw [word_eq]
  push_cast
  rw [hiByte_toNat, loByte_toNat]
  omega

lemma word_bytes_nat {n : ℕ} (h : n < 65536) : word (hiByte n) (loByte n) = n := by
  have := word_bytes n
  omega

@[simp] lemma hiByte_word (hi lo : UInt8) : hiByte (word hi lo) = hi := by
  apply UInt8.toNat_inj.mp
  have := hiByte_toNat (word hi lo)
  have := hi.toNat_lt
  have := lo.toNat_lt
  rw [word_eq] at *
  push_cast at *
  omega

@[simp] lemma loByte_word (hi lo : UInt8) : loByte (word hi lo) = lo := by
  apply UInt8.toNat_inj.mp
  have := loByte_toNat (word hi lo)
  have := hi.toNat_lt
  have := lo.toNat_lt
  rw [word_eq] at *
  push_cast at *
  omega

def registerBytes (x : UInt16) : List UInt8 := [hiByte x.toNat, loByte x.toNat]

def wordAt (m : Mem UInt8) (j : ℕ) : UInt16 := UInt16.ofNat (word (m j) (m (j + 1)))

lemma flatMap_registerBytes_length (xs : List UInt16) :
    (xs.flatMap registerBytes).length = 2 * xs.length := by
  simp [registerBytes, List.length_flatMap]
  omega

lemma wordAt_registerBytes {m : Mem UInt8} {j : ℕ} {xs : List UInt16}
    (hm : ∀ k (h : k < (xs.flatMap registerBytes).length), m (j + k) = (xs.flatMap registerBytes)[k])
    {i : ℕ} (hi : i < xs.length) : wordAt m (j + 2 * i) = xs[i] := by
  induction xs generalizing i j with
  | nil => exact absurd hi (Nat.not_lt_zero i)
  | cons x xs ih =>
    cases i with
    | zero =>
      have h₀ : m j = hiByte x.toNat := hm 0 (by simp [registerBytes])
      have h₁ : m (j + 1) = loByte x.toNat := hm 1 (by simp [registerBytes])
      rw [Nat.mul_zero, Nat.add_zero, wordAt, h₀, h₁, word_bytes_nat x.toNat_lt]
      exact UInt16.ofNat_toNat
    | succ i =>
      have h := ih (j := j + 2) (i := i) (fun k hk => ?_) (by simpa using hi)
      · rw [show j + 2 * (i + 1) = j + 2 + 2 * i by omega, h]
        rfl
      · rw [show j + 2 + k = j + (k + 2) by omega]
        apply hm (k + 2)
        rw [flatMap_registerBytes_length] at hk ⊢
        rw [List.length_cons]
        omega

lemma registerBytes_wordAt (m : Mem UInt8) (j : ℕ) :
    registerBytes (wordAt m j) = [m j, m (j + 1)] := by
  have hword : (wordAt m j).toNat = word (m j) (m (j + 1)) :=
    UInt16.toNat_ofNat_of_lt' (word_lt _ _)
  rw [registerBytes, hword, hiByte_word, loByte_word]

lemma flatMap_wordAt (m : Mem UInt8) (j n : ℕ) :
    ((List.range n).map fun i => wordAt m (j + 2 * i)).flatMap registerBytes =
      m.slice j (2 * n) := by
  induction n with
  | zero => rfl
  | succ n ih =>
    rw [List.range_succ, List.map_append, List.flatMap_append, ih, Nat.mul_add, Mem.slice, Mem.slice]
    simp [List.range_succ, registerBytes_wordAt, Nat.add_assoc]

end LibModbus.Library
