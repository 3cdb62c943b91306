import LibModbus.Library.Memory
import Mathlib.Algebra.BigOperators.Intervals
import Mathlib.Data.Nat.Bitwise

/-! Integers of several bytes, as they stand in the memory of a little-endian host. -/

namespace LibModbus.Library

section Bytes

variable {size : ℕ}

def byteOf (v : BitVec (8 * size)) (k : ℕ) : UInt8 := .ofBitVec (v.extractLsb' (8 * k) 8)

def ofBytes (size : ℕ) (f : ℕ → UInt8) : BitVec (8 * size) :=
  .ofNat _ (Nat.ofBits fun i : Fin (8 * size) => (f (i / 8)).toNat.testBit (i % 8))

lemma getLsbD_ofBytes (f : ℕ → UInt8) {i : ℕ} (hi : i < 8 * size) :
    (ofBytes size f).getLsbD i = (f (i / 8)).toNat.testBit (i % 8) := by
  rw [ofBytes, BitVec.getLsbD_ofNat, decide_eq_true hi, Bool.true_and, Nat.testBit_ofBits_lt _ _ hi]

lemma testBit_byteOf (v : BitVec (8 * size)) {i k : ℕ} (hi : i < 8) :
    (byteOf v k).toNat.testBit i = v.getLsbD (8 * k + i) := by
  have h : (byteOf v k).toNat.testBit i = (v.extractLsb' (8 * k) 8).getLsbD i := rfl
  rw [h, BitVec.getLsbD_extractLsb', decide_eq_true hi, Bool.true_and]

lemma byteOf_toNat (v : BitVec (8 * size)) (k : ℕ) : (byteOf v k).toNat = v.toNat / 256 ^ k % 256 := by
  have h : (byteOf v k).toNat = (v.extractLsb' (8 * k) 8).toNat := rfl
  rw [h, BitVec.extractLsb'_toNat, Nat.shiftRight_eq_div_pow, Nat.pow_mul]

def byteSwapped (v : BitVec (8 * size)) : BitVec (8 * size) :=
  ofBytes size fun k => byteOf v (size - 1 - k)

lemma ofBytes_byteOf (v : BitVec (8 * size)) : ofBytes size (byteOf v) = v := by
  apply BitVec.eq_of_getLsbD_eq
  intro i hi
  rw [getLsbD_ofBytes _ hi, testBit_byteOf v (Nat.mod_lt i (by decide)), Nat.div_add_mod]

lemma byteOf_ofBytes (f : ℕ → UInt8) {k : ℕ} (hk : k < size) : byteOf (ofBytes size f) k = f k := by
  apply UInt8.eq_of_toBitVec_eq
  apply BitVec.eq_of_getLsbD_eq
  intro i hi
  have hbit : (byteOf (ofBytes size f) k).toNat.testBit i = (f k).toNat.testBit i := by
    rw [testBit_byteOf _ hi, getLsbD_ofBytes f (by omega), show (8 * k + i) / 8 = k by omega,
      show (8 * k + i) % 8 = i by omega]
  exact hbit

lemma ofBytes_congr {f g : ℕ → UInt8} (h : ∀ k < size, f k = g k) : ofBytes size f = ofBytes size g := by
  unfold ofBytes
  congr 1
  congr 1
  funext i
  rw [h (i / 8) (by omega)]

lemma byteOf_byteSwapped (v : BitVec (8 * size)) {k : ℕ} (hk : k < size) :
    byteOf (byteSwapped v) k = byteOf v (size - 1 - k) :=
  byteOf_ofBytes _ hk

@[simp] lemma byteOf_zero (k : ℕ) : byteOf (0 : BitVec (8 * size)) k = 0 := by
  apply UInt8.eq_of_toBitVec_eq
  simp [byteOf]

end Bytes

section Digits

lemma sum_digits (b x n : ℕ) : ∑ i ∈ Finset.range n, x / b ^ i % b * b ^ i = x % b ^ n := by
  induction n with
  | zero => simp [Nat.mod_one]
  | succ n ih => rw [Finset.sum_range_succ, ih, Nat.mod_pow_succ, Nat.mul_comm (b ^ n)]

lemma toNat_of_words {k : ℕ} (v : BitVec (8 * (2 * k))) {g : ℕ → UInt16}
    (h : ∀ j < 2 * k, byteOf v j = @byteOf 2 (g (j / 2)).toBitVec (j % 2)) :
    v.toNat = ∑ i ∈ Finset.range k, (g i).toNat * 65536 ^ i := by
  have hword : ∀ i < k, v.toNat / 65536 ^ i % 65536 = (g i).toNat := by
    intro i hi
    have hbits : v.extractLsb' (16 * i) 16 = (g i).toBitVec := by
      apply BitVec.eq_of_getLsbD_eq
      intro t ht
      have hbyte := h (2 * i + t / 8) (by omega)
      rw [show (2 * i + t / 8) / 2 = i by omega, show (2 * i + t / 8) % 2 = t / 8 by omega] at hbyte
      have hbit := congrArg (fun b : UInt8 => b.toNat.testBit (t % 8)) hbyte
      rw [testBit_byteOf _ (Nat.mod_lt t (by decide)), testBit_byteOf _ (Nat.mod_lt t (by decide)),
        Nat.div_add_mod, show 8 * (2 * i + t / 8) + t % 8 = 16 * i + t by omega] at hbit
      rw [BitVec.getLsbD_extractLsb', decide_eq_true ht, Bool.true_and]
      exact hbit
    have hnat := congrArg BitVec.toNat hbits
    rw [BitVec.extractLsb'_toNat, Nat.shiftRight_eq_div_pow, Nat.pow_mul] at hnat
    exact hnat
  have hlt : v.toNat < 65536 ^ k := by
    have hpow : 2 ^ (8 * (2 * k)) = 65536 ^ k := by
      rw [show 8 * (2 * k) = 16 * k by omega, Nat.pow_mul]
    exact hpow ▸ v.isLt
  calc v.toNat = v.toNat % 65536 ^ k := (Nat.mod_eq_of_lt hlt).symm
    _ = ∑ i ∈ Finset.range k, v.toNat / 65536 ^ i % 65536 * 65536 ^ i := (sum_digits _ _ _).symm
    _ = ∑ i ∈ Finset.range k, (g i).toNat * 65536 ^ i :=
      Finset.sum_congr rfl fun i hi => by rw [hword i (Finset.mem_range.mp hi)]

end Digits

/-- The position of a byte after the bytes of every element were put in reverse. -/
def mirror (size j : ℕ) : ℕ := size * (j / size) + (size - 1 - j % size)

section Mirror

variable {size count j : ℕ}

lemma mirror_div_mod (h : 0 < size) (j : ℕ) :
    mirror size j / size = j / size ∧ mirror size j % size = size - 1 - j % size := by
  have hr : size - 1 - j % size < size := by omega
  exact ⟨by rw [mirror, Nat.mul_add_div h, Nat.div_eq_of_lt hr, Nat.add_zero],
    by rw [mirror, Nat.mul_add_mod, Nat.mod_eq_of_lt hr]⟩

lemma mirror_mirror (h : 0 < size) (j : ℕ) : mirror size (mirror size j) = j := by
  obtain ⟨hd, hm⟩ := mirror_div_mod h j
  have hlt := Nat.mod_lt j h
  rw [mirror, hd, hm, show size - 1 - (size - 1 - j % size) = j % size by omega, Nat.div_add_mod]

lemma mirror_lt (h : j < size * count) : mirror size j < size * count := by
  have hsize : 0 < size := Nat.pos_of_mul_pos_right (Nat.zero_lt_of_lt h)
  rw [Nat.mul_comm, ← Nat.div_lt_iff_lt_mul hsize, (mirror_div_mod hsize j).1]
  exact Nat.div_lt_of_lt_mul h

end Mirror

namespace Mem

variable {size : ℕ}

def loadInt (m : Mem UInt8) (size i : ℕ) : BitVec (8 * size) := ofBytes size fun k => m (size * i + k)

def storeInt (m : Mem UInt8) (i : ℕ) (v : BitVec (8 * size)) : Mem UInt8 := fun j =>
  if size * i ≤ j ∧ j < size * i + size then byteOf v (j - size * i) else m j

def ofInts (xs : List (BitVec (8 * size))) : List UInt8 :=
  xs.flatMap fun x => (List.range size).map (byteOf x)

lemma byteOf_loadInt (m : Mem UInt8) (i : ℕ) {k : ℕ} (hk : k < size) :
    byteOf (m.loadInt size i) k = m (size * i + k) :=
  byteOf_ofBytes _ hk

lemma loadInt_eq {m : Mem UInt8} {i : ℕ} {v : BitVec (8 * size)}
    (h : ∀ k < size, m (size * i + k) = byteOf v k) : m.loadInt size i = v :=
  (ofBytes_congr h).trans (ofBytes_byteOf v)

lemma ofInts_length (xs : List (BitVec (8 * size))) : (ofInts xs).length = size * xs.length := by
  induction xs with
  | nil => rfl
  | cons x xs ih =>
    rw [ofInts, List.flatMap_cons, List.length_append, List.length_map, List.length_range,
      List.length_cons]
    rw [ofInts] at ih
    rw [ih, Nat.mul_succ, Nat.add_comm]

lemma ofInts_getElem (xs : List (BitVec (8 * size))) {i k : ℕ} (hi : i < xs.length) (hk : k < size)
    (h : size * i + k < (ofInts xs).length) : (ofInts xs)[size * i + k] = byteOf xs[i] k := by
  induction xs generalizing i with
  | nil => exact absurd hi (Nat.not_lt_zero i)
  | cons x xs ih =>
    have hhead : ((List.range size).map (byteOf x)).length = size := by simp
    cases i with
    | zero =>
      simp only [ofInts, List.flatMap_cons, Nat.mul_zero, Nat.zero_add]
      rw [List.getElem_append_left (by omega)]
      simp
    | succ i =>
      have hi' : i < xs.length := Nat.lt_of_succ_lt_succ hi
      have h' : size * i + k < (ofInts xs).length := by
        have := Nat.mul_le_mul_left size hi'
        rw [ofInts_length]
        rw [Nat.mul_succ] at this
        omega
      have hidx : size * (i + 1) + k - ((List.range size).map (byteOf x)).length = size * i + k := by
        rw [hhead, Nat.mul_succ]
        omega
      simp only [ofInts, List.flatMap_cons]
      rw [List.getElem_append_right (by rw [hhead, Nat.mul_succ]; omega)]
      simp only [hidx]
      exact ih hi' h'

end Mem

end LibModbus.Library
