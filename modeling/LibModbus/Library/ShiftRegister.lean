import Mathlib.Algebra.BigOperators.Fin
import Mathlib.Data.List.GetD
import Mathlib.Data.ZMod.Basic
import Mathlib.Tactic

/-! Shift registers with feedback: division of polynomials with two coefficients, whose lowest bit is
the coefficient of the highest power. -/

namespace LibModbus.Library.ShiftRegister

section Shift

variable {w : ℕ} (g : BitVec w)

def shift (s : BitVec w) : BitVec w := (s >>> 1) ^^^ if s.getLsbD 0 then g else 0#w

def feed (s : BitVec w) (b : Bool) : BitVec w := shift g (s ^^^ if b then 1#w else 0#w)

def run (s : BitVec w) (bits : List Bool) : BitVec w := bits.foldl (feed g) s

lemma run_append (s : BitVec w) (as bs : List Bool) : run g s (as ++ bs) = run g (run g s as) bs :=
  List.foldl_append

lemma xor_middle (a b c d : BitVec w) : (a ^^^ b) ^^^ (c ^^^ d) = (a ^^^ c) ^^^ (b ^^^ d) := by
  ac_rfl

lemma shift_xor (s t : BitVec w) : shift g (s ^^^ t) = shift g s ^^^ shift g t := by
  have hg : ∀ a b : Bool, (if a ^^ b then g else 0#w) = (if a then g else 0#w) ^^^ if b then g else 0#w := by
    intro a b
    cases a <;> cases b <;> simp
  rw [shift, shift, shift, BitVec.getLsbD_xor, hg, BitVec.ushiftRight_xor_distrib, xor_middle]

lemma feed_xor (s t : BitVec w) (a b : Bool) : feed g (s ^^^ t) (a ^^ b) = feed g s a ^^^ feed g t b := by
  have hone : (if a ^^ b then 1#w else 0#w) = (if a then 1#w else 0#w) ^^^ if b then 1#w else 0#w := by
    cases a <;> cases b <;> simp
  rw [feed, feed, feed, hone, ← shift_xor, xor_middle]

lemma run_xor (s t : BitVec w) {as bs : List Bool} (h : as.length = bs.length) :
    run g (s ^^^ t) (List.zipWith (· ^^ ·) as bs) = run g s as ^^^ run g t bs := by
  induction as generalizing s t bs with
  | nil =>
    obtain rfl := List.length_eq_zero_iff.mp h.symm
    rfl
  | cons a as ih =>
    obtain ⟨b, bs, rfl⟩ := List.exists_cons_of_length_eq_add_one h.symm
    have hstep := ih (feed g s a) (feed g t b) (by simpa using h)
    rw [← feed_xor] at hstep
    exact hstep

lemma shift_zero : shift g 0#w = 0#w := by
  simp [shift]

lemma run_zeros (s : BitVec w) (n : ℕ) :
    run g s (List.replicate n false) = (shift g)^[n] s := by
  induction n generalizing s with
  | zero => rfl
  | succ n ih =>
    have hfeed : feed g s false = shift g s := by simp [feed]
    rw [List.replicate_succ, run, List.foldl_cons, hfeed, Function.iterate_succ_apply]
    exact ih (shift g s)

lemma shift_eq_zero (hg : g.getLsbD (w - 1) = true) {s : BitVec w} (h : shift g s = 0#w) : s = 0#w := by
  have hw : 0 < w := by
    by_contra h0
    rw [BitVec.getLsbD_of_ge _ _ (by omega)] at hg
    exact Bool.false_ne_true hg
  rw [shift] at h
  cases hb : s.getLsbD 0 with
  | true =>
    rw [hb, if_pos rfl] at h
    have htop : ((s >>> 1) ^^^ g).getLsbD (w - 1) = true := by
      rw [BitVec.getLsbD_xor, hg, BitVec.getLsbD_ushiftRight, BitVec.getLsbD_of_ge _ _ (by omega)]
      rfl
    rw [h, BitVec.getLsbD_zero] at htop
    exact absurd htop Bool.false_ne_true
  | false =>
    rw [hb, if_neg Bool.false_ne_true, BitVec.xor_zero] at h
    apply BitVec.eq_of_getLsbD_eq
    intro i hi
    rw [BitVec.getLsbD_zero]
    cases i with
    | zero => exact hb
    | succ i =>
      have hbit := congrArg (BitVec.getLsbD · i) h
      simpa [BitVec.getLsbD_ushiftRight, Nat.add_comm] using hbit

lemma iterate_shift_eq_zero (hg : g.getLsbD (w - 1) = true) (n : ℕ) {s : BitVec w}
    (h : (shift g)^[n] s = 0#w) : s = 0#w := by
  induction n generalizing s with
  | zero => exact h
  | succ n ih => exact shift_eq_zero g hg (ih h)

lemma iterate_shift_xor (n : ℕ) (s t : BitVec w) :
    (shift g)^[n] (s ^^^ t) = (shift g)^[n] s ^^^ (shift g)^[n] t := by
  induction n generalizing s t with
  | zero => rfl
  | succ n ih => rw [Function.iterate_succ_apply, shift_xor, ih]; rfl

def pack (w : ℕ) : List Bool → BitVec w
  | [] => 0#w
  | b :: bs => (pack w bs <<< 1) ^^^ if b then 1#w else 0#w

lemma getLsbD_pack (bs : List Bool) {i : ℕ} (hi : i < w) : (pack w bs).getLsbD i = bs.getD i false := by
  induction bs generalizing i with
  | nil => simp [pack]
  | cons b bs ih =>
    rw [pack, BitVec.getLsbD_xor, BitVec.getLsbD_shiftLeft]
    cases i with
    | zero => cases b <;> simp [hi]
    | succ i =>
      have hone : (if b then 1#w else 0#w).getLsbD (i + 1) = false := by
        cases b <;> simp
      rw [hone, ih (by omega)]
      simp [hi]

lemma shift_shiftLeft {s : BitVec w} (h : s.getLsbD (w - 1) = false) : shift g (s <<< 1) = s := by
  have hlow : (s <<< 1).getLsbD 0 = false := by simp
  rw [shift, hlow, if_neg Bool.false_ne_true, BitVec.xor_zero]
  apply BitVec.eq_of_getLsbD_eq
  intro i hi
  rw [BitVec.getLsbD_ushiftRight, BitVec.getLsbD_shiftLeft]
  by_cases hlast : i + 1 < w
  · simp [Nat.add_comm 1 i, hlast]
  · obtain rfl : i = w - 1 := by omega
    rw [h, decide_eq_false (by omega)]
    simp

lemma run_eq_iterate (s : BitVec w) {bits : List Bool} (h : bits.length ≤ w) :
    run g s bits = (shift g)^[bits.length] (s ^^^ pack w bits) := by
  induction bits generalizing s with
  | nil => simp [run, pack]
  | cons b bs ih =>
    rw [List.length_cons] at h
    have htop : (pack w bs).getLsbD (w - 1) = false := by
      rw [getLsbD_pack bs (by omega), List.getD_eq_default _ _ (by omega)]
    have hstep : shift g (s ^^^ pack w (b :: bs)) = feed g s b ^^^ pack w bs := by
      rw [pack, ← BitVec.xor_assoc, BitVec.xor_assoc s, BitVec.xor_comm (pack w bs <<< 1),
        ← BitVec.xor_assoc, shift_xor, shift_shiftLeft g htop, feed]
    rw [List.length_cons, Function.iterate_succ_apply, hstep]
    exact ih (feed g s b) (by omega)

lemma pack_eq_zero {bits : List Bool} (h : bits.length ≤ w) (hb : pack w bits = 0#w) : true ∉ bits := by
  intro hmem
  obtain ⟨i, hi, hbit⟩ := List.getElem_of_mem hmem
  have hpack := getLsbD_pack bits (show i < w by omega)
  rw [hb, BitVec.getLsbD_zero, List.getD_eq_getElem _ _ hi, hbit] at hpack
  exact Bool.false_ne_true hpack

lemma run_window_ne_zero (hg : g.getLsbD (w - 1) = true) {bits : List Bool} (h : bits.length ≤ w)
    (hb : true ∈ bits) (m n : ℕ) :
    run g 0#w (List.replicate m false ++ (bits ++ List.replicate n false)) ≠ 0#w := by
  intro hrun
  have hbefore : (shift g)^[m] 0#w = 0#w := Function.iterate_fixed (shift_zero g) m
  rw [run_append, run_append, run_zeros, run_zeros, hbefore, run_eq_iterate g _ h,
    BitVec.zero_xor] at hrun
  have hpack := iterate_shift_eq_zero g hg _ (iterate_shift_eq_zero g hg n hrun)
  exact pack_eq_zero h hpack hb

end Shift

section Parity

variable {w : ℕ}

def parity (s : BitVec w) : ZMod 2 := ∑ i : Fin w, if s.getLsbD i then 1 else 0

lemma parity_zero : parity 0#w = 0 := by
  simp [parity]

lemma parity_xor (s t : BitVec w) : parity (s ^^^ t) = parity s + parity t := by
  rw [parity, parity, parity, ← Finset.sum_add_distrib]
  refine Finset.sum_congr rfl fun i _ => ?_
  rw [BitVec.getLsbD_xor]
  cases s.getLsbD i <;> cases t.getLsbD i <;> decide

lemma parity_ushiftRight (s : BitVec w) :
    parity (s >>> 1) + (if s.getLsbD 0 then 1 else 0) = parity s := by
  cases w with
  | zero => simp [parity]
  | succ w =>
    have hlast : (s >>> 1).getLsbD w = false := by
      rw [BitVec.getLsbD_ushiftRight, BitVec.getLsbD_of_ge _ _ (by omega)]
    rw [parity, parity, Fin.sum_univ_castSucc, Fin.sum_univ_succ]
    simp only [Fin.val_castSucc, Fin.val_last, Fin.val_succ, Fin.val_zero, hlast,
      BitVec.getLsbD_ushiftRight, Nat.add_comm 1]
    simp [add_comm]

lemma parity_one : parity (1#(w + 1)) = 1 := by
  rw [parity, Fin.sum_univ_succ]
  simp

variable {g : BitVec (w + 1)} (hg : parity g = 1)

include hg

lemma parity_feed (s : BitVec (w + 1)) (b : Bool) :
    parity (feed g s b) = parity s + if b then 1 else 0 := by
  have hshift (s : BitVec (w + 1)) : parity (shift g s) = parity s := by
    rw [shift, parity_xor, ← parity_ushiftRight s]
    cases s.getLsbD 0
    · simp [parity_zero]
    · simp [hg]
  rw [feed, hshift, parity_xor]
  cases b
  · simp [parity_zero]
  · simp [parity_one]

lemma parity_run (s : BitVec (w + 1)) (bits : List Bool) :
    parity (run g s bits) = parity s + (bits.count true : ℕ) := by
  induction bits generalizing s with
  | nil => simp [run]
  | cons b bs ih =>
    rw [run, List.foldl_cons, ← run, ih, parity_feed hg, List.count_cons]
    cases b <;> simp [add_assoc, add_comm]

end Parity

end LibModbus.Library.ShiftRegister
