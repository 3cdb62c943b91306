import Mathlib.Data.List.GetD
import Mathlib.Data.List.Range
import Mathlib.Tactic.Common

/-! An array reached through a pointer: every index holds some value, also past the declared end. -/

namespace LibModbus.Library

abbrev Mem (α : Type) := ℕ → α

namespace Mem

variable {α : Type}

def store (m : Mem α) (i : ℕ) (a : α) : Mem α := fun j => if j = i then a else m j

def write (m : Mem α) (i : ℕ) (xs : List α) : Mem α := fun j =>
  if i ≤ j then xs.getD (j - i) (m j) else m j

def slice (m : Mem α) (i n : ℕ) : List α := (List.range n).map fun k => m (i + k)

@[simp] lemma store_self (m : Mem α) (i : ℕ) (a : α) : m.store i a i = a := by simp [store]

lemma store_of_ne {i j : ℕ} (m : Mem α) (a : α) (h : j ≠ i) : m.store i a j = m j := by
  simp [store, h]

lemma write_below {i j : ℕ} (m : Mem α) (xs : List α) (h : j < i) : m.write i xs j = m j := by
  simp [write, Nat.not_le.mpr h]

lemma write_above {i j : ℕ} (m : Mem α) (xs : List α) (h : i + xs.length ≤ j) :
    m.write i xs j = m j := by
  have hj : i ≤ j := by omega
  rw [write, if_pos hj, List.getD_eq_default _ _ (by omega)]

lemma write_add {i k : ℕ} (m : Mem α) {xs : List α} (h : k < xs.length) :
    m.write i xs (i + k) = xs[k] := by
  rw [write, if_pos (Nat.le_add_right i k), Nat.add_sub_cancel_left, List.getD_eq_getElem _ _ h]

@[simp] lemma write_nil (m : Mem α) (i : ℕ) : m.write i [] = m := by
  funext j
  simp [write]

lemma write_append (m : Mem α) (i : ℕ) (xs ys : List α) :
    (m.write i xs).write (i + xs.length) ys = m.write i (xs ++ ys) := by
  funext j
  by_cases hi : i ≤ j
  · by_cases hx : j < i + xs.length
    · rw [write_below _ _ hx]
      simp only [write, if_pos hi]
      rw [List.getD_append _ _ _ _ (by omega)]
    · simp only [write, if_pos hi, if_pos (Nat.not_lt.mp hx)]
      rw [List.getD_append_right _ _ _ _ (by omega), List.getD_eq_default xs _ (by omega)]
      congr 1
      omega
  · simp [write, hi, show ¬i + xs.length ≤ j by omega]

lemma write_take (m : Mem α) (xs : List α) {n j : ℕ} (hj : j < n) :
    m.write 0 (xs.take n) j = m.write 0 xs j := by
  simp [write, List.getD_eq_getElem?_getD, hj]

lemma write_apply (m : Mem α) (i : ℕ) (xs : List α) (j : ℕ) : m.write i xs j =
    if h : i ≤ j ∧ j < i + xs.length then xs[j - i] else m j := by
  split_ifs with h
  · rw [write, if_pos h.1, List.getD_eq_getElem]
  · rcases Nat.lt_or_ge j i with hj | hj
    · exact write_below _ _ hj
    · exact write_above _ _ (by omega)

lemma write_singleton (m : Mem α) (i : ℕ) (a : α) : m.write i [a] = m.store i a := by
  funext j
  rw [write_apply, store]
  split_ifs with h h' h'
  · obtain rfl := h'
    simp
  · simp at h
    omega
  · simp at h
    omega
  · rfl

@[simp] lemma slice_length (m : Mem α) (i n : ℕ) : (m.slice i n).length = n := by simp [slice]

lemma slice_getElem (m : Mem α) (i n k : ℕ) (h : k < (m.slice i n).length) :
    (m.slice i n)[k] = m (i + k) := by simp [slice]

lemma slice_succ (m : Mem α) (i n : ℕ) : m.slice i (n + 1) = m i :: m.slice (i + 1) n := by
  rw [slice, List.range_succ_eq_map, List.map_cons, List.map_map, slice]
  congr 1
  exact List.map_congr_left fun k _ => by simp only [Function.comp_apply]; congr 1; omega

lemma slice_drop (m : Mem α) (i k n : ℕ) : (m.slice i (k + n)).drop k = m.slice (i + k) n := by
  apply List.ext_getElem
  · simp
  · intro j h₁ h₂
    rw [List.getElem_drop, slice_getElem, slice_getElem, Nat.add_assoc]

lemma slice_congr {m m' : Mem α} {i n : ℕ} (h : ∀ j, i ≤ j → j < i + n → m j = m' j) :
    m.slice i n = m'.slice i n := by
  apply List.map_congr_left
  intro k hk
  rw [List.mem_range] at hk
  exact h (i + k) (by omega) (by omega)

def Holds (m : Mem α) (xs : List α) : Prop := ∀ j (h : j < xs.length), m j = xs[j]

lemma holds_write (m : Mem α) (xs ys : List α) : (m.write 0 (xs ++ ys)).Holds xs := fun j h => by
  have hj : j < (xs ++ ys).length := by
    rw [List.length_append]
    omega
  have hw := write_add (i := 0) m hj
  rw [Nat.zero_add] at hw
  rw [hw, List.getElem_append_left h]

lemma holds_write_self (m : Mem α) (xs : List α) : (m.write 0 xs).Holds xs := by
  simpa using holds_write m xs []

lemma Holds.getD {m : Mem α} {xs : List α} (h : m.Holds xs) (a : α) {j : ℕ} (hj : j < xs.length) :
    m j = xs.getD j a := by
  rw [h j hj, List.getD_eq_getElem _ _ hj]

lemma getD_holds (xs : List α) (a : α) : Holds (xs.getD · a) xs :=
  fun _ hj => List.getD_eq_getElem _ _ hj

section Ended

variable {m : Mem α} {z : α} {xs ys : List α}

lemma Holds.ended_length_le (hx : ∀ x ∈ xs, x ≠ z) (h : m.Holds (xs ++ [z])) (h' : m.Holds (ys ++ [z])) :
    xs.length ≤ ys.length := by
  by_contra hlt
  rw [not_le] at hlt
  have hinside := h ys.length (by rw [List.length_append]; omega)
  have hend := h' ys.length (by simp)
  rw [List.getElem_append_left hlt] at hinside
  rw [List.getElem_concat_length rfl] at hend
  exact hx _ (List.getElem_mem hlt) (hinside.symm.trans hend)

lemma Holds.ended_inj (hx : ∀ x ∈ xs, x ≠ z) (hy : ∀ y ∈ ys, y ≠ z) (h : m.Holds (xs ++ [z]))
    (h' : m.Holds (ys ++ [z])) : xs = ys := by
  apply List.ext_getElem
  · exact Nat.le_antisymm (h.ended_length_le hx h') (h'.ended_length_le hy h)
  · intro j hj hj'
    have hleft := h j (by rw [List.length_append]; omega)
    have hright := h' j (by rw [List.length_append]; omega)
    rw [List.getElem_append_left hj] at hleft
    rw [List.getElem_append_left hj'] at hright
    exact hleft.symm.trans hright

end Ended

lemma Holds.slice {m : Mem α} {xs : List α} (h : m.Holds xs) : m.slice 0 xs.length = xs := by
  apply List.ext_getElem
  · simp
  · intro k h₁ h₂
    rw [slice_getElem, Nat.zero_add, h k h₂]

end Mem

end LibModbus.Library
