import LibModbus.Library.Memory

/-! The stores of a function into an array, in order, with the values stored. -/

namespace LibModbus.Library

variable {α : Type}

def storesAt : ℕ → List α → List (ℕ × α)
  | _, [] => []
  | i, x :: xs => (i, x) :: storesAt (i + 1) xs

lemma storesAt_bounds {i : ℕ} {xs : List α} {p : ℕ × α} (h : p ∈ storesAt i xs) :
    i ≤ p.1 ∧ p.1 < i + xs.length := by
  induction xs generalizing i with
  | nil => exact absurd h List.not_mem_nil
  | cons x xs ih =>
    rw [List.length_cons]
    rcases List.mem_cons.mp h with rfl | h
    · dsimp only
      omega
    · have hlater := ih h
      omega

namespace Mem

def replay (m : Mem α) (stores : List (ℕ × α)) : Mem α :=
  stores.foldl (fun m p => m.store p.1 p.2) m

lemma replay_cons (m : Mem α) (i : ℕ) (x : α) (stores : List (ℕ × α)) :
    m.replay ((i, x) :: stores) = (m.store i x).replay stores := rfl

lemma replay_append (m : Mem α) (stores stores' : List (ℕ × α)) :
    m.replay (stores ++ stores') = (m.replay stores).replay stores' := List.foldl_append

lemma store_store (m : Mem α) (i : ℕ) (x y : α) : (m.store i x).store i y = m.store i y := by
  funext j
  by_cases hj : j = i
  · rw [hj, store_self, store_self]
  · rw [store_of_ne _ _ hj, store_of_ne _ _ hj, store_of_ne _ _ hj]

lemma store_write (m : Mem α) (i : ℕ) (x : α) (xs : List α) :
    (m.store i x).write (i + 1) xs = m.write i (x :: xs) := by
  have happend := write_append m i [x] xs
  rwa [write_singleton, List.length_singleton, List.singleton_append] at happend

lemma replay_storesAt (m : Mem α) (i : ℕ) (xs : List α) : m.replay (storesAt i xs) = m.write i xs := by
  induction xs generalizing m i with
  | nil => rw [write_nil, storesAt, replay, List.foldl_nil]
  | cons x xs ih => rw [storesAt, replay_cons, ih, store_write]

end Mem

end LibModbus.Library
