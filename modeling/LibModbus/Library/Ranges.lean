import LibModbus.Library.Memory

/-! Tables as lists, read and replaced by ranges, and arrays that stand for such tables. -/

namespace LibModbus.Library

variable {α β : Type}

def fetch (xs : List α) (a n : ℕ) : Option (List α) :=
  if a + n ≤ xs.length then some ((xs.drop a).take n) else none

def splice (xs : List α) (a : ℕ) (ys : List α) : Option (List α) :=
  if a + ys.length ≤ xs.length then some (xs.take a ++ (ys ++ xs.drop (a + ys.length))) else none

section Lists

variable {xs ys : List α} {a n : ℕ}

lemma fetch_of_lt (h : xs.length < a + n) : fetch xs a n = none := if_neg (Nat.not_le.mpr h)

lemma splice_of_lt (h : xs.length < a + ys.length) : splice xs a ys = none := if_neg (Nat.not_le.mpr h)

lemma fetch_length (h : fetch xs a n = some ys) : ys.length = n := by
  unfold fetch at h
  split_ifs at h with hle
  rw [← Option.some.inj h, List.length_take, List.length_drop]
  omega

lemma fetch_map (f : α → β) (xs : List α) (a n : ℕ) :
    fetch (xs.map f) a n = (fetch xs a n).map (List.map f) := by
  unfold fetch
  rw [List.length_map]
  split_ifs <;> simp [List.map_drop]

lemma splice_map (f : α → β) (xs : List α) (a : ℕ) (ys : List α) :
    splice (xs.map f) a (ys.map f) = (splice xs a ys).map (List.map f) := by
  unfold splice
  rw [List.length_map, List.length_map]
  split_ifs <;> simp [List.map_drop]

lemma splice_length {zs : List α} (h : splice xs a ys = some zs) : zs.length = xs.length := by
  unfold splice at h
  split_ifs at h with hle
  rw [← Option.some.inj h]
  simp only [List.length_append, List.length_take, List.length_drop]
  omega

lemma fetch_splice {zs : List α} (h : splice xs a ys = some zs) : fetch zs a ys.length = some ys := by
  have hlen := splice_length h
  unfold splice at h
  split_ifs at h with hle
  have ha : (xs.take a).length = a := by
    rw [List.length_take]
    omega
  rw [fetch, if_pos (by omega), ← Option.some.inj h, List.drop_left' ha, List.take_left]

lemma fetch_splice_apart {zs : List α} {b : ℕ} (h : splice xs a ys = some zs)
    (hapart : b + n ≤ a ∨ a + ys.length ≤ b) : fetch zs b n = fetch xs b n := by
  have hlen := splice_length h
  unfold splice at h
  split_ifs at h with hle
  unfold fetch
  rw [hlen]
  split_ifs with hb
  · refine congrArg some (List.ext_getElem? fun i => ?_)
    simp only [List.getElem?_take, List.getElem?_drop]
    split_ifs with hi
    · rw [← Option.some.inj h]
      rcases hapart with hapart | hapart
      · rw [List.getElem?_append_left (by rw [List.length_take]; omega), List.getElem?_take,
          if_pos (by omega)]
      · have ha : (xs.take a).length = a := by
          rw [List.length_take]
          omega
        rw [List.getElem?_append_right (by omega), ha, List.getElem?_append_right (by omega),
          List.getElem?_drop]
        congr 1
        omega
    · rfl
  · rfl

end Lists

section Arrays

variable {m : Mem α} {size a n : ℕ} {ys : List α}

lemma fetch_slice (h : a + n ≤ size) : fetch (m.slice 0 size) a n = some (m.slice a n) := by
  rw [fetch, Mem.slice_length, if_pos h]
  refine congrArg some (List.ext_getElem ?_ fun k h₁ h₂ => ?_)
  · simp only [List.length_take, List.length_drop, Mem.slice_length]
    omega
  · rw [List.getElem_take, List.getElem_drop, Mem.slice_getElem, Mem.slice_getElem, Nat.zero_add]

lemma splice_slice (h : a + ys.length ≤ size) :
    splice (m.slice 0 size) a ys = some ((m.write a ys).slice 0 size) := by
  rw [splice, Mem.slice_length, if_pos h]
  refine congrArg some (List.ext_getElem ?_ fun k h₁ h₂ => ?_)
  · simp only [List.length_append, List.length_take, List.length_drop, Mem.slice_length]
    omega
  have ha : ((m.slice 0 size).take a).length = a := by
    rw [List.length_take, Mem.slice_length]
    omega
  rw [Mem.slice_getElem, Nat.zero_add]
  by_cases hk : k < a
  · rw [List.getElem_append_left (by omega), List.getElem_take, Mem.slice_getElem, Nat.zero_add,
      Mem.write_below _ _ hk]
  · rw [List.getElem_append_right (by omega)]
    by_cases hky : k < a + ys.length
    · obtain ⟨j, rfl⟩ : ∃ j, k = a + j := ⟨k - a, by omega⟩
      rw [List.getElem_append_left (by omega), Mem.write_add _ (by omega)]
      congr 1
      omega
    · rw [List.getElem_append_right (by omega), List.getElem_drop, Mem.slice_getElem,
        Mem.write_above _ _ (by omega)]
      congr 1
      omega

end Arrays

end LibModbus.Library
