import LibModbus.Device.Addresses
import LibModbus.Model.Storage

/-! Strings, and the two versions of `strlcpy`. -/

namespace LibModbus

open Library

lemma CString.ne_zero (s : CString) : ∀ b ∈ s.val, b ≠ 0 := by
  rintro b hb rfl
  exact s.noNull hb

lemma CString.strlen (s : CString) : LibModbus.strlen s.val = s.val.length := strlen_eq s.ne_zero

variable {cs : List UInt8} {dest : Mem UInt8} {n i : ℕ}

lemma traverse_ended (h : ∀ c ∈ cs, c ≠ 0) : traverse (cs ++ [0]) = cs.length + 1 := by
  induction cs with
  | nil => rfl
  | cons c cs ih =>
    rw [List.forall_mem_cons] at h
    rw [List.cons_append, traverse, if_neg h.1, ih h.2, List.length_cons, Nat.add_comm 1]

lemma write_cons (m : Mem UInt8) (i : ℕ) (c : UInt8) (cs : List UInt8) :
    m.write i (c :: cs) = (m.store i c).write (i + 1) cs := by
  rw [← Mem.write_singleton, show i + 1 = i + [c].length from rfl, Mem.write_append]
  rfl

lemma strlcpyLoop_short (h : ∀ c ∈ cs, c ≠ 0) (hn : cs.length < n) :
    strlcpyLoop n i (cs ++ [0]) dest =
      (n - cs.length, i + cs.length + 1, [], dest.write i (cs ++ [0])) := by
  induction cs generalizing n i dest with
  | nil =>
    obtain ⟨k, rfl⟩ := Nat.exists_eq_succ_of_ne_zero hn.ne'
    rw [List.nil_append, strlcpyLoop, if_pos rfl, Mem.write_singleton]
    rfl
  | cons c cs ih =>
    obtain ⟨k, rfl⟩ := Nat.exists_eq_succ_of_ne_zero (Nat.ne_zero_of_lt hn)
    rw [List.forall_mem_cons] at h
    rw [List.length_cons] at hn
    rw [List.cons_append, strlcpyLoop, if_neg h.1, ih h.2 (by omega), ← write_cons, List.length_cons]
    exact Prod.ext (by dsimp only; omega) (Prod.ext (by dsimp only; omega) rfl)

lemma strlcpyLoop_long (h : ∀ c ∈ cs, c ≠ 0) (hn : n ≤ cs.length) :
    strlcpyLoop n i (cs ++ [0]) dest =
      (0, i + n, cs.drop n ++ [0], dest.write i (cs.take n)) := by
  induction n generalizing cs i dest with
  | zero => cases cs <;> simp [strlcpyLoop]
  | succ n ih =>
    cases cs with
    | nil => cases hn
    | cons c cs =>
      rw [List.forall_mem_cons] at h
      rw [List.cons_append, strlcpyLoop, if_neg h.1, ih h.2 (Nat.le_of_succ_le_succ hn), List.take_succ_cons,
        write_cons, List.drop_succ_cons, Nat.add_assoc, Nat.add_comm 1]

lemma strlcpyPortable_short {src : CString} {k : ℕ} (hfits : src.val.length < k + 1) :
    strlcpyPortable dest src.val (k + 2) = (dest.write 0 (src.val ++ [0]), src.val.length) := by
  have hleft : k + 1 - src.val.length ≠ 0 := by omega
  rw [strlcpyPortable, if_pos ⟨by omega, by omega⟩, show k + 2 - 1 = k + 1 from rfl,
    strlcpyLoop_short src.ne_zero hfits]
  dsimp only
  rw [if_neg hleft, Nat.zero_add, Nat.add_sub_cancel]

lemma strlcpyPortable_long {src : CString} {k : ℕ} (hlong : k + 1 ≤ src.val.length) :
    strlcpyPortable dest src.val (k + 2) =
      ((dest.write 0 (src.val.take (k + 1))).store (k + 1) 0, src.val.length) := by
  have hrest : ∀ c ∈ src.val.drop (k + 1), c ≠ 0 := fun c hc => src.ne_zero c (List.mem_of_mem_drop hc)
  rw [strlcpyPortable, if_pos ⟨by omega, by omega⟩, show k + 2 - 1 = k + 1 from rfl,
    strlcpyLoop_long src.ne_zero hlong]
  dsimp only
  rw [if_pos rfl, if_pos (by omega), traverse_ended hrest, List.length_drop, Nat.zero_add]
  exact Prod.ext rfl (by dsimp only; omega)

/-- Where the system has no `strlcpy`, the one of modbus.c copies and returns the same. -/
theorem strlcpyPortable_eq (dest : Mem UInt8) (src : CString) (destSize : ℕ) :
    strlcpyPortable dest src.val destSize = strlcpy dest src.val destSize := by
  have htraverse := traverse_ended src.ne_zero
  simp only [strlcpy, src.strlen]
  match destSize with
  | 0 => simp [strlcpyPortable, htraverse]
  | 1 => simp [strlcpyPortable, htraverse]
  | k + 2 =>
    rcases Nat.lt_or_ge src.val.length (k + 1) with hfits | hlong
    · rw [strlcpyPortable_short hfits, if_pos (by omega), List.take_of_length_le (by simp)]
    · rw [strlcpyPortable_long hlong, if_neg (by omega), if_pos (by omega), show k + 2 - 1 = k + 1 from rfl,
        List.take_append_of_le_length hlong]

end LibModbus
