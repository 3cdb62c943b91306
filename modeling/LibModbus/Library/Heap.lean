import LibModbus.Library.Program
import Mathlib.Algebra.Order.Ring.Nat
import Mathlib.Logic.Function.Basic

/-! A heap, programs that allocate, use and free its blocks, and which blocks they own. -/

namespace LibModbus.Library

/-- The blocks there are, by their addresses, and the sizes that `malloc` was asked for, the last one first,
with whether it gave a block. -/
structure Heap (α : Type) where
  blocks : ℕ → Option α
  asked : List (ℕ × Bool)

/-- Which address `malloc` returns, if any: for the number of earlier calls, the blocks there are, and the
size asked for. No block takes half of the address space. -/
structure Allocator (α : Type) where
  pick : ℕ → (ℕ → Option α) → ℕ → Option ℕ
  fresh : ∀ {k blocks size p}, pick k blocks size = some p → p ≠ 0 ∧ blocks p = none
  bounded : ∀ {k blocks size}, 2 ^ 63 ≤ size → pick k blocks size = none

def bumpAllocator (α : Type) : Allocator α where
  pick k blocks size := if size < 2 ^ 63 ∧ (blocks (k + 1)).isNone then some (k + 1) else none
  fresh {k blocks size p} hp := by
    split_ifs at hp with hfree
    cases hp
    exact ⟨Nat.succ_ne_zero k, Option.isNone_iff_eq_none.mp hfree.2⟩
  bounded {k blocks size} hsize := if_neg fun hfree => absurd hfree.1 (Nat.not_lt.mpr hsize)

namespace Heap

variable {α β : Type}

def null : ℕ := 0

/-- What is found in a new block comes with the call. -/
def malloc (A : Allocator α) (size : ℕ) (found : α) : Prog (Heap α) ℕ := fun h =>
  match A.pick h.asked.length h.blocks size with
  | none => .done null { h with asked := (size, false) :: h.asked }
  | some p => .done p ⟨Function.update h.blocks p (some found), (size, true) :: h.asked⟩

def deref (h : Heap α) (p : ℕ) : Option α := if p = null then none else h.blocks p

/-- A run that uses an address without a block, or a block of another type, is undefined and goes no
further. -/
def load (p : ℕ) (f : α → Option β) : Prog (Heap α) β := fun h =>
  match (h.deref p).bind f with
  | none => .blocked h
  | some b => .done b h

def modify (p : ℕ) (f : α → Option α) : Prog (Heap α) Unit := fun h =>
  match (h.deref p).bind f with
  | none => .blocked h
  | some a => .done () { h with blocks := Function.update h.blocks p (some a) }

def free (p : ℕ) : Prog (Heap α) Unit := fun h =>
  if p = null then .done () h
  else match h.blocks p with
    | none => .blocked h
    | some _ => .done () { h with blocks := Function.update h.blocks p none }

/-- The last block that was asked for on the way from `h` to `h'` is less than half of the address space,
and was not given. -/
def Refuses (h h' : Heap α) : Prop :=
  ∃ size asked, size < 2 ^ 63 ∧ h'.asked = (size, false) :: asked ∧ h.asked <:+ asked

/-- Beside the blocks there were, those at `own` have been allocated and not freed. -/
structure Owns (blocks₀ : ℕ → Option α) (own : List ℕ) (h : Heap α) : Prop where
  frame : ∀ q, q ∉ own → h.blocks q = blocks₀ q
  fresh : ∀ q ∈ own, q ≠ null ∧ blocks₀ q = none ∧ h.blocks q ≠ none
  nodup : own.Nodup

section Asked

variable {h h₁ h' : Heap α} {p : ℕ}

def Extends (h h' : Heap α) : Prop := h.asked <:+ h'.asked

instance : Std.Refl (@Extends α) := ⟨fun _ => List.suffix_rfl⟩

instance : IsTrans (Heap α) Extends := ⟨fun _ _ _ h h' => List.IsSuffix.trans h h'⟩

lemma load_asked (f : α → Option β) : Prog.Keeps (fun h h' => h'.asked = h.asked) (load p f) := fun h => by
  rw [load]
  cases (h.deref p).bind f <;> rfl

lemma modify_asked (f : α → Option α) : Prog.Keeps (fun h h' => h'.asked = h.asked) (modify p f) := fun h => by
  rw [modify]
  cases (h.deref p).bind f <;> rfl

lemma free_asked : Prog.Keeps (fun h h' : Heap α => h'.asked = h.asked) (free p) := fun h => by
  rw [free]
  split_ifs
  · rfl
  · cases h.blocks p <;> rfl

lemma malloc_extends (A : Allocator α) (size : ℕ) (found : α) : Prog.Keeps Extends (malloc A size found) :=
  fun h => by
    rw [malloc]
    cases A.pick h.asked.length h.blocks size <;> exact List.suffix_cons _ _

lemma Extends.of_same {m : Prog (Heap α) β} (hm : Prog.Keeps (fun h h' => h'.asked = h.asked) m) :
    Prog.Keeps Extends m :=
  hm.mono fun h h' he => by
    unfold Extends
    exact he ▸ List.suffix_rfl

lemma Refuses.of_extends (hr : Refuses h₁ h') (hs : Extends h h₁) : Refuses h h' := by
  obtain ⟨size, asked, hsize, ha, hs'⟩ := hr
  exact ⟨size, asked, hsize, ha, hs.trans hs'⟩

end Asked

section Rules

variable {blocks₀ : ℕ → Option α} {own : List ℕ} {h : Heap α} {p : ℕ}

lemma owns_nil (h : Heap α) : Owns h.blocks [] h where
  frame _ _ := rfl
  fresh _ hq := absurd hq List.not_mem_nil
  nodup := List.nodup_nil

lemma Owns.restored (ho : Owns blocks₀ [] h) : h.blocks = blocks₀ :=
  funext fun q => ho.frame q List.not_mem_nil

lemma Owns.kept (ho : Owns blocks₀ own h) {q : ℕ} (hq : blocks₀ q ≠ none) : h.blocks q = blocks₀ q :=
  ho.frame q fun hmem => hq (ho.fresh q hmem).2.1

lemma Owns.congr {h' : Heap α} (ho : Owns blocks₀ own h) (hb : h'.blocks = h.blocks) :
    Owns blocks₀ own h' :=
  ⟨fun q hq => hb ▸ ho.frame q hq, fun q hq => hb ▸ ho.fresh q hq, ho.nodup⟩

lemma ne_of_owned {q : ℕ} (hp : p ∈ own) (hq : q ∉ own) : p ≠ q := by
  rintro rfl
  exact hq hp

lemma malloc_owns (ho : Owns blocks₀ own h) (A : Allocator α) (size : ℕ) (found : α) :
    (∃ h', malloc A size found h = .done null h' ∧ h'.blocks = h.blocks ∧
      h'.asked = (size, false) :: h.asked) ∨
    ∃ q h', malloc A size found h = .done q h' ∧ q ≠ null ∧ q ∉ own ∧ size < 2 ^ 63 ∧
      h'.blocks = Function.update h.blocks q (some found) ∧ Owns blocks₀ (q :: own) h' := by
  rw [malloc]
  cases hpick : A.pick h.asked.length h.blocks size with
  | none => exact .inl ⟨_, rfl, rfl, rfl⟩
  | some q =>
    obtain ⟨hnull, hnone⟩ := A.fresh hpick
    have hq : q ∉ own := fun hmem => (ho.fresh q hmem).2.2 hnone
    have hsize : size < 2 ^ 63 := by
      by_contra hge
      rw [A.bounded (Nat.not_lt.mp hge)] at hpick
      cases hpick
    refine .inr ⟨q, _, rfl, hnull, hq, hsize, rfl, ?_, ?_, List.nodup_cons.mpr ⟨hq, ho.nodup⟩⟩
    · intro r hr
      rw [List.mem_cons, not_or] at hr
      exact (Function.update_of_ne hr.1 ..).trans (ho.frame r hr.2)
    · intro r hr
      rcases List.mem_cons.mp hr with rfl | hr
      · exact ⟨hnull, (ho.frame r hq).symm.trans hnone, by simp⟩
      · obtain ⟨h₁, h₂, h₃⟩ := ho.fresh r hr
        exact ⟨h₁, h₂, by dsimp only; rwa [Function.update_of_ne (ne_of_owned hr hq)]⟩

lemma deref_eq (hp : p ≠ null) : h.deref p = h.blocks p := if_neg hp

lemma load_eq {f : α → Option β} {a : α} {b : β} (hp : p ≠ null) (ha : h.blocks p = some a)
    (hf : f a = some b) : load p f h = .done b h := by
  rw [load, deref_eq hp, ha, Option.bind_some, hf]

lemma modify_owns (ho : Owns blocks₀ own h) (hp : p ∈ own) {f : α → Option α} {a b : α}
    (ha : h.blocks p = some a) (hf : f a = some b) : ∃ h', modify p f h = .done () h' ∧
      h'.blocks = Function.update h.blocks p (some b) ∧ Owns blocks₀ own h' := by
  refine ⟨{ h with blocks := Function.update h.blocks p (some b) }, ?_, rfl, ?_, ?_, ho.nodup⟩
  · rw [modify, deref_eq (ho.fresh p hp).1, ha, Option.bind_some, hf]
  · intro q hq
    exact (Function.update_of_ne (ne_of_owned hp hq).symm ..).trans (ho.frame q hq)
  · intro q hq
    obtain ⟨h₁, h₂, h₃⟩ := ho.fresh q hq
    refine ⟨h₁, h₂, ?_⟩
    dsimp only
    by_cases hqp : q = p
    · simp [hqp]
    · rwa [Function.update_of_ne hqp]

lemma free_null (h : Heap α) : free null h = .done () h := if_pos rfl

lemma free_owns (ho : Owns blocks₀ own h) (hp : p ∈ own) : ∃ h', free p h = .done () h' ∧
    h'.blocks = Function.update h.blocks p none ∧ Owns blocks₀ (own.erase p) h' := by
  obtain ⟨hnull, hnone, hsome⟩ := ho.fresh p hp
  obtain ⟨a, ha⟩ := Option.ne_none_iff_exists'.mp hsome
  refine ⟨{ h with blocks := Function.update h.blocks p none }, ?_, rfl, ?_, ?_, ho.nodup.erase p⟩
  · rw [free, if_neg hnull, ha]
  · intro q hq
    dsimp only
    by_cases hqp : q = p
    · rw [hqp, hnone]
      simp
    · rw [Function.update_of_ne hqp]
      exact ho.frame q fun hmem => hq ((List.mem_erase_of_ne hqp).mpr hmem)
  · intro q hq
    obtain ⟨hne, hmem⟩ := ho.nodup.mem_erase_iff.mp hq
    obtain ⟨h₁, h₂, h₃⟩ := ho.fresh q hmem
    exact ⟨h₁, h₂, by dsimp only; rwa [Function.update_of_ne hne]⟩

lemma free_first (ho : Owns blocks₀ ((p :: own).filter (· ≠ null)) h) :
    ∃ h', free p h = .done () h' ∧ (∀ q, q ≠ p → h'.blocks q = h.blocks q) ∧
      Owns blocks₀ (own.filter (· ≠ null)) h' := by
  by_cases hp : p = null
  · subst hp
    exact ⟨h, free_null h, fun _ _ => rfl, by simpa using ho⟩
  · rw [List.filter_cons_of_pos (by simpa using hp)] at ho
    obtain ⟨h', hfree, hblocks, ho'⟩ := free_owns ho List.mem_cons_self
    refine ⟨h', hfree, fun q hq => by rw [hblocks, Function.update_of_ne hq], ?_⟩
    rwa [List.erase_cons_head] at ho'

end Rules

end Heap

end LibModbus.Library
