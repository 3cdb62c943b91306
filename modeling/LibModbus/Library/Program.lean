import Mathlib.Tactic.Common

/-! Programs that run against an environment which may leave a call unanswered. -/

namespace LibModbus.Library

inductive Outcome (σ α : Type) where
  | done (a : α) (s : σ)
  | blocked (s : σ)

namespace Outcome

variable {σ α : Type}

def state : Outcome σ α → σ
  | done _ s => s
  | blocked s => s

@[simp] lemma state_done (a : α) (s : σ) : (done a s).state = s := rfl

@[simp] lemma state_blocked (s : σ) : (blocked s : Outcome σ α).state = s := rfl

def value : Outcome σ α → Option α
  | done a _ => some a
  | blocked _ => none

lemma value_eq_some {o : Outcome σ α} {a : α} (h : o.value = some a) : o = done a o.state := by
  cases o with
  | done b s => rw [Option.some.inj h, state]
  | blocked s => exact absurd h nofun

end Outcome

def Prog (σ α : Type) : Type := σ → Outcome σ α

namespace Prog

variable {σ α β γ : Type}

def bind (m : Prog σ α) (f : α → Prog σ β) : Prog σ β := fun s =>
  match m s with
  | .done a t => f a t
  | .blocked t => .blocked t

instance : Monad (Prog σ) where
  pure a := fun s => .done a s
  bind := bind

def get : Prog σ σ := fun s => .done s s

def modify (f : σ → σ) : Prog σ Unit := fun s => .done () (f s)

def stuck : Prog σ α := fun s => .blocked s

@[simp] lemma pure_apply (a : α) (s : σ) : (pure a : Prog σ α) s = .done a s := rfl
@[simp] lemma get_apply (s : σ) : (get : Prog σ σ) s = .done s s := rfl
@[simp] lemma modify_apply (f : σ → σ) (s : σ) : modify f s = .done () (f s) := rfl
@[simp] lemma stuck_apply (s : σ) : (stuck : Prog σ α) s = .blocked s := rfl

lemma bind_apply (m : Prog σ α) (f : α → Prog σ β) (s : σ) :
    (m >>= f) s = match m s with
      | .done a t => f a t
      | .blocked t => .blocked t := rfl

lemma bind_done {m : Prog σ α} {s t : σ} {a : α} (h : m s = .done a t) (f : α → Prog σ β) :
    (m >>= f) s = f a t := by
  rw [bind_apply, h]

lemma bind_blocked {m : Prog σ α} {s t : σ} (h : m s = .blocked t) (f : α → Prog σ β) :
    (m >>= f) s = .blocked t := by
  rw [bind_apply, h]

lemma bind_eq_done {m : Prog σ α} {f : α → Prog σ β} {s u : σ} {b : β} :
    (m >>= f) s = .done b u ↔ ∃ a t, m s = .done a t ∧ f a t = .done b u := by
  rw [bind_apply]
  cases m s <;> simp

@[simp] lemma bind_get_apply (f : σ → Prog σ β) (s : σ) : (get >>= f) s = f s s := rfl

@[simp] lemma bind_modify_apply (g : σ → σ) (f : Unit → Prog σ β) (s : σ) :
    (modify g >>= f) s = f () (g s) := rfl

lemma state_ignored (m : Prog σ α) (s : σ) :
    ((m >>= fun _ => (pure () : Prog σ Unit)) s).state = (m s).state := by
  rw [bind_apply]
  cases m s <;> rfl

lemma bind_assoc_apply (m : Prog σ α) (f : α → Prog σ β) (g : β → Prog σ γ) (s : σ) :
    ((m >>= f) >>= g) s = (m >>= fun a => f a >>= g) s := by
  simp only [bind_apply]
  cases m s <;> rfl

/-- Turns of a loop body, at most as many as the budget allows: `inl` goes round again, `inr`
leaves the loop. A run that still goes round when the budget is spent counts as unanswered. -/
def iterate (body : β → Prog σ (β ⊕ α)) : ℕ → β → Prog σ α
  | 0, _ => stuck
  | n + 1, b => body b >>= fun
    | .inl b' => iterate body n b'
    | .inr a => pure a

lemma iterate_inr {body : β → Prog σ (β ⊕ α)} {b : β} {a : α} {s t : σ} (n : ℕ)
    (h : body b s = .done (.inr a) t) : iterate body (n + 1) b s = .done a t := by
  rw [iterate, bind_done h]
  rfl

lemma iterate_blocked {body : β → Prog σ (β ⊕ α)} {b : β} {s t : σ} (n : ℕ)
    (h : body b s = .blocked t) : iterate body (n + 1) b s = .blocked t := by
  rw [iterate, bind_blocked h]

/-- From `P`, a finished run ends in `Q` and an unanswered one stands in `B`. -/
def Triple (P : σ → Prop) (m : Prog σ α) (Q : α → σ → Prop) (B : σ → Prop) : Prop :=
  ∀ s, P s → match m s with
    | .done a t => Q a t
    | .blocked t => B t

namespace Triple

variable {P P' B B' : σ → Prop} {Q Q' : α → σ → Prop} {R : β → σ → Prop}
variable {m : Prog σ α} {f : α → Prog σ β}

lemma done (h : Triple P m Q B) {s t : σ} {a : α} (hs : P s) (hm : m s = .done a t) : Q a t := by
  have := h s hs
  rwa [hm] at this

lemma blocked (h : Triple P m Q B) {s t : σ} (hs : P s) (hm : m s = .blocked t) : B t := by
  have := h s hs
  rwa [hm] at this

lemma weaken (h : Triple P m Q B) (hP : ∀ s, P' s → P s) (hQ : ∀ a s, Q a s → Q' a s)
    (hB : ∀ s, B s → B' s) : Triple P' m Q' B' := by
  intro s hs
  have := h s (hP s hs)
  cases hm : m s with
  | done a t => rw [hm] at this; exact hQ a t this
  | blocked t => rw [hm] at this; exact hB t this

lemma pre (h : Triple P m Q B) (hP : ∀ s, P' s → P s) : Triple P' m Q B :=
  h.weaken hP (fun _ _ h => h) (fun _ h => h)

lemma post (h : Triple P m Q B) (hQ : ∀ a s, Q a s → Q' a s) : Triple P m Q' B :=
  h.weaken (fun _ h => h) hQ (fun _ h => h)

lemma pure {a : α} (h : ∀ s, P s → Q a s) : Triple P (Pure.pure a : Prog σ α) Q B :=
  fun s hs => h s hs

lemma get {Q : σ → σ → Prop} (h : ∀ s, P s → Q s s) : Triple P (Prog.get : Prog σ σ) Q B :=
  fun s hs => h s hs

lemma modify {g : σ → σ} {Q : Unit → σ → Prop} (h : ∀ s, P s → Q () (g s)) :
    Triple P (Prog.modify g) Q B :=
  fun s hs => h s hs

lemma stuck (h : ∀ s, P s → B s) : Triple P (Prog.stuck : Prog σ α) Q B :=
  fun s hs => h s hs

lemma bind (hm : Triple P m Q B) (hf : ∀ a, Triple (Q a) (f a) R B) : Triple P (m >>= f) R B := by
  intro s hs
  cases h : m s with
  | done a t =>
    rw [bind_done h]
    exact hf a t (hm.done hs h)
  | blocked t =>
    rw [bind_blocked h]
    exact hm.blocked hs h

lemma given {p : Prop} (h : p → Triple P m Q B) : Triple (fun s => P s ∧ p) m Q B :=
  fun s hs => h hs.2 s hs.1

lemma from_state (h : ∀ s, P s → Triple (s = ·) m Q B) : Triple P m Q B :=
  fun s hs => h s hs s rfl

lemma ite {c : Prop} [Decidable c] {n : Prog σ α} (ht : c → Triple P m Q B)
    (he : ¬c → Triple P n Q B) : Triple P (if c then m else n) Q B := by
  split
  · exact ht ‹_›
  · exact he ‹_›

/-- The loop rule: an invariant that each turn keeps holds when the loop is left. -/
lemma iterate {I : β → σ → Prop} {body : β → Prog σ (β ⊕ α)}
    (hb : ∀ b, Triple (I b) (body b) (fun r s => r.elim (I · s) (Q · s)) B)
    (hI : ∀ b s, I b s → B s) (n : ℕ) (b : β) : Triple (I b) (Prog.iterate body n b) Q B := by
  induction n generalizing b with
  | zero => exact stuck (hI b)
  | succ n ih =>
    apply bind (hb b)
    rintro (b' | a)
    · exact ih b'
    · exact pure fun _ h => h

lemma iterate_decreasing {I : β → σ → Prop} {body : β → Prog σ (β ⊕ α)} (μ : β → ℕ)
    (hb : ∀ b, Triple (I b) (body b)
      (fun r s => r.elim (fun b' => I b' s ∧ μ b' < μ b) (Q · s)) B)
    {n : ℕ} {b : β} (hn : μ b < n) : Triple (I b) (Prog.iterate body n b) Q B := by
  induction n generalizing b with
  | zero => exact absurd hn (Nat.not_lt_zero _)
  | succ n ih =>
    apply bind (hb b)
    rintro (b' | a)
    · exact .given fun hlt => ih (by omega)
    · exact pure fun _ h => h

lemma iterate_measured {I : β → σ → Prop} {body : β → Prog σ (β ⊕ α)} (μ : σ → ℕ)
    (hb : ∀ b k, Triple (fun s => I b s ∧ μ s ≤ k) (body b)
      (fun r s => r.elim (fun b' => I b' s ∧ μ s < k) (Q · s)) B)
    (n : ℕ) (b : β) : Triple (fun s => I b s ∧ μ s < n) (Prog.iterate body n b) Q B := by
  induction n generalizing b with
  | zero => exact fun s hs => absurd hs.2 (Nat.not_lt_zero _)
  | succ n ih =>
    refine pre (bind (hb b n) ?_) fun s hs => ⟨hs.1, Nat.le_of_lt_succ hs.2⟩
    rintro (b' | a)
    · exact ih b'
    · exact pure fun _ h => h

end Triple

def Maintains (I B : σ → Prop) (m : Prog σ α) : Prop := Triple I m (fun _ => I) B

namespace Maintains

variable {I B : σ → Prop} {m : Prog σ α} {f : α → Prog σ β}

lemma pure (a : α) : Maintains I B (Pure.pure a : Prog σ α) := Triple.pure fun _ h => h

lemma get : Maintains I B (Prog.get : Prog σ σ) := Triple.get fun _ h => h

lemma modify {g : σ → σ} (h : ∀ s, I s → I (g s)) : Maintains I B (Prog.modify g) := Triple.modify h

lemma stuck (hB : ∀ s, I s → B s) : Maintains I B (Prog.stuck : Prog σ α) := Triple.stuck hB

lemma bind (hm : Maintains I B m) (hf : ∀ a, Maintains I B (f a)) : Maintains I B (m >>= f) :=
  Triple.bind hm hf

lemma ite {c : Prop} [Decidable c] {n : Prog σ α} (hm : Maintains I B m) (hn : Maintains I B n) :
    Maintains I B (if c then m else n) :=
  Triple.ite (fun _ => hm) fun _ => hn

lemma beside {P E : σ → Prop} {Q : α → σ → Prop} (h : Triple P m Q B) (hE : Maintains E I m) :
    Triple (fun s => P s ∧ E s) m (fun a s => Q a s ∧ E s) B := by
  rintro s ⟨hP, hs⟩
  cases hm : m s with
  | done a t => exact ⟨h.done hP hm, Triple.done hE hs hm⟩
  | blocked t => exact h.blocked hP hm

lemma iterate {body : β → Prog σ (β ⊕ α)} (hB : ∀ s, I s → B s)
    (hb : ∀ b, Maintains I B (body b)) (n : ℕ) (b : β) : Maintains I B (Prog.iterate body n b) := by
  refine Triple.iterate (I := fun _ => I) (Q := fun _ => I) (fun b => (hb b).post ?_)
    (fun _ => hB) n b
  rintro (_ | _) _ h <;> exact h

end Maintains

/-- Two runs from states in `P` both finish, in `Q`, or neither does, and then the second one stands
in `B`. -/
def Coupled (P : σ → σ → Prop) (m n : Prog σ α) (Q : α → α → σ → σ → Prop) (B : σ → Prop) : Prop :=
  ∀ s t, P s t → match m s, n t with
    | .done a s', .done b t' => Q a b s' t'
    | .blocked _, .blocked t' => B t'
    | _, _ => False

namespace Coupled

variable {P P' : σ → σ → Prop} {B : σ → Prop} {Q Q' : α → α → σ → σ → Prop} {R : β → β → σ → σ → Prop}
variable {m n : Prog σ α} {f g : α → Prog σ β}

lemma pure {a b : α} (h : ∀ s t, P s t → Q a b s t) : Coupled P (Pure.pure a) (Pure.pure b) Q B := h

lemma bind (hm : Coupled P m n Q B) (hf : ∀ a b, Coupled (Q a b) (f a) (g b) R B) :
    Coupled P (m >>= f) (n >>= g) R B := by
  intro s t hst
  have h := hm s t hst
  rw [bind_apply, bind_apply]
  cases hs : m s with
  | done a s' =>
    cases ht : n t with
    | done b t' =>
      rw [hs, ht] at h
      exact hf a b s' t' h
    | blocked t' =>
      rw [hs, ht] at h
      exact h.elim
  | blocked s' =>
    cases ht : n t with
    | done b t' =>
      rw [hs, ht] at h
      exact h.elim
    | blocked t' =>
      rw [hs, ht] at h
      exact h

lemma pre (h : Coupled P m n Q B) (hP : ∀ s t, P' s t → P s t) : Coupled P' m n Q B :=
  fun s t hst => h s t (hP s t hst)

lemma post (h : Coupled P m n Q B) (hQ : ∀ a b s t, Q a b s t → Q' a b s t) :
    Coupled P m n Q' B := by
  intro s t hst
  have := h s t hst
  cases hs : m s with
  | done a s' =>
    cases ht : n t with
    | done b t' =>
      rw [hs, ht] at this
      exact hQ a b s' t' this
    | blocked t' =>
      rw [hs, ht] at this
      exact this
  | blocked s' =>
    cases ht : n t with
    | done b t' =>
      rw [hs, ht] at this
      exact this
    | blocked t' =>
      rw [hs, ht] at this
      exact this

lemma given {p : Prop} (h : p → Coupled P m n Q B) : Coupled (fun s t => P s t ∧ p) m n Q B :=
  fun s t hst => h hst.2 s t hst.1

lemma either (h : Coupled P m n Q B) (h' : Coupled P' m n Q B) :
    Coupled (fun s t => P s t ∨ P' s t) m n Q B := by
  rintro s t (hst | hst)
  · exact h s t hst
  · exact h' s t hst

lemma ite {c : Prop} [Decidable c] {m' n' : Prog σ α} (ht : c → Coupled P m n Q B)
    (he : ¬c → Coupled P m' n' Q B) : Coupled P (if c then m else m') (if c then n else n') Q B := by
  split
  · exact ht ‹_›
  · exact he ‹_›

lemma second (h : Coupled P m n Q B) (s : σ) :
    Triple (P s) n (fun b t => ∃ a s', m s = .done a s' ∧ Q a b s' t) B := by
  intro t hst
  have := h s t hst
  cases ht : n t with
  | done b t' =>
    cases hs : m s with
    | done a s' =>
      rw [hs, ht] at this
      exact ⟨a, s', rfl, this⟩
    | blocked s' =>
      rw [hs, ht] at this
      exact this.elim
  | blocked t' =>
    cases hs : m s with
    | done a s' =>
      rw [hs, ht] at this
      exact this.elim
    | blocked s' =>
      rw [hs, ht] at this
      exact this

end Coupled

def Keeps (R : σ → σ → Prop) (m : Prog σ α) : Prop := ∀ s, R s (m s).state

namespace Keeps

variable {R : σ → σ → Prop} {m : Prog σ α} {f : α → Prog σ β}

lemma done (h : Keeps R m) {s t : σ} {a : α} (hm : m s = .done a t) : R s t := by
  have := h s
  rwa [hm] at this

lemma triple {P P' : σ → Prop} (h : Keeps R m) (hP : ∀ s t, P s → R s t → P' t) :
    Triple P m (fun _ => P') P' := by
  intro s hs
  have := hP s _ hs (h s)
  cases hm : m s with
  | done a t => rwa [hm] at this
  | blocked t => rwa [hm] at this

lemma of_maintains [Std.Refl R] (h : ∀ s, Maintains (R s) (R s) m) : Keeps R m := by
  intro s
  have := h s s (Std.Refl.refl s)
  cases hm : m s <;> rwa [hm] at this

lemma maintains [IsTrans σ R] (h : Keeps R m) (s : σ) : Maintains (R s) (R s) m :=
  h.triple fun _ _ hs ht => IsTrans.trans _ _ _ hs ht

lemma mono {R' : σ → σ → Prop} (h : Keeps R m) (hR : ∀ s t, R s t → R' s t) : Keeps R' m :=
  fun s => hR _ _ (h s)

lemma modify {g : σ → σ} (h : ∀ s, R s (g s)) : Keeps R (Prog.modify g) := h

section Refl

variable [Std.Refl R]

lemma pure (a : α) : Keeps R (Pure.pure a : Prog σ α) := fun s => Std.Refl.refl s

lemma get : Keeps R (Prog.get : Prog σ σ) := fun s => Std.Refl.refl s

lemma stuck : Keeps R (Prog.stuck : Prog σ α) := fun s => Std.Refl.refl s

end Refl

lemma bind [IsTrans σ R] (hm : Keeps R m) (hf : ∀ a, Keeps R (f a)) : Keeps R (m >>= f) := by
  intro s
  have h := hm s
  rw [bind_apply]
  cases hs : m s with
  | done a t =>
    rw [hs] at h
    exact IsTrans.trans _ _ _ h (hf a t)
  | blocked t =>
    rw [hs] at h
    exact h

lemma ite {c : Prop} [Decidable c] {n : Prog σ α} (hm : Keeps R m) (hn : Keeps R n) :
    Keeps R (if c then m else n) := by
  split
  · exact hm
  · exact hn

lemma iterate [Std.Refl R] [IsTrans σ R] {body : β → Prog σ (β ⊕ α)}
    (hb : ∀ b, Keeps R (body b)) (n : ℕ) (b : β) : Keeps R (Prog.iterate body n b) := by
  induction n generalizing b with
  | zero => exact stuck
  | succ n ih =>
    apply bind (hb b)
    rintro (b' | a)
    · exact ih b'
    · exact pure a

end Keeps

end Prog

end LibModbus.Library
