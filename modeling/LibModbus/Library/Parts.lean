import LibModbus.Library.Program

/-! Programs on a part of a larger state, and how a program on the larger state runs on that part. -/

namespace LibModbus.Library

namespace Outcome

variable {σ τ α : Type}

def onState (π : τ → σ) : Outcome τ α → Outcome σ α
  | done a t => done a (π t)
  | blocked t => blocked (π t)

end Outcome

namespace Prog

variable {σ τ α β : Type}

def onPart (π : τ → σ) (put : σ → τ → τ) (m : Prog σ α) : Prog τ α := fun t =>
  (m (π t)).onState (put · t)

def RunsAs (π : τ → σ) (m : Prog τ α) (n : Prog σ α) : Prop := ∀ t, (m t).onState π = n (π t)

namespace RunsAs

variable {π : τ → σ} {m : Prog τ α} {n : Prog σ α} {f : α → Prog τ β} {g : α → Prog σ β}

lemma pure (a : α) : RunsAs π (Pure.pure a) (Pure.pure a) := fun _ => rfl

lemma part {put : σ → τ → τ} (hput : ∀ s t, π (put s t) = s) (n : Prog σ α) :
    RunsAs π (onPart π put n) n := by
  intro t
  rw [onPart]
  cases n (π t) with
  | done a s => exact congrArg (Outcome.done a) (hput s t)
  | blocked s => exact congrArg Outcome.blocked (hput s t)

lemma bind (h : RunsAs π m n) (hf : ∀ a, RunsAs π (f a) (g a)) : RunsAs π (m >>= f) (n >>= g) := by
  intro t
  have ht := h t
  cases hm : m t with
  | done a t' =>
    rw [hm] at ht
    rw [bind_done hm, bind_done ht.symm]
    exact hf a t'
  | blocked t' =>
    rw [hm] at ht
    rw [bind_blocked hm, bind_blocked ht.symm]
    rfl

lemma get {f : τ → Prog τ α} {g : σ → Prog σ α} (h : ∀ t, RunsAs π (f t) (g (π t))) :
    RunsAs π (Prog.get >>= f) (Prog.get >>= g) := fun t => h t t

lemma unseen {change : τ → τ} {rest : Unit → Prog τ α} (hpart : ∀ t, π (change t) = π t)
    (h : RunsAs π (rest ()) n) : RunsAs π (modify change >>= rest) n := by
  intro t
  rw [bind_modify_apply, h, hpart]

lemma unseen_after {change : τ → τ} {m : Prog τ Unit} {n : Prog σ Unit}
    (hpart : ∀ t, π (change t) = π t) (h : RunsAs π m n) :
    RunsAs π (m >>= fun _ => modify change) n := by
  intro t
  rw [← h t]
  cases hm : m t with
  | done u t' =>
    rw [bind_done hm]
    exact congrArg (Outcome.done ()) (hpart t')
  | blocked t' =>
    rw [bind_blocked hm]

lemma ite {c : Prop} [Decidable c] {m' : Prog τ α} {n' : Prog σ α} (ht : RunsAs π m n)
    (he : RunsAs π m' n') : RunsAs π (if c then m else m') (if c then n else n') := by
  split
  · exact ht
  · exact he

end RunsAs

end Prog

end LibModbus.Library
