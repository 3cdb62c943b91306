import Mathlib.Data.Option.Basic
import Mathlib.Logic.Function.Basic
import Mathlib.Tactic.Common

/-! Systems that take one step after the other by a schedule, and an object with many callers. -/

namespace LibModbus.Library

namespace Schedule

variable {S T A B E : Type}

/-- With what is seen of the steps, in order. A schedule that has a step which is not possible has no
run. -/
def run (step : S → A → Option (S × List E)) : S → List A → Option (S × List E)
  | s, [] => some (s, [])
  | s, a :: as => (step s a).bind fun r => (run step r.1 as).map fun r' => (r'.1, r.2 ++ r'.2)

variable {step : S → A → Option (S × List E)} {stepT : T → B → Option (T × List E)}

lemma run_cons_eq_some {s s' : S} {a : A} {as : List A} {es : List E} :
    run step s (a :: as) = some (s', es) ↔ ∃ s₁ es₁ es₂, step s a = some (s₁, es₁) ∧
      run step s₁ as = some (s', es₂) ∧ es₁ ++ es₂ = es := by
  simp only [run, Option.bind_eq_some_iff, Option.map_eq_some_iff, Prod.exists, Prod.mk.injEq]
  constructor
  · rintro ⟨s₁, es₁, hstep, s₂, es₂, hrun, rfl, hes⟩
    exact ⟨s₁, es₁, es₂, hstep, hrun, hes⟩
  · rintro ⟨s₁, es₁, es₂, hstep, hrun, hes⟩
    exact ⟨s₁, es₁, hstep, s', es₂, hrun, rfl, hes⟩

lemma run_append {s s₁ s₂ : S} {as as' : List A} {es es' : List E}
    (h : run step s as = some (s₁, es)) (h' : run step s₁ as' = some (s₂, es')) :
    run step s (as ++ as') = some (s₂, es ++ es') := by
  induction as generalizing s es with
  | nil =>
    cases h
    exact h'
  | cons a as ih =>
    obtain ⟨t, es₁, es₂, hstep, hrun, rfl⟩ := run_cons_eq_some.mp h
    exact run_cons_eq_some.mpr ⟨t, es₁, es₂ ++ es', hstep, ih hrun, (List.append_assoc ..).symm⟩

lemma run_invariant {P : S → List E → Prop}
    (hnext : ∀ s es a s' es', P s es → step s a = some (s', es') → P s' (es ++ es')) {as : List A}
    {s s' : S} {es es' : List E} (hp : P s es) (h : run step s as = some (s', es')) :
    P s' (es ++ es') := by
  induction as generalizing s es es' with
  | nil =>
    cases h
    rwa [List.append_nil]
  | cons a as ih =>
    obtain ⟨s₁, es₁, es₂, hstep, hrun, rfl⟩ := run_cons_eq_some.mp h
    rw [← List.append_assoc]
    exact ih (hnext s es a s₁ es₁ hp hstep) hrun

lemma run_simulates {R : S → T → Prop}
    (hstep : ∀ s t a s' es, R s t → step s a = some (s', es) →
      ∃ bs t', run stepT t bs = some (t', es) ∧ R s' t') {s s' : S} {t : T} {as : List A} {es : List E}
    (hr : R s t) (h : run step s as = some (s', es)) :
    ∃ bs t', run stepT t bs = some (t', es) ∧ R s' t' := by
  induction as generalizing s t es with
  | nil =>
    cases h
    exact ⟨[], t, rfl, hr⟩
  | cons a as ih =>
    obtain ⟨s₁, es₁, es₂, hs, hrun, rfl⟩ := run_cons_eq_some.mp h
    obtain ⟨bs₁, t₁, hb₁, hr₁⟩ := hstep s t a s₁ es₁ hr hs
    obtain ⟨bs₂, t₂, hb₂, hr₂⟩ := ih hr₁ hrun
    exact ⟨bs₁ ++ bs₂, t₂, run_append hb₁ hb₂, hr₂⟩

lemma run_lockstep {R : S → T → Prop} {f : A → B}
    (hstep : ∀ s t a, R s t →
      Option.Rel (fun r r' => R r.1 r'.1 ∧ r.2 = r'.2) (step s a) (stepT t (f a)))
    {s : S} {t : T} (as : List A) (hr : R s t) :
    Option.Rel (fun r r' => R r.1 r'.1 ∧ r.2 = r'.2) (run step s as) (run stepT t (as.map f)) := by
  induction as generalizing s t with
  | nil => exact .some ⟨hr, rfl⟩
  | cons a as ih =>
    rw [List.map_cons, run, run]
    have h := hstep s t a hr
    generalize step s a = o, stepT t (f a) = o' at h
    cases h with
    | none => exact .none
    | @some r r' h =>
      have hrest := ih h.1
      rw [Option.bind_some, Option.bind_some]
      generalize run step r.1 as = o, run stepT r'.1 (as.map f) = o' at hrest
      cases hrest with
      | none => exact .none
      | some hrest => exact .some ⟨hrest.1, congrArg₂ _ h.2 hrest.2⟩

end Schedule

end LibModbus.Library
