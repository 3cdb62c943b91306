import LibModbus.Library.Schedules

/-! An object with many callers whose operations take effect one at a time, each at one point between
its call and its return. -/

namespace LibModbus.Library

namespace Atomic

inductive Event (C Op Res : Type) where
  | call (c : C) (op : Op)
  | ret (c : C) (res : Res)

namespace Event

variable {C Op Res : Type}

@[simp] def called : Event C Op Res → Option Op
  | call _ op => some op
  | ret _ _ => none

@[simp] def returned : Event C Op Res → Option Res
  | call _ _ => none
  | ret _ res => some res

end Event

inductive Status (Op Res : Type) where
  | idle
  | called (op : Op)
  | answered (res : Res)

inductive Act (C Op : Type) where
  | call (c : C) (op : Op)
  | effect (c : C)
  | ret (c : C)

structure State (σ C Op Res : Type) where
  object : σ
  status : C → Status Op Res

variable {σ C Op Res : Type} [DecidableEq C]

def start (object : σ) : State σ C Op Res := ⟨object, fun _ => .idle⟩

def step (apply : σ → Op → σ × Res) (s : State σ C Op Res) :
    Act C Op → Option (State σ C Op Res × List (Event C Op Res))
  | .call c op =>
    match s.status c with
    | .idle => some ({ s with status := Function.update s.status c (.called op) }, [.call c op])
    | _ => none
  | .effect c =>
    match s.status c with
    | .called op =>
      let (object, res) := apply s.object op
      some (⟨object, Function.update s.status c (.answered res)⟩, [])
    | _ => none
  | .ret c =>
    match s.status c with
    | .answered res => some ({ s with status := Function.update s.status c .idle }, [.ret c res])
    | _ => none

def sequential (apply : σ → Op → σ × Res) : σ → List Op → σ × List Res
  | object, [] => (object, [])
  | object, op :: ops =>
    let (object, res) := apply object op
    let (object, ress) := sequential apply object ops
    (object, res :: ress)

section Alone

variable {apply : σ → Op → σ × Res} {object : σ}

lemma sequential_concat (ops : List Op) (op : Op) : sequential apply object (ops ++ [op]) =
    ((apply (sequential apply object ops).1 op).1,
      (sequential apply object ops).2 ++ [(apply (sequential apply object ops).1 op).2]) := by
  induction ops generalizing object with
  | nil => rfl
  | cons first ops ih =>
    simp only [List.cons_append, sequential]
    rw [ih]

inductive Follows (apply : σ → Op → σ × Res) (object : σ) (object' : σ)
    (history : List (Event Unit Op Res)) : Status Op Res → Prop
  | idle : sequential apply object (history.filterMap Event.called) =
      (object', history.filterMap Event.returned) → Follows apply object object' history .idle
  | called {ops : List Op} {op : Op} : history.filterMap Event.called = ops ++ [op] →
      sequential apply object ops = (object', history.filterMap Event.returned) →
      Follows apply object object' history (.called op)
  | answered {res : Res} : sequential apply object (history.filterMap Event.called) =
      (object', history.filterMap Event.returned ++ [res]) →
      Follows apply object object' history (.answered res)

lemma follows_step {s s' : State σ Unit Op Res} {history new : List (Event Unit Op Res)}
    {act : Act Unit Op} (h : Follows apply object s.object history (s.status ()))
    (hs : step apply s act = some (s', new)) :
    Follows apply object s'.object (history ++ new) (s'.status ()) := by
  cases act with
  | call c op =>
    rw [step] at hs
    generalize hst : s.status () = st at h
    cases h with
    | idle h =>
      rw [hst] at hs
      cases hs
      cases c
      dsimp only
      rw [Function.update_self]
      exact .called (by rw [List.filterMap_append]; rfl) (by simpa [List.filterMap_cons] using h)
    | called | answered => simp [hst] at hs
  | effect c =>
    rw [step] at hs
    generalize hst : s.status () = st at h
    cases h with
    | called hcalls h =>
      rw [hst] at hs
      cases hs
      cases c
      dsimp only
      rw [Function.update_self, List.append_nil]
      exact .answered (by rw [hcalls, sequential_concat, h])
    | idle | answered => simp [hst] at hs
  | ret c =>
    rw [step] at hs
    generalize hst : s.status () = st at h
    cases h with
    | answered h =>
      rw [hst] at hs
      cases hs
      cases c
      dsimp only
      rw [Function.update_self]
      exact .idle (by simpa [List.filterMap_cons] using h)
    | idle | called => simp [hst] at hs

lemma alone {acts : List (Act Unit Op)} {s : State σ Unit Op Res}
    {history : List (Event Unit Op Res)}
    (h : Schedule.run (step apply) (start object) acts = some (s, history)) :
    Follows apply object s.object history (s.status ()) := by
  let P (s : State σ Unit Op Res) (history : List (Event Unit Op Res)) : Prop :=
    Follows apply object s.object history (s.status ())
  have hstart : P (start object) [] := .idle rfl
  exact Schedule.run_invariant (P := P) (fun _ _ _ _ _ => follows_step) hstart h

lemma Follows.returned {object' : σ} {history : List (Event Unit Op Res)} {st : Status Op Res}
    (h : Follows apply object object' history st) : history.filterMap Event.returned <+:
      (sequential apply object (history.filterMap Event.called)).2 := by
  cases h with
  | idle h => exact h ▸ List.prefix_rfl
  | called hcalls h =>
    rw [hcalls, sequential_concat, h]
    exact List.prefix_append _ _
  | answered h =>
    rw [h]
    exact List.prefix_append _ _

end Alone

end Atomic

end LibModbus.Library
