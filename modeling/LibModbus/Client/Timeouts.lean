import LibModbus.Client.Contexts

/-! The timeouts that a program sets in a context, through all that it calls. -/

namespace LibModbus

open Library Library.Prog

namespace ContextCall

def responseTimeout : ContextCall → Option Timeval
  | setResponseTimeout timeout => some timeout
  | _ => none

def byteTimeout : ContextCall → Option Timeval
  | setByteTimeout timeout => some timeout
  | _ => none

end ContextCall

structure SameTimeouts (w w' : World) : Prop where
  response : w'.ctx.responseTimeout = w.ctx.responseTimeout
  byte : w'.ctx.byteTimeout = w.ctx.byteTimeout

instance : Unaffected SameTimeouts where
  refl _ := ⟨rfl, rfl⟩
  trans _ _ _ h h' := ⟨h'.response.trans h.response, h'.byte.trans h.byte⟩
  script _ _ _ := ⟨rfl, rfl⟩
  errno _ _ := ⟨rfl, rfl⟩
  rx _ _ := ⟨rfl, rfl⟩
  tx _ _ := ⟨rfl, rfl⟩
  socket _ _ := ⟨rfl, rfl⟩
  call _ _ _ := ⟨rfl, rfl⟩
  send _ _ _ := ⟨rfl, rfl⟩
  stored _ _ _ := ⟨rfl, rfl⟩
  ignore _ _ := ⟨rfl, rfl⟩
  slave _ _ := ⟨rfl, rfl⟩
  recovery _ _ := ⟨rfl, rfl⟩

lemma nextRequest_timeouts (ctx : Modbus) : (nextRequest ctx).responseTimeout = ctx.responseTimeout ∧
    (nextRequest ctx).byteTimeout = ctx.byteTimeout := by
  unfold nextRequest
  cases ctx.backend <;> exact ⟨rfl, rfl⟩

lemma sameTimeouts_use (use : ClientUse) : Keeps SameTimeouts use.run := by
  refine .of_maintains fun w₀ => use.run_maintains (fun w h => ?_) (fun w msg h => ?_) (fun w tx h => ?_)
    fun w o n h => ?_
  · have hnext := nextRequest_timeouts w.ctx
    exact ⟨hnext.1.trans h.response, hnext.2.trans h.byte⟩
  all_goals exact ⟨h.response, h.byte⟩

lemma ContextCall.timeouts (call : ContextCall) (w : World) :
    (call.run w).state.ctx.responseTimeout = call.responseTimeout.getD w.ctx.responseTimeout ∧
      (call.run w).state.ctx.byteTimeout = call.byteTimeout.getD w.ctx.byteTimeout := by
  cases hcall : call with
  | setResponseTimeout timeout | setByteTimeout timeout => exact ⟨rfl, rfl⟩
  | _ =>
    have h := Unaffected.run (R := SameTimeouts) call (fun c stack dest _ => sameTimeouts_use _)
      (by rw [hcall]; exact fun _ => nofun) (by rw [hcall]; exact fun _ => nofun) w
    rw [hcall] at h
    exact ⟨h.response, h.byte⟩

def lastSet (set : ContextCall → Option Timeval) (ts : List ContextTurn) (initial : Timeval) : Timeval :=
  ts.foldl (fun timeout t => (set t.call).getD timeout) initial

/-- New contexts have the default timeouts, and every context always has the ones that were set last. -/
theorem timeouts_as_set :
    (∀ b, (newContext b).responseTimeout = ⟨0, 500000⟩ ∧ (newContext b).byteTimeout = ⟨0, 500000⟩) ∧
    ∀ (w : World) (ts : List ContextTurn),
      (w.turns ts).ctx.responseTimeout = lastSet ContextCall.responseTimeout ts w.ctx.responseTimeout ∧
        (w.turns ts).ctx.byteTimeout = lastSet ContextCall.byteTimeout ts w.ctx.byteTimeout := by
  refine ⟨fun b => by cases b <;> exact ⟨rfl, rfl⟩, fun w ts => ?_⟩
  induction ts generalizing w with
  | nil => exact ⟨rfl, rfl⟩
  | cons t ts ih =>
    have ht := t.call.timeouts { w with script := t.script, rx := w.rx ++ t.rx }
    unfold lastSet
    rw [List.foldl_cons, List.foldl_cons, ← ht.1, ← ht.2]
    exact ih (w.turn t)

/-- What `_connect` guards against: on the field itself `select()` leaves anything there. -/
example (tv : Timeval) : (osSelectWritable 3 (some TimeoutField.responseTimeout)
    (.start (newContext .tcp) [] [{ selectTv := tv }])).state.ctx.responseTimeout = tv := rfl

end LibModbus
