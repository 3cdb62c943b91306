import LibModbus.Client.Uses
import LibModbus.Link.Descriptors

/-! A caller that connects, uses and closes its context over and over, while link recovery may
reconnect it in between. -/

namespace LibModbus

open Library Library.Prog

section Recovery

def Grows (w w' : World) : Prop := w.trace <+: w'.trace

instance : Neutral Grows where
  refl _ := List.prefix_rfl
  trans _ _ _ h h' := List.IsPrefix.trans h h'
  script _ _ _ := List.prefix_rfl
  errno _ _ := List.prefix_rfl
  call _ _ _ := List.prefix_append _ _
  rx _ _ := List.prefix_rfl
  socket _ _ := List.prefix_rfl
  tx _ _ := List.prefix_rfl
  send _ _ _ := List.prefix_append _ _

def Lost (w : World) : Prop := .reconnecting false ∈ w.trace

lemma Lost.grows {w w' : World} (h : Lost w) (hg : Grows w w') : Lost w' := hg.subset h

def Kept (w : World) : Prop := Lost w ∨ Holding 0 w

def Safe (w : World) : Prop := Lost w ∨ Unharmed 0 w

lemma modbusClose_closes : Triple (Holding 0) modbusClose (fun _ => Opened 0 []) (Unharmed 0) := by
  intro w hw
  have h := (twins_modbusClose w.ctx.backend).second w w ⟨⟨rfl, rfl, rfl, hw⟩, rfl⟩
  cases hc : modbusClose w with
  | done _ w' =>
    rw [hc] at h
    obtain ⟨_, _, _, ht⟩ := h
    exact ht.opened
  | blocked w' =>
    rw [hc] at h
    exact h

lemma Kept.call {w w' : World} (h : Kept w) {c : Call} (hs : w'.ctx.s = w.ctx.s)
    (ht : w'.trace = w.trace ++ [c]) (hc : ∀ fd ∈ c.on, fd = w.ctx.s)
    (ho : openAfter [w.ctx.s] c = [w.ctx.s]) : Kept w' := by
  rcases h with h | h
  · refine .inl (h.grows ?_)
    rw [Grows, ht]
    exact List.prefix_append _ _
  · have h' := h.call (fun fd hfd => List.mem_singleton.mpr (hc fd hfd)) ht
    rw [ho, ← hs] at h'
    exact .inr h'

lemma kept_of_holding {α : Type} {m : M α} (h : Triple (Holding 0) m (fun _ => Kept) (Unharmed 0))
    (hg : Keeps Grows m) : Maintains Kept Safe m := by
  rintro w (hw | hw)
  · have hlost := hw.grows (hg w)
    cases hm : m w with
    | done a w' => rw [hm] at hlost; exact .inl hlost
    | blocked w' => rw [hm] at hlost; exact .inl hlost
  · have := h w hw
    cases hm : m w with
    | done a w' => rw [hm] at this; exact this
    | blocked w' => rw [hm] at this; exact .inr this

lemma reconnect_kept : Maintains Kept Safe reconnect := by
  refine kept_of_holding (modbusClose_closes.bind fun _ => ?_) Neutral.reconnect
  intro v hv
  have hends := modbusConnect_ends hv v rfl
  rw [bind_get_apply]
  cases hm : modbusConnect v with
  | blocked w =>
    rw [hm] at hends
    rw [bind_blocked hm]
    exact hends
  | done rc w =>
    rw [hm] at hends
    rw [bind_done hm]
    rcases hends with ⟨-, hold⟩ | ⟨hr, -⟩
    · exact .inr (hold.call (c := .reconnecting (reachable v)) (by rintro fd ⟨⟩) rfl)
    · rw [hr]
      exact .inl (List.mem_append_right _ (List.mem_singleton_self _))

instance : Attached Kept Safe where
  left w h := h.imp_right fun h => h.1
  script w _ _ h := h
  errno w _ h := h
  use w c hc h := by
    refine h.call rfl rfl (fun fd hfd => ?_) ?_
    · cases c with
      | recv fd' | select fd' | tcflush fd' =>
        obtain rfl := Option.mem_some_iff.mp hfd
        exact hc
      | _ => exact hc.elim
    · cases c with
      | recv fd' | select fd' | tcflush fd' => rfl
      | _ => exact hc.elim
  rx w _ h := h
  reconnect := reconnect_kept

lemma ClientUse.run_kept (u : ClientUse) : Maintains Kept Safe u.run := by
  refine u.run_maintains ?_ ?_ ?_ ?_
  · intro w hw
    have hs : (nextRequest w.ctx).s = w.ctx.s := by
      unfold nextRequest
      cases w.ctx.backend <;> rfl
    rcases hw with hw | hw
    · exact .inl hw
    · refine .inr ?_
      rw [Holding, hs]
      exact hw
  · exact fun w msg h => h.call rfl rfl (by rintro fd ⟨⟩; rfl) rfl
  · exact fun w tx h => h
  · exact fun w o n h => h.call rfl rfl (by rintro fd ⟨⟩) rfl

end Recovery

/-- What the caller may do: connect while it has no connection, and use or close the one it has. -/
inductive Action where
  | connect
  | close
  | use (u : ClientUse)

structure Turn where
  action : Action
  script : List Response
  rx : List UInt8

inductive Phase where
  | closed
  | connected
  | hung
  deriving DecidableEq, Repr

structure Session where
  world : World
  phase : Phase

namespace Session

def after {α : Type} (o : Outcome World α) (phase : α → Phase) : Session :=
  match o with
  | .done a world => ⟨world, phase a⟩
  | .blocked world => ⟨world, .hung⟩

def arrive (s : Session) (t : Turn) : World :=
  { s.world with script := t.script, rx := s.world.rx ++ t.rx }

/-- The caller does nothing that its phase does not allow. -/
def step (s : Session) (t : Turn) : Session :=
  match s.phase, t.action with
  | .closed, .connect =>
    after (modbusConnect (s.arrive t)) fun rc => if rc = -1 then .closed else .connected
  | .connected, .close => after (modbusClose (s.arrive t)) fun _ => .closed
  | .connected, .use u => after (u.run (s.arrive t)) fun _ => .connected
  | _, _ => s

def run (s : Session) (turns : List Turn) : Session := turns.foldl step s

/-- A context as its constructor returns it, with any slave and any error recovery mode. -/
structure Fresh (s : Session) : Prop where
  socket : s.world.ctx.s = -1
  trace : s.world.trace = []
  phase : s.phase = .closed

/-- Every reconnection of the turn gets a connection. When the caller connects a `tcp_pi` context
that had a descriptor, then some address can be reached, or none is found. -/
def Sound (s : Session) (t : Turn) : Prop :=
  .reconnecting false ∉ (s.step t).world.trace ∧
  (s.phase = .closed → t.action = .connect → s.world.ctx.backend = .tcpPi → 0 ≤ s.world.ctx.s →
    reachable (s.arrive t) ∨ Unresolved (s.arrive t))

def SoundRun : Session → List Turn → Prop
  | _, [] => True
  | s, t :: turns => s.Sound t ∧ SoundRun (s.step t) turns

def Invariant (s : Session) : Prop :=
  match s.phase with
  | .closed => Opened 0 [] s.world
  | .connected => Holding 0 s.world
  | .hung => Unharmed 0 s.world

variable {s : Session}

lemma Fresh.invariant (h : s.Fresh) : s.Invariant := by
  rw [Invariant, h.phase]
  refine ⟨?_, ?_⟩ <;> rw [h.trace]
  · exact ownedFrom_length []
  · rfl

lemma Invariant.unharmed (h : s.Invariant) : Unharmed 0 s.world := by
  rw [Invariant] at h
  cases hp : s.phase with
  | closed | connected => rw [hp] at h; exact h.1
  | hung => rw [hp] at h; exact h

lemma invariant_connect {t : Turn} (h : Opened 0 [] s.world)
    (hc : s.world.ctx.backend = .tcpPi → 0 ≤ s.world.ctx.s →
      reachable (s.arrive t) ∨ Unresolved (s.arrive t)) :
    (after (modbusConnect (s.arrive t)) fun rc => if rc = -1 then .closed else .connected).Invariant := by
  have hends := modbusConnect_ends (w := s.arrive t) h _ rfl
  cases hm : modbusConnect (s.arrive t) with
  | blocked w =>
    rw [hm] at hends
    exact hends
  | done rc w =>
    rw [hm] at hends
    rcases hends with ⟨rfl, hold⟩ | ⟨hr, ho, rfl | ⟨rfl, hb, hx, hun⟩⟩
    · exact hold
    · exact ho
    · rcases hc hb hx with hreach | hunres
      · rw [hr] at hreach
        contradiction
      · exact absurd hunres hun

lemma invariant_close {t : Turn} (h : Holding 0 s.world) :
    (after (modbusClose (s.arrive t)) fun _ => .closed).Invariant := by
  have hclose := modbusClose_closes (s.arrive t) h
  cases hm : modbusClose (s.arrive t) with
  | blocked w => rw [hm] at hclose; exact hclose
  | done _ w => rw [hm] at hclose; exact hclose

lemma invariant_use {u : ClientUse} {t : Turn} (h : Holding 0 s.world)
    (hl : ¬Lost (after (u.run (s.arrive t)) fun _ => .connected).world) :
    (after (u.run (s.arrive t)) fun _ => .connected).Invariant := by
  have huse := u.run_kept (s.arrive t) (.inr h)
  cases hm : u.run (s.arrive t) with
  | blocked w =>
    rw [hm] at huse hl
    exact huse.resolve_left hl
  | done _ w =>
    rw [hm] at huse hl
    exact huse.resolve_left hl

lemma Invariant.step (h : s.Invariant) {t : Turn} (hs : s.Sound t) : (s.step t).Invariant := by
  obtain ⟨hlost, hconnect⟩ := hs
  have hsame : s.Invariant := h
  rw [Invariant] at h
  unfold Session.step at hlost ⊢
  cases hp : s.phase with
  | hung => exact hsame
  | closed =>
    rw [hp] at h
    cases ha : t.action with
    | connect => exact invariant_connect h (hconnect hp ha)
    | close | use _ => exact hsame
  | connected =>
    rw [hp] at h hlost
    cases ha : t.action with
    | connect => exact hsame
    | close => exact invariant_close h
    | use u =>
      rw [ha] at hlost
      exact invariant_use h hlost

lemma Invariant.run (h : s.Invariant) {turns : List Turn} (hs : s.SoundRun turns) :
    (s.run turns).Invariant := by
  induction turns generalizing s with
  | nil => exact h
  | cons t turns ih => exact ih (h.step hs.1) hs.2

/-- Whatever the caller does and whatever the operating system answers, each descriptor is used only
while it is open, and closed at most once. -/
theorem descriptors_owned (h : s.Fresh) {turns : List Turn} (hs : s.SoundRun turns) :
    Owned (s.run turns).world.trace ∧ ∀ fd,
      (s.run turns).world.trace.count (.close fd) ≤ (s.run turns).world.trace.count (.opened fd) := by
  have ho : Owned (s.run turns).world.trace := (h.invariant.run hs).unharmed
  refine ⟨ho, fun fd => ?_⟩
  have := ho.count_close fd
  omega

section Runs

def recovering : Session := ⟨.start { modbusNewTcp with errorRecovery := 2 } [] [], .closed⟩

lemma recovering_fresh : recovering.Fresh := ⟨rfl, rfl, rfl⟩

def brokenPipe (answers : List Response) : List Turn :=
  [⟨.connect, List.replicate 4 {}, []⟩,
    ⟨.use (.operation (.readBits 0 1) (fun _ => 0) ⟨fun _ => 0, fun _ => 0⟩),
      { send := .error .epipe } :: {} :: {} :: answers, []⟩]

/-- `connect()` is refused, so the descriptor is closed again; but `send_msg` goes on with it, and
closes it once more. -/
def refused : List Response :=
  [{}, {}, {}, { connect := .error .econnrefused }, {}, { send := .error .ebadf }, {}, {}]

theorem descriptor_closed_again : recovering.Fresh ∧
    ¬(Owned (recovering.run (brokenPipe refused)).world.trace ∧ ∀ fd,
      (recovering.run (brokenPipe refused)).world.trace.count (.close fd) ≤
        (recovering.run (brokenPipe refused)).world.trace.count (.opened fd)) := by
  refine ⟨recovering_fresh, fun h => ?_⟩
  exact absurd (h.2 3) (by decide +kernel)

theorem descriptors_owned_example :
    let s := recovering.run (brokenPipe (List.replicate 5 {}))
    Owned s.world.trace ∧ ∀ fd, s.world.trace.count (.close fd) ≤ s.world.trace.count (.opened fd) := by
  refine descriptors_owned recovering_fresh (.intro ⟨by decide +kernel, fun _ _ hb => ?_⟩
    (.intro ⟨by decide +kernel, fun hp => ?_⟩ trivial))
  · exact absurd hb (by decide)
  · exact absurd hp (by decide +kernel)

end Runs

end Session

end LibModbus
