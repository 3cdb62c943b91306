import LibModbus.Device.Initialisers
import LibModbus.Link.Descriptors

/-! Whether `connected` tells the truth. -/

namespace LibModbus

open Library Library.Prog

def broken (trace : List Call) : Bool :=
  trace.foldl (fun b c => match c with
    | .reconnecting reached => !reached
    | _ => b) false

lemma broken_append (trace : List Call) (c : Call) : broken (trace ++ [c]) =
    match c with
    | .reconnecting reached => !reached
    | _ => broken trace := by
  simp only [broken, List.foldl_append, List.foldl_cons, List.foldl_nil]

structure Parted (w : World) : Prop where
  backend : w.ctx.backend ≠ .tcpPi
  opens : opens w.trace = []

structure Linked (w : World) : Prop where
  backend : w.ctx.backend ≠ .tcpPi
  opens : opens w.trace = [w.ctx.s] ∨ broken w.trace = true ∧ opens w.trace = []

def Anywhere (_ : World) : Prop := True

lemma Linked.call {w w' : World} (h : Linked w) {c : Call} (hctx : w'.ctx.backend = w.ctx.backend)
    (hs : w'.ctx.s = w.ctx.s) (ht : w'.trace = w.trace ++ [c]) (ho : ∀ fds, openAfter fds c = fds)
    (hb : ∀ trace, broken (trace ++ [c]) = broken trace) : Linked w' := by
  refine ⟨hctx ▸ h.backend, ?_⟩
  rw [ht, opens_append, ho, hb, hs]
  exact h.opens

lemma osIgnored_parted {c : Call} (hc : openAfter [] c = []) :
    Maintains Parted Anywhere (osIgnored c) := by
  refine .bind (.modify fun w hw => ⟨hw.backend, ?_⟩) fun _ => ?_
  · rw [opens_append, hw.opens, hc]
  have hask : Maintains Parted Anywhere ask := by
    intro w hw
    unfold ask
    cases w.script with
    | nil => trivial
    | cons r rest => exact ⟨hw.backend, hw.opens⟩
  refine hask.bind fun r => ?_
  cases r.trouble with
  | none => exact .pure ()
  | some e => exact .modify fun w hw => ⟨hw.backend, hw.opens⟩

lemma modbusClose_linked : Triple Linked modbusClose (fun _ => Parted) Anywhere := by
  rintro w ⟨hb, ho | ⟨-, ho⟩⟩
  · have h := (@twins_modbusClose w.trace.length w.ctx.s w.ctx.backend).second w w
      ⟨⟨rfl, rfl, rfl, ownedFrom_length _, ho⟩, rfl⟩
    have hc := (Neutral.modbusClose (R := SameConfig)) w
    cases hm : modbusClose w with
    | blocked w' => trivial
    | done _ w' =>
      rw [hm] at h hc
      obtain ⟨_, _, _, ht⟩ := h
      exact ⟨hc.backend ▸ hb, ht.opened.2⟩
  · -- the descriptor was closed before
    have hclose : Maintains Parted Anywhere modbusClose := by
      refine .bind (fun w hw => hw) fun ctx => ?_
      cases ctx.backend with
      | rtu | tcp | tcpPi =>
        refine .bind (fun w hw => hw) fun ctx => ?_
        exact .bind (osIgnored_parted rfl) fun _ => osIgnored_parted rfl
    exact hclose w ⟨hb, ho⟩

lemma modbusConnect_parted : Triple Parted modbusConnect
    (fun rc w => rc = 0 ∧ w.ctx.backend ≠ .tcpPi ∧ opens w.trace = [w.ctx.s] ∨ rc = -1 ∧ Parted w)
    Anywhere := by
  intro w hw
  have hends := modbusConnect_ends ⟨ownedFrom_length w.trace, hw.opens⟩ w rfl
  have hc := (Neutral.modbusConnect (R := SameConfig)) w
  cases hm : modbusConnect w with
  | blocked w' => trivial
  | done rc w' =>
    rw [hm] at hends hc
    have hb : w'.ctx.backend ≠ .tcpPi := hc.backend ▸ hw.backend
    rcases hends with ⟨rfl, hold⟩ | ⟨-, ho, rfl | ⟨-, htcpPi, -⟩⟩
    · exact .inl ⟨rfl, hb, hold.2⟩
    · exact .inr ⟨rfl, hb, ho.2⟩
    · exact absurd htcpPi hw.backend

lemma reconnect_linked : Maintains Linked Anywhere reconnect := by
  refine modbusClose_linked.bind fun _ => ?_
  intro v hv
  have hconnect := modbusConnect_parted v hv
  rw [bind_get_apply]
  cases hm : modbusConnect v with
  | blocked w =>
    rw [bind_blocked hm]
    trivial
  | done rc w =>
    rw [hm] at hconnect
    rw [bind_done hm]
    have hreach : rc = -1 → reachable v = false := by
      rintro rfl
      have hends := modbusConnect_ends ⟨ownedFrom_length v.trace, hv.opens⟩ v rfl
      rw [hm] at hends
      rcases hends with ⟨h, -⟩ | ⟨hr, -⟩
      · exact absurd h (by decide)
      · exact hr
    have hopens : opens (w.trace ++ [.reconnecting (reachable v)]) = opens w.trace := opens_append _ _
    rcases hconnect with ⟨-, hb, ho⟩ | ⟨hrc, hw⟩
    · exact ⟨hb, .inl (hopens.trans ho)⟩
    · refine ⟨hw.backend, .inr ⟨?_, hopens.trans hw.opens⟩⟩
      rw [broken_append, hreach hrc]
      rfl

instance : Attached Linked Anywhere where
  left _ _ := trivial
  script _ _ _ h := ⟨h.backend, h.opens⟩
  errno _ _ h := ⟨h.backend, h.opens⟩
  use w c hc h := by
    cases c with
    | recv fd | select fd | tcflush fd =>
      exact h.call rfl rfl rfl (fun _ => rfl) fun trace => broken_append trace _
    | _ => exact hc.elim
  rx _ _ h := ⟨h.backend, h.opens⟩
  reconnect := reconnect_linked

lemma leaves_linked (call : ClientCall) : Leaves Linked call where
  basis w h := by
    have hs : (nextRequest w.ctx).s = w.ctx.s := by
      unfold nextRequest
      cases w.ctx.backend <;> rfl
    refine ⟨(nextRequest_backend w.ctx).symm ▸ h.backend, ?_⟩
    rw [hs]
    exact h.opens
  sends _ _ _ _ _ _ hw := hw.call rfl rfl rfl (fun _ => rfl) fun trace => broken_append trace _
  sent _ _ h := ⟨h.backend, h.opens⟩
  stored _ _ _ h := h.call rfl rfl rfl (fun _ => rfl) fun trace => broken_append trace _

lemma linkRules : Actor.LinkRules Parted Linked Anywhere where
  arriveClosed _ _ _ h := ⟨h.backend, h.opens⟩
  arriveOpened _ _ _ h := ⟨h.backend, h.opens⟩
  connect := by
    refine modbusConnect_parted.post fun rc w h => ?_
    rcases h with ⟨rfl, hb, ho⟩ | ⟨rfl, hw⟩
    · exact ⟨hb, .inl ho⟩
    · exact hw
  close := modbusClose_linked

namespace Actor

/-- `connected` says whether the descriptor of the handle is open, and no other descriptor is. -/
def Truthful (d : Actor) : Prop := opens d.world.trace = if d.connected then [d.world.ctx.s] else []

def LineOpens (answers : JobAnswers) : Prop :=
  ∃ r₁ r₂ r₃ rest fd,
    answers.script = r₁ :: r₂ :: r₃ :: rest ∧ r₁.descriptor = .ok fd ∧ r₃.option = none

def Made (d : Actor) : Prop :=
  (∃ ipAddresses deviceAddress auto idle, initNetwork ipAddresses deviceAddress auto idle = .device d) ∨
    ∃ room device slaveid auto idle answers, LineOpens answers ∧
      initRtu room device slaveid auto idle answers = .device d

lemma LineOpens.connect {answers : JobAnswers} (h : LineOpens answers) {slaveid : ℤ} {w : World}
    (hw : RtuStart slaveid answers w) : ∃ fd errno rest, modbusConnect w = .done 0 { w with
      ctx := { w.ctx with s := fd }
      errno
      script := rest
      trace := [.opened fd, .tcgetattr fd, .tcsetattr fd] } := by
  obtain ⟨r₁, r₂, r₃, rest, fd, hscript, hr₁, hr₃⟩ := h
  obtain ⟨hctx, hs, ht⟩ := hw
  have hb : w.ctx.backend = .rtu := by rw [hctx]; rfl
  refine ⟨fd, r₂.trouble.getD w.errno, rest, ?_⟩
  rw [modbusConnect, bind_getCtx, hb]
  simp only [rtuConnect, osDescriptor, osIgnored, osOption, setSocket, record, ask, bind_apply, hs, hscript,
    hr₁, modify_apply, pure_apply]
  rw [if_neg (by omega)]
  cases hr₂ : r₂.trouble <;>
    simp [bind_apply, modify_apply, setErrno, ask, hr₂, hr₃, pure_apply, ht]

lemma Made.standing {d : Actor} (h : d.Made) :
    Standing Parted Linked d ∧ broken d.world.trace = false := by
  rcases h with ⟨_, _, _, _, h⟩ | ⟨_, _, slaveid, _, _, answers, hline, h⟩
  · obtain ⟨hc, -, ht, hctx⟩ := initNetwork_device h
    refine ⟨?_, by rw [ht]; rfl⟩
    rw [Standing, if_neg (by simp [hc])]
    have hbackend : d.world.ctx.backend = .tcp := by
      rw [hctx]
      rfl
    exact ⟨by simp [hbackend], by rw [ht]; rfl⟩
  · obtain ⟨hc, -, w, rc, hw, hm⟩ := initRtu_device h
    obtain ⟨fd, errno, rest, hm'⟩ := hline.connect hw
    rw [hm'] at hm
    obtain ⟨rfl, hworld⟩ := Outcome.done.inj hm
    rw [← hworld]
    refine ⟨?_, rfl⟩
    rw [Standing, if_pos hc, ← hworld]
    have hbackend : w.ctx.backend = .rtu := by
      rw [hw.1]
      rfl
    exact ⟨by simp [hbackend], .inl rfl⟩

end Actor

namespace Process

def connects (p : Process) (e : DeviceEvent) : Bool :=
  match p.takes e with
  | some .connect => true
  | _ => false

/-- Nobody connects a connected device, and the last reconnection of link recovery, if there was one,
got a connection. -/
def Sound (p : Process) (e : DeviceEvent) : Prop :=
  (p.connects e → p.actor.connected = false) ∧
    broken (p.step e).actor.world.trace = false

instance (p : Process) (e : DeviceEvent) : Decidable (p.Sound e) := inferInstanceAs (Decidable (_ ∧ _))

def SoundRun : Process → List DeviceEvent → Prop
  | _, [] => True
  | p, e :: events => p.Sound e ∧ SoundRun (p.step e) events

instance : (p : Process) → (events : List DeviceEvent) → Decidable (p.SoundRun events)
  | _, [] => inferInstanceAs (Decidable True)
  | p, e :: events =>
    have : Decidable ((p.step e).SoundRun events) := instDecidableSoundRun _ events
    inferInstanceAs (Decidable (_ ∧ _))

variable {p : Process}

lemma step_linked {e : DeviceEvent} (h : Sustained Parted Linked Anywhere p) (hs : p.Sound e) :
    Sustained Parted Linked Anywhere (p.step e) := by
  refine step_sustained linkRules h fun c hc => ⟨?_, fun call _ => leaves_linked call⟩
  rintro rfl hconn
  have hconnects : p.connects e := by rw [connects, hc]
  have := hs.1 hconnects
  rw [hconn] at this
  contradiction

lemma run_linked {events : List DeviceEvent} (h : Sustained Parted Linked Anywhere p)
    (hb : broken p.actor.world.trace = false) (hs : p.SoundRun events) :
    Sustained Parted Linked Anywhere (p.run events) ∧
      broken (p.run events).actor.world.trace = false := by
  induction events generalizing p with
  | nil => exact ⟨h, hb⟩
  | cons e events ih => exact ih (step_linked h hs.1) hs.1.2 hs.2

lemma Sustained.truthful (h : Sustained Parted Linked Anywhere p)
    (hb : broken p.actor.world.trace = false) (hs : p.stalled = false) : p.actor.Truthful := by
  rw [Sustained, if_neg (by simp [hs])] at h
  unfold Actor.Truthful
  cases hc : p.actor.connected with
  | false => exact (Actor.standing_false h hc).opens
  | true =>
    rcases (Actor.standing_true h hc).opens with ho | ⟨hbroken, -⟩
    · exact ho
    · rw [hb] at hbroken
      contradiction

/-- Between its jobs a device tells the truth about its connection, and has no other one open. -/
theorem connected_truthful {d : Actor} (h : d.Made) {events : List DeviceEvent}
    (hs : SoundRun ⟨d, false⟩ events) (hdone : (run ⟨d, false⟩ events).stalled = false) :
    (run ⟨d, false⟩ events).actor.Truthful := by
  obtain ⟨hstand, hb⟩ := h.standing
  obtain ⟨hrun, hbroken⟩ := run_linked (p := ⟨d, false⟩) hstand hb hs
  exact hrun.truthful hbroken hdone

section Runs

instance (d : Actor) : Decidable d.Truthful := inferInstanceAs (Decidable (_ = _))

def missingLine : Initialised :=
  Actor.initRtu 64 "/dev/ttyS0" 1 10 10 { script := [{ descriptor := .error (.system 2) }] }

theorem connected_without_line : ∃ d, missingLine = .device d ∧ ¬(run ⟨d, false⟩ []).actor.Truthful := by
  refine ⟨_, rfl, ?_⟩
  decide +kernel

def silentPeer : List DeviceEvent :=
  [.submit (.readInputCoilsFrom 0 1 fun _ => 0),
    .work 0 { script := List.replicate 5 {} ++ [{ select := .ok false }, {}, {}] },
    .submit .disconnect, .work 0 { script := List.replicate 2 {} }]

def networkDevice : Actor where
  world := .start { modbusNewTcp with errorRecovery := 6, slave := 1 } [] []
  connected := false
  autoReconnectAfter := 3600
  disconnectWhenIdleAfter := 10

theorem connected_truthful_example : (run ⟨networkDevice, false⟩ silentPeer).actor.Truthful := by
  refine connected_truthful (.inl ⟨["192.168.0.1"], 1, 3600, 10, ?_⟩) ?_ ?_
  · rfl
  · decide +kernel
  · decide +kernel

end Runs

end Process

end LibModbus
