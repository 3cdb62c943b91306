import LibModbus.Device.Methods

/-! The jobs of the actor, as far as its connection is concerned: what a run of the actor keeps when
connecting, closing and the calls of the client do. -/

namespace LibModbus

open Library Library.Prog

namespace Actor

structure SameLink (d d' : Actor) : Prop where
  world : d'.world = d.world
  connected : d'.connected = d.connected

instance : Std.Refl SameLink := ⟨fun _ => ⟨rfl, rfl⟩⟩

instance : IsTrans Actor SameLink where
  trans _ _ _ h h' := ⟨h'.world.trans h.world, h'.connected.trans h.connected⟩

lemma elapse_link (d : Actor) (task : ℕ) : SameLink d (d.elapse task) := by
  unfold elapse
  split
  · exact Std.Refl.refl d
  · split_ifs
    · exact ⟨rfl, rfl⟩
    · exact Std.Refl.refl d

lemma elapseMeanwhile_link (d : Actor) : SameLink d d.elapseMeanwhile := by
  unfold elapseMeanwhile
  split
  · exact Std.Refl.refl d
  · rename_i tasks later _
    have hfold (ts : List ℕ) (c : Actor) : SameLink c (ts.foldl elapse c) := by
      induction ts generalizing c with
      | nil => exact Std.Refl.refl c
      | cons t ts ih => exact IsTrans.trans _ _ _ (elapse_link c t) (ih (c.elapse t))
    exact IsTrans.trans _ { d with elapsing := later } _ ⟨rfl, rfl⟩ (hfold _ _)

lemma cancel_link (d : Actor) (kind : TimerKind) : SameLink d (d.cancel kind) := by
  unfold cancel
  split
  · exact Std.Refl.refl d
  · exact ⟨rfl, rfl⟩

lemma startTimer_link (d : Actor) (kind : TimerKind) : SameLink d (d.startTimer kind) := by
  unfold startTimer
  split_ifs
  · have h := cancel_link d kind
    cases kind with
    | autoReconnect | disconnectWhenIdle => exact ⟨h.world, h.connected⟩
  · exact Std.Refl.refl d

def Standing (closed opened : World → Prop) (d : Actor) : Prop :=
  if d.connected then opened d.world else closed d.world

section Rules

variable {closed opened B : World → Prop}

lemma SameLink.standing {d d' : Actor} (h : SameLink d d') (hd : Standing closed opened d) :
    Standing closed opened d' := by
  unfold Standing
  rw [h.world, h.connected]
  exact hd

lemma modify_standing {f : Actor → Actor} (h : ∀ d, SameLink d (f d)) {B : Actor → Prop} :
    Maintains (Standing closed opened) B (.modify f) :=
  .modify fun d hd => (h d).standing hd

lemma calling_rule {α : Type} {m : M α} {P : World → Prop} {Q : α → World → Prop} {c : Bool}
    (h : Triple P m Q B) : Triple (fun d => P d.world ∧ d.connected = c) (calling m)
      (fun a d => Q a d.world ∧ d.connected = c) (fun d => B d.world) := by
  rintro d ⟨hd, hc⟩
  unfold calling
  cases hm : m d.world with
  | blocked w => exact h.blocked hd hm
  | done a w =>
    have hl := elapseMeanwhile_link { d with world := w }
    refine ⟨?_, hl.connected.trans hc⟩
    rw [hl.world]
    exact h.done hd hm

lemma standing_true {d : Actor} (h : Standing closed opened d) (hc : d.connected = true) :
    opened d.world := by
  rwa [Standing, if_pos hc] at h

lemma standing_false {d : Actor} (h : Standing closed opened d) (hc : d.connected = false) :
    closed d.world := by
  rwa [Standing, if_neg (by simp [hc])] at h

def Arrived (closed opened : World → Prop) (c : Bool) (rc : ℤ) (w : World) : Prop :=
  if rc = -1 ∧ c = false then closed w else opened w

lemma connect_rule {P : World → Prop} {c : Bool}
    (h : Triple P modbusConnect (Arrived closed opened c) B) :
    Triple (fun d => P d.world ∧ d.connected = c) connect
      (fun r d => Standing closed opened d ∧ (r = .ok () → d.connected = true)) (fun d => B d.world) := by
  refine .bind (calling_rule h) fun rc => .ite (fun hrc => ?_) fun hrc => ?_
  · refine .bind (Triple.get (Q := fun _ d => Arrived closed opened c rc d.world ∧ d.connected = c)
      fun d hd => hd) fun e => .pure fun d hd => ⟨?_, nofun⟩
    obtain ⟨hd, rfl⟩ := hd
    unfold Standing
    unfold Arrived at hd
    cases hc : d.connected with
    | false => simpa [hrc, hc] using hd
    | true => simpa [hc] using hd
  · have hopen : ∀ d : Actor, Arrived closed opened c rc d.world ∧ d.connected = c → opened d.world := by
      rintro d ⟨hd, -⟩
      rwa [Arrived, if_neg (by simp [hrc])] at hd
    have htimer (kind : TimerKind) : Triple (fun d : Actor => opened d.world)
        (.modify fun d => d.startTimer kind) (fun _ d => opened d.world) fun d => B d.world := by
      refine .modify fun d hd => ?_
      rw [(startTimer_link d kind).world]
      exact hd
    refine Triple.pre ?_ hopen
    refine .bind (htimer .autoReconnect) fun _ => .bind (htimer .disconnectWhenIdle) fun _ => ?_
    refine .bind (Q := fun _ d => opened d.world ∧ d.connected = true) (.modify fun d hd => ⟨hd, rfl⟩)
      fun _ => .pure fun d hd => ⟨?_, fun _ => hd.2⟩
    rw [Standing, if_pos hd.2]
    exact hd.1

lemma disconnect_rule (h : Triple opened modbusClose (fun _ => closed) B) :
    Triple (Standing closed opened) disconnect (fun _ => Standing closed opened)
      (fun d => B d.world) := by
  refine .bind (.get (Q := fun c d => Standing closed opened d ∧ c = d) fun d hd => ⟨hd, rfl⟩) fun c => ?_
  refine .ite (fun hc => ?_) fun hc => .pure fun d hd => hd.1
  have hclose : Triple (fun d => Standing closed opened d ∧ c = d) (calling modbusClose)
      (fun _ d => closed d.world ∧ d.connected = true) (fun d => B d.world) := by
    apply Triple.pre (calling_rule h)
    rintro d ⟨hd, rfl⟩
    exact ⟨standing_true hd hc, hc⟩
  refine .bind hclose fun _ => .bind (Q := fun _ => Standing closed opened) (.modify fun d hd => ?_)
    fun _ => ?_
  · exact hd.1
  · refine .bind (modify_standing fun d => cancel_link d _) fun _ => ?_
    exact modify_standing fun d => cancel_link d _

lemma operation_rule {α : Type} {body : M (Except ModbusError α)}
    (hconnect : Triple closed modbusConnect (Arrived closed opened false) B)
    (hbody : Maintains opened B body) :
    Triple (Standing closed opened) (operation body) (fun _ => Standing closed opened)
      (fun d => B d.world) := by
  have hneeded : Triple (Standing closed opened) connectWhenNeeded
      (fun r d => Standing closed opened d ∧ (r = .ok () → d.connected = true)) (fun d => B d.world) := by
    refine .bind (.get (Q := fun c d => Standing closed opened d ∧ c = d) fun d hd => ⟨hd, rfl⟩) fun c => ?_
    refine .ite (fun hc => .pure ?_) fun hc => Triple.pre (connect_rule hconnect) ?_
    · rintro d ⟨hd, rfl⟩
      exact ⟨hd, fun _ => hc⟩
    · rintro d ⟨hd, rfl⟩
      have hc : c.connected = false := by simpa using hc
      exact ⟨standing_false hd hc, hc⟩
  refine .bind hneeded fun r => ?_
  cases r with
  | error e => exact .pure fun d hd => hd.1
  | ok _ =>
    refine .bind (Q := fun _ => Standing closed opened) ?_ fun result => ?_
    · refine Triple.weaken (calling_rule (c := true) hbody) ?_ ?_ fun d hd => hd
      · exact fun d hd => ⟨standing_true hd.1 (hd.2 rfl), hd.2 rfl⟩
      · rintro a d ⟨hd, hc⟩
        rw [Standing, if_pos hc]
        exact hd
    · exact .bind (modify_standing fun d => startTimer_link d _) fun _ => .pure fun d hd => hd

structure LinkRules (closed opened B : World → Prop) : Prop where
  arriveClosed (w : World) (script : List Response) (rx : List UInt8) :
    closed w → closed { w with script, rx }
  arriveOpened (w : World) (script : List Response) (rx : List UInt8) :
    opened w → opened { w with script, rx }
  connect : Triple closed modbusConnect (Arrived closed opened false) B
  close : Triple opened modbusClose (fun _ => closed) B

def Admitted (closed opened B : World → Prop) (d : Actor) (c : DeviceCall) : Prop :=
  (c = .connect → d.connected = true → Triple opened modbusConnect (Arrived closed opened true) B) ∧
    ∀ call ∈ c.asks, Leaves opened call

variable [Attached opened B]

lemma call_rule (h : LinkRules closed opened B) (c : DeviceCall) :
    Triple (fun d => Standing closed opened d ∧ Admitted closed opened B d c) c.run
      (fun _ => Standing closed opened) (fun d => B d.world) := by
  refine .from_state fun d hd => ?_
  obtain ⟨hd, hagain, hleaves⟩ := hd
  have hstart {P : Actor → Prop} (hP : P d) : ∀ d', d = d' → P d' := by
    rintro _ rfl
    exact hP
  rcases c.cases with rfl | rfl | ⟨α, body, hrun, hbody⟩
  · refine .bind (Q := fun _ => Standing closed opened) ?_ fun _ => .pure fun d hd => hd
    cases hc : d.connected with
    | false =>
      exact (connect_rule h.connect).weaken (hstart ⟨standing_false hd hc, hc⟩) (fun _ _ h => h.1)
        fun _ h => h
    | true =>
      exact (connect_rule (hagain rfl hc)).weaken (hstart ⟨standing_true hd hc, hc⟩)
        (fun _ _ h => h.1) fun _ h => h
  · exact (disconnect_rule h.close).pre (hstart hd)
  · rw [hrun]
    refine .bind (Q := fun _ => Standing closed opened) ?_ fun _ => .pure fun d hd => hd
    exact (operation_rule h.connect (hbody.maintains hleaves)).pre (hstart hd)

omit [Attached opened B] in
lemma prepare_standing (h : LinkRules closed opened B) {d : Actor} (hd : Standing closed opened d) (k : ℕ)
    (answers : JobAnswers) : Standing closed opened (d.prepare k answers) := by
  unfold Standing at hd ⊢
  unfold prepare
  dsimp only
  split_ifs with hc
  · rw [if_pos hc] at hd
    exact h.arriveOpened _ _ _ hd
  · rw [if_neg hc] at hd
    exact h.arriveClosed _ _ _ hd

lemma job_rule (h : LinkRules closed opened B) (job : Job) :
    Triple (fun d => Standing closed opened d ∧ ∀ c, job = .call c → Admitted closed opened B d c) job.run
      (fun _ => Standing closed opened) (fun d => B d.world) := by
  cases job with
  | call c => exact (call_rule h c).pre fun d hd => ⟨hd.1, hd.2 c rfl⟩
  | resume task =>
    refine .bind (Q := fun _ => Standing closed opened) (.modify fun d hd => ?_) fun _ =>
      disconnect_rule h.close
    exact hd.1

end Rules

end Actor

namespace Process

open Actor

variable {closed opened B : World → Prop} [Attached opened B] {p : Process}

def Sustained (closed opened B : World → Prop) (p : Process) : Prop :=
  if p.stalled then B p.actor.world else Standing closed opened p.actor

def takes (p : Process) : DeviceEvent → Option DeviceCall
  | .work k _ =>
    match p.actor.jobs[k]? with
    | some (.call c) => some c
    | _ => none
  | _ => none

lemma step_sustained (h : LinkRules closed opened B) {e : DeviceEvent} (hp : Sustained closed opened B p)
    (htakes : ∀ c ∈ p.takes e, Admitted closed opened B p.actor c) :
    Sustained closed opened B (p.step e) := by
  unfold step
  split_ifs with hs
  · exact hp
  have hstand : Standing closed opened p.actor := by rwa [Sustained, if_neg hs] at hp
  cases e with
  | submit c =>
    rw [Sustained, if_neg hs]
    exact hstand
  | elapse task =>
    rw [Sustained, if_neg hs]
    exact (elapse_link p.actor task).standing hstand
  | work k answers =>
    dsimp only
    cases hjob : p.actor.jobs[k]? with
    | none => exact hp
    | some job =>
      have hcall : ∀ c, job = .call c → Admitted closed opened B (p.actor.prepare k answers) c := by
        rintro c rfl
        apply htakes c
        rw [takes, hjob]
        rfl
      have hrule := job_rule h job _ ⟨prepare_standing h hstand k answers, hcall⟩
      dsimp only
      cases hrun : job.run (p.actor.prepare k answers) with
      | done _ d =>
        rw [hrun] at hrule
        exact hrule
      | blocked d =>
        rw [hrun] at hrule
        exact hrule

end Process

end LibModbus
