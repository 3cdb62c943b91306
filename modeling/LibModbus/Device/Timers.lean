import LibModbus.Device.Initialisers

/-! The timers of a device: whether they follow its connection. -/

namespace LibModbus

open Library Library.Prog

def TimerTask.Pending (t : TimerTask) : Prop := t.progress ≠ .ended ∧ t.isCancelled = false

namespace Actor

section Tasks

variable (d : Actor) (kind : TimerKind)

def wake (t : TimerTask) : TimerTask :=
  if t.progress = .sleeping then { t with progress := .woken } else t

lemma elapse_tasks (i j : ℕ) : (d.elapse i).tasks[j]? =
    if i = j then d.tasks[j]?.map wake else d.tasks[j]? := by
  unfold elapse
  by_cases hij : i = j
  · subst hij
    rw [if_pos rfl]
    cases ht : d.tasks[i]? with
    | none => exact ht
    | some t =>
      have hlt := (List.getElem?_eq_some_iff.mp ht).1
      dsimp only [wake, Option.map]
      split_ifs with hs
      · simp [List.getElem?_set_self hlt]
      · exact ht
  · rw [if_neg hij]
    split
    · rfl
    · split_ifs
      · exact List.getElem?_set_ne hij
      · rfl

lemma elapse_current (i : ℕ) : (d.elapse i).current kind = d.current kind := by
  unfold elapse
  split
  · rfl
  · split_ifs <;> cases kind <;> rfl

lemma elapse_delay (i : ℕ) : (d.elapse i).delay kind = d.delay kind := by
  unfold elapse
  split
  · rfl
  · split_ifs <;> cases kind <;> rfl

lemma cancel_tasks (j : ℕ) : (d.cancel kind).tasks[j]? =
    if d.current kind = some j then d.tasks[j]?.map TimerTask.cancel else d.tasks[j]? := by
  unfold cancel
  cases hc : d.current kind with
  | none => simp
  | some i => simp only [List.getElem?_modify, Option.some.injEq]; split_ifs <;> simp_all

lemma cancel_current (k : TimerKind) : (d.cancel kind).current k = d.current k := by
  unfold cancel
  split
  · rfl
  · cases k <;> rfl

lemma cancel_delay (k : TimerKind) : (d.cancel kind).delay k = d.delay k := by
  unfold cancel
  split
  · rfl
  · cases k <;> rfl

lemma cancel_length : (d.cancel kind).tasks.length = d.tasks.length := by
  unfold cancel
  split
  · rfl
  · exact List.length_modify _ _ _

variable {d kind} (h : 0 < d.delay kind)

include h

lemma startTimer_tasks (j : ℕ) : (d.startTimer kind).tasks[j]? =
    if j = d.tasks.length then some ⟨kind, false, .sleeping⟩ else (d.cancel kind).tasks[j]? := by
  have ht : (d.startTimer kind).tasks = (d.cancel kind).tasks ++ [⟨kind, false, .sleeping⟩] := by
    unfold startTimer
    rw [if_pos h]
    cases kind <;> rfl
  rw [ht, List.getElem?_append, cancel_length]
  split_ifs with hlt heq heq
  · omega
  · rfl
  · rw [heq, Nat.sub_self]
    rfl
  · rw [List.getElem?_eq_none (by simp; omega), List.getElem?_eq_none (by rw [cancel_length]; omega)]

lemma startTimer_current (k : TimerKind) : (d.startTimer kind).current k =
    if k = kind then some d.tasks.length else d.current k := by
  unfold startTimer
  rw [if_pos h]
  dsimp only
  rw [cancel_length, ← cancel_current d kind k]
  cases kind <;> cases k <;> rfl

end Tasks

lemma startTimer_delay (d : Actor) (kind k : TimerKind) : (d.startTimer kind).delay k = d.delay k := by
  unfold startTimer
  split_ifs
  · rw [← cancel_delay d kind k]
    cases kind <;> cases k <;> rfl
  · rfl

lemma finish_tasks (d : Actor) (i j : ℕ) : (d.finish i).tasks[j]? =
    if i = j then d.tasks[j]?.map (fun t => { t with progress := .ended }) else d.tasks[j]? := by
  unfold finish
  simp only [List.getElem?_modify]
  split_ifs <;> simp_all

structure Orderly (d : Actor) : Prop where
  delay (kind : TimerKind) : 0 < d.delay kind
  stored (kind : TimerKind) (i : ℕ) : d.current kind = some i → ∃ t, d.tasks[i]? = some t ∧ t.kind = kind
  latest (i : ℕ) (t : TimerTask) : d.tasks[i]? = some t → t.Pending → d.current t.kind = some i

def Resting (d : Actor) : Prop := ∀ (i : ℕ) (t : TimerTask), d.tasks[i]? = some t → ¬t.Pending

def Armed (d : Actor) : Prop :=
  ∃ (i : ℕ) (t : TimerTask), d.tasks[i]? = some t ∧ t.Pending ∧ t.kind = .autoReconnect

structure Lapses (d d' : Actor) : Prop where
  length : d'.tasks.length = d.tasks.length
  delay (kind : TimerKind) : d'.delay kind = d.delay kind
  current (kind : TimerKind) : d'.current kind = d.current kind
  tasks (i : ℕ) (t' : TimerTask) : d'.tasks[i]? = some t' →
    ∃ t, d.tasks[i]? = some t ∧ t'.kind = t.kind ∧ (t'.Pending → t.Pending)

section Lapses

variable {d d' : Actor}

lemma Lapses.orderly (h : Lapses d d') (hd : d.Orderly) : d'.Orderly where
  delay kind := (hd.delay kind).trans_eq (h.delay kind).symm
  stored kind i hc := by
    obtain ⟨t, ht, rfl⟩ := hd.stored kind i ((h.current kind).symm.trans hc)
    have hlt : i < d'.tasks.length := h.length ▸ (List.getElem?_eq_some_iff.mp ht).1
    obtain ⟨t₀, ht₀, hk, -⟩ := h.tasks i _ (List.getElem?_eq_getElem hlt)
    obtain rfl := Option.some.inj (ht.symm.trans ht₀)
    exact ⟨_, List.getElem?_eq_getElem hlt, hk⟩
  latest i t' ht' hp := by
    obtain ⟨t, ht, hk, hpt⟩ := h.tasks i t' ht'
    rw [h.current, hk]
    exact hd.latest i t ht (hpt hp)

lemma Lapses.resting (h : Lapses d d') (hd : d.Resting) : d'.Resting := by
  intro i t' ht' hp
  obtain ⟨t, ht, -, hpt⟩ := h.tasks i t' ht'
  exact hd i t ht (hpt hp)

lemma wake_pending (t : TimerTask) : (wake t).Pending ↔ t.Pending := by
  unfold wake
  split_ifs with h
  · simp [TimerTask.Pending, h]
  · rfl

lemma wake_kind (t : TimerTask) : (wake t).kind = t.kind := by
  unfold wake
  split_ifs <;> rfl

lemma cancel_not_pending (t : TimerTask) : ¬t.cancel.Pending := by
  simp [TimerTask.Pending, TimerTask.cancel]

lemma elapse_length (d : Actor) (i : ℕ) : (d.elapse i).tasks.length = d.tasks.length := by
  unfold elapse
  split
  · rfl
  · split_ifs
    · exact List.length_set
    · rfl

lemma elapse_lapses (d : Actor) (i : ℕ) : Lapses d (d.elapse i) := by
  refine ⟨elapse_length d i, fun kind => elapse_delay d kind i, fun kind => elapse_current d kind i,
    fun j t' ht' => ?_⟩
  rw [elapse_tasks] at ht'
  split_ifs at ht'
  · obtain ⟨t, ht, rfl⟩ := Option.map_eq_some_iff.mp ht'
    exact ⟨t, ht, wake_kind t, (wake_pending t).mp⟩
  · exact ⟨t', ht', rfl, id⟩

lemma cancel_lapses (d : Actor) (kind : TimerKind) : Lapses d (d.cancel kind) := by
  refine ⟨cancel_length d kind, cancel_delay d kind, cancel_current d kind, fun j t' ht' => ?_⟩
  rw [cancel_tasks] at ht'
  split_ifs at ht'
  · obtain ⟨t, ht, rfl⟩ := Option.map_eq_some_iff.mp ht'
    exact ⟨t, ht, rfl, fun hp => absurd hp (cancel_not_pending t)⟩
  · exact ⟨t', ht', rfl, id⟩

lemma finish_lapses (d : Actor) (i : ℕ) : Lapses d (d.finish i) := by
  refine ⟨List.length_modify _ _ _, fun kind => by cases kind <;> rfl, fun kind => by cases kind <;> rfl,
    fun j t' ht' => ?_⟩
  rw [finish_tasks] at ht'
  split_ifs at ht'
  · obtain ⟨t, ht, rfl⟩ := Option.map_eq_some_iff.mp ht'
    exact ⟨t, ht, rfl, fun hp => absurd rfl hp.1⟩
  · exact ⟨t', ht', rfl, id⟩

lemma elapse_armed (i : ℕ) (h : d.Armed) : (d.elapse i).Armed := by
  obtain ⟨j, t, ht, hp, hk⟩ := h
  by_cases hij : i = j
  · exact ⟨j, wake t, by rw [elapse_tasks, if_pos hij, ht]; rfl, (wake_pending t).mpr hp,
      (wake_kind t).trans hk⟩
  · exact ⟨j, t, by rw [elapse_tasks, if_neg hij, ht], hp, hk⟩

lemma cancel_kind (hd : d.Orderly) (kind : TimerKind) {i : ℕ} {t : TimerTask}
    (ht : (d.cancel kind).tasks[i]? = some t) (hp : t.Pending) : t.kind ≠ kind := by
  rintro rfl
  rw [cancel_tasks] at ht
  split_ifs at ht with hc
  · obtain ⟨t₀, -, rfl⟩ := Option.map_eq_some_iff.mp ht
    exact cancel_not_pending t₀ hp
  · exact hc (hd.latest i t ht hp)

lemma startTimer_orderly (hd : d.Orderly) (kind : TimerKind) : (d.startTimer kind).Orderly := by
  have hc := (cancel_lapses d kind).orderly hd
  have h := hd.delay kind
  refine ⟨fun k => (hd.delay k).trans_eq (startTimer_delay d kind k).symm, fun k i hcur => ?_,
    fun i t ht hp => ?_⟩
  · rw [startTimer_current h] at hcur
    rw [startTimer_tasks h]
    split_ifs at hcur with hk
    · obtain rfl := Option.some.inj hcur
      exact ⟨_, if_pos rfl, hk.symm⟩
    · obtain ⟨t, ht, htk⟩ := hc.stored k i ((cancel_current d kind k).trans hcur)
      have hlt := (List.getElem?_eq_some_iff.mp ht).1
      rw [cancel_length] at hlt
      exact ⟨t, by rw [if_neg (by omega), ht], htk⟩
  · rw [startTimer_tasks h] at ht
    rw [startTimer_current h]
    split_ifs at ht with hi
    · obtain rfl := Option.some.inj ht
      rw [if_pos rfl, hi]
    · rw [if_neg (cancel_kind hd kind ht hp), ← cancel_current d kind]
      exact hc.latest i t ht hp

lemma startAutoReconnectTimer_armed (hd : d.Orderly) : (d.startTimer .autoReconnect).Armed := by
  refine ⟨d.tasks.length, ⟨.autoReconnect, false, .sleeping⟩, ?_, ⟨by decide, rfl⟩, rfl⟩
  rw [startTimer_tasks (hd.delay _), if_pos rfl]

lemma startDisconnectWhenIdleTimer_armed (hd : d.Orderly) (h : d.Armed) :
    (d.startTimer .disconnectWhenIdle).Armed := by
  obtain ⟨i, t, ht, hp, hk⟩ := h
  have hlt := (List.getElem?_eq_some_iff.mp ht).1
  refine ⟨i, t, ?_, hp, hk⟩
  rw [startTimer_tasks (hd.delay _), if_neg (by omega), cancel_tasks, if_neg, ht]
  intro hc
  obtain ⟨t', ht', hk'⟩ := hd.stored _ i hc
  obtain rfl := Option.some.inj (ht.symm.trans ht')
  rw [hk] at hk'
  exact absurd hk' nofun

lemma cancel_resting (hd : d.Orderly) :
    ((d.cancel .autoReconnect).cancel .disconnectWhenIdle).Resting := by
  intro i t ht hp
  have hc := (cancel_lapses d .autoReconnect).orderly hd
  have hidle := cancel_kind hc .disconnectWhenIdle ht hp
  obtain ⟨t', ht', hk, hpt⟩ := (cancel_lapses (d.cancel .autoReconnect) .disconnectWhenIdle).tasks i t ht
  have hauto := cancel_kind hd .autoReconnect ht' (hpt hp)
  rw [← hk] at hauto
  cases hkind : t.kind with
  | autoReconnect => exact hauto hkind
  | disconnectWhenIdle => exact hidle hkind

end Lapses

structure SameTimers (d d' : Actor) : Prop where
  tasks : d'.tasks = d.tasks
  delay (kind : TimerKind) : d'.delay kind = d.delay kind
  current (kind : TimerKind) : d'.current kind = d.current kind

lemma SameTimers.lapses {d d' : Actor} (h : SameTimers d d') : Lapses d d' where
  length := congrArg List.length h.tasks
  delay := h.delay
  current := h.current
  tasks i t ht := ⟨t, by rw [← h.tasks, ht], rfl, id⟩

lemma SameTimers.armed {d d' : Actor} (h : SameTimers d d') (hd : d.Armed) : d'.Armed := by
  obtain ⟨i, t, ht, hp⟩ := hd
  exact ⟨i, t, by rw [h.tasks, ht], hp⟩

section Programs

variable {serial : Prop}

def Guarded (serial : Prop) (d : Actor) : Prop :=
  d.Armed ∨ serial ∧ d.current .autoReconnect = none

structure Following (serial : Prop) (d : Actor) : Prop where
  orderly : d.Orderly
  guarded : d.connected = true → Guarded serial d
  resting : d.connected = false → d.Resting

lemma Following.of_guarded {d : Actor} (h : d.Orderly ∧ Guarded serial d ∧ d.connected = true) :
    Following serial d :=
  ⟨h.1, fun _ => h.2.1, fun hc => by rw [h.2.2] at hc; contradiction⟩

lemma SameTimers.guarded {d d' : Actor} (h : SameTimers d d') (hd : Guarded serial d) :
    Guarded serial d' :=
  hd.imp h.armed fun hn => ⟨hn.1, (h.current _).trans hn.2⟩

lemma elapse_guarded {d : Actor} (i : ℕ) (h : Guarded serial d) : Guarded serial (d.elapse i) :=
  h.imp (elapse_armed i) fun hn => ⟨hn.1, (elapse_current d _ i).trans hn.2⟩

lemma startDisconnectWhenIdleTimer_guarded {d : Actor} (hd : d.Orderly) (h : Guarded serial d) :
    Guarded serial (d.startTimer .disconnectWhenIdle) := by
  refine h.imp (startDisconnectWhenIdleTimer_armed hd) fun hn => ⟨hn.1, ?_⟩
  rw [startTimer_current (hd.delay _), if_neg (by decide)]
  exact hn.2

lemma calling_keeps {T : Actor → Prop} {α : Type} (m : M α)
    (hw : ∀ d world elapsing, T d → T { d with world, elapsing }) (he : ∀ d i, T d → T (d.elapse i)) :
    Maintains T (fun _ => True) (calling m) := by
  intro d hd
  unfold calling
  cases m d.world with
  | blocked w => trivial
  | done a w =>
    have hfold (ts : List ℕ) (c : Actor) (hc : T c) : T (ts.foldl elapse c) := by
      induction ts generalizing c with
      | nil => exact hc
      | cons t ts ih => exact ih _ (he c t hc)
    dsimp only [elapseMeanwhile]
    cases hel : d.elapsing with
    | nil =>
      have h := hw d w d.elapsing hd
      rwa [hel] at h
    | cons ts later => exact hfold ts _ (hw d w later hd)

lemma sameTimers_world (d : Actor) (world : World) (elapsing : List (List ℕ)) :
    SameTimers d { d with world, elapsing } :=
  ⟨rfl, fun k => by cases k <;> rfl, fun k => by cases k <;> rfl⟩

lemma sameTimers_connected (d : Actor) (connected : Bool) : SameTimers d { d with connected } :=
  ⟨rfl, fun k => by cases k <;> rfl, fun k => by cases k <;> rfl⟩

lemma calling_guarded (serial : Prop) {α : Type} (m : M α) : Maintains
    (fun d => d.Orderly ∧ Guarded serial d ∧ d.connected = true) (fun _ => True) (calling m) := by
  refine calling_keeps m (fun d w el h => ?_) fun d i h => ?_
  · have hs := sameTimers_world d w el
    exact ⟨hs.lapses.orderly h.1, hs.guarded h.2.1, h.2.2⟩
  · exact ⟨(elapse_lapses d i).orderly h.1, elapse_guarded i h.2.1,
      (elapse_link d i).connected.trans h.2.2⟩

lemma calling_orderly {α : Type} (m : M α) (c : Bool) : Maintains
    (fun d => d.Orderly ∧ (c = false → d.Resting) ∧ d.connected = c) (fun _ => True) (calling m) := by
  refine calling_keeps m (fun d w el h => ?_) fun d i h => ?_
  · have hs := (sameTimers_world d w el).lapses
    exact ⟨hs.orderly h.1, fun hc => hs.resting (h.2.1 hc), h.2.2⟩
  · have hl := elapse_lapses d i
    exact ⟨hl.orderly h.1, fun hc => hl.resting (h.2.1 hc), (elapse_link d i).connected.trans h.2.2⟩

lemma started_following : Triple Orderly (do
    startAutoReconnectTimer
    startDisconnectWhenIdleTimer
    Prog.modify fun d => { d with connected := true }
    return (.ok () : Except ModbusError Unit))
    (fun r d => Following serial d ∧ (r = .ok () → d.connected = true)) (fun _ => True) := by
  refine .bind (Q := fun _ d => d.Orderly ∧ d.Armed) (.modify fun d hd => ?_) fun _ => ?_
  · exact ⟨startTimer_orderly hd _, startAutoReconnectTimer_armed hd⟩
  refine .bind (Q := fun _ d => d.Orderly ∧ d.Armed) (.modify fun d hd => ?_) fun _ => ?_
  · exact ⟨startTimer_orderly hd.1 _, startDisconnectWhenIdleTimer_armed hd.1 hd.2⟩
  refine .bind (Q := fun _ d => d.Orderly ∧ d.Armed ∧ d.connected = true) (.modify fun d hd => ?_)
    fun _ => .pure fun d hd => ?_
  · have hs := sameTimers_connected d true
    exact ⟨hs.lapses.orderly hd.1, hs.armed hd.2, rfl⟩
  · exact ⟨Following.of_guarded ⟨hd.1, .inl hd.2.1, hd.2.2⟩, fun _ => hd.2.2⟩

lemma connect_following : Triple (Following serial) connect
    (fun r d => Following serial d ∧ (r = .ok () → d.connected = true)) (fun _ => True) := by
  refine .from_state fun d hd => ?_
  cases hc : d.connected with
  | false =>
    refine .bind (Triple.pre (calling_orderly modbusConnect false) ?_) fun rc =>
      .ite (fun hrc => ?_) fun hrc => started_following.pre fun d hd => hd.1
    · rintro _ rfl
      exact ⟨hd.orderly, fun _ => hd.resting hc, hc⟩
    · refine .bind (.get (Q := fun _ => Following serial) fun d hd => ?_) fun e =>
        .pure fun d hd => ⟨hd, nofun⟩
      exact ⟨hd.1, fun ht => by simp [hd.2.2] at ht, fun _ => hd.2.1 rfl⟩
  | true =>
    refine .bind (Triple.pre (calling_guarded serial modbusConnect) ?_) fun rc =>
      .ite (fun hrc => ?_) fun hrc => started_following.pre fun d hd => hd.1
    · rintro _ rfl
      exact ⟨hd.orderly, hd.guarded hc, hc⟩
    · exact .bind (.get (Q := fun _ => Following serial) fun d hd => Following.of_guarded hd) fun e =>
        .pure fun d hd => ⟨hd, nofun⟩

lemma disconnect_following : Triple (fun d => d.Orderly ∧ (d.connected = false → d.Resting)) disconnect
    (fun _ => Following serial) (fun _ => True) := by
  refine .from_state fun d hd => .bind (.get (Q := fun c e => d = c ∧ d = e) ?_) fun c => ?_
  · rintro _ rfl
    exact ⟨rfl, rfl⟩
  refine .ite (fun hc => ?_) fun hc => .pure ?_
  · refine .bind (Triple.pre (calling_orderly modbusClose true) ?_) fun _ => ?_
    · rintro _ ⟨rfl, rfl⟩
      exact ⟨hd.1, nofun, hc⟩
    refine .bind (Q := fun _ d => d.Orderly ∧ d.connected = false) (.modify fun d hd => ?_) fun _ => ?_
    · exact ⟨(sameTimers_connected d false).lapses.orderly hd.1, rfl⟩
    refine .bind (Q := fun _ d => ∃ d₀ : Actor, d₀.Orderly ∧ d₀.connected = false ∧
      d = d₀.cancel .autoReconnect) (.modify fun d hd => ⟨d, hd.1, hd.2, rfl⟩) fun _ => .modify ?_
    rintro _ ⟨d, hd, hc, rfl⟩
    have hl := cancel_lapses (d.cancel .autoReconnect) .disconnectWhenIdle
    have ho := hl.orderly ((cancel_lapses d .autoReconnect).orderly hd)
    refine ⟨ho, fun ht => ?_, fun _ => cancel_resting hd⟩
    rw [(cancel_link _ _).connected, (cancel_link _ _).connected, hc] at ht
    contradiction
  · rintro _ ⟨rfl, rfl⟩
    have hc : d.connected = false := by simpa using hc
    exact ⟨hd.1, fun ht => by simp [hc] at ht, hd.2⟩

lemma operation_following {α : Type} (body : M (Except ModbusError α)) :
    Triple (Following serial) (operation body) (fun _ => Following serial) (fun _ => True) := by
  have hneeded : Triple (Following serial) connectWhenNeeded
      (fun r d => Following serial d ∧ (r = .ok () → d.connected = true)) (fun _ => True) := by
    refine .bind (.get (Q := fun c d => Following serial d ∧ c = d) fun d hd => ⟨hd, rfl⟩) fun c => ?_
    refine .ite (fun hc => .pure ?_) fun hc => connect_following.pre fun d hd => hd.1
    rintro d ⟨hd, rfl⟩
    exact ⟨hd, fun _ => hc⟩
  refine .bind hneeded fun r => ?_
  cases r with
  | error e => exact .pure fun d hd => hd.1
  | ok _ =>
    refine .bind (Triple.pre (calling_guarded serial body) ?_) fun result => ?_
    · exact fun d hd => ⟨hd.1.orderly, hd.1.guarded (hd.2 rfl), hd.2 rfl⟩
    refine .bind (Q := fun _ => Following serial) (.modify fun d hd => Following.of_guarded ?_) fun _ =>
      .pure fun d hd => hd
    exact ⟨startTimer_orderly hd.1 _, startDisconnectWhenIdleTimer_guarded hd.1 hd.2.1,
      (startTimer_link d _).connected.trans hd.2.2⟩

lemma job_following (job : Job) :
    Triple (Following serial) job.run (fun _ => Following serial) (fun _ => True) := by
  cases job with
  | call c =>
    rcases c.cases with rfl | rfl | ⟨α, body, hrun, -⟩
    · exact .bind (Q := fun _ => Following serial) (connect_following.post fun r d h => h.1) fun _ =>
        .pure fun d hd => hd
    · exact disconnect_following.pre fun d hd => ⟨hd.orderly, hd.resting⟩
    · rw [Job.run, hrun]
      exact .bind (operation_following body) fun _ => .pure fun d hd => hd
  | resume task =>
    refine .bind (.modify (Q := fun _ d => d.Orderly ∧ (d.connected = false → d.Resting)) fun d hd => ?_)
      fun _ => disconnect_following
    have hl := finish_lapses d task
    exact ⟨hl.orderly hd.orderly, fun hc => hl.resting (hd.resting hc)⟩

end Programs

/-- What is expected of the timers: while the device is connected a task of the auto-reconnect timer is
pending, and while it is not, no task is. -/
def TimersFollow (d : Actor) : Prop :=
  (d.connected = true → ∃ t ∈ d.tasks, t.kind = .autoReconnect ∧ t.Pending) ∧
    (d.connected = false → ∀ t ∈ d.tasks, ¬t.Pending)

lemma Following.timersFollow_iff {serial : Prop} {d : Actor} (h : Following serial d) :
    d.TimersFollow ↔ (d.connected = true → d.autoReconnectTask ≠ none) := by
  constructor
  · intro hf hc
    obtain ⟨t, ht, hk, hp⟩ := hf.1 hc
    obtain ⟨i, hi⟩ := List.mem_iff_getElem?.mp ht
    have hcur := h.orderly.latest i t hi hp
    rw [hk] at hcur
    exact fun hn => Option.some_ne_none i (hcur.symm.trans hn)
  · refine fun hn => ⟨fun hc => ?_, fun hc t ht => ?_⟩
    · obtain ⟨i, t, ht, hp, hk⟩ := (h.guarded hc).resolve_right fun h => hn hc h.2
      exact ⟨t, List.mem_of_getElem? ht, hk, hp⟩
    · obtain ⟨i, hi⟩ := List.mem_iff_getElem?.mp ht
      exact h.resting hc i t hi

lemma New.following {d : Actor} {auto idle : ℚ} (h : d.New auto idle) (ha : 0 < auto) (hi : 0 < idle) :
    Following (d.connected = true) d where
  orderly := by
    refine ⟨fun kind => ?_, fun kind i hc => ?_, fun i t ht => ?_⟩
    · cases kind with
      | autoReconnect => exact ha.trans_eq h.autoReconnectAfter.symm
      | disconnectWhenIdle => exact hi.trans_eq h.disconnectWhenIdleAfter.symm
    · cases kind with
      | autoReconnect => exact absurd (h.autoReconnectTask.symm.trans hc) nofun
      | disconnectWhenIdle => exact absurd (h.disconnectWhenIdleTask.symm.trans hc) nofun
    · rw [h.tasks] at ht
      exact absurd ht nofun
  guarded hc := .inr ⟨hc, h.autoReconnectTask⟩
  resting _ i t ht := by
    rw [h.tasks] at ht
    exact absurd ht nofun

def BuiltWith (auto idle : ℚ) (d : Actor) : Prop :=
  (∃ ipAddresses deviceAddress, initNetwork ipAddresses deviceAddress auto idle = .device d) ∨
    ∃ room device slaveid answers, initRtu room device slaveid auto idle answers = .device d

lemma BuiltWith.new {auto idle : ℚ} {d : Actor} (h : BuiltWith auto idle d) : d.New auto idle := by
  rcases h with ⟨_, _, h⟩ | ⟨_, _, _, _, h⟩
  · exact (initNetwork_device h).2.1
  · exact (initRtu_device h).2.1

end Actor

namespace Process

open Actor

variable {serial : Prop} {p : Process}

lemma step_following (e : DeviceEvent) (hp : p.stalled = false → Following serial p.actor) :
    (p.step e).stalled = false → Following serial (p.step e).actor := by
  unfold step
  split_ifs with hs
  · exact fun h => absurd hs (by simp [h])
  have hstand := hp (by simpa using hs)
  cases e with
  | submit c =>
    have hl : SameTimers p.actor { p.actor with jobs := p.actor.jobs ++ [.call c] } :=
      ⟨rfl, fun k => by cases k <;> rfl, fun k => by cases k <;> rfl⟩
    exact fun _ => ⟨hl.lapses.orderly hstand.orderly, fun hc => hl.guarded (hstand.guarded hc),
      fun hc => hl.lapses.resting (hstand.resting hc)⟩
  | elapse task =>
    have hl := elapse_lapses p.actor task
    have hconn := (elapse_link p.actor task).connected
    exact fun _ => ⟨hl.orderly hstand.orderly,
      fun hc => elapse_guarded task (hstand.guarded (hconn ▸ hc)),
      fun hc => hl.resting (hstand.resting (hconn ▸ hc))⟩
  | work k answers =>
    dsimp only
    cases hjob : p.actor.jobs[k]? with
    | none => exact hp
    | some job =>
      have hl : SameTimers p.actor (p.actor.prepare k answers) :=
        ⟨rfl, fun k => by cases k <;> rfl, fun k => by cases k <;> rfl⟩
      have hrule := job_following job _ (⟨hl.lapses.orderly hstand.orderly,
        fun hc => hl.guarded (hstand.guarded hc),
        fun hc => hl.lapses.resting (hstand.resting hc)⟩ : Following serial (p.actor.prepare k answers))
      dsimp only
      cases hrun : job.run (p.actor.prepare k answers) with
      | blocked d => exact nofun
      | done _ d =>
        rw [hrun] at hrule
        exact fun _ => hrule

lemma run_following (events : List DeviceEvent) (hp : p.stalled = false → Following serial p.actor) :
    (p.run events).stalled = false → Following serial (p.run events).actor := by
  induction events generalizing p with
  | nil => exact hp
  | cons e events ih => exact ih (step_following e hp)

/-- The timers follow the connection in all runs of a device, if and only if it is a network device.
In one state of a run they do unless a connected device never had a task of the auto-reconnect timer. -/
theorem timers_follow_iff {auto idle : ℚ} (ha : 0 < auto) (hi : 0 < idle) {d : Actor}
    (h : BuiltWith auto idle d) :
    ((∀ events, (run ⟨d, false⟩ events).stalled = false → (run ⟨d, false⟩ events).actor.TimersFollow) ↔
      ∃ ipAddresses deviceAddress, initNetwork ipAddresses deviceAddress auto idle = .device d) ∧
    ∀ events, (run ⟨d, false⟩ events).stalled = false →
      ((run ⟨d, false⟩ events).actor.TimersFollow ↔
        ((run ⟨d, false⟩ events).actor.connected = true →
          (run ⟨d, false⟩ events).actor.autoReconnectTask ≠ none)) := by
  have hnew := h.new
  have hrun (events : List DeviceEvent) (hs : (run ⟨d, false⟩ events).stalled = false) :=
    run_following (p := ⟨d, false⟩) events (fun _ => hnew.following ha hi) hs
  refine ⟨⟨fun hall => h.resolve_right ?_, ?_⟩, fun events hs => (hrun events hs).timersFollow_iff⟩
  · rintro ⟨room, device, slaveid, answers, hd⟩
    obtain ⟨t, ht, -⟩ := (hall [] rfl).1 (initRtu_device hd).1
    rw [show (run ⟨d, false⟩ []).actor.tasks = [] from hnew.tasks] at ht
    exact absurd ht List.not_mem_nil
  · rintro ⟨ipAddresses, deviceAddress, hd⟩ events hs
    have hclosed := (initNetwork_device hd).1
    have hf := hrun events hs
    refine ⟨fun hc => ?_, fun hc t ht => ?_⟩
    · obtain ⟨i, t, ht, hp, hk⟩ := (hf.guarded hc).resolve_right fun h => by simp [hclosed] at h
      exact ⟨t, List.mem_of_getElem? ht, hk, hp⟩
    · obtain ⟨i, hi⟩ := List.mem_iff_getElem?.mp ht
      exact hf.resting hc i t hi

section Runs

theorem timers_follow_iff_example :
    ∃ d, initNetwork ["192.168.0.1"] 1 3600 10 = .device d ∧ ∀ events,
      (run ⟨d, false⟩ events).stalled = false → (run ⟨d, false⟩ events).actor.TimersFollow := by
  refine ⟨_, rfl, ?_⟩
  have hbuilt : initNetwork ["192.168.0.1"] 1 3600 10 = .device _ := rfl
  have hdelays : (0 : ℚ) < 3600 ∧ (0 : ℚ) < 10 := by norm_num
  exact (timers_follow_iff hdelays.1 hdelays.2 (.inl ⟨_, _, hbuilt⟩)).1.mpr ⟨_, _, hbuilt⟩

/-- A serial device counts as connected at once, while none of its timers runs. -/
theorem serial_timer_missing :
    ∃ d, initRtu 64 "/dev/ttyS0" 1 10 10 { script := [{}, {}, {}] } = .device d ∧
      (run ⟨d, false⟩ []).actor.connected = true ∧ ¬(run ⟨d, false⟩ []).actor.TimersFollow := by
  refine ⟨_, rfl, ?_, fun h => ?_⟩
  · rfl
  · obtain ⟨t, ht, -⟩ := h.1 rfl
    exact absurd ht List.not_mem_nil

end Runs

end Process

end LibModbus
