import LibModbus.Device.Connection
import LibModbus.Device.Timers

/-! The wake-ups of the timers: whose task it is that disconnects. -/

namespace LibModbus

open Library Library.Prog

namespace Actor

section Unbroken

structure Unbroken (T : Actor → Prop) : Prop where
  link (d : Actor) (world : World) (elapsing : List (List ℕ)) (connected : Bool) :
    T d → T { d with world, elapsing, connected }
  elapse (d : Actor) (i : ℕ) : T d → T (d.elapse i)
  cancel (d : Actor) (kind : TimerKind) : T d → T (d.cancel kind)
  startTimer (d : Actor) (kind : TimerKind) : T d → T (d.startTimer kind)

variable {T : Actor → Prop} (h : Unbroken T)

include h

lemma Unbroken.calling {α : Type} (m : M α) : Maintains T (fun _ => True) (calling m) :=
  calling_keeps m (fun d w el hd => h.link d w el d.connected hd) h.elapse

lemma Unbroken.connect : Maintains T (fun _ => True) connect := by
  refine .bind (h.calling _) fun rc => .ite (.bind .get fun _ => .pure _) ?_
  refine .bind (.modify fun d hd => h.startTimer d _ hd) fun _ => ?_
  refine .bind (.modify fun d hd => h.startTimer d _ hd) fun _ => ?_
  exact .bind (.modify fun d hd => h.link d d.world d.elapsing true hd) fun _ => .pure _

lemma Unbroken.disconnect : Maintains T (fun _ => True) disconnect := by
  refine .bind .get fun d => .ite (.bind (h.calling _) fun _ => ?_) (.pure _)
  refine .bind (.modify fun d hd => h.link d d.world d.elapsing false hd) fun _ => ?_
  exact .bind (.modify fun d hd => h.cancel d _ hd) fun _ => .modify fun d hd => h.cancel d _ hd

lemma Unbroken.operation {α : Type} (body : M (Except ModbusError α)) :
    Maintains T (fun _ => True) (operation body) := by
  refine .bind (.bind .get fun d => .ite (.pure _) h.connect) fun r => ?_
  cases r with
  | error e => exact .pure _
  | ok _ =>
    refine .bind (h.calling body) fun result => ?_
    exact .bind (.modify fun d hd => h.startTimer d _ hd) fun _ => .pure _

lemma Unbroken.call (c : DeviceCall) : Maintains T (fun _ => True) c.run := by
  rcases c.cases with rfl | rfl | ⟨α, body, hrun, -⟩
  · exact .bind h.connect fun _ => .pure _
  · exact h.disconnect
  · rw [hrun]
    exact .bind (h.operation body) fun _ => .pure _

end Unbroken

section Details

variable (d : Actor) (kind : TimerKind)

lemma elapse_cases (i : ℕ) : d.elapse i = d ∨ (∃ t, d.tasks[i]? = some t ∧ t.progress = .sleeping) ∧
    (d.elapse i).jobs = d.jobs ++ [.resume i] := by
  unfold elapse
  cases ht : d.tasks[i]? with
  | none => exact .inl rfl
  | some t =>
    dsimp only
    split_ifs with hs
    · exact .inr ⟨⟨t, rfl, hs⟩, rfl⟩
    · exact .inl rfl

lemma elapse_overtaken (i : ℕ) : (d.elapse i).overtaken = d.overtaken := by
  unfold elapse
  split
  · rfl
  · split_ifs <;> rfl

lemma cancel_jobs : (d.cancel kind).jobs = d.jobs := by
  unfold cancel
  split <;> rfl

lemma cancel_overtaken : (d.cancel kind).overtaken = d.overtaken := by
  unfold cancel
  split <;> rfl

lemma startTimer_jobs : (d.startTimer kind).jobs = d.jobs := by
  unfold startTimer
  split_ifs
  · rw [← cancel_jobs d kind]
    cases kind <;> rfl
  · rfl

lemma startTimer_overtaken (h : 0 < d.delay kind) :
    (d.startTimer kind).overtaken = (d.overtaken || d.waits kind) := by
  unfold startTimer
  rw [if_pos h, ← cancel_overtaken d kind]
  cases kind <;> rfl

end Details

structure Prompt (d : Actor) : Prop where
  queued (i : ℕ) : .resume i ∈ d.jobs → ∃ t, d.tasks[i]? = some t ∧ t.progress = .woken
  once : d.jobs.Pairwise fun a b => ∀ i, a = .resume i → b ≠ .resume i
  recent (i : ℕ) (t : TimerTask) : d.tasks[i]? = some t → t.progress ≠ .ended → d.current t.kind = some i
  latest (i j : ℕ) (t : TimerTask) : d.tasks[j]? = some t → d.current t.kind = some i → j ≤ i
  timed (i : ℕ) (t : TimerTask) : d.tasks[i]? = some t → 0 < d.delay t.kind

structure Settles (f : ℕ → TimerTask → TimerTask) (d d' : Actor) : Prop where
  tasks (i : ℕ) : d'.tasks[i]? = d.tasks[i]?.map (f i)
  jobs : d'.jobs.Sublist d.jobs
  current (kind : TimerKind) : d'.current kind = d.current kind
  delay (kind : TimerKind) : d'.delay kind = d.delay kind
  overtaken : d'.overtaken = d.overtaken
  kind (i : ℕ) (t : TimerTask) : (f i t).kind = t.kind
  ends (i : ℕ) (t : TimerTask) : t.progress = .ended → (f i t).progress = .ended
  stays (i : ℕ) (t : TimerTask) : .resume i ∈ d'.jobs → t.progress = .woken → (f i t).progress = .woken

section Steps

variable {d d' : Actor} {f : ℕ → TimerTask → TimerTask}

lemma Settles.prompt (h : Settles f d d') (hd : d.Prompt) : d'.Prompt where
  queued i hi := by
    obtain ⟨t, ht, hw⟩ := hd.queued i (h.jobs.subset hi)
    exact ⟨f i t, by rw [h.tasks, ht]; rfl, h.stays i t hi hw⟩
  once := hd.once.sublist h.jobs
  recent i t' ht' hp := by
    rw [h.tasks] at ht'
    obtain ⟨t, ht, rfl⟩ := Option.map_eq_some_iff.mp ht'
    rw [h.current, h.kind]
    exact hd.recent i t ht fun he => hp (h.ends i t he)
  latest i j t' ht' hc := by
    rw [h.tasks] at ht'
    obtain ⟨t, ht, rfl⟩ := Option.map_eq_some_iff.mp ht'
    rw [h.current, h.kind] at hc
    exact hd.latest i j t ht hc
  timed i t' ht' := by
    rw [h.tasks] at ht'
    obtain ⟨t, ht, rfl⟩ := Option.map_eq_some_iff.mp ht'
    rw [h.delay, h.kind]
    exact hd.timed i t ht

lemma settles_link (d : Actor) (world : World) (elapsing : List (List ℕ)) (connected : Bool) :
    Settles (fun _ t => t) d { d with world, elapsing, connected } where
  tasks i := Option.map_id'.symm
  jobs := List.Sublist.refl _
  current kind := by cases kind <;> rfl
  delay kind := by cases kind <;> rfl
  overtaken := rfl
  kind _ _ := rfl
  ends _ _ h := h
  stays _ _ _ h := h

lemma settles_cancel (d : Actor) (kind : TimerKind) :
    Settles (fun i t => if d.current kind = some i then t.cancel else t) d (d.cancel kind) where
  tasks i := by
    rw [cancel_tasks]
    split_ifs
    · rfl
    · exact Option.map_id'.symm
  jobs := by rw [cancel_jobs]
  current := cancel_current d kind
  delay := cancel_delay d kind
  overtaken := cancel_overtaken d kind
  kind i t := by split_ifs <;> rfl
  ends i t h := by split_ifs <;> simp [TimerTask.cancel, h]
  stays i t _ h := by split_ifs <;> simp [TimerTask.cancel, h]

lemma Prompt.elapse (hd : d.Prompt) (i : ℕ) : (d.elapse i).Prompt := by
  rcases elapse_cases d i with he | ⟨⟨t₀, ht₀, hs⟩, hjobs⟩
  · rwa [he]
  have hnew : .resume i ∉ d.jobs := by
    intro hi
    obtain ⟨t, ht, hw⟩ := hd.queued i hi
    obtain rfl := Option.some.inj (ht₀.symm.trans ht)
    rw [hs] at hw
    contradiction
  have htask (j : ℕ) (t' : TimerTask) (ht' : (d.elapse i).tasks[j]? = some t') :
      ∃ t, d.tasks[j]? = some t ∧ t'.kind = t.kind ∧ (t'.progress ≠ .ended → t.progress ≠ .ended) := by
    rw [elapse_tasks] at ht'
    split_ifs at ht' with hij
    · obtain ⟨t, ht, rfl⟩ := Option.map_eq_some_iff.mp ht'
      refine ⟨t, ht, wake_kind t, fun hp he => hp ?_⟩
      rw [wake, if_neg (by simp [he]), he]
    · exact ⟨t', ht', rfl, id⟩
  refine ⟨fun j hj => ?_, ?_, fun j t' ht' hp => ?_, fun k j t' ht' hc => ?_, fun j t' ht' => ?_⟩
  · rw [hjobs, List.mem_append, List.mem_singleton] at hj
    rw [elapse_tasks]
    split_ifs with hij
    · subst hij
      exact ⟨wake t₀, by rw [ht₀]; rfl, by rw [wake, if_pos hs]⟩
    · refine hd.queued j (hj.resolve_right ?_)
      rintro ⟨⟩
      exact hij rfl
  · rw [hjobs, List.pairwise_append]
    refine ⟨hd.once, List.pairwise_singleton _ _, ?_⟩
    rintro a ha b hb j rfl rfl
    obtain rfl := Job.resume.inj (List.mem_singleton.mp hb)
    exact hnew ha
  · obtain ⟨t, ht, hk, ht₁⟩ := htask j t' ht'
    rw [elapse_current, hk]
    exact hd.recent j t ht (ht₁ hp)
  · obtain ⟨t, ht, hk, -⟩ := htask j t' ht'
    rw [elapse_current, hk] at hc
    exact hd.latest k j t ht hc
  · obtain ⟨t, ht, hk, -⟩ := htask j t' ht'
    rw [elapse_delay, hk]
    exact hd.timed j t ht

lemma Prompt.startTimer (hd : d.Prompt) (kind : TimerKind) (hw : d.waits kind = false) :
    (d.startTimer kind).Prompt := by
  by_cases h : 0 < d.delay kind
  swap
  · rwa [Actor.startTimer, if_neg h]
  have hc := (settles_cancel d kind).prompt hd
  have hlt {i : ℕ} {t : TimerTask} (ht : (d.cancel kind).tasks[i]? = some t) : i < d.tasks.length := by
    rw [← cancel_length d kind]
    exact (List.getElem?_eq_some_iff.mp ht).1
  have hended (i : ℕ) (t : TimerTask) (ht : (d.cancel kind).tasks[i]? = some t) (hk : t.kind = kind) :
      t.progress = .ended := by
    by_contra hp
    have hcur := hc.recent i t ht hp
    rw [cancel_current, hk] at hcur
    rw [cancel_tasks, if_pos hcur] at ht
    obtain ⟨t₀, ht₀, rfl⟩ := Option.map_eq_some_iff.mp ht
    have hwoken : t₀.progress ≠ .woken := by
      intro hwoken
      simp [waits, hcur, ht₀, hwoken] at hw
    rw [TimerTask.cancel] at hp
    cases hp₀ : t₀.progress with
    | sleeping => simp [hp₀] at hp
    | woken => exact hwoken hp₀
    | ended => simp [hp₀] at hp
  refine ⟨fun i hi => ?_, ?_, fun i t ht hp => ?_, fun i j t ht hcur => ?_, fun i t ht => ?_⟩
  · rw [startTimer_jobs, ← cancel_jobs d kind] at hi
    obtain ⟨t, ht, hwoken⟩ := hc.queued i hi
    refine ⟨t, ?_, hwoken⟩
    rw [startTimer_tasks h, if_neg (hlt ht).ne, ht]
  · rw [startTimer_jobs]
    exact hd.once
  · rw [startTimer_tasks h] at ht
    rw [startTimer_current h]
    split_ifs at ht with hi
    · obtain rfl := Option.some.inj ht
      rw [if_pos rfl, hi]
    · rw [if_neg fun hk => hp (hended i t ht hk), ← cancel_current d kind]
      exact hc.recent i t ht hp
  · rw [startTimer_tasks h] at ht
    rw [startTimer_current h] at hcur
    split_ifs at ht hcur with hj hk hk
    · obtain rfl := Option.some.inj hcur
      exact hj.le
    · obtain rfl := Option.some.inj ht
      exact absurd rfl hk
    · obtain rfl := Option.some.inj hcur
      exact (hlt ht).le
    · rw [← cancel_current d kind] at hcur
      exact hc.latest i j t ht hcur
  · rw [startTimer_tasks h] at ht
    rw [startTimer_delay]
    split_ifs at ht
    · obtain rfl := Option.some.inj ht
      exact h
    · rw [← cancel_delay d kind]
      exact hc.timed i t ht

end Steps

def PromptUnlessOvertaken (d : Actor) : Prop := d.overtaken = false → d.Prompt

lemma unbroken_prompt : Unbroken PromptUnlessOvertaken where
  link d w el c hd hov := (settles_link d w el c).prompt (hd hov)
  elapse d i hd hov := (hd ((elapse_overtaken d i).symm.trans hov)).elapse i
  cancel d kind hd hov := (settles_cancel d kind).prompt (hd ((cancel_overtaken d kind).symm.trans hov))
  startTimer d kind hd hov := by
    by_cases h : 0 < d.delay kind
    · rw [startTimer_overtaken d kind h, Bool.or_eq_false_iff] at hov
      exact (hd hov.1).startTimer kind hov.2
    · rw [startTimer, if_neg h] at hov ⊢
      exact hd hov

structure OnlyAdds (d d' : Actor) : Prop where
  delay (kind : TimerKind) : d'.delay kind = d.delay kind
  tasks (i : ℕ) (t : TimerTask) : d.tasks[i]? = some t → ∃ t', d'.tasks[i]? = some t' ∧ t'.kind = t.kind

section Growth

variable {d d' d'' : Actor} {f : ℕ → TimerTask → TimerTask}

lemma OnlyAdds.trans (h : OnlyAdds d d') (h' : OnlyAdds d' d'') : OnlyAdds d d'' where
  delay kind := (h'.delay kind).trans (h.delay kind)
  tasks i t ht := by
    obtain ⟨t', ht', hk⟩ := h.tasks i t ht
    obtain ⟨t'', ht'', hk'⟩ := h'.tasks i t' ht'
    exact ⟨t'', ht'', hk'.trans hk⟩

lemma Settles.adds (h : Settles f d d') : OnlyAdds d d' where
  delay := h.delay
  tasks i t ht := ⟨f i t, by rw [h.tasks, ht]; rfl, h.kind i t⟩

lemma elapse_adds (d : Actor) (i : ℕ) : OnlyAdds d (d.elapse i) where
  delay kind := elapse_delay d kind i
  tasks j t ht := by
    rw [elapse_tasks, ht]
    split_ifs
    · exact ⟨wake t, rfl, wake_kind t⟩
    · exact ⟨t, rfl, rfl⟩

lemma startTimer_adds (d : Actor) (kind : TimerKind) : OnlyAdds d (d.startTimer kind) where
  delay := startTimer_delay d kind
  tasks i t ht := by
    by_cases h : 0 < d.delay kind
    · obtain ⟨t', ht', hk⟩ := (settles_cancel d kind).adds.tasks i t ht
      have hlt := (List.getElem?_eq_some_iff.mp ht).1
      exact ⟨t', by rw [startTimer_tasks h, if_neg hlt.ne, ht'], hk⟩
    · exact ⟨t, by rwa [startTimer, if_neg h], rfl⟩

lemma unbroken_adds (d : Actor) : Unbroken (OnlyAdds d) where
  link d' w el c h := h.trans (settles_link d' w el c).adds
  elapse d' i h := h.trans (elapse_adds d' i)
  cancel d' kind h := h.trans (settles_cancel d' kind).adds
  startTimer d' kind h := h.trans (startTimer_adds d' kind)

def JustUsed (d : Actor) : Prop :=
  0 < d.delay .disconnectWhenIdle →
    ∃ i t, d.tasks[i]? = some t ∧ t.kind = .disconnectWhenIdle ∧ d.tasks.length = i + 1

lemma operation_used {α : Type} (body : M (Except ModbusError α)) :
    Triple (fun _ => True) (operation body) (fun _ d => d.connected = true → d.JustUsed)
      (fun _ => True) := by
  have hneeded : Triple (fun _ => True) connectWhenNeeded
      (fun r d => (∃ e, r = .error e) → d.connected = false) (fun _ => True) := by
    refine .bind (.get (Q := fun c d => c = d) fun _ _ => rfl) fun c => ?_
    refine .ite (fun hc => .pure ?_) fun hc => ?_
    · rintro _ _ ⟨e, ⟨⟩⟩
    have hkept : Triple (c = ·) (calling modbusConnect) (fun _ d => d.connected = false)
        (fun _ => True) := by
      refine Triple.pre (calling_keeps (T := fun d => d.connected = false) _ (fun _ _ _ h => h)
        fun d i h => (elapse_link d i).connected.trans h) ?_
      rintro _ rfl
      simpa using hc
    refine .bind hkept fun rc => .ite (fun _ => ?_) fun _ => ?_
    · exact .bind (.get (Q := fun _ d => d.connected = false) fun _ h => h) fun _ => .pure fun d h _ => h
    · refine .bind (.modify (Q := fun _ _ => True) fun _ _ => trivial) fun _ => ?_
      refine .bind (.modify (Q := fun _ _ => True) fun _ _ => trivial) fun _ => ?_
      refine .bind (.modify (Q := fun _ _ => True) fun _ _ => trivial) fun _ => .pure ?_
      rintro _ _ ⟨e, ⟨⟩⟩
  refine .bind hneeded fun r => ?_
  cases r with
  | error e =>
    refine .pure fun d hd hc => ?_
    rw [hd ⟨e, rfl⟩] at hc
    contradiction
  | ok _ =>
    refine .bind (Q := fun _ _ => True) (fun d _ => ?_) fun result => ?_
    · cases calling body d <;> trivial
    refine .bind (Q := fun _ => JustUsed) (.modify fun d _ hdelay => ?_) fun _ => .pure fun d hd _ => hd
    rw [startTimer_delay] at hdelay
    have hnew := startTimer_tasks hdelay d.tasks.length
    rw [if_pos rfl] at hnew
    have hnone : (d.startTimer .disconnectWhenIdle).tasks[d.tasks.length + 1]? = none := by
      rw [startTimer_tasks hdelay, if_neg (by omega), List.getElem?_eq_none]
      rw [cancel_length]
      omega
    have hlt := (List.getElem?_eq_some_iff.mp hnew).1
    have hle := List.getElem?_eq_none_iff.mp hnone
    exact ⟨_, _, hnew, rfl, by omega⟩

end Growth

def Newest (d : Actor) (i : ℕ) : Prop :=
  ∃ t, d.tasks[i]? = some t ∧ d.current t.kind = some i ∧
    ∀ j t', d.tasks[j]? = some t' → t'.kind = t.kind → j ≤ i

end Actor

namespace Process

open Actor

def AllSteps (C : Process → DeviceEvent → Prop) : Process → List DeviceEvent → Prop
  | _, [] => True
  | p, e :: events => C p e ∧ AllSteps C (p.step e) events

instance {C : Process → DeviceEvent → Prop} [∀ p e, Decidable (C p e)] :
    (p : Process) → (events : List DeviceEvent) → Decidable (AllSteps C p events)
  | _, [] => inferInstanceAs (Decidable True)
  | p, e :: events =>
    have : Decidable (AllSteps C (p.step e) events) := instDecidableAllSteps _ events
    inferInstanceAs (Decidable (_ ∧ _))

def resumes (p : Process) : DeviceEvent → Option ℕ
  | .work k _ =>
    if p.stalled then none
    else match p.actor.jobs[k]? with
      | some (.resume i) => some i
      | _ => none
  | _ => none

/-- No timer is started anew while its task, after its sleep, waits for the actor. -/
def Calm (p : Process) (e : DeviceEvent) : Prop := (p.step e).actor.overtaken = false

instance (p : Process) (e : DeviceEvent) : Decidable (p.Calm e) := inferInstanceAs (Decidable (_ = _))

def Timely (p : Process) (e : DeviceEvent) : Prop := ∀ i ∈ p.resumes e, p.actor.Newest i

/-- A method other than `connect()` and `disconnect()` comes to its end, and had a connection. -/
def Finishes (p : Process) (e : DeviceEvent) : Prop :=
  (∃ c, p.takes e = some c ∧ c ≠ .connect ∧ c ≠ .disconnect) ∧ p.stalled = false ∧
    (p.step e).stalled = false ∧ (p.step e).actor.connected = true

/-- No idle disconnect follows an operation that finished after its timer was started: the timer is the
one that the operation started at its end, or a later one. -/
def NeverAfterUse (p : Process) (events : List DeviceEvent) : Prop :=
  ∀ before e between e' after, events = before ++ e :: (between ++ e' :: after) →
    (p.run before).Finishes e → ∀ i ∈ (p.run (before ++ e :: between)).resumes e',
      ∀ t ∈ (p.run (before ++ e :: between)).actor.tasks[i]?, t.kind = .disconnectWhenIdle →
        ((p.run before).step e).actor.tasks.length ≤ i + 1

variable {p : Process}

lemma resumes_some {e : DeviceEvent} {i : ℕ} (h : p.resumes e = some i) :
    p.stalled = false ∧ ∃ k answers, e = .work k answers ∧ p.actor.jobs[k]? = some (.resume i) := by
  cases e with
  | submit c => exact absurd h nofun
  | elapse j => exact absurd h nofun
  | work k answers =>
    unfold resumes at h
    dsimp only at h
    split_ifs at h with hs
    refine ⟨by simpa using hs, k, answers, rfl, ?_⟩
    cases hj : p.actor.jobs[k]? with
    | none => simp [hj] at h
    | some job =>
      cases job with
      | call c => simp [hj] at h
      | resume j => simpa [hj] using h

lemma timely_of_prompt {e : DeviceEvent} (hp : p.stalled = false → p.actor.Prompt) : p.Timely e := by
  intro i hi
  obtain ⟨hs, k, answers, rfl, hj⟩ := resumes_some hi
  have hprompt := hp hs
  obtain ⟨t, ht, hw⟩ := hprompt.queued i (List.mem_of_getElem? hj)
  have hcur := hprompt.recent i t ht (by simp [hw])
  exact ⟨t, ht, hcur, fun j t' ht' hk => hprompt.latest i j t' ht' (hk ▸ hcur)⟩

lemma settles_prepare (d : Actor) (k : ℕ) (answers : JobAnswers) :
    Settles (fun _ t => t) d (d.prepare k answers) where
  tasks i := Option.map_id'.symm
  jobs := List.eraseIdx_sublist _ _
  current kind := by cases kind <;> rfl
  delay kind := by cases kind <;> rfl
  overtaken := rfl
  kind _ _ := rfl
  ends _ _ h := h
  stays _ _ _ h := h

lemma settles_finish {d : Actor} (hd : d.Prompt) {k i : ℕ} (hj : d.jobs[k]? = some (.resume i))
    (answers : JobAnswers) :
    Settles (fun j t => if i = j then { t with progress := .ended } else t) d
      ((d.prepare k answers).finish i) where
  tasks j := by
    rw [finish_tasks]
    split_ifs
    · rfl
    · exact Option.map_id'.symm
  jobs := List.eraseIdx_sublist _ _
  current kind := by cases kind <;> rfl
  delay kind := by cases kind <;> rfl
  overtaken := rfl
  kind j t := by split_ifs <;> rfl
  ends j t h := by split_ifs <;> simp [h]
  stays j t hmem h := by
    have hne : i ≠ j := by
      rintro rfl
      obtain ⟨k', hk', hj'⟩ := List.mem_eraseIdx_iff_getElem?.mp hmem
      obtain ⟨hlt, hget⟩ := List.getElem?_eq_some_iff.mp hj
      obtain ⟨hlt', hget'⟩ := List.getElem?_eq_some_iff.mp hj'
      have honce := List.pairwise_iff_getElem.mp hd.once
      rcases lt_or_gt_of_ne hk' with hlt₀ | hlt₀
      · exact honce k' k hlt' hlt hlt₀ i hget' hget
      · exact honce k k' hlt hlt' hlt₀ i hget hget'
    rwa [if_neg hne]

lemma step_prompt (e : DeviceEvent) (hp : p.stalled = false → PromptUnlessOvertaken p.actor) :
    (p.step e).stalled = false → PromptUnlessOvertaken (p.step e).actor := by
  unfold step
  split_ifs with hs
  · exact fun h => absurd hs (by simp [h])
  have hstand := hp (by simpa using hs)
  cases e with
  | submit c =>
    intro _ hov
    have hd := hstand hov
    refine ⟨fun i hi => ?_, ?_, hd.recent, hd.latest, hd.timed⟩
    · simp only [List.mem_append, List.mem_singleton, reduceCtorEq, or_false] at hi
      exact hd.queued i hi
    · refine List.pairwise_append.mpr ⟨hd.once, List.pairwise_singleton _ _, ?_⟩
      rintro a - b hb i -
      rw [List.mem_singleton.mp hb]
      exact nofun
  | elapse task => exact fun _ => unbroken_prompt.elapse p.actor task hstand
  | work k answers =>
    dsimp only
    cases hjob : p.actor.jobs[k]? with
    | none => exact hp
    | some job =>
      have hrule : Triple (· = p.actor.prepare k answers) job.run (fun _ => PromptUnlessOvertaken)
          (fun _ => True) := by
        cases job with
        | call c =>
          apply Triple.pre (unbroken_prompt.call c)
          rintro _ rfl hov
          exact (settles_prepare p.actor k answers).prompt (hstand hov)
        | resume i =>
          refine .bind (.modify (Q := fun _ => PromptUnlessOvertaken) ?_) fun _ => unbroken_prompt.disconnect
          rintro _ rfl hov
          exact (settles_finish (hstand hov) hjob answers).prompt (hstand hov)
      have hdone := hrule _ rfl
      dsimp only
      cases hrun : job.run (p.actor.prepare k answers) with
      | blocked d => exact nofun
      | done _ d =>
        rw [hrun] at hdone
        exact fun _ => hdone

lemma AllSteps.at {C : Process → DeviceEvent → Prop} {before after : List DeviceEvent} {e : DeviceEvent}
    (h : AllSteps C p (before ++ e :: after)) : C (p.run before) e := by
  induction before generalizing p with
  | nil => exact h.1
  | cons e' before ih => exact ih h.2

lemma run_prompt {before after : List DeviceEvent}
    (hp : p.stalled = false → PromptUnlessOvertaken p.actor) (hov : p.actor.overtaken = false)
    (hc : AllSteps Calm p (before ++ after)) : (p.run before).stalled = false → (p.run before).actor.Prompt := by
  induction before generalizing p with
  | nil => exact fun hs => hp hs hov
  | cons e before ih => exact ih (step_prompt e hp) hc.1 hc.2

lemma allSteps_timely {events : List DeviceEvent}
    (hp : p.stalled = false → PromptUnlessOvertaken p.actor) (hov : p.actor.overtaken = false)
    (hc : AllSteps Calm p events) : AllSteps Timely p events := by
  induction events generalizing p with
  | nil => trivial
  | cons e events ih =>
    exact ⟨timely_of_prompt fun hs => hp hs hov, ih (step_prompt e hp) hc.1 hc.2⟩

lemma step_adds (e : DeviceEvent) (h : (p.step e).stalled = false) :
    OnlyAdds p.actor (p.step e).actor := by
  unfold step at h ⊢
  have hrefl : OnlyAdds p.actor p.actor := ⟨fun _ => rfl, fun i t ht => ⟨t, ht, rfl⟩⟩
  split_ifs at h ⊢ with hs
  · exact hrefl
  cases e with
  | submit c => exact ⟨fun kind => by cases kind <;> rfl, hrefl.tasks⟩
  | elapse task => exact elapse_adds p.actor task
  | work k answers =>
    dsimp only at h ⊢
    cases hjob : p.actor.jobs[k]? with
    | none => exact hrefl
    | some job =>
      have hkept := unbroken_adds p.actor
      have hprepare := (settles_prepare p.actor k answers).adds
      have hrule : Triple (· = p.actor.prepare k answers) job.run (fun _ => OnlyAdds p.actor)
          (fun _ => True) := by
        cases job with
        | call c =>
          apply Triple.pre (hkept.call c)
          rintro _ rfl
          exact hprepare
        | resume i =>
          refine .bind (.modify (Q := fun _ => OnlyAdds p.actor) ?_) fun _ => hkept.disconnect
          rintro _ rfl
          refine hprepare.trans ⟨fun kind => by cases kind <;> rfl, fun j t ht => ?_⟩
          rw [finish_tasks, ht]
          split_ifs <;> exact ⟨_, rfl, rfl⟩
      have hdone := hrule _ rfl
      rw [hjob] at h
      dsimp only at h ⊢
      cases hrun : job.run (p.actor.prepare k answers) with
      | blocked d =>
        rw [hrun] at h
        exact absurd h nofun
      | done _ d =>
        rw [hrun] at hdone
        exact hdone

lemma run_stalled (events : List DeviceEvent) (hs : p.stalled = true) : p.run events = p := by
  induction events with
  | nil => rfl
  | cons e events ih =>
    have he : p.step e = p := if_pos hs
    rw [run, List.foldl_cons, he]
    exact ih

lemma run_adds (events : List DeviceEvent) (h : (p.run events).stalled = false) :
    OnlyAdds p.actor (p.run events).actor := by
  induction events generalizing p with
  | nil => exact ⟨fun _ => rfl, fun i t ht => ⟨t, ht, rfl⟩⟩
  | cons e events ih =>
    have hs : (p.step e).stalled = false := by
      by_contra hs
      rw [Bool.not_eq_false] at hs
      have he : p.run (e :: events) = p.step e := run_stalled events hs
      rw [he, hs] at h
      contradiction
    exact (step_adds e hs).trans (ih h)

lemma Finishes.justUsed {e : DeviceEvent} (h : p.Finishes e) : (p.step e).actor.JustUsed := by
  obtain ⟨⟨c, htakes, hconnect, hdisconnect⟩, hs, hdone, hconn⟩ := h
  cases e with
  | submit c => cases htakes
  | elapse i => cases htakes
  | work k answers =>
    unfold takes at htakes
    dsimp only at htakes
    unfold step at hdone hconn ⊢
    rw [if_neg (by simp [hs])] at hdone hconn ⊢
    dsimp only at hdone hconn ⊢
    cases hjob : p.actor.jobs[k]? with
    | none => simp [hjob] at htakes
    | some job =>
      cases job with
      | resume i => simp [hjob] at htakes
      | call c' =>
        rw [hjob] at htakes hdone hconn
        obtain rfl := Option.some.inj htakes
        obtain ⟨α, body, hrun, -⟩ := (c'.cases.resolve_left hconnect).resolve_left hdisconnect
        have hrule : Triple (fun _ => True) (Job.call c').run
            (fun _ d => d.connected = true → d.JustUsed) (fun _ => True) := by
          rw [Job.run, hrun]
          exact .bind (operation_used body) fun _ => .pure fun d hd => hd
        have hend := hrule (p.actor.prepare k answers) trivial
        dsimp only at hdone hconn ⊢
        cases hm : (Job.call c').run (p.actor.prepare k answers) with
        | blocked d =>
          rw [hm] at hdone
          cases hdone
        | done _ d =>
          rw [hm] at hend hconn
          exact hend hconn

lemma neverAfterUse {events : List DeviceEvent}
    (hp : p.stalled = false → PromptUnlessOvertaken p.actor) (hov : p.actor.overtaken = false)
    (hc : AllSteps Calm p events) : NeverAfterUse p events := by
  rintro before e between e' after rfl hfin i hi t ht hk
  have hrun : p.run (before ++ e :: between) = ((p.run before).step e).run between := by
    simp [run, List.foldl_append]
  have hsplit : before ++ e :: (between ++ e' :: after) = (before ++ e :: between) ++ e' :: after := by
    simp
  rw [hsplit] at hc
  have hs := (resumes_some hi).1
  have hprompt := run_prompt hp hov hc hs
  obtain ⟨t', ht', -, hnewest⟩ := (allSteps_timely hp hov hc).at i hi
  obtain rfl := Option.some.inj (ht.symm.trans ht')
  have hgrow : OnlyAdds ((p.run before).step e).actor (p.run (before ++ e :: between)).actor := by
    rw [hrun] at hs ⊢
    exact run_adds between hs
  have hdelay := hprompt.timed i t ht
  rw [hk, hgrow.delay] at hdelay
  obtain ⟨j, t₁, ht₁, hk₁, hlen⟩ := hfin.justUsed hdelay
  obtain ⟨t₂, ht₂, hk₂⟩ := hgrow.tasks j t₁ ht₁
  have hle := hnewest j t₂ ht₂ (hk₂.trans (hk₁.trans hk.symm))
  omega

/-- In a calm run a task that disconnects is the one stored last for its timer, and no idle disconnect
follows an operation that finished after its timer was started. -/
theorem disconnects_timely {auto idle : ℚ} {d : Actor} (h : BuiltWith auto idle d)
    {events : List DeviceEvent} (hc : AllSteps Calm ⟨d, false⟩ events) :
    AllSteps Timely ⟨d, false⟩ events ∧ NeverAfterUse ⟨d, false⟩ events := by
  have hnew := h.new
  have hprompt : PromptUnlessOvertaken d := by
    intro _
    refine ⟨fun i hi => ?_, ?_, fun i t ht => ?_, fun i j t ht => ?_, fun i t ht => ?_⟩
    · rw [hnew.jobs] at hi
      exact absurd hi List.not_mem_nil
    · rw [hnew.jobs]
      exact List.Pairwise.nil
    all_goals
      rw [hnew.tasks] at ht
      exact absurd ht nofun
  exact ⟨allSteps_timely (p := ⟨d, false⟩) (fun _ => hprompt) hnew.overtaken hc,
    neverAfterUse (p := ⟨d, false⟩) (fun _ => hprompt) hnew.overtaken hc⟩

section Runs

def idlePeer : List DeviceEvent :=
  [.submit (.readInputCoilsFrom 0 1 fun _ => 0),
    .work 0 { script := List.replicate 5 {} ++ [{ select := .ok false }, {}, {}] },
    .elapse 2, .work 0 { script := List.replicate 2 {} }]

theorem disconnects_timely_example :
    AllSteps Timely ⟨networkDevice, false⟩ idlePeer ∧ NeverAfterUse ⟨networkDevice, false⟩ idlePeer := by
  have hbuilt : BuiltWith 3600 10 networkDevice := .inl ⟨["192.168.0.1"], 1, rfl⟩
  exact disconnects_timely hbuilt (by decide +kernel)

def slowPeer : List DeviceEvent :=
  [.submit .connect, .work 0 { script := List.replicate 4 {} },
    .submit (.readInputCoilsFrom 0 1 fun _ => 0),
    .work 0 { script := [{}, { select := .ok false }, {}, {}], elapsing := [[1]] }]

/-- The read has just started the timer anew, and the task that it replaced disconnects. -/
theorem disconnects_after_read : ¬AllSteps Timely ⟨networkDevice, false⟩
    (slowPeer ++ [.work 0 { script := List.replicate 2 {} }]) := by
  have hresumes : (run ⟨networkDevice, false⟩ slowPeer).resumes
      (.work 0 { script := List.replicate 2 {} }) = some 1 := by decide +kernel
  have hkind : ((run ⟨networkDevice, false⟩ slowPeer).actor.tasks[1]?.map TimerTask.kind) =
      some .disconnectWhenIdle := by decide +kernel
  have hcurrent : (run ⟨networkDevice, false⟩ slowPeer).actor.current .disconnectWhenIdle = some 2 := by
    decide +kernel
  intro h
  obtain ⟨t, ht, hcur, -⟩ := h.at 1 hresumes
  rw [ht] at hkind
  rw [Option.some.inj hkind, hcurrent] at hcur
  contradiction

end Runs

end Process

end LibModbus
