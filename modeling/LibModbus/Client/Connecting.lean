import LibModbus.Client.Sessions

/-! What it means that `modbus_connect` returns 0. -/

namespace LibModbus

open Library Library.Prog

section Answers

/-- The calls and answers with which `_connect` gets a connection for a descriptor. -/
inductive Reached (s : ℤ) : List Call → List Response → Prop
  | atOnce {r : Response} (connected : r.connect = .ok ()) : Reached s [.connect s] [r]
  | later {r r' r'' : Response} (started : r.connect = .error .einprogress)
      (ready : r'.writable = .ok true) (known : r''.option = none) (sound : r''.soError = false) :
      Reached s [.connect s, .select s] [r, r', r'']

inductive Declined : List Response → Prop
  | atOnce {r : Response} {e : Errno} (failed : r.connect = .error e) (he : e ≠ .einprogress) :
      Declined [r]
  | notReady {r r' : Response} (started : r.connect = .error .einprogress)
      (waited : r'.writable ≠ .ok true) : Declined [r, r']
  | later {r r' r'' : Response} (started : r.connect = .error .einprogress)
      (ready : r'.writable = .ok true) (bad : ¬(r''.option = none ∧ r''.soError = false)) :
      Declined [r, r', r'']

def Completes (b : Backend) (s : ℤ) (calls : List Call) (answers : List Response) : Prop :=
  match b with
  | .rtu => calls = [.tcgetattr s, .tcsetattr s] ∧ ∃ r r', answers = [r, r'] ∧ r'.option = none
  | .tcp | .tcpPi => Reached s calls answers

/-- Meanwhile a descriptor was opened, its options were set, and then these calls were made on it. -/
def Made (b : Backend) (s : ℤ) (w v : World) : Prop :=
  ∃ before options calls used answers,
    v.trace = w.trace ++ (before ++ (.opened s :: options ++ calls)) ∧
    (∀ c ∈ options, c = .setsockopt s) ∧ w.script = used ++ (answers ++ v.script) ∧
    Completes b s calls answers

def Established (w v : World) : Prop := Made w.ctx.backend v.ctx.s w v

inductive OptionsTaken : List Response → Prop
  | failed {r : Response} (h : r.option ≠ none) : OptionsTaken [r]
  | both {r r' : Response} (h : r.option = none) : OptionsTaken [r, r']

/-- No address of the list can be reached: for each one, no socket is to be had, or `connect()` fails
and the socket is closed again. The list tells which of them are of family `AF_INET`. -/
inductive Unreachable : List Bool → List Response → Prop
  | none {rest : List Response} : Unreachable [] rest
  | noSocket {inet : Bool} {list : List Bool} {r : Response} {e : Errno} {rest : List Response}
      (failed : r.descriptor = .error e) (others : Unreachable list rest) :
      Unreachable (inet :: list) (r :: rest)
  | refused {inet : Bool} {list : List Bool} {r closed : Response} {fd : ℕ}
      {options answers rest : List Response} (opened : r.descriptor = .ok fd)
      (set : if inet then OptionsTaken options else options = [])
      (refused : Declined answers) (others : Unreachable list rest) :
      Unreachable (inet :: list) (r :: (options ++ (answers ++ closed :: rest)))

/-- A context of `_modbus_tcp_pi_connect` that still has a descriptor, when no address of the list that
`getaddrinfo()` finds can be reached. -/
def Stale (w : World) : Prop :=
  w.ctx.backend = .tcpPi ∧ 0 ≤ w.ctx.s ∧
    ∃ r rest list, w.script = r :: rest ∧ r.addresses = some list ∧ Unreachable list rest

/-- `modbus_connect` returns 0 when a connection was made meanwhile, and -1 when not. -/
def Truthful (w : World) : Prop :=
  ∀ rc v, modbusConnect w = .done rc v → rc = 0 ∧ Established w v ∨ rc = -1 ∧ ¬Established w v

end Answers

section Calls

variable {calls calls' : List Call} {answers answers' : List Response} {u v w : World} {s : ℤ}

lemma osOption_asked (c : Call) : Triple (w = ·) (osOption c)
    (fun rc v => ∃ r, Asked [c] [r] w v ∧
      (rc = 0 ∧ r.option = none ∨ rc = -1 ∧ r.option ≠ none)) (fun _ => True) := by
  rintro _ rfl
  rw [osOption, record, bind_modify_apply, bind_apply]
  unfold ask
  cases hs : w.script with
  | nil => trivial
  | cons r rest =>
    dsimp only
    cases hr : r.option with
    | none => exact ⟨r, ⟨rfl, hs, rfl⟩, .inl ⟨rfl, hr⟩⟩
    | some e => exact ⟨r, ⟨rfl, hs, rfl⟩, .inr ⟨rfl, by simp [hr]⟩⟩

lemma tcpSetIpv4Options_asked (s : ℤ) : Triple (w = ·) (tcpSetIpv4Options s)
    (fun _ v => ∃ options answers, Asked options answers w v ∧ (∀ c ∈ options, c = .setsockopt s) ∧
      OptionsTaken answers) (fun _ => True) := by
  refine .bind (osOption_asked _) fun rc => .from_state ?_
  rintro u ⟨r, hu, hrc⟩
  refine .ite (fun hfail => .pure ?_) fun hok => .bind (osOption_asked _) fun rc' => ?_
  · rintro _ rfl
    have hr : r.option ≠ none := by
      rcases hrc with ⟨h, -⟩ | ⟨-, h⟩
      · exact absurd (h.symm.trans hfail) (by decide)
      · exact h
    exact ⟨_, _, hu, by simp, .failed hr⟩
  · have hr : r.option = none := by
      rcases hrc with ⟨-, h⟩ | ⟨h, -⟩
      · exact h
      · exact absurd h hok
    have hend : ∀ v, (∃ r', Asked [.setsockopt s] [r'] u v ∧
        (rc' = 0 ∧ r'.option = none ∨ rc' = -1 ∧ r'.option ≠ none)) →
        ∃ options answers, Asked options answers w v ∧ (∀ c ∈ options, c = .setsockopt s) ∧
          OptionsTaken answers := by
      rintro v ⟨r', hv, -⟩
      exact ⟨_, _, hu.trans hv, by simp, .both hr⟩
    exact .ite (fun _ => .pure hend) fun _ => .pure hend

lemma osSelectWritable_asked (s : ℤ) (tv : Option Timeval) : Triple (w = ·) (osSelectWritable s tv)
    (fun rc v => ∃ r, Asked [.select s] [r] w v ∧
      (rc.1 = 1 ∧ r.writable = .ok true ∨ rc.1 ≤ 0 ∧ r.writable ≠ .ok true)) (fun _ => True) := by
  rintro _ rfl
  rw [osSelectWritable_variable, record, bind_modify_apply, bind_apply]
  unfold ask
  cases hs : w.script with
  | nil => trivial
  | cons r rest =>
    dsimp only
    cases hr : r.writable with
    | ok ready =>
      cases ready with
      | true => exact ⟨r, ⟨rfl, hs, rfl⟩, .inl ⟨rfl, hr⟩⟩
      | false => exact ⟨r, ⟨rfl, hs, rfl⟩, .inr ⟨le_rfl, by simp [hr]⟩⟩
    | error e => exact ⟨r, ⟨rfl, hs, rfl⟩, .inr ⟨by simp, by simp [hr]⟩⟩

lemma ask_asked : Triple (w = ·) ask (fun r v => Asked [] [r] w v) (fun _ => True) := by
  rintro _ rfl
  rw [ask]
  cases hs : w.script with
  | nil => trivial
  | cons r rest => exact ⟨(List.append_nil _).symm, hs, rfl⟩

lemma Asked.errno (h : Asked calls answers u w) (e : Errno) :
    Asked calls answers u { w with errno := e } :=
  ⟨h.trace, h.script, h.ctx⟩

lemma connectSocket_asked (s : ℤ) :
    Triple (w = ·) (connectSocket s (some TimeoutField.responseTimeout))
      (fun rc v => ∃ calls answers, Asked calls answers w v ∧
        (rc = 0 ∧ Reached s calls answers ∨ rc = -1 ∧ Declined answers)) (fun _ => True) := by
  rw [connectSocket_responseTimeout]
  refine .bind (Q := fun _ => (w = ·)) (fun _ h => h) fun ctx => ?_
  rw [connectSocket_variable]
  refine .bind (Q := fun _ => Asked [.connect s] [] w) (by rintro _ rfl; exact ⟨rfl, rfl, rfl⟩) fun _ => ?_
  refine .from_state fun u₀ hu₀ => .bind ask_asked fun r => .from_state fun u hu => ?_
  have hasked := hu₀.trans hu
  cases hr : r.connect with
  | ok _ => exact .pure fun v hv => ⟨_, _, hv ▸ hasked, .inl ⟨rfl, .atOnce hr⟩⟩
  | error e =>
    refine .bind (Q := fun _ => Asked [.connect s] [r] w) (by rintro _ rfl; exact hasked.errno e)
      fun _ => .from_state fun u₁ hu₁ => .ite ?_ fun he => ?_
    · rintro rfl
      refine .bind (osSelectWritable_asked s _) ?_
      rintro ⟨rc, tv'⟩
      refine .from_state fun u₂ ⟨r', hu₂, hrc⟩ => ?_
      dsimp only at hrc ⊢
      have hselected := hu₁.trans hu₂
      refine .ite (fun hle => .pure ?_) fun hpos => .bind ask_asked fun r'' => .from_state fun u₃ hu₃ => ?_
      · rintro _ rfl
        have hwait : r'.writable ≠ .ok true := by
          rcases hrc with ⟨h, -⟩ | ⟨-, h⟩
          · omega
          · exact h
        exact ⟨_, _, hselected, .inr ⟨rfl, .notReady hr hwait⟩⟩
      · have hready : r'.writable = .ok true := by
          rcases hrc with ⟨-, h⟩ | ⟨h, -⟩
          · exact h
          · exact absurd h hpos
        have hknown := hselected.trans hu₃
        refine .ite (fun hgood => .pure ?_) fun hbad => .bind (Q := fun _ => Asked _ _ w)
          (by rintro _ rfl; exact hknown.errno _) fun _ => .pure fun v hv => ?_
        · rintro _ rfl
          exact ⟨_, _, hknown, .inl ⟨rfl, .later hr hready hgood.1 hgood.2⟩⟩
        · exact ⟨_, _, hv, .inr ⟨rfl, .later hr hready hbad⟩⟩
    · refine .pure ?_
      rintro _ rfl
      exact ⟨_, _, hu₁, .inr ⟨rfl, .atOnce hr he⟩⟩

def Abandoned (w v : World) : Prop :=
  ∃ calls, v.trace = w.trace ++ calls ∧ ∀ c ∈ calls.getLast?, ∃ fd, c = .close fd

lemma Abandoned.trans (h : Abandoned u v) (h' : Abandoned v w) : Abandoned u w := by
  obtain ⟨cs, hcs, hc⟩ := h
  obtain ⟨ds, hds, hd⟩ := h'
  refine ⟨cs ++ ds, by rw [hds, hcs, List.append_assoc], fun c hlast => ?_⟩
  rw [List.getLast?_append] at hlast
  cases hlastd : ds.getLast? with
  | none =>
    rw [hlastd] at hlast
    exact hc c hlast
  | some d =>
    rw [hlastd] at hlast hd
    exact hd c hlast

lemma Asked.abandoned (h : Asked [] answers w v) : Abandoned w v :=
  ⟨[], h.trace, by rintro _ ⟨⟩⟩

lemma Asked.grows (h : Asked calls answers w v) : Grows w v := by
  rw [Grows, h.trace]
  exact List.prefix_append _ _

lemma Asked.closed {r : Response} (h : Asked [.close s] [r] u v) (hg : Grows w u) : Abandoned w v := by
  obtain ⟨cs, hcs⟩ := hg
  refine ⟨cs ++ [.close s], by rw [h.trace, ← hcs, List.append_assoc], fun c hc => ⟨s, ?_⟩⟩
  rw [List.getLast?_append] at hc
  exact (Option.mem_some_iff.mp hc).symm

lemma Abandoned.not_made (h : Abandoned w v) {b : Backend} : ¬Made b s w v := by
  rintro ⟨before, options, cs, used, as, htrace, -, -, hcomplete⟩
  obtain ⟨cs', hcs', hlast⟩ := h
  have hends : ∃ c, cs.getLast? = some c ∧ ∀ fd, c ≠ .close fd := by
    cases b with
    | rtu =>
      obtain ⟨rfl, -⟩ := hcomplete
      exact ⟨_, rfl, nofun⟩
    | tcp | tcpPi =>
      cases hcomplete with
      | atOnce | later => exact ⟨_, rfl, nofun⟩
  obtain ⟨c, hc, hne⟩ := hends
  rw [htrace] at hcs'
  rw [← List.append_cancel_left hcs', List.getLast?_append, List.getLast?_append, hc] at hlast
  obtain ⟨fd, rfl⟩ := hlast c rfl
  exact hne fd rfl

end Calls

section Connect

variable {w u v : World} {s : ℤ} {b : Backend}

def withSocket (s : ℤ) (w : World) : World := { w with ctx := { w.ctx with s } }

lemma setSocket_asked (s : ℤ) : Triple (w = ·) (setSocket s) (fun _ v => withSocket s w = v)
    (fun _ => True) := by
  rintro _ rfl
  rfl

lemma Asked.made {r : Response} {options calls : List Call} {taken answers : List Response}
    (hu : Asked [.opened s] [r] w u) {v₁ : World} (hoptions : Asked options taken (withSocket s u) v₁)
    (hset : ∀ c ∈ options, c = .setsockopt s) (hv : Asked calls answers v₁ v)
    (hc : Completes b s calls answers) : Made b s w v ∧ v.ctx.s = s := by
  have hscript : (withSocket s u).script = taken ++ (answers ++ v.script) := by
    rw [hoptions.script, hv.script]
  have htrace : v.trace = (withSocket s u).trace ++ (options ++ calls) := by
    rw [hv.trace, hoptions.trace, List.append_assoc]
  refine ⟨⟨[], options, calls, r :: taken, answers, ?_, hset, ?_, hc⟩, ?_⟩
  · rw [htrace, show (withSocket s u).trace = u.trace from rfl, hu.trace, List.append_assoc]
    rfl
  · rw [hu.script, ← show (withSocket s u).script = u.script from rfl, hscript]
    rfl
  · rw [hv.ctx, hoptions.ctx]
    rfl

def Ends (b : Backend) (w : World) (rc : ℤ) (v : World) : Prop :=
  rc = 0 ∧ Made b v.ctx.s w v ∨ rc = -1 ∧ Abandoned w v

lemma ends_opened {rest : ℤ → M ℤ} (h : ∀ u r s, Asked [.opened s] [r] w u → s ≠ -1 →
    Triple (withSocket s u = ·) (rest s) (Ends b w) (fun _ => True)) :
    Triple (w = ·)
      (osDescriptor >>= fun s => setSocket s >>= fun _ => if s = -1 then pure (-1) else rest s)
      (Ends b w) (fun _ => True) := by
  refine .bind osDescriptor_asked fun s => .from_state ?_
  rintro u ⟨r, ⟨fd, -, rfl, hu⟩ | ⟨e, -, rfl, hu⟩⟩
  · refine .bind (setSocket_asked _) fun _ => ?_
    rw [if_neg (by omega)]
    exact h u r fd hu (by omega)
  · refine .bind (setSocket_asked _) fun _ => ?_
    rw [if_pos rfl]
    exact .pure fun v hv => .inr ⟨rfl, hv ▸ hu.abandoned⟩

lemma giveUp_ends (hg : Grows w u) : Triple (u = ·) (osClose s >>= fun _ => (pure (-1) : M ℤ))
    (Ends b w) (fun _ => True) := by
  refine .bind (osIgnored_asked _) fun _ => .pure ?_
  rintro v ⟨r, hv⟩
  exact .inr ⟨rfl, hv.closed hg⟩

lemma tcpConnect_ends : Triple (w = ·) tcpConnect (Ends .tcp w) (fun _ => True) := by
  refine ends_opened fun u r s hu _ => .bind (tcpSetIpv4Options_asked s) fun rc => .from_state ?_
  rintro v₁ ⟨options, taken, hoptions, hset, -⟩
  have hgrows : Grows w v₁ := hu.grows.trans hoptions.grows
  refine .ite (fun _ => giveUp_ends hgrows) fun _ => ?_
  refine .bind (connectSocket_asked s) fun rc' => .from_state ?_
  rintro v ⟨calls, answers, hv, hrc⟩
  refine .ite (fun _ => giveUp_ends (hgrows.trans hv.grows)) fun hne => .pure ?_
  rintro _ rfl
  rcases hrc with ⟨-, hreached⟩ | ⟨h, -⟩
  · obtain ⟨hmade, hs⟩ := hu.made hoptions hset hv (b := .tcp) hreached
    exact .inl ⟨rfl, hs.symm ▸ hmade⟩
  · exact absurd h hne

lemma rtuConnect_ends : Triple (w = ·) rtuConnect (Ends .rtu w) (fun _ => True) := by
  refine ends_opened fun u r s hu _ => .bind (osIgnored_asked _) fun _ => .from_state ?_
  rintro v₁ ⟨r₁, hv₁⟩
  refine .bind (osOption_asked _) fun rc => .from_state ?_
  rintro v ⟨r', hv', hrc⟩
  have hv := hv₁.trans hv'
  have hgrows : Grows w v := hu.grows.trans hv.grows
  refine .ite (fun _ => ?_) fun hrc' => .pure ?_
  · refine .bind (osIgnored_asked _) fun _ => .from_state ?_
    rintro v' ⟨r'', hv'⟩
    refine .bind (setSocket_asked _) fun _ => .pure ?_
    rintro _ rfl
    exact .inr ⟨rfl, hv'.closed hgrows⟩
  · rintro _ rfl
    have hnone : r'.option = none := by
      rcases hrc with ⟨-, h⟩ | ⟨h, -⟩
      · exact h
      · exact absurd h (by omega)
    have hstart : Asked [] [] (withSocket s u) (withSocket s u) :=
      ⟨(List.append_nil _).symm, rfl, rfl⟩
    obtain ⟨hmade, hs⟩ := hu.made hstart (by simp) hv (b := .rtu) ⟨rfl, r₁, r', rfl, hnone⟩
    exact .inl ⟨rfl, hs.symm ▸ hmade⟩

lemma Made.earlier {calls : List Call} {answers : List Response} (h : Made b s u v)
    (hu : Asked calls answers w u) : Made b s w v := by
  obtain ⟨before, options, cs, used, as, htrace, hset, hscript, hc⟩ := h
  refine ⟨calls ++ before, options, cs, answers ++ used, as, ?_, hset, ?_, hc⟩
  · rw [htrace, hu.trace, List.append_assoc, List.append_assoc]
  · rw [hu.script, hscript, List.append_assoc]

def Searched (list : List Bool) (w v : World) : Prop :=
  0 ≤ v.ctx.s ∧ Made .tcpPi v.ctx.s w v ∨ Unreachable list w.script ∧ v.ctx = w.ctx ∧ Abandoned w v

/-- One address of the list, when the socket for it is open and its options are set. -/
lemma tcpPiConnectLoop_address {list : List Bool} {inet : Bool} {fd : ℕ} {r : Response} {u' : World}
    {options : List Call} {taken : List Response}
    (ih : ∀ {w}, Triple (w = ·) (tcpPiConnectLoop list) (fun _ => Searched list w) (fun _ => True))
    (hopened : r.descriptor = .ok fd) (hu : Asked [.opened fd] [r] w u) (hoptions : Asked options taken u u')
    (hset : ∀ c ∈ options, c = .setsockopt fd) (htaken : if inet then OptionsTaken taken else taken = []) :
    Triple (u' = ·) (do
      let rc ← connectSocket fd (some TimeoutField.responseTimeout)
      if rc = -1 then do
        osClose fd
        tcpPiConnectLoop list
      else setSocket fd) (fun _ => Searched (inet :: list) w) (fun _ => True) := by
  refine .bind (connectSocket_asked fd) fun rc => .from_state ?_
  rintro v ⟨calls, answers, hv, hrc⟩
  have hall := hu.trans (hoptions.trans hv)
  refine .ite (fun hrefused => ?_) fun hne => ?_
  · refine .bind (osIgnored_asked _) fun _ => .from_state ?_
    rintro v' ⟨closed, hv'⟩
    refine ih.post fun _ v'' hsearched => ?_
    have hclosed := hall.trans hv'
    rcases hsearched with ⟨hpos, hmade⟩ | ⟨hothers, hctx, hab⟩
    · exact .inl ⟨hpos, hmade.earlier hclosed⟩
    · have hanswers : Declined answers := by
        rcases hrc with ⟨h, -⟩ | ⟨-, h⟩
        · exact absurd (h.symm.trans hrefused) (by decide)
        · exact h
      refine .inr ⟨?_, hctx.trans hclosed.ctx, (hv'.closed hall.grows).trans hab⟩
      have hscript : w.script = r :: (taken ++ (answers ++ closed :: v'.script)) := by
        simpa using hclosed.script
      rw [hscript]
      exact .refused hopened htaken hanswers hothers
  · apply (setSocket_asked _).post
    rintro _ _ rfl
    have hreached : Reached fd calls answers := by
      rcases hrc with ⟨-, h⟩ | ⟨h, -⟩
      · exact h
      · exact absurd h hne
    refine .inl ⟨Int.natCast_nonneg fd, [], options, calls, r :: taken, answers, ?_, hset, ?_, hreached⟩
    · exact hall.trace
    · exact hall.script.trans (by simp [withSocket])

lemma tcpPiConnectLoop_ends (list : List Bool) :
    Triple (w = ·) (tcpPiConnectLoop list) (fun _ => Searched list w) (fun _ => True) := by
  induction list generalizing w with
  | nil =>
    refine .pure ?_
    rintro _ rfl
    exact .inr ⟨.none, rfl, [], (List.append_nil _).symm, by rintro _ ⟨⟩⟩
  | cons inet list ih =>
    refine .bind osDescriptor_asked fun s => .from_state ?_
    rintro u ⟨r, ⟨fd, hopened, rfl, hu⟩ | ⟨e, hfailed, rfl, hu⟩⟩
    · rw [if_neg (by omega)]
      cases inet with
      | true =>
        refine .bind (tcpSetIpv4Options_asked _) fun _ => .from_state ?_
        rintro u' ⟨options, taken, hoptions, hset, htaken⟩
        exact tcpPiConnectLoop_address ih hopened hu hoptions hset htaken
      | false => exact tcpPiConnectLoop_address ih hopened hu ⟨(List.append_nil _).symm, rfl, rfl⟩ (by simp) rfl
    · rw [if_pos (by decide)]
      apply ih.post
      rintro _ v (⟨hpos, hmade⟩ | ⟨hothers, hctx, hab⟩)
      · exact .inl ⟨hpos, hmade.earlier hu⟩
      · refine .inr ⟨?_, hctx.trans hu.ctx, hu.abandoned.trans hab⟩
        rw [hu.script]
        exact .noSocket hfailed hothers

end Connect

section Stale

variable {w : World} {s : ℤ} {answers rest : List Response}

lemma osClose_done {r : Response} (hs : w.script = r :: rest) :
    ∃ v, osClose s w = .done () v ∧ Asked [.close s] [r] w v := by
  rw [osClose, osIgnored, record, bind_modify_apply, bind_apply]
  simp only [ask, hs]
  cases r.trouble with
  | none => exact ⟨_, rfl, rfl, hs, rfl⟩
  | some e => exact ⟨_, rfl, rfl, hs, rfl⟩

lemma osOption_done (c : Call) {r : Response} (hs : w.script = r :: rest) :
    ∃ v, osOption c w = .done (if r.option = none then 0 else -1) v ∧ Asked [c] [r] w v ∧
      v.script = rest := by
  rw [osOption, record, bind_modify_apply, bind_apply]
  simp only [ask, hs]
  cases r.option with
  | none => exact ⟨_, rfl, ⟨rfl, hs, rfl⟩, rfl⟩
  | some e => exact ⟨_, rfl, ⟨rfl, hs, rfl⟩, rfl⟩

lemma tcpSetIpv4Options_done (h : OptionsTaken answers) (hs : w.script = answers ++ rest) :
    ∃ rc v calls, tcpSetIpv4Options s w = .done rc v ∧ Asked calls answers w v ∧ v.script = rest := by
  cases h with
  | failed hr =>
    obtain ⟨v, hv, hasked, hrest⟩ := osOption_done (.setsockopt s) hs
    refine ⟨-1, v, _, ?_, hasked, hrest⟩
    rw [tcpSetIpv4Options, bind_done hv, if_neg hr, if_pos rfl]
    rfl
  | both hr =>
    obtain ⟨u, hu, hasked, hrest⟩ := osOption_done (.setsockopt s) hs
    obtain ⟨v, hv, hasked', hrest'⟩ := osOption_done (.setsockopt s) hrest
    rw [if_pos hr] at hu
    have hend : ∃ rc, tcpSetIpv4Options s w = .done rc v := by
      rw [tcpSetIpv4Options, bind_done hu, if_neg (by decide), bind_done hv]
      split_ifs <;> exact ⟨_, rfl⟩
    obtain ⟨rc, hrun⟩ := hend
    exact ⟨rc, v, _, hrun, hasked.trans hasked', hrest'⟩

lemma osSelectWritable_done {r : Response} (hs : w.script = r :: rest) (tv : Option Timeval) :
    ∃ rc tv' v, osSelectWritable s tv w = .done (rc, tv') v ∧ Asked [.select s] [r] w v ∧
      v.script = rest ∧ (rc = 1 ∧ r.writable = .ok true ∨ rc ≤ 0 ∧ r.writable ≠ .ok true) := by
  rw [osSelectWritable_variable, record, bind_modify_apply, bind_apply]
  simp only [ask, hs]
  cases hr : r.writable with
  | ok ready =>
    cases ready with
    | true => exact ⟨_, _, _, rfl, ⟨rfl, hs, rfl⟩, rfl, .inl ⟨rfl, rfl⟩⟩
    | false => exact ⟨_, _, _, rfl, ⟨rfl, hs, rfl⟩, rfl, .inr ⟨le_rfl, by simp⟩⟩
  | error e => exact ⟨_, _, _, rfl, ⟨rfl, hs, rfl⟩, rfl, .inr ⟨by decide, by simp⟩⟩

lemma connectSocket_started {r : Response} (started : r.connect = .error .einprogress)
    (hs : w.script = r :: rest) (tv : Option Timeval) : ∃ u, Asked [.connect s] [r] w u ∧
      u.script = rest ∧ connectSocket s tv w = (do
        let (rc, _) ← osSelectWritable s tv
        if rc ≤ 0 then return -1
        else do
          let r ← ask
          if r.option = none ∧ r.soError = false then return 0
          else do
            setErrno .econnrefused
            return -1) u := by
  refine ⟨{ w with script := rest, errno := .einprogress, trace := w.trace ++ [.connect s] },
    ⟨rfl, hs, rfl⟩, rfl, ?_⟩
  rw [connectSocket_variable, record, bind_modify_apply, bind_apply]
  simp only [ask, hs, started]
  rfl

lemma connectSocket_refused (h : Declined answers) (hs : w.script = answers ++ rest)
    (tv : Option Timeval) :
    ∃ v calls, connectSocket s tv w = .done (-1) v ∧ Asked calls answers w v ∧ v.script = rest := by
  cases h with
  | @atOnce r e failed he =>
    refine ⟨{ w with script := rest, errno := e, trace := w.trace ++ [.connect s] }, [.connect s], ?_,
      ⟨rfl, hs, rfl⟩, rfl⟩
    simp only [connectSocket_variable, record, ask, bind_apply, modify_apply, hs, List.cons_append,
      List.nil_append, failed, setErrno, if_neg he, pure_apply]
  | notReady started waited =>
    obtain ⟨u, hu, hrest, hrun⟩ := connectSocket_started (s := s) started hs tv
    obtain ⟨rc, tv', v, hselect, hv, hrest', hrc⟩ := osSelectWritable_done (s := s) hrest tv
    refine ⟨v, _, ?_, hu.trans hv, hrest'⟩
    have hle : rc ≤ 0 := by
      rcases hrc with ⟨-, h⟩ | ⟨h, -⟩
      · exact absurd h waited
      · exact h
    rw [hrun, bind_done hselect]
    dsimp only
    rw [if_pos hle]
    rfl
  | @later r r' r'' started ready bad =>
    obtain ⟨u, hu, hrest, hrun⟩ := connectSocket_started (s := s) started hs tv
    obtain ⟨rc, tv', v, hselect, hv, hrest', hrc⟩ := osSelectWritable_done (s := s) hrest tv
    have hpos : ¬rc ≤ 0 := by
      rcases hrc with ⟨h, -⟩ | ⟨-, h⟩
      · omega
      · exact absurd ready h
    have hask : ask v = .done r'' { v with script := rest } := by
      rw [ask, hrest']
      rfl
    have hknown : Asked [] [r''] v { v with script := rest, errno := .econnrefused } :=
      ⟨(List.append_nil _).symm, hrest', rfl⟩
    refine ⟨_, _, ?_, hu.trans (hv.trans hknown), rfl⟩
    rw [hrun, bind_done hselect]
    dsimp only
    rw [if_neg hpos, bind_done hask, if_neg bad]
    rfl

lemma tcpPiConnectLoop_unreachable {list : List Bool} {script : List Response}
    (h : Unreachable list script) (hs : w.script = script) :
    ∃ v, tcpPiConnectLoop list w = .done () v ∧ v.ctx = w.ctx ∧ Abandoned w v := by
  induction h generalizing w with
  | none => exact ⟨w, rfl, rfl, [], (List.append_nil _).symm, by rintro _ ⟨⟩⟩
  | @noSocket inet list r e rest failed others ih =>
    have hsocket : osDescriptor w = .done (-1) { w with script := rest, errno := e } := by
      simp only [osDescriptor, ask, bind_apply, hs, failed, setErrno, modify_apply, pure_apply]
    obtain ⟨v, hrun, hctx, hab⟩ := ih (w := { w with script := rest, errno := e }) rfl
    refine ⟨v, ?_, hctx, hab⟩
    rw [tcpPiConnectLoop, bind_done hsocket, if_pos (by decide)]
    exact hrun
  | @refused inet list r closed fd options answers rest opened set refused others ih =>
    let u : World := { w with
      script := options ++ (answers ++ closed :: rest), trace := w.trace ++ [.opened fd] }
    have hsocket : osDescriptor w = .done (fd : ℤ) u := by
      simp only [osDescriptor, ask, bind_apply, hs, opened, record, modify_apply, pure_apply, u]
    have hu : Asked [.opened fd] [r] w u := ⟨rfl, hs, rfl⟩
    have hset : ∃ u' calls, Asked calls options u u' ∧ u'.script = answers ++ closed :: rest ∧
        tcpPiConnectLoop (inet :: list) w = (do
          let rc ← connectSocket fd (some TimeoutField.responseTimeout)
          if rc = -1 then do
            osClose fd
            tcpPiConnectLoop list
          else setSocket fd) u' := by
      rw [tcpPiConnectLoop, bind_done hsocket, if_neg (by omega)]
      cases inet with
      | true =>
        obtain ⟨rc, u', calls, hrun, hasked, hrest⟩ :=
          tcpSetIpv4Options_done (s := fd) (w := u) set rfl
        refine ⟨u', calls, hasked, hrest, ?_⟩
        rw [if_pos rfl, bind_done hrun]
      | false =>
        obtain rfl : options = [] := set
        exact ⟨u, [], ⟨(List.append_nil _).symm, rfl, rfl⟩, rfl, by rw [if_neg (by decide)]⟩
    obtain ⟨u', calls, hasked, hrest, hrun⟩ := hset
    obtain ⟨v, calls', hconnect, hv, hrest'⟩ :=
      connectSocket_refused (s := fd) refused hrest (some u'.ctx.responseTimeout)
    obtain ⟨v', hclose, hv'⟩ := osClose_done (s := fd) hrest'
    have hscript : v'.script = rest := by
      have h := hv'.script
      rw [hrest'] at h
      exact (List.cons.inj h).2.symm
    obtain ⟨z, hloop, hctx, hab⟩ := ih hscript
    have hall := hu.trans (hasked.trans hv)
    refine ⟨z, ?_, hctx.trans (hall.trans hv').ctx, (hv'.closed hall.grows).trans hab⟩
    rw [hrun, connectSocket_responseTimeout, bind_assoc_apply, bind_getCtx, bind_done hconnect, if_pos rfl,
      bind_done hclose, hloop]

lemma Stale.lies (h : Stale w) : ¬Truthful w := by
  obtain ⟨hb, hpos, r, rest, list, hs, haddresses, hunreachable⟩ := h
  intro htrue
  obtain ⟨v, hloop, hctx, hab⟩ :=
    tcpPiConnectLoop_unreachable (w := { w with script := rest }) hunreachable rfl
  have hask : ask w = .done r { w with script := rest } := by
    rw [ask, hs]
  have hrun : modbusConnect w = .done 0 v := by
    rw [modbusConnect, bind_getCtx, hb]
    dsimp only
    rw [tcpPiConnect, bind_done hask, haddresses]
    dsimp only
    rw [bind_done hloop, bind_getCtx, hctx, if_neg (not_lt.mpr hpos)]
    rfl
  rcases htrue 0 v hrun with ⟨-, hmade⟩ | ⟨h, -⟩
  · have hgivenUp : Abandoned w v := hab
    exact hgivenUp.not_made hmade
  · exact absurd h (by decide)

end Stale

section Truth

variable {w : World}

lemma Ends.truthful {rc : ℤ} {v : World} (h : Ends w.ctx.backend w rc v) :
    rc = 0 ∧ Established w v ∨ rc = -1 ∧ ¬Established w v :=
  h.imp_right fun h => ⟨h.1, h.2.not_made⟩

lemma tcpPiConnect_ends (hb : w.ctx.backend = .tcpPi) (hfresh : ¬Stale w) :
    Triple (w = ·) tcpPiConnect (Ends .tcpPi w) (fun _ => True) := by
  refine .bind ask_asked fun r => .from_state fun u hu => ?_
  cases haddresses : r.addresses with
  | none => exact .pure fun v hv => .inr ⟨rfl, hv ▸ hu.abandoned⟩
  | some list =>
    refine .bind (tcpPiConnectLoop_ends list) fun _ => .from_state fun v hv => ?_
    refine .bind (Q := fun ctx v' => v = v' ∧ ctx = v.ctx) (by rintro _ rfl; exact ⟨rfl, rfl⟩) fun ctx => ?_
    refine .given ?_
    rintro rfl
    rcases hv with ⟨hpos, hmade⟩ | ⟨hunreachable, hctx, hab⟩
    · rw [if_neg (not_lt.mpr hpos)]
      refine .pure ?_
      rintro _ rfl
      exact .inl ⟨rfl, hmade.earlier hu⟩
    · have hnone : v.ctx.s < 0 := by
        by_contra hs
        rw [hctx, hu.ctx, not_lt] at hs
        exact hfresh ⟨hb, hs, r, u.script, list, hu.script, haddresses, hunreachable⟩
      rw [if_pos hnone]
      refine .pure ?_
      rintro _ rfl
      exact .inr ⟨rfl, hu.abandoned.trans hab⟩

/-- Whatever happened to a context before, and whatever the system answers: `modbus_connect` tells the
truth, unless it looks at the descriptor that a `tcp_pi` context had before. -/
theorem truthful_iff (w : World) : Truthful w ↔ ¬Stale w := by
  refine ⟨fun htrue hstale => hstale.lies htrue, fun hfresh rc v hrun => Ends.truthful ?_⟩
  rw [modbusConnect, bind_getCtx] at hrun
  cases hb : w.ctx.backend with
  | rtu =>
    rw [hb] at hrun
    exact rtuConnect_ends.done rfl hrun
  | tcp =>
    rw [hb] at hrun
    exact tcpConnect_ends.done rfl hrun
  | tcpPi =>
    rw [hb] at hrun
    exact (tcpPiConnect_ends hb hfresh).done rfl hrun

def closedAgain : Session :=
  Session.run ⟨.start modbusNewTcpPi [] [], .closed⟩
    [⟨.connect, List.replicate 5 {}, []⟩, ⟨.close, List.replicate 2 {}, []⟩]

def refusing : Turn :=
  ⟨.connect, [{}, {}, {}, {}, { connect := .error .econnrefused }, {}], []⟩

/-- It is connected again, and 0 is returned for the descriptor that was closed. -/
theorem closed_descriptor_connected :
    ¬∀ (s : Session) (turns : List Turn) (t : Turn), s.Fresh → Truthful ((s.run turns).arrive t) := by
  intro h
  have htrue : Truthful (closedAgain.arrive refusing) := h _ _ refusing ⟨rfl, rfl, rfl⟩
  refine Stale.lies ⟨by decide +kernel, by decide +kernel, _, _, [true], rfl, rfl, ?_⟩ htrue
  exact @Unreachable.refused true [] {} {} 3 [{}, {}] _ [] rfl (.both rfl) (.atOnce rfl (by decide)) .none

end Truth

end LibModbus
