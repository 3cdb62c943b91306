import LibModbus.Link.Neutral

/-! The descriptors of a context: which are open after a trace of calls, and what connecting does to
them. -/

namespace LibModbus

open Library Library.Prog

def Call.on : Call → Option ℤ
  | .setsockopt fd | .connect fd | .send fd _ | .recv fd | .select fd | .shutdown fd | .close fd
  | .tcgetattr fd | .tcsetattr fd | .tcflush fd => some fd
  | .opened _ | .stored _ _ | .reconnecting _ => none

def openAfter (fds : List ℤ) : Call → List ℤ
  | .opened fd => fd :: fds
  | .close fd => fds.erase fd
  | _ => fds

def opens (trace : List Call) : List ℤ := trace.foldl openAfter []

def OwnedFrom (k : ℕ) (trace : List Call) : Prop :=
  ∀ before c after, trace = before ++ c :: after → k ≤ before.length → ∀ fd ∈ c.on, fd ∈ opens before

/-- Every call on a descriptor is made while it is open. So each is closed at most once. -/
abbrev Owned (trace : List Call) : Prop := OwnedFrom 0 trace

lemma opens_append (trace : List Call) (c : Call) : opens (trace ++ [c]) = openAfter (opens trace) c := by
  simp only [opens, List.foldl_append, List.foldl_cons, List.foldl_nil]

variable {k : ℕ} {trace : List Call} {c : Call}

lemma ownedFrom_length (trace : List Call) : OwnedFrom trace.length trace := by
  intro before c after he hk
  rw [he, List.length_append, List.length_cons] at hk
  omega

lemma OwnedFrom.append (h : OwnedFrom k trace) (hc : ∀ fd ∈ c.on, fd ∈ opens trace) :
    OwnedFrom k (trace ++ [c]) := by
  intro before c' after he hk
  rcases List.eq_nil_or_concat after with rfl | ⟨after, last, rfl⟩
  · obtain ⟨rfl, hlast⟩ := List.append_inj' he rfl
    obtain rfl := List.singleton_injective hlast
    exact hc
  · rw [List.concat_eq_append, ← List.cons_append, ← List.append_assoc] at he
    exact h before c' after (List.append_inj' he rfl).1 hk

lemma OwnedFrom.of_append (h : OwnedFrom k (trace ++ [c])) : OwnedFrom k trace := by
  intro before c' after he
  rw [he, List.append_assoc, List.cons_append] at h
  exact h before c' _ rfl

lemma Owned.count_close (h : Owned trace) (fd : ℤ) :
    trace.count (.close fd) + (opens trace).count fd = trace.count (.opened fd) := by
  induction trace using List.reverseRecOn with
  | nil => rfl
  | append_singleton trace c ih =>
    have ih := ih h.of_append
    rw [opens_append, List.count_append, List.count_append]
    cases c with
    | opened fd' =>
      simp only [openAfter, List.count_cons, List.count_nil, Call.opened.injEq, beq_iff_eq, reduceCtorEq,
        if_false]
      omega
    | close fd' =>
      have hmem := h trace (.close fd') [] rfl (Nat.zero_le _) fd' rfl
      by_cases hfd : fd' = fd
      · subst hfd
        have hpos := List.count_pos_iff.mpr hmem
        simp only [openAfter, List.count_erase_self, List.count_cons, List.count_nil, beq_iff_eq,
          reduceCtorEq, if_true, if_false]
        omega
      · simp only [openAfter, List.count_erase_of_ne (Ne.symm hfd), List.count_cons, List.count_nil,
          Call.close.injEq, beq_iff_eq, reduceCtorEq, hfd, if_false]
        omega
    | _ => simpa [openAfter] using ih

def Opened (k : ℕ) (fds : List ℤ) (w : World) : Prop := OwnedFrom k w.trace ∧ opens w.trace = fds

lemma Opened.call {fds : List ℤ} {w w' : World} (h : Opened k fds w)
    (hc : ∀ fd ∈ c.on, fd ∈ fds) (ht : w'.trace = w.trace ++ [c]) : Opened k (openAfter fds c) w' := by
  obtain ⟨ho, rfl⟩ := h
  rw [Opened, ht]
  exact ⟨ho.append hc, opens_append _ _⟩

def Holding (k : ℕ) (w : World) : Prop := Opened k [w.ctx.s] w

section Twins

/-- The second context holds these descriptors. The first is like it, with the same answers ahead, but
may have another `s`. -/
structure Twins (k : ℕ) (y x : ℤ) (fds : List ℤ) (u w : World) : Prop where
  script : u.script = w.script
  ctx : u.ctx = { w.ctx with s := y }
  socket : w.ctx.s = x
  opened : Opened k fds w

def Unharmed (k : ℕ) (w : World) : Prop := OwnedFrom k w.trace

variable {y x : ℤ} {fds : List ℤ}

lemma twins_ask :
    Coupled (Twins k y x fds) ask ask (fun a b u w => Twins k y x fds u w ∧ a = b) (Unharmed k) := by
  intro u w h
  unfold ask
  rw [h.script]
  cases w.script with
  | nil => exact h.opened.1
  | cons r rest => exact ⟨⟨rfl, h.ctx, h.socket, h.opened⟩, rfl⟩

lemma twins_setErrno (e : Errno) :
    Coupled (Twins k y x fds) (setErrno e) (setErrno e) (fun _ _ => Twins k y x fds) (Unharmed k) :=
  fun _ _ h => ⟨h.script, h.ctx, h.socket, h.opened⟩

lemma twins_record {c : Call} (hc : ∀ fd ∈ c.on, fd ∈ fds) :
    Coupled (Twins k y x fds) (record c) (record c) (fun _ _ => Twins k y x (openAfter fds c)) (Unharmed k) :=
  fun _ _ h => ⟨h.script, h.ctx, h.socket, h.opened.call hc rfl⟩

lemma twins_fail {α : Type} (e : Errno) (a : α) :
    Coupled (Twins k y x fds) (setErrno e >>= fun _ => pure a) (setErrno e >>= fun _ => pure a)
      (fun b c u w => Twins k y x fds u w ∧ b = a ∧ c = a) (Unharmed k) :=
  .bind (twins_setErrno e) fun _ _ => .pure fun _ _ h => ⟨h, rfl, rfl⟩

lemma twins_osOption {c : Call} (hc : ∀ fd ∈ c.on, fd ∈ fds) (ho : openAfter fds c = fds) :
    Coupled (Twins k y x fds) (osOption c) (osOption c) (fun a b u w => Twins k y x fds u w ∧ a = b)
      (Unharmed k) := by
  have hr := @twins_record k y x fds c hc
  rw [ho] at hr
  refine .bind hr fun _ _ => .bind twins_ask fun r _ => .given ?_
  rintro rfl
  cases r.option with
  | none => exact .pure fun _ _ h => ⟨h, rfl⟩
  | some e => exact (twins_fail e _).post fun _ _ _ _ h => ⟨h.1, h.2.1.trans h.2.2.symm⟩

lemma twins_osIgnored {c : Call} (hc : ∀ fd ∈ c.on, fd ∈ fds) :
    Coupled (Twins k y x fds) (osIgnored c) (osIgnored c) (fun _ _ => Twins k y x (openAfter fds c))
      (Unharmed k) := by
  refine .bind (twins_record hc) fun _ _ => .bind twins_ask fun r _ => .given ?_
  rintro rfl
  cases r.trouble with
  | none => exact .pure fun _ _ h => h
  | some e => exact twins_setErrno e

lemma twins_osClose (s : ℤ) : Coupled (Twins k y x [s]) (osClose s) (osClose s) (fun _ _ => Twins k y x [])
    (Unharmed k) := by
  have h := @twins_osIgnored k y x [s] (.close s) (by rintro fd ⟨⟩; exact List.mem_singleton_self s)
  rwa [openAfter, List.erase_cons_head] at h

lemma twins_osDescriptor : Coupled (Twins k y x []) osDescriptor osDescriptor
    (fun a b u w => (Twins k y x [a] u w ∧ 0 ≤ a ∨ Twins k y x [] u w ∧ a = -1) ∧ a = b) (Unharmed k) := by
  refine .bind twins_ask fun r _ => .given ?_
  rintro rfl
  cases r.descriptor with
  | ok fd =>
    refine .bind (twins_record (by rintro _ ⟨⟩)) fun _ _ => .pure fun u w h => ⟨.inl ⟨h, ?_⟩, rfl⟩
    exact Int.natCast_nonneg fd
  | error e =>
    exact (twins_fail e _).post fun a b u w h => ⟨.inr ⟨h.1, h.2.1⟩, h.2.1.trans h.2.2.symm⟩

lemma twins_tcpSetIpv4Options (s : ℤ) : Coupled (Twins k y x [s]) (tcpSetIpv4Options s)
    (tcpSetIpv4Options s) (fun a b u w => Twins k y x [s] u w ∧ a = b) (Unharmed k) := by
  have hopen : ∀ fd ∈ (Call.setsockopt s).on, fd ∈ [s] := by
    rintro fd ⟨⟩
    exact List.mem_singleton_self s
  have hset := @twins_osOption k y x [s] (.setsockopt s) hopen rfl
  refine .bind hset fun rc _ => .given ?_
  rintro rfl
  refine .ite (fun _ => .pure fun _ _ h => ⟨h, rfl⟩) fun _ => .bind hset fun rc _ => .given ?_
  rintro rfl
  exact .ite (fun _ => .pure fun _ _ h => ⟨h, rfl⟩) fun _ => .pure fun _ _ h => ⟨h, rfl⟩

lemma twins_getCtx : Coupled (Twins k y x fds) getCtx getCtx
    (fun a b u w => Twins k y x fds u w ∧ a.responseTimeout = b.responseTimeout) (Unharmed k) := by
  intro u w h
  have hctx : u.ctx.responseTimeout = w.ctx.responseTimeout := by rw [h.ctx]
  exact ⟨h, hctx⟩

lemma twins_connectSocket (s : ℤ) :
    Coupled (Twins k y x [s]) (connectSocket s (some TimeoutField.responseTimeout))
      (connectSocket s (some TimeoutField.responseTimeout))
      (fun a b u w => Twins k y x [s] u w ∧ a = b ∧ (a = 0 ∨ a = -1)) (Unharmed k) := by
  have hfail (e : Errno) : Coupled (Twins k y x [s]) (setErrno e >>= fun _ => (pure (-1) : M ℤ))
      (setErrno e >>= fun _ => (pure (-1) : M ℤ))
      (fun a b u w => Twins k y x [s] u w ∧ a = b ∧ (a = 0 ∨ a = -1)) (Unharmed k) :=
    (twins_fail e _).post fun _ _ _ _ h => ⟨h.1, h.2.1.trans h.2.2.symm, .inr h.2.1⟩
  have hcall {c : Call} (hc : ∀ fd ∈ c.on, fd = s) (ho : openAfter [s] c = [s]) :
      Coupled (Twins k y x [s]) (record c) (record c) (fun _ _ => Twins k y x [s]) (Unharmed k) := by
    have h := @twins_record k y x [s] c fun fd hfd => List.mem_singleton.mpr (hc fd hfd)
    rwa [ho] at h
  rw [connectSocket_responseTimeout]
  refine .bind twins_getCtx fun ctx ctx' => .given fun htv => ?_
  rw [htv, connectSocket_variable]
  refine .bind (hcall (by rintro fd ⟨⟩; rfl) rfl) fun _ _ => .bind twins_ask fun r _ => .given ?_
  rintro rfl
  cases r.connect with
  | ok _ => exact .pure fun _ _ h => ⟨h, rfl, .inl rfl⟩
  | error e =>
    refine .bind (twins_setErrno e) fun _ _ => .ite (fun _ => ?_) fun _ =>
      .pure fun _ _ h => ⟨h, rfl, .inr rfl⟩
    have hselect : Coupled (Twins k y x [s]) (osSelectWritable s (some ctx'.responseTimeout))
        (osSelectWritable s (some ctx'.responseTimeout))
        (fun a b u w => Twins k y x [s] u w ∧ a = b) (Unharmed k) := by
      rw [osSelectWritable_variable]
      refine .bind (hcall (by rintro fd ⟨⟩; rfl) rfl) fun _ _ => .bind twins_ask fun r _ => .given ?_
      rintro rfl
      dsimp only
      cases r.writable with
      | error e => exact (twins_fail e _).post fun _ _ _ _ h => ⟨h.1, h.2.1.trans h.2.2.symm⟩
      | ok ready => cases ready <;> exact .pure fun _ _ h => ⟨h, rfl⟩
    refine .bind hselect fun rc _ => .given ?_
    rintro rfl
    refine .ite (fun _ => .pure fun _ _ h => ⟨h, rfl, .inr rfl⟩) fun _ => .bind twins_ask fun r _ => .given ?_
    rintro rfl
    exact .ite (fun _ => .pure fun _ _ h => ⟨h, rfl, .inl rfl⟩) fun _ => hfail _

lemma twins_setSocket (s : ℤ) : Coupled (Twins k y x fds) (setSocket s) (setSocket s)
    (fun _ _ => Twins k s s fds) (Unharmed k) := by
  intro u w h
  refine ⟨h.script, ?_, rfl, h.opened⟩
  simp only [h.ctx]

lemma twins_ignored {s : ℤ} {c : Call} (hc : ∀ fd ∈ c.on, fd = s) (ho : openAfter [s] c = [s]) :
    Coupled (Twins k y x [s]) (osIgnored c) (osIgnored c) (fun _ _ => Twins k y x [s]) (Unharmed k) := by
  have h := @twins_osIgnored k y x [s] c fun fd hfd => List.mem_singleton.mpr (hc fd hfd)
  rwa [ho] at h

lemma twins_modbusClose (b : Backend) : Coupled (fun u w => Twins k x x [x] u w ∧ w.ctx.backend = b)
    modbusClose modbusClose (fun _ _ => Twins k x x []) (Unharmed k) := by
  rintro u w ⟨h, hb⟩
  have hu : u.ctx.backend = b := by rw [h.ctx, ← hb]
  have hus : u.ctx.s = x := by rw [h.ctx]
  have hclose (c : Call) (hc : ∀ fd ∈ c.on, fd = x) (ho : openAfter [x] c = [x]) :=
    (Coupled.bind (@twins_ignored k x x x c hc ho) fun _ _ => twins_osClose x) u w h
  rw [modbusClose, bind_getCtx, bind_getCtx, hu, hb]
  cases b with
  | rtu =>
    dsimp only
    rw [rtuClose, bind_getCtx, bind_getCtx, hus, h.socket]
    exact hclose (.tcsetattr x) (by rintro fd ⟨⟩; rfl) rfl
  | tcp | tcpPi =>
    dsimp only
    rw [tcpClose, bind_getCtx, bind_getCtx, hus, h.socket]
    exact hclose (.shutdown x) (by rintro fd ⟨⟩; rfl) rfl

def Connects (k : ℕ) (x : ℤ) (a b : ℤ) (_ w : World) : Prop :=
  a = 0 ∧ b = 0 ∧ Holding k w ∨ a = -1 ∧ Opened k [] w ∧ (b = -1 ∨ b = 0 ∧ 0 ≤ x)

lemma Twins.holding {u w : World} (h : Twins k y x [x] u w) : Holding k w := by
  rw [Holding, h.socket]
  exact h.opened

lemma Twins.without {z : ℤ} {u w : World} (h : Twins k y z [] u w) :
    Connects k x (-1) (-1) u w ∧ (-1 : ℤ) = -1 :=
  ⟨.inr ⟨rfl, h.opened, .inl rfl⟩, rfl⟩

lemma twins_connect {rest : ℤ → M ℤ} (h : ∀ s, 0 ≤ s → Coupled (Twins k s s [s]) (rest s) (rest s)
    (fun a b u w => Connects k x a b u w ∧ a = b) (Unharmed k)) :
    Coupled (Twins k y x [])
      (osDescriptor >>= fun s => setSocket s >>= fun _ => if s = -1 then pure (-1) else rest s)
      (osDescriptor >>= fun s => setSocket s >>= fun _ => if s = -1 then pure (-1) else rest s)
      (fun a b u w => Connects k x a b u w ∧ a = b) (Unharmed k) := by
  refine .bind twins_osDescriptor fun s _ => .given ?_
  rintro rfl
  refine .either (.given fun hs => ?_) (.given fun hs => ?_)
  · refine .bind (twins_setSocket s) fun _ _ => ?_
    rw [if_neg (by omega)]
    exact h s hs
  · refine .bind (twins_setSocket s) fun _ _ => ?_
    rw [if_pos hs]
    exact .pure fun u w h => h.without

lemma twins_tcpConnect : Coupled (Twins k y x []) tcpConnect tcpConnect
    (fun a b u w => Connects k x a b u w ∧ a = b) (Unharmed k) := by
  refine twins_connect fun s _ => ?_
  have hgiveUp : Coupled (Twins k s s [s]) (osClose s >>= fun _ => (pure (-1) : M ℤ))
      (osClose s >>= fun _ => (pure (-1) : M ℤ)) (fun a b u w => Connects k x a b u w ∧ a = b) (Unharmed k) :=
    .bind (twins_osClose s) fun _ _ => .pure fun u w h => h.without
  refine .bind (twins_tcpSetIpv4Options s) fun rc _ => .given ?_
  rintro rfl
  refine .ite (fun _ => hgiveUp) fun _ => .bind (twins_connectSocket s) fun rc _ => .given ?_
  rintro ⟨rfl, -⟩
  exact .ite (fun _ => hgiveUp) fun _ => .pure fun u w h => ⟨.inl ⟨rfl, rfl, h.holding⟩, rfl⟩

lemma twins_rtuConnect : Coupled (Twins k y x []) rtuConnect rtuConnect
    (fun a b u w => Connects k x a b u w ∧ a = b) (Unharmed k) := by
  refine twins_connect fun s _ => .bind (twins_ignored (by rintro fd ⟨⟩; rfl) rfl) fun _ _ => ?_
  refine .bind (twins_osOption (by rintro fd ⟨⟩; exact List.mem_singleton_self s) rfl)
    fun rc _ => .given ?_
  rintro rfl
  refine .ite (fun _ => ?_) fun _ => .pure fun u w h => ⟨.inl ⟨rfl, rfl, h.holding⟩, rfl⟩
  refine .bind (twins_osClose s) fun _ _ => .bind (twins_setSocket (-1)) fun _ _ => ?_
  exact .pure fun u w h => h.without

def Looped (k : ℕ) (y x : ℤ) (u w : World) : Prop :=
  (Holding k w ∧ u.ctx.s = w.ctx.s ∧ 0 ≤ w.ctx.s) ∨ Twins k y x [] u w

lemma twins_tcpPiConnectLoop (aiList : List Bool) : Coupled (Twins k y x [])
    (tcpPiConnectLoop aiList) (tcpPiConnectLoop aiList) (fun _ _ => Looped k y x) (Unharmed k) := by
  induction aiList with
  | nil => exact .pure fun u w h => .inr h
  | cons inet rest ih =>
    refine .bind twins_osDescriptor fun s _ => .given ?_
    rintro rfl
    refine .either (.given fun hs => ?_) (.given fun hs => ?_)
    · rw [if_neg (by omega)]
      have htry : Coupled (Twins k y x [s]) (do
          let rc ← connectSocket s (some TimeoutField.responseTimeout)
          if rc = -1 then do
            osClose s
            tcpPiConnectLoop rest
          else setSocket s) (do
          let rc ← connectSocket s (some TimeoutField.responseTimeout)
          if rc = -1 then do
            osClose s
            tcpPiConnectLoop rest
          else setSocket s) (fun _ _ => Looped k y x) (Unharmed k) := by
        refine .bind (twins_connectSocket s) fun rc _ => .given ?_
        rintro ⟨rfl, -⟩
        refine .ite (fun _ => .bind (twins_osClose s) fun _ _ => ih) fun _ => ?_
        refine (twins_setSocket s).post fun _ _ u w h => .inl ⟨h.holding, ?_, ?_⟩
        · rw [h.ctx, h.socket]
        · rw [h.socket]
          exact hs
      refine .ite (fun _ => .bind (twins_tcpSetIpv4Options s) fun _ _ => ?_) fun _ => htry
      exact htry.pre fun u w h => h.1
    · rw [if_pos (by omega)]
      exact ih

lemma twins_tcpPiConnect (hy : y < 0) : Coupled (Twins k y x []) tcpPiConnect tcpPiConnect
    (Connects k x) (Unharmed k) := by
  refine .bind twins_ask fun r _ => .given ?_
  rintro rfl
  cases r.addresses with
  | none => exact .pure fun u w h => .inr ⟨rfl, h.opened, .inl rfl⟩
  | some aiList =>
    refine .bind (twins_tcpPiConnectLoop aiList) fun _ _ => ?_
    rintro u w (⟨hw, hs, h0⟩ | h)
    · rw [bind_getCtx, bind_getCtx, hs, if_neg (not_lt.mpr h0)]
      exact .inl ⟨rfl, rfl, hw⟩
    · have hu : u.ctx.s = y := by rw [h.ctx]
      rw [bind_getCtx, bind_getCtx, if_pos (hu ▸ hy), h.socket]
      split_ifs with hx
      · exact .inr ⟨rfl, h.opened, .inl rfl⟩
      · exact .inr ⟨rfl, h.opened, .inr ⟨rfl, not_lt.mp hx⟩⟩

lemma twins_modbusConnect (b : Backend) :
    Coupled (fun u w => Twins k (-1) x [] u w ∧ w.ctx.backend = b) modbusConnect modbusConnect
      (fun a c u w => Connects k x a c u w ∧ (b = .tcpPi ∨ a = c)) (Unharmed k) := by
  rintro u w ⟨h, hb⟩
  have hu : u.ctx.backend = b := by rw [h.ctx, ← hb]
  rw [modbusConnect, bind_getCtx, bind_getCtx, hu, hb]
  cases b with
  | rtu => exact (twins_rtuConnect.post fun _ _ _ _ h => ⟨h.1, .inr h.2⟩) u w h
  | tcp => exact (twins_tcpConnect.post fun _ _ _ _ h => ⟨h.1, .inr h.2⟩) u w h
  | tcpPi => exact ((twins_tcpPiConnect (by decide)).post fun _ _ _ _ h => ⟨h, .inl rfl⟩) u w h

end Twins

def Unresolved (w : World) : Prop := ∃ r ∈ w.script.head?, r.addresses = none

lemma Unresolved.modbusConnect {w : World} (h : Unresolved w) (hb : w.ctx.backend = .tcpPi) :
    ∃ w', modbusConnect w = .done (-1) w' := by
  obtain ⟨r, hr, ha⟩ := h
  obtain ⟨rest, hs⟩ := List.head?_eq_some_iff.mp hr
  refine ⟨{ w with script := rest }, ?_⟩
  have hask : ask w = .done r { w with script := rest } := by simp only [ask, hs]
  rw [LibModbus.modbusConnect, bind_getCtx, hb]
  dsimp only
  rw [tcpPiConnect, bind_done hask, ha]
  rfl

def Connected (k : ℕ) (w : World) (rc : ℤ) (w' : World) : Prop :=
  rc = 0 ∧ Holding k w' ∨ reachable w = false ∧ Opened k [] w' ∧
    (rc = -1 ∨ rc = 0 ∧ w.ctx.backend = .tcpPi ∧ 0 ≤ w.ctx.s ∧ ¬Unresolved w)

lemma modbusConnect_ends {w : World} (ho : Opened k [] w) :
    Triple (w = ·) modbusConnect (Connected k w) (Unharmed k) := by
  rintro _ rfl
  have h := (@twins_modbusConnect k w.ctx.s w.ctx.backend).second { w with ctx := { w.ctx with s := -1 } }
    w ⟨⟨rfl, rfl, rfl, ho⟩, rfl⟩
  cases hw : modbusConnect w with
  | blocked w' =>
    rw [hw] at h
    exact h
  | done b w' =>
    rw [hw] at h
    obtain ⟨a, u', hu, ⟨rfl, rfl, hold⟩ | ⟨rfl, ho', hb⟩, hsame⟩ := h
    · exact .inl ⟨rfl, hold⟩
    · have hr : reachable w = false := by
        rw [reachable, hu]
        rfl
      refine .inr ⟨hr, ho', ?_⟩
      rcases hb with rfl | ⟨rfl, hx⟩
      · exact .inl rfl
      · have htcpPi := hsame.resolve_right (by decide)
        refine .inr ⟨rfl, htcpPi, hx, fun hun => ?_⟩
        obtain ⟨_, hfail⟩ := hun.modbusConnect htcpPi
        rw [hfail] at hw
        exact absurd hw (by simp)

end LibModbus
