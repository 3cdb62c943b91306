import LibModbus.Link.Descriptors
import LibModbus.Model.Listening
import Mathlib.Data.List.Perm.Subperm
import Mathlib.Data.Finset.Card

/-! The descriptors of a server that listens, accepts and hangs up, while the rest of its process opens
and closes files. -/

namespace LibModbus

open Library Library.Prog

section Kernel

lemma lowestFree_spec (fds : List ℤ) : lowestFree fds ∉ fds ∧ 0 ≤ lowestFree fds := by
  have hfree : ∃ fd ∈ (List.range (fds.length + 1)).map Int.ofNat, fd ∉ fds := by
    by_contra! hsub
    have hnodup : ((List.range (fds.length + 1)).map Int.ofNat).Nodup :=
      List.nodup_range.map fun _ _ => Int.ofNat.inj
    have hle := (List.subperm_of_subset hnodup hsub).length_le
    rw [List.length_map, List.length_range] at hle
    omega
  have hsome : (((List.range (fds.length + 1)).map Int.ofNat).find? (· ∉ fds)).isSome := by
    simpa only [List.find?_isSome, decide_eq_true_eq] using hfree
  obtain ⟨fd, hfd⟩ := Option.isSome_iff_exists.mp hsome
  obtain ⟨m, -, hm⟩ := List.mem_map.mp (List.mem_of_find?_eq_some hfd)
  have hnot := List.find?_some hfd
  rw [lowestFree, hfd, Option.getD_some]
  exact ⟨of_decide_eq_true hnot, hm ▸ Int.natCast_nonneg m⟩

variable {fds : List ℤ} {ctx : Modbus}

def Stand (fds : List ℤ) (ctx : Modbus) (h : Host) : Prop := h.fds = fds ∧ h.ctx = ctx

def Opens (fds : List ℤ) (ctx : Modbus) (rc : ℤ) (h : Host) : Prop :=
  rc ∉ fds ∧ 0 ≤ rc ∧ Stand (rc :: fds) ctx h ∨ rc = -1 ∧ Stand fds ctx h

lemma kernelAnswer_stand : Triple (Stand fds ctx) kernelAnswer (fun _ => Stand fds ctx) fun _ => True := by
  intro h hs
  unfold kernelAnswer
  cases h.answers with
  | nil => trivial
  | cons r rest => exact hs

lemma newDescriptor_opens : Triple (Stand fds ctx) newDescriptor (Opens fds ctx) fun _ => True := by
  rintro h ⟨rfl, rfl⟩
  obtain ⟨hfree, hnonneg⟩ := lowestFree_spec h.fds
  exact .inl ⟨hfree, hnonneg, rfl, rfl⟩

lemma fails_stand (e : Errno) :
    Triple (Stand fds ctx) (fails e) (fun rc h => rc = -1 ∧ Stand fds ctx h) fun _ => True :=
  fun _ hs => ⟨rfl, hs⟩

lemma sysSocket_opens : Triple (Stand fds ctx) sysSocket (Opens fds ctx) fun _ => True := by
  refine .bind kernelAnswer_stand fun r => ?_
  cases r.fault with
  | none => exact newDescriptor_opens
  | some e => exact (fails_stand e).post fun _ _ h => .inr h

lemma sysAccept_opens (fd : ℤ) : Triple (Stand fds ctx) (sysAccept fd) (Opens fds ctx) fun _ => True := by
  have hfails (e : Errno) : Triple (Stand fds ctx) (fails e) (Opens fds ctx) fun _ => True :=
    (fails_stand e).post fun _ _ h => .inr h
  refine .bind kernelAnswer_stand fun r => .bind (.get fun _ hs => hs) fun h => .ite (fun _ => hfails _) fun _ => ?_
  cases r.fault with
  | none => exact newDescriptor_opens
  | some e => exact hfails e

lemma sysOption_stand (fd : ℤ) : Triple (Stand fds ctx) (sysOption fd)
    (fun rc h => (rc = 0 ∨ rc = -1) ∧ Stand fds ctx h) fun _ => True := by
  have hfails (e : Errno) : Triple (Stand fds ctx) (fails e)
      (fun rc h => (rc = 0 ∨ rc = -1) ∧ Stand fds ctx h) fun _ => True :=
    (fails_stand e).post fun _ _ h => ⟨.inr h.1, h.2⟩
  refine .bind kernelAnswer_stand fun r => .bind (.get fun _ hs => hs) fun h => .ite (fun _ => hfails _) fun _ => ?_
  cases r.fault with
  | none => exact .pure fun _ hs => ⟨.inl rfl, hs⟩
  | some e => exact hfails e

lemma sysClose_closes (fd : ℤ) :
    Triple (Stand fds ctx) (sysClose fd) (fun _ => Stand (fds.erase fd) ctx) fun _ => True := by
  refine .bind kernelAnswer_stand fun r => .bind (.get fun _ hs => hs) fun h => .modify ?_
  rintro _ ⟨rfl, rfl⟩
  exact ⟨rfl, rfl⟩

end Kernel

section Functions

variable {fds : List ℤ} {ctx : Modbus}

lemma prepareSocket_ends (s : ℤ) : Triple (Stand (s :: fds) ctx) (prepareSocket s)
    (fun rc h => rc = 0 ∧ Stand (s :: fds) ctx h ∨ rc = -1 ∧ Stand fds ctx h) fun _ => True := by
  have hgiveUp : Triple (fun h => Stand (s :: fds) ctx h) (sysClose s >>= fun _ => (pure (-1) : Kernel ℤ))
      (fun rc h => rc = 0 ∧ Stand (s :: fds) ctx h ∨ rc = -1 ∧ Stand fds ctx h) fun _ => True := by
    refine .bind (sysClose_closes s) fun _ => .pure fun h hs => .inr ⟨rfl, ?_⟩
    rwa [List.erase_cons_head] at hs
  have hstep {next : Kernel ℤ} (hnext : Triple (Stand (s :: fds) ctx) next
      (fun rc h => rc = 0 ∧ Stand (s :: fds) ctx h ∨ rc = -1 ∧ Stand fds ctx h) fun _ => True) :
      Triple (Stand (s :: fds) ctx) (do
        let rc ← sysOption s
        if rc = -1 then do
          sysClose s
          return -1
        else next)
        (fun rc h => rc = 0 ∧ Stand (s :: fds) ctx h ∨ rc = -1 ∧ Stand fds ctx h) fun _ => True := by
    refine .bind (sysOption_stand s) fun rc => ?_
    exact .ite (fun _ => hgiveUp.pre fun _ hs => hs.2) fun _ => hnext.pre fun _ hs => hs.2
  exact hstep (hstep (hstep (.pure fun _ hs => .inl ⟨rfl, hs⟩)))

lemma modbusTcpListen_opens : Triple (Stand fds ctx) modbusTcpListen (Opens fds ctx) fun _ => True := by
  refine .bind sysSocket_opens fun s => ?_
  rintro h (⟨hfree, hnonneg, hs⟩ | ⟨rfl, hs⟩)
  · rw [if_neg (by omega)]
    refine Triple.bind (prepareSocket_ends s) (fun rc => ?_) h hs
    rintro h (⟨rfl, hs⟩ | ⟨rfl, hs⟩)
    · exact .inl ⟨hfree, hnonneg, hs⟩
    · exact .inr ⟨rfl, hs⟩
  · exact .inr ⟨rfl, hs⟩

lemma tcpPiListenLoop_opens (n : ℕ) :
    Triple (Stand fds ctx) (tcpPiListenLoop n) (Opens fds ctx) fun _ => True := by
  induction n with
  | zero => exact .pure fun _ hs => .inr ⟨rfl, hs⟩
  | succ n ih =>
    refine .bind sysSocket_opens fun s => ?_
    rintro h (⟨hfree, hnonneg, hs⟩ | ⟨rfl, hs⟩)
    · rw [if_neg (by omega)]
      refine Triple.bind (prepareSocket_ends s) (fun rc => ?_) h hs
      rintro h (⟨rfl, hs⟩ | ⟨rfl, hs⟩)
      · exact .inl ⟨hfree, hnonneg, hs⟩
      · exact ih h hs
    · exact ih h hs

lemma modbusTcpPiListen_opens : Triple (Stand fds ctx) modbusTcpPiListen (Opens fds ctx) fun _ => True := by
  refine .bind kernelAnswer_stand fun r => ?_
  cases r.addresses with
  | none => exact .pure fun _ hs => .inr ⟨rfl, hs⟩
  | some n =>
    refine .bind (tcpPiListenLoop_opens n) fun s => .ite (fun hneg => .pure ?_) fun _ => .pure fun _ h => h
    rintro h (⟨-, hnonneg, -⟩ | ⟨rfl, hs⟩)
    · omega
    · exact .inr ⟨rfl, hs⟩

def NewConnection (fds : List ℤ) (ctx : Modbus) (socket : ℤ) (r : ℤ × ℤ) (h : Host) : Prop :=
  r.1 ∉ fds ∧ 0 ≤ r.1 ∧ r.2 = socket ∧ Stand (r.1 :: fds) { ctx with s := r.1 } h ∨
    r = (-1, 0) ∧ Stand (fds.erase socket) { ctx with s := -1 } h

lemma accept_ends (socket : ℤ) {rest : ℤ → Kernel (ℤ × ℤ)}
    (hfail : rest (-1) = do
      sysClose socket
      return (-1, 0))
    (hdone : ∀ s, 0 ≤ s → rest s = pure (s, socket)) :
    Triple (Stand fds ctx) (do
      let s ← sysAccept socket
      Prog.modify fun h => { h with ctx := { h.ctx with s } }
      rest s) (NewConnection fds ctx socket) fun _ => True := by
  refine .bind (sysAccept_opens socket) fun s => ?_
  rintro h (⟨hfree, hnonneg, hfds, hctx⟩ | ⟨rfl, hfds, hctx⟩)
  · rw [bind_modify_apply, hdone s hnonneg, hctx]
    exact .inl ⟨hfree, hnonneg, rfl, hfds, rfl⟩
  · rw [bind_modify_apply, hfail, hctx]
    exact Triple.bind (sysClose_closes socket) (fun _ => .pure fun h hs => .inr ⟨rfl, hs⟩) _ ⟨hfds, rfl⟩

lemma modbusTcpAccept_ends (socket : ℤ) :
    Triple (Stand fds ctx) (modbusTcpAccept socket) (NewConnection fds ctx socket) fun _ => True :=
  accept_ends socket rfl fun s hs => if_neg (by omega)

lemma modbusTcpPiAccept_ends (socket : ℤ) :
    Triple (Stand fds ctx) (modbusTcpPiAccept socket) (NewConnection fds ctx socket) fun _ => True :=
  accept_ends socket rfl fun s hs => if_neg (by omega)

lemma tcpHangUp_closes : Triple (Stand fds ctx) tcpHangUp (fun _ => Stand (fds.erase ctx.s) ctx) fun _ => True := by
  refine .from_state fun h hs => ?_
  rintro _ rfl
  rw [tcpHangUp, bind_get_apply, hs.2]
  exact Triple.bind (sysOption_stand ctx.s) (fun _ => (sysClose_closes ctx.s).pre fun _ h => h.2) h hs

/-- The calls of `_modbus_tcp_close` have the same effect on the descriptors of a process. -/
lemma tcpClose_calls {w w' : World} (h : tcpClose w = .done () w') (fds : List ℤ) :
    ∃ calls, w'.trace = w.trace ++ calls ∧ calls.foldl openAfter fds = fds.erase w.ctx.s := by
  have hignored {c : Call} {u v : World} (h : osIgnored c u = .done () v) : v.trace = u.trace ++ [c] := by
    obtain ⟨r, hasked⟩ := (osIgnored_asked c).done rfl h
    exact hasked.trace
  rw [tcpClose, bind_getCtx, bind_eq_done] at h
  obtain ⟨_, t, hshutdown, hclose⟩ := h
  refine ⟨[.shutdown w.ctx.s, .close w.ctx.s], ?_, rfl⟩
  rw [hignored hclose, hignored hshutdown, List.append_assoc]
  rfl

end Functions

inductive HostAct where
  | listen
  | piListen
  | accept
  | piAccept
  | hangUp
  | closeSocket
  | otherOpens
  | otherCloses (fd : ℤ)

/-- `socket` is the variable of the program whose address it hands to `modbus_tcp_accept`. What it knows
of its two descriptors it has from the results of the calls. -/
structure Serving where
  host : Host
  socket : ℤ
  listening : Bool
  connected : Bool
  others : List ℤ

namespace Serving

def afterListen (s : Serving) : Outcome Host ℤ → Option Serving
  | .done rc host => some { s with host, socket := rc, listening := rc ≠ -1 }
  | .blocked _ => none

def afterAccept (s : Serving) : Outcome Host (ℤ × ℤ) → Option Serving
  | .done (rc, socket) host =>
    some { s with host, socket, listening := rc ≠ -1, connected := rc ≠ -1 }
  | .blocked _ => none

def afterClose (s : Serving) : Outcome Host Unit → Option Serving
  | .done _ host => some { s with host }
  | .blocked _ => none

/-- The program listens when it does not listen yet, accepts on the socket it got, and closes what it
has. It may still have a connection when it accepts the next one. -/
def step (s : Serving) : HostAct → Option Serving
  | .listen => if s.listening then none else s.afterListen (modbusTcpListen s.host)
  | .piListen => if s.listening then none else s.afterListen (modbusTcpPiListen s.host)
  | .accept => if s.listening then s.afterAccept (modbusTcpAccept s.socket s.host) else none
  | .piAccept => if s.listening then s.afterAccept (modbusTcpPiAccept s.socket s.host) else none
  | .hangUp =>
    if s.connected then { s with connected := false }.afterClose (tcpHangUp s.host) else none
  | .closeSocket =>
    if s.listening then { s with listening := false }.afterClose (sysClose s.socket s.host) else none
  | .otherOpens =>
    match newDescriptor s.host with
    | .done fd host => some { s with host, others := fd :: s.others }
    | .blocked _ => none
  | .otherCloses fd =>
    if fd ∈ s.others then { s with others := s.others.erase fd }.afterClose (sysClose fd s.host) else none

def replaced (s : Serving) : HostAct → List ℤ
  | .accept | .piAccept => if s.connected then [s.host.ctx.s] else []
  | _ => []

def run (s : Serving) : List HostAct → Option (Serving × List ℤ)
  | [] => some (s, [])
  | act :: acts => do
    let next ← s.step act
    let (last, lost) ← next.run acts
    return (last, s.replaced act ++ lost)

def held (s : Serving) : List ℤ :=
  (if s.listening then [s.socket] else []) ++ if s.connected then [s.host.ctx.s] else []

/-- Every open descriptor has one owner, or it is a connection that was replaced. -/
structure Accounted (s : Serving) (lost : List ℤ) : Prop where
  perm : s.host.fds.Perm (s.held ++ (lost ++ s.others))
  nodup : s.host.fds.Nodup

variable {s s' : Serving} {lost : List ℤ}

lemma Accounted.opened (h : s.Accounted lost) {fd : ℤ} {lost' : List ℤ}
    (hfds : s'.host.fds = fd :: s.host.fds) (hfree : fd ∉ s.host.fds)
    (hperm : (fd :: (s.held ++ (lost ++ s.others))).Perm (s'.held ++ (lost' ++ s'.others))) :
    s'.Accounted lost' where
  perm := hfds ▸ (h.perm.cons fd).trans hperm
  nodup := hfds ▸ List.nodup_cons.mpr ⟨hfree, h.nodup⟩

lemma Accounted.closed (h : s.Accounted lost) {fd : ℤ} {lost' : List ℤ}
    (hfds : s'.host.fds = s.host.fds.erase fd)
    (hperm : (s.held ++ (lost ++ s.others)).Perm (fd :: (s'.held ++ (lost' ++ s'.others)))) :
    s'.Accounted lost' where
  perm := by
    have herase := (h.perm.trans hperm).erase fd
    rw [List.erase_cons_head] at herase
    rwa [hfds]
  nodup := hfds ▸ h.nodup.erase fd

lemma Accounted.listen (h : s.Accounted lost) {m : Kernel ℤ} (hl : s.listening = false)
    (hm : Triple (Stand s.host.fds s.host.ctx) m (Opens s.host.fds s.host.ctx) fun _ => True)
    (hs : s.afterListen (m s.host) = some s') : s'.Accounted lost := by
  have hspec := hm s.host ⟨rfl, rfl⟩
  cases hrun : m s.host with
  | blocked host =>
    rw [hrun] at hs
    cases hs
  | done rc host =>
    rw [hrun] at hs hspec
    obtain rfl := Option.some.inj hs
    rcases hspec with ⟨hfree, hnonneg, hfds, hctx⟩ | ⟨rfl, hfds, hctx⟩
    · refine h.opened hfds hfree ?_
      have hrc : rc ≠ -1 := by omega
      simp [held, hl, hctx, hrc]
    · refine ⟨?_, hfds ▸ h.nodup⟩
      have hperm := h.perm
      rw [held, hl] at hperm
      simpa [held, hfds, hctx] using hperm

lemma Accounted.accept (h : s.Accounted lost) {m : Kernel (ℤ × ℤ)} (hl : s.listening = true)
    (hm : Triple (Stand s.host.fds s.host.ctx) m (NewConnection s.host.fds s.host.ctx s.socket) fun _ => True)
    (hs : s.afterAccept (m s.host) = some s') :
    s'.Accounted (lost ++ if s.connected then [s.host.ctx.s] else []) := by
  have hspec := hm s.host ⟨rfl, rfl⟩
  cases hrun : m s.host with
  | blocked host =>
    rw [hrun] at hs
    cases hs
  | done r host =>
    rw [hrun] at hs hspec
    obtain rfl := Option.some.inj hs
    rcases hspec with ⟨hfree, hnonneg, hsocket, hfds, hctx⟩ | ⟨rfl, hfds, hctx⟩
    · refine h.opened hfds hfree (List.perm_iff_count.mpr fun fd => ?_)
      have hrc : r.1 ≠ -1 := by omega
      simp only [held, hl, hctx, hsocket, hrc, ne_eq, not_false_eq_true, decide_true, if_true,
        List.count_append, List.count_cons, List.count_nil]
      omega
    · refine h.closed hfds (List.perm_iff_count.mpr fun fd => ?_)
      simp only [held, hl, ne_eq, not_true_eq_false, decide_false, if_true, if_false, Bool.false_eq_true,
        List.count_append, List.count_cons, List.count_nil]
      omega

lemma Accounted.close (h : s.Accounted lost) {fd : ℤ} {m : Kernel Unit} {s₁ : Serving}
    (hs : s₁.afterClose (m s.host) = some s') (hhost : s₁.host = s.host)
    (hm : Triple (Stand s.host.fds s.host.ctx) m (fun _ => Stand (s.host.fds.erase fd) s.host.ctx) fun _ => True)
    (hperm : (s.held ++ (lost ++ s.others)).Perm (fd :: (s₁.held ++ (lost ++ s₁.others)))) :
    s'.Accounted lost := by
  have hspec := hm s.host ⟨rfl, rfl⟩
  cases hrun : m s.host with
  | blocked host =>
    rw [hrun] at hs
    cases hs
  | done r host =>
    rw [hrun] at hs hspec
    obtain rfl := Option.some.inj hs
    obtain ⟨hfds, hctx⟩ := hspec
    refine h.closed hfds ?_
    rw [held, held, hhost] at hperm
    simpa only [held, hctx] using hperm

lemma Accounted.step (h : s.Accounted lost) {act : HostAct} (hs : s.step act = some s') :
    s'.Accounted (lost ++ s.replaced act) := by
  cases act with
  | listen =>
    simp only [Serving.step, Option.ite_none_left_eq_some, Bool.not_eq_true] at hs
    exact (List.append_nil lost).symm ▸ h.listen hs.1 modbusTcpListen_opens hs.2
  | piListen =>
    simp only [Serving.step, Option.ite_none_left_eq_some, Bool.not_eq_true] at hs
    exact (List.append_nil lost).symm ▸ h.listen hs.1 modbusTcpPiListen_opens hs.2
  | accept =>
    simp only [Serving.step, Option.ite_none_right_eq_some] at hs
    exact h.accept hs.1 (modbusTcpAccept_ends _) hs.2
  | piAccept =>
    simp only [Serving.step, Option.ite_none_right_eq_some] at hs
    exact h.accept hs.1 (modbusTcpPiAccept_ends _) hs.2
  | hangUp =>
    simp only [Serving.step, Option.ite_none_right_eq_some] at hs
    refine (List.append_nil lost).symm ▸ h.close hs.2 rfl tcpHangUp_closes ?_
    simp only [held, hs.1, if_true, Bool.false_eq_true, if_false, List.append_nil, List.append_assoc,
      List.singleton_append]
    exact List.perm_middle
  | closeSocket =>
    simp only [Serving.step, Option.ite_none_right_eq_some] at hs
    refine (List.append_nil lost).symm ▸ h.close hs.2 rfl (sysClose_closes _) ?_
    simp only [held, hs.1, if_true, Bool.false_eq_true, if_false, List.nil_append,
      List.singleton_append]
    rfl
  | otherOpens =>
    obtain rfl := Option.some.inj hs
    refine (List.append_nil lost).symm ▸ h.opened rfl (lowestFree_spec s.host.fds).1 ?_
    rw [← List.append_assoc, ← List.append_assoc]
    exact List.perm_middle.symm
  | otherCloses fd =>
    simp only [Serving.step, Option.ite_none_right_eq_some] at hs
    refine (List.append_nil lost).symm ▸ h.close hs.2 rfl (sysClose_closes _) ?_
    have hothers := (List.perm_cons_erase hs.1).append_left (s.held ++ lost)
    rw [List.append_assoc] at hothers
    refine hothers.trans (List.perm_middle.trans ?_)
    rw [List.append_assoc]
    rfl

lemma Accounted.run (h : s.Accounted lost) {acts : List HostAct} {replacedOnes : List ℤ}
    (hs : s.run acts = some (s', replacedOnes)) : s'.Accounted (lost ++ replacedOnes) := by
  induction acts generalizing s lost replacedOnes with
  | nil =>
    obtain ⟨rfl, rfl⟩ := Prod.mk.inj (Option.some.inj hs)
    rwa [List.append_nil]
  | cons act acts ih =>
    obtain ⟨next, hnext, hs⟩ := Option.bind_eq_some_iff.mp hs
    obtain ⟨⟨last, lost'⟩, hlast, hs⟩ := Option.bind_eq_some_iff.mp hs
    obtain ⟨rfl, rfl⟩ := Prod.mk.inj (Option.some.inj hs)
    rw [← List.append_assoc]
    exact ih (h.step hnext) hlast

structure Started (s : Serving) : Prop where
  listening : s.listening = false
  connected : s.connected = false
  fds : s.host.fds = s.others
  nodup : s.others.Nodup

/-- In every run each open descriptor of the process belongs to one owner: it is the listening socket or
the connection that the program holds, or one of the others of the process, or a connection that an
`accept` has replaced, and then nobody can close it any more. -/
theorem descriptors_accounted (h : s.Started) {acts : List HostAct}
    (hs : s.run acts = some (s', lost)) :
    s'.host.fds.Perm (s'.held ++ (lost ++ s'.others)) ∧ s'.host.fds.Nodup := by
  have hstart : s.Accounted [] := by
    refine ⟨?_, h.fds ▸ h.nodup⟩
    rw [held, h.listening, h.connected, h.fds]
    rfl
  have hend := hstart.run hs
  exact ⟨hend.perm, hend.nodup⟩

def standard : Serving where
  host := ⟨modbusNewTcp, .system 0, [2, 1, 0], List.replicate 20 {}⟩
  socket := -1
  listening := false
  connected := false
  others := [2, 1, 0]

def acceptingTwice : List HostAct :=
  [.listen, .accept, .otherOpens, .accept, .hangUp, .closeSocket, .otherCloses 2]

theorem descriptors_accounted_example : ∃ s' lost, standard.run acceptingTwice = some (s', lost) ∧
    lost = [4] ∧ s'.host.fds.Perm (s'.held ++ (lost ++ s'.others)) ∧ s'.host.fds.Nodup := by
  have hsome : (standard.run acceptingTwice).isSome := by decide
  obtain ⟨⟨s', lost⟩, hs⟩ := Option.isSome_iff_exists.mp hsome
  have hlost : (standard.run acceptingTwice).map Prod.snd = some [4] := by decide
  rw [hs] at hlost
  exact ⟨s', lost, hs, Option.some.inj hlost, descriptors_accounted ⟨rfl, rfl, rfl, by decide⟩ hs⟩

end Serving

end LibModbus
