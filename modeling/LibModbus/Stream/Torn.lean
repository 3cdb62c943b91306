import LibModbus.Client.Storage
import LibModbus.Stream.InFrame
import LibModbus.Stream.Serving
import LibModbus.Stream.Stores

/-! A client whose messages may be cut off by `send()`, and the server that reads them one after the
other from the stream. -/

namespace LibModbus

open Library Library.Prog

def acceptance : List Response → ℕ
  | [] => 0
  | r :: _ =>
    match r.send with
    | .ok n => n
    | .error _ => 0

/-- An operation of the client, with whatever it finds on its side of the link and the answers of the
operating system. Its `send()` does not fail, but may be short. -/
structure Issue where
  call : ClientCall
  dest : Dest
  stack : Mem UInt8
  rx : List UInt8
  script : List Response
  accepted : ∀ r ∈ script.head?, ∃ n, 0 < n ∧ r.send = .ok n

namespace Issue

def length (e : Issue) : ℕ :=
  if e.call.operation.tooMany then 0 else e.call.pdu.length + 7

def taken (e : Issue) : ℕ := min e.length (acceptance e.script)

def Cut (e : Issue) : Prop := 0 < e.taken ∧ e.taken < e.length

/-- The addresses, the value and the counts of a call that sends anything are what its message can
hold. -/
def Proper (e : Issue) : Prop := e.taken = 0 ∨ e.call.Addressed ∧ e.call.CountsFrom 0

end Issue

structure Round where
  buf : Mem UInt8
  script : List Response
  flows : Flows callsNeeded script

inductive Event where
  | issue (e : Issue)
  | round (r : Round)

namespace Event

def taken : Event → ℕ
  | issue e => e.taken
  | round _ => 0

def Cut : Event → Prop
  | issue e => e.Cut
  | round _ => False

def Proper : Event → Prop
  | issue e => e.Proper
  | round _ => True

def calls : Event → List ClientCall
  | issue e => [e.call]
  | round _ => []

end Event

/-- Client and server, the calls the client made, and the accesses to the tables so far. -/
structure Joint where
  client : World
  server : World
  mapping : Mapping
  issued : List ClientCall
  accesses : List Access

namespace Joint

/-- A server without a whole request before it goes on waiting. -/
def step (j : Joint) : Event → Joint
  | .issue e =>
    let client := (e.call.operation.run e.stack e.dest
      { j.client with rx := e.rx, tx := [], script := e.script }).state
    { j with
      client
      server := { j.server with rx := j.server.rx ++ client.tx }
      issued := j.issued ++ [e.call] }
  | .round r =>
    match serveRequest r.buf j.mapping { j.server with script := r.script } with
    | .done (_, reply) server =>
      { j with server, mapping := reply.mapping, accesses := j.accesses ++ reply.accesses }
    | .blocked _ => j

def run (j : Joint) (events : List Event) : Joint := events.foldl step j

def StoresAsked (j : Joint) : Prop :=
  ∀ t i v, .store t i v ∈ j.accesses → ∃ call ∈ j.issued, call.Asks t i v

structure Fresh (j : Joint) : Prop where
  tcp : j.client.ctx.backend ≠ .rtu
  same : j.server.ctx.backend = j.client.ctx.backend
  rx : j.server.rx = []
  accesses : j.accesses = []

end Joint

/-- Behind a message that was cut off nothing is sent any more. -/
def Untorn (events : List Event) : Prop := events.Pairwise fun e f => e.Cut → f.taken = 0

section Sending

lemma osSend_accepted {w : World} {r : Response} {rest : List Response} (hs : w.script = r :: rest)
    {n : ℕ} (hr : r.send = .ok n) (fd : ℤ) (msg : List UInt8) :
    osSend fd msg w = .done ((msg.take n).length : ℤ)
      { w with script := rest, tx := w.tx ++ msg.take n, trace := w.trace ++ [.send fd msg] } := by
  simp only [osSend, record, ask, bind_apply, modify_apply, hs, hr, pure_apply]

lemma sendMsg_state {msg : List UInt8} {w : World}
    (ha : ∀ r ∈ w.script.head?, ∃ n, 0 < n ∧ r.send = .ok n) :
    (sendMsg msg w).state.ctx = w.ctx ∧ (sendMsg msg w).state.tx =
      w.tx ++ (sendMsgPre w.ctx.backend msg).take (acceptance w.script) := by
  rw [sendMsg, bind_getCtx]
  cases hs : w.script with
  | nil =>
    have hstep : sendMsgStep (sendMsgPre w.ctx.backend msg) () w =
        .blocked { w with trace := w.trace ++ [.send w.ctx.s (sendMsgPre w.ctx.backend msg)] } := by
      simp only [sendMsgStep, backendSend, bind_assoc_apply, bind_getCtx]
      refine bind_blocked ?_ _
      simp only [osSend, record, ask, bind_apply, modify_apply, hs]
    have hloop : loop (sendMsgStep (sendMsgPre w.ctx.backend msg)) () w = _ :=
      iterate_blocked _ hstep
    rw [bind_blocked hloop]
    exact ⟨rfl, by simp [acceptance]⟩
  | cons r rest =>
    obtain ⟨n, -, hr⟩ := ha r (by rw [hs]; rfl)
    have hstep : sendMsgStep (sendMsgPre w.ctx.backend msg) () w =
        .done (.inr (((sendMsgPre w.ctx.backend msg).take n).length : ℤ))
          { w with
            script := rest
            tx := w.tx ++ (sendMsgPre w.ctx.backend msg).take n
            trace := w.trace ++ [.send w.ctx.s (sendMsgPre w.ctx.backend msg)] } := by
      simp only [sendMsgStep, backendSend, bind_assoc_apply, bind_getCtx]
      rw [bind_done (osSend_accepted hs hr _ _), bind_getCtx, if_neg (by omega)]
      rfl
    have hloop : loop (sendMsgStep (sendMsgPre w.ctx.backend msg)) () w = _ := iterate_inr _ hstep
    rw [bind_done hloop]
    have hacc : acceptance (r :: rest) = n := by simp only [acceptance, hr]
    rw [hacc]
    split_ifs <;> exact ⟨rfl, rfl⟩

variable {e : Issue} {w : World}

lemma Issue.issue_state (hs : w.script = e.script) :
    (e.call.operation.issue w).state.ctx.backend = w.ctx.backend ∧
      (e.call.operation.issue w).state.tx = w.tx ++ (e.call.request w.ctx).take
        (if e.call.operation.tooMany then 0 else acceptance e.script) := by
  unfold Operation.issue
  split_ifs with h
  · exact ⟨rfl, by simp [setErrno, bind_apply]⟩
  · simp only [bind_getCtx, ClientCall.build_eq, bind_modify_apply]
    have hb := nextRequest_backend w.ctx
    obtain ⟨hctx, htx⟩ := @sendMsg_state (requestHeader w.ctx ++ e.call.pdu)
      { w with ctx := nextRequest w.ctx } (by rw [hs]; exact e.accepted)
    rw [hctx, htx]
    dsimp only
    rw [hb, hs]
    exact ⟨rfl, rfl⟩

lemma request_length_tcp {call : ClientCall} {ctx : Modbus} (hb : ctx.backend ≠ .rtu) :
    (call.request ctx).length = call.pdu.length + 7 := by
  rw [ClientCall.request, sendMsgPre_length, List.length_append, requestHeader_length]
  cases h : ctx.backend with
  | rtu => contradiction
  | tcp | tcpPi => simp [Nat.add_comm]

lemma Issue.run_state (hb : w.ctx.backend ≠ .rtu) (hs : w.script = e.script) :
    (e.call.operation.run e.stack e.dest w).state.ctx.backend = w.ctx.backend ∧
      (e.call.operation.run e.stack e.dest w).state.tx =
        w.tx ++ (e.call.request w.ctx).take e.taken := by
  obtain ⟨hctx, htx⟩ := e.issue_state hs
  have htake : (e.call.request w.ctx).take
      (if e.call.operation.tooMany then 0 else acceptance e.script) =
      (e.call.request w.ctx).take e.taken := by
    unfold Issue.taken Issue.length
    split_ifs
    · rw [Nat.zero_min]
    · rw [← request_length_tcp hb, List.take_eq_take_iff]
      omega
  rw [htake] at htx
  unfold Operation.run
  cases hi : e.call.operation.issue w with
  | blocked w' =>
    rw [hi] at hctx htx
    rw [bind_blocked hi]
    exact ⟨hctx, htx⟩
  | done r w' =>
    rw [hi] at hctx htx
    rw [bind_done hi]
    have hk := confirm_keeps e.call.operation e.stack r.1 r.2 e.dest w'
    exact ⟨hk.config.backend.trans hctx, hk.tx.trans htx⟩

end Sending

abbrev Sending := ClientCall × Modbus

structure Queued (j : Joint) (pending : List Sending) (torn : List UInt8) : Prop where
  tcp : j.client.ctx.backend ≠ .rtu
  same : j.server.ctx.backend = j.client.ctx.backend
  rx : j.server.rx = (pending.map fun p => p.1.request p.2).flatten ++ torn
  known : ∀ p ∈ pending, p.1 ∈ j.issued ∧ p.1.Addressed ∧ p.1.CountsFrom 0 ∧
    p.2.backend = j.server.ctx.backend
  cut : ∃ frame, IsFrame j.server.ctx.backend .indication frame ∧ torn <+: frame ∧
    torn.length < frame.length
  asked : j.StoresAsked

section Steps

variable {j : Joint} {pending : List Sending} {torn : List UInt8}

lemma Joint.Fresh.queued (h : j.Fresh) : Queued j [] [] where
  tcp := h.tcp
  same := h.same
  rx := h.rx
  known p hp := absurd hp List.not_mem_nil
  cut := by
    have hframe := @ClientCall.request_frame .reportSlaveId j.server.ctx trivial
    exact ⟨_, hframe, List.nil_prefix, hframe.pos⟩
  asked t i v hm := by
    rw [h.accesses] at hm
    exact absurd hm List.not_mem_nil

lemma Joint.step_issue (hb : j.client.ctx.backend ≠ .rtu) (e : Issue) :
    ∃ client : World, client.ctx.backend = j.client.ctx.backend ∧ j.step (.issue e) = { j with
      client
      server := { j.server with
        rx := j.server.rx ++ (e.call.request j.client.ctx).take e.taken }
      issued := j.issued ++ [e.call] } := by
  obtain ⟨hctx, htx⟩ := @Issue.run_state e
    { j.client with rx := e.rx, tx := [], script := e.script } hb rfl
  refine ⟨_, hctx, ?_⟩
  rw [Joint.step, htx]
  rfl

lemma Joint.StoresAsked.issue (h : j.StoresAsked) (e : Issue) :
    (j.step (.issue e)).StoresAsked := by
  intro t i v hm
  obtain ⟨call, hc, hask⟩ := h t i v hm
  exact ⟨call, List.mem_append_left _ hc, hask⟩

lemma Queued.issue (h : Queued j pending torn) {e : Issue} (he : e.Proper)
    (hmute : torn ≠ [] → e.taken = 0) : ∃ pending' torn', Queued (j.step (.issue e)) pending' torn' ∧
      (torn' ≠ [] → torn ≠ [] ∨ e.Cut) := by
  have hasked := h.asked.issue e
  obtain ⟨client, hctx, hstep⟩ := Joint.step_issue h.tcp e
  rw [hstep] at hasked ⊢
  have htcp : client.ctx.backend ≠ .rtu := by
    rw [hctx]
    exact h.tcp
  have hsame : j.server.ctx.backend = client.ctx.backend := h.same.trans hctx.symm
  have hknown : ∀ p ∈ pending, p.1 ∈ j.issued ++ [e.call] ∧ p.1.Addressed ∧ p.1.CountsFrom 0 ∧
      p.2.backend = j.server.ctx.backend := fun p hp => by
    obtain ⟨hi, hrest⟩ := h.known p hp
    exact ⟨List.mem_append_left _ hi, hrest⟩
  have hlen : e.taken ≤ e.length := Nat.min_le_left _ _
  rcases Nat.eq_zero_or_pos e.taken with h0 | hpos
  · refine ⟨pending, torn, ⟨htcp, hsame, ?_, hknown, h.cut, hasked⟩, Or.inl⟩
    rw [h0, List.take_zero, List.append_nil]
    exact h.rx
  obtain rfl : torn = [] := by
    by_contra hne
    exact absurd (hmute hne) hpos.ne'
  obtain ⟨haddr, hcount⟩ := he.resolve_left hpos.ne'
  have hlength : e.length = (e.call.request j.client.ctx).length := by
    rw [request_length_tcp h.tcp, Issue.length, if_neg]
    rw [ClientCall.tooMany_false hcount]
    decide
  have hframe := @ClientCall.request_frame e.call j.client.ctx hcount
  rcases Nat.lt_or_ge e.taken e.length with hcut | hwhole
  · refine ⟨pending, (e.call.request j.client.ctx).take e.taken,
      ⟨htcp, hsame, ?_, hknown, ⟨_, h.same ▸ hframe, List.take_prefix _ _, ?_⟩, hasked⟩,
      fun _ => .inr ⟨hpos, hcut⟩⟩
    · rw [h.rx, List.append_nil]
    · rw [List.length_take]
      omega
  · refine ⟨pending ++ [(e.call, j.client.ctx)], [], ⟨htcp, hsame, ?_, ?_, h.cut, hasked⟩,
      fun hne => absurd rfl hne⟩
    · rw [h.rx, List.append_nil, List.append_nil, List.take_of_length_le (by omega), List.map_append,
        List.flatten_append]
      simp
    · intro p hp
      rcases List.mem_append.mp hp with hp | hp
      · exact hknown p hp
      · obtain rfl := List.mem_singleton.mp hp
        exact ⟨List.mem_append_right _ (List.mem_singleton_self _), haddr, hcount, h.same.symm⟩

lemma serveRequest_pending {p : Sending} {w : World} {mb : Mapping} {rest : List UInt8}
    (htcp : w.ctx.backend ≠ .rtu) (haddr : p.1.Addressed) (hcount : p.1.CountsFrom 0)
    (hb : p.2.backend = w.ctx.backend) (hrx : w.rx = p.1.request p.2 ++ rest) (buf : Mem UInt8)
    (hf : Flows callsNeeded w.script) : ∃ rc reply w', serveRequest buf mb w = .done (rc, reply) w' ∧
      w'.ctx = w.ctx ∧ w'.rx = rest ∧ ∀ t i v, .store t i v ∈ reply.accesses → p.1.Asks t i v := by
  have hframe := @ClientCall.request_frame p.1 p.2 hcount
  rw [hb] at hframe
  have hm := Mem.holds_write_self buf (p.1.request p.2)
  have hpdu := holdsPdu_sendMsgPre (requestHeader_length p.2) hm
  rw [hb] at hpdu
  obtain ⟨hlim, hlow, hans⟩ := reads_within_limits hcount hpdu mb
  obtain ⟨rsp, hrsp⟩ := @replyBuild_some _ _ (p.1.request p.2).length mb hans
  obtain ⟨header, pdu, hshape⟩ := replyBuild_shaped (hframe.length hm).symm hlim hlow rsp hrsp
  have hneed : 2 * (p.1.request p.2).length + (0 + 1) ≤ callsNeeded := by
    have := hframe.allowed.trans (maxAduLength_le _)
    simp only [callsNeeded]
    omega
  obtain ⟨w', hserve, hctx, hrx', -⟩ := serveRequest_flows hframe hrx (intact_tcp htcp _)
    (fun hr => absurd hr htcp) buf (hf.mono hneed) hrsp
    (hshape.frame.allowed.trans (maxAduLength_le _))
  exact ⟨_, _, w', hserve, hctx, hrx', fun t i v hs => replyBuild_asked haddr hcount hpdu hs⟩

lemma serveRequest_part {w : World} {mb : Mapping} {frame : List UInt8}
    (htcp : w.ctx.backend ≠ .rtu) (hframe : IsFrame w.ctx.backend .indication frame)
    (hp : w.rx <+: frame) (hlt : w.rx.length < frame.length) (buf : Mem UInt8)
    (hf : Flows callsNeeded w.script) : ∃ w', serveRequest buf mb w = .blocked w' := by
  have hneed : 2 * frame.length ≤ callsNeeded := by
    have := hframe.allowed.trans (maxAduLength_le _)
    simp only [callsNeeded]
    omega
  have hi (m : Mem UInt8) (n : ℕ) : integrity w.ctx m n ≠ -1 := by
    rw [integrity_tcp htcp]
    omega
  obtain ⟨w', hr⟩ := receiveMsg_part hframe hp hlt hi buf (hf.mono hneed)
  refine ⟨w', bind_blocked ?_ _⟩
  rw [modbusReceive, bind_getCtx]
  cases hb : w.ctx.backend with
  | rtu => contradiction
  | tcp | tcpPi => exact hr

lemma Queued.round (h : Queued j pending torn) (r : Round) :
    ∃ pending', Queued (j.step (.round r)) pending' torn := by
  have htcp : j.server.ctx.backend ≠ .rtu := by
    rw [h.same]
    exact h.tcp
  cases pending with
  | nil =>
    obtain ⟨frame, hframe, hp, hlt⟩ := h.cut
    have hrx : j.server.rx = torn := h.rx
    rw [← hrx] at hp hlt
    obtain ⟨w', hserve⟩ := @serveRequest_part { j.server with script := r.script } j.mapping frame
      htcp hframe hp hlt r.buf r.flows
    refine ⟨[], ?_⟩
    rw [Joint.step, hserve]
    exact h
  | cons p pending =>
    obtain ⟨hissued, haddr, hcount, hb⟩ := h.known p List.mem_cons_self
    obtain ⟨rc, reply, w', hserve, hctx, hrx, hasks⟩ :=
      @serveRequest_pending p { j.server with script := r.script } j.mapping _ htcp haddr hcount hb
        (by rw [h.rx, List.map_cons, List.flatten_cons, List.append_assoc]) r.buf r.flows
    refine ⟨pending, ?_⟩
    rw [Joint.step, hserve]
    have hbackend : w'.ctx.backend = j.server.ctx.backend := by rw [hctx]
    refine ⟨h.tcp, hbackend.trans h.same, hrx, fun q hq => ?_, ?_, fun t i v hm => ?_⟩
    · obtain ⟨h₁, h₂, h₃, h₄⟩ := h.known q (List.mem_cons_of_mem _ hq)
      exact ⟨h₁, h₂, h₃, h₄.trans hbackend.symm⟩
    · dsimp only
      rw [hbackend]
      exact h.cut
    · rcases List.mem_append.mp hm with hm | hm
      · exact h.asked t i v hm
      · exact ⟨p.1, hissued, hasks t i v hm⟩

lemma Queued.step (h : Queued j pending torn) {e : Event} (he : e.Proper)
    (hmute : torn ≠ [] → e.taken = 0) : ∃ pending' torn', Queued (j.step e) pending' torn' ∧
      (torn' ≠ [] → torn ≠ [] ∨ e.Cut) := by
  cases e with
  | issue e => exact h.issue he hmute
  | round r =>
    obtain ⟨pending', h'⟩ := h.round r
    exact ⟨pending', torn, h', Or.inl⟩

lemma Queued.run {events : List Event} (h : Queued j pending torn)
    (hproper : ∀ e ∈ events, e.Proper) (huntorn : Untorn events)
    (hmute : torn ≠ [] → ∀ e ∈ events, e.taken = 0) : (j.run events).StoresAsked := by
  induction events generalizing j pending torn with
  | nil => exact h.asked
  | cons e events ih =>
    obtain ⟨hcut, huntorn⟩ := List.pairwise_cons.mp huntorn
    obtain ⟨pending', torn', h', htorn⟩ := h.step (hproper e List.mem_cons_self)
      fun hne => hmute hne e List.mem_cons_self
    refine ih h' (fun f hf => hproper f (List.mem_cons_of_mem _ hf)) huntorn fun hne f hf => ?_
    rcases htorn hne with hne | hc
    · exact hmute hne f (List.mem_cons_of_mem _ hf)
    · exact hcut f hf hc

end Steps

/-- As long as nothing is sent behind a message that was cut off, everything the server stores is
what some operation asked it to store there. -/
theorem stores_are_asked {j : Joint} (h : j.Fresh) {events : List Event}
    (hproper : ∀ e ∈ events, e.Proper) (huntorn : Untorn events) : (j.run events).StoresAsked :=
  h.queued.run hproper huntorn fun hne => absurd rfl hne

lemma Joint.run_issued (j : Joint) (events : List Event) :
    (j.run events).issued = j.issued ++ events.flatMap Event.calls := by
  induction events generalizing j with
  | nil => exact (List.append_nil _).symm
  | cons e events ih =>
    have hstep : (j.step e).issued = j.issued ++ e.calls := by
      cases e with
      | issue e => rfl
      | round r =>
        simp only [Joint.step, Event.calls, List.append_nil]
        split <;> rfl
    rw [List.flatMap_cons, ← List.append_assoc, ← hstep]
    exact ih (j.step e)

section Runs

def writeSeven (n : ℕ) (hn : 0 < n) : Issue where
  call := .writeRegister 0 7
  dest := ⟨fun _ => 0, fun _ => 0⟩
  stack := fun _ => 0
  rx := []
  script := [{ send := .ok n }]
  accepted r hr := by
    obtain rfl := Option.mem_some_iff.mp hr
    exact ⟨n, hn, rfl⟩

def serverRound : Round := ⟨fun _ => 0, List.replicate callsNeeded {}, flows_replicate _⟩

def connected : Joint :=
  ⟨.start modbusNewTcp [] [], .start modbusNewTcp [] [], fullTables, [], []⟩

lemma connected_fresh : connected.Fresh := ⟨by decide, rfl, rfl, rfl⟩

def cutTwice : List Event :=
  [.issue (writeSeven 11 (by decide)), .issue (writeSeven 12 (by decide)), .round serverRound]

/-- The first byte of the second request completes the first one: it is the low byte of the value. -/
theorem torn_write_stored : connected.Fresh ∧ (∀ e ∈ cutTwice, e.Proper) ∧
    ¬(connected.run cutTwice).StoresAsked := by
  refine ⟨connected_fresh, fun e he => ?_, fun h => ?_⟩
  · simp only [cutTwice, List.mem_cons, List.not_mem_nil, or_false] at he
    rcases he with rfl | rfl | rfl
    · exact .inr ⟨by decide, trivial⟩
    · exact .inr ⟨by decide, trivial⟩
    · trivial
  · obtain ⟨call, hc, hask⟩ := h .registers 0 0 (by decide +kernel)
    have hissued : (connected.run cutTwice).issued = [.writeRegister 0 7, .writeRegister 0 7] :=
      Joint.run_issued _ _
    rw [hissued, List.mem_pair, or_self] at hc
    rw [hc] at hask
    exact absurd hask.2 (by decide)

theorem stores_are_asked_example :
    (connected.run [.issue (writeSeven 12 (by decide)), .issue (writeSeven 11 (by decide)),
      .round serverRound]).StoresAsked := by
  refine stores_are_asked connected_fresh (fun e he => ?_) ?_
  · simp only [List.mem_cons, List.not_mem_nil, or_false] at he
    rcases he with rfl | rfl | rfl
    · exact .inr ⟨by decide, trivial⟩
    · exact .inr ⟨by decide, trivial⟩
    · trivial
  · have hwhole : ¬(Event.issue (writeSeven 12 (by decide))).Cut :=
      fun h => absurd h.2 (by decide)
    refine .cons (fun f _ hcut => absurd hcut hwhole) (.cons (fun f hf _ => ?_) (.cons ?_ .nil))
    · obtain rfl := List.mem_singleton.mp hf
      rfl
    · exact fun f hf => absurd hf List.not_mem_nil

end Runs

end LibModbus
