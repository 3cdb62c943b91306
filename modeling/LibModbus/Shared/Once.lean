import LibModbus.Client.Answers
import LibModbus.Shared.Exchanges

/-! How often the server carries out an operation whose message the client may have had to send again,
and whose answer may be lost. -/

namespace LibModbus

open Library Library.Prog

section Sending

structure Withheld (w w' : World) : Prop where
  unsent : Unsent w w'
  shrinks : Shrinks w w'

instance : Quiet Withheld where
  refl w := ⟨Std.Refl.refl w, Std.Refl.refl w⟩
  trans u v w h h' := ⟨IsTrans.trans u v w h.1 h'.1, IsTrans.trans u v w h.2 h'.2⟩
  script w x h := ⟨Silent.script w x h, Silent.script w x h⟩
  errno w x := ⟨Silent.errno w x, Silent.errno w x⟩
  call w c h := ⟨Silent.call w c h, Silent.call w c h⟩
  rx w x := ⟨Quiet.rx w x, Quiet.rx w x⟩
  socket w x := ⟨Quiet.socket w x, Quiet.socket w x⟩

/-- A send takes the whole message, or it fails. -/
def Wholesale (script : List Response) : Prop := ∀ r ∈ script, ∀ n, r.send = .ok n → maxMessageLength ≤ n

variable {w₀ : World} {msg : List UInt8}

def SentOnce (w₀ : World) (msg : List UInt8) (rc : ℤ) (w : World) : Prop :=
  rc = -1 ∧ Withheld w₀ w ∨ rc = msg.length ∧ SameConfig w₀ w ∧ w.tx = w₀.tx ++ msg

lemma osSend_whole (hw : Wholesale w₀.script) (hmsg : msg.length ≤ maxMessageLength) (fd : ℤ) :
    Triple (Withheld w₀) (osSend fd msg) (SentOnce w₀ msg) (Withheld w₀) := by
  intro w hrest
  have hrecord : Withheld w₀ { w with trace := w.trace ++ [.send fd msg] } := by
    obtain ⟨⟨hconfig, htx⟩, hshrinks⟩ := hrest
    exact ⟨⟨hconfig, htx⟩, hshrinks⟩
  rw [osSend, record, bind_modify_apply, bind_apply]
  unfold ask
  cases hs : w.script with
  | nil =>
    dsimp only
    exact hs ▸ hrecord
  | cons r rest =>
    have hrest' : Withheld w₀ { w with script := rest, trace := w.trace ++ [.send fd msg] } := by
      obtain ⟨hunsent, hshrinks⟩ := hrecord
      exact ⟨⟨hunsent.config, hunsent.tx⟩, (hs ▸ List.suffix_cons r rest).trans hshrinks⟩
    dsimp only
    cases hsend : r.send with
    | error e => exact .inl ⟨rfl, IsTrans.trans _ _ _ hrest' (Silent.errno _ e)⟩
    | ok n =>
      have hr : r ∈ w₀.script := hrest.shrinks.subset (hs ▸ List.mem_cons_self)
      have htake : msg.take n = msg := List.take_of_length_le (hmsg.trans (hw r hr n hsend))
      refine .inr ⟨by rw [htake], hrest'.unsent.config, ?_⟩
      dsimp only
      rw [htake, hrest.unsent.tx]

lemma sendMsgStep_whole (hw : Wholesale w₀.script) (hmsg : msg.length ≤ maxMessageLength) (u : Unit) :
    Triple (Withheld w₀) (sendMsgStep msg u)
      (fun r w => r.elim (fun _ => Withheld w₀ w) (SentOnce w₀ msg · w)) (Withheld w₀) := by
  refine .bind (.bind (Neutral.getCtx.maintains w₀) fun ctx => osSend_whole hw hmsg ctx.s) fun rc => ?_
  refine .bind (Q := fun _ => SentOnce w₀ msg rc) (fun w h => h) fun ctx => ?_
  refine .ite (fun hfailed => ?_) fun _ => .pure fun _ h => h
  have hrest : ∀ w, SentOnce w₀ msg rc w → Withheld w₀ w := by
    rintro w (⟨-, h⟩ | ⟨h, -⟩)
    · exact h
    · omega
  refine Triple.pre ?_ hrest
  refine .bind (Neutral.getErrno.maintains w₀) fun e => .ite (fun _ => ?_) fun _ => ?_
  · exact .bind (Neutral.reconnect.maintains w₀) fun _ => .bind ((Neutral.setErrno e).maintains w₀) fun _ =>
      .pure fun _ h => h
  · exact .bind Attached.sleepAndFlush fun _ => .bind ((Neutral.setErrno e).maintains w₀) fun _ =>
      .pure fun _ h => h

lemma sendMsg_once (hw : Wholesale w₀.script)
    (hmsg : (sendMsgPre w₀.ctx.backend msg).length ≤ maxMessageLength) :
    Triple (w₀ = ·) (sendMsg msg)
      (fun r w => SentOnce w₀ (sendMsgPre w₀.ctx.backend msg) r.1 w) (Withheld w₀) := by
  rintro _ rfl
  rw [sendMsg, bind_getCtx]
  refine Triple.bind (Triple.iterate (I := fun _ => Withheld w₀) (Q := SentOnce w₀ (sendMsgPre w₀.ctx.backend msg))
    (sendMsgStep_whole hw hmsg) (fun _ _ h => h) _ _) (fun rc => ?_) w₀ (Std.Refl.refl w₀)
  refine .ite (fun hcut => ?_) fun _ => .pure fun _ h => h
  rintro w (⟨rfl, -⟩ | ⟨rfl, -⟩)
  · exact absurd hcut.1 (by decide)
  · exact absurd rfl hcut.2

end Sending

section Operations

variable {call : ClientCall} {w : World}

structure Issues (call : ClientCall) (w : World) (out : Outcome World (ℤ × Dest)) (sent : Prop) : Prop where
  config : SameConfig { w with ctx := nextRequest w.ctx } out.state
  sends : sent → out.state.tx = w.tx ++ call.request w.ctx
  keeps : ¬sent → out.state.tx = w.tx
  fails : ¬sent → ∀ r ∈ out.value, r.1 = -1

lemma run_once (hc : call.CountsFrom 0) (hw : Wholesale w.script) (stack : Mem UInt8) (dest : Dest) :
    ∃ sent, Issues call w (call.operation.run stack dest w) sent := by
  have hb : (nextRequest w.ctx).backend = w.ctx.backend := nextRequest_backend w.ctx
  have hissue := ClientCall.issue_eq (ClientCall.tooMany_false hc) w
  have hshort : (sendMsgPre (nextRequest w.ctx).backend (requestHeader w.ctx ++ call.pdu)).length ≤
      maxMessageLength := by
    rw [hb]
    exact ClientCall.request_length hc
  have hsend := @sendMsg_once { w with ctx := nextRequest w.ctx } (requestHeader w.ctx ++ call.pdu) hw hshort
  rw [Operation.run]
  cases hout : sendMsg (requestHeader w.ctx ++ call.pdu) { w with ctx := nextRequest w.ctx } with
  | blocked v =>
    have hrest := hsend.blocked rfl hout
    rw [bind_blocked (hissue.trans hout)]
    exact ⟨False, hrest.unsent.config, False.elim, fun _ => hrest.unsent.tx, fun _ => nofun⟩
  | done r v =>
    rw [bind_done (hissue.trans hout)]
    have hkeeps := confirm_keeps call.operation stack r.1 r.2 dest v
    obtain ⟨hrc, hrest⟩ | ⟨-, hconfig, htx⟩ := hsend.done rfl hout
    · have hfail : call.operation.confirm stack r.1 r.2 dest v = .done (-1, dest) v := by
        rw [Operation.confirm, hrc, if_neg (by decide), if_pos rfl]
        rfl
      refine ⟨False, IsTrans.trans _ _ _ hrest.unsent.config hkeeps.config, False.elim,
        fun _ => hkeeps.tx.trans hrest.unsent.tx, fun _ r' hr' => ?_⟩
      have hvalue : r' ∈ (call.operation.confirm stack r.1 r.2 dest v).value := hr'
      rw [hfail] at hvalue
      obtain rfl := Option.some.inj hvalue
      rfl
    · refine ⟨True, IsTrans.trans _ _ _ hconfig hkeeps.config, fun _ => ?_, fun h => absurd trivial h,
        fun h => absurd trivial h⟩
      refine hkeeps.tx.trans (htx.trans ?_)
      dsimp only
      rw [hb]
      rfl

end Operations

/-- An operation with whatever its calls are answered, and whatever it finds on its side of the link. Of
the exchange only the call and its arrays count. -/
structure Try where
  exchange : Exchange
  script : List Response
  wholesale : Wholesale script
  rx : List UInt8

inductive Move where
  | call (t : Try)
  | round (r : Round)

abbrev Entry := Try × Option ℤ

namespace Entry

def request (e : Entry) : Request := e.1.exchange.request

def succeeded (e : Entry) : Bool := e.2.any (· ≠ -1)

end Entry

/-- Client and server, joined by a stream that keeps the order of all connections, and the operations so
far. -/
structure Relay where
  system : System
  log : List Entry

namespace Relay

def step (s : Relay) : Move → Relay
  | .call t =>
    let out := t.exchange.call.operation.run t.exchange.stack t.exchange.dest
      { s.system.client with rx := t.rx, tx := [], script := t.script }
    { system := { s.system with
        client := out.state
        server := { s.system.server with rx := s.system.server.rx ++ out.state.tx } }
      log := s.log ++ [(t, out.value.map Prod.fst)] }
  | .round r =>
    match serveRequest r.buf s.system.mapping { s.system.server with script := r.script } with
    | .blocked _ => s
    | .done (_, reply) server => { s with system := { s.system with server, mapping := reply.mapping } }

def run (s : Relay) (moves : List Move) : Relay := moves.foldl step s

structure Matched (sys : System) : Prop where
  backend : sys.server.ctx.backend = sys.client.ctx.backend
  slave : sys.client.ctx.backend = .rtu → sys.server.ctx.slave = sys.client.ctx.slave ∧
    0 ≤ sys.client.ctx.slave ∧ sys.client.ctx.slave < 256
  receiving : sys.server.ctx.confirmationToIgnore = false

structure Records (s : Relay) (bank : Bank) (executed : List Entry) (pending : List (Entry × Modbus)) :
    Prop where
  matched : Matched s.system
  rx : s.system.server.rx = (pending.map fun p => p.1.1.exchange.call.request p.2).flatten
  sender : ∀ p ∈ pending, p.2.backend = s.system.client.ctx.backend ∧ p.2.slave = s.system.client.ctx.slave
  logged : (executed ++ pending.map Prod.fst).Sublist s.log
  successes : (s.log.filter Entry.succeeded).Sublist (executed ++ pending.map Prod.fst)
  represents : Bank.Represents s.system.mapping (bank.run (executed.map Entry.request)).1

section Runs

variable {s : Relay} {bank : Bank} {executed : List Entry} {pending : List (Entry × Modbus)}

lemma Matched.moves {sys sys' : System} (h : Matched sys) (hserver : sys'.server.ctx = sys.server.ctx)
    (hback : sys'.client.ctx.backend = sys.client.ctx.backend)
    (hslave : sys'.client.ctx.slave = sys.client.ctx.slave) : Matched sys' := by
  refine ⟨?_, ?_, ?_⟩
  · rw [hserver, hback]
    exact h.backend
  · rw [hserver, hback, hslave]
    exact h.slave
  · rw [hserver]
    exact h.receiving

lemma Records.call (h : s.Records bank executed pending) (t : Try) :
    ∃ pending', (s.step (.call t)).Records bank executed pending' := by
  let w : World := { s.system.client with rx := t.rx, tx := [], script := t.script }
  let out := t.exchange.call.operation.run t.exchange.stack t.exchange.dest w
  let entry : Entry := (t, out.value.map Prod.fst)
  obtain ⟨sent, hissues⟩ := @run_once t.exchange.call w (CountsFrom_zero t.exchange.counts) t.wholesale
    t.exchange.stack t.exchange.dest
  have hback : out.state.ctx.backend = s.system.client.ctx.backend :=
    hissues.config.backend.trans (nextRequest_backend _)
  have hslave : out.state.ctx.slave = s.system.client.ctx.slave := by
    rw [hissues.config]
    exact nextRequest_slave _
  have hmatched : Matched (s.step (.call t)).system := h.matched.moves rfl hback hslave
  have hsender : ∀ p ∈ pending, p.2.backend = (s.step (.call t)).system.client.ctx.backend ∧
      p.2.slave = (s.step (.call t)).system.client.ctx.slave := fun p hp =>
    ⟨(h.sender p hp).1.trans hback.symm, (h.sender p hp).2.trans hslave.symm⟩
  have hserver : (s.step (.call t)).system.server.rx = s.system.server.rx ++ out.state.tx := rfl
  have hlog : (s.step (.call t)).log.filter Entry.succeeded =
      s.log.filter Entry.succeeded ++ [entry].filter Entry.succeeded := List.filter_append ..
  by_cases hsent : sent
  · have htx : out.state.tx = t.exchange.call.request s.system.client.ctx := hissues.sends hsent
    refine ⟨pending ++ [(entry, s.system.client.ctx)], hmatched, ?_, ?_, ?_, ?_, h.represents⟩
    · rw [hserver, h.rx, htx, List.map_append, List.flatten_append]
      simp [entry]
    · intro p hp
      rcases List.mem_append.mp hp with hp | hp
      · exact hsender p hp
      · rw [List.mem_singleton.mp hp]
        exact ⟨hback.symm, hslave.symm⟩
    · rw [List.map_append, ← List.append_assoc]
      exact h.logged.append (List.Sublist.refl _)
    · rw [hlog, List.map_append, ← List.append_assoc]
      exact h.successes.append List.filter_sublist
  · have htx : out.state.tx = [] := hissues.keeps hsent
    have hfailed : entry.succeeded = false := by
      have hfails : ∀ r ∈ out.value, r.1 = -1 := hissues.fails hsent
      cases hv : out.value with
      | none => simp [entry, Entry.succeeded, hv]
      | some r => simp [entry, Entry.succeeded, hv, hfails r hv]
    refine ⟨pending, hmatched, ?_, hsender, h.logged.trans (List.sublist_append_left _ _), ?_, h.represents⟩
    · rw [hserver, htx, List.append_nil, h.rx]
    · rw [hlog, List.filter_cons_of_neg (by simp [hfailed]), List.filter_nil, List.append_nil]
      exact h.successes

lemma bank_run_concat (bank : Bank) (requests : List Request) (request : Request) :
    (bank.run (requests ++ [request])).1 = ((bank.run requests).1.step request).1 := by
  induction requests generalizing bank with
  | nil => rfl
  | cons _ requests ih => exact ih _

lemma Records.round {p : Entry × Modbus} (h : s.Records bank executed (p :: pending)) (r : Round) :
    (s.step (.round r)).Records bank (executed ++ [p.1]) pending := by
  obtain ⟨hback, hslave⟩ := h.sender p List.mem_cons_self
  have hm := h.matched
  have hrx := h.rx
  rw [List.map_cons, List.flatten_cons] at hrx
  obtain ⟨w', reply, response, hserve, hrep, -, hctx, hrest, -⟩ := @serve_exchange
    { s.system.server with script := r.script } p.2 s.system.mapping _ p.1.1.exchange _
    (hm.backend.trans hback.symm)
    (ClientCall.request_intact (hm.backend.trans hback.symm) fun hr => by
      rw [hslave]
      exact hm.slave (hback.symm.trans hr))
    (fun _ => hm.receiving) h.represents hrx r rfl
  have hstep : s.step (.round r) = { s with system := { s.system with
      server := w', mapping := reply.mapping } } := by
    rw [Relay.step, hserve]
  have happend : executed ++ [p.1] ++ pending.map Prod.fst = executed ++ (p :: pending).map Prod.fst := by
    rw [List.append_assoc, List.map_cons, List.singleton_append]
  rw [hstep]
  refine ⟨hm.moves hctx rfl rfl, hrest, fun q hq => h.sender q (List.mem_cons_of_mem _ hq), ?_, ?_, ?_⟩
  · rw [happend]
    exact h.logged
  · rw [happend]
    exact h.successes
  · rw [List.map_append, List.map_singleton, bank_run_concat]
    exact hrep

lemma Records.idle (h : s.Records bank executed []) (r : Round) : s.step (.round r) = s := by
  obtain ⟨w', hnone⟩ := serveRequest_nothing
    (w := { s.system.server with script := r.script }) h.rx r rfl s.system.mapping
  rw [Relay.step, hnone]

lemma Records.rounds (h : s.Records bank executed pending) {rounds : List Round}
    (hall : pending.length ≤ rounds.length) :
    (s.run (rounds.map .round)).Records bank (executed ++ pending.map Prod.fst) [] := by
  induction rounds generalizing s executed pending with
  | nil =>
    obtain rfl := List.length_eq_zero_iff.mp (Nat.le_zero.mp hall)
    have hnone : executed ++ List.map Prod.fst ([] : List (Entry × Modbus)) = executed := List.append_nil _
    rw [hnone]
    exact h
  | cons r rounds ih =>
    cases pending with
    | nil =>
      rw [Relay.run, List.map_cons, List.foldl_cons, h.idle r]
      exact ih h (Nat.zero_le _)
    | cons p pending =>
      rw [Relay.run, List.map_cons, List.foldl_cons, List.map_cons, ← List.singleton_append (l := _),
        ← List.append_assoc]
      exact ih (h.round r) (Nat.le_of_succ_le_succ hall)

lemma Records.run (h : s.Records bank executed pending) (moves : List Move) :
    ∃ executed' pending', (s.run moves).Records bank executed' pending' := by
  induction moves generalizing s executed pending with
  | nil => exact ⟨executed, pending, h⟩
  | cons move moves ih =>
    rw [Relay.run, List.foldl_cons]
    cases move with
    | call t =>
      obtain ⟨pending', h'⟩ := h.call t
      exact ih h'
    | round r =>
      cases pending with
      | nil =>
        rw [h.idle r]
        exact ih h
      | cons p pending => exact ih (h.round r)

end Runs

/-- Whatever order the operations and the rounds of the server come in, and whatever goes wrong with the
client's calls, the server carries out the operations in their order, each at most once although a failed
send is repeated, and with enough further rounds none is missing that succeeded. -/
theorem executed_once {sys : System} (hl : sys.Linked) (hb : sys.mapping.Binary) (moves : List Move) :
    ∃ executed pending : List Entry,
      (executed ++ pending).Sublist (run ⟨sys, []⟩ moves).log ∧
      ((run ⟨sys, []⟩ moves).log.filter Entry.succeeded).Sublist (executed ++ pending) ∧
      Bank.Represents (run ⟨sys, []⟩ moves).system.mapping
        (sys.mapping.bank.run (executed.map Entry.request)).1 ∧
      ∀ rounds : List Round, pending.length ≤ rounds.length →
        Bank.Represents (run ⟨sys, []⟩ (moves ++ rounds.map .round)).system.mapping
          (sys.mapping.bank.run ((executed ++ pending).map Entry.request)).1 := by
  have hstart : Records ⟨sys, []⟩ sys.mapping.bank [] [] :=
    ⟨⟨hl.backend, hl.slave, hl.receiving⟩, hl.serverRx, fun _ => nofun, List.Sublist.refl _,
      List.Sublist.refl _, represents_bank hb⟩
  obtain ⟨executed, pending, h⟩ := hstart.run moves
  refine ⟨executed, pending.map Prod.fst, h.logged, h.successes, h.represents, fun rounds hall => ?_⟩
  rw [List.length_map] at hall
  rw [Relay.run, List.foldl_append]
  exact (h.rounds hall).represents

def writeFifth : Exchange := losslessExchange (.writeRegister 5 7) _ rfl (by decide) (by decide)

def writeAgain : Try where
  exchange := writeFifth
  script := { send := .error .econnreset } :: List.replicate 30 {}
  wholesale r hr n hn := by
    rcases List.mem_cons.mp hr with rfl | hr
    · cases hn
    · rw [List.eq_of_mem_replicate hr] at hn
      obtain rfl := Except.ok.inj hn
      exact le_rfl
  rx := [0, 1, 0, 0, 0, 6, 255, 6, 0, 5, 0, 7]

def recoveringLink : System :=
  { smallSystem with client := .start { modbusNewTcp with errorRecovery := 1 <<< 1 } [] [] }

lemma writeAgain_log : (run ⟨recoveringLink, []⟩ [.call writeAgain]).log.map Prod.snd = [some 1] := by
  decide +kernel

lemma log_single (sys : System) (t : Try) : (run ⟨sys, []⟩ [.call t]).log =
    [(t, ((t.exchange.call.operation.run t.exchange.stack t.exchange.dest
      { sys.client with rx := t.rx, tx := [], script := t.script }).value.map Prod.fst))] := rfl

lemma writeAgain_executed {entries : List Entry}
    (hlogged : entries.Sublist (run ⟨recoveringLink, []⟩ [.call writeAgain]).log)
    (hsuccesses : ((run ⟨recoveringLink, []⟩ [.call writeAgain]).log.filter Entry.succeeded).Sublist entries) :
    entries = [(writeAgain, some 1)] := by
  have hrc := writeAgain_log
  have hlog := log_single recoveringLink writeAgain
  rw [hlog] at hrc
  have hentry := List.singleton_inj.mp hrc
  dsimp only at hentry
  rw [hlog, hentry] at hlogged hsuccesses
  exact hlogged.antisymm hsuccesses

theorem executed_once_example :
    Bank.Represents (run ⟨recoveringLink, []⟩ [.call writeAgain, .round serverRound]).system.mapping
      ⟨List.replicate 10 false, List.replicate 10 false, [0, 0, 0, 0, 0, 7, 0, 0, 0, 0],
        List.replicate 10 0⟩ := by
  obtain ⟨executed, pending, hlogged, hsuccesses, -, hend⟩ := @executed_once recoveringLink
    ⟨rfl, by simp [recoveringLink, smallSystem, World.start, modbusNewTcp], rfl, rfl, rfl, rfl, rfl⟩
    ⟨fun _ _ => .inl rfl, fun _ _ => .inl rfl⟩ [.call writeAgain]
  have hentries := writeAgain_executed hlogged hsuccesses
  have hshort : pending.length ≤ [serverRound].length := by
    have hlen := congrArg List.length hentries
    rw [List.length_append] at hlen
    exact (Nat.le_add_left _ _).trans hlen.le
  have hbank : (recoveringLink.mapping.bank.run ([(writeAgain, some 1)].map Entry.request)).1 =
      ⟨List.replicate 10 false, List.replicate 10 false, [0, 0, 0, 0, 0, 7, 0, 0, 0, 0],
        List.replicate 10 0⟩ := rfl
  have hrep := hend [serverRound] hshort
  rw [hentries, hbank, List.map_singleton, List.singleton_append] at hrep
  exact hrep

end Relay

end LibModbus
