import LibModbus.Shared.Delays

/-! An answer that comes too late on a serial line, where nothing tells the answers to requests of the same
kind apart. -/

namespace LibModbus

open Library Library.Prog

namespace ClientCall

def reads : ClientCall → Option (ℕ × ℤ)
  | readBits _ nb => some (fcReadCoils, nb)
  | readInputBits _ nb => some (fcReadDiscreteInputs, nb)
  | readRegisters _ nb => some (fcReadHoldingRegisters, nb)
  | readInputRegisters _ nb => some (fcReadInputRegisters, nb)
  | writeAndReadRegisters _ _ _ _ nb => some (fcWriteAndReadRegisters, nb)
  | _ => none

variable {call call' : ClientCall} {k : ℕ × ℤ}

lemma reads_function (h : call.reads = some k) : call.pdu.getD 0 0 = UInt8.ofInt k.1 := by
  cases call with
  | readBits | readInputBits | readRegisters | readInputRegisters | writeAndReadRegisters =>
    obtain rfl := Option.some.inj h
    rfl
  | writeBit | writeRegister | writeBits | writeRegisters | reportSlaveId => cases h

lemma answeredBy_reads (h : call.reads = some k) (data : Data) : call.AnsweredBy data ↔
    match data with
    | .flags vs => (k.1 = fcReadCoils ∨ k.1 = fcReadDiscreteInputs) ∧ vs.length = k.2.toNat
    | .words vs => k.1 ≠ fcReadCoils ∧ k.1 ≠ fcReadDiscreteInputs ∧ vs.length = k.2.toNat
    | .written => False := by
  cases call with
  | readBits | readInputBits | readRegisters | readInputRegisters | writeAndReadRegisters =>
    obtain rfl := Option.some.inj h
    cases data <;> simp [AnsweredBy, fcReadCoils, fcReadDiscreteInputs, fcReadHoldingRegisters,
      fcReadInputRegisters, fcWriteAndReadRegisters]
  | writeBit | writeRegister | writeBits | writeRegisters | reportSlaveId => cases h

lemma answeredBy_alike (h : call.reads = some k) (h' : call'.reads = some k) {data : Data}
    (hd : call.AnsweredBy data) : call'.AnsweredBy data :=
  (answeredBy_reads h' data).mpr ((answeredBy_reads h data).mp hd)

lemma carries_alike (h : call.reads = some k) (h' : call'.reads = some k) {answer : Option Data}
    (hans : ∀ data ∈ answer, call.AnsweredBy data) {pdu : List UInt8} (hcar : Carries call answer pdu) :
    Carries call' answer pdu := by
  have hfunction : call'.pdu.getD 0 0 = call.pdu.getD 0 0 := by rw [reads_function h, reads_function h']
  cases answer with
  | none => rwa [Carries, hfunction]
  | some data =>
    cases data with
    | flags vs | words vs => rwa [Carries, hfunction]
    | written => exact ((answeredBy_reads h _).mp (hans _ rfl)).elim

end ClientCall

section Serial

variable {ctx : Modbus} {call call' : ClientCall} {k : ℕ × ℤ} {answer : Option Data} {response : List UInt8}

lemma RepliesWith.alike (hrtu : ctx.backend = .rtu) (h : call.reads = some k) (h' : call'.reads = some k)
    (hans : ∀ data ∈ answer, call.AnsweredBy data) (hreplies : RepliesWith ctx call answer response) :
    RepliesWith ctx call' answer response := by
  obtain ⟨m, rsp, header, pdu, hm, hshape, hcar, rfl⟩ := hreplies
  have hm' := Mem.getD_holds (call'.request ctx) 0
  have hslave (call : ClientCall) {m : Mem UInt8} (hm : m.Holds (call.request ctx)) :
      m 0 = UInt8.ofInt ctx.slave := by
    rw [header_sendMsgPre (requestHeader_length ctx) hm (j := 0) (by rw [hrtu]; decide) (by decide)
      (by decide), requestHeader_rtu hrtu]
    rfl
  refine ⟨_, rsp, header, pdu, hm', { hshape with header_eq := fun j hj hlast => ?_ },
    ClientCall.carries_alike h h' hans hcar, rfl⟩
  obtain rfl : j = 0 := by
    rw [hrtu] at hj
    exact Nat.lt_one_iff.mp hj
  rw [hshape.header_eq 0 hj hlast, hslave call hm, hslave call' hm']

lemma RepliesWith.moved {ctx' : Modbus} (hrtu : ctx.backend = .rtu) (hb : ctx'.backend = ctx.backend)
    (hs : ctx'.slave = ctx.slave) (hreplies : RepliesWith ctx call answer response) :
    RepliesWith ctx' call answer response := by
  have hrequest : call.request ctx' = call.request ctx := by
    rw [ClientCall.request, ClientCall.request, hb, requestHeader_rtu hrtu, requestHeader_rtu (hb.trans hrtu), hs]
  rwa [RepliesWith, hrequest, hb]

end Serial

namespace System

/-- A serial line on which the answer to the last operation, a call that reads, is still unread. -/
structure Behind (sys : System) (call : ClientCall) (answer : Option Data) : Prop where
  rtu : sys.client.ctx.backend = .rtu
  linked : Linked { sys with client := { sys.client with rx := [] } }
  answered : ∀ data ∈ answer, call.AnsweredBy data
  clientRx : RepliesWith sys.client.ctx call answer sys.client.rx

end System

section Runs

variable {sys : System} {bank : Bank} {call : ClientCall} {answer : Option Data} {k : ℕ × ℤ}

lemma nextRequest_rtu {ctx : Modbus} (h : ctx.backend = .rtu) : nextRequest ctx = ctx := by
  rw [nextRequest, h]

lemma System.Linked.serves (hl : System.Linked { sys with client := { sys.client with rx := [] } })
    (hrep : Bank.Represents sys.mapping bank) (x : Exchange) {c₁ : World}
    (htx : c₁.tx = x.call.request sys.client.ctx) :
    ∃ s₁ reply response, serveRequest x.buf sys.mapping
        { sys.server with rx := sys.server.rx ++ c₁.tx, script := x.serverScript } =
          .done ((x.call.request sys.client.ctx).length, reply) s₁ ∧
      Bank.Represents reply.mapping (bank.step x.request).1 ∧
      RepliesWith sys.client.ctx x.call (bank.step x.request).2 response ∧ s₁.ctx = sys.server.ctx ∧
      s₁.rx = [] ∧ s₁.tx = response := by
  obtain ⟨s₁, reply, response, hserve, hrep', hanswer, hctx, hrx, hstx⟩ := @serve_exchange
    { sys.server with rx := sys.server.rx ++ c₁.tx, script := x.serverScript } sys.client.ctx
    sys.mapping bank x [] hl.backend (ClientCall.request_intact hl.backend hl.slave)
    (fun _ => hl.receiving) hrep (by rw [show sys.server.rx = [] from hl.serverRx, htx]; simp)
    ⟨x.buf, x.serverScript, x.serverFlows⟩ rfl
  dsimp only at hserve hctx hstx
  rw [show sys.server.tx = [] from hl.serverTx, List.nil_append] at hstx
  exact ⟨s₁, reply, response, hserve, hrep', hanswer, hctx, hrx, hstx⟩

lemma step_answered (x : Exchange) : ∀ data ∈ (bank.step x.request).2, x.call.AnsweredBy data :=
  fun _ hd => (Bank.step_answer hd).elim fun _ hs => answeredBy_serve x.meaning hs

lemma System.Linked.moves (hl : System.Linked { sys with client := { sys.client with rx := [] } }) {c s : World}
    {mb : Mapping} {rx : List UInt8} (hc : c.ctx.backend = sys.client.ctx.backend ∧
      c.ctx.slave = sys.client.ctx.slave) (htx : c.tx = []) (hs : s.ctx = sys.server.ctx) (hrx : s.rx = []) :
    System.Linked ⟨{ { c with rx := rx } with rx := [] }, { s with tx := [] }, mb⟩ := by
  refine ⟨?_, ?_, rfl, htx, ?_, hrx, rfl⟩
  · dsimp only
    rw [hs, hc.1]
    exact hl.backend
  · dsimp only
    rw [hs, hc.1, hc.2]
    exact hl.slave
  · dsimp only
    rw [hs]
    exact hl.receiving

lemma attempt_tooLate (hl : sys.Linked) (hrtu : sys.client.ctx.backend = .rtu)
    (hrep : Bank.Represents sys.mapping bank) (e : Attempt) (hlate : e.TooLate sys.client.ctx) :
    ∃ sys', sys.attempt e = some (⟨-1, e.exchange.dest, some .etimedout⟩, sys') ∧
      sys'.Behind e.exchange.call (bank.step e.exchange.request).2 ∧
      Bank.Represents sys'.mapping (bank.step e.exchange.request).1 := by
  have hidle : System.Linked { sys with client := { sys.client with rx := [] } } := { hl with clientRx := rfl }
  have hvain : e.arrival ≠ .prompt := by
    intro hprompt
    rcases hlate with h | ⟨h, -⟩ <;> rw [hprompt] at h <;> cases h
  have hscript : e.script sys.client.rx = {} :: { select := .ok false } :: e.exchange.clientScript :=
    if_pos ⟨hl.clientRx, hvain⟩
  obtain ⟨c₁, hissue, hctx₁, hrx₁, htx₁, hs⟩ :=
    issue_vain (w := { sys.client with script := e.script sys.client.rx }) e.exchange hscript hl.clientTx
  obtain ⟨s₁, reply, response, hserve, hrep', hanswer, hsctx, hsrx, rfl⟩ :=
    hidle.serves hrep e.exchange htx₁
  have hk : (0 : ℤ) < (e.exchange.call.request sys.client.ctx).length := by
    exact_mod_cast (ClientCall.request_frame (CountsFrom_zero e.exchange.counts)).pos
  obtain ⟨c₂, rc, dest, hconfirm, hreturns, hunread⟩ := @confirm_vain e sys.client.ctx
    { c₁ with rx := c₁.rx ++ e.now s₁.tx, tx := [] } s₁.tx hctx₁ hvain _ _ hk hs hanswer.short
    (by rw [hrx₁, show sys.client.rx = [] from hl.clientRx]; rfl) (bank.step e.exchange.request).2
  have hkeeps := (confirm_keeps _ _ _ _ _).done hconfirm
  have hconfig : c₂.ctx = { sys.client.ctx with s := c₂.ctx.s } := by
    rw [← nextRequest_rtu hrtu, ← hctx₁]
    exact hkeeps.config
  have hback : c₂.ctx.backend = sys.client.ctx.backend ∧ c₂.ctx.slave = sys.client.ctx.slave := by
    rw [hconfig]
    exact ⟨rfl, rfl⟩
  rw [if_pos ((tooLate_iff e).mpr hlate)] at hunread
  rw [Attempt.Returns, if_neg (by decide), if_neg hvain] at hreturns
  refine ⟨_, (attempt_eq hissue hserve hconfirm).trans (by rw [hreturns]),
    ⟨hback.1.trans hrtu, hidle.moves hback hkeeps.tx hsctx hsrx, step_answered _, ?_⟩, hrep'⟩
  dsimp only
  rw [hunread]
  exact hanswer.moved hrtu hback.1 hback.2

lemma attempt_behind (h : sys.Behind call answer) (hrep : Bank.Represents sys.mapping bank) (e : Attempt)
    (hcall : call.reads = some k) (hreads : e.exchange.call.reads = some k) :
    ∃ sys', sys.attempt e = some (e.exchange.result answer, sys') ∧
      sys'.Behind e.exchange.call (bank.step e.exchange.request).2 ∧
      Bank.Represents sys'.mapping (bank.step e.exchange.request).1 := by
  have hpending := h.clientRx.isFrame.pos
  have hscript : e.script sys.client.rx = e.exchange.clientScript :=
    if_neg fun hvain => hpending.ne' (congrArg List.length hvain.1)
  obtain ⟨c₁, hissue, hctx₁, hrx₁, htx₁, hf, -⟩ :=
    issue_calm (w := { sys.client with script := e.script sys.client.rx }) e hscript h.linked.clientTx
  obtain ⟨s₁, reply, response, hserve, hrep', hanswer, hsctx, hsrx, rfl⟩ :=
    h.linked.serves hrep e.exchange htx₁
  obtain ⟨c₂, rc, dest, hconfirm, hresult, hctx₂, hrx₂, htx₂⟩ := @confirm_replied
    { c₁ with rx := c₁.rx ++ e.now s₁.tx, tx := [] } sys.client.ctx e.exchange answer sys.client.rx
    (e.now s₁.tx) hctx₁ (fun hr => (h.linked.slave hr).2)
    (fun data hd => ClientCall.answeredBy_alike hcall hreads (h.answered data hd))
    (h.clientRx.alike h.rtu hcall hreads h.answered) (by rw [hrx₁]) (hf.mono (by unfold callsNeeded; omega))
  have hback : c₂.ctx.backend = sys.client.ctx.backend ∧ c₂.ctx.slave = sys.client.ctx.slave := by
    rw [hctx₂, hctx₁, nextRequest_backend, nextRequest_slave]
    exact ⟨rfl, rfl⟩
  refine ⟨_, (attempt_eq hissue hserve hconfirm).trans (by rw [hresult]),
    ⟨hback.1.trans h.rtu, h.linked.moves hback htx₂ hsctx hsrx, step_answered _, ?_⟩, hrep'⟩
  dsimp only
  rw [hrx₂, e.now_append_later]
  exact hanswer.moved h.rtu hback.1 hback.2

lemma attempts_behind (h : sys.Behind call answer) (hrep : Bank.Represents sys.mapping bank)
    (hcall : call.reads = some k) {es : List Attempt} (hreads : ∀ e ∈ es, e.exchange.call.reads = some k) :
    ∃ sys', sys.attempts es = some (List.zipWith (fun e answer => e.exchange.result answer) es
        (answer :: (bank.run (es.map fun e => e.exchange.request)).2), sys') ∧
      Bank.Represents sys'.mapping (bank.run (es.map fun e => e.exchange.request)).1 := by
  induction es generalizing sys bank call answer with
  | nil => exact ⟨sys, rfl, hrep⟩
  | cons e es ih =>
    obtain ⟨he, hreads⟩ := List.forall_mem_cons.mp hreads
    obtain ⟨sys₁, hattempt, h₁, hrep₁⟩ := attempt_behind h hrep e hcall he
    obtain ⟨sys₂, hrun, hrep₂⟩ := ih h₁ hrep₁ he hreads
    refine ⟨sys₂, ?_, hrep₂⟩
    rw [System.attempts, hattempt, Option.bind_eq_bind, Option.bind_some]
    dsimp only
    rw [hrun]
    rfl

end Runs

/-- On a serial line one answer that comes too late shifts all that follow: whenever they come, and in
every recovery mode, a reading operation returns what the one before it asked for. -/
theorem stale_answers {sys : System} (hl : sys.Linked) (hrtu : sys.client.ctx.backend = .rtu)
    (hb : sys.mapping.Binary) (e : Attempt) (hlate : e.TooLate sys.client.ctx) (es : List Attempt)
    (hreads : e.exchange.call.reads ≠ none)
    (halike : ∀ f ∈ es, f.exchange.call.reads = e.exchange.call.reads) :
    ∃ sys', sys.attempts (e :: es) = some (⟨-1, e.exchange.dest, some .etimedout⟩ ::
        List.zipWith (fun f answer => f.exchange.result answer) es
          (sys.mapping.bank.run ((e :: es).map fun f => f.exchange.request)).2, sys') ∧
      Bank.Represents sys'.mapping
        (sys.mapping.bank.run ((e :: es).map fun f => f.exchange.request)).1 := by
  obtain ⟨k, hk⟩ := Option.ne_none_iff_exists'.mp hreads
  obtain ⟨sys₁, hattempt, h₁, hrep₁⟩ := attempt_tooLate hl hrtu (represents_bank hb) e hlate
  obtain ⟨sys₂, hrun, hrep₂⟩ := attempts_behind h₁ hrep₁ hk fun f hf => (halike f hf).trans hk
  refine ⟨sys₂, ?_, hrep₂⟩
  rw [System.attempts, hattempt, Option.bind_eq_bind, Option.bind_some]
  dsimp only
  rw [hrun]
  rfl

def serialSystem : System where
  client := .start { modbusNewRtu with slave := 1 } [] []
  server := .start { modbusNewRtu with slave := 1 } [] []
  mapping := ⟨0, 0, 0, 3, fun _ => 0, fun _ => 0, fun _ => 0, fun i => if i = 0 then 5 else 7⟩

def lateRead : Attempt := Arrival.late.of (.readRegisters 0 1) _ rfl (by decide) (by decide)

def readThird : Attempt := Arrival.prompt.of (.readRegisters 2 1) _ rfl (by decide) (by decide)

theorem stale_answers_example : ∃ sys', serialSystem.attempts [lateRead, readThird] =
    some ([⟨-1, lateRead.exchange.dest, some .etimedout⟩,
      readThird.exchange.result (some (.words [5]))], sys') := by
  obtain ⟨sys', hrun, -⟩ := @stale_answers serialSystem
    ⟨rfl, fun _ => ⟨rfl, by decide, by decide⟩, rfl, rfl, rfl, rfl, rfl⟩ rfl
    ⟨fun _ _ => .inl rfl, fun _ _ => .inl rfl⟩ lateRead (.inl rfl) [readThird] (by decide) (by simp; rfl)
  exact ⟨sys', hrun⟩

end LibModbus
