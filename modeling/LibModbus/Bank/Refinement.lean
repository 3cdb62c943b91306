import LibModbus.Bank.Client
import LibModbus.Stream.InFrame
import LibModbus.Stream.Serving

/-! A client and a server on a lossless link refine the bank. -/

namespace LibModbus

open Library Library.Prog

structure System where
  client : World
  server : World
  mapping : Mapping

/-- One operation of the client with the arrays that both sides receive into, and the answers of the
operating system to both. -/
structure Exchange where
  call : ClientCall
  request : Request
  dest : Dest
  stack : Mem UInt8
  buf : Mem UInt8
  clientScript : List Response
  serverScript : List Response
  meaning : call.meaning = some request
  addressed : call.Addressed
  counts : call.CountsFrom 1
  clientFlows : Flows callsNeeded clientScript
  serverFlows : Flows callsNeeded serverScript

structure Result where
  rc : ℤ
  dest : Dest
  errno : Option Errno

namespace Exchange

def result (x : Exchange) (answer : Option Data) : Result where
  rc := (x.call.outcome x.dest answer).1
  dest := (x.call.outcome x.dest answer).2
  errno := if answer.isNone then some embxiladd else none

end Exchange

namespace System

def exchange (sys : System) (x : Exchange) : Option (Result × System) :=
  match x.call.operation.issue { sys.client with script := x.clientScript } with
  | .blocked _ => none
  | .done (rc, req) client =>
    match serveRequest x.buf sys.mapping
        { sys.server with rx := sys.server.rx ++ client.tx, script := x.serverScript } with
    | .blocked _ => none
    | .done (_, reply) server =>
      match x.call.operation.confirm x.stack rc req x.dest
          { client with rx := client.rx ++ server.tx, tx := [] } with
      | .blocked _ => none
      | .done (rc, dest) client =>
        some (⟨rc, dest, if rc = -1 then some client.errno else none⟩,
          ⟨client, { server with tx := [] }, reply.mapping⟩)

def run (sys : System) : List Exchange → Option (List Result × System)
  | [] => some ([], sys)
  | x :: xs => do
    let (result, sys) ← sys.exchange x
    let (results, sys) ← sys.run xs
    return (result :: results, sys)

structure Linked (sys : System) : Prop where
  backend : sys.server.ctx.backend = sys.client.ctx.backend
  slave : sys.client.ctx.backend = .rtu → sys.server.ctx.slave = sys.client.ctx.slave ∧
    0 ≤ sys.client.ctx.slave ∧ sys.client.ctx.slave < 256
  clientRx : sys.client.rx = []
  clientTx : sys.client.tx = []
  receiving : sys.server.ctx.confirmationToIgnore = false
  serverRx : sys.server.rx = []
  serverTx : sys.server.tx = []

end System

section Steps

lemma CountsFrom_zero {call : ClientCall} (h : call.CountsFrom 1) : call.CountsFrom 0 := by
  cases call with
  | readBits | readInputBits | readRegisters | readInputRegisters | writeBits | writeRegisters =>
    exact ⟨by linarith [h.1], h.2⟩
  | writeAndReadRegisters =>
    exact ⟨⟨by linarith [h.1.1], h.1.2⟩, by linarith [h.2.1], h.2.2⟩
  | writeBit | writeRegister | reportSlaveId => trivial

lemma request_slave {call : ClientCall} {ctx : Modbus} {m : Mem UInt8}
    (hm : m.Holds (call.request ctx)) (hb : ctx.backend = .rtu) (h₀ : 0 ≤ ctx.slave)
    (h₁ : ctx.slave < 256) : ((m 0).toNat : ℤ) = ctx.slave := by
  rw [header_sendMsgPre (requestHeader_length ctx) hm (j := 0) (by rw [hb]; decide) (by decide)
    (by decide), requestHeader_rtu hb]
  exact ClientCall.ofInt_toNat h₀ h₁

lemma result_eq (x : Exchange) (hc : x.call.CountsFrom 0) {answer : Option Data} {errno : Errno}
    (h : answer = none → errno = embxiladd) :
    (⟨(x.call.outcome x.dest answer).1, (x.call.outcome x.dest answer).2,
      if (x.call.outcome x.dest answer).1 = -1 then some errno else none⟩ : Result) =
      x.result answer := by
  cases answer with
  | none => rw [h rfl]; rfl
  | some data =>
    have hcount := count_nonneg hc
    have hne : (x.call.outcome x.dest (some data)).1 ≠ -1 := by
      change x.call.count ≠ -1
      omega
    rw [if_neg hne]
    rfl

variable {sys : System} {bank : Bank}

lemma exchange_refines (hl : sys.Linked) (hrep : Bank.Represents sys.mapping bank) (x : Exchange) :
    ∃ sys', sys.exchange x = some (x.result (bank.step x.request).2, sys') ∧ sys'.Linked ∧
      Bank.Represents sys'.mapping (bank.step x.request).1 := by
  have hc := CountsFrom_zero x.counts
  have hb := hl.backend
  -- the request
  obtain ⟨c₁, hissue, hctx₁, hrx₁, htx₁, hf₁⟩ := ClientCall.issue_flows hc
    (w := { sys.client with script := x.clientScript }) (n := 2 * maxMessageLength) x.clientFlows
  dsimp only at hissue hctx₁ hrx₁ htx₁
  rw [hl.clientTx, List.nil_append] at htx₁
  have hframe := @ClientCall.request_frame x.call sys.client.ctx hc
  have hm := Mem.holds_write_self x.buf (x.call.request sys.client.ctx)
  have hpdu := holdsPdu_sendMsgPre (requestHeader_length sys.client.ctx) hm
  -- the reply
  obtain ⟨hrep', rsp, hrsp, hcar⟩ :=
    replyBuild_serves x.addressed hc x.meaning hpdu hframe.length_write hrep
  obtain ⟨hlim, hlow, -⟩ := reads_within_limits hc hpdu sys.mapping
  obtain ⟨header, pdu, hshape⟩ := replyBuild_shaped hframe.length_write hlim hlow rsp hrsp
  rw [hshape.split, List.drop_left' hshape.header_length] at hcar
  have hshort : (sendMsgPre sys.client.ctx.backend rsp).length ≤ maxMessageLength :=
    hshape.frame.allowed.trans (maxAduLength_le _)
  have hanswer := hf₁.mono (Nat.mul_le_mul_left 2 hshort)
  have hreqShort := @ClientCall.request_length x.call sys.client.ctx hc
  rw [← hb] at hframe hrsp hshort
  obtain ⟨s₁, hserve, hsctx, hsrx, hstx, -⟩ := @serveRequest_flows { sys.server with
      rx := sys.server.rx ++ c₁.tx, script := x.serverScript } sys.mapping _ [] _ hframe
    (by rw [hl.serverRx, htx₁, List.append_nil, List.nil_append])
    (ClientCall.request_intact hb hl.slave) (fun _ => hl.receiving) x.buf 0
    (x.serverFlows.mono (by unfold callsNeeded; omega)) hrsp hshort
  dsimp only at hserve hsctx hstx
  rw [hl.serverTx, List.nil_append] at hstx
  -- the answer
  have hback : c₁.ctx.backend = sys.client.ctx.backend := by rw [hctx₁, nextRequest_backend]
  have hslave : c₁.ctx.slave = sys.client.ctx.slave := by rw [hctx₁, nextRequest_slave]
  obtain ⟨c₂, hconfirm, hctx₂, hrx₂, htx₂, herr⟩ := @confirm_answer x.call
    { c₁ with rx := c₁.rx ++ s₁.tx, tx := [] } _ _ _ _ _ x.stack x.dest hc hback.symm hm
    (by rw [hback]; exact hshape)
    (fun hr => by
      rw [hback] at hr
      rw [hslave]
      exact request_slave hm hr (hl.slave hr).2.1 (hl.slave hr).2.2) _
    (fun data hd => (Bank.step_answer hd).elim fun _ hs => answeredBy_serve x.meaning hs) hcar
    (by rw [hrx₁, hl.clientRx, hstx, List.nil_append, hback, hb]) (by rwa [hback])
  have hresult := result_eq x hc herr
  refine ⟨⟨c₂, { s₁ with tx := [] }, (replyBuild sys.server.ctx.backend (x.buf.write 0
    (x.call.request sys.client.ctx)) (x.call.request sys.client.ctx).length sys.mapping).mapping⟩,
    ?_, ?_, ?_⟩
  · rw [System.exchange, hissue]
    dsimp only
    rw [hserve]
    dsimp only
    rw [hconfirm]
    dsimp only
    rw [hresult]
  · refine ⟨?_, ?_, hrx₂, htx₂, ?_, hsrx, rfl⟩
    · dsimp only
      rw [hsctx, hctx₂, hback, hb]
    · dsimp only
      rw [hsctx, hctx₂, hback, hslave]
      exact hl.slave
    · dsimp only
      rw [hsctx]
      exact hl.receiving
  · dsimp only
    rw [hb]
    exact hrep'

lemma run_refines (hl : sys.Linked) (hrep : Bank.Represents sys.mapping bank) (xs : List Exchange) :
    ∃ sys', sys.run xs = some (List.zipWith Exchange.result xs
        (bank.run (xs.map Exchange.request)).2, sys') ∧
      Bank.Represents sys'.mapping (bank.run (xs.map Exchange.request)).1 := by
  induction xs generalizing sys bank with
  | nil => exact ⟨sys, rfl, hrep⟩
  | cons x xs ih =>
    obtain ⟨sys₁, hexch, hl₁, hrep₁⟩ := exchange_refines hl hrep x
    obtain ⟨sys₂, hrun, hrep₂⟩ := ih hl₁ hrep₁
    refine ⟨sys₂, ?_, hrep₂⟩
    rw [System.run, hexch, Option.bind_eq_bind, Option.bind_some]
    dsimp only
    rw [hrun]
    rfl

end Steps

/-- Whatever sequence of operations the client carries out, each returns what the bank answers, and
the tables of the server end up as the bank does. A range that is not all there is refused with
`EMBXILADD`, and leaves the tables and the arrays of the caller alone. -/
theorem run_refines_bank {sys : System} (hl : sys.Linked) (hb : sys.mapping.Binary)
    (xs : List Exchange) : ∃ sys', sys.run xs = some (List.zipWith Exchange.result xs
        (sys.mapping.bank.run (xs.map Exchange.request)).2, sys') ∧
      Bank.Represents sys'.mapping (sys.mapping.bank.run (xs.map Exchange.request)).1 :=
  run_refines hl (represents_bank hb) xs

def smallSystem : System where
  client := .start modbusNewTcp [] []
  server := .start modbusNewTcp [] []
  mapping := ⟨10, 10, 10, 10, fun _ => 0, fun _ => 0, fun _ => 0, fun _ => 0⟩

def losslessExchange (call : ClientCall) (request : Request) (hm : call.meaning = some request)
    (ha : call.Addressed) (hc : call.CountsFrom 1) : Exchange where
  call := call
  request := request
  dest := ⟨fun _ => 0, fun _ => 0⟩
  stack _ := 0
  buf _ := 0
  clientScript := List.replicate callsNeeded {}
  serverScript := List.replicate callsNeeded {}
  meaning := hm
  addressed := ha
  counts := hc
  clientFlows := flows_replicate _
  serverFlows := flows_replicate _

def smallExchanges : List Exchange :=
  [losslessExchange (.writeRegisters 8 2 fun i => if i = 1 then 7 else 0) _ rfl (by decide) (by decide),
    losslessExchange (.readRegisters 9 1) _ rfl (by decide) (by decide),
    losslessExchange (.readRegisters 10 1) _ rfl (by decide) (by decide)]

theorem run_refines_bank_example : ∃ sys',
    smallSystem.run smallExchanges = some (List.zipWith Exchange.result smallExchanges
      [some .written, some (.words [7]), none], sys') ∧
    Bank.Represents sys'.mapping
      ⟨List.replicate 10 false, List.replicate 10 false, [0, 0, 0, 0, 0, 0, 0, 0, 0, 7],
        List.replicate 10 0⟩ :=
  run_refines_bank ⟨rfl, by simp [smallSystem, World.start, modbusNewTcp], rfl, rfl, rfl, rfl, rfl⟩
    ⟨fun _ _ => .inl rfl, fun _ _ => .inl rfl⟩ smallExchanges

end LibModbus
