import LibModbus.Bank.Refinement
import LibModbus.Stream.Torn

/-! The steps of an operation each on its own: the request, the reply of the server, and the return.
Other steps may come between them. -/

namespace LibModbus

open Library Library.Prog

def Bank.perform (bank : Bank) (x : Exchange) : Bank × Result :=
  ((bank.step x.request).1, x.result (bank.step x.request).2)

/-- The bytes of a response that carries the answer to a call made in the context `ctx`. -/
def RepliesWith (ctx : Modbus) (call : ClientCall) (answer : Option Data) (response : List UInt8) : Prop :=
  ∃ m rsp header pdu, Mem.Holds m (call.request ctx) ∧ ResponseShape ctx.backend m rsp header pdu ∧
    Carries call answer pdu ∧ response = sendMsgPre ctx.backend rsp

structure Pending where
  exchange : Exchange
  rc : ℤ
  req : List UInt8

structure Pending.Sent (p : Pending) (ctx : Modbus) (w : World) : Prop where
  rc : p.rc = (p.exchange.call.request ctx).length
  req : p.req = p.exchange.call.request ctx
  ctx : w.ctx = nextRequest ctx
  flows : Flows (2 * maxMessageLength) w.script

namespace Pending

variable {p : Pending} {ctx : Modbus} {w : World}

lemma Sent.pos (h : p.Sent ctx w) : 0 < p.rc := by
  have := (@ClientCall.request_frame p.exchange.call ctx (CountsFrom_zero p.exchange.counts)).pos
  rw [h.rc]
  omega

lemma Sent.backend (h : p.Sent ctx w) : w.ctx.backend = ctx.backend := by
  rw [h.ctx, nextRequest_backend]

end Pending

section Steps

variable {w : World} {ctx : Modbus} {mb : Mapping} {bank : Bank} {x : Exchange}

lemma issue_exchange (hrx : w.rx = []) (htx : w.tx = []) :
    ∃ w', x.call.operation.issue { w with script := x.clientScript } =
        .done (((x.call.request w.ctx).length : ℤ), x.call.request w.ctx) w' ∧
      w'.ctx = nextRequest w.ctx ∧ w'.rx = [] ∧ w'.tx = x.call.request w.ctx ∧
      Flows (2 * maxMessageLength) w'.script := by
  obtain ⟨w', hissue, hctx, hrx', htx', hf⟩ := ClientCall.issue_flows (CountsFrom_zero x.counts)
    (w := { w with script := x.clientScript }) (n := 2 * maxMessageLength) x.clientFlows
  rw [htx, List.nil_append] at htx'
  exact ⟨w', hissue, hctx, hrx'.trans hrx, htx', hf⟩

lemma serve_exchange (rest : List UInt8) (hb : w.ctx.backend = ctx.backend)
    (hintact : Intact w.ctx (x.call.request ctx))
    (hidle : w.ctx.backend = .rtu → w.ctx.confirmationToIgnore = false)
    (hrep : Bank.Represents mb bank) (hrx : w.rx = x.call.request ctx ++ rest) (r : Round)
    (hs : w.script = r.script) :
    ∃ w' reply response, serveRequest r.buf mb w = .done (((x.call.request ctx).length : ℤ), reply) w' ∧
      Bank.Represents reply.mapping (bank.step x.request).1 ∧
      RepliesWith ctx x.call (bank.step x.request).2 response ∧ w'.ctx = w.ctx ∧ w'.rx = rest ∧
      w'.tx = w.tx ++ response := by
  have hc := CountsFrom_zero x.counts
  have hframe := @ClientCall.request_frame x.call ctx hc
  have hm := Mem.holds_write_self r.buf (x.call.request ctx)
  have hpdu := holdsPdu_sendMsgPre (requestHeader_length ctx) hm
  obtain ⟨hrep', rsp, hrsp, hcar⟩ :=
    replyBuild_serves x.addressed hc x.meaning hpdu hframe.length_write hrep
  obtain ⟨hlim, hlow, -⟩ := reads_within_limits hc hpdu mb
  obtain ⟨header, pdu, hshape⟩ := replyBuild_shaped hframe.length_write hlim hlow rsp hrsp
  rw [hshape.split, List.drop_left' hshape.header_length] at hcar
  have hshort : (sendMsgPre ctx.backend rsp).length ≤ maxMessageLength :=
    hshape.frame.allowed.trans (maxAduLength_le _)
  have hreq := @ClientCall.request_length x.call ctx hc
  have hrep₀ := hrep'
  rw [← hb] at hframe hrsp hshort hrep₀
  obtain ⟨w', hserve, hctx, hrx', htx, -⟩ := serveRequest_flows hframe hrx hintact hidle r.buf (n := 0)
    ((hs ▸ r.flows).mono (by unfold callsNeeded; omega)) hrsp hshort
  rw [hb] at htx
  exact ⟨w', _, _, hserve, hrep₀, ⟨_, _, _, _, hm, hshape, hcar, rfl⟩, hctx, hrx', htx⟩

lemma confirm_replied {answer : Option Data} {response rest : List UInt8} (hctx : w.ctx = nextRequest ctx)
    (hslave : ctx.backend = .rtu → 0 ≤ ctx.slave ∧ ctx.slave < 256)
    (hans : ∀ data ∈ answer, x.call.AnsweredBy data) (hanswer : RepliesWith ctx x.call answer response)
    (hrx : w.rx = response ++ rest) (hf : Flows (2 * maxMessageLength) w.script) :
    ∃ w' rc dest, x.call.operation.confirm x.stack (x.call.request ctx).length (x.call.request ctx)
        x.dest w = .done (rc, dest) w' ∧
      (⟨rc, dest, if rc = -1 then some w'.errno else none⟩ : Result) = x.result answer ∧
      w'.ctx = w.ctx ∧ w'.rx = rest ∧ w'.tx = w.tx := by
  have hc := CountsFrom_zero x.counts
  obtain ⟨m, rsp, header, pdu, hm, hshape, hcar, rfl⟩ := hanswer
  have hb : w.ctx.backend = ctx.backend := by rw [hctx, nextRequest_backend]
  have hs : w.ctx.slave = ctx.slave := by rw [hctx, nextRequest_slave]
  have hshort : (sendMsgPre ctx.backend rsp).length ≤ maxMessageLength :=
    hshape.frame.allowed.trans (maxAduLength_le _)
  rw [← hb] at hrx hshort hshape
  obtain ⟨w', hconfirm, hctx', hrx', htx', herr⟩ := confirm_answer_first x.stack x.dest hc hb.symm hm hshape
    (fun hr => by
      rw [hb] at hr
      rw [hs]
      exact request_slave hm hr (hslave hr).1 (hslave hr).2)
    hans hcar hrx (hf.mono (Nat.mul_le_mul_left 2 hshort))
  exact ⟨w', _, _, hconfirm, result_eq x hc herr, hctx', hrx', htx'⟩

lemma confirm_exchange {response : List UInt8} (hctx : w.ctx = nextRequest ctx)
    (hslave : ctx.backend = .rtu → 0 ≤ ctx.slave ∧ ctx.slave < 256)
    (hanswer : RepliesWith ctx x.call (bank.step x.request).2 response) (hrx : w.rx = response)
    (hf : Flows (2 * maxMessageLength) w.script) :
    ∃ w' rc dest, x.call.operation.confirm x.stack (x.call.request ctx).length (x.call.request ctx)
        x.dest w = .done (rc, dest) w' ∧
      (⟨rc, dest, if rc = -1 then some w'.errno else none⟩ : Result) =
        x.result (bank.step x.request).2 ∧ w'.ctx = w.ctx ∧ w'.rx = [] ∧ w'.tx = w.tx :=
  confirm_replied hctx hslave
    (fun _ hd => (Bank.step_answer hd).elim fun _ hs => answeredBy_serve x.meaning hs) hanswer
    (hrx.trans (List.append_nil _).symm) hf

end Steps

section Nothing

variable {w : World}

lemma receiveMsg_nothing (msgType : MsgType) (hrx : w.rx = []) (hf : Flows 1 w.script) (buf : Mem UInt8) :
    ∃ w', receiveMsg msgType buf w = .blocked w' := by
  obtain ⟨r, rest, hs, hr, hrest⟩ := hf.cases
  obtain ⟨w', hrecv⟩ := @backendRecv_starved
    { w with script := rest, trace := w.trace ++ [.select w.ctx.s] } hrest.2 buf 0
    (w.ctx.backend.headerLength + 1) hrx
  refine ⟨w', iterate_blocked _ ?_⟩
  rw [receiveMsgStep, if_neg (by simp), receiveMore, bind_getCtx, bind_done (backendSelect_flows hs hr _)]
  dsimp only
  rw [if_neg (by decide)]
  exact bind_blocked hrecv _

lemma modbusReceive_nothing (hrx : w.rx = []) (hf : Flows 1 w.script) (buf : Mem UInt8) :
    ∃ w', modbusReceive buf w = .blocked w' := by
  obtain ⟨w₁, h₁⟩ := receiveMsg_nothing .indication hrx hf buf
  obtain ⟨w₂, h₂⟩ := receiveMsg_nothing .confirmation hrx hf buf
  rw [modbusReceive, bind_getCtx]
  cases w.ctx.backend with
  | tcp | tcpPi => exact ⟨w₁, h₁⟩
  | rtu =>
    dsimp only
    rw [rtuReceive, bind_getCtx]
    split_ifs
    · exact ⟨w₂, bind_blocked h₂ _⟩
    · exact ⟨w₁, bind_blocked h₁ _⟩

lemma serveRequest_nothing (hrx : w.rx = []) (r : Round) (hs : w.script = r.script) (mb : Mapping) :
    ∃ w', serveRequest r.buf mb w = .blocked w' := by
  obtain ⟨w', hr⟩ := modbusReceive_nothing hrx ((hs ▸ r.flows).mono (Nat.le_add_left _ _)) r.buf
  exact ⟨w', bind_blocked hr _⟩

lemma confirm_nothing (op : Operation) (stack : Mem UInt8) (req : List UInt8) (dest : Dest) {rc : ℤ}
    (hrx : w.rx = []) (hf : Flows (2 * maxMessageLength) w.script) (hrc : 0 < rc) :
    ∃ w', op.confirm stack rc req dest w = .blocked w' := by
  obtain ⟨w', hr⟩ := receiveMsg_nothing .confirmation hrx (hf.mono (by decide)) stack
  exact ⟨w', by rw [confirm_eq stack req dest op hrc, bind_blocked hr]⟩

end Nothing

def writeSecond : Exchange := losslessExchange (.writeRegister 1 7) _ rfl (by decide) (by decide)

def readBoth : Exchange := losslessExchange (.readRegisters 0 2) _ rfl (by decide) (by decide)

end LibModbus
