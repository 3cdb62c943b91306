import LibModbus.Client.Flushes
import LibModbus.Client.Transactions
import LibModbus.Shared.Exchanges
import LibModbus.Stream.Sync

/-! Answers that come when the client no longer waits for them, and what becomes of the operations
behind them. -/

namespace LibModbus

open Library Library.Prog

section Pauses

variable {w : World} {n : ℕ}

def Calm (script : List Response) : Prop := ∀ r ∈ script, r.trouble = none ∧ r.option = none

lemma Shrinks.calm {w w' : World} (h : Shrinks w w') (hw : Calm w.script) : Calm w'.script :=
  fun r hr => hw r (h.subset hr)

lemma flushable_of_flows (hf : Flows n w.script) (hc : Calm w.script) : Flushable w :=
  fun r hr => ⟨(hc r hr).2, (hf.2 r hr).recv⟩

lemma osRecvDontwait_flows (hf : Flows (n + 1) w.script) (fd : ℤ) :
    ∃ rc w', osRecvDontwait fd modbusTcpMaxAduLength w = .done rc w' ∧ Flows n w'.script ∧
      w'.rx = w.rx.drop modbusTcpMaxAduLength ∧
      (rc = modbusTcpMaxAduLength → modbusTcpMaxAduLength ≤ w.rx.length) := by
  obtain ⟨r, rest, hs, hr, hrest⟩ := hf.cases
  obtain ⟨k, hk⟩ := hr.recv
  rw [osRecvDontwait, record, bind_modify_apply, bind_apply, ask]
  simp only [hs, hk, bind_get_apply]
  split_ifs with hrx
  · exact ⟨_, _, rfl, hrest, by rw [hrx]; rfl, fun h => absurd h (by decide)⟩
  · refine ⟨_, _, rfl, hrest, rfl, fun h => ?_⟩
    rw [List.length_take] at h
    omega

lemma tcpFlush_returns (hlen : w.rx.length < modbusTcpMaxAduLength * n) (hf : Flows n w.script) :
    ∃ rc w', tcpFlush w = .done rc w' := by
  have hturns (n : ℕ) : ∀ (fuel : ℕ) (rcSum : ℤ) (w : World), n < fuel →
      w.rx.length < modbusTcpMaxAduLength * n → Flows n w.script →
      ∃ rc w', Prog.iterate tcpFlushStep fuel rcSum w = .done rc w' := by
    induction n with
    | zero => exact fun _ _ _ _ h => absurd h (Nat.not_lt_zero _)
    | succ n ih =>
      intro fuel rcSum w hfuel hlen hf
      obtain ⟨fuel, rfl⟩ := Nat.exists_eq_succ_of_ne_zero (Nat.ne_zero_of_lt hfuel)
      obtain ⟨rc, w', hrecv, hrest, hrx, hfull⟩ := osRecvDontwait_flows hf w.ctx.s
      rw [Prog.iterate, tcpFlushStep, bind_assoc_apply, bind_getCtx, bind_assoc_apply, bind_done hrecv]
      by_cases hrc : rc = modbusTcpMaxAduLength
      · have hlong := hfull hrc
        rw [if_pos hrc]
        apply ih fuel _ w' (Nat.lt_of_succ_lt_succ hfuel) _ hrest
        rw [hrx, List.length_drop]
        rw [Nat.mul_succ] at hlen
        omega
      · rw [if_neg hrc]
        exact ⟨_, _, rfl⟩
  exact hturns n _ 0 w (Nat.lt_succ_of_le hf.1) hlen hf

lemma sleepAndFlush_returns (hlen : w.rx.length < modbusTcpMaxAduLength * n)
    (hf : Flows (n + 1) w.script) (hc : Calm w.script) :
    ∃ rc w', sleepAndFlush w = .done rc w' ∧ w'.rx = [] := by
  obtain ⟨r, rest, hs, -, hrest⟩ := hf.cases
  have htrouble : r.trouble = none := (hc r (hs ▸ List.mem_cons_self)).1
  have hsleep : loop nanosleepStep () w = .done () { w with script := rest } := by
    apply iterate_inr _
    rw [nanosleepStep, bind_apply, ask]
    simp only [hs, htrouble]
    rfl
  have hflush : ∃ rc w', modbusFlush { w with script := rest } = .done rc w' := by
    rw [modbusFlush, bind_getCtx]
    cases w.ctx.backend with
    | rtu =>
      obtain ⟨k, rfl⟩ : ∃ k, n = k + 1 := Nat.exists_eq_succ_of_ne_zero (by rintro rfl; omega)
      obtain ⟨r', rest', rfl, -, -⟩ := hrest.cases
      have hoption : r'.option = none := (hc r' (by rw [hs]; exact List.mem_cons_of_mem _ List.mem_cons_self)).2
      simp only [rtuFlush, osOption, record, getCtx, ask, bind_apply, get_apply, modify_apply, pure_apply, hoption]
      exact ⟨_, _, rfl⟩
    | tcp | tcpPi => exact tcpFlush_returns hlen hrest
  obtain ⟨rc, w', hflush⟩ := hflush
  have hrun : sleepAndFlush w = .done rc w' := by rw [sleepAndFlush, bind_done hsleep, hflush]
  exact ⟨rc, w', hrun, sleepAndFlush_empties.done (flushable_of_flows hf hc) hrun⟩

end Pauses

section Waits

variable {w : World} {n : ℕ} {req frame rest : List UInt8}

lemma backendSelect_timedOut {r : Response} {rest : List Response} (hs : w.script = r :: rest)
    (hr : r.select = .ok false) (tv : Option Timeval) :
    ∃ tv', backendSelect tv w = .done (-1, tv')
      { w with script := rest, errno := .etimedout, trace := w.trace ++ [.select w.ctx.s] } := by
  refine ⟨tv.map fun _ => r.selectTv, iterate_inr _ ?_⟩
  rw [backendSelectStep, bind_getCtx, osSelect_variable]
  simp only [record, ask, bind_apply, modify_apply, hs, hr, pure_apply]
  rfl

lemma receiveMsg_timedOut (stack : Mem UInt8) {r : Response}
    {script : List Response} (hs : w.script = r :: script) (hr : r.select = .ok false)
    (hlen : w.rx.length < modbusTcpMaxAduLength * n) (hf : Flows (n + 1) script) (hc : Calm script) :
    ∃ w', receiveMsg .confirmation stack w = .done (-1, stack) w' ∧ w'.errno = .etimedout ∧
      w'.rx = if w.ctx.recoversLink then [] else w.rx := by
  obtain ⟨tv, hselect⟩ := backendSelect_timedOut hs hr (some w.ctx.responseTimeout)
  have hrecover : ∃ w', recoverAfterSelect
      { w with script, errno := .etimedout, trace := w.trace ++ [.select w.ctx.s] } = .done () w' ∧
        w'.errno = .etimedout ∧ w'.rx = if w.ctx.recoversLink then [] else w.rx := by
    rw [recoverAfterSelect, bind_getCtx]
    by_cases hlink : w.ctx.recoversLink = true
    · obtain ⟨rc, v, hflush, hrx⟩ := sleepAndFlush_returns
        (w := { w with script, errno := .etimedout, trace := w.trace ++ [.select w.ctx.s] }) hlen hf hc
      refine ⟨{ v with errno := .etimedout }, ?_, rfl, ?_⟩
      · dsimp only
        rw [if_pos hlink, bind_getErrno, if_pos rfl, bind_done hflush]
        rfl
      · rw [if_pos hlink]
        exact hrx
    · dsimp only
      rw [if_neg hlink, if_neg hlink]
      exact ⟨_, rfl, rfl, rfl⟩
  obtain ⟨w', hrecover, herrno, hrx⟩ := hrecover
  have hstep : receiveMsgStep .confirmation
      ⟨.function, w.ctx.backend.headerLength + 1, 0, stack, some w.ctx.responseTimeout⟩ w =
        .done (.inr (-1, stack)) w' := by
    rw [receiveMsgStep, if_neg (Nat.succ_ne_zero _), receiveMore, bind_getCtx, bind_done hselect]
    dsimp only
    rw [if_pos rfl, bind_done hrecover]
    rfl
  have hloop : loop (receiveMsgStep .confirmation)
      ⟨.function, w.ctx.backend.headerLength + 1, 0, stack, some w.ctx.responseTimeout⟩ w = _ :=
    iterate_inr _ hstep
  exact ⟨w', hloop, herrno, hrx⟩

lemma confirm_timedOut (req : List UInt8) (op : Operation) (stack : Mem UInt8) (dest : Dest) {k : ℤ} (hk : 0 < k)
    {r : Response} {script : List Response} (hs : w.script = r :: script) (hr : r.select = .ok false) (hlen : w.rx.length < modbusTcpMaxAduLength * n)
    (hf : Flows (n + 1) script) (hc : Calm script) :
    ∃ w', op.confirm stack k req dest w = .done (-1, dest) w' ∧ w'.errno = .etimedout ∧
      w'.rx = if w.ctx.recoversLink then [] else w.rx := by
  obtain ⟨w', hreceive, herrno, hrx⟩ := receiveMsg_timedOut stack hs hr hlen hf hc
  refine ⟨w', ?_, herrno, hrx⟩
  rw [confirm_eq stack req dest op hk, bind_done hreceive]
  rfl

lemma checkConfirmation_other {rsp : Mem UInt8} (rspLength : ℤ) (hb : w.ctx.backend ≠ .rtu)
    (hother : ¬SameExchange w.ctx.backend req rsp) (hlen : w.rx.length < modbusTcpMaxAduLength * n)
    (hf : Flows (n + 1) w.script) (hc : Calm w.script) :
    ∃ w', checkConfirmation req rsp rspLength w = .done (-1) w' ∧
      (w.ctx.recoversProtocol = false → w'.errno = embbaddata) ∧
      w'.rx = if w.ctx.recoversProtocol then [] else w.rx := by
  have herrno : strangerErrno w.ctx.backend = embbaddata := by
    cases hback : w.ctx.backend with
    | rtu => exact absurd hback hb
    | tcp | tcpPi => rfl
  rw [checkConfirmation, bind_getCtx]
  dsimp only
  rw [bind_done (preCheckConfirmation_stranger hother), if_pos rfl]
  by_cases hrec : w.ctx.recoversProtocol = true
  · obtain ⟨rc, v, hflush, hrx⟩ := sleepAndFlush_returns
      (w := { w with errno := strangerErrno w.ctx.backend }) hlen hf hc
    rw [if_pos hrec, if_pos hrec, bind_done hflush]
    exact ⟨v, rfl, fun h => absurd hrec (by rw [h]; decide), hrx⟩
  · rw [if_neg hrec, if_neg hrec]
    exact ⟨_, rfl, fun _ => herrno, rfl⟩

lemma confirm_stranger (op : Operation) (stack : Mem UInt8) (dest : Dest) {k : ℤ} (hk : 0 < k)
    (hb : w.ctx.backend ≠ .rtu) (hframe : IsFrame w.ctx.backend .confirmation frame)
    (hother : ¬SameExchange w.ctx.backend req (stack.write 0 frame)) (hrx : w.rx = frame ++ rest)
    (hlen : rest.length < modbusTcpMaxAduLength * n)
    (hf : Flows (2 * frame.length + (n + 1)) w.script) (hc : Calm w.script) :
    ∃ w', op.confirm stack k req dest w = .done (-1, dest) w' ∧
      (w.ctx.recoversProtocol = false → w'.errno = embbaddata) ∧
      w'.rx = if w.ctx.recoversProtocol then [] else rest := by
  have hwhole (m : Mem UInt8) : integrity w.ctx m frame.length = frame.length := by
    unfold integrity
    cases hback : w.ctx.backend with
    | rtu => exact absurd hback hb
    | tcp | tcpPi => rfl
  have hintact (m : Mem UInt8) : integrity w.ctx m frame.length ≠ -1 := by
    rw [hwhole]
    omega
  obtain ⟨v, hreceive, hvrx, hctx, -, hflows⟩ := receiveMsg_whole hframe hrx (fun m _ => hintact m) stack hf
  have hshrinks : Shrinks w v :=
    (Neutral.receiveMsg (R := Shrinks) (fun _ _ _ => List.suffix_rfl) .confirmation stack).done hreceive
  rw [← hvrx] at hlen
  rw [← hctx] at hb hother
  obtain ⟨w', hcheck, herrno, hrx'⟩ := checkConfirmation_other
    (integrity w.ctx (stack.write 0 frame) frame.length) hb hother hlen hflows (hshrinks.calm hc)
  rw [hctx] at herrno hrx'
  refine ⟨w', ?_, herrno, hvrx ▸ hrx'⟩
  rw [confirm_eq stack req dest op hk, bind_done hreceive, afterReceive, if_neg (hintact _), bind_done hcheck,
    if_pos rfl]
  rfl

end Waits

/-- When the answer comes: while the client waits for it, in the pause that follows a wait in vain, or
after the operation returned. -/
inductive Arrival where
  | prompt
  | pausing
  | late
  deriving DecidableEq

/-- Whether the answer to an operation is still unread after it, when there was an old one before or
not. -/
def Arrival.lags (ctx : Modbus) (old : Bool) : Arrival → Bool
  | prompt => old && !ctx.recoversProtocol
  | pausing => if old then !ctx.recoversProtocol else !ctx.recoversLink
  | late => true

/-- An operation, and when its answer comes. No call fails on either side. -/
structure Attempt where
  exchange : Exchange
  arrival : Arrival
  calm : Calm exchange.clientScript
  enough : callsNeeded + 4 ≤ exchange.clientScript.length

namespace Attempt

def script (e : Attempt) (rx : List UInt8) : List Response :=
  if rx = [] ∧ e.arrival ≠ .prompt then {} :: { select := .ok false } :: e.exchange.clientScript
  else e.exchange.clientScript

def now (e : Attempt) (response : List UInt8) : List UInt8 := if e.arrival = .late then [] else response

def later (e : Attempt) (response : List UInt8) : List UInt8 := if e.arrival = .late then response else []

def Returns (e : Attempt) (ctx : Modbus) (old : Bool) (answer : Option Data) (r : Result) : Prop :=
  if old then
    r.rc = -1 ∧ r.dest = e.exchange.dest ∧ (ctx.recoversProtocol = false → r.errno = some embbaddata)
  else r = if e.arrival = .prompt then e.exchange.result answer
    else ⟨-1, e.exchange.dest, some .etimedout⟩

end Attempt

namespace System

def attempt (sys : System) (e : Attempt) : Option (Result × System) :=
  match e.exchange.call.operation.issue { sys.client with script := e.script sys.client.rx } with
  | .blocked _ => none
  | .done (rc, req) client =>
    match serveRequest e.exchange.buf sys.mapping
        { sys.server with rx := sys.server.rx ++ client.tx, script := e.exchange.serverScript } with
    | .blocked _ => none
    | .done (_, reply) server =>
      match e.exchange.call.operation.confirm e.exchange.stack rc req e.exchange.dest
          { client with rx := client.rx ++ e.now server.tx, tx := [] } with
      | .blocked _ => none
      | .done (rc, dest) client =>
        some (⟨rc, dest, if rc = -1 then some client.errno else none⟩,
          ⟨{ client with rx := client.rx ++ e.later server.tx }, { server with tx := [] }, reply.mapping⟩)

def attempts (sys : System) : List Attempt → Option (List Result × System)
  | [] => some ([], sys)
  | e :: es => do
    let (result, sys) ← sys.attempt e
    let (results, sys) ← sys.attempts es
    return (result :: results, sys)

structure Lagging (sys : System) (old : Bool) : Prop where
  tcp : sys.client.ctx.backend ≠ .rtu
  backend : sys.server.ctx.backend = sys.client.ctx.backend
  tId : sys.client.ctx.tId < 65536
  clientTx : sys.client.tx = []
  serverRx : sys.server.rx = []
  serverTx : sys.server.tx = []
  clientRx : if old then IsFrame sys.client.ctx.backend .confirmation sys.client.rx ∧
    transactionId sys.client.rx = sys.client.ctx.tId else sys.client.rx = []

end System

section Lags

variable {e : Attempt} {ctx : Modbus} {w : World} {bank : Bank} {old : Bool} {rx response : List UInt8}

lemma RepliesWith.short {call : ClientCall} {answer : Option Data} (h : RepliesWith ctx call answer response) :
    response.length ≤ maxMessageLength := by
  obtain ⟨_, rsp, _, _, -, hshape, -, rfl⟩ := h
  exact hshape.frame.allowed.trans (maxAduLength_le _)

lemma RepliesWith.isFrame {call : ClientCall} {answer : Option Data}
    (h : RepliesWith ctx call answer response) : IsFrame ctx.backend .confirmation response := by
  obtain ⟨_, rsp, _, _, -, hshape, -, rfl⟩ := h
  exact hshape.frame

lemma request_transactionId (call : ClientCall) (htcp : ctx.backend ≠ .rtu) (htId : ctx.tId < 65536) :
    transactionId (call.request ctx) = (ctx.tId + 1) % 65536 := by
  rw [ClientCall.request, transactionId_sendMsgPre htcp]
  exact transactionId_header (w := .start ctx [] []) htcp htId call.pdu

lemma RepliesWith.transactionId {call : ClientCall} {answer : Option Data}
    (h : RepliesWith ctx call answer response) (htcp : ctx.backend ≠ .rtu) (htId : ctx.tId < 65536) :
    LibModbus.transactionId response = (ctx.tId + 1) % 65536 := by
  obtain ⟨m, rsp, header, pdu, hm, hshape, -, rfl⟩ := h
  have hhead := headerLength_tcp htcp
  have hlen : 1 < (call.request ctx).length := by
    rw [ClientCall.request, sendMsgPre_length, List.length_append, requestHeader_length]
    omega
  have hbyte (j : ℕ) (hj : j < 2) : rsp.getD j 0 = (call.request ctx).getD j 0 := by
    rw [hshape.split, List.getD_append _ _ _ _ (by rw [hshape.header_length]; omega),
      hshape.header_eq j (by omega) (.inl hj), hm j (by omega), List.getD_eq_getElem]
  rw [transactionId_sendMsgPre htcp, ← request_transactionId call htcp htId, LibModbus.transactionId,
    LibModbus.transactionId, hbyte 0 (by decide), hbyte 1 (by decide)]

lemma stranger_old (call : ClientCall) (stack : Mem UInt8) (htcp : ctx.backend ≠ .rtu)
    (htId : ctx.tId < 65536) (hframe : IsFrame ctx.backend .confirmation rx)
    (hid : transactionId rx = ctx.tId) :
    ¬SameExchange ctx.backend (call.request ctx) (stack.write 0 rx) := by
  intro hsame
  have hlen := hframe.header_lt
  rw [headerLength_tcp htcp] at hlen
  have hbytes : (call.request ctx).getD 0 0 = rx.getD 0 0 ∧ (call.request ctx).getD 1 0 = rx.getD 1 0 := by
    have hmem := Mem.holds_write_self stack rx
    rw [← hmem.getD 0 (by omega), ← hmem.getD 0 (by omega)]
    cases hback : ctx.backend with
    | rtu => exact absurd hback htcp
    | tcp | tcpPi => rwa [hback] at hsame
  have hnew := request_transactionId call htcp htId
  rw [transactionId, hbytes.1, hbytes.2, ← transactionId, hid] at hnew
  omega

lemma Attempt.now_append_later (e : Attempt) (response : List UInt8) :
    e.now response ++ e.later response = response := by
  unfold Attempt.now Attempt.later
  split_ifs
  · rfl
  · exact List.append_nil _

lemma Attempt.now_short (hshort : response.length ≤ maxMessageLength) :
    (e.now response).length < modbusTcpMaxAduLength * 2 := by
  unfold Attempt.now
  split_ifs
  · exact Nat.mul_pos (by decide) (by decide)
  · exact hshort.trans_lt (by decide)

lemma Attempt.flows (e : Attempt) : Flows (callsNeeded + 4) e.exchange.clientScript :=
  ⟨e.enough, e.exchange.clientFlows.2⟩

lemma confirm_vain (hctx : w.ctx = nextRequest ctx) (hvain : e.arrival ≠ .prompt) (req : List UInt8) {k : ℤ} (hk : 0 < k)
    (hs : w.script = { select := .ok false } :: e.exchange.clientScript)
    (hshort : response.length ≤ maxMessageLength) (hrx : w.rx = e.now response) {answer : Option Data} :
    ∃ w' rc dest, e.exchange.call.operation.confirm e.exchange.stack k req e.exchange.dest w =
        .done (rc, dest) w' ∧
      e.Returns ctx false answer ⟨rc, dest, if rc = -1 then some w'.errno else none⟩ ∧
      w'.rx ++ e.later response = if e.arrival.lags ctx false then response else [] := by
  obtain ⟨w', hconfirm, herrno, hrx'⟩ := confirm_timedOut req e.exchange.call.operation
    e.exchange.stack e.exchange.dest hk hs rfl (hrx ▸ e.now_short hshort) (e.flows.mono (by decide)) e.calm
  have hlink : w.ctx.recoversLink = ctx.recoversLink := by
    rw [hctx, Modbus.recoversLink, Modbus.recoversLink, nextRequest_errorRecovery]
  refine ⟨w', -1, e.exchange.dest, hconfirm, ?_, ?_⟩
  · rw [Attempt.Returns, if_neg (by decide), if_neg hvain, if_pos rfl, herrno]
  · rw [hrx', hlink, hrx]
    cases harrival : e.arrival with
    | prompt => exact absurd harrival hvain
    | pausing =>
      by_cases hmode : ctx.recoversLink = true <;>
        simp [Attempt.now, Attempt.later, Arrival.lags, harrival, hmode]
    | late => simp [Attempt.now, Attempt.later, harrival, Arrival.lags]

lemma confirm_old (hctx : w.ctx = nextRequest ctx) (htcp : ctx.backend ≠ .rtu) (htId : ctx.tId < 65536)
    (hframe : IsFrame ctx.backend .confirmation rx) (hid : transactionId rx = ctx.tId) {k : ℤ} (hk : 0 < k)
    (hf : Flows (callsNeeded + 3) w.script) (hc : Calm w.script)
    (hshort : response.length ≤ maxMessageLength) (hrx : w.rx = rx ++ e.now response)
    {answer : Option Data} :
    ∃ w' rc dest, e.exchange.call.operation.confirm e.exchange.stack k (e.exchange.call.request ctx)
        e.exchange.dest w = .done (rc, dest) w' ∧
      e.Returns ctx true answer ⟨rc, dest, if rc = -1 then some w'.errno else none⟩ ∧
      w'.rx ++ e.later response = if e.arrival.lags ctx true then response else [] := by
  have hback : w.ctx.backend = ctx.backend := by rw [hctx, nextRequest_backend]
  have hlen : rx.length ≤ maxMessageLength := hframe.allowed.trans (maxAduLength_le _)
  obtain ⟨w', hconfirm, herrno, hrx'⟩ := confirm_stranger e.exchange.call.operation e.exchange.stack
    e.exchange.dest hk (hback ▸ htcp) (hback ▸ hframe)
    (hback ▸ stranger_old e.exchange.call e.exchange.stack htcp htId hframe hid) hrx
    (e.now_short hshort) (hf.mono (by unfold callsNeeded; omega)) hc
  have hprotocol : w.ctx.recoversProtocol = ctx.recoversProtocol := by
    rw [hctx, Modbus.recoversProtocol, Modbus.recoversProtocol, nextRequest_errorRecovery]
  rw [hprotocol] at herrno hrx'
  refine ⟨w', -1, e.exchange.dest, hconfirm, ?_, ?_⟩
  · rw [Attempt.Returns, if_pos rfl, if_pos rfl]
    exact ⟨rfl, rfl, fun h => congrArg some (herrno h)⟩
  · rw [hrx']
    cases harrival : e.arrival with
    | prompt | pausing =>
      by_cases hmode : ctx.recoversProtocol = true <;>
        simp [Attempt.now, Attempt.later, Arrival.lags, harrival, hmode]
    | late => simp [Attempt.now, Attempt.later, harrival, Arrival.lags]

lemma issue_vain (x : Exchange) {script : List Response} (hs : w.script = {} :: script) (htx : w.tx = []) :
    ∃ w', x.call.operation.issue w =
        .done (((x.call.request w.ctx).length : ℤ), x.call.request w.ctx) w' ∧
      w'.ctx = nextRequest w.ctx ∧ w'.rx = w.rx ∧ w'.tx = x.call.request w.ctx ∧ w'.script = script := by
  have hc := CountsFrom_zero x.counts
  have hb : (nextRequest w.ctx).backend = w.ctx.backend := nextRequest_backend w.ctx
  have hsend : sendMsg (requestHeader w.ctx ++ x.call.pdu) { w with ctx := nextRequest w.ctx } = _ :=
    sendMsg_flows hs lossless_default (by dsimp only; rw [hb]; exact ClientCall.request_length hc)
  dsimp only at hsend
  rw [hb] at hsend
  refine ⟨_, (ClientCall.issue_eq (ClientCall.tooMany_false hc) w).trans hsend, rfl, rfl, ?_, rfl⟩
  dsimp only
  rw [htx]
  rfl

lemma issue_calm (e : Attempt) (hs : w.script = e.exchange.clientScript) (htx : w.tx = []) :
    ∃ w', e.exchange.call.operation.issue w =
        .done (((e.exchange.call.request w.ctx).length : ℤ), e.exchange.call.request w.ctx) w' ∧
      w'.ctx = nextRequest w.ctx ∧ w'.rx = w.rx ∧ w'.tx = e.exchange.call.request w.ctx ∧
      Flows (callsNeeded + 3) w'.script ∧ Calm w'.script := by
  have hc := CountsFrom_zero e.exchange.counts
  obtain ⟨w', hissue, hctx, hrx, htx', hf⟩ := ClientCall.issue_flows hc (hs ▸ e.flows)
  rw [htx, List.nil_append] at htx'
  obtain ⟨-, -, hshrinks⟩ := issue_request (ClientCall.tooMany_false hc) hissue
  exact ⟨w', hissue, hctx, hrx, htx', hf, hshrinks.calm (hs ▸ e.calm)⟩

structure Concludes (e : Attempt) (ctx : Modbus) (old : Bool) (answer : Option Data) (response : List UInt8)
    (w : World) (r : ℤ × Dest) (w' : World) : Prop where
  confirm : e.exchange.call.operation.confirm e.exchange.stack (e.exchange.call.request ctx).length
    (e.exchange.call.request ctx) e.exchange.dest w = .done r w'
  returns : e.Returns ctx old answer ⟨r.1, r.2, if r.1 = -1 then some w'.errno else none⟩
  unread : w'.rx ++ e.later response = if e.arrival.lags ctx old then response else []

lemma confirm_attempt (e : Attempt) (bank : Bank) (htcp : w.ctx.backend ≠ .rtu) (htId : w.ctx.tId < 65536) (htx : w.tx = [])
    (hrx : if old then IsFrame w.ctx.backend .confirmation w.rx ∧ transactionId w.rx = w.ctx.tId
      else w.rx = []) :
    ∃ w₁, e.exchange.call.operation.issue { w with script := e.script w.rx } =
        .done (((e.exchange.call.request w.ctx).length : ℤ), e.exchange.call.request w.ctx) w₁ ∧
      w₁.ctx = nextRequest w.ctx ∧ w₁.tx = e.exchange.call.request w.ctx ∧
      ∀ response, RepliesWith w.ctx e.exchange.call (bank.step e.exchange.request).2 response →
        ∃ r w', Concludes e w.ctx old (bank.step e.exchange.request).2 response
          { w₁ with rx := w₁.rx ++ e.now response, tx := [] } r w' := by
  have hk : (0 : ℤ) < (e.exchange.call.request w.ctx).length := by
    exact_mod_cast (ClientCall.request_frame (CountsFrom_zero e.exchange.counts)).pos
  by_cases hvain : w.rx = [] ∧ e.arrival ≠ .prompt
  · have hold : old = false := by
      by_contra hold
      rw [if_pos (by simpa using hold)] at hrx
      exact absurd hvain.1 (List.ne_nil_of_length_pos hrx.1.pos)
    subst hold
    have hscript : e.script w.rx = {} :: { select := .ok false } :: e.exchange.clientScript := if_pos hvain
    obtain ⟨w₁, hissue, hctx, hrx₁, htx₁, hs⟩ :=
      issue_vain (w := { w with script := e.script w.rx }) e.exchange hscript htx
    refine ⟨w₁, hissue, hctx, htx₁, fun response hanswer => ?_⟩
    obtain ⟨w', rc, dest, hconfirm, hreturns, hunread⟩ := confirm_vain
      (w := { w₁ with rx := w₁.rx ++ e.now response, tx := [] }) hctx hvain.2
      (e.exchange.call.request w.ctx) hk hs hanswer.short (by rw [hrx₁, hvain.1]; rfl)
    exact ⟨(rc, dest), w', hconfirm, hreturns, hunread⟩
  · have hscript : e.script w.rx = e.exchange.clientScript := if_neg hvain
    obtain ⟨w₁, hissue, hctx, hrx₁, htx₁, hf, hcalm⟩ :=
      issue_calm (w := { w with script := e.script w.rx }) e hscript htx
    refine ⟨w₁, hissue, hctx, htx₁, fun response hanswer => ?_⟩
    cases old with
    | true =>
      rw [if_pos rfl] at hrx
      obtain ⟨w', rc, dest, hconfirm, hreturns, hunread⟩ := confirm_old
        (w := { w₁ with rx := w₁.rx ++ e.now response, tx := [] }) hctx htcp htId hrx.1 hrx.2 hk hf hcalm
        hanswer.short (by rw [hrx₁])
      exact ⟨(rc, dest), w', hconfirm, hreturns, hunread⟩
    | false =>
      rw [if_neg (by decide)] at hrx
      have hprompt : e.arrival = .prompt := by
        by_contra hne
        exact hvain ⟨hrx, hne⟩
      have hnow : e.now response = response := by rw [Attempt.now, hprompt, if_neg (by decide)]
      have hlater : e.later response = [] := by rw [Attempt.later, hprompt, if_neg (by decide)]
      obtain ⟨w', rc, dest, hconfirm, hresult, -, hrx', -⟩ := confirm_exchange
        (w := { w₁ with rx := w₁.rx ++ e.now response, tx := [] }) (x := e.exchange) hctx
        (fun h => absurd h htcp) hanswer (by rw [hrx₁, hrx, hnow]; rfl)
        (hf.mono (by unfold callsNeeded; omega))
      refine ⟨(rc, dest), w', hconfirm, ?_, ?_⟩
      · rw [Attempt.Returns, if_neg (by decide), if_pos hprompt]
        exact hresult
      · rw [hrx', hlater, hprompt]
        rfl

end Lags

section Runs

variable {sys : System} {bank : Bank} {old : Bool}

lemma attempt_eq {e : Attempt} {k n : ℤ} {req : List UInt8} {c₁ c₂ s₁ : World} {reply : Reply} {r : ℤ × Dest}
    (hissue : e.exchange.call.operation.issue { sys.client with script := e.script sys.client.rx } =
      .done (k, req) c₁)
    (hserve : serveRequest e.exchange.buf sys.mapping
      { sys.server with rx := sys.server.rx ++ c₁.tx, script := e.exchange.serverScript } =
        .done (n, reply) s₁)
    (hconfirm : e.exchange.call.operation.confirm e.exchange.stack k req e.exchange.dest
      { c₁ with rx := c₁.rx ++ e.now s₁.tx, tx := [] } = .done r c₂) :
    sys.attempt e = some (⟨r.1, r.2, if r.1 = -1 then some c₂.errno else none⟩,
      ⟨{ c₂ with rx := c₂.rx ++ e.later s₁.tx }, { s₁ with tx := [] }, reply.mapping⟩) := by
  rw [System.attempt, hissue]
  dsimp only
  rw [hserve]
  dsimp only
  rw [hconfirm]

lemma attempt_lags (h : sys.Lagging old) (hrep : Bank.Represents sys.mapping bank) (e : Attempt) :
    ∃ r sys', sys.attempt e = some (r, sys') ∧
      e.Returns sys.client.ctx old (bank.step e.exchange.request).2 r ∧
      sys'.Lagging (e.arrival.lags sys.client.ctx old) ∧
      sys'.client.ctx.errorRecovery = sys.client.ctx.errorRecovery ∧
      Bank.Represents sys'.mapping (bank.step e.exchange.request).1 := by
  obtain ⟨c₁, hissue, hctx₁, htx₁, hends⟩ := confirm_attempt e bank h.tcp h.tId h.clientTx h.clientRx
  obtain ⟨s₁, reply, response, hserve, hrep', hanswer, hsctx, hsrx, hstx⟩ := @serve_exchange
    { sys.server with rx := sys.server.rx ++ c₁.tx, script := e.exchange.serverScript } sys.client.ctx
    sys.mapping bank e.exchange [] h.backend
    (ClientCall.request_intact h.backend fun hr => absurd hr h.tcp)
    (fun hr => absurd (h.backend.symm.trans hr) h.tcp) hrep
    (by rw [h.serverRx, htx₁, List.append_nil, List.nil_append])
    ⟨e.exchange.buf, e.exchange.serverScript, e.exchange.serverFlows⟩ rfl
  dsimp only at hserve hsctx hstx
  rw [h.serverTx, List.nil_append] at hstx
  obtain ⟨r, c₂, hr⟩ := hends response hanswer
  have hkeeps := (confirm_keeps _ _ _ _ _).done hr.confirm
  have hconfig : c₂.ctx = { nextRequest sys.client.ctx with s := c₂.ctx.s } := by
    rw [← hctx₁]
    exact hkeeps.config
  have hback : c₂.ctx.backend = sys.client.ctx.backend := by
    rw [hconfig]
    exact nextRequest_backend _
  have htId : c₂.ctx.tId = (sys.client.ctx.tId + 1) % 65536 := by
    rw [hconfig]
    exact nextRequest_tId h.tcp h.tId
  refine ⟨_, ⟨{ c₂ with rx := c₂.rx ++ e.later response }, { s₁ with tx := [] }, reply.mapping⟩, ?_, hr.returns,
    ⟨?_, ?_, ?_, hkeeps.tx, hsrx, rfl, ?_⟩, ?_, hrep'⟩
  · rw [attempt_eq hissue hserve (by rw [hstx]; exact hr.confirm), hstx]
  · exact hback.symm ▸ h.tcp
  · dsimp only
    rw [hsctx, hback, h.backend]
  · dsimp only
    omega
  · dsimp only
    rw [hr.unread, hback, htId]
    split_ifs
    · exact ⟨hanswer.isFrame, hanswer.transactionId h.tcp h.tId⟩
    · rfl
  · dsimp only
    rw [hconfig]
    exact nextRequest_errorRecovery _

variable {ctx ctx' : Modbus}

lemma lags_congr (h : ctx'.errorRecovery = ctx.errorRecovery) (a : Arrival) (old : Bool) :
    a.lags ctx' old = a.lags ctx old := by
  simp only [Arrival.lags, Modbus.recoversProtocol, Modbus.recoversLink, h]

def lagsAfter (ctx : Modbus) (old : Bool) (es : List Attempt) : Bool :=
  es.foldl (fun old e => e.arrival.lags ctx old) old

lemma attempts_lag (h : sys.Lagging old) (hrep : Bank.Represents sys.mapping bank) (es : List Attempt) :
    ∃ results sys', sys.attempts es = some (results, sys') ∧
      sys'.Lagging (lagsAfter sys.client.ctx old es) ∧
      sys'.client.ctx.errorRecovery = sys.client.ctx.errorRecovery ∧
      Bank.Represents sys'.mapping (bank.run (es.map fun e => e.exchange.request)).1 := by
  induction es generalizing sys bank old with
  | nil => exact ⟨[], sys, rfl, h, rfl, hrep⟩
  | cons e es ih =>
    obtain ⟨r, sys₁, hattempt, -, h₁, hmode, hrep₁⟩ := attempt_lags h hrep e
    obtain ⟨results, sys₂, hrun, h₂, hmode₂, hrep₂⟩ := ih h₁ hrep₁
    refine ⟨r :: results, sys₂, ?_, ?_, hmode₂.trans hmode, hrep₂⟩
    · rw [System.attempts, hattempt, Option.bind_eq_bind, Option.bind_some]
      dsimp only
      rw [hrun]
      rfl
    · have hlags : (fun (old : Bool) (e : Attempt) => e.arrival.lags sys₁.client.ctx old) =
          fun old e => e.arrival.lags sys.client.ctx old :=
        funext₂ fun old e => lags_congr hmode e.arrival old
      rw [lagsAfter, List.foldl_cons]
      rw [lagsAfter, hlags] at h₂
      exact h₂

lemma attempts_attempt (h : sys.Lagging old) (hrep : Bank.Represents sys.mapping bank) (es : List Attempt)
    (e : Attempt) : ∃ results sys₁ r sys₂, sys.attempts es = some (results, sys₁) ∧
      sys₁.attempt e = some (r, sys₂) ∧
      e.Returns sys.client.ctx (lagsAfter sys.client.ctx old es)
        ((bank.run (es.map fun e => e.exchange.request)).1.step e.exchange.request).2 r ∧
      Bank.Represents sys₂.mapping
        ((bank.run (es.map fun e => e.exchange.request)).1.step e.exchange.request).1 := by
  obtain ⟨results, sys₁, hrun, h₁, hmode, hrep₁⟩ := attempts_lag h hrep es
  obtain ⟨r, sys₂, hattempt, hreturns, -, -, hrep₂⟩ := attempt_lags h₁ hrep₁ e
  refine ⟨results, sys₁, r, sys₂, hrun, hattempt, ?_, hrep₂⟩
  simpa only [Attempt.Returns, Modbus.recoversProtocol, hmode] using hreturns

end Runs

section Recovery

variable {sys : System} {old : Bool} {ctx : Modbus}

def Attempt.TooLate (ctx : Modbus) (e : Attempt) : Prop :=
  e.arrival = .late ∨ e.arrival = .pausing ∧ ctx.recoversLink = false

lemma tooLate_iff (e : Attempt) : e.arrival.lags ctx false = true ↔ e.TooLate ctx := by
  unfold Attempt.TooLate Arrival.lags
  cases e.arrival <;> simp

lemma lagsAfter_stays (old : Bool) (hrec : ctx.recoversProtocol = false) (es : List Attempt) :
    lagsAfter ctx old es = true ↔ old = true ∨ ∃ e ∈ es, e.TooLate ctx := by
  induction es generalizing old with
  | nil => simp [lagsAfter]
  | cons e es ih =>
    have hold : e.arrival.lags ctx true = true := by
      unfold Arrival.lags
      cases e.arrival <;> simp [hrec]
    rw [lagsAfter, List.foldl_cons, ← lagsAfter, ih, List.exists_mem_cons_iff]
    cases old with
    | true => simp [hold]
    | false => simp only [tooLate_iff, Bool.false_eq_true, false_or]

lemma lagsAfter_passes (hlink : ctx.recoversLink = true) (hrec : ctx.recoversProtocol = true)
    (es : List Attempt) (e : Attempt) : lagsAfter ctx old (es ++ [e]) = decide (e.arrival = .late) := by
  rw [lagsAfter, List.foldl_append, List.foldl_cons, List.foldl_nil]
  cases e.arrival <;> simp [Arrival.lags, hlink, hrec]

/-- Without protocol recovery one answer that comes too late is enough: every operation behind it fails,
although the server carries out all of them. -/
theorem late_answer_stays (h : sys.Lagging old) (hb : sys.mapping.Binary)
    (hrec : sys.client.ctx.recoversProtocol = false) (es : List Attempt) (e : Attempt) :
    ∃ results sys₁ r sys₂, sys.attempts es = some (results, sys₁) ∧ sys₁.attempt e = some (r, sys₂) ∧
      (old = true ∨ (∃ e ∈ es, e.TooLate sys.client.ctx) → r = ⟨-1, e.exchange.dest, some embbaddata⟩) ∧
      (old = false → (∀ e ∈ es, ¬e.TooLate sys.client.ctx) → r = if e.arrival = .prompt then
        e.exchange.result
          ((sys.mapping.bank.run (es.map fun e => e.exchange.request)).1.step e.exchange.request).2
        else ⟨-1, e.exchange.dest, some .etimedout⟩) ∧
      Bank.Represents sys₂.mapping
        ((sys.mapping.bank.run (es.map fun e => e.exchange.request)).1.step e.exchange.request).1 := by
  obtain ⟨results, sys₁, r, sys₂, hrun, hattempt, hreturns, hrep⟩ :=
    attempts_attempt h (represents_bank hb) es e
  have hold := lagsAfter_stays old hrec es
  refine ⟨results, sys₁, r, sys₂, hrun, hattempt, fun hlate => ?_, fun hnone hprompt => ?_, hrep⟩
  · rw [Attempt.Returns, if_pos (hold.mpr hlate)] at hreturns
    obtain ⟨rc, dest, errno⟩ := r
    obtain ⟨rfl, rfl, herrno⟩ := hreturns
    rw [show errno = some embbaddata from herrno hrec]
  · rw [Attempt.Returns, if_neg] at hreturns
    · exact hreturns
    · rw [hold, hnone]
      rintro (hfalse | ⟨e, he, hlate⟩)
      · exact Bool.false_ne_true hfalse
      · exact hprompt e he hlate

def patientExchange (call : ClientCall) (request : Request) (hm : call.meaning = some request)
    (ha : call.Addressed) (hc : call.CountsFrom 1) : Exchange :=
  { losslessExchange call request hm ha hc with
    clientScript := List.replicate (callsNeeded + 4) {}
    clientFlows := (flows_replicate _).mono (Nat.le_add_right _ _) }

def Arrival.of (arrival : Arrival) (call : ClientCall) (request : Request)
    (hm : call.meaning = some request) (ha : call.Addressed) (hc : call.CountsFrom 1) : Attempt where
  exchange := patientExchange call request hm ha hc
  arrival := arrival
  calm r hr := by
    rw [List.eq_of_mem_replicate hr]
    exact ⟨rfl, rfl⟩
  enough := by rw [patientExchange, List.length_replicate]

def lateWrite : Attempt := Arrival.late.of (.writeRegister 8 7) _ rfl (by decide) (by decide)

def promptRead : Attempt := Arrival.prompt.of (.readRegisters 8 1) _ rfl (by decide) (by decide)

theorem late_answer_stays_example : ∃ results sys₁ sys₂,
    smallSystem.attempts [lateWrite, promptRead] = some (results, sys₁) ∧
    sys₁.attempt promptRead = some (⟨-1, ⟨fun _ => 0, fun _ => 0⟩, some embbaddata⟩, sys₂) ∧
    Bank.Represents sys₂.mapping
      ⟨List.replicate 10 false, List.replicate 10 false, [0, 0, 0, 0, 0, 0, 0, 0, 7, 0],
        List.replicate 10 0⟩ := by
  obtain ⟨results, sys₁, r, sys₂, hrun, hattempt, hlate, -, hrep⟩ :=
    @late_answer_stays smallSystem false
      ⟨by decide, rfl, by decide, rfl, rfl, rfl, rfl⟩ ⟨fun _ _ => .inl rfl, fun _ _ => .inl rfl⟩ rfl
      [lateWrite, promptRead] promptRead
  have hold : ∃ e ∈ [lateWrite, promptRead], e.TooLate smallSystem.client.ctx :=
    ⟨lateWrite, List.mem_cons_self, .inl rfl⟩
  rw [hlate (.inr hold)] at hattempt
  exact ⟨results, sys₁, sys₂, hrun, hattempt, hrep⟩

/-- In the recovery modes of a `ModbusDevice` it costs only the next operation. -/
theorem late_answer_passes (h : sys.Lagging old) (hb : sys.mapping.Binary)
    (hlink : sys.client.ctx.recoversLink = true) (hrec : sys.client.ctx.recoversProtocol = true)
    (es : List Attempt) (last e : Attempt) : ∃ results sys₁ r sys₂,
      sys.attempts (es ++ [last]) = some (results, sys₁) ∧ sys₁.attempt e = some (r, sys₂) ∧
      (last.arrival = .late → r.rc = -1 ∧ r.dest = e.exchange.dest) ∧
      (last.arrival ≠ .late → r = if e.arrival = .prompt then e.exchange.result
          ((sys.mapping.bank.run ((es ++ [last]).map fun e => e.exchange.request)).1.step e.exchange.request).2
        else ⟨-1, e.exchange.dest, some .etimedout⟩) ∧
      Bank.Represents sys₂.mapping
        ((sys.mapping.bank.run ((es ++ [last]).map fun e => e.exchange.request)).1.step e.exchange.request).1 := by
  obtain ⟨results, sys₁, r, sys₂, hrun, hattempt, hreturns, hrep⟩ :=
    attempts_attempt h (represents_bank hb) (es ++ [last]) e
  rw [lagsAfter_passes hlink hrec, Attempt.Returns] at hreturns
  refine ⟨results, sys₁, r, sys₂, hrun, hattempt, fun hlate => ?_, fun hlate => ?_, hrep⟩
  · rw [if_pos (decide_eq_true hlate)] at hreturns
    exact ⟨hreturns.1, hreturns.2.1⟩
  · rwa [if_neg (by simpa using hlate)] at hreturns

def recoveringSystem : System :=
  { smallSystem with client := .start recoveringTcp [] [] }

theorem late_answer_passes_example : ∃ results sys₁ sys₂,
    recoveringSystem.attempts [lateWrite, promptRead] = some (results, sys₁) ∧
    sys₁.attempt promptRead = some (promptRead.exchange.result (some (.words [7])), sys₂) := by
  obtain ⟨results, sys₁, r, sys₂, hrun, hattempt, -, hprompt, -⟩ :=
    @late_answer_passes recoveringSystem false
      ⟨by decide, rfl, by decide, rfl, rfl, rfl, rfl⟩ ⟨fun _ _ => .inl rfl, fun _ _ => .inl rfl⟩
      (by decide) (by decide) [lateWrite] promptRead promptRead
  rw [hprompt (by decide)] at hattempt
  exact ⟨results, sys₁, sys₂, hrun, hattempt⟩

end Recovery

end LibModbus
