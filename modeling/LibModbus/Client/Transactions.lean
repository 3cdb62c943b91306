import LibModbus.Client.Answers
import LibModbus.Client.Contexts

/-! The transaction identifiers of a TCP client: which requests and answers carry which. -/

namespace LibModbus

open Library Library.Prog

def transactionId (frame : List UInt8) : ℕ := word (frame.getD 0 0) (frame.getD 1 0)

def ContextCall.request (ctx : Modbus) : ContextCall → Option (List UInt8)
  | client (.operation call _ _) =>
    if call.operation.tooMany then none else some (call.operation.build ctx).2
  | _ => none

namespace World

def requests : World → List ContextTurn → List (List UInt8)
  | _, [] => []
  | w, t :: ts => (t.call.request w.ctx).toList ++ requests (w.turn t) ts

end World

structure SameCounter (w w' : World) : Prop where
  backend : w'.ctx.backend = w.ctx.backend
  tId : w'.ctx.tId = w.ctx.tId

instance : Unaffected SameCounter where
  refl _ := ⟨rfl, rfl⟩
  trans _ _ _ h h' := ⟨h'.backend.trans h.backend, h'.tId.trans h.tId⟩
  script _ _ _ := ⟨rfl, rfl⟩
  errno _ _ := ⟨rfl, rfl⟩
  rx _ _ := ⟨rfl, rfl⟩
  tx _ _ := ⟨rfl, rfl⟩
  socket _ _ := ⟨rfl, rfl⟩
  call _ _ _ := ⟨rfl, rfl⟩
  send _ _ _ := ⟨rfl, rfl⟩
  stored _ _ _ := ⟨rfl, rfl⟩
  ignore _ _ := ⟨rfl, rfl⟩
  slave _ _ := ⟨rfl, rfl⟩
  recovery _ _ := ⟨rfl, rfl⟩

section Counting

lemma keeps_confirm (op : Operation) (stack : Mem UInt8) (rc : ℤ) (req : List UInt8) (dest : Dest) :
    Keeps SameCounter (op.confirm stack rc req dest) :=
  .of_maintains fun _ => Attached.confirm (fun _ _ _ h => ⟨h.backend, h.tId⟩) stack rc req dest

lemma operation_counts (call : ClientCall) (stack : Mem UInt8) (dest : Dest) (w : World) :
    SameCounter (if call.operation.tooMany then w else { w with ctx := nextRequest w.ctx })
      (call.operation.run stack dest w).state := by
  unfold Operation.run Operation.issue
  split_ifs with h
  · have hrest : Keeps SameCounter ((do
        setErrno embmdata
        return ((-1 : ℤ), ([] : List UInt8))) >>= fun r => call.operation.confirm stack r.1 r.2 dest) :=
      .bind (.bind (Neutral.setErrno _) fun _ => .pure _) fun r => keeps_confirm _ _ _ _ _
    exact hrest w
  · have hrest : Keeps SameCounter (sendMsg (call.operation.build w.ctx).2 >>= fun r =>
        call.operation.confirm stack r.1 r.2 dest) :=
      .bind (Neutral.sendMsg _) fun r => keeps_confirm _ _ _ _ _
    have hctx : (call.operation.build w.ctx).1 = nextRequest w.ctx := by rw [call.build_eq]
    rw [← hctx]
    exact hrest _

lemma turn_counter (w : World) (t : ContextTurn) : SameCounter
    (if (t.call.request w.ctx).isSome then { w with ctx := nextRequest w.ctx } else w) (w.turn t) := by
  have hother (h : t.call.request w.ctx = none) (hkeeps : SameCounter w (w.turn t)) : SameCounter
      (if (t.call.request w.ctx).isSome then { w with ctx := nextRequest w.ctx } else w) (w.turn t) := by
    rwa [h, if_neg (by simp)]
  have hquiet (hop : ∀ c stack dest, t.call ≠ .client (.operation c stack dest))
      (hresponse : ∀ timeout, t.call ≠ .setResponseTimeout timeout)
      (hbyte : ∀ timeout, t.call ≠ .setByteTimeout timeout) : SameCounter w (w.turn t) := by
    have h := Unaffected.run (R := SameCounter) t.call
      (fun c stack dest hc => absurd hc (hop c stack dest)) hresponse hbyte
      { w with script := t.script, rx := w.rx ++ t.rx }
    exact ⟨h.backend, h.tId⟩
  obtain ⟨call, script, rx⟩ := t
  cases call with
  | setResponseTimeout timeout | setByteTimeout timeout => exact hother rfl ⟨rfl, rfl⟩
  | client use =>
    cases use with
    | operation c stack dest =>
      have h := operation_counts c stack dest { w with script, rx := w.rx ++ rx }
      have hstate : (w.turn ⟨.client (.operation c stack dest), script, rx⟩) =
        (c.operation.run stack dest { w with script, rx := w.rx ++ rx }).state := state_ignored _ _
      rw [hstate, ContextCall.request]
      split_ifs at h ⊢ with htoo hsome hsome
      · exact absurd hsome (by simp)
      · exact ⟨h.backend, h.tId⟩
      · exact ⟨h.backend, h.tId⟩
      · exact absurd rfl hsome
    | sendRawRequest | receiveConfirmation | flush =>
      exact hother rfl (hquiet (fun _ _ _ => nofun) (fun _ => nofun) fun _ => nofun)
  | _ => exact hother rfl (hquiet (fun _ _ _ => nofun) (fun _ => nofun) fun _ => nofun)

end Counting

lemma request_some {ctx : Modbus} {call : ContextCall} {r : List UInt8} (h : call.request ctx = some r) :
    ∃ c : ClientCall, r = requestHeader ctx ++ c.pdu := by
  unfold ContextCall.request at h
  split at h
  · rename_i c _ _
    split_ifs at h
    obtain rfl := Option.some.inj h
    exact ⟨c, by rw [c.build_eq]⟩
  · contradiction

section Identifiers

variable {w : World} (hb : w.ctx.backend ≠ .rtu) (ht : w.ctx.tId < 65536)

include hb ht

lemma nextRequest_tId : (nextRequest w.ctx).tId = (w.ctx.tId + 1) % 65536 := by
  unfold nextRequest
  cases hback : w.ctx.backend with
  | rtu => exact absurd hback hb
  | tcp | tcpPi =>
    dsimp only
    split_ifs <;> omega

lemma transactionId_header (rest : List UInt8) :
    transactionId (requestHeader w.ctx ++ rest) = (w.ctx.tId + 1) % 65536 := by
  have hid := nextRequest_tId hb ht
  have hword : word (hiByte (nextRequest w.ctx).tId) (loByte (nextRequest w.ctx).tId) =
      (w.ctx.tId + 1) % 65536 := by
    rw [word_bytes_nat (by omega), hid]
  unfold transactionId requestHeader
  cases hback : w.ctx.backend with
  | rtu => exact absurd hback hb
  | tcp | tcpPi => exact hword

lemma requests_count (ts : List ContextTurn) :
    (∀ i r, (w.requests ts)[i]? = some r → transactionId r = (w.ctx.tId + i + 1) % 65536) ∧
      (w.turns ts).ctx.backend ≠ .rtu ∧
        (w.turns ts).ctx.tId = (w.ctx.tId + (w.requests ts).length) % 65536 := by
  induction ts generalizing w with
  | nil => exact ⟨fun i r h => absurd h nofun, hb, (Nat.mod_eq_of_lt ht).symm⟩
  | cons t ts ih =>
    have hturn := turn_counter w t
    rw [World.requests]
    cases hreq : t.call.request w.ctx with
    | none =>
      rw [hreq, if_neg (by simp)] at hturn
      rw [Option.toList_none, List.nil_append, ← hturn.tId]
      exact ih (hturn.backend ▸ hb) (hturn.tId ▸ ht)
    | some r₀ =>
      rw [hreq, if_pos (by simp)] at hturn
      have hid := nextRequest_tId hb ht
      have hback : (w.turn t).ctx.backend ≠ .rtu := by
        rw [hturn.backend]
        exact (nextRequest_backend w.ctx) ▸ hb
      have htId : (w.turn t).ctx.tId = (w.ctx.tId + 1) % 65536 := hturn.tId.trans hid
      obtain ⟨hids, hback', hcount⟩ := ih hback (by omega)
      refine ⟨fun i r hr => ?_, hback', ?_⟩
      · cases i with
        | zero =>
          obtain rfl := Option.some.inj hr
          obtain ⟨c, rfl⟩ := request_some hreq
          exact transactionId_header hb ht c.pdu
        | succ i =>
          rw [hids i r hr, htId]
          omega
      · rw [Option.toList_some, List.singleton_append, List.length_cons]
        have hturns : (w.turns (t :: ts)).ctx.tId = ((w.turn t).turns ts).ctx.tId := rfl
        rw [hturns, hcount, htId]
        omega

end Identifiers

section Answers

/-- Any 65536 consecutive requests carry different identifiers. -/
def DistinctIds (requests : List (List UInt8)) : Prop :=
  ∀ i j r s, requests[i]? = some r → requests[j]? = some s → i < j → j < i + 65536 →
    transactionId r ≠ transactionId s

/-- The answer that an operation accepted carries the identifier of its own request, and of none of the
65535 requests before it. -/
def FreshAnswer (earlier : List (List UInt8)) (call : ClientCall) (stack : Mem UInt8) (w : World) : Prop :=
  ∃ req frame, Accepts call.operation stack w req frame ∧ transactionId frame = transactionId req ∧
    ∀ i r, earlier[i]? = some r → earlier.length ≤ i + 65535 → transactionId frame ≠ transactionId r

lemma transactionId_sendMsgPre {b : Backend} (hb : b ≠ .rtu) (msg : List UInt8) :
    transactionId (sendMsgPre b msg) = transactionId msg := by
  cases b with
  | rtu => exact absurd rfl hb
  | tcp | tcpPi =>
    simp only [transactionId, sendMsgPre, tcpSendMsgPre, List.getD_eq_getElem?_getD]
    rw [List.getElem?_set_ne (by decide), List.getElem?_set_ne (by decide),
      List.getElem?_set_ne (by decide), List.getElem?_set_ne (by decide)]

lemma Accepts.transactionId {call : ClientCall} {stack : Mem UInt8} {w : World} {req frame : List UInt8}
    (h : Accepts call.operation stack w req frame) (hs : SendsTake w.script)
    (hb : w.ctx.backend ≠ .rtu) : transactionId frame = LibModbus.transactionId req ∧
      LibModbus.transactionId req = LibModbus.transactionId (requestHeader w.ctx ++ call.pdu) := by
  obtain ⟨n, ctx, hchecked⟩ := h.checked hs
  have hlong : 8 ≤ frame.length := by
    rw [hchecked.length, frameLength, headLength]
    have hhead : w.ctx.backend.headerLength = 7 := by
      cases hback : w.ctx.backend with
      | rtu => exact absurd hback hb
      | tcp | tcpPi => rfl
    omega
  have hmem := Mem.holds_write_self stack frame
  have hexchange := hchecked.confirms.exchange
  have hsame : req.getD 0 0 = frame[0] ∧ req.getD 1 0 = frame[1] := by
    rw [← hmem 0 (by omega), ← hmem 1 (by omega)]
    cases hback : w.ctx.backend with
    | rtu => exact absurd hback hb
    | tcp | tcpPi => rwa [hback] at hexchange
  refine ⟨?_, ?_⟩
  · unfold LibModbus.transactionId
    rw [hsame.1, hsame.2, List.getD_eq_getElem _ _ (by omega), List.getD_eq_getElem _ _ (by omega)]
  · rw [hchecked.request]
    exact transactionId_sendMsgPre hb _

/-- In every run of a TCP context consecutive requests carry different identifiers, and an operation that
succeeds accepted an answer to its own request, whatever is on the link. -/
theorem answers_fresh {b : Backend} (hb : b ≠ .rtu) (w : World) (hw : w.ctx = newContext b)
    (before : List ContextTurn) :
    DistinctIds (w.requests before) ∧ ∀ call stack dest script rx, SendsTake script → ∀ rc dest' w',
      call.operation.run stack dest { w.turns before with script, rx := (w.turns before).rx ++ rx } =
        .done (rc, dest') w' → rc ≠ -1 →
      FreshAnswer (w.requests before) call stack
        { w.turns before with script, rx := (w.turns before).rx ++ rx } := by
  have hback : w.ctx.backend ≠ .rtu := by
    rw [hw]
    cases b with
    | rtu => exact absurd rfl hb
    | tcp | tcpPi => exact nofun
  have ht : w.ctx.tId < 65536 := by
    rw [hw]
    cases b <;> decide
  obtain ⟨hids, hback', hcount⟩ := requests_count hback ht before
  refine ⟨fun i j r s hr hs hij hlt => ?_, fun call stack dest script rx hsends rc dest' w' hrun hrc => ?_⟩
  · rw [hids i r hr, hids j s hs]
    omega
  · obtain ⟨req, frame, hacc⟩ := run_accepts hsends hrun hrc
    obtain ⟨hframe, hreq⟩ := hacc.transactionId hsends hback'
    refine ⟨req, frame, hacc, hframe, fun i r hr hnear => ?_⟩
    have hlt := (List.getElem?_eq_some_iff.mp hr).1
    have hown := transactionId_header (w := w.turns before) hback' (by omega) call.pdu
    rw [hframe, hreq, hown, hcount, hids i r hr]
    omega

def lostRequest : List ContextTurn :=
  [⟨.client (.operation (.readRegisters 0 1) (fun _ => 0) ⟨fun _ => 0, fun _ => 0⟩),
    [{}, { select := .ok false }], []⟩]

def secondRequest : World :=
  { (World.start modbusNewTcp [] []).turns lostRequest with
    script := List.replicate 13 {}
    rx := [0, 2, 0, 0, 0, 5, 255, 3, 2, 0, 7] }

lemma second_run : ∃ dest w', (ClientCall.readRegisters 0 1).operation.run (fun _ => 0)
    ⟨fun _ => 0, fun _ => 0⟩ secondRequest = .done (1, dest) w' := by
  apply run_returns
  decide +kernel

theorem answers_fresh_example :
    FreshAnswer ((World.start modbusNewTcp [] []).requests lostRequest) (.readRegisters 0 1) (fun _ => 0)
      secondRequest := by
  obtain ⟨dest, w', hrun⟩ := second_run
  have hfresh := answers_fresh (b := .tcp) (by decide) (World.start modbusNewTcp [] []) rfl lostRequest
  exact hfresh.2 (.readRegisters 0 1) (fun _ => 0) _ (List.replicate 13 {})
    [0, 2, 0, 0, 0, 5, 255, 3, 2, 0, 7] (by decide) 1 dest w' hrun (by decide)

end Answers

end LibModbus
