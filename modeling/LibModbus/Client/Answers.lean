import LibModbus.Client.Storage

/-! What a client operation took for the answer to its request, when it reports success. -/

namespace LibModbus

open Library Library.Prog

section Sending

def SendsTake (script : List Response) : Prop := ∀ r ∈ script, r.send ≠ .ok 0

instance (script : List Response) : Decidable (SendsTake script) :=
  inferInstanceAs (Decidable (∀ r ∈ script, r.send ≠ .ok 0))

lemma Shrinks.sendsTake {w w' : World} (h : Shrinks w w') (hw : SendsTake w.script) :
    SendsTake w'.script :=
  fun r hr => hw r (h.subset hr)

lemma sendsTake_keeps {α : Type} {m : M α} (h : Keeps Shrinks m) :
    Maintains (fun w => SendsTake w.script) (fun w => SendsTake w.script) m :=
  h.triple fun _ _ hw hs => hs.sendsTake hw

variable {msg : List UInt8}

def SentSome (rc : ℤ) (w : World) : Prop := SendsTake w.script ∧ (rc = -1 ∨ 0 < rc)

lemma osSend_takes (fd : ℤ) (hmsg : msg ≠ []) : Triple (fun w => SendsTake w.script) (osSend fd msg)
    SentSome (fun _ => True) := by
  intro w hw
  rw [osSend, record, bind_modify_apply, bind_apply]
  unfold ask
  cases hs : w.script with
  | nil => trivial
  | cons r rest =>
    have hrest : SendsTake rest := fun r' hr' => hw r' (hs ▸ List.mem_cons_of_mem _ hr')
    have hr : r.send ≠ .ok 0 := hw r (hs ▸ List.mem_cons_self)
    dsimp only
    cases hsend : r.send with
    | error e => exact ⟨hrest, .inl rfl⟩
    | ok n =>
      refine ⟨hrest, .inr ?_⟩
      have hn : n ≠ 0 := fun h => hr (h ▸ hsend)
      have hlen := List.length_pos_of_ne_nil hmsg
      rw [List.length_take]
      omega

lemma sendMsgStep_takes (hmsg : msg ≠ []) (u : Unit) : Triple (fun w => SendsTake w.script)
    (sendMsgStep msg u) (fun r w => r.elim (fun _ => SendsTake w.script) (SentSome · w))
      (fun _ => True) := by
  have hkeeps {α : Type} {m : M α} (h : Keeps Shrinks m) : Triple (fun w => SendsTake w.script) m
      (fun _ w => SendsTake w.script) fun _ => True :=
    (sendsTake_keeps h).weaken (fun _ hw => hw) (fun _ _ hw => hw) fun _ _ => trivial
  refine .bind (.bind (hkeeps Neutral.getCtx) fun ctx => osSend_takes ctx.s hmsg) fun rc => ?_
  refine .bind (Q := fun _ => SentSome rc) (fun w hw => hw) fun ctx => ?_
  refine .ite (fun _ => ?_) fun _ => .pure fun _ hw => hw
  refine Triple.pre ?_ fun w (hw : SentSome rc w) => hw.1
  refine .bind (hkeeps Neutral.getErrno) fun e => .ite (fun _ => ?_) fun _ => ?_
  · exact .bind (hkeeps Neutral.reconnect) fun _ => .bind (hkeeps (Neutral.setErrno e)) fun _ =>
      .pure fun _ hw => hw
  · have hflush : Keeps Shrinks sleepAndFlush := .of_maintains fun _ => Attached.sleepAndFlush
    exact .bind (hkeeps hflush) fun _ => .bind (hkeeps (Neutral.setErrno e)) fun _ =>
      .pure fun _ hw => hw

lemma sendMsg_takes {w : World} (hmsg : sendMsgPre w.ctx.backend msg ≠ []) (hw : SendsTake w.script)
    {rc : ℤ} {req : List UInt8} {w' : World} (h : sendMsg msg w = .done (rc, req) w') :
    (rc = -1 ∨ 0 < rc) ∧ req = sendMsgPre w.ctx.backend msg := by
  rw [sendMsg, bind_getCtx] at h
  obtain ⟨rc₀, w₁, hloop, h⟩ := bind_eq_done.mp h
  have hsent : SentSome rc₀ w₁ :=
    (Triple.iterate (I := fun _ w => SendsTake w.script) (Q := SentSome) (sendMsgStep_takes hmsg)
      (fun _ _ _ => trivial) _ _).done hw hloop
  split_ifs at h
  · rw [bind_setErrno] at h
    obtain ⟨h, -⟩ := Outcome.done.inj h
    obtain ⟨rfl, rfl⟩ := Prod.mk.inj h
    exact ⟨.inl rfl, rfl⟩
  · obtain ⟨h, -⟩ := Outcome.done.inj h
    obtain ⟨rfl, rfl⟩ := Prod.mk.inj h
    exact ⟨hsent.2, rfl⟩

end Sending

section Confirming

variable {req : List UInt8} {rsp : Mem UInt8} {rspLength : ℤ} {w : World}

def SameExchange (b : Backend) (req : List UInt8) (rsp : Mem UInt8) : Prop :=
  match b with
  | .rtu => req.getD 0 0 = 0 ∨ req.getD 0 0 = rsp 0
  | .tcp | .tcpPi => req.getD 0 0 = rsp 0 ∧ req.getD 1 0 = rsp 1

def strangerErrno : Backend → Errno
  | .rtu => embbadslave
  | .tcp | .tcpPi => embbaddata

lemma preCheckConfirmation_same (h : SameExchange w.ctx.backend req rsp) :
    preCheckConfirmation req rsp w = .done 0 w := by
  rw [preCheckConfirmation, bind_getCtx]
  unfold SameExchange at h
  cases hb : w.ctx.backend with
  | rtu =>
    rw [hb] at h
    dsimp only at h ⊢
    rw [rtuPreCheckConfirmation, if_neg (by tauto)]
    rfl
  | tcp | tcpPi =>
    rw [hb] at h
    dsimp only at h ⊢
    rw [tcpPreCheckConfirmation, if_neg (by tauto)]
    rfl

lemma preCheckConfirmation_stranger (h : ¬SameExchange w.ctx.backend req rsp) :
    preCheckConfirmation req rsp w = .done (-1) { w with errno := strangerErrno w.ctx.backend } := by
  rw [preCheckConfirmation, bind_getCtx]
  unfold SameExchange at h
  cases hb : w.ctx.backend with
  | rtu =>
    rw [hb] at h
    dsimp only at h ⊢
    rw [rtuPreCheckConfirmation, if_pos (by tauto)]
    rfl
  | tcp | tcpPi =>
    rw [hb] at h
    dsimp only at h ⊢
    rw [tcpPreCheckConfirmation, if_pos (by tauto)]
    rfl

/-- All that `check_confirmation` asks of a response before it looks at the counts. -/
structure Confirms (b : Backend) (req : List UInt8) (rsp : Mem UInt8) (rspLength : ℤ) : Prop where
  exchange : SameExchange b req rsp
  length : computeResponseLengthFromRequest b req = none ∨
    (computeResponseLengthFromRequest b req).map Nat.cast = some rspLength
  function : (rsp b.headerLength).toNat = (req.getD b.headerLength 0).toNat

lemma preCheckConfirmation_exchange : Triple (w = ·) (preCheckConfirmation req rsp)
    (fun rc _ => rc ≠ -1 → SameExchange w.ctx.backend req rsp) (fun _ => True) := by
  rintro _ rfl
  by_cases h : SameExchange w.ctx.backend req rsp
  · rw [preCheckConfirmation_same h]
    exact fun _ => h
  · rw [preCheckConfirmation_stranger h]
    exact fun hrc => absurd rfl hrc

lemma rejectConfirmation_fails {P : ℤ → Prop} : Triple (fun _ => True) rejectConfirmation
    (fun rc _ => rc ≠ -1 → P rc) (fun _ => True) := by
  have hend : Triple (fun _ => True) (setErrno embbaddata >>= fun _ => (pure (-1) : M ℤ))
      (fun rc _ => rc ≠ -1 → P rc) (fun _ => True) :=
    .bind (Q := fun _ _ => True) (fun _ _ => trivial) fun _ => .pure fun _ _ h => absurd rfl h
  refine .bind (Q := fun _ _ => True) (fun _ _ => trivial) fun ctx => .ite (fun _ => ?_) fun _ => hend
  refine .bind (Q := fun _ _ => True) (fun w _ => ?_) fun _ => hend
  cases sleepAndFlush w <;> trivial

structure Counted (b : Backend) (req : List UInt8) (rsp : Mem UInt8) (m : ℤ) : Prop where
  same : (confirmationCounts b req rsp).1 = (confirmationCounts b req rsp).2
  result : m = (confirmationCounts b req rsp).2

lemma checkConfirmation_accepted {m : ℤ} {w' : World}
    (h : checkConfirmation req rsp rspLength w = .done m w') (hm : m ≠ -1) :
    Confirms w.ctx.backend req rsp rspLength ∧ Counted w.ctx.backend req rsp m := by
  have hfail {P : ℤ → Prop} (e : Errno) : Triple (fun _ => True)
      (setErrno e >>= fun _ => (pure (-1) : M ℤ)) (fun rc _ => rc ≠ -1 → P rc) (fun _ => True) :=
    .bind (Q := fun _ _ => True) (fun _ _ => trivial) fun _ => .pure fun _ _ h => absurd rfl h
  have hrule : Triple (w = ·) (checkConfirmation req rsp rspLength)
      (fun rc _ => rc ≠ -1 → Confirms w.ctx.backend req rsp rspLength ∧
        Counted w.ctx.backend req rsp rc) (fun _ => True) := by
    rintro _ rfl
    rw [checkConfirmation, bind_getCtx]
    refine Triple.bind preCheckConfirmation_exchange (fun rc => ?_) w rfl
    refine .ite (fun _ => ?_) fun hrc => ?_
    · refine .ite (fun _ => .bind (Q := fun _ _ => True) (fun w _ => ?_) fun _ => ?_) fun _ => ?_
      · cases sleepAndFlush w <;> trivial
      · exact .pure fun _ _ h => absurd rfl h
      · exact .pure fun _ _ h => absurd rfl h
    refine .from_state fun v hexchange => Triple.pre ?_ fun _ _ => trivial
    refine .ite (fun _ => .ite (fun _ => .ite (fun _ => hfail _) fun _ => hfail _) fun _ => hfail _)
      fun _ => ?_
    refine .ite (fun hlength => ?_) fun _ => rejectConfirmation_fails
    refine .ite (fun _ => rejectConfirmation_fails) fun hfunction => ?_
    refine .ite (fun hcounts => .pure fun _ _ _ => ?_) fun _ => rejectConfirmation_fails
    exact ⟨⟨hexchange hrc, hlength, not_not.mp hfunction⟩, hcounts, rfl⟩
  exact hrule.done rfl h hm

end Confirming

/-- An operation sent a request and took the frame, the next of the incoming bytes, for the answer. -/
def Accepts (op : Operation) (stack : Mem UInt8) (w : World) (req frame : List UInt8) : Prop :=
  ∃ k w₁ n w₂ m w₃, op.issue w = .done (k, req) w₁ ∧ 0 < k ∧
    receiveMsg .confirmation stack w₁ = .done (n, stack.write 0 frame) w₂ ∧ n ≠ -1 ∧
    w₁.rx = frame ++ w₂.rx ∧ checkConfirmation req (stack.write 0 frame) n w₂ = .done m w₃ ∧ m ≠ -1

lemma Accepts.splits {op : Operation} {stack : Mem UInt8} {w : World} {req frame : List UInt8}
    (h : Accepts op stack w req frame) : (op.issue w).state.rx =
      frame ++ (receiveMsg .confirmation stack (op.issue w).state).state.rx := by
  obtain ⟨k, w₁, n, w₂, m, w₃, hissue, -, hreceive, -, hrx, -⟩ := h
  rw [hissue, Outcome.state_done, hreceive]
  exact hrx

section Operations

variable {call : ClientCall} {stack : Mem UInt8} {dest dest' : Dest} {w w' : World} {rc : ℤ}

lemma sendMsgPre_ne_nil (call : ClientCall) (ctx : Modbus) :
    sendMsgPre ctx.backend (call.operation.build ctx).2 ≠ [] := by
  rw [call.build_eq]
  intro h
  have hlen := congrArg List.length h
  have hhead := requestHeader_length ctx
  rw [sendMsgPre_length, List.length_append, List.length_nil] at hlen
  have : 0 < ctx.backend.headerLength := by cases ctx.backend <;> decide
  omega

lemma sendMsg_request {msg req : List UInt8} {k : ℤ} (h : sendMsg msg w = .done (k, req) w') :
    req = sendMsgPre w.ctx.backend msg := by
  rw [sendMsg, bind_getCtx] at h
  obtain ⟨rc, v, -, h⟩ := bind_eq_done.mp h
  split_ifs at h
  · rw [bind_setErrno] at h
    obtain ⟨h, -⟩ := Outcome.done.inj h
    exact (Prod.mk.inj h).2.symm
  · obtain ⟨h, -⟩ := Outcome.done.inj h
    exact (Prod.mk.inj h).2.symm

lemma issue_request (htoo : call.operation.tooMany = false) {k : ℤ} {req : List UInt8}
    (h : call.operation.issue w = .done (k, req) w') :
    req = sendMsgPre w.ctx.backend (requestHeader w.ctx ++ call.pdu) ∧
      SameConfig { w with ctx := nextRequest w.ctx } w' ∧ Shrinks w w' := by
  rw [ClientCall.issue_eq htoo] at h
  have hshrinks : Shrinks { w with ctx := nextRequest w.ctx } w' := (Neutral.sendMsg _).done h
  refine ⟨?_, (Neutral.sendMsg _).done h, hshrinks⟩
  rw [sendMsg_request h, nextRequest_backend]

lemma issue_done (hs : SendsTake w.script) {k : ℤ} {req : List UInt8}
    (h : call.operation.issue w = .done (k, req) w') (hk : k ≠ -1) :
    call.operation.tooMany = false ∧ 0 < k ∧
      req = sendMsgPre w.ctx.backend (requestHeader w.ctx ++ call.pdu) ∧
      SameConfig { w with ctx := nextRequest w.ctx } w' := by
  by_cases htoo : call.operation.tooMany = false
  · obtain ⟨hreq, hconfig, -⟩ := issue_request htoo h
    have hne := sendMsgPre_ne_nil call w.ctx
    rw [call.build_eq, ← nextRequest_backend w.ctx] at hne
    rw [ClientCall.issue_eq htoo] at h
    have hpos := (sendMsg_takes (w := { w with ctx := nextRequest w.ctx }) hne hs h).1
    exact ⟨htoo, hpos.resolve_left hk, hreq, hconfig⟩
  · rw [Operation.issue, if_pos (by simpa using htoo), bind_setErrno] at h
    obtain ⟨h, -⟩ := Outcome.done.inj h
    exact absurd (Prod.mk.inj h).1.symm hk

lemma run_accepts (hs : SendsTake w.script)
    (h : call.operation.run stack dest w = .done (rc, dest') w') (hrc : rc ≠ -1) :
    ∃ req frame, Accepts call.operation stack w req frame := by
  obtain ⟨⟨k, req⟩, w₁, hissue, h⟩ := bind_eq_done.mp h
  by_cases hk : k = -1
  · unfold Operation.confirm at h
    dsimp only at h
    rw [if_neg (by omega), if_pos hk] at h
    obtain ⟨h, -⟩ := Outcome.done.inj h
    exact absurd (Prod.mk.inj h).1.symm hrc
  obtain ⟨-, hpos, -, -⟩ := issue_done hs hissue hk
  dsimp only at h
  rw [confirm_eq stack req dest _ hpos] at h
  obtain ⟨⟨n, rsp⟩, w₂, hreceive, h⟩ := bind_eq_done.mp h
  obtain ⟨-, h, -⟩ | ⟨hn, m, hcheck, ⟨-, h⟩ | ⟨hm, -⟩⟩ := afterReceive_done req dest h
  · exact absurd (Prod.mk.inj h).1 hrc
  · exact absurd (Prod.mk.inj h).1 hrc
  obtain ⟨N, -, -, -, hrsp, -, hrx, -⟩ :=
    ((receiveMsg_triple .confirmation stack w₁).done rfl hreceive).complete hn
  dsimp only at hrsp
  subst hrsp
  refine ⟨req, w₁.rx.take N, k, w₁, n, w₂, m, w', hissue, hpos, hreceive, hn, ?_, hcheck, hm⟩
  rw [hrx, List.take_append_drop]

lemma run_returns {op : Operation} (h : (op.run stack dest w).value.map Prod.fst = some rc) :
    ∃ dest' w', op.run stack dest w = .done (rc, dest') w' := by
  obtain ⟨⟨rc', dest'⟩, hvalue, rfl⟩ := Option.map_eq_some_iff.mp h
  exact ⟨dest', _, Outcome.value_eq_some hvalue⟩

structure Checked (call : ClientCall) (stack : Mem UInt8) (w : World) (req frame : List UInt8)
    (n : ℤ) (ctx : Modbus) : Prop where
  config : ctx = { nextRequest w.ctx with s := ctx.s }
  request : req = sendMsgPre w.ctx.backend (requestHeader w.ctx ++ call.pdu)
  length : frame.length = frameLength w.ctx.backend .confirmation (stack.write 0 frame)
  received : n = integrity ctx (stack.write 0 frame) frame.length ∧ n ≠ -1
  confirms : Confirms w.ctx.backend req (stack.write 0 frame) n
  counted : ∃ m, Counted w.ctx.backend req (stack.write 0 frame) m

lemma Accepts.checked {req frame : List UInt8} (h : Accepts call.operation stack w req frame)
    (hs : SendsTake w.script) : ∃ n ctx, Checked call stack w req frame n ctx := by
  obtain ⟨k, w₁, n, w₂, m, w₃, hissue, hpos, hreceive, hn, hrx, hcheck, hm⟩ := h
  obtain ⟨-, -, hreq, hconfig⟩ := issue_done hs hissue (by omega)
  obtain ⟨N, hN, -, hle, -, hint, hdrop, hctx, -⟩ :=
    ((receiveMsg_triple .confirmation stack w₁).done rfl hreceive).complete hn
  have hlen : frame.length = N := by
    have h₁ := congrArg List.length hrx
    have h₂ := congrArg List.length hdrop
    rw [List.length_append] at h₁
    rw [List.length_drop] at h₂
    omega
  have hback : w₁.ctx.backend = w.ctx.backend := hconfig.backend.trans (nextRequest_backend w.ctx)
  dsimp only at hN hint
  rw [hback] at hN
  obtain ⟨hconfirms, hcounted⟩ := checkConfirmation_accepted hcheck hm
  rw [hctx, hback] at hconfirms hcounted
  refine ⟨n, w₂.ctx, ?_, hreq, hlen.trans hN, ⟨?_, hn⟩, hconfirms, m, hcounted⟩
  · rw [hctx]
    exact hconfig
  · rw [hctx, hlen]
    exact hint

end Operations

end LibModbus
