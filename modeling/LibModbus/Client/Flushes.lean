import LibModbus.Client.Reads

/-! What a client in protocol recovery mode leaves on the link behind a bad response. -/

namespace LibModbus

open Library Library.Prog

section Flush

/-- The calls that flush do not fail: `tcflush()` succeeds, and `recv()` returns what there is. -/
def FlushesWork (script : List Response) : Prop :=
  ∀ r ∈ script, r.option = none ∧ ∃ n, r.recv = .data n

abbrev Flushable (w : World) : Prop := FlushesWork w.script

lemma Shrinks.flushable {w w' : World} (h : Shrinks w w') (hw : Flushable w) : Flushable w' :=
  fun r hr => hw r (h.subset hr)

def Empty (w : World) : Prop := w.rx = []

lemma osRecvDontwait_empties (fd : ℤ) : Triple Flushable (osRecvDontwait fd modbusTcpMaxAduLength)
    (fun rc w => Flushable w ∧ (rc ≠ modbusTcpMaxAduLength → Empty w)) (fun _ => True) := by
  intro w hw
  rw [osRecvDontwait, record, bind_modify_apply, bind_apply]
  unfold ask
  cases hs : w.script with
  | nil => trivial
  | cons r rest =>
    have hrest : FlushesWork rest := fun r' hr' => hw r' (hs ▸ List.mem_cons_of_mem _ hr')
    obtain ⟨-, n, hn⟩ := hw r (hs ▸ List.mem_cons_self)
    dsimp only
    rw [hn]
    dsimp only
    rw [bind_get_apply]
    split_ifs with hrx
    · exact ⟨hrest, fun _ => hrx⟩
    · refine ⟨hrest, fun hrc => List.drop_eq_nil_of_le ?_⟩
      rw [List.length_take] at hrc
      simp only [modbusTcpMaxAduLength] at hrc ⊢
      omega

lemma tcpFlush_empties : Triple Flushable tcpFlush (fun _ => Empty) (fun _ => True) := by
  refine fun w hw => Triple.iterate (I := fun _ => Flushable) (Q := fun _ => Empty) (fun rcSum => ?_)
    (fun _ _ _ => trivial) _ _ w hw
  refine .bind (Q := fun _ => Flushable) (fun _ h => h) fun ctx => ?_
  refine .bind (osRecvDontwait_empties _) fun rc => ?_
  refine .ite (fun _ => .pure fun w h => h.1) fun hrc => .pure fun w h => h.2 ?_
  exact_mod_cast hrc

lemma osOption_works (c : Call) : Triple Flushable (osOption c) (fun rc _ => rc = 0)
    (fun _ => True) := by
  intro w hw
  rw [osOption, record, bind_modify_apply, bind_apply]
  unfold ask
  cases hs : w.script with
  | nil => trivial
  | cons r rest =>
    dsimp only
    rw [(hw r (hs ▸ List.mem_cons_self)).1]
    rfl

lemma rtuFlush_empties : Triple Flushable rtuFlush (fun _ => Empty) (fun _ => True) := by
  refine .bind (Q := fun _ => Flushable) (fun _ h => h) fun ctx => .bind (osOption_works _) fun rc => ?_
  refine .ite (fun _ => ?_) fun hrc => .pure fun _ h => absurd h hrc
  exact .bind (Q := fun _ => Empty) (.modify fun _ _ => rfl) fun _ => .pure fun _ h => h

lemma sleepAndFlush_empties : Triple Flushable sleepAndFlush (fun _ => Empty) (fun _ => True) := by
  have hsleep : Keeps Shrinks (loop nanosleepStep ()) := .of_maintains fun _ => Attached.nanosleep
  refine .bind ((hsleep.triple fun _ _ hw hs => hs.flushable hw).weaken (fun _ h => h)
    (fun _ _ h => h) fun _ _ => trivial) fun _ => ?_
  refine .bind (Q := fun _ => Flushable) (fun _ h => h) fun ctx => ?_
  cases ctx.backend with
  | rtu => exact rtuFlush_empties
  | tcp | tcpPi => exact tcpFlush_empties

end Flush

section Exits

variable {req : List UInt8} {rsp : Mem UInt8} {rspLength : ℤ} {w : World}

lemma rejectConfirmation_empties : Triple (fun w => Flushable w ∧ w.ctx.recoversProtocol)
    rejectConfirmation (fun _ => Empty) (fun _ => True) := by
  have hend (e : Errno) : Triple Empty (setErrno e >>= fun _ => (pure (-1) : M ℤ)) (fun _ => Empty)
      (fun _ => True) :=
    .bind (Q := fun _ => Empty) (fun _ h => h) fun _ => .pure fun _ h => h
  refine .from_state fun w hw => ?_
  rintro _ rfl
  rw [rejectConfirmation, bind_getCtx, if_pos hw.2]
  exact (sleepAndFlush_empties.bind fun _ => hend embbaddata) w hw.1

lemma checkConfirmation_empties (hw : Flushable w) (hrec : w.ctx.recoversProtocol) :
    Triple (w = ·) (checkConfirmation req rsp rspLength)
      (fun rc v => rc = -1 → Empty v ∨
        SameExchange w.ctx.backend req rsp ∧ 0x80 ≤ (rsp w.ctx.backend.headerLength).toNat)
      (fun _ => True) := by
  have hpre : Flushable w ∧ w.ctx.recoversProtocol := ⟨hw, hrec⟩
  rintro _ rfl
  rw [checkConfirmation, bind_getCtx]
  dsimp only
  by_cases hsame : SameExchange w.ctx.backend req rsp
  · rw [bind_done (preCheckConfirmation_same hsame), if_neg (by decide)]
    have hreject : Triple (fun w => Flushable w ∧ w.ctx.recoversProtocol) rejectConfirmation
        (fun rc v => rc = -1 → Empty v ∨
          SameExchange w.ctx.backend req rsp ∧ 0x80 ≤ (rsp w.ctx.backend.headerLength).toNat)
        (fun _ => True) :=
      rejectConfirmation_empties.post fun _ _ hv _ => .inl hv
    refine Triple.ite (P := fun w => Flushable w ∧ w.ctx.recoversProtocol) (fun hexc => ?_)
      (fun hlow => ?_) w hpre
    · intro v _
      split_ifs <;> exact fun _ => .inr ⟨hsame, hexc⟩
    · refine .ite (fun _ => .ite (fun _ => hreject) fun _ => ?_) fun _ => hreject
      refine .ite (fun _ => .pure fun _ _ hrc => ?_) fun _ => hreject
      exact absurd hrc (by omega)
  · rw [bind_done (preCheckConfirmation_stranger hsame), if_pos rfl, if_pos hrec]
    exact (sleepAndFlush_empties.bind fun _ =>
      .pure (Q := fun rc v => rc = -1 → Empty v ∨ _) fun _ hv _ => .inl hv) _ hw

end Exits

section Rejection

def AsksNoMore (b : Backend) (frame : List UInt8) : Prop :=
  frame.length = reach b .confirmation (frame.getD · 0)

/-- The head of a response that is too long by its own account. -/
def Overlong (b : Backend) (frame : List UInt8) : Prop :=
  frame.length = headLength b .confirmation (frame.getD · 0) ∧
    b.maxAduLength < frameLength b .confirmation (frame.getD · 0)

/-- A response to the request, undamaged or meant for another, that has an exception's function code. -/
structure Exceptional (ctx : Modbus) (req frame : List UInt8) : Prop where
  whole : IsFrame ctx.backend .confirmation frame
  undamaged : integrity ctx (frame.getD · 0) frame.length ≠ -1
  exchange : SameExchange ctx.backend req (frame.getD · 0)
  function : 0x80 ≤ (frame.getD ctx.backend.headerLength 0).toNat

/-- It is an exception to the request, with a code that has a meaning. -/
def Meaningful (ctx : Modbus) (req frame : List UInt8) : Prop :=
  integrity ctx (frame.getD · 0) frame.length =
      (ctx.backend.headerLength + 2 + ctx.backend.checksumLength : ℕ) ∧
    (req.getD ctx.backend.headerLength 0).toNat =
      (frame.getD ctx.backend.headerLength 0).toNat - 0x80 ∧
    (frame.getD (ctx.backend.headerLength + 1) 0).toNat < modbusExceptionMax

/-- Whenever a call in this context fails for the bytes of this response, and not because it is a
proper exception, it has emptied the link before it returns. -/
def LeavesNothing (call : ClientCall) (ctx : Modbus) (frame : List UInt8) : Prop :=
  ∀ (w w₁ w' : World) (k : ℤ) (req : List UInt8) (stack : Mem UInt8) (dest dest' : Dest),
    w.ctx = ctx → Flushable w → call.operation.issue w = .done (k, req) w₁ → 0 < k →
    call.operation.run stack dest w = .done (-1, dest') w' → received w₁ w' = frame →
    AsksNoMore ctx.backend frame →
    ¬(Exceptional ctx (call.request ctx) frame ∧ Meaningful ctx (call.request ctx) frame) → Empty w'

variable {call : ClientCall} {ctx ctx' : Modbus} {frame rest : List UInt8} {m : Mem UInt8}

lemma integrity_congr {n : ℕ} (hb : ctx'.backend = ctx.backend) (hs : ctx'.slave = ctx.slave)
    {m' : Mem UInt8} (hn : 0 < n) (h : ∀ j < n, m j = m' j) :
    integrity ctx' m n = integrity ctx m' n := by
  have hme : notForMe ctx' m = notForMe ctx m' := by
    rw [notForMe, notForMe, hs, h 0 hn]
  have hcrc : crcMatches m n = crcMatches m' n := by
    have hslice : m.slice 0 (n - 2) = m'.slice 0 (n - 2) :=
      Mem.slice_congr fun j _ hj => h j (by omega)
    rw [crcMatches, crcMatches, hslice, h (n - 2) (by omega), h (n - 1) (by omega)]
  rw [integrity, integrity, hb, hme, hcrc]

lemma rtuRejectChecksum_empties : Triple (fun w => Flushable w ∧ w.ctx.recoversProtocol)
    rtuRejectChecksum (fun _ => Empty) (fun _ => True) := by
  have hend (e : Errno) : Triple Empty (setErrno e >>= fun _ => (pure (-1) : M ℤ)) (fun _ => Empty)
      (fun _ => True) :=
    .bind (Q := fun _ => Empty) (fun _ h => h) fun _ => .pure fun _ h => h
  refine .from_state fun w hw => ?_
  rintro _ rfl
  rw [rtuRejectChecksum, bind_getCtx, if_pos hw.2]
  exact (rtuFlush_empties.bind fun _ => hend embbadcrc) w hw.1

lemma value_accepted {req : List UInt8} (hreq : HoldsPdu ctx.backend (req.getD · 0) call.pdu) {n k : ℤ}
    (hc : Confirms ctx.backend req m n) (hk : Counted ctx.backend req m k) :
    call.operation.value k ≠ -1 := by
  have hpos : 0 ≤ k := by
    rw [hk.result]
    exact Int.natCast_nonneg _
  have hbits {function : ℕ} {addr nb : ℤ}
      (hf : function = fcReadCoils ∨ function = fcReadDiscreteInputs)
      (hpdu : call.pdu = ClientCall.basisPdu function addr nb) : nb ≠ -1 := by
    rintro rfl
    have hfun : (m ctx.backend.headerLength).toNat = function := by
      rw [hpdu] at hreq
      rw [hc.function, hreq.function]
      rcases hf with rfl | rfl <;> rfl
    have h₃ : req.getD (ctx.backend.headerLength + 3) 0 = hiByte (-1) := by
      rw [hpdu] at hreq
      exact hreq 3 (by simp [ClientCall.basisPdu])
    have h₄ : req.getD (ctx.backend.headerLength + 4) 0 = loByte (-1) := by
      rw [hpdu] at hreq
      exact hreq 4 (by simp [ClientCall.basisPdu])
    have hsame := hk.same
    have hbyte := (m (ctx.backend.headerLength + 1)).toNat_lt
    have hnb : word (hiByte (-1)) (loByte (-1)) = 65535 := by decide
    rw [confirmationCounts, h₃, h₄, hnb, hfun] at hsame
    rcases hf with rfl | rfl <;> simp only at hsame <;> omega
  have hcount : k ≠ -1 := by omega
  cases call with
  | readBits addr nb => exact hbits (.inl rfl) rfl
  | readInputBits addr nb => exact hbits (.inr rfl) rfl
  | readRegisters | readInputRegisters | writeBit | writeRegister | writeBits | writeRegisters
  | writeAndReadRegisters | reportSlaveId => exact hcount

lemma SameExchange.congr {b : Backend} {req : List UInt8} {m m' : Mem UInt8}
    (h : SameExchange b req m) (hm : ∀ j ≤ b.headerLength, m j = m' j) : SameExchange b req m' := by
  cases b with
  | rtu => exact h.imp_right fun h => h.trans (hm 0 (by decide))
  | tcp | tcpPi => exact ⟨h.1.trans (hm 0 (by decide)), h.2.trans (hm 1 (by decide))⟩

lemma IsFrame.header_lt {b : Backend} {msgType : MsgType} (h : IsFrame b msgType frame) :
    b.headerLength < frame.length := by
  rw [← h.length (Mem.getD_holds frame 0)]
  exact header_lt_headLength.trans_le headLength_le_frameLength

lemma exceptional_of_held {req : List UInt8} (hframe : IsFrame ctx.backend .confirmation frame)
    (hm : m.Holds frame) (hb : ctx'.backend = ctx.backend) (hs : ctx'.slave = ctx.slave)
    (hint : integrity ctx' m frame.length ≠ -1) (hsame : SameExchange ctx.backend req m)
    (hfun : 0x80 ≤ (m ctx.backend.headerLength).toNat) : Exceptional ctx req frame where
  whole := hframe
  undamaged := by
    rwa [← integrity_congr hb hs hframe.pos fun j hj => hm.getD 0 hj]
  exchange := hsame.congr fun j hj => hm.getD 0 (hj.trans_lt hframe.header_lt)
  function := by
    rwa [← hm.getD 0 hframe.header_lt]

section Failing

variable {stack : Mem UInt8} {dest dest' : Dest} {w w₁ w' : World} {q : ℤ × Mem UInt8} {v : World}
  {n : ℕ}

lemma agrees_take (hn : n ≤ w.rx.length) {j : ℕ} (hj : j < n) :
    stack.write 0 w.rx j = (w.rx.take n).getD j 0 := by
  rw [← Mem.write_take _ _ hj]
  apply (Mem.holds_write_self stack _).getD
  rw [List.length_take]
  omega

lemma AsksNoMore.reach_eq {b : Backend} (h : AsksNoMore b (w.rx.take n)) (hn : n ≤ w.rx.length) :
    reach b .confirmation (stack.write 0 w.rx) = n := by
  rw [AsksNoMore, List.length_take, Nat.min_eq_left hn] at h
  rw [h]
  refine (reach_congr fun j hj => (agrees_take hn (hj.trans_le ?_)).symm).symm
  exact headLength_le_reach.trans h.ge

lemma overlong_take {b : Backend} (hn : n ≤ w.rx.length)
    (hhead : n = headLength b .confirmation (stack.write 0 w.rx))
    (hlong : b.maxAduLength < frameLength b .confirmation (stack.write 0 w.rx)) :
    Overlong b (w.rx.take n) := by
  have hsame : ∀ j < headLength b .confirmation (stack.write 0 w.rx),
      stack.write 0 w.rx j = (w.rx.take n).getD j 0 := fun j hj => agrees_take hn (hj.trans_eq hhead.symm)
  refine ⟨?_, ?_⟩
  · rw [List.length_take, Nat.min_eq_left hn, ← headLength_congr (hsame _ header_lt_headLength)]
    exact hhead
  · rw [← frameLength_congr hsame]
    exact hlong

lemma isFrame_take {b : Backend} (hn : n ≤ w.rx.length)
    (hlen : n = frameLength b .confirmation (stack.write 0 w.rx)) (hmax : n ≤ b.maxAduLength) :
    IsFrame b .confirmation (w.rx.take n) := by
  have htake : (w.rx.take n).length = n := by
    rw [List.length_take, Nat.min_eq_left hn]
  refine ⟨fun {m} hm => ?_, htake.trans_le hmax⟩
  have hsame : ∀ j < headLength b .confirmation (stack.write 0 w.rx), stack.write 0 w.rx j = m j := by
    intro j hj
    have hjn : j < n := hj.trans_le (headLength_le_frameLength.trans hlen.ge)
    rw [agrees_take hn hjn, hm.getD 0 (hjn.trans_eq htake.symm)]
  rw [htake, hlen]
  exact (frameLength_congr hsame).symm

variable {req : List UInt8}

lemma whole_empties (hw : Flushable w) (hrec : w.ctx.recoversProtocol)
    (hreq : HoldsPdu w.ctx.backend (req.getD · 0) call.pdu) (hn : n ≤ w.rx.length)
    (hlen : n = frameLength w.ctx.backend .confirmation (stack.write 0 w.rx))
    (hmax : n ≤ w.ctx.backend.maxAduLength) (harray : q.2 = stack.write 0 (w.rx.take n))
    (hctx : v.ctx = w.ctx) (hscript : Shrinks w v) {v' : World}
    (hcheck : checkIntegrity q.2 n v = .done q.1 v')
    (hrun : afterReceive call.operation req dest q v' = .done (-1, dest') w')
    (hexc : ¬Exceptional w.ctx req (w.rx.take n)) : Empty w' := by
  have htake : (w.rx.take n).length = n := by
    rw [List.length_take, Nat.min_eq_left hn]
  have hflush : Flushable v ∧ v.ctx.recoversProtocol := ⟨hscript.flushable hw, by rwa [hctx]⟩
  rw [checkIntegrity_apply] at hcheck
  split_ifs at hcheck with hbad
  · have hempty : Empty v' := rtuRejectChecksum_empties.done hflush hcheck
    obtain ⟨-, -, rfl⟩ | ⟨hq, -⟩ := afterReceive_done req dest hrun
    · exact hempty
    · exact absurd (rtuRejectChecksum_value hcheck) hq
  obtain ⟨hq, rfl⟩ := Outcome.done.inj hcheck
  rw [hctx, harray] at hbad
  obtain ⟨hq', -⟩ | ⟨-, m, hconfirm, ⟨rfl, -⟩ | ⟨hm, hr⟩⟩ := afterReceive_done req dest hrun
  · rw [hctx, harray] at hq
    exact absurd (hq.trans hq') hbad
  · obtain hempty | ⟨hsame, hfun⟩ :=
      (checkConfirmation_empties hflush.1 hflush.2).done rfl hconfirm rfl
    · exact hempty
    · rw [hctx, harray] at hsame hfun
      refine absurd (exceptional_of_held (isFrame_take hn hlen hmax) (Mem.holds_write_self stack _) rfl rfl
        ?_ hsame hfun) hexc
      rwa [htake]
  · obtain ⟨hconfirms, hcounted⟩ := checkConfirmation_accepted hconfirm hm
    rw [hctx] at hconfirms hcounted
    exact absurd (Prod.mk.inj hr).1.symm (value_accepted hreq hconfirms hcounted)

lemma confirm_empties {k : ℤ} (hk : 0 < k) (hw : Flushable w) (hrec : w.ctx.recoversProtocol)
    (hreq : HoldsPdu w.ctx.backend (req.getD · 0) call.pdu)
    (hrun : call.operation.confirm stack k req dest w = .done (-1, dest') w')
    (hasks : AsksNoMore w.ctx.backend (received w w'))
    (hlong : ¬Overlong w.ctx.backend (received w w'))
    (hexc : ¬Exceptional w.ctx req (received w w')) : Empty w' := by
  obtain ⟨q, v, hv, hafter, hidle⟩ | ⟨v, hblocked, -⟩ := confirm_received stack req dest hk w
  · rw [hrun, Outcome.state_done] at hidle
    rw [hv.later hidle] at hasks hlong hexc
    rw [hafter] at hrun
    cases hv.ended with
    | broken n took there short failed =>
      rw [took.received] at hasks
      exact absurd (hasks.reach_eq there) short.ne'
    | tooLong n took there head long failed rest =>
      rw [took.received] at hlong
      exact absurd (overlong_take there head long) hlong
    | whole n u took there length allowed array rest ctx tx script check =>
      rw [took.received] at hexc
      exact whole_empties hw hrec hreq there length allowed array ctx script check hrun hexc
  · rw [hrun] at hblocked
    cases hblocked

lemma Overlong.asksNoMore {b : Backend} (h : Overlong b frame) : AsksNoMore b frame := by
  rw [AsksNoMore, reach, if_neg (Nat.not_le.mpr h.2)]
  exact h.1

lemma IsFrame.asksNoMore {b : Backend} (h : IsFrame b .confirmation frame) : AsksNoMore b frame := by
  rw [AsksNoMore, reach, h.length (Mem.getD_holds frame 0), if_pos h.allowed]

lemma confirm_overlong {k : ℤ} (hk : 0 < k) (hrx : w.rx = frame ++ rest)
    (h : Overlong w.ctx.backend frame) (hf : Flows (2 * w.rx.length) w.script) :
    ∃ w', call.operation.confirm stack k req dest w = .done (-1, dest) w' ∧ w'.rx = rest ∧
      Took frame.length w w' := by
  have htake : w.rx.take frame.length = frame := by rw [hrx, List.take_left]
  have hn : frame.length ≤ w.rx.length := by
    rw [hrx, List.length_append]
    exact Nat.le_add_right _ _
  have hreach : reach w.ctx.backend .confirmation (stack.write 0 w.rx) = frame.length :=
    AsksNoMore.reach_eq (by rw [htake]; exact h.asksNoMore) hn
  have hsame : ∀ j < headLength w.ctx.backend .confirmation (frame.getD · 0),
      frame.getD j 0 = stack.write 0 w.rx j := fun j hj => by
    rw [agrees_take hn (hj.trans_eq h.1.symm), htake]
  have hlong : w.ctx.backend.maxAduLength <
      frameLength w.ctx.backend .confirmation (stack.write 0 w.rx) := by
    rw [← frameLength_congr hsame]
    exact h.2
  have hhead : frame.length = headLength w.ctx.backend .confirmation (stack.write 0 w.rx) :=
    h.1.trans (headLength_congr (hsame _ header_lt_headLength))
  have hlimit : storeLimit .confirmation stack w = frame.length := by
    rw [storeLimit, hreach, Nat.min_eq_right hn]
  have hflows := receiveMsg_flows .confirmation stack w (hf.mono (by omega))
  have hruns := receiveMsg_triple .confirmation stack w
  have hallowed := headLength_le w.ctx.backend .confirmation (stack.write 0 w.rx)
  rw [confirm_eq stack req dest call.operation hk]
  cases hq : receiveMsg .confirmation stack w with
  | blocked v =>
    have hstarved := hflows.blocked rfl hq
    obtain ⟨-, n, took, -, hbad⟩ := hruns.blocked rfl hq
    have hall := took.unique hstarved.took
    omega
  | done q v =>
    have hdelivered := hflows.done rfl hq
    cases (hruns.done rfl hq).ended with
    | broken n took there short failed =>
      have hall := took.unique hdelivered.took
      omega
    | whole n u took there length allowed array rest ctx tx script check => omega
    | tooLong n took there head long failed hrest =>
      obtain rfl : n = frame.length := head.trans hhead.symm
      rw [hrx, List.drop_left] at hrest
      refine ⟨v, ?_, hrest, took⟩
      rw [bind_done hq, afterReceive, failed, if_pos rfl]
      rfl

lemma checkConfirmation_exceptional {rsp : Mem UInt8} {rspLength : ℤ}
    (hsame : SameExchange w.ctx.backend req rsp) (hfun : 0x80 ≤ (rsp w.ctx.backend.headerLength).toNat) :
    ∃ errno, checkConfirmation req rsp rspLength w = .done (-1) { w with errno } := by
  rw [checkConfirmation, bind_getCtx]
  dsimp only
  rw [bind_done (preCheckConfirmation_same hsame), if_neg (by decide), if_pos hfun]
  split_ifs <;> exact ⟨_, rfl⟩

lemma confirm_exceptional {k : ℤ} (hk : 0 < k) (hrx : w.rx = frame ++ rest)
    (h : Exceptional w.ctx req frame) (hf : Flows (2 * w.rx.length) w.script) :
    ∃ w', call.operation.confirm stack k req dest w = .done (-1, dest) w' ∧ w'.rx = rest ∧
      Took frame.length w w' := by
  have hint : ∀ m : Mem UInt8, m.Holds frame → integrity w.ctx m frame.length ≠ -1 := fun m hm => by
    rw [integrity_congr rfl rfl h.whole.pos fun j hj => hm.getD 0 hj]
    exact h.undamaged
  have hlen : w.rx.length = frame.length + rest.length := by rw [hrx, List.length_append]
  obtain ⟨v, hq, hrest, hctx, -, -⟩ :=
    receiveMsg_whole h.whole hrx hint stack (n := 0) (hf.mono (by omega))
  have hheld := Mem.holds_write_self stack frame
  have htook : Took frame.length w v := by
    cases ((receiveMsg_triple .confirmation stack w).done rfl hq).ended with
    | broken n took there short failed => exact absurd failed (hint _ hheld)
    | tooLong n took there head long failed hrest => exact absurd failed (hint _ hheld)
    | whole n u took there length allowed array rest' ctx tx script check =>
      have hheld' : (stack.write 0 w.rx).Holds frame := by
        rw [hrx]
        exact Mem.holds_write stack frame rest
      rwa [length, h.whole.length hheld'] at took
  have hsame : SameExchange v.ctx.backend req (stack.write 0 frame) := by
    rw [hctx]
    exact h.exchange.congr fun j hj => (hheld.getD 0 (hj.trans_lt h.whole.header_lt)).symm
  have hfun : 0x80 ≤ (stack.write 0 frame v.ctx.backend.headerLength).toNat := by
    rw [hctx, hheld.getD 0 h.whole.header_lt]
    exact h.function
  obtain ⟨errno, hcheck⟩ := @checkConfirmation_exceptional v req _
    (integrity w.ctx (stack.write 0 frame) frame.length) hsame hfun
  refine ⟨{ v with errno }, ?_, hrest, htook⟩
  rw [confirm_eq stack req dest call.operation hk, bind_done hq, afterReceive, if_neg (hint _ hheld),
    bind_done hcheck, if_pos rfl]
  rfl

end Failing

section Behind

variable (call ctx frame)

def followed : World :=
  .start ctx (frame ++ [0])
    ({ send := .ok (call.request ctx).length } :: List.replicate (2 * (frame.length + 1)) {})

variable {call ctx frame}

lemma followed_issue (htoo : call.operation.tooMany = false) : ∃ w₁,
    call.operation.issue (followed call ctx frame) =
      .done (((call.request ctx).length : ℤ), call.request ctx) w₁ ∧
    w₁.ctx = nextRequest ctx ∧ w₁.rx = frame ++ [0] ∧ Flows (2 * w₁.rx.length) w₁.script := by
  have hb : (nextRequest ctx).backend = ctx.backend := nextRequest_backend ctx
  let w : World := { followed call ctx frame with ctx := nextRequest ctx }
  have hsent : sendMsgPre w.ctx.backend (requestHeader ctx ++ call.pdu) = call.request ctx :=
    congrArg (sendMsgPre · _) hb
  have hsend : sendMsg (requestHeader ctx ++ call.pdu) w = _ :=
    sendMsg_sent rfl rfl (congrArg List.length hsent).le
  rw [hsent] at hsend
  refine ⟨_, (ClientCall.issue_eq htoo _).trans hsend, rfl, rfl, ?_⟩
  have hlen : (frame ++ [(0 : UInt8)]).length = frame.length + 1 := by simp
  rw [show w.rx.length = frame.length + 1 from hlen]
  exact flows_replicate _

lemma exceptional_congr {req : List UInt8} (hb : ctx'.backend = ctx.backend) (hs : ctx'.slave = ctx.slave)
    (h : Exceptional ctx req frame) : Exceptional ctx' req frame := by
  have hfun := h.function
  rw [← hb] at hfun
  exact exceptional_of_held (hb ▸ h.whole) (Mem.getD_holds frame 0) hb.symm hs.symm h.undamaged
    (hb ▸ h.exchange) hfun

lemma leaves_rest (htoo : call.operation.tooMany = false)
    (h : Overlong ctx.backend frame ∨ Exceptional ctx (call.request ctx) frame ∧
      ¬Meaningful ctx (call.request ctx) frame) : ¬LeavesNothing call ctx frame := by
  intro hleaves
  obtain ⟨w₁, hissue, hctx, hrx, hflows⟩ := @followed_issue call ctx frame htoo
  have hb : w₁.ctx.backend = ctx.backend := by rw [hctx, nextRequest_backend]
  have hs : w₁.ctx.slave = ctx.slave := by rw [hctx, nextRequest_slave]
  have hk : (0 : ℤ) < (call.request ctx).length := by
    have hne := sendMsgPre_ne_nil call ctx
    rw [call.build_eq] at hne
    exact_mod_cast List.length_pos_of_ne_nil hne
  have hworks : Flushable (followed call ctx frame) := by
    intro r hr
    rcases List.mem_cons.mp hr with rfl | hr
    · exact ⟨rfl, _, rfl⟩
    · rw [List.eq_of_mem_replicate hr]
      exact ⟨rfl, _, rfl⟩
  let dest : Dest := ⟨fun _ => 0, fun _ => 0⟩
  have hconfirm : ∃ w', call.operation.confirm (fun _ => 0) (call.request ctx).length
      (call.request ctx) dest w₁ = .done (-1, dest) w' ∧ w'.rx = [0] ∧ Took frame.length w₁ w' := by
    rcases h with hlong | ⟨hexc, -⟩
    · exact confirm_overlong hk hrx (hb ▸ hlong) hflows
    · exact confirm_exceptional hk hrx (exceptional_congr hb hs hexc) hflows
  obtain ⟨w', hrun, hrest, htook⟩ := hconfirm
  have hframe : received w₁ w' = frame := by rw [htook.received, hrx, List.take_left]
  have hasks : AsksNoMore ctx.backend frame := by
    rcases h with hlong | ⟨hexc, -⟩
    · exact hlong.asksNoMore
    · exact hexc.whole.asksNoMore
  have hproper : ¬(Exceptional ctx (call.request ctx) frame ∧
      Meaningful ctx (call.request ctx) frame) := by
    rintro ⟨hexc, hmeans⟩
    rcases h with hlong | ⟨-, hbad⟩
    · have hlen := hexc.whole.length (Mem.getD_holds frame 0)
      have hmax := hexc.whole.allowed
      have := hlong.2
      omega
    · exact hbad hmeans
  have hempty := hleaves _ w₁ w' _ _ (fun _ => 0) dest dest rfl hworks hissue hk
    ((bind_done hissue _).trans hrun) hframe hasks hproper
  rw [Empty, hrest] at hempty
  cases hempty

end Behind

/-- In protocol recovery mode the link is empty behind a refused response, except for one that is too
long by its own account, and an exception that is malformed. -/
theorem leaves_nothing_iff (hrec : ctx.recoversProtocol) : LeavesNothing call ctx frame ↔
    (call.operation.tooMany = false → ¬Overlong ctx.backend frame ∧
      (Exceptional ctx (call.request ctx) frame → Meaningful ctx (call.request ctx) frame)) := by
  constructor
  · intro h htoo
    refine ⟨fun hlong => leaves_rest htoo (.inl hlong) h, fun hexc => ?_⟩
    by_contra hbad
    exact leaves_rest htoo (.inr ⟨hexc, hbad⟩) h
  · rintro h w w₁ w' k req stack dest dest' rfl hworks hissue hk hrun hframe hasks hproper
    have htoo : call.operation.tooMany = false := by
      by_contra htoo
      rw [Operation.issue, if_pos (by simpa using htoo), bind_setErrno] at hissue
      obtain ⟨hissue, -⟩ := Outcome.done.inj hissue
      obtain ⟨rfl, -⟩ := Prod.mk.inj hissue
      exact absurd hk (by decide)
    obtain ⟨hlong, hmeans⟩ := h htoo
    obtain ⟨rfl, hconfig, hshrinks⟩ := issue_request htoo hissue
    have hb : w₁.ctx.backend = w.ctx.backend := hconfig.backend.trans (nextRequest_backend w.ctx)
    have hs : w₁.ctx.slave = w.ctx.slave := by
      rw [hconfig]
      exact nextRequest_slave w.ctx
    have hrec₁ : w₁.ctx.recoversProtocol := by
      have hmode : w₁.ctx.errorRecovery = w.ctx.errorRecovery := by
        rw [hconfig]
        exact nextRequest_errorRecovery w.ctx
      rw [Modbus.recoversProtocol, hmode]
      exact hrec
    have hreq : HoldsPdu w₁.ctx.backend ((call.request w.ctx).getD · 0) call.pdu := by
      rw [hb]
      exact holdsPdu_sendMsgPre (requestHeader_length _) (Mem.getD_holds _ 0)
    have hconfirm : call.operation.confirm stack k (call.request w.ctx) dest w₁ =
        .done (-1, dest') w' := by
      rw [← hrun, Operation.run, bind_done hissue]
      rfl
    refine confirm_empties hk (hshrinks.flushable hworks) hrec₁ hreq hconfirm ?_ ?_ ?_
    · rwa [hb, hframe]
    · rwa [hb, hframe]
    · rw [hframe]
      intro hexc
      have hexc' := exceptional_congr hb.symm hs.symm hexc
      exact hproper ⟨hexc', hmeans hexc'⟩

/-- What a `ModbusDevice` sets for TCP. -/
def recoveringTcp : Modbus := { modbusNewTcp with errorRecovery := 1 <<< 1 ||| 1 <<< 2 }

theorem leaves_nothing_iff_example :
    LeavesNothing (.readRegisters 0 1) recoveringTcp [0, 2, 0, 0, 0, 5, 0xFF, 3, 2, 0, 7] :=
  (leaves_nothing_iff (by decide)).mpr fun _ =>
    ⟨fun h => absurd h.1 (by decide), fun h => absurd h.function (by decide)⟩

/-- The response announces 255 bytes of registers. Its head is taken, and the rest stays. -/
theorem too_long_left : ¬∀ (call : ClientCall) (ctx : Modbus) (frame : List UInt8),
    ctx.errorRecovery = 1 <<< 1 ||| 1 <<< 2 → LeavesNothing call ctx frame := by
  intro h
  exact @leaves_rest (.readRegisters 0 1) recoveringTcp [0, 1, 0, 0, 1, 2, 0xFF, 3, 0xFF] rfl
    (.inl ⟨by decide, by decide⟩) (h _ _ _ rfl)

end Rejection

end LibModbus
