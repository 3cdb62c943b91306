import LibModbus.Bank.Client
import LibModbus.Client.Checksums

/-! Reading accepts the right response only, and otherwise leaves the caller's arrays alone. -/

namespace LibModbus

open Library Library.Prog

namespace ClientCall

def Reads : ClientCall → Prop
  | readBits _ _ | readInputBits _ _ | readRegisters _ _ | readInputRegisters _ _
  | writeAndReadRegisters _ _ _ _ _ => True
  | _ => False

def answerLength : ClientCall → ℕ
  | readBits _ nb | readInputBits _ nb => (nb.toNat + 7) / 8
  | readRegisters _ nb | readInputRegisters _ nb | writeAndReadRegisters _ _ _ _ nb => 2 * nb.toNat
  | _ => 0

def decoded (b : Backend) (frame : List UInt8) : ClientCall → Data
  | readBits _ nb | readInputBits _ nb =>
    .flags ((List.range nb.toNat).map (bitAt fun k => frame.getD (b.headerLength + 2 + k) 0))
  | readRegisters _ nb | readInputRegisters _ nb | writeAndReadRegisters _ _ _ _ nb =>
    .words ((List.range nb.toNat).map fun i => wordAt (frame.getD · 0) (b.headerLength + 2 + 2 * i))
  | _ => .written

end ClientCall

/-- A frame answers the request: it belongs to the same transaction, on a serial line it comes from the
slave asked for and is not damaged, and it has the function code and as much data as was asked for. -/
structure RightAnswer (call : ClientCall) (b : Backend) (req frame : List UInt8) : Prop where
  exchange : match b with
    | .rtu => frame.getD 0 0 = req.getD 0 0 ∧ Checksummed frame
    | .tcp | .tcpPi => frame.getD 0 0 = req.getD 0 0 ∧ frame.getD 1 0 = req.getD 1 0
  function : frame.getD b.headerLength 0 = req.getD b.headerLength 0
  count : (frame.getD (b.headerLength + 1) 0).toNat = call.answerLength
  length : frame.length = b.headerLength + 2 + call.answerLength + b.checksumLength

section Shape

variable {call : ClientCall} {b : Backend} {req frame : List UInt8} {m : Mem UInt8}

lemma pdu_reads (hr : call.Reads) : (call.pdu.getD 0 0).toNat ≤ fcReadInputRegisters ∨
    (call.pdu.getD 0 0).toNat = fcReportSlaveId ∨
    (call.pdu.getD 0 0).toNat = fcWriteAndReadRegisters := by
  cases call with
  | readBits | readInputBits | readRegisters | readInputRegisters =>
    exact .inl (Nat.le_of_ble_eq_true rfl)
  | writeAndReadRegisters => exact .inr (.inr rfl)
  | writeBit | writeRegister | writeBits | writeRegisters | reportSlaveId => exact hr.elim

lemma answerLength_le (hc : call.CountsFrom 0) : call.answerLength ≤ 250 := by
  cases call with
  | readBits | readInputBits | readRegisters | readInputRegisters =>
    obtain ⟨h₀, h₁⟩ := hc
    simp only [modbusMaxReadBits, modbusMaxReadRegisters] at h₁
    simp only [ClientCall.answerLength]
    omega
  | writeAndReadRegisters =>
    obtain ⟨-, h₀, h₁⟩ := hc
    simp only [modbusMaxReadRegisters] at h₁
    simp only [ClientCall.answerLength]
    omega
  | writeBit | writeRegister | writeBits | writeRegisters | reportSlaveId => exact Nat.zero_le _

lemma answeredBy_decoded (hr : call.Reads) : call.AnsweredBy (call.decoded b frame) := by
  cases call with
  | readBits | readInputBits | readRegisters | readInputRegisters | writeAndReadRegisters =>
    simp [ClientCall.AnsweredBy, ClientCall.decoded]
  | writeBit | writeRegister | writeBits | writeRegisters | reportSlaveId => exact hr.elim

variable (hreq : HoldsPdu b (req.getD · 0) call.pdu)

include hreq

lemma requestNb_reads (hr : call.Reads) (hc : call.CountsFrom 0) :
    requestFunction b (req.getD · 0) = (call.pdu.getD 0 0).toNat ∧
      (requestNb b (req.getD · 0) : ℤ) = call.count := by
  refine ⟨congrArg UInt8.toNat hreq.function_eq, ?_⟩
  cases call with
  | readBits addr nb | readInputBits addr nb | readRegisters addr nb | readInputRegisters addr nb =>
    obtain ⟨-, -, hn⟩ := @HoldsPdu.fields _ _ _ addr nb [] hreq (by decide)
    obtain ⟨h₀, h₁⟩ := hc
    simp only [modbusMaxReadBits, modbusMaxReadRegisters] at h₁
    exact hn.trans (Int.emod_eq_of_lt h₀ (by omega))
  | writeAndReadRegisters writeAddr writeNb src addr nb =>
    obtain ⟨-, -, hn⟩ := hreq.fields (by decide)
    obtain ⟨-, h₀, h₁⟩ := hc
    simp only [modbusMaxReadRegisters] at h₁
    exact hn.trans (Int.emod_eq_of_lt h₀ (by omega))
  | writeBit | writeRegister | writeBits | writeRegisters | reportSlaveId => exact hr.elim

lemma responseLength_reads (hr : call.Reads) (hc : call.CountsFrom 0) :
    computeResponseLengthFromRequest b req =
      some (b.headerLength + (2 + call.answerLength) + b.checksumLength) := by
  obtain ⟨hf, hn⟩ := requestNb_reads hreq hr hc
  simp only [requestFunction, requestNb] at hf hn
  have hcount : word (req.getD (b.headerLength + 3) 0) (req.getD (b.headerLength + 4) 0) =
      call.count.toNat := by omega
  rw [computeResponseLengthFromRequest]
  cases call with
  | readBits addr nb =>
    have hfun : (req.getD b.headerLength 0).toNat = fcReadCoils := hf
    simp only [hfun, hcount, Nat.add_assoc 2, byteCount_eq, Option.map_some]
    rfl
  | readInputBits addr nb =>
    have hfun : (req.getD b.headerLength 0).toNat = fcReadDiscreteInputs := hf
    simp only [hfun, hcount, Nat.add_assoc 2, byteCount_eq, Option.map_some]
    rfl
  | readRegisters addr nb =>
    have hfun : (req.getD b.headerLength 0).toNat = fcReadHoldingRegisters := hf
    simp only [hfun, hcount, Option.map_some]
    rfl
  | readInputRegisters addr nb =>
    have hfun : (req.getD b.headerLength 0).toNat = fcReadInputRegisters := hf
    simp only [hfun, hcount, Option.map_some]
    rfl
  | writeAndReadRegisters writeAddr writeNb src addr nb =>
    have hfun : (req.getD b.headerLength 0).toNat = fcWriteAndReadRegisters := hf
    simp only [hfun, hcount, Option.map_some]
    rfl
  | writeBit | writeRegister | writeBits | writeRegisters | reportSlaveId => exact hr.elim

omit hreq in
lemma packs_decoded (n : ℕ) (m : Mem UInt8) (j : ℕ) :
    Packs (m.slice j ((n + 7) / 8)) ((List.range n).map (bitAt fun k => m (j + k))).length
      (((List.range n).map (bitAt fun k => m (j + k))).getD · false) where
  length := by simp
  bit i hi := by
    rw [List.length_map, List.length_range] at hi
    have hlt : i / 8 < (m.slice j ((n + 7) / 8)).length := by
      rw [Mem.slice_length]
      omega
    rw [List.getD_eq_getElem _ _ (by simpa using hi), List.getElem_map, List.getElem_range]
    apply bitAt_congr
    rw [List.getD_eq_getElem _ _ hlt, Mem.slice_getElem]

lemma carries_decoded (h : RightAnswer call b req frame) (hr : call.Reads) (hc : call.CountsFrom 0)
    (hm : m.Holds frame) : ∃ pdu, HoldsPdu b m pdu ∧ pdu.length = 2 + call.answerLength ∧
      Carries call (some (call.decoded b frame)) pdu := by
  have hf : m b.headerLength = call.pdu.getD 0 0 := by
    rw [hm.getD 0 (by rw [h.length]; omega), h.function]
    exact hreq.function_eq
  have hn : m (b.headerLength + 1) = UInt8.ofNat call.answerLength := by
    rw [hm.getD 0 (by rw [h.length]; omega), ← h.count, UInt8.ofNat_toNat]
  have hdata : m.slice b.headerLength (2 + call.answerLength) = call.pdu.getD 0 0 ::
      UInt8.ofNat call.answerLength :: m.slice (b.headerLength + 2) call.answerLength := by
    rw [show 2 + call.answerLength = call.answerLength + 1 + 1 by omega, Mem.slice_succ,
      Mem.slice_succ, hf, hn]
  have hframe : m.slice (b.headerLength + 2) call.answerLength =
      Mem.slice (frame.getD · 0) (b.headerLength + 2) call.answerLength :=
    Mem.slice_congr fun k _ hk => hm.getD 0 (by rw [h.length]; omega)
  refine ⟨m.slice b.headerLength (2 + call.answerLength),
    fun k hk => (m.slice_getElem _ _ _ hk).symm, m.slice_length _ _, ?_⟩
  rw [hdata, hframe]
  cases call with
  | readBits addr nb | readInputBits addr nb =>
    simp only [Carries, ClientCall.decoded]
    refine ⟨Mem.slice (frame.getD · 0) (b.headerLength + 2) ((nb.toNat + 7) / 8),
      packs_decoded nb.toNat (frame.getD · 0) (b.headerLength + 2), ?_⟩
    rw [List.length_map, List.length_range]
    rfl
  | readRegisters addr nb | readInputRegisters addr nb | writeAndReadRegisters _ _ _ addr nb =>
    simp only [Carries, ClientCall.decoded]
    rw [flatMap_wordAt, List.length_map, List.length_range]
    rfl
  | writeBit | writeRegister | writeBits | writeRegisters | reportSlaveId => exact hr.elim

lemma RightAnswer.frameLength_eq (h : RightAnswer call b req frame) (hr : call.Reads)
    (hm : m.Holds frame) : frameLength b .confirmation m = frame.length := by
  have hf : m b.headerLength = call.pdu.getD 0 0 := by
    rw [hm.getD 0 (by rw [h.length]; omega), h.function]
    exact hreq.function_eq
  have hn : (m (b.headerLength + 1)).toNat = call.answerLength := by
    rw [hm.getD 0 (by rw [h.length]; omega), h.count]
  rw [frameLength_counted (by rw [hf]; exact pdu_reads hr), hn, h.length]

end Shape

section Judged

variable {call : ClientCall} {stack : Mem UInt8} {dest dest' : Dest} {w w' v : World}
  {req : List UInt8} {q : ℤ × Mem UInt8} {rc : ℤ}

lemma RightAnswer.intact {ctx : Modbus} {frame : List UInt8}
    (h : RightAnswer call ctx.backend req frame)
    (hslave : ctx.backend = .rtu → ((req.getD 0 0).toNat : ℤ) = ctx.slave) : Intact ctx frame := by
  obtain ⟨hexchange, -, -, hlen⟩ := h
  cases hb : ctx.backend with
  | tcp | tcpPi =>
    intro m hm
    simp only [integrity, hb]
  | rtu =>
    rw [hb] at hexchange hlen
    obtain ⟨hfirst, body, hi, lo, rfl, hcrc⟩ := hexchange
    cases body with
    | nil => simp at hlen
    | cons x rest =>
      have hsent : x :: rest ++ [hi, lo] = sendMsgPre ctx.backend ([x] ++ rest) := by
        rw [hb, sendMsgPre, rtuSendMsgPre]
        simp [← hcrc]
      rw [hsent]
      refine intact_sendMsgPre (by rw [hb]; rfl) fun _ => ?_
      have hx : x = req.getD 0 0 := hfirst
      rw [← hslave hb, ← hx]
      rfl

variable (hreq : HoldsPdu w.ctx.backend (req.getD · 0) call.pdu) (hr : call.Reads)
  (hc : call.CountsFrom 0)
  (hslave : w.ctx.backend = .rtu → ((req.getD 0 0).toNat : ℤ) = w.ctx.slave)

include hreq hr hc hslave

omit hreq hr hc hslave in
lemma integrity_pos {ctx : Modbus} {m : Mem UInt8} {n : ℕ} (h : 0 < integrity ctx m n) :
    integrity ctx m n = n ∧
      (ctx.backend = .rtu → notForMe ctx m = false ∧ crcMatches m n = true) := by
  unfold integrity at h ⊢
  cases hb : ctx.backend with
  | tcp | tcpPi => exact ⟨rfl, nofun⟩
  | rtu =>
    rw [hb] at h
    dsimp only at h ⊢
    split_ifs at h ⊢ with hme hcrc
    · exact absurd h (by decide)
    · exact ⟨rfl, fun _ => ⟨by simpa using hme, hcrc⟩⟩
    · exact absurd h (by decide)

omit hslave in
lemma right_whole {frame : List UInt8} (h : RightAnswer call w.ctx.backend req frame) {n : ℕ}
    (hn : n ≤ w.rx.length) (ht : frame = w.rx.take n) :
    n = frame.length ∧ frameLength w.ctx.backend .confirmation (stack.write 0 w.rx) = n ∧
      n ≤ w.ctx.backend.maxAduLength := by
  have hlen : n = frame.length := by
    rw [ht, List.length_take, Nat.min_eq_left hn]
  have hmax : frame.length ≤ w.ctx.backend.maxAduLength := by
    have := answerLength_le hc
    rw [h.length]
    cases w.ctx.backend <;> simp <;> omega
  have hown : frameLength w.ctx.backend .confirmation (stack.write 0 w.rx) = n := by
    have hframe := h.frameLength_eq hreq hr (Mem.holds_write_self stack _)
    refine (frameLength_congr fun j hj => ?_).symm.trans (hframe.trans hlen.symm)
    rw [ht]
    exact Mem.write_take _ _ (hj.trans_le (headLength_le_frameLength.trans
      (hframe.trans hlen.symm).le))
  exact ⟨hlen, hown, hlen.trans_le hmax⟩

lemma received_right (hv : Received .confirmation stack w q v)
    (h : RightAnswer call w.ctx.backend req (received w v)) :
    q = (((received w v).length : ℤ), stack.write 0 (received w v)) ∧ v.ctx = w.ctx := by
  cases hv.ended with
  | broken n took there short failed =>
    obtain ⟨-, hown, hmax⟩ := @right_whole _ stack _ _ hreq hr hc _ h n there took.received
    rw [reach, if_pos (by omega)] at short
    omega
  | tooLong n took there head long failed rest =>
    obtain ⟨-, hown, hmax⟩ := @right_whole _ stack _ _ hreq hr hc _ h n there took.received
    omega
  | whole n u took there length allowed array rest ctx tx script check =>
    obtain ⟨hlen, -, -⟩ := @right_whole _ stack _ _ hreq hr hc _ h n there took.received
    have hgood : integrity u.ctx q.2 n = n := by
      rw [ctx, array, ← took.received, hlen]
      exact h.intact hslave _ (Mem.holds_write_self stack _)
    rw [checkIntegrity_apply, if_neg (by omega), hgood] at check
    obtain ⟨hrc, rfl⟩ := Outcome.done.inj check
    refine ⟨Prod.ext ?_ ?_, ctx⟩
    · rw [← hrc, hlen]
    · rw [array, took.received]

lemma not_stalled_right (hs : Stalled .confirmation stack w v) :
    ¬RightAnswer call w.ctx.backend req (received w v) := by
  intro h
  obtain ⟨-, n, took, there, hbad⟩ := hs
  obtain ⟨hlen, hown, hmax⟩ := @right_whole _ stack _ _ hreq hr hc _ h n there took.received
  rcases hbad with hshort | ⟨-, hdamaged⟩
  · rw [reach, if_pos (by omega)] at hshort
    omega
  · have hint := h.intact hslave _ (Mem.holds_write_self stack _)
    rw [took.received] at hint hlen
    rw [← hlen, hdamaged] at hint
    omega

lemma right_of_accepted (hv : Received .confirmation stack w q v) (hq : q.1 ≠ -1) {m : ℤ} {u : World}
    (hcheck : checkConfirmation req q.2 q.1 v = .done m u) (hm : m ≠ -1) :
    RightAnswer call w.ctx.backend req (received w v) := by
  obtain ⟨hconfirms, -⟩ := checkConfirmation_accepted hcheck hm
  cases hv.ended with
  | broken n took there short failed => exact absurd failed hq
  | tooLong n took there head long failed rest => exact absurd failed hq
  | whole n u took there length allowed array rest ctx tx script check =>
    obtain ⟨hrc, rfl⟩ := checkIntegrity_done check hq
    rw [← took.received] at array
    have hlen : (received w v).length = n := by
      rw [took.received, List.length_take, Nat.min_eq_left there]
    rw [ctx, array] at hconfirms hrc
    have hheld := Mem.holds_write_self stack (received w v)
    have hown : n = frameLength w.ctx.backend .confirmation (stack.write 0 (received w v)) := by
      rw [took.received]
      refine length.trans (frameLength_congr fun j hj => (Mem.write_take _ _ ?_).symm)
      exact hj.trans_le (headLength_le_frameLength.trans length.ge)
    have hf : stack.write 0 (received w v) w.ctx.backend.headerLength = call.pdu.getD 0 0 :=
      (UInt8.toNat_inj.mp hconfirms.function).trans hreq.function_eq
    rw [frameLength_counted (by rw [hf]; exact pdu_reads hr)] at hown
    have hlength := hconfirms.length
    rw [responseLength_reads hreq hr hc] at hlength
    have hq' : ((w.ctx.backend.headerLength + (2 + call.answerLength) +
        w.ctx.backend.checksumLength : ℕ) : ℤ) = q.1 := by simpa using hlength
    obtain ⟨hintact, hrtu⟩ := @integrity_pos w.ctx (stack.write 0 (received w v)) n (by omega)
    refine ⟨?_, ?_, ?_, ?_⟩
    · have hex := hconfirms.exchange
      unfold SameExchange at hex
      have h₀ := hheld.getD 0 (j := 0) (by omega)
      have h₁ := hheld.getD 0 (j := 1) (by omega)
      cases hb : w.ctx.backend with
      | tcp | tcpPi =>
        rw [hb] at hex
        exact ⟨h₀.symm.trans hex.1.symm, h₁.symm.trans hex.2.symm⟩
      | rtu =>
        rw [hb] at hex
        obtain ⟨hme, hcrc⟩ := hrtu hb
        rw [← hlen] at hcrc
        refine ⟨h₀.symm.trans ?_, checksummed_of_crcMatches (by omega) hheld hcrc⟩
        rcases hex with hzero | hsame
        · have hs := hslave hb
          simp only [hzero, UInt8.toNat_zero, Nat.cast_zero] at hs
          simp [notForMe, ← hs] at hme
          rw [hzero]
          exact UInt8.toNat_inj.mp hme
        · exact hsame.symm
    · rw [← hheld.getD 0 (by omega)]
      exact UInt8.toNat_inj.mp hconfirms.function
    · rw [← hheld.getD 0 (by omega)]
      omega
    · omega

end Judged

lemma RightAnswer.same {call : ClientCall} {b : Backend} {req frame : List UInt8} {m : Mem UInt8}
    (h : RightAnswer call b req frame) (hm : m.Holds frame) : SameExchange b req m := by
  have h₀ := hm.getD 0 (j := 0) (by rw [h.length]; omega)
  have h₁ := hm.getD 0 (j := 1) (by rw [h.length]; omega)
  have hexchange := h.exchange
  unfold SameExchange
  cases b with
  | rtu => exact .inr (hexchange.1.symm.trans h₀.symm)
  | tcp | tcpPi => exact ⟨hexchange.1.symm.trans h₀.symm, hexchange.2.symm.trans h₁.symm⟩

section Runs

variable {call : ClientCall} {stack : Mem UInt8} {dest dest' : Dest} {w w' w₁ : World}
  {req : List UInt8} {k rc : ℤ}

lemma afterReceive_failed {op : Operation} {q : ℤ × Mem UInt8} {v : World}
    (h : afterReceive op req dest q v = .done (rc, dest') w')
    (hno : ∀ m u, checkConfirmation req q.2 q.1 v = .done m u → q.1 ≠ -1 → m = -1) :
    rc = -1 ∧ dest' = dest := by
  obtain ⟨-, hr, -⟩ | ⟨hq, m, hcheck, ⟨-, hr⟩ | ⟨hm, -⟩⟩ := afterReceive_done req dest h
  · exact Prod.mk.inj hr
  · exact Prod.mk.inj hr
  · exact absurd (hno m w' hcheck hq) hm

section Confirm

variable (hreq : HoldsPdu w.ctx.backend (req.getD · 0) call.pdu) (hr : call.Reads)
  (hc : call.CountsFrom 0)
  (hslave : w.ctx.backend = .rtu → ((req.getD 0 0).toNat : ℤ) = w.ctx.slave)

include hreq hr hc hslave

lemma confirm_right (stack : Mem UInt8) (dest : Dest) (hk : 0 < k)
    (h : RightAnswer call w.ctx.backend req
      (received w (call.operation.confirm stack k req dest w).state)) :
    (call.operation.confirm stack k req dest w).value = some (call.count,
      (call.decoded w.ctx.backend (received w (call.operation.confirm stack k req dest w).state)).fill
        dest) := by
  rcases confirm_received stack req dest hk w with ⟨q, v, hv, hrun, hidle⟩ | ⟨v, hrun, hstalled⟩
  · rw [hv.later hidle] at h ⊢
    obtain ⟨rfl, hctx⟩ := received_right hreq hr hc hslave hv h
    have hheld := Mem.holds_write_self stack (received w v)
    obtain ⟨pdu, hpdu, hlen, hcar⟩ := carries_decoded hreq h hr hc hheld
    have hpre : preCheckConfirmation req (stack.write 0 (received w v)) v = .done 0 v :=
      preCheckConfirmation_same (by rw [hctx]; exact h.same hheld)
    have hlength : ((received w v).length : ℤ) =
        (v.ctx.backend.headerLength + pdu.length + v.ctx.backend.checksumLength : ℕ) := by
      rw [hctx, h.length, hlen, Nat.add_assoc w.ctx.backend.headerLength]
    have hanswers : ∀ data ∈ some (call.decoded w.ctx.backend (received w v)),
        call.AnsweredBy data := by
      rintro _ ⟨⟩
      exact answeredBy_decoded hr
    obtain ⟨errno, hdone, -⟩ := afterReceive_answer hpre hc (by rwa [hctx]) hlength hanswers hcar
      (by rwa [hctx]) dest
    rw [hrun, hdone]
    rfl
  · rw [hrun] at h
    exact absurd h (not_stalled_right hreq hr hc hslave hstalled)

lemma confirm_wrong (stack : Mem UInt8) (dest : Dest) (hk : 0 < k)
    (h : ¬RightAnswer call w.ctx.backend req
      (received w (call.operation.confirm stack k req dest w).state)) :
    ∀ r ∈ (call.operation.confirm stack k req dest w).value, r = (-1, dest) := by
  rintro ⟨rc, dest'⟩ hvalue
  rcases confirm_received stack req dest hk w with ⟨q, v, hv, hrun, hidle⟩ | ⟨v, hrun, -⟩
  · rw [hv.later hidle] at h
    have hdone := Outcome.value_eq_some hvalue
    rw [hrun] at hdone
    obtain ⟨rfl, rfl⟩ := afterReceive_failed hdone fun m u hcheck hq => by
      by_contra hm
      exact h (right_of_accepted hreq hr hc hslave hv hq hcheck hm)
    rfl
  · rw [hrun] at hvalue
    cases hvalue

end Confirm

/-- Once the request was sent, a read succeeds if and only if the right answer was received, and then
it returns the values in it. -/
theorem reads_all_or_nothing {o : Outcome World (ℤ × Dest)} (hr : call.Reads)
    (hc : call.CountsFrom 0) (hslave : w.ctx.backend = .rtu → 0 ≤ w.ctx.slave ∧ w.ctx.slave ≤ 247)
    (hissue : call.operation.issue w = .done (k, req) w₁) (hk : 0 < k)
    (hrun : call.operation.run stack dest w = o) :
    (RightAnswer call w.ctx.backend req (received w₁ o.state) ↔
      o.value = some (call.count, (call.decoded w.ctx.backend (received w₁ o.state)).fill dest)) ∧
    (¬RightAnswer call w.ctx.backend req (received w₁ o.state) → ∀ r ∈ o.value, r = (-1, dest)) := by
  obtain ⟨hsent, hconfig, -⟩ := issue_request (ClientCall.tooMany_false hc) hissue
  have hb : w₁.ctx.backend = w.ctx.backend := hconfig.backend.trans (nextRequest_backend w.ctx)
  have hs : w₁.ctx.slave = w.ctx.slave := by
    rw [hconfig]
    exact nextRequest_slave w.ctx
  have hreq : HoldsPdu w₁.ctx.backend (req.getD · 0) call.pdu := by
    rw [hb, hsent]
    exact holdsPdu_sendMsgPre (requestHeader_length _) fun j hj => List.getD_eq_getElem _ _ hj
  have hrtu : w₁.ctx.backend = .rtu → ((req.getD 0 0).toNat : ℤ) = w₁.ctx.slave := by
    intro hr
    rw [hb] at hr
    rw [hsent, hr, requestHeader_rtu hr, hs]
    exact ClientCall.ofInt_toNat (hslave hr).1 (by have := (hslave hr).2; omega)
  have hconfirm : call.operation.confirm stack k req dest w₁ = o := by
    rw [← hrun, Operation.run, bind_done hissue]
  have hcount : call.count ≠ -1 := by
    have := count_nonneg hc
    omega
  have hright := confirm_right hreq hr hc hrtu stack dest hk
  have hwrong := confirm_wrong hreq hr hc hrtu stack dest hk
  rw [hconfirm, hb] at hright hwrong
  refine ⟨⟨hright, fun h => ?_⟩, hwrong⟩
  by_contra hno
  exact hcount (Prod.mk.inj (hwrong hno _ h)).1

def oneRegister : World := .start modbusNewTcp [0, 1, 0, 0, 0, 5, 0xFF, 3, 2, 0, 7]
  [{}, {}, { recv := .data 5 }, {}, {}, {}, {}, {}, {}]

theorem reads_all_or_nothing_example : ∃ frame,
    RightAnswer (.readRegisters 0 1) .tcp [0, 1, 0, 0, 0, 6, 0xFF, 3, 0, 0, 0, 1] frame := by
  have hone : ((ClientCall.readRegisters 0 1).operation.run (fun _ => 0) ⟨fun _ => 0, fun _ => 0⟩
      oneRegister).value.map Prod.fst = some 1 := by decide +kernel
  have hsent : ((ClientCall.readRegisters 0 1).operation.issue oneRegister).value =
    some (12, [0, 1, 0, 0, 0, 6, 0xFF, 3, 0, 0, 0, 1]) := by decide +kernel
  obtain ⟨dest', w', hrun⟩ := run_returns hone
  have hreads : (ClientCall.readRegisters 0 1).Reads := trivial
  have hall := reads_all_or_nothing (w := oneRegister) hreads (by decide) nofun
    (Outcome.value_eq_some hsent) (by decide) hrun
  by_contra hno
  have hfailed := hall.2 (fun hright => hno ⟨_, hright⟩) _ rfl
  exact absurd (Prod.mk.inj hfailed).1 (by decide)

end Runs

end LibModbus
