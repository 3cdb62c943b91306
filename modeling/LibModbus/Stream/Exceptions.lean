import LibModbus.Bank.Client

/-! The errors of the server as the client sees them. An exception is marked by 0x80 added to the
function code, in eight bits. -/

namespace LibModbus

open Library Library.Prog

/-- What a function sends, on every link that loses nothing. -/
def Emits {α : Type} (b : Backend) (m : M α) (bytes : List UInt8) : Prop :=
  ∀ w : World, w.ctx.backend = b → Flows 1 w.script →
    ∃ a w', m w = .done a w' ∧ w'.tx = w.tx ++ bytes

/-- The bytes are one message for a client, and the exception `e` for the client that sent `req`. -/
structure SeenAs (b : Backend) (req : List UInt8) (e : ℕ) (bytes : List UInt8) : Prop where
  framed : ∀ (w : World) (rsp : Mem UInt8) (rest : List UInt8), w.ctx.backend = b →
    w.rx = bytes ++ rest → Flows (2 * bytes.length) w.script →
      ∃ rc w', receiveMsg .confirmation rsp w = .done (rc, rsp.write 0 bytes) w' ∧ w'.rx = rest ∧
        ((b = .rtu → ((req.getD 0 0).toNat : ℤ) = w.ctx.slave) → rc = bytes.length)
  classified : ∀ (w : World) (rsp : Mem UInt8), w.ctx.backend = b → rsp.Holds bytes →
    ∃ w', checkConfirmation req rsp bytes.length w = .done (-1) w' ∧ w'.errno = .modbus e

def ErrorSeen {α : Type} (b : Backend) (req : List UInt8) (e : ℕ) (m : M α) : Prop :=
  ∃ bytes, Emits b m bytes ∧ SeenAs b req e bytes

def AnswersWith (b : Backend) (req : Mem UInt8) (reqLength : ℤ) (mb : Mapping) (e : ℕ) : Prop :=
  (replyBuild b req reqLength mb).rsp = some (responseException b (requestSft b req reqLength) e)

section Sent

variable {α : Type} {b : Backend} {m : M α} {bytes bytes' : List UInt8} {buf : Mem UInt8} {e : ℕ}

lemma Emits.unique (h : Emits b m bytes) (h' : Emits b m bytes') : bytes = bytes' := by
  obtain ⟨a, w, hw, htx⟩ := h (World.start (modbusInitCommon b) [] [{}]) rfl (flows_replicate 1)
  obtain ⟨a', w', hw', htx'⟩ := h' (World.start (modbusInitCommon b) [] [{}]) rfl (flows_replicate 1)
  cases hw.symm.trans hw'
  exact List.append_cancel_left (htx.symm.trans htx')

lemma errorSeen_iff {req : List UInt8} (h : Emits b m bytes) :
    ErrorSeen b req e m ↔ SeenAs b req e bytes := by
  constructor
  · rintro ⟨bytes', hemits, hseen⟩
    rwa [h.unique hemits]
  · exact fun hseen => ⟨bytes, h, hseen⟩

def exceptionMessage (b : Backend) (buf : Mem UInt8) (e : ℕ) : List UInt8 :=
  sendMsgPre b (responseException b (requestSft b buf 0) e)

lemma requestSft_length (b : Backend) (buf : Mem UInt8) (n : ℤ) :
    requestSft b buf n = requestSft b buf 0 := by
  cases b <;> rfl

lemma responseException_split (b : Backend) (buf : Mem UInt8) (e : ℕ) :
    responseException b (requestSft b buf 0) e = responseHeader b (requestSft b buf 0) ++
      [UInt8.ofNat (requestFunction b buf + 0x80), UInt8.ofNat e] := by
  rw [responseException, buildResponseBasis_eq, List.append_assoc]
  cases b <;> rfl

lemma exceptionMessage_length (b : Backend) (buf : Mem UInt8) (e : ℕ) :
    (exceptionMessage b buf e).length = b.headerLength + 2 + b.checksumLength := by
  rw [exceptionMessage, sendMsgPre_length, responseException_split, List.length_append,
    responseHeader_length]
  rfl

lemma emits_send (buf : Mem UInt8) (e : ℕ) {w : World} (hb : w.ctx.backend = b)
    (hf : Flows 1 w.script) :
    ∃ r w', sendMsg (responseException b (requestSft b buf 0) e) w = .done r w' ∧
      w'.tx = w.tx ++ exceptionMessage b buf e := by
  obtain ⟨r, rest, hs, hr, -⟩ := hf.cases
  subst hb
  refine ⟨_, _, sendMsg_flows hs hr ?_, rfl⟩
  rw [← exceptionMessage, exceptionMessage_length]
  cases w.ctx.backend <;> decide

lemma emits_replyException (b : Backend) (buf : Mem UInt8) (he : e < modbusExceptionMax) :
    Emits b (modbusReplyException buf e) (exceptionMessage b buf e) := by
  intro w hb hf
  obtain ⟨r, w', hsend, htx⟩ := emits_send buf e hb hf
  refine ⟨r.1, w', ?_, htx⟩
  have hsft : (⟨(buf (b.headerLength - 1)).toNat, (buf b.headerLength).toNat + 0x80,
      (prepareResponseTid b buf 99).1⟩ : Sft) =
        { requestSft b buf 0 with function := (requestSft b buf 0).function + 0x80 } := by
    cases b <;> rfl
  rw [modbusReplyException, bind_getCtx, hb]
  dsimp only
  rw [if_pos he, hsft, ← responseException, bind_done hsend]
  rfl

lemma emits_reply {n : ℤ} {mb : Mapping} (h : AnswersWith b buf n mb e) :
    Emits b (modbusReply buf n mb) (exceptionMessage b buf e) := by
  intro w hb hf
  obtain ⟨r, w', hsend, htx⟩ := emits_send buf e hb hf
  rw [AnswersWith, requestSft_length] at h
  refine ⟨(r.1, replyBuild b buf n mb), w', ?_, htx⟩
  have hdefined : (replyBuild b buf n mb).undefined = false := by
    by_contra hu
    rw [replyBuild_undefined (by simpa using hu), responseException_split] at h
    simp at h
  rw [modbusReply_defined (by rwa [hb]), hb, h]
  dsimp only
  rw [bind_done hsend]
  rfl

end Sent

section Seen

variable {b : Backend} {req : List UInt8} {buf rsp : Mem UInt8} {e : ℕ} {w : World}

lemma exceptionMessage_bytes (hrsp : rsp.Holds (exceptionMessage b buf e)) :
    (∀ j < b.headerLength, j < 2 → rsp j = buf j) ∧
      rsp b.headerLength = UInt8.ofNat (requestFunction b buf + 0x80) ∧
        rsp (b.headerLength + 1) = UInt8.ofNat e := by
  rw [exceptionMessage, responseException_split] at hrsp
  have hlen := responseHeader_length b (requestSft b buf 0)
  have hpdu := holdsPdu_sendMsgPre hlen hrsp
  refine ⟨fun j hj hj₂ => ?_, hpdu.function, hpdu.get (j := 0) (by simp)⟩
  rw [header_sendMsgPre hlen hrsp hj (by omega) (by omega)]
  exact responseHeader_eq b buf 0 j hj (.inl hj₂)

lemma receive_exception {rest : List UInt8} (hf : requestFunction w.ctx.backend buf < 0x80)
    (hrx : w.rx = exceptionMessage w.ctx.backend buf e ++ rest)
    (hflows : Flows (2 * (exceptionMessage w.ctx.backend buf e).length) w.script) (rsp : Mem UInt8) :
    ∃ rc w', receiveMsg .confirmation rsp w =
        .done (rc, rsp.write 0 (exceptionMessage w.ctx.backend buf e)) w' ∧ w'.rx = rest ∧
      ((w.ctx.backend = .rtu → ((buf 0).toNat : ℤ) = w.ctx.slave) →
        rc = (exceptionMessage w.ctx.backend buf e).length) := by
  obtain ⟨header, pdu, hshape⟩ := shape_exception (n := 0) hf e
  obtain ⟨w', hrun, hrest, -⟩ := receiveMsg_whole hshape.frame hrx
    (fun m hm => integrity_sendMsgPre hm) rsp (n := 0) hflows
  refine ⟨_, w', hrun, hrest, fun hslave => ?_⟩
  exact hshape.intact hslave _ (Mem.holds_write_self rsp _)

variable (hreq : b.headerLength < req.length) (hbuf : buf.Holds req)

include hreq hbuf

lemma requestFunction_eq : requestFunction b buf = (req.getD b.headerLength 0).toNat := by
  rw [requestFunction, hbuf _ hreq, List.getD_eq_getElem _ _ hreq]

lemma preCheckConfirmation_exception (hb : w.ctx.backend = b)
    (hrsp : rsp.Holds (exceptionMessage b buf e)) : preCheckConfirmation req rsp w = .done 0 w := by
  refine preCheckConfirmation_pass fun j hj hj₂ => ?_
  rw [hb] at hj
  rw [(exceptionMessage_bytes hrsp).1 j hj hj₂, hbuf j (by omega), List.getD_eq_getElem]

lemma seenAs_exception (hf : (req.getD b.headerLength 0).toNat < 0x80) (he : e < modbusExceptionMax) :
    SeenAs b req e (exceptionMessage b buf e) := by
  have hfun := requestFunction_eq hreq hbuf
  have hmark : (UInt8.ofNat (requestFunction b buf + 0x80)).toNat = requestFunction b buf + 0x80 :=
    UInt8.toNat_ofNat_of_lt' (show requestFunction b buf + 0x80 < 256 by omega)
  have hcode : (UInt8.ofNat e).toNat = e := UInt8.toNat_ofNat_of_lt' (he.trans (by decide))
  constructor
  · intro w rsp rest hb hrx hflows
    subst hb
    have hslave : buf 0 = req.getD 0 0 := by rw [hbuf 0 (by omega), List.getD_eq_getElem]
    rw [← hslave]
    exact receive_exception (hfun.trans_lt hf) hrx hflows rsp
  · intro w rsp hb hrsp
    have hpre := preCheckConfirmation_exception hreq hbuf hb hrsp
    obtain ⟨-, hfunction, hexception⟩ := exceptionMessage_bytes hrsp
    subst hb
    refine ⟨_, checkConfirmation_exception hpre ?_ ?_ ?_ he, rfl⟩
    · rw [exceptionMessage_length]
    · rw [hfunction, hmark, hfun]
    · rw [hexception, hcode]

lemma checkConfirmation_unmarked (hf : 0x80 ≤ (req.getD b.headerLength 0).toNat)
    (hb : w.ctx.backend = b) (hrecovery : w.ctx.recoversProtocol = false)
    (hrsp : rsp.Holds (exceptionMessage b buf e)) :
    checkConfirmation req rsp (exceptionMessage b buf e).length w =
      .done (-1) { w with errno := embbaddata } := by
  have hfun := requestFunction_eq hreq hbuf
  have hlt : requestFunction b buf < 256 := UInt8.toNat_lt _
  have hpre := preCheckConfirmation_exception hreq hbuf hb hrsp
  obtain ⟨-, hfunction, -⟩ := exceptionMessage_bytes hrsp
  have hlow : (rsp b.headerLength).toNat < 0x80 := by
    rw [hfunction, UInt8.toNat_ofNat']
    omega
  have hcomputed : computeResponseLengthFromRequest b req =
      some (b.headerLength + 5 + b.checksumLength) := by
    unfold computeResponseLengthFromRequest
    dsimp only
    split
    case h_8 => rfl
    all_goals
      rename_i h
      rw [h] at hf
      exact absurd hf (by decide)
  rw [checkConfirmation, bind_getCtx, hb]
  dsimp only
  rw [bind_done hpre, if_neg (by decide), if_neg (by omega), hcomputed, exceptionMessage_length,
    if_neg (by simp), rejectConfirmation, bind_getCtx]
  simp only [hrecovery]
  rfl

lemma not_seenAs_exception (hf : 0x80 ≤ (req.getD b.headerLength 0).toNat)
    (he : e < modbusExceptionMax) : ¬SeenAs b req e (exceptionMessage b buf e) := by
  intro hseen
  have hrsp := Mem.holds_write_self buf (exceptionMessage b buf e)
  have hreject := checkConfirmation_unmarked hreq hbuf hf
    (w := World.start (modbusInitCommon b) [] []) rfl (by cases b <;> decide) hrsp
  obtain ⟨w', hrun, herrno⟩ := hseen.classified (World.start (modbusInitCommon b) [] []) _ rfl hrsp
  rw [hreject] at hrun
  cases hrun
  obtain rfl : 13 = e := by simpa [embbaddata] using herrno
  exact absurd he (by decide)

end Seen

/-- Whichever of the two functions sends it, the client sees an error of the server as that error
exactly for requests whose function code is below 0x80. -/
theorem exceptions_seen_iff {b : Backend} {req : List UInt8} {buf : Mem UInt8} {e : ℕ}
    (hreq : b.headerLength < req.length) (hbuf : buf.Holds req)
    (he : 0 < e ∧ e < modbusExceptionMax) :
    (ErrorSeen b req e (modbusReplyException buf e) ↔ (req.getD b.headerLength 0).toNat < 0x80) ∧
      ∀ n mb, AnswersWith b buf n mb e →
        (ErrorSeen b req e (modbusReply buf n mb) ↔ (req.getD b.headerLength 0).toNat < 0x80) := by
  have hseen : SeenAs b req e (exceptionMessage b buf e) ↔
      (req.getD b.headerLength 0).toNat < 0x80 := by
    constructor
    · intro h
      by_contra hf
      exact not_seenAs_exception hreq hbuf (Nat.not_lt.mp hf) he.2 h
    · exact fun hf => seenAs_exception hreq hbuf hf he.2
  constructor
  · rw [errorSeen_iff (emits_replyException b buf he.2)]
    exact hseen
  · intro n mb hanswer
    rw [errorSeen_iff (emits_reply hanswer)]
    exact hseen

def bufferOf (frame : List UInt8) : Mem UInt8 := fun k => frame.getD k 0

lemma bufferOf_holds (frame : List UInt8) : (bufferOf frame).Holds frame :=
  fun _ hj => List.getD_eq_getElem _ _ hj

theorem exceptions_seen_iff_example : ErrorSeen .tcp (readRegistersRequest 1) 2
    (modbusReplyException (bufferOf (readRegistersRequest 1)) 2) :=
  (exceptions_seen_iff (by decide) (bufferOf_holds _) (by decide)).1.mpr (by decide)

def unmarkedRequest : List UInt8 := [0, 1, 0, 0, 0, 2, 0xFF, 0x83]

theorem refusal_unseen :
    AnswersWith .tcp (bufferOf unmarkedRequest) 8 fullTables modbusExceptionIllegalFunction ∧
      ¬ErrorSeen .tcp unmarkedRequest modbusExceptionIllegalFunction
        (modbusReply (bufferOf unmarkedRequest) 8 fullTables) := by
  have hanswer :
      AnswersWith .tcp (bufferOf unmarkedRequest) 8 fullTables modbusExceptionIllegalFunction := rfl
  refine ⟨hanswer, fun hseen => ?_⟩
  rw [errorSeen_iff (emits_reply hanswer)] at hseen
  exact not_seenAs_exception (by decide) (bufferOf_holds _) (by decide) (by decide) hseen

end LibModbus
