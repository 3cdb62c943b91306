import LibModbus.Server.Atomic
import LibModbus.Stream.Serving

/-! A TCP server on a stream of messages whose own length fields are right. -/

namespace LibModbus

open Library Library.Prog

def serveAll : List (Mem UInt8) → Mapping → M (List ℤ × Mapping)
  | [], mb => return ([], mb)
  | buf :: bufs, mb => do
    let (rc, reply) ← serveRequest buf mb
    let (rcs, mb) ← serveAll bufs reply.mapping
    return (rc :: rcs, mb)

section Header

variable (adu : List UInt8)

def mbapLength : ℕ := word (adu.getD 4 0) (adu.getD 5 0)

def aduFunction : ℕ := (adu.getD 7 0).toNat

/-- The length field counts the unit identifier and what follows it. -/
structure WellFormed : Prop where
  low : 2 ≤ mbapLength adu
  high : mbapLength adu ≤ 254
  exact : adu.length = 6 + mbapLength adu

end Header

/-- The message has the length that the tables of `_modbus_receive_msg` give its function, the
function has an answer, and a read in it asks for no more than fits. -/
structure Recognised (b : Backend) (mb : Mapping) (adu : List UInt8) : Prop where
  sized : ∀ m : Mem UInt8, m.Holds adu → frameLength b .indication m = adu.length
  answered : aduFunction adu ≠ fcReadExceptionStatus
  low : aduFunction adu < 0x80
  limits : ∀ m : Mem UInt8, m.Holds adu → ReadsWithinLimits b m mb

/-- One whole response, to this message, and to an unsupported function the exception for it. -/
structure Answers (b : Backend) (adu reply : List UInt8) : Prop where
  built : ∃ (m : Mem UInt8) (mb : Mapping) (rsp : List UInt8), m.Holds adu ∧
    (replyBuild b m adu.length mb).rsp = some rsp ∧ reply = sendMsgPre b rsp
  whole : IsFrame b .confirmation reply
  wellFormed : WellFormed reply
  transaction : reply.take 2 = adu.take 2
  unit : reply.getD 6 0 = adu.getD 6 0
  unsupported : ¬Supported (aduFunction adu) → aduFunction reply = aduFunction adu + 0x80 ∧
    reply.drop 8 = [UInt8.ofNat modbusExceptionIllegalFunction]

/-- Every round takes exactly one of the messages, and the replies answer them in order. -/
def StaysInFrame (adus : List (List UInt8)) (rest : List UInt8) (bufs : List (Mem UInt8))
    (mb : Mapping) (w : World) : Prop :=
  ∃ w' mb' replies, serveAll bufs mb w = .done (adus.map fun adu => (adu.length : ℤ), mb') w' ∧
    w'.rx = rest ∧ w'.tx = w.tx ++ replies.flatten ∧ List.Forall₂ (Answers w.ctx.backend) adus replies

section Sizes

variable {b : Backend} {mb mb' : Mapping}

lemma Recognised.congr {adu : List UInt8} (h : Recognised b mb adu)
    (hs : ∀ t, mb'.size t = mb.size t) : Recognised b mb' adu :=
  ⟨h.sized, h.answered, h.low, fun m hm => (h.limits m hm).congr hs⟩

end Sizes

section Replies

variable {b : Backend} {mb : Mapping} {adu : List UInt8} {m : Mem UInt8}

lemma headerLength_tcp (hb : b ≠ .rtu) : b.headerLength = 7 := by
  cases b <;> first | rfl | contradiction

lemma Recognised.frame (h : Recognised b mb adu) (hb : b ≠ .rtu) (hw : WellFormed adu) :
    IsFrame b .indication adu where
  length hm := h.sized _ hm
  allowed := by
    have hmax : b.maxAduLength = 260 := by cases b <;> first | rfl | contradiction
    have := hw.high
    rw [hmax, hw.exact]
    omega

lemma requestFunction_holds (hb : b ≠ .rtu) (hw : WellFormed adu) (hm : m.Holds adu) :
    requestFunction b m = aduFunction adu := by
  have hl : 7 < adu.length := by
    have := hw.low
    rw [hw.exact]
    omega
  rw [requestFunction, headerLength_tcp hb, aduFunction, hm 7 hl, List.getD_eq_getElem _ _ hl]

lemma wellFormed_sendMsgPre (hb : b ≠ .rtu) {msg : List UInt8} (h₀ : 8 ≤ msg.length)
    (h₁ : msg.length ≤ 260) : WellFormed (sendMsgPre b msg) := by
  have hlen : (sendMsgPre b msg).length = msg.length := by
    rw [sendMsgPre_length]
    cases b <;> first | rfl | contradiction
  have hfield : mbapLength (sendMsgPre b msg) = msg.length - 6 := by
    have hw := word_bytes_nat (show msg.length - 6 < 65536 by omega)
    rw [Nat.cast_sub (by omega)] at hw
    cases b with
    | rtu => contradiction
    | tcp | tcpPi =>
      rw [mbapLength, sendMsgPre, tcpSendMsgPre, List.getD_eq_getElem _ _ (by simp; omega),
        List.getD_eq_getElem _ _ (by simp; omega), List.getElem_set_ne (by decide),
        List.getElem_set_self, List.getElem_set_self]
      exact hw
  exact ⟨by omega, by omega, by omega⟩

lemma sendMsgPre_drop (hb : b ≠ .rtu) {header : List UInt8} (hh : header.length = b.headerLength)
    (pdu : List UInt8) : (sendMsgPre b (header ++ pdu)).drop 7 = pdu := by
  obtain ⟨header', trailer, he, hh', ht, -⟩ := sendMsgPre_split b hh pdu
  have hc : b.checksumLength = 0 := by cases b <;> first | rfl | contradiction
  rw [headerLength_tcp hb] at hh'
  rw [hc, List.length_eq_zero_iff] at ht
  rw [he, ht, List.append_nil, List.drop_left' hh']

lemma unsupported_drop (hb : b ≠ .rtu) {n : ℕ} {rsp : List UInt8}
    (hu : ¬Supported (requestFunction b m)) (hr : (replyBuild b m n mb).rsp = some rsp) :
    (sendMsgPre b rsp).drop 7 = [UInt8.ofNat (requestFunction b m + 0x80),
      UInt8.ofNat modbusExceptionIllegalFunction] := by
  rw [replyBuild_unsupported hu] at hr
  rw [← Option.some.inj hr, responseException, buildResponseBasis_eq, List.append_assoc]
  exact sendMsgPre_drop hb (responseHeader_length _ _) _

lemma exists_answer (hb : b ≠ .rtu) (hw : WellFormed adu) (hr : Recognised b mb adu)
    (hm : m.Holds adu) : ∃ rsp, (replyBuild b m adu.length mb).rsp = some rsp ∧
      Answers b adu (sendMsgPre b rsp) := by
  have hf := requestFunction_holds hb hw hm
  have h7 := headerLength_tcp hb
  obtain ⟨rsp, hrsp⟩ := @replyBuild_some b m adu.length mb (by rw [hf]; exact hr.answered)
  obtain ⟨header, pdu, hshape⟩ := replyBuild_shaped (hr.sized m hm).symm (hr.limits m hm)
    (by rw [hf]; exact hr.low) rsp hrsp
  have hlen : (sendMsgPre b rsp).length = rsp.length := by
    rw [sendMsgPre_length]
    cases b <;> first | rfl | contradiction
  have hlong : 7 < rsp.length := by
    have hl : (sendMsgPre b rsp).length =
        frameLength b .confirmation (Mem.write (fun _ => 0) 0 (sendMsgPre b rsp)) :=
      hshape.frame.length_write
    have hpos := @header_lt_headLength b .confirmation (Mem.write (fun _ => 0) 0 (sendMsgPre b rsp))
    have hle := @headLength_le_frameLength b .confirmation
      (Mem.write (fun _ => 0) 0 (sendMsgPre b rsp))
    omega
  have hadu : 7 < adu.length := by
    have := hw.low
    rw [hw.exact]
    omega
  have hsame (j : ℕ) (hj : j < 2 ∨ j = 6) : (sendMsgPre b rsp).getD j 0 = adu.getD j 0 := by
    have hholds : Mem.Holds ((sendMsgPre b rsp).getD · 0) (sendMsgPre b (header ++ pdu)) := by
      rw [← hshape.split]
      exact fun k hk => List.getD_eq_getElem _ _ hk
    rw [header_sendMsgPre hshape.header_length hholds (j := j) (by omega) (by omega) (by omega),
      hshape.header_eq j (by omega) (by omega), hm j (by omega), List.getD_eq_getElem _ _ (by omega)]
  refine ⟨rsp, hrsp, ⟨m, mb, rsp, hm, hrsp, rfl⟩, hshape.frame, ?_, ?_, hsame 6 (.inr rfl), fun hu => ?_⟩
  · apply wellFormed_sendMsgPre hb (by omega)
    rw [← hlen]
    exact hshape.frame.allowed.trans (maxAduLength_le b)
  · apply List.ext_getElem
    · simp only [List.length_take]
      omega
    · intro j h₁ h₂
      simp only [List.length_take] at h₁ h₂
      have := hsame j (.inl (by omega))
      rw [List.getElem_take, List.getElem_take]
      rwa [List.getD_eq_getElem _ _ (by omega), List.getD_eq_getElem _ _ (by omega)] at this
  · rw [← hf] at hu ⊢
    have hd := unsupported_drop hb hu hrsp
    have hlow : requestFunction b m < 0x80 := by
      rw [hf]
      exact hr.low
    refine ⟨?_, ?_⟩
    · have hget : (sendMsgPre b rsp).getD 7 0 = ((sendMsgPre b rsp).drop 7).getD 0 0 := by
        simp [List.getD_eq_getElem?_getD]
      rw [aduFunction, hget, hd]
      exact UInt8.toNat_ofNat_of_lt' (show requestFunction b m + 0x80 < 256 by omega)
    · have hdrop : (sendMsgPre b rsp).drop 8 = ((sendMsgPre b rsp).drop 7).drop 1 := by simp
      rw [hdrop, hd]
      rfl

end Replies

section Streams

def bareAdu (function : UInt8) : List UInt8 := [0, 1, 0, 0, 0, 2, 0xFF, function]

def writeAdu : List UInt8 := [0, 2, 0, 0, 0, 6, 0xFF, 6, 0, 0, 0, 7]

def hiddenWrite : List UInt8 := [0, 1, 0, 0, 0, 14, 0xFF, 43] ++ writeAdu

def sentTo (stream : List UInt8) : World :=
  .start modbusNewTcp stream (List.replicate (2 * stream.length + 2) {})

lemma frameLength_unsupported {m : Mem UInt8} (h : m 7 = 43) : frameLength .tcp .indication m = 8 := by
  simp [frameLength, headLength, computeMetaLengthAfterFunction, computeDataLengthAfterMeta,
    computeDataLength, Backend.headerLength, h]

lemma frameLength_write {m : Mem UInt8} (h : m 7 = 6) : frameLength .tcp .indication m = 12 := by
  simp [frameLength, headLength, computeMetaLengthAfterFunction, computeDataLengthAfterMeta,
    computeDataLength, Backend.headerLength, h]

end Streams

end LibModbus
