import LibModbus.Framing.Frames

/-! The two layouts around a function code and its data: `send_msg_pre` fills in the length field
of the TCP header, or appends the checksum of the serial line. -/

namespace LibModbus

open Library

/-- The longest function code with data that fits, the same for all backends. -/
def maxPduLength : ℕ := 253

lemma maxAduLength_eq (b : Backend) :
    b.maxAduLength = b.headerLength + maxPduLength + b.checksumLength := by
  cases b <;> rfl

lemma maxAduLength_le (b : Backend) : b.maxAduLength ≤ maxMessageLength := by
  cases b <;> decide

def HoldsPdu (b : Backend) (m : Mem UInt8) (pdu : List UInt8) : Prop :=
  ∀ j (h : j < pdu.length), m (b.headerLength + j) = pdu[j]

def SelfSized (msgType : MsgType) (pdu : List UInt8) : Prop :=
  ∀ (b : Backend) (m : Mem UInt8), HoldsPdu b m pdu →
    frameLength b msgType m = b.headerLength + pdu.length + b.checksumLength

lemma sendMsgPre_split (b : Backend) {header : List UInt8} (hh : header.length = b.headerLength)
    (pdu : List UInt8) : ∃ header' trailer,
      sendMsgPre b (header ++ pdu) = header' ++ (pdu ++ trailer) ∧
      header'.length = b.headerLength ∧ trailer.length = b.checksumLength ∧
      ∀ j, j ≠ 4 → j ≠ 5 → header'.getD j 0 = header.getD j 0 := by
  cases b with
  | rtu =>
    exact ⟨header, _, by rw [sendMsgPre, rtuSendMsgPre, List.append_assoc], hh, rfl,
      fun _ _ _ => rfl⟩
  | tcp | tcpPi =>
    have h₄ : 4 < header.length := by rw [hh]; decide
    have h₅ : 5 < header.length := by rw [hh]; decide
    refine ⟨(header.set 4 (hiByte ((header ++ pdu).length - 6 : ℤ))).set 5
      (loByte ((header ++ pdu).length - 6 : ℤ)), [], ?_, ?_, rfl, fun j hj₄ hj₅ => ?_⟩
    · simp only [sendMsgPre, tcpSendMsgPre]
      rw [List.set_append_left _ _ h₄, List.set_append_left _ _ (by rwa [List.length_set]),
        List.append_nil]
    · rw [List.length_set, List.length_set, hh]
    · simp only [List.getD_eq_getElem?_getD, List.getElem?_set_ne hj₄.symm,
        List.getElem?_set_ne hj₅.symm]

lemma sendMsgPre_length (b : Backend) (msg : List UInt8) :
    (sendMsgPre b msg).length = msg.length + b.checksumLength := by
  cases b <;> simp [sendMsgPre, rtuSendMsgPre, tcpSendMsgPre]

section Sent

variable {b : Backend} {header pdu : List UInt8} {m : Mem UInt8}

lemma holdsPdu_sendMsgPre (hh : header.length = b.headerLength)
    (hm : m.Holds (sendMsgPre b (header ++ pdu))) : HoldsPdu b m pdu := fun j hj => by
  obtain ⟨header', trailer, he, hh', -, -⟩ := sendMsgPre_split b hh pdu
  rw [he] at hm
  rw [hm _ (by simp only [List.length_append]; omega), List.getElem_append_right (by omega),
    List.getElem_append_left (by omega)]
  simp [hh']

lemma header_sendMsgPre (hh : header.length = b.headerLength)
    (hm : m.Holds (sendMsgPre b (header ++ pdu))) {j : ℕ} (hj : j < b.headerLength) (h₄ : j ≠ 4)
    (h₅ : j ≠ 5) : m j = header.getD j 0 := by
  obtain ⟨header', trailer, he, hh', -, hsame⟩ := sendMsgPre_split b hh pdu
  rw [he] at hm
  rw [hm _ (by simp only [List.length_append]; omega), List.getElem_append_left (by omega),
    ← hsame j h₄ h₅, List.getD_eq_getElem _ _ (by omega)]

lemma isFrame_sendMsgPre {msgType : MsgType} (hh : header.length = b.headerLength)
    (hp : SelfSized msgType pdu) (hmax : pdu.length ≤ maxPduLength) :
    IsFrame b msgType (sendMsgPre b (header ++ pdu)) where
  length hm := by
    rw [hp b _ (holdsPdu_sendMsgPre hh hm), sendMsgPre_length, List.length_append, hh]
  allowed := by
    rw [sendMsgPre_length, List.length_append, hh, maxAduLength_eq]
    omega

lemma crcMatches_rtuSendMsgPre {msg : List UInt8} (hm : m.Holds (rtuSendMsgPre msg)) :
    crcMatches m (rtuSendMsgPre msg).length = true := by
  have hlen : (rtuSendMsgPre msg).length = msg.length + 2 := by simp [rtuSendMsgPre]
  have hslice : m.slice 0 msg.length = msg := by
    refine Mem.Holds.slice fun j hj => ?_
    rw [hm j (by omega)]
    simp [rtuSendMsgPre, hj]
  have hhi : m msg.length = hiByte (crc16 msg) := by
    rw [hm _ (by omega)]
    simp [rtuSendMsgPre]
  have hlo : m (msg.length + 1) = loByte (crc16 msg) := by
    rw [hm _ (by omega)]
    simp [rtuSendMsgPre]
  rw [crcMatches, hlen, decide_eq_true_eq, Nat.add_sub_cancel, hslice,
    show msg.length + 2 - 1 = msg.length + 1 by omega, hhi, hlo, word_bytes_nat (crc16_lt msg)]

lemma integrity_sendMsgPre {ctx : Modbus} {msg : List UInt8} {m : Mem UInt8}
    (hm : m.Holds (sendMsgPre ctx.backend msg)) :
    integrity ctx m (sendMsgPre ctx.backend msg).length ≠ -1 := by
  unfold integrity
  cases hb : ctx.backend with
  | tcp | tcpPi =>
    dsimp only
    omega
  | rtu =>
    rw [hb] at hm
    dsimp only
    split_ifs with _ hcrc
    · decide
    · omega
    · exact absurd (crcMatches_rtuSendMsgPre hm) hcrc

lemma intact_sendMsgPre {ctx : Modbus} (hh : header.length = ctx.backend.headerLength)
    (hslave : ctx.backend = .rtu → ((header.getD 0 0).toNat : ℤ) = ctx.slave) :
    Intact ctx (sendMsgPre ctx.backend (header ++ pdu)) := by
  intro m hm
  unfold integrity
  cases hb : ctx.backend with
  | tcp | tcpPi => rfl
  | rtu =>
    rw [hb] at hh hm
    have h0 : m 0 = header.getD 0 0 :=
      header_sendMsgPre hh hm (by decide) (by decide) (by decide)
    have hme : notForMe ctx m = false := by
      simp only [notForMe, h0, hslave hb, ne_eq, not_true_eq_false, false_and, decide_false]
    dsimp only
    rw [if_neg (by simp [hme]), sendMsgPre, crcMatches_rtuSendMsgPre hm, if_pos rfl]

end Sent

end LibModbus
