import LibModbus.Bank.Client
import LibModbus.Client.Storage

/-! A client whose peer has the answer ready. -/

namespace LibModbus

open Library Library.Prog

section Answering

variable {call : ClientCall} {pdu : List UInt8}

/-- A peer that has sent this answer to the request, on a link that loses nothing. -/
def answering (pdu : List UInt8) : World :=
  .start modbusNewTcp (sendMsgPre .tcp (requestHeader modbusNewTcp ++ pdu))
    (List.replicate (2 * maxMessageLength + 1) {})

lemma answering_run (hc : call.CountsFrom 0) {data : Data} (hans : call.AnsweredBy data)
    (hcar : Carries call (some data) pdu) (hsized : SelfSized .confirmation pdu)
    (hshort : pdu.length ≤ maxPduLength) (stack : Mem UInt8) (dest : Dest) :
    ∃ w', call.operation.run stack dest (answering pdu) = .done (call.count, data.fill dest) w' := by
  obtain ⟨w₁, hissue, hctx, hrx, -, hf⟩ :=
    ClientCall.issue_flows hc (w := answering pdu) (n := 2 * maxMessageLength) (flows_replicate _)
  have hb : w₁.ctx.backend = .tcp := by rw [hctx, nextRequest_backend]; rfl
  have hm := Mem.holds_write_self (fun _ => 0) (call.request modbusNewTcp)
  have hshape : ResponseShape w₁.ctx.backend (Mem.write (fun _ => 0) 0 (call.request modbusNewTcp))
      (requestHeader modbusNewTcp ++ pdu) (requestHeader modbusNewTcp) pdu := by
    rw [hb]
    refine ⟨rfl, rfl, fun j hj hfix => ?_, hsized, hshort⟩
    have h₄ : j ≠ 4 := by
      rintro rfl
      exact absurd hfix (by decide)
    have h₅ : j ≠ 5 := by
      rintro rfl
      exact absurd hfix (by decide)
    exact (header_sendMsgPre (b := .tcp) rfl hm hj h₄ h₅).symm
  have hlen : (sendMsgPre w₁.ctx.backend (requestHeader modbusNewTcp ++ pdu)).length ≤
      maxMessageLength := hshape.frame.allowed.trans (maxAduLength_le _)
  have hanswer : ∀ data' ∈ some data, call.AnsweredBy data' := by
    rintro _ ⟨⟩
    exact hans
  have hrx₁ : w₁.rx = sendMsgPre w₁.ctx.backend (requestHeader modbusNewTcp ++ pdu) := by
    rw [hrx, hb]
    rfl
  have hctx₁ : modbusNewTcp.backend = w₁.ctx.backend := hb.symm
  obtain ⟨w', hconfirm, -⟩ := confirm_answer stack dest hc hctx₁ hm hshape
    (fun hr => absurd (hb.symm.trans hr) (by decide)) hanswer hcar hrx₁
    (hf.mono (Nat.mul_le_mul_left 2 hlen))
  refine ⟨w', ?_⟩
  rw [Operation.run, bind_done hissue]
  exact hconfirm

lemma answering_sent (hc : call.CountsFrom 0) {stack : Mem UInt8} {dest : Dest} {r : ℤ × Dest} {w' : World}
    (hrun : call.operation.run stack dest (answering pdu) = .done r w') :
    w'.tx = call.request modbusNewTcp := by
  obtain ⟨w₁, hissue, -, -, htx₁, -⟩ :=
    ClientCall.issue_flows hc (w := answering pdu) (n := 2 * maxMessageLength) (flows_replicate _)
  have hconfirm := (bind_done hissue _).symm.trans hrun
  rw [((confirm_keeps _ _ _ _ _).done hconfirm).tx, htx₁]
  rfl

lemma writeRegisters_request_inj {addr : ℤ} {nb : ℕ} {written written' : Mem UInt16}
    (h : (ClientCall.writeRegisters addr nb written').request modbusNewTcp =
      (ClientCall.writeRegisters addr nb written).request modbusNewTcp) :
    ∀ i < nb, written' i = written i := by
  have hheld (src : Mem UInt16) : HoldsPdu .tcp
      (((ClientCall.writeRegisters addr nb src).request modbusNewTcp).getD · 0)
      (ClientCall.writeRegisters addr nb src).pdu :=
    holdsPdu_sendMsgPre (requestHeader_length modbusNewTcp) fun j hj => List.getD_eq_getElem _ _ hj
  intro i hi
  have hword := writeRegisters_word (hheld written') (k := i) (by omega)
  rw [h, writeRegisters_word (hheld written) (by omega)] at hword
  exact hword.symm

lemma reading_run (addr : ℤ) {nb : ℕ} (hnb : nb ≤ 125) (registers : Mem UInt16) (stack : Mem UInt8)
    (dest : Dest) : ∃ pdu w' buffer, (modbusReadRegisters addr nb).run stack dest (answering pdu) =
      .done ((nb : ℤ), buffer) w' ∧ ∀ i < nb, buffer.words i = registers i := by
  have hlen : (registers.slice 0 nb).length = nb := Mem.slice_length _ _ _
  have hbyte : (UInt8.ofNat (2 * nb)).toNat = ((registers.slice 0 nb).flatMap registerBytes).length := by
    rw [flatMap_registerBytes_length, hlen, UInt8.toNat_ofNat']
    omega
  have hc : (ClientCall.readRegisters addr nb).CountsFrom 0 := by
    refine ⟨Int.natCast_nonneg nb, ?_⟩
    simp only [modbusMaxReadRegisters]
    omega
  have hcar : Carries (.readRegisters addr nb) (some (.words (registers.slice 0 nb)))
      (UInt8.ofInt fcReadHoldingRegisters :: UInt8.ofNat (2 * nb) ::
        (registers.slice 0 nb).flatMap registerBytes) := by
    rw [Carries, hlen]
    rfl
  have hshort : (UInt8.ofInt fcReadHoldingRegisters :: UInt8.ofNat (2 * nb) ::
      (registers.slice 0 nb).flatMap registerBytes).length ≤ maxPduLength := by
    rw [List.length_cons, List.length_cons, flatMap_registerBytes_length, hlen, maxPduLength]
    omega
  have hans : (ClientCall.readRegisters addr nb).AnsweredBy (.words (registers.slice 0 nb)) := hlen
  obtain ⟨w', hrun⟩ := answering_run hc hans hcar (selfSized_counted (.inl (by decide)) hbyte) hshort
    stack dest
  have hfill : ((Data.words (registers.slice 0 nb)).fill dest).words =
      dest.words.write 0 (registers.slice 0 nb) := rfl
  refine ⟨_, w', _, hrun, fun i hi => ?_⟩
  rw [hfill, Mem.write_apply, dif_pos ⟨Nat.zero_le i, by omega⟩, Mem.slice_getElem]
  simp

lemma writeRegisters_counts (addr : ℤ) {nb : ℕ} (hnb : nb ≤ 123) (written : Mem UInt16) :
    (ClientCall.writeRegisters addr nb written).CountsFrom 0 := by
  refine ⟨Int.natCast_nonneg nb, ?_⟩
  simp only [modbusMaxWriteRegisters]
  omega

lemma writing_run (addr : ℤ) {nb : ℕ} (hnb : nb ≤ 123) (written : Mem UInt16) (stack : Mem UInt8)
    (dest : Dest) : ∃ pdu w' buffer,
      (modbusWriteRegisters addr nb written).run stack dest (answering pdu) =
        .done ((nb : ℤ), buffer) w' := by
  have hc := writeRegisters_counts addr hnb written
  have hans : (ClientCall.writeRegisters addr nb written).AnsweredBy .written := trivial
  obtain ⟨w', hrun⟩ := answering_run hc hans rfl (selfSized_echo (.inr (.inr (.inr rfl))))
    ((List.length_take_le 5 _).trans (by decide)) stack dest
  exact ⟨_, w', _, hrun⟩

end Answering

end LibModbus
