import LibModbus.Client.Loops
import LibModbus.Server.Dispatch

/-! The requests of a client as messages, and their fields as the server reads them. -/

namespace LibModbus

open Library Library.Prog

namespace ClientCall

def request (call : ClientCall) (ctx : Modbus) : List UInt8 :=
  sendMsgPre ctx.backend (requestHeader ctx ++ call.pdu)

variable {call : ClientCall} {ctx ctx' : Modbus}

lemma request_frame (h : call.CountsFrom 0) : IsFrame ctx.backend .indication (call.request ctx) :=
  isFrame_sendMsgPre (requestHeader_length ctx) (selfSized_pdu h) (pdu_length h)

lemma request_intact (hb : ctx'.backend = ctx.backend)
    (hs : ctx.backend = .rtu → ctx'.slave = ctx.slave ∧ 0 ≤ ctx.slave ∧ ctx.slave < 256) :
    Intact ctx' (call.request ctx) := by
  unfold request
  rw [← hb]
  refine intact_sendMsgPre (by rw [hb, requestHeader_length]) fun hr => ?_
  rw [hb] at hr
  obtain ⟨hsame, h₀, h₁⟩ := hs hr
  rw [requestHeader_rtu hr, hsame]
  exact ofInt_toNat h₀ h₁

lemma tooMany_false {least : ℤ} (h : call.CountsFrom least) : call.operation.tooMany = false := by
  cases call with
  | readBits | readInputBits | readRegisters | readInputRegisters | writeBits | writeRegisters =>
    exact decide_eq_false (not_lt.mpr h.2)
  | writeAndReadRegisters =>
    obtain ⟨⟨-, h₁⟩, -, h₂⟩ := h
    exact decide_eq_false (not_or.mpr ⟨not_lt.mpr h₁, not_lt.mpr h₂⟩)
  | writeBit | writeRegister | reportSlaveId => rfl

lemma request_length (h : call.CountsFrom 0) : (call.request ctx).length ≤ maxMessageLength :=
  (request_frame h).allowed.trans (maxAduLength_le _)

lemma issue_flows (h : call.CountsFrom 0) {w : World} {n : ℕ} (hf : Flows (n + 1) w.script) :
    ∃ w', call.operation.issue w =
        .done (((call.request w.ctx).length : ℤ), call.request w.ctx) w' ∧
      w'.ctx = nextRequest w.ctx ∧ w'.rx = w.rx ∧ w'.tx = w.tx ++ call.request w.ctx ∧
      Flows n w'.script := by
  obtain ⟨r, rest, hs, hr, hrest⟩ := hf.cases
  have hb : (nextRequest w.ctx).backend = w.ctx.backend := nextRequest_backend w.ctx
  have hsend : sendMsg (requestHeader w.ctx ++ call.pdu) { w with ctx := nextRequest w.ctx } = _ :=
    sendMsg_flows hs hr (by dsimp only; rw [hb]; exact request_length h)
  dsimp only at hsend
  rw [hb] at hsend
  exact ⟨_, (issue_eq (tooMany_false h) w).trans hsend, rfl, rfl, rfl, hrest⟩

end ClientCall

section Fields

open ClientCall

variable {b : Backend} {m : Mem UInt8} {function : ℕ} {addr nb : ℤ} {rest : List UInt8}

lemma HoldsPdu.fields (h : HoldsPdu b m (basisPdu function addr nb ++ rest)) (hf : function < 256) :
    requestFunction b m = function ∧ (requestAddress b m : ℤ) = addr % 65536 ∧
      (requestNb b m : ℤ) = nb % 65536 := by
  have h₀ : m b.headerLength = UInt8.ofInt function := h.function
  have h₁ : m (b.headerLength + 1) = hiByte addr := h.get (j := 0) (by simp)
  have h₂ : m (b.headerLength + 2) = loByte addr := h.get (j := 1) (by simp)
  have h₃ : m (b.headerLength + 3) = hiByte nb := h.get (j := 2) (by simp)
  have h₄ : m (b.headerLength + 4) = loByte nb := h.get (j := 3) (by simp)
  refine ⟨?_, ?_, ?_⟩
  · have := ofInt_toNat (x := function) (by omega) (by omega)
    rw [requestFunction, h₀]
    omega
  · rw [requestAddress, h₁, h₂, word_bytes]
  · rw [requestNb, h₃, h₄, word_bytes]

lemma HoldsPdu.fields_toNat (h : HoldsPdu b m (basisPdu function addr nb ++ rest))
    (hf : function < 256) (ha : 0 ≤ addr ∧ addr < 65536) (hn : 0 ≤ nb ∧ nb < 65536) :
    requestFunction b m = function ∧ requestAddress b m = addr.toNat ∧
      requestNb b m = nb.toNat := by
  obtain ⟨h₁, h₂, h₃⟩ := h.fields hf
  exact ⟨h₁, by omega, by omega⟩

end Fields

section Payload

variable {b : Backend} {req : Mem UInt8} {addr nb : ℤ}

lemma writeBits_flag {src : Mem UInt8} (hm : HoldsPdu b req (ClientCall.writeBits addr nb src).pdu)
    {k : ℕ} (hk : k < nb) : bitAt (flagData b req) k = decide (src k ≠ 0) := by
  obtain ⟨n, rfl⟩ := Int.eq_ofNat_of_zero_le (show 0 ≤ nb by omega)
  have hp := @packBytesLoop_packs n src ((n + 7) / 8) 0 rfl
  simp only [Nat.sub_zero, Nat.zero_add] at hp
  have hm' : HoldsPdu b req ((ClientCall.basisPdu fcWriteMultipleCoils addr n ++
      [UInt8.ofInt (bitByteCount n)]) ++ packBytesLoop n src ((n + 7) / 8) 0 0) := by
    simpa [ClientCall.pdu, ClientCall.bitByteCount_natCast] using hm
  have hlt : k / 8 < (packBytesLoop n src ((n + 7) / 8) 0 0).length := by
    rw [hp.length]
    omega
  rw [← hp.bit k (by omega)]
  refine bitAt_congr (Eq.trans ?_ (List.getD_eq_getElem _ _ hlt).symm)
  rw [flagData, Nat.add_assoc]
  exact hm'.behind hlt

lemma HoldsPdu.word {head : List UInt8} {src : Mem UInt16} {n : ℕ}
    (hm : HoldsPdu b req (head ++ packRegisters src n)) {k : ℕ} (hk : k < n) :
    wordAt req (b.headerLength + head.length + 2 * k) = src k := by
  rw [packRegisters_eq] at hm
  have hk' : k < (src.slice 0 n).length := by rwa [Mem.slice_length]
  rw [wordAt_registerBytes (fun j hj => ?_) hk', Mem.slice_getElem, Nat.zero_add]
  rw [Nat.add_assoc]
  exact hm.behind hj

lemma writeRegisters_word {src : Mem UInt16}
    (hm : HoldsPdu b req (ClientCall.writeRegisters addr nb src).pdu) {k : ℕ} (hk : k < nb) :
    wordAt req (b.headerLength + 6 + 2 * k) = src k := by
  have hm' : HoldsPdu b req ((ClientCall.basisPdu fcWriteMultipleRegisters addr nb ++
      [UInt8.ofInt (nb * 2)]) ++ packRegisters src nb.toNat) := by
    rw [List.append_assoc]
    exact hm
  exact hm'.word (show k < nb.toNat by omega)

variable {readAddr readNb : ℤ} {src : Mem UInt16}
  (hm : HoldsPdu b req (ClientCall.writeAndReadRegisters addr nb src readAddr readNb).pdu)

include hm

lemma writeAndReadRegisters_word {k : ℕ} (hk : k < nb) :
    wordAt req (b.headerLength + 10 + 2 * k) = src k := by
  have hm' : HoldsPdu b req ((ClientCall.basisPdu fcWriteAndReadRegisters readAddr readNb ++
      [hiByte addr, loByte addr, hiByte nb, loByte nb, UInt8.ofInt (nb * 2)]) ++
        packRegisters src nb.toNat) := by
    rw [List.append_assoc]
    exact hm
  exact hm'.word (show k < nb.toNat by omega)

lemma writeAndReadRegisters_fields : (requestAddressWrite b req : ℤ) = addr % 65536 ∧
    (requestNbWrite b req : ℤ) = nb % 65536 := by
  have hbytes (k) (hk : k < 4) : req (b.headerLength + (5 + k)) =
      [hiByte addr, loByte addr, hiByte nb, loByte nb][k] := by
    rw [hm (5 + k) (by simp [ClientCall.pdu, ClientCall.basisPdu]; omega)]
    interval_cases k <;> rfl
  rw [requestAddressWrite, hbytes 0 (by omega), hbytes 1 (by omega), requestNbWrite,
    hbytes 2 (by omega), hbytes 3 (by omega)]
  exact ⟨word_bytes addr, word_bytes nb⟩

end Payload

end LibModbus
