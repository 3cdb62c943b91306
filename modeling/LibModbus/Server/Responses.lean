import LibModbus.Server.Bounds

/-! The responses of the server as messages. -/

namespace LibModbus

open Library Library.Prog

structure ResponseShape (b : Backend) (req : Mem UInt8) (rsp header pdu : List UInt8) : Prop where
  split : rsp = header ++ pdu
  header_length : header.length = b.headerLength
  header_eq : ∀ j < b.headerLength, j < 2 ∨ j = b.headerLength - 1 → header.getD j 0 = req j
  sized : SelfSized .confirmation pdu
  short : pdu.length ≤ maxPduLength

def Shaped (b : Backend) (req : Mem UInt8) (r : Reply) : Prop :=
  ∀ rsp, r.rsp = some rsp → ∃ header pdu, ResponseShape b req rsp header pdu

section Shapes

variable {b : Backend} {req : Mem UInt8} {n : ℕ} {mb : Mapping} {pdu : List UInt8}

def responseHeader (b : Backend) (sft : Sft) : List UInt8 :=
  match b with
  | .rtu => [UInt8.ofNat sft.slave]
  | .tcp | .tcpPi => [hiByte sft.tId, loByte sft.tId, 0, 0, 0, 0, UInt8.ofNat sft.slave]

lemma buildResponseBasis_eq (b : Backend) (sft : Sft) :
    buildResponseBasis b sft = responseHeader b sft ++ [UInt8.ofNat sft.function] := by
  cases b <;> rfl

lemma responseHeader_length (b : Backend) (sft : Sft) :
    (responseHeader b sft).length = b.headerLength := by
  cases b <;> rfl

lemma responseHeader_eq (b : Backend) (req : Mem UInt8) (n j : ℕ) (hj : j < b.headerLength)
    (hfix : j < 2 ∨ j = b.headerLength - 1) :
    (responseHeader b (requestSft b req n)).getD j 0 = req j := by
  cases b with
  | rtu =>
    obtain rfl : j = 0 := by simp at hj; omega
    exact UInt8.ofNat_toNat
  | tcp | tcpPi =>
    rcases hfix with hfix | rfl
    · interval_cases j
      · exact hiByte_word _ _
      · exact loByte_word _ _
    · exact UInt8.ofNat_toNat

lemma shape_basis {function : ℕ} {rest : List UInt8}
    (hs : SelfSized .confirmation (UInt8.ofNat function :: rest)) (hl : rest.length < maxPduLength) :
    ResponseShape b req (buildResponseBasis b { requestSft b req n with function } ++ rest)
      (responseHeader b (requestSft b req n)) (UInt8.ofNat function :: rest) where
  split := by
    rw [buildResponseBasis_eq, List.append_assoc]
    rfl
  header_length := responseHeader_length _ _
  header_eq j hj := responseHeader_eq b req n j hj
  sized := hs
  short := hl

lemma shape_echo (hf : requestFunction b req = fcWriteSingleCoil ∨
    requestFunction b req = fcWriteSingleRegister) :
    ResponseShape b req (req.slice 0 (b.headerLength + 5)) (req.slice 0 b.headerLength)
      (req.slice b.headerLength 5) where
  split := by
    apply List.ext_getElem
    · simp
    · intro k h₁ h₂
      simp only [Mem.slice_length] at h₁
      rw [Mem.slice_getElem, Nat.zero_add]
      by_cases hk : k < b.headerLength
      · rw [List.getElem_append_left (by simpa using hk), Mem.slice_getElem, Nat.zero_add]
      · rw [List.getElem_append_right (by simpa using hk), Mem.slice_getElem, Mem.slice_length]
        congr 1
        omega
  header_length := by rw [Mem.slice_length]
  header_eq j hj _ := by
    rw [List.getD_eq_getElem _ _ (by simpa using hj), Mem.slice_getElem, Nat.zero_add]
  sized := by
    apply selfSized_echo
    rcases hf with hf | hf
    · exact .inl hf
    · exact .inr (.inl hf)
  short := by
    rw [Mem.slice_length]
    decide

lemma shaped_some {mapping : Mapping} {accesses : List Access} {rsp : List UInt8} {undefined : Bool} :
    Shaped b req ⟨mapping, accesses, some rsp, undefined⟩ ↔
      ∃ header pdu, ResponseShape b req rsp header pdu := by
  simp [Shaped]

lemma shape_exception (hf : requestFunction b req < 0x80) (code : ℕ) : ∃ header pdu,
    ResponseShape b req (responseException b (requestSft b req n) code) header pdu := by
  refine ⟨_, _, shape_basis (selfSized_exception ?_) (by simp [maxPduLength])⟩
  have hlt : (requestSft b req n).function + 0x80 < 256 := Nat.add_lt_add_right hf 0x80
  rw [UInt8.toNat_ofNat_of_lt' hlt]
  exact Nat.le_add_left _ _

lemma shaped_exception (hf : requestFunction b req < 0x80) (code : ℕ) :
    Shaped b req (replyException b (requestSft b req n) mb code) := by
  rw [replyException, shaped_some]
  exact shape_exception hf code

lemma shaped_counted {data : List UInt8} {mapping : Mapping} {accesses : List Access}
    (hf : requestFunction b req ≤ fcReadInputRegisters ∨ requestFunction b req = fcReportSlaveId ∨
      requestFunction b req = fcWriteAndReadRegisters) (hl : data.length ≤ maxPduLength - 2) :
    Shaped b req ⟨mapping, accesses, some (buildResponseBasis b (requestSft b req n) ++
      UInt8.ofNat data.length :: data), false⟩ := by
  have hfun : (UInt8.ofNat (requestFunction b req)).toNat = requestFunction b req :=
    UInt8.toNat_ofNat_of_lt' (UInt8.toNat_lt _)
  have hlen : (UInt8.ofNat data.length).toNat = data.length :=
    UInt8.toNat_ofNat_of_lt' (hl.trans_lt (by decide))
  refine shaped_some.mpr ⟨_, _, shape_basis (selfSized_counted (by rwa [hfun]) hlen) ?_⟩
  simp only [maxPduLength, List.length_cons] at hl ⊢
  omega

lemma shaped_repeated {mapping : Mapping} {accesses : List Access}
    (hf : requestFunction b req = fcWriteMultipleCoils ∨
      requestFunction b req = fcWriteMultipleRegisters) :
    Shaped b req ⟨mapping, accesses, some (buildResponseBasis b (requestSft b req n) ++
      req.slice (b.headerLength + 1) 4), false⟩ := by
  have hfun : (UInt8.ofNat (requestFunction b req)).toNat = requestFunction b req :=
    UInt8.toNat_ofNat_of_lt' (UInt8.toNat_lt _)
  refine shaped_some.mpr ⟨_, _, shape_basis (selfSized_echo ?_) (by simp [maxPduLength])⟩
  rw [hfun]
  exact .inr (.inr hf)

lemma replyBuild_shaped (hn : n = frameLength b .indication req) (hlim : ReadsWithinLimits b req mb)
    (hf : requestFunction b req < 0x80) : Shaped b req (replyBuild b req n mb) := by
  have hecho (h : requestFunction b req = fcWriteSingleCoil ∨
      requestFunction b req = fcWriteSingleRegister) :
      (prepareResponseTid b req n).2.toNat = b.headerLength + 5 := by
    have h6 : requestFunction b req ≤ fcWriteSingleRegister := by
      rcases h with h | h <;> simp [h]
    rw [prepareResponseTid_toNat, hn, frameLength_single h6, Nat.add_sub_cancel]
  refine replyBuild_rule (fun t tab ht => ?_) (fun t tab ht => ?_) (fun h => ?_) (fun h => ?_)
    (fun h => ?_) (fun h => ?_) (fun h => ?_) (fun _ => ?_) (fun h => ?_) fun _ =>
      shaped_exception hf _
  · rcases Nat.lt_or_ge (mb.size t) (requestAddress b req + requestNb b req) with ha | ha
    · rw [replyReadIoStatus_illegal ha]
      exact shaped_exception hf _
    · have hnb := hlim.flags t tab ht ha
      have hdata := responseIoStatus_length (requestAddress b req) (requestNb b req) tab
      rw [replyReadIoStatus_legal ha, ← hdata]
      refine shaped_counted (.inl ?_) ?_
      · rcases ht with ⟨h, -⟩ | ⟨h, -⟩ <;> simp [h]
      · rw [hdata]
        simp only [maxPduLength, responseMaxBits] at hnb ⊢
        omega
  · rcases Nat.lt_or_ge (mb.size t) (requestAddress b req + requestNb b req) with ha | ha
    · rw [replyReadRegisters_illegal ha]
      exact shaped_exception hf _
    · have hnb := hlim.registers t tab ht ha
      have hdata := wireRegisters_length tab (requestAddress b req) (requestNb b req)
      rw [replyReadRegisters_legal ha, ← hdata]
      refine shaped_counted (.inl ?_) ?_
      · rcases ht with ⟨h, -⟩ | ⟨h, -⟩ <;> simp [h]
      · rw [hdata]
        simp only [maxPduLength, responseMaxRegisters] at hnb ⊢
        omega
  · rcases Nat.lt_or_ge (requestAddress b req) mb.nbBits with ha | ha
    · by_cases hd : requestNb b req = 0xFF00 ∨ requestNb b req = 0
      · rw [replyWriteSingleCoil_legal ha hd, shaped_some, hecho (.inl h)]
        exact ⟨_, _, shape_echo (.inl h)⟩
      · rw [replyWriteSingleCoil_value ha hd]
        exact shaped_exception hf _
    · rw [replyWriteSingleCoil_illegal ha]
      exact shaped_exception hf _
  · rcases Nat.lt_or_ge (requestAddress b req) mb.nbRegisters with ha | ha
    · rw [replyWriteSingleRegister_legal ha, shaped_some, hecho (.inr h)]
      exact ⟨_, _, shape_echo (.inr h)⟩
    · rw [replyWriteSingleRegister_illegal ha]
      exact shaped_exception hf _
  · rcases Nat.lt_or_ge mb.nbBits (requestAddress b req + requestNb b req) with ha | ha
    · rw [replyWriteMultipleCoils_illegal ha]
      exact shaped_exception hf _
    · rw [replyWriteMultipleCoils_legal ha]
      exact shaped_repeated (.inl h)
  · rcases Nat.lt_or_ge mb.nbRegisters (requestAddress b req + requestNb b req) with ha | ha
    · rw [replyWriteMultipleRegisters_illegal ha]
      exact shaped_exception hf _
    · rw [replyWriteMultipleRegisters_legal ha]
      exact shaped_repeated (.inr h)
  · exact shaped_counted (.inr (.inl h)) (by decide)
  · exact fun rsp h => absurd h (by simp)
  · by_cases ha : mb.nbRegisters < requestAddress b req + requestNb b req ∨
        mb.nbRegisters < requestAddressWrite b req + requestNbWrite b req
    · rw [replyWriteAndReadRegisters_illegal ha]
      exact shaped_exception hf _
    · rw [not_or, Nat.not_lt, Nat.not_lt] at ha
      have hnb := hlim.exchange h ha.1 ha.2
      have hdata := wireRegisters_length (exchangedRegisters b req mb.tabRegisters)
        (requestAddress b req) (requestNb b req)
      rw [replyWriteAndReadRegisters_legal ha.1 ha.2, ← hdata]
      apply shaped_counted (.inr (.inr h))
      rw [hdata]
      simp only [maxPduLength, responseMaxRegisters] at hnb ⊢
      omega

end Shapes

section Messages

variable {b : Backend} {req : Mem UInt8} {rsp header pdu : List UInt8}

lemma ResponseShape.frame (h : ResponseShape b req rsp header pdu) :
    IsFrame b .confirmation (sendMsgPre b rsp) := by
  rw [h.split]
  exact isFrame_sendMsgPre h.header_length h.sized h.short

lemma ResponseShape.intact {ctx : Modbus} (h : ResponseShape ctx.backend req rsp header pdu)
    (hs : ctx.backend = .rtu → ((req 0).toNat : ℤ) = ctx.slave) :
    Intact ctx (sendMsgPre ctx.backend rsp) := by
  rw [h.split]
  refine intact_sendMsgPre h.header_length fun hr => ?_
  rw [h.header_eq 0 (by rw [hr]; decide) (.inl (by omega))]
  exact hs hr

end Messages

end LibModbus
