import LibModbus.Framing.Pdu
import LibModbus.Server.Dispatch

/-! How long the responses get: no branch of `modbus_reply` looks at the maxima of the protocol. -/

namespace LibModbus

open Library Library.Prog

section Accepted

lemma receiveMsg_accepted {msgType : MsgType} {buf msg : Mem UInt8} {w w' : World} {rc : ℤ}
    (hr : receiveMsg msgType buf w = .done (rc, msg) w') (hrc : 0 < rc) :
    rc.toNat = frameLength w.ctx.backend msgType msg ∧ rc.toNat ≤ w.ctx.backend.maxAduLength ∧
      w'.ctx = w.ctx := by
  have h := (receiveMsg_triple msgType buf w).done rfl hr
  obtain ⟨n, hn, hmax, -, -, hi, -, hctx, -⟩ := h.complete (by omega)
  have hv : rc = n := by
    dsimp only at hi
    unfold integrity at hi
    cases hb : w.ctx.backend <;> rw [hb] at hi <;> dsimp only at hi
    · split_ifs at hi <;> omega
    all_goals exact hi
  subst hv
  exact ⟨hn, hmax, hctx⟩

end Accepted

section Fits

variable (b : Backend) (req : Mem UInt8)

def readFunctions : List ℕ :=
  [fcReadCoils, fcReadDiscreteInputs, fcReadHoldingRegisters, fcReadInputRegisters,
    fcWriteAndReadRegisters]

/-- The response is a message the backend may send, `rsp` holds it with its checksum, and a read
response counts its data bytes correctly. -/
structure Fits (rsp : List UInt8) : Prop where
  buffer : (sendMsgPre b rsp).length ≤ maxMessageLength
  adu : (sendMsgPre b rsp).length ≤ b.maxAduLength
  count : requestFunction b req ∈ readFunctions → rsp.getD b.headerLength 0 = req b.headerLength →
    (rsp.getD (b.headerLength + 1) 0).toNat = rsp.length - (b.headerLength + 2)

/-- The most values whose bytes fit. The application's tables may be larger. -/
def responseMaxBits : ℕ := 2008
def responseMaxRegisters : ℕ := 125

/-- A read that the range check lets pass asks for no more than fits. -/
structure ReadsWithinLimits (mb : Mapping) : Prop where
  flags : ∀ t tab, FlagTable (requestFunction b req) mb t tab →
    requestAddress b req + requestNb b req ≤ mb.size t → requestNb b req ≤ responseMaxBits
  registers : ∀ t tab, RegisterTable (requestFunction b req) mb t tab →
    requestAddress b req + requestNb b req ≤ mb.size t → requestNb b req ≤ responseMaxRegisters
  exchange : requestFunction b req = fcWriteAndReadRegisters →
    requestAddress b req + requestNb b req ≤ mb.nbRegisters →
    requestAddressWrite b req + requestNbWrite b req ≤ mb.nbRegisters →
    requestNb b req ≤ responseMaxRegisters

variable {b req} {reqLength : ℕ} {mb : Mapping} {rsp data : List UInt8}

lemma fits_short (hlen : rsp.length ≤ b.headerLength + maxPduLength)
    (hread : requestFunction b req ∈ readFunctions →
      rsp.getD b.headerLength 0 ≠ req b.headerLength) : Fits b req rsp := by
  have hadu : (sendMsgPre b rsp).length ≤ b.maxAduLength := by
    rw [sendMsgPre_length, maxAduLength_eq]
    omega
  exact ⟨hadu.trans (maxAduLength_le b), hadu, fun hf he => absurd he (hread hf)⟩

lemma fits_exception (code : ℕ) :
    Fits b req (responseException b (requestSft b req reqLength) code) := by
  refine fits_short ?_ fun _ he => ?_
  · rw [responseException, List.length_append, buildResponseBasis_length]
    simp [maxPduLength]
  · rw [responseException, buildResponseBasis_function] at he
    have hofNat : UInt8.ofNat (requestFunction b req) = req b.headerLength := UInt8.ofNat_toNat
    rw [← hofNat] at he
    simp [requestSft] at he

lemma fits_counted :
    Fits b req (buildResponseBasis b (requestSft b req reqLength) ++
      UInt8.ofNat data.length :: data) ↔ data.length ≤ maxPduLength - 2 := by
  have hlen : (buildResponseBasis b (requestSft b req reqLength) ++
      UInt8.ofNat data.length :: data).length = b.headerLength + 2 + data.length := by
    rw [List.length_append, buildResponseBasis_length, List.length_cons]
    omega
  constructor
  · intro h
    have ha := h.adu
    rw [sendMsgPre_length, hlen, maxAduLength_eq] at ha
    simp only [maxPduLength] at ha ⊢
    omega
  · intro h
    have hadu : (sendMsgPre b (buildResponseBasis b (requestSft b req reqLength) ++
        UInt8.ofNat data.length :: data)).length ≤ b.maxAduLength := by
      rw [sendMsgPre_length, hlen, maxAduLength_eq]
      simp only [maxPduLength] at h ⊢
      omega
    refine ⟨hadu.trans (maxAduLength_le b), hadu, fun _ _ => ?_⟩
    rw [buildResponseBasis_next, hlen, Nat.add_sub_cancel_left]
    refine UInt8.toNat_ofNat_of_lt' (h.trans_lt ?_)
    decide

lemma ReadsWithinLimits.congr {mb' : Mapping} (h : ReadsWithinLimits b req mb) (hs : ∀ t, mb'.size t = mb.size t) :
    ReadsWithinLimits b req mb' where
  flags t tab := by
    rintro (⟨hf, rfl, rfl⟩ | ⟨hf, rfl, rfl⟩) hle <;> rw [hs] at hle
    · exact h.flags _ _ (.inl ⟨hf, rfl, rfl⟩) hle
    · exact h.flags _ _ (.inr ⟨hf, rfl, rfl⟩) hle
  registers t tab := by
    rintro (⟨hf, rfl, rfl⟩ | ⟨hf, rfl, rfl⟩) hle <;> rw [hs] at hle
    · exact h.registers _ _ (.inl ⟨hf, rfl, rfl⟩) hle
    · exact h.registers _ _ (.inr ⟨hf, rfl, rfl⟩) hle
  exchange hf h₁ h₂ := by
    have hn : mb'.nbRegisters = mb.nbRegisters := hs .registers
    rw [hn] at h₁ h₂
    exact h.exchange hf h₁ h₂

lemma withinLimits_other (h : requestFunction b req ∉ readFunctions) : ReadsWithinLimits b req mb where
  flags t tab ht := by
    rcases ht with ⟨hf, -⟩ | ⟨hf, -⟩ <;> simp [readFunctions, hf] at h
  registers t tab ht := by
    rcases ht with ⟨hf, -⟩ | ⟨hf, -⟩ <;> simp [readFunctions, hf] at h
  exchange hf := by simp [readFunctions, hf] at h

lemma FlagTable.unique {f : ℕ} {t t' : Table} {tab tab' : Mem UInt8} (h : FlagTable f mb t tab)
    (h' : FlagTable f mb t' tab') : t = t' := by
  rcases h with ⟨rfl, rfl, -⟩ | ⟨rfl, rfl, -⟩ <;> rcases h' with ⟨hf, rfl, -⟩ | ⟨hf, rfl, -⟩ <;>
    first | rfl | simp at hf

lemma RegisterTable.unique {f : ℕ} {t t' : Table} {tab tab' : Mem UInt16}
    (h : RegisterTable f mb t tab) (h' : RegisterTable f mb t' tab') : t = t' := by
  rcases h with ⟨rfl, rfl, -⟩ | ⟨rfl, rfl, -⟩ <;> rcases h' with ⟨hf, rfl, -⟩ | ⟨hf, rfl, -⟩ <;>
    first | rfl | simp at hf

def ReplyFits (b : Backend) (req : Mem UInt8) (r : Reply) : Prop :=
  ∀ rsp, r.rsp = some rsp → Fits b req rsp

lemma replyFits_some {mapping : Mapping} {accesses : List Access} {undefined : Bool} :
    ReplyFits b req ⟨mapping, accesses, some rsp, undefined⟩ ↔ Fits b req rsp := by
  simp [ReplyFits]

lemma fits_readIoStatus {t : Table} {tab : Mem UInt8}
    (ht : FlagTable (requestFunction b req) mb t tab) :
    ReplyFits b req (replyReadIoStatus b req (requestSft b req reqLength) (requestAddress b req) mb t
      tab) ↔ ReadsWithinLimits b req mb := by
  have hread : requestFunction b req ∈ readFunctions := by
    rcases ht with ⟨hf, -⟩ | ⟨hf, -⟩ <;> simp [readFunctions, hf]
  have hreg : ∀ t' tab', ¬RegisterTable (requestFunction b req) mb t' tab' := by
    rintro t' tab' (⟨hf, -⟩ | ⟨hf, -⟩) <;> rcases ht with ⟨hf', -⟩ | ⟨hf', -⟩ <;> simp [hf'] at hf
  have hex : requestFunction b req ≠ fcWriteAndReadRegisters := by
    rcases ht with ⟨hf', -⟩ | ⟨hf', -⟩ <;> simp [hf']
  have hlim : ReadsWithinLimits b req mb ↔ (requestAddress b req + requestNb b req ≤ mb.size t →
      requestNb b req ≤ responseMaxBits) := by
    refine ⟨fun h => h.flags t tab ht, fun h => ⟨fun t' tab' ht' => ?_, ?_, ?_⟩⟩
    · rwa [← ht.unique ht']
    · exact fun t' tab' ht' => absurd ht' (hreg t' tab')
    · exact fun hf => absurd hf hex
  rw [hlim]
  rcases Nat.lt_or_ge (mb.size t) (requestAddress b req + requestNb b req) with h | h
  · rw [replyReadIoStatus_illegal h, replyException, replyFits_some]
    exact ⟨fun _ hle => absurd hle (by omega), fun _ => fits_exception _⟩
  · have hdata := responseIoStatus_length (requestAddress b req) (requestNb b req) tab
    rw [replyReadIoStatus_legal h, replyFits_some, ← hdata, fits_counted, hdata,
      forall_prop_of_true h]
    simp only [maxPduLength, responseMaxBits]
    omega

lemma fits_readRegisters {t : Table} {tab : Mem UInt16}
    (ht : RegisterTable (requestFunction b req) mb t tab) :
    ReplyFits b req (replyReadRegisters b req (requestSft b req reqLength) (requestAddress b req) mb t
      tab) ↔ ReadsWithinLimits b req mb := by
  have hread : requestFunction b req ∈ readFunctions := by
    rcases ht with ⟨hf, -⟩ | ⟨hf, -⟩ <;> simp [readFunctions, hf]
  have hflag : ∀ t' tab', ¬FlagTable (requestFunction b req) mb t' tab' := by
    rintro t' tab' (⟨hf, -⟩ | ⟨hf, -⟩) <;> rcases ht with ⟨hf', -⟩ | ⟨hf', -⟩ <;> simp [hf'] at hf
  have hex : requestFunction b req ≠ fcWriteAndReadRegisters := by
    rcases ht with ⟨hf', -⟩ | ⟨hf', -⟩ <;> simp [hf']
  have hlim : ReadsWithinLimits b req mb ↔ (requestAddress b req + requestNb b req ≤ mb.size t →
      requestNb b req ≤ responseMaxRegisters) := by
    refine ⟨fun h => h.registers t tab ht, fun h => ⟨?_, fun t' tab' ht' => ?_, ?_⟩⟩
    · exact fun t' tab' ht' => absurd ht' (hflag t' tab')
    · rwa [← ht.unique ht']
    · exact fun hf => absurd hf hex
  rw [hlim]
  rcases Nat.lt_or_ge (mb.size t) (requestAddress b req + requestNb b req) with h | h
  · rw [replyReadRegisters_illegal h, replyException, replyFits_some]
    exact ⟨fun _ hle => absurd hle (by omega), fun _ => fits_exception _⟩
  · have hdata := wireRegisters_length tab (requestAddress b req) (requestNb b req)
    rw [replyReadRegisters_legal h, replyFits_some, ← hdata, fits_counted, hdata,
      forall_prop_of_true h]
    simp only [maxPduLength, responseMaxRegisters]
    omega

lemma fits_writeAndReadRegisters (hf : requestFunction b req = fcWriteAndReadRegisters) :
    ReplyFits b req (replyWriteAndReadRegisters b req (requestSft b req reqLength)
      (requestAddress b req) mb) ↔ ReadsWithinLimits b req mb := by
  have hread : requestFunction b req ∈ readFunctions := by simp [readFunctions, hf]
  have hlim : ReadsWithinLimits b req mb ↔ (requestAddress b req + requestNb b req ≤ mb.nbRegisters →
      requestAddressWrite b req + requestNbWrite b req ≤ mb.nbRegisters →
      requestNb b req ≤ responseMaxRegisters) := by
    refine ⟨fun h => h.exchange hf, fun h => ⟨?_, ?_, fun _ => h⟩⟩
    · rintro t tab (⟨hf', -⟩ | ⟨hf', -⟩) <;> simp [hf] at hf'
    · rintro t tab (⟨hf', -⟩ | ⟨hf', -⟩) <;> simp [hf] at hf'
  rw [hlim]
  by_cases h : mb.nbRegisters < requestAddress b req + requestNb b req ∨
      mb.nbRegisters < requestAddressWrite b req + requestNbWrite b req
  · rw [replyWriteAndReadRegisters_illegal h, replyException, replyFits_some]
    exact ⟨fun _ h₁ h₂ => absurd h (by omega), fun _ => fits_exception _⟩
  · rw [not_or, Nat.not_lt, Nat.not_lt] at h
    have hdata := wireRegisters_length (exchangedRegisters b req mb.tabRegisters)
      (requestAddress b req) (requestNb b req)
    rw [replyWriteAndReadRegisters_legal h.1 h.2, replyFits_some, ← hdata, fits_counted, hdata,
      forall_prop_of_true h.1, forall_prop_of_true h.2]
    simp only [maxPduLength, responseMaxRegisters]
    omega

lemma fits_other {r : Reply} (hf : requestFunction b req ∉ readFunctions)
    (hr : ∀ rsp, r.rsp = some rsp → rsp.length ≤ b.headerLength + maxPduLength) :
    ReplyFits b req r ↔ ReadsWithinLimits b req mb :=
  ⟨fun _ => withinLimits_other hf, fun _ rsp h => fits_short (hr rsp h) fun h => absurd h hf⟩

lemma exception_short (sft : Sft) (code : ℕ) :
    (responseException b sft code).length ≤ b.headerLength + maxPduLength := by
  rw [responseException, List.length_append, buildResponseBasis_length]
  simp [maxPduLength]

lemma echo_short (sft : Sft) :
    (buildResponseBasis b sft ++ req.slice (b.headerLength + 1) 4).length ≤
      b.headerLength + maxPduLength := by
  rw [List.length_append, buildResponseBasis_length, Mem.slice_length, maxPduLength]
  omega

lemma frameLength_single (hf : requestFunction b req ≤ fcWriteSingleRegister) :
    frameLength b .indication req = b.headerLength + 5 + b.checksumLength := by
  have h : HoldsPdu b req [req b.headerLength, req (b.headerLength + 1), req (b.headerLength + 2),
      req (b.headerLength + 3), req (b.headerLength + 4)] := by
    intro j hj
    simp only [List.length_cons, List.length_nil] at hj
    interval_cases j <;> rfl
  exact selfSized_single hf b req h

lemma replyBuild_fits (hlen : reqLength = frameLength b .indication req) :
    ReplyFits b req (replyBuild b req reqLength mb) ↔ ReadsWithinLimits b req mb := by
  have hecho (hf : requestFunction b req ≤ fcWriteSingleRegister) :
      (req.slice 0 (prepareResponseTid b req reqLength).2.toNat).length ≤
        b.headerLength + maxPduLength := by
    rw [Mem.slice_length, prepareResponseTid_toNat, hlen, frameLength_single hf, Nat.add_sub_cancel,
      maxPduLength]
    omega
  refine replyBuild_rule (P := fun r => ReplyFits b req r ↔ ReadsWithinLimits b req mb)
    (fun t tab => fits_readIoStatus) (fun t tab => fits_readRegisters) (fun hf => ?_) (fun hf => ?_)
    (fun hf => ?_) (fun hf => ?_) (fun hf => ?_) (fun hf => ?_) fits_writeAndReadRegisters fun hf => ?_
  · refine fits_other (by simp [readFunctions, hf]) fun rsp h => ?_
    rcases Nat.lt_or_ge (requestAddress b req) mb.nbBits with ha | ha
    · by_cases hd : requestNb b req = 0xFF00 ∨ requestNb b req = 0
      · rw [replyWriteSingleCoil_legal ha hd] at h
        rw [← Option.some.inj h]
        exact hecho (by simp [hf])
      · rw [replyWriteSingleCoil_value ha hd] at h
        rw [← Option.some.inj h]
        exact exception_short _ _
    · rw [replyWriteSingleCoil_illegal ha] at h
      rw [← Option.some.inj h]
      exact exception_short _ _
  · refine fits_other (by simp [readFunctions, hf]) fun rsp h => ?_
    rcases Nat.lt_or_ge (requestAddress b req) mb.nbRegisters with ha | ha
    · rw [replyWriteSingleRegister_legal ha] at h
      rw [← Option.some.inj h]
      exact hecho (by simp [hf])
    · rw [replyWriteSingleRegister_illegal ha] at h
      rw [← Option.some.inj h]
      exact exception_short _ _
  · refine fits_other (by simp [readFunctions, hf]) fun rsp h => ?_
    rcases Nat.lt_or_ge mb.nbBits (requestAddress b req + requestNb b req) with ha | ha
    · rw [replyWriteMultipleCoils_illegal ha] at h
      rw [← Option.some.inj h]
      exact exception_short _ _
    · rw [replyWriteMultipleCoils_legal ha] at h
      rw [← Option.some.inj h]
      exact echo_short _
  · refine fits_other (by simp [readFunctions, hf]) fun rsp h => ?_
    rcases Nat.lt_or_ge mb.nbRegisters (requestAddress b req + requestNb b req) with ha | ha
    · rw [replyWriteMultipleRegisters_illegal ha] at h
      rw [← Option.some.inj h]
      exact exception_short _ _
    · rw [replyWriteMultipleRegisters_legal ha] at h
      rw [← Option.some.inj h]
      exact echo_short _
  · refine fits_other (by simp [readFunctions, hf]) fun rsp h => ?_
    rw [← Option.some.inj h, List.length_append, buildResponseBasis_length]
    simp [reportSlaveIdText, maxPduLength]
  · exact fits_other (by simp [readFunctions, hf]) fun rsp h => absurd h (by simp)
  · refine fits_other (fun hr => hf ?_) fun rsp h => ?_
    · simp only [readFunctions, List.mem_cons, List.not_mem_nil, or_false] at hr
      rcases hr with hr | hr | hr | hr | hr <;> simp [Supported, hr]
    · rw [← Option.some.inj h]
      exact exception_short _ _

end Fits

section Requests

variable {buf req : Mem UInt8} {w w' : World} {rc : ℤ}

/-- The response to a request that `_modbus_receive_msg` accepted fits if and only if a read that the
range check lets pass asks for at most 2008 flags or 125 registers. -/
theorem modbusReply_fits_iff (hr : receiveMsg .indication buf w = .done (rc, req) w') (hrc : 0 < rc)
    (mb : Mapping) : ReplyFits w'.ctx.backend req (replyBuild w'.ctx.backend req rc.toNat mb) ↔
      ReadsWithinLimits w'.ctx.backend req mb := by
  obtain ⟨hlen, -, hctx⟩ := receiveMsg_accepted hr hrc
  rw [hctx]
  exact replyBuild_fits hlen

def readRegistersRequest (nb : UInt8) : List UInt8 := [0, 1, 0, 0, 0, 6, 0xFF, 3, 0, 0, 0, nb]

def fullTables : Mapping :=
  ⟨65536, 65536, 65536, 65536, fun _ => 0, fun _ => 0, fun _ => 0, fun _ => 0⟩

def receivedFrom (frame : List UInt8) : World :=
  .start modbusNewTcp frame (List.replicate (2 * frame.length) {})

lemma receivedFrom_frame {frame : List UInt8} (hframe : IsFrame .tcp .indication frame)
    (buf : Mem UInt8) : ∃ w, receiveMsg .indication buf (receivedFrom frame) =
      .done ((frame.length : ℤ), buf.write 0 frame) w ∧ w.ctx = modbusNewTcp := by
  obtain ⟨w, hr, -, hctx, -⟩ := receiveMsg_frame (w := receivedFrom frame) (n := 0) hframe
    (List.append_nil frame).symm (fun _ _ => rfl) buf (flows_replicate _)
  exact ⟨w, hr, hctx⟩

lemma isFrame_readRegistersRequest (nb : UInt8) :
    IsFrame .tcp .indication (readRegistersRequest nb) where
  length {m} hm := by
    have hf : requestFunction .tcp m = fcReadHoldingRegisters :=
      congrArg UInt8.toNat (hm 7 (by simp [readRegistersRequest]))
    rw [frameLength_single (by simp [hf])]
    rfl
  allowed := by simp [readRegistersRequest]

/-- 126 registers are one too many. -/
theorem modbusReply_overruns : ∃ (req : Mem UInt8) (w' : World),
    receiveMsg .indication (fun _ => 0) (receivedFrom (readRegistersRequest 126)) =
      .done (12, req) w' ∧
    ¬ReplyFits w'.ctx.backend req (replyBuild w'.ctx.backend req 12 fullTables) := by
  obtain ⟨w, hr, hctx⟩ := receivedFrom_frame (isFrame_readRegistersRequest 126) fun _ => 0
  refine ⟨_, w, hr, fun h => ?_⟩
  rw [hctx] at h
  have hlim := (replyBuild_fits (isFrame_readRegistersRequest 126).length_write).mp h
  have hnb := hlim.registers .registers _ (.inl ⟨rfl, rfl, rfl⟩) (by decide)
  revert hnb
  decide

theorem modbusReply_fits_iff_example : ∃ (req : Mem UInt8) (w' : World),
    receiveMsg .indication (fun _ => 0) (receivedFrom (readRegistersRequest 125)) =
      .done (12, req) w' ∧
    (ReplyFits w'.ctx.backend req (replyBuild w'.ctx.backend req 12 fullTables) ↔
      ReadsWithinLimits w'.ctx.backend req fullTables) := by
  obtain ⟨w, hr, -⟩ := receivedFrom_frame (isFrame_readRegistersRequest 125) fun _ => 0
  exact ⟨_, w, hr, modbusReply_fits_iff hr (by decide) fullTables⟩

end Requests

end LibModbus
