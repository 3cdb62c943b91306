import LibModbus.Server.Loops

/-! The fields of a request as `modbus_reply` reads them, and the case analysis on its function. -/

namespace LibModbus

open Library Library.Prog

section Fields

variable (b : Backend) (req : Mem UInt8)

def requestFunction : ℕ := (req b.headerLength).toNat

def requestAddress : ℕ := word (req (b.headerLength + 1)) (req (b.headerLength + 2))

def requestNb : ℕ := word (req (b.headerLength + 3)) (req (b.headerLength + 4))

def requestAddressWrite : ℕ := word (req (b.headerLength + 5)) (req (b.headerLength + 6))

def requestNbWrite : ℕ := word (req (b.headerLength + 7)) (req (b.headerLength + 8))

def requestSft (reqLength : ℤ) : Sft :=
  ⟨(req (b.headerLength - 1)).toNat, requestFunction b req, (prepareResponseTid b req reqLength).1⟩

end Fields

def FlagTable (function : ℕ) (mb : Mapping) (t : Table) (tab : Mem UInt8) : Prop :=
  function = fcReadCoils ∧ t = .bits ∧ tab = mb.tabBits ∨
    function = fcReadDiscreteInputs ∧ t = .inputBits ∧ tab = mb.tabInputBits

def RegisterTable (function : ℕ) (mb : Mapping) (t : Table) (tab : Mem UInt16) : Prop :=
  function = fcReadHoldingRegisters ∧ t = .registers ∧ tab = mb.tabRegisters ∨
    function = fcReadInputRegisters ∧ t = .inputRegisters ∧ tab = mb.tabInputRegisters

def Supported (function : ℕ) : Prop :=
  function ∈ [fcReadCoils, fcReadDiscreteInputs, fcReadHoldingRegisters, fcReadInputRegisters,
    fcWriteSingleCoil, fcWriteSingleRegister, fcReadExceptionStatus, fcWriteMultipleCoils,
    fcWriteMultipleRegisters, fcReportSlaveId, fcWriteAndReadRegisters]

instance (function : ℕ) : Decidable (Supported function) := by
  unfold Supported
  infer_instance

section Basis

variable (b : Backend) (sft : Sft)

lemma buildResponseBasis_length : (buildResponseBasis b sft).length = b.headerLength + 1 := by
  cases b <;> rfl

lemma buildResponseBasis_function (rest : List UInt8) :
    (buildResponseBasis b sft ++ rest).getD b.headerLength 0 = UInt8.ofNat sft.function := by
  cases b <;> rfl

lemma buildResponseBasis_next (x : UInt8) (rest : List UInt8) :
    (buildResponseBasis b sft ++ x :: rest).getD (b.headerLength + 1) 0 = x := by
  cases b <;> rfl

lemma prepareResponseTid_length (req : Mem UInt8) (n : ℤ) :
    (prepareResponseTid b req n).2 = n - b.checksumLength := by
  cases b with
  | rtu => rfl
  | tcp | tcpPi => exact (sub_zero n).symm

lemma prepareResponseTid_toNat (req : Mem UInt8) (n : ℕ) :
    (prepareResponseTid b req n).2.toNat = n - b.checksumLength := by
  rw [prepareResponseTid_length]
  exact Int.toNat_sub n _

end Basis

section Branches

variable {b : Backend} {req : Mem UInt8} {sft : Sft} {address : ℕ} {mb : Mapping}

lemma replyReadIoStatus_illegal {t : Table} {tab : Mem UInt8}
    (h : mb.size t < address + requestNb b req) : replyReadIoStatus b req sft address mb t tab =
      replyException b sft mb modbusExceptionIllegalDataAddress :=
  if_pos h

lemma byteCount_eq (nb : ℕ) : (nb / 8 + if nb % 8 ≠ 0 then 1 else 0) = (nb + 7) / 8 := by
  split_ifs <;> omega

lemma replyReadIoStatus_legal {t : Table} {tab : Mem UInt8}
    (h : address + requestNb b req ≤ mb.size t) : replyReadIoStatus b req sft address mb t tab =
      ⟨mb, loads t (List.range' address (requestNb b req)), some (buildResponseBasis b sft ++
        UInt8.ofNat ((requestNb b req + 7) / 8) ::
          (responseIoStatus address (requestNb b req) tab).1), false⟩ := by
  rw [← responseIoStatus_reads address (requestNb b req) tab, ← byteCount_eq]
  exact if_neg (Nat.not_lt.mpr h)

lemma replyReadRegisters_illegal {t : Table} {tab : Mem UInt16}
    (h : mb.size t < address + requestNb b req) : replyReadRegisters b req sft address mb t tab =
      replyException b sft mb modbusExceptionIllegalDataAddress :=
  if_pos h

def wireRegisters (tab : Mem UInt16) (address nb : ℕ) : List UInt8 :=
  (List.range' address nb).flatMap fun k => registerBytes (tab k)

lemma wireRegisters_length (tab : Mem UInt16) (address nb : ℕ) :
    (wireRegisters tab address nb).length = 2 * nb := by
  have h := loadRegisters_length tab nb address
  rwa [loadRegisters_eq] at h

lemma replyReadRegisters_legal {t : Table} {tab : Mem UInt16}
    (h : address + requestNb b req ≤ mb.size t) : replyReadRegisters b req sft address mb t tab =
      ⟨mb, loads t (List.range' address (requestNb b req)), some (buildResponseBasis b sft ++
        UInt8.ofNat (2 * requestNb b req) :: wireRegisters tab address (requestNb b req)), false⟩ := by
  have hs : requestNb b req <<< 1 = 2 * requestNb b req := by
    rw [Nat.shiftLeft_eq]
    omega
  rw [← hs]
  apply (if_neg (Nat.not_lt.mpr h)).trans
  rw [loadRegisters_eq]
  rfl

lemma replyWriteSingleCoil_illegal {n : ℤ} (h : mb.nbBits ≤ address) :
    replyWriteSingleCoil b req sft address mb n =
      replyException b sft mb modbusExceptionIllegalDataAddress :=
  if_pos h

lemma replyWriteSingleCoil_value {n : ℤ} (h : address < mb.nbBits)
    (hd : ¬(requestNb b req = 0xFF00 ∨ requestNb b req = 0)) :
    replyWriteSingleCoil b req sft address mb n =
      replyException b sft mb modbusExceptionIllegalDataValue :=
  (if_neg (Nat.not_le.mpr h)).trans (if_neg hd)

lemma replyWriteSingleCoil_legal {n : ℤ} (h : address < mb.nbBits)
    (hd : requestNb b req = 0xFF00 ∨ requestNb b req = 0) :
    replyWriteSingleCoil b req sft address mb n =
      ⟨{ mb with tabBits := mb.tabBits.store address (decide (requestNb b req ≠ 0)).toUInt8 },
        [.store .bits address (decide (requestNb b req ≠ 0)).toUInt8.toNat],
        some (req.slice 0 n.toNat), decide (n < 0)⟩ := by
  have hv : (decide (requestNb b req ≠ 0)).toUInt8 = if requestNb b req ≠ 0 then 1 else 0 := by
    simp [Bool.toUInt8]
  rw [hv]
  exact (if_neg (Nat.not_le.mpr h)).trans (if_pos hd)

lemma replyWriteSingleRegister_illegal {n : ℤ} (h : mb.nbRegisters ≤ address) :
    replyWriteSingleRegister b req sft address mb n =
      replyException b sft mb modbusExceptionIllegalDataAddress :=
  if_pos h

lemma replyWriteSingleRegister_legal {n : ℤ} (h : address < mb.nbRegisters) :
    replyWriteSingleRegister b req sft address mb n =
      ⟨{ mb with tabRegisters := mb.tabRegisters.store address (wordAt req (b.headerLength + 3)) },
        [.store .registers address (wordAt req (b.headerLength + 3)).toNat],
        some (req.slice 0 n.toNat), decide (n < 0)⟩ :=
  if_neg (Nat.not_le.mpr h)

lemma replyWriteMultipleCoils_illegal (h : mb.nbBits < address + requestNb b req) :
    replyWriteMultipleCoils b req sft address mb =
      replyException b sft mb modbusExceptionIllegalDataAddress :=
  if_pos h

def flagData (b : Backend) (req : Mem UInt8) (k : ℕ) : UInt8 := req (b.headerLength + 6 + k)

def writtenCoils (b : Backend) (req : Mem UInt8) (address : ℕ) (tab : Mem UInt8) : Mem UInt8 :=
  fun j => if address ≤ j ∧ j < address + requestNb b req then
    (bitAt (flagData b req) (j - address)).toUInt8 else tab j

lemma replyWriteMultipleCoils_legal (h : address + requestNb b req ≤ mb.nbBits) :
    replyWriteMultipleCoils b req sft address mb =
      ⟨{ mb with tabBits := writtenCoils b req address mb.tabBits },
        bitStores ((List.range' address (requestNb b req)).map fun j =>
          (j, (bitAt (flagData b req) (j - address)).toUInt8)),
        some (buildResponseBasis b sft ++ req.slice (b.headerLength + 1) 4), false⟩ := by
  have h₁ : (modbusSetBitsFromBytes mb.tabBits address (requestNb b req) (flagData b req)).1 =
      writtenCoils b req address mb.tabBits :=
    funext fun j => modbusSetBitsFromBytes_apply _ _ _ _ j
  rw [← h₁, ← modbusSetBitsFromBytes_stores]
  exact if_neg (Nat.not_lt.mpr h)

lemma replyWriteMultipleRegisters_illegal (h : mb.nbRegisters < address + requestNb b req) :
    replyWriteMultipleRegisters b req sft address mb =
      replyException b sft mb modbusExceptionIllegalDataAddress :=
  if_pos h

def writtenRegisters (req : Mem UInt8) (address nb first : ℕ) (tab : Mem UInt16) : Mem UInt16 :=
  fun j => if address ≤ j ∧ j < address + nb then wordAt req (first + 2 * (j - address)) else tab j

lemma storeRegisters_written (req : Mem UInt8) (nb address first : ℕ) (tab : Mem UInt16) :
    storeRegisters req nb address first tab = (writtenRegisters req address nb first tab,
      (List.range' address nb).map fun j => (j, wordAt req (first + 2 * (j - address)))) :=
  Prod.ext (funext (storeRegisters_eq req nb address first tab).1)
    (storeRegisters_eq req nb address first tab).2

lemma replyWriteMultipleRegisters_legal (h : address + requestNb b req ≤ mb.nbRegisters) :
    replyWriteMultipleRegisters b req sft address mb =
      ⟨{ mb with tabRegisters :=
          writtenRegisters req address (requestNb b req) (b.headerLength + 6) mb.tabRegisters },
        registerStores ((List.range' address (requestNb b req)).map fun j =>
          (j, wordAt req (b.headerLength + 6 + 2 * (j - address)))),
        some (buildResponseBasis b sft ++ req.slice (b.headerLength + 1) 4), false⟩ := by
  apply (if_neg (Nat.not_lt.mpr h)).trans
  rw [storeRegisters_written]
  rfl

lemma replyWriteAndReadRegisters_illegal (h : mb.nbRegisters < address + requestNb b req ∨
    mb.nbRegisters < requestAddressWrite b req + requestNbWrite b req) :
    replyWriteAndReadRegisters b req sft address mb =
      replyException b sft mb modbusExceptionIllegalDataAddress :=
  if_pos h

def exchangedRegisters (b : Backend) (req : Mem UInt8) (tab : Mem UInt16) : Mem UInt16 :=
  writtenRegisters req (requestAddressWrite b req) (requestNbWrite b req) (b.headerLength + 10) tab

lemma replyWriteAndReadRegisters_legal (h : address + requestNb b req ≤ mb.nbRegisters)
    (hw : requestAddressWrite b req + requestNbWrite b req ≤ mb.nbRegisters) :
    replyWriteAndReadRegisters b req sft address mb =
      ⟨{ mb with tabRegisters := exchangedRegisters b req mb.tabRegisters },
        registerStores ((List.range' (requestAddressWrite b req) (requestNbWrite b req)).map fun j =>
          (j, wordAt req (b.headerLength + 10 + 2 * (j - requestAddressWrite b req)))) ++
          loads .registers (List.range' address (requestNb b req)),
        some (buildResponseBasis b sft ++ UInt8.ofNat (2 * requestNb b req) ::
          wireRegisters (exchangedRegisters b req mb.tabRegisters) address (requestNb b req)), false⟩ := by
  have hs : requestNb b req <<< 1 = 2 * requestNb b req := by
    rw [Nat.shiftLeft_eq]
    omega
  rw [← hs]
  refine (if_neg (not_or.mpr ⟨Nat.not_lt.mpr h, Nat.not_lt.mpr hw⟩)).trans ?_
  rw [storeRegisters_written, loadRegisters_eq]
  rfl

end Branches

section Cases

variable {b : Backend} {req : Mem UInt8} {reqLength : ℤ} {mb : Mapping}

lemma replyBuild_rule {P : Reply → Prop}
    (readIoStatus : ∀ t tab, FlagTable (requestFunction b req) mb t tab →
      P (replyReadIoStatus b req (requestSft b req reqLength) (requestAddress b req) mb t tab))
    (readRegisters : ∀ t tab, RegisterTable (requestFunction b req) mb t tab →
      P (replyReadRegisters b req (requestSft b req reqLength) (requestAddress b req) mb t tab))
    (writeSingleCoil : requestFunction b req = fcWriteSingleCoil →
      P (replyWriteSingleCoil b req (requestSft b req reqLength) (requestAddress b req) mb
        (prepareResponseTid b req reqLength).2))
    (writeSingleRegister : requestFunction b req = fcWriteSingleRegister →
      P (replyWriteSingleRegister b req (requestSft b req reqLength) (requestAddress b req) mb
        (prepareResponseTid b req reqLength).2))
    (writeMultipleCoils : requestFunction b req = fcWriteMultipleCoils →
      P (replyWriteMultipleCoils b req (requestSft b req reqLength) (requestAddress b req) mb))
    (writeMultipleRegisters : requestFunction b req = fcWriteMultipleRegisters →
      P (replyWriteMultipleRegisters b req (requestSft b req reqLength) (requestAddress b req) mb))
    (reportSlaveId : requestFunction b req = fcReportSlaveId →
      P (replyReportSlaveId b (requestSft b req reqLength) mb))
    (readExceptionStatus : requestFunction b req = fcReadExceptionStatus → P ⟨mb, [], none, false⟩)
    (writeAndReadRegisters : requestFunction b req = fcWriteAndReadRegisters →
      P (replyWriteAndReadRegisters b req (requestSft b req reqLength) (requestAddress b req) mb))
    (unsupported : ¬Supported (requestFunction b req) →
      P (replyException b (requestSft b req reqLength) mb modbusExceptionIllegalFunction)) :
    P (replyBuild b req reqLength mb) := by
  unfold replyBuild
  simp only
  split
  case h_1 h => exact readIoStatus _ _ (.inl ⟨h, rfl, rfl⟩)
  case h_2 h => exact readIoStatus _ _ (.inr ⟨h, rfl, rfl⟩)
  case h_3 h => exact readRegisters _ _ (.inl ⟨h, rfl, rfl⟩)
  case h_4 h => exact readRegisters _ _ (.inr ⟨h, rfl, rfl⟩)
  case h_5 h => exact writeSingleCoil h
  case h_6 h => exact writeSingleRegister h
  case h_7 h => exact writeMultipleCoils h
  case h_8 h => exact writeMultipleRegisters h
  case h_9 h => exact reportSlaveId h
  case h_10 h => exact readExceptionStatus h
  case h_11 h => exact writeAndReadRegisters h
  case h_12 =>
    refine unsupported fun hs => ?_
    simp only [Supported, requestFunction, List.mem_cons, List.not_mem_nil, or_false] at hs
    rcases hs with hs | hs | hs | hs | hs | hs | hs | hs | hs | hs | hs <;> contradiction

lemma replyBuild_some (hf : requestFunction b req ≠ fcReadExceptionStatus) :
    ∃ rsp, (replyBuild b req reqLength mb).rsp = some rsp := by
  refine replyBuild_rule (P := fun r => ∃ rsp, r.rsp = some rsp) (fun t tab _ => ?_)
    (fun t tab _ => ?_) (fun _ => ?_) (fun _ => ?_) (fun _ => ?_) (fun _ => ?_) (fun _ => ⟨_, rfl⟩)
    (fun h => absurd h hf) (fun _ => ?_) fun _ => ⟨_, rfl⟩
  all_goals
    simp only [replyReadIoStatus, replyReadRegisters, replyWriteSingleCoil, replyWriteSingleRegister,
      replyWriteMultipleCoils, replyWriteMultipleRegisters, replyWriteAndReadRegisters]
    split_ifs <;> exact ⟨_, rfl⟩

lemma replyBuild_readIoStatus {t : Table} {tab : Mem UInt8}
    (ht : FlagTable (requestFunction b req) mb t tab) : replyBuild b req reqLength mb =
      replyReadIoStatus b req (requestSft b req reqLength) (requestAddress b req) mb t tab := by
  rcases ht with ⟨hf, rfl, rfl⟩ | ⟨hf, rfl, rfl⟩ <;>
  · unfold requestFunction at hf
    simp only [replyBuild, requestSft, requestFunction, requestAddress, hf]

lemma replyBuild_readRegisters {t : Table} {tab : Mem UInt16}
    (ht : RegisterTable (requestFunction b req) mb t tab) : replyBuild b req reqLength mb =
      replyReadRegisters b req (requestSft b req reqLength) (requestAddress b req) mb t tab := by
  rcases ht with ⟨hf, rfl, rfl⟩ | ⟨hf, rfl, rfl⟩ <;>
  · unfold requestFunction at hf
    simp only [replyBuild, requestSft, requestFunction, requestAddress, hf]

lemma replyBuild_writeSingleCoil (hf : requestFunction b req = fcWriteSingleCoil) :
    replyBuild b req reqLength mb =
      replyWriteSingleCoil b req (requestSft b req reqLength) (requestAddress b req) mb
        (prepareResponseTid b req reqLength).2 := by
  unfold requestFunction at hf
  simp only [replyBuild, requestSft, requestFunction, requestAddress, hf]

lemma replyBuild_writeSingleRegister (hf : requestFunction b req = fcWriteSingleRegister) :
    replyBuild b req reqLength mb =
      replyWriteSingleRegister b req (requestSft b req reqLength) (requestAddress b req) mb
        (prepareResponseTid b req reqLength).2 := by
  unfold requestFunction at hf
  simp only [replyBuild, requestSft, requestFunction, requestAddress, hf]

lemma replyBuild_writeMultipleCoils (hf : requestFunction b req = fcWriteMultipleCoils) :
    replyBuild b req reqLength mb =
      replyWriteMultipleCoils b req (requestSft b req reqLength) (requestAddress b req) mb := by
  unfold requestFunction at hf
  simp only [replyBuild, requestSft, requestFunction, requestAddress, hf]

lemma replyBuild_writeMultipleRegisters (hf : requestFunction b req = fcWriteMultipleRegisters) :
    replyBuild b req reqLength mb =
      replyWriteMultipleRegisters b req (requestSft b req reqLength) (requestAddress b req) mb := by
  unfold requestFunction at hf
  simp only [replyBuild, requestSft, requestFunction, requestAddress, hf]

lemma replyBuild_reportSlaveId (hf : requestFunction b req = fcReportSlaveId) :
    replyBuild b req reqLength mb =
      replyReportSlaveId b (requestSft b req reqLength) mb := by
  unfold requestFunction at hf
  simp only [replyBuild, requestSft, requestFunction, hf]

lemma replyBuild_readExceptionStatus (hf : requestFunction b req = fcReadExceptionStatus) :
    replyBuild b req reqLength mb =
      ⟨mb, [], none, false⟩ := by
  unfold requestFunction at hf
  simp only [replyBuild, hf]

lemma replyBuild_writeAndReadRegisters (hf : requestFunction b req = fcWriteAndReadRegisters) :
    replyBuild b req reqLength mb =
      replyWriteAndReadRegisters b req (requestSft b req reqLength) (requestAddress b req) mb := by
  unfold requestFunction at hf
  simp only [replyBuild, requestSft, requestFunction, requestAddress, hf]

lemma replyBuild_unsupported (hf : ¬Supported (requestFunction b req)) : replyBuild b req reqLength mb =
    replyException b (requestSft b req reqLength) mb modbusExceptionIllegalFunction := by
  simp only [Supported, List.mem_cons, List.not_mem_nil, or_false, not_or] at hf
  refine replyBuild_rule (P := (· = replyException b (requestSft b req reqLength) mb
    modbusExceptionIllegalFunction)) ?_ ?_ ?_ ?_ ?_ ?_ ?_ ?_ ?_ fun _ => rfl
  · rintro t tab (⟨h, -⟩ | ⟨h, -⟩) <;> simp [h] at hf
  · rintro t tab (⟨h, -⟩ | ⟨h, -⟩) <;> simp [h] at hf
  all_goals
    intro h
    simp [h] at hf

lemma replyBuild_defined (h : b.checksumLength ≤ reqLength) :
    (replyBuild b req reqLength mb).undefined = false := by
  have hcopy : decide ((prepareResponseTid b req reqLength).2 < 0) = false := by
    rw [prepareResponseTid_length]
    exact decide_eq_false (by omega)
  refine replyBuild_rule (P := fun r => r.undefined = false) (fun t tab _ => ?_) (fun t tab _ => ?_)
    (fun _ => ?_) (fun _ => ?_) (fun _ => ?_) (fun _ => ?_) (fun _ => rfl) (fun _ => rfl) (fun _ => ?_)
    fun _ => rfl
  all_goals
    simp only [replyReadIoStatus, replyReadRegisters, replyWriteSingleCoil, replyWriteSingleRegister,
      replyWriteMultipleCoils, replyWriteMultipleRegisters, replyWriteAndReadRegisters]
    split_ifs <;> first | rfl | exact hcopy

lemma replyBuild_undefined (h : (replyBuild b req reqLength mb).undefined = true) :
    (replyBuild b req reqLength mb).rsp = some [] := by
  have hcopy (n : ℤ) (hn : decide (n < 0) = true) : some (req.slice 0 n.toNat) = some [] := by
    rw [Int.toNat_of_nonpos (Int.le_of_lt (of_decide_eq_true hn))]
    rfl
  revert h
  refine replyBuild_rule (P := fun r => r.undefined = true → r.rsp = some []) (fun t tab _ => ?_)
    (fun t tab _ => ?_) (fun _ => ?_) (fun _ => ?_) (fun _ => ?_) (fun _ => ?_) (fun _ => nofun)
    (fun _ => nofun) (fun _ => ?_) fun _ => nofun
  all_goals
    simp only [replyReadIoStatus, replyReadRegisters, replyWriteSingleCoil, replyWriteSingleRegister,
      replyWriteMultipleCoils, replyWriteMultipleRegisters, replyWriteAndReadRegisters]
    intro h
    split_ifs at h ⊢ <;> first | exact hcopy _ h | cases h

lemma modbusReply_defined {w : World}
    (h : (replyBuild w.ctx.backend req reqLength mb).undefined = false) :
    modbusReply req reqLength mb w = (match (replyBuild w.ctx.backend req reqLength mb).rsp with
      | none => do
        setErrno .enoprotoopt
        return (-1, replyBuild w.ctx.backend req reqLength mb)
      | some rsp => do
        let (rc, _) ← sendMsg rsp
        return (rc, replyBuild w.ctx.backend req reqLength mb) : M (ℤ × Reply)) w := by
  rw [modbusReply, bind_getCtx]
  dsimp only
  exact congrFun (if_neg (by simp [h])) w

lemma modbusReply_done {w w' : World} {rc : ℤ} {r : Reply}
    (h : modbusReply req reqLength mb w = .done (rc, r) w') :
    r = replyBuild w.ctx.backend req reqLength mb ∧ r.undefined = false ∧ (r.rsp = none → rc = -1) := by
  have hdefined : (replyBuild w.ctx.backend req reqLength mb).undefined = false := by
    by_contra hu
    rw [modbusReply, bind_getCtx] at h
    dsimp only at h
    rw [if_pos (by simpa using hu)] at h
    cases h
  rw [modbusReply_defined hdefined] at h
  cases hr : (replyBuild w.ctx.backend req reqLength mb).rsp with
  | none =>
    simp only [hr, bind_setErrno, pure_apply, Outcome.done.injEq, Prod.mk.injEq] at h
    obtain ⟨⟨rfl, rfl⟩, -⟩ := h
    exact ⟨rfl, hdefined, fun _ => rfl⟩
  | some rsp =>
    simp only [hr, bind_eq_done, pure_apply, Outcome.done.injEq, Prod.mk.injEq] at h
    obtain ⟨_, _, _, ⟨-, rfl⟩, -⟩ := h
    exact ⟨rfl, hdefined, fun hn => absurd (hr.symm.trans hn) (by simp)⟩

end Cases

end LibModbus
