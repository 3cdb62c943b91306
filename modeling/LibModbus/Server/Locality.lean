import LibModbus.Server.Bounds

/-! Which bytes of its buffer `modbus_reply` looks at. -/

namespace LibModbus

open Library Library.Prog

def Agree (n : ℕ) (req req' : Mem UInt8) : Prop := ∀ j < n, req' j = req j

def SameReply (r r' : Reply) : Prop := r'.mapping = r.mapping ∧ r'.rsp = r.rsp

section Fields

variable {b : Backend} {n : ℕ} {req req' : Mem UInt8}

lemma Agree.function (h : Agree n req req') (hn : b.headerLength < n) :
    requestFunction b req' = requestFunction b req := by
  rw [requestFunction, requestFunction, h _ hn]

lemma Agree.sft (h : Agree n req req') (hn : b.headerLength < n) (reqLength : ℕ) :
    requestSft b req' reqLength = requestSft b req reqLength := by
  unfold requestSft
  rw [h.function hn, h (b.headerLength - 1) (by omega)]
  cases b with
  | rtu => rfl
  | tcp | tcpPi =>
    simp only [Backend.headerLength] at hn
    simp only [prepareResponseTid]
    rw [h 0 (by omega), h 1 (by omega)]

lemma Agree.address (h : Agree n req req') (hn : b.headerLength + 2 < n) :
    requestAddress b req' = requestAddress b req := by
  rw [requestAddress, requestAddress, h _ (by omega), h _ hn]

lemma Agree.nb (h : Agree n req req') (hn : b.headerLength + 4 < n) :
    requestNb b req' = requestNb b req := by
  rw [requestNb, requestNb, h _ (by omega), h _ hn]

lemma Agree.addressWrite (h : Agree n req req') (hn : b.headerLength + 6 < n) :
    requestAddressWrite b req' = requestAddressWrite b req := by
  rw [requestAddressWrite, requestAddressWrite, h _ (by omega), h _ hn]

lemma Agree.nbWrite (h : Agree n req req') (hn : b.headerLength + 8 < n) :
    requestNbWrite b req' = requestNbWrite b req := by
  rw [requestNbWrite, requestNbWrite, h _ (by omega), h _ hn]

lemma Agree.slice (h : Agree n req req') {i k : ℕ} (hk : i + k ≤ n) : req'.slice i k = req.slice i k :=
  Mem.slice_congr fun j _ hj => h j (by omega)

lemma Agree.wordAt (h : Agree n req req') {j : ℕ} (hj : j + 1 < n) : wordAt req' j = wordAt req j := by
  rw [Library.wordAt, Library.wordAt, h j (by omega), h _ hj]

end Fields

section Stores

variable (b : Backend) (req : Mem UInt8)

def requestByteCount : ℕ := (req (b.headerLength + 5)).toNat

def requestByteCountWrite : ℕ := (req (b.headerLength + 9)).toNat

/-- A write that the range check lets pass finds all its values among the bytes received. -/
structure StoresWithinData (mb : Mapping) : Prop where
  coils : requestFunction b req = fcWriteMultipleCoils →
    requestAddress b req + requestNb b req ≤ mb.nbBits →
    (requestNb b req + 7) / 8 ≤ requestByteCount b req + b.checksumLength
  registers : requestFunction b req = fcWriteMultipleRegisters →
    requestAddress b req + requestNb b req ≤ mb.nbRegisters →
    2 * requestNb b req ≤ requestByteCount b req + b.checksumLength
  exchange : requestFunction b req = fcWriteAndReadRegisters →
    requestAddress b req + requestNb b req ≤ mb.nbRegisters →
    requestAddressWrite b req + requestNbWrite b req ≤ mb.nbRegisters →
    2 * requestNbWrite b req ≤ requestByteCountWrite b req + b.checksumLength

variable {b req} {req' : Mem UInt8} {mb : Mapping}

lemma frameLength_multiple (hf : requestFunction b req = fcWriteMultipleCoils ∨
    requestFunction b req = fcWriteMultipleRegisters) : frameLength b .indication req =
      b.headerLength + 6 + requestByteCount b req + b.checksumLength := by
  unfold requestFunction at hf
  have h₁ : ¬(req b.headerLength).toNat ≤ fcWriteSingleRegister := by
    rcases hf with hf | hf <;> rw [hf] <;> decide
  simp only [frameLength, headLength, computeMetaLengthAfterFunction, computeDataLengthAfterMeta,
    computeDataLength, if_neg h₁, if_pos hf, requestByteCount]
  omega

lemma frameLength_exchange (hf : requestFunction b req = fcWriteAndReadRegisters) :
    frameLength b .indication req =
      b.headerLength + 10 + requestByteCountWrite b req + b.checksumLength := by
  unfold requestFunction at hf
  simp [frameLength, headLength, computeMetaLengthAfterFunction, computeDataLengthAfterMeta,
    computeDataLength, hf, requestByteCountWrite]
  omega

lemma headerLength_lt_frameLength : b.headerLength < frameLength b .indication req :=
  header_lt_headLength.trans_le headLength_le_frameLength

def scrambled (n : ℕ) (req : Mem UInt8) : Mem UInt8 := fun j => if j < n then req j else ~~~req j

lemma agree_scrambled (n : ℕ) (req : Mem UInt8) : Agree n req (scrambled n req) := fun _ hj => if_pos hj

lemma not_ne (x : UInt8) : ~~~x ≠ x := fun h => by
  have hb := not_testBit x (k := 0) (by omega)
  rw [h] at hb
  cases hx : x.toNat.testBit 0 <;> simp [hx] at hb

variable {n : ℕ}

lemma storesWithinData_other (h₁ : requestFunction b req ≠ fcWriteMultipleCoils)
    (h₂ : requestFunction b req ≠ fcWriteMultipleRegisters)
    (h₃ : requestFunction b req ≠ fcWriteAndReadRegisters) : StoresWithinData b req mb :=
  ⟨fun h => absurd h h₁, fun h => absurd h h₂, fun h => absurd h h₃⟩

/-- Whether the bytes from `n` on make no difference to the reply. -/
def Local (b : Backend) (req : Mem UInt8) (n : ℕ) (mb : Mapping) (r : Reply) : Prop :=
  ∀ req', Agree n req req' → SameReply r (replyBuild b req' n mb)

lemma local_other (hs : StoresWithinData b req mb) {r : Reply}
    (h : ∀ req', Agree n req req' → replyBuild b req' n mb = r) :
    Local b req n mb r ↔ StoresWithinData b req mb :=
  ⟨fun _ => hs, fun _ req' ha => by rw [h req' ha]; exact ⟨rfl, rfl⟩⟩

lemma local_readIoStatus (hn : n = frameLength b .indication req) {t : Table} {tab : Mem UInt8}
    (ht : FlagTable (requestFunction b req) mb t tab) : Local b req n mb
      (replyReadIoStatus b req (requestSft b req n) (requestAddress b req) mb t tab) ↔
        StoresWithinData b req mb := by
  have hf : requestFunction b req ≤ fcWriteSingleRegister := by
    rcases ht with ⟨hf, -⟩ | ⟨hf, -⟩ <;> simp [hf]
  have hlen := frameLength_single hf
  refine local_other ?_ fun req' ha => ?_
  · simp only [fcWriteSingleRegister] at hf
    exact storesWithinData_other (by simp; omega) (by simp; omega) (by simp; omega)
  · have hnb := ha.nb (b := b) (by omega)
    unfold requestNb at hnb
    rw [replyBuild_readIoStatus (show FlagTable _ mb t tab by rwa [ha.function (by omega)]),
      ha.sft (by omega), ha.address (by omega)]
    simp only [replyReadIoStatus, hnb]

lemma local_readRegisters (hn : n = frameLength b .indication req) {t : Table} {tab : Mem UInt16}
    (ht : RegisterTable (requestFunction b req) mb t tab) : Local b req n mb
      (replyReadRegisters b req (requestSft b req n) (requestAddress b req) mb t tab) ↔
        StoresWithinData b req mb := by
  have hf : requestFunction b req ≤ fcWriteSingleRegister := by
    rcases ht with ⟨hf, -⟩ | ⟨hf, -⟩ <;> simp [hf]
  have hlen := frameLength_single hf
  refine local_other ?_ fun req' ha => ?_
  · simp only [fcWriteSingleRegister] at hf
    exact storesWithinData_other (by simp; omega) (by simp; omega) (by simp; omega)
  · have hnb := ha.nb (b := b) (by omega)
    unfold requestNb at hnb
    rw [replyBuild_readRegisters (show RegisterTable _ mb t tab by rwa [ha.function (by omega)]),
      ha.sft (by omega), ha.address (by omega)]
    simp only [replyReadRegisters, hnb]

lemma local_writeSingleCoil (hn : n = frameLength b .indication req)
    (hf : requestFunction b req = fcWriteSingleCoil) : Local b req n mb
      (replyWriteSingleCoil b req (requestSft b req n) (requestAddress b req) mb
        (prepareResponseTid b req n).2) ↔ StoresWithinData b req mb := by
  have hlen : frameLength b .indication req = _ := frameLength_single (by simp [hf])
  refine local_other ?_ fun req' ha => ?_
  · exact storesWithinData_other (by simp [hf]) (by simp [hf]) (by simp [hf])
  · have hnb := ha.nb (b := b) (by omega)
    unfold requestNb at hnb
    rw [replyBuild_writeSingleCoil (by rw [ha.function (by omega), hf]), ha.sft (by omega),
      ha.address (by omega), prepareResponseTid_length, prepareResponseTid_length]
    simp only [replyWriteSingleCoil, hnb, Int.toNat_sub, ha.slice (show 0 + (n - b.checksumLength) ≤ n by omega)]

lemma local_writeSingleRegister (hn : n = frameLength b .indication req)
    (hf : requestFunction b req = fcWriteSingleRegister) : Local b req n mb
      (replyWriteSingleRegister b req (requestSft b req n) (requestAddress b req) mb
        (prepareResponseTid b req n).2) ↔ StoresWithinData b req mb := by
  have hlen : frameLength b .indication req = _ := frameLength_single (by simp [hf])
  refine local_other ?_ fun req' ha => ?_
  · exact storesWithinData_other (by simp [hf]) (by simp [hf]) (by simp [hf])
  · have hnb := ha.nb (b := b) (by omega)
    unfold requestNb at hnb
    rw [replyBuild_writeSingleRegister (by rw [ha.function (by omega), hf]), ha.sft (by omega),
      ha.address (by omega), prepareResponseTid_length, prepareResponseTid_length]
    simp only [replyWriteSingleRegister, hnb, Int.toNat_sub,
      ha.slice (show 0 + (n - b.checksumLength) ≤ n by omega)]

lemma local_writeMultipleCoils (hn : n = frameLength b .indication req)
    (hf : requestFunction b req = fcWriteMultipleCoils) : Local b req n mb
      (replyWriteMultipleCoils b req (requestSft b req n) (requestAddress b req) mb) ↔
        StoresWithinData b req mb := by
  have hlen : frameLength b .indication req = _ := frameLength_multiple (.inl hf)
  have hother : StoresWithinData b req mb ↔ (requestAddress b req + requestNb b req ≤ mb.nbBits →
      (requestNb b req + 7) / 8 ≤ requestByteCount b req + b.checksumLength) :=
    ⟨fun h => h.coils hf, fun h => ⟨fun _ => h, by simp [hf], by simp [hf]⟩⟩
  have hreply (req' : Mem UInt8) (ha : Agree n req req') : replyBuild b req' n mb =
      replyWriteMultipleCoils b req' (requestSft b req n) (requestAddress b req) mb := by
    rw [replyBuild_writeMultipleCoils (by rw [ha.function (by omega), hf]), ha.sft (by omega),
      ha.address (by omega)]
  rw [hother]
  rcases Nat.lt_or_ge mb.nbBits (requestAddress b req + requestNb b req) with h | h
  · refine ⟨fun _ hle => absurd hle (by omega), fun _ req' ha => ?_⟩
    rw [hreply req' ha, replyWriteMultipleCoils_illegal h,
      replyWriteMultipleCoils_illegal (by rwa [ha.nb (by omega)])]
    exact ⟨rfl, rfl⟩
  constructor
  · intro hloc _
    by_contra hlt
    have ha := agree_scrambled n req
    have hm := (hloc _ ha).1
    rw [hreply _ ha, replyWriteMultipleCoils_legal h,
      replyWriteMultipleCoils_legal (by rwa [ha.nb (by omega)])] at hm
    have hlast : 0 < requestNb b req := by omega
    have hbit := congrFun (congrArg Mapping.tabBits hm) (requestAddress b req + (requestNb b req - 1))
    simp only [writtenCoils, ha.nb (b := b) (by omega : b.headerLength + 4 < n)] at hbit
    rw [if_pos (by omega), if_pos (by omega), Nat.add_sub_cancel_left] at hbit
    have hflip : flagData b (scrambled n req) ((requestNb b req - 1) / 8) =
        ~~~flagData b req ((requestNb b req - 1) / 8) := if_neg (by omega)
    simp only [bitAt, hflip, not_testBit _ (Nat.mod_lt _ (by omega : 8 > 0))] at hbit
    cases hb : (flagData b req ((requestNb b req - 1) / 8)).toNat.testBit
      ((requestNb b req - 1) % 8) <;> simp [hb, Bool.toUInt8] at hbit
  · intro hle req' ha
    have hd := hle h
    rw [hreply req' ha, replyWriteMultipleCoils_legal h,
      replyWriteMultipleCoils_legal (by rwa [ha.nb (by omega)])]
    refine ⟨?_, ?_⟩
    · have hw : writtenCoils b req' (requestAddress b req) mb.tabBits =
          writtenCoils b req (requestAddress b req) mb.tabBits := by
        funext j
        simp only [writtenCoils, ha.nb (b := b) (by omega : b.headerLength + 4 < n)]
        split_ifs with hj
        · exact congrArg _ (bitAt_congr (ha _ (by omega)))
        · rfl
      dsimp only
      rw [hw]
    · dsimp only
      rw [ha.slice (by omega)]

lemma writtenRegisters_agree {address nb first : ℕ} {tab : Mem UInt16} :
    (∀ req', Agree n req req' →
      writtenRegisters req' address nb first tab = writtenRegisters req address nb first tab) ↔
    nb = 0 ∨ first + 2 * nb ≤ n := by
  constructor
  · intro h
    by_contra hlt
    have hw := congrFun (h _ (agree_scrambled n req)) (address + (nb - 1))
    simp only [writtenRegisters] at hw
    rw [if_pos (by omega), if_pos (by omega), Nat.add_sub_cancel_left] at hw
    have hlo : scrambled n req (first + 2 * (nb - 1) + 1) = ~~~req (first + 2 * (nb - 1) + 1) :=
      if_neg (by omega)
    have hword := congrArg UInt16.toNat hw
    simp only [wordAt, UInt16.toNat_ofNat_of_lt' (word_lt _ _)] at hword
    have hbyte := congrArg (fun x : ℕ => loByte x) hword
    simp only [loByte_word, hlo] at hbyte
    exact not_ne _ hbyte
  · intro h req' ha
    funext j
    simp only [writtenRegisters]
    split_ifs with hj
    · exact ha.wordAt (by omega)
    · rfl

lemma local_writeMultipleRegisters (hn : n = frameLength b .indication req)
    (hf : requestFunction b req = fcWriteMultipleRegisters) : Local b req n mb
      (replyWriteMultipleRegisters b req (requestSft b req n) (requestAddress b req) mb) ↔
        StoresWithinData b req mb := by
  have hlen : frameLength b .indication req = _ := frameLength_multiple (.inr hf)
  have hother : StoresWithinData b req mb ↔
      (requestAddress b req + requestNb b req ≤ mb.nbRegisters →
        2 * requestNb b req ≤ requestByteCount b req + b.checksumLength) :=
    ⟨fun h => h.registers hf, fun h => ⟨by simp [hf], fun _ => h, by simp [hf]⟩⟩
  have hreply (req' : Mem UInt8) (ha : Agree n req req') : replyBuild b req' n mb =
      replyWriteMultipleRegisters b req' (requestSft b req n) (requestAddress b req) mb := by
    rw [replyBuild_writeMultipleRegisters (by rw [ha.function (by omega), hf]), ha.sft (by omega),
      ha.address (by omega)]
  rw [hother]
  rcases Nat.lt_or_ge mb.nbRegisters (requestAddress b req + requestNb b req) with h | h
  · refine ⟨fun _ hle => absurd hle (by omega), fun _ req' ha => ?_⟩
    rw [hreply req' ha, replyWriteMultipleRegisters_illegal h,
      replyWriteMultipleRegisters_illegal (by rwa [ha.nb (by omega)])]
    exact ⟨rfl, rfl⟩
  have hagree := @writtenRegisters_agree req n (requestAddress b req) (requestNb b req)
    (b.headerLength + 6) mb.tabRegisters
  constructor
  · intro hloc _
    have hor := hagree.mp fun req' ha => by
      have hm := (hloc _ ha).1
      rw [hreply _ ha, replyWriteMultipleRegisters_legal h,
        replyWriteMultipleRegisters_legal (by rwa [ha.nb (by omega)]), ha.nb (by omega)] at hm
      exact congrArg Mapping.tabRegisters hm
    omega
  · intro hle req' ha
    have hd := hle h
    rw [hreply req' ha, replyWriteMultipleRegisters_legal h,
      replyWriteMultipleRegisters_legal (by rwa [ha.nb (by omega)]), ha.nb (by omega)]
    refine ⟨?_, ?_⟩
    · dsimp only
      rw [hagree.mpr (by omega) req' ha]
    · dsimp only
      rw [ha.slice (by omega)]

lemma local_writeAndReadRegisters (hn : n = frameLength b .indication req)
    (hf : requestFunction b req = fcWriteAndReadRegisters) : Local b req n mb
      (replyWriteAndReadRegisters b req (requestSft b req n) (requestAddress b req) mb) ↔
        StoresWithinData b req mb := by
  have hlen : frameLength b .indication req = _ := frameLength_exchange hf
  have hother : StoresWithinData b req mb ↔
      (requestAddress b req + requestNb b req ≤ mb.nbRegisters →
        requestAddressWrite b req + requestNbWrite b req ≤ mb.nbRegisters →
        2 * requestNbWrite b req ≤ requestByteCountWrite b req + b.checksumLength) :=
    ⟨fun h => h.exchange hf, fun h => ⟨by simp [hf], by simp [hf], fun _ => h⟩⟩
  have hreply (req' : Mem UInt8) (ha : Agree n req req') : replyBuild b req' n mb =
      replyWriteAndReadRegisters b req' (requestSft b req n) (requestAddress b req) mb := by
    rw [replyBuild_writeAndReadRegisters (by rw [ha.function (by omega), hf]), ha.sft (by omega),
      ha.address (by omega)]
  rw [hother]
  by_cases h : mb.nbRegisters < requestAddress b req + requestNb b req ∨
      mb.nbRegisters < requestAddressWrite b req + requestNbWrite b req
  · refine ⟨fun _ h₁ h₂ => absurd h (by omega), fun _ req' ha => ?_⟩
    rw [hreply req' ha, replyWriteAndReadRegisters_illegal h, replyWriteAndReadRegisters_illegal
      (by rwa [ha.nb (by omega), ha.nbWrite (by omega), ha.addressWrite (by omega)])]
    exact ⟨rfl, rfl⟩
  rw [not_or, Nat.not_lt, Nat.not_lt] at h
  have hagree := @writtenRegisters_agree req n (requestAddressWrite b req) (requestNbWrite b req)
    (b.headerLength + 10) mb.tabRegisters
  have hex (req' : Mem UInt8) (ha : Agree n req req') : exchangedRegisters b req' mb.tabRegisters =
      writtenRegisters req' (requestAddressWrite b req) (requestNbWrite b req) (b.headerLength + 10)
        mb.tabRegisters := by
    rw [exchangedRegisters, ha.nbWrite (by omega), ha.addressWrite (by omega)]
  have hlegal (req' : Mem UInt8) (ha : Agree n req req') := @replyWriteAndReadRegisters_legal b req'
    (requestSft b req n) (requestAddress b req) mb
    (by rw [ha.nb (by omega)]; exact h.1)
    (by rw [ha.nbWrite (by omega), ha.addressWrite (by omega)]; exact h.2)
  constructor
  · intro hloc _ _
    have hor := hagree.mp fun req' ha => by
      have hm := congrArg Mapping.tabRegisters (hloc _ ha).1
      rw [hreply _ ha, hlegal req' ha, replyWriteAndReadRegisters_legal h.1 h.2] at hm
      rwa [← hex req' ha]
    omega
  · intro hle req' ha
    have hd := hle h.1 h.2
    rw [hreply req' ha, hlegal req' ha, replyWriteAndReadRegisters_legal h.1 h.2]
    have hsame : exchangedRegisters b req' mb.tabRegisters = exchangedRegisters b req mb.tabRegisters := by
      rw [hex req' ha]
      exact hagree.mpr (by omega) req' ha
    refine ⟨?_, ?_⟩
    · dsimp only
      rw [hsame]
    · dsimp only
      rw [hsame, ha.nb (by omega)]

lemma replyBuild_local (hn : n = frameLength b .indication req) :
    Local b req n mb (replyBuild b req n mb) ↔ StoresWithinData b req mb := by
  have hpos : b.headerLength < n := by
    have : b.headerLength < frameLength b .indication req := headerLength_lt_frameLength
    omega
  refine replyBuild_rule (P := fun r => Local b req n mb r ↔ StoresWithinData b req mb)
    (fun t tab => local_readIoStatus hn) (fun t tab => local_readRegisters hn)
    (local_writeSingleCoil hn) (local_writeSingleRegister hn) (local_writeMultipleCoils hn)
    (local_writeMultipleRegisters hn) (fun hf => ?_) (fun hf => ?_) (local_writeAndReadRegisters hn)
    fun hf => ?_
  · refine local_other (storesWithinData_other (by simp [hf]) (by simp [hf]) (by simp [hf]))
      fun req' ha => ?_
    rw [replyBuild_reportSlaveId (by rw [ha.function hpos, hf]), ha.sft hpos]
  · refine local_other (storesWithinData_other (by simp [hf]) (by simp [hf]) (by simp [hf]))
      fun req' ha => ?_
    rw [replyBuild_readExceptionStatus (by rw [ha.function hpos, hf])]
  · refine local_other ?_ fun req' ha => ?_
    · refine storesWithinData_other ?_ ?_ ?_ <;>
      · intro h
        exact hf (by simp [h, Supported])
    · rw [replyBuild_unsupported (by rwa [ha.function hpos]), ha.sft hpos]

end Stores

section Requests

variable {buf req : Mem UInt8} {w w' : World} {rc : ℤ}

/-- What lies in the buffer behind an accepted request makes no difference if and only if a write
that the range check lets pass finds all its values within the request. -/
theorem modbusReply_local_iff (hr : receiveMsg .indication buf w = .done (rc, req) w') (hrc : 0 < rc)
    (mb : Mapping) :
    (∀ req', Agree rc.toNat req req' → SameReply (replyBuild w'.ctx.backend req rc.toNat mb)
        (replyBuild w'.ctx.backend req' rc.toNat mb)) ↔
      StoresWithinData w'.ctx.backend req mb := by
  obtain ⟨hlen, -, hctx⟩ := receiveMsg_accepted hr hrc
  rw [hctx]
  exact replyBuild_local hlen

def writeRegistersRequest (n : UInt8) (data : List UInt8) : List UInt8 :=
  [0, 1, 0, 0, 0, 9, 0xFF, 16, 0, 0, 0, 2, n] ++ data

lemma isFrame_writeRegistersRequest {n : UInt8} {data : List UInt8} (hn : n.toNat = data.length)
    (hmax : n.toNat ≤ 240) :
    IsFrame .tcp .indication (writeRegistersRequest n data) where
  length {m} hm := by
    have hf : requestFunction .tcp m = fcWriteMultipleRegisters :=
      congrArg UInt8.toNat (hm 7 (by simp [writeRegistersRequest]))
    have hc : requestByteCount .tcp m = data.length :=
      (congrArg UInt8.toNat (hm 12 (by simp [writeRegistersRequest]))).trans hn
    rw [frameLength_multiple (.inr hf), hc]
    simp [writeRegistersRequest]
    omega
  allowed := by
    simp [writeRegistersRequest]
    omega

/-- The second register takes its value from bytes that were never received. -/
theorem modbusReply_stale : ∃ (req : Mem UInt8) (w' : World),
    receiveMsg .indication (fun _ => 0) (receivedFrom (writeRegistersRequest 2 [0, 7])) =
      .done (15, req) w' ∧
    ¬∀ req', Agree 15 req req' → SameReply (replyBuild w'.ctx.backend req 15 fullTables)
      (replyBuild w'.ctx.backend req' 15 fullTables) := by
  obtain ⟨w, hr, hctx⟩ := receivedFrom_frame
    (@isFrame_writeRegistersRequest 2 [0, 7] rfl (by decide)) fun _ => 0
  refine ⟨_, w, hr, fun h => ?_⟩
  rw [hctx] at h
  have hm := (h _ (agree_scrambled 15 _)).1
  have hreg := congrArg (fun m : Mapping => m.tabRegisters 1) hm
  revert hreg
  decide

theorem modbusReply_local_iff_example : ∃ (req : Mem UInt8) (w' : World),
    receiveMsg .indication (fun _ => 0) (receivedFrom (writeRegistersRequest 4 [0, 7, 0, 8])) =
      .done (17, req) w' ∧
    ((∀ req', Agree 17 req req' → SameReply (replyBuild w'.ctx.backend req 17 fullTables)
        (replyBuild w'.ctx.backend req' 17 fullTables)) ↔
      StoresWithinData w'.ctx.backend req fullTables) := by
  obtain ⟨w, hr, -⟩ := receivedFrom_frame
    (@isFrame_writeRegistersRequest 4 [0, 7, 0, 8] rfl (by decide)) fun _ => 0
  exact ⟨_, w, hr, modbusReply_local_iff hr (by decide) fullTables⟩

end Requests

end LibModbus
