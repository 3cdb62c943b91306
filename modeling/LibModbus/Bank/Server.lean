import LibModbus.Bank.Abstract
import LibModbus.Client.Loops
import LibModbus.Client.Requests
import LibModbus.Server.Bounds

/-! The server answers the requests of a client as the bank does. -/

namespace LibModbus

open Library

def Carries (call : ClientCall) : Option Data → List UInt8 → Prop
  | none, pdu => pdu = [UInt8.ofNat ((call.pdu.getD 0 0).toNat + 0x80), 2]
  | some (.flags vs), pdu => ∃ bytes, Packs bytes vs.length (vs.getD · false) ∧
    pdu = call.pdu.getD 0 0 :: UInt8.ofNat ((vs.length + 7) / 8) :: bytes
  | some (.words vs), pdu =>
    pdu = call.pdu.getD 0 0 :: UInt8.ofNat (2 * vs.length) :: vs.flatMap registerBytes
  | some .written, pdu => pdu = call.pdu.take 5

section Ranges

variable {a n size : ℕ}

lemma fetch_flags {tab : Mem UInt8} {flags : List Bool}
    (h : tab.slice 0 size = flags.map Bool.toUInt8) (hle : a + n ≤ size) :
    ∃ vs, fetch flags a n = some vs ∧ vs.length = n ∧
      ∀ i < n, tab (a + i) = (vs.getD i false).toUInt8 := by
  have hf := fetch_slice (m := tab) hle
  rw [h, fetch_map, Option.map_eq_some_iff] at hf
  obtain ⟨vs, hvs, hmap⟩ := hf
  have hl := fetch_length hvs
  refine ⟨vs, hvs, hl, fun i hi => ?_⟩
  have hget := congrArg (·[i]?) hmap
  have hi' : i < vs.length := by omega
  simp only [List.getElem?_map, List.getElem?_eq_getElem hi', Option.map_some] at hget
  rw [List.getElem?_eq_getElem (by simpa using hi), Mem.slice_getElem] at hget
  rw [List.getD_eq_getElem _ _ hi']
  exact (Option.some.inj hget).symm

lemma splice_flags {tab : Mem UInt8} {flags vs : List Bool}
    (h : tab.slice 0 size = flags.map Bool.toUInt8) (hle : a + vs.length ≤ size) :
    ∃ flags', splice flags a vs = some flags' ∧
      (tab.write a (vs.map Bool.toUInt8)).slice 0 size = flags'.map Bool.toUInt8 := by
  have hs := @splice_slice _ tab size a (vs.map Bool.toUInt8) (by rwa [List.length_map])
  rw [h, splice_map, Option.map_eq_some_iff] at hs
  obtain ⟨flags', hf, hmap⟩ := hs
  exact ⟨flags', hf, hmap.symm⟩

lemma slice_map_length {tab : Mem UInt8} {flags : List Bool}
    (h : tab.slice 0 size = flags.map Bool.toUInt8) : flags.length = size := by
  have := congrArg List.length h
  simpa using this.symm

lemma wireRegisters_slice (tab : Mem UInt16) (a n : ℕ) :
    wireRegisters tab a n = (tab.slice a n).flatMap registerBytes := by
  rw [wireRegisters, Mem.slice, List.flatMap_map, List.range'_eq_map_range, List.flatMap_map]

end Ranges

def Serves (call : ClientCall) (request : Request) (b : Backend) (req : Mem UInt8) (reqLength : ℕ)
    (mb : Mapping) (bank : Bank) : Prop :=
  Bank.Represents (replyBuild b req reqLength mb).mapping (bank.step request).1 ∧
    ∃ rsp, (replyBuild b req reqLength mb).rsp = some rsp ∧
      Carries call (bank.step request).2 (rsp.drop b.headerLength)

section Serves

variable {call : ClientCall} {request : Request} {b : Backend} {req : Mem UInt8} {reqLength : ℕ}
  {mb : Mapping} {bank : Bank}

lemma basis_drop (b : Backend) (sft : Sft) (rest : List UInt8) :
    (buildResponseBasis b sft ++ rest).drop b.headerLength = UInt8.ofNat sft.function :: rest := by
  cases b <;> rfl

lemma serves_refused (hrep : Bank.Represents mb bank)
    (hf : requestFunction b req = (call.pdu.getD 0 0).toNat) (hs : bank.serve request = none)
    (hr : replyBuild b req reqLength mb = replyException b (requestSft b req reqLength) mb
      modbusExceptionIllegalDataAddress) : Serves call request b req reqLength mb bank := by
  have hstep : bank.step request = (bank, none) := by rw [Bank.step, hs]
  rw [Serves, hr, hstep]
  refine ⟨hrep, _, rfl, ?_⟩
  rw [responseException, basis_drop]
  simp only [Carries, ← hf]
  rfl

lemma serves_done {bank' : Bank} {data : Data} {rsp : List UInt8}
    (hs : bank.serve request = some (bank', data))
    (hrep : Bank.Represents (replyBuild b req reqLength mb).mapping bank')
    (hr : (replyBuild b req reqLength mb).rsp = some rsp)
    (hc : Carries call (some data) (rsp.drop b.headerLength)) :
    Serves call request b req reqLength mb bank := by
  have hstep : bank.step request = (bank', some data) := by rw [Bank.step, hs]
  rw [Serves, hstep]
  exact ⟨hrep, rsp, hr, hc⟩

lemma function_byte (hf : requestFunction b req = (call.pdu.getD 0 0).toNat) :
    UInt8.ofNat (requestFunction b req) = call.pdu.getD 0 0 := by
  rw [hf]
  exact UInt8.ofNat_toNat

lemma serves_flags {t : Table} {tab : Mem UInt8} {flags : List Bool}
    (ht : FlagTable (requestFunction b req) mb t tab)
    (hf : requestFunction b req = (call.pdu.getD 0 0).toNat) (hrep : Bank.Represents mb bank)
    (htab : tab.slice 0 (mb.size t) = flags.map Bool.toUInt8)
    (hs : bank.serve request = (fetch flags (requestAddress b req) (requestNb b req)).map
      fun vs => (bank, .flags vs)) : Serves call request b req reqLength mb bank := by
  have hr := @replyBuild_readIoStatus b req reqLength mb t tab ht
  rcases Nat.lt_or_ge (mb.size t) (requestAddress b req + requestNb b req) with h | h
  · rw [replyReadIoStatus_illegal h] at hr
    rw [fetch_of_lt (by rw [slice_map_length htab]; exact h)] at hs
    exact serves_refused hrep hf hs hr
  · rw [replyReadIoStatus_legal h] at hr
    obtain ⟨vs, hvs, hl, hget⟩ := fetch_flags htab h
    rw [hvs] at hs
    apply serves_done hs (by rw [hr]; exact hrep) (by rw [hr])
    have hp := @responseIoStatus_packs tab (requestAddress b req) (requestNb b req) fun j h₁ h₂ => by
      obtain ⟨i, rfl⟩ : ∃ i, j = requestAddress b req + i := ⟨j - requestAddress b req, by omega⟩
      rw [hget i (by omega)]
      cases vs.getD i false
      · exact .inl rfl
      · exact .inr rfl
    refine ⟨_, ?_, by rw [basis_drop, ← function_byte hf, hl]; rfl⟩
    rw [hl]
    refine hp.congr fun i hi => ?_
    rw [hget i hi, decide_toUInt8_ne_zero]

lemma serves_words {t : Table} {tab : Mem UInt16} {words : List UInt16}
    (ht : RegisterTable (requestFunction b req) mb t tab)
    (hf : requestFunction b req = (call.pdu.getD 0 0).toNat) (hrep : Bank.Represents mb bank)
    (htab : tab.slice 0 (mb.size t) = words)
    (hs : bank.serve request = (fetch words (requestAddress b req) (requestNb b req)).map
      fun vs => (bank, .words vs)) : Serves call request b req reqLength mb bank := by
  have hr := @replyBuild_readRegisters b req reqLength mb t tab ht
  rcases Nat.lt_or_ge (mb.size t) (requestAddress b req + requestNb b req) with h | h
  · rw [replyReadRegisters_illegal h] at hr
    rw [fetch_of_lt (by rw [← htab, Mem.slice_length]; exact h)] at hs
    exact serves_refused hrep hf hs hr
  · rw [replyReadRegisters_legal h] at hr
    rw [← htab, fetch_slice h] at hs
    apply serves_done hs (by rw [hr]; exact hrep) (by rw [hr])
    simp only [Carries, Mem.slice_length]
    rw [basis_drop, ← function_byte hf, wireRegisters_slice]
    rfl

lemma writtenCoils_eq {address nb : ℕ} {src tab : Mem UInt8} (hnb : requestNb b req = nb)
    (hdata : ∀ k < nb, bitAt (flagData b req) k = decide (src k ≠ 0)) :
    writtenCoils b req address tab = tab.write address ((flagsOf src nb).map Bool.toUInt8) := by
  have hlen : ((flagsOf src nb).map Bool.toUInt8).length = nb := by simp [flagsOf]
  funext j
  rw [writtenCoils, hnb, Mem.write_apply]
  by_cases hj : address ≤ j ∧ j < address + nb
  · rw [if_pos hj, dif_pos (by rwa [hlen]), hdata _ (by omega)]
    simp only [flagsOf, List.getElem_map, Mem.slice_getElem, Nat.zero_add]
  · rw [if_neg hj, dif_neg (by rwa [hlen])]

lemma writtenRegisters_eq {address nb first : ℕ} {src tab : Mem UInt16}
    (hdata : ∀ k < nb, wordAt req (first + 2 * k) = src k) :
    writtenRegisters req address nb first tab = tab.write address (src.slice 0 nb) := by
  funext j
  rw [writtenRegisters, Mem.write_apply]
  by_cases hj : address ≤ j ∧ j < address + nb
  · rw [if_pos hj, dif_pos (by rwa [Mem.slice_length]), hdata _ (by omega), Mem.slice_getElem,
      Nat.zero_add]
  · rw [if_neg hj, dif_neg (by rwa [Mem.slice_length])]

lemma echo_drop {pdu : List UInt8} (hm : HoldsPdu b req pdu) (hl : 5 ≤ pdu.length) :
    (buildResponseBasis b (requestSft b req reqLength) ++
      req.slice (b.headerLength + 1) 4).drop b.headerLength = pdu.take 5 := by
  rw [basis_drop, ← hm.slice hl, Mem.slice_succ _ _ 4]
  exact congrArg (· :: _) UInt8.ofNat_toNat

lemma serves_coils {a : ℕ} {vs : List Bool} (hf : requestFunction b req = (call.pdu.getD 0 0).toNat)
    (hrep : Bank.Represents mb bank)
    (hillegal : mb.nbBits < a + vs.length → replyBuild b req reqLength mb =
      replyException b (requestSft b req reqLength) mb modbusExceptionIllegalDataAddress)
    (hlegal : a + vs.length ≤ mb.nbBits → ∃ accesses rsp undefined, replyBuild b req reqLength mb =
      ⟨{ mb with tabBits := mb.tabBits.write a (vs.map Bool.toUInt8) }, accesses, some rsp, undefined⟩ ∧
        rsp.drop b.headerLength = call.pdu.take 5) :
    Serves call (.writeCoils a vs) b req reqLength mb bank := by
  rcases Nat.lt_or_ge mb.nbBits (a + vs.length) with h | h
  · refine serves_refused hrep hf ?_ (hillegal h)
    rw [Bank.serve, splice_of_lt (by rwa [slice_map_length hrep.coils])]
    rfl
  · obtain ⟨accesses, rsp, undefined, hr, hrsp⟩ := hlegal h
    obtain ⟨coils, hs, hcoils⟩ := splice_flags hrep.coils h
    have hserve : bank.serve (.writeCoils a vs) = some ({ bank with coils }, .written) := by
      rw [Bank.serve, hs]
      rfl
    refine serves_done hserve ?_ (by rw [hr]) hrsp
    rw [hr]
    exact ⟨hcoils, hrep.inputs, hrep.registers, hrep.inputRegisters⟩

lemma serves_registers {a : ℕ} {vs : List UInt16}
    (hf : requestFunction b req = (call.pdu.getD 0 0).toNat) (hrep : Bank.Represents mb bank)
    (hillegal : mb.nbRegisters < a + vs.length → replyBuild b req reqLength mb =
      replyException b (requestSft b req reqLength) mb modbusExceptionIllegalDataAddress)
    (hlegal : a + vs.length ≤ mb.nbRegisters → ∃ accesses rsp undefined, replyBuild b req reqLength mb =
      ⟨{ mb with tabRegisters := mb.tabRegisters.write a vs }, accesses, some rsp, undefined⟩ ∧
        rsp.drop b.headerLength = call.pdu.take 5) :
    Serves call (.writeRegisters a vs) b req reqLength mb bank := by
  rcases Nat.lt_or_ge mb.nbRegisters (a + vs.length) with h | h
  · refine serves_refused hrep hf ?_ (hillegal h)
    rw [Bank.serve, splice_of_lt (by rwa [← hrep.registers, Mem.slice_length])]
    rfl
  · obtain ⟨accesses, rsp, undefined, hr, hrsp⟩ := hlegal h
    have hserve : bank.serve (.writeRegisters a vs) = some ({ bank with
        registers := (mb.tabRegisters.write a vs).slice 0 mb.nbRegisters }, .written) := by
      rw [Bank.serve, ← hrep.registers, splice_slice h]
      rfl
    refine serves_done hserve ?_ (by rw [hr]) hrsp
    rw [hr]
    exact ⟨hrep.coils, hrep.inputs, rfl, hrep.inputRegisters⟩

end Serves

section Calls

variable {b : Backend} {req : Mem UInt8} {reqLength : ℕ} {mb : Mapping} {bank : Bank} {addr : ℤ}

lemma single_drop {pdu : List UInt8} (hm : HoldsPdu b req pdu) (hl : 5 ≤ pdu.length)
    (hn : reqLength = b.headerLength + 5 + b.checksumLength) :
    (req.slice 0 (prepareResponseTid b req reqLength).2.toNat).drop b.headerLength = pdu.take 5 := by
  rw [prepareResponseTid_toNat, hn, Nat.add_sub_cancel, Mem.slice_drop, Nat.zero_add, hm.slice hl]

lemma serves_writeBit {status : ℤ} (ha : (ClientCall.writeBit addr status).Addressed)
    (hm : HoldsPdu b req (ClientCall.writeBit addr status).pdu)
    (hn : reqLength = frameLength b .indication req) (hrep : Bank.Represents mb bank) :
    Serves (.writeBit addr status) (.writeCoils addr.toNat [decide (status ≠ 0)]) b req reqLength mb
      bank := by
  obtain ⟨h₀, h₁⟩ := ha
  obtain ⟨hf, haddr, hnb⟩ := @HoldsPdu.fields _ _ _ addr _ [] hm (by decide)
  have haddr' : requestAddress b req = addr.toNat := by omega
  have hvalue : requestNb b req = if status ≠ 0 then 0xFF00 else 0 := by
    split_ifs at hnb ⊢ <;> omega
  have hor : requestNb b req = 0xFF00 ∨ requestNb b req = 0 := by
    split_ifs at hvalue with h
    · exact .inl hvalue
    · exact .inr hvalue
  have hflag : decide (requestNb b req ≠ 0) = decide (status ≠ 0) := by
    rw [hvalue]
    split_ifs with h <;> simp [h]
  have hr := @replyBuild_writeSingleCoil b req reqLength mb hf
  refine serves_coils hf hrep (fun h => ?_) fun h => ?_
  · rw [List.length_singleton] at h
    rw [hr, replyWriteSingleCoil_illegal (by omega)]
  · rw [List.length_singleton] at h
    rw [hr, replyWriteSingleCoil_legal (by omega) hor, hflag, haddr', ← Mem.write_singleton]
    rw [frameLength_single (by simp [hf])] at hn
    exact ⟨_, _, _, rfl, single_drop hm (by simp [ClientCall.pdu, ClientCall.basisPdu]) hn⟩

lemma serves_writeRegister {value : ℤ} (ha : (ClientCall.writeRegister addr value).Addressed)
    (hm : HoldsPdu b req (ClientCall.writeRegister addr value).pdu)
    (hn : reqLength = frameLength b .indication req) (hrep : Bank.Represents mb bank) :
    Serves (.writeRegister addr value) (.writeRegisters addr.toNat [UInt16.ofInt value]) b req
      reqLength mb bank := by
  obtain ⟨⟨h₀, h₁⟩, hv₀, hv₁⟩ := ha
  obtain ⟨hf, haddr, hnb⟩ := @HoldsPdu.fields _ _ _ addr _ [] hm (by decide)
  have haddr' : requestAddress b req = addr.toNat := by omega
  have hword : wordAt req (b.headerLength + 3) = UInt16.ofInt value := by
    have hnb' : requestNb b req = (value % 2 ^ 16).toNat := by omega
    change UInt16.ofNat (requestNb b req) = _
    rw [hnb', UInt16.ofInt]
  have hr := @replyBuild_writeSingleRegister b req reqLength mb hf
  refine serves_registers hf hrep (fun h => ?_) fun h => ?_
  · rw [List.length_singleton] at h
    rw [hr, replyWriteSingleRegister_illegal (by omega)]
  · rw [List.length_singleton] at h
    rw [hr, replyWriteSingleRegister_legal (by omega), hword, haddr', ← Mem.write_singleton]
    rw [frameLength_single (by simp [hf])] at hn
    exact ⟨_, _, _, rfl, single_drop hm (by simp [ClientCall.pdu, ClientCall.basisPdu]) hn⟩

lemma serves_writeBits {nb : ℤ} {src : Mem UInt8}
    (ha : (ClientCall.writeBits addr nb src).Addressed)
    (hc : (ClientCall.writeBits addr nb src).CountsFrom 0)
    (hm : HoldsPdu b req (ClientCall.writeBits addr nb src).pdu) (hrep : Bank.Represents mb bank) :
    Serves (.writeBits addr nb src) (.writeCoils addr.toNat (flagsOf src nb.toNat)) b req reqLength mb
      bank := by
  obtain ⟨n, rfl⟩ := Int.eq_ofNat_of_zero_le hc.1
  obtain ⟨hf, haddr, hnb⟩ := hm.fields_toNat (by decide) ha ⟨hc.1, hc.2.trans_lt (by decide)⟩
  rw [Int.toNat_natCast] at hnb ⊢
  have hlen : (flagsOf src n).length = n := by simp [flagsOf]
  have hr := @replyBuild_writeMultipleCoils b req reqLength mb hf
  refine serves_coils hf hrep (fun h => ?_) fun h => ?_
  · rw [hr, replyWriteMultipleCoils_illegal (by omega)]
  · rw [hr, replyWriteMultipleCoils_legal (by omega), haddr,
      writtenCoils_eq hnb fun k hk => writeBits_flag hm (by omega)]
    exact ⟨_, _, _, rfl, echo_drop hm (by simp [ClientCall.pdu, ClientCall.basisPdu])⟩

lemma serves_writeRegisters {nb : ℤ} {src : Mem UInt16}
    (ha : (ClientCall.writeRegisters addr nb src).Addressed)
    (hc : (ClientCall.writeRegisters addr nb src).CountsFrom 0)
    (hm : HoldsPdu b req (ClientCall.writeRegisters addr nb src).pdu)
    (hrep : Bank.Represents mb bank) :
    Serves (.writeRegisters addr nb src) (.writeRegisters addr.toNat (src.slice 0 nb.toNat)) b req
      reqLength mb bank := by
  obtain ⟨n, rfl⟩ := Int.eq_ofNat_of_zero_le hc.1
  obtain ⟨hf, haddr, hnb⟩ := hm.fields_toNat (by decide) ha ⟨hc.1, hc.2.trans_lt (by decide)⟩
  rw [Int.toNat_natCast] at hnb ⊢
  have hlen : (src.slice 0 n).length = n := Mem.slice_length _ _ _
  have hr := @replyBuild_writeMultipleRegisters b req reqLength mb hf
  refine serves_registers hf hrep (fun h => ?_) fun h => ?_
  · rw [hr, replyWriteMultipleRegisters_illegal (by omega)]
  · rw [hr, replyWriteMultipleRegisters_legal (by omega), haddr, hnb,
      writtenRegisters_eq fun k hk => writeRegisters_word hm (by omega)]
    exact ⟨_, _, _, rfl, echo_drop hm (by simp [ClientCall.pdu, ClientCall.basisPdu])⟩

lemma serves_writeAndReadRegisters {writeNb readNb readAddr : ℤ} {src : Mem UInt16}
    (ha : (ClientCall.writeAndReadRegisters addr writeNb src readAddr readNb).Addressed)
    (hc : (ClientCall.writeAndReadRegisters addr writeNb src readAddr readNb).CountsFrom 0)
    (hm : HoldsPdu b req (ClientCall.writeAndReadRegisters addr writeNb src readAddr readNb).pdu)
    (hrep : Bank.Represents mb bank) :
    Serves (.writeAndReadRegisters addr writeNb src readAddr readNb)
      (.exchange addr.toNat (src.slice 0 writeNb.toNat) readAddr.toNat readNb.toNat) b req reqLength mb
      bank := by
  obtain ⟨⟨h₀, h₁⟩, ha⟩ := ha
  obtain ⟨⟨hw₀, hw₁⟩, hr₀, hr₁⟩ := hc
  obtain ⟨n, rfl⟩ := Int.eq_ofNat_of_zero_le hw₀
  simp only [modbusMaxRwWriteRegisters] at hw₁
  obtain ⟨hf, haddr, hnb⟩ := hm.fields_toNat (by decide) ha ⟨hr₀, hr₁.trans_lt (by decide)⟩
  have hlen : (src.slice 0 n).length = n := Mem.slice_length _ _ _
  obtain ⟨haddrw, hnbw⟩ := writeAndReadRegisters_fields hm
  have haddrw' : requestAddressWrite b req = addr.toNat := by omega
  have hnbw' : requestNbWrite b req = n := by omega
  have hr := @replyBuild_writeAndReadRegisters b req reqLength mb hf
  rw [Int.toNat_natCast]
  by_cases h : mb.nbRegisters < requestAddress b req + requestNb b req ∨
      mb.nbRegisters < requestAddressWrite b req + requestNbWrite b req
  · rw [replyWriteAndReadRegisters_illegal h] at hr
    refine serves_refused hrep hf ?_ hr
    rw [Bank.serve, ← hrep.registers]
    by_cases hw : mb.nbRegisters < addr.toNat + (src.slice 0 n).length
    · rw [splice_of_lt (by rwa [Mem.slice_length])]
      rfl
    · rw [splice_slice (Nat.not_lt.mp hw), Option.bind_some,
        fetch_of_lt (by rw [Mem.slice_length]; omega)]
      rfl
  · rw [not_or, Nat.not_lt, Nat.not_lt] at h
    have hex : exchangedRegisters b req mb.tabRegisters =
        mb.tabRegisters.write addr.toNat (src.slice 0 n) := by
      rw [exchangedRegisters, haddrw', hnbw',
        writtenRegisters_eq fun k hk => writeAndReadRegisters_word hm (by omega)]
    rw [replyWriteAndReadRegisters_legal h.1 h.2, hex] at hr
    have hserve : bank.serve (.exchange addr.toNat (src.slice 0 n) readAddr.toNat readNb.toNat) =
        some ({ bank with
          registers := (mb.tabRegisters.write addr.toNat (src.slice 0 n)).slice 0 mb.nbRegisters },
          .words ((mb.tabRegisters.write addr.toNat (src.slice 0 n)).slice readAddr.toNat
            readNb.toNat)) := by
      rw [Bank.serve, ← hrep.registers, splice_slice (by omega), Option.bind_some,
        fetch_slice (by omega)]
      rfl
    refine serves_done hserve ?_ (by rw [hr]) ?_
    · rw [hr]
      exact ⟨hrep.coils, hrep.inputs, rfl, hrep.inputRegisters⟩
    · simp only [Carries, Mem.slice_length]
      rw [basis_drop, ← function_byte hf, wireRegisters_slice, hnb, haddr]
      rfl

end Calls

section Reply

variable {b : Backend} {req : Mem UInt8} {reqLength : ℕ} {mb : Mapping} {bank : Bank}
  {call : ClientCall} {request : Request}

lemma replyBuild_serves (ha : call.Addressed) (hc : call.CountsFrom 0)
    (hmeaning : call.meaning = some request) (hm : HoldsPdu b req call.pdu)
    (hn : reqLength = frameLength b .indication req) (hrep : Bank.Represents mb bank) :
    Serves call request b req reqLength mb bank := by
  cases call with
  | readBits addr nb =>
    obtain ⟨hf, haddr, hnb⟩ := @HoldsPdu.fields_toNat _ _ _ addr nb [] hm (by decide) ha
      ⟨hc.1, hc.2.trans_lt (by decide)⟩
    obtain rfl := Option.some.inj hmeaning
    refine serves_flags (.inl ⟨hf, rfl, rfl⟩) hf hrep hrep.coils ?_
    rw [haddr, hnb]
    rfl
  | readInputBits addr nb =>
    obtain ⟨hf, haddr, hnb⟩ := @HoldsPdu.fields_toNat _ _ _ addr nb [] hm (by decide) ha
      ⟨hc.1, hc.2.trans_lt (by decide)⟩
    obtain rfl := Option.some.inj hmeaning
    refine serves_flags (.inr ⟨hf, rfl, rfl⟩) hf hrep hrep.inputs ?_
    rw [haddr, hnb]
    rfl
  | readRegisters addr nb =>
    obtain ⟨hf, haddr, hnb⟩ := @HoldsPdu.fields_toNat _ _ _ addr nb [] hm (by decide) ha
      ⟨hc.1, hc.2.trans_lt (by decide)⟩
    obtain rfl := Option.some.inj hmeaning
    refine serves_words (.inl ⟨hf, rfl, rfl⟩) hf hrep hrep.registers ?_
    rw [haddr, hnb]
    rfl
  | readInputRegisters addr nb =>
    obtain ⟨hf, haddr, hnb⟩ := @HoldsPdu.fields_toNat _ _ _ addr nb [] hm (by decide) ha
      ⟨hc.1, hc.2.trans_lt (by decide)⟩
    obtain rfl := Option.some.inj hmeaning
    refine serves_words (.inr ⟨hf, rfl, rfl⟩) hf hrep hrep.inputRegisters ?_
    rw [haddr, hnb]
    rfl
  | writeBit addr status =>
    obtain rfl := Option.some.inj hmeaning
    exact serves_writeBit ha hm hn hrep
  | writeRegister addr value =>
    obtain rfl := Option.some.inj hmeaning
    exact serves_writeRegister ha hm hn hrep
  | writeBits addr nb src =>
    obtain rfl := Option.some.inj hmeaning
    exact serves_writeBits ha hc hm hrep
  | writeRegisters addr nb src =>
    obtain rfl := Option.some.inj hmeaning
    exact serves_writeRegisters ha hc hm hrep
  | writeAndReadRegisters writeAddr writeNb src readAddr readNb =>
    obtain rfl := Option.some.inj hmeaning
    exact serves_writeAndReadRegisters ha hc hm hrep
  | reportSlaveId => exact absurd hmeaning (by simp [ClientCall.meaning])

end Reply

end LibModbus
