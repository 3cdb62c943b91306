import LibModbus.Bank.Abstract
import LibModbus.Client.Requests

/-! What a request makes the server store is what the client asked for. -/

namespace LibModbus

open Library

def ClientCall.Asks : ClientCall → Table → ℕ → ℕ → Prop
  | writeBit addr status, .bits, i, v => (i : ℤ) = addr ∧ v = if status ≠ 0 then 1 else 0
  | writeRegister addr value, .registers, i, v => (i : ℤ) = addr ∧ (v : ℤ) = value
  | writeBits addr nb src, .bits, i, v =>
    ∃ k : ℕ, k < nb ∧ (i : ℤ) = addr + k ∧ v = if src k ≠ 0 then 1 else 0
  | writeRegisters addr nb src, .registers, i, v
  | writeAndReadRegisters addr nb src _ _, .registers, i, v =>
    ∃ k : ℕ, k < nb ∧ (i : ℤ) = addr + k ∧ v = (src k).toNat
  | _, _, _, _ => False

section Accesses

variable {t : Table} {i v : ℕ}

lemma store_not_mem_loads {t' : Table} {reads : List ℕ} : Access.store t i v ∉ loads t' reads := by
  simp [loads]

lemma mem_bitStores {is : List ℕ} {f : ℕ → UInt8}
    (h : .store t i v ∈ bitStores (is.map fun j => (j, f j))) :
    t = .bits ∧ i ∈ is ∧ v = (f i).toNat := by
  simp only [bitStores, List.map_map, List.mem_map, Function.comp_apply, Access.store.injEq] at h
  obtain ⟨j, hj, rfl, rfl, rfl⟩ := h
  exact ⟨rfl, hj, rfl⟩

lemma mem_registerStores {is : List ℕ} {f : ℕ → UInt16}
    (h : .store t i v ∈ registerStores (is.map fun j => (j, f j))) :
    t = .registers ∧ i ∈ is ∧ v = (f i).toNat := by
  simp only [registerStores, List.map_map, List.mem_map, Function.comp_apply,
    Access.store.injEq] at h
  obtain ⟨j, hj, rfl, rfl, rfl⟩ := h
  exact ⟨rfl, hj, rfl⟩

end Accesses

section Replies

variable {b : Backend} {req : Mem UInt8} {n : ℕ} {mb : Mapping} {addr : ℤ} {t : Table} {i v : ℕ}

lemma no_store_readIoStatus {tab : Mem UInt8} {t' : Table}
    (ht : FlagTable (requestFunction b req) mb t' tab) :
    .store t i v ∉ (replyBuild b req n mb).accesses := by
  rw [replyBuild_readIoStatus ht]
  rcases Nat.lt_or_ge (mb.size t') (requestAddress b req + requestNb b req) with h | h
  · rw [replyReadIoStatus_illegal h]
    exact List.not_mem_nil
  · rw [replyReadIoStatus_legal h]
    exact store_not_mem_loads

lemma no_store_readRegisters {tab : Mem UInt16} {t' : Table}
    (ht : RegisterTable (requestFunction b req) mb t' tab) :
    .store t i v ∉ (replyBuild b req n mb).accesses := by
  rw [replyBuild_readRegisters ht]
  rcases Nat.lt_or_ge (mb.size t') (requestAddress b req + requestNb b req) with h | h
  · rw [replyReadRegisters_illegal h]
    exact List.not_mem_nil
  · rw [replyReadRegisters_legal h]
    exact store_not_mem_loads

lemma asked_writeBit {status : ℤ} (ha : (ClientCall.writeBit addr status).Addressed)
    (hm : HoldsPdu b req (ClientCall.writeBit addr status).pdu)
    (hs : .store t i v ∈ (replyBuild b req n mb).accesses) :
    (ClientCall.writeBit addr status).Asks t i v := by
  obtain ⟨h₀, h₁⟩ := ha
  obtain ⟨hf, haddr, hnb⟩ := @HoldsPdu.fields _ _ _ addr _ [] hm (by decide)
  rw [replyBuild_writeSingleCoil hf] at hs
  rcases Nat.lt_or_ge (requestAddress b req) mb.nbBits with h | h
  · by_cases hd : requestNb b req = 0xFF00 ∨ requestNb b req = 0
    · rw [replyWriteSingleCoil_legal h hd] at hs
      simp only [List.mem_singleton, Access.store.injEq] at hs
      obtain ⟨rfl, rfl, rfl⟩ := hs
      refine ⟨by omega, ?_⟩
      rw [toUInt8_toNat]
      split_ifs at hnb ⊢ with h₂ h₃ h₃ <;> simp at h₂ ⊢ <;> omega
    · rw [replyWriteSingleCoil_value h hd] at hs
      exact absurd hs List.not_mem_nil
  · rw [replyWriteSingleCoil_illegal h] at hs
    exact absurd hs List.not_mem_nil

lemma asked_writeRegister {value : ℤ} (ha : (ClientCall.writeRegister addr value).Addressed)
    (hm : HoldsPdu b req (ClientCall.writeRegister addr value).pdu)
    (hs : .store t i v ∈ (replyBuild b req n mb).accesses) :
    (ClientCall.writeRegister addr value).Asks t i v := by
  obtain ⟨⟨h₀, h₁⟩, hv₀, hv₁⟩ := ha
  obtain ⟨hf, haddr, hnb⟩ := @HoldsPdu.fields _ _ _ addr _ [] hm (by decide)
  rw [replyBuild_writeSingleRegister hf] at hs
  rcases Nat.lt_or_ge (requestAddress b req) mb.nbRegisters with h | h
  · rw [replyWriteSingleRegister_legal h] at hs
    simp only [List.mem_singleton, Access.store.injEq] at hs
    obtain ⟨rfl, rfl, rfl⟩ := hs
    refine ⟨by omega, ?_⟩
    have hword : (wordAt req (b.headerLength + 3)).toNat = requestNb b req :=
      UInt16.toNat_ofNat_of_lt' (word_lt _ _)
    rw [hword]
    omega
  · rw [replyWriteSingleRegister_illegal h] at hs
    exact absurd hs List.not_mem_nil

lemma asked_writeBits {nb : ℤ} {src : Mem UInt8}
    (ha : (ClientCall.writeBits addr nb src).Addressed)
    (hc : (ClientCall.writeBits addr nb src).CountsFrom 0)
    (hm : HoldsPdu b req (ClientCall.writeBits addr nb src).pdu)
    (hs : .store t i v ∈ (replyBuild b req n mb).accesses) :
    (ClientCall.writeBits addr nb src).Asks t i v := by
  obtain ⟨hf, haddr, hnb⟩ := hm.fields_toNat (by decide) ha ⟨hc.1, hc.2.trans_lt (by decide)⟩
  rw [replyBuild_writeMultipleCoils hf] at hs
  rcases Nat.lt_or_ge mb.nbBits (requestAddress b req + requestNb b req) with h | h
  · rw [replyWriteMultipleCoils_illegal h] at hs
    exact absurd hs List.not_mem_nil
  · rw [replyWriteMultipleCoils_legal h] at hs
    obtain ⟨rfl, hi, rfl⟩ := mem_bitStores hs
    rw [List.mem_range'_1] at hi
    have ha₀ : 0 ≤ addr := ha.1
    refine ⟨i - requestAddress b req, by omega, by omega, ?_⟩
    rw [writeBits_flag hm (by omega), toUInt8_toNat]
    simp

lemma asked_words {address first nb : ℕ} {src : Mem UInt16} (h₀ : 0 ≤ addr)
    (haddr : address = addr.toNat) (hwords : ∀ k < nb, wordAt req (first + 2 * k) = src k)
    (hs : .store t i v ∈ registerStores ((List.range' address nb).map fun j =>
      (j, wordAt req (first + 2 * (j - address))))) :
    t = .registers ∧ ∃ k : ℕ, k < nb ∧ (i : ℤ) = addr + k ∧ v = (src k).toNat := by
  obtain ⟨rfl, hi, rfl⟩ := mem_registerStores hs
  rw [List.mem_range'_1] at hi
  refine ⟨rfl, i - address, by omega, by omega, ?_⟩
  rw [hwords _ (by omega)]

lemma asked_writeRegisters {nb : ℤ} {src : Mem UInt16}
    (ha : (ClientCall.writeRegisters addr nb src).Addressed)
    (hc : (ClientCall.writeRegisters addr nb src).CountsFrom 0)
    (hm : HoldsPdu b req (ClientCall.writeRegisters addr nb src).pdu)
    (hs : .store t i v ∈ (replyBuild b req n mb).accesses) :
    (ClientCall.writeRegisters addr nb src).Asks t i v := by
  obtain ⟨hf, haddr, hnb⟩ := hm.fields_toNat (by decide) ha ⟨hc.1, hc.2.trans_lt (by decide)⟩
  rw [replyBuild_writeMultipleRegisters hf] at hs
  rcases Nat.lt_or_ge mb.nbRegisters (requestAddress b req + requestNb b req) with h | h
  · rw [replyWriteMultipleRegisters_illegal h] at hs
    exact absurd hs List.not_mem_nil
  · rw [replyWriteMultipleRegisters_legal h] at hs
    obtain ⟨rfl, k, hk, hi, hv⟩ := asked_words ha.1 haddr
      (fun k hk => writeRegisters_word hm (by omega)) hs
    exact ⟨k, by omega, hi, hv⟩

lemma asked_writeAndReadRegisters {nb readAddr readNb : ℤ} {src : Mem UInt16}
    (ha : (ClientCall.writeAndReadRegisters addr nb src readAddr readNb).Addressed)
    (hc : (ClientCall.writeAndReadRegisters addr nb src readAddr readNb).CountsFrom 0)
    (hm : HoldsPdu b req (ClientCall.writeAndReadRegisters addr nb src readAddr readNb).pdu)
    (hs : .store t i v ∈ (replyBuild b req n mb).accesses) :
    (ClientCall.writeAndReadRegisters addr nb src readAddr readNb).Asks t i v := by
  obtain ⟨⟨h₀, h₁⟩, -⟩ := ha
  obtain ⟨⟨hn₀, hn₁⟩, -⟩ := hc
  simp only [modbusMaxRwWriteRegisters] at hn₁
  obtain ⟨hf, -, -⟩ := hm.fields (by decide)
  obtain ⟨haddr, hnb⟩ := writeAndReadRegisters_fields hm
  rw [replyBuild_writeAndReadRegisters hf] at hs
  by_cases h : mb.nbRegisters < requestAddress b req + requestNb b req ∨
      mb.nbRegisters < requestAddressWrite b req + requestNbWrite b req
  · rw [replyWriteAndReadRegisters_illegal h] at hs
    exact absurd hs List.not_mem_nil
  · rw [not_or, Nat.not_lt, Nat.not_lt] at h
    rw [replyWriteAndReadRegisters_legal h.1 h.2] at hs
    rcases List.mem_append.mp hs with hs | hs
    · obtain ⟨rfl, k, hk, hi, hv⟩ := asked_words h₀ (by omega)
        (fun k hk => writeAndReadRegisters_word hm (by omega)) hs
      exact ⟨k, by omega, hi, hv⟩
    · exact absurd hs store_not_mem_loads

lemma replyBuild_asked {call : ClientCall} (ha : call.Addressed) (hc : call.CountsFrom 0)
    (hm : HoldsPdu b req call.pdu) (hs : .store t i v ∈ (replyBuild b req n mb).accesses) :
    call.Asks t i v := by
  cases call with
  | readBits addr nb =>
    obtain ⟨hf, -⟩ := @HoldsPdu.fields _ _ _ addr nb [] hm (by decide)
    exact absurd hs (no_store_readIoStatus (.inl ⟨hf, rfl, rfl⟩))
  | readInputBits addr nb =>
    obtain ⟨hf, -⟩ := @HoldsPdu.fields _ _ _ addr nb [] hm (by decide)
    exact absurd hs (no_store_readIoStatus (.inr ⟨hf, rfl, rfl⟩))
  | readRegisters addr nb =>
    obtain ⟨hf, -⟩ := @HoldsPdu.fields _ _ _ addr nb [] hm (by decide)
    exact absurd hs (no_store_readRegisters (.inl ⟨hf, rfl, rfl⟩))
  | readInputRegisters addr nb =>
    obtain ⟨hf, -⟩ := @HoldsPdu.fields _ _ _ addr nb [] hm (by decide)
    exact absurd hs (no_store_readRegisters (.inr ⟨hf, rfl, rfl⟩))
  | writeBit addr status => exact asked_writeBit ha hm hs
  | writeRegister addr value => exact asked_writeRegister ha hm hs
  | writeBits addr nb src => exact asked_writeBits ha hc hm hs
  | writeRegisters addr nb src => exact asked_writeRegisters ha hc hm hs
  | writeAndReadRegisters addr nb src readAddr readNb => exact asked_writeAndReadRegisters ha hc hm hs
  | reportSlaveId =>
    have hf : requestFunction b req = fcReportSlaveId := by
      rw [requestFunction, hm.function]
      rfl
    rw [replyBuild_reportSlaveId hf] at hs
    exact absurd hs List.not_mem_nil

end Replies

end LibModbus
