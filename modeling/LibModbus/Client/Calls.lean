import LibModbus.Framing.Pdu
import LibModbus.Model.Client

/-! The calls a client can make, and the requests they send. -/

namespace LibModbus

open Library

inductive ClientCall where
  | readBits (addr nb : ℤ)
  | readInputBits (addr nb : ℤ)
  | readRegisters (addr nb : ℤ)
  | readInputRegisters (addr nb : ℤ)
  | writeBit (addr status : ℤ)
  | writeRegister (addr value : ℤ)
  | writeBits (addr nb : ℤ) (src : Mem UInt8)
  | writeRegisters (addr nb : ℤ) (src : Mem UInt16)
  | writeAndReadRegisters (writeAddr writeNb : ℤ) (src : Mem UInt16) (readAddr readNb : ℤ)
  | reportSlaveId

namespace ClientCall

def operation : ClientCall → Operation
  | readBits addr nb => modbusReadBits addr nb
  | readInputBits addr nb => modbusReadInputBits addr nb
  | readRegisters addr nb => modbusReadRegisters addr nb
  | readInputRegisters addr nb => modbusReadInputRegisters addr nb
  | writeBit addr status => modbusWriteBit addr status
  | writeRegister addr value => modbusWriteRegister addr value
  | writeBits addr nb src => modbusWriteBits addr nb src
  | writeRegisters addr nb src => modbusWriteRegisters addr nb src
  | writeAndReadRegisters writeAddr writeNb src readAddr readNb =>
    modbusWriteAndReadRegisters writeAddr writeNb src readAddr readNb
  | reportSlaveId => modbusReportSlaveId

def CountsFrom (least : ℤ) : ClientCall → Prop
  | readBits _ nb | readInputBits _ nb => least ≤ nb ∧ nb ≤ modbusMaxReadBits
  | readRegisters _ nb | readInputRegisters _ nb => least ≤ nb ∧ nb ≤ modbusMaxReadRegisters
  | writeBits _ nb _ => least ≤ nb ∧ nb ≤ modbusMaxWriteBits
  | writeRegisters _ nb _ => least ≤ nb ∧ nb ≤ modbusMaxWriteRegisters
  | writeAndReadRegisters _ writeNb _ _ readNb =>
    (least ≤ writeNb ∧ writeNb ≤ modbusMaxRwWriteRegisters) ∧
      least ≤ readNb ∧ readNb ≤ modbusMaxReadRegisters
  | writeBit _ _ | writeRegister _ _ | reportSlaveId => True

instance (least : ℤ) : (call : ClientCall) → Decidable (call.CountsFrom least)
  | readBits _ _ | readInputBits _ _ | readRegisters _ _ | readInputRegisters _ _
  | writeBits _ _ _ | writeRegisters _ _ _ => inferInstanceAs (Decidable (_ ∧ _))
  | writeAndReadRegisters _ _ _ _ _ => inferInstanceAs (Decidable ((_ ∧ _) ∧ _ ∧ _))
  | writeBit _ _ | writeRegister _ _ | reportSlaveId => inferInstanceAs (Decidable True)

def basisPdu (function : ℕ) (addr nb : ℤ) : List UInt8 :=
  [UInt8.ofInt function, hiByte addr, loByte addr, hiByte nb, loByte nb]

def pdu : ClientCall → List UInt8
  | readBits addr nb => basisPdu fcReadCoils addr nb
  | readInputBits addr nb => basisPdu fcReadDiscreteInputs addr nb
  | readRegisters addr nb => basisPdu fcReadHoldingRegisters addr nb
  | readInputRegisters addr nb => basisPdu fcReadInputRegisters addr nb
  | writeBit addr status => basisPdu fcWriteSingleCoil addr (if status ≠ 0 then 0xFF00 else 0)
  | writeRegister addr value => basisPdu fcWriteSingleRegister addr value
  | writeBits addr nb src => basisPdu fcWriteMultipleCoils addr nb ++
    UInt8.ofInt (bitByteCount nb) :: packBytesLoop nb src (bitByteCount nb).toNat 0 0
  | writeRegisters addr nb src => basisPdu fcWriteMultipleRegisters addr nb ++
    UInt8.ofInt (nb * 2) :: packRegisters src nb.toNat
  | writeAndReadRegisters writeAddr writeNb src readAddr readNb =>
    basisPdu fcWriteAndReadRegisters readAddr readNb ++
      hiByte writeAddr :: loByte writeAddr :: hiByte writeNb :: loByte writeNb ::
      UInt8.ofInt (writeNb * 2) :: packRegisters src writeNb.toNat
  | reportSlaveId => [UInt8.ofInt fcReportSlaveId]

end ClientCall

def nextRequest (ctx : Modbus) : Modbus :=
  match ctx.backend with
  | .rtu => ctx
  | .tcp | .tcpPi => { ctx with tId := if ctx.tId < 65535 then ctx.tId + 1 else 0 }

def requestHeader (ctx : Modbus) : List UInt8 :=
  match ctx.backend with
  | .rtu => [UInt8.ofInt ctx.slave]
  | .tcp | .tcpPi =>
    [hiByte (nextRequest ctx).tId, loByte (nextRequest ctx).tId, 0, 0, 0, 0, UInt8.ofInt ctx.slave]

lemma requestHeader_length (ctx : Modbus) :
    (requestHeader ctx).length = ctx.backend.headerLength := by
  unfold requestHeader
  cases ctx.backend <;> rfl

lemma requestHeader_rtu {ctx : Modbus} (h : ctx.backend = .rtu) :
    requestHeader ctx = [UInt8.ofInt ctx.slave] := by
  simp only [requestHeader, h]

@[simp] lemma nextRequest_backend (ctx : Modbus) : (nextRequest ctx).backend = ctx.backend := by
  unfold nextRequest
  cases hb : ctx.backend <;> simp [hb]

@[simp] lemma nextRequest_slave (ctx : Modbus) : (nextRequest ctx).slave = ctx.slave := by
  unfold nextRequest
  cases ctx.backend <;> rfl

@[simp] lemma nextRequest_errorRecovery (ctx : Modbus) :
    (nextRequest ctx).errorRecovery = ctx.errorRecovery := by
  unfold nextRequest
  cases ctx.backend <;> rfl

lemma buildRequestBasis_eq (ctx : Modbus) (function : ℕ) (addr nb : ℤ) :
    buildRequestBasis ctx function addr nb =
      (nextRequest ctx, requestHeader ctx ++ ClientCall.basisPdu function addr nb) := by
  unfold buildRequestBasis requestHeader nextRequest
  cases hb : ctx.backend <;>
    simp [rtuBuildRequestBasis, tcpBuildRequestBasis, ClientCall.basisPdu, hb]

namespace ClientCall

lemma build_eq (call : ClientCall) (ctx : Modbus) :
    call.operation.build ctx = (nextRequest ctx, requestHeader ctx ++ call.pdu) := by
  cases call with
  | readBits | readInputBits | readRegisters | readInputRegisters | writeBit | writeRegister =>
    exact buildRequestBasis_eq ctx _ _ _
  | writeBits | writeRegisters | writeAndReadRegisters =>
    simp only [operation, modbusWriteBits, modbusWriteRegisters, modbusWriteAndReadRegisters,
      requestWith, buildRequestBasis_eq, pdu, List.append_assoc]
  | reportSlaveId =>
    simp only [operation, modbusReportSlaveId, buildRequestBasis_eq, pdu, basisPdu,
      List.length_append, List.length_cons, List.length_nil]
    rw [show (requestHeader ctx).length + (0 + 1 + 1 + 1 + 1 + 1) - 4 = (requestHeader ctx).length + 1
      by omega, List.take_length_add_append]
    rfl

lemma issue_eq {call : ClientCall} (h : call.operation.tooMany = false) (w : World) :
    call.operation.issue w =
      sendMsg (requestHeader w.ctx ++ call.pdu) { w with ctx := nextRequest w.ctx } := by
  rw [Operation.issue, h, if_neg (by decide), bind_getCtx, call.build_eq]
  rfl

lemma ofInt_toNat {x : ℤ} (h₀ : 0 ≤ x) (h : x < 256) : ((UInt8.ofInt x).toNat : ℤ) = x := by
  rw [toNat_ofInt, Int.emod_eq_of_lt h₀ h]

lemma bitByteCount_eq {nb : ℤ} (h : 0 ≤ nb) : bitByteCount nb = (nb + 7) / 8 := by
  unfold bitByteCount
  rw [Int.tdiv_eq_ediv_of_nonneg h, Int.tmod_eq_emod_of_nonneg h]
  split_ifs <;> omega

lemma bitByteCount_natCast (n : ℕ) : (bitByteCount n).toNat = (n + 7) / 8 := by
  rw [bitByteCount_eq (by omega)]
  omega

lemma packBytesLoop_length (nb : ℤ) (src : Mem UInt8) (n bitCheck pos : ℕ) :
    (packBytesLoop nb src n bitCheck pos).length = n := by
  induction n generalizing bitCheck pos with
  | zero => rfl
  | succ n ih => rw [packBytesLoop, List.length_cons, ih]

lemma packRegisters_length (src : Mem UInt16) (nb : ℕ) : (packRegisters src nb).length = 2 * nb := by
  simp [packRegisters, List.length_flatMap]
  omega

variable {call : ClientCall}

lemma selfSized_pdu (h : call.CountsFrom 0) : SelfSized .indication call.pdu := by
  cases call with
  | readBits | readInputBits | readRegisters | readInputRegisters | writeBit | writeRegister =>
    exact selfSized_single (by decide)
  | writeBits addr nb src =>
    obtain ⟨h₀, h₁⟩ := h
    apply selfSized_multiple (by decide)
    have hc := bitByteCount_eq h₀
    have hn := ofInt_toNat (x := bitByteCount nb) (by omega) (by simp at h₁; omega)
    rw [packBytesLoop_length]
    omega
  | writeRegisters addr nb src =>
    obtain ⟨h₀, h₁⟩ := h
    apply selfSized_multiple (by decide)
    have hn := ofInt_toNat (x := nb * 2) (by omega) (by simp at h₁; omega)
    rw [packRegisters_length]
    omega
  | writeAndReadRegisters writeAddr writeNb src readAddr readNb =>
    obtain ⟨⟨h₀, h₁⟩, -⟩ := h
    apply selfSized_writeAndRead (by decide)
    have hn := ofInt_toNat (x := writeNb * 2) (by omega) (by simp at h₁; omega)
    rw [packRegisters_length]
    omega
  | reportSlaveId =>
    exact selfSized_bare (by decide) (by decide) (by decide) (by decide)

lemma pdu_pos (call : ClientCall) : 0 < call.pdu.length := by
  cases call <;> exact Nat.succ_pos _

lemma pdu_length (h : call.CountsFrom 0) : call.pdu.length ≤ maxPduLength := by
  cases call with
  | readBits | readInputBits | readRegisters | readInputRegisters | writeBit | writeRegister
  | reportSlaveId => simp [pdu, basisPdu, maxPduLength]
  | writeBits addr nb src =>
    obtain ⟨h₀, h₁⟩ := h
    simp [pdu, basisPdu, maxPduLength, packBytesLoop_length, bitByteCount_eq h₀] at h₁ ⊢
    omega
  | writeRegisters addr nb src =>
    obtain ⟨h₀, h₁⟩ := h
    simp [pdu, basisPdu, maxPduLength, packRegisters_length] at h₁ ⊢
    omega
  | writeAndReadRegisters writeAddr writeNb src readAddr readNb =>
    obtain ⟨⟨h₀, h₁⟩, -⟩ := h
    simp [pdu, basisPdu, maxPduLength, packRegisters_length] at h₁ ⊢
    omega

end ClientCall

end LibModbus
