import LibModbus.Framing.Adu

/-! The shapes of requests and responses, as far as the lengths in them are concerned. -/

namespace LibModbus

open Library

section Head

variable {b : Backend} {m : Mem UInt8} {f : UInt8} {rest : List UInt8}

lemma HoldsPdu.function (h : HoldsPdu b m (f :: rest)) : m b.headerLength = f :=
  h 0 (by simp)

lemma HoldsPdu.get (h : HoldsPdu b m (f :: rest)) {j : ℕ} (hj : j < rest.length) :
    m (b.headerLength + (j + 1)) = rest[j] :=
  h (j + 1) (by simpa using hj)

lemma HoldsPdu.behind {head data : List UInt8} (h : HoldsPdu b m (head ++ data)) {k : ℕ}
    (hk : k < data.length) : m (b.headerLength + (head.length + k)) = data[k] := by
  rw [h _ (by rw [List.length_append]; omega), List.getElem_append_right (by omega)]
  simp

lemma HoldsPdu.counted {n : UInt8} {data : List UInt8} (h : HoldsPdu b m (f :: n :: data)) (k : ℕ)
    (hk : k < data.length) : m (b.headerLength + 2 + k) = data[k] := by
  rw [Nat.add_assoc]
  exact @HoldsPdu.behind b m [f, n] data h k hk

lemma HoldsPdu.slice {pdu : List UInt8} (h : HoldsPdu b m pdu) {n : ℕ} (hn : n ≤ pdu.length) :
    m.slice b.headerLength n = pdu.take n := by
  apply List.ext_getElem
  · simp [hn]
  · intro k h₁ h₂
    rw [Mem.slice_length] at h₁
    rw [Mem.slice_getElem, h k (by omega), List.getElem_take]

end Head

section Indications

variable {f x₁ x₂ x₃ x₄ x₅ x₆ x₇ x₈ n : UInt8} {data : List UInt8}

lemma selfSized_single (hf : f.toNat ≤ fcWriteSingleRegister) :
    SelfSized .indication [f, x₁, x₂, x₃, x₄] := by
  intro b m hm
  have h₁ : ¬(f.toNat = fcWriteMultipleCoils ∨ f.toNat = fcWriteMultipleRegisters) := by
    simp only [fcWriteSingleRegister, fcWriteMultipleCoils, fcWriteMultipleRegisters] at *
    omega
  have h₂ : f.toNat ≠ fcWriteAndReadRegisters := by
    simp only [fcWriteSingleRegister, fcWriteAndReadRegisters] at *
    omega
  simp only [frameLength, headLength, computeMetaLengthAfterFunction, computeDataLengthAfterMeta,
    computeDataLength, hm.function, if_pos hf, if_neg h₁, if_neg h₂, List.length_cons,
    List.length_nil]
  omega

lemma selfSized_multiple (hf : f.toNat = fcWriteMultipleCoils ∨ f.toNat = fcWriteMultipleRegisters)
    (hn : n.toNat = data.length) :
    SelfSized .indication (f :: x₁ :: x₂ :: x₃ :: x₄ :: n :: data) := by
  intro b m hm
  have h₁ : ¬f.toNat ≤ fcWriteSingleRegister := by
    rcases hf with hf | hf <;> rw [hf] <;> decide
  have hc : m (b.headerLength + 5) = n := hm.get (j := 4) (by simp)
  simp only [frameLength, headLength, computeMetaLengthAfterFunction, computeDataLengthAfterMeta,
    computeDataLength, hm.function, if_pos hf, if_neg h₁, hc, hn, List.length_cons]
  omega

lemma selfSized_writeAndRead (hf : f.toNat = fcWriteAndReadRegisters) (hn : n.toNat = data.length) :
    SelfSized .indication (f :: x₁ :: x₂ :: x₃ :: x₄ :: x₅ :: x₆ :: x₇ :: x₈ :: n :: data) := by
  intro b m hm
  have hc : m (b.headerLength + 9) = n := hm.get (j := 8) (by simp)
  simp [frameLength, headLength, computeMetaLengthAfterFunction, computeDataLengthAfterMeta,
    computeDataLength, hm.function, hf, hc, hn]
  omega

lemma selfSized_bare (h₁ : fcWriteSingleRegister < f.toNat) (h₂ : f.toNat ≠ fcWriteMultipleCoils)
    (h₃ : f.toNat ≠ fcWriteMultipleRegisters) (h₄ : f.toNat ≠ fcWriteAndReadRegisters) :
    SelfSized .indication [f] := by
  intro b m hm
  simp only [frameLength, headLength, computeMetaLengthAfterFunction, computeDataLengthAfterMeta,
    computeDataLength, hm.function, if_neg (Nat.not_le.mpr h₁), h₂, h₃, h₄, or_self, if_false,
    List.length_cons, List.length_nil]
  omega

end Indications

section Confirmations

variable {f x₁ x₂ x₃ x₄ n : UInt8} {data : List UInt8}

lemma selfSized_echo (hf : f.toNat = fcWriteSingleCoil ∨ f.toNat = fcWriteSingleRegister ∨
    f.toNat = fcWriteMultipleCoils ∨ f.toNat = fcWriteMultipleRegisters) :
    SelfSized .confirmation [f, x₁, x₂, x₃, x₄] := by
  intro b m hm
  rcases hf with hf | hf | hf | hf <;>
    simp [frameLength, headLength, computeMetaLengthAfterFunction, computeDataLengthAfterMeta,
      computeDataLength, hm.function, hf]

lemma selfSized_counted (hf : f.toNat ≤ fcReadInputRegisters ∨ f.toNat = fcReportSlaveId ∨
    f.toNat = fcWriteAndReadRegisters) (hn : n.toNat = data.length) :
    SelfSized .confirmation (f :: n :: data) := by
  intro b m hm
  have hc : m (b.headerLength + 1) = n := hm.get (j := 0) (by simp)
  have hw : ¬(f.toNat = fcWriteSingleCoil ∨ f.toNat = fcWriteSingleRegister ∨
      f.toNat = fcWriteMultipleCoils ∨ f.toNat = fcWriteMultipleRegisters) := by
    simp at hf ⊢
    omega
  simp only [frameLength, headLength, computeMetaLengthAfterFunction, computeDataLengthAfterMeta,
    computeDataLength, hm.function, if_pos hf, if_neg hw, hc, hn, List.length_cons]
  omega

lemma frameLength_counted {b : Backend} {m : Mem UInt8}
    (hf : (m b.headerLength).toNat ≤ fcReadInputRegisters ∨
      (m b.headerLength).toNat = fcReportSlaveId ∨
      (m b.headerLength).toNat = fcWriteAndReadRegisters) :
    frameLength b .confirmation m =
      b.headerLength + 2 + (m (b.headerLength + 1)).toNat + b.checksumLength := by
  have hheld : HoldsPdu b m (m.slice b.headerLength (2 + (m (b.headerLength + 1)).toNat)) :=
    fun j hj => (m.slice_getElem _ _ _ hj).symm
  have hdata : m.slice b.headerLength (2 + (m (b.headerLength + 1)).toNat) =
      m b.headerLength :: m (b.headerLength + 1) ::
        m.slice (b.headerLength + 2) (m (b.headerLength + 1)).toNat := by
    rw [show 2 + (m (b.headerLength + 1)).toNat = (m (b.headerLength + 1)).toNat + 1 + 1 by omega,
      Mem.slice_succ, Mem.slice_succ]
  rw [hdata] at hheld
  rw [selfSized_counted hf (Mem.slice_length _ _ _).symm b m hheld, List.length_cons,
    List.length_cons, Mem.slice_length]
  omega

lemma selfSized_other (h₁ : ¬(f.toNat = fcWriteSingleCoil ∨ f.toNat = fcWriteSingleRegister ∨
      f.toNat = fcWriteMultipleCoils ∨ f.toNat = fcWriteMultipleRegisters))
    (h₂ : ¬(f.toNat ≤ fcReadInputRegisters ∨ f.toNat = fcReportSlaveId ∨
      f.toNat = fcWriteAndReadRegisters)) : SelfSized .confirmation [f, n] := by
  intro b m hm
  simp only [frameLength, headLength, computeMetaLengthAfterFunction, computeDataLengthAfterMeta,
    computeDataLength, hm.function, if_neg h₁, if_neg h₂, List.length_cons, List.length_nil]
  omega

lemma selfSized_exception (hf : 0x80 ≤ f.toNat) : SelfSized .confirmation [f, n] := by
  refine selfSized_other ?_ ?_
  all_goals
    simp
    omega

end Confirmations

end LibModbus
