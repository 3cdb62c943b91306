import LibModbus.Client.Calls
import LibModbus.Library.Bits
import LibModbus.Library.Ranges
import LibModbus.Model.Reply

/-! The purpose of client and server together: a bank of four tables that answers requests. -/

namespace LibModbus

open Library

structure Bank where
  coils : List Bool
  inputs : List Bool
  registers : List UInt16
  inputRegisters : List UInt16

inductive Request where
  | readCoils (address nb : ℕ)
  | readInputs (address nb : ℕ)
  | readRegisters (address nb : ℕ)
  | readInputRegisters (address nb : ℕ)
  | writeCoils (address : ℕ) (values : List Bool)
  | writeRegisters (address : ℕ) (values : List UInt16)
  | exchange (addressWrite : ℕ) (values : List UInt16) (address nb : ℕ)

inductive Data where
  | flags (values : List Bool)
  | words (values : List UInt16)
  | written

namespace Bank

/-- Without all of the range it addresses, a request is refused and changes nothing. -/
def serve (bank : Bank) : Request → Option (Bank × Data)
  | .readCoils a n => (fetch bank.coils a n).map fun vs => (bank, .flags vs)
  | .readInputs a n => (fetch bank.inputs a n).map fun vs => (bank, .flags vs)
  | .readRegisters a n => (fetch bank.registers a n).map fun vs => (bank, .words vs)
  | .readInputRegisters a n => (fetch bank.inputRegisters a n).map fun vs => (bank, .words vs)
  | .writeCoils a vs => (splice bank.coils a vs).map fun coils => ({ bank with coils }, .written)
  | .writeRegisters a vs =>
    (splice bank.registers a vs).map fun registers => ({ bank with registers }, .written)
  | .exchange aw vs a n =>
    (splice bank.registers aw vs).bind fun registers =>
      (fetch registers a n).map fun data => ({ bank with registers }, .words data)

def step (bank : Bank) (request : Request) : Bank × Option Data :=
  match bank.serve request with
  | none => (bank, none)
  | some (bank', data) => (bank', some data)

lemma step_answer {bank : Bank} {request : Request} {data : Data}
    (h : (bank.step request).2 = some data) : ∃ bank', bank.serve request = some (bank', data) := by
  unfold step at h
  cases hs : bank.serve request with
  | none => simp [hs] at h
  | some r =>
    obtain ⟨bank', data'⟩ := r
    simp only [hs, Option.some.injEq] at h
    exact ⟨bank', by rw [h]⟩

def run (bank : Bank) : List Request → Bank × List (Option Data)
  | [] => (bank, [])
  | request :: requests =>
    let (bank, data) := bank.step request
    let (bank, answers) := bank.run requests
    (bank, data :: answers)

structure Represents (mb : Mapping) (bank : Bank) : Prop where
  coils : mb.tabBits.slice 0 mb.nbBits = bank.coils.map Bool.toUInt8
  inputs : mb.tabInputBits.slice 0 mb.nbInputBits = bank.inputs.map Bool.toUInt8
  registers : mb.tabRegisters.slice 0 mb.nbRegisters = bank.registers
  inputRegisters : mb.tabInputRegisters.slice 0 mb.nbInputRegisters = bank.inputRegisters

end Bank

def flagsOf (src : Mem UInt8) (nb : ℕ) : List Bool := (src.slice 0 nb).map fun x => decide (x ≠ 0)

namespace Mapping

structure Binary (mb : Mapping) : Prop where
  coils : ∀ i < mb.nbBits, mb.tabBits i = 0 ∨ mb.tabBits i = 1
  inputs : ∀ i < mb.nbInputBits, mb.tabInputBits i = 0 ∨ mb.tabInputBits i = 1

def bank (mb : Mapping) : Bank where
  coils := flagsOf mb.tabBits mb.nbBits
  inputs := flagsOf mb.tabInputBits mb.nbInputBits
  registers := mb.tabRegisters.slice 0 mb.nbRegisters
  inputRegisters := mb.tabInputRegisters.slice 0 mb.nbInputRegisters

end Mapping

lemma flagsOf_toUInt8 {src : Mem UInt8} {nb : ℕ} (h : ∀ i < nb, src i = 0 ∨ src i = 1) :
    (flagsOf src nb).map Bool.toUInt8 = src.slice 0 nb := by
  apply List.ext_getElem
  · simp [flagsOf]
  · intro k h₁ h₂
    simp only [Mem.slice_length] at h₂
    simp only [flagsOf, List.map_map, List.getElem_map, Mem.slice_getElem, Function.comp_apply,
      Nat.zero_add]
    exact toUInt8_decide_ne_zero (h k h₂)

lemma represents_bank {mb : Mapping} (h : mb.Binary) : Bank.Represents mb mb.bank :=
  ⟨(flagsOf_toUInt8 h.coils).symm, (flagsOf_toUInt8 h.inputs).symm, rfl, rfl⟩

namespace ClientCall

def meaning : ClientCall → Option Request
  | readBits addr nb => some (.readCoils addr.toNat nb.toNat)
  | readInputBits addr nb => some (.readInputs addr.toNat nb.toNat)
  | readRegisters addr nb => some (.readRegisters addr.toNat nb.toNat)
  | readInputRegisters addr nb => some (.readInputRegisters addr.toNat nb.toNat)
  | writeBit addr status => some (.writeCoils addr.toNat [decide (status ≠ 0)])
  | writeRegister addr value => some (.writeRegisters addr.toNat [UInt16.ofInt value])
  | writeBits addr nb src => some (.writeCoils addr.toNat (flagsOf src nb.toNat))
  | writeRegisters addr nb src => some (.writeRegisters addr.toNat (src.slice 0 nb.toNat))
  | writeAndReadRegisters writeAddr writeNb src readAddr readNb =>
    some (.exchange writeAddr.toNat (src.slice 0 writeNb.toNat) readAddr.toNat readNb.toNat)
  | reportSlaveId => none

/-- The addresses and values of a call are the sixteen bit numbers that a request can hold. -/
def Addressed : ClientCall → Prop
  | readBits addr _ | readInputBits addr _ | readRegisters addr _ | readInputRegisters addr _
  | writeBit addr _ | writeBits addr _ _ | writeRegisters addr _ _ => 0 ≤ addr ∧ addr < 65536
  | writeRegister addr value => (0 ≤ addr ∧ addr < 65536) ∧ 0 ≤ value ∧ value < 65536
  | writeAndReadRegisters writeAddr _ _ readAddr _ =>
    (0 ≤ writeAddr ∧ writeAddr < 65536) ∧ 0 ≤ readAddr ∧ readAddr < 65536
  | reportSlaveId => True

instance : (call : ClientCall) → Decidable call.Addressed
  | readBits _ _ | readInputBits _ _ | readRegisters _ _ | readInputRegisters _ _
  | writeBit _ _ | writeBits _ _ _ | writeRegisters _ _ _ => inferInstanceAs (Decidable (_ ∧ _))
  | writeRegister _ _ | writeAndReadRegisters _ _ _ _ _ => inferInstanceAs (Decidable ((_ ∧ _) ∧ _ ∧ _))
  | reportSlaveId => inferInstanceAs (Decidable True)

def count : ClientCall → ℤ
  | readBits _ nb | readInputBits _ nb | readRegisters _ nb | readInputRegisters _ nb
  | writeBits _ nb _ | writeRegisters _ nb _ | writeAndReadRegisters _ _ _ _ nb => nb
  | writeBit _ _ | writeRegister _ _ => 1
  | reportSlaveId => 0

end ClientCall

end LibModbus
