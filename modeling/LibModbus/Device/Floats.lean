import LibModbus.Device.Live
import LibModbus.Device.Positions

/-! Floating-point values that the program of the server puts into its registers, on their way to a device. -/

namespace LibModbus

open Library Library.Prog

section Arrays

/-- `modbus_set_float` for one value after the other, two registers each. -/
def setFloats (tab : Mem UInt16) (start : ℕ) : List (BitVec 32) → Mem UInt16
  | [] => tab
  | f :: fs => setFloats (modbusSetFloat f tab start) (start + 2) fs

variable {tab : Mem UInt16} {start : ℕ} {fs : List (BitVec 32)}

lemma setFloats_below {i : ℕ} (hi : i < start) : setFloats tab start fs i = tab i := by
  induction fs generalizing tab start with
  | nil => rfl
  | cons f fs ih =>
    rw [setFloats, ih (by omega), modbusSetFloat, Mem.store_of_ne _ _ (by omega),
      Mem.store_of_ne _ _ (by omega)]

lemma setFloats_apply (tab : Mem UInt16) (start : ℕ) {j : ℕ} (hj : j < fs.length) :
    setFloats tab start fs (start + 2 * j) = UInt16.ofNat fs[j].toNat ∧
      setFloats tab start fs (start + 2 * j + 1) = UInt16.ofNat (fs[j].toNat >>> 16) := by
  induction fs generalizing tab start j with
  | nil => cases hj
  | cons f fs ih =>
    rw [setFloats]
    cases j with
    | zero =>
      rw [setFloats_below (by omega), setFloats_below (by omega), modbusSetFloat, Mem.store_self,
        Mem.store_of_ne _ _ (by omega), Nat.mul_zero, Nat.add_zero, Mem.store_self]
      exact ⟨rfl, rfl⟩
    | succ j =>
      have h := @ih (modbusSetFloat f tab start) (start + 2) j (by simpa using hj)
      rw [show start + 2 + 2 * j = start + 2 * (j + 1) by omega] at h
      exact h

lemma halves_toNat (f : BitVec 32) : (UInt16.ofNat f.toNat).toNat + (UInt16.ofNat (f.toNat >>> 16)).toNat * 65536 =
    f.toNat := by
  have hlt := f.isLt
  rw [UInt16.toNat_ofNat', UInt16.toNat_ofNat', Nat.shiftRight_eq_div_pow]
  omega

lemma getFloat_setFloats {j : ℕ} (hj : j < fs.length) :
    modbusGetFloat (fun i => setFloats tab start fs (start + 2 * j + i)) = fs[j] := by
  obtain ⟨hlow, hhigh⟩ := setFloats_apply tab start hj
  apply BitVec.eq_of_toNat_eq
  have h := halves_toNat fs[j]
  have hlt := fs[j].isLt
  rw [modbusGetFloat, show start + 2 * j + 0 = start + 2 * j from rfl, hlow, hhigh, BitVec.toNat_ofNat, Nat.shiftLeft_eq]
  omega

end Arrays

section Banks

variable {bank : Bank}

lemma step_inputRegisters (bank : Bank) (request : Request) :
    (bank.step request).1.inputRegisters = bank.inputRegisters := by
  unfold Bank.step
  cases hs : bank.serve request with
  | none => rfl
  | some r =>
    cases request with
    | readCoils | readInputs | readRegisters | readInputRegisters | writeCoils | writeRegisters =>
      obtain ⟨_, -, rfl⟩ := Option.map_eq_some_iff.mp hs
      rfl
    | exchange =>
      obtain ⟨_, -, hs⟩ := Option.bind_eq_some_iff.mp hs
      obtain ⟨_, -, rfl⟩ := Option.map_eq_some_iff.mp hs
      rfl

lemma run_inputRegisters (bank : Bank) (requests : List Request) :
    (bank.run requests).1.inputRegisters = bank.inputRegisters := by
  induction requests generalizing bank with
  | nil => rfl
  | cons request requests ih =>
    rw [Bank.run]
    exact (ih _).trans (step_inputRegisters bank request)

end Banks

namespace ModbusDevice

def registersOf (type : ModbusRegisterType) (bank : Bank) : List UInt16 :=
  if type = .input then bank.inputRegisters else bank.registers

def tableOf (type : ModbusRegisterType) (mb : Mapping) : Mem UInt16 :=
  if type = .input then mb.tabInputRegisters else mb.tabRegisters

def putFloats (sys : System) (type : ModbusRegisterType) (start : ℕ) (fs : List (BitVec 32)) : System :=
  { sys with mapping :=
      if type = .input then
        { sys.mapping with tabInputRegisters := setFloats sys.mapping.tabInputRegisters start fs }
      else { sys.mapping with tabRegisters := setFloats sys.mapping.tabRegisters start fs } }

variable {sys : System} {start : ℕ} {fs : List (BitVec 32)} {type : ModbusRegisterType}

lemma registersRead_floats (buffer tab : Mem UInt16) (start : ℕ) (fs : List (BitVec 32)) :
    registersRead 4 fs.length .littleEndian
      (buffer.write 0 ((setFloats tab start fs).slice start (2 * fs.length))) = fs := by
  refine List.ext_getElem (registersRead_length _) fun j h₁ h₂ => BitVec.eq_of_toNat_eq ?_
  have hword (i : ℕ) (hi : i < 2 * fs.length) :
      buffer.write 0 ((setFloats tab start fs).slice start (2 * fs.length)) i =
        setFloats tab start fs (start + i) := by
    rw [Mem.write_apply, dif_pos ⟨Nat.zero_le _, by simpa using hi⟩, Mem.slice_getElem]
    rfl
  obtain ⟨hlow, hhigh⟩ := setFloats_apply tab start h₂
  refine (@toNat_littleEndian _ 2 _ j h₁).trans ?_
  rw [wordsValue, Finset.sum_range_succ, Finset.sum_range_one, hword _ (by omega), hword _ (by omega),
    Nat.add_zero, Nat.mul_comm j 2, hlow, ← Nat.add_assoc, hhigh, Nat.pow_zero, Nat.mul_one, Nat.pow_one]
  exact halves_toNat _

lemma visit_map {α β : Type} (v : Visit) (m : M α) (g : α → β) :
    sys.visit v (do let a ← m; return g a) = (sys.visit v m).map fun r => (g r.1, r.2) := by
  have hstate (w : World) : ((do let a ← m; return g a : M β) w).state = (m w).state := by
    rw [bind_apply]
    cases m w <;> rfl
  unfold System.visit
  dsimp only
  rw [hstate]
  split
  · rfl
  · rw [bind_apply]
    generalize m _ = o
    cases o <;> rfl

lemma putFloats_linked (hl : sys.Linked) : (putFloats sys type start fs).Linked :=
  ⟨hl.backend, hl.slave, hl.clientRx, hl.clientTx, hl.receiving, hl.serverRx, hl.serverTx⟩

lemma putFloats_binary (type : ModbusRegisterType) (start : ℕ) (fs : List (BitVec 32))
    (hb : sys.mapping.Binary) : (putFloats sys type start fs).mapping.Binary := by
  unfold putFloats
  dsimp only
  split_ifs <;> exact ⟨hb.coils, hb.inputs⟩

lemma putFloats_table : tableOf type (putFloats sys type start fs).mapping =
    setFloats (tableOf type sys.mapping) start fs := by
  unfold tableOf putFloats
  split_ifs <;> rfl

lemma putFloats_fetch (hroom : start + 2 * fs.length ≤ (registersOf type sys.mapping.bank).length) :
    ∃ tab, fetch (registersOf type (putFloats sys type start fs).mapping.bank) start (2 * fs.length) =
      some ((setFloats tab start fs).slice start (2 * fs.length)) := by
  unfold registersOf putFloats at *
  by_cases htype : type = .input
  · rw [if_pos htype, Mapping.bank, Mem.slice_length] at hroom
    rw [if_pos htype, if_pos htype]
    exact ⟨_, fetch_slice hroom⟩
  · rw [if_neg htype, Mapping.bank, Mem.slice_length] at hroom
    rw [if_neg htype, if_neg htype]
    exact ⟨_, fetch_slice hroom⟩

lemma run_keeps {bank : Bank} {requests : List Request} {nb : ℕ}
    (hspares : type ≠ .input → ∀ request ∈ requests, request.Spares start nb) :
    fetch (registersOf type (bank.run requests).1) start nb = fetch (registersOf type bank) start nb := by
  unfold registersOf
  by_cases htype : type = .input
  · rw [if_pos htype, if_pos htype, run_inputRegisters]
  · rw [if_neg htype, if_neg htype]
    exact run_spares (hspares htype)

lemma visit_words {bank : Bank} {vs : List UInt16} {nb : ℕ} (hl : sys.Linked)
    (hrep : Bank.Represents sys.mapping bank) (hstart : start < 65536) (hpos : 0 < nb) (hmax : nb ≤ 125)
    (hfetch : fetch (registersOf type bank) start nb = some vs) (v : Visit) (stack : Mem UInt8)
    {α : Type} (f : Dest → α) :
    ∃ sys', sys.visit v (performing (modbusfunction type start nb) stack .couldNotRead
      fun buffer => return f buffer) =
        some (.ok (f ⟨emptyBuffer.bits, emptyBuffer.words.write 0 vs⟩), sys') := by
  unfold registersOf at hfetch
  by_cases htype : type = .input
  · rw [if_pos htype] at hfetch
    have hread : (bank.step (.readInputRegisters start nb)).2 = some (.words vs) := by
      rw [Bank.step, Bank.serve, hfetch]
      rfl
    obtain ⟨sys', hvisit, -⟩ := @visit_performing sys bank α hl hrep v (.readInputRegisters start nb) _
      rfl ⟨by omega, by omega⟩ ⟨by omega, by simp; omega⟩ stack .couldNotRead f
    rw [Int.toNat_natCast, Int.toNat_natCast, hread] at hvisit
    rw [modbusfunction, if_pos htype]
    exact ⟨sys', hvisit⟩
  · rw [if_neg htype] at hfetch
    have hread := step_readRegisters hfetch
    obtain ⟨sys', hvisit, -⟩ := @visit_performing sys bank α hl hrep v (.readRegisters start nb) _ rfl
      ⟨by omega, by omega⟩ ⟨by omega, by simp; omega⟩ stack .couldNotRead f
    rw [Int.toNat_natCast, Int.toNat_natCast, hread] at hvisit
    rw [modbusfunction, if_neg htype]
    exact ⟨sys', hvisit⟩

/-- Values that the program of the server puts into its registers with `modbus_set_float` are those that
`modbus_get_float` finds there and that `readRegisters` of a device returns in little-endian order, bit for
bit, whatever clients have done in between to other registers. -/
theorem floats_read (hl : sys.Linked) (hb : sys.mapping.Binary) (fs : List (BitVec 32)) (hne : fs ≠ [])
    (hmax : 2 * fs.length ≤ 125) (hstart : start < 65536)
    (hroom : start + 2 * fs.length ≤ (registersOf type sys.mapping.bank).length) (stack : Mem UInt8)
    (v : Visit) {between : List Exchange}
    (hspares : type ≠ .input → ∀ x ∈ between, x.request.Spares start (2 * fs.length)) :
    (∀ j (hj : j < fs.length), modbusGetFloat (fun i =>
      tableOf type (putFloats sys type start fs).mapping (start + 2 * j + i)) = fs[j]) ∧
    ∃ results sys₁ sys₂, (putFloats sys type start fs).run between = some (results, sys₁) ∧
      sys₁.visit v (readFloatingPointsBody 4 start fs.length type .littleEndian stack) =
        some (.ok fs, sys₂) := by
  have hpos : 0 < fs.length := List.length_pos_iff.mpr hne
  have hwords : wordCount 4 fs.length = 2 * fs.length := by
    rw [wordCount]
    omega
  obtain ⟨results, sys₁, hrun, hl₁, hrep₁⟩ :=
    run_linked (putFloats_linked hl) (represents_bank (putFloats_binary type start fs hb)) between
  have hall (htype : type ≠ .input) : ∀ request ∈ between.map Exchange.request,
      request.Spares start (2 * fs.length) := by
    intro request hr
    obtain ⟨x, hx, rfl⟩ := List.mem_map.mp hr
    exact hspares htype x hx
  obtain ⟨tab, hput⟩ := putFloats_fetch hroom
  have hkept := (run_keeps hall).trans hput
  obtain ⟨sys₂, hvisit⟩ := visit_words hl₁ hrep₁ hstart (by omega) hmax hkept v stack
    fun buffer => registersRead 4 fs.length .littleEndian buffer.words
  refine ⟨fun j hj => ?_, results, sys₁, sys₂, hrun, ?_⟩
  · rw [putFloats_table]
    exact getFloat_setFloats hj
  have hfit : FitsInt32 start := ⟨by omega, by omega⟩
  have hfitn : FitsInt32 (wordCount 4 fs.length) := ⟨by omega, by omega⟩
  rw [overloads_agree hfit hfitn (.inr (.inl rfl)), visit_map, readRegistersBody_performing hfit hfitn,
    hwords, hvisit, Option.map_some, registersRead_floats]
  rfl

def twoFloats : List (BitVec 32) := [0x3FC00000, 0xC0000000]

theorem floats_read_example : ∃ results sys₁ sys₂,
    (putFloats smallSystem .holding 2 twoFloats).run [writeNinth] = some (results, sys₁) ∧
      sys₁.visit losslessVisit (readFloatingPointsBody 4 2 2 .holding .littleEndian fun _ => 0) =
        some (.ok twoFloats, sys₂) := by
  have hspares : ∀ x ∈ [writeNinth], x.request.Spares 2 (2 * twoFloats.length) := by
    intro x hx
    rw [List.mem_singleton.mp hx]
    exact .inl (by decide)
  exact (@floats_read smallSystem 2 .holding
    ⟨rfl, by simp [smallSystem, World.start, modbusNewTcp], rfl, rfl, rfl, rfl, rfl⟩
    ⟨fun _ _ => .inl rfl, fun _ _ => .inl rfl⟩ twoFloats (by decide) (by decide) (by decide) (by decide)
    (fun _ => 0) losslessVisit [writeNinth] fun _ => hspares).2

end ModbusDevice

end LibModbus
