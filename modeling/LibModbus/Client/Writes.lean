import LibModbus.Client.Answers

/-! What the response says of a write that is reported as done. -/

namespace LibModbus

open Library Library.Prog

namespace ClientCall

def WritesSeveral : ClientCall → Prop
  | writeBits _ _ _ | writeRegisters _ _ _ => True
  | _ => False

def Writes : ClientCall → Prop
  | writeBit _ _ | writeRegister _ _ => True
  | call => call.WritesSeveral

end ClientCall

/-- The response repeats a byte of the PDU of the request: the function code is at place 0, the
address at 1 and 2, and the value of a single write or the quantity of another at 3 and 4. -/
def Echoes (call : ClientCall) (b : Backend) (frame : List UInt8) (place : ℕ) : Prop :=
  frame[b.headerLength + place]? = call.pdu[place]?

instance (call : ClientCall) (b : Backend) (frame : List UInt8) (place : ℕ) :
    Decidable (Echoes call b frame place) :=
  inferInstanceAs (Decidable (_ = _))

section Written

variable {call : ClientCall} {stack : Mem UInt8} {dest dest' : Dest} {w w' : World} {rc : ℤ}
  {req frame : List UInt8} {n : ℤ} {ctx : Modbus}

lemma pdu_writes (hw : call.Writes) : 5 ≤ call.pdu.length ∧
    ((call.pdu.getD 0 0).toNat = fcWriteSingleCoil ∨
      (call.pdu.getD 0 0).toNat = fcWriteSingleRegister ∨
      (call.pdu.getD 0 0).toNat = fcWriteMultipleCoils ∨
      (call.pdu.getD 0 0).toNat = fcWriteMultipleRegisters) := by
  cases call with
  | writeBit => exact ⟨le_rfl, .inl rfl⟩
  | writeRegister => exact ⟨le_rfl, .inr (.inl rfl)⟩
  | writeBits => exact ⟨Nat.le_add_left 5 _, .inr (.inr (.inl rfl))⟩
  | writeRegisters => exact ⟨Nat.le_add_left 5 _, .inr (.inr (.inr rfl))⟩
  | readBits | readInputBits | readRegisters | readInputRegisters | writeAndReadRegisters
  | reportSlaveId => exact hw.elim

lemma pdu_writesSeveral (hs : call.WritesSeveral) :
    (call.pdu.getD 0 0).toNat = fcWriteMultipleCoils ∨
      (call.pdu.getD 0 0).toNat = fcWriteMultipleRegisters := by
  cases call with
  | writeBits => exact .inl rfl
  | writeRegisters => exact .inr rfl
  | writeBit | writeRegister | readBits | readInputBits | readRegisters | readInputRegisters
  | writeAndReadRegisters | reportSlaveId => exact hs.elim

lemma Checked.holds (h : Checked call stack w req frame n ctx) :
    HoldsPdu w.ctx.backend (req.getD · 0) call.pdu := by
  rw [h.request]
  exact holdsPdu_sendMsgPre (requestHeader_length _) fun j hj => List.getD_eq_getElem _ _ hj

lemma Checked.function (h : Checked call stack w req frame n ctx) :
    stack.write 0 frame w.ctx.backend.headerLength = call.pdu.getD 0 0 := by
  apply UInt8.toNat_inj.mp
  rw [h.confirms.function, List.getD_eq_getElem _ _ call.pdu_pos]
  exact congrArg UInt8.toNat (h.holds 0 call.pdu_pos)

lemma Checked.written_length (h : Checked call stack w req frame n ctx) (hw : call.Writes) :
    frame.length = w.ctx.backend.headerLength + 5 + w.ctx.backend.checksumLength := by
  have hfun := (pdu_writes hw).2
  rw [← h.function] at hfun
  have hheld : HoldsPdu w.ctx.backend (stack.write 0 frame)
      ((stack.write 0 frame).slice w.ctx.backend.headerLength 5) := fun j hj =>
    ((stack.write 0 frame).slice_getElem _ _ _ hj).symm
  rw [h.length]
  exact selfSized_echo hfun w.ctx.backend _ hheld

lemma Checked.echoes (h : Checked call stack w req frame n ctx) (hw : call.Writes) {place : ℕ}
    (hp : place < 5) (he : stack.write 0 frame (w.ctx.backend.headerLength + place) =
      req.getD (w.ctx.backend.headerLength + place) 0) : Echoes call w.ctx.backend frame place := by
  have hlen := h.written_length hw
  have hpl : place < call.pdu.length := hp.trans_le (pdu_writes hw).1
  have hfl : w.ctx.backend.headerLength + place < frame.length := by omega
  rw [Echoes, List.getElem?_eq_getElem hfl, List.getElem?_eq_getElem hpl,
    ← Mem.holds_write_self stack frame _ hfl, he]
  exact congrArg some (h.holds place hpl)

lemma Checked.quantity (h : Checked call stack w req frame n ctx) (hw : call.Writes)
    (hs : call.WritesSeveral) :
    Echoes call w.ctx.backend frame 3 ∧ Echoes call w.ctx.backend frame 4 := by
  obtain ⟨m, hsame, -⟩ := h.counted
  have hword : word (req.getD (w.ctx.backend.headerLength + 3) 0)
        (req.getD (w.ctx.backend.headerLength + 4) 0) =
      word (stack.write 0 frame (w.ctx.backend.headerLength + 3))
        (stack.write 0 frame (w.ctx.backend.headerLength + 4)) := by
    rw [confirmationCounts] at hsame
    rcases pdu_writesSeveral hs with hf | hf <;> simpa only [h.function, hf] using hsame
  refine ⟨h.echoes hw (by decide) ?_, h.echoes hw (by decide) ?_⟩
  · have := congrArg (fun x : ℕ => hiByte x) hword
    simpa using this.symm
  · have := congrArg (fun x : ℕ => loByte x) hword
    simpa using this.symm

/-- A write is reported as done only if the response gives its function code back and, where there
are several values, their number. Neither the address nor a single value is looked at. -/
theorem write_confirmed (hs : SendsTake w.script) (hw : call.Writes)
    (h : call.operation.run stack dest w = .done (rc, dest') w') (hrc : rc ≠ -1) :
    ∃ req frame, Accepts call.operation stack w req frame ∧ Echoes call w.ctx.backend frame 0 ∧
      (call.WritesSeveral →
        Echoes call w.ctx.backend frame 3 ∧ Echoes call w.ctx.backend frame 4) := by
  obtain ⟨req, frame, hacc⟩ := run_accepts hs h hrc
  obtain ⟨n, ctx, hchecked⟩ := hacc.checked hs
  exact ⟨req, frame, hacc, hchecked.echoes hw (by decide) (UInt8.toNat_inj.mp
    hchecked.confirms.function),
    hchecked.quantity hw⟩

def otherWrite : World :=
  .start modbusNewTcp [0, 1, 0, 0, 0, 6, 0xFF, 6, 0, 2, 0, 9] (List.replicate 7 {})

lemma otherWrite_run : ∃ dest w', (modbusWriteRegister 1 5).run (fun _ => 0)
    ⟨fun _ => 0, fun _ => 0⟩ otherWrite = .done (1, dest) w' := by
  apply run_returns
  decide +kernel

lemma otherWrite_frame (h : Accepts (modbusWriteRegister 1 5) (fun _ => 0) otherWrite req frame) :
    frame = otherWrite.rx := by
  have hrx := h.splits
  have hbefore : ((modbusWriteRegister 1 5).issue otherWrite).state.rx = otherWrite.rx := by
    decide +kernel
  have hafter : (receiveMsg .confirmation (fun _ => 0)
    ((modbusWriteRegister 1 5).issue otherWrite).state).state.rx = [] := by decide +kernel
  rw [hbefore, hafter, List.append_nil] at hrx
  exact hrx.symm

def otherWrites : World :=
  .start modbusNewTcp [0, 1, 0, 0, 0, 6, 0xFF, 16, 0, 7, 0, 2] (List.replicate 7 {})

/-- The values, one written and two written, are at addresses other than those in the responses. -/
theorem write_confirmed_example :
    (∃ req frame, Accepts (modbusWriteRegister 1 5) (fun _ => 0) otherWrite req frame ∧
      Echoes (.writeRegister 1 5) .tcp frame 0) ∧
    ∃ req frame, Accepts (modbusWriteRegisters 1 2 fun _ => 5) (fun _ => 0) otherWrites req frame ∧
      Echoes (.writeRegisters 1 2 fun _ => 5) .tcp frame 0 ∧
      Echoes (.writeRegisters 1 2 fun _ => 5) .tcp frame 3 ∧
      Echoes (.writeRegisters 1 2 fun _ => 5) .tcp frame 4 := by
  constructor
  · obtain ⟨dest, w', hrun⟩ := otherWrite_run
    have hwrites : (ClientCall.writeRegister 1 5).Writes := trivial
    have hrun' : (ClientCall.writeRegister 1 5).operation.run (fun _ => 0) ⟨fun _ => 0, fun _ => 0⟩
        otherWrite = .done (1, dest) w' := hrun
    obtain ⟨req, frame, hacc, hfunction, -⟩ :=
      write_confirmed (w := otherWrite) (by decide) hwrites hrun' (by decide)
    exact ⟨req, frame, hacc, hfunction⟩
  · have hseveral : (ClientCall.writeRegisters 1 2 fun _ => 5).WritesSeveral := trivial
    have hwrites : (ClientCall.writeRegisters 1 2 fun _ => 5).Writes := hseveral
    obtain ⟨dest, w', hrun⟩ : ∃ dest w', (ClientCall.writeRegisters 1 2 fun _ => 5).operation.run (fun _ => 0)
        ⟨fun _ => 0, fun _ => 0⟩ otherWrites = .done (2, dest) w' := by
      apply run_returns
      decide +kernel
    obtain ⟨req, frame, hacc, hfunction, hquantity⟩ :=
      write_confirmed (w := otherWrites) (by decide) hwrites hrun (by decide)
    exact ⟨req, frame, hacc, hfunction, hquantity hseveral⟩

theorem other_write_confirmed : ¬∀ (call : ClientCall) (stack : Mem UInt8) (dest dest' : Dest)
    (w w' : World) (rc : ℤ), SendsTake w.script → call.Writes →
    call.operation.run stack dest w = .done (rc, dest') w' → rc ≠ -1 →
    ∃ req frame, Accepts call.operation stack w req frame ∧
      ∀ place < 5, Echoes call w.ctx.backend frame place := by
  intro hclaim
  obtain ⟨dest, w', hrun⟩ := otherWrite_run
  obtain ⟨req, frame, hacc, hecho⟩ := hclaim (.writeRegister 1 5) _ _ _ otherWrite _ _ (by decide)
    trivial hrun (by decide)
  obtain rfl := otherWrite_frame hacc
  exact absurd (hecho 2 (by decide)) (by decide)

end Written

end LibModbus
