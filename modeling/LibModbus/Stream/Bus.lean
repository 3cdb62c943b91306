import LibModbus.Server.Dispatch
import LibModbus.Framing.Pdu

/-! A server on a serial line with other slaves. It tells their requests and responses from its own
requests by the slave in front of them, and by a flag that a response is due. -/

namespace LibModbus

open Library Library.Prog

inductive RequestData (f : UInt8) : List UInt8 → Prop
  | single {x₁ x₂ x₃ x₄ : UInt8} (hf : f.toNat ≤ fcWriteSingleRegister) : RequestData f [x₁, x₂, x₃, x₄]
  | multiple {x₁ x₂ x₃ x₄ n : UInt8} {data : List UInt8}
      (hf : f.toNat = fcWriteMultipleCoils ∨ f.toNat = fcWriteMultipleRegisters)
      (hn : n.toNat = data.length) : RequestData f (x₁ :: x₂ :: x₃ :: x₄ :: n :: data)
  | writeAndRead {x₁ x₂ x₃ x₄ x₅ x₆ x₇ x₈ n : UInt8} {data : List UInt8}
      (hf : f.toNat = fcWriteAndReadRegisters) (hn : n.toNat = data.length) :
      RequestData f (x₁ :: x₂ :: x₃ :: x₄ :: x₅ :: x₆ :: x₇ :: x₈ :: n :: data)
  | bare (h₁ : fcWriteSingleRegister < f.toNat) (h₂ : f.toNat ≠ fcWriteMultipleCoils)
      (h₃ : f.toNat ≠ fcWriteMultipleRegisters) (h₄ : f.toNat ≠ fcWriteAndReadRegisters) :
      RequestData f []

inductive Answer (f : UInt8) : List UInt8 → Prop
  | counted {n : UInt8} {data : List UInt8} (hf : f.toNat ≤ fcReadInputRegisters ∨
      f.toNat = fcReportSlaveId ∨ f.toNat = fcWriteAndReadRegisters) (hn : n.toNat = data.length) :
      Answer f (f :: n :: data)
  | echo {x₁ x₂ x₃ x₄ : UInt8} (hf : f.toNat = fcWriteSingleCoil ∨ f.toNat = fcWriteSingleRegister ∨
      f.toNat = fcWriteMultipleCoils ∨ f.toNat = fcWriteMultipleRegisters) : Answer f [f, x₁, x₂, x₃, x₄]
  | status {x : UInt8} (hf : f.toNat = fcReadExceptionStatus) : Answer f [f, x]
  | exception {code : UInt8} : Answer f [f + 0x80, code]

/-- What passes on the line: a request with its checksum that nobody else answers, or a request and the
response to it, which may end with any two bytes. -/
inductive BusItem where
  | request (slave f : UInt8) (data : List UInt8)
  | exchange (slave f : UInt8) (data answer : List UInt8) (sum sum' : UInt8 × UInt8)

namespace BusItem

def frame (slave : UInt8) (pdu : List UInt8) (sum : UInt8 × UInt8) : List UInt8 :=
  slave :: (pdu ++ [sum.1, sum.2])

def frames : BusItem → List (List UInt8)
  | request slave f data => [rtuSendMsgPre (slave :: f :: data)]
  | exchange slave f data answer sum sum' => [frame slave (f :: data) sum, frame slave answer sum']

def received : BusItem → List (ℤ × List UInt8)
  | request slave f data =>
    [((rtuSendMsgPre (slave :: f :: data)).length, rtuSendMsgPre (slave :: f :: data))]
  | exchange .. => [(0, []), (0, [])]

def Regular (own : ℤ) : BusItem → Prop
  | request slave f data =>
    ((slave.toNat : ℤ) = own ∨ (slave.toNat : ℤ) = modbusBroadcastAddress) ∧ RequestData f data
  | exchange slave f data answer _ _ =>
    ((slave.toNat : ℤ) ≠ own ∧ (slave.toNat : ℤ) ≠ modbusBroadcastAddress) ∧ Supported f.toNat ∧
      RequestData f data ∧ Answer f answer

def Short (item : BusItem) : Prop := ∀ frame ∈ item.frames, frame.length ≤ modbusRtuMaxAduLength

end BusItem

/-- Successive calls of `modbus_receive`, as in `receiveAll`. -/
def receiveEach : List (Mem UInt8) → M (List (ℤ × List UInt8))
  | [] => return []
  | buf :: bufs => do
    let (rc, req) ← modbusReceive buf
    let results ← receiveEach bufs
    return (rc, req.slice 0 rc.toNat) :: results

section Shapes

variable {f : UInt8} {data answer : List UInt8}

lemma RequestData.sized (h : RequestData f data) : SelfSized .indication (f :: data) := by
  cases h with
  | single hf => exact selfSized_single hf
  | multiple hf hn => exact selfSized_multiple hf hn
  | writeAndRead hf hn => exact selfSized_writeAndRead hf hn
  | bare h₁ h₂ h₃ h₄ => exact selfSized_bare h₁ h₂ h₃ h₄

lemma Answer.sized (h : Answer f answer) (hf : Supported f.toNat) : SelfSized .confirmation answer := by
  cases h with
  | counted hf hn => exact selfSized_counted hf hn
  | echo hf => exact selfSized_echo hf
  | status hf =>
    refine selfSized_other ?_ ?_
    all_goals
      rw [hf]
      decide
  | exception =>
    apply selfSized_exception
    have hle : f.toNat ≤ fcWriteAndReadRegisters := by
      simp only [Supported, List.mem_cons, List.not_mem_nil, or_false] at hf
      rcases hf with hf | hf | hf | hf | hf | hf | hf | hf | hf | hf | hf <;> rw [hf] <;> decide
    have hlt : f.toNat + (0x80 : UInt8).toNat < 256 := Nat.add_lt_of_lt_sub (hle.trans_lt (by decide))
    rw [UInt8.toNat_add, Nat.mod_eq_of_lt hlt]
    exact Nat.le_add_left _ _

lemma isFrame_rtu {msgType : MsgType} {slave : UInt8} {pdu : List UInt8} {sum : UInt8 × UInt8}
    (hp : SelfSized msgType pdu)
    (hmax : (BusItem.frame slave pdu sum).length ≤ modbusRtuMaxAduLength) :
    IsFrame .rtu msgType (BusItem.frame slave pdu sum) where
  length {m} hm := by
    have hpdu : HoldsPdu .rtu m pdu := by
      intro j hj
      rw [Backend.rtu_lengths.1, Nat.add_comm, hm (j + 1) (by simp [BusItem.frame]; omega)]
      simp [BusItem.frame, hj]
    rw [hp .rtu m hpdu]
    simp [BusItem.frame]
    omega
  allowed := hmax

end Shapes

section Receive

lemma integrity_other {ctx : Modbus} {m : Mem UInt8} (hb : ctx.backend = .rtu)
    (h : notForMe ctx m = true) (n : ℕ) : integrity ctx m n = 0 := by
  rw [integrity, hb]
  dsimp only
  rw [if_pos h]

variable {w : World} {frame rest : List UInt8} {n : ℕ} (hb : w.ctx.backend = .rtu)
  (hrx : w.rx = frame ++ rest) (hf : Flows (2 * frame.length + n) w.script)

include hb hrx hf

lemma modbusReceive_own (hflag : w.ctx.confirmationToIgnore = false)
    (hframe : IsFrame .rtu .indication frame) (hintact : Intact w.ctx frame) (buf : Mem UInt8) :
    ∃ w', modbusReceive buf w = .done ((frame.length : ℤ), buf.write 0 frame) w' ∧ w'.rx = rest ∧
      w'.ctx = w.ctx ∧ Flows n w'.script := by
  have hpos : (frame.length : ℤ) ≠ 0 := by
    have := hframe.pos
    omega
  obtain ⟨w', hr, hrx', hctx, -, hf'⟩ := receiveMsg_frame (hb ▸ hframe) hrx hintact buf hf
  refine ⟨w', ?_, hrx', hctx, hf'⟩
  rw [modbusReceive, bind_getCtx, hb]
  dsimp only
  rw [rtuReceive, bind_getCtx, hflag, if_neg (by decide), bind_done hr]
  dsimp only
  rw [if_neg hpos]
  rfl

variable (hother : ∀ m : Mem UInt8, m.Holds frame → notForMe w.ctx m = true)

include hother

lemma modbusReceive_foreign (hflag : w.ctx.confirmationToIgnore = false)
    (hframe : IsFrame .rtu .indication frame) (buf : Mem UInt8) :
    ∃ w', modbusReceive buf w = .done (0, buf.write 0 frame) w' ∧ w'.rx = rest ∧
      w'.ctx = { w.ctx with confirmationToIgnore := true } ∧ Flows n w'.script := by
  have hzero {m : Mem UInt8} (hm : m.Holds frame) := integrity_other hb (hother m hm) frame.length
  obtain ⟨w', hr, hrx', hctx, -, hf'⟩ := receiveMsg_whole (hb ▸ hframe) hrx
    (fun m hm => by rw [hzero hm]; decide) buf hf
  rw [hzero (Mem.holds_write_self buf frame)] at hr
  refine ⟨{ w' with ctx := { w'.ctx with confirmationToIgnore := true } }, ?_, hrx', ?_, hf'⟩
  · rw [modbusReceive, bind_getCtx, hb]
    dsimp only
    rw [rtuReceive, bind_getCtx, hflag, if_neg (by decide), bind_done hr]
    rfl
  · rw [← hctx]

lemma modbusReceive_answer (hflag : w.ctx.confirmationToIgnore = true)
    (hframe : IsFrame .rtu .confirmation frame) (buf : Mem UInt8) :
    ∃ w', modbusReceive buf w = .done (0, buf.write 0 frame) w' ∧ w'.rx = rest ∧
      w'.ctx = { w.ctx with confirmationToIgnore := false } ∧ Flows n w'.script := by
  have hzero {m : Mem UInt8} (hm : m.Holds frame) := integrity_other hb (hother m hm) frame.length
  obtain ⟨w', hr, hrx', hctx, -, hf'⟩ := receiveMsg_whole (hb ▸ hframe) hrx
    (fun m hm => by rw [hzero hm]; decide) buf hf
  refine ⟨{ w' with ctx := { w'.ctx with confirmationToIgnore := false } }, ?_, hrx', ?_, hf'⟩
  · rw [modbusReceive, bind_getCtx, hb]
    dsimp only
    rw [rtuReceive, bind_getCtx, hflag, if_pos rfl, bind_done hr]
    rfl
  · rw [← hctx]

end Receive

section Runs

lemma rtuSendMsgPre_frame (slave : UInt8) (pdu : List UInt8) : rtuSendMsgPre (slave :: pdu) =
    BusItem.frame slave pdu (hiByte (crc16 (slave :: pdu)), loByte (crc16 (slave :: pdu))) := rfl

variable {w w₁ w₂ : World} {rest : List UInt8} {n : ℕ}

lemma receiveEach_cons {buf req : Mem UInt8} {bufs : List (Mem UInt8)} {rc : ℤ}
    {results : List (ℤ × List UInt8)} (h : modbusReceive buf w = .done (rc, req) w₁)
    (h' : receiveEach bufs w₁ = .done results w₂) :
    receiveEach (buf :: bufs) w = .done ((rc, req.slice 0 rc.toNat) :: results) w₂ := by
  rw [receiveEach, bind_done h]
  dsimp only
  rw [bind_done h']
  rfl

lemma receiveEach_append {bufs bufs' : List (Mem UInt8)} {results results' : List (ℤ × List UInt8)}
    (h : receiveEach bufs w = .done results w₁) (h' : receiveEach bufs' w₁ = .done results' w₂) :
    receiveEach (bufs ++ bufs') w = .done (results ++ results') w₂ := by
  induction bufs generalizing w results with
  | nil =>
    cases h
    exact h'
  | cons buf bufs ih =>
    obtain ⟨⟨rc, req⟩, w', hr, h⟩ := bind_eq_done.mp h
    obtain ⟨tail, w'', htail, h⟩ := bind_eq_done.mp h
    cases h
    exact receiveEach_cons hr (ih htail)

lemma intact_own {ctx : Modbus} {slave : UInt8} {pdu : List UInt8} (hb : ctx.backend = .rtu)
    (hslave : (slave.toNat : ℤ) = ctx.slave ∨ (slave.toNat : ℤ) = modbusBroadcastAddress) :
    Intact ctx (rtuSendMsgPre (slave :: pdu)) := by
  intro m hm
  have h0 : m 0 = slave := hm 0 (by simp [rtuSendMsgPre])
  have hme : notForMe ctx m = false := by
    rw [notForMe, h0, decide_eq_false_iff_not]
    rintro ⟨hne, hne'⟩
    rcases hslave with h | h
    · exact hne h
    · exact hne' h
  rw [integrity, hb]
  dsimp only
  rw [if_neg (by rw [hme]; decide), if_pos (crcMatches_rtuSendMsgPre hm)]

lemma notForMe_frame {ctx : Modbus} {slave : UInt8} {pdu : List UInt8} {sum : UInt8 × UInt8}
    (hslave : (slave.toNat : ℤ) ≠ ctx.slave ∧ (slave.toNat : ℤ) ≠ modbusBroadcastAddress)
    (m : Mem UInt8) (hm : m.Holds (BusItem.frame slave pdu sum)) : notForMe ctx m = true := by
  have h0 : m 0 = slave := hm 0 (by simp [BusItem.frame])
  rw [notForMe, h0, decide_eq_true_eq]
  exact hslave

lemma receiveEach_item {item : BusItem} (hregular : item.Regular w.ctx.slave) (hshort : item.Short)
    (hb : w.ctx.backend = .rtu) (hflag : w.ctx.confirmationToIgnore = false)
    (hrx : w.rx = item.frames.flatten ++ rest)
    (hf : Flows (2 * item.frames.flatten.length + n) w.script) (bufs : List (Mem UInt8))
    (hbufs : bufs.length = item.frames.length) :
    ∃ w', receiveEach bufs w = .done item.received w' ∧ w'.rx = rest ∧ w'.ctx = w.ctx ∧
      Flows n w'.script := by
  cases item with
  | request slave f data =>
    obtain ⟨hslave, hdata⟩ := hregular
    obtain ⟨buf, rfl⟩ := List.length_eq_one_iff.mp hbufs
    simp only [BusItem.frames, List.flatten_singleton] at hrx hf
    have hframe : IsFrame .rtu .indication (rtuSendMsgPre (slave :: f :: data)) := by
      rw [rtuSendMsgPre_frame]
      exact isFrame_rtu hdata.sized (hshort _ List.mem_cons_self)
    obtain ⟨w', hr, hrest⟩ := modbusReceive_own hb hrx hf hflag hframe (intact_own hb hslave) buf
    refine ⟨w', ?_, hrest⟩
    rw [receiveEach_cons hr rfl, Int.toNat_natCast, (Mem.holds_write_self buf _).slice]
    rfl
  | exchange slave f data answer sum sum' =>
    obtain ⟨hslave, hsupported, hdata, hanswer⟩ := hregular
    obtain ⟨buf, buf', rfl⟩ := List.length_eq_two.mp hbufs
    simp only [BusItem.frames, List.flatten_cons, List.flatten_nil, List.append_nil,
      List.length_append, List.append_assoc, Nat.mul_add, Nat.add_assoc] at hrx hf
    have hframe := isFrame_rtu hdata.sized (hshort (BusItem.frame slave (f :: data) sum)
      (by simp [BusItem.frames]))
    have hframe' := isFrame_rtu (hanswer.sized hsupported) (hshort (BusItem.frame slave answer sum')
      (by simp [BusItem.frames]))
    obtain ⟨w₁, hr₁, hrx₁, hctx₁, hf₁⟩ := modbusReceive_foreign hb hrx hf (notForMe_frame hslave) hflag
      hframe buf
    have hb₁ : w₁.ctx.backend = .rtu := by rw [hctx₁, ← hb]
    obtain ⟨w₂, hr₂, hrx₂, hctx₂, hf₂⟩ := modbusReceive_answer hb₁ hrx₁ hf₁
      (notForMe_frame (by rw [hctx₁]; exact hslave)) (by rw [hctx₁]) hframe' buf'
    refine ⟨w₂, receiveEach_cons hr₁ (receiveEach_cons hr₂ rfl), hrx₂, ?_, hf₂⟩
    rw [hctx₂, hctx₁, ← hflag]

end Runs

/-- Whatever passes on the line, the server receives its own requests and those to all slaves, and
nothing for the exchanges of others. -/
theorem receiveEach_bus {w : World} {items : List BusItem} {rest : List UInt8}
    {bufs : List (Mem UInt8)} (hb : w.ctx.backend = .rtu) (hflag : w.ctx.confirmationToIgnore = false)
    (hregular : ∀ item ∈ items, item.Regular w.ctx.slave) (hshort : ∀ item ∈ items, item.Short)
    (hbufs : bufs.length = (items.flatMap BusItem.frames).length)
    (hrx : w.rx = (items.flatMap BusItem.frames).flatten ++ rest)
    (hf : Flows (2 * (items.flatMap BusItem.frames).flatten.length) w.script) :
    ∃ w', receiveEach bufs w = .done (items.flatMap BusItem.received) w' ∧ w'.rx = rest ∧
      w'.ctx = w.ctx := by
  induction items generalizing bufs w with
  | nil =>
    rw [List.length_eq_zero_iff.mp hbufs]
    exact ⟨w, rfl, hrx, rfl⟩
  | cons item items ih =>
    simp only [List.flatMap_cons, List.flatten_append, List.append_assoc, List.length_append,
      Nat.mul_add] at hrx hf hbufs ⊢
    obtain ⟨w₁, hr₁, hrx₁, hctx₁, hf₁⟩ := receiveEach_item (hregular _ List.mem_cons_self)
      (hshort _ List.mem_cons_self) hb hflag hrx hf (bufs.take item.frames.length)
      (by rw [List.length_take]; omega)
    have hdrop : (bufs.drop item.frames.length).length = (items.flatMap BusItem.frames).length := by
      rw [List.length_drop]
      omega
    obtain ⟨w₂, hr₂, hrx₂, hctx₂⟩ := ih (hctx₁ ▸ hb) (hctx₁ ▸ hflag)
      (fun i hi => hctx₁ ▸ hregular i (List.mem_cons_of_mem _ hi))
      (fun i hi => hshort i (List.mem_cons_of_mem _ hi)) hdrop hrx₁ hf₁
    refine ⟨w₂, ?_, hrx₂, hctx₂.trans hctx₁⟩
    rw [← List.take_append_drop item.frames.length bufs]
    exact receiveEach_append hr₁ hr₂

def serverOn (items : List BusItem) : World :=
  .start { modbusNewRtu with slave := 17 } (items.flatMap BusItem.frames).flatten
    (List.replicate (2 * (items.flatMap BusItem.frames).flatten.length) {})

def sharedLine : List BusItem :=
  [.request 17 3 [0, 0, 0, 2], .exchange 5 16 [0, 1, 0, 1, 2, 0, 7] [0x90, 2] (0, 0) (0, 0),
    .request 0 6 [0, 1, 0, 3]]

theorem receiveEach_bus_example : ∃ w', receiveEach (List.replicate 4 fun _ => 0)
    (serverOn sharedLine) = .done (sharedLine.flatMap BusItem.received) w' ∧ w'.rx = [] ∧
      w'.ctx = (serverOn sharedLine).ctx := by
  refine receiveEach_bus rfl rfl ?_ ?_ (by decide) (List.append_nil _).symm (flows_replicate _)
  · intro item hitem
    simp only [sharedLine, List.mem_cons, List.not_mem_nil, or_false] at hitem
    rcases hitem with rfl | rfl | rfl
    · exact ⟨.inl rfl, .single (by decide)⟩
    · exact ⟨⟨by decide, by decide⟩, by decide, .multiple (by decide) rfl, .exception⟩
    · exact ⟨.inr rfl, .single (by decide)⟩
  · unfold BusItem.Short
    decide

/-- A request to the slave 17 for a function that the server does not know, with data: the first four
bytes are taken for a request whose checksum is wrong. -/
def maskWrite : BusItem := .request 17 0x16 [0, 4, 0, 0xF2, 0, 0x25]

theorem maskWrite_misframed :
    (receiveEach [fun _ => 0] (serverOn [maskWrite])).value = some [(-1, [])] ∧
      maskWrite.received = [(10, rtuSendMsgPre [17, 0x16, 0, 4, 0, 0xF2, 0, 0x25])] := by
  refine ⟨?_, rfl⟩
  decide +kernel

end LibModbus
