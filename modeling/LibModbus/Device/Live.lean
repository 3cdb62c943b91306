import LibModbus.Device.Methods
import LibModbus.Device.Registers
import LibModbus.Shared.Exchanges

/-! A device whose methods talk to a server: integers written by one method are what another one
reads, whatever else the device does in between. -/

namespace LibModbus

open Library Library.Prog

structure Visit where
  script : List Response
  round : Round
  flows : Flows callsNeeded script

/-- The method goes on until it waits for its answer, and the server takes a round. A method takes its
course again when the answer is on the link from the start. -/
def System.visit {α : Type} (sys : System) (v : Visit) (m : M α) : Option (α × System) :=
  let client := { sys.client with script := v.script }
  match serveRequest v.round.buf sys.mapping { sys.server with
      rx := sys.server.rx ++ (m client).state.tx
      script := v.round.script } with
  | .blocked _ => none
  | .done (_, reply) server =>
    match m { client with rx := client.rx ++ server.tx } with
    | .blocked _ => none
    | .done a client => some (a, ⟨{ client with tx := [] }, { server with tx := [] }, reply.mapping⟩)

section Visits

variable {sys : System} {bank : Bank} {α : Type}

lemma performing_waits {w : World} (x : Exchange) (hrx : w.rx = []) (htx : w.tx = [])
    {failure : Errno → ModbusError} {value : Dest → M α} :
    (ModbusDevice.performing x.call.operation x.stack failure value
      { w with script := x.clientScript }).state.tx = x.call.request w.ctx := by
  obtain ⟨w₁, hissue, hctx, hrx₁, htx₁, hf⟩ := @issue_exchange w x hrx htx
  have hpos := (@ClientCall.request_frame x.call w.ctx (CountsFrom_zero x.counts)).pos
  obtain ⟨w₂, hconfirm⟩ := confirm_nothing x.call.operation x.stack (x.call.request w.ctx)
    ModbusDevice.emptyBuffer hrx₁ hf (Int.natCast_pos.mpr hpos)
  have hsame := confirm_keeps x.call.operation x.stack (x.call.request w.ctx).length
    (x.call.request w.ctx) ModbusDevice.emptyBuffer w₁
  rw [hconfirm] at hsame
  rw [ModbusDevice.performing, Operation.run, bind_assoc_apply, bind_done hissue]
  dsimp only
  rw [bind_blocked hconfirm, ← htx₁]
  exact hsame.tx

lemma visit_performing (hl : sys.Linked) (hrep : Bank.Represents sys.mapping bank) (v : Visit)
    {call : ClientCall} {request : Request} (hm : call.meaning = some request) (ha : call.Addressed)
    (hc : call.CountsFrom 1) (stack : Mem UInt8) (failure : Errno → ModbusError) (f : Dest → α) :
    ∃ sys', sys.visit v (ModbusDevice.performing call.operation stack failure fun buffer =>
        return f buffer) = some
        (match (bank.step request).2 with
          | some data => .ok (f (data.fill ModbusDevice.emptyBuffer))
          | none => .error (failure embxiladd), sys') ∧
      sys'.Linked ∧ Bank.Represents sys'.mapping (bank.step request).1 := by
  let x : Exchange := ⟨call, request, ModbusDevice.emptyBuffer, stack, v.round.buf, v.script,
    v.round.script, hm, ha, hc, v.flows, v.round.flows⟩
  have hb := hl.backend
  have hreq : (ModbusDevice.performing call.operation stack failure (fun buffer => return f buffer)
      { sys.client with script := v.script }).state.tx = call.request sys.client.ctx :=
    performing_waits x hl.clientRx hl.clientTx
  obtain ⟨s, reply, response, hserve, hrep', hanswer, hsctx, hsrx, hstx⟩ := serve_exchange
    (w := { sys.server with rx := sys.server.rx ++ call.request sys.client.ctx, script := v.round.script })
    (x := x) [] hb (ClientCall.request_intact hb hl.slave)
    (fun _ => hl.receiving) hrep (by rw [hl.serverRx, List.append_nil, List.nil_append]) v.round rfl
  obtain ⟨c₁, hissue, hctx₁, hrx₁, htx₁, hf₁⟩ := ClientCall.issue_flows (CountsFrom_zero hc)
    (w := { sys.client with script := v.script, rx := sys.client.rx ++ s.tx })
    (n := 2 * maxMessageLength) v.flows
  dsimp only at hissue hctx₁ hrx₁ htx₁
  obtain ⟨c₂, rc, dest, hconfirm, hresult, hctx₂, hrx₂, htx₂⟩ := confirm_exchange (x := x) hctx₁
    (fun hr => (hl.slave hr).2) hanswer
    (by rw [hrx₁, hl.clientRx, hstx, hl.serverTx, List.nil_append, List.nil_append]) hf₁
  have hbody : ModbusDevice.performing call.operation stack failure (fun buffer => return f buffer)
      { sys.client with script := v.script, rx := sys.client.rx ++ s.tx } = .done
        (match (bank.step request).2 with
          | some data => .ok (f (data.fill ModbusDevice.emptyBuffer))
          | none => .error (failure embxiladd)) c₂ := by
    rw [ModbusDevice.performing, Operation.run, bind_assoc_apply, bind_done hissue]
    dsimp only
    rw [bind_done hconfirm]
    dsimp only
    cases hanswer : (bank.step request).2 with
    | none =>
      rw [show (bank.step x.request).2 = none from hanswer] at hresult
      obtain ⟨hrc, -, herr⟩ := Result.mk.inj hresult
      have hfailed : rc = -1 := hrc
      rw [if_pos hfailed] at herr
      rw [if_neg (by omega), bind_getErrno, Option.some.inj herr]
      rfl
    | some data =>
      rw [show (bank.step x.request).2 = some data from hanswer] at hresult
      obtain ⟨hrc, hdest, -⟩ := Result.mk.inj hresult
      have hcount := count_nonneg (CountsFrom_zero hc)
      rw [if_pos (hrc.symm ▸ hcount), hdest]
      rfl
  refine ⟨⟨{ c₂ with tx := [] }, { s with tx := [] }, reply.mapping⟩, ?_, ?_, hrep'⟩
  · rw [System.visit, hreq]
    dsimp only
    rw [hserve]
    dsimp only
    rw [hbody]
  · refine ⟨?_, ?_, hrx₂, rfl, ?_, hsrx, rfl⟩
    · dsimp only
      rw [hsctx, hctx₂, hctx₁, nextRequest_backend, hb]
    · dsimp only
      rw [hsctx, hctx₂, hctx₁, nextRequest_backend, nextRequest_slave]
      exact hl.slave
    · dsimp only
      rw [hsctx]
      exact hl.receiving

lemma run_linked (hl : sys.Linked) (hrep : Bank.Represents sys.mapping bank) (xs : List Exchange) :
    ∃ results sys', sys.run xs = some (results, sys') ∧ sys'.Linked ∧
      Bank.Represents sys'.mapping (bank.run (xs.map Exchange.request)).1 := by
  induction xs generalizing sys bank with
  | nil => exact ⟨_, sys, rfl, hl, hrep⟩
  | cons x xs ih =>
    obtain ⟨sys₁, hexch, hl₁, hrep₁⟩ := exchange_refines hl hrep x
    obtain ⟨results, sys₂, hrun, hl₂, hrep₂⟩ := ih hl₁ hrep₁
    refine ⟨x.result (bank.step x.request).2 :: results, sys₂, ?_, hl₂, hrep₂⟩
    rw [System.run, hexch, Option.bind_eq_bind, Option.bind_some]
    dsimp only
    rw [hrun]
    rfl

end Visits

def Request.Spares (address nb : ℕ) : Request → Prop
  | writeRegisters a vs | exchange a vs _ _ => address + nb ≤ a ∨ a + vs.length ≤ address
  | readCoils _ _ | readInputs _ _ | readRegisters _ _ | readInputRegisters _ _ | writeCoils _ _ => True

section Registers

variable {bank : Bank} {address nb : ℕ}

lemma step_spares {request : Request} (h : request.Spares address nb) :
    fetch (bank.step request).1.registers address nb = fetch bank.registers address nb := by
  unfold Bank.step
  cases hs : bank.serve request with
  | none => rfl
  | some r =>
    cases request with
    | readCoils | readInputs | readRegisters | readInputRegisters =>
      obtain ⟨_, -, rfl⟩ := Option.map_eq_some_iff.mp hs
      rfl
    | writeCoils =>
      obtain ⟨_, -, rfl⟩ := Option.map_eq_some_iff.mp hs
      rfl
    | writeRegisters =>
      obtain ⟨registers, hsplice, rfl⟩ := Option.map_eq_some_iff.mp hs
      exact fetch_splice_apart hsplice h
    | exchange =>
      obtain ⟨registers, hsplice, hs⟩ := Option.bind_eq_some_iff.mp hs
      obtain ⟨_, -, rfl⟩ := Option.map_eq_some_iff.mp hs
      exact fetch_splice_apart hsplice h

lemma run_spares {requests : List Request} (h : ∀ request ∈ requests, request.Spares address nb) :
    fetch (bank.run requests).1.registers address nb = fetch bank.registers address nb := by
  induction requests generalizing bank with
  | nil => rfl
  | cons request requests ih =>
    rw [Bank.run]
    exact (ih fun r hr => h r (List.mem_cons_of_mem _ hr)).trans (step_spares (h _ List.mem_cons_self))

lemma step_writeRegisters {vs : List UInt16} (h : address + vs.length ≤ bank.registers.length) :
    (bank.step (.writeRegisters address vs)).2 = some .written ∧
      fetch (bank.step (.writeRegisters address vs)).1.registers address vs.length = some vs := by
  obtain ⟨registers, hs⟩ : ∃ registers, splice bank.registers address vs = some registers :=
    ⟨_, if_pos h⟩
  have hserve : bank.serve (.writeRegisters address vs) = some ({ bank with registers }, .written) := by
    rw [Bank.serve, hs]
    rfl
  rw [Bank.step, hserve]
  exact ⟨rfl, fetch_splice hs⟩

lemma step_readRegisters {vs : List UInt16} (h : fetch bank.registers address nb = some vs) :
    (bank.step (.readRegisters address nb)).2 = some (.words vs) := by
  have hserve : bank.serve (.readRegisters address nb) = some (bank, .words vs) := by
    rw [Bank.serve, h]
    rfl
  rw [Bank.step, hserve]

end Registers

namespace ModbusDevice

lemma registersRead_write {size : ℕ} (xs : List (BitVec (8 * size)))
    (endianness : ModbusDeviceEndianness) (rawPointer : Mem UInt8) (buffer : Mem UInt16) :
    registersRead size xs.length endianness (buffer.write 0
      ((registersToWrite xs endianness rawPointer).slice 0 (wordCount size xs.length))) = xs := by
  apply (padded xs endianness rawPointer).hidden
  intro j hj
  have hroom := two_mul_wordCount size xs.length
  have hsame : ∀ i < wordCount size xs.length, buffer.write 0 ((registersToWrite xs endianness
      rawPointer).slice 0 (wordCount size xs.length)) i = registersToWrite xs endianness rawPointer i := by
    intro i hi
    rw [Mem.write_apply, dif_pos ⟨Nat.zero_le _, by simpa using hi⟩, Mem.slice_getElem]
    simp
  exact registerByte_congr endianness hsame (by omega)

/-- Integers that one method writes are what another one reads from the server, after any operations
that write other registers. -/
theorem reads_what_was_written {sys : System} (hl : sys.Linked) (hb : sys.mapping.Binary) {size : ℕ}
    (xs : List (BitVec (8 * size))) (endianness : ModbusDeviceEndianness) {start : ℕ}
    (hstart : start < 65536) (hpos : 0 < wordCount size xs.length)
    (hmax : (wordCount size xs.length : ℤ) ≤ modbusMaxWriteRegisters)
    (hroom : start + wordCount size xs.length ≤ sys.mapping.nbRegisters) {type : ModbusRegisterType}
    (htype : type ≠ .input) (rawPointer stack stack' : Mem UInt8) (v v' : Visit) {between : List Exchange}
    (hspares : ∀ x ∈ between, x.request.Spares start (wordCount size xs.length)) :
    ∃ sys₁ results sys₂ sys₃,
      sys.visit v (writeRegistersBody start xs endianness rawPointer stack) = some (.ok (), sys₁) ∧
      sys₁.run between = some (results, sys₂) ∧
      sys₂.visit v' (readRegistersBody size start xs.length type endianness stack') =
        some (.ok xs, sys₃) := by
  simp only [modbusMaxWriteRegisters] at hmax
  have hrep := represents_bank hb
  have hlength : sys.mapping.bank.registers.length = sys.mapping.nbRegisters := Mem.slice_length _ _ _
  have hfit : FitsInt32 start := ⟨by omega, by omega⟩
  have hfitn : FitsInt32 (wordCount size xs.length) := ⟨by omega, by omega⟩
  have hne : xs.length ≠ 0 := by
    intro h
    rw [h, wordCount] at hpos
    simp at hpos
  let written := registersToWrite xs endianness rawPointer
  let vs := written.slice 0 (wordCount size xs.length)
  have hvs : vs.length = wordCount size xs.length := Mem.slice_length _ _ _
  -- the method that writes
  obtain ⟨hanswer, hstored⟩ := @step_writeRegisters sys.mapping.bank start vs (by omega)
  obtain ⟨sys₁, hwrite, hl₁, hrep₁⟩ := @visit_performing sys _ Unit hl hrep v
    (.writeRegisters start (wordCount size xs.length) written) _ rfl ⟨by omega, by omega⟩
    ⟨by omega, by simpa using hmax⟩ stack .couldNotWrite fun _ => ()
  rw [Int.toNat_natCast, Int.toNat_natCast, hanswer] at hwrite
  rw [Int.toNat_natCast, Int.toNat_natCast] at hrep₁
  -- what comes in between
  obtain ⟨results, sys₂, hrun, hl₂, hrep₂⟩ := run_linked hl₁ hrep₁ between
  have hall : ∀ request ∈ between.map Exchange.request,
      request.Spares start (wordCount size xs.length) := by
    intro request hr
    obtain ⟨x, hx, rfl⟩ := List.mem_map.mp hr
    exact hspares x hx
  have hkept := (run_spares hall).trans (hvs ▸ hstored)
  -- the method that reads
  have hread := step_readRegisters hkept
  obtain ⟨sys₃, hvisit, -⟩ := @visit_performing sys₂ _ _ hl₂ hrep₂ v'
    (.readRegisters start (wordCount size xs.length)) _ rfl ⟨by omega, by omega⟩
    ⟨by omega, by simp; omega⟩ stack' .couldNotRead
    fun buffer => registersRead size xs.length endianness buffer.words
  rw [Int.toNat_natCast, Int.toNat_natCast, hread] at hvisit
  refine ⟨sys₁, results, sys₂, sys₃, ?_, hrun, ?_⟩
  · rw [writeRegistersBody_eq _ _ _ _ _ hne, if_pos ⟨hfit, hfitn⟩]
    exact hwrite
  · rw [readRegistersBody_eq, wordCount_cast, if_pos ⟨by omega, hfit, hfitn⟩]
    have hfunction : modbusfunction type start (wordCount size xs.length) =
        modbusReadRegisters start (wordCount size xs.length) := if_neg htype
    have hcount : ¬(xs.length : ℤ) < 0 := by omega
    simp only [hfunction, hcount, if_false, Int.toNat_natCast]
    dsimp only [Data.fill] at hvisit
    rwa [registersRead_write] at hvisit

def losslessVisit : Visit := ⟨List.replicate callsNeeded {}, serverRound, flows_replicate _⟩

def twoWords : List (BitVec (8 * 4)) := [0x11223344, 0x55667788]

def writeNinth : Exchange := losslessExchange (.writeRegister 9 1) _ rfl (by decide) (by decide)

theorem reads_what_was_written_example : ∃ sys₁ results sys₂ sys₃,
    smallSystem.visit losslessVisit (@writeRegistersBody 4 2 twoWords .bigEndian (fun _ => 0) fun _ => 0) =
      some (.ok (), sys₁) ∧
    sys₁.run [writeNinth] = some (results, sys₂) ∧
    sys₂.visit losslessVisit (readRegistersBody 4 2 2 .holding .bigEndian fun _ => 0) =
      some (.ok twoWords, sys₃) := by
  have hspares : ∀ x ∈ [writeNinth], x.request.Spares 2 (wordCount 4 twoWords.length) := by
    intro x hx
    rw [List.mem_singleton.mp hx]
    exact .inl (by decide)
  exact reads_what_was_written
    ⟨rfl, by simp [smallSystem, World.start, modbusNewTcp], rfl, rfl, rfl, rfl, rfl⟩
    ⟨fun _ _ => .inl rfl, fun _ _ => .inl rfl⟩ twoWords .bigEndian (by decide) (by decide) (by decide)
    (by decide) (by decide) _ _ _ _ _ hspares

end ModbusDevice

end LibModbus
