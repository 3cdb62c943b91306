import LibModbus.Shared.Slaves

/-! A broadcast on the serial line. `modbus_reply` answers it as it answers any other request, and the
answer to the write of a single coil or register is the request again. -/

namespace LibModbus

open Library Library.Prog

/-- The master addresses all slaves and sends them a request. -/
def Line.broadcast {ι : Type} (line : Line ι) (x : Exchange) : Option (Line ι) :=
  match line.pending, (do let _ ← modbusSetSlave modbusBroadcastAddress; x.call.operation.issue :
      M (ℤ × List UInt8)) { line.master with script := x.clientScript } with
  | none, .done (rc, req) w =>
    some { line with
      master := { w with tx := [] }
      station := fun i => (line.station i).hear w.tx
      pending := some ⟨x, rc, req⟩ }
  | _, _ => none

namespace ClientCall

/-- The call writes a single entry, and the table has it. -/
def WritesIn (mb : Mapping) : ClientCall → Prop
  | writeBit addr _ => (addr % 65536).toNat < mb.nbBits
  | writeRegister addr _ => (addr % 65536).toNat < mb.nbRegisters
  | _ => False

def broadcastFrame (call : ClientCall) : List UInt8 := rtuSendMsgPre (0 :: call.pdu)

variable {call : ClientCall} {mb : Mapping}

lemma request_broadcast {ctx : Modbus} (hb : ctx.backend = .rtu) (hs : ctx.slave = 0) :
    call.request ctx = call.broadcastFrame := by
  rw [request, hb, requestHeader_rtu hb, hs]
  rfl

lemma WritesIn.counts (h : call.WritesIn mb) : call.CountsFrom 0 := by
  cases call <;> trivial

lemma WritesIn.frame (h : call.WritesIn mb) : IsFrame .rtu .indication call.broadcastFrame := by
  have hframe := @request_frame call { modbusNewRtu with slave := 0 } h.counts
  rwa [request_broadcast rfl rfl] at hframe

lemma slice_broadcast {req : Mem UInt8} (hreq : req.Holds call.broadcastFrame) :
    req.slice 0 (call.broadcastFrame.length - 2) = 0 :: call.pdu := by
  have hlength : call.broadcastFrame.length = (0 :: call.pdu).length + 2 := by
    simp [broadcastFrame, rtuSendMsgPre]
  refine List.ext_getElem (by rw [Mem.slice_length]; omega) fun j h₁ h₂ => ?_
  rw [Mem.slice_getElem, Nat.zero_add, hreq j (by omega)]
  exact List.getElem_append_left h₂

lemma WritesIn.echoed (h : call.WritesIn mb) {req : Mem UInt8} (hreq : req.Holds call.broadcastFrame) :
    (replyBuild .rtu req call.broadcastFrame.length mb).rsp = some (0 :: call.pdu) ∧
      call.WritesIn (replyBuild .rtu req call.broadcastFrame.length mb).mapping := by
  have hpdu : HoldsPdu .rtu req call.pdu := @holdsPdu_sendMsgPre .rtu [0] call.pdu req rfl hreq
  have hlength : (prepareResponseTid .rtu req call.broadcastFrame.length).2 =
      call.broadcastFrame.length - 2 := prepareResponseTid_length ..
  cases call with
  | writeBit addr status =>
    rw [ClientCall.pdu, ← List.append_nil (basisPdu ..)] at hpdu
    obtain ⟨hf, ha, hn⟩ := hpdu.fields (by decide)
    have haddr : requestAddress .rtu req < mb.nbBits := by
      have hroom : (addr % 65536).toNat < mb.nbBits := h
      omega
    have hvalue : requestNb .rtu req = 0xFF00 ∨ requestNb .rtu req = 0 := by
      split_ifs at hn <;> omega
    rw [replyBuild_writeSingleCoil hf, replyWriteSingleCoil_legal haddr hvalue, hlength]
    exact ⟨congrArg some (slice_broadcast hreq), h⟩
  | writeRegister addr value =>
    rw [ClientCall.pdu, ← List.append_nil (basisPdu ..)] at hpdu
    obtain ⟨hf, ha, -⟩ := hpdu.fields (by decide)
    have haddr : requestAddress .rtu req < mb.nbRegisters := by
      have hroom : (addr % 65536).toNat < mb.nbRegisters := h
      omega
    rw [replyBuild_writeSingleRegister hf, replyWriteSingleRegister_legal haddr, hlength]
    exact ⟨congrArg some (slice_broadcast hreq), h⟩
  | _ => exact h.elim

end ClientCall

section Storm

variable {ι : Type} [DecidableEq ι] {line line' : Line ι} {call : ClientCall} {n : ι → ℕ}

structure Storm (call : ClientCall) (n : ι → ℕ) (line : Line ι) : Prop where
  backend : ∀ i, (line.station i).ctx.backend = .rtu
  receiving : ∀ i, (line.station i).ctx.confirmationToIgnore = false
  tx : ∀ i, (line.station i).tx = []
  rx : ∀ i, (line.station i).rx = (List.replicate (n i) call.broadcastFrame).flatten
  writes : ∀ i, call.WritesIn (line.mapping i)

def answered (n : ι → ℕ) (i : ι) (j : ι) : ℕ := if j = i then n i - 1 else n j + 1

lemma flatten_replicate_concat {α : Type} (k : ℕ) (xs : List α) :
    (List.replicate k xs).flatten ++ xs = (List.replicate (k + 1) xs).flatten := by
  rw [List.replicate_succ', List.flatten_append, List.flatten_singleton]

lemma Storm.serve (h : Storm call n line) {i : ι} (hi : n i ≠ 0) (r : Round) :
    ∃ line', line.step (.serve i r) = some (line', []) ∧ Storm call (answered n i) line' ∧
      line'.master.rx = line.master.rx ++ call.broadcastFrame := by
  obtain ⟨k, hk⟩ := Nat.exists_eq_succ_of_ne_zero hi
  have hframe := (h.writes i).frame
  have hrx : (line.station i).rx = call.broadcastFrame ++
      (List.replicate k call.broadcastFrame).flatten := by
    rw [h.rx i, hk, List.replicate_succ, List.flatten_cons]
  have hm := Mem.holds_write_self r.buf call.broadcastFrame
  obtain ⟨hrsp, hwrites⟩ := (h.writes i).echoed hm
  have hsent : sendMsgPre .rtu (0 :: call.pdu) = call.broadcastFrame := rfl
  have hb : ({ line.station i with script := r.script } : World).ctx.backend = .rtu := h.backend i
  have hlength : call.broadcastFrame.length ≤ maxMessageLength :=
    hframe.allowed.trans (maxAduLength_le _)
  obtain ⟨w, hserve, hctx, hrx', htx, -⟩ := @serveRequest_flows
    { line.station i with script := r.script } (line.mapping i) call.broadcastFrame _ (0 :: call.pdu)
    (by rwa [hb]) hrx (intact_own (h.backend i) (.inr rfl)) (fun _ => h.receiving i) r.buf 0
    (r.flows.mono (by unfold callsNeeded; omega)) (by rwa [hb]) (by rw [hb, hsent]; exact hlength)
  rw [hb, hsent, show (line.station i).tx = [] from h.tx i, List.nil_append] at htx
  rw [hb] at hserve
  refine ⟨line.served i _ w, by rw [Line.step, hserve], ⟨?_, ?_, ?_, ?_, ?_⟩, ?_⟩
  · intro j
    dsimp only [Line.served]
    by_cases hj : j = i
    · rw [if_pos hj]
      exact (congrArg Modbus.backend hctx).trans (h.backend i)
    · rw [if_neg hj]
      exact h.backend j
  · intro j
    dsimp only [Line.served]
    by_cases hj : j = i
    · rw [if_pos hj]
      exact (congrArg Modbus.confirmationToIgnore hctx).trans (h.receiving i)
    · rw [if_neg hj]
      exact h.receiving j
  · intro j
    dsimp only [Line.served]
    by_cases hj : j = i
    · rw [if_pos hj]
    · rw [if_neg hj]
      exact h.tx j
  · intro j
    dsimp only [Line.served, answered]
    by_cases hj : j = i
    · rw [if_pos hj, if_pos hj, hk]
      exact hrx'
    · rw [if_neg hj, if_neg hj, htx, World.hear, h.rx j, flatten_replicate_concat]
  · intro j
    dsimp only [Line.served]
    by_cases hj : j = i
    · subst hj
      rwa [Function.update_self]
    · rw [Function.update_of_ne hj]
      exact h.writes j
  · rw [Line.served, htx]
    rfl

lemma Storm.waits (h : Storm call n line) {i : ι} (hi : n i = 0) (r : Round) :
    line.step (.serve i r) = none := by
  have hrx : (line.station i).rx = [] := by
    rw [h.rx i, hi]
    rfl
  obtain ⟨w, hnothing⟩ := serveRequest_nothing (w := { line.station i with script := r.script }) hrx r rfl
    (line.mapping i)
  rw [Line.step, hnothing]

def rounds (schedule : List (ι × Round)) : List (LineAct ι) := schedule.map fun a => .serve a.1 a.2

def roundsOf (i : ι) (schedule : List (ι × Round)) : ℕ := (schedule.map Prod.fst).count i

lemma roundsOf_pair {i j : ι} (hij : i ≠ j) (schedule : List (ι × Round)) :
    roundsOf i schedule + roundsOf j schedule ≤ schedule.length := by
  induction schedule with
  | nil => exact Nat.le_refl 0
  | cons a schedule ih =>
    unfold roundsOf at ih ⊢
    rw [List.map_cons, List.count_cons, List.count_cons, List.length_cons]
    have hone : ¬(a.1 = i ∧ a.1 = j) := fun h => hij (h.1.symm.trans h.2)
    simp only [beq_iff_eq]
    split_ifs with h₁ h₂
    · exact absurd ⟨h₁, h₂⟩ hone
    all_goals omega

lemma answered_balance {i : ι} (hi : n i ≠ 0) (j : ι) (a : Round) (schedule : List (ι × Round)) {m : ℕ}
    (h : m + 2 * roundsOf j schedule = answered n i j + schedule.length) :
    m + 2 * roundsOf j ((i, a) :: schedule) = n j + ((i, a) :: schedule).length := by
  rw [roundsOf, answered] at h
  rw [roundsOf, List.map_cons, List.count_cons, List.length_cons]
  by_cases hj : j = i
  · subst hj
    simp only [if_true, beq_self_eq_true] at h ⊢
    omega
  · rw [if_neg hj] at h
    simp only [beq_iff_eq, Ne.symm hj, if_false]
    omega

lemma Storm.run (h : Storm call n line) {schedule : List (ι × Round)}
    {es : List (Atomic.Event Unit (ι × Exchange) Result)}
    (hrun : Schedule.run Line.step line (rounds schedule) = some (line', es)) :
    ∃ n', Storm call n' line' ∧ (∀ i, n' i + 2 * roundsOf i schedule = n i + schedule.length) ∧
      line'.master.rx = line.master.rx ++ (List.replicate schedule.length call.broadcastFrame).flatten := by
  induction schedule generalizing line n es with
  | nil =>
    cases hrun
    exact ⟨n, h, fun _ => rfl, (List.append_nil _).symm⟩
  | cons a schedule ih =>
    obtain ⟨i, r⟩ := a
    obtain ⟨line₁, es₁, es₂, hstep, hrest, -⟩ := Schedule.run_cons_eq_some.mp hrun
    have hi : n i ≠ 0 := by
      intro hi
      rw [h.waits hi r] at hstep
      cases hstep
    obtain ⟨line₂, hserve, hstorm, hmaster⟩ := h.serve hi r
    rw [hserve] at hstep
    cases hstep
    obtain ⟨n', hstorm', hbalance, hmaster'⟩ := ih hstorm hrest
    refine ⟨n', hstorm', fun j => answered_balance hi j r schedule (hbalance j), ?_⟩
    rw [hmaster', hmaster, List.length_cons, List.replicate_succ, List.flatten_cons, List.append_assoc]

omit [DecidableEq ι] in
lemma Line.Linked.broadcasts (hl : line.Linked) (x : Exchange) (hwrites : ∀ i, x.call.WritesIn (line.mapping i)) :
    ∃ line₁, line.broadcast x = some line₁ ∧ Storm x.call (fun _ => 1) line₁ ∧ line₁.master.rx = [] := by
  let toAll : World := { line.master with ctx := { line.master.ctx with slave := 0 } }
  obtain ⟨w, hissue, -, hrx, htx, -⟩ := @issue_exchange toAll x hl.masterRx hl.masterTx
  rw [@ClientCall.request_broadcast x.call toAll.ctx hl.master rfl] at htx
  have hset : modbusSetSlave modbusBroadcastAddress { line.master with script := x.clientScript } =
      .done 0 { toAll with script := x.clientScript } :=
    modbusSetSlave_rtu hl.master ⟨le_rfl, by decide⟩
  refine ⟨{ line with
      master := { w with tx := [] }
      station := fun i => (line.station i).hear w.tx
      pending := some ⟨x, _, _⟩ }, by rw [Line.broadcast, hl.pending, bind_done hset, hissue],
    ⟨hl.station, hl.receiving, hl.tx, fun i => ?_, hwrites⟩, hrx⟩
  dsimp only
  rw [World.hear, hl.rx i, htx, List.replicate_one, List.flatten_singleton, List.nil_append]

end Storm

end LibModbus
