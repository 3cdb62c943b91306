import LibModbus.Client.Contexts
import LibModbus.Library.Objects
import LibModbus.Shared.Exchanges
import LibModbus.Stream.Bus

/-! One master and many slaves on a serial line. All of them receive what one of them sends, and each
slave reads what it received when it comes round to it. -/

namespace LibModbus

open Library Library.Prog

def World.hear (w : World) (bytes : List UInt8) : World := { w with rx := w.rx ++ bytes }

lemma hear_nil (w : World) : w.hear [] = w := by
  rw [World.hear, List.append_nil]

structure Line (ι : Type) where
  master : World
  station : ι → World
  mapping : ι → Mapping
  pending : Option Pending

inductive LineAct (ι : Type) where
  | call (k : ι) (x : Exchange)
  | serve (i : ι) (r : Round)
  | ret

def LineAct.called {ι : Type} : LineAct ι → Option (ι × Exchange)
  | .call k x => some (k, x)
  | .serve _ _ | .ret => none

namespace Line

variable {ι : Type} [DecidableEq ι]

def address (line : Line ι) (i : ι) : ℤ := (line.station i).ctx.slave

/-- A station has taken a round, and the others hear what it sends. -/
def served (line : Line ι) (i : ι) (reply : Reply) (w : World) : Line ι :=
  { line with
    master := line.master.hear w.tx
    station := fun j => if j = i then { w with tx := [] } else (line.station j).hear w.tx
    mapping := Function.update line.mapping i reply.mapping }

def step (line : Line ι) :
    LineAct ι → Option (Line ι × List (Atomic.Event Unit (ι × Exchange) Result))
  | .call k x =>
    match line.pending, (do let _ ← modbusSetSlave (line.address k); x.call.operation.issue :
        M (ℤ × List UInt8)) { line.master with script := x.clientScript } with
    | none, .done (rc, req) w =>
      some ({ line with
        master := { w with tx := [] }
        station := fun i => (line.station i).hear w.tx
        pending := some ⟨x, rc, req⟩ }, [.call () (k, x)])
    | _, _ => none
  | .serve i r =>
    match serveRequest r.buf (line.mapping i) { line.station i with script := r.script } with
    | .done (_, reply) w => some (line.served i reply w, [])
    | .blocked _ => none
  | .ret =>
    match line.pending with
    | some p =>
      match p.exchange.call.operation.confirm p.exchange.stack p.rc p.req p.exchange.dest
          line.master with
      | .done (rc, dest) w =>
        some ({ line with master := w, pending := none },
          [.ret () ⟨rc, dest, if rc = -1 then some w.errno else none⟩])
      | .blocked _ => none
    | none => none

structure Linked (line : Line ι) : Prop where
  master : line.master.ctx.backend = .rtu
  station : ∀ i, (line.station i).ctx.backend = .rtu
  address : ∀ i, 0 < line.address i ∧ line.address i ≤ 247
  distinct : Function.Injective line.address
  masterRx : line.master.rx = []
  masterTx : line.master.tx = []
  receiving : ∀ i, (line.station i).ctx.confirmationToIgnore = false
  rx : ∀ i, (line.station i).rx = []
  tx : ∀ i, (line.station i).tx = []
  pending : line.pending = none

end Line

/-- Each slave of the line has a bank, and an operation is on the bank of the slave it is sent to. -/
def Bank.performAt {ι : Type} [DecidableEq ι] (banks : ι → Bank) (op : ι × Exchange) :
    (ι → Bank) × Result :=
  (Function.update banks op.1 ((banks op.1).perform op.2).1, ((banks op.1).perform op.2).2)

section Stations

/-- Bytes of messages that are not for this station nor for all. From one value of its flag
`confirmation_to_ignore` to the other, the station takes them for messages it ignores. -/
inductive Overheard (own : ℤ) : Bool → List UInt8 → Bool → Prop
  | nil {flag : Bool} : Overheard own flag [] flag
  | message {flag flag' : Bool} {frame rest : List UInt8}
      (hframe : IsFrame .rtu (if flag then .confirmation else .indication) frame)
      (hother : ∀ x ∈ frame.head?, (x.toNat : ℤ) ≠ own ∧ (x.toNat : ℤ) ≠ modbusBroadcastAddress)
      (hrest : Overheard own (!flag) rest flag') : Overheard own flag (frame ++ rest) flag'

lemma Overheard.append {own : ℤ} {flag flag' flag'' : Bool} {xs ys : List UInt8}
    (h : Overheard own flag xs flag') (h' : Overheard own flag' ys flag'') :
    Overheard own flag (xs ++ ys) flag'' := by
  induction h with
  | nil => exact h'
  | message hframe hother _ ih =>
    rw [List.append_assoc]
    exact .message hframe hother (ih h')

structure Listens (address : ℤ) (own : List UInt8) (flag : Bool) (w : World) : Prop where
  backend : w.ctx.backend = .rtu
  slave : w.ctx.slave = address
  tx : w.tx = []
  rx : ∃ xs, w.rx = xs ++ own ∧ Overheard address w.ctx.confirmationToIgnore xs flag

variable {address : ℤ} {flag : Bool} {w : World} {frame own : List UInt8}

lemma Listens.hear_other (h : Listens address [] flag w)
    (hframe : IsFrame .rtu (if flag then .confirmation else .indication) frame)
    (hother : ∀ x ∈ frame.head?, (x.toNat : ℤ) ≠ address ∧ (x.toNat : ℤ) ≠ modbusBroadcastAddress) :
    Listens address [] (!flag) (w.hear frame) where
  backend := h.backend
  slave := h.slave
  tx := h.tx
  rx := by
    obtain ⟨xs, hrx, hxs⟩ := h.rx
    refine ⟨xs ++ frame, ?_, hxs.append ?_⟩
    · rw [World.hear, hrx, List.append_nil, List.append_nil]
    · rw [← List.append_nil frame]
      exact .message hframe hother .nil

lemma Listens.hear_own (h : Listens address [] flag w) (own : List UInt8) :
    Listens address own flag (w.hear own) where
  backend := h.backend
  slave := h.slave
  tx := h.tx
  rx := by
    obtain ⟨xs, hrx, hxs⟩ := h.rx
    exact ⟨xs, by rw [World.hear, hrx, List.append_nil], hxs⟩

def SameTx (w w' : World) : Prop := w'.tx = w.tx

instance : Quiet SameTx where
  refl _ := rfl
  trans _ _ _ h h' := Eq.trans h' h
  script _ _ _ := rfl
  errno _ _ := rfl
  call _ _ _ := rfl
  rx _ _ := rfl
  socket _ _ := rfl

lemma modbusReceive_sameTx (req : Mem UInt8) : Keeps SameTx (modbusReceive req) := by
  have hreceive (msgType : MsgType) : Keeps SameTx (receiveMsg msgType req) :=
    Neutral.receiveMsg (fun _ _ _ => rfl) msgType req
  have hignore (b : Bool) : Keeps SameTx (setConfirmationToIgnore b) := fun _ => rfl
  refine .bind Neutral.getCtx fun ctx => ?_
  cases ctx.backend with
  | tcp | tcpPi => exact hreceive .indication
  | rtu =>
    exact .bind Neutral.getCtx fun ctx => .ite
      (.bind (hreceive _) fun _ => .bind (hignore false) fun _ => .pure _)
      (.bind (hreceive _) fun _ => .ite (.bind (hignore true) fun _ => .pure _) (.pure _))

lemma notForMe_head (hframe : frame ≠ [])
    (hother : ∀ x ∈ frame.head?, (x.toNat : ℤ) ≠ w.ctx.slave ∧ (x.toNat : ℤ) ≠ modbusBroadcastAddress)
    (m : Mem UInt8) (hm : m.Holds frame) : notForMe w.ctx m = true := by
  obtain ⟨x, rest, rfl⟩ := List.exists_cons_of_ne_nil hframe
  have h0 : m 0 = x := hm 0 (Nat.succ_pos _)
  rw [notForMe, h0, decide_eq_true_eq]
  exact hother x rfl

lemma modbusReceive_other {rest : List UInt8} (hb : w.ctx.backend = .rtu)
    (hframe : IsFrame .rtu (if w.ctx.confirmationToIgnore then .confirmation else .indication) frame)
    (hother : ∀ x ∈ frame.head?, (x.toNat : ℤ) ≠ w.ctx.slave ∧ (x.toNat : ℤ) ≠ modbusBroadcastAddress)
    (hrx : w.rx = frame ++ rest) (hf : Flows (2 * maxMessageLength) w.script) (buf : Mem UInt8) :
    ∃ w', modbusReceive buf w = .done (0, buf.write 0 frame) w' ∧ w'.rx = rest ∧
      w'.ctx = { w.ctx with confirmationToIgnore := !w.ctx.confirmationToIgnore } := by
  have hne : frame ≠ [] := List.ne_nil_of_length_pos hframe.pos
  have hflows : Flows (2 * frame.length + 0) w.script :=
    hf.mono (Nat.mul_le_mul_left 2 (hframe.allowed.trans (maxAduLength_le _)))
  cases hflag : w.ctx.confirmationToIgnore with
  | false =>
    rw [hflag] at hframe
    obtain ⟨w', hr, hrx', hctx, -⟩ :=
      modbusReceive_foreign hb hrx hflows (notForMe_head hne hother) hflag hframe buf
    exact ⟨w', hr, hrx', hctx⟩
  | true =>
    rw [hflag] at hframe
    obtain ⟨w', hr, hrx', hctx, -⟩ :=
      modbusReceive_answer hb hrx hflows (notForMe_head hne hother) hflag hframe buf
    exact ⟨w', hr, hrx', hctx⟩

lemma Listens.serve (h : Listens address own flag w) (r : Round) (mb : Mapping) :
    w.rx = own ∧ w.ctx.confirmationToIgnore = flag ∨
      ∃ w', serveRequest r.buf mb { w with script := r.script } = .done (0, ⟨mb, [], none, false⟩) w' ∧
        w'.tx = [] ∧ w'.rx.length < w.rx.length ∧ Listens address own flag { w' with tx := [] } := by
  obtain ⟨xs, hrx, hxs⟩ := h.rx
  have hflow := r.flows.mono (Nat.le_succ (2 * maxMessageLength))
  generalize hb : w.ctx.confirmationToIgnore = b at hxs
  cases hxs with
  | nil => exact .inl ⟨hrx, rfl⟩
  | @message _ _ frame rest hframe hother hrest =>
    right
    rw [List.append_assoc] at hrx
    obtain ⟨w', hr, hrx', hctx⟩ := modbusReceive_other (w := { w with script := r.script }) h.backend
      (by rw [hb]; exact hframe) (by rw [h.slave]; exact hother) hrx hflow r.buf
    have htx : w'.tx = [] := ((modbusReceive_sameTx r.buf).done hr).trans h.tx
    refine ⟨w', ?_, htx, ?_, ?_, ?_, rfl, rest, hrx', ?_⟩
    · rw [serveRequest, bind_done hr]
      rfl
    · have := hframe.pos
      rw [hrx', hrx, @List.length_append _ frame]
      omega
    · exact (congrArg Modbus.backend hctx).trans h.backend
    · exact (congrArg Modbus.slave hctx).trans h.slave
    · rw [← hb] at hrest
      rw [show ({ w' with tx := [] } : World).ctx = _ from hctx]
      exact hrest

end Stations

lemma modbusSetSlave_rtu {w : World} {slave : ℤ} (hb : w.ctx.backend = .rtu)
    (h : 0 ≤ slave ∧ slave ≤ 247) :
    modbusSetSlave slave w = .done 0 { w with ctx := { w.ctx with slave } } := by
  rw [modbusSetSlave, bind_getCtx, hb]
  dsimp only
  rw [rtuSetSlave, if_pos h]
  rfl

section Heads

variable {ctx : Modbus} {call : ClientCall} (hb : ctx.backend = .rtu) (h₀ : 0 ≤ ctx.slave)
  (h₁ : ctx.slave < 256)

include hb h₀ h₁

lemma request_head : ∀ x ∈ (call.request ctx).head?, (x.toNat : ℤ) = ctx.slave := by
  intro x hx
  have hm := Mem.holds_write_self (fun _ => 0) (call.request ctx)
  rw [← request_slave hm hb h₀ h₁]
  obtain ⟨rest, hreq⟩ := List.head?_eq_some_iff.mp hx
  rw [hreq] at hm ⊢
  rw [hm 0 (Nat.succ_pos _)]
  rfl

lemma RepliesWith.head {answer : Option Data} {response : List UInt8}
    (h : RepliesWith ctx call answer response) :
    ∀ x ∈ response.head?, (x.toNat : ℤ) = ctx.slave := by
  intro x hx
  obtain ⟨m, rsp, header, pdu, hm, hshape, -, rfl⟩ := h
  have hsent := Mem.holds_write_self (fun _ => 0) (sendMsgPre ctx.backend rsp)
  have hlen : 0 < ctx.backend.headerLength := by rw [hb]; decide
  rw [← request_slave hm hb h₀ h₁, ← hshape.header_eq 0 hlen (.inl (by decide)),
    ← header_sendMsgPre hshape.header_length (hshape.split ▸ hsent) hlen (by decide) (by decide)]
  obtain ⟨rest, hrsp⟩ := List.head?_eq_some_iff.mp hx
  rw [hshape.split] at hrsp
  rw [hshape.split, hrsp] at hsent
  rw [hrsp, hsent 0 (Nat.succ_pos _)]
  rfl

omit hb h₀ h₁ in
lemma RepliesWith.frame {answer : Option Data} {response : List UInt8}
    (h : RepliesWith ctx call answer response) : IsFrame ctx.backend .confirmation response := by
  obtain ⟨m, rsp, header, pdu, -, hshape, -, rfl⟩ := h
  exact hshape.frame

end Heads

namespace Line

variable {ι : Type} [DecidableEq ι] {a : ι → ℤ} {line : Line ι}
  {s : Atomic.State (ι → Bank) Unit (ι × Exchange) Result}

/-- How far the operation of the master has come, and what each station has in front of it: its own
request, and the value its flag will have when it has read what comes before. -/
inductive Stands (a : ι → ℤ) (pending : Option Pending) (master : World) :
    Atomic.Status (ι × Exchange) Result → (ι → List UInt8) → (ι → Bool) → Prop
  | idle (hp : pending = none) (hrx : master.rx = []) :
      Stands a pending master .idle (fun _ => []) (fun _ => false)
  | called {k : ι} {ctx : Modbus} {p : Pending} (hp : pending = some p) (hs : p.Sent ctx master)
      (hslave : ctx.slave = a k) (hrx : master.rx = []) :
      Stands a pending master (.called (k, p.exchange))
        (fun i => if i = k then p.exchange.call.request ctx else []) (fun i => decide (i ≠ k))
  | answered {ctx : Modbus} {p : Pending} {bank : Bank} (hp : pending = some p)
      (hs : p.Sent ctx master) (hslave : 0 ≤ ctx.slave ∧ ctx.slave < 256)
      (ha : RepliesWith ctx p.exchange.call (bank.step p.exchange.request).2 master.rx) :
      Stands a pending master (.answered (p.exchange.result (bank.step p.exchange.request).2))
        (fun _ => []) (fun _ => false)

structure Refines (a : ι → ℤ) (line : Line ι)
    (s : Atomic.State (ι → Bank) Unit (ι × Exchange) Result) : Prop where
  backend : line.master.ctx.backend = .rtu
  masterTx : line.master.tx = []
  represents : ∀ i, Bank.Represents (line.mapping i) (s.object i)
  stands : ∃ own flag, Stands a line.pending line.master (s.status ()) own flag ∧
    ∀ i, Listens (a i) (own i) (flag i) (line.station i)

variable (hrange : ∀ i, 0 < a i ∧ a i ≤ 247) (hdistinct : Function.Injective a)

abbrev Simulates (a : ι → ℤ) (s : Atomic.State (ι → Bank) Unit (ι × Exchange) Result)
    (line' : Line ι) (es : List (Atomic.Event Unit (ι × Exchange) Result)) : Prop :=
  ∃ acts s', Schedule.run (Atomic.step Bank.performAt) s acts = some (s', es) ∧ Refines a line' s'

lemma Refines.pending (h : Refines a line s) : line.pending = none ↔ s.status () = .idle := by
  obtain ⟨own, flag, hst, -⟩ := h.stands
  generalize s.status () = st at hst
  cases hst with
  | idle hp => simp [hp]
  | called hp | answered hp => simp [hp]

def turn (s : Atomic.State (ι → Bank) Unit (ι × Exchange) Result)
    (st : Atomic.Status (ι × Exchange) Result) : Atomic.State (ι → Bank) Unit (ι × Exchange) Result :=
  { s with status := Function.update s.status () st }

omit [DecidableEq ι] in
@[simp] lemma turn_status (st : Atomic.Status (ι × Exchange) Result) : (turn s st).status () = st := by
  simp [turn]

include hrange hdistinct in
lemma call_idle (h : Refines a line s) (hstatus : s.status () = .idle) (k : ι) (x : Exchange) :
    ∃ line', line.step (.call k x) = some (line', [.call () (k, x)]) ∧
      Refines a line' (turn s (.called (k, x))) := by
  obtain ⟨own, flag, hst, hl⟩ := h.stands
  rw [hstatus] at hst
  cases hst with
  | idle hp hrx =>
    let addressed : World := { line.master with ctx := { line.master.ctx with slave := a k } }
    obtain ⟨h₀, h₁⟩ := hrange k
    obtain ⟨w, hissue, hctx, hrx', htx, hf⟩ := @issue_exchange addressed x hrx h.masterTx
    have hset : modbusSetSlave (line.address k) { line.master with script := x.clientScript } =
        .done 0 { addressed with script := x.clientScript } := by
      rw [show line.address k = a k from (hl k).slave]
      exact modbusSetSlave_rtu h.backend ⟨h₀.le, h₁⟩
    have hreq := @ClientCall.request_frame x.call addressed.ctx (CountsFrom_zero x.counts)
    rw [show addressed.ctx.backend = .rtu from h.backend] at hreq
    refine ⟨{ line with
        master := { w with tx := [] }
        station := fun i => (line.station i).hear w.tx
        pending := some ⟨x, _, _⟩ }, by rw [step, hp, bind_done hset, hissue], ?_⟩
    refine ⟨?_, rfl, h.represents, fun i => if i = k then x.call.request addressed.ctx else [],
      fun i => decide (i ≠ k), ?_, fun i => ?_⟩
    · rw [← h.backend]
      exact (congrArg Modbus.backend hctx).trans (nextRequest_backend _)
    · rw [turn_status]
      exact .called (k := k) (p := ⟨x, _, _⟩) rfl ⟨rfl, rfl, hctx, hf⟩ rfl hrx'
    · dsimp only
      by_cases hi : i = k
      · simp only [hi, if_true, htx, ne_eq, not_true, decide_false]
        exact (hl k).hear_own _
      · simp only [hi, if_false, htx, ne_eq, not_false_iff, decide_true]
        refine (hl i).hear_other hreq fun b hb => ?_
        rw [@request_head addressed.ctx x.call h.backend h₀.le (h₁.trans_lt (by decide)) b hb]
        exact ⟨fun hk => hi (hdistinct hk.symm), h₀.ne'⟩

lemma call_waits (h : Refines a line s) (hstatus : s.status () ≠ .idle) (k : ι) (x : Exchange) :
    line.step (.call k x) = none := by
  obtain ⟨own, flag, hst, hl⟩ := h.stands
  generalize s.status () = st at hst hstatus
  cases hst with
  | idle => exact absurd rfl hstatus
  | called hp | answered hp => rw [step, hp]

def taken (s : Atomic.State (ι → Bank) Unit (ι × Exchange) Result) (op : ι × Exchange) :
    Atomic.State (ι → Bank) Unit (ι × Exchange) Result :=
  turn { s with object := (Bank.performAt s.object op).1 } (.answered (Bank.performAt s.object op).2)

include hrange hdistinct in
lemma serve_own (h : Refines a line s) {k : ι} {ctx : Modbus} {p : Pending}
    (hp : line.pending = some p) (hs : p.Sent ctx line.master) (hslave : ctx.slave = a k)
    (hmrx : line.master.rx = []) (hk : Listens (a k) (p.exchange.call.request ctx) false (line.station k))
    (hl : ∀ i, i ≠ k → Listens (a i) [] true (line.station i))
    (hrx : (line.station k).rx = p.exchange.call.request ctx)
    (hflag : (line.station k).ctx.confirmationToIgnore = false) (r : Round) :
    ∃ line', line.step (.serve k r) = some (line', []) ∧ Refines a line' (taken s (k, p.exchange)) := by
  obtain ⟨h₀, h₁⟩ := hrange k
  have hb : ctx.backend = .rtu := hs.backend ▸ h.backend
  obtain ⟨w, reply, response, hserve, hrep, hanswer, hctx, hrx', htx⟩ := serve_exchange
    (w := { line.station k with script := r.script }) (x := p.exchange) []
    (hk.backend.trans hb.symm)
    (ClientCall.request_intact (hk.backend.trans hb.symm) fun _ =>
      ⟨hk.slave.trans hslave.symm, by omega, by omega⟩)
    (fun _ => hflag) (h.represents k) (by rw [List.append_nil]; exact hrx) r rfl
  have htx' : w.tx = response := by
    rw [htx, show (line.station k).tx = [] from hk.tx, List.nil_append]
  have hmaster : line.master.hear w.tx = { line.master with rx := response } := by
    rw [World.hear, hmrx, htx', List.nil_append]
  refine ⟨line.served k reply w, by rw [step, hserve], h.backend, h.masterTx, fun j => ?_, fun _ => [],
    fun _ => false, ?_, fun j => ?_⟩
  · by_cases hj : j = k
    · subst hj
      simpa [served, taken, turn, Bank.performAt, Bank.perform] using hrep
    · simpa [served, taken, turn, Bank.performAt, Function.update_of_ne hj] using h.represents j
  · rw [taken, turn_status, served, hmaster]
    exact .answered hp ⟨hs.rc, hs.req, hs.ctx, hs.flows⟩ ⟨by omega, by omega⟩ hanswer
  · dsimp only [served]
    by_cases hj : j = k
    · rw [if_pos hj, hj]
      refine ⟨(congrArg Modbus.backend hctx).trans hk.backend,
        (congrArg Modbus.slave hctx).trans hk.slave, rfl, [], hrx', ?_⟩
      rw [show ({ w with tx := [] } : World).ctx = _ from hctx]
      dsimp only
      rw [hflag]
      exact .nil
    · rw [if_neg hj, htx']
      refine (hl j hj).hear_other (hb ▸ hanswer.frame) fun b hb' => ?_
      rw [hanswer.head hb (by omega) (by omega) b hb', hslave]
      exact ⟨fun hi => hj (hdistinct hi.symm), h₀.ne'⟩

lemma serve_ignored (h : Refines a line s) {i : ι} {r : Round} {own : ι → List UInt8} {flag : ι → Bool}
    (hst : Stands a line.pending line.master (s.status ()) own flag)
    (hl : ∀ i, Listens (a i) (own i) (flag i) (line.station i)) {w : World}
    (hserve : serveRequest r.buf (line.mapping i) { line.station i with script := r.script } =
      .done (0, ⟨line.mapping i, [], none, false⟩) w) (htx : w.tx = [])
    (hlen : w.rx.length < (line.station i).rx.length)
    (hw : Listens (a i) (own i) (flag i) { w with tx := [] }) :
    ∃ line', line.step (.serve i r) = some (line', []) ∧ Refines a line' s ∧
      (line'.station i).rx.length < (line.station i).rx.length := by
  refine ⟨line.served i ⟨line.mapping i, [], none, false⟩ w, by rw [step, hserve], ?_,
    by simpa [served] using hlen⟩
  rw [served, htx, hear_nil, Function.update_eq_self]
  refine ⟨h.backend, h.masterTx, h.represents, own, flag, hst, fun j => ?_⟩
  dsimp only
  by_cases hj : j = i
  · rwa [if_pos hj, hj]
  · rw [if_neg hj, hear_nil]
    exact hl j

include hrange hdistinct in
lemma serve_cases (h : Refines a line s) (i : ι) (r : Round) :
    (∃ line', line.step (.serve i r) = some (line', []) ∧ Refines a line' s ∧
      (line'.station i).rx.length < (line.station i).rx.length) ∨
    (∃ x line', s.status () = .called (i, x) ∧ line.step (.serve i r) = some (line', []) ∧
      Refines a line' (taken s (i, x))) ∨
    (line.step (.serve i r) = none ∧ ∀ x, s.status () ≠ .called (i, x)) := by
  obtain ⟨own, flag, hst, hl⟩ := h.stands
  rcases (hl i).serve r (line.mapping i) with ⟨hrx, hflag⟩ | ⟨w, hserve, htx, hlen, hw⟩
  · right
    have hwaits (hown : own i = []) : line.step (.serve i r) = none := by
      obtain ⟨w, hnothing⟩ := serveRequest_nothing (w := { line.station i with script := r.script })
        (hrx.trans hown) r rfl (line.mapping i)
      rw [step, hnothing]
    generalize hstatus : s.status () = st at hst
    cases hst with
    | idle | answered =>
      refine .inr ⟨hwaits rfl, fun x hx => ?_⟩
      cases hx
    | @called k ctx p hp hs hslave hmrx =>
      by_cases hi : i = k
      · subst hi
        have hk := hl i
        simp only [if_true, ne_eq, not_true, decide_false] at hrx hflag hk
        obtain ⟨line', hstep, hr⟩ := serve_own hrange hdistinct h hp hs hslave hmrx hk
          (fun j hj => by simpa [hj] using hl j) hrx hflag r
        exact .inl ⟨p.exchange, line', rfl, hstep, hr⟩
      · refine .inr ⟨hwaits (if_neg hi), fun x hx => hi ?_⟩
        cases hx
        rfl
  · exact .inl (serve_ignored h hst hl hserve htx hlen hw)

lemma ret_answered (h : Refines a line s) {res : Result} (hstatus : s.status () = .answered res) :
    ∃ line', line.step .ret = some (line', [.ret () res]) ∧
      Refines a line' (turn s .idle) := by
  obtain ⟨own, flag, hst, hl⟩ := h.stands
  rw [hstatus] at hst
  cases hst with
  | @answered ctx p bank hp hs hslave ha =>
    obtain ⟨w, rc, dest, hconfirm, hresult, hctx, hrx, htx⟩ := confirm_exchange hs.ctx
      (fun _ => hslave) ha rfl hs.flows
    refine ⟨{ line with master := w, pending := none },
      by simp only [step, hp, hs.rc, hs.req, hconfirm, hresult], ?_, htx.trans h.masterTx,
      h.represents, fun _ => [], fun _ => false, ?_, hl⟩
    · rw [← h.backend]
      exact congrArg Modbus.backend hctx
    · rw [turn_status]
      exact .idle rfl hrx

lemma ret_waits (h : Refines a line s) (hstatus : ∀ res, s.status () ≠ .answered res) :
    line.step .ret = none := by
  obtain ⟨own, flag, hst, hl⟩ := h.stands
  generalize s.status () = st at hst hstatus
  cases hst with
  | idle hp => rw [step, hp]
  | @called k ctx p hp hs hslave hrx =>
    obtain ⟨w, hconfirm⟩ := confirm_nothing p.exchange.call.operation p.exchange.stack p.req
      p.exchange.dest hrx hs.flows hs.pos
    simp only [step, hp, hconfirm]
  | answered => exact absurd rfl (hstatus _)

include hrange hdistinct in
lemma step_simulates (h : Refines a line s) (act : LineAct ι) {line' : Line ι}
    {es : List (Atomic.Event Unit (ι × Exchange) Result)} (hstep : line.step act = some (line', es)) :
    Simulates a s line' es := by
  cases act with
  | call k x =>
    by_cases hstatus : s.status () = .idle
    · obtain ⟨l, hl, hr⟩ := call_idle hrange hdistinct h hstatus k x
      rw [hl] at hstep
      cases hstep
      refine ⟨[.call () (k, x)], _, ?_, hr⟩
      rw [Schedule.run, Atomic.step, hstatus]
      rfl
    · rw [call_waits h hstatus] at hstep
      cases hstep
  | serve i r =>
    rcases serve_cases hrange hdistinct h i r with ⟨l, hl, hr, -⟩ | ⟨x, l, hstatus, hl, hr⟩ | ⟨hl, -⟩
    · rw [hl] at hstep
      cases hstep
      exact ⟨[], s, rfl, hr⟩
    · rw [hl] at hstep
      cases hstep
      refine ⟨[.effect ()], _, ?_, hr⟩
      rw [Schedule.run, Atomic.step, hstatus]
      rfl
    · rw [hl] at hstep
      cases hstep
  | ret =>
    by_cases hstatus : ∃ res, s.status () = .answered res
    · obtain ⟨res, hres⟩ := hstatus
      obtain ⟨l, hl, hr⟩ := ret_answered h hres
      rw [hl] at hstep
      cases hstep
      refine ⟨[.ret ()], _, ?_, hr⟩
      rw [Schedule.run, Atomic.step, hres]
      rfl
    · rw [ret_waits h fun res hres => hstatus ⟨res, hres⟩] at hstep
      cases hstep

include hrange hdistinct in
lemma called_returns (h : Refines a line s) {op : ι × Exchange} (hstatus : s.status () = .called op)
    (rounds : List Round) (hlen : (line.station op.1).rx.length ≤ rounds.length) :
    ∃ n line', Schedule.run step line ((rounds.take n).map (.serve op.1) ++ [.ret]) =
        some (line', [.ret () (Bank.performAt s.object op).2]) ∧
      Refines a line' (turn (taken s op) .idle) := by
  obtain ⟨k, x⟩ := op
  dsimp only at hlen ⊢
  induction rounds generalizing line with
  | nil =>
    have hrx : (line.station k).rx = [] := List.length_eq_zero_iff.mp (Nat.le_zero.mp hlen)
    obtain ⟨w, hnothing⟩ := serveRequest_nothing
      (w := { line.station k with script := serverRound.script }) hrx serverRound rfl (line.mapping k)
    have hwaits : line.step (.serve k serverRound) = none := by rw [step, hnothing]
    rcases serve_cases hrange hdistinct h k serverRound with ⟨l, hl, -⟩ | ⟨y, l, -, hl, -⟩ | ⟨-, hno⟩
    · simp [hwaits] at hl
    · simp [hwaits] at hl
    · exact absurd hstatus (hno x)
  | cons r rounds ih =>
    rcases serve_cases hrange hdistinct h k r with ⟨l, hl, hr, hless⟩ | ⟨y, l, hy, hl, hr⟩ | ⟨-, hno⟩
    · rw [List.length_cons] at hlen
      obtain ⟨n, line', hrun, hend⟩ := ih hr (by omega)
      exact ⟨n + 1, line', Schedule.run_cons_eq_some.mpr ⟨l, [], _, hl, hrun, rfl⟩, hend⟩
    · rw [hstatus] at hy
      cases hy
      obtain ⟨line', hret, hend⟩ := ret_answered hr (turn_status _)
      refine ⟨1, line', Schedule.run_cons_eq_some.mpr ⟨l, [], _, hl, ?_, rfl⟩, hend⟩
      exact Schedule.run_cons_eq_some.mpr ⟨line', _, [], hret, rfl, List.append_nil _⟩
    · exact absurd hstatus (hno x)

lemma Linked.refines {banks : ι → Bank} (h : line.Linked)
    (hrep : ∀ i, Bank.Represents (line.mapping i) (banks i)) :
    Refines line.address line (Atomic.start banks) where
  backend := h.master
  masterTx := h.masterTx
  represents := hrep
  stands := ⟨_, _, .idle h.pending h.masterRx, fun i =>
    ⟨h.station i, rfl, h.tx i, [], h.rx i, by rw [h.receiving i]; exact .nil⟩⟩

lemma Linked.simulates {banks : ι → Bank} (h : line.Linked)
    (hrep : ∀ i, Bank.Represents (line.mapping i) (banks i)) {acts : List (LineAct ι)}
    {line' : Line ι} {history : List (Atomic.Event Unit (ι × Exchange) Result)}
    (hrun : Schedule.run step line acts = some (line', history)) :
    ∃ s, Refines line.address line' s ∧
      Atomic.Follows Bank.performAt banks s.object history (s.status ()) := by
  have hsteps (l : Line ι) (s) (act : LineAct ι) (l' : Line ι) (es) (hr : Refines line.address l s)
      (hs : step l act = some (l', es)) : Simulates line.address s l' es :=
    step_simulates h.address h.distinct hr act hs
  obtain ⟨acts', s, hs, hr⟩ := Schedule.run_simulates hsteps (h.refines hrep) hrun
  exact ⟨s, hr, Atomic.alone hs⟩

lemma step_called {act : LineAct ι} {line' : Line ι} {es : List (Atomic.Event Unit (ι × Exchange) Result)}
    (h : line.step act = some (line', es)) : es.filterMap Atomic.Event.called = act.called.toList := by
  cases act with
  | call k x =>
    simp only [step] at h
    split at h
    · cases h
      rfl
    · cases h
  | serve i r =>
    simp only [step] at h
    split at h
    · cases h
      rfl
    · cases h
  | ret =>
    simp only [step] at h
    split at h
    · split at h
      · cases h
        rfl
      · cases h
    · cases h

lemma run_called {acts : List (LineAct ι)} {line' : Line ι}
    {history : List (Atomic.Event Unit (ι × Exchange) Result)}
    (h : Schedule.run step line acts = some (line', history)) :
    history.filterMap Atomic.Event.called = acts.filterMap LineAct.called := by
  induction acts generalizing line history with
  | nil =>
    cases h
    rfl
  | cons act acts ih =>
    obtain ⟨line₁, es, later, hstep, hrun, rfl⟩ := Schedule.run_cons_eq_some.mp h
    rw [List.filterMap_append, ih hrun, step_called hstep, List.filterMap_cons]
    cases act.called <;> rfl

end Line

/-- Whatever the schedule, the master gets the answers of the banks to its operations one after the
other. Each operation is carried out by the slave it is sent to and by no other, and between operations
the tables are those of the banks. -/
theorem line_sequential {ι : Type} [DecidableEq ι] {line line' : Line ι} {banks : ι → Bank}
    (hl : line.Linked) (hrep : ∀ i, Bank.Represents (line.mapping i) (banks i)) {acts : List (LineAct ι)}
    {history : List (Atomic.Event Unit (ι × Exchange) Result)}
    (hrun : Schedule.run Line.step line acts = some (line', history)) :
    history.filterMap Atomic.Event.returned <+:
        (Atomic.sequential Bank.performAt banks (history.filterMap Atomic.Event.called)).2 ∧
      (line'.pending = none → ∀ i, Bank.Represents (line'.mapping i)
        ((Atomic.sequential Bank.performAt banks (history.filterMap Atomic.Event.called)).1 i)) := by
  obtain ⟨s, hr, hfollows⟩ := hl.simulates hrep hrun
  refine ⟨hfollows.returned, fun hp i => ?_⟩
  obtain ⟨own, flag, hst, -⟩ := hr.stands
  generalize s.status () = st at hst hfollows
  cases hst with
  | idle =>
    cases hfollows with
    | idle hseq =>
      rw [hseq]
      exact hr.represents i
  | called hp' | answered hp' =>
    rw [hp] at hp'
    cases hp'

/-- In every run an operation that has not returned can still do so: the slave it is sent to reads what
it has heard, in at most as many rounds as that has bytes, and then the master has its answer. -/
theorem line_returns {ι : Type} [DecidableEq ι] {line line' : Line ι} {banks : ι → Bank}
    (hl : line.Linked) (hrep : ∀ i, Bank.Represents (line.mapping i) (banks i)) {acts : List (LineAct ι)}
    {history : List (Atomic.Event Unit (ι × Exchange) Result)}
    (hrun : Schedule.run Line.step line acts = some (line', history)) (hp : line'.pending ≠ none) :
    ∃ k x res, (history.filterMap Atomic.Event.called).getLast? = some (k, x) ∧
      (Atomic.sequential Bank.performAt banks (history.filterMap Atomic.Event.called)).2 =
        history.filterMap Atomic.Event.returned ++ [res] ∧
      ∀ rounds : List Round, (line'.station k).rx.length ≤ rounds.length → ∃ n line'',
        Schedule.run Line.step line' ((rounds.take n).map (.serve k) ++ [.ret]) =
          some (line'', [.ret () res]) := by
  obtain ⟨s, hr, hfollows⟩ := hl.simulates hrep hrun
  obtain ⟨own, flag, hst, -⟩ := hr.stands
  generalize hstatus : s.status () = st at hst hfollows
  cases hst with
  | idle hp' => exact absurd hp' hp
  | called =>
    cases hfollows with
    | called hcalls hseq =>
      rw [hcalls, Atomic.sequential_concat, hseq]
      refine ⟨_, _, _, List.getLast?_concat, rfl, fun rounds hlen => ?_⟩
      obtain ⟨n, line'', hret, -⟩ :=
        Line.called_returns hl.address hl.distinct hr hstatus rounds hlen
      exact ⟨n, line'', hret⟩
  | answered =>
    cases hfollows with
    | answered hseq =>
      have hne : history.filterMap Atomic.Event.called ≠ [] := by
        intro hnil
        rw [hnil] at hseq
        exact List.append_ne_nil_of_right_ne_nil _ (List.cons_ne_nil _ _) (congrArg Prod.snd hseq).symm
      rw [hseq]
      refine ⟨_, _, _, List.getLast?_eq_some_getLast hne, rfl, fun rounds _ => ?_⟩
      obtain ⟨line'', hret, -⟩ := Line.ret_answered hr hstatus
      exact ⟨0, line'', Schedule.run_cons_eq_some.mpr ⟨line'', _, [], hret, rfl, List.append_nil _⟩⟩

def smallLine : Line Bool where
  master := .start modbusNewRtu [] []
  station i := .start { modbusNewRtu with slave := if i then 17 else 5 } [] []
  mapping _ := ⟨0, 0, 0, 2, fun _ => 0, fun _ => 0, fun _ => 0, fun _ => 0⟩
  pending := none

def smallBank : Bank := ⟨[], [], [0, 0], []⟩

lemma smallLine_linked : smallLine.Linked where
  master := rfl
  station _ := rfl
  address i := by cases i <;> decide
  distinct i j h := by
    cases i <;> cases j
    · rfl
    · exact absurd h (by decide)
    · exact absurd h (by decide)
    · rfl
  masterRx := rfl
  masterTx := rfl
  receiving _ := rfl
  rx _ := rfl
  tx _ := rfl
  pending := rfl

lemma smallLine_represents (i : Bool) : Bank.Represents (smallLine.mapping i) smallBank :=
  ⟨rfl, rfl, rfl, rfl⟩

/-- The second slave reads the request to the first one and its answer before its own request. -/
def overhearing : List (LineAct Bool) :=
  [.call true writeSecond, .serve true serverRound, .ret, .call false readBoth] ++
    List.replicate 3 (.serve false serverRound) ++ [.ret]

theorem line_sequential_example : ∃ line' history, Schedule.run Line.step smallLine overhearing =
      some (line', history) ∧
    history.filterMap Atomic.Event.returned <+:
      [writeSecond.result (some .written), readBoth.result (some (.words [0, 0]))] ∧
    ∀ i, Bank.Represents (line'.mapping i) (if i then ⟨[], [], [0, 7], []⟩ else smallBank) := by
  have hends : (Schedule.run Line.step smallLine overhearing).map (fun r => r.1.pending.isSome) = some false := by
    decide +kernel
  obtain ⟨⟨line', history⟩, hrun, hp⟩ := Option.map_eq_some_iff.mp hends
  have hcalled : history.filterMap Atomic.Event.called = [(true, writeSecond), (false, readBoth)] :=
    Line.run_called hrun
  obtain ⟨hreturned, hbanks⟩ := line_sequential smallLine_linked smallLine_represents hrun
  rw [hcalled] at hreturned hbanks
  refine ⟨line', history, hrun, hreturned, fun i => ?_⟩
  have hbank := hbanks (Option.isSome_eq_false_iff.mp hp |> Option.isNone_iff_eq_none.mp) i
  cases i <;> exact hbank

theorem line_returns_example : ∃ line' line'' n res, Schedule.run Line.step smallLine
      [.call true writeSecond] = some (line', [.call () (true, writeSecond)]) ∧
    Schedule.run Line.step line' ((List.replicate n serverRound).map (.serve true) ++ [.ret]) =
      some (line'', [.ret () res]) := by
  obtain ⟨line', hcall, hr⟩ := Line.call_idle smallLine_linked.address smallLine_linked.distinct
    (smallLine_linked.refines smallLine_represents) rfl true writeSecond
  have hrun : Schedule.run Line.step smallLine [.call true writeSecond] =
      some (line', [.call () (true, writeSecond)]) :=
    Schedule.run_cons_eq_some.mpr ⟨line', _, [], hcall, rfl, rfl⟩
  have hp : line'.pending ≠ none := by
    rw [Ne, hr.pending, Line.turn_status]
    simp
  obtain ⟨k, x, res, hlast, -, hreturns⟩ :=
    line_returns smallLine_linked smallLine_represents hrun hp
  cases hlast
  obtain ⟨n, line'', hret⟩ := hreturns
    (List.replicate (line'.station true).rx.length serverRound) (by rw [List.length_replicate])
  rw [List.take_replicate] at hret
  exact ⟨line', line'', _, res, hrun, hret⟩

end LibModbus
