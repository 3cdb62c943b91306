import LibModbus.Library.Objects
import LibModbus.Shared.Exchanges

/-! One server and many masters in TCP, each with a connection of its own. The server turns to a
connection with `modbus_set_socket`, in any order, while other masters wait for their answers. -/

namespace LibModbus

open Library Library.Prog

/-- `inbox` holds what a master sent on its connection and the server did not receive yet. -/
structure Hub (C : Type) where
  server : World
  mapping : Mapping
  socket : C → ℤ
  inbox : C → List UInt8
  master : C → World
  pending : C → Option Pending

/-- The fields for the server of an exchange are not used: they come with its rounds. -/
inductive HubAct (C : Type) where
  | call (c : C) (x : Exchange)
  | serve (c : C) (r : Round)
  | ret (c : C)

namespace Hub

variable {C : Type} [DecidableEq C]

/-- A step that would wait is not possible yet. -/
def step (hub : Hub C) : HubAct C → Option (Hub C × List (Atomic.Event C Exchange Result))
  | .call c x =>
    match hub.pending c, x.call.operation.issue { hub.master c with script := x.clientScript } with
    | none, .done (rc, req) w =>
      some ({ hub with
        inbox := Function.update hub.inbox c (hub.inbox c ++ w.tx)
        master := Function.update hub.master c { w with tx := [] }
        pending := Function.update hub.pending c (some ⟨x, rc, req⟩) }, [.call c x])
    | _, _ => none
  | .serve c r =>
    match (do modbusSetSocket (hub.socket c); serveRequest r.buf hub.mapping : M (ℤ × Reply))
        { hub.server with rx := hub.inbox c, script := r.script } with
    | .done (_, reply) w =>
      some ({ hub with
        server := { w with rx := [], tx := [] }
        mapping := reply.mapping
        inbox := Function.update hub.inbox c w.rx
        master := Function.update hub.master c { hub.master c with rx := (hub.master c).rx ++ w.tx } },
        [])
    | .blocked _ => none
  | .ret c =>
    match hub.pending c with
    | some p =>
      match p.exchange.call.operation.confirm p.exchange.stack p.rc p.req p.exchange.dest
          (hub.master c) with
      | .done (rc, dest) w =>
        some ({ hub with
          master := Function.update hub.master c w
          pending := Function.update hub.pending c none },
          [.ret c ⟨rc, dest, if rc = -1 then some w.errno else none⟩])
      | .blocked _ => none
    | none => none

end Hub

def HubAct.act {C : Type} : HubAct C → Atomic.Act C Exchange
  | call c x => .call c x
  | serve c _ => .effect c
  | ret c => .ret c

namespace Hub

variable {C : Type} [DecidableEq C] {hub : Hub C} {c : C}

structure Linked (hub : Hub C) : Prop where
  tcp : hub.server.ctx.backend ≠ .rtu
  backend : ∀ c, (hub.master c).ctx.backend = hub.server.ctx.backend
  serverTx : hub.server.tx = []
  inbox : ∀ c, hub.inbox c = []
  rx : ∀ c, (hub.master c).rx = []
  tx : ∀ c, (hub.master c).tx = []
  pending : ∀ c, hub.pending c = none

inductive At (pending : Option Pending) (inbox : List UInt8) (w : World) :
    Atomic.Status Exchange Result → Prop
  | idle (hp : pending = none) (hi : inbox = []) (hrx : w.rx = []) : At pending inbox w .idle
  | called {ctx : Modbus} {p : Pending} (hp : pending = some p) (hs : p.Sent ctx w)
      (hi : inbox = p.exchange.call.request ctx) (hrx : w.rx = []) :
      At pending inbox w (.called p.exchange)
  | answered {ctx : Modbus} {p : Pending} {bank : Bank} (hp : pending = some p) (hs : p.Sent ctx w)
      (hi : inbox = []) (ha : RepliesWith ctx p.exchange.call (bank.step p.exchange.request).2 w.rx) :
      At pending inbox w (.answered (p.exchange.result (bank.step p.exchange.request).2))

structure Refines (hub : Hub C) (s : Atomic.State Bank C Exchange Result) : Prop where
  tcp : hub.server.ctx.backend ≠ .rtu
  backend : ∀ c, (hub.master c).ctx.backend = hub.server.ctx.backend
  serverTx : hub.server.tx = []
  tx : ∀ c, (hub.master c).tx = []
  represents : Bank.Represents hub.mapping s.object
  stands : ∀ c, At (hub.pending c) (hub.inbox c) (hub.master c) (s.status c)

def Elsewhere (c : C) (hub hub' : Hub C) (s s' : Atomic.State Bank C Exchange Result) : Prop :=
  ∀ d, d ≠ c → hub'.pending d = hub.pending d ∧ hub'.inbox d = hub.inbox d ∧
    hub'.master d = hub.master d ∧ s'.status d = s.status d

variable {s : Atomic.State Bank C Exchange Result}

lemma Refines.next {hub' : Hub C} {s' : Atomic.State Bank C Exchange Result} (h : Refines hub s)
    (hserver : hub'.server.ctx.backend = hub.server.ctx.backend) (hserverTx : hub'.server.tx = [])
    (hrep : Bank.Represents hub'.mapping s'.object) (helse : Elsewhere c hub hub' s s')
    (hb : (hub'.master c).ctx.backend = (hub.master c).ctx.backend) (htx : (hub'.master c).tx = [])
    (hat : At (hub'.pending c) (hub'.inbox c) (hub'.master c) (s'.status c)) : Refines hub' s' where
  tcp := hserver ▸ h.tcp
  backend d := by
    by_cases hd : d = c
    · rw [hd, hb, hserver, h.backend]
    · rw [(helse d hd).2.2.1, hserver, h.backend]
  serverTx := hserverTx
  tx d := by
    by_cases hd : d = c
    · rw [hd, htx]
    · rw [(helse d hd).2.2.1, h.tx]
  represents := hrep
  stands d := by
    by_cases hd : d = c
    · rwa [hd]
    · obtain ⟨h₁, h₂, h₃, h₄⟩ := helse d hd
      rw [h₁, h₂, h₃, h₄]
      exact h.stands d

abbrev Same (r : Hub C × List (Atomic.Event C Exchange Result))
    (r' : Atomic.State Bank C Exchange Result × List (Atomic.Event C Exchange Result)) : Prop :=
  Refines r.1 r'.1 ∧ r.2 = r'.2

lemma call_same (h : Refines hub s) (c : C) (x : Exchange) :
    Option.Rel Same (hub.step (.call c x)) (Atomic.step Bank.perform s (.call c x)) := by
  have hat := h.stands c
  rw [step, Atomic.step]
  generalize hst : s.status c = st at hat
  cases hat with
  | idle hp hi hrx =>
    obtain ⟨w, hissue, hctx, hrx', htx, hf⟩ := @issue_exchange (hub.master c) x hrx (h.tx c)
    rw [hp, hissue]
    refine .some ⟨h.next (c := c) rfl h.serverTx h.represents (fun d hd => ?_) ?_ ?_ ?_, rfl⟩
    · simp [Function.update_of_ne hd]
    · simp [hctx]
    · simp
    · simp only [Function.update_self]
      exact .called rfl ⟨rfl, rfl, hctx, hf⟩ (by rw [hi, htx]; rfl) hrx'
  | called hp | answered hp =>
    rw [hp]
    exact .none

def turned (hub : Hub C) (c : C) (r : Round) : World :=
  { hub.server with
    ctx := { hub.server.ctx with s := hub.socket c }
    rx := hub.inbox c
    script := r.script }

omit [DecidableEq C] in
lemma serve_turned (c : C) (r : Round) :
    (do modbusSetSocket (hub.socket c); serveRequest r.buf hub.mapping : M (ℤ × Reply))
        { hub.server with rx := hub.inbox c, script := r.script } =
      serveRequest r.buf hub.mapping (hub.turned c r) := rfl

lemma serve_same (h : Refines hub s) (c : C) (r : Round) :
    Option.Rel Same (hub.step (.serve c r)) (Atomic.step Bank.perform s (.effect c)) := by
  have hat := h.stands c
  rw [step, Atomic.step, serve_turned]
  generalize hst : s.status c = st at hat
  cases hat with
  | @called ctx p hp hs hi hrx =>
    have hb : hub.server.ctx.backend = ctx.backend := by rw [← h.backend c, hs.backend]
    obtain ⟨w, reply, response, hserve, hrep, hanswer, hctx, hrx', htx⟩ := serve_exchange
      (w := hub.turned c r) [] hb (intact_tcp h.tcp _) (fun hr => absurd hr h.tcp)
      h.represents (by rw [List.append_nil]; exact hi) r rfl
    rw [hserve]
    refine .some ⟨h.next (c := c) ?_ rfl hrep (fun d hd => ?_) ?_ ?_ ?_, rfl⟩
    · rw [hctx]
      rfl
    · simp [Function.update_of_ne hd]
    · simp
    · simp [h.tx c]
    · have htx' : w.tx = response := by
        rw [htx, turned, h.serverTx, List.nil_append]
      simp only [Function.update_self, hrx, htx', List.nil_append]
      exact .answered hp ⟨hs.rc, hs.req, hs.ctx, hs.flows⟩ hrx' hanswer
  | idle hp hi | answered hp hs hi =>
    obtain ⟨w, hserve⟩ := serveRequest_nothing (w := hub.turned c r) hi r rfl hub.mapping
    rw [hserve]
    exact .none

lemma ret_same (h : Refines hub s) (c : C) :
    Option.Rel Same (hub.step (.ret c)) (Atomic.step Bank.perform s (.ret c)) := by
  have hat := h.stands c
  rw [step, Atomic.step]
  generalize hst : s.status c = st at hat
  cases hat with
  | @answered ctx p bank hp hs hi ha =>
    have htcp : ctx.backend ≠ .rtu := hs.backend ▸ h.backend c ▸ h.tcp
    obtain ⟨w, rc, dest, hconfirm, hresult, hctx, hrx, htx⟩ := confirm_exchange hs.ctx
      (fun hr => absurd hr htcp) ha rfl hs.flows
    rw [hp]
    simp only [hs.rc, hs.req, hconfirm]
    refine .some ⟨h.next (c := c) rfl h.serverTx h.represents (fun d hd => ?_) ?_ ?_ ?_, by rw [hresult]⟩
    · simp [Function.update_of_ne hd]
    · simp [hctx]
    · simp [htx, h.tx c]
    · simp only [Function.update_self]
      exact .idle rfl hi hrx
  | idle hp =>
    rw [hp]
    exact .none
  | @called ctx p hp hs hi hrx =>
    obtain ⟨w, hconfirm⟩ := confirm_nothing p.exchange.call.operation p.exchange.stack p.req
      p.exchange.dest hrx hs.flows hs.pos
    rw [hp]
    simp only [hconfirm]
    exact .none

lemma step_same (act : HubAct C) (h : Refines hub s) :
    Option.Rel Same (hub.step act) (Atomic.step Bank.perform s act.act) := by
  cases act with
  | call c x => exact call_same h c x
  | serve c r => exact serve_same h c r
  | ret c => exact ret_same h c

omit [DecidableEq C] in
lemma Linked.refines {bank : Bank} (h : hub.Linked) (hrep : Bank.Represents hub.mapping bank) :
    Refines hub (Atomic.start bank) where
  tcp := h.tcp
  backend := h.backend
  serverTx := h.serverTx
  tx := h.tx
  represents := hrep
  stands c := .idle (h.pending c) (h.inbox c) (h.rx c)

end Hub

def twoMasters : Hub Bool where
  server := .start modbusNewTcp [] []
  mapping := ⟨0, 0, 0, 2, fun _ => 0, fun _ => 0, fun _ => 0, fun _ => 0⟩
  socket c := if c then 5 else 4
  inbox _ := []
  master _ := .start modbusNewTcp [] []
  pending _ := none

def crossed : List (HubAct Bool) :=
  [.call false writeSecond, .call true readBoth, .serve true serverRound, .serve false serverRound,
    .ret false, .ret true]

end LibModbus
