import LibModbus.Client.Endings
import LibModbus.Client.Stops
import LibModbus.Device.Connection
import LibModbus.Device.Units
import Mathlib.Data.Seq.Basic

/-! How an operation of a device comes to its end. -/

namespace LibModbus

open Library Library.Prog

namespace Actor

section Timely

variable {At : ℕ → ℕ → World → Prop} {Off : World → Prop} {p q r : ℕ} {α : Type}

abbrev Timely (At : ℕ → ℕ → World → Prop) (Off : World → Prop) (p q : ℕ) (m : Prog Actor α) : Prop :=
  Prog.Prompt (fun n k d => At n k d.world) (fun d => Off d.world) p q m

lemma calling_timely {m : M α} (h : Prog.Prompt At Off p q m) : Timely At Off p q (calling m) := by
  intro n hn k hk d hd
  unfold calling
  cases hm : m d.world with
  | blocked w => exact (h n hn k hk).blocked hd hm
  | done a w =>
    obtain ⟨k', hkk', hk', hw⟩ := (h n hn k hk).done hd hm
    refine ⟨k', hkk', hk', ?_⟩
    dsimp only
    rw [(elapseMeanwhile_link { d with world := w }).world]
    exact hw

lemma modify_timely {f : Actor → Actor} (h : ∀ d, (f d).world = d.world) :
    Timely At Off p p (Prog.modify f) := by
  refine .modify (fun n k d hd => ?_) le_rfl
  rw [h]
  exact hd

variable (hconnect : Prog.Prompt At Off p q modbusConnect)

include hconnect

lemma connect_timely : Timely At Off p q connect := by
  refine .bind (calling_timely hconnect) (fun rc => .ite (fun _ => ?_) fun _ => ?_) le_rfl
  · exact .on_state fun d _ => .pure _ le_rfl
  · refine .bind (modify_timely fun d => (startTimer_link d _).world) (fun _ => ?_) le_rfl
    refine .bind (modify_timely fun d => (startTimer_link d _).world) (fun _ => ?_) le_rfl
    exact .bind (modify_timely fun d => rfl) (fun _ => .pure _ le_rfl) le_rfl

lemma operation_timely {body : M (Except ModbusError α)} (hbody : Prog.Prompt At Off q r body)
    (hpq : p ≤ q) (hqr : q ≤ r) : Timely At Off p r (operation body) := by
  refine .bind (q := q) (.on_state fun d _ => .ite (fun _ => .pure _ hpq) fun _ => ?_) (fun result => ?_) hqr
  · exact connect_timely hconnect
  · cases result with
    | error e => exact .pure _ hqr
    | ok _ =>
      refine .bind (calling_timely hbody) (fun _ => ?_) le_rfl
      exact .bind (modify_timely fun d => (startTimer_link d _).world) (fun _ => .pure _ le_rfl) le_rfl

omit hconnect

lemma disconnect_timely (hclose : Prog.Prompt At Off p q modbusClose) (hpq : p ≤ q) :
    Timely At Off p q disconnect := by
  refine .on_state fun d _ => .ite (fun _ => .bind (calling_timely hclose) (fun _ => ?_) le_rfl)
    fun _ => .pure _ hpq
  refine .bind (modify_timely fun d => rfl) (fun _ => ?_) le_rfl
  refine .bind (modify_timely fun d => (cancel_link d _).world) (fun _ => ?_) le_rfl
  exact modify_timely fun d => (cancel_link d _).world

end Timely

end Actor

section Calls

variable {answers : ℕ → Response} {limit K : Option ℕ} {p q : ℕ} {α : Type}

lemma Ending.stuck (h : p < q) : Ending answers limit K p q (Prog.stuck : M α) := by
  refine Prompt.stuck ?_ h
  rintro n k w hk (hw | hw)
  · exact .inl (hw.held hk)
  · exact .inr hw

lemma Within.ending {m : M α} (h : Within answers limit p q m) (hm : Keeps Grows m) (hpq : p ≤ q) :
    Ending answers limit K p q m :=
  h.or_busy (hm.triple fun _ _ hw hg => hw.more hg.sublist.countP_le) hpq

lemma DeviceCall.Does.ending {c : DeviceCall} {body : M (Except ModbusError α)} (h : c.Does body)
    (hrelents : Relents answers limit) (hsends : SendsEnd answers K) (p : ℕ) :
    ∃ q, p ≤ q ∧ Ending answers limit K p q body := by
  unfold Does at h
  cases ha : c.asks with
  | none =>
    rw [ha] at h
    rcases h with rfl | ⟨r, rfl⟩
    · exact ⟨p + 1, Nat.le_succ p, Ending.stuck (Nat.lt_succ_self p)⟩
    · exact ⟨p, le_rfl, .pure r le_rfl⟩
  | some call =>
    rw [ha] at h
    obtain ⟨stack, failure, value, rfl, hvalue⟩ := h
    obtain ⟨q, hpq, hrun⟩ := run_ending p hrelents hsends
    refine ⟨q + 1, by omega, .bind (hrun call stack _) ?_ (Nat.le_succ q)⟩
    rintro ⟨rc, buffer⟩
    refine .ite (fun _ => .bind (q := q + 1) ?_ (fun _ => .pure _ le_rfl) le_rfl) fun _ => ?_
    · rcases hvalue buffer with hv | ⟨v, hv⟩
      · rw [hv]
        exact Ending.stuck (Nat.lt_succ_self q)
      · rw [hv]
        exact .pure v (Nat.le_succ q)
    · exact .on_state fun w _ => .pure _ (Nat.le_succ q)

variable (c : DeviceCall) (hrelents : Relents answers limit) (hsends : SendsEnd answers K)

include hrelents hsends

lemma DeviceCall.run_ending : ∃ q, Actor.Timely (fun n k w => Stands answers limit n k w ∨ Insists K w)
    (fun w => Held w ∨ Insists K w) 0 q c.run := by
  have hconnect : Ending answers limit K 0 7 modbusConnect :=
    Within.modbusConnect.ending Neutral.modbusConnect (Nat.zero_le 7)
  rcases c.cases with rfl | rfl | ⟨α, body, hrun, hbody⟩
  · exact ⟨7, .bind (Actor.connect_timely hconnect) (fun _ => .pure _ le_rfl) le_rfl⟩
  · have hclose : Ending answers limit K 0 2 modbusClose :=
      Within.modbusClose.ending Neutral.modbusClose (Nat.zero_le 2)
    exact ⟨2, Actor.disconnect_timely hclose (Nat.zero_le 2)⟩
  · obtain ⟨q, hq, hbody⟩ := hbody.ending hrelents hsends 7
    rw [hrun]
    have hoperation := Actor.operation_timely hconnect hbody (Nat.zero_le 7) hq
    exact ⟨q, .bind hoperation (fun _ => .pure _ le_rfl) le_rfl⟩

end Calls

/-- A device that the initialiser for networks made, with whatever happened to it since. -/
def Actor.OverNetwork (d : Actor) : Prop :=
  ∃ ipAddresses deviceAddress auto idle made events,
    Actor.initNetwork ipAddresses deviceAddress auto idle = .device made ∧
      d = (Process.run ⟨made, false⟩ events).actor

lemma Actor.OverNetwork.backend {d : Actor} (h : d.OverNetwork) : d.world.ctx.backend = .tcp := by
  obtain ⟨ipAddresses, deviceAddress, auto, idle, made, events, hmade, rfl⟩ := h
  obtain ⟨-, -, -, hctx⟩ := Actor.initNetwork_device hmade
  have hleaves (call : ClientCall) : Leaves (Sends (fun _ => True) made.world) call :=
    leaves_sends fun _ _ _ _ => trivial
  have hrun := run_sends hleaves (p := ⟨made, false⟩)
    (standing_const.mpr (Std.Refl.refl made.world)) events
  rw [hrun.backend, hctx]
  rfl

/-- A call of a method, all that the system would answer to it, and all that the peer would send. -/
structure LongCall where
  device : Actor
  call : DeviceCall
  answers : ℕ → Response
  peer : Stream'.Seq UInt8
  elapsing : List (List ℕ)

namespace LongCall

variable (l : LongCall)

def start (n : ℕ) : Actor :=
  l.device.prepare 0 {
    script := (List.range n).map l.answers
    rx := l.peer.take (modbusTcpMaxAduLength * n)
    elapsing := l.elapsing }

def upTo (n : ℕ) : Outcome Actor Unit := l.call.run (l.start n)

def Finishes : Prop := ∃ n d, l.upTo n = .done () d

/-- Every call of the system returns: only for want of an answer does the run stand still. -/
def Returning : Prop := ∀ n d, l.upTo n = .blocked d → d.world.script = []

/-- The request is sent again and again, and sends fail again and again. -/
def SendsForever : Prop := ∀ m, ∃ n, m ≤ sends (l.upTo n).state.world ∧
  m ≤ ((List.range n).map l.answers).countP Response.sendFails

/-- Neither signals nor the bytes of the peer go on without a break. -/
structure Pauses : Prop where
  select (n : ℕ) : ∃ m, n ≤ m ∧ (l.answers m).select ≠ .error .eintr
  sleep (n : ℕ) : ∃ m, n ≤ m ∧ (l.answers m).trouble ≠ some .eintr
  flush : l.peer.Terminates ∨ ∀ n, ∃ m, n ≤ m ∧ ∀ k, (l.answers m).recv ≠ .data k

variable {l}

lemma take_limited {peer : Stream'.Seq UInt8} (h : peer.Terminates) :
    ∃ b, ∀ n, (peer.take n).length ≤ b := by
  obtain ⟨m, hm⟩ := h
  refine ⟨m, fun n => ?_⟩
  rw [← List.getElem?_eq_none_iff, Stream'.Seq.getElem?_take]
  split
  · exact hm
  · rfl

lemma Pauses.relents (h : l.Pauses) : ∃ limit, Relents l.answers limit ∧
    ∀ n, ∀ b ∈ limit, (l.device.world.rx ++ l.peer.take n).length ≤ b := by
  rcases h.flush with hpeer | hflush
  · obtain ⟨b, hb⟩ := take_limited hpeer
    refine ⟨some (l.device.world.rx.length + b), ⟨h.select, h.sleep, .inl rfl⟩, fun n b' hb' => ?_⟩
    obtain rfl := Option.some.inj hb'
    rw [List.length_append]
    exact Nat.add_le_add_left (hb n) _
  · exact ⟨none, ⟨h.select, h.sleep, .inr hflush⟩, fun n b hb => absurd hb (by simp)⟩

lemma finishes_of_limit (hd : l.device.OverNetwork) (hreturns : l.Returning) (hpauses : l.Pauses)
    {K : Option ℕ} (hsends : SendsEnd l.answers K) {m : ℕ}
    (hfew : ∀ n, m ≤ n → ∀ s ∈ K, sends (l.upTo n).state.world < s) : l.Finishes := by
  obtain ⟨limit, hrelents, hlimit⟩ := hpauses.relents
  obtain ⟨q, hq⟩ := l.call.run_ending hrelents hsends
  have hstart (n : ℕ) : Stands l.answers limit n 0 (l.start n).world := ⟨rfl, hd.backend, hlimit _⟩
  have hrun := hq (max q m) (le_max_left q m) 0 le_rfl _ (.inl (hstart _))
  cases ho : l.upTo (max q m) with
  | done u d => exact ⟨_, d, ho⟩
  | blocked d =>
    have hmissing := hreturns _ d ho
    have hfew := hfew (max q m) (le_max_right q m)
    rw [ho] at hfew
    rw [upTo] at ho
    rw [ho] at hrun
    rcases hrun with hheld | ⟨s, hs, hle⟩
    · exact absurd hmissing hheld
    · exact absurd hle (not_le.mpr (hfew s hs))

section Operations

variable {α : Type} {body : M (Except ModbusError α)}

lemma returning_of_eof (hrun : l.call.run = (Actor.operation body >>= fun _ => pure ()))
    (hbody : NeverWaits body) (hdata : ∀ n m, (l.answers n).recv ≠ .data m) : l.Returning := by
  intro n d hd
  have harrived {rc : ℤ} (w : World) (h : Stocked n w) :
      Actor.Arrived (Stocked n) (Stocked n) false rc w := by
    unfold Actor.Arrived
    split_ifs <;> exact h
  have hrule := Actor.operation_rule ((NeverWaits.modbusConnect n).post fun _ => harrived) (hbody n)
  have hstart : Stocked n (l.start n).world := by
    refine ⟨by simp [start, Actor.prepare], fun r hr => ?_⟩
    obtain ⟨k, -, rfl⟩ := List.mem_map.mp hr
    exact hdata k
  rw [upTo, hrun, bind_apply] at hd
  cases ho : Actor.operation body (l.start n) with
  | done r d' =>
    rw [ho] at hd
    exact absurd hd (by simp)
  | blocked d' =>
    rw [ho] at hd
    obtain rfl := Outcome.blocked.inj hd
    exact hrule.blocked (standing_const.mpr hstart) ho

lemma operation_connected {d : Actor} (hc : d.connected = true) : Actor.operation body d =
    (Actor.calling body >>= fun result => Actor.startDisconnectWhenIdleTimer >>= fun _ => pure result) d := by
  have hneeded : Actor.connectWhenNeeded d = .done (.ok ()) d := by
    rw [Actor.connectWhenNeeded, bind_get_apply, if_pos hc]
    rfl
  rw [Actor.operation, bind_done hneeded]

lemma not_finishes {call : ClientCall} {stack : Mem UInt8} {failure : Errno → ModbusError}
    {value : Dest → M α} (hrun : l.call.run = (Actor.operation
      (ModbusDevice.performing call.operation stack failure value) >>= fun _ => pure ()))
    (hfew : call.operation.tooMany = false) (hc : l.device.connected = true)
    (hrecovers : l.device.world.ctx.recoversLink) (hfails : ∀ n, (l.answers n).sendFails) :
    ¬l.Finishes := by
  rintro ⟨n, d, hd⟩
  have hstart : Unsendable (l.start n).world := by
    refine ⟨hrecovers, fun r hr => ?_⟩
    obtain ⟨k, -, rfl⟩ := List.mem_map.mp hr
    exact hfails k
  rw [upTo, hrun] at hd
  obtain ⟨r, d₁, hop, -⟩ := bind_eq_done.mp hd
  rw [operation_connected (by exact hc)] at hop
  obtain ⟨r, d₂, hcall, -⟩ := bind_eq_done.mp hop
  unfold Actor.calling at hcall
  split at hcall
  · rename_i v w hbody
    obtain ⟨q, u, hq, -⟩ := bind_eq_done.mp hbody
    exact (run_unsendable hfew stack _).done hstart hq
  · cases hcall

end Operations

section Runs

def coilBody : M (Except ModbusError (List Bool)) :=
  ModbusDevice.performing (ClientCall.readBits 0 1).operation (fun _ => 0) .couldNotRead fun buffer =>
    return (buffer.bits.slice 0 1).map (· ≠ 0)

lemma coilBody_run : (DeviceCall.readInputCoilsFrom 0 1 fun _ => 0).run =
    (Actor.operation coilBody >>= fun _ => pure ()) := by
  rw [DeviceCall.run, ModbusDevice.readInputCoilsBody, ModbusDevice.readingBits_eq, if_pos (by decide)]
  rfl

lemma coilBody_neverWaits : NeverWaits coilBody := by
  refine .bind (.run _ _ _) ?_
  rintro ⟨rc, buffer⟩
  exact .ite (.bind (.pure _) fun _ => .pure _) (.bind .getErrno fun _ => .pure _)

def connectedDevice : Actor :=
  (Process.run ⟨Process.networkDevice, false⟩
    [.submit .connect, .work 0 { script := List.replicate 4 {} }]).actor

lemma connectedDevice_overNetwork : connectedDevice.OverNetwork :=
  ⟨["192.168.0.1"], 1, 3600, 10, Process.networkDevice, _, rfl, rfl⟩

def unreachable : LongCall where
  device := connectedDevice
  call := .readInputCoilsFrom 0 1 fun _ => 0
  answers n := { send := .error (if n = 0 then .epipe else .ebadf), recv := .eof,
                 connect := .error .econnrefused }
  peer := Stream'.Seq.nil
  elapsing := []

def closing : LongCall where
  device := connectedDevice
  call := .readInputCoilsFrom 0 1 fun _ => 0
  answers n := { send := if n = 0 then .error .epipe else .ok maxMessageLength, recv := .eof }
  peer := Stream'.Seq.nil
  elapsing := []

lemma closing_sends (n : ℕ) : ((List.range n).map closing.answers).countP Response.sendFails ≤ 1 := by
  have hfirst : Response.sendFails ∘ closing.answers = (· == 0) := by
    funext k
    cases k <;> rfl
  rw [List.countP_map, hfirst]
  exact List.nodup_iff_count_le_one.mp List.nodup_range 0

end Runs

end LongCall

end LibModbus
