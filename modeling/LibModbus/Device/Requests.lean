import LibModbus.Client.Sent
import LibModbus.Device.Jobs

/-! Which requests a device sends: their address and quantity. -/

namespace LibModbus

open Library Library.Prog

section Sends

variable {P : List UInt8 → Prop}

variable {w₀ : World}

lemma sends_linkRules : Actor.LinkRules (Sends P w₀) (Sends P w₀) (Sends P w₀) where
  arriveClosed w script rx h := IsTrans.trans _ w _ h (.of_trace ⟨rfl, rfl⟩ rfl)
  arriveOpened w script rx h := IsTrans.trans _ w _ h (.of_trace ⟨rfl, rfl⟩ rfl)
  connect := by
    refine (Neutral.modbusConnect.maintains w₀).post fun rc w h => ?_
    unfold Actor.Arrived
    split_ifs <;> exact h
  close := Neutral.modbusClose.maintains w₀

lemma standing_const {I : World → Prop} {d : Actor} : Actor.Standing I I d ↔ I d.world := by
  unfold Actor.Standing
  split_ifs <;> rfl

lemma sends_admitted {d : Actor} {c : DeviceCall} (h : ∀ call ∈ c.asks, Leaves (Sends P w₀) call) :
    Actor.Admitted (Sends P w₀) (Sends P w₀) (Sends P w₀) d c := by
  refine ⟨fun _ _ => (Neutral.modbusConnect.maintains w₀).post fun rc w hw => ?_, h⟩
  unfold Actor.Arrived
  split_ifs <;> exact hw

lemma DeviceCall.run_sends {d : Actor} {c : DeviceCall}
    (h : ∀ call ∈ c.asks, Leaves (Sends P d.world) call) : Sends P d.world (c.run d).state.world := by
  have hrule := Actor.call_rule (B := Sends P d.world) sends_linkRules c d
    ⟨standing_const.mpr (Std.Refl.refl _), sends_admitted h⟩
  cases hm : c.run d with
  | done _ d' =>
    rw [hm] at hrule
    exact standing_const.mp hrule
  | blocked d' =>
    rw [hm] at hrule
    exact hrule

end Sends

def asArray (msg : List UInt8) : Mem UInt8 := fun i => msg.getD i 0

namespace DeviceCall

/-- The address and the quantity (of coils or registers, or the value of one coil) that the caller
names. -/
def named : DeviceCall → Option (ℤ × ℤ)
  | connect | disconnect => none
  | readInputCoilsFrom startAddress count _ | readInputBitsFrom startAddress count _ =>
    some (startAddress, count)
  | writeInputCoil startAddress value _ => some (startAddress, if value then 0xFF00 else 0)
  | readRegisters size startAddress count _ _ _ => some (startAddress, (8 * size * count + 15).tdiv 16)
  | writeRegisters size startAddress arrayToWrite _ _ _ =>
    some (startAddress, ModbusDevice.wordCount size arrayToWrite.length)

/-- A message whose address and quantity, as `modbus_reply` decodes them, are those named. -/
def AsNamed (c : DeviceCall) (b : Backend) (msg : List UInt8) : Prop :=
  match c.named with
  | none => False
  | some (addr, nb) =>
    (requestAddress b (asArray msg) : ℤ) = addr ∧ (requestNb b (asArray msg) : ℤ) = nb

def InRange (c : DeviceCall) : Prop :=
  match c.named with
  | none => True
  | some (addr, _) => 0 ≤ addr ∧ addr < 65536

/-- Nothing is sent: the program stops or there is nothing to write, or the count is above the maximum. -/
def Mute (c : DeviceCall) : Prop := ∀ call ∈ c.asks, call.operation.tooMany = true

end DeviceCall

section Fields

variable {c : DeviceCall} {call : ClientCall}

lemma DeviceCall.asks_fields (ha : c.asks = some call) : ∃ function addr nb rest, c.named = some (addr, nb) ∧
    call.pdu = ClientCall.basisPdu function addr nb ++ rest ∧ function < 256 ∧
    (call.operation.tooMany = false → 0 ≤ nb ∧ nb < 65536) := by
  have hcount {nb : ℤ} {limit : ℤ} (h : 0 ≤ nb) (hl : limit < 65536) (hfew : decide (nb > limit) = false) :
      0 ≤ nb ∧ nb < 65536 :=
    ⟨h, lt_of_le_of_lt (not_lt.mp (of_decide_eq_false hfew)) hl⟩
  cases c with
  | connect | disconnect => cases ha
  | readInputCoilsFrom startAddress count stack =>
    rw [asks] at ha
    split_ifs at ha with h
    obtain rfl := Option.some.inj ha
    exact ⟨fcReadCoils, startAddress, count, [], rfl, (List.append_nil _).symm, by decide,
      hcount h.1 (by decide)⟩
  | readInputBitsFrom startAddress count stack =>
    rw [asks] at ha
    split_ifs at ha with h
    obtain rfl := Option.some.inj ha
    exact ⟨fcReadDiscreteInputs, startAddress, count, [], rfl, (List.append_nil _).symm, by decide,
      hcount h.1 (by decide)⟩
  | writeInputCoil startAddress value stack =>
    rw [asks] at ha
    by_cases h : ModbusDevice.FitsInt32 startAddress
    · rw [if_pos h] at ha
      obtain rfl := Option.some.inj ha
      refine ⟨fcWriteSingleCoil, startAddress, if value then 0xFF00 else 0, [], rfl, ?_, by decide,
        fun _ => ?_⟩
      · cases value <;> rfl
      · cases value <;> decide
    · rw [if_neg h] at ha
      cases ha
  | readRegisters size startAddress count type endianness stack =>
    rw [asks] at ha
    split_ifs at ha with h htype
    · obtain rfl := Option.some.inj ha
      exact ⟨fcReadInputRegisters, startAddress, _, [], rfl, (List.append_nil _).symm, by decide,
        hcount h.1 (by decide)⟩
    · obtain rfl := Option.some.inj ha
      exact ⟨fcReadHoldingRegisters, startAddress, _, [], rfl, (List.append_nil _).symm, by decide,
        hcount h.1 (by decide)⟩
  | writeRegisters size startAddress arrayToWrite endianness rawPointer stack =>
    rw [asks] at ha
    split_ifs at ha with h
    obtain rfl := Option.some.inj ha
    exact ⟨fcWriteMultipleRegisters, startAddress, _, _, rfl, rfl, by decide,
      hcount (by positivity) (by decide)⟩

variable {ctx : Modbus}

lemma DeviceCall.request_fields (ha : c.asks = some call) (hfew : call.operation.tooMany = false) :
    ∃ addr nb, c.named = some (addr, nb) ∧
      (requestAddress ctx.backend (asArray (call.request ctx)) : ℤ) = addr % 65536 ∧
      (requestNb ctx.backend (asArray (call.request ctx)) : ℤ) = nb := by
  obtain ⟨function, addr, nb, rest, hnamed, hpdu, hf, hnb⟩ := asks_fields ha
  obtain ⟨h0, h1⟩ := hnb hfew
  have hholds : (asArray (call.request ctx)).Holds (call.request ctx) := fun j h =>
    List.getD_eq_getElem _ _ h
  have hm := holdsPdu_sendMsgPre (requestHeader_length ctx) hholds
  rw [hpdu] at hm
  obtain ⟨-, haddr, hn⟩ := hm.fields hf
  exact ⟨addr, nb, hnamed, haddr, by omega⟩

lemma DeviceCall.asNamed_iff (ha : c.asks = some call) (hfew : call.operation.tooMany = false) :
    c.AsNamed ctx.backend (call.request ctx) ↔ c.InRange := by
  obtain ⟨addr, nb, hnamed, haddr, hnb⟩ := @request_fields c call ctx ha hfew
  rw [AsNamed, InRange, hnamed]
  dsimp only
  omega

end Fields

section Unanswered

variable {call : ClientCall} {w : World}

lemma issue_unanswered (hfew : call.operation.tooMany = false) (hs : w.script = []) :
    ∃ w', call.operation.issue w = .blocked w' ∧
      w'.trace = w.trace ++ [.send w.ctx.s (call.request w.ctx)] := by
  have hsocket : (nextRequest w.ctx).s = w.ctx.s := by
    unfold nextRequest
    cases w.ctx.backend <;> rfl
  have hblocked := sendMsg_unanswered (w := { w with ctx := nextRequest w.ctx })
    (requestHeader w.ctx ++ call.pdu) hs
  refine ⟨_, (ClientCall.issue_eq hfew w).trans hblocked, ?_⟩
  dsimp only
  rw [hsocket, nextRequest_backend, ClientCall.request]

lemma DeviceCall.run_unanswered {c : DeviceCall} {d : Actor} (ha : c.asks = some call)
    (hfew : call.operation.tooMany = false) (hc : d.connected = true) (hs : d.world.script = []) :
    (c.run d).state.world.trace =
      d.world.trace ++ [.send d.world.ctx.s (call.request d.world.ctx)] := by
  rcases c.cases with rfl | rfl | ⟨α, body, hrun, hbody⟩
  · exact absurd ha nofun
  · exact absurd ha nofun
  · rw [Does, ha] at hbody
    obtain ⟨stack, failure, value, rfl, -⟩ := hbody
    obtain ⟨w', hissue, ht⟩ := issue_unanswered hfew hs
    have hcall : Actor.calling (ModbusDevice.performing call.operation stack failure value) d =
        .blocked { d with world := w' } := by
      have hperform : ModbusDevice.performing call.operation stack failure value d.world = .blocked w' :=
        bind_blocked (bind_blocked hissue _) _
      rw [Actor.calling, hperform]
    have hneeded : Actor.connectWhenNeeded d = .done (.ok ()) d := by
      rw [Actor.connectWhenNeeded, bind_get_apply, if_pos hc]
      rfl
    rw [hrun, bind_blocked (t := { d with world := w' }) ?_]
    · exact ht
    rw [Actor.operation, bind_done hneeded]
    exact bind_blocked hcall _

end Unanswered

def unanswered (b : Backend) : Actor where
  world := .start { modbusInitCommon b with slave := 1, s := 3 } [] []
  connected := true
  autoReconnectAfter := 10
  disconnectWhenIdleAfter := 10

/-- Every request that a method sends has the address and the quantity named, if and only if the address
is one, or nothing is sent at all. -/
theorem requests_as_named_iff (c : DeviceCall) (b : Backend) :
    (∀ d : Actor, d.world.ctx.backend = b → Sends (c.AsNamed b) d.world (c.run d).state.world) ↔
      c.InRange ∨ c.Mute := by
  constructor
  · intro h
    by_contra hne
    obtain ⟨hrange, hmute⟩ := not_or.mp hne
    rw [DeviceCall.Mute] at hmute
    push Not at hmute
    obtain ⟨call, ha, hfew⟩ := hmute
    have hfew : call.operation.tooMany = false := by simpa using hfew
    obtain ⟨calls, ht, hsent⟩ := (h (unanswered b) rfl).sent
    have htrace := DeviceCall.run_unanswered (d := unanswered b) ha hfew rfl rfl
    rw [ht] at htrace
    have hcalls := List.append_cancel_left htrace
    have hnamed : c.AsNamed b (call.request (unanswered b).world.ctx) := by
      apply hsent (unanswered b).world.ctx.s _
      rw [hcalls]
      exact List.mem_singleton_self _
    exact hrange ((@DeviceCall.asNamed_iff c call (unanswered b).world.ctx ha hfew).mp hnamed)
  · rintro h d rfl
    refine DeviceCall.run_sends fun call ha => leaves_sends fun hfew ctx hb _ => ?_
    rw [← hb]
    refine (DeviceCall.asNamed_iff ha hfew).mpr (h.resolve_right fun hmute => ?_)
    rw [hmute call ha] at hfew
    contradiction

def farCoil : DeviceCall := .readInputCoilsFrom 65536 1 fun _ => 0

theorem request_elsewhere : ¬∀ (c : DeviceCall) (b : Backend) (d : Actor), d.world.ctx.backend = b →
    Sends (c.AsNamed b) d.world (c.run d).state.world := by
  intro h
  obtain ⟨calls, ht, hsent⟩ := (h farCoil .tcp (unanswered .tcp) rfl).sent
  have ha : farCoil.asks = some (.readBits 65536 1) := by
    rw [farCoil, DeviceCall.asks, if_pos (by decide)]
  have hfew : (ClientCall.readBits 65536 1).operation.tooMany = false := by decide
  have htrace := DeviceCall.run_unanswered (d := unanswered .tcp) ha hfew rfl rfl
  rw [ht] at htrace
  have hnamed := hsent 3 ((ClientCall.readBits 65536 1).request (unanswered .tcp).world.ctx) (by
    rw [List.append_cancel_left htrace]
    exact List.mem_singleton_self _)
  have hrange := (@DeviceCall.asNamed_iff farCoil _ (unanswered .tcp).world.ctx ha hfew).mp hnamed
  exact absurd hrange.2 (by decide)

end LibModbus
