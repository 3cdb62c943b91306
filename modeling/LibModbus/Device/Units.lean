import LibModbus.Device.Initialisers
import LibModbus.Device.Requests

/-! Which unit the requests of a device go to. -/

namespace LibModbus

open Library Library.Prog

variable {call : ClientCall} {ctx : Modbus}

def unitId (b : Backend) (msg : List UInt8) : UInt8 := msg.getD (b.headerLength - 1) 0

lemma request_unitId : unitId ctx.backend (call.request ctx) = UInt8.ofInt ctx.slave := by
  unfold unitId ClientCall.request requestHeader
  cases hb : ctx.backend with
  | rtu => rfl
  | tcp | tcpPi => rfl

def Units (slave : ℤ) (w : World) : Prop :=
  (∀ fd msg, .send fd msg ∈ w.trace → ((unitId w.ctx.backend msg).toNat : ℤ) = slave) ∧ w.ctx.slave ≠ -1

/-- What an initialiser owes to the unit it is asked for: to throw when there is no such unit, and
otherwise a device that addresses it in every run. -/
def RightUnit (valid : Prop) (slave : ℤ) : Initialised → Prop
  | .threw _ => True
  | .never => valid
  | .device d => valid ∧
    ∀ events, Units slave (Process.run ⟨d, false⟩ events).actor.world

lemma run_sends {P : List UInt8 → Prop} {w₀ : World} (hleaves : ∀ call, Leaves (Sends P w₀) call)
    {p : Process} (h : p.Sustained (Sends P w₀) (Sends P w₀) (Sends P w₀)) (events : List DeviceEvent) :
    Sends P w₀ (p.run events).actor.world := by
  induction events generalizing p with
  | nil =>
    rw [Process.Sustained, standing_const] at h
    split_ifs at h <;> exact h
  | cons e events ih =>
    exact ih (Process.step_sustained sends_linkRules h fun c _ => sends_admitted fun call _ => hleaves call)

lemma units_run {d : Actor} {slave : ℤ} (hslave : d.world.ctx.slave = slave) (h₀ : 0 ≤ slave)
    (h₁ : slave < 256) (hsilent : ∀ fd msg, .send fd msg ∉ d.world.trace) (events : List DeviceEvent) :
    Units slave (Process.run ⟨d, false⟩ events).actor.world := by
  have hleaves (call : ClientCall) : Leaves (Sends (fun msg =>
      ((unitId d.world.ctx.backend msg).toNat : ℤ) = slave) d.world) call := by
    refine leaves_sends fun _ ctx hb hs => ?_
    rw [← hb, request_unitId, hs, hslave]
    exact ClientCall.ofInt_toNat h₀ h₁
  have hrun := run_sends hleaves (p := ⟨d, false⟩) (standing_const.mpr (Std.Refl.refl d.world)) events
  obtain ⟨hb, hs, calls, ht, hsent⟩ := hrun
  refine ⟨fun fd msg hm => ?_, by omega⟩
  rw [ht] at hm
  rw [hb]
  rcases List.mem_append.mp hm with hm | hm
  · exact absurd hm (hsilent fd msg)
  · exact hsent fd msg hm

lemma RightUnit.valid {valid : Prop} {slave : ℤ} {i : Initialised} (h : RightUnit valid slave i)
    (hi : ∀ e, i ≠ .threw e) : valid := by
  cases i with
  | threw e => exact absurd rfl (hi e)
  | never => exact h
  | device d => exact h.1

lemma initRtu_rightUnit {room : ℕ} {device : String} {slaveid : ℤ} {auto idle : ℚ} {answers : JobAnswers}
    (hv : 0 ≤ slaveid ∧ slaveid ≤ 247) : RightUnit (0 ≤ slaveid ∧ slaveid ≤ 247) slaveid
      (Actor.initRtu room device slaveid auto idle answers) := by
  cases hi : Actor.initRtu room device slaveid auto idle answers with
  | threw e => trivial
  | never => exact hv
  | device d =>
    obtain ⟨-, -, w, rc, ⟨hctx, -, ht⟩, hm⟩ := Actor.initRtu_device hi
    have hconnect := (Neutral.modbusConnect (R := Sends fun _ => False)).done hm
    have hslave : d.world.ctx.slave = slaveid := by
      rw [hconnect.slave, hctx]
      exact if_pos hv
    obtain ⟨calls, htrace, hsent⟩ := hconnect.sent
    refine ⟨hv, units_run hslave hv.1 (by omega) fun fd msg hmem => ?_⟩
    rw [htrace, ht, List.nil_append] at hmem
    exact hsent fd msg hmem

lemma initNetwork_rightUnit {ipAddresses : List String} {deviceAddress : UInt16} {auto idle : ℚ}
    (hv : deviceAddress.toNat ≤ 247 ∨ deviceAddress = 255) :
    RightUnit (deviceAddress.toNat ≤ 247 ∨ deviceAddress = 255) deviceAddress.toNat
      (Actor.initNetwork ipAddresses deviceAddress auto idle) := by
  cases hi : Actor.initNetwork ipAddresses deviceAddress auto idle with
  | threw e => trivial
  | never => exact hv
  | device d =>
    obtain ⟨-, -, ht, hctx⟩ := Actor.initNetwork_device hi
    have hslave : d.world.ctx.slave = deviceAddress.toNat := by
      rw [hctx]
      apply if_pos
      rcases hv with hv | rfl
      · exact .inl ⟨by omega, by omega⟩
      · exact .inr rfl
    have hlt : (deviceAddress.toNat : ℤ) < 256 := by
      rcases hv with hv | rfl
      · omega
      · decide
    refine ⟨hv, units_run hslave (by omega) hlt fun fd msg hmem => ?_⟩
    rw [ht] at hmem
    exact absurd hmem List.not_mem_nil

lemma initRtu_not_threw (slaveid : ℤ) (e : ModbusError) :
    Actor.initRtu 64 "/dev/ttyS0" slaveid 1 1 {} ≠ .threw e := by
  have hnew : newRtu 64 "/dev/ttyS0" = some modbusNewRtu := by decide
  rw [Actor.initRtu, hnew]
  dsimp only
  split <;> exact nofun

lemma initNetwork_not_threw (deviceAddress : UInt16) (e : ModbusError) :
    Actor.initNetwork ["192.168.0.1"] deviceAddress 1 1 ≠ .threw e := by
  obtain ⟨w, -, hmade⟩ := @Actor.initNetwork_made ["192.168.0.1"] deviceAddress 1 1 (by decide)
  simp [hmade]

/-- The initialisers and the runs of the devices they return are right about the unit, if and only if
the library can address it. -/
theorem rightUnit_iff (slaveid : ℤ) (deviceAddress : UInt16) :
    ((∀ room device auto idle answers, RightUnit (0 ≤ slaveid ∧ slaveid ≤ 247) slaveid
        (Actor.initRtu room device slaveid auto idle answers)) ↔ 0 ≤ slaveid ∧ slaveid ≤ 247) ∧
    ((∀ ipAddresses auto idle, RightUnit (deviceAddress.toNat ≤ 247 ∨ deviceAddress = 255)
        deviceAddress.toNat (Actor.initNetwork ipAddresses deviceAddress auto idle)) ↔
      deviceAddress.toNat ≤ 247 ∨ deviceAddress = 255) := by
  constructor
  · refine ⟨fun h => ?_, fun hv _ _ _ _ _ => initRtu_rightUnit hv⟩
    exact (h 64 "/dev/ttyS0" 1 1 {}).valid (initRtu_not_threw slaveid)
  · refine ⟨fun h => ?_, fun hv _ _ _ => initNetwork_rightUnit hv⟩
    exact (h ["192.168.0.1"] 1 1).valid (initNetwork_not_threw deviceAddress)

/-- For unit 248 the network initialiser returns a device, which addresses unit 255. -/
theorem unit_not_addressed : ∃ d, Actor.initNetwork ["192.168.0.1"] 248 3600 10 = .device d ∧
    ∃ events, ¬Units 248 (Process.run ⟨d, false⟩ events).actor.world := by
  refine ⟨_, rfl, [.submit (.readInputCoilsFrom 0 1 fun _ => 0), .work 0 { script := List.replicate 5 {} }],
    fun h => ?_⟩
  exact absurd (h.1 3 [0, 1, 0, 0, 0, 6, 255, 1, 0, 0, 0, 1] (by decide +kernel)) (by decide +kernel)

end LibModbus
