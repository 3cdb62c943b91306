import LibModbus.Device.Jobs

/-! The device that an initialiser returns. -/

namespace LibModbus

open Library Library.Prog

namespace Actor

structure New (d : Actor) (auto idle : ℚ) : Prop where
  autoReconnectAfter : d.autoReconnectAfter = auto
  disconnectWhenIdleAfter : d.disconnectWhenIdleAfter = idle
  autoReconnectTask : d.autoReconnectTask = none
  disconnectWhenIdleTask : d.disconnectWhenIdleTask = none
  tasks : d.tasks = []
  jobs : d.jobs = []
  overtaken : d.overtaken = false

def rtuSlave (slaveid : ℤ) : ℤ := if 0 ≤ slaveid ∧ slaveid ≤ 247 then slaveid else -1

def networkSlave (deviceAddress : UInt16) : ℤ :=
  if 0 ≤ (deviceAddress.toNat : ℤ) ∧ (deviceAddress.toNat : ℤ) ≤ 247 ∨
      (deviceAddress.toNat : ℤ) = modbusTcpSlave then deviceAddress.toNat else modbusTcpSlave

section Rtu

variable {room : ℕ} {device : String} {slaveid : ℤ} {auto idle : ℚ} {answers : JobAnswers} {d : Actor}

def RtuStart (slaveid : ℤ) (answers : JobAnswers) (w : World) : Prop :=
  w.ctx = { modbusNewRtu with slave := rtuSlave slaveid } ∧ w.script = answers.script ∧ w.trace = []

lemma rtuSetSlave_start : ∃ rc w, RtuStart slaveid answers w ∧
    modbusSetSlave slaveid (.start modbusNewRtu answers.rx answers.script) = .done rc w := by
  have hset : modbusSetSlave slaveid (.start modbusNewRtu answers.rx answers.script) =
    rtuSetSlave slaveid (.start modbusNewRtu answers.rx answers.script) := rfl
  rw [hset, rtuSetSlave]
  unfold RtuStart rtuSlave
  split_ifs
  · exact ⟨0, _, ⟨rfl, rfl, rfl⟩, rfl⟩
  · exact ⟨-1, _, ⟨rfl, rfl, rfl⟩, rfl⟩

lemma initRtu_device (h : initRtu room device slaveid auto idle answers = .device d) :
    d.connected = true ∧ d.New auto idle ∧
      ∃ w rc, RtuStart slaveid answers w ∧ modbusConnect w = .done rc d.world := by
  unfold initRtu newRtu at h
  split_ifs at h
  dsimp only at h
  rw [ModbusDevice.int32_bind] at h
  split_ifs at h
  · obtain ⟨_, w, hw, hset⟩ := @rtuSetSlave_start slaveid answers
    rw [bind_done hset] at h
    cases hm : modbusConnect w with
    | blocked w' =>
      rw [bind_blocked hm] at h
      exact absurd h (by simp)
    | done rc w' =>
      rw [bind_done hm] at h
      obtain rfl := Initialised.device.inj h
      exact ⟨rfl, ⟨rfl, rfl, rfl, rfl, rfl, rfl, rfl⟩, w, rc, hw, hm⟩
  · exact absurd h (by simp)

end Rtu

section Network

variable {ipAddresses : List String} {deviceAddress : UInt16} {auto idle : ℚ} {d : Actor}

def NetworkStart (deviceAddress : UInt16) (w : World) : Prop :=
  w.ctx = { modbusNewTcp with errorRecovery := 6, slave := networkSlave deviceAddress } ∧ w.trace = []

lemma networkSetSlave_start : ∃ rc w, NetworkStart deviceAddress w ∧
    modbusSetSlave deviceAddress.toNat (.start { modbusNewTcp with errorRecovery := 6 } [] []) =
      .done rc w := by
  have hset : modbusSetSlave deviceAddress.toNat (.start { modbusNewTcp with errorRecovery := 6 } [] []) =
    tcpSetSlave deviceAddress.toNat (.start { modbusNewTcp with errorRecovery := 6 } [] []) := rfl
  rw [hset, tcpSetSlave]
  unfold NetworkStart networkSlave
  split_ifs
  · exact ⟨0, _, ⟨rfl, rfl⟩, rfl⟩
  · exact ⟨-1, _, ⟨rfl, rfl⟩, rfl⟩

lemma initNetwork_made (hfind : ipAddresses.findSome? newTcp = some modbusNewTcp) :
    ∃ w, NetworkStart deviceAddress w ∧ initNetwork ipAddresses deviceAddress auto idle = .device
      { world := w, connected := false, autoReconnectAfter := auto, disconnectWhenIdleAfter := idle } := by
  obtain ⟨rc, w, hw, hset⟩ := @networkSetSlave_start deviceAddress
  have hrecovery : modbusSetErrorRecovery ((1 : UInt32) <<< 1 ||| (1 : UInt32) <<< 2) (.start modbusNewTcp [] []) =
    .done 0 (.start { modbusNewTcp with errorRecovery := 6 } [] []) := rfl
  have hne : ipAddresses ≠ [] := by
    rintro rfl
    exact absurd hfind nofun
  refine ⟨w, hw, ?_⟩
  rw [initNetwork, if_neg hne, hfind]
  dsimp only
  rw [bind_done hrecovery, bind_done hset]
  rfl

lemma initNetwork_device (h : initNetwork ipAddresses deviceAddress auto idle = .device d) :
    d.connected = false ∧ d.New auto idle ∧ d.world.trace = [] ∧
      d.world.ctx = { modbusNewTcp with errorRecovery := 6, slave := networkSlave deviceAddress } := by
  cases hfind : ipAddresses.findSome? newTcp with
  | none =>
    rw [initNetwork, hfind] at h
    split_ifs at h
  | some ctx =>
    obtain ⟨ip, -, hip⟩ := List.exists_of_findSome?_eq_some hfind
    rw [newTcp] at hip
    split_ifs at hip
    obtain rfl := Option.some.inj hip
    obtain ⟨w, ⟨hctx, htrace⟩, hmade⟩ := @initNetwork_made ipAddresses deviceAddress auto idle hfind
    obtain rfl := Initialised.device.inj (hmade.symm.trans h)
    exact ⟨rfl, ⟨rfl, rfl, rfl, rfl, rfl, rfl, rfl⟩, htrace, hctx⟩

end Network

end Actor

end LibModbus
