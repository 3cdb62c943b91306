import Mathlib.Data.Rat.Defs
import LibModbus.Model.Device

/-! The actor `ModbusDevice` as a whole: its connection, its timers, and the jobs that wait for it. -/

namespace LibModbus

open Library

/-- The public methods, with what they find in memory they did not write. Floating point values are
read like integers of their size. -/
inductive DeviceCall where
  | connect
  | disconnect
  | readInputCoilsFrom (startAddress count : ℤ) (stack : Mem UInt8)
  | readInputBitsFrom (startAddress count : ℤ) (stack : Mem UInt8)
  | writeInputCoil (startAddress : ℤ) (value : Bool) (stack : Mem UInt8)
  | readRegisters (size : ℕ) (startAddress count : ℤ) (type : ModbusRegisterType)
    (endianness : ModbusDeviceEndianness) (stack : Mem UInt8)
  | writeRegisters (size : ℕ) (startAddress : ℤ) (arrayToWrite : List (BitVec (8 * size)))
    (endianness : ModbusDeviceEndianness) (rawPointer stack : Mem UInt8)

inductive TimerKind where
  | autoReconnect
  | disconnectWhenIdle
  deriving DecidableEq, Repr

inductive TimerProgress where
  | sleeping
  | woken
  | ended
  deriving DecidableEq, Repr

structure TimerTask where
  kind : TimerKind
  isCancelled : Bool
  progress : TimerProgress
  deriving DecidableEq, Repr

/-- A cancelled sleep throws. A task whose sleep has elapsed goes on all the same. -/
def TimerTask.cancel (t : TimerTask) : TimerTask :=
  { t with isCancelled := true, progress := if t.progress = .sleeping then .ended else t.progress }

inductive Job where
  | call (c : DeviceCall)
  | resume (task : ℕ)

/-- Every task that was ever started keeps its place in `tasks`. `elapsing` says which sleeps elapse
during the calls of the C library to come, and `overtaken` records that a task was replaced whose sleep
had elapsed. -/
structure Actor where
  world : World
  connected : Bool
  autoReconnectAfter : ℚ
  disconnectWhenIdleAfter : ℚ
  autoReconnectTask : Option ℕ := none
  disconnectWhenIdleTask : Option ℕ := none
  tasks : List TimerTask := []
  jobs : List Job := []
  elapsing : List (List ℕ) := []
  overtaken : Bool := false

namespace Actor

section Timers

variable (d : Actor)

def delay : TimerKind → ℚ
  | .autoReconnect => d.autoReconnectAfter
  | .disconnectWhenIdle => d.disconnectWhenIdleAfter

def current : TimerKind → Option ℕ
  | .autoReconnect => d.autoReconnectTask
  | .disconnectWhenIdle => d.disconnectWhenIdleTask

def store (kind : TimerKind) (task : ℕ) : Actor :=
  match kind with
  | .autoReconnect => { d with autoReconnectTask := some task }
  | .disconnectWhenIdle => { d with disconnectWhenIdleTask := some task }

def elapse (task : ℕ) : Actor :=
  match d.tasks[task]? with
  | none => d
  | some t =>
    if t.progress = .sleeping then
      { d with
        tasks := d.tasks.set task { t with progress := .woken }
        jobs := d.jobs ++ [.resume task] }
    else d

def cancel (kind : TimerKind) : Actor :=
  match d.current kind with
  | none => d
  | some task => { d with tasks := d.tasks.modify task TimerTask.cancel }

def waits (kind : TimerKind) : Bool :=
  match d.current kind with
  | none => false
  | some task => (d.tasks[task]?.map TimerTask.progress) = some .woken

def startTimer (kind : TimerKind) : Actor :=
  if d.delay kind > 0 then
    let c := d.cancel kind
    let started : Actor :=
      { c with
        tasks := c.tasks ++ [⟨kind, false, .sleeping⟩]
        overtaken := c.overtaken || d.waits kind }
    started.store kind c.tasks.length
  else d

end Timers

def startAutoReconnectTimer : Prog Actor Unit := .modify fun d => d.startTimer .autoReconnect

def startDisconnectWhenIdleTimer : Prog Actor Unit := .modify fun d => d.startTimer .disconnectWhenIdle

def elapseMeanwhile (d : Actor) : Actor :=
  match d.elapsing with
  | [] => d
  | tasks :: later => tasks.foldl elapse { d with elapsing := later }

/-- A call of the C library, which holds the actor up. -/
def calling {α : Type} (m : M α) : Prog Actor α := fun d =>
  match m d.world with
  | .done a world => .done a { d with world }.elapseMeanwhile
  | .blocked world => .blocked { d with world }

def connect : Prog Actor (Except ModbusError Unit) := do
  let rc ← calling modbusConnect
  if rc = -1 then do
    let d ← Prog.get
    return .error (.couldNotConnect d.world.errno)
  else do
    startAutoReconnectTimer
    startDisconnectWhenIdleTimer
    Prog.modify fun d => { d with connected := true }
    return .ok ()

def disconnect : Prog Actor Unit := do
  let d ← Prog.get
  if d.connected then do
    calling modbusClose
    Prog.modify fun d => { d with connected := false }
    Prog.modify fun d => d.cancel .autoReconnect
    Prog.modify fun d => d.cancel .disconnectWhenIdle
  else return ()

def connectWhenNeeded : Prog Actor (Except ModbusError Unit) := do
  let d ← Prog.get
  if d.connected then return .ok () else connect

/-- A method that connects when needed. Once connected, it starts the idle timer when it is left. -/
def operation {α : Type} (body : M (Except ModbusError α)) : Prog Actor (Except ModbusError α) := do
  match ← connectWhenNeeded with
  | .error e => return .error e
  | .ok _ => do
    let result ← calling body
    startDisconnectWhenIdleTimer
    return result

end Actor

def DeviceCall.run : DeviceCall → Prog Actor Unit
  | connect => do
    let _ ← Actor.connect
  | disconnect => Actor.disconnect
  | readInputCoilsFrom startAddress count stack => do
    let _ ← Actor.operation (ModbusDevice.readInputCoilsBody startAddress count stack)
  | readInputBitsFrom startAddress count stack => do
    let _ ← Actor.operation (ModbusDevice.readInputBitsBody startAddress count stack)
  | writeInputCoil startAddress value stack => do
    let _ ← Actor.operation (ModbusDevice.writeInputCoilBody startAddress value stack)
  | readRegisters size startAddress count type endianness stack => do
    let _ ← Actor.operation (ModbusDevice.readRegistersBody size startAddress count type endianness stack)
  | writeRegisters _ startAddress arrayToWrite endianness rawPointer stack => do
    let _ ← Actor.operation
      (ModbusDevice.writeRegistersBody startAddress arrayToWrite endianness rawPointer stack)

namespace Actor

def finish (d : Actor) (task : ℕ) : Actor :=
  { d with tasks := d.tasks.modify task fun t => { t with progress := .ended } }

end Actor

def Job.run : Job → Prog Actor Unit
  | call c => c.run
  | resume task => do
    Prog.modify fun d => d.finish task
    Actor.disconnect

/-- What the operating system answers during a job, the bytes that arrive, and the sleeps that elapse. -/
structure JobAnswers where
  script : List Response := []
  rx : List UInt8 := []
  elapsing : List (List ℕ) := []

inductive DeviceEvent where
  | submit (c : DeviceCall)
  | elapse (task : ℕ)
  | work (k : ℕ) (answers : JobAnswers)

namespace Actor

def prepare (d : Actor) (k : ℕ) (answers : JobAnswers) : Actor :=
  { d with
    world := { d.world with script := answers.script, rx := d.world.rx ++ answers.rx }
    jobs := d.jobs.eraseIdx k
    elapsing := answers.elapsing }

end Actor

/-- An actor in its process. Once a job does not come to its end, the actor is held up for good. -/
structure Process where
  actor : Actor
  stalled : Bool

namespace Process

def step (p : Process) (e : DeviceEvent) : Process :=
  if p.stalled then p
  else match e with
    | .submit c => { p with actor := { p.actor with jobs := p.actor.jobs ++ [.call c] } }
    | .elapse task => { p with actor := p.actor.elapse task }
    | .work k answers =>
      match p.actor.jobs[k]? with
      | none => p
      | some job =>
        match job.run (p.actor.prepare k answers) with
        | .done _ actor => ⟨actor, false⟩
        | .blocked actor => ⟨actor, true⟩

def run (p : Process) (events : List DeviceEvent) : Process := events.foldl step p

end Process

section Initialisers

inductive Initialised where
  | threw (e : ModbusError)
  | never
  | device (d : Actor)

/-- `modbus_new_rtu` with the length of `device[]` that it was built with. -/
def newRtu (room : ℕ) (device : String) : Option Modbus :=
  if device.utf8ByteSize = 0 ∨ device.utf8ByteSize ≥ room then none else some modbusNewRtu

def newTcp (ip : String) : Option Modbus :=
  if ip.utf8ByteSize = 0 ∨ ip.utf8ByteSize ≥ 16 then none else some modbusNewTcp

namespace Actor

/-- The serial device counts as connected, whatever `modbus_connect` returns. -/
def initRtu (room : ℕ) (device : String) (slaveid : ℤ) (autoReconnectAfter disconnectWhenIdleAfter : ℚ)
    (answers : JobAnswers) : Initialised :=
  match newRtu room device with
  | none => .threw (.couldNotCreateDevice none)
  | some ctx =>
    let start : M Unit := do
      let slave ← ModbusDevice.int32 slaveid
      let _ ← modbusSetSlave slave
      let _ ← modbusConnect
    match start (.start ctx answers.rx answers.script) with
    | .blocked _ => .never
    | .done _ world =>
      .device { world, connected := true, autoReconnectAfter, disconnectWhenIdleAfter }

def initNetwork (ipAddresses : List String) (deviceAddress : UInt16)
    (autoReconnectAfter disconnectWhenIdleAfter : ℚ) : Initialised :=
  if ipAddresses = [] then .threw (.couldNotCreateDevice none)
  else match ipAddresses.findSome? newTcp with
    | none => .threw (.couldNotCreateDevice (some .einval))
    | some ctx =>
      let start : M Unit := do
        let _ ← modbusSetErrorRecovery ((1 : UInt32) <<< 1 ||| (1 : UInt32) <<< 2)
        let _ ← modbusSetSlave deviceAddress.toNat
      match start (.start ctx [] []) with
      | .blocked _ => .never
      | .done _ world =>
        .device { world, connected := false, autoReconnectAfter, disconnectWhenIdleAfter }

end Actor

end Initialisers

end LibModbus
