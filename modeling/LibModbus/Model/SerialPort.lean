import LibModbus.Library.Parts
import LibModbus.Model.Connection

/-! The settings of a serial port, which a context changes while it is connected. -/

namespace LibModbus

open Library

/-- `struct termios`. The speeds are kept apart from the flags. -/
structure Termios (w : ℕ) where
  iflag : BitVec w
  oflag : BitVec w
  cflag : BitVec w
  lflag : BitVec w
  cc : ℕ → UInt8
  ispeed : ℕ
  ospeed : ℕ

/-- What termios.h of the platform defines. `b n` is the constant for a speed of `n` baud. -/
structure TermiosConstants (w : ℕ) where
  b : ℕ → ℕ
  cread : BitVec w
  clocal : BitVec w
  csize : BitVec w
  cs5 : BitVec w
  cs6 : BitVec w
  cs7 : BitVec w
  cs8 : BitVec w
  cstopb : BitVec w
  parenb : BitVec w
  parodd : BitVec w
  icanon : BitVec w
  echo : BitVec w
  echoe : BitVec w
  isig : BitVec w
  inpck : BitVec w
  ixon : BitVec w
  ixoff : BitVec w
  ixany : BitVec w
  opost : BitVec w
  vmin : ℕ
  vtime : ℕ

/-- What `modbus_new_rtu` keeps of its arguments for the port. -/
structure SerialFormat where
  baud : ℤ
  parity : UInt8
  dataBit : UInt8
  stopBit : UInt8

def bauds : List ℕ := [110, 300, 600, 1200, 2400, 4800, 9600, 19200, 38400, 57600, 115200]

section Settings

variable {w : ℕ} (c : TermiosConstants w) (format : SerialFormat)

def speedConstant (baud : ℤ) : ℕ := if baud.toNat ∈ bauds then c.b baud.toNat else c.b 9600

def sizeConstant (dataBit : UInt8) : BitVec w :=
  match dataBit.toNat with
  | 5 => c.cs5
  | 6 => c.cs6
  | 7 => c.cs7
  | _ => c.cs8

def controlFlags : BitVec w :=
  let cflag := 0#w ||| (c.cread ||| c.clocal)
  let cflag := cflag &&& ~~~c.csize
  let cflag := cflag ||| sizeConstant c format.dataBit
  let cflag := if format.stopBit = 1 then cflag &&& ~~~c.cstopb else cflag ||| c.cstopb
  if format.parity = 78 then cflag &&& ~~~c.parenb
  else if format.parity = 69 then (cflag ||| c.parenb) &&& ~~~c.parodd
  else cflag ||| c.parenb ||| c.parodd

def inputFlags : BitVec w :=
  let iflag := if format.parity = 78 then 0#w &&& ~~~c.inpck else 0#w ||| c.inpck
  iflag &&& ~~~(c.ixon ||| c.ixoff ||| c.ixany)

/-- The settings that `_modbus_rtu_connect` puts together, starting from zeros. -/
def portSettings : Termios w where
  iflag := inputFlags c format
  oflag := 0#w &&& ~~~c.opost
  cflag := controlFlags c format
  lflag := 0#w &&& ~~~(c.icanon ||| c.echo ||| c.echoe ||| c.isig)
  cc := Function.update (Function.update (fun _ => 0) c.vmin 0) c.vtime 0
  ispeed := speedConstant c format.baud
  ospeed := speedConstant c format.baud

end Settings

/-- A context with the settings it saved in `old_tios`, and the port it is for. `opened` says whether the
descriptor of the context is open on the port, whose settings are `tty`. -/
structure SerialPort (w : ℕ) where
  world : World
  oldTios : Termios w
  tty : Termios w
  opened : Bool

namespace SerialPort

variable {w : ℕ}

def onWorld {α : Type} (m : M α) : Prog (SerialPort w) α :=
  Prog.onPart SerialPort.world (fun world port => { port with world }) m

/-- `tcgetattr(ctx->s, &old_tios)`. Where it fails, `old_tios` is left as it was. -/
def save (s : ℤ) : Prog (SerialPort w) Unit := do
  onWorld (record (.tcgetattr s))
  let r ← onWorld ask
  match r.trouble with
  | none => Prog.modify fun port => { port with oldTios := port.tty }
  | some e => onWorld (setErrno e)

/-- `_modbus_rtu_connect`. A descriptor that the context already has is lost, and stays open. -/
def rtuConnect (c : TermiosConstants w) (format : SerialFormat) : Prog (SerialPort w) ℤ := do
  let s ← onWorld osDescriptor
  onWorld (setSocket s)
  Prog.modify fun port => { port with opened := s ≠ -1 }
  if s = -1 then return -1
  else do
    save s
    let rc ← onWorld (osOption (.tcsetattr s))
    if rc < 0 then do
      onWorld (osClose s)
      Prog.modify fun port => { port with opened := false }
      onWorld (setSocket (-1))
      return -1
    else do
      Prog.modify fun port => { port with tty := portSettings c format }
      return 0

/-- The first call of `_modbus_rtu_close`, whose result nobody looks at. It fails when the descriptor is
not open on the port. -/
def restore (s : ℤ) : Prog (SerialPort w) Unit := do
  onWorld (record (.tcsetattr s))
  let r ← onWorld ask
  match r.trouble with
  | none => Prog.modify fun port => if port.opened then { port with tty := port.oldTios } else port
  | some e => onWorld (setErrno e)

def rtuClose : Prog (SerialPort w) Unit := do
  let port ← Prog.get
  restore port.world.ctx.s
  onWorld (osClose port.world.ctx.s)
  Prog.modify fun port => { port with opened := false }

/-- The recovery of a lost link. -/
def reconnect (c : TermiosConstants w) (format : SerialFormat) : Prog (SerialPort w) Unit := do
  rtuClose
  let port ← Prog.get
  let _ ← rtuConnect c format
  onWorld (record (.reconnecting (reachable port.world)))

end SerialPort

end LibModbus
