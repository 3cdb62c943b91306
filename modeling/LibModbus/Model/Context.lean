import LibModbus.Library.Memory
import LibModbus.Library.Program
import LibModbus.Library.Words

/-! The constants of modbus.h and modbus-private.h, the context `modbus_t`, and the world a
context lives in: the two byte streams of its link and the operating system's answers. -/

namespace LibModbus

open Library

@[match_pattern, simp] abbrev fcReadCoils : ℕ := 0x01
@[match_pattern, simp] abbrev fcReadDiscreteInputs : ℕ := 0x02
@[match_pattern, simp] abbrev fcReadHoldingRegisters : ℕ := 0x03
@[match_pattern, simp] abbrev fcReadInputRegisters : ℕ := 0x04
@[match_pattern, simp] abbrev fcWriteSingleCoil : ℕ := 0x05
@[match_pattern, simp] abbrev fcWriteSingleRegister : ℕ := 0x06
@[match_pattern, simp] abbrev fcReadExceptionStatus : ℕ := 0x07
@[match_pattern, simp] abbrev fcWriteMultipleCoils : ℕ := 0x0F
@[match_pattern, simp] abbrev fcWriteMultipleRegisters : ℕ := 0x10
@[match_pattern, simp] abbrev fcReportSlaveId : ℕ := 0x11
@[match_pattern, simp] abbrev fcWriteAndReadRegisters : ℕ := 0x17

@[simp] def modbusBroadcastAddress : ℤ := 0
@[simp] def modbusTcpSlave : ℤ := 0xFF

@[simp] def modbusMaxReadBits : ℤ := 2000
@[simp] def modbusMaxWriteBits : ℤ := 1968
@[simp] def modbusMaxReadRegisters : ℤ := 125
@[simp] def modbusMaxWriteRegisters : ℤ := 123
@[simp] def modbusMaxRwWriteRegisters : ℤ := 121

/-- Also the declared length of every `rsp` and `req` array that is not `minReqLength` long. -/
@[simp] def maxMessageLength : ℕ := 260
@[simp] def minReqLength : ℕ := 12
@[simp] def modbusTcpMaxAduLength : ℕ := 260
@[simp] def modbusRtuMaxAduLength : ℕ := 256

def reportSlaveId : UInt8 := 180

@[simp] def modbusExceptionIllegalFunction : ℕ := 0x01
@[simp] def modbusExceptionIllegalDataAddress : ℕ := 0x02
@[simp] def modbusExceptionIllegalDataValue : ℕ := 0x03
@[simp] def modbusExceptionMax : ℕ := 12

/-- `modbus code` stands for `MODBUS_ENOBASE + code`, which no errno of the system equals. -/
inductive Errno where
  | ebadf | econnreset | econnrefused | epipe | etimedout | eintr | einprogress | eagain
  | einval | enoprotoopt
  | system (n : ℕ)
  | modbus (code : ℕ)
  deriving DecidableEq, Repr

def embxiladd : Errno := .modbus modbusExceptionIllegalDataAddress
def embbadcrc : Errno := .modbus 12
def embbaddata : Errno := .modbus 13
def embbadexc : Errno := .modbus 14
def embmdata : Errno := .modbus 16
def embbadslave : Errno := .modbus 17

inductive Backend where
  | rtu
  | tcp
  | tcpPi
  deriving DecidableEq, Repr

namespace Backend

def headerLength : Backend → ℕ
  | rtu => 1
  | tcp | tcpPi => 7

def checksumLength : Backend → ℕ
  | rtu => 2
  | tcp | tcpPi => 0

def maxAduLength : Backend → ℕ
  | rtu => modbusRtuMaxAduLength
  | tcp | tcpPi => modbusTcpMaxAduLength

@[simp] lemma rtu_lengths :
    rtu.headerLength = 1 ∧ rtu.checksumLength = 2 ∧ rtu.maxAduLength = 256 := ⟨rfl, rfl, rfl⟩

@[simp] lemma tcp_lengths :
    tcp.headerLength = 7 ∧ tcp.checksumLength = 0 ∧ tcp.maxAduLength = 260 := ⟨rfl, rfl, rfl⟩

@[simp] lemma tcpPi_lengths :
    tcpPi.headerLength = 7 ∧ tcpPi.checksumLength = 0 ∧ tcpPi.maxAduLength = 260 := ⟨rfl, rfl, rfl⟩

end Backend

inductive MsgType where
  | indication
  | confirmation
  deriving DecidableEq, Repr

structure Timeval where
  sec : ℤ
  usec : ℤ
  deriving DecidableEq, Repr

/-- `modbus_t` with the parts of `backend_data` that change after the context was made. -/
structure Modbus where
  slave : ℤ
  s : ℤ
  errorRecovery : ℕ
  responseTimeout : Timeval
  byteTimeout : Timeval
  backend : Backend
  tId : ℕ
  confirmationToIgnore : Bool
  deriving DecidableEq, Repr

namespace Modbus

def recoversLink (ctx : Modbus) : Bool := ctx.errorRecovery &&& (1 <<< 1) ≠ 0
def recoversProtocol (ctx : Modbus) : Bool := ctx.errorRecovery &&& (1 <<< 2) ≠ 0

end Modbus

/-- `_modbus_init_common`, with what the constructors of the backends set in their own data. -/
def modbusInitCommon (backend : Backend) : Modbus where
  slave := -1
  s := -1
  errorRecovery := 0
  responseTimeout := ⟨0, 500000⟩
  byteTimeout := ⟨0, 500000⟩
  backend
  tId := 0
  confirmationToIgnore := false

def modbusNewRtu : Modbus := modbusInitCommon .rtu

def modbusNewTcp : Modbus := { modbusInitCommon .tcp with slave := modbusTcpSlave }

def modbusNewTcpPi : Modbus := { modbusInitCommon .tcpPi with slave := modbusTcpSlave }

inductive RecvAnswer where
  | data (n : ℕ)
  | eof
  | fail (e : Errno)
  deriving DecidableEq, Repr

structure Response where
  send : Except Errno ℕ := .ok maxMessageLength
  recv : RecvAnswer := .data maxMessageLength
  select : Except Errno Bool := .ok true
  selectTv : Timeval := ⟨0, 0⟩
  /-- The descriptor that `socket()` or `open()` returns. -/
  descriptor : Except Errno ℕ := .ok 3
  /-- How `setsockopt()`, `tcsetattr()` or `tcflush()` fails, if it does. -/
  option : Option Errno := none
  connect : Except Errno Unit := .ok ()
  /-- `select()` for writing, while a connection is being made. -/
  writable : Except Errno Bool := .ok true
  soError : Bool := false
  /-- `getaddrinfo()`: for every address of the list, whether it is of family `AF_INET`. -/
  addresses : Option (List Bool) := some [true]
  /-- The errno that `shutdown()`, `close()`, `nanosleep()` or `tcgetattr()` leaves behind, if any. -/
  trouble : Option Errno := none

/-- The calls on descriptors that a context issues. `opened` and `stored` record outcomes: the
descriptor handed out, and where in the caller's array received bytes were put. `reconnecting` is
recorded where a lost link was recovered, with whether the peer was reachable. -/
inductive Call where
  | opened (fd : ℤ)
  | setsockopt (fd : ℤ)
  | connect (fd : ℤ)
  | send (fd : ℤ) (msg : List UInt8)
  | recv (fd : ℤ)
  | stored (offset length : ℕ)
  | select (fd : ℤ)
  | shutdown (fd : ℤ)
  | close (fd : ℤ)
  | tcgetattr (fd : ℤ)
  | tcsetattr (fd : ℤ)
  | tcflush (fd : ℤ)
  | reconnecting (reachable : Bool)
  deriving DecidableEq, Repr

/-- `rx` holds the bytes the peer has put on the link and nobody received yet, `tx` the bytes
that `send()` accepted. Calls past the end of the script are never answered. -/
structure World where
  ctx : Modbus
  errno : Errno
  rx : List UInt8
  tx : List UInt8
  script : List Response
  trace : List Call

def World.start (ctx : Modbus) (rx : List UInt8) (script : List Response) : World :=
  ⟨ctx, .system 0, rx, [], script, []⟩

abbrev M := Prog World

def getCtx : M Modbus := do
  let w ← Prog.get
  return w.ctx

def getErrno : M Errno := do
  let w ← Prog.get
  return w.errno

def setErrno (e : Errno) : M Unit := Prog.modify fun w => { w with errno := e }

def setSocket (s : ℤ) : M Unit := Prog.modify fun w => { w with ctx := { w.ctx with s } }

def record (c : Call) : M Unit := Prog.modify fun w => { w with trace := w.trace ++ [c] }

@[simp] lemma bind_getCtx {α : Type} (f : Modbus → M α) (w : World) :
    (getCtx >>= f) w = f w.ctx w := rfl

@[simp] lemma bind_getErrno {α : Type} (f : Errno → M α) (w : World) :
    (getErrno >>= f) w = f w.errno w := rfl

@[simp] lemma bind_setErrno {α : Type} (e : Errno) (f : Unit → M α) (w : World) :
    (setErrno e >>= f) w = f () { w with errno := e } := rfl

def ask : M Response := fun w =>
  match w.script with
  | [] => .blocked w
  | r :: rest => .done r { w with script := rest }

/-- A `do`-`while` or `while` loop. Every turn makes at least one call, so the script bounds the
turns that can be observed. -/
def loop {α β : Type} (body : β → M (β ⊕ α)) (b : β) : M α := fun w =>
  Prog.iterate body (w.script.length + 1) b w

end LibModbus
