import LibModbus.Model.Context

/-! The functions of modbus-tcp.c that make a server, in a process with descriptors of its own. -/

namespace LibModbus

open Library

/-- What the operating system answers to the next call: how it fails, if it does, and for
`getaddrinfo()` how many addresses it finds. -/
structure KernelAnswer where
  fault : Option Errno := none
  addresses : Option ℕ := some 1

/-- The process of a server. `fds` holds all its open descriptors. -/
structure Host where
  ctx : Modbus
  errno : Errno
  fds : List ℤ
  answers : List KernelAnswer

abbrev Kernel := Prog Host

section SystemCalls

def lowestFree (fds : List ℤ) : ℤ :=
  (((List.range (fds.length + 1)).map Int.ofNat).find? (· ∉ fds)).getD fds.length

def kernelAnswer : Kernel KernelAnswer := fun h =>
  match h.answers with
  | [] => .blocked h
  | r :: rest => .done r { h with answers := rest }

def fails (e : Errno) : Kernel ℤ := do
  Prog.modify fun h => { h with errno := e }
  return -1

def newDescriptor : Kernel ℤ := do
  let h ← Prog.get
  let fd := lowestFree h.fds
  Prog.modify fun h => { h with fds := fd :: h.fds }
  return fd

def sysSocket : Kernel ℤ := do
  let r ← kernelAnswer
  match r.fault with
  | none => newDescriptor
  | some e => fails e

/-- `setsockopt()`, `bind()` or `listen()`. -/
def sysOption (fd : ℤ) : Kernel ℤ := do
  let r ← kernelAnswer
  let h ← Prog.get
  if fd ∉ h.fds then fails .ebadf
  else match r.fault with
    | none => return 0
    | some e => fails e

def sysAccept (fd : ℤ) : Kernel ℤ := do
  let r ← kernelAnswer
  let h ← Prog.get
  if fd ∉ h.fds then fails .ebadf
  else match r.fault with
    | none => newDescriptor
    | some e => fails e

/-- Also a `close()` that reports a fault has closed the descriptor. -/
def sysClose (fd : ℤ) : Kernel Unit := do
  let r ← kernelAnswer
  let h ← Prog.get
  let fault := if fd ∈ h.fds then r.fault else some .ebadf
  Prog.modify fun h => { h with fds := h.fds.erase fd, errno := fault.getD h.errno }

end SystemCalls

section Listening

/-- The steps from `setsockopt()` to `listen()`. Each closes the socket when it fails. -/
def prepareSocket (s : ℤ) : Kernel ℤ := do
  let rc ← sysOption s
  if rc = -1 then do
    sysClose s
    return -1
  else do
    let rc ← sysOption s
    if rc = -1 then do
      sysClose s
      return -1
    else do
      let rc ← sysOption s
      if rc = -1 then do
        sysClose s
        return -1
      else return 0

def modbusTcpListen : Kernel ℤ := do
  let newSocket ← sysSocket
  if newSocket = -1 then return -1
  else do
    let rc ← prepareSocket newSocket
    if rc = -1 then return -1 else return newSocket

/-- The loop over `ai_list`, which gives `new_socket`. -/
def tcpPiListenLoop : ℕ → Kernel ℤ
  | 0 => return -1
  | n + 1 => do
    let s ← sysSocket
    if s < 0 then tcpPiListenLoop n
    else do
      let rc ← prepareSocket s
      if rc ≠ 0 then tcpPiListenLoop n else return s

def modbusTcpPiListen : Kernel ℤ := do
  let r ← kernelAnswer
  match r.addresses with
  | none => return -1
  | some n => do
    let newSocket ← tcpPiListenLoop n
    if newSocket < 0 then return -1 else return newSocket

def modbusTcpAccept (socket : ℤ) : Kernel (ℤ × ℤ) := do
  let s ← sysAccept socket
  Prog.modify fun h => { h with ctx := { h.ctx with s } }
  if s = -1 then do
    sysClose socket
    return (-1, 0)
  else return (s, socket)

def modbusTcpPiAccept (socket : ℤ) : Kernel (ℤ × ℤ) := do
  let s ← sysAccept socket
  Prog.modify fun h => { h with ctx := { h.ctx with s } }
  if s = -1 then do
    sysClose socket
    return (s, 0)
  else return (s, socket)

/-- `_modbus_tcp_close`. What `shutdown()` answers is not looked at. -/
def tcpHangUp : Kernel Unit := do
  let h ← Prog.get
  let _ ← sysOption h.ctx.s
  sysClose h.ctx.s

end Listening

end LibModbus
