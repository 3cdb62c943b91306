import LibModbus.Model.Actor

/-! The address in the backend data of a TCP context. -/

namespace LibModbus

open Library

section Strings

/-- `cString(using: .ascii)` without the terminating null character. -/
def cStringAscii (s : String) : Option (List UInt8) :=
  if s.toList.all (·.toNat < 128) then some (s.toList.map fun c => UInt8.ofNat c.toNat) else none

def strlen (s : List UInt8) : ℕ := (s.takeWhile (· ≠ 0)).length

/-- `src` is followed by its terminating null character. -/
def strlcpy (dst : Mem UInt8) (src : List UInt8) (maxlen : ℕ) : Mem UInt8 × ℕ :=
  let srclen := strlen src
  if srclen + 1 < maxlen then (dst.write 0 ((src ++ [0]).take (srclen + 1)), srclen)
  else if maxlen ≠ 0 then
    ((dst.write 0 ((src ++ [0]).take (maxlen - 1))).store (maxlen - 1) 0, srclen)
  else (dst, srclen)

end Strings

section Contexts

structure ModbusTcp where
  port : ℤ
  ip : Mem UInt8

/-- The array `ip` starts with whatever `malloc()` found there. -/
def modbusNewTcpAt (malloced : Mem UInt8) (ip : List UInt8) (port : ℤ) : Option (Modbus × ModbusTcp) :=
  let destSize := 16
  let (ctxIp, retSize) := strlcpy malloced ip destSize
  if retSize = 0 then none
  else if retSize ≥ destSize then none
  else some (modbusNewTcp, ⟨port, ctxIp⟩)

inductive NewContext where
  | crashed
  | refused
  | made (ctx : Modbus) (ctxTcp : ModbusTcp)

/-- `strlcpy()` follows a null pointer where `cString(using:)` returns `nil`. -/
def newTcpLoop (malloced : ℕ → Mem UInt8) (port : ℤ) : List String → NewContext
  | [] => .refused
  | ipAddress :: ipAddresses =>
    match cStringAscii ipAddress with
    | none => .crashed
    | some ip =>
      match modbusNewTcpAt (malloced 0) ip port with
      | some (ctx, ctxTcp) => .made ctx ctxTcp
      | none => newTcpLoop (fun n => malloced (n + 1)) port ipAddresses

/-- `Actor.initNetwork` with the backend data of the context that the device keeps. -/
def Actor.initNetworkData (malloced : ℕ → Mem UInt8) (ipAddresses : List String) (port deviceAddress : UInt16)
    (autoReconnectAfter disconnectWhenIdleAfter : ℚ) : Initialised × Option ModbusTcp :=
  if ipAddresses = [] then (.threw (.couldNotCreateDevice none), none)
  else match newTcpLoop malloced port.toNat ipAddresses with
    | .crashed => (.never, none)
    | .refused => (.threw (.couldNotCreateDevice (some .einval)), none)
    | .made ctx ctxTcp =>
      let start : M Unit := do
        let _ ← modbusSetErrorRecovery ((1 : UInt32) <<< 1 ||| (1 : UInt32) <<< 2)
        let _ ← modbusSetSlave deviceAddress.toNat
      let made : Initialised :=
        match start (.start ctx [] []) with
        | .blocked _ => .never
        | .done _ world =>
          .device { world, connected := false, autoReconnectAfter, disconnectWhenIdleAfter }
      (made, some ctxTcp)

end Contexts

end LibModbus
