import LibModbus.Model.Crc

/-! The pure entries of the backend tables: headers of requests and responses, the last touch
before sending, and the checks on what was received. -/

namespace LibModbus

open Library

/-- The bytes of `req` up to the returned length, and the context with its new transaction ID.
Bytes 4 and 5 of a TCP header are set by `tcpSendMsgPre`. -/
def tcpBuildRequestBasis (ctx : Modbus) (function addr nb : ℤ) : Modbus × List UInt8 :=
  let tId := if ctx.tId < 65535 then ctx.tId + 1 else 0
  ({ ctx with tId },
    [hiByte tId, loByte tId, 0, 0, 0, 0, UInt8.ofInt ctx.slave, UInt8.ofInt function,
      hiByte addr, loByte addr, hiByte nb, loByte nb])

def rtuBuildRequestBasis (ctx : Modbus) (function addr nb : ℤ) : Modbus × List UInt8 :=
  (ctx, [UInt8.ofInt ctx.slave, UInt8.ofInt function, hiByte addr, loByte addr, hiByte nb, loByte nb])

def buildRequestBasis (ctx : Modbus) (function addr nb : ℤ) : Modbus × List UInt8 :=
  match ctx.backend with
  | .rtu => rtuBuildRequestBasis ctx function addr nb
  | .tcp | .tcpPi => tcpBuildRequestBasis ctx function addr nb

structure Sft where
  slave : ℕ
  function : ℕ
  tId : ℕ

def tcpBuildResponseBasis (sft : Sft) : List UInt8 :=
  [hiByte sft.tId, loByte sft.tId, 0, 0, 0, 0, UInt8.ofNat sft.slave, UInt8.ofNat sft.function]

def rtuBuildResponseBasis (sft : Sft) : List UInt8 :=
  [UInt8.ofNat sft.slave, UInt8.ofNat sft.function]

def buildResponseBasis : Backend → Sft → List UInt8
  | .rtu => rtuBuildResponseBasis
  | .tcp | .tcpPi => tcpBuildResponseBasis

/-- Also the length of the request without its checksum, an `int`. -/
def prepareResponseTid (b : Backend) (req : Mem UInt8) (reqLength : ℤ) : ℕ × ℤ :=
  match b with
  | .rtu => (0, reqLength - Backend.rtu.checksumLength)
  | .tcp | .tcpPi => (word (req 0) (req 1), reqLength)

def tcpSendMsgPre (req : List UInt8) : List UInt8 :=
  let mbapLength : ℤ := req.length - 6
  (req.set 4 (hiByte mbapLength)).set 5 (loByte mbapLength)

def rtuSendMsgPre (req : List UInt8) : List UInt8 :=
  let crc : ℕ := crc16 req
  req ++ [hiByte crc, loByte crc]

def sendMsgPre : Backend → List UInt8 → List UInt8
  | .rtu => rtuSendMsgPre
  | .tcp | .tcpPi => tcpSendMsgPre

def crcMatches (msg : Mem UInt8) (msgLength : ℕ) : Bool :=
  crc16 (msg.slice 0 (msgLength - 2)) = word (msg (msgLength - 2)) (msg (msgLength - 1))

end LibModbus
