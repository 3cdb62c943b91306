import LibModbus.Client.Sent
import LibModbus.Library.Stores

/-! The local arrays `req` of the client functions: every store into them, those of `send_msg_pre`
included. -/

namespace LibModbus

open Library Library.Prog

/-- A local array: its declared length, the stores of the function that declares it, and the
`req_length` that it passes to `send_msg`. -/
structure ReqArray where
  size : ℕ
  stores : List (ℕ × UInt8)
  length : ℕ

section Builders

def presetReqLength : Backend → ℕ
  | .rtu => 6
  | .tcp | .tcpPi => 12

def presetRspLength : Backend → ℕ
  | .rtu => 2
  | .tcp | .tcpPi => 8

/-- Indices 4 and 5 of a TCP header are left to `send_msg_pre`. -/
def buildRequestBasisStores (ctx : Modbus) (function addr nb : ℤ) : List (ℕ × UInt8) :=
  match ctx.backend with
  | .rtu => storesAt 0 [UInt8.ofInt ctx.slave, UInt8.ofInt function, hiByte addr, loByte addr,
      hiByte nb, loByte nb]
  | .tcp | .tcpPi =>
    let tId := if ctx.tId < 65535 then ctx.tId + 1 else 0
    storesAt 0 [hiByte tId, loByte tId, 0, 0] ++
      storesAt 6 [UInt8.ofInt ctx.slave, UInt8.ofInt function, hiByte addr, loByte addr,
        hiByte nb, loByte nb]

def buildResponseBasisStores (b : Backend) (sft : Sft) : List (ℕ × UInt8) :=
  match b with
  | .rtu => storesAt 0 [UInt8.ofNat sft.slave, UInt8.ofNat sft.function]
  | .tcp | .tcpPi => storesAt 0 [hiByte sft.tId, loByte sft.tId, 0, 0] ++
      storesAt 6 [UInt8.ofNat sft.slave, UInt8.ofNat sft.function]

def sendMsgPreStores (b : Backend) (req : Mem UInt8) (reqLength : ℕ) : List (ℕ × UInt8) × ℕ :=
  match b with
  | .rtu =>
    let crc : ℕ := crc16 (req.slice 0 reqLength)
    (storesAt reqLength [hiByte crc, loByte crc], reqLength + 2)
  | .tcp | .tcpPi =>
    let mbapLength : ℤ := reqLength - 6
    (storesAt 4 [hiByte mbapLength, loByte mbapLength], reqLength)

def packBitsStores (nb : ℤ) (src : Mem UInt8) (reqLength : ℕ) :
    ℕ → ℕ → UInt8 → ℕ → ℕ → List (ℕ × UInt8)
  | 0, _, _, _, _ => []
  | n + 1, bit, byte, bitCheck, pos =>
    if bit &&& 0xFF ≠ 0 ∧ bitCheck < nb then
      let byte := if src pos ≠ 0 then byte ||| UInt8.ofNat bit else byte &&& ~~~UInt8.ofNat bit
      (reqLength, byte) :: packBitsStores nb src reqLength n (bit <<< 1) byte (bitCheck + 1) (pos + 1)
    else []

/-- Each byte is cleared before its bits are set. -/
def packBytesStores (nb : ℤ) (src : Mem UInt8) : ℕ → ℕ → ℕ → ℕ → List (ℕ × UInt8)
  | 0, _, _, _ => []
  | n + 1, reqLength, bitCheck, pos =>
    let (_, bitCheck', pos') := packBitsLoop nb src 9 0x01 0 bitCheck pos
    (reqLength, 0) :: (packBitsStores nb src reqLength 9 0x01 0 bitCheck pos ++
      packBytesStores nb src n (reqLength + 1) bitCheck' pos')

end Builders

section Functions

variable (ctx : Modbus)

def basisArray (function : ℕ) (addr nb : ℤ) : ReqArray where
  size := minReqLength
  stores := buildRequestBasisStores ctx function addr nb
  length := presetReqLength ctx.backend

def writeBitsArray (addr nb : ℤ) (src : Mem UInt8) : ReqArray where
  size := maxMessageLength
  stores := buildRequestBasisStores ctx fcWriteMultipleCoils addr nb ++
    (presetReqLength ctx.backend, UInt8.ofInt (bitByteCount nb)) ::
      packBytesStores nb src (bitByteCount nb).toNat (presetReqLength ctx.backend + 1) 0 0
  length := presetReqLength ctx.backend + 1 + (bitByteCount nb).toNat

def writeRegistersArray (addr nb : ℤ) (src : Mem UInt16) : ReqArray where
  size := maxMessageLength
  stores := buildRequestBasisStores ctx fcWriteMultipleRegisters addr nb ++
    storesAt (presetReqLength ctx.backend) (UInt8.ofInt (nb * 2) :: packRegisters src nb.toNat)
  length := presetReqLength ctx.backend + 1 + 2 * nb.toNat

def writeAndReadRegistersArray (writeAddr writeNb : ℤ) (src : Mem UInt16) (readAddr readNb : ℤ) :
    ReqArray where
  size := maxMessageLength
  stores := buildRequestBasisStores ctx fcWriteAndReadRegisters readAddr readNb ++
    storesAt (presetReqLength ctx.backend) (hiByte writeAddr :: loByte writeAddr :: hiByte writeNb ::
      loByte writeNb :: UInt8.ofInt (writeNb * 2) :: packRegisters src writeNb.toNat)
  length := presetReqLength ctx.backend + 5 + 2 * writeNb.toNat

/-- The whole basis is stored, and the last four bytes of it are not sent. -/
def reportSlaveIdArray : ReqArray where
  size := minReqLength
  stores := buildRequestBasisStores ctx fcReportSlaveId 0 0
  length := presetReqLength ctx.backend - 4

def ClientCall.array : ClientCall → ReqArray
  | readBits addr nb => basisArray ctx fcReadCoils addr nb
  | readInputBits addr nb => basisArray ctx fcReadDiscreteInputs addr nb
  | readRegisters addr nb => basisArray ctx fcReadHoldingRegisters addr nb
  | readInputRegisters addr nb => basisArray ctx fcReadInputRegisters addr nb
  | writeBit addr status => basisArray ctx fcWriteSingleCoil addr (if status ≠ 0 then 0xFF00 else 0)
  | writeRegister addr value => basisArray ctx fcWriteSingleRegister addr value
  | writeBits addr nb src => writeBitsArray ctx addr nb src
  | writeRegisters addr nb src => writeRegistersArray ctx addr nb src
  | writeAndReadRegisters writeAddr writeNb src readAddr readNb =>
    writeAndReadRegistersArray ctx writeAddr writeNb src readAddr readNb
  | reportSlaveId => reportSlaveIdArray ctx

/-- `memcpy()` stores whatever follows the function code, however long it is. -/
def rawRequestArray (rawReq : List UInt8) : ReqArray where
  size := maxMessageLength
  stores := buildResponseBasisStores ctx.backend ⟨(rawReq.getD 0 0).toNat, (rawReq.getD 1 0).toNat, 0⟩ ++
    storesAt (presetRspLength ctx.backend) (rawReq.drop 2)
  length := presetRspLength ctx.backend + (rawReq.length - 2)

end Functions

def rawMessage (b : Backend) (rawReq : List UInt8) : List UInt8 :=
  buildResponseBasis b ⟨(rawReq.getD 0 0).toNat, (rawReq.getD 1 0).toNat, 0⟩ ++ rawReq.drop 2

namespace ReqArray

variable (a : ReqArray) (b : Backend) (stack : Mem UInt8)

def allStores : List (ℕ × UInt8) :=
  a.stores ++ (sendMsgPreStores b (stack.replay a.stores) a.length).1

def sent : List UInt8 :=
  (stack.replay (a.allStores b stack)).slice 0 (sendMsgPreStores b (stack.replay a.stores) a.length).2

end ReqArray

def Spells (b : Backend) (m : Mem UInt8) (msg : List UInt8) : Prop :=
  ∀ j (h : j < msg.length), (b ≠ .rtu → j ≠ 4 ∧ j ≠ 5) → m j = msg[j]

section Contents

variable {b : Backend} {m : Mem UInt8} {msg : List UInt8}

lemma Spells.append (h : Spells b m msg) (payload : List UInt8) :
    Spells b (m.write msg.length payload) (msg ++ payload) := by
  intro j hj hfield
  rw [List.length_append] at hj
  by_cases hlt : j < msg.length
  · rw [Mem.write_below _ _ hlt, List.getElem_append_left hlt, h j hlt hfield]
  · have hpayload : j - msg.length < payload.length := by omega
    rw [List.getElem_append_right (not_lt.mp hlt), ← Mem.write_add m hpayload,
      Nat.add_sub_cancel' (not_lt.mp hlt)]

lemma Spells.take (h : Spells b m msg) (n : ℕ) : Spells b m (msg.take n) := by
  intro j hj hfield
  rw [List.getElem_take]
  exact h j (hj.trans_le (List.length_take_le' n msg)) hfield

lemma spells_writes {head tail : List UInt8} (hb : b ≠ .rtu) (hlen : head.length = 4) :
    Spells b ((m.write 0 head).write 6 tail) (head ++ ([0, 0] ++ tail)) := by
  intro j hj hfield
  rw [List.length_append, List.length_append, hlen] at hj
  simp only [List.length_cons, List.length_nil] at hj
  obtain ⟨h₄, h₅⟩ := hfield hb
  by_cases hlow : j < 4
  · rw [Mem.write_below _ _ (by omega), List.getElem_append_left (by omega)]
    have hhead := Mem.write_add (i := 0) m (hlen ▸ hlow : j < head.length)
    rwa [Nat.zero_add] at hhead
  · have htail := Mem.write_add (i := 6) (m.write 0 head) (by omega : j - 6 < tail.length)
    rw [Nat.add_sub_cancel' (by omega)] at htail
    rw [htail, List.getElem_append_right (by omega), List.getElem_append_right (by simp [hlen]; omega)]
    simp [hlen]
    congr 1

lemma Spells.sent (h : Spells b m msg) :
    (m.replay (sendMsgPreStores b m msg.length).1).slice 0 (sendMsgPreStores b m msg.length).2 =
      sendMsgPre b msg := by
  cases b with
  | rtu =>
    have hholds : m.Holds msg := fun j hj => h j hj fun hne => absurd rfl hne
    have happend := Spells.append h [hiByte (crc16 msg), loByte (crc16 msg)]
    have hlen : msg.length + 2 = (sendMsgPre .rtu msg).length := (sendMsgPre_length .rtu msg).symm
    simp only [sendMsgPreStores, Mem.replay_storesAt, hholds.slice, hlen]
    apply Mem.Holds.slice
    exact fun j hj => happend j hj fun hne => absurd rfl hne
  | tcp | tcpPi =>
    simp only [sendMsgPreStores, Mem.replay_storesAt, sendMsgPre, tcpSendMsgPre]
    apply List.ext_getElem
    · simp
    · intro j h₁ h₂
      rw [Mem.slice_length] at h₁
      rw [Mem.slice_getElem, Nat.zero_add, List.getElem_set, List.getElem_set]
      by_cases h₅ : 5 = j
      · subst h₅
        rfl
      · rw [if_neg h₅]
        by_cases h₄ : 4 = j
        · subst h₄
          rfl
        · rw [if_neg h₄, Mem.write_apply, dif_neg (by simp; omega)]
          exact h j h₁ fun _ => ⟨Ne.symm h₄, Ne.symm h₅⟩

lemma sendMsgPreStores_length (reqLength : ℕ) :
    (sendMsgPreStores b m reqLength).2 = reqLength + b.checksumLength := by
  cases b <;> rfl

lemma basis_length (ctx : Modbus) (function : ℕ) (addr nb : ℤ) :
    (buildRequestBasis ctx function addr nb).2.length = presetReqLength ctx.backend := by
  unfold buildRequestBasis
  cases ctx.backend <;> rfl

lemma basis_spells (ctx : Modbus) (function : ℕ) (addr nb : ℤ) (stack : Mem UInt8) :
    Spells ctx.backend (stack.replay (buildRequestBasisStores ctx function addr nb))
      (buildRequestBasis ctx function addr nb).2 := by
  unfold buildRequestBasisStores buildRequestBasis
  cases ctx.backend with
  | rtu =>
    dsimp only
    rw [Mem.replay_storesAt]
    exact fun j hj _ => Mem.holds_write_self stack _ j hj
  | tcp | tcpPi =>
    dsimp only
    rw [Mem.replay_append, Mem.replay_storesAt, Mem.replay_storesAt]
    exact spells_writes (by decide) rfl

lemma response_length (b : Backend) (sft : Sft) : (buildResponseBasis b sft).length = presetRspLength b := by
  cases b <;> rfl

lemma response_spells (b : Backend) (sft : Sft) (stack : Mem UInt8) :
    Spells b (stack.replay (buildResponseBasisStores b sft)) (buildResponseBasis b sft) := by
  cases b with
  | rtu =>
    rw [buildResponseBasisStores, Mem.replay_storesAt]
    exact fun j hj _ => Mem.holds_write_self stack _ j hj
  | tcp | tcpPi =>
    dsimp only [buildResponseBasisStores]
    rw [Mem.replay_append, Mem.replay_storesAt, Mem.replay_storesAt]
    exact spells_writes (by decide) rfl

lemma replay_packBits (nb : ℤ) (src : Mem UInt8) (reqLength n bit : ℕ) (byte : UInt8) (bitCheck pos : ℕ) :
    (m.store reqLength byte).replay (packBitsStores nb src reqLength n bit byte bitCheck pos) =
      m.store reqLength (packBitsLoop nb src n bit byte bitCheck pos).1 := by
  induction n generalizing bit byte bitCheck pos with
  | zero => rfl
  | succ n ih =>
    rw [packBitsStores, packBitsLoop]
    by_cases hbit : bit &&& 0xFF ≠ 0
    · by_cases hleft : bitCheck < nb
      · rw [if_pos ⟨hbit, hleft⟩, if_pos hbit, if_pos hleft, Mem.replay_cons, Mem.store_store]
        exact ih _ _ _ _
      · rw [if_neg fun h => hleft h.2, if_pos hbit, if_neg hleft]
        rfl
    · rw [if_neg fun h => hbit h.1, if_neg hbit]
      rfl

lemma replay_packBytes (nb : ℤ) (src : Mem UInt8) (n reqLength bitCheck pos : ℕ) :
    m.replay (packBytesStores nb src n reqLength bitCheck pos) =
      m.write reqLength (packBytesLoop nb src n bitCheck pos) := by
  induction n generalizing m reqLength bitCheck pos with
  | zero => rw [packBytesLoop, Mem.write_nil, packBytesStores, Mem.replay, List.foldl_nil]
  | succ n ih =>
    simp only [packBytesStores, packBytesLoop, Mem.replay_cons, Mem.replay_append, replay_packBits, ih,
      Mem.store_write]

lemma packBits_stores {nb : ℤ} {src : Mem UInt8} {reqLength n bit : ℕ} {byte : UInt8} {bitCheck pos : ℕ}
    {p : ℕ × UInt8} (h : p ∈ packBitsStores nb src reqLength n bit byte bitCheck pos) :
    p.1 = reqLength := by
  induction n generalizing bit byte bitCheck pos with
  | zero => exact absurd h List.not_mem_nil
  | succ n ih =>
    rw [packBitsStores] at h
    split at h
    · rcases List.mem_cons.mp h with rfl | h
      · rfl
      · exact ih h
    · exact absurd h List.not_mem_nil

lemma packBytes_stores {nb : ℤ} {src : Mem UInt8} {n reqLength bitCheck pos : ℕ} {p : ℕ × UInt8}
    (h : p ∈ packBytesStores nb src n reqLength bitCheck pos) : p.1 < reqLength + n := by
  induction n generalizing reqLength bitCheck pos with
  | zero => exact absurd h List.not_mem_nil
  | succ n ih =>
    rw [packBytesStores] at h
    rcases List.mem_cons.mp h with rfl | h
    · dsimp only
      omega
    · rcases List.mem_append.mp h with h | h
      · rw [packBits_stores h]
        omega
      · have hlater := ih h
        omega

end Contents

section Fitting

variable {ctx : Modbus} {N : ℕ}

lemma basis_stores {function addr nb : ℤ} {p : ℕ × UInt8}
    (h : p ∈ buildRequestBasisStores ctx function addr nb) : p.1 < presetReqLength ctx.backend := by
  unfold buildRequestBasisStores at h
  cases hb : ctx.backend with
  | rtu =>
    rw [hb] at h
    exact (storesAt_bounds h).2
  | tcp | tcpPi =>
    rw [hb] at h
    rcases List.mem_append.mp h with h | h
    · exact (storesAt_bounds h).2.trans (show 4 < _ by decide)
    · exact (storesAt_bounds h).2

lemma response_stores {b : Backend} {sft : Sft} {p : ℕ × UInt8} (h : p ∈ buildResponseBasisStores b sft) :
    p.1 < presetRspLength b := by
  unfold buildResponseBasisStores at h
  cases b with
  | rtu => exact (storesAt_bounds h).2
  | tcp | tcpPi =>
    rcases List.mem_append.mp h with h | h
    · exact (storesAt_bounds h).2.trans (show 4 < _ by decide)
    · exact (storesAt_bounds h).2

lemma presetReqLength_eq (b : Backend) : presetReqLength b = b.headerLength + 5 := by
  cases b <;> rfl

lemma presetRspLength_eq (b : Backend) : presetRspLength b = b.headerLength + 1 := by
  cases b <;> rfl

lemma preset_le (b : Backend) : 6 ≤ presetReqLength b ∧
    presetReqLength b + b.checksumLength ≤ minReqLength := by
  cases b <;> decide

lemma ReqArray.allStores_lt {a : ReqArray} {b : Backend} (hstores : ∀ p ∈ a.stores, p.1 < N)
    (hlength : a.length + b.checksumLength ≤ N) (hN : 6 ≤ N) (stack : Mem UInt8) :
    ∀ p ∈ a.allStores b stack, p.1 < N := by
  intro p hp
  rcases List.mem_append.mp hp with hp | hp
  · exact hstores p hp
  · cases b with
    | rtu => exact (storesAt_bounds hp).2.trans_le hlength
    | tcp | tcpPi => exact (storesAt_bounds hp).2.trans_le hN

lemma bitByteCount_le {nb : ℤ} (h : nb ≤ modbusMaxWriteBits) : (bitByteCount nb).toNat ≤ 246 := by
  simp only [modbusMaxWriteBits] at h
  rcases le_or_gt 0 nb with hpos | hneg
  · rw [ClientCall.bitByteCount_eq hpos]
    omega
  · have hdiv : nb.tdiv 8 ≤ 0 := (Int.tdiv_le_tdiv (by decide) hneg.le).trans_eq (Int.zero_tdiv 8)
    unfold bitByteCount
    split_ifs <;> omega

namespace ClientCall

variable (ctx) in
lemma array_spells (call : ClientCall) (stack : Mem UInt8) :
    Spells ctx.backend (stack.replay (call.array ctx).stores) (call.operation.build ctx).2 ∧
      (call.array ctx).length = (call.operation.build ctx).2.length := by
  have hbasis (function addr nb) := basis_spells ctx function addr nb stack
  have hlength (function addr nb) := basis_length ctx function addr nb
  have hpayload (function : ℕ) (addr nb : ℤ) (payload : List UInt8) :
      Spells ctx.backend ((stack.replay (buildRequestBasisStores ctx function addr nb)).write
        (presetReqLength ctx.backend) payload) (requestWith function addr nb payload ctx).2 := by
    rw [← hlength function addr nb]
    exact (hbasis function addr nb).append payload
  have hlong (function : ℕ) (addr nb : ℤ) (payload : List UInt8) :
      (requestWith function addr nb payload ctx).2.length =
        presetReqLength ctx.backend + payload.length := by
    rw [requestWith, List.length_append, hlength]
  cases call with
  | readBits | readInputBits | readRegisters | readInputRegisters | writeBit | writeRegister =>
    exact ⟨hbasis _ _ _, (hlength _ _ _).symm⟩
  | writeBits addr nb src =>
    constructor
    · simp only [array, writeBitsArray, Mem.replay_append, Mem.replay_cons, replay_packBytes,
        Mem.store_write]
      exact hpayload _ _ _ _
    · simp only [operation, modbusWriteBits, hlong, List.length_cons, packBytesLoop_length, array,
        writeBitsArray]
      omega
  | writeRegisters addr nb src =>
    constructor
    · simp only [array, writeRegistersArray, Mem.replay_append, Mem.replay_storesAt]
      exact hpayload _ _ _ _
    · simp only [operation, modbusWriteRegisters, hlong, List.length_cons, packRegisters_length, array,
        writeRegistersArray]
      omega
  | writeAndReadRegisters writeAddr writeNb src readAddr readNb =>
    constructor
    · simp only [array, writeAndReadRegistersArray, Mem.replay_append, Mem.replay_storesAt]
      exact hpayload _ _ _ _
    · simp only [operation, modbusWriteAndReadRegisters, hlong, List.length_cons, packRegisters_length,
        array, writeAndReadRegistersArray]
      omega
  | reportSlaveId =>
    constructor
    · exact (hbasis fcReportSlaveId 0 0).take _
    · simp only [operation, modbusReportSlaveId, array, reportSlaveIdArray, List.length_take, hlength]
      omega

variable {call : ClientCall}

lemma array_sent (call : ClientCall) (stack : Mem UInt8) :
    (call.array ctx).sent ctx.backend stack = call.request ctx := by
  obtain ⟨hspells, hlength⟩ := call.array_spells ctx stack
  rw [ReqArray.sent, ReqArray.allStores, Mem.replay_append, hlength, hspells.sent, request, build_eq]

lemma array_stores {p : ℕ × UInt8} (h : p ∈ (call.array ctx).stores) :
    p.1 < max (presetReqLength ctx.backend) (call.array ctx).length := by
  have hbasis {function : ℕ} {addr nb : ℤ} {N : ℕ}
      (hp : p ∈ buildRequestBasisStores ctx function addr nb) : p.1 < max (presetReqLength ctx.backend) N :=
    (basis_stores hp).trans_le (le_max_left _ _)
  cases call with
  | readBits | readInputBits | readRegisters | readInputRegisters | writeBit | writeRegister
  | reportSlaveId => exact hbasis h
  | writeBits addr nb src =>
    rcases List.mem_append.mp h with h | h
    · exact hbasis h
    · apply lt_of_lt_of_le _ (le_max_right _ _)
      rcases List.mem_cons.mp h with rfl | h
      · simp only [array, writeBitsArray]
        omega
      · exact packBytes_stores h
  | writeRegisters addr nb src =>
    rcases List.mem_append.mp h with h | h
    · exact hbasis h
    · apply lt_of_lt_of_le _ (le_max_right _ _)
      have hbound := (storesAt_bounds h).2
      rw [List.length_cons, packRegisters_length] at hbound
      simp only [array, writeRegistersArray]
      omega
  | writeAndReadRegisters writeAddr writeNb src readAddr readNb =>
    rcases List.mem_append.mp h with h | h
    · exact hbasis h
    · apply lt_of_lt_of_le _ (le_max_right _ _)
      have hbound := (storesAt_bounds h).2
      simp only [List.length_cons, packRegisters_length] at hbound
      simp only [array, writeAndReadRegistersArray]
      omega

lemma array_length (h : call.operation.tooMany = false) :
    presetReqLength ctx.backend ≤ (call.array ctx).size ∧
      (call.array ctx).length + ctx.backend.checksumLength ≤ (call.array ctx).size ∧
      (call.array ctx).length + ctx.backend.checksumLength ≤ ctx.backend.maxAduLength := by
  have hmax := maxAduLength_le ctx.backend
  have hadu := maxAduLength_eq ctx.backend
  have hpreset := presetReqLength_eq ctx.backend
  have hmin := (preset_le ctx.backend).2
  simp only [maxPduLength, maxMessageLength, minReqLength] at hadu hmax hmin
  cases call with
  | readBits | readInputBits | readRegisters | readInputRegisters | writeBit | writeRegister
  | reportSlaveId =>
    simp only [array, basisArray, reportSlaveIdArray, minReqLength]
    omega
  | writeBits addr nb src =>
    have hnb := bitByteCount_le (not_lt.mp (of_decide_eq_false h))
    simp only [array, writeBitsArray, maxMessageLength]
    omega
  | writeRegisters addr nb src =>
    have hnb : nb ≤ modbusMaxWriteRegisters := not_lt.mp (of_decide_eq_false h)
    simp only [modbusMaxWriteRegisters] at hnb
    simp only [array, writeRegistersArray, maxMessageLength]
    omega
  | writeAndReadRegisters writeAddr writeNb src readAddr readNb =>
    have hnb : writeNb ≤ modbusMaxRwWriteRegisters := not_lt.mp (not_or.mp (of_decide_eq_false h)).1
    simp only [modbusMaxRwWriteRegisters] at hnb
    simp only [array, writeAndReadRegistersArray, maxMessageLength]
    omega

end ClientCall

section Raw

variable (ctx) (rawReq : List UInt8)

lemma raw_spells (stack : Mem UInt8) : Spells ctx.backend
    (stack.replay (rawRequestArray ctx rawReq).stores) (rawMessage ctx.backend rawReq) := by
  rw [rawRequestArray, Mem.replay_append, Mem.replay_storesAt, rawMessage,
    ← response_length ctx.backend ⟨(rawReq.getD 0 0).toNat, (rawReq.getD 1 0).toNat, 0⟩]
  exact (response_spells ctx.backend _ stack).append (rawReq.drop 2)

lemma raw_length : (rawMessage ctx.backend rawReq).length = (rawRequestArray ctx rawReq).length := by
  rw [rawMessage, List.length_append, response_length, List.length_drop, rawRequestArray]

lemma raw_sent (stack : Mem UInt8) : (rawRequestArray ctx rawReq).sent ctx.backend stack =
    sendMsgPre ctx.backend (rawMessage ctx.backend rawReq) := by
  rw [ReqArray.sent, ReqArray.allStores, Mem.replay_append, ← raw_length,
    (raw_spells ctx rawReq stack).sent]

variable {ctx rawReq} in
lemma raw_stores {p : ℕ × UInt8} (h : p ∈ (rawRequestArray ctx rawReq).stores) :
    p.1 < (rawRequestArray ctx rawReq).length := by
  simp only [rawRequestArray]
  rcases List.mem_append.mp h with h | h
  · exact (response_stores h).trans_le (Nat.le_add_right _ _)
  · have hbound := (storesAt_bounds h).2
    rwa [List.length_drop] at hbound

/-- Two bytes of the request become the slave and the function code, and the backend allows 253 bytes
from the function code on. -/
lemma raw_allowed (h : 2 ≤ rawReq.length) : rawReq.length ≤ 254 ↔
    (rawRequestArray ctx rawReq).length + ctx.backend.checksumLength ≤ ctx.backend.maxAduLength := by
  have hadu := maxAduLength_eq ctx.backend
  have hpreset := presetRspLength_eq ctx.backend
  simp only [maxPduLength] at hadu
  simp only [rawRequestArray]
  omega

end Raw

end Fitting

inductive RequestCall where
  | operation (call : ClientCall)
  | raw (rawReq : List UInt8)

namespace RequestCall

def Accepted : RequestCall → Prop
  | operation call => call.operation.tooMany = false
  | raw rawReq => 2 ≤ rawReq.length

def array (ctx : Modbus) : RequestCall → ReqArray
  | operation call => call.array ctx
  | raw rawReq => rawRequestArray ctx rawReq

def run (stack : Mem UInt8) (dest : Dest) : RequestCall → M Unit
  | operation call => do
    let _ ← call.operation.run stack dest
  | raw rawReq => do
    let _ ← modbusSendRawRequest rawReq

/-- Every store lies inside the array, and what is handed to `send()` is the message in it, no longer
than the backend allows. -/
structure Fits (call : RequestCall) (ctx : Modbus) : Prop where
  stores : call.Accepted → ∀ stack, ∀ p ∈ (call.array ctx).allStores ctx.backend stack,
    p.1 < (call.array ctx).size
  messages : ∀ w stack rsp dest, w.ctx = ctx → Sends (fun msg =>
    msg = (call.array ctx).sent ctx.backend stack ∧ msg.length ≤ ctx.backend.maxAduLength)
      w (call.run rsp dest w).state

end RequestCall

section Messages

variable {P : List UInt8 → Prop} {w : World}

lemma Triple.state {Q : World → Prop} {α : Type} {m : M α} (h : Triple (w = ·) m (fun _ => Q) Q) :
    Q (m w).state := by
  have hrun := h w rfl
  cases hm : m w <;> rwa [hm] at hrun

lemma sendMsg_sends {msg : List UInt8} (hP : P (sendMsgPre w.ctx.backend msg)) :
    Maintains (Sends P w) (Sends P w) (sendMsg msg) := by
  apply Attached.sendMsg
  · intro u v hu hv
    refine IsTrans.trans _ v _ hv (.of_call ⟨rfl, rfl⟩ rfl ?_)
    rintro fd msg ⟨⟩
    rwa [hu.backend]
  · exact fun v tx hv => IsTrans.trans _ v _ hv (.of_trace ⟨rfl, rfl⟩ rfl)

lemma ClientCall.issue_sends (call : ClientCall)
    (h : call.operation.tooMany = false → P (call.request w.ctx)) :
    Triple (w = ·) call.operation.issue (fun _ => Sends P w) (Sends P w) := by
  rintro _ rfl
  cases hfew : call.operation.tooMany with
  | true =>
    rw [Operation.issue, hfew, if_pos rfl]
    exact .of_trace ⟨rfl, rfl⟩ rfl
  | false =>
    rw [call.issue_eq hfew]
    exact sendMsg_sends (h hfew) _ (.of_trace ⟨nextRequest_backend w.ctx, nextRequest_slave w.ctx⟩ rfl)

lemma sendRawRequest_sends (rawReq : List UInt8)
    (h : 2 ≤ rawReq.length → P (sendMsgPre w.ctx.backend (rawMessage w.ctx.backend rawReq))) :
    Triple (w = ·) (modbusSendRawRequest rawReq) (fun _ => Sends P w) (Sends P w) := by
  rintro _ rfl
  rw [modbusSendRawRequest]
  by_cases hshort : rawReq.length < 2
  · rw [if_pos hshort]
    exact .of_trace ⟨rfl, rfl⟩ rfl
  · rw [if_neg hshort, bind_getCtx]
    have hsend := sendMsg_sends (h (not_lt.mp hshort))
    exact hsend.bind (fun _ => .pure _) w (Std.Refl.refl w)

lemma sendRawRequest_unanswered {rawReq : List UInt8} (h : 2 ≤ rawReq.length) (hs : w.script = []) :
    modbusSendRawRequest rawReq w = .blocked { w with trace := w.trace ++
      [.send w.ctx.s (sendMsgPre w.ctx.backend (rawMessage w.ctx.backend rawReq))] } := by
  rw [modbusSendRawRequest, if_neg (not_lt.mpr h), bind_getCtx]
  exact bind_blocked (sendMsg_unanswered _ hs) _

end Messages

namespace RequestCall

variable {ctx : Modbus}

lemma operation_fits (call : ClientCall) (ctx : Modbus) : (operation call).Fits ctx where
  stores hfew stack := by
    obtain ⟨hsize, hlength, -⟩ := @ClientCall.array_length ctx call hfew
    have hpreset := (preset_le ctx.backend).1
    apply ReqArray.allStores_lt _ hlength (hpreset.trans hsize)
    intro p hp
    exact (call.array_stores hp).trans_le (max_le hsize (by omega))
  messages w stack rsp dest hctx := by
    subst hctx
    apply Triple.state
    refine .bind (.bind (call.issue_sends fun hfew => ?_) ?_) fun _ => .pure fun _ h => h
    · obtain ⟨-, -, hadu⟩ := @ClientCall.array_length w.ctx call hfew
      refine ⟨(call.array_sent stack).symm, ?_⟩
      rwa [← call.array_sent stack, ReqArray.sent, Mem.slice_length,
        sendMsgPreStores_length]
    · rintro ⟨rc, req⟩
      refine Attached.confirm (fun v o n hv => ?_) rsp rc req dest
      exact IsTrans.trans _ v _ hv (.of_call ⟨rfl, rfl⟩ rfl nofun)

lemma raw_fits {rawReq : List UInt8} (h : rawReq.length ≤ 254) : (raw rawReq).Fits ctx where
  stores hlong stack := by
    have hadu := (raw_allowed ctx rawReq hlong).mp h
    have hmax := hadu.trans (maxAduLength_le ctx.backend)
    apply ReqArray.allStores_lt (fun p hp => (raw_stores hp).trans_le _) hmax (by decide)
    omega
  messages w stack rsp dest hctx := by
    subst hctx
    apply Triple.state
    refine .bind (sendRawRequest_sends rawReq fun hlong => ?_) fun _ => .pure fun _ h => h
    refine ⟨(raw_sent w.ctx rawReq stack).symm, ?_⟩
    rw [sendMsgPre_length, raw_length]
    exact (raw_allowed w.ctx rawReq hlong).mp h

lemma raw_sends_long {rawReq : List UInt8} (h : 254 < rawReq.length) : ¬(raw rawReq).Fits ctx := by
  intro hfits
  have hlong : 2 ≤ rawReq.length := by omega
  obtain ⟨-, -, calls, htrace, hsent⟩ :=
    hfits.messages (World.start ctx [] []) (fun _ => 0) (fun _ => 0) ⟨fun _ => 0, fun _ => 0⟩ rfl
  rw [run, bind_blocked (sendRawRequest_unanswered hlong rfl)] at htrace
  obtain ⟨-, hadu⟩ := hsent _ _ (List.append_cancel_left htrace ▸ List.mem_singleton_self _)
  rw [sendMsgPre_length, raw_length] at hadu
  exact h.not_ge ((raw_allowed ctx rawReq hlong).mpr hadu)

end RequestCall

/-- Only the length of a raw request is left to the caller. -/
theorem requests_fit_iff (call : RequestCall) (ctx : Modbus) :
    call.Fits ctx ↔ ∀ rawReq, call = .raw rawReq → rawReq.length ≤ 254 := by
  constructor
  · rintro hfits rawReq rfl
    exact not_lt.mp fun hlong => RequestCall.raw_sends_long hlong hfits
  · intro h
    cases call with
    | operation call => exact RequestCall.operation_fits call ctx
    | raw rawReq => exact RequestCall.raw_fits (h rawReq rfl)

theorem raw_request_overruns : ¬(RequestCall.raw (List.replicate 300 0)).Fits (modbusInitCommon .tcp) :=
  RequestCall.raw_sends_long (by rw [List.length_replicate]; decide)

end LibModbus
