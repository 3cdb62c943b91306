import LibModbus.Bank.Server
import LibModbus.Client.Answers
import LibModbus.Client.Storage
import LibModbus.Server.Responses

/-! The client takes an answer of the bank out of the response that carries it. -/

namespace LibModbus

open Library Library.Prog

section Confirmation

variable {req : List UInt8} {rsp : Mem UInt8} {w : World}

lemma preCheckConfirmation_pass (h : ∀ j < w.ctx.backend.headerLength, j < 2 → rsp j = req.getD j 0) :
    preCheckConfirmation req rsp w = .done 0 w := by
  apply preCheckConfirmation_same
  unfold SameExchange
  cases hb : w.ctx.backend with
  | rtu => exact .inr (h 0 (by rw [hb]; decide) (by omega)).symm
  | tcp | tcpPi =>
    exact ⟨(h 0 (by rw [hb]; decide) (by omega)).symm, (h 1 (by rw [hb]; decide) (by omega)).symm⟩

variable (hpre : preCheckConfirmation req rsp w = .done 0 w)

include hpre

lemma checkConfirmation_exception {rspLength : ℤ} {code : ℕ}
    (hl : rspLength = (w.ctx.backend.headerLength + 2 + w.ctx.backend.checksumLength : ℕ))
    (hf : (rsp w.ctx.backend.headerLength).toNat =
      (req.getD w.ctx.backend.headerLength 0).toNat + 0x80)
    (hcode : (rsp (w.ctx.backend.headerLength + 1)).toNat = code) (hmax : code < modbusExceptionMax) :
    checkConfirmation req rsp rspLength w = .done (-1) { w with errno := .modbus code } := by
  rw [checkConfirmation, bind_getCtx]
  dsimp only
  rw [bind_done hpre, if_neg (by decide), if_pos (by omega), if_pos ⟨hl, by omega⟩]
  simp only [hcode, if_pos hmax]
  rfl

lemma checkConfirmation_accept {rspLength : ℤ} {n : ℕ}
    (hf : (rsp w.ctx.backend.headerLength).toNat = (req.getD w.ctx.backend.headerLength 0).toNat)
    (hlow : (rsp w.ctx.backend.headerLength).toNat < 0x80)
    (hl : (computeResponseLengthFromRequest w.ctx.backend req).map Nat.cast = some rspLength)
    (hn : confirmationCounts w.ctx.backend req rsp = (n, n)) :
    checkConfirmation req rsp rspLength w = .done (n : ℤ) w := by
  rw [checkConfirmation, bind_getCtx]
  dsimp only
  rw [bind_done hpre, if_neg (by decide), if_neg (by omega), if_pos (.inr hl), if_neg (by omega)]
  simp only [hn, if_true]
  rfl

end Confirmation

def Data.fill (dest : Dest) : Data → Dest
  | flags vs => { dest with bits := dest.bits.write 0 (vs.map Bool.toUInt8) }
  | words vs => { dest with words := dest.words.write 0 vs }
  | written => dest

def ClientCall.AnsweredBy : ClientCall → Data → Prop
  | readBits _ nb, .flags vs | readInputBits _ nb, .flags vs => vs.length = nb.toNat
  | readRegisters _ nb, .words vs | readInputRegisters _ nb, .words vs
  | writeAndReadRegisters _ _ _ _ nb, .words vs => vs.length = nb.toNat
  | writeBit _ _, .written | writeRegister _ _, .written | writeBits _ _ _, .written
  | writeRegisters _ _ _, .written => True
  | _, _ => False

lemma count_nonneg {call : ClientCall} (h : call.CountsFrom 0) : 0 ≤ call.count := by
  cases call with
  | readBits | readInputBits | readRegisters | readInputRegisters | writeBits | writeRegisters =>
    exact h.1
  | writeAndReadRegisters => exact h.2.1
  | writeBit | writeRegister => exact Int.zero_le_ofNat 1
  | reportSlaveId => exact le_rfl

lemma answeredBy_serve {call : ClientCall} {request : Request} {bank bank' : Bank} {data : Data}
    (hm : call.meaning = some request) (hs : bank.serve request = some (bank', data)) :
    call.AnsweredBy data := by
  cases call with
  | readBits | readInputBits | readRegisters | readInputRegisters =>
    obtain rfl := Option.some.inj hm
    obtain ⟨vs, hvs, he⟩ := Option.map_eq_some_iff.mp hs
    obtain ⟨-, rfl⟩ := Prod.mk.inj he
    exact fetch_length hvs
  | writeBit | writeRegister | writeBits | writeRegisters =>
    obtain rfl := Option.some.inj hm
    obtain ⟨_, -, he⟩ := Option.map_eq_some_iff.mp hs
    obtain ⟨-, rfl⟩ := Prod.mk.inj he
    trivial
  | writeAndReadRegisters =>
    obtain rfl := Option.some.inj hm
    obtain ⟨_, -, he⟩ := Option.bind_eq_some_iff.mp hs
    obtain ⟨vs, hvs, he⟩ := Option.map_eq_some_iff.mp he
    obtain ⟨-, rfl⟩ := Prod.mk.inj he
    exact fetch_length hvs
  | reportSlaveId => exact absurd hm (by simp [ClientCall.meaning])

section Answers

variable {req : List UInt8} {rsp : Mem UInt8} {w : World} {function : ℕ} {addr nb : ℤ}
  {rest pdu : List UInt8} {rspLength : ℤ}

open ClientCall

lemma readIoStatusDecode_fill {b : Backend} {vs : List Bool} {bytes : List UInt8}
    (hp : Packs bytes vs.length (vs.getD · false))
    (hrsp : ∀ k (h : k < bytes.length), rsp (b.headerLength + 2 + k) = bytes[k]) (dest : Dest) :
    readIoStatusDecode vs.length b ((vs.length + 7) / 8) rsp dest = (Data.flags vs).fill dest := by
  rw [readIoStatusDecode, Data.fill]
  congr 1
  funext j
  rw [readBytesLoop_eq _ _ _ _ (Nat.zero_le _), Mem.write_apply]
  by_cases hj : j < vs.length
  · rw [if_pos (by omega), dif_pos (by simpa using hj), List.getElem_map]
    have hbit := hp.bit j hj
    have hlt : j / 8 < bytes.length := by
      rw [hp.length]
      omega
    have hsame : bitAt (fun k => rsp (b.headerLength + 2 + k)) j = bitAt (bytes.getD · 0) j :=
      bitAt_congr ((hrsp _ hlt).trans (List.getD_eq_getElem _ _ hlt).symm)
    simp only [Nat.sub_zero]
    rw [hsame, hbit, List.getD_eq_getElem _ _ hj]
  · rw [if_neg (by omega), dif_neg (by simpa using hj)]

lemma readRegistersDecode_fill {b : Backend} {vs : List UInt16}
    (hrsp : ∀ k (h : k < (vs.flatMap registerBytes).length),
      rsp (b.headerLength + 2 + k) = (vs.flatMap registerBytes)[k]) (dest : Dest) :
    readRegistersDecode b vs.length rsp dest = (Data.words vs).fill dest := by
  rw [readRegistersDecode, Data.fill]
  congr 1
  funext j
  rw [readRegistersLoop_eq, Mem.write_apply]
  by_cases hj : j < vs.length
  · rw [if_pos (by omega), dif_pos (by simpa using hj)]
    exact wordAt_registerBytes hrsp hj
  · rw [if_neg (by omega), dif_neg (by simpa using hj)]

variable (hpre : preCheckConfirmation req rsp w = .done 0 w)
  (hreq : HoldsPdu w.ctx.backend (req.getD · 0) (basisPdu function addr nb ++ rest))
  (hl : rspLength = (w.ctx.backend.headerLength + pdu.length + w.ctx.backend.checksumLength : ℕ))

include hpre hreq hl

lemma checkConfirmation_flags {vs : List Bool} {bytes : List UInt8}
    (hfun : function = fcReadCoils ∨ function = fcReadDiscreteInputs)
    (hnb : nb ≤ modbusMaxReadBits) (hlen : nb = vs.length) (hbytes : bytes.length = (vs.length + 7) / 8)
    (hpdu : pdu = UInt8.ofInt function :: UInt8.ofNat ((vs.length + 7) / 8) :: bytes)
    (hrsp : HoldsPdu w.ctx.backend rsp pdu) :
    checkConfirmation req rsp rspLength w = .done (((vs.length + 7) / 8 : ℕ) : ℤ) w := by
  simp only [modbusMaxReadBits] at hnb
  have hlt : function < 256 := by rcases hfun with rfl | rfl <;> decide
  obtain ⟨hf, -, hn⟩ := hreq.fields hlt
  have hn' : requestNb w.ctx.backend (req.getD · 0) = vs.length := by omega
  rw [hpdu] at hrsp
  have h₀ : (rsp w.ctx.backend.headerLength).toNat = function := by
    rw [hrsp.function]
    have := ofInt_toNat (x := function) (by omega) (by omega)
    omega
  have h₁ : (rsp (w.ctx.backend.headerLength + 1)).toNat = (vs.length + 7) / 8 := by
    rw [show rsp (w.ctx.backend.headerLength + 1) = _ from hrsp.get (j := 0) (by simp)]
    exact UInt8.toNat_ofNat_of_lt' (show (vs.length + 7) / 8 < 256 by omega)
  unfold requestFunction at hf
  unfold requestNb at hn'
  refine checkConfirmation_accept hpre (by rw [h₀, hf]) (by rcases hfun with rfl | rfl <;> simp [h₀])
    ?_ ?_
  · rw [hl, hpdu, computeResponseLengthFromRequest]
    rcases hfun with rfl | rfl <;>
    · simp only [hf, hn', Option.map_some, List.length_cons, hbytes]
      congr 2
      split_ifs <;> omega
  · rw [confirmationCounts]
    rcases hfun with rfl | rfl <;>
    · simp only [h₀, h₁, hn', byteCount_eq]

lemma checkConfirmation_words {vs : List UInt16}
    (hfun : function = fcReadHoldingRegisters ∨ function = fcReadInputRegisters ∨
      function = fcWriteAndReadRegisters)
    (hnb : nb ≤ modbusMaxReadRegisters) (hlen : nb = vs.length)
    (hpdu : pdu = UInt8.ofInt function :: UInt8.ofNat (2 * vs.length) :: vs.flatMap registerBytes)
    (hrsp : HoldsPdu w.ctx.backend rsp pdu) :
    checkConfirmation req rsp rspLength w = .done (vs.length : ℤ) w := by
  simp only [modbusMaxReadRegisters] at hnb
  have hlt : function < 256 := by rcases hfun with rfl | rfl | rfl <;> decide
  obtain ⟨hf, -, hn⟩ := hreq.fields hlt
  have hn' : requestNb w.ctx.backend (req.getD · 0) = vs.length := by omega
  rw [hpdu] at hrsp
  have h₀ : (rsp w.ctx.backend.headerLength).toNat = function := by
    rw [hrsp.function]
    have := ofInt_toNat (x := function) (by omega) (by omega)
    omega
  have h₁ : (rsp (w.ctx.backend.headerLength + 1)).toNat = 2 * vs.length := by
    rw [show rsp (w.ctx.backend.headerLength + 1) = _ from hrsp.get (j := 0) (by simp)]
    exact UInt8.toNat_ofNat_of_lt' (show 2 * vs.length < 256 by omega)
  unfold requestFunction at hf
  unfold requestNb at hn'
  refine checkConfirmation_accept hpre (by rw [h₀, hf])
    (by rcases hfun with rfl | rfl | rfl <;> simp [h₀]) ?_ ?_
  · rw [hl, hpdu, computeResponseLengthFromRequest]
    rcases hfun with rfl | rfl | rfl <;>
    · simp only [hf, hn', Option.map_some, List.length_cons, flatMap_registerBytes_length]
      congr 2
      omega
  · rw [confirmationCounts]
    rcases hfun with rfl | rfl | rfl <;>
    · simp only [h₀, h₁, hn']
      congr 1
      omega

lemma checkConfirmation_written {n : ℕ}
    (hfun : (function = fcWriteMultipleCoils ∨ function = fcWriteMultipleRegisters) ∧ nb = n ∧
        n < 65536 ∨ (function = fcWriteSingleCoil ∨ function = fcWriteSingleRegister) ∧ n = 1)
    (hpdu : pdu = basisPdu function addr nb) (hrsp : HoldsPdu w.ctx.backend rsp pdu) :
    checkConfirmation req rsp rspLength w = .done (n : ℤ) w := by
  have hlt : function < 256 := by
    rcases hfun with ⟨rfl | rfl, -⟩ | ⟨rfl | rfl, -⟩ <;> decide
  obtain ⟨hf, -, hn⟩ := hreq.fields hlt
  rw [hpdu] at hrsp
  obtain ⟨h₀, -, hn'⟩ := @HoldsPdu.fields _ _ _ addr nb [] hrsp hlt
  have hlow : function < 0x80 := by
    rcases hfun with ⟨rfl | rfl, -⟩ | ⟨rfl | rfl, -⟩ <;> decide
  unfold requestFunction at hf h₀
  simp only [requestNb] at hn hn'
  refine checkConfirmation_accept hpre (by rw [h₀, hf]) (by rw [h₀]; exact hlow) ?_ ?_
  · rw [hl, hpdu, computeResponseLengthFromRequest]
    rcases hfun with ⟨rfl | rfl, -⟩ | ⟨rfl | rfl, -⟩ <;>
    · simp only [hf, Option.map_some]
      rfl
  · rw [confirmationCounts]
    rcases hfun with ⟨rfl | rfl, rfl, hlim⟩ | ⟨rfl | rfl, rfl⟩
    · simp only [h₀]
      congr 1 <;> omega
    · simp only [h₀]
      congr 1 <;> omega
    · simp only [h₀]
    · simp only [h₀]

end Answers

section Confirm

variable {call : ClientCall} {req : List UInt8} {rsp : Mem UInt8} {w : World} {pdu : List UInt8}

lemma checkConfirmation_answer (hpre : preCheckConfirmation req rsp w = .done 0 w)
    (hc : call.CountsFrom 0) (hreq : HoldsPdu w.ctx.backend (req.getD · 0) call.pdu)
    {rspLength : ℤ}
    (hl : rspLength = (w.ctx.backend.headerLength + pdu.length + w.ctx.backend.checksumLength : ℕ))
    {data : Data} (hans : call.AnsweredBy data) (hcar : Carries call (some data) pdu)
    (hrsp : HoldsPdu w.ctx.backend rsp pdu) (dest : Dest) :
    ∃ rc : ℕ, checkConfirmation req rsp rspLength w = .done (rc : ℤ) w ∧
      call.operation.value rc = call.count ∧
      call.operation.decode w.ctx.backend rc rsp dest = data.fill dest := by
  cases call with
  | readBits addr nb | readInputBits addr nb =>
    cases data with
    | flags vs =>
      obtain ⟨bytes, hp, hpdu⟩ := hcar
      obtain ⟨h₀, h₁⟩ := hc
      have hlen : nb = vs.length := by
        rw [show vs.length = nb.toNat from hans]
        omega
      refine ⟨_, @checkConfirmation_flags _ _ _ _ addr nb [] _ _ hpre hreq hl _ _ (by simp) h₁ hlen
        hp.length hpdu hrsp, rfl, ?_⟩
      rw [hpdu] at hrsp
      rw [← readIoStatusDecode_fill hp hrsp.counted dest,
        ← hlen]
      rfl
    | words vs => exact hans.elim
    | written => exact hans.elim
  | readRegisters addr nb | readInputRegisters addr nb =>
    cases data with
    | flags vs => exact hans.elim
    | words vs =>
      obtain ⟨h₀, h₁⟩ := hc
      have hlen : nb = vs.length := by
        rw [show vs.length = nb.toNat from hans]
        omega
      refine ⟨_, @checkConfirmation_words _ _ _ _ addr nb [] _ _ hpre hreq hl _ (by simp) h₁ hlen
        hcar hrsp, hlen.symm, ?_⟩
      rw [show pdu = _ from hcar] at hrsp
      exact readRegistersDecode_fill hrsp.counted dest
    | written => exact hans.elim
  | writeAndReadRegisters writeAddr writeNb src addr nb =>
    cases data with
    | flags vs => exact hans.elim
    | words vs =>
      obtain ⟨-, h₀, h₁⟩ := hc
      have hlen : nb = vs.length := by
        rw [show vs.length = nb.toNat from hans]
        omega
      refine ⟨_, checkConfirmation_words hpre hreq hl (by simp) h₁ hlen hcar hrsp, hlen.symm, ?_⟩
      rw [show pdu = _ from hcar] at hrsp
      exact readRegistersDecode_fill hrsp.counted dest
    | written => exact hans.elim
  | writeBit addr status | writeRegister addr value =>
    cases data with
    | flags vs => exact hans.elim
    | words vs => exact hans.elim
    | written =>
      exact ⟨1, @checkConfirmation_written _ _ _ _ addr _ [] _ _ hpre hreq hl 1 (by simp) hcar hrsp,
        rfl, rfl⟩
  | writeBits addr nb src | writeRegisters addr nb src =>
    cases data with
    | flags vs => exact hans.elim
    | words vs => exact hans.elim
    | written =>
      obtain ⟨n, rfl⟩ := Int.eq_ofNat_of_zero_le hc.1
      have hn : n < 65536 := by
        have := hc.2.trans_lt (by decide : _ < (65536 : ℤ))
        omega
      exact ⟨n, checkConfirmation_written hpre hreq hl (.inl ⟨by simp, rfl, hn⟩) hcar hrsp, rfl, rfl⟩
  | reportSlaveId => exact hans.elim

def ClientCall.outcome (call : ClientCall) (dest : Dest) : Option Data → ℤ × Dest
  | some data => (call.count, data.fill dest)
  | none => (-1, dest)

lemma function_lt (call : ClientCall) : (call.pdu.getD 0 0).toNat < 0x80 := by
  cases call <;> simp [ClientCall.pdu, ClientCall.basisPdu, UInt8.ofInt]

lemma HoldsPdu.function_eq {b : Backend} {m : Mem UInt8} (h : HoldsPdu b m call.pdu) :
    m b.headerLength = call.pdu.getD 0 0 := by
  rw [List.getD_eq_getElem _ _ call.pdu_pos]
  exact h 0 call.pdu_pos

lemma afterReceive_answer (hpre : preCheckConfirmation req rsp w = .done 0 w)
    (hc : call.CountsFrom 0) (hreq : HoldsPdu w.ctx.backend (req.getD · 0) call.pdu)
    {rspLength : ℤ}
    (hl : rspLength = (w.ctx.backend.headerLength + pdu.length + w.ctx.backend.checksumLength : ℕ))
    {answer : Option Data} (hans : ∀ data ∈ answer, call.AnsweredBy data)
    (hcar : Carries call answer pdu) (hrsp : HoldsPdu w.ctx.backend rsp pdu) (dest : Dest) :
    ∃ errno, afterReceive call.operation req dest (rspLength, rsp) w =
      .done (call.outcome dest answer) { w with errno } ∧ (answer = none → errno = embxiladd) := by
  rw [afterReceive, if_neg (by omega)]
  cases answer with
  | none =>
    have hpdu : pdu = [UInt8.ofNat ((call.pdu.getD 0 0).toNat + 0x80), 2] := hcar
    have hlow := function_lt call
    have hf : (rsp w.ctx.backend.headerLength).toNat =
        (req.getD w.ctx.backend.headerLength 0).toNat + 0x80 := by
      have hq : req.getD w.ctx.backend.headerLength 0 = call.pdu.getD 0 0 := hreq.function_eq
      rw [hpdu] at hrsp
      rw [hrsp.function, hq]
      exact UInt8.toNat_ofNat_of_lt' (show (call.pdu.getD 0 0).toNat + 0x80 < 256 by omega)
    have hcode : (rsp (w.ctx.backend.headerLength + 1)).toNat = 2 := by
      rw [hpdu] at hrsp
      exact congrArg UInt8.toNat (hrsp.get (j := 0) (by simp))
    rw [bind_done (checkConfirmation_exception hpre (by rw [hl, hpdu]; rfl) hf hcode (by decide))]
    exact ⟨_, rfl, fun _ => rfl⟩
  | some data =>
    obtain ⟨rc, hrc, hvalue, hdecode⟩ :=
      checkConfirmation_answer hpre hc hreq hl (hans data rfl) hcar hrsp dest
    rw [bind_done hrc, if_neg (by omega), bind_getCtx, hvalue, Int.toNat_natCast, hdecode]
    exact ⟨_, rfl, by simp⟩

lemma confirm_answer_first {ctx : Modbus} {msg header : List UInt8} {m : Mem UInt8} (stack : Mem UInt8)
    (dest : Dest) (hc : call.CountsFrom 0) (hb : ctx.backend = w.ctx.backend)
    (hm : m.Holds (call.request ctx)) (hshape : ResponseShape w.ctx.backend m msg header pdu)
    (hslave : w.ctx.backend = .rtu → ((m 0).toNat : ℤ) = w.ctx.slave) {answer : Option Data}
    (hans : ∀ data ∈ answer, call.AnsweredBy data) (hcar : Carries call answer pdu)
    {rest : List UInt8} (hrx : w.rx = sendMsgPre w.ctx.backend msg ++ rest)
    (hf : Flows (2 * (sendMsgPre w.ctx.backend msg).length) w.script) :
    ∃ w', call.operation.confirm stack (call.request ctx).length (call.request ctx) dest w =
        .done (call.outcome dest answer) w' ∧ w'.ctx = w.ctx ∧ w'.rx = rest ∧ w'.tx = w.tx ∧
        (answer = none → w'.errno = embxiladd) := by
  obtain ⟨w₁, hr, hrx₁, hctx₁, htx₁, -⟩ := receiveMsg_frame (n := 0) hshape.frame
    hrx (hshape.intact hslave) stack hf
  have hsent := hshape.split ▸ Mem.holds_write_self stack (sendMsgPre w.ctx.backend msg)
  have hpos : 0 < (call.request ctx).length := (ClientCall.request_frame hc).pos
  have hpdu : HoldsPdu w.ctx.backend ((call.request ctx).getD · 0) call.pdu := by
    rw [← hb]
    exact holdsPdu_sendMsgPre (requestHeader_length ctx) fun j hj => List.getD_eq_getElem _ _ hj
  have hrsp := holdsPdu_sendMsgPre hshape.header_length hsent
  have hpre : preCheckConfirmation (call.request ctx)
      (stack.write 0 (sendMsgPre w.ctx.backend msg)) w₁ = .done 0 w₁ := by
    refine preCheckConfirmation_pass fun j hj h2 => ?_
    rw [hctx₁] at hj
    have hjl : j < (call.request ctx).length := by
      rw [ClientCall.request, sendMsgPre_length, List.length_append, requestHeader_length, hb]
      omega
    rw [List.getD_eq_getElem _ _ hjl, ← hm j hjl, ← hshape.header_eq j hj (.inl h2), hshape.split]
    exact header_sendMsgPre hshape.header_length hsent hj (by omega) (by omega)
  have hlen : ((sendMsgPre w.ctx.backend msg).length : ℤ) =
      (w₁.ctx.backend.headerLength + pdu.length + w₁.ctx.backend.checksumLength : ℕ) := by
    rw [sendMsgPre_length, hshape.split, List.length_append, hshape.header_length, hctx₁]
  obtain ⟨errno, ha, herr⟩ := afterReceive_answer hpre hc (by rwa [hctx₁]) hlen hans hcar
    (by rwa [hctx₁, hshape.split]) dest
  rw [confirm_eq _ _ _ _ (by omega), bind_done hr, ha]
  exact ⟨_, rfl, hctx₁, hrx₁, htx₁, herr⟩

lemma confirm_answer {ctx : Modbus} {msg header : List UInt8} {m : Mem UInt8} (stack : Mem UInt8)
    (dest : Dest) (hc : call.CountsFrom 0) (hb : ctx.backend = w.ctx.backend)
    (hm : m.Holds (call.request ctx)) (hshape : ResponseShape w.ctx.backend m msg header pdu)
    (hslave : w.ctx.backend = .rtu → ((m 0).toNat : ℤ) = w.ctx.slave) {answer : Option Data}
    (hans : ∀ data ∈ answer, call.AnsweredBy data) (hcar : Carries call answer pdu)
    (hrx : w.rx = sendMsgPre w.ctx.backend msg)
    (hf : Flows (2 * (sendMsgPre w.ctx.backend msg).length) w.script) :
    ∃ w', call.operation.confirm stack (call.request ctx).length (call.request ctx) dest w =
        .done (call.outcome dest answer) w' ∧ w'.ctx = w.ctx ∧ w'.rx = [] ∧ w'.tx = w.tx ∧
        (answer = none → w'.errno = embxiladd) :=
  confirm_answer_first stack dest hc hb hm hshape hslave hans hcar (hrx.trans (List.append_nil _).symm) hf

end Confirm

end LibModbus
