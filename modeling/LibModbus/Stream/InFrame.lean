import LibModbus.Client.Requests
import LibModbus.Server.Responses

/-! Requests of the client operations and responses of the server, one after the other on a stream
that is cut in any way. -/

namespace LibModbus

open Library Library.Prog

/-- A message that some client operation sends, from a context of the backend with the slave
identifier. -/
def Requested (b : Backend) (slave : ℤ) (adu : List UInt8) : Prop :=
  ∃ (call : ClientCall) (ctx : Modbus), call.CountsFrom 0 ∧ ctx.backend = b ∧ ctx.slave = slave ∧
    adu = sendMsgPre b (call.operation.build ctx).2

def Answered (b : Backend) (slave : ℤ) (adu : List UInt8) : Prop :=
  ∃ (request : List UInt8) (req : Mem UInt8) (mb : Mapping) (rsp : List UInt8),
    Requested b slave request ∧ req.Holds request ∧
    (replyBuild b req request.length mb).rsp = some rsp ∧ adu = sendMsgPre b rsp

def Sent : MsgType → Backend → ℤ → List UInt8 → Prop
  | .indication => Requested
  | .confirmation => Answered

section Sent

variable {b : Backend} {slave : ℤ} {adu : List UInt8}

lemma Requested.request (h : Requested b slave adu) : ∃ (call : ClientCall) (ctx : Modbus),
    call.CountsFrom 0 ∧ ctx.backend = b ∧ ctx.slave = slave ∧ adu = call.request ctx := by
  obtain ⟨call, ctx, hc, hb, hs, rfl⟩ := h
  refine ⟨call, ctx, hc, hb, hs, ?_⟩
  rw [call.build_eq, ClientCall.request, hb]

lemma reads_within_limits {call : ClientCall} (hc : call.CountsFrom 0) {req : Mem UInt8}
    (hm : HoldsPdu b req call.pdu) (mb : Mapping) :
    ReadsWithinLimits b req mb ∧ requestFunction b req < 0x80 ∧
      requestFunction b req ≠ fcReadExceptionStatus := by
  have hother (h : requestFunction b req ∉ readFunctions) : ReadsWithinLimits b req mb :=
    withinLimits_other h
  cases call with
  | readBits addr nb | readInputBits addr nb =>
    obtain ⟨hf, -, hnb⟩ := @HoldsPdu.fields _ _ _ addr nb [] hm (by decide)
    refine ⟨⟨fun _ _ _ _ => ?_, ?_, fun h => by simp [hf] at h⟩, by simp [hf], by simp [hf]⟩
    · simp only [ClientCall.CountsFrom, modbusMaxReadBits] at hc
      simp only [responseMaxBits]
      omega
    · rintro t tab (⟨h, -⟩ | ⟨h, -⟩) <;> simp [hf] at h
  | readRegisters addr nb | readInputRegisters addr nb =>
    obtain ⟨hf, -, hnb⟩ := @HoldsPdu.fields _ _ _ addr nb [] hm (by decide)
    refine ⟨⟨?_, fun _ _ _ _ => ?_, fun h => by simp [hf] at h⟩, by simp [hf], by simp [hf]⟩
    · rintro t tab (⟨h, -⟩ | ⟨h, -⟩) <;> simp [hf] at h
    · simp only [ClientCall.CountsFrom, modbusMaxReadRegisters] at hc
      simp only [responseMaxRegisters]
      omega
  | writeBit addr status | writeRegister addr value =>
    obtain ⟨hf, -, -⟩ := @HoldsPdu.fields _ _ _ addr _ [] hm (by decide)
    exact ⟨hother (by simp [readFunctions, hf]), by simp [hf], by simp [hf]⟩
  | writeBits addr nb src | writeRegisters addr nb src =>
    obtain ⟨hf, -, -⟩ := HoldsPdu.fields hm (by decide)
    exact ⟨hother (by simp [readFunctions, hf]), by simp [hf], by simp [hf]⟩
  | writeAndReadRegisters writeAddr writeNb src readAddr readNb =>
    obtain ⟨hf, -, hnb⟩ := HoldsPdu.fields hm (by decide)
    refine ⟨⟨?_, ?_, fun _ _ _ => ?_⟩, by simp [hf], by simp [hf]⟩
    · rintro t tab (⟨h, -⟩ | ⟨h, -⟩) <;> simp [hf] at h
    · rintro t tab (⟨h, -⟩ | ⟨h, -⟩) <;> simp [hf] at h
    · simp only [ClientCall.CountsFrom, modbusMaxReadRegisters] at hc
      simp only [responseMaxRegisters]
      omega
  | reportSlaveId =>
    have hf : requestFunction b req = fcReportSlaveId := by
      rw [requestFunction, hm.function]
      rfl
    exact ⟨hother (by simp [readFunctions, hf]), by simp [hf], by simp [hf]⟩

lemma Sent.frame {msgType : MsgType} {ctx : Modbus} (h₀ : 0 ≤ ctx.slave) (h₁ : ctx.slave < 256)
    (h : Sent msgType ctx.backend ctx.slave adu) : IsFrame ctx.backend msgType adu ∧ Intact ctx adu := by
  cases msgType with
  | indication =>
    obtain ⟨call, ctx', hc, hb, hs, rfl⟩ := Requested.request h
    rw [← hb]
    exact ⟨ClientCall.request_frame hc,
      ClientCall.request_intact hb.symm fun _ => ⟨hs.symm, hs ▸ h₀, hs ▸ h₁⟩⟩
  | confirmation =>
    obtain ⟨request, req, mb, rsp, hreq, hm, hr, rfl⟩ := h
    obtain ⟨call, ctx', hc, hb, hs, rfl⟩ := hreq.request
    have hframe := @ClientCall.request_frame call ctx' hc
    have hpdu := holdsPdu_sendMsgPre (requestHeader_length ctx') hm
    rw [hb] at hframe hpdu
    obtain ⟨hlim, hf, -⟩ := reads_within_limits hc hpdu mb
    obtain ⟨header, pdu, hshape⟩ := replyBuild_shaped (hframe.length hm).symm hlim hf rsp hr
    refine ⟨hshape.frame, hshape.intact fun hrtu => ?_⟩
    rw [← hb] at hrtu
    rw [header_sendMsgPre (requestHeader_length ctx') hm (j := 0) (by rw [hrtu]; decide) (by decide)
      (by decide)]
    rw [requestHeader_rtu hrtu, hs]
    exact ClientCall.ofInt_toNat h₀ h₁

end Sent

/-- Over a stream of requests, or of responses, successive calls of `_modbus_receive_msg` return
exactly these, however the stream is cut, and what comes behind them stays on the link. -/
theorem receiveMsg_in_frame {msgType : MsgType} {w : World} (h₀ : 0 ≤ w.ctx.slave)
    (h₁ : w.ctx.slave < 256) {frames : List (List UInt8)} {rest : List UInt8}
    (hsent : ∀ adu ∈ frames, Sent msgType w.ctx.backend w.ctx.slave adu)
    (hrx : w.rx = frames.flatten ++ rest) {bufs : List (Mem UInt8)}
    (hbufs : bufs.length = frames.length) (hf : Flows (2 * frames.flatten.length) w.script) :
    ∃ w', receiveAll msgType bufs w =
        .done (frames.map fun adu => ((adu.length : ℤ), adu)) w' ∧ w'.rx = rest :=
  receiveAll_frames hbufs (fun adu hm => ((hsent adu hm).frame h₀ h₁).1)
    (fun adu hm => ((hsent adu hm).frame h₀ h₁).2) hrx hf

def trickle : World :=
  .start modbusNewTcp
    ([0, 1, 0, 0, 0, 6, 0xFF, 1, 0, 0, 0, 1] ++ [0, 2, 0, 0, 0, 2, 0xFF, 17] ++ [0, 3])
    (List.replicate 40 { recv := .data 1 })

theorem receiveMsg_in_frame_example : ∃ w',
    receiveAll .indication [fun _ => 0, fun _ => 0] trickle = .done
      [(12, [0, 1, 0, 0, 0, 6, 0xFF, 1, 0, 0, 0, 1]), (8, [0, 2, 0, 0, 0, 2, 0xFF, 17])] w' ∧
    w'.rx = [0, 3] := by
  refine @receiveMsg_in_frame .indication trickle (by decide) (by decide)
    [[0, 1, 0, 0, 0, 6, 0xFF, 1, 0, 0, 0, 1], [0, 2, 0, 0, 0, 2, 0xFF, 17]] [0, 3] ?_ rfl
    [fun _ => 0, fun _ => 0] rfl ⟨by decide, ?_⟩
  · intro adu hm
    rcases List.mem_pair.mp hm with rfl | rfl
    · exact ⟨.readBits 0 1, modbusNewTcp, by decide, rfl, rfl, by decide⟩
    · exact ⟨.reportSlaveId, { modbusNewTcp with tId := 1 }, trivial, rfl, rfl, by decide⟩
  · intro r hr
    obtain rfl := List.eq_of_mem_replicate hr
    exact ⟨⟨_, rfl, le_rfl⟩, ⟨_, rfl⟩, rfl⟩

end LibModbus
