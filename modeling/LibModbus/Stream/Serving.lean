import LibModbus.Server.Responses

/-! A server that receives a request and answers it. -/

namespace LibModbus

open Library Library.Prog

/-- One round: what `modbus_receive` returned, and what `modbus_reply` did. -/
def serveRequest (buf : Mem UInt8) (mb : Mapping) : M (ℤ × Reply) := do
  let (rc, req) ← modbusReceive buf
  if rc > 0 then do
    let (_, reply) ← modbusReply req rc mb
    return (rc, reply)
  else return (rc, ⟨mb, [], none, false⟩)

/-- The most calls that either side makes for one message of each kind. -/
def callsNeeded : ℕ := 2 * maxMessageLength + 1

section Serving

variable {w : World} {mb : Mapping} {frame rest rsp : List UInt8}

lemma modbusReply_flows {req : Mem UInt8} {n : ℤ} (hn : w.ctx.backend.checksumLength ≤ n)
    (hrsp : (replyBuild w.ctx.backend req n mb).rsp = some rsp)
    (hshort : (sendMsgPre w.ctx.backend rsp).length ≤ maxMessageLength) {k : ℕ}
    (hf : Flows (k + 1) w.script) :
    ∃ w', modbusReply req n mb w = .done (((sendMsgPre w.ctx.backend rsp).length : ℤ),
        replyBuild w.ctx.backend req n mb) w' ∧ w'.ctx = w.ctx ∧ w'.rx = w.rx ∧
      w'.tx = w.tx ++ sendMsgPre w.ctx.backend rsp ∧ Flows k w'.script := by
  obtain ⟨r, rest, hs, hloss, hrest⟩ := hf.cases
  have hsend := sendMsg_flows hs hloss hshort
  rw [modbusReply_defined (replyBuild_defined hn), hrsp]
  dsimp only
  rw [bind_done hsend]
  exact ⟨_, rfl, rfl, rfl, rfl, hrest⟩

lemma modbusReceive_frame (hframe : IsFrame w.ctx.backend .indication frame)
    (hrx : w.rx = frame ++ rest) (hintact : Intact w.ctx frame)
    (hidle : w.ctx.backend = .rtu → w.ctx.confirmationToIgnore = false) (buf : Mem UInt8) {n : ℕ}
    (hf : Flows (2 * frame.length + n) w.script) :
    ∃ w', modbusReceive buf w = .done ((frame.length : ℤ), buf.write 0 frame) w' ∧
      w'.rx = rest ∧ w'.ctx = w.ctx ∧ w'.tx = w.tx ∧ Flows n w'.script := by
  obtain ⟨w', hr, h⟩ := receiveMsg_frame hframe hrx hintact buf hf
  refine ⟨w', ?_, h⟩
  have hpos := hframe.pos
  rw [modbusReceive, bind_getCtx]
  cases hb : w.ctx.backend with
  | tcp | tcpPi => exact hr
  | rtu =>
    dsimp only
    rw [rtuReceive, bind_getCtx, if_neg (by simp [hidle hb]), bind_done hr]
    dsimp only
    rw [if_neg (by omega)]
    rfl

lemma serveRequest_flows (hframe : IsFrame w.ctx.backend .indication frame)
    (hrx : w.rx = frame ++ rest) (hintact : Intact w.ctx frame)
    (hidle : w.ctx.backend = .rtu → w.ctx.confirmationToIgnore = false) (buf : Mem UInt8) {n : ℕ}
    (hf : Flows (2 * frame.length + (n + 1)) w.script)
    (hrsp : (replyBuild w.ctx.backend (buf.write 0 frame) frame.length mb).rsp = some rsp)
    (hshort : (sendMsgPre w.ctx.backend rsp).length ≤ maxMessageLength) :
    ∃ w', serveRequest buf mb w = .done ((frame.length : ℤ),
        replyBuild w.ctx.backend (buf.write 0 frame) frame.length mb) w' ∧
      w'.ctx = w.ctx ∧ w'.rx = rest ∧ w'.tx = w.tx ++ sendMsgPre w.ctx.backend rsp ∧
      Flows n w'.script := by
  obtain ⟨w₁, hr, hrx₁, hctx₁, htx₁, hf₁⟩ := modbusReceive_frame hframe hrx hintact hidle buf hf
  have hpos := hframe.pos
  have hchecksum : (w.ctx.backend.checksumLength : ℤ) ≤ frame.length := by
    rw [← hframe.length (Mem.holds_write_self buf frame)]
    exact Int.ofNat_le.mpr (checksumLength_le_frameLength _ _ _)
  rw [← hctx₁] at hrsp hshort hchecksum
  obtain ⟨w₂, hreply, hctx₂, hrx₂, htx₂, hf₂⟩ := modbusReply_flows hchecksum hrsp hshort hf₁
  rw [serveRequest, bind_done hr]
  dsimp only
  rw [if_pos (by omega), bind_done hreply, ← hctx₁, ← htx₁, ← hrx₁]
  exact ⟨w₂, rfl, hctx₂, hrx₂, htx₂, hf₂⟩

end Serving

end LibModbus
