import LibModbus.Client.Answers

/-! Checksums of the answers that a client accepts on a serial line. -/

namespace LibModbus

open Library Library.Prog

def Checksummed (frame : List UInt8) : Prop :=
  ∃ body hi lo, frame = body ++ [hi, lo] ∧ word hi lo = crc16 body

/-- Whatever the peer sends, the operation succeeds only with a frame that has its checksum and, unless
the request was a broadcast, the slave asked for. -/
def ChecksumsAnswers (slave : ℤ) (call : ClientCall) : Prop :=
  ∀ (w : World) (stack : Mem UInt8) (dest : Dest), w.ctx.backend = .rtu → w.ctx.slave = slave →
    SendsTake w.script → ∀ rc dest' w', call.operation.run stack dest w = .done (rc, dest') w' → rc ≠ -1 →
      ∃ req frame, Accepts call.operation stack w req frame ∧ Checksummed frame ∧
        (slave ≠ 0 → frame.head? = some (UInt8.ofInt slave))

section Checks

variable {call : ClientCall} {frame : List UInt8} {m stack : Mem UInt8}

lemma checksummed_of_crcMatches (hlen : 2 ≤ frame.length) (hm : m.Holds frame)
    (h : crcMatches m frame.length = true) : Checksummed frame := by
  obtain ⟨k, hk⟩ : ∃ k, frame.length = k + 2 := ⟨frame.length - 2, by omega⟩
  refine ⟨m.slice 0 k, m k, m (k + 1), ?_, ?_⟩
  · rw [← hm.slice, hk]
    simp [Mem.slice, List.range_succ]
  · rw [crcMatches, hk, decide_eq_true_eq] at h
    exact h.symm

lemma responseLength_cases (b : Backend) (req : List UInt8) :
    (req.getD b.headerLength 0).toNat = fcReportSlaveId ∨
      ∃ n, computeResponseLengthFromRequest b req = some n ∧ 0 < n := by
  have hpos : 0 < b.headerLength := by cases b <;> decide
  by_cases h : (req.getD b.headerLength 0).toNat = fcReportSlaveId
  · exact .inl h
  · refine .inr ?_
    unfold computeResponseLengthFromRequest
    dsimp only
    split <;> first | contradiction | exact ⟨_, rfl, Nat.add_pos_left (Nat.add_pos_left hpos _) _⟩

lemma pdu_reports (h : (call.pdu.getD 0 0).toNat = fcReportSlaveId) : call = .reportSlaveId := by
  have hbasis {function : ℕ} {addr nb : ℤ} {l : List UInt8}
      (h : ((ClientCall.basisPdu function addr nb ++ l).getD 0 0).toNat = fcReportSlaveId) :
      (UInt8.ofInt function).toNat = fcReportSlaveId := h
  cases call with
  | reportSlaveId => rfl
  | writeBits | writeRegisters | writeAndReadRegisters => exact absurd (hbasis h) (by decide)
  | readBits | readInputBits | readRegisters | readInputRegisters | writeBit | writeRegister =>
    exact absurd (hbasis (l := []) h) (by decide)

lemma checksumsAnswers_of_known {slave : ℤ} (hslave : 0 ≤ slave ∧ slave ≤ 247)
    (h : ¬(slave = 0 ∧ call = .reportSlaveId)) : ChecksumsAnswers slave call := by
  rintro w stack dest hb rfl hsends rc dest' w' hrun hrc
  obtain ⟨req, frame, hacc⟩ := run_accepts hsends hrun hrc
  obtain ⟨n, ctx, hchecked⟩ := hacc.checked hsends
  have hbc : ctx.backend = .rtu := by
    rw [hchecked.config]
    exact (nextRequest_backend w.ctx).trans hb
  have hsc : ctx.slave = w.ctx.slave := by
    rw [hchecked.config]
    exact nextRequest_slave w.ctx
  obtain ⟨hexchange, hlength, -⟩ := hb ▸ hchecked.confirms
  obtain ⟨trailer, hreq⟩ : ∃ trailer, req = UInt8.ofInt w.ctx.slave :: (call.pdu ++ trailer) := by
    rw [hchecked.request, hb, requestHeader_rtu hb]
    exact ⟨_, rfl⟩
  have hlong : 4 ≤ frame.length := by
    rw [hchecked.length, hb, frameLength, headLength, computeDataLengthAfterMeta,
      Backend.rtu_lengths.1, Backend.rtu_lengths.2.1]
    omega
  have hmem := Mem.holds_write_self stack frame
  have hslave₀ := ClientCall.ofInt_toNat hslave.1 (by omega)
  -- Unless the request is a broadcast, only the slave that was asked may have answered.
  have hanswer (hne : w.ctx.slave ≠ 0) : stack.write 0 frame 0 = UInt8.ofInt w.ctx.slave := by
    have hzero : UInt8.ofInt w.ctx.slave ≠ 0 := by
      intro h0
      rw [h0] at hslave₀
      exact hne hslave₀.symm
    rw [hreq] at hexchange
    exact (hexchange.resolve_left hzero).symm
  have hforMe : notForMe ctx (stack.write 0 frame) = false := by
    by_contra hnot
    rw [Bool.not_eq_false] at hnot
    have hn : n = 0 := by
      rw [hchecked.received.1, integrity, hbc]
      exact if_pos hnot
    rcases responseLength_cases .rtu req with hreport | ⟨k, hk, hpos⟩
    · have hcall : call = .reportSlaveId := by
        apply pdu_reports
        rwa [hreq, Backend.rtu_lengths.1, List.getD_cons_succ, List.getD_append _ _ _ _ call.pdu_pos]
          at hreport
      have hrsp := hanswer fun h0 => h ⟨h0, hcall⟩
      rw [notForMe, hrsp, hslave₀, hsc] at hnot
      simp at hnot
    · rw [hk, hn] at hlength
      simp at hlength
      omega
  have hcrc : crcMatches (stack.write 0 frame) frame.length = true := by
    have hne := hchecked.received.2
    rw [hchecked.received.1, integrity, hbc] at hne
    dsimp only at hne
    rw [if_neg (by simp [hforMe])] at hne
    by_contra hbad
    exact hne (if_neg hbad)
  refine ⟨req, frame, hacc, checksummed_of_crcMatches (by omega) hmem hcrc, fun hne => ?_⟩
  rw [List.head?_eq_getElem?, List.getElem?_eq_getElem (by omega), ← hmem 0 (by omega), hanswer hne]

end Checks

section Stray

def strayAnswer : List UInt8 := [5, 0x11, 1, 0xAA, 0, 0]

def strayWorld : World := .start { modbusNewRtu with slave := 0 } strayAnswer (List.replicate 13 {})

def zeros : Mem UInt8 := fun _ => 0

lemma stray_run : ∃ dest w', modbusReportSlaveId.run zeros ⟨zeros, fun _ => 0⟩ strayWorld =
    .done (1, dest) w' := by
  apply run_returns
  decide +kernel

lemma stray_frame {req frame : List UInt8} (h : Accepts modbusReportSlaveId zeros strayWorld req frame) :
    frame = strayAnswer := by
  have hrx := h.splits
  have hbefore : (modbusReportSlaveId.issue strayWorld).state.rx = strayAnswer := by decide +kernel
  have hafter : (receiveMsg .confirmation zeros
    (modbusReportSlaveId.issue strayWorld).state).state.rx = [] := by decide +kernel
  rw [hbefore, hafter, List.append_nil] at hrx
  exact hrx.symm

lemma stray_not_checksummed : ¬Checksummed strayAnswer := by
  rintro ⟨body, hi, lo, hframe, hcrc⟩
  have hsplit : [5, 0x11, 1, 0xAA] ++ [0, 0] = body ++ [hi, lo] := hframe
  obtain ⟨rfl, htail⟩ := List.append_inj' hsplit rfl
  obtain ⟨rfl, rfl⟩ : 0 = hi ∧ 0 = lo := by simpa using htail
  exact absurd hcrc (by decide +kernel)

end Stray

/-- An operation on a serial line succeeds only with a checked answer, unless it asks all slaves at once
for their identifiers. -/
theorem checksumsAnswers_iff {slave : ℤ} (hslave : 0 ≤ slave ∧ slave ≤ 247) (call : ClientCall) :
    ChecksumsAnswers slave call ↔ ¬(slave = 0 ∧ call = .reportSlaveId) := by
  refine ⟨?_, checksumsAnswers_of_known hslave⟩
  rintro h ⟨rfl, rfl⟩
  obtain ⟨dest, w', hrun⟩ := stray_run
  obtain ⟨req, frame, hacc, hsum, -⟩ := h strayWorld zeros _ rfl rfl (by decide) _ _ _ hrun (by decide)
  rw [stray_frame hacc] at hsum
  exact stray_not_checksummed hsum

theorem checksumsAnswers_iff_example : ChecksumsAnswers 17 (.readRegisters 0 2) := by
  apply (checksumsAnswers_iff (by decide) _).mpr
  rintro ⟨h, -⟩
  exact absurd h (by decide)

/-- The broadcast request for the slave identifier takes the answer of slave 5, damaged as it is. -/
theorem stray_answer_accepted :
    ∃ dest w' req, modbusReportSlaveId.run zeros ⟨zeros, fun _ => 0⟩ strayWorld = .done (1, dest) w' ∧
      Accepts modbusReportSlaveId zeros strayWorld req strayAnswer ∧ ¬Checksummed strayAnswer := by
  obtain ⟨dest, w', hrun⟩ := stray_run
  have hcall : ClientCall.reportSlaveId.operation.run zeros ⟨zeros, fun _ => 0⟩ strayWorld =
      .done (1, dest) w' := hrun
  obtain ⟨req, frame, hacc⟩ := run_accepts (by decide) hcall (by decide)
  have hframe := stray_frame hacc
  subst hframe
  exact ⟨dest, w', req, hrun, hacc, stray_not_checksummed⟩

end LibModbus
