import LibModbus.Client.Answers

/-! The errno that `check_confirmation` leaves, across the error recovery modes. -/

namespace LibModbus

open Library Library.Prog

section Checks

variable {b : Backend} {req : List UInt8} {rsp : Mem UInt8} {rspLength : ℤ} {w : World}

instance : Decidable (SameExchange b req rsp) :=
  match b with
  | .rtu => inferInstanceAs (Decidable (req.getD 0 0 = 0 ∨ req.getD 0 0 = rsp 0))
  | .tcp | .tcpPi => inferInstanceAs (Decidable (req.getD 0 0 = rsp 0 ∧ req.getD 1 0 = rsp 1))

def failedCheck (b : Backend) (req : List UInt8) (rsp : Mem UInt8) (rspLength : ℤ) : Errno :=
  let function := (rsp b.headerLength).toNat
  let exceptionCode := (rsp (b.headerLength + 1)).toNat
  if ¬SameExchange b req rsp then strangerErrno b
  else if 0x80 ≤ function then
    if rspLength = (b.headerLength + 2 + b.checksumLength : ℕ) ∧
        (req.getD b.headerLength 0).toNat = function - 0x80 ∧ exceptionCode < modbusExceptionMax then
      .modbus exceptionCode
    else embbadexc
  else embbaddata

lemma rejectConfirmation_errno : Triple (fun _ => True) rejectConfirmation
    (fun _ v => v.errno = embbaddata) (fun _ => True) := by
  have hend : Triple (fun _ => True) (setErrno embbaddata >>= fun _ => (pure (-1) : M ℤ))
      (fun _ v => v.errno = embbaddata) (fun _ => True) :=
    .bind (Q := fun _ (v : World) => v.errno = embbaddata) (fun _ _ => rfl) fun _ => .pure fun _ h => h
  refine .bind (Q := fun _ _ => True) (fun _ _ => trivial) fun ctx => .ite (fun _ => ?_) fun _ => hend
  refine .bind (Q := fun _ _ => True) (fun w _ => ?_) fun _ => hend
  cases sleepAndFlush w <;> trivial

lemma checkConfirmation_errno (h : SameExchange w.ctx.backend req rsp) :
    Triple (w = ·) (checkConfirmation req rsp rspLength)
      (fun rc v => rc = -1 → v.errno = failedCheck w.ctx.backend req rsp rspLength)
      (fun _ => True) := by
  have hset (e : Errno) (he : e = failedCheck w.ctx.backend req rsp rspLength) :
      Triple (fun _ => True) (setErrno e >>= fun _ => (pure (-1) : M ℤ))
        (fun rc v => rc = -1 → v.errno = failedCheck w.ctx.backend req rsp rspLength)
        (fun _ => True) :=
    .bind (Q := fun _ (v : World) => v.errno = e) (fun _ _ => rfl) fun _ =>
      .pure fun _ hv _ => hv.trans he
  rintro _ rfl
  rw [checkConfirmation, bind_getCtx]
  dsimp only
  rw [bind_done (preCheckConfirmation_same h), if_neg (by decide)]
  refine Triple.ite (P := fun _ => True) (fun hexc => ?_) (fun hlow => ?_) w trivial
  · refine .ite (fun hshape => .ite (fun hmax => ?_) fun hmax => ?_) fun hshape => ?_
    · apply hset
      rw [failedCheck, if_neg (not_not.mpr h), if_pos hexc, if_pos ⟨hshape.1, hshape.2, hmax⟩]
    · apply hset
      rw [failedCheck, if_neg (not_not.mpr h), if_pos hexc, if_neg (by tauto)]
    · apply hset
      rw [failedCheck, if_neg (not_not.mpr h), if_pos hexc, if_neg (by tauto)]
  · have hdata : failedCheck w.ctx.backend req rsp rspLength = embbaddata := by
      rw [failedCheck, if_neg (not_not.mpr h), if_neg hlow]
    have hreject : Triple (fun _ => True) rejectConfirmation
        (fun rc v => rc = -1 → v.errno = failedCheck w.ctx.backend req rsp rspLength)
        (fun _ => True) :=
      rejectConfirmation_errno.post fun _ _ hv _ => hv.trans hdata.symm
    refine .ite (fun _ => .ite (fun _ => hreject) fun _ => ?_) fun _ => hreject
    refine .ite (fun _ => .pure fun _ _ hrc => ?_) fun _ => hreject
    exact absurd hrc (by omega)

end Checks

section Modes

/-- On this request and response `check_confirmation` fails with one errno in every recovery mode,
that of the failed check. -/
def ErrnoKept (b : Backend) (req : List UInt8) (rsp : Mem UInt8) (rspLength : ℤ) : Prop :=
  ∀ (w v₁ v₂ : World) (errorRecovery : ℕ), w.ctx.backend = b →
    checkConfirmation req rsp rspLength w = .done (-1) v₁ →
    checkConfirmation req rsp rspLength { w with ctx := { w.ctx with errorRecovery } } =
      .done (-1) v₂ →
    v₁.errno = v₂.errno ∧ v₁.errno = failedCheck b req rsp rspLength

def troubledFlush : List Response := [{ trouble := some .einval }, { recv := .eof }]

lemma sleepAndFlush_troubled {w : World} (hs : w.script = troubledFlush) :
    ∃ rc v, sleepAndFlush w = .done rc v ∧ v.errno = .einval := by
  obtain ⟨⟨slave, s, errorRecovery, tv, tv', backend, tId, ignore⟩, errno, rx, tx, script, trace⟩ := w
  dsimp only at hs
  subst hs
  cases backend with
  | rtu => exact ⟨_, _, rfl, rfl⟩
  | tcp | tcpPi => exact ⟨_, _, rfl, rfl⟩

lemma checkConfirmation_stranger {req : List UInt8} {rsp : Mem UInt8} {rspLength : ℤ} {w : World}
    (h : ¬SameExchange w.ctx.backend req rsp) (hmode : w.ctx.errorRecovery = 0) :
    checkConfirmation req rsp rspLength w =
      .done (-1) { w with errno := strangerErrno w.ctx.backend } := by
  rw [checkConfirmation, bind_getCtx]
  dsimp only
  rw [bind_done (preCheckConfirmation_stranger h), if_pos rfl, if_neg]
  · rfl
  · simp [Modbus.recoversProtocol, hmode]

lemma checkConfirmation_flushed {req : List UInt8} {rsp : Mem UInt8} {rspLength : ℤ} {w : World}
    (h : ¬SameExchange w.ctx.backend req rsp) (hmode : w.ctx.errorRecovery = 4)
    (hs : w.script = troubledFlush) :
    ∃ v, checkConfirmation req rsp rspLength w = .done (-1) v ∧ v.errno = .einval := by
  obtain ⟨rc, v, hflush, hv⟩ := sleepAndFlush_troubled
    (w := { w with errno := strangerErrno w.ctx.backend }) hs
  refine ⟨v, ?_, hv⟩
  rw [checkConfirmation, bind_getCtx]
  dsimp only
  rw [bind_done (preCheckConfirmation_stranger h), if_pos rfl, if_pos, bind_done hflush]
  · rfl
  · simp [Modbus.recoversProtocol, hmode]

theorem errno_kept_iff (b : Backend) (req : List UInt8) (rsp : Mem UInt8) (rspLength : ℤ) :
    ErrnoKept b req rsp rspLength ↔ SameExchange b req rsp := by
  constructor
  · intro hkept
    by_contra hother
    let w : World := .start (modbusInitCommon b) [] troubledFlush
    obtain ⟨v, hrun, hv⟩ := @checkConfirmation_flushed req rsp rspLength
      { w with ctx := { w.ctx with errorRecovery := 4 } } hother rfl rfl
    obtain ⟨hsame, -⟩ := hkept w _ v 4 rfl (checkConfirmation_stranger hother rfl) hrun
    rw [hv] at hsame
    cases b <;> exact absurd hsame (by decide)
  · rintro hsame w v₁ v₂ errorRecovery rfl h₁ h₂
    have hv₁ := (checkConfirmation_errno hsame).done rfl h₁ rfl
    have hv₂ := (checkConfirmation_errno (w := { w with ctx := { w.ctx with errorRecovery } })
      hsame).done rfl h₂ rfl
    exact ⟨hv₁.trans hv₂.symm, hv₁⟩

/-- A request of transaction 1 and the response of transaction 2: in protocol recovery mode the
flush finds nothing to read, and its `EAGAIN` is what the caller sees. -/
theorem flush_errno : ¬∀ b req rsp rspLength, ErrnoKept b req rsp rspLength := by
  intro h
  let req : List UInt8 := [0, 1, 0, 0, 0, 6, 0xFF, 3, 0, 0, 0, 1]
  let rsp : Mem UInt8 := fun i => [0, 2, 0, 0, 0, 5, 0xFF, 3, 2, 0, 7].getD i 0
  obtain ⟨hsame, -⟩ := h .tcp req rsp 11 (.start modbusNewTcp [] [{}, {}]) _ _ 4 rfl rfl rfl
  exact absurd hsame (by decide)

end Modes

end LibModbus
