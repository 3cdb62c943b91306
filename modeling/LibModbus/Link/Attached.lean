import LibModbus.Model.Client

/-! Invariants of a context that has a descriptor: what every run above the level of connections
preserves. -/

namespace LibModbus

open Library Library.Prog

def Call.IsUseOf (fd : ℤ) : Call → Prop
  | .recv fd' | .select fd' | .tcflush fd' => fd' = fd
  | _ => False

/-- An invariant that no call breaks but connecting, and those that move bytes. Runs that are not
answered may stand in `B`. -/
class Bound (I B : World → Prop) : Prop where
  left (w : World) : I w → B w
  script (w : World) (script : List Response) (h : script <:+ w.script) : I w → I { w with script }
  errno (w : World) (errno : Errno) : I w → I { w with errno }
  use (w : World) (c : Call) (h : c.IsUseOf w.ctx.s) : I w → I { w with trace := w.trace ++ [c] }

class Attached (I B : World → Prop) : Prop extends Bound I B where
  rx (w : World) (rx : List UInt8) : I w → I { w with rx }
  reconnect : Maintains I B reconnect

namespace Attached

variable {I B : World → Prop}

lemma getCtx : Maintains I B getCtx := fun _ hw => hw

lemma getErrno : Maintains I B getErrno := fun _ hw => hw

lemma onCtx {α : Type} {f : Modbus → M α}
    (h : ∀ w, I w → Triple (w = ·) (f w.ctx) (fun _ => I) B) : Maintains I B (LibModbus.getCtx >>= f) :=
  fun w hw => h w hw w rfl

section Bound

variable [Bound I B] {w : World}

lemma setErrno (e : Errno) : Maintains I B (setErrno e) := fun w hw => Bound.errno B w e hw

lemma ask : Maintains I B ask := by
  intro w hw
  unfold LibModbus.ask
  cases h : w.script with
  | nil => exact Bound.left w hw
  | cons r rest => exact Bound.script B w rest (h ▸ List.suffix_cons r rest) hw

lemma loop {α β : Type} {body : β → M (β ⊕ α)} (h : ∀ b, Maintains I B (body b)) (b : β) :
    Maintains I B (loop body b) :=
  fun w hw => Maintains.iterate Bound.left h _ b w hw

lemma record (hw : I w) {c : Call} (h : c.IsUseOf w.ctx.s) :
    Triple (w = ·) (record c) (fun _ => I) B := by
  rintro _ rfl
  exact Bound.use B w c h hw

lemma osOption (hw : I w) {c : Call} (h : c.IsUseOf w.ctx.s) :
    Triple (w = ·) (osOption c) (fun _ => I) B := by
  refine .bind (record hw h) fun _ => .bind ask fun r => ?_
  cases r.option with
  | none => exact Maintains.pure 0
  | some e => exact (setErrno e).bind fun _ => .pure _

lemma osSelect (hw : I w) (tv : Option Timeval) :
    Triple (w = ·) (osSelect w.ctx.s tv) (fun _ => I) B := by
  rw [osSelect_variable]
  refine .bind (record hw rfl) fun _ => .bind ask fun r => ?_
  dsimp only
  cases r.select with
  | ok ready => cases ready <;> exact Maintains.pure _
  | error e => exact (setErrno e).bind fun _ => .pure _

lemma backendSelect (tv : Option Timeval) : Maintains I B (backendSelect tv) := by
  refine loop (fun tv => onCtx fun w hw => .bind (osSelect hw tv) ?_) tv
  rintro ⟨sRc, tv⟩
  refine Maintains.ite (.bind getErrno fun _ => .ite (.pure _) (.pure _)) (.ite ?_ (.pure _))
  exact .bind (setErrno _) fun _ => .pure _

lemma nanosleep : Maintains I B (LibModbus.loop nanosleepStep ()) := by
  refine loop (fun _ => .bind ask fun r => ?_) ()
  cases r.trouble with
  | none => exact .pure _
  | some e => exact .bind (setErrno e) fun _ => .ite (.pure _) (.pure _)

lemma preCheckConfirmation (req : List UInt8) (rsp : Mem UInt8) :
    Maintains I B (preCheckConfirmation req rsp) := by
  refine .bind getCtx fun ctx => ?_
  cases ctx.backend with
  | rtu | tcp | tcpPi => exact .ite (.bind (setErrno _) fun _ => .pure _) (.pure _)

end Bound

section Attached

variable [Attached I B] {w : World}

lemma setRx (f : World → List UInt8) : Maintains I B (.modify fun w => { w with rx := f w }) :=
  .modify fun w hw => rx B w (f w) hw

lemma osRecvDontwait (hw : I w) (length : ℕ) :
    Triple (w = ·) (osRecvDontwait w.ctx.s length) (fun _ => I) B := by
  refine .bind (record hw rfl) fun _ => .bind ask fun r => ?_
  cases r.recv with
  | data n =>
    refine Maintains.get.bind fun w => .ite ?_ ?_
    · exact (setErrno _).bind fun _ => .pure _
    · exact (setRx _).bind fun _ => .pure _
  | eof => exact Maintains.pure _
  | fail e => exact (setErrno e).bind fun _ => .pure _

lemma rtuFlush : Maintains I B rtuFlush := by
  refine onCtx fun w hw => .bind (osOption hw rfl) fun rc => Maintains.ite ?_ (.pure _)
  exact (setRx _).bind fun _ => .pure _

lemma tcpFlush : Maintains I B tcpFlush := by
  refine loop (fun rcSum => onCtx fun w hw => .bind (osRecvDontwait hw _) fun rc => ?_) 0
  exact Maintains.ite (.pure _) (.pure _)

lemma modbusFlush : Maintains I B modbusFlush := by
  refine .bind getCtx fun ctx => ?_
  cases ctx.backend with
  | rtu => exact rtuFlush
  | tcp | tcpPi => exact tcpFlush

lemma sleepAndFlush : Maintains I B sleepAndFlush := .bind nanosleep fun _ => modbusFlush

lemma checkIntegrity (msg : Mem UInt8) (msgLength : ℕ) :
    Maintains I B (checkIntegrity msg msgLength) := by
  have hr : Maintains I B rtuRejectChecksum := by
    refine .bind getCtx fun ctx => .ite (.bind rtuFlush fun _ => ?_) ?_
    all_goals exact .bind (setErrno _) fun _ => .pure _
  refine .bind getCtx fun ctx => ?_
  cases ctx.backend with
  | rtu => exact .bind getCtx fun ctx => .ite (.pure _) (.ite (.pure _) hr)
  | tcp | tcpPi => exact .pure _

lemma recoverAfterSelect : Maintains I B recoverAfterSelect := by
  refine .bind getCtx fun ctx => .ite (.bind getErrno fun e => .ite ?_ (.ite ?_ ?_)) (.pure _)
  · exact .bind sleepAndFlush fun _ => setErrno e
  · exact reconnect.bind fun _ => setErrno e
  · exact setErrno e

lemma recoverAfterRecv : Maintains I B recoverAfterRecv := by
  refine .bind getCtx fun ctx => .bind getErrno fun e => .ite ?_ (.pure _)
  exact reconnect.bind fun _ => setErrno e

lemma rejectConfirmation : Maintains I B rejectConfirmation := by
  refine .bind getCtx fun ctx => .ite (.bind sleepAndFlush fun _ => ?_) ?_
  all_goals exact .bind (setErrno _) fun _ => .pure _

lemma checkConfirmation (req : List UInt8) (rsp : Mem UInt8) (rspLength : ℤ) :
    Maintains I B (checkConfirmation req rsp rspLength) := by
  refine .bind getCtx fun ctx => .bind (preCheckConfirmation req rsp) fun rc => .ite ?_ (.ite ?_ ?_)
  · exact .ite (.bind sleepAndFlush fun _ => .pure _) (.pure _)
  · refine .ite (.ite ?_ ?_) ?_
    all_goals exact .bind (setErrno _) fun _ => .pure _
  · exact .ite (.ite rejectConfirmation (.ite (.pure _) rejectConfirmation)) rejectConfirmation

lemma accepted (ctx : Modbus) (msg : Mem UInt8) (next : Option Receiving) :
    Maintains I B (match next with
      | none => LibModbus.setErrno embbaddata >>= fun _ =>
        (pure (.inr (-1, msg)) : M (Receiving ⊕ (ℤ × Mem UInt8)))
      | some st => pure (.inl { st with
          pTv := if st.lengthToRead > 0 ∧ ctx.byteTimeout.sec ≠ -1 then some ctx.byteTimeout
            else st.pTv })) := by
  cases next with
  | none => exact .bind (setErrno _) fun _ => .pure _
  | some st => exact .pure _

lemma receiveMsg (stored : ∀ w o n, I w → I { w with trace := w.trace ++ [.stored o n] })
    (msgType : MsgType) (msg : Mem UInt8) : Maintains I B (receiveMsg msgType msg) := by
  have hrecv (msg : Mem UInt8) (o n : ℕ) : Maintains I B (backendRecv msg o n) := by
    refine onCtx fun w hw => .bind (record hw rfl) fun _ => .bind ask fun r => ?_
    cases r.recv with
    | data k =>
      refine Maintains.get.bind fun w => .ite (.stuck Bound.left) ?_
      refine (setRx _).bind fun _ => .bind (.modify fun w hw => stored w o _ hw) fun _ => .pure _
    | eof => exact Maintains.pure _
    | fail e => exact (setErrno e).bind fun _ => .pure _
  have hmore (st : Receiving) : Maintains I B (receiveMore msgType st) := by
    refine .bind getCtx fun ctx => .bind (backendSelect _) ?_
    rintro ⟨rc, pTv⟩
    refine .ite (.bind recoverAfterSelect fun _ => .pure _) (.bind (hrecv _ _ _) ?_)
    rintro ⟨rc, msg⟩
    have hfail : Maintains I B (LibModbus.recoverAfterRecv >>= fun _ =>
        (pure (.inr (-1, msg)) : M (Receiving ⊕ (ℤ × Mem UInt8)))) :=
      .bind recoverAfterRecv fun _ => .pure _
    refine .ite (.bind (setErrno _) fun _ => .ite hfail ?_) (.ite hfail ?_)
    all_goals exact accepted ctx msg _
  refine .bind getCtx fun ctx => loop (fun st => .ite ?_ (hmore st)) _
  exact .bind (checkIntegrity _ _) fun _ => .pure _

section Sending

variable {msg : List UInt8} (sends : ∀ w, I w → I { w with trace := w.trace ++ [.send w.ctx.s msg] })
  (sent : ∀ w tx, I w → I { w with tx })

include sends sent

lemma osSend (hw : I w) : Triple (w = ·) (osSend w.ctx.s msg) (fun _ => I) B := by
  refine .bind (Q := fun _ => I) ?_ fun _ => .bind ask fun r => ?_
  · rintro _ rfl
    exact sends w hw
  cases r.send with
  | ok n => exact Maintains.bind (.modify fun w hw => sent w _ hw) fun _ => .pure _
  | error e => exact (setErrno e).bind fun _ => .pure _

lemma sendMsgStep (u : Unit) : Maintains I B (sendMsgStep msg u) := by
  refine .bind (onCtx fun w hw => osSend sends sent hw) fun rc => .bind getCtx fun ctx => ?_
  refine .ite (.bind getErrno fun e => .ite ?_ ?_) (.pure _)
  · exact reconnect.bind fun _ => .bind (setErrno e) fun _ => .pure _
  · exact .bind sleepAndFlush fun _ => .bind (setErrno e) fun _ => .pure _

end Sending

lemma sendMsg {msg : List UInt8}
    (sends : ∀ v w, I v → I w →
      I { w with trace := w.trace ++ [.send w.ctx.s (sendMsgPre v.ctx.backend msg)] })
    (sent : ∀ w tx, I w → I { w with tx }) : Maintains I B (sendMsg msg) := by
  refine onCtx fun v hv => ?_
  have hloop : Maintains I B (LibModbus.loop
      (LibModbus.sendMsgStep (sendMsgPre v.ctx.backend msg)) ()) :=
    loop (sendMsgStep (fun w hw => sends v w hv hw) sent) ()
  refine Triple.pre (hloop.bind fun rc => .ite (.bind (setErrno _) fun _ => .pure _) (.pure _)) ?_
  rintro _ rfl
  exact hv

section Operations

variable {op : Operation}

lemma issue (basis : ∀ w, I w → I { w with ctx := (op.build w.ctx).1 })
    (sends : op.tooMany = false → ∀ u v w, I u → I v → I w →
      I { w with trace := w.trace ++ [.send w.ctx.s (sendMsgPre v.ctx.backend (op.build u.ctx).2)] })
    (sent : ∀ w tx, I w → I { w with tx }) : Maintains I B op.issue := by
  refine Triple.ite (fun _ => Maintains.bind (setErrno _) fun _ => .pure _) fun hn => onCtx fun u hu => ?_
  have hfew : op.tooMany = false := by simpa using hn
  refine .bind (Q := fun _ => I) ?_ fun _ => sendMsg (fun v w hv hw => sends hfew u v w hu hv hw) sent
  rintro _ rfl
  exact basis u hu

lemma confirm (stored : ∀ w o n, I w → I { w with trace := w.trace ++ [.stored o n] })
    (stack : Mem UInt8) (rc : ℤ) (req : List UInt8) (dest : Dest) :
    Maintains I B (op.confirm stack rc req dest) := by
  refine .ite (.bind (receiveMsg stored _ _) ?_) (.pure _)
  rintro ⟨rc, rsp⟩
  refine .ite (.pure _) (.bind (checkConfirmation _ _ _) fun rc => .ite (.pure _) ?_)
  exact .bind getCtx fun _ => .pure _

end Operations

end Attached

end Attached

end LibModbus
