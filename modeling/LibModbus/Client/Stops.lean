import LibModbus.Model.Client

/-! Where no `recv()` waits for bytes, a run comes to a stop for want of an answer only: the turns that a
loop is allowed are enough. -/

namespace LibModbus

open Library Library.Prog

def Stocked (k : ℕ) (w : World) : Prop := w.script.length ≤ k ∧ ∀ r ∈ w.script, ∀ n, r.recv ≠ .data n

def Drawn (k : ℕ) (w : World) : Prop := w.script.length < k ∧ ∀ r ∈ w.script, ∀ n, r.recv ≠ .data n

def Exhausted (w : World) : Prop := w.script = []

def NeverWaits {α : Type} (m : M α) : Prop := ∀ k, Maintains (Stocked k) Exhausted m

variable {α β : Type} {m : M α} {k : ℕ}

lemma Drawn.stocked {w : World} (h : Drawn k w) : Stocked k w := ⟨h.1.le, h.2⟩

namespace NeverWaits

lemma drawn (h : NeverWaits m) : Maintains (Drawn k) Exhausted m := by
  cases k with
  | zero => exact fun w hw => absurd hw.1 (Nat.not_lt_zero _)
  | succ k =>
    have hk (w : World) : Drawn (k + 1) w ↔ Stocked k w := and_congr_left fun _ => Nat.lt_succ_iff
    simpa only [Maintains, hk] using (h k).weaken (fun w hw => (hk w).mp hw) (fun _ w hw => (hk w).mpr hw)
      fun _ h => h

lemma drawing {f : α → M β} (hm : Triple (Stocked k) m (fun _ => Drawn k) Exhausted)
    (hf : ∀ a, NeverWaits (f a)) : Triple (Stocked k) (m >>= f) (fun _ => Drawn k) Exhausted :=
  .bind hm fun a => (hf a).drawn

lemma pure (a : α) : NeverWaits (Pure.pure a : M α) := fun _ => .pure a

lemma bind {f : α → M β} (hm : NeverWaits m) (hf : ∀ a, NeverWaits (f a)) : NeverWaits (m >>= f) :=
  fun k => .bind (hm k) fun a => hf a k

lemma ite {c : Prop} [Decidable c] {m' : M α} (hm : NeverWaits m) (hm' : NeverWaits m') :
    NeverWaits (if c then m else m') :=
  fun k => .ite (hm k) (hm' k)

lemma getCtx : NeverWaits getCtx := fun _ _ hw => hw

lemma getErrno : NeverWaits getErrno := fun _ _ hw => hw

lemma modify {g : World → World} (h : ∀ w, (g w).script = w.script) : NeverWaits (Prog.modify g) := by
  refine fun k => .modify fun w hw => ?_
  rw [Stocked, h]
  exact hw

lemma record (c : Call) : NeverWaits (record c) := modify fun _ => rfl

lemma setErrno (e : Errno) : NeverWaits (setErrno e) := modify fun _ => rfl

lemma setSocket (s : ℤ) : NeverWaits (setSocket s) := modify fun _ => rfl

lemma failed (e : Errno) (a : α) : NeverWaits (LibModbus.setErrno e >>= fun _ => (Pure.pure a : M α)) :=
  .bind (setErrno e) fun _ => .pure a

lemma ask_next : Triple (Stocked k) ask (fun r w => Drawn k w ∧ ∀ n, r.recv ≠ .data n) Exhausted := by
  rintro w ⟨hk, hdata⟩
  unfold LibModbus.ask
  cases hs : w.script with
  | nil => exact hs
  | cons r rest =>
    rw [hs] at hk hdata
    exact ⟨⟨hk, fun r' hr' => hdata r' (List.mem_cons_of_mem _ hr')⟩, hdata r List.mem_cons_self⟩

lemma ask_drawn : Triple (Stocked k) ask (fun _ => Drawn k) Exhausted := ask_next.post fun _ _ h => h.1

lemma ask : NeverWaits ask := fun _ => ask_drawn.post fun _ _ h => h.stocked

lemma loop {body : β → M (β ⊕ α)} (hb : ∀ b k, Triple (Stocked k) (body b)
    (fun r w => r.elim (fun _ => Drawn k w) fun _ => Stocked k w) Exhausted) (b : β) :
    NeverWaits (loop body b) := by
  intro k w hw
  refine Triple.iterate_measured (I := fun _ => Stocked k) (Q := fun _ => Stocked k)
    (fun w => w.script.length) ?_ _ b w ⟨hw, Nat.lt_succ_self _⟩
  rintro b j v ⟨hv, hj⟩
  apply ((hb b v.script.length).post _) v ⟨le_rfl, hv.2⟩
  rintro (b' | a) u hu
  · exact ⟨⟨hu.1.le.trans hv.1, hu.2⟩, hu.1.trans_le hj⟩
  · exact ⟨hu.1.trans hv.1, hu.2⟩

lemma loop_drawn {body : β → M (β ⊕ α)}
    (hb : ∀ b k, Triple (Stocked k) (body b) (fun _ => Drawn k) Exhausted) (b : β) :
    NeverWaits (LibModbus.loop body b) := by
  refine loop (fun b k => (hb b k).post ?_) b
  rintro (b' | a) w hw
  · exact hw
  · exact hw.stocked

section Connect

lemma osIgnored (c : Call) : NeverWaits (osIgnored c) := by
  refine .bind (record c) fun _ => .bind ask fun r => ?_
  cases r.trouble with
  | none => exact .pure ()
  | some e => exact setErrno e

lemma osOption (c : Call) : NeverWaits (osOption c) := by
  refine .bind (record c) fun _ => .bind ask fun r => ?_
  cases r.option with
  | none => exact .pure 0
  | some e => exact failed e _

lemma osDescriptor : NeverWaits osDescriptor := by
  refine .bind ask fun r => ?_
  cases r.descriptor with
  | ok fd => exact .bind (record _) fun _ => .pure _
  | error e => exact failed e _

lemma tcpSetIpv4Options (s : ℤ) : NeverWaits (tcpSetIpv4Options s) :=
  .bind (osOption _) fun _ => .ite (.pure _) (.bind (osOption _) fun _ => .ite (.pure _) (.pure _))

lemma osSelectWritable (s : ℤ) (tv : Option Timeval) : NeverWaits (osSelectWritable s tv) := by
  rw [osSelectWritable_variable]
  refine .bind (record _) fun _ => .bind ask fun r => ?_
  dsimp only
  cases r.writable with
  | error e => exact failed e _
  | ok ready => cases ready <;> exact .pure _

lemma connectSocket (s : ℤ) : NeverWaits (connectSocket s (some TimeoutField.responseTimeout)) := by
  rw [connectSocket_responseTimeout]
  refine .bind getCtx fun ctx => ?_
  rw [connectSocket_variable]
  refine .bind (record _) fun _ => .bind ask fun r => ?_
  cases r.connect with
  | ok _ => exact .pure _
  | error e =>
    refine .bind (setErrno e) fun _ => .ite (.bind (osSelectWritable s _) ?_) (.pure _)
    rintro ⟨rc, tv⟩
    exact .ite (.pure _) (.bind ask fun r => .ite (.pure _) (failed _ _))

lemma tcpConnect : NeverWaits tcpConnect := by
  refine .bind osDescriptor fun s => .bind (setSocket s) fun _ => .ite (.pure _) ?_
  refine .bind (tcpSetIpv4Options s) fun rc => .ite (.bind (osIgnored _) fun _ => .pure _) ?_
  refine .bind (connectSocket s) fun rc => ?_
  exact .ite (.bind (osIgnored _) fun _ => .pure _) (.pure _)

lemma tcpPiConnectLoop (aiList : List Bool) : NeverWaits (tcpPiConnectLoop aiList) := by
  induction aiList with
  | nil => exact .pure ()
  | cons inet rest ih =>
    have hc (s : ℤ) : NeverWaits (do
        let rc ← LibModbus.connectSocket s (some TimeoutField.responseTimeout)
        if rc = -1 then do
          osClose s
          LibModbus.tcpPiConnectLoop rest
        else LibModbus.setSocket s) :=
      .bind (connectSocket s) fun rc =>
        .ite (.bind (osIgnored _) fun _ => ih) (setSocket s)
    exact .bind osDescriptor fun s => .ite ih (.ite (.bind (tcpSetIpv4Options s) fun _ => hc s) (hc s))

lemma modbusConnect : NeverWaits modbusConnect := by
  refine .bind getCtx fun ctx => ?_
  cases ctx.backend with
  | rtu =>
    refine .bind osDescriptor fun s => .bind (setSocket s) fun _ => .ite (.pure _) ?_
    refine .bind (osIgnored _) fun _ => .bind (osOption _) fun rc => .ite ?_ (.pure _)
    exact .bind (osIgnored _) fun _ => .bind (setSocket _) fun _ => .pure _
  | tcp => exact tcpConnect
  | tcpPi =>
    refine .bind ask fun r => ?_
    cases r.addresses with
    | none => exact .pure _
    | some aiList =>
      exact .bind (tcpPiConnectLoop aiList) fun _ => .bind getCtx fun _ => .ite (.pure _) (.pure _)

lemma modbusClose : NeverWaits modbusClose := by
  refine .bind getCtx fun ctx => ?_
  cases ctx.backend with
  | rtu | tcp | tcpPi => exact .bind getCtx fun _ => .bind (osIgnored _) fun _ => osIgnored _

lemma reconnect : NeverWaits reconnect :=
  .bind modbusClose fun _ => .bind (fun _ _ hw => hw) fun _ => .bind modbusConnect fun _ => record _

end Connect

section Transfer

lemma osSelect (s : ℤ) (tv : Option Timeval) :
    Triple (Stocked k) (osSelect s tv) (fun _ => Drawn k) Exhausted := by
  rw [osSelect_variable]
  refine .bind (record _ k) fun _ => drawing ask_drawn fun r => ?_
  dsimp only
  cases r.select with
  | error e => exact failed e _
  | ok ready => cases ready <;> exact .pure _

lemma backendSelect (tv : Option Timeval) : NeverWaits (backendSelect tv) := by
  refine loop_drawn (fun tv k => .bind (getCtx k) fun ctx => drawing (osSelect _ tv) ?_) tv
  rintro ⟨sRc, tv⟩
  refine .ite (.bind getErrno fun _ => .ite (.pure _) (.pure _)) (.ite ?_ (.pure _))
  exact failed _ _

lemma nanosleep : NeverWaits (LibModbus.loop nanosleepStep ()) := by
  refine loop_drawn (fun _ k => drawing ask_drawn fun r => ?_) ()
  cases r.trouble with
  | none => exact .pure _
  | some e => exact .bind (setErrno e) fun _ => .ite (.pure _) (.pure _)

lemma rtuFlush : NeverWaits rtuFlush := by
  refine .bind getCtx fun ctx => .bind (osOption _) fun rc => .ite ?_ (.pure _)
  exact .bind (modify fun _ => rfl) fun _ => .pure _

lemma tcpFlush : NeverWaits tcpFlush := by
  refine loop_drawn (fun rcSum k => .bind (getCtx k) fun ctx => drawing ?_ fun rc => ?_) 0
  · refine .bind (record _ k) fun _ => drawing ask_drawn fun r => ?_
    cases r.recv with
    | eof => exact .pure _
    | fail e => exact failed e _
    | data n =>
      refine .bind (fun _ _ hw => hw) fun w => .ite (failed _ _) ?_
      exact .bind (modify fun _ => rfl) fun _ => .pure _
  · exact .ite (.pure _) (.pure _)

lemma sleepAndFlush : NeverWaits sleepAndFlush := by
  refine .bind nanosleep fun _ => .bind getCtx fun ctx => ?_
  cases ctx.backend with
  | rtu => exact rtuFlush
  | tcp | tcpPi => exact tcpFlush

lemma sendMsg (msg : List UInt8) : NeverWaits (sendMsg msg) := by
  refine .bind getCtx fun ctx => .bind ?_ fun rc => .ite (.bind (setErrno _) fun _ => .pure _) (.pure _)
  refine loop_drawn (fun _ k => drawing ?_ fun rc => .bind getCtx fun ctx => ?_) ()
  · refine .bind (getCtx k) fun ctx => .bind (record _ k) fun _ => drawing ask_drawn fun r => ?_
    cases r.send with
    | ok n => exact .bind (modify fun _ => rfl) fun _ => .pure _
    | error e => exact failed e _
  · refine .ite (.bind getErrno fun e => .ite ?_ ?_) (.pure _)
    · exact .bind reconnect fun _ => failed _ _
    · exact .bind sleepAndFlush fun _ => failed _ _

end Transfer

section Receiving

lemma backendRecv (msg : Mem UInt8) (offset length : ℕ) :
    Triple (Stocked k) (backendRecv msg offset length) (fun _ => Drawn k) Exhausted := by
  refine .bind (getCtx k) fun ctx => .bind (record _ k) fun _ => ?_
  refine .bind ask_next fun r => .given fun hdata => ?_
  cases hr : r.recv with
  | data n => exact absurd hr (hdata n)
  | eof => exact Maintains.pure _
  | fail e => exact (failed e _).drawn

lemma recoverAfterSelect : NeverWaits recoverAfterSelect := by
  refine .bind getCtx fun ctx => .ite (.bind getErrno fun e => .ite ?_ (.ite ?_ (setErrno e))) (.pure _)
  · exact .bind sleepAndFlush fun _ => setErrno e
  · exact .bind reconnect fun _ => setErrno e

lemma recoverAfterRecv : NeverWaits recoverAfterRecv := by
  refine .bind getCtx fun ctx => .bind getErrno fun e => .ite ?_ (.pure _)
  exact .bind reconnect fun _ => setErrno e

lemma checkIntegrity (msg : Mem UInt8) (msgLength : ℕ) : NeverWaits (checkIntegrity msg msgLength) := by
  have hr : NeverWaits rtuRejectChecksum :=
    .bind getCtx fun ctx => .ite (.bind rtuFlush fun _ => failed _ _) (failed _ _)
  refine .bind getCtx fun ctx => ?_
  cases ctx.backend with
  | rtu => exact .bind getCtx fun ctx => .ite (.pure _) (.ite (.pure _) hr)
  | tcp | tcpPi => exact .pure _

lemma accepted (ctx : Modbus) (msg : Mem UInt8) (next : Option Receiving) : NeverWaits (match next with
    | none => LibModbus.setErrno embbaddata >>= fun _ =>
      (Pure.pure (.inr (-1, msg)) : M (Receiving ⊕ (ℤ × Mem UInt8)))
    | some st => Pure.pure (.inl { st with
        pTv := if st.lengthToRead > 0 ∧ ctx.byteTimeout.sec ≠ -1 then some ctx.byteTimeout
          else st.pTv })) := by
  cases next with
  | none => exact failed _ _
  | some st => exact .pure _

lemma receiveMore (msgType : MsgType) (st : Receiving) : Triple (Stocked k) (receiveMore msgType st)
    (fun r w => r.elim (fun _ => Drawn k w) fun _ => Stocked k w) Exhausted := by
  refine .bind (getCtx k) fun ctx => .bind (backendSelect _ k) ?_
  rintro ⟨rc, pTv⟩
  refine .ite (fun _ => .bind (recoverAfterSelect k) fun _ => .pure fun _ hw => hw) fun _ => ?_
  refine Triple.post (drawing (backendRecv _ _ _) ?_) ?_
  · rintro ⟨rc, msg⟩
    have hfail : NeverWaits (LibModbus.recoverAfterRecv >>= fun _ =>
        (Pure.pure (.inr (-1, msg)) : M (Receiving ⊕ (ℤ × Mem UInt8)))) :=
      .bind recoverAfterRecv fun _ => .pure _
    refine .ite (.bind (setErrno _) fun _ => .ite hfail ?_) (.ite hfail ?_)
    all_goals exact accepted ctx msg _
  · rintro (_ | _) w hw
    · exact hw
    · exact hw.stocked

lemma receiveMsg (msgType : MsgType) (msg : Mem UInt8) : NeverWaits (receiveMsg msgType msg) := by
  refine .bind getCtx fun ctx => loop (fun st k => .ite (fun _ => ?_) fun _ => receiveMore msgType st) _
  exact .bind (checkIntegrity _ _ k) fun rc => .pure fun _ hw => hw

lemma checkConfirmation (req : List UInt8) (rsp : Mem UInt8) (rspLength : ℤ) :
    NeverWaits (checkConfirmation req rsp rspLength) := by
  have hpre : NeverWaits (preCheckConfirmation req rsp) := by
    refine .bind getCtx fun ctx => ?_
    cases ctx.backend with
    | rtu | tcp | tcpPi => exact .ite (failed _ _) (.pure _)
  have hreject : NeverWaits rejectConfirmation :=
    .bind getCtx fun ctx => .ite (.bind sleepAndFlush fun _ => failed _ _) (failed _ _)
  refine .bind getCtx fun ctx => .bind hpre fun rc => .ite ?_ (.ite ?_ ?_)
  · exact .ite (.bind sleepAndFlush fun _ => .pure _) (.pure _)
  · exact .ite (.ite (failed _ _) (failed _ _)) (failed _ _)
  · exact .ite (.ite hreject (.ite (.pure _) hreject)) hreject

end Receiving

lemma run (op : Operation) (stack : Mem UInt8) (dest : Dest) : NeverWaits (op.run stack dest) := by
  refine .bind (.ite (failed _ _) (.bind getCtx fun ctx => ?_)) ?_
  · exact .bind (modify fun _ => rfl) fun _ => sendMsg _
  rintro ⟨rc, req⟩
  refine .ite (.bind (receiveMsg _ _) ?_) (.pure _)
  rintro ⟨rc, rsp⟩
  refine .ite (.pure _) (.bind (checkConfirmation _ _ _) fun rc => .ite (.pure _) ?_)
  exact .bind getCtx fun _ => .pure _

end NeverWaits

end LibModbus
