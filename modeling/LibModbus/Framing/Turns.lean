import LibModbus.Framing.Receive
import LibModbus.Library.Rounds

/-! The turns of the receive loop: what each asks `recv()` for, and how many there can be. -/

namespace LibModbus

open Library Library.Prog

section Growth

variable {b : Backend} {msgType : MsgType} {st st' : Receiving} {chunk : List UInt8}

lemma Receiving.advance_msgLength (h : st.advance b msgType = some st') : st'.msgLength = st.msgLength := by
  have hafter (st'' : Receiving) (h : (if st.msgLength + computeDataLengthAfterMeta b st.msg msgType >
      b.maxAduLength then none else some { st with
        step := .data, lengthToRead := computeDataLengthAfterMeta b st.msg msgType }) = some st'') :
      st''.msgLength = st.msgLength := by
    split_ifs at h
    rw [← Option.some.inj h]
  unfold advance at h
  cases hs : st.step <;> rw [hs] at h <;> dsimp only at h
  · split_ifs at h with hmeta
    · rw [← Option.some.inj h]
    all_goals exact hafter st' (by rw [if_neg ‹_›]; exact h)
  · exact hafter st' h
  · rw [← Option.some.inj h]

lemma Receiving.accept_msgLength (h : st.accept b msgType chunk = some st') :
    st'.msgLength = st.msgLength + chunk.length := by
  rw [accept] at h
  split_ifs at h
  · exact advance_msgLength h
  · rw [← Option.some.inj h]
    rfl

def Gains (st : Receiving) (r : Receiving ⊕ (ℤ × Mem UInt8)) : Prop :=
  ∀ st', r = .inl st' →
    st.msgLength < st'.msgLength ∧ st'.msgLength ≤ st.msgLength + st.lengthToRead

lemma triple_true {α : Type} {P : World → Prop} (m : M α) :
    Triple P m (fun _ _ => True) fun _ => True := by
  intro w _
  cases m w <;> trivial

lemma gains_ended {P : World → Prop} {m : M Unit} (a : ℤ × Mem UInt8) :
    Triple P (m >>= fun _ => (pure (.inr a) : M (Receiving ⊕ (ℤ × Mem UInt8))))
      (fun r _ => Gains st r) fun _ => True :=
  .bind (triple_true m) fun _ => .pure fun _ _ => nofun

lemma gains_accepted (hne : chunk ≠ []) (hlen : chunk.length ≤ st.lengthToRead)
    (pTv : Option Timeval → Receiving → Option Timeval) {P : World → Prop} :
    Triple P (match Receiving.accept b msgType st chunk with
      | none => setErrno embbaddata >>= fun _ =>
        (pure (.inr (-1, st.msg.write st.msgLength chunk)) : M (Receiving ⊕ (ℤ × Mem UInt8)))
      | some st => pure (.inl { st with pTv := pTv st.pTv st }))
      (fun r _ => Gains st r) fun _ => True := by
  cases ha : Receiving.accept b msgType st chunk with
  | none => exact gains_ended _
  | some st' =>
    have hlength := Receiving.accept_msgLength ha
    have hpos := List.length_pos_of_ne_nil hne
    apply Triple.pure
    intro w _ st'' hst
    obtain rfl := Sum.inl.inj hst
    dsimp only
    omega

lemma receiveMore_gains (h0 : st.lengthToRead ≠ 0) : Triple (fun _ => True) (receiveMore msgType st)
    (fun r _ => Gains st r) fun _ => True := by
  apply Triple.bind (triple_true getCtx)
  intro ctx
  apply Triple.bind (triple_true (backendSelect st.pTv))
  rintro ⟨rc, pTv⟩
  apply Triple.ite (fun _ => gains_ended _)
  intro _
  have hrecv : Triple (fun _ => True) (backendRecv st.msg st.msgLength st.lengthToRead)
      (fun r _ => (r.1 = 0 ∨ r.1 = -1) ∨ ∃ chunk, chunk ≠ [] ∧ chunk.length ≤ st.lengthToRead ∧
        r = ((chunk.length : ℤ), st.msg.write st.msgLength chunk)) fun _ => True := by
    apply Triple.from_state
    intro w _
    have hrecv := backendRecv_triple st.msg st.msgLength st.lengthToRead w
    apply hrecv.weaken (fun _ h => h) _ fun _ _ => trivial
    rintro r w' (⟨chunk, hne, hlen, rfl, -⟩ | ⟨hrc, -⟩)
    · exact .inr ⟨chunk, hne, by omega, rfl⟩
    · exact .inl hrc
  apply Triple.bind hrecv
  rintro ⟨rc, msg⟩
  apply Triple.from_state
  intro w hw
  dsimp only at hw ⊢
  rcases hw with hfail | ⟨chunk, hne, hlen, he⟩
  · have hend : Triple (fun _ => True) (recoverAfterRecv >>= fun _ =>
        (pure (.inr (-1, msg)) : M (Receiving ⊕ (ℤ × Mem UInt8)))) (fun r _ => Gains st r) fun _ => True :=
      gains_ended _
    apply Triple.pre (P := fun _ => True) (.ite (fun _ => ?_) fun _ => ?_) fun _ _ => trivial
    · exact .bind (triple_true _) fun _ => .ite (fun _ => hend) fun h => absurd hfail h
    · exact .ite (fun _ => hend) fun h => absurd hfail h
  · obtain ⟨rfl, rfl⟩ := Prod.mk.inj he
    have hpos : 0 < chunk.length := List.length_pos_of_ne_nil hne
    rw [if_neg (by omega), if_neg (by omega)]
    exact @gains_accepted _ _ { st with pTv } _ hne hlen (fun tv st' =>
      if st'.lengthToRead > 0 ∧ ctx.byteTimeout.sec ≠ -1 then some ctx.byteTimeout else tv) _

lemma receiveMsgStep_gains (st : Receiving) : Triple (fun _ => True) (receiveMsgStep msgType st)
    (fun r _ => Gains st r) fun _ => True :=
  .ite (fun _ => .bind (triple_true _) fun _ => .pure fun _ _ => nofun) receiveMore_gains

end Growth

section Bounds

variable (msgType : MsgType) (msg : Mem UInt8) (w : World)

def receiveStart (ctx : Modbus) : Receiving where
  step := .function
  lengthToRead := ctx.backend.headerLength + 1
  msgLength := 0
  msg
  pTv := match msgType with
    | .indication => none
    | .confirmation => some ctx.responseTimeout

/-- Every turn of the loop that goes round makes one call of `recv()`. -/
def ReceiveRounds : ℕ → Receiving → World → Prop :=
  Rounds (receiveMsgStep msgType) (receiveStart msgType msg w.ctx) w

/-- `asks` is about the call of `recv()` in the turn that comes after `n` others, `returns` about runs in
which all calls have an outcome. -/
structure ReceiveBounded : Prop where
  asks : ∀ n st v, ReceiveRounds msgType msg w n st v → st.lengthToRead ≠ 0 → 0 < st.lengthToRead ∧
    st.msgLength + st.lengthToRead ≤ w.ctx.backend.maxAduLength ∧ n < w.ctx.backend.maxAduLength
  takes : ∀ n st v st' v', ReceiveRounds msgType msg w n st v →
    receiveMsgStep msgType st v = .done (.inl st') v' →
    st.msgLength < st'.msgLength ∧ st'.msgLength ≤ st.msgLength + st.lengthToRead
  returns : (∀ n st v, ReceiveRounds msgType msg w n st v →
      ∃ r v', receiveMsgStep msgType st v = .done r v') →
    ∃ n st v r v', ReceiveRounds msgType msg w n st v ∧ n ≤ w.ctx.backend.maxAduLength ∧
      receiveMsgStep msgType st v = .done (.inr r) v' ∧ receiveMsg msgType msg w = .done r v'

variable {msgType msg w} {n : ℕ} {st : Receiving} {v : World}

lemma receiveMsgStep_round {st' : Receiving} {v' : World} (h : Reading msgType msg w st v)
    (hstep : receiveMsgStep msgType st v = .done (.inl st') v') :
    Reading msgType msg w st' v' ∧ v'.script.length < v.script.length :=
  (receiveMsgStep_triple (k := v.script.length) st).done ⟨h, le_rfl⟩ hstep

lemma ReceiveRounds.reading (h : ReceiveRounds msgType msg w n st v) :
    Reading msgType msg w st v ∧ n ≤ st.msgLength := by
  apply Rounds.invariant (I := fun n st v => Reading msgType msg w st v ∧ n ≤ st.msgLength) _ _ h
  · exact ⟨reading_start _, le_rfl⟩
  · rintro n st v st' v' ⟨hread, hn⟩ hstep
    obtain ⟨hmore, -⟩ := (receiveMsgStep_gains st).done trivial hstep st' rfl
    exact ⟨(receiveMsgStep_round hread hstep).1, by omega⟩

/-- Whatever the peer sends and whatever the calls of the system return. -/
theorem receiveMsg_bounded (msgType : MsgType) (msg : Mem UInt8) (w : World) :
    ReceiveBounded msgType msg w where
  asks n st v h h0 := by
    obtain ⟨hread, hn⟩ := h.reading
    have hbound := hread.inv.bound
    exact ⟨Nat.pos_of_ne_zero h0, hbound, by omega⟩
  takes n st v st' v' _ hstep := (receiveMsgStep_gains st).done trivial hstep st' rfl
  returns hends := by
    have hless (n : ℕ) (st : Receiving) (v : World) (st' : Receiving) (v' : World)
        (h : ReceiveRounds msgType msg w n st v) (hstep : receiveMsgStep msgType st v = .done (.inl st') v') :
        v'.script.length < v.script.length := (receiveMsgStep_round h.reading.1 hstep).2
    obtain ⟨n, st, v, r, v', hrounds, hstep, hrun⟩ :=
      Rounds.finish (fun v => v.script.length) hless hends (Nat.lt_succ_self _)
    obtain ⟨hread, hn⟩ := ReceiveRounds.reading hrounds
    have hbound := hread.inv.bound
    exact ⟨n, st, v, r, v', hrounds, by omega, hstep, hrun⟩

end Bounds

end LibModbus
