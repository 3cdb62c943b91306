import LibModbus.Framing.Length
import LibModbus.Link.Neutral

/-! Every run of `_modbus_receive_msg`: it takes a prefix of the incoming bytes, as long as their
own head says, and stores nothing beyond that. -/

namespace LibModbus

open Library Library.Prog

section Integrity

def integrity (ctx : Modbus) (msg : Mem UInt8) (msgLength : ℕ) : ℤ :=
  match ctx.backend with
  | .rtu =>
    if notForMe ctx msg then 0
    else if crcMatches msg msgLength then msgLength else -1
  | .tcp | .tcpPi => msgLength

lemma checkIntegrity_apply (msg : Mem UInt8) (n : ℕ) (w : World) :
    checkIntegrity msg n w = if integrity w.ctx msg n = -1 then rtuRejectChecksum w
      else .done (integrity w.ctx msg n) w := by
  have hn : (n : ℤ) ≠ -1 := by omega
  unfold checkIntegrity integrity
  rw [getCtx, bind_apply]
  cases hb : w.ctx.backend
  · by_cases h₁ : notForMe w.ctx msg
    · simp [hb, rtuCheckIntegrity, getCtx, bind_apply, h₁]
    · by_cases h₂ : crcMatches msg n <;>
        simp [hb, rtuCheckIntegrity, getCtx, bind_apply, h₁, h₂, hn]
  all_goals simp [hb, hn]

lemma rtuRejectChecksum_value {w w' : World} {rc : ℤ} (h : rtuRejectChecksum w = .done rc w') :
    rc = -1 := by
  unfold rtuRejectChecksum at h
  obtain ⟨ctx, _, _, h⟩ := bind_eq_done.mp h
  split_ifs at h
  all_goals simp only [bind_eq_done, pure_apply, Outcome.done.injEq] at h
  · obtain ⟨_, _, _, _, _, _, h, _⟩ := h
    exact h.symm
  · obtain ⟨_, _, _, h, _⟩ := h
    exact h.symm

end Integrity

def reach (b : Backend) (msgType : MsgType) (msg : Mem UInt8) : ℕ :=
  if frameLength b msgType msg ≤ b.maxAduLength then frameLength b msgType msg
  else headLength b msgType msg

lemma headLength_le_reach {b : Backend} {msgType : MsgType} {m : Mem UInt8} :
    headLength b msgType m ≤ reach b msgType m := by
  unfold reach
  split_ifs
  · exact headLength_le_frameLength
  · exact le_rfl

lemma reach_congr {b : Backend} {msgType : MsgType} {m m' : Mem UInt8}
    (h : ∀ j < headLength b msgType m, m j = m' j) : reach b msgType m = reach b msgType m' := by
  rw [reach, reach, frameLength_congr h, headLength_congr (h _ header_lt_headLength)]

lemma Receiving.Inv.le_reach {b : Backend} {msgType : MsgType} {st : Receiving} {msg : Mem UInt8}
    (h : st.Inv b msgType) (hm : ∀ j < st.msgLength, st.msg j = msg j) :
    st.msgLength + st.lengthToRead ≤ reach b msgType msg := by
  have hr : headLength b msgType msg ≤ reach b msgType msg := headLength_le_reach
  unfold Receiving.Inv at h
  cases hs : st.step <;> rw [hs] at h <;> dsimp only at h
  · have := @header_lt_headLength b msgType msg
    omega
  · have : headLength b msgType st.msg = headLength b msgType msg := headLength_congr (hm _ h.2.1)
    omega
  · have : frameLength b msgType st.msg = frameLength b msgType msg :=
      frameLength_congr fun j hj => hm j (hj.trans_le h.2.1)
    rw [reach, if_pos (by omega)]
    omega

section Reading

variable (msgType : MsgType) (msg₀ : Mem UInt8) (w₀ : World)

structure Reading (st : Receiving) (w : World) : Prop where
  inv : st.Inv w₀.ctx.backend msgType
  ctx : w.ctx = w₀.ctx
  tx : w.tx = w₀.tx
  length : st.msgLength ≤ w₀.rx.length
  msg : st.msg = msg₀.write 0 (w₀.rx.take st.msgLength)
  rx : w.rx = w₀.rx.drop st.msgLength
  stored : StoredBelow st.msgLength w₀ w
  took : Took st.msgLength w₀ w
  script : Shrinks w₀ w

def storeLimit : ℕ := min w₀.rx.length (reach w₀.ctx.backend msgType (msg₀.write 0 w₀.rx))

/-- The three ways in which the loop comes to its result: the link failed before all that it asks for
was there, the message is too long by its own account, or it is complete and its integrity is
checked. -/
inductive Ended (r : ℤ × Mem UInt8) (w : World) : Prop
  | broken (n : ℕ) (took : Took n w₀ w) (there : n ≤ w₀.rx.length)
      (short : n < reach w₀.ctx.backend msgType (msg₀.write 0 w₀.rx)) (failed : r.1 = -1)
  | tooLong (n : ℕ) (took : Took n w₀ w) (there : n ≤ w₀.rx.length)
      (head : n = headLength w₀.ctx.backend msgType (msg₀.write 0 w₀.rx))
      (long : w₀.ctx.backend.maxAduLength < frameLength w₀.ctx.backend msgType (msg₀.write 0 w₀.rx))
      (failed : r.1 = -1) (rest : w.rx = w₀.rx.drop n)
  | whole (n : ℕ) (v : World) (took : Took n w₀ w) (there : n ≤ w₀.rx.length)
      (length : n = frameLength w₀.ctx.backend msgType (msg₀.write 0 w₀.rx))
      (allowed : n ≤ w₀.ctx.backend.maxAduLength) (array : r.2 = msg₀.write 0 (w₀.rx.take n))
      (rest : v.rx = w₀.rx.drop n) (ctx : v.ctx = w₀.ctx) (tx : v.tx = w₀.tx)
      (script : Shrinks w₀ v) (check : checkIntegrity r.2 n v = .done r.1 w)

structure Received (r : ℤ × Mem UInt8) (w : World) : Prop where
  outside : Outside (storeLimit msgType msg₀ w₀) w₀ w
  ended : Ended msgType msg₀ w₀ r w

variable {msgType msg₀ w₀} {st : Receiving} {w : World}

lemma Reading.agrees (h : Reading msgType msg₀ w₀ st w) :
    ∀ j < st.msgLength, st.msg j = msg₀.write 0 w₀.rx j := fun j hj => by
  rw [h.msg, Mem.write_take _ _ hj]

lemma Reading.le_reach (h : Reading msgType msg₀ w₀ st w) : st.msgLength + st.lengthToRead ≤
    reach w₀.ctx.backend msgType (msg₀.write 0 w₀.rx) :=
  h.inv.le_reach h.agrees

lemma Reading.extend (h : Reading msgType msg₀ w₀ st w) {chunk rest : List UInt8}
    (hrx : w.rx = chunk ++ rest) : st.msgLength + chunk.length ≤ w₀.rx.length ∧
      st.msg.write st.msgLength chunk = msg₀.write 0 (w₀.rx.take (st.msgLength + chunk.length)) ∧
      rest = w₀.rx.drop (st.msgLength + chunk.length) := by
  have hd : w₀.rx.drop st.msgLength = chunk ++ rest := h.rx.symm.trans hrx
  have hdl := congrArg List.length hd
  simp only [List.length_drop, List.length_append] at hdl
  have hle := h.length
  refine ⟨by omega, ?_, ?_⟩
  · rw [List.take_add, hd, List.take_left, ← Mem.write_append, ← h.msg, List.length_take,
      Nat.min_eq_left hle, Nat.zero_add]
  · rw [← List.drop_drop, hd, List.drop_left]

lemma Reading.outside (h : Reading msgType msg₀ w₀ st w) :
    Outside (storeLimit msgType msg₀ w₀) w₀ w := by
  have := h.le_reach
  refine ⟨by rw [SameConfig, h.ctx], h.stored.mono ?_⟩
  exact le_min h.length (by omega)

lemma Reading.idle {w' : World} (h : Reading msgType msg₀ w₀ st w) (hi : Idle w w') :
    Reading msgType msg₀ w₀ st w' where
  inv := h.inv
  ctx := hi.ctx.trans h.ctx
  tx := hi.tx.trans h.tx
  length := h.length
  msg := h.msg
  rx := hi.rx.trans h.rx
  stored := IsTrans.trans _ _ _ h.stored (hi.stored.mono (Nat.zero_le _))
  took := h.took.trans hi.stored.took
  script := IsTrans.trans _ _ _ h.script hi.script

lemma Reading.timeout (h : Reading msgType msg₀ w₀ st w) (pTv : Option Timeval) :
    Reading msgType msg₀ w₀ { st with pTv } w :=
  ⟨h.inv, h.ctx, h.tx, h.length, h.msg, h.rx, h.stored, h.took, h.script⟩

lemma reading_start (pTv : Option Timeval) : Reading msgType msg₀ w₀
    ⟨.function, w₀.ctx.backend.headerLength + 1, 0, msg₀, pTv⟩ w₀ where
  inv := Receiving.inv_start _ _ _ _
  ctx := rfl
  tx := rfl
  length := Nat.zero_le _
  msg := by simp
  rx := by simp
  stored := Std.Refl.refl _
  took := ⟨[], by simp, rfl⟩
  script := List.suffix_rfl

structure Delivers (offset : ℕ) (chunk : List UInt8) (w w' : World) : Prop where
  rx : w.rx = chunk ++ w'.rx
  ctx : w'.ctx = w.ctx
  tx : w'.tx = w.tx
  stored : StoredBelow (offset + chunk.length) w w'
  took : Took chunk.length w w'
  script : Shrinks w w'
  used : w'.script.length < w.script.length

variable {w' : World} {chunk : List UInt8}

lemma Reading.accepted (h : Reading msgType msg₀ w₀ st w) (hc : chunk.length ≤ st.lengthToRead)
    (hd : Delivers st.msgLength chunk w w') {st' : Receiving}
    (ha : st.accept w₀.ctx.backend msgType chunk = some st') : Reading msgType msg₀ w₀ st' w' := by
  obtain ⟨hinv, hmsg, hlen⟩ := Receiving.accept_inv h.inv hc ha
  obtain ⟨hle, harr, hdrop⟩ := h.extend hd.rx
  refine ⟨hinv, hd.ctx.trans h.ctx, hd.tx.trans h.tx, hlen.trans_le hle, ?_, ?_, ?_, ?_, ?_⟩
  · rw [hmsg, hlen, harr]
  · rw [hlen, hdrop]
  · rw [hlen]
    exact IsTrans.trans _ _ _ (h.stored.mono (Nat.le_add_right _ _)) hd.stored
  · rw [hlen]
    exact h.took.trans hd.took
  · exact IsTrans.trans _ _ _ h.script hd.script

lemma Reading.tooLong (h : Reading msgType msg₀ w₀ st w) (hc : chunk.length ≤ st.lengthToRead)
    (hd : Delivers st.msgLength chunk w w') (ha : st.accept w₀.ctx.backend msgType chunk = none) :
    st.msgLength + chunk.length = headLength w₀.ctx.backend msgType (msg₀.write 0 w₀.rx) ∧
      w₀.ctx.backend.maxAduLength <
        frameLength w₀.ctx.backend msgType (msg₀.write 0 w₀.rx) := by
  obtain ⟨hlong, hhead⟩ := Receiving.accept_none h.inv hc ha
  obtain ⟨-, harr, -⟩ := h.extend hd.rx
  rw [harr] at hlong hhead
  have hb : ∀ j < headLength w₀.ctx.backend msgType
      (msg₀.write 0 (w₀.rx.take (st.msgLength + chunk.length))),
      msg₀.write 0 (w₀.rx.take (st.msgLength + chunk.length)) j = msg₀.write 0 w₀.rx j :=
    fun j hj => Mem.write_take _ _ (hhead ▸ hj)
  rw [headLength_congr (hb _ header_lt_headLength)] at hhead
  rw [frameLength_congr hb] at hlong
  exact ⟨hhead.symm, hlong⟩

lemma Reading.delivered (h : Reading msgType msg₀ w₀ st w) (hc : chunk.length ≤ st.lengthToRead)
    (hd : Delivers st.msgLength chunk w w') : Outside (storeLimit msgType msg₀ w₀) w₀ w' := by
  obtain ⟨hle, -, -⟩ := h.extend hd.rx
  have := h.le_reach
  have hk : st.msgLength + chunk.length ≤ storeLimit msgType msg₀ w₀ := le_min hle (by omega)
  refine ⟨by rw [SameConfig, hd.ctx, h.ctx], ?_⟩
  exact IsTrans.trans _ _ _ h.outside.2 (hd.stored.mono hk)

end Reading

section Runs

lemma backendRecv_triple (msg : Mem UInt8) (offset length : ℕ) (w : World) :
    Triple (w = ·) (backendRecv msg offset length)
      (fun r w' => (∃ chunk, chunk ≠ [] ∧ chunk.length ≤ max 1 length ∧
          r = ((chunk.length : ℤ), msg.write offset chunk) ∧ Delivers offset chunk w w') ∨
        ((r.1 = 0 ∨ r.1 = -1) ∧ r.2 = msg ∧ Idle w w'))
      (Idle w) := by
  have hc : StoredBelow 0 w { w with trace := w.trace ++ [.recv w.ctx.s] } := Silent.call w _ rfl
  rintro _ rfl
  simp only [backendRecv, osRecv, getCtx, record, bind_apply, get_apply, pure_apply, modify_apply, ask]
  cases hs : w.script with
  | nil => exact ⟨rfl, rfl, rfl, hc, hs ▸ List.suffix_rfl⟩
  | cons r rest =>
    have hsuf : rest <:+ w.script := hs ▸ List.suffix_cons r rest
    dsimp only
    cases hr : r.recv with
    | eof => exact Or.inr ⟨Or.inl rfl, rfl, ⟨rfl, rfl, rfl, hc, hsuf⟩⟩
    | fail e => exact Or.inr ⟨Or.inr rfl, rfl, ⟨rfl, rfl, rfl, hc, hsuf⟩⟩
    | data n =>
      simp only [bind_get_apply]
      split_ifs with hnil
      · exact ⟨rfl, rfl, rfl, hc, hsuf⟩
      · refine Or.inl ⟨w.rx.take (max 1 (min n length)), hnil, ?_, rfl, ?_⟩
        · rw [List.length_take]
          omega
        · refine ⟨?_, rfl, rfl, ⟨[.recv w.ctx.s, .stored offset
            (w.rx.take (max 1 (min n length))).length], by simp, fun o k hm => ?_⟩,
            ⟨[.recv w.ctx.s, .stored offset (w.rx.take (max 1 (min n length))).length], by simp,
              by simp [Call.storedLength]⟩, hsuf, by rw [hs]; exact Nat.lt_succ_self _⟩
          · exact (List.prefix_iff_eq_append.mp (List.take_prefix _ _)).symm
          · simp only [List.mem_cons, reduceCtorEq, Call.stored.injEq, List.not_mem_nil,
              false_or, or_false] at hm
            rw [hm.1, hm.2]

variable (msgType : MsgType) (msg₀ : Mem UInt8) (w₀ : World)

def Turned (k : ℕ) (r : Receiving ⊕ (ℤ × Mem UInt8)) (w : World) : Prop :=
  r.elim (fun st => Reading msgType msg₀ w₀ st w ∧ w.script.length < k) (Received msgType msg₀ w₀ · w)

structure Broke (n : ℕ) (w : World) : Prop where
  outside : Outside (storeLimit msgType msg₀ w₀) w₀ w
  took : Took n w₀ w
  there : n ≤ w₀.rx.length
  short : n < reach w₀.ctx.backend msgType (msg₀.write 0 w₀.rx)

structure Stalled (w : World) : Prop where
  outside : Outside (storeLimit msgType msg₀ w₀) w₀ w
  bad : ∃ n, Took n w₀ w ∧ n ≤ w₀.rx.length ∧
    (n < reach w₀.ctx.backend msgType (msg₀.write 0 w₀.rx) ∨
      n = frameLength w₀.ctx.backend msgType (msg₀.write 0 w₀.rx) ∧
        integrity w₀.ctx (msg₀.write 0 (w₀.rx.take n)) n = -1)

variable {msgType msg₀ w₀} {st : Receiving} {k : ℕ}

lemma Outside.later {u v w : World} (h : Outside k u v) (h' : Outside 0 v w) : Outside k u w :=
  ⟨IsTrans.trans _ _ _ h.1 h'.1, IsTrans.trans _ _ _ h.2 (h'.2.mono (Nat.zero_le k))⟩

lemma Reading.broke {w : World} (h : Reading msgType msg₀ w₀ st w) (h0 : st.lengthToRead ≠ 0) :
    Broke msgType msg₀ w₀ st.msgLength w where
  outside := h.outside
  took := h.took
  there := h.length
  short := by
    have := h.le_reach
    omega

lemma Broke.stalled {n : ℕ} {w : World} (h : Broke msgType msg₀ w₀ n w) :
    Stalled msgType msg₀ w₀ w :=
  ⟨h.outside, n, h.took, h.there, .inl h.short⟩

lemma broke_keeps {n : ℕ} {α : Type} {m : M α} (h : Keeps (Outside 0) m) :
    Triple (Broke msgType msg₀ w₀ n) m (fun _ => Broke msgType msg₀ w₀ n)
      (Stalled msgType msg₀ w₀) := by
  have hkeeps : Triple (Broke msgType msg₀ w₀ n) m (fun _ => Broke msgType msg₀ w₀ n)
      (Broke msgType msg₀ w₀ n) :=
    h.triple fun _ _ hw ht => ⟨hw.outside.later ht, hw.took.trans ht.2.took, hw.there, hw.short⟩
  exact hkeeps.weaken (fun _ hw => hw) (fun _ _ hw => hw) fun _ hw => hw.stalled

lemma turned_broken {n : ℕ} (msg : Mem UInt8) : Triple (Broke msgType msg₀ w₀ n)
    (pure (.inr (-1, msg))) (Turned msgType msg₀ w₀ k) (Stalled msgType msg₀ w₀) :=
  .pure fun _ hw => ⟨hw.outside, .broken n hw.took hw.there hw.short rfl⟩

lemma Reading.whole {w : World} (h : Reading msgType msg₀ w₀ st w) (h0 : st.lengthToRead = 0) :
    st.msgLength = frameLength w₀.ctx.backend msgType (msg₀.write 0 w₀.rx) ∧
      st.msgLength ≤ w₀.ctx.backend.maxAduLength := by
  obtain ⟨hn, hmax⟩ := h.inv.finished h0
  refine ⟨hn.trans (frameLength_congr fun j hj => h.agrees j ?_), hmax⟩
  exact hj.trans_le (headLength_le_frameLength.trans hn.ge)

lemma turned_finished (h0 : st.lengthToRead = 0) :
    Triple (Reading msgType msg₀ w₀ st) (do
        let rc ← checkIntegrity st.msg st.msgLength
        return .inr (rc, st.msg))
      (Turned msgType msg₀ w₀ k) (Stalled msgType msg₀ w₀) := by
  refine .from_state fun w hw => ?_
  obtain ⟨hlen, hmax⟩ := hw.whole h0
  rintro _ rfl
  have hk : Outside 0 w (checkIntegrity st.msg st.msgLength w).state := Neutral.checkIntegrity _ _ w
  have houtside := hw.outside.later hk
  have htook := hw.took.trans hk.2.took
  cases hc : checkIntegrity st.msg st.msgLength w with
  | done rc w' =>
    rw [hc] at houtside htook
    rw [bind_done hc]
    exact ⟨houtside, .whole st.msgLength w htook hw.length hlen hmax hw.msg hw.rx hw.ctx hw.tx
      hw.script hc⟩
  | blocked w' =>
    rw [hc] at houtside htook
    rw [bind_blocked hc]
    refine ⟨houtside, st.msgLength, htook, hw.length, .inr ⟨hlen, ?_⟩⟩
    rw [← hw.ctx, ← hw.msg]
    by_contra hgood
    rw [checkIntegrity_apply, if_neg hgood] at hc
    cases hc

lemma turned_accepted {w w' : World} {chunk : List UInt8} (hw : Reading msgType msg₀ w₀ st w)
    (hk : w.script.length ≤ k) (hc : chunk.length ≤ st.lengthToRead)
    (hd : Delivers st.msgLength chunk w w') (pTv : Option Timeval → Receiving → Option Timeval) :
    Triple (w' = ·) (match Receiving.accept w₀.ctx.backend msgType st chunk with
      | none => setErrno embbaddata >>= fun _ =>
        (pure (.inr (-1, st.msg.write st.msgLength chunk)) : M (Receiving ⊕ (ℤ × Mem UInt8)))
      | some st => pure (.inl { st with pTv := pTv st.pTv st }))
      (Turned msgType msg₀ w₀ k) (Stalled msgType msg₀ w₀) := by
  rintro _ rfl
  cases ha : Receiving.accept w₀.ctx.backend msgType st chunk with
  | none =>
    obtain ⟨hhead, hlong⟩ := hw.tooLong hc hd ha
    obtain ⟨hle, -, hrest⟩ := hw.extend hd.rx
    have hset : Outside 0 w' { w' with errno := embbaddata } := Silent.errno w' _
    refine ⟨(hw.delivered hc hd).later hset, .tooLong _ ?_ hle hhead hlong rfl hrest⟩
    exact (hw.took.trans hd.took).trans hset.2.took
  | some st' => exact ⟨(hw.accepted hc hd ha).timeout _, hd.used.trans_le hk⟩

lemma receiveMore_triple (h0 : st.lengthToRead ≠ 0) :
    Triple (fun w => Reading msgType msg₀ w₀ st w ∧ w.script.length ≤ k) (receiveMore msgType st)
      (Turned msgType msg₀ w₀ k) (Stalled msgType msg₀ w₀) := by
  refine .bind (Q := fun ctx w => (Reading msgType msg₀ w₀ st w ∧ w.script.length ≤ k) ∧ ctx = w₀.ctx)
    (fun w hw => ⟨hw, hw.1.ctx⟩) fun ctx => .given fun hctx => ?_
  have hsel : Triple (fun w => Reading msgType msg₀ w₀ st w ∧ w.script.length ≤ k)
      (backendSelect st.pTv) (fun _ w => Reading msgType msg₀ w₀ st w ∧ w.script.length ≤ k)
      (Stalled msgType msg₀ w₀) :=
    ((Neutral.backendSelect st.pTv).triple fun _ _ hw hi =>
      ⟨Reading.idle hw.1 hi, hi.script.length_le.trans hw.2⟩).weaken
      (fun _ hw => hw) (fun _ _ hw => hw) fun _ hw => (hw.1.broke h0).stalled
  refine .bind hsel ?_
  rintro ⟨rc, pTv⟩
  refine .ite (fun _ => ?_) fun _ => ?_
  · exact .bind ((broke_keeps Neutral.recoverAfterSelect).pre fun _ hw => hw.1.broke h0) fun _ =>
      turned_broken _
  refine .bind (Q := fun r w => (r.1 = 0 ∨ r.1 = -1) ∧ r.2 = st.msg ∧ Reading msgType msg₀ w₀ st w ∨
      ∃ chunk v, r = ((chunk.length : ℤ), st.msg.write st.msgLength chunk) ∧ chunk ≠ [] ∧
        chunk.length ≤ st.lengthToRead ∧ Reading msgType msg₀ w₀ st v ∧ v.script.length ≤ k ∧
        Delivers st.msgLength chunk v w) ?_ ?_
  · refine .from_state fun w ⟨hw, hk⟩ => (backendRecv_triple _ _ _ w).weaken (fun _ h => h) ?_ ?_
    · rintro r w' (⟨chunk, hne, hlen, rfl, hd⟩ | ⟨hrc, hmsg, hi⟩)
      · exact .inr ⟨chunk, w, rfl, hne, by omega, hw, hk, hd⟩
      · exact .inl ⟨hrc, hmsg, hw.idle hi⟩
    · exact fun w' hi => ((hw.idle hi).broke h0).stalled
  rintro ⟨rc, msg⟩
  refine .from_state fun w' hw' => ?_
  dsimp only
  rcases hw' with ⟨hrc, -, hw'⟩ | ⟨chunk, v, he, hne, hc, hv, hk, hd⟩
  · have hfail : Triple (Broke msgType msg₀ w₀ st.msgLength)
        (recoverAfterRecv >>= fun _ => pure (.inr (-1, msg))) (Turned msgType msg₀ w₀ k)
        (Stalled msgType msg₀ w₀) :=
      .bind (broke_keeps Neutral.recoverAfterRecv) fun _ => turned_broken msg
    refine .pre (P := Broke msgType msg₀ w₀ st.msgLength) (.ite (fun _ => ?_) fun _ => ?_)
      fun _ h => h ▸ hw'.broke h0
    · exact .bind (broke_keeps (Neutral.setErrno _)) fun _ =>
        .ite (fun _ => hfail) fun h => absurd hrc h
    · exact .ite (fun _ => hfail) fun h => absurd hrc h
  · obtain ⟨rfl, rfl⟩ := Prod.mk.inj he
    have hpos : 0 < chunk.length := List.length_pos_of_ne_nil hne
    rw [if_neg (by omega), if_neg (by omega), hctx]
    exact turned_accepted (hv.timeout pTv) hk hc hd fun tv st' =>
      if st'.lengthToRead > 0 ∧ w₀.ctx.byteTimeout.sec ≠ -1 then some w₀.ctx.byteTimeout else tv

lemma receiveMsgStep_triple (st : Receiving) :
    Triple (fun w => Reading msgType msg₀ w₀ st w ∧ w.script.length ≤ k) (receiveMsgStep msgType st)
      (Turned msgType msg₀ w₀ k) (Stalled msgType msg₀ w₀) :=
  .ite (fun h0 => (turned_finished h0).pre fun _ hw => hw.1) receiveMore_triple

lemma receiveMsg_triple (msgType : MsgType) (msg : Mem UInt8) (w : World) :
    Triple (w = ·) (receiveMsg msgType msg) (Received msgType msg w) (Stalled msgType msg w) := by
  rintro _ rfl
  exact Triple.iterate_measured (I := Reading msgType msg w) (fun v => v.script.length)
    (fun st _ => receiveMsgStep_triple st) _ _ w ⟨reading_start _, Nat.lt_succ_self _⟩

lemma checkIntegrity_done {msg : Mem UInt8} {n : ℕ} {w w' : World} {rc : ℤ}
    (h : checkIntegrity msg n w = .done rc w') (hrc : rc ≠ -1) :
    rc = integrity w.ctx msg n ∧ w' = w := by
  rw [checkIntegrity_apply] at h
  split_ifs at h
  · exact absurd (rtuRejectChecksum_value h) hrc
  · obtain ⟨rfl, rfl⟩ := Outcome.done.inj h
    exact ⟨rfl, rfl⟩

lemma Received.complete {r : ℤ × Mem UInt8} {w : World} (h : Received msgType msg₀ w₀ r w)
    (hr : r.1 ≠ -1) : ∃ n, n = frameLength w₀.ctx.backend msgType r.2 ∧
      n ≤ w₀.ctx.backend.maxAduLength ∧ n ≤ w₀.rx.length ∧ r.2 = msg₀.write 0 (w₀.rx.take n) ∧
      r.1 = integrity w₀.ctx r.2 n ∧ w.rx = w₀.rx.drop n ∧ w.ctx = w₀.ctx ∧ w.tx = w₀.tx := by
  cases h.ended with
  | broken n took there short failed => exact absurd failed hr
  | tooLong n took there head long failed rest => exact absurd failed hr
  | whole n v took there length allowed array rest ctx tx script check =>
    obtain ⟨hrc, rfl⟩ := checkIntegrity_done check hr
    refine ⟨n, ?_, allowed, there, array, by rw [hrc, ctx], rest, ctx, tx⟩
    rw [array]
    refine length.trans (frameLength_congr fun j hj => (Mem.write_take _ _ ?_).symm)
    exact hj.trans_le (headLength_le_frameLength.trans length.ge)

end Runs

lemma Received.took {msgType : MsgType} {msg : Mem UInt8} {w w' : World} {r : ℤ × Mem UInt8}
    (h : Received msgType msg w r w') : ∃ n, Took n w w' := by
  cases h.ended with
  | broken n took there short failed => exact ⟨n, took⟩
  | tooLong n took there head long failed rest => exact ⟨n, took⟩
  | whole n v took there length allowed array rest ctx tx script check => exact ⟨n, took⟩

def received (w w' : World) : List UInt8 :=
  w.rx.take ((w'.trace.drop w.trace.length).map Call.storedLength).sum

lemma Took.received {n : ℕ} {w w' : World} (h : Took n w w') : received w w' = w.rx.take n := by
  obtain ⟨calls, ht, rfl⟩ := h
  rw [LibModbus.received, ht, List.drop_left]

lemma Received.later {msgType : MsgType} {msg : Mem UInt8} {w v w' : World} {r : ℤ × Mem UInt8}
    (h : Received msgType msg w r v) (h' : Took 0 v w') : received w w' = received w v := by
  obtain ⟨n, hn⟩ := h.took
  rw [hn.received, (hn.trans h').received, Nat.add_zero]

end LibModbus
