import LibModbus.Client.Sessions
import LibModbus.Client.Storage
import LibModbus.Link.Endings

/-! How a call of a TCP client comes to its end, when what the system does to it does not last for ever. -/

namespace LibModbus

open Library Library.Prog

variable {answers : ℕ → Response} {limit : Option ℕ} {n k p q : ℕ} {w : World}

section Sending

def Call.isSend : Call → Bool
  | .send _ _ => true
  | _ => false

def sends (w : World) : ℕ := w.trace.countP Call.isSend

def Insists (K : Option ℕ) (w : World) : Prop := ∃ m ∈ K, m ≤ sends w

variable {K : Option ℕ}

lemma Insists.more {w' : World} (h : Insists K w) (hs : sends w ≤ sends w') : Insists K w' := by
  obtain ⟨m, hm, hle⟩ := h
  exact ⟨m, hm, hle.trans hs⟩

lemma sends_append (w : World) (c : Call) :
    sends { w with trace := w.trace ++ [c] } = sends w + [c].countP Call.isSend := by
  unfold sends
  rw [List.countP_append]

lemma Insists.call (h : Insists K w) (c : Call) : Insists K { w with trace := w.trace ++ [c] } := by
  apply h.more
  rw [sends_append]
  exact Nat.le_add_right _ _

instance : Attached (Insists K) (Insists K) where
  left _ h := h
  script _ _ _ h := h
  errno _ _ h := h
  rx _ _ h := h
  use _ c _ h := h.call c
  reconnect := by
    have hgrows : Keeps Grows reconnect := Neutral.reconnect
    exact hgrows.triple fun _ _ hw hg => hw.more hg.sublist.countP_le

def Response.sendFails (r : Response) : Bool :=
  match r.send with
  | .ok _ => false
  | .error _ => true

lemma backendSend_turn (hk : k < n) (msg : List UInt8) (j : ℕ) :
    Triple (fun w => Stands answers limit n k w ∧ j ≤ sends w) (backendSend msg)
      (fun rc w => (Stands answers limit n (k + 1) w ∧ j < sends w) ∧
        (rc = -1 → (answers k).sendFails)) Held := by
  rintro w ⟨hw, hj⟩
  have hrecord : Stands answers limit n k { w with trace := w.trace ++ [.send w.ctx.s msg] } :=
    ⟨hw.script, hw.backend, hw.rx⟩
  have hsends : j < sends { w with trace := w.trace ++ [.send w.ctx.s msg] } := by
    rw [sends_append]
    exact Nat.lt_succ_of_le hj
  rw [backendSend, bind_getCtx, osSend, record, bind_modify_apply, bind_done (hrecord.ask hk),
    Response.sendFails]
  cases (answers k).send with
  | ok m =>
    refine ⟨⟨⟨rfl, hw.backend, hw.rx⟩, hsends⟩, fun h => ?_⟩
    exact absurd h (by omega)
  | error e => exact ⟨⟨⟨rfl, hw.backend, hw.rx⟩, hsends⟩, fun _ => rfl⟩

def afterSend (rc : ℤ) : M (Unit ⊕ ℤ) := do
  let ctx ← getCtx
  if rc = -1 ∧ ctx.recoversLink then do
    let savedErrno ← getErrno
    if savedErrno = .ebadf ∨ savedErrno = .econnreset ∨ savedErrno = .epipe then reconnect
    else do
      let _ ← sleepAndFlush
    setErrno savedErrno
    return .inl ()
  else return .inr rc

lemma sendMsgStep_eq (msg : List UInt8) (u : Unit) : sendMsgStep msg u = backendSend msg >>= afterSend := rfl

lemma afterSend_grows (rc : ℤ) : Keeps Grows (afterSend rc) := by
  refine .bind Neutral.getCtx fun ctx => .ite (.bind Neutral.getErrno fun e => .ite ?_ ?_) (.pure _)
  · exact .bind Neutral.reconnect fun _ => .bind (Neutral.setErrno e) fun _ => .pure _
  · have hsleep : Keeps Grows sleepAndFlush := .of_maintains fun _ => Attached.sleepAndFlush
    exact .bind hsleep fun _ => .bind (Neutral.setErrno e) fun _ => .pure _

lemma afterSend_within (hflush : Within answers limit p q sleepAndFlush) (hq : p + 9 ≤ q) (rc : ℤ) :
    Within answers limit p q (afterSend rc) := by
  refine Within.on_ctx fun ctx _ => .ite (fun _ => ?_) fun _ => .pure _ (by omega)
  refine .bind Within.getErrno (fun e => .ite (fun _ => ?_) fun _ => ?_) (by omega)
  · exact .bind (Within.reconnect.mono le_rfl hq) (fun _ => Within.failed e _) le_rfl
  · exact .bind hflush (fun _ => Within.failed e _) le_rfl

lemma afterSend_sent {rc : ℤ} (hrc : rc ≠ -1) : afterSend rc w = .done (.inr rc) w := by
  rw [afterSend, bind_getCtx, if_neg fun h => hrc h.1]
  rfl

variable (answers limit) in
def Resends (n k q j : ℕ) (r : Unit ⊕ ℤ) (w : World) : Prop :=
  ∃ k', k < k' ∧ k' ≤ q ∧ Stands answers limit n k' w ∧ j < sends w ∧ (r.isLeft → (answers k).sendFails)

lemma sendMsgStep_turn (hflush : Within answers limit (p + 1) q sleepAndFlush) (hq : p + 10 ≤ q) (hn : q ≤ n)
    (hk : k ≤ p) (msg : List UInt8) (u : Unit) (j : ℕ) :
    Triple (fun w => Stands answers limit n k w ∧ j ≤ sends w) (sendMsgStep msg u)
      (Resends answers limit n k q j) Held := by
  rw [sendMsgStep_eq]
  refine .bind (backendSend_turn (by omega) msg j) fun rc => .given fun hfails => ?_
  by_cases hrc : rc = -1
  · have hafter := afterSend_within hflush (by omega) rc
    have hkept : Maintains (fun w => j < sends w) (fun w => j < sends w) (afterSend rc) :=
      (afterSend_grows rc).triple fun _ _ hw hg => hw.trans_le hg.sublist.countP_le
    apply (Maintains.beside (hafter n hn (k + 1) (by omega)) hkept).post
    rintro r w ⟨⟨k', hkk', hk', hw⟩, hsent⟩
    exact ⟨k', hkk', hk', hw, hsent, fun _ => hfails hrc⟩
  · rintro w ⟨hw, hsent⟩
    rw [afterSend_sent hrc]
    exact ⟨k + 1, Nat.lt_succ_self k, by omega, hw, hsent, nofun⟩

variable (hrelents : Relents answers limit)

include hrelents

lemma sendMsgStep_turns : ∃ G : ℕ → ℕ, ∀ p n, G p ≤ n → ∀ k ≤ p, ∀ msg u j,
    Triple (fun w => Stands answers limit n k w ∧ j ≤ sends w) (sendMsgStep msg u)
      (Resends answers limit n k (G p) j) Held := by
  choose F hF hflush using fun p => Within.sleepAndFlush (p + 1) hrelents
  refine ⟨fun p => max (p + 10) (F p), fun p n hn k hk msg u j => ?_⟩
  have hflush' := (hflush p).mono le_rfl (le_max_right (p + 10) (F p))
  exact sendMsgStep_turn hflush' (le_max_left _ _) hn hk msg u j

lemma sendMsgStep_counts : ∃ G, ∀ msg, Prompt.Counts (Stands answers limit) Held G (fun _ => True)
    (fun _ => sends) (sendMsgStep msg) := by
  obtain ⟨G, hG⟩ := sendMsgStep_turns hrelents
  refine ⟨G, fun msg p n hn k hk u _ j => (hG p n hn k hk msg u j).post ?_⟩
  rintro r w ⟨k', hlt, hk', hw, hsent, -⟩
  exact ⟨k', hlt.le, hk', hw, fun _ _ => ⟨hlt, trivial, hsent⟩⟩

lemma sendMsgStep_fails {m : ℕ} (hm : ∀ n, ((List.range n).map answers).countP Response.sendFails ≤ m) :
    ∃ G, ∀ msg, Prompt.Counts (Stands answers limit) Held G (fun _ => True)
      (fun _ w => m - w.script.countP Response.sendFails) (sendMsgStep msg) := by
  obtain ⟨G, hG⟩ := sendMsgStep_turns hrelents
  refine ⟨G, fun msg p n hn k hk u _ j => .from_state fun w hw => ?_⟩
  obtain ⟨hw, hj⟩ := hw
  apply (hG p n hn k hk msg u 0).weaken _ _ fun _ h => h
  · rintro _ rfl
    exact ⟨hw, Nat.zero_le _⟩
  · rintro r v ⟨k', hlt, hk', hv, -, hround⟩
    refine ⟨k', hlt.le, hk', hv, fun u' hr => ⟨hlt, trivial, ?_⟩⟩
    have hfails : (answers k).sendFails := hround (by rw [hr]; rfl)
    have hused : w.script.countP Response.sendFails =
        (answersLeft answers n (k + 1)).countP Response.sendFails + 1 := by
      rw [hw.next (by omega), List.countP_cons_of_pos hfails]
    have hall : w.script.countP Response.sendFails ≤ m := by
      rw [hw.script]
      exact (List.drop_sublist k _).countP_le.trans (hm n)
    have hleft : v.script.countP Response.sendFails ≤
        (answersLeft answers n (k + 1)).countP Response.sendFails := by
      rw [hv.script]
      exact (List.drop_sublist_drop_left _ hlt).countP_le
    dsimp only at hj ⊢
    omega

omit hrelents

variable (answers limit) in
abbrev Ending (K : Option ℕ) (p q : ℕ) (m : M α) : Prop :=
  Prompt (fun n k w => Stands answers limit n k w ∨ Insists K w) (fun w => Held w ∨ Insists K w) p q m

lemma sendMsgStep_insists (msg : List UInt8) (u : Unit) :
    Maintains (Insists K) (Insists K) (sendMsgStep msg u) := by
  have hsends (w : World) (h : Insists K w) :
      Insists K { w with trace := w.trace ++ [.send w.ctx.s msg] } := h.call _
  exact Attached.sendMsgStep hsends (fun _ _ h => h) u

variable (answers) in
def SendsEnd (K : Option ℕ) : Prop :=
  K.isSome ∨ ∃ m, ∀ n, ((List.range n).map answers).countP Response.sendFails ≤ m

lemma sendMsg_ending (hrelents : Relents answers limit) (hsends : SendsEnd answers K) (p : ℕ) :
    ∃ q, p ≤ q ∧ ∀ msg, Ending answers limit K p q (sendMsg msg) := by
  have hloop : ∃ q, p ≤ q ∧ ∀ msg, Ending answers limit K p q (loop (sendMsgStep msg) ()) := by
    rcases hsends with hK | ⟨m, hm⟩
    · obtain ⟨l, rfl⟩ := Option.isSome_iff_exists.mp hK
      obtain ⟨G, hG⟩ := sendMsgStep_counts hrelents
      refine ⟨_, Prompt.le_turnsBound G l p, fun msg => ?_⟩
      exact Prompt.iterate_counted (hG msg) (fun _ _ _ hw => Within.budget hw) (sendMsgStep_insists msg)
        (fun _ w _ hle => ⟨l, rfl, hle⟩) trivial
    · obtain ⟨G, hG⟩ := sendMsgStep_fails hrelents hm
      refine ⟨_, Prompt.le_turnsBound G (m + 1) p, fun msg => ?_⟩
      have hwithin : Within answers limit p (Prompt.turnsBound G (m + 1) p) (loop (sendMsgStep msg) ()) :=
        Prompt.iterate_limited (hG msg) (fun _ _ _ hw => Within.budget hw)
          (fun _ w _ => Nat.lt_succ_of_le (Nat.sub_le _ _)) trivial
      exact hwithin.or_busy (Attached.loop (sendMsgStep_insists msg) ()) (Prompt.le_turnsBound G (m + 1) p)
  obtain ⟨q, hpq, hloop⟩ := hloop
  refine ⟨q, hpq, fun msg => ?_⟩
  refine .bind (fun _ _ k hk _ hw => ⟨k, le_rfl, hk, hw⟩) (fun ctx => .bind (hloop _) (fun rc => ?_) le_rfl)
    hpq
  refine .ite (fun _ => .bind (.modify ?_ le_rfl) (fun _ => .pure _ le_rfl) le_rfl) fun _ => .pure _ le_rfl
  rintro n k w (hw | hw)
  · exact .inl ⟨hw.script, hw.backend, hw.rx⟩
  · exact .inr hw

section Failing

structure Unsendable (w : World) : Prop where
  recovers : w.ctx.recoversLink
  fails : ∀ r ∈ w.script, r.sendFails

lemma Unsendable.later {v : World} (h : Unsendable w) (hc : SameConfig w v) (hs : Shrinks w v) :
    Unsendable v := by
  refine ⟨?_, fun r hr => h.fails r (hs.subset hr)⟩
  rw [hc]
  exact h.recovers

instance : Attached Unsendable fun _ => True where
  left _ _ := trivial
  script _ _ hs h := ⟨h.recovers, fun r hr => h.fails r (hs.subset hr)⟩
  errno _ _ h := ⟨h.recovers, h.fails⟩
  rx _ _ h := ⟨h.recovers, h.fails⟩
  use _ _ _ h := ⟨h.recovers, h.fails⟩
  reconnect := by
    intro w hw
    have hc : SameConfig w (reconnect w).state := Neutral.reconnect w
    have hs : Shrinks w (reconnect w).state := Neutral.reconnect w
    cases hm : reconnect w with
    | blocked v => trivial
    | done u v =>
      rw [hm] at hc hs
      exact hw.later hc hs

lemma sendMsgStep_unsendable (msg : List UInt8) (u : Unit) : Triple Unsendable (sendMsgStep msg u)
    (fun r w => r.elim (fun _ => Unsendable w) fun _ => False) fun _ => True := by
  refine .bind (Q := fun rc w => Unsendable w ∧ rc = -1) ?_ fun rc => .given fun hrc => ?_
  · intro w hw
    rw [backendSend, bind_getCtx, osSend, record, bind_modify_apply, bind_apply, ask]
    dsimp only
    cases hs : w.script with
    | nil => trivial
    | cons r rest =>
      have hfails := hw.fails r (hs ▸ List.mem_cons_self)
      rw [Response.sendFails] at hfails
      dsimp only
      cases hr : r.send with
      | ok m =>
        rw [hr] at hfails
        exact absurd hfails (by simp)
      | error e =>
        refine ⟨⟨hw.recovers, fun r' hr' => hw.fails r' ?_⟩, rfl⟩
        exact hs ▸ List.mem_cons_of_mem r hr'
  · refine .bind (Q := fun ctx w => Unsendable w ∧ ctx.recoversLink) (fun w hw => ⟨hw, hw.recovers⟩)
      fun ctx => .given fun hctx => ?_
    rw [if_pos ⟨hrc, hctx⟩]
    have hend (e : Errno) : Triple Unsendable (setErrno e >>= fun _ => (pure (.inl ()) : M (Unit ⊕ ℤ)))
        (fun r w => r.elim (fun _ => Unsendable w) fun _ => False) fun _ => True :=
      .bind (Attached.setErrno e) fun _ => .pure fun _ hw => hw
    refine .bind Attached.getErrno fun e => .ite (fun _ => ?_) fun _ => ?_
    · exact .bind Attached.reconnect fun _ => hend e
    · exact .bind Attached.sleepAndFlush fun _ => hend e

lemma sendMsg_unsendable (msg : List UInt8) :
    Triple Unsendable (sendMsg msg) (fun _ _ => False) fun _ => True := by
  have hloop (msg : List UInt8) :
      Triple Unsendable (loop (sendMsgStep msg) ()) (fun _ _ => False) fun _ => True := fun w hw =>
    Triple.iterate (I := fun _ => Unsendable) (sendMsgStep_unsendable msg) (fun _ _ _ => trivial) _ () w hw
  refine .bind (Q := fun _ => Unsendable) (fun w hw => hw) fun ctx => .bind (hloop _) fun rc w hw => ?_
  exact False.elim hw

lemma run_unsendable {call : ClientCall} (hfew : call.operation.tooMany = false) (stack : Mem UInt8)
    (dest : Dest) : Triple Unsendable (call.operation.run stack dest) (fun _ _ => False) fun _ => True := by
  refine .bind (Q := fun _ _ => False) ?_ fun r w hw => False.elim hw
  intro w hw
  have hnext : Unsendable { w with ctx := nextRequest w.ctx } := by
    refine ⟨?_, hw.fails⟩
    rw [Modbus.recoversLink, nextRequest_errorRecovery]
    exact hw.recovers
  rw [call.issue_eq hfew]
  exact sendMsg_unsendable _ _ hnext

end Failing

end Sending

section Receiving

variable {msgType : MsgType} {st : Receiving}

lemma backendRecv_turn (hk : k + 1 < n) (msg : Mem UInt8) (offset length : ℕ) :
    Triple (Stands answers limit n k) (backendRecv msg offset length)
      (fun r w => Stands answers limit n (k + 1) w ∧ ((r.1 = 0 ∨ r.1 = -1) ∨
        ∃ chunk, chunk ≠ [] ∧ chunk.length ≤ max 1 length ∧
          r = ((chunk.length : ℤ), msg.write offset chunk))) Held := by
  intro w hw
  have hrecord : Stands answers limit n k { w with trace := w.trace ++ [.recv w.ctx.s] } :=
    ⟨hw.script, hw.backend, hw.rx⟩
  rw [backendRecv, bind_getCtx, osRecv, record, bind_modify_apply,
    bind_done (hrecord.ask (Nat.lt_of_succ_lt hk))]
  cases (answers k).recv with
  | eof => exact ⟨⟨rfl, hw.backend, hw.rx⟩, .inl (.inl rfl)⟩
  | fail e => exact ⟨⟨rfl, hw.backend, hw.rx⟩, .inl (.inr rfl)⟩
  | data m =>
    dsimp only
    rw [bind_get_apply]
    dsimp only
    split_ifs with hnil
    · have hnext : Stands answers limit n (k + 1) { w with script := answersLeft answers n (k + 1) } :=
        ⟨rfl, hw.backend, hw.rx⟩
      exact hnext.held hk
    · refine ⟨⟨rfl, hw.backend, fun l hl => ?_⟩, .inr ⟨_, hnil, ?_, rfl⟩⟩
      · rw [List.length_drop]
        exact (Nat.sub_le _ _).trans (hw.rx l hl)
      · rw [List.length_take]
        omega

lemma accepted_turn (hinv : st.Inv .tcp msgType) {chunk : List UInt8} (hne : chunk ≠ [])
    (hlen : chunk.length ≤ st.lengthToRead) (pTv : Option Timeval → Receiving → Option Timeval) :
    Triple (Stands answers limit n k) (match Receiving.accept .tcp msgType st chunk with
      | none => setErrno embbaddata >>= fun _ =>
        (pure (.inr (-1, st.msg.write st.msgLength chunk)) : M (Receiving ⊕ (ℤ × Mem UInt8)))
      | some st => pure (.inl { st with pTv := pTv st.pTv st }))
      (fun r w => Stands answers limit n k w ∧
        ∀ st', r = .inl st' → st'.Inv .tcp msgType ∧ st.msgLength < st'.msgLength) Held := by
  intro w hw
  cases ha : Receiving.accept .tcp msgType st chunk with
  | none => exact ⟨⟨hw.script, hw.backend, hw.rx⟩, nofun⟩
  | some st' =>
    obtain ⟨hinv', -, hlength⟩ := Receiving.accept_inv hinv hlen ha
    have hpos := List.length_pos_of_ne_nil hne
    refine ⟨hw, fun st'' hst => ?_⟩
    obtain rfl := Sum.inl.inj hst
    exact ⟨hinv', by dsimp only; omega⟩

variable (p) in
lemma recoverAfterSelect_within (hrelents : Relents answers limit) :
    ∃ q, p ≤ q ∧ Within answers limit p q recoverAfterSelect := by
  obtain ⟨q, hpq, hflush⟩ := Within.sleepAndFlush p hrelents
  refine ⟨max q (p + 9), by omega, Within.on_ctx fun ctx _ => .ite (fun _ => ?_) fun _ => .pure _ (by omega)⟩
  refine .bind Within.getErrno (fun e => ?_) (by omega)
  refine .ite (fun _ => ?_) fun _ => .ite (fun _ => ?_) fun _ => ?_
  · exact .bind (hflush.mono le_rfl (le_max_left _ _)) (fun _ => Within.setErrno e) le_rfl
  · exact .bind (Within.reconnect.mono le_rfl (le_max_right _ _)) (fun _ => Within.setErrno e) le_rfl
  · exact (Within.setErrno e).mono le_rfl (by omega)

lemma recoverAfterRecv_within : Within answers limit p (p + 9) recoverAfterRecv := by
  refine Within.on_ctx fun ctx _ => .bind Within.getErrno (fun e => .ite (fun _ => ?_) fun _ => ?_) (by omega)
  · exact .bind Within.reconnect (fun _ => Within.setErrno e) le_rfl
  · exact .pure _ (by omega)

lemma checkIntegrity_within (msg : Mem UInt8) (msgLength : ℕ) :
    Within answers limit p p (checkIntegrity msg msgLength) := by
  refine Within.on_ctx fun ctx hctx => ?_
  rw [hctx]
  exact .pure _ le_rfl

lemma recv_failed (hn : k + 9 ≤ n) (rc : ℤ) (msg : Mem UInt8) (hrc : rc = 0 ∨ rc = -1)
    (f : M (Receiving ⊕ (ℤ × Mem UInt8))) : Triple (Stands answers limit n k) (do
      if rc = 0 then setErrno .econnreset
      if rc = 0 ∨ rc = -1 then do
        recoverAfterRecv
        return .inr (-1, msg)
      else f)
      (fun r w => ∃ k', k ≤ k' ∧ k' ≤ k + 9 ∧ Stands answers limit n k' w ∧ r.isRight) Held := by
  have hend : Triple (Stands answers limit n k)
      (recoverAfterRecv >>= fun _ => (pure (.inr (-1, msg)) : M (Receiving ⊕ (ℤ × Mem UInt8))))
      (fun r w => ∃ k', k ≤ k' ∧ k' ≤ k + 9 ∧ Stands answers limit n k' w ∧ r.isRight) Held := by
    refine .bind (recoverAfterRecv_within n hn k le_rfl) fun _ => .pure ?_
    rintro w ⟨k', hkk', hk', hw⟩
    exact ⟨k', hkk', hk', hw, rfl⟩
  refine .ite (fun _ => .bind (Q := fun _ => Stands answers limit n k) ?_ fun _ => ?_) fun _ => ?_
  · exact fun w hw => ⟨hw.script, hw.backend, hw.rx⟩
  all_goals exact .ite (fun _ => hend) fun h => absurd hrc h

variable (answers limit msgType) in
def Lengthens (n k q : ℕ) (st : Receiving) (r : Receiving ⊕ (ℤ × Mem UInt8)) (w : World) : Prop :=
  ∃ k', k ≤ k' ∧ k' ≤ q ∧ Stands answers limit n k' w ∧
    ∀ st', r = .inl st' → k < k' ∧ st'.Inv .tcp msgType ∧ st.msgLength < st'.msgLength

lemma receiveMore_turn {s : ℕ} (hselect : ∀ tv : Option Timeval, Within answers limit p s (backendSelect tv))
    (hrecover : Within answers limit s q recoverAfterSelect) (hs : s + 10 ≤ q) (hn : q ≤ n) (hk : k ≤ p)
    (hinv : st.Inv .tcp msgType) (h0 : st.lengthToRead ≠ 0) :
    Triple (Stands answers limit n k) (receiveMore msgType st)
      (Lengthens answers limit msgType n k q st) Held := by
  refine .bind (Q := fun ctx w => Stands answers limit n k w ∧ ctx.backend = .tcp)
    (fun w hw => ⟨hw, hw.backend⟩) fun ctx => .given fun hctx => ?_
  refine .bind (hselect st.pTv n (by omega) k hk) ?_
  rintro ⟨rc, pTv⟩ w ⟨k', hkk', hk', hw⟩
  apply Triple.ite (P := Stands answers limit n k') (fun _ => ?_) (fun _ => ?_) w hw
  · refine .bind (hrecover n hn k' hk') fun _ => .pure ?_
    rintro v ⟨l, hl, hlq, hv⟩
    exact ⟨l, hkk'.trans hl, hlq, hv, nofun⟩
  refine .bind (backendRecv_turn (by omega) _ _ _) ?_
  rintro ⟨rc, msg⟩
  apply Triple.from_state
  rintro v ⟨hv, hr⟩
  have hstart : ∀ v', v = v' → Stands answers limit n (k' + 1) v' := fun _ h => h ▸ hv
  dsimp only at hr ⊢
  rcases hr with hfail | ⟨chunk, hne, hlen, he⟩
  · apply ((recv_failed (by omega) rc msg hfail _).pre hstart).post
    rintro r u ⟨l, hl, hl', hu, hr⟩
    refine ⟨l, by omega, by omega, hu, fun st' hst => ?_⟩
    rw [hst] at hr
    exact absurd hr (by simp)
  · obtain ⟨rfl, rfl⟩ := Prod.mk.inj he
    have hpos : 0 < chunk.length := List.length_pos_of_ne_nil hne
    rw [if_neg (by omega), if_neg (by omega), hctx]
    have hinv' : Receiving.Inv .tcp msgType { st with pTv } := hinv
    apply ((accepted_turn hinv' hne (by dsimp only; omega) fun tv st' =>
      if st'.lengthToRead > 0 ∧ ctx.byteTimeout.sec ≠ -1 then some ctx.byteTimeout else tv).pre hstart).post
    rintro r u ⟨hu, hround⟩
    exact ⟨k' + 1, by omega, by omega, hu, fun st' hst => ⟨by omega, hround st' hst⟩⟩

lemma receiveMsgStep_counts (hrelents : Relents answers limit) : ∃ G, Prompt.Counts
    (Stands answers limit) Held G (Receiving.Inv .tcp msgType) (fun st _ => st.msgLength)
    (receiveMsgStep msgType) := by
  choose S hS hselect using fun p => Within.backendSelect p hrelents
  choose R hR hrecover using fun p => recoverAfterSelect_within p hrelents
  refine ⟨fun p => max (S p + 10) (R (S p)), fun p n hn k hk st hinv j => ?_⟩
  change Triple (fun w => Stands answers limit n k w ∧ j ≤ st.msgLength) _ _ _
  refine .given fun hj => ?_
  have hS' : S p + 10 ≤ n := (le_max_left _ _).trans hn
  have hturn : Triple (Stands answers limit n k) (receiveMsgStep msgType st)
      (Lengthens answers limit msgType n k (max (S p + 10) (R (S p))) st) Held := by
    have hp := hS p
    refine .ite (fun _ => ?_) fun h0 => ?_
    · refine .bind (checkIntegrity_within _ _ n (by omega) k le_rfl) fun rc => .pure ?_
      rintro w ⟨k', hkk', hk', hw⟩
      exact ⟨k', hkk', by omega, hw, nofun⟩
    · have hrecover' := (hrecover (S p)).mono le_rfl (le_max_right (S p + 10) (R (S p)))
      exact receiveMore_turn (hselect p) hrecover' (le_max_left _ _) hn hk hinv h0
  apply hturn.post
  rintro r w ⟨k', hkk', hk', hw, hround⟩
  refine ⟨k', hkk', hk', hw, fun st' hst => ?_⟩
  obtain ⟨hlt, hinv', hlonger⟩ := hround st' hst
  exact ⟨hlt, hinv', hj.trans_lt hlonger⟩

lemma receiveMsg_within (hrelents : Relents answers limit) (msgType : MsgType) (p : ℕ) :
    ∃ q, p ≤ q ∧ ∀ msg, Within answers limit p q (receiveMsg msgType msg) := by
  obtain ⟨G, hG⟩ := @receiveMsgStep_counts answers limit msgType hrelents
  refine ⟨_, Prompt.le_turnsBound G 261 p, fun msg => Within.on_ctx fun ctx hctx => ?_⟩
  apply Prompt.iterate_limited hG (fun _ _ _ hw => Within.budget hw)
  · intro st _ hinv
    have hbound := hinv.bound
    rw [Backend.tcp_lengths.2.2] at hbound
    omega
  · rw [hctx]
    exact Receiving.inv_start _ _ _ _

end Receiving

section Operations

variable (hrelents : Relents answers limit) (p)

include hrelents

lemma checkConfirmation_within : ∃ q, p ≤ q ∧ ∀ req rsp rspLength,
    Within answers limit p q (checkConfirmation req rsp rspLength) := by
  obtain ⟨q, hpq, hflush⟩ := Within.sleepAndFlush p hrelents
  refine ⟨q, hpq, fun req rsp rspLength => Within.on_ctx fun ctx _ => ?_⟩
  have hpre : Within answers limit p p (preCheckConfirmation req rsp) := by
    refine Within.on_ctx fun ctx hctx => ?_
    rw [hctx]
    exact .ite (fun _ => Within.failed _ _) fun _ => .pure _ le_rfl
  have hfail (e : Errno) : Within answers limit p q (setErrno e >>= fun _ => (pure (-1) : M ℤ)) :=
    (Within.failed e _).mono le_rfl hpq
  have hreject : Within answers limit p q rejectConfirmation := by
    refine Within.on_ctx fun ctx _ => .ite (fun _ => ?_) fun _ => hfail _
    exact .bind hflush (fun _ => Within.failed _ _) le_rfl
  refine .bind hpre (fun rc => .ite (fun _ => ?_) fun _ => .ite (fun _ => ?_) fun _ => ?_) hpq
  · exact .ite (fun _ => .bind hflush (fun _ => .pure _ le_rfl) le_rfl) fun _ => .pure _ hpq
  · exact .ite (fun _ => .ite (fun _ => hfail _) fun _ => hfail _) fun _ => hfail _
  · refine .ite (fun _ => .ite (fun _ => hreject) fun _ => ?_) fun _ => hreject
    exact .ite (fun _ => .pure _ hpq) fun _ => hreject

lemma confirm_within : ∃ q, p ≤ q ∧ ∀ (op : Operation) stack rc req dest,
    Within answers limit p q (op.confirm stack rc req dest) := by
  obtain ⟨q, hpq, hreceive⟩ := receiveMsg_within hrelents .confirmation p
  obtain ⟨r, hqr, hcheck⟩ := checkConfirmation_within q hrelents
  refine ⟨r, hpq.trans hqr, fun op stack rc req dest => .ite (fun _ => ?_) fun _ => .pure _ (hpq.trans hqr)⟩
  refine .bind (hreceive stack) ?_ hqr
  rintro ⟨rc, rsp⟩
  refine .ite (fun _ => .pure _ hqr) fun _ => .bind (hcheck _ _ _) (fun rc => ?_) le_rfl
  refine .ite (fun _ => .pure _ le_rfl) fun _ => Within.on_ctx fun ctx _ => .pure _ le_rfl

lemma run_ending {K : Option ℕ} (hsends : SendsEnd answers K) : ∃ q, p ≤ q ∧ ∀ (call : ClientCall) stack dest,
    Ending answers limit K p q (call.operation.run stack dest) := by
  obtain ⟨q, hpq, hsend⟩ := sendMsg_ending hrelents hsends p
  obtain ⟨r, hqr, hconfirm⟩ := confirm_within q hrelents
  refine ⟨r, hpq.trans hqr, fun call stack dest => .bind (q := q) ?_ ?_ hqr⟩
  · cases hmany : call.operation.tooMany with
    | true =>
      rw [Operation.issue, hmany, if_pos rfl]
      refine .bind (.modify ?_ le_rfl) (fun _ => .pure _ hpq) hpq
      rintro n k w (hw | hw)
      · exact .inl ⟨hw.script, hw.backend, hw.rx⟩
      · exact .inr hw
    | false =>
      intro n hn k hk w hw
      rw [call.issue_eq hmany]
      apply hsend _ n hn k hk
      rcases hw with hw | hw
      · exact .inl ⟨hw.script, (nextRequest_backend w.ctx).trans hw.backend, hw.rx⟩
      · exact .inr hw
  · rintro ⟨rc, req⟩
    have hstored (w : World) (o n : ℕ) (h : Insists K w) :
        Insists K { w with trace := w.trace ++ [.stored o n] } := h.call _
    exact (hconfirm _ _ _ _ _).or_busy (Attached.confirm hstored stack rc req dest) hqr

end Operations

end LibModbus
