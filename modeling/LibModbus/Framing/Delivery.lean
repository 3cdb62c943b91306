import LibModbus.Framing.Receive

/-! Lossless links: the system delivers what there is, in pieces of any size. A message that is as
long as its own head says arrives whole, and nothing behind it is touched. -/

namespace LibModbus

open Library Library.Prog

/-- A send takes the whole message, a wait ends because bytes are there, and a receive returns some
of them. -/
structure Response.Lossless (r : Response) : Prop where
  send : ∃ n, r.send = .ok n ∧ maxMessageLength ≤ n
  recv : ∃ n, r.recv = .data n
  select : r.select = .ok true

/-- The next calls, at least `n` of them, are answered without loss. -/
def Flows (n : ℕ) (script : List Response) : Prop :=
  n ≤ script.length ∧ ∀ r ∈ script, r.Lossless

lemma lossless_default : ({} : Response).Lossless :=
  ⟨⟨_, rfl, le_rfl⟩, ⟨_, rfl⟩, rfl⟩

lemma flows_replicate (n : ℕ) : Flows n (List.replicate n {}) :=
  ⟨by rw [List.length_replicate], fun r hr => (List.eq_of_mem_replicate hr) ▸ lossless_default⟩

lemma Flows.mono {n m : ℕ} {script : List Response} (h : Flows n script) (hm : m ≤ n) :
    Flows m script :=
  ⟨hm.trans h.1, h.2⟩

lemma Flows.tail {n : ℕ} {r : Response} {script : List Response} (h : Flows (n + 1) (r :: script)) :
    Flows n script :=
  ⟨Nat.le_of_succ_le_succ h.1, fun r hr => h.2 r (List.mem_cons_of_mem _ hr)⟩

lemma Flows.cases {n : ℕ} {script : List Response} (h : Flows (n + 1) script) :
    ∃ r rest, script = r :: rest ∧ r.Lossless ∧ Flows n rest := by
  cases script with
  | nil => exact absurd h.1 (by simp)
  | cons r rest => exact ⟨r, rest, rfl, h.2 r List.mem_cons_self, h.tail⟩

section Calls

variable {w : World} {r : Response} {rest : List Response}

lemma osSelect_flows (hs : w.script = r :: rest) (hr : r.Lossless) (fd : ℤ) (tv : Option Timeval) :
    osSelect fd tv w = .done (1, tv.map fun _ => r.selectTv)
      { w with script := rest, trace := w.trace ++ [.select fd] } := by
  simp only [osSelect_variable, record, ask, bind_apply, modify_apply, hs, hr.select, pure_apply]

lemma backendSelect_flows (hs : w.script = r :: rest) (hr : r.Lossless) (tv : Option Timeval) :
    backendSelect tv w = .done (1, tv.map fun _ => r.selectTv)
      { w with script := rest, trace := w.trace ++ [.select w.ctx.s] } := by
  unfold backendSelect loop
  apply iterate_inr _
  rw [backendSelectStep, bind_getCtx, bind_done (osSelect_flows hs hr _ _)]
  rfl

lemma ask_nil (hs : w.script = []) : ask w = .blocked w := by
  rw [ask, hs]

lemma backendSelect_nil (hs : w.script = []) (tv : Option Timeval) : backendSelect tv w =
    .blocked { w with trace := w.trace ++ [.select w.ctx.s] } := by
  apply iterate_blocked _
  rw [backendSelectStep, bind_getCtx]
  refine bind_blocked ?_ _
  rw [osSelect_variable, record, bind_modify_apply]
  exact bind_blocked (ask_nil (w := { w with trace := w.trace ++ [.select w.ctx.s] }) hs) _

lemma backendRecv_flows (hs : w.script = r :: rest) {n : ℕ} (hr : r.recv = .data n)
    (msg : Mem UInt8) (offset length : ℕ) (hrx : w.rx ≠ []) :
    backendRecv msg offset length w = .done
      ((w.rx.take (max 1 (min n length))).length, msg.write offset (w.rx.take (max 1 (min n length))))
      { w with
        script := rest
        rx := w.rx.drop (w.rx.take (max 1 (min n length))).length
        trace := w.trace ++ [.recv w.ctx.s] ++
          [.stored offset (w.rx.take (max 1 (min n length))).length] } := by
  have hne : w.rx.take (max 1 (min n length)) ≠ [] := by
    rw [Ne, List.take_eq_nil_iff]
    push Not
    exact ⟨by omega, hrx⟩
  simp only [backendRecv, osRecv, getCtx, record, ask, bind_apply, get_apply, pure_apply,
    modify_apply, hs, hr, if_neg hne]

lemma backendRecv_starved (hr : ∀ r ∈ w.script, r.Lossless) (msg : Mem UInt8) (offset length : ℕ)
    (hrx : w.rx = []) : ∃ w', backendRecv msg offset length w = .blocked w' := by
  simp only [backendRecv, osRecv, getCtx, record, ask, bind_apply, get_apply, pure_apply, modify_apply]
  cases hs : w.script with
  | nil => exact ⟨_, rfl⟩
  | cons r rest =>
    obtain ⟨n, hn⟩ := (hr r (hs ▸ List.mem_cons_self)).recv
    simp only [hn, bind_get_apply, hrx, List.take_nil, if_true]
    exact ⟨_, rfl⟩

lemma osSend_sent (hs : w.script = r :: rest) {n : ℕ} (hr : r.send = .ok n) (fd : ℤ)
    {msg : List UInt8} (hm : msg.length ≤ n) : osSend fd msg w = .done (msg.length : ℤ)
      { w with script := rest, tx := w.tx ++ msg, trace := w.trace ++ [.send fd msg] } := by
  simp only [osSend, record, ask, bind_apply, modify_apply, hs, hr, pure_apply,
    List.take_of_length_le hm]

lemma sendMsg_sent {msg : List UInt8} (hs : w.script = r :: rest) {n : ℕ} (hr : r.send = .ok n)
    (hm : (sendMsgPre w.ctx.backend msg).length ≤ n) :
    sendMsg msg w = .done (((sendMsgPre w.ctx.backend msg).length : ℤ), sendMsgPre w.ctx.backend msg)
      { w with
        script := rest
        tx := w.tx ++ sendMsgPre w.ctx.backend msg
        trace := w.trace ++ [.send w.ctx.s (sendMsgPre w.ctx.backend msg)] } := by
  have hstep : sendMsgStep (sendMsgPre w.ctx.backend msg) () w =
      .done (.inr ((sendMsgPre w.ctx.backend msg).length : ℤ))
        { w with
          script := rest
          tx := w.tx ++ sendMsgPre w.ctx.backend msg
          trace := w.trace ++ [.send w.ctx.s (sendMsgPre w.ctx.backend msg)] } := by
    simp only [sendMsgStep, backendSend, bind_assoc_apply, bind_getCtx]
    rw [bind_done (osSend_sent hs hr _ hm), bind_getCtx, if_neg (by omega)]
    rfl
  have hloop : loop (sendMsgStep (sendMsgPre w.ctx.backend msg)) () w = _ := iterate_inr _ hstep
  rw [sendMsg, bind_getCtx, bind_done hloop, if_neg (by simp)]
  rfl

lemma sendMsg_flows {msg : List UInt8} (hs : w.script = r :: rest) (hr : r.Lossless)
    (hm : (sendMsgPre w.ctx.backend msg).length ≤ maxMessageLength) :
    sendMsg msg w = .done (((sendMsgPre w.ctx.backend msg).length : ℤ), sendMsgPre w.ctx.backend msg)
      { w with
        script := rest
        tx := w.tx ++ sendMsgPre w.ctx.backend msg
        trace := w.trace ++ [.send w.ctx.s (sendMsgPre w.ctx.backend msg)] } := by
  obtain ⟨n, hn, hle⟩ := hr.send
  exact sendMsg_sent hs hn (hm.trans hle)

end Calls

def StoredUpTo (k : ℕ) (w w' : World) : Prop :=
  ∃ calls o n, w'.trace = w.trace ++ calls ∧ .stored o n ∈ calls ∧ o + n = k

lemma StoredUpTo.later {k m : ℕ} {w w' w'' : World} (h : StoredUpTo k w w')
    (hs : StoredBelow m w' w'') : StoredUpTo k w w'' := by
  obtain ⟨calls, o, n, ht, hm, hk⟩ := h
  obtain ⟨more, ht', -⟩ := hs
  exact ⟨calls ++ more, o, n, by rw [ht', ht, List.append_assoc], List.mem_append_left _ hm, hk⟩

section Runs

variable (msgType : MsgType) (msg₀ : Mem UInt8) (w₀ : World)

def dueLength : ℕ := frameLength w₀.ctx.backend msgType (msg₀.write 0 w₀.rx)

def due : Mem UInt8 := msg₀.write 0 (w₀.rx.take (dueLength msgType msg₀ w₀))

structure Sound : Prop where
  allowed : dueLength msgType msg₀ w₀ ≤ w₀.ctx.backend.maxAduLength
  whole : dueLength msgType msg₀ w₀ ≤ w₀.rx.length
  intact : integrity w₀.ctx (due msgType msg₀ w₀) (dueLength msgType msg₀ w₀) ≠ -1

structure Flowing (st : Receiving) (w : World) : Prop extends Reading msgType msg₀ w₀ st w where
  flows : Flows (2 * (storeLimit msgType msg₀ w₀ - st.msgLength)) w.script
  used : w₀.script.length ≤ w.script.length + 2 * st.msgLength
  upTo : 0 < st.msgLength → StoredUpTo st.msgLength w₀ w

def Drained (w : World) : Prop :=
  0 < storeLimit msgType msg₀ w₀ → StoredUpTo (storeLimit msgType msg₀ w₀) w₀ w

def Rejectable : Prop :=
  headLength w₀.ctx.backend msgType (msg₀.write 0 w₀.rx) ≤ w₀.rx.length ∧
      w₀.ctx.backend.maxAduLength < dueLength msgType msg₀ w₀ ∨
    ∃ msg n, integrity w₀.ctx msg n = -1

structure Delivered (r : ℤ × Mem UInt8) (w : World) : Prop where
  drained : Drained msgType msg₀ w₀ w
  took : Took (storeLimit msgType msg₀ w₀) w₀ w
  failed : r.1 = -1 → Rejectable msgType msg₀ w₀
  sound : Sound msgType msg₀ w₀ →
    r = (integrity w₀.ctx (due msgType msg₀ w₀) (dueLength msgType msg₀ w₀), due msgType msg₀ w₀) ∧
    w.rx = w₀.rx.drop (dueLength msgType msg₀ w₀) ∧ w.ctx = w₀.ctx ∧ w.tx = w₀.tx ∧
    (∀ r ∈ w.script, r.Lossless) ∧ w₀.script.length ≤ w.script.length + 2 * dueLength msgType msg₀ w₀

structure Starved (w : World) : Prop where
  drained : Drained msgType msg₀ w₀ w
  took : Took (storeLimit msgType msg₀ w₀) w₀ w
  unsound : ¬Sound msgType msg₀ w₀

def Arriving (st : Receiving) (r : Receiving ⊕ (ℤ × Mem UInt8)) (w : World) : Prop :=
  r.elim (fun st' => Flowing msgType msg₀ w₀ st' w ∧
      storeLimit msgType msg₀ w₀ - st'.msgLength < storeLimit msgType msg₀ w₀ - st.msgLength)
    (Delivered msgType msg₀ w₀ · w)

variable {msgType msg₀ w₀} {st : Receiving} {w : World}

lemma Sound.limit (h : Sound msgType msg₀ w₀) :
    storeLimit msgType msg₀ w₀ = dueLength msgType msg₀ w₀ := by
  have hr : reach w₀.ctx.backend msgType (msg₀.write 0 w₀.rx) = dueLength msgType msg₀ w₀ :=
    if_pos h.allowed
  rw [storeLimit, hr, Nat.min_eq_right h.whole]

lemma Reading.finished (h : Reading msgType msg₀ w₀ st w) (h0 : st.lengthToRead = 0) :
    st.msgLength = dueLength msgType msg₀ w₀ ∧ st.msg = due msgType msg₀ w₀ ∧
      st.msgLength = storeLimit msgType msg₀ w₀ := by
  obtain ⟨hd, hmax⟩ : st.msgLength = dueLength msgType msg₀ w₀ ∧ _ := h.whole h0
  have hr : reach w₀.ctx.backend msgType (msg₀.write 0 w₀.rx) = dueLength msgType msg₀ w₀ :=
    if_pos (hd.symm.trans_le hmax)
  refine ⟨hd, ?_, ?_⟩
  · rw [due, ← hd]
    exact h.msg
  · rw [storeLimit, hr, ← hd, Nat.min_eq_right h.length]

lemma Reading.exhausted (h : Reading msgType msg₀ w₀ st w) (h0 : st.lengthToRead ≠ 0)
    (hl : storeLimit msgType msg₀ w₀ ≤ st.msgLength) :
    st.msgLength = storeLimit msgType msg₀ w₀ ∧ w.rx = [] ∧ ¬Sound msgType msg₀ w₀ := by
  have hr := h.le_reach
  have hle := h.length
  have hlim : storeLimit msgType msg₀ w₀ = min w₀.rx.length
    (reach w₀.ctx.backend msgType (msg₀.write 0 w₀.rx)) := rfl
  refine ⟨by omega, ?_, fun hs => ?_⟩
  · rw [h.rx, List.drop_eq_nil_iff]
    omega
  · have := hs.limit
    have hd : reach w₀.ctx.backend msgType (msg₀.write 0 w₀.rx) = dueLength msgType msg₀ w₀ :=
      if_pos hs.allowed
    omega

lemma Flowing.drained (h : Flowing msgType msg₀ w₀ st w)
    (hl : st.msgLength = storeLimit msgType msg₀ w₀) {m : ℕ} {w' : World}
    (hs : StoredBelow m w w') : Drained msgType msg₀ w₀ w' := fun hpos => by
  rw [← hl] at hpos ⊢
  exact (h.upTo hpos).later hs

lemma Flowing.taken (h : Flowing msgType msg₀ w₀ st w)
    (hl : st.msgLength = storeLimit msgType msg₀ w₀) {w' : World} (hs : StoredBelow 0 w w') :
    Took (storeLimit msgType msg₀ w₀) w₀ w' := by
  rw [← hl]
  exact h.took.trans hs.took

lemma delivered_finished (h0 : st.lengthToRead = 0) :
    Triple (Flowing msgType msg₀ w₀ st) (do
        let rc ← checkIntegrity st.msg st.msgLength
        return .inr (rc, st.msg))
      (Arriving msgType msg₀ w₀ st) (Starved msgType msg₀ w₀) := by
  refine .from_state fun w hw => ?_
  obtain ⟨hn, hmsg, hl⟩ := hw.finished h0
  have hi : integrity w.ctx st.msg st.msgLength =
      integrity w₀.ctx (due msgType msg₀ w₀) (dueLength msgType msg₀ w₀) := by
    rw [hw.ctx, hn, hmsg]
  have hk := Neutral.checkIntegrity (R := StoredBelow 0) st.msg st.msgLength w
  rintro _ rfl
  by_cases hbad : integrity w.ctx st.msg st.msgLength = -1
  · have hns : ¬Sound msgType msg₀ w₀ := fun hs => hs.intact (hi.symm.trans hbad)
    cases hc : checkIntegrity st.msg st.msgLength w with
    | done rc w' =>
      rw [hc] at hk
      rw [bind_done hc]
      exact ⟨hw.drained hl hk, hw.taken hl hk, fun _ => .inr ⟨_, _, hi.symm.trans hbad⟩,
        fun hs => absurd hs hns⟩
    | blocked w' =>
      rw [hc] at hk
      rw [bind_blocked hc]
      exact ⟨hw.drained hl hk, hw.taken hl hk, hns⟩
  · rw [bind_done (by rw [checkIntegrity_apply, if_neg hbad])]
    have hidle : StoredBelow 0 w w := Std.Refl.refl w
    refine ⟨hw.drained hl hidle, hw.taken hl hidle, fun hrc => absurd hrc hbad, fun _ =>
      ⟨?_, ?_, hw.ctx, hw.tx, hw.flows.2, ?_⟩⟩
    · rw [hi, hmsg]
    · rw [hw.rx, hn]
    · rw [← hn]
      exact hw.used

lemma receiveMore_starved (h0 : st.lengthToRead ≠ 0)
    (hl : storeLimit msgType msg₀ w₀ ≤ st.msgLength) :
    Triple (Flowing msgType msg₀ w₀ st) (receiveMore msgType st)
      (Arriving msgType msg₀ w₀ st) (Starved msgType msg₀ w₀) := by
  refine .from_state fun w hw => ?_
  rintro _ rfl
  obtain ⟨heq, hrx, hns⟩ := hw.exhausted h0 hl
  rw [receiveMore, bind_getCtx]
  cases hs : w.script with
  | nil =>
    rw [bind_blocked (backendSelect_nil hs st.pTv)]
    have hidle : StoredBelow 0 w { w with trace := w.trace ++ [.select w.ctx.s] } :=
      Silent.call w _ rfl
    exact ⟨hw.drained heq hidle, hw.taken heq hidle, hns⟩
  | cons r rest =>
    have hall : ∀ r' ∈ r :: rest, r'.Lossless := hs ▸ hw.flows.2
    rw [bind_done (backendSelect_flows hs (hall r List.mem_cons_self) st.pTv)]
    dsimp only
    rw [if_neg (by decide)]
    obtain ⟨w', hb⟩ := backendRecv_starved
      (w := { w with script := rest, trace := w.trace ++ [.select w.ctx.s] })
      (fun r' hr' => hall r' (List.mem_cons_of_mem _ hr')) st.msg st.msgLength st.lengthToRead hrx
    have hi := (backendRecv_triple st.msg st.msgLength st.lengthToRead _).blocked rfl hb
    rw [bind_blocked hb]
    have hsel : StoredBelow 0 w { w with script := rest, trace := w.trace ++ [.select w.ctx.s] } :=
      Silent.call (R := StoredBelow 0) w _ rfl
    have hidle : StoredBelow 0 w w' := IsTrans.trans _ _ _ hsel hi.stored
    exact ⟨hw.drained heq hidle, hw.taken heq hidle, hns⟩

lemma receiveMore_accept {w₁ w₂ : World} {pTv : Option Timeval} {chunk : List UInt8}
    (hsel : backendSelect st.pTv w = .done (1, pTv) w₁)
    (hrecv : backendRecv st.msg st.msgLength st.lengthToRead w₁ =
      .done ((chunk.length : ℤ), st.msg.write st.msgLength chunk) w₂) (hpos : 0 < chunk.length) :
    receiveMore msgType st w =
      match Receiving.accept w.ctx.backend msgType { st with pTv } chunk with
      | none => .done (.inr (-1, st.msg.write st.msgLength chunk)) { w₂ with errno := embbaddata }
      | some st' => .done (.inl { st' with
          pTv := if st'.lengthToRead > 0 ∧ w.ctx.byteTimeout.sec ≠ -1 then some w.ctx.byteTimeout
            else st'.pTv }) w₂ := by
  rw [receiveMore, bind_getCtx, bind_done hsel]
  dsimp only
  rw [if_neg (by decide), bind_done hrecv]
  dsimp only
  rw [if_neg (by omega), if_neg (by omega)]
  change (match Receiving.accept w.ctx.backend msgType { st with pTv } chunk with
    | none => setErrno embbaddata >>= fun _ =>
      (pure (Sum.inr (-1, st.msg.write st.msgLength chunk)) : M (Receiving ⊕ (ℤ × Mem UInt8)))
    | some st => pure (Sum.inl { st with
        pTv := if st.lengthToRead > 0 ∧ w.ctx.byteTimeout.sec ≠ -1 then some w.ctx.byteTimeout
          else st.pTv })) w₂ = _
  cases Receiving.accept w.ctx.backend msgType { st with pTv } chunk with
  | none => rfl
  | some st' => rfl

lemma receive_flows (h0 : st.lengthToRead ≠ 0) (hrx : w.rx ≠ []) (hf : Flows 2 w.script) :
    ∃ pTv chunk w₁ w₂, backendSelect st.pTv w = .done (1, pTv) w₁ ∧
      backendRecv st.msg st.msgLength st.lengthToRead w₁ =
        .done ((chunk.length : ℤ), st.msg.write st.msgLength chunk) w₂ ∧
      0 < chunk.length ∧ chunk.length ≤ st.lengthToRead ∧ Delivers st.msgLength chunk w w₂ ∧
      w₂.script = w.script.drop 2 ∧ w₂.trace = w.trace ++
        [.select w.ctx.s, .recv w.ctx.s, .stored st.msgLength chunk.length] := by
  obtain ⟨r₁, rest₁, hs, hr₁, hf⟩ := hf.cases
  obtain ⟨r₂, rest₂, rfl, hr₂, hf⟩ := hf.cases
  obtain ⟨n, hn⟩ := hr₂.recv
  refine ⟨_, w.rx.take (max 1 (min n st.lengthToRead)), _, _, backendSelect_flows hs hr₁ st.pTv,
    backendRecv_flows rfl hn st.msg st.msgLength st.lengthToRead hrx, ?_, ?_,
    ⟨?_, rfl, rfl, ⟨[.select w.ctx.s, .recv w.ctx.s,
      .stored st.msgLength (w.rx.take (max 1 (min n st.lengthToRead))).length], ?_, fun o k hm => ?_⟩,
      ⟨[.select w.ctx.s, .recv w.ctx.s,
        .stored st.msgLength (w.rx.take (max 1 (min n st.lengthToRead))).length], ?_, ?_⟩, ?_, ?_⟩, ?_, ?_⟩
  · rw [List.length_pos_iff, Ne, List.take_eq_nil_iff]
    push Not
    exact ⟨by omega, hrx⟩
  · rw [List.length_take]
    omega
  · exact (List.prefix_iff_eq_append.mp (List.take_prefix _ _)).symm
  · simp
  · simp only [List.mem_cons, reduceCtorEq, Call.stored.injEq, List.not_mem_nil, false_or,
      or_false] at hm
    rw [hm.1, hm.2]
  · simp
  · simp [Call.storedLength]
  · rw [Shrinks, hs]
    exact (List.suffix_cons _ _).trans (List.suffix_cons _ _)
  · rw [hs]
    exact Nat.lt_add_of_pos_right (by decide : 0 < 2)
  · rw [hs]
    rfl
  · simp

lemma receiveMore_flows (h0 : st.lengthToRead ≠ 0) (hl : st.msgLength < storeLimit msgType msg₀ w₀) :
    Triple (Flowing msgType msg₀ w₀ st) (receiveMore msgType st)
      (Arriving msgType msg₀ w₀ st) (Starved msgType msg₀ w₀) := by
  refine .from_state fun w hw => ?_
  rintro _ rfl
  have hrx : w.rx ≠ [] := by
    rw [hw.rx, Ne, List.drop_eq_nil_iff]
    have : storeLimit msgType msg₀ w₀ ≤ w₀.rx.length := min_le_left _ _
    omega
  obtain ⟨pTv, chunk, w₁, w₂, hsel, hrecv, hpos, hc, hd, hscript, htrace⟩ :=
    receive_flows h0 hrx (hw.flows.mono (by omega))
  have hupTo : StoredUpTo (st.msgLength + chunk.length) w₀ w₂ := by
    obtain ⟨calls, hcalls, -⟩ := hw.stored
    refine ⟨calls ++ [.select w.ctx.s, .recv w.ctx.s, .stored st.msgLength chunk.length],
      st.msgLength, chunk.length, ?_, by simp, rfl⟩
    rw [htrace, hcalls, List.append_assoc]
  have hlen : w₂.script.length = w.script.length - 2 := by rw [hscript, List.length_drop]
  have hsub : ∀ r ∈ w₂.script, r.Lossless :=
    fun r hr => hw.flows.2 r (List.mem_of_mem_drop (hscript ▸ hr))
  rw [receiveMore_accept hsel hrecv hpos, hw.ctx]
  cases ha : Receiving.accept w₀.ctx.backend msgType { st with pTv } chunk with
  | none =>
    obtain ⟨hhead, hlong⟩ := (hw.timeout pTv).tooLong hc hd ha
    obtain ⟨hle, -, -⟩ := hw.extend hd.rx
    dsimp only at hhead
    have hlim : storeLimit msgType msg₀ w₀ = st.msgLength + chunk.length := by
      rw [storeLimit, reach, if_neg (by omega), ← hhead, Nat.min_eq_right hle]
    have hset : StoredBelow 0 w₂ { w₂ with errno := embbaddata } := Silent.errno w₂ embbaddata
    refine ⟨fun _ => ?_, ?_, fun _ => .inl ⟨by omega, hlong⟩,
      fun hsound => absurd hsound.allowed (Nat.not_le.mpr hlong)⟩
    · rw [hlim]
      exact hupTo.later hset
    · rw [hlim]
      exact (hw.took.trans hd.took).trans hset.took
  | some st' =>
    have hread := (hw.timeout pTv).accepted hc hd ha
    obtain ⟨-, -, hmore⟩ := Receiving.accept_inv (hw.timeout pTv).inv hc ha
    dsimp only at hmore
    have hfl := hw.flows.1
    have hus := hw.used
    refine ⟨⟨hread.timeout _, ⟨?_, hsub⟩, ?_, fun _ => ?_⟩, ?_⟩ <;> dsimp only <;> rw [hmore]
    · omega
    · omega
    · exact hupTo
    · omega

lemma receiveMsgStep_flows (st : Receiving) :
    Triple (Flowing msgType msg₀ w₀ st) (receiveMsgStep msgType st)
      (Arriving msgType msg₀ w₀ st) (Starved msgType msg₀ w₀) := by
  refine .ite delivered_finished fun h0 => ?_
  by_cases hl : storeLimit msgType msg₀ w₀ ≤ st.msgLength
  · exact receiveMore_starved h0 hl
  · exact receiveMore_flows h0 (by omega)

lemma receiveMsg_flows (msgType : MsgType) (msg : Mem UInt8) (w : World)
    (hf : Flows (2 * storeLimit msgType msg w) w.script) :
    Triple (w = ·) (receiveMsg msgType msg) (Delivered msgType msg w) (Starved msgType msg w) := by
  rintro _ rfl
  refine Triple.iterate_decreasing (I := Flowing msgType msg w) (Q := Delivered msgType msg w)
    (fun st => storeLimit msgType msg w - st.msgLength) receiveMsgStep_flows ?_ w ?_
  · have := hf.1
    dsimp only
    omega
  · exact ⟨reading_start _, hf, Nat.le_add_right _ _, fun h => absurd h (Nat.lt_irrefl 0)⟩

end Runs

end LibModbus
