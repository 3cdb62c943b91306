import LibModbus.Client.Calls
import LibModbus.Framing.Delivery

/-! Where the answer of a peer is stored, whatever it is. -/

namespace LibModbus

open Library Library.Prog

lemma headLength_le (b : Backend) (msgType : MsgType) (msg : Mem UInt8) :
    headLength b msgType msg ≤ b.maxAduLength := by
  have hm : computeMetaLengthAfterFunction (msg b.headerLength).toNat msgType ≤ 9 := by
    cases msgType <;> simp only [computeMetaLengthAfterFunction] <;> split_ifs <;> omega
  rw [headLength, maxAduLength_eq, maxPduLength]
  omega

section Confirm

variable (call : ClientCall) (stack : Mem UInt8) (req : List UInt8) (dest : Dest)

def afterReceive (op : Operation) (req : List UInt8) (dest : Dest) (r : ℤ × Mem UInt8) :
    M (ℤ × Dest) := do
  let (rc, rsp) := r
  if rc = -1 then return (-1, dest)
  else do
    let rc ← checkConfirmation req rsp rc
    if rc = -1 then return (-1, dest)
    else do
      let ctx ← getCtx
      return (op.value rc, op.decode ctx.backend rc.toNat rsp dest)

lemma afterReceive_done {op : Operation} {q : ℤ × Mem UInt8} {v w' : World} {r : ℤ × Dest}
    (h : afterReceive op req dest q v = .done r w') :
    q.1 = -1 ∧ r = (-1, dest) ∧ w' = v ∨
      q.1 ≠ -1 ∧ ∃ m, checkConfirmation req q.2 q.1 v = .done m w' ∧
        (m = -1 ∧ r = (-1, dest) ∨
          m ≠ -1 ∧ r = (op.value m, op.decode w'.ctx.backend m.toNat q.2 dest)) := by
  rw [afterReceive] at h
  split_ifs at h with hq
  · obtain ⟨rfl, rfl⟩ := Outcome.done.inj h
    exact .inl ⟨hq, rfl, rfl⟩
  · obtain ⟨m, u, hcheck, h⟩ := bind_eq_done.mp h
    split_ifs at h with hm
    · obtain ⟨rfl, rfl⟩ := Outcome.done.inj h
      exact .inr ⟨hq, m, hcheck, .inl ⟨hm, rfl⟩⟩
    · rw [bind_getCtx] at h
      obtain ⟨rfl, rfl⟩ := Outcome.done.inj h
      exact .inr ⟨hq, m, hcheck, .inr ⟨hm, rfl⟩⟩

lemma confirm_eq (op : Operation) {rc : ℤ} (hrc : 0 < rc) : op.confirm stack rc req dest =
    receiveMsg .confirmation stack >>= afterReceive op req dest :=
  if_pos hrc

lemma afterReceive_keeps {R : World → World → Prop} [Quiet R] (op : Operation) (r : ℤ × Mem UInt8) :
    Keeps R (afterReceive op req dest r) := by
  refine .ite (.pure _) (.bind (Neutral.checkConfirmation _ _ _) fun rc => .ite (.pure _) ?_)
  exact .bind Neutral.getCtx fun _ => .pure _

lemma confirm_keeps (op : Operation) (stack : Mem UInt8) (rc : ℤ) (req : List UInt8) (dest : Dest) :
    Keeps Unsent (op.confirm stack rc req dest) := by
  by_cases hrc : 0 < rc
  · rw [confirm_eq stack req dest op hrc]
    refine .bind (Neutral.receiveMsg (fun w o n => ⟨rfl, rfl⟩) _ _) fun r => ?_
    exact afterReceive_keeps req dest op r
  · unfold Operation.confirm
    rw [if_neg hrc]
    exact .pure _

lemma confirm_received {op : Operation} {k : ℤ} (hk : 0 < k) (w : World) :
    (∃ q v, Received .confirmation stack w q v ∧
      op.confirm stack k req dest w = afterReceive op req dest q v ∧
      Took 0 v (op.confirm stack k req dest w).state) ∨
    ∃ w', op.confirm stack k req dest w = .blocked w' ∧ Stalled .confirmation stack w w' := by
  rw [confirm_eq stack req dest op hk]
  cases hq : receiveMsg .confirmation stack w with
  | done q v =>
    have hkeeps : Keeps (StoredBelow 0) (afterReceive op req dest q) :=
      afterReceive_keeps req dest op q
    refine .inl ⟨q, v, (receiveMsg_triple .confirmation stack w).done rfl hq, ?_⟩
    rw [bind_done hq]
    exact ⟨rfl, (hkeeps v).took⟩
  | blocked w' =>
    exact .inr ⟨w', bind_blocked hq _, (receiveMsg_triple .confirmation stack w).blocked rfl hq⟩

lemma confirm_stored {rc : ℤ} (hrc : 0 < rc) (w : World) :
    StoredBelow (storeLimit .confirmation stack w) w
      (call.operation.confirm stack rc req dest w).state := by
  rw [confirm_eq stack req dest _ hrc]
  have hr := receiveMsg_triple .confirmation stack w w rfl
  cases h : receiveMsg .confirmation stack w with
  | blocked w' =>
    rw [h] at hr
    rw [bind_blocked h]
    exact hr.outside.2
  | done r w' =>
    rw [h] at hr
    rw [bind_done h]
    exact IsTrans.trans _ _ _ hr.outside.2
      (afterReceive_keeps req dest _ r w')

lemma confirm_drained {rc : ℤ} (hrc : 0 < rc) (w : World)
    (hf : Flows (2 * storeLimit .confirmation stack w) w.script) :
    Drained .confirmation stack w (call.operation.confirm stack rc req dest w).state := by
  rw [confirm_eq stack req dest _ hrc]
  have hr := receiveMsg_flows .confirmation stack w hf w rfl
  cases h : receiveMsg .confirmation stack w with
  | blocked w' =>
    rw [h] at hr
    rw [bind_blocked h]
    exact hr.1
  | done r w' =>
    rw [h] at hr
    rw [bind_done h]
    have hk : StoredBelow 0 w' (afterReceive call.operation req dest r w').state :=
      afterReceive_keeps req dest call.operation r w'
    exact fun hpos => (hr.drained hpos).later hk

/-- However the system delivers an answer, what is stored of it stays inside the array `rsp` if and
only if the answer is no longer than that by its own account, or breaks off before. -/
theorem confirm_stores_within_iff {rc : ℤ} (hrc : 0 < rc) (w : World) :
    (∀ script, StoredBelow call.operation.rspSize { w with script }
      (call.operation.confirm stack rc req dest { w with script }).state) ↔
    min w.rx.length (reach w.ctx.backend .confirmation (stack.write 0 w.rx)) ≤
      call.operation.rspSize := by
  constructor
  · intro h
    rcases Nat.eq_zero_or_pos (storeLimit .confirmation stack w) with h0 | hpos
    · exact h0.trans_le (Nat.zero_le _)
    obtain ⟨calls, ht, hs⟩ := h (List.replicate (2 * storeLimit .confirmation stack w) {})
    obtain ⟨calls', o, n, ht', hm, hon⟩ := confirm_drained call stack req dest hrc
      { w with script := List.replicate (2 * storeLimit .confirmation stack w) {} }
      (flows_replicate _) hpos
    rw [ht] at ht'
    rw [List.append_cancel_left ht'] at hs
    have := hs o n hm
    exact hon.symm.trans_le this
  · intro h script
    exact (confirm_stored call stack req dest hrc { w with script }).mono h

def longAnswer : List UInt8 := [0, 1, 0, 0, 0, 7, 0xFF, 3, 4, 0, 0, 0, 0]

/-- It runs over the end of the twelve bytes that `write_single` passes. -/
theorem confirm_overruns :
    ¬StoredBelow (modbusWriteBit 0 1).rspSize
      (World.start modbusNewTcp longAnswer (List.replicate 10 {}))
      ((modbusWriteBit 0 1).run (fun _ => 0) ⟨fun _ => 0, fun _ => 0⟩
        (World.start modbusNewTcp longAnswer (List.replicate 10 {}))).state := by
  rintro ⟨calls, ht, hs⟩
  have hm : Call.stored 9 4 ∈ ((modbusWriteBit 0 1).run (fun _ => 0) ⟨fun _ => 0, fun _ => 0⟩
      (World.start modbusNewTcp longAnswer (List.replicate 10 {}))).state.trace := by
    decide +kernel
  rw [ht] at hm
  have hle := hs 9 4 hm
  revert hle
  decide

theorem confirm_stores_within_iff_example :
    (∀ script, StoredBelow 12 { World.start modbusNewTcp longAnswer [] with script }
      ((modbusWriteBit 0 1).confirm (fun _ => 0) 12 [] ⟨fun _ => 0, fun _ => 0⟩
        { World.start modbusNewTcp longAnswer [] with script }).state) ↔
    min 13 (reach .tcp .confirmation (Mem.write (fun _ => 0) 0 longAnswer)) ≤ 12 :=
  confirm_stores_within_iff (.writeBit 0 1) (fun _ => 0) [] ⟨fun _ => 0, fun _ => 0⟩ (by decide)
    (World.start modbusNewTcp longAnswer [])

end Confirm

end LibModbus
