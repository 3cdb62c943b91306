import LibModbus.Framing.Delivery

/-! Whole messages as lists of bytes, and successive calls of `_modbus_receive_msg` over a stream
of them. -/

namespace LibModbus

open Library Library.Prog

/-- The bytes say themselves how many of them there are, and the backend allows that many. -/
structure IsFrame (b : Backend) (msgType : MsgType) (frame : List UInt8) : Prop where
  length {m : Mem UInt8} (hm : m.Holds frame) : frameLength b msgType m = frame.length
  allowed : frame.length ≤ b.maxAduLength

/-- The receiver takes the bytes to be meant for it and undamaged. -/
def Intact (ctx : Modbus) (frame : List UInt8) : Prop :=
  ∀ m : Mem UInt8, m.Holds frame → integrity ctx m frame.length = frame.length

lemma integrity_tcp {ctx : Modbus} (hb : ctx.backend ≠ .rtu) (m : Mem UInt8) (n : ℕ) :
    integrity ctx m n = n := by
  unfold integrity
  split
  · contradiction
  all_goals rfl

lemma intact_tcp {ctx : Modbus} (hb : ctx.backend ≠ .rtu) (frame : List UInt8) : Intact ctx frame :=
  fun m _ => integrity_tcp hb m frame.length

section Receive

variable {msgType : MsgType} {frame rest : List UInt8} {w : World}

lemma IsFrame.pos {b : Backend} (h : IsFrame b msgType frame) : 0 < frame.length := by
  rw [← h.length (Mem.holds_write_self (fun _ => 0) frame)]
  unfold frameLength headLength
  omega

lemma IsFrame.length_write {b : Backend} {buf : Mem UInt8} (h : IsFrame b msgType frame) :
    frame.length = frameLength b msgType (buf.write 0 frame) :=
  (h.length (Mem.holds_write_self buf frame)).symm

variable (hframe : IsFrame w.ctx.backend msgType frame) (hrx : w.rx = frame ++ rest)

include hframe hrx

lemma dueLength_frame (buf : Mem UInt8) : dueLength msgType buf w = frame.length := by
  rw [dueLength, hrx]
  exact hframe.length (Mem.holds_write buf frame rest)

lemma due_frame (buf : Mem UInt8) : due msgType buf w = buf.write 0 frame := by
  rw [due, dueLength_frame hframe hrx, hrx, List.take_left]

lemma sound_frame (hwhole : ∀ m : Mem UInt8, m.Holds frame → integrity w.ctx m frame.length ≠ -1)
    (buf : Mem UInt8) : Sound msgType buf w where
  allowed := by
    rw [dueLength_frame hframe hrx]
    exact hframe.allowed
  whole := by
    rw [dueLength_frame hframe hrx, hrx, List.length_append]
    exact Nat.le_add_right _ _
  intact := by
    rw [due_frame hframe hrx, dueLength_frame hframe hrx]
    exact hwhole _ (Mem.holds_write_self buf frame)

lemma receiveMsg_whole (hwhole : ∀ m : Mem UInt8, m.Holds frame → integrity w.ctx m frame.length ≠ -1)
    (buf : Mem UInt8) {n : ℕ} (hf : Flows (2 * frame.length + n) w.script) :
    ∃ w', receiveMsg msgType buf w =
        .done (integrity w.ctx (buf.write 0 frame) frame.length, buf.write 0 frame) w' ∧
      w'.rx = rest ∧ w'.ctx = w.ctx ∧ w'.tx = w.tx ∧ Flows n w'.script := by
  have hs := sound_frame hframe hrx hwhole buf
  have hd := dueLength_frame hframe hrx buf
  have ht := receiveMsg_flows msgType buf w (hf.mono (by rw [hs.limit, hd]; omega)) w rfl
  cases hr : receiveMsg msgType buf w with
  | blocked w' =>
    rw [hr] at ht
    exact absurd hs ht.unsound
  | done r w' =>
    rw [hr] at ht
    obtain ⟨hv, hrx', hctx, htx, hall, hlen⟩ := ht.sound hs
    rw [due_frame hframe hrx, hd] at hv
    rw [hd] at hrx' hlen
    refine ⟨w', by rw [hv], ?_, hctx, htx, ?_, hall⟩
    · rw [hrx', hrx, List.drop_left]
    · have := hf.1
      omega

lemma receiveMsg_frame (hintact : Intact w.ctx frame) (buf : Mem UInt8) {n : ℕ}
    (hf : Flows (2 * frame.length + n) w.script) :
    ∃ w', receiveMsg msgType buf w = .done ((frame.length : ℤ), buf.write 0 frame) w' ∧
      w'.rx = rest ∧ w'.ctx = w.ctx ∧ w'.tx = w.tx ∧ Flows n w'.script := by
  have hwhole (m : Mem UInt8) (hm : m.Holds frame) : integrity w.ctx m frame.length ≠ -1 := by
    rw [hintact m hm]
    omega
  have h := receiveMsg_whole hframe hrx hwhole buf hf
  rwa [hintact _ (Mem.holds_write_self buf frame)] at h

end Receive

section Partial

variable {b : Backend} {msgType : MsgType} {frame part : List UInt8}

lemma agrees_part (hp : part <+: frame) (buf : Mem UInt8) {j : ℕ} (hj : j < part.length) :
    buf.write 0 part j = buf.write 0 frame j := by
  rw [List.prefix_iff_eq_take.mp hp, Mem.write_take _ _ hj]

lemma IsFrame.length_part (h : IsFrame b msgType frame) (hp : part <+: frame) {buf : Mem UInt8}
    (hhead : headLength b msgType (buf.write 0 part) ≤ part.length) :
    frameLength b msgType (buf.write 0 part) = frame.length := by
  have hl : frame.length = frameLength b msgType (buf.write 0 frame) := h.length_write
  rw [hl]
  exact frameLength_congr fun j hj => agrees_part hp buf (hj.trans_le hhead)

lemma receiveMsg_part {w : World} (h : IsFrame w.ctx.backend msgType frame) (hp : w.rx <+: frame)
    (hlt : w.rx.length < frame.length) (hi : ∀ m n, integrity w.ctx m n ≠ -1) (buf : Mem UInt8)
    (hf : Flows (2 * frame.length) w.script) : ∃ w', receiveMsg msgType buf w = .blocked w' := by
  have hlim : storeLimit msgType buf w ≤ w.rx.length := Nat.min_le_left _ _
  have hd := receiveMsg_flows msgType buf w (hf.mono (by omega)) w rfl
  have hc := receiveMsg_triple msgType buf w w rfl
  cases hr : receiveMsg msgType buf w with
  | blocked w' => exact ⟨w', rfl⟩
  | done r w' =>
    rw [hr] at hd hc
    exfalso
    by_cases hrc : r.1 = -1
    · rcases hd.failed hrc with ⟨hhead, hlong⟩ | ⟨m, n, hbad⟩
      · rw [dueLength, h.length_part hp hhead] at hlong
        exact absurd h.allowed (Nat.not_le.mpr hlong)
      · exact hi m n hbad
    · obtain ⟨n, hn, -, hle, hmsg, -⟩ := hc.complete hrc
      rw [hmsg] at hn
      have hpart : w.rx.take n <+: frame := (List.take_prefix n _).trans hp
      have hlen : (w.rx.take n).length = n := by rw [List.length_take, Nat.min_eq_left hle]
      have hhead : headLength w.ctx.backend msgType (buf.write 0 (w.rx.take n)) ≤ n :=
        headLength_le_frameLength.trans hn.ge
      rw [h.length_part hpart (hhead.trans hlen.ge)] at hn
      omega

end Partial

/-- Successive calls, each with the array its caller passes: the results, and what each call left
in the first bytes of its array. -/
def receiveAll (msgType : MsgType) : List (Mem UInt8) → M (List (ℤ × List UInt8))
  | [] => return []
  | buf :: bufs => do
    let (rc, msg) ← receiveMsg msgType buf
    let results ← receiveAll msgType bufs
    return (rc, msg.slice 0 rc.toNat) :: results

lemma receiveAll_frames {msgType : MsgType} {frames : List (List UInt8)} {rest : List UInt8}
    {bufs : List (Mem UInt8)} (hbufs : bufs.length = frames.length) {w : World}
    (hframes : ∀ frame ∈ frames, IsFrame w.ctx.backend msgType frame)
    (hintact : ∀ frame ∈ frames, Intact w.ctx frame)
    (hrx : w.rx = frames.flatten ++ rest) (hf : Flows (2 * frames.flatten.length) w.script) :
    ∃ w', receiveAll msgType bufs w = .done (frames.map fun frame => ((frame.length : ℤ), frame)) w' ∧
      w'.rx = rest := by
  induction frames generalizing bufs w with
  | nil =>
    rw [List.length_eq_zero_iff.mp hbufs]
    exact ⟨w, rfl, hrx⟩
  | cons frame frames ih =>
    obtain ⟨buf, bufs, rfl⟩ := List.exists_cons_of_length_eq_add_one hbufs
    rw [List.flatten_cons, List.append_assoc] at hrx
    rw [List.flatten_cons, List.length_append, Nat.mul_add] at hf
    obtain ⟨w₁, hr, hrx₁, hctx, -, hf₁⟩ :=
      receiveMsg_frame (hframes _ List.mem_cons_self) hrx (hintact _ List.mem_cons_self) buf hf
    obtain ⟨w₂, hall, hrx₂⟩ := ih (by simpa using hbufs : bufs.length = frames.length)
      (fun f hm => hctx ▸ hframes f (List.mem_cons_of_mem _ hm))
      (fun f hm => hctx ▸ hintact f (List.mem_cons_of_mem _ hm)) hrx₁ hf₁
    refine ⟨w₂, ?_, hrx₂⟩
    rw [receiveAll, bind_done hr]
    dsimp only
    rw [bind_done hall, Int.toNat_natCast, (Mem.holds_write_self buf frame).slice]
    rfl

end LibModbus
