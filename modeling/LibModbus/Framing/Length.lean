import LibModbus.Model.Messages

/-! The length of a message as its own bytes give it, and the three steps of the receive loop. -/

namespace LibModbus

open Library

def headLength (b : Backend) (msgType : MsgType) (msg : Mem UInt8) : ℕ :=
  b.headerLength + 1 + computeMetaLengthAfterFunction (msg b.headerLength).toNat msgType

def frameLength (b : Backend) (msgType : MsgType) (msg : Mem UInt8) : ℕ :=
  headLength b msgType msg + computeDataLengthAfterMeta b msg msgType

lemma checksumLength_le_frameLength (b : Backend) (msgType : MsgType) (msg : Mem UInt8) :
    b.checksumLength ≤ frameLength b msgType msg := by
  rw [frameLength, computeDataLengthAfterMeta]
  omega

section Congruence

variable {b : Backend} {msgType : MsgType} {m m' : Mem UInt8}

lemma headLength_congr (h : m b.headerLength = m' b.headerLength) :
    headLength b msgType m = headLength b msgType m' := by
  rw [headLength, headLength, h]

lemma header_lt_headLength : b.headerLength < headLength b msgType m := by
  unfold headLength
  omega

lemma headLength_le_frameLength : headLength b msgType m ≤ frameLength b msgType m :=
  Nat.le_add_right _ _

lemma computeDataLength_congr (h : ∀ j < headLength b msgType m, m j = m' j) :
    computeDataLength b m msgType = computeDataLength b m' msgType := by
  have hf : m b.headerLength = m' b.headerLength := h _ header_lt_headLength
  cases msgType with
  | indication =>
    simp only [computeDataLength, ← hf]
    split_ifs with h₁ h₂
    · rw [h _ (by rcases h₁ with h₁ | h₁ <;> simp [headLength, computeMetaLengthAfterFunction, h₁])]
    · rw [h _ (by simp [headLength, computeMetaLengthAfterFunction, h₂])]
    · rfl
  | confirmation =>
    simp only [computeDataLength, ← hf]
    split_ifs with h₁
    · have h₂ : computeMetaLengthAfterFunction (m b.headerLength).toNat .confirmation = 1 := by
        rw [computeMetaLengthAfterFunction, if_neg]
        simp at h₁ ⊢
        omega
      rw [h _ (by simp [headLength, h₂])]
    · rfl

lemma frameLength_congr (h : ∀ j < headLength b msgType m, m j = m' j) :
    frameLength b msgType m = frameLength b msgType m' := by
  unfold frameLength computeDataLengthAfterMeta
  rw [headLength_congr (h _ header_lt_headLength), computeDataLength_congr h]

end Congruence

namespace Receiving

/-- Where the loop stands: how many bytes the current step asks for in all, and which part of the
message it has seen already. -/
def Inv (b : Backend) (msgType : MsgType) (st : Receiving) : Prop :=
  match st.step with
  | .function => st.msgLength + st.lengthToRead = b.headerLength + 1 ∧ 0 < st.lengthToRead
  | .metadata => st.msgLength + st.lengthToRead = headLength b msgType st.msg ∧
      b.headerLength < st.msgLength ∧ 0 < st.lengthToRead
  | .data => st.msgLength + st.lengthToRead = frameLength b msgType st.msg ∧
      headLength b msgType st.msg ≤ st.msgLength ∧ frameLength b msgType st.msg ≤ b.maxAduLength

def put (st : Receiving) (chunk : List UInt8) : Receiving :=
  { st with
    msg := st.msg.write st.msgLength chunk
    msgLength := st.msgLength + chunk.length
    lengthToRead := st.lengthToRead - chunk.length }

def accept (b : Backend) (msgType : MsgType) (st : Receiving) (chunk : List UInt8) :
    Option Receiving :=
  if (st.put chunk).lengthToRead = 0 then (st.put chunk).advance b msgType
  else some (st.put chunk)

lemma inv_start (b : Backend) (msgType : MsgType) (msg : Mem UInt8) (pTv : Option Timeval) :
    Inv b msgType ⟨.function, b.headerLength + 1, 0, msg, pTv⟩ := by
  simp [Inv]

variable {b : Backend} {msgType : MsgType} {st st' : Receiving} {chunk : List UInt8}

lemma Inv.bound (h : st.Inv b msgType) : st.msgLength + st.lengthToRead ≤ b.maxAduLength := by
  unfold Inv at h
  cases hs : st.step <;> rw [hs] at h
  · cases b <;> simp at * <;> omega
  · have hm : computeMetaLengthAfterFunction (st.msg b.headerLength).toNat msgType ≤ 9 := by
      cases msgType <;> simp only [computeMetaLengthAfterFunction] <;> split_ifs <;> omega
    simp only [headLength] at h
    cases b <;> simp at * <;> omega
  · omega

lemma Inv.finished (h : st.Inv b msgType) (h0 : st.lengthToRead = 0) :
    st.msgLength = frameLength b msgType st.msg ∧ st.msgLength ≤ b.maxAduLength := by
  have hb := h.bound
  unfold Inv at h
  cases hs : st.step <;> rw [hs] at h <;> simp only [h0] at h hb <;> omega

lemma inv_put (h : st.Inv b msgType) (hc : chunk.length ≤ st.lengthToRead)
    (h0 : (st.put chunk).lengthToRead ≠ 0) : (st.put chunk).Inv b msgType := by
  have hlt : chunk.length < st.lengthToRead := by
    simp only [put] at h0
    omega
  unfold Inv at h ⊢
  simp only [put]
  cases hs : st.step <;> rw [hs] at h <;> dsimp only at h ⊢
  · omega
  · have hh : headLength b msgType (st.msg.write st.msgLength chunk) = headLength b msgType st.msg :=
      headLength_congr (Mem.write_below _ _ h.2.1)
    omega
  · have hb : ∀ j < headLength b msgType st.msg, st.msg j = st.msg.write st.msgLength chunk j :=
      fun j hj => (Mem.write_below _ _ (by omega)).symm
    rw [← frameLength_congr hb, ← headLength_congr (hb _ header_lt_headLength)]
    omega

lemma advance_put (h : st.Inv b msgType) (hc : chunk.length = st.lengthToRead)
    (ha : (st.put chunk).advance b msgType = some st') :
    st'.Inv b msgType ∧ st'.msg = (st.put chunk).msg ∧ st'.msgLength = (st.put chunk).msgLength := by
  have hlen : (st.put chunk).msgLength = st.msgLength + st.lengthToRead := by rw [← hc]; rfl
  have hafter : ∀ st'', (if (st.put chunk).msgLength +
      computeDataLengthAfterMeta b (st.put chunk).msg msgType > b.maxAduLength then none
      else some { st.put chunk with
        step := .data
        lengthToRead := computeDataLengthAfterMeta b (st.put chunk).msg msgType }) = some st'' →
      (st.put chunk).msgLength = headLength b msgType (st.put chunk).msg →
      st''.Inv b msgType ∧ st''.msg = (st.put chunk).msg ∧
        st''.msgLength = (st.put chunk).msgLength := by
    intro st'' hif hhead
    split_ifs at hif with hmax
    obtain rfl := Option.some.inj hif
    refine ⟨?_, rfl, rfl⟩
    simp only [Inv, frameLength]
    omega
  unfold Inv at h
  unfold advance at ha
  cases hs : st.step <;> rw [hs] at h <;> simp only [show (st.put chunk).step = st.step from rfl, hs] at ha
  · dsimp only at h
    split_ifs at ha with hmeta hmax
    · obtain rfl := Option.some.inj ha
      refine ⟨?_, rfl, rfl⟩
      simp only [Inv, headLength]
      omega
    · exact hafter st' (by rwa [if_neg hmax]) (by simp only [headLength]; omega)
  · apply hafter st' ha
    dsimp only at h
    rw [hlen, h.1]
    exact headLength_congr (Mem.write_below _ _ h.2.1).symm
  · obtain rfl := Option.some.inj ha
    have hb : ∀ j < headLength b msgType st.msg, st.msg j = (st.put chunk).msg j :=
      fun j hj => (Mem.write_below _ _ (by omega)).symm
    refine ⟨?_, rfl, rfl⟩
    simp only [Inv, show (st.put chunk).step = st.step from rfl, hs]
    rw [← frameLength_congr hb, ← headLength_congr (hb _ header_lt_headLength)]
    simp only [put]
    omega

lemma accept_inv (h : st.Inv b msgType) (hc : chunk.length ≤ st.lengthToRead)
    (ha : st.accept b msgType chunk = some st') :
    st'.Inv b msgType ∧ st'.msg = st.msg.write st.msgLength chunk ∧
      st'.msgLength = st.msgLength + chunk.length := by
  unfold accept at ha
  split_ifs at ha with h0
  · exact advance_put h (by simp only [put] at h0; omega) ha
  · obtain rfl := Option.some.inj ha
    exact ⟨inv_put h hc h0, rfl, rfl⟩

lemma accept_none (h : st.Inv b msgType) (hc : chunk.length ≤ st.lengthToRead)
    (ha : st.accept b msgType chunk = none) :
    b.maxAduLength < frameLength b msgType (st.msg.write st.msgLength chunk) ∧
      headLength b msgType (st.msg.write st.msgLength chunk) = st.msgLength + chunk.length := by
  unfold accept at ha
  split_ifs at ha with h0
  have hlen : chunk.length = st.lengthToRead := by simp only [put] at h0; omega
  unfold Inv at h
  unfold advance at ha
  cases hs : st.step <;> rw [hs] at h <;> simp only [show (st.put chunk).step = st.step from rfl, hs] at ha
  · dsimp only at h
    split_ifs at ha with hmeta hmax
    simp only [put] at hmeta hmax
    simp only [frameLength, headLength]
    omega
  · dsimp only at h
    have hh : headLength b msgType (st.msg.write st.msgLength chunk) = headLength b msgType st.msg :=
      headLength_congr (Mem.write_below _ _ h.2.1)
    split_ifs at ha with hmax
    simp only [put] at hmax
    simp only [frameLength]
    omega
  · exact absurd ha (by simp)

end Receiving

end LibModbus
