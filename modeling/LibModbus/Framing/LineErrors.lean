import LibModbus.Framing.Adu
import LibModbus.Framing.Crc

/-! Errors on a serial line. A message and its checksum leave nothing in the register, so what a damaged
message leaves in it is what the errors alone leave in an empty one. -/

namespace LibModbus

open Library ShiftRegister

section Serial

def serialBits (bytes : List UInt8) : List Bool :=
  bytes.flatMap fun b => (List.range 8).map b.toBitVec.getLsbD

abbrev crcRun : BitVec 16 → List Bool → BitVec 16 := run 0xA001#16

lemma serialBits_cons (b : UInt8) (bytes : List UInt8) :
    serialBits (b :: bytes) = (List.range 8).map b.toBitVec.getLsbD ++ serialBits bytes := rfl

lemma serialBits_append (as bs : List UInt8) :
    serialBits (as ++ bs) = serialBits as ++ serialBits bs :=
  List.flatMap_append

lemma serialBits_length (bytes : List UInt8) : (serialBits bytes).length = 8 * bytes.length := by
  induction bytes with
  | nil => rfl
  | cons b bytes ih =>
    rw [serialBits_cons, List.length_append, ih, List.length_map, List.length_range, List.length_cons]
    omega

lemma serialBits_getD (bytes : List UInt8) {i : ℕ} (hi : i < 8 * bytes.length) :
    (serialBits bytes).getD i false = (bytes.getD (i / 8) 0).toBitVec.getLsbD (i % 8) := by
  induction bytes generalizing i with
  | nil => exact absurd hi (Nat.not_lt_zero i)
  | cons b bytes ih =>
    rw [serialBits_cons]
    by_cases h8 : i < 8
    · rw [List.getD_append _ _ _ _ (by simpa using h8), Nat.div_eq_of_lt h8, Nat.mod_eq_of_lt h8,
        List.getD_eq_getElem _ _ (by simpa using h8), List.getElem_map, List.getElem_range]
      rfl
    · obtain ⟨k, rfl⟩ : ∃ k, i = k + 8 := ⟨i - 8, by omega⟩
      rw [List.length_cons] at hi
      rw [List.getD_append_right _ _ _ _ (by simp), List.length_map, List.length_range,
        Nat.add_sub_cancel, ih (by omega), Nat.add_div_right k (by decide), Nat.add_mod_right,
        List.getD_cons_succ]

lemma serialBits_xor {as bs : List UInt8} (h : as.length = bs.length) :
    serialBits (List.zipWith (· ^^^ ·) as bs) =
      List.zipWith (· ^^ ·) (serialBits as) (serialBits bs) := by
  induction as generalizing bs with
  | nil => rfl
  | cons a as ih =>
    obtain ⟨b, bs, rfl⟩ := List.exists_cons_of_length_eq_add_one h.symm
    have hbits : (List.range 8).map (a ^^^ b).toBitVec.getLsbD = List.zipWith (· ^^ ·)
        ((List.range 8).map a.toBitVec.getLsbD) ((List.range 8).map b.toBitVec.getLsbD) := by
      rw [List.zipWith_map, List.zipWith_self]
      refine List.map_congr_left fun i _ => ?_
      rw [UInt8.toBitVec_xor, BitVec.getLsbD_xor]
    rw [List.zipWith_cons_cons, serialBits_cons, serialBits_cons, serialBits_cons,
      List.zipWith_append (by simp), ih (by simpa using h), hbits]

lemma crcRun_byte (crc : BitVec 16) (b : UInt8) :
    crcRun crc ((List.range 8).map b.toBitVec.getLsbD) = crcByte crc b := by
  have hpack : pack 16 ((List.range 8).map b.toBitVec.getLsbD) = b.toBitVec.setWidth 16 := by
    apply BitVec.eq_of_getLsbD_eq
    intro i hi
    rw [getLsbD_pack _ hi, BitVec.getLsbD_setWidth, decide_eq_true hi, Bool.true_and]
    by_cases h8 : i < 8
    · rw [List.getD_eq_getElem _ _ (by simpa using h8), List.getElem_map, List.getElem_range]
    · rw [List.getD_eq_default _ _ (by simpa using h8), BitVec.getLsbD_of_ge _ _ (by omega)]
  rw [crcRun, run_eq_iterate _ _ (by simp), hpack, List.length_map, List.length_range, crcByte]

lemma crcRun_bytes (crc : BitVec 16) (bytes : List UInt8) :
    crcRun crc (serialBits bytes) = bytes.foldl crcByte crc := by
  induction bytes generalizing crc with
  | nil => rfl
  | cons b bytes ih =>
    rw [serialBits_cons, crcRun, run_append, List.foldl_cons, ← ih, ← crcRun_byte]

end Serial

section Detection

variable {msg e : List UInt8}

lemma crcRun_accepted {body : List UInt8} {hi lo : UInt8} (h : body.length < 65536)
    (hcrc : crc16 body = word hi lo) : crcRun 0xFFFF#16 (serialBits (body ++ [hi, lo])) = 0#16 := by
  rw [crc16_word h] at hcrc
  have hhi : @byteOf 2 (crcModbus body) 0 = hi := by
    rw [← hiByte_word hi lo, ← hcrc, hiByte_word]
  have hlo : @byteOf 2 (crcModbus body) 1 = lo := by
    rw [← loByte_word hi lo, ← hcrc, loByte_word]
  have hpack : pack 16 (serialBits [hi, lo]) = crcModbus body := by
    apply BitVec.eq_of_getLsbD_eq
    intro i h16
    have hbyte : [hi, lo].getD (i / 8) 0 = @byteOf 2 (crcModbus body) (i / 8) := by
      obtain h0 | h1 : i / 8 = 0 ∨ i / 8 = 1 := by omega
      · rw [h0, hhi]
        rfl
      · rw [h1, hlo]
        rfl
    have hbit := @testBit_byteOf 2 (crcModbus body) (i % 8) (i / 8) (Nat.mod_lt i (by decide))
    rw [Nat.div_add_mod] at hbit
    rw [getLsbD_pack _ h16, serialBits_getD _ h16, hbyte]
    exact hbit
  have hbody : run 0xA001#16 0xFFFF#16 (serialBits body) = crcModbus body := crcRun_bytes _ _
  have hzero : crcShift^[16] 0#16 = 0#16 := Function.iterate_fixed (shift_zero _) 16
  rw [serialBits_append, crcRun, run_append, hbody,
    run_eq_iterate _ _ (by rw [serialBits_length]; rfl), hpack, BitVec.xor_self, serialBits_length]
  exact hzero

lemma crcRun_unnoticed {m : Mem UInt8} (h : msg.length < 65536)
    (he : e.length = (rtuSendMsgPre msg).length)
    (hm : m.Holds (List.zipWith (· ^^^ ·) (rtuSendMsgPre msg) e))
    (hmatch : crcMatches m (rtuSendMsgPre msg).length = true) :
    crcRun 0#16 (serialBits e) = 0#16 := by
  have hlen : (rtuSendMsgPre msg).length = msg.length + 2 := by simp [rtuSendMsgPre]
  have hsent : crcRun 0xFFFF#16 (serialBits (rtuSendMsgPre msg)) = 0#16 :=
    crcRun_accepted h (word_bytes_nat (crc16_lt msg)).symm
  have hdamaged : crcRun 0xFFFF#16 (serialBits (List.zipWith (· ^^^ ·) (rtuSendMsgPre msg) e)) = 0#16 := by
    set damaged := List.zipWith (· ^^^ ·) (rtuSendMsgPre msg) e with hd
    have hdl : damaged.length = msg.length + 2 := by
      rw [hd, List.length_zipWith, he, hlen, Nat.min_self]
    rw [crcMatches, hlen, decide_eq_true_eq] at hmatch
    have hsplit : damaged = m.slice 0 msg.length ++ [m msg.length, m (msg.length + 1)] := by
      rw [← hm.slice, hdl]
      simp [Mem.slice, List.range_succ]
    rw [hsplit]
    exact crcRun_accepted (by rwa [Mem.slice_length]) hmatch
  rw [serialBits_xor he.symm, crcRun] at hdamaged
  have hbits : (serialBits (rtuSendMsgPre msg)).length = (serialBits e).length := by
    rw [serialBits_length, serialBits_length, he]
  have hxor := run_xor 0xA001#16 0xFFFF#16 0#16 hbits
  have hsent' : run 0xA001#16 0xFFFF#16 (serialBits (rtuSendMsgPre msg)) = 0#16 := hsent
  rw [BitVec.xor_zero, hdamaged, hsent', BitVec.zero_xor] at hxor
  exact hxor.symm

lemma odd_noticed (hodd : Odd ((serialBits e).count true)) : crcRun 0#16 (serialBits e) ≠ 0#16 := by
  intro hrun
  have hparity : parity 0xA001#16 = 1 := by decide +kernel
  have h := parity_run hparity 0#16 (serialBits e)
  have hzero : parity (run 0xA001#16 0#16 (serialBits e)) = 0 := by
    rw [show run 0xA001#16 0#16 (serialBits e) = 0#16 from hrun, parity_zero]
  rw [hzero, parity_zero, zero_add] at h
  rw [← Nat.not_even_iff_odd, ← ZMod.natCast_eq_zero_iff_even] at hodd
  exact hodd h.symm

/-- Some bits are set, within sixteen places. -/
def Burst (bits : List Bool) : Prop :=
  true ∈ bits ∧ ∃ k, ∀ i (h : i < bits.length), bits[i] = true → k ≤ i ∧ i < k + 16

lemma Burst.split {bits : List Bool} (h : Burst bits) : ∃ m window n,
    bits = List.replicate m false ++ (window ++ List.replicate n false) ∧ window.length ≤ 16 ∧
      true ∈ window := by
  obtain ⟨hmem, k, hk⟩ := h
  have hbefore : bits.take k = List.replicate (bits.take k).length false := by
    refine List.eq_replicate_iff.mpr ⟨rfl, fun b hb => ?_⟩
    obtain ⟨i, hi, rfl⟩ := List.getElem_of_mem hb
    rw [List.length_take] at hi
    rw [List.getElem_take]
    by_contra hne
    have := hk i (by omega) (by simpa using hne)
    omega
  have hafter : (bits.drop k).drop 16 = List.replicate ((bits.drop k).drop 16).length false := by
    refine List.eq_replicate_iff.mpr ⟨rfl, fun b hb => ?_⟩
    obtain ⟨i, hi, rfl⟩ := List.getElem_of_mem hb
    simp only [List.length_drop] at hi
    rw [List.getElem_drop, List.getElem_drop]
    by_contra hne
    have := hk (k + (16 + i)) (by omega) (by simpa using hne)
    omega
  have hsplit : bits = List.replicate (bits.take k).length false ++ ((bits.drop k).take 16 ++
      List.replicate ((bits.drop k).drop 16).length false) := by
    rw [← hbefore, ← hafter, List.take_append_drop, List.take_append_drop]
  refine ⟨_, _, _, hsplit, List.length_take_le _ _, ?_⟩
  rw [hsplit] at hmem
  simpa using hmem

lemma burst_noticed (h : Burst (serialBits e)) : crcRun 0#16 (serialBits e) ≠ 0#16 := by
  obtain ⟨m, window, n, hsplit, hlen, hmem⟩ := h.split
  rw [hsplit]
  exact run_window_ne_zero _ (by decide) hlen hmem m n

end Detection

/-- A message with its checksum in which an odd number of bits, or bits within sixteen places of each
other, were changed is accepted by no one. -/
theorem line_errors_noticed {msg e : List UInt8} {buf : Mem UInt8} {w w' : World}
    (hmsg : msg.length < 65534) (he : e.length = (rtuSendMsgPre msg).length)
    (herrors : Odd ((serialBits e).count true) ∨ Burst (serialBits e))
    (hb : w.ctx.backend = .rtu)
    (hbuf : buf.Holds (List.zipWith (· ^^^ ·) (rtuSendMsgPre msg) e)) :
    checkIntegrity buf (rtuSendMsgPre msg).length w ≠ .done ((rtuSendMsgPre msg).length : ℤ) w' := by
  have hmatch : crcMatches buf (rtuSendMsgPre msg).length = false := by
    by_contra hne
    have hzero := crcRun_unnoticed (by omega) he hbuf (by simpa using hne)
    rcases herrors with hodd | hburst
    · exact odd_noticed hodd hzero
    · exact burst_noticed hburst hzero
  have hpos : (rtuSendMsgPre msg).length ≠ 0 := by simp [rtuSendMsgPre]
  intro hdone
  rw [checkIntegrity_apply] at hdone
  split_ifs at hdone with hreject
  · have := rtuRejectChecksum_value hdone
    omega
  · have hvalue := (Outcome.done.inj hdone).1
    rw [integrity, hb] at hvalue
    dsimp only at hvalue
    rw [hmatch] at hvalue
    split_ifs at hvalue <;> omega

def damagedRequest : List UInt8 :=
  List.zipWith (· ^^^ ·) (rtuSendMsgPre [17, 3, 0, 0, 0, 1]) [0, 1, 0, 0, 0, 0, 0, 0]

theorem line_errors_noticed_example : ¬∃ w', checkIntegrity (Mem.write (fun _ => 0) 0 damagedRequest) 8
    (.start { modbusNewRtu with slave := 17 } [] []) = .done 8 w' := by
  rintro ⟨w', h⟩
  have hlen : (rtuSendMsgPre [17, 3, 0, 0, 0, 1]).length = 8 := sendMsgPre_length .rtu _
  have he : [0, 1, 0, 0, 0, 0, 0, 0].length = (rtuSendMsgPre [17, 3, 0, 0, 0, 1]).length := hlen.symm
  refine line_errors_noticed (by decide) he (.inl (by decide)) ?_
    (Mem.holds_write_self (fun _ => 0) damagedRequest) (hlen ▸ h)
  rfl

end LibModbus
