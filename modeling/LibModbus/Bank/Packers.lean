import LibModbus.Client.Loops
import LibModbus.Server.BitTables

/-! The three loops that pack an array of flags into bytes: those of `response_io_status`,
`modbus_write_bits` and `modbus_get_byte_from_bits`. -/

namespace LibModbus

open Library

section Response

variable {a : Mem UInt8} {index nb : ℕ}

lemma responseIoStatusLoop_group {shift n : ℕ} (hs : shift < 8) (hmore : shift ≠ 0 ∨ n ≠ 0) (byte : ℕ) :
    (responseIoStatusLoop a n (index + shift) shift byte).1 =
      getByteFromBitsLoop a index (min n (8 - shift)) shift (UInt8.ofNat byte) ::
        (responseIoStatusLoop a (n - (8 - shift)) (index + 8) 0 0).1 := by
  induction n generalizing shift byte with
  | zero =>
    have hshift : shift ≠ 0 := hmore.resolve_right (not_not.mpr rfl)
    rw [responseIoStatusLoop, if_pos hshift, Nat.zero_min, Nat.zero_sub]
    rfl
  | succ n ih =>
    rw [responseIoStatusLoop, show min (n + 1) (8 - shift) = min n (7 - shift) + 1 by omega,
      getByteFromBitsLoop, ← UInt8.ofNat_or]
    by_cases hfull : shift = 7
    · subst hfull
      rw [if_pos rfl, Nat.sub_self, Nat.min_zero, getByteFromBitsLoop]
      rfl
    · have hnext := @ih (shift + 1) (by omega) (.inl (Nat.succ_ne_zero shift))
        (byte ||| (a (index + shift)).toNat <<< shift)
      rw [if_neg hfull]
      dsimp only
      rw [Nat.add_assoc, hnext, show 8 - (shift + 1) = 7 - shift by omega,
        show n - (7 - shift) = n + 1 - (8 - shift) by omega]

def bitGroups (ndebug : Bool) (src : Mem UInt8) (index nb : ℕ) : List (Option UInt8) :=
  (List.range ((nb + 7) / 8)).map fun k =>
    modbusGetByteFromBits ndebug src (index + 8 * k) (min 8 (nb - 8 * k))

def groupByte (src : Mem UInt8) (index nb k : ℕ) : UInt8 :=
  getByteFromBitsLoop src (index + 8 * k) (min 8 (nb - 8 * k)) 0 0

lemma bitGroups_eq (ndebug : Bool) : bitGroups ndebug a index nb =
    (List.range ((nb + 7) / 8)).map fun k => some (groupByte a index nb k) :=
  List.map_congr_left fun _ _ => modbusGetByteFromBits_eq ndebug (Nat.min_le_left _ _)

lemma responseIoStatus_groups : (responseIoStatus index nb a).1 =
    (List.range ((nb + 7) / 8)).map (groupByte a index nb) := by
  generalize hm : (nb + 7) / 8 = m
  induction m generalizing index nb with
  | zero =>
    obtain rfl : nb = 0 := by omega
    rfl
  | succ m ih =>
    have hgroup := @responseIoStatusLoop_group a index 0 nb (by omega) (.inr (by omega)) 0
    rw [responseIoStatus, ← Nat.add_zero index, hgroup, ← responseIoStatus, ih (by omega),
      List.range_succ_eq_map, List.map_cons, List.map_map]
    congr 1
    · rw [groupByte, Nat.min_comm]
      rfl
    · apply List.map_congr_left
      intro k _
      rw [Function.comp_apply, groupByte, groupByte,
        show index + 8 + 8 * k = index + 0 + 8 * (k + 1) by omega, show nb - (8 - 0) - 8 * k = nb - 8 * (k + 1) by omega]

end Response

section Request

variable {nb : ℕ}

lemma packBitsLoop_rest (src : Mem UInt8) (n k : ℕ) (byte : UInt8) (bitCheck pos : ℕ) (hn : n + k = 9)
    (hk : k ≤ 8) {j : ℕ} (hkj : k ≤ j) (hj : j < 8) (hrest : nb ≤ bitCheck + (j - k)) :
    (packBitsLoop nb src n (2 ^ k) byte bitCheck pos).1.toNat.testBit j = byte.toNat.testBit j := by
  induction n generalizing k byte bitCheck pos with
  | zero => omega
  | succ n ih =>
    rw [packBitsLoop, if_pos ((mask_ne_zero hk).mpr (by omega))]
    by_cases hleft : bitCheck < nb
    · have hne : j ≠ k := by omega
      rw [if_pos (by exact_mod_cast hleft), two_pow_shiftLeft]
      apply (ih (k + 1) _ (bitCheck + 1) (pos + 1) (by omega) (by omega) (by omega) (by omega)).trans
      rw [testBit_pack _ (by omega) hj, if_neg hne]
    · rw [if_neg (by exact_mod_cast hleft)]

def packedByte (nb : ℕ) (src : Mem UInt8) (pos : ℕ) : UInt8 := (packBitsLoop nb src 9 1 0 pos pos).1

lemma packedByte_bit (src : Mem UInt8) (pos : ℕ) {s : ℕ} (hs : s < 8) :
    (packedByte nb src pos).toNat.testBit s = true ↔ pos + s < nb ∧ src (pos + s) ≠ 0 := by
  have hloop := @packBitsLoop_eq nb src 9 0 0 pos pos (by omega) (by omega)
  by_cases hlt : pos + s < nb
  · have hbit := hloop.2.1 s (Nat.zero_le s) hs (by omega)
    rw [Nat.pow_zero, Nat.sub_zero] at hbit
    rw [packedByte, hbit, decide_eq_true_eq, and_iff_right hlt]
  · have hbit := @packBitsLoop_rest nb src 9 0 0 pos pos (by omega) (by omega) s (Nat.zero_le s) hs
      (by omega)
    rw [Nat.pow_zero] at hbit
    rw [packedByte, hbit, iff_false_right (fun h => hlt h.1)]
    simp

lemma packBytesLoop_map (src : Mem UInt8) (n pos : ℕ) (hn : n = (nb - pos + 7) / 8) :
    packBytesLoop nb src n pos pos = (List.range n).map fun k => packedByte nb src (pos + 8 * k) := by
  induction n generalizing pos with
  | zero => rfl
  | succ n ih =>
    rw [List.range_succ_eq_map, List.map_cons, List.map_map]
    change packedByte nb src pos :: packBytesLoop nb src n (packBitsLoop nb src 9 1 0 pos pos).2.1
      (packBitsLoop nb src 9 1 0 pos pos).2.2 = _
    congr 1
    rcases Nat.lt_or_ge (nb - pos) 8 with hlast | hmore
    · obtain rfl : n = 0 := by omega
      rfl
    · have hloop := (@packBitsLoop_eq nb src 9 0 0 pos pos (by omega) (by omega)).2.2 (by omega)
      rw [Nat.pow_zero, Nat.sub_zero] at hloop
      rw [hloop, ih (pos + 8) (by omega)]
      apply List.map_congr_left
      intro k _
      rw [Function.comp_apply, show pos + 8 + 8 * k = pos + 8 * (k + 1) by omega]

def writeBitsData (ctx : Modbus) (addr : ℤ) (nb : ℕ) (src : Mem UInt8) : List UInt8 :=
  ((modbusWriteBits addr nb src).build ctx).2.drop (ctx.backend.headerLength + 6)

lemma writeBitsData_eq (ctx : Modbus) (addr : ℤ) (src : Mem UInt8) : writeBitsData ctx addr nb src =
    (List.range ((nb + 7) / 8)).map fun k => packedByte nb src (8 * k) := by
  have hbuild := ClientCall.build_eq (.writeBits addr nb src) ctx
  have hpack := packBytesLoop_map src ((nb + 7) / 8) 0 rfl
  simp only [Nat.zero_add] at hpack
  have hlen : (requestHeader ctx ++ (ClientCall.basisPdu fcWriteMultipleCoils addr nb ++
      [UInt8.ofInt (bitByteCount nb)])).length = ctx.backend.headerLength + 6 := by
    rw [List.length_append, requestHeader_length]
    rfl
  have hsplit : ((modbusWriteBits addr nb src).build ctx).2 =
      (requestHeader ctx ++ (ClientCall.basisPdu fcWriteMultipleCoils addr nb ++
        [UInt8.ofInt (bitByteCount nb)])) ++ packBytesLoop nb src ((nb + 7) / 8) 0 0 := by
    rw [← ClientCall.bitByteCount_natCast, List.append_assoc, List.append_assoc]
    exact congrArg Prod.snd hbuild
  rw [writeBitsData, hsplit, ← hlen, List.drop_left, hpack]

end Request

section Agreement

/-- The three loops pack the same bytes, and these hold the flags. -/
structure PackAlike (a : Mem UInt8) (index nb : ℕ) : Prop where
  written : ∀ ctx addr,
    writeBitsData ctx addr nb (fun k => a (index + k)) = (responseIoStatus index nb a).1
  gotten : ∀ ndebug, bitGroups ndebug a index nb = (responseIoStatus index nb a).1.map some
  flags : ∀ i < nb, bitAt ((responseIoStatus index nb a).1.getD · 0) i = decide (a (index + i) ≠ 0)

/-- Shifted to its own place, entry `k` sets the bit at place `i` of the same byte. -/
def Reaches (a : Mem UInt8) (index nb k i : ℕ) : Prop :=
  k < nb ∧ k ≤ i ∧ k / 8 = i / 8 ∧ (a (index + k)).toNat.testBit (i - k) = true

/-- The places that the entries reach are those of the entries that are not zero. -/
structure Covers (a : Mem UInt8) (index nb : ℕ) : Prop where
  sound : ∀ k i, Reaches a index nb k i → i < nb ∧ a (index + i) ≠ 0
  complete : ∀ i < nb, a (index + i) ≠ 0 → ∃ k, Reaches a index nb k i

variable {a : Mem UInt8} {index nb : ℕ}

lemma covers_flags (h : ∀ i < nb, a (index + i) = 0 ∨ a (index + i) = 1) : Covers a index nb where
  sound k i hr := by
    obtain ⟨hk, hki, -, hbit⟩ := hr
    rcases h k hk with hzero | hone
    · simp [hzero] at hbit
    · rw [hone] at hbit
      have hsame : i - k = 0 := Nat.testBit_one_eq_true_iff_self_eq_zero.mp hbit
      obtain rfl : k = i := by omega
      exact ⟨hk, by simp [hone]⟩
  complete i hi hne := by
    have hone := (h i hi).resolve_left hne
    exact ⟨i, hi, le_rfl, rfl, by simp [hone]⟩

lemma groupByte_bit (g : ℕ) {s : ℕ} (hs : s < 8) :
    (groupByte a index nb g).toNat.testBit s = true ↔ ∃ k, Reaches a index nb k (8 * g + s) := by
  rw [groupByte, getByteFromBitsLoop_bit hs, or_iff_right (by simp)]
  constructor
  · rintro ⟨j, -, hj, hjs, hbit⟩
    refine ⟨8 * g + j, by omega, by omega, by omega, ?_⟩
    rwa [← Nat.add_assoc, show 8 * g + s - (8 * g + j) = s - j by omega]
  · rintro ⟨k, hk, hki, hgroup, hbit⟩
    refine ⟨k - 8 * g, Nat.zero_le _, by omega, by omega, ?_⟩
    rwa [show index + 8 * g + (k - 8 * g) = index + k by omega,
      show s - (k - 8 * g) = 8 * g + s - k by omega]

lemma covers_iff_bytes : Covers a index nb ↔ ∀ g < (nb + 7) / 8,
    packedByte nb (fun k => a (index + k)) (8 * g) = groupByte a index nb g := by
  have hbits (g : ℕ) {s : ℕ} (hs : s < 8) :
      (packedByte nb (fun k => a (index + k)) (8 * g)).toNat.testBit s = true ↔
        8 * g + s < nb ∧ a (index + (8 * g + s)) ≠ 0 := packedByte_bit _ _ hs
  constructor
  · intro h g _
    apply eq_of_bits
    intro s hs
    rw [Bool.eq_iff_iff, hbits g hs, groupByte_bit g hs]
    exact ⟨fun hflag => h.complete _ hflag.1 hflag.2, fun ⟨k, hk⟩ => h.sound k _ hk⟩
  · intro h
    have hplace (i : ℕ) (hi : i / 8 < (nb + 7) / 8) :
        (∃ k, Reaches a index nb k i) ↔ i < nb ∧ a (index + i) ≠ 0 := by
      have hs : i % 8 < 8 := Nat.mod_lt i (by omega)
      have hi' : 8 * (i / 8) + i % 8 = i := Nat.div_add_mod i 8
      have hbyte : (groupByte a index nb (i / 8)).toNat.testBit (i % 8) = true ↔
        ∃ k, Reaches a index nb k (8 * (i / 8) + i % 8) := groupByte_bit (i / 8) hs
      rw [← h (i / 8) hi, hbits (i / 8) hs, hi'] at hbyte
      exact hbyte.symm
    constructor
    · intro k i hr
      have hgroup : i / 8 < (nb + 7) / 8 := by
        rw [← hr.2.2.1]
        have hk := hr.1
        omega
      exact (hplace i hgroup).mp ⟨k, hr⟩
    · exact fun i hi hne => (hplace i (by omega)).mpr ⟨hi, hne⟩

/-- The loops that shift the entries agree with the one that compares them with zero exactly where no
bit of an entry falls on a place that is not set. -/
theorem packAlike_iff (a : Mem UInt8) (index nb : ℕ) : PackAlike a index nb ↔ Covers a index nb := by
  rw [covers_iff_bytes]
  constructor
  · intro h g hg
    have hwritten := h.written (modbusInitCommon .tcp) 0
    rw [writeBitsData_eq, responseIoStatus_groups] at hwritten
    exact List.map_inj_left.mp hwritten g (List.mem_range.mpr hg)
  · intro h
    refine ⟨fun ctx addr => ?_, fun ndebug => ?_, fun i hi => ?_⟩
    · rw [writeBitsData_eq, responseIoStatus_groups]
      exact List.map_congr_left fun g hg => h g (List.mem_range.mp hg)
    · rw [bitGroups_eq, responseIoStatus_groups, List.map_map]
      rfl
    · have hg : i / 8 < (nb + 7) / 8 := by omega
      have hget : (responseIoStatus index nb a).1.getD (i / 8) 0 = groupByte a index nb (i / 8) := by
        rw [responseIoStatus_groups, List.getD_eq_getElem _ _ (by simpa using hg), List.getElem_map,
          List.getElem_range]
      rw [bitAt, hget, ← h _ hg, Bool.eq_iff_iff, packedByte_bit _ _ (Nat.mod_lt i (by omega)),
        Nat.div_add_mod, decide_eq_true_eq, and_iff_right hi]

/-- An entry 2 is the flag of its own place in a request, and that of the next place in a response. -/
theorem packAlike_raw_entry : ¬∀ a index nb, PackAlike a index nb := by
  intro h
  exact absurd ((h (fun _ => 2) 0 1).flags 0 (by decide)) (by decide)

end Agreement

end LibModbus
