import LibModbus.Library.Bytes
import LibModbus.Library.ShiftRegister
import LibModbus.Model.Backend

/-! The tables of modbus-rtu.c hold eight turns of the CRC-16/MODBUS register. Its two halves trade
places in `crc16`: the low byte is `crc_hi`. -/

namespace LibModbus

open Library

section Definition

/-- The register turns right, and 0xA001 comes back for a bit that drops out. -/
abbrev crcShift : BitVec 16 → BitVec 16 := ShiftRegister.shift 0xA001#16

def crcByte (crc : BitVec 16) (b : UInt8) : BitVec 16 := crcShift^[8] (crc ^^^ b.toBitVec.setWidth 16)

def crcModbus (bytes : List UInt8) : BitVec 16 := bytes.foldl crcByte 0xFFFF#16

example : crcModbus [0x31, 0x32, 0x33, 0x34, 0x35, 0x36, 0x37, 0x38, 0x39] = 0x4B37#16 := by
  decide +kernel

end Definition

section Table

def crcRegister (crc : UInt8 × UInt8) : BitVec 16 := crc.2.toBitVec ++ crc.1.toBitVec

lemma table_sizes : tableCrcHi.size = 256 ∧ tableCrcLo.size = 256 := by
  decide +kernel

lemma table_entries : List.zipWith (fun hi lo => crcRegister (hi, lo)) tableCrcHi.toList
    tableCrcLo.toList = (List.range 256).map fun i => crcShift^[8] (.ofNat 16 i) := by
  decide +kernel

lemma table_entry (i : Fin 256) :
    crcRegister (tableCrcHi.getD i 0, tableCrcLo.getD i 0) = crcShift^[8] (.ofNat 16 i) := by
  have h := congrArg (fun entries => entries[(i : ℕ)]?) table_entries
  have hhi : (i : ℕ) < tableCrcHi.size := i.isLt.trans_eq table_sizes.1.symm
  have hlo : (i : ℕ) < tableCrcLo.size := i.isLt.trans_eq table_sizes.2.symm
  simpa [List.getElem?_zipWith, Array.getD_eq_getD_getElem?, hhi, hlo] using h

lemma shift_high (i : Fin 256) : crcShift^[8] (BitVec.ofNat 8 i ++ 0#8) = 0#8 ++ BitVec.ofNat 8 i := by
  revert i
  decide +kernel

lemma setWidth_byte (x : UInt8) : x.toBitVec.setWidth 16 = 0#8 ++ x.toBitVec :=
  BitVec.setWidth_eq_append (by decide)

lemma crcStep_register (crc : UInt8 × UInt8) (b : UInt8) :
    crcRegister (crcStep crc b) = crcByte (crcRegister crc) b := by
  have hsplit : crcRegister crc ^^^ b.toBitVec.setWidth 16 =
      (crc.2.toBitVec ++ 0#8) ^^^ (crc.1 ^^^ b).toBitVec.setWidth 16 := by
    rw [setWidth_byte, setWidth_byte, crcRegister, BitVec.xor_append, BitVec.xor_append,
      UInt8.toBitVec_xor, BitVec.xor_zero, BitVec.zero_xor]
  have htable := table_entry ⟨(crc.1 ^^^ b).toNat, UInt8.toNat_lt _⟩
  have hhigh := shift_high ⟨crc.2.toNat, UInt8.toNat_lt _⟩
  have hindex : BitVec.ofNat 16 (crc.1 ^^^ b).toNat = (crc.1 ^^^ b).toBitVec.setWidth 16 :=
    BitVec.ofNat_toNat 16 _
  have hbyte : BitVec.ofNat 8 crc.2.toNat = crc.2.toBitVec := by
    rw [← UInt8.toNat_toBitVec, BitVec.ofNat_toNat, BitVec.setWidth_eq]
  have hstep : crcStep crc b = (crc.2 ^^^ tableCrcHi.getD (crc.1 ^^^ b).toNat 0,
      tableCrcLo.getD (crc.1 ^^^ b).toNat 0) := rfl
  dsimp only at htable hhigh
  rw [hindex] at htable
  rw [hbyte] at hhigh
  rw [crcByte, hsplit, ShiftRegister.iterate_shift_xor, hhigh, ← htable, hstep, crcRegister,
    crcRegister, BitVec.xor_append, BitVec.zero_xor, UInt8.toBitVec_xor]

lemma foldl_register (crc : UInt8 × UInt8) (bytes : List UInt8) :
    crcRegister (bytes.foldl crcStep crc) = bytes.foldl crcByte (crcRegister crc) := by
  induction bytes generalizing crc with
  | nil => rfl
  | cons b bytes ih => rw [List.foldl_cons, ih, crcStep_register, List.foldl_cons]

end Table

section Checksum

lemma word_byteOf (v : BitVec 16) : word (@byteOf 2 v 1) (@byteOf 2 v 0) = v.toNat := by
  have hv := v.isLt
  have h (k : ℕ) : (@byteOf 2 v k).toNat = v.toNat / 2 ^ (8 * k) % 256 := by
    rw [byteOf, UInt8.toNat_ofBitVec, BitVec.extractLsb'_toNat, Nat.shiftRight_eq_div_pow]
  rw [word_eq, h, h]
  omega

lemma byteOf_register (crc : UInt8 × UInt8) :
    @byteOf 2 (crcRegister crc) 0 = crc.1 ∧ @byteOf 2 (crcRegister crc) 1 = crc.2 := by
  have happend (i : ℕ) : (crcRegister crc).getLsbD i =
      if i < 8 then crc.1.toBitVec.getLsbD i else crc.2.toBitVec.getLsbD (i - 8) :=
    BitVec.getLsbD_append
  constructor
  · apply UInt8.eq_of_toBitVec_eq
    apply BitVec.eq_of_getLsbD_eq
    intro i hi
    rw [byteOf, UInt8.toBitVec_ofBitVec, BitVec.getLsbD_extractLsb', happend]
    simp [hi]
  · apply UInt8.eq_of_toBitVec_eq
    apply BitVec.eq_of_getLsbD_eq
    intro i hi
    rw [byteOf, UInt8.toBitVec_ofBitVec, BitVec.getLsbD_extractLsb', happend]
    simp [hi]

lemma crc16_word {buffer : List UInt8} (h : buffer.length < 65536) :
    crc16 buffer = word (@byteOf 2 (crcModbus buffer) 0) (@byteOf 2 (crcModbus buffer) 1) := by
  have hregister : crcModbus buffer = crcRegister (buffer.foldl crcStep (0xFF, 0xFF)) :=
    (foldl_register (0xFF, 0xFF) buffer).symm
  have hbytes := byteOf_register (buffer.foldl crcStep (0xFF, 0xFF))
  rw [hregister, hbytes.1, hbytes.2, crc16, Nat.mod_eq_of_lt h, List.take_length]

/-- `crc16` returns the checksum with its bytes swapped, so the low byte is sent first. -/
theorem crc16_eq_crcModbus {buffer : List UInt8} (h : buffer.length < 65536) :
    crc16 buffer = (@byteSwapped 2 (crcModbus buffer)).toNat ∧
      rtuSendMsgPre buffer =
        buffer ++ [@byteOf 2 (crcModbus buffer) 0, @byteOf 2 (crcModbus buffer) 1] := by
  have hcrc := crc16_word h
  constructor
  · rw [hcrc, ← word_byteOf, byteOf_byteSwapped _ (by decide), byteOf_byteSwapped _ (by decide)]
  · rw [rtuSendMsgPre, hcrc, hiByte_word, loByte_word]

theorem crc16_eq_crcModbus_example : crc16 [1, 3, 0, 0, 0, 1] = 0x840A ∧
    rtuSendMsgPre [1, 3, 0, 0, 0, 1] = [1, 3, 0, 0, 0, 1, 0x84, 0x0A] := by
  have hcrc : crcModbus [1, 3, 0, 0, 0, 1] = 0x0A84#16 := by decide +kernel
  have h := @crc16_eq_crcModbus [1, 3, 0, 0, 0, 1] (by decide)
  rw [hcrc] at h
  exact ⟨h.1.trans (by decide), h.2.trans (by decide)⟩

end Checksum

end LibModbus
