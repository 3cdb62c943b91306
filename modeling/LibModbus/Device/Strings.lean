import LibModbus.Device.Registers

/-! ASCII strings that go through registers and come back. -/

namespace LibModbus.ModbusDevice

open Library Library.Prog

def PlainAscii (string : List Char) : Prop := ∀ c ∈ string, 1 ≤ c.toNat ∧ c.toNat ≤ 127

instance (string : List Char) : Decidable (PlainAscii string) :=
  List.decidableBAll (fun c : Char => 1 ≤ c.toNat ∧ c.toNat ≤ 127) string

section Characters

variable {string rest : List Char} {c d : Char}

lemma characters_cons (h : ¬[cr, lf] <+: c :: rest) : characters (c :: rest) = [c] :: characters rest := by
  cases rest with
  | nil => rfl
  | cons d rest =>
    rw [characters, if_neg]
    rintro ⟨rfl, rfl⟩
    exact h (List.prefix_append [cr, lf] rest)

lemma characters_length_le (string : List Char) : (characters string).length ≤ string.length := by
  induction string using characters.induct with
  | case1 => exact le_rfl
  | case2 c => exact le_rfl
  | case3 c d rest h ih =>
    rw [characters, if_pos h, List.length_cons, List.length_cons, List.length_cons]
    omega
  | case4 c d rest h ih =>
    rw [characters, if_neg h, List.length_cons, List.length_cons]
    omega

lemma characters_single (h : ¬[cr, lf] <:+: string) : characters string = string.map ([·]) := by
  induction string with
  | nil => rfl
  | cons c rest ih =>
    rw [List.infix_cons_iff, not_or] at h
    rw [characters_cons h.1, ih h.2, List.map_cons]

lemma characters_shorter (h : [cr, lf] <:+: string) : (characters string).length < string.length := by
  induction string using characters.induct with
  | case1 => exact absurd h (by simp)
  | case2 c => exact absurd h.length_le (by simp)
  | case3 c d rest hc ih =>
    have hle := characters_length_le rest
    rw [characters, if_pos hc, List.length_cons, List.length_cons, List.length_cons]
    omega
  | case4 c d rest hc ih =>
    have hrest : [cr, lf] <:+: d :: rest := by
      rcases List.infix_cons_iff.mp h with hpre | hrest
      · obtain ⟨hcr, hpre⟩ := List.cons_prefix_cons.mp hpre
        obtain ⟨hlf, -⟩ := List.cons_prefix_cons.mp hpre
        exact absurd ⟨hcr.symm, hlf.symm⟩ hc
      · exact hrest
    have := ih hrest
    rw [characters, if_neg hc, List.length_cons, List.length_cons]
    omega

lemma mem_characters {character : List Char} (h : character ∈ characters string) :
    (∃ c ∈ string, character = [c]) ∨ character = [cr, lf] := by
  induction string using characters.induct with
  | case1 => exact absurd h List.not_mem_nil
  | case2 c => exact .inl ⟨c, List.mem_cons_self, List.mem_singleton.mp h⟩
  | case3 c d rest hc ih =>
    rw [characters, if_pos hc] at h
    rcases List.mem_cons.mp h with rfl | h
    · obtain ⟨rfl, rfl⟩ := hc
      exact .inr rfl
    · exact (ih h).imp_left fun ⟨e, he, heq⟩ =>
        ⟨e, List.mem_cons_of_mem _ (List.mem_cons_of_mem _ he), heq⟩
  | case4 c d rest hc ih =>
    rw [characters, if_neg hc] at h
    rcases List.mem_cons.mp h with rfl | h
    · exact .inl ⟨c, List.mem_cons_self, rfl⟩
    · exact (ih h).imp_left fun ⟨e, he, heq⟩ => ⟨e, List.mem_cons_of_mem _ he, heq⟩

def characterByte (character : List Char) : UInt8 := (asciiValue character).getD 0

lemma characterByte_single (h : c.toNat ≤ 127) : (characterByte [c]).toNat = c.toNat := by
  rw [characterByte, asciiValue, if_pos (by omega), Option.getD_some, UInt8.toNat_ofNat']
  omega

lemma characterByte_ne_zero (h : PlainAscii string) :
    ∀ byte ∈ (characters string).map characterByte, byte ≠ 0 := by
  intro byte hmem hzero
  obtain ⟨character, hcharacter, rfl⟩ := List.mem_map.mp hmem
  rcases mem_characters hcharacter with ⟨c, hc, rfl⟩ | rfl
  · obtain ⟨hpos, hlt⟩ := h c hc
    have := characterByte_single hlt
    rw [← this, hzero] at hpos
    exact absurd hpos (by decide)
  · exact absurd hzero (by decide)

end Characters

section Buffer

variable {index : ℕ} {chars : List (List Char)} {values : List UInt8}

lemma fillValues_fits (h : index + chars.length ≤ values.length) : fillValues index chars values =
    some (values.take index ++ (chars.map characterByte ++ values.drop (index + chars.length))) := by
  induction chars generalizing index values with
  | nil => simp [fillValues]
  | cons character rest ih =>
    rw [List.length_cons] at h
    have hdrop : (values.set index (characterByte character)).drop (index + 1 + rest.length) =
        values.drop (index + (rest.length + 1)) := by
      rw [List.drop_set_of_lt (by omega), Nat.add_assoc, Nat.add_comm 1]
    have htake : (values.set index (characterByte character)).take (index + 1) =
        values.take index ++ [characterByte character] := by
      rw [List.take_succ_eq_append_getElem (by rw [List.length_set]; omega), List.getElem_set_self,
        List.take_set_of_le le_rfl]
    rw [fillValues, if_pos (by omega), ← characterByte, ih (by rw [List.length_set]; omega), hdrop, htake,
      List.append_assoc]
    rfl

lemma fillValues_traps (hi : index ≤ values.length) (h : values.length < index + chars.length) :
    fillValues index chars values = none := by
  induction chars generalizing index values with
  | nil => exact absurd h (by simpa using hi)
  | cons character rest ih =>
    rw [List.length_cons] at h
    rw [fillValues]
    split_ifs with hlt
    · exact ih (by rw [List.length_set]; omega) (by rw [List.length_set]; omega)
    · rfl

variable {count : ℕ} {string : List Char}

lemma asciiValues_fits (h : (characters string).length ≤ count) : asciiValues count string =
    some ((characters string).map characterByte ++
      List.replicate (count - (characters string).length) 0) := by
  rw [asciiValues, fillValues_fits (by rwa [Nat.zero_add, List.length_replicate]), List.drop_replicate,
    Nat.zero_add]
  rfl

lemma asciiValues_traps (h : count < (characters string).length) : asciiValues count string = none :=
  fillValues_traps (Nat.zero_le _) (by rwa [Nat.zero_add, List.length_replicate])

lemma validCharacters_filled {bytes : List UInt8} (h : ∀ byte ∈ bytes, byte ≠ 0) (n : ℕ) :
    validCharacters (bytes ++ List.replicate n 0) = bytes := by
  rw [validCharacters]
  induction bytes with
  | nil => cases n <;> simp [List.replicate_succ, List.findIdx_cons]
  | cons byte rest ih =>
    have hne : decide (byte = 0) = false := decide_eq_false (h byte List.mem_cons_self)
    rw [List.cons_append, List.findIdx_cons, hne, cond_false, List.take_succ_cons,
      ih fun b hb => h b (List.mem_cons_of_mem _ hb)]

lemma asciiString_filled (h : PlainAscii string) (n : ℕ) :
    asciiString ((characters string).map characterByte ++ List.replicate n 0) =
      (characters string).map fun character => Char.ofNat (characterByte character).toNat := by
  rw [asciiString, validCharacters_filled (characterByte_ne_zero h), List.map_map]
  rfl

lemma single_string (h : PlainAscii string) (hsingle : ¬[cr, lf] <:+: string) :
    ((characters string).map fun character => Char.ofNat (characterByte character).toNat) = string := by
  rw [characters_single hsingle, List.map_map]
  refine (List.map_congr_left fun c hc => ?_).trans (List.map_id string)
  have hbyte := characterByte_single (h c hc).2
  rw [Function.comp_apply, hbyte, Char.ofNat_toNat]
  rfl

end Buffer

/-- Whenever the registers in the buffer are these, `readASCIIString` returns the string. -/
def StringReadsBack (startAddress : ℤ) (count : ℕ) (endianness : ModbusDeviceEndianness)
    (string : List Char) (written : Mem UInt16) : Prop :=
  ∀ (type : ModbusRegisterType) (stack : Mem UInt8) (w w' : World) (rc : ℤ) (buffer : Dest),
    (modbusfunction type startAddress (wordCount 1 count)).run stack emptyBuffer w =
      .done (rc, buffer) w' → 0 ≤ rc → (∀ i < wordCount 1 count, buffer.words i = written i) →
    readASCIIStringBody startAddress count type endianness stack w = .done (.ok string) w'

/-- Writing a string never goes outside the buffer. It hands over registers from which the string is read
again, and throws if and only if they could not be written. -/
structure Survives (startAddress : ℤ) (count : ℕ) (endianness : ModbusDeviceEndianness)
    (string : List Char) : Prop where
  inside : asciiValues count string ≠ none
  back : ∀ rawPointer stack : Mem UInt8, ∃ written,
    HandsOver startAddress (wordCount 1 count) written stack
      (writeASCIIStringBody startAddress count string endianness rawPointer stack) ∧
    StringReadsBack startAddress count endianness string written

section Runs

variable {startAddress : ℤ} {endianness : ModbusDeviceEndianness} {values : List UInt8}

lemma values_readBack (hstart : FitsInt32 startAddress) (hn : FitsInt32 (wordCount 1 values.length))
    (endianness : ModbusDeviceEndianness) (rawPointer : Mem UInt8) :
    StringReadsBack startAddress values.length endianness (asciiString values)
      (@registersToWrite 1 (values.map UInt8.toBitVec) endianness rawPointer) := by
  intro type stack w w' rc buffer hrun hrc hwords
  have hlen : (values.map UInt8.toBitVec).length = values.length := List.length_map _
  have hread := @readRegistersBody_back 1 (values.map UInt8.toBitVec) endianness startAddress _
    (padded _ endianness rawPointer) hstart (by rwa [hlen]) type stack w w' rc buffer (by rwa [hlen]) hrc
    (by rwa [hlen])
  rw [hlen] at hread
  have hmap : (values.map UInt8.toBitVec).map UInt8.ofBitVec = values := by
    rw [List.map_map]
    exact List.map_id values
  rw [readASCIIStringBody, bind_done hread]
  change Outcome.done (Except.ok (asciiString ((values.map UInt8.toBitVec).map UInt8.ofBitVec))) w' = _
  rw [hmap]

lemma handsOver_unique {nb : ℕ} (hnb : nb ≤ 123) {written written' : Mem UInt16} {stack : Mem UInt8}
    {method : M (Except ModbusError Unit)} (h : HandsOver startAddress nb written stack method)
    (h' : HandsOver startAddress nb written' stack method) : ∀ i < nb, written' i = written i := by
  obtain ⟨pdu, w', buffer, hrun⟩ := writing_run startAddress hnb written stack emptyBuffer
  have hsame := (h' (answering pdu)).symm.trans (h (answering pdu))
  rw [hrun] at hsame
  cases hrun' : (modbusWriteRegisters startAddress nb written').run stack emptyBuffer (answering pdu) with
  | blocked v =>
    rw [hrun'] at hsame
    cases hsame
  | done r v =>
    rw [hrun'] at hsame
    obtain ⟨-, rfl⟩ := Outcome.done.inj hsame
    have htx := answering_sent (writeRegisters_counts startAddress hnb written) hrun
    have htx' := answering_sent (writeRegisters_counts startAddress hnb written') hrun'
    exact writeRegisters_request_inj (htx'.symm.trans htx)

end Runs

section Results

variable {count : ℕ} {endianness : ModbusDeviceEndianness} {string : List Char}

lemma wordCount_bytes (count : ℕ) : wordCount 1 count = (count + 1) / 2 := by
  rw [wordCount]
  omega

lemma asciiValues_length (h : (characters string).length ≤ count) :
    ((characters string).map characterByte ++
      List.replicate (count - (characters string).length) 0).length = count := by
  rw [List.length_append, List.length_map, List.length_replicate]
  omega

lemma writeASCIIStringBody_eq {startAddress : ℤ} {values : List UInt8} (h : asciiValues count string = some values)
    (rawPointer stack : Mem UInt8) :
    writeASCIIStringBody startAddress count string endianness rawPointer stack =
      @writeRegistersBody 1 startAddress (values.map UInt8.toBitVec) endianness rawPointer stack := by
  rw [writeASCIIStringBody, if_neg (by omega), Int.toNat_natCast, h]

section Written

variable {startAddress : ℤ} {values : List UInt8}

lemma values_handed (hstart : FitsInt32 startAddress) (hpos : 1 ≤ values.length)
    (hmax : values.length ≤ 246) (h : asciiValues values.length string = some values)
    (rawPointer stack : Mem UInt8) :
    HandsOver startAddress (wordCount 1 values.length)
      (@registersToWrite 1 (values.map UInt8.toBitVec) endianness rawPointer) stack
      (writeASCIIStringBody startAddress values.length string endianness rawPointer stack) := by
  have hlen : (values.map UInt8.toBitVec).length = values.length := List.length_map _
  have hbytes := wordCount_bytes values.length
  have hne : values.map UInt8.toBitVec ≠ [] := by
    intro hnil
    rw [hnil, List.length_nil] at hlen
    omega
  rw [writeASCIIStringBody_eq h, ← hlen]
  exact @writeRegistersBody_handsOver 1 _ _ _ hstart (by rw [hlen, hbytes]; exact ⟨by omega, by omega⟩) hne
    rawPointer stack

end Written

variable {startAddress : ℤ}

lemma survives_of_string (hstart : FitsInt32 startAddress) (hcount : 1 ≤ count) (hmax : count ≤ 246)
    (hascii : PlainAscii string) (hfits : (characters string).length ≤ count)
    (hstring : ((characters string).map fun character => Char.ofNat (characterByte character).toNat) =
      string) : Survives startAddress count endianness string := by
  have hvalues := asciiValues_fits hfits
  have hlen := asciiValues_length hfits
  have hfilled := asciiString_filled hascii (count - (characters string).length)
  rw [hstring] at hfilled
  generalize (characters string).map characterByte ++
    List.replicate (count - (characters string).length) 0 = values at hlen hvalues hfilled
  obtain rfl := hlen
  have hbytes := wordCount_bytes values.length
  refine ⟨by rw [hvalues]; exact nofun, fun rawPointer stack => ?_⟩
  refine ⟨_, values_handed hstart hcount hmax hvalues rawPointer stack, ?_⟩
  have hread := values_readBack hstart (by rw [hbytes]; exact ⟨by omega, by omega⟩) endianness rawPointer
  rwa [hfilled] at hread

lemma survives_start (hmax : count ≤ 246) (h : Survives startAddress count endianness string)
    (hcount : 1 ≤ count) : FitsInt32 startAddress := by
  obtain ⟨written, hhands, -⟩ := h.back (fun _ => 0) fun _ => 0
  have hbytes := wordCount_bytes count
  obtain ⟨pdu, w', buffer, hrun⟩ :=
    writing_run startAddress (show wordCount 1 count ≤ 123 by omega) written (fun _ => 0) emptyBuffer
  have hbody := hhands (answering pdu)
  rw [hrun] at hbody
  obtain ⟨values, hvalues⟩ := Option.ne_none_iff_exists'.mp h.inside
  have hlen : values.length = count := by
    by_cases hfits : (characters string).length ≤ count
    · have hsome := (asciiValues_fits hfits).symm.trans hvalues
      rw [← Option.some.inj hsome]
      exact asciiValues_length hfits
    · exact absurd (asciiValues_traps (by omega)) h.inside
  by_contra hout
  have hne : (values.map UInt8.toBitVec).length ≠ 0 := by
    rw [List.length_map]
    omega
  rw [writeASCIIStringBody_eq hvalues, writeRegistersBody_eq _ _ _ _ _ hne, if_neg fun hfit => hout hfit.1] at hbody
  cases hbody

lemma survives_string (hcount : 1 ≤ count) (hmax : count ≤ 246) (hascii : PlainAscii string)
    (h : Survives startAddress count endianness string) : (characters string).length ≤ count ∧
      ((characters string).map fun character => Char.ofNat (characterByte character).toNat) = string := by
  have hstart := survives_start hmax h hcount
  have hfits : (characters string).length ≤ count := by
    by_contra hlong
    exact h.inside (asciiValues_traps (by omega))
  refine ⟨hfits, ?_⟩
  have hlen := asciiValues_length hfits
  have hvalues := asciiValues_fits hfits
  rw [← asciiString_filled hascii (count - (characters string).length)]
  generalize (characters string).map characterByte ++
    List.replicate (count - (characters string).length) 0 = values at hlen hvalues
  obtain rfl := hlen
  have hbytes := wordCount_bytes values.length
  have hnb : wordCount 1 values.length ≤ 123 := by omega
  have hhands := @values_handed endianness string _ values hstart hcount hmax hvalues
  have hread := @values_readBack _ values hstart ⟨by omega, by omega⟩ endianness fun _ => 0
  obtain ⟨written, hhands', hback⟩ := h.back (fun _ => 0) fun _ => 0
  have hsame := handsOver_unique hnb (hhands _ _) hhands'
  -- the same registers are read as the string and as that of the buffer
  obtain ⟨pdu, v, buffer, hfetch, hwords⟩ := reading_run startAddress (show wordCount 1 values.length ≤ 125 by omega)
    written (fun _ => 0) emptyBuffer
  have hstring := hback .holding _ _ _ _ _ hfetch (Int.natCast_nonneg _) hwords
  rw [hread .holding _ _ _ _ _ hfetch (Int.natCast_nonneg _)
    fun i hi => (hwords i hi).trans (hsame i hi)] at hstring
  exact Except.ok.inj (Outcome.done.inj hstring).1

/-- An ASCII string comes back from the device if and only if the address is an `Int32`, and the string is
not longer than the buffer and has no CR LF in it. -/
theorem survives_iff (hcount : 1 ≤ count) (hmax : count ≤ 246) (hascii : PlainAscii string) :
    Survives startAddress count endianness string ↔
      FitsInt32 startAddress ∧ string.length ≤ count ∧ ¬[cr, lf] <:+: string := by
  constructor
  · intro h
    obtain ⟨hfits, hstring⟩ := survives_string hcount hmax hascii h
    have hlen := congrArg List.length hstring
    rw [List.length_map] at hlen
    exact ⟨survives_start hmax h hcount, by omega, fun hcrlf => absurd hlen (characters_shorter hcrlf).ne⟩
  · rintro ⟨hstart, hfits, hsingle⟩
    exact survives_of_string hstart hcount hmax hascii ((characters_length_le string).trans hfits)
      (single_string hascii hsingle)

theorem survives_iff_example : Survives 7 4 .bigEndian [.ofNat 0x41, cr] :=
  (survives_iff (by decide) (by decide) (by decide)).mpr ⟨by decide, by decide, by decide⟩

/-- Two Characters do not fit into a buffer of one byte: the second index traps. -/
theorem long_string_traps : ¬∀ (startAddress : ℤ) (count : ℕ) (endianness : ModbusDeviceEndianness)
    (string : List Char), FitsInt32 startAddress → 1 ≤ count → count ≤ 246 → PlainAscii string →
      Survives startAddress count endianness string := by
  intro h
  have hinside := (h 0 1 .bigEndian [.ofNat 0x41, .ofNat 0x42] (by decide) le_rfl (by decide)
    (by decide)).inside
  exact hinside (by decide)

end Results

end LibModbus.ModbusDevice
