import LibModbus.Bank.Abstract
import LibModbus.Model.Storage

/-! The blocks of a mapping, from `modbus_mapping_new` to `modbus_mapping_free`. -/

namespace LibModbus

open Library Library.Heap Library.Prog

variable {blocks₀ : ℕ → Option Block} {own : List ℕ} {A : Allocator Block}
variable {mb : ℕ} {made : List Table} {f : MappingFields} {h : Heap Block} {t : Table}

def MappingFields.ptr (f : MappingFields) (t : Table) : ℕ := (f.tab t).getD null

def pointers (f : MappingFields) (mb : ℕ) (made : List Table) : List ℕ :=
  (made.map f.ptr ++ [mb]).filter (· ≠ null)

lemma getNb_eq (hmb : mb ≠ null) (hs : h.blocks mb = some (.mapping f)) {n : ℤ} (hn : f.nb t = some n) :
    getNb mb t h = .done n h :=
  load_eq hmb hs hn

lemma getTab_eq (hmb : mb ≠ null) (hs : h.blocks mb = some (.mapping f)) (ht : f.tab t = some (f.ptr t)) :
    getTab mb t h = .done (f.ptr t) h :=
  load_eq hmb hs ht

section Free

lemma pointers_cons (t : Table) : pointers f mb (t :: made) =
    (f.ptr t :: (made.map f.ptr ++ [mb])).filter (· ≠ null) := rfl

lemma mem_pointers (hmb : mb ≠ null) : mb ∈ pointers f mb made :=
  List.mem_filter.mpr ⟨List.mem_append_right _ List.mem_cons_self, by simpa using hmb⟩

lemma ptr_ne_struct (hmb : mb ≠ null) (hn : (pointers f mb made).Nodup) (ht : t ∈ made) : f.ptr t ≠ mb := by
  intro heq
  have hmem : f.ptr t ∈ (made.map f.ptr).filter (· ≠ null) :=
    List.mem_filter.mpr ⟨List.mem_map_of_mem ht, by simpa [heq] using hmb⟩
  rw [pointers, List.filter_append, List.nodup_append] at hn
  exact hn.2.2 _ hmem mb (by simpa using hmb) heq

lemma ptr_inj {t' : Table} (hn : (pointers f mb made).Nodup) (ht : t ∈ made) (ht' : t' ∈ made)
    (h0 : f.ptr t ≠ null) (heq : f.ptr t = f.ptr t') : t = t' := by
  rw [pointers, List.filter_append, List.nodup_append, List.filter_map] at hn
  exact List.inj_on_of_nodup_map hn.1 (List.mem_filter.mpr ⟨ht, by simpa using h0⟩)
    (List.mem_filter.mpr ⟨ht', by simpa [← heq] using h0⟩) heq

lemma freeTables_restores (hmb : mb ≠ null) (hs : h.blocks mb = some (.mapping f))
    (hptr : ∀ t ∈ made, f.tab t = some (f.ptr t)) (ho : Owns blocks₀ (pointers f mb made) h) :
    ∃ h', freeTables mb made h = .done () h' ∧ h'.blocks = blocks₀ := by
  induction made generalizing h with
  | nil =>
    obtain ⟨h', hfree, -, ho'⟩ := @free_first _ _ [] _ _ ho
    exact ⟨h', hfree, ho'.restored⟩
  | cons t ts ih =>
    have hne : f.ptr t ≠ mb := ptr_ne_struct hmb ho.nodup List.mem_cons_self
    rw [pointers_cons] at ho
    obtain ⟨h₁, hfree, hother, ho'⟩ := free_first ho
    obtain ⟨h₂, hrest, hblocks⟩ :=
      ih ((hother mb hne.symm).trans hs) (fun t' ht' => hptr t' (List.mem_cons_of_mem t ht')) ho'
    refine ⟨h₂, ?_, hblocks⟩
    rw [freeTables, bind_done (getTab_eq hmb hs (hptr t List.mem_cons_self)), bind_done hfree, hrest]

end Free

def allTables : List Table := [.inputRegisters, .registers, .inputBits, .bits]

lemma mem_allTables (t : Table) : t ∈ allTables := by cases t <;> decide

structure Tables (mb : ℕ) (made : List Table) (size : Table → ℕ) (block : Table → Block)
    (f : MappingFields) (h : Heap Block) : Prop where
  struct : h.blocks mb = some (.mapping f)
  nb : ∀ t ∈ made, f.nb t = some (size t : ℤ)
  tab : ∀ t ∈ made, f.tab t = some (f.ptr t)
  empty : ∀ t ∈ made, size t = 0 → f.ptr t = null
  full : ∀ t ∈ made, size t ≠ 0 → f.ptr t ≠ null ∧ h.blocks (f.ptr t) = some (block t)

section New

variable {nb : Table → ℤ}

def zeroTables (nb : Table → ℤ) (t : Table) : Block := t.zeros (nb t).toNat

lemma size_eq (hnb : 0 ≤ nb t) (hmax : nb t < 2 ^ 31) : t.size (nb t) = (nb t).toNat * t.sizeof := by
  have hsizeof : t.sizeof = 1 ∨ t.sizeof = 2 := by cases t <;> simp [Table.sizeof]
  rw [Table.size]
  rcases hsizeof with h | h <;> rw [h] <;> omega

lemma size_lt (hnb : 0 ≤ nb t) (hmax : nb t < 2 ^ 31) : t.size (nb t) < 2 ^ 63 := by
  have hsizeof : t.sizeof ≤ 2 := by cases t <;> simp [Table.sizeof]
  rw [size_eq hnb hmax]
  calc (nb t).toNat * t.sizeof ≤ 2 ^ 31 * 2 := Nat.mul_le_mul (by omega) hsizeof
    _ < 2 ^ 63 := by decide

lemma size_negative (hnb : nb t < 0) (hmin : -2 ^ 31 ≤ nb t) : 2 ^ 63 ≤ t.size (nb t) := by
  have hsizeof : t.sizeof = 1 ∨ t.sizeof = 2 := by cases t <;> simp [Table.sizeof]
  rw [Table.size]
  rcases hsizeof with h | h <;> rw [h] <;> omega

lemma zeros_eq (n : ℕ) : t.zeros (n * t.sizeof / t.sizeof) = t.zeros n := by
  rw [Nat.mul_div_cancel _ (by cases t <;> simp [Table.sizeof])]

structure MadeTables (h₀ : Heap Block) (nb : Table → ℤ) (mb : ℕ) (made : List Table)
    (f : MappingFields) (h : Heap Block) : Prop where
  struct_ne : mb ≠ null
  tables : Tables mb made (fun t => (nb t).toNat) (zeroTables nb) f h
  owns : Owns h₀.blocks (pointers f mb made) h
  since : Extends h₀ h

def MappingFields.assign (f : MappingFields) (t : Table) (n : ℤ) (p : ℕ) : MappingFields :=
  ⟨Function.update f.nb t (some n), Function.update f.tab t (some p)⟩

lemma assign_ptr (n : ℤ) (p : ℕ) : (f.assign t n p).ptr t = p := by
  simp [MappingFields.ptr, MappingFields.assign]

lemma assign_tab (htm : t ∉ made) (n : ℤ) (p : ℕ) {t' : Table} (ht' : t' ∈ made) :
    (f.assign t n p).tab t' = f.tab t' := by
  have hne : t' ≠ t := by
    rintro rfl
    exact htm ht'
  exact Function.update_of_ne hne ..

lemma Tables.extend {size : Table → ℕ} {block : Table → Block} {n : ℤ} {p : ℕ} {h' : Heap Block}
    (ht : Tables mb made size block f h) (htm : t ∉ made)
    (hother : ∀ t' ∈ made, size t' ≠ 0 → h'.blocks (f.ptr t') = h.blocks (f.ptr t'))
    (hn : n = size t) (hs : h'.blocks mb = some (.mapping (f.assign t n p)))
    (hempty : size t = 0 → p = null) (hfull : size t ≠ 0 → p ≠ null ∧ h'.blocks p = some (block t)) :
    Tables mb (t :: made) size block (f.assign t n p) h' := by
  have hnb (t' : Table) (hmem : t' ∈ made) : (f.assign t n p).nb t' = f.nb t' := by
    have hne : t' ≠ t := by
      rintro rfl
      exact htm hmem
    exact Function.update_of_ne hne ..
  have hptr (t' : Table) (hmem : t' ∈ made) : (f.assign t n p).ptr t' = f.ptr t' := by
    rw [MappingFields.ptr, MappingFields.ptr, assign_tab htm n p hmem]
  refine ⟨hs, ?_, ?_, ?_, ?_⟩ <;> rw [List.forall_mem_cons]
  · exact ⟨by simp [MappingFields.assign, hn], fun t' hmem => (hnb t' hmem).trans (ht.nb t' hmem)⟩
  · refine ⟨by simp [MappingFields.assign, MappingFields.ptr], fun t' hmem => ?_⟩
    rw [assign_tab htm n p hmem, hptr t' hmem]
    exact ht.tab t' hmem
  · refine ⟨fun h0 => (assign_ptr n p).trans (hempty h0), fun t' hmem h0 => ?_⟩
    rw [hptr t' hmem]
    exact ht.empty t' hmem h0
  · refine ⟨fun h0 => (assign_ptr (f := f) n p).symm ▸ hfull h0, fun t' hmem h0 => ?_⟩
    rw [hptr t' hmem, hother t' hmem h0]
    exact ht.full t' hmem h0

lemma freeTables_asked (mb : ℕ) (made : List Table) :
    Keeps (fun h h' => h'.asked = h.asked) (freeTables mb made) := by
  induction made with
  | nil => exact free_asked
  | cons t made ih =>
    intro h
    rw [freeTables]
    exact (Keeps.bind (load_asked _) fun p => .bind free_asked fun _ => ih) h

lemma setFields_owns (ho : Owns blocks₀ own h) (hmb : mb ∈ own) (hs : h.blocks mb = some (.mapping f))
    (g : MappingFields → MappingFields) :
    ∃ h', modify mb (fun block => block.fields.map fun f => Block.mapping (g f)) h = .done () h' ∧
      h'.blocks = Function.update h.blocks mb (some (.mapping (g f))) ∧ Owns blocks₀ own h' :=
  modify_owns ho hmb hs rfl

lemma pointers_assign (htm : t ∉ made) (n : ℤ) (p : ℕ) :
    pointers (f.assign t n p) mb made = pointers f mb made := by
  have hptr : made.map (f.assign t n p).ptr = made.map f.ptr :=
    List.map_congr_left fun t' ht' => by rw [MappingFields.ptr, MappingFields.ptr, assign_tab htm n p ht']
  rw [pointers, pointers, hptr]

lemma setNb_owns (ho : Owns blocks₀ own h) (hmb : mb ∈ own) (hs : h.blocks mb = some (.mapping f)) (n : ℤ) :
    ∃ h', setNb mb t n h = .done () h' ∧ h'.blocks = Function.update h.blocks mb
      (some (.mapping { f with nb := Function.update f.nb t (some n) })) ∧ Owns blocks₀ own h' :=
  setFields_owns ho hmb hs _

lemma setTab_owns (ho : Owns blocks₀ own h) (hmb : mb ∈ own) {n : ℤ}
    (hs : h.blocks mb = some (.mapping { f with nb := Function.update f.nb t (some n) })) (p : ℕ) :
    ∃ h', setTab mb t p h = .done () h' ∧
      h'.blocks = Function.update h.blocks mb (some (.mapping (f.assign t n p))) ∧ Owns blocks₀ own h' :=
  setFields_owns ho hmb hs _

section Branches

variable {h₀ h₁ : Heap Block} {next : Prog (Heap Block) ℕ}

lemma setTab_null (hm : MadeTables h₀ nb mb made f h) (htm : t ∉ made) (h0 : nb t = 0)
    (hb₁ : h₁.blocks = Function.update h.blocks mb
      (some (.mapping { f with nb := Function.update f.nb t (some (nb t)) })))
    (ho₁ : Owns h₀.blocks (pointers f mb made) h₁) (ha₁ : h₁.asked = h.asked) :
    ∃ f' h', setTab mb t null h₁ = .done () h' ∧ MadeTables h₀ nb mb (t :: made) f' h' := by
  obtain ⟨hmb, ht, ho, hs⟩ := hm
  obtain ⟨h₂, hset, hb₂, ho₂⟩ :=
    setTab_owns ho₁ (mem_pointers hmb) (by rw [hb₁, Function.update_self]) null
  refine ⟨f.assign t (nb t) null, h₂, hset, hmb, ht.extend htm (fun t' ht' _ => ?_) ?_ ?_ (fun _ => rfl) ?_, ?_, ?_⟩
  · have hne : f.ptr t' ≠ mb := ptr_ne_struct hmb ho.nodup ht'
    rw [hb₂, Function.update_of_ne hne, hb₁, Function.update_of_ne hne]
  · rw [h0]
    rfl
  · rw [hb₂, Function.update_self]
  · exact fun h => absurd (by rw [h0]; rfl) h
  · rwa [pointers_cons, assign_ptr, List.filter_cons_of_neg (by simp), ← pointers, pointers_assign htm]
  · rwa [Extends, (modify_asked _).done hset, ha₁]

lemma freeTables_undoes (hm : MadeTables h₀ nb mb made f h) (htm : t ∉ made)
    (hb₁ : h₁.blocks = Function.update h.blocks mb
      (some (.mapping { f with nb := Function.update f.nb t (some (nb t)) })))
    (ho₁ : Owns h₀.blocks (pointers f mb made) h₁) :
    ∃ h₂ h₃, setTab mb t null h₁ = .done () h₂ ∧ freeTables mb made h₂ = .done () h₃ ∧
      h₃.blocks = h₀.blocks ∧ h₃.asked = h₁.asked := by
  obtain ⟨hmb, ht, -, -⟩ := hm
  obtain ⟨h₂, hset, hb₂, ho₂⟩ :=
    setTab_owns ho₁ (mem_pointers hmb) (by rw [hb₁, Function.update_self]) null
  have hs₂ : h₂.blocks mb = some (.mapping (f.assign t (nb t) null)) := by
    rw [hb₂, Function.update_self]
  have htab (t' : Table) (ht' : t' ∈ made) :
      (f.assign t (nb t) null).tab t' = some ((f.assign t (nb t) null).ptr t') := by
    rw [MappingFields.ptr, assign_tab htm _ _ ht']
    exact ht.tab t' ht'
  obtain ⟨h₃, hfree, hb₃⟩ := freeTables_restores hmb hs₂ htab (by rwa [pointers_assign htm])
  have ha₃ : h₃.asked = h₂.asked := (freeTables_asked mb made).done hfree
  exact ⟨h₂, h₃, hset, hfree, hb₃, ha₃.trans ((modify_asked _).done hset)⟩

lemma memset_made (hm : MadeTables h₀ nb mb made f h) (htm : t ∉ made) (hnn : 0 ≤ nb t)
    (hmax : nb t < 2 ^ 31) (h0 : nb t ≠ 0) {q : ℕ} (hq : q ≠ null) (hqown : q ∉ pointers f mb made)
    (hb₁ : h₁.blocks = Function.update (Function.update h.blocks mb
        (some (.mapping { f with nb := Function.update f.nb t (some (nb t)) }))) q
      (some (.uninit (t.size (nb t)))))
    (ho₁ : Owns h₀.blocks (q :: pointers f mb made) h₁) (ha₁ : Extends h h₁) :
    ∃ f' h₂ h', setTab mb t q h₁ = .done () h₂ ∧ memset q t (t.size (nb t)) h₂ = .done () h' ∧
      MadeTables h₀ nb mb (t :: made) f' h' := by
  obtain ⟨hmb, ht, ho, hs⟩ := hm
  have hmem : mb ∈ pointers f mb made := mem_pointers hmb
  have hqmb : q ≠ mb := by
    rintro rfl
    exact hqown hmem
  obtain ⟨h₂, hset, hb₂, ho₂⟩ := setTab_owns ho₁ (List.mem_cons_of_mem q hmem)
    (by rw [hb₁, Function.update_of_ne hqmb.symm, Function.update_self]) q
  have hq₂ : h₂.blocks q = some (.uninit (t.size (nb t))) := by
    rw [hb₂, Function.update_of_ne hqmb, hb₁, Function.update_self]
  have hclear : t.clear (t.size (nb t)) (.uninit (t.size (nb t))) = some (zeroTables nb t) := by
    rw [Table.clear, if_pos rfl, size_eq hnn hmax, zeros_eq, zeroTables]
  obtain ⟨h₃, hmemset, hb₃, ho₃⟩ := modify_owns ho₂ List.mem_cons_self hq₂ hclear
  refine ⟨f.assign t (nb t) q, h₂, h₃, hset, hmemset, hmb,
    ht.extend htm (fun t' ht' h0' => ?_) ?_ ?_ ?_ (fun _ => ?_), ?_, ?_⟩
  · have hne : f.ptr t' ≠ mb := ptr_ne_struct hmb ho.nodup ht'
    have hneq : f.ptr t' ≠ q := by
      rintro rfl
      exact hqown (List.mem_filter.mpr
        ⟨List.mem_append_left _ (List.mem_map_of_mem ht'), by simpa using hq⟩)
    rw [hb₃, Function.update_of_ne hneq, hb₂, Function.update_of_ne hne, hb₁, Function.update_of_ne hneq,
      Function.update_of_ne hne]
  · rw [Int.toNat_of_nonneg hnn]
  · rw [hb₃, Function.update_of_ne hqmb.symm, hb₂, Function.update_self]
  · intro h
    omega
  · exact ⟨hq, by rw [hb₃, Function.update_self]⟩
  · rwa [pointers_cons, assign_ptr, List.filter_cons_of_pos (by simpa using hq), ← pointers,
      pointers_assign htm]
  · rw [Extends, (modify_asked _).done hmemset, (modify_asked _).done hset]
    exact hs.trans ha₁

lemma newTable_rule {Q : Outcome (Heap Block) ℕ → Prop} (hm : MadeTables h₀ nb mb made f h)
    (htm : t ∉ made) (hmin : -2 ^ 31 ≤ nb t) (hmax : nb t < 2 ^ 31)
    (failed : ∀ h', h'.blocks = h₀.blocks → nb t < 0 ∨ Refuses h₀ h' → Q (.done null h'))
    (more : 0 ≤ nb t → ∀ f' h', MadeTables h₀ nb mb (t :: made) f' h' → Q (next h')) :
    Q (newTable A mb t (nb t) made next h) := by
  obtain ⟨h₁, hset, hb₁, ho₁⟩ :=
    setNb_owns (t := t) hm.owns (mem_pointers hm.struct_ne) hm.tables.struct (nb t)
  have ha₁ : h₁.asked = h.asked := (modify_asked _).done hset
  rw [newTable, bind_done hset]
  by_cases h0 : nb t = 0
  · obtain ⟨f', h', hnull, hm'⟩ := setTab_null hm htm h0 hb₁ ho₁ ha₁
    rw [if_pos h0, bind_done hnull]
    exact more h0.ge f' h' hm'
  · rw [if_neg h0]
    rcases malloc_owns ho₁ A (t.size (nb t)) (.uninit (t.size (nb t))) with
      ⟨h₂, hmalloc, hb₂, ha₂⟩ | ⟨q, h₂, hmalloc, hq, hqown, hsize, hb₂, ho₂⟩
    · obtain ⟨h₃, h₄, htab, hfree, hb₄, ha₄⟩ := freeTables_undoes hm htm (hb₂.trans hb₁) (ho₁.congr hb₂)
      rw [bind_done hmalloc, bind_done htab, if_pos rfl, bind_done hfree]
      refine failed h₄ hb₄ ?_
      rcases Int.lt_or_le (nb t) 0 with hneg | hnn
      · exact .inl hneg
      · exact .inr ⟨_, _, size_lt hnn hmax, ha₄.trans ha₂, ha₁ ▸ hm.since⟩
    · have hnn : 0 ≤ nb t := by
        by_contra hneg
        exact absurd (size_negative (Int.not_le.mp hneg) hmin) (Nat.not_le.mpr hsize)
      have ha₂ : Extends h h₂ := by
        rw [Extends, ← ha₁]
        exact (malloc_extends A _ _).done hmalloc
      obtain ⟨f', h₃, h', htab, hmemset, hm'⟩ :=
        memset_made hm htm hnn hmax h0 hq hqown (by rw [hb₂, hb₁]) ho₂ ha₂
      rw [bind_done hmalloc, bind_done htab, if_neg hq, bind_done hmemset]
      exact more hnn f' h' hm'

end Branches

def AllOrNothing (nb : Table → ℤ) (h : Heap Block) (o : Outcome (Heap Block) ℕ) : Prop :=
  ∃ p h', o = .done p h' ∧
    (p = null ∧ h'.blocks = h.blocks ∧ ((∃ t, nb t < 0) ∨ Refuses h h') ∨
      (∀ t, 0 ≤ nb t) ∧ ∃ f, MadeTables h nb p allTables f h')

lemma modbusMappingNew_cases (A : Allocator Block) (hnb : ∀ t, -2 ^ 31 ≤ nb t ∧ nb t < 2 ^ 31) (h : Heap Block) :
    AllOrNothing nb h
      (modbusMappingNew A (nb .bits) (nb .inputBits) (nb .registers) (nb .inputRegisters) h) := by
  rw [modbusMappingNew]
  rcases malloc_owns (owns_nil h) A sizeofMapping (.mapping ⟨fun _ => none, fun _ => none⟩) with
    ⟨h₁, hmalloc, hb, ha⟩ | ⟨mb, h₁, hmalloc, hmb, -, -, hb, ho⟩
  · rw [bind_done hmalloc]
    exact ⟨null, h₁, rfl, .inl ⟨rfl, hb, .inr ⟨_, _, by decide, ha, List.suffix_rfl⟩⟩⟩
  · rw [bind_done hmalloc, if_neg hmb]
    have hm₀ : MadeTables h nb mb [] ⟨fun _ => none, fun _ => none⟩ h₁ :=
      ⟨hmb, ⟨by rw [hb, Function.update_self], by simp, by simp, by simp, by simp⟩,
        by simpa [pointers, hmb] using ho, (malloc_extends A _ _).done hmalloc⟩
    have hfailed (t : Table) (h' : Heap Block) (hb' : h'.blocks = h.blocks)
        (hwhy : nb t < 0 ∨ Refuses h h') : AllOrNothing nb h (.done null h') :=
      ⟨null, h', rfl, .inl ⟨rfl, hb', hwhy.imp_left fun hneg => ⟨t, hneg⟩⟩⟩
    refine newTable_rule hm₀ (by simp) (hnb _).1 (hnb _).2 (hfailed _) fun hbits _ _ hm₁ => ?_
    refine newTable_rule hm₁ (by simp) (hnb _).1 (hnb _).2 (hfailed _) fun hinputBits _ _ hm₂ => ?_
    refine newTable_rule hm₂ (by simp) (hnb _).1 (hnb _).2 (hfailed _) fun hregisters _ _ hm₃ => ?_
    refine newTable_rule hm₃ (by simp) (hnb _).1 (hnb _).2 (hfailed _) fun hinputRegisters f h₅ hm₄ => ?_
    refine ⟨mb, h₅, rfl, .inr ⟨fun t => ?_, f, hm₄⟩⟩
    cases t <;> assumption

end New

end LibModbus
