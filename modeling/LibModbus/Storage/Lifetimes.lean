import LibModbus.Server.Atomic
import LibModbus.Server.Bounds
import LibModbus.Storage.Mappings

/-! A mapping on the heap while it serves requests. -/

namespace LibModbus

open Library Library.Heap Library.Prog

namespace Mapping

def block (m : Mapping) : Table → Block
  | .bits => .bits (m.tabBits.slice 0 m.nbBits)
  | .inputBits => .bits (m.tabInputBits.slice 0 m.nbInputBits)
  | .inputRegisters => .registers (m.tabInputRegisters.slice 0 m.nbInputRegisters)
  | .registers => .registers (m.tabRegisters.slice 0 m.nbRegisters)

/-- Nothing but zero is found past the ends of the tables. -/
structure ZeroBeyond (m : Mapping) : Prop where
  bits : ∀ i, m.nbBits ≤ i → m.tabBits i = 0
  inputBits : ∀ i, m.nbInputBits ≤ i → m.tabInputBits i = 0
  inputRegisters : ∀ i, m.nbInputRegisters ≤ i → m.tabInputRegisters i = 0
  registers : ∀ i, m.nbRegisters ≤ i → m.tabRegisters i = 0

def after (m : Mapping) : Access → Mapping
  | .load _ _ => m
  | .store .bits i value => { m with tabBits := m.tabBits.store i (UInt8.ofNat value) }
  | .store .inputBits i value => { m with tabInputBits := m.tabInputBits.store i (UInt8.ofNat value) }
  | .store .inputRegisters i value =>
    { m with tabInputRegisters := m.tabInputRegisters.store i (UInt16.ofNat value) }
  | .store .registers i value => { m with tabRegisters := m.tabRegisters.store i (UInt16.ofNat value) }

@[simp] lemma after_size (m : Mapping) (a : Access) (t : Table) : (m.after a).size t = m.size t := by
  cases a with
  | load => rfl
  | store t' => cases t' <;> cases t <;> rfl

end Mapping

section Replays

variable {b : Backend} {req : Mem UInt8} {n : ℕ} {mb : Mapping}

def Replays (mb : Mapping) (r : Reply) : Prop := r.mapping = r.accesses.foldl Mapping.after mb

lemma after_loads (t : Table) (reads : List ℕ) : (loads t reads).foldl Mapping.after mb = mb := by
  induction reads with
  | nil => rfl
  | cons i reads ih => exact ih

lemma replays_exception (sft : Sft) (code : ℕ) : Replays mb (replyException b sft mb code) := rfl

lemma foldl_store {α : Type} (v : ℕ → α) (k address : ℕ) (tab : Mem α) :
    (List.range' address k).foldl (fun tab j => tab.store j (v j)) tab =
      fun j => if address ≤ j ∧ j < address + k then v j else tab j := by
  induction k generalizing address tab with
  | zero => exact funext fun j => (if_neg (by omega)).symm
  | succ k ih =>
    rw [List.range'_succ, List.foldl_cons, ih]
    funext j
    by_cases hj : j = address
    · subst hj
      simp
    · rw [Mem.store_of_ne _ _ hj]
      congr 1
      simp only [eq_iff_iff]
      omega

lemma after_bitStores (address k : ℕ) (v : ℕ → UInt8) (mb : Mapping) :
    (bitStores ((List.range' address k).map fun j => (j, v j))).foldl Mapping.after mb =
      { mb with tabBits := fun j => if address ≤ j ∧ j < address + k then v j else mb.tabBits j } := by
  rw [← foldl_store]
  induction List.range' address k generalizing mb with
  | nil => rfl
  | cons j js ih =>
    rw [List.map_cons, bitStores, List.map_cons, List.foldl_cons, ← bitStores, ih, List.foldl_cons]
    simp only [Mapping.after, UInt8.ofNat_toNat]

lemma after_registerStores (address k : ℕ) (v : ℕ → UInt16) (mb : Mapping) :
    (registerStores ((List.range' address k).map fun j => (j, v j))).foldl Mapping.after mb =
      { mb with tabRegisters := fun j =>
          if address ≤ j ∧ j < address + k then v j else mb.tabRegisters j } := by
  rw [← foldl_store]
  induction List.range' address k generalizing mb with
  | nil => rfl
  | cons j js ih =>
    rw [List.map_cons, registerStores, List.map_cons, List.foldl_cons, ← registerStores, ih, List.foldl_cons]
    simp only [Mapping.after, UInt16.ofNat_toNat]

lemma replays_readIoStatus (sft : Sft) (address : ℕ) (t : Table) (tab : Mem UInt8) :
    Replays mb (replyReadIoStatus b req sft address mb t tab) := by
  rcases Nat.lt_or_ge (mb.size t) (address + requestNb b req) with h | h
  · rw [replyReadIoStatus_illegal h]
    exact replays_exception _ _
  · rw [replyReadIoStatus_legal h]
    exact (after_loads t _).symm

lemma replays_readRegisters (sft : Sft) (address : ℕ) (t : Table) (tab : Mem UInt16) :
    Replays mb (replyReadRegisters b req sft address mb t tab) := by
  rcases Nat.lt_or_ge (mb.size t) (address + requestNb b req) with h | h
  · rw [replyReadRegisters_illegal h]
    exact replays_exception _ _
  · rw [replyReadRegisters_legal h]
    exact (after_loads t _).symm

lemma replays_writeSingleCoil (sft : Sft) (address : ℕ) (n : ℤ) :
    Replays mb (replyWriteSingleCoil b req sft address mb n) := by
  rcases Nat.lt_or_ge address mb.nbBits with h | h
  · by_cases hd : requestNb b req = 0xFF00 ∨ requestNb b req = 0
    · rw [replyWriteSingleCoil_legal h hd]
      simp [Replays, Mapping.after]
    · rw [replyWriteSingleCoil_value h hd]
      exact replays_exception _ _
  · rw [replyWriteSingleCoil_illegal h]
    exact replays_exception _ _

lemma replays_writeSingleRegister (sft : Sft) (address : ℕ) (n : ℤ) :
    Replays mb (replyWriteSingleRegister b req sft address mb n) := by
  rcases Nat.lt_or_ge address mb.nbRegisters with h | h
  · rw [replyWriteSingleRegister_legal h]
    simp [Replays, Mapping.after]
  · rw [replyWriteSingleRegister_illegal h]
    exact replays_exception _ _

lemma replays_writeMultipleCoils (sft : Sft) (address : ℕ) :
    Replays mb (replyWriteMultipleCoils b req sft address mb) := by
  rcases Nat.lt_or_ge mb.nbBits (address + requestNb b req) with h | h
  · rw [replyWriteMultipleCoils_illegal h]
    exact replays_exception _ _
  · rw [replyWriteMultipleCoils_legal h, Replays, after_bitStores]
    rfl

lemma replays_writeMultipleRegisters (sft : Sft) (address : ℕ) :
    Replays mb (replyWriteMultipleRegisters b req sft address mb) := by
  rcases Nat.lt_or_ge mb.nbRegisters (address + requestNb b req) with h | h
  · rw [replyWriteMultipleRegisters_illegal h]
    exact replays_exception _ _
  · rw [replyWriteMultipleRegisters_legal h, Replays, after_registerStores]
    rfl

lemma replays_writeAndReadRegisters (sft : Sft) (address : ℕ) :
    Replays mb (replyWriteAndReadRegisters b req sft address mb) := by
  by_cases h : mb.nbRegisters < address + requestNb b req ∨
      mb.nbRegisters < requestAddressWrite b req + requestNbWrite b req
  · rw [replyWriteAndReadRegisters_illegal h]
    exact replays_exception _ _
  · rw [not_or, Nat.not_lt, Nat.not_lt] at h
    rw [replyWriteAndReadRegisters_legal h.1 h.2, Replays, List.foldl_append, after_registerStores,
      after_loads]
    rfl

lemma replyBuild_replays (b : Backend) (req : Mem UInt8) (n : ℤ) (mb : Mapping) :
    Replays mb (replyBuild b req n mb) :=
  replyBuild_rule (P := Replays mb) (fun t tab _ => replays_readIoStatus _ _ t tab)
    (fun t tab _ => replays_readRegisters _ _ t tab) (fun _ => replays_writeSingleCoil _ _ _)
    (fun _ => replays_writeSingleRegister _ _ _) (fun _ => replays_writeMultipleCoils _ _)
    (fun _ => replays_writeMultipleRegisters _ _) (fun _ => rfl) (fun _ => rfl)
    (fun _ => replays_writeAndReadRegisters _ _) fun _ => replays_exception _ _

end Replays

section Held

variable {blocks₀ : ℕ → Option Block} {mb : ℕ} {m : Mapping} {f : MappingFields} {h : Heap Block} {t : Table}

structure HoldsMapping (blocks₀ : ℕ → Option Block) (mb : ℕ) (m : Mapping) (f : MappingFields)
    (h : Heap Block) : Prop where
  struct_ne : mb ≠ null
  tables : Tables mb allTables m.size m.block f h
  beyond : m.ZeroBeyond
  owns : Owns blocks₀ (pointers f mb allTables) h

section Load

lemma slice_getD {α : Type} {tab : Mem α} {n : ℕ} {z : α} (hbeyond : ∀ i, n ≤ i → tab i = z) :
    (fun i => (tab.slice 0 n).getD i z) = tab := by
  funext i
  by_cases hi : i < n
  · rw [List.getD_eq_getElem _ _ (by simpa using hi), Mem.slice_getElem, Nat.zero_add]
  · rw [List.getD_eq_default _ _ (by simpa using hi), hbeyond i (by omega)]

lemma HoldsMapping.getNb (hh : HoldsMapping blocks₀ mb m f h) (t : Table) :
    LibModbus.getNb mb t h = .done (m.size t : ℤ) h :=
  getNb_eq hh.struct_ne hh.tables.struct (hh.tables.nb t (mem_allTables t))

lemma HoldsMapping.getTab (hh : HoldsMapping blocks₀ mb m f h) (t : Table) :
    LibModbus.getTab mb t h = .done (f.ptr t) h :=
  getTab_eq hh.struct_ne hh.tables.struct (hh.tables.tab t (mem_allTables t))

lemma HoldsMapping.loadTable {α : Type} {z : α} (hh : HoldsMapping blocks₀ mb m f h) {tab : Mem α}
    {entries : Block → Option (Mem α)}
    (hblock : entries (m.block t) = some fun i => (tab.slice 0 (m.size t)).getD i z)
    (hbeyond : ∀ i, m.size t ≤ i → tab i = z) :
    (LibModbus.getTab mb t >>= fun p =>
      if p = null then pure fun _ => z else load p entries : Prog (Heap Block) (Mem α)) h = .done tab h := by
  rw [bind_done (hh.getTab t)]
  by_cases h0 : m.size t = 0
  · rw [if_pos (hh.tables.empty t (mem_allTables t) h0)]
    exact congrArg (Outcome.done · h) (funext fun i => (hbeyond i (by omega)).symm)
  · obtain ⟨hptr, hb⟩ := hh.tables.full t (mem_allTables t) h0
    rw [if_neg hptr]
    refine load_eq hptr hb ?_
    rw [hblock]
    exact congrArg some (slice_getD hbeyond)

lemma HoldsMapping.loadMapping (hh : HoldsMapping blocks₀ mb m f h) :
    LibModbus.loadMapping mb h = .done m h := by
  rw [LibModbus.loadMapping, bind_done (hh.getNb .bits), bind_done (hh.getNb .inputBits),
    bind_done (hh.getNb .inputRegisters), bind_done (hh.getNb .registers),
    bind_done (m := loadBits mb .bits) (hh.loadTable rfl hh.beyond.bits),
    bind_done (m := loadBits mb .inputBits) (hh.loadTable rfl hh.beyond.inputBits),
    bind_done (m := loadWords mb .inputRegisters) (hh.loadTable rfl hh.beyond.inputRegisters),
    bind_done (m := loadWords mb .registers) (hh.loadTable rfl hh.beyond.registers)]
  rfl

end Load

section Perform

lemma slice_set {α : Type} (tab : Mem α) {n i : ℕ} (a : α) :
    (tab.slice 0 n).set i a = (tab.store i a).slice 0 n := by
  refine List.ext_getElem (by simp) fun j h₁ h₂ => ?_
  rw [List.getElem_set, Mem.slice_getElem, Mem.slice_getElem, Nat.zero_add, Mem.store]
  simp only [eq_comm]

lemma block_isEntry {i : ℕ} (hi : i < m.size t) : (m.block t).isEntry i = some () := by
  cases t <;> exact if_pos (by rwa [Mem.slice_length])

lemma block_set {i : ℕ} (hi : i < m.size t) (value : ℕ) :
    (m.block t).set i value = some ((m.after (.store t i value)).block t) := by
  cases t <;>
  · rw [Mapping.block, Block.set, if_pos (by rwa [Mem.slice_length]), slice_set]
    rfl

lemma block_after {t' : Table} (hne : t' ≠ t) (i value : ℕ) :
    (m.after (.store t i value)).block t' = m.block t' := by
  cases t <;> cases t' <;> first | rfl | exact absurd rfl hne

lemma beyond_after {a : Access} (hb : m.ZeroBeyond) (ha : a.index < m.size a.table) :
    (m.after a).ZeroBeyond := by
  cases a with
  | load => exact hb
  | store t i value =>
    have hne (j : ℕ) (hj : m.size t ≤ j) : j ≠ i := (ha.trans_le hj).ne'
    cases t with
    | bits =>
      exact ⟨fun j hj => (Mem.store_of_ne _ _ (hne j hj)).trans (hb.bits j hj), hb.inputBits,
        hb.inputRegisters, hb.registers⟩
    | inputBits =>
      exact ⟨hb.bits, fun j hj => (Mem.store_of_ne _ _ (hne j hj)).trans (hb.inputBits j hj),
        hb.inputRegisters, hb.registers⟩
    | inputRegisters =>
      exact ⟨hb.bits, hb.inputBits,
        fun j hj => (Mem.store_of_ne _ _ (hne j hj)).trans (hb.inputRegisters j hj), hb.registers⟩
    | registers =>
      exact ⟨hb.bits, hb.inputBits, hb.inputRegisters,
        fun j hj => (Mem.store_of_ne _ _ (hne j hj)).trans (hb.registers j hj)⟩

lemma perform_holds (hh : HoldsMapping blocks₀ mb m f h) {a : Access} (ha : a.index < m.size a.table) :
    ∃ h', perform mb a h = .done () h' ∧ HoldsMapping blocks₀ mb (m.after a) f h' := by
  have hfull := hh.tables.full a.table (mem_allTables _) (Nat.ne_zero_of_lt ha)
  cases a with
  | load t i =>
    refine ⟨h, ?_, hh⟩
    rw [perform, bind_done (hh.getTab t)]
    exact load_eq hfull.1 hfull.2 (block_isEntry ha)
  | store t i value =>
    simp only [Access.table, Access.index] at ha hfull
    have hmem : f.ptr t ∈ pointers f mb allTables := List.mem_filter.mpr
      ⟨List.mem_append_left _ (List.mem_map_of_mem (mem_allTables t)), by simpa using hfull.1⟩
    obtain ⟨h', hset, hb, ho⟩ := modify_owns hh.owns hmem hfull.2 (block_set ha value)
    refine ⟨h', ?_, hh.struct_ne, ⟨?_, ?_, hh.tables.tab, ?_, ?_⟩, beyond_after hh.beyond ha, ho⟩
    · rw [perform, bind_done (hh.getTab t), hset]
    · have hne : f.ptr t ≠ mb := ptr_ne_struct hh.struct_ne hh.owns.nodup (mem_allTables t)
      rw [hb, Function.update_of_ne hne.symm]
      exact hh.tables.struct
    · simpa only [Mapping.after_size] using hh.tables.nb
    · simpa only [Mapping.after_size] using hh.tables.empty
    · intro t' ht' h0
      rw [Mapping.after_size] at h0
      by_cases heq : t' = t
      · subst heq
        exact ⟨hfull.1, by rw [hb, Function.update_self]⟩
      · have hne : f.ptr t' ≠ f.ptr t := fun hp =>
          heq (ptr_inj hh.owns.nodup ht' (mem_allTables t) (hh.tables.full t' ht' h0).1 hp)
        rw [hb, Function.update_of_ne hne, block_after heq]
        exact hh.tables.full t' ht' h0

lemma performAll_holds {accesses : List Access} (hh : HoldsMapping blocks₀ mb m f h)
    (ha : ∀ a ∈ accesses, a.index < m.size a.table) : ∃ h', performAll mb accesses h = .done () h' ∧
      HoldsMapping blocks₀ mb (accesses.foldl Mapping.after m) f h' := by
  induction accesses generalizing m h with
  | nil => exact ⟨h, rfl, hh⟩
  | cons a as ih =>
    rw [List.forall_mem_cons] at ha
    obtain ⟨h₁, hone, hh₁⟩ := perform_holds hh ha.1
    obtain ⟨h', hall, hh'⟩ := ih hh₁ fun a' ha' => by
      rw [Mapping.after_size]
      exact ha.2 a' ha'
    exact ⟨h', by rw [performAll, bind_done hone, hall], hh'⟩

/-- A request as `_modbus_receive_msg` accepts it, that reads no more from `mb` than a response has room
for. -/
structure Answerable (mb : Mapping) (b : Backend) (req : Mem UInt8) (reqLength : ℤ) : Prop where
  received : reqLength = frameLength b .indication req
  limits : ReadsWithinLimits b req mb

lemma replyFrom_holds (hh : HoldsMapping blocks₀ mb m f h) {b : Backend} {req : Mem UInt8} {n : ℤ}
    (hr : Answerable m b req n) : ∃ h', replyFrom mb b req n h = .done (replyBuild b req n m).rsp h' ∧
      HoldsMapping blocks₀ mb (replyBuild b req n m).mapping f h' := by
  obtain ⟨h', hall, hh'⟩ := performAll_holds hh (replyBuild_atomic b req n m).inside
  have hdefined : (replyBuild b req n m).undefined = false :=
    replyBuild_defined (by
      rw [hr.received]
      exact Int.ofNat_le.mpr (checksumLength_le_frameLength b .indication req))
  have hfits : ReplyFits b req (replyBuild b req n m) := by
    rw [hr.received]
    exact (replyBuild_fits rfl).mpr hr.limits
  have hroom : ¬(replyBuild b req n m).Overruns b := by
    rintro ⟨rsp, hrsp, hlong⟩
    exact absurd (hfits rsp hrsp).buffer (Nat.not_le.mpr hlong)
  refine ⟨h', ?_, by rwa [replyBuild_replays b req n m]⟩
  rw [replyFrom, bind_done hh.loadMapping]
  apply (bind_done hall _).trans
  rw [if_neg (by simp [hdefined, hroom])]
  rfl

end Perform

section Lifetime

def replyFromAll (mb : ℕ) : List (Backend × Mem UInt8 × ℤ) → Prog (Heap Block) (List (Option (List UInt8)))
  | [] => pure []
  | (b, req, reqLength) :: requests => do
    let rsp ← replyFrom mb b req reqLength
    let rsps ← replyFromAll mb requests
    return rsp :: rsps

def Mapping.replies (m : Mapping) : List (Backend × Mem UInt8 × ℤ) → List (Option (List UInt8))
  | [] => []
  | (b, req, reqLength) :: requests =>
    let reply := replyBuild b req reqLength m
    reply.rsp :: reply.mapping.replies requests

def AllAnswerable (m : Mapping) (requests : List (Backend × Mem UInt8 × ℤ)) : Prop :=
  ∀ r ∈ requests, Answerable m r.1 r.2.1 r.2.2

lemma replyFromAll_holds {requests : List (Backend × Mem UInt8 × ℤ)} (hh : HoldsMapping blocks₀ mb m f h)
    (hr : AllAnswerable m requests) : ∃ m' h', replyFromAll mb requests h = .done (m.replies requests) h' ∧
      HoldsMapping blocks₀ mb m' f h' := by
  induction requests generalizing m h with
  | nil => exact ⟨m, h, rfl, hh⟩
  | cons r requests ih =>
    obtain ⟨b, req, n⟩ := r
    obtain ⟨hfirst, hrest⟩ := List.forall_mem_cons.mp hr
    obtain ⟨h₁, hone, hh₁⟩ := replyFrom_holds hh hfirst
    obtain ⟨m', h', hall, hh'⟩ := ih hh₁ fun r hmem =>
      ⟨(hrest r hmem).received, (hrest r hmem).limits.congr (replyBuild_size b req n m)⟩
    refine ⟨m', h', ?_, hh'⟩
    rw [replyFromAll, bind_done hone, bind_done hall]
    rfl

lemma modbusMappingFree_holds (hh : HoldsMapping blocks₀ mb m f h) :
    ∃ h', modbusMappingFree mb h = .done () h' ∧ h'.blocks = blocks₀ := by
  rw [modbusMappingFree, if_neg hh.struct_ne]
  exact freeTables_restores hh.struct_ne hh.tables.struct hh.tables.tab hh.owns

def zeroMapping (nb : Table → ℕ) : Mapping :=
  ⟨nb .bits, nb .inputBits, nb .inputRegisters, nb .registers, fun _ => 0, fun _ => 0, fun _ => 0, fun _ => 0⟩

lemma zeroMapping_size (nb : Table → ℕ) : (zeroMapping nb).size = nb := funext fun t => by cases t <;> rfl

lemma slice_zero {α : Type} (z : α) (n : ℕ) : (Mem.slice (fun _ => z) 0 n) = List.replicate n z := by
  rw [Mem.slice, List.map_const', List.length_range]

lemma zeroMapping_block (nb : Table → ℤ) : (zeroMapping fun t => (nb t).toNat).block = zeroTables nb := by
  funext t
  cases t <;>
  · rw [Mapping.block, zeroMapping, slice_zero]
    rfl

lemma MadeTables.holds {nb : Table → ℤ} {h₀ : Heap Block} (hm : MadeTables h₀ nb mb allTables f h) :
    HoldsMapping h₀.blocks mb (zeroMapping fun t => (nb t).toNat) f h where
  struct_ne := hm.struct_ne
  tables := by
    rw [zeroMapping_size, zeroMapping_block]
    exact hm.tables
  beyond := ⟨fun _ _ => rfl, fun _ _ => rfl, fun _ _ => rfl, fun _ _ => rfl⟩
  owns := hm.owns

/-- `modbus_mapping_new` allocates nothing that it does not return, and its tables start as zeros. As long as
the server replies from them, to requests that were received and read no more than fits, every access stays
within them, no response runs past `rsp`, no other block changes, and `modbus_mapping_free` leaves the heap
as it was. -/
theorem mapping_lifetime (A : Allocator Block) {nb : Table → ℤ} (hnb : ∀ t, -2 ^ 31 ≤ nb t ∧ nb t < 2 ^ 31)
    (h : Heap Block) : ∃ p h₁,
      modbusMappingNew A (nb .bits) (nb .inputBits) (nb .registers) (nb .inputRegisters) h = .done p h₁ ∧
      (p = null ∧ h₁.blocks = h.blocks ∧ ((∃ t, nb t < 0) ∨ Refuses h h₁) ∨
        p ≠ null ∧ (∀ t, 0 ≤ nb t) ∧
        ∀ requests, AllAnswerable (zeroMapping fun t => (nb t).toNat) requests → ∃ h₂ h₃,
          replyFromAll p requests h₁ =
            .done ((zeroMapping fun t => (nb t).toNat).replies requests) h₂ ∧
          (∀ q, h.blocks q ≠ none → h₂.blocks q = h.blocks q) ∧
          modbusMappingFree p h₂ = .done () h₃ ∧ h₃.blocks = h.blocks) := by
  obtain ⟨p, h₁, hnew, hnone | ⟨hnn, f, hm⟩⟩ := modbusMappingNew_cases A hnb h
  · exact ⟨p, h₁, hnew, .inl hnone⟩
  · refine ⟨p, h₁, hnew, .inr ⟨hm.struct_ne, hnn, fun requests hr => ?_⟩⟩
    obtain ⟨m', h₂, hall, hh'⟩ := replyFromAll_holds hm.holds hr
    obtain ⟨h₃, hfree, hb⟩ := modbusMappingFree_holds hh'
    exact ⟨h₂, h₃, hall, fun q hq => hh'.owns.kept hq, hfree, hb⟩

def smallTables (t : Table) : ℤ := if t = .bits then 1 else if t = .registers then 2 else 0

def writeThenRead : List (Backend × Mem UInt8 × ℤ) :=
  [(.rtu, ([1, 6, 0, 1, 0, 7].getD · 0), 8), (.rtu, ([1, 3, 0, 0, 0, 2].getD · 0), 8)]

theorem mapping_lifetime_example : ∃ h₁ h₂ h₃,
    modbusMappingNew (bumpAllocator Block) 1 0 2 0 ⟨fun _ => none, []⟩ = .done 1 h₁ ∧
    replyFromAll 1 writeThenRead h₁ = .done [some [1, 6, 0, 1, 0, 7], some [1, 3, 4, 0, 0, 0, 7]] h₂ ∧
    modbusMappingFree 1 h₂ = .done () h₃ ∧ h₃.blocks = fun _ => none := by
  obtain ⟨p, h₁, hnew, hcases⟩ := @mapping_lifetime (bumpAllocator Block) smallTables
    (fun t => by cases t <;> decide) ⟨fun _ => none, []⟩
  have hanswerable : AllAnswerable (zeroMapping fun t => (smallTables t).toNat) writeThenRead := by
    intro r hr
    rcases List.mem_cons.mp hr with rfl | hr
    · exact ⟨rfl, withinLimits_other (by decide)⟩
    · obtain rfl := List.mem_singleton.mp hr
      refine ⟨rfl, ?_, ?_, by decide⟩ <;> exact fun t tab _ _ => by decide
  have hone : (modbusMappingNew (bumpAllocator Block) 1 0 2 0 ⟨fun _ => none, []⟩).value = some 1 := rfl
  have hp : p = 1 := Option.some.inj ((congrArg Outcome.value hnew).symm.trans hone)
  subst hp
  rcases hcases with ⟨hnull, -⟩ | ⟨-, -, hlife⟩
  · cases hnull
  · obtain ⟨h₂, h₃, hall, -, hfree, hb⟩ := hlife writeThenRead hanswerable
    exact ⟨h₁, h₂, h₃, hnew, hall, hfree, hb⟩

end Lifetime

end Held

end LibModbus
