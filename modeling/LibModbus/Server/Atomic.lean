import LibModbus.Server.Dispatch

/-! What a request can do to the tables: all of what it names, or nothing. -/

namespace LibModbus

open Library Library.Prog

section Names

variable (b : Backend) (req : Mem UInt8)

def NamesCoil (i : ℕ) : Prop :=
  requestFunction b req = fcWriteSingleCoil ∧ i = requestAddress b req ∨
    requestFunction b req = fcWriteMultipleCoils ∧ requestAddress b req ≤ i ∧
      i < requestAddress b req + requestNb b req

def NamesRegister (i : ℕ) : Prop :=
  requestFunction b req = fcWriteSingleRegister ∧ i = requestAddress b req ∨
    requestFunction b req = fcWriteMultipleRegisters ∧ requestAddress b req ≤ i ∧
      i < requestAddress b req + requestNb b req ∨
    requestFunction b req = fcWriteAndReadRegisters ∧ requestAddressWrite b req ≤ i ∧
      i < requestAddressWrite b req + requestNbWrite b req

/-- The answer is an exception, or there is none. -/
def Refused (reqLength : ℤ) (r : Reply) : Prop :=
  r.rsp = none ∨ ∃ code, r.rsp = some (responseException b (requestSft b req reqLength) code)

structure Atomic (reqLength : ℤ) (mb : Mapping) (r : Reply) : Prop where
  inside : ∀ a ∈ r.accesses, a.index < mb.size a.table
  refused : Refused b req reqLength r → r.mapping = mb
  inputs : r.mapping =
    { mb with tabBits := r.mapping.tabBits, tabRegisters := r.mapping.tabRegisters }
  coils : ∀ i, r.mapping.tabBits i ≠ mb.tabBits i → NamesCoil b req i
  flags : ¬Refused b req reqLength r → ∀ i, NamesCoil b req i →
    r.mapping.tabBits i = 0 ∨ r.mapping.tabBits i = 1
  registers : ∀ i, r.mapping.tabRegisters i ≠ mb.tabRegisters i → NamesRegister b req i

end Names

section Branches

variable {b : Backend} {req : Mem UInt8} {reqLength : ℤ} {mb : Mapping} {r : Reply}

lemma loads_inside {t : Table} {address nb : ℕ} (h : address + nb ≤ mb.size t) :
    ∀ a ∈ loads t (List.range' address nb), a.index < mb.size a.table := by
  intro a ha
  obtain ⟨i, hi, rfl⟩ := List.mem_map.mp ha
  rw [List.mem_range'_1] at hi
  exact hi.2.trans_le h

lemma atomic_unchanged (hm : r.mapping = mb) (hin : ∀ a ∈ r.accesses, a.index < mb.size a.table)
    (hc : ¬Refused b req reqLength r → ∀ i, ¬NamesCoil b req i) : Atomic b req reqLength mb r where
  inside := hin
  refused _ := hm
  inputs := by rw [hm]
  coils i hi := absurd (by rw [hm]) hi
  flags hr i hi := absurd hi (hc hr i)
  registers i hi := absurd (by rw [hm]) hi

lemma atomic_exception (code : ℕ) :
    Atomic b req reqLength mb (replyException b (requestSft b req reqLength) mb code) :=
  atomic_unchanged rfl (by simp [replyException]) fun hr => absurd (.inr ⟨code, rfl⟩) hr

lemma not_refused {rest : List UInt8} {code : ℕ}
    (h : buildResponseBasis b (requestSft b req reqLength) ++ rest =
      responseException b (requestSft b req reqLength) code) : False := by
  unfold responseException at h
  have hl : ∀ sft sft' : Sft, (buildResponseBasis b sft).length = (buildResponseBasis b sft').length := by
    intro sft sft'
    cases b <;> rfl
  have hf := (List.append_inj h (hl _ _)).1
  cases b <;> simp [buildResponseBasis, tcpBuildResponseBasis, rtuBuildResponseBasis] at hf

lemma not_refused_echo {n code : ℕ} (h : req.slice 0 n =
    responseException b (requestSft b req reqLength) code) : False := by
  have hn := congrArg List.length h
  have hf := congrArg (List.getD · b.headerLength 0) h
  have hget (hlt : b.headerLength < n) : (req.slice 0 n).getD b.headerLength 0 = req b.headerLength := by
    rw [List.getD_eq_getElem _ _ (by simpa using hlt), Mem.slice_getElem, Nat.zero_add]
  have hofNat : UInt8.ofNat (requestFunction b req) = req b.headerLength := UInt8.ofNat_toNat
  cases b <;>
    simp only [responseException, buildResponseBasis, tcpBuildResponseBasis, rtuBuildResponseBasis,
      requestSft, Mem.slice_length, List.length_append, List.length_cons, List.length_nil] at hn hf <;>
    rw [hget (by rw [hn]; decide), ← hofNat] at hf <;>
    simp [Backend.headerLength] at hf

lemma not_refused_basis {rest : List UInt8} {mapping : Mapping} {accesses : List Access}
    {undefined : Bool} : ¬Refused b req reqLength
      ⟨mapping, accesses, some (buildResponseBasis b (requestSft b req reqLength) ++ rest), undefined⟩ := by
  rintro (hn | ⟨code, hr⟩)
  · exact absurd hn (by simp)
  · exact not_refused (Option.some.inj hr)

lemma bitStores_inside {address nb : ℕ} {f : ℕ → UInt8} (h : address + nb ≤ mb.nbBits) :
    ∀ a ∈ bitStores ((List.range' address nb).map fun j => (j, f j)), a.index < mb.size a.table := by
  intro a ha
  simp only [bitStores, List.map_map, List.mem_map, List.mem_range'_1] at ha
  obtain ⟨i, hi, rfl⟩ := ha
  exact hi.2.trans_le h

lemma registerStores_inside {address nb : ℕ} {f : ℕ → UInt16} (h : address + nb ≤ mb.nbRegisters) :
    ∀ a ∈ registerStores ((List.range' address nb).map fun j => (j, f j)),
      a.index < mb.size a.table := by
  intro a ha
  simp only [registerStores, List.map_map, List.mem_map, List.mem_range'_1] at ha
  obtain ⟨i, hi, rfl⟩ := ha
  exact hi.2.trans_le h

lemma names_no_coil (h₁ : requestFunction b req ≠ fcWriteSingleCoil)
    (h₂ : requestFunction b req ≠ fcWriteMultipleCoils) (i : ℕ) : ¬NamesCoil b req i := by
  rintro (⟨h, -⟩ | ⟨h, -⟩)
  · exact h₁ h
  · exact h₂ h

lemma atomic_readIoStatus {t : Table} {tab : Mem UInt8}
    (ht : FlagTable (requestFunction b req) mb t tab) : Atomic b req reqLength mb
      (replyReadIoStatus b req (requestSft b req reqLength) (requestAddress b req) mb t tab) := by
  rcases Nat.lt_or_ge (mb.size t) (requestAddress b req + requestNb b req) with h | h
  · rw [replyReadIoStatus_illegal h]
    exact atomic_exception _
  · rw [replyReadIoStatus_legal h]
    refine atomic_unchanged rfl (loads_inside h) fun _ => ?_
    rcases ht with ⟨hf, -⟩ | ⟨hf, -⟩ <;> exact names_no_coil (by simp [hf]) (by simp [hf])

lemma atomic_readRegisters {t : Table} {tab : Mem UInt16}
    (ht : RegisterTable (requestFunction b req) mb t tab) : Atomic b req reqLength mb
      (replyReadRegisters b req (requestSft b req reqLength) (requestAddress b req) mb t tab) := by
  rcases Nat.lt_or_ge (mb.size t) (requestAddress b req + requestNb b req) with h | h
  · rw [replyReadRegisters_illegal h]
    exact atomic_exception _
  · rw [replyReadRegisters_legal h]
    refine atomic_unchanged rfl (loads_inside h) fun _ => ?_
    rcases ht with ⟨hf, -⟩ | ⟨hf, -⟩ <;> exact names_no_coil (by simp [hf]) (by simp [hf])

lemma atomic_writeSingleCoil (hf : requestFunction b req = fcWriteSingleCoil) (n : ℤ) :
    Atomic b req reqLength mb
      (replyWriteSingleCoil b req (requestSft b req reqLength) (requestAddress b req) mb n) := by
  rcases Nat.lt_or_ge (requestAddress b req) mb.nbBits with h | h
  · by_cases hd : requestNb b req = 0xFF00 ∨ requestNb b req = 0
    · rw [replyWriteSingleCoil_legal h hd]
      refine ⟨?_, ?_, rfl, fun i hi => ?_, fun _ i hi => ?_, fun i hi => absurd rfl hi⟩
      · simpa [Access.index, Access.table, Mapping.size] using h
      · rintro (hn | ⟨code, hr⟩)
        · exact absurd hn (by simp)
        · exact (not_refused_echo (Option.some.inj hr)).elim
      · refine .inl ⟨hf, not_not.mp fun hne => hi ?_⟩
        exact Mem.store_of_ne _ _ hne
      · obtain rfl : i = requestAddress b req := by
          rcases hi with ⟨-, hi⟩ | ⟨hf', -⟩
          · exact hi
          · simp [hf] at hf'
        dsimp only
        rw [Mem.store_self]
        cases decide (requestNb b req ≠ 0)
        · exact .inl rfl
        · exact .inr rfl
    · rw [replyWriteSingleCoil_value h hd]
      exact atomic_exception _
  · rw [replyWriteSingleCoil_illegal h]
    exact atomic_exception _

lemma atomic_writeSingleRegister (hf : requestFunction b req = fcWriteSingleRegister) (n : ℤ) :
    Atomic b req reqLength mb
      (replyWriteSingleRegister b req (requestSft b req reqLength) (requestAddress b req) mb n) := by
  rcases Nat.lt_or_ge (requestAddress b req) mb.nbRegisters with h | h
  · have hc (i : ℕ) : ¬NamesCoil b req i := names_no_coil (by simp [hf]) (by simp [hf]) i
    rw [replyWriteSingleRegister_legal h]
    refine ⟨?_, ?_, rfl, fun i hi => absurd rfl hi, fun _ i hi => absurd hi (hc i), fun i hi => ?_⟩
    · simpa [Access.index, Access.table, Mapping.size] using h
    · rintro (hn | ⟨code, hr⟩)
      · exact absurd hn (by simp)
      · exact (not_refused_echo (Option.some.inj hr)).elim
    · refine .inl ⟨hf, not_not.mp fun hne => hi ?_⟩
      exact Mem.store_of_ne _ _ hne
  · rw [replyWriteSingleRegister_illegal h]
    exact atomic_exception _

lemma atomic_writeMultipleCoils (hf : requestFunction b req = fcWriteMultipleCoils) :
    Atomic b req reqLength mb
      (replyWriteMultipleCoils b req (requestSft b req reqLength) (requestAddress b req) mb) := by
  rcases Nat.lt_or_ge mb.nbBits (requestAddress b req + requestNb b req) with h | h
  · rw [replyWriteMultipleCoils_illegal h]
    exact atomic_exception _
  · rw [replyWriteMultipleCoils_legal h]
    refine ⟨bitStores_inside h, fun hr => absurd hr not_refused_basis, rfl, fun i hi => ?_,
      fun _ i hi => ?_, fun i hi => absurd rfl hi⟩
    · exact .inr ⟨hf, not_not.mp fun hne => hi (if_neg hne)⟩
    · have hr : requestAddress b req ≤ i ∧ i < requestAddress b req + requestNb b req := by
        rcases hi with ⟨hf', -⟩ | ⟨-, hi⟩
        · simp [hf] at hf'
        · exact hi
      simp only [writtenCoils, if_pos hr]
      cases bitAt (flagData b req) (i - requestAddress b req)
      · exact .inl rfl
      · exact .inr rfl

lemma atomic_writeMultipleRegisters (hf : requestFunction b req = fcWriteMultipleRegisters) :
    Atomic b req reqLength mb
      (replyWriteMultipleRegisters b req (requestSft b req reqLength) (requestAddress b req) mb) := by
  rcases Nat.lt_or_ge mb.nbRegisters (requestAddress b req + requestNb b req) with h | h
  · rw [replyWriteMultipleRegisters_illegal h]
    exact atomic_exception _
  · have hc (i : ℕ) : ¬NamesCoil b req i := names_no_coil (by simp [hf]) (by simp [hf]) i
    rw [replyWriteMultipleRegisters_legal h]
    refine ⟨registerStores_inside h, fun hr => absurd hr not_refused_basis, rfl,
      fun i hi => absurd rfl hi, fun _ i hi => absurd hi (hc i), fun i hi => ?_⟩
    exact .inr (.inl ⟨hf, not_not.mp fun hne => hi (if_neg hne)⟩)

lemma atomic_writeAndReadRegisters (hf : requestFunction b req = fcWriteAndReadRegisters) :
    Atomic b req reqLength mb
      (replyWriteAndReadRegisters b req (requestSft b req reqLength) (requestAddress b req) mb) := by
  by_cases h : mb.nbRegisters < requestAddress b req + requestNb b req ∨
      mb.nbRegisters < requestAddressWrite b req + requestNbWrite b req
  · rw [replyWriteAndReadRegisters_illegal h]
    exact atomic_exception _
  · rw [not_or, Nat.not_lt, Nat.not_lt] at h
    have hc (i : ℕ) : ¬NamesCoil b req i := names_no_coil (by simp [hf]) (by simp [hf]) i
    rw [replyWriteAndReadRegisters_legal h.1 h.2]
    refine ⟨fun a ha => ?_, fun hr => absurd hr not_refused_basis, rfl, fun i hi => absurd rfl hi,
      fun _ i hi => absurd hi (hc i), fun i hi => ?_⟩
    · rcases List.mem_append.mp ha with ha | ha
      · exact registerStores_inside h.2 a ha
      · exact loads_inside (t := .registers) h.1 a ha
    · exact .inr (.inr ⟨hf, not_not.mp fun hne => hi (if_neg hne)⟩)

lemma replyBuild_atomic (b : Backend) (req : Mem UInt8) (reqLength : ℤ) (mb : Mapping) :
    Atomic b req reqLength mb (replyBuild b req reqLength mb) := by
  refine replyBuild_rule (fun t tab => atomic_readIoStatus) (fun t tab => atomic_readRegisters)
    (fun h => atomic_writeSingleCoil h _) (fun h => atomic_writeSingleRegister h _)
    atomic_writeMultipleCoils atomic_writeMultipleRegisters (fun h => ?_) (fun h => ?_)
    atomic_writeAndReadRegisters fun _ => atomic_exception _
  · exact atomic_unchanged rfl (by simp [replyReportSlaveId]) fun _ =>
      names_no_coil (by simp [h]) (by simp [h])
  · exact atomic_unchanged rfl (by simp) fun _ => names_no_coil (by simp [h]) (by simp [h])

lemma replyBuild_size (b : Backend) (req : Mem UInt8) (n : ℤ) (mb : Mapping) (t : Table) :
    (replyBuild b req n mb).mapping.size t = mb.size t := by
  rw [(replyBuild_atomic b req n mb).inputs]
  cases t <;> rfl

/-- `modbus_reply` does all of what a request names, or nothing, and stays inside the tables. It has
done so before the response is sent, so a run that hangs in `send_msg` makes no difference. Only a
length that is shorter than the checksum can make it copy a negative number of bytes. -/
theorem modbusReply_atomic (b : Backend) (req : Mem UInt8) (reqLength : ℤ) (mb : Mapping) :
    Atomic b req reqLength mb (replyBuild b req reqLength mb) ∧
      (b.checksumLength ≤ reqLength → (replyBuild b req reqLength mb).undefined = false) ∧
      Triple (fun w => w.ctx.backend = b) (modbusReply req reqLength mb)
        (fun r _ => r.2.undefined = false ∧ Atomic b req reqLength mb r.2 ∧ (r.2.rsp = none → r.1 = -1))
        (fun _ => True) := by
  refine ⟨replyBuild_atomic b req reqLength mb, replyBuild_defined, fun w hw => ?_⟩
  cases hr : modbusReply req reqLength mb w with
  | blocked w' => trivial
  | done r w' =>
    obtain ⟨he, hu, hn⟩ := modbusReply_done hr
    rw [hw] at he
    dsimp only
    rw [he] at hu hn ⊢
    exact ⟨hu, replyBuild_atomic b req reqLength mb, hn⟩

end Branches

end LibModbus
