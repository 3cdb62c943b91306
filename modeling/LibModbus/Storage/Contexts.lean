import LibModbus.Storage.Copies
import LibModbus.Storage.Mappings

/-! The blocks of a context, from the constructors to `modbus_free`. -/

namespace LibModbus

open Library Library.Heap Library.Prog

variable {blocks₀ : ℕ → Option Block} {A : Allocator Block} {h : Heap Block} {ctx data : ℕ} {made : Modbus}
variable {block : Block} {field : CharArray} {src : CString} {destSize : ℕ}

structure HoldsContext (blocks₀ : ℕ → Option Block) (ctx data : ℕ) (made : Modbus) (block : Block)
    (h : Heap Block) : Prop where
  ctx_ne : ctx ≠ null
  data_ne : data ≠ null
  apart : ctx ≠ data
  context : h.blocks ctx = some (.context made (some data))
  backendData : h.blocks data = some block
  owns : Owns blocks₀ [data, ctx] h

lemma modbusFree_holds (hh : HoldsContext blocks₀ ctx data made block h) :
    ∃ h', modbusFree ctx h = .done () h' ∧ h'.blocks = blocks₀ := by
  have hget : getBackendData ctx h = .done data h := load_eq hh.ctx_ne hh.context rfl
  obtain ⟨h₁, hdata, -, ho₁⟩ := free_owns hh.owns List.mem_cons_self
  rw [List.erase_cons_head] at ho₁
  obtain ⟨h₂, hctx, -, ho₂⟩ := free_owns ho₁ List.mem_cons_self
  rw [List.erase_cons_head] at ho₂
  refine ⟨h₂, ?_, ho₂.restored⟩
  rw [modbusFree, if_neg hh.ctx_ne, bind_done hget, bind_done hdata, hctx]

lemma refuse_holds (hh : HoldsContext blocks₀ ctx data made block h) :
    ∃ h', refuse ctx h = .done (.error .einval) h' ∧ h'.blocks = blocks₀ := by
  obtain ⟨h', hfree, hb⟩ := modbusFree_holds hh
  refine ⟨h', ?_, hb⟩
  rw [refuse, bind_done hfree]
  rfl

lemma modify_holds (hh : HoldsContext blocks₀ ctx data made block h) {f : Block → Option Block} {block' : Block}
    (hf : f block = some block') :
    ∃ h', modify data f h = .done () h' ∧ HoldsContext blocks₀ ctx data made block' h' := by
  obtain ⟨h', hmodify, hb, ho⟩ := modify_owns hh.owns List.mem_cons_self hh.backendData hf
  refine ⟨h', hmodify, hh.ctx_ne, hh.data_ne, hh.apart, ?_, ?_, ho⟩
  · rw [hb, Function.update_of_ne hh.apart, hh.context]
  · rw [hb, Function.update_self]

/-- Not empty, and short enough for the array that it is copied to. -/
def CString.Fits (s : CString) (destSize : ℕ) : Prop := 0 < s.val.length ∧ s.val.length < destSize

lemma withString_rule {Q : Outcome (Heap Block) (Except Errno ℕ) → Prop} {m : Mem UInt8}
    {next : Prog (Heap Block) (Except Errno ℕ)} (hh : HoldsContext blocks₀ ctx data made block h)
    (harray : block.array field = some m)
    (refused : ¬src.Fits destSize → ∀ h', h'.blocks = blocks₀ → Q (.done (.error .einval) h'))
    (copied : src.Fits destSize → ∀ h' m', m'.Holds (src.val ++ [0]) →
      HoldsContext blocks₀ ctx data made (block.setArray m' field) h' → Q (next h')) :
    Q (withString ctx data field src destSize next h) := by
  have hload : load data (Block.array field) h = .done m h := load_eq hh.data_ne hh.backendData harray
  obtain ⟨h₁, hset, hh₁⟩ := modify_holds hh
    (f := fun block => some (block.setArray (strlcpy m src.val destSize).1 field)) rfl
  have hcopy : copyInto data field src destSize h = .done src.val.length h₁ := by
    rw [copyInto, bind_done hload, bind_done hset, strlcpy_length, src.strlen]
    rfl
  obtain ⟨h₂, hrefuse, hb₂⟩ := refuse_holds hh₁
  rw [withString, bind_done hcopy]
  by_cases hempty : src.val.length = 0
  · rw [if_pos hempty, hrefuse]
    exact refused (fun hfits => hfits.1.ne' hempty) h₂ hb₂
  · by_cases hlong : src.val.length ≥ destSize
    · rw [if_neg hempty, if_pos hlong, hrefuse]
      exact refused (fun hfits => hlong.not_gt hfits.2) h₂ hb₂
    · rw [if_neg hempty, if_neg hlong]
      have hroom : src.val.length < destSize := Nat.not_le.mp hlong
      exact copied ⟨Nat.pos_of_ne_zero hempty, hroom⟩ h₁ _ (strlcpy_holds src.ne_zero hroom) hh₁

lemma allocateContext_rule {Q : Outcome (Heap Block) (Except Errno ℕ) → Prop} {sizeofData : ℕ}
    {next : ℕ → ℕ → Prog (Heap Block) (Except Errno ℕ)} (hsize : sizeofData < 2 ^ 63)
    (hnull : ∀ ctx h', next ctx null h' = .blocked h')
    (crashed : ∀ h', Refuses h h' → Q (.blocked h'))
    (allocated : ∀ ctx data h', HoldsContext h.blocks ctx data made block h' → Q (next ctx data h')) :
    Q (allocateContext A made sizeofData block next h) := by
  rw [allocateContext]
  rcases malloc_owns (owns_nil h) A sizeofModbus (.uninit sizeofModbus) with
    ⟨h₁, hmalloc, hb₁, ha₁⟩ | ⟨ctx, h₁, hmalloc, hctx, -, -, hb₁, ho₁⟩
  · rw [bind_done hmalloc]
    exact crashed h₁ ⟨_, _, by decide, ha₁, List.suffix_rfl⟩
  · have hfound : h₁.blocks ctx = some (.uninit sizeofModbus) := by rw [hb₁, Function.update_self]
    obtain ⟨h₂, hinit, hb₂, ho₂⟩ :=
      modify_owns ho₁ List.mem_cons_self hfound (f := Block.init made) rfl
    have hmade : h₂.blocks ctx = some (.context made none) := by rw [hb₂, Function.update_self]
    have ha₂ : Extends h h₂ := by
      rw [Extends, (modify_asked _).done hinit]
      exact (malloc_extends A _ _).done hmalloc
    rw [bind_done hmalloc, bind_done (m := initCommon ctx made) hinit]
    rcases malloc_owns ho₂ A sizeofData block with
      ⟨h₃, hmalloc', hb₃, ha₃⟩ | ⟨data, h₃, hmalloc', hdata, hne, -, hb₃, ho₃⟩
    · obtain ⟨h₄, hset, -, -⟩ := modify_owns (ho₂.congr hb₃) List.mem_cons_self (hb₃ ▸ hmade)
        (f := Block.setData null) rfl
      rw [bind_done hmalloc', bind_done (m := setBackendData ctx null) hset, hnull]
      exact crashed h₄ ⟨_, _, hsize, ((modify_asked _).done hset).trans ha₃, ha₂⟩
    · have hapart : ctx ≠ data := by
        rintro rfl
        exact hne List.mem_cons_self
      have hkept : h₃.blocks ctx = some (.context made none) := by
        rw [hb₃, Function.update_of_ne hapart, hmade]
      obtain ⟨h₄, hset, hb₄, ho₄⟩ := modify_owns ho₃ (List.mem_cons_of_mem data List.mem_cons_self) hkept
        (f := Block.setData data) rfl
      rw [bind_done hmalloc', bind_done (m := setBackendData ctx data) hset]
      refine allocated ctx data h₄ ⟨hctx, hdata, hapart, ?_, ?_, ho₄⟩
      · rw [hb₄, Function.update_self]
      · rw [hb₄, Function.update_of_ne hapart.symm, hb₃, Function.update_self]

inductive NewArgs where
  | rtu (device : CString) (baud : ℤ) (parity : UInt8) (dataBit stopBit : ℤ)
  | tcp (ip : CString) (port : ℤ)
  | tcpPi (node service : CString)

namespace NewArgs

def Acceptable (platform : Platform) : NewArgs → Prop
  | rtu device _ parity _ _ => device.Fits platform.room ∧ isParity parity
  | tcp ip _ => ip.Fits 16
  | tcpPi node service => node.Fits 1025 ∧ service.Fits 32

def context : NewArgs → Modbus
  | rtu .. => modbusNewRtu
  | tcp .. => modbusNewTcp
  | tcpPi .. => modbusNewTcpPi

/-- The strings are followed by null characters, whatever `malloc()` found in the arrays. -/
def Kept : NewArgs → Block → Prop
  | rtu device baud parity dataBit stopBit, block => ∃ m, m.Holds (device.val ++ [0]) ∧ block =
      .rtu ⟨m, some baud, some parity, some (UInt8.ofInt dataBit), some (UInt8.ofInt stopBit)⟩
  | tcp ip port, block => ∃ m, m.Holds (ip.val ++ [0]) ∧ block = .tcp m (some port)
  | tcpPi node service, block => ∃ m m', m.Holds (node.val ++ [0]) ∧ m'.Holds (service.val ++ [0]) ∧
      block = .tcpPi ⟨m, m'⟩

def run (A : Allocator Block) (platform : Platform) (found : CharArray → Mem UInt8) :
    NewArgs → Prog (Heap Block) (Except Errno ℕ)
  | rtu device baud parity dataBit stopBit => mallocRtu A platform found device baud parity dataBit stopBit
  | tcp ip port => mallocTcp A found ip port
  | tcpPi node service => mallocTcpPi A found node service

end NewArgs

inductive NewEnds (platform : Platform) (h₀ : Heap Block) (args : NewArgs) :
    Outcome (Heap Block) (Except Errno ℕ) → Prop where
  | crashed (h : Heap Block) (hrefuses : Refuses h₀ h) : NewEnds platform h₀ args (.blocked h)
  | refused (h : Heap Block) (hno : ¬args.Acceptable platform) (hb : h.blocks = h₀.blocks) :
    NewEnds platform h₀ args (.done (.error .einval) h)
  | made (ctx data : ℕ) (block : Block) (h : Heap Block) (hyes : args.Acceptable platform)
    (hkept : args.Kept block) (hh : HoldsContext h₀.blocks ctx data args.context block h) :
    NewEnds platform h₀ args (.done (.ok ctx) h)

variable {platform : Platform} {found : CharArray → Mem UInt8}

lemma mallocRtu_ends (device : CString) (baud : ℤ) (parity : UInt8) (dataBit stopBit : ℤ) (h : Heap Block) :
    NewEnds platform h (.rtu device baud parity dataBit stopBit)
      (mallocRtu A platform found device baud parity dataBit stopBit h) := by
  refine allocateContext_rule platform.bounded (fun _ _ => rfl) .crashed fun ctx data h₁ hh₁ => ?_
  refine withString_rule hh₁ rfl (fun hno h' hb => .refused h' (fun hyes => hno hyes.1) hb)
    fun hyes h₂ m hm hh₂ => ?_
  obtain ⟨h₃, hbaud, hh₃⟩ := modify_holds hh₂ (f := Block.mapRtu fun rtu => { rtu with baud := some baud }) rfl
  rw [bind_done hbaud]
  by_cases hparity : isParity parity
  · obtain ⟨h₄, hset, hh₄⟩ := modify_holds hh₃
      (f := Block.mapRtu fun rtu => { rtu with parity := some parity }) rfl
    obtain ⟨h₅, hset', hh₅⟩ := modify_holds hh₄ (f := Block.mapRtu fun rtu =>
      { rtu with dataBit := some (UInt8.ofInt dataBit), stopBit := some (UInt8.ofInt stopBit) }) rfl
    rw [if_pos hparity, bind_done hset, bind_done hset']
    exact .made ctx data _ h₅ ⟨hyes, hparity⟩ ⟨m, hm, rfl⟩ hh₅
  · obtain ⟨h₄, hrefuse, hb⟩ := refuse_holds hh₃
    rw [if_neg hparity, hrefuse]
    exact .refused h₄ (fun hacc => hparity hacc.2) hb

lemma mallocTcp_ends (ip : CString) (port : ℤ) (h : Heap Block) :
    NewEnds platform h (.tcp ip port) (mallocTcp A found ip port h) := by
  refine allocateContext_rule (by decide) (fun _ _ => rfl) .crashed fun ctx data h₁ hh₁ => ?_
  refine withString_rule hh₁ rfl (fun hno h' hb => .refused h' hno hb) fun hyes h₂ m hm hh₂ => ?_
  obtain ⟨h₃, hport, hh₃⟩ := modify_holds hh₂ (f := Block.setPort port) rfl
  rw [bind_done hport]
  exact .made ctx data _ h₃ hyes ⟨m, hm, rfl⟩ hh₃

lemma mallocTcpPi_ends (node service : CString) (h : Heap Block) :
    NewEnds platform h (.tcpPi node service) (mallocTcpPi A found node service h) := by
  refine allocateContext_rule (by decide) (fun _ _ => rfl) .crashed fun ctx data h₁ hh₁ => ?_
  refine withString_rule hh₁ rfl (fun hno h' hb => .refused h' (fun hacc => hno hacc.1) hb)
    fun hnode h₂ m hm hh₂ => ?_
  refine withString_rule hh₂ rfl (fun hno h' hb => .refused h' (fun hacc => hno hacc.2) hb)
    fun hservice h₃ m' hm' hh₃ => ?_
  exact .made ctx data _ h₃ ⟨hnode, hservice⟩ ⟨m, m', hm, hm', rfl⟩ hh₃

lemma NewArgs.run_ends (args : NewArgs) (h : Heap Block) :
    NewEnds platform h args (args.run A platform found h) := by
  cases args with
  | rtu device baud parity dataBit stopBit => exact mallocRtu_ends device baud parity dataBit stopBit h
  | tcp ip port => exact mallocTcp_ends ip port h
  | tcpPi node service => exact mallocTcpPi_ends node service h

section Asked

lemma refuse_extends (ctx : ℕ) : Keeps Extends (refuse ctx) := by
  refine .bind (.ite (.pure _) ?_) fun _ => .pure _
  refine .bind (.of_same (load_asked _)) fun data => ?_
  exact .bind (.of_same free_asked) fun _ => .of_same free_asked

lemma withString_extends {next : Prog (Heap Block) (Except Errno ℕ)} (hnext : Keeps Extends next) :
    Keeps Extends (withString ctx data field src destSize next) := by
  refine .bind ?_ fun _ => .ite (refuse_extends ctx) (.ite (refuse_extends ctx) hnext)
  refine .bind (.of_same (load_asked _)) fun array => ?_
  exact .bind (.of_same (modify_asked _)) fun _ => .pure _

lemma allocateContext_extends {sizeofData : ℕ} {next : ℕ → ℕ → Prog (Heap Block) (Except Errno ℕ)}
    (hnext : ∀ ctx data, Keeps Extends (next ctx data)) :
    Keeps Extends (allocateContext A made sizeofData block next) := by
  refine .bind (malloc_extends A _ _) fun ctx => .bind (.of_same (modify_asked _)) fun _ => ?_
  refine .bind (malloc_extends A _ _) fun data => .bind (.of_same (modify_asked _)) fun _ => ?_
  exact hnext ctx data

lemma NewArgs.run_extends (args : NewArgs) : Keeps Extends (args.run A platform found) := by
  have hset (data : ℕ) (f : Block → Option Block) : Keeps Extends (modify data f) :=
    .of_same (modify_asked f)
  cases args with
  | rtu device baud parity dataBit stopBit =>
    refine allocateContext_extends fun ctx data => withString_extends ?_
    refine .bind (hset _ _) fun _ => .ite ?_ (refuse_extends ctx)
    exact .bind (hset _ _) fun _ => .bind (hset _ _) fun _ => .pure _
  | tcp ip port =>
    exact allocateContext_extends fun ctx data =>
      withString_extends (.bind (hset _ _) fun _ => .pure _)
  | tcpPi node service =>
    exact allocateContext_extends fun ctx data => withString_extends (withString_extends (.pure _))

end Asked

/-- The constructors one after the other, until one of them makes a context. The network initialiser does
so with `modbus_new_tcp` for the addresses of a host. -/
def newFirst (A : Allocator Block) (platform : Platform) (found : ℕ → CharArray → Mem UInt8) (e : Errno) :
    List NewArgs → Prog (Heap Block) (Except Errno ℕ)
  | [] => pure (.error e)
  | args :: rest => do
    let made ← args.run A platform (found 0)
    match made with
    | .ok ctx => return .ok ctx
    | .error e => newFirst A platform (fun n => found (n + 1)) e rest

lemma newFirst_made {args : NewArgs} {rest : List NewArgs} {found : ℕ → CharArray → Mem UInt8} {e : Errno}
    {h' : Heap Block} (hrun : args.run A platform (found 0) h = .done (.ok ctx) h') :
    newFirst A platform found e (args :: rest) h = .done (.ok ctx) h' := by
  rw [newFirst, bind_done hrun]
  rfl

lemma newFirst_refused {args : NewArgs} {rest : List NewArgs} {found : ℕ → CharArray → Mem UInt8} {e e' : Errno}
    {h' : Heap Block} (hrun : args.run A platform (found 0) h = .done (.error e') h') :
    newFirst A platform found e (args :: rest) h =
      newFirst A platform (fun n => found (n + 1)) e' rest h' := by
  rw [newFirst, bind_done hrun]

def FirstEnds (platform : Platform) (h : Heap Block) (argss : List NewArgs)
    (o : Outcome (Heap Block) (Except Errno ℕ)) : Prop :=
  (∃ h', o = .blocked h' ∧ Refuses h h') ∨
  (∃ e h', o = .done (.error e) h' ∧ h'.blocks = h.blocks ∧ ∀ args ∈ argss, ¬args.Acceptable platform) ∨
  ∃ before args after ctx data block h', argss = before ++ args :: after ∧
    (∀ args' ∈ before, ¬args'.Acceptable platform) ∧ args.Acceptable platform ∧
    o = .done (.ok ctx) h' ∧ args.Kept block ∧ HoldsContext h.blocks ctx data args.context block h'

lemma newFirst_ends (found : ℕ → CharArray → Mem UInt8) (e : Errno) (argss : List NewArgs) (h : Heap Block) :
    FirstEnds platform h argss (newFirst A platform found e argss h) := by
  induction argss generalizing found e h with
  | nil => exact .inr (.inl ⟨e, h, rfl, rfl, by simp⟩)
  | cons args rest ih =>
    have hends := @NewArgs.run_ends A platform (found 0) args h
    generalize hrun : args.run A platform (found 0) h = o at hends
    cases hends with
    | crashed h' hr => exact .inl ⟨h', bind_blocked hrun _, hr⟩
    | refused h₁ hno hb =>
      rw [newFirst_refused hrun]
      rcases ih (fun n => found (n + 1)) .einval h₁ with ⟨h', ho, hr⟩ | ⟨e', h', ho, hb', hall⟩ |
        ⟨before, args', after, ctx, data, block, h', hsplit, hbefore, hyes, ho, hkept, hh⟩
      · exact .inl ⟨h', ho, hr.of_extends ((args.run_extends).done hrun)⟩
      · exact .inr (.inl ⟨e', h', ho, hb'.trans hb, List.forall_mem_cons.mpr ⟨hno, hall⟩⟩)
      · exact .inr (.inr ⟨args :: before, args', after, ctx, data, block, h', by rw [hsplit]; rfl,
          List.forall_mem_cons.mpr ⟨hno, hbefore⟩, hyes, ho, hkept, hb ▸ hh⟩)
    | made ctx data block h' hyes hkept hh =>
      exact .inr (.inr ⟨[], args, rest, ctx, data, block, h', rfl, by simp, hyes, newFirst_made hrun, hkept, hh⟩)

/-- Without memory a constructor follows a null pointer. Otherwise everything that is allocated for arguments
that are refused has been freed again, the first acceptable arguments are copied into a context, no other
block has changed, and `modbus_free` leaves the heap as it was before. -/
theorem context_lifetime (A : Allocator Block) (platform : Platform) (found : ℕ → CharArray → Mem UInt8)
    (e : Errno) (argss : List NewArgs) (h : Heap Block) :
    (∃ h', newFirst A platform found e argss h = .blocked h' ∧ Refuses h h') ∨
    (∃ e' h', newFirst A platform found e argss h = .done (.error e') h' ∧ h'.blocks = h.blocks ∧
      ∀ args ∈ argss, ¬args.Acceptable platform) ∨
    ∃ before args after ctx data block h', argss = before ++ args :: after ∧
      (∀ args' ∈ before, ¬args'.Acceptable platform) ∧ args.Acceptable platform ∧
      newFirst A platform found e argss h = .done (.ok ctx) h' ∧
      h'.blocks ctx = some (.context args.context (some data)) ∧ h'.blocks data = some block ∧
      args.Kept block ∧ (∀ q, h.blocks q ≠ none → h'.blocks q = h.blocks q) ∧
      ∃ h'', modbusFree ctx h' = .done () h'' ∧ h''.blocks = h.blocks := by
  rcases newFirst_ends found e argss h with hcrash | hnone |
    ⟨before, args, after, ctx, data, block, h', hsplit, hbefore, hyes, ho, hkept, hh⟩
  · exact .inl hcrash
  · exact .inr (.inl hnone)
  · exact .inr (.inr ⟨before, args, after, ctx, data, block, h', hsplit, hbefore, hyes, ho, hh.context,
      hh.backendData, hkept, fun q hq => hh.owns.kept hq, modbusFree_holds hh⟩)

def smallPlatform : Platform := ⟨16, 136, by decide⟩

def loopback : CString := ⟨[49, 50, 55, 46, 48, 46, 48, 46, 49], by decide⟩

def tooLong : CString := ⟨List.replicate 16 49, by decide⟩

def twoAddresses : List NewArgs := [.tcp tooLong 502, .tcp loopback 502]

theorem context_lifetime_example : ∃ data h' h'',
    newFirst (bumpAllocator Block) smallPlatform (fun _ _ _ => 0) .einval twoAddresses ⟨fun _ => none, []⟩ =
      .done (.ok 3) h' ∧
    h'.blocks 3 = some (.context modbusNewTcp (some data)) ∧
    modbusFree 3 h' = .done () h'' ∧ h''.blocks = fun _ => none := by
  have hrun : (newFirst (bumpAllocator Block) smallPlatform (fun _ _ _ => 0) .einval twoAddresses
      ⟨fun _ => none, []⟩).value = some (.ok 3) := rfl
  have hlife := context_lifetime (bumpAllocator Block) smallPlatform (fun _ _ _ => 0) .einval twoAddresses
    ⟨fun _ => none, []⟩
  rcases hlife with ⟨h', ho, -⟩ | ⟨e', h', ho, -⟩ |
    ⟨before, args, after, ctx, data, block, h', hsplit, -, -, ho, hctx, -, -, -, h'', hfree, hb⟩
  · rw [ho] at hrun
    cases hrun
  · rw [ho] at hrun
    cases hrun
  · rw [ho] at hrun
    cases hrun
    have hargs : args ∈ twoAddresses := by simp [hsplit]
    have htcp : args.context = modbusNewTcp := by
      simp only [twoAddresses, List.mem_cons, List.not_mem_nil, or_false] at hargs
      rcases hargs with rfl | rfl <;> rfl
    exact ⟨data, h', h'', ho, htcp ▸ hctx, hfree, hb⟩

end LibModbus
