import LibModbus.Device.Initialisers
import LibModbus.Model.Network
import Mathlib.Data.List.TakeWhile
import Mathlib.Data.String.Basic

/-! The address that a device is made for. -/

namespace LibModbus

open Library

section Texts

def IsText (s : String) : Prop := ∀ c ∈ s.toList, 0 < c.toNat ∧ c.toNat < 128

def IsIPv4 (s : String) : Prop :=
  ∃ a b c d : ℕ, (a < 256 ∧ b < 256 ∧ c < 256 ∧ d < 256) ∧ s = s!"{a}.{b}.{c}.{d}"

/-- Every IPv6 address has a colon, and no more is needed of it here. -/
def IsIPv6 (s : String) : Prop := ':' ∈ s.toList ∧ IsText s

def IsHostAddress (s : String) : Prop := IsIPv4 s ∨ IsIPv6 s

variable {s t : String}

lemma octet_length {n : ℕ} (h : n < 256) : 0 < (toString n).length ∧ (toString n).length ≤ 3 := by
  constructor
  · exact Nat.length_repr_pos
  · exact (Nat.length_repr_le_iff (by decide)).mpr (by omega)

lemma IsIPv4.length (h : IsIPv4 s) : 7 ≤ s.length ∧ s.length ≤ 15 := by
  obtain ⟨a, b, c, d, ⟨ha, hb, hc, hd⟩, rfl⟩ := h
  have hla := octet_length ha
  have hlb := octet_length hb
  have hlc := octet_length hc
  have hld := octet_length hd
  have hdot : (toString ".").length = 1 := rfl
  simp only [String.length_append, hdot]
  omega

lemma isText_of_all (h : s.toList.all (fun c => decide (0 < c.toNat ∧ c.toNat < 128)) = true) : IsText s :=
  fun c hc => of_decide_eq_true (List.all_eq_true.mp h c hc)

lemma IsText.append (hs : IsText s) (ht : IsText t) : IsText (s ++ t) := by
  intro c hc
  rw [String.toList_append, List.mem_append] at hc
  exact hc.elim (hs c) (ht c)

lemma isText_octet (n : ℕ) : IsText (toString n) := by
  intro c hc
  have hdigit : c.isDigit := by
    apply Nat.isDigit_of_mem_toDigits (b := 10) (n := n) (by decide) (by decide)
    rwa [Nat.toString_eq_repr, Nat.repr_eq_ofList_toDigits, String.toList_ofList] at hc
  simp only [Char.isDigit, Bool.and_eq_true, decide_eq_true_eq, UInt32.le_iff_toNat_le, ge_iff_le] at hdigit
  exact ⟨Nat.lt_of_lt_of_le (by decide) hdigit.1, Nat.lt_of_le_of_lt hdigit.2 (by decide)⟩

lemma IsHostAddress.text (h : IsHostAddress s) : IsText s := by
  rcases h with ⟨a, b, c, d, -, rfl⟩ | h
  · have hdot : IsText (toString ".") := isText_of_all rfl
    have htwo := ((isText_octet a).append hdot).append (isText_octet b)
    exact (((htwo.append hdot).append (isText_octet c)).append hdot).append (isText_octet d)
  · exact h.2

lemma utf8Len_ascii {cs : List Char} (h : ∀ c ∈ cs, c.toNat < 128) : String.utf8Len cs = cs.length := by
  induction cs with
  | nil => rfl
  | cons c cs ih =>
    rw [List.forall_mem_cons] at h
    have hsize : c.utf8Size = 1 := Char.utf8Size_eq_one_iff.mpr (Nat.le_of_lt_succ h.1)
    rw [String.utf8Len_cons, ih h.2, hsize, List.length_cons]

lemma IsText.utf8ByteSize (h : IsText s) : s.utf8ByteSize = s.length := by
  rw [← String.length_toList, ← utf8Len_ascii fun c hc => (h c hc).2, ← String.utf8ByteSize_ofList,
    String.ofList_toList]

lemma IsHostAddress.length_pos (h : IsHostAddress s) : 0 < s.length := by
  rcases h with h | h
  · exact Nat.lt_of_lt_of_le (by decide) h.length.1
  · rw [← String.length_toList]
    exact List.length_pos_of_mem h.1

end Texts

section Bytes

variable {s t : String}

def textBytes (s : String) : List UInt8 := s.toList.map fun c => UInt8.ofNat c.toNat

lemma cStringAscii_text (h : IsText s) : cStringAscii s = some (textBytes s) := by
  apply if_pos
  exact List.all_eq_true.mpr fun c hc => decide_eq_true (h c hc).2

lemma textBytes_length (s : String) : (textBytes s).length = s.length := by
  rw [textBytes, List.length_map, String.length_toList]

lemma toNat_ascii {c : Char} (h : c.toNat < 128) : (UInt8.ofNat c.toNat).toNat = c.toNat := by
  rw [UInt8.toNat_ofNat', Nat.mod_eq_of_lt (by omega)]

lemma textBytes_chars (h : IsText s) : (textBytes s).map (fun b => Char.ofNat b.toNat) = s.toList := by
  rw [textBytes, List.map_map]
  apply (List.map_congr_left fun c hc => ?_).trans (List.map_id _)
  rw [Function.comp_apply, toNat_ascii (h c hc).2, Char.ofNat_toNat, id]

lemma textBytes_inj (hs : IsText s) (ht : IsText t) (h : textBytes s = textBytes t) : s = t := by
  apply String.toList_inj.mp
  rw [← textBytes_chars hs, ← textBytes_chars ht, h]

lemma textBytes_ne_zero (h : IsText s) : ∀ b ∈ textBytes s, b ≠ 0 := by
  intro b hb
  obtain ⟨c, hc, rfl⟩ := List.mem_map.mp hb
  intro hzero
  have hnat := toNat_ascii (h c hc).2
  rw [hzero] at hnat
  exact absurd (h c hc).1 hnat.ge.not_gt

end Bytes

section Copies

variable {dst : Mem UInt8} {src : List UInt8} {maxlen : ℕ}

lemma strlen_eq (h : ∀ b ∈ src, b ≠ 0) : strlen src = src.length := by
  rw [strlen, List.takeWhile_eq_self_iff.mpr]
  simpa using h

lemma strlcpy_length (dst : Mem UInt8) (src : List UInt8) (maxlen : ℕ) :
    (strlcpy dst src maxlen).2 = strlen src := by
  unfold strlcpy
  dsimp only
  split_ifs <;> rfl

lemma strlcpy_holds (h : ∀ b ∈ src, b ≠ 0) (hroom : src.length < maxlen) :
    (strlcpy dst src maxlen).1.Holds (src ++ [0]) := by
  have hwrite := Mem.holds_write_self dst (src ++ [0])
  unfold strlcpy
  dsimp only
  rw [strlen_eq h]
  by_cases hlt : src.length + 1 < maxlen
  · rw [if_pos hlt]
    dsimp only
    rwa [List.take_of_length_le (by simp)]
  · have hlast : maxlen - 1 = src.length := by omega
    rw [if_neg hlt, if_pos (by omega)]
    dsimp only
    rw [hlast, List.take_left, ← Mem.write_singleton]
    have happend := Mem.write_append dst 0 src [0]
    rw [Nat.zero_add] at happend
    rwa [happend]

end Copies

section Loop

variable {malloced : ℕ → Mem UInt8} {port : ℤ} {s : String} {ipAddresses : List String}

def ModbusTcp.Stores (ctxTcp : ModbusTcp) (s : String) : Prop := ctxTcp.ip.Holds (textBytes s ++ [0])

lemma modbusNewTcpAt_text (h : IsText s) (ip : Mem UInt8) (port : ℤ) :
    modbusNewTcpAt ip (textBytes s) port = if s.length = 0 ∨ 16 ≤ s.length then none
      else some (modbusNewTcp, ⟨port, (strlcpy ip (textBytes s) 16).1⟩) := by
  have hret : (strlcpy ip (textBytes s) 16).2 = s.length := by
    rw [strlcpy_length, strlen_eq (textBytes_ne_zero h), textBytes_length]
  rw [modbusNewTcpAt]
  dsimp only
  rw [hret, ite_or]

lemma newTcpLoop_short (h : IsHostAddress s) (hshort : s.length ≤ 15) :
    ∃ ctxTcp, ctxTcp.Stores s ∧
      newTcpLoop malloced port (s :: ipAddresses) = .made modbusNewTcp ctxTcp := by
  have hpos := h.length_pos
  have hroom : (textBytes s).length < 16 := by
    rw [textBytes_length]
    omega
  refine ⟨⟨port, (strlcpy (malloced 0) (textBytes s) 16).1⟩, ?_, ?_⟩
  · exact strlcpy_holds (textBytes_ne_zero h.text) hroom
  · rw [newTcpLoop, cStringAscii_text h.text]
    dsimp only
    rw [modbusNewTcpAt_text h.text, if_neg (by omega)]

lemma newTcpLoop_long (h : IsHostAddress s) (hlong : 15 < s.length) :
    newTcpLoop malloced port (s :: ipAddresses) =
      newTcpLoop (fun n => malloced (n + 1)) port ipAddresses := by
  rw [newTcpLoop, cStringAscii_text h.text]
  dsimp only
  rw [modbusNewTcpAt_text h.text, if_pos (by omega)]

lemma newTcpLoop_takes (malloced : ℕ → Mem UInt8) (port : ℤ) {before : List String}
    (hhost : ∀ s ∈ before, IsHostAddress s) (hshort : ∃ s ∈ before, s.length ≤ 15) (after : List String) :
    ∃ s ∈ before, s.length ≤ 15 ∧ ∃ ctxTcp, ctxTcp.Stores s ∧
      newTcpLoop malloced port (before ++ after) = .made modbusNewTcp ctxTcp := by
  induction before generalizing malloced with
  | nil => exact absurd hshort (by simp)
  | cons s before ih =>
    rw [List.forall_mem_cons] at hhost
    by_cases hs : s.length ≤ 15
    · exact ⟨s, List.mem_cons_self, hs, newTcpLoop_short hhost.1 hs⟩
    · rw [List.exists_mem_cons_iff, or_iff_right hs] at hshort
      obtain ⟨t, ht, htlen, hmade⟩ := ih _ hhost.2 hshort
      refine ⟨t, List.mem_cons_of_mem s ht, htlen, ?_⟩
      rwa [List.cons_append, newTcpLoop_long hhost.1 (not_le.mp hs)]

end Loop

section Initialiser

variable {malloced : ℕ → Mem UInt8} {ipAddresses : List String} {port deviceAddress : UInt16} {auto idle : ℚ}

lemma newTcpLoop_newTcp (malloced : ℕ → Mem UInt8) (port : ℤ) (h : ∀ s ∈ ipAddresses, IsHostAddress s) :
    match ipAddresses.findSome? newTcp with
    | none => newTcpLoop malloced port ipAddresses = .refused
    | some ctx => ∃ ctxTcp, newTcpLoop malloced port ipAddresses = .made ctx ctxTcp := by
  induction ipAddresses generalizing malloced with
  | nil => rfl
  | cons s ipAddresses ih =>
    rw [List.forall_mem_cons] at h
    have hsize := h.1.text.utf8ByteSize
    have hpos := h.1.length_pos
    rw [List.findSome?_cons, newTcp]
    by_cases hs : s.length ≤ 15
    · rw [if_neg (by omega)]
      obtain ⟨ctxTcp, -, hmade⟩ := newTcpLoop_short h.1 hs
      exact ⟨ctxTcp, hmade⟩
    · rw [if_pos (by omega), newTcpLoop_long h.1 (not_le.mp hs)]
      exact ih _ h.2

lemma initNetworkData_fst (h : ∀ s ∈ ipAddresses, IsHostAddress s) :
    (Actor.initNetworkData malloced ipAddresses port deviceAddress auto idle).1 =
      Actor.initNetwork ipAddresses deviceAddress auto idle := by
  have hloop := newTcpLoop_newTcp malloced port.toNat h
  rw [Actor.initNetworkData, Actor.initNetwork]
  by_cases hempty : ipAddresses = []
  · rw [if_pos hempty, if_pos hempty]
  · rw [if_neg hempty, if_neg hempty]
    cases hfind : ipAddresses.findSome? newTcp with
    | none =>
      rw [hfind] at hloop
      dsimp only at hloop
      rw [hloop]
    | some ctx =>
      rw [hfind] at hloop
      obtain ⟨ctxTcp, hmade⟩ := hloop
      rewrite [hmade]
      rfl

/-- A device is returned that would connect to an IPv4 address of the list. -/
def PicksIPv4 (ipAddresses : List String) (made : Initialised × Option ModbusTcp) : Prop :=
  ∃ d ctxTcp, made = (.device d, some ctxTcp) ∧ ∃ ip ∈ ipAddresses, IsIPv4 ip ∧ ctxTcp.Stores ip

/-- No text before the first IPv4 address is short enough to be taken for one. -/
def LongBeforeIPv4 (ipAddresses : List String) : Prop :=
  ∀ before ip after, ipAddresses = before ++ ip :: after → IsIPv4 ip → (∀ s ∈ before, ¬IsIPv4 s) →
    ∀ s ∈ before, 15 < s.length

lemma ModbusTcp.Stores.inj {ctxTcp : ModbusTcp} {s t : String} (hs : IsText s) (ht : IsText t)
    (h : ctxTcp.Stores s) (h' : ctxTcp.Stores t) : s = t :=
  textBytes_inj hs ht (h.ended_inj (textBytes_ne_zero hs) (textBytes_ne_zero ht) h')

lemma exists_first {P : String → Prop} (h : ∃ s ∈ ipAddresses, P s) :
    ∃ before s after, ipAddresses = before ++ s :: after ∧ P s ∧ ∀ t ∈ before, ¬P t := by
  classical
  obtain ⟨s, hs, hp⟩ := h
  have hsome : (ipAddresses.find? (decide <| P ·)).isSome := List.find?_isSome.mpr ⟨s, hs, decide_eq_true hp⟩
  obtain ⟨t, ht⟩ := Option.isSome_iff_exists.mp hsome
  obtain ⟨hpt, before, after, hsplit, hbefore⟩ := List.find?_eq_some_iff_append.mp ht
  exact ⟨before, t, after, hsplit, of_decide_eq_true hpt, fun t ht => by simpa using hbefore t ht⟩

lemma initNetworkData_takes (h : ∀ s ∈ ipAddresses, IsHostAddress s) {before after : List String}
    (hsplit : ipAddresses = before ++ after) (hshort : ∃ s ∈ before, s.length ≤ 15) :
    ∃ s ∈ before, s.length ≤ 15 ∧ ∃ d ctxTcp, ctxTcp.Stores s ∧
      Actor.initNetworkData malloced ipAddresses port deviceAddress auto idle =
        (.device d, some ctxTcp) := by
  obtain rfl := hsplit
  have hbefore (s) (hs : s ∈ before) := h s (List.mem_append_left after hs)
  obtain ⟨s, hs, hlen, ctxTcp, hstores, hmade⟩ :=
    newTcpLoop_takes malloced port.toNat hbefore hshort after
  have hne : before ++ after ≠ [] := List.ne_nil_of_mem (List.mem_append_left after hs)
  have hfind : (before ++ after).findSome? newTcp = some modbusNewTcp := by
    have hloop := newTcpLoop_newTcp malloced port.toNat h
    rw [hmade] at hloop
    cases hfind : (before ++ after).findSome? newTcp with
    | none =>
      rw [hfind] at hloop
      exact absurd hloop nofun
    | some ctx =>
      rw [hfind] at hloop
      obtain ⟨_, hctx⟩ := hloop
      rw [(NewContext.made.inj hctx).1]
  obtain ⟨w, -, hdevice⟩ := @Actor.initNetwork_made _ deviceAddress auto idle hfind
  refine ⟨s, hs, hlen, _, ctxTcp, hstores, Prod.ext ((initNetworkData_fst h).trans hdevice) ?_⟩
  rw [Actor.initNetworkData, if_neg hne, hmade]

lemma not_picks (h : ∀ s ∈ ipAddresses, IsHostAddress s) {before after : List String}
    (hsplit : ipAddresses = before ++ after) (hbefore : ∀ s ∈ before, ¬IsIPv4 s)
    (hshort : ∃ s ∈ before, s.length ≤ 15) : ¬PicksIPv4 ipAddresses
      (Actor.initNetworkData malloced ipAddresses port deviceAddress auto idle) := by
  rintro ⟨d', ctxTcp', hmade', ip, hip, hv4, hstores'⟩
  obtain ⟨s, hs, -, d, ctxTcp, hstores, hmade⟩ := initNetworkData_takes h hsplit hshort
  obtain rfl := Option.some.inj (congrArg Prod.snd (hmade.symm.trans hmade'))
  have hmem : s ∈ ipAddresses := hsplit ▸ List.mem_append_left after hs
  obtain rfl := hstores.inj (h s hmem).text (h ip hip).text hstores'
  exact hbefore s hs hv4

lemma picks (h : ∀ s ∈ ipAddresses, IsHostAddress s) {before after : List String} {ip : String}
    (hsplit : ipAddresses = before ++ ip :: after) (hip : IsIPv4 ip) (hlong : ∀ s ∈ before, 15 < s.length) :
    PicksIPv4 ipAddresses (Actor.initNetworkData malloced ipAddresses port deviceAddress auto idle) := by
  have hlist : ipAddresses = (before ++ [ip]) ++ after := by
    rw [hsplit, List.append_assoc, List.singleton_append]
  obtain ⟨s, hs, hshort, d, ctxTcp, hstores, hmade⟩ :=
    initNetworkData_takes h hlist ⟨ip, List.mem_append_right before List.mem_cons_self, hip.length.2⟩
  refine ⟨d, ctxTcp, hmade, ip, hsplit ▸ List.mem_append_right before List.mem_cons_self, hip, ?_⟩
  rcases List.mem_append.mp hs with hs | hs
  · exact absurd (hlong s hs) hshort.not_gt
  · rwa [← List.mem_singleton.mp hs]

end Initialiser

/-- The list is taken in its order, and a text for an IPv4 address as soon as it fits. -/
theorem network_address_iff (malloced : ℕ → Mem UInt8) {ipAddresses : List String}
    (port deviceAddress : UInt16) (auto idle : ℚ) (h : ∀ s ∈ ipAddresses, IsHostAddress s) :
    ((∃ s ∈ ipAddresses, IsIPv4 s) → PicksIPv4 ipAddresses
      (Actor.initNetworkData malloced ipAddresses port deviceAddress auto idle)) ↔
        LongBeforeIPv4 ipAddresses := by
  constructor
  · intro hpicks before ip after hsplit hip hbefore s hs
    by_contra hshort
    apply not_picks h hsplit hbefore ⟨s, hs, not_lt.mp hshort⟩
    exact hpicks ⟨ip, hsplit ▸ List.mem_append_right before List.mem_cons_self, hip⟩
  · intro hlong hexists
    obtain ⟨before, ip, after, hsplit, hip, hbefore⟩ := exists_first hexists
    exact picks h hsplit hip (hlong before ip after hsplit hip hbefore)

lemma longBeforeIPv4_of_short {ipAddresses : List String}
    (h : ∀ s ∈ ipAddresses, s.length ≤ 15 → IsIPv4 s) : LongBeforeIPv4 ipAddresses := by
  intro before ip after hsplit hip hbefore s hs
  by_contra hshort
  exact hbefore s hs (h s (hsplit ▸ List.mem_append_left _ hs) (not_lt.mp hshort))

lemma isHostAddress_pair {s t : String} (hs : IsIPv6 s) (ht : IsIPv4 t) : ∀ u ∈ [s, t], IsHostAddress u := by
  intro u hu
  rcases List.mem_pair.mp hu with rfl | rfl
  · exact .inr hs
  · exact .inl ht

theorem network_address_iff_example : PicksIPv4 ["fe80::1c2f:65ff:fe4b:12a3", "192.168.0.1"]
    (Actor.initNetworkData (fun _ _ => 0) ["fe80::1c2f:65ff:fe4b:12a3", "192.168.0.1"] 502 1 3600 10) := by
  have hv6 : IsIPv6 "fe80::1c2f:65ff:fe4b:12a3" := ⟨by decide, isText_of_all rfl⟩
  have hv4 : IsIPv4 "192.168.0.1" := ⟨192, 168, 0, 1, by decide, rfl⟩
  apply (network_address_iff (fun _ _ => 0) 502 1 3600 10 (isHostAddress_pair hv6 hv4)).mpr
  · apply longBeforeIPv4_of_short
    intro s hs hshort
    rcases List.mem_pair.mp hs with rfl | rfl
    · exact absurd hshort (by decide)
    · exact hv4
  · exact ⟨_, List.mem_cons_of_mem _ List.mem_cons_self, hv4⟩

/-- The IPv6 address of the loopback interface is stored, which nothing can connect to. -/
theorem loopback_not_picked : (∃ s ∈ ["::1", "127.0.0.1"], IsIPv4 s) ∧ ¬PicksIPv4 ["::1", "127.0.0.1"]
    (Actor.initNetworkData (fun _ _ => 0) ["::1", "127.0.0.1"] 502 1 3600 10) := by
  have hv6 : IsIPv6 "::1" := ⟨by decide, isText_of_all rfl⟩
  have hv4 : IsIPv4 "127.0.0.1" := ⟨127, 0, 0, 1, by decide, rfl⟩
  refine ⟨⟨_, List.mem_cons_of_mem _ List.mem_cons_self, hv4⟩, ?_⟩
  have hsplit : ["::1", "127.0.0.1"] = ["::1"] ++ ["127.0.0.1"] := rfl
  apply not_picks (isHostAddress_pair hv6 hv4) hsplit
  · intro s hs hshort
    obtain rfl := List.mem_singleton.mp hs
    exact absurd hshort.length.1 (by decide)
  · exact ⟨_, List.mem_cons_self, by decide⟩

end LibModbus
