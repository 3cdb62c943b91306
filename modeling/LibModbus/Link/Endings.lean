import LibModbus.Library.Progress
import LibModbus.Link.Attached

/-! How many answers the connection layer of a TCP context waits for, when what the system does to it does
not last for ever. -/

namespace LibModbus

open Library Library.Prog

section Answers

variable (answers : ℕ → Response) (limit : Option ℕ)

def answersLeft (n k : ℕ) : List Response := ((List.range n).map answers).drop k

structure Stands (n k : ℕ) (w : World) : Prop where
  script : w.script = answersLeft answers n k
  backend : w.ctx.backend = .tcp
  rx : ∀ l ∈ limit, w.rx.length ≤ l

def Held (w : World) : Prop := w.script ≠ []

/-- Signals come to an end again and again, and so do the bytes of the peer. -/
structure Relents : Prop where
  select (n : ℕ) : ∃ l, n ≤ l ∧ (answers l).select ≠ .error .eintr
  sleep (n : ℕ) : ∃ l, n ≤ l ∧ (answers l).trouble ≠ some .eintr
  flush : limit.isSome ∨ ∀ n, ∃ l, n ≤ l ∧ ∀ m, (answers l).recv ≠ .data m

abbrev Within {α : Type} (p q : ℕ) (m : M α) : Prop := Prompt (Stands answers limit) Held p q m

variable {answers limit} {n k p q : ℕ} {w : World} {α β : Type}

lemma Stands.length (h : Stands answers limit n k w) : w.script.length = n - k := by
  rw [h.script, answersLeft, List.length_drop, List.length_map, List.length_range]

lemma Stands.held (h : Stands answers limit n k w) (hk : k < n) : Held w := by
  apply List.ne_nil_of_length_pos
  rw [h.length]
  omega

lemma Stands.next (h : Stands answers limit n k w) (hk : k < n) :
    w.script = answers k :: answersLeft answers n (k + 1) := by
  have hlen : k < ((List.range n).map answers).length := by simpa using hk
  rw [h.script, answersLeft, List.drop_eq_getElem_cons hlen]
  simp [answersLeft]

lemma Stands.ask (h : Stands answers limit n k w) (hk : k < n) :
    ask w = .done (answers k) { w with script := answersLeft answers n (k + 1) } := by
  rw [LibModbus.ask, h.next hk]

lemma ask_next (hk : k < n) : Triple (Stands answers limit n k) ask
    (fun r w => r = answers k ∧ Stands answers limit n (k + 1) w) Held := by
  intro w hw
  rw [hw.ask hk]
  exact ⟨rfl, rfl, hw.backend, hw.rx⟩

namespace Within

lemma ask : Within answers limit p (p + 1) ask := by
  intro n hn k hk
  apply (ask_next (by omega)).post
  rintro _ w ⟨-, hw⟩
  exact ⟨k + 1, Nat.le_succ k, Nat.succ_le_succ hk, hw⟩

lemma getErrno : Within answers limit p p getErrno := fun _ _ k hk _ hw => ⟨k, le_rfl, hk, hw⟩

lemma on_ctx {f : Modbus → M α} (h : ∀ ctx, ctx.backend = .tcp → Within answers limit p q (f ctx)) :
    Within answers limit p q (getCtx >>= f) :=
  fun n hn k hk w hw => h w.ctx hw.backend n hn k hk w hw

lemma record (c : Call) : Within answers limit p p (record c) :=
  .modify (fun _ _ _ hw => ⟨hw.script, hw.backend, hw.rx⟩) le_rfl

lemma setErrno (e : Errno) : Within answers limit p p (setErrno e) :=
  .modify (fun _ _ _ hw => ⟨hw.script, hw.backend, hw.rx⟩) le_rfl

lemma setSocket (s : ℤ) : Within answers limit p p (setSocket s) :=
  .modify (fun _ _ _ hw => ⟨hw.script, hw.backend, hw.rx⟩) le_rfl

lemma failed (e : Errno) (a : α) : Within answers limit p p (LibModbus.setErrno e >>= fun _ => pure a) :=
  .bind (setErrno e) (fun _ => .pure a le_rfl) le_rfl

section Connect

lemma osIgnored (c : Call) : Within answers limit p (p + 1) (osIgnored c) := by
  refine .bind (record c) (fun _ => .bind ask (fun r => ?_) le_rfl) (Nat.le_succ p)
  cases r.trouble with
  | none => exact .pure () le_rfl
  | some e => exact setErrno e

lemma osOption (c : Call) : Within answers limit p (p + 1) (osOption c) := by
  refine .bind (record c) (fun _ => .bind ask (fun r => ?_) le_rfl) (Nat.le_succ p)
  cases r.option with
  | none => exact .pure 0 le_rfl
  | some e => exact failed e _

lemma osDescriptor : Within answers limit p (p + 1) osDescriptor := by
  refine .bind ask (fun r => ?_) le_rfl
  cases r.descriptor with
  | ok fd => exact .bind (record _) (fun _ => .pure _ le_rfl) le_rfl
  | error e => exact failed e _

lemma osSelectWritable (s : ℤ) (tv : Option Timeval) :
    Within answers limit p (p + 1) (osSelectWritable s tv) := by
  rw [osSelectWritable_variable]
  refine .bind (record _) (fun _ => .bind ask (fun r => ?_) le_rfl) (Nat.le_succ p)
  dsimp only
  cases r.writable with
  | error e => exact failed e _
  | ok ready => cases ready <;> exact .pure _ le_rfl

lemma tcpSetIpv4Options (s : ℤ) : Within answers limit p (p + 2) (tcpSetIpv4Options s) := by
  refine .bind (osOption _) (fun rc => .ite (fun _ => .pure _ (Nat.le_succ _)) fun _ => ?_) (by omega)
  exact .bind (osOption _) (fun rc => .ite (fun _ => .pure _ le_rfl) fun _ => .pure _ le_rfl) le_rfl

lemma connectSocket (s : ℤ) :
    Within answers limit p (p + 3) (connectSocket s (some TimeoutField.responseTimeout)) := by
  rw [connectSocket_responseTimeout]
  refine on_ctx fun ctx _ => ?_
  rw [connectSocket_variable]
  refine .bind (record _) (fun _ => .bind ask (fun r => ?_) (by omega)) (by omega)
  cases r.connect with
  | ok _ => exact .pure _ (by omega)
  | error e =>
    refine .bind (setErrno e) (fun _ => .ite (fun _ => ?_) fun _ => .pure _ (by omega)) (by omega)
    refine .bind (osSelectWritable s _) ?_ (by omega)
    rintro ⟨rc, tv⟩
    refine .ite (fun _ => .pure _ (by omega)) fun _ => .bind ask (fun r => ?_) le_rfl
    exact .ite (fun _ => .pure _ le_rfl) fun _ => failed _ _

lemma tcpConnect : Within answers limit p (p + 7) tcpConnect := by
  refine .bind osDescriptor (fun s => .bind (setSocket s) (fun _ => ?_) (by omega)) (by omega)
  refine .ite (fun _ => .pure _ (by omega)) fun _ => .bind (tcpSetIpv4Options s) (fun rc => ?_) (by omega)
  have hclose {p : ℕ} : Within answers limit p (p + 1) (osClose s >>= fun _ => (pure (-1) : M ℤ)) :=
    .bind (osIgnored _) (fun _ => .pure _ le_rfl) le_rfl
  refine .ite (fun _ => hclose.mono le_rfl (by omega)) fun _ => ?_
  refine .bind (connectSocket s) (fun rc => .ite (fun _ => hclose) fun _ => .pure _ ?_) (by omega)
  exact Nat.le_succ _

lemma modbusConnect : Within answers limit p (p + 7) modbusConnect := by
  refine on_ctx fun ctx hctx => ?_
  rw [hctx]
  exact tcpConnect

lemma modbusClose : Within answers limit p (p + 2) modbusClose := by
  refine on_ctx fun ctx hctx => ?_
  rw [hctx]
  exact on_ctx fun ctx _ => .bind (osIgnored _) (fun _ => osIgnored _) (Nat.le_succ _)

lemma reconnect : Within answers limit p (p + 9) reconnect := by
  refine .bind modbusClose (fun _ => .on_state fun w _ => ?_) (by omega)
  exact .bind modbusConnect (fun _ => record _) le_rfl

end Connect

section Waiting

variable {body : β → M (β ⊕ α)}

lemma budget (h : Stands answers limit n k w) : n - k < w.script.length + 1 := by
  rw [h.length]
  exact Nat.lt_succ_self _

lemma loop_waits {bad : ℕ → Prop} (hbody : ∀ n k b, k < n → Triple (Stands answers limit n k) (body b)
      (fun r w => Stands answers limit n (k + 1) w ∧ (r.isLeft → bad k)) Held)
    {l : ℕ} (hl : p ≤ l) (hgood : ¬bad l) (b : β) : Within answers limit p (l + 1) (loop body b) :=
  Prompt.iterate_waits (fun _ _ _ hw => budget hw) hbody hl hgood b

lemma nanosleepStep_turn (hk : k < n) (u : Unit) : Triple (Stands answers limit n k) (nanosleepStep u)
    (fun r w => Stands answers limit n (k + 1) w ∧ (r.isLeft → (answers k).trouble = some .eintr))
    Held := by
  refine .bind (ask_next hk) fun r => ?_
  rintro w ⟨rfl, hw⟩
  cases ht : (answers k).trouble with
  | none => exact ⟨hw, nofun⟩
  | some e =>
    dsimp only
    rw [bind_setErrno]
    split_ifs with he
    · exact ⟨⟨hw.script, hw.backend, hw.rx⟩, fun _ => by rw [he]⟩
    · exact ⟨⟨hw.script, hw.backend, hw.rx⟩, nofun⟩

lemma osRecvDontwait_turn (hk : k < n) (s : ℤ) (l : ℕ) :
    Triple (fun w => Stands answers limit n k w ∧ w.rx.length ≤ l) (osRecvDontwait s modbusTcpMaxAduLength)
      (fun rc w => Stands answers limit n (k + 1) w ∧
        (rc = modbusTcpMaxAduLength → (∃ m, (answers k).recv = .data m) ∧ w.rx.length < l)) Held := by
  rintro w ⟨hw, hl⟩
  have hrecord : Stands answers limit n k { w with trace := w.trace ++ [.recv s] } :=
    ⟨hw.script, hw.backend, hw.rx⟩
  rw [osRecvDontwait, LibModbus.record, bind_modify_apply, bind_done (hrecord.ask hk)]
  cases hr : (answers k).recv with
  | eof => exact ⟨⟨rfl, hw.backend, hw.rx⟩, fun h => absurd h (by decide)⟩
  | fail e => exact ⟨⟨rfl, hw.backend, hw.rx⟩, fun h => absurd h (by decide)⟩
  | data m =>
    dsimp only
    rw [bind_get_apply]
    split_ifs with hnil
    · exact ⟨⟨rfl, hw.backend, hw.rx⟩, fun h => absurd h (by decide)⟩
    · have hpos : 0 < w.rx.length := List.length_pos_of_ne_nil hnil
      have hshort : (w.rx.drop modbusTcpMaxAduLength).length < w.rx.length := by
        rw [List.length_drop, modbusTcpMaxAduLength]
        omega
      refine ⟨⟨rfl, hw.backend, fun l hl => hshort.le.trans (hw.rx l hl)⟩, fun _ => ⟨⟨m, rfl⟩, ?_⟩⟩
      exact hshort.trans_le hl

lemma tcpFlushStep_turn (hk : k < n) (rcSum : ℤ) (l : ℕ) :
    Triple (fun w => Stands answers limit n k w ∧ w.rx.length ≤ l) (tcpFlushStep rcSum)
      (fun r w => Stands answers limit n (k + 1) w ∧
        (r.isLeft → (∃ m, (answers k).recv = .data m) ∧ w.rx.length < l)) Held := by
  refine .bind (Q := fun _ w => Stands answers limit n k w ∧ w.rx.length ≤ l) (fun w hw => hw) fun ctx => ?_
  refine .bind (osRecvDontwait_turn hk ctx.s l) fun rc => .ite (fun hfull => ?_) fun _ => ?_
  · exact .pure fun w hw => ⟨hw.1, fun _ => hw.2 hfull⟩
  · exact .pure fun w hw => ⟨hw.1, nofun⟩

lemma osSelect_turn (hk : k < n) (s : ℤ) (tv : Option Timeval) :
    Triple (Stands answers limit n k) (osSelect s tv) (fun r w => Stands answers limit n (k + 1) w ∧
      (r.1 = -1 → w.errno = .eintr → (answers k).select = .error .eintr)) Held := by
  intro w hw
  have hrecord : Stands answers limit n k { w with trace := w.trace ++ [.select s] } :=
    ⟨hw.script, hw.backend, hw.rx⟩
  rw [osSelect_variable, LibModbus.record, bind_modify_apply, bind_done (hrecord.ask hk)]
  dsimp only
  cases hr : (answers k).select with
  | error e =>
    refine ⟨⟨rfl, hw.backend, hw.rx⟩, fun _ he => ?_⟩
    rw [show e = .eintr from he]
  | ok ready => cases ready <;> exact ⟨⟨rfl, hw.backend, hw.rx⟩, fun h => absurd h (by simp)⟩

lemma backendSelectStep_turn (hk : k < n) (tv : Option Timeval) :
    Triple (Stands answers limit n k) (backendSelectStep tv) (fun r w => Stands answers limit n (k + 1) w ∧
      (r.isLeft → (answers k).select = .error .eintr)) Held := by
  refine .bind (Q := fun _ => Stands answers limit n k) (fun w hw => hw) fun ctx => ?_
  refine .bind (osSelect_turn hk ctx.s tv) ?_
  rintro ⟨sRc, tv⟩
  refine .ite (fun hrc => ?_) fun _ => .ite (fun _ => ?_) fun _ => ?_
  · rintro w ⟨hw, hsignal⟩
    rw [bind_getErrno]
    split_ifs with he
    · exact ⟨hw, fun _ => hsignal hrc he⟩
    · exact ⟨hw, nofun⟩
  · exact fun w hw => ⟨⟨hw.1.script, hw.1.backend, hw.1.rx⟩, nofun⟩
  · exact .pure fun w hw => ⟨hw.1, nofun⟩

variable (hrelents : Relents answers limit) (p)

include hrelents

lemma nanosleep : ∃ q, p ≤ q ∧ Within answers limit p q (loop nanosleepStep ()) := by
  obtain ⟨l, hl, hgood⟩ := hrelents.sleep p
  exact ⟨l + 1, by omega, loop_waits (fun n k u hk => nanosleepStep_turn hk u) hl hgood ()⟩

lemma backendSelect : ∃ q, p ≤ q ∧ ∀ tv : Option Timeval, Within answers limit p q (backendSelect tv) := by
  obtain ⟨l, hl, hgood⟩ := hrelents.select p
  exact ⟨l + 1, by omega, fun tv => loop_waits (fun n k tv hk => backendSelectStep_turn hk tv) hl hgood tv⟩

lemma tcpFlush : ∃ q, p ≤ q ∧ Within answers limit p q tcpFlush := by
  rcases hrelents.flush with hlimit | hflush
  · obtain ⟨l, rfl⟩ := Option.isSome_iff_exists.mp hlimit
    have hcounts : Prompt.Counts (Stands answers (some l)) Held (· + 1) (fun _ => True)
        (fun _ w => l - w.rx.length) tcpFlushStep := by
      intro p n hn k hk rcSum _ j
      have hturn := @tcpFlushStep_turn answers (some l) n k (hk.trans_lt hn) rcSum (l - j)
      apply hturn.weaken _ _ fun _ h => h
      · rintro w ⟨hw, hj⟩
        have hle := hw.rx l rfl
        dsimp only at hj
        exact ⟨hw, by omega⟩
      · rintro r w ⟨hw, hround⟩
        refine ⟨k + 1, Nat.le_succ k, Nat.succ_le_succ hk, hw, fun rcSum' hr => ?_⟩
        obtain ⟨-, hlt⟩ := hround (by rw [hr]; rfl)
        exact ⟨Nat.lt_succ_self k, trivial, by dsimp only; omega⟩
    refine ⟨_, Prompt.le_turnsBound (· + 1) (l + 1) p, ?_⟩
    exact Prompt.iterate_limited hcounts (fun _ _ _ hw => budget hw)
      (fun _ w _ => Nat.lt_succ_of_le (Nat.sub_le l w.rx.length)) trivial
  · obtain ⟨l, hl, hgood⟩ := hflush p
    have hturn (n k : ℕ) (rcSum : ℤ) (hk : k < n) : Triple (Stands answers limit n k) (tcpFlushStep rcSum)
        (fun r w => Stands answers limit n (k + 1) w ∧ (r.isLeft → ∃ m, (answers k).recv = .data m))
        Held := by
      apply Triple.from_state
      intro w hw
      have hturn := @tcpFlushStep_turn answers limit n k hk rcSum w.rx.length
      apply hturn.weaken _ _ fun _ h => h
      · rintro _ rfl
        exact ⟨hw, le_rfl⟩
      · exact fun r w hw => ⟨hw.1, fun hr => (hw.2 hr).1⟩
    refine ⟨l + 1, by omega, loop_waits hturn hl ?_ 0⟩
    exact fun ⟨m, hm⟩ => hgood m hm

lemma sleepAndFlush : ∃ q, p ≤ q ∧ Within answers limit p q sleepAndFlush := by
  obtain ⟨q, hpq, hsleep⟩ := nanosleep p hrelents
  obtain ⟨r, hqr, hflush⟩ := tcpFlush q hrelents
  refine ⟨r, hpq.trans hqr, .bind hsleep (fun _ => on_ctx fun ctx hctx => ?_) hqr⟩
  rw [hctx]
  exact hflush

end Waiting

end Within

end Answers

end LibModbus
