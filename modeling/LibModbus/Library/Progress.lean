import LibModbus.Library.Program
import Mathlib.Order.Nat

/-! Programs that come to their end within so many answers, for all the answers there may be. -/

namespace LibModbus.Library.Prog

variable {σ α β : Type}

/-- `At n k` holds where `k` of the `n` answers are used. Of enough answers, a run that starts within the
first `p` uses none behind the first `q`, and it can only come to a stop in `Off`. -/
def Prompt (At : ℕ → ℕ → σ → Prop) (Off : σ → Prop) (p q : ℕ) (m : Prog σ α) : Prop :=
  ∀ n, q ≤ n → ∀ k ≤ p, Triple (At n k) m (fun _ s => ∃ k', k ≤ k' ∧ k' ≤ q ∧ At n k' s) Off

namespace Prompt

variable {At : ℕ → ℕ → σ → Prop} {Off Busy : σ → Prop} {p p' q q' r : ℕ}
variable {m : Prog σ α} {f : α → Prog σ β}

lemma mono (h : Prompt At Off p q m) (hp : p' ≤ p) (hq : q ≤ q') : Prompt At Off p' q' m := by
  intro n hn k hk
  apply (h n (hq.trans hn) k (hk.trans hp)).post
  rintro _ s ⟨k', hkk', hk', hs⟩
  exact ⟨k', hkk', hk'.trans hq, hs⟩

lemma bind (hm : Prompt At Off p q m) (hf : ∀ a, Prompt At Off q r (f a)) (hqr : q ≤ r) :
    Prompt At Off p r (m >>= f) := by
  intro n hn k hk
  apply Triple.bind (hm n (hqr.trans hn) k hk)
  rintro a s ⟨k', hkk', hk', hs⟩
  apply ((hf a n hn k' hk').post _) s hs
  rintro _ _ ⟨l, hl, hlr, ht⟩
  exact ⟨l, hkk'.trans hl, hlr, ht⟩

lemma pure (a : α) (h : p ≤ q) : Prompt At Off p q (Pure.pure a : Prog σ α) :=
  fun _ _ k hk => .pure fun _ hs => ⟨k, le_rfl, hk.trans h, hs⟩

lemma modify {g : σ → σ} (hg : ∀ n k s, At n k s → At n k (g s)) (h : p ≤ q) :
    Prompt At Off p q (Prog.modify g) :=
  fun n _ k hk => .modify fun s hs => ⟨k, le_rfl, hk.trans h, hg n k s hs⟩

lemma stuck (hoff : ∀ n k s, k < n → At n k s → Off s) (h : p < q) :
    Prompt At Off p q (Prog.stuck : Prog σ α) :=
  fun n hn k hk => .stuck fun s hs => hoff n k s ((hk.trans_lt h).trans_le hn) hs

lemma ite {c : Prop} [Decidable c] {m' : Prog σ α} (ht : c → Prompt At Off p q m)
    (he : ¬c → Prompt At Off p q m') : Prompt At Off p q (if c then m else m') := by
  split
  · exact ht ‹_›
  · exact he ‹_›

lemma on_state {g : σ → Prog σ α} (h : ∀ s, (∃ n k, At n k s) → Prompt At Off p q (g s)) :
    Prompt At Off p q (Prog.get >>= g) :=
  fun n hn k hk s hs => h s ⟨n, k, hs⟩ n hn k hk s hs

lemma or_busy (h : Prompt At Off p q m) (hbusy : Maintains Busy Busy m) (hpq : p ≤ q) :
    Prompt (fun n k s => At n k s ∨ Busy s) (fun s => Off s ∨ Busy s) p q m := by
  rintro n hn k hk s (hs | hs)
  · apply ((h n hn k hk).weaken (fun _ h => h) _ fun _ h => .inl h) s hs
    rintro _ _ ⟨k', hkk', hk', ht⟩
    exact ⟨k', hkk', hk', .inl ht⟩
  · apply (hbusy.weaken (fun _ h => h) _ fun _ h => .inr h) s hs
    exact fun _ _ ht => ⟨k, le_rfl, hk.trans hpq, .inr ht⟩

section Loops

variable {body : β → Prog σ (β ⊕ α)} {budget : σ → ℕ}

lemma iterate_waits {bad : ℕ → Prop} (hbudget : ∀ n k s, At n k s → n - k < budget s)
    (hbody : ∀ n k b, k < n →
      Triple (At n k) (body b) (fun r s => At n (k + 1) s ∧ (r.isLeft → bad k)) Off)
    {l : ℕ} (hl : p ≤ l) (hgood : ¬bad l) (b : β) :
    Prompt At Off p (l + 1) fun s => Prog.iterate body (budget s) b s := by
  intro n hn k hk
  have hturns (fuel : ℕ) : ∀ k b, k ≤ l → n - k < fuel → Triple (At n k) (Prog.iterate body fuel b)
      (fun _ s => ∃ k', k ≤ k' ∧ k' ≤ l + 1 ∧ At n k' s) Off := by
    induction fuel with
    | zero => exact fun k _ _ hfuel => absurd hfuel (Nat.not_lt_zero _)
    | succ fuel ih =>
      intro k b hkl hfuel
      apply Triple.bind (hbody n k b (by omega))
      rintro (b' | a) s ⟨hs, hbad⟩
      · have hne : k ≠ l := fun h => hgood (h ▸ hbad rfl)
        apply ((ih (k + 1) b' (by omega) (by omega)).post _) s hs
        rintro _ _ ⟨k', hkk', hk', ht⟩
        exact ⟨k', by omega, hk', ht⟩
      · exact ⟨k + 1, Nat.le_succ k, by omega, hs⟩
  exact fun s hs => hturns _ k b (hk.trans hl) (hbudget n k s hs) s hs

def turnsBound (G : ℕ → ℕ) : ℕ → ℕ → ℕ
  | 0, p => p
  | t + 1, p => turnsBound G t (max p (G p))

lemma le_turnsBound (G : ℕ → ℕ) (t p : ℕ) : p ≤ turnsBound G t p := by
  induction t generalizing p with
  | zero => exact le_rfl
  | succ t ih => exact (le_max_left p (G p)).trans (ih _)

/-- One turn of a loop, within the bound. A turn that goes round uses an answer, and counts up. -/
def Counts (At : ℕ → ℕ → σ → Prop) (Off : σ → Prop) (G : ℕ → ℕ) (J : β → Prop) (c : β → σ → ℕ)
    (body : β → Prog σ (β ⊕ α)) : Prop :=
  ∀ p n, G p ≤ n → ∀ k ≤ p, ∀ b, J b → ∀ j, Triple (fun s => At n k s ∧ j ≤ c b s) (body b)
    (fun r s => ∃ k', k ≤ k' ∧ k' ≤ G p ∧ At n k' s ∧ ∀ b', r = .inl b' → k < k' ∧ J b' ∧ j < c b' s) Off

variable {G : ℕ → ℕ} {J : β → Prop} {c : β → σ → ℕ}

lemma Counts.turns (h : Counts At Off G J c body) (hbusy : ∀ b, Maintains Busy Busy (body b)) {K : ℕ}
    (hK : ∀ b s, J b → K ≤ c b s → Busy s) {t n k fuel : ℕ} (hn : turnsBound G t p ≤ n) (hk : k ≤ p)
    {b : β} (hJ : J b) (hfuel : n - k < fuel) :
    Triple (fun s => At n k s ∧ K ≤ c b s + t) (Prog.iterate body fuel b)
      (fun _ s => ∃ k', k ≤ k' ∧ k' ≤ turnsBound G t p ∧ (At n k' s ∨ Busy s))
      (fun s => Off s ∨ Busy s) := by
  induction t generalizing p k fuel b with
  | zero =>
    apply (Maintains.iterate (fun _ h => h) hbusy fuel b).weaken (fun s hs => hK b s hJ hs.2)
    · exact fun _ _ hs => ⟨k, le_rfl, hk, .inr hs⟩
    · exact fun _ hs => .inr hs
  | succ t ih =>
    have hG : G p ≤ turnsBound G t (max p (G p)) := (le_max_right p (G p)).trans (le_turnsBound G t _)
    rw [turnsBound] at hn ⊢
    obtain ⟨fuel, rfl⟩ := Nat.exists_eq_succ_of_ne_zero (Nat.ne_zero_of_lt hfuel)
    apply Triple.from_state
    rintro s ⟨hs, hleft⟩
    have hturn := h p n (hG.trans hn) k hk b hJ (c b s)
    apply Triple.bind (hturn.weaken _ (fun _ _ h => h) fun _ h => .inl h)
    · rintro (b' | a) u ⟨k', hkk', hk', hu, hround⟩
      · obtain ⟨hlt, hJ', hcount⟩ := hround b' rfl
        have hle : k' ≤ max p (G p) := hk'.trans (le_max_right p (G p))
        apply ((ih hn hle hJ' (by omega)).post _) u ⟨hu, by omega⟩
        rintro _ _ ⟨l, hl, hlq, ht⟩
        exact ⟨l, hkk'.trans hl, hlq, ht⟩
      · exact ⟨k', hkk', hk'.trans hG, .inl hu⟩
    · rintro _ rfl
      exact ⟨hs, le_rfl⟩

lemma iterate_counted (h : Counts At Off G J c body) (hbudget : ∀ n k s, At n k s → n - k < budget s)
    (hbusy : ∀ b, Maintains Busy Busy (body b)) {K : ℕ} (hK : ∀ b s, J b → K ≤ c b s → Busy s)
    {b : β} (hJ : J b) : Prompt (fun n k s => At n k s ∨ Busy s) (fun s => Off s ∨ Busy s) p
      (turnsBound G K p) fun s => Prog.iterate body (budget s) b s := by
  rintro n hn k hk s (hs | hs)
  · exact h.turns hbusy hK hn hk hJ (hbudget n k s hs) s ⟨hs, by omega⟩
  · apply ((Maintains.iterate (fun _ h => h) hbusy (budget s) b).weaken (fun _ h => h) _
      fun _ h => .inr h) s hs
    exact fun _ _ ht => ⟨k, le_rfl, hk.trans (le_turnsBound G K p), .inr ht⟩

lemma iterate_limited (h : Counts At Off G J c body) (hbudget : ∀ n k s, At n k s → n - k < budget s)
    {K : ℕ} (hK : ∀ b s, J b → c b s < K) {b : β} (hJ : J b) :
    Prompt At Off p (turnsBound G K p) fun s => Prog.iterate body (budget s) b s := by
  have hloop := @iterate_counted _ _ _ At Off (fun _ => False) p body budget G J c h hbudget
    (fun _ => fun _ hs => hs.elim) K (fun b s hJ hle => absurd (hK b s hJ) (not_lt.mpr hle)) b hJ
  simpa only [or_false] using hloop

end Loops

end Prompt

end LibModbus.Library.Prog
