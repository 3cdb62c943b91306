import LibModbus.Library.Program

/-! The turns of a loop one by one: where it stands after so many of them, and where it ends. -/

namespace LibModbus.Library.Prog

variable {σ α β : Type} {body : β → Prog σ (β ⊕ α)} {b₀ : β} {s₀ : σ}

/-- After `n` turns the loop stands at `b` in the state `s`, and goes on. -/
inductive Rounds (body : β → Prog σ (β ⊕ α)) (b₀ : β) (s₀ : σ) : ℕ → β → σ → Prop
  | start : Rounds body b₀ s₀ 0 b₀ s₀
  | next {n : ℕ} {b b' : β} {s s' : σ} : Rounds body b₀ s₀ n b s → body b s = .done (.inl b') s' →
      Rounds body b₀ s₀ (n + 1) b' s'

namespace Rounds

lemma invariant {I : ℕ → β → σ → Prop} (hstart : I 0 b₀ s₀)
    (hnext : ∀ n b s b' s', I n b s → body b s = .done (.inl b') s' → I (n + 1) b' s') {n : ℕ} {b : β}
    {s : σ} (h : Rounds body b₀ s₀ n b s) : I n b s := by
  induction h with
  | start => exact hstart
  | next _ hbody ih => exact hnext _ _ _ _ _ ih hbody

lemma finish (μ : σ → ℕ) (hμ : ∀ n b s b' s', Rounds body b₀ s₀ n b s →
      body b s = .done (.inl b') s' → μ s' < μ s)
    (hends : ∀ n b s, Rounds body b₀ s₀ n b s → ∃ r s', body b s = .done r s') {fuel : ℕ}
    (hfuel : μ s₀ < fuel) : ∃ n b s a s', Rounds body b₀ s₀ n b s ∧ body b s = .done (.inr a) s' ∧
      Prog.iterate body fuel b₀ s₀ = .done a s' := by
  have hturns (m : ℕ) : ∀ n b s, Rounds body b₀ s₀ n b s → μ s < m → ∃ n b' s₁ a s',
      Rounds body b₀ s₀ n b' s₁ ∧ body b' s₁ = .done (.inr a) s' ∧
        Prog.iterate body m b s = .done a s' := by
    induction m with
    | zero => exact fun _ _ _ _ h => absurd h (Nat.not_lt_zero _)
    | succ m ih =>
      intro n b s h hlt
      obtain ⟨r, s', hbody⟩ := hends n b s h
      rw [Prog.iterate, bind_done hbody]
      cases r with
      | inl b' =>
        have hless := hμ n b s b' s' h hbody
        exact ih (n + 1) b' s' (h.next hbody) (by omega)
      | inr a => exact ⟨n, b, s, a, s', h, hbody, rfl⟩
  exact hturns fuel 0 b₀ s₀ .start hfuel

end Rounds

end LibModbus.Library.Prog
