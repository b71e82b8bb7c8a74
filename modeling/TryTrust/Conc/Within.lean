import TryTrust.Conc.Pool

/-!
# Programs with a bounded number of calls

Calls have **weights**; a program is within a bound when the weights of its calls, whatever the
answers, sum to no more.

* `Prog.Within`: every call satisfies a predicate, and the weights stay within a bound;
* `within_of_calls`, `within_perform`, `within_mono`, `within_bind`, `within_attempt`,
  `calls_of_within`;
* **`outline_within`**: a measure of the history that grows by no more than the weights stays
  within the bound.
-/

namespace Conc

namespace Prog

variable {Op : Type} {Res : Op → Type} {ε α β : Type} {φ : Op → Prop} {w : Op → ℕ} {b c d : ℕ}

/-- Every call satisfies `φ`, and their weights sum to at most the bound. -/
def Within (φ : Op → Prop) (w : Op → ℕ) : Prog Op Res ε α → ℕ → Prop
  | ret _, _ => True
  | raise _, _ => True
  | call op next, b => φ op ∧ w op ≤ b ∧ ∀ r, (next r).Within φ w (b - w op)

/-- Calls without weight are within every bound. -/
theorem within_of_calls {ψ : Op → Prop} (h : ∀ op, ψ op → φ op ∧ w op = 0)
    {p : Prog Op Res ε α} (hp : p.Calls ψ) : p.Within φ w b := by
  induction p with
  | ret a => trivial
  | raise e => trivial
  | call op next ih =>
    obtain ⟨hop, hw⟩ := h op hp.1
    refine ⟨hop, by omega, fun r => ?_⟩
    rw [hw]
    exact ih r (hp.2 r)

theorem within_perform {op : Op} (h : φ op) (hw : w op ≤ b) :
    (perform op : Prog Op Res ε (Res op)).Within φ w b :=
  ⟨h, hw, fun r => by cases r <;> trivial⟩

theorem within_mono (h : b ≤ c) {p : Prog Op Res ε α} (hp : p.Within φ w b) : p.Within φ w c := by
  induction p generalizing b c with
  | ret a => trivial
  | raise e => trivial
  | call op next ih =>
    exact ⟨hp.1, hp.2.1.trans h, fun r => ih r (by omega) (hp.2.2 r)⟩

/-- The bounds of two parts add up. -/
theorem within_bind (h : b + c ≤ d) {p : Prog Op Res ε α} {f : α → Prog Op Res ε β}
    (hp : p.Within φ w b) (hf : ∀ a, (f a).Within φ w c) : (p.bind f).Within φ w d := by
  induction p generalizing b d with
  | ret a => exact within_mono (by omega) (hf a)
  | raise e => trivial
  | call op next ih =>
    have hop := hp.2.1
    exact ⟨hp.1, by omega, fun r => ih r (by omega) (hp.2.2 r)⟩

theorem within_attempt {p : Prog Op Res ε α} (hp : p.Within φ w b) : p.attempt.Within φ w b := by
  induction p generalizing b with
  | ret a => trivial
  | raise e => trivial
  | call op next ih => exact ⟨hp.1, hp.2.1, fun r => ih r (hp.2.2 r)⟩

theorem calls_of_within {p : Prog Op Res ε α} (hp : p.Within φ w b) : p.Calls φ := by
  induction p generalizing b with
  | ret a => trivial
  | raise e => trivial
  | call op next ih => exact ⟨hp.1, fun r => ih r (hp.2.2 r)⟩

end Prog

section Pool

variable {ι Op : Type} {Res : Op → Type} {ε α σ Γ E : Type} [DecidableEq ι]
  {S : System ι Op Res ε σ Γ E} {P : Spec ι Op Res ε σ Γ} {i : ι}

/-- **A measure that grows with the weights** stays within the bound. -/
theorem outline_within {φ : Op → Prop} {w : Op → ℕ} {ψ : Γ → Prop} {m : Γ → ℕ} {bound : ℕ}
    (h : ∀ g s e op, φ op → ψ (g i) → m (g i) + w op ≤ bound → P.inv g s → P.ok g s i op →
      P.inv (Function.update g i (S.adv i (g i) s op (S.sem e op s).1)) (S.sem e op s).2 ∧
        P.prop g s i op (S.sem e op s).1 (S.sem e op s).2 ∧
          ψ (S.adv i (g i) s op (S.sem e op s).1) ∧
            m (S.adv i (g i) s op (S.sem e op s).1) ≤ m (g i) + w op)
    {p : Prog Op Res ε α} {b : ℕ} (hp : p.Within φ w b) {γ : Γ} (hγ : ψ γ)
    (hbound : m γ + b ≤ bound) : Outline S P i (fun _ γ' => ψ γ' ∧ m γ' ≤ bound) p γ := by
  induction p generalizing b γ with
  | ret a => exact ⟨hγ, by omega⟩
  | raise e => exact ⟨hγ, by omega⟩
  | call op next ih =>
    rintro g s e rfl hI hok
    obtain ⟨hop, hw, hnext⟩ := hp
    obtain ⟨h1, h2, h3, h4⟩ := h g s e op hop hγ (by omega) hI hok
    exact ⟨h1, h2, ih _ (hnext _) h3 (by omega)⟩

end Pool

end Conc
