import TryTrust.Conc.Prog

/-!
# Flows of sequential runs

The run of one program, alone, from a given state.

* `Flow sem R Q p s`: every call of the run of `p` from `s` satisfies `R`, and its end satisfies
  `Q`; the rules `flow_mono`, `flow_bind`, `flow_attempt`, `flow_perform`, `flow_calls`;
* `Ends sem Q p s`: its end satisfies `Q`, whatever the calls do; **`ends_run`**: what that says of
  `run`; `ends_of_run`, `ends_bind_of_run`.
-/

namespace Conc

section Flow

variable {Op : Type} {Res : Op → Type} {ε α β σ : Type}
  (sem : (op : Op) → σ → Except ε (Res op) × σ)

/-- **A flow**: `R` holds of every call (the state before it, its answer, the state after it), and
`Q` of the end. -/
def Flow (R : σ → (op : Op) → Except ε (Res op) → σ → Prop) (Q : Except ε α → σ → Prop) :
    Prog Op Res ε α → σ → Prop
  | .ret a, s => Q (.ok a) s
  | .raise e, s => Q (.error e) s
  | .call op next, s =>
    R s op (sem op s).1 (sem op s).2 ∧ Flow R Q (next (sem op s).1) (sem op s).2

/-- The end of the run of `p` from `s` satisfies `Q`. -/
abbrev Ends (Q : Except ε α → σ → Prop) (p : Prog Op Res ε α) (s : σ) : Prop :=
  Flow sem (fun _ _ _ _ => True) Q p s

variable {sem} {R R' : σ → (op : Op) → Except ε (Res op) → σ → Prop}

theorem flow_mono {P Q : Except ε α → σ → Prop} (h : ∀ r s, P r s → Q r s)
    {p : Prog Op Res ε α} {s : σ} (hp : Flow sem R P p s) : Flow sem R Q p s := by
  induction p generalizing s with
  | ret a => exact h _ _ hp
  | raise e => exact h _ _ hp
  | call op next ih => exact ⟨hp.1, ih _ hp.2⟩

theorem flow_mono_steps {Q : Except ε α → σ → Prop} (h : ∀ s op r s', R s op r s' → R' s op r s')
    {p : Prog Op Res ε α} {s : σ} (hp : Flow sem R Q p s) : Flow sem R' Q p s := by
  induction p generalizing s with
  | ret a => exact hp
  | raise e => exact hp
  | call op next ih => exact ⟨h _ _ _ _ hp.1, ih _ hp.2⟩

theorem flow_pure {Q : Except ε α → σ → Prop} {a : α} {s : σ} (h : Q (.ok a) s) :
    Flow sem R Q (pure a : Prog Op Res ε α) s := h

theorem flow_raise {Q : Except ε α → σ → Prop} {e : ε} {s : σ} (h : Q (.error e) s) :
    Flow sem R Q (.raise e : Prog Op Res ε α) s := h

theorem flow_bind {P : Except ε α → σ → Prop} {Q : Except ε β → σ → Prop}
    {p : Prog Op Res ε α} {f : α → Prog Op Res ε β} {s : σ} (hp : Flow sem R P p s)
    (hf : ∀ a s', P (.ok a) s' → Flow sem R Q (f a) s')
    (he : ∀ e s', P (.error e) s' → Q (.error e) s') : Flow sem R Q (p.bind f) s := by
  induction p generalizing s with
  | ret a => exact hf _ _ hp
  | raise e => exact he _ _ hp
  | call op next ih => exact ⟨hp.1, ih _ hp.2⟩

theorem flow_attempt {Q : Except ε (Except ε α) → σ → Prop} {p : Prog Op Res ε α} {s : σ}
    (hp : Flow sem R (fun r s' => Q (.ok r) s') p s) : Flow sem R Q p.attempt s := by
  induction p generalizing s with
  | ret a => exact hp
  | raise e => exact hp
  | call op next ih => exact ⟨hp.1, ih _ hp.2⟩

/-- A tried program and what follows it. -/
theorem flow_attempt_bind {P : Except ε α → σ → Prop} {Q : Except ε β → σ → Prop}
    {p : Prog Op Res ε α} {f : Except ε α → Prog Op Res ε β} {s : σ} (hp : Flow sem R P p s)
    (hf : ∀ r s', P r s' → Flow sem R Q (f r) s') : Flow sem R Q (p.attempt.bind f) s := by
  induction p generalizing s with
  | ret a => exact hf _ _ hp
  | raise e => exact hf _ _ hp
  | call op next ih => exact ⟨hp.1, ih _ hp.2⟩

theorem flow_perform {op : Op} {Q : Except ε (Res op) → σ → Prop} {s : σ}
    (hR : R s op (sem op s).1 (sem op s).2) (hQ : Q (sem op s).1 (sem op s).2) :
    Flow sem R Q (Prog.perform op) s := by
  refine ⟨hR, ?_⟩
  cases hr : (sem op s).1 with
  | ok a => rw [hr] at hQ; exact hQ
  | error e => rw [hr] at hQ; exact hQ

/-- What the calls of a program keep, with what each of them does. -/
theorem flow_calls {φ : Op → Prop} {I : σ → Prop}
    (h : ∀ op s, φ op → I s → R s op (sem op s).1 (sem op s).2 ∧ I (sem op s).2)
    {p : Prog Op Res ε α} (hp : p.Calls φ) {s : σ} (hs : I s) :
    Flow sem R (fun _ s' => I s') p s := by
  induction p generalizing s with
  | ret a => exact hs
  | raise e => exact hs
  | call op next ih =>
    obtain ⟨hR, hI⟩ := h op s hp.1 hs
    exact ⟨hR, ih _ (hp.2 _) hI⟩

/-- A flow with what holds of every end of the program. -/
theorem flow_returns {P : Except ε α → Prop} {Q : Except ε α → σ → Prop} {p : Prog Op Res ε α}
    {s : σ} (hp : Flow sem R Q p s) (hP : p.Returns P) :
    Flow sem R (fun r s' => Q r s' ∧ P r) p s := by
  induction p generalizing s with
  | ret a => exact ⟨hp, hP⟩
  | raise e => exact ⟨hp, hP⟩
  | call op next ih => exact ⟨hp.1, ih _ hp.2 (hP _)⟩

/-! ## Ends -/

/-- **The end of a run.** -/
theorem flow_run {Q : Except ε α → σ → Prop} {p : Prog Op Res ε α} {s : σ}
    (h : Flow sem R Q p s) : Q (p.run sem s).1 (p.run sem s).2 := by
  induction p generalizing s with
  | ret a => exact h
  | raise e => exact h
  | call op next ih => exact ih _ h.2

theorem ends_of_run {Q : Except ε α → σ → Prop} {p : Prog Op Res ε α} {s : σ}
    (h : Q (p.run sem s).1 (p.run sem s).2) : Ends sem Q p s := by
  induction p generalizing s with
  | ret a => exact h
  | raise e => exact h
  | call op next ih => exact ⟨trivial, ih _ h⟩

theorem ends_calls {φ : Op → Prop} {I : σ → Prop} (h : ∀ op s, φ op → I s → I (sem op s).2)
    {p : Prog Op Res ε α} (hp : p.Calls φ) {s : σ} (hs : I s) :
    Ends sem (fun _ s' => I s') p s :=
  flow_calls (fun op s hφ hI => ⟨trivial, h op s hφ hI⟩) hp hs

end Flow

end Conc
