import TryTrust.Conc.Alone

/-!
# Programs by what is known of the answers

What a program calls and how it ends, as long as its calls are answered as some relation allows.

* `Answered A φ Q p`: under answers that `A` allows, the calls of `p` satisfy `φ` and its end `Q`;
  `Yields`, an end that may be an exception;
* the rules `answered_mono`, `answered_bind`, `answered_perform`, `answered_attempt`,
  `answered_tryCatch`, `answered_of_calls`;
* **`answered_run`**: the end of a run that keeps an invariant from which the answers follow;
* **`answered_agree`**: two runs from related states have the same end, when the calls are answered
  alike and keep the relation.
-/

namespace Conc

section Answered

variable {Op : Type} {Res : Op → Type} {ε α β σ : Type}

/-- **A program by its answers**: as long as `A` allows them, its calls satisfy `φ` and its end
`Q`. -/
def Answered (A : (op : Op) → Res op → Prop) (φ : Op → Prop) (Q : Except ε α → Prop) :
    Prog Op Res ε α → Prop
  | .ret a => Q (.ok a)
  | .raise e => Q (.error e)
  | .call op next => φ op ∧ ∀ r, (∀ a, r = .ok a → A op a) → Answered A φ Q (next r)

/-- An exception, or a value that satisfies `ψ`. -/
def Yields (ψ : α → Prop) (r : Except ε α) : Prop := ∀ a, r = .ok a → ψ a

variable {A : (op : Op) → Res op → Prop} {φ : Op → Prop}

theorem yields_error {ψ : α → Prop} (e : ε) : Yields ψ (.error e : Except ε α) :=
  fun a h => by cases h

theorem yields_ok {ψ : α → Prop} {a : α} (h : ψ a) : Yields ψ (.ok a : Except ε α) :=
  fun _ hb => Except.ok.inj hb ▸ h

theorem answered_mono {P Q : Except ε α → Prop} (h : ∀ r, P r → Q r) {p : Prog Op Res ε α}
    (hp : Answered A φ P p) : Answered A φ Q p := by
  induction p with
  | ret a => exact h _ hp
  | raise e => exact h _ hp
  | call op next ih => exact ⟨hp.1, fun r hr => ih r (hp.2 r hr)⟩

theorem answered_bind {P : Except ε α → Prop} {Q : Except ε β → Prop} {p : Prog Op Res ε α}
    {f : α → Prog Op Res ε β} (hp : Answered A φ P p)
    (hf : ∀ a, P (.ok a) → Answered A φ Q (f a)) (he : ∀ e, P (.error e) → Q (.error e)) :
    Answered A φ Q (p.bind f) := by
  induction p with
  | ret a => exact hf a hp
  | raise e => exact he e hp
  | call op next ih => exact ⟨hp.1, fun r hr => ih r (hp.2 r hr)⟩

/-- After a part that may raise. -/
theorem answered_then {ψ : α → Prop} {χ : β → Prop} {p : Prog Op Res ε α}
    {f : α → Prog Op Res ε β} (hp : Answered A φ (Yields ψ) p)
    (hf : ∀ a, ψ a → Answered A φ (Yields χ) (f a)) : Answered A φ (Yields χ) (p.bind f) :=
  answered_bind hp (fun a h => hf a (h a rfl)) fun e _ => yields_error e

theorem answered_perform {op : Op} {Q : Except ε (Res op) → Prop} (hφ : φ op)
    (ha : ∀ a, A op a → Q (.ok a)) (he : ∀ e, Q (.error e)) :
    Answered A φ Q (Prog.perform op) := by
  refine ⟨hφ, fun r hr => ?_⟩
  cases r with
  | ok a => exact ha a (hr a rfl)
  | error e => exact he e

/-- One call that may raise. -/
theorem answered_call {op : Op} {ψ : Res op → Prop} (hφ : φ op) (ha : ∀ a, A op a → ψ a) :
    Answered A φ (Yields ψ) (Prog.perform op : Prog Op Res ε (Res op)) :=
  answered_perform hφ (fun a h => yields_ok (ha a h)) yields_error

theorem answered_attempt {P : Except ε α → Prop} {p : Prog Op Res ε α} (hp : Answered A φ P p) :
    Answered A φ (Yields P) p.attempt := by
  induction p with
  | ret a => exact yields_ok hp
  | raise e => exact yields_ok hp
  | call op next ih => exact ⟨hp.1, fun r hr => ih r (hp.2 r hr)⟩

theorem answered_tryCatch {P Q : Except ε α → Prop} {p : Prog Op Res ε α}
    {h : ε → Prog Op Res ε α} (hp : Answered A φ P p) (ha : ∀ a, P (.ok a) → Q (.ok a))
    (hh : ∀ e, P (.error e) → Answered A φ Q (h e)) : Answered A φ Q (p.tryCatch h) := by
  induction p with
  | ret a => exact ha a hp
  | raise e => exact hh e hp
  | call op next ih => exact ⟨hp.1, fun r hr => ih r (hp.2 r hr)⟩

/-- A program whose calls satisfy `φ` whatever they answer. -/
theorem answered_of_calls {Q : Except ε α → Prop} {p : Prog Op Res ε α} (hp : p.Calls φ)
    (hQ : p.Returns Q) : Answered A φ Q p := by
  induction p with
  | ret a => exact hQ
  | raise e => exact hQ
  | call op next ih => exact ⟨hp.1, fun r _ => ih r (hp.2 r) (hQ r)⟩

/-! ## Runs -/

variable {sem : (op : Op) → σ → Except ε (Res op) × σ}

/-- **The end of a run** that keeps an invariant from which the answers follow. -/
theorem answered_run {I : σ → Prop} {Q : Except ε α → Prop}
    (h : ∀ op s, φ op → I s → (∀ a, (sem op s).1 = .ok a → A op a) ∧ I (sem op s).2)
    {p : Prog Op Res ε α} (hp : Answered A φ Q p) {s : σ} (hs : I s) : Q (p.run sem s).1 := by
  induction p generalizing s with
  | ret a => exact hp
  | raise e => exact hp
  | call op next ih =>
    obtain ⟨hA, hI⟩ := h op s hp.1 hs
    exact ih _ (hp.2 _ hA) hI

/-- **Two runs** that meet the same answers end alike. -/
theorem answered_agree {R : σ → σ → Prop} {Q : Except ε α → Prop}
    (h : ∀ op s t, φ op → R s t → (sem op t).1 = (sem op s).1 ∧
      (∀ a, (sem op s).1 = .ok a → A op a) ∧ R (sem op s).2 (sem op t).2)
    {p : Prog Op Res ε α} (hp : Answered A φ Q p) {s t : σ} (hst : R s t) :
    (p.run sem t).1 = (p.run sem s).1 := by
  induction p generalizing s t with
  | ret a => rfl
  | raise e => rfl
  | call op next ih =>
    obtain ⟨hsame, hA, hR⟩ := h op s t hp.1 hst
    show ((next (sem op t).1).run sem (sem op t).2).1 = ((next (sem op s).1).run sem (sem op s).2).1
    rw [hsame]
    exact ih _ (hp.2 _ hA) hR

end Answered

end Conc
