import TryTrust.Conc.Pool
import TryTrust.Conc.Flow

/-!
# Programs over the calls of another

A **handler** gives every call of one signature as a program over another; a program over the first
is then one over the second.

* `Prog.interp`, with `interp_bind` and **`interp_interp`**: two handlers are one;
* `calls_interp`, `flow_interp`, `outline_interp`: what every handled call keeps, the whole program
  keeps; `flow_interp_bind`, `outline_interp_call`: its first call apart from the rest;
* `calls_ite`, `flow_ite`, `outline_ite`: a program with a condition.
-/

namespace Conc

namespace Prog

variable {Op Op' : Type} {Res : Op → Type} {Res' : Op' → Type} {ε α β : Type}

/-- **A program under a handler**; an exception of a handled call is an answer. -/
def interp (h : (op : Op) → Prog Op' Res' ε (Res op)) : Prog Op Res ε α → Prog Op' Res' ε α
  | ret a => ret a
  | raise e => raise e
  | call op next => (h op).attempt.bind fun r => (next r).interp h

variable {h : (op : Op) → Prog Op' Res' ε (Res op)}

theorem interp_bind (p : Prog Op Res ε α) (f : α → Prog Op Res ε β) :
    (p.bind f).interp h = (p.interp h).bind fun a => (f a).interp h := by
  induction p with
  | ret a => rfl
  | raise e => rfl
  | call op next ih =>
    change ((h op).attempt.bind fun r => ((next r).bind f).interp h) =
      ((h op).attempt.bind fun r => (next r).interp h).bind fun a => (f a).interp h
    rw [bind_assoc]
    congr 1
    funext r
    exact ih r

/-- One handled call: its end is the end of its program. -/
theorem interp_perform (op : Op) : (perform op : Prog Op Res ε (Res op)).interp h = h op := by
  have hend : ∀ f : Except ε (Res op) → Prog Op Res ε (Res op), (∀ a, f (.ok a) = ret a) →
      (∀ e, f (.error e) = raise e) → ∀ p : Prog Op' Res' ε (Res op),
        (p.attempt.bind fun r => (f r).interp h) = p := by
    intro f hok herror p
    induction p with
    | ret a => exact congrArg (interp h) (hok a)
    | raise e => exact congrArg (interp h) (herror e)
    | call op' next ih => exact congrArg (call op') (funext ih)
  exact hend _ (fun _ => rfl) (fun _ => rfl) (h op)

/-- A tried program under a handler. -/
theorem attempt_interp (p : Prog Op Res ε α) : p.attempt.interp h = (p.interp h).attempt := by
  have hbind : ∀ {γ δ : Type} (q : Prog Op' Res' ε γ) (f : Except ε γ → Prog Op' Res' ε δ),
      (q.attempt.bind f).attempt = q.attempt.bind fun r => (f r).attempt := by
    intro γ δ q f
    induction q with
    | ret a => rfl
    | raise e => rfl
    | call op next ih => exact congrArg (call op) (funext ih)
  induction p with
  | ret a => rfl
  | raise e => rfl
  | call op next ih =>
    change ((h op).attempt.bind fun r => ((next r).attempt).interp h) =
      ((h op).attempt.bind fun r => (next r).interp h).attempt
    rw [hbind]
    congr 1
    funext r
    exact ih r

/-- **One handler after another.** -/
theorem interp_interp {Op'' : Type} {Res'' : Op'' → Type}
    (k : (op : Op') → Prog Op'' Res'' ε (Res' op)) (p : Prog Op Res ε α) :
    (p.interp h).interp k = p.interp fun op => (h op).interp k := by
  induction p with
  | ret a => rfl
  | raise e => rfl
  | call op next ih =>
    change ((h op).attempt.bind fun r => (next r).interp h).interp k =
      ((h op).interp k).attempt.bind fun r => (next r).interp fun op => (h op).interp k
    rw [interp_bind, attempt_interp]
    congr 1
    funext r
    exact ih r

theorem calls_interp {φ : Op → Prop} {ψ : Op' → Prop} (hh : ∀ op, φ op → (h op).Calls ψ)
    {p : Prog Op Res ε α} (hp : p.Calls φ) : (p.interp h).Calls ψ := by
  induction p with
  | ret a => trivial
  | raise e => trivial
  | call op next ih => exact calls_bind (calls_attempt (hh op hp.1)) fun r => ih r (hp.2 r)

theorem calls_ite {φ : Op → Prop} {c : Prop} [Decidable c] {p q : Prog Op Res ε α}
    (hp : c → p.Calls φ) (hq : ¬ c → q.Calls φ) : (if c then p else q).Calls φ := by
  split_ifs with hc
  · exact hp hc
  · exact hq hc

end Prog

/-! ## Runs of one program -/

section Flow

variable {Op Op' : Type} {Res : Op → Type} {Res' : Op' → Type} {ε α β σ : Type}
  {sem : (op : Op') → σ → Except ε (Res' op) × σ}
  {R : σ → (op : Op') → Except ε (Res' op) → σ → Prop}
  {h : (op : Op) → Prog Op' Res' ε (Res op)}

theorem flow_ite {Q : Except ε α → σ → Prop} {c : Prop} [Decidable c] {p q : Prog Op' Res' ε α}
    {s : σ} (hp : c → Flow sem R Q p s) (hq : ¬ c → Flow sem R Q q s) :
    Flow sem R Q (if c then p else q) s := by
  split_ifs with hc
  · exact hp hc
  · exact hq hc

/-- What every handled call keeps, the program keeps. -/
theorem flow_interp {φ : Op → Prop} {I : σ → Prop}
    (hh : ∀ op s, φ op → I s → Flow sem R (fun _ s' => I s') (h op) s)
    {p : Prog Op Res ε α} (hp : p.Calls φ) {s : σ} (hs : I s) :
    Flow sem R (fun _ s' => I s') (p.interp h) s := by
  induction p generalizing s with
  | ret a => exact hs
  | raise e => exact hs
  | call op next ih =>
    exact flow_attempt_bind (hh op s hp.1 hs) fun r s' hs' => ih r (hp.2 r) hs'

/-- The first handled call apart from the rest. -/
theorem flow_interp_bind {P : Except ε α → σ → Prop} {Q : Except ε β → σ → Prop}
    {p : Prog Op Res ε α} {f : α → Prog Op Res ε β} {s : σ}
    (hp : Flow sem R P (p.interp h) s) (hf : ∀ a s', P (.ok a) s' → Flow sem R Q ((f a).interp h) s')
    (he : ∀ e s', P (.error e) s' → Q (.error e) s') :
    Flow sem R Q ((p.bind f).interp h) s := by
  rw [Prog.interp_bind]
  exact flow_bind hp hf he

theorem flow_interp_perform {op : Op} {Q : Except ε (Res op) → σ → Prop} {s : σ}
    (hp : Flow sem R Q (h op) s) : Flow sem R Q ((Prog.perform op).interp h) s := by
  rw [Prog.interp_perform]
  exact hp

end Flow

/-! ## Pools -/

section Outline

variable {ι Op Op' : Type} {Res : Op → Type} {Res' : Op' → Type} {ε α β σ Γ E : Type}
  [DecidableEq ι] {S : System ι Op' Res' ε σ Γ E} {P : Spec ι Op' Res' ε σ Γ} {i : ι}
  {h : (op : Op) → Prog Op' Res' ε (Res op)}

theorem outline_ite {Q : Except ε α → Γ → Prop} {c : Prop} [Decidable c] {p q : Prog Op' Res' ε α}
    {γ : Γ} (hp : c → Outline S P i Q p γ) (hq : ¬ c → Outline S P i Q q γ) :
    Outline S P i Q (if c then p else q) γ := by
  split_ifs with hc
  · exact hp hc
  · exact hq hc

/-- What every handled call keeps of its history, the program keeps. -/
theorem outline_interp {φ : Op → Prop} {ψ : Γ → Prop}
    (hh : ∀ op γ, φ op → ψ γ → Outline S P i (fun _ γ' => ψ γ') (h op) γ)
    {p : Prog Op Res ε α} (hp : p.Calls φ) {γ : Γ} (hγ : ψ γ) :
    Outline S P i (fun _ γ' => ψ γ') (p.interp h) γ := by
  induction p generalizing γ with
  | ret a => exact hγ
  | raise e => exact hγ
  | call op next ih =>
    refine outline_bind (outline_attempt (hh op γ hp.1 hγ)) ?_ ?_
    · rintro r γ' ⟨r', hr, hγ'⟩
      rw [Except.ok.inj hr]
      exact ih r' (hp.2 r') hγ'
    · rintro e γ' ⟨r', hr, -⟩
      cases hr

/-- The first handled call apart from the rest. -/
theorem outline_interp_bind {Q : Except ε α → Γ → Prop} {R : Except ε β → Γ → Prop}
    {p : Prog Op Res ε α} {f : α → Prog Op Res ε β} {γ : Γ}
    (hp : Outline S P i Q (p.interp h) γ)
    (hf : ∀ a γ', Q (.ok a) γ' → Outline S P i R ((f a).interp h) γ')
    (he : ∀ e γ', Q (.error e) γ' → R (.error e) γ') :
    Outline S P i R ((p.bind f).interp h) γ := by
  rw [Prog.interp_bind]
  exact outline_bind hp hf he

theorem outline_interp_perform {op : Op} {Q : Except ε (Res op) → Γ → Prop} {γ : Γ}
    (hp : Outline S P i Q (h op) γ) : Outline S P i Q ((Prog.perform op).interp h) γ := by
  rw [Prog.interp_perform]
  exact hp

end Outline

end Conc
