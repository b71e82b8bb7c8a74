import TryTrust.Conc.Pool

/-!
# Programs in a transaction

A body that is committed at its end, and rolled back when it or the commit raises.

* `Prog.transaction`; `Prog.result`, the value that a program has returned;
* `ends`: a postcondition on normal ends and one on exceptions;
* **`outline_transaction`**: the outline of a transaction from those of its parts;
* `outlined_returned`, `outlined_call`: what an outlined configuration says of a program that has
  returned, and of one that is about to make a call;
* `step_of_none`, `hist_step`: a step by the next call; `update_same`: a part of the histories that
  the caller does not change.
-/

namespace Conc

namespace Prog

variable {Op : Type} {Res : Op → Type} {ε α β : Type}

/-- A body in a transaction of its own. -/
def transaction (commit rollback : Prog Op Res ε Unit) (body : Prog Op Res ε α) :
    Prog Op Res ε α :=
  (body.bind fun a => commit.bind fun _ => ret a).attempt.bind fun
    | .ok a => ret a
    | .error e => rollback.bind fun _ => raise e

/-- What a program has returned. -/
def result : Prog Op Res ε α → Option α
  | ret a => some a
  | _ => none

theorem result_eq_some {p : Prog Op Res ε α} {a : α} : p.result = some a ↔ p = .ret a := by
  cases p <;> simp [result]

end Prog

section Pool

variable {ι Op : Type} {Res : Op → Type} {ε α β σ Γ E : Type} [DecidableEq ι]
  {S : System ι Op Res ε σ Γ E} {P : Spec ι Op Res ε σ Γ} {i : ι}

/-- A postcondition on normal ends and one on exceptions. -/
def ends (A : α → Γ → Prop) (B : ε → Γ → Prop) : Except ε α → Γ → Prop
  | .ok a, γ => A a γ
  | .error e, γ => B e γ

theorem outline_bind_ends {A : α → Γ → Prop} {A' : β → Γ → Prop} {B : ε → Γ → Prop}
    {p : Prog Op Res ε α} {f : α → Prog Op Res ε β} {γ : Γ} (hp : Outline S P i (ends A B) p γ)
    (hf : ∀ a γ', A a γ' → Outline S P i (ends A' B) (f a) γ') :
    Outline S P i (ends A' B) (p.bind f) γ :=
  outline_bind hp hf fun _ _ h => h

/-- **A transaction**: its body, then the commit; an exception of either, then the rollback. -/
theorem outline_transaction {A A' : α → Γ → Prop} {B B' : ε → Γ → Prop}
    {commit rollback : Prog Op Res ε Unit} {body : Prog Op Res ε α} {γ : Γ}
    (hbody : Outline S P i (ends A B) body γ)
    (hcommit : ∀ a γ', A a γ' → Outline S P i (ends (fun _ => A' a) B) commit γ')
    (hrollback : ∀ e γ', B e γ' → Outline S P i (ends (fun _ => B' e) B') rollback γ') :
    Outline S P i (ends A' B') (Prog.transaction commit rollback body) γ := by
  have htry : Outline S P i (ends A' B) (body.bind fun a => commit.bind fun _ => .ret a) γ :=
    outline_bind_ends hbody fun a γ' h => outline_bind_ends (hcommit a γ' h) fun _ _ h => h
  refine outline_bind (outline_attempt htry) ?_ ?_
  · rintro done γ' ⟨r, hr, hend⟩
    obtain rfl : done = r := Except.ok.inj hr
    cases done with
    | ok a => exact hend
    | error e => exact outline_bind_ends (hrollback e γ' hend) fun _ _ h => h
  · rintro e γ' ⟨r, hr, -⟩
    cases hr

variable {Q : ι → Except ε α → Γ → Prop} {c : Config ι Op Res ε α σ Γ}

/-- What holds of a program that has returned. -/
theorem outlined_returned (h : Outlined S P Q c) {a : α} (ha : (c.prog i).result = some a) :
    Q i (.ok a) (c.hist i) := by
  have hi := h.outline i
  rwa [Prog.result_eq_some.1 ha] at hi

/-- What holds of the next call of a program, whatever the environment chooses. -/
theorem outlined_call (h : Outlined S P Q c) {op : Op} (hop : (c.prog i).next = some op) (e : E)
    (hok : P.ok c.hist c.shared i op) :
    P.prop c.hist c.shared i op (S.sem e op c.shared).1 (S.sem e op c.shared).2 := by
  have hi := h.outline i
  cases hp : c.prog i with
  | ret a => simp [hp, Prog.next] at hop
  | raise x => simp [hp, Prog.next] at hop
  | call op' next =>
    rw [hp] at hi hop
    obtain rfl : op' = op := by simpa [Prog.next] using hop
    exact (hi c.hist c.shared e rfl h.inv hok).2.1

theorem result_of_next_none {p : Prog Op Res ε α} (h : p.next = none) :
    (∃ a, p = .ret a) ∨ ∃ e, p = .raise e := by
  cases p with
  | ret a => exact .inl ⟨a, rfl⟩
  | raise e => exact .inr ⟨e, rfl⟩
  | call op next => cases h

theorem step_of_none (h : (c.prog i).next = none) (e : E) : S.step c i e = c := by
  rcases result_of_next_none h with ⟨a, ha⟩ | ⟨x, hx⟩
  · simp only [System.step, ha]
  · simp only [System.step, hx]

/-- The histories after a step. -/
theorem hist_step {op : Op} (h : (c.prog i).next = some op) (e : E) :
    (S.step c i e).hist =
      Function.update c.hist i (S.adv i (c.hist i) c.shared op (S.sem e op c.shared).1) := by
  cases hp : c.prog i with
  | ret a => simp [hp, Prog.next] at h
  | raise x => simp [hp, Prog.next] at h
  | call op' next =>
    rw [hp] at h
    obtain rfl : op' = op := by simpa [Prog.next] using h
    simp only [System.step, hp]

end Pool

/-- A part of a history that does not change. -/
theorem update_same {ι Γ δ : Type} [DecidableEq ι] (f : Γ → δ) {g : ι → Γ} {i : ι} {γ : Γ}
    (h : f γ = f (g i)) (j : ι) : f (Function.update g i γ j) = f (g j) := by
  by_cases hj : j = i
  · rw [hj, Function.update_self, h]
  · rw [Function.update_of_ne hj]

end Conc
