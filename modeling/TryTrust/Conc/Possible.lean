import TryTrust.Conc.Jobs

/-!
# Possible ends

* `Prog.Possible`: an end that some answers lead to; `bind_congr_returns`, **`bind_inj_possible`**:
  two continuations of a program are told apart exactly at its possible ends;
* `Job.Returns`, `Job.Can`: the same for jobs, with the record that they leave.
-/

namespace Conc

variable {Op : Type} {Res : Op → Type} {ε ρ α β : Type}

namespace Prog

/-- Some answers lead to this end. -/
def Possible (r : Except ε α) : Prog Op Res ε α → Prop
  | ret a => r = .ok a
  | raise e => r = .error e
  | call _ next => ∃ x, (next x).Possible r

theorem possible_bind {p : Prog Op Res ε α} {f : α → Prog Op Res ε β} {a : α} {r : Except ε β}
    (hp : p.Possible (.ok a)) (hf : (f a).Possible r) : (p.bind f).Possible r := by
  induction p with
  | ret b =>
    cases hp
    exact hf
  | raise e => cases hp
  | call op next ih =>
    obtain ⟨x, hx⟩ := hp
    exact ⟨x, ih x hx⟩

theorem possible_perform {op : Op} (r : Except ε (Res op)) :
    (perform op : Prog Op Res ε (Res op)).Possible r :=
  ⟨r, by cases r <;> rfl⟩

theorem possible_attempt {p : Prog Op Res ε α} {r : Except ε α} (hp : p.Possible r) :
    p.attempt.Possible (.ok r) := by
  induction p with
  | ret a =>
    cases hp
    rfl
  | raise e =>
    cases hp
    rfl
  | call op next ih =>
    obtain ⟨x, hx⟩ := hp
    exact ⟨x, ih x hx⟩

theorem returns_attempt {p : Prog Op Res ε α} {Q : Except ε α → Prop} (hp : p.Returns Q) :
    p.attempt.Returns fun r => ∃ r', r = .ok r' ∧ Q r' := by
  induction p with
  | ret a => exact ⟨_, rfl, hp⟩
  | raise e => exact ⟨_, rfl, hp⟩
  | call op next ih => exact fun x => ih x (hp x)

/-- Continuations that agree at every end. -/
theorem bind_congr_returns {p : Prog Op Res ε α} {f g : α → Prog Op Res ε β}
    (h : p.Returns fun r => ∀ a, r = .ok a → f a = g a) : p.bind f = p.bind g := by
  induction p with
  | ret a => exact h a rfl
  | raise e => rfl
  | call op next ih => exact congrArg (call op) (funext fun x => ih x (h x))

/-- **Continuations that differ** at a possible end. -/
theorem bind_inj_possible {p : Prog Op Res ε α} {f g : α → Prog Op Res ε β}
    (h : p.bind f = p.bind g) {a : α} (hp : p.Possible (.ok a)) : f a = g a := by
  induction p with
  | ret b =>
    cases hp
    exact h
  | raise e => cases hp
  | call op next ih =>
    obtain ⟨x, hx⟩ := hp
    refine ih x ?_ hx
    simp only [call_bind, call.injEq, heq_eq_eq, true_and] at h
    exact congrFun h x

end Prog

namespace Job

/-! ## Jobs -/

/-- Every end of a job, with the record it leaves. -/
def Returns (Q : Except ε α → ρ → Prop) (j : Job Op Res ε ρ α) (x : ρ) : Prop :=
  (j x).Returns fun r => ∃ y, r = .ok y ∧ Q y.1 y.2

/-- Some answers lead to this end, and leave this record. -/
def Can (j : Job Op Res ε ρ α) (x : ρ) (r : Except ε α) (y : ρ) : Prop :=
  (j x).Possible (.ok (r, y))

variable {x y z : ρ}

theorem returns_pure {Q : Except ε α → ρ → Prop} {a : α} (h : Q (.ok a) x) :
    (pure a : Job Op Res ε ρ α).Returns Q x :=
  ⟨_, rfl, h⟩

theorem returns_raise {Q : Except ε α → ρ → Prop} {e : ε} (h : Q (.error e) x) :
    (raise e : Job Op Res ε ρ α).Returns Q x :=
  ⟨_, rfl, h⟩

theorem returns_edit {Q : Except ε Unit → ρ → Prop} {f : ρ → ρ} (h : Q (.ok ()) (f x)) :
    (edit f : Job Op Res ε ρ Unit).Returns Q x :=
  ⟨_, rfl, h⟩

theorem returns_bind {Q : Except ε α → ρ → Prop} {R : Except ε β → ρ → Prop}
    {j : Job Op Res ε ρ α} {f : α → Job Op Res ε ρ β} (hj : j.Returns Q x)
    (hf : ∀ a y, Q (.ok a) y → (f a).Returns R y) (he : ∀ e y, Q (.error e) y → R (.error e) y) :
    (j >>= f).Returns R x := by
  refine Prog.returns_bind hj ?_ ?_
  · rintro ⟨r, y⟩ ⟨_, hr, hQ⟩
    cases hr
    cases r with
    | ok a => exact hf a y hQ
    | error e => exact ⟨_, rfl, he e y hQ⟩
  · rintro e ⟨_, hr, -⟩
    cases hr

theorem returns_lift {Q : Except ε α → ρ → Prop} {p : Prog Op Res ε α}
    (hp : p.Returns fun r => Q r x) : (lift p : Job Op Res ε ρ α).Returns Q x := by
  refine Prog.returns_bind (Prog.returns_attempt hp) ?_ ?_
  · rintro r ⟨_, hr, hQ⟩
    cases hr
    exact ⟨_, rfl, hQ⟩
  · rintro e ⟨_, hr, -⟩
    cases hr

theorem returns_ite {Q : Except ε α → ρ → Prop} {c : Prop} [Decidable c]
    {j k : Job Op Res ε ρ α} (hj : c → j.Returns Q x) (hk : ¬ c → k.Returns Q x) :
    (if c then j else k : Job Op Res ε ρ α).Returns Q x := by
  by_cases hc : c
  · rw [if_pos hc]
    exact hj hc
  · rw [if_neg hc]
    exact hk hc

theorem can_pure (a : α) : (pure a : Job Op Res ε ρ α).Can x (.ok a) x := rfl

theorem can_bind {j : Job Op Res ε ρ α} {f : α → Job Op Res ε ρ β} {a : α} {r : Except ε β}
    (hj : j.Can x (.ok a) y) (hf : (f a).Can y r z) : (j >>= f).Can x r z :=
  Prog.possible_bind hj hf

theorem can_read {f : ρ → Job Op Res ε ρ β} {r : Except ε β} (hf : (f x).Can x r z) :
    ((read : Job Op Res ε ρ ρ) >>= f).Can x r z := hf

theorem can_edit {f : ρ → ρ} {j : Unit → Job Op Res ε ρ β} {r : Except ε β}
    (hj : (j ()).Can (f x) r z) : (edit f >>= j).Can x r z := hj

theorem can_lift {p : Prog Op Res ε α} {r : Except ε α} (hp : p.Possible r) :
    (lift p : Job Op Res ε ρ α).Can x r x :=
  Prog.possible_bind (Prog.possible_attempt hp) rfl

theorem can_call {op : Op} (a : Res op) {f : Res op → Job Op Res ε ρ β} {r : Except ε β}
    (hf : (f a).Can x r z) : ((call op : Job Op Res ε ρ (Res op)) >>= f).Can x r z :=
  can_bind (can_lift (Prog.possible_perform (.ok a))) hf

theorem can_else {c : Prop} [Decidable c] (hc : ¬ c) {j k : Job Op Res ε ρ α} {r : Except ε α}
    (hk : k.Can x r z) : (if c then j else k : Job Op Res ε ρ α).Can x r z := by
  rw [if_neg hc]
  exact hk

end Job

end Conc
