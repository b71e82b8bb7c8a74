import TryTrust.Conc.Interp

/-!
# Programs over a record that outlives exceptions

A **job** is a program that changes a record as it goes; when it raises, the record is as it was
left at that point, for whoever catches the exception.

* `Job`, its monad, `raise`, `read`, `edit`, `lift`;
* `outline_keeps`: what every call keeps of a history;
* `JobMeets`: an outline of a job, with the record at its end; the rules `meets_bind`, `meets_edit`,
  `meets_lift`, `meets_raise`, `meets_ite`.
-/

namespace Conc

/-- **A job**: it never raises as a program; an exception comes with the record. -/
def Job (Op : Type) (Res : Op → Type) (ε ρ α : Type) : Type :=
  ρ → Prog Op Res ε (Except ε α × ρ)

namespace Job

variable {Op : Type} {Res : Op → Type} {ε ρ α β : Type}

/-- The job ends with `a`. -/
def ret (a : α) : Job Op Res ε ρ α := fun x => .ret (.ok a, x)

/-- The job raises. -/
def raise (e : ε) : Job Op Res ε ρ α := fun x => .ret (.error e, x)

/-- What follows an end of a job. -/
def follow (f : α → Job Op Res ε ρ β) : Except ε α × ρ → Prog Op Res ε (Except ε β × ρ)
  | (.ok a, x) => f a x
  | (.error e, x) => .ret (.error e, x)

/-- Sequencing; an exception skips what follows. -/
def bind (j : Job Op Res ε ρ α) (f : α → Job Op Res ε ρ β) : Job Op Res ε ρ β :=
  fun x => (j x).bind (follow f)

instance : Monad (Job Op Res ε ρ) where
  pure := ret
  bind := bind

/-- The record. -/
def read : Job Op Res ε ρ ρ := fun x => .ret (.ok x, x)

/-- A change of the record. -/
def edit (f : ρ → ρ) : Job Op Res ε ρ Unit := fun x => .ret (.ok (), f x)

/-- A program that does not see the record. -/
def lift (p : Prog Op Res ε α) : Job Op Res ε ρ α := fun x => p.attempt.bind fun r => .ret (r, x)

/-- One call. -/
abbrev call (op : Op) : Job Op Res ε ρ (Res op) := lift (Prog.perform op)

end Job

/-! ## What histories keep -/

/-- What every call keeps of the history of its caller. -/
theorem outline_keeps {ι Op : Type} {Res : Op → Type} {ε α σ Γ E : Type} [DecidableEq ι]
    {S : System ι Op Res ε σ Γ E} {P : Spec ι Op Res ε σ Γ} {i : ι} {ψ : Γ → Prop}
    (h : ∀ γ s op r, ψ γ → ψ (S.adv i γ s op r)) {Q : Except ε α → Γ → Prop}
    {p : Prog Op Res ε α} {γ : Γ} (hp : Outline S P i Q p γ) (hγ : ψ γ) :
    Outline S P i (fun r γ' => Q r γ' ∧ ψ γ') p γ := by
  induction p generalizing γ with
  | ret a => exact ⟨hp, hγ⟩
  | raise e => exact ⟨hp, hγ⟩
  | call op next ih =>
    intro g s e hg hI hok
    obtain ⟨h1, h2, h3⟩ := hp g s e hg hI hok
    exact ⟨h1, h2, ih _ h3 (h γ s op _ hγ)⟩

/-! ## Outlines of jobs -/

section Meets

variable {ι Op : Type} {Res : Op → Type} {ε ρ α β σ Γ E : Type} [DecidableEq ι]
  {S : System ι Op Res ε σ Γ E} {P : Spec ι Op Res ε σ Γ} {i : ι}

/-- **An outline of a job** from the record `x`: `Q` holds of its end, the record it leaves and the
history. -/
def JobMeets (S : System ι Op Res ε σ Γ E) (P : Spec ι Op Res ε σ Γ) (i : ι)
    (Q : Except ε α → ρ → Γ → Prop) (j : Job Op Res ε ρ α) (x : ρ) (γ : Γ) : Prop :=
  Outline S P i (fun r γ' => ∃ y, r = .ok y ∧ Q y.1 y.2 γ') (j x) γ

/-- `φ` of a value and `ψ` of an exception. -/
def either (φ : α → ρ → Γ → Prop) (ψ : ρ → Γ → Prop) : Except ε α → ρ → Γ → Prop
  | .ok a, x, γ => φ a x γ
  | .error _, x, γ => ψ x γ

variable {x : ρ} {γ : Γ}

theorem meets_pure {Q : Except ε α → ρ → Γ → Prop} {a : α} (h : Q (.ok a) x γ) :
    JobMeets S P i Q (pure a : Job Op Res ε ρ α) x γ :=
  ⟨_, rfl, h⟩

theorem meets_raise {Q : Except ε α → ρ → Γ → Prop} {e : ε} (h : Q (.error e) x γ) :
    JobMeets S P i Q (Job.raise e : Job Op Res ε ρ α) x γ :=
  ⟨_, rfl, h⟩

theorem meets_bind {Q : Except ε α → ρ → Γ → Prop} {R : Except ε β → ρ → Γ → Prop}
    {j : Job Op Res ε ρ α} {f : α → Job Op Res ε ρ β} (hj : JobMeets S P i Q j x γ)
    (hf : ∀ a y γ', Q (.ok a) y γ' → JobMeets S P i R (f a) y γ')
    (he : ∀ e y γ', Q (.error e) y γ' → R (.error e) y γ') :
    JobMeets S P i R (j >>= f) x γ := by
  refine outline_bind hj ?_ ?_
  · rintro ⟨r, y⟩ γ' ⟨_, hr, hQ⟩
    cases hr
    cases r with
    | ok a => exact hf a y γ' hQ
    | error e => exact ⟨_, rfl, he e y γ' hQ⟩
  · rintro e γ' ⟨_, hr, -⟩
    cases hr

/-- Sequencing when an exception leaves `ψ`. -/
theorem meets_seq {φ : α → ρ → Γ → Prop} {φ' : β → ρ → Γ → Prop} {ψ : ρ → Γ → Prop}
    {j : Job Op Res ε ρ α} {f : α → Job Op Res ε ρ β}
    (hj : JobMeets S P i (either φ ψ) j x γ)
    (hf : ∀ a y γ', φ a y γ' → JobMeets S P i (either φ' ψ) (f a) y γ') :
    JobMeets S P i (either φ' ψ) (j >>= f) x γ :=
  meets_bind hj hf fun _ _ _ h => h

theorem meets_read {Q : Except ε ρ → ρ → Γ → Prop} (h : Q (.ok x) x γ) :
    JobMeets S P i Q (Job.read : Job Op Res ε ρ ρ) x γ :=
  ⟨_, rfl, h⟩

theorem meets_edit {Q : Except ε Unit → ρ → Γ → Prop} {f : ρ → ρ} (h : Q (.ok ()) (f x) γ) :
    JobMeets S P i Q (Job.edit f : Job Op Res ε ρ Unit) x γ :=
  ⟨_, rfl, h⟩

theorem meets_lift {Q : Except ε α → ρ → Γ → Prop} {p : Prog Op Res ε α}
    (hp : Outline S P i (fun r γ' => Q r x γ') p γ) :
    JobMeets S P i Q (Job.lift p : Job Op Res ε ρ α) x γ := by
  refine outline_bind (outline_attempt hp) ?_ ?_
  · rintro r γ' ⟨_, hr, hQ⟩
    cases hr
    exact ⟨_, rfl, hQ⟩
  · rintro e γ' ⟨_, hr, -⟩
    cases hr

theorem meets_ite {Q : Except ε α → ρ → Γ → Prop} {c : Prop} [Decidable c]
    {j k : Job Op Res ε ρ α} (hj : c → JobMeets S P i Q j x γ)
    (hk : ¬ c → JobMeets S P i Q k x γ) : JobMeets S P i Q (if c then j else k) x γ := by
  by_cases hc : c
  · rw [if_pos hc]
    exact hj hc
  · rw [if_neg hc]
    exact hk hc

end Meets

end Conc
