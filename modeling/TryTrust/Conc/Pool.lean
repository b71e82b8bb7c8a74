import TryTrust.Conc.Prog

/-!
# Pools of programs over one shared state

A **pool** is a family of programs that share a state; a step runs one call of one program. A
program that is never scheduled again has crashed, so crashes need no rule of their own. Each
program carries a **history**, a value that its own calls advance and nobody reads at run time.

* `System` (meaning of calls and of histories), `Config`, `step`, `run`;
* `Along`: a predicate on every step of a run; `next`, the call a program is about to make;
* `Spec`: an invariant, a condition on steps and a property of steps; `Outline`: a program keeps
  the invariant and the step property at each of its calls, whatever the others do in between;
* the rules `outline_mono`, `outline_bind`, `outline_tryCatch`, `outline_attempt`,
  `outline_perform`, `outline_perform_eq`, `outline_calls`, `outline_bind_ok`;
* **`outline_run`**: when every program has an outline, the invariant holds in every reachable
  configuration and the property at every step; `always_iff_along`: a fact that a step keeps
  exactly when it meets a condition;
* `sum_update_add`: a sum over the histories after a step.
-/

namespace Conc

/-- What calls do to the shared state and what they add to the caller's history. -/
structure System (ι Op : Type) (Res : Op → Type) (ε σ Γ E : Type) where
  /-- `e` is what the environment chooses at this step. -/
  sem : E → (op : Op) → σ → Except ε (Res op) × σ
  /-- The caller's new history, from its old one, the state before the call and the answer. -/
  adv : ι → Γ → σ → (op : Op) → Except ε (Res op) → Γ

/-- A configuration of a pool. -/
structure Config (ι Op : Type) (Res : Op → Type) (ε α σ Γ : Type) where
  shared : σ
  prog : ι → Prog Op Res ε α
  hist : ι → Γ

/-- The call a program is about to make. -/
def Prog.next {Op : Type} {Res : Op → Type} {ε α : Type} : Prog Op Res ε α → Option Op
  | .ret _ => none
  | .raise _ => none
  | .call op _ => some op

section Pool

variable {ι Op : Type} {Res : Op → Type} {ε α β σ Γ E : Type} [DecidableEq ι]

namespace System

variable (S : System ι Op Res ε σ Γ E)

/-- **One step**: process `i` makes its next call; a finished process does nothing. -/
def step (c : Config ι Op Res ε α σ Γ) (i : ι) (e : E) : Config ι Op Res ε α σ Γ :=
  match c.prog i with
  | .ret _ => c
  | .raise _ => c
  | .call op next =>
    { shared := (S.sem e op c.shared).2
      prog := Function.update c.prog i (next (S.sem e op c.shared).1)
      hist := Function.update c.hist i (S.adv i (c.hist i) c.shared op (S.sem e op c.shared).1) }

/-- The configuration after a schedule. -/
def run (c : Config ι Op Res ε α σ Γ) : List (ι × E) → Config ι Op Res ε α σ Γ
  | [] => c
  | x :: xs => run (S.step c x.1 x.2) xs

@[simp] theorem run_nil (c : Config ι Op Res ε α σ Γ) : S.run c [] = c := rfl

@[simp] theorem run_cons (c : Config ι Op Res ε α σ Γ) (x : ι × E) (xs : List (ι × E)) :
    S.run c (x :: xs) = S.run (S.step c x.1 x.2) xs := rfl

theorem run_append (c : Config ι Op Res ε α σ Γ) (xs ys : List (ι × E)) :
    S.run c (xs ++ ys) = S.run (S.run c xs) ys := by
  induction xs generalizing c with
  | nil => rfl
  | cons x xs ih => exact ih _

/-- Every step of a run meets `P`. -/
def Along (P : Config ι Op Res ε α σ Γ → ι → E → Prop) (c : Config ι Op Res ε α σ Γ) :
    List (ι × E) → Prop
  | [] => True
  | x :: xs => P c x.1 x.2 ∧ Along P (S.step c x.1 x.2) xs

instance decidableAlong (P : Config ι Op Res ε α σ Γ → ι → E → Prop)
    [∀ c i e, Decidable (P c i e)] (c : Config ι Op Res ε α σ Γ) :
    (xs : List (ι × E)) → Decidable (S.Along P c xs)
  | [] => .isTrue trivial
  | x :: xs => @instDecidableAnd _ _ _ (decidableAlong P (S.step c x.1 x.2) xs)

theorem along_of_forall {P : Config ι Op Res ε α σ Γ → ι → E → Prop} (h : ∀ c i e, P c i e)
    (c : Config ι Op Res ε α σ Γ) (xs : List (ι × E)) : S.Along P c xs := by
  induction xs generalizing c with
  | nil => trivial
  | cons x xs ih => exact ⟨h _ _ _, ih _⟩

theorem along_mono {P Q : Config ι Op Res ε α σ Γ → ι → E → Prop} (h : ∀ c i e, P c i e → Q c i e)
    {c : Config ι Op Res ε α σ Γ} {xs : List (ι × E)} (hP : S.Along P c xs) : S.Along Q c xs := by
  induction xs generalizing c with
  | nil => trivial
  | cons x xs ih => exact ⟨h _ _ _ hP.1, ih hP.2⟩

theorem along_and {P Q : Config ι Op Res ε α σ Γ → ι → E → Prop} {c : Config ι Op Res ε α σ Γ}
    {xs : List (ι × E)} (hP : S.Along P c xs) (hQ : S.Along Q c xs) :
    S.Along (fun c i e => P c i e ∧ Q c i e) c xs := by
  induction xs generalizing c with
  | nil => trivial
  | cons x xs ih => exact ⟨⟨hP.1, hQ.1⟩, ih hP.2 hQ.2⟩

theorem along_append {P : Config ι Op Res ε α σ Γ → ι → E → Prop}
    (c : Config ι Op Res ε α σ Γ) (xs ys : List (ι × E)) :
    S.Along P c (xs ++ ys) ↔ S.Along P c xs ∧ S.Along P (S.run c xs) ys := by
  induction xs generalizing c with
  | nil => simp [Along]
  | cons x xs ih => simp [Along, ih, and_assoc]

end System

/-! ## Specifications and outlines -/

/-- An invariant, a condition under which steps are considered, and a property of steps. -/
structure Spec (ι Op : Type) (Res : Op → Type) (ε σ Γ : Type) where
  inv : (ι → Γ) → σ → Prop
  ok : (ι → Γ) → σ → ι → Op → Prop
  prop : (ι → Γ) → σ → ι → (op : Op) → Except ε (Res op) → σ → Prop

variable (S : System ι Op Res ε σ Γ E) (P : Spec ι Op Res ε σ Γ)

/-- **The outline of a program**: from any state of the invariant that the others may have
reached, its next call keeps the invariant and has the step property; `Q` holds at its end. -/
def Outline (i : ι) (Q : Except ε α → Γ → Prop) : Prog Op Res ε α → Γ → Prop
  | .ret a, γ => Q (.ok a) γ
  | .raise e, γ => Q (.error e) γ
  | .call op next, γ => ∀ g s e, g i = γ → P.inv g s → P.ok g s i op →
      P.inv (Function.update g i (S.adv i γ s op (S.sem e op s).1)) (S.sem e op s).2 ∧
        P.prop g s i op (S.sem e op s).1 (S.sem e op s).2 ∧
          Outline i Q (next (S.sem e op s).1) (S.adv i γ s op (S.sem e op s).1)

variable {S P}

theorem outline_mono {i : ι} {Q R : Except ε α → Γ → Prop} (hQR : ∀ r γ, Q r γ → R r γ)
    {p : Prog Op Res ε α} {γ : Γ} (h : Outline S P i Q p γ) : Outline S P i R p γ := by
  induction p generalizing γ with
  | ret a => exact hQR _ _ h
  | raise e => exact hQR _ _ h
  | call op next ih =>
    intro g s e hg hI hok
    obtain ⟨h1, h2, h3⟩ := h g s e hg hI hok
    exact ⟨h1, h2, ih _ h3⟩

theorem outline_bind {i : ι} {Q : Except ε α → Γ → Prop} {R : Except ε β → Γ → Prop}
    {p : Prog Op Res ε α} {f : α → Prog Op Res ε β} {γ : Γ} (hp : Outline S P i Q p γ)
    (hf : ∀ a γ', Q (.ok a) γ' → Outline S P i R (f a) γ')
    (he : ∀ e γ', Q (.error e) γ' → R (.error e) γ') : Outline S P i R (p.bind f) γ := by
  induction p generalizing γ with
  | ret a => exact hf _ _ hp
  | raise e => exact he _ _ hp
  | call op next ih =>
    intro g s e hg hI hok
    obtain ⟨h1, h2, h3⟩ := hp g s e hg hI hok
    exact ⟨h1, h2, ih _ h3⟩

theorem outline_tryCatch {i : ι} {Q R : Except ε α → Γ → Prop} {p : Prog Op Res ε α}
    {h : ε → Prog Op Res ε α} {γ : Γ} (hp : Outline S P i Q p γ)
    (ha : ∀ a γ', Q (.ok a) γ' → R (.ok a) γ')
    (hh : ∀ e γ', Q (.error e) γ' → Outline S P i R (h e) γ') :
    Outline S P i R (p.tryCatch h) γ := by
  induction p generalizing γ with
  | ret a => exact ha _ _ hp
  | raise e => exact hh _ _ hp
  | call op next ih =>
    intro g s e hg hI hok
    obtain ⟨h1, h2, h3⟩ := hp g s e hg hI hok
    exact ⟨h1, h2, ih _ h3⟩

theorem outline_attempt {i : ι} {Q : Except ε α → Γ → Prop} {p : Prog Op Res ε α} {γ : Γ}
    (hp : Outline S P i Q p γ) :
    Outline S P i (fun r γ' => ∃ r', r = .ok r' ∧ Q r' γ') p.attempt γ := by
  induction p generalizing γ with
  | ret a => exact ⟨_, rfl, hp⟩
  | raise e => exact ⟨_, rfl, hp⟩
  | call op next ih =>
    intro g s e hg hI hok
    obtain ⟨h1, h2, h3⟩ := hp g s e hg hI hok
    exact ⟨h1, h2, ih _ h3⟩

theorem outline_perform {i : ι} {Q : Except ε (Res op) → Γ → Prop} {γ : Γ}
    (h : ∀ g s e, g i = γ → P.inv g s → P.ok g s i op →
      P.inv (Function.update g i (S.adv i γ s op (S.sem e op s).1)) (S.sem e op s).2 ∧
        P.prop g s i op (S.sem e op s).1 (S.sem e op s).2 ∧
          Q (S.sem e op s).1 (S.adv i γ s op (S.sem e op s).1)) :
    Outline S P i Q (Prog.perform op) γ := by
  intro g s e hg hI hok
  obtain ⟨h1, h2, h3⟩ := h g s e hg hI hok
  refine ⟨h1, h2, ?_⟩
  cases hr : (S.sem e op s).1 with
  | ok a => rw [hr] at h3; exact h3
  | error e => rw [hr] at h3; exact h3

/-- One call whose answer, new state and new history are known. -/
theorem outline_perform_eq {op : Op} {i : ι} {Q : Except ε (Res op) → Γ → Prop} {γ : Γ}
    (h : ∀ g s e, g i = γ → P.inv g s → P.ok g s i op → ∃ r s' γ',
      S.sem e op s = (r, s') ∧ S.adv i γ s op r = γ' ∧
        P.inv (Function.update g i γ') s' ∧ P.prop g s i op r s' ∧ Q r γ') :
    Outline S P i Q (Prog.perform op) γ := by
  refine outline_perform fun g s e hg hI hok => ?_
  obtain ⟨r, s', γ', hsem, hadv, h1, h2, h3⟩ := h g s e hg hI hok
  rw [hsem, hadv]
  exact ⟨h1, h2, h3⟩

/-- A program all of whose calls keep the invariant and have the property has an outline, and
keeps what its calls keep of its history. -/
theorem outline_calls {φ : Op → Prop} {ψ : Γ → Prop} {i : ι}
    (h : ∀ g s e op, φ op → ψ (g i) → P.inv g s → P.ok g s i op →
      P.inv (Function.update g i (S.adv i (g i) s op (S.sem e op s).1)) (S.sem e op s).2 ∧
        P.prop g s i op (S.sem e op s).1 (S.sem e op s).2 ∧
          ψ (S.adv i (g i) s op (S.sem e op s).1))
    {p : Prog Op Res ε α} (hp : p.Calls φ) {γ : Γ} (hγ : ψ γ) :
    Outline S P i (fun _ γ' => ψ γ') p γ := by
  induction p generalizing γ with
  | ret a => exact hγ
  | raise e => exact hγ
  | call op next ih =>
    rintro g s e rfl hI hok
    obtain ⟨h1, h2, h3⟩ := h g s e op hp.1 hγ hI hok
    exact ⟨h1, h2, ih _ (hp.2 _) h3⟩

/-- An outline together with what holds of every end of the program. -/
theorem outline_returns {i : ι} {Q : Except ε α → Γ → Prop} {R : Except ε α → Prop}
    {p : Prog Op Res ε α} {γ : Γ} (hp : Outline S P i Q p γ) (hR : p.Returns R) :
    Outline S P i (fun r γ' => Q r γ' ∧ R r) p γ := by
  induction p generalizing γ with
  | ret a => exact ⟨hp, hR⟩
  | raise e => exact ⟨hp, hR⟩
  | call op next ih =>
    intro g s e hg hI hok
    obtain ⟨h1, h2, h3⟩ := hp g s e hg hI hok
    exact ⟨h1, h2, ih _ h3 (hR _)⟩

/-! ### Programs whose exceptions end them -/

/-- A postcondition on normal ends; nothing is asked of an exception. -/
def onOk (φ : α → Γ → Prop) : Except ε α → Γ → Prop
  | .ok a, γ => φ a γ
  | .error _, _ => True

theorem onOk_true (r : Except ε α) (γ : Γ) : onOk (fun _ _ => True) r γ := by
  cases r <;> trivial

theorem outline_bind_ok {i : ι} {φ : α → Γ → Prop} {ψ : β → Γ → Prop} {p : Prog Op Res ε α}
    {f : α → Prog Op Res ε β} {γ : Γ} (hp : Outline S P i (onOk φ) p γ)
    (hf : ∀ a γ', φ a γ' → Outline S P i (onOk ψ) (f a) γ') :
    Outline S P i (onOk ψ) (p.bind f) γ :=
  outline_bind hp hf fun _ _ _ => trivial

/-! ## Runs of a pool whose programs have outlines -/

/-- A configuration that satisfies the invariant and whose programs have outlines. -/
structure Outlined (S : System ι Op Res ε σ Γ E) (P : Spec ι Op Res ε σ Γ)
    (Q : ι → Except ε α → Γ → Prop) (c : Config ι Op Res ε α σ Γ) : Prop where
  inv : P.inv c.hist c.shared
  outline : ∀ i, Outline S P i (Q i) (c.prog i) (c.hist i)

/-- The condition of a specification on a step. -/
def Spec.Ok (P : Spec ι Op Res ε σ Γ) (c : Config ι Op Res ε α σ Γ) (i : ι) (_ : E) : Prop :=
  ∀ op ∈ (c.prog i).next, P.ok c.hist c.shared i op

/-- The property of a specification on a step. -/
def Spec.Prop (S : System ι Op Res ε σ Γ E) (P : Spec ι Op Res ε σ Γ)
    (c : Config ι Op Res ε α σ Γ) (i : ι) (e : E) : Prop :=
  ∀ op ∈ (c.prog i).next,
    P.prop c.hist c.shared i op (S.sem e op c.shared).1 (S.sem e op c.shared).2

theorem outlined_step {Q : ι → Except ε α → Γ → Prop} {c : Config ι Op Res ε α σ Γ}
    (h : Outlined S P Q c) {i : ι} {e : E} (hok : P.Ok c i e) :
    P.Prop S c i e ∧ Outlined S P Q (S.step c i e) := by
  have hi := h.outline i
  cases hp : c.prog i with
  | ret a => simpa [Spec.Prop, hp, Prog.next, System.step] using h
  | raise x => simpa [Spec.Prop, hp, Prog.next, System.step] using h
  | call op next =>
    rw [hp] at hi
    obtain ⟨h1, h2, h3⟩ := hi c.hist c.shared e rfl h.inv (hok op (by simp [hp, Prog.next]))
    refine ⟨by simpa [Spec.Prop, hp, Prog.next] using h2, ?_⟩
    simp only [System.step, hp]
    refine ⟨h1, fun j => ?_⟩
    by_cases hj : j = i
    · subst hj; simpa using h3
    · simpa [Function.update_of_ne hj] using h.outline j

/-- **Runs**: along every schedule whose steps meet the condition, every step has the property and
the configuration reached satisfies the invariant. -/
theorem outline_run {Q : ι → Except ε α → Γ → Prop} {c : Config ι Op Res ε α σ Γ}
    (h : Outlined S P Q c) {xs : List (ι × E)} (hok : S.Along P.Ok c xs) :
    S.Along (P.Prop S) c xs ∧ Outlined S P Q (S.run c xs) := by
  induction xs generalizing c with
  | nil => exact ⟨trivial, h⟩
  | cons x xs ih =>
    obtain ⟨h1, h2⟩ := outlined_step h hok.1
    obtain ⟨h3, h4⟩ := ih h2 hok.2
    exact ⟨⟨h1, h3⟩, h4⟩

/-- **Facts that steps keep or lose**: one that a step keeps exactly when it meets `R` holds
throughout a run exactly when every step meets `R`. -/
theorem always_iff_along {Q : ι → Except ε α → Γ → Prop} {A : Config ι Op Res ε α σ Γ → Prop}
    {R : Config ι Op Res ε α σ Γ → ι → E → Prop}
    (hstep : ∀ c i e, Outlined S P Q c → P.Ok c i e → A c → (A (S.step c i e) ↔ R c i e))
    {c : Config ι Op Res ε α σ Γ} (h : Outlined S P Q c) (hA : A c) {xs : List (ι × E)}
    (hok : S.Along P.Ok c xs) : (∀ ys, ys <+: xs → A (S.run c ys)) ↔ S.Along R c xs := by
  induction xs generalizing c with
  | nil =>
    refine ⟨fun _ => trivial, fun _ ys hys => ?_⟩
    rw [List.prefix_nil.1 hys]
    exact hA
  | cons x xs ih =>
    have hx := hstep c x.1 x.2 h hok.1 hA
    constructor
    · intro hall
      have hA' : A (S.step c x.1 x.2) := hall [x] (by simp)
      refine ⟨hx.1 hA', (ih (outlined_step h hok.1).2 hA' hok.2).1 fun ys hys => ?_⟩
      exact hall (x :: ys) (List.cons_prefix_cons.2 ⟨rfl, hys⟩)
    · rintro ⟨hR, hrest⟩ ys hys
      cases ys with
      | nil => exact hA
      | cons y ys =>
        obtain ⟨hy, htail⟩ := List.cons_prefix_cons.1 hys
        rw [hy]
        exact (ih (outlined_step h hok.1).2 (hx.2 hR) hok.2).2 hrest ys htail

/-! ## Sums over the histories -/

/-- A sum over the histories after one of them changed. -/
theorem sum_update_add [Fintype ι] {M : Type} [AddCommMonoid M] (w : Γ → M) (g : ι → Γ) (i : ι)
    (γ : Γ) : (∑ j, w (Function.update g i γ j)) + w (g i) = (∑ j, w (g j)) + w γ := by
  have hrest : (∑ j ∈ Finset.univ.erase i, w (Function.update g i γ j)) =
      ∑ j ∈ Finset.univ.erase i, w (g j) :=
    Finset.sum_congr rfl fun j hj => by rw [Function.update_of_ne (Finset.ne_of_mem_erase hj)]
  rw [← Finset.add_sum_erase Finset.univ _ (Finset.mem_univ i),
    ← Finset.add_sum_erase Finset.univ (fun j => w (g j)) (Finset.mem_univ i), hrest,
    Function.update_self]
  abel

end Pool

end Conc
