import TryTrust.Conc.Pool

/-!
# Erasing a process from a run

A **view** of the shared state is a part of it that calls depend on and nothing else. A process
whose steps keep the view can be taken out of a schedule: nobody else notices.

* `Viewed S view`: the answer of a call, and the view after it, are functions of the view before;
* `KeepsView`: the steps of one process keep the view; `Beside`: two configurations that agree on
  the view and on every process but one;
* **`erase_run`**: a run and the run without the steps of such a process end `Beside` each other.
-/

namespace Conc

section Erase

variable {ι Op : Type} {Res : Op → Type} {ε α σ τ Γ E : Type} [DecidableEq ι]
  (S : System ι Op Res ε σ Γ E) (view : σ → τ)

/-- Calls see nothing of the shared state but its view. -/
structure Viewed : Prop where
  answer : ∀ e op s t, view s = view t → (S.sem e op s).1 = (S.sem e op t).1
  state : ∀ e op s t, view s = view t → view (S.sem e op s).2 = view (S.sem e op t).2

/-- A step of process `i` keeps the view. -/
def KeepsView (i : ι) (c : Config ι Op Res ε α σ Γ) (j : ι) (e : E) : Prop :=
  j = i → view (S.step c j e).shared = view c.shared

/-- The same view, and the same programs but for process `i`. -/
structure Beside (i : ι) (c d : Config ι Op Res ε α σ Γ) : Prop where
  shared : view c.shared = view d.shared
  prog : ∀ j, j ≠ i → c.prog j = d.prog j

variable {S view}

omit [DecidableEq ι] in
theorem beside_refl (i : ι) (c : Config ι Op Res ε α σ Γ) : Beside view i c c :=
  ⟨rfl, fun _ _ => rfl⟩

/-- A step changes no other program. -/
theorem step_prog_ne (c : Config ι Op Res ε α σ Γ) {i j : ι} (h : j ≠ i) (e : E) :
    (S.step c i e).prog j = c.prog j := by
  cases hp : c.prog i with
  | ret a => simp only [System.step, hp]
  | raise x => simp only [System.step, hp]
  | call op next => simp only [System.step, hp, Function.update_of_ne h]

/-- A step of the erased process, on one side only. -/
theorem beside_erased {i : ι} {c d : Config ι Op Res ε α σ Γ} (h : Beside view i c d) {e : E}
    (hk : KeepsView S view i c i e) : Beside view i (S.step c i e) d where
  shared := (hk rfl).trans h.shared
  prog := fun j hj => (step_prog_ne c hj e).trans (h.prog j hj)

/-- A step of another process, on both sides. -/
theorem beside_step (hS : Viewed S view) {i j : ι} {c d : Config ι Op Res ε α σ Γ}
    (h : Beside view i c d) (hj : j ≠ i) (e : E) :
    Beside view i (S.step c j e) (S.step d j e) := by
  have hp := h.prog j hj
  cases hc : c.prog j with
  | ret a =>
    rw [hc] at hp
    simpa only [System.step, hc, ← hp] using h
  | raise x =>
    rw [hc] at hp
    simpa only [System.step, hc, ← hp] using h
  | call op next =>
    rw [hc] at hp
    simp only [System.step, hc, ← hp]
    refine ⟨hS.state e op _ _ h.shared, fun k hk => ?_⟩
    rw [hS.answer e op _ _ h.shared]
    by_cases hkj : k = j
    · subst hkj
      simp only [Function.update_self]
    · simpa only [Function.update_of_ne hkj] using h.prog k hk

/-- **Erasure**: a process whose steps keep the view can be taken out of a run. -/
theorem erase_run (hS : Viewed S view) {i : ι} {c d : Config ι Op Res ε α σ Γ}
    (h : Beside view i c d) {xs : List (ι × E)} (hk : S.Along (KeepsView S view i) c xs) :
    Beside view i (S.run c xs) (S.run d (xs.filter fun x => x.1 ≠ i)) := by
  induction xs generalizing c d with
  | nil => exact h
  | cons x xs ih =>
    obtain ⟨j, e⟩ := x
    by_cases hj : j = i
    · subst hj
      rw [List.filter_cons_of_neg (by simp)]
      exact ih (beside_erased h hk.1) hk.2
    · rw [List.filter_cons_of_pos (by simpa using hj)]
      exact ih (beside_step hS h hj e) hk.2

end Erase

end Conc
