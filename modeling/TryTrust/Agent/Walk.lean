import TryTrust.Agent.Chain

/-!
# Outlines of walks along a chain

The rules by which `chain`, `reserve_chain`, `_unreserve` and `settle` are outlined in any system
whose histories record the stage that the purchase reached on each mandate.

* `Stage`; `Moved`: one statement moves the stage of one mandate;
* **`chain_walk`**, **`loop_walk`**, **`reserveLoop_walk`**: from the outlines of the statements to
  those of the loops.
-/

namespace TryTrust.Agent

open Conc

/-- How far a purchase got on one mandate. -/
inductive Stage where
  | none
  | reserved
  | settled
  | released
  deriving DecidableEq, Repr

variable {ι Γ : Type} [DecidableEq ι] {S : System ι Call Res PyErr Db Γ Env}
  {P : Spec ι Call Res PyErr Db Γ} {i : ι}

/-- **The chain** is the list over the parent pointers, when every read of one finds it. -/
theorem chain_walk {terms : String → Option (Claims × Option String)} {γ : Γ}
    (hparent : ∀ j, Outline S P i (onOk fun row γ' => row = (terms j).map (·.2) ∧ γ' = γ)
      (call (.selectParent j)) γ) (fuel : ℕ) (jti : String) :
    Outline S P i (onOk fun jtis γ' => jtis = chainOf terms fuel jti ∧ γ' = γ) (chain fuel jti) γ := by
  have hloop : ∀ (fuel : ℕ) current seen, Outline S P i
      (onOk fun jtis γ' => jtis = chainList (fun j => (terms j).map (·.2)) fuel current seen ∧ γ' = γ)
      (chainLoop fuel current seen) γ := by
    intro fuel
    induction fuel with
    | zero => exact fun _ _ => ⟨rfl, rfl⟩
    | succ fuel ih =>
      intro current seen
      cases current with
      | none => exact ⟨rfl, rfl⟩
      | some jti =>
        simp only [chainLoop, chainList]
        split_ifs
        · exact ⟨rfl, rfl⟩
        · refine outline_bind_ok (hparent jti) ?_
          rintro row γ' ⟨rfl, rfl⟩
          exact ih _ _
  exact hloop fuel _ _

section

variable (stage : Γ → String → Stage) (φ : Γ → Prop)

/-- Only the stage on `jti` may have changed, to one that satisfies `T`. -/
structure Moved (T : Stage → Prop) (jti : String) (γ γ' : Γ) : Prop where
  keeps : φ γ'
  others : ∀ m, m ≠ jti → stage γ' m = stage γ m
  here : T (stage γ' jti)

variable {stage φ}

/-- **A loop over mandates** on which the purchase holds a reservation, one body each. -/
theorem loop_walk {T : String → Stage → Prop} {body : String → Py Unit}
    (loop : List String → Py Unit)
    (hnil : loop [] = pure ())
    (hcons : ∀ jti rest, loop (jti :: rest) = (body jti).bind fun _ => loop rest)
    (jtis : List String)
    (hbody : ∀ jti ∈ jtis, ∀ γ, φ γ → stage γ jti = .reserved →
      Outline S P i (onOk fun _ γ' => Moved stage φ (T jti) jti γ γ') (body jti) γ)
    (γ : Γ) (hn : jtis.Nodup) (hφ : φ γ) (hst : ∀ j ∈ jtis, stage γ j = .reserved) :
    Outline S P i (onOk fun _ γ' => φ γ' ∧ (∀ j ∈ jtis, T j (stage γ' j)) ∧
      ∀ m, m ∉ jtis → stage γ' m = stage γ m) (loop jtis) γ := by
  induction jtis generalizing γ with
  | nil =>
    rw [hnil]
    exact ⟨hφ, by simp, fun _ _ => rfl⟩
  | cons jti rest ih =>
    rw [List.nodup_cons] at hn
    rw [hcons]
    refine outline_bind_ok (hbody jti List.mem_cons_self γ hφ (hst jti List.mem_cons_self))
      fun _ γ' h => ?_
    have hrest : ∀ j ∈ rest, stage γ' j = .reserved := by
      intro j hj
      rw [h.others j (by rintro rfl; exact hn.1 hj)]
      exact hst j (List.mem_cons_of_mem _ hj)
    refine outline_mono (fun r γ'' hr => ?_)
      (ih (fun j hj => hbody j (List.mem_cons_of_mem _ hj)) γ' hn.2 h.keeps hrest)
    cases r with
    | error x => trivial
    | ok u =>
      obtain ⟨h1, h2, h3⟩ := hr
      refine ⟨h1, fun j hj => ?_, fun m hm => ?_⟩
      · rcases List.mem_cons.1 hj with rfl | hj
        · rw [h3 _ hn.1]
          exact h.here
        · exact h2 j hj
      · rw [List.mem_cons, not_or] at hm
        rw [h3 m hm.2, h.others m hm.1]

/-- **The loop of `reserve_chain`**: what was reserved is undone when a mandate refuses. `Known` is
what a read tells of a row. -/
theorem reserveLoop_walk {amount : ℤ} (Known : String → MandateRow → Prop)
    (hselect : ∀ jti γ, φ γ → Outline S P i (onOk fun r γ' => (φ γ' ∧ stage γ' = stage γ) ∧
      ∀ row, r = some row → Known jti row) (call (.selectMandate jti)) γ)
    (hcas : ∀ jti row γ, φ γ → Known jti row → stage γ jti = .none →
      row.spentTotal + row.reservedAmount + amount ≤ row.claims.limits.totalBudget →
      Outline S P i
        (onOk fun won γ' => Moved stage φ (· = if won = true then .reserved else .none) jti γ γ')
        (call (.casReserve jti row (row.reservedAmount + amount))) γ)
    (hundo : ∀ jtis γ, jtis.Nodup → φ γ → (∀ j ∈ jtis, stage γ j = .reserved) →
      Outline S P i (onOk fun _ γ' => φ γ') (unreserve amount jtis) γ)
    (jtis done : List String) (γ : Γ) (hn : (done ++ jtis).Nodup) (hφ : φ γ)
    (hdone : ∀ j ∈ done, stage γ j = .reserved) (hnone : ∀ j ∈ jtis, stage γ j = .none) :
    Outline S P i (onOk fun won γ' => φ γ' ∧ (won = true →
      (∀ j ∈ done ++ jtis, stage γ' j = .reserved) ∧ ∀ j ∈ jtis, ∃ row, Known j row))
      (reserveLoop amount jtis done) γ := by
  induction jtis generalizing done γ with
  | nil => exact ⟨hφ, fun _ => ⟨fun j hj => hdone j (by simpa using hj), by simp⟩⟩
  | cons jti rest ih =>
    have hnotin : ∀ j ∈ done, j ≠ jti := by
      rintro j hj rfl
      exact (List.nodup_append.1 hn).2.2 j hj j List.mem_cons_self rfl
    -- giving up: what was reserved is undone
    have hgiveUp : ∀ γ' : Γ, φ γ' → (∀ j ∈ done, stage γ' j = .reserved) →
        Outline S P i (onOk fun won γ' => φ γ' ∧ (won = true →
          (∀ j ∈ done ++ jti :: rest, stage γ' j = .reserved) ∧
            ∀ j ∈ jti :: rest, ∃ row, Known j row))
          ((unreserve amount done).bind fun _ => pure false) γ' := by
      intro γ' hφ' hdone'
      refine outline_bind_ok (hundo done γ' hn.of_append_left hφ' hdone') fun _ γ'' hφ'' => ?_
      exact ⟨hφ'', fun h => by cases h⟩
    refine outline_bind_ok (hselect jti γ hφ) ?_
    rintro r γ' ⟨⟨hφ', hsame⟩, hknown⟩
    rw [← hsame] at hdone hnone
    cases r with
    | none => exact hgiveUp γ' hφ' hdone
    | some row =>
      dsimp only
      split_ifs with hactive hover
      · exact hgiveUp γ' hφ' hdone
      · exact hgiveUp γ' hφ' hdone
      refine outline_bind_ok (hcas jti row γ' hφ' (hknown row rfl) (hnone jti List.mem_cons_self)
        (not_lt.1 hover)) fun won γ'' h => ?_
      have hdone'' : ∀ j ∈ done, stage γ'' j = .reserved := by
        intro j hj
        rw [h.others j (hnotin j hj)]
        exact hdone j hj
      cases won with
      | false => exact hgiveUp γ'' h.keeps hdone''
      | true =>
        have hsplit : done ++ jti :: rest = (done ++ [jti]) ++ rest := by simp
        rw [hsplit] at hn ⊢
        have hrest : ∀ j ∈ rest, j ≠ jti := by
          rintro j hj rfl
          exact (List.nodup_append.1 hn).2.2 j (by simp) j hj rfl
        refine outline_mono (fun r γ₃ hr => ?_) (ih (done ++ [jti]) γ'' hn h.keeps
          (fun j hj => ?_) fun j hj => ?_)
        · cases r with
          | error x => trivial
          | ok won =>
            refine ⟨hr.1, fun hwon => ⟨(hr.2 hwon).1, fun j hj => ?_⟩⟩
            rcases List.mem_cons.1 hj with rfl | hj
            · exact ⟨row, hknown row rfl⟩
            · exact (hr.2 hwon).2 j hj
        · rcases List.mem_append.1 hj with hj | hj
          · exact hdone'' j hj
          · rw [List.mem_singleton] at hj
            rw [hj, h.here]
            rfl
        · rw [h.others j (hrest j hj)]
          exact hnone j (List.mem_cons_of_mem _ hj)

end

end TryTrust.Agent
