import TryTrust.Agent.Tables

/-!
# The mandate chain: reserve, release, settle

A derived mandate reserves, settles and releases against its whole ancestry.

* `chain`, `reserveChain`, `unreserve`, `release`, `settle`, statement by statement;
* `chainList`: the list that `chain` returns when no statement fails, `chainList_nodup`, and
  **`chainList_fuel`**: a bound above the number of rows is never reached.
-/

namespace TryTrust.Agent

open Conc

/-- One statement or call. -/
abbrev call (c : Call) : Py (Res c) := Prog.perform c

/-- The loop of `chain`; `fuel` bounds its turns. -/
def chainLoop : ℕ → Option String → List String → Py (List String)
  | 0, _, seen => pure seen
  | _ + 1, none, seen => pure seen
  | fuel + 1, some current, seen =>
    if current = "" ∨ current ∈ seen then pure seen
    else do
      let row ← call (.selectParent current)
      chainLoop fuel (Option.join row) (seen ++ [current])

/-- A mandate and every mandate it was derived from, child first. -/
def chain (fuel : ℕ) (jti : String) : Py (List String) := chainLoop fuel (some jti) []

/-- Give the reservation back on one mandate: a read, then a write. -/
def unreserveOne (amount : ℤ) (jti : String) : Py Unit := do
  match ← call (.selectReserved jti) with
  | some reserved => call (.updateReserved jti (max 0 (reserved - amount)))
  | none => pure ()

/-- Give the reservation back on the listed mandates. -/
def unreserve (amount : ℤ) : List String → Py Unit
  | [] => pure ()
  | jti :: rest => do
    unreserveOne amount jti
    unreserve amount rest

/-- The loop of `reserve_chain`; `done` are the mandates reserved so far. -/
def reserveLoop (amount : ℤ) : List String → List String → Py Bool
  | [], _ => pure true
  | jti :: rest, done => do
    match ← call (.selectMandate jti) with
    | none =>
      unreserve amount done
      pure false
    | some row =>
      if row.status ≠ .active then
        unreserve amount done
        pure false
      else if row.spentTotal + row.reservedAmount + amount > row.claims.limits.totalBudget then
        unreserve amount done
        pure false
      else
        let won : Bool ← call (.casReserve jti row (row.reservedAmount + amount))
        if won then reserveLoop amount rest (done ++ [jti])
        else
          unreserve amount done
          pure false

/-- Compare-and-swap up the chain, all or nothing. -/
def reserveChain (fuel : ℕ) (jti : String) (amount : ℤ) : Py Bool := do
  let jtis ← chain fuel jti
  reserveLoop amount jtis []

/-- Give the reservation back, all the way up. -/
def release (fuel : ℕ) (jti : String) (amount : ℤ) : Py Unit := do
  let jtis ← chain fuel jti
  unreserve amount jtis

/-- The reservation becomes spend on one mandate; the status written comes from the row read. -/
def settleOne (amount : ℤ) (jti : String) : Py Unit := do
  match ← call (.selectMandate jti) with
  | none => pure ()
  | some row =>
    let freed := max 0 (row.reservedAmount - amount)
    let spent := row.spentTotal + amount
    let exhausted := spent ≥ row.claims.limits.totalBudget
    call (.updateSettled jti freed spent (row.txnCount + 1)
      (if exhausted then .exhausted else row.status))

/-- The loop of `settle`. -/
def settleLoop (amount : ℤ) : List String → Py Unit
  | [] => pure ()
  | jti :: rest => do
    settleOne amount jti
    settleLoop amount rest

/-- The reservation becomes spend, on the child and every ancestor. -/
def settle (fuel : ℕ) (jti : String) (amount : ℤ) : Py Unit := do
  let jtis ← chain fuel jti
  settleLoop amount jtis

/-! ## The calls they make -/

section Calls

variable {φ : Call → Prop}

theorem chainLoop_calls (h : ∀ j, φ (.selectParent j)) (fuel : ℕ) (current : Option String)
    (seen : List String) : (chainLoop fuel current seen).Calls φ := by
  induction fuel generalizing current seen with
  | zero => trivial
  | succ fuel ih =>
    cases current with
    | none => trivial
    | some jti =>
      simp only [chainLoop]
      split_ifs
      · trivial
      · exact Prog.calls_bind (Prog.calls_perform (h jti)) fun _ => ih _ _

theorem chain_calls (h : ∀ j, φ (.selectParent j)) (fuel : ℕ) (jti : String) :
    (chain fuel jti).Calls φ := chainLoop_calls h fuel _ _

theorem unreserve_calls (h : ∀ j, φ (.selectReserved j)) (h' : ∀ j r, φ (.updateReserved j r))
    (amount : ℤ) (jtis : List String) : (unreserve amount jtis).Calls φ := by
  induction jtis with
  | nil => trivial
  | cons jti rest ih =>
    refine Prog.calls_bind (Prog.calls_bind (Prog.calls_perform (h jti)) fun r => ?_) fun _ => ih
    cases r with
    | none => trivial
    | some r => exact Prog.calls_perform (h' _ _)

theorem settle_calls (hp : ∀ j, φ (.selectParent j)) (hs : ∀ j, φ (.selectMandate j))
    (hu : ∀ j r sp n st, φ (.updateSettled j r sp n st)) (fuel : ℕ) (jti : String) (amount : ℤ) :
    (settle fuel jti amount).Calls φ := by
  refine Prog.calls_bind (chain_calls hp fuel jti) fun jtis => ?_
  induction jtis with
  | nil => trivial
  | cons jti rest ih =>
    refine Prog.calls_bind (Prog.calls_bind (Prog.calls_perform (hs jti)) fun r => ?_) fun _ => ih
    cases r with
    | none => trivial
    | some row => exact Prog.calls_perform (hu _ _ _ _ _)

theorem reserveLoop_calls {amount : ℤ} (h : ∀ j, φ (.selectReserved j))
    (h' : ∀ j r, φ (.updateReserved j r)) (hs : ∀ j, φ (.selectMandate j))
    (hc : ∀ j row, row.spentTotal + row.reservedAmount + amount ≤ row.claims.limits.totalBudget →
      φ (.casReserve j row (row.reservedAmount + amount)))
    (jtis done : List String) : (reserveLoop amount jtis done).Calls φ := by
  have hundo : ∀ done, ((unreserve amount done).bind fun _ => pure false).Calls φ :=
    fun done => Prog.calls_bind (unreserve_calls h h' amount done) fun _ => trivial
  induction jtis generalizing done with
  | nil => trivial
  | cons jti rest ih =>
    refine Prog.calls_bind (Prog.calls_perform (hs jti)) fun r => ?_
    cases r with
    | none => exact hundo done
    | some row =>
      dsimp only
      split_ifs with _ hfits
      · exact hundo done
      · exact hundo done
      · refine Prog.calls_bind (Prog.calls_perform (hc _ _ (not_lt.1 hfits))) fun won => ?_
        cases won with
        | false => exact hundo done
        | true => exact ih _

theorem reserveChain_calls {amount : ℤ} (hp : ∀ j, φ (.selectParent j))
    (h : ∀ j, φ (.selectReserved j)) (h' : ∀ j r, φ (.updateReserved j r))
    (hs : ∀ j, φ (.selectMandate j))
    (hc : ∀ j row, row.spentTotal + row.reservedAmount + amount ≤ row.claims.limits.totalBudget →
      φ (.casReserve j row (row.reservedAmount + amount)))
    (fuel : ℕ) (jti : String) : (reserveChain fuel jti amount).Calls φ :=
  Prog.calls_bind (chain_calls hp fuel jti) fun _ => reserveLoop_calls h h' hs hc _ _

end Calls

/-! ## The chain as a list -/

/-- The list that `chainLoop` returns over the parent pointers `parents`. -/
def chainList (parents : String → Option (Option String)) :
    ℕ → Option String → List String → List String
  | 0, _, seen => seen
  | _ + 1, none, seen => seen
  | fuel + 1, some current, seen =>
    if current = "" ∨ current ∈ seen then seen
    else chainList parents fuel (parents current).join (seen ++ [current])

/-- The part of the mandates that is fixed at issue: the signed claims and the parent. -/
def Db.terms (db : Db) (jti : String) : Option (Claims × Option String) :=
  (db.mandates jti).map fun row => (row.claims, row.parentJti)

/-- The parent pointers of a database. -/
def Db.parents (db : Db) (jti : String) : Option (Option String) := (db.terms jti).map (·.2)

/-- The mandates of the chain, child first, over fixed terms. -/
def chainOf (terms : String → Option (Claims × Option String)) (fuel : ℕ) (jti : String) :
    List String :=
  chainList (fun j => (terms j).map (·.2)) fuel (some jti) []

/-- The mandates of the chain in a database. -/
abbrev Db.chainOf (db : Db) (fuel : ℕ) (jti : String) : List String :=
  chainList db.parents fuel (some jti) []

theorem parents_eq (db : Db) (jti : String) :
    (db.mandates jti).map (·.parentJti) = db.parents jti := by
  simp [Db.parents, Db.terms, Option.map_map, Function.comp_def]

theorem setMandate_terms (db : Db) (jti : String) {f : MandateRow → MandateRow}
    (hc : ∀ row, (f row).claims = row.claims) (hp : ∀ row, (f row).parentJti = row.parentJti) :
    (db.setMandate jti f).terms = db.terms := by
  funext j
  by_cases hj : j = jti
  · subst hj
    simp [Db.terms, Option.map_map, Function.comp_def, hc, hp]
  · simp [Db.terms, hj]

variable (parents : String → Option (Option String))

theorem chainList_nodup (fuel : ℕ) (current : Option String) {seen : List String}
    (h : seen.Nodup) : (chainList parents fuel current seen).Nodup := by
  induction fuel generalizing current seen with
  | zero => exact h
  | succ fuel ih =>
    cases current with
    | none => exact h
    | some jti =>
      simp only [chainList]
      split_ifs with hj
      · exact h
      · push Not at hj
        refine ih _ (List.nodup_append.2 ⟨h, List.nodup_singleton _, fun a ha b hb hab => ?_⟩)
        rw [List.mem_singleton] at hb
        exact hj.2 (hb ▸ hab ▸ ha)

theorem chainOf_nodup (terms : String → Option (Claims × Option String)) (fuel : ℕ)
    (jti : String) : (chainOf terms fuel jti).Nodup :=
  chainList_nodup _ fuel (some jti) List.nodup_nil

theorem chainList_prefix (fuel : ℕ) (current : Option String) (seen : List String) :
    seen <+: chainList parents fuel current seen := by
  induction fuel generalizing current seen with
  | zero => exact List.prefix_refl seen
  | succ fuel ih =>
    cases current with
    | none => exact List.prefix_refl seen
    | some jti =>
      simp only [chainList]
      split_ifs
      · exact List.prefix_refl seen
      · exact (List.prefix_append seen [jti]).trans (ih _ _)

/-- A chain that is not empty starts with the mandate itself. -/
theorem chainOf_cons {terms : String → Option (Claims × Option String)} {fuel : ℕ} {jti : String}
    (h : chainOf terms fuel jti ≠ []) : ∃ rest, chainOf terms fuel jti = jti :: rest := by
  cases fuel with
  | zero => exact absurd rfl h
  | succ fuel =>
    simp only [chainOf, chainList] at h ⊢
    split_ifs at h ⊢
    · exact absurd rfl h
    · obtain ⟨rest, hrest⟩ := chainList_prefix (fun j => (terms j).map (·.2)) fuel
        ((terms jti).map (·.2)).join [jti]
      exact ⟨rest, hrest.symm⟩

/-- **The loop ends**: a bound above the number of rows not yet seen is never reached. -/
theorem chainList_fuel (rows : Finset String) (hrows : ∀ j, parents j ≠ none → j ∈ rows) :
    ∀ (fuel : ℕ) (current : Option String) (seen : List String),
      (rows \ seen.toFinset).card + 1 < fuel → ∀ more, chainList parents (fuel + more) current seen =
        chainList parents fuel current seen := by
  intro fuel
  induction fuel with
  | zero => intro _ _ h; omega
  | succ fuel ih =>
    intro current seen h more
    rw [Nat.succ_add]
    cases current with
    | none => rfl
    | some jti =>
      simp only [chainList]
      split_ifs with hj
      · rfl
      · push Not at hj
        by_cases hp : parents jti = none
        · -- a missing row ends the loop at its next turn
          cases fuel with
          | zero => omega
          | succ fuel => rw [hp, Nat.succ_add]; rfl
        · refine ih _ _ ?_ more
          have hmem : jti ∈ rows \ seen.toFinset := by simp [hrows jti hp, hj.2]
          have hsub : rows \ (seen ++ [jti]).toFinset = (rows \ seen.toFinset).erase jti := by
            ext j
            simp only [List.toFinset_append, Finset.mem_sdiff, Finset.mem_union, Finset.mem_erase,
              List.mem_toFinset, List.mem_singleton]
            tauto
          rw [hsub, Finset.card_erase_of_mem hmem]
          have := Finset.card_pos.2 ⟨jti, hmem⟩
          omega

end TryTrust.Agent
