import TryTrust.Agent.Walk

/-!
# The budget of a mandate under concurrent purchases

Any number of purchases reserve up their chains and later settle or release, statement by
statement on one database. `reserve_chain` writes with a compare-and-swap; `settle` and
`_unreserve` write what they computed from an earlier read.

* `Ledger`: for each purchase and mandate, the stage it reached and the counters it last read;
* `Balanced`: every counter is the sum of the purchases at that stage, within the budget;
* `balanced_reserve`, `balanced_release`, `balanced_settle`: what one write preserves;
* **`budget_balanced`**: in every run whose unguarded writes find the row as it was last read,
  every reachable state is balanced; `budget_lost_update`: without that it is not.
-/

namespace TryTrust.Agent

open Conc

/-- What one purchase did to every mandate, and the reserved and spent amounts it last read. -/
structure Ledger where
  stage : String → Stage
  read : String → ℤ × ℤ

/-- The ledger of a purchase that has not started. -/
def Ledger.start : Ledger := ⟨fun _ => .none, fun _ => (0, 0)⟩

/-- A call's effect on the caller's ledger. -/
def Ledger.advance (γ : Ledger) : (c : Call) → Except PyErr (Res c) → Ledger
  | .selectMandate jti, .ok (some row) =>
    { γ with read := Function.update γ.read jti (row.reservedAmount, row.spentTotal) }
  | .selectReserved jti, .ok (some reserved) =>
    { γ with read := Function.update γ.read jti (reserved, (γ.read jti).2) }
  | .casReserve jti _ _, .ok true => { γ with stage := Function.update γ.stage jti .reserved }
  | .updateReserved jti _, .ok _ => { γ with stage := Function.update γ.stage jti .released }
  | .updateSettled jti _ _ _ _, .ok _ => { γ with stage := Function.update γ.stage jti .settled }
  | _, _ => γ

/-- How a purchase ends once its budget is reserved. -/
inductive Fate where
  | settle
  | release
  deriving DecidableEq, Repr

/-- A purchase: its mandate, its amount and how it ends. -/
structure Purchase where
  jti : String
  amount : ℤ
  fate : Fate

/-- The budget statements of a purchase: reserve up the chain, then settle or release. -/
def saga (fuel : ℕ) (p : Purchase) : Py Unit := do
  let won : Bool ← reserveChain fuel p.jti p.amount
  if won then
    match p.fate with
    | .settle => settle fuel p.jti p.amount
    | .release => release fuel p.jti p.amount
  else pure ()

section Pool

variable {ι : Type} [DecidableEq ι]

/-- The pool of purchases. -/
def budgetSystem : System ι Call Res PyErr Db Ledger Env where
  sem := sem
  adv _ γ _ c r := γ.advance c r

/-- All purchases before their first statement. -/
def budgetStart (fuel : ℕ) (p : ι → Purchase) (db : Db) : Config ι Call Res PyErr Unit Db Ledger where
  shared := db
  prog i := saga fuel (p i)
  hist _ := .start

variable [Fintype ι] (p : ι → Purchase)

/-- The amounts of the purchases that are at stage `st` on mandate `m`. -/
def sumAt (st : Stage) (g : ι → Ledger) (m : String) : ℤ :=
  ∑ i, if (g i).stage m = st then (p i).amount else 0

/-- **The budget invariant**: no update lost, nothing counted twice, the budget respected. -/
structure Balanced (g : ι → Ledger) (db : Db) : Prop where
  reserved : ∀ m, ∀ row ∈ db.mandates m, row.reservedAmount = sumAt p .reserved g m
  spent : ∀ m, ∀ row ∈ db.mandates m, row.spentTotal = sumAt p .settled g m
  budget : ∀ m, ∀ row ∈ db.mandates m,
    row.spentTotal + row.reservedAmount ≤ row.claims.limits.totalBudget

/-- Freshly issued mandates: nothing reserved, nothing spent. -/
def Fresh (db : Db) : Prop :=
  ∀ m, ∀ row ∈ db.mandates m,
    row.reservedAmount = 0 ∧ row.spentTotal = 0 ∧ 0 ≤ row.claims.limits.totalBudget

/-- The clamp at zero of `settle` and `_unreserve` is idle; with amounts that are not negative
this needs nothing of the row. -/
def ClampIdle (i : ι) (row : MandateRow) : Prop :=
  (∀ j, 0 ≤ (p j).amount) ∨ (p i).amount ≤ row.reservedAmount

/-- What is freed leaves the budget respected; only a negative amount can do otherwise. -/
def ReleaseFits (i : ι) (row : MandateRow) : Prop :=
  (∀ j, 0 ≤ (p j).amount) ∨
    row.spentTotal + (row.reservedAmount - (p i).amount) ≤ row.claims.limits.totalBudget

/-- The mandate whose reservation a call overwrites with a value computed from a read. -/
def Call.frees : Call → Option String
  | .updateReserved jti _ => some jti
  | _ => none

/-- The mandate whose counters a call overwrites with values computed from a read. -/
def Call.settles : Call → Option String
  | .updateSettled jti _ _ _ _ => some jti
  | _ => none

/-- At an unguarded write the row still has the counters that the writer last read. -/
def AsRead (g : ι → Ledger) (db : Db) (i : ι) (c : Call) : Prop :=
  (∀ jti ∈ c.frees, ∀ row ∈ db.mandates jti,
    row.reservedAmount = ((g i).read jti).1 ∧ ClampIdle p i row ∧ ReleaseFits p i row) ∧
  ∀ jti ∈ c.settles, ∀ row ∈ db.mandates jti,
    (row.reservedAmount = ((g i).read jti).1 ∧ row.spentTotal = ((g i).read jti).2) ∧
      ClampIdle p i row

instance (i : ι) (row : MandateRow) : Decidable (ClampIdle p i row) :=
  inferInstanceAs (Decidable (_ ∨ _))

instance (i : ι) (row : MandateRow) : Decidable (ReleaseFits p i row) :=
  inferInstanceAs (Decidable (_ ∨ _))

instance (g : ι → Ledger) (db : Db) (i : ι) (c : Call) : Decidable (AsRead p g db i c) :=
  inferInstanceAs (Decidable (_ ∧ _))

/-- The specification of the pool, over mandates issued on the given terms. -/
def budgetSpec (terms : String → Option (Claims × Option String)) :
    Spec ι Call Res PyErr Db Ledger where
  inv g db := Balanced p g db ∧ db.terms = terms
  ok := AsRead p
  prop _ _ _ _ _ _ := True

/-! ## Sums over the purchases -/

theorem sumAt_update (st : Stage) (g : ι → Ledger) (i : ι) (γ : Ledger) (m : String) :
    sumAt p st (Function.update g i γ) m = sumAt p st g m -
      (if (g i).stage m = st then (p i).amount else 0) +
        (if γ.stage m = st then (p i).amount else 0) := by
  have h : ∀ h : ι → Ledger, sumAt p st h m = (if (h i).stage m = st then (p i).amount else 0) +
      ∑ j ∈ Finset.univ.erase i, if (h j).stage m = st then (p j).amount else 0 :=
    fun h => (Finset.add_sum_erase Finset.univ _ (Finset.mem_univ i)).symm
  have hrest : (∑ j ∈ Finset.univ.erase i,
      if (Function.update g i γ j).stage m = st then (p j).amount else 0) =
        ∑ j ∈ Finset.univ.erase i, if (g j).stage m = st then (p j).amount else 0 :=
    Finset.sum_congr rfl fun j hj => by rw [Function.update_of_ne (Finset.ne_of_mem_erase hj)]
  rw [h, h g, hrest, Function.update_self]
  abel

theorem sumAt_congr (st : Stage) (g : ι → Ledger) {i : ι} {γ : Ledger} {m : String}
    (h : γ.stage m = (g i).stage m) : sumAt p st (Function.update g i γ) m = sumAt p st g m := by
  rw [sumAt_update, h]
  abel

omit [DecidableEq ι] in
theorem amount_le_sumAt {st : Stage} {g : ι → Ledger} {i : ι} {m : String}
    (hp : ∀ j, 0 ≤ (p j).amount) (hi : (g i).stage m = st) : (p i).amount ≤ sumAt p st g m := by
  have h : (if (g i).stage m = st then (p i).amount else 0) ≤ sumAt p st g m := by
    refine Finset.single_le_sum (f := fun j => if (g j).stage m = st then (p j).amount else 0)
      (fun j _ => ?_) (Finset.mem_univ i)
    split_ifs
    · exact hp j
    · exact le_rfl
  rwa [if_pos hi] at h

/-! ## What one write preserves -/

theorem balanced_frame {g : ι → Ledger} {db : Db} (h : Balanced p g db) {i : ι} {γ : Ledger}
    (hγ : γ.stage = (g i).stage) : Balanced p (Function.update g i γ) db where
  reserved m row hrow := by rw [sumAt_congr p _ g (congrFun hγ m)]; exact h.reserved m row hrow
  spent m row hrow := by rw [sumAt_congr p _ g (congrFun hγ m)]; exact h.spent m row hrow
  budget := h.budget

theorem balanced_write {g : ι → Ledger} {db : Db} (h : Balanced p g db) {i : ι} {γ : Ledger}
    {jti : String} {f : MandateRow → MandateRow}
    (hγ : ∀ m, m ≠ jti → γ.stage m = (g i).stage m)
    (hf : ∀ row ∈ db.mandates jti,
      ((f row).reservedAmount = row.reservedAmount -
          (if (g i).stage jti = .reserved then (p i).amount else 0) +
            (if γ.stage jti = .reserved then (p i).amount else 0)) ∧
        ((f row).spentTotal = row.spentTotal -
          (if (g i).stage jti = .settled then (p i).amount else 0) +
            (if γ.stage jti = .settled then (p i).amount else 0)) ∧
        (f row).spentTotal + (f row).reservedAmount ≤ (f row).claims.limits.totalBudget) :
    Balanced p (Function.update g i γ) (db.setMandate jti f) := by
  have key : ∀ m, ∀ row ∈ (db.setMandate jti f).mandates m,
      row.reservedAmount = sumAt p .reserved (Function.update g i γ) m ∧
        row.spentTotal = sumAt p .settled (Function.update g i γ) m ∧
          row.spentTotal + row.reservedAmount ≤ row.claims.limits.totalBudget := by
    intro m row hrow
    by_cases hm : m = jti
    · subst hm
      rw [Db.setMandate_same, Option.mem_def, Option.map_eq_some_iff] at hrow
      obtain ⟨old, hold, rfl⟩ := hrow
      obtain ⟨h1, h2, h3⟩ := hf old hold
      rw [sumAt_update, sumAt_update, ← h.reserved m old hold, ← h.spent m old hold]
      exact ⟨h1, h2, h3⟩
    · rw [Db.setMandate_ne db f hm] at hrow
      rw [sumAt_congr p _ g (hγ m hm), sumAt_congr p _ g (hγ m hm)]
      exact ⟨h.reserved m row hrow, h.spent m row hrow, h.budget m row hrow⟩
  exact ⟨fun m row hr => (key m row hr).1, fun m row hr => (key m row hr).2.1,
    fun m row hr => (key m row hr).2.2⟩

/-! ## Outlines of the statements -/

variable {p} {terms : String → Option (Claims × Option String)} {i : ι}

theorem advance_error (γ : Ledger) (c : Call) (x : PyErr) : γ.advance c (.error x) = γ := by
  cases c <;> rfl

/-- A call that fails changes nothing, so only its run has to be looked at. -/
theorem budget_call {c : Call} {γ : Ledger} {φ : Res c → Ledger → Prop}
    (h : ∀ g db e, g i = γ → Balanced p g db → db.terms = terms → AsRead p g db i c →
      (Balanced p (Function.update g i (γ.advance c (exec e c db).1)) (exec e c db).2 ∧
        (exec e c db).2.terms = terms) ∧ onOk φ (exec e c db).1 (γ.advance c (exec e c db).1)) :
    Outline budgetSystem (budgetSpec p terms) i (onOk φ) (call c) γ := by
  refine outline_perform fun g db e hg hI hok => ?_
  cases hf : e.fail with
  | none =>
    simp only [budgetSystem, sem, hf]
    obtain ⟨h1, h2⟩ := h g db e hg hI.1 hI.2 hok
    exact ⟨h1, trivial, h2⟩
  | some x =>
    simp only [budgetSystem, sem, hf, advance_error]
    rw [← hg, Function.update_eq_self]
    exact ⟨hI, trivial, trivial⟩

theorem chain_outline (fuel : ℕ) (jti : String) (γ : Ledger) :
    Outline budgetSystem (budgetSpec p terms) i
      (onOk fun l γ' => l = chainOf terms fuel jti ∧ γ' = γ) (chain fuel jti) γ :=
  chain_walk (fun j => budget_call fun g db e hg hB ht _ =>
    ⟨⟨balanced_frame p hB (by rw [hg]; rfl), ht⟩, ht ▸ parents_eq db j, rfl⟩) fuel jti

omit [DecidableEq ι] in
/-- The clamp is idle at a write that undoes this purchase's own reservation. -/
theorem freed_eq {g : ι → Ledger} {db : Db} (hB : Balanced p g db) {m : String} {row : MandateRow}
    (hrow : row ∈ db.mandates m) (hst : (g i).stage m = .reserved) (hc : ClampIdle p i row) :
    max 0 (row.reservedAmount - (p i).amount) = row.reservedAmount - (p i).amount := by
  have hle : (p i).amount ≤ row.reservedAmount := by
    rcases hc with hp | hle
    · rw [hB.reserved m row hrow]
      exact amount_le_sumAt p hp hst
    · exact hle
  exact max_eq_right (by omega)

/-- Only the stage on `jti` may have changed. -/
abbrev OnlyAt (jti : String) (γ γ' : Ledger) : Prop :=
  Moved Ledger.stage (fun _ => True) (fun _ => True) jti γ γ'

theorem unreserveOne_outline (jti : String) (γ : Ledger) (hst : γ.stage jti = .reserved) :
    Outline budgetSystem (budgetSpec p terms) i (onOk fun _ γ' => OnlyAt jti γ γ')
      (unreserveOne (p i).amount jti) γ := by
  refine outline_bind_ok
    (φ := fun r γ' => γ'.stage = γ.stage ∧ ∀ a, r = some a → (γ'.read jti).1 = a)
    (budget_call fun g db e hg hB ht _ => ?_) ?_
  · simp only [exec]
    cases hrow : db.mandates jti with
    | none => exact ⟨⟨balanced_frame p hB (by rw [hg]; rfl), ht⟩, rfl, by simp⟩
    | some row =>
      exact ⟨⟨balanced_frame p hB (by rw [hg]; rfl), ht⟩, rfl, by simp [Ledger.advance]⟩
  rintro (_ | a) γ' ⟨h1, h2⟩
  · exact ⟨trivial, fun m _ => congrFun h1 m, trivial⟩
  · have hj : γ'.stage jti = .reserved := h1 ▸ hst
    refine budget_call fun g db e hg hB ht hok => ?_
    subst hg
    refine ⟨⟨balanced_write p hB (fun m hm => Function.update_of_ne hm _ _) fun row hrow => ?_, ?_⟩,
      ⟨trivial, fun m hm => h1 ▸ Function.update_of_ne hm _ _, trivial⟩⟩
    · obtain ⟨hread, hc, hfit⟩ := hok.1 jti rfl row hrow
      have hbudget := hB.budget jti row hrow
      rw [← h2 a rfl, ← hread, freed_eq hB hrow hj hc]
      simp only [hj, Ledger.advance, exec, Function.update_self]
      refine ⟨by simp, by simp, ?_⟩
      rcases hfit with hp | hfit
      · have := hp i
        omega
      · exact hfit
    · rw [← ht]
      exact setMandate_terms db jti (fun _ => rfl) fun _ => rfl

theorem settleOne_outline (jti : String) (γ : Ledger) (hst : γ.stage jti = .reserved) :
    Outline budgetSystem (budgetSpec p terms) i (onOk fun _ γ' => OnlyAt jti γ γ')
      (settleOne (p i).amount jti) γ := by
  refine outline_bind_ok
    (φ := fun r γ' => γ'.stage = γ.stage ∧
      ∀ row, r = some row → γ'.read jti = (row.reservedAmount, row.spentTotal))
    (budget_call fun g db e hg hB ht _ => ?_) ?_
  · simp only [exec]
    cases hrow : db.mandates jti with
    | none => exact ⟨⟨balanced_frame p hB (by rw [hg]; rfl), ht⟩, rfl, by simp⟩
    | some row =>
      exact ⟨⟨balanced_frame p hB (by rw [hg]; rfl), ht⟩, rfl, by simp [Ledger.advance]⟩
  rintro (_ | old) γ' ⟨h1, h2⟩
  · exact ⟨trivial, fun m _ => congrFun h1 m, trivial⟩
  · have hj : γ'.stage jti = .reserved := h1 ▸ hst
    refine budget_call fun g db e hg hB ht hok => ?_
    subst hg
    refine ⟨⟨balanced_write p hB (fun m hm => Function.update_of_ne hm _ _) fun row hrow => ?_, ?_⟩,
      ⟨trivial, fun m hm => h1 ▸ Function.update_of_ne hm _ _, trivial⟩⟩
    · obtain ⟨⟨hr, hs⟩, hc⟩ := hok.2 jti rfl row hrow
      have hbudget := hB.budget jti row hrow
      have hfree := freed_eq hB hrow hj hc
      simp only [h2 old rfl] at hr hs
      rw [hr] at hfree
      simp only [hj, Ledger.advance, exec, Function.update_self, hfree]
      exact ⟨by simp [hr], by simp [hs], by omega⟩
    · rw [← ht]
      exact setMandate_terms db jti (fun _ => rfl) fun _ => rfl

theorem unreserve_outline (jtis : List String) (γ : Ledger) (hn : jtis.Nodup)
    (hst : ∀ j ∈ jtis, γ.stage j = .reserved) :
    Outline budgetSystem (budgetSpec p terms) i (onOk fun _ _ => True)
      (unreserve (p i).amount jtis) γ := by
  refine outline_mono (fun r γ' _ => by cases r <;> trivial)
    (loop_walk (T := fun _ _ => True) (unreserve (p i).amount) rfl (fun _ _ => rfl) jtis
      (fun jti _ γ _ hst => unreserveOne_outline jti γ hst) γ hn trivial hst)

theorem settleLoop_outline (jtis : List String) (γ : Ledger) (hn : jtis.Nodup)
    (hst : ∀ j ∈ jtis, γ.stage j = .reserved) :
    Outline budgetSystem (budgetSpec p terms) i (onOk fun _ _ => True)
      (settleLoop (p i).amount jtis) γ := by
  refine outline_mono (fun r γ' _ => by cases r <;> trivial)
    (loop_walk (T := fun _ _ => True) (settleLoop (p i).amount) rfl (fun _ _ => rfl) jtis
      (fun jti _ γ _ hst => settleOne_outline jti γ hst) γ hn trivial hst)

/-- Selecting a row for the reservation. -/
theorem select_outline (jti : String) (γ : Ledger) :
    Outline budgetSystem (budgetSpec p terms) i (onOk fun r γ' => (True ∧ γ'.stage = γ.stage) ∧
      ∀ row, r = some row → terms jti = some (row.claims, row.parentJti))
      (call (.selectMandate jti)) γ := by
  refine budget_call fun g db e hg hB ht _ => ?_
  simp only [exec]
  cases hrow : db.mandates jti with
  | none => exact ⟨⟨balanced_frame p hB (by rw [hg]; rfl), ht⟩, ⟨trivial, rfl⟩, by simp⟩
  | some row =>
    refine ⟨⟨balanced_frame p hB (by rw [hg]; rfl), ht⟩, ⟨trivial, rfl⟩, ?_⟩
    rintro _ ⟨rfl⟩
    rw [← ht, Db.terms, hrow]
    rfl

/-- The compare-and-swap: if the row is still the one read, its reservation is raised within the
budget. -/
theorem casReserve_outline (jti : String) (row : MandateRow) (γ : Ledger)
    (hterms : terms jti = some (row.claims, row.parentJti)) (hj : γ.stage jti = .none)
    (hfits : row.spentTotal + row.reservedAmount + (p i).amount ≤ row.claims.limits.totalBudget) :
    Outline budgetSystem (budgetSpec p terms) i
      (onOk fun won γ' => Moved Ledger.stage (fun _ => True)
        (· = if won = true then .reserved else .none) jti γ γ')
      (call (.casReserve jti row (row.reservedAmount + (p i).amount))) γ := by
  refine budget_call fun g db e hg hB ht _ => ?_
  subst hg
  simp only [exec]
  split_ifs with hm
  swap
  · exact ⟨⟨balanced_frame p hB rfl, ht⟩, trivial, fun _ _ => rfl, hj⟩
  rw [Option.any_eq_true] at hm
  obtain ⟨cur, hcur, hm⟩ := hm
  simp only [casMatches, Bool.and_eq_true, decide_eq_true_eq] at hm
  have hclaims : cur.claims = row.claims := by
    rw [← ht, Db.terms, hcur] at hterms
    simpa using congrArg (Option.map Prod.fst) hterms
  refine ⟨⟨balanced_write p hB (fun m hm => Function.update_of_ne hm _ _) fun old hold => ?_, ?_⟩,
    trivial, fun m hm => Function.update_of_ne hm _ _, Function.update_self ..⟩
  · obtain rfl : cur = old := Option.some.inj (hcur ▸ hold)
    simp only [hj, Ledger.advance, Function.update_self]
    refine ⟨by simp [hm.1.1.2], by simp, ?_⟩
    rw [hclaims, hm.1.2]
    omega
  · rw [← ht]
    exact setMandate_terms db jti (fun _ => rfl) fun _ => rfl

theorem reserveChain_outline (fuel : ℕ) (jti : String) (γ : Ledger)
    (hγ : ∀ m, γ.stage m = .none) :
    Outline budgetSystem (budgetSpec p terms) i
      (onOk fun won γ' => won = true → ∀ j ∈ chainOf terms fuel jti, γ'.stage j = .reserved)
      (reserveChain fuel jti (p i).amount) γ := by
  refine outline_bind_ok (chain_outline fuel jti γ) ?_
  rintro _ _ ⟨rfl, rfl⟩
  refine outline_mono (fun r γ' h => ?_) (reserveLoop_walk (φ := fun _ => True)
    (fun jti row => terms jti = some (row.claims, row.parentJti))
    (fun jti γ _ => select_outline jti γ)
    (fun jti row γ _ hterms hj hfits => casReserve_outline jti row γ hterms hj hfits)
    (fun jtis γ hn _ hst => unreserve_outline jtis γ hn hst) _ [] _ (chainOf_nodup terms fuel jti)
    trivial (by simp) fun j _ => hγ j)
  cases r with
  | error x => trivial
  | ok won => exact fun hwon => (h.2 hwon).1

theorem saga_outline (fuel : ℕ) :
    Outline budgetSystem (budgetSpec p terms) i (onOk fun _ _ => True) (saga fuel (p i)) .start := by
  refine outline_bind_ok (reserveChain_outline fuel (p i).jti .start fun _ => rfl) ?_
  intro won γ h
  cases won with
  | false => trivial
  | true =>
    simp only [if_true]
    cases (p i).fate with
    | settle =>
      refine outline_bind_ok (chain_outline fuel (p i).jti γ) ?_
      rintro _ _ ⟨rfl, rfl⟩
      exact settleLoop_outline _ _ (chainOf_nodup terms fuel _) (h rfl)
    | release =>
      refine outline_bind_ok (chain_outline fuel (p i).jti γ) ?_
      rintro _ _ ⟨rfl, rfl⟩
      exact unreserve_outline _ _ (chainOf_nodup terms fuel _) (h rfl)

end Pool

/-! ## Runs -/

variable {ι : Type} [DecidableEq ι] [Fintype ι]

/-- **The budget invariant over whole runs**: when every unguarded write finds the counters that
its purchase last read, every reachable state is balanced. -/
theorem budget_balanced (fuel : ℕ) (p : ι → Purchase) (db : Db) (hdb : Fresh db)
    (xs : List (ι × Env))
    (hok : budgetSystem.Along (fun c i _ => ∀ op ∈ (c.prog i).next, AsRead p c.hist c.shared i op)
      (budgetStart fuel p db) xs) :
    Balanced p (budgetSystem.run (budgetStart fuel p db) xs).hist
      (budgetSystem.run (budgetStart fuel p db) xs).shared := by
  have hstart : Outlined budgetSystem (budgetSpec p db.terms) (fun _ => onOk fun _ _ => True)
      (budgetStart fuel p db) := by
    refine ⟨⟨⟨fun m row hrow => ?_, fun m row hrow => ?_, fun m row hrow => ?_⟩, rfl⟩,
      fun i => saga_outline fuel⟩
    · simpa [sumAt, budgetStart, Ledger.start] using (hdb m row hrow).1
    · simpa [sumAt, budgetStart, Ledger.start] using (hdb m row hrow).2.1
    · obtain ⟨h1, h2, h3⟩ := hdb m row hrow
      omega
  exact (outline_run hstart hok).2.inv.1

/-! ### Two purchases on one mandate -/

/-- A mandate with a budget of 100.00, freshly issued. -/
def oneMandate : Db where
  mandates j := if j = "mdt" then some
      { status := .active, token := "", reservedAmount := 0, spentTotal := 0, txnCount := 0,
        parentJti := none
        claims := ⟨"mdt", "agt", "ppt", "USD", [], [], .null, ⟨10000, 10000, none⟩, 0, 0⟩ }
    else none
  instruments _ := none
  captures _ := none
  intents := []
  purchases _ := none
  audit := []
  escalations := []
  bridgeOrders := []

/-- Two purchases of 30.00. -/
def twoPurchases (fate : Fate) (_ : Fin 2) : Purchase := ⟨"mdt", 3000, fate⟩

theorem budget_balanced_twice : Balanced (twoPurchases .settle)
    (budgetSystem.run (budgetStart 2 (twoPurchases .settle) oneMandate)
      ([0, 0, 1, 1, 0, 1, 1, 1, 0, 0, 0, 1, 1, 1].map fun i => (i, Env.quiet))).hist
    (budgetSystem.run (budgetStart 2 (twoPurchases .settle) oneMandate)
      ([0, 0, 1, 1, 0, 1, 1, 1, 0, 0, 0, 1, 1, 1].map fun i => (i, Env.quiet))).shared := by
  refine budget_balanced 2 _ _ (fun m row hrow => ?_) _ (by decide)
  simp only [oneMandate, Option.mem_def] at hrow
  split_ifs at hrow with hm
  obtain rfl := Option.some.inj hrow
  simp

/-- **A lost update**: the first purchase reads the row to release, the second reserves, and the
first one's write takes the second one's reservation off the books. -/
theorem budget_lost_update : ¬ ∀ xs : List (Fin 2 × Env),
    Balanced (twoPurchases .release)
      (budgetSystem.run (budgetStart 2 (twoPurchases .release) oneMandate) xs).hist
      (budgetSystem.run (budgetStart 2 (twoPurchases .release) oneMandate) xs).shared := by
  intro h
  have hsched := h ([0, 0, 0, 0, 0, 1, 1, 1, 0].map fun i => (i, Env.quiet))
  obtain ⟨row, hrow, h1, h2⟩ : ∃ row, (budgetSystem.run
      (budgetStart 2 (twoPurchases .release) oneMandate)
        ([0, 0, 0, 0, 0, 1, 1, 1, 0].map fun i => (i, Env.quiet))).shared.mandates "mdt" = some row ∧
      row.reservedAmount = 0 ∧ sumAt (twoPurchases .release) .reserved (budgetSystem.run
      (budgetStart 2 (twoPurchases .release) oneMandate)
        ([0, 0, 0, 0, 0, 1, 1, 1, 0].map fun i => (i, Env.quiet))).hist "mdt" = 3000 :=
    ⟨_, rfl, by decide, by decide⟩
  have := hsched.reserved "mdt" row hrow
  omega

end TryTrust.Agent
