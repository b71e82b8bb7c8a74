import TryTrust.Agent.Budget
import TryTrust.Agent.Kernel

/-!
# Settlement step by step, for every pattern of failing calls

A plan fixes, for every call that `_charge` can make, whether it fails and what the outside world
answers; a run of `_charge` makes no call twice. The run is carried out on the database together
with the purchase's ledger.

* `planned`, `Fine`: the run under a plan, and the calls that do not fail;
* `Wrote`: one row function applied along a list of mandates; `run_loop`: a loop over mandates
  writes all of them, or stops at a failing call with one of them not written;
* `run_release`, `run_settle`, `run_capture`: what each function does, in terms of the plan.
-/

namespace TryTrust.Agent

open Conc

/-- The database and the ledger of the purchase that runs on it. -/
abbrev Saga : Type := Db × Ledger

section

variable (plan : Call → Env)

/-- The meaning of calls under a plan. -/
def planned (c : Call) (s : Saga) : Except PyErr (Res c) × Saga :=
  ((sem (plan c) c s.1).1, (sem (plan c) c s.1).2, s.2.advance c (sem (plan c) c s.1).1)

/-- The call does not fail. -/
def Fine (c : Call) : Prop := (plan c).fail = none

instance (c : Call) : Decidable (Fine plan c) := inferInstanceAs (Decidable (_ = _))

/-- A run under the plan. -/
abbrev runPlan {α : Type} (p : Py α) (s : Saga) : Except PyErr α × Saga := p.run (planned plan) s

variable {plan}

theorem run_call (c : Call) (s : Saga) (h : Fine plan c) :
    runPlan plan (call c) s = ((exec (plan c) c s.1).1, (exec (plan c) c s.1).2,
      s.2.advance c (exec (plan c) c s.1).1) := by
  have hsem : sem (plan c) c s.1 = exec (plan c) c s.1 := by
    rw [Fine] at h
    rw [sem, h]
  rw [runPlan, call, Prog.run_perform, planned, hsem]

theorem run_call_fail (c : Call) (s : Saga) (h : ¬ Fine plan c) :
    ∃ x, runPlan plan (call c) s = (.error x, s) := by
  obtain ⟨x, hx⟩ := Option.ne_none_iff_exists'.1 h
  refine ⟨x, ?_⟩
  rw [runPlan, call, Prog.run_perform]
  simp only [planned, sem, hx, advance_error]

/-! ## The chain -/

theorem seen_subset_chainList (parents : String → Option (Option String)) (fuel : ℕ)
    (current : Option String) (seen : List String) :
    ∀ j ∈ seen, j ∈ chainList parents fuel current seen := by
  induction fuel generalizing current seen with
  | zero => exact fun j hj => hj
  | succ fuel ih =>
    cases current with
    | none => exact fun j hj => hj
    | some jti =>
      intro j hj
      simp only [chainList]
      split_ifs
      · exact hj
      · exact ih _ _ j (List.mem_append_left _ hj)

theorem run_chainLoop (s : Saga) (fuel : ℕ) (current : Option String) (seen : List String) :
    ((∀ j ∈ chainList s.1.parents fuel current seen, j ∉ seen → Fine plan (.selectParent j)) →
      runPlan plan (chainLoop fuel current seen) s =
        (.ok (chainList s.1.parents fuel current seen), s)) ∧
    ((¬ ∀ j ∈ chainList s.1.parents fuel current seen, j ∉ seen → Fine plan (.selectParent j)) →
      ∃ x, runPlan plan (chainLoop fuel current seen) s = (.error x, s)) := by
  induction fuel generalizing current seen with
  | zero => exact ⟨fun _ => rfl, fun h => absurd (fun j hj hn => absurd hj hn) h⟩
  | succ fuel ih =>
    cases current with
    | none => exact ⟨fun _ => rfl, fun h => absurd (fun j hj hn => absurd hj hn) h⟩
    | some jti =>
      simp only [chainLoop, chainList]
      split_ifs with hj
      · exact ⟨fun _ => rfl, fun h => absurd (fun j hj hn => absurd hj hn) h⟩
      push Not at hj
      obtain ⟨ih1, ih2⟩ := ih (s.1.parents jti).join (seen ++ [jti])
      have hmem : jti ∈ chainList s.1.parents fuel (s.1.parents jti).join (seen ++ [jti]) :=
        seen_subset_chainList _ _ _ _ jti (by simp)
      by_cases hf : Fine plan (.selectParent jti)
      · have hcall : runPlan plan (call (.selectParent jti)) s = (.ok (s.1.parents jti), s) := by
          rw [run_call _ _ hf, ← parents_eq]
          rfl
        have hstep := Prog.run_bind_ok (planned plan)
          (f := fun row => chainLoop fuel (Option.join row) (seen ++ [jti])) hcall
        constructor
        · intro h
          exact hstep.trans (ih1 fun j hj' hn => h j hj' fun hs => hn (List.mem_append_left _ hs))
        · intro h
          obtain ⟨x, hx⟩ := ih2 fun hall => h fun j hj' hn => by
            by_cases hjj : j = jti
            · exact hjj ▸ hf
            · exact hall j hj' (by simp [hn, hjj])
          exact ⟨x, hstep.trans hx⟩
      · obtain ⟨x, hx⟩ := run_call_fail _ s hf
        refine ⟨fun h => absurd (h jti hmem hj.2) hf, fun _ => ⟨x, ?_⟩⟩
        exact Prog.run_bind_error (planned plan) hx

theorem run_chain_ok {s : Saga} {fuel : ℕ} {jti : String}
    (h : ∀ j ∈ s.1.chainOf fuel jti, Fine plan (.selectParent j)) :
    runPlan plan (chain fuel jti) s = (.ok (s.1.chainOf fuel jti), s) :=
  (run_chainLoop s fuel (some jti) []).1 fun j hj _ => h j hj

theorem run_chain_fail {s : Saga} {fuel : ℕ} {jti : String}
    (h : ¬ ∀ j ∈ s.1.chainOf fuel jti, Fine plan (.selectParent j)) :
    ∃ x, runPlan plan (chain fuel jti) s = (.error x, s) :=
  (run_chainLoop s fuel (some jti) []).2 fun hall => h fun j hj => hall j hj (by simp)

/-! ## Loops over mandates -/

/-- The rows of the listed mandates went through `f`, their stage is `st`, and nothing else
changed. -/
structure Wrote (f : MandateRow → MandateRow) (st : Stage) (jtis : List String) (s s' : Saga) :
    Prop where
  mandates : ∀ m, s'.1.mandates m =
    if m ∈ jtis then (s.1.mandates m).map f else s.1.mandates m
  stage : ∀ m, s'.2.stage m = if m ∈ jtis then st else s.2.stage m
  rest : s'.1 = { s.1 with mandates := s'.1.mandates }

theorem wrote_nil (f : MandateRow → MandateRow) (st : Stage) {s s' : Saga} (h1 : s'.1 = s.1)
    (h2 : s'.2.stage = s.2.stage) : Wrote f st [] s s' :=
  ⟨fun m => by rw [h1]; simp, fun m => by rw [h2]; simp, by rw [h1]⟩

theorem wrote_cons {f : MandateRow → MandateRow} {st : Stage} {jti : String} {rest : List String}
    {s s' s'' : Saga} (h1 : Wrote f st [jti] s s') (h2 : Wrote f st rest s' s'')
    (hn : jti ∉ rest) : Wrote f st (jti :: rest) s s'' where
  mandates m := by
    rw [h2.mandates, h1.mandates]
    by_cases hm : m = jti
    · subst hm
      simp [hn]
    · simp [hm]
  stage m := by
    rw [h2.stage, h1.stage]
    by_cases hm : m = jti
    · subst hm
      simp
    · simp [hm]
  rest := by rw [h2.rest, h1.rest]

/-- A write to one row. -/
theorem wrote_one (f : MandateRow → MandateRow) {g : MandateRow → MandateRow} {st : Stage}
    {jti : String} {s : Saga} {γ : Ledger} (hg : ∀ row ∈ s.1.mandates jti, g row = f row)
    (hγ : ∀ m, γ.stage m = if m = jti then st else s.2.stage m) :
    Wrote f st [jti] s (s.1.setMandate jti g, γ) where
  mandates m := by
    by_cases hm : m = jti
    · subst hm
      rw [Db.setMandate_same, if_pos (List.mem_singleton_self m)]
      exact Option.map_congr hg
    · rw [Db.setMandate_ne _ _ hm, if_neg (by simpa using hm)]
  stage m := by rw [hγ]; simp
  rest := rfl

/-- A body per mandate that writes its row when `P` holds of the row and the plan, and raises
without a write otherwise. -/
structure Body (plan : Call → Env) (f : MandateRow → MandateRow) (st : Stage)
    (P : Db → String → Prop) (body : String → Py Unit) : Prop where
  ok : ∀ s jti, (s.1.mandates jti).isSome → P s.1 jti →
    ∃ s', runPlan plan (body jti) s = (.ok (), s') ∧ Wrote f st [jti] s s'
  fail : ∀ s jti, (s.1.mandates jti).isSome → ¬ P s.1 jti →
    ∃ x s', runPlan plan (body jti) s = (.error x, s') ∧ Wrote f st [] s s'
  /-- `P` looks at the mandate's own row only. -/
  local' : ∀ db db' jti, db.mandates jti = db'.mandates jti → (P db jti ↔ P db' jti)

/-- How a loop over mandates ends. -/
theorem run_loop {f : MandateRow → MandateRow} {st : Stage} {P : Db → String → Prop}
    {body : String → Py Unit} (hbody : Body plan f st P body) (loop : List String → Py Unit)
    (hnil : loop [] = pure ())
    (hcons : ∀ jti rest, loop (jti :: rest) = (body jti).bind fun _ => loop rest)
    (jtis : List String) (s : Saga) (hn : jtis.Nodup)
    (hrows : ∀ j ∈ jtis, (s.1.mandates j).isSome) :
    ((∀ j ∈ jtis, P s.1 j) →
      ∃ s', runPlan plan (loop jtis) s = (.ok (), s') ∧ Wrote f st jtis s s') ∧
    ((¬ ∀ j ∈ jtis, P s.1 j) →
      ∃ x s' done, runPlan plan (loop jtis) s = (.error x, s') ∧ Wrote f st done s s' ∧
        done ⊆ jtis ∧ ∃ j ∈ jtis, j ∉ done) := by
  induction jtis generalizing s with
  | nil => exact ⟨fun _ => ⟨s, by rw [hnil]; rfl, wrote_nil f st rfl rfl⟩, fun h => absurd (by simp) h⟩
  | cons jti rest ih =>
    rw [List.nodup_cons] at hn
    rw [hcons]
    have hjti := hrows jti List.mem_cons_self
    by_cases hP : P s.1 jti
    · obtain ⟨s₁, hrun, hw⟩ := hbody.ok s jti hjti hP
      have hsame : ∀ j ∈ rest, s₁.1.mandates j = s.1.mandates j := by
        intro j hj
        rw [hw.mandates, if_neg]
        rintro hmem
        rw [List.mem_singleton] at hmem
        exact hn.1 (hmem ▸ hj)
      obtain ⟨ih1, ih2⟩ := ih s₁ hn.2 fun j hj => by
        rw [hsame j hj]
        exact hrows j (List.mem_cons_of_mem _ hj)
      have hiff : (∀ j ∈ rest, P s₁.1 j) ↔ ∀ j ∈ rest, P s.1 j :=
        forall₂_congr fun j hj => hbody.local' _ _ j (hsame j hj)
      have hstep := Prog.run_bind_ok (planned plan) (f := fun _ => loop rest) hrun
      constructor
      · intro hall
        obtain ⟨s₂, hrun₂, hw₂⟩ := ih1 (hiff.2 fun j hj => hall j (List.mem_cons_of_mem _ hj))
        exact ⟨s₂, hstep.trans hrun₂, wrote_cons hw hw₂ hn.1⟩
      · intro hall
        obtain ⟨x, s₂, done, hrun₂, hw₂, hsub, j, hj, hjd⟩ := ih2 fun h => hall fun j hj => by
          rcases List.mem_cons.1 hj with rfl | hj
          · exact hP
          · exact hiff.1 h j hj
        refine ⟨x, s₂, jti :: done, hstep.trans hrun₂, wrote_cons hw hw₂ fun h => hn.1 (hsub h),
          List.cons_subset_cons _ hsub, j, List.mem_cons_of_mem _ hj, ?_⟩
        rw [List.mem_cons, not_or]
        exact ⟨fun h => hn.1 (h ▸ hj), hjd⟩
    · obtain ⟨x, s₁, hrun, hw⟩ := hbody.fail s jti hjti hP
      refine ⟨fun h => absurd (h jti List.mem_cons_self) hP, fun _ => ⟨x, s₁, [], ?_, hw, ?_, ?_⟩⟩
      · exact Prog.run_bind_error (planned plan) hrun
      · exact List.nil_subset _
      · exact ⟨jti, List.mem_cons_self, by simp⟩

/-! ## Release and settle -/

theorem run_step {c : Call} {β : Type} {f : Res c → Py β} {s : Saga} {a : Res c}
    (h : Fine plan c) (ha : (exec (plan c) c s.1).1 = .ok a) :
    runPlan plan ((call c).bind f) s =
      runPlan plan (f a) ((exec (plan c) c s.1).2, s.2.advance c (.ok a)) :=
  Prog.run_bind_ok (planned plan) ((run_call c s h).trans (by rw [ha]))

theorem run_stop {c : Call} {β : Type} {f : Res c → Py β} {s : Saga} (h : ¬ Fine plan c) :
    ∃ x, runPlan plan ((call c).bind f) s = (.error x, s) := by
  obtain ⟨x, hx⟩ := run_call_fail c s h
  exact ⟨x, Prog.run_bind_error (planned plan) hx⟩

/-- A call and what follows, by whether the call fails. -/
theorem run_call_cases {c : Call} {β : Type} {Q : Except PyErr β × Saga → Prop} {f : Res c → Py β}
    {s : Saga} (a : Res c) (ha : (exec (plan c) c s.1).1 = .ok a)
    (hok : Fine plan c →
      Q (runPlan plan (f a) ((exec (plan c) c s.1).2, s.2.advance c (.ok a))))
    (hfail : ¬ Fine plan c → ∀ x, Q (.error x, s)) : Q (runPlan plan ((call c).bind f) s) := by
  by_cases h : Fine plan c
  · rw [run_step h ha]
    exact hok h
  · obtain ⟨x, hx⟩ := run_stop (f := f) (s := s) h
    rw [hx]
    exact hfail h x

/-- The same for a call that changes neither the database nor the ledger. -/
theorem run_read_cases {c : Call} {β : Type} {Q : Except PyErr β × Saga → Prop} {f : Res c → Py β}
    {s : Saga} (a : Res c) (ha : exec (plan c) c s.1 = (.ok a, s.1))
    (hγ : s.2.advance c (.ok a) = s.2) (hok : Fine plan c → Q (runPlan plan (f a) s))
    (hfail : ¬ Fine plan c → ∀ x, Q (.error x, s)) : Q (runPlan plan ((call c).bind f) s) := by
  refine run_call_cases a (by rw [ha]) (fun h => ?_) hfail
  rw [ha, hγ]
  exact hok h

/-- The reservation given back on a row. -/
def freeRow (amount : ℤ) (row : MandateRow) : MandateRow :=
  { row with reservedAmount := max 0 (row.reservedAmount - amount) }

/-- The reservation turned into spend on a row. -/
def settleRow (amount : ℤ) (row : MandateRow) : MandateRow :=
  { row with
    reservedAmount := max 0 (row.reservedAmount - amount)
    spentTotal := row.spentTotal + amount
    txnCount := row.txnCount + 1
    status := if row.spentTotal + amount ≥ row.claims.limits.totalBudget then .exhausted
      else row.status }

/-- The `UPDATE` by which `settle` writes `settleRow`. -/
def settleCall (amount : ℤ) (jti : String) (row : MandateRow) : Call :=
  .updateSettled jti (settleRow amount row).reservedAmount (settleRow amount row).spentTotal
    (settleRow amount row).txnCount (settleRow amount row).status

variable (plan)

/-- Neither statement of `_unreserve` on this mandate fails. -/
def FreeOk (amount : ℤ) (db : Db) (jti : String) : Prop :=
  Fine plan (.selectReserved jti) ∧
    ∀ row ∈ db.mandates jti, Fine plan (.updateReserved jti (freeRow amount row).reservedAmount)

/-- Neither statement of `settle` on this mandate fails. -/
def SettleOk (amount : ℤ) (db : Db) (jti : String) : Prop :=
  Fine plan (.selectMandate jti) ∧
    ∀ row ∈ db.mandates jti, Fine plan (settleCall amount jti row)

variable {plan}

theorem body_unreserve (amount : ℤ) :
    Body plan (freeRow amount) .released (FreeOk plan amount) (unreserveOne amount) where
  ok s jti hrow hP := by
    obtain ⟨row, hrow⟩ := Option.isSome_iff_exists.1 hrow
    refine ⟨_, (run_step (c := .selectReserved jti) (a := some row.reservedAmount) hP.1
      (by simp [exec, hrow])).trans (run_call _ _ (hP.2 row hrow)), wrote_one _ (fun cur hcur => ?_) fun m => ?_⟩
    · obtain rfl : row = cur := Option.some.inj (hrow.symm.trans hcur)
      rfl
    · exact Function.update_apply s.2.stage jti _ m
  fail s jti hrow hP := by
    obtain ⟨row, hrow⟩ := Option.isSome_iff_exists.1 hrow
    by_cases h1 : Fine plan (.selectReserved jti)
    · have h2 : ¬ Fine plan (.updateReserved jti (freeRow amount row).reservedAmount) := by
        refine fun h2 => hP ⟨h1, fun cur hcur => ?_⟩
        obtain rfl : row = cur := Option.some.inj (hrow.symm.trans hcur)
        exact h2
      obtain ⟨x, hx⟩ := run_call_fail _ (s.1, s.2.advance (.selectReserved jti)
        (.ok (some row.reservedAmount))) h2
      exact ⟨x, _, (run_step (c := .selectReserved jti) (a := some row.reservedAmount) h1
        (by simp [exec, hrow])).trans hx, wrote_nil _ _ rfl rfl⟩
    · obtain ⟨x, hx⟩ := run_stop h1
      exact ⟨x, s, hx, wrote_nil _ _ rfl rfl⟩
  local' db db' jti h := by simp only [FreeOk, h]

theorem body_settle (amount : ℤ) :
    Body plan (settleRow amount) .settled (SettleOk plan amount) (settleOne amount) where
  ok s jti hrow hP := by
    obtain ⟨row, hrow⟩ := Option.isSome_iff_exists.1 hrow
    refine ⟨_, (run_step (c := .selectMandate jti) (a := some row) hP.1
      (by simp [exec, hrow])).trans (run_call _ _ (hP.2 row hrow)), wrote_one _ (fun cur hcur => ?_) fun m => ?_⟩
    · obtain rfl : row = cur := Option.some.inj (hrow.symm.trans hcur)
      rfl
    · exact Function.update_apply s.2.stage jti _ m
  fail s jti hrow hP := by
    obtain ⟨row, hrow⟩ := Option.isSome_iff_exists.1 hrow
    by_cases h1 : Fine plan (.selectMandate jti)
    · have h2 : ¬ Fine plan (settleCall amount jti row) := by
        refine fun h2 => hP ⟨h1, fun cur hcur => ?_⟩
        obtain rfl : row = cur := Option.some.inj (hrow.symm.trans hcur)
        exact h2
      obtain ⟨x, hx⟩ := run_call_fail _ (s.1, s.2.advance (.selectMandate jti) (.ok (some row))) h2
      exact ⟨x, _, (run_step (c := .selectMandate jti) (a := some row) h1
        (by simp [exec, hrow])).trans hx, wrote_nil _ _ rfl rfl⟩
    · obtain ⟨x, hx⟩ := run_stop h1
      exact ⟨x, s, hx, wrote_nil _ _ rfl rfl⟩
  local' db db' jti h := by simp only [SettleOk, h]

variable (plan)

/-- No statement of a walk along the chain fails; `P` speaks of those of one mandate. -/
def ChainOk (P : Db → String → Prop) (fuel : ℕ) (jti : String) (db : Db) : Prop :=
  (∀ j ∈ db.chainOf fuel jti, Fine plan (.selectParent j)) ∧ ∀ j ∈ db.chainOf fuel jti, P db j

variable {plan}

/-- A walk along the chain writes every mandate of it, or stops with one of them not written. -/
theorem run_walk {f : MandateRow → MandateRow} {st : Stage} {P : Db → String → Prop}
    {body : String → Py Unit} (hbody : Body plan f st P body) (loop : List String → Py Unit)
    (hnil : loop [] = pure ())
    (hcons : ∀ jti rest, loop (jti :: rest) = (body jti).bind fun _ => loop rest)
    (fuel : ℕ) (jti : String) (s : Saga)
    (hrows : ∀ j ∈ s.1.chainOf fuel jti, (s.1.mandates j).isSome) :
    (ChainOk plan P fuel jti s.1 → ∃ s', runPlan plan ((chain fuel jti).bind loop) s = (.ok (), s') ∧
      Wrote f st (s.1.chainOf fuel jti) s s') ∧
    (¬ ChainOk plan P fuel jti s.1 →
      ∃ x s' done, runPlan plan ((chain fuel jti).bind loop) s = (.error x, s') ∧
        Wrote f st done s s' ∧ done ⊆ s.1.chainOf fuel jti ∧
          ∃ j ∈ s.1.chainOf fuel jti, j ∉ done) := by
  have hn : (s.1.chainOf fuel jti).Nodup := chainList_nodup _ fuel (some jti) List.nodup_nil
  obtain ⟨h1, h2⟩ := run_loop hbody loop hnil hcons _ s hn hrows
  constructor
  · rintro ⟨hp, hP⟩
    obtain ⟨s', hrun, hw⟩ := h1 hP
    exact ⟨s', (Prog.run_bind_ok (planned plan) (run_chain_ok hp)).trans hrun, hw⟩
  · intro hok
    by_cases hp : ∀ j ∈ s.1.chainOf fuel jti, Fine plan (.selectParent j)
    · obtain ⟨x, s', done, hrun, hw⟩ := h2 fun hP => hok ⟨hp, hP⟩
      exact ⟨x, s', done, (Prog.run_bind_ok (planned plan) (run_chain_ok hp)).trans hrun, hw⟩
    · obtain ⟨x, hx⟩ := run_chain_fail hp
      push Not at hp
      obtain ⟨j, hj, -⟩ := hp
      exact ⟨x, s, [], Prog.run_bind_error (planned plan) hx, wrote_nil _ _ rfl rfl,
        List.nil_subset _, j, hj, by simp⟩

end

end TryTrust.Agent
