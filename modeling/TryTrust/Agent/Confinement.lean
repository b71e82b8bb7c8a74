import TryTrust.Agent.Counts

/-!
# Mandates derived by an approval

A sticky approval issues a one-shot mandate with `parent_jti`. Its purchases reserve, settle and
release against the whole chain.

* `Grant`, `issue`, `sticky`: what is signed; `Forest`: the databases that issuing, approving and
  running statements lead to; `forest_links`: the expiry is inherited along `parent_jti`;
* `Confined`: money moves under a mandate only if every ancestor was active, in time, within budget
  and within count when the purchase reserved it;
* **`derived_confined`**: every run is confined whose reservations find a purchase left in the count
  of every ancestor, over forests whose signed validity carries an expiry.
-/

namespace TryTrust.Agent

open Conc

/-! ## Issuing and deriving -/

/-- What the issuer is asked to sign; `validityExp` is `validity["exp"]`. -/
structure Grant where
  agent : String
  paymentMethodRef : String
  currency : String
  categories : List String
  merchants : List String
  conditions : Json
  limits : Limits
  validityExp : Option ℤ

/-- Thirty days, in seconds. -/
def thirtyDays : ℤ := 30 * 24 * 3600

/-- The claims that `issue` signs. -/
def Grant.claims (g : Grant) (jti : String) (issued : ℤ) : Claims where
  jti := jti
  agent := g.agent
  paymentMethodRef := g.paymentMethodRef
  currency := g.currency
  categories := g.categories
  merchants := g.merchants
  conditions := g.conditions
  limits := g.limits
  nbf := issued
  exp := g.validityExp.getD (issued + thirtyDays)

/-- The row that `issue` inserts. -/
def Grant.row (g : Grant) (jti : String) (issued : ℤ) (token : String)
    (parentJti : Option String) : MandateRow where
  status := .active
  claims := g.claims jti issued
  token := token
  reservedAmount := 0
  spentTotal := 0
  txnCount := 0
  parentJti := parentJti

/-- The grant of a sticky approval of a purchase of this amount: the parent's, for one purchase. -/
def sticky (parent : Claims) (validityExp : Option ℤ) (amount : ℤ) : Grant where
  agent := parent.agent
  paymentMethodRef := parent.paymentMethodRef
  currency := parent.currency
  categories := parent.categories
  merchants := parent.merchants
  conditions := .bool true
  limits := ⟨amount, amount, some 1⟩
  validityExp := validityExp

/-- `INSERT INTO mandates`. -/
def Db.addMandate (db : Db) (jti : String) (row : MandateRow) : Db :=
  { db with mandates := Function.update db.mandates jti (some row) }

/-- **Forests**: what issuing mandates, approving escalations with derived mandates and running
statements lead to; `validity` is the expiry signed in every mandate's `validity`. -/
inductive Forest : (String → Option ℤ) → Db → Prop
  | empty (db : Db) (h : ∀ m, db.mandates m = none) : Forest (fun _ => none) db
  | issue {validity : String → Option ℤ} {db : Db} (h : Forest validity db) (g : Grant)
      (jti : String) (issued : ℤ) (token : String) (hfresh : db.mandates jti = none) :
      Forest (Function.update validity jti g.validityExp)
        (db.addMandate jti (g.row jti issued token none))
  | approve {validity : String → Option ℤ} {db : Db} (h : Forest validity db) {parentJti : String}
      {parent : MandateRow} (hparent : db.mandates parentJti = some parent) (amount : ℤ)
      (jti : String) (issued : ℤ) (token : String) (hfresh : db.mandates jti = none) :
      Forest (Function.update validity jti (validity parentJti))
        (db.addMandate jti ((sticky parent.claims (validity parentJti) amount).row jti issued token
          (some parentJti)))
  | call {validity : String → Option ℤ} {db : Db} (h : Forest validity db) (e : Env) (c : Call) :
      Forest validity (exec e c db).2

/-- Expiries are those of the signed validity, which a derived mandate inherits. -/
structure Linked (validity : String → Option ℤ)
    (terms : String → Option (Claims × Option String)) : Prop where
  exp : ∀ m, ∀ t ∈ terms m, ∃ issued, t.1.exp = (validity m).getD (issued + thirtyDays)
  parent : ∀ m, ∀ t ∈ terms m, ∀ p ∈ t.2, terms p ≠ none ∧ validity p = validity m

theorem addMandate_terms (db : Db) (jti : String) (row : MandateRow) :
    (db.addMandate jti row).terms =
      Function.update db.terms jti (some (row.claims, row.parentJti)) := by
  funext m
  by_cases hm : m = jti
  · subst hm
    simp [Db.terms, Db.addMandate]
  · simp [Db.terms, Db.addMandate, Function.update_of_ne hm]

/-- A new mandate keeps the links. -/
theorem Linked.add {validity : String → Option ℤ} {terms : String → Option (Claims × Option String)}
    (h : Linked validity terms) {jti : String} (hfresh : terms jti = none) {g : Grant} {issued : ℤ}
    {parentJti : Option String}
    (hparent : ∀ p ∈ parentJti, terms p ≠ none ∧ validity p = g.validityExp) :
    Linked (Function.update validity jti g.validityExp)
      (Function.update terms jti (some (g.claims jti issued, parentJti))) := by
  have hne : ∀ p, terms p ≠ none → p ≠ jti := by
    rintro p hp rfl
    exact hp hfresh
  refine ⟨fun m t ht => ?_, fun m t ht p hp => ?_⟩
  · by_cases hm : m = jti
    · subst hm
      rw [Function.update_self] at ht ⊢
      cases ht
      exact ⟨issued, rfl⟩
    · rw [Function.update_of_ne hm] at ht ⊢
      exact h.exp m t ht
  · by_cases hm : m = jti
    · subst hm
      rw [Function.update_self] at ht ⊢
      cases ht
      obtain ⟨hterms, hvalid⟩ := hparent p hp
      rw [Function.update_of_ne (hne p hterms), Function.update_of_ne (hne p hterms)]
      exact ⟨hterms, hvalid⟩
    · rw [Function.update_of_ne hm] at ht ⊢
      obtain ⟨hterms, hvalid⟩ := h.parent m t ht p hp
      rw [Function.update_of_ne (hne p hterms), Function.update_of_ne (hne p hterms)]
      exact ⟨hterms, hvalid⟩

/-- **Forests are linked.** -/
theorem forest_links {validity : String → Option ℤ} {db : Db} (h : Forest validity db) :
    Linked validity db.terms := by
  induction h with
  | empty db h =>
    have hnone : ∀ m, db.terms m = none := fun m => by rw [Db.terms, h m]; rfl
    refine ⟨fun m t ht => ?_, fun m t ht => ?_⟩
    · rw [hnone m] at ht
      cases ht
    · rw [hnone m] at ht
      cases ht
  | @issue validity db _ g jti issued token hfresh ih =>
    rw [addMandate_terms]
    exact ih.add (by rw [Db.terms, hfresh]; rfl) fun p hp => by cases hp
  | @approve validity db _ parentJti parent hparent amount jti issued token hfresh ih =>
    rw [addMandate_terms]
    refine ih.add (g := sticky parent.claims (validity parentJti) amount)
      (by rw [Db.terms, hfresh]; rfl) fun p hp => ?_
    cases hp
    exact ⟨by rw [Db.terms, hparent]; exact Option.some_ne_none _, rfl⟩
  | @call validity db _ e c ih => rwa [exec_terms]

/-- The validity is one along a chain. -/
theorem chain_validity {validity : String → Option ℤ}
    {terms : String → Option (Claims × Option String)} (h : Linked validity terms) (fuel : ℕ)
    (jti : String) : ∀ j ∈ chainOf terms fuel jti, validity j = validity jti := by
  have hloop : ∀ (fuel : ℕ) (current : Option String) (seen : List String),
      (∀ j ∈ current, validity j = validity jti) → (∀ j ∈ seen, validity j = validity jti) →
        ∀ j ∈ chainList (fun j => (terms j).map (·.2)) fuel current seen,
          validity j = validity jti := by
    intro fuel
    induction fuel with
    | zero => exact fun _ _ _ hseen => hseen
    | succ fuel ih =>
      intro current seen hcurrent hseen
      cases current with
      | none => exact hseen
      | some current =>
        have hhere := hcurrent current rfl
        simp only [chainList]
        split_ifs
        · exact hseen
        · refine ih _ _ (fun p hp => ?_) fun j hj => ?_
          · obtain ⟨t, ht, hparent⟩ := Option.map_eq_some_iff.1 (Option.mem_of_mem_join hp)
            rw [(h.parent current t ht p hparent).2, hhere]
          · rcases List.mem_append.1 hj with hj | hj
            · exact hseen j hj
            · rw [List.mem_singleton] at hj
              rw [hj, hhere]
  exact hloop fuel _ _ (fun j hj => by cases hj; rfl) (by simp)

/-- With an expiry signed in the validity, every mandate of a chain expires at once. -/
theorem chain_exp {validity : String → Option ℤ}
    {terms : String → Option (Claims × Option String)} (h : Linked validity terms) {fuel : ℕ}
    {jti j : String} {exp : ℤ} (hvalid : validity jti = some exp) (hj : j ∈ chainOf terms fuel jti)
    {t : Claims × Option String} (ht : t ∈ terms j) : t.1.exp = exp := by
  obtain ⟨issued, hexp⟩ := h.exp j t ht
  rw [hexp, chain_validity h fuel jti j hj, hvalid]
  rfl

/-! ## Confinement -/

/-- A purchase is left in the count of the row. -/
def PurchaseLeft (row : MandateRow) : Prop :=
  ∀ n ∈ row.claims.limits.maxTxnCount, row.txnCount < n

/-- A purchase is left in the count of an ancestor. -/
def AncestorLeft {ι : Type} (w : ι → Actor) (i : ι) (m : String) (row : MandateRow) : Prop :=
  (w i).target ≠ some m → PurchaseLeft row

instance (row : MandateRow) : Decidable (PurchaseLeft row) :=
  inferInstanceAs (Decidable (∀ _ ∈ _, _))

instance {ι : Type} (w : ι → Actor) (i : ι) (m : String) (row : MandateRow) :
    Decidable (AncestorLeft w i m row) :=
  inferInstanceAs (Decidable (_ → _))

/-- **Confinement** of a step: when a purchase moves money, every ancestor of its mandate was active,
in time, within budget for the amount and within count when the purchase was verified. -/
def Confined {ι : Type} (w : ι → Actor) (fuel : ℕ) (db : Db)
    (c : Config ι Call Res PyErr (Option Outcome) Db Holding) (i : ι) (_ : Env) : Prop :=
  ∀ op ∈ (c.prog i).next, op.moves = true → ∀ m ∈ (w i).target, ∀ j ∈ (db.chainOf fuel m).tail,
    ∃ row ∈ (c.hist i).taken j, Covers (c.hist i).amount row ∧
      (c.hist i).clock ≤ row.claims.exp ∧ PurchaseLeft row

/-- The ancestors are not the mandate itself, which is on its chain. -/
theorem chain_tail {terms : String → Option (Claims × Option String)} {fuel : ℕ} {jti j : String}
    (hj : j ∈ (chainOf terms fuel jti).tail) : jti ∈ chainOf terms fuel jti ∧ j ≠ jti := by
  have hne : chainOf terms fuel jti ≠ [] := List.ne_nil_of_mem (List.mem_of_mem_tail hj)
  have hnodup := chainOf_nodup terms fuel jti
  obtain ⟨rest, hchain⟩ := chainOf_cons hne
  rw [hchain] at hj hnodup ⊢
  refine ⟨List.mem_cons_self, ?_⟩
  rintro rfl
  exact (List.nodup_cons.1 hnodup).1 hj

section Runs

variable {ι : Type} [DecidableEq ι]

/-- **Derived mandates are confined** in every run whose reservations find a purchase left in the
count of every ancestor, over forests whose signed validity carries an expiry. -/
theorem derived_confined (K : Deps) (ports : String → Option Port) (fuel : ℕ) (w : ι → Actor)
    (validity : String → Option ℤ) (db : Db) (hforest : Forest validity db) (hsigned : Signed K db)
    (hvalid : ∀ i, ∀ m ∈ (w i).target, (validity m).isSome) (xs : List (ι × Env))
    (hok : holdSystem.Along
      (fun c i _ => ∀ op ∈ (c.prog i).next, LeftAt (AncestorLeft w) c.shared i op)
      (holdStart K ports fuel w db) xs) :
    holdSystem.Along (Confined w fuel db) (holdStart K ports fuel w db) xs := by
  have hstart : Outlined holdSystem
      (holdSpec K fuel (fun i => (w i).target) (AncestorLeft w) db.terms) (fun _ _ _ => True)
      (holdStart K ports fuel w db) :=
    ⟨⟨rfl, hsigned⟩, fun i => actor_outline K ports w fun _ => rfl⟩
  refine holdSystem.along_mono (fun c i e hstep op hop hmoves m hm j hj => ?_)
    (outline_run hstart hok).1
  obtain ⟨hholds, hclock⟩ := (hstep op hop).moves hmoves m hm
  have hmem : j ∈ chainOf db.terms fuel m := List.mem_of_mem_tail hj
  obtain ⟨row, hrow, hcovers, hleft, hterms⟩ := hholds j hmem
  refine ⟨row, hrow, hcovers, ?_, hleft fun htarget => ?_⟩
  · -- the mandate was in time, and expires with its ancestors
    obtain ⟨exp, hexp⟩ := Option.isSome_iff_exists.1 (hvalid i m hm)
    obtain ⟨own, -, -, -, hown⟩ := hholds m (chain_tail hj).1
    have hlinks := forest_links hforest
    have hancestor : row.claims.exp = exp := chain_exp hlinks hexp hmem hterms
    have hself : own.claims.exp = exp := chain_exp hlinks hexp (chain_tail hj).1 hown
    rw [hancestor, ← hself]
    exact hclock _ hown
  · rw [Option.mem_def.1 hm] at htarget
    exact (chain_tail hj).2 (Option.some.inj htarget).symm

end Runs

/-! ### A mandate derived from one that is used up -/

/-- A mandate of 200.00, at most 100.00 and `n` purchases, until 100. -/
def parentGrant (n : ℕ) : Grant :=
  ⟨"agt", "ppt", "USD", [], [], .null, ⟨10000, 20000, some n⟩, some 100⟩

/-- No mandates yet. -/
def emptyDb : Db where
  mandates _ := none
  instruments _ := some .active
  captures _ := none
  intents := []
  purchases _ := none
  audit := []
  escalations := []
  bridgeOrders := []

/-- The parent was issued and one purchase of 30.00 was settled. -/
def usedDb (n : ℕ) : Db :=
  (exec .quiet (.updateSettled "par" 0 3000 1 .active)
    (emptyDb.addMandate "par" ((parentGrant n).row "par" 0 "par" none))).2

/-- An escalated purchase of 30.00 was approved with a derived mandate. -/
def approvedDb (n : ℕ) : Db :=
  (usedDb n).addMandate "mdt"
    ((sticky ((parentGrant n).claims "par" 0) (some 100) 3000).row "mdt" 0 "mdt" (some "par"))

/-- The expiry signed in both. -/
def approvedValidity : String → Option ℤ :=
  Function.update (Function.update (fun _ => none) "par" (some 100)) "mdt" (some 100)

theorem approvedDb_forest (n : ℕ) : Forest approvedValidity (approvedDb n) := by
  have hissued := Forest.issue (.empty emptyDb fun _ => rfl) (parentGrant n) "par" 0 "par" rfl
  have hused := hissued.call .quiet (.updateSettled "par" 0 3000 1 .active)
  have hparent : (usedDb n).mandates "par" =
      some ⟨.active, (parentGrant n).claims "par" 0, "par", 0, 3000, 1, none⟩ := rfl
  exact hused.approve hparent 3000 "mdt" 0 "mdt" rfl

/-- Signatures that verify. -/
def approvedDeps (n : ℕ) : Deps :=
  { familyDeps with
    verifyToken := fun token => .ok (if token = "mdt"
      then (sticky ((parentGrant n).claims "par" 0) (some 100) 3000).claims "mdt" 0
      else (parentGrant n).claims "par" 0) }

/-- The retried purchase, under the derived mandate. -/
def retried (_ : Fin 1) : Actor := .purchase familyIds "off" "mdt" merchantId

/-- The purchase, before its first call. -/
def retriedStart (n : ℕ) : Config (Fin 1) Call Res PyErr (Option Outcome) Db Holding :=
  holdStart (approvedDeps n) (fun _ => some .mock) 3 retried (approvedDb n)

/-- The first `k` calls of the purchase; the merchant sells the offer at 30.00. -/
def firstCalls (k : ℕ) : List (Fin 1 × Env) :=
  List.replicate k (0, { Env.quiet with
    offer := some ⟨"off", merchantId, "flights", "flight", 3000, "USD", none⟩ })

theorem approved_signed (n : ℕ) : Signed (approvedDeps n) (approvedDb n) := by
  intro m row hrow claims hclaims
  have hrows : row = (sticky ((parentGrant n).claims "par" 0) (some 100) 3000).row "mdt" 0 "mdt"
      (some "par") ∨ row = ⟨.active, (parentGrant n).claims "par" 0, "par", 0, 3000, 1, none⟩ := by
    by_cases hmdt : m = "mdt"
    · subst hmdt
      exact Or.inl (Option.some.inj hrow).symm
    · by_cases hpar : m = "par"
      · subst hpar
        exact Or.inr (Option.some.inj hrow).symm
      · simp [approvedDb, usedDb, exec, Db.addMandate, Db.setMandate, emptyDb, Function.update_of_ne,
          hmdt, hpar] at hrow
  rcases hrows with rfl | rfl
  · exact (Except.ok.inj hclaims).symm
  · exact (Except.ok.inj hclaims).symm

theorem derived_confined_retried :
    holdSystem.Along (Confined retried 3 (approvedDb 2)) (retriedStart 2) (firstCalls 37) :=
  derived_confined (approvedDeps 2) (fun _ => some .mock) 3 retried approvedValidity (approvedDb 2)
    (approvedDb_forest 2) (approved_signed 2) (by decide) (firstCalls 37) (by decide)

/-- **A used-up parent**: a purchase captured through the derived mandate when the parent's count is
reached. -/
theorem derived_over_count : Forest approvedValidity (approvedDb 1) ∧
    ¬ ∀ xs, holdSystem.Along (Confined retried 3 (approvedDb 1)) (retriedStart 1) xs := by
  refine ⟨approvedDb_forest 1, fun h => ?_⟩
  have hcapture := ((holdSystem.along_append _ (firstCalls 26) (firstCalls 1)).1
    (h (firstCalls 26 ++ firstCalls 1))).2.1
  obtain ⟨op, hop, hmoves⟩ : ∃ op,
      ((holdSystem.run (retriedStart 1) (firstCalls 26)).prog 0).next = some op ∧
        op.moves = true := ⟨_, rfl, rfl⟩
  obtain ⟨parent, htaken, hlimit, hcount⟩ : ∃ parent,
      ((holdSystem.run (retriedStart 1) (firstCalls 26)).hist 0).taken "par" = some parent ∧
        parent.claims.limits.maxTxnCount = some 1 ∧ parent.txnCount = 1 := ⟨_, rfl, rfl, rfl⟩
  obtain ⟨row, hrow, -, -, hleft⟩ := hcapture op hop hmoves "mdt" rfl "par" (by decide)
  obtain rfl : parent = row := Option.some.inj (htaken.symm.trans hrow)
  have hlt := hleft 1 hlimit
  omega

end TryTrust.Agent
