import TryTrust.Policy.Gate

/-!
# What the policy gate approves

* a lemma for each rule: `mandateStateReason_none`, `offerBinding_ok`, `scopeAllows_iff`,
  `limitsDecision_approved`, `evaluateBurst_approved`, `evaluateStepUp_none`, `risk_approved`;
* `StartsCooldown`, **`risk_cooldown`**: the cooldown of an escalation;
* `Passes`: what comes before the rules on risk, with `passes_of_evaluate`;
* `Within`: everything that has to hold of a purchase, but for the currency of the offer;
* **`approves_iff_within`**: the gate approves exactly that;
* **`approves_exactly_iff_currency`**: so the purchase is one in the mandate's currency exactly when
  the offer is, since the gate does not look at the offer's currency.
-/

namespace TryTrust.Policy

open DecisionCore (Decision DecisionValue Level ReasonCode SpendView)

/-! ## The rules -/

theorem mandateStateReason_none {m : MandateClaims} {now : ℤ} :
    mandateStateReason m now = none ↔ MandateStatus.ofText m.status = some .active ∧
      ∃ v, m.validity = some v ∧ v.notBefore ≤ now ∧ now < v.expiresAt := by
  unfold mandateStateReason
  cases MandateStatus.ofText m.status with
  | none => simp
  | some status =>
    cases status with
    | active =>
      cases m.validity with
      | none => simp
      | some v =>
        have hpositive := v.positive
        simp only [true_and, Option.some.injEq, exists_eq_left']
        split_ifs
        all_goals simp
        all_goals omega
    | _ => simp

theorem priceMatches_fmt {amount : Json} {c : ℕ} (hc : c < 10 ^ 28) :
    priceMatches amount (.str (fmt c)) = true ↔ canonicalAmount amount = some c := by
  have hfmt : canonicalAmount (.str (fmt c)) = some c := canonicalCents_fmt hc
  unfold priceMatches
  rw [hfmt]
  cases canonicalAmount amount with
  | none => simp
  | some a => simp

theorem offerBinding_error {i : PurchaseIntent} {o : Option Offer} {d : Decision}
    (h : offerBinding i o = .error d) : d.decision = .rejected := by
  unfold offerBinding at h
  cases o with
  | some o =>
    dsimp only at h
    split_ifs at h <;> (cases h; rfl)
  | none =>
    dsimp only at h
    cases hprice : i.offerAmount <;> rw [hprice] at h <;> dsimp only at h <;>
      first | (cases h) | (split_ifs at h; cases h; rfl)

theorem offerBinding_ok {i : PurchaseIntent} {o : Offer} {p : String × String} :
    offerBinding i (some o) = .ok p ↔ i.offerId = o.offerId ∧
      canonicalAmount i.amount = some o.amount ∧ i.merchantId = o.merchantId ∧
      p = (o.merchantId, o.category) := by
  simp only [offerBinding, ← priceMatches_fmt o.amount_lt]
  split_ifs with h1 h2 h3
  · simp [h1]
  · simp only [Bool.not_eq_true'] at h2
    simp [h2]
  · simp [h3]
  · simp only [Bool.not_eq_true', Bool.not_eq_false] at h2
    simp only [ne_eq, not_not] at h1 h3
    simp [h1, h2, h3, eq_comm]

theorem scopeAllows_iff {scope : MandateScope} {merchantId category : String} :
    scopeAllows scope merchantId category = true ↔
      merchantId ∈ scope.merchants ∧ category ∈ scope.categories := by
  have hentries := scope.entries
  simp only [List.mem_append] at hentries
  simp only [scopeAllows, ne_eq, decide_not, Bool.and_eq_true, Bool.not_eq_true',
    decide_eq_false_iff_not, decide_eq_true_eq]
  constructor
  · rintro ⟨⟨-, hm⟩, hc⟩
    exact ⟨hm, hc⟩
  · rintro ⟨hm, hc⟩
    exact ⟨⟨⟨hentries _ (.inr hm), hentries _ (.inl hc)⟩, hm⟩, hc⟩

/-- The limits admit an amount. -/
def MandateLimits.admit (l : MandateLimits) (amount : ℕ) (spend : SpendView) : Prop :=
  amount ≤ l.maxPerTxn ∧ spend.spentTotal + spend.reservedTotal + amount ≤ l.totalBudget ∧
    ∀ count ∈ l.maxTxn, spend.txnCountPeriod + 1 ≤ count

theorem limitsDecision_approved {limits : Option MandateLimits} {amount : Json}
    {spend : SpendView} : (limitsDecision limits amount spend).decision ≠ .rejected ↔
      ∃ l a, limits = some l ∧ canonicalAmount amount = some a ∧ l.admit a spend := by
  unfold limitsDecision
  cases limits with
  | none => simp [Decision.rejected]
  | some l =>
    cases canonicalAmount amount with
    | none => simp [Decision.rejected]
    | some a =>
      simp only [Option.some.injEq, MandateLimits.admit]
      by_cases h1 : a > l.maxPerTxn
      · rw [if_pos h1]
        simp [rejectedWith, Decision.rejected, Nat.not_le.2 h1]
      by_cases h2 : spend.spentTotal + spend.reservedTotal + a > l.totalBudget
      · rw [if_neg h1, if_pos h2]
        simp [rejectedWith, Decision.rejected, Nat.not_le.2 h2]
      rw [if_neg h1, if_neg h2]
      cases hmax : l.maxTxn with
      | none => simp [Decision.approved, hmax, Nat.not_lt.1 h1, Nat.not_lt.1 h2]
      | some count =>
        by_cases h3 : spend.txnCountPeriod + 1 > count
        · simp only [if_pos h3]
          simp [rejectedWith, Decision.rejected, hmax, Nat.not_lt.1 h1, Nat.not_lt.1 h2,
            Nat.lt_succ_iff.1 h3]
        · simp only [if_neg h3]
          simp [Decision.approved, hmax, Nat.not_lt.1 h1, Nat.not_lt.1 h2,
            Nat.lt_of_succ_le (Nat.not_lt.1 h3)]

/-- **R-BURST does not fire**: no cooldown, and the counters are below their limits. -/
theorem evaluateBurst_approved {G : PolicyGate} {spend : SpendView} {now : ℤ} :
    (evaluateBurst G spend now).decision = .approved ↔ (∀ t ∈ spend.cooldownUntil, t ≤ now) ∧
      spend.escalationsLastHour ≤ G.burstConfig.maxEscalationsPerHour ∧
      spend.intentsLast60s + 1 ≤ G.burstConfig.maxIntents ∧
      spend.openAuthorizations + 1 ≤ G.burstConfig.maxOpenAuthorizations := by
  have hcool : spend.cooldownUntil.filter (now < ·) = none ↔
      ∀ t ∈ spend.cooldownUntil, t ≤ now := by
    simp [Option.filter_eq_none_iff]
  unfold evaluateBurst
  cases hfilter : spend.cooldownUntil.filter (now < ·) with
  | some t =>
    have hnone : ¬ ∀ t ∈ spend.cooldownUntil, t ≤ now := by
      rw [← hcool, hfilter]
      simp
    simp only [hnone, false_and, iff_false]
    simp
  | none =>
    have hall := hcool.1 hfilter
    rw [and_iff_right hall]
    dsimp only
    by_cases h1 : spend.escalationsLastHour > G.burstConfig.maxEscalationsPerHour
    · rw [if_pos h1]
      simp [Nat.not_le.2 h1]
    rw [if_neg h1, and_iff_right (Nat.not_lt.1 h1)]
    by_cases h2 : spend.intentsLast60s + 1 > G.burstConfig.maxIntents
    · rw [if_pos h2]
      simp [Nat.not_le.2 h2]
    rw [if_neg h2, and_iff_right (Nat.not_lt.1 h2)]
    by_cases h3 : spend.openAuthorizations + 1 > G.burstConfig.maxOpenAuthorizations
    · rw [if_pos h3]
      simp [Nat.not_le.2 h3]
    · rw [if_neg h3]
      simp [Nat.not_lt.1 h3]

theorem evaluateStepUp_none {policy : StepUpConfig} {amount : Json} {limits : MandateLimits}
    {spend : SpendView} : (evaluateStepUp policy amount limits spend).required = false ↔
      ∃ a, canonicalAmount amount = some a ∧
        ¬ (0 < limits.maxPerTxn ∧ reaches a limits.maxPerTxn policy.amountRatio = true) ∧
        ¬ (0 < limits.totalBudget ∧ reaches (spend.spentTotal + spend.reservedTotal)
          limits.totalBudget policy.budgetRatio = true) := by
  unfold evaluateStepUp
  cases canonicalAmount amount with
  | none => simp
  | some a =>
    simp only [Option.some.injEq, exists_eq_left']
    split_ifs <;> simp_all [StepUpDecision.none]

theorem escalations_decision {G : PolicyGate} {burst : BurstDecision} {stepup : StepUpDecision}
    {d : Decision} (hd : d ∈ escalations G burst stepup) : d.decision = .escalated := by
  unfold escalations at hd
  rcases List.mem_append.1 hd with h | h
  all_goals
    split_ifs at h
    · rw [List.mem_singleton] at h
      rw [h]
    · cases h

theorem select_mem (d : Decision) (ds : List Decision) : select (d :: ds) ∈ d :: ds := by
  induction ds generalizing d with
  | nil => exact List.mem_singleton.2 rfl
  | cons x ds ih =>
    have h := ih (if d.level ≠ some .l3Plus ∧ x.level = some .l3Plus then x else d)
    have hstep : select (d :: x :: ds) =
        select ((if d.level ≠ some .l3Plus ∧ x.level = some .l3Plus then x else d) :: ds) := rfl
    rw [hstep]
    split_ifs at h ⊢
    · exact List.mem_cons_of_mem d h
    · rcases List.mem_cons.1 h with h | h
      · rw [h]
        exact List.mem_cons_self
      · exact List.mem_cons_of_mem d (List.mem_cons_of_mem x h)

theorem select_approved {ds : List Decision} (h : ∀ d ∈ ds, d.decision = .escalated) :
    (select ds).decision = .approved ↔ ds = [] := by
  cases ds with
  | nil => simp [select, Decision.approved]
  | cons d ds => simp [h _ (select_mem d ds)]

/-- The step-up that the gate asks for. -/
def stepUpOf (G : PolicyGate) (limits : MandateLimits) (amount : Json) (spend : SpendView)
    (approvedStepup : Bool) : StepUpDecision :=
  if approvedStepup then .none else evaluateStepUp G.stepupConfig amount limits spend

theorem risk_approved {G : PolicyGate} {limits : MandateLimits} {amount : Json}
    {spend : SpendView} {now : ℤ} {approvedStepup : Bool} :
    (risk G (some limits) amount spend now approvedStepup).decision = .approved ↔
      (evaluateBurst G spend now).decision = .approved ∧
        (stepUpOf G limits amount spend approvedStepup).required = false := by
  have hstep : risk G (some limits) amount spend now approvedStepup =
      if (evaluateBurst G spend now).decision = .rejected then
        ⟨.rejected, (evaluateBurst G spend now).reasonCode, none, (evaluateBurst G spend now).diff,
          none, none, false⟩
      else select (escalations G (evaluateBurst G spend now)
        (stepUpOf G limits amount spend approvedStepup)) := by
    cases approvedStepup <;> rfl
  rw [hstep]
  by_cases hrejected : (evaluateBurst G spend now).decision = .rejected
  · rw [if_pos hrejected, hrejected]
    simp
  · rw [if_neg hrejected, select_approved fun d => escalations_decision]
    unfold escalations
    cases hburst : (evaluateBurst G spend now).decision with
    | approved => simp
    | rejected => exact absurd hburst hrejected
    | escalated => simp

/-! ## Cooldowns -/

/-- **An escalation starts a cooldown**: there are too many intents, and no step-up takes
precedence. -/
def StartsCooldown (G : PolicyGate) (l : MandateLimits) (amount : Json) (spend : SpendView) :
    Prop :=
  spend.intentsLast60s + 1 > G.burstConfig.maxIntents ∧
    (evaluateStepUp G.stepupConfig amount l spend).required = false

instance (G : PolicyGate) (l : MandateLimits) (amount : Json) (spend : SpendView) :
    Decidable (StartsCooldown G l amount spend) := by
  unfold StartsCooldown
  infer_instance

theorem evaluateBurst_rejected {G : PolicyGate} {spend : SpendView} {now : ℤ}
    (h : (evaluateBurst G spend now).decision ≠ .rejected) :
    (∀ t ∈ spend.cooldownUntil, t ≤ now) ∧
      spend.escalationsLastHour ≤ G.burstConfig.maxEscalationsPerHour := by
  unfold evaluateBurst at h
  cases hfilter : spend.cooldownUntil.filter (now < ·) with
  | some t =>
    rw [hfilter] at h
    exact absurd rfl h
  | none =>
    rw [hfilter] at h
    dsimp only at h
    refine ⟨by simpa [Option.filter_eq_none_iff] using hfilter, ?_⟩
    by_contra hover
    rw [if_pos (by omega)] at h
    exact h rfl

/-- **R-BURST, when it does not reject**: it escalates for too many intents with a cooldown, and
for too many open authorizations without. -/
theorem evaluateBurst_diff {G : PolicyGate} {spend : SpendView} {now : ℤ}
    (h : (evaluateBurst G spend now).decision ≠ .rejected) :
    if spend.intentsLast60s + 1 > G.burstConfig.maxIntents then
      (evaluateBurst G spend now).decision = .escalated ∧
        Fields.get ((evaluateBurst G spend now).diff.getD []) "cooldown_until" =
          .str (G.isoformat (now + G.burstConfig.cooldown))
    else Fields.get ((evaluateBurst G spend now).diff.getD []) "cooldown_until" = .null := by
  obtain ⟨hover, hhour⟩ := evaluateBurst_rejected h
  have hfilter : spend.cooldownUntil.filter (now < ·) = none := by
    simpa [Option.filter_eq_none_iff] using hover
  have hfew : ¬ spend.escalationsLastHour > G.burstConfig.maxEscalationsPerHour := by omega
  unfold evaluateBurst
  rw [hfilter]
  simp only [if_neg hfew]
  split_ifs with h1 h2
  · exact ⟨rfl, rfl⟩
  · rfl
  · rfl

theorem evaluateStepUp_diff (policy : StepUpConfig) (amount : Json) (l : MandateLimits)
    (spend : SpendView) :
    Fields.get ((evaluateStepUp policy amount l spend).diff.getD []) "cooldown_until" = .null := by
  unfold evaluateStepUp
  cases canonicalAmount amount with
  | none => rfl
  | some a =>
    dsimp only
    split_ifs <;> rfl

theorem evaluateStepUp_level {policy : StepUpConfig} {amount : Json} {l : MandateLimits}
    {spend : SpendView} (h : (evaluateStepUp policy amount l spend).required = true) :
    (evaluateStepUp policy amount l spend).level = some .l3Plus := by
  unfold evaluateStepUp at h ⊢
  cases hamount : canonicalAmount amount with
  | none => rfl
  | some a =>
    rw [hamount] at h
    dsimp only at h ⊢
    split_ifs at h ⊢ <;> first | rfl | cases h

/-- **The cooldown of an escalation.** -/
theorem risk_cooldown {G : PolicyGate} {l : MandateLimits} {amount : Json} {spend : SpendView}
    {now : ℤ} (hd : (risk G (some l) amount spend now false).decision = .escalated) :
    (evaluateBurst G spend now).decision ≠ .rejected ∧
      (risk G (some l) amount spend now false).diffAt "cooldown_until" =
        if StartsCooldown G l amount spend then .str (G.isoformat (now + G.burstConfig.cooldown))
        else .null := by
  unfold risk at hd ⊢
  dsimp only at hd ⊢
  by_cases hrejected : (evaluateBurst G spend now).decision = .rejected
  · rw [if_pos hrejected] at hd
    cases hd
  refine ⟨hrejected, ?_⟩
  rw [if_neg hrejected] at hd ⊢
  have hburst := evaluateBurst_diff hrejected
  unfold escalations
  cases hstep : (evaluateStepUp G.stepupConfig amount l spend).required with
  | true =>
    -- the step-up is selected, with a burst before it or alone
    have hnone : ¬ StartsCooldown G l amount spend := fun h => by rw [h.2] at hstep; cases hstep
    have hselected : ∀ b : Decision, b.level = some .l3 → ∀ x : Decision, x.level = some .l3Plus →
        select ([b] ++ [x]) = x := by
      intro b hb x hx
      show (if b.level ≠ some .l3Plus ∧ x.level = some .l3Plus then x else b) = x
      rw [if_pos ⟨by rw [hb]; decide, hx⟩]
    rw [if_neg hnone, if_pos rfl]
    split_ifs
    · rw [hselected _ rfl _ (evaluateStepUp_level hstep)]
      exact evaluateStepUp_diff _ _ _ _
    · exact evaluateStepUp_diff _ _ _ _
  | false =>
    simp only [Bool.false_eq_true, if_false, List.append_nil]
    by_cases hmany : spend.intentsLast60s + 1 > G.burstConfig.maxIntents
    · rw [if_pos hmany] at hburst
      rw [if_pos (show StartsCooldown G l amount spend from ⟨hmany, hstep⟩), if_pos hburst.1]
      exact hburst.2
    · rw [if_neg hmany] at hburst
      rw [if_neg fun h : StartsCooldown G l amount spend => hmany h.1]
      split_ifs
      · exact hburst
      · rfl

/-! ## The gate -/

/-- The gate answers with an approval. -/
def Approves (G : PolicyGate) (m : MandateClaims) (i : PurchaseIntent) (spend : SpendView)
    (now : ℤ) (o : Offer) (approvedStepup : Bool) : Prop :=
  ∃ d, evaluate G m i spend now (some o) approvedStepup = .ok d ∧ d.decision = .approved

/-- **A purchase within its mandate**, but for the currency of the offer. -/
structure Within (G : PolicyGate) (m : MandateClaims) (i : PurchaseIntent) (spend : SpendView)
    (now : ℤ) (o : Offer) (approvedStepup : Bool) : Prop where
  active : MandateStatus.ofText m.status = some .active
  valid : ∃ v, m.validity = some v ∧ v.notBefore ≤ now ∧ now < v.expiresAt
  mandate : i.mandateJti = m.jti
  agent : m.agent.getD "" ≠ "" ∧ i.agent = m.agent
  currency : G.upper m.currency ≠ "" ∧ G.upper i.currency = G.upper m.currency
  offer : i.offerId = o.offerId
  price : canonicalAmount i.amount = some o.amount
  merchant : i.merchantId = o.merchantId
  scope : o.merchantId ∈ m.scope.merchants ∧ o.category ∈ m.scope.categories
  conditions : evaluateConditions m.conditions (some (asOfferMapping o))
    ((G.isoformat now).replace "+00:00" "Z") = .ok true
  limits : ∃ l, m.limits = some l ∧ l.admit o.amount spend ∧
    (stepUpOf G l i.amount spend approvedStepup).required = false
  burst : (evaluateBurst G spend now).decision = .approved

/-- **What comes before the rules on risk**: the state, the parties, the offer, the scope, the
conditions and the limits. -/
structure Passes (G : PolicyGate) (m : MandateClaims) (i : PurchaseIntent) (spend : SpendView)
    (now : ℤ) (o : Offer) : Prop where
  state : mandateStateReason m now = none
  mandate : i.mandateJti = m.jti
  agent : m.agent.getD "" ≠ "" ∧ i.agent = m.agent
  currency : G.upper m.currency ≠ "" ∧ G.upper i.currency = G.upper m.currency
  offer : i.offerId = o.offerId
  price : canonicalAmount i.amount = some o.amount
  merchant : i.merchantId = o.merchantId
  scope : o.merchantId ∈ m.scope.merchants ∧ o.category ∈ m.scope.categories
  conditions : evaluateConditions m.conditions (some (asOfferMapping o))
    ((G.isoformat now).replace "+00:00" "Z") = .ok true
  limits : ∃ l, m.limits = some l ∧ l.admit o.amount spend

/-- A purchase that passes is left to the rules on risk. -/
theorem Passes.evaluate {G : PolicyGate} {m : MandateClaims} {i : PurchaseIntent}
    {spend : SpendView} {now : ℤ} {o : Offer} (h : Passes G m i spend now o)
    (approvedStepup : Bool) : evaluate G m i spend now (some o) approvedStepup =
      .ok (risk G m.limits i.amount spend now approvedStepup) := by
  obtain ⟨l, hl, hadm⟩ := h.limits
  have hlimit := limitsDecision_approved.2 ⟨l, o.amount, rfl, h.price, hadm⟩
  unfold Policy.evaluate
  rw [h.state]
  dsimp only
  rw [if_neg (by simp [h.mandate]), if_neg (by simpa using h.agent),
    if_neg (by simpa using h.currency), offerBinding_ok.2 ⟨h.offer, h.price, h.merchant, rfl⟩]
  dsimp only
  rw [scopeAllows_iff.2 h.scope, Option.map_some, h.conditions]
  dsimp only
  rw [hl, if_neg hlimit]
  rfl

/-- **A purchase that is not rejected passes**, and the rules on risk decide. -/
theorem passes_of_evaluate {G : PolicyGate} {m : MandateClaims} {i : PurchaseIntent}
    {spend : SpendView} {now : ℤ} {o : Offer} {approvedStepup : Bool} {d : Decision}
    (h : evaluate G m i spend now (some o) approvedStepup = .ok d) (hd : d.decision ≠ .rejected) :
    Passes G m i spend now o ∧ d = risk G m.limits i.amount spend now approvedStepup := by
  have hno : ∀ (r : ReasonCode) (P : Prop),
      (Except.ok (Decision.rejected r) : Except EvalErr Decision) = .ok d → P := by
    rintro r P hr
    cases hr
    exact absurd rfl hd
  unfold evaluate at h
  cases hstate : mandateStateReason m now with
  | some reason =>
    rw [hstate] at h
    exact hno _ _ h
  | none =>
    rw [hstate] at h
    dsimp only at h
    by_cases h1 : i.mandateJti ≠ m.jti
    · rw [if_pos h1] at h
      exact hno _ _ h
    by_cases h2 : m.agent.getD "" = "" ∨ i.agent ≠ m.agent
    · rw [if_neg h1, if_pos h2] at h
      exact hno _ _ h
    by_cases h3 : G.upper m.currency = "" ∨ G.upper i.currency ≠ G.upper m.currency
    · rw [if_neg h1, if_neg h2, if_pos h3] at h
      exact hno _ _ h
    rw [if_neg h1, if_neg h2, if_neg h3] at h
    cases hbind : offerBinding i (some o) with
    | error d' =>
      rw [hbind] at h
      cases h
      exact absurd (offerBinding_error hbind) hd
    | ok p =>
      rw [hbind] at h
      obtain ⟨hid, hprice, hmerchant, rfl⟩ := offerBinding_ok.1 hbind
      dsimp only at h
      by_cases h4 : scopeAllows m.scope o.merchantId o.category = true
      · rw [h4, Option.map_some] at h
        cases hcond : evaluateConditions m.conditions (some (asOfferMapping o))
          ((G.isoformat now).replace "+00:00" "Z") with
        | error x =>
          rw [hcond] at h
          cases h
        | ok b =>
          rw [hcond] at h
          cases b with
          | false => exact hno _ _ h
          | true =>
            dsimp only at h
            rw [if_neg (by decide)] at h
            by_cases h5 : (limitsDecision m.limits i.amount spend).decision = .rejected
            · rw [if_pos h5] at h
              cases h
              exact absurd h5 hd
            · rw [if_neg h5] at h
              obtain ⟨l, a, hl, ha, hlimit⟩ := limitsDecision_approved.1 h5
              obtain rfl := Option.some.inj (ha.symm.trans hprice)
              simp only [not_or, ne_eq, not_not] at h1 h2 h3
              exact ⟨⟨hstate, h1, h2, h3, hid, hprice, hmerchant, scopeAllows_iff.1 h4, hcond, l,
                hl, hlimit⟩, (Except.ok.inj h).symm⟩
      · rw [if_pos (by simp [h4])] at h
        exact hno _ _ h

/-- **The gate approves exactly** the purchases within their mandate. -/
theorem approves_iff_within {G : PolicyGate} {m : MandateClaims} {i : PurchaseIntent}
    {spend : SpendView} {now : ℤ} {o : Offer} {approvedStepup : Bool} :
    Approves G m i spend now o approvedStepup ↔ Within G m i spend now o approvedStepup := by
  constructor
  · rintro ⟨d, hd, hdec⟩
    obtain ⟨hp, rfl⟩ := passes_of_evaluate hd (by rw [hdec]; decide)
    obtain ⟨l, hl, hlimit⟩ := hp.limits
    obtain ⟨hactive, hvalid⟩ := mandateStateReason_none.1 hp.state
    rw [hl, risk_approved] at hdec
    exact ⟨hactive, hvalid, hp.mandate, hp.agent, hp.currency, hp.offer, hp.price, hp.merchant,
      hp.scope, hp.conditions, ⟨l, hl, hlimit, hdec.2⟩, hdec.1⟩
  · intro h
    obtain ⟨l, hl, hlimit, hstep⟩ := h.limits
    have hp : Passes G m i spend now o := ⟨mandateStateReason_none.2 ⟨h.active, h.valid⟩, h.mandate,
      h.agent, h.currency, h.offer, h.price, h.merchant, h.scope, h.conditions, l, hl, hlimit⟩
    refine ⟨_, hp.evaluate approvedStepup, ?_⟩
    rw [hl]
    exact risk_approved.2 ⟨h.burst, hstep⟩

/-- **The offer's currency**: the gate approves exactly the purchases within their mandate whose
intent and offer are both in its currency, if and only if the offer is, or the purchase is refused
for another reason. -/
theorem approves_exactly_iff_currency (G : PolicyGate) (m : MandateClaims) (i : PurchaseIntent)
    (spend : SpendView) (now : ℤ) (o : Offer) :
    (Approves G m i spend now o false ↔
      Within G m i spend now o false ∧ G.upper o.currency = G.upper m.currency) ↔
    (G.upper o.currency = G.upper m.currency ∨ ¬ Within G m i spend now o false) := by
  rw [approves_iff_within]
  constructor
  · intro h
    by_cases hwithin : Within G m i spend now o false
    · exact .inl (h.1 hwithin).2
    · exact .inr hwithin
  · rintro (hcurrency | hnot)
    · exact ⟨fun h => ⟨h, hcurrency⟩, fun h => h.1⟩
    · exact ⟨fun h => absurd h hnot, fun h => h.1⟩

/-- The gate with its defaults, of texts in capitals already. -/
def plainGate : PolicyGate := ⟨.default, .default, fun s => s, fun _ => ""⟩

/-- A mandate in dollars. -/
def dollars : MandateClaims where
  jti := "mandate-1"
  agent := some "agent-1"
  currency := "USD"
  scope := ⟨["groceries"], ["merchant-1"], by decide⟩
  limits := some ⟨15000, 50000, some 10⟩
  validity := some ⟨0, 3600000000, by decide⟩
  status := "active"
  conditions := .null
  named := by decide

/-- An offer in euros. -/
def euros : Offer :=
  ⟨"offer-1", "merchant-1", "groceries", 5000, "EUR", "basket", none, by decide⟩

/-- An intent to pay the offer's amount in dollars. -/
def payDollars : PurchaseIntent :=
  ⟨"mandate-1", some "agent-1", "merchant-1", "offer-1", .str "50.00", "USD", "groceries", .null⟩

/-- No spending yet. -/
def unspent : SpendView := ⟨0, 0, 0, "active", 0, 0, 0, none⟩

/-- An offer in another currency is approved. -/
theorem foreign_offer_approved : ¬ ∀ (G : PolicyGate) (m : MandateClaims) (i : PurchaseIntent)
    (spend : SpendView) (now : ℤ) (o : Offer), Approves G m i spend now o false ↔
      Within G m i spend now o false ∧ G.upper o.currency = G.upper m.currency := by
  intro h
  have happroves : Approves plainGate dollars payDollars unspent 1 euros false := ⟨_, rfl, rfl⟩
  have hcurrency := ((h plainGate dollars payDollars unspent 1 euros).1 happroves).2
  exact absurd hcurrency (by decide)

end TryTrust.Policy
