import TryTrust.Policy.Exact

/-!
# The policy gate is monotone

* `StepUpConfig.Valid`: what the constructor of a step-up configuration checks;
* `Looser`, `Lighter`: higher limits, less spending, all else equal;
* `judge`, `evaluate_cases`: only the last rules look at the limits and at the spending;
* `admit_mono`, `stepUpOf_mono`, `judge_approved`;
* **`evaluate_monotone`**: an approval stays one under looser limits and lighter spending.
-/

namespace TryTrust.Policy

open DecisionCore (Decision DecisionValue Level ReasonCode SpendView)

/-- What `StepUpConfig.__post_init__` checks of the ratios: both are in `(0, 1]`. -/
structure StepUpConfig.Valid (policy : StepUpConfig) : Prop where
  amount_pos : 0 < policy.amountRatio.coeff
  budget_pos : 0 < policy.budgetRatio.coeff
  amount_le : policy.amountRatio.coeff * 10 ^ policy.amountRatio.exp.toNat ≤
    10 ^ (-policy.amountRatio.exp).toNat
  budget_le : policy.budgetRatio.coeff * 10 ^ policy.budgetRatio.exp.toNat ≤
    10 ^ (-policy.budgetRatio.exp).toNat

theorem StepUpConfig.default_valid : StepUpConfig.default.Valid := by
  constructor <;> decide

/-- Limits that are at least as high; a count may also be lifted. -/
structure Looser (l l' : MandateLimits) : Prop where
  maxPerTxn : l.maxPerTxn ≤ l'.maxPerTxn
  totalBudget : l.totalBudget ≤ l'.totalBudget
  maxTxn : ∀ count' ∈ l'.maxTxn, ∃ count ∈ l.maxTxn, count ≤ count'

/-- Spending that is at most as high, with the same burst window. -/
structure Lighter (spend spend' : SpendView) : Prop where
  spentTotal : spend'.spentTotal ≤ spend.spentTotal
  reservedTotal : spend'.reservedTotal ≤ spend.reservedTotal
  txnCountPeriod : spend'.txnCountPeriod ≤ spend.txnCountPeriod
  rest : spend' = { spend with
    spentTotal := spend'.spentTotal, reservedTotal := spend'.reservedTotal
    txnCountPeriod := spend'.txnCountPeriod }

/-! ## The rules that look at limits and spending -/

/-- The limits, and then the rules on risk. -/
def judge (G : PolicyGate) (limits : Option MandateLimits) (amount : Json) (spend : SpendView)
    (now : ℤ) (approvedStepup : Bool) : Decision :=
  if (limitsDecision limits amount spend).decision = .rejected then
    limitsDecision limits amount spend
  else risk G limits amount spend now approvedStepup

/-- **The rules before the limits** refuse whatever the limits and the spending are, or they leave
the purchase to `judge`. -/
theorem evaluate_cases (G : PolicyGate) (m : MandateClaims) (i : PurchaseIntent) (now : ℤ)
    (offer : Option Offer) (approvedStepup : Bool) :
    (∃ r, (∀ d, r = .ok d → d.decision = .rejected) ∧ ∀ limits spend,
      evaluate G { m with limits := limits } i spend now offer approvedStepup = r) ∨
    ∀ limits spend, evaluate G { m with limits := limits } i spend now offer approvedStepup =
      .ok (judge G limits i.amount spend now approvedStepup) := by
  have hrejected : ∀ reason d, (.ok (Decision.rejected reason) : Except EvalErr Decision) = .ok d →
      d.decision = .rejected := by
    rintro reason d ⟨rfl⟩
    rfl
  unfold evaluate
  cases hstate : mandateStateReason m now with
  | some reason =>
    have hsame : ∀ limits, mandateStateReason { m with limits := limits } now = some reason :=
      fun _ => hstate
    simp only [hsame]
    exact .inl ⟨_, hrejected reason, fun _ _ => rfl⟩
  | none =>
    have hsame : ∀ limits, mandateStateReason { m with limits := limits } now = none :=
      fun _ => hstate
    simp only [hsame]
    by_cases hjti : i.mandateJti ≠ m.jti
    · simp only [if_pos hjti]
      exact .inl ⟨_, hrejected _, fun _ _ => rfl⟩
    by_cases hagent : m.agent.getD "" = "" ∨ i.agent ≠ m.agent
    · simp only [if_neg hjti, if_pos hagent]
      exact .inl ⟨_, hrejected _, fun _ _ => rfl⟩
    by_cases hcurrency : G.upper m.currency = "" ∨ G.upper i.currency ≠ G.upper m.currency
    · simp only [if_neg hjti, if_neg hagent, if_pos hcurrency]
      exact .inl ⟨_, hrejected _, fun _ _ => rfl⟩
    simp only [if_neg hjti, if_neg hagent, if_neg hcurrency]
    cases hbind : offerBinding i offer with
    | error rejection =>
      refine .inl ⟨_, ?_, fun _ _ => rfl⟩
      rintro d ⟨rfl⟩
      exact offerBinding_error hbind
    | ok place =>
      dsimp only
      by_cases hscope : !scopeAllows m.scope place.1 place.2
      · simp only [if_pos hscope]
        exact .inl ⟨_, hrejected (if place.1 ∉ m.scope.merchants then .merchantNotAllowed
          else .categoryForbidden), fun _ _ => rfl⟩
      simp only [if_neg hscope]
      cases evaluateConditions m.conditions (offer.map asOfferMapping)
        ((G.isoformat now).replace "+00:00" "Z") with
      | error x => exact .inl ⟨.error x, fun d h => (nomatch h), fun _ _ => rfl⟩
      | ok met =>
        cases met with
        | false => exact .inl ⟨_, hrejected _, fun _ _ => rfl⟩
        | true =>
          refine .inr fun limits spend => ?_
          dsimp only [judge]
          split_ifs <;> rfl

/-- **What `judge` approves.** -/
theorem judge_approved {G : PolicyGate} {limits : Option MandateLimits} {amount : Json}
    {spend : SpendView} {now : ℤ} {approvedStepup : Bool} :
    (judge G limits amount spend now approvedStepup).decision = .approved ↔
      ∃ l a, limits = some l ∧ canonicalAmount amount = some a ∧ l.admit a spend ∧
        (evaluateBurst G spend now).decision = .approved ∧
          (stepUpOf G l amount spend approvedStepup).required = false := by
  have hlimits : (limitsDecision limits amount spend).decision ≠ .rejected ↔ _ :=
    limitsDecision_approved
  unfold judge
  by_cases hrejected : (limitsDecision limits amount spend).decision = .rejected
  · rw [if_pos hrejected, hrejected]
    refine ⟨fun h => (nomatch h), ?_⟩
    rintro ⟨l, a, hl, ha, hlimit, -⟩
    exact absurd hrejected (hlimits.2 ⟨l, a, hl, ha, hlimit⟩)
  · rw [if_neg hrejected]
    obtain ⟨l, a, rfl, ha, hlimit⟩ := hlimits.1 hrejected
    rw [risk_approved]
    constructor
    · rintro ⟨hburst, hstep⟩
      exact ⟨l, a, rfl, ha, hlimit, hburst, hstep⟩
    · rintro ⟨l', a', hl, -, -, hburst, hstep⟩
      obtain rfl := Option.some.inj hl
      exact ⟨hburst, hstep⟩

/-! ## Looser limits, lighter spending -/

section Monotone

variable {G : PolicyGate} {l l' : MandateLimits} {spend spend' : SpendView}

theorem admit_mono (hlimits : Looser l l') (hspend : Lighter spend spend') {amount : ℕ}
    (h : l.admit amount spend) : l'.admit amount spend' := by
  obtain ⟨hper, hbudget, hcount⟩ := h
  refine ⟨hper.trans hlimits.maxPerTxn, ?_, fun count' hcount' => ?_⟩
  · have hspent := hspend.spentTotal
    have hreserved := hspend.reservedTotal
    have hraised := hlimits.totalBudget
    omega
  · obtain ⟨count, hmem, hle⟩ := hlimits.maxTxn count' hcount'
    have hfewer := hspend.txnCountPeriod
    have hroom := hcount count hmem
    omega

theorem evaluateBurst_lighter (hspend : Lighter spend spend') (now : ℤ) :
    evaluateBurst G spend' now = evaluateBurst G spend now := by
  rw [hspend.rest]
  rfl

/-- A share that stays below its ratio, of a whole that grows. An empty whole has an empty part. -/
theorem reaches_mono {part part' whole whole' : ℕ} {ratio : Dec} (hratio : 0 < ratio.coeff)
    (hpart : part' ≤ part) (hwhole : whole ≤ whole') (hle : part ≤ whole)
    (h : ¬ (0 < whole ∧ reaches part whole ratio = true)) :
    ¬ (0 < whole' ∧ reaches part' whole' ratio = true) := by
  rintro ⟨hpos, hreach⟩
  simp only [reaches, decide_eq_true_eq] at h hreach
  have hup : (0 : ℤ) < 10 ^ ratio.exp.toNat := by positivity
  have hdown : (0 : ℤ) < 10 ^ (-ratio.exp).toNat := by positivity
  by_cases hempty : whole = 0
  · have hzero : part' = 0 := by omega
    have hfull : 0 < ratio.coeff * whole' * 10 ^ ratio.exp.toNat := by positivity
    rw [hzero] at hreach
    push_cast at hreach
    linarith
  · refine h ⟨Nat.pos_of_ne_zero hempty, ?_⟩
    have hw : (whole : ℤ) ≤ whole' := by exact_mod_cast hwhole
    have hp : (part' : ℤ) ≤ part := by exact_mod_cast hpart
    calc ratio.coeff * whole * 10 ^ ratio.exp.toNat
        ≤ ratio.coeff * whole' * 10 ^ ratio.exp.toNat := by gcongr
      _ ≤ part' * 10 ^ (-ratio.exp).toNat := hreach
      _ ≤ part * 10 ^ (-ratio.exp).toNat := by gcongr

theorem stepUpOf_mono (hvalid : G.stepupConfig.Valid) (hlimits : Looser l l')
    (hspend : Lighter spend spend') {amount : Json} {a : ℕ} (ha : canonicalAmount amount = some a)
    (hlimit : l.admit a spend) {approvedStepup : Bool}
    (h : (stepUpOf G l amount spend approvedStepup).required = false) :
    (stepUpOf G l' amount spend' approvedStepup).required = false := by
  cases approvedStepup with
  | true => rfl
  | false =>
    obtain ⟨a', ha', hshare, hused⟩ := evaluateStepUp_none.1 h
    obtain rfl := Option.some.inj (ha.symm.trans ha')
    obtain ⟨hper, hbudget, -⟩ := hlimit
    have hspent := hspend.spentTotal
    have hreserved := hspend.reservedTotal
    exact evaluateStepUp_none.2 ⟨a, ha,
      reaches_mono hvalid.amount_pos (le_refl a) hlimits.maxPerTxn hper hshare,
      reaches_mono hvalid.budget_pos (by omega) hlimits.totalBudget (by omega) hused⟩

theorem judge_mono (hvalid : G.stepupConfig.Valid) (hlimits : Looser l l')
    (hspend : Lighter spend spend') {amount : Json} {now : ℤ} {approvedStepup : Bool}
    (h : (judge G (some l) amount spend now approvedStepup).decision = .approved) :
    (judge G (some l') amount spend' now approvedStepup).decision = .approved := by
  obtain ⟨l₀, a, hl, ha, hlimit, hburst, hstep⟩ := judge_approved.1 h
  obtain rfl := Option.some.inj hl
  refine judge_approved.2 ⟨l', a, rfl, ha, admit_mono hlimits hspend hlimit, ?_,
    stepUpOf_mono hvalid hlimits hspend ha hlimit hstep⟩
  rw [evaluateBurst_lighter hspend]
  exact hburst

/-- **The gate is monotone.** An approval stays one when the limits are raised and the spending is
lowered: with or without an offer, in any burst window, with the step-up waived or not. -/
theorem evaluate_monotone (hvalid : G.stepupConfig.Valid) (m : MandateClaims) (i : PurchaseIntent)
    (now : ℤ) (offer : Option Offer) (approvedStepup : Bool) (hm : m.limits = some l)
    (hlimits : Looser l l') (hspend : Lighter spend spend') {d : Decision}
    (h : evaluate G m i spend now offer approvedStepup = .ok d) (hd : d.decision = .approved) :
    ∃ d', evaluate G { m with limits := some l' } i spend' now offer approvedStepup = .ok d' ∧
      d'.decision = .approved := by
  have hself : { m with limits := some l } = m := by rw [← hm]
  rcases evaluate_cases G m i now offer approvedStepup with ⟨r, hrefused, hall⟩ | hall
  · have hr := hall (some l) spend
    rw [hself, h] at hr
    rw [hrefused d hr.symm] at hd
    cases hd
  · have hr := hall (some l) spend
    rw [hself, h] at hr
    rw [Except.ok.inj hr] at hd
    exact ⟨_, hall (some l') spend', judge_mono hvalid hlimits hspend hd⟩

end Monotone

/-- The limit is doubled, its count lifted and the spending taken back. -/
theorem evaluate_monotone_doubled : ∃ d', evaluate plainGate
    { dollars with limits := some ⟨30000, 50000, none⟩ } payDollars unspent 1 (some euros) false =
      .ok d' ∧ d'.decision = .approved :=
  have hlighter : Lighter { unspent with spentTotal := 3000 } unspent :=
    ⟨by decide, by decide, by decide, rfl⟩
  evaluate_monotone (l := ⟨15000, 50000, some 10⟩) StepUpConfig.default_valid dollars payDollars 1
    (some euros) false rfl ⟨by decide, by decide, fun _ h => (nomatch h)⟩ hlighter rfl rfl

end TryTrust.Policy
