import TryTrust.Decision.Records
import TryTrust.Policy.Jsonlogic

/-!
# The policy gate

* the value objects of the domain: `MandateClaims`, `Offer`, `PurchaseIntent`, `BurstConfig`,
  `StepUpConfig`;
* the rules in the gate's order: `mandateStateReason`, `priceCheck`, `scopeAllows`,
  `limitsDecision`, `evaluateBurst`, `evaluateStepUp`;
* **`evaluate`** (`PolicyGate.evaluate`).

Amounts are cents and sums of them exact: an amount has 28 digits at most, and a sum that Python
rounds is over every budget. Times are microseconds.
-/

namespace TryTrust.Policy

open DecisionCore (Decision DecisionValue Level ReasonCode SpendView)

/-! ## Value objects -/

/-- `MandateStatus`. -/
inductive MandateStatus where
  | draft
  | active
  | suspended
  | revoked
  | expired
  | exhausted
  deriving DecidableEq, Repr

/-- `MandateStatus(text)`; `none` when it raises. -/
def MandateStatus.ofText : String → Option MandateStatus
  | "draft" => some draft
  | "active" => some active
  | "suspended" => some suspended
  | "revoked" => some revoked
  | "expired" => some expired
  | "exhausted" => some exhausted
  | _ => none

/-- `MandateLimits`; `maxTxn` is the count of `max_txn`. -/
structure MandateLimits where
  maxPerTxn : ℕ
  totalBudget : ℕ
  maxTxn : Option ℕ

/-- `MandateScope`; no entry is empty. -/
structure MandateScope where
  categories : List String
  merchants : List String
  entries : ∀ item ∈ categories ++ merchants, item ≠ ""

/-- `MandateValidity`, of positive duration. -/
structure MandateValidity where
  notBefore : ℤ
  expiresAt : ℤ
  positive : notBefore < expiresAt

/-- `MandateClaims`. A status that is none of `MandateStatus` is kept as its text. -/
structure MandateClaims where
  jti : String
  agent : Option String
  currency : String
  scope : MandateScope
  limits : Option MandateLimits
  validity : Option MandateValidity
  status : String
  conditions : Json
  named : jti ≠ ""

/-- `Offer`. Its amount passed `canonical_amount`. -/
structure Offer where
  offerId : String
  merchantId : String
  category : String
  amount : ℕ
  currency : String
  title : String
  description : Option String
  amount_lt : amount < 10 ^ 28

/-- `PurchaseIntent`. Its amounts are as they came; `null` is no offer amount. -/
structure PurchaseIntent where
  mandateJti : String
  agent : Option String
  merchantId : String
  offerId : String
  amount : Json
  currency : String
  category : String
  offerAmount : Json

/-- `BurstConfig`. -/
structure BurstConfig where
  maxIntents : ℕ
  window : ℤ
  cooldown : ℤ
  maxOpenAuthorizations : ℕ
  maxEscalationsPerHour : ℕ
  window_pos : 0 < window
  cooldown_pos : 0 < cooldown

/-- `BurstConfig()`. -/
def BurstConfig.default : BurstConfig :=
  ⟨3, 60000000, 600000000, 3, 5, by decide, by decide⟩

/-- `StepUpConfig`. -/
structure StepUpConfig where
  amountRatio : Dec
  budgetRatio : Dec
  ttlL3 : ℕ
  ttlL3Plus : ℕ

/-- `StepUpConfig()`. -/
def StepUpConfig.default : StepUpConfig := ⟨⟨70, -2⟩, ⟨80, -2⟩, 120000000, 300000000⟩

/-- `PolicyGate`, with the texts that Python's library makes: a text in capitals, and a time. -/
structure PolicyGate where
  burstConfig : BurstConfig
  stepupConfig : StepUpConfig
  upper : String → String
  isoformat : ℤ → String

/-- `_as_offer_mapping`. -/
def asOfferMapping (o : Offer) : Fields :=
  [("offer_id", .str o.offerId), ("merchant_id", .str o.merchantId), ("category", .str o.category),
    ("amount", .str (fmt o.amount)), ("price", .str (fmt o.amount)), ("currency", .str o.currency),
    ("title", .str o.title), ("description", (o.description.map Json.str).getD .null)]

/-- The cents of a value that `canonical_amount` takes; `none` when it raises. -/
def canonicalAmount : Json → Option ℕ
  | .str s => canonicalCents s
  | .num m 0 => if 0 ≤ m ∧ m * 100 < 10 ^ 28 then some (m * 100).toNat else none
  | _ => none

/-! ## The rules -/

/-- `Decision(REJECTED, reason, diff=…)`. -/
def rejectedWith (reason : ReasonCode) (diff : Fields) : Decision :=
  { Decision.rejected reason with diff := some diff }

/-- `mandate_state_reason`. -/
def mandateStateReason (m : MandateClaims) (now : ℤ) : Option ReasonCode :=
  match MandateStatus.ofText m.status with
  | none => some .mandateSuspended
  | some .draft => some .mandateNotYetValid
  | some .suspended => some .mandateSuspended
  | some .revoked => some .mandateRevoked
  | some .expired => some .mandateExpired
  | some .exhausted => some .mandateExhausted
  | some .active =>
    match m.validity with
    | none => some .mandateNotYetValid
    | some v =>
      if v.expiresAt ≤ v.notBefore then some .mandateExpired
      else if now < v.notBefore then some .mandateNotYetValid
      else if now ≥ v.expiresAt then some .mandateExpired
      else none

/-- `price_matches`. -/
def priceMatches (intentAmount offerAmount : Json) : Bool :=
  match canonicalAmount intentAmount, canonicalAmount offerAmount with
  | some a, some b => a = b
  | _, _ => false

/-- The text of an amount in a diff. -/
def amountText (value : Json) : String :=
  ((canonicalAmount value).map fun c => fmt c).getD value.text

/-- `price_check` of amounts that do not match. -/
def priceCheck (intentAmount offerAmount : Json) : Decision :=
  rejectedWith .conditionFailed [("field", .str "amount"),
    ("attempted", .str (amountText intentAmount)), ("offer", .str (amountText offerAmount))]

/-- `scope_allows`. -/
def scopeAllows (scope : MandateScope) (merchantId category : String) : Bool :=
  merchantId ≠ "" && category ≠ "" && merchantId ∈ scope.merchants && category ∈ scope.categories

/-- `_limits_decision`. -/
def limitsDecision (limits : Option MandateLimits) (intentAmount : Json) (spend : SpendView) :
    Decision :=
  match limits, canonicalAmount intentAmount with
  | some limits, some amount =>
    let attempted := spend.spentTotal + spend.reservedTotal + amount
    if amount > limits.maxPerTxn then
      rejectedWith .amountExceedsPerTxn [("limit", .str "max_per_txn"),
        ("value", .str (fmt limits.maxPerTxn)), ("attempted", .str (fmt amount))]
    else if attempted > limits.totalBudget then
      rejectedWith .budgetExceeded [("limit", .str "total_budget"),
        ("value", .str (fmt limits.totalBudget)), ("attempted", .str (fmt attempted))]
    else
      match limits.maxTxn with
      | none => .approved none
      | some count =>
        if spend.txnCountPeriod + 1 > count then
          rejectedWith .limitExhausted [("limit", .str "max_txn"), ("value", .num count 0),
            ("attempted", .num (spend.txnCountPeriod + 1) 0)]
        else .approved none
  | _, _ => .rejected .limitExhausted

/-- `BurstDecision`. -/
structure BurstDecision where
  decision : DecisionValue
  reasonCode : Option ReasonCode
  cooldownUntil : Option ℤ
  autoSuspend : Bool
  diff : Option Fields

/-- `evaluate_burst`: the counters are those before the candidate. -/
def evaluateBurst (G : PolicyGate) (spend : SpendView) (now : ℤ) : BurstDecision :=
  let policy := G.burstConfig
  match spend.cooldownUntil.filter (now < ·) with
  | some t => ⟨.rejected, some .velocityBurst, some t, false,
      some [("cause", .str "cooldown"), ("until", .str (G.isoformat t))]⟩
  | none =>
    if spend.escalationsLastHour > policy.maxEscalationsPerHour then
      ⟨.rejected, some .mandateSuspended, none, true, some [("limit", .str "escalations_per_hour"),
        ("value", .num policy.maxEscalationsPerHour 0),
        ("observed", .num spend.escalationsLastHour 0)]⟩
    else if spend.intentsLast60s + 1 > policy.maxIntents then
      let t := now + policy.cooldown
      ⟨.escalated, some .velocityBurst, some t, false, some [("limit", .str "intents"),
        ("window_seconds", .num (policy.window / 1000000) 0),
        ("observed", .num (spend.intentsLast60s + 1) 0), ("cooldown_until", .str (G.isoformat t))]⟩
    else if spend.openAuthorizations + 1 > policy.maxOpenAuthorizations then
      ⟨.escalated, some .velocityBurst, none, false, some [("limit", .str "open_authorizations"),
        ("value", .num policy.maxOpenAuthorizations 0),
        ("attempted", .num (spend.openAuthorizations + 1) 0)]⟩
    else ⟨.approved, none, none, false, none⟩

/-- `ttl_for_level`, in seconds. -/
def ttlForLevel (policy : StepUpConfig) : Level → ℕ
  | .l3 => policy.ttlL3 / 1000000
  | .l3Plus => policy.ttlL3Plus / 1000000

/-- `part >= ratio * whole`, which is also `part / whole >= ratio` for a positive whole. -/
def reaches (part whole : ℕ) (ratio : Dec) : Bool :=
  ratio.coeff * whole * 10 ^ ratio.exp.toNat ≤ (part : ℤ) * 10 ^ (-ratio.exp).toNat

/-- `StepUpDecision`. -/
structure StepUpDecision where
  required : Bool
  level : Option Level
  reasons : List ReasonCode
  ttlSeconds : Option ℕ
  requiresUv : Bool
  diff : Option Fields

/-- A step-up that is not required. -/
def StepUpDecision.none : StepUpDecision := ⟨false, .none, [], .none, false, .none⟩

/-- `evaluate_step_up`, as the gate calls it: with a budget and a time, and no context of higher
risk. -/
def evaluateStepUp (policy : StepUpConfig) (amount : Json) (limits : MandateLimits)
    (spend : SpendView) : StepUpDecision :=
  match canonicalAmount amount with
  | .none => ⟨true, some .l3Plus, [], .none, true, .none⟩
  | some candidate =>
    let used := spend.spentTotal + spend.reservedTotal
    let overAmount := 0 < limits.maxPerTxn && reaches candidate limits.maxPerTxn policy.amountRatio
    let overBudget := 0 < limits.totalBudget && reaches used limits.totalBudget policy.budgetRatio
    let reasons := (if overAmount then [ReasonCode.stepupAmountThreshold] else []) ++
      (if overBudget then [ReasonCode.stepupBudgetUsage] else [])
    let diff : Fields := (if overAmount then [("amount_threshold", .obj
        [("ratio", .str policy.amountRatio.json.text), ("amount", .str (fmt candidate)),
          ("max_per_txn", .str (fmt limits.maxPerTxn))])] else []) ++
      (if overBudget then [("budget_threshold", .obj
        [("ratio", .str policy.budgetRatio.json.text), ("spent_plus_reserved", .str (fmt used)),
          ("total_budget", .str (fmt limits.totalBudget))])] else [])
    if reasons.isEmpty then .none
    else ⟨true, some .l3Plus, reasons, some (ttlForLevel policy .l3Plus), true, some diff⟩

/-! ## The gate -/

/-- The offer's part: the mandate's merchant and category to look for, or a rejection. -/
def offerBinding (intent : PurchaseIntent) : Option Offer → Except Decision (String × String)
  | some offer =>
    if intent.offerId ≠ offer.offerId then .error (.rejected .conditionFailed)
    else if !priceMatches intent.amount (.str (fmt offer.amount)) then
      .error (priceCheck intent.amount (.str (fmt offer.amount)))
    else if intent.merchantId ≠ offer.merchantId then .error (.rejected .merchantNotAllowed)
    else .ok (offer.merchantId, offer.category)
  | none =>
    match intent.offerAmount with
    | .null => .ok (intent.merchantId, intent.category)
    | price =>
      if !priceMatches intent.amount price then .error (priceCheck intent.amount price)
      else .ok (intent.merchantId, intent.category)

/-- The escalations of the last two rules; Python's `max` takes the first one of the highest
level. -/
def escalations (G : PolicyGate) (burst : BurstDecision) (stepup : StepUpDecision) :
    List Decision :=
  (if burst.decision = .escalated then [⟨.escalated, burst.reasonCode, none, burst.diff, some .l3,
    some (ttlForLevel G.stepupConfig .l3), false⟩] else []) ++
  (if stepup.required then [⟨.escalated, stepup.reasons.head?, none, stepup.diff, stepup.level,
    stepup.ttlSeconds, stepup.requiresUv⟩] else [])

/-- The approval, or the escalation that takes precedence. -/
def select : List Decision → Decision
  | [] => .approved none
  | d :: ds => ds.foldl
    (fun best x => if best.level ≠ some .l3Plus ∧ x.level = some .l3Plus then x else best) d

/-- The rules after the limits. -/
def risk (G : PolicyGate) (limits : Option MandateLimits) (amount : Json) (spend : SpendView)
    (now : ℤ) (approvedStepup : Bool) : Decision :=
  let burst := evaluateBurst G spend now
  if burst.decision = .rejected then
    ⟨.rejected, burst.reasonCode, none, burst.diff, none, none, false⟩
  else
    let stepup := match approvedStepup, limits with
      | false, some limits => evaluateStepUp G.stepupConfig amount limits spend
      | _, _ => .none
    select (escalations G burst stepup)

/-- **`PolicyGate.evaluate`**. -/
def evaluate (G : PolicyGate) (mandate : MandateClaims) (intent : PurchaseIntent)
    (spend : SpendView) (now : ℤ) (offer : Option Offer) (approvedStepup : Bool) :
    Except EvalErr Decision :=
  match mandateStateReason mandate now with
  | some reason => .ok (.rejected reason)
  | none =>
    if intent.mandateJti ≠ mandate.jti then .ok (.rejected .invalidProofOfPossession)
    else if mandate.agent.getD "" = "" ∨ intent.agent ≠ mandate.agent then
      .ok (.rejected .invalidProofOfPossession)
    else if G.upper mandate.currency = "" ∨ G.upper intent.currency ≠ G.upper mandate.currency then
      .ok (.rejected .conditionFailed)
    else
      match offerBinding intent offer with
      | .error rejection => .ok rejection
      | .ok (merchantId, category) =>
        if !scopeAllows mandate.scope merchantId category then
          .ok (.rejected (if merchantId ∉ mandate.scope.merchants then .merchantNotAllowed
            else .categoryForbidden))
        else
          match evaluateConditions mandate.conditions (offer.map asOfferMapping)
            ((G.isoformat now).replace "+00:00" "Z") with
          | .error x => .error x
          | .ok false => .ok (.rejected .conditionFailed)
          | .ok true =>
            let limit := limitsDecision mandate.limits intent.amount spend
            if limit.decision = .rejected then .ok limit
            else .ok (risk G mandate.limits intent.amount spend now approvedStepup)

end TryTrust.Policy
