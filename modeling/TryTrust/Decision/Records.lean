import TryTrust.Json

/-!
# Records of the decision service

* `ReasonCode`, `Level`, `Decision`: what the policy gate answers;
* `Intent`, `Mandate`, `SpendView`: what it is asked about;
* `PurchaseRecord`, `EscalationRecord`: what the service stores; `VerificationResult`: what its
  calls return.

Amounts are cents: the stores accept non-negative amounts of two decimals only. Times are
microseconds.
-/

namespace TryTrust.DecisionCore

/-! ## Decisions -/

/-- The frozen reason codes. -/
inductive ReasonCode where
  | amountExceedsPerTxn
  | budgetExceeded
  | limitExhausted
  | categoryForbidden
  | merchantNotAllowed
  | mandateExpired
  | mandateNotYetValid
  | mandateRevoked
  | mandateSuspended
  | mandateExhausted
  | conditionFailed
  | invalidSignature
  | invalidProofOfPossession
  | duplicateJti
  | nonceReused
  | escalationTimeoutDenied
  | railError
  | railTokenDeleted
  | velocityBurst
  | stepupAmountThreshold
  | stepupBudgetUsage
  | priceMismatchAutoRefund
  | webhookInvalid
  deriving DecidableEq, Repr

/-- The text of a reason code. -/
def ReasonCode.text : ReasonCode → String
  | amountExceedsPerTxn => "AMOUNT_EXCEEDS_PER_TXN"
  | budgetExceeded => "BUDGET_EXCEEDED"
  | limitExhausted => "LIMIT_EXHAUSTED"
  | categoryForbidden => "CATEGORY_FORBIDDEN"
  | merchantNotAllowed => "MERCHANT_NOT_ALLOWED"
  | mandateExpired => "MANDATE_EXPIRED"
  | mandateNotYetValid => "MANDATE_NOT_YET_VALID"
  | mandateRevoked => "MANDATE_REVOKED"
  | mandateSuspended => "MANDATE_SUSPENDED"
  | mandateExhausted => "MANDATE_EXHAUSTED"
  | conditionFailed => "CONDITION_FAILED"
  | invalidSignature => "INVALID_SIGNATURE"
  | invalidProofOfPossession => "INVALID_PROOF_OF_POSSESSION"
  | duplicateJti => "DUPLICATE_JTI"
  | nonceReused => "NONCE_REUSED"
  | escalationTimeoutDenied => "ESCALATION_TIMEOUT_DENIED"
  | railError => "RAIL_ERROR"
  | railTokenDeleted => "RAIL_TOKEN_DELETED"
  | velocityBurst => "VELOCITY_BURST"
  | stepupAmountThreshold => "STEPUP_AMOUNT_THRESHOLD"
  | stepupBudgetUsage => "STEPUP_BUDGET_USAGE"
  | priceMismatchAutoRefund => "PRICE_MISMATCH_AUTO_REFUND"
  | webhookInvalid => "WEBHOOK_INVALID"

/-- `EscalationLevel`. -/
inductive Level where
  | l3
  | l3Plus
  deriving DecidableEq, Repr

/-- The text of a level. -/
def Level.text : Level → String
  | l3 => "L3"
  | l3Plus => "L3+"

/-- The seconds that a human has at a level. -/
def Level.ttlSeconds : Level → ℕ
  | l3 => 120
  | l3Plus => 300

/-- `DecisionValue`. -/
inductive DecisionValue where
  | approved
  | rejected
  | escalated
  deriving DecidableEq, Repr

/-- A decision of the gate, or one that the service makes itself. -/
structure Decision where
  decision : DecisionValue
  reasonCode : Option ReasonCode
  reservationId : Option String
  diff : Option Fields
  level : Option Level
  ttlSeconds : Option ℕ
  requiresUv : Bool

namespace Decision

/-- `Decision(REJECTED, reason)`. -/
def rejected (reason : ReasonCode) : Decision :=
  ⟨.rejected, some reason, none, none, none, none, false⟩

/-- `Decision(APPROVED, reservation_id=…)`. -/
def approved (reservationId : Option String) : Decision :=
  ⟨.approved, none, reservationId, none, none, none, false⟩

/-- `decision.diff.get(key)`, of a missing diff too. -/
def diffAt (d : Decision) (key : String) : Json := (d.diff.getD []).get key

end Decision

/-! ## What is decided -/

/-- A purchase intent; `amount` is `none` when it is not an amount of two decimals, on which the
stores raise. `body` is the intent as it came, which the gate reads. -/
structure Intent where
  jti : String
  mandateJti : String
  offerId : String
  amount : Option ℕ
  body : Json

/-- `_value(intent, "amount", "0.00")`: what the velocity store is told. A dictionary without an
amount counts as an amount of zero. -/
def Intent.observed (i : Intent) : Option ℕ :=
  match i.amount, i.body with
  | some a, _ => some a
  | none, .obj fields => if (fields.lookup "amount").isNone then some 0 else none
  | none, _ => none

theorem Intent.observed_of_amount {i : Intent} {a : ℕ} (h : i.amount = some a) :
    i.observed = some a := by
  unfold observed
  rw [h]

theorem Intent.amount_of_observed {i : Intent} (h : i.observed = none) : i.amount = none := by
  cases ha : i.amount with
  | none => rfl
  | some a =>
    rw [observed_of_amount ha] at h
    cases h

/-- A mandate projection; `terms` is the rest of it, which only the gate reads. -/
structure Mandate where
  id : String
  status : String
  spentTotal : ℕ
  reservedTotal : ℕ
  txnCountPeriod : ℕ
  totalBudget : Option ℕ
  maxTxn : Option ℕ
  terms : Json

/-- The counters that the gate reads. -/
structure SpendView where
  spentTotal : ℕ
  reservedTotal : ℕ
  txnCountPeriod : ℕ
  mandateStatus : String
  intentsLast60s : ℕ
  escalationsLastHour : ℕ
  openAuthorizations : ℕ
  cooldownUntil : Option ℤ

/-! ## What is stored -/

/-- The states of a purchase. -/
inductive PurchaseStatus where
  | rejected
  | pendingCapture
  | awaitingEscalation
  | compensated
  deriving DecidableEq, Repr

/-- The text of a purchase's state. -/
def PurchaseStatus.text : PurchaseStatus → String
  | rejected => "rejected"
  | pendingCapture => "pending_capture"
  | awaitingEscalation => "awaiting_escalation"
  | compensated => "compensated"

/-- A stored purchase. Of its intent the service stores the id only; the rest is kept here to speak
of the amount. -/
structure PurchaseRecord where
  purchaseId : String
  mandateId : String
  intent : Intent
  status : PurchaseStatus
  reasonCode : Option ReasonCode
  reservationId : Option String
  escalationId : Option String

/-- `intent_jti`. -/
def PurchaseRecord.intentJti (p : PurchaseRecord) : String := p.intent.jti

/-- The states of an escalation. -/
inductive EscalationStatus where
  | pending
  | resolved
  | expired
  deriving DecidableEq, Repr

/-- A stored escalation. -/
structure EscalationRecord where
  escalationId : String
  purchaseId : String
  mandateId : String
  intent : Intent
  offer : Json
  status : EscalationStatus
  level : Level
  diff : Fields
  createdAt : ℤ
  timeoutAt : ℤ
  decision : Option String

/-- An outbox event; its id is made of the type, the aggregate and a digest of the payload. -/
structure OutboxEvent where
  eventId : String
  type : String
  aggregateId : String
  payload : Fields
  createdAt : ℤ

/-- What `verify` and `resolve_escalation` return. -/
structure VerificationResult where
  decision : Decision
  purchaseId : String
  status : PurchaseStatus
  escalationId : Option String

/-- A rejection by the service itself. -/
def rejectedResult (reason : ReasonCode) (purchaseId : String) (escalationId : Option String) :
    VerificationResult :=
  ⟨.rejected reason, purchaseId, .rejected, escalationId⟩

end TryTrust.DecisionCore
