import TryTrust.Decision.Stores

/-!
# The decision service

* `rejected`, `escalated`, `approved`: the three branches of side effects;
* `verify`: the gate, and exactly one branch;
* `expire` (`_expire_and_compensate`) and `resolve` (`resolve_escalation`): the human's answer, the
  gate again, and only then a reservation.

`attempt` is Python's `try`: what follows it is the `except` clause.
-/

namespace TryTrust.DecisionCore

open Conc

/-- What the service takes from elsewhere: the policy gate, which takes the offer and
`approved_stepup` and raises no `TypeError` (so it is never called again with fewer arguments), and
the texts of digests and times. -/
structure Deps where
  evaluate : Mandate → Intent → SpendView → ℤ → Json → Bool → Except Err Decision
  sha256 : Json → String
  isoformat : ℤ → String
  fromisoformat : String → Option ℤ

/-- A pure function that may raise. -/
@[irreducible] def lift {α : Type} : Except Err α → Ds α
  | .ok a => pure a
  | .error x => .raise x

/-- An optional step. -/
def whenever (b : Bool) (p : Ds Unit) : Ds Unit := if b then p else pure ()

section Service

variable (K : Deps)

/-- `_emit`. -/
def emit (site : Site) (type aggregateId : String) (payload : Fields) (now : ℤ) : Ds Unit :=
  port site (.emit ⟨type ++ ":" ++ aggregateId ++ ":" ++ K.sha256 (.obj payload), type, aggregateId,
    payload, now⟩)

/-- An optional text as a value. -/
def jsonText (s : Option String) : Json := (s.map Json.str).getD .null

/-! ## The branches -/

/-- The transaction of `_rejected`. -/
def rejectedBody (intent : Intent) (mandateId purchaseId : String) (decision : Decision)
    (now : ℤ) : Ds Unit := do
  port .rejectedObserve (.incrementIntent mandateId intent.observed now)
  let updated : Bool ← port .rejectedUpdate
    (.updatePurchase purchaseId ⟨.rejected, decision.reasonCode, none, true⟩)
  whenever (!updated) (port .rejectedSave (.createPurchase
    ⟨purchaseId, mandateId, intent, .rejected, decision.reasonCode, none, none⟩))
  emit K .rejectedEmit "purchase.rejected" purchaseId
    [("purchase_id", .str purchaseId), ("intent_jti", .str intent.jti),
      ("reason_code", jsonText (decision.reasonCode.map (·.text)))] now
  whenever (decision.diffAt "auto_suspend").truthy (emit K .rejectedEmitAlert "fraud.alert" mandateId
    [("mandate_id", .str mandateId), ("kind", .str "escalation_flood")] now)

/-- `_rejected`. -/
def rejected (intent : Intent) (mandateId purchaseId : String) (decision : Decision)
    (now : ℤ) : Ds VerificationResult := do
  let body : Except Err Unit ←
    (rejectedBody K intent mandateId purchaseId decision now).attempt
  match body with
  | .ok () => pure ⟨decision, purchaseId, .rejected, none⟩
  | .error _ =>
    let _ : Bool ← port .rejectedRecover
      (.updatePurchase purchaseId ⟨.rejected, some .mandateSuspended, none, true⟩)
    pure (rejectedResult .mandateSuspended purchaseId none)

/-- `create_escalation`. -/
def createEscalation (id purchaseId mandateId : String) (intent : Intent) (offer : Json)
    (decision : Decision) (now : ℤ) : EscalationRecord :=
  let level := decision.level.getD .l3
  let timeoutAt := now + level.ttlSeconds * 1000000
  let ttl := (decision.ttlSeconds.filter (· ≠ 0)).getD level.ttlSeconds
  let diff := (((decision.diff.getD []).set "level" (.str level.text)).set "timeout_at"
    (.str (K.isoformat timeoutAt))).set "ttl_seconds" (.num ttl 0)
  let diff := match decision.reasonCode with
    | some reason => diff.set "reason_code" (.str reason.text)
    | none => diff
  let diff := if decision.requiresUv then diff.set "requires_uv" (.bool true) else diff
  ⟨id, purchaseId, mandateId, intent, offer, .pending, level, diff, now, timeoutAt, none⟩

/-- The cooldown of a decision, if it sets one; a value that is no time raises. -/
def cooldownOf (decision : Decision) : Except Err (Option ℤ) :=
  match decision.diffAt "cooldown_until" with
  | .null => .ok none
  | .str t => match K.fromisoformat t with
    | some t => .ok (some t)
    | none => .error .failure
  | _ => .error .failure

/-- `_observe_escalation`. -/
def observeEscalation (mandateId : String) (decision : Decision) (now : ℤ) : Ds Unit := do
  port .escalatedCount (.incrementEscalation mandateId now)
  match ← lift (cooldownOf K decision) with
  | none => pure ()
  | some t => port .escalatedCooldown (.recordCooldown mandateId t)

/-- The step-up event is sent. -/
def stepupRequired (decision : Decision) : Bool :=
  decision.requiresUv || decision.reasonCode = some .stepupAmountThreshold ||
    decision.reasonCode = some .stepupBudgetUsage

/-- The transaction of `_escalated`. -/
def escalatedBody (e : EscalationRecord) (decision : Decision) (now : ℤ) : Ds Unit := do
  -- the gate has compared the amount with the offer's, so the intent has one
  port .escalatedObserve (.incrementIntent e.mandateId e.intent.amount now)
  observeEscalation K e.mandateId decision now
  port .escalatedSave (.createPurchase ⟨e.purchaseId, e.mandateId, e.intent, .awaitingEscalation,
    decision.reasonCode, none, some e.escalationId⟩)
  port .escalatedSaveEscalation (.createEscalation e)
  emit K .escalatedEmit "purchase.escalated" e.purchaseId
    [("purchase_id", .str e.purchaseId), ("escalation_id", .str e.escalationId),
      ("diff", .obj e.diff)] now
  whenever (stepupRequired decision) (emit K .escalatedEmitStepup "risk.stepup_required"
    e.purchaseId [("purchase_id", .str e.purchaseId), ("level", .str e.level.text),
      ("reason_code", jsonText (decision.reasonCode.map (·.text)))] now)
  whenever (decision.diffAt "cooldown_until").truthy (emit K .escalatedEmitCooldown
    "agent.paused_cooldown" e.mandateId [("mandate_id", .str e.mandateId),
      ("until", decision.diffAt "cooldown_until")] now)

/-- `_escalated`. -/
def escalated (e : EscalationRecord) (decision : Decision) (now : ℤ) : Ds VerificationResult := do
  let body : Except Err Unit ← (escalatedBody K e decision now).attempt
  match body with
  | .ok () => pure ⟨decision, e.purchaseId, .awaitingEscalation, some e.escalationId⟩
  | .error _ =>
    let _ : Bool ← port .escalatedRecoverPurchase
      (.updatePurchase e.purchaseId ⟨.rejected, some .mandateSuspended, none, true⟩)
    port .escalatedRecoverEscalation
      (.updateEscalation e.escalationId .expired ReasonCode.mandateSuspended.text)
    pure (rejectedResult .mandateSuspended e.purchaseId none)

/-- `_reserve`: the key is the purchase id, and the reservation's id is made of it. -/
def reserve (site : Site) (mandate : Mandate) (mandateId : String) (intent : Intent)
    (purchaseId : String) : Ds String := do
  let result : Option String ← port site (.reserve mandateId intent.amount mandate.totalBudget
    mandate.maxTxn ("reservation:" ++ purchaseId) purchaseId)
  match result with
  | some id => pure id
  | none => .raise .reservationRejected

/-- The transaction of `_approved` up to the reservation. -/
def approvedReserve (mandate : Mandate) (mandateId : String) (intent : Intent)
    (purchaseId : String) (now : ℤ) : Ds String := do
  port .approvedObserve (.incrementIntent mandateId intent.observed now)
  reserve .approvedReserve mandate mandateId intent purchaseId

/-- The rest of the transaction of `_approved`. -/
def approvedRecord (mandateId : String) (intent : Intent) (purchaseId reservationId : String)
    (now : ℤ) : Ds Unit := do
  port .approvedSave (.createPurchase
    ⟨purchaseId, mandateId, intent, .pendingCapture, none, some reservationId, none⟩)
  port .approvedOpen (.incrementOpen mandateId)
  emit K .approvedEmit "purchase.verified" purchaseId
    [("purchase_id", .str purchaseId), ("reservation_id", .str reservationId)] now

/-- `_release`, and the slot when something was released. -/
def releaseSlot (releaseSite openSite : Site) (mandateId : String) (intent : Intent)
    (reservationId : String) : Ds Unit := do
  let released : Bool ← port releaseSite (.release mandateId intent.amount reservationId)
  whenever released (port openSite (.decrementOpen mandateId))

/-- `_approved`. -/
def approved (mandate : Mandate) (mandateId : String) (intent : Intent) (purchaseId : String)
    (now : ℤ) : Ds VerificationResult := do
  let reservation : Except Err String ←
    (approvedReserve mandate mandateId intent purchaseId now).attempt
  match reservation with
  | .error .reservationRejected =>
    rejected K intent mandateId purchaseId (.rejected .budgetExceeded) now
  | .error _ => rejected K intent mandateId purchaseId (.rejected .mandateSuspended) now
  | .ok reservationId =>
    let record : Except Err Unit ←
      (approvedRecord K mandateId intent purchaseId reservationId now).attempt
    match record with
    | .ok () => pure ⟨.approved (some reservationId), purchaseId, .pendingCapture, none⟩
    | .error _ =>
      releaseSlot .approvedUndoRelease .approvedUndoOpen mandateId intent reservationId
      rejected K intent mandateId purchaseId (.rejected .mandateSuspended) now

/-! ## `verify` -/

/-- The arguments of `verify`; `escalationId` is what `uuid4` draws for an escalation. -/
structure VerifyRequest where
  intent : Intent
  now : ℤ
  mandate : Option Mandate
  purchaseId : Option String
  escalationId : String

/-- `_purchase_id`. -/
def VerifyRequest.pid (r : VerifyRequest) : String :=
  (r.purchaseId.filter (· ≠ "")).getD ("purchase-" ++ r.intent.jti)

/-- `_result_for_existing_purchase`. -/
def resultForExisting (p : PurchaseRecord) : Ds VerificationResult :=
  match p.status with
  | .pendingCapture => pure ⟨.approved p.reservationId, p.purchaseId, p.status, none⟩
  | .awaitingEscalation => do
    let escalation : Option EscalationRecord ← match p.escalationId with
      | some id => port .existingReadEscalation (.readEscalation id)
      | none => pure none
    let ttl : Option ℕ := match escalation.map fun e => Fields.get e.diff "ttl_seconds" with
      | some (.num n 0) => some n.toNat
      | _ => none
    let uv := (escalation.map fun e => (Fields.get e.diff "requires_uv").truthy).getD false
    pure ⟨⟨.escalated, p.reasonCode, none, escalation.map (·.diff), escalation.map (·.level), ttl,
      uv⟩, p.purchaseId, p.status, p.escalationId⟩
  | _ => pure ⟨.rejected (p.reasonCode.getD .mandateSuspended), p.purchaseId, p.status, none⟩

/-- `_spend` and `_evaluate`. -/
def evaluate (site : Site) (mandate : Mandate) (mandateId : String) (intent : Intent) (now : ℤ)
    (offer : Json) (approvedStepup : Bool) : Ds Decision := do
  let spend : SpendView ← port site (.spendView mandateId mandate now)
  lift (K.evaluate mandate intent spend now offer approvedStepup)

/-- The mandate given, or the one that the reader has. -/
def loadMandate (r : VerifyRequest) : Ds (Option Mandate) :=
  match r.mandate with
  | some m => pure (some m)
  | none => port .verifyReadMandate (.readMandate r.intent.mandateJti)

/-- One branch for the gate's decision. -/
def branch (r : VerifyRequest) (mandate : Mandate) (offer : Json) (decision : Decision) :
    Ds VerificationResult :=
  match decision.decision with
  | .rejected => rejected K r.intent mandate.id r.pid decision r.now
  | .escalated => escalated K (createEscalation K r.escalationId r.pid mandate.id r.intent offer
      decision r.now) decision r.now
  | .approved => approved K mandate mandate.id r.intent r.pid r.now

/-- The part of `verify` for an intent without a purchase. -/
def decide (r : VerifyRequest) : Ds VerificationResult := do
  match ← loadMandate r with
  | none => rejected K r.intent r.intent.mandateJti r.pid (.rejected .mandateSuspended) r.now
  | some mandate =>
    let offer : Option Json ← port .verifyReadOffer (.readOffer r.intent.offerId)
    match offer with
    | none => rejected K r.intent mandate.id r.pid (.rejected .conditionFailed) r.now
    | some offer =>
      let decision : Except Err Decision ←
        (evaluate K .verifySpend mandate mandate.id r.intent r.now offer false).attempt
      match decision with
      | .error _ => rejected K r.intent mandate.id r.pid (.rejected .mandateSuspended) r.now
      | .ok decision => branch K r mandate offer decision

/-- `finish`: keep the answer for a claim that the caller owns. -/
def finish (r : VerifyRequest) (claim : Claim) (result : VerificationResult) :
    Ds VerificationResult :=
  match claim with
  | .owned => do
    let saved : Except Err Unit ←
      (port .finishSave (.saveResponse r.intent result r.now)).attempt
    match saved with
    | .ok () => pure result
    | .error _ => pure (rejectedResult .mandateSuspended result.purchaseId result.escalationId)
  | _ => pure result

/-- `verify`. -/
def verify (r : VerifyRequest) : Ds VerificationResult := do
  let claim : Except Err Claim ←
    (port .verifyClaim (.claimIdempotency r.intent r.now)).attempt
  match claim with
  | .error .idempotencyConflict => .raise .idempotencyConflict
  | .error _ => pure (rejectedResult .mandateSuspended r.pid none)
  | .ok (.replay result) => pure result
  | .ok .busy => pure (rejectedResult .railError r.pid none)
  | .ok claim =>
    let existing : Option PurchaseRecord ←
      port .verifyReadPurchase (.readPurchaseByIntent r.intent.jti)
    let result ← match existing with
      | some p => resultForExisting p
      | none => decide K r
    finish r claim result

/-! ## `resolve_escalation` -/

/-- The result of an expired escalation. -/
def compensatedResult (reason : ReasonCode) (record : EscalationRecord) : VerificationResult :=
  ⟨.rejected reason, record.purchaseId, .compensated, some record.escalationId⟩

/-- The `except` clause of `_expire_and_compensate`. -/
def expireRecover (record : EscalationRecord) (releaseId : Option String) (released : Bool) :
    Ds VerificationResult :=
  match releaseId, released with
  | some id, false => do
    let _ ← (releaseSlot .expireUndoRelease .expireUndoOpen record.mandateId record.intent id).attempt
    pure (compensatedResult .mandateSuspended record)
  | _, _ => pure (compensatedResult .mandateSuspended record)

/-- The transaction of `_expire_and_compensate` after the release. -/
def expireRecord (record : EscalationRecord) (reason : ReasonCode) (releaseId : Option String)
    (released : Bool) (now : ℤ) : Ds Unit := do
  whenever released (port .expireReleaseOpen (.decrementOpen record.mandateId))
  port .expireUpdateEscalation (.updateEscalation record.escalationId .expired reason.text)
  let _ : Bool ← port .expireUpdatePurchase (.updatePurchase record.purchaseId
    ⟨.compensated, some reason, if released then none else releaseId, false⟩)
  emit K .expireEmit "escalation.expired" record.escalationId
    [("escalation_id", .str record.escalationId), ("purchase_id", .str record.purchaseId)] now

/-- The release of `_expire_and_compensate`, if there is something to release. -/
def expireRelease (record : EscalationRecord) (releaseId : Option String) : Ds Bool :=
  match releaseId with
  | some id => port .expireRelease (.release record.mandateId record.intent.amount id)
  | none => pure false

/-- `_expire_and_compensate`. -/
def expire (record : EscalationRecord) (reason : ReasonCode) (reservationId : Option String)
    (now : ℤ) : Ds VerificationResult := do
  let purchase : Except Err (Option PurchaseRecord) ←
    (port .expireReadPurchase (.readPurchase record.purchaseId)).attempt
  match purchase with
  | .error _ => expireRecover record reservationId false
  | .ok purchase =>
    let releaseId := (purchase.bind fun p => p.reservationId.filter (· ≠ "")) <|> reservationId
    let released : Except Err Bool ← (expireRelease record releaseId).attempt
    match released with
    | .error _ => expireRecover record releaseId false
    | .ok released =>
      let body : Except Err Unit ← (expireRecord K record reason releaseId released now).attempt
      match body with
      | .error _ => expireRecover record releaseId released
      | .ok () => pure (compensatedResult reason record)

/-- What the human answers. -/
inductive Approval where
  | bool (b : Bool)
  | text (s : String)
  deriving DecidableEq, Repr

/-- `approval is not False and str(approval).upper() == "APPROVE"`. -/
def Approval.approves : Approval → Bool
  | bool _ => false
  | text s => String.ofList (s.toList.map Char.toUpper) = "APPROVE"

/-- The arguments of `resolve_escalation`. -/
structure ResolveRequest where
  escalationId : String
  approval : Approval
  now : ℤ

/-- `resolve_envelope`, and the domain's `resolve_escalation` under it: a pending escalation, in
time, an approval, and at level L3+ a verified user. -/
def resolveEnvelope (record : EscalationRecord) (r : ResolveRequest) : Ds Decision :=
  if record.status ≠ .pending ∨ r.now ≥ record.timeoutAt then
    pure (.rejected .escalationTimeoutDenied)
  else if record.timeoutAt ≤ record.createdAt then .raise .failure
  else if !r.approval.approves then pure (.rejected .escalationTimeoutDenied)
  else
    match record.level with
    | .l3 => pure (.approved none)
    | .l3Plus => do
      let verified : Except Err Bool ← (port .resolveVerifyUser
        (.verifyUser (K.sha256 (.obj record.diff)) ((record.timeoutAt - record.createdAt) / 1000000))
        ).attempt
      match verified with
      | .ok true => pure (.approved none)
      | _ => pure (.rejected .escalationTimeoutDenied)

/-- The transaction of `resolve_escalation` after the reservation. -/
def resolveRecord (record : EscalationRecord) (reservationId : String) (r : ResolveRequest) :
    Ds Unit := do
  port .resolveUpdateEscalation (.updateEscalation r.escalationId .resolved "APPROVE")
  let _ : Bool ← port .resolveUpdatePurchase
    (.updatePurchase record.purchaseId ⟨.pendingCapture, none, some reservationId, false⟩)
  port .resolveOpen (.incrementOpen record.mandateId)
  emit K .resolveEmit "escalation.resolved" r.escalationId
    [("escalation_id", .str r.escalationId), ("decision", .str "APPROVE")] r.now
  emit K .resolveEmitPurchase "purchase.verified" record.purchaseId
    [("purchase_id", .str record.purchaseId), ("reservation_id", .str reservationId)] r.now

/-- Reserve, and record the approval. -/
def resolveReserve (record : EscalationRecord) (mandate : Mandate) (r : ResolveRequest) :
    Ds VerificationResult := do
  let reservation : Except Err String ← (reserve .resolveReserve mandate record.mandateId
    record.intent record.purchaseId).attempt
  match reservation with
  | .error _ => expire K record .mandateSuspended none r.now
  | .ok reservationId =>
    let body : Except Err Unit ← (resolveRecord K record reservationId r).attempt
    match body with
    | .error _ => expire K record .mandateSuspended (some reservationId) r.now
    | .ok () => pure ⟨.approved (some reservationId), record.purchaseId, .pendingCapture,
        some r.escalationId⟩

/-- The mandate of an escalation, by its id or by its intent. -/
def reloadMandate (record : EscalationRecord) : Ds (Option Mandate) := do
  let mandate : Option Mandate ← port .resolveReadMandate (.readMandate record.mandateId)
  match mandate with
  | some m => pure (some m)
  | none => port .resolveReadMandateOfIntent (.readMandate record.intent.mandateJti)

/-- The gate again, on the state of now. -/
def regate (record : EscalationRecord) (r : ResolveRequest) : Ds VerificationResult := do
  match ← reloadMandate record with
  | none => expire K record .mandateSuspended none r.now
  | some mandate =>
    let offer : Option Json ← port .resolveReadOffer (.readOffer record.intent.offerId)
    match offer with
    | none => expire K record .conditionFailed none r.now
    | some offer =>
      let decision : Except Err Decision ← (evaluate K .resolveSpend mandate record.mandateId
        record.intent r.now offer true).attempt
      match decision with
      | .error _ => expire K record .mandateSuspended none r.now
      | .ok decision =>
        if decision.decision ≠ .approved then
          expire K record (decision.reasonCode.getD .escalationTimeoutDenied) none r.now
        else resolveReserve K record mandate r

/-- `resolve_escalation` for a pending escalation. -/
def resolvePending (record : EscalationRecord) (r : ResolveRequest) : Ds VerificationResult :=
  if r.now ≥ record.timeoutAt then expire K record .escalationTimeoutDenied none r.now
  else do
    let envelope ← resolveEnvelope K record r
    if envelope.decision = .rejected then expire K record .escalationTimeoutDenied none r.now
    else regate K record r

/-- `resolve_escalation` for an escalation that was resolved or expired. -/
def resolveSettled (record : EscalationRecord) (r : ResolveRequest) :
    Ds VerificationResult := do
  let existing : Option PurchaseRecord ←
    port .resolveReadPurchase (.readPurchase record.purchaseId)
  match existing with
  | some p => resultForExisting p
  | none => pure (rejectedResult .escalationTimeoutDenied record.purchaseId (some r.escalationId))

/-- `resolve_escalation`. -/
def resolve (r : ResolveRequest) : Ds VerificationResult := do
  let record : Option EscalationRecord ←
    port .resolveReadEscalation (.readEscalation r.escalationId)
  match record with
  | none => pure (rejectedResult .escalationTimeoutDenied ("purchase-" ++ r.escalationId)
      (some r.escalationId))
  | some record =>
    if record.status ≠ .pending then resolveSettled record r
    else resolvePending K record r

end Service

end TryTrust.DecisionCore
