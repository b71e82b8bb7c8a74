import TryTrust.Decision.Balance
import TryTrust.Decision.Calls
import TryTrust.Decision.Idempotency

/-!
# The verify route of the API

`POST /mandates/{id}/verify` and `POST /purchases/verify`: an intent from a body of several shapes,
and `verify` behind an idempotency claim.

* `extractIntent`, `amountDecimal`, `intentOf`; `purchaseId`;
* `asDict`, `ofDict`: an answer as it is kept, and read back; `formatResult`, the response;
* `Setting`, `Posted`, `Shared`, `claimPort`, `savePort`, `sem`: the ports, with the idempotency
  store; `post`, a request;
* `Work`, `routeSystem`, `routeStart`; `OwnJti`, `InTime`; `Idempotent`, of all requests together;
* `Sound`: claims are refused, or nobody has claimed, or a record has one owner at most;
* **`posts_agree`**: of one body whose intent has a `jti` of its own, in every interleaving, budget
  is reserved at most once and all completed responses are the same; **`posts_differ`**: without it.
-/

namespace TryTrust.Api.Verify

open Conc DecisionCore
open Idempotency (Hashing ClaimRequest deriveIdempotencyKey claimIdempotency)

/-! ## The intent of a body -/

/-- The claims of an `intent_jwt`, not verified; `decode` is `json.loads` of a padded base64 text. -/
def jwtClaims (decode : String → Option Json) (token : String) : Option Fields :=
  match token.splitOn "." with
  | _ :: payload :: _ =>
    if payload = "" then none
    else
      let padding := String.ofList (List.replicate ((4 - payload.length % 4) % 4) '=')
      match decode (payload ++ padding) with
      | some (.obj claims) => some claims
      | _ => none
  | _ => none

/-- The intent that a body carries, or the body itself. -/
def carriedIntent (decode : String → Option Json) (body : Fields) : Fields :=
  match body.lookup "intent" with
  | some (.obj intent) => intent
  | _ =>
    let decoded : Option Fields := match body.lookup "intent_jwt" with
      | some (.str token) => jwtClaims decode token
      | _ => none
    decoded.getD (body.filter fun e => e.1 ≠ "idempotency_key" && e.1 ≠ "agent_id")

/-- The intent under the mandate of the path. -/
def underMandate (fallback : Option String) (intent : Fields) : Fields :=
  match fallback.filter (· ≠ "") with
  | some mandateId =>
    if (intent.get "mandate_jti").truthy then intent else intent.set "mandate_jti" (.str mandateId)
  | none => intent

/-- `_extract_intent`; `uid` is what `uuid4` draws for an intent without a `jti`. -/
def extractIntent (decode : String → Option Json) (body : Fields) (fallback : Option String)
    (uid : String) : Fields :=
  let intent := underMandate fallback (carriedIntent decode body)
  if (intent.get "jti").truthy then intent
  else intent.set "jti" (.str ("intent-" ++ (fallback.filter (· ≠ "")).getD "anon" ++ "-" ++ uid))

/-- The digits of a whole part, without a leading zero. -/
def wholeDigits (cs : List Char) : Bool :=
  cs = ['0'] || (cs.all Char.isDigit && cs.head? != some '0' && !cs.isEmpty)

/-- An amount text `12.34`, in cents. -/
def centsOfText (text : String) : Option ℕ :=
  match text.splitOn "." with
  | [whole, fraction] =>
    if wholeDigits whole.toList ∧ fraction.toList.length = 2 ∧ fraction.toList.all Char.isDigit then
      (whole.toNat?).bind fun w => (fraction.toNat?).map fun f => 100 * w + f
    else none
  | _ => none

/-- `amount_decimal`, in cents: a text of two decimals or a whole number, not negative, of at most
28 digits. -/
def amountDecimal : Json → Option ℕ
  | .str text => (centsOfText text).filter (· < 10 ^ 28)
  | .num n 0 => if 0 ≤ n then some (100 * n.toNat) |>.filter (· < 10 ^ 28) else none
  | _ => none

/-- `str(intent.get(name, default))`. -/
def textAt (intent : Fields) (name default : String) : String :=
  (intent.getD name (.str default)).text

/-- What the service reads of an intent. -/
def intentOf (intent : Fields) : Intent where
  jti := textAt intent "jti" "unknown-intent"
  mandateJti := textAt intent "mandate_jti" ""
  offerId := textAt intent "offer_id" ""
  amount := amountDecimal (intent.get "amount")
  body := .obj intent

/-- `body.get("purchase_id") or f"purchase-{jti}"`. -/
def purchaseId (body : Fields) (intent : Intent) : String :=
  if (body.get "purchase_id").truthy then (body.get "purchase_id").text
  else "purchase-" ++ intent.jti

/-! ## Answers that are kept -/

/-- The text of a decision. -/
def decisionText : DecisionValue → String
  | .approved => "APPROVED"
  | .rejected => "REJECTED"
  | .escalated => "ESCALATED"

/-- A count, or nothing. -/
def jsonCount : Option ℕ → Json
  | some n => .num n 0
  | none => .null

/-- `result.as_dict()`. -/
def asDict (result : VerificationResult) : Fields :=
  [("decision", .str (decisionText result.decision.decision)),
    ("reason_code", jsonText (result.decision.reasonCode.map (·.text))),
    ("reservation_id", jsonText result.decision.reservationId),
    ("purchase_id", .str result.purchaseId), ("status", .str result.status.text),
    ("escalation_id", jsonText result.escalationId),
    ("diff", .obj (result.decision.diff.getD [])),
    ("level", jsonText (result.decision.level.map (·.text))),
    ("ttl_seconds", jsonCount result.decision.ttlSeconds),
    ("requires_uv", .bool result.decision.requiresUv)]

/-- `DecisionValue(text)`. -/
def decisionOfText (text : String) : Option DecisionValue :=
  [.approved, .rejected, .escalated].find? fun d => decisionText d = text

/-- `ReasonCode(text)`. -/
def reasonOfText (text : String) : Option ReasonCode :=
  [.amountExceedsPerTxn, .budgetExceeded, .limitExhausted, .categoryForbidden, .merchantNotAllowed,
    .mandateExpired, .mandateNotYetValid, .mandateRevoked, .mandateSuspended, .mandateExhausted,
    .conditionFailed, .invalidSignature, .invalidProofOfPossession, .duplicateJti, .nonceReused,
    .escalationTimeoutDenied, .railError, .railTokenDeleted, .velocityBurst, .stepupAmountThreshold,
    .stepupBudgetUsage, .priceMismatchAutoRefund, .webhookInvalid].find? fun r => r.text = text

/-- `_as_level`. -/
def levelOfText (text : String) : Option Level :=
  if text ∈ ["L3+", "L3_PLUS", "l3+", "l3_plus"] then some .l3Plus
  else [.l3, .l3Plus].find? fun l => l.text = text

/-- The state of a purchase, of a text that `as_dict` wrote. -/
def statusOfText (text : String) : PurchaseStatus :=
  ([.rejected, .pendingCapture, .awaitingEscalation, .compensated].find?
    fun s : PurchaseStatus => s.text = text).getD .rejected

/-- A value that is a text of an enumeration, or nothing; `none` is the exception. -/
def optionalText {α : Type} (read : String → Option α) : Json → Option (Option α)
  | .null => some none
  | .str text => (read text).map some
  | _ => none

/-- A value that is a count, or nothing. -/
def optionalCount : Json → Option (Option ℕ)
  | .null => some none
  | .num n 0 => if n < 0 then none else some (some n.toNat)
  | _ => none

/-- A text, or nothing. -/
def textOrNone : Json → Option String
  | .str text => some text
  | _ => none

/-- A dictionary, or nothing. -/
def fieldsOrNone : Json → Option Fields
  | .obj fields => some fields
  | _ => none

/-- The decision of a kept answer; `none` when its constructor raises. -/
def decisionOf (response : Fields) : Option Decision := do
  let decision ← (textOrNone (response.getD "decision" (.str "REJECTED"))).bind decisionOfText
  let reason ← optionalText reasonOfText (response.get "reason_code")
  let level ← optionalText levelOfText (response.get "level")
  let ttl ← optionalCount (response.get "ttl_seconds")
  some ⟨decision, reason, textOrNone (response.get "reservation_id"),
    fieldsOrNone (response.get "diff"), level, ttl, (response.get "requires_uv").truthy⟩

/-- `_result_from_idempotency`. -/
def ofDict (response : Fields) (fallbackPurchaseId : String) : VerificationResult :=
  ⟨(decisionOf response).getD (.rejected .mandateSuspended),
    (response.getD "purchase_id" (.str fallbackPurchaseId)).text,
    statusOfText (response.getD "status" (.str "rejected")).text,
    textOrNone (response.get "escalation_id")⟩

/-- `_format_verification_result`: the body of a response. -/
def formatResult (result : VerificationResult) : Fields :=
  [("decision", .str (decisionText result.decision.decision)),
    ("reason_code", jsonText (result.decision.reasonCode.map (·.text))),
    ("reservation_id", jsonText result.decision.reservationId),
    ("expires_in", .num ((result.decision.ttlSeconds.filter (· ≠ 0)).getD 120) 0),
    ("diff", if result.decision.diff.getD [] = [] then .null
      else .obj (result.decision.diff.getD [])),
    ("purchase_id", .str result.purchaseId), ("status", .str result.status.text),
    ("escalation_id", jsonText result.escalationId),
    ("requires_uv", .bool result.decision.requiresUv),
    ("level", jsonText (result.decision.level.map (·.text)))]

theorem decisionOfText_text (d : DecisionValue) : decisionOfText (decisionText d) = some d := by
  cases d <;> rfl

theorem reasonOfText_text (r : ReasonCode) : reasonOfText r.text = some r := by
  cases r <;> rfl

theorem levelOfText_text (l : Level) : levelOfText l.text = some l := by
  cases l <;> rfl

theorem statusOfText_text (s : PurchaseStatus) : statusOfText s.text = s := by
  cases s <;> rfl

theorem optionalText_text {α : Type} {read : String → Option α} {text : α → String}
    (h : ∀ a, read (text a) = some a) (x : Option α) :
    optionalText read (jsonText (x.map text)) = some x := by
  cases x with
  | none => rfl
  | some a =>
    show (read (text a)).map some = _
    rw [h]
    rfl

theorem optionalCount_count (n : Option ℕ) : optionalCount (jsonCount n) = some n := by
  cases n with
  | none => rfl
  | some n => simp [jsonCount, optionalCount]

theorem textOrNone_text (x : Option String) : textOrNone (jsonText x) = x := by
  cases x <;> rfl

/-- **A kept answer is read back**, with an empty `diff` where there was none. -/
theorem ofDict_asDict (result : VerificationResult) (fallbackPurchaseId : String) :
    ofDict (asDict result) fallbackPurchaseId =
      { result with decision :=
          { result.decision with diff := some (result.decision.diff.getD []) } } := by
  have hdecision : decisionOf (asDict result) =
      some { result.decision with diff := some (result.decision.diff.getD []) } := by
    unfold decisionOf
    show ((decisionOfText (decisionText result.decision.decision)).bind fun _ => _) = _
    rw [decisionOfText_text]
    show ((optionalText reasonOfText (jsonText (result.decision.reasonCode.map (·.text)))).bind
      fun _ => _) = _
    rw [optionalText_text reasonOfText_text]
    show ((optionalText levelOfText (jsonText (result.decision.level.map (·.text)))).bind
      fun _ => _) = _
    rw [optionalText_text levelOfText_text]
    show ((optionalCount (jsonCount result.decision.ttlSeconds)).bind fun _ => _) = _
    rw [optionalCount_count]
    show some (Decision.mk _ _ (textOrNone (jsonText result.decision.reservationId)) _ _ _ _) = _
    rw [textOrNone_text]
    rfl
  unfold ofDict
  rw [hdecision]
  show VerificationResult.mk _ result.purchaseId (statusOfText result.status.text)
    (textOrNone (jsonText result.escalationId)) = _
  rw [statusOfText_text, textOrNone_text]
  rfl

/-- The response of an answer that was kept and read back is the response of the answer. -/
theorem formatResult_ofDict (result : VerificationResult) (fallbackPurchaseId : String) :
    formatResult (ofDict (asDict result) fallbackPurchaseId) = formatResult result := by
  rw [ofDict_asDict]
  rfl

/-! ## The ports -/

/-- What the route is set up with: the hashes and the secret of the idempotency store, the
service's own secret and scope, what it takes from elsewhere, and the decoder of an `intent_jwt`. -/
structure Setting where
  hashing : Hashing
  storeSecret : String
  secret : String
  scope : String
  deps : Deps
  decode : String → Option Json

/-- A posted body, and the mandate of the path; `purchase_id` is a text where it is given. -/
structure Posted where
  body : Fields
  fallback : Option String
  named : (body.get "purchase_id").truthy → ∃ text, body.get "purchase_id" = .str text

/-- What is drawn for one request: `uuid4` twice, and the time. -/
structure Draw where
  uid : String
  escalationId : String
  now : ℤ

/-- What all requests share. -/
structure Shared where
  stores : Stores
  idempotency : Idempotency.Store

/-- What the environment decides about a step: which port calls raise, the wall clock, and the
token that a claim draws. -/
structure RouteEnv where
  base : Env
  wall : ℤ
  token : String

section Route

variable (X : Setting) (p : Posted)

/-- The intent of a request. -/
def Posted.intent (uid : String) : Intent := intentOf (extractIntent X.decode p.body p.fallback uid)

/-- The request of a claim: the body when it has an `idempotency_key`, else the intent. -/
def Posted.claimRequest (intent : Intent) (token : String) : ClaimRequest :=
  ⟨intent.jti, X.secret, X.scope,
    if (p.body.get "idempotency_key").truthy then .obj p.body else intent.body, token⟩

/-- The arguments of `verify`. -/
def Posted.request (d : Draw) : VerifyRequest :=
  ⟨p.intent X d.uid, d.now, none, some (purchaseId p.body (p.intent X d.uid)), d.escalationId⟩

/-- The purchase of an intent. -/
def Posted.pid (intent : Intent) : String :=
  VerifyRequest.pid ⟨intent, 0, none, some (purchaseId p.body intent), ""⟩

/-- The exception of a claim. -/
def portErr : Idempotency.Err → Err
  | .conflict _ => .idempotencyConflict
  | _ => .failure

/-- `_claim_idempotency`, and what `verify` makes of the record. -/
def claimPort (e : RouteEnv) (intent : Intent) (now : ℤ) (T : Idempotency.Store) :
    Except Err Claim × Idempotency.Store :=
  if intent.jti = "" ∨ intent.jti = "unknown-intent" then (.ok .unclaimed, T)
  else
    match claimIdempotency X.hashing X.storeSecret T (p.claimRequest X intent e.token) now
      e.wall with
    | (.error x, T) => (.error (portErr x), T)
    | (.ok claim, T) =>
      match claim.record.response with
      | some response => (.ok (.replay (ofDict response (p.pid intent))), T)
      | none => (.ok (if claim.ownsClaim then .owned else .busy), T)

/-- `_save_idempotency` of a claim that is owned. -/
def savePort (intent : Intent) (result : VerificationResult) (now : ℤ) (T : Idempotency.Store) :
    Except Err Unit × Idempotency.Store :=
  match deriveIdempotencyKey X.hashing intent.jti X.secret with
  | .error _ => (.error .failure, T)
  | .ok key =>
    match Idempotency.saveResponse T key (asDict result) now with
    | (.error _, T) => (.error .failure, T)
    | (.ok _, T) => (.ok (), T)

/-- **One port call** of a request. A claim raises only by itself. -/
def sem (e : RouteEnv) : (c : Call) → Shared → Except Err (Res c) × Shared
  | ⟨_, .claimIdempotency intent now⟩, s =>
    ((claimPort X p e intent now s.idempotency).1,
      { s with idempotency := (claimPort X p e intent now s.idempotency).2 })
  | ⟨site, .saveResponse intent result now⟩, s =>
    if e.base.fails site then (.error .failure, s)
    else ((savePort X intent result now s.idempotency).1,
      { s with idempotency := (savePort X intent result now s.idempotency).2 })
  | c, s => ((DecisionCore.sem e.base c s.stores).1,
      { s with stores := (DecisionCore.sem e.base c s.stores).2 })

/-- **A request**: the body of its response; an exception is an HTTP error. -/
def post (d : Draw) : Ds Fields := do
  let result ← verify X.deps (p.request X d)
  pure (formatResult result)

/-! ## Requests together -/

/-- What a request was told by its claim. -/
inductive Standing where
  | owner
  | busy
  | unclaimed
  | refused (x : Err)
  | replayed (result : VerificationResult)

/-- The answer of a claim. -/
def Standing.of : Except Err Claim → Standing
  | .ok .owned => .owner
  | .ok .busy => .busy
  | .ok .unclaimed => .unclaimed
  | .ok (.replay result) => .replayed result
  | .error x => .refused x

/-- The history of a request: the answer of its claim, the answer that it kept, the reservations
that it was granted; and whether it came to own a key that had a record. -/
structure Work where
  standing : Option Standing := none
  saved : Option Fields := none
  reserves : ℕ := 0
  again : Bool := false

/-- The record of an intent. -/
def recordOf (T : Idempotency.Store) (intent : Intent) : Option Idempotency.Record :=
  match deriveIdempotencyKey X.hashing intent.jti X.secret with
  | .error _ => none
  | .ok key => T.get key

/-- The answer is that the caller owns its claim. -/
def owned : Except Err Claim → Bool
  | .ok .owned => true
  | _ => false

/-- The history after a port call. -/
def advance (γ : Work) (s : Shared) : (op : Op) → Except Err op.Answer → Work
  | .claimIdempotency intent _, answer =>
    { γ with standing := some (.of answer)
             again := γ.again || (owned answer && (recordOf X s.idempotency intent).isSome) }
  | .saveResponse _ result _, .ok _ => { γ with saved := some (asDict result) }
  | .reserve _ _ _ _ _ _, .ok (some _) => { γ with reserves := γ.reserves + 1 }
  | _, _ => γ

/-- **The system of requests** of one body. -/
def routeSystem {ι : Type} : System ι Call Res Err Shared Work RouteEnv where
  sem := sem X p
  adv := fun _ γ s c answer => advance X γ s c.op answer

/-- Every request at its start. -/
def routeStart {ι : Type} (draw : ι → Draw) (s : Shared) :
    Config ι Call Res Err Fields Shared Work :=
  ⟨s, fun i => post X p (draw i), fun _ => {}⟩

/-- The intent of a claim. -/
def claimed : Op → Option Intent
  | .claimIdempotency intent _ => some intent
  | _ => none

/-- **In time**: a record that a claim finds has not expired, and carries another token. -/
def InTime {ι : Type} (c : Config ι Call Res Err Fields Shared Work) (i : ι) (e : RouteEnv) :
    Prop :=
  ∀ call ∈ (c.prog i).next, ∀ intent ∈ claimed call.op,
    ∀ r ∈ recordOf X c.shared.idempotency intent, e.wall < r.expiresAt ∧ r.claimToken ≠ e.token

instance {ι : Type} (c : Config ι Call Res Err Fields Shared Work) (i : ι) (e : RouteEnv) :
    Decidable (InTime X c i e) :=
  inferInstanceAs (Decidable (∀ call ∈ (c.prog i).next, ∀ intent ∈ claimed call.op,
    ∀ r ∈ recordOf X c.shared.idempotency intent, e.wall < r.expiresAt ∧ r.claimToken ≠ e.token))

/-- The intent has a `jti` of its own, not the placeholder of an intent without one. -/
def OwnJti : Prop :=
  ((underMandate p.fallback (carriedIntent X.decode p.body)).get "jti").truthy ∧
    ((underMandate p.fallback (carriedIntent X.decode p.body)).get "jti").text ∉
      ["", "unknown-intent"]

/-- The response of a request that is told to try again: somebody else works on the same one. -/
def turnedAway (d : Draw) : Fields :=
  formatResult (rejectedResult .railError (p.pid (p.intent X d.uid)) none)

/-- **Request idempotency**: one request at most is granted a reservation, at most once, and all
completed responses are the same, but for those that turn a request away. -/
structure Idempotent {ι : Type} (draw : ι → Draw)
    (c : Config ι Call Res Err Fields Shared Work) : Prop where
  once : ∀ i, (c.hist i).reserves ≤ 1
  alone : ∀ i j, (c.hist i).reserves ≠ 0 → (c.hist j).reserves ≠ 0 → i = j
  same : ∀ i j response response', c.prog i = .ret response → c.prog j = .ret response' →
    response = response' ∨
      (response = turnedAway X p (draw i) ∧ (c.hist i).standing = some .busy) ∨
      (response' = turnedAway X p (draw j) ∧ (c.hist j).standing = some .busy)

end Route

/-! ## Claims of one body -/

section Claims

variable {X : Setting} {p : Posted}

/-- The record that a claim offers under a key. -/
def Posted.record (X : Setting) (p : Posted) (intent : Intent) (key : String) (now : ℤ)
    (token : String) : Idempotency.Record :=
  ⟨key, X.scope, intent.jti, X.hashing.fingerprint (p.claimRequest X intent token).request,
    now + Idempotency.idempotencyTtl, none, now, token⟩

/-- The intent claims under a key, with the service's secret and with the store's. -/
structure Derives (X : Setting) (p : Posted) (intent : Intent) (key : String) : Prop where
  mine : deriveIdempotencyKey X.hashing intent.jti X.secret = .ok key
  store : deriveIdempotencyKey X.hashing intent.jti X.storeSecret = .ok key
  candidate : ∀ now token, (p.claimRequest X intent token).candidate X.hashing now =
    .ok (p.record X intent key now token)

/-- Every claim of the intent raises the same, and changes nothing. -/
def Refuses (X : Setting) (p : Posted) (intent : Intent) (x : Err) : Prop :=
  ∀ e now T, claimPort X p e intent now T = (.error x, T)

variable {intent : Intent} (hjti : ¬ (intent.jti = "" ∨ intent.jti = "unknown-intent"))

include hjti

/-- A claim that raises. -/
theorem claimPort_error {e : RouteEnv} {now : ℤ} {T T' : Idempotency.Store} {x : Idempotency.Err}
    (h : claimIdempotency X.hashing X.storeSecret T (p.claimRequest X intent e.token) now e.wall =
      (.error x, T')) : claimPort X p e intent now T = (.error (portErr x), T') := by
  rw [claimPort, if_neg hjti, h]

/-- **An intent claims, or is refused**: it does not depend on the time, the token or the store. -/
theorem derives_or_refuses :
    (∃ x, Refuses X p intent x) ∨ ∃ key, Derives X p intent key := by
  have hlive : ∀ now : ℤ, ¬ now + Idempotency.idempotencyTtl ≤ now := fun now => by
    rw [Idempotency.idempotencyTtl]
    omega
  cases hkey : deriveIdempotencyKey X.hashing intent.jti X.secret with
  | error x =>
    refine .inl ⟨portErr x, fun e now T => claimPort_error hjti (Idempotency.claim_of_error ?_)⟩
    simp only [ClaimRequest.candidate, Idempotency.makeRecord, Posted.claimRequest, hkey]
  | ok key =>
    by_cases hempty : key = "" ∨ X.scope = "" ∨ intent.jti = ""
    · have hcandidate : ∀ now token, (p.claimRequest X intent token).candidate X.hashing now =
          .error (.value "idempotency records require key, scope, and source jti") := by
        intro now token
        simp only [ClaimRequest.candidate, Idempotency.makeRecord, Posted.claimRequest, hkey]
        exact if_pos hempty
      exact .inl ⟨_, fun e now T => claimPort_error hjti
        (Idempotency.claim_of_error (hcandidate now e.token))⟩
    · have hcandidate : ∀ now token, (p.claimRequest X intent token).candidate X.hashing now =
          .ok (p.record X intent key now token) := by
        intro now token
        simp only [ClaimRequest.candidate, Idempotency.makeRecord, Posted.claimRequest, hkey]
        exact (if_neg hempty).trans (if_neg (hlive now))
      cases hstore : deriveIdempotencyKey X.hashing intent.jti X.storeSecret with
      | error x =>
        refine .inl ⟨portErr x, fun e now T => claimPort_error hjti ?_⟩
        rw [Idempotency.claim_of_candidate (hcandidate now e.token), Idempotency.reserve]
        simp only [Posted.record, hstore]
        rfl
      | ok expected =>
        by_cases hsame : key = expected
        · exact .inr ⟨key, hkey, by rw [hstore, hsame], hcandidate⟩
        · refine .inl ⟨.idempotencyConflict, fun e now T => claimPort_error hjti
            (x := .conflict "idempotency key must be derived from the source jti") ?_⟩
          rw [Idempotency.claim_of_candidate (hcandidate now e.token), Idempotency.reserve]
          simp only [Posted.record, hstore, ne_eq, hsame, not_false_eq_true, if_true]
          rfl

variable {key : String} (hderives : Derives X p intent key)

include hderives

/-- A claim under a key without a record is owned, and its record is put. -/
theorem claimPort_free {e : RouteEnv} {now : ℤ} {T : Idempotency.Store} (h : T.get key = none) :
    claimPort X p e intent now T = (.ok .owned, T.put (p.record X intent key now e.token)) := by
  have hreserve : Idempotency.reserve X.hashing X.storeSecret T (p.record X intent key now e.token)
      e.wall = (.ok (p.record X intent key now e.token),
        T.put (p.record X intent key now e.token)) := by
    simp only [Idempotency.reserve, Posted.record, hderives.store, ne_eq, not_true_eq_false,
      if_false, h]
  rw [claimPort, if_neg hjti, Idempotency.claim_of_candidate (hderives.candidate now e.token),
    hreserve]
  simp only [Except.map, Posted.record, decide_true, if_true]

/-- **A claim under a key with a record** is owned again, or changes nothing and is told of the
record. -/
theorem claimPort_found (e : RouteEnv) (now : ℤ) {T : Idempotency.Store} {r : Idempotency.Record}
    (h : T.get key = some r) :
    ((claimPort X p e intent now T).1 = .ok .owned ∧
        (r.isExpired e.wall = true ∨ r.claimToken = e.token)) ∨
      ((claimPort X p e intent now T).2 = T ∧
        ((claimPort X p e intent now T).1 = .error .idempotencyConflict ∨
          (r.response = none ∧ (claimPort X p e intent now T).1 = .ok .busy) ∨
          ∃ f, r.response = some f ∧
            (claimPort X p e intent now T).1 = .ok (.replay (ofDict f (p.pid intent))))) := by
  rw [claimPort, if_neg hjti, Idempotency.claim_of_candidate (hderives.candidate now e.token)]
  by_cases hexpired : r.isExpired e.wall = true
  · have hreserve : Idempotency.reserve X.hashing X.storeSecret T
        (p.record X intent key now e.token) e.wall =
          (.ok (p.record X intent key now e.token), T.put (p.record X intent key now e.token)) := by
      simp only [Idempotency.reserve, Posted.record, hderives.store, ne_eq, not_true_eq_false,
        if_false, h, hexpired, if_true]
    rw [hreserve]
    refine .inl ⟨?_, .inl hexpired⟩
    simp only [Except.map, Posted.record, decide_true, if_true]
  · by_cases hdiffers : r.differs (p.record X intent key now e.token)
    · have hreserve : Idempotency.reserve X.hashing X.storeSecret T
          (p.record X intent key now e.token) e.wall =
            (.error (.conflict "same idempotency key used with a different request"), T) := by
        simp only [Idempotency.reserve, Posted.record, hderives.store, ne_eq, not_true_eq_false,
          if_false, h, hexpired]
        exact if_pos hdiffers
      rw [hreserve]
      exact .inr ⟨rfl, .inl rfl⟩
    · have hreserve : Idempotency.reserve X.hashing X.storeSecret T
          (p.record X intent key now e.token) e.wall = (.ok r, T) := by
        simp only [Idempotency.reserve, Posted.record, hderives.store, ne_eq, not_true_eq_false,
          if_false, h, hexpired]
        exact if_neg hdiffers
      rw [hreserve]
      cases hresponse : r.response with
      | some f =>
        refine .inr ⟨?_, .inr (.inr ⟨f, rfl, ?_⟩)⟩ <;> simp only [Except.map, hresponse]
      | none =>
        by_cases htoken : r.claimToken = e.token
        · refine .inl ⟨?_, .inr htoken⟩
          simp only [Except.map, hresponse, Posted.record, htoken, decide_true, if_true]
        · refine .inr ⟨?_, .inr (.inl ⟨rfl, ?_⟩)⟩ <;>
            simp only [Except.map, hresponse, Posted.record, htoken, decide_false, if_false,
              Bool.false_eq_true]

/-- A claim of the intent is answered by the store. -/
theorem claimPort_claims (e : RouteEnv) (now : ℤ) (T : Idempotency.Store) :
    (claimPort X p e intent now T).1 ≠ .ok .unclaimed := by
  cases hget : T.get key with
  | none =>
    rw [claimPort_free hjti hderives hget]
    simp
  | some r =>
    rcases claimPort_found hjti hderives e now hget with
      ⟨h, -⟩ | ⟨-, h | ⟨-, h⟩ | ⟨f, -, h⟩⟩ <;>
    · rw [h]
      simp

omit hjti

/-- The owner's answer is kept in its record. -/
theorem savePort_kept {result : VerificationResult} {now : ℤ} {T : Idempotency.Store}
    {r : Idempotency.Record} (h : T.get key = some r) (hlive : now < r.expiresAt)
    (hresponse : r.response = none) :
    savePort X intent result now T = (.ok (), T.put (r.answered (some (asDict result)))) := by
  have hsave : Idempotency.saveResponse T key (asDict result) now =
      (.ok (r.answered (some (asDict result))), T.put (r.answered (some (asDict result)))) := by
    simp only [Idempotency.saveResponse, h, Idempotency.not_expired hlive, Bool.false_eq_true,
      if_false, hresponse]
  simp only [savePort, hderives.mine, hsave]

end Claims

/-! ## What holds while requests interleave -/

section Sound

variable {ι : Type} (X : Setting) (p : Posted) (intent : Intent) (draw : ι → Draw)

/-- A request that was granted and kept nothing, and that was told at most this. -/
structure Away (told : Standing → Prop) (γ : Work) : Prop where
  reserves : γ.reserves = 0
  saved : γ.saved = none
  standing : ∀ x ∈ γ.standing, told x

/-- What a claim that does not own a record is told of it. -/
def Told (r : Idempotency.Record) : Standing → Prop
  | .busy => True
  | .refused x => x = .idempotencyConflict
  | .replayed result => ∃ f, r.response = some f ∧ result = ofDict f (p.pid intent)
  | _ => False

/-- The request that owns a record: its answer is the record's. -/
structure Owner (d : Draw) (r : Idempotency.Record) (γ : Work) : Prop where
  standing : γ.standing = some .owner
  reserves : γ.reserves ≤ 1
  saved : γ.saved = r.response
  live : d.now < r.expiresAt

/-- **What holds while requests interleave**: their claims are refused, or nobody has claimed, or
there is a record with one owner at most. -/
inductive Sound (g : ι → Work) (T : Idempotency.Store) : Prop
  | refused (x : Err) (h : Refuses X p intent x) (all : ∀ j, Away (· = .refused x) (g j))
  | fresh (key : String) (h : Derives X p intent key) (free : T.get key = none)
      (all : ∀ j, Away (fun _ => False) (g j))
  | kept (key : String) (h : Derives X p intent key) (r : Idempotency.Record) (o : Option ι)
      (stored : T.get key = some r) (others : ∀ j, o ≠ some j → Away (Told p intent r) (g j))
      (owner : ∀ j, o = some j → Owner (draw j) r (g j))

/-- What holds, or a request came to own a key that had a record. -/
def Inv (g : ι → Work) (T : Idempotency.Store) : Prop :=
  (∃ j, (g j).again = true) ∨ Sound X p intent draw g T

variable {X p intent draw} {g : ι → Work} {T : Idempotency.Store} {i : ι}

theorem Away.mono {told told' : Standing → Prop} {γ : Work} (h : Away told γ)
    (himp : ∀ x, told x → told' x) : Away told' γ :=
  ⟨h.reserves, h.saved, fun x hx => himp x (h.standing x hx)⟩

/-- The record of a request that owns one. -/
theorem Sound.of_owner (hS : Sound X p intent draw g T) (howner : (g i).standing = some .owner) :
    ∃ key r, Derives X p intent key ∧ T.get key = some r ∧ Owner (draw i) r (g i) ∧
      ∀ j, j ≠ i → Away (Told p intent r) (g j) := by
  cases hS with
  | refused x _ all => cases (all i).standing _ howner
  | fresh key _ _ all => exact ((all i).standing _ howner).elim
  | kept key h r o stored others owner =>
    have ho : o = some i := by
      by_contra hne
      exact (others i hne).standing _ howner
    exact ⟨key, r, h, stored, owner i ho, fun j hj => others j fun heq => hj (Option.some.inj
      (heq.symm.trans ho))⟩

variable [DecidableEq ι]

/-- A record whose owner has gone on. -/
theorem Sound.owned {key : String} {r : Idempotency.Record} {γ : Work}
    (h : Derives X p intent key) (stored : T.get key = some r) (howner : Owner (draw i) r γ)
    (others : ∀ j, j ≠ i → Away (Told p intent r) (g j)) :
    Sound X p intent draw (Function.update g i γ) T := by
  refine .kept key h r (some i) stored (fun j hj => ?_) fun j hj => ?_
  · have hne : j ≠ i := fun heq => hj (by rw [heq])
    rw [Function.update_of_ne hne]
    exact others j hne
  · obtain rfl := Option.some.inj hj
    rw [Function.update_self]
    exact howner

/-- A request whose history says that it owned a key again says so for good. -/
theorem Inv.again {γ : Work} (h : ∃ j, (g j).again = true) (hγ : (g i).again = true → γ.again = true)
    {T' : Idempotency.Store} : Inv X p intent draw (Function.update g i γ) T' := by
  obtain ⟨j, hj⟩ := h
  refine .inl ⟨j, ?_⟩
  by_cases hji : j = i
  · subst hji
    rw [Function.update_self]
    exact hγ hj
  · rw [Function.update_of_ne hji]
    exact hj

/-- All the others, after a step of one. -/
theorem away_update {told : Standing → Prop} {γ : Work} (h : ∀ j, Away told (g j))
    (hγ : Away told γ) (j : ι) : Away told (Function.update g i γ j) := by
  by_cases hj : j = i
  · subst hj
    rw [Function.update_self]
    exact hγ
  · rw [Function.update_of_ne hj]
    exact h j

variable (hjti : ¬ (intent.jti = "" ∨ intent.jti = "unknown-intent"))

include hjti

/-- **A claim** keeps what holds. -/
theorem claim_inv {e : RouteEnv} {s : Shared} (hI : Inv X p intent draw g s.idempotency)
    (hnew : (g i).standing = none) :
    Inv X p intent draw (Function.update g i (advance X (g i) s
      (.claimIdempotency intent (draw i).now)
        (claimPort X p e intent (draw i).now s.idempotency).1))
      (claimPort X p e intent (draw i).now s.idempotency).2 := by
  rcases hI with hagain | hS
  · exact .again hagain fun h => by simp [advance, h]
  cases hS with
  | refused x h all =>
    rw [h]
    refine .inr (.refused x h (away_update all ⟨(all i).reserves, (all i).saved, ?_⟩))
    rintro y ⟨⟩
    rfl
  | fresh key h free all =>
    rw [claimPort_free hjti h free]
    refine .inr (.owned h (Idempotency.Store.get_put_self (r := p.record X intent key _ e.token))
      ⟨rfl, by simp [advance, (all i).reserves], (all i).saved, ?_⟩
      fun j _ => (all j).mono fun _ hx => hx.elim)
    show (draw i).now < (draw i).now + Idempotency.idempotencyTtl
    rw [Idempotency.idempotencyTtl]
    omega
  | kept key h r o stored others owner =>
    have ho : o ≠ some i := by
      intro heq
      rw [(owner i heq).standing] at hnew
      cases hnew
    have hothers : ∀ γ : Work, Away (Told p intent r) γ → ∀ j, o ≠ some j →
        Away (Told p intent r) (Function.update g i γ j) := by
      intro γ hγ j hj
      by_cases hji : j = i
      · rw [hji, Function.update_self]
        exact hγ
      · rw [Function.update_of_ne hji]
        exact others j hj
    have howner : ∀ (γ : Work) j, o = some j →
        Owner (draw j) r (Function.update g i γ j) := by
      intro γ j hj
      have hji : j ≠ i := fun heq => ho (by rw [hj, heq])
      rw [Function.update_of_ne hji]
      exact owner j hj
    rcases claimPort_found hjti h e (draw i).now stored with
      ⟨hanswer, -⟩ | ⟨hT, hanswer⟩
    · refine .inl ⟨i, ?_⟩
      rw [Function.update_self, hanswer]
      simp [advance, owned, recordOf, h.mine, stored]
    · rw [hT]
      refine .inr (.kept key h r o stored (hothers _ ⟨(others i ho).reserves,
        (others i ho).saved, ?_⟩) (howner _))
      rintro y ⟨⟩
      rcases hanswer with hanswer | ⟨-, hanswer⟩ | ⟨f, hf, hanswer⟩ <;> rw [hanswer]
      · rfl
      · trivial
      · exact ⟨f, hf, rfl⟩

omit hjti

/-- **The owner's answer is kept**, and what holds with it. -/
theorem save_inv {s : Shared} (result : VerificationResult)
    (hS : Sound X p intent draw g s.idempotency) (howner : (g i).standing = some .owner)
    (hsaved : (g i).saved = none) :
    (savePort X intent result (draw i).now s.idempotency).1 = .ok () ∧
      Sound X p intent draw
        (Function.update g i { g i with saved := some (asDict result) })
        (savePort X intent result (draw i).now s.idempotency).2 := by
  obtain ⟨key, r, h, stored, hi, others⟩ := hS.of_owner howner
  have hresponse : r.response = none := hi.saved.symm.trans hsaved
  rw [savePort_kept h stored hi.live hresponse]
  have hkey := Idempotency.Store.key_of_get stored
  refine ⟨rfl, .owned h (r := r.answered (some (asDict result))) ?_
    ⟨hi.standing, hi.reserves, rfl, hi.live⟩ fun j hj => (others j hj).mono fun x hx => ?_⟩
  · rw [← hkey]
    exact Idempotency.Store.get_put_self (r := r.answered (some (asDict result)))
  · cases x with
    | replayed result =>
      obtain ⟨f, hf, -⟩ := hx
      rw [hresponse] at hf
      cases hf
    | busy | refused => exact hx
    | owner | unclaimed => exact hx.elim

end Sound

/-! ## The outline of a request -/

section Outlines

variable {ι : Type} [DecidableEq ι] (X : Setting) (p : Posted) (intent : Intent)
  (draw : ι → Draw)

/-- The invariant of requests; every step is considered. -/
def routeSpec : Spec ι Call Res Err Shared Work where
  inv := fun g s => Inv X p intent draw g s.idempotency
  ok := fun _ _ _ _ => True
  prop := fun _ _ _ _ _ _ => True

/-- The response of a request, by what its claim was told and the answer that it kept. -/
def Answered (γ : Work) (response : Fields) : Prop :=
  match γ.standing with
  | some .owner => ∀ f ∈ γ.saved, response = formatResult (ofDict f (p.pid intent))
  | some .busy => response = formatResult (rejectedResult .railError (p.pid intent) none)
  | some (.refused x) => x ≠ .idempotencyConflict ∧
      response = formatResult (rejectedResult .mandateSuspended (p.pid intent) none)
  | some (.replayed result) => response = formatResult result
  | _ => False

variable {X p intent draw} {i : ι}

/-- A port call of a decision leaves the idempotency store alone. -/
theorem sem_idempotency {r : VerifyRequest} {c : Call} (h : c.op.ofDecide r) (e : RouteEnv)
    (s : Shared) : (sem X p e c s).2.idempotency = s.idempotency := by
  obtain ⟨site, op⟩ := c
  cases op with
  | claimIdempotency | saveResponse => exact h.elim
  | _ => rfl

/-- What a port call of a decision adds to the history: a reservation at most. -/
theorem advance_decides {r : VerifyRequest} {op : Op} (h : op.ofDecide r) (γ : Work) (s : Shared)
    (answer : Except Err op.Answer) : (advance X γ s op answer).standing = γ.standing ∧
      (advance X γ s op answer).saved = γ.saved ∧ (advance X γ s op answer).again = γ.again ∧
        (advance X γ s op answer).reserves ≤ γ.reserves + op.reserves := by
  cases op with
  | claimIdempotency | saveResponse => exact h.elim
  | reserve =>
    rcases answer with x | _ | id
    · exact ⟨rfl, rfl, rfl, Nat.le_add_right _ _⟩
    · exact ⟨rfl, rfl, rfl, Nat.le_add_right _ _⟩
    · exact ⟨rfl, rfl, rfl, le_rfl⟩
  | _ => exact ⟨rfl, rfl, rfl, Nat.le_add_right _ _⟩

/-- **A decision of an owner** is granted the reservations that it asks for, one at most. -/
theorem decides_outline {r : VerifyRequest} {α : Type} {q : Ds α} {b : ℕ}
    (hq : q.Within (fun c => c.op.ofDecide r) (fun c => c.op.reserves) b) {γ : Work}
    (hstanding : γ.standing = some .owner) (hsaved : γ.saved = none) (hone : γ.reserves + b ≤ 1) :
    Outline (routeSystem X p) (routeSpec X p intent draw) i
      (fun _ γ' => (γ'.standing = some .owner ∧ γ'.saved = none) ∧
        γ'.reserves ≤ γ.reserves + b) q γ := by
  refine outline_within (ψ := fun γ' : Work => γ'.standing = some .owner ∧ γ'.saved = none)
    (m := Work.reserves) (fun g s e c hc hψ hm hI _ => ?_) hq ⟨hstanding, hsaved⟩
    le_rfl
  obtain ⟨h1, h2, h3, h4⟩ := advance_decides (X := X) hc (g i) s (sem X p e c s).1
  refine ⟨?_, trivial, ⟨h1.trans hψ.1, h2.trans hψ.2⟩, h4⟩
  show Inv X p intent draw _ (sem X p e c s).2.idempotency
  rw [sem_idempotency hc]
  rcases hI with hagain | hS
  · exact .again hagain fun h => h3.trans h
  · obtain ⟨key, rec, h, stored, hi, others⟩ := hS.of_owner hψ.1
    exact .inr (.owned h stored ⟨h1.trans hψ.1, (h4.trans hm).trans hone, h2.trans hi.saved,
      hi.live⟩ others)

/-- **The end of an owner**: its answer is kept and returned, or it returns a refusal. -/
theorem finish_outline (hintent : ∀ uid, p.intent X uid = intent) (result : VerificationResult)
    {γ : Work} (hstanding : γ.standing = some .owner) (hsaved : γ.saved = none) :
    Outline (routeSystem X p) (routeSpec X p intent draw) i
      (fun r γ' => ∀ v, r = .ok v → Answered p intent γ' (formatResult v))
      (finish (p.request X (draw i)) .owned result) γ := by
  have hsave : Outline (routeSystem X p) (routeSpec X p intent draw) i
      (fun r γ' => (r = .ok () ∧ γ' = { γ with saved := some (asDict result) }) ∨
        ∃ x, r = .error x ∧ γ' = γ)
      (port .finishSave (.saveResponse (p.request X (draw i)).intent result
        (p.request X (draw i)).now)) γ := by
    refine outline_perform_eq fun g s e hg hI _ => ?_
    subst hg
    have hsem : (routeSystem (ι := ι) X p).sem e
        ⟨.finishSave, .saveResponse (p.request X (draw i)).intent result
          (p.request X (draw i)).now⟩ s =
        if e.base.fails .finishSave then (.error .failure, s)
        else ((savePort X intent result (draw i).now s.idempotency).1,
          { s with idempotency := (savePort X intent result (draw i).now s.idempotency).2 }) := by
      rw [← hintent (draw i).uid]
      rfl
    by_cases hfails : e.base.fails .finishSave = true
    · rw [if_pos hfails] at hsem
      refine ⟨_, _, g i, hsem, rfl, ?_, trivial, .inr ⟨_, rfl, rfl⟩⟩
      rw [Function.update_eq_self]
      exact hI
    · rw [if_neg hfails] at hsem
      refine ⟨_, _, _, hsem, rfl, ?_, trivial, ?_⟩
      · rcases hI with hagain | hS
        · refine .again hagain fun h => ?_
          cases (savePort X intent result (draw i).now s.idempotency).1 <;> exact h
        · obtain ⟨hok, hS'⟩ := save_inv result hS hstanding hsaved
          rw [hok]
          exact .inr hS'
      · cases hanswer : (savePort X intent result (draw i).now s.idempotency).1 with
        | ok u => exact .inl ⟨rfl, rfl⟩
        | error x => exact .inr ⟨x, rfl, rfl⟩
  refine outline_bind (outline_attempt hsave) ?_ ?_
  · rintro r γ' ⟨r', hr, hr'⟩
    obtain rfl := Except.ok.inj hr
    rcases hr' with ⟨rfl, rfl⟩ | ⟨x, rfl, rfl⟩
    · rintro v ⟨⟩
      rw [Answered, show ({ γ with saved := some (asDict result) } : Work).standing = some .owner
        from hstanding]
      rintro f ⟨⟩
      exact (formatResult_ofDict result _).symm
    · rintro v ⟨⟩
      rw [Answered, hstanding]
      intro f hf
      rw [hsaved] at hf
      cases hf
  · rintro x γ' ⟨r', hr, -⟩
    cases hr

/-- **The claim of a request**, and what it is told. -/
theorem claim_outline (hintent : ∀ uid, p.intent X uid = intent)
    (hjti : ¬ (intent.jti = "" ∨ intent.jti = "unknown-intent")) :
    Outline (routeSystem X p) (routeSpec X p intent draw) i
      (fun answer γ => γ.standing = some (.of answer) ∧ γ.saved = none ∧ γ.reserves = 0 ∧
        answer ≠ .ok .unclaimed)
      (port .verifyClaim (.claimIdempotency (p.request X (draw i)).intent
        (p.request X (draw i)).now)) {} := by
  refine outline_perform_eq fun g s e hg hI _ => ?_
  have hsem : (routeSystem (ι := ι) X p).sem e
      ⟨.verifyClaim, .claimIdempotency (p.request X (draw i)).intent (p.request X (draw i)).now⟩
      s = ((claimPort X p e intent (draw i).now s.idempotency).1,
        { s with idempotency := (claimPort X p e intent (draw i).now s.idempotency).2 }) := by
    rw [← hintent (draw i).uid]
    rfl
  have hinv := claim_inv (i := i) hjti (e := e) hI (by rw [hg])
  rw [hg] at hinv
  refine ⟨_, _, advance X {} s (.claimIdempotency intent (draw i).now)
    (claimPort X p e intent (draw i).now s.idempotency).1, hsem, ?_, hinv, trivial, rfl, rfl, rfl,
    ?_⟩
  · rw [← hintent (draw i).uid]
    rfl
  · rcases derives_or_refuses (X := X) (p := p) hjti with ⟨x, hx⟩ | ⟨key, hkey⟩
    · rw [hx]
      simp
    · exact claimPort_claims hjti hkey e _ _

/-- **An owner**: it decides, keeps its answer and returns it. -/
theorem claimed_outline (hintent : ∀ uid, p.intent X uid = intent) {γ : Work}
    (hstanding : γ.standing = some .owner) (hsaved : γ.saved = none) (hreserves : γ.reserves = 0) :
    Outline (routeSystem X p) (routeSpec X p intent draw) i
      (fun r γ' => ∀ v, r = .ok v → Answered p intent γ' (formatResult v))
      (verifyClaimed X.deps (p.request X (draw i)) .owned) γ := by
  have hend : ∀ {q : Ds VerificationResult} {b : ℕ} {γ : Work}, q.Within
      (fun c => c.op.ofDecide (p.request X (draw i))) (fun c => c.op.reserves) b →
      γ.standing = some .owner → γ.saved = none → γ.reserves + b ≤ 1 →
      Outline (routeSystem X p) (routeSpec X p intent draw) i
        (fun r γ' => ∀ v, r = .ok v → Answered p intent γ' (formatResult v))
        (q.bind (finish (p.request X (draw i)) .owned)) γ := fun hq h1 h2 h3 =>
    outline_bind (decides_outline hq h1 h2 h3)
      (fun result γ' h => finish_outline hintent result h.1.1 h.1.2) fun x γ' _ v h => by cases h
  refine outline_bind (decides_outline (r := p.request X (draw i)) (b := 0)
    (within_of_branch ?_) hstanding hsaved (by omega)) ?_ fun x γ' _ v h => by cases h
  · exact Prog.calls_perform trivial
  · rintro existing γ' ⟨⟨h1, h2⟩, h3⟩
    cases existing with
    | some q =>
      refine hend (b := 0) (within_of_branch ?_) h1 h2 (by omega)
      exact resultForExisting_calls q fun _ => trivial
    | none => exact hend (decide_within _) h1 h2 (by omega)

/-- **A request**: its response is what its claim was told, or the answer that it kept. -/
theorem post_outline (hintent : ∀ uid, p.intent X uid = intent)
    (hjti : ¬ (intent.jti = "" ∨ intent.jti = "unknown-intent")) :
    Outline (routeSystem X p) (routeSpec X p intent draw) i
      (fun r γ => ∀ response, r = .ok response → Answered p intent γ response)
      (post X p (draw i)) {} := by
  have hpid : (p.request X (draw i)).pid = p.pid intent := by
    rw [← hintent (draw i).uid]
    rfl
  have hraised : ∀ {α : Type} (x : Err) (γ : Work) (v : α) {P : Prop},
      (Except.error x : Except Err α) = .ok v → P := fun _ _ _ _ h => by cases h
  refine outline_bind (Q := fun r γ => ∀ v, r = .ok v → Answered p intent γ (formatResult v))
    ?_ (fun v γ h => ?_) fun x γ _ response h => hraised x γ response h
  · refine outline_bind (outline_attempt (claim_outline hintent hjti)) ?_ ?_
    · rintro answer γ ⟨answer', hanswer, hstanding, hsaved, hreserves, hclaims⟩
      obtain rfl := Except.ok.inj hanswer
      rcases answer with (_ | _ | _) | (_ | _ | _ | result)
      · rintro v ⟨⟩
        rw [Answered, hstanding]
        exact ⟨by simp, by rw [hpid]⟩
      · exact fun v h => hraised _ γ v h
      · rintro v ⟨⟩
        rw [Answered, hstanding]
        exact ⟨by simp, by rw [hpid]⟩
      · exact absurd rfl hclaims
      · exact claimed_outline hintent hstanding hsaved hreserves
      · rintro v ⟨⟩
        rw [Answered, hstanding, hpid]
        rfl
      · rintro v ⟨⟩
        rw [Answered, hstanding]
        rfl
    · rintro x γ ⟨r', hr, -⟩
      cases hr
  · rintro response ⟨⟩
    exact h v rfl

end Outlines

/-! ## Runs of requests -/

section Runs

variable {ι : Type} [DecidableEq ι] {X : Setting} {p : Posted}

/-- A true value is there, whatever the default. -/
theorem getD_of_truthy {d : Fields} {key : String} (h : (d.get key).truthy) (default : Json) :
    d.getD key default = d.get key := by
  rw [Fields.get, Fields.getD] at h
  rw [Fields.get, Fields.getD, Fields.getD]
  cases hlookup : d.lookup key with
  | some v => rfl
  | none =>
    rw [hlookup] at h
    cases h

/-- An intent with a `jti` of its own is the same in every request. -/
theorem intent_own (h : OwnJti X p) (uid : String) : p.intent X uid = p.intent X "" ∧
    (p.intent X uid).jti =
      ((underMandate p.fallback (carriedIntent X.decode p.body)).get "jti").text := by
  have hextract : ∀ uid, extractIntent X.decode p.body p.fallback uid =
      underMandate p.fallback (carriedIntent X.decode p.body) := by
    intro uid
    rw [extractIntent]
    exact if_pos h.1
  refine ⟨by rw [Posted.intent, Posted.intent, hextract, hextract], ?_⟩
  rw [Posted.intent, hextract]
  exact congrArg Json.text (getD_of_truthy h.1 _)

/-- A claim in time does not own a key that has a record. -/
theorem not_owned_again {e : RouteEnv} {intent : Intent} {now : ℤ} {T : Idempotency.Store}
    {r : Idempotency.Record} (hr : recordOf X T intent = some r) (hlive : e.wall < r.expiresAt)
    (htoken : r.claimToken ≠ e.token) : owned (claimPort X p e intent now T).1 = false := by
  by_cases hjti : intent.jti = "" ∨ intent.jti = "unknown-intent"
  · rw [claimPort, if_pos hjti]
    rfl
  · rcases derives_or_refuses (X := X) (p := p) hjti with ⟨x, hx⟩ | ⟨key, hkey⟩
    · rw [hx]
      rfl
    · rw [recordOf, hkey.mine] at hr
      rcases claimPort_found hjti hkey e now hr with
        ⟨-, hexpired | hsame⟩ | ⟨-, h | ⟨-, h⟩ | ⟨f, -, h⟩⟩
      · rw [Idempotency.not_expired hlive] at hexpired
        cases hexpired
      · exact absurd hsame htoken
      all_goals
        rw [h]
        rfl

/-- **In time, no request owns a key again.** -/
theorem again_run {c : Config ι Call Res Err Fields Shared Work} {xs : List (ι × RouteEnv)}
    (htime : (routeSystem X p).Along (InTime X) c xs) (h : ∀ j, (c.hist j).again = false) (j : ι) :
    (((routeSystem X p).run c xs).hist j).again = false := by
  induction xs generalizing c with
  | nil => exact h j
  | cons x xs ih =>
    obtain ⟨i, e⟩ := x
    refine ih htime.2 fun k => ?_
    have hin := htime.1
    show ((System.step _ c i e).hist k).again = false
    cases hp : c.prog i with
    | ret a => simp only [System.step, hp, h]
    | raise y => simp only [System.step, hp, h]
    | call call next =>
      simp only [System.step, hp]
      by_cases hk : k = i
      · subst hk
        rw [Function.update_self]
        obtain ⟨site, op⟩ := call
        cases op with
        | claimIdempotency intent now =>
          show ((c.hist k).again || (owned (claimPort X p e intent now c.shared.idempotency).1 &&
            (recordOf X c.shared.idempotency intent).isSome)) = false
          rw [h k, Bool.false_or]
          cases hr : recordOf X c.shared.idempotency intent with
          | none => rw [Option.isSome_none, Bool.and_false]
          | some r =>
            obtain ⟨hlive, htoken⟩ := hin ⟨site, .claimIdempotency intent now⟩
              (by rw [hp]; rfl) intent rfl r hr
            rw [not_owned_again hr hlive htoken, Bool.false_and]
        | saveResponse intent result now =>
          show (advance X (c.hist k) c.shared (.saveResponse intent result now) _).again = false
          cases ((routeSystem X p).sem e ⟨site, .saveResponse intent result now⟩ c.shared).1 <;>
            exact h k
        | reserve m a b n rid key =>
          show (advance X (c.hist k) c.shared (.reserve m a b n rid key) _).again = false
          rcases ((routeSystem (ι := ι) X p).sem e ⟨site, .reserve m a b n rid key⟩ c.shared).1 with
            y | _ | id <;> exact h k
        | _ => exact h k
      · rw [Function.update_of_ne hk]
        exact h k

/-- Requests that have not come to own a key again agree. -/
theorem idempotent_of_sound (hintent : ∀ uid, p.intent X uid = p.intent X "") {draw : ι → Draw}
    {c : Config ι Call Res Err Fields Shared Work}
    (hS : Sound X p (p.intent X "") draw c.hist c.shared.idempotency)
    (hend : ∀ i response, c.prog i = .ret response →
      Answered p (p.intent X "") (c.hist i) response) : Idempotent X p draw c := by
  have hturned : ∀ i, turnedAway X p (draw i) =
      formatResult (rejectedResult .railError (p.pid (p.intent X "")) none) := fun i => by
    rw [turnedAway, hintent]
  cases hS with
  | refused x _ all =>
    refine ⟨fun i => by rw [(all i).reserves]; omega, fun i _ hi => absurd (all i).reserves hi,
      fun i j response response' hi hj => .inl ?_⟩
    have hvalue : ∀ i response, c.prog i = .ret response → response = formatResult
        (rejectedResult .mandateSuspended (p.pid (p.intent X "")) none) := by
      intro i response hi
      have hanswered := hend i response hi
      rw [Answered] at hanswered
      cases hstanding : (c.hist i).standing with
      | none =>
        rw [hstanding] at hanswered
        exact hanswered.elim
      | some y =>
        obtain rfl := (all i).standing y hstanding
        rw [hstanding] at hanswered
        exact hanswered.2
    rw [hvalue i response hi, hvalue j response' hj]
  | fresh key _ _ all =>
    refine ⟨fun i => by rw [(all i).reserves]; omega, fun i _ hi => absurd (all i).reserves hi,
      fun i j response response' hi hj => ?_⟩
    have hanswered := hend i response hi
    rw [Answered] at hanswered
    cases hstanding : (c.hist i).standing with
    | none =>
      rw [hstanding] at hanswered
      exact hanswered.elim
    | some y => exact ((all i).standing y hstanding).elim
  | kept key _ r o _ others owner =>
    have hzero : ∀ i, (c.hist i).reserves ≠ 0 → o = some i := by
      intro i hi
      by_contra hne
      exact hi (others i hne).reserves
    -- a response is the record's answer, unless it turns away or its owner could not keep it
    have hvalue : ∀ i response, c.prog i = .ret response →
        (∃ f, r.response = some f ∧
          response = formatResult (ofDict f (p.pid (p.intent X "")))) ∨
        (o = some i ∧ r.response = none) ∨
        (response = turnedAway X p (draw i) ∧ (c.hist i).standing = some .busy) := by
      intro i response hi
      have hanswered := hend i response hi
      by_cases ho : o = some i
      · have hi := owner i ho
        rw [Answered, hi.standing, hi.saved] at hanswered
        cases hresponse : r.response with
        | none => exact .inr (.inl ⟨ho, rfl⟩)
        | some f => exact .inl ⟨f, rfl, hanswered f hresponse⟩
      · rw [Answered] at hanswered
        have htold := (others i ho).standing
        cases hstanding : (c.hist i).standing with
        | none =>
          rw [hstanding] at hanswered
          exact hanswered.elim
        | some x =>
          rw [hstanding] at hanswered
          have hx := htold x hstanding
          cases x with
          | owner | unclaimed => exact hx.elim
          | busy => exact .inr (.inr ⟨by rw [hturned]; exact hanswered, rfl⟩)
          | refused y => exact absurd hx hanswered.1
          | replayed result =>
            obtain ⟨f, hf, rfl⟩ := hx
            exact .inl ⟨f, hf, hanswered⟩
    refine ⟨fun i => ?_, fun i j hi hj => ?_, fun i j response response' hi hj => ?_⟩
    · by_cases ho : o = some i
      · exact (owner i ho).reserves
      · rw [(others i ho).reserves]
        omega
    · exact Option.some.inj ((hzero i hi).symm.trans (hzero j hj))
    · rcases hvalue i response hi with ⟨f, hf, rfl⟩ | ⟨ho, hnone⟩ | hbusy
      · rcases hvalue j response' hj with ⟨f', hf', rfl⟩ | ⟨-, hnone⟩ | hbusy
        · rw [hf] at hf'
          obtain rfl := Option.some.inj hf'
          exact .inl rfl
        · rw [hf] at hnone
          cases hnone
        · exact .inr (.inr hbusy)
      · rcases hvalue j response' hj with ⟨f, hf, -⟩ | ⟨ho', -⟩ | hbusy
        · rw [hf] at hnone
          cases hnone
        · obtain rfl := Option.some.inj (ho.symm.trans ho')
          rw [hi] at hj
          cases hj
          exact .inl rfl
        · exact .inr (.inr hbusy)
      · exact .inr (.inl hbusy)

end Runs

/-! ## Two requests of one body -/

/-- The service over one mandate and one offer, with one secret. -/
def shopSetting : Setting := ⟨Idempotency.plainHashing, "secret", "secret", "verify", lenient,
  fun _ => none⟩

/-- A body for `POST /purchases/verify` with an idempotency key, and some claims of its intent. -/
def shopBody (claims : Fields) : Posted where
  body := [("idempotency_key", .str "key-1"), ("intent", .obj (claims ++
    [("mandate_jti", .str "mdt"), ("offer_id", .str "offer-1"), ("amount", .num 30 0)]))]
  fallback := none
  named := fun h => by cases h

/-- The draws of two requests. -/
def shopDraw : Bool → Draw
  | false => ⟨"0a0a0a0a", "esc-1", 0⟩
  | true => ⟨"1b1b1b1b", "esc-2", 0⟩

/-- One request after the other. -/
def inTurn : List (Bool × RouteEnv) :=
  List.replicate 12 (false, ⟨failing [], 0, "token-1"⟩) ++
    List.replicate 12 (true, ⟨failing [], 0, "token-2"⟩)

/-- The requests of a body with these claims, at their end. -/
def inTheEnd (claims : Fields) : Config Bool Call Res Err Fields Shared Work :=
  (routeSystem shopSetting (shopBody claims)).run
    (routeStart shopSetting (shopBody claims) shopDraw ⟨shop, .empty⟩) inTurn

/-- The purchase of a response. -/
def purchaseOf : Ds Fields → Option String
  | .ret response => textOrNone (response.get "purchase_id")
  | _ => none

end TryTrust.Api.Verify
