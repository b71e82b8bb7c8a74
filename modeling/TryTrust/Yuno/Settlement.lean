import TryTrust.Money
import TryTrust.Yuno.SdJwt

/-!
# The simulated rail

Enrolment of an instrument, and captures with the token that it leads to. A capture looks for an
earlier answer, then for the token, verifies the mandate and the checkout, and settles.

* `SetupToken`, `PaymentToken`, `PaymentRow`, `IdempotencyRow`, `Rail`; `Env`, what a capture meets;
* `checkCheckout`, `verifyMandate`, `settle`, `capture`; `Act`, `step`, `run`, each request one
  transaction;
* `Enrolled`, `Settled`; `capture_ok`: what a capture adds;
* `TablesOk`: setup tokens were created, and payment tokens enrolled, in the course of a history;
* **`captures_settled`**: every captured payment was made with an enrolled and active token, a
  signed mandate in its window and active, and the total that the merchant signed;
  **`captured_with_other_token`**: the token may be enrolled for another mandate.
-/

namespace TryTrust.Yuno

/-! ## Rows -/

/-- `MandateStatus`. -/
inductive MandateStatus where
  | draft
  | active
  | suspended
  | revoked
  | expired
  | exhausted
  deriving DecidableEq, Repr

/-- `MandateStatus.value`. -/
def MandateStatus.text : MandateStatus → String
  | .draft => "draft"
  | .active => "active"
  | .suspended => "suspended"
  | .revoked => "revoked"
  | .expired => "expired"
  | .exhausted => "exhausted"

/-- The reasons of the rail. -/
inductive ReasonCode where
  | railTokenDeleted
  | railError
  | invalidSignature
  | invalidProofOfPossession
  | mandateExpired
  | mandateNotYetValid
  | mandateRevoked
  | mandateSuspended
  | mandateExhausted
  | conditionFailed
  deriving DecidableEq, Repr

/-- The status of a setup token. -/
inductive SetupStatus where
  | pending
  | approved
  | exchanged
  deriving DecidableEq, Repr

/-- A row of `yuno_setup_tokens`; times in microseconds. -/
structure SetupToken where
  setupTokenId : String
  mandateId : String
  status : SetupStatus
  approveUrl : String
  expiresAt : ℤ
  deriving DecidableEq

/-- A row of `yuno_payment_tokens`. -/
structure PaymentToken where
  tokenId : String
  setupTokenId : String
  mandateId : String
  active : Bool
  instrumentLabel : String
  deriving DecidableEq

/-- The status of a payment. -/
inductive PaymentStatus where
  | captured
  | refused
  deriving DecidableEq, Repr

/-- A row of `yuno_payments`. -/
structure PaymentRow where
  paymentId : String
  tokenId : String
  mandateJti : String
  amount : Money
  currency : String
  status : PaymentStatus
  reasonCode : Option ReasonCode := none
  checkoutHash : Option String
  intentRef : String
  deriving DecidableEq

/-- `Settlement.to_receipt`, as it is stored. -/
structure Receipt where
  purchaseId : String
  captureId : String
  amount : PyDecimal
  currency : String
  capturedAt : ℤ
  mandateJti : String
  deriving DecidableEq

/-- A row of `yuno_idempotency`. -/
structure IdempotencyRow where
  idempotencyKey : String
  paymentId : String
  response : Receipt
  deriving DecidableEq

/-- `Settlement`. -/
structure Settlement where
  paymentId : String
  amount : PyDecimal
  currency : String
  mandateJti : String
  capturedAt : ℤ
  replayed : Bool
  deriving DecidableEq

/-- The tables of the rail, and the statuses that the issuer answers. -/
structure Rail where
  setups : List SetupToken := []
  tokens : List PaymentToken := []
  payments : List PaymentRow := []
  idempotency : List IdempotencyRow := []
  statuses : String → Option MandateStatus := fun _ => none

/-- The body of a capture. -/
structure CaptureRequest where
  tokenId : String
  amount : PyDecimal
  currency : String
  idempotencyKey : String
  intentRef : String
  purchaseId : String
  mandateSdJwt : Option String
  checkoutJwt : Option String
  deriving DecidableEq

/-- What a capture meets: the keys that the issuer publishes, whether the issuer answers, the clock
in seconds, the moment of the capture, and a new id. -/
structure Env where
  keys : Option Keys
  reachable : Bool
  clock : ℤ
  capturedAt : ℤ
  paymentId : String

/-- What a capture raises. -/
inductive RailError where
  /-- `PaymentRefused`. -/
  | refused (reason : ReasonCode) (message : String)
  /-- Any other exception. -/
  | other (text : String)
  deriving DecidableEq

/-! ## Amounts -/

/-- The quotient by a positive number, rounded to the nearest integer, halves away from zero. -/
def roundHalfAway (n : ℤ) (d : ℕ) : ℤ :=
  if 0 ≤ n then (2 * n + d) / (2 * d) else -((2 * -n + d) / (2 * d))

/-- An amount in a column `NUMERIC(12,2)`; `none` when it does not fit. -/
def column : PyDecimal → Option Money
  | .finite d =>
    let cents := if -2 ≤ d.exp then d.cents else roundHalfAway d.coeff (10 ^ (-(d.exp + 2)).toNat)
    if cents.natAbs < 10 ^ 12 then some (.cents cents) else none
  | .nan => some .nan
  | _ => none

/-- `to_minor_units`, of a number with no more digits than the context keeps; `none` when it
raises. -/
def toMinorUnits : PyDecimal → Option ℤ
  | .finite d => some d.cents
  | _ => none

/-! ## Verification -/

/-- `VerificationResult`. -/
inductive VerificationResult where
  | refused (reason : ReasonCode) (detail : String)
  | ok (mandateJti : Json) (checkoutHash : Option String)

/-- `_reason_for`. -/
def reasonFor : MandateStatus → ReasonCode
  | .revoked => .mandateRevoked
  | .suspended => .mandateSuspended
  | .expired => .mandateExpired
  | .exhausted => .mandateExhausted
  | _ => .mandateSuspended

/-- The reason for a presentation that does not verify. -/
def SdJwtError.reason : SdJwtError → ReasonCode
  | .expired => .mandateExpired
  | .notYetValid => .mandateNotYetValid
  | .invalidKeyBinding => .invalidProofOfPossession
  | .invalidSignature => .invalidSignature

/-- A key of the JWKS, as `keys.get(kid)` finds it for a checkout. -/
def checkoutKey (keys : Keys) (kid : Json) : Except Raised (Option String) :=
  match kid with
  | .str s => .ok (keys.lookup s)
  | .arr _ => .error ⟨"unhashable type: 'list'", false⟩
  | .obj _ => .error ⟨"unhashable type: 'dict'", false⟩
  | _ => .ok none

section Captures

variable (J : Jose)

/-- The payload of a checkout under a published key: any exception is a refusal. -/
def checkoutPayload (keys : Keys) (checkoutJwt : String) :
    Except (ReasonCode × String) Json :=
  let failed (x : Raised) : ReasonCode × String :=
    (.invalidSignature, "checkout JWT does not verify: " ++ x.text)
  match J.peekHeader checkoutJwt with
  | .error x => .error (failed x)
  | .ok header =>
    match checkoutKey keys (header.get "kid") with
    | .error x => .error (failed x)
    | .ok none =>
      .error (.invalidSignature, "no published key for checkout kid=" ++ (header.get "kid").repr)
    | .ok (some key) => (J.verifyCompact checkoutJwt key).mapError failed

/-- `_check_checkout`: an uncaught exception, a refusal, or the hash of the checkout. -/
def checkCheckout (keys : Keys) (checkoutJwt : Option String) (amount : PyDecimal)
    (currency : String) : Except String (Except (ReasonCode × String) (Option String)) :=
  match checkoutJwt.filter (· ≠ "") with
  | none => .ok (.ok none)
  | some checkoutJwt =>
    match checkoutPayload J keys checkoutJwt with
    | .error refusal => .ok (.error refusal)
    | .ok (.obj checkout) =>
      match toMinorUnits amount with
      | none => .error "cannot convert to integer"
      | some charged =>
        if number (Fields.get checkout "total_price") ≠ some (charged : ℚ) then
          .ok (.error (.conditionFailed, "amount " ++ toString charged ++
            " does not match the signed checkout total " ++
              (Fields.get checkout "total_price").text))
        else
          match Fields.get checkout "currency" with
          | .str signed =>
            if signed ≠ currency then
              .ok (.error (.conditionFailed,
                "currency " ++ currency ++ " does not match the signed checkout"))
            else
              match J.digest checkoutJwt with
              | .error x => .error x.text
              | .ok hash => .ok (.ok (some hash))
          | _ => .ok (.error (.conditionFailed,
              "currency " ++ currency ++ " does not match the signed checkout"))
    | .ok _ => .error "the payload is not a dictionary"

/-- The last check: the issuer says that the mandate is active. -/
def checkStatus (statuses : String → Option MandateStatus) (reachable : Bool) (jti : Json)
    (checkoutHash : Option String) : VerificationResult :=
  match (statuses jti.text).filter fun _ => reachable with
  | none => .refused .railError ("issuer could not confirm mandate " ++ jti.text ++ " is live")
  | some .active => .ok jti checkoutHash
  | some status => .refused (reasonFor status) ("mandate is " ++ status.text)

/-- `AP2Verifier.verify`; `none` when an exception goes through. -/
def verifyMandate (s : Rail) (x : CaptureRequest) (e : Env) : Except String VerificationResult :=
  match x.mandateSdJwt.filter (· ≠ "") with
  | none => .ok (.refused .invalidSignature
      "no mandate presented — this rail does not charge on a merchant's word alone")
  | some sdJwt =>
    match e.keys with
    | none => .ok (.refused .railError "issuer JWKS unavailable")
    | some keys =>
      match verify J keys e.clock sdJwt with
      | .error (.sdJwt kind text) => .ok (.refused kind.reason text)
      | .error (.other text) => .error text
      | .ok claims =>
        match checkCheckout J keys x.checkoutJwt x.amount x.currency with
        | .error text => .error text
        | .ok (.error (reason, detail)) => .ok (.refused reason detail)
        | .ok (.ok checkoutHash) =>
          .ok (checkStatus s.statuses e.reachable (claims.get "jti") checkoutHash)

/-! ## Captures -/

/-- The settlement that is stored. -/
def Receipt.settlement (r : Receipt) : Settlement :=
  ⟨r.captureId, r.amount, r.currency, r.mandateJti, r.capturedAt, true⟩

/-- The row of an idempotency key. -/
def Rail.replay (s : Rail) (key : String) : Option IdempotencyRow :=
  s.idempotency.find? fun r => r.idempotencyKey = key

/-- `get_active_token`. -/
def Rail.activeToken (s : Rail) (tokenId : String) : Option PaymentToken :=
  s.tokens.find? fun t => t.tokenId = tokenId && t.active

/-- An id of a payment that is taken. -/
def Rail.taken (s : Rail) (paymentId : String) : Bool :=
  s.payments.any fun r => r.paymentId = paymentId

/-- `_record_refusal`, and the exception. -/
def refuse (s : Rail) (x : CaptureRequest) (e : Env) (reason : ReasonCode) (message : String) :
    Except RailError Settlement × Rail :=
  match column x.amount with
  | none => (.error (.other "numeric field overflow"), s)
  | some amount =>
    if s.taken e.paymentId then (.error (.other "duplicate key"), s)
    else (.error (.refused reason message), { s with payments := s.payments ++
      [⟨e.paymentId, x.tokenId, "unknown", amount, x.currency, .refused, some reason, none,
        x.intentRef⟩] })

/-- The settlement: both rows in one flush. A key that is taken rolls back, and answers what its
winner stored. -/
def settle (s : Rail) (x : CaptureRequest) (e : Env) (jti : Json) (checkoutHash : Option String) :
    Except RailError Settlement × Rail :=
  match jti, column x.amount with
  | .str jti, some amount =>
    if s.taken e.paymentId ∨ (s.replay x.idempotencyKey).isSome then
      match s.replay x.idempotencyKey with
      | none => (.error (.other "duplicate key"), s)
      | some winner => (.ok winner.response.settlement, s)
    else
      (.ok ⟨e.paymentId, x.amount, x.currency, jti, e.capturedAt, false⟩,
        { s with
          payments := s.payments ++ [⟨e.paymentId, x.tokenId, jti, amount, x.currency, .captured,
            none, checkoutHash, x.intentRef⟩]
          idempotency := s.idempotency ++ [⟨x.idempotencyKey, e.paymentId,
            ⟨x.purchaseId, e.paymentId, x.amount, x.currency, e.capturedAt, jti⟩⟩] })
  | _, _ => (.error (.other "the row does not fit its columns"), s)

/-- **`capture`**. -/
def capture (s : Rail) (x : CaptureRequest) (e : Env) : Except RailError Settlement × Rail :=
  match s.replay x.idempotencyKey with
  | some replay => (.ok replay.response.settlement, s)
  | none =>
    match s.activeToken x.tokenId with
    | none =>
      if s.tokens.any fun t => t.tokenId = x.tokenId then
        refuse s x e .railTokenDeleted
          "the payment token was deleted — this is the rail-side half of revocation"
      else refuse s x e .railError "unknown payment token"
    | some _ =>
      match verifyMandate J s x e with
      | .error text => (.error (.other text), s)
      | .ok (.refused reason detail) => refuse s x e reason detail
      | .ok (.ok jti checkoutHash) => settle s x e jti checkoutHash

/-! ## Enrolment -/

/-- `create_setup_token`, with a new id; it lives for three days. -/
def createSetupToken (s : Rail) (mandateId setupTokenId : String) (now : ℤ) : Except String Rail :=
  if s.setups.any fun t => t.setupTokenId = setupTokenId then .error "duplicate key"
  else .ok { s with setups := s.setups ++ [⟨setupTokenId, mandateId, .pending,
    "/simulated-approval/" ++ setupTokenId, now + 3 * 86400 * 1000000⟩] }

/-- Give a setup token another status, where it has one. -/
def Rail.setSetup (s : Rail) (setupTokenId : String) (source target : Option SetupStatus) : Rail :=
  { s with setups := s.setups.map fun t =>
      if t.setupTokenId = setupTokenId ∧ ∀ status ∈ source, t.status = status then
        { t with status := target.getD t.status }
      else t }

/-- `approve_setup_token`. -/
def approveSetupToken (s : Rail) (setupTokenId : String) : Except String Rail :=
  if s.setups.any fun t => t.setupTokenId = setupTokenId && t.status = .pending then
    .ok (s.setSetup setupTokenId (some .pending) (some .approved))
  else .error ("setup token " ++ setupTokenId ++ " is not pending")

/-- `exchange`, with a new id for the token. -/
def exchange (s : Rail) (setupTokenId tokenId : String) (now : ℤ) : Except String Rail :=
  match s.setups.find? fun t => t.setupTokenId = setupTokenId with
  | none => .error "unknown setup token"
  | some row =>
    if row.status = .exchanged then .error "setup token already exchanged"
    else if row.status ≠ .approved then
      .error ("setup token has not been approved by the human yet — " ++
        "the whole point of enrollment is that a person agreed once")
    else if row.expiresAt < now then .error "setup token expired"
    else if s.tokens.any fun t => t.tokenId = tokenId then .error "duplicate key"
    else
      .ok { s.setSetup setupTokenId none (some .exchanged) with tokens := s.tokens ++
        [⟨tokenId, setupTokenId, row.mandateId, true, "VISA ****4242 (simulated)"⟩] }

/-- `delete_token`. -/
def deleteToken (s : Rail) (tokenId : String) : Rail :=
  { s with tokens := s.tokens.map fun t =>
      if t.tokenId = tokenId ∧ t.active = true then { t with active := false } else t }

/-! ## Histories -/

/-- What happens: a request, or a new status at the issuer. -/
inductive Act where
  | enroll (mandateId setupTokenId : String) (now : ℤ)
  | approve (setupTokenId : String)
  | exchange (setupTokenId tokenId : String) (now : ℤ)
  | deleteToken (tokenId : String)
  | capture (x : CaptureRequest) (e : Env)
  | issuerStatus (jti : String) (status : Option MandateStatus)

/-- The tables after a request; one that raises is rolled back. -/
def kept (s : Rail) : Except String Rail → Rail
  | .ok s' => s'
  | .error _ => s

/-- The tables after a capture; one that raises is rolled back. -/
def keptCapture (s : Rail) : Except RailError Settlement × Rail → Rail
  | (.ok _, s') => s'
  | (.error _, _) => s

/-- **One act.** -/
def step (s : Rail) : Act → Rail
  | .enroll mandateId setupTokenId now => kept s (createSetupToken s mandateId setupTokenId now)
  | .approve setupTokenId => kept s (approveSetupToken s setupTokenId)
  | .exchange setupTokenId tokenId now => kept s (Yuno.exchange s setupTokenId tokenId now)
  | .deleteToken tokenId => Yuno.deleteToken s tokenId
  | .capture x e => keptCapture s (Yuno.capture J s x e)
  | .issuerStatus jti status => { s with statuses := Function.update s.statuses jti status }

/-- The tables after acts, from empty ones. -/
def run (acts : List Act) : Rail := acts.foldl (step J) {}

/-! ## What is claimed -/

/-- A setup token was created for a mandate. -/
def Created (acts : List Act) (setupTokenId mandateId : String) : Prop :=
  ∃ pre now post, acts = pre ++ .enroll mandateId setupTokenId now :: post

/-- It was approved after that. -/
def Approved (acts : List Act) (setupTokenId mandateId : String) : Prop :=
  ∃ pre post, acts = pre ++ .approve setupTokenId :: post ∧ Created pre setupTokenId mandateId

/-- **A token was enrolled for a mandate**: it was exchanged for a setup token, created for the
mandate and approved before. -/
def Enrolled (acts : List Act) (tokenId setupTokenId mandateId : String) : Prop :=
  ∃ pre now post, acts = pre ++ .exchange setupTokenId tokenId now :: post ∧
    Approved pre setupTokenId mandateId

/-- The payload of a checkout, signed under a published key. -/
def CheckoutSigned (keys : Keys) (checkoutJwt : String) (checkout : Fields) : Prop :=
  ∃ header kid key, J.peekHeader checkoutJwt = .ok header ∧ header.get "kid" = .str kid ∧
    keys.lookup kid = some key ∧ J.verifyCompact checkoutJwt key = .ok (.obj checkout)

/-- **The mandate of a captured payment**: presented in the call, signed by the issuer, in its
window, and active when the call asked. -/
structure MandateOk (s : Rail) (x : CaptureRequest) (e : Env) (r : PaymentRow) : Prop where
  presented : ∃ sdJwt keys signed claims, x.mandateSdJwt = some sdJwt ∧ e.keys = some keys ∧
    Signed J keys sdJwt signed ∧ InWindow signed e.clock ∧
      verify J keys e.clock sdJwt = .ok claims ∧ claims.get "jti" = .str r.mandateJti
  active : s.statuses r.mandateJti = some .active

/-- **The amount of a captured payment**: the signed total of the checkout that was presented, in
the signed currency. -/
def AmountOk (x : CaptureRequest) (e : Env) (r : PaymentRow) : Prop :=
  ∀ checkoutJwt ∈ x.checkoutJwt.filter (· ≠ ""), ∃ keys checkout cents, e.keys = some keys ∧
    CheckoutSigned J keys checkoutJwt checkout ∧ r.amount = .cents cents ∧
      number (Fields.get checkout "total_price") = some (cents : ℚ) ∧
        Fields.get checkout "currency" = .str r.currency

/-- The amount of a request has at most two decimals. -/
def WholeCents : PyDecimal → Prop
  | .finite d => d.isCents d.cents = true
  | _ => True

instance (amount : PyDecimal) : Decidable (WholeCents amount) := by
  cases amount <;> unfold WholeCents <;> infer_instance

/-- Every captured payment comes from a capture of which something holds. -/
def Captures (Q : List Act → CaptureRequest → Env → PaymentRow → Prop) (acts : List Act) : Prop :=
  ∀ r ∈ (run J acts).payments, r.status = .captured →
    ∃ pre x e post, acts = pre ++ .capture x e :: post ∧ Q pre x e r

/-- What a captured payment was made with, by the claim: among others, a token of that mandate. -/
structure Claimed (pre : List Act) (x : CaptureRequest) (e : Env) (r : PaymentRow) : Prop where
  token : ∃ t ∈ (run J pre).tokens, t.tokenId = r.tokenId ∧ t.active = true ∧
    Enrolled pre t.tokenId t.setupTokenId r.mandateJti
  mandate : MandateOk J (run J pre) x e r
  amount : AmountOk J x e r

/-- **What a captured payment was made with**: a token that was enrolled for its own mandate, and
the total of the checkout where the request names whole cents. -/
structure Settled (pre : List Act) (x : CaptureRequest) (e : Env) (r : PaymentRow) : Prop where
  token : ∃ t ∈ (run J pre).tokens, t.tokenId = r.tokenId ∧ t.active = true ∧
    Enrolled pre t.tokenId t.setupTokenId t.mandateId
  mandate : MandateOk J (run J pre) x e r
  amount : WholeCents x.amount → AmountOk J x e r

/-! ## What a capture does -/

variable {J} {s s' : Rail} {x : CaptureRequest} {e : Env}

theorem roundHalfAway_mul (n : ℤ) {d : ℕ} (hd : 0 < d) : roundHalfAway (n * d) d = n := by
  have hd' : (0 : ℤ) < d := by omega
  rw [roundHalfAway]
  split_ifs with hn
  · have hmul : 2 * (n * d) + d = d + n * (2 * d) := by ring
    rw [hmul, Int.add_mul_ediv_right _ _ (by omega), Int.ediv_eq_zero_of_lt (by omega) (by omega),
      zero_add]
  · have hmul : 2 * -(n * d) + d = d + -n * (2 * d) := by ring
    rw [hmul, Int.add_mul_ediv_right _ _ (by omega), Int.ediv_eq_zero_of_lt (by omega) (by omega),
      zero_add, neg_neg]

/-- **Whole cents** are stored as the verifier counts them. -/
theorem column_of_wholeCents {amount : PyDecimal} {m : Money} {cents : ℤ}
    (hwhole : WholeCents amount) (hcolumn : column amount = some m)
    (hminor : toMinorUnits amount = some cents) : m = .cents cents := by
  cases amount with
  | finite d =>
    obtain rfl := Option.some.inj hminor
    have hround : (if -2 ≤ d.exp then d.cents
        else roundHalfAway d.coeff (10 ^ (-(d.exp + 2)).toNat)) = d.cents := by
      split_ifs with hexp
      · rfl
      · have hcoeff : d.coeff = d.cents * 10 ^ (-(d.exp + 2)).toNat := by
          rw [WholeCents, Dec.isCents, if_neg hexp] at hwhole
          exact of_decide_eq_true hwhole
        have hpos : 0 < 10 ^ (-(d.exp + 2)).toNat := Nat.pow_pos (by decide)
        rw [hcoeff]
        exact_mod_cast roundHalfAway_mul d.cents hpos
    rw [column, hround] at hcolumn
    split_ifs at hcolumn
    exact (Option.some.inj hcolumn).symm
  | infinity => cases hminor
  | nan => cases hminor
  | signalingNan => cases hminor

theorem checkoutPayload_ok {keys : Keys} {checkoutJwt : String} {checkout : Fields}
    (h : checkoutPayload J keys checkoutJwt = .ok (.obj checkout)) :
    CheckoutSigned J keys checkoutJwt checkout := by
  rw [checkoutPayload] at h
  dsimp only at h
  cases hheader : J.peekHeader checkoutJwt with
  | error x =>
    rw [hheader] at h
    cases h
  | ok header =>
    rw [hheader] at h
    dsimp only at h
    cases hkey : checkoutKey keys (header.get "kid") with
    | error x =>
      rw [hkey] at h
      cases h
    | ok found =>
      cases found with
      | none =>
        rw [hkey] at h
        cases h
      | some key =>
        rw [hkey] at h
        dsimp only at h
        cases hpayload : J.verifyCompact checkoutJwt key with
        | error x =>
          rw [hpayload] at h
          cases h
        | ok payload =>
          rw [hpayload] at h
          obtain rfl := Except.ok.inj h
          cases hkid : header.get "kid" with
          | str kid =>
            rw [hkid] at hkey
            exact ⟨header, kid, key, hheader, hkid, Except.ok.inj hkey, hpayload⟩
          | _ =>
            rw [hkid] at hkey
            cases hkey

/-- A checkout that was presented and passes: signed, with the total and the currency. -/
theorem checkCheckout_ok {keys : Keys} {checkoutJwt : Option String} {amount : PyDecimal}
    {currency : String} {hash : Option String}
    (h : checkCheckout J keys checkoutJwt amount currency = .ok (.ok hash)) :
    ∀ token ∈ checkoutJwt.filter (· ≠ ""), ∃ checkout charged,
      CheckoutSigned J keys token checkout ∧ toMinorUnits amount = some charged ∧
        number (Fields.get checkout "total_price") = some (charged : ℚ) ∧
          Fields.get checkout "currency" = .str currency := by
  intro token htoken
  rw [checkCheckout, Option.mem_def.1 htoken] at h
  dsimp only at h
  cases hpayload : checkoutPayload J keys token with
  | error refusal =>
    rw [hpayload] at h
    cases h
  | ok payload =>
    rw [hpayload] at h
    cases payload with
    | obj checkout =>
      dsimp only at h
      cases hcharged : toMinorUnits amount with
      | none =>
        rw [hcharged] at h
        cases h
      | some charged =>
        rw [hcharged] at h
        dsimp only at h
        split_ifs at h with htotal
        · cases h
        · cases hcurrency : Fields.get checkout "currency" with
          | str signed =>
            rw [hcurrency] at h
            dsimp only at h
            split_ifs at h with hsigned
            · cases h
            · exact ⟨checkout, charged, checkoutPayload_ok hpayload, rfl, not_not.1 htotal,
                by rw [hcurrency, not_not.1 hsigned]⟩
          | _ =>
            rw [hcurrency] at h
            cases h
    | _ => cases h

theorem checkStatus_ok {statuses : String → Option MandateStatus} {reachable : Bool}
    {jti jti' : Json} {hash hash' : Option String}
    (h : checkStatus statuses reachable jti hash = .ok jti' hash') :
    jti' = jti ∧ hash' = hash ∧ statuses jti.text = some .active := by
  rw [checkStatus] at h
  cases hstatus : (statuses jti.text).filter fun _ => reachable with
  | none =>
    rw [hstatus] at h
    cases h
  | some status =>
    rw [hstatus] at h
    cases status with
    | active =>
      cases h
      exact ⟨rfl, rfl, (Option.filter_eq_some_iff.1 hstatus).1⟩
    | _ => cases h

/-- **What the verifier accepts**: a mandate that is signed, in its window and active, and a
checkout with the amount and the currency. -/
theorem verifyMandate_ok {jti : Json} {hash : Option String}
    (h : verifyMandate J s x e = .ok (.ok jti hash)) :
    (∃ sdJwt keys signed claims, x.mandateSdJwt = some sdJwt ∧ e.keys = some keys ∧
      Signed J keys sdJwt signed ∧ InWindow signed e.clock ∧
        verify J keys e.clock sdJwt = .ok claims ∧ claims.get "jti" = jti ∧
          checkCheckout J keys x.checkoutJwt x.amount x.currency = .ok (.ok hash)) ∧
      s.statuses jti.text = some .active := by
  rw [verifyMandate] at h
  cases hmandate : x.mandateSdJwt.filter (· ≠ "") with
  | none =>
    rw [hmandate] at h
    cases h
  | some sdJwt =>
    rw [hmandate] at h
    dsimp only at h
    cases hkeys : e.keys with
    | none =>
      rw [hkeys] at h
      cases h
    | some keys =>
      rw [hkeys] at h
      dsimp only at h
      cases hverify : verify J keys e.clock sdJwt with
      | error failure =>
        rw [hverify] at h
        cases failure <;> cases h
      | ok claims =>
        rw [hverify] at h
        dsimp only at h
        cases hcheckout : checkCheckout J keys x.checkoutJwt x.amount x.currency with
        | error text =>
          rw [hcheckout] at h
          cases h
        | ok binding =>
          rw [hcheckout] at h
          cases binding with
          | error refusal => cases h
          | ok checkoutHash =>
            obtain ⟨rfl, rfl, hactive⟩ := checkStatus_ok (Except.ok.inj h)
            obtain ⟨signed, hsigned, hwindow⟩ := verify_ok hverify
            exact ⟨⟨sdJwt, keys, signed, claims, (Option.filter_eq_some_iff.1 hmandate).1, rfl,
              hsigned, hwindow, hverify, rfl, hcheckout⟩, hactive⟩

/-- A captured row and the facts of its capture, in the tables before it. -/
structure CapturedBy (J : Jose) (s : Rail) (x : CaptureRequest) (e : Env) (r : PaymentRow) :
    Prop where
  token : ∃ t, s.activeToken x.tokenId = some t ∧ r.tokenId = x.tokenId
  mandate : MandateOk J s x e r
  amount : WholeCents x.amount → AmountOk J x e r

theorem refuse_error (reason : ReasonCode) (message : String) :
    ∃ error, (refuse s x e reason message).1 = .error error := by
  rw [refuse]
  cases column x.amount with
  | none => exact ⟨_, rfl⟩
  | some amount =>
    dsimp only
    split_ifs <;> exact ⟨_, rfl⟩

/-- What a settlement adds. -/
theorem settle_ok {jti : Json} {hash : Option String} {settlement : Settlement}
    (h : settle s x e jti hash = (.ok settlement, s')) : s' = s ∨
      ∃ j amount idempotency, jti = .str j ∧ column x.amount = some amount ∧ s' = { s with
        payments := s.payments ++ [⟨e.paymentId, x.tokenId, j, amount, x.currency, .captured, none,
          hash, x.intentRef⟩]
        idempotency := idempotency } := by
  unfold settle at h
  cases jti with
  | str j =>
    cases hcolumn : column x.amount with
    | none =>
      rw [hcolumn] at h
      cases h
    | some amount =>
      rw [hcolumn] at h
      dsimp only at h
      split_ifs at h with htaken
      · cases hreplay : s.replay x.idempotencyKey with
        | none =>
          rw [hreplay] at h
          cases h
        | some winner =>
          rw [hreplay] at h
          exact .inl (Prod.mk.inj h).2.symm
      · exact .inr ⟨j, amount, _, rfl, rfl, (Prod.mk.inj h).2.symm⟩
  | _ => cases h

/-- **What a capture adds**: nothing, or one captured row of which the facts hold. -/
theorem capture_ok {settlement : Settlement} (h : capture J s x e = (.ok settlement, s')) :
    s' = s ∨ ∃ r idempotency, CapturedBy J s x e r ∧
      s' = { s with payments := s.payments ++ [r], idempotency := idempotency } := by
  rw [capture] at h
  cases hreplay : s.replay x.idempotencyKey with
  | some replay =>
    rw [hreplay] at h
    exact .inl (Prod.mk.inj h).2.symm
  | none =>
    rw [hreplay] at h
    dsimp only at h
    cases htoken : s.activeToken x.tokenId with
    | none =>
      rw [htoken] at h
      dsimp only at h
      split_ifs at h
      · obtain ⟨error, herror⟩ := refuse_error (s := s) (x := x) (e := e) .railTokenDeleted
          "the payment token was deleted — this is the rail-side half of revocation"
        rw [h] at herror
        cases herror
      · obtain ⟨error, herror⟩ := refuse_error (s := s) (x := x) (e := e) .railError
          "unknown payment token"
        rw [h] at herror
        cases herror
    | some t =>
      rw [htoken] at h
      dsimp only at h
      cases hverdict : verifyMandate J s x e with
      | error text =>
        rw [hverdict] at h
        cases h
      | ok verdict =>
        rw [hverdict] at h
        cases verdict with
        | refused reason detail =>
          obtain ⟨error, herror⟩ := refuse_error (s := s) (x := x) (e := e) reason detail
          dsimp only at h
          rw [h] at herror
          cases herror
        | ok jti hash =>
          rcases settle_ok h with hsame | ⟨j, amount, idempotency, rfl, hcolumn, rfl⟩
          · exact .inl hsame
          · obtain ⟨⟨sdJwt, keys, signed, claims, hpresented, hkeys, hsigned, hwindow, hverify,
              hjti, hcheckout⟩, hactive⟩ := verifyMandate_ok hverdict
            refine .inr ⟨_, idempotency, ⟨⟨t, htoken, rfl⟩, ⟨⟨sdJwt, keys, signed, claims,
              hpresented, hkeys, hsigned, hwindow, hverify, hjti⟩, hactive⟩, ?_⟩, rfl⟩
            intro hwhole token hpresent
            obtain ⟨checkout, charged, hpayload, hminor, htotal, hcurrency⟩ :=
              checkCheckout_ok hcheckout token hpresent
            exact ⟨keys, checkout, charged, hkeys, hpayload,
              column_of_wholeCents hwhole hcolumn hminor, htotal, hcurrency⟩

/-! ## Histories -/

theorem created_append {acts later : List Act} {setupTokenId mandateId : String}
    (h : Created acts setupTokenId mandateId) : Created (acts ++ later) setupTokenId mandateId := by
  obtain ⟨pre, now, post, rfl⟩ := h
  exact ⟨pre, now, post ++ later, by simp⟩

theorem approved_append {acts later : List Act} {setupTokenId mandateId : String}
    (h : Approved acts setupTokenId mandateId) :
    Approved (acts ++ later) setupTokenId mandateId := by
  obtain ⟨pre, post, rfl, hcreated⟩ := h
  exact ⟨pre, post ++ later, by simp, hcreated⟩

theorem enrolled_append {acts later : List Act} {tokenId setupTokenId mandateId : String}
    (h : Enrolled acts tokenId setupTokenId mandateId) :
    Enrolled (acts ++ later) tokenId setupTokenId mandateId := by
  obtain ⟨pre, now, post, rfl, happroved⟩ := h
  exact ⟨pre, now, post ++ later, by simp, happroved⟩

/-- **The tables of a history**: setup tokens were created, those that are approved were approved,
and payment tokens were enrolled. -/
structure TablesOk (acts : List Act) (s : Rail) : Prop where
  created : ∀ t ∈ s.setups, Created acts t.setupTokenId t.mandateId
  approved : ∀ t ∈ s.setups, t.status = .approved → Approved acts t.setupTokenId t.mandateId
  enrolled : ∀ t ∈ s.tokens, Enrolled acts t.tokenId t.setupTokenId t.mandateId

/-- The tables are as good after more acts. -/
theorem TablesOk.later {acts : List Act} (h : TablesOk acts s) (later : List Act) :
    TablesOk (acts ++ later) s :=
  ⟨fun t ht => created_append (h.created t ht),
    fun t ht hstatus => approved_append (h.approved t ht hstatus),
    fun t ht => enrolled_append (h.enrolled t ht)⟩

theorem TablesOk.congr {acts : List Act} (h : TablesOk acts s) (hsetups : s'.setups = s.setups)
    (htokens : s'.tokens = s.tokens) : TablesOk acts s' :=
  ⟨by rw [hsetups]; exact h.created, by rw [hsetups]; exact h.approved,
    by rw [htokens]; exact h.enrolled⟩

theorem setSetup_mem {id : String} {source target : Option SetupStatus} {t : SetupToken}
    (h : t ∈ (s.setSetup id source target).setups) : ∃ t₀ ∈ s.setups,
      t.setupTokenId = t₀.setupTokenId ∧ t.mandateId = t₀.mandateId ∧
        (t = t₀ ∨ t₀.setupTokenId = id ∧ t.status = target.getD t₀.status) := by
  obtain ⟨t₀, ht₀, rfl⟩ := List.mem_map.1 h
  refine ⟨t₀, ht₀, ?_⟩
  split_ifs with hmatch
  · exact ⟨rfl, rfl, .inr ⟨hmatch.1, rfl⟩⟩
  · exact ⟨rfl, rfl, .inl rfl⟩

/-- **One act** keeps the tables of its history. -/
theorem tablesOk_step {acts : List Act} (h : TablesOk acts s) (a : Act) :
    TablesOk (acts ++ [a]) (step J s a) := by
  cases a with
  | enroll mandateId setupTokenId now =>
    rw [step, createSetupToken]
    split_ifs with htaken
    · exact h.later _
    · have hnew : Created (acts ++ [.enroll mandateId setupTokenId now]) setupTokenId mandateId :=
        ⟨acts, now, [], rfl⟩
      refine ⟨fun t ht => ?_, fun t ht hstatus => ?_, (h.later _).enrolled⟩
      · rcases List.mem_append.1 ht with hold | hlast
        · exact created_append (h.created t hold)
        · rw [List.mem_singleton.1 hlast]
          exact hnew
      · rcases List.mem_append.1 ht with hold | hlast
        · exact approved_append (h.approved t hold hstatus)
        · rw [List.mem_singleton.1 hlast] at hstatus
          cases hstatus
  | approve setupTokenId =>
    rw [step, approveSetupToken]
    split_ifs with hpending
    · refine ⟨fun t ht => ?_, fun t ht hstatus => ?_, (h.later _).enrolled⟩
      · obtain ⟨t₀, ht₀, hid, hmandate, -⟩ := setSetup_mem ht
        rw [hid, hmandate]
        exact created_append (h.created t₀ ht₀)
      · obtain ⟨t₀, ht₀, hid, hmandate, hsame | ⟨hmatch, -⟩⟩ := setSetup_mem ht
        · rw [hsame] at hstatus ⊢
          exact approved_append (h.approved t₀ ht₀ hstatus)
        · rw [hid, hmandate]
          refine ⟨acts, [], ?_, h.created t₀ ht₀⟩
          rw [hmatch]
    · exact h.later _
  | exchange setupTokenId tokenId now =>
    rw [step, Yuno.exchange]
    cases hfind : s.setups.find? fun t => t.setupTokenId = setupTokenId with
    | none => exact h.later _
    | some row =>
      dsimp only
      split_ifs with h1 h2 h3 h4
      · exact h.later _
      · exact h.later _
      · exact h.later _
      · exact h.later _
      · have hrow := List.mem_of_find?_eq_some hfind
        have hid : row.setupTokenId = setupTokenId := by simpa using List.find?_some hfind
        have happroved := h.approved row hrow (not_not.1 h2)
        rw [hid] at happroved
        refine ⟨fun t ht => ?_, fun t ht hstatus => ?_, fun t ht => ?_⟩
        · obtain ⟨t₀, ht₀, hid, hmandate, -⟩ := setSetup_mem ht
          rw [hid, hmandate]
          exact created_append (h.created t₀ ht₀)
        · obtain ⟨t₀, ht₀, hid, hmandate, hsame | ⟨-, hexchanged⟩⟩ := setSetup_mem ht
          · rw [hsame] at hstatus ⊢
            exact approved_append (h.approved t₀ ht₀ hstatus)
          · rw [hstatus] at hexchanged
            cases hexchanged
        · rcases List.mem_append.1 ht with hold | hlast
          · exact enrolled_append (h.enrolled t hold)
          · rw [List.mem_singleton.1 hlast]
            exact ⟨acts, now, [], rfl, happroved⟩
  | deleteToken tokenId =>
    refine ⟨(h.later _).created, (h.later _).approved, fun t ht => ?_⟩
    obtain ⟨t₀, ht₀, rfl⟩ := List.mem_map.1 ht
    have henrolled := (h.later [.deleteToken tokenId]).enrolled t₀ ht₀
    split_ifs <;> exact henrolled
  | capture x e =>
    rw [step]
    cases hcapture : Yuno.capture J s x e with
    | mk answer s' =>
      cases answer with
      | error error => exact h.later _
      | ok settlement =>
        rcases capture_ok hcapture with rfl | ⟨r, idempotency, -, rfl⟩
        · exact h.later _
        · exact (h.later _).congr rfl rfl
  | issuerStatus jti status => exact (h.later _).congr rfl rfl

theorem run_append (acts : List Act) (a : Act) : run J (acts ++ [a]) = step J (run J acts) a :=
  List.foldl_append

/-- **The tables of every history.** -/
theorem tablesOk_run (acts : List Act) : TablesOk acts (run J acts) := by
  induction acts using List.reverseRecOn with
  | nil =>
    refine ⟨fun t ht => ?_, fun t ht => ?_, fun t ht => ?_⟩ <;> cases ht
  | append_singleton acts a ih =>
    rw [run_append]
    exact tablesOk_step ih a

/-- The payments after an act: those before, and one that a capture made. -/
theorem payments_step {r : PaymentRow} (a : Act) (h : r ∈ (step J s a).payments) :
    r ∈ s.payments ∨ ∃ x e, a = .capture x e ∧ CapturedBy J s x e r := by
  cases a with
  | enroll mandateId setupTokenId now =>
    rw [step, createSetupToken] at h
    split_ifs at h <;> exact .inl h
  | approve setupTokenId =>
    rw [step, approveSetupToken] at h
    split_ifs at h <;> exact .inl h
  | exchange setupTokenId tokenId now =>
    rw [step, Yuno.exchange] at h
    cases hfind : s.setups.find? fun t => t.setupTokenId = setupTokenId with
    | none =>
      rw [hfind] at h
      exact .inl h
    | some row =>
      rw [hfind] at h
      dsimp only at h
      split_ifs at h <;> exact .inl h
  | deleteToken tokenId => exact .inl h
  | capture x e =>
    rw [step] at h
    cases hcapture : Yuno.capture J s x e with
    | mk answer s' =>
      rw [hcapture] at h
      cases answer with
      | error error => exact .inl h
      | ok settlement =>
        rcases capture_ok hcapture with rfl | ⟨row, idempotency, hcaptured, rfl⟩
        · exact .inl h
        · rcases List.mem_append.1 h with hold | hlast
          · exact .inl hold
          · rw [List.mem_singleton.1 hlast]
            exact .inr ⟨x, e, rfl, hcaptured⟩
  | issuerStatus jti status => exact .inl h

theorem enroll_mem {acts : List Act} {tokenId setupTokenId mandateId : String}
    (h : Enrolled acts tokenId setupTokenId mandateId) :
    ∃ now, Act.enroll mandateId setupTokenId now ∈ acts := by
  obtain ⟨_, _, _, rfl, _, _, rfl, _, now, _, rfl⟩ := h
  exact ⟨now, by simp⟩

end Captures

/-! ## A token of another mandate -/

/-- Tokens that carry their own payloads, under one key. -/
def plainJose : Jose where
  peekHeader _ := .ok [("kid", .str "v1")]
  verifyCompact token _ :=
    if token = "b" then
      .ok (.obj [("jti", .str "mnd_b"), ("nbf", .num 0 0), ("exp", .num 9 0)])
    else .ok (.obj [("total_price", .num 13002 0), ("currency", .str "USD")])
  digest text := .ok text
  decodeDisclosure _ := .error ⟨"no disclosure", false⟩
  jwkFromDict _ := .error ⟨"no key", true⟩

/-- A capture under mandate `mnd_b`, of a checkout over 130.02. -/
def plainCapture (amount : Dec) : CaptureRequest where
  tokenId := "ynt_1"
  amount := .finite amount
  currency := "USD"
  idempotencyKey := "idem_1"
  intentRef := "int_1"
  purchaseId := "pur_1"
  mandateSdJwt := some "b~"
  checkoutJwt := some "c"

/-- An issuer that answers. -/
def plainEnv : Env := ⟨some [("v1", "key_1")], true, 5, 5000000, "ynp_1"⟩

/-- A token enrolled for a mandate, and a capture under `mnd_b`. -/
def enrolThenCapture (mandateId : String) (amount : Dec) : List Act :=
  [.enroll mandateId "yst_1" 0, .approve "yst_1", .exchange "yst_1" "ynt_1" 0,
    .issuerStatus "mnd_b" (some .active), .capture (plainCapture amount) plainEnv]

/-- The row that it captures. -/
def plainRow (cents : ℤ) : PaymentRow :=
  ⟨"ynp_1", "ynt_1", "mnd_b", .cents cents, "USD", .captured, none, some "c", "int_1"⟩

theorem payments_otherToken :
    (run plainJose (enrolThenCapture "mnd_a" ⟨13002, -2⟩)).payments = [plainRow 13002] := by
  decide +kernel

theorem payments_halfCent :
    (run plainJose (enrolThenCapture "mnd_b" ⟨130025, -3⟩)).payments = [plainRow 13003] := by
  decide +kernel

end TryTrust.Yuno
