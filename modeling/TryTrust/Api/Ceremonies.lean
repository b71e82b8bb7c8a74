import TryTrust.Api.Mandates
import TryTrust.Conc.Cell
import TryTrust.Conc.Transaction

/-!
# Concurrent ceremonies

The routes that register a passkey and that create, activate and revoke a mandate, statement by
statement: each request one transaction, and any number of them at once.

* `Desk`, `Call`, `exec`, `sem`: the tables and the statements; a statement that waits for a lock in
  vain raises;
* `rewriteRow`, `insertRow`: a guarded `UPDATE` and an `INSERT` of one row;
* `verifyGesture`, `moveTo`, `createMandate`, `assertPasskey`, `beginRevoke`, `revokeMandate`;
* `Work`, `ceremonySystem`: what a request has been answered, and the requests as a system.
-/

namespace TryTrust.Api.Ceremonies

open Conc Mandates

/-! ## Tables -/

/-- A row of `mandates`, with the signed mandate. -/
structure Row extends Mandate where
  sdJwt : Option String := none

/-- The key of a row of `webauthn_challenges`. -/
abbrev Key : Type := String × Purpose

/-- The key of a challenge. -/
def keyOf (r : ChallengeRow) : Key := (r.challenge, r.purpose)

/-- The tables, and the events that open transactions have inserted. -/
structure Desk (ι : Type) where
  mandates : String → Cell ι (Option Row)
  challenges : Key → Cell ι (Option ChallengeRow)
  credentials : Table ι String (Option Credential)
  instruments : Table ι String (Option Instrument)
  outbox : List OutboxEvent
  events : ι → List OutboxEvent

/-- `MandateCreate`. -/
structure MandateCreate where
  userId : String
  terms : Json

/-- A call of a session, or of what a request meets. -/
inductive Call (ι : Type) where
  /-- `get_mandate`, `_current_status`. -/
  | selectMandate (i : ι) (id : String)
  | insertMandate (i : ι) (claims : Claims)
  /-- The guarded `UPDATE` of `transition`. -/
  | updateStatus (i : ι) (id : String) (target : MandateStatus)
  | attachSdJwt (i : ι) (id : String) (sdJwt : String) (claims : Claims)
  | credentialsFor (i : ι) (userId : String)
  | getCredential (i : ι) (id : String)
  | storeCredential (i : ι) (c : Credential)
  | advanceSignCount (i : ι) (id : String) (n : ℕ)
  | storeChallenge (i : ι) (c : ChallengeRow)
  | consumeChallenge (i : ι) (value : String) (purpose : Purpose)
  | linkInstrument (i : ι) (tokenRef mandateJti : String)
  | instrumentsFor (i : ι) (mandateJti : String)
  | markInstrumentDeleted (i : ι) (tokenRef : String)
  | emitEvent (i : ι) (event : OutboxEvent)
  /-- `datetime.now(UTC)`. -/
  | now (i : ι)
  /-- `build_claims`. -/
  | buildClaims (i : ι) (body : MandateCreate)
  /-- The random challenge of a registration. -/
  | newChallenge (i : ι)
  /-- The calls of the rail. -/
  | createSetupToken (i : ι) (mandateId : String)
  | deletePaymentToken (i : ι) (tokenRef : String)
  | commit (i : ι)
  | rollback (i : ι)

/-- The answer of a call. -/
def Res {ι : Type} : Call ι → Type
  | .selectMandate .. => Option Row
  | .updateStatus .. => Option Row
  | .attachSdJwt .. => Option Row
  | .credentialsFor .. => List Credential
  | .getCredential .. => Option Credential
  | .advanceSignCount .. => Option Credential
  | .consumeChallenge .. => Option ChallengeRow
  | .instrumentsFor .. => List String
  | .markInstrumentDeleted .. => Option Instrument
  | .now _ => ℤ
  | .buildClaims .. => Claims
  | .newChallenge _ => String
  | .createSetupToken .. => String
  | _ => Unit

/-- The exceptions. -/
inductive Err where
  /-- `HTTPException`. -/
  | http (status : ℕ) (detail : String)
  /-- `IntegrityError`. -/
  | integrity
  /-- Any other exception. -/
  | failure (message : String)
  deriving DecidableEq

/-- What is outside: the passkeys; the check of a registration, which answers the id, the key and
the counter of the new credential; the terms of the claims, with the key of the agent; the signature
of the issuer over claims and what they disclose. -/
structure Registry where
  passkeys : Passkeys
  verifyRegistration : String → String → Option (String × String × ℕ)
  terms : MandateCreate → String → Json
  sign : Claims → Fields → String

/-- What a call meets: the exception that it raises, if any, the moment, and new values. -/
structure Outside where
  raises : Option Err := none
  now : ℤ := 0
  jti : String := ""
  agentKey : String := ""
  challenge : String := ""
  setupToken : String := ""

/-- A program of a session. -/
abbrev Tx (ι α : Type) : Type := Prog (Call ι) Res Err α

/-! ## Statements -/

section Statements

variable {ι : Type} [DecidableEq ι] {ρ α : Type}

/-- A guarded `UPDATE` of one row: the row as it was, if it matches. -/
def rewriteRow (i : ι) (guard : ρ → Bool) (f : ρ → ρ) (c : Cell ι (Option ρ)) :
    Except Err (Option ρ × Cell ι (Option ρ)) :=
  match (c.seen i).filter guard with
  | none => .ok (none, c)
  | some r =>
    if c.Free i then .ok (some r, c.write i (some (f r))) else .error (.failure "lock timeout")

/-- An `INSERT` of one row. -/
def insertRow (i : ι) (r : ρ) (c : Cell ι (Option ρ)) : Except Err (Unit × Cell ι (Option ρ)) :=
  if ¬ c.Free i then .error (.failure "lock timeout")
  else if (c.seen i).isSome then .error .integrity
  else .ok ((), c.write i (some r))

/-- An `INSERT … ON CONFLICT DO NOTHING`. -/
def insertOrKeep (i : ι) (r : ρ) (c : Cell ι (Option ρ)) : Except Err (Unit × Cell ι (Option ρ)) :=
  if ¬ c.Free i then .error (.failure "lock timeout")
  else if (c.seen i).isSome then .ok ((), c)
  else .ok ((), c.write i (some r))

/-- A table with a cell at a key. -/
def putCell (t : Table ι String ρ) (k : String) (c : Cell ι ρ) : Table ι String ρ where
  keys := if k ∈ t.keys then t.keys else t.keys ++ [k]
  cell := Function.update t.cell k c

/-- The tables with a row of `mandates` written. -/
def onMandate (s : Desk ι) (id : String) :
    Except Err (α × Cell ι (Option Row)) → Except Err α × Desk ι
  | .error x => (.error x, s)
  | .ok (a, c) => (.ok a, { s with mandates := Function.update s.mandates id c })

/-- The tables with a row of `webauthn_challenges` written. -/
def onChallenge (s : Desk ι) (k : Key) :
    Except Err (α × Cell ι (Option ChallengeRow)) → Except Err α × Desk ι
  | .error x => (.error x, s)
  | .ok (a, c) => (.ok a, { s with challenges := Function.update s.challenges k c })

/-- The tables with a row of `webauthn_credentials` written. -/
def onCredential (s : Desk ι) (id : String) :
    Except Err (α × Cell ι (Option Credential)) → Except Err α × Desk ι
  | .error x => (.error x, s)
  | .ok (a, c) => (.ok a, { s with credentials := putCell s.credentials id c })

/-- The tables with a row of `payment_instruments` written. -/
def onInstrument (s : Desk ι) (tokenRef : String) :
    Except Err (α × Cell ι (Option Instrument)) → Except Err α × Desk ι
  | .error x => (.error x, s)
  | .ok (a, c) => (.ok a, { s with instruments := putCell s.instruments tokenRef c })

/-- The rows that a transaction sees. -/
def rows (i : ι) (t : Table ι String (Option ρ)) : List ρ :=
  t.keys.filterMap fun k => (t.cell k).seen i

/-- A row of `mandates` with a new status. -/
def Row.moved (target : MandateStatus) (m : Row) : Row :=
  { m with status := target, version := m.version + 1 }

variable (R : Registry)

/-- What a call does when it does not raise by the environment's choice. -/
def exec (e : Outside) : (op : Call ι) → Desk ι → Except Err (Res op) × Desk ι
  | .selectMandate i id, s => (.ok ((s.mandates id).seen i), s)
  | .insertMandate i claims, s =>
    onMandate s claims.jti (insertRow i ⟨⟨claims.sub, .draft, claims, 1⟩, none⟩
      (s.mandates claims.jti))
  | .updateStatus i id target, s =>
    onMandate s id (rewriteRow i (fun m => m.status ∈ sourcesFor target) (Row.moved target)
      (s.mandates id))
  | .attachSdJwt i id sdJwt claims, s =>
    onMandate s id (rewriteRow i (fun _ => true)
      (fun m => { m with sdJwt := some sdJwt, claims := claims }) (s.mandates id))
  | .credentialsFor i userId, s => (.ok ((rows i s.credentials).filter (·.userId = userId)), s)
  | .getCredential i id, s => (.ok ((s.credentials.cell id).seen i), s)
  | .storeCredential i c, s =>
    onCredential s c.credentialId (insertRow i c (s.credentials.cell c.credentialId))
  | .advanceSignCount i id n, s =>
    onCredential s id (rewriteRow i (fun _ => true) (fun c => { c with signCount := n })
      (s.credentials.cell id))
  | .storeChallenge i c, s => onChallenge s (keyOf c) (insertRow i c (s.challenges (keyOf c)))
  | .consumeChallenge i value purpose, s =>
    onChallenge s (value, purpose) (rewriteRow i (fun r => r.consumedAt.isNone)
      (fun r => { r with consumedAt := some e.now }) (s.challenges (value, purpose)))
  | .linkInstrument i tokenRef jti, s =>
    onInstrument s tokenRef (insertOrKeep i ⟨tokenRef, jti, true⟩ (s.instruments.cell tokenRef))
  | .instrumentsFor i jti, s =>
    (.ok (((rows i s.instruments).filter fun x => x.mandateJti = jti && x.active).map (·.tokenRef)),
      s)
  | .markInstrumentDeleted i tokenRef, s =>
    onInstrument s tokenRef (rewriteRow i (fun _ => true) (fun x => { x with active := false })
      (s.instruments.cell tokenRef))
  | .emitEvent i event, s =>
    (.ok (), { s with events := Function.update s.events i (s.events i ++ [event]) })
  | .now _, s => (.ok e.now, s)
  | .buildClaims _ body, s => (.ok ⟨e.jti, body.userId, R.terms body e.agentKey⟩, s)
  | .newChallenge _, s => (.ok e.challenge, s)
  | .createSetupToken .., s => (.ok e.setupToken, s)
  | .deletePaymentToken _ tokenRef, s =>
    (if R.passkeys.railDeletes tokenRef then .ok () else .error (.failure "rail unreachable"), s)
  | .commit i, s =>
    (.ok (), ⟨fun k => (s.mandates k).commit i, fun k => (s.challenges k).commit i,
      s.credentials.commit i, s.instruments.commit i, s.outbox ++ s.events i,
      Function.update s.events i []⟩)
  | .rollback i, s =>
    (.ok (), ⟨fun k => (s.mandates k).rollback i, fun k => (s.challenges k).rollback i,
      s.credentials.rollback i, s.instruments.rollback i, s.outbox,
      Function.update s.events i []⟩)

/-- The call ends a transaction for good, whatever becomes of the connection. -/
def Call.ends : Call ι → Bool
  | .rollback _ => true
  | _ => false

/-- **One call**: it raises without an effect, or runs. -/
def sem (e : Outside) (op : Call ι) (s : Desk ι) : Except Err (Res op) × Desk ι :=
  match e.raises, op.ends with
  | some x, false => (.error x, s)
  | _, _ => exec R e op s

/-- One call of a program. -/
def call (op : Call ι) : Tx ι (Res op) := Prog.perform op

/-! ## Claims -/

/-- `claims.payment_method_ref`, unless it is empty. -/
def paymentMethodRef (claims : Claims) : Option String :=
  match claims.terms with
  | .obj fields => match fields.lookup "payment_method_ref" with
    | some (.str ref) => if ref = "" then none else some ref
    | _ => none
  | _ => none

/-- `_disclosable`. -/
def disclosable (claims : Claims) : Fields :=
  match claims.terms with
  | .obj fields => ["email", "shipping_address"].filterMap fun k =>
      (fields.lookup k).map fun v => (k, v)
  | _ => []

/-- `claims.limits`. -/
def limits (claims : Claims) : Json :=
  match claims.terms with
  | .obj fields => Fields.get fields "limits"
  | _ => .null

/-- A desk that is a clock: all that `_issue` and `verify_assertion` read. -/
def clock (now : ℤ) : Mandates.Desk := ⟨now, fun _ => none, [], [], [], []⟩

/-! ## Registration -/

/-- `begin_registration`. -/
def beginRegistration (i : ι) (userId : String) : Tx ι ChallengeRow := do
  let value : String ← call (.newChallenge i)
  let now : ℤ ← call (.now i)
  let challenge : ChallengeRow := ⟨value, userId, none, .register, now + R.passkeys.ttl, none⟩
  call (.storeChallenge i challenge)
  pure challenge

/-- The end of `complete_registration`. -/
def enrol (i : ι) (userId : String) : Option (String × String × ℕ) → Tx ι Credential
  | none => .raise (.http 401 "registration did not verify")
  | some new => do
    call (.storeCredential i ⟨new.1, userId, new.2.1, new.2.2⟩)
    pure ⟨new.1, userId, new.2.1, new.2.2⟩

/-- The part of `complete_registration` after the consumption. -/
def completeWith (i : ι) (response : String) : Option ChallengeRow → Tx ι Credential
  | none => .raise (.http 401 "challenge unknown or already used")
  | some challenge => do
    let now : ℤ ← call (.now i)
    if now > challenge.expiresAt then .raise (.http 401 "challenge expired")
    else enrol i challenge.userId (R.verifyRegistration response challenge.challenge)

/-- `complete_registration`. -/
def completeRegistration (i : ι) (value response : String) : Tx ι Credential := do
  let challenge : Option ChallengeRow ← call (.consumeChallenge i value .register)
  completeWith R i response challenge

/-! ## Creation -/

/-- The part of `create_mandate` after the credentials are read. -/
def openCeremony (i : ι) (claims : Claims) : List Credential → Tx ι ChallengeRow
  | [] => .raise (.http 412 ("no passkey registered for this user — an agent cannot complete " ++
      "a WebAuthn ceremony, so consent has nowhere to come from"))
  | _ => do
    let now : ℤ ← call (.now i)
    call (.storeChallenge i (issue R.passkeys (clock now) claims .activate))
    let _enroll : Except Err String ← (call (.createSetupToken i claims.jti) : Tx ι String).attempt
    call (.emitEvent i ⟨"mandate.created", claims.jti,
      [("jti", .str claims.jti), ("limits", limits claims)]⟩)
    pure (issue R.passkeys (clock now) claims .activate)

/-- **`create_mandate`**. -/
def createMandate (i : ι) (body : MandateCreate) : Tx ι ChallengeRow := do
  let claims : Claims ← call (.buildClaims i body)
  call (.insertMandate i claims)
  let credentials : List Credential ← call (.credentialsFor i body.userId)
  openCeremony R i claims credentials

/-! ## Gestures -/

/-- The end of `_verify_gesture`. -/
def advance (i : ι) (credential : Credential) (claims : Claims) : Except String ℕ → Tx ι Claims
  | .error x => .raise (.http 401 x)
  | .ok n => do
    let _credential : Option Credential ← call (.advanceSignCount i credential.credentialId n)
    pure claims

/-- The part of `_verify_gesture` after the credential is read. -/
def checkWith (i : ι) (record : Row) (body : Assertion) (challenge : ChallengeRow) :
    Option Credential → Tx ι Claims
  | none => .raise (.http 401 "unknown credential")
  | some credential =>
    if credential.userId ≠ record.userId then .raise (.http 401 "unknown credential")
    else do
      let now : ℤ ← call (.now i)
      advance i credential record.claims
        (verifyAssertion R.passkeys (clock now) body challenge credential record.claims)

/-- The part of `_verify_gesture` after the consumption. -/
def gestureWith (i : ι) (record : Row) (body : Assertion) (purpose : Purpose) :
    Option ChallengeRow → Tx ι Claims
  | none => .raise (.http 401 "challenge unknown or already used")
  | some challenge =>
    if challenge.purpose ≠ purpose then
      .raise (.http 401 "challenge was issued for a different purpose")
    else do
      let credential : Option Credential ← call (.getCredential i body.id)
      checkWith R i record body challenge credential

/-- **`_verify_gesture`**. -/
def verifyGesture (i : ι) (record : Row) (body : Assertion) (purpose : Purpose) : Tx ι Claims := do
  let challenge : Option ChallengeRow ← call (.consumeChallenge i body.presented purpose)
  gestureWith R i record body purpose challenge

/-- The refusal of a transition. -/
def refused (i : ι) (id : String) (default : String) : Option Row → Tx ι Unit
  | some _ => pure ()
  | none => do
    let current : Option Row ← call (.selectMandate i id)
    .raise (.http 409 ((current.map fun m => refusalReason m.status).getD default))

/-- `transition`, and the answer 409 where it is refused. -/
def moveTo (i : ι) (id : String) (target : MandateStatus) (default : String) : Tx ι Unit := do
  let moved : Option Row ← call (.updateStatus i id target)
  refused i id default moved

/-! ## Activation -/

/-- The instrument of a mandate, and its event. -/
def link (i : ι) (claims : Claims) : Option String → Tx ι Unit
  | none => pure ()
  | some ref => do
    call (.linkInstrument i ref claims.jti)
    call (.emitEvent i ⟨"payment_instrument.linked", claims.jti,
      [("mandate_jti", .str claims.jti), ("token_ref", .str ref)]⟩)

/-- The part of `assert_passkey` after the transition. -/
def signWith (i : ι) (id : String) (claims disclosed : Claims) : Tx ι String := do
  let _row : Option Row ← call (.attachSdJwt i id (R.sign claims (disclosable disclosed)) claims)
  link i claims (paymentMethodRef claims)
  call (.emitEvent i ⟨"mandate.activated", claims.jti,
    [("jti", .str claims.jti), ("limits", limits claims)]⟩)
  pure (R.sign claims (disclosable disclosed))

/-- The part of `assert_passkey` after the mandate is read. -/
def activateWith (i : ι) (id : String) (body : Assertion) : Option Row → Tx ι String
  | none => .raise (.http 404 "no such mandate")
  | some record => do
    let claims : Claims ← verifyGesture R i record body .activate
    moveTo i id .active "MANDATE_SUSPENDED"
    signWith R i id claims record.claims

/-- **`assert_passkey`**. -/
def assertPasskey (i : ι) (id : String) (body : Assertion) : Tx ι String := do
  let record : Option Row ← call (.selectMandate i id)
  activateWith R i id body record

/-! ## Revocation -/

/-- The part of `begin_revoke` after the credentials are read. -/
def revokeOptions (i : ι) (claims : Claims) : List Credential → Tx ι ChallengeRow
  | [] => .raise (.http 412 "no passkey registered for this user")
  | _ => do
    let now : ℤ ← call (.now i)
    call (.storeChallenge i (issue R.passkeys (clock now) claims .revoke))
    pure (issue R.passkeys (clock now) claims .revoke)

/-- The part of `begin_revoke` after the mandate is read. -/
def beginRevokeWith (i : ι) : Option Row → Tx ι ChallengeRow
  | none => .raise (.http 404 "no such mandate")
  | some record => do
    let credentials : List Credential ← call (.credentialsFor i record.userId)
    revokeOptions R i record.claims credentials

/-- `begin_revoke`. -/
def beginRevoke (i : ι) (id : String) : Tx ι ChallengeRow := do
  let record : Option Row ← call (.selectMandate i id)
  beginRevokeWith R i record

/-- The deletion of one token at the rail; what it raises is logged. -/
def deleteToken (i : ι) (tokenRef : String) : Tx ι Unit := do
  call (.deletePaymentToken i tokenRef)
  let _instrument : Option Instrument ← call (.markInstrumentDeleted i tokenRef)
  pure ()

/-- The deletions at the rail. -/
def deleteTokens (i : ι) : List String → Tx ι Unit
  | [] => pure ()
  | ref :: refs => do
    let _done : Except Err Unit ← (deleteToken i ref).attempt
    deleteTokens i refs

/-- `_view`. -/
def view : Option Row → Tx ι Row
  | none => .raise (.http 404 "no such mandate")
  | some m => pure m

/-- The part of `revoke_mandate` after the transition. -/
def killSwitch (i : ι) (id : String) (record : Row) : Tx ι Row := do
  let now : ℤ ← call (.now i)
  call (.emitEvent i ⟨"mandate.revoked", record.claims.jti, [("jti", .str record.claims.jti),
    ("by", .str record.userId), ("at", .str (R.passkeys.isoformat now))]⟩)
  let instruments : List String ← call (.instrumentsFor i record.claims.jti)
  call (.commit i)
  deleteTokens i instruments
  let row : Option Row ← call (.selectMandate i id)
  view row

/-- The part of `revoke_mandate` after the mandate is read. -/
def revokeWith (i : ι) (id : String) (body : Assertion) : Option Row → Tx ι Row
  | none => .raise (.http 404 "no such mandate")
  | some record => do
    let _claims : Claims ← verifyGesture R i record body .revoke
    moveTo i id .revoked "MANDATE_REVOKED"
    killSwitch R i id record

/-- **`revoke_mandate`**. -/
def revokeMandate (i : ι) (id : String) (body : Assertion) : Tx ι Row := do
  let record : Option Row ← call (.selectMandate i id)
  revokeWith R i id body record

/-! ## Requests -/

/-- A request to one of the routes. -/
inductive Request where
  | beginRegistration (userId : String)
  | completeRegistration (challenge response : String)
  | create (body : MandateCreate)
  | assert (id : String) (body : Assertion)
  | beginRevoke (id : String)
  | revoke (id : String) (body : Assertion)

/-- What a request returns. -/
inductive Reply where
  | options (challenge : ChallengeRow)
  | credential (c : Credential)
  | active (sdJwt : String)
  | view (row : Row)

/-- The body of a request. -/
def body (i : ι) : Request → Tx ι Reply
  | .beginRegistration userId => do
    let challenge ← beginRegistration R i userId
    pure (.options challenge)
  | .completeRegistration challenge response => do
    let credential ← completeRegistration R i challenge response
    pure (.credential credential)
  | .create body => do
    let challenge ← createMandate R i body
    pure (.options challenge)
  | .assert id body => do
    let sdJwt ← assertPasskey R i id body
    pure (.active sdJwt)
  | .beginRevoke id => do
    let challenge ← beginRevoke R i id
    pure (.options challenge)
  | .revoke id body => do
    let row ← revokeMandate R i id body
    pure (.view row)

/-- **A request**, in the transaction of `get_session`. -/
def answer (i : ι) (r : Request) : Tx ι Reply :=
  Prog.transaction (call (.commit i)) (call (.rollback i)) (body R i r)

end Statements

/-! ## The system -/

/-- What a request has been answered: the mandate, the challenge that its open transaction has
consumed, the credential, the last moment before its transition, the claims of the row that it has
inserted, the status that it has set, what it has signed, and the challenge that it has issued. -/
structure Work where
  record : Option Row := none
  challenge : Option ChallengeRow := none
  credential : Option Credential := none
  moment : ℤ := 0
  created : Option Claims := none
  moved : Option MandateStatus := none
  signed : Option (String × Claims) := none
  issued : Option ChallengeRow := none

/-- A work whose transaction has ended. -/
def Work.ended (γ : Work) : Work :=
  { γ with challenge := none, created := none, moved := none, signed := none }

/-- After a call that did not raise. -/
def Work.next (γ : Work) {ι : Type} : (op : Call ι) → Res op → Work
  | .selectMandate .., (row : Option Row) => { γ with record := row }
  | .insertMandate _ claims, _ => { γ with created := some claims }
  | .updateStatus _ _ target, (some _ : Option Row) => { γ with moved := some target }
  | .attachSdJwt _ _ sdJwt claims, (some _ : Option Row) => { γ with signed := some (sdJwt, claims) }
  | .getCredential .., (c : Option Credential) => { γ with credential := c }
  | .storeChallenge _ c, _ => { γ with issued := some c }
  | .consumeChallenge .., (some r : Option ChallengeRow) => { γ with challenge := some r }
  | .now _, (t : ℤ) => if γ.moved = none then { γ with moment := t } else γ
  | .commit _, _ => γ.ended
  | .rollback _, _ => γ.ended
  | _, _ => γ

section System

variable (R : Registry) (ι : Type) [DecidableEq ι]

/-- The requests. -/
def ceremonySystem : System ι (Call ι) Res Err (Desk ι) Work Outside where
  sem := sem R
  adv _ γ _ op r := match r with
    | .ok a => γ.next op a
    | .error _ => γ

variable {ι}

/-- The configurations of the requests. -/
abbrev Sessions (ι : Type) : Type := Config ι (Call ι) Res Err Reply (Desk ι) Work

/-- The tables at a moment without transactions. -/
structure Tables where
  mandates : String → Option Row
  challenges : List ChallengeRow
  credentials : List Credential
  instruments : List Instrument
  outbox : List OutboxEvent

/-- A table of rows under their keys, the first of a key. -/
def tableOf {ρ : Type} (key : ρ → String) (rs : List ρ) : Table ι String (Option ρ) where
  keys := (rs.map key).dedup
  cell k := ⟨rs.find? fun r => key r = k, none⟩

/-- The start: any tables, and each request before its first statement. -/
def ceremonyStart (start : Tables) (requests : ι → Request) : Sessions ι where
  shared := ⟨fun k => ⟨start.mandates k, none⟩,
    fun k => ⟨start.challenges.find? fun r => keyOf r = k, none⟩,
    tableOf Credential.credentialId start.credentials,
    tableOf Instrument.tokenRef start.instruments, start.outbox, fun _ => []⟩
  prog i := answer R i (requests i)
  hist _ := {}

end System

end TryTrust.Api.Ceremonies
