import TryTrust.Json

/-!
# Revoking a mandate

The ceremony of a revocation: options with a challenge, and the assertion that answers it. The
challenge is the hash of the mandate's claims, and its row is keyed by challenge and purpose.

* `Mandate`, `Credential`, `ChallengeRow`, `Desk`; `Passkeys`, what is outside;
* `transition`, `storeChallenge`, `consumeChallenge`, `beginRevoke`, `verifyGesture`,
  `revokeMandate`; `Act`, `step`, `run`, each request one transaction;
* `Revocable`: a revocation can begin, and a valid assertion in time ends it; `Pending`, the
  invariant in between;
* **`revocable_iff`**: a live mandate is revocable exactly while no revocation of it has begun;
  **`abandoned_blocks`**: an abandoned ceremony blocks the next one.
-/

namespace TryTrust.Api.Mandates

/-! ## Rows -/

/-- `MandateStatus`. -/
inductive MandateStatus where
  | draft
  | active
  | suspended
  | revoked
  | expired
  | exhausted
  deriving DecidableEq, Repr

/-- `ALLOWED_TRANSITIONS`, by target. -/
def sourcesFor : MandateStatus → List MandateStatus
  | .active => [.draft, .suspended]
  | .suspended => [.active]
  | .revoked => [.active, .suspended]
  | .expired => [.active, .suspended]
  | .exhausted => [.active]
  | .draft => []

/-- `refusal_reason`. -/
def refusalReason : MandateStatus → String
  | .revoked => "MANDATE_REVOKED"
  | .expired => "MANDATE_EXPIRED"
  | .exhausted => "MANDATE_EXHAUSTED"
  | _ => "MANDATE_SUSPENDED"

/-- The signed claims of a mandate. -/
structure Claims where
  jti : String
  sub : String
  terms : Json

/-- A row of `mandates`; its key is the `jti`. -/
structure Mandate where
  userId : String
  status : MandateStatus
  claims : Claims
  version : ℕ := 1

/-- `Purpose`. -/
inductive Purpose where
  | register
  | activate
  | revoke
  deriving DecidableEq, Repr

/-- A row of `webauthn_challenges`; times in microseconds. -/
structure ChallengeRow where
  challenge : String
  userId : String
  mandateId : Option String
  purpose : Purpose
  expiresAt : ℤ
  consumedAt : Option ℤ := none
  deriving DecidableEq

/-- A row of `webauthn_credentials`. -/
structure Credential where
  credentialId : String
  userId : String
  publicKey : String
  signCount : ℕ
  deriving DecidableEq

/-- A row of `payment_instruments`. -/
structure Instrument where
  tokenRef : String
  mandateJti : String
  active : Bool
  deriving DecidableEq

/-- An event of the outbox. -/
structure OutboxEvent where
  type : String
  aggregateId : String
  payload : Fields

/-- The tables, and the clock. -/
structure Desk where
  now : ℤ
  mandates : String → Option Mandate
  credentials : List Credential
  challenges : List ChallengeRow
  instruments : List Instrument
  outbox : List OutboxEvent

/-- What a browser presents: the credential, the challenge it echoes, and the signed data. -/
structure Assertion where
  id : String
  presented : String
  response : String

/-- What is outside: the hash of the claims as text, the lifetime of a challenge, the check of an
assertion against a challenge, a public key and a counter, which answers the new counter, the text
of a moment, and whether the rail deletes a token. -/
structure Passkeys where
  mandateChallenge : Claims → String
  ttl : ℤ
  verifyAuthentication : Assertion → String → String → ℕ → Option ℕ
  isoformat : ℤ → String
  railDeletes : String → Bool

/-- What a request raises. -/
inductive Err where
  /-- An answer with a status and a detail. -/
  | http (status : ℕ) (detail : String)
  /-- A unique key that is taken. -/
  | integrity
  deriving DecidableEq

/-! ## Statements -/

/-- Replace the row of a mandate. -/
def Desk.setMandate (d : Desk) (id : String) (m : Mandate) : Desk :=
  { d with mandates := Function.update d.mandates id (some m) }

/-- `transition`: the guarded update; the reason when it is refused. -/
def transition (d : Desk) (id : String) (target : MandateStatus) : Except (Option String) Desk :=
  match d.mandates id with
  | none => .error none
  | some m =>
    if m.status ∈ sourcesFor target then
      .ok (d.setMandate id { m with status := target, version := m.version + 1 })
    else .error (some (refusalReason m.status))

/-- `credentials_for`. -/
def credentialsFor (d : Desk) (userId : String) : List Credential :=
  d.credentials.filter fun c => c.userId = userId

/-- `get_credential`. -/
def getCredential (d : Desk) (id : String) : Option Credential :=
  d.credentials.find? fun c => c.credentialId = id

/-- `advance_sign_count`. -/
def advanceSignCount (d : Desk) (id : String) (n : ℕ) : Desk :=
  { d with credentials := d.credentials.map fun c =>
      if c.credentialId = id then { c with signCount := n } else c }

/-- The key of a row. -/
def ChallengeRow.hasKey (r : ChallengeRow) (value : String) (purpose : Purpose) : Bool :=
  r.challenge = value && r.purpose = purpose

/-- `store_challenge`: an `INSERT` under the primary key. -/
def storeChallenge (d : Desk) (c : ChallengeRow) : Except Err Desk :=
  if d.challenges.any fun r => r.hasKey c.challenge c.purpose then .error .integrity
  else .ok { d with challenges := d.challenges ++ [c] }

/-- The row of a key that is not consumed. -/
def openChallenge (d : Desk) (value : String) (purpose : Purpose) : Option ChallengeRow :=
  d.challenges.find? fun r => r.hasKey value purpose && r.consumedAt.isNone

/-- The tables with the rows of a key consumed. -/
def consumed (d : Desk) (value : String) (purpose : Purpose) : Desk :=
  { d with challenges := d.challenges.map fun r =>
      if r.hasKey value purpose && r.consumedAt.isNone then { r with consumedAt := some d.now }
      else r }

/-- `consume_challenge`: the row, and the tables with it consumed. -/
def consumeChallenge (d : Desk) (value : String) (purpose : Purpose) :
    Option (ChallengeRow × Desk) :=
  (openChallenge d value purpose).map fun c => (c, consumed d value purpose)

section Requests

variable (P : Passkeys)

/-! ## Requests -/

/-- `_issue`, of a mandate. -/
def issue (d : Desk) (claims : Claims) (purpose : Purpose) : ChallengeRow where
  challenge := P.mandateChallenge claims
  userId := claims.sub
  mandateId := some claims.jti
  purpose := purpose
  expiresAt := d.now + P.ttl

/-- `begin_revoke`. -/
def beginRevoke (d : Desk) (id : String) : Except Err (ChallengeRow × Desk) :=
  match d.mandates id with
  | none => .error (.http 404 "no such mandate")
  | some record =>
    if credentialsFor d record.userId = [] then
      .error (.http 412 "no passkey registered for this user")
    else
      (storeChallenge d (issue P d record.claims .revoke)).map fun d' =>
        (issue P d record.claims .revoke, d')

/-- `verify_assertion`: the new counter, or `PasskeyError`. -/
def verifyAssertion (d : Desk) (body : Assertion) (challenge : ChallengeRow)
    (credential : Credential) (claims : Claims) : Except String ℕ :=
  if d.now > challenge.expiresAt then .error "challenge expired"
  else if challenge.challenge ≠ P.mandateChallenge claims then
    .error "challenge does not match this mandate"
  else
    match P.verifyAuthentication body challenge.challenge credential.publicKey
      credential.signCount with
    | none => .error "assertion did not verify"
    | some n =>
      if credential.signCount > 0 ∧ n ≤ credential.signCount then
        .error ("sign_count did not advance (" ++ toString credential.signCount ++ " -> " ++
          toString n ++ ")")
      else .ok n

/-- `_verify_gesture`. -/
def verifyGesture (d : Desk) (record : Mandate) (body : Assertion) (purpose : Purpose) :
    Except Err Desk :=
  match consumeChallenge d body.presented purpose with
  | none => .error (.http 401 "challenge unknown or already used")
  | some (challenge, d) =>
    if challenge.purpose ≠ purpose then
      .error (.http 401 "challenge was issued for a different purpose")
    else
      match (getCredential d body.id).filter fun c => c.userId = record.userId with
      | none => .error (.http 401 "unknown credential")
      | some credential =>
        match verifyAssertion P d body challenge credential record.claims with
        | .error x => .error (.http 401 x)
        | .ok n => .ok (advanceSignCount d credential.credentialId n)

/-- The deletions at the rail, after the commit. -/
def deleteTokens (d : Desk) (jti : String) : Desk :=
  { d with instruments := d.instruments.map fun x =>
      if x.mandateJti = jti ∧ x.active ∧ P.railDeletes x.tokenRef then { x with active := false }
      else x }

/-- `revoke_mandate`. -/
def revokeMandate (d : Desk) (id : String) (body : Assertion) : Except Err Desk :=
  match d.mandates id with
  | none => .error (.http 404 "no such mandate")
  | some record =>
    match verifyGesture P d record body .revoke with
    | .error x => .error x
    | .ok d =>
      match transition d id .revoked with
      | .error reason => .error (.http 409 (reason.getD "MANDATE_REVOKED"))
      | .ok d =>
        .ok (deleteTokens P { d with outbox := d.outbox ++ [⟨"mandate.revoked", id,
          [("jti", .str id), ("by", .str record.userId), ("at", .str (P.isoformat d.now))]⟩] } id)

/-! ## Histories -/

/-- What happens: a request, in a transaction of its own, or time. -/
inductive Act where
  | beginRevoke (id : String)
  | completeRevoke (id : String) (body : Assertion)
  | suspend (id : String)
  | resume (id : String)
  | elapse (microseconds : ℕ)

/-- The tables after a request; one that raises is rolled back. -/
def kept {ε α : Type} (d : Desk) (f : α → Desk) : Except ε α → Desk
  | .ok a => f a
  | .error _ => d

/-- **One act.** -/
def step (d : Desk) : Act → Desk
  | .beginRevoke id => kept d Prod.snd (beginRevoke P d id)
  | .completeRevoke id body => kept d (fun d' => d') (revokeMandate P d id body)
  | .suspend id => kept d (fun d' => d') (transition d id .suspended)
  | .resume id => kept d (fun d' => d') (transition d id .active)
  | .elapse n => { d with now := d.now + n }

/-- The tables after acts. -/
def run (d : Desk) : List Act → Desk
  | [] => d
  | a :: acts => run (step P d a) acts

/-! ## What is claimed -/

/-- A mandate that can still pay, or be resumed. -/
def Live (m : Mandate) : Prop := m.status = .active ∨ m.status = .suspended

/-- **A valid assertion** over a challenge: of a credential of the mandate's user, verified, with a
counter that advances. -/
structure Valid (d : Desk) (m : Mandate) (value : String) (body : Assertion) : Prop where
  presented : body.presented = value
  verified : ∃ c n, getCredential d body.id = some c ∧ c.userId = m.userId ∧
    P.verifyAuthentication body value c.publicKey c.signCount = some n ∧
      ¬ (c.signCount > 0 ∧ n ≤ c.signCount)

/-- The mandate is revoked. -/
def Revoked (d : Desk) (id : String) : Prop := ∃ m, d.mandates id = some m ∧ m.status = .revoked

/-- **A revocation can begin, and end**: the options are issued, and whatever happens meanwhile, a
valid assertion over their challenge within its lifetime leaves the mandate revoked. -/
def Revocable (d : Desk) (id : String) : Prop :=
  ∃ c d', beginRevoke P d id = .ok (c, d') ∧ ∀ acts m body, (run P d' acts).now ≤ c.expiresAt →
    (run P d' acts).mandates id = some m → Valid P (run P d' acts) m c.challenge body →
      Revoked (step P (run P d' acts) (.completeRevoke id body)) id

/-- A revocation with a challenge has begun in the course of some acts. -/
def Begun (d : Desk) (value : String) : List Act → Prop
  | [] => False
  | a :: acts => (∃ id c d', a = .beginRevoke id ∧ beginRevoke P d id = .ok (c, d') ∧
      c.challenge = value) ∨ Begun (step P d a) value acts

/-- The key of a revocation is in the table. -/
def Taken (d : Desk) (value : String) : Prop := ∃ r ∈ d.challenges, r.hasKey value .revoke = true

/-- Distinct mandates have distinct challenges: no collision of the hash among their claims. -/
def Apart (d : Desk) : Prop := ∀ i j a b, d.mandates i = some a → d.mandates j = some b →
  P.mandateChallenge a.claims = P.mandateChallenge b.claims → i = j

/-- **Pending**: the mandate is revoked, or live with the challenge of its revocation open. -/
def Pending (d : Desk) (id : String) (c : ChallengeRow) : Prop :=
  ∃ m, d.mandates id = some m ∧ P.mandateChallenge m.claims = c.challenge ∧
    (m.status = .revoked ∨ Live m ∧ openChallenge d c.challenge .revoke = some c)

/-! ## What the requests do -/

variable {P} {d d' : Desk} {id : String} {m : Mandate} {body : Assertion}

theorem transition_ok {target : MandateStatus} (h : transition d id target = .ok d') :
    ∃ m, d.mandates id = some m ∧ m.status ∈ sourcesFor target ∧
      d' = d.setMandate id { m with status := target, version := m.version + 1 } := by
  rw [transition] at h
  cases hm : d.mandates id with
  | none =>
    rw [hm] at h
    cases h
  | some m =>
    rw [hm] at h
    dsimp only at h
    split_ifs at h with hsource
    exact ⟨m, rfl, hsource, (Except.ok.inj h).symm⟩

theorem transition_of_source {target : MandateStatus} (hm : d.mandates id = some m)
    (h : m.status ∈ sourcesFor target) : transition d id target =
      .ok (d.setMandate id { m with status := target, version := m.version + 1 }) := by
  rw [transition, hm]
  exact if_pos h

theorem live_iff : Live m ↔ m.status ∈ sourcesFor .revoked := by
  simp [Live, sourcesFor]

theorem hasKey_iff {r : ChallengeRow} {value : String} {purpose : Purpose} :
    r.hasKey value purpose = true ↔ r.challenge = value ∧ r.purpose = purpose := by
  simp [ChallengeRow.hasKey]

/-- What a consumption finds and does. -/
theorem consumeChallenge_some {value : String} {purpose : Purpose} {c : ChallengeRow}
    (h : consumeChallenge d value purpose = some (c, d')) :
    c ∈ d.challenges ∧ c.challenge = value ∧ c.purpose = purpose ∧
      d' = consumed d value purpose := by
  rw [consumeChallenge, Option.map_eq_some_iff] at h
  obtain ⟨c', hc', heq⟩ := h
  obtain ⟨rfl, rfl⟩ := Prod.mk.inj heq
  have hfound := List.find?_some hc'
  rw [Bool.and_eq_true, hasKey_iff] at hfound
  exact ⟨List.mem_of_find?_eq_some hc', hfound.1.1, hfound.1.2, rfl⟩

/-- What an issue adds. -/
theorem beginRevoke_eq {c : ChallengeRow} (h : beginRevoke P d id = .ok (c, d')) :
    ∃ m, d.mandates id = some m ∧ c = issue P d m.claims .revoke ∧
      d' = { d with challenges := d.challenges ++ [c] } ∧ ¬ Taken d c.challenge := by
  rw [beginRevoke] at h
  cases hm : d.mandates id with
  | none =>
    rw [hm] at h
    cases h
  | some m =>
    rw [hm] at h
    dsimp only at h
    split_ifs at h with hnone
    rw [storeChallenge] at h
    split_ifs at h with hany
    · cases h
    · obtain ⟨rfl, rfl⟩ := Prod.mk.inj (Except.ok.inj h)
      refine ⟨m, rfl, rfl, rfl, fun htaken => ?_⟩
      exact hany (List.any_eq_true.2 htaken)

/-- **The options are issued** exactly where the key is free. -/
theorem beginRevoke_ok_iff (hm : d.mandates id = some m)
    (hcredentials : ∃ c ∈ d.credentials, c.userId = m.userId) :
    (∃ r, beginRevoke P d id = .ok r) ↔ ¬ Taken d (P.mandateChallenge m.claims) := by
  constructor
  · rintro ⟨⟨c, d'⟩, hok⟩
    obtain ⟨m', hm', rfl, -, hfree⟩ := beginRevoke_eq hok
    rw [hm] at hm'
    obtain rfl := Option.some.inj hm'
    exact hfree
  · intro hfree
    have hne : credentialsFor d m.userId ≠ [] := by
      obtain ⟨c, hc, huser⟩ := hcredentials
      refine List.ne_nil_of_mem (a := c) (List.mem_filter.2 ⟨hc, ?_⟩)
      simpa using huser
    have hany : ¬ (d.challenges.any fun r => r.hasKey (issue P d m.claims .revoke).challenge
        (issue P d m.claims .revoke).purpose) = true :=
      fun hany => hfree (List.any_eq_true.1 hany)
    rw [beginRevoke, hm]
    dsimp only
    rw [if_neg hne, storeChallenge, if_neg hany]
    exact ⟨_, rfl⟩

/-- What a check that passes leaves. -/
theorem verifyAssertion_ok {c : ChallengeRow} {credential : Credential} {claims : Claims} {n : ℕ}
    (h : verifyAssertion P d body c credential claims = .ok n) :
    c.challenge = P.mandateChallenge claims := by
  rw [verifyAssertion] at h
  split_ifs at h with hexpired hvalue
  exact not_not.1 hvalue

/-- A gesture that passes is over the mandate's own challenge; it consumes it, and moves a
counter. -/
theorem verifyGesture_ok {purpose : Purpose} (h : verifyGesture P d m body purpose = .ok d') :
    body.presented = P.mandateChallenge m.claims ∧
      ∃ i n, d' = advanceSignCount (consumed d body.presented purpose) i n := by
  rw [verifyGesture] at h
  cases hconsume : consumeChallenge d body.presented purpose with
  | none =>
    rw [hconsume] at h
    cases h
  | some r =>
    obtain ⟨c, d₁⟩ := r
    obtain ⟨-, hvalue, hpurpose, rfl⟩ := consumeChallenge_some hconsume
    rw [hconsume] at h
    dsimp only at h
    rw [if_neg (not_not.2 hpurpose)] at h
    cases hcredential : (getCredential (consumed d body.presented purpose) body.id).filter
        fun c => c.userId = m.userId with
    | none =>
      rw [hcredential] at h
      cases h
    | some credential =>
      rw [hcredential] at h
      dsimp only at h
      cases hverify : verifyAssertion P (consumed d body.presented purpose) body c credential
          m.claims with
      | error x =>
        rw [hverify] at h
        cases h
      | ok n =>
        rw [hverify] at h
        exact ⟨hvalue.symm.trans (verifyAssertion_ok hverify), _, n, (Except.ok.inj h).symm⟩

/-- **What a completed revocation did.** -/
theorem revokeMandate_ok (h : revokeMandate P d id body = .ok d') :
    ∃ m, d.mandates id = some m ∧ Live m ∧ body.presented = P.mandateChallenge m.claims ∧
      d'.mandates = Function.update d.mandates id
        (some { m with status := .revoked, version := m.version + 1 }) ∧
      d'.challenges = (consumed d body.presented .revoke).challenges := by
  rw [revokeMandate] at h
  cases hm : d.mandates id with
  | none =>
    rw [hm] at h
    cases h
  | some m =>
    rw [hm] at h
    dsimp only at h
    cases hgesture : verifyGesture P d m body .revoke with
    | error x =>
      rw [hgesture] at h
      cases h
    | ok d₁ =>
      rw [hgesture] at h
      dsimp only at h
      obtain ⟨hpresented, i, n, rfl⟩ := verifyGesture_ok hgesture
      cases hmove : transition (advanceSignCount (consumed d body.presented .revoke) i n) id
          .revoked with
      | error reason =>
        rw [hmove] at h
        cases h
      | ok d₂ =>
        rw [hmove] at h
        obtain ⟨m', hm', hsource, rfl⟩ := transition_ok hmove
        obtain rfl := Option.some.inj (hm.symm.trans hm')
        obtain rfl := Except.ok.inj h
        exact ⟨m, rfl, live_iff.2 hsource, hpresented, rfl, rfl⟩

/-- A gesture over an open challenge in time, of a valid assertion, passes. -/
theorem verifyGesture_of_valid {c : ChallengeRow}
    (hopen : openChallenge d c.challenge .revoke = some c)
    (hvalue : c.challenge = P.mandateChallenge m.claims) (htime : d.now ≤ c.expiresAt)
    (hvalid : Valid P d m c.challenge body) :
    ∃ i n, verifyGesture P d m body .revoke =
      .ok (advanceSignCount (consumed d c.challenge .revoke) i n) := by
  obtain ⟨credential, n, hget, huser, hverify, hadvance⟩ := hvalid.verified
  have hconsume : consumeChallenge d body.presented .revoke =
      some (c, consumed d c.challenge .revoke) := by
    rw [consumeChallenge, hvalid.presented, hopen, Option.map_some]
  obtain ⟨-, -, hpurpose, -⟩ := consumeChallenge_some hconsume
  have hfilter : (getCredential (consumed d c.challenge .revoke) body.id).filter
      (fun c => c.userId = m.userId) = some credential := by
    rw [show getCredential (consumed d c.challenge .revoke) body.id = some credential from hget]
    simp [huser]
  have hpasses : verifyAssertion P (consumed d c.challenge .revoke) body c credential m.claims =
      .ok n := by
    have hnow : ¬ (consumed d c.challenge .revoke).now > c.expiresAt := not_lt.2 htime
    rw [verifyAssertion, if_neg hnow, if_neg (not_not.2 hvalue), hverify]
    exact if_neg hadvance
  refine ⟨credential.credentialId, n, ?_⟩
  rw [verifyGesture, hconsume]
  dsimp only
  rw [if_neg (not_not.2 hpurpose), hfilter]
  dsimp only
  rw [hpasses]

/-- **A valid assertion** over an open challenge of a live mandate completes its revocation. -/
theorem revokeMandate_of_valid (hm : d.mandates id = some m) (hlive : Live m) {c : ChallengeRow}
    (hopen : openChallenge d c.challenge .revoke = some c)
    (hvalue : c.challenge = P.mandateChallenge m.claims) (htime : d.now ≤ c.expiresAt)
    (hvalid : Valid P d m c.challenge body) : ∃ d', revokeMandate P d id body = .ok d' := by
  obtain ⟨i, n, hgesture⟩ := verifyGesture_of_valid hopen hvalue htime hvalid
  have hmove := transition_of_source (d := advanceSignCount (consumed d c.challenge .revoke) i n)
    hm (live_iff.1 hlive)
  rw [revokeMandate, hm]
  dsimp only
  rw [hgesture]
  dsimp only
  rw [hmove]
  exact ⟨_, rfl⟩

/-! ## One act -/

/-- What no act changes in a mandate. -/
def Mandate.profile (m : Mandate) : String × Claims := (m.userId, m.claims)

/-- The profiles of the mandates. -/
def profiles (d : Desk) (i : String) : Option (String × Claims) :=
  (d.mandates i).map Mandate.profile

theorem profiles_update {m' : Mandate} (hm : d.mandates id = some m)
    (h : d'.mandates = Function.update d.mandates id (some m'))
    (hprofile : m'.profile = m.profile) : profiles d' = profiles d := by
  funext i
  rw [profiles, profiles, h]
  by_cases hi : i = id
  · subst hi
    rw [Function.update_self, hm, Option.map_some, Option.map_some, hprofile]
  · rw [Function.update_of_ne hi]

/-- **No act** changes whose a mandate is, or what it claims. -/
theorem profiles_step (a : Act) : profiles (step P d a) = profiles d := by
  cases a with
  | beginRevoke id =>
    rw [step]
    cases h : beginRevoke P d id with
    | error x => rfl
    | ok r =>
      obtain ⟨c, d'⟩ := r
      obtain ⟨-, -, -, rfl, -⟩ := beginRevoke_eq h
      rfl
  | completeRevoke id body =>
    rw [step]
    cases h : revokeMandate P d id body with
    | error x => rfl
    | ok d' =>
      obtain ⟨m, hm, -, -, hmandates, -⟩ := revokeMandate_ok h
      exact profiles_update hm hmandates rfl
  | suspend id =>
    rw [step]
    cases h : transition d id .suspended with
    | error x => rfl
    | ok d' =>
      obtain ⟨m, hm, -, rfl⟩ := transition_ok h
      exact profiles_update hm rfl rfl
  | resume id =>
    rw [step]
    cases h : transition d id .active with
    | error x => rfl
    | ok d' =>
      obtain ⟨m, hm, -, rfl⟩ := transition_ok h
      exact profiles_update hm rfl rfl
  | elapse n => rfl

theorem profiles_run (acts : List Act) : profiles (run P d acts) = profiles d := by
  induction acts generalizing d with
  | nil => rfl
  | cons a acts ih => rw [run, ih, profiles_step]

/-- A consumption keeps the keys. -/
theorem taken_consumed (value' : String) (purpose : Purpose) {value : String} :
    Taken (consumed d value' purpose) value ↔ Taken d value := by
  simp only [Taken, consumed, List.mem_map, exists_exists_and_eq_and]
  refine exists_congr fun r => and_congr_right fun _ => ?_
  split_ifs <;> rfl

/-- **The keys** after an act: those before, and the one it begins. -/
theorem taken_step {value : String} (a : Act) : Taken (step P d a) value ↔ Taken d value ∨
    ∃ id c d', a = .beginRevoke id ∧ beginRevoke P d id = .ok (c, d') ∧ c.challenge = value := by
  cases a with
  | beginRevoke id =>
    rw [step]
    cases h : beginRevoke P d id with
    | error x => simp [kept, h]
    | ok r =>
      obtain ⟨c, d'⟩ := r
      obtain ⟨m, -, hc, rfl, -⟩ := beginRevoke_eq h
      have hpurpose : c.purpose = .revoke := by rw [hc, issue]
      simp [kept, h, Taken, or_and_right, exists_or, hasKey_iff, hpurpose]
  | completeRevoke id body =>
    rw [step]
    cases h : revokeMandate P d id body with
    | error x => simp [kept]
    | ok d' =>
      obtain ⟨m, -, -, -, -, hrows⟩ := revokeMandate_ok h
      have htaken : Taken d' value ↔ Taken d value := by
        rw [Taken, hrows]
        exact taken_consumed body.presented .revoke
      simp [kept, htaken]
  | suspend id =>
    rw [step]
    cases h : transition d id .suspended with
    | error x => simp [kept]
    | ok d' =>
      obtain ⟨m, -, -, rfl⟩ := transition_ok h
      simp [kept, Taken, Desk.setMandate]
  | resume id =>
    rw [step]
    cases h : transition d id .active with
    | error x => simp [kept]
    | ok d' =>
      obtain ⟨m, -, -, rfl⟩ := transition_ok h
      simp [kept, Taken, Desk.setMandate]
  | elapse n => simp [step, Taken]

/-- **The keys after a run**: those before, and those of the revocations that began. -/
theorem taken_run {value : String} (acts : List Act) :
    Taken (run P d acts) value ↔ Taken d value ∨ Begun P d value acts := by
  induction acts generalizing d with
  | nil => simp [run, Begun]
  | cons a acts ih => rw [run, ih, taken_step, Begun, or_assoc]

/-! ## A pending revocation -/

theorem apart_of_profiles (h : profiles d' = profiles d) (hapart : Apart P d) : Apart P d' := by
  intro i j a b hi hj heq
  have hprofile (k : String) (x : Mandate) (hk : d'.mandates k = some x) :
      ∃ y, d.mandates k = some y ∧ y.profile = x.profile := by
    have hmap : (d.mandates k).map Mandate.profile = some x.profile := by
      rw [← Option.map_some, ← hk]
      exact (congrFun h k).symm
    exact Option.map_eq_some_iff.1 hmap
  obtain ⟨a', ha', hpa⟩ := hprofile i a hi
  obtain ⟨b', hb', hpb⟩ := hprofile j b hj
  refine hapart i j a' b' ha' hb' ?_
  rw [(Prod.mk.inj hpa).2, (Prod.mk.inj hpb).2, heq]

theorem pending_of_begin (hlive : Live m) (hm : d.mandates id = some m) {c : ChallengeRow}
    (h : beginRevoke P d id = .ok (c, d')) : Pending P d' id c := by
  obtain ⟨m', hm', hc, rfl, hfree⟩ := beginRevoke_eq h
  obtain rfl := Option.some.inj (hm.symm.trans hm')
  refine ⟨m, hm, by rw [hc, issue], .inr ⟨hlive, ?_⟩⟩
  have hnone : d.challenges.find? (fun r => r.hasKey c.challenge .revoke && r.consumedAt.isNone) =
      none := by
    rw [List.find?_eq_none]
    intro r hr hkey
    rw [Bool.and_eq_true] at hkey
    exact hfree ⟨r, hr, hkey.1⟩
  rw [openChallenge, List.find?_append, hnone, Option.none_or]
  have hkey : c.hasKey c.challenge .revoke = true := hasKey_iff.2 ⟨rfl, by rw [hc, issue]⟩
  have hopen : c.consumedAt = none := by rw [hc, issue]
  rw [List.find?_singleton, hkey, hopen]
  rfl

/-- A consumption of another challenge keeps an open one. -/
theorem openChallenge_consumed {value value' : String} {c : ChallengeRow} (hne : value ≠ value')
    (h : openChallenge d value .revoke = some c) :
    openChallenge (consumed d value' .revoke) value .revoke = some c := by
  have hother (r : ChallengeRow) (hkey : r.hasKey value .revoke = true) :
      (r.hasKey value' .revoke && r.consumedAt.isNone) = false := by
    rw [Bool.and_eq_false_iff]
    refine .inl ?_
    by_contra htrue
    rw [Bool.not_eq_false, hasKey_iff] at htrue
    exact hne ((hasKey_iff.1 hkey).1.symm.trans htrue.1)
  have hc := List.find?_some h
  rw [Bool.and_eq_true] at hc
  have hsame : ∀ r : ChallengeRow,
      ((fun r : ChallengeRow => r.hasKey value .revoke && r.consumedAt.isNone) ∘
        fun r => if r.hasKey value' .revoke && r.consumedAt.isNone then
          { r with consumedAt := some d.now } else r) r =
      (r.hasKey value .revoke && r.consumedAt.isNone) := by
    intro r
    rw [Function.comp_apply]
    split_ifs with hkey
    · have hnot : r.hasKey value .revoke = false := by
        by_contra htrue
        rw [Bool.not_eq_false] at htrue
        rw [hother r htrue] at hkey
        cases hkey
      rw [hnot, Bool.false_and]
      exact Bool.and_eq_false_iff.2 (.inl hnot)
    · rfl
  rw [openChallenge, consumed, List.find?_map, funext hsame]
  rw [openChallenge] at h
  rw [h, Option.map_some, hother c hc.1]
  rfl

/-- A transition between live states keeps a revocation pending. -/
theorem pending_transition {c : ChallengeRow} {i : String} {target : MandateStatus}
    (hfrom : .revoked ∉ sourcesFor target) (htarget : target = .active ∨ target = .suspended)
    (h : Pending P d id c) (hmove : transition d i target = .ok d') : Pending P d' id c := by
  obtain ⟨m, hm, hvalue, hstate⟩ := h
  obtain ⟨m', hm', hsource, rfl⟩ := transition_ok hmove
  by_cases hi : i = id
  · subst hi
    obtain rfl := Option.some.inj (hm.symm.trans hm')
    refine ⟨_, Function.update_self i _ d.mandates, hvalue, ?_⟩
    rcases hstate with hrevoked | ⟨-, hopen⟩
    · rw [hrevoked] at hsource
      exact absurd hsource hfrom
    · exact .inr ⟨htarget, hopen⟩
  · exact ⟨m, (Function.update_of_ne (Ne.symm hi) _ _).trans hm, hvalue, hstate⟩

/-- **No act** ends a pending revocation but its completion. -/
theorem pending_step {c : ChallengeRow} (hapart : Apart P d) (h : Pending P d id c) (a : Act) :
    Pending P (step P d a) id c := by
  cases a with
  | beginRevoke i =>
    rw [step]
    cases hbegin : beginRevoke P d i with
    | error x => exact h
    | ok r =>
      obtain ⟨c', d'⟩ := r
      obtain ⟨-, -, -, rfl, -⟩ := beginRevoke_eq hbegin
      obtain ⟨m, hm, hvalue, hstate⟩ := h
      refine ⟨m, hm, hvalue, hstate.imp_right fun hlive => ⟨hlive.1, ?_⟩⟩
      have hopen := hlive.2
      rw [openChallenge] at hopen
      rw [kept, openChallenge, List.find?_append, hopen, Option.some_or]
  | completeRevoke i body =>
    rw [step]
    cases hrevoke : revokeMandate P d i body with
    | error x => exact h
    | ok d' =>
      obtain ⟨m, hm, hvalue, hstate⟩ := h
      obtain ⟨m', hm', -, hpresented, hmandates, hrows⟩ := revokeMandate_ok hrevoke
      by_cases hi : i = id
      · subst hi
        obtain rfl := Option.some.inj (hm.symm.trans hm')
        refine ⟨_, (congrFun hmandates i).trans (Function.update_self i _ _), hvalue, .inl rfl⟩
      · refine ⟨m, ?_, hvalue, hstate.imp_right fun hlive => ⟨hlive.1, ?_⟩⟩
        · rw [← hm, kept, hmandates, Function.update_of_ne (Ne.symm hi)]
        · have hne : c.challenge ≠ body.presented := by
            intro heq
            rw [hpresented, ← hvalue] at heq
            exact hi (hapart i id m' m hm' hm heq.symm)
          have hopen := openChallenge_consumed hne hlive.2
          rw [openChallenge, ← hrows] at hopen
          exact hopen
  | suspend i =>
    rw [step]
    cases hmove : transition d i .suspended with
    | error x => exact h
    | ok d' => exact pending_transition (by decide) (.inr rfl) h hmove
  | resume i =>
    rw [step]
    cases hmove : transition d i .active with
    | error x => exact h
    | ok d' => exact pending_transition (by decide) (.inl rfl) h hmove
  | elapse n => exact h

theorem pending_run {c : ChallengeRow} (acts : List Act) (hapart : Apart P d)
    (h : Pending P d id c) : Pending P (run P d acts) id c := by
  induction acts generalizing d with
  | nil => exact h
  | cons a acts ih =>
    exact ih (apart_of_profiles (profiles_step a) hapart) (pending_step hapart h a)

/-! ## When a mandate can be revoked -/

/-- A valid assertion in time ends a pending revocation. -/
theorem revoked_of_pending {c : ChallengeRow} (h : Pending P d id c) (htime : d.now ≤ c.expiresAt)
    (hm : d.mandates id = some m) (hvalid : Valid P d m c.challenge body) :
    Revoked (step P d (.completeRevoke id body)) id := by
  obtain ⟨m', hm', hvalue, hstate⟩ := h
  obtain rfl := Option.some.inj (hm.symm.trans hm')
  rw [step]
  cases hrevoke : revokeMandate P d id body with
  | ok d' =>
    obtain ⟨m', -, -, -, hmandates, -⟩ := revokeMandate_ok hrevoke
    exact ⟨_, (congrFun hmandates id).trans (Function.update_self id _ _), rfl⟩
  | error x =>
    rcases hstate with hrevoked | ⟨hlive, hopen⟩
    · exact ⟨m, hm, hrevoked⟩
    · obtain ⟨d', hok⟩ := revokeMandate_of_valid hm hlive hopen hvalue.symm htime hvalid
      rw [hok] at hrevoke
      cases hrevoke

/-- **A live mandate of a user with a passkey is revocable** exactly while no revocation with its
challenge has begun. -/
theorem revocable_iff {acts : List Act} (hapart : Apart P d)
    (hm : (run P d acts).mandates id = some m) (hlive : Live m)
    (hcredentials : ∃ c ∈ (run P d acts).credentials, c.userId = m.userId) :
    Revocable P (run P d acts) id ↔ ¬ Taken d (P.mandateChallenge m.claims) ∧
      ¬ Begun P d (P.mandateChallenge m.claims) acts := by
  have hbegins := beginRevoke_ok_iff (P := P) hm hcredentials
  rw [taken_run, not_or] at hbegins
  constructor
  · rintro ⟨c, d', hok, -⟩
    exact hbegins.1 ⟨_, hok⟩
  · intro hfree
    obtain ⟨⟨c, d'⟩, hok⟩ := hbegins.2 hfree
    refine ⟨c, d', hok, fun later m' body htime hm' hvalid => ?_⟩
    have hprofiles : profiles d' = profiles d := by
      have hstep := profiles_step (P := P) (d := run P d acts) (.beginRevoke id)
      rw [step, hok] at hstep
      exact hstep.trans (profiles_run acts)
    have hpending := pending_run later (apart_of_profiles hprofiles hapart)
      (pending_of_begin hlive hm hok)
    exact revoked_of_pending hpending htime hm' hvalid

end Requests

/-! ## An abandoned ceremony -/

/-- A hash that tells mandates apart by their `jti`, and a check that accepts a response naming the
challenge and the key. -/
def plainPasskeys : Passkeys where
  mandateChallenge c := c.jti
  ttl := 300000000
  verifyAuthentication body value key count :=
    if body.response = value ++ key then some (count + 1) else none
  isoformat _ := "2026-08-05T12:00:00+00:00"
  railDeletes _ := true

/-- An active mandate. -/
def signedMandate : Mandate where
  userId := "usr_1"
  status := .active
  claims := ⟨"mnd_1", "usr_1", .null⟩

/-- It, and a passkey of its user. -/
def signedDesk : Desk where
  now := 0
  mandates i := if i = "mnd_1" then some signedMandate else none
  credentials := [⟨"cred_1", "usr_1", "key_1", 0⟩]
  challenges := []
  instruments := [⟨"tok_1", "mnd_1", true⟩]
  outbox := []

/-- A ceremony that was begun, and left to expire. -/
def abandoned : List Act := [.beginRevoke "mnd_1", .elapse 600000000]

theorem signedDesk_mandates {i : String} {m : Mandate} (h : signedDesk.mandates i = some m) :
    i = "mnd_1" := by
  by_contra hne
  rw [signedDesk] at h
  dsimp only at h
  rw [if_neg hne] at h
  cases h

/-- **An abandoned ceremony blocks the next**: the mandate is active, its user has a passkey, and no
revocation can begin. -/
theorem abandoned_blocks :
    (∃ m, (run plainPasskeys signedDesk abandoned).mandates "mnd_1" = some m ∧ Live m ∧
      ∃ c ∈ (run plainPasskeys signedDesk abandoned).credentials, c.userId = m.userId) ∧
    beginRevoke plainPasskeys (run plainPasskeys signedDesk abandoned) "mnd_1" =
      .error .integrity ∧
    ¬ Revocable plainPasskeys (run plainPasskeys signedDesk abandoned) "mnd_1" := by
  have hblocked : beginRevoke plainPasskeys (run plainPasskeys signedDesk abandoned) "mnd_1" =
      .error .integrity := by rfl
  refine ⟨⟨_, rfl, .inl rfl, ⟨"cred_1", "usr_1", "key_1", 0⟩, List.mem_cons_self, rfl⟩,
    hblocked, ?_⟩
  rintro ⟨c, d', hok, -⟩
  rw [hblocked] at hok
  cases hok

theorem revocable_iff_abandoned :
    Revocable plainPasskeys (run plainPasskeys signedDesk abandoned) "mnd_1" ↔
      ¬ Taken signedDesk "mnd_1" ∧ ¬ Begun plainPasskeys signedDesk "mnd_1" abandoned := by
  refine revocable_iff (m := signedMandate) ?_ rfl (.inl rfl) ?_
  · intro i j a b hi hj _
    rw [signedDesk_mandates hi, signedDesk_mandates hj]
  · exact ⟨⟨"cred_1", "usr_1", "key_1", 0⟩, List.mem_cons_self, rfl⟩

end TryTrust.Api.Mandates
