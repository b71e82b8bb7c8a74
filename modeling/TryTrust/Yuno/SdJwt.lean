import TryTrust.Json

/-!
# Presentations of a mandate

An SD-JWT is the issuer's token, disclosures and a key binding, separated by `~`. `verify` checks
the issuer's signature, then the window, then the disclosures, then the key binding.

* `Jose`, what is outside: tokens, keys and hashes; `Failure`, what `verify` raises;
* `splitPresentation`, `issuerClaims`, `checkWindow`, `mergeDisclosures`, `checkKeyBinding`,
  `verifyWith`, `verify`;
* `Signed`, `InWindow`; **`verify_ok`**: a presentation that verifies is signed, and in its window.
-/

namespace TryTrust.Yuno

/-! ## Outside -/

/-- An exception of a call outside: its text, and whether it is one that the callers catch,
`InvalidJWSSignature` or `ValueError`. -/
structure Raised where
  text : String
  caught : Bool
  deriving DecidableEq

/-- Tokens and keys: the header of a token, its payload under a key, the digest of a text, the name
and value of a disclosure, the key of a JWK. A disclosure's name may be no text. -/
structure Jose where
  peekHeader : String → Except Raised Fields
  verifyCompact : String → String → Except Raised Json
  digest : String → Except Raised String
  decodeDisclosure : String → Except Raised (Option String × Json)
  jwkFromDict : Json → Except Raised String

/-- The subclasses of `SDJWTError`. -/
inductive SdJwtError where
  | invalidSignature
  | expired
  | notYetValid
  | invalidKeyBinding
  deriving DecidableEq, Repr

/-- What `verify` raises. -/
inductive Failure where
  | sdJwt (kind : SdJwtError) (text : String)
  | other (text : String)
  deriving DecidableEq

/-- An exception that nothing catches. -/
def uncaught {α : Type} : Except Raised α → Except Failure α
  | .ok a => .ok a
  | .error x => .error (.other x.text)

/-- An exception that is a failed check when it is one that the caller catches. -/
def caughtAs {α : Type} (kind : SdJwtError) (text : String) : Except Raised α → Except Failure α
  | .ok a => .ok a
  | .error x => .error (if x.caught then .sdJwt kind text else .other x.text)

/-- The keys of a JWKS, by `kid`. -/
abbrev Keys : Type := List (String × String)

/-- The optional arguments of `verify`. -/
structure Options where
  nonce : Option String := none
  aud : Option String := none
  requireKeyBinding : Bool := false
  leeway : ℤ := 0

/-! ## The checks -/

/-- `_split`: the issuer's token, the disclosures and the key binding. -/
def splitPresentation (sdJwt : String) : String × List String × Option String :=
  let parts := (sdJwt.toList.splitOn '~').map String.ofList
  let rest := parts.tail
  let kb := rest.getLast?.filter (· ≠ "")
  let rest := if kb.isSome then rest.dropLast else rest
  let rest := if rest.getLast? = some "" then rest.dropLast else rest
  (parts.headD "", rest.filter (· ≠ ""), kb)

/-- `keys.get(kid) if kid else next(iter(keys.values()), None)`. -/
def keyFor (keys : Keys) (kid : Json) : Except Failure (Option String) :=
  if kid.truthy then
    match kid with
    | .str s => .ok (keys.lookup s)
    | .arr _ => .error (.other "unhashable type: 'list'")
    | .obj _ => .error (.other "unhashable type: 'dict'")
    | _ => .ok none
  else .ok (keys.head?.map Prod.snd)

/-- A value as a number; booleans are. -/
def number : Json → Option ℚ
  | .num m scale => some (m / 10 ^ scale)
  | .bool b => some (if b then 1 else 0)
  | _ => none

section Verify

variable (J : Jose)

/-- The claims that the issuer signed. -/
def issuerClaims (keys : Keys) (issuerJwt : String) : Except Failure Fields := do
  let header ← uncaught (J.peekHeader issuerJwt)
  match ← keyFor keys (header.get "kid") with
  | none => .error (.sdJwt .invalidSignature ("no key for kid=" ++ (header.get "kid").repr))
  | some key =>
    match ← caughtAs .invalidSignature "issuer signature does not verify"
        (J.verifyCompact issuerJwt key) with
    | .obj claims => .ok claims
    | _ => .error (.other "the payload is not a dictionary")

/-- One end of the window: the claim, when there is one, is a number that meets a bound. -/
def checkBound (claims : Fields) (name : String) (ok : ℚ → Bool) (error : Json → Failure) :
    Except Failure Unit :=
  match claims.lookup name with
  | none => .ok ()
  | some value =>
    match number value with
    | none => .error (.other "unsupported operand type")
    | some q => if ok q then .ok () else .error (error value)

/-- The window, at a moment in seconds. -/
def checkWindow (claims : Fields) (now leeway : ℤ) : Except Failure Unit := do
  checkBound claims "exp" (fun q => now ≤ q + leeway) fun v =>
    .sdJwt .expired ("exp=" ++ v.text ++ " < now=" ++ toString now)
  checkBound claims "nbf" (fun q => q ≤ now + leeway) fun v =>
    .sdJwt .notYetValid ("nbf=" ++ v.text ++ " > now=" ++ toString now)

/-- The value can be an element of a set. -/
def hashable : Json → Bool
  | .arr _ => false
  | .obj _ => false
  | _ => true

/-- The text that a value is. -/
def asText : Json → Option String
  | .str s => some s
  | _ => none

/-- `set(claims.get("_sd", []))`. -/
def signedDigests (claims : Fields) : Except Failure (List String) :=
  match claims.getD "_sd" (.arr []) with
  | .arr items =>
    if items.all hashable then .ok (items.filterMap asText) else .error (.other "unhashable type")
  | .str s => .ok (s.toList.map String.singleton)
  | .obj fields => .ok (fields.map Prod.fst)
  | _ => .error (.other "object is not iterable")

/-- `claims[name] = value`; a claim whose name is no text is not kept here. -/
def disclose (claims : Fields) (decoded : Option String × Json) : Fields :=
  match decoded.1 with
  | some name => claims.set name decoded.2
  | none => claims

/-- The claims with each disclosure, when its digest is among those that the issuer signed. -/
def addDisclosures (signed : List String) : Fields → List String → Except Failure Fields
  | claims, [] => .ok claims
  | claims, disclosure :: disclosures => do
    let digest ← uncaught (J.digest disclosure)
    if digest ∉ signed then
      .error (.sdJwt .invalidSignature "disclosure does not match any signed digest")
    else
      let decoded ← uncaught (J.decodeDisclosure disclosure)
      addDisclosures signed (disclose claims decoded) disclosures

/-- The disclosures. -/
def mergeDisclosures (claims : Fields) (disclosures : List String) : Except Failure Fields :=
  if disclosures = [] then .ok claims
  else do
    let signed ← signedDigests claims
    addDisclosures J signed claims disclosures

/-- What a key binding covers. -/
def presented (issuerJwt : String) (disclosures : List String) : String :=
  issuerJwt ++ (if disclosures = [] then "" else "~" ++ "~".intercalate disclosures) ++ "~"

/-- A claim of a key binding, when it is asked for. -/
def checkAsked (fields : Fields) (name : String) (asked : Option String) (text : String) :
    Except Failure Unit :=
  match asked with
  | none => .ok ()
  | some value =>
    if asText (fields.get name) = some value then .ok ()
    else .error (.sdJwt .invalidKeyBinding text)

/-- What a key binding says: the nonce, the audience and the digest of what it covers. -/
def checkBinding (o : Options) (covered : String) : Json → Except Failure Unit
  | .obj fields => do
    checkAsked fields "nonce" o.nonce "KB-JWT nonce mismatch"
    checkAsked fields "aud" o.aud "KB-JWT audience mismatch"
    let expected ← uncaught (J.digest covered)
    checkAsked fields "sd_hash" (some expected) "KB-JWT sd_hash does not cover this presentation"
  | _ => .error (.other "the payload is not a dictionary")

/-- The key binding, which is checked when there is one. -/
def checkKeyBinding (o : Options) (claims : Fields) (issuerJwt : String)
    (disclosures : List String) : Option String → Except Failure Unit
  | none =>
    if o.requireKeyBinding then
      .error (.sdJwt .invalidKeyBinding "key binding required but absent")
    else .ok ()
  | some kb =>
    match ((claims.get "cnf").orElse (.obj [])).fields with
    | none => .error (.other "the confirmation is not a dictionary")
    | some cnf =>
      if !(cnf.get "jwk").truthy then
        .error (.sdJwt .invalidKeyBinding "mandate carries no cnf.jwk to bind against")
      else do
        let key ← caughtAs .invalidKeyBinding "KB-JWT signature does not verify"
          (J.jwkFromDict (cnf.get "jwk"))
        let payload ← caughtAs .invalidKeyBinding "KB-JWT signature does not verify"
          (J.verifyCompact kb key)
        checkBinding J o (presented issuerJwt disclosures) payload

/-- `claims.pop(name, None)`. -/
def popClaim (claims : Fields) (name : String) : Fields := claims.filter fun e => e.1 ≠ name

/-- **`verify`**. -/
def verifyWith (o : Options) (keys : Keys) (now : ℤ) (sdJwt : String) : Except Failure Fields := do
  let (issuerJwt, disclosures, kb) := splitPresentation sdJwt
  let signed ← issuerClaims J keys issuerJwt
  checkWindow signed now o.leeway
  let claims ← mergeDisclosures J signed disclosures
  checkKeyBinding J o claims issuerJwt disclosures kb
  .ok (popClaim (popClaim claims "_sd") "_sd_alg")

/-- `verify` as the rail calls it, without options. -/
def verify (keys : Keys) (now : ℤ) (sdJwt : String) : Except Failure Fields :=
  verifyWith J {} keys now sdJwt

/-! ## What a presentation that verifies is -/

/-- The issuer signed some claims: they are the payload of the presentation's token, under the key
that its header names. -/
def Signed (keys : Keys) (sdJwt : String) (claims : Fields) : Prop :=
  ∃ header key, J.peekHeader (splitPresentation sdJwt).1 = .ok header ∧
    keyFor keys (header.get "kid") = .ok (some key) ∧
      J.verifyCompact (splitPresentation sdJwt).1 key = .ok (.obj claims)

/-- A moment is in the window of the claims. -/
structure InWindow (claims : Fields) (now : ℤ) : Prop where
  exp : ∀ value ∈ claims.lookup "exp", ∃ q, number value = some q ∧ (now : ℚ) ≤ q
  nbf : ∀ value ∈ claims.lookup "nbf", ∃ q, number value = some q ∧ q ≤ (now : ℚ)

variable {J} {keys : Keys} {now : ℤ} {sdJwt issuerJwt : String} {claims : Fields}

/-- A step that succeeds, apart from the rest. -/
theorem bind_ok {ε α β : Type} {p : Except ε α} {f : α → Except ε β} {b : β}
    (h : (p >>= f) = .ok b) : ∃ a, p = .ok a ∧ f a = .ok b := by
  cases p with
  | error e => cases h
  | ok a => exact ⟨a, rfl, h⟩

theorem uncaught_ok {α : Type} {p : Except Raised α} {a : α} : uncaught p = .ok a ↔ p = .ok a := by
  cases p <;> simp [uncaught]

theorem caughtAs_ok {α : Type} {kind : SdJwtError} {text : String} {p : Except Raised α} {a : α} :
    caughtAs kind text p = .ok a ↔ p = .ok a := by
  cases p <;> simp [caughtAs]

theorem issuerClaims_ok (h : issuerClaims J keys issuerJwt = .ok claims) :
    ∃ header key, J.peekHeader issuerJwt = .ok header ∧
      keyFor keys (header.get "kid") = .ok (some key) ∧
        J.verifyCompact issuerJwt key = .ok (.obj claims) := by
  obtain ⟨header, hheader, h⟩ := bind_ok h
  obtain ⟨key, hkey, h⟩ := bind_ok h
  cases key with
  | none => cases h
  | some key =>
    obtain ⟨payload, hpayload, h⟩ := bind_ok h
    cases payload with
    | obj fields =>
      obtain rfl := Except.ok.inj h
      exact ⟨header, key, uncaught_ok.1 hheader, hkey, caughtAs_ok.1 hpayload⟩
    | _ => cases h

theorem checkBound_ok {name : String} {ok : ℚ → Bool} {error : Json → Failure}
    (h : checkBound claims name ok error = .ok ()) :
    ∀ value ∈ claims.lookup name, ∃ q, number value = some q ∧ ok q = true := by
  intro value hvalue
  rw [checkBound, Option.mem_def.1 hvalue] at h
  dsimp only at h
  cases hnumber : number value with
  | none =>
    rw [hnumber] at h
    cases h
  | some q =>
    rw [hnumber] at h
    dsimp only at h
    split_ifs at h with hok
    exact ⟨q, rfl, hok⟩

theorem checkWindow_ok (h : checkWindow claims now 0 = .ok ()) : InWindow claims now := by
  obtain ⟨_, hexp, hnbf⟩ := bind_ok h
  refine ⟨fun value hvalue => ?_, fun value hvalue => ?_⟩
  · obtain ⟨q, hq, hle⟩ := checkBound_ok hexp value hvalue
    exact ⟨q, hq, by simpa using hle⟩
  · obtain ⟨q, hq, hle⟩ := checkBound_ok hnbf value hvalue
    exact ⟨q, hq, by simpa using hle⟩

/-- **A presentation that verifies** is signed by the issuer, and in its window. -/
theorem verify_ok (h : verify J keys now sdJwt = .ok claims) :
    ∃ signed, Signed J keys sdJwt signed ∧ InWindow signed now := by
  rw [verify, verifyWith] at h
  obtain ⟨signed, hsigned, h⟩ := bind_ok h
  obtain ⟨_, hwindow, -⟩ := bind_ok h
  exact ⟨signed, issuerClaims_ok hsigned, checkWindow_ok hwindow⟩

end Verify

end TryTrust.Yuno
