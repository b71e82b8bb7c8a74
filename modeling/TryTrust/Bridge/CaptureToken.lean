import TryTrust.Bridge.Guard

/-!
# Capture tokens, minted and checked

The kernel mints a capture token, the bridge checks it.

* `CaptureBinding`, `captureClaims`, `mintCaptureToken` (`mint_capture_token`);
* `Question`, what the bridge asks of a token; `Matches`, `InWindow`, `Refused`;
* `Trusted`: what is assumed of the signatures;
* `checkClaims_minted`, `verifyCaptureToken_minted`, `verifyCaptureToken_other`;
* **`captureToken_roundTrip_iff`**: when the round trip is as it should be.
-/

namespace TryTrust.Bridge

/-! ## Minting -/

/-- What `mint_capture_token` binds, the key id and the time, in microseconds. -/
structure CaptureBinding where
  purchaseId : String
  reservationId : Option String
  amount : String
  cartHash : String
  dryRun : Bool
  kid : Option String
  now : ℤ

/-- `DEFAULT_TTL_S`. -/
def defaultTtlS : ℤ := 120

/-- `int(now.timestamp())`. -/
def CaptureBinding.iat (m : CaptureBinding) : ℤ := m.now.tdiv 1000000

/-- The claims of a capture token. -/
def captureClaims (m : CaptureBinding) : Fields :=
  [("purchase_id", .str m.purchaseId), ("reservation_id", jsonText m.reservationId),
    ("amount", .str m.amount), ("cart_hash", .str m.cartHash), ("dry_run", .bool m.dryRun),
    ("iat", .num m.iat 0), ("exp", .num (m.iat + defaultTtlS) 0)]

/-- The header that `sign_compact` makes; an empty key id is left out. -/
def captureHeader (alg : String) (kid : Option String) : Fields :=
  [("alg", .str alg)] ++ ((kid.filter (· ≠ "")).map fun k => ("kid", Json.str k)).toList ++
    [("typ", .str "capture-token+jwt")]

/-- The issuer key: as it is published, its algorithm, and the compact JWS that it makes of a header
and claims. -/
structure IssuerKey where
  published : Json
  alg : String
  sign : Fields → Fields → String

/-- **`mint_capture_token`**. -/
def mintCaptureToken (K : IssuerKey) (m : CaptureBinding) : String :=
  K.sign (captureHeader K.alg m.kid) (captureClaims m)

/-- The token is one that the kernel minted. -/
def Minted (K : IssuerKey) (token : String) : Prop := ∃ m, mintCaptureToken K m = token

/-! ## Checking -/

/-- What the bridge asks of a token, and when, in microseconds. -/
structure Question where
  purchaseId : String
  cartHash : String
  amount : String
  dryRun : Bool
  now : ℤ

/-- `verify_capture_token` of a question. -/
def Question.ask (q : Question) (D : Deps) (keys : Fields) (token : String) :
    Except BridgeErr Fields :=
  verifyCaptureToken D token keys q.now q.purchaseId q.cartHash q.amount q.dryRun

/-- Two texts are the same number. -/
def SameAmount (a b : String) : Prop :=
  (∃ x y : Dec, parseDecimal a = some (.finite x) ∧ parseDecimal b = some (.finite y) ∧
    x.value = y.value) ∨
  (parseDecimal a = some .infinity ∧ parseDecimal b = some .infinity ∧
    isNegative a = isNegative b)

/-- The question is about what was minted. -/
structure Matches (m : CaptureBinding) (q : Question) : Prop where
  purchaseId : q.purchaseId = m.purchaseId
  cartHash : q.cartHash = m.cartHash
  amount : SameAmount m.amount q.amount
  dryRun : q.dryRun = m.dryRun

/-- From five seconds before `iat` to five seconds after `exp`. -/
def InWindow (m : CaptureBinding) (now : ℤ) : Prop :=
  (m.iat - 5) * 1000000 ≤ now ∧ now ≤ (m.iat + defaultTtlS + 5) * 1000000

/-- `ApprovalInvalid` or `ApprovalExpired`. -/
def Refused (r : Except BridgeErr Fields) : Prop :=
  ∃ code message, (code = .approvalInvalid ∨ code = .approvalExpired) ∧
    r = .error (.bridge code message [])

theorem decimalNe_iff {a b : String} : decimalNe a b = some false ↔ SameAmount a b := by
  unfold decimalNe SameAmount
  cases ha : parseDecimal a with
  | none => simp
  | some x =>
    cases hb : parseDecimal b with
    | none => simp
    | some y =>
      cases x with
      | finite x =>
        cases y with
        | finite y => simp [Dec.same_iff]
        | infinity | nan | signalingNan => simp
      | infinity =>
        cases y with
        | infinity => simp
        | finite y | nan | signalingNan => simp
      | nan | signalingNan => cases y <;> simp

/-- What is assumed of the signatures, for a minted token and any text: a minted token has its
header, and verifies under the issuer's key alone, to its claims; and a text of the type that
verifies under a key of the bridge is a token that the kernel minted. -/
structure Trusted (D : Deps) (K : IssuerKey) (keys : Fields) (m : CaptureBinding)
    (token : String) : Prop where
  header : D.peekHeader (mintCaptureToken K m) = .ok (captureHeader K.alg m.kid)
  verifies : ∃ claims, D.verifyCompact (mintCaptureToken K m) K.published = .ok claims
  signed : ∀ key claims, D.verifyCompact (mintCaptureToken K m) key = .ok claims →
    key = K.published ∧ ∀ name, claims.get name = (captureClaims m).get name
  unforgeable : ∀ kid key header claims, keys.lookup kid = some key →
    D.peekHeader token = .ok header → isText (header.get "typ") "capture-token+jwt" = true →
      D.verifyCompact token key = .ok claims → Minted K token

/-- The token's key id is one that the bridge knows as the issuer's. -/
def KnownKid (K : IssuerKey) (keys : Fields) (m : CaptureBinding) : Prop :=
  ∃ k, m.kid = some k ∧ k ≠ "" ∧ keys.lookup k = some K.published

/-- The key id in a header of the type, when it can be read, is no list and no dictionary (or an
empty one). -/
def PlainKid (D : Deps) (token : String) : Prop :=
  ∀ header, D.peekHeader token = .ok header →
    isText (header.get "typ") "capture-token+jwt" = true →
      (∀ item items, header.get "kid" ≠ .arr (item :: items)) ∧
        ∀ entry entries, header.get "kid" ≠ .obj (entry :: entries)

theorem keyOf_error {keys : Fields} {kid : Json} {x : BridgeErr} (h : keyOf keys kid = .error x) :
    x = .other "TypeError" ∧
      ((∃ item items, kid = .arr (item :: items)) ∨ ∃ entry entries, kid = .obj (entry :: entries)) := by
  unfold keyOf at h
  split at h
  · cases h
  · cases h
    exact ⟨rfl, .inl ⟨_, _, rfl⟩⟩
  · cases h
    exact ⟨rfl, .inr ⟨_, _, rfl⟩⟩
  · cases h

theorem keyOf_some {keys : Fields} {kid key : Json} (h : keyOf keys kid = .ok (some key)) :
    ∃ k, keys.lookup k = some key := by
  unfold keyOf at h
  split at h
  · split_ifs at h
    · cases h
    · exact ⟨_, Except.ok.inj h⟩
  · cases h
  · cases h
  · cases h

section

variable {D : Deps} {K : IssuerKey} {keys : Fields} {m : CaptureBinding} {token : String}

/-- The claims of a minted token pass exactly the questions about what was minted, in its window. -/
theorem checkClaims_minted {claims : Fields} (q : Question)
    (hclaims : ∀ name, claims.get name = (captureClaims m).get name) :
    (∃ c, checkClaims claims q.now q.purchaseId q.cartHash q.amount q.dryRun = .ok c) ↔
      Matches m q ∧ InWindow m q.now := by
  have hexp : Json.number (claims.get "exp") = some (m.iat + defaultTtlS, 0) := by
    rw [hclaims]
    rfl
  have hiat : Json.number (claims.get "iat") = some (m.iat, 0) := by
    rw [hclaims]
    rfl
  have hpurchase : claims.get "purchase_id" = .str m.purchaseId := hclaims _
  have hcart : claims.get "cart_hash" = .str m.cartHash := hclaims _
  have hamount : (claims.get "amount").text = m.amount := by
    rw [hclaims]
    rfl
  have hdry : (claims.get "dry_run").truthy = m.dryRun := by
    rw [hclaims]
    rfl
  unfold checkClaims
  rw [hexp, hiat, hpurchase, hcart, hamount, hdry]
  simp only [afterSeconds, beforeSeconds, clockSkewS, isText, pow_zero, mul_one, gt_iff_lt,
    decide_eq_true_eq, Bool.not_eq_true', decide_eq_false_iff_not]
  have hwindow : InWindow m q.now ↔ ¬ (m.iat + defaultTtlS + 5) * 1000000 < q.now ∧
      ¬ q.now < (m.iat - 5) * 1000000 := by
    unfold InWindow
    omega
  have hno : ∀ (x : BridgeErr) (P : Prop), ¬ P →
      ((∃ c, (Except.error x : Except BridgeErr Fields) = .ok c) ↔ P) := by
    rintro x P hP
    refine iff_of_false ?_ hP
    rintro ⟨c, hc⟩
    cases hc
  by_cases hlate : (m.iat + defaultTtlS + 5) * 1000000 < q.now
  · rw [if_pos hlate]
    exact hno _ _ fun h => (hwindow.1 h.2).1 hlate
  by_cases hearly : q.now < (m.iat - 5) * 1000000
  · rw [if_neg hlate, if_pos hearly]
    exact hno _ _ fun h => (hwindow.1 h.2).2 hearly
  by_cases hid : m.purchaseId = q.purchaseId
  swap
  · rw [if_neg hlate, if_neg hearly, if_pos hid]
    exact hno _ _ fun h => hid h.1.purchaseId.symm
  by_cases hhash : m.cartHash = q.cartHash
  swap
  · rw [if_neg hlate, if_neg hearly, if_neg (not_not.2 hid), if_pos hhash]
    exact hno _ _ fun h => hhash h.1.cartHash.symm
  rw [if_neg hlate, if_neg hearly, if_neg (not_not.2 hid), if_neg (not_not.2 hhash)]
  have hamounts : decimalNe m.amount q.amount ≠ some false → ¬ (Matches m q ∧ InWindow m q.now) :=
    fun hne h => hne (decimalNe_iff.2 h.1.amount)
  cases hne : decimalNe m.amount q.amount with
  | none => exact hno _ _ (hamounts (by simp [hne]))
  | some differs =>
    cases differs with
    | true => exact hno _ _ (hamounts (by simp [hne]))
    | false =>
      simp only
      by_cases hflag : m.dryRun = q.dryRun
      · rw [if_neg (by simp [hflag])]
        exact iff_of_true ⟨claims, rfl⟩ ⟨⟨hid.symm, hhash.symm, decimalNe_iff.1 hne, hflag.symm⟩,
          hwindow.2 ⟨hlate, hearly⟩⟩
      · rw [if_pos (by simp [hflag])]
        exact hno _ _ fun h => hflag h.1.dryRun.symm

theorem captureHeader_typ (alg : String) (kid : Option String) :
    isText ((captureHeader alg kid).get "typ") "capture-token+jwt" = true := by
  cases kid with
  | none => rfl
  | some k =>
    by_cases hk : k = ""
    · subst hk
      rfl
    · simp only [captureHeader, Option.filter_some, hk, ne_eq, not_false_eq_true, decide_true,
        if_true]
      rfl

theorem captureHeader_kid (alg : String) (kid : Option String) :
    (captureHeader alg kid).get "kid" = jsonText (kid.filter (· ≠ "")) := by
  cases kid with
  | none => rfl
  | some k =>
    by_cases hk : k = ""
    · subst hk
      rfl
    · simp only [captureHeader, Option.filter_some, hk, ne_eq, not_false_eq_true, decide_true,
        if_true]
      rfl

/-- The key that the bridge takes for a minted token. -/
theorem keyOf_minted (K : IssuerKey) (keys : Fields) (m : CaptureBinding) :
    keyOf keys ((captureHeader K.alg m.kid).get "kid") =
      .ok ((m.kid.filter (· ≠ "")).bind fun k => keys.lookup k) := by
  rw [captureHeader_kid]
  cases m.kid with
  | none => rfl
  | some k =>
    by_cases hk : k = ""
    · subst hk
      rfl
    · simp [Option.filter_some, hk, jsonText, keyOf]

/-- **A minted token is accepted exactly** when the bridge knows its key and the question is about
what was minted, in its window. -/
theorem verifyCaptureToken_minted (h : Trusted D K keys m token) (q : Question) :
    (∃ claims, q.ask D keys (mintCaptureToken K m) = .ok claims) ↔
      KnownKid K keys m ∧ Matches m q ∧ InWindow m q.now := by
  have hknown : KnownKid K keys m ↔
      ((m.kid.filter (· ≠ "")).bind fun k => keys.lookup k) = some K.published := by
    unfold KnownKid
    cases m.kid with
    | none => simp
    | some k => by_cases hk : k = "" <;> simp [Option.filter_some, hk]
  unfold Question.ask verifyCaptureToken
  rw [h.header]
  simp only [captureHeader_typ, Bool.not_true, Bool.false_eq_true, if_false, keyOf_minted]
  cases hkey : (m.kid.filter (· ≠ "")).bind (fun k => keys.lookup k) with
  | none =>
    rw [hknown, hkey]
    simp
  | some key =>
    simp only
    cases hverify : D.verifyCompact (mintCaptureToken K m) key with
    | error message =>
      simp only [reduceCtorEq, exists_false, false_iff]
      rintro ⟨hkid, -⟩
      rw [hknown, hkey] at hkid
      obtain ⟨claims, hok⟩ := h.verifies
      rw [← Option.some.inj hkid, hverify] at hok
      cases hok
    | ok claims =>
      obtain ⟨rfl, hclaims⟩ := h.signed key claims hverify
      simp only [checkClaims_minted q hclaims, hknown, hkey, true_and]

/-- **A text that the kernel did not mint is refused exactly** when its key id is plain. -/
theorem verifyCaptureToken_other (h : Trusted D K keys m token) (q : Question)
    (hother : ¬ Minted K token) : Refused (q.ask D keys token) ↔ PlainKid D token := by
  have hinvalid : ∀ message, Refused (.error (approvalInvalid message)) :=
    fun message => ⟨_, message, .inl rfl, rfl⟩
  unfold Question.ask verifyCaptureToken PlainKid
  cases hheader : D.peekHeader token with
  | error message => simp [hinvalid]
  | ok header =>
    simp only [Except.ok.injEq, forall_eq']
    cases htyp : isText (header.get "typ") "capture-token+jwt" with
    | false => simp [hinvalid]
    | true =>
      simp only [Bool.not_true, Bool.false_eq_true, if_false, true_imp_iff]
      cases hkey : keyOf keys (header.get "kid") with
      | error x =>
        obtain ⟨rfl, hbad⟩ := keyOf_error hkey
        constructor
        · rintro ⟨code, message, -, h⟩
          cases h
        · rintro ⟨harr, hobj⟩
          rcases hbad with ⟨item, items, hkid⟩ | ⟨entry, entries, hkid⟩
          · exact absurd hkid (harr item items)
          · exact absurd hkid (hobj entry entries)
      | ok key =>
        -- a key was looked up, so the key id is none of the two
        have hplain : (∀ item items, header.get "kid" ≠ .arr (item :: items)) ∧
            ∀ entry entries, header.get "kid" ≠ .obj (entry :: entries) := by
          constructor <;> intro a b hkid <;> rw [hkid] at hkey <;> cases hkey
        refine iff_of_true ?_ hplain
        cases key with
        | none => exact hinvalid _
        | some key =>
          obtain ⟨kid, hlookup⟩ := keyOf_some hkey
          simp only
          cases hverify : D.verifyCompact token key with
          | error message => exact hinvalid _
          | ok claims =>
            exact absurd (h.unforgeable kid key header claims hlookup hheader htyp hverify) hother

/-- **The round trip is as it should be exactly when** the bridge knows the key of the tokens that it
is to accept, under a key id that is no empty text, and no other text of the type has a list or a
dictionary as its key id. -/
theorem captureToken_roundTrip_iff (h : Trusted D K keys m token) (q : Question) :
    (((∃ claims, q.ask D keys (mintCaptureToken K m) = .ok claims) ↔
        Matches m q ∧ InWindow m q.now) ∧
      (¬ Minted K token → Refused (q.ask D keys token))) ↔
    ((Matches m q ∧ InWindow m q.now → KnownKid K keys m) ∧
      (¬ Minted K token → PlainKid D token)) := by
  rw [verifyCaptureToken_minted h q]
  refine and_congr ?_ (forall_congr' fun hother => verifyCaptureToken_other h q hother)
  constructor
  · intro hiff hmatch
    exact (hiff.2 hmatch).1
  · intro hknown
    exact ⟨fun hall => hall.2, fun hmatch => ⟨hknown hmatch, hmatch⟩⟩

end

/-! ## A key id that is a list -/

/-- A kernel of one token. -/
def oneToken : IssuerKey := ⟨.str "public", "EdDSA", fun _ _ => "token"⟩

/-- What the token binds. -/
def oneBinding : CaptureBinding := ⟨"pur_1", none, "18300.00", "hash", true, some "v1", 0⟩

/-- Its verification, and the header of all other texts. -/
def oneDeps (other : Except String Fields) : Deps where
  digest _ := .ok ""
  peekHeader t := if t = "token" then .ok (captureHeader "EdDSA" (some "v1")) else other
  verifyCompact t key := if t = "token" ∧ isText key "public" then .ok (captureClaims oneBinding)
    else .error "no such token"

theorem oneDeps_trusted (other : Except String Fields) :
    Trusted (oneDeps other) oneToken [("v1", .str "public")] oneBinding "forged" where
  header := rfl
  verifies := ⟨_, rfl⟩
  signed := by
    intro key claims hverify
    simp only [oneDeps, mintCaptureToken, oneToken] at hverify
    split_ifs at hverify with hkey
    cases hverify
    refine ⟨?_, fun _ => rfl⟩
    cases key <;> simp_all [isText, oneToken]
  unforgeable := by
    intro kid key header claims _ _ _ hverify
    simp [oneDeps] at hverify

theorem forged_other : ¬ Minted oneToken "forged" := by
  rintro ⟨m, hm⟩
  have hone : mintCaptureToken oneToken m = "token" := rfl
  rw [hone] at hm
  exact absurd hm (by decide)

/-- With another text that is no token at all, the round trip is as it should be. -/
theorem captureToken_roundTrip_plain :
    ((∃ claims, (⟨"pur_1", "hash", "18300", true, 0⟩ : Question).ask (oneDeps (.error "no token"))
          [("v1", .str "public")] (mintCaptureToken oneToken oneBinding) = .ok claims) ↔
        Matches oneBinding ⟨"pur_1", "hash", "18300", true, 0⟩ ∧ InWindow oneBinding 0) ∧
      (¬ Minted oneToken "forged" → Refused ((⟨"pur_1", "hash", "18300", true, 0⟩ : Question).ask
        (oneDeps (.error "no token")) [("v1", .str "public")] "forged")) := by
  refine (captureToken_roundTrip_iff (oneDeps_trusted _) _).2 ⟨fun _ => ?_, fun _ => ?_⟩
  · exact ⟨"v1", rfl, by decide, rfl⟩
  · intro header hheader
    cases hheader

/-- A text whose key id is a list makes the check raise `TypeError`. -/
theorem captureToken_crash : ¬ ∀ (D : Deps) (K : IssuerKey) (keys : Fields) (m : CaptureBinding)
    (token : String), Trusted D K keys m token → ∀ q : Question,
      ((∃ claims, q.ask D keys (mintCaptureToken K m) = .ok claims) ↔
        Matches m q ∧ InWindow m q.now) ∧
      (¬ Minted K token → Refused (q.ask D keys token)) := by
  intro h
  obtain ⟨-, hrefused⟩ := h _ _ _ _ _
    (oneDeps_trusted (.ok [("typ", .str "capture-token+jwt"), ("kid", .arr [.str "v1"])]))
    ⟨"pur_1", "hash", "18300", true, 0⟩
  obtain ⟨code, message, -, hr⟩ := hrefused forged_other
  cases hr

end TryTrust.Bridge
