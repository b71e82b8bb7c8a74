import TryTrust.Bridge.Orders
import TryTrust.Decimal

/-!
# The checks of the bridge

Pure checks that the guarded flow makes between its calls: money, the binding of the cart, the
capture token, the payment method, and the guards before the click.

* `parseMoneyE`, `checkCap`, `checkDrift`, `checkAddress`;
* `canonicalCartValue`, `computeCartHash`: the binding of a quoted cart;
* `verifyCaptureToken`: signature, type, time window and every bound claim;
* `choosePayment`, `methodIsCash`; `returnKeyOf`, `orderIdOf`: what Rappi's answers say;
* `checkDrift_ok`: what passes the drift check is the approved amount, a number of cents.
-/

namespace TryTrust.Bridge

open Conc

/-- The settings of the bridge that the guarded flow reads. -/
structure Config where
  enabled : Bool
  dryRun : Bool
  maxOrderCop : String
  paymentMethodId : Option String
  allowCash : Bool

/-- `PlaceOrderRequest`. -/
structure PlaceOrderRequest where
  idemKey : String
  purchaseId : String
  amount : String
  cartHash : String
  captureToken : String
  expectedAddressId : Option String
  storeType : String

/-- What the flow takes from libraries: the digest of canonical JSON, the unverified header of a
compact JWS, and its verified payload. -/
structure Deps where
  digest : Json → Except BridgeErr String
  peekHeader : String → Except String Fields
  verifyCompact : String → Json → Except String Fields

/-! ## Money -/

/-- `parse_money`, with its exception. -/
def parseMoneyE (text : String) : Except BridgeErr Money :=
  match parseMoney text with
  | some m => .ok m
  | none => .error (.other "InvalidOperation")

/-- The machine cap, against which an amount is compared; comparing a NaN raises. -/
def checkCap (total : Money) (maxOrderCop : String) : Except BridgeErr Unit :=
  match total, parseMoney maxOrderCop with
  | .cents t, some (.cents cap) =>
    if t > cap then
      .error (.bridge .capExceeded
        ("checkout total " ++ fmt t ++ " exceeds the bridge cap " ++ fmt cap)
        [("total", .str (fmt t)), ("cap", .str (fmt cap))])
    else .ok ()
  | _, _ => .error (.other "InvalidOperation")

/-- The checkout total has to be the approved amount, to the cent. -/
def checkDrift (approved checkoutTotal : Money) : Except BridgeErr Unit :=
  if approved.eq checkoutTotal then .ok ()
  else .error (.bridge .priceDrift
    ("checkout total " ++ checkoutTotal.text ++ " differs from approved " ++ approved.text)
    [("approved", .str approved.text), ("checkout_total", .str checkoutTotal.text)])

/-- An optional text as a value. -/
def jsonText (s : Option String) : Json := (s.map Json.str).getD .null

/-- The delivery address has to be the expected one, if one is expected. -/
def checkAddress (delivery expected : Option String) : Except BridgeErr Unit :=
  if expected = none ∨ delivery = expected then .ok ()
  else .error (.bridge .addressMismatch
    ("checkout delivers to " ++ (jsonText delivery).repr ++ ", mandate authorizes " ++
      (jsonText expected).repr)
    [("checkout_address_id", jsonText delivery), ("expected_address_id", jsonText expected)])

/-- What passes the drift check is the approved amount, a number of cents. -/
theorem checkDrift_ok {approved total : Money} {u : Unit} (h : checkDrift approved total = .ok u) :
    ∃ c, approved = .cents c ∧ total = .cents c := by
  unfold checkDrift at h
  split_ifs at h with heq
  cases approved with
  | nan => simp [Money.eq] at heq
  | cents c => exact ⟨c, rfl, (Money.eq_of_eq heq).symm⟩

/-! ## The binding of a cart -/

/-- No trailing zeros after the point. -/
def normalized (m : ℤ) : ℕ → ℤ × ℕ
  | 0 => (m, 0)
  | scale + 1 => if m % 10 = 0 then normalized (m / 10) scale else (m, scale + 1)

/-- A number of a cart as a decimal text; `normalize` rounds it to 28 digits. -/
def canonicalNumber (m : ℤ) (scale : ℕ) : String :=
  let d := Dec.fix ⟨m, -scale⟩
  let n := normalized (d.coeff * 10 ^ d.exp.toNat) (-d.exp).toNat
  if d.coeff = 0 then "0" else decimalText n.1 n.2

mutual

/-- `_canonical_cart_value`: numbers become decimal texts. -/
def canonicalCartValue : Json → Json
  | .null => .null
  | .bool b => .bool b
  | .str s => .str s
  | .num m scale => .str (canonicalNumber m scale)
  | .arr items => .arr (canonicalItems items)
  | .obj fields => .obj (canonicalFields fields)

/-- The items of a list. -/
def canonicalItems : List Json → List Json
  | [] => []
  | item :: items => canonicalCartValue item :: canonicalItems items

/-- The entries of a dictionary. -/
def canonicalFields : List (String × Json) → List (String × Json)
  | [] => []
  | (key, value) :: fields => (key, canonicalCartValue value) :: canonicalFields fields

end

/-- The total of a store, `parse_money(str(store.get("total", "0")))`. -/
def storeTotal (store : Fields) : Except BridgeErr Money :=
  parseMoneyE (store.getD "total" (.str "0")).text

/-- The text is of a negative number, or of a negative zero. -/
def startsMinus (text : String) : Bool :=
  ((text.toList.dropWhile Char.isWhitespace).filter (· ≠ '_')).head? = some '-'

/-- `str` of the total; a zero keeps its sign. -/
def totalText (store : Fields) (total : Money) : String :=
  if total = .cents 0 ∧ startsMinus (store.getD "total" (.str "0")).text then "-0.00"
  else total.text

/-- `compute_cart_hash`. -/
def computeCartHash (D : Deps) (storeType : String) (store : Fields) :
    Except BridgeErr String := do
  let total ← storeTotal store
  D.digest (.obj [("store_type", .str storeType), ("store_id", store.get "id"),
    ("products", canonicalCartValue (store.getD "products" (.arr []))),
    ("total", .str (totalText store total))])

/-! ## The capture token -/

/-- Seconds of clock skew. -/
def clockSkewS : ℤ := 5

/-- `isinstance(value, (int, float))`, with its value; a boolean is an integer. -/
def Json.number : Json → Option (ℤ × ℕ)
  | .num m scale => some (m, scale)
  | .bool b => some (if b then 1 else 0, 0)
  | _ => none

/-- A moment, in microseconds, is after `seconds + skew`. -/
def afterSeconds (moment : ℤ) (seconds : ℤ × ℕ) (skew : ℤ) : Bool :=
  moment * 10 ^ seconds.2 > (seconds.1 + skew * 10 ^ seconds.2) * 1000000

/-- A moment, in microseconds, is before `seconds - skew`. -/
def beforeSeconds (moment : ℤ) (seconds : ℤ × ℕ) (skew : ℤ) : Bool :=
  moment * 10 ^ seconds.2 < (seconds.1 - skew * 10 ^ seconds.2) * 1000000

/-- The value is the text. -/
def isText (value : Json) (text : String) : Bool :=
  match value with
  | .str s => s = text
  | _ => false

/-- `keys.get(kid) if kid else None`; a list or a dictionary is no key of a dictionary. -/
def keyOf (keys : Fields) (kid : Json) : Except BridgeErr (Option Json) :=
  match kid with
  | .str k => .ok (if k = "" then none else keys.lookup k)
  | .arr (_ :: _) | .obj (_ :: _) => .error (.other "TypeError")
  | _ => .ok none

/-- A text with a minus sign. -/
def isNegative (text : String) : Bool :=
  ((text.toList.dropWhile Char.isWhitespace).filter (· ≠ '_')).head? = some '-'

/-- `Decimal(a) != Decimal(b)`; `none` when it raises. -/
def decimalNe (a b : String) : Option Bool :=
  match parseDecimal a, parseDecimal b with
  | some (.finite x), some (.finite y) => some !x.same y
  | some .infinity, some .infinity => some (isNegative a != isNegative b)
  | some x, some y => if x = .signalingNan ∨ y = .signalingNan then none else some true
  | _, _ => none

/-- `ApprovalInvalid`. -/
def approvalInvalid (message : String) : BridgeErr := .bridge .approvalInvalid message []

/-- The claims that the token has to bind. -/
def checkClaims (claims : Fields) (moment : ℤ) (purchaseId cartHash amount : String)
    (dryRun : Bool) : Except BridgeErr Fields :=
  let expired := match Json.number (claims.get "exp") with
    | some exp => afterSeconds moment exp clockSkewS
    | none => true
  let future := match Json.number (claims.get "iat") with
    | some iat => beforeSeconds moment iat clockSkewS
    | none => true
  if expired then .error (.bridge .approvalExpired "capture token expired (TTL <= 120 s)" [])
  else if future then .error (approvalInvalid "capture token issued in the future")
  else if !isText (claims.get "purchase_id") purchaseId then
    .error (approvalInvalid "capture token is bound to another purchase")
  else if !isText (claims.get "cart_hash") cartHash then
    .error (approvalInvalid "capture token is bound to another cart — re-quote required")
  else
    match decimalNe (claims.get "amount").text amount with
    | none => .error (.other "InvalidOperation")
    | some true => .error (approvalInvalid "capture token amount differs from the approved one")
    | some false =>
      if (claims.get "dry_run").truthy != dryRun then
        .error (approvalInvalid "capture token dry_run flag differs from bridge config")
      else .ok claims

/-- `verify_capture_token`, at a moment in microseconds. -/
def verifyCaptureToken (D : Deps) (token : String) (keys : Fields) (moment : ℤ)
    (purchaseId cartHash amount : String) (dryRun : Bool) : Except BridgeErr Fields :=
  match D.peekHeader token with
  | .error m => .error (approvalInvalid ("malformed capture token: " ++ m))
  | .ok header =>
    if !isText (header.get "typ") "capture-token+jwt" then
      .error (approvalInvalid ("unexpected token typ " ++ (header.get "typ").repr))
    else
      match keyOf keys (header.get "kid") with
      | .error x => .error x
      | .ok none => .error (approvalInvalid ("no kernel key for kid " ++ (header.get "kid").repr))
      | .ok (some key) =>
        match D.verifyCompact token key with
        | .error m => .error (approvalInvalid ("capture token signature invalid: " ++ m))
        | .ok claims => checkClaims claims moment purchaseId cartHash amount dryRun

/-! ## The payment method -/

/-- `d.get(key) or {}`; the value is read as a dictionary next, which raises for another one. -/
def subFields (d : Fields) (key : String) : Except BridgeErr Fields :=
  match (d.get key).fields with
  | some fields => .ok fields
  | none => .error (.other "AttributeError")

/-- `method_is_cash`. -/
def methodIsCash (method : Fields) : Except BridgeErr Bool := do
  let metadata ← subFields method "metadata"
  let charge ← subFields metadata "charge_data"
  pure (isText (method.get "id") "cash" || isText (charge.get "payment_method") "cash")

/-- `m.get("available") is not False`. -/
def usable (method : Fields) : Bool :=
  match method.get "available" with
  | .bool false => false
  | _ => true

/-- The preferred method, or the default one, or the first; never cash, unless it is allowed. -/
def choosePayment (cfg : Config) (methods : List Fields) : Except BridgeErr Fields := do
  let candidates := methods.filter usable
  let preferred := cfg.paymentMethodId.filter (· ≠ "")
  let method ← match preferred with
    | some id =>
      match candidates.find? fun m => isText (m.get "id") id with
      | some m => Except.ok m
      | none => .error (.bridge .paymentUnresolved
          ("preferred payment method is not available; refusing to " ++
            "charge a different instrument than the mandate's") [("preferred", .str id)])
    | none =>
      match candidates with
      | [] => .error (.bridge .paymentUnresolved "no usable payment method on the account" [])
      | first :: _ => .ok ((candidates.find? fun m => (m.get "default").truthy).getD first)
  let cash ← methodIsCash method
  if cash && !cfg.allowCash then
    .error (.bridge .cashPaymentRefused
      ("resolved payment method is cash; a mandate funds a card, " ++
        "and cash orders get cancelled by Rappi") [])
  else .ok method

/-- `str(method.get("main_description") or method.get("id"))`. -/
def methodLabel (method : Fields) : String :=
  ((method.get "main_description").orElse (method.get "id")).text

/-! ## Rappi's answers -/

/-- `str((detail or {}).get("return_key") or "")`; `none` when it raises. -/
def returnKeyOf (detail : Json) : Option String :=
  detail.fields.map fun d => ((d.get "return_key").orElse (.str "")).text

/-- The order id in the answer to the paying call; `none` when reading it raises. -/
def orderIdOf (result : Json) : Option (Option String) :=
  let order : Option Fields := match result with
    | .arr (first :: _) => first.fields
    | .obj fields => some fields
    | _ => some []
  order.map fun o =>
    let id := (((o.get "order_id").orElse (o.get "id")).orElse (.str "")).text
    if id = "" then none else some id

end TryTrust.Bridge
