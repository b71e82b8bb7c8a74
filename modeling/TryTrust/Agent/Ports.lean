import TryTrust.Agent.Chain

/-!
# The rail and the merchant ports

* `capture`: the rail, idempotent in the request id; its insert is what moves money;
* `checkoutCharge`: the in-process merchant's own checkout, and `localSettle`, its port;
* `rappiSettle`: the guarded bridge, armed by a capture token that the kernel mints.
-/

namespace TryTrust.Agent

open Conc

/-- Pure functions of the repository that the purchase path calls: signatures, the evaluation of
mandate conditions, and the text the port digs out of a bridge error. -/
structure Deps where
  verifyToken : String → Except PyErr Claims
  verifyDetached : String → Intent → Claims → Except PyErr Unit
  signDetached : Intent → Claims → String
  evaluate : Json → Offer → ℤ → Except String Bool
  describe : Json → String
  bridgeMessage : String → String

/-- What the live-state check answers at settlement time. -/
structure Live where
  approved : Bool
  reasonCode : Option String
  reservationId : Option String

/-- A port's answer. -/
inductive SettleResult where
  | accepted (receipt : Receipt)
  | refused (reasonCode : Option String) (detail : String)

/-- The identifiers that `new_id` and `nonce` draw during one purchase. -/
structure FreshIds where
  purchaseId : String
  intentJti : String
  nonce : String
  reservationId : String
  captureId : String
  receiptId : String
  escalationId : String

/-- The rail or the bridge holds a capture for the intent of this id. -/
def Held (intentJti : String) (db : Db) : Prop :=
  (db.captures intentJti).isSome ∨
    ∃ o ∈ db.bridgeOrders, o.1.purchaseId = intentJti ∧ o.2 = true

/-- The first `n` characters. -/
def clip (n : ℕ) (s : String) : String := String.ofList (s.toList.take n)

/-- Server-to-server capture against the vaulted token; a repeated request id answers the stored
result. -/
def capture (ids : FreshIds) (tokenRef : String) (amount : ℤ) (currency requestId : String) :
    Py Capture := do
  match ← call (.selectCapture requestId) with
  | some prior => pure prior
  | none =>
    match ← call (.selectInstrument tokenRef) with
    | none => .raise (.rail "RAIL_ERROR" ("unknown payment token " ++ tokenRef))
    | some .deleted =>
      .raise (.rail "RAIL_TOKEN_DELETED" "payment token was deleted at the rail (revocation)")
    | some .active =>
      if amount = 0 then .raise (.rail "RAIL_ERROR" "zero amount refused by the rail")
      else
        let result : Capture := ⟨ids.captureId, amount, currency, tokenRef⟩
        call (.insertCapture requestId result)
        pure result

/-- The merchant id of the in-process merchant. -/
def merchantId : String := "vuelaya"

/-- The in-process merchant's checkout: it checks the signatures and its own price, asks for the
live state, and only then charges. -/
def checkoutCharge (K : Deps) (ids : FreshIds) (token : String) (intent : Intent)
    (signature : String) (verifyFn : Py Live) : Py SettleResult :=
  match K.verifyToken token with
  | .error (.badSignature m) => pure (.refused (some "INVALID_SIGNATURE") m)
  | .error x => .raise x
  | .ok claims =>
    match K.verifyDetached signature intent claims with
    | .error (.badSignature m) => pure (.refused (some "INVALID_PROOF_OF_POSSESSION") m)
    | .error x => .raise x
    | .ok () => do
      match ← call (.getOffer intent.offerId) with
      | none => pure (.refused (some "RAIL_ERROR") "offer withdrawn")
      | some offer =>
        if intent.amount ≠ offer.price then
          pure (.refused (some "AMOUNT_MISMATCH")
            ("intent " ++ fmt intent.amount ++ " != catalog " ++ fmt offer.price))
        else
          let decision ← verifyFn
          if !decision.approved then
            pure (.refused decision.reasonCode "verify did not approve")
          else
            let charge ← capture ids claims.paymentMethodRef intent.amount intent.currency intent.jti
            call (.auditAppend ⟨"merchant.verified", intent.jti, some claims.jti⟩)
            pure (.accepted
              { receiptId := ids.receiptId, merchantId := merchantId, offerId := offer.offerId,
                title := offer.title, amount := fmt charge.amount, currency := charge.currency,
                mandateJti := claims.jti, captureId := charge.captureId })

/-- The rail's own errors become refusals. -/
def railRefusal : PyErr → Py SettleResult
  | .rail code m => pure (.refused (some code) m)
  | x => .raise x

/-- The in-process port. -/
def localSettle (K : Deps) (ids : FreshIds) (token : String) (intent : Intent)
    (signature : String) (verifyFn : Py Live) : Py SettleResult :=
  (checkoutCharge K ids token intent signature verifyFn).tryCatch railRefusal

theorem capture_calls {φ : Call → Prop} {ids : FreshIds} {ref : String} {amount : ℤ}
    {currency requestId : String} (hs : φ (.selectCapture requestId))
    (hi : ∀ ref, φ (.selectInstrument ref)) (hc : ∀ c, φ (.insertCapture requestId c)) :
    (capture ids ref amount currency requestId).Calls φ := by
  refine Prog.calls_bind (Prog.calls_perform hs) fun prior => ?_
  cases prior with
  | some prior => trivial
  | none =>
    refine Prog.calls_bind (Prog.calls_perform (hi ref)) fun status => ?_
    rcases status with _ | (_ | _)
    · trivial
    · dsimp only
      split_ifs
      · trivial
      · exact Prog.calls_bind (Prog.calls_perform (hc _)) fun _ => trivial
    · trivial

/-- The calls of the in-process port. -/
theorem localSettle_calls {φ : Call → Prop} (K : Deps) (ids : FreshIds) (token : String)
    (intent : Intent) (signature : String) {verifyFn : Py Live} (hv : verifyFn.Calls φ)
    (hg : φ (.getOffer intent.offerId)) (hs : φ (.selectCapture intent.jti))
    (hi : ∀ ref, φ (.selectInstrument ref)) (hc : ∀ c, φ (.insertCapture intent.jti c))
    (ha : ∀ ev, φ (.auditAppend ev)) :
    (localSettle K ids token intent signature verifyFn).Calls φ := by
  refine Prog.calls_tryCatch ?_ fun x => by cases x <;> trivial
  simp only [checkoutCharge]
  rcases K.verifyToken token with (_ | _ | _ | _) | claims
  case ok =>
    dsimp only
    rcases K.verifyDetached signature intent claims with (_ | _ | _ | _) | ⟨⟩
    case ok =>
      refine Prog.calls_bind (Prog.calls_perform hg) fun offer => ?_
      cases offer with
      | none => trivial
      | some offer =>
        dsimp only
        by_cases hprice : intent.amount ≠ offer.price
        · rw [if_pos hprice]
          trivial
        rw [if_neg hprice]
        refine Prog.calls_bind hv fun live => ?_
        by_cases hlive : (!live.approved) = true
        · rw [if_pos hlive]
          trivial
        rw [if_neg hlive]
        exact Prog.calls_bind (capture_calls hs hi hc) fun _ =>
          Prog.calls_bind (Prog.calls_perform (ha _)) fun _ => trivial
    all_goals trivial
  all_goals trivial

/-! ## The Rappi bridge -/

/-- `str.lower` on the letters that the port looks for. -/
def pyLower (s : String) : String :=
  String.ofList (s.toList.map fun c => if c = 'Í' then 'í' else c.toLower)

/-- Python's `needle in s`. -/
def pyContains (needle s : String) : Bool := decide (needle.toList <:+: s.toList)

/-- The error text of a basket below the store's minimum. -/
def isMinAmount (err : String) : Bool :=
  pyContains "min_amount" (pyLower err) || pyContains "mínimo" (pyLower err) || pyContains "402" err

/-- How many units reach the minimum basket of 38000. -/
def basketQuantity (unitPrice : ℤ) : ℤ :=
  if 0 < unitPrice ∧ unitPrice < 38000 then max 1 ((38000 + unitPrice - 1) / unitPrice) else 1

/-- Python's `text or default`. -/
def textOr (s : Option String) (default : String) : String :=
  match s with
  | some t => if t = "" then default else t
  | none => default

/-- What a failed mint or order means to the kernel. -/
def rappiFailure (K : Deps) (x : PyErr) : SettleResult :=
  if isMinAmount x.message then .refused (some "MERCHANT_MIN_AMOUNT") (K.bridgeMessage x.message)
  else .refused (some "RAIL_ERROR") (clip 200 x.message)

/-- The store type of an offer's handles. -/
def rappiStoreType (offer : Offer) : String := textOr (offer.native.map (·.storeType)) "turbo"

/-- The cart that holds the offer alone, as many units as the minimum basket needs. -/
def rappiCart (offer : Offer) : CartAdd :=
  let unitPrice := (offer.native.map (·.productPrice)).getD 0
  { storeType := rappiStoreType offer
    storeId := textOr (offer.native.map (·.storeId)) ""
    productId := textOr (offer.native.map (·.productId)) ""
    name := textOr (offer.native.map (·.productName)) offer.title
    price := unitPrice
    quantity := basketQuantity unitPrice }

/-- The order for a quoted cart. -/
def rappiBody (intent : Intent) (storeType : String) (quote : Quote) (token : CaptureToken) :
    PlaceOrder where
  purchaseId := intent.jti
  amount := quote.total
  cartHash := quote.cartHash
  captureToken := token
  expectedAddressId := quote.deliveryAddressId
  storeType := storeType
  idemKey := "rappi-" ++ intent.jti

/-- Mint the token for the quoted cart and send the order. -/
def rappiOrder (intent : Intent) (storeType : String) (quote : Quote)
    (mint : String → String → Py CaptureToken) : Py BridgeReceipt := do
  let token ← mint quote.total quote.cartHash
  call (.placeOrder (rappiBody intent storeType quote token))

/-- What the port makes of the bridge's answer. -/
def rappiFinish (K : Deps) (offer : Offer) (claims : Claims) (quote : Quote) :
    Except PyErr BridgeReceipt → Py SettleResult
  | .error x => pure (rappiFailure K x)
  | .ok receipt =>
    if receipt.state ≠ "confirmed" ∧ receipt.state ≠ "dry_run_confirmed" then
      pure (.refused (some "RAIL_ERROR") ("bridge ended in " ++
        textOr (some receipt.state) "unknown" ++ ": " ++ clip 200 receipt.text))
    else do
      call (.auditAppend ⟨"merchant.settled", offer.offerId, some claims.jti⟩)
      pure (.accepted
        { receiptId := textOr receipt.orderId receipt.state, merchantId := "rappi"
          offerId := offer.offerId, title := offer.title
          amount := receipt.totalCaptured.getD quote.total, currency := "COP"
          mandateJti := claims.jti, captureId := textOr receipt.orderId "" })

/-- The guarded Rappi capture: put the product in the cart, quote the cart, have the kernel mint a
token for the quoted total, and send it with the order. -/
def rappiSettle (K : Deps) (offer : Offer) (claims : Claims) (intent : Intent)
    (verifyFn : Py Live) (mint : Option (String → String → Py CaptureToken)) : Py SettleResult := do
  let live ← verifyFn
  if !live.approved then
    pure (.refused live.reasonCode "mandate state changed before settlement")
  else
    match mint with
    | none => pure (.refused (some "CAPTURE_PENDING") "kernel did not provide a capture-token minter")
    | some mint =>
      if (rappiCart offer).storeId = "" ∨ (rappiCart offer).productId = "" then
        pure (.refused (some "RAIL_ERROR") "offer carries no cart handles (stale search snapshot)")
      else
        call (.cartAdd (rappiCart offer))
        let quote : Quote ← call (.quote (rappiStoreType offer))
        if quote.total = "" ∨ quote.cartHash = "" then
          pure (.refused (some "RAIL_ERROR") ("bridge quote incomplete: " ++ clip 160 quote.text))
        else
          -- the mint and the order share one `try`
          let order : Except PyErr BridgeReceipt ←
            (rappiOrder intent (rappiStoreType offer) quote mint).attempt
          rappiFinish K offer claims quote order

/-- The calls of the bridge's port. -/
theorem rappiSettle_calls {φ : Call → Prop} (K : Deps) (offer : Offer) (claims : Claims)
    (intent : Intent) {verifyFn : Py Live} (hv : verifyFn.Calls φ)
    {mint : String → String → Py CaptureToken} (hm : ∀ amount cartHash, (mint amount cartHash).Calls φ)
    (hc : ∀ body, φ (.cartAdd body)) (hq : ∀ storeType, φ (.quote storeType))
    (ho : ∀ body, φ (.placeOrder body)) (ha : ∀ ev, φ (.auditAppend ev)) :
    (rappiSettle K offer claims intent verifyFn (some mint)).Calls φ := by
  refine Prog.calls_bind hv fun live => ?_
  dsimp only
  split_ifs
  · trivial
  · trivial
  refine Prog.calls_bind (Prog.calls_perform (hc _)) fun _ => ?_
  refine Prog.calls_bind (Prog.calls_perform (hq _)) fun quote => ?_
  split_ifs
  · trivial
  refine Prog.calls_bind (Prog.calls_attempt (Prog.calls_bind (hm _ _) fun _ =>
    Prog.calls_perform (ho _))) fun answer => ?_
  cases answer with
  | error x => trivial
  | ok receipt =>
    simp only [rappiFinish]
    split_ifs
    · trivial
    · exact Prog.calls_bind (Prog.calls_perform (ha _)) fun _ => trivial

end TryTrust.Agent
