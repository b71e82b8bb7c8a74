import TryTrust.Bridge.Guard

/-!
# The guarded order flow

`placeOrder` claims the key, replays or refuses an order that was clicked, and otherwise walks
the checkpoints up to the paying call.

* `openSession`, `bindCart`, `verifyApproval`, `applyPayment`, `armCheckout`: the checkpoints;
* `clickOrder`: the guard `ARMED → CLICKED`, the paying call, and what its answer records;
* `placeOrder`; `bridgeStart`: any number of workers and an empty table.
-/

namespace TryTrust.Bridge

open Conc

section Flow

variable (D : Deps) (cfg : Config) (request : PlaceOrderRequest)

/-- Persist a checkpoint; no state is expected. -/
def checkpoint (state : OrderState) : Br Unit :=
  call (.transition request.idemKey state none none none)

/-- The session. -/
def openSession : Br Unit := do
  call .whoami
  checkpoint request .sessionOk

/-- The cart has to hash to the approved cart; the resolved store type and the store. -/
def bindCart (approved : Money) : Br (String × Fields) := do
  let resolved : String ← call (.resolveStoreType request.storeType)
  let stores : List Fields ← call (.recalculate resolved)
  match stores with
  | [] => .raise (.bridge .priceDrift "cart is empty but an amount was approved"
      [("approved", .str approved.text)])
  | store :: _ =>
    let _ ← lift (storeTotal store)
    let current ← lift (computeCartHash D resolved store)
    if current ≠ request.cartHash then
      .raise (.bridge .priceDrift "cart changed since the approved quote — re-quote required"
        [("approved_cart_hash", .str request.cartHash), ("current", .str current)])
    else
      checkpoint request .cartOk
      pure (resolved, store)

/-- The capture token: the approval is the key that unlocks the click. -/
def verifyApproval (approved : Money) : Br Fields := do
  let keys : Fields ← call .kernelKeys
  let moment : ℤ ← call .now
  let claims ← lift (verifyCaptureToken D request.captureToken keys moment request.purchaseId
    request.cartHash approved.text cfg.dryRun)
  checkpoint request .approvalVerified
  pure claims

/-- Choose the payment method and push it to the cart. -/
def applyPayment (resolved : String) : Br Unit := do
  let methods : List Fields ← call (.getPaymentMethods resolved)
  let method ← lift (choosePayment cfg methods)
  call (.storePaymentLabel (methodLabel method))
  call (.setPaymentMethod resolved method)

/-- The guards on this machine: cap, drift and address, on the cart as the payment method left it;
the checkout total and its detail. -/
def armCheckout (approved : Money) (resolved : String) (store : Fields) :
    Br (Money × Json) := do
  let _ : List Fields ← call (.recalculate resolved)
  let stores : List Fields ← call (.recalculate resolved)
  let checkoutTotal ← lift (storeTotal (stores.headD store))
  lift (checkCap checkoutTotal cfg.maxOrderCop)
  let detail : Json ← call (.checkoutDetail resolved)
  lift (checkDrift approved checkoutTotal)
  let address : Option Fields ← call .activeAddress
  lift (checkAddress (address.map fun a => (a.get "id").text) request.expectedAddressId)
  checkpoint request .armed
  pure (checkoutTotal, detail)

/-- Record the end of the order with its receipt; no state is expected. -/
def finish (checkoutTotal : Money) (state : OrderState) (orderId : Option String) :
    Br Receipt := do
  let label : String ← call .loadPaymentLabel
  let receipt : Receipt :=
    { state := state, dryRun := cfg.dryRun, orderId := orderId
      totalCaptured := checkoutTotal.text, cartHash := request.cartHash
      purchaseId := request.purchaseId, paymentMethod := label }
  call (.transition request.idemKey state orderId (some receipt) none)
  pure receipt

/-- The detail of a refusal that names the key. -/
def keyDetail : Fields := [("idem_key", .str request.idemKey)]

/-- A lost race for the guard. -/
def conflictOf : BridgeErr → BridgeErr
  | .runtime _ => .bridge .executionConflict "another execution is already holding this order"
      (keyDetail request)
  | x => x

/-- What an exception of the paying call records. -/
def clickFailed (x : BridgeErr) : Br Receipt := do
  if x.isMinAmount then
    -- rejected before capture: nothing moved
    call (.transition request.idemKey .failed none none (some .clicked))
    .raise x
  else
    call (.transition request.idemKey .uncertain none none (some .clicked))
    .raise (.bridge .uncertainState
      ("click result unknown (" ++ x.message ++ "); reconcile via 'Mis pedidos'")
      (keyDetail request))

/-- `RappiClient.place_order`: the paying call leaves and is answered. -/
def payingCall (resolved : String) (detail : Json) : Br Json :=
  match returnKeyOf detail with
  | none => .raise (.other "AttributeError")
  | some returnKey => do
    call (.click resolved returnKey)
    call .clickAnswer

/-- The guard, and the only paying call. -/
def clickOrder (checkoutTotal : Money) (resolved : String) (detail : Json) : Br Receipt := do
  (call (.transition request.idemKey .clicked none none (some .armed))).tryCatch
    fun x => .raise (conflictOf request x)
  let answer : Except BridgeErr Json ← (payingCall resolved detail).attempt
  match answer with
  | .error x => clickFailed request x
  | .ok result =>
    match orderIdOf result with
    | none => .raise (.other "AttributeError")
    | some orderId => finish cfg request checkoutTotal .confirmed orderId

/-- The click, or its dry run. -/
def submitOrder (claims : Fields) (checkoutTotal : Money) (resolved : String) (detail : Json) :
    Br Receipt :=
  if cfg.dryRun && !(claims.get "dry_run").truthy then
    .raise (.bridge .disabled "live click attempted while bridge is in DRY_RUN" [])
  else if cfg.dryRun then finish cfg request checkoutTotal .dryRunConfirmed none
  else clickOrder cfg request checkoutTotal resolved detail

/-- The checkpoints of an order, from the session to the click. -/
def executeOrder (approved : Money) : Br Receipt := do
  openSession request
  let cart ← bindCart D request approved
  let claims ← verifyApproval D cfg request approved
  applyPayment cfg cart.1
  let armed ← armCheckout cfg request approved cart.1 cart.2
  submitOrder cfg request claims armed.1 cart.1 armed.2

/-- The receipt that answers a repeated request. -/
def OrderRow.replay (row : OrderRow) : Option Receipt :=
  if row.state.terminalOk then row.receipt else none

/-- What is known of the key when the flow begins. -/
def resumeOrder (approved : Money) : Option OrderRow → Br Receipt
  | none => executeOrder D cfg request approved
  | some existing =>
    match existing.replay with
    | some receipt => pure receipt
    | none =>
      if existing.state = .clicked ∨ existing.state = .uncertain then
        .raise (.bridge .uncertainState
          ("order was clicked without confirmation; human " ++
            "reconciliation required — never re-click") (keyDetail request))
      else executeOrder D cfg request approved

/-- `place_order`. -/
def placeOrder : Br Receipt :=
  if !cfg.enabled then .raise (.bridge .disabled "bridge is disabled (kill switch)" [])
  else do
    let approved ← lift (parseMoneyE request.amount)
    let existing : Option OrderRow ←
      call (.claim request.idemKey request.purchaseId request.cartHash approved.text)
    resumeOrder D cfg request approved existing

end Flow

/-- A family of workers, one request each; the table is empty and nothing has been clicked. -/
def bridgeStart {ι : Type} (D : Deps) (cfg : Config) (w : ι → PlaceOrderRequest) :
    Conc.Config ι Call Res BridgeErr Receipt Db Click where
  shared := ⟨fun _ => none, ""⟩
  prog i := placeOrder D cfg (w i)
  hist _ := .idle

end TryTrust.Bridge
