import TryTrust.Conc.Pool
import TryTrust.Json

/-!
# The order table of the bridge

The bridge keeps one row for each Idempotency-Key. Workers share the table, the payment label of
the service object, and Rappi.

* `OrderState`, `Receipt`, `OrderRow`; `BridgeErr`, the typed failures;
* `Call`, one statement of the table or one request to Rappi; `exec`: what it does;
* `claim` inserts or answers the row; `transition` is one update, guarded or not;
* `Click`: what a worker has done about its paying call; `bridgeSystem`, the pool of workers.
-/

namespace TryTrust.Bridge

open Conc

/-! ## Rows -/

/-- The checkpoints, in the order of the flow. -/
inductive OrderState where
  | received
  | sessionOk
  | cartOk
  | approvalVerified
  | armed
  | dryRunConfirmed
  | clicked
  | confirmed
  | failed
  | uncertain
  deriving DecidableEq, Repr

/-- The text of a state. -/
def OrderState.text : OrderState → String
  | received => "received"
  | sessionOk => "session_ok"
  | cartOk => "cart_ok"
  | approvalVerified => "approval_verified"
  | armed => "armed"
  | dryRunConfirmed => "dry_run_confirmed"
  | clicked => "clicked"
  | confirmed => "confirmed"
  | failed => "failed"
  | uncertain => "uncertain"

/-- `TERMINAL_OK`. -/
def OrderState.terminalOk : OrderState → Bool
  | dryRunConfirmed | confirmed => true
  | _ => false

/-- The order was clicked, and no rejection of the click is recorded. -/
def OrderState.isClicked : OrderState → Bool
  | clicked | uncertain | confirmed => true
  | _ => false

/-- What `place_order` answers. -/
structure Receipt where
  state : OrderState
  dryRun : Bool
  orderId : Option String
  totalCaptured : String
  cartHash : String
  purchaseId : String
  paymentMethod : String
  deriving DecidableEq, Repr

/-- A row of `bridge_orders`. -/
structure OrderRow where
  purchaseId : String
  cartHash : String
  amount : String
  state : OrderState
  orderId : Option String
  receipt : Option Receipt
  deriving DecidableEq, Repr

/-- What the workers share: the rows by Idempotency-Key, and the label of the last payment
method that any of them chose. -/
structure Db where
  orders : String → Option OrderRow
  paymentLabel : String

/-! ## Failures -/

/-- The classes of `errors.py`. -/
inductive Reason where
  | disabled
  | capExceeded
  | priceDrift
  | addressMismatch
  | approvalInvalid
  | approvalExpired
  | sessionExpired
  | minAmountRejected
  | uncertainState
  | cashPaymentRefused
  | paymentUnresolved
  | executionConflict
  | rappiError
  deriving DecidableEq, Repr

/-- The contract-facing reason code. -/
def Reason.code : Reason → String
  | disabled => "BRIDGE_DISABLED"
  | capExceeded => "BRIDGE_CAP_EXCEEDED"
  | priceDrift => "BRIDGE_PRICE_DRIFT"
  | addressMismatch => "BRIDGE_ADDRESS_MISMATCH"
  | approvalInvalid => "BRIDGE_APPROVAL_INVALID"
  | approvalExpired => "BRIDGE_APPROVAL_EXPIRED"
  | sessionExpired => "BRIDGE_SESSION_EXPIRED"
  | minAmountRejected => "MERCHANT_MIN_AMOUNT"
  | uncertainState => "BRIDGE_UNCERTAIN"
  | cashPaymentRefused => "BRIDGE_CASH_NOT_ALLOWED"
  | paymentUnresolved => "BRIDGE_PAYMENT_UNRESOLVED"
  | executionConflict => "BRIDGE_EXECUTION_CONFLICT"
  | rappiError => "BRIDGE_RAPPI_ERROR"

/-- The status of the answer that carries the failure. -/
def Reason.httpStatus : Reason → ℕ
  | disabled => 423
  | minAmountRejected => 402
  | uncertainState | rappiError => 502
  | _ => 409

/-- An exception of the bridge. -/
inductive BridgeErr where
  /-- A `BridgeError`, its message and its details. -/
  | bridge (reason : Reason) (message : String) (detail : Fields)
  /-- The `RuntimeError` of a transition that matched no row. -/
  | runtime (message : String)
  /-- Any other exception. -/
  | other (message : String)

/-- `str(exc)`. -/
def BridgeErr.message : BridgeErr → String
  | bridge _ m _ => m
  | runtime m => m
  | other m => m

/-- `isinstance(exc, MinAmountRejected)`. -/
def BridgeErr.isMinAmount : BridgeErr → Bool
  | bridge .minAmountRejected _ _ => true
  | _ => false

/-! ## Calls -/

/-- One statement on the order table, one access to the shared label, or one request to Rappi.
The paying call is two steps: it leaves, and it is answered. -/
inductive Call where
  | claim (idemKey purchaseId cartHash amount : String)
  | transition (idemKey : String) (state : OrderState) (orderId : Option String)
      (receipt : Option Receipt) (expect : Option OrderState)
  | storePaymentLabel (label : String)
  | loadPaymentLabel
  | now
  | kernelKeys
  | whoami
  | resolveStoreType (preferred : String)
  | recalculate (storeType : String)
  | getPaymentMethods (storeType : String)
  | setPaymentMethod (storeType : String) (method : Fields)
  | checkoutDetail (storeType : String)
  | activeAddress
  | click (storeType returnKey : String)
  | clickAnswer

/-- The answer of a call: of `recalculate`, `cart.get("stores") or []`. -/
def Res : Call → Type
  | .claim .. => Option OrderRow
  | .transition .. => Unit
  | .storePaymentLabel _ => Unit
  | .loadPaymentLabel => String
  | .now => ℤ
  | .kernelKeys => Fields
  | .whoami => Unit
  | .resolveStoreType _ => String
  | .recalculate _ => List Fields
  | .getPaymentMethods _ => List Fields
  | .setPaymentMethod .. => Unit
  | .checkoutDetail _ => Json
  | .activeAddress => Option Fields
  | .click .. => Unit
  | .clickAnswer => Json

/-- The programs of the bridge. -/
abbrev Br (α : Type) : Type := Prog Call Res BridgeErr α

/-- One call. -/
def call (c : Call) : Br (Res c) := Prog.perform c

/-- A pure check that may raise. -/
@[irreducible] def lift {α : Type} : Except BridgeErr α → Br α
  | .ok a => pure a
  | .error x => .raise x

/-- How Rappi, the key server and the clock answer at a step. -/
abbrev Env : Type := (c : Call) → Except BridgeErr (Res c)

/-! ## What a call does -/

namespace Db

/-- Replace the row of a key. -/
def setOrder (db : Db) (k : String) (row : OrderRow) : Db :=
  { db with orders := Function.update db.orders k (some row) }

@[simp] theorem setOrder_same (db : Db) (k : String) (row : OrderRow) :
    (db.setOrder k row).orders k = some row := Function.update_self ..

theorem setOrder_ne (db : Db) {k k' : String} (row : OrderRow) (h : k' ≠ k) :
    (db.setOrder k row).orders k' = db.orders k' := Function.update_of_ne h ..

end Db

/-- `SET state = ?, order_id = COALESCE(?, order_id), receipt_json = COALESCE(?, receipt_json)`. -/
def OrderRow.write (row : OrderRow) (state : OrderState) (orderId : Option String)
    (receipt : Option Receipt) : OrderRow :=
  { row with state := state, orderId := orderId <|> row.orderId, receipt := receipt <|> row.receipt }

/-- `INSERT OR IGNORE`: the first caller inserts and gets `none`, later ones get the row. -/
def claim (k purchaseId cartHash amount : String) (db : Db) : Option OrderRow × Db :=
  match db.orders k with
  | some row => (some row, db)
  | none => (none, db.setOrder k ⟨purchaseId, cartHash, amount, .received, none, none⟩)

/-- One `UPDATE`, with `AND state = ?` when a state is expected; no row, an exception. -/
def transition (k : String) (state : OrderState) (orderId : Option String)
    (receipt : Option Receipt) (expect : Option OrderState) (db : Db) :
    Except BridgeErr Unit × Db :=
  match db.orders k with
  | some row =>
    if expect = none ∨ expect = some row.state then
      (.ok (), db.setOrder k (row.write state orderId receipt))
    else (.error (.runtime ("state transition to " ++ state.text ++ " lost the race on " ++ k)), db)
  | none => (.error (.runtime ("state transition to " ++ state.text ++ " lost the race on " ++ k)), db)

/-- One call. -/
def exec (e : Env) : (c : Call) → Db → Except BridgeErr (Res c) × Db
  | .claim k purchaseId cartHash amount, db =>
    (.ok (claim k purchaseId cartHash amount db).1, (claim k purchaseId cartHash amount db).2)
  | .transition k state orderId receipt expect, db => transition k state orderId receipt expect db
  | .storePaymentLabel label, db => (.ok (), { db with paymentLabel := label })
  | .loadPaymentLabel, db => (.ok db.paymentLabel, db)
  | .click .., db => (.ok (), db)
  | c, db => (e c, db)

/-! ## Workers -/

/-- How far a worker is with its paying call. -/
inductive Click where
  /-- It has not passed the guard `ARMED → CLICKED`. -/
  | idle
  | guarded
  /-- The order was parked before any paying call. -/
  | abandoned
  /-- The paying call is out, and unanswered. -/
  | issued
  /-- Answered by `MinAmountRejected`. -/
  | rejected
  | ordered
  /-- Answered by another exception. -/
  | ambiguous
  /-- The rejection is recorded as `FAILED`. -/
  | failed
  | confirmed
  | uncertain
  deriving DecidableEq, Repr

/-- The call is out and was not answered by `MinAmountRejected`. -/
def Click.mayHavePaid : Click → Bool
  | issued | ordered | ambiguous | confirmed | uncertain => true
  | _ => false

/-- Past the guard, and no rejection recorded. -/
def Click.holds : Click → Bool
  | idle | failed => false
  | _ => true

/-- What a call adds. -/
def Click.advance : Click → (c : Call) → Except BridgeErr (Res c) → Click
  | .idle, .transition _ .clicked _ _ (some .armed), .ok _ => guarded
  | .guarded, .transition _ .uncertain _ _ _, .ok _ => abandoned
  | _, .click .., _ => issued
  | .issued, .clickAnswer, .ok _ => ordered
  | .issued, .clickAnswer, .error x => if x.isMinAmount then rejected else ambiguous
  | .rejected, .transition _ .failed _ _ _, .ok _ => failed
  | .ordered, .transition _ .confirmed _ _ _, .ok _ => confirmed
  | .ambiguous, .transition _ .uncertain _ _ _, .ok _ => uncertain
  | γ, _, _ => γ

/-- The pool of workers. -/
def bridgeSystem {ι : Type} : System ι Call Res BridgeErr Db Click Env where
  sem := exec
  adv _ γ _ c r := γ.advance c r

end TryTrust.Bridge
