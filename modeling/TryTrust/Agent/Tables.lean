import TryTrust.Conc.Pool
import TryTrust.Json

/-!
# The agent's tables and the statements run against them

The agent shares one autocommit connection, so a statement is atomic and nothing larger is.

* the rows: `MandateRow`, `Instrument`, `Capture`, `IntentRow`, `PurchaseRow`, and `Db`;
* `Call`: the SQL statements and the calls that leave the process, with their answers `Res`;
* `exec`: what a call does, given the environment `Env` of the step (failures, the clock and the
  answers of merchants and of the bridge);
* `Py`: the programs over these calls.
-/

namespace TryTrust.Agent

open Conc

/-- An exception; `rail` is the rail's own class, which carries a code. -/
inductive PyErr where
  | rail (code message : String)
  | badSignature (message : String)
  | keyError (message : String)
  | other (message : String)
  deriving DecidableEq, Repr

/-- `str(exc)`. -/
def PyErr.message : PyErr → String
  | rail _ m => m
  | badSignature m => m
  | keyError m => m
  | other m => m

/-! ## Rows -/

/-- `mandates.status`. -/
inductive MandateStatus where
  | draft
  | active
  | suspended
  | revoked
  | expired
  | exhausted
  deriving DecidableEq, Repr

/-- The column's text. -/
def MandateStatus.value : MandateStatus → String
  | draft => "draft"
  | active => "active"
  | suspended => "suspended"
  | revoked => "revoked"
  | expired => "expired"
  | exhausted => "exhausted"

/-- `claims["limits"]`, amounts in cents. -/
structure Limits where
  maxPerTxn : ℤ
  totalBudget : ℤ
  maxTxnCount : Option ℕ

/-- The signed claims of a mandate. -/
structure Claims where
  jti : String
  agent : String
  paymentMethodRef : String
  currency : String
  categories : List String
  merchants : List String
  conditions : Json
  limits : Limits
  nbf : ℤ
  exp : ℤ

/-- A row of `mandates`; amounts in cents. -/
structure MandateRow where
  status : MandateStatus
  claims : Claims
  token : String
  reservedAmount : ℤ
  spentTotal : ℤ
  txnCount : ℕ
  parentJti : Option String

/-- The canonical purchase intent. -/
structure Intent where
  mandateJti : String
  agent : String
  merchantId : String
  offerId : String
  amount : ℤ
  currency : String
  nonce : String
  jti : String
  iat : ℤ
  exp : ℤ

/-- The handles by which the bridge puts an offer in its cart. -/
structure Native where
  storeId : String
  storeType : String
  productId : String
  productName : String
  productPrice : ℤ

/-- A normalised offer; the price in cents. -/
structure Offer where
  offerId : String
  merchantId : String
  category : String
  title : String
  price : ℤ
  currency : String
  native : Option Native

/-- `payment_instruments.status`. -/
inductive Instrument where
  | active
  | deleted
  deriving DecidableEq, Repr

/-- The rail's stored answer to a capture request. -/
structure Capture where
  captureId : String
  amount : ℤ
  currency : String
  tokenRef : String

/-- `purchase_intents.status`. -/
inductive IntentStatus where
  | reserved
  | captured
  deriving DecidableEq, Repr

/-- A row of `purchase_intents`. -/
structure IntentRow where
  intent : Intent
  signature : String
  status : IntentStatus

/-- A receipt of a settled purchase; the amount is the merchant's text. -/
structure Receipt where
  receiptId : String
  merchantId : String
  offerId : String
  title : String
  amount : String
  currency : String
  mandateJti : String
  captureId : String
  deriving DecidableEq, Repr

/-- `purchases.status`. -/
inductive PurchaseStatus where
  | pending
  | awaitingEscalation
  | charging
  | rejected
  | captured
  | compensated
  deriving DecidableEq, Repr

/-- A row of `purchases`. -/
structure PurchaseRow where
  mandateJti : String
  intentJti : String
  status : PurchaseStatus
  amount : ℤ
  reservationId : Option String
  reasonCode : Option String
  receipt : Option Receipt

/-- The columns that an `UPDATE purchases` sets beside the status. -/
inductive PurchaseSet where
  | reservation (id : Option String)
  | reason (code : Option String)
  | receipt (r : Receipt)

/-- An entry of the audit log. -/
structure AuditEvent where
  type : String
  subject : String
  mandateJti : Option String
  deriving DecidableEq, Repr

/-- The claims of a capture token; only the kernel can sign one. -/
structure CaptureToken where
  purchaseId : String
  reservationId : Option String
  amount : String
  cartHash : String
  dryRun : Bool
  iat : ℤ
  exp : ℤ
  deriving DecidableEq, Repr

/-- The body of `POST /v1/rappi/cart/add`. -/
structure CartAdd where
  storeType : String
  storeId : String
  productId : String
  name : String
  price : ℤ
  quantity : ℤ

/-- The answer of `POST /v1/rappi/quote`: `total` and `cart_hash` as text, empty when missing, and
the whole answer as text. -/
structure Quote where
  total : String
  cartHash : String
  deliveryAddressId : Option String
  text : String

/-- The body of `POST /v1/rappi/place_order`, with its idempotency key. -/
structure PlaceOrder where
  purchaseId : String
  amount : String
  cartHash : String
  captureToken : CaptureToken
  expectedAddressId : Option String
  storeType : String
  idemKey : String

/-- The bridge's receipt, and the whole answer as text. -/
structure BridgeReceipt where
  state : String
  orderId : Option String
  totalCaptured : Option String
  text : String

/-- How the bridge ends an order: it answers, or the request raises; in the states where the
answer does not say so, `clicked` tells whether its paying click went through. -/
inductive BridgeAnswer where
  | confirmed (orderId : Option String) (totalCaptured : Option String) (text : String)
  | dryRunConfirmed (orderId : Option String) (totalCaptured : Option String) (text : String)
  | otherState (state text : String) (clicked : Bool)
  | raised (message : String) (clicked : Bool)

/-- The paying click went through. -/
def BridgeAnswer.clicked : BridgeAnswer → Bool
  | confirmed _ _ _ => true
  | dryRunConfirmed _ _ _ => false
  | otherState _ _ c => c
  | raised _ c => c

/-- What the request returns. -/
def BridgeAnswer.result : BridgeAnswer → Except PyErr BridgeReceipt
  | confirmed id total text => .ok ⟨"confirmed", id, total, text⟩
  | dryRunConfirmed id total text => .ok ⟨"dry_run_confirmed", id, total, text⟩
  | otherState state text _ => .ok ⟨state, none, none, text⟩
  | raised m _ => .error (.other m)

/-- The agent's database, with the orders that the bridge received and whether it charged them. -/
structure Db where
  mandates : String → Option MandateRow
  instruments : String → Option Instrument
  captures : String → Option Capture
  intents : List IntentRow
  purchases : String → Option PurchaseRow
  audit : List AuditEvent
  escalations : List (String × String)
  bridgeOrders : List (PlaceOrder × Bool)

/-! ## Calls -/

/-- A statement on the connection, or a call that leaves the process. -/
inductive Call where
  | selectMandate (jti : String)
  | selectParent (jti : String)
  | selectReserved (jti : String)
  | selectStatus (jti : String)
  | selectLiveStatus (jti : String)
  | selectClaims (jti : String)
  | casReserve (jti : String) (row : MandateRow) (reserved : ℤ)
  | updateReserved (jti : String) (reserved : ℤ)
  | updateSettled (jti : String) (reserved spent : ℤ) (count : ℕ) (status : MandateStatus)
  | updateExpired (jti : String)
  | updateRevoked (jti : String)
  | updateTransition (jti : String) (target : MandateStatus) (sources : List MandateStatus)
  | selectInstrument (tokenRef : String)
  | deleteInstrument (tokenRef : String)
  | selectCapture (requestId : String)
  | insertCapture (requestId : String) (c : Capture)
  | selectIntentSeen (jti nonce : String)
  | insertIntent (i : Intent) (signature : String)
  | updateIntentCaptured (jti : String)
  | insertPurchase (id : String) (i : Intent)
  | updatePurchase (id : String) (status : PurchaseStatus) (set : PurchaseSet)
  | openEscalation (id purchaseId reasonCode : String)
  | auditAppend (e : AuditEvent)
  | nowTs
  | getOffer (offerId : String)
  | portGet (merchantId offerId : String)
  | mintToken (purchaseId : String) (reservationId : Option String) (amount cartHash : String)
  | cartAdd (body : CartAdd)
  | quote (storeType : String)
  | placeOrder (body : PlaceOrder)

/-- The answer of a call. -/
def Res : Call → Type
  | .selectMandate _ => Option MandateRow
  | .selectParent _ => Option (Option String)
  | .selectReserved _ => Option ℤ
  | .selectStatus _ => Option MandateStatus
  | .selectLiveStatus _ => Option MandateStatus
  | .selectClaims _ => Option Claims
  | .casReserve _ _ _ => Bool
  | .updateTransition _ _ _ => Bool
  | .selectInstrument _ => Option Instrument
  | .deleteInstrument _ => Bool
  | .selectCapture _ => Option Capture
  | .selectIntentSeen _ _ => Bool
  | .nowTs => ℤ
  | .getOffer _ => Option Offer
  | .portGet _ _ => Option Offer
  | .mintToken _ _ _ _ => CaptureToken
  | .quote _ => Quote
  | .placeOrder _ => BridgeReceipt
  | _ => Unit

/-- What the environment decides at a step. -/
structure Env where
  /-- The call raises this, without an effect. -/
  fail : Option PyErr
  now : ℤ
  offer : Option Offer
  dryRun : Bool
  quote : Quote
  order : BridgeAnswer

/-- A step at which nothing fails. -/
def Env.quiet : Env where
  fail := none
  now := 0
  offer := none
  dryRun := false
  quote := ⟨"", "", none, ""⟩
  order := .raised "" false

/-- The programs of the agent. -/
abbrev Py (α : Type) : Type := Prog Call Res PyErr α

/-! ## What a call does -/

namespace Db

/-- `UPDATE mandates SET … WHERE jti = ?`; no row, no effect. -/
def setMandate (db : Db) (jti : String) (f : MandateRow → MandateRow) : Db :=
  { db with mandates := fun j => if j = jti then (db.mandates j).map f else db.mandates j }

/-- `UPDATE purchases SET status = ?, … WHERE id = ?`. -/
def setPurchase (db : Db) (id : String) (status : PurchaseStatus) (set : PurchaseSet) : Db :=
  { db with
    purchases := fun p => if p = id then (db.purchases p).map fun row =>
        match set with
        | .reservation r => { row with status := status, reservationId := r }
        | .reason c => { row with status := status, reasonCode := c }
        | .receipt r => { row with status := status, receipt := some r }
      else db.purchases p }

/-- `INSERT INTO idempotency_keys` of a capture. -/
def addCapture (db : Db) (id : String) (c : Capture) : Db :=
  { db with captures := fun k => if k = id then some c else db.captures k }

/-- The bridge receives an order. -/
def addOrder (db : Db) (o : PlaceOrder × Bool) : Db :=
  { db with bridgeOrders := db.bridgeOrders ++ [o] }

@[simp] theorem setMandate_same (db : Db) (jti : String) (f : MandateRow → MandateRow) :
    (db.setMandate jti f).mandates jti = (db.mandates jti).map f := by
  simp [setMandate]

@[simp] theorem setMandate_ne (db : Db) {jti j : String} (f : MandateRow → MandateRow)
    (h : j ≠ jti) : (db.setMandate jti f).mandates j = db.mandates j := by
  simp [setMandate, h]

@[simp] theorem setPurchase_mandates (db : Db) (id : String) (status : PurchaseStatus)
    (set : PurchaseSet) : (db.setPurchase id status set).mandates = db.mandates := rfl

end Db

/-- The guard of the compare-and-swap: every counter is still the one read. -/
def casMatches (row cur : MandateRow) : Bool :=
  cur.status = .active && cur.reservedAmount = row.reservedAmount &&
    cur.spentTotal = row.spentTotal && cur.txnCount = row.txnCount

/-- A call that does not fail. -/
def exec (e : Env) : (c : Call) → Db → Except PyErr (Res c) × Db
  | .selectMandate jti, db => (.ok (db.mandates jti), db)
  | .selectParent jti, db => (.ok ((db.mandates jti).map (·.parentJti)), db)
  | .selectReserved jti, db => (.ok ((db.mandates jti).map (·.reservedAmount)), db)
  | .selectStatus jti, db => (.ok ((db.mandates jti).map (·.status)), db)
  | .selectLiveStatus jti, db => (.ok ((db.mandates jti).map (·.status)), db)
  | .selectClaims jti, db => (.ok ((db.mandates jti).map (·.claims)), db)
  | .casReserve jti row reserved, db =>
    if (db.mandates jti).any (casMatches row) then
      (.ok true, db.setMandate jti fun cur => { cur with reservedAmount := reserved })
    else (.ok false, db)
  | .updateReserved jti reserved, db =>
    (.ok (), db.setMandate jti fun cur => { cur with reservedAmount := reserved })
  | .updateSettled jti reserved spent count status, db =>
    (.ok (), db.setMandate jti fun cur =>
      { cur with
        reservedAmount := reserved, spentTotal := spent, txnCount := count, status := status })
  | .updateExpired jti, db => (.ok (), db.setMandate jti fun cur => { cur with status := .expired })
  | .updateRevoked jti, db => (.ok (), db.setMandate jti fun cur => { cur with status := .revoked })
  | .updateTransition jti target sources, db =>
    if (db.mandates jti).any (fun cur => sources.contains cur.status) then
      (.ok true, db.setMandate jti fun cur => { cur with status := target })
    else (.ok false, db)
  | .selectInstrument ref, db => (.ok (db.instruments ref), db)
  | .deleteInstrument ref, db =>
    if db.instruments ref = some .active then
      (.ok true, { db with instruments := fun r => if r = ref then some .deleted else db.instruments r })
    else (.ok false, db)
  | .selectCapture id, db => (.ok (db.captures id), db)
  | .insertCapture id c, db =>
    match db.captures id with
    | some _ => (.error (.other "duplicate key value violates unique constraint"), db)
    | none => (.ok (), db.addCapture id c)
  | .selectIntentSeen jti nonce, db =>
    (.ok (db.intents.any fun r => r.intent.jti = jti || r.intent.nonce = nonce), db)
  | .insertIntent i signature, db =>
    if db.intents.any fun r => r.intent.jti = i.jti || r.intent.nonce = i.nonce then
      (.error (.other "duplicate key value violates unique constraint"), db)
    else (.ok (), { db with intents := db.intents ++ [⟨i, signature, .reserved⟩] })
  | .updateIntentCaptured jti, db =>
    (.ok (), { db with
      intents := db.intents.map fun r => if r.intent.jti = jti then { r with status := .captured } else r })
  | .insertPurchase id i, db =>
    match db.purchases id with
    | some _ => (.error (.other "duplicate key value violates unique constraint"), db)
    | none =>
      (.ok (), { db with
        purchases := fun p => if p = id
          then some ⟨i.mandateJti, i.jti, .pending, i.amount, none, none, none⟩
          else db.purchases p })
  | .updatePurchase id status set, db => (.ok (), db.setPurchase id status set)
  | .openEscalation id purchase _, db =>
    (.ok (), { db with escalations := db.escalations ++ [(id, purchase)] })
  | .auditAppend ev, db => (.ok (), { db with audit := db.audit ++ [ev] })
  | .nowTs, db => (.ok e.now, db)
  | .getOffer _, db => (.ok e.offer, db)
  | .portGet _ _, db => (.ok e.offer, db)
  | .mintToken p r amount cartHash, db =>
    (.ok ⟨p, r, amount, cartHash, e.dryRun, e.now, e.now + 120⟩, db)
  | .cartAdd _, db => (.ok (), db)
  | .quote _, db => (.ok e.quote, db)
  | .placeOrder body, db =>
    (e.order.result, db.addOrder (body, e.order.clicked))

/-- **The meaning of a call**: it raises without an effect, or it runs. -/
def sem (e : Env) (c : Call) (db : Db) : Except PyErr (Res c) × Db :=
  match e.fail with
  | some x => (.error x, db)
  | none => exec e c db

end TryTrust.Agent
