import TryTrust.Conc.Pool
import TryTrust.Decision.Records

/-!
# The in-memory stores

The default wiring of the service: every port is a store in memory, and no transaction groups
their calls.

* `Velocity`, `Ledger` (the reservation store, with `reserve` and `release`), `Stores`;
* `Op`, the port calls; `Site`, the places of the service that make them; `exec`, `sem`.
-/

namespace TryTrust.DecisionCore

open Conc

/-! ## Velocity counters -/

/-- `InMemoryVelocityStore`: counters in buckets of a minute, open slots and cooldowns. -/
structure Velocity where
  intents : String → ℤ → ℕ
  amounts : String → ℤ → ℕ
  escalations : String → ℤ → ℕ
  openAuthz : String → ℕ
  cooldowns : String → Option ℤ

/-- The bucket of a moment. -/
def minute (t : ℤ) : ℤ := t / 60000000

/-- Add to a counter's bucket. -/
def bump (f : String → ℤ → ℕ) (m : String) (bucket : ℤ) (n : ℕ) : String → ℤ → ℕ :=
  Function.update f m (Function.update (f m) bucket (f m bucket + n))

/-- The sum of the buckets from one to another. -/
def windowSum (f : ℤ → ℕ) (start stop : ℤ) : ℕ :=
  ((List.range (stop - start + 1).toNat).map fun k => f (start + k)).sum

namespace Velocity

/-- The first half of `increment_intent`: the count, before the amount is read. -/
def countIntent (v : Velocity) (m : String) (now : ℤ) : Velocity :=
  { v with intents := bump v.intents m (minute now) 1 }

/-- `increment_intent`. -/
def incrementIntent (v : Velocity) (m : String) (amount : ℕ) (now : ℤ) : Velocity :=
  { v with intents := bump v.intents m (minute now) 1
           amounts := bump v.amounts m (minute now) amount }

/-- `increment_escalation`. -/
def incrementEscalation (v : Velocity) (m : String) (now : ℤ) : Velocity :=
  { v with escalations := bump v.escalations m (minute now) 1 }

/-- `increment_open_authorizations`. -/
def incrementOpen (v : Velocity) (m : String) : Velocity :=
  { v with openAuthz := Function.update v.openAuthz m (v.openAuthz m + 1) }

/-- `decrement_open_authorizations`; never below zero. -/
def decrementOpen (v : Velocity) (m : String) : Velocity :=
  { v with openAuthz := Function.update v.openAuthz m (v.openAuthz m - 1) }

/-- `record_cooldown`: the later expiry counts. -/
def recordCooldown (v : Velocity) (m : String) (expiresAt : ℤ) : Velocity :=
  if ∀ t ∈ v.cooldowns m, t < expiresAt then
    { v with cooldowns := Function.update v.cooldowns m (some expiresAt) }
  else v

/-- `get_cooldown`; an expired one is dropped. -/
def getCooldown (v : Velocity) (m : String) (now : ℤ) : Option ℤ × Velocity :=
  match v.cooldowns m with
  | none => (none, v)
  | some t =>
    if now ≥ t then (none, { v with cooldowns := Function.update v.cooldowns m none })
    else (some t, v)

/-- `get_spend_view`. -/
def spendView (v : Velocity) (m : Mandate) (mandateId : String) (now : ℤ) : SpendView × Velocity :=
  let cooldown := v.getCooldown mandateId now
  ({ spentTotal := m.spentTotal, reservedTotal := m.reservedTotal
     txnCountPeriod := m.txnCountPeriod, mandateStatus := m.status
     intentsLast60s := windowSum (v.intents mandateId) (minute (now - 60000000)) (minute now)
     escalationsLastHour :=
       windowSum (v.escalations mandateId) (minute (now - 3600000000)) (minute now)
     openAuthorizations := v.openAuthz mandateId
     cooldownUntil := cooldown.1 }, cooldown.2)

@[simp] theorem incrementIntent_openAuthz (v : Velocity) (m : String) (amount : ℕ) (now : ℤ) :
    (v.incrementIntent m amount now).openAuthz = v.openAuthz := rfl

@[simp] theorem countIntent_openAuthz (v : Velocity) (m : String) (now : ℤ) :
    (v.countIntent m now).openAuthz = v.openAuthz := rfl

@[simp] theorem incrementEscalation_openAuthz (v : Velocity) (m : String) (now : ℤ) :
    (v.incrementEscalation m now).openAuthz = v.openAuthz := rfl

@[simp] theorem recordCooldown_openAuthz (v : Velocity) (m : String) (t : ℤ) :
    (v.recordCooldown m t).openAuthz = v.openAuthz := by
  unfold recordCooldown
  split_ifs <;> rfl

@[simp] theorem spendView_openAuthz (v : Velocity) (m : Mandate) (mandateId : String) (now : ℤ) :
    (v.spendView m mandateId now).2.openAuthz = v.openAuthz := by
  unfold spendView getCooldown
  cases v.cooldowns mandateId with
  | none => rfl
  | some t =>
    dsimp only
    split_ifs <;> rfl

end Velocity

/-! ## Reservations -/

/-- The reservation store's view of a mandate. -/
structure Account where
  totalBudget : ℕ
  spentTotal : ℕ
  reservedTotal : ℕ
  txnCountPeriod : ℕ
  status : String
  deriving DecidableEq, Repr

/-- The account with one more reservation. -/
def Account.hold (a : Account) (amount : ℕ) : Account :=
  { a with reservedTotal := a.reservedTotal + amount, txnCountPeriod := a.txnCountPeriod + 1 }

/-- The account with one reservation less. -/
def Account.free (a : Account) (amount : ℕ) : Account :=
  { a with reservedTotal := a.reservedTotal - amount, txnCountPeriod := a.txnCountPeriod - 1 }

/-- `InMemoryReservationStore`: accounts, reservations by id, and ids by key. -/
structure Ledger where
  accounts : String → Option Account
  reservations : String → Option (String × ℕ)
  keys : String → Option String

namespace Ledger

/-- What is reserved under a mandate. -/
def reserved (L : Ledger) (m : String) : ℕ := ((L.accounts m).map (·.reservedTotal)).getD 0

/-- Replace a mandate's account. -/
def setAccount (L : Ledger) (m : String) (a : Account) : Ledger :=
  { L with accounts := Function.update L.accounts m (some a) }

/-- The account of a mandate, a new one when there is none. -/
def accountOr (L : Ledger) (m : String) (totalBudget : ℕ) : Account :=
  (L.accounts m).getD ⟨totalBudget, 0, 0, 0, "active"⟩

/-- One more transaction is within the count. -/
def countOk (a : Account) (maxTxn : Option ℕ) : Bool :=
  maxTxn.all fun n => a.txnCountPeriod + 1 ≤ n

/-- The reservation of a key under an id; `none` when it is refused. -/
def reserve (L : Ledger) (m : String) (amount totalBudget : ℕ) (maxTxn : Option ℕ)
    (reservationId key : String) : Option String × Ledger :=
  match L.keys key with
  | some existing =>
    if L.reservations existing = some (m, amount) then (some existing, L) else (none, L)
  | none =>
    let a := L.accountOr m totalBudget
    let L := L.setAccount m a
    if a.status ≠ "active" then (none, L)
    else if a.spentTotal + a.reservedTotal + amount > a.totalBudget then (none, L)
    else if !countOk a maxTxn then (none, L)
    else match L.reservations reservationId with
      | some held => if held = (m, amount) then (some reservationId, L) else (none, L)
      | none =>
        (some reservationId,
          { accounts := Function.update L.accounts m (some (a.hold amount))
            reservations := Function.update L.reservations reservationId (some (m, amount))
            keys := Function.update L.keys key (some reservationId) })

/-- Forget a reservation. -/
def pop (L : Ledger) (reservationId : String) : Ledger :=
  { L with reservations := Function.update L.reservations reservationId none }

/-- Forget the keys of a reservation. -/
def popKeys (L : Ledger) (reservationId : String) : Ledger :=
  { L with keys := fun k => if L.keys k = some reservationId then none else L.keys k }

/-- Give a reservation back; `false` when there is nothing to give back under the mandate. -/
def release (L : Ledger) (m reservationId : String) : Bool × Ledger :=
  match L.reservations reservationId with
  | none => (false, L)
  | some (owner, amount) =>
    if owner ≠ m then (false, L.pop reservationId)
    else
      match L.accounts m with
      | none => (false, (L.pop reservationId).popKeys reservationId)
      | some a =>
        if a.reservedTotal < amount then (false, (L.pop reservationId).popKeys reservationId)
        else (true, ((L.pop reservationId).popKeys reservationId).setAccount m (a.free amount))

end Ledger

/-! ## All stores -/

/-- The stores of the service. -/
structure Stores where
  mandates : String → Option Mandate
  offers : String → Option Json
  velocity : Velocity
  ledger : Ledger
  purchases : List PurchaseRecord
  escalations : String → Option EscalationRecord
  outbox : List OutboxEvent

/-- What an update of a purchase sets. -/
structure PurchaseChange where
  status : PurchaseStatus
  reasonCode : Option ReasonCode
  reservationId : Option String
  clearEscalation : Bool

/-- The record after an update. -/
def PurchaseRecord.change (p : PurchaseRecord) (c : PurchaseChange) : PurchaseRecord :=
  { p with status := c.status, reasonCode := c.reasonCode, reservationId := c.reservationId
           escalationId := if c.clearEscalation then none else p.escalationId }

/-- The record after an update. -/
def EscalationRecord.change (e : EscalationRecord) (status : EscalationStatus)
    (decision : String) : EscalationRecord :=
  { e with status := status, decision := some decision }

namespace Stores

/-- The purchase of an id. -/
def purchase (s : Stores) (pid : String) : Option PurchaseRecord :=
  s.purchases.find? fun p => p.purchaseId = pid

/-- The first purchase of an intent. -/
def purchaseByIntent (s : Stores) (jti : String) : Option PurchaseRecord :=
  s.purchases.find? fun p => p.intentJti = jti

/-- `create`: a record that is there stays. -/
def createPurchase (s : Stores) (p : PurchaseRecord) : Stores :=
  match s.purchase p.purchaseId with
  | some _ => s
  | none => { s with purchases := s.purchases ++ [p] }

/-- `update`; a missing record stays missing. -/
def updatePurchase (s : Stores) (pid : String) (c : PurchaseChange) : Stores :=
  { s with purchases := s.purchases.map fun p => if p.purchaseId = pid then p.change c else p }

/-- `create`: a record that is there stays. -/
def createEscalation (s : Stores) (e : EscalationRecord) : Stores :=
  match s.escalations e.escalationId with
  | some _ => s
  | none => { s with escalations := Function.update s.escalations e.escalationId (some e) }

/-- `update`; a missing record stays missing. -/
def updateEscalation (s : Stores) (id : String) (status : EscalationStatus) (decision : String) :
    Stores :=
  match s.escalations id with
  | some e =>
    { s with escalations := Function.update s.escalations id (some (e.change status decision)) }
  | none => s

/-- `append`; an event that is there is not added again. -/
def appendEvent (s : Stores) (e : OutboxEvent) : Stores :=
  if s.outbox.any fun x => x.eventId = e.eventId then s else { s with outbox := s.outbox ++ [e] }

end Stores

/-! ## Port calls -/

/-- What the idempotency store answers a claim: no record is kept, the caller owns the claim,
somebody else does, or an answer is there. Nothing is assumed of it. -/
inductive Claim where
  | unclaimed
  | owned
  | busy
  | replay (result : VerificationResult)

/-- A call to a port. -/
inductive Op where
  | claimIdempotency (intent : Intent) (now : ℤ)
  | saveResponse (intent : Intent) (result : VerificationResult) (now : ℤ)
  | readMandate (jti : String)
  | readOffer (offerId : String)
  | spendView (mandateId : String) (mandate : Mandate) (now : ℤ)
  | verifyUser (challenge : String) (maxAge : ℤ)
  | readPurchase (purchaseId : String)
  | readPurchaseByIntent (jti : String)
  | createPurchase (p : PurchaseRecord)
  | updatePurchase (purchaseId : String) (c : PurchaseChange)
  | readEscalation (id : String)
  | createEscalation (e : EscalationRecord)
  | updateEscalation (id : String) (status : EscalationStatus) (decision : String)
  | incrementIntent (mandateId : String) (amount : Option ℕ) (now : ℤ)
  | incrementEscalation (mandateId : String) (now : ℤ)
  | recordCooldown (mandateId : String) (expiresAt : ℤ)
  | incrementOpen (mandateId : String)
  | decrementOpen (mandateId : String)
  | reserve (mandateId : String) (amount totalBudget : Option ℕ) (maxTxn : Option ℕ)
      (reservationId key : String)
  | release (mandateId : String) (amount : Option ℕ) (reservationId : String)
  | emit (e : OutboxEvent)

/-- The answer of a port. -/
def Op.Answer : Op → Type
  | .claimIdempotency .. => Claim
  | .readMandate _ => Option Mandate
  | .readOffer _ => Option Json
  | .spendView .. => SpendView
  | .verifyUser .. => Bool
  | .readPurchase _ => Option PurchaseRecord
  | .readPurchaseByIntent _ => Option PurchaseRecord
  | .updatePurchase .. => Bool
  | .readEscalation _ => Option EscalationRecord
  | .reserve .. => Option String
  | .release .. => Bool
  | _ => Unit

/-- The places of the service that call a port; a run of `verify` or `resolve_escalation` passes
each at most once. -/
inductive Site where
  | verifyClaim | verifyReadPurchase | verifyReadMandate | verifyReadOffer | verifySpend
  | finishSave | existingReadEscalation
  | rejectedObserve | rejectedUpdate | rejectedSave | rejectedEmit | rejectedEmitAlert
  | rejectedRecover
  | escalatedObserve | escalatedCount | escalatedCooldown | escalatedSave | escalatedSaveEscalation
  | escalatedEmit | escalatedEmitStepup | escalatedEmitCooldown | escalatedRecoverPurchase
  | escalatedRecoverEscalation
  | approvedObserve | approvedReserve | approvedSave | approvedOpen | approvedEmit
  | approvedUndoRelease | approvedUndoOpen
  | resolveReadEscalation | resolveReadPurchase | resolveVerifyUser | resolveReadMandate
  | resolveReadMandateOfIntent | resolveReadOffer | resolveSpend | resolveReserve
  | resolveUpdateEscalation | resolveUpdatePurchase | resolveOpen | resolveEmit
  | resolveEmitPurchase
  | expireReadPurchase | expireRelease | expireReleaseOpen | expireUpdateEscalation
  | expireUpdatePurchase | expireEmit | expireUndoRelease | expireUndoOpen
  deriving DecidableEq, Repr

/-- A port call at its place. -/
structure Call where
  site : Site
  op : Op

/-- The answer of a call. -/
abbrev Res (c : Call) : Type := c.op.Answer

/-- The exceptions that the service tells apart. -/
inductive Err where
  /-- `ReservationRejected`. -/
  | reservationRejected
  /-- `IdempotencyConflict`. -/
  | idempotencyConflict
  /-- Any other exception. -/
  | failure
  deriving DecidableEq, Repr

/-- What the environment decides about a call of the service: which of its port calls raise, what
the idempotency store answers, and which challenges, at which age at most, the user verified. -/
structure Env where
  fails : Site → Bool
  claim : Except Err Claim
  userVerified : String → ℤ → Bool

/-- The programs of the service. -/
abbrev Ds (α : Type) : Type := Prog Call Res Err α

/-- A port call at a place. -/
def port (site : Site) (op : Op) : Ds op.Answer := Prog.perform (⟨site, op⟩ : Call)

/-- What a port call does when it does not raise by itself. -/
def exec (e : Env) : (op : Op) → Stores → Except Err op.Answer × Stores
  | .claimIdempotency _ _, s => (e.claim, s)
  | .saveResponse _ _ _, s => (.ok (), s)
  | .readMandate jti, s => (.ok (s.mandates jti), s)
  | .readOffer offerId, s => (.ok (s.offers offerId), s)
  | .spendView mandateId mandate now, s =>
    (.ok (s.velocity.spendView mandate mandateId now).1,
      { s with velocity := (s.velocity.spendView mandate mandateId now).2 })
  | .verifyUser challenge maxAge, s => (.ok (e.userVerified challenge maxAge), s)
  | .readPurchase pid, s => (.ok (s.purchase pid), s)
  | .readPurchaseByIntent jti, s => (.ok (s.purchaseByIntent jti), s)
  | .createPurchase p, s => (.ok (), s.createPurchase p)
  | .updatePurchase pid c, s => (.ok (s.purchase pid).isSome, s.updatePurchase pid c)
  | .readEscalation id, s => (.ok (s.escalations id), s)
  | .createEscalation x, s => (.ok (), s.createEscalation x)
  | .updateEscalation id status decision, s => (.ok (), s.updateEscalation id status decision)
  | .incrementIntent m (some amount) now, s =>
    (.ok (), { s with velocity := s.velocity.incrementIntent m amount now })
  | .incrementIntent m none now, s =>
    (.error .failure, { s with velocity := s.velocity.countIntent m now })
  | .incrementEscalation m now, s =>
    (.ok (), { s with velocity := s.velocity.incrementEscalation m now })
  | .recordCooldown m t, s => (.ok (), { s with velocity := s.velocity.recordCooldown m t })
  | .incrementOpen m, s => (.ok (), { s with velocity := s.velocity.incrementOpen m })
  | .decrementOpen m, s => (.ok (), { s with velocity := s.velocity.decrementOpen m })
  | .reserve m (some amount) (some budget) maxTxn rid key, s =>
    (.ok (s.ledger.reserve m amount budget maxTxn rid key).1,
      { s with ledger := (s.ledger.reserve m amount budget maxTxn rid key).2 })
  | .reserve _ _ _ _ _ _, s => (.error .failure, s)
  | .release m (some _) rid, s =>
    (.ok (s.ledger.release m rid).1, { s with ledger := (s.ledger.release m rid).2 })
  | .release _ none _, s => (.error .failure, s)
  | .emit x, s => (.ok (), s.appendEvent x)

/-- **One port call**: it raises without an effect, or runs. -/
def sem (e : Env) (c : Call) (s : Stores) : Except Err (Res c) × Stores :=
  if e.fails c.site then (.error .failure, s) else exec e c.op s

end TryTrust.DecisionCore
