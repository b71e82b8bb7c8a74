import TryTrust.Agent.Kernel
import TryTrust.Conc.Interp

/-!
# Escalations of the agent lane

A human in the loop: a purchase over its limit waits for an answer, and an approval buys a retry
through the gate.

* `EscalationRow`, `Desk`: the escalations beside the kernel's tables; `Stmt`, `exec`, `sem`: the
  statements of this module, those of the kernel among them;
* `openEscalation`, `resolve`, `expire`, `sweep`, `retryThroughGate`, statement by statement;
* `submitPurchase`: the kernel's saga, with the opening of its escalation written out;
* `Ruling`, `rule`; `Act`, `act`: the calls that a connection makes.
-/

namespace TryTrust.Agent.Escalation

open Conc

/-! ## Rows -/

/-- `escalations.status`. -/
inductive EscalationStatus where
  | pending
  | resolved
  | expired
  deriving DecidableEq, Repr

/-- `escalations.decision`. -/
inductive Answer where
  | approve
  | reject
  | timeout
  deriving DecidableEq, Repr

/-- The answers that a human can give. -/
def Answer.ofText (text : String) : Option Answer :=
  if text = "APPROVE" then some .approve else if text = "REJECT" then some .reject else none

/-- A row of `escalations`; its times in seconds. -/
structure EscalationRow where
  purchaseId : String
  mandateJti : String
  runId : Option String
  approverId : Option String
  status : EscalationStatus
  reasonCode : String
  timeoutAt : ℤ
  createdAt : ℤ
  decision : Option Answer
  approver : Option String
  channel : Option String
  receiptSig : Option String
  deriving DecidableEq, Repr

/-- The kernel's tables, `agents.approver_id`, and the escalations in the order of their inserts. -/
structure Desk where
  db : Db
  approvers : String → Option (Option String)
  escalations : List (String × EscalationRow)

/-- The row of an escalation. -/
def Desk.escalation (d : Desk) (id : String) : Option EscalationRow := d.escalations.lookup id

/-- `UPDATE escalations SET … WHERE id = ?`. -/
def Desk.setEscalation (d : Desk) (id : String) (f : EscalationRow → EscalationRow) : Desk :=
  { d with escalations := d.escalations.map fun e => if e.1 = id then (e.1, f e.2) else e }

/-! ## Statements -/

/-- The statements of this module, and the kernel's. -/
inductive Stmt where
  | kernel (c : Call)
  | selectAgentId (jti : String)
  | selectApprover (agentId : String)
  /-- `limits.guard_escalation`: it counts, or raises `LimitExceeded`. -/
  | guardEscalation (approver : Option String)
  | insertEscalation (id : String) (row : EscalationRow)
  | selectEscalation (id : String)
  /-- `now_iso()`. -/
  | now
  | updateResolved (id : String) (answer : Answer) (approver channel receiptSig : String)
  | updateTimedOut (id : String)
  | selectPurchase (id : String)
  | selectIntent (jti : String)
  /-- The `offer_id` and `merchant_id` of the last `purchase.requested` that names the purchase. -/
  | selectRequested (purchaseId : String)
  | insertMandate (row : MandateRow)
  | insertInstrument (tokenRef : String)
  | selectDue (now : ℤ)

/-- The answers. -/
def Ans : Stmt → Type
  | .kernel c => Res c
  | .selectAgentId _ => Option String
  | .selectApprover _ => Option (Option String)
  | .selectEscalation _ => Option EscalationRow
  | .now => ℤ
  | .selectPurchase _ => Option PurchaseRow
  | .selectIntent _ => Option IntentRow
  | .selectRequested _ => Option (Option String × Option String)
  | .selectDue _ => List String
  | _ => Unit

/-- The programs over these statements. -/
abbrev Py (α : Type) : Type := Prog Stmt Ans PyErr α

/-- What the environment decides at a step: as for the kernel, and what the log is read to say. -/
structure DeskEnv where
  kernel : Env
  requested : Option (Option String × Option String)

/-- A statement that does not fail. -/
def exec (e : DeskEnv) : (op : Stmt) → Desk → Except PyErr (Ans op) × Desk
  | .kernel c, d => ((Agent.exec e.kernel c d.db).1, { d with db := (Agent.exec e.kernel c d.db).2 })
  | .selectAgentId jti, d => (.ok ((d.db.mandates jti).map (·.claims.agent)), d)
  | .selectApprover agentId, d => (.ok (d.approvers agentId), d)
  | .guardEscalation _, d => (.ok (), d)
  | .insertEscalation id row, d =>
    match d.escalation id with
    | some _ => (.error (.other "duplicate key value violates unique constraint"), d)
    | none => (.ok (), { d with escalations := d.escalations ++ [(id, row)] })
  | .selectEscalation id, d => (.ok (d.escalation id), d)
  | .now, d => (.ok e.kernel.now, d)
  | .updateResolved id answer approver channel receiptSig, d =>
    (.ok (), d.setEscalation id fun row =>
      { row with
        status := .resolved, decision := some answer, approver := some approver
        channel := some channel, receiptSig := some receiptSig })
  | .updateTimedOut id, d =>
    (.ok (), d.setEscalation id fun row =>
      { row with status := .expired, decision := some .timeout })
  | .selectPurchase id, d => (.ok (d.db.purchases id), d)
  | .selectIntent jti, d => (.ok (d.db.intents.find? fun r => r.intent.jti = jti), d)
  | .selectRequested _, d => (.ok e.requested, d)
  | .insertMandate row, d =>
    match d.db.mandates row.claims.jti with
    | some _ => (.error (.other "duplicate key value violates unique constraint"), d)
    | none =>
      (.ok (), { d with
        db := { d.db with
          mandates := fun j => if j = row.claims.jti then some row else d.db.mandates j } })
  | .insertInstrument ref, d =>
    -- ON CONFLICT (token_ref) DO NOTHING
    match d.db.instruments ref with
    | some _ => (.ok (), d)
    | none =>
      (.ok (), { d with
        db := { d.db with
          instruments := fun r => if r = ref then some .active else d.db.instruments r } })
  | .selectDue now, d =>
    (.ok ((d.escalations.filter fun e => e.2.status = .pending ∧ e.2.timeoutAt < now).map (·.1)), d)

/-- The clock is not a statement: reading it cannot fail. -/
def Stmt.fallible : Stmt → Bool
  | .now => false
  | .kernel .nowTs => false
  | _ => true

/-- **The meaning of a statement**: it raises without an effect, or it runs. -/
def sem (e : DeskEnv) (op : Stmt) (d : Desk) : Except PyErr (Ans op) × Desk :=
  if op.fallible then
    match e.kernel.fail with
    | some x => (.error x, d)
    | none => exec e op d
  else exec e op d

/-! ## Opening -/

/-- One statement. -/
abbrev stmt (op : Stmt) : Py (Ans op) := Prog.perform op

/-- One statement of the kernel. -/
abbrev kernel (c : Call) : Py (Res c) := Prog.perform (Stmt.kernel c)

/-- Pure functions and settings that this module uses. -/
structure Issuer where
  /-- `jws.sign_detached` of an approval receipt: escalation, purchase, decision, approver, channel,
  time. -/
  signReceipt : String → String → Answer → String → String → ℤ → String
  /-- `jws.sign_compact` of a mandate. -/
  signToken : Claims → String
  /-- `validity["exp"]` of a mandate, when it has one. -/
  validityExp : Claims → Option ℤ
  /-- `ESCALATION_TIMEOUT_S`. -/
  timeoutS : ℤ

/-- What an escalation is opened for. -/
structure Opening where
  escalationId : String
  purchaseId : String
  mandateJti : String
  runId : Option String
  reasonCode : String

/-- The person who has to answer for a mandate's agent. -/
def approverOf (mandateJti : String) : Py (Option String) := do
  match ← stmt (.selectAgentId mandateJti) with
  | none => pure none
  | some agentId =>
    if agentId = "" then pure none
    else
      let row : Option (Option String) ← stmt (.selectApprover agentId)
      pure row.join

/-- `open_escalation`. -/
def openEscalation (I : Issuer) (o : Opening) : Py Unit := do
  let approver ← approverOf o.mandateJti
  stmt (.guardEscalation approver)
  let now : ℤ ← stmt .now
  let createdAt : ℤ ← stmt .now
  stmt (.insertEscalation o.escalationId
    { purchaseId := o.purchaseId, mandateJti := o.mandateJti, runId := o.runId
      approverId := approver, status := .pending, reasonCode := o.reasonCode
      timeoutAt := now + I.timeoutS, createdAt := createdAt, decision := none, approver := none
      channel := none, receiptSig := none })
  kernel (.auditAppend ⟨"purchase.escalated", o.purchaseId, some o.mandateJti⟩)

/-! ## The kernel's saga -/

/-- The kernel's calls; the one that opens an escalation is written out. -/
def handler (I : Issuer) (mandateJti : String) (runId : Option String) : (c : Call) → Py (Res c)
  | .openEscalation id purchaseId reasonCode =>
    openEscalation I ⟨id, purchaseId, mandateJti, runId, reasonCode⟩
  | c => kernel c

/-- What a deployment is made of. -/
structure Deployment where
  issuer : Issuer
  deps : Deps
  ports : String → Option Port
  fuel : ℕ

/-- A call of `submit_purchase`. -/
structure Submission where
  ids : FreshIds
  offerId : String
  mandateJti : String
  merchantId : String
  runId : Option String

/-- `kernel.submit_purchase`. -/
def submitPurchase (D : Deployment) (r : Submission) : Py Outcome :=
  (Agent.submitPurchase D.deps D.ports D.fuel r.ids r.offerId r.mandateJti r.merchantId).interp
    (handler D.issuer r.mandateJti r.runId)

/-! ### What the saga calls -/

/-- A call that writes no purchase and opens no escalation. -/
def Elsewhere : Call → Prop
  | .insertPurchase .. => False
  | .updatePurchase .. => False
  | .openEscalation .. => False
  | _ => True

section Saga

variable {φ : Call → Prop} (hφ : ∀ c, Elsewhere c → φ c)

include hφ

theorem verify_elsewhere (K : Deps) (ports : String → Option Port) (fuel : ℕ) (ids : FreshIds)
    (token : String) (intent : Intent) (signature : String) (reserve : Bool) :
    (verify K ports fuel ids token intent signature reserve).Calls φ := by
  refine verify_calls K ports fuel ⟨fun c hc => ?_, fun _ => hφ _ trivial, fun _ => hφ _ trivial,
    fun _ _ => hφ _ trivial, fun _ => hφ _ trivial, fun _ _ _ => hφ _ trivial⟩ _ _ _ _
  refine hφ c ?_
  cases c <;> trivial

theorem release_elsewhere (fuel : ℕ) (jti : String) (amount : ℤ) :
    (release fuel jti amount).Calls φ :=
  Prog.calls_bind (chain_calls (fun _ => hφ _ trivial) _ _) fun _ =>
    unreserve_calls (fun _ => hφ _ trivial) (fun _ _ => hφ _ trivial) _ _

theorem compensate_elsewhere (fuel : ℕ) (purchaseId : String) (claims : Claims) (intent : Intent)
    (code detail : String) (hu : ∀ set, φ (.updatePurchase purchaseId .compensated set)) :
    (compensate fuel purchaseId claims intent code detail).Calls φ := by
  exact Prog.calls_bind (release_elsewhere hφ _ _ _) fun _ =>
    Prog.calls_bind (Prog.calls_perform (hu _)) fun _ =>
      Prog.calls_bind (Prog.calls_perform (hφ _ trivial)) fun _ => trivial

theorem portSettle_elsewhere (K : Deps) (ids : FreshIds) (port : Port) (offer : Offer)
    (claims : Claims) (token : String) (intent : Intent) (signature : String)
    (rid : Option String) :
    (portSettle K ids port offer claims token intent signature rid).Calls φ := by
  have hlive : (liveState claims.jti rid).Calls φ := liveState_calls (hφ _ trivial)
  cases port with
  | mock =>
    exact localSettle_calls K ids token intent signature hlive (hφ _ trivial) (hφ _ trivial)
      (fun _ => hφ _ trivial) (fun _ => hφ _ trivial) fun _ => hφ _ trivial
  | rappiBridge =>
    exact rappiSettle_calls K offer claims intent hlive
      (fun _ _ => Prog.calls_perform (hφ _ trivial)) (fun _ => hφ _ trivial)
      (fun _ => hφ _ trivial) (fun _ => hφ _ trivial) fun _ => hφ _ trivial

/-- The settlement writes only its own purchase, and never back to waiting. -/
theorem charge_elsewhere (K : Deps) (ports : String → Option Port) (fuel : ℕ) (ids : FreshIds)
    (purchaseId token : String) (claims : Claims) (intent : Intent) (signature : String)
    (rid : Option String) (hu : ∀ status set, status ≠ .awaitingEscalation →
      φ (.updatePurchase purchaseId status set)) :
    (charge K ports fuel ids purchaseId token claims intent signature rid).Calls φ := by
  have hcomp : ∀ code detail, (compensate fuel purchaseId claims intent code detail).Calls φ :=
    fun code detail => compensate_elsewhere hφ fuel purchaseId claims intent code detail
      fun _ => hu _ _ (by decide)
  refine Prog.calls_bind (Prog.calls_perform (hu _ _ (by decide))) fun _ => ?_
  cases ports intent.merchantId with
  | none => trivial
  | some port =>
    refine Prog.calls_bind (Prog.calls_perform (hφ _ trivial)) fun found => ?_
    refine Prog.calls_bind (Prog.calls_attempt
      (portSettle_elsewhere hφ K ids port _ claims token intent signature rid)) fun result => ?_
    rcases result with (_ | _ | _ | _) | (receipt | _)
    · exact hcomp _ _
    · exact hcomp _ _
    · exact hcomp _ _
    · exact hcomp _ _
    · refine Prog.calls_bind (settle_calls (fun _ => hφ _ trivial) (fun _ => hφ _ trivial)
        (fun _ _ _ _ _ => hφ _ trivial) _ _ _) fun _ => ?_
      exact Prog.calls_bind (Prog.calls_perform (hu _ _ (by decide))) fun _ =>
        Prog.calls_bind (Prog.calls_perform (hφ _ trivial)) fun _ =>
          Prog.calls_bind (Prog.calls_perform (hφ _ trivial)) fun _ => trivial
    · exact hcomp _ _

end Saga

/-! ## Resolving -/

/-- A call of `resolve`, with the identifiers that its retry draws. -/
structure Resolution where
  escalationId : String
  decision : String
  approver : String
  channel : String := "chat"
  sticky : Bool := false
  derivedJti : String
  ids : FreshIds

/-- How a call ends. -/
inductive Report where
  /-- An escalation that is not pending, as it is. -/
  | settled (status : EscalationStatus) (decision : Option Answer)
  | expired
  | rejected
  /-- An approval, with what its retry came to. -/
  | approved (outcome : Outcome)

/-- `escalation.get`. -/
def get (id : String) : Py EscalationRow := do
  match ← stmt (.selectEscalation id) with
  | none => .raise (.keyError ("no such escalation: " ++ id))
  | some row => pure row

/-- `expire`. -/
def expire (id : String) : Py Report := do
  let row ← get id
  if row.status ≠ .pending then pure (.settled row.status row.decision)
  else
    stmt (.updateTimedOut id)
    kernel (.updatePurchase row.purchaseId .rejected (.reason "ESCALATION_TIMEOUT_DENIED"))
    kernel (.auditAppend ⟨"escalation.expired", id, some row.mandateJti⟩)
    pure .expired

/-- `mandate.issue` of the derived mandate of a sticky approval. -/
def issueDerived (I : Issuer) (parent : MandateRow) (parentJti derivedJti : String) (amount : ℤ) :
    Py String := do
  let issued : ℤ ← kernel .nowTs
  let claims : Claims :=
    { parent.claims with
      jti := derivedJti
      conditions := .bool true
      limits := ⟨amount, amount, some 1⟩
      nbf := issued
      exp := (I.validityExp parent.claims).getD (issued + 30 * 24 * 3600) }
  stmt (.insertMandate
    { status := .active, claims := claims, token := I.signToken claims, reservedAmount := 0
      spentTotal := 0, txnCount := 0, parentJti := some parentJti })
  stmt (.insertInstrument claims.paymentMethodRef)
  kernel (.auditAppend ⟨"mandate.created", derivedJti, some derivedJti⟩)
  pure derivedJti

/-- The mandate that a retry is charged to. -/
def retryMandate (I : Issuer) (row : EscalationRow) (purchase : PurchaseRow) (sticky : Bool)
    (derivedJti : String) : Py String :=
  if sticky then do
    match ← kernel (.selectMandate row.mandateJti) with
    | none => .raise (.keyError ("no such mandate: " ++ row.mandateJti))
    | some parent => issueDerived I parent row.mandateJti derivedJti purchase.amount
  else pure row.mandateJti

/-- The offer and merchant of a purchase: from its intent, else from the log. -/
def retryOffer (row : EscalationRow) (purchase : PurchaseRow) :
    Py (Option String × Option String) := do
  match ← stmt (.selectIntent purchase.intentJti) with
  | some r => pure (some r.intent.offerId, some r.intent.merchantId)
  | none =>
    let logged : Option (Option String × Option String) ← stmt (.selectRequested row.purchaseId)
    pure (logged.getD (none, none))

/-- `_retry_through_gate`. -/
def retryThroughGate (D : Deployment) (r : Resolution) (row : EscalationRow) : Py Outcome := do
  match ← stmt (.selectPurchase row.purchaseId) with
  | none => .raise (.other "'NoneType' object is not subscriptable")
  | some purchase =>
    let (offerId, merchantId) ← retryOffer row purchase
    match offerId with
    | none => pure (.rejected none "RAIL_ERROR" "cannot rebuild the intent to retry")
    | some offerId => do
      let mandateJti ← retryMandate D.issuer row purchase r.sticky r.derivedJti
      submitPurchase D
        ⟨r.ids, offerId, mandateJti, merchantId.getD Agent.merchantId, row.runId⟩

/-- What `resolve` does with a pending escalation in time. -/
def resolvePending (D : Deployment) (r : Resolution) (answer : Answer) (row : EscalationRow) :
    Py Report := do
  let at' : ℤ ← stmt .now
  let sig := D.issuer.signReceipt r.escalationId row.purchaseId answer r.approver r.channel at'
  stmt (.updateResolved r.escalationId answer r.approver r.channel sig)
  kernel (.auditAppend ⟨"escalation.resolved", r.escalationId, some row.mandateJti⟩)
  if answer = .reject then
    kernel (.updatePurchase row.purchaseId .rejected (.reason "HUMAN_REJECTED"))
    pure .rejected
  else
    let outcome ← retryThroughGate D r row
    pure (.approved outcome)

/-- `resolve`. -/
def resolve (D : Deployment) (r : Resolution) : Py Report :=
  match Answer.ofText r.decision with
  | none => .raise (.other "decision must be APPROVE or REJECT")
  | some answer => do
    let row ← get r.escalationId
    if row.status ≠ .pending then pure (.settled row.status row.decision)
    else
      let now : ℤ ← stmt .now
      if row.timeoutAt < now then expire r.escalationId
      else resolvePending D r answer row

/-- The loop of `sweep`. -/
def expireAll : List String → Py (List Report)
  | [] => pure []
  | id :: ids => do
    let report ← expire id
    let reports ← expireAll ids
    pure (report :: reports)

/-- `sweep`. -/
def sweep : Py (List Report) := do
  let now : ℤ ← stmt .now
  let due : List String ← stmt (.selectDue now)
  expireAll due

/-! ## Calls of a connection -/

/-- A call that rules on escalations. -/
inductive Ruling where
  | resolve (r : Resolution)
  | expire (id : String)
  | sweep

/-- The program of a ruling, without its answer. -/
def rule (D : Deployment) : Ruling → Py Unit
  | .resolve r => (resolve D r).bind fun _ => pure ()
  | .expire id => (expire id).bind fun _ => pure ()
  | .sweep => sweep.bind fun _ => pure ()

/-- A call. -/
inductive Act where
  | submit (r : Submission)
  | escalate (o : Opening)
  | rule (r : Ruling)

/-- The program of a call, without its answer. -/
def act (D : Deployment) : Act → Py Unit
  | .submit r => (submitPurchase D r).bind fun _ => pure ()
  | .escalate o => openEscalation D.issuer o
  | .rule r => rule D r

end TryTrust.Agent.Escalation
