import TryTrust.Conc.Cell
import TryTrust.Conc.Pool
import TryTrust.Json

/-!
# The escalation service of the API

`resolve` and `expire_pending`, each call one transaction, and any number of them at once.

* `EscalationRow`, `OutboxEvent`, `Desk`; `Call`, `exec`, `sem`: the statements;
* `expirePending`, `resolve`, `answer`, a call with its commit or rollback;
* `Win`, a row that a call took out of pending; `Work`; `deskSystem`, `deskStart`;
* `RowOk`, `DeskInv`; `answer_outline`: a call keeps the invariant and ends as its wins say;
* **`escalations_exclusive`**: every escalation leaves pending at most once, as its winner wrote it
  and with one event; whoever loses raises and leaves nothing.
-/

namespace TryTrust.Api.Escalations

open Conc

/-! ## Rows and events -/

/-- `EscalationStatus`. -/
inductive EscalationStatus where
  | pending
  | resolved
  | expired
  deriving DecidableEq, Repr

/-- A row of `escalations`; `timeoutAt` in seconds, which its texts sort by. -/
structure EscalationRow where
  purchaseId : String
  mandateJti : String
  status : EscalationStatus
  timeoutAt : ℤ
  decision : Option String := none
  approver : Option String := none
  channel : Option String := none
  receiptSig : Option String := none
  deriving DecidableEq

/-- `_iso`: a moment in microseconds, cut to the second. -/
def iso (moment : ℤ) : ℤ := moment / 1000000

/-- An event of the outbox. -/
structure OutboxEvent where
  type : String
  aggregateId : String
  payload : Fields

/-- The event is about an escalation. -/
def OutboxEvent.concerns (e : OutboxEvent) (id : String) : Bool :=
  match e.payload.lookup "escalation_id" with
  | some (.str s) => s = id
  | _ => false

/-- `escalation.expired`. -/
def expiredEvent (id purchaseId : String) : OutboxEvent :=
  ⟨"escalation.expired", purchaseId, [("escalation_id", .str id)]⟩

/-- `escalation.resolved`. -/
def resolvedEvent (id purchaseId decision receiptSig : String) : OutboxEvent :=
  ⟨"escalation.resolved", purchaseId,
    [("escalation_id", .str id), ("decision", .str decision), ("receipt_sig", .str receiptSig)]⟩

/-- What a resolution sets. -/
structure Resolution where
  decision : String
  approver : String
  channel : String
  receiptSig : String
  deriving DecidableEq

/-- A row after its resolution. -/
def EscalationRow.resolve (r : EscalationRow) (x : Resolution) : EscalationRow :=
  { r with status := .resolved, decision := some x.decision, approver := some x.approver
           channel := some x.channel, receiptSig := some x.receiptSig }

/-- A row after its timeout. -/
def EscalationRow.expire (r : EscalationRow) : EscalationRow :=
  { r with status := .expired, decision := some "REJECT" }

/-! ## Statements -/

/-- The tables, and the events that each open transaction has inserted. -/
structure Desk (ι : Type) where
  escalations : Table ι String EscalationRow
  outbox : List OutboxEvent
  inserted : ι → List OutboxEvent

/-- A call of a session. -/
inductive Call (ι : Type) where
  /-- The guarded `UPDATE` of `expire_pending`, `RETURNING id, purchase_id`. -/
  | updateExpired (i : ι) (now : ℤ)
  | emitEvent (i : ι) (event : OutboxEvent)
  /-- `session.get`. -/
  | get (i : ι) (id : String)
  /-- `sign_compact` over the receipt. -/
  | sign (i : ι) (receipt : Fields)
  /-- The guarded `UPDATE` of `resolve`, `RETURNING` the row. -/
  | updateResolved (i : ι) (id : String) (now : ℤ) (x : Resolution)
  /-- The second `session.get`, which may answer the object that the session knows. -/
  | reread (i : ι) (id : String)
  | commit (i : ι)
  | rollback (i : ι)

/-- The answer of a call. -/
def Res {ι : Type} : Call ι → Type
  | .updateExpired .. => List (String × String)
  | .get .. => Option EscalationRow
  | .sign .. => String
  | .updateResolved .. => Option EscalationRow
  | .reread .. => Option EscalationRow
  | _ => Unit

/-- The exceptions. -/
inductive Err where
  /-- `EscalationNotFound`. -/
  | notFound (id : String)
  /-- `EscalationConflict`. -/
  | conflict (message : String) (reasonCode : Option String)
  /-- Any other exception. -/
  | failure (message : String)
  deriving DecidableEq

/-- What is outside: the exception that the call raises, the signature, the reread object. -/
structure Env where
  raises : Option String := none
  signature : String := ""
  known : Option EscalationRow := none

/-- A program of a session. -/
abbrev Tx (ι α : Type) : Type := Prog (Call ι) Res Err α

section Statements

variable {ι : Type} [DecidableEq ι]

/-- The rows that a timeout sweep finds. -/
def overdue (i : ι) (now : ℤ) (d : Desk ι) : List String :=
  d.escalations.matching i fun _ r => r.status = .pending && decide (r.timeoutAt < iso now)

/-- The row that a resolution finds. -/
def answerable (i : ι) (id : String) (now : ℤ) (d : Desk ι) : List String :=
  d.escalations.matching i fun k r =>
    k = id && decide (r.status = .pending) && decide (r.timeoutAt ≥ iso now)

/-- What a call does when it does not raise. -/
def exec (e : Env) : (op : Call ι) → Desk ι → Res op × Desk ι
  | .updateExpired i now, d =>
    ((overdue i now d).map fun k => (k, ((d.escalations.cell k).seen i).purchaseId),
      { d with escalations := d.escalations.rewrite i (overdue i now d) fun _ r => r.expire })
  | .emitEvent i event, d =>
    ((), { d with inserted := Function.update d.inserted i (d.inserted i ++ [event]) })
  | .get i id, d =>
    (if id ∈ d.escalations.keys then some ((d.escalations.cell id).seen i) else none, d)
  | .sign _ _, d => (e.signature, d)
  | .updateResolved i id now x, d =>
    ((answerable i id now d).head?.map fun k => ((d.escalations.cell k).seen i).resolve x,
      { d with escalations := d.escalations.rewrite i (answerable i id now d) fun _ r => r.resolve x })
  | .reread _ _, d => (e.known, d)
  | .commit i, d =>
    ((), { escalations := d.escalations.commit i, outbox := d.outbox ++ d.inserted i
           inserted := Function.update d.inserted i [] })
  | .rollback i, d =>
    ((), { d with escalations := d.escalations.rollback i
                  inserted := Function.update d.inserted i [] })

/-- The call ends a transaction for good, whatever becomes of the connection. -/
def Call.ends : Call ι → Bool
  | .rollback _ => true
  | _ => false

/-- **One call**: it raises without an effect, or runs. -/
def sem (e : Env) (op : Call ι) (d : Desk ι) : Except Err (Res op) × Desk ι :=
  match e.raises, op.ends with
  | some x, false => (.error (.failure x), d)
  | _, _ => (.ok (exec e op d).1, (exec e op d).2)

/-- One call of a program. -/
def call (op : Call ι) : Tx ι (Res op) := Prog.perform op

/-! ## The service -/

/-- The loop of `expire_pending` over the expired rows. -/
def emitExpired (i : ι) : List (String × String) → Tx ι Unit
  | [] => pure ()
  | x :: rows => do
    call (.emitEvent i (expiredEvent x.1 x.2))
    emitExpired i rows

/-- `expire_pending`. -/
def expirePending (i : ι) (now : ℤ) : Tx ι (List String) := do
  let expired : List (String × String) ← call (.updateExpired i now)
  emitExpired i expired
  pure (expired.map Prod.fst)

/-- The arguments of `resolve`. -/
structure ResolveRequest where
  escalationId : String
  decision : String
  approver : String
  channel : String
  sticky : Bool
  now : ℤ

/-- `ReasonCode.ESCALATION_TIMEOUT_DENIED`. -/
def timeoutDenied : Option String := some "ESCALATION_TIMEOUT_DENIED"

/-- The event of an answer; a rejection compensates like a timeout. -/
def answerEvent (r : ResolveRequest) (row : EscalationRow) (receiptSig : String) : OutboxEvent :=
  if r.decision = "APPROVE" then
    resolvedEvent r.escalationId row.purchaseId r.decision receiptSig
  else expiredEvent r.escalationId row.purchaseId

/-- What `resolve` does when its guarded update finds no row. -/
def explain (i : ι) (id : String) : Tx ι EscalationRow := do
  let current : Option EscalationRow ← call (.reread i id)
  match (current.map (·.status) : Option EscalationStatus) with
  | some .expired => .raise (.conflict "escalation timed out" timeoutDenied)
  | _ => .raise (.conflict "escalation was already resolved" none)

/-- The part of `resolve` for a pending row; `isoformat` is the text of a moment. -/
def resolvePending (isoformat : ℤ → String) (i : ι) (r : ResolveRequest) :
    Tx ι EscalationRow := do
  let receiptSig : String ← call (.sign i [("escalation_id", .str r.escalationId),
    ("decision", .str r.decision), ("approver", .str r.approver), ("channel", .str r.channel),
    ("resolved_at", .str (isoformat r.now))])
  let resolved : Option EscalationRow ← call (.updateResolved i r.escalationId r.now
    ⟨r.decision, r.approver, r.channel, receiptSig⟩)
  match resolved with
  | none => explain i r.escalationId
  | some row => do
    call (.emitEvent i (answerEvent r row receiptSig))
    pure row

/-- `resolve`. -/
def resolve (isoformat : ℤ → String) (i : ι) (r : ResolveRequest) : Tx ι EscalationRow :=
  match r.sticky with
  | true => .raise (.conflict ("sticky approvals need a returned derived mandate and are not " ++
      "enabled by this response contract") none)
  | false => do
    let _ : List String ← expirePending i r.now
    let row : Option EscalationRow ← call (.get i r.escalationId)
    match row with
    | none => .raise (.notFound r.escalationId)
    | some row =>
      match row.status with
      | .expired => .raise (.conflict "escalation timed out" timeoutDenied)
      | .resolved => .raise (.conflict "escalation was already resolved" none)
      | .pending => resolvePending isoformat i r

/-- A call of the service. -/
inductive Request where
  | resolve (r : ResolveRequest)
  | expirePending (now : ℤ)

/-- What a call returns. -/
inductive Reply where
  | resolved (row : EscalationRow)
  | expired (ids : List String)

/-- The body of a call. -/
def body (isoformat : ℤ → String) (i : ι) : Request → Tx ι Reply
  | .resolve r => do
    let row ← resolve isoformat i r
    pure (.resolved row)
  | .expirePending now => do
    let ids ← expirePending i now
    pure (.expired ids)

/-- **A call**, in a transaction of its own. -/
def answer (isoformat : ℤ → String) (i : ι) (r : Request) : Tx ι Reply := do
  let done : Except Err Reply ← (do
    let reply ← body isoformat i r
    call (.commit i)
    pure reply : Tx ι Reply).attempt
  match done with
  | .ok reply => pure reply
  | .error x => do
    call (.rollback i)
    .raise x

/-- The calls of a session, with what each returns or raises. -/
def answers (isoformat : ℤ → String) (i : ι) :
    List Request → Tx ι (List (Request × Except Err Reply))
  | [] => pure []
  | r :: rs => do
    let x : Except Err Reply ← (answer isoformat i r).attempt
    let xs ← answers isoformat i rs
    pure ((r, x) :: xs)

end Statements

/-! ## The system -/

/-- A row that a call takes out of pending: by a resolution, or by its timeout. -/
structure Win where
  id : String
  purchaseId : String
  cause : Option Resolution
  deriving DecidableEq

/-- The row that the winner writes. -/
def Win.row (w : Win) (r : EscalationRow) : EscalationRow :=
  match w.cause with
  | none => r.expire
  | some x => r.resolve x

/-- The event of the win: a resolution that approves, or anything else. -/
def Win.event (w : Win) : OutboxEvent :=
  match w.cause with
  | none => expiredEvent w.id w.purchaseId
  | some x =>
    if x.decision = "APPROVE" then resolvedEvent w.id w.purchaseId x.decision x.receiptSig
    else expiredEvent w.id w.purchaseId

/-- A call that has ended: what it won for good, and whether one of its statements raised. -/
structure Ended where
  kept : List Win
  raised : Bool
  deriving DecidableEq

/-- What a session has done. -/
structure Work where
  /-- The wins of the open transaction. -/
  wins : List Win := []
  /-- Its events. -/
  emitted : List OutboxEvent := []
  /-- Whether one of its statements raised. -/
  raised : Bool := false
  /-- The calls that have ended. -/
  log : List Ended := []

/-- What the session has won for good. -/
def Work.won (γ : Work) : List Win := γ.log.flatMap (·.kept)

/-- After an answer. -/
def Work.next (γ : Work) : {ι : Type} → (op : Call ι) → Res op → Work
  | _, .updateExpired .., (rows : List (String × String)) =>
    { γ with wins := γ.wins ++ rows.map fun x => ⟨x.1, x.2, none⟩ }
  | _, .emitEvent _ event, _ => { γ with emitted := γ.emitted ++ [event] }
  | _, .updateResolved _ id _ x, (row : Option EscalationRow) =>
    { γ with wins := γ.wins ++ row.toList.map fun row => ⟨id, row.purchaseId, some x⟩ }
  | _, .commit _, _ => { log := γ.log ++ [⟨γ.wins, γ.raised⟩] }
  | _, .rollback _, _ => { log := γ.log ++ [⟨[], γ.raised⟩] }
  | _, _, _ => γ

section System

variable (ι : Type) [DecidableEq ι]

/-- The sessions. -/
def deskSystem : System ι (Call ι) Res Err (Desk ι) Work Env where
  sem := sem
  adv _ γ _ op r := match r with
    | .ok a => γ.next op a
    | .error _ => { γ with raised := true }

variable {ι}

/-- The configurations of the sessions. -/
abbrev Sessions (ι : Type) : Type :=
  Config ι (Call ι) Res Err (List (Request × Except Err Reply)) (Desk ι) Work

/-- The start: any escalations, and each session before its calls. -/
def deskStart (isoformat : ℤ → String) (keys : List String) (row : String → EscalationRow)
    (requests : ι → List Request) : Sessions ι where
  shared := ⟨⟨keys, fun k => ⟨row k, none⟩⟩, [], fun _ => []⟩
  prog i := answers isoformat i (requests i)
  hist _ := {}

/-- A call that does not wait for a lock. -/
def Granted (d : Desk ι) : Call ι → Prop
  | .updateExpired i now => ∀ k ∈ overdue i now d, (d.escalations.cell k).Free i
  | .updateResolved i id now _ => ∀ k ∈ answerable i id now d, (d.escalations.cell k).Free i
  | _ => True

instance (d : Desk ι) (op : Call ι) : Decidable (Granted d op) := by
  cases op <;> unfold Granted <;> infer_instance

/-- A step that waits for no lock. -/
def Runs (c : Sessions ι) (i : ι) (_ : Env) : Prop := ∀ op ∈ (c.prog i).next, Granted c.shared op

instance (c : Sessions ι) (i : ι) (e : Env) : Decidable (Runs c i e) :=
  inferInstanceAs (Decidable (∀ op ∈ (c.prog i).next, Granted c.shared op))

end System

/-! ## The invariant -/

section Invariant

variable {ι : Type}

/-- An escalation that no call has won: the row of the start, and no event. -/
structure Untouched (r : EscalationRow) (g : ι → Work) (k : String) (outbox : List OutboxEvent)
    (c : Cell ι EscalationRow) : Prop where
  row : c.row = r
  won : ∀ j, ∀ w ∈ (g j).won, w.id ≠ k
  events : ∀ e ∈ outbox, e.concerns k = false
  held : ∀ h ∈ c.held, r.status = .pending

/-- **An escalation that left pending**: once, as its winner wrote it, and with its event. -/
structure Left (r : EscalationRow) (g : ι → Work) (k : String) (outbox : List OutboxEvent)
    (c : Cell ι EscalationRow) (j : ι) (w : Win) : Prop where
  pending : r.status = .pending
  row : c.row = w.row r
  held : c.held = none
  purchase : w.purchaseId = r.purchaseId
  won : (g j).won.filter (fun w => w.id = k) = [w]
  others : ∀ l, l ≠ j → ∀ w ∈ (g l).won, w.id ≠ k
  events : outbox.filter (·.concerns k) = [w.event]

/-- What a session knows of its open transaction. -/
structure OwnOk (row : String → EscalationRow) (i : ι) (γ : Work) (d : Desk ι) : Prop where
  inserted : d.inserted i = γ.emitted
  wins : ∀ w ∈ γ.wins, w.id ∈ d.escalations.keys ∧ w.purchaseId = (row w.id).purchaseId ∧
    (d.escalations.cell w.id).held = some (i, w.row (row w.id))
  nodup : (γ.wins.map (·.id)).Nodup
  held : ∀ k v, (d.escalations.cell k).held = some (i, v) → ∃ w ∈ γ.wins, w.id = k

/-- **The invariant** of the escalations, the outbox and the sessions. -/
structure DeskInv (keys : List String) (row : String → EscalationRow) (g : ι → Work)
    (d : Desk ι) : Prop where
  known : d.escalations.keys = keys
  nodup : keys.Nodup
  rows : ∀ k ∈ keys, Untouched (row k) g k d.outbox (d.escalations.cell k) ∨
    ∃ j w, Left (row k) g k d.outbox (d.escalations.cell k) j w
  own : ∀ i, OwnOk row i (g i) d

theorem row_status (w : Win) (r : EscalationRow) : (w.row r).status ≠ .pending := by
  unfold Win.row
  cases w.cause with
  | none => exact fun h => by cases h
  | some x => exact fun h => by cases h

/-- The event of a win is about its escalation, and about no other. -/
theorem concerns_event (w : Win) (k : String) : w.event.concerns k = decide (w.id = k) := by
  unfold Win.event
  cases w.cause with
  | none => rfl
  | some x =>
    dsimp only
    split_ifs <;> rfl

variable [DecidableEq ι] {keys : List String} {row : String → EscalationRow} {g : ι → Work}
  {d d' : Desk ι} {i : ι} {γ : Work}

/-- Wins for good that stay the same. -/
theorem won_update (h : γ.won = (g i).won) (j : ι) :
    (Function.update g i γ j).won = (g j).won := by
  by_cases hj : j = i
  · subst hj
    rw [Function.update_self, h]
  · rw [Function.update_of_ne hj]

omit [DecidableEq ι] in
theorem Untouched.congr {r : EscalationRow} {g' : ι → Work} {k : String}
    {outbox : List OutboxEvent} {c c' : Cell ι EscalationRow} (h : Untouched r g k outbox c)
    (hwon : ∀ j, (g' j).won = (g j).won) (hrow : c'.row = c.row)
    (hheld : c'.held.isSome → r.status = .pending) : Untouched r g' k outbox c' := by
  refine ⟨hrow.trans h.row, fun j => ?_, h.events, fun v hv => hheld ?_⟩
  · rw [hwon]
    exact h.won j
  · rw [hv]
    rfl

omit [DecidableEq ι] in
theorem Left.congr {r : EscalationRow} {g' : ι → Work} {k : String} {outbox : List OutboxEvent}
    {c : Cell ι EscalationRow} {j : ι} {w : Win} (h : Left r g k outbox c j w)
    (hwon : ∀ j, (g' j).won = (g j).won) : Left r g' k outbox c j w := by
  refine ⟨h.pending, h.row, h.held, h.purchase, ?_, fun l hl => ?_, h.events⟩
  · rw [hwon]
    exact h.won
  · rw [hwon]
    exact h.others l hl

/-- The rows, where nothing was won for good. -/
theorem DeskInv.rows_update (hinv : DeskInv keys row g d) (hwon : γ.won = (g i).won) {k : String}
    (hk : k ∈ keys) :
    Untouched (row k) (Function.update g i γ) k d.outbox (d.escalations.cell k) ∨
      ∃ j w, Left (row k) (Function.update g i γ) k d.outbox (d.escalations.cell k) j w := by
  rcases hinv.rows k hk with h | ⟨j, w, h⟩
  · refine .inl (h.congr (won_update hwon) rfl fun hsome => ?_)
    obtain ⟨v, hv⟩ := Option.isSome_iff_exists.1 hsome
    exact h.held v hv
  · exact .inr ⟨j, w, h.congr (won_update hwon)⟩

/-- A call that touches no row and no event. -/
theorem DeskInv.quiet (hinv : DeskInv keys row g d) (hwins : γ.wins = (g i).wins)
    (hemitted : γ.emitted = (g i).emitted) (hlog : γ.log = (g i).log) :
    DeskInv keys row (Function.update g i γ) d := by
  have hwon : γ.won = (g i).won := by rw [Work.won, Work.won, hlog]
  refine ⟨hinv.known, hinv.nodup, fun k hk => hinv.rows_update hwon hk, fun j => ?_⟩
  · by_cases hj : j = i
    · subst hj
      obtain ⟨h1, h2, h3, h4⟩ := hinv.own j
      rw [Function.update_self]
      exact ⟨by rw [h1, hemitted], by rwa [hwins], by rwa [hwins], by rwa [hwins]⟩
    · rw [Function.update_of_ne hj]
      exact hinv.own j

/-- An event is inserted. -/
theorem DeskInv.emit (hinv : DeskInv keys row g d) (event : OutboxEvent)
    (hwins : γ.wins = (g i).wins) (hemitted : γ.emitted = (g i).emitted ++ [event])
    (hlog : γ.log = (g i).log) : DeskInv keys row (Function.update g i γ)
      { d with inserted := Function.update d.inserted i (d.inserted i ++ [event]) } := by
  have hwon : γ.won = (g i).won := by rw [Work.won, Work.won, hlog]
  refine ⟨hinv.known, hinv.nodup, fun k hk => hinv.rows_update hwon hk, fun j => ?_⟩
  · by_cases hj : j = i
    · subst hj
      obtain ⟨h1, h2, h3, h4⟩ := hinv.own j
      rw [Function.update_self]
      refine ⟨?_, by rwa [hwins], by rwa [hwins], by rwa [hwins]⟩
      show Function.update d.inserted j _ j = _
      rw [Function.update_self, h1, hemitted]
    · rw [Function.update_of_ne hj]
      obtain ⟨h1, h2, h3, h4⟩ := hinv.own j
      refine ⟨?_, h2, h3, h4⟩
      show Function.update d.inserted i _ j = _
      rw [Function.update_of_ne hj]
      exact h1

/-- **A pending row that may be written** is one that nobody has won and nobody holds. -/
theorem DeskInv.pending (hinv : DeskInv keys row g d) {k : String} (hk : k ∈ keys)
    (hfree : (d.escalations.cell k).Free i)
    (hpending : ((d.escalations.cell k).seen i).status = .pending) :
    Untouched (row k) g k d.outbox (d.escalations.cell k) ∧
      (d.escalations.cell k).held = none ∧ (d.escalations.cell k).seen i = row k := by
  have hnone : (d.escalations.cell k).held = none := by
    cases hheld : (d.escalations.cell k).held with
    | none => rfl
    | some v =>
      obtain ⟨j, v⟩ := v
      obtain rfl : j = i := hfree (j, v) hheld
      obtain ⟨w, hw, rfl⟩ := (hinv.own j).held k v hheld
      have hrow := ((hinv.own j).wins w hw).2.2
      rw [Cell.seen_of_held hrow] at hpending
      exact absurd hpending (row_status w _)
  rw [Cell.seen_of_none hnone] at hpending ⊢
  rcases hinv.rows k hk with h | ⟨j, w, h⟩
  · exact ⟨h, hnone, h.row⟩
  · rw [h.row] at hpending
    exact absurd hpending (row_status w _)

/-- **Pending rows are taken**, for one cause. -/
theorem DeskInv.take (hinv : DeskInv keys row g d) (cause : Option Resolution)
    {ks : List String} (hnodup : ks.Nodup)
    (hks : ∀ k ∈ ks, k ∈ keys ∧ (d.escalations.cell k).Free i ∧
      ((d.escalations.cell k).seen i).status = .pending)
    {f : String → EscalationRow → EscalationRow}
    (hf : ∀ k r, f k r = (Win.mk k r.purchaseId cause).row r)
    (hwins : γ.wins = (g i).wins ++ ks.map fun k => ⟨k, (row k).purchaseId, cause⟩)
    (hemitted : γ.emitted = (g i).emitted) (hlog : γ.log = (g i).log) :
    DeskInv keys row (Function.update g i γ)
      { d with escalations := d.escalations.rewrite i ks f } := by
  have hwon : γ.won = (g i).won := by rw [Work.won, Work.won, hlog]
  have hopen : ∀ k ∈ ks, Untouched (row k) g k d.outbox (d.escalations.cell k) ∧
      (d.escalations.cell k).held = none ∧ (d.escalations.cell k).seen i = row k := fun k hk =>
    hinv.pending (hks k hk).1 (hks k hk).2.1 (hks k hk).2.2
  have hseen : ∀ k ∈ ks, (d.escalations.cell k).seen i = row k := fun k hk => (hopen k hk).2.2
  refine ⟨hinv.known, hinv.nodup, fun k hk => ?_, fun j => ?_⟩
  · by_cases hmem : k ∈ ks
    · rw [Table.cell_rewrite_mem hmem]
      refine .inl ((hopen k hmem).1.congr (won_update hwon) rfl fun _ => ?_)
      rw [← hseen k hmem]
      exact (hks k hmem).2.2
    · rw [Table.cell_rewrite_not hmem]
      exact hinv.rows_update hwon hk
  · by_cases hj : j = i
    · subst hj
      obtain ⟨h1, h2, h3, h4⟩ := hinv.own j
      have hapart : ∀ w ∈ (g j).wins, w.id ∉ ks := by
        intro w hw hmem
        have hheld := (h2 w hw).2.2
        rw [(hopen _ hmem).2.1] at hheld
        cases hheld
      rw [Function.update_self]
      refine ⟨by rw [h1, hemitted], fun w hw => ?_, ?_, fun k v hv => ?_⟩
      · rw [hwins] at hw
        rcases List.mem_append.1 hw with hold | hnew
        · rw [Table.cell_rewrite_not (hapart w hold)]
          exact h2 w hold
        · obtain ⟨k, hk, rfl⟩ := List.mem_map.1 hnew
          refine ⟨?_, rfl, ?_⟩
          · show k ∈ d.escalations.keys
            rw [hinv.known]
            exact (hks k hk).1
          · rw [Table.cell_rewrite_mem hk, Cell.held_write, hf, hseen k hk]
      · rw [hwins, List.map_append, List.nodup_append]
        have hids : (ks.map fun k => Win.mk k (row k).purchaseId cause).map (·.id) = ks := by
          rw [List.map_map]
          exact List.map_id ks
        rw [hids]
        refine ⟨h3, hnodup, fun a ha b hb => ?_⟩
        obtain ⟨w, hw, rfl⟩ := List.mem_map.1 ha
        rintro rfl
        exact hapart w hw hb
      · by_cases hmem : k ∈ ks
        · refine ⟨⟨k, (row k).purchaseId, cause⟩, ?_, rfl⟩
          rw [hwins]
          exact List.mem_append_right _ (List.mem_map_of_mem hmem)
        · rw [Table.cell_rewrite_not hmem] at hv
          obtain ⟨w, hw, hid⟩ := h4 k v hv
          refine ⟨w, ?_, hid⟩
          rw [hwins]
          exact List.mem_append_left _ hw
    · rw [Function.update_of_ne hj]
      obtain ⟨h1, h2, h3, h4⟩ := hinv.own j
      refine ⟨h1, fun w hw => ?_, h3, fun k v hv => ?_⟩
      · have hmem : w.id ∉ ks := by
          intro hmem
          have hheld := (h2 w hw).2.2
          rw [(hopen _ hmem).2.1] at hheld
          cases hheld
        rw [Table.cell_rewrite_not hmem]
        exact h2 w hw
      · by_cases hmem : k ∈ ks
        · rw [Table.cell_rewrite_mem hmem] at hv
          cases hv
          exact absurd rfl hj
        · rw [Table.cell_rewrite_not hmem] at hv
          exact h4 k v hv

omit [DecidableEq ι] in
/-- The sessions that do not end. -/
theorem OwnOk.others {j : ι} {γ : Work} (h : OwnOk row j γ d)
    (hkeys : d'.escalations.keys = d.escalations.keys) (hinserted : d'.inserted j = d.inserted j)
    (hheld : ∀ k v, (d'.escalations.cell k).held = some (j, v) ↔
      (d.escalations.cell k).held = some (j, v)) : OwnOk row j γ d' := by
  obtain ⟨h1, h2, h3, h4⟩ := h
  refine ⟨by rw [hinserted, h1], fun w hw => ?_, h3, fun k v hv => h4 k v ((hheld k v).1 hv)⟩
  obtain ⟨hkey, hpurchase, hrow⟩ := h2 w hw
  exact ⟨by rwa [hkeys], hpurchase, (hheld _ _).2 hrow⟩

omit [DecidableEq ι] in
theorem Untouched.filter {r : EscalationRow} {k : String} {outbox : List OutboxEvent}
    {c : Cell ι EscalationRow} (h : Untouched r g k outbox c) :
    outbox.filter (·.concerns k) = [] := by
  rw [List.filter_eq_nil_iff]
  intro x hx
  rw [h.events x hx]
  exact Bool.false_ne_true

/-- The win of an escalation is the only one. -/
theorem filter_wins {ws : List Win} (h : (ws.map (·.id)).Nodup) {w : Win} (hw : w ∈ ws) :
    ws.filter (fun x => x.id = w.id) = [w] := by
  induction ws with
  | nil => cases hw
  | cons a ws ih =>
    rw [List.map_cons, List.nodup_cons] at h
    rcases List.mem_cons.1 hw with rfl | hmem
    · rw [List.filter_cons_of_pos (by simp), List.filter_eq_nil_iff.2]
      intro b hb
      have hne : b.id ≠ w.id := fun heq => h.1 (List.mem_map.2 ⟨b, hb, heq⟩)
      simpa using hne
    · have hne : a.id ≠ w.id := fun heq => h.1 (List.mem_map.2 ⟨w, hmem, heq.symm⟩)
      rw [List.filter_cons_of_neg (by simpa using hne)]
      exact ih h.2 hmem

theorem filter_events (ws : List Win) (k : String) :
    (ws.map Win.event).filter (·.concerns k) = (ws.filter fun w => w.id = k).map Win.event := by
  rw [List.filter_map]
  congr 2
  funext w
  exact concerns_event w k

/-- **A commit**: what was taken is won for good, with its events. -/
theorem DeskInv.commit (hinv : DeskInv keys row g d)
    (hemitted : (g i).emitted = (g i).wins.map Win.event) {b : Bool}
    (hγ : γ = { log := (g i).log ++ [⟨(g i).wins, b⟩] }) :
    DeskInv keys row (Function.update g i γ)
      { escalations := d.escalations.commit i, outbox := d.outbox ++ d.inserted i
        inserted := Function.update d.inserted i [] } := by
  have hown := hinv.own i
  have hwon : (Function.update g i γ i).won = (g i).won ++ (g i).wins := by
    rw [Function.update_self, hγ, Work.won, Work.won, List.flatMap_append]
    simp
  have hsame : ∀ j, j ≠ i → (Function.update g i γ j).won = (g j).won := by
    intro j hj
    rw [Function.update_of_ne hj]
  have hevents : ∀ k, (d.outbox ++ d.inserted i).filter (·.concerns k) =
      d.outbox.filter (·.concerns k) ++ ((g i).wins.filter fun w => w.id = k).map Win.event := by
    intro k
    rw [List.filter_append, hown.inserted, hemitted, filter_events]
  refine ⟨hinv.known, hinv.nodup, fun k hk => ?_, fun j => ?_⟩
  · rw [Table.cell_commit]
    by_cases hwin : ∃ w ∈ (g i).wins, w.id = k
    · obtain ⟨w, hw, rfl⟩ := hwin
      obtain ⟨-, hpurchase, hheld⟩ := hown.wins w hw
      have huntouched : Untouched (row w.id) g w.id d.outbox (d.escalations.cell w.id) := by
        rcases hinv.rows w.id hk with h | ⟨j, w', h⟩
        · exact h
        · rw [h.held] at hheld
          cases hheld
      have hnone : (g i).won.filter (fun x => x.id = w.id) = [] := by
        rw [List.filter_eq_nil_iff]
        intro x hx
        simpa using huntouched.won i x hx
      refine .inr ⟨i, w, huntouched.held _ hheld, ?_, ?_, hpurchase, ?_, fun l hl => ?_, ?_⟩
      · rw [Cell.commit_of_held hheld]
      · rw [Cell.commit_of_held hheld]
      · rw [hwon, List.filter_append, hnone, filter_wins hown.nodup hw]
        rfl
      · rw [hsame l hl]
        exact huntouched.won l
      · rw [hevents, huntouched.filter, filter_wins hown.nodup hw]
        rfl
    · have hnot : ∀ v, (d.escalations.cell k).held ≠ some (i, v) :=
        fun v hv => hwin (hown.held k v hv)
      have hnowin : ∀ w ∈ (g i).wins, w.id ≠ k := fun w hw h => hwin ⟨w, hw, h⟩
      have hempty : (g i).wins.filter (fun w => w.id = k) = [] := by
        rw [List.filter_eq_nil_iff]
        intro w hw
        simpa using hnowin w hw
      rw [Cell.commit_of_not hnot]
      rcases hinv.rows k hk with h | ⟨j, w, h⟩
      · refine .inl ⟨h.row, fun j w hw => ?_, ?_, h.held⟩
        · by_cases hj : j = i
          · subst hj
            rw [hwon] at hw
            exact (List.mem_append.1 hw).elim (h.won j w) (hnowin w)
          · rw [hsame j hj] at hw
            exact h.won j w hw
        · intro x hx
          have hfilter := hevents k
          rw [hempty, List.map_nil, List.append_nil, h.filter] at hfilter
          simpa using List.filter_eq_nil_iff.1 hfilter x hx
      · refine .inr ⟨j, w, h.pending, h.row, h.held, h.purchase, ?_, fun l hl x hx => ?_, ?_⟩
        · by_cases hj : j = i
          · subst hj
            rw [hwon, List.filter_append, hempty, List.append_nil]
            exact h.won
          · rw [hsame j hj]
            exact h.won
        · by_cases hli : l = i
          · subst hli
            rw [hwon] at hx
            exact (List.mem_append.1 hx).elim (h.others l hl x) (hnowin x)
          · rw [hsame l hli] at hx
            exact h.others l hl x hx
        · rw [hevents, hempty, List.map_nil, List.append_nil]
          exact h.events
  · by_cases hj : j = i
    · subst hj
      rw [Function.update_self, hγ]
      refine ⟨?_, fun w hw => ?_, List.nodup_nil, fun k v hv => ?_⟩
      · exact Function.update_self ..
      · cases hw
      · exact absurd hv Cell.not_held_commit
    · rw [Function.update_of_ne hj]
      refine (hinv.own j).others rfl ?_ fun k v => Cell.held_commit_iff hj
      exact Function.update_of_ne hj ..

/-- A rollback: what was taken is pending again. -/
theorem DeskInv.rollback (hinv : DeskInv keys row g d) {b : Bool}
    (hγ : γ = { log := (g i).log ++ [⟨[], b⟩] }) :
    DeskInv keys row (Function.update g i γ)
      { d with escalations := d.escalations.rollback i
               inserted := Function.update d.inserted i [] } := by
  have hwon : γ.won = (g i).won := by
    rw [hγ, Work.won, Work.won, List.flatMap_append]
    simp
  refine ⟨hinv.known, hinv.nodup, fun k hk => ?_, fun j => ?_⟩
  · rw [Table.cell_rollback]
    rcases hinv.rows_update hwon hk with h | ⟨j, w, h⟩
    · refine .inl (h.congr (fun _ => rfl) Cell.row_rollback fun hsome => ?_)
      rcases (d.escalations.cell k).held_or_not i with ⟨v, hv⟩ | hnot
      · exact h.held _ hv
      · rw [Cell.rollback_of_not hnot] at hsome
        obtain ⟨v, hv⟩ := Option.isSome_iff_exists.1 hsome
        exact h.held v hv
    · refine .inr ⟨j, w, ?_⟩
      rw [Cell.rollback_of_not fun v hv => ?_]
      · exact h
      · rw [h.held] at hv
        cases hv
  · by_cases hj : j = i
    · subst hj
      rw [Function.update_self, hγ]
      refine ⟨?_, fun w hw => ?_, List.nodup_nil, fun k v hv => ?_⟩
      · exact Function.update_self ..
      · cases hw
      · exact absurd hv Cell.not_held_rollback
    · rw [Function.update_of_ne hj]
      refine (hinv.own j).others rfl ?_ fun k v => Cell.held_rollback_iff hj
      exact Function.update_of_ne hj ..

end Invariant

/-! ## Calls -/

section Calls

variable {ι : Type} [DecidableEq ι]

/-- The invariant; no statement waits for a lock. -/
def deskSpec (ι : Type) [DecidableEq ι] (keys : List String) (row : String → EscalationRow) :
    Spec ι (Call ι) Res Err (Desk ι) Work where
  inv := DeskInv keys row
  ok _ d _ op := Granted d op
  prop _ _ _ _ _ _ := True

/-- How a part of a call ends, with nothing added to the log. -/
def EndsWith {α : Type} (log : List Ended) (φ : α → Work → Prop) (ψ : Err → Bool → Prop) :
    Except Err α → Work → Prop
  | .ok a, γ => γ.log = log ∧ φ a γ
  | .error x, γ => γ.log = log ∧ ψ x γ.raised

variable {keys : List String} {row : String → EscalationRow} {i : ι} {γ : Work}
  {ψ : Err → Bool → Prop} {log : List Ended}

theorem bind_outline {α β : Type} {p : Tx ι α} {f : α → Tx ι β} {φ : α → Work → Prop}
    {χ : β → Work → Prop}
    (hp : Outline (deskSystem ι) (deskSpec ι keys row) i (EndsWith log φ ψ) p γ)
    (hf : ∀ a γ', γ'.log = log → φ a γ' →
      Outline (deskSystem ι) (deskSpec ι keys row) i (EndsWith log χ ψ) (f a) γ') :
    Outline (deskSystem ι) (deskSpec ι keys row) i (EndsWith log χ ψ) (p.bind f) γ :=
  outline_bind hp (fun a γ' h => hf a γ' h.1 h.2) fun _ _ h => h

/-- One statement of a call. -/
theorem call_outline {op : Call ι} {φ : Res op → Work → Prop} (hψ : ∀ x, ψ x true)
    (hends : op.ends = false) (hlog : ∀ a, (γ.next op a).log = γ.log)
    (h : ∀ g d e, g i = γ → DeskInv keys row g d → Granted d op →
      DeskInv keys row (Function.update g i (γ.next op (exec e op d).1)) (exec e op d).2 ∧
        φ (exec e op d).1 (γ.next op (exec e op d).1)) :
    Outline (deskSystem ι) (deskSpec ι keys row) i (EndsWith γ.log φ ψ) (call op) γ := by
  refine outline_perform_eq fun g d e hg hinv hok => ?_
  cases he : e.raises with
  | some x =>
    refine ⟨.error (.failure x), d, { γ with raised := true }, ?_, rfl, ?_, trivial, rfl, hψ _⟩
    · simp only [deskSystem, sem, he, hends]
    · subst hg
      exact hinv.quiet rfl rfl rfl
  | none =>
    obtain ⟨hinv', hφ⟩ := h g d e hg hinv hok
    refine ⟨.ok (exec e op d).1, (exec e op d).2, γ.next op (exec e op d).1, ?_, rfl, hinv',
      trivial, hlog _, hφ⟩
    simp only [deskSystem, sem, he]

/-- A statement that touches no row and no event. -/
theorem quiet_outline {op : Call ι} {φ : Res op → Prop} (hψ : ∀ x, ψ x true)
    (hends : op.ends = false) (hnext : ∀ a, γ.next op a = γ)
    (hexec : ∀ e d, (exec e op d).2 = d)
    (h : ∀ e (d : Desk ι), d.escalations.keys = keys → φ (exec e op d).1) :
    Outline (deskSystem ι) (deskSpec ι keys row) i
      (EndsWith γ.log (fun a γ' => φ a ∧ γ' = γ) ψ) (call op) γ := by
  refine call_outline hψ hends (fun a => by rw [hnext]) fun g d e hg hinv _ => ⟨?_, ?_, hnext _⟩
  · rw [hnext, hexec, ← hg, Function.update_eq_self]
    exact hinv
  · exact h e d hinv.known

/-- An event is inserted. -/
theorem emitEvent_outline (event : OutboxEvent) (hψ : ∀ x, ψ x true) :
    Outline (deskSystem ι) (deskSpec ι keys row) i
      (EndsWith γ.log (fun _ γ' => γ' = { γ with emitted := γ.emitted ++ [event] }) ψ)
      (call (.emitEvent i event)) γ := by
  refine call_outline hψ rfl (fun _ => rfl) fun g d e hg hinv _ => ⟨?_, rfl⟩
  subst hg
  exact hinv.emit event rfl rfl rfl

theorem emitExpired_outline (rows : List (String × String)) (hψ : ∀ x, ψ x true) :
    Outline (deskSystem ι) (deskSpec ι keys row) i
      (EndsWith γ.log (fun _ γ' => γ'.wins = γ.wins ∧
        γ'.emitted = γ.emitted ++ rows.map fun x => expiredEvent x.1 x.2) ψ)
      (emitExpired i rows) γ := by
  induction rows generalizing γ with
  | nil => exact ⟨rfl, rfl, by simp⟩
  | cons x rows ih =>
    rw [emitExpired]
    refine bind_outline (emitEvent_outline _ hψ) ?_
    rintro _ γ₁ hlog hγ₁
    rw [← hlog]
    refine outline_mono ?_ ih
    rintro (error | a) γ₂
    · exact id
    · rintro ⟨hlog₂, hwins, hemitted⟩
      refine ⟨hlog₂, ?_, ?_⟩
      · rw [hwins, hγ₁]
      · rw [hemitted, hγ₁, List.map_cons, List.append_assoc, List.singleton_append]

/-- **`expire_pending`** takes the overdue rows, each with its event. -/
theorem expirePending_outline (now : ℤ) (hψ : ∀ x, ψ x true) :
    Outline (deskSystem ι) (deskSpec ι keys row) i
      (EndsWith γ.log (fun ids γ' => ∃ ws : List Win, γ'.wins = γ.wins ++ ws ∧
        γ'.emitted = γ.emitted ++ ws.map Win.event ∧ (∀ w ∈ ws, w.cause = none) ∧
          ids = ws.map (·.id)) ψ) (expirePending i now) γ := by
  rw [expirePending]
  refine bind_outline (φ := fun (rows : List (String × String)) γ' =>
    γ'.wins = γ.wins ++ rows.map (fun x => ⟨x.1, x.2, none⟩) ∧ γ'.emitted = γ.emitted)
    (call_outline hψ rfl (fun _ => rfl) fun g d e hg hinv hgranted => ⟨?_, rfl, rfl⟩) ?_
  · subst hg
    have hks : ∀ k ∈ overdue i now d, k ∈ keys ∧ (d.escalations.cell k).Free i ∧
        ((d.escalations.cell k).seen i).status = .pending := by
      intro k hk
      obtain ⟨hkey, hp⟩ := Table.mem_matching.1 hk
      rw [Bool.and_eq_true] at hp
      rw [hinv.known] at hkey
      exact ⟨hkey, hgranted k hk, by simpa using hp.1⟩
    have hnodup : (overdue i now d).Nodup := by
      rw [overdue, Table.matching, hinv.known]
      exact hinv.nodup.filter _
    refine hinv.take none hnodup hks (fun _ _ => rfl) ?_ rfl rfl
    show (g i).wins ++ _ = _
    congr 1
    show List.map _ (List.map _ (overdue i now d)) = _
    rw [List.map_map]
    refine List.map_congr_left fun k hk => ?_
    show Win.mk k ((d.escalations.cell k).seen i).purchaseId none = _
    rw [(hinv.pending (hks k hk).1 (hks k hk).2.1 (hks k hk).2.2).2.2]
  rintro (rows : List (String × String)) γ₁ hlog ⟨hwins, hemitted⟩
  rw [← hlog]
  refine bind_outline (emitExpired_outline rows hψ) ?_
  rintro _ γ₂ hlog₂ ⟨hwins₂, hemitted₂⟩
  refine ⟨hlog₂, rows.map fun x => ⟨x.1, x.2, none⟩, ?_, ?_, fun w hw => ?_, ?_⟩
  · rw [hwins₂, hwins]
  · rw [hemitted₂, hemitted, List.map_map]
    rfl
  · obtain ⟨x, -, rfl⟩ := List.mem_map.1 hw
    rfl
  · rw [List.map_map]
    rfl

/-- The guarded update of `resolve` takes one row or none. -/
theorem updateResolved_outline (id : String) (now : ℤ) (x : Resolution) (hψ : ∀ x, ψ x true) :
    Outline (deskSystem ι) (deskSpec ι keys row) i
      (EndsWith γ.log (fun (a : Option EscalationRow) γ' => γ'.emitted = γ.emitted ∧
        γ'.wins = γ.wins ++ a.toList.map fun r => ⟨id, r.purchaseId, some x⟩) ψ)
      (call (.updateResolved i id now x)) γ := by
  refine call_outline hψ rfl (fun _ => rfl) fun g d e hg hinv hgranted => ⟨?_, rfl, rfl⟩
  subst hg
  have hks : ∀ k ∈ answerable i id now d, k = id ∧ k ∈ keys ∧ (d.escalations.cell k).Free i ∧
      ((d.escalations.cell k).seen i).status = .pending := by
    intro k hk
    obtain ⟨hkey, hp⟩ := Table.mem_matching.1 hk
    simp only [Bool.and_eq_true, decide_eq_true_eq] at hp
    rw [hinv.known] at hkey
    exact ⟨hp.1.1, hkey, hgranted k hk, hp.1.2⟩
  have hnodup : (answerable i id now d).Nodup := by
    rw [answerable, Table.matching, hinv.known]
    exact hinv.nodup.filter _
  refine hinv.take (some x) hnodup (fun k hk => (hks k hk).2) (fun _ _ => rfl) ?_ rfl rfl
  show (g i).wins ++ _ = _
  congr 1
  show List.map _ ((answerable i id now d).head?.map fun k =>
    ((d.escalations.cell k).seen i).resolve x).toList = _
  cases hcase : answerable i id now d with
  | nil => rfl
  | cons k ks =>
    have hk : k ∈ answerable i id now d := by rw [hcase]; exact List.mem_cons_self
    have hnil : ks = [] := by
      rw [hcase, List.nodup_cons] at hnodup
      refine List.eq_nil_iff_forall_not_mem.2 fun l hl => ?_
      have hlmem : l ∈ answerable i id now d := by rw [hcase]; exact List.mem_cons_of_mem _ hl
      rw [(hks k hk).1, ← (hks l hlmem).1] at hnodup
      exact hnodup.1 hl
    rw [hnil, ← (hks k hk).1]
    show [Win.mk k ((d.escalations.cell k).seen i).purchaseId (some x)] = _
    rw [(hinv.pending (hks k hk).2.1 (hks k hk).2.2.1 (hks k hk).2.2.2).2.2]
    rfl

/-- The outcomes of a call of `resolve` that loses: a conflict, or an unknown escalation. -/
def LostResolve (keys : List String) (r : ResolveRequest) (x : Err) : Prop :=
  (∃ message reason, x = .conflict message reason) ∨
    (x = .notFound r.escalationId ∧ r.escalationId ∉ keys)

/-- What a call of `resolve` that returns has won: sweeps, and then its escalation. -/
def WonResolve (r : ResolveRequest) (row : EscalationRow) (kept : List Win) : Prop :=
  ∃ ws receiptSig, (∀ w ∈ ws, w.cause = none) ∧ kept = ws ++ [⟨r.escalationId, row.purchaseId,
    some ⟨r.decision, r.approver, r.channel, receiptSig⟩⟩]

/-- Whose guarded update finds nothing raises a conflict. -/
theorem explain_outline (id : String) (hψ : ∀ x, ψ x true)
    (hlost : ∀ message reason, ψ (.conflict message reason) γ.raised)
    {φ : EscalationRow → Work → Prop} :
    Outline (deskSystem ι) (deskSpec ι keys row) i (EndsWith γ.log φ ψ) (explain i id) γ := by
  rw [explain]
  refine bind_outline (quiet_outline (φ := fun _ => True) hψ rfl (fun _ => rfl) (fun _ _ => rfl)
    fun _ _ _ => trivial) ?_
  rintro current γ₁ hlog ⟨-, rfl⟩
  split
  · exact ⟨rfl, hlost _ _⟩
  · exact ⟨rfl, hlost _ _⟩

/-- The event of an answer is the event of its win. -/
theorem answerEvent_eq (r : ResolveRequest) (resolved : EscalationRow) (receiptSig : String) :
    answerEvent r resolved receiptSig = Win.event ⟨r.escalationId, resolved.purchaseId,
      some ⟨r.decision, r.approver, r.channel, receiptSig⟩⟩ := rfl

theorem resolvePending_outline (isoformat : ℤ → String) (r : ResolveRequest)
    (hψ : ∀ x, ψ x true) (hlost : ∀ message reason b, ψ (.conflict message reason) b)
    (hemitted : γ.emitted = γ.wins.map Win.event) (hcause : ∀ w ∈ γ.wins, w.cause = none) :
    Outline (deskSystem ι) (deskSpec ι keys row) i
      (EndsWith γ.log (fun resolved γ' => WonResolve r resolved γ'.wins ∧
        γ'.emitted = γ'.wins.map Win.event) ψ) (resolvePending isoformat i r) γ := by
  rw [resolvePending]
  refine bind_outline (quiet_outline (φ := fun _ => True) hψ rfl (fun _ => rfl) (fun _ _ => rfl)
    fun _ _ _ => trivial) ?_
  rintro (receiptSig : String) γ₁ - ⟨-, rfl⟩
  refine bind_outline (updateResolved_outline _ _ _ hψ) ?_
  rintro (resolved : Option EscalationRow) γ₂ hlog ⟨hemitted₂, hwins₂⟩
  rw [← hlog]
  cases resolved with
  | none => exact explain_outline _ hψ fun _ _ => hlost _ _ _
  | some resolved =>
    refine bind_outline (emitEvent_outline _ hψ) ?_
    rintro _ γ₃ hlog₃ hγ₃
    refine ⟨hlog₃, ⟨γ₁.wins, receiptSig, hcause, ?_⟩, ?_⟩
    · rw [hγ₃, hwins₂]
      rfl
    · rw [hγ₃, hwins₂, hemitted₂, hemitted, List.map_append, answerEvent_eq]
      rfl

/-- **`resolve`**: it wins its escalation, or loses without a trace of its own. -/
theorem resolve_outline (isoformat : ℤ → String) (r : ResolveRequest) (hψ : ∀ x, ψ x true)
    (hlost : ∀ x b, LostResolve keys r x → ψ x b) (hwins : γ.wins = []) (hemitted : γ.emitted = []) :
    Outline (deskSystem ι) (deskSpec ι keys row) i
      (EndsWith γ.log (fun resolved γ' => WonResolve r resolved γ'.wins ∧
        γ'.emitted = γ'.wins.map Win.event) ψ) (resolve isoformat i r) γ := by
  have hconflict : ∀ message reason b, ψ (.conflict message reason) b := fun message reason b =>
    hlost _ b (.inl ⟨message, reason, rfl⟩)
  rw [resolve]
  cases r.sticky with
  | true => exact ⟨rfl, hconflict _ _ _⟩
  | false =>
    refine bind_outline (expirePending_outline r.now hψ) ?_
    rintro _ γ₁ hlog ⟨ws, hwins₁, hemitted₁, hcause, -⟩
    rw [hwins, List.nil_append] at hwins₁
    rw [hemitted, List.nil_append] at hemitted₁
    rw [← hlog]
    refine bind_outline (quiet_outline (φ := fun a : Option EscalationRow =>
      a = none → r.escalationId ∉ keys) hψ rfl (fun _ => rfl) (fun _ _ => rfl) ?_) ?_
    · intro e d hkeys
      rw [← hkeys]
      show (if r.escalationId ∈ d.escalations.keys then _ else none) = none → _
      split_ifs with hmem
      · intro h
        cases h
      · exact fun _ => hmem
    rintro (found : Option EscalationRow) γ₂ - ⟨hknown, rfl⟩
    cases found with
    | none => exact ⟨rfl, hlost _ _ (.inr ⟨rfl, hknown rfl⟩)⟩
    | some found =>
      dsimp only
      cases found.status with
      | expired => exact ⟨rfl, hconflict _ _ _⟩
      | resolved => exact ⟨rfl, hconflict _ _ _⟩
      | pending =>
        refine resolvePending_outline isoformat r hψ hconflict ?_ ?_
        · rw [hemitted₁, hwins₁]
        · rw [hwins₁]
          exact hcause

/-! ## Transactions -/

/-- What a call that returns has won. -/
def Done : Request → Reply → List Win → Prop
  | .resolve r, .resolved row, kept => WonResolve r row kept
  | .expirePending _, .expired ids, kept => ids = kept.map (·.id) ∧ ∀ w ∈ kept, w.cause = none
  | _, _, _ => False

/-- How a call loses when no statement of it raises. -/
def Lost (keys : List String) : Request → Err → Prop
  | .resolve r, x => LostResolve keys r x
  | .expirePending _, _ => False

/-- **How a call has ended**: it returned what it won, or raised and kept nothing. -/
def CallOk (keys : List String) (r : Request) (e : Ended) : Except Err Reply → Prop
  | .ok reply => Done r reply e.kept
  | .error x => e.kept = [] ∧ (e.raised = false → Lost keys r x)

theorem body_outline (isoformat : ℤ → String) (r : Request) (hwins : γ.wins = [])
    (hemitted : γ.emitted = []) :
    Outline (deskSystem ι) (deskSpec ι keys row) i
      (EndsWith γ.log (fun reply γ' => Done r reply γ'.wins ∧ γ'.emitted = γ'.wins.map Win.event)
        fun x raised => raised = false → Lost keys r x) (body isoformat i r) γ := by
  cases r with
  | resolve r =>
    refine bind_outline (resolve_outline isoformat r (fun _ h => by cases h) (fun _ _ h _ => h)
      hwins hemitted) ?_
    exact fun resolved γ' hlog h => ⟨hlog, h⟩
  | expirePending now =>
    refine bind_outline (expirePending_outline now fun _ h => by cases h) ?_
    rintro ids γ' hlog ⟨ws, hwins', hemitted', hcause, hids⟩
    rw [hwins, List.nil_append] at hwins'
    rw [hemitted, List.nil_append] at hemitted'
    refine ⟨hlog, ⟨?_, ?_⟩, ?_⟩
    · rw [hwins']
      exact hids
    · rw [hwins']
      exact hcause
    · rw [hwins']
      exact hemitted'

/-- A session between two calls. -/
structure Between (γ : Work) : Prop where
  wins : γ.wins = []
  emitted : γ.emitted = []
  raised : γ.raised = false

/-- How the `try` of a call ends, after the log of before. -/
def Tried (keys : List String) (log : List Ended) (r : Request) : Except Err Reply → Work → Prop
  | .ok reply, γ => Between γ ∧ ∃ e, γ.log = log ++ [e] ∧ Done r reply e.kept
  | .error x, γ => γ.log = log ∧ (γ.raised = false → Lost keys r x)

/-- A commit of what was taken, with its events. -/
theorem commit_outline {r : Request} {reply : Reply} (hlog : γ.log = log)
    (hdone : Done r reply γ.wins) (hemitted : γ.emitted = γ.wins.map Win.event) :
    Outline (deskSystem ι) (deskSpec ι keys row) i (Tried keys log r)
      ((call (.commit i)).bind fun _ => pure reply) γ := by
  refine outline_bind (Q := fun (x : Except Err Unit) γ' =>
    Tried keys log r (x.map fun _ => reply) γ') (outline_perform_eq fun g d e hg hinv _ => ?_)
    (fun _ _ h => h) fun _ _ h => h
  subst hg
  cases he : e.raises with
  | some x =>
    refine ⟨.error (.failure x), d, { g i with raised := true }, ?_, rfl, ?_, trivial, hlog,
      fun h => by cases h⟩
    · simp only [deskSystem, sem, he, Call.ends]
    · exact hinv.quiet rfl rfl rfl
  | none =>
    refine ⟨.ok (), (exec e (.commit i) d).2, { log := (g i).log ++ [⟨(g i).wins, (g i).raised⟩] },
      ?_, rfl, ?_, trivial, ⟨rfl, rfl, rfl⟩, ⟨(g i).wins, (g i).raised⟩, ?_, hdone⟩
    · simp only [deskSystem, sem, he]
      rfl
    · exact hinv.commit hemitted rfl
    · rw [hlog]

/-- **A call** ends as its wins say. -/
theorem answer_outline (isoformat : ℤ → String) (r : Request) (hγ : Between γ) :
    Outline (deskSystem ι) (deskSpec ι keys row) i
      (fun x γ' => Between γ' ∧ ∃ e, γ'.log = γ.log ++ [e] ∧ CallOk keys r e x)
      (answer isoformat i r) γ := by
  have htry : Outline (deskSystem ι) (deskSpec ι keys row) i (Tried keys γ.log r)
      ((body isoformat i r).bind fun reply => (call (.commit i)).bind fun _ => pure reply) γ := by
    refine outline_bind (body_outline isoformat r hγ.wins hγ.emitted) ?_ fun _ _ h => h
    rintro reply γ₁ ⟨hlog, hdone, hemitted⟩
    exact commit_outline hlog hdone hemitted
  rw [answer]
  refine outline_bind (outline_attempt htry) ?_ fun x γ' h => ?_
  · rintro done γ₁ ⟨x, hx, htried⟩
    obtain rfl : done = x := Except.ok.inj hx
    cases done with
    | ok reply =>
      obtain ⟨hbetween, e, hlog, hdone⟩ := htried
      exact ⟨hbetween, e, hlog, hdone⟩
    | error x =>
      obtain ⟨hlog, hlost⟩ := htried
      refine outline_bind (Q := fun (x : Except Err Unit) γ' => x = .ok () ∧ Between γ' ∧
        γ'.log = γ.log ++ [⟨[], γ₁.raised⟩]) (outline_perform_eq fun g d e hg hinv _ => ?_)
        (fun _ γ' h => ⟨h.2.1, _, h.2.2, rfl, hlost⟩) fun _ γ' h => ?_
      · subst hg
        refine ⟨.ok (), (exec e (.rollback i) d).2, { log := (g i).log ++ [⟨[], (g i).raised⟩] },
          ?_, rfl, ?_, trivial, rfl, ⟨rfl, rfl, rfl⟩, ?_⟩
        · cases he : e.raises with
          | none =>
            simp only [deskSystem, sem, he]
            rfl
          | some x =>
            simp only [deskSystem, sem, he, Call.ends]
            rfl
        · exact hinv.rollback rfl
        · rw [hlog]
      · cases h.1
  · obtain ⟨y, hy, -⟩ := h
    cases hy

/-- The calls of a session. -/
theorem answers_outline (isoformat : ℤ → String) (requests : List Request) (hγ : Between γ) :
    Outline (deskSystem ι) (deskSpec ι keys row) i
      (onOk fun xs γ' => xs.map Prod.fst = requests ∧ ∃ es, γ'.log = γ.log ++ es ∧
        List.Forall₂ (fun x e => CallOk keys x.1 e x.2) xs es)
      (answers isoformat i requests) γ := by
  induction requests generalizing γ with
  | nil => exact ⟨rfl, [], by simp, List.Forall₂.nil⟩
  | cons r requests ih =>
    rw [answers]
    refine outline_bind (outline_attempt (answer_outline isoformat r hγ)) ?_ fun _ _ _ => trivial
    rintro x γ₁ ⟨y, hy, hbetween, e, hlog, hcall⟩
    obtain rfl : x = y := Except.ok.inj hy
    refine outline_bind_ok (ih hbetween) ?_
    rintro xs γ₂ ⟨hxs, es, hlog₂, hall⟩
    refine ⟨?_, e :: es, ?_, List.Forall₂.cons hcall hall⟩
    · rw [List.map_cons, hxs]
    · rw [hlog₂, hlog, List.append_assoc, List.singleton_append]

/-! ## Runs -/

/-- **What a run of the sessions comes to**: an escalation is as it was, and has no event, or it
left pending once, as its winner wrote it and with its one event; each call returned what it won,
or raised and kept nothing. -/
structure Exclusive (keys : List String) (row : String → EscalationRow)
    (requests : ι → List Request) (c : Sessions ι) : Prop where
  rows : ∀ k ∈ keys,
    Untouched (row k) c.hist k c.shared.outbox (c.shared.escalations.cell k) ∨
      ∃ j w, Left (row k) c.hist k c.shared.outbox (c.shared.escalations.cell k) j w
  calls : ∀ i xs, c.prog i = .ret xs → xs.map Prod.fst = requests i ∧
    List.Forall₂ (fun x e => CallOk keys x.1 e x.2) xs (c.hist i).log

theorem deskStart_outlined (isoformat : ℤ → String) (hkeys : keys.Nodup)
    (row : String → EscalationRow) (requests : ι → List Request) :
    Outlined (deskSystem ι) (deskSpec ι keys row)
      (fun i => onOk fun xs γ' => xs.map Prod.fst = requests i ∧ ∃ es, γ'.log = ({} : Work).log ++ es ∧
        List.Forall₂ (fun x e => CallOk keys x.1 e x.2) xs es)
      (deskStart isoformat keys row requests) := by
  refine ⟨⟨rfl, hkeys, fun k _ => .inl ⟨rfl, fun j w hw => ?_, fun e he => ?_, fun h hh => ?_⟩,
    fun i => ⟨rfl, fun w hw => ?_, List.nodup_nil, fun k v hv => ?_⟩⟩,
    fun i => answers_outline isoformat (requests i) ⟨rfl, rfl, rfl⟩⟩
  · cases hw
  · cases he
  · cases hh
  · cases hw
  · cases hv

/-- **Any number of calls on any set of escalations**, in every interleaving. -/
theorem escalations_exclusive (isoformat : ℤ → String) {keys : List String} (hkeys : keys.Nodup)
    (row : String → EscalationRow) (requests : ι → List Request) (xs : List (ι × Env))
    (hruns : (deskSystem ι).Along Runs (deskStart isoformat keys row requests) xs) :
    Exclusive keys row requests
      ((deskSystem ι).run (deskStart isoformat keys row requests) xs) := by
  obtain ⟨-, hinv, houtline⟩ := outline_run (deskStart_outlined isoformat hkeys row requests) hruns
  refine ⟨hinv.rows, fun i ys hys => ?_⟩
  have hend := houtline i
  rw [hys] at hend
  obtain ⟨hrequests, es, hlog, hall⟩ := hend
  rw [hlog]
  exact ⟨hrequests, hall⟩

/-- An approval in time, and a sweep after it that finds nothing left. -/
theorem escalations_exclusive_approved :
    Exclusive ["esc_1"] (fun _ => ⟨"pur_1", "mdt_1", .pending, 100, none, none, none, none⟩)
      (fun session => if session then [.resolve ⟨"esc_1", "APPROVE", "user", "web", false, 90000000⟩]
        else [.expirePending 200000000])
      ((deskSystem Bool).run
        (deskStart (fun _ => "") ["esc_1"]
          (fun _ => ⟨"pur_1", "mdt_1", .pending, 100, none, none, none, none⟩) fun session =>
            if session then [.resolve ⟨"esc_1", "APPROVE", "user", "web", false, 90000000⟩]
            else [.expirePending 200000000])
        [(true, {}), (true, {}), (true, { signature := "sig" }), (true, {}), (true, {}), (true, {}),
          (false, {}), (false, {})]) :=
  escalations_exclusive _ (by decide) _ _ _ (by decide +kernel)

end Calls

end TryTrust.Api.Escalations
