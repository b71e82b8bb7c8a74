import TryTrust.Conc.Pool
import TryTrust.Audit.Hashing

/-!
# The shared audit tables

`audit_events` and `chains`, and the two programs that append to them: the API ledger under one
fixed chain key, the agent lane under the key of a mandate or of an agent. A statement is one
call; what a transaction writes is its own until it commits, and a number that an insert drew from
the shared sequence stays drawn.

* `AuditRow`, `ChainRow`, `Txn`, `Shared`; `Call`, `exec`, `sem`, `Admitted` (row locks);
* `apiAppend`: `PostgresLedgerRepository.append`; `agentAppend`: the agent's `append`;
* `append`, `auditSystem`: any number of writers of both kinds.
-/

namespace TryTrust.Audit

open Conc

/-! ## Rows -/

/-- What an insert gives of a row of `audit_events`. -/
structure Entry where
  chainKey : String
  chainSeq : ℕ
  eventId : String
  type : String
  actor : Option String
  agentId : Option String
  runId : Option String
  mandateJti : Option String
  payload : Json
  prevHash : String
  hash : String
  rootSig : Option String
  createdAt : String

/-- A row of `audit_events`; `seq` is drawn from the table's sequence. -/
structure AuditRow extends Entry where
  seq : ℤ

/-- A row of `chains`. -/
structure ChainRow where
  headHash : String
  length : ℕ
  deriving DecidableEq

/-- The rows of `chains`, by their key. -/
abbrev Chains : Type := List (String × ChainRow)

/-- `INSERT` of a chain's row, or `UPDATE` of the one there is. -/
def Chains.set (chains : Chains) (key : String) (row : ChainRow) : Chains :=
  if (chains.lookup key).isSome then chains.map fun e => if e.1 = key then (key, row) else e
  else chains ++ [(key, row)]

theorem Chains.lookup_map_ne {key k : String} (h : k ≠ key) (row : ChainRow) (chains : Chains) :
    (chains.map fun e => if e.1 = key then (key, row) else e).lookup k = chains.lookup k := by
  induction chains with
  | nil => rfl
  | cons e chains ih =>
    by_cases he : e.1 = key
    · have hne : (k == e.1) = false := by simpa [he] using h
      have hne' : (k == key) = false := by simpa using h
      simp only [List.map_cons, if_pos he, List.lookup, hne, hne', ih]
    · simp only [List.map_cons, if_neg he, List.lookup, ih]

theorem Chains.lookup_map_self {key : String} (row : ChainRow) {chains : Chains}
    (h : (chains.lookup key).isSome) :
    (chains.map fun e => if e.1 = key then (key, row) else e).lookup key = some row := by
  induction chains with
  | nil => cases h
  | cons e chains ih =>
    by_cases he : e.1 = key
    · simp [he]
    · have hne : (key == e.1) = false := by simpa using Ne.symm he
      rw [List.lookup, hne] at h
      simp only [List.map_cons, if_neg he, List.lookup, hne]
      exact ih h

@[simp] theorem Chains.lookup_set_self (chains : Chains) (key : String) (row : ChainRow) :
    (chains.set key row).lookup key = some row := by
  by_cases h : (chains.lookup key).isSome
  · rw [Chains.set, if_pos h]
    exact Chains.lookup_map_self row h
  · have hnone : chains.lookup key = none := Option.not_isSome_iff_eq_none.1 h
    rw [Chains.set, if_neg h, List.lookup_append, hnone]
    simp

theorem Chains.lookup_set_ne (chains : Chains) {key k : String} (h : k ≠ key) (row : ChainRow) :
    (chains.set key row).lookup k = chains.lookup k := by
  by_cases hs : (chains.lookup key).isSome
  · rw [Chains.set, if_pos hs]
    exact Chains.lookup_map_ne h row chains
  · have hne : (k == key) = false := by simpa using h
    rw [Chains.set, if_neg hs, List.lookup_append]
    simp [List.lookup, hne]

/-- A row of `outbox`. -/
structure OutboxRow where
  eventId : String
  type : String
  aggregateId : String
  payload : Json

/-- What a connection's open transaction holds. -/
structure Txn where
  /-- The advisory lock of the API ledger. -/
  advisory : Bool := false
  /-- The chain whose row it has locked or inserted. -/
  locked : Option String := none
  /-- Its own version of that row. -/
  chain : Option ChainRow := none
  /-- The event it inserted. -/
  event : Option AuditRow := none
  /-- The event's copy for the relay. -/
  relayed : Option OutboxRow := none

/-- The committed tables, the sequence, and the open transactions. -/
structure Shared (ι : Type) where
  chains : Chains
  auditEvents : List AuditRow
  outbox : List OutboxRow
  /-- The last number that the sequence gave. -/
  lastSeq : ℤ
  txns : ι → Txn

/-! ## Statements -/

/-- The statements, with the connection that sends them. -/
inductive Call (ι : Type) where
  | begin (i : ι)
  | advisoryLock (i : ι)
  | createChain (i : ι) (key : String)
  | lockChain (i : ι) (key : String)
  | insertEvent (i : ι) (entry : Entry)
  | updateChain (i : ι) (key : String) (row : ChainRow)
  | insertOutbox (i : ι) (row : OutboxRow)
  | commit (i : ι)
  | rollback (i : ι)

/-- The answers. -/
def Res {ι : Type} : Call ι → Type
  | .lockChain .. => Option ChainRow
  | .insertEvent .. => ℤ
  | _ => Unit

/-- How a statement ends: it runs; it fails without effect; its effect stays but the answer is an
error. -/
inductive Fate where
  | runs
  | fails
  | lost
  deriving DecidableEq

section Statements

variable {ι : Type} [DecidableEq ι]

/-- Replace a connection's transaction. -/
def Shared.setTxn (s : Shared ι) (i : ι) (t : Txn) : Shared ι :=
  { s with txns := Function.update s.txns i t }

/-- The row of a chain as a connection reads it. -/
def Shared.chainOf (s : Shared ι) (i : ι) (key : String) : Option ChainRow :=
  if (s.txns i).locked = some key then (s.txns i).chain.or (s.chains.lookup key)
  else s.chains.lookup key

/-- What a transaction's commit leaves in `chains`. -/
def Txn.intoChains (t : Txn) (chains : Chains) : Chains :=
  match t.locked, t.chain with
  | some key, some row => chains.set key row
  | _, _ => chains

/-- The effect of a statement. -/
def exec : (op : Call ι) → Shared ι → Res op × Shared ι
  | .begin i, s => ((), s.setTxn i {})
  | .advisoryLock i, s => ((), s.setTxn i { s.txns i with advisory := true })
  | .createChain i key, s =>
    -- ON CONFLICT (chain_key) DO NOTHING
    if s.chainOf i key = none then
      ((), s.setTxn i { s.txns i with locked := some key, chain := some ⟨genesisPrevHash, 0⟩ })
    else ((), s)
  | .lockChain i key, s =>
    if s.chainOf i key = none then (none, s)
    else if (s.txns i).locked = some key then (s.chainOf i key, s)
    else (s.chainOf i key, s.setTxn i { s.txns i with locked := some key, chain := none })
  | .insertEvent i entry, s =>
    (s.lastSeq + 1, { s.setTxn i { s.txns i with event := some ⟨entry, s.lastSeq + 1⟩ } with
      lastSeq := s.lastSeq + 1 })
  | .updateChain i _ row, s => ((), s.setTxn i { s.txns i with chain := some row })
  | .insertOutbox i row, s => ((), s.setTxn i { s.txns i with relayed := some row })
  | .commit i, s =>
    ((), { s.setTxn i {} with
      chains := (s.txns i).intoChains s.chains
      auditEvents := s.auditEvents ++ (s.txns i).event.toList
      outbox := s.outbox ++ (s.txns i).relayed.toList })
  | .rollback i, s => ((), s.setTxn i {})

/-- Two events that a unique index of `audit_events` keeps apart. -/
def Entry.meets (entry other : Entry) : Bool :=
  entry.eventId = other.eventId || (entry.chainKey = other.chainKey && entry.chainSeq = other.chainSeq)

/-- An insert that a unique index refuses. -/
def Shared.refuses (s : Shared ι) : Call ι → Bool
  | .insertEvent _ entry => s.auditEvents.any fun row => entry.meets row.toEntry
  | .insertOutbox _ row => s.outbox.any fun other => row.eventId = other.eventId
  | _ => false

/-- What a refused statement leaves: an event's number stays drawn. -/
def Shared.refused (s : Shared ι) : Call ι → Shared ι
  | .insertEvent .. => { s with lastSeq := s.lastSeq + 1 }
  | _ => s

/-- A statement under a fate. -/
def sem (e : Fate) (op : Call ι) (s : Shared ι) : Except AuditErr (Res op) × Shared ι :=
  if e = .fails then (.error .database, s)
  else if s.refuses op then (.error .database, s.refused op)
  else if e = .lost then (.error .database, (exec op s).2)
  else (.ok (exec op s).1, (exec op s).2)

/-- Nobody else holds the row of a chain. -/
def Shared.Free (s : Shared ι) (i : ι) (key : String) : Prop :=
  ∀ j, j ≠ i → (s.txns j).locked ≠ some key

/-- A statement does not wait for another open transaction: for a lock, or for the end of an insert
of the same key. -/
def Admitted (s : Shared ι) : Call ι → Prop
  | .advisoryLock i => ∀ j, j ≠ i → (s.txns j).advisory = false
  | .createChain i key => s.chains.lookup key = none → s.Free i key
  | .lockChain i key => s.Free i key
  | .insertEvent i entry => ∀ j, j ≠ i → ∀ row ∈ (s.txns j).event, entry.meets row.toEntry = false
  | .insertOutbox i row => ∀ j, j ≠ i → ∀ other ∈ (s.txns j).relayed, row.eventId ≠ other.eventId
  | _ => True

instance [Fintype ι] (s : Shared ι) (i : ι) (key : String) : Decidable (s.Free i key) :=
  inferInstanceAs (Decidable (∀ j, j ≠ i → (s.txns j).locked ≠ some key))

instance [Fintype ι] (s : Shared ι) : (op : Call ι) → Decidable (Admitted s op)
  | .advisoryLock i => inferInstanceAs (Decidable (∀ j, j ≠ i → (s.txns j).advisory = false))
  | .createChain i key => inferInstanceAs (Decidable (_ → s.Free i key))
  | .lockChain i key => inferInstanceAs (Decidable (s.Free i key))
  | .insertEvent i entry => inferInstanceAs (Decidable (∀ j, j ≠ i →
      ∀ row ∈ (s.txns j).event, entry.meets row.toEntry = false))
  | .insertOutbox i row => inferInstanceAs (Decidable (∀ j, j ≠ i →
      ∀ other ∈ (s.txns j).relayed, row.eventId ≠ other.eventId))
  | .begin _ | .updateChain .. | .commit _ | .rollback _ => .isTrue trivial

end Statements

/-! ## Events of the API ledger -/

/-- An audit event. -/
structure AuditEvent where
  mandateId : String
  type : String
  payload : Json
  prevHash : String
  hash : String
  createdAt : Instant
  seq : Option ℤ
  rootSig : Option String

/-- `AuditEvent.__post_init__`. -/
def AuditEvent.check (event : AuditEvent) : Except AuditErr AuditEvent :=
  if event.mandateId = "" then .error (.value "mandate_id cannot be empty")
  else if event.type = "" then .error (.value "event type cannot be empty")
  else if event.prevHash = "" ∨ event.prevHash.length ≠ 64 then
    .error (.value "prev_hash must be a 64-character hex string")
  else if event.hash = "" ∨ event.hash.length ≠ 64 then
    .error (.value "hash must be a 64-character hex string")
  else if event.seq.any (· < 1) then .error (.value "seq must be a positive integer if present")
  else .ok event

/-! ## Appending -/

/-- Programs over the tables. -/
abbrev Tx (ι : Type) : Type → Type := Prog (Call ι) Res AuditErr

section Appends

variable {ι : Type} (K : Crypto) (i : ι)

/-- One statement. -/
def call (op : Call ι) : Tx ι (Res op) := Prog.perform op

/-- A computation without statements. -/
def lift {α : Type} : Except AuditErr α → Tx ι α
  | .ok a => .ret a
  | .error x => .raise x

/-- The chain of the API ledger. -/
def apiChainKey : String := "api-ledger"

/-- What the API ledger is asked to append; `now` is its clock. -/
structure ApiRequest where
  mandateId : String
  type : String
  payload : Json
  createdAt : Option Instant
  now : Instant
  eventId : String

/-- The time that is hashed and stored: a whole second. -/
def ApiRequest.ts (request : ApiRequest) : Instant :=
  (request.createdAt.getD request.now).truncate

/-- The statements of `PostgresLedgerRepository.append`. -/
def apiAppendRows (request : ApiRequest) : Tx ι AuditEvent := do
  call (.advisoryLock i)
  call (.createChain i apiChainKey)
  let found : Option ChainRow ← call (.lockChain i apiChainKey)
  match found with
  | none => .raise (.type "'NoneType' object is not subscriptable")
  | some head =>
    let prevHash := strip head.headHash
    let eventHash ← lift (computeEventHash K request.mandateId request.type request.payload
      prevHash request.ts)
    let seq : ℤ ← call (.insertEvent i {
      chainKey := apiChainKey, chainSeq := head.length + 1, eventId := request.eventId
      type := request.type, actor := none, agentId := none, runId := none
      mandateJti := some request.mandateId, payload := request.payload, prevHash := prevHash
      hash := eventHash, rootSig := none, createdAt := request.ts.iso })
    call (.updateChain i apiChainKey ⟨eventHash, head.length + 1⟩)
    call (.commit i)
    lift (AuditEvent.check {
      mandateId := request.mandateId, type := request.type, payload := request.payload
      prevHash := prevHash, hash := eventHash, createdAt := request.ts, seq := some seq
      rootSig := none })

/-- `PostgresLedgerRepository.append`; leaving the connection by an exception rolls back. -/
def apiAppend (request : ApiRequest) : Tx ι AuditEvent :=
  (apiAppendRows K i request).tryCatch fun x => do
    let _ : Except AuditErr Unit ← (call (.rollback i)).attempt
    .raise x

/-- What the agent lane is asked to append. -/
structure AgentRequest where
  type : String
  payload : Json
  actor : Option String
  agentId : Option String
  runId : Option String
  mandateJti : Option String
  relay : Bool
  scrub : Bool
  chainKey : Option String
  createdAt : String
  eventId : String

/-- An identifier that is there and not empty. -/
def present (id : Option String) : Option String := id.filter (· ≠ "")

/-- `chain_key_for`. -/
def chainKeyFor (mandateJti agentId : Option String) : String :=
  match present mandateJti, present agentId with
  | some jti, _ => jti
  | none, some agent => "agent:" ++ agent
  | none, none => "system"

/-- `chain_key or chain_key_for(mandate_jti, agent_id)`. -/
def AgentRequest.key (request : AgentRequest) : String :=
  (present request.chainKey).getD (chainKeyFor request.mandateJti request.agentId)

/-- A text or `None`. -/
def optional : Option String → Json
  | some s => .str s
  | none => .null

/-- The hashed part of an event of the agent lane. -/
def Entry.content (entry : Entry) : Json :=
  .obj [("event_id", .str entry.eventId), ("type", .str entry.type),
    ("actor", optional entry.actor), ("agent_id", optional entry.agentId),
    ("run_id", optional entry.runId), ("mandate_jti", optional entry.mandateJti),
    ("payload", entry.payload), ("created_at", .str entry.createdAt),
    ("chain_key", .str entry.chainKey)]

/-- `_digest`. -/
def digest (prevHash : String) (content : Json) : Except AuditErr String :=
  match canonicalText content with
  | some text => .ok (K.sha256 (prevHash ++ text))
  | none => .error (.nonCanonical "use a 2-decimal string for money (M7)")

/-- The row that an event of the agent lane becomes, before its hash is known. -/
def AgentRequest.entry (request : AgentRequest) (clean : Json) (head : ChainRow) : Entry where
  chainKey := request.key
  chainSeq := head.length + 1
  eventId := request.eventId
  type := request.type
  actor := request.actor
  agentId := request.agentId
  runId := request.runId
  mandateJti := request.mandateJti
  payload := clean
  prevHash := head.headHash
  hash := ""
  rootSig := none
  createdAt := request.createdAt

/-- The copy for the relay; its aggregate is the first identifier there is. -/
def AgentRequest.relayed (request : AgentRequest) (clean : Json) : OutboxRow where
  eventId := request.eventId
  type := request.type
  aggregateId := (((present request.mandateJti).or (present request.runId)).or
    (present request.agentId)).getD "-"
  payload := clean

/-- The statements of the agent's `append`; `scrubPayload` replaces personal data. -/
def agentAppendRows (scrubPayload : Json → Json) (request : AgentRequest) : Tx ι Unit := do
  let clean := if request.scrub then scrubPayload request.payload else request.payload
  call (.createChain i request.key)
  let found : Option ChainRow ← call (.lockChain i request.key)
  match found with
  | none => .raise (.type "'NoneType' object is not subscriptable")
  | some head =>
    let entry := request.entry clean head
    let hash ← lift (digest K head.headHash entry.content)
    let _ : ℤ ← call (.insertEvent i { entry with hash := hash })
    call (.updateChain i request.key ⟨hash, head.length + 1⟩)
    -- the business event and its audit row commit together
    if request.relay then call (.insertOutbox i (request.relayed clean))
    call (.commit i)

/-- The agent's `append`. -/
def agentAppend (scrubPayload : Json → Json) (request : AgentRequest) : Tx ι Unit := do
  call (.begin i)
  (agentAppendRows K i scrubPayload request).tryCatch fun x => do
    call (.rollback i)
    .raise x

/-! ## Writers -/

/-- A writer of either side, with its request. -/
inductive Writer where
  | api (request : ApiRequest)
  | agent (request : AgentRequest)

/-- The append of a writer. -/
def append (scrubPayload : Json → Json) : Writer → Tx ι Unit
  | .api request => do
    let _ ← apiAppend K i request
    pure ()
  | .agent request => agentAppend K i scrubPayload request

end Appends

end TryTrust.Audit
