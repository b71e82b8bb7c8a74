import TryTrust.Audit.Tables

/-!
# The ledger service

Reading the API ledger back, and judging it.

* `Reads`; `postgresReads`, `memoryReads`: what the two repositories read;
* `validateEvent`, `validateChain`: hash links, recomputed hashes and consecutive sequence numbers;
* `signRoot`: the checkpoint of a range; `verifyChain`: the chain, its checkpoints, their witness.
-/

namespace TryTrust.Audit

/-! ## Reading a ledger -/

/-- The reads of a repository. -/
structure Reads where
  /-- `get_all`. -/
  all : Except AuditErr (List AuditEvent)
  /-- `get_range`. -/
  range : ℤ → ℤ → Except AuditErr (List AuditEvent)
  /-- `get_by_mandate`. -/
  byMandate : String → Except AuditErr (List AuditEvent)

/-- The events that a verification is about: a range, or all. -/
def Reads.select (reads : Reads) : Option (ℤ × ℤ) → Except AuditErr (List AuditEvent)
  | some range => reads.range range.1 range.2
  | none => reads.all

/-- `_row_to_event`. -/
def rowToEvent (row : AuditRow) : Except AuditErr AuditEvent :=
  match parseIso row.createdAt with
  | none => .error (.value "Invalid isoformat string")
  | some createdAt => AuditEvent.check {
      mandateId := row.mandateJti.getD "None", type := row.type, payload := row.payload
      prevHash := strip row.prevHash, hash := strip row.hash, createdAt := createdAt
      seq := some row.seq, rootSig := row.rootSig.filter (· ≠ "") }

/-- Rows by sequence number. -/
def bySeq (rows : List AuditRow) : List AuditRow := rows.mergeSort fun a b => decide (a.seq ≤ b.seq)

/-- The rows of the API ledger, in commit order. -/
def apiRows (rows : List AuditRow) : List AuditRow := rows.filter fun r => r.chainKey = apiChainKey

/-- `PostgresLedgerRepository`: `WHERE chain_key = … ORDER BY seq`. -/
def postgresReads (rows : List AuditRow) : Reads where
  all := (bySeq (apiRows rows)).mapM rowToEvent
  range seqStart seqEnd :=
    (bySeq ((apiRows rows).filter fun r => seqStart ≤ r.seq ∧ r.seq ≤ seqEnd)).mapM rowToEvent
  byMandate mandateId :=
    (bySeq ((apiRows rows).filter fun r => r.mandateJti = some mandateId)).mapM rowToEvent

/-- `PostgresLedgerRepository.annotate_root`. -/
def postgresAnnotate (rows : List AuditRow) (seqStart seqEnd : ℤ) (rootSig : String) :
    List AuditRow :=
  rows.map fun r =>
    if r.chainKey = apiChainKey ∧ (seqStart ≤ r.seq ∧ r.seq ≤ seqEnd) ∧ r.rootSig = none then
      { r with rootSig := some rootSig }
    else r

/-- An event whose number is in a range. -/
def AuditEvent.within (seqStart seqEnd : ℤ) (event : AuditEvent) : Bool :=
  event.seq.any fun n => seqStart ≤ n ∧ n ≤ seqEnd

/-- `InMemoryLedgerRepository`. -/
def memoryReads (events : List AuditEvent) : Reads where
  all := .ok events
  range seqStart seqEnd := .ok (events.filter (·.within seqStart seqEnd))
  byMandate mandateId := .ok (events.filter fun e => e.mandateId = mandateId)

/-- `InMemoryLedgerRepository.annotate_root`. -/
def memoryAnnotate (events : List AuditEvent) (seqStart seqEnd : ℤ) (rootSig : String) :
    List AuditEvent :=
  events.map fun e =>
    if e.within seqStart seqEnd ∧ e.rootSig = none then { e with rootSig := some rootSig } else e

/-! ## Validating a chain -/

/-- `ChainResult`. -/
structure ChainResult where
  ok : Bool
  firstBadSeq : Option ℤ := none
  reason : Option String := none
  verifiedCount : ℕ := 0
  lastHash : Option String := none
  deriving DecidableEq

section Validate

variable (K : Crypto)

/-- The hash of an event as its other fields give it. -/
def AuditEvent.rehash (event : AuditEvent) : Except AuditErr String :=
  computeEventHash K event.mandateId event.type event.payload event.prevHash event.createdAt

/-- `validate_event`: the reason of a refusal. -/
def validateEvent (event : AuditEvent) (expectedPrevHash : String) :
    Except AuditErr (Option String) :=
  if event.prevHash ≠ expectedPrevHash then
    .ok (some ("prev_hash mismatch: expected " ++ expectedPrevHash ++ ", got " ++ event.prevHash))
  else do
    let expectedHash ← event.rehash K
    if event.hash ≠ expectedHash then
      pure (some ("hash mismatch: recomputed " ++ expectedHash ++ ", recorded " ++ event.hash))
    else pure none

/-- The numbers of two neighbours, when both are known and not consecutive. -/
def seqGap (prev event : AuditEvent) : Option (ℤ × ℤ) :=
  match prev.seq, event.seq with
  | some p, some n => if n ≠ p + 1 then some (p, n) else none
  | _, _ => none

/-- The hash that an event has to continue. -/
def expectedPrev (start : Option String) (prev : Option AuditEvent) (event : AuditEvent) :
    String :=
  match prev with
  | some p => p.hash
  | none => start.getD (if event.seq = some 1 then genesisPrevHash else event.prevHash)

/-- The loop of `validate_chain`: `i` events, the last of them `prev`, are validated. -/
def validateFrom (start : Option String) (checkSeqContinuity : Bool) :
    ℕ → Option AuditEvent → List AuditEvent → Except AuditErr ChainResult
  | i, prev, [] => .ok { ok := true, verifiedCount := i, lastHash := prev.map (·.hash) }
  | i, prev, event :: events => do
    match if checkSeqContinuity then prev.bind (seqGap · event) else none with
    | some (p, n) =>
      pure {
        ok := false, firstBadSeq := some n, verifiedCount := i
        reason := some ("sequence gap detected at index " ++ toString i ++ ": expected seq " ++
          toString (p + 1) ++ ", got " ++ toString n) }
    | none =>
      match ← validateEvent K event (expectedPrev start prev event) with
      | some reason =>
        pure {
          ok := false, firstBadSeq := some (event.seq.getD (i + 1)), reason := some reason
          verifiedCount := i }
      | none => validateFrom start checkSeqContinuity (i + 1) (some event) events

/-- `validate_chain`. -/
def validateChain (events : List AuditEvent) (start : Option String) (checkSeqContinuity : Bool) :
    Except AuditErr ChainResult :=
  validateFrom K start checkSeqContinuity 0 none events

end Validate

/-! ## Checkpoints -/

/-- `RootCheckpoint`. -/
structure RootCheckpoint where
  seqStart : ℤ
  seqEnd : ℤ
  rootHash : String
  rootSig : String
  cardinality : ℤ
  createdAt : Instant
  deriving DecidableEq

/-- `RootCheckpoint.__post_init__`. -/
def RootCheckpoint.check (cp : RootCheckpoint) : Except AuditErr RootCheckpoint :=
  if cp.seqStart < 1 ∨ cp.seqEnd < cp.seqStart then
    .error (.value "invalid seq range for root checkpoint")
  else if cp.cardinality ≠ cp.seqEnd - cp.seqStart + 1 then
    .error (.value "cardinality must match seq_end - seq_start + 1")
  else if cp.rootHash = "" ∨ cp.rootHash.length ≠ 64 then
    .error (.value "root_hash must be a 64-character hex string")
  else if cp.rootSig = "" then .error (.value "root_sig cannot be empty")
  else .ok cp

/-- The published checkpoints. -/
abbrev Witness : Type := ℤ × ℤ → Option RootCheckpoint

/-- `InMemoryWitness.put`. -/
def Witness.put (witness : Witness) (cp : RootCheckpoint) : Except AuditErr Witness :=
  if (witness (cp.seqStart, cp.seqEnd)).isSome then
    .error (.value ("witness object already exists for range " ++ toString cp.seqStart ++ "-" ++
      toString cp.seqEnd))
  else .ok (Function.update witness (cp.seqStart, cp.seqEnd) (some cp))

section Service

variable (K : Crypto)

/-- The sequence numbers of the events that carry a signature. -/
def annotated (events : List AuditEvent) : List ℤ :=
  events.filterMap fun e => if e.rootSig.isSome then e.seq else none

/-- Where a checkpoint starts when its caller does not say. -/
def defaultStart (events : List AuditEvent) (first : AuditEvent) : ℤ :=
  match (annotated events).max? with
  | some last => last + 1
  | none => if first.seq = some 0 then 1 else first.seq.getD 1

/-- Where a checkpoint ends when its caller does not say. -/
def defaultEnd (events : List AuditEvent) (last : AuditEvent) : ℤ :=
  if last.seq = some 0 then events.length else last.seq.getD events.length

/-- `str(value)` of an optional number. -/
def optionalInt : Option ℤ → String
  | some n => toString n
  | none => "None"

/-- The range of a checkpoint, validated, signed and ready to publish. -/
def checkpointOf (reads : Reads) (seqStart seqEnd : ℤ) (now : Instant) :
    Except AuditErr RootCheckpoint := do
  if seqStart > seqEnd then
    .error (.value ("Invalid range for root checkpoint: seq_start (" ++ toString seqStart ++
      ") > seq_end (" ++ toString seqEnd ++ ")"))
  else
    match ← reads.range seqStart seqEnd with
    | [] => .error (.value ("No events found in sequence range " ++ toString seqStart ++ "-" ++
        toString seqEnd))
    | first :: rest =>
      let rangeValid ← validateChain K (first :: rest) (some first.prevHash) true
      if !rangeValid.ok then
        .error (.runtime ("Cannot sign root: range " ++ toString seqStart ++ "-" ++
          toString seqEnd ++ " failed validation at seq " ++ optionalInt rangeValid.firstBadSeq ++
          ": " ++ rangeValid.reason.getD "None"))
      else
        let cardinality : ℤ := (first :: rest).length
        let rootHash ← computeRootHash K seqStart seqEnd ((first :: rest).getLastD first).hash
          cardinality
        RootCheckpoint.check {
          seqStart := seqStart, seqEnd := seqEnd, rootHash := rootHash
          rootSig := hex (K.sign rootHash), cardinality := cardinality, createdAt := now }

/-- The checkpoint that `sign_root` is asked for. -/
def requestedRoot (reads : Reads) (seqStart seqEnd : Option ℤ) (now : Instant) :
    Except AuditErr RootCheckpoint := do
  match ← reads.all with
  | [] => .error (.value "Cannot sign root: ledger is empty")
  | first :: rest =>
    checkpointOf K reads (seqStart.getD (defaultStart (first :: rest) first))
      (seqEnd.getD (defaultEnd (first :: rest) ((first :: rest).getLastD first))) now

/-- `sign_root` over rows of any kind, with what it leaves in them and with the witness. -/
def signRoot {ρ : Type} (reads : List ρ → Reads)
    (annotate : List ρ → ℤ → ℤ → String → List ρ) (rows : List ρ) (witness : Witness)
    (seqStart seqEnd : Option ℤ) (now : Instant) :
    Except AuditErr RootCheckpoint × List ρ × Witness :=
  match requestedRoot K (reads rows) seqStart seqEnd now with
  | .error x => (.error x, rows, witness)
  | .ok cp =>
    -- the rows are annotated before the checkpoint is published
    let annotatedRows := annotate rows cp.seqStart cp.seqEnd cp.rootSig
    match witness.put cp with
    | .error x => (.error x, annotatedRows, witness)
    | .ok published => (.ok cp, annotatedRows, published)

/-! ## Verifying -/

/-- The signature of a run of events, and the first and last number seen under it. -/
structure SigRun where
  sig : Option String := none
  start : Option ℤ := none
  last : Option ℤ := none

/-- The range of a run that carries a signature. -/
def SigRun.range (run : SigRun) : List (ℤ × ℤ × String) :=
  match run.sig, run.start, run.last with
  | some sig, some start, some last => [(start, last, sig)]
  | _, _, _ => []

/-- `checkpoint_ranges`: neighbours with the same signature. -/
def checkpointRanges (run : SigRun) : List AuditEvent → List (ℤ × ℤ × String)
  | [] => run.range
  | event :: events =>
    match event.seq with
    | none => checkpointRanges run events
    | some seq =>
      if event.rootSig ≠ run.sig then
        run.range ++ checkpointRanges ⟨event.rootSig, some seq, some seq⟩ events
      else checkpointRanges { run with last := some seq } events

/-- What is wrong with one signed range. -/
def rangeProblem (witness : Witness) (events : List AuditEvent) (start stop : ℤ)
    (rootSig : String) : Except AuditErr (Option String) := do
  let within := events.filter (·.within start stop)
  let rootHash ← computeRootHash K start stop ((within.getLast?.map (·.hash)).getD "")
    within.length
  if !((fromHex rootSig).any (K.verify rootHash)) then
    pure (some ("invalid root signature for sequence range " ++ toString start ++ "-" ++
      toString stop))
  else
    match witness (start, stop) with
    | none => pure (some ("missing external witness for sequence range " ++ toString start ++ "-" ++
        toString stop))
    | some cp =>
      if cp.rootHash ≠ rootHash ∨ cp.rootSig ≠ rootSig ∨ cp.cardinality ≠ within.length then
        pure (some ("external witness divergence for sequence range " ++ toString start ++ "-" ++
          toString stop ++ ": witness hash " ++ cp.rootHash ++ ", local hash " ++ rootHash))
      else pure none

/-- The loop over the signed ranges. -/
def verifyRanges (witness : Witness) (events : List AuditEvent) :
    List (ℤ × ℤ × String) → Except AuditErr ChainResult
  | [] => .ok {
      ok := true, verifiedCount := events.length, lastHash := events.getLast?.map (·.hash) }
  | (start, stop, sig) :: ranges => do
    match ← rangeProblem K witness events start stop sig with
    | some reason =>
      pure {
        ok := false, firstBadSeq := some start, reason := some reason
        verifiedCount := events.length }
    | none => verifyRanges witness events ranges

/-- The first event of a mandate's projection whose hash is not its own. -/
def projectionFrom (mandateId : String) (all : List AuditEvent) :
    List AuditEvent → Except AuditErr ChainResult
  | [] => .ok { ok := true, verifiedCount := all.length, lastHash := all.getLast?.map (·.hash) }
  | event :: events => do
    let expectedHash ← event.rehash K
    if event.hash ≠ expectedHash then
      pure {
        ok := false, firstBadSeq := event.seq
        reason := some ("Hash mismatch at seq " ++ optionalInt event.seq ++ " in mandate " ++
          mandateId) }
    else projectionFrom mandateId all events

/-- `verify_chain`. -/
def verifyChain (reads : Reads) (witness : Witness) (mandateId : Option String)
    (seqRange : Option (ℤ × ℤ)) : Except AuditErr ChainResult :=
  match mandateId with
  | some mandate => do
    let events ← reads.byMandate mandate
    projectionFrom K mandate events events
  | none => do
    let events ← reads.select seqRange
    if events.isEmpty then pure { ok := true }
    else
      let chain ← validateChain K events none true
      if !chain.ok then pure chain
      else verifyRanges K witness events (checkpointRanges {} events)

end Service

end TryTrust.Audit
