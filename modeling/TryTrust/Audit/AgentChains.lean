import TryTrust.Audit.Tables
import TryTrust.HashChain

/-!
# The chains of the agent lane

What the agent's audit module reads back from the tables: one chain after another replayed, one root
over their heads, and its signed checkpoint.

* `eventsOf`, `verifyChain`, `verifyAll`, `computeRoot`; `Database`, `checkpoint`, `verifyCheckpoint`;
* `Replays`: rows that continue each other from the genesis hash; **`verifyChain_valid`**: exactly
  those are valid; **`verifyAll_valid`**: the verdict on all chains;
* `verifyCheckpoint_valid`: a checkpoint is valid when all chains are and the stored root is theirs.
-/

namespace TryTrust.Audit.Agent

/-! ## Replaying a chain -/

/-- The events of a chain, `ORDER BY chain_seq`. -/
def eventsOf (rows : List AuditRow) (key : String) : List AuditRow :=
  (rows.filter fun r => r.chainKey = key).insertionSort fun a b => a.chainSeq ≤ b.chainSeq

/-- What `verify_chain` says of a chain. -/
structure Verdict where
  valid : Bool
  chainKey : String
  checked : ℕ
  seq : Option ℤ := none
  chainSeq : Option ℕ := none
  error : Option String := none
  head : Option String := none
  deriving DecidableEq

/-- The content of a stored row; its payload is read back with sorted keys. -/
def rebuilt (row : AuditRow) : Json := { row.toEntry with payload := row.payload.sorted }.content

section Replay

variable (K : Crypto)

/-- The loop of `verify_chain`, `checked` events behind it, the last with `prevHash`. -/
def replayFrom (key : String) (stored : Option ChainRow) :
    String → ℕ → List AuditRow → Except AuditErr Verdict
  | prevHash, checked, [] =>
    if stored.any fun chain => chain.headHash ≠ prevHash then
      .ok {
        valid := false, chainKey := key, checked := checked
        error := some "chain head does not match the replayed events" }
    else .ok { valid := true, chainKey := key, checked := checked, head := some prevHash }
  | prevHash, checked, row :: rows =>
    if row.prevHash ≠ prevHash then
      .ok {
        valid := false, chainKey := key, checked := checked, seq := some row.seq
        chainSeq := some row.chainSeq, error := some "prev_hash does not match the previous event" }
    else do
      let expected ← digest K prevHash (rebuilt row)
      if expected ≠ row.hash then
        pure {
          valid := false, chainKey := key, checked := checked, seq := some row.seq
          chainSeq := some row.chainSeq, error := some "row content does not match its hash" }
      else replayFrom key stored row.hash (checked + 1) rows

/-- `verify_chain`. -/
def verifyChain (chains : Chains) (rows : List AuditRow) (key : String) :
    Except AuditErr Verdict :=
  replayFrom K key (chains.lookup key) genesisPrevHash 0 (eventsOf rows key)

/-- The rows of `chains`, `ORDER BY chain_key`. -/
def byKey (chains : Chains) : Chains := chains.insertionSort fun a b => ¬ b.1 < a.1

/-- The chain heads as they are hashed. -/
def headsJson (chains : Chains) : Json :=
  .arr ((byKey chains).map fun e => .obj [("chain_key", .str e.1), ("head", .str e.2.headHash)])

/-- `compute_root`. -/
def computeRoot (chains : Chains) : Except AuditErr String :=
  match canonicalText (headsJson chains) with
  | some text => .ok (K.sha256 text)
  | none => .error (.nonCanonical "use a 2-decimal string for money (M7)")

/-- What `verify_all` reports. -/
structure Report where
  valid : Bool
  chains : ℕ
  checked : ℕ
  root : String
  broken : List Verdict
  deriving DecidableEq

/-- `verify_all`. -/
def verifyAll (chains : Chains) (rows : List AuditRow) : Except AuditErr Report := do
  let results ← (byKey chains).mapM fun e => verifyChain K chains rows e.1
  let broken := results.filter fun r => !r.valid
  let root ← computeRoot K chains
  pure {
    valid := broken.isEmpty, chains := results.length, checked := (results.map (·.checked)).sum
    root := root, broken := broken }

end Replay

/-! ## Checkpoints -/

/-- A row of `checkpoints`. -/
structure CheckpointRow where
  rootHash : String
  chainHeads : Json
  signature : String
  chainsCovered : ℕ
  eventsCovered : ℕ
  createdAt : String

/-- The tables of the evidence; `checkpoints` in the order of its ids. -/
structure Database where
  chains : Chains
  auditEvents : List AuditRow
  checkpoints : List CheckpointRow

/-- The characters of base64url. -/
def base64Char (n : ℕ) : Char :=
  if n < 26 then Char.ofNat (65 + n) else if n < 52 then Char.ofNat (71 + n)
  else if n < 62 then Char.ofNat (n - 4) else if n = 62 then '-' else '_'

/-- Three bytes at a time, without padding. -/
def base64 : List UInt8 → List Char
  | [] => []
  | [a] => [base64Char (a.toNat / 4), base64Char (a.toNat % 4 * 16)]
  | [a, b] => [base64Char (a.toNat / 4), base64Char (a.toNat % 4 * 16 + b.toNat / 16),
      base64Char (b.toNat % 16 * 4)]
  | a :: b :: c :: rest =>
    base64Char (a.toNat / 4) :: base64Char (a.toNat % 4 * 16 + b.toNat / 16) ::
      base64Char (b.toNat % 16 * 4 + c.toNat / 64) :: base64Char (c.toNat % 64) :: base64 rest

/-- `b64u`. -/
def b64u (bytes : List UInt8) : String := String.ofList (base64 bytes)

section Checkpoint

variable (K : Crypto)

/-- `checkpoint`: the row that it inserts, `now` being the clock. -/
def checkpointRow (d : Database) (now : String) : Except AuditErr CheckpointRow := do
  let rows := byKey d.chains
  let heads : Json := .obj (rows.map fun e => (e.1, .str e.2.headHash))
  let events : ℕ := (rows.map (·.2.length)).sum
  let root ← computeRoot K d.chains
  let payload : Json := .obj [("root", .str root), ("chains", .num rows.length 0),
    ("events", .num events 0), ("at", .str now)]
  match canonicalText payload with
  | none => .error (.nonCanonical "use a 2-decimal string for money (M7)")
  | some text =>
    pure {
      rootHash := root, chainHeads := heads, signature := b64u (K.sign text)
      chainsCovered := rows.length, eventsCovered := events, createdAt := now }

/-- `checkpoint`. -/
def checkpoint (d : Database) (now : String) : Except AuditErr Database :=
  (checkpointRow K d now).map fun row => { d with checkpoints := d.checkpoints ++ [row] }

/-- What `verify_checkpoint` reports. -/
structure CheckpointReport where
  valid : Option Bool
  signedRoot : Option String := none
  currentRoot : Option String := none
  createdAt : Option String := none
  detail : String
  deriving DecidableEq

/-- `verify_checkpoint`, of the latest one. -/
def verifyCheckpoint (d : Database) : Except AuditErr CheckpointReport :=
  match d.checkpoints.getLast? with
  | none => .ok { valid := none, detail := "no checkpoint has been signed yet" }
  | some row => do
    let replay ← verifyAll K d.chains d.auditEvents
    let current ← computeRoot K d.chains
    match replay.broken with
    | broken :: _ =>
      pure {
        valid := some false, signedRoot := some row.rootHash, currentRoot := some current
        createdAt := some row.createdAt
        detail := "chain " ++ broken.chainKey ++ " no longer replays: " ++ broken.error.getD "" }
    | [] =>
      if row.rootHash ≠ current then
        pure {
          valid := some false, signedRoot := some row.rootHash, currentRoot := some current
          createdAt := some row.createdAt
          detail := "chains changed since this checkpoint (new events, or a rewritten head)" }
      else
        pure {
          valid := some true, signedRoot := some row.rootHash, currentRoot := some current
          createdAt := some row.createdAt, detail := "" }

end Checkpoint

/-! ## What is hashed of an event -/

/-- A payload read back is hashed as it was written. -/
theorem rebuilt_sorted (row : AuditRow) : (rebuilt row).sorted = row.toEntry.content.sorted := by
  rw [rebuilt, Entry.content, Entry.content, Json.sorted, Json.sorted]
  simp only [Json.sortedFields, sorted_sorted]

theorem digest_rebuilt (K : Crypto) (prevHash : String) (row : AuditRow) :
    digest K prevHash (rebuilt row) = digest K prevHash row.toEntry.content := by
  rw [digest, digest, canonicalText, canonicalText, rebuilt_sorted]

/-- Two rows with the same hashed content. -/
structure SameContent (a b : AuditRow) : Prop where
  eventId : a.eventId = b.eventId
  type : a.type = b.type
  actor : a.actor = b.actor
  agentId : a.agentId = b.agentId
  runId : a.runId = b.runId
  mandateJti : a.mandateJti = b.mandateJti
  payload : a.payload.sorted = b.payload.sorted
  createdAt : a.createdAt = b.createdAt
  chainKey : a.chainKey = b.chainKey

theorem optional_inj {s t : Option String} (h : (optional s).sorted = (optional t).sorted) :
    s = t := by
  cases s <;> cases t <;> simp_all [optional, Json.sorted]

/-- **Equal contents** are of equal fields. -/
theorem content_inj {a b : AuditRow}
    (h : a.toEntry.content.sorted = b.toEntry.content.sorted) : SameContent a b := by
  rw [Entry.content, Entry.content] at h
  have hfield : ∀ key value, (key, value) ∈ [("event_id", Json.str a.eventId),
      ("type", .str a.type), ("actor", optional a.actor), ("agent_id", optional a.agentId),
      ("run_id", optional a.runId), ("mandate_jti", optional a.mandateJti), ("payload", a.payload),
      ("created_at", .str a.createdAt), ("chain_key", .str a.chainKey)] →
      ∃ value', (key, value') ∈ [("event_id", Json.str b.eventId),
        ("type", .str b.type), ("actor", optional b.actor), ("agent_id", optional b.agentId),
        ("run_id", optional b.runId), ("mandate_jti", optional b.mandateJti),
        ("payload", b.payload), ("created_at", .str b.createdAt), ("chain_key", .str b.chainKey)] ∧
          value.sorted = value'.sorted := fun key value => mem_of_sorted_obj h
  have hevent := hfield "event_id" (.str a.eventId) (by simp)
  have htype := hfield "type" (.str a.type) (by simp)
  have hactor := hfield "actor" (optional a.actor) (by simp)
  have hagent := hfield "agent_id" (optional a.agentId) (by simp)
  have hrun := hfield "run_id" (optional a.runId) (by simp)
  have hmandate := hfield "mandate_jti" (optional a.mandateJti) (by simp)
  have hpayload := hfield "payload" a.payload (by simp)
  have hcreated := hfield "created_at" (.str a.createdAt) (by simp)
  have hkey := hfield "chain_key" (.str a.chainKey) (by simp)
  simp only [List.mem_cons, Prod.mk.injEq, List.not_mem_nil, String.reduceEq, false_and, true_and,
    or_false, false_or, exists_eq_left]
    at hevent htype hactor hagent hrun hmandate hpayload hcreated hkey
  exact ⟨Json.str.inj hevent, Json.str.inj htype, optional_inj hactor, optional_inj hagent,
    optional_inj hrun, optional_inj hmandate, hpayload, Json.str.inj hcreated, Json.str.inj hkey⟩

/-! ## Valid chains -/

/-- The previous hash of a row. -/
def prevOf (row : AuditRow) : String := row.prevHash

/-- The hash of a row. -/
def hashOf (row : AuditRow) : String := row.hash

/-- A row whose hash recomputes. -/
def Genuine (K : Crypto) (row : AuditRow) : Prop :=
  digest K row.prevHash row.toEntry.content = .ok row.hash

/-- **A chain that replays** from the genesis hash. -/
structure Replays (K : Crypto) (rows : List AuditRow) : Prop where
  linked : HashChain.Linked prevOf hashOf genesisPrevHash rows
  genuine : ∀ r ∈ rows, Genuine K r

variable {K : Crypto}

/-- A verdict that a chain is valid. -/
def Valid (verdict : Except AuditErr Verdict) : Prop := ∃ v, verdict = .ok v ∧ v.valid = true

theorem valid_ok {v : Verdict} : Valid (.ok v) ↔ v.valid = true := by
  constructor
  · rintro ⟨w, hw, hvalid⟩
    rw [Except.ok.inj hw]
    exact hvalid
  · exact fun h => ⟨v, rfl, h⟩

/-- The loop accepts what continues the chain up to the stored head. -/
theorem replayFrom_valid (key : String) (stored : Option ChainRow) {rows : List AuditRow}
    (prevHash : String) (checked : ℕ) :
    Valid (replayFrom K key stored prevHash checked rows) ↔
      (HashChain.Linked prevOf hashOf prevHash rows ∧ ∀ r ∈ rows, Genuine K r) ∧
        ∀ chain ∈ stored, chain.headHash = HashChain.head hashOf prevHash rows := by
  induction rows generalizing prevHash checked with
  | nil =>
    rw [replayFrom]
    split_ifs with hhead
    · obtain ⟨chain, hchain, hne⟩ := (Option.any_eq_true _ _).1 hhead
      rw [valid_ok]
      constructor
      · intro h
        cases h
      · rintro ⟨-, h⟩
        exact absurd (h chain hchain) (by simpa using hne)
    · rw [valid_ok]
      refine ⟨fun _ => ⟨⟨trivial, fun r hr => by cases hr⟩, fun chain hchain => ?_⟩, fun _ => rfl⟩
      by_contra hne
      exact hhead ((Option.any_eq_true _ _).2 ⟨chain, hchain, by simpa using hne⟩)
  | cons row rows ih =>
    rw [replayFrom, HashChain.Linked, HashChain.head_cons, List.forall_mem_cons]
    by_cases hprev : row.prevHash = prevHash
    · rw [if_neg (not_not.2 hprev), digest_rebuilt]
      have hgenuine : Genuine K row ↔ digest K prevHash row.toEntry.content = .ok row.hash := by
        rw [Genuine, hprev]
      rw [hgenuine]
      cases hdigest : digest K prevHash row.toEntry.content with
      | error x =>
        constructor
        · rintro ⟨v, hv, -⟩
          cases hv
        · rintro ⟨⟨-, h, -⟩, -⟩
          cases h
      | ok expected =>
        by_cases hhash : expected = row.hash
        · have hstep : (do
              let expected ← (Except.ok expected : Except AuditErr String)
              if expected ≠ row.hash then
                pure {
                  valid := false, chainKey := key, checked := checked, seq := some row.seq
                  chainSeq := some row.chainSeq
                  error := some "row content does not match its hash" }
              else replayFrom K key stored row.hash (checked + 1) rows) =
                replayFrom K key stored row.hash (checked + 1) rows := by
            simp only [bind, Except.bind, hhash, ne_eq, not_true_eq_false, if_false]
          rw [hstep, ih, hhash]
          constructor
          · rintro ⟨⟨hlinked, hall⟩, hhead⟩
            exact ⟨⟨⟨hprev, hlinked⟩, rfl, hall⟩, hhead⟩
          · rintro ⟨⟨⟨-, hlinked⟩, -, hall⟩, hhead⟩
            exact ⟨⟨hlinked, hall⟩, hhead⟩
        · simp only [bind, Except.bind, ne_eq, hhash, not_false_eq_true, if_true]
          constructor
          · rintro ⟨v, hv, hvalid⟩
            rw [← Except.ok.inj hv] at hvalid
            cases hvalid
          · rintro ⟨⟨-, h, -⟩, -⟩
            exact absurd (Except.ok.inj h) hhash
    · rw [if_pos hprev]
      constructor
      · rintro ⟨v, hv, hvalid⟩
        rw [← Except.ok.inj hv] at hvalid
        cases hvalid
      · rintro ⟨⟨⟨h, -⟩, -⟩, -⟩
        exact absurd h hprev

/-- **A chain is valid** when its events replay up to its stored head. -/
theorem verifyChain_valid {chains : Chains} {rows : List AuditRow} {key : String} :
    Valid (verifyChain K chains rows key) ↔ Replays K (eventsOf rows key) ∧
      ∀ chain ∈ chains.lookup key,
        chain.headHash = HashChain.head hashOf genesisPrevHash (eventsOf rows key) := by
  rw [verifyChain, replayFrom_valid]
  exact and_congr_left' ⟨fun h => ⟨h.1, h.2⟩, fun h => ⟨h.1, h.2⟩⟩

/-! ## The root of the heads -/

/-- One head, as it is hashed. -/
def headJson (e : String × ChainRow) : Json :=
  .obj [("chain_key", .str e.1), ("head", .str e.2.headHash)]

theorem headJson_sorted (e : String × ChainRow) : (headJson e).sorted = headJson e := by
  have hkeys : ([("chain_key", Json.str e.1), ("head", .str e.2.headHash)].map
      Prod.fst).Pairwise fun a b => ¬ b < a := by
    simp only [List.map_cons, List.map_nil]
    decide
  rw [headJson, sorted_obj hkeys]
  rfl

theorem sortedItems_eq_map (items : List Json) : Json.sortedItems items = items.map Json.sorted := by
  induction items with
  | nil => rfl
  | cons item items ih => rw [Json.sortedItems, List.map_cons, ih]

theorem headsJson_sorted (chains : Chains) : (headsJson chains).sorted = headsJson chains := by
  rw [headsJson, Json.sorted, sortedItems_eq_map, List.map_map]
  congr 1
  exact List.map_congr_left fun e _ => headJson_sorted e

theorem dumpItems_isSome {items : List Json} (h : ∀ item ∈ items, (dump item).isSome) :
    (dumpItems items).isSome := by
  induction items with
  | nil => rfl
  | cons item items ih =>
    obtain ⟨t, ht⟩ := Option.isSome_iff_exists.1 (h item List.mem_cons_self)
    obtain ⟨ts, hts⟩ := Option.isSome_iff_exists.1
      (ih fun x hx => h x (List.mem_cons_of_mem _ hx))
    rw [dumpItems, ht, hts]
    rfl

/-- The root is always computed. -/
theorem computeRoot_ok (chains : Chains) : ∃ text, canonicalText (headsJson chains) = some text ∧
    computeRoot K chains = .ok (K.sha256 text) := by
  have hitems : (dumpItems ((byKey chains).map headJson)).isSome := by
    refine dumpItems_isSome fun item hitem => ?_
    obtain ⟨e, -, rfl⟩ := List.mem_map.1 hitem
    rfl
  obtain ⟨ts, hts⟩ := Option.isSome_iff_exists.1 hitems
  have htext : ∃ text, canonicalText (headsJson chains) = some text := by
    rw [canonicalText, headsJson_sorted]
    change ∃ text, (((dumpItems ((byKey chains).map headJson)).map _).map _) = some text
    rw [hts]
    exact ⟨_, rfl⟩
  obtain ⟨text, htext⟩ := htext
  refine ⟨text, htext, ?_⟩
  rw [computeRoot, htext]

theorem mem_byKey {chains : Chains} {e : String × ChainRow} : e ∈ byKey chains ↔ e ∈ chains :=
  List.mem_insertionSort _

/-- **Equal texts of heads** are of the same heads. -/
theorem heads_inj {chains chains' : Chains} {text : String}
    (h : canonicalText (headsJson chains) = some text)
    (h' : canonicalText (headsJson chains') = some text) {key : String} {row : ChainRow}
    (hmem : (key, row) ∈ chains) : ∃ row', (key, row') ∈ chains' ∧ row'.headHash = row.headHash := by
  have hsorted := canonicalText_inj h h'
  rw [headsJson_sorted, headsJson_sorted] at hsorted
  have hitems : (byKey chains).map headJson = (byKey chains').map headJson := Json.arr.inj hsorted
  have hitem : headJson (key, row) ∈ (byKey chains').map headJson := by
    rw [← hitems]
    exact List.mem_map_of_mem (mem_byKey.2 hmem)
  obtain ⟨⟨key', row'⟩, hmem', hjson⟩ := List.mem_map.1 hitem
  simp only [headJson, Json.obj.injEq, List.cons.injEq, Prod.mk.injEq, Json.str.injEq, true_and,
    and_true] at hjson
  obtain ⟨rfl, hhead⟩ := hjson
  exact ⟨row', mem_byKey.1 hmem', hhead⟩

/-! ## All chains -/

/-- A report that all chains are valid. -/
def AllValid (report : Except AuditErr Report) : Prop := ∃ r, report = .ok r ∧ r.valid = true

/-- **All chains are valid** when each is. -/
theorem verifyAll_valid {chains : Chains} {rows : List AuditRow} :
    AllValid (verifyAll K chains rows) ↔ ∀ e ∈ chains, Valid (verifyChain K chains rows e.1) := by
  obtain ⟨text, -, hroot⟩ := computeRoot_ok (K := K) chains
  rw [verifyAll]
  simp only [bind, Except.bind, hroot]
  cases hresults : (byKey chains).mapM fun e => verifyChain K chains rows e.1 with
  | error x =>
    constructor
    · rintro ⟨r, hr, -⟩
      cases hr
    · intro h
      obtain ⟨ys, hys⟩ := mapM_of_forall (l := byKey chains)
        (f := fun e => verifyChain K chains rows e.1) fun e he => by
          obtain ⟨v, hv, -⟩ := h e (mem_byKey.1 he)
          exact ⟨v, hv⟩
      rw [hys] at hresults
      cases hresults
  | ok results =>
    have hall := mapM_forall₂ hresults
    have hvalid : AllValid (.ok {
        valid := (results.filter fun r => !r.valid).isEmpty, chains := results.length
        checked := (results.map (·.checked)).sum, root := K.sha256 text
        broken := results.filter fun r => !r.valid }) ↔ ∀ r ∈ results, r.valid = true := by
      constructor
      · rintro ⟨r, hr, hok⟩ v hv
        rw [← Except.ok.inj hr, List.isEmpty_iff, List.filter_eq_nil_iff] at hok
        simpa using hok v hv
      · intro h
        refine ⟨_, rfl, ?_⟩
        rw [List.isEmpty_iff, List.filter_eq_nil_iff]
        intro v hv
        simp [h v hv]
    refine hvalid.trans ⟨fun h e he => ?_, fun h v hv => ?_⟩
    · obtain ⟨i, hi, rfl⟩ := List.getElem_of_mem (mem_byKey.2 he)
      have hi' : i < results.length := by rw [← hall.length_eq]; exact hi
      exact ⟨results[i], hall.get hi hi', h _ (List.getElem_mem hi')⟩
    · obtain ⟨i, hi, rfl⟩ := List.getElem_of_mem hv
      have hi' : i < (byKey chains).length := by rw [hall.length_eq]; exact hi
      have hget := hall.get hi' hi
      obtain ⟨w, hw, hwvalid⟩ := h _ (mem_byKey.1 (List.getElem_mem hi'))
      have hsame : Except.ok results[i] = Except.ok w := hget.symm.trans hw
      rw [Except.ok.inj hsame]
      exact hwvalid

/-- A report names a broken chain when it is not valid. -/
theorem verifyAll_broken {chains : Chains} {rows : List AuditRow} {r : Report}
    (h : verifyAll K chains rows = .ok r) : r.valid = true ↔ r.broken = [] := by
  obtain ⟨text, -, hroot⟩ := computeRoot_ok (K := K) chains
  rw [verifyAll] at h
  simp only [bind, Except.bind, hroot] at h
  cases hresults : (byKey chains).mapM fun e => verifyChain K chains rows e.1 with
  | error x =>
    rw [hresults] at h
    cases h
  | ok results =>
    rw [hresults] at h
    rw [← Except.ok.inj h]
    exact List.isEmpty_iff

/-- A report that the latest checkpoint is valid. -/
def CheckpointValid (report : Except AuditErr CheckpointReport) : Prop :=
  ∃ r, report = .ok r ∧ r.valid = some true

/-- **The latest checkpoint is valid** when all chains are and the root it stores is theirs. -/
theorem verifyCheckpoint_valid {d : Database} : CheckpointValid (verifyCheckpoint K d) ↔
    ∃ row, d.checkpoints.getLast? = some row ∧ AllValid (verifyAll K d.chains d.auditEvents) ∧
      computeRoot K d.chains = .ok row.rootHash := by
  rw [verifyCheckpoint]
  cases hlast : d.checkpoints.getLast? with
  | none =>
    constructor
    · rintro ⟨r, hr, hvalid⟩
      rw [← Except.ok.inj hr] at hvalid
      cases hvalid
    · rintro ⟨row, hrow, -⟩
      cases hrow
  | some row =>
    obtain ⟨text, -, hroot⟩ := computeRoot_ok (K := K) d.chains
    simp only [bind, Except.bind, hroot]
    cases hreplay : verifyAll K d.chains d.auditEvents with
    | error x =>
      constructor
      · rintro ⟨r, hr, -⟩
        cases hr
      · rintro ⟨-, -, ⟨r, hr, -⟩, -⟩
        cases hr
    | ok replay =>
      have hbroken := verifyAll_broken hreplay
      simp only
      cases hlist : replay.broken with
      | cons broken rest =>
        constructor
        · rintro ⟨r, hr, hvalid⟩
          rw [← Except.ok.inj hr] at hvalid
          cases hvalid
        · rintro ⟨-, -, ⟨r, hr, hok⟩, -⟩
          rw [← Except.ok.inj hr] at hok
          rw [hbroken.1 hok] at hlist
          cases hlist
      | nil =>
        simp only
        by_cases hsame : row.rootHash = K.sha256 text
        · rw [if_neg (not_not.2 hsame)]
          exact ⟨fun _ => ⟨row, rfl, ⟨replay, rfl, hbroken.2 hlist⟩, congrArg Except.ok hsame.symm⟩,
            fun _ => ⟨_, rfl, rfl⟩⟩
        · rw [if_pos hsame]
          constructor
          · rintro ⟨r, hr, hvalid⟩
            rw [← Except.ok.inj hr] at hvalid
            cases hvalid
          · rintro ⟨row', hrow', -, hroot'⟩
            obtain rfl := Option.some.inj hrow'
            exact absurd (Except.ok.inj hroot').symm hsame

end TryTrust.Audit.Agent
