import TryTrust.Audit.Checkpoint
import TryTrust.CanonicalRead

/-!
# The texts of the agent's events

`append` stores the canonical text of a payload and `verify_chain` reads it back with `json.loads`.
Here the rows hold the texts, and the replay of `AgentChains`, over values, is what it computes.

* `StoredRow`, `stored`, `StoredRow.read`; `textsOf`, `replayTexts`, `verifyTexts`;
* `replayTexts_valid`: a chain of texts is valid when they read as rows of a valid chain;
* `Says`: a text of the payload, up to the order of keys; `Apart`: two texts do not collide;
* **`texts_verify`**: in every state of every run of appends the stored texts verify, and rewritten
  ones exactly when they say the same payloads.
-/

namespace TryTrust.Audit.Agent

open Conc

/-! ## Rows of texts -/

/-- A row of `audit_events` whose payload is a text. -/
structure StoredRow where
  seq : ℤ
  chainKey : String
  chainSeq : ℕ
  eventId : String
  type : String
  actor : Option String
  agentId : Option String
  runId : Option String
  mandateJti : Option String
  payload : String
  prevHash : String
  hash : String
  rootSig : Option String
  createdAt : String

/-- A row with a text for its payload. -/
def stored (row : AuditRow) (text : String) : StoredRow where
  seq := row.seq
  chainKey := row.chainKey
  chainSeq := row.chainSeq
  eventId := row.eventId
  type := row.type
  actor := row.actor
  agentId := row.agentId
  runId := row.runId
  mandateJti := row.mandateJti
  payload := text
  prevHash := row.prevHash
  hash := row.hash
  rootSig := row.rootSig
  createdAt := row.createdAt

/-- A row with a value for its payload. -/
def StoredRow.withPayload (row : StoredRow) (payload : Json) : AuditRow where
  seq := row.seq
  chainKey := row.chainKey
  chainSeq := row.chainSeq
  eventId := row.eventId
  type := row.type
  actor := row.actor
  agentId := row.agentId
  runId := row.runId
  mandateJti := row.mandateJti
  payload := payload
  prevHash := row.prevHash
  hash := row.hash
  rootSig := row.rootSig
  createdAt := row.createdAt

/-- A row as `verify_chain` reads it; `json.loads` raises a `ValueError`. -/
def StoredRow.read (row : StoredRow) : Except AuditErr AuditRow :=
  match JsonText.loads row.payload with
  | some payload => .ok (row.withPayload payload)
  | none => .error (.value "JSONDecodeError")

/-- The row that `append` stores. -/
def storedRow (row : AuditRow) : StoredRow := stored row ((canonicalText row.payload).getD "")

/-- The events of a chain, `ORDER BY chain_seq`. -/
def textsOf (rows : List StoredRow) (key : String) : List StoredRow :=
  (rows.filter fun r => r.chainKey = key).insertionSort fun a b => a.chainSeq ≤ b.chainSeq

section Replay

variable (K : Crypto)

/-- The loop of `verify_chain` over texts. -/
def replayTexts (key : String) (head : Option ChainRow) :
    String → ℕ → List StoredRow → Except AuditErr Verdict
  | prevHash, checked, [] =>
    if head.any fun chain => chain.headHash ≠ prevHash then
      .ok {
        valid := false, chainKey := key, checked := checked
        error := some "chain head does not match the replayed events" }
    else .ok { valid := true, chainKey := key, checked := checked, head := some prevHash }
  | prevHash, checked, text :: texts => do
    let row ← text.read
    if row.prevHash ≠ prevHash then
      pure {
        valid := false, chainKey := key, checked := checked, seq := some row.seq
        chainSeq := some row.chainSeq, error := some "prev_hash does not match the previous event" }
    else do
      let expected ← digest K prevHash row.content
      if expected ≠ row.hash then
        pure {
          valid := false, chainKey := key, checked := checked, seq := some row.seq
          chainSeq := some row.chainSeq, error := some "row content does not match its hash" }
      else replayTexts key head row.hash (checked + 1) texts

/-- `verify_chain` over texts. -/
def verifyTexts (chains : Chains) (rows : List StoredRow) (key : String) :
    Except AuditErr Verdict :=
  replayTexts K key (chains.lookup key) genesisPrevHash 0 (textsOf rows key)

end Replay

/-! ## Texts that read as values -/

/-! ## Chains of a run -/

theorem chain_valid {K : Crypto} {chains : Chains} {rows : List AuditRow}
    (h : ∀ key, ChainOk K chains rows key) (key : String) :
    Valid (verifyChain K chains rows key) := by
  rw [verifyChain_valid, eventsOf_numbered (h key).numbered]
  refine ⟨(h key).replays, fun row hrow => ?_⟩
  rw [(h key).head row (mem_of_lookup hrow)]
  rfl

section Texts

variable {K : Crypto} {key : String} {head : Option ChainRow}

theorem replayTexts_cons {prevHash : String} {checked : ℕ} {text : StoredRow} {row : AuditRow}
    (h : text.read = .ok row) {texts : List StoredRow} {rows : List AuditRow}
    (hrest : replayTexts K key head row.hash (checked + 1) texts =
      replayFrom K key head row.hash (checked + 1) rows) :
    replayTexts K key head prevHash checked (text :: texts) =
      replayFrom K key head prevHash checked (row :: rows) := by
  rw [replayTexts, replayFrom, h, digest_rebuilt, ← hrest]
  rfl

/-- **Texts that read as rows** are replayed as these are. -/
theorem replayTexts_eq {texts : List StoredRow} {rows : List AuditRow}
    (h : List.Forall₂ (fun text row => text.read = .ok row) texts rows) (prevHash : String)
    (checked : ℕ) :
    replayTexts K key head prevHash checked texts =
      replayFrom K key head prevHash checked rows := by
  induction h generalizing prevHash checked with
  | nil => rfl
  | cons hread _ ih => exact replayTexts_cons hread (ih _ _)

theorem not_valid_of_invalid {v : Verdict} (h : v.valid = false) :
    ¬ Valid (pure v : Except AuditErr Verdict) := by
  rintro ⟨w, hw, hvalid⟩
  rw [← Except.ok.inj hw, h] at hvalid
  cases hvalid

/-- A valid chain is valid from its second event on. -/
theorem valid_tail {prevHash : String} {checked : ℕ} {text : StoredRow} {texts : List StoredRow}
    (h : Valid (replayTexts K key head prevHash checked (text :: texts))) :
    ∃ row, text.read = .ok row ∧
      Valid (replayTexts K key head row.hash (checked + 1) texts) := by
  rw [replayTexts] at h
  cases hread : text.read with
  | error x =>
    rw [hread] at h
    obtain ⟨v, hv, -⟩ := h
    cases hv
  | ok row =>
    refine ⟨row, rfl, ?_⟩
    rw [hread] at h
    by_cases hprev : row.prevHash = prevHash
    · cases hdigest : digest K prevHash row.content with
      | error x =>
        simp only [bind, Except.bind, ne_eq, hprev, not_true_eq_false, if_false, hdigest] at h
        obtain ⟨v, hv, -⟩ := h
        cases hv
      | ok expected =>
        by_cases hhash : expected = row.hash
        · simpa only [bind, Except.bind, ne_eq, hprev, not_true_eq_false, if_false, hdigest,
            hhash] using h
        · simp only [bind, Except.bind, ne_eq, hprev, not_true_eq_false, if_false, hdigest, hhash,
            not_false_eq_true, if_true] at h
          exact absurd h (not_valid_of_invalid rfl)
    · simp only [bind, Except.bind, ne_eq, hprev, not_false_eq_true, if_true] at h
      exact absurd h (not_valid_of_invalid rfl)

/-- **A chain of texts is valid** when they read as rows of a valid chain. -/
theorem replayTexts_valid {texts : List StoredRow} (prevHash : String) (checked : ℕ) :
    Valid (replayTexts K key head prevHash checked texts) ↔
      ∃ rows, List.Forall₂ (fun text row => text.read = .ok row) texts rows ∧
        Valid (replayFrom K key head prevHash checked rows) := by
  constructor
  · intro h
    have hrows : ∃ rows, List.Forall₂ (fun text row => text.read = .ok row) texts rows := by
      induction texts generalizing prevHash checked with
      | nil => exact ⟨[], .nil⟩
      | cons text texts ih =>
        obtain ⟨row, hread, htail⟩ := valid_tail h
        obtain ⟨rows, hrows⟩ := ih _ _ htail
        exact ⟨row :: rows, .cons hread hrows⟩
    obtain ⟨rows, hrows⟩ := hrows
    rw [replayTexts_eq hrows] at h
    exact ⟨rows, hrows, h⟩
  · rintro ⟨rows, hrows, h⟩
    rwa [replayTexts_eq hrows]

/-! ## Rewritten texts -/

/-- The rows with other texts for their payloads. -/
def rewritten (rewrite : AuditRow → String) (rows : List AuditRow) : List StoredRow :=
  rows.map fun row => stored row (rewrite row)

theorem textsOf_rewritten (rewrite : AuditRow → String) (rows : List AuditRow) (key : String) :
    textsOf (rewritten rewrite rows) key = rewritten rewrite (eventsOf rows key) := by
  have hfilter : (rows.map fun row => stored row (rewrite row)).filter (fun r => r.chainKey = key) =
      (rows.filter fun r => r.chainKey = key).map fun row => stored row (rewrite row) := by
    rw [List.filter_map]
    rfl
  rw [textsOf, rewritten, hfilter, eventsOf, rewritten]
  exact (List.map_insertionSort (fun a b : AuditRow => a.chainSeq ≤ b.chainSeq)
    (fun a b : StoredRow => a.chainSeq ≤ b.chainSeq) (fun row => stored row (rewrite row)) _
    fun a _ b _ => Iff.rfl).symm

theorem read_stored {row : AuditRow} {text : String} {r : AuditRow} :
    (stored row text).read = .ok r ↔
      ∃ v, JsonText.loads text = some v ∧ r = { row with payload := v } := by
  have hpayload : (stored row text).payload = text := rfl
  unfold StoredRow.read
  rw [hpayload]
  cases JsonText.loads text with
  | none => simp
  | some v =>
    simp only [Except.ok.injEq, Option.some.injEq, exists_eq_left']
    exact eq_comm

/-- A text says the payload of a row, up to the order of keys. -/
def Says (row : AuditRow) (text : String) : Prop :=
  ∃ v, JsonText.loads text = some v ∧ v.sorted = row.payload.sorted

/-- What is hashed of a row whose text says another payload has another hash. -/
def Apart (K : Crypto) (row : AuditRow) (text : String) : Prop :=
  ∀ v a b, JsonText.loads text = some v → canonicalText row.content = some a →
    canonicalText { row with payload := v }.content = some b →
      K.sha256 (row.prevHash ++ a) = K.sha256 (row.prevHash ++ b) → a = b

theorem digest_congr {prevHash : String} {v w : Json} (h : v.sorted = w.sorted) :
    digest K prevHash v = digest K prevHash w := by
  rw [digest, digest, canonicalText, canonicalText, h]

theorem content_sorted {row : AuditRow} {v : Json} (h : v.sorted = row.payload.sorted) :
    ({ row with payload := v } : AuditRow).content.sorted = row.content.sorted := by
  simp only [Entry.content, Json.sorted, Json.sortedFields, h]

/-- Texts that say the payloads are replayed as the rows are. -/
theorem replayTexts_says {rewrite : AuditRow → String} {rows : List AuditRow}
    (h : ∀ row ∈ rows, Says row (rewrite row)) (prevHash : String) (checked : ℕ) :
    replayTexts K key head prevHash checked (rewritten rewrite rows) =
      replayFrom K key head prevHash checked rows := by
  induction rows generalizing prevHash checked with
  | nil => rfl
  | cons row rows ih =>
    obtain ⟨⟨v, hloads, hsorted⟩, hrest⟩ := List.forall_mem_cons.1 h
    have hread : (stored row (rewrite row)).read = .ok { row with payload := v } :=
      read_stored.2 ⟨v, hloads, rfl⟩
    have hdigest : digest K prevHash ({ row with payload := v } : AuditRow).content =
        digest K prevHash row.content := digest_congr (content_sorted hsorted)
    rw [rewritten, List.map_cons, ← rewritten, replayTexts, replayFrom, hread, digest_rebuilt,
      ← hdigest, ← ih hrest]
    rfl

theorem exists_of_forall₂ {α β : Type} {R : α → β → Prop} {l : List α} {l' : List β}
    (h : List.Forall₂ R l l') {a : α} (ha : a ∈ l) : ∃ b ∈ l', R a b := by
  induction h with
  | nil => cases ha
  | cons hab _ ih =>
    rcases List.mem_cons.1 ha with rfl | ha
    · exact ⟨_, List.mem_cons_self, hab⟩
    · obtain ⟨b, hb, hr⟩ := ih ha
      exact ⟨b, List.mem_cons_of_mem _ hb, hr⟩

/-- In a valid chain every text reads as a value with the row's hash. -/
theorem genuine_of_valid {rewrite : AuditRow → String} {rows : List AuditRow} {prevHash : String}
    {checked : ℕ} (h : Valid (replayTexts K key head prevHash checked (rewritten rewrite rows))) :
    ∀ row ∈ rows, ∃ v, JsonText.loads (rewrite row) = some v ∧
      Genuine K { row with payload := v } := by
  obtain ⟨read, hread, hvalid⟩ := (replayTexts_valid _ _).1 h
  obtain ⟨⟨-, hgenuine⟩, -⟩ := (replayFrom_valid _ _ _ _).1 hvalid
  intro row hrow
  obtain ⟨r, hr, hsame⟩ := exists_of_forall₂ (List.forall₂_map_left_iff.1 hread) hrow
  obtain ⟨v, hloads, rfl⟩ := read_stored.1 hsame
  exact ⟨v, hloads, hgenuine _ hr⟩

/-- A text that reads as a value with the row's hash says its payload. -/
theorem says_of_genuine {row : AuditRow} {text : String} {v : Json} (hgenuine : Genuine K row)
    (hapart : Apart K row text) (hloads : JsonText.loads text = some v)
    (h : Genuine K { row with payload := v }) : Says row text := by
  obtain ⟨a, ha, hhash⟩ := genuine_text hgenuine
  obtain ⟨b, hb, hhash'⟩ := genuine_text h
  have hsame := hapart v a b hloads ha hb (hhash.symm.trans hhash')
  subst hsame
  exact ⟨v, hloads, (content_inj (canonicalText_inj hb ha)).payload⟩

/-! ## The texts of a run -/

theorem canonicalText_isSome (v : Json) : (canonicalText v).isSome = Jcs.integral v := by
  rw [canonicalText, Option.isSome_map, Jcs.dump_isSome, Jcs.sorted_eq_arrange]
  exact Jcs.numbers_arrange Jcs.byChars Jcs.isInt v

/-- A payload that is hashed has a text. -/
theorem text_of_genuine {row : AuditRow} (h : Genuine K row) :
    ∃ text, canonicalText row.payload = some text := by
  obtain ⟨a, ha, -⟩ := genuine_text h
  have hcontent : Jcs.integral row.content = true := by
    rw [← canonicalText_isSome, ha]
    rfl
  have hpayload : Jcs.integral row.payload = true := by
    simp only [Entry.content, Jcs.integral, Jcs.numbers, Jcs.numbersFields,
      Bool.and_eq_true] at hcontent
    exact hcontent.2.2.2.2.2.2.1
  rw [← canonicalText_isSome] at hpayload
  exact Option.isSome_iff_exists.1 hpayload

/-- A stored text says its payload. -/
theorem says_stored {row : AuditRow} (hdistinct : JsonText.Distinct row.payload) {text : String}
    (htext : canonicalText row.payload = some text) : Says row (storedRow row).payload := by
  have hstored : (storedRow row).payload = text := by
    show (canonicalText row.payload).getD "" = text
    rw [htext]
    rfl
  rw [hstored]
  exact ⟨_, loads_canonicalText hdistinct htext, sorted_sorted _⟩

end Texts

/-- **The stored texts** of the agent lane. In every state that any number of connections reach by
any number of appends, whatever fails: every payload's text is read back as an equal value, with the
same text; every chain of texts is valid; and with any payload texts rewritten a chain is valid
exactly when they still say the payloads that were appended. -/
theorem texts_verify {ι : Type} [DecidableEq ι] (K : Crypto) (scrubPayload : Json → Json)
    (requests : ι → List AgentRequest)
    (hdistinct : ∀ i, ∀ request ∈ requests i, JsonText.Distinct (clean scrubPayload request))
    {xs : List (ι × Fate)}
    (hlocks : (appendSystem ι).Along Granted (appendStart K scrubPayload requests) xs) :
    let s := ((appendSystem ι).run (appendStart K scrubPayload requests) xs).shared
    (∀ row ∈ s.auditEvents, ∃ text v, canonicalText row.payload = some text ∧
      JsonText.loads text = some v ∧ v.pyEq row.payload = true ∧ canonicalText v = some text) ∧
    (∀ key, Valid (verifyTexts K s.chains (s.auditEvents.map storedRow) key)) ∧
    ∀ rewrite key, (∀ row ∈ eventsOf s.auditEvents key, Apart K row (rewrite row)) →
      (Valid (verifyTexts K s.chains (rewritten rewrite s.auditEvents) key) ↔
        ∀ row ∈ eventsOf s.auditEvents key, Says row (rewrite row)) := by
  intro s
  have hinv := appends_reach K scrubPayload requests hlocks
  have hpayload : ∀ row ∈ s.auditEvents, JsonText.Distinct row.payload := by
    intro row hrow
    obtain ⟨request, ⟨i, hi⟩, ⟨head, hash, hentry⟩, -⟩ := hinv.sent row hrow
    rw [hentry]
    exact hdistinct i request hi
  have hgenuine : ∀ row ∈ s.auditEvents, Genuine K row := fun row hrow =>
    (hinv.chain row.chainKey).replays.genuine row (List.mem_filter.2 ⟨hrow, by simp⟩)
  have hsays : ∀ rewrite key, (∀ row ∈ eventsOf s.auditEvents key, Says row (rewrite row)) →
      Valid (verifyTexts K s.chains (rewritten rewrite s.auditEvents) key) := by
    intro rewrite key h
    rw [verifyTexts, textsOf_rewritten, replayTexts_says h]
    exact chain_valid hinv.chain key
  refine ⟨fun row hrow => ?_, fun key => ?_, fun rewrite key hapart => ⟨fun h row hrow => ?_,
    hsays rewrite key⟩⟩
  · obtain ⟨text, htext⟩ := text_of_genuine (hgenuine row hrow)
    refine ⟨text, _, htext, loads_canonicalText (hpayload row hrow) htext,
      pyEq_sorted (hpayload row hrow), ?_⟩
    rw [canonicalText, sorted_sorted]
    exact htext
  · refine hsays (fun row => (canonicalText row.payload).getD "") key fun row hrow => ?_
    have hmem := mem_eventsOf hrow
    obtain ⟨text, htext⟩ := text_of_genuine (hgenuine row hmem)
    exact says_stored (hpayload row hmem) htext
  · rw [verifyTexts, textsOf_rewritten] at h
    obtain ⟨v, hloads, hread⟩ := genuine_of_valid h row hrow
    exact says_of_genuine (hgenuine row (mem_eventsOf hrow)) (hapart row hrow) hloads hread

/-- The texts of the three appends verify. -/
theorem texts_verify_raced :
    Valid (verifyTexts textCrypto
      ((appendSystem Bool).run (appendStart textCrypto id racing) raced).shared.chains
      (((appendSystem Bool).run (appendStart textCrypto id racing) raced).shared.auditEvents.map
        storedRow) "mdt_1") := by
  have hdistinct : ∀ i, ∀ request ∈ racing i, JsonText.Distinct (clean id request) := by
    intro i
    cases i <;> simp [racing, clean, JsonText.Distinct, JsonText.DistinctFields]
  exact (texts_verify textCrypto id racing hdistinct (by decide +kernel)).2.1 "mdt_1"

end TryTrust.Audit.Agent
