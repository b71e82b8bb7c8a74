import TryTrust.Audit.Service

/-!
# Genuine chains and the verdict on them

A partition whose rows are what the ledger wrote: hashes recompute, links join, numbers increase.
What `verifyChain` and `signRoot` say of it depends on its numbers alone.

* `Genuine`, `Linked`: rows as the ledger writes them; `Linked.append`: one more row;
* `Consecutive`: no number is left out between two rows;
* `validateFrom_linked`: the loop accepts exactly the consecutive rows;
* **`verifies_iff`**, **`signs_iff`**: `verifyChain` and `signRoot` over the whole partition.
-/

namespace TryTrust.Audit

variable (K : Crypto)

/-! ## Rows as the ledger writes them -/

/-- A row with the hash of its own content. -/
structure Genuine (row : AuditRow) : Prop where
  mandate : ∃ m t, row.mandateJti = some m ∧ row.createdAt = Instant.iso t ∧
    computeEventHash K m row.type row.payload row.prevHash t = .ok row.hash
  prev : IsHex64 row.prevHash
  unsigned : row.rootSig = none
  positive : 1 ≤ row.seq

/-- The hash that the next row continues. -/
def tailHash (rows : List AuditRow) : String := (rows.getLast?.map (·.hash)).getD genesisPrevHash

/-- Rows in the order in which the ledger wrote them. -/
structure Linked (rows : List AuditRow) : Prop where
  genuine : ∀ r ∈ rows, Genuine K r
  first : ∀ r ∈ rows.head?, r.prevHash = genesisPrevHash
  links : rows.IsChain fun a b => b.prevHash = a.hash
  ordered : rows.Pairwise fun a b => a.seq < b.seq

/-- No number is left out between two rows. -/
def Consecutive (rows : List AuditRow) : Prop := rows.IsChain fun a b => b.seq = a.seq + 1

variable {K}

theorem Genuine.hash_hex {row : AuditRow} (h : Genuine K row) : IsHex64 row.hash := by
  obtain ⟨m, t, -, -, hhash⟩ := h.mandate
  exact (computeEventHash_ok hhash).2.2.1

theorem Linked.nil : Linked K [] := by
  refine ⟨?_, ?_, List.isChain_nil, List.Pairwise.nil⟩
  · intro r hr
    cases hr
  · intro r hr
    cases hr

theorem Linked.tail_hex {rows : List AuditRow} (h : Linked K rows) : IsHex64 (tailHash rows) := by
  rcases List.eq_nil_or_concat' rows with rfl | ⟨init, row, rfl⟩
  · exact genesis_hex64
  · rw [tailHash, List.getLast?_concat]
    exact (h.genuine row (by simp)).hash_hex

/-- One more row on the chain. -/
theorem Linked.append {rows : List AuditRow} (h : Linked K rows) {row : AuditRow}
    (hrow : Genuine K row) (hprev : row.prevHash = tailHash rows)
    (hseq : ∀ r ∈ rows, r.seq < row.seq) : Linked K (rows ++ [row]) := by
  refine ⟨?_, ?_, ?_, ?_⟩
  · intro r hr
    rcases List.mem_append.1 hr with hr | hr
    · exact h.genuine r hr
    · rw [List.mem_singleton.1 hr]
      exact hrow
  · intro r hr
    cases rows with
    | nil =>
      cases hr
      exact hprev
    | cons a l => exact h.first r hr
  · rw [List.isChain_append]
    refine ⟨h.links, List.isChain_singleton _, fun a ha b hb => ?_⟩
    cases hb
    rw [hprev, tailHash, Option.mem_def.1 ha]
    rfl
  · rw [List.pairwise_append]
    refine ⟨h.ordered, List.pairwise_singleton _ _, fun a ha b hb => ?_⟩
    rw [List.mem_singleton.1 hb]
    exact hseq a ha

theorem consecutive_append {rows : List AuditRow} {row : AuditRow} :
    Consecutive (rows ++ [row]) ↔
      Consecutive rows ∧ ∀ last ∈ rows.getLast?, row.seq = last.seq + 1 := by
  rw [Consecutive, List.isChain_append]
  constructor
  · rintro ⟨h, -, hlast⟩
    exact ⟨h, fun last hl => hlast last hl row rfl⟩
  · rintro ⟨h, hlast⟩
    refine ⟨h, List.isChain_singleton _, fun last hl r hr => ?_⟩
    cases hr
    exact hlast last hl

/-- The number of the last of consecutive rows. -/
theorem Consecutive.last_seq {first : AuditRow} {rest : List AuditRow}
    (h : Consecutive (first :: rest)) :
    ((first :: rest).getLastD first).seq = first.seq + rest.length := by
  induction rest generalizing first with
  | nil => simp
  | cons r rest ih =>
    rw [Consecutive, List.isChain_cons_cons] at h
    have hrest := ih h.2
    simp only [List.getLastD_cons, List.length_cons] at hrest ⊢
    rw [hrest, h.1]
    push_cast
    omega

/-! ## Reading them back -/

/-- A row of the partition as an event. -/
def eventOf (row : AuditRow) : AuditEvent where
  mandateId := row.mandateJti.getD "None"
  type := row.type
  payload := row.payload
  prevHash := row.prevHash
  hash := row.hash
  createdAt := (parseIso row.createdAt).getD ""
  seq := some row.seq
  rootSig := none

theorem rowToEvent_genuine {row : AuditRow} (h : Genuine K row) :
    rowToEvent row = .ok (eventOf row) := by
  obtain ⟨m, t, hm, ht, hhash⟩ := h.mandate
  obtain ⟨hne, htype, hhex, -⟩ := computeEventHash_ok hhash
  have hpos := h.positive
  have hstrip := strip_hex64 h.prev
  have hstrip' := strip_hex64 hhex
  have hparse := parseIso_iso t
  simp only [rowToEvent, AuditEvent.check, eventOf, hm, ht, hparse, h.unsigned, hstrip, hstrip',
    Option.getD_some, if_neg hne, if_neg htype, if_neg h.prev.ne_empty, if_neg hhex.ne_empty,
    Option.any_some, Option.filter_none]
  rw [if_neg]
  simp only [decide_eq_true_eq]
  omega

theorem mapM_ok {α β : Type} {f : α → Except AuditErr β} {g : α → β} {l : List α}
    (h : ∀ a ∈ l, f a = .ok (g a)) : l.mapM f = .ok (l.map g) := by
  induction l with
  | nil => rfl
  | cons a l ih =>
    rw [List.mapM_cons, h a List.mem_cons_self,
      ih fun b hb => h b (List.mem_cons_of_mem a hb)]
    rfl

theorem bySeq_ordered {rows : List AuditRow} (h : rows.Pairwise fun a b => a.seq < b.seq) :
    bySeq rows = rows := by
  refine List.mergeSort_of_pairwise (h.imp fun hlt => ?_)
  have hle := le_of_lt hlt
  simpa using hle

theorem getAll_linked {rows : List AuditRow} (h : Linked K (apiRows rows)) :
    (postgresReads rows).all = .ok ((apiRows rows).map eventOf) := by
  rw [postgresReads, bySeq_ordered h.ordered]
  exact mapM_ok fun r hr => rowToEvent_genuine (h.genuine r hr)

/-- The range from the first to the last number is the whole partition. -/
theorem getRange_linked {rows : List AuditRow} {first : AuditRow} {rest : List AuditRow}
    (hrows : apiRows rows = first :: rest) (h : Linked K (apiRows rows)) :
    (postgresReads rows).range first.seq ((first :: rest).getLastD first).seq =
      .ok ((first :: rest).map eventOf) := by
  have hord := h.ordered
  rw [hrows] at hord
  have hlo : ∀ r ∈ first :: rest, first.seq ≤ r.seq := by
    intro r hr
    rcases List.mem_cons.1 hr with rfl | hr
    · exact le_rfl
    · exact le_of_lt (List.rel_of_pairwise_cons hord hr)
  have hhi : ∀ r ∈ first :: rest, r.seq ≤ ((first :: rest).getLastD first).seq := by
    intro r hr
    rcases List.eq_nil_or_concat' (first :: rest) with hnil | ⟨init, last, hconcat⟩
    · cases hnil
    · rw [hconcat] at hr hord ⊢
      have hlast : (init ++ [last]).getLastD first = last := by simp
      rw [hlast]
      rcases List.mem_append.1 hr with hr | hr
      · exact le_of_lt ((List.pairwise_append.1 hord).2.2 r hr last (List.mem_singleton_self _))
      · rw [List.mem_singleton.1 hr]
  have hall : (apiRows rows).filter (fun r => decide (first.seq ≤ r.seq ∧
      r.seq ≤ ((first :: rest).getLastD first).seq)) = apiRows rows := by
    refine List.filter_eq_self.2 fun r hr => ?_
    rw [hrows] at hr
    simpa using ⟨hlo r hr, hhi r hr⟩
  simp only [postgresReads]
  rw [hall, bySeq_ordered h.ordered, hrows]
  refine mapM_ok fun r hr => rowToEvent_genuine (h.genuine r ?_)
  rw [hrows]
  exact hr

/-! ## The loop -/

theorem validateEvent_genuine {row : AuditRow} (h : Genuine K row) :
    validateEvent K (eventOf row) row.prevHash = .ok none := by
  obtain ⟨m, t, hm, ht, hhash⟩ := h.mandate
  have hrehash : (eventOf row).rehash K = .ok row.hash := by
    simpa [AuditEvent.rehash, eventOf, hm, ht, parseIso_iso t] using hhash
  rw [validateEvent, if_neg fun hne => hne rfl, hrehash]
  exact if_neg fun hne => hne rfl

theorem seqGap_eventOf (prev row : AuditRow) :
    seqGap (eventOf prev) (eventOf row) =
      if row.seq ≠ prev.seq + 1 then some (prev.seq, row.seq) else none := rfl

/-- One row past the continuity check. -/
theorem validateFrom_cons {start : Option String} {i : ℕ} (prev : Option AuditRow)
    {row : AuditRow} {rows : List AuditRow} (hrow : Genuine K row)
    (hprev : expectedPrev start (prev.map eventOf) (eventOf row) = row.prevHash)
    (hseq : ∀ p ∈ prev, row.seq = p.seq + 1) :
    validateFrom K start true i (prev.map eventOf) ((row :: rows).map eventOf) =
      validateFrom K start true (i + 1) (some (eventOf row)) (rows.map eventOf) := by
  have hgap : (prev.map eventOf).bind (seqGap · (eventOf row)) = none := by
    cases prev with
    | none => rfl
    | some p => exact (seqGap_eventOf p row).trans (if_neg (not_not.2 (hseq p rfl)))
  simp only [List.map_cons, validateFrom, if_true, hgap, hprev, validateEvent_genuine hrow]
  rfl

/-- **The loop over linked rows** accepts exactly the consecutive ones. -/
theorem validateFrom_linked (start : Option String) {rows : List AuditRow} (i : ℕ)
    {prev : AuditRow} (hgen : ∀ r ∈ rows, Genuine K r)
    (hlinks : (prev :: rows).IsChain fun a b => b.prevHash = a.hash) :
    ∃ res, validateFrom K start true i (some (eventOf prev)) (rows.map eventOf) = .ok res ∧
      (res.ok = true ↔ Consecutive (prev :: rows)) := by
  induction rows generalizing prev i with
  | nil => exact ⟨_, rfl, by simp [Consecutive]⟩
  | cons row rows ih =>
    rw [List.isChain_cons_cons] at hlinks
    have hrow := hgen row List.mem_cons_self
    by_cases hseq : row.seq = prev.seq + 1
    · obtain ⟨res, hres, hok⟩ := ih (i + 1) (fun r hr => hgen r (List.mem_cons_of_mem _ hr))
        hlinks.2
      refine ⟨res, ?_, ?_⟩
      · rw [← hres]
        exact validateFrom_cons (some prev) hrow hlinks.1.symm fun p hp => by
          cases hp
          exact hseq
      · rw [hok, Consecutive, Consecutive, List.isChain_cons_cons]
        exact ⟨fun h => ⟨hseq, h⟩, fun h => h.2⟩
    · have hgap : seqGap (eventOf prev) (eventOf row) = some (prev.seq, row.seq) := by
        rw [seqGap_eventOf, if_pos hseq]
      refine ⟨_, by simp only [List.map_cons, validateFrom, if_true, Option.bind_some, hgap]; rfl,
        ?_⟩
      rw [Consecutive, List.isChain_cons_cons]
      exact ⟨fun h => absurd h Bool.false_ne_true, fun h => absurd h.1 hseq⟩

/-- `validate_chain` over linked rows, from their own start. -/
theorem validateChain_linked (start : Option String) {first : AuditRow} {rest : List AuditRow}
    (h : Linked K (first :: rest))
    (hstart : expectedPrev start none (eventOf first) = first.prevHash) :
    ∃ res, validateChain K ((first :: rest).map eventOf) start true = .ok res ∧
      (res.ok = true ↔ Consecutive (first :: rest)) := by
  have hfirst := h.genuine first List.mem_cons_self
  obtain ⟨res, hres, hok⟩ := validateFrom_linked start 1
    (fun r hr => h.genuine r (List.mem_cons_of_mem _ hr)) h.links
  refine ⟨res, ?_, hok⟩
  rw [← hres]
  exact validateFrom_cons none hfirst hstart (by simp)

/-! ## The verdicts -/

theorem checkpointRanges_unsigned (run : SigRun) (hrun : run.sig = none) (rows : List AuditRow) :
    checkpointRanges run (rows.map eventOf) = [] := by
  induction rows generalizing run with
  | nil => simp [checkpointRanges, SigRun.range, hrun]
  | cons row rows ih =>
    have hsame : ¬ (eventOf row).rootSig ≠ run.sig := fun hne => hne hrun.symm
    have hstep : checkpointRanges run ((row :: rows).map eventOf) =
        checkpointRanges { run with last := some row.seq } (rows.map eventOf) := if_neg hsame
    rw [hstep]
    exact ih _ hrun

/-- `verify_chain` says that the whole partition is right. -/
def Verifies (K : Crypto) (rows : List AuditRow) (witness : Witness) : Prop :=
  ∃ res, verifyChain K (postgresReads rows) witness none none = .ok res ∧ res.ok = true

/-- `sign_root` over the whole partition returns a checkpoint. -/
def Signs (K : Crypto) (rows : List AuditRow) (witness : Witness) (now : Instant) : Prop :=
  ∃ cp, (signRoot K postgresReads postgresAnnotate rows witness none none now).1 = .ok cp

/-- `verify_chain` after a validation that returned. -/
theorem verifyChain_of_valid {rows : List AuditRow} {first : AuditRow} {rest : List AuditRow}
    (witness : Witness) {res : ChainResult}
    (hall : (postgresReads rows).all = .ok ((first :: rest).map eventOf))
    (hres : validateChain K ((first :: rest).map eventOf) none true = .ok res) :
    verifyChain K (postgresReads rows) witness none none =
      if !res.ok then .ok res
      else verifyRanges K witness ((first :: rest).map eventOf)
        (checkpointRanges {} ((first :: rest).map eventOf)) := by
  simp only [verifyChain, Reads.select, hall, bind, Except.bind, hres]
  rfl

/-- **The verdict of `verify_chain`.** -/
theorem verifies_iff {rows : List AuditRow} (h : Linked K (apiRows rows)) (witness : Witness) :
    Verifies K rows witness ↔ Consecutive (apiRows rows) := by
  have hall := getAll_linked h
  cases hrows : apiRows rows with
  | nil =>
    rw [hrows] at hall
    have hempty : verifyChain K (postgresReads rows) witness none none = .ok { ok := true } := by
      simp only [verifyChain, Reads.select, hall, bind, Except.bind]
      rfl
    exact ⟨fun _ => List.isChain_nil, fun _ => ⟨_, hempty, rfl⟩⟩
  | cons first rest =>
    rw [hrows] at h hall
    have hstart : expectedPrev none none (eventOf first) = first.prevHash := by
      by_cases hone : (eventOf first).seq = some 1
      · exact (if_pos hone).trans (h.first first rfl).symm
      · exact if_neg hone
    obtain ⟨res, hres, hok⟩ := validateChain_linked none h hstart
    have hverdict := verifyChain_of_valid witness hall hres
    rw [checkpointRanges_unsigned {} rfl] at hverdict
    rw [← hok, Verifies, hverdict]
    cases hgood : res.ok with
    | false =>
      refine ⟨fun haccepted => ?_, fun h => absurd h Bool.false_ne_true⟩
      obtain ⟨out, hout, htrue⟩ := haccepted
      rw [← htrue, ← hgood, Except.ok.inj hout]
    | true => exact ⟨fun _ => rfl, fun _ => ⟨_, rfl, rfl⟩⟩

theorem annotated_unsigned (rows : List AuditRow) : annotated (rows.map eventOf) = [] := by
  induction rows with
  | nil => rfl
  | cons row rows ih => exact ih

/-- The range of a first checkpoint is the whole partition. -/
theorem requestedRoot_linked {rows : List AuditRow} {first : AuditRow} {rest : List AuditRow}
    (hrows : apiRows rows = first :: rest) (h : Linked K (apiRows rows)) (now : Instant) :
    requestedRoot K (postgresReads rows) none none now =
      checkpointOf K (postgresReads rows) first.seq ((first :: rest).getLastD first).seq now := by
  have hgen : ∀ r ∈ first :: rest, 1 ≤ r.seq := by
    intro r hr
    rw [← hrows] at hr
    exact (h.genuine r hr).positive
  have hfirst := hgen first List.mem_cons_self
  have hlast : 1 ≤ ((first :: rest).getLastD first).seq := by
    refine hgen _ ?_
    rw [List.getLastD_eq_getLast?, List.getLast?_eq_some_getLast (List.cons_ne_nil _ _)]
    exact List.getLast_mem _
  have hmap : (((first :: rest).map eventOf).getLastD (eventOf first)) =
      eventOf ((first :: rest).getLastD first) := by
    simp only [List.getLastD_eq_getLast?, List.getLast?_map]
    cases (first :: rest).getLast? <;> rfl
  have hstart : defaultStart ((first :: rest).map eventOf) (eventOf first) = first.seq := by
    have hzero : ¬ (eventOf first).seq = some 0 := fun h => by
      have := Option.some.inj h
      omega
    rw [defaultStart, annotated_unsigned]
    exact if_neg hzero
  have hend : defaultEnd ((first :: rest).map eventOf)
      (eventOf ((first :: rest).getLastD first)) = ((first :: rest).getLastD first).seq := by
    have hzero : ¬ (eventOf ((first :: rest).getLastD first)).seq = some 0 := fun h => by
      have := Option.some.inj h
      omega
    exact if_neg hzero
  rw [requestedRoot, getAll_linked h, hrows]
  change checkpointOf K (postgresReads rows) (defaultStart ((first :: rest).map eventOf) (eventOf first))
    (defaultEnd ((first :: rest).map eventOf)
      (((first :: rest).map eventOf).getLastD (eventOf first))) now = _
  rw [hmap, hstart, hend]

/-- The first number of a linked chain is not past its last. -/
theorem Linked.first_le_last {first : AuditRow} {rest : List AuditRow}
    (h : Linked K (first :: rest)) : first.seq ≤ ((first :: rest).getLastD first).seq := by
  cases hrest : rest.getLast? with
  | none =>
    rw [List.getLast?_eq_none_iff] at hrest
    rw [hrest]
    exact le_rfl
  | some last =>
    have hlast : (first :: rest).getLastD first = last := by
      rw [List.getLastD_cons, List.getLastD_eq_getLast?, hrest]
      rfl
    rw [hlast]
    exact le_of_lt (List.rel_of_pairwise_cons h.ordered (List.mem_of_getLast? hrest))

/-- The signed checkpoint of a validated range. -/
def rootOf (K : Crypto) (first : AuditRow) (rest : List AuditRow) (now : Instant) :
    Except AuditErr RootCheckpoint := do
  let last := (first :: rest).getLastD first
  let rootHash ← computeRootHash K first.seq last.seq last.hash (rest.length + 1)
  RootCheckpoint.check {
    seqStart := first.seq, seqEnd := last.seq, rootHash := rootHash
    rootSig := hex (K.sign rootHash), cardinality := rest.length + 1, createdAt := now }

/-- The checkpoint of a range after a validation that returned. -/
theorem checkpointOf_of_valid {rows : List AuditRow} {first : AuditRow} {rest : List AuditRow}
    {res : ChainResult} (hle : first.seq ≤ ((first :: rest).getLastD first).seq)
    (hrange : (postgresReads rows).range first.seq ((first :: rest).getLastD first).seq =
      .ok ((first :: rest).map eventOf))
    (hres : validateChain K ((first :: rest).map eventOf) (some first.prevHash) true = .ok res)
    (now : Instant) :
    checkpointOf K (postgresReads rows) first.seq ((first :: rest).getLastD first).seq now =
      if !res.ok then .error (.runtime ("Cannot sign root: range " ++ toString first.seq ++ "-" ++
        toString ((first :: rest).getLastD first).seq ++ " failed validation at seq " ++
        optionalInt res.firstBadSeq ++ ": " ++ res.reason.getD "None"))
      else rootOf K first rest now := by
  have hlast : (((first :: rest).map eventOf).getLastD (eventOf first)).hash =
      ((first :: rest).getLastD first).hash := by
    simp only [List.getLastD_eq_getLast?, List.getLast?_map]
    cases (first :: rest).getLast? <;> rfl
  have hlen : (((first :: rest).map eventOf).length : ℤ) = rest.length + 1 := by simp
  rw [List.map_cons] at hres hlast hlen hrange
  simp only [checkpointOf, hrange, bind, Except.bind]
  rw [if_neg (not_lt.2 hle)]
  have hprev : (eventOf first).prevHash = first.prevHash := rfl
  simp only [hprev, hres, hlast, hlen, rootOf, bind, Except.bind]

/-- Consecutive rows fill their range, and its checkpoint is signed. -/
theorem rootOf_consecutive {first : AuditRow} {rest : List AuditRow}
    (h : Linked K (first :: rest)) (hcons : Consecutive (first :: rest)) (now : Instant) :
    ∃ cp, rootOf K first rest now = .ok cp := by
  have hstart := (h.genuine first List.mem_cons_self).positive
  have hend := hcons.last_seq
  have hlast : IsHex64 ((first :: rest).getLastD first).hash := by
    refine (h.genuine _ ?_).hash_hex
    rw [List.getLastD_eq_getLast?, List.getLast?_eq_some_getLast (List.cons_ne_nil _ _)]
    exact List.getLast_mem _
  have hcard : (rest.length + 1 : ℤ) = ((first :: rest).getLastD first).seq - first.seq + 1 := by
    omega
  have hle := h.first_le_last
  obtain ⟨text, -, hroot⟩ := computeRootHash_ok (K := K) hstart hle hcard hlast
  have hhex := K.sha256_hex text
  have hsig := hex_ne_empty (K.sign_ne_nil (K.sha256 text))
  have hrange : ¬ (first.seq < 1 ∨ ((first :: rest).getLastD first).seq < first.seq) := by omega
  simp only [rootOf, hroot, bind, Except.bind, RootCheckpoint.check]
  rw [if_neg hrange, if_neg (not_not.2 hcard), if_neg hhex.ne_empty, if_neg hsig]
  exact ⟨_, rfl⟩

/-- **The verdict of `sign_root`.** -/
theorem signs_iff {rows : List AuditRow} (h : Linked K (apiRows rows)) (hne : apiRows rows ≠ [])
    (now : Instant) : Signs K rows (fun _ => none) now ↔ Consecutive (apiRows rows) := by
  obtain ⟨first, rest, hrows⟩ := List.exists_cons_of_ne_nil hne
  have hroot := requestedRoot_linked hrows h now
  have hrange := getRange_linked hrows h
  rw [hrows] at h ⊢
  obtain ⟨res, hres, hok⟩ := validateChain_linked (some first.prevHash) h rfl
  have hle := h.first_le_last
  have hcheck := checkpointOf_of_valid hle hrange hres now
  rw [Signs, signRoot, hroot, hcheck, ← hok]
  cases hgood : res.ok with
  | false =>
    refine ⟨fun hsigned => ?_, fun h => absurd h Bool.false_ne_true⟩
    obtain ⟨cp, hcp⟩ := hsigned
    cases hcp
  | true =>
    obtain ⟨cp, hcp⟩ := rootOf_consecutive h (hok.1 hgood) now
    refine ⟨fun _ => rfl, fun _ => ⟨cp, ?_⟩⟩
    simp only [Bool.not_true, Bool.false_eq_true, if_false, hcp]
    rfl

end TryTrust.Audit
