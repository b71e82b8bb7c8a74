import TryTrust.Audit.Complete
import TryTrust.HashChain

/-!
# What the verifier sees of a rewritten ledger

Rows that an adversary has rewritten, against the witness of an honest history.

* `SameEvent`: all that is signed of an event; `hashedTexts`: the texts whose hashes are compared;
* `same_covered`: a range with the signed root holds the signed events;
* `unsigned_passes`: rows without a signature are never compared with the witness;
* **`ledger_tampered`**: while a row carries the signature of a checkpoint, a change of the events
  that it covers is seen; `ledger_rewritten`: else it may not be.
-/

namespace TryTrust.Audit

/-- Two events with the same hashed content. -/
structure SameContent (e f : AuditEvent) : Prop where
  mandateId : e.mandateId = f.mandateId
  type : e.type = f.type
  payload : e.payload.sorted = f.payload.sorted
  prevHash : e.prevHash = f.prevHash
  hash : e.hash = f.hash
  createdAt : e.createdAt = f.createdAt

/-- Two events that are the same, up to the order in their dictionaries. -/
def SameEvent (e f : AuditEvent) : Prop := SameContent e f ∧ e.seq = f.seq

/-- The text that an event's hash covers. -/
def AuditEvent.text (e : AuditEvent) : Option String :=
  canonicalText (eventEnvelope e.mandateId e.type e.payload e.prevHash e.createdAt)

/-- The texts that are hashed over some events: their own, and those of the roots of their ranges. -/
def hashedTexts (events : List AuditEvent) : Set String :=
  {text | (∃ e ∈ events, e.text = some text) ∨ ∃ e ∈ events, ∃ a b, e.seq = some b ∧
    (∃ f ∈ events, f.seq = some a) ∧
      canonicalText (rootEnvelope a b e.hash (b - a + 1)) = some text}

variable {K : Crypto} {L : Ledger}

theorem chained_linked {prev : String} {n : ℤ} {es : List AuditEvent} (h : Chained K prev n es) :
    HashChain.Linked AuditEvent.prevHash AuditEvent.hash prev es := by
  induction es generalizing prev n with
  | nil => trivial
  | cons e es ih => exact ⟨h.2.1, ih h.2.2.2⟩

/-- Equal hashes of two events whose hashes recompute, over a set of texts without a collision. -/
theorem same_content {e f : AuditEvent} {texts : Set String} (hK : Set.InjOn K.sha256 texts)
    (he : ∀ text, e.text = some text → text ∈ texts)
    (hf : ∀ text, f.text = some text → text ∈ texts)
    (hehash : e.rehash K = .ok e.hash) (hfhash : f.rehash K = .ok f.hash)
    (h : e.hash = f.hash) : SameContent e f := by
  obtain ⟨-, -, -, text, htext, heq⟩ := computeEventHash_ok hehash
  obtain ⟨-, -, -, text', htext', heq'⟩ := computeEventHash_ok hfhash
  have hsame : text = text' := hK (he text htext) (hf text' htext')
    (heq.symm.trans (h.trans heq'))
  rw [hsame] at htext
  obtain ⟨hm, htype, hpayload, hprev, hat⟩ := eventEnvelope_inj htext htext'
  exact ⟨hm, htype, hpayload, hprev, h, hat⟩

/-- Two of some events. -/
theorem hash_content {e f : AuditEvent} {events : List AuditEvent}
    (hK : Set.InjOn K.sha256 (hashedTexts events)) (he : e ∈ events) (hf : f ∈ events)
    (hehash : e.rehash K = .ok e.hash) (hfhash : f.rehash K = .ok f.hash)
    (h : e.hash = f.hash) : SameContent e f :=
  same_content hK (fun _ htext => .inl ⟨e, he, htext⟩) (fun _ htext => .inl ⟨f, hf, htext⟩) hehash
    hfhash h

/-- Chains from one number on have the same numbers. -/
theorem chained_numbers {R : AuditEvent → AuditEvent → Prop} {p q : String} {n : ℤ}
    {xs ys : List AuditEvent} (hx : Chained K p n xs) (hy : Chained K q n ys)
    (h : List.Forall₂ R xs ys) : List.Forall₂ (fun e f => R e f ∧ e.seq = f.seq) xs ys := by
  induction h generalizing p q n with
  | nil => exact .nil
  | cons hR hrest ih =>
    exact .cons ⟨hR, hx.1.trans hy.1.symm⟩ (ih hx.2.2.2 hy.2.2.2)

/-- **Two chains** with the same numbers and the same last hash. -/
theorem chained_commit {events xs ys : List AuditEvent} {p q : String} {n : ℤ}
    (hK : Set.InjOn K.sha256 (hashedTexts events)) (hx : Chained K p n xs) (hy : Chained K q n ys)
    (hxs : ∀ e ∈ xs, e ∈ events) (hys : ∀ e ∈ ys, e ∈ events) (hlen : xs.length = ys.length)
    (hlast : lastHash p xs = lastHash q ys) : List.Forall₂ SameEvent xs ys := by
  have hcontent : ∀ x ∈ xs, ∀ y ∈ ys, x.hash = y.hash →
      SameContent x y ∧ x.prevHash = y.prevHash := by
    intro x hxm y hym heq
    have hsame := hash_content hK (hxs x hxm) (hys y hym) (chained_rehash hx x hxm)
      (chained_rehash hy y hym) heq
    exact ⟨hsame, hsame.prevHash⟩
  exact chained_numbers hx hy
    (HashChain.commit (chained_linked hx) (chained_linked hy) hcontent hlen hlast).1

/-! ## A signed range -/

/-- **The events of a signed range**: where the verifier compares a range with the witness, the range
holds what was signed. -/
theorem same_covered (hok : LedgerOk K L) {es : List AuditEvent}
    (hK : Set.InjOn K.sha256 (hashedTexts (L.events ++ es))) {prev : String} {n : ℤ}
    (hes : Chained K prev n es) {a b : ℤ} {sig : String} {cp : RootCheckpoint}
    (hcp : L.witness (a, b) = some cp) (hrun : MaximalRun es a b sig)
    (hrange : rangeProblem K L.witness es a b sig = .ok none) :
    List.Forall₂ SameEvent (L.events.filter (·.within a b)) (es.filter (·.within a b)) := by
  have hkept := hok.kept _ cp hcp
  obtain ⟨hstart, hend⟩ := Prod.mk.inj hkept.range
  have hpos := hkept.pos
  have hcovered := hkept.covered
  have hab := hrun.le
  obtain ⟨signed, hsigned, hsseq, hroot⟩ := hkept.root
  rw [← hstart, ← hend] at hroot
  rw [← hend] at hsseq
  obtain ⟨p, hLpart, hLlen, last, hlast, hlseq, hLget⟩ := chained_range_last hok.chained
    (chained_mem hok.chained (m := a) (by omega) (by omega))
    (chained_mem hok.chained (m := b) (by omega) (by omega)) hab
  obtain ⟨q, hpart, hlen, last', hlast', hlseq', hget⟩ :=
    chained_range_last hes hrun.first hrun.last hab
  obtain rfl : last = signed := chained_unique hok.chained hlast hsigned (hlseq.trans hsseq.symm)
  -- the recomputed root is the signed one
  obtain ⟨hash, -, cp', hhash, -, -, hcp', hsame, -, -⟩ := rangeProblem_none.1 hrange
  rw [hcp] at hcp'
  obtain rfl := Option.some.inj hcp'
  rw [hget, hlen, ← hsame, Option.map_some, Option.getD_some] at hhash
  obtain ⟨-, -, -, text, htext, heq⟩ := computeRootHash_eq hroot
  obtain ⟨-, -, -, text', htext', heq'⟩ := computeRootHash_eq hhash
  obtain ⟨first, hfirst, hfseq⟩ := chained_mem hok.chained (m := a) (by omega) (by omega)
  have hin : ∀ e ∈ L.events, e ∈ L.events ++ es := fun e he => List.mem_append_left _ he
  have hin' : ∀ e ∈ es, e ∈ L.events ++ es := fun e he => List.mem_append_right _ he
  have htexts : text = text' := hK
    (.inr ⟨last, hin _ hlast, a, b, hlseq, ⟨first, hin _ hfirst, hfseq⟩, htext⟩)
    (.inr ⟨last', hin' _ hlast', a, b, hlseq', ⟨first, hin _ hfirst, hfseq⟩, htext'⟩)
    (heq.symm.trans heq')
  rw [htexts] at htext
  obtain ⟨-, -, hlasthash, -⟩ := rootEnvelope_inj htext htext'
  refine chained_commit hK hLpart hpart (fun e he => hin e (List.mem_filter.1 he).1)
    (fun e he => hin' e (List.mem_filter.1 he).1) (by omega) ?_
  rw [lastHash, lastHash, hLget, hget, Option.map_some, Option.map_some, Option.getD_some,
    Option.getD_some, hlasthash]

/-! ## Rewritten rows -/

/-- The events that rewritten rows are read as. -/
def stored (rows : List AuditRow) : List AuditEvent :=
  ((postgresReads rows).all.toOption).getD []

variable (K) in
/-- Rows in which nothing is wrong but, perhaps, with the range of one signature. -/
def IntactBut (witness : Witness) (rows : List AuditRow) (sig : String) : Prop :=
  ∃ es, (postgresReads rows).all = .ok es ∧ (es = [] ∨ (Passes (validateChain K es none true) ∧
    ∀ x ∈ checkpointRanges {} es, x.2.2 ≠ sig →
      rangeProblem K witness es x.1 x.2.1 x.2.2 = .ok none))

/-- A row and the event that it is read as. -/
theorem rowToEvent_ok {row : AuditRow} {e : AuditEvent} (h : rowToEvent row = .ok e) :
    e.seq = some row.seq ∧ e.rootSig = row.rootSig.filter (· ≠ "") := by
  rw [rowToEvent] at h
  cases hiso : parseIso row.createdAt with
  | none =>
    rw [hiso] at h
    cases h
  | some createdAt =>
    rw [hiso] at h
    rw [check_ok h]
    exact ⟨rfl, rfl⟩

/-- The rows of the ledger and the events that they are read as. -/
theorem read_rows {rows : List AuditRow} {es : List AuditEvent}
    (h : (postgresReads rows).all = .ok es) :
    (∀ e ∈ es, ∃ row ∈ apiRows rows, rowToEvent row = .ok e) ∧
      ∀ row ∈ apiRows rows, ∃ e ∈ es, rowToEvent row = .ok e := by
  have hall := mapM_forall₂ h
  constructor
  · intro e he
    obtain ⟨i, hi, rfl⟩ := List.getElem_of_mem he
    have hlen := hall.length_eq
    refine ⟨(bySeq (apiRows rows))[i], ?_, hall.get (by omega) hi⟩
    exact List.mem_mergeSort.1 (List.getElem_mem _)
  · intro row hrow
    have hmem : row ∈ bySeq (apiRows rows) := List.mem_mergeSort.2 hrow
    obtain ⟨i, hi, hrow'⟩ := List.getElem_of_mem hmem
    have hlen := hall.length_eq
    have hi' : i < es.length := by omega
    refine ⟨es[i], List.getElem_mem _, ?_⟩
    rw [← hrow']
    exact hall.get hi hi'

/-- A checkpoint's signature is read back from its column. -/
theorem carried_read {rows : List AuditRow} {es : List AuditEvent}
    (h : (postgresReads rows).all = .ok es) {sig : String} (hsig : sig ≠ "") :
    (∃ row ∈ apiRows rows, row.rootSig = some sig) ↔ ∃ e ∈ es, e.rootSig = some sig := by
  obtain ⟨hback, hforth⟩ := read_rows h
  constructor
  · rintro ⟨row, hrow, hrsig⟩
    obtain ⟨e, he, hread⟩ := hforth row hrow
    refine ⟨e, he, ?_⟩
    rw [(rowToEvent_ok hread).2, hrsig, Option.filter_some, if_pos (by simpa using hsig)]
  · rintro ⟨e, he, hesig⟩
    obtain ⟨row, hrow, hread⟩ := hback e he
    refine ⟨row, hrow, ?_⟩
    rw [(rowToEvent_ok hread).2, Option.filter_eq_some_iff] at hesig
    exact hesig.1

/-- Rows that carry the signature of a checkpoint are accepted with the signed events only. -/
theorem carried_same (hK : Sound K L) (hok : LedgerOk K L) {r : ℤ × ℤ} {cp : RootCheckpoint}
    (hcp : L.witness r = some cp) {rows : List AuditRow} {es : List AuditEvent}
    (hread : (postgresReads rows).all = .ok es)
    (hhashes : Set.InjOn K.sha256 (hashedTexts (L.events ++ es)))
    (hcarry : ∃ e ∈ es, e.rootSig = some cp.rootSig)
    (hpass : Passes (verifyChain K (postgresReads rows) L.witness none none)) :
    List.Forall₂ SameEvent (L.events.filter (·.within r.1 r.2)) (es.filter (·.within r.1 r.2)) := by
  obtain ⟨e, he, hesig⟩ := hcarry
  have hnumbered : ∀ f ∈ es, f.seq.isSome := by
    intro f hf
    obtain ⟨row, -, hrow⟩ := (read_rows hread).1 f hf
    rw [(rowToEvent_ok hrow).1]
    rfl
  have hselect : (postgresReads rows).select none = .ok es := hread
  rcases (verifyChain_iff hselect).1 hpass with rfl | ⟨hvalid, -⟩
  · cases he
  · obtain ⟨prev, n, hchain⟩ : ∃ prev n, Chained K prev n es := by
      cases es with
      | nil => cases he
      | cons first rest =>
        obtain ⟨n, hn⟩ := Option.isSome_iff_exists.1 (hnumbered first List.mem_cons_self)
        exact ⟨_, n, (validateChain_iff none hn
          fun f hf => hnumbered f (List.mem_cons_of_mem _ hf)).1 hvalid⟩
    obtain ⟨a, b, hrun, hrange⟩ := passes_signed hchain hselect hpass he hesig
    obtain ⟨-, -, cp', -, -, -, hcp', -, hsame, -⟩ := rangeProblem_none.1 hrange
    obtain rfl : (a, b) = r := hK.distinct hok _ _ cp' cp hcp' hcp hsame
    exact same_covered hok hhashes hchain hcp hrun hrange

/-- **Tamper evidence.** After any history, let any rows stand in the place of the ledger's, with
other events where a witnessed checkpoint covers them: the verifier refuses them exactly when a row
still carries the signature of that checkpoint, or they are wrong elsewhere. -/
theorem ledger_tampered (K : Crypto) (rs : List Request) (hK : Sound K (Ledger.empty.after K rs))
    {r : ℤ × ℤ} {cp : RootCheckpoint} (hcp : (Ledger.empty.after K rs).witness r = some cp)
    (rows : List AuditRow)
    (hhashes : Set.InjOn K.sha256 (hashedTexts ((Ledger.empty.after K rs).events ++ stored rows)))
    (hdiff : ¬ List.Forall₂ SameEvent
      ((Ledger.empty.after K rs).events.filter (·.within r.1 r.2))
      ((stored rows).filter (·.within r.1 r.2))) :
    ¬ Passes (verifyChain K (postgresReads rows) (Ledger.empty.after K rs).witness none none) ↔
      (∃ row ∈ apiRows rows, row.rootSig = some cp.rootSig) ∨
        ¬ IntactBut K (Ledger.empty.after K rs).witness rows cp.rootSig := by
  have hok := ledgerOk_after (K := K) ledgerOk_empty rs
  have hsig : cp.rootSig ≠ "" := by
    rw [(hok.kept r cp hcp).signed]
    exact hex_ne_empty (K.sign_ne_nil cp.rootHash)
  generalize Ledger.empty.after K rs = L at hK hcp hhashes hdiff hok ⊢
  cases hread : (postgresReads rows).all with
  | error x =>
    refine ⟨fun _ => .inr ?_, fun _ => ?_⟩
    · rintro ⟨es, hes, -⟩
      rw [hread] at hes
      cases hes
    · rintro ⟨verdict, hverdict, -⟩
      simp only [verifyChain, Reads.select, hread, bind, Except.bind] at hverdict
      cases hverdict
  | ok es =>
    have hstored : stored rows = es := by
      rw [stored, hread]
      rfl
    rw [hstored] at hhashes hdiff
    have hselect : (postgresReads rows).select none = .ok es := hread
    rw [carried_read hread hsig]
    constructor
    · intro hrefused
      by_contra hnot
      push Not at hnot
      obtain ⟨hcarry, es', hes', hintact⟩ := hnot
      rw [hread] at hes'
      obtain rfl := Except.ok.inj hes'
      refine hrefused ((verifyChain_iff hselect).2 (hintact.imp_right fun h => ⟨h.1, fun x hx => ?_⟩))
      refine h.2 x hx fun hx' => ?_
      -- a range's signature is carried by one of its events
      obtain ⟨e, he, hesig⟩ := (ranges_sig hx).resolve_left (by rintro ⟨⟩)
      rw [hx'] at hesig
      exact hcarry e he hesig
    · rintro (hcarry | hbroken) hpass
      · exact hdiff (carried_same hK hok hcp hread hhashes hcarry hpass)
      · exact hbroken ⟨es, hread, ((verifyChain_iff hselect).1 hpass).imp_right fun h =>
          ⟨h.1, fun x hx _ => h.2 x hx⟩⟩

/-! ## Runs -/

/-- The texts of `hashedTexts`, one after another. -/
def hashedList (events : List AuditEvent) : List String :=
  events.filterMap (·.text) ++ events.flatMap fun e => events.filterMap fun f =>
    e.seq.bind fun b => f.seq.bind fun a => canonicalText (rootEnvelope a b e.hash (b - a + 1))

theorem hashedTexts_list {events : List AuditEvent} {text : String}
    (h : text ∈ hashedTexts events) : text ∈ hashedList events := by
  rw [hashedList, List.mem_append]
  rcases h with ⟨e, he, htext⟩ | ⟨e, he, a, b, hb, ⟨f, hf, ha⟩, htext⟩
  · exact .inl (List.mem_filterMap.2 ⟨e, he, htext⟩)
  · refine .inr (List.mem_flatMap.2 ⟨e, he, List.mem_filterMap.2 ⟨f, hf, ?_⟩⟩)
    rw [hb, ha]
    exact htext

/-- The row of one event with another payload, its hash recomputed. -/
def rewritten (rootSig : Option String) : AuditRow where
  chainKey := apiChainKey
  chainSeq := 1
  eventId := "aevt_1"
  type := "mandate.created"
  actor := none
  agentId := none
  runId := none
  mandateJti := some "mdt_1"
  payload := .obj [("amount", .num 999 0)]
  prevHash := genesisPrevHash
  hash := (computeEventHash textCrypto "mdt_1" "mandate.created" (.obj [("amount", .num 999 0)])
    genesisPrevHash "2026-08-31T00:00:00").toOption.getD ""
  rootSig := rootSig
  createdAt := Instant.iso "2026-08-31T00:00:00"
  seq := 1

/-- The event that it is read as. -/
def rewrittenEvent : AuditEvent where
  mandateId := "mdt_1"
  type := "mandate.created"
  payload := .obj [("amount", .num 999 0)]
  prevHash := genesisPrevHash
  hash := (rewritten none).hash
  createdAt := "2026-08-31T00:00:00"
  seq := some 1
  rootSig := none

/-- Its hash is that of its content. -/
theorem rewritten_rehash : rewrittenEvent.rehash textCrypto = .ok rewrittenEvent.hash := by
  obtain ⟨text, htext⟩ := eventEnvelope_text "mdt_1" "mandate.created"
    (.obj [("amount", .num 999 0)]) genesisPrevHash "2026-08-31T00:00:00" (by decide +kernel)
  have hhash : computeEventHash textCrypto "mdt_1" "mandate.created"
      (.obj [("amount", .num 999 0)]) genesisPrevHash "2026-08-31T00:00:00" =
        .ok (textCrypto.sha256 text) := by
    rw [computeEventHash, if_neg (by decide), if_neg (by decide), if_neg genesis_hex64.ne_empty,
      canonicalJson, htext]
    rfl
  have hrow : rewrittenEvent.hash = textCrypto.sha256 text := by
    rw [rewrittenEvent, rewritten, hhash]
    rfl
  rw [hrow]
  exact hhash

theorem rewritten_hash (sig : Option String) : (rewritten sig).hash = rewrittenEvent.hash := by
  simp only [rewritten, rewrittenEvent]

/-- What the row is read as. -/
theorem rowToEvent_rewritten (sig : Option String) : rowToEvent (rewritten sig) =
    .ok { rewrittenEvent with rootSig := sig.filter (· ≠ "") } := by
  have hdigest : IsHex64 rewrittenEvent.hash := rehash_hex rewritten_rehash
  have hread : parseIso (rewritten sig).createdAt = some "2026-08-31T00:00:00" := parseIso_iso _
  have hprev : strip (rewritten sig).prevHash = genesisPrevHash := strip_hex64 genesis_hex64
  have hrow : rowToEvent (rewritten sig) =
      AuditEvent.check { rewrittenEvent with rootSig := sig.filter (· ≠ "") } := by
    rw [rowToEvent, hread]
    simp only [hprev, rewritten_hash, strip_hex64 hdigest]
    rfl
  rw [hrow]
  refine check_accepts (by decide : "mdt_1" ≠ "") (by decide : "mandate.created" ≠ "")
    genesis_hex64 hdigest fun n hn => ?_
  obtain rfl : (1 : ℤ) = n := Option.some.inj hn
  exact le_rfl

theorem all_rewritten (rootSig : Option String) :
    (postgresReads [rewritten rootSig]).all = (rowToEvent (rewritten rootSig)).map fun e => [e] := by
  have hrows : bySeq (apiRows [rewritten rootSig]) = [rewritten rootSig] :=
    List.mergeSort_singleton _
  rw [postgresReads, hrows, List.mapM_cons, List.mapM_nil]
  cases rowToEvent (rewritten rootSig) with
  | error x => rfl
  | ok e => rfl

theorem stored_rewritten (sig : Option String) :
    stored [rewritten sig] = [{ rewrittenEvent with rootSig := sig.filter (· ≠ "") }] := by
  rw [stored, all_rewritten, rowToEvent_rewritten]
  rfl

theorem hashedTexts_mono {xs ys : List AuditEvent}
    (h : ∀ e ∈ xs, ∃ f ∈ ys, f.text = e.text ∧ f.seq = e.seq ∧ f.hash = e.hash) :
    hashedTexts xs ⊆ hashedTexts ys := by
  rintro text (⟨e, he, htext⟩ | ⟨e, he, a, b, hb, ⟨f, hf, ha⟩, htext⟩)
  · obtain ⟨g, hg, hgtext, -⟩ := h e he
    exact .inl ⟨g, hg, hgtext.trans htext⟩
  · obtain ⟨g, hg, -, hgseq, hghash⟩ := h e he
    obtain ⟨k, hk, -, hkseq, -⟩ := h f hf
    exact .inr ⟨g, hg, a, b, hgseq.trans hb, ⟨k, hk, hkseq.trans ha⟩, by rw [hghash]; exact htext⟩

/-- One event, its checkpoint, and the row: no collision. -/
theorem rewritten_hashes (sig : Option String) : Set.InjOn textCrypto.sha256 (hashedTexts
    ((Ledger.empty.after textCrypto signedOnce).events ++ stored [rewritten sig])) := by
  have hpairs : (hashedList [onceEvent, rewrittenEvent]).Pairwise fun x y =>
      textCrypto.sha256 x = textCrypto.sha256 y → x = y := by
    decide +kernel
  have hsub : hashedTexts [onceEvent, rewrittenEvent] ⊆
      {text | text ∈ hashedList [onceEvent, rewrittenEvent]} :=
    fun text htext => hashedTexts_list htext
  obtain ⟨cp, hevents, -⟩ := signedOnce_after
  rw [hevents, stored_rewritten]
  refine (injOn_of_pairwise hpairs).mono (subset_trans (hashedTexts_mono fun e he => ?_) hsub)
  rcases List.mem_append.1 he with he | he
  · obtain ⟨f, hf, ⟨rfl, -⟩ | ⟨rfl, -, -⟩⟩ := mem_annotate he
    · exact ⟨e, List.mem_append_left [rewrittenEvent] hf, rfl, rfl, rfl⟩
    · exact ⟨f, List.mem_append_left [rewrittenEvent] hf, rfl, rfl, rfl⟩
  · rw [List.mem_singleton.1 he]
    exact ⟨rewrittenEvent, by simp, rfl, rfl, rfl⟩

/-- What the checkpoint covers is not what was signed. -/
theorem rewritten_differs (sig : Option String) : ¬ List.Forall₂ SameEvent
    ((Ledger.empty.after textCrypto signedOnce).events.filter (·.within 1 1))
    ((stored [rewritten sig]).filter (·.within 1 1)) := by
  obtain ⟨cp, hevents, -⟩ := signedOnce_after
  have hsigned : (memoryAnnotate [onceEvent] 1 1 cp.rootSig).filter (·.within 1 1) =
      [{ onceEvent with rootSig := some cp.rootSig }] := by
    simp [memoryAnnotate, AuditEvent.within, onceEvent]
  have hrow : [{ rewrittenEvent with rootSig := sig.filter (· ≠ "") }].filter (·.within 1 1) =
      [{ rewrittenEvent with rootSig := sig.filter (· ≠ "") }] := by
    simp [AuditEvent.within, rewrittenEvent]
  rw [hevents, stored_rewritten, hsigned, hrow]
  rintro (_ | ⟨hsame, -⟩)
  have hpayload : (Json.obj []).sorted = (Json.obj [("amount", .num 999 0)]).sorted :=
    hsame.1.payload
  simp [Json.sorted, Json.sortedFields, sortFields] at hpayload

/-- The checkpoint of the one event. -/
theorem signedOnce_checkpoint :
    ((Ledger.empty.after textCrypto signedOnce).witness (1, 1)).isSome = true := by
  obtain ⟨cp, -, hcp⟩ := signedOnce_after
  rw [hcp]
  rfl

/-- The rewritten row with the signature of the checkpoint is refused. -/
theorem ledger_tampered_seen : ∃ sig, ¬ Passes (verifyChain textCrypto
    (postgresReads [rewritten (some sig)]) (Ledger.empty.after textCrypto signedOnce).witness
      none none) := by
  obtain ⟨cp, hcp⟩ := Option.isSome_iff_exists.1 signedOnce_checkpoint
  exact ⟨cp.rootSig, (ledger_tampered textCrypto signedOnce signedOnce_sound hcp
    [rewritten (some cp.rootSig)] (rewritten_hashes _) (rewritten_differs _)).2
    (.inl ⟨_, List.mem_singleton.2 rfl, rfl⟩)⟩

/-- **The rewritten row without a signature** is accepted. -/
theorem ledger_rewritten :
    Sound textCrypto (Ledger.empty.after textCrypto signedOnce) ∧
    Set.InjOn textCrypto.sha256 (hashedTexts
      ((Ledger.empty.after textCrypto signedOnce).events ++ stored [rewritten none])) ∧
    ((Ledger.empty.after textCrypto signedOnce).witness (1, 1)).isSome = true ∧
    ¬ List.Forall₂ SameEvent
      ((Ledger.empty.after textCrypto signedOnce).events.filter (·.within 1 1))
      ((stored [rewritten none]).filter (·.within 1 1)) ∧
    Passes (verifyChain textCrypto (postgresReads [rewritten none])
      (Ledger.empty.after textCrypto signedOnce).witness none none) := by
  refine ⟨signedOnce_sound, rewritten_hashes none, signedOnce_checkpoint, rewritten_differs none,
    ?_⟩
  have hread : (postgresReads [rewritten none]).select none = .ok [rewrittenEvent] := by
    rw [Reads.select, all_rewritten, rowToEvent_rewritten]
    rfl
  refine (verifyChain_iff hread).2 (.inr ⟨?_, fun x hx => ?_⟩)
  · rw [validateChain_iff (e := rewrittenEvent) (n := 1) none rfl (by simp)]
    exact ⟨rfl, rfl, rewritten_rehash, trivial⟩
  · -- there is no signed range
    cases hx

end TryTrust.Audit
