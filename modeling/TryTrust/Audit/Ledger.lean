import TryTrust.Audit.Chains

/-!
# The ledger over any history

`LedgerService` over its in-memory repository and witness: appends and root signatures in any order.

* `Ledger`, `Ledger.append`, `Ledger.step`, `Ledger.after`; `Through`, a condition on every step;
* `Recorded`: the events are a chain and every witnessed checkpoint is that of its range; `LedgerOk`:
  and every signature is witnessed; **`ledgerOk_after`**: so it is after every history;
* `Marked`: every signature marks exactly a range of the witness; `Torn`: one marks a part of its
  range; `WholeRange`, the steps that tear none; **`marked_or_torn`**.
-/

namespace TryTrust.Audit

/-- The state of the service. -/
structure Ledger where
  events : List AuditEvent
  witness : Witness

/-- No event, no checkpoint. -/
def Ledger.empty : Ledger := ⟨[], fun _ => none⟩

/-- What the service is asked for; `now` is the clock. -/
inductive Request where
  | append (mandateId type : String) (payload : Json) (createdAt : Option Instant) (now : Instant)
  | signRoot (seqStart seqEnd : Option ℤ) (now : Instant)

section Service

variable (K : Crypto)

/-- `InMemoryLedgerRepository.append`: the event to append. -/
def Ledger.append (L : Ledger) (mandateId type : String) (payload : Json)
    (createdAt : Option Instant) (now : Instant) : Except AuditErr AuditEvent := do
  let prevHash := (L.events.getLast?.map (·.hash)).getD genesisPrevHash
  let ts := createdAt.getD now
  let eventHash ← computeEventHash K mandateId type payload prevHash ts
  AuditEvent.check {
    mandateId := mandateId, type := type, payload := payload, prevHash := prevHash
    hash := eventHash, createdAt := ts, seq := some (L.events.length + 1 : ℤ), rootSig := none }

/-- A request; a call that raises leaves what it had done before. -/
def Ledger.step (L : Ledger) : Request → Ledger
  | .append mandateId type payload createdAt now =>
    match L.append K mandateId type payload createdAt now with
    | .ok event => { L with events := L.events ++ [event] }
    | .error _ => L
  | .signRoot seqStart seqEnd now =>
    let signed := signRoot K memoryReads memoryAnnotate L.events L.witness seqStart seqEnd now
    ⟨signed.2.1, signed.2.2⟩

/-- A history of requests. -/
def Ledger.after (L : Ledger) : List Request → Ledger
  | [] => L
  | r :: rs => (L.step K r).after rs

/-- Every step of a history meets `P`. -/
def Through (P : Ledger → Request → Prop) (L : Ledger) : List Request → Prop
  | [] => True
  | r :: rs => P L r ∧ Through P (L.step K r) rs

theorem through_keeps {P : Ledger → Request → Prop} {I : Ledger → Prop}
    (hstep : ∀ L r, I L → P L r → I (L.step K r)) {L : Ledger} (h : I L) {rs : List Request}
    (hrs : Through K P L rs) : I (L.after K rs) := by
  induction rs generalizing L with
  | nil => exact h
  | cons r rs ih => exact ih (hstep L r h hrs.1) hrs.2

end Service

/-! ## What every history keeps -/

variable (K : Crypto)

/-- A witnessed checkpoint of a range of the ledger. -/
structure Kept (events : List AuditEvent) (range : ℤ × ℤ) (cp : RootCheckpoint) : Prop where
  range : range = (cp.seqStart, cp.seqEnd)
  pos : 1 ≤ cp.seqStart
  le : cp.seqStart ≤ cp.seqEnd
  covered : cp.seqEnd ≤ events.length
  root : ∃ last ∈ events, last.seq = some cp.seqEnd ∧
    computeRootHash K cp.seqStart cp.seqEnd last.hash (cp.seqEnd - cp.seqStart + 1) =
      .ok cp.rootHash
  signed : cp.rootSig = hex (K.sign cp.rootHash)
  cardinality : cp.cardinality = cp.seqEnd - cp.seqStart + 1

/-- What the ledger and its witness hold, whatever signatures are lost. -/
structure Recorded (L : Ledger) : Prop where
  chained : Chained K genesisPrevHash 1 L.events
  kept : ∀ r cp, L.witness r = some cp → Kept K L.events r cp
  /-- Every event of a checkpoint is signed. -/
  covered : ∀ r cp, L.witness r = some cp → ∀ e ∈ L.events, e.within r.1 r.2 = true →
    e.rootSig ≠ none

/-- **The ledger's invariant.** -/
structure LedgerOk (L : Ledger) : Prop where
  chained : Chained K genesisPrevHash 1 L.events
  kept : ∀ r cp, L.witness r = some cp → Kept K L.events r cp
  /-- Every event of a checkpoint is signed. -/
  covered : ∀ r cp, L.witness r = some cp → ∀ e ∈ L.events, e.within r.1 r.2 = true →
    e.rootSig ≠ none
  /-- Every signature is that of a checkpoint. -/
  witnessed : ∀ e ∈ L.events, ∀ sig, e.rootSig = some sig →
    ∃ r cp, L.witness r = some cp ∧ cp.rootSig = sig

variable {K} {L : Ledger}

theorem LedgerOk.recorded (h : LedgerOk K L) : Recorded K L := ⟨h.chained, h.kept, h.covered⟩

theorem check_ok {e f : AuditEvent} (h : e.check = .ok f) : f = e := by
  rw [AuditEvent.check] at h
  split_ifs at h
  exact (Except.ok.inj h).symm

theorem check_accepts {e : AuditEvent} (hmandate : e.mandateId ≠ "") (htype : e.type ≠ "")
    (hprev : IsHex64 e.prevHash) (hhash : IsHex64 e.hash) (hseq : ∀ n ∈ e.seq, 1 ≤ n) :
    e.check = .ok e := by
  have hpositive : ¬ e.seq.any (· < 1) = true := by
    intro h
    obtain ⟨n, hn, hlt⟩ := (Option.any_eq_true _ _).1 h
    have hle := hseq n hn
    rw [decide_eq_true_eq] at hlt
    omega
  rw [AuditEvent.check, if_neg hmandate, if_neg htype, if_neg hprev.ne_empty,
    if_neg hhash.ne_empty, if_neg hpositive]

/-- The event that an append adds. -/
theorem append_ok {mandateId type : String} {payload : Json} {createdAt : Option Instant}
    {now : Instant} {e : AuditEvent}
    (h : L.append K mandateId type payload createdAt now = .ok e) :
    e.seq = some (L.events.length + 1 : ℤ) ∧ e.prevHash = lastHash genesisPrevHash L.events ∧
      e.rehash K = .ok e.hash ∧ e.rootSig = none := by
  rw [Ledger.append] at h
  cases hhash : computeEventHash K mandateId type payload
      ((L.events.getLast?.map (·.hash)).getD genesisPrevHash) (createdAt.getD now) with
  | error x =>
    rw [hhash] at h
    cases h
  | ok hash =>
    rw [hhash] at h
    obtain rfl := check_ok h
    exact ⟨rfl, rfl, hhash, rfl⟩

theorem rehash_hex {e : AuditEvent} (h : e.rehash K = .ok e.hash) : IsHex64 e.hash :=
  (computeEventHash_ok h).2.2.1

/-- The hash that an event continues is a digest. -/
theorem lastHash_hex {prev : String} {n : ℤ} {es : List AuditEvent} (h : Chained K prev n es)
    (hprev : IsHex64 prev) : IsHex64 (lastHash prev es) := by
  rw [lastHash]
  cases hlast : es.getLast? with
  | none => exact hprev
  | some e => exact rehash_hex (chained_rehash h e (List.mem_of_getLast? hlast))

/-- An append to a chain, with what it adds. -/
theorem append_made (h : Chained K genesisPrevHash 1 L.events) {mandateId type : String}
    {payload : Json} (createdAt : Option Instant) {now : Instant} {text : String}
    (hmandate : mandateId ≠ "") (htype : type ≠ "")
    (htext : canonicalText (eventEnvelope mandateId type payload
      (lastHash genesisPrevHash L.events) (createdAt.getD now)) = some text) :
    L.append K mandateId type payload createdAt now = .ok {
      mandateId := mandateId, type := type, payload := payload
      prevHash := lastHash genesisPrevHash L.events, hash := K.sha256 text
      createdAt := createdAt.getD now, seq := some (L.events.length + 1 : ℤ), rootSig := none } := by
  have hprev := lastHash_hex h genesis_hex64
  have hhash : computeEventHash K mandateId type payload (lastHash genesisPrevHash L.events)
      (createdAt.getD now) = .ok (K.sha256 text) := by
    rw [computeEventHash, if_neg hmandate, if_neg htype, if_neg hprev.ne_empty, canonicalJson,
      htext]
    rfl
  rw [lastHash] at hhash hprev ⊢
  simp only [Ledger.append, hhash, bind, Except.bind]
  refine check_accepts hmandate htype hprev (K.sha256_hex text) fun n hn => ?_
  have hsame : (L.events.length + 1 : ℤ) = n := Option.some.inj hn
  omega

/-- A payload that has a text is appended to a chain. -/
theorem append_accepts (h : Chained K genesisPrevHash 1 L.events) {mandateId type : String}
    (payload : Json) (createdAt : Option Instant) (now : Instant) (hmandate : mandateId ≠ "")
    (htype : type ≠ "") (hpayload : (canonicalText payload).isSome) :
    ∃ e, L.append K mandateId type payload createdAt now = .ok e ∧ e.mandateId = mandateId ∧
      e.type = type ∧ e.payload = payload ∧ e.createdAt = createdAt.getD now := by
  obtain ⟨text, htext⟩ := eventEnvelope_text mandateId type payload
    (lastHash genesisPrevHash L.events) (createdAt.getD now) hpayload
  exact ⟨_, append_made h createdAt hmandate htype htext, rfl, rfl, rfl, rfl⟩

/-- A field that an annotation does not touch. -/
theorem annotate_chained {es : List AuditEvent} {prev : String} {n a b : ℤ} {sig : String}
    (h : Chained K prev n es) : Chained K prev n (memoryAnnotate es a b sig) := by
  induction es generalizing prev n with
  | nil => exact h
  | cons e es ih =>
    obtain ⟨hseq, hprev, hhash, hrest⟩ := h
    rw [memoryAnnotate, List.map_cons]
    have htail := ih hrest
    split_ifs with hw
    · exact ⟨hseq, hprev, hhash, htail⟩
    · exact ⟨hseq, hprev, hhash, htail⟩

theorem annotate_length (es : List AuditEvent) (a b : ℤ) (sig : String) :
    (memoryAnnotate es a b sig).length = es.length := List.length_map ..

/-- An annotated event is one of before, up to its signature. -/
theorem mem_annotate {es : List AuditEvent} {a b : ℤ} {sig : String} {e : AuditEvent}
    (h : e ∈ memoryAnnotate es a b sig) : ∃ f ∈ es,
      (e = f ∧ ¬ (f.within a b = true ∧ f.rootSig = none)) ∨
        (e = { f with rootSig := some sig } ∧ f.within a b = true ∧ f.rootSig = none) := by
  obtain ⟨f, hf, rfl⟩ := List.mem_map.1 h
  refine ⟨f, hf, ?_⟩
  by_cases hw : f.within a b = true ∧ f.rootSig = none
  · rw [if_pos hw]
    exact .inr ⟨rfl, hw⟩
  · rw [if_neg hw]
    exact .inl ⟨rfl, hw⟩

/-- Numbers and hashes of before are still there. -/
theorem annotate_mem {es : List AuditEvent} {f : AuditEvent} (hf : f ∈ es) (a b : ℤ)
    (sig : String) : ∃ e ∈ memoryAnnotate es a b sig, e.seq = f.seq ∧ e.hash = f.hash := by
  refine ⟨_, List.mem_map_of_mem hf, ?_⟩
  split_ifs
  · exact ⟨rfl, rfl⟩
  · exact ⟨rfl, rfl⟩

theorem Kept.annotate {es : List AuditEvent} {r : ℤ × ℤ} {cp : RootCheckpoint}
    (h : Kept K es r cp) (a b : ℤ) (sig : String) : Kept K (memoryAnnotate es a b sig) r cp := by
  obtain ⟨last, hlast, hseq, hroot⟩ := h.root
  obtain ⟨e, he, heseq, hehash⟩ := annotate_mem hlast a b sig
  refine ⟨h.range, h.pos, h.le, ?_, ⟨e, he, heseq.trans hseq, ?_⟩, h.signed, h.cardinality⟩
  · rw [annotate_length]
    exact h.covered
  · rw [hehash]
    exact hroot

theorem Kept.append {es : List AuditEvent} {r : ℤ × ℤ} {cp : RootCheckpoint}
    (h : Kept K es r cp) (e : AuditEvent) : Kept K (es ++ [e]) r cp := by
  obtain ⟨last, hlast, hseq, hroot⟩ := h.root
  have hcovered := h.covered
  refine ⟨h.range, h.pos, h.le, ?_, ⟨last, List.mem_append_left _ hlast, hseq, hroot⟩, h.signed,
    h.cardinality⟩
  rw [List.length_append, List.length_singleton]
  push_cast
  omega

/-- The last event of the ledger's part within a range that it fills. -/
theorem range_last {es : List AuditEvent} (h : Chained K genesisPrevHash 1 es) {a b : ℤ}
    (hlen : ((es.filter (·.within a b)).length : ℤ) = b - a + 1) (hab : a ≤ b)
    {last : AuditEvent} (hlast : (es.filter (·.within a b)).getLast? = some last) :
    last ∈ es ∧ last.seq = some b ∧ b ≤ es.length := by
  obtain ⟨pre, post, hsplit⟩ := chained_range h a b
  have hseg := h
  rw [hsplit] at hseg
  have hmid := chained_segment hseg
  have hmem : ∀ e ∈ es.filter (·.within a b), e ∈ es ∧ e.within a b = true :=
    fun e he => List.mem_filter.1 he
  obtain ⟨first, hfirst, hfseq⟩ := chained_mem hmid (m := 1 + pre.length) le_rfl (by omega)
  have hlo := (within_iff hfseq).1 (hmem first hfirst).2
  have hseq := chained_last hmid hlast
  have hin := hmem last (List.mem_of_getLast? hlast)
  have hhi := (within_iff hseq).1 hin.2
  obtain ⟨m, hm, -, hmhi⟩ := chained_seq h last hin.1
  rw [hseq] at hm
  have hmval := Option.some.inj hm
  refine ⟨hin.1, ?_, by omega⟩
  rw [hseq]
  congr 1
  omega

/-- A checkpoint is of the range that was asked for. -/
theorem checkpointOf_range {reads : Reads} {a b : ℤ} {now : Instant} {cp : RootCheckpoint}
    (h : checkpointOf K reads a b now = .ok cp) : cp.seqStart = a ∧ cp.seqEnd = b := by
  rw [checkpointOf] at h
  split_ifs at h with hab
  simp only [bind, Except.bind] at h
  cases hrange : reads.range a b with
  | error x =>
    rw [hrange] at h
    cases h
  | ok events =>
    rw [hrange] at h
    cases events with
    | nil => cases h
    | cons first rest =>
      simp only at h
      cases hvalid : validateChain K (first :: rest) (some first.prevHash) true with
      | error x =>
        rw [hvalid] at h
        cases h
      | ok verdict =>
        rw [hvalid] at h
        simp only at h
        split_ifs at h with hok
        cases hroot : computeRootHash K a b ((first :: rest).getLastD first).hash
            (first :: rest).length with
        | error x =>
          rw [hroot] at h
          cases h
        | ok rootHash =>
          rw [hroot] at h
          simp only [RootCheckpoint.check] at h
          split_ifs at h
          rw [← Except.ok.inj h]
          exact ⟨rfl, rfl⟩

/-- **A range of the chain** can be signed. -/
theorem checkpointOf_ok {es : List AuditEvent} (h : Chained K genesisPrevHash 1 es) {a b : ℤ}
    (ha : 1 ≤ a) (hab : a ≤ b) (hb : b ≤ es.length) (now : Instant) :
    ∃ cp, checkpointOf K (memoryReads es) a b now = .ok cp := by
  obtain ⟨prev, hpart, hcount⟩ := chained_count h ha (by omega) hab
  rw [checkpointOf, if_neg (by omega)]
  simp only [memoryReads, bind, Except.bind]
  cases hrange : es.filter (·.within a b) with
  | nil =>
    rw [hrange, List.length_nil] at hcount
    omega
  | cons first rest =>
    rw [hrange] at hpart hcount
    have hseqs : ∀ f ∈ rest, f.seq.isSome := by
      intro f hf
      obtain ⟨m, hm, -⟩ := chained_seq hpart f (List.mem_cons_of_mem _ hf)
      rw [hm]
      rfl
    obtain ⟨verdict, hverdict, hok⟩ := (validateChain_iff (some first.prevHash) hpart.1 hseqs).2
      (by rw [expectedPrev, Option.getD_some, hpart.2.1]; exact hpart)
    have hlast : (first :: rest).getLastD first ∈ first :: rest := by
      rw [List.getLastD_eq_getLast?, List.getLast?_eq_some_getLast (List.cons_ne_nil _ _)]
      exact List.getLast_mem _
    obtain ⟨text, -, hroot⟩ := computeRootHash_ok (K := K) ha hab hcount
      (rehash_hex (chained_rehash hpart _ hlast))
    have hbounds : ¬ (a < 1 ∨ b < a) := by omega
    simp only [hverdict, hok, hroot, Bool.not_true, Bool.false_eq_true, if_false,
      RootCheckpoint.check]
    rw [if_neg hbounds, if_neg (not_not.2 hcount), if_neg (K.sha256_hex text).ne_empty,
      if_neg (hex_ne_empty (K.sign_ne_nil _))]
    exact ⟨_, rfl⟩

/-- **A checkpoint that can be signed** is one of a range of the ledger. -/
theorem requestedRoot_kept {es : List AuditEvent} (h : Chained K genesisPrevHash 1 es)
    {start stop : Option ℤ} {now : Instant} {cp : RootCheckpoint}
    (hreq : requestedRoot K (memoryReads es) start stop now = .ok cp) :
    Kept K es (cp.seqStart, cp.seqEnd) cp := by
  have hof : ∃ a b, checkpointOf K (memoryReads es) a b now = .ok cp := by
    cases es with
    | nil => cases hreq
    | cons first rest => exact ⟨_, _, hreq⟩
  obtain ⟨a, b, hof⟩ := hof
  rw [checkpointOf] at hof
  split_ifs at hof with hab
  simp only [memoryReads, bind, Except.bind] at hof
  cases hrange : es.filter (·.within a b) with
  | nil =>
    rw [hrange] at hof
    cases hof
  | cons first rest =>
    rw [hrange] at hof
    simp only at hof
    cases hvalid : validateChain K (first :: rest) (some first.prevHash) true with
    | error x =>
      rw [hvalid] at hof
      cases hof
    | ok verdict =>
      rw [hvalid] at hof
      simp only at hof
      split_ifs at hof with hok
      cases hroot : computeRootHash K a b ((first :: rest).getLastD first).hash
          (first :: rest).length with
      | error x =>
        rw [hroot] at hof
        cases hof
      | ok rootHash =>
        rw [hroot] at hof
        simp only [RootCheckpoint.check] at hof
        split_ifs at hof
        rw [← Except.ok.inj hof]
        obtain ⟨hpos, hle, hcard, -⟩ := computeRootHash_eq hroot
        have hlast : (es.filter (·.within a b)).getLast? =
            some ((first :: rest).getLastD first) := by
          rw [hrange, List.getLastD_eq_getLast?, List.getLast?_eq_some_getLast (by simp)]
          rfl
        have hlen : ((es.filter (·.within a b)).length : ℤ) = b - a + 1 := by
          rw [hrange]
          exact hcard
        obtain ⟨hmem, hseq, hcov⟩ := range_last h hlen hle hlast
        exact ⟨rfl, hpos, hle, hcov, ⟨_, hmem, hseq, hcard ▸ hroot⟩, rfl, hcard⟩

/-- What a request to sign leaves: nothing new, an annotation, or a checkpoint too. -/
theorem step_signRoot (L : Ledger) (start stop : Option ℤ) (now : Instant) :
    ((∃ x, requestedRoot K (memoryReads L.events) start stop now = .error x) ∧
        L.step K (.signRoot start stop now) = L) ∨ ∃ cp,
      requestedRoot K (memoryReads L.events) start stop now = .ok cp ∧
        (((L.witness (cp.seqStart, cp.seqEnd)).isSome ∧ L.step K (.signRoot start stop now) =
            ⟨memoryAnnotate L.events cp.seqStart cp.seqEnd cp.rootSig, L.witness⟩) ∨
          (L.witness (cp.seqStart, cp.seqEnd) = none ∧ L.step K (.signRoot start stop now) =
            ⟨memoryAnnotate L.events cp.seqStart cp.seqEnd cp.rootSig,
              Function.update L.witness (cp.seqStart, cp.seqEnd) (some cp)⟩)) := by
  rw [Ledger.step, signRoot]
  cases hreq : requestedRoot K (memoryReads L.events) start stop now with
  | error x => exact .inl ⟨⟨x, rfl⟩, rfl⟩
  | ok cp =>
    refine .inr ⟨cp, rfl, ?_⟩
    simp only [Witness.put]
    by_cases hfree : (L.witness (cp.seqStart, cp.seqEnd)).isSome
    · exact .inl ⟨hfree, by rw [if_pos hfree]⟩
    · refine .inr ⟨?_, by rw [if_neg hfree]⟩
      rwa [Bool.not_eq_true, Option.isSome_eq_false_iff, Option.isNone_iff_eq_none] at hfree

theorem ledgerOk_empty : LedgerOk K Ledger.empty := by
  refine ⟨trivial, fun r cp h => ?_, fun r cp h => ?_, fun e he => ?_⟩
  · cases h
  · cases h
  · cases he

/-- An appended event is in no checkpoint. -/
theorem append_beyond (h : Recorded K L) {e : AuditEvent}
    (hseq : e.seq = some (L.events.length + 1 : ℤ)) {r : ℤ × ℤ} {cp : RootCheckpoint}
    (hr : L.witness r = some cp) : ¬ e.within r.1 r.2 = true := by
  intro hw
  have hkept := h.kept r cp hr
  have hcovered := hkept.covered
  rw [hkept.range] at hw
  have hin := (within_iff hseq).1 hw
  simp only at hin
  omega

theorem recorded_empty : Recorded K Ledger.empty := ledgerOk_empty.recorded

/-- An appended event. -/
theorem recorded_append (h : Recorded K L) {mandateId type : String} {payload : Json}
    {createdAt : Option Instant} {now : Instant} {e : AuditEvent}
    (happend : L.append K mandateId type payload createdAt now = .ok e) :
    Recorded K { L with events := L.events ++ [e] } := by
  obtain ⟨hseq, hprev, hhash, -⟩ := append_ok happend
  refine ⟨chained_append.2 ⟨h.chained, ?_, hprev, hhash, trivial⟩,
    fun r cp hr => (h.kept r cp hr).append e, fun r cp hr f hf hw => ?_⟩
  · rw [hseq, Int.add_comm]
  · rcases List.mem_append.1 hf with hf | hf
    · exact h.covered r cp hr f hf hw
    · rw [List.mem_singleton.1 hf] at hw
      exact absurd hw (append_beyond h hseq hr)

/-- An annotation, whether or not a checkpoint follows. -/
theorem recorded_annotate (h : Recorded K L) (a b : ℤ) (sig : String) :
    Recorded K { L with events := memoryAnnotate L.events a b sig } := by
  refine ⟨annotate_chained h.chained, fun r cp hr => (h.kept r cp hr).annotate a b sig,
    fun r cp hr e he hw => ?_⟩
  obtain ⟨f, hf, ⟨rfl, -⟩ | ⟨rfl, -, -⟩⟩ := mem_annotate he
  · exact h.covered r cp hr e hf hw
  · exact Option.some_ne_none _

/-- An annotation over signed events. -/
theorem annotate_signed {es : List AuditEvent} {a b : ℤ} {sig : String}
    (h : ∀ e ∈ es, e.within a b = true → e.rootSig ≠ none) : memoryAnnotate es a b sig = es := by
  rw [memoryAnnotate]
  conv_rhs => rw [← List.map_id es]
  refine List.map_congr_left fun e he => ?_
  rw [if_neg fun hw => h e he hw.1 hw.2]
  rfl

/-- A signed event stays as it is. -/
theorem annotate_keeps {es : List AuditEvent} {e : AuditEvent} (he : e ∈ es)
    (hsig : e.rootSig ≠ none) (a b : ℤ) (sig : String) : e ∈ memoryAnnotate es a b sig := by
  refine List.mem_map.2 ⟨e, he, ?_⟩
  rw [if_neg fun hw => hsig hw.2]

/-- An annotated range is signed. -/
theorem annotate_covers {es : List AuditEvent} {a b : ℤ} {sig : String} {e : AuditEvent}
    (he : e ∈ memoryAnnotate es a b sig) (hw : e.within a b = true) : e.rootSig ≠ none := by
  obtain ⟨f, -, ⟨rfl, hskip⟩ | ⟨rfl, -, -⟩⟩ := mem_annotate he
  · exact fun hnone => hskip ⟨hw, hnone⟩
  · exact Option.some_ne_none _

/-- A published checkpoint of a signed range. -/
theorem recorded_publish (h : Recorded K L) {cp : RootCheckpoint}
    (hcp : Kept K L.events (cp.seqStart, cp.seqEnd) cp)
    (hsigned : ∀ e ∈ L.events, e.within cp.seqStart cp.seqEnd = true → e.rootSig ≠ none) :
    Recorded K ⟨L.events, Function.update L.witness (cp.seqStart, cp.seqEnd) (some cp)⟩ := by
  have hnew : ∀ r cp', Function.update L.witness (cp.seqStart, cp.seqEnd) (some cp) r = some cp' →
      (r = (cp.seqStart, cp.seqEnd) ∧ cp' = cp) ∨ L.witness r = some cp' := by
    intro r cp' hr
    by_cases hrange : r = (cp.seqStart, cp.seqEnd)
    · rw [hrange, Function.update_self] at hr
      exact .inl ⟨hrange, (Option.some.inj hr).symm⟩
    · rw [Function.update_of_ne hrange] at hr
      exact .inr hr
  refine ⟨h.chained, fun r cp' hr => ?_, fun r cp' hr => ?_⟩
  · rcases hnew r cp' hr with ⟨rfl, rfl⟩ | hr
    · exact hcp
    · exact h.kept r cp' hr
  · rcases hnew r cp' hr with ⟨rfl, rfl⟩ | hr
    · exact hsigned
    · exact h.covered r cp' hr

/-- The state after an accepted signature. -/
theorem ledgerOk_sign (h : LedgerOk K L) {cp : RootCheckpoint}
    (hcp : Kept K L.events (cp.seqStart, cp.seqEnd) cp)
    (hfree : L.witness (cp.seqStart, cp.seqEnd) = none) :
    LedgerOk K ⟨memoryAnnotate L.events cp.seqStart cp.seqEnd cp.rootSig,
      Function.update L.witness (cp.seqStart, cp.seqEnd) (some cp)⟩ := by
  have hold : ∀ r cp', L.witness r = some cp' →
      Function.update L.witness (cp.seqStart, cp.seqEnd) (some cp) r = some cp' := by
    intro r cp' hr
    rw [Function.update_of_ne]
    · exact hr
    · rintro rfl
      rw [hfree] at hr
      cases hr
  have hrecorded := recorded_publish
    (recorded_annotate h.recorded cp.seqStart cp.seqEnd cp.rootSig) (hcp.annotate _ _ _)
    fun e he => annotate_covers he
  refine ⟨hrecorded.chained, hrecorded.kept, hrecorded.covered, fun e he sig hsig => ?_⟩
  obtain ⟨f, hf, ⟨rfl, -⟩ | ⟨rfl, -, -⟩⟩ := mem_annotate he
  · obtain ⟨r, cp', hr, hrsig⟩ := h.witnessed e hf sig hsig
    exact ⟨r, cp', hold r cp' hr, hrsig⟩
  · exact ⟨_, cp, Function.update_self .., Option.some.inj hsig⟩

/-- **Every request** keeps the ledger's invariant. -/
theorem ledgerOk_step (h : LedgerOk K L) (r : Request) : LedgerOk K (L.step K r) := by
  cases r with
  | append mandateId type payload createdAt now =>
    rw [Ledger.step]
    cases happend : L.append K mandateId type payload createdAt now with
    | error x => exact h
    | ok e =>
      have hrecorded := recorded_append h.recorded happend
      refine ⟨hrecorded.chained, hrecorded.kept, hrecorded.covered, fun f hf sig hsig => ?_⟩
      rcases List.mem_append.1 hf with hf | hf
      · exact h.witnessed f hf sig hsig
      · rw [List.mem_singleton.1 hf, (append_ok happend).2.2.2] at hsig
        cases hsig
  | signRoot start stop now =>
    rcases step_signRoot (K := K) L start stop now with ⟨-, hL⟩ | ⟨cp, hreq, ⟨hsome, hL⟩ | ⟨hfree, hL⟩⟩
    · rw [hL]
      exact h
    · obtain ⟨cp', hcp'⟩ := Option.isSome_iff_exists.1 hsome
      rw [hL, annotate_signed (h.covered _ cp' hcp')]
      exact h
    · rw [hL]
      exact ledgerOk_sign h (requestedRoot_kept h.chained hreq) hfree

/-- **Every history** keeps the ledger's invariant. -/
theorem ledgerOk_after (h : LedgerOk K L) (rs : List Request) : LedgerOk K (L.after K rs) := by
  induction rs generalizing L with
  | nil => exact h
  | cons r rs ih => exact ih (ledgerOk_step h r)

theorem after_cons (L : Ledger) (r : Request) (rs : List Request) :
    L.after K (r :: rs) = (L.step K r).after K rs := rfl

/-- A published checkpoint stays. -/
theorem witness_step {r : ℤ × ℤ} {cp : RootCheckpoint} (h : L.witness r = some cp)
    (request : Request) : (L.step K request).witness r = some cp := by
  cases request with
  | append mandateId type payload createdAt now =>
    rw [Ledger.step]
    cases L.append K mandateId type payload createdAt now with
    | error x => exact h
    | ok e => exact h
  | signRoot start stop now =>
    rcases step_signRoot (K := K) L start stop now with ⟨-, hL⟩ | ⟨cp', -, ⟨-, hL⟩ | ⟨hfree, hL⟩⟩
    · rw [hL]
      exact h
    · rw [hL]
      exact h
    · rw [hL]
      change Function.update L.witness (cp'.seqStart, cp'.seqEnd) (some cp') r = some cp
      rw [Function.update_of_ne]
      · exact h
      · rintro rfl
        rw [hfree] at h
        cases h

theorem witness_after {r : ℤ × ℤ} {cp : RootCheckpoint} (h : L.witness r = some cp)
    (rs : List Request) : (L.after K rs).witness r = some cp := by
  induction rs generalizing L with
  | nil => exact h
  | cons request rs ih => exact ih (witness_step h request)

/-- A signed event stays as it is. -/
theorem signed_step {e : AuditEvent} (he : e ∈ L.events) (hsig : e.rootSig ≠ none)
    (request : Request) : e ∈ (L.step K request).events := by
  cases request with
  | append mandateId type payload createdAt now =>
    rw [Ledger.step]
    cases L.append K mandateId type payload createdAt now with
    | error x => exact he
    | ok f => exact List.mem_append_left _ he
  | signRoot start stop now =>
    rcases step_signRoot (K := K) L start stop now with ⟨-, hL⟩ | ⟨cp, -, ⟨-, hL⟩ | ⟨-, hL⟩⟩
    · rw [hL]
      exact he
    · rw [hL]
      exact annotate_keeps he hsig _ _ _
    · rw [hL]
      exact annotate_keeps he hsig _ _ _

/-! ## Marks -/

/-- **Signatures mark ranges**: every signed event is in a checkpoint that carries its signature, and
so is every event of that checkpoint. -/
def Marked (L : Ledger) : Prop :=
  ∀ e ∈ L.events, ∀ sig, e.rootSig = some sig → ∃ r cp, L.witness r = some cp ∧ cp.rootSig = sig ∧
    e.within r.1 r.2 = true ∧ ∀ f ∈ L.events, f.within r.1 r.2 = true → f.rootSig = some sig

/-- A checkpoint whose signature marks a part of its range, another signature the rest. -/
def Torn (L : Ledger) : Prop :=
  ∃ r cp, L.witness r = some cp ∧ (∃ e ∈ L.events, e.rootSig = some cp.rootSig) ∧
    ∃ f ∈ L.events, f.within r.1 r.2 = true ∧ f.rootSig ≠ none ∧ f.rootSig ≠ some cp.rootSig

variable (K) in
/-- **A step that tears no range**: an accepted checkpoint covers unsigned events only, or signed
events only. -/
def WholeRange (L : Ledger) : Request → Prop
  | .append .. => True
  | .signRoot start stop now =>
    ∀ cp, (signRoot K memoryReads memoryAnnotate L.events L.witness start stop now).1 = .ok cp →
      (∀ e ∈ L.events, e.within cp.seqStart cp.seqEnd = true → e.rootSig = none) ∨
        ∀ e ∈ L.events, e.within cp.seqStart cp.seqEnd = true → e.rootSig ≠ none

/-- No two checkpoints carry one signature. -/
def Distinct (witness : Witness) : Prop :=
  ∀ r r' cp cp', witness r = some cp → witness r' = some cp' → cp.rootSig = cp'.rootSig → r = r'

/-- An accepted signature. -/
theorem signRoot_ok {start stop : Option ℤ} {now : Instant} {cp : RootCheckpoint}
    (hreq : requestedRoot K (memoryReads L.events) start stop now = .ok cp)
    (hfree : L.witness (cp.seqStart, cp.seqEnd) = none) :
    (signRoot K memoryReads memoryAnnotate L.events L.witness start stop now).1 = .ok cp := by
  rw [signRoot, hreq]
  simp only [Witness.put]
  rw [if_neg]
  rw [hfree]
  exact Bool.false_ne_true

theorem marked_sign (h : Marked L) {cp : RootCheckpoint}
    (hfree : L.witness (cp.seqStart, cp.seqEnd) = none)
    (hnone : ∀ e ∈ L.events, e.within cp.seqStart cp.seqEnd = true → e.rootSig = none) :
    Marked ⟨memoryAnnotate L.events cp.seqStart cp.seqEnd cp.rootSig,
      Function.update L.witness (cp.seqStart, cp.seqEnd) (some cp)⟩ := by
  intro e he sig hsig
  obtain ⟨f, hf, ⟨rfl, -⟩ | ⟨rfl, hw, -⟩⟩ := mem_annotate he
  · -- signed before
    obtain ⟨r, cp', hr, hcp, hin, hall⟩ := h e hf sig hsig
    refine ⟨r, cp', ?_, hcp, hin, fun g hg hgw => ?_⟩
    · change Function.update L.witness _ _ r = some cp'
      rw [Function.update_of_ne]
      · exact hr
      · rintro rfl
        rw [hfree] at hr
        cases hr
    · obtain ⟨g', hg', ⟨rfl, -⟩ | ⟨rfl, -, hgnone⟩⟩ := mem_annotate hg
      · exact hall g hg' hgw
      · have hgsig := hall g' hg' hgw
        rw [hgnone] at hgsig
        cases hgsig
  · -- signed now
    have hsame : cp.rootSig = sig := Option.some.inj hsig
    refine ⟨_, cp, Function.update_self .., hsame, hw, fun g hg hgw => ?_⟩
    obtain ⟨g', hg', ⟨rfl, hskip⟩ | ⟨rfl, -, -⟩⟩ := mem_annotate hg
    · exact absurd ⟨hgw, hnone g hg' hgw⟩ hskip
    · exact hsig

/-- **A step that tears no range** keeps the marks. -/
theorem marked_step (hok : LedgerOk K L) (h : Marked L) {request : Request}
    (hwhole : WholeRange K L request) : Marked (L.step K request) := by
  cases request with
  | append mandateId type payload createdAt now =>
    rw [Ledger.step]
    cases happend : L.append K mandateId type payload createdAt now with
    | error x => exact h
    | ok e =>
      obtain ⟨hseq, -, -, hnone⟩ := append_ok happend
      intro f hf sig hsig
      rcases List.mem_append.1 hf with hf | hf
      · obtain ⟨r, cp, hr, hcp, hin, hall⟩ := h f hf sig hsig
        refine ⟨r, cp, hr, hcp, hin, fun g hg hgw => ?_⟩
        rcases List.mem_append.1 hg with hg | hg
        · exact hall g hg hgw
        · rw [List.mem_singleton.1 hg] at hgw
          exact absurd hgw (append_beyond hok.recorded hseq hr)
      · rw [List.mem_singleton.1 hf, hnone] at hsig
        cases hsig
  | signRoot start stop now =>
    rcases step_signRoot (K := K) L start stop now with ⟨-, hL⟩ | ⟨cp, hreq, ⟨hsome, hL⟩ | ⟨hfree, hL⟩⟩
    · rw [hL]
      exact h
    · obtain ⟨cp', hcp'⟩ := Option.isSome_iff_exists.1 hsome
      rw [hL, annotate_signed (hok.covered _ cp' hcp')]
      exact h
    · rw [hL]
      rcases hwhole cp (signRoot_ok hreq hfree) with hnone | hsigned
      · exact marked_sign h hfree hnone
      · rw [annotate_signed hsigned]
        intro e he sig hsig
        obtain ⟨r, cp', hr, hrest⟩ := h e he sig hsig
        refine ⟨r, cp', ?_, hrest⟩
        change Function.update L.witness _ _ r = some cp'
        rw [Function.update_of_ne]
        · exact hr
        · rintro rfl
          rw [hfree] at hr
          cases hr

/-- **A step that tears a range**, its signature being new. -/
theorem torn_step (hok : LedgerOk K L) {request : Request} (hmixed : ¬ WholeRange K L request)
    (hdistinct : Distinct (L.step K request).witness) : Torn (L.step K request) := by
  cases request with
  | append mandateId type payload createdAt now => exact absurd trivial hmixed
  | signRoot start stop now =>
    rw [WholeRange] at hmixed
    push Not at hmixed
    obtain ⟨cp, hcp, ⟨f, hf, hfw, hfsig⟩, e, he, hew, hesig⟩ := hmixed
    rcases step_signRoot (K := K) L start stop now with ⟨⟨x, hrefused⟩, -⟩ |
      ⟨cp', hreq, ⟨hsome, hL⟩ | ⟨hfree, hL⟩⟩
    · rw [signRoot, hrefused] at hcp
      cases hcp
    · rw [signRoot, hreq] at hcp
      simp only [Witness.put, if_pos hsome] at hcp
      cases hcp
    · obtain rfl : cp' = cp := Except.ok.inj ((signRoot_ok hreq hfree).symm.trans hcp)
      rw [hL] at hdistinct ⊢
      refine ⟨_, cp', Function.update_self .., ?_, f, annotate_keeps hf hfsig _ _ _, hfw, hfsig, ?_⟩
      · refine ⟨{ e with rootSig := some cp'.rootSig }, List.mem_map.2 ⟨e, he, ?_⟩, rfl⟩
        rw [if_pos ⟨hew, hesig⟩]
      · intro hsame
        obtain ⟨r, cp, hr, hrsig⟩ := hok.witnessed f hf _ hsame
        have hr' : Function.update L.witness (cp'.seqStart, cp'.seqEnd) (some cp') r = some cp := by
          rw [Function.update_of_ne]
          · exact hr
          · rintro rfl
            rw [hfree] at hr
            cases hr
        have hrange := hdistinct r _ cp cp' hr' (Function.update_self ..) hrsig
        rw [hrange, hfree] at hr
        cases hr

/-- A torn range stays torn. -/
theorem torn_after (h : Torn L) (rs : List Request) : Torn (L.after K rs) := by
  induction rs generalizing L with
  | nil => exact h
  | cons request rs ih =>
    obtain ⟨r, cp, hr, ⟨e, he, hesig⟩, f, hf, hfw, hfsig, hne⟩ := h
    refine ih ⟨r, cp, witness_step hr request, ⟨e, signed_step he ?_ request, hesig⟩, f,
      signed_step hf hfsig request, hfw, hfsig, hne⟩
    rw [hesig]
    exact Option.some_ne_none _

/-- **A history** tears no range and keeps its marks, or it has torn one. -/
theorem marked_or_torn (hok : LedgerOk K L) (h : Marked L) {rs : List Request}
    (hdistinct : Distinct (L.after K rs).witness) :
    (Through K (WholeRange K) L rs ∧ Marked (L.after K rs)) ∨
      (¬ Through K (WholeRange K) L rs ∧ Torn (L.after K rs)) := by
  induction rs generalizing L with
  | nil => exact .inl ⟨trivial, h⟩
  | cons request rs ih =>
    by_cases hwhole : WholeRange K L request
    · rcases ih (ledgerOk_step hok request) (marked_step hok h hwhole) hdistinct with
        ⟨hthrough, hmarked⟩ | ⟨hthrough, htorn⟩
      · exact .inl ⟨⟨hwhole, hthrough⟩, hmarked⟩
      · exact .inr ⟨fun hall => hthrough hall.2, htorn⟩
    · refine .inr ⟨fun hall => hwhole hall.1, torn_after (torn_step hok hwhole ?_) rs⟩
      intro r r' cp cp' hr hr'
      exact hdistinct r r' cp cp' (witness_after hr rs) (witness_after hr' rs)

end TryTrust.Audit
