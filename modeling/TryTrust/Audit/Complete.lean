import TryTrust.Audit.Ledger

/-!
# When an untampered ledger verifies

What `verifyChain` reports on a ledger that only `append` and `sign_root` have written.

* `Sound`: what the primitives do on the checkpoints of a ledger;
* `Whole`: a selection of events that parts no signature's events; **`marked_passes`**: on marked
  events such a selection verifies; `parted_fails`, `torn_fails`: others do not;
* **`ledger_complete`**: the whole ledger verifies exactly when no step of the history tore a range,
  and then a range verifies exactly when it parts no signature's events; `ledger_refused`.
-/

namespace TryTrust.Audit

/-- The texts whose hashes are the roots of a ledger's checkpoints. -/
def rootTexts (L : Ledger) : Set String :=
  {text | ∃ r cp, L.witness r = some cp ∧ ∃ last ∈ L.events, last.seq = some cp.seqEnd ∧
    canonicalText (rootEnvelope cp.seqStart cp.seqEnd last.hash (cp.seqEnd - cp.seqStart + 1)) =
      some text}

/-- The roots that were published. -/
def roots (L : Ledger) : Set String := {root | ∃ r cp, L.witness r = some cp ∧ cp.rootHash = root}

/-- **The primitives on a ledger's checkpoints**: no collision, no common signature, and every
signature is recognised. -/
structure Sound (K : Crypto) (L : Ledger) : Prop where
  hashes : Set.InjOn K.sha256 (rootTexts L)
  signatures : Set.InjOn K.sign (roots L)
  verifies : ∀ root ∈ roots L, K.verify root (K.sign root) = true

variable {K : Crypto} {L : Ledger}

theorem hex_inj {x y : List UInt8} (h : hex x = hex y) : x = y := by
  have hread := congrArg fromHex h
  rw [fromHex_hex, fromHex_hex] at hread
  exact Option.some.inj hread

/-- Checkpoints of different ranges carry different signatures. -/
theorem Sound.distinct (hK : Sound K L) (h : LedgerOk K L) : Distinct L.witness := by
  intro r r' cp cp' hr hr' hsig
  have hkept := h.kept r cp hr
  have hkept' := h.kept r' cp' hr'
  rw [hkept.signed, hkept'.signed] at hsig
  have hroot : cp.rootHash = cp'.rootHash :=
    hK.signatures ⟨r, cp, hr, rfl⟩ ⟨r', cp', hr', rfl⟩ (hex_inj hsig)
  obtain ⟨last, hlast, hseq, hhash⟩ := hkept.root
  obtain ⟨last', hlast', hseq', hhash'⟩ := hkept'.root
  obtain ⟨-, -, -, text, htext, heq⟩ := computeRootHash_eq hhash
  obtain ⟨-, -, -, text', htext', heq'⟩ := computeRootHash_eq hhash'
  have hsame : text = text' := hK.hashes ⟨r, cp, hr, last, hlast, hseq, htext⟩
    ⟨r', cp', hr', last', hlast', hseq', htext'⟩ (heq.symm.trans (hroot.trans heq'))
  rw [hsame] at htext
  obtain ⟨hstart, hend, -, -⟩ := rootEnvelope_inj htext htext'
  rw [hkept.range, hkept'.range, hstart, hend]

/-! ## A selection of events -/

/-- Consecutive events of the ledger, with all the events of every signature among them. -/
structure Whole (K : Crypto) (L : Ledger) (es : List AuditEvent) : Prop where
  chained : ∃ prev n, Chained K prev n es
  sub : ∀ e ∈ es, e ∈ L.events
  all : ∀ e ∈ es, ∀ f ∈ L.events, e.rootSig ≠ none → f.rootSig = e.rootSig → f ∈ es

/-- The run of a signature is the range of its checkpoint. -/
theorem run_checkpoint (h : LedgerOk K L) (hdistinct : Distinct L.witness) (hmarked : Marked L)
    {es : List AuditEvent} (hes : Whole K L es) {a b : ℤ} {sig : String}
    (hrun : MaximalRun es a b sig) : ∃ cp, L.witness (a, b) = some cp ∧ cp.rootSig = sig := by
  obtain ⟨e, he, hea⟩ := hrun.first
  obtain ⟨g, hg, hgb⟩ := hrun.last
  have hle := hrun.le
  have hesig := hrun.inside e he ((within_iff hea).2 ⟨le_rfl, hle⟩)
  have hgsig := hrun.inside g hg ((within_iff hgb).2 ⟨hle, le_rfl⟩)
  obtain ⟨r, cp, hr, hcp, hein, hall⟩ := hmarked e (hes.sub e he) sig hesig
  obtain ⟨r', cp', hr', hcp', hgin, -⟩ := hmarked g (hes.sub g hg) sig hgsig
  obtain rfl : r' = r := hdistinct r' r cp' cp hr' hr (hcp'.trans hcp.symm)
  have hkept := h.kept r' cp hr
  have hpos := hkept.pos
  have hcovered := hkept.covered
  rw [hkept.range] at hein hgin hall hr
  have hea' := (within_iff hea).1 hein
  have hgb' := (within_iff hgb).1 hgin
  simp only at hea' hgb'
  -- an event of the checkpoint next to the run would belong to it
  have hnext : ∀ m, cp.seqStart ≤ m → m ≤ cp.seqEnd → ∃ f ∈ es, f.seq = some m ∧
      f.rootSig = some sig := by
    intro m hlo hhi
    obtain ⟨f, hf, hfm⟩ := chained_mem h.chained (m := m) (by omega) (by omega)
    have hfsig := hall f hf ((within_iff hfm).2 ⟨hlo, hhi⟩)
    refine ⟨f, hes.all e he f hf ?_ ?_, hfm, hfsig⟩
    · rw [hesig]
      exact Option.some_ne_none _
    · rw [hfsig, hesig]
  have hstart : a = cp.seqStart := by
    by_contra hne
    obtain ⟨f, hf, hfm, hfsig⟩ := hnext (a - 1) (by omega) (by omega)
    exact hrun.before f hf hfm hfsig
  have hend : b = cp.seqEnd := by
    by_contra hne
    obtain ⟨f, hf, hfm, hfsig⟩ := hnext (b + 1) (by omega) (by omega)
    exact hrun.after f hf hfm hfsig
  rw [hstart, hend]
  exact ⟨cp, hr, hcp⟩

/-- The range of a checkpoint has no problem. -/
theorem checkpoint_range_ok (hK : Sound K L) (h : LedgerOk K L) {es : List AuditEvent}
    (hes : Whole K L es) {a b : ℤ} {cp : RootCheckpoint} (hcp : L.witness (a, b) = some cp)
    (hfirst : ∃ e ∈ es, e.seq = some a) (hlast : ∃ e ∈ es, e.seq = some b) :
    rangeProblem K L.witness es a b cp.rootSig = .ok none := by
  have hkept := h.kept _ cp hcp
  obtain ⟨hstart, hend⟩ := Prod.mk.inj hkept.range
  have hle := hkept.le
  obtain ⟨prev, n, hchain⟩ := hes.chained
  obtain ⟨-, -, hlen, last, hmem, hseq, hget⟩ := chained_range_last hchain hfirst hlast (by omega)
  -- the last event of the range is the one that was signed
  obtain ⟨signed, hsmem, hsseq, hroot⟩ := hkept.root
  have hsame : last = signed := by
    refine chained_unique h.chained (hes.sub _ hmem) hsmem ?_
    rw [hseq, hsseq, ← hend]
  rw [rangeProblem_none]
  refine ⟨cp.rootHash, K.sign cp.rootHash, cp, ?_, ?_, hK.verifies _ ⟨_, cp, hcp, rfl⟩, hcp, rfl,
    rfl, ?_⟩
  · rw [hget, Option.map_some, Option.getD_some, hsame, hlen, hstart, hend]
    exact hroot
  · rw [hkept.signed, fromHex_hex]
  · rw [hkept.cardinality, hlen, hstart, hend]

theorem initialRun {past : List AuditEvent} (h : past = []) (m : ℤ) : RunKnows past m {} := by
  subst h
  constructor
  · intro e he
    cases he
  · intro sig hsig
    cases hsig

/-- The ranges that the verifier finds. -/
theorem found_range {prev : String} {n : ℤ} {es : List AuditEvent} (h : Chained K prev n es) :
    ∀ x ∈ checkpointRanges {} es, MaximalRun es x.1 x.2.1 x.2.2 :=
  ranges_spec h (initialRun rfl _)

/-- **Marked events** verify when no signature's events are parted. -/
theorem marked_passes (hK : Sound K L) (h : LedgerOk K L) (hmarked : Marked L)
    {es : List AuditEvent} (hes : Whole K L es) {range : Option (ℤ × ℤ)}
    (hread : (memoryReads L.events).select range = .ok es) :
    Passes (verifyChain K (memoryReads L.events) L.witness none range) := by
  rw [verifyChain_iff hread]
  obtain ⟨prev, n, hchain⟩ := hes.chained
  cases es with
  | nil => exact .inl rfl
  | cons first rest =>
    refine .inr ⟨?_, fun x hx => ?_⟩
    · have hseqs : ∀ f ∈ rest, f.seq.isSome := by
        intro f hf
        obtain ⟨m, hm, -⟩ := chained_seq hchain f (List.mem_cons_of_mem _ hf)
        rw [hm]
        rfl
      rw [validateChain_iff none hchain.1 hseqs]
      have hprev : expectedPrev none none first = first.prevHash := by
        rw [expectedPrev, Option.getD_none]
        by_cases hone : first.seq = some 1
        · -- the first event of the ledger
          rw [if_pos hone]
          have hmem := hes.sub first List.mem_cons_self
          have hL := h.chained
          cases hevents : L.events with
          | nil =>
            rw [hevents] at hmem
            cases hmem
          | cons e es =>
            rw [hevents] at hmem hL
            rw [chained_unique hL hmem List.mem_cons_self (hone.trans hL.1.symm)]
            exact hL.2.1.symm
        · rw [if_neg hone]
      rw [hprev]
      exact ⟨hchain.1, rfl, hchain.2.2⟩
    · have hrun := found_range hchain x hx
      obtain ⟨cp, hcp, hsig⟩ := run_checkpoint h (hK.distinct h) hmarked hes hrun
      rw [← hsig]
      exact checkpoint_range_ok hK h hes hcp hrun.first hrun.last

/-- A signature among the events that were verified has a range, which has no problem. -/
theorem passes_signed {reads : Reads} {witness : Witness} {es : List AuditEvent} {prev : String}
    {n : ℤ} (hchain : Chained K prev n es) {range : Option (ℤ × ℤ)}
    (hread : reads.select range = .ok es)
    (hpass : Passes (verifyChain K reads witness none range))
    {e : AuditEvent} (he : e ∈ es) {sig : String} (hsig : e.rootSig = some sig) :
    ∃ a b, MaximalRun es a b sig ∧ rangeProblem K witness es a b sig = .ok none := by
  have hseqs : ∀ f ∈ es, f.seq.isSome := by
    intro f hf
    obtain ⟨m, hm, -⟩ := chained_seq hchain f hf
    rw [hm]
    rfl
  have hnone : ({} : SigRun).sig.isSome →
      ({} : SigRun).start.isSome ∧ ({} : SigRun).last.isSome := by
    intro h
    cases h
  obtain ⟨a, b, hx⟩ := ranges_of_signed hseqs hnone (.inr ⟨e, he, hsig⟩)
  rw [verifyChain_iff hread] at hpass
  rcases hpass with rfl | ⟨-, hranges⟩
  · cases he
  · exact ⟨a, b, found_range hchain _ hx, hranges _ hx⟩

/-- **A torn range** is refused. -/
theorem torn_fails (hdistinct : Distinct L.witness) (h : LedgerOk K L) (htorn : Torn L) :
    ¬ Passes (verifyChain K (memoryReads L.events) L.witness none none) := by
  intro hpass
  obtain ⟨r, cp, hr, ⟨e, he, hesig⟩, f, hf, hfw, -, hfsig⟩ := htorn
  obtain ⟨a, b, hrun, hok⟩ := passes_signed h.chained rfl hpass he hesig
  obtain ⟨-, -, cp', -, -, -, hcp', -, hsame, -⟩ := rangeProblem_none.1 hok
  obtain rfl : r = (a, b) := hdistinct _ _ cp cp' hr hcp' hsame.symm
  exact hfsig (hrun.inside f hf hfw)

/-- **The events of one signature** inside a range and outside of it. -/
def Parts (L : Ledger) (p q : ℤ) : Prop :=
  ∃ e ∈ L.events, ∃ f ∈ L.events, e.rootSig ≠ none ∧ f.rootSig = e.rootSig ∧
    e.within p q = true ∧ ¬ f.within p q = true

/-- Parted events are refused. -/
theorem parted_fails (hdistinct : Distinct L.witness) (h : LedgerOk K L) (hmarked : Marked L)
    {p q : ℤ} (hparts : Parts L p q) :
    ¬ Passes (verifyChain K (memoryReads L.events) L.witness none (some (p, q))) := by
  intro hpass
  obtain ⟨e, he, f, hf, hesig, hfsig, hew, hfw⟩ := hparts
  obtain ⟨sig, hsig⟩ := Option.ne_none_iff_exists'.1 hesig
  obtain ⟨pre, post, hsplit⟩ := chained_range h.chained p q
  have hchain := h.chained
  rw [hsplit] at hchain
  obtain ⟨a, b, hrun, hok⟩ := passes_signed (chained_segment hchain) rfl hpass
    (List.mem_filter.2 ⟨he, hew⟩) hsig
  obtain ⟨-, -, cp, -, -, -, hcp, -, hcpsig, -⟩ := rangeProblem_none.1 hok
  -- the other event is in the same checkpoint, whose ends are in the range
  obtain ⟨r, cp', hr, hcpsig', hfin, -⟩ := hmarked f hf sig (hfsig.trans hsig)
  obtain rfl : r = (a, b) := hdistinct _ _ cp' cp hr hcp (hcpsig'.trans hcpsig.symm)
  obtain ⟨x, hx, hxa⟩ := hrun.first
  obtain ⟨y, hy, hyb⟩ := hrun.last
  have hxw := (within_iff hxa).1 (List.mem_filter.1 hx).2
  have hyw := (within_iff hyb).1 (List.mem_filter.1 hy).2
  obtain ⟨m, hm, -⟩ := chained_seq h.chained f hf
  have hfab := (within_iff hm).1 hfin
  simp only at hfab
  exact hfw ((within_iff hm).2 (by omega))

theorem whole_all (h : LedgerOk K L) : Whole K L L.events :=
  ⟨⟨_, _, h.chained⟩, fun _ he => he, fun _ _ _ hf _ _ => hf⟩

theorem whole_range (h : LedgerOk K L) {p q : ℤ} (hparts : ¬ Parts L p q) :
    Whole K L (L.events.filter (·.within p q)) := by
  obtain ⟨pre, post, hsplit⟩ := chained_range h.chained p q
  have hchain := h.chained
  rw [hsplit] at hchain
  refine ⟨⟨_, _, chained_segment hchain⟩, fun e he => (List.mem_filter.1 he).1,
    fun e he f hf hsig hsame => ?_⟩
  obtain ⟨heL, hew⟩ := List.mem_filter.1 he
  by_contra hf'
  refine hparts ⟨e, heL, f, hf, hsig, hsame, hew, fun hfw => hf' (List.mem_filter.2 ⟨hf, hfw⟩)⟩

theorem marked_empty : Marked Ledger.empty := by
  intro e he
  cases he

/-- **The verdicts on an untampered ledger**, after any history of appends and root signatures: the
whole ledger is accepted exactly when every accepted checkpoint covered unsigned events only or
signed events only, and then a range is accepted exactly when no signature has events both inside
and outside of it. -/
theorem ledger_complete (K : Crypto) (rs : List Request) (hK : Sound K (Ledger.empty.after K rs)) :
    (Passes (verifyChain K (memoryReads (Ledger.empty.after K rs).events)
        (Ledger.empty.after K rs).witness none none) ↔
      Through K (WholeRange K) Ledger.empty rs) ∧
    (Through K (WholeRange K) Ledger.empty rs → ∀ p q,
      (Passes (verifyChain K (memoryReads (Ledger.empty.after K rs).events)
        (Ledger.empty.after K rs).witness none (some (p, q))) ↔
          ¬ Parts (Ledger.empty.after K rs) p q)) := by
  have hok := ledgerOk_after (K := K) ledgerOk_empty rs
  have hdistinct := hK.distinct hok
  rcases marked_or_torn ledgerOk_empty marked_empty hdistinct with
    ⟨hthrough, hmarked⟩ | ⟨hthrough, htorn⟩
  · refine ⟨⟨fun _ => hthrough, fun _ => marked_passes hK hok hmarked (whole_all hok) rfl⟩,
      fun _ p q => ⟨fun hpass hparts => parted_fails hdistinct hok hmarked hparts hpass,
        fun hparts => marked_passes hK hok hmarked (whole_range hok hparts) rfl⟩⟩
  · exact ⟨⟨fun hpass => absurd hpass (torn_fails hdistinct hok htorn),
      fun h => absurd h hthrough⟩, fun h => absurd h hthrough⟩

/-! ## Runs -/

/-- One checkpoint at most is sound with primitives that recognise their own signatures. -/
theorem sound_single (hverify : ∀ root, K.verify root (K.sign root) = true) {r : ℤ × ℤ}
    (hone : ∀ r', (L.witness r').isSome → r' = r) (hok : LedgerOk K L) : Sound K L := by
  have hcp : ∀ r₁ r₂ cp₁ cp₂, L.witness r₁ = some cp₁ → L.witness r₂ = some cp₂ → cp₁ = cp₂ := by
    intro r₁ r₂ cp₁ cp₂ h₁ h₂
    have hr₁ := hone r₁ (by rw [h₁]; rfl)
    have hr₂ := hone r₂ (by rw [h₂]; rfl)
    rw [hr₁] at h₁
    rw [hr₂, h₁] at h₂
    exact Option.some.inj h₂
  refine ⟨?_, ?_, fun root _ => hverify root⟩
  · rintro text ⟨r₁, cp₁, h₁, last, hlast, hseq, htext⟩ text'
      ⟨r₂, cp₂, h₂, last', hlast', hseq', htext'⟩ -
    obtain rfl := hcp r₁ r₂ cp₁ cp₂ h₁ h₂
    obtain rfl := chained_unique hok.chained hlast hlast' (hseq.trans hseq'.symm)
    exact Option.some.inj (htext.symm.trans htext')
  · rintro root ⟨r₁, cp₁, h₁, rfl⟩ root' ⟨r₂, cp₂, h₂, rfl⟩ -
    rw [hcp r₁ r₂ cp₁ cp₂ h₁ h₂]

theorem textCrypto_verifies (root : String) :
    textCrypto.verify root (textCrypto.sign root) = true := by
  simp [textCrypto]

/-- An event, and a checkpoint of it. -/
def signedOnce : List Request :=
  [.append "mdt_1" "mandate.created" (.obj []) none "2026-08-31T00:00:00",
    .signRoot none none "2026-08-31T00:00:10"]

theorem append_witness (L : Ledger) (mandateId type : String) (payload : Json)
    (createdAt : Option Instant) (now : Instant) :
    (L.step K (.append mandateId type payload createdAt now)).witness = L.witness := by
  rw [Ledger.step]
  cases L.append K mandateId type payload createdAt now with
  | error x => rfl
  | ok e => rfl

/-- The first request to sign publishes one checkpoint at most. -/
theorem first_checkpoint (hnone : ∀ r, L.witness r = none) (start stop : Option ℤ)
    (now : Instant) :
    ∃ r, ∀ r', ((L.step K (.signRoot start stop now)).witness r').isSome → r' = r := by
  rcases step_signRoot (K := K) L start stop now with ⟨-, hL⟩ | ⟨cp, -, ⟨-, hL⟩ | ⟨-, hL⟩⟩
  · refine ⟨(1, 1), fun r' h => ?_⟩
    rw [hL, hnone] at h
    cases h
  · refine ⟨(1, 1), fun r' h => ?_⟩
    rw [hL] at h
    rw [hnone] at h
    cases h
  · refine ⟨(cp.seqStart, cp.seqEnd), fun r' h => ?_⟩
    by_contra hne
    rw [hL] at h
    change (Function.update L.witness _ _ r').isSome at h
    rw [Function.update_of_ne hne, hnone] at h
    cases h

theorem signedOnce_sound : Sound textCrypto (Ledger.empty.after textCrypto signedOnce) := by
  have hok := ledgerOk_after (K := textCrypto) ledgerOk_empty signedOnce
  rw [signedOnce, after_cons, after_cons] at hok ⊢
  obtain ⟨r, hr⟩ := first_checkpoint (K := textCrypto)
    (fun r => congrFun (append_witness Ledger.empty "mdt_1" "mandate.created" (.obj []) none
      "2026-08-31T00:00:00") r) none none "2026-08-31T00:00:10"
  exact sound_single textCrypto_verifies hr hok

theorem signedOnce_whole : Through textCrypto (WholeRange textCrypto) Ledger.empty signedOnce := by
  refine ⟨trivial, fun cp _ => .inl fun e he _ => ?_, trivial⟩
  rw [Ledger.step] at he
  cases happend : Ledger.empty.append textCrypto "mdt_1" "mandate.created" (.obj []) none
      "2026-08-31T00:00:00" with
  | error x =>
    rw [happend] at he
    cases he
  | ok f =>
    rw [happend] at he
    rw [List.mem_singleton.1 he]
    exact (append_ok happend).2.2.2

/-- The hash of an event with an empty payload. -/
def emptyHash (type prevHash : String) (createdAt : Instant) : String :=
  (computeEventHash textCrypto "mdt_1" type (.obj []) prevHash createdAt).toOption.getD ""

def firstHash : String := emptyHash "mandate.created" genesisPrevHash "2026-08-31T00:00:00"

/-- The event of the history, before it is signed. -/
def onceEvent : AuditEvent where
  mandateId := "mdt_1"
  type := "mandate.created"
  payload := .obj []
  prevHash := genesisPrevHash
  hash := firstHash
  createdAt := "2026-08-31T00:00:00"
  seq := some 1
  rootSig := none

theorem append_once : Ledger.empty.append textCrypto "mdt_1" "mandate.created" (.obj []) none
    "2026-08-31T00:00:00" = .ok onceEvent := by
  obtain ⟨text, htext⟩ := eventEnvelope_text "mdt_1" "mandate.created" (.obj []) genesisPrevHash
    "2026-08-31T00:00:00" rfl
  have happend := append_made (K := textCrypto) (L := Ledger.empty) trivial none
    (by decide : "mdt_1" ≠ "") (by decide : "mandate.created" ≠ "") htext
  have hhash : firstHash = textCrypto.sha256 text := by
    rw [firstHash, emptyHash, computeEventHash, if_neg (by decide), if_neg (by decide),
      if_neg genesis_hex64.ne_empty, canonicalJson, htext]
    rfl
  rw [onceEvent, hhash]
  exact happend

theorem step_once : Ledger.empty.step textCrypto (.append "mdt_1" "mandate.created" (.obj []) none
    "2026-08-31T00:00:00") = ⟨[onceEvent], fun _ => none⟩ := by
  rw [Ledger.step, append_once]
  rfl

/-- The event and the witness, after it is signed. -/
theorem signedOnce_after : ∃ cp,
    (Ledger.empty.after textCrypto signedOnce).events = memoryAnnotate [onceEvent] 1 1 cp.rootSig ∧
    (Ledger.empty.after textCrypto signedOnce).witness (1, 1) = some cp := by
  obtain ⟨hseq, hprev, hhash, -⟩ := append_ok append_once
  have hchain : Chained textCrypto genesisPrevHash 1 [onceEvent] := ⟨hseq, hprev, hhash, trivial⟩
  obtain ⟨cp, hcp⟩ := checkpointOf_ok hchain (a := 1) (b := 1) le_rfl le_rfl (by simp)
    "2026-08-31T00:00:10"
  obtain ⟨hstart, hend⟩ := checkpointOf_range hcp
  -- nothing is signed, so the checkpoint starts and ends with the only number
  have hreq : requestedRoot textCrypto (memoryReads [onceEvent]) none none "2026-08-31T00:00:10" =
      .ok cp := by
    rw [← hcp]
    have hfirst : defaultStart [onceEvent] onceEvent = 1 := by
      simp [defaultStart, annotated, onceEvent]
    have hlast : defaultEnd [onceEvent] onceEvent = 1 := by simp [defaultEnd, onceEvent]
    simp only [requestedRoot, memoryReads, bind, Except.bind, Option.getD_none,
      List.getLastD_eq_getLast?, List.getLast?_singleton, Option.getD_some, hfirst, hlast]
  refine ⟨cp, ?_⟩
  rw [signedOnce, after_cons, after_cons, step_once, Ledger.after]
  rcases step_signRoot (K := textCrypto) ⟨[onceEvent], fun _ => none⟩ none none
      "2026-08-31T00:00:10" with ⟨⟨x, hx⟩, -⟩ | ⟨cp', hcp', ⟨hsome, -⟩ | ⟨-, hstep⟩⟩
  · exact absurd (hreq.symm.trans hx) (by simp)
  · cases hsome
  · obtain rfl : cp' = cp := Except.ok.inj (hcp'.symm.trans hreq)
    rw [hstep, hstart, hend]
    exact ⟨rfl, Function.update_self (1, 1) (some cp') fun _ => none⟩

/-- One event and its checkpoint verify. -/
theorem ledger_complete_once : (Ledger.empty.after textCrypto signedOnce).events.length = 1 ∧
    Passes (verifyChain textCrypto (memoryReads (Ledger.empty.after textCrypto signedOnce).events)
      (Ledger.empty.after textCrypto signedOnce).witness none none) := by
  obtain ⟨cp, hevents, -⟩ := signedOnce_after
  refine ⟨?_, (ledger_complete textCrypto signedOnce signedOnce_sound).1.2 signedOnce_whole⟩
  rw [hevents, annotate_length, List.length_singleton]

/-- Two events; the first is signed alone, then both are. -/
def overlapping : List Request :=
  [.append "mdt_1" "mandate.created" (.obj []) none "2026-08-31T00:00:00",
    .append "mdt_1" "purchase.verified" (.obj []) none "2026-08-31T00:00:05",
    .signRoot (some 1) (some 1) "2026-08-31T00:00:10",
    .signRoot (some 1) (some 2) "2026-08-31T00:00:15"]

/-- The verdict of a verification that ends. -/
def verdict (result : Except AuditErr ChainResult) : Option Bool := result.toOption.map (·.ok)

/-! ## A verification ends -/

/-- What is wrong with a range that the verifier finds is computed. -/
theorem rangeProblem_ends {es : List AuditEvent} (h : Chained K genesisPrevHash 1 es)
    (witness : Witness) {x : ℤ × ℤ × String} (hx : x ∈ checkpointRanges {} es) :
    ∃ problem, rangeProblem K witness es x.1 x.2.1 x.2.2 = .ok problem := by
  obtain ⟨hfirst, hlast, hle, -⟩ := found_range h x hx
  obtain ⟨first, hmem, hseq⟩ := hfirst
  obtain ⟨m, hm, hlo, -⟩ := chained_seq h first hmem
  obtain ⟨prev, hpart, hcount, last, hlastmem, -, hget⟩ :=
    chained_range_last h ⟨first, hmem, hseq⟩ hlast hle
  have hpos : 1 ≤ x.1 := by
    have hsame := Option.some.inj (hm.symm.trans hseq)
    omega
  obtain ⟨text, -, hroot⟩ := computeRootHash_ok (K := K) hpos hle hcount
    (rehash_hex (chained_rehash h last hlastmem))
  rw [rangeProblem, hget, Option.map_some, Option.getD_some, hroot]
  simp only [bind, Except.bind, pure, Except.pure]
  split_ifs with hsig
  · exact ⟨_, rfl⟩
  · cases witness (x.1, x.2.1) with
    | none => exact ⟨_, rfl⟩
    | some cp =>
      simp only
      split_ifs with hdiff
      · exact ⟨_, rfl⟩
      · exact ⟨_, rfl⟩

theorem verifyRanges_ends {witness : Witness} {es : List AuditEvent}
    {ranges : List (ℤ × ℤ × String)}
    (h : ∀ x ∈ ranges, ∃ problem, rangeProblem K witness es x.1 x.2.1 x.2.2 = .ok problem) :
    ∃ r, verifyRanges K witness es ranges = .ok r := by
  induction ranges with
  | nil => exact ⟨_, rfl⟩
  | cons x ranges ih =>
    obtain ⟨problem, hproblem⟩ := h x List.mem_cons_self
    simp only [verifyRanges, hproblem, bind, Except.bind]
    cases problem with
    | some reason => exact ⟨_, rfl⟩
    | none => exact ih fun y hy => h y (List.mem_cons_of_mem _ hy)

/-- **A verification of the whole ledger** ends with a verdict. -/
theorem verifyChain_ends (h : Chained K genesisPrevHash 1 L.events) :
    ∃ r, verifyChain K (memoryReads L.events) L.witness none none = .ok r := by
  rw [verifyChain]
  simp only [Reads.select, memoryReads, bind, Except.bind]
  split_ifs with hempty
  · exact ⟨_, rfl⟩
  · cases hevents : L.events with
    | nil =>
      rw [hevents] at hempty
      exact absurd rfl hempty
    | cons e es =>
      rw [hevents] at h
      have hseqs : ∀ f ∈ es, f.seq.isSome := by
        intro f hf
        obtain ⟨m, hm, -⟩ := chained_seq h f (List.mem_cons_of_mem _ hf)
        rw [hm]
        rfl
      have hprev : expectedPrev none none e = genesisPrevHash := if_pos h.1
      obtain ⟨chain, hchain, hok⟩ := (validateChain_iff none h.1 hseqs).2 (hprev.symm ▸ h)
      rw [hchain]
      simp only [hok, Bool.not_true, Bool.false_eq_true, if_false]
      exact verifyRanges_ends fun x hx => rangeProblem_ends h _ hx

/-! ## A torn range -/

/-- A range of the ledger without a checkpoint is signed. -/
theorem step_signed (h : LedgerOk K L) {a b : ℤ} (ha : 1 ≤ a) (hab : a ≤ b)
    (hb : b ≤ L.events.length) (hfree : L.witness (a, b) = none) (now : Instant) :
    ∃ cp, Kept K L.events (a, b) cp ∧ (cp.seqStart, cp.seqEnd) = (a, b) ∧
      (signRoot K memoryReads memoryAnnotate L.events L.witness (some a) (some b) now).1 = .ok cp ∧
      L.step K (.signRoot (some a) (some b) now) =
        ⟨memoryAnnotate L.events a b cp.rootSig, Function.update L.witness (a, b) (some cp)⟩ := by
  obtain ⟨cp, hcp⟩ := checkpointOf_ok h.chained ha hab hb now
  obtain ⟨rfl, rfl⟩ := checkpointOf_range hcp
  have hreq : requestedRoot K (memoryReads L.events) (some cp.seqStart) (some cp.seqEnd) now =
      .ok cp := by
    cases hevents : L.events with
    | nil =>
      rw [hevents, List.length_nil] at hb
      omega
    | cons e es =>
      rw [hevents] at hcp
      exact hcp
  refine ⟨cp, requestedRoot_kept h.chained hreq, rfl, signRoot_ok hreq hfree, ?_⟩
  rcases step_signRoot (K := K) L (some cp.seqStart) (some cp.seqEnd) now with
    ⟨⟨x, hx⟩, -⟩ | ⟨cp', hcp', ⟨hsome, -⟩ | ⟨-, hstep⟩⟩
  · exact absurd (hreq.symm.trans hx) (by simp)
  · obtain rfl : cp' = cp := Except.ok.inj (hcp'.symm.trans hreq)
    rw [hfree] at hsome
    cases hsome
  · obtain rfl : cp' = cp := Except.ok.inj (hcp'.symm.trans hreq)
    exact hstep

/-- The hash of the second event. -/
def secondHash : String := emptyHash "purchase.verified" firstHash "2026-08-31T00:00:05"

theorem overlapping_roots : (computeRootHash textCrypto 1 1 firstHash 1).toOption ≠
    (computeRootHash textCrypto 1 2 secondHash 2).toOption := by
  decide +kernel

/-- The two events. -/
theorem overlapping_events : ∃ second, LedgerOk textCrypto ⟨[onceEvent, second], fun _ => none⟩ ∧
    second.hash = secondHash ∧ second.rootSig = none ∧
    Ledger.empty.after textCrypto overlapping =
      (⟨[onceEvent, second], fun _ => none⟩ : Ledger).after textCrypto
        [.signRoot (some 1) (some 1) "2026-08-31T00:00:10",
          .signRoot (some 1) (some 2) "2026-08-31T00:00:15"] := by
  have hok := ledgerOk_step (K := textCrypto) ledgerOk_empty
    (.append "mdt_1" "mandate.created" (.obj []) none "2026-08-31T00:00:00")
  rw [step_once] at hok
  obtain ⟨second, happend, hmandate, htype, hpayload, hat⟩ := append_accepts hok.chained
    (.obj []) none "2026-08-31T00:00:05" (by decide : "mdt_1" ≠ "")
    (by decide : "purchase.verified" ≠ "") rfl
  have hok' := ledgerOk_step hok
    (.append "mdt_1" "purchase.verified" (.obj []) none "2026-08-31T00:00:05")
  have hstep : (⟨[onceEvent], fun _ => none⟩ : Ledger).step textCrypto (.append "mdt_1"
      "purchase.verified" (.obj []) none "2026-08-31T00:00:05") =
        ⟨[onceEvent, second], fun _ => none⟩ := by
    rw [Ledger.step, happend]
    rfl
  rw [hstep] at hok'
  obtain ⟨-, hprev, hhash, hsig⟩ := append_ok happend
  have hprev' : second.prevHash = firstHash := hprev
  refine ⟨second, hok', ?_, hsig, ?_⟩
  · rw [AuditEvent.rehash, hmandate, htype, hpayload, hat, hprev', Option.getD_none] at hhash
    rw [secondHash, emptyHash, hhash]
    rfl
  · rw [overlapping, after_cons, after_cons, step_once, hstep]

/-- The root of a checkpoint, from the last event of its range. -/
theorem kept_root {es : List AuditEvent} (h : Chained K genesisPrevHash 1 es) {a b : ℤ}
    {cp : RootCheckpoint} (hkept : Kept K es (a, b) cp) {e : AuditEvent} (he : e ∈ es)
    (hseq : e.seq = some b) : computeRootHash K a b e.hash (b - a + 1) = .ok cp.rootHash := by
  obtain ⟨hstart, hend⟩ := Prod.mk.inj hkept.range
  obtain ⟨last, hlast, hlseq, hroot⟩ := hkept.root
  rw [← hend] at hlseq
  obtain rfl := chained_unique h he hlast (hseq.trans hlseq.symm)
  rwa [hstart, hend]

/-- Two ranges with different signatures. -/
theorem distinct_pair {r r' : ℤ × ℤ} {cp cp' : RootCheckpoint} (hne : cp.rootSig ≠ cp'.rootSig) :
    Distinct (Function.update (Function.update (fun _ => none) r (some cp)) r' (some cp')) := by
  have hcases : ∀ x y, Function.update (Function.update (fun _ => none) r (some cp)) r' (some cp')
      x = some y → (x = r ∧ y = cp) ∨ (x = r' ∧ y = cp') := by
    intro x y h
    rw [Function.update_apply, Function.update_apply] at h
    split_ifs at h with hx hx'
    · exact .inr ⟨hx, (Option.some.inj h).symm⟩
    · exact .inl ⟨hx', (Option.some.inj h).symm⟩
  intro x x' y y' hx hx' hsig
  rcases hcases x y hx with ⟨rfl, rfl⟩ | ⟨rfl, rfl⟩
  · rcases hcases x' y' hx' with ⟨rfl, rfl⟩ | ⟨rfl, rfl⟩
    · rfl
    · exact absurd hsig hne
  · rcases hcases x' y' hx' with ⟨rfl, rfl⟩ | ⟨rfl, rfl⟩
    · exact absurd hsig.symm hne
    · rfl

/-- **A checkpoint over signed and unsigned events** is accepted, and the ledger refused from then
on. -/
theorem ledger_refused :
    ((Ledger.empty.after textCrypto overlapping).witness (1, 1)).isSome = true ∧
    ((Ledger.empty.after textCrypto overlapping).witness (1, 2)).isSome = true ∧
    verdict (verifyChain textCrypto (memoryReads (Ledger.empty.after textCrypto overlapping).events)
      (Ledger.empty.after textCrypto overlapping).witness none none) = some false := by
  obtain ⟨second, hok, hhash, hsig, hafter⟩ := overlapping_events
  obtain ⟨cp₁, hkept₁, -, -, hstep₁⟩ := step_signed hok (a := 1) (b := 1) le_rfl le_rfl (by simp)
    rfl "2026-08-31T00:00:10"
  have hok₁ := ledgerOk_step hok (.signRoot (some 1) (some 1) "2026-08-31T00:00:10")
  rw [hstep₁] at hok₁
  have hfree : Function.update (fun _ => none) (1, 1) (some cp₁) ((1, 2) : ℤ × ℤ) = none :=
    Function.update_of_ne (by decide) ..
  obtain ⟨cp₂, hkept₂, hrange, haccepted, hstep₂⟩ := step_signed hok₁ (a := 1) (b := 2) le_rfl
    (by decide) (by simp [annotate_length]) hfree "2026-08-31T00:00:15"
  have hok₂ := ledgerOk_step hok₁ (.signRoot (some 1) (some 2) "2026-08-31T00:00:15")
  rw [hafter, after_cons, after_cons, hstep₁, Ledger.after]
  obtain ⟨hseq₁, -, -, hseq₂, -⟩ := hok.chained
  -- the two roots are not the same, so neither are their signatures
  have hroots : cp₁.rootHash ≠ cp₂.rootHash := by
    obtain ⟨e, he, heseq, hehash⟩ := annotate_mem
      (by simp : second ∈ [onceEvent, second]) 1 1 cp₁.rootSig
    have hroot₁ := kept_root hok.chained hkept₁ (e := onceEvent) (by simp) hseq₁
    have hroot₂ := kept_root hok₁.chained hkept₂ he (heseq.trans hseq₂)
    rw [hehash, hhash] at hroot₂
    intro heq
    refine overlapping_roots ?_
    have hone : computeRootHash textCrypto 1 1 firstHash 1 = .ok cp₁.rootHash := hroot₁
    have htwo : computeRootHash textCrypto 1 2 secondHash 2 = .ok cp₂.rootHash := hroot₂
    rw [hone, htwo, heq]
  have hsigs : cp₁.rootSig ≠ cp₂.rootSig := by
    rw [hkept₁.signed, hkept₂.signed]
    intro heq
    have hbytes := (List.cons.inj (hex_inj heq)).2
    exact hroots (String.toByteArray_inj.1 (ByteArray.ext (Array.toList_inj.1 hbytes)))
  have hdistinct : Distinct (Function.update (Function.update (fun _ => none) (1, 1) (some cp₁))
      (1, 2) (some cp₂)) := distinct_pair hsigs
  rw [hstep₂] at hok₂ ⊢
  have hmarks : memoryAnnotate [onceEvent, second] 1 1 cp₁.rootSig =
      [{ onceEvent with rootSig := some cp₁.rootSig }, second] := by
    simp [memoryAnnotate, AuditEvent.within, hseq₂, onceEvent]
  have hmixed : ¬ WholeRange textCrypto ⟨memoryAnnotate [onceEvent, second] 1 1 cp₁.rootSig,
      Function.update (fun _ => none) (1, 1) (some cp₁)⟩
      (.signRoot (some 1) (some 2) "2026-08-31T00:00:15") := by
    intro hwhole
    obtain ⟨hstart, hend⟩ := Prod.mk.inj hrange
    have hwithin : second.within cp₂.seqStart cp₂.seqEnd = true :=
      (within_iff hseq₂).2 (by omega)
    rcases hwhole cp₂ haccepted with hnone | hsigned
    · have hfirst := hnone { onceEvent with rootSig := some cp₁.rootSig }
        (by rw [hmarks]; exact List.mem_cons_self) ((within_iff hseq₁).2 (by omega))
      cases hfirst
    · exact hsigned second (by rw [hmarks]; simp) hwithin hsig
  have htorn := torn_step hok₁ hmixed (by rw [hstep₂]; exact hdistinct)
  rw [hstep₂] at htorn
  refine ⟨?_, ?_, ?_⟩
  · have hfirst := Function.update_of_ne (by decide : ((1, 1) : ℤ × ℤ) ≠ (1, 2)) (some cp₂)
      (Function.update (fun _ => none) (1, 1) (some cp₁))
    rw [Function.update_self] at hfirst
    exact congrArg Option.isSome hfirst
  · exact congrArg Option.isSome (Function.update_self (1, 2) (some cp₂)
      (Function.update (fun _ => none) (1, 1) (some cp₁)))
  · obtain ⟨r, hr⟩ := verifyChain_ends hok₂.chained
    have hfails := torn_fails hdistinct hok₂ htorn
    rw [hr, passes_ok, Bool.not_eq_true] at hfails
    rw [hr]
    exact congrArg some hfails

end TryTrust.Audit
