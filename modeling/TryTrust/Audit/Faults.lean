import TryTrust.Audit.Ledger
import TryTrust.Audit.Linked

/-!
# Checkpoints that fail

`sign_root` where the signer, the annotation or the witness raises, and the calls that come later.

* `Fault`, `Ledger.signRoot`; `Asked`, `Ledger.answers`: the answers of a history of calls;
* `recorded_asked`: what every history keeps; `requestedRoot_iff`: the ranges that can be signed;
* `Interrupted`: the witness raises over a range with an unsigned event;
  **`signRoot_atomic_iff`**: a failed call is as if it had not been made, that case apart;
* `witness_unreachable`: the checkpoint of one event.
-/

namespace TryTrust.Audit

/-- An external step that raises, and what it raises. -/
inductive Fault where
  | signing (x : AuditErr)
  | annotating (x : AuditErr)
  | witnessing (x : AuditErr)

/-- A call of the service. -/
inductive Asked where
  | append (mandateId type : String) (payload : Json) (createdAt : Option Instant) (now : Instant)
  | signRoot (seqStart seqEnd : Option ℤ) (now : Instant) (fault : Option Fault)
  | verifyChain (mandateId : Option String) (seqRange : Option (ℤ × ℤ))

/-- What a call returns or raises. -/
inductive Answer where
  | appended (result : Except AuditErr AuditEvent)
  | signed (result : Except AuditErr RootCheckpoint)
  | verified (result : Except AuditErr ChainResult)

section Service

variable (K : Crypto)

/-- `sign_root` where an external step may raise; the request is checked before all of them. -/
def Ledger.signRoot (L : Ledger) (seqStart seqEnd : Option ℤ) (now : Instant)
    (fault : Option Fault) : Except AuditErr RootCheckpoint × Ledger :=
  match requestedRoot K (memoryReads L.events) seqStart seqEnd now with
  | .error x => (.error x, L)
  | .ok cp =>
    match fault with
    | some (.signing x) => (.error x, L)
    | some (.annotating x) => (.error x, L)
    -- `annotate_root` has run
    | some (.witnessing x) =>
      (.error x, ⟨memoryAnnotate L.events cp.seqStart cp.seqEnd cp.rootSig, L.witness⟩)
    | none =>
      let signed := Audit.signRoot K memoryReads memoryAnnotate L.events L.witness seqStart seqEnd
        now
      (signed.1, ⟨signed.2.1, signed.2.2⟩)

/-- A call: its answer, and the ledger that it leaves. -/
def Ledger.ask (L : Ledger) : Asked → Answer × Ledger
  | .append mandateId type payload createdAt now =>
    (.appended (L.append K mandateId type payload createdAt now),
      L.step K (.append mandateId type payload createdAt now))
  | .signRoot seqStart seqEnd now fault =>
    let signed := L.signRoot K seqStart seqEnd now fault
    (.signed signed.1, signed.2)
  | .verifyChain mandateId seqRange =>
    (.verified (Audit.verifyChain K (memoryReads L.events) L.witness mandateId seqRange), L)

/-- The ledger that a history of calls leaves. -/
def Ledger.asked (L : Ledger) : List Asked → Ledger
  | [] => L
  | call :: calls => (L.ask K call).2.asked calls

/-- The answers of a history of calls. -/
def Ledger.answers (L : Ledger) : List Asked → List Answer
  | [] => []
  | call :: calls => (L.ask K call).1 :: (L.ask K call).2.answers calls

/-- A call of `sign_root` that raises changes no later answer. -/
def Atomic (L : Ledger) (seqStart seqEnd : Option ℤ) (now : Instant) (fault : Option Fault) :
    Prop :=
  ∀ x, (L.signRoot K seqStart seqEnd now fault).1 = .error x →
    ∀ later, (L.signRoot K seqStart seqEnd now fault).2.answers K later = L.answers K later

end Service

/-- The range of a checkpoint, as its caller gives it and by default. -/
def askedRange (events : List AuditEvent) (seqStart seqEnd : Option ℤ) : Option (ℤ × ℤ) :=
  events.head?.map fun first =>
    (seqStart.getD (defaultStart events first), seqEnd.getD (defaultEnd events
      (events.getLastD first)))

/-- **The witness raises**, over a range of the ledger that is not all signed. -/
def Interrupted (L : Ledger) (seqStart seqEnd : Option ℤ) (fault : Option Fault) : Prop :=
  (∃ x, fault = some (.witnessing x)) ∧ ∃ a b, askedRange L.events seqStart seqEnd = some (a, b) ∧
    1 ≤ a ∧ b ≤ L.events.length ∧ ∃ e ∈ L.events, e.within a b = true ∧ e.rootSig = none

variable {K : Crypto} {L : Ledger}

/-! ## What every history keeps -/

/-- With no fault, the call is that of the service. -/
theorem signRoot_none (L : Ledger) (start stop : Option ℤ) (now : Instant) :
    (L.signRoot K start stop now none).2 = L.step K (.signRoot start stop now) := by
  rw [Ledger.signRoot, Ledger.step, signRoot]
  cases requestedRoot K (memoryReads L.events) start stop now with
  | error x => rfl
  | ok cp => rfl

/-- What is left of a call that is answered, or raises. -/
theorem signRoot_leaves (L : Ledger) (start stop : Option ℤ) (now : Instant)
    (fault : Option Fault) :
    (L.signRoot K start stop now fault).2 = L ∨
      (L.signRoot K start stop now fault).2 = L.step K (.signRoot start stop now) ∨
      ∃ cp, requestedRoot K (memoryReads L.events) start stop now = .ok cp ∧
        (∃ x, fault = some (.witnessing x)) ∧ (L.signRoot K start stop now fault).2 =
          ⟨memoryAnnotate L.events cp.seqStart cp.seqEnd cp.rootSig, L.witness⟩ := by
  cases fault with
  | none => exact .inr (.inl (signRoot_none L start stop now))
  | some fault =>
    rw [Ledger.signRoot]
    cases hreq : requestedRoot K (memoryReads L.events) start stop now with
    | error x => exact .inl rfl
    | ok cp =>
      cases fault with
      | signing x => exact .inl rfl
      | annotating x => exact .inl rfl
      | witnessing x => exact .inr (.inr ⟨cp, rfl, ⟨x, rfl⟩, rfl⟩)

theorem recorded_step (h : Recorded K L) (r : Request) : Recorded K (L.step K r) := by
  cases r with
  | append mandateId type payload createdAt now =>
    rw [Ledger.step]
    cases happend : L.append K mandateId type payload createdAt now with
    | error x => exact h
    | ok e => exact recorded_append h happend
  | signRoot start stop now =>
    rcases step_signRoot (K := K) L start stop now with ⟨-, hL⟩ | ⟨cp, hreq, ⟨-, hL⟩ | ⟨-, hL⟩⟩
    · rw [hL]
      exact h
    · rw [hL]
      exact recorded_annotate h _ _ _
    · rw [hL]
      exact recorded_publish (recorded_annotate h _ _ _)
        ((requestedRoot_kept h.chained hreq).annotate _ _ _) fun e he => annotate_covers he

theorem recorded_ask (h : Recorded K L) (call : Asked) : Recorded K (L.ask K call).2 := by
  cases call with
  | append mandateId type payload createdAt now =>
    exact recorded_step h (.append mandateId type payload createdAt now)
  | verifyChain mandateId seqRange => exact h
  | signRoot start stop now fault =>
    rw [Ledger.ask]
    rcases signRoot_leaves (K := K) L start stop now fault with hL | hL | ⟨cp, -, -, hL⟩
    · rw [hL]
      exact h
    · rw [hL]
      exact recorded_step h _
    · rw [hL]
      exact recorded_annotate h _ _ _

/-- **Every history** keeps the chain and covers its checkpoints. -/
theorem recorded_asked (h : Recorded K L) (calls : List Asked) : Recorded K (L.asked K calls) := by
  induction calls generalizing L with
  | nil => exact h
  | cons call calls ih => exact ih (recorded_ask h call)

/-! ## The ranges that can be signed -/

/-- The range of a request. -/
theorem requestedRoot_asked {es : List AuditEvent} {start stop : Option ℤ} {now : Instant}
    {cp : RootCheckpoint} (h : requestedRoot K (memoryReads es) start stop now = .ok cp) :
    askedRange es start stop = some (cp.seqStart, cp.seqEnd) := by
  cases es with
  | nil => cases h
  | cons first rest =>
    obtain ⟨hstart, hend⟩ := checkpointOf_range h
    rw [hstart, hend]
    rfl

/-- **The requests that can be signed**: for a range of the ledger. -/
theorem requestedRoot_iff {es : List AuditEvent} (h : Chained K genesisPrevHash 1 es)
    (start stop : Option ℤ) (now : Instant) :
    (∃ cp, requestedRoot K (memoryReads es) start stop now = .ok cp) ↔
      ∃ a b, askedRange es start stop = some (a, b) ∧ 1 ≤ a ∧ a ≤ b ∧ b ≤ es.length := by
  constructor
  · rintro ⟨cp, hcp⟩
    have hkept := requestedRoot_kept h hcp
    exact ⟨_, _, requestedRoot_asked hcp, hkept.pos, hkept.le, hkept.covered⟩
  · rintro ⟨a, b, hasked, ha, hab, hb⟩
    obtain ⟨cp, hcp⟩ := checkpointOf_ok h ha hab hb now
    cases es with
    | nil => cases hasked
    | cons first rest =>
      have hpair := Prod.mk.inj (Option.some.inj hasked)
      rw [← hpair.1, ← hpair.2] at hcp
      exact ⟨cp, hcp⟩

/-! ## One event, verified -/

/-- The range of one event. -/
theorem single_range {prev : String} {n : ℤ} {es : List AuditEvent} (h : Chained K prev n es)
    {e : AuditEvent} (he : e ∈ es) {m : ℤ} (hm : e.seq = some m) :
    es.filter (·.within m m) = [e] := by
  obtain ⟨k, hk, hlo, hhi⟩ := chained_seq h e he
  rw [hm] at hk
  have hmk := Option.some.inj hk
  obtain ⟨prev', -, hcount⟩ := chained_count h (a := m) (b := m) (by omega) (by omega) le_rfl
  have hlen : (es.filter (·.within m m)).length = 1 := by omega
  obtain ⟨f, hf⟩ := List.length_eq_one_iff.1 hlen
  have hmem : e ∈ es.filter (·.within m m) :=
    List.mem_filter.2 ⟨he, (within_iff hm).2 ⟨le_rfl, le_rfl⟩⟩
  rw [hf] at hmem ⊢
  rw [List.mem_singleton.1 hmem]

/-- An event continues what the validator expects of it. -/
theorem single_chained {es : List AuditEvent} (h : Chained K genesisPrevHash 1 es)
    {e : AuditEvent} (he : e ∈ es) {m : ℤ} (hm : e.seq = some m) :
    Chained K (expectedPrev none none e) m [e] := by
  refine ⟨hm, ?_, chained_rehash h e he, trivial⟩
  rw [expectedPrev, Option.getD_none]
  split_ifs with hfirst
  · cases es with
    | nil => cases he
    | cons f es =>
      rw [chained_unique h he List.mem_cons_self (hfirst.trans h.1.symm)]
      exact h.2.1
  · rfl

/-- An unsigned event verifies alone. -/
theorem verify_unsigned (h : Recorded K L) {e : AuditEvent} (he : e ∈ L.events) {m : ℤ}
    (hm : e.seq = some m) (hsig : e.rootSig = none) :
    Passes (verifyChain K (memoryReads L.events) L.witness none (some (m, m))) := by
  have hread : (memoryReads L.events).select (some (m, m)) = .ok [e] :=
    congrArg Except.ok (single_range h.chained he hm)
  refine (verifyChain_iff hread).2 (.inr ⟨(validateChain_iff none hm (by simp)).2
    (single_chained h.chained he hm), ?_⟩)
  simp [checkpointRanges, SigRun.range, hm, hsig]

/-- A signed event does not, when no checkpoint of it alone is published. -/
theorem verify_unwitnessed (h : Recorded K L) {e : AuditEvent} (he : e ∈ L.events) {m : ℤ}
    (hm : e.seq = some m) {sig : String} (hsig : e.rootSig = some sig)
    (hnone : L.witness (m, m) = none) :
    ¬ Passes (verifyChain K (memoryReads L.events) L.witness none (some (m, m))) := by
  have hread : (memoryReads L.events).select (some (m, m)) = .ok [e] :=
    congrArg Except.ok (single_range h.chained he hm)
  rw [verifyChain_iff hread]
  rintro (hnil | ⟨-, hranges⟩)
  · cases hnil
  · have hmem : (m, m, sig) ∈ checkpointRanges {} [e] := by
      simp [checkpointRanges, SigRun.range, hm, hsig]
    obtain ⟨-, -, cp, -, -, -, hcp, -⟩ := rangeProblem_none.1 (hranges _ hmem)
    rw [hnone] at hcp
    cases hcp

/-! ## A failed call -/

/-- An annotation without its checkpoint shows in a verification of one event. -/
theorem annotated_shows (h : Recorded K L) {e : AuditEvent} (he : e ∈ L.events) {a b : ℤ}
    (hw : e.within a b = true) (hsig : e.rootSig = none) (sig : String) :
    ∃ call, (Ledger.mk (memoryAnnotate L.events a b sig) L.witness).answers K [call] ≠
      L.answers K [call] := by
  obtain ⟨m, hm, -⟩ := chained_seq h.chained e he
  have hnone : L.witness (m, m) = none := by
    cases hcp : L.witness (m, m) with
    | none => rfl
    | some cp => exact absurd hsig (h.covered _ cp hcp e he ((within_iff hm).2 ⟨le_rfl, le_rfl⟩))
  have hmem : { e with rootSig := some sig } ∈ memoryAnnotate L.events a b sig := by
    refine List.mem_map.2 ⟨e, he, ?_⟩
    rw [if_pos ⟨hw, hsig⟩]
  refine ⟨.verifyChain none (some (m, m)), fun hsame => ?_⟩
  have hverdict := Answer.verified.inj (List.cons.inj hsame).1
  refine verify_unwitnessed (recorded_annotate h a b sig) hmem hm rfl hnone ?_
  rw [hverdict]
  exact verify_unsigned h he hm hsig

/-- A call that raises and is not interrupted leaves the ledger as it was. -/
theorem signRoot_unchanged (h : Recorded K L) {start stop : Option ℤ} {now : Instant}
    {fault : Option Fault} (hwhole : ¬ Interrupted L start stop fault) {x : AuditErr}
    (hraised : (L.signRoot K start stop now fault).1 = .error x) :
    (L.signRoot K start stop now fault).2 = L := by
  rw [Ledger.signRoot] at hraised ⊢
  cases hreq : requestedRoot K (memoryReads L.events) start stop now with
  | error x => rfl
  | ok cp =>
    rw [hreq] at hraised
    have hkept := requestedRoot_kept h.chained hreq
    cases fault with
    | none =>
      -- the checkpoint was published before, so its range is signed
      simp only [signRoot, hreq, Witness.put] at hraised ⊢
      cases hcp : L.witness (cp.seqStart, cp.seqEnd) with
      | none =>
        rw [hcp] at hraised
        cases hraised
      | some cp' =>
        simp only [Option.isSome_some, if_true, annotate_signed (h.covered _ cp' hcp)]
    | some fault =>
      cases fault with
      | signing x => rfl
      | annotating x => rfl
      | witnessing x =>
        have hsigned : ∀ e ∈ L.events, e.within cp.seqStart cp.seqEnd = true →
            e.rootSig ≠ none := fun e he hw hnone =>
          hwhole ⟨⟨x, rfl⟩, _, _, requestedRoot_asked hreq, hkept.pos, hkept.covered, e, he, hw,
            hnone⟩
        simp only [annotate_signed hsigned]

/-- An interrupted call raises, and its annotation stays. -/
theorem signRoot_interrupted (h : Recorded K L) {start stop : Option ℤ} (now : Instant)
    {fault : Option Fault} (hint : Interrupted L start stop fault) :
    ∃ x, (L.signRoot K start stop now fault).1 = .error x ∧
      ∃ call, (L.signRoot K start stop now fault).2.answers K [call] ≠ L.answers K [call] := by
  obtain ⟨⟨x, rfl⟩, a, b, hasked, ha, hb, e, he, hw, hsig⟩ := hint
  obtain ⟨m, hm, -⟩ := chained_seq h.chained e he
  have hin := (within_iff hm).1 hw
  obtain ⟨cp, hreq⟩ := (requestedRoot_iff h.chained start stop now).2
    ⟨a, b, hasked, ha, by omega, hb⟩
  have hrange := (requestedRoot_asked hreq).symm.trans hasked
  obtain ⟨rfl, rfl⟩ := Prod.mk.inj (Option.some.inj hrange)
  rw [Ledger.signRoot, hreq]
  exact ⟨x, rfl, annotated_shows h he hw hsig cp.rootSig⟩

/-- **Failed checkpoints.** After any history, a call of `sign_root` that raises is as if it had not
been made, unless the witness raises over a range with an unsigned event. -/
theorem signRoot_atomic_iff (K : Crypto) (history : List Asked) (start stop : Option ℤ)
    (now : Instant) (fault : Option Fault) :
    Atomic K (Ledger.empty.asked K history) start stop now fault ↔
      ¬ Interrupted (Ledger.empty.asked K history) start stop fault := by
  have h := recorded_asked (recorded_empty (K := K)) history
  constructor
  · intro hatomic hint
    obtain ⟨x, hraised, call, hdiffer⟩ := signRoot_interrupted h now hint
    exact hdiffer (hatomic x hraised [call])
  · intro hwhole x hraised later
    rw [signRoot_unchanged h hwhole hraised]

/-- One event. -/
def oneEvent : List Asked :=
  [.append "mdt_1" "mandate.created" (.obj []) none "2026-08-31T00:00:00"]

/-- **The witness cannot be reached** while the checkpoint of one event is published: the event
verified before, and does not from then on. -/
theorem witness_unreachable :
    ¬ Atomic textCrypto (Ledger.empty.asked textCrypto oneEvent) none none "2026-08-31T00:00:10"
      (some (.witnessing
        (.runtime "Failed to publish checkpoint roots/1-1.json to GCS witness: 503"))) := by
  intro hatomic
  have hint : Interrupted (Ledger.empty.asked textCrypto oneEvent) none none
      (some (.witnessing
        (.runtime "Failed to publish checkpoint roots/1-1.json to GCS witness: 503"))) :=
    ⟨⟨_, rfl⟩, 1, 1, by decide +kernel, by decide, by decide +kernel, by decide +kernel⟩
  obtain ⟨x, hraised, call, hdiffer⟩ := signRoot_interrupted
    (recorded_asked (recorded_empty (K := textCrypto)) oneEvent) "2026-08-31T00:00:10" hint
  exact hdiffer (hatomic x hraised [call])

end TryTrust.Audit
