import TryTrust.Api.Relay
import Mathlib.Data.Finset.Basic

/-!
# The drains of one relay

One relay object over its outbox, with sinks and marks that fail and rows that cannot be read.

* `Relayer`, the table and what the object has in flight; `fetchUnrelayed`, `handleAll`, `relayAll`,
  `drain`;
* `batch`: the rows that a fetch takes; `fetch_eq`: up to the first that cannot be read;
* `Restored`: a drain leaves nothing of its batch in flight, and what it did not deliver is fetched
  again; `Restorable`: every row can be read, and no mark fails but the last;
  **`restored_iff`**: the second is what the first takes; `mark_failed`: a mark that fails.
-/

namespace TryTrust.Api.Drain

open TryTrust.Api.Relay (OutboxRow OutboxEvent Routing)

/-- A row with its key, `event_id`. -/
abbrev Row : Type := String × OutboxRow

/-- What a row is read with: `json.loads`, and `_parse_iso`. -/
structure Readers where
  loads : String → Except String Json
  parseIso : String → Except String String

/-- The event of a row. -/
def Readers.event (readers : Readers) (row : Row) : Except String OutboxEvent := do
  let payload ← readers.loads row.2.payload
  let createdAt ← readers.parseIso row.2.createdAt
  if row.1 = "" then .error "event_id cannot be empty"
  else if row.2.type = "" then .error "type cannot be empty"
  else if row.2.aggregateId = "" then .error "aggregate_id cannot be empty"
  else pure ⟨row.2.seq, row.1, row.2.type, row.2.aggregateId, payload, createdAt⟩

/-- What happens around one drain: the sinks of an event that raise, by place, and the marks. -/
structure Env where
  sinkFails : String → ℕ → Bool
  markFails : String → Option String
  now : String

/-- The relay object, its table in the order of `seq`, and what its sinks have received. -/
structure Relayer where
  rows : List Row
  /-- `event_id` is unique. -/
  unique : (rows.map Prod.fst).Nodup
  inFlight : Finset String := ∅
  delivered : List (String × String) := []

/-! ## The drain -/

/-- A row not yet relayed. -/
def unrelayed (row : Row) : Bool := row.2.relayedAt.isNone

section Drain

variable (readers : Readers) (R : Routing) (env : Env)

/-- The loop of `fetch_unrelayed` over the selected rows: the events, and what is in flight then. -/
def takeRows : ℕ → Finset String → List Row → Except String (List OutboxEvent) × Finset String
  | _, inFlight, [] => (.ok [], inFlight)
  | limit, inFlight, row :: rows =>
    if row.1 ∈ inFlight then takeRows limit inFlight rows
    else
      -- the row is in flight before it is read
      let inFlight := insert row.1 inFlight
      match readers.event row with
      | .error x => (.error x, inFlight)
      | .ok event =>
        if 1 ≥ limit then (.ok [event], inFlight)
        else
          let taken := takeRows (limit - 1) inFlight rows
          (taken.1.map (event :: ·), taken.2)

/-- The rows of `SELECT … WHERE relayed_at IS NULL ORDER BY seq LIMIT limit + len(in_flight)`. -/
def selected (s : Relayer) (limit : ℕ) : List Row :=
  (s.rows.filter unrelayed).take (limit + s.inFlight.card)

/-- `fetch_unrelayed`. -/
def fetchUnrelayed (s : Relayer) (limit : ℕ) : Except String (List OutboxEvent) × Finset String :=
  takeRows readers limit s.inFlight (selected s limit)

/-- The loop over the sinks: whether all of them took the event, and those that did. -/
def handleAll (eventId : String) : ℕ → List String → Bool × List (String × String)
  | _, [] => (true, [])
  | n, sink :: sinks =>
    if env.sinkFails eventId n then (false, [])
    else
      let handled := handleAll eventId (n + 1) sinks
      (handled.1, (eventId, sink) :: handled.2)

/-- What the sinks have received. -/
def Relayer.receive (s : Relayer) (handled : List (String × String)) : Relayer :=
  { s with delivered := s.delivered ++ handled }

/-- `release_in_flight`, and the first half of `mark_relayed`. -/
def Relayer.release (s : Relayer) (eventId : String) : Relayer :=
  { s with inFlight := s.inFlight.erase eventId }

/-- What `UPDATE outbox SET relayed_at = …` does to a row. -/
def stamp (eventId now : String) (row : Row) : Row :=
  if row.1 = eventId then (row.1, { row.2 with relayedAt := some now }) else row

theorem stamp_key (eventId now : String) (row : Row) : (stamp eventId now row).1 = row.1 := by
  rw [stamp]
  split_ifs <;> rfl

/-- `UPDATE outbox SET relayed_at = …`. -/
def Relayer.mark (s : Relayer) (eventId now : String) : Relayer where
  rows := s.rows.map (stamp eventId now)
  unique := by
    rw [List.map_map]
    exact (List.map_congr_left fun row _ => stamp_key eventId now row) ▸ s.unique
  inFlight := s.inFlight
  delivered := s.delivered

/-- The loop over the events; a mark that raises ends it. -/
def relayAll : List OutboxEvent → Relayer → ℕ → Except String ℕ × Relayer
  | [], s, drained => (.ok drained, s)
  | event :: events, s, drained =>
    let handled := handleAll env event.eventId 0 (R.sinks event.type)
    let s := (s.receive handled.2).release event.eventId
    if handled.1 then
      match env.markFails event.eventId with
      | some x => (.error x, s)
      | none => relayAll events (s.mark event.eventId env.now) (drained + 1)
    else relayAll events s drained

/-- `drain`. -/
def drain (s : Relayer) (limit : ℕ) : Except String ℕ × Relayer :=
  let fetched := fetchUnrelayed readers s limit
  let s := { s with inFlight := fetched.2 }
  match fetched.1 with
  | .error x => (.error x, s)
  | .ok events => relayAll R env events s 0

end Drain

/-! ## What a fetch takes -/

/-- The rows that a fetch takes. -/
def batch (s : Relayer) (limit : ℕ) : List Row :=
  ((selected s limit).filter fun row => row.1 ∉ s.inFlight).take (max limit 1)

/-- The rows that it put in flight. -/
def fetched (readers : Readers) (s : Relayer) (limit : ℕ) : Finset String :=
  (fetchUnrelayed readers s limit).2 \ s.inFlight

/-- A row that can be read. -/
def Readable (readers : Readers) (row : Row) : Prop := ∃ event, readers.event row = .ok event

/-- Rows read one after another, up to the first that cannot be. -/
def readAll (readers : Readers) :
    Finset String → List Row → Except String (List OutboxEvent) × Finset String
  | inFlight, [] => (.ok [], inFlight)
  | inFlight, row :: rows =>
    match readers.event row with
    | .error x => (.error x, insert row.1 inFlight)
    | .ok event =>
      let taken := readAll readers (insert row.1 inFlight) rows
      (taken.1.map (event :: ·), taken.2)

variable {readers : Readers} {R : Routing} {env : Env} {s : Relayer} {limit : ℕ}

theorem event_ok {row : Row} {event : OutboxEvent} (h : readers.event row = .ok event) :
    event.eventId = row.1 ∧ event.type = row.2.type := by
  simp only [Readers.event, bind, Except.bind] at h
  cases hpayload : readers.loads row.2.payload with
  | error x =>
    rw [hpayload] at h
    cases h
  | ok payload =>
    cases htime : readers.parseIso row.2.createdAt with
    | error x =>
      rw [hpayload, htime] at h
      cases h
    | ok createdAt =>
      rw [hpayload, htime] at h
      simp only at h
      split_ifs at h
      rw [← Except.ok.inj h]
      exact ⟨rfl, rfl⟩

/-- **The loop of the fetch** reads its batch. -/
theorem takeRows_eq (limit : ℕ) (inFlight : Finset String) {rows : List Row}
    (hunique : (rows.map Prod.fst).Nodup) : takeRows readers limit inFlight rows =
      readAll readers inFlight ((rows.filter fun row => row.1 ∉ inFlight).take (max limit 1)) := by
  induction rows generalizing limit inFlight with
  | nil => simp [takeRows, readAll]
  | cons row rows ih =>
    obtain ⟨hnew, hrest⟩ := List.nodup_cons.1 hunique
    rw [takeRows]
    by_cases hfly : row.1 ∈ inFlight
    · rw [if_pos hfly, List.filter_cons_of_neg (by simpa using hfly)]
      exact ih limit inFlight hrest
    · obtain ⟨m, hm⟩ : ∃ m, max limit 1 = m + 1 := ⟨max limit 1 - 1, by omega⟩
      rw [if_neg hfly, List.filter_cons_of_pos (by simpa using hfly), hm, List.take_succ_cons,
        readAll]
      cases readers.event row with
      | error x => rfl
      | ok event =>
        by_cases hone : 1 ≥ limit
        · obtain rfl : m = 0 := by omega
          simp only [if_pos hone, List.take_zero, readAll, Except.map]
        · -- no later row has this key
          have hsame : (rows.filter fun r => r.1 ∉ insert row.1 inFlight) =
              rows.filter fun r => r.1 ∉ inFlight := by
            refine List.filter_congr fun r hr => ?_
            have hne : r.1 ≠ row.1 := fun h => hnew (h ▸ List.mem_map_of_mem hr)
            simp [hne]
          have hmax : max (limit - 1) 1 = m := by omega
          simp only [if_neg hone, ih (limit - 1) (insert row.1 inFlight) hrest, hsame, hmax]

theorem fetch_eq (s : Relayer) (limit : ℕ) : fetchUnrelayed readers s limit =
    readAll readers s.inFlight (batch s limit) := by
  refine takeRows_eq limit s.inFlight (s.unique.sublist (List.Sublist.map _ ?_))
  exact (List.take_sublist _ _).trans List.filter_sublist

/-- A batch that can be read is in flight then. -/
theorem readAll_ok (inFlight : Finset String) {rows : List Row}
    (h : ∀ row ∈ rows, Readable readers row) : ∃ events,
      readAll readers inFlight rows = (.ok events, inFlight ∪ (rows.map Prod.fst).toFinset) ∧
        List.Forall₂ (fun row event => readers.event row = .ok event) rows events := by
  induction rows generalizing inFlight with
  | nil => exact ⟨[], by simp [readAll], .nil⟩
  | cons row rows ih =>
    obtain ⟨event, hevent⟩ := h row List.mem_cons_self
    obtain ⟨events, hread, hall⟩ := ih (insert row.1 inFlight) fun r hr =>
      h r (List.mem_cons_of_mem _ hr)
    refine ⟨event :: events, ?_, .cons hevent hall⟩
    rw [readAll, hevent]
    simp [hread, Except.map]

/-- A row behind readable ones is put in flight, whether or not it can be read. -/
theorem readAll_reaches {inFlight : Finset String} {pre post : List Row} {row : Row}
    (h : ∀ r ∈ pre, Readable readers r) :
    row.1 ∈ (readAll readers inFlight (pre ++ row :: post)).2 := by
  have hmono : ∀ (rows : List Row) (inFlight : Finset String),
      inFlight ⊆ (readAll readers inFlight rows).2 := by
    intro rows
    induction rows with
    | nil => exact fun _ => Finset.Subset.refl _
    | cons r rows ih =>
      intro inFlight
      rw [readAll]
      cases readers.event r with
      | error x => exact Finset.subset_insert _ _
      | ok event => exact Finset.Subset.trans (Finset.subset_insert _ _) (ih _)
  induction pre generalizing inFlight with
  | nil =>
    rw [List.nil_append, readAll]
    cases readers.event row with
    | error x => exact Finset.mem_insert_self _ _
    | ok event => exact hmono _ _ (Finset.mem_insert_self _ _)
  | cons r pre ih =>
    obtain ⟨event, hevent⟩ := h r List.mem_cons_self
    rw [List.cons_append, readAll, hevent]
    exact ih fun x hx => h x (List.mem_cons_of_mem _ hx)

/-- A row that cannot be read ends the fetch, in flight. -/
theorem readAll_error (inFlight : Finset String) {rows : List Row} {row : Row}
    (hrow : row ∈ rows) (hbad : ¬ Readable readers row) : ∃ x, (readAll readers inFlight rows).1 = .error x ∧
      ∃ r ∈ rows, r.1 ∈ (readAll readers inFlight rows).2 := by
  induction rows generalizing inFlight with
  | nil => cases hrow
  | cons r rows ih =>
    rw [readAll]
    cases hread : readers.event r with
    | error x => exact ⟨x, rfl, r, List.mem_cons_self, Finset.mem_insert_self _ _⟩
    | ok event =>
      rcases List.mem_cons.1 hrow with rfl | hrow
      · exact absurd ⟨event, hread⟩ hbad
      · obtain ⟨x, hx, r', hr', hmem⟩ := ih (insert r.1 inFlight) hrow
        refine ⟨x, ?_, r', List.mem_cons_of_mem _ hr', hmem⟩
        simp only [hx, Except.map]

/-! ## What the loop leaves -/

/-- `P` holds of no entry but the last. -/
def OnlyLast {α : Type} (P : α → Prop) : List α → Prop
  | [] => True
  | x :: xs => (P x → xs = []) ∧ OnlyLast P xs

/-- All sinks take an event, and its mark raises. -/
def Stops (R : Routing) (env : Env) (eventId type : String) : Prop :=
  (handleAll env eventId 0 (R.sinks type)).1 = true ∧ env.markFails eventId ≠ none

theorem onlyLast_congr {α β : Type} {P : α → Prop} {Q : β → Prop} {xs : List α} {ys : List β}
    (h : List.Forall₂ (fun x y => P x ↔ Q y) xs ys) : OnlyLast P xs ↔ OnlyLast Q ys := by
  induction h with
  | nil => exact Iff.rfl
  | @cons x y xs ys hxy hrest ih =>
    have hnil : xs = [] ↔ ys = [] := by
      rw [← List.length_eq_zero_iff, ← List.length_eq_zero_iff, hrest.length_eq]
    rw [OnlyLast, OnlyLast, ih, hxy, hnil]

theorem handleAll_delivers {eventId : String} {n : ℕ} {sinks : List String}
    (h : (handleAll env eventId n sinks).1 = true) :
    ∀ sink ∈ sinks, (eventId, sink) ∈ (handleAll env eventId n sinks).2 := by
  induction sinks generalizing n with
  | nil => simp
  | cons sink sinks ih =>
    rw [handleAll] at h ⊢
    split_ifs at h ⊢
    intro t ht
    rcases List.mem_cons.1 ht with rfl | ht
    · exact List.mem_cons_self
    · exact List.mem_cons_of_mem _ (ih h t ht)

/-- One event of the loop, with what it is to the rest. -/
theorem relayAll_cons (R : Routing) (env : Env) (event : OutboxEvent) (events : List OutboxEvent) (s : Relayer)
    (drained : ℕ) : ∃ s₁ : Relayer, s₁.inFlight = s.inFlight.erase event.eventId ∧
      s.delivered ⊆ s₁.delivered ∧
      ((Stops R env event.eventId event.type ∧ s₁.rows = s.rows ∧
          ∃ x, relayAll R env (event :: events) s drained = (.error x, s₁)) ∨
        (¬ Stops R env event.eventId event.type ∧
          ((s₁.rows = s.rows.map (stamp event.eventId env.now) ∧
              (∀ sink ∈ R.sinks event.type, (event.eventId, sink) ∈ s₁.delivered) ∧
              relayAll R env (event :: events) s drained =
                relayAll R env events s₁ (drained + 1)) ∨
            (s₁.rows = s.rows ∧ (handleAll env event.eventId 0 (R.sinks event.type)).1 = false ∧
              relayAll R env (event :: events) s drained =
                relayAll R env events s₁ drained)))) := by
  let sent := s.receive (handleAll env event.eventId 0 (R.sinks event.type)).2
  rw [relayAll]
  cases hsent : (handleAll env event.eventId 0 (R.sinks event.type)).1 with
  | false =>
    refine ⟨sent.release event.eventId, rfl, List.subset_append_left _ _,
      .inr ⟨?_, .inr ⟨rfl, rfl, ?_⟩⟩⟩
    · rintro ⟨hall, -⟩
      rw [hsent] at hall
      cases hall
    · simp only [Bool.false_eq_true, if_false, sent]
  | true =>
    have hall := handleAll_delivers hsent
    cases hmark : env.markFails event.eventId with
    | some x =>
      refine ⟨sent.release event.eventId, rfl, List.subset_append_left _ _,
        .inl ⟨⟨hsent, by simp [hmark]⟩, rfl, x, ?_⟩⟩
      simp only [if_true, sent]
    | none =>
      refine ⟨(sent.release event.eventId).mark event.eventId env.now, rfl,
        List.subset_append_left _ _,
        .inr ⟨fun hstops => hstops.2 hmark, .inl ⟨rfl, fun sink hsink =>
          List.mem_append_right _ (hall sink hsink), ?_⟩⟩⟩
      simp only [if_true, sent]

/-- The loop releases its events, when no mark raises but the last. -/
theorem relayAll_releases {events : List OutboxEvent} {drained : ℕ}
    (h : OnlyLast (fun e => Stops R env e.eventId e.type) events) :
    (relayAll R env events s drained).2.inFlight =
      s.inFlight \ (events.map (·.eventId)).toFinset := by
  induction events generalizing s drained with
  | nil => simp [relayAll]
  | cons event events ih =>
    obtain ⟨s₁, hfly, -, ⟨hstops, -, x, heq⟩ | ⟨-, ⟨-, -, heq⟩ | ⟨-, -, heq⟩⟩⟩ :=
      relayAll_cons R env event events s drained
    · rw [heq, h.1 hstops, hfly]
      simp [Finset.sdiff_singleton_eq_erase]
    · rw [heq, ih h.2, hfly]
      ext k
      simp
      tauto
    · rw [heq, ih h.2, hfly]
      ext k
      simp
      tauto

/-- Else it leaves one in flight. -/
theorem relayAll_keeps (drained : ℕ) {events : List OutboxEvent}
    (hunique : (events.map (·.eventId)).Nodup) (hin : ∀ e ∈ events, e.eventId ∈ s.inFlight)
    (h : ¬ OnlyLast (fun e => Stops R env e.eventId e.type) events) :
    ∃ e ∈ events, e.eventId ∈ (relayAll R env events s drained).2.inFlight := by
  induction events generalizing s drained with
  | nil => exact absurd trivial h
  | cons event events ih =>
    obtain ⟨hnew, hrest⟩ := List.nodup_cons.1 hunique
    obtain ⟨s₁, hfly, -, hcases⟩ := relayAll_cons R env event events s drained
    have hin₁ : ∀ e ∈ events, e.eventId ∈ s₁.inFlight := by
      intro e he
      rw [hfly]
      refine Finset.mem_erase.2 ⟨?_, hin e (List.mem_cons_of_mem _ he)⟩
      exact fun heq => hnew (List.mem_map.2 ⟨e, he, heq⟩)
    rcases hcases with ⟨hstops, -, x, heq⟩ | ⟨hgoes, hcases⟩
    · cases events with
      | nil => exact absurd ⟨fun _ => rfl, trivial⟩ h
      | cons e events =>
        refine ⟨e, by simp, ?_⟩
        rw [heq]
        exact hin₁ e List.mem_cons_self
    · have hlater : ¬ OnlyLast (fun e => Stops R env e.eventId e.type) events :=
        fun hlast => h ⟨fun hstops => absurd hstops hgoes, hlast⟩
      rcases hcases with ⟨-, -, heq⟩ | ⟨-, -, heq⟩
      · rw [heq]
        obtain ⟨e, he, hmem⟩ := ih (drained + 1) hrest hin₁ hlater
        exact ⟨e, List.mem_cons_of_mem _ he, hmem⟩
      · rw [heq]
        obtain ⟨e, he, hmem⟩ := ih drained hrest hin₁ hlater
        exact ⟨e, List.mem_cons_of_mem _ he, hmem⟩

/-- What the marks of a drain do to a row. -/
def stampAll (marked : Finset String) (now : String) (row : Row) : Row :=
  if row.1 ∈ marked then (row.1, { row.2 with relayedAt := some now }) else row

theorem map_stampAll_empty (rows : List Row) (now : String) : rows.map (stampAll ∅ now) = rows := by
  conv_rhs => rw [← List.map_id rows]
  refine List.map_congr_left fun row _ => ?_
  simp [stampAll]

/-- **The loop marks** events that all their sinks have taken. -/
theorem relayAll_marks (R : Routing) (env : Env) (events : List OutboxEvent) (s : Relayer) (drained : ℕ) :
    s.delivered ⊆ (relayAll R env events s drained).2.delivered ∧ ∃ marked : Finset String,
      (relayAll R env events s drained).2.rows = s.rows.map (stampAll marked env.now) ∧
      ∀ k ∈ marked, ∃ e ∈ events, e.eventId = k ∧ ∀ sink ∈ R.sinks e.type,
        (k, sink) ∈ (relayAll R env events s drained).2.delivered := by
  induction events generalizing s drained with
  | nil =>
    exact ⟨List.Subset.refl _, ∅, (map_stampAll_empty _ _).symm, by simp⟩
  | cons event events ih =>
    obtain ⟨s₁, -, hgrows, ⟨-, hrows, x, heq⟩ | ⟨-, ⟨hrows, hall, heq⟩ | ⟨hrows, -, heq⟩⟩⟩ :=
      relayAll_cons R env event events s drained
    · rw [heq]
      exact ⟨hgrows, ∅, hrows.trans (map_stampAll_empty _ _).symm, by simp⟩
    · obtain ⟨hgrows₁, marked, hmarked, hdelivered⟩ := ih s₁ (drained + 1)
      rw [heq]
      refine ⟨List.Subset.trans hgrows hgrows₁, insert event.eventId marked, ?_, fun k hk => ?_⟩
      · rw [hmarked, hrows, List.map_map]
        refine List.map_congr_left fun row _ => ?_
        by_cases hk : row.1 = event.eventId
        · by_cases hm : event.eventId ∈ marked <;> simp [stampAll, stamp, hk, hm]
        · simp [stampAll, stamp, hk]
      · rcases Finset.mem_insert.1 hk with rfl | hk
        · exact ⟨event, List.mem_cons_self, rfl, fun sink hsink => hgrows₁ (hall sink hsink)⟩
        · obtain ⟨e, he, hek, hsinks⟩ := hdelivered k hk
          exact ⟨e, List.mem_cons_of_mem _ he, hek, hsinks⟩
    · obtain ⟨hgrows₁, marked, hmarked, hdelivered⟩ := ih s₁ drained
      rw [heq]
      refine ⟨List.Subset.trans hgrows hgrows₁, marked, hrows ▸ hmarked, fun k hk => ?_⟩
      obtain ⟨e, he, hek, hsinks⟩ := hdelivered k hk
      exact ⟨e, List.mem_cons_of_mem _ he, hek, hsinks⟩

/-! ## Fetched again -/

/-- Rows with different keys. -/
theorem unrelayed_nodup (s : Relayer) : (s.rows.filter unrelayed).Nodup :=
  (List.Nodup.of_map _ s.unique).filter _

/-- What is before an entry among the first `n`. -/
theorem before_of_mem_take {α : Type} {pre post : List α} {x : α} {n : ℕ} (hx : x ∉ pre)
    (h : x ∈ (pre ++ x :: post).take n) : pre.length < n := by
  by_contra hle
  rw [List.take_append_of_le_length (not_lt.1 hle)] at h
  exact hx (List.mem_of_mem_take h)

/-- **The place of a row** in its batch. -/
theorem mem_batch {row : Row} (h : row ∈ batch s limit) : ∃ pre post,
    s.rows.filter unrelayed = pre ++ row :: post ∧ pre.length < limit + s.inFlight.card ∧
      row.1 ∉ s.inFlight ∧ (pre.filter fun r => r.1 ∉ s.inFlight).length < max limit 1 ∧
      ∀ r ∈ pre.filter fun r => r.1 ∉ s.inFlight, r ∈ batch s limit := by
  obtain ⟨hselected, hfly⟩ := List.mem_filter.1 (List.mem_of_mem_take h)
  have hfly : row.1 ∉ s.inFlight := by simpa using hfly
  obtain ⟨pre, post, hsplit⟩ := List.append_of_mem hselected
  have hall : s.rows.filter unrelayed =
      pre ++ row :: (post ++ (s.rows.filter unrelayed).drop (limit + s.inFlight.card)) := by
    conv_lhs => rw [← List.take_append_drop (limit + s.inFlight.card) (s.rows.filter unrelayed)]
    rw [show (s.rows.filter unrelayed).take (limit + s.inFlight.card) = pre ++ row :: post from
      hsplit]
    simp
  have hnew : row ∉ pre := by
    have hnodup := unrelayed_nodup s
    rw [hall] at hnodup
    exact fun hmem => (List.nodup_append.1 hnodup).2.2 _ hmem _ List.mem_cons_self rfl
  have hbatch : batch s limit = ((pre.filter fun r => r.1 ∉ s.inFlight) ++
      row :: post.filter fun r => r.1 ∉ s.inFlight).take (max limit 1) := by
    rw [batch, hsplit, List.filter_append, List.filter_cons_of_pos (by simpa using hfly)]
  have hbefore : (pre.filter fun r => r.1 ∉ s.inFlight).length < max limit 1 := by
    rw [hbatch] at h
    exact before_of_mem_take (fun hmem => hnew (List.mem_filter.1 hmem).1) h
  have hplace : pre.length < limit + s.inFlight.card := by
    rw [selected, hall] at hselected
    exact before_of_mem_take hnew hselected
  refine ⟨pre, _, hall, hplace, hfly, hbefore, fun r hr => ?_⟩
  rw [hbatch, List.take_append]
  refine List.mem_append_left _ ?_
  rwa [List.take_of_length_le hbefore.le]

/-- A row of the table is fetched when few enough are before it, all of them readable. -/
theorem fetched_of_place {pre post : List Row} {row : Row}
    (hsplit : s.rows.filter unrelayed = pre ++ row :: post)
    (hlength : pre.length < limit + s.inFlight.card) (hfly : row.1 ∉ s.inFlight)
    (hbefore : (pre.filter fun r => r.1 ∉ s.inFlight).length < max limit 1)
    (hread : ∀ r ∈ pre.filter fun r => r.1 ∉ s.inFlight, Readable readers r) :
    row.1 ∈ fetched readers s limit := by
  refine Finset.mem_sdiff.2 ⟨?_, hfly⟩
  obtain ⟨m, hm⟩ : ∃ m, limit + s.inFlight.card - pre.length = m + 1 :=
    ⟨limit + s.inFlight.card - pre.length - 1, by omega⟩
  obtain ⟨l, hl⟩ : ∃ l, max limit 1 - (pre.filter fun r => r.1 ∉ s.inFlight).length = l + 1 :=
    ⟨max limit 1 - (pre.filter fun r => r.1 ∉ s.inFlight).length - 1, by omega⟩
  rw [fetch_eq, batch, selected, hsplit, List.take_append, List.take_of_length_le hlength.le, hm,
    List.take_succ_cons, List.filter_append, List.filter_cons_of_pos (by simpa using hfly),
    List.take_append, List.take_of_length_le hbefore.le, hl, List.take_succ_cons]
  exact readAll_reaches hread

/-- The rows that are unrelayed after some marks. -/
theorem filter_stampAll (marked : Finset String) (now : String) (rows : List Row) :
    (rows.map (stampAll marked now)).filter unrelayed =
      (rows.filter unrelayed).filter fun row => row.1 ∉ marked := by
  induction rows with
  | nil => rfl
  | cons row rows ih =>
    by_cases hmark : row.1 ∈ marked
    · have hdone : unrelayed (stampAll marked now row) = false := by
        rw [stampAll, if_pos hmark]
        rfl
      rw [List.map_cons, List.filter_cons_of_neg (by rw [hdone]; exact Bool.false_ne_true), ih,
        List.filter_cons]
      split_ifs
      · rw [List.filter_cons_of_neg (by simpa using hmark)]
      · rfl
    · have hsame : stampAll marked now row = row := by rw [stampAll, if_neg hmark]
      rw [List.map_cons, hsame, List.filter_cons, List.filter_cons, ih]
      split_ifs
      · rw [List.filter_cons_of_pos (by simpa using hmark)]
      · rfl

/-! ## The bookkeeping -/

/-- **What a drain restores**: nothing that it fetched is in flight, and a row that some sink has
not received is fetched by any later drain that takes as many, whatever is appended meanwhile. -/
structure Restored (readers : Readers) (R : Routing) (env : Env) (s : Relayer) (limit : ℕ) :
    Prop where
  released : ∀ k ∈ fetched readers s limit, k ∉ (drain readers R env s limit).2.inFlight
  again : ∀ row ∈ s.rows, row.1 ∈ fetched readers s limit → Readable readers row →
    (∃ sink ∈ R.sinks row.2.type, (row.1, sink) ∉ (drain readers R env s limit).2.delivered) →
    ∀ (later : Relayer) (appended : List Row) (limit' : ℕ),
      later.rows = (drain readers R env s limit).2.rows ++ appended →
      later.inFlight = (drain readers R env s limit).2.inFlight → limit ≤ limit' →
      row.1 ∈ fetched readers later limit'

/-- **What it takes**: every row of the batch can be read, and no mark raises but the last. -/
structure Restorable (readers : Readers) (R : Routing) (env : Env) (s : Relayer) (limit : ℕ) :
    Prop where
  readable : ∀ row ∈ batch s limit, Readable readers row
  marks : OnlyLast (fun row : Row => Stops R env row.1 row.2.type) (batch s limit)

/-- The rows of a batch are of the table, with other keys than what is in flight. -/
theorem batch_sub {row : Row} (h : row ∈ batch s limit) : row ∈ s.rows ∧ row.1 ∉ s.inFlight := by
  obtain ⟨hselected, hfly⟩ := List.mem_filter.1 (List.mem_of_mem_take h)
  exact ⟨(List.mem_filter.1 (List.mem_of_mem_take hselected)).1, by simpa using hfly⟩

theorem batch_keys (s : Relayer) (limit : ℕ) : ((batch s limit).map Prod.fst).Nodup := by
  refine s.unique.sublist (List.Sublist.map _ ?_)
  exact (List.take_sublist _ _).trans
    (List.filter_sublist.trans ((List.take_sublist _ _).trans List.filter_sublist))

/-- A row of the table by its key. -/
theorem row_unique {row row' : Row} (h : row ∈ s.rows) (h' : row' ∈ s.rows)
    (hkey : row.1 = row'.1) : row = row' :=
  List.inj_on_of_nodup_map s.unique h h' hkey

/-- The object after a fetch that has read its batch. -/
def carrying (s : Relayer) (limit : ℕ) : Relayer :=
  { s with inFlight := s.inFlight ∪ ((batch s limit).map Prod.fst).toFinset }

theorem read_ids {rows : List Row} {events : List OutboxEvent}
    (h : List.Forall₂ (fun row event => readers.event row = .ok event) rows events) :
    events.map (·.eventId) = rows.map Prod.fst := by
  induction h with
  | nil => rfl
  | cons hevent _ ih => rw [List.map_cons, List.map_cons, (event_ok hevent).1, ih]

theorem read_row {rows : List Row} {events : List OutboxEvent} {event : OutboxEvent}
    (h : List.Forall₂ (fun row event => readers.event row = .ok event) rows events)
    (hmem : event ∈ events) : ∃ row ∈ rows, readers.event row = .ok event := by
  induction h with
  | nil => cases hmem
  | cons hhead _ ih =>
    rcases List.mem_cons.1 hmem with rfl | hmem
    · exact ⟨_, List.mem_cons_self, hhead⟩
    · obtain ⟨row, hrow, hevent⟩ := ih hmem
      exact ⟨row, List.mem_cons_of_mem _ hrow, hevent⟩

/-- **A drain whose batch can be read** is the loop over it. -/
theorem drain_readable (R : Routing) (env : Env) (h : ∀ row ∈ batch s limit, Readable readers row) :
    fetched readers s limit = ((batch s limit).map Prod.fst).toFinset ∧ ∃ events,
      List.Forall₂ (fun row event => readers.event row = .ok event) (batch s limit) events ∧
      events.map (·.eventId) = (batch s limit).map Prod.fst ∧
      drain readers R env s limit = relayAll R env events (carrying s limit) 0 := by
  obtain ⟨events, hread, hall⟩ := readAll_ok s.inFlight h
  refine ⟨?_, events, hall, read_ids hall, ?_⟩
  · rw [fetched, fetch_eq, hread]
    refine Finset.union_sdiff_cancel_left (Finset.disjoint_left.2 fun k hk hmem => ?_)
    obtain ⟨row, hrow, rfl⟩ := List.mem_map.1 (List.mem_toFinset.1 hmem)
    exact (batch_sub hrow).2 hk
  · rw [drain, fetch_eq, hread]
    rfl

/-- The loop stops early in rows and in events alike. -/
theorem onlyLast_events {rows : List Row} {events : List OutboxEvent}
    (h : List.Forall₂ (fun row event => readers.event row = .ok event) rows events) :
    OnlyLast (fun row : Row => Stops R env row.1 row.2.type) rows ↔
      OnlyLast (fun e => Stops R env e.eventId e.type) events := by
  refine onlyLast_congr (h.imp fun row event hevent => ?_)
  rw [(event_ok hevent).1, (event_ok hevent).2]

/-- A drain that restores its batch could read it. -/
theorem readable_of_released
    (h : ∀ k ∈ fetched readers s limit, k ∉ (drain readers R env s limit).2.inFlight) :
    ∀ row ∈ batch s limit, Readable readers row := by
  intro row hrow
  by_contra hbad
  obtain ⟨x, hx, r, hr, hmem⟩ := readAll_error s.inFlight hrow hbad
  rw [← fetch_eq] at hx hmem
  refine h r.1 (Finset.mem_sdiff.2 ⟨hmem, (batch_sub hr).2⟩) ?_
  rw [drain, hx]
  exact hmem

/-- A drain that restores its batch was not ended by a mark. -/
theorem marks_of_released
    (h : ∀ k ∈ fetched readers s limit, k ∉ (drain readers R env s limit).2.inFlight) :
    OnlyLast (fun row : Row => Stops R env row.1 row.2.type) (batch s limit) := by
  obtain ⟨hfetched, events, hall, hids, hdrain⟩ :=
    drain_readable R env (readable_of_released h)
  rw [onlyLast_events hall]
  by_contra hearly
  have hnodup : (events.map (·.eventId)).Nodup := by
    rw [hids]
    exact batch_keys s limit
  have hkeys : ∀ e ∈ events, e.eventId ∈ (batch s limit).map Prod.fst := by
    intro e he
    rw [← hids]
    exact List.mem_map_of_mem he
  obtain ⟨e, he, hmem⟩ := relayAll_keeps 0 (s := carrying s limit) hnodup
    (fun e he => Finset.mem_union_right _ (List.mem_toFinset.2 (hkeys e he))) hearly
  refine h e.eventId ?_ ?_
  · rw [hfetched]
    exact List.mem_toFinset.2 (hkeys e he)
  · rw [hdrain]
    exact hmem

/-- What is in flight after a drain that restores its batch is what was. -/
theorem drain_inFlight (h : Restorable readers R env s limit) :
    (drain readers R env s limit).2.inFlight = s.inFlight := by
  obtain ⟨-, events, hall, hids, hdrain⟩ := drain_readable R env h.readable
  rw [hdrain, relayAll_releases ((onlyLast_events hall).1 h.marks), hids]
  refine Finset.union_sdiff_cancel_right (Finset.disjoint_left.2 fun k hk hmem => ?_)
  obtain ⟨row, hrow, rfl⟩ := List.mem_map.1 (List.mem_toFinset.1 hmem)
  exact (batch_sub hrow).2 hk

/-- A row that some sink has not received is unmarked. -/
theorem drain_rows (R : Routing) (env : Env) (h : ∀ row ∈ batch s limit, Readable readers row) : ∃ marked : Finset String,
    (drain readers R env s limit).2.rows = s.rows.map (stampAll marked env.now) ∧
      ∀ row ∈ s.rows, row.1 ∈ marked → ∀ sink ∈ R.sinks row.2.type,
        (row.1, sink) ∈ (drain readers R env s limit).2.delivered := by
  obtain ⟨-, events, hall, hids, hdrain⟩ := drain_readable R env h
  obtain ⟨-, marked, hrows, hdelivered⟩ := relayAll_marks R env events
    (carrying s limit) 0
  rw [hdrain]
  refine ⟨marked, hrows, fun row hrow hk sink hsink => ?_⟩
  obtain ⟨e, he, hkey, hsinks⟩ := hdelivered row.1 hk
  obtain ⟨r, hr, hevent⟩ := read_row hall he
  have hsame : r = row := row_unique (batch_sub hr).1 hrow ((event_ok hevent).1.symm.trans hkey)
  rw [← hsame, ← (event_ok hevent).2] at hsink
  exact hsinks sink hsink

/-- **A row that was not delivered** is fetched again. -/
theorem fetched_again (h : Restorable readers R env s limit) {row : Row}
    (hrow : row ∈ batch s limit) (hsink : ∃ sink ∈ R.sinks row.2.type,
      (row.1, sink) ∉ (drain readers R env s limit).2.delivered)
    {later : Relayer} {appended : List Row} {limit' : ℕ}
    (hlater : later.rows = (drain readers R env s limit).2.rows ++ appended)
    (hfly : later.inFlight = (drain readers R env s limit).2.inFlight) (hlimit : limit ≤ limit') :
    row.1 ∈ fetched readers later limit' := by
  obtain ⟨marked, hrows, hmarked⟩ := drain_rows R env h.readable
  rw [drain_inFlight h] at hfly
  have hunmarked : row.1 ∉ marked := by
    intro hk
    obtain ⟨sink, hsink, hnot⟩ := hsink
    exact hnot (hmarked row (batch_sub hrow).1 hk sink hsink)
  obtain ⟨pre, post, hsplit, hlength, hnew, hbefore, hinside⟩ := mem_batch hrow
  have hshort : ((pre.filter fun r => r.1 ∉ marked).filter fun r => r.1 ∉ s.inFlight).Sublist
      (pre.filter fun r => r.1 ∉ s.inFlight) := List.Sublist.filter _ List.filter_sublist
  have hplace : later.rows.filter unrelayed = (pre.filter fun r => r.1 ∉ marked) ++
      row :: ((post.filter fun r => r.1 ∉ marked) ++ appended.filter unrelayed) := by
    rw [hlater, hrows, List.filter_append, filter_stampAll, hsplit, List.filter_append,
      List.filter_cons_of_pos (by simpa using hunmarked)]
    simp
  refine fetched_of_place hplace ?_ ?_ ?_ ?_
  · have hle : (pre.filter fun r => r.1 ∉ marked).length ≤ pre.length :=
      List.length_filter_le _ _
    rw [hfly]
    omega
  · rw [hfly]
    exact hnew
  · have hle := hshort.length_le
    rw [hfly]
    omega
  · intro r hr
    rw [hfly] at hr
    exact h.readable r (hinside r (hshort.subset hr))

/-- **The bookkeeping of a drain** is restored exactly when every row of its batch can be read and
no mark raises before the last event. -/
theorem restored_iff (readers : Readers) (R : Routing) (env : Env) (s : Relayer) (limit : ℕ) :
    Restored readers R env s limit ↔ Restorable readers R env s limit := by
  constructor
  · intro h
    exact ⟨readable_of_released h.released, marks_of_released h.released⟩
  · intro h
    obtain ⟨hfetched, -⟩ := drain_readable R env h.readable
    refine ⟨fun k hk => ?_, fun row hrow hk _ hsink later appended limit' hlater hfly hle => ?_⟩
    · rw [drain_inFlight h]
      exact (Finset.mem_sdiff.1 hk).2
    · rw [hfetched] at hk
      obtain ⟨r, hr, hkey⟩ := List.mem_map.1 (List.mem_toFinset.1 hk)
      obtain rfl := row_unique (batch_sub hr).1 hrow hkey
      exact fetched_again h hr hsink hlater hfly hle

/-! ## A mark that fails -/

/-- Readers that take any text. -/
def plainReaders : Readers := ⟨fun _ => .ok (.obj []), .ok⟩

/-- One sink for all events. -/
def oneSink : Routing := ⟨fun _ => none, ["sse"]⟩

/-- Two events. -/
def firstRow : Row :=
  ("evt_1", ⟨1, "purchase.captured", "mdt_1", "\x7b\x7d", "2026-08-31T00:00:00+00:00", none⟩)

def secondRow : Row :=
  ("evt_2", ⟨2, "purchase.captured", "mdt_1", "\x7b\x7d", "2026-08-31T00:00:05+00:00", none⟩)

/-- The outbox of both. -/
def twoRows : Relayer where
  rows := [firstRow, secondRow]
  unique := by decide

/-- The database is lost at the first mark. -/
def lostMark : Env where
  sinkFails _ _ := false
  markFails eventId := if eventId = "evt_1" then some "server closed the connection" else none
  now := "2026-08-31T00:00:10+00:00"

/-- **The rest of the batch** stays in flight, undelivered. -/
theorem mark_failed : ¬ Restored plainReaders oneSink lostMark twoRows 100 := by
  intro h
  have hstays : "evt_2" ∈ (drain plainReaders oneSink lostMark twoRows 100).2.inFlight := by
    decide +kernel
  exact h.released "evt_2" (by decide +kernel) hstays

end TryTrust.Api.Drain
