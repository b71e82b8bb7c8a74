import TryTrust.Api.Drains
import TryTrust.Batches

/-!
# Events that are never delivered

Drains of one relay, where some events always fail at a sink and stay in the table.

* `Always`: which events fail, in every drain; `drains`, one after another;
* `drain_round`: the unrelayed rows after a drain are those after a round of `Batches`;
* **`poison_iff`**: after as many drains as rows every other event has been delivered and marked,
  exactly when fewer poisoned rows than the limit are before each of them; `poison_starves`: one
  poisoned row and a limit of one.
-/

namespace TryTrust.Api.Drain

open TryTrust.Api.Relay (OutboxRow OutboxEvent Routing)

/-- **The poisoned events**: all marks succeed, and an event is delivered unless it is poisoned. -/
structure Always (R : Routing) (poison : String → Bool) (rows : List Row) (env : Env) : Prop where
  marks : ∀ k, env.markFails k = none
  sinks : ∀ row ∈ rows, (handleAll env row.1 0 (R.sinks row.2.type)).1 = !poison row.1

/-- Drains of one relay. -/
def drains (readers : Readers) (R : Routing) (limit : ℕ) : List Env → Relayer → Relayer
  | [], s => s
  | env :: envs, s => drains readers R limit envs (drain readers R env s limit).2

/-- All sinks of a row have received it, and its mark is in the table. -/
def Relayed (R : Routing) (after : Relayer) (row : Row) : Prop :=
  (∀ sink ∈ R.sinks row.2.type, (row.1, sink) ∈ after.delivered) ∧
    ∃ r ∈ after.rows, r.1 = row.1 ∧ r.2.relayedAt ≠ none

variable {readers : Readers} {R : Routing} {env : Env} {s : Relayer} {limit : ℕ}
  {poison : String → Bool}

/-! ## One drain -/

/-- All sinks take an event. -/
def takenBy (R : Routing) (env : Env) (event : OutboxEvent) : Bool :=
  (handleAll env event.eventId 0 (R.sinks event.type)).1

/-- The marks of a loop in which none fails. -/
theorem relayAll_marked (hmarks : ∀ k, env.markFails k = none) (events : List OutboxEvent)
    (s : Relayer) (drained : ℕ) : (relayAll R env events s drained).2.rows =
      s.rows.map (stampAll ((events.filter (takenBy R env)).map (·.eventId)).toFinset env.now) := by
  induction events generalizing s drained with
  | nil => exact (map_stampAll_empty _ _).symm
  | cons event events ih =>
    rw [relayAll, hmarks]
    by_cases hsent : takenBy R env event = true
    · rw [List.filter_cons_of_pos hsent, List.map_cons]
      rw [takenBy] at hsent
      simp only [if_pos hsent]
      rw [ih]
      simp only [Relayer.mark, Relayer.release, Relayer.receive, List.map_map]
      refine List.map_congr_left fun row _ => ?_
      generalize (events.filter (takenBy R env)).map (·.eventId) = later
      by_cases hk : row.1 = event.eventId
      · by_cases hm : event.eventId ∈ later <;> simp [stampAll, stamp, hk, hm]
      · have hmem : row.1 ∈ (event.eventId :: later).toFinset ↔ row.1 ∈ later.toFinset := by
          simp [hk]
        simp only [Function.comp_apply, stamp, if_neg hk, stampAll, hmem]
    · rw [List.filter_cons_of_neg hsent]
      rw [takenBy] at hsent
      simp only [if_neg hsent]
      rw [ih]
      rfl

/-- With nothing in flight, a batch is the head of the unrelayed rows. -/
theorem batch_fresh (hfresh : s.inFlight = ∅) (hlimit : 1 ≤ limit) :
    batch s limit = (s.rows.filter unrelayed).take limit := by
  have hall : ∀ rows : List Row, (rows.filter fun row => row.1 ∉ (∅ : Finset String)) = rows :=
    fun rows => List.filter_eq_self.2 fun row _ => by simp
  rw [batch, selected, hfresh, hall, Finset.card_empty, add_zero, max_eq_left hlimit,
    List.take_take, min_self]

/-- Rows with different keys, those of the batch that are delivered taken out. -/
theorem filter_round {rows : List Row} (hunique : (rows.map Prod.fst).Nodup) (n : ℕ) :
    (rows.filter fun row => row.1 ∉ (((rows.take n).filter fun r => !poison r.1).map
      Prod.fst).toFinset) = Batches.round (fun row => poison row.1) n rows := by
  have hsplit : rows.map Prod.fst = (rows.take n).map Prod.fst ++ (rows.drop n).map Prod.fst := by
    rw [← List.map_append, List.take_append_drop]
  rw [hsplit] at hunique
  obtain ⟨-, -, hdisjoint⟩ := List.nodup_append.1 hunique
  conv_lhs => rw [← List.take_append_drop n rows, List.filter_append, List.take_append_drop]
  rw [Batches.round]
  congr 1
  · refine List.filter_congr fun row hrow => ?_
    cases hp : poison row.1 with
    | true =>
      simp only [List.mem_toFinset, List.mem_map, List.mem_filter, decide_eq_true_eq]
      rintro ⟨r, ⟨-, hr⟩, hkey⟩
      rw [hkey, hp] at hr
      cases hr
    | false =>
      simp only [List.mem_toFinset, List.mem_map, List.mem_filter, decide_eq_false_iff_not,
        not_not]
      exact ⟨row, ⟨hrow, by rw [hp]; rfl⟩, rfl⟩
  · refine List.filter_eq_self.2 fun row hrow => ?_
    simp only [List.mem_toFinset, List.mem_map, List.mem_filter, decide_eq_true_eq]
    rintro ⟨r, ⟨hr, -⟩, hkey⟩
    exact hdisjoint r.1 (List.mem_map_of_mem hr) row.1 (List.mem_map_of_mem hrow) hkey

/-- The events of a batch that are delivered. -/
theorem taken_ids {rows : List Row} {events : List OutboxEvent}
    (h : List.Forall₂ (fun row event => readers.event row = .ok event) rows events)
    (hsinks : ∀ row ∈ rows, (handleAll env row.1 0 (R.sinks row.2.type)).1 = !poison row.1) :
    (events.filter (takenBy R env)).map (·.eventId) =
      (rows.filter fun r => !poison r.1).map Prod.fst := by
  induction h with
  | nil => rfl
  | @cons row event rows events hevent _ ih =>
    obtain ⟨hid, htype⟩ := event_ok hevent
    have hhead : takenBy R env event = !poison row.1 := by
      rw [takenBy, hid, htype]
      exact hsinks row List.mem_cons_self
    have htail := ih fun r hr => hsinks r (List.mem_cons_of_mem _ hr)
    rw [List.filter_cons, List.filter_cons, hhead]
    split_ifs
    · rw [List.map_cons, List.map_cons, htail, hid]
    · exact htail

/-- **One drain** is a round over the unrelayed rows. -/
theorem drain_round (hfresh : s.inFlight = ∅) (hlimit : 1 ≤ limit)
    (hread : ∀ row ∈ s.rows, Readable readers row) (henv : Always R poison s.rows env) :
    (drain readers R env s limit).2.inFlight = ∅ ∧
      (drain readers R env s limit).2.rows.filter unrelayed =
        Batches.round (fun row => poison row.1) limit (s.rows.filter unrelayed) := by
  have hbatch := batch_fresh hfresh hlimit
  have hreadable : ∀ row ∈ batch s limit, Readable readers row :=
    fun row hrow => hread row (batch_sub hrow).1
  have hmarks : ∀ rows, OnlyLast (fun row : Row => Stops R env row.1 row.2.type) rows := by
    intro rows
    induction rows with
    | nil => trivial
    | cons row rows ih => exact ⟨fun hstops => absurd (henv.marks _) hstops.2, ih⟩
  obtain ⟨-, events, hall, hids, hdrain⟩ := drain_readable R env hreadable
  refine ⟨(drain_inFlight ⟨hreadable, hmarks _⟩).trans hfresh, ?_⟩
  have hdelivered := taken_ids hall fun row hrow => henv.sinks row (batch_sub hrow).1
  have hunique : ((s.rows.filter unrelayed).map Prod.fst).Nodup :=
    s.unique.sublist (List.Sublist.map _ List.filter_sublist)
  rw [hdrain, relayAll_marked henv.marks, filter_stampAll, hdelivered, hbatch]
  exact filter_round hunique limit

/-! ## Drains -/

theorem stampAll_key (marked : Finset String) (now : String) (row : Row) :
    (stampAll marked now row).1 = row.1 := by
  rw [stampAll]
  split_ifs <;> rfl

theorem stampAll_type (marked : Finset String) (now : String) (row : Row) :
    (stampAll marked now row).2.type = row.2.type := by
  rw [stampAll]
  split_ifs <;> rfl

/-- A mark is not read with the event. -/
theorem stampAll_event (marked : Finset String) (now : String) (row : Row) :
    readers.event (stampAll marked now row) = readers.event row := by
  rw [stampAll]
  split_ifs <;> rfl

/-- What all drains of a relay find: a fresh object, rows that can be read, the same poison. -/
structure Drainable (readers : Readers) (R : Routing) (poison : String → Bool) (s : Relayer)
    (envs : List Env) : Prop where
  fresh : s.inFlight = ∅
  readable : ∀ row ∈ s.rows, Readable readers row
  always : ∀ env ∈ envs, Always R poison s.rows env

/-- A drain leaves the next one what it takes. -/
theorem Drainable.next {envs : List Env} (h : Drainable readers R poison s (env :: envs))
    (hlimit : 1 ≤ limit) :
    Drainable readers R poison (drain readers R env s limit).2 envs ∧
      (drain readers R env s limit).2.rows.filter unrelayed =
        Batches.round (fun row => poison row.1) limit (s.rows.filter unrelayed) := by
  obtain ⟨hfresh, hround⟩ := drain_round h.fresh hlimit h.readable (h.always env List.mem_cons_self)
  obtain ⟨marked, hrows, -⟩ := drain_rows R env fun row (hrow : row ∈ batch s limit) =>
    h.readable row (batch_sub hrow).1
  refine ⟨⟨hfresh, fun row hrow => ?_, fun later hlater => ?_⟩, hround⟩
  · rw [hrows] at hrow
    obtain ⟨r, hr, rfl⟩ := List.mem_map.1 hrow
    rw [Readable, stampAll_event]
    exact h.readable r hr
  · have halways := h.always later (List.mem_cons_of_mem _ hlater)
    refine ⟨halways.marks, fun row hrow => ?_⟩
    rw [hrows] at hrow
    obtain ⟨r, hr, rfl⟩ := List.mem_map.1 hrow
    rw [stampAll_key, stampAll_type]
    exact halways.sinks r hr

/-- **Drains** are rounds. -/
theorem drains_rounds {envs : List Env} (h : Drainable readers R poison s envs)
    (hlimit : 1 ≤ limit) : (drains readers R limit envs s).rows.filter unrelayed =
      (Batches.round (fun row => poison row.1) limit)^[envs.length] (s.rows.filter unrelayed) := by
  induction envs generalizing s with
  | nil => rfl
  | cons env envs ih =>
    obtain ⟨hnext, hround⟩ := h.next hlimit
    rw [drains, ih hnext, hround, List.length_cons, Function.iterate_succ_apply]

/-- What the sinks have received only grows. -/
theorem drain_delivered (s : Relayer) (limit : ℕ) :
    s.delivered ⊆ (drain readers R env s limit).2.delivered := by
  rw [drain]
  cases (fetchUnrelayed readers s limit).1 with
  | error x => exact List.Subset.refl _
  | ok events =>
    exact (relayAll_marks R env events
      { s with inFlight := (fetchUnrelayed readers s limit).2 } 0).1

theorem drains_delivered (envs : List Env) (s : Relayer) :
    s.delivered ⊆ (drains readers R limit envs s).delivered := by
  induction envs generalizing s with
  | nil => exact List.Subset.refl _
  | cons env envs ih => exact List.Subset.trans (drain_delivered s limit) (ih _)

/-- A mark stays. -/
theorem drains_marked {envs : List Env} (h : Drainable readers R poison s envs)
    (hlimit : 1 ≤ limit) {row : Row} (hrow : row ∈ s.rows) (hmark : row.2.relayedAt ≠ none) :
    ∃ r ∈ (drains readers R limit envs s).rows, r.1 = row.1 ∧ r.2.relayedAt ≠ none := by
  induction envs generalizing s row with
  | nil => exact ⟨row, hrow, rfl, hmark⟩
  | cons env envs ih =>
    obtain ⟨marked, hrows, -⟩ := drain_rows R env fun r (hr : r ∈ batch s limit) =>
      h.readable r (batch_sub hr).1
    have hstamped : stampAll marked env.now row ∈ (drain readers R env s limit).2.rows := by
      rw [hrows]
      exact List.mem_map_of_mem hrow
    have hstill : (stampAll marked env.now row).2.relayedAt ≠ none := by
      rw [stampAll]
      split_ifs
      · exact Option.some_ne_none _
      · exact hmark
    obtain ⟨r, hr, hkey, hdone⟩ := ih (h.next hlimit).1 hstamped hstill
    exact ⟨r, hr, hkey.trans (stampAll_key ..), hdone⟩

/-- A row after some drains: as it was, or marked and received by all its sinks. -/
theorem drains_row {envs : List Env} (h : Drainable readers R poison s envs) (hlimit : 1 ≤ limit)
    {row : Row} (hrow : row ∈ s.rows) :
    row ∈ (drains readers R limit envs s).rows ∨ Relayed R (drains readers R limit envs s) row := by
  induction envs generalizing s with
  | nil => exact .inl hrow
  | cons env envs ih =>
    obtain ⟨marked, hrows, hmarked⟩ := drain_rows R env fun r (hr : r ∈ batch s limit) =>
      h.readable r (batch_sub hr).1
    have hnext := (h.next hlimit).1
    have hstamped : stampAll marked env.now row ∈ (drain readers R env s limit).2.rows := by
      rw [hrows]
      exact List.mem_map_of_mem hrow
    by_cases hk : row.1 ∈ marked
    · have hdone : (stampAll marked env.now row).2.relayedAt ≠ none := by
        rw [stampAll, if_pos hk]
        exact Option.some_ne_none _
      obtain ⟨r, hr, hkey, hrelayed⟩ := drains_marked hnext hlimit hstamped hdone
      exact .inr ⟨fun sink hsink => drains_delivered envs _ (hmarked row hrow hk sink hsink), r, hr,
        hkey.trans (stampAll_key ..), hrelayed⟩
    · rw [stampAll, if_neg hk] at hstamped
      exact ih hnext hstamped

/-- **Poisoned events.** After as many drains as rows every other unrelayed event has been delivered
to its sinks and marked, exactly when fewer than `limit` poisoned ones are before each of them. -/
theorem poison_iff (readers : Readers) (R : Routing) (poison : String → Bool) {s : Relayer}
    {limit : ℕ} {envs : List Env} (h : Drainable readers R poison s envs) (hlimit : 1 ≤ limit)
    (hcount : envs.length = s.rows.length) :
    (∀ row ∈ s.rows, unrelayed row = true → poison row.1 = false →
        Relayed R (drains readers R limit envs s) row) ↔
      Batches.Reached (fun row : Row => poison row.1) limit (s.rows.filter unrelayed) := by
  have hlen : (s.rows.filter unrelayed).length ≤ envs.length := by
    rw [hcount]
    exact List.length_filter_le _ _
  have hrounds := drains_rounds h hlimit
  rw [← Batches.rounds_iff hlen, ← hrounds]
  constructor
  · intro hall row hrow
    obtain ⟨hmem, hnew⟩ := List.mem_filter.1 hrow
    -- what is unrelayed now was so at the start
    have hstart : row ∈ s.rows := by
      rw [hrounds] at hrow
      exact (List.mem_filter.1 ((Batches.rounds_sublist _ _).subset hrow)).1
    by_contra hgood
    obtain ⟨-, r, hr, hkey, hdone⟩ := hall row hstart hnew (by simpa using hgood)
    rw [row_unique hr hmem hkey] at hdone
    exact hdone (by simpa [unrelayed] using hnew)
  · intro hall row hrow hnew hgood
    rcases drains_row h hlimit hrow with hsame | hrelayed
    · have hstays := hall row (List.mem_filter.2 ⟨hsame, hnew⟩)
      rw [hgood] at hstays
      exact absurd hstays Bool.false_ne_true
    · exact hrelayed

/-! ## Two events, the first poisoned -/

/-- The poisoned event. -/
def firstPoisoned (eventId : String) : Bool := eventId = "evt_1"

/-- Its sink refuses it. -/
def refusing : Env := ⟨fun eventId _ => firstPoisoned eventId, fun _ => none,
  "2026-08-31T00:00:10+00:00"⟩

theorem twoRows_drainable :
    Drainable plainReaders oneSink firstPoisoned twoRows [refusing, refusing] := by
  have hrows : ∀ row ∈ twoRows.rows, row = firstRow ∨ row = secondRow := by
    intro row hrow
    simpa [twoRows] using hrow
  refine ⟨rfl, fun row hrow => ?_, fun env henv => ?_⟩
  · rcases hrows row hrow with rfl | rfl
    · exact ⟨_, rfl⟩
    · exact ⟨_, rfl⟩
  · obtain rfl : env = refusing := by simpa using henv
    refine ⟨fun _ => rfl, fun row hrow => ?_⟩
    rcases hrows row hrow with rfl | rfl
    · decide +kernel
    · decide +kernel

/-- Batches of two reach the second event. -/
theorem poison_passed : Relayed oneSink
    (drains plainReaders oneSink 2 [refusing, refusing] twoRows) secondRow := by
  refine (poison_iff plainReaders oneSink firstPoisoned twoRows_drainable (by decide :
    1 ≤ 2) rfl).2 ?_ secondRow (by simp [twoRows]) rfl rfl
  intro pre row post hsplit _
  have hlength := congrArg List.length hsplit
  have htwo : (twoRows.rows.filter unrelayed).length = 2 := rfl
  have hle := List.length_filter_le (fun row : Row => firstPoisoned row.1) pre
  rw [htwo, List.length_append, List.length_cons] at hlength
  omega

/-- **Batches of one** do not, however often it is drained. -/
theorem poison_starves : Drainable plainReaders oneSink firstPoisoned twoRows [refusing, refusing] ∧
    unrelayed secondRow = true ∧ firstPoisoned secondRow.1 = false ∧
    ¬ Relayed oneSink (drains plainReaders oneSink 1 [refusing, refusing] twoRows) secondRow := by
  refine ⟨twoRows_drainable, rfl, rfl, fun hrelayed => ?_⟩
  have hnone : ("evt_2", "sse") ∉
      (drains plainReaders oneSink 1 [refusing, refusing] twoRows).delivered := by
    decide +kernel
  exact hnone (hrelayed.1 "sse" List.mem_cons_self)

end TryTrust.Api.Drain
