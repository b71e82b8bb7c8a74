import TryTrust.Conc.Cell
import TryTrust.Conc.Pool
import TryTrust.Json

/-!
# The relay of the API

Relay processes drain one outbox: each selects unrelayed rows with `FOR UPDATE SKIP LOCKED`, ends
the transaction, delivers to the sinks of each event, and marks it in another transaction. What a
process has fetched it remembers in `_in_flight`, which no other process reads.

* `OutboxRow`, `Call`, `exec`, `sem`; `fetchUnrelayed`, `markRelayed`, `drain`;
* `Work`, what a process has in flight and has delivered; `relaySystem`, `relayStart`;
* `EventOk`, `RelayInv`; `drain_outline`: a drain that fetches nothing in flight elsewhere;
* **`relays_once`**: then every event reaches each of its sinks once, and is marked after all of
  them; **`relays_twice`**: two processes that fetch one after the other deliver an event twice.
-/

namespace TryTrust.Api.Relay

open Conc

/-! ## The drain -/

/-- A row of `outbox`; its key is `event_id`, the table is in the order of `seq`. -/
structure OutboxRow where
  seq : ℕ
  type : String
  aggregateId : String
  payload : String
  createdAt : String
  relayedAt : Option String := none
  deriving DecidableEq

/-- What a sink receives. -/
structure OutboxEvent where
  seq : ℕ
  eventId : String
  type : String
  aggregateId : String
  payload : Json
  createdAt : String

/-- A call of a process. -/
inductive Call (ι : Type) where
  /-- `SELECT … LIMIT limit + len(in_flight) FOR UPDATE SKIP LOCKED`. -/
  | fetch (i : ι) (limit : ℕ) (inFlight : List String)
  /-- The end of a connection's `with` block. -/
  | commit (i : ι)
  | updateRelayed (i : ι) (eventId relayedAt : String)
  | handle (i : ι) (sink : String) (event : OutboxEvent)
  | now (i : ι)

/-- The answer of a call. -/
def Res {ι : Type} : Call ι → Type
  | .fetch .. => List (String × OutboxRow)
  | .now _ => String
  | _ => Unit

/-- A program of a process; exceptions are texts. -/
abbrev Tx (ι α : Type) : Type := Prog (Call ι) Res String α

/-- The rows that a fetch takes: those not in flight, up to the limit, and never none. -/
def pick (inFlight : List String) : ℕ → List (String × OutboxRow) → List (String × OutboxRow)
  | _, [] => []
  | limit, x :: rows =>
    if x.1 ∈ inFlight then pick inFlight limit rows
    else if 1 ≥ limit then [x] else x :: pick inFlight (limit - 1) rows

section Drain

variable {ι : Type} [DecidableEq ι]

/-- The rows that a `SELECT` locks, `ORDER BY seq`; locked ones are skipped. -/
def selectable (i : ι) (limit : ℕ) (s : Table ι String OutboxRow) : List String :=
  ((s.matching i fun _ r => r.relayedAt.isNone).filter fun k => (s.cell k).Free i).take limit

/-- The rows that it answers. -/
def selected (i : ι) (limit : ℕ) (s : Table ι String OutboxRow) : List (String × OutboxRow) :=
  (selectable i limit s).map fun k => (k, (s.cell k).seen i)

/-- What a call does; sinks never fail. -/
def exec (now : String) :
    (op : Call ι) → Table ι String OutboxRow → Res op × Table ι String OutboxRow
  | .fetch i limit inFlight, s =>
    (selected i (limit + inFlight.length) s,
      s.rewrite i (selectable i (limit + inFlight.length) s) fun _ r => r)
  | .commit i, s => ((), s.commit i)
  | .updateRelayed i eventId relayedAt, s =>
    ((), s.rewrite i [eventId] fun _ r => { r with relayedAt := some relayedAt })
  | .handle _ _ _, s => ((), s)
  | .now _, s => (now, s)

/-- One call of a program. -/
def call (op : Call ι) : Tx ι (Res op) := Prog.perform op

/-- The event of a row; `loads` reads its payload. -/
def eventOf (loads : String → Except String Json) (x : String × OutboxRow) :
    Except String OutboxEvent :=
  (loads x.2.payload).map fun payload =>
    ⟨x.2.seq, x.1, x.2.type, x.2.aggregateId, payload, x.2.createdAt⟩

/-- `fetch_unrelayed`: the events, and what is in flight then. -/
def fetchUnrelayed (loads : String → Except String Json) (i : ι) (limit : ℕ)
    (inFlight : List String) : Tx ι (List OutboxEvent × List String) := do
  let rows : List (String × OutboxRow) ← call (.fetch i limit inFlight)
  let taken := pick inFlight limit rows
  call (.commit i)
  match taken.mapM (eventOf loads) with
  | .error x => .raise x
  | .ok events => pure (events, inFlight ++ taken.map Prod.fst)

/-- `mark_relayed`. -/
def markRelayed (i : ι) (eventId relayedAt : String) (inFlight : List String) :
    Tx ι (List String) := do
  let inFlight := inFlight.erase eventId
  call (.updateRelayed i eventId relayedAt)
  call (.commit i)
  pure inFlight

/-- The loop over the sinks; it stops at one that fails. -/
def handleAll (i : ι) (event : OutboxEvent) : List String → Tx ι Bool
  | [] => pure true
  | sink :: sinks => do
    let sent : Except String Unit ← (call (.handle i sink event)).attempt
    match sent with
    | .ok () => handleAll i event sinks
    | .error _ => pure false

/-- Where the events of a type go: `routes`, or else `default_sinks`. -/
structure Routing where
  routes : String → Option (List String)
  defaultSinks : List String

/-- The sinks of a type. -/
def Routing.sinks (R : Routing) (type : String) : List String :=
  (R.routes type).getD R.defaultSinks

/-- One event of the loop; one without sinks is marked at once. -/
def relayEvent (R : Routing) (i : ι) (event : OutboxEvent) (inFlight : List String) :
    Tx ι (Bool × List String) := do
  let now : String ← call (.now i)
  let delivered : Bool ← handleAll i event (R.sinks event.type)
  match delivered with
  | true => do
    let inFlight ← markRelayed i event.eventId now inFlight
    pure (true, inFlight)
  | false => pure (false, inFlight.erase event.eventId)

/-- The loop over the events, `drained` counted so far. -/
def relayAll (R : Routing) (i : ι) :
    List OutboxEvent → List String → ℕ → Tx ι (ℕ × List String)
  | [], inFlight, drained => pure (drained, inFlight)
  | event :: events, inFlight, drained => do
    let r : Bool × List String ← relayEvent R i event inFlight
    relayAll R i events r.2 (if r.1 then drained + 1 else drained)

/-- `drain`. -/
def drain (R : Routing) (loads : String → Except String Json) (i : ι) (limit : ℕ)
    (inFlight : List String) : Tx ι (ℕ × List String) := do
  let r : List OutboxEvent × List String ← fetchUnrelayed loads i limit inFlight
  relayAll R i r.1 r.2 0

/-- The drains of a process, with their limits; it returns how many events each relayed. -/
def drains (R : Routing) (loads : String → Except String Json) (i : ι) :
    List ℕ → List String → Tx ι (List ℕ)
  | [], _ => pure []
  | limit :: limits, inFlight => do
    let r : ℕ × List String ← drain R loads i limit inFlight
    let ns ← drains R loads i limits r.2
    pure (r.1 :: ns)

end Drain

/-! ## The system -/

/-- What a process has fetched and not yet marked, and its deliveries: event and sink. -/
structure Work where
  inFlight : List String := []
  delivered : List (String × String) := []
  deriving DecidableEq

/-- After an answer. -/
def Work.next (γ : Work) : {ι : Type} → (op : Call ι) → Res op → Work
  | _, .fetch _ limit inFlight, (rows : List (String × OutboxRow)) =>
    { γ with inFlight := γ.inFlight ++ (pick inFlight limit rows).map Prod.fst }
  | _, .updateRelayed _ eventId _, _ => { γ with inFlight := γ.inFlight.erase eventId }
  | _, .handle _ sink event, _ => { γ with delivered := γ.delivered ++ [(event.eventId, sink)] }
  | _, _, _ => γ

section System

variable (ι : Type) [DecidableEq ι]

/-- The processes; the environment of a step is the clock. -/
def relaySystem : System ι (Call ι) Res String (Table ι String OutboxRow) Work String where
  sem now op s := (.ok (exec now op s).1, (exec now op s).2)
  adv _ γ _ op r := match r with
    | .ok a => γ.next op a
    | .error _ => γ

variable {ι}

/-- The configurations of the processes. -/
abbrev Relays (ι : Type) : Type :=
  Config ι (Call ι) Res String (List ℕ) (Table ι String OutboxRow) Work

/-- The start: unrelayed rows, and each process before its drains. -/
def relayStart (R : Routing) (loads : String → Except String Json) (keys : List String)
    (row : String → OutboxRow) (limits : ι → List ℕ) : Relays ι where
  shared := ⟨keys, fun k => ⟨{ row k with relayedAt := none }, none⟩⟩
  prog i := drains R loads i (limits i) []
  hist _ := {}

/-- A call that does not wait for a lock. -/
def Granted (s : Table ι String OutboxRow) : Call ι → Prop
  | .updateRelayed i eventId _ => (s.cell eventId).Free i
  | _ => True

instance (s : Table ι String OutboxRow) (op : Call ι) : Decidable (Granted s op) := by
  cases op <;> unfold Granted <;> infer_instance

/-- A step that waits for no lock. -/
def Runs (c : Relays ι) (i : ι) (_ : String) : Prop := ∀ op ∈ (c.prog i).next, Granted c.shared op

instance (c : Relays ι) (i : ι) (e : String) : Decidable (Runs c i e) :=
  inferInstanceAs (Decidable (∀ op ∈ (c.prog i).next, Granted c.shared op))

/-- A fetch of events that no other process has in flight. -/
def Alone (g : ι → Work) (s : Table ι String OutboxRow) : Call ι → Prop
  | .fetch i limit inFlight => ∀ x ∈ pick inFlight limit (selected i (limit + inFlight.length) s),
      ∀ j, j ≠ i → x.1 ∉ (g j).inFlight
  | _ => True

instance [Fintype ι] (g : ι → Work) (s : Table ι String OutboxRow) (op : Call ι) :
    Decidable (Alone g s op) := by
  cases op <;> unfold Alone <;> infer_instance

/-- A step that fetches no event that another process has in flight. -/
def FetchesAlone (c : Relays ι) (i : ι) (_ : String) : Prop :=
  ∀ op ∈ (c.prog i).next, Alone c.hist c.shared op

instance [Fintype ι] (c : Relays ι) (i : ι) (e : String) : Decidable (FetchesAlone c i e) :=
  inferInstanceAs (Decidable (∀ op ∈ (c.prog i).next, Alone c.hist c.shared op))

/-- An event is marked by a process that delivered it to all its sinks. -/
def MarksDelivered (R : Routing) (g : ι → Work) (s : Table ι String OutboxRow) : Call ι → Prop
  | .updateRelayed i eventId _ =>
    ∀ sink ∈ R.sinks (s.cell eventId).row.type, (eventId, sink) ∈ (g i).delivered
  | _ => True

/-- A step that marks no event before its deliveries. -/
def MarksAfter (R : Routing) (c : Relays ι) (i : ι) (_ : String) : Prop :=
  ∀ op ∈ (c.prog i).next, MarksDelivered R c.hist c.shared op

end System

/-! ## The invariant -/

section Invariant

variable {ι : Type}

/-- **An event in good order**: in flight at one process at most, delivered by nobody else
meanwhile, and to all its sinks when it is marked. -/
structure EventOk [Fintype ι] (R : Routing) (type : String) (g : ι → Work) (k : String)
    (c : Cell ι OutboxRow) : Prop where
  row : c.row.type = type
  newest : c.newest.type = type
  flying : ∀ i, k ∈ (g i).inFlight → c.newest.relayedAt = none ∧
    ∀ j, j ≠ i → k ∉ (g j).inFlight ∧ ∀ sink, (g j).delivered.count (k, sink) = 0
  idle : c.newest.relayedAt = none → (∀ i, k ∉ (g i).inFlight) →
    ∀ i sink, (g i).delivered.count (k, sink) = 0
  done : c.newest.relayedAt ≠ none →
    ∀ sink, ∑ j, (g j).delivered.count (k, sink) = (R.sinks type).count sink
  bound : ∀ i sink, (g i).delivered.count (k, sink) ≤ (R.sinks type).count sink

/-- **The invariant** of the outbox and the processes. -/
structure RelayInv [Fintype ι] (R : Routing) (type : String → String) (g : ι → Work)
    (s : Table ι String OutboxRow) : Prop where
  nodup : s.keys.Nodup
  events : ∀ k ∈ s.keys, EventOk R (type k) g k (s.cell k)
  known : ∀ i, ∀ k ∈ (g i).inFlight, k ∈ s.keys

variable [Fintype ι] {R : Routing} {type : String → String} {g : ι → Work}
  {s : Table ι String OutboxRow} {i : ι} {γ : Work} {k : String} {c : Cell ι OutboxRow}

/-- No event is delivered more often than its sinks ask. -/
theorem EventOk.once {t : String} (h : EventOk R t g k c) (sink : String) :
    ∑ j, (g j).delivered.count (k, sink) ≤ (R.sinks t).count sink := by
  by_cases hnone : c.newest.relayedAt = none
  · by_cases hfly : ∃ i, k ∈ (g i).inFlight
    · obtain ⟨i, hi⟩ := hfly
      have hsum : ∑ j, (g j).delivered.count (k, sink) = (g i).delivered.count (k, sink) :=
        Finset.sum_eq_single i (fun j _ hj => ((h.flying i hi).2 j hj).2 sink)
          fun hi => absurd (Finset.mem_univ i) hi
      rw [hsum]
      exact h.bound i sink
    · have hzero := h.idle hnone (not_exists.1 hfly)
      rw [Finset.sum_eq_zero fun j _ => hzero j sink]
      exact Nat.zero_le _
  · exact (h.done hnone sink).le

variable [DecidableEq ι]

/-- A process that has the same events in flight and has delivered the same of this one. -/
theorem EventOk.same {t : String} (h : EventOk R t g k c)
    (hfly : k ∈ γ.inFlight ↔ k ∈ (g i).inFlight)
    (hcount : ∀ sink, γ.delivered.count (k, sink) = (g i).delivered.count (k, sink)) :
    EventOk R t (Function.update g i γ) k c := by
  have hmem : ∀ j, k ∈ (Function.update g i γ j).inFlight ↔ k ∈ (g j).inFlight := by
    intro j
    by_cases hj : j = i
    · subst hj
      rwa [Function.update_self]
    · rw [Function.update_of_ne hj]
  have hcounts : ∀ j sink, (Function.update g i γ j).delivered.count (k, sink) =
      (g j).delivered.count (k, sink) := by
    intro j sink
    by_cases hj : j = i
    · subst hj
      rw [Function.update_self]
      exact hcount sink
    · rw [Function.update_of_ne hj]
  refine ⟨h.row, h.newest, fun j hj => ?_, fun hnone hall j sink => ?_, fun hsome sink => ?_,
    fun j sink => ?_⟩
  · obtain ⟨hnone, hothers⟩ := h.flying j ((hmem j).1 hj)
    refine ⟨hnone, fun l hl => ⟨?_, fun sink => ?_⟩⟩
    · rw [hmem]
      exact (hothers l hl).1
    · rw [hcounts]
      exact (hothers l hl).2 sink
  · rw [hcounts]
    exact h.idle hnone (fun l => by rw [← hmem l]; exact hall l) j sink
  · simp only [hcounts]
    exact h.done hsome sink
  · rw [hcounts]
    exact h.bound j sink

omit [DecidableEq ι] in
/-- The same row, with its lock changed. -/
theorem EventOk.cell {t : String} {c' : Cell ι OutboxRow} (h : EventOk R t g k c)
    (hrow : c'.row.type = t) (hnewest : c'.newest = c.newest) : EventOk R t g k c' := by
  refine ⟨hrow, ?_, ?_, ?_, ?_, h.bound⟩
  · rw [hnewest]
    exact h.newest
  · rw [hnewest]
    exact h.flying
  · rw [hnewest]
    exact h.idle
  · rw [hnewest]
    exact h.done

/-- A process that only reads. -/
theorem RelayInv.quiet (hinv : RelayInv R type g s) : RelayInv R type (Function.update g i (g i)) s := by
  rw [Function.update_eq_self]
  exact hinv

/-- The end of a transaction. -/
theorem RelayInv.commit (hinv : RelayInv R type g s) : RelayInv R type g (s.commit i) := by
  refine ⟨hinv.nodup, fun k hk => ?_, hinv.known⟩
  have hevent := hinv.events k hk
  rw [Table.cell_commit]
  refine hevent.cell ?_ Cell.newest_commit
  rcases (s.cell k).held_or_not i with ⟨v, hv⟩ | hnot
  · rw [Cell.commit_of_held hv]
    have hnewest := hevent.newest
    rw [Cell.newest_of_held hv] at hnewest
    exact hnewest
  · rw [Cell.commit_of_not hnot]
    exact hevent.row

omit [Fintype ι] in
theorem mem_selectable {limit : ℕ} (h : k ∈ selectable i limit s) :
    k ∈ s.keys ∧ (s.cell k).Free i ∧ ((s.cell k).seen i).relayedAt = none := by
  have hfilter := List.mem_filter.1 (List.mem_of_mem_take h)
  obtain ⟨hkey, hp⟩ := Table.mem_matching.1 hfilter.1
  exact ⟨hkey, by simpa using hfilter.2, by simpa using hp⟩

omit [Fintype ι] in
theorem mem_pick {inFlight : List String} {limit : ℕ} {rows : List (String × OutboxRow)}
    {x : String × OutboxRow} (h : x ∈ pick inFlight limit rows) : x ∈ rows ∧ x.1 ∉ inFlight := by
  induction rows generalizing limit with
  | nil => cases h
  | cons y rows ih =>
    rw [pick] at h
    split_ifs at h with hfly hlimit
    · exact ⟨List.mem_cons_of_mem _ (ih h).1, (ih h).2⟩
    · obtain rfl := List.mem_singleton.1 h
      exact ⟨List.mem_cons_self, hfly⟩
    · rcases List.mem_cons.1 h with rfl | h
      · exact ⟨List.mem_cons_self, hfly⟩
      · exact ⟨List.mem_cons_of_mem _ (ih h).1, (ih h).2⟩

theorem pick_sublist (inFlight : List String) (limit : ℕ) (rows : List (String × OutboxRow)) :
    (pick inFlight limit rows).Sublist rows := by
  induction rows generalizing limit with
  | nil => exact List.Sublist.slnil
  | cons y rows ih =>
    rw [pick]
    split_ifs
    · exact (ih limit).cons _
    · exact (List.nil_sublist rows).cons_cons y
    · exact (ih (limit - 1)).cons_cons y

/-- A fetch, by a process that has nothing in flight, of events that nobody else has. -/
theorem RelayInv.fetch (hinv : RelayInv R type g s) {limit : ℕ} (hnone : (g i).inFlight = [])
    (halone : ∀ x ∈ pick [] limit (selected i limit s), ∀ j, j ≠ i → x.1 ∉ (g j).inFlight)
    (hfly : γ.inFlight = (pick [] limit (selected i limit s)).map Prod.fst)
    (hdelivered : γ.delivered = (g i).delivered) :
    RelayInv R type (Function.update g i γ) (s.rewrite i (selectable i limit s) fun _ r => r) := by
  have hpicked : ∀ k ∈ γ.inFlight, k ∈ selectable i limit s ∧ ∀ j, k ∉ (g j).inFlight := by
    intro k hk
    rw [hfly] at hk
    obtain ⟨x, hx, rfl⟩ := List.mem_map.1 hk
    obtain ⟨l, hl, rfl⟩ := List.mem_map.1 (mem_pick hx).1
    refine ⟨hl, fun j => ?_⟩
    by_cases hj : j = i
    · rw [hj, hnone]
      exact List.not_mem_nil
    · exact halone _ hx j hj
  refine ⟨hinv.nodup, fun k hk => ?_, fun j k hk => ?_⟩
  · have hevent := hinv.events k hk
    have hupdated : EventOk R (type k) (Function.update g i γ) k (s.cell k) := by
      by_cases hmem : k ∈ γ.inFlight
      · obtain ⟨hselectable, hnobody⟩ := hpicked k hmem
        obtain ⟨-, hfree, hunrelayed⟩ := mem_selectable hselectable
        rw [Cell.seen_eq_newest hfree] at hunrelayed
        have hzero := hevent.idle hunrelayed hnobody
        have hcounts : ∀ j sink,
            (Function.update g i γ j).delivered.count (k, sink) = 0 := by
          intro j sink
          by_cases hj : j = i
          · subst hj
            rw [Function.update_self, hdelivered]
            exact hzero j sink
          · rw [Function.update_of_ne hj]
            exact hzero j sink
        refine ⟨hevent.row, hevent.newest, fun l hl => ⟨hunrelayed, fun j hj => ⟨?_, hcounts j⟩⟩,
          fun _ _ => hcounts, fun h => absurd hunrelayed h, fun j sink => ?_⟩
        · have hli : l = i := by
            by_contra hne
            rw [Function.update_of_ne hne] at hl
            exact hnobody l hl
          subst hli
          rw [Function.update_of_ne hj]
          exact hnobody j
        · rw [hcounts]
          exact Nat.zero_le _
      · refine hevent.same ?_ fun sink => by rw [hdelivered]
        rw [hnone]
        exact ⟨fun h => absurd h hmem, fun h => absurd h List.not_mem_nil⟩
    by_cases hselected : k ∈ selectable i limit s
    · rw [Table.cell_rewrite_mem hselected, Cell.seen_eq_newest (mem_selectable hselected).2.1]
      exact hupdated.cell hevent.row rfl
    · rw [Table.cell_rewrite_not hselected]
      exact hupdated
  · by_cases hj : j = i
    · subst hj
      rw [Function.update_self] at hk
      exact (mem_selectable (hpicked k hk).1).1
    · rw [Function.update_of_ne hj] at hk
      exact hinv.known j k hk

/-- A delivery of an event in flight, within what its sinks ask. -/
theorem RelayInv.handle (hinv : RelayInv R type g s) {sink : String} (hk : k ∈ (g i).inFlight)
    (hroom : (g i).delivered.count (k, sink) < (R.sinks (type k)).count sink)
    (hfly : γ.inFlight = (g i).inFlight) (hdelivered : γ.delivered = (g i).delivered ++ [(k, sink)]) :
    RelayInv R type (Function.update g i γ) s := by
  refine ⟨hinv.nodup, fun l hl => ?_, fun j l hl => ?_⟩
  · have hevent := hinv.events l hl
    by_cases hlk : l = k
    · subst hlk
      obtain ⟨hnone, hothers⟩ := hevent.flying i hk
      refine ⟨hevent.row, hevent.newest, fun j hj => ⟨hnone, ?_⟩, fun _ hall => ?_,
        fun h => absurd hnone h, fun j t => ?_⟩
      · have hji : j = i := by
          by_contra hne
          rw [Function.update_of_ne hne] at hj
          exact (hothers j hne).1 hj
        subst hji
        intro l' hl'
        rw [Function.update_of_ne hl']
        exact hothers l' hl'
      · have hi := hall i
        rw [Function.update_self, hfly] at hi
        exact absurd hk hi
      · by_cases hj : j = i
        · subst hj
          rw [Function.update_self, hdelivered, List.count_append]
          by_cases ht : t = sink
          · subst ht
            simpa using hroom
          · have hne : (l, sink) ≠ (l, t) := fun h => ht (Prod.mk.inj h).2.symm
            rw [List.count_singleton, if_neg (by simpa using hne.symm ∘ Eq.symm)]
            exact hevent.bound j t
        · rw [Function.update_of_ne hj]
          exact hevent.bound j t
    · refine hevent.same (by rw [hfly]) fun t => ?_
      have hne : (k, sink) ≠ (l, t) := fun h => hlk (Prod.mk.inj h).1.symm
      rw [hdelivered, List.count_append, List.count_singleton, if_neg (by simpa using hne), add_zero]
  · by_cases hj : j = i
    · subst hj
      rw [Function.update_self, hfly] at hl
      exact hinv.known j l hl
    · rw [Function.update_of_ne hj] at hl
      exact hinv.known j l hl

/-- An event that was delivered to all its sinks is marked. -/
theorem RelayInv.mark (hinv : RelayInv R type g s) (hfree : (s.cell k).Free i)
    (hk : k ∈ (g i).inFlight)
    (hall : ∀ sink, (g i).delivered.count (k, sink) = (R.sinks (type k)).count sink)
    (hfly : ∀ l, l ∈ γ.inFlight ↔ l ∈ (g i).inFlight ∧ l ≠ k)
    (hdelivered : γ.delivered = (g i).delivered) (relayedAt : String) :
    RelayInv R type (Function.update g i γ)
      (s.rewrite i [k] fun _ r => { r with relayedAt := some relayedAt }) := by
  refine ⟨hinv.nodup, fun l hl => ?_, fun j l hl => ?_⟩
  · have hevent := hinv.events l hl
    by_cases hlk : l = k
    · subst hlk
      obtain ⟨hnone, hothers⟩ := hevent.flying i hk
      have hnobody : ∀ j, l ∉ (Function.update g i γ j).inFlight := by
        intro j
        by_cases hj : j = i
        · subst hj
          rw [Function.update_self, hfly]
          exact fun h => h.2 rfl
        · rw [Function.update_of_ne hj]
          exact (hothers j hj).1
      have hcounts : ∀ j sink, (Function.update g i γ j).delivered.count (l, sink) =
          (g j).delivered.count (l, sink) := by
        intro j sink
        by_cases hj : j = i
        · subst hj
          rw [Function.update_self, hdelivered]
        · rw [Function.update_of_ne hj]
      rw [Table.cell_rewrite_mem (List.mem_singleton.2 rfl), Cell.seen_eq_newest hfree]
      refine ⟨hevent.row, hevent.newest, fun j hj => absurd hj (hnobody j), fun h => ?_,
        fun _ sink => ?_, fun j sink => ?_⟩
      · cases h
      · simp only [hcounts]
        rw [← hall sink]
        exact Finset.sum_eq_single i (fun j _ hj => (hothers j hj).2 sink)
          fun hi => absurd (Finset.mem_univ i) hi
      · rw [hcounts]
        exact hevent.bound j sink
    · rw [Table.cell_rewrite_not (by simpa using hlk)]
      refine hevent.same ?_ fun sink => by rw [hdelivered]
      rw [hfly]
      exact and_iff_left hlk
  · by_cases hj : j = i
    · subst hj
      rw [Function.update_self, hfly] at hl
      exact hinv.known j l hl.1
    · rw [Function.update_of_ne hj] at hl
      exact hinv.known j l hl

end Invariant

/-! ## Drains -/

section Drains

variable {ι : Type} [Fintype ι] [DecidableEq ι]

/-- The invariant; no statement waits, and a fetch takes nothing that is in flight elsewhere. -/
def relaySpec (ι : Type) [Fintype ι] [DecidableEq ι] (R : Routing) (type : String → String) :
    Spec ι (Call ι) Res String (Table ι String OutboxRow) Work where
  inv := RelayInv R type
  ok g s _ op := Granted s op ∧ Alone g s op
  prop g s _ op _ _ := MarksDelivered R g s op

variable {R : Routing} {type : String → String} {loads : String → Except String Json} {i : ι}
  {γ : Work}

/-- One call. -/
theorem call_outline {op : Call ι} {φ : Res op → Work → Prop}
    (h : ∀ g s now, g i = γ → RelayInv R type g s → Granted s op → Alone g s op →
      RelayInv R type (Function.update g i (γ.next op (exec now op s).1)) (exec now op s).2 ∧
        MarksDelivered R g s op ∧ φ (exec now op s).1 (γ.next op (exec now op s).1)) :
    Outline (relaySystem ι) (relaySpec ι R type) i (onOk φ) (call op) γ :=
  outline_perform fun g s now hg hinv hok => h g s now hg hinv hok.1 hok.2

/-- A call that changes nothing. -/
theorem quiet_outline {op : Call ι} (hexec : ∀ now s, (exec now op s).2 = s)
    (hnext : ∀ a, γ.next op a = γ)
    (hmarks : ∀ (g : ι → Work) s, MarksDelivered R g s op) :
    Outline (relaySystem ι) (relaySpec ι R type) i (onOk fun _ γ' => γ' = γ) (call op) γ := by
  refine call_outline fun g s now hg hinv _ _ => ⟨?_, hmarks g s, hnext _⟩
  rw [hexec, hnext, ← hg]
  exact hinv.quiet

/-- The end of a transaction. -/
theorem commit_outline : Outline (relaySystem ι) (relaySpec ι R type) i
    (onOk fun _ γ' => γ' = γ) (call (.commit i)) γ := by
  refine call_outline fun g s now hg hinv _ _ => ⟨?_, trivial, rfl⟩
  show RelayInv R type (Function.update g i γ) (s.commit i)
  rw [← hg, Function.update_eq_self]
  exact hinv.commit

/-- **What a process carries**: events in flight, none of them delivered. -/
structure Carrying (R : Routing) (type : String → String) (γ : Work)
    (events : List OutboxEvent) : Prop where
  inFlight : γ.inFlight = events.map (·.eventId)
  nodup : (events.map (·.eventId)).Nodup
  type : ∀ e ∈ events, e.type = type e.eventId
  undelivered : ∀ e ∈ events, ∀ sink, γ.delivered.count (e.eventId, sink) = 0

/-- What the loop over the sinks comes to. -/
structure Handled (R : Routing) (e : OutboxEvent) (γ γ' : Work) : Prop where
  inFlight : γ'.inFlight = γ.inFlight
  all : ∀ sink, γ'.delivered.count (e.eventId, sink) = (R.sinks e.type).count sink
  others : ∀ k, k ≠ e.eventId → ∀ sink, γ'.delivered.count (k, sink) = γ.delivered.count (k, sink)

/-- **The loop over the sinks.** -/
theorem handleAll_outline {e : OutboxEvent} (htype : e.type = type e.eventId)
    {before sinks : List String} (hsinks : R.sinks e.type = before ++ sinks)
    (hfly : e.eventId ∈ γ.inFlight)
    (hbefore : ∀ sink, γ.delivered.count (e.eventId, sink) = before.count sink) :
    Outline (relaySystem ι) (relaySpec ι R type) i
      (onOk fun b γ' => b = true ∧ Handled R e γ γ') (handleAll i e sinks) γ := by
  induction sinks generalizing γ before with
  | nil =>
    rw [List.append_nil] at hsinks
    exact ⟨rfl, rfl, fun sink => by rw [hbefore, hsinks], fun _ _ _ => rfl⟩
  | cons sink sinks ih =>
    have hsent : Outline (relaySystem ι) (relaySpec ι R type) i
        (fun r γ' => ∃ r', r = .ok r' ∧ r' = .ok () ∧
          γ' = { γ with delivered := γ.delivered ++ [(e.eventId, sink)] })
        (call (.handle i sink e)).attempt γ := by
      refine outline_attempt (outline_perform_eq fun g s now hg hinv _ => ?_)
      subst hg
      refine ⟨.ok (), s, _, rfl, rfl, hinv.handle hfly ?_ rfl rfl, trivial, rfl, rfl⟩
      rw [hbefore, ← htype, hsinks, List.count_append, List.count_cons_self]
      omega
    rw [handleAll]
    refine outline_bind hsent ?_ fun _ _ _ => trivial
    rintro sent γ₁ ⟨r, hr, rfl, hγ₁⟩
    obtain rfl : sent = .ok () := Except.ok.inj hr
    have hcount : ∀ k t, γ₁.delivered.count (k, t) =
        γ.delivered.count (k, t) + if (e.eventId, sink) = (k, t) then 1 else 0 := by
      intro k t
      rw [hγ₁, List.count_append, List.count_singleton]
      simp only [beq_iff_eq]
    refine outline_mono ?_ (ih (?_ : R.sinks e.type = (before ++ [sink]) ++ sinks) ?_ fun t => ?_)
    · rintro (x | b) γ₂
      · exact fun _ => trivial
      · rintro ⟨hb, hinFlight, hall, hothers⟩
        refine ⟨hb, hinFlight.trans (by rw [hγ₁]), hall, fun k hk t => ?_⟩
        rw [hothers k hk, hcount, if_neg fun h => hk (Prod.mk.inj h).1.symm, add_zero]
    · rw [hsinks, List.append_assoc, List.singleton_append]
    · rw [hγ₁]
      exact hfly
    · rw [hcount, hbefore, List.count_append, List.count_singleton]
      by_cases ht : sink = t
      · subst ht
        simp
      · simp [ht]

/-- **One event of the loop.** -/
theorem relayEvent_outline {e : OutboxEvent} {events : List OutboxEvent}
    (hcarry : Carrying R type γ (e :: events)) :
    Outline (relaySystem ι) (relaySpec ι R type) i
      (onOk fun r γ' => r.2 = events.map (·.eventId) ∧ Carrying R type γ' events)
      (relayEvent R i e ((e :: events).map (·.eventId))) γ := by
  obtain ⟨hinFlight, hnodup, htypes, hzero⟩ := hcarry
  have hfly : e.eventId ∈ γ.inFlight := by rw [hinFlight]; exact List.mem_cons_self
  have htype := htypes e List.mem_cons_self
  have hcons := List.nodup_cons.1 hnodup
  rw [relayEvent]
  refine outline_bind_ok (quiet_outline (fun _ _ => rfl) (fun _ => rfl) fun _ _ => trivial) ?_
  rintro (now : String) γ₁ hγ₁
  subst hγ₁
  refine outline_bind_ok (handleAll_outline htype (List.nil_append _).symm hfly fun sink => ?_) ?_
  · rw [hzero e List.mem_cons_self, List.count_nil]
  rintro delivered γ₂ ⟨rfl, hinFlight₂, hall, hothers⟩
  have herase : ((e :: events).map (·.eventId)).erase e.eventId = events.map (·.eventId) := by
    rw [List.map_cons, List.erase_cons_head]
  refine outline_bind_ok (φ := fun inFlight γ' => inFlight = events.map (·.eventId) ∧
    γ'.inFlight = events.map (·.eventId) ∧ γ'.delivered = γ₂.delivered) ?_ ?_
  · rw [markRelayed]
    refine outline_bind_ok (φ := fun _ γ' => γ'.inFlight = events.map (·.eventId) ∧
      γ'.delivered = γ₂.delivered) (call_outline fun g s now' hg hinv hgranted _ => ?_) ?_
    · subst hg
      have hmem : e.eventId ∈ (g i).inFlight := by rw [hinFlight₂]; exact hfly
      have herased : (g i).inFlight.erase e.eventId = events.map (·.eventId) := by
        rw [hinFlight₂, hinFlight, herase]
      refine ⟨?_, ?_, herased, rfl⟩
      · simp only [exec]
        refine hinv.mark hgranted hmem (fun sink => ?_) (fun l => ?_) ?_ now
        · rw [hall, htype]
        · show l ∈ (g i).inFlight.erase e.eventId ↔ _
          rw [herased, hinFlight₂, hinFlight, List.map_cons, List.mem_cons]
          constructor
          · intro hl
            refine ⟨.inr hl, ?_⟩
            rintro rfl
            exact hcons.1 hl
          · rintro ⟨rfl | hl, hne⟩
            · exact absurd rfl hne
            · exact hl
        · rfl
      · intro sink hsink
        rw [(hinv.events _ (hinv.known i _ hmem)).row, ← htype] at hsink
        refine List.count_pos_iff.1 ?_
        rw [hall]
        exact List.count_pos_iff.2 hsink
    · rintro _ γ₃ ⟨hinFlight₃, hdelivered₃⟩
      refine outline_bind_ok commit_outline ?_
      rintro _ γ₄ rfl
      exact ⟨herase, hinFlight₃, hdelivered₃⟩
  · rintro inFlight γ₃ ⟨rfl, hinFlight₃, hdelivered₃⟩
    refine ⟨rfl, hinFlight₃, hcons.2, fun x hx => htypes x (List.mem_cons_of_mem _ hx),
      fun x hx sink => ?_⟩
    have hne : x.eventId ≠ e.eventId := fun h => hcons.1 (List.mem_map.2 ⟨x, hx, h⟩)
    rw [hdelivered₃, hothers _ hne]
    exact hzero x (List.mem_cons_of_mem _ hx) sink

/-- The loop over the events. -/
theorem relayAll_outline {events : List OutboxEvent} (hcarry : Carrying R type γ events)
    (drained : ℕ) :
    Outline (relaySystem ι) (relaySpec ι R type) i
      (onOk fun r γ' => r.2 = [] ∧ γ'.inFlight = [])
      (relayAll R i events (events.map (·.eventId)) drained) γ := by
  induction events generalizing γ drained with
  | nil => exact ⟨rfl, hcarry.inFlight⟩
  | cons e events ih =>
    rw [relayAll]
    refine outline_bind_ok (relayEvent_outline hcarry) ?_
    rintro ⟨b, inFlight⟩ γ₁ ⟨rfl, hcarry₁⟩
    exact ih hcarry₁ _

/-- The events of rows that are read. -/
theorem ids_of_mapM {rows : List (String × OutboxRow)} {events : List OutboxEvent}
    (h : rows.mapM (eventOf loads) = .ok events) :
    events.map (·.eventId) = rows.map Prod.fst ∧
      ∀ e ∈ events, ∃ x ∈ rows, e.eventId = x.1 ∧ e.type = x.2.type := by
  induction rows generalizing events with
  | nil =>
    cases h
    exact ⟨rfl, fun e he => by cases he⟩
  | cons x rows ih =>
    rw [List.mapM_cons] at h
    cases hx : eventOf loads x with
    | error error =>
      rw [hx] at h
      cases h
    | ok e =>
      cases hrows : rows.mapM (eventOf loads) with
      | error error =>
        rw [hx, hrows] at h
        cases h
      | ok es =>
        rw [hx, hrows] at h
        cases h
        obtain ⟨payload, -, rfl⟩ : ∃ payload, loads x.2.payload = .ok payload ∧
            OutboxEvent.mk x.2.seq x.1 x.2.type x.2.aggregateId payload x.2.createdAt = e := by
          rw [eventOf] at hx
          cases hload : loads x.2.payload with
          | error error =>
            rw [hload] at hx
            cases hx
          | ok payload =>
            rw [hload] at hx
            exact ⟨payload, rfl, Except.ok.inj hx⟩
        obtain ⟨hids, hof⟩ := ih hrows
        refine ⟨by rw [List.map_cons, List.map_cons, hids], ?_⟩
        rw [List.forall_mem_cons]
        refine ⟨⟨x, List.mem_cons_self, rfl, rfl⟩, fun e he => ?_⟩
        obtain ⟨y, hy, hid, htype⟩ := hof e he
        exact ⟨y, List.mem_cons_of_mem _ hy, hid, htype⟩

/-- **A drain** that fetches nothing in flight elsewhere. -/
theorem drain_outline (limit : ℕ) (hnone : γ.inFlight = []) :
    Outline (relaySystem ι) (relaySpec ι R type) i
      (onOk fun r γ' => r.2 = [] ∧ γ'.inFlight = []) (drain R loads i limit []) γ := by
  have hfetch : Outline (relaySystem ι) (relaySpec ι R type) i
      (onOk fun r γ' => r.2 = r.1.map (·.eventId) ∧ Carrying R type γ' r.1)
      (fetchUnrelayed loads i limit []) γ := by
    rw [fetchUnrelayed]
    refine outline_bind_ok (φ := fun (rows : List (String × OutboxRow)) γ' =>
      γ'.inFlight = (pick [] limit rows).map Prod.fst ∧
        ((pick [] limit rows).map Prod.fst).Nodup ∧ ∀ x ∈ pick [] limit rows,
          x.2.type = type x.1 ∧ ∀ sink, γ'.delivered.count (x.1, sink) = 0)
      (call_outline fun g s now hg hinv _ halone => ?_) ?_
    · subst hg
      have hnodup : ((pick [] limit (selected i limit s)).map Prod.fst).Nodup := by
        refine List.Nodup.sublist ((pick_sublist [] limit _).map Prod.fst) ?_
        rw [selected, List.map_map]
        have hid : (Prod.fst ∘ fun k => (k, (s.cell k).seen i)) = (id : String → String) := rfl
        rw [hid, List.map_id]
        exact ((hinv.nodup.filter _).filter _).take
      refine ⟨?_, trivial, ?_, hnodup, fun x hx => ?_⟩
      · have hpicked : ∀ x ∈ pick [] limit (selected i limit s), ∀ j, j ≠ i →
            x.1 ∉ (g j).inFlight := halone
        refine hinv.fetch hnone hpicked ?_ rfl
        show (g i).inFlight ++ _ = _
        rw [hnone, List.nil_append]
        rfl
      · show (g i).inFlight ++ _ = _
        rw [hnone, List.nil_append]
      · obtain ⟨l, hl, rfl⟩ := List.mem_map.1 (mem_pick hx).1
        obtain ⟨hkey, hfree, hunrelayed⟩ := mem_selectable hl
        have hevent := hinv.events l hkey
        rw [Cell.seen_eq_newest hfree] at hunrelayed
        refine ⟨?_, fun sink => hevent.idle hunrelayed (fun j => ?_) i sink⟩
        · show ((s.cell l).seen i).type = type l
          rw [Cell.seen_eq_newest hfree]
          exact hevent.newest
        · by_cases hj : j = i
          · rw [hj, hnone]
            exact List.not_mem_nil
          · exact halone _ hx j hj
    · rintro (rows : List (String × OutboxRow)) γ₁ ⟨hfly, hnodup, hrows⟩
      refine outline_bind_ok commit_outline ?_
      rintro _ γ₂ rfl
      cases hevents : (pick [] limit rows).mapM (eventOf loads) with
      | error x => exact trivial
      | ok events =>
        obtain ⟨hids, hof⟩ := ids_of_mapM hevents
        refine ⟨?_, ?_, ?_, fun e he => ?_, fun e he sink => ?_⟩
        · rw [hids]
          rfl
        · rw [hfly, hids]
        · rw [hids]
          exact hnodup
        · obtain ⟨x, hx, hid, htype⟩ := hof e he
          rw [hid, htype]
          exact (hrows x hx).1
        · obtain ⟨x, hx, hid, -⟩ := hof e he
          rw [hid]
          exact (hrows x hx).2 sink
  rw [drain]
  refine outline_bind_ok hfetch ?_
  rintro ⟨events, inFlight⟩ γ₁ ⟨hinFlight, hcarry⟩
  simp only at hinFlight hcarry ⊢
  rw [hinFlight]
  exact relayAll_outline hcarry 0

/-- The drains of a process. -/
theorem drains_outline (limits : List ℕ) (hnone : γ.inFlight = []) :
    Outline (relaySystem ι) (relaySpec ι R type) i (onOk fun _ _ => True)
      (drains R loads i limits []) γ := by
  induction limits generalizing γ with
  | nil => exact trivial
  | cons limit limits ih =>
    rw [drains]
    refine outline_bind_ok (drain_outline limit hnone) ?_
    rintro ⟨n, inFlight⟩ γ₁ ⟨rfl, hnone₁⟩
    exact outline_bind_ok (ih hnone₁) fun _ _ _ => trivial

/-! ## Runs -/

/-- **What a run of the processes comes to**: no event reaches a sink more often than its sinks
ask, and none is marked before it was delivered to all of them. -/
structure RelayedOnce (R : Routing) (c : Relays ι) (xs : List (ι × String)) : Prop where
  once : ∀ k ∈ c.shared.keys, ∀ sink,
    ∑ j, (((relaySystem ι).run c xs).hist j).delivered.count (k, sink) ≤
      (R.sinks (c.shared.cell k).row.type).count sink
  marked : (relaySystem ι).Along (MarksAfter R) c xs

omit [Fintype ι] in
/-- The rows stay the same ones. -/
theorem keys_run (c : Relays ι) (xs : List (ι × String)) :
    ((relaySystem ι).run c xs).shared.keys = c.shared.keys := by
  induction xs generalizing c with
  | nil => rfl
  | cons x xs ih =>
    rw [System.run_cons, ih, System.step]
    cases c.prog x.1 with
    | ret a => rfl
    | raise e => rfl
    | call op next => cases op <;> rfl

theorem relayStart_outlined {keys : List String} (hkeys : keys.Nodup) (row : String → OutboxRow)
    (limits : ι → List ℕ) : Outlined (relaySystem ι) (relaySpec ι R fun k => (row k).type)
      (fun _ => onOk fun _ _ => True) (relayStart R loads keys row limits) := by
  refine ⟨⟨hkeys, fun k _ => ⟨rfl, rfl, fun i hi => ?_, fun _ _ _ _ => rfl, fun h => ?_,
    fun _ _ => Nat.zero_le _⟩, fun i k hk => ?_⟩, fun i => drains_outline (limits i) rfl⟩
  · exact absurd hi List.not_mem_nil
  · exact absurd rfl h
  · exact absurd hk List.not_mem_nil

/-- **Exactly once**, where no fetch takes what another process has in flight. -/
theorem relays_once (R : Routing) (loads : String → Except String Json) {keys : List String}
    (hkeys : keys.Nodup) (row : String → OutboxRow) (limits : ι → List ℕ)
    (xs : List (ι × String)) (hruns : (relaySystem ι).Along Runs (relayStart R loads keys row limits) xs)
    (halone : (relaySystem ι).Along FetchesAlone (relayStart R loads keys row limits) xs) :
    RelayedOnce R (relayStart R loads keys row limits) xs := by
  have hok : (relaySystem ι).Along (relaySpec ι R fun k => (row k).type).Ok
      (relayStart R loads keys row limits) xs :=
    System.along_mono _ (fun c i e h op hop => ⟨h.1 op hop, h.2 op hop⟩)
      (System.along_and _ hruns halone)
  obtain ⟨hprop, hinv, -⟩ := outline_run (relayStart_outlined hkeys row limits) hok
  refine ⟨fun k hk sink => ?_, hprop⟩
  refine (hinv.events k ?_).once sink
  rw [keys_run]
  exact hk

/-- Two processes, one after the other. -/
theorem relays_once_turns :
    RelayedOnce ⟨fun _ => none, ["log"]⟩
      (relayStart ⟨fun _ => none, ["log"]⟩ (fun _ => .ok .null) ["evt_1"]
        (fun _ => ⟨1, "purchase.verified", "pur_1", "{}", "", none⟩) fun _ : Bool => [10])
      [(true, ""), (true, ""), (true, "now"), (true, ""), (true, ""), (true, ""), (false, ""),
        (false, "")] :=
  relays_once _ _ (by decide) _ _ _ (by decide +kernel) (by decide +kernel)

/-- **Twice**: the second process fetches the event after the first has ended the transaction of
its fetch, and before it marks the event. -/
theorem relays_twice :
    (relaySystem Bool).Along Runs
      (relayStart ⟨fun _ => none, ["log"]⟩ (fun _ => .ok .null) ["evt_1"]
        (fun _ => ⟨1, "purchase.verified", "pur_1", "{}", "", none⟩) fun _ : Bool => [10])
      [(true, ""), (true, ""), (false, ""), (false, ""), (true, "now"), (true, ""), (false, "now"),
        (false, "")] ∧
    ¬ RelayedOnce ⟨fun _ => none, ["log"]⟩
      (relayStart ⟨fun _ => none, ["log"]⟩ (fun _ => .ok .null) ["evt_1"]
        (fun _ => ⟨1, "purchase.verified", "pur_1", "{}", "", none⟩) fun _ : Bool => [10])
      [(true, ""), (true, ""), (false, ""), (false, ""), (true, "now"), (true, ""), (false, "now"),
        (false, "")] := by
  refine ⟨by decide +kernel, fun h => ?_⟩
  have honce := h.once "evt_1" (by decide) "log"
  revert honce
  decide +kernel

end Drains

end TryTrust.Api.Relay
