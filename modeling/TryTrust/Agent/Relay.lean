import TryTrust.Conc.Cell
import TryTrust.Conc.Pool
import TryTrust.Json

/-!
# The relay of the agent lane

Any number of workers drain one outbox, pass after pass: each claims a slice under row locks,
delivers it, and marks it in the transaction that holds the claim.

* `OutboxRow`, `Call`, `exec`, `sem`; `drain`, `passes`;
* `Work`, what a worker has done; `relaySystem`, `relayStart`;
* `CellOk`, `RelayInv`; `drain_outline`: a drain keeps the invariant;
* **`drains_sound`**: no marked row is delivered again, attempts stay within the maximum, a row is
  given up after as many failed attempts, and what a drain claims it delivers or fails.
-/

namespace TryTrust.Agent.Relay

open Conc

/-! ## The drain -/

/-- A row of `outbox`; its key is `seq`. -/
structure OutboxRow where
  eventId : String
  type : String
  aggregateId : String
  payload : String
  createdAt : String
  relayedAt : Option String := none
  attempts : ℕ := 0
  lastError : Option String := none
  deriving DecidableEq

/-- What a subscriber receives. -/
structure Event where
  eventId : String
  type : String
  aggregateId : String
  payload : Json
  createdAt : String
  seq : ℕ

/-- A call of a worker. -/
inductive Call (ι : Type) where
  | begin (i : ι)
  /-- `SELECT … FOR UPDATE SKIP LOCKED LIMIT`. -/
  | claimRows (i : ι) (maxAttempts batch : ℕ)
  /-- `list(SUBSCRIBERS.values())`. -/
  | subscribers (i : ι)
  | onEvent (i : ι) (subscriber : String) (event : Event)
  | nowIso (i : ι)
  | updateFailed (i : ι) (seq attempts : ℕ) (lastError : String)
  | updateRelayed (i : ι) (seq : ℕ) (relayedAt : String) (attempts : ℕ)
  | commit (i : ι)
  | rollback (i : ι)

/-- The answer of a call. -/
def Res {ι : Type} : Call ι → Type
  | .claimRows .. => List (ℕ × OutboxRow)
  | .subscribers _ => List String
  | .nowIso _ => String
  | _ => Unit

/-- What is outside: the exception that the call raises, the rows that were inserted so far, the
worker's registry, and its clock. -/
structure Env where
  raises : Option String := none
  inserted : ℕ → Bool := fun _ => true
  subscribers : List String := []
  now : String := ""

/-- A program of a worker; exceptions are texts. -/
abbrev Tx (ι α : Type) : Type := Prog (Call ι) Res String α

section Drain

variable {ι : Type} [DecidableEq ι]

/-- The rows that a claim takes, `ORDER BY seq`; locked ones are skipped. -/
def claimable (e : Env) (i : ι) (maxAttempts batch : ℕ) (s : Table ι ℕ OutboxRow) : List ℕ :=
  ((s.matching i fun k r => e.inserted k && r.relayedAt.isNone && decide (r.attempts < maxAttempts)
    ).filter fun k => (s.cell k).Free i).take batch

/-- What a call does when it does not raise. -/
def exec (e : Env) : (op : Call ι) → Table ι ℕ OutboxRow → Res op × Table ι ℕ OutboxRow
  | .begin _, s => ((), s)
  | .claimRows i maxAttempts batch, s =>
    ((claimable e i maxAttempts batch s).map fun k => (k, (s.cell k).seen i),
      s.rewrite i (claimable e i maxAttempts batch s) fun _ r => r)
  | .subscribers _, s => (e.subscribers, s)
  | .onEvent _ _ _, s => ((), s)
  | .nowIso _, s => (e.now, s)
  | .updateFailed i seq attempts lastError, s =>
    ((), s.rewrite i [seq] fun _ r => { r with attempts := attempts, lastError := some lastError })
  | .updateRelayed i seq relayedAt attempts, s =>
    ((), s.rewrite i [seq] fun _ r => { r with relayedAt := some relayedAt, attempts := attempts })
  | .commit i, s => ((), s.commit i)
  | .rollback i, s => ((), s.rollback i)

/-- **One call**: it raises without an effect, or runs. -/
def sem (e : Env) (op : Call ι) (s : Table ι ℕ OutboxRow) :
    Except String (Res op) × Table ι ℕ OutboxRow :=
  match e.raises with
  | some x => (.error x, s)
  | none => (.ok (exec e op s).1, (exec e op s).2)

/-- One call of a program. -/
def call (op : Call ι) : Tx ι (Res op) := Prog.perform op

/-- The loop over the subscribers: the errors of those that raise. -/
def onEvents (i : ι) (event : Event) : List String → Tx ι (List String)
  | [] => pure []
  | subscriber :: rest => do
    let sent : Except String Unit ← (call (.onEvent i subscriber event)).attempt
    let errors ← onEvents i event rest
    pure (match sent with
      | .ok () => errors
      | .error x => (subscriber ++ ": " ++ x) :: errors)

/-- The counters of a drain. -/
structure Tally where
  delivered : ℕ := 0
  failed : ℕ := 0
  dead : ℕ := 0
  deriving DecidableEq

/-- `"; ".join(errors)[:500]`. -/
def joined (errors : List String) : String :=
  String.ofList (("; ".intercalate errors).toList.take 500)

/-- A row whose delivery failed. -/
def markFailed (maxAttempts : ℕ) (i : ι) (x : ℕ × OutboxRow) (errors : List String) (t : Tally) :
    Tx ι Tally := do
  let attempts := x.2.attempts + 1
  call (.updateFailed i x.1 attempts (joined errors))
  pure {
    t with failed := t.failed + 1, dead := if attempts ≥ maxAttempts then t.dead + 1 else t.dead }

/-- A row that was delivered. -/
def markRelayed (i : ι) (x : ℕ × OutboxRow) (t : Tally) : Tx ι Tally := do
  let now : String ← call (.nowIso i)
  call (.updateRelayed i x.1 now (x.2.attempts + 1))
  pure { t with delivered := t.delivered + 1 }

/-- The event of a row. -/
def eventOf (x : ℕ × OutboxRow) (payload : Json) : Event :=
  ⟨x.2.eventId, x.2.type, x.2.aggregateId, payload, x.2.createdAt, x.1⟩

/-- One row of the loop; `loads` reads its payload. -/
def settle (maxAttempts : ℕ) (loads : String → Except String Json) (i : ι) (x : ℕ × OutboxRow)
    (t : Tally) : Tx ι Tally :=
  match loads x.2.payload with
  | .error e => .raise e
  | .ok payload => do
    let subscribers : List String ← call (.subscribers i)
    let errors ← onEvents i (eventOf x payload) subscribers
    match errors with
    | [] => markRelayed i x t
    | _ :: _ => markFailed maxAttempts i x errors t

/-- The loop over the claimed rows. -/
def settleAll (maxAttempts : ℕ) (loads : String → Except String Json) (i : ι) :
    List (ℕ × OutboxRow) → Tally → Tx ι Tally
  | [], t => pure t
  | x :: rows, t => do
    let t ← settle maxAttempts loads i x t
    settleAll maxAttempts loads i rows t

/-- What a drain reports. -/
structure Drained where
  claimed : ℕ
  tally : Tally
  deriving DecidableEq

/-- The body of the `try` of `drain`. -/
def drainBody (maxAttempts : ℕ) (loads : String → Except String Json) (i : ι) (batch : ℕ) :
    Tx ι Drained := do
  let rows : List (ℕ × OutboxRow) ← call (.claimRows i maxAttempts batch)
  let t ← settleAll maxAttempts loads i rows {}
  call (.commit i)
  pure ⟨rows.length, t⟩

/-- `drain`. -/
def drain (maxAttempts : ℕ) (loads : String → Except String Json) (i : ι) (batch : ℕ) :
    Tx ι Drained := do
  call (.begin i)
  let body : Except String Drained ← (drainBody maxAttempts loads i batch).attempt
  match body with
  | .ok d => pure d
  | .error x => do
    call (.rollback i)
    .raise x

/-- `run_forever`, with the batches of its passes; it returns what they report. -/
def passes (maxAttempts : ℕ) (loads : String → Except String Json) (i : ι) :
    List ℕ → Tx ι (List Drained)
  | [] => pure []
  | batch :: batches => do
    let d ← drain maxAttempts loads i batch
    let ds ← passes maxAttempts loads i batches
    pure (d :: ds)

end Drain

/-! ## The system -/

/-- What a worker has done. -/
structure Work where
  /-- The rows of the open claim that are still to be settled. -/
  due : List (ℕ × OutboxRow) := []
  /-- Whether a delivery of the present attempt raised. -/
  raised : Bool := false
  /-- The attempts at a row in which a delivery raised. -/
  failures : ℕ → ℕ := fun _ => 0
  /-- How often it marked a row relayed. -/
  marks : ℕ → ℕ := fun _ => 0
  /-- The sizes of its claims. -/
  claims : List ℕ := []

namespace Work

/-- The row of a key is settled. -/
def settled (γ : Work) (seq : ℕ) : Work := { γ with due := γ.due.filter fun x => x.1 ≠ seq }

/-- After an answer. -/
def next (γ : Work) : {ι : Type} → (op : Call ι) → Res op → Work
  | _, .claimRows .., (rows : List (ℕ × OutboxRow)) =>
    { γ with due := rows, claims := γ.claims ++ [rows.length] }
  | _, .subscribers _, _ => { γ with raised := false }
  | _, .updateFailed _ seq _ _, _ =>
    { γ.settled seq with
      failures := Function.update γ.failures seq (γ.failures seq + if γ.raised then 1 else 0) }
  | _, .updateRelayed _ seq _ _, _ =>
    { γ.settled seq with marks := Function.update γ.marks seq (γ.marks seq + 1) }
  | _, .commit _, _ => { γ with due := [] }
  | _, _, _ => γ

/-- After an exception. -/
def caught (γ : Work) {ι : Type} : Call ι → Work
  | .onEvent .. => { γ with raised := true }
  | _ => γ

end Work

section System

variable (ι : Type) [DecidableEq ι]

/-- The workers. -/
def relaySystem : System ι (Call ι) Res String (Table ι ℕ OutboxRow) Work Env where
  sem := sem
  adv _ γ _ op r := match r with
    | .ok a => γ.next op a
    | .error _ => γ.caught op

variable {ι}

/-- The start: rows that nobody has tried, and each worker before its passes. -/
def relayStart (maxAttempts : ℕ) (loads : String → Except String Json) (keys : List ℕ)
    (row : ℕ → OutboxRow) (batches : ι → List ℕ) :
    Config ι (Call ι) Res String (List Drained) (Table ι ℕ OutboxRow) Work where
  shared := ⟨keys, fun k => ⟨{ row k with relayedAt := none, attempts := 0 }, none⟩⟩
  prog i := passes maxAttempts loads i (batches i)
  hist _ := {}

/-- A call that does not wait for a lock. -/
def Granted (s : Table ι ℕ OutboxRow) : Call ι → Prop
  | .updateFailed i seq .. => (s.cell seq).Free i
  | .updateRelayed i seq .. => (s.cell seq).Free i
  | _ => True

instance (s : Table ι ℕ OutboxRow) (op : Call ι) : Decidable (Granted s op) := by
  cases op <;> unfold Granted <;> infer_instance

/-- A call that is no rollback. -/
def Keeps : Call ι → Prop
  | .rollback _ => False
  | _ => True

instance (op : Call ι) : Decidable (Keeps op) := by
  cases op <;> unfold Keeps <;> infer_instance

/-- The configurations of the workers. -/
abbrev Relays (ι : Type) : Type :=
  Config ι (Call ι) Res String (List Drained) (Table ι ℕ OutboxRow) Work

/-- A step that waits for no lock, in a run without rollbacks. -/
def Runs (c : Relays ι) (i : ι) (_ : Env) : Prop :=
  ∀ op ∈ (c.prog i).next, Granted c.shared op ∧ Keeps op

instance (c : Relays ι) (i : ι) (e : Env) : Decidable (Runs c i e) :=
  inferInstanceAs (Decidable (∀ op ∈ (c.prog i).next, Granted c.shared op ∧ Keeps op))

/-- The event of a delivery was not marked relayed, in any version of its row or by anybody. -/
def Unmarked (g : ι → Work) (s : Table ι ℕ OutboxRow) : Call ι → Prop
  | .onEvent _ _ event => (s.cell event.seq).row.relayedAt = none ∧
      (s.cell event.seq).newest.relayedAt = none ∧ ∀ j, (g j).marks event.seq = 0
  | _ => True

/-- A step that delivers nothing that was marked relayed. -/
def DeliversUnmarked (c : Relays ι) (i : ι) (_ : Env) : Prop :=
  ∀ op ∈ (c.prog i).next, Unmarked c.hist c.shared op

end System

/-! ## The invariant -/

section Invariant

variable {ι : Type} [Fintype ι]

/-- The failed attempts at a row. -/
def failures (g : ι → Work) (k : ℕ) : ℕ := ∑ j, (g j).failures k

/-- How often a row was marked. -/
def marks (g : ι → Work) (k : ℕ) : ℕ := ∑ j, (g j).marks k

/-- **A row in good order**, after `F` failed attempts and `R` marks. -/
structure CellOk (maxAttempts F R : ℕ) (c : Cell ι OutboxRow) : Prop where
  count : c.newest.attempts = F + R
  bound : c.newest.attempts ≤ maxAttempts
  marked : R = if c.newest.relayedAt = none then 0 else 1
  /-- Only a row that is due is held. -/
  due : ∀ h ∈ c.held, c.row.relayedAt = none ∧ c.row.attempts < maxAttempts

/-- A claimed row that is still to be settled. -/
structure Due (maxAttempts : ℕ) (i : ι) (s : Table ι ℕ OutboxRow) (x : ℕ × OutboxRow) : Prop where
  known : x.1 ∈ s.keys
  held : (s.cell x.1).held = some (i, x.2)
  unmarked : x.2.relayedAt = none
  attempts : x.2.attempts < maxAttempts

/-- **The invariant** of the outbox and the workers. -/
structure RelayInv (maxAttempts : ℕ) (g : ι → Work) (s : Table ι ℕ OutboxRow) : Prop where
  nodup : s.keys.Nodup
  cells : ∀ k ∈ s.keys, CellOk maxAttempts (failures g k) (marks g k) (s.cell k)
  own : ∀ i, ∀ x ∈ (g i).due, Due maxAttempts i s x

variable [DecidableEq ι] {maxAttempts : ℕ} {g : ι → Work} {s s' : Table ι ℕ OutboxRow} {i : ι}
  {γ : Work}

theorem failures_update (k : ℕ) :
    failures (Function.update g i γ) k + (g i).failures k = failures g k + γ.failures k :=
  sum_update_add (fun γ : Work => γ.failures k) g i γ

theorem marks_update (k : ℕ) :
    marks (Function.update g i γ) k + (g i).marks k = marks g k + γ.marks k :=
  sum_update_add (fun γ : Work => γ.marks k) g i γ

theorem failures_update_eq {k : ℕ} (h : γ.failures k = (g i).failures k) :
    failures (Function.update g i γ) k = failures g k := by
  have hsum := failures_update (g := g) (i := i) (γ := γ) k
  omega

theorem marks_update_eq {k : ℕ} (h : γ.marks k = (g i).marks k) :
    marks (Function.update g i γ) k = marks g k := by
  have hsum := marks_update (g := g) (i := i) (γ := γ) k
  omega

/-- What a call of one worker has to keep: its cells, its due rows, the rows of the others. -/
theorem RelayInv.change (hinv : RelayInv maxAttempts g s) (hkeys : s'.keys = s.keys)
    (hcells : ∀ k ∈ s.keys, CellOk maxAttempts (failures (Function.update g i γ) k)
      (marks (Function.update g i γ) k) (s'.cell k))
    (hown : ∀ x ∈ γ.due, Due maxAttempts i s' x)
    (hothers : ∀ j, j ≠ i → ∀ k v, (s.cell k).held = some (j, v) →
      (s'.cell k).held = some (j, v)) :
    RelayInv maxAttempts (Function.update g i γ) s' := by
  refine ⟨?_, ?_, fun j x hx => ?_⟩
  · rw [hkeys]
    exact hinv.nodup
  · rw [hkeys]
    exact hcells
  · by_cases hj : j = i
    · subst hj
      rw [Function.update_self] at hx
      exact hown x hx
    · rw [Function.update_of_ne hj] at hx
      obtain ⟨hknown, hheld, hunmarked, hattempts⟩ := hinv.own j x hx
      refine ⟨?_, hothers j hj _ _ hheld, hunmarked, hattempts⟩
      rw [hkeys]
      exact hknown

/-- A call that settles nothing and leaves the table alone. -/
theorem RelayInv.quiet (hinv : RelayInv maxAttempts g s) (hdue : γ.due = (g i).due)
    (hfailures : γ.failures = (g i).failures) (hmarks : γ.marks = (g i).marks) :
    RelayInv maxAttempts (Function.update g i γ) s := by
  refine hinv.change rfl (fun k hk => ?_) (fun x hx => ?_) fun _ _ _ _ h => h
  · rw [failures_update_eq (congrFun hfailures k), marks_update_eq (congrFun hmarks k)]
    exact hinv.cells k hk
  · rw [hdue] at hx
    exact hinv.own i x hx

/-- A claim. -/
theorem RelayInv.claim (hinv : RelayInv maxAttempts g s) (e : Env) (batch : ℕ)
    (hdue : ∀ x, x ∈ γ.due ↔ ∃ k ∈ claimable e i maxAttempts batch s, x = (k, (s.cell k).seen i))
    (hfailures : γ.failures = (g i).failures) (hmarks : γ.marks = (g i).marks) :
    RelayInv maxAttempts (Function.update g i γ)
      (s.rewrite i (claimable e i maxAttempts batch s) fun _ r => r) := by
  have hmem : ∀ k ∈ claimable e i maxAttempts batch s, k ∈ s.keys ∧ (s.cell k).Free i ∧
      ((s.cell k).seen i).relayedAt = none ∧ ((s.cell k).seen i).attempts < maxAttempts := by
    intro k hk
    have hfilter := List.mem_filter.1 (List.mem_of_mem_take hk)
    obtain ⟨hkey, hp⟩ := Table.mem_matching.1 hfilter.1
    simp only [Bool.and_eq_true, Option.isNone_iff_eq_none, decide_eq_true_eq] at hp
    exact ⟨hkey, by simpa using hfilter.2, hp.1.2, hp.2⟩
  refine hinv.change rfl (fun k hk => ?_) (fun x hx => ?_) fun j hj k v hv => ?_
  · rw [failures_update_eq (congrFun hfailures k), marks_update_eq (congrFun hmarks k)]
    obtain ⟨hcount, hbound, hmarked, hheld⟩ := hinv.cells k hk
    by_cases hclaimed : k ∈ claimable e i maxAttempts batch s
    · obtain ⟨-, hfree, hunmarked, hattempts⟩ := hmem k hclaimed
      rw [Table.cell_rewrite_mem hclaimed, Cell.seen_eq_newest hfree]
      refine ⟨hcount, hbound, hmarked, fun h _ => ?_⟩
      cases hc : (s.cell k).held with
      | none =>
        rw [Cell.seen_of_none hc] at hunmarked hattempts
        exact ⟨hunmarked, hattempts⟩
      | some w => exact hheld w hc
    · rw [Table.cell_rewrite_not hclaimed]
      exact ⟨hcount, hbound, hmarked, hheld⟩
  · obtain ⟨k, hk, rfl⟩ := (hdue x).1 hx
    obtain ⟨hkey, -, hunmarked, hattempts⟩ := hmem k hk
    refine ⟨hkey, ?_, hunmarked, hattempts⟩
    rw [Table.cell_rewrite_mem hk]
    rfl
  · by_cases hclaimed : k ∈ claimable e i maxAttempts batch s
    · exact absurd (hmem k hclaimed).2.1 (Cell.not_free_of_held hv hj)
    · rw [Table.cell_rewrite_not hclaimed]
      exact hv

/-- The end of a drain. -/
theorem RelayInv.commit (hinv : RelayInv maxAttempts g s) (hdue : γ.due = [])
    (hfailures : γ.failures = (g i).failures) (hmarks : γ.marks = (g i).marks) :
    RelayInv maxAttempts (Function.update g i γ) (s.commit i) := by
  refine hinv.change rfl (fun k hk => ?_) (fun x hx => ?_) fun j hj k v hv => ?_
  · rw [failures_update_eq (congrFun hfailures k), marks_update_eq (congrFun hmarks k)]
    obtain ⟨hcount, hbound, hmarked, hheld⟩ := hinv.cells k hk
    rw [Table.cell_commit]
    refine ⟨?_, ?_, ?_, fun h hh => ?_⟩
    · rwa [Cell.newest_commit]
    · rwa [Cell.newest_commit]
    · rwa [Cell.newest_commit]
    · rcases (s.cell k).held_or_not i with ⟨v, hv⟩ | hnot
      · rw [Cell.commit_of_held hv] at hh
        cases hh
      · rw [Cell.commit_of_not hnot] at hh ⊢
        exact hheld h hh
  · rw [hdue] at hx
    cases hx
  · exact Cell.held_commit_ne hj hv

omit [DecidableEq ι] in
/-- The row that a worker settles next: what its cell is. -/
theorem RelayInv.head (hinv : RelayInv maxAttempts g s) {x : ℕ × OutboxRow}
    (hx : x ∈ (g i).due) : (s.cell x.1).newest = x.2 ∧ (s.cell x.1).row.relayedAt = none ∧
      failures g x.1 = x.2.attempts ∧ marks g x.1 = 0 := by
  obtain ⟨hknown, hheld, hunmarked, -⟩ := hinv.own i x hx
  obtain ⟨hcount, -, hmarked, hopen⟩ := hinv.cells x.1 hknown
  have hnewest := Cell.newest_of_held hheld
  rw [hnewest] at hcount hmarked
  rw [if_pos hunmarked] at hmarked
  exact ⟨hnewest, (hopen _ hheld).1, by omega, hmarked⟩

/-- A row is settled: it failed once more, or is marked. -/
theorem RelayInv.settle (hinv : RelayInv maxAttempts g s) {x : ℕ × OutboxRow}
    {rows : List (ℕ × OutboxRow)} (hx : (g i).due = x :: rows)
    (hnodup : ((x :: rows).map Prod.fst).Nodup) (hdue : γ.due = rows)
    {f : ℕ → OutboxRow → OutboxRow} (hattempts : (f x.1 x.2).attempts = x.2.attempts + 1)
    {F R : ℕ} (hFR : F + R = 1) (hmarked : R = if (f x.1 x.2).relayedAt = none then 0 else 1)
    (hfailures : γ.failures = Function.update (g i).failures x.1 ((g i).failures x.1 + F))
    (hmarks : γ.marks = Function.update (g i).marks x.1 ((g i).marks x.1 + R)) :
    RelayInv maxAttempts (Function.update g i γ) (s.rewrite i [x.1] f) := by
  have hmem : x ∈ (g i).due := by rw [hx]; exact List.mem_cons_self
  obtain ⟨hknown, hheld, -, hless⟩ := hinv.own i x hmem
  obtain ⟨hnewest, hrow, hold, hnone⟩ := hinv.head hmem
  refine hinv.change rfl (fun k hk => ?_) (fun y hy => ?_) fun j hj k v hv => ?_
  · have hsumF := failures_update (g := g) (i := i) (γ := γ) k
    have hsumR := marks_update (g := g) (i := i) (γ := γ) k
    by_cases hkx : k = x.1
    · subst hkx
      rw [hfailures, Function.update_self] at hsumF
      rw [hmarks, Function.update_self] at hsumR
      rw [Table.cell_rewrite_mem (List.mem_singleton.2 rfl), Cell.seen_of_held hheld]
      refine ⟨?_, ?_, ?_, fun h _ => (hinv.cells x.1 hk).due _ hheld⟩
      · rw [Cell.newest_write]
        omega
      · rw [Cell.newest_write]
        omega
      · rw [Cell.newest_write, ← hmarked]
        omega
    · rw [hfailures, Function.update_of_ne hkx] at hsumF
      rw [hmarks, Function.update_of_ne hkx] at hsumR
      rw [Table.cell_rewrite_not (by simpa using hkx)]
      obtain ⟨hcount, hbound, hmark, hopen⟩ := hinv.cells k hk
      exact ⟨by omega, hbound, by omega, hopen⟩
  · rw [hdue] at hy
    have hne : y.1 ≠ x.1 := by
      intro h
      rw [List.map_cons, List.nodup_cons] at hnodup
      rw [← h] at hnodup
      exact hnodup.1 (List.mem_map_of_mem hy)
    have hymem : y ∈ (g i).due := by rw [hx]; exact List.mem_cons_of_mem _ hy
    obtain ⟨hyknown, hyheld, hyunmarked, hyattempts⟩ := hinv.own i y hymem
    refine ⟨hyknown, ?_, hyunmarked, hyattempts⟩
    rw [Table.cell_rewrite_not (by simpa using hne)]
    exact hyheld
  · have hne : k ≠ x.1 := by
      rintro rfl
      rw [hheld] at hv
      cases hv
      exact hj rfl
    rw [Table.cell_rewrite_not (by simpa using hne)]
    exact hv

end Invariant

/-! ## Drains -/

section Drains

variable {ι : Type} [Fintype ι] [DecidableEq ι]

/-- The invariant; no statement waits for a lock and no transaction is rolled back. -/
def relaySpec (ι : Type) [Fintype ι] [DecidableEq ι] (maxAttempts : ℕ) :
    Spec ι (Call ι) Res String (Table ι ℕ OutboxRow) Work where
  inv := RelayInv maxAttempts
  ok _ s _ op := Granted s op ∧ Keeps op
  prop g s _ op _ _ := Unmarked g s op

variable {maxAttempts : ℕ} {i : ι} {γ : Work} {loads : String → Except String Json}

/-- One call whose exception adds nothing to the history. -/
theorem call_outline {op : Call ι} {φ : Res op → Work → Prop} (hcaught : γ.caught op = γ)
    (hunmarked : ∀ (g : ι → Work) s, Unmarked g s op)
    (h : ∀ g s e, g i = γ → RelayInv maxAttempts g s → Granted s op →
      RelayInv maxAttempts (Function.update g i (γ.next op (exec e op s).1)) (exec e op s).2 ∧
        φ (exec e op s).1 (γ.next op (exec e op s).1)) :
    Outline (relaySystem ι) (relaySpec ι maxAttempts) i (onOk φ) (call op) γ := by
  refine outline_perform_eq fun g s e hg hinv hok => ?_
  cases he : e.raises with
  | some x =>
    refine ⟨.error x, s, γ, ?_, hcaught, ?_, hunmarked g s, trivial⟩
    · simp only [relaySystem, sem, he]
    · rw [← hg, Function.update_eq_self]
      exact hinv
  | none =>
    obtain ⟨hinv', hφ⟩ := h g s e hg hinv hok.1
    refine ⟨.ok (exec e op s).1, (exec e op s).2, γ.next op (exec e op s).1, ?_, rfl, hinv',
      hunmarked g s, hφ⟩
    simp only [relaySystem, sem, he]

/-- **The loop over the subscribers** delivers rows that nobody has marked. -/
theorem onEvents_outline {x : ℕ × OutboxRow} {event : Event} (hseq : event.seq = x.1)
    (subscribers : List String) (hx : x ∈ γ.due) :
    Outline (relaySystem ι) (relaySpec ι maxAttempts) i
      (onOk fun errors γ' => ∃ b, γ' = { γ with raised := b } ∧
        (b = true ↔ γ.raised = true ∨ errors ≠ [])) (onEvents i event subscribers) γ := by
  induction subscribers generalizing γ with
  | nil => exact ⟨γ.raised, rfl, by simp⟩
  | cons subscriber rest ih =>
    have hsent : Outline (relaySystem ι) (relaySpec ι maxAttempts) i
        (fun r γ' => ∃ r', r = .ok r' ∧ ∃ b, γ' = { γ with raised := b } ∧
          (b = true ↔ γ.raised = true ∨ ∃ x, r' = .error x))
        (call (.onEvent i subscriber event)).attempt γ := by
      refine outline_attempt (outline_perform_eq fun g s e hg hinv _ => ?_)
      subst hg
      obtain ⟨hnewest, hrow, -, hmarks⟩ := hinv.head hx
      have hunmarked := (hinv.own i x hx).unmarked
      have hprop : Unmarked g s (.onEvent i subscriber event) := by
        rw [Unmarked, hseq]
        refine ⟨hrow, ?_, fun j => ?_⟩
        · rw [hnewest]
          exact hunmarked
        · exact (Finset.sum_eq_zero_iff.1 hmarks) j (Finset.mem_univ j)
      cases he : e.raises with
      | some error =>
        refine ⟨.error error, s, { g i with raised := true }, ?_, rfl, hinv.quiet rfl rfl rfl,
          hprop, true, rfl, by simp⟩
        simp only [relaySystem, sem, he]
      | none =>
        refine ⟨.ok (), s, g i, ?_, rfl, ?_, hprop, (g i).raised, rfl, by simp⟩
        · simp only [relaySystem, sem, he]
          rfl
        · rw [Function.update_eq_self]
          exact hinv
    rw [onEvents]
    refine outline_bind hsent ?_ fun _ _ _ => trivial
    rintro sent γ₁ ⟨sent', hsent', b, rfl, hb⟩
    obtain rfl : sent = sent' := Except.ok.inj hsent'
    refine outline_bind_ok (ih hx) ?_
    rintro errors γ₂ ⟨b', rfl, hb'⟩
    refine ⟨b', rfl, ?_⟩
    cases sent with
    | ok a =>
      rw [hb', hb]
      simp
    | error x =>
      rw [hb', hb]
      exact ⟨fun _ => .inr (List.cons_ne_nil _ _), fun _ => .inl (.inr ⟨x, rfl⟩)⟩

/-- What one row of the loop comes to. -/
structure Settled (γ : Work) (rows : List (ℕ × OutboxRow)) (t t' : Tally) (γ' : Work) : Prop where
  due : γ'.due = rows
  claims : γ'.claims = γ.claims
  tally : t'.delivered + t'.failed = t.delivered + t.failed + 1

theorem settled_due {x : ℕ × OutboxRow} {rows : List (ℕ × OutboxRow)} (hx : γ.due = x :: rows)
    (hnodup : ((x :: rows).map Prod.fst).Nodup) : (γ.settled x.1).due = rows := by
  rw [List.map_cons, List.nodup_cons] at hnodup
  rw [Work.settled, hx, List.filter_cons_of_neg (by simp), List.filter_eq_self]
  intro y hy
  have hne : y.1 ≠ x.1 := fun h => hnodup.1 (h ▸ List.mem_map_of_mem hy)
  simpa using hne

theorem settled_of_claims {γ₀ : Work} {rows : List (ℕ × OutboxRow)} {t : Tally}
    {p : Tx ι Tally} (hclaims : γ.claims = γ₀.claims)
    (h : Outline (relaySystem ι) (relaySpec ι maxAttempts) i (onOk (Settled γ rows t)) p γ) :
    Outline (relaySystem ι) (relaySpec ι maxAttempts) i (onOk (Settled γ₀ rows t)) p γ := by
  refine outline_mono ?_ h
  rintro (e | t') γ'
  · exact fun _ => trivial
  · rintro ⟨hdue, hclaims', htally⟩
    exact ⟨hdue, hclaims'.trans hclaims, htally⟩

theorem markFailed_outline {x : ℕ × OutboxRow} {rows : List (ℕ × OutboxRow)}
    (hx : γ.due = x :: rows) (hnodup : ((x :: rows).map Prod.fst).Nodup)
    (hraised : γ.raised = true) (errors : List String) (t : Tally) :
    Outline (relaySystem ι) (relaySpec ι maxAttempts) i (onOk (Settled γ rows t))
      (markFailed maxAttempts i x errors t) γ := by
  rw [markFailed]
  refine outline_bind_ok (φ := fun _ γ' => γ'.due = rows ∧ γ'.claims = γ.claims)
    (call_outline rfl (fun _ _ => trivial) fun g s e hg hinv _ => ⟨?_, settled_due hx hnodup, rfl⟩)
    ?_
  · subst hg
    simp only [exec]
    refine hinv.settle hx hnodup ?_ ?_ (F := 1) (R := 0) rfl ?_ ?_ ?_
    · exact settled_due hx hnodup
    · rfl
    · have hmem : x ∈ (g i).due := by rw [hx]; exact List.mem_cons_self
      exact (if_pos (hinv.own i x hmem).unmarked).symm
    · simp only [Work.next, hraised, if_true, Work.settled]
    · simp [Work.next, Work.settled]
  · rintro _ γ' ⟨hdue, hclaims⟩
    exact ⟨hdue, hclaims, by simp; omega⟩

theorem markRelayed_outline {x : ℕ × OutboxRow} {rows : List (ℕ × OutboxRow)}
    (hx : γ.due = x :: rows) (hnodup : ((x :: rows).map Prod.fst).Nodup) (t : Tally) :
    Outline (relaySystem ι) (relaySpec ι maxAttempts) i (onOk (Settled γ rows t))
      (markRelayed i x t) γ := by
  rw [markRelayed]
  refine outline_bind_ok (φ := fun _ γ' => γ' = γ)
    (call_outline rfl (fun _ _ => trivial) fun g s e hg hinv _ => ⟨?_, rfl⟩) ?_
  · exact hinv.quiet (by rw [hg]; rfl) (by rw [hg]; rfl) (by rw [hg]; rfl)
  rintro (now : String) γ₁ rfl
  refine outline_bind_ok (φ := fun _ γ' => γ'.due = rows ∧ γ'.claims = γ₁.claims)
    (call_outline rfl (fun _ _ => trivial) fun g s e hg hinv _ => ⟨?_, settled_due hx hnodup, rfl⟩)
    ?_
  · subst hg
    simp only [exec]
    refine hinv.settle hx hnodup ?_ ?_ (F := 0) (R := 1) rfl ?_ ?_ ?_
    · exact settled_due hx hnodup
    · rfl
    · rfl
    · simp [Work.next, Work.settled]
    · rfl
  · rintro _ γ' ⟨hdue, hclaims⟩
    exact ⟨hdue, hclaims, by simp; omega⟩

/-- **One row of the loop.** -/
theorem settle_outline {x : ℕ × OutboxRow} {rows : List (ℕ × OutboxRow)}
    (hx : γ.due = x :: rows) (hnodup : ((x :: rows).map Prod.fst).Nodup) (t : Tally) :
    Outline (relaySystem ι) (relaySpec ι maxAttempts) i (onOk (Settled γ rows t))
      (settle maxAttempts loads i x t) γ := by
  rw [settle]
  cases loads x.2.payload with
  | error e => exact trivial
  | ok payload =>
    refine outline_bind_ok (φ := fun _ γ' => γ' = { γ with raised := false })
      (call_outline rfl (fun _ _ => trivial) fun g s e hg hinv _ => ⟨?_, rfl⟩) ?_
    · exact hinv.quiet (by rw [hg]; rfl) (by rw [hg]; rfl) (by rw [hg]; rfl)
    rintro (subscribers : List String) γ₁ hγ₁
    have hx₁ : γ₁.due = x :: rows := by rw [hγ₁, ← hx]
    have hclaims₁ : γ₁.claims = γ.claims := by rw [hγ₁]
    refine outline_bind_ok (onEvents_outline rfl subscribers (x := x) ?_) ?_
    · rw [hx₁]
      exact List.mem_cons_self
    rintro errors γ₂ ⟨b, hγ₂, hb⟩
    have hx₂ : γ₂.due = x :: rows := by rw [hγ₂, ← hx₁]
    have hclaims₂ : γ₂.claims = γ.claims := by rw [hγ₂, ← hclaims₁]
    cases errors with
    | nil => exact settled_of_claims hclaims₂ (markRelayed_outline hx₂ hnodup t)
    | cons error errors =>
      have hraised : γ₂.raised = true := by
        rw [hγ₂]
        exact hb.2 (.inr (List.cons_ne_nil _ _))
      exact settled_of_claims hclaims₂ (markFailed_outline hx₂ hnodup hraised _ t)

/-- The loop over the claimed rows. -/
theorem settleAll_outline {rows : List (ℕ × OutboxRow)} (hx : γ.due = rows)
    (hnodup : (rows.map Prod.fst).Nodup) (t : Tally) :
    Outline (relaySystem ι) (relaySpec ι maxAttempts) i
      (onOk fun t' γ' => γ'.claims = γ.claims ∧
        t'.delivered + t'.failed = t.delivered + t.failed + rows.length)
      (settleAll maxAttempts loads i rows t) γ := by
  induction rows generalizing γ t with
  | nil => exact ⟨rfl, rfl⟩
  | cons x rows ih =>
    rw [settleAll]
    refine outline_bind_ok (settle_outline hx hnodup t) ?_
    rintro t' γ' ⟨hdue, hclaims, htally⟩
    refine outline_mono ?_ (ih hdue (List.nodup_cons.1 hnodup).2 t')
    rintro (e | t'') γ''
    · exact fun _ => trivial
    · rintro ⟨hclaims', htally'⟩
      exact ⟨hclaims'.trans hclaims, by rw [List.length_cons]; omega⟩

/-- What a drain comes to: it delivered or failed all that it claimed. -/
structure Whole (γ : Work) (d : Drained) (γ' : Work) : Prop where
  claims : γ'.claims = γ.claims ++ [d.claimed]
  tally : d.tally.delivered + d.tally.failed = d.claimed

theorem drainBody_outline (batch : ℕ) :
    Outline (relaySystem ι) (relaySpec ι maxAttempts) i (onOk (Whole γ))
      (drainBody maxAttempts loads i batch) γ := by
  rw [drainBody]
  refine outline_bind_ok (φ := fun (rows : List (ℕ × OutboxRow)) γ' => γ'.due = rows ∧
      (rows.map Prod.fst).Nodup ∧ γ'.claims = γ.claims ++ [rows.length])
    (call_outline rfl (fun _ _ => trivial) fun g s e hg hinv _ => ⟨?_, rfl, ?_, rfl⟩) ?_
  · refine hinv.claim e batch (fun x => ?_) (by rw [hg]; rfl) (by rw [hg]; rfl)
    show x ∈ (claimable e i maxAttempts batch s).map _ ↔ _
    rw [List.mem_map]
    simp only [eq_comm]
  · show (((claimable e i maxAttempts batch s).map _).map Prod.fst).Nodup
    rw [List.map_map]
    have hid : (Prod.fst ∘ fun k => (k, (s.cell k).seen i)) = (id : ℕ → ℕ) := rfl
    rw [hid, List.map_id]
    exact ((hinv.nodup.filter _).filter _).take
  rintro (rows : List (ℕ × OutboxRow)) γ₁ ⟨hdue, hnodup, hclaims⟩
  refine outline_bind_ok (settleAll_outline hdue hnodup {}) ?_
  rintro t γ₂ ⟨hclaims₂, htally⟩
  refine outline_bind_ok (φ := fun _ γ' => γ'.claims = γ₂.claims)
    (call_outline rfl (fun _ _ => trivial) fun g s e hg hinv _ => ⟨?_, rfl⟩) ?_
  · subst hg
    exact hinv.commit rfl rfl rfl
  rintro _ γ₃ hclaims₃
  refine ⟨?_, ?_⟩
  · rw [hclaims₃, hclaims₂, hclaims]
  · simpa using htally

/-- **A drain** keeps the invariant and settles what it claims. -/
theorem drain_outline (batch : ℕ) :
    Outline (relaySystem ι) (relaySpec ι maxAttempts) i (onOk (Whole γ))
      (drain maxAttempts loads i batch) γ := by
  rw [drain]
  refine outline_bind_ok (φ := fun _ γ' => γ' = γ)
    (call_outline rfl (fun _ _ => trivial) fun g s e hg hinv _ => ⟨?_, rfl⟩) ?_
  · exact hinv.quiet (by rw [hg]; rfl) (by rw [hg]; rfl) (by rw [hg]; rfl)
  rintro _ _ rfl
  refine outline_bind (outline_attempt (drainBody_outline batch)) ?_ fun _ _ _ => trivial
  rintro body γ' ⟨r, hr, hwhole⟩
  obtain rfl : body = r := Except.ok.inj hr
  cases body with
  | ok d => exact hwhole
  | error x =>
    refine outline_bind_ok (φ := fun _ _ => True) (outline_perform fun _ _ _ _ _ hok => ?_) ?_
    · exact absurd hok.2 id
    · exact fun _ _ _ => trivial

/-- The passes of a worker. -/
theorem passes_outline (batches : List ℕ) :
    Outline (relaySystem ι) (relaySpec ι maxAttempts) i
      (onOk fun ds γ' => γ'.claims = γ.claims ++ ds.map (·.claimed) ∧
        ∀ d ∈ ds, d.tally.delivered + d.tally.failed = d.claimed)
      (passes maxAttempts loads i batches) γ := by
  induction batches generalizing γ with
  | nil => exact ⟨by simp, by simp⟩
  | cons batch batches ih =>
    rw [passes]
    refine outline_bind_ok (drain_outline batch) ?_
    rintro d γ₁ ⟨hclaims, htally⟩
    refine outline_bind_ok ih ?_
    rintro ds γ₂ ⟨hclaims₂, htally₂⟩
    refine ⟨?_, ?_⟩
    · rw [hclaims₂, hclaims]
      simp
    · rw [List.forall_mem_cons]
      exact ⟨htally, htally₂⟩

/-! ## Runs -/

/-- A row that no drain claims again although it is not relayed. -/
def GivenUp (maxAttempts : ℕ) (r : OutboxRow) : Prop :=
  r.relayedAt = none ∧ maxAttempts ≤ r.attempts

/-- **What holds of a row**, in its committed and in its newest version. -/
structure Sound (maxAttempts : ℕ) (g : ι → Work) (s : Table ι ℕ OutboxRow) (k : ℕ) : Prop where
  bounded : (s.cell k).row.attempts ≤ maxAttempts ∧ (s.cell k).newest.attempts ≤ maxAttempts
  givenUp : GivenUp maxAttempts (s.cell k).row ∨ GivenUp maxAttempts (s.cell k).newest →
    failures g k = maxAttempts

omit [DecidableEq ι] in
theorem RelayInv.sound {g : ι → Work} {s : Table ι ℕ OutboxRow}
    (hinv : RelayInv maxAttempts g s) {k : ℕ} (hk : k ∈ s.keys) : Sound maxAttempts g s k := by
  obtain ⟨hcount, hbound, hmarked, hdue⟩ := hinv.cells k hk
  have hnewest : GivenUp maxAttempts (s.cell k).newest → failures g k = maxAttempts := by
    rintro ⟨hnone, hmost⟩
    rw [if_pos hnone] at hmarked
    omega
  cases hc : (s.cell k).held with
  | none =>
    have hrow := Cell.newest_of_none hc
    rw [hrow] at hbound hnewest
    refine ⟨⟨hbound, ?_⟩, ?_⟩
    · rwa [hrow]
    · rw [hrow, or_self]
      exact hnewest
  | some w =>
    obtain ⟨hrow, hless⟩ := hdue w hc
    refine ⟨⟨hless.le, hbound⟩, ?_⟩
    rintro (⟨-, hmost⟩ | h)
    · omega
    · exact hnewest h

omit [Fintype ι] in
theorem keys_exec (e : Env) (op : Call ι) (s : Table ι ℕ OutboxRow) :
    (exec e op s).2.keys = s.keys := by
  cases op <;> rfl

omit [Fintype ι] in
/-- The rows stay the same ones. -/
theorem keys_run (c : Relays ι) (xs : List (ι × Env)) :
    ((relaySystem ι).run c xs).shared.keys = c.shared.keys := by
  induction xs generalizing c with
  | nil => rfl
  | cons x xs ih =>
    rw [System.run_cons, ih, System.step]
    cases c.prog x.1 with
    | ret a => rfl
    | raise e => rfl
    | call op next =>
      simp only [relaySystem, sem]
      cases x.2.raises with
      | none => exact keys_exec _ _ _
      | some e => rfl

theorem relayStart_outlined {keys : List ℕ} (hkeys : keys.Nodup) (row : ℕ → OutboxRow)
    (batches : ι → List ℕ) : Outlined (relaySystem ι) (relaySpec ι maxAttempts)
      (fun _ => onOk fun ds γ' => γ'.claims = ({} : Work).claims ++ ds.map (·.claimed) ∧
        ∀ d ∈ ds, d.tally.delivered + d.tally.failed = d.claimed)
      (relayStart maxAttempts loads keys row batches) := by
  refine ⟨⟨hkeys, fun k _ => ⟨?_, Nat.zero_le _, ?_, fun h hh => by cases hh⟩, fun i x hx => ?_⟩,
    fun i => passes_outline (batches i)⟩
  · simp [relayStart, failures, marks, Cell.newest]
  · simp [relayStart, marks, Cell.newest]
  · cases hx

/-- **What a run of the workers comes to**: no delivery is of a row that was marked relayed;
attempts stay within the maximum, and a row is given up only after as many failed attempts; what a
drain claims it delivers or fails. -/
structure Relayed (maxAttempts : ℕ) (c : Relays ι) (xs : List (ι × Env)) : Prop where
  unmarked : (relaySystem ι).Along DeliversUnmarked c xs
  rows : ∀ k ∈ c.shared.keys, Sound maxAttempts ((relaySystem ι).run c xs).hist
    ((relaySystem ι).run c xs).shared k
  tallies : ∀ i ds, ((relaySystem ι).run c xs).prog i = .ret ds →
    (((relaySystem ι).run c xs).hist i).claims = ds.map (·.claimed) ∧
      ∀ d ∈ ds, d.tally.delivered + d.tally.failed = d.claimed

/-- **Any number of workers drain one outbox.** -/
theorem drains_sound (maxAttempts : ℕ) (loads : String → Except String Json) {keys : List ℕ}
    (hkeys : keys.Nodup) (row : ℕ → OutboxRow) (batches : ι → List ℕ) (xs : List (ι × Env))
    (hruns : (relaySystem ι).Along Runs (relayStart maxAttempts loads keys row batches) xs) :
    Relayed maxAttempts (relayStart maxAttempts loads keys row batches) xs := by
  obtain ⟨hprop, hinv, houtline⟩ := outline_run (relayStart_outlined hkeys row batches) hruns
  refine ⟨hprop, fun k hk => hinv.sound ?_, fun i ds hds => ?_⟩
  · rw [keys_run]
    exact hk
  · have hend := houtline i
    rw [hds] at hend
    obtain ⟨hclaims, htally⟩ := hend
    exact ⟨hclaims, htally⟩

/-- One row and two workers: a failed delivery, and one that arrives. -/
theorem drains_sound_retry :
    Relayed 2 (relayStart 2 (fun _ => .ok .null) [7]
        (fun _ => ⟨"evt_1", "purchase.verified", "pur_1", "{}", "", none, 0, none⟩)
        fun worker => if worker then [1] else [1, 1])
      [(true, {}), (true, {}), (false, {}), (false, {}), (true, { subscribers := ["log"] }),
        (true, { raises := some "down" }), (false, {}), (true, {}), (true, {}), (false, {}),
        (false, {}), (false, { subscribers := ["log"] }), (false, {}), (false, { now := "now" }),
        (false, {}), (false, {})] :=
  drains_sound 2 _ (by decide) _ _ _ (by decide)

end Drains

end TryTrust.Agent.Relay
