import TryTrust.Conc.Interp
import TryTrust.TokenBucket

/-!
# The guardrails of the agent lane

Rate limits and windowed counters, in the database. Every call reads a row, computes in the
application and writes the row back, inside a transaction that locks a row when it writes it and not
when it reads it.

* `take`, `bump`: the guardrails, statement by statement; `Call`, `sem`, `Fate`: their statements;
* `Waits`: a write waits for the transaction that has written the row before;
* `InTurn`: a write finds the row as it was read, and for a bucket the clock has not gone back;
* `Meters`, `guardrail_outline`: what every charge of a row keeps, a call keeps; **`meter_run`**: and
  so does a run in turn;
* **`guardrails_hold`**: then no bucket gives out more than `burst + rate * d` in a window of length
  `d`, and no counter more than its cap; **`guardrails_raced`**: two connections that read one row
  are both granted the last unit of it.
-/

namespace TryTrust.Limits

open Conc

/-! ## Rows -/

/-- A row of `rate_buckets`, or one of `counters`. -/
inductive Slot where
  | bucket (key : String)
  | counter (key window : String)
  deriving DecidableEq

/-- The number in a row (`tokens`, or `value`), and `updated_at` in seconds. -/
structure Row where
  number : ℚ
  updatedAt : ℚ
  deriving DecidableEq

/-- What a call was granted. -/
structure Grant where
  slot : Slot
  units : ℚ
  /-- The clock reading of the call. -/
  now : ℚ
  deriving DecidableEq

/-- `LimitExceeded`, or an error of the database. -/
inductive LimitErr where
  | limitExceeded (code detail : String)
  | database
  deriving DecidableEq

/-! ## Statements -/

/-- The statements, with the connection that sends them. -/
inductive Call (ι : Type) where
  | begin (i : ι)
  | select (i : ι) (slot : Slot)
  | upsert (i : ι) (slot : Slot) (row : Row)
  /-- `granted` is what the call returns with after this commit. -/
  | commit (i : ι) (granted : Option Grant)
  | rollback (i : ι)

/-- The answers. -/
def Res {ι : Type} : Call ι → Type
  | .select .. => Option Row
  | _ => Unit

/-- A transaction over the guardrails. -/
abbrev Tx (ι : Type) := Prog (Call ι) Res LimitErr

/-- The tables, with what every open transaction has written and locked, and all that was granted by
transactions that committed. -/
structure Shared (ι : Type) where
  rows : Slot → Option Row
  txns : ι → Option (Slot × Row)
  granted : List Grant

/-- How a statement ends: it runs; it fails, which ends the transaction; or it runs and its answer is
lost. -/
inductive Fate where
  | runs
  | fails
  | lost
  deriving DecidableEq

section Statements

variable {ι : Type} [DecidableEq ι]

/-- The transaction of a connection is replaced. -/
def Shared.setTxn (s : Shared ι) (i : ι) (t : Option (Slot × Row)) : Shared ι :=
  { s with txns := Function.update s.txns i t }

@[simp] theorem setTxn_txns (s : Shared ι) (i : ι) (t : Option (Slot × Row)) :
    (s.setTxn i t).txns = Function.update s.txns i t := rfl

@[simp] theorem setTxn_rows (s : Shared ι) (i : ι) (t : Option (Slot × Row)) :
    (s.setTxn i t).rows = s.rows := rfl

/-- The row as a connection sees it: what is committed, or what it has written itself. -/
def Shared.rowOf (s : Shared ι) (i : ι) (slot : Slot) : Option Row :=
  match s.txns i with
  | some (own, row) => if own = slot then some row else s.rows slot
  | none => s.rows slot

/-- A commit. -/
def Shared.committed (s : Shared ι) (i : ι) (granted : Option Grant) : Shared ι :=
  match s.txns i with
  | some (slot, row) =>
    { rows := Function.update s.rows slot (some row)
      txns := Function.update s.txns i none
      granted := s.granted ++ granted.toList }
  | none => { s with granted := s.granted ++ granted.toList }

/-- The effect of a statement. -/
def exec : (op : Call ι) → Shared ι → Res op × Shared ι
  | .begin i, s => ((), s.setTxn i none)
  | .select i slot, s => (s.rowOf i slot, s)
  | .upsert i slot row, s => ((), s.setTxn i (some (slot, row)))
  | .commit i granted, s => ((), s.committed i granted)
  | .rollback i, s => ((), s.setTxn i none)

/-- The connection of a statement. -/
def Call.conn : Call ι → ι
  | .begin i | .select i _ | .upsert i _ _ | .commit i _ | .rollback i => i

/-- A statement under a fate; a lost transaction is rolled back, a lost commit is not. -/
def sem (e : Fate) (op : Call ι) (s : Shared ι) : Except LimitErr (Res op) × Shared ι :=
  match e, op with
  | .runs, op => (.ok (exec op s).1, (exec op s).2)
  | .lost, .commit i granted => (.error .database, s.committed i granted)
  | _, op => (.error .database, s.setTxn op.conn none)

end Statements

/-! ## The guardrails -/

/-- The nearest integer, halves to even, as `format` rounds. -/
def roundHalfEven (q : ℚ) : ℤ :=
  let floor := q.floor
  let rest := q - floor
  if rest < 1 / 2 then floor else if 1 / 2 < rest then floor + 1
  else if floor % 2 = 0 then floor else floor + 1

/-- `f"{q:.0f}"`. -/
def fixed0 (q : ℚ) : String :=
  (if q < 0 then "-" else "") ++ toString (roundHalfEven |q|)

/-- `f"{q:.1f}"`. -/
def fixed1 (q : ℚ) : String :=
  let tenths := roundHalfEven (|q| * 10)
  (if q < 0 then "-" else "") ++ toString (tenths / 10) ++ "." ++ toString (tenths % 10)

/-- A call of `take`, with the reading of its clock. -/
structure TakeRequest where
  key : String
  rate : ℚ
  burst : ℤ
  cost : ℚ := 1
  now : ℚ

/-- A call of `bump`, with the reading of its clock. -/
structure BumpRequest where
  key : String
  window : String
  cap : ℤ
  amount : ℚ := 1
  now : ℚ

section Guardrails

variable {ι : Type} (i : ι)

/-- A statement of the connection. -/
def call (op : Call ι) : Tx ι (Res op) := .perform op

/-- The tokens of a bucket, refilled. -/
def TakeRequest.tokens (r : TakeRequest) : Option Row → ℚ
  | none => r.burst
  | some row =>
    let elapsed := r.now - row.updatedAt
    min (r.burst : ℚ) (row.number + max 0 elapsed * r.rate)

/-- The seconds until the next call is allowed. -/
def TakeRequest.wait (r : TakeRequest) (tokens : ℚ) : String :=
  if 0 < r.rate then fixed1 ((r.cost - tokens) / r.rate) else "inf"

/-- What both guardrails do with an error. -/
def undo (body : Tx ι Unit) : Tx ι Unit :=
  body.tryCatch fun x => match x with
    | .limitExceeded code detail => .raise (.limitExceeded code detail)
    | .database => do
      call (.rollback i)
      .raise .database

/-- `take`. -/
def take (r : TakeRequest) : Tx ι Unit := do
  call (.begin i)
  undo i do
    let row ← call (.select i (.bucket r.key))
    let tokens := r.tokens row
    if tokens < r.cost then
      call (.commit i none)
      .raise (.limitExceeded "RATE_LIMITED"
        (r.key ++ " is out of budget; " ++ r.wait tokens ++ "s until the next call is allowed"))
    else
      call (.upsert i (.bucket r.key) ⟨tokens - r.cost, r.now⟩)
      call (.commit i (some ⟨.bucket r.key, r.cost, r.now⟩))

/-- The value of a counter with an amount. -/
def BumpRequest.value (r : BumpRequest) (row : Option Row) : ℚ :=
  (match row with
    | none => 0
    | some row => row.number) + r.amount

/-- `bump`. -/
def bump (r : BumpRequest) : Tx ι Unit := do
  call (.begin i)
  undo i do
    let row ← call (.select i (.counter r.key r.window))
    let value := r.value row
    if (r.cap : ℚ) < value then
      call (.commit i none)
      .raise (.limitExceeded "QUOTA_EXHAUSTED"
        (r.key ++ " used " ++ fixed0 value ++ " of " ++ toString r.cap ++ " for " ++ r.window))
    else
      call (.upsert i (.counter r.key r.window) ⟨value, r.now⟩)
      call (.commit i (some ⟨.counter r.key r.window, r.amount, r.now⟩))

/-- A call of a guardrail. -/
inductive Request where
  | take (r : TakeRequest)
  | bump (r : BumpRequest)

/-- The guardrail that a request calls. -/
def guardrail : Request → Tx ι Unit
  | .take r => take i r
  | .bump r => bump i r

/-- The calls of one connection; an exception ends the call that it comes from. -/
def guardrails : List Request → Tx ι Unit
  | [] => pure ()
  | request :: requests => do
    let _ : Except LimitErr Unit ← (guardrail i request).attempt
    guardrails requests

end Guardrails

/-! ## The system -/

/-- How far the call of a connection has come. -/
inductive Stage where
  | idle
  /-- It has read its row. -/
  | read (row : Option Row)
  /-- It has read `seen` and written `row`. -/
  | wrote (slot : Slot) (seen : Option Row) (row : Row)
  deriving DecidableEq

/-- The next stage after an answer. -/
def Stage.next (γ : Stage) : {ι : Type} → (op : Call ι) → Res op → Stage
  | _, .select .., row => .read row
  | _, .upsert _ slot row, _ => match γ with
    | .read seen => .wrote slot seen row
    | _ => .idle
  | _, _, _ => .idle

/-- The system: what a fate does, and the stages. -/
def limitSystem (ι : Type) [DecidableEq ι] :
    System ι (Call ι) Res LimitErr (Shared ι) Stage Fate where
  sem := sem
  adv _ γ _ op r := match r with
    | .ok a => γ.next op a
    | .error _ => .idle

/-- The connections before their first calls. -/
def limitStart {ι : Type} (rows : Slot → Option Row) (requests : ι → List Request) :
    Config ι (Call ι) Res LimitErr Unit (Shared ι) Stage where
  shared := ⟨rows, fun _ => none, []⟩
  prog i := guardrails i (requests i)
  hist _ := .idle

section Conditions

variable {ι : Type}

/-- Nobody else has written the row. -/
def Shared.Free (s : Shared ι) (i : ι) (slot : Slot) : Prop :=
  ∀ j, j ≠ i → ∀ own ∈ s.txns j, own.1 ≠ slot

/-- A statement does not wait for a lock. -/
def Admitted (s : Shared ι) : Call ι → Prop
  | .upsert i slot _ => s.Free i slot
  | _ => True

/-- A step that does not wait for a lock. -/
def Waits (c : Config ι (Call ι) Res LimitErr Unit (Shared ι) Stage) (i : ι) (_ : Fate) : Prop :=
  ∀ op ∈ (c.prog i).next, Admitted c.shared op

/-- The clock of a bucket has not gone back. -/
def Slot.Forward (row : Row) : Slot → Option Row → Prop
  | .bucket _, some old => old.updatedAt ≤ row.updatedAt
  | _, _ => True

/-- **In turn**: a row to be written is as it was read, and the clock has not gone back. -/
def Orderly (g : ι → Stage) (s : Shared ι) (i : ι) : Call ι → Prop
  | .upsert _ slot row => g i = .read (s.rows slot) ∧ slot.Forward row (s.rows slot)
  | _ => True

/-- A step in turn. -/
def InTurn (c : Config ι (Call ι) Res LimitErr Unit (Shared ι) Stage) (i : ι) (_ : Fate) : Prop :=
  ∀ op ∈ (c.prog i).next, Orderly c.hist c.shared i op

instance [Fintype ι] [DecidableEq ι] (s : Shared ι) (i : ι) (slot : Slot) :
    Decidable (s.Free i slot) :=
  inferInstanceAs (Decidable (∀ j, j ≠ i → ∀ own ∈ s.txns j, own.1 ≠ slot))

instance [Fintype ι] [DecidableEq ι] (s : Shared ι) : (op : Call ι) → Decidable (Admitted s op)
  | .upsert i slot _ => inferInstanceAs (Decidable (s.Free i slot))
  | .begin _ | .select .. | .commit .. | .rollback _ => .isTrue trivial

instance (row : Row) : (slot : Slot) → (old : Option Row) → Decidable (slot.Forward row old)
  | .bucket _, some old => inferInstanceAs (Decidable (old.updatedAt ≤ row.updatedAt))
  | .bucket _, none | .counter .., _ => .isTrue trivial

instance (g : ι → Stage) (s : Shared ι) (i : ι) : (op : Call ι) → Decidable (Orderly g s i op)
  | .upsert _ slot row =>
    inferInstanceAs (Decidable (g i = .read (s.rows slot) ∧ slot.Forward row (s.rows slot)))
  | .begin _ | .select .. | .commit .. | .rollback _ => .isTrue trivial

instance [Fintype ι] [DecidableEq ι] (c : Config ι (Call ι) Res LimitErr Unit (Shared ι) Stage)
    (i : ι) (e : Fate) : Decidable (Waits c i e) :=
  inferInstanceAs (Decidable (∀ op ∈ (c.prog i).next, Admitted c.shared op))

instance (c : Config ι (Call ι) Res LimitErr Unit (Shared ι) Stage) (i : ι) (e : Fate) :
    Decidable (InTurn c i e) :=
  inferInstanceAs (Decidable (∀ op ∈ (c.prog i).next, Orderly c.hist c.shared i op))

end Conditions

/-! ## Charges -/

/-- **What a call charges**: from the row that it reads, the row that it writes and its grant. -/
def Charges (seen : Option Row) (row : Row) (grant : Grant) : Request → Prop
  | .take r => r.cost ≤ r.tokens seen ∧ row = ⟨r.tokens seen - r.cost, r.now⟩ ∧
      grant = ⟨.bucket r.key, r.cost, r.now⟩
  | .bump r => r.value seen ≤ r.cap ∧ row = ⟨r.value seen, r.now⟩ ∧
      grant = ⟨.counter r.key r.window, r.amount, r.now⟩

/-- The grants of a row. -/
def grantsOf (slot : Slot) (granted : List Grant) : List Grant :=
  granted.filter fun g => g.slot = slot

/-- **A meter** of a row: a relation of the row and its grants that the charges in turn keep. -/
structure Meters (slot : Slot) (asked : Request → Prop)
    (meter : Option Row → List Grant → Prop) : Prop where
  charge : ∀ request, asked request → ∀ seen row grant granted,
    Charges seen row grant request → grant.slot = slot → slot.Forward row seen →
    meter seen granted → meter (some row) (granted ++ [grant])

section Runs

variable {ι : Type} [DecidableEq ι]

/-- What a transaction has written at a stage: nothing, or a row over the one that it read. -/
def Holds (rows : Slot → Option Row) (t : Option (Slot × Row)) : Stage → Prop
  | .wrote slot seen row => t = some (slot, row) ∧ seen = rows slot ∧ slot.Forward row seen
  | _ => t = none

/-- **The invariant**: the meter holds, and one transaction at most has written a row. -/
structure Metering (slot : Slot) (meter : Option Row → List Grant → Prop) (g : ι → Stage)
    (s : Shared ι) : Prop where
  meter : meter (s.rows slot) (grantsOf slot s.granted)
  alone : ∀ i j own other, s.txns i = some own → s.txns j = some other → own.1 = other.1 → i = j
  own : ∀ i, Holds s.rows (s.txns i) (g i)

/-- The specification: writes wait for locks and are in turn. -/
def meterSpec (ι : Type) (slot : Slot) (meter : Option Row → List Grant → Prop) :
    Spec ι (Call ι) Res LimitErr (Shared ι) Stage where
  inv := Metering slot meter
  ok g s i op := Admitted s op ∧ Orderly g s i op
  prop _ _ _ _ _ _ := True

variable {slot : Slot} {meter : Option Row → List Grant → Prop} {g : ι → Stage} {s : Shared ι}
  {i : ι}

/-- What is written once a transaction has ended was written by another. -/
theorem written_of_cleared {txns : ι → Option (Slot × Row)} {j : ι} {x : Slot × Row}
    (h : Function.update txns i none j = some x) : txns j = some x := by
  by_cases hj : j = i
  · rw [hj, Function.update_self] at h
    cases h
  · rwa [Function.update_of_ne hj] at h

/-- A transaction that has written nothing, or no longer has. -/
theorem Metering.leave (h : Metering slot meter g s) {γ : Stage} (hγ : Holds s.rows none γ) :
    Metering slot meter (Function.update g i γ) (s.setTxn i none) := by
  refine ⟨h.meter, ?_, ?_⟩
  · intro a b own other ha hb heq
    exact h.alone a b own other (written_of_cleared ha) (written_of_cleared hb) heq
  · intro j
    rw [setTxn_txns, setTxn_rows]
    by_cases hj : j = i
    · rw [hj, Function.update_self, Function.update_self]
      exact hγ
    · rw [Function.update_of_ne hj, Function.update_of_ne hj]
      exact h.own j

/-- A write, in turn, of a row that nobody else has written. -/
theorem Metering.write (h : Metering slot meter g s) {target : Slot} {row : Row}
    (hfree : s.Free i target)
    (horder : target.Forward row (s.rows target)) :
    Metering slot meter (Function.update g i (.wrote target (s.rows target) row))
      (s.setTxn i (some (target, row))) := by
  refine ⟨h.meter, ?_, ?_⟩
  · intro a b own other ha hb heq
    rw [setTxn_txns] at ha hb
    by_cases hai : a = i
    · by_cases hbi : b = i
      · rw [hai, hbi]
      · rw [hai, Function.update_self] at ha
        rw [Function.update_of_ne hbi] at hb
        rw [← Option.some.inj ha] at heq
        exact absurd heq.symm (hfree b hbi other hb)
    · rw [Function.update_of_ne hai] at ha
      by_cases hbi : b = i
      · rw [hbi, Function.update_self] at hb
        rw [← Option.some.inj hb] at heq
        exact absurd heq (hfree a hai own ha)
      · rw [Function.update_of_ne hbi] at hb
        exact h.alone a b own other ha hb heq
  · intro j
    rw [setTxn_txns, setTxn_rows]
    by_cases hj : j = i
    · rw [hj, Function.update_self, Function.update_self]
      exact ⟨rfl, rfl, horder⟩
    · rw [Function.update_of_ne hj, Function.update_of_ne hj]
      exact h.own j

theorem grantsOf_append (granted : List Grant) (grant : Grant) :
    grantsOf slot (granted ++ [grant]) =
      grantsOf slot granted ++ if grant.slot = slot then [grant] else [] := by
  rw [grantsOf, grantsOf, List.filter_append]
  split_ifs with hslot <;> simp [hslot]

/-- **A commit** of a charged row. -/
theorem Metering.commit {asked : Request → Prop} (hmeter : Meters slot asked meter)
    (h : Metering slot meter g s) {target : Slot} {seen : Option Row} {row : Row}
    (hi : g i = .wrote target seen row) {request : Request} (hasked : asked request) {grant : Grant}
    (hcharge : Charges seen row grant request) (hgrant : grant.slot = target) :
    Metering slot meter (Function.update g i .idle) (s.committed i (some grant)) := by
  have hown := h.own i
  rw [hi] at hown
  obtain ⟨htxn, rfl, horder⟩ := hown
  rw [Shared.committed, htxn]
  refine ⟨?_, ?_, ?_⟩
  · change meter (Function.update s.rows target (some row) slot)
      (grantsOf slot (s.granted ++ [grant]))
    rw [grantsOf_append, hgrant]
    by_cases hslot : target = slot
    · subst hslot
      rw [Function.update_self, if_pos rfl]
      exact hmeter.charge request hasked _ row grant _ hcharge hgrant horder h.meter
    · rw [Function.update_of_ne (Ne.symm hslot), if_neg hslot, List.append_nil]
      exact h.meter
  · intro a b own other ha hb heq
    exact h.alone a b own other (written_of_cleared ha) (written_of_cleared hb) heq
  · intro j
    by_cases hj : j = i
    · rw [hj, Function.update_self]
      exact Function.update_self ..
    · have hownj := h.own j
      rw [Function.update_of_ne hj]
      change Holds (Function.update s.rows target (some row)) (Function.update s.txns i none j) (g j)
      rw [Function.update_of_ne hj]
      cases hstage : g j with
      | idle =>
        rw [hstage] at hownj
        exact hownj
      | read seen =>
        rw [hstage] at hownj
        exact hownj
      | wrote other seen row' =>
        rw [hstage] at hownj
        obtain ⟨htxnj, hseen, horderj⟩ := hownj
        have hne : other ≠ target := fun heq => hj (h.alone j i _ _ htxnj htxn heq)
        exact ⟨htxnj, by rw [Function.update_of_ne hne]; exact hseen, horderj⟩

/-! ## Outlines -/

section Outlines

variable {asked : Request → Prop} {γ : Stage}

/-- A failed statement, whatever it was. -/
theorem Metering.failed (h : Metering slot meter g s) (op : Call ι) (hconn : op.conn = i) :
    Metering slot meter (Function.update g i .idle) (s.setTxn op.conn none) := by
  rw [hconn]
  exact h.leave rfl

/-- A statement of `i`: what holds if it runs, and if a commit of it is lost. -/
theorem statement_outline (op : Call ι) (hconn : op.conn = i)
    {Q : Except LimitErr (Res op) → Stage → Prop} (hruns : ∀ (g : ι → Stage) s, g i = γ → Metering slot meter g s →
      Admitted s op → Orderly g s i op →
      Metering slot meter (Function.update g i (γ.next op (exec op s).1)) (exec op s).2 ∧
        Q (.ok (exec op s).1) (γ.next op (exec op s).1))
    (hlost : ∀ granted, op = .commit i granted → ∀ (g : ι → Stage) s, g i = γ →
      Metering slot meter g s →
      Metering slot meter (Function.update g i .idle) (s.committed i granted))
    (herror : Q (.error .database) .idle) :
    Outline (limitSystem ι) (meterSpec ι slot meter) i Q (call op) γ := by
  refine outline_perform fun g s e hg hinv hok => ?_
  cases e with
  | runs =>
    obtain ⟨h1, h2⟩ := hruns g s hg hinv hok.1 hok.2
    exact ⟨h1, trivial, h2⟩
  | fails =>
    cases op <;> exact ⟨hinv.failed _ hconn, trivial, herror⟩
  | lost =>
    cases op with
    | commit j granted =>
      obtain rfl : j = i := hconn
      exact ⟨hlost granted rfl g s hg hinv, trivial, herror⟩
    | _ => exact ⟨hinv.failed _ hconn, trivial, herror⟩

/-- `BEGIN`, a read, a commit of nothing and a rollback change nothing that is committed. -/
theorem begin_outline : Outline (limitSystem ι) (meterSpec ι slot meter) i
    (fun _ γ' => γ' = .idle) (call (.begin i)) γ :=
  statement_outline (.begin i) rfl (fun _ _ _ hinv _ _ => ⟨hinv.leave (γ := .idle) rfl, rfl⟩)
    (fun _ hop => by cases hop) rfl

theorem rollback_outline : Outline (limitSystem ι) (meterSpec ι slot meter) i
    (fun _ _ => True) (call (.rollback i)) γ :=
  statement_outline (.rollback i) rfl
    (fun _ _ _ hinv _ _ => ⟨hinv.leave (γ := .idle) rfl, trivial⟩)
    (fun _ hop => by cases hop) trivial

/-- A read, by a call that has written nothing. -/
theorem select_outline (target : Slot) (hγ : γ = .idle) :
    Outline (limitSystem ι) (meterSpec ι slot meter) i
      (onOk fun row γ' => γ' = .read row) (call (.select i target)) γ := by
  refine statement_outline (.select i target) rfl (fun g s hg hinv _ _ => ⟨?_, rfl⟩)
    (fun _ hop => by cases hop) trivial
  have hown : Holds s.rows (s.txns i) (g i) := hinv.own i
  have hidle : g i = .idle := Eq.trans hg hγ
  rw [hidle] at hown
  have hsame : s.setTxn i none = s := by
    rw [Shared.setTxn]
    have htxns : Function.update s.txns i none = s.txns := by
      rw [← hown]
      exact Function.update_eq_self i s.txns
    rw [htxns]
  have hleave := hinv.leave (i := i) (γ := .read (s.rowOf i target)) rfl
  rwa [hsame] at hleave

/-- A write, in turn. -/
theorem upsert_outline (target : Slot) (seen : Option Row) (row : Row) :
    Outline (limitSystem ι) (meterSpec ι slot meter) i
      (onOk fun _ γ' => γ' = .wrote target seen row) (call (.upsert i target row))
      (.read seen) := by
  refine statement_outline (.upsert i target row) rfl (fun g s hg hinv hfree hturn => ⟨?_, rfl⟩)
    (fun _ hop => by cases hop) trivial
  obtain ⟨hread, horder⟩ := hturn
  rw [hg] at hread
  obtain rfl : seen = s.rows target := Stage.read.inj hread
  exact hinv.write hfree horder

/-- A commit of nothing. -/
theorem commit_none_outline (seen : Option Row) :
    Outline (limitSystem ι) (meterSpec ι slot meter) i (fun _ _ => True)
      (call (.commit i none)) (.read seen) := by
  have hkeeps : ∀ (g : ι → Stage) s, g i = .read seen → Metering slot meter g s →
      Metering slot meter (Function.update g i .idle) (s.committed i none) := by
    intro g s hg hinv
    have hown := hinv.own i
    rw [hg] at hown
    have hnone : s.txns i = none := hown
    have hsame : s.committed i none = s.setTxn i none := by
      rw [Shared.committed, Shared.setTxn]
      have htxns : Function.update s.txns i none = s.txns := by
        rw [← hnone]
        exact Function.update_eq_self i s.txns
      rw [hnone, htxns]
      simp only [Option.toList_none, List.append_nil]
    rw [hsame]
    exact hinv.leave rfl
  refine statement_outline (.commit i none) rfl
    (fun g s hg hinv _ _ => ⟨hkeeps g s hg hinv, trivial⟩)
    (fun granted hop g s hg hinv => ?_) trivial
  cases hop
  exact hkeeps g s hg hinv

/-- The commit of a charge. -/
theorem commit_outline (hmeter : Meters slot asked meter) {request : Request}
    (hasked : asked request) {target : Slot} {seen : Option Row} {row : Row} {grant : Grant}
    (hcharge : Charges seen row grant request) (hgrant : grant.slot = target) :
    Outline (limitSystem ι) (meterSpec ι slot meter) i (fun _ _ => True)
      (call (.commit i (some grant))) (.wrote target seen row) := by
  refine statement_outline (.commit i (some grant)) rfl
    (fun g s hg hinv _ _ => ⟨hinv.commit hmeter hg hasked hcharge hgrant, trivial⟩)
    (fun granted hop g s hg hinv => ?_) trivial
  cases hop
  exact hinv.commit hmeter hg hasked hcharge hgrant

/-- **A guardrail**: it reads a row, refuses, or writes it back and commits. -/
theorem guardrail_outline (hmeter : Meters slot asked meter) {request : Request}
    (hasked : asked request) {target : Slot} (refused : Option Row → Prop)
    [DecidablePred refused] {error : Option Row → LimitErr} {row : Option Row → Row}
    {grant : Grant} (hgrant : grant.slot = target)
    (hcharge : ∀ seen, ¬ refused seen → Charges seen (row seen) grant request) :
    Outline (limitSystem ι) (meterSpec ι slot meter) i (fun _ _ => True)
      (do
        call (.begin i)
        undo i do
          let seen : Option Row ← call (.select i target)
          if refused seen then
            call (.commit i none)
            .raise (error seen)
          else
            call (.upsert i target (row seen))
            call (.commit i (some grant)) : Tx ι Unit) γ := by
  refine outline_bind begin_outline (fun _ γ hγ => ?_) fun _ _ _ => trivial
  refine outline_tryCatch (Q := fun _ _ => True) ?_ (fun _ _ _ => trivial) fun x γ _ => ?_
  · refine outline_bind (select_outline target hγ) (fun seen γ hγ => ?_) fun _ _ _ => trivial
    change γ = .read seen at hγ
    subst hγ
    refine outline_ite (fun hrefused => ?_) fun hrefused => ?_
    · exact outline_bind (commit_none_outline seen) (fun _ _ _ => trivial) fun _ _ _ => trivial
    · refine outline_bind (upsert_outline target seen (row seen)) (fun _ γ hγ => ?_)
        fun _ _ _ => trivial
      change γ = .wrote target seen (row seen) at hγ
      subst hγ
      exact commit_outline hmeter hasked (hcharge seen hrefused) hgrant
  · cases x with
    | limitExceeded code detail => trivial
    | database => exact outline_bind rollback_outline (fun _ _ _ => trivial) fun _ _ _ => trivial

theorem take_outline (hmeter : Meters slot asked meter) {r : TakeRequest}
    (hasked : asked (.take r)) : Outline (limitSystem ι) (meterSpec ι slot meter) i
      (fun _ _ => True) (take i r) γ :=
  guardrail_outline hmeter hasked (fun seen => r.tokens seen < r.cost) rfl
    fun _ h => ⟨not_lt.1 h, rfl, rfl⟩

theorem bump_outline (hmeter : Meters slot asked meter) {r : BumpRequest}
    (hasked : asked (.bump r)) : Outline (limitSystem ι) (meterSpec ι slot meter) i
      (fun _ _ => True) (bump i r) γ :=
  guardrail_outline hmeter hasked (fun seen => (r.cap : ℚ) < r.value seen) rfl
    fun _ h => ⟨not_lt.1 h, rfl, rfl⟩

theorem guardrails_outline (hmeter : Meters slot asked meter) {requests : List Request}
    (hasked : ∀ r ∈ requests, asked r) : Outline (limitSystem ι) (meterSpec ι slot meter) i
      (fun _ _ => True) (guardrails i requests) γ := by
  induction requests generalizing γ with
  | nil => trivial
  | cons request requests ih =>
    have hfirst : Outline (limitSystem ι) (meterSpec ι slot meter) i (fun _ _ => True)
        (guardrail i request) γ := by
      cases request with
      | take r => exact take_outline hmeter (hasked _ List.mem_cons_self)
      | bump r => exact bump_outline hmeter (hasked _ List.mem_cons_self)
    refine outline_bind (outline_attempt hfirst) (fun _ γ' _ => ?_) fun _ _ _ => trivial
    exact ih fun r hr => hasked r (List.mem_cons_of_mem _ hr)

end Outlines

/-- **Runs in turn** keep every meter. -/
theorem meter_run {asked : Request → Prop} (hmeter : Meters slot asked meter)
    (rows : Slot → Option Row) (hstart : meter (rows slot) []) (requests : ι → List Request)
    (hasked : ∀ i, ∀ r ∈ requests i, asked r) {xs : List (ι × Fate)}
    (hwaits : (limitSystem ι).Along Waits (limitStart rows requests) xs)
    (hturn : (limitSystem ι).Along InTurn (limitStart rows requests) xs) :
    meter (((limitSystem ι).run (limitStart rows requests) xs).shared.rows slot)
      (grantsOf slot ((limitSystem ι).run (limitStart rows requests) xs).shared.granted) := by
  have hstarted : Outlined (limitSystem ι) (meterSpec ι slot meter) (fun _ _ _ => True)
      (limitStart rows requests) := by
    refine ⟨⟨hstart, fun i j own other hi => ?_, fun i => rfl⟩, fun i => ?_⟩
    · cases hi
    · exact guardrails_outline hmeter (hasked i)
  have hok : (limitSystem ι).Along (Spec.Ok (meterSpec ι slot meter))
      (limitStart rows requests) xs :=
    System.along_mono _ (fun _ _ _ h op hop => ⟨h.1 op hop, h.2 op hop⟩)
      (System.along_and _ hwaits hturn)
  exact (outline_run hstarted hok).2.inv.meter

end Runs

/-! ## Meters -/

/-- The units that some grants gave out between two clock readings. -/
def used (granted : List Grant) (s t : ℚ) : ℚ :=
  ((granted.filter fun g => s ≤ g.now ∧ g.now ≤ t).map (·.units)).sum

/-- The units that some grants gave out. -/
def total (granted : List Grant) : ℚ := (granted.map (·.units)).sum

theorem used_append (granted : List Grant) (grant : Grant) (s t : ℚ) :
    used (granted ++ [grant]) s t =
      used granted s t + if s ≤ grant.now ∧ grant.now ≤ t then grant.units else 0 := by
  rw [used, used, List.filter_append, List.map_append, List.sum_append]
  split_ifs with hin <;> simp [hin]

theorem total_append (granted : List Grant) (grant : Grant) :
    total (granted ++ [grant]) = total granted + grant.units := by
  rw [total, total, List.map_append, List.sum_append, List.map_singleton, List.sum_singleton]

/-- A row as a level and its time. -/
def Row.bucket (row : Row) : ℚ × ℚ := (row.number, row.updatedAt)

/-- The tokens are what the bucket has available. -/
theorem tokens_available (r : TakeRequest) (seen : Option Row) :
    r.tokens seen = TokenBucket.available r.rate r.burst (seen.map Row.bucket) r.now := by
  cases seen <;> rfl

/-- **A bucket** meters what it has given out, when all calls on it have one rate and burst. -/
theorem bucket_meters {key : String} {rate : ℚ} {burst : ℤ} (hrate : 0 ≤ rate)
    (hburst : 0 ≤ burst) : Meters (.bucket key)
      (fun request => ∀ r, request = .take r → r.key = key → r.rate = rate ∧ r.burst = burst)
      fun row granted =>
        TokenBucket.Metered rate (burst : ℚ) (used granted) (row.map Row.bucket) := by
  constructor
  intro request hasked seen row grant granted hcharge hslot horder hmeter
  cases request with
  | bump r =>
    obtain ⟨-, -, rfl⟩ := hcharge
    cases hslot
  | take r =>
    obtain ⟨hunits, rfl, rfl⟩ := hcharge
    obtain ⟨rfl, rfl⟩ := hasked r rfl (Slot.bucket.inj hslot)
    have hnow : ∀ b ∈ seen.map Row.bucket, b.2 ≤ r.now := by
      intro b hb
      obtain ⟨old, hold, rfl⟩ := Option.map_eq_some_iff.1 hb
      rw [hold] at horder
      exact horder
    rw [tokens_available] at hunits ⊢
    exact hmeter.draw hrate (Int.cast_nonneg hburst) hnow hunits (used_append granted _)

/-- **A counter** holds what it has given out, which is no more than its cap. -/
theorem counter_meters (key window : String) (cap : ℤ) : Meters (.counter key window)
    (fun request => ∀ r, request = .bump r → r.key = key → r.window = window → r.cap ≤ cap)
    fun row granted => total granted = (row.map (·.number)).getD 0 ∧ total granted ≤ cap := by
  constructor
  intro request hasked seen row grant granted hcharge hslot _ hmeter
  cases request with
  | take r =>
    obtain ⟨-, -, rfl⟩ := hcharge
    cases hslot
  | bump r =>
    obtain ⟨hvalue, rfl, rfl⟩ := hcharge
    obtain ⟨hkey, hwindow⟩ := Slot.counter.inj hslot
    have hcap : (r.cap : ℚ) ≤ cap := by exact_mod_cast hasked r rfl hkey hwindow
    have hsum : total granted + r.amount = r.value seen := by
      rw [hmeter.1]
      cases seen <;> rfl
    rw [total_append, hsum]
    exact ⟨rfl, hvalue.trans hcap⟩

/-- **The guardrails.** Any connections call `take` and `bump` on tables without rows, statement by
statement, and every write is in turn. Then no bucket gives out more than its burst and what refills
in any window, and no counter more than its cap. -/
theorem guardrails_hold {ι : Type} [DecidableEq ι] (requests : ι → List Request)
    (xs : List (ι × Fate))
    (hwaits : (limitSystem ι).Along Waits (limitStart (fun _ => none) requests) xs)
    (hturn : (limitSystem ι).Along InTurn (limitStart (fun _ => none) requests) xs) :
    (∀ key (rate : ℚ) (burst : ℤ), 0 ≤ rate → 0 ≤ burst →
      (∀ i r, .take r ∈ requests i → r.key = key → r.rate = rate ∧ r.burst = burst) →
        ∀ s t, s ≤ t → used (grantsOf (.bucket key) ((limitSystem ι).run
          (limitStart (fun _ => none) requests) xs).shared.granted) s t ≤ burst + rate * (t - s)) ∧
    ∀ key window (cap : ℤ), 0 ≤ cap →
      (∀ i r, .bump r ∈ requests i → r.key = key → r.window = window → r.cap ≤ cap) →
        total (grantsOf (.counter key window) ((limitSystem ι).run
          (limitStart (fun _ => none) requests) xs).shared.granted) ≤ cap := by
  constructor
  · intro key rate burst hrate hburst hasked s t hst
    have hmeter := meter_run (bucket_meters hrate hburst) (fun _ => none) (fun _ _ => rfl) requests
      (fun i request hmem r heq => hasked i r (heq ▸ hmem)) hwaits hturn
    exact hmeter.bound hrate (Int.cast_nonneg hburst) hst
  · intro key window cap hcap hasked
    have hmeter := meter_run (counter_meters key window cap) (fun _ => none)
      ⟨rfl, Int.cast_nonneg hcap⟩ requests
      (fun i request hmem r heq => hasked i r (heq ▸ hmem)) hwaits hturn
    exact hmeter.2

/-! ## Runs -/

/-- Two units of one bucket, then one of a counter. -/
def threeCalls : Unit → List Request := fun _ =>
  [.take ⟨"merchant:agt_1", 2, 20, 1, 0⟩, .take ⟨"merchant:agt_1", 2, 20, 1, 3⟩,
    .bump ⟨"runs:agt_1", "2026-08-31T00", 60, 1, 3⟩]

/-- Their statements. -/
def threeCalled : List (Unit × Fate) := List.replicate 12 ((), .runs)

theorem guardrails_hold_once :
    used (grantsOf (.bucket "merchant:agt_1") ((limitSystem Unit).run
      (limitStart (fun _ => none) threeCalls) threeCalled).shared.granted) 0 3 ≤ 20 + 2 * (3 - 0) ∧
    total (grantsOf (.counter "runs:agt_1" "2026-08-31T00") ((limitSystem Unit).run
      (limitStart (fun _ => none) threeCalls) threeCalled).shared.granted) ≤ 60 := by
  have hhold := guardrails_hold threeCalls threeCalled (by decide +kernel)
    (by decide +kernel)
  constructor
  · refine hhold.1 "merchant:agt_1" 2 20 (by norm_num) (by norm_num) ?_ 0 3 (by norm_num)
    intro i r hmem _
    simp only [threeCalls, List.mem_cons, Request.take.injEq, reduceCtorEq, List.not_mem_nil,
      or_false] at hmem
    rcases hmem with rfl | rfl <;> exact ⟨rfl, rfl⟩
  · refine hhold.2 "runs:agt_1" "2026-08-31T00" 60 (by norm_num) ?_
    intro i r hmem _ _
    simp only [threeCalls, List.mem_cons, Request.bump.injEq, reduceCtorEq, List.not_mem_nil,
      or_false, false_or] at hmem
    rw [hmem]

/-- One unit of a bucket with one token, asked for by two connections. -/
def bothTake : Bool → List Request := fun _ => [.take ⟨"merchant:agt_1", 2, 1, 1, 0⟩]

/-- One unit of a counter with a cap of one, asked for by two connections. -/
def bothBump : Bool → List Request := fun _ => [.bump ⟨"runs:agt_1", "2026-08-31T00", 1, 1, 0⟩]

/-- Both read the row before either writes it. -/
def raced : List (Bool × Fate) :=
  [(false, .runs), (false, .runs), (true, .runs), (true, .runs), (false, .runs), (false, .runs),
    (true, .runs), (true, .runs)]

/-- Four calls of one connection on a bucket with two tokens, the clock of the second behind. -/
def clockBack : Unit → List Request := fun _ =>
  [.take ⟨"merchant:agt_1", 1 / 5, 2, 1, 10⟩, .take ⟨"merchant:agt_1", 1 / 5, 2, 1, 0⟩,
    .take ⟨"merchant:agt_1", 1 / 5, 2, 1, 10⟩, .take ⟨"merchant:agt_1", 1 / 5, 2, 1, 10⟩]

/-- Their statements. -/
def clockedBack : List (Unit × Fate) := List.replicate 16 ((), .runs)

/-- **Lost charges**: two connections are both granted the last unit of a bucket, or of a counter;
and after a clock that goes back one connection is granted the refill twice. -/
theorem guardrails_raced :
    (∃ xs, (limitSystem Bool).Along Waits (limitStart (fun _ => none) bothTake) xs ∧
      ((1 : ℤ) : ℚ) + 2 * (0 - 0) < used (grantsOf (.bucket "merchant:agt_1")
        ((limitSystem Bool).run (limitStart (fun _ => none) bothTake) xs).shared.granted) 0 0) ∧
    (∃ xs, (limitSystem Bool).Along Waits (limitStart (fun _ => none) bothBump) xs ∧
      ((1 : ℤ) : ℚ) < total (grantsOf (.counter "runs:agt_1" "2026-08-31T00")
        ((limitSystem Bool).run (limitStart (fun _ => none) bothBump) xs).shared.granted)) ∧
    ∃ xs, (limitSystem Unit).Along Waits (limitStart (fun _ => none) clockBack) xs ∧
      ((2 : ℤ) : ℚ) + 1 / 5 * (10 - 10) < used (grantsOf (.bucket "merchant:agt_1")
        ((limitSystem Unit).run (limitStart (fun _ => none) clockBack) xs).shared.granted) 10 10 :=
  ⟨⟨raced, by decide +kernel, by decide +kernel⟩, ⟨raced, by decide +kernel, by decide +kernel⟩,
    clockedBack, by decide +kernel, by decide +kernel⟩

end TryTrust.Limits
