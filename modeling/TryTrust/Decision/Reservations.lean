import TryTrust.Conc.Cell
import TryTrust.Conc.Interp

/-!
# The reservation store over Postgres

`PostgresReservationStore.reserve` and `release`, in transactions of any number of callers at once.

* `Balance`, `Purchase`, `Store`; `Call`, `exec`, `sem`: the statements;
* `reserveRow`, `releaseRow`, `inTransaction`; `Ask`, `serve`: what a caller may ask;
* `Effect`, an update of a mandate that matched its row; `Work`; `storeSystem`, `storeStart`;
* `Books`: the rows are what the effects add up to, within the limits; `Once`: no reservation is
  given back twice;
* **`reservations_sound`**: limits and updates are kept in every run; a reservation is given back
  once where its purchase leaves `pending_capture` together with its release.
-/

namespace TryTrust.Reservations

open Conc

/-! ## Rows -/

/-- The columns of `mandates` that the store reads; its money texts, which `_fmt_money` wrote, as
cents. -/
structure Balance where
  reserved : ℕ
  spent : ℕ
  txnCount : ℕ
  status : String
  deriving DecidableEq, Repr

/-- The columns of `purchases` that the store reads. -/
structure Purchase where
  mandateJti : String
  status : String
  reservationId : Option String
  deriving DecidableEq, Repr

/-- The purchase waits for the capture of a reservation of a mandate. -/
def Purchase.awaits (p : Purchase) (jti reservationId : String) : Bool :=
  p.mandateJti = jti && decide (p.status = "pending_capture") &&
    decide (p.reservationId = some reservationId)

/-- The tables; a row of `purchases` may be missing. -/
structure Store (ι : Type) where
  mandates : Table ι String Balance
  purchases : Table ι String (Option Purchase)

/-! ## Statements -/

/-- A call of a session. -/
inductive Call (ι : Type) where
  /-- `uuid4`. -/
  | newId (i : ι)
  /-- The purchase of the reservation key, `SELECT reservation_id`. -/
  | selectReplay (i : ι) (key : String)
  /-- The mandate, as `reserve` reads it. -/
  | selectMandate (i : ι) (jti : String)
  /-- The guarded `UPDATE` of `reserve`; the identifier is for the record only. -/
  | updateReserved (i : ι) (jti : String) (read : Balance) (amount : ℕ) (identifier : String)
  /-- `SELECT 1 FROM purchases` of a pending reservation. -/
  | selectPending (i : ι) (reservationId jti : String)
  /-- The mandate, as `release` reads it: `reserved_amount` and `txn_count`. -/
  | selectReserved (i : ι) (jti : String)
  /-- The guarded `UPDATE` of `release`; the reservation's id is for the record only. -/
  | updateReleased (i : ι) (jti : String) (reserved txnCount amount : ℕ)
      (reservationId : Option String)
  /-- The caller writes its purchase. -/
  | savePurchase (i : ι) (id : String) (p : Purchase)
  | commit (i : ι)
  | rollback (i : ι)

/-- The answer of a call. -/
def Res {ι : Type} : Call ι → Type
  | .newId _ => String
  | .selectReplay .. => Option (Option String)
  | .selectMandate .. => Option Balance
  | .updateReserved .. => Bool
  | .selectPending .. => Bool
  | .selectReserved .. => Option (ℕ × ℕ)
  | .updateReleased .. => Bool
  | _ => Unit

/-- What is outside: the exception that the call raises, and a new identifier. -/
structure Env where
  raises : Option String := none
  fresh : String := ""

/-- A program of a session. -/
abbrev Tx (ι α : Type) : Type := Prog (Call ι) Res String α

section Statements

variable {ι : Type} [DecidableEq ι]

/-- The row of a mandate. -/
def mandateRow (i : ι) (jti : String) (d : Store ι) : Option Balance :=
  if jti ∈ d.mandates.keys then some ((d.mandates.cell jti).seen i) else none

/-- The row of a purchase. -/
def purchaseRow (i : ι) (id : String) (d : Store ι) : Option Purchase :=
  if id ∈ d.purchases.keys then (d.purchases.cell id).seen i else none

/-- The `WHERE` of the update of `reserve`. -/
def reservable (i : ι) (jti : String) (read : Balance) (d : Store ι) : Bool :=
  (mandateRow i jti d).any fun b => b.status = "active" && decide (b.reserved = read.reserved) &&
    decide (b.spent = read.spent) && decide (b.txnCount = read.txnCount)

/-- The `WHERE` of the update of `release`. -/
def releasable (i : ι) (jti : String) (reserved txnCount : ℕ) (d : Store ι) : Bool :=
  (mandateRow i jti d).any fun b => b.reserved = reserved && decide (b.txnCount = txnCount)

/-- A session sees a purchase that waits for the capture of a reservation. -/
def pendingFor (i : ι) (jti reservationId : String) (d : Store ι) : Bool :=
  d.purchases.keys.any fun id =>
    ((d.purchases.cell id).seen i).any fun p => p.awaits jti reservationId

/-- A purchase is inserted or updated. -/
def saveRow (i : ι) (id : String) (p : Purchase) (t : Table ι String (Option Purchase)) :
    Table ι String (Option Purchase) :=
  (Table.mk (t.keys.insert id) t.cell).rewrite i [id] fun _ _ => some p

/-- What a call does when it does not raise. -/
def exec (e : Env) : (op : Call ι) → Store ι → Res op × Store ι
  | .newId _, d => (e.fresh, d)
  | .selectReplay i key, d =>
    (((purchaseRow i key d).filter fun p => p.status = "pending_capture").map (·.reservationId), d)
  | .selectMandate i jti, d => (mandateRow i jti d, d)
  | .updateReserved i jti read amount _, d =>
    if reservable i jti read d then
      (true, { d with mandates := d.mandates.rewrite i [jti] fun _ b =>
        { b with reserved := read.reserved + amount, txnCount := read.txnCount + 1 } })
    else (false, d)
  | .selectPending i reservationId jti, d => (pendingFor i jti reservationId d, d)
  | .selectReserved i jti, d => ((mandateRow i jti d).map fun b => (b.reserved, b.txnCount), d)
  | .updateReleased i jti reserved txnCount amount _, d =>
    if releasable i jti reserved txnCount d then
      (true, { d with mandates := d.mandates.rewrite i [jti] fun _ b =>
        { b with reserved := reserved - amount, txnCount := txnCount - 1 } })
    else (false, d)
  | .savePurchase i id p, d =>
    ((), { d with purchases := saveRow i id p d.purchases })
  | .commit i, d =>
    ((), { mandates := d.mandates.commit i, purchases := d.purchases.commit i })
  | .rollback i, d =>
    ((), { mandates := d.mandates.rollback i, purchases := d.purchases.rollback i })

/-- The call ends a transaction for good, whatever becomes of the connection. -/
def Call.ends : Call ι → Bool
  | .rollback _ => true
  | _ => false

/-- **One call**: it raises without an effect, or runs. -/
def sem (e : Env) (op : Call ι) (d : Store ι) : Except String (Res op) × Store ι :=
  match e.raises, op.ends with
  | some x, false => (.error x, d)
  | _, _ => (.ok (exec e op d).1, (exec e op d).2)

/-- One call of a program. -/
def call (op : Call ι) : Tx ι (Res op) := Prog.perform op

/-! ## The store -/

/-- The arguments of `reserve`. -/
structure ReserveRequest where
  mandateId : String
  amount : ℕ
  totalBudget : ℕ
  maxTxnCount : Option ℕ
  reservationId : Option String
  reservationKey : Option String

/-- `reservation_id or str(uuid4())`. -/
def identifierOf (i : ι) (r : ReserveRequest) : Tx ι String :=
  match r.reservationId.filter (· ≠ "") with
  | some id => pure id
  | none => call (.newId i)

/-- The replay of a reservation key; `none` when no purchase of it is pending. -/
def replayOf (i : ι) (r : ReserveRequest) : Tx ι (Option (Option String)) :=
  match r.reservationKey with
  | some key => call (.selectReplay i key)
  | none => pure none

/-- What `reserve` does about the row of its mandate. -/
def reserveOn (i : ι) (r : ReserveRequest) (identifier : String) (read : Balance) :
    Tx ι (Option String) :=
  if read.status ≠ "active" then pure none
  else if read.reserved + read.spent + r.amount > r.totalBudget then pure none
  else if r.maxTxnCount.any fun n => decide (read.txnCount + 1 > n) then pure none
  else do
    let won : Bool ← call (.updateReserved i r.mandateId read r.amount identifier)
    pure (if won then some identifier else none)

/-- What `reserve` does after its read of the mandate. -/
def reserveRead (i : ι) (r : ReserveRequest) (identifier : String) :
    Option Balance → Tx ι (Option String)
  | none => pure none
  | some read => reserveOn i r identifier read

/-- What `reserve` does after its look for a replay. -/
def reserveUnless (i : ι) (r : ReserveRequest) (identifier : String) :
    Option (Option String) → Tx ι (Option String)
  | some id => pure (id.filter (· ≠ ""))
  | none => (call (.selectMandate i r.mandateId)).bind (reserveRead i r identifier)

/-- The body of `reserve`. -/
def reserveRow (i : ι) (r : ReserveRequest) : Tx ι (Option String) := do
  let identifier : String ← identifierOf i r
  let existing : Option (Option String) ← replayOf i r
  reserveUnless i r identifier existing

/-- The check of `release` that the reservation is pending. -/
def stillPending (i : ι) (mandateId : String) : Option String → Tx ι Bool
  | some id => call (.selectPending i id mandateId)
  | none => pure true

/-- What `release` does about the row of its mandate. -/
def releaseOn (i : ι) (mandateId : String) (amount : ℕ) (reservationId : Option String)
    (read : ℕ × ℕ) : Tx ι Bool :=
  if read.1 < amount then pure false
  else call (.updateReleased i mandateId read.1 read.2 amount reservationId)

/-- What `release` does after its read of the mandate. -/
def releaseRead (i : ι) (mandateId : String) (amount : ℕ) (reservationId : Option String) :
    Option (ℕ × ℕ) → Tx ι Bool
  | none => pure false
  | some read => releaseOn i mandateId amount reservationId read

/-- What `release` does after its check. -/
def releaseIf (i : ι) (mandateId : String) (amount : ℕ) (reservationId : Option String) :
    Bool → Tx ι Bool
  | false => pure false
  | true => (call (.selectReserved i mandateId)).bind (releaseRead i mandateId amount reservationId)

/-- The body of `release`. -/
def releaseRow (i : ι) (mandateId : String) (amount : ℕ) (reservationId : Option String) :
    Tx ι Bool := do
  let pending : Bool ← stillPending i mandateId reservationId
  releaseIf i mandateId amount reservationId pending

/-- Where a method runs: in the caller's transaction, on a connection of its own, or on the one
connection of the store. -/
inductive Connection where
  | given
  | owned
  | shared
  deriving DecidableEq

/-- `_transaction`; a connection of its own is closed at the end. -/
def inTransaction {α : Type} (i : ι) (c : Connection) (p : Tx ι α) : Tx ι α :=
  match c with
  | .given => p
  | c => do
    let done : Except String α ← p.attempt
    match done with
    | .error x => do
      call (.rollback i)
      .raise x
    | .ok a => do
      let kept : Except String Unit ← (call (.commit i) : Tx ι Unit).attempt
      match kept, c with
      | .ok _, _ => pure a
      | .error x, .owned => do
        call (.rollback i)
        .raise x
      | .error x, _ => .raise x

/-- What a caller may ask: a method of the store, a write of its purchase, the end of its own
transaction. -/
inductive Ask where
  | reserve (c : Connection) (r : ReserveRequest)
  | release (c : Connection) (mandateId : String) (amount : ℕ) (reservationId : Option String)
  | savePurchase (id : String) (p : Purchase)
  | commit
  | rollback

/-- What a caller is answered. -/
def Reply : Ask → Type
  | .reserve .. => Option String
  | .release .. => Bool
  | _ => Unit

/-- **What a caller asks**, as statements of its session. -/
def serve (i : ι) : (a : Ask) → Tx ι (Reply a)
  | .reserve c r => inTransaction i c (reserveRow i r)
  | .release c mandateId amount reservationId =>
    inTransaction i c (releaseRow i mandateId amount reservationId)
  | .savePurchase id p => call (.savePurchase i id p)
  | .commit => call (.commit i)
  | .rollback => call (.rollback i)

end Statements

/-- A caller that asks one thing after the other. -/
def asks : List Ask → Prog Ask Reply String Unit
  | [] => pure ()
  | a :: as => (Prog.perform a).bind fun _ => asks as

/-! ## Effects -/

/-- What a mandate allows. -/
structure Limits where
  budget : ℕ
  maxTxnCount : Option ℕ

/-- A balance within its limits. -/
structure Balance.Within (b : Balance) (l : Limits) : Prop where
  budget : b.spent + b.reserved ≤ l.budget
  count : ∀ n ∈ l.maxTxnCount, b.txnCount ≤ n

/-- A caller that passes the limits of its mandates. -/
def Ask.Within (L : String → Limits) : Ask → Prop
  | .reserve _ r => r.totalBudget ≤ (L r.mandateId).budget ∧
      ∀ n ∈ (L r.mandateId).maxTxnCount, ∃ k ∈ r.maxTxnCount, k ≤ n
  | _ => True

/-- **An update of a mandate that matched its row**: a reservation, or a release of one. -/
inductive Effect where
  | reserve (jti id : String) (amount : ℕ)
  | release (jti : String) (id : Option String) (amount : ℕ)
  deriving DecidableEq

/-- The mandate of an effect. -/
def Effect.jti : Effect → String
  | .reserve jti _ _ => jti
  | .release jti _ _ => jti

/-- A balance after an effect on its mandate; no release gives back what is not reserved. -/
def Effect.apply (b : Balance) : Effect → Option Balance
  | .reserve _ _ amount =>
    some { b with reserved := b.reserved + amount, txnCount := b.txnCount + 1 }
  | .release _ _ amount =>
    if amount ≤ b.reserved then
      some { b with reserved := b.reserved - amount, txnCount := b.txnCount - 1 }
    else none

/-- The balance of a mandate after effects, one after the other. -/
def settle (jti : String) (b : Balance) (es : List Effect) : Option Balance :=
  (es.filter fun e => e.jti = jti).foldlM Effect.apply b

/-- The effect reserves an id under a mandate. -/
def Effect.reserves (jti id : String) : Effect → Bool
  | .reserve m k _ => m = jti && k = id
  | .release .. => false

/-- The effect gives a reservation back. -/
def Effect.releases (jti id : String) : Effect → Bool
  | .reserve .. => false
  | .release m k _ => m = jti && k = some id

/-- How often an id was reserved under a mandate. -/
def reservedTimes (jti id : String) (es : List Effect) : ℕ :=
  es.countP (Effect.reserves jti id)

/-- How often a reservation was given back. -/
def releasedTimes (jti id : String) (es : List Effect) : ℕ :=
  es.countP (Effect.releases jti id)

/-- What a session has done: the effects of its open transaction, and those that it kept. -/
structure Work where
  pending : List Effect := []
  log : List Effect := []

/-- After an answer. -/
def Work.next (γ : Work) : {ι : Type} → (op : Call ι) → Res op → Work
  | _, .updateReserved _ jti _ amount identifier, (won : Bool) =>
    if won then { γ with pending := γ.pending ++ [.reserve jti identifier amount] } else γ
  | _, .updateReleased _ jti _ _ amount reservationId, (won : Bool) =>
    if won then { γ with pending := γ.pending ++ [.release jti reservationId amount] } else γ
  | _, .commit _, _ => { log := γ.log ++ γ.pending }
  | _, .rollback _, _ => { γ with pending := [] }
  | _, _, _ => γ

/-! ## The system -/

section System

variable (ι : Type) [DecidableEq ι]

/-- The sessions. -/
def storeSystem : System ι (Call ι) Res String (Store ι) Work Env where
  sem := sem
  adv _ γ _ op r := match r with
    | .ok a => γ.next op a
    | .error _ => γ

variable {ι}

/-- The rows of the start. -/
structure Rows where
  mandates : List String
  balance : String → Balance
  purchases : List String
  purchase : String → Option Purchase

/-- The configurations of the sessions. -/
abbrev Sessions (ι : Type) : Type := Config ι (Call ι) Res String Unit (Store ι) Work

/-- The start: any rows that no session holds, and each caller before what it asks. -/
def storeStart (rows : Rows) (caller : ι → Prog Ask Reply String Unit) : Sessions ι where
  shared := ⟨⟨rows.mandates, fun k => ⟨rows.balance k, none⟩⟩,
    ⟨rows.purchases, fun k => ⟨if k ∈ rows.purchases then rows.purchase k else none, none⟩⟩⟩
  prog i := (caller i).interp (serve i)
  hist _ := {}

/-- A call that does not wait for a lock. -/
def Granted (d : Store ι) : Call ι → Prop
  | .updateReserved i jti read _ _ => reservable i jti read d → (d.mandates.cell jti).Free i
  | .updateReleased i jti reserved txnCount _ _ =>
    releasable i jti reserved txnCount d → (d.mandates.cell jti).Free i
  | .savePurchase i id _ => (d.purchases.cell id).Free i
  | _ => True

instance (d : Store ι) (op : Call ι) : Decidable (Granted d op) := by
  cases op <;> unfold Granted <;> infer_instance

/-- A step that waits for no lock. -/
def Runs (c : Sessions ι) (i : ι) (_ : Env) : Prop := ∀ op ∈ (c.prog i).next, Granted c.shared op

instance (c : Sessions ι) (i : ι) (e : Env) : Decidable (Runs c i e) :=
  inferInstanceAs (Decidable (∀ op ∈ (c.prog i).next, Granted c.shared op))

/-- A purchase whose newest row waits for the capture of a reservation. -/
def awaited (jti id : String) (d : Store ι) : Bool :=
  d.purchases.keys.any fun k => (d.purchases.cell k).newest.any fun p => p.awaits jti id

/-- The effect leaves no purchase waiting for a reservation that it gave back. -/
def Effect.closed (i : ι) (d : Store ι) : Effect → Bool
  | .release jti (some id) _ => !pendingFor i jti id d
  | _ => true

/-- **A release together with its purchase.** A release that matches its row finds the purchase
still waiting, and is the first of its transaction for the reservation; who commits a release has
taken the purchase out of `pending_capture`; and who saves a purchase as waiting has reserved for
it in the same transaction. -/
def Compensates (γ : Work) (d : Store ι) : Call ι → Prop
  | .updateReleased i jti reserved txnCount _ (some id) =>
    releasable i jti reserved txnCount d → awaited jti id d ∧ releasedTimes jti id γ.pending = 0
  | .commit i => ∀ e ∈ γ.pending, e.closed i d
  | .savePurchase _ _ p => p.status = "pending_capture" →
      ∀ id ∈ p.reservationId, reservedTimes p.mandateJti id γ.pending ≠ 0
  | _ => True

instance (γ : Work) (d : Store ι) (op : Call ι) : Decidable (Compensates γ d op) := by
  unfold Compensates
  split <;> infer_instance

/-- Every step keeps a release together with its purchase. -/
def Together (c : Sessions ι) (i : ι) (_ : Env) : Prop :=
  ∀ op ∈ (c.prog i).next, Compensates (c.hist i) c.shared op

instance (c : Sessions ι) (i : ι) (e : Env) : Decidable (Together c i e) :=
  inferInstanceAs (Decidable (∀ op ∈ (c.prog i).next, Compensates (c.hist i) c.shared op))

end System

/-! ## Counts and balances -/

section Counts

variable {jti id : String} {b b' : Balance} {es fs : List Effect} {e : Effect}

theorem settle_append : settle jti b (es ++ fs) = (settle jti b es).bind fun b => settle jti b fs := by
  rw [settle, List.filter_append, List.foldlM_append]
  rfl

theorem settle_of_not (h : ∀ e ∈ es, e.jti ≠ jti) : settle jti b es = some b := by
  rw [settle, List.filter_eq_nil_iff.2 fun e he => by simpa using h e he]
  rfl

/-- One more effect on the mandate. -/
theorem settle_concat (hb : settle jti b es = some b') (he : e.jti = jti) :
    settle jti b (es ++ [e]) = e.apply b' := by
  rw [settle_append, hb]
  show settle jti b' [e] = _
  rw [settle, List.filter_cons_of_pos (by simpa using he)]
  exact Option.bind_fun_some _

/-- One more effect on another mandate. -/
theorem settle_concat_ne (he : e.jti ≠ jti) : settle jti b (es ++ [e]) = settle jti b es := by
  have hnot : ∀ b, settle jti b [e] = some b := fun b => settle_of_not (by simpa using he)
  rw [settle_append, funext hnot, Option.bind_fun_some]

theorem reservedTimes_append :
    reservedTimes jti id (es ++ fs) = reservedTimes jti id es + reservedTimes jti id fs :=
  List.countP_append

theorem releasedTimes_append :
    releasedTimes jti id (es ++ fs) = releasedTimes jti id es + releasedTimes jti id fs :=
  List.countP_append

/-- A mandate that no effect is on. -/
theorem reservedTimes_of_not (h : ∀ e ∈ es, e.jti ≠ jti) : reservedTimes jti id es = 0 := by
  refine List.countP_eq_zero.2 fun e he hr => h e he ?_
  cases e with
  | reserve m k amount =>
    have hm : m = jti ∧ k = id := by simpa [Effect.reserves] using hr
    exact hm.1
  | release m k amount => cases hr

theorem releasedTimes_of_not (h : ∀ e ∈ es, e.jti ≠ jti) : releasedTimes jti id es = 0 := by
  refine List.countP_eq_zero.2 fun e he hr => h e he ?_
  cases e with
  | reserve m k amount => cases hr
  | release m k amount =>
    have hm : m = jti ∧ k = some id := by simpa [Effect.releases] using hr
    exact hm.1

end Counts

/-! ## The books -/

section Books

variable {ι : Type} [DecidableEq ι]

/-- **The books of the mandates.** In the order of the commits, a row is what the effects that were
kept add up to, and the row that a session holds is that and its open effects; both are within the
limits. -/
structure Books (L : String → Limits) (rows : Rows) (log : List (ι × Effect)) (g : ι → Work)
    (d : Store ι) : Prop where
  keys : d.mandates.keys = rows.mandates
  sessions : ∀ i, (log.filter fun x => x.1 = i).map Prod.snd = (g i).log
  row : ∀ m, settle m (rows.balance m) (log.map Prod.snd) = some (d.mandates.cell m).row
  held : ∀ m i v, (d.mandates.cell m).held = some (i, v) →
    settle m (d.mandates.cell m).row (g i).pending = some v
  holds : ∀ i, ∀ e ∈ (g i).pending, ∃ v, (d.mandates.cell e.jti).held = some (i, v)
  within : ∀ m ∈ rows.mandates, (d.mandates.cell m).row.Within (L m)
  heldWithin : ∀ m ∈ rows.mandates, ∀ h ∈ (d.mandates.cell m).held, h.2.Within (L m)

variable {L : String → Limits} {rows : Rows} {log : List (ι × Effect)} {g : ι → Work}
  {d : Store ι} {i : ι} {γ : Work} {m : String}

/-- A session that does not hold a mandate has no open effect on it. -/
theorem Books.no_effect (h : Books L rows log g d)
    (hnot : ∀ v, (d.mandates.cell m).held ≠ some (i, v)) : ∀ e ∈ (g i).pending, e.jti ≠ m := by
  rintro e he rfl
  obtain ⟨v, hv⟩ := h.holds i e he
  exact hnot v hv

/-- **Who may write a mandate** sees its committed row and its own effects. -/
theorem Books.seen (h : Books L rows log g d) (hfree : (d.mandates.cell m).Free i) :
    settle m (d.mandates.cell m).row (g i).pending = some ((d.mandates.cell m).seen i) := by
  cases hc : (d.mandates.cell m).held with
  | none =>
    rw [Cell.seen_of_none hc, settle_of_not (h.no_effect fun v => by rw [hc]; simp)]
  | some w =>
    obtain ⟨j, v⟩ := w
    obtain rfl : j = i := hfree (j, v) hc
    rw [Cell.seen_of_held hc]
    exact h.held m j v hc

theorem Books.seen_within (h : Books L rows log g d) (hm : m ∈ rows.mandates) :
    ((d.mandates.cell m).seen i).Within (L m) := by
  rcases (d.mandates.cell m).held_or_not i with ⟨v, hv⟩ | hnot
  · rw [Cell.seen_of_held hv]
    exact h.heldWithin m hm _ hv
  · rw [Cell.seen_of_not hnot]
    exact h.within m hm

/-- A call that touches no mandate. -/
theorem Books.quiet (h : Books L rows log g d) {d' : Store ι} (hd : d'.mandates = d.mandates)
    (hγ : γ = g i) : Books L rows log (Function.update g i γ) d' := by
  rw [hγ, Function.update_eq_self]
  obtain ⟨h1, h2, h3, h4, h5, h6, h7⟩ := h
  rw [← hd] at h1 h3 h4 h5 h6 h7
  exact ⟨h1, h2, h3, h4, h5, h6, h7⟩

/-- **An update that matches its row.** -/
theorem Books.update (h : Books L rows log g d) {e : Effect} {v : Balance}
    {f : String → Balance → Balance} (hfree : (d.mandates.cell e.jti).Free i)
    (happly : e.apply ((d.mandates.cell e.jti).seen i) = some v) (hwithin : v.Within (L e.jti))
    (hf : f e.jti ((d.mandates.cell e.jti).seen i) = v)
    (hγ : γ = { g i with pending := (g i).pending ++ [e] }) :
    Books L rows log (Function.update g i γ)
      { d with mandates := d.mandates.rewrite i [e.jti] f } := by
  have hself : (d.mandates.rewrite i [e.jti] f).cell e.jti = (d.mandates.cell e.jti).write i v := by
    rw [Table.cell_rewrite_mem (List.mem_singleton_self _), hf]
  have hother : ∀ m, m ≠ e.jti → (d.mandates.rewrite i [e.jti] f).cell m = d.mandates.cell m :=
    fun m hne => Table.cell_rewrite_not (by simpa using hne)
  refine ⟨h.keys, fun j => ?_, fun m => ?_, fun m j w hw => ?_, fun j x hx => ?_, fun m hk => ?_,
    fun m hk w hw => ?_⟩
  · by_cases hj : j = i
    · subst hj
      rw [Function.update_self, hγ]
      exact h.sessions j
    · rw [Function.update_of_ne hj]
      exact h.sessions j
  · by_cases hne : m = e.jti
    · subst hne
      show _ = some ((d.mandates.rewrite i [e.jti] f).cell e.jti).row
      rw [hself, Cell.row_write]
      exact h.row _
    · show _ = some ((d.mandates.rewrite i [e.jti] f).cell m).row
      rw [hother m hne]
      exact h.row m
  · change ((d.mandates.rewrite i [e.jti] f).cell m).held = some (j, w) at hw
    show settle m ((d.mandates.rewrite i [e.jti] f).cell m).row _ = _
    by_cases hne : m = e.jti
    · subst hne
      rw [hself, Cell.held_write] at hw
      cases hw
      rw [hself, Cell.row_write, Function.update_self, hγ]
      rw [settle_concat (h.seen hfree) rfl]
      exact happly
    · rw [hother m hne] at hw ⊢
      have hold := h.held m j w hw
      by_cases hj : j = i
      · subst hj
        rw [Function.update_self, hγ, settle_concat_ne (Ne.symm hne)]
        exact hold
      · rw [Function.update_of_ne hj]
        exact hold
  · show ∃ w, ((d.mandates.rewrite i [e.jti] f).cell x.jti).held = some (j, w)
    by_cases hj : j = i
    · subst hj
      by_cases hne : x.jti = e.jti
      · exact ⟨v, by rw [hne, hself, Cell.held_write]⟩
      · rw [Function.update_self, hγ] at hx
        rw [hother _ hne]
        rcases List.mem_append.1 hx with hold | hnew
        · exact h.holds j x hold
        · rw [List.mem_singleton] at hnew
          exact absurd (congrArg Effect.jti hnew) hne
    · rw [Function.update_of_ne hj] at hx
      obtain ⟨w, hw⟩ := h.holds j x hx
      have hne : x.jti ≠ e.jti := by
        intro heq
        rw [heq] at hw
        exact Cell.not_free_of_held hw hj hfree
      exact ⟨w, by rw [hother _ hne, hw]⟩
  · show ((d.mandates.rewrite i [e.jti] f).cell m).row.Within (L m)
    by_cases hne : m = e.jti
    · subst hne
      rw [hself, Cell.row_write]
      exact h.within _ hk
    · rw [hother m hne]
      exact h.within m hk
  · change w ∈ ((d.mandates.rewrite i [e.jti] f).cell m).held at hw
    by_cases hne : m = e.jti
    · subst hne
      rw [hself, Cell.held_write, Option.mem_some_iff] at hw
      rw [← hw]
      exact hwithin
    · rw [hother m hne] at hw
      exact h.heldWithin m hk w hw

/-- **A commit** keeps the open effects. -/
theorem Books.commit (h : Books L rows log g d) (hγ : γ = { log := (g i).log ++ (g i).pending })
    {t : Table ι String (Option Purchase)} :
    Books L rows (log ++ (g i).pending.map (Prod.mk i)) (Function.update g i γ)
      ⟨d.mandates.commit i, t⟩ := by
  have hmap : ((g i).pending.map (Prod.mk i)).map Prod.snd = (g i).pending := by
    rw [List.map_map]
    exact List.map_id _
  refine ⟨h.keys, fun j => ?_, fun m => ?_, fun m j w hw => ?_, fun j x hx => ?_, fun m hk => ?_,
    fun m hk w hw => ?_⟩
  · rw [List.filter_append, List.map_append, h.sessions j]
    by_cases hj : j = i
    · subst hj
      rw [Function.update_self, hγ, List.filter_eq_self.2 fun x hx => ?_, hmap]
      obtain ⟨e, -, rfl⟩ := List.mem_map.1 hx
      exact decide_eq_true rfl
    · rw [Function.update_of_ne hj, List.filter_eq_nil_iff.2 fun x hx => ?_]
      · exact List.append_nil _
      · obtain ⟨e, -, rfl⟩ := List.mem_map.1 hx
        simpa using Ne.symm hj
  · show _ = some ((d.mandates.cell m).commit i).row
    rw [List.map_append, hmap, settle_append, h.row m]
    show settle m (d.mandates.cell m).row (g i).pending = _
    rcases (d.mandates.cell m).held_or_not i with ⟨v, hv⟩ | hnot
    · rw [Cell.commit_of_held hv]
      exact h.held m i v hv
    · rw [Cell.commit_of_not hnot]
      exact settle_of_not (h.no_effect hnot)
  · change ((d.mandates.cell m).commit i).held = some (j, w) at hw
    show settle m ((d.mandates.cell m).commit i).row _ = _
    have hj : j ≠ i := by
      rintro rfl
      exact Cell.not_held_commit hw
    rw [Cell.held_commit_iff hj] at hw
    rw [Function.update_of_ne hj, Cell.commit_of_not fun v hv => ?_]
    · exact h.held m j w hw
    · rw [hw] at hv
      cases hv
      exact hj rfl
  · by_cases hj : j = i
    · subst hj
      rw [Function.update_self, hγ] at hx
      cases hx
    · rw [Function.update_of_ne hj] at hx
      obtain ⟨w, hw⟩ := h.holds j x hx
      exact ⟨w, Cell.held_commit_ne hj hw⟩
  · show ((d.mandates.cell m).commit i).row.Within (L m)
    rcases (d.mandates.cell m).held_or_not i with ⟨v, hv⟩ | hnot
    · rw [Cell.commit_of_held hv]
      exact h.heldWithin m hk _ hv
    · rw [Cell.commit_of_not hnot]
      exact h.within m hk
  · change w ∈ ((d.mandates.cell m).commit i).held at hw
    rcases (d.mandates.cell m).held_or_not i with ⟨v, hv⟩ | hnot
    · rw [Cell.commit_of_held hv] at hw
      cases hw
    · rw [Cell.commit_of_not hnot] at hw
      exact h.heldWithin m hk w hw

/-- A rollback forgets the open effects. -/
theorem Books.rollback (h : Books L rows log g d) (hγ : γ = { g i with pending := [] })
    {t : Table ι String (Option Purchase)} :
    Books L rows log (Function.update g i γ) ⟨d.mandates.rollback i, t⟩ := by
  refine ⟨h.keys, fun j => ?_, fun m => ?_, fun m j w hw => ?_, fun j x hx => ?_, fun m hk => ?_,
    fun m hk w hw => ?_⟩
  · by_cases hj : j = i
    · subst hj
      rw [Function.update_self, hγ]
      exact h.sessions j
    · rw [Function.update_of_ne hj]
      exact h.sessions j
  · show _ = some ((d.mandates.cell m).rollback i).row
    rw [Cell.row_rollback]
    exact h.row m
  · change ((d.mandates.cell m).rollback i).held = some (j, w) at hw
    show settle m ((d.mandates.cell m).rollback i).row _ = _
    have hj : j ≠ i := by
      rintro rfl
      exact Cell.not_held_rollback hw
    rw [Cell.held_rollback_iff hj] at hw
    rw [Function.update_of_ne hj, Cell.row_rollback]
    exact h.held m j w hw
  · by_cases hj : j = i
    · subst hj
      rw [Function.update_self, hγ] at hx
      cases hx
    · rw [Function.update_of_ne hj] at hx
      obtain ⟨w, hw⟩ := h.holds j x hx
      exact ⟨w, Cell.held_rollback_ne hj hw⟩
  · show ((d.mandates.cell m).rollback i).row.Within (L m)
    rw [Cell.row_rollback]
    exact h.within m hk
  · change w ∈ ((d.mandates.cell m).rollback i).held at hw
    rcases (d.mandates.cell m).held_or_not i with ⟨v, hv⟩ | hnot
    · rw [Cell.rollback_of_held hv] at hw
      cases hw
    · rw [Cell.rollback_of_not hnot] at hw
      exact h.heldWithin m hk w hw

end Books

/-! ## Reservations that are given back once -/

/-- The reservations of the start: those that a purchase waits for. -/
def initially (rows : Rows) (jti id : String) : ℕ :=
  if rows.purchases.any fun k => (rows.purchase k).any fun p => p.awaits jti id then 1 else 0

section Once

variable {ι : Type} [DecidableEq ι]

/-- **No reservation is given back twice**: not by the effects that were kept, not with those of an
open transaction; and a purchase waits for a reservation that is still there. -/
structure Once (rows : Rows) (log : List (ι × Effect)) (g : ι → Work) (d : Store ι) : Prop where
  absent : ∀ k ∉ d.purchases.keys, (d.purchases.cell k).row = none ∧ (d.purchases.cell k).held = none
  kept : ∀ m id, releasedTimes m id (log.map Prod.snd) ≤
    initially rows m id + reservedTimes m id (log.map Prod.snd)
  waits : ∀ k p m id, (d.purchases.cell k).row = some p → p.awaits m id →
    releasedTimes m id (log.map Prod.snd) < initially rows m id + reservedTimes m id (log.map Prod.snd)
  saved : ∀ k j p m id, (d.purchases.cell k).held = some (j, some p) → p.awaits m id →
    reservedTimes m id (g j).pending ≠ 0
  opened : ∀ j m id, releasedTimes m id (g j).pending ≠ 0 →
    releasedTimes m id (log.map Prod.snd) + releasedTimes m id (g j).pending ≤
      initially rows m id + reservedTimes m id (log.map Prod.snd) +
        reservedTimes m id (g j).pending

variable {L : String → Limits} {rows : Rows} {log : List (ι × Effect)} {g : ι → Work}
  {d : Store ι} {i : ι} {γ : Work} {m id : String}

/-- A call that touches no purchase. -/
theorem Once.quiet (h : Once rows log g d) {d' : Store ι} (hd : d'.purchases = d.purchases)
    (hγ : γ = g i) : Once rows log (Function.update g i γ) d' := by
  rw [hγ, Function.update_eq_self]
  obtain ⟨h1, h2, h3, h4, h5⟩ := h
  rw [← hd] at h1 h3 h4
  exact ⟨h1, h2, h3, h4, h5⟩

/-- An effect is added; a release finds its reservation. -/
theorem Once.update (h : Once rows log g d) {e : Effect} {d' : Store ι}
    (hd : d'.purchases = d.purchases) (hγ : γ = { g i with pending := (g i).pending ++ [e] })
    (hrelease : ∀ m id, e.releases m id →
      releasedTimes m id (log.map Prod.snd) + releasedTimes m id (g i).pending + 1 ≤
        initially rows m id + reservedTimes m id (log.map Prod.snd) +
          reservedTimes m id (g i).pending) :
    Once rows log (Function.update g i γ) d' := by
  obtain ⟨h1, h2, h3, h4, h5⟩ := h
  rw [← hd] at h1 h3 h4
  refine ⟨h1, h2, h3, fun k j p m id hp hawaits => ?_, fun j m id hj => ?_⟩
  · have hold := h4 k j p m id hp hawaits
    by_cases hj : j = i
    · subst hj
      rw [Function.update_self, hγ]
      show reservedTimes m id ((g j).pending ++ [e]) ≠ 0
      rw [reservedTimes_append]
      omega
    · rw [Function.update_of_ne hj]
      exact hold
  · by_cases hji : j = i
    · subst hji
      rw [Function.update_self, hγ] at hj ⊢
      change releasedTimes m id ((g j).pending ++ [e]) ≠ 0 at hj
      show _ + releasedTimes m id ((g j).pending ++ [e]) ≤
        _ + reservedTimes m id ((g j).pending ++ [e])
      rw [releasedTimes_append] at hj ⊢
      rw [reservedTimes_append]
      by_cases hr : e.releases m id
      · have hone : releasedTimes m id [e] = 1 := by
          rw [releasedTimes, List.countP_singleton, if_pos hr]
        have hfound := hrelease m id hr
        omega
      · have hzero : releasedTimes m id [e] = 0 := by
          rw [releasedTimes, List.countP_singleton, if_neg hr]
        rw [hzero, Nat.add_zero] at hj ⊢
        have hold := h5 j m id hj
        omega
    · rw [Function.update_of_ne hji] at hj ⊢
      exact h5 j m id hj

/-- **A waiting purchase has its reservation**, for whoever may write the mandate. -/
theorem Once.found (h : Once rows log g d) (hbooks : Books L rows log g d)
    (hfree : (d.mandates.cell m).Free i) (hawaited : awaited m id d)
    (hnone : releasedTimes m id (g i).pending = 0) :
    releasedTimes m id (log.map Prod.snd) + releasedTimes m id (g i).pending + 1 ≤
      initially rows m id + reservedTimes m id (log.map Prod.snd) +
        reservedTimes m id (g i).pending := by
  obtain ⟨k, -, hk⟩ := List.any_eq_true.1 hawaited
  obtain ⟨p, hp, hawaits⟩ := (Option.any_eq_true _ _).1 hk
  rw [hnone]
  cases hc : (d.purchases.cell k).held with
  | none =>
    rw [Cell.newest_of_none hc] at hp
    have hwaits := h.waits k p m id hp hawaits
    omega
  | some w =>
    obtain ⟨j, v⟩ := w
    rw [Cell.newest_of_held hc] at hp
    subst hp
    have hsaved := h.saved k j p m id hc hawaits
    have hj : j = i := by
      -- who saved the purchase holds the mandate, since it reserved in the same transaction
      by_contra hne
      refine hsaved (reservedTimes_of_not fun e he heq => ?_)
      obtain ⟨u, hu⟩ := hbooks.holds j e he
      rw [heq] at hu
      exact Cell.not_free_of_held hu hne hfree
    subst hj
    have hkept := h.kept m id
    omega

/-- A purchase is saved; one that waits has its reservation in the same transaction. -/
theorem Once.save (h : Once rows log g d) {k : String} {p : Purchase} (hγ : γ = g i)
    (hreserved : p.status = "pending_capture" →
      ∀ id ∈ p.reservationId, reservedTimes p.mandateJti id (g i).pending ≠ 0) :
    Once rows log (Function.update g i γ)
      { d with purchases := saveRow i k p d.purchases } := by
  rw [hγ, Function.update_eq_self]
  have hself : (saveRow i k p d.purchases).cell k = (d.purchases.cell k).write i (some p) :=
    Table.cell_rewrite_mem (List.mem_singleton_self k)
  have hother : ∀ l, l ≠ k → (saveRow i k p d.purchases).cell l = d.purchases.cell l := fun l hl =>
    Table.cell_rewrite_not (by simpa using hl)
  refine ⟨fun l hl => ?_, h.kept, fun l q m id hq hawaits => ?_, fun l j q m id hq hawaits => ?_,
    h.opened⟩
  · change l ∉ d.purchases.keys.insert k at hl
    rw [List.mem_insert_iff, not_or] at hl
    show ((saveRow i k p d.purchases).cell l).row = none ∧
      ((saveRow i k p d.purchases).cell l).held = none
    rw [hother l hl.1]
    exact h.absent l hl.2
  · change ((saveRow i k p d.purchases).cell l).row = some q at hq
    by_cases hl : l = k
    · subst hl
      rw [hself, Cell.row_write] at hq
      exact h.waits l q m id hq hawaits
    · rw [hother l hl] at hq
      exact h.waits l q m id hq hawaits
  · change ((saveRow i k p d.purchases).cell l).held = some (j, some q) at hq
    by_cases hl : l = k
    · subst hl
      rw [hself, Cell.held_write] at hq
      cases hq
      obtain ⟨⟨rfl, hstatus⟩, hid⟩ : (p.mandateJti = m ∧ p.status = "pending_capture") ∧
          p.reservationId = some id := by simpa [Purchase.awaits] using hawaits
      exact hreserved hstatus id hid
    · rw [hother l hl] at hq
      exact h.saved l j q m id hq hawaits

/-- Who commits a release sees no purchase that waits for its reservation. -/
theorem closed_release (hclosed : ∀ e ∈ (g i).pending, e.closed i d)
    (hreleased : releasedTimes m id (g i).pending ≠ 0) : pendingFor i m id d = false := by
  obtain ⟨e, he, hr⟩ := List.countP_pos_iff.1 (Nat.pos_of_ne_zero hreleased)
  have hclosed' := hclosed e he
  cases e with
  | reserve n k amount => cases hr
  | release n k amount =>
    obtain ⟨rfl, rfl⟩ : n = m ∧ k = some id := by simpa [Effect.releases] using hr
    simpa [Effect.closed] using hclosed'

/-- **A commit** of the open effects and of the saved purchases. -/
theorem Once.commit (h : Once rows log g d) (hbooks : Books L rows log g d)
    (hclosed : ∀ e ∈ (g i).pending, e.closed i d) (hγ : γ = { log := (g i).log ++ (g i).pending })
    {t : Table ι String Balance} :
    Once rows (log ++ (g i).pending.map (Prod.mk i)) (Function.update g i γ)
      ⟨t, d.purchases.commit i⟩ := by
  have hmap : (log ++ (g i).pending.map (Prod.mk i)).map Prod.snd =
      log.map Prod.snd ++ (g i).pending := by
    rw [List.map_append, List.map_map]
    congr 1
    exact List.map_id _
  refine ⟨fun k hk => ?_, fun m id => ?_, fun k p m id hp hawaits => ?_,
    fun k j p m id hp hawaits => ?_, fun j m id hj => ?_⟩
  · obtain ⟨hrow, hheld⟩ := h.absent k hk
    show ((d.purchases.cell k).commit i).row = none ∧ ((d.purchases.cell k).commit i).held = none
    rw [Cell.commit_of_not fun v hv => ?_]
    · exact ⟨hrow, hheld⟩
    · rw [hheld] at hv
      cases hv
  · rw [hmap, releasedTimes_append, reservedTimes_append]
    by_cases hzero : releasedTimes m id (g i).pending = 0
    · have hkept := h.kept m id
      omega
    · have hopened := h.opened i m id hzero
      omega
  · change ((d.purchases.cell k).commit i).row = some p at hp
    have hnone : (d.purchases.cell k).seen i = some p → releasedTimes m id (g i).pending = 0 := by
      intro hseen
      by_contra hreleased
      have hfalse := closed_release hclosed hreleased
      have htrue : pendingFor i m id d = true := by
        refine List.any_eq_true.2 ⟨k, ?_, ?_⟩
        · by_contra hk
          obtain ⟨hrow, hheld⟩ := h.absent k hk
          rw [Cell.seen_of_none hheld, hrow] at hseen
          cases hseen
        · rw [hseen]
          exact hawaits
      rw [hfalse] at htrue
      cases htrue
    rw [hmap, releasedTimes_append, reservedTimes_append]
    rcases (d.purchases.cell k).held_or_not i with ⟨v, hv⟩ | hnot
    · rw [Cell.commit_of_held hv] at hp
      obtain rfl : v = some p := hp
      have hsaved := h.saved k i p m id hv hawaits
      have hkept := h.kept m id
      have hzero := hnone (Cell.seen_of_held hv)
      omega
    · rw [Cell.commit_of_not hnot] at hp
      have hwaits := h.waits k p m id hp hawaits
      have hzero := hnone (by rw [Cell.seen_of_not hnot, hp])
      omega
  · change ((d.purchases.cell k).commit i).held = some (j, some p) at hp
    have hj : j ≠ i := by
      rintro rfl
      exact Cell.not_held_commit hp
    rw [Cell.held_commit_iff hj] at hp
    rw [Function.update_of_ne hj]
    exact h.saved k j p m id hp hawaits
  · by_cases hji : j = i
    · subst hji
      rw [Function.update_self, hγ] at hj
      exact absurd rfl hj
    · rw [Function.update_of_ne hji] at hj ⊢
      have hother : ∀ e ∈ (g i).pending, e.jti ≠ m := by
        -- the session that has released holds the mandate
        refine hbooks.no_effect fun v hv => hj (releasedTimes_of_not fun e he heq => ?_)
        obtain ⟨u, hu⟩ := hbooks.holds j e he
        rw [heq, hv] at hu
        cases hu
        exact hji rfl
      rw [hmap, releasedTimes_append, reservedTimes_append, releasedTimes_of_not hother,
        reservedTimes_of_not hother]
      exact h.opened j m id hj

/-- A rollback forgets the open effects with the saved purchases. -/
theorem Once.rollback (h : Once rows log g d) (hγ : γ = { g i with pending := [] })
    {t : Table ι String Balance} :
    Once rows log (Function.update g i γ) ⟨t, d.purchases.rollback i⟩ := by
  refine ⟨fun k hk => ?_, h.kept, fun k p m id hp hawaits => ?_,
    fun k j p m id hp hawaits => ?_, fun j m id hj => ?_⟩
  · obtain ⟨hrow, hheld⟩ := h.absent k hk
    show ((d.purchases.cell k).rollback i).row = none ∧
      ((d.purchases.cell k).rollback i).held = none
    rw [Cell.rollback_of_not fun v hv => ?_]
    · exact ⟨hrow, hheld⟩
    · rw [hheld] at hv
      cases hv
  · change ((d.purchases.cell k).rollback i).row = some p at hp
    rw [Cell.row_rollback] at hp
    exact h.waits k p m id hp hawaits
  · change ((d.purchases.cell k).rollback i).held = some (j, some p) at hp
    have hj : j ≠ i := by
      rintro rfl
      exact Cell.not_held_rollback hp
    rw [Cell.held_rollback_iff hj] at hp
    rw [Function.update_of_ne hj]
    exact h.saved k j p m id hp hawaits
  · by_cases hji : j = i
    · subst hji
      rw [Function.update_self, hγ] at hj
      exact absurd rfl hj
    · rw [Function.update_of_ne hji] at hj ⊢
      exact h.opened j m id hj

end Once

/-! ## Steps -/

section Steps

variable {ι : Type} [DecidableEq ι] {L : String → Limits} {rows : Rows} {log : List (ι × Effect)}
  {g : ι → Work} {d : Store ι} {i : ι} {b : Prop}

theorem reservable_iff {jti : String} {read : Balance} : reservable i jti read d ↔
    jti ∈ d.mandates.keys ∧ ((d.mandates.cell jti).seen i).status = "active" ∧
      ((d.mandates.cell jti).seen i).reserved = read.reserved ∧
        ((d.mandates.cell jti).seen i).spent = read.spent ∧
          ((d.mandates.cell jti).seen i).txnCount = read.txnCount := by
  unfold reservable mandateRow
  split_ifs with h <;> simp [h, and_assoc]

theorem releasable_iff {jti : String} {reserved txnCount : ℕ} :
    releasable i jti reserved txnCount d ↔ jti ∈ d.mandates.keys ∧
      ((d.mandates.cell jti).seen i).reserved = reserved ∧
        ((d.mandates.cell jti).seen i).txnCount = txnCount := by
  unfold releasable mandateRow
  split_ifs with h <;> simp [h]

/-- The calls of a session: its own, and a reservation only within the limits that were read. -/
def Proper (L : String → Limits) (i : ι) : Call ι → Prop
  | .updateReserved j jti read amount _ => j = i ∧
      read.spent + (read.reserved + amount) ≤ (L jti).budget ∧
        ∀ n ∈ (L jti).maxTxnCount, read.txnCount + 1 ≤ n
  | .updateReleased j _ reserved _ amount _ => j = i ∧ amount ≤ reserved
  | .savePurchase j _ _ => j = i
  | .commit j => j = i
  | .rollback j => j = i
  | _ => True

/-- The books, and that nothing is given back twice where releases go with their purchases. -/
def Sound (L : String → Limits) (rows : Rows) (b : Prop) (g : ι → Work) (d : Store ι) : Prop :=
  ∃ log, Books L rows log g d ∧ (b → Once rows log g d)

theorem Sound.quiet (h : Sound L rows b g d) : Sound L rows b (Function.update g i (g i)) d := by
  rw [Function.update_eq_self]
  exact h

/-- The update of `reserve`. -/
theorem updateReserved_sound (h : Sound L rows b g d) {jti identifier : String} {read : Balance}
    {amount : ℕ} (e : Env) (hbudget : read.spent + (read.reserved + amount) ≤ (L jti).budget)
    (hcount : ∀ n ∈ (L jti).maxTxnCount, read.txnCount + 1 ≤ n)
    (hgranted : Granted d (.updateReserved i jti read amount identifier)) :
    Sound L rows b (Function.update g i ((g i).next (.updateReserved i jti read amount identifier)
        (exec e (.updateReserved i jti read amount identifier) d).1))
      (exec e (.updateReserved i jti read amount identifier) d).2 := by
  by_cases hr : reservable i jti read d
  · obtain ⟨log, hbooks, honce⟩ := h
    obtain ⟨-, -, hreserved, hspent, htxn⟩ := reservable_iff.1 hr
    simp only [exec, if_pos hr]
    refine ⟨log, hbooks.update (e := .reserve jti identifier amount) (hgranted hr) ?_ ?_ rfl rfl,
      fun hb => (honce hb).update (e := .reserve jti identifier amount) rfl rfl fun m id hm => ?_⟩
    · simp only [Effect.apply, Effect.jti, hreserved, htxn]
    · refine ⟨?_, ?_⟩
      · show ((d.mandates.cell jti).seen i).spent + (read.reserved + amount) ≤ (L jti).budget
        rw [hspent]
        exact hbudget
      · exact hcount
    · cases hm
  · simp only [exec, if_neg hr]
    exact h.quiet

/-- The update of `release`. -/
theorem updateReleased_sound (h : Sound L rows b g d) {jti : String} {reservationId : Option String}
    {reserved txnCount amount : ℕ} (e : Env) (hamount : amount ≤ reserved)
    (hgranted : Granted d (.updateReleased i jti reserved txnCount amount reservationId))
    (hcomp : b → Compensates (g i) d
      (.updateReleased i jti reserved txnCount amount reservationId)) :
    Sound L rows b (Function.update g i
        ((g i).next (.updateReleased i jti reserved txnCount amount reservationId)
          (exec e (.updateReleased i jti reserved txnCount amount reservationId) d).1))
      (exec e (.updateReleased i jti reserved txnCount amount reservationId) d).2 := by
  by_cases hr : releasable i jti reserved txnCount d
  · obtain ⟨log, hbooks, honce⟩ := h
    obtain ⟨hkey, hreserved, htxn⟩ := releasable_iff.1 hr
    have hold : ((d.mandates.cell jti).seen i).Within (L jti) :=
      hbooks.seen_within (by rwa [← hbooks.keys])
    simp only [exec, if_pos hr]
    refine ⟨log, hbooks.update (e := .release jti reservationId amount) (hgranted hr) ?_ ?_ rfl rfl,
      fun hb => (honce hb).update (e := .release jti reservationId amount) rfl rfl
        fun m id hm => ?_⟩
    · simp only [Effect.apply, Effect.jti, hreserved, htxn, if_pos hamount]
    · refine ⟨?_, fun n hn => ?_⟩
      · have hbudget := hold.budget
        show ((d.mandates.cell jti).seen i).spent + (reserved - amount) ≤ (L jti).budget
        omega
      · have hcount := hold.count n hn
        show txnCount - 1 ≤ n
        omega
    · obtain ⟨rfl, rfl⟩ : jti = m ∧ reservationId = some id := by
        simpa [Effect.releases] using hm
      obtain ⟨hawaited, hnone⟩ := hcomp hb hr
      exact (honce hb).found hbooks (hgranted hr) hawaited hnone
  · simp only [exec, if_neg hr]
    exact h.quiet

/-- **What a call does** keeps the books. -/
theorem exec_sound (h : Sound L rows b g d) (e : Env) {op : Call ι} (hop : Proper L i op)
    (hgranted : Granted d op) (hcomp : b → Compensates (g i) d op) :
    Sound L rows b (Function.update g i ((g i).next op (exec e op d).1)) (exec e op d).2 := by
  cases op with
  | newId j => exact h.quiet
  | selectReplay j key => exact h.quiet
  | selectMandate j jti => exact h.quiet
  | selectPending j reservationId jti => exact h.quiet
  | selectReserved j jti => exact h.quiet
  | updateReserved j jti read amount identifier =>
    obtain ⟨rfl, hbudget, hcount⟩ := hop
    exact updateReserved_sound h e hbudget hcount hgranted
  | updateReleased j jti reserved txnCount amount reservationId =>
    obtain ⟨rfl, hamount⟩ := hop
    exact updateReleased_sound h e hamount hgranted hcomp
  | savePurchase j k p =>
    obtain rfl : j = i := hop
    obtain ⟨log, hbooks, honce⟩ := h
    exact ⟨log, hbooks.quiet rfl rfl, fun hb => (honce hb).save rfl (hcomp hb)⟩
  | commit j =>
    obtain rfl : j = i := hop
    obtain ⟨log, hbooks, honce⟩ := h
    exact ⟨_, hbooks.commit rfl, fun hb => (honce hb).commit hbooks (hcomp hb) rfl⟩
  | rollback j =>
    obtain rfl : j = i := hop
    obtain ⟨log, hbooks, honce⟩ := h
    exact ⟨log, hbooks.rollback rfl, fun hb => (honce hb).rollback rfl⟩

/-- The invariant; no statement waits for a lock. -/
def storeSpec (L : String → Limits) (rows : Rows) (b : Prop) :
    Spec ι (Call ι) Res String (Store ι) Work where
  inv := Sound L rows b
  ok g d i op := Granted d op ∧ (b → Compensates (g i) d op)
  prop _ _ _ _ _ _ := True

/-- **A step** keeps the books. -/
theorem step_sound (h : Sound L rows b g d) (e : Env) {op : Call ι} (hop : Proper L i op)
    (hgranted : Granted d op) (hcomp : b → Compensates (g i) d op) :
    Sound L rows b
      (Function.update g i ((storeSystem ι).adv i (g i) d op ((storeSystem ι).sem e op d).1))
      ((storeSystem ι).sem e op d).2 := by
  have hexec := exec_sound h e hop hgranted hcomp
  cases he : e.raises with
  | none =>
    simp only [storeSystem, sem, he]
    exact hexec
  | some x =>
    cases hends : op.ends with
    | true =>
      simp only [storeSystem, sem, he, hends]
      exact hexec
    | false =>
      simp only [storeSystem, sem, he, hends]
      exact h.quiet

end Steps

/-! ## What callers ask -/

section Asks

variable {ι : Type} [DecidableEq ι] {L : String → Limits} {i : ι}

omit [DecidableEq ι] in
theorem call_proper (op : Call ι) (h : Proper L i op) : (call op).Calls (Proper L i) :=
  Prog.calls_perform h

omit [DecidableEq ι] in
theorem inTransaction_proper {α : Type} (c : Connection) {p : Tx ι α} (hp : p.Calls (Proper L i)) :
    (inTransaction i c p).Calls (Proper L i) := by
  have hundo : ∀ x : String, (((call (.rollback i) : Tx ι Unit).bind fun _ => Prog.raise x :
      Tx ι α)).Calls (Proper L i) := fun x =>
    Prog.calls_bind (call_proper (.rollback i) rfl) fun _ => trivial
  have hend : ∀ c : Connection, c ≠ .given → (inTransaction i c p).Calls (Proper L i) := by
    intro c hc
    unfold inTransaction
    cases c with
    | given => exact absurd rfl hc
    | owned =>
      refine Prog.calls_bind (Prog.calls_attempt hp) fun done => ?_
      cases done with
      | error x => exact hundo x
      | ok a =>
        refine Prog.calls_bind (Prog.calls_attempt (call_proper (.commit i) rfl))
          fun kept => ?_
        cases kept with
        | error x => exact hundo x
        | ok _ => trivial
    | shared =>
      refine Prog.calls_bind (Prog.calls_attempt hp) fun done => ?_
      cases done with
      | error x => exact hundo x
      | ok a =>
        refine Prog.calls_bind (Prog.calls_attempt (call_proper (.commit i) rfl))
          fun kept => ?_
        cases kept with
        | error x => trivial
        | ok _ => trivial
  by_cases hc : c = .given
  · rw [hc]
    exact hp
  · exact hend c hc

omit [DecidableEq ι] in
/-- `reserve` writes only what it has checked. -/
theorem reserveRow_proper {r : ReserveRequest} (hbudget : r.totalBudget ≤ (L r.mandateId).budget)
    (hcount : ∀ n ∈ (L r.mandateId).maxTxnCount, ∃ k ∈ r.maxTxnCount, k ≤ n) :
    (reserveRow i r).Calls (Proper L i) := by
  unfold reserveRow
  refine Prog.calls_bind ?_ fun identifier => Prog.calls_bind ?_ fun existing => ?_
  · unfold identifierOf
    split
    · trivial
    · exact call_proper (.newId i) trivial
  · unfold replayOf
    split
    · exact call_proper (.selectReplay i _) trivial
    · trivial
  · cases existing with
    | some id => trivial
    | none =>
      refine Prog.calls_bind (call_proper (.selectMandate i _) trivial)
        fun (row : Option Balance) => ?_
      cases row with
      | none => trivial
      | some read =>
        rw [reserveRead, reserveOn]
        split_ifs with hstatus hover hmany
        · trivial
        · trivial
        · trivial
        · refine Prog.calls_bind (call_proper (.updateReserved i r.mandateId read
            r.amount identifier) ⟨rfl, by omega, fun n hn => ?_⟩) fun _ => trivial
          obtain ⟨k, hk, hkn⟩ := hcount n hn
          rw [Option.any_eq_true] at hmany
          have hle : ¬ read.txnCount + 1 > k := fun hlt => hmany ⟨k, hk, decide_eq_true hlt⟩
          omega

omit [DecidableEq ι] in
/-- `release` gives back at most what it has read. -/
theorem releaseRow_proper (mandateId : String) (amount : ℕ) (reservationId : Option String) :
    (releaseRow i mandateId amount reservationId).Calls (Proper L i) := by
  unfold releaseRow
  refine Prog.calls_bind ?_ fun pending => ?_
  · cases reservationId with
    | none => trivial
    | some id => exact call_proper (.selectPending i id mandateId) trivial
  · cases pending with
    | false => trivial
    | true =>
      refine Prog.calls_bind (call_proper (.selectReserved i mandateId) trivial)
        fun (row : Option (ℕ × ℕ)) => ?_
      cases row with
      | none => trivial
      | some read =>
        refine Prog.calls_ite (fun _ => trivial) fun hless => ?_
        exact call_proper (.updateReleased i mandateId read.1 read.2 amount
          reservationId) ⟨rfl, by omega⟩

omit [DecidableEq ι] in
/-- **A caller** that passes the limits of its mandates. -/
theorem serve_proper {a : Ask} (ha : a.Within L) : (serve i a).Calls (Proper L i) := by
  cases a with
  | reserve c r => exact inTransaction_proper c (reserveRow_proper ha.1 ha.2)
  | release c mandateId amount reservationId =>
    exact inTransaction_proper c (releaseRow_proper mandateId amount reservationId)
  | savePurchase id p => exact call_proper (.savePurchase i id p) rfl
  | commit => exact call_proper (.commit i) rfl
  | rollback => exact call_proper (.rollback i) rfl

omit [DecidableEq ι] in
theorem asks_within {as : List Ask} (h : ∀ a ∈ as, a.Within L) : (asks as).Calls (Ask.Within L) := by
  induction as with
  | nil => trivial
  | cons a as ih =>
    rw [List.forall_mem_cons] at h
    exact Prog.calls_bind (Prog.calls_perform h.1) fun _ => ih h.2

end Asks

/-! ## Runs -/

section Runs

variable {ι : Type} [DecidableEq ι] {L : String → Limits} {rows : Rows}
  {caller : ι → Prog Ask Reply String Unit}

theorem storeStart_outlined (b : Prop) (hcaller : ∀ i, (caller i).Calls (Ask.Within L))
    (hrows : ∀ m ∈ rows.mandates, (rows.balance m).Within (L m)) :
    Outlined (storeSystem ι) (storeSpec L rows b) (fun _ _ _ => True) (storeStart rows caller) := by
  refine ⟨⟨[], ⟨rfl, fun _ => rfl, fun _ => rfl, fun m i v hv => ?_, fun i e he => ?_, hrows,
    fun m hm h hh => ?_⟩, fun _ => ⟨fun k hk => ⟨if_neg hk, rfl⟩, fun m id => Nat.zero_le _,
      fun k p m id hp hawaits => ?_, fun k j p m id hp hawaits => ?_, fun j m id hj => ?_⟩⟩,
    fun i => ?_⟩
  · cases hv
  · cases he
  · cases hh
  · change (if k ∈ rows.purchases then rows.purchase k else none) = some p at hp
    split_ifs at hp with hk
    have hany : (rows.purchases.any fun k => (rows.purchase k).any fun p => p.awaits m id) = true :=
      List.any_eq_true.2 ⟨k, hk, by rw [hp]; exact hawaits⟩
    show 0 < initially rows m id + 0
    rw [initially, if_pos hany]
    exact Nat.one_pos
  · cases hp
  · exact absurd rfl hj
  · refine outline_calls (φ := Proper L i) (ψ := fun _ => True) ?_ ?_ trivial
    · exact fun g d e op hop _ hinv hok => ⟨step_sound hinv e hop hok.1 hok.2, trivial, trivial⟩
    · exact Prog.calls_interp (fun a ha => serve_proper ha) (hcaller i)

/-- The books along a run, with releases that go with their purchases or without. -/
theorem storeStart_sound (b : Prop) (hcaller : ∀ i, (caller i).Calls (Ask.Within L))
    (hrows : ∀ m ∈ rows.mandates, (rows.balance m).Within (L m)) {xs : List (ι × Env)}
    (hruns : (storeSystem ι).Along Runs (storeStart rows caller) xs)
    (htogether : b → (storeSystem ι).Along Together (storeStart rows caller) xs) :
    Sound L rows b ((storeSystem ι).run (storeStart rows caller) xs).hist
      ((storeSystem ι).run (storeStart rows caller) xs).shared := by
  by_cases hb : b
  · refine (outline_run (storeStart_outlined b hcaller hrows) ?_).2.inv
    refine System.along_mono _ (fun c i e h op hop => ?_) (System.along_and _ hruns (htogether hb))
    exact ⟨h.1 op hop, fun _ => h.2 op hop⟩
  · refine (outline_run (storeStart_outlined b hcaller hrows) ?_).2.inv
    exact System.along_mono _ (fun c i e h op hop => ⟨h op hop, fun hb' => absurd hb' hb⟩) hruns

/-- What a run of the store comes to: the books, and no reservation given back more often than it
was made. -/
structure GivenBackOnce (L : String → Limits) (rows : Rows) (c : Sessions ι)
    (log : List (ι × Effect)) : Prop where
  books : Books L rows log c.hist c.shared
  once : ∀ m id, releasedTimes m id (log.map Prod.snd) ≤
    initially rows m id + reservedTimes m id (log.map Prod.snd)

/-- **Any number of callers, in every interleaving.** The rows stay within the limits and are what
the kept updates add up to; and no reservation is given back twice, when every release goes with its
purchase. -/
theorem reservations_sound (hcaller : ∀ i, (caller i).Calls (Ask.Within L))
    (hrows : ∀ m ∈ rows.mandates, (rows.balance m).Within (L m)) (xs : List (ι × Env))
    (hruns : (storeSystem ι).Along Runs (storeStart rows caller) xs) :
    (∃ log, Books L rows log ((storeSystem ι).run (storeStart rows caller) xs).hist
      ((storeSystem ι).run (storeStart rows caller) xs).shared) ∧
    ((storeSystem ι).Along Together (storeStart rows caller) xs →
      ∃ log, GivenBackOnce L rows ((storeSystem ι).run (storeStart rows caller) xs) log) := by
  constructor
  · obtain ⟨log, hbooks, -⟩ := storeStart_sound False hcaller hrows hruns fun h => h.elim
    exact ⟨log, hbooks⟩
  · intro htogether
    obtain ⟨log, hbooks, honce⟩ := storeStart_sound True hcaller hrows hruns fun _ => htogether
    exact ⟨log, hbooks, (honce trivial).kept⟩

end Runs

/-- A mandate of `5.00`, with nothing reserved. -/
def oneMandate : Rows :=
  ⟨["mdt_1"], fun _ => ⟨0, 0, 0, "active"⟩, [], fun _ => none⟩

/-- `reserve` of `1.00` for a purchase. -/
def reserveFor (purchaseId reservationId : String) : ReserveRequest :=
  ⟨"mdt_1", 100, 500, some 3, some reservationId, some purchaseId⟩

/-- Two callers: one reserves, saves its purchase, and gives the reservation back with it; the other
reserves in between. -/
def compensated (session : Bool) : List Ask :=
  if session then
    [.reserve .given (reserveFor "pur_1" "res_1"),
      .savePurchase "pur_1" ⟨"mdt_1", "pending_capture", some "res_1"⟩, .commit,
      .release .given "mdt_1" 100 (some "res_1"),
      .savePurchase "pur_1" ⟨"mdt_1", "compensated", some "res_1"⟩, .commit]
  else [.reserve .owned (reserveFor "pur_2" "res_2")]

/-- Their steps, without failures. -/
def compensatedSteps : List (Bool × Env) :=
  [(true, {}), (true, {}), (true, {}), (true, {}), (true, {}), (false, {}), (false, {}),
    (false, {}), (false, {}), (true, {}), (true, {}), (true, {}), (true, {}), (true, {})]

/-- What they ask is within the limits. -/
theorem compensated_within (session : Bool) :
    ∀ a ∈ compensated session, a.Within fun _ => ⟨500, some 3⟩ := by
  have hreserve : ∀ c p k, (Ask.reserve c (reserveFor p k)).Within fun _ => ⟨500, some 3⟩ :=
    fun c p k => ⟨le_refl 500, fun n hn => ⟨3, rfl, (Option.some.inj hn).le⟩⟩
  cases session with
  | true =>
    simp only [compensated, if_true, List.forall_mem_cons]
    exact ⟨hreserve _ _ _, trivial, trivial, trivial, trivial, trivial, fun _ h => by cases h⟩
  | false => simpa [compensated] using hreserve _ _ _

theorem reservations_sound_compensated :
    ∃ log, GivenBackOnce (fun _ => ⟨500, some 3⟩) oneMandate
      ((storeSystem Bool).run (storeStart oneMandate fun s => asks (compensated s))
        compensatedSteps) log :=
  (reservations_sound (L := fun _ => ⟨500, some 3⟩) (fun s => asks_within (compensated_within s))
    (fun _ _ => ⟨Nat.zero_le _, fun _ _ => Nat.zero_le _⟩) compensatedSteps
    (by decide +kernel)).2 (by decide +kernel)

/-- A caller that reserves for two purchases, saves the first, and releases it twice. -/
def releasedTwice : List Ask :=
  [.reserve .owned (reserveFor "pur_2" "res_2"), .reserve .given (reserveFor "pur_1" "res_1"),
    .savePurchase "pur_1" ⟨"mdt_1", "pending_capture", some "res_1"⟩, .commit,
    .release .owned "mdt_1" 100 (some "res_1"), .release .owned "mdt_1" 100 (some "res_1")]

/-- Its steps, without failures. -/
def releasedTwiceSteps : List (Unit × Env) := List.replicate 17 ⟨(), none, ""⟩

/-- What they come to. -/
def releasedTwiceRun : Sessions Unit :=
  (storeSystem Unit).run (storeStart oneMandate fun _ => asks releasedTwice)
    releasedTwiceSteps

/-- **One reservation given back twice**, the second time from what another purchase holds. -/
theorem released_twice :
    (storeSystem Unit).Along Runs (storeStart oneMandate fun _ => asks releasedTwice)
      releasedTwiceSteps ∧
    (releasedTwiceRun.shared.mandates.cell "mdt_1").row.reserved = 0 ∧
    ¬ ∃ log, GivenBackOnce (fun _ => ⟨500, some 3⟩) oneMandate releasedTwiceRun log := by
  refine ⟨by decide +kernel, by decide +kernel, ?_⟩
  rintro ⟨log, hbooks, honce⟩
  have hall : log.map Prod.snd = (releasedTwiceRun.hist ()).log := by
    rw [← hbooks.sessions (), List.filter_eq_self.2 fun x _ => decide_eq_true rfl]
  have hone := honce "mdt_1" "res_1"
  rw [hall] at hone
  exact absurd hone (by decide +kernel)

end TryTrust.Reservations
