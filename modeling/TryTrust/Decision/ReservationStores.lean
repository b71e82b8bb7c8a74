import TryTrust.Decision.Reservations
import TryTrust.Decision.Stores

/-!
# The two reservation stores

`InMemoryReservationStore` beside `PostgresReservationStore`, called one after the other.

* `reserveAlone`, `releaseAlone`: what the Postgres store does when nobody else is there;
* `Act`, the calls of the decision service and its writes of purchases; `memory`, `postgres`;
  `Outcome`, an answer with the reason of a refusal;
* `Alike`: the stores hold the same totals; `Act.Linked`: the purchases say what the store in
  memory holds;
* **`stores_agree`**: calls at linked states have the same outcomes and leave the same totals.
-/

namespace TryTrust.Reservations

open Conc
open DecisionCore (Ledger Account)

/-! ## The Postgres store alone -/

section Alone

variable {d : Store Unit} {i : Unit}

/-- A call without a failure. -/
theorem run_call (op : Call Unit) (d : Store Unit) :
    (call op).run (sem {}) d = (.ok (exec {} op d).1, (exec {} op d).2) := by
  rw [call, Prog.run_perform]
  rfl

/-- The purchase of a reservation key that is pending, with its reservation id. -/
def replay (key : String) (d : Store Unit) : Option (Option String) :=
  ((purchaseRow () key d).filter fun p => p.status = "pending_capture").map (·.reservationId)

/-- A mandate with one more reservation. -/
def addReserved (jti : String) (read : Balance) (amount : ℕ) (d : Store Unit) : Store Unit :=
  { d with mandates := d.mandates.rewrite () [jti] fun _ b =>
      { b with reserved := read.reserved + amount, txnCount := read.txnCount + 1 } }

/-- A mandate with one reservation less. -/
def subReserved (jti : String) (read : ℕ × ℕ) (amount : ℕ) (d : Store Unit) : Store Unit :=
  { d with mandates := d.mandates.rewrite () [jti] fun _ b =>
      { b with reserved := read.1 - amount, txnCount := read.2 - 1 } }

/-- `reserve` on a row, when nobody else is there: it wins its update. -/
def reserveOnAlone (r : ReserveRequest) (identifier : String) (read : Balance) (d : Store Unit) :
    Option String × Store Unit :=
  if read.status ≠ "active" then (none, d)
  else if read.reserved + read.spent + r.amount > r.totalBudget then (none, d)
  else if r.maxTxnCount.any fun n => decide (read.txnCount + 1 > n) then (none, d)
  else (some identifier, addReserved r.mandateId read r.amount d)

/-- `reserve` under a key and an id, when nobody else is there. -/
def reserveAlone (r : ReserveRequest) (key identifier : String) (d : Store Unit) :
    Option String × Store Unit :=
  match replay key d with
  | some id => (id.filter (· ≠ ""), d)
  | none =>
    match mandateRow () r.mandateId d with
    | none => (none, d)
    | some read => reserveOnAlone r identifier read d

/-- `release` of a reservation, when nobody else is there. -/
def releaseAlone (jti : String) (amount : ℕ) (reservationId : String) (d : Store Unit) :
    Bool × Store Unit :=
  if pendingFor () jti reservationId d then
    match mandateRow () jti d with
    | none => (false, d)
    | some read =>
      if read.reserved < amount then (false, d)
      else (true, subReserved jti (read.reserved, read.txnCount) amount d)
  else (false, d)

theorem run_reserveOn (r : ReserveRequest) (identifier : String) {read : Balance}
    (hread : mandateRow () r.mandateId d = some read) :
    (reserveOn () r identifier read).run (sem {}) d =
      (.ok (reserveOnAlone r identifier read d).1, (reserveOnAlone r identifier read d).2) := by
  unfold reserveOn reserveOnAlone
  split_ifs with hstatus hover hmany
  · rfl
  · rfl
  · rfl
  · have hmatch : reservable () r.mandateId read d = true := by
      rw [reservable, hread]
      simpa using hstatus
    refine (Prog.run_bind_ok (sem {}) (run_call _ d)).trans ?_
    simp only [exec, if_pos hmatch]
    rfl

theorem run_reserveRow {r : ReserveRequest} {key identifier : String}
    (hkey : r.reservationKey = some key) (hid : r.reservationId = some identifier)
    (hne : identifier ≠ "") :
    (reserveRow () r).run (sem {}) d =
      (.ok (reserveAlone r key identifier d).1, (reserveAlone r key identifier d).2) := by
  have hidentifier : identifierOf () r = pure identifier := by
    rw [identifierOf, hid, Option.filter_some, if_pos (by simpa using hne)]
  have hreplay : replayOf () r = call (.selectReplay () key) := by
    rw [replayOf, hkey]
  rw [reserveRow, hidentifier, hreplay]
  refine (Prog.run_bind_ok (sem {}) (run_call _ d)).trans ?_
  change (reserveUnless () r identifier (replay key d)).run (sem {}) d = _
  rw [reserveAlone]
  cases replay key d with
  | some id => rfl
  | none =>
    refine (Prog.run_bind_ok (sem {}) (run_call _ d)).trans ?_
    change (reserveRead () r identifier (mandateRow () r.mandateId d)).run (sem {}) d = _
    cases hm : mandateRow () r.mandateId d with
    | none => rfl
    | some read => exact run_reserveOn r identifier hm

theorem run_releaseRow (jti : String) (amount : ℕ) (reservationId : String) :
    (releaseRow () jti amount (some reservationId)).run (sem {}) d =
      (.ok (releaseAlone jti amount reservationId d).1,
        (releaseAlone jti amount reservationId d).2) := by
  rw [releaseRow]
  refine (Prog.run_bind_ok (sem {}) (run_call _ d)).trans ?_
  change (releaseIf () jti amount (some reservationId) (pendingFor () jti reservationId d)).run
    (sem {}) d = _
  rw [releaseAlone]
  cases pendingFor () jti reservationId d with
  | false => rfl
  | true =>
    refine (Prog.run_bind_ok (sem {}) (run_call _ d)).trans ?_
    change (releaseRead () jti amount (some reservationId)
      ((mandateRow () jti d).map fun b => (b.reserved, b.txnCount))).run (sem {}) d = _
    cases hm : mandateRow () jti d with
    | none => rfl
    | some read =>
      by_cases hless : read.reserved < amount
      · simp only [if_pos hless]
        exact congrArg (Prog.run (sem {}) · d) (if_pos hless)
      · have hmatch : releasable () jti read.reserved read.txnCount d = true := by
          rw [releasable, hm]
          simp
        simp only [if_neg hless]
        refine (congrArg (Prog.run (sem {}) · d) (if_neg hless)).trans ((run_call _ d).trans ?_)
        simp only [exec, if_pos hmatch]
        rfl

/-- What is left of a method's transaction. -/
def ended (c : Connection) (d : Store Unit) : Store Unit :=
  if c = .given then d else (exec {} (.commit ()) d).2

theorem run_inTransaction {α : Type} (c : Connection) {p : Tx Unit α} {a : α} {d' : Store Unit}
    (h : p.run (sem {}) d = (.ok a, d')) :
    (inTransaction () c p).run (sem {}) d = (.ok a, ended c d') := by
  have htry : p.attempt.run (sem {}) d = (.ok (.ok a), d') := by
    rw [Prog.run_attempt, h]
  cases c with
  | given => exact h
  | owned => exact Prog.run_bind_ok (sem {}) htry
  | shared => exact Prog.run_bind_ok (sem {}) htry

theorem mandateRow_commit (jti : String) :
    mandateRow () jti (exec {} (.commit ()) d).2 = mandateRow () jti d := by
  show (if jti ∈ d.mandates.keys then some (((d.mandates.cell jti).commit ()).seen ()) else none) = _
  rcases (d.mandates.cell jti).held_or_not () with ⟨v, hv⟩ | hnot
  · rw [mandateRow, Cell.commit_of_held hv, Cell.seen_of_held hv]
    rfl
  · rw [mandateRow, Cell.commit_of_not hnot]

theorem mandateRow_ended (c : Connection) (jti : String) :
    mandateRow () jti (ended c d) = mandateRow () jti d := by
  unfold ended
  split_ifs
  · rfl
  · exact mandateRow_commit jti

/-- The rows after a write of a mandate that is there. -/
theorem mandateRow_rewrite {jti : String} {read : Balance} (hread : mandateRow () jti d = some read)
    (f : String → Balance → Balance) (m : String) :
    mandateRow () m { d with mandates := d.mandates.rewrite () [jti] f } =
      if m = jti then some (f jti read) else mandateRow () m d := by
  unfold mandateRow at hread ⊢
  split_ifs at hread with hkey
  rw [Option.some.injEq] at hread
  show (if m ∈ d.mandates.keys then
    some (((d.mandates.rewrite () [jti] f).cell m).seen ()) else none) = _
  by_cases hm : m = jti
  · subst hm
    rw [if_pos hkey, if_pos rfl, Table.cell_rewrite_mem (List.mem_singleton_self m),
      Cell.seen_of_held (Cell.held_write ..), hread]
  · rw [if_neg hm, Table.cell_rewrite_not (by simpa using hm)]

end Alone

/-! ## Calls of the decision service -/

/-- The reservation id of a purchase. -/
def stableReservationId (purchaseId : String) : String := "reservation:" ++ purchaseId

/-- What the decision service does about reservations: its calls of the store, its writes of
purchases, and the ends of its transactions. -/
inductive Act where
  | reserve (c : Connection) (purchaseId mandateId : String) (amount totalBudget : ℕ)
      (maxTxnCount : Option ℕ)
  | release (c : Connection) (mandateId : String) (amount : ℕ) (reservationId : String)
  | savePurchase (id : String) (p : Purchase)
  | commit
  | rollback

/-- The request of `_reserve`. -/
def requestOf (purchaseId mandateId : String) (amount totalBudget : ℕ) (maxTxnCount : Option ℕ) :
    ReserveRequest :=
  ⟨mandateId, amount, totalBudget, maxTxnCount, some (stableReservationId purchaseId),
    some purchaseId⟩

/-- The Postgres store's part of an act. -/
def Act.ask : Act → Ask
  | .reserve c purchaseId mandateId amount totalBudget maxTxnCount =>
    .reserve c (requestOf purchaseId mandateId amount totalBudget maxTxnCount)
  | .release c mandateId amount reservationId => .release c mandateId amount (some reservationId)
  | .savePurchase id p => .savePurchase id p
  | .commit => .commit
  | .rollback => .rollback

/-- The Postgres store after an act. -/
def postgres (a : Act) (d : Store Unit) : Store Unit := ((serve () a.ask).run (sem {}) d).2

/-- The store in memory after an act; transactions are nothing to it. -/
def memory : Act → Ledger → Ledger
  | .reserve _ purchaseId mandateId amount totalBudget maxTxnCount, L =>
    (L.reserve mandateId amount totalBudget maxTxnCount (stableReservationId purchaseId)
      purchaseId).2
  | .release _ mandateId _ reservationId, L => (L.release mandateId reservationId).2
  | _, L => L

/-! ## Answers with reasons -/

/-- Why a call is refused: the check that it fails first. -/
inductive Refusal where
  | otherRequest
  | noReservationId
  | unknownMandate
  | inactive
  | overBudget
  | overCount
  | lostUpdate
  | unknownReservation
  | tooLittleReserved
  deriving DecidableEq

/-- What an act answers. -/
inductive Outcome where
  | reserved (id : String)
  | released
  | refused (why : Refusal)
  | raised
  | done
  deriving DecidableEq

/-- The outcome of a `reserve`. -/
def ofReserve (why : Refusal) : Except String (Option String) → Outcome
  | .ok (some id) => .reserved id
  | .ok none => .refused why
  | .error _ => .raised

/-- The outcome of a `release`. -/
def ofRelease (why : Refusal) : Except String Bool → Outcome
  | .ok true => .released
  | .ok false => .refused why
  | .error _ => .raised

/-- The checks of a balance, in their order. -/
def balanceRefusal (active overBudget overCount : Bool) : Option Refusal :=
  if !active then some .inactive
  else if overBudget then some .overBudget
  else if overCount then some .overCount
  else none

/-- Why the store in memory refuses a `reserve`. -/
def memoryRefusal (m : String) (amount totalBudget : ℕ) (maxTxn : Option ℕ) (key : String)
    (L : Ledger) : Refusal :=
  match L.keys key with
  | some _ => .otherRequest
  | none =>
    let a := L.accountOr m totalBudget
    (balanceRefusal (a.status = "active") (a.spentTotal + a.reservedTotal + amount > a.totalBudget)
      (!Ledger.countOk a maxTxn)).getD .otherRequest

/-- Why the Postgres store refuses a `reserve`. -/
def postgresRefusal (m : String) (amount totalBudget : ℕ) (maxTxn : Option ℕ) (key : String)
    (d : Store Unit) : Refusal :=
  match replay key d with
  | some _ => .noReservationId
  | none =>
    match mandateRow () m d with
    | none => .unknownMandate
    | some b =>
      (balanceRefusal (b.status = "active") (b.reserved + b.spent + amount > totalBudget)
        (maxTxn.any fun n => decide (b.txnCount + 1 > n))).getD .lostUpdate

/-- Why the store in memory refuses a `release`. -/
def memoryKept (m reservationId : String) (L : Ledger) : Refusal :=
  match L.reservations reservationId with
  | none => .unknownReservation
  | some (owner, _) =>
    if owner ≠ m then .unknownReservation
    else if (L.accounts m).isNone then .unknownMandate
    else .tooLittleReserved

/-- Why the Postgres store refuses a `release`. -/
def postgresKept (m reservationId : String) (d : Store Unit) : Refusal :=
  if !pendingFor () m reservationId d then .unknownReservation
  else if (mandateRow () m d).isNone then .unknownMandate
  else .tooLittleReserved

/-- **The outcome in memory.** -/
def memoryOutcome : Act → Ledger → Outcome
  | .reserve _ purchaseId m amount totalBudget maxTxn, L =>
    ofReserve (memoryRefusal m amount totalBudget maxTxn purchaseId L)
      (.ok (L.reserve m amount totalBudget maxTxn (stableReservationId purchaseId) purchaseId).1)
  | .release _ m _ reservationId, L =>
    ofRelease (memoryKept m reservationId L) (.ok (L.release m reservationId).1)
  | _, _ => .done

/-- **The outcome over Postgres.** -/
def postgresOutcome : Act → Store Unit → Outcome
  | .reserve c purchaseId m amount totalBudget maxTxn, d =>
    ofReserve (postgresRefusal m amount totalBudget maxTxn purchaseId d)
      ((serve () (.reserve c (requestOf purchaseId m amount totalBudget maxTxn))).run (sem {}) d).1
  | .release c m amount reservationId, d =>
    ofRelease (postgresKept m reservationId d)
      ((serve () (.release c m amount (some reservationId))).run (sem {}) d).1
  | _, _ => .done

/-! ## Agreement -/

/-- An account, as the columns of a mandate. -/
def balanceOf (a : Account) : Balance :=
  ⟨a.reservedTotal, a.spentTotal, a.txnCountPeriod, a.status⟩

/-- **The stores hold the same totals.** -/
def SameTotals (L : Ledger) (d : Store Unit) : Prop :=
  ∀ m, (L.accounts m).map balanceOf = mandateRow () m d

/-- The reservations of the decision service: under the id of their purchase, with its key. -/
structure Keyed (L : Ledger) : Prop where
  named : ∀ key id, L.keys key = some id → id = stableReservationId key
  keyed : ∀ key, L.keys key = none → L.reservations (stableReservationId key) = none

/-- **The purchases say what the store in memory holds.** A purchase is pending, with its
reservation, exactly when its reservation is held in memory; and the call has the mandate, the
amount and the budget of it. A rollback comes only where no mandate has been written. -/
def Act.Linked (L : Ledger) (d : Store Unit) : Act → Prop
  | .reserve _ purchaseId m amount totalBudget _ =>
    match L.keys purchaseId with
    | some id => replay purchaseId d = some (some id) ∧ L.reservations id = some (m, amount)
    | none => replay purchaseId d = none ∧
        (L.accounts m).map (·.totalBudget) = some totalBudget
  | .release _ m amount reservationId =>
    match L.reservations reservationId with
    | some x => x = (m, amount) ∧ pendingFor () m reservationId d = true
    | none => pendingFor () m reservationId d = false
  | .rollback => ∀ m, (d.mandates.cell m).held = none
  | _ => True

/-- What holds before every act of a sequence. -/
def Throughout (P : Ledger → Store Unit → Act → Prop) : List Act → Ledger → Store Unit → Prop
  | [], _, _ => True
  | a :: as, L, d => P L d a ∧ Throughout P as (memory a L) (postgres a d)

/-- An act has one outcome, and leaves the same totals. -/
def Agrees (L : Ledger) (d : Store Unit) (a : Act) : Prop :=
  memoryOutcome a L = postgresOutcome a d ∧ SameTotals (memory a L) (postgres a d)

section Agreement

variable {L : Ledger} {d : Store Unit} {m : String} {c : Connection}

theorem stableReservationId_ne (purchaseId : String) : stableReservationId purchaseId ≠ "" := by
  intro h
  have hlength := congrArg String.length h
  rw [stableReservationId, String.length_append] at hlength
  have hname : "reservation:".length = 12 := rfl
  rw [hname] at hlength
  change 12 + _ = 0 at hlength
  omega

theorem SameTotals.ended (h : SameTotals L d) (c : Connection) : SameTotals L (ended c d) := by
  intro m
  rw [mandateRow_ended]
  exact h m

/-- What the Postgres store answers the decision service. -/
theorem postgres_reserve (c : Connection) (purchaseId m : String) (amount totalBudget : ℕ)
    (maxTxn : Option ℕ) (d : Store Unit) :
    (serve () (.reserve c (requestOf purchaseId m amount totalBudget maxTxn))).run (sem {}) d =
      (.ok (reserveAlone (requestOf purchaseId m amount totalBudget maxTxn) purchaseId
          (stableReservationId purchaseId) d).1,
        Reservations.ended c (reserveAlone (requestOf purchaseId m amount totalBudget maxTxn)
          purchaseId (stableReservationId purchaseId) d).2) :=
  run_inTransaction c (run_reserveRow rfl rfl (stableReservationId_ne purchaseId))

theorem postgres_release (c : Connection) (m : String) (amount : ℕ) (reservationId : String)
    (d : Store Unit) :
    (serve () (.release c m amount (some reservationId))).run (sem {}) d =
      (.ok (releaseAlone m amount reservationId d).1,
        Reservations.ended c (releaseAlone m amount reservationId d).2) :=
  run_inTransaction c (run_releaseRow m amount reservationId)

/-- A mandate is written in both stores. -/
theorem SameTotals.write (h : SameTotals L d) {a : Account} (a' : Account)
    (ha : L.accounts m = some a) {f : String → Balance → Balance}
    (hf : f m (balanceOf a) = balanceOf a') {L' : Ledger}
    (hL : L'.accounts = Function.update L.accounts m (some a')) :
    SameTotals L' { d with mandates := d.mandates.rewrite () [m] f } := by
  have hread : mandateRow () m d = some (balanceOf a) := by
    rw [← h m, ha]
    rfl
  intro k
  rw [mandateRow_rewrite hread, hL]
  by_cases hk : k = m
  · subst hk
    rw [if_pos rfl, Function.update_self, Option.map_some, hf]
  · rw [if_neg hk, Function.update_of_ne hk]
    exact h k

/-- An account that is there is found again. -/
theorem setAccount_self {a : Account} (ha : L.accounts m = some a) : L.setAccount m a = L := by
  rw [Ledger.setAccount, ← ha, Function.update_eq_self]

/-- The limit on the count, as each store writes it. -/
theorem countOk_not (a : Account) (maxTxn : Option ℕ) :
    (!Ledger.countOk a maxTxn) = maxTxn.any fun n => decide (a.txnCountPeriod + 1 > n) := by
  unfold Ledger.countOk
  cases maxTxn with
  | none => rfl
  | some n =>
    show (!decide (a.txnCountPeriod + 1 ≤ n)) = decide (a.txnCountPeriod + 1 > n)
    rw [← decide_not]
    exact decide_eq_decide.2 (by omega)

/-- The checks of a balance, one after the other, or their first refusal. -/
theorem ite_balanceRefusal {α : Type} (active exceeds : Prop) [Decidable active] [Decidable exceeds]
    (many : Bool) (x y : α) :
    (if ¬ active then x else if exceeds then x else if many then x else y) =
      if (balanceRefusal active exceeds many).isSome then x else y := by
  unfold balanceRefusal
  by_cases hactive : active
  · by_cases hover : exceeds
    · simp [hactive, hover]
    · cases many <;> simp [hactive, hover]
  · simp [hactive]

/-- What refuses a reservation on an account. -/
def refusalOf (a : Account) (amount : ℕ) (maxTxn : Option ℕ) : Option Refusal :=
  balanceRefusal (a.status = "active") (a.spentTotal + a.reservedTotal + amount > a.totalBudget)
    (!Ledger.countOk a maxTxn)

/-- A `reserve` of a new purchase, in memory. -/
theorem memory_reserve {a : Account} {purchaseId : String} (amount : ℕ) (maxTxn : Option ℕ)
    (hkeyed : Keyed L) (hkey : L.keys purchaseId = none) (ha : L.accounts m = some a) :
    L.reserve m amount a.totalBudget maxTxn (stableReservationId purchaseId) purchaseId =
      if (refusalOf a amount maxTxn).isSome then (none, L)
      else (some (stableReservationId purchaseId),
        { accounts := Function.update L.accounts m (some (a.hold amount))
          reservations := Function.update L.reservations (stableReservationId purchaseId)
            (some (m, amount))
          keys := Function.update L.keys purchaseId (some (stableReservationId purchaseId)) }) := by
  have hor : L.accountOr m a.totalBudget = a := by
    rw [Ledger.accountOr, ha, Option.getD_some]
  rw [refusalOf, ← ite_balanceRefusal]
  unfold Ledger.reserve
  simp only [hkey, hor, setAccount_self ha, hkeyed.keyed purchaseId hkey, ne_eq]

/-- A `reserve` of a new purchase, over Postgres. -/
theorem alone_reserve {a : Account} {purchaseId : String} (amount : ℕ) (maxTxn : Option ℕ)
    (hreplay : replay purchaseId d = none) (hread : mandateRow () m d = some (balanceOf a)) :
    reserveAlone (requestOf purchaseId m amount a.totalBudget maxTxn) purchaseId
        (stableReservationId purchaseId) d =
      if (refusalOf a amount maxTxn).isSome then (none, d)
      else (some (stableReservationId purchaseId), addReserved m (balanceOf a) amount d) := by
  have hread' : mandateRow () (requestOf purchaseId m amount a.totalBudget maxTxn).mandateId d =
    some (balanceOf a) := hread
  rw [refusalOf, ← ite_balanceRefusal, Nat.add_comm a.spentTotal, countOk_not]
  unfold reserveAlone reserveOnAlone
  simp only [hreplay, hread']
  rfl

/-- A reservation that both stores replay. -/
theorem replay_agrees (h : SameTotals L d) (hkeyed : Keyed L) {purchaseId id : String}
    {amount totalBudget : ℕ} {maxTxn : Option ℕ} (hkey : L.keys purchaseId = some id)
    (hreplay : replay purchaseId d = some (some id)) (hheld : L.reservations id = some (m, amount)) :
    Agrees L d (.reserve c purchaseId m amount totalBudget maxTxn) ∧
      Keyed (memory (.reserve c purchaseId m amount totalBudget maxTxn) L) := by
  have hne : id ≠ "" := by
    rw [hkeyed.named purchaseId id hkey]
    exact stableReservationId_ne purchaseId
  have hmemory : L.reserve m amount totalBudget maxTxn (stableReservationId purchaseId) purchaseId =
      (some id, L) := by
    unfold Ledger.reserve
    simp only [hkey, hheld, if_true]
  have halone : reserveAlone (requestOf purchaseId m amount totalBudget maxTxn) purchaseId
      (stableReservationId purchaseId) d = (some id, d) := by
    unfold reserveAlone
    simp only [hreplay]
    rw [Option.filter_some, if_pos (by simpa using hne)]
  refine ⟨⟨?_, ?_⟩, ?_⟩
  · simp only [memoryOutcome, postgresOutcome, postgres_reserve, hmemory, halone]
    rfl
  · simp only [memory, postgres, Act.ask, postgres_reserve, hmemory, halone]
    exact h.ended c
  · simp only [memory, hmemory]
    exact hkeyed

/-- The checks of a balance that refuse a reservation, in both stores. -/
theorem refused_agrees (h : SameTotals L d) (hkeyed : Keyed L) {purchaseId : String}
    {amount totalBudget : ℕ} {maxTxn : Option ℕ} 
    (hmemory : L.reserve m amount totalBudget maxTxn (stableReservationId purchaseId) purchaseId =
      (none, L))
    (halone : reserveAlone (requestOf purchaseId m amount totalBudget maxTxn) purchaseId
      (stableReservationId purchaseId) d = (none, d))
    (hwhy : memoryRefusal m amount totalBudget maxTxn purchaseId L =
      postgresRefusal m amount totalBudget maxTxn purchaseId d) :
    Agrees L d (.reserve c purchaseId m amount totalBudget maxTxn) ∧
      Keyed (memory (.reserve c purchaseId m amount totalBudget maxTxn) L) := by
  refine ⟨⟨?_, ?_⟩, ?_⟩
  · simp only [memoryOutcome, postgresOutcome, postgres_reserve, hmemory, halone, hwhy]
    rfl
  · simp only [memory, postgres, Act.ask, postgres_reserve, hmemory, halone]
    exact h.ended c
  · simp only [memory, hmemory]
    exact hkeyed

/-- A new reservation in memory keeps the ids and keys together. -/
theorem Keyed.add (hkeyed : Keyed L) {purchaseId : String} {x : String × ℕ}
    {accounts : String → Option Account} :
    Keyed ⟨accounts, Function.update L.reservations (stableReservationId purchaseId) (some x),
      Function.update L.keys purchaseId (some (stableReservationId purchaseId))⟩ := by
  refine ⟨fun key id hkey => ?_, fun key hkey => ?_⟩
  · change Function.update L.keys _ _ key = _ at hkey
    by_cases hk : key = purchaseId
    · subst hk
      rw [Function.update_self] at hkey
      exact (Option.some.inj hkey).symm
    · rw [Function.update_of_ne hk] at hkey
      exact hkeyed.named key id hkey
  · change Function.update L.keys _ _ key = _ at hkey
    by_cases hk : key = purchaseId
    · subst hk
      rw [Function.update_self] at hkey
      cases hkey
    · rw [Function.update_of_ne hk] at hkey
      have hne : stableReservationId key ≠ stableReservationId purchaseId := fun heq =>
        hk (String.append_right_inj _ |>.1 heq)
      show Function.update L.reservations _ _ _ = none
      rw [Function.update_of_ne hne]
      exact hkeyed.keyed key hkey

/-- A `reserve` of a purchase that neither store knows. -/
theorem fresh_agrees (h : SameTotals L d) (hkeyed : Keyed L) {purchaseId : String} {amount : ℕ}
    {maxTxn : Option ℕ} {a : Account} (hkey : L.keys purchaseId = none)
    (hreplay : replay purchaseId d = none) (ha : L.accounts m = some a) :
    Agrees L d (.reserve c purchaseId m amount a.totalBudget maxTxn) ∧
      Keyed (memory (.reserve c purchaseId m amount a.totalBudget maxTxn) L) := by
  have hread : mandateRow () m d = some (balanceOf a) := by
    rw [← h m, ha]
    rfl
  have hmemory := memory_reserve amount maxTxn hkeyed hkey ha
  have halone := alone_reserve amount maxTxn hreplay hread
  cases hwhy : refusalOf a amount maxTxn with
  | some why =>
    simp only [hwhy, Option.isSome_some, if_true] at hmemory halone
    refine refused_agrees h hkeyed hmemory halone ?_
    have hmemoryWhy : memoryRefusal m amount a.totalBudget maxTxn purchaseId L =
        (refusalOf a amount maxTxn).getD .otherRequest := by
      unfold memoryRefusal
      simp only [hkey, Ledger.accountOr, ha, Option.getD_some]
      rfl
    have hpostgresWhy : postgresRefusal m amount a.totalBudget maxTxn purchaseId d =
        (refusalOf a amount maxTxn).getD .lostUpdate := by
      unfold postgresRefusal
      simp only [hreplay, hread, refusalOf, countOk_not, Nat.add_comm a.spentTotal]
      rfl
    rw [hmemoryWhy, hpostgresWhy, hwhy]
    rfl
  | none =>
    simp only [hwhy, Option.isSome_none, Bool.false_eq_true, if_false] at hmemory halone
    refine ⟨⟨?_, ?_⟩, ?_⟩
    · simp only [memoryOutcome, postgresOutcome, postgres_reserve, hmemory, halone]
      rfl
    · simp only [memory, postgres, Act.ask, postgres_reserve, hmemory, halone]
      exact (h.write (a.hold amount) ha rfl rfl).ended c
    · simp only [memory, hmemory]
      exact hkeyed.add

/-- A reservation that is gone from memory, with its key. -/
theorem Keyed.remove (hkeyed : Keyed L) (id : String) : Keyed ((L.pop id).popKeys id) := by
  refine ⟨fun key k hkey => ?_, fun key hkey => ?_⟩
  · change (if L.keys key = some id then none else L.keys key) = some k at hkey
    split_ifs at hkey
    exact hkeyed.named key k hkey
  · change (if L.keys key = some id then none else L.keys key) = none at hkey
    show Function.update L.reservations id none (stableReservationId key) = none
    by_cases hid : stableReservationId key = id
    · rw [hid, Function.update_self]
    · rw [Function.update_of_ne hid]
      split_ifs at hkey with hsome
      · exact absurd (hkeyed.named key id hsome).symm hid
      · exact hkeyed.keyed key hkey

/-- A release that both stores refuse. -/
theorem kept_agrees (h : SameTotals L d) {amount : ℕ} {id : String} {L' : Ledger}
    (hmemory : L.release m id = (false, L')) (haccounts : L'.accounts = L.accounts)
    (halone : releaseAlone m amount id d = (false, d))
    (hwhy : memoryKept m id L = postgresKept m id d) : Agrees L d (.release c m amount id) := by
  refine ⟨?_, ?_⟩
  · simp only [memoryOutcome, postgresOutcome, postgres_release, hmemory, halone, hwhy]
    rfl
  · simp only [memory, postgres, Act.ask, postgres_release, hmemory, halone]
    refine SameTotals.ended (fun k => ?_) c
    rw [haccounts]
    exact h k

/-- A release of a reservation that neither store holds. -/
theorem unknown_agrees (h : SameTotals L d) (hkeyed : Keyed L) {amount : ℕ} {id : String}
    (hheld : L.reservations id = none) (hpending : pendingFor () m id d = false) :
    Agrees L d (.release c m amount id) ∧ Keyed (memory (.release c m amount id) L) := by
  have hmemory : L.release m id = (false, L) := by
    unfold Ledger.release
    simp only [hheld]
  refine ⟨kept_agrees h hmemory rfl ?_ ?_, ?_⟩
  · rw [releaseAlone, hpending, if_neg Bool.false_ne_true]
  · simp only [memoryKept, hheld, postgresKept, hpending]
    rfl
  · simp only [memory, hmemory]
    exact hkeyed

/-- A release of a reservation that both stores hold. -/
theorem release_agrees (h : SameTotals L d) (hkeyed : Keyed L) {amount : ℕ} {id : String}
    (hheld : L.reservations id = some (m, amount)) (hpending : pendingFor () m id d = true) :
    Agrees L d (.release c m amount id) ∧ Keyed (memory (.release c m amount id) L) := by
  have hm := h m
  cases ha : L.accounts m with
  | none =>
    rw [ha] at hm
    have hmemory : L.release m id = (false, (L.pop id).popKeys id) := by
      unfold Ledger.release
      simp only [hheld, ha, ne_eq, not_true_eq_false, if_false]
    refine ⟨kept_agrees h hmemory rfl ?_ ?_, ?_⟩
    · rw [releaseAlone, hpending, if_pos rfl, ← hm]
      rfl
    · simp [memoryKept, hheld, ha, postgresKept, hpending, ← hm]
    · simp only [memory, hmemory]
      exact hkeyed.remove id
  | some a =>
    rw [ha, Option.map_some] at hm
    by_cases hless : a.reservedTotal < amount
    · have hmemory : L.release m id = (false, (L.pop id).popKeys id) := by
        unfold Ledger.release
        simp only [hheld, ha, ne_eq, not_true_eq_false, if_false, if_pos hless]
      refine ⟨kept_agrees h hmemory rfl ?_ ?_, ?_⟩
      · rw [releaseAlone, hpending, if_pos rfl, ← hm]
        exact if_pos hless
      · simp [memoryKept, hheld, ha, postgresKept, hpending, ← hm]
      · simp only [memory, hmemory]
        exact hkeyed.remove id
    · have hmemory : L.release m id =
          (true, ((L.pop id).popKeys id).setAccount m (a.free amount)) := by
        unfold Ledger.release
        simp only [hheld, ha, ne_eq, not_true_eq_false, if_false, if_neg hless]
      have halone : releaseAlone m amount id d =
          (true, subReserved m (a.reservedTotal, a.txnCountPeriod) amount d) := by
        rw [releaseAlone, hpending, if_pos rfl, ← hm]
        exact if_neg hless
      refine ⟨⟨?_, ?_⟩, ?_⟩
      · simp only [memoryOutcome, postgresOutcome, postgres_release, hmemory, halone]
        rfl
      · simp only [memory, postgres, Act.ask, postgres_release, hmemory, halone]
        exact (h.write (a.free amount) ha rfl rfl).ended c
      · simp only [memory, hmemory]
        obtain ⟨hnamed, hkept⟩ := hkeyed.remove id
        exact ⟨hnamed, hkept⟩

/-- A purchase is written, and no mandate. -/
theorem SameTotals.purchases (h : SameTotals L d) (t : Table Unit String (Option Purchase)) :
    SameTotals L { d with purchases := t } := h

/-- A rollback that finds no mandate written. -/
theorem SameTotals.rollback (h : SameTotals L d) (hnone : ∀ m, (d.mandates.cell m).held = none) :
    SameTotals L (exec {} (.rollback ()) d).2 := by
  intro m
  rw [h m]
  show (if m ∈ d.mandates.keys then some ((d.mandates.cell m).seen ()) else none) =
    if m ∈ d.mandates.keys then some (((d.mandates.cell m).rollback ()).seen ()) else none
  rw [Cell.rollback_of_not fun v hv => ?_]
  rw [hnone m] at hv
  cases hv

/-- **One act** at linked states. -/
theorem act_agrees (h : SameTotals L d) (hkeyed : Keyed L) {a : Act} (hlinked : a.Linked L d) :
    Agrees L d a ∧ Keyed (memory a L) := by
  cases a with
  | reserve c purchaseId m amount totalBudget maxTxn =>
    cases hkey : L.keys purchaseId with
    | some id =>
      simp only [Act.Linked, hkey] at hlinked
      exact replay_agrees h hkeyed hkey hlinked.1 hlinked.2
    | none =>
      simp only [Act.Linked, hkey] at hlinked
      obtain ⟨hreplay, hbudget⟩ := hlinked
      obtain ⟨a, ha, rfl⟩ := Option.map_eq_some_iff.1 hbudget
      exact fresh_agrees h hkeyed hkey hreplay ha
  | release c m amount reservationId =>
    cases hheld : L.reservations reservationId with
    | some x =>
      simp only [Act.Linked, hheld] at hlinked
      obtain ⟨rfl, hpending⟩ := hlinked
      exact release_agrees h hkeyed hheld hpending
    | none =>
      simp only [Act.Linked, hheld] at hlinked
      exact unknown_agrees h hkeyed hheld hlinked
  | savePurchase id p => exact ⟨⟨rfl, h⟩, hkeyed⟩
  | commit => exact ⟨⟨rfl, h.ended .owned⟩, hkeyed⟩
  | rollback => exact ⟨⟨rfl, h.rollback hlinked⟩, hkeyed⟩

/-- The acts of a sequence. -/
theorem acts_agree (h : SameTotals L d) (hkeyed : Keyed L) {as : List Act}
    (hlinked : Throughout (fun L d a => a.Linked L d) as L d) : Throughout Agrees as L d := by
  induction as generalizing L d with
  | nil => trivial
  | cons a as ih =>
    obtain ⟨hagrees, hkeyed'⟩ := act_agrees h hkeyed hlinked.1
    exact ⟨hagrees, ih hagrees.2 hkeyed' hlinked.2⟩

/-- A store in memory before its first call: registered mandates. -/
def registered (accounts : String → Option Account) : Ledger :=
  ⟨accounts, fun _ => none, fun _ => none⟩

/-- **The two stores**, from any mandates that both know, along any calls of the decision service
whose purchases say what the store in memory holds: the same calls are accepted, the same are
refused for the same reason, and the totals stay the same. -/
theorem stores_agree (accounts : String → Option Account) (d : Store Unit)
    (hstart : SameTotals (registered accounts) d) (as : List Act)
    (hlinked : Throughout (fun L d a => a.Linked L d) as (registered accounts) d) :
    Throughout Agrees as (registered accounts) d :=
  acts_agree hstart ⟨(fun _ _ h => nomatch h), fun _ _ => rfl⟩ hlinked

end Agreement

/-- A mandate of `5.00` in memory, and over Postgres. -/
def oneAccount (m : String) : Option Account :=
  if m = "mdt_1" then some ⟨500, 0, 0, 0, "active"⟩ else none

def oneRow : Store Unit :=
  ⟨⟨["mdt_1"], fun _ => ⟨⟨0, 0, 0, "active"⟩, none⟩⟩, ⟨[], fun _ => ⟨none, none⟩⟩⟩

theorem oneRow_same : SameTotals (registered oneAccount) oneRow := by
  intro m
  by_cases hm : m = "mdt_1"
  · subst hm
    rfl
  · simp [registered, oneAccount, mandateRow, oneRow, hm]

/-- A purchase that is approved, and then compensated with its release. -/
def approvedThenCompensated : List Act :=
  [.reserve .given "pur_1" "mdt_1" 100 500 (some 3),
    .savePurchase "pur_1" ⟨"mdt_1", "pending_capture", some "reservation:pur_1"⟩, .commit,
    .release .given "mdt_1" 100 "reservation:pur_1",
    .savePurchase "pur_1" ⟨"mdt_1", "compensated", none⟩, .commit,
    .release .owned "mdt_1" 100 "reservation:pur_1"]

theorem stores_agree_compensated :
    Throughout Agrees approvedThenCompensated (registered oneAccount) oneRow :=
  stores_agree oneAccount oneRow oneRow_same approvedThenCompensated
    ⟨⟨by decide +kernel, by decide +kernel⟩, trivial, trivial, ⟨rfl, by decide +kernel⟩, trivial,
      trivial, rfl, trivial⟩

/-- An approval whose purchase could not be saved, and which the service undoes. -/
def approvedUnsaved : List Act :=
  [.reserve .owned "pur_1" "mdt_1" 100 500 (some 3),
    .release .owned "mdt_1" 100 "reservation:pur_1"]

/-- **The stores part**: the release succeeds in memory, and is refused over Postgres. -/
theorem stores_part : SameTotals (registered oneAccount) oneRow ∧
    ¬ Throughout Agrees approvedUnsaved (registered oneAccount) oneRow := by
  refine ⟨oneRow_same, fun h => ?_⟩
  have hrelease := h.2.1.1
  revert hrelease
  decide +kernel

end TryTrust.Reservations
