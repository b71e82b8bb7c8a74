import TryTrust.Decision.Stores

/-!
# The in-memory reservation store

All calls of `InMemoryReservationStore`, with every argument that may be missing.

* `Reserve`, `Release`; `reserve`, `release`: the calls; `reserve_named`, `release_named`: on the
  arguments that the service passes they are those of `Ledger`;
* `share`, `live`, `Sound`: the reserved totals are the sums of the reservations, within the limits;
* `Proper`: a release of a reservation of the mandate that it names; **`step_sound`**;
* **`memory_sound`**: the store is sound, and refused releases leave it as it was, in every state of
  a sequence exactly when all its releases are proper; **`memory_leaked`**.
-/

namespace TryTrust.DecisionCore.Memory

/-! ## Calls -/

/-- The arguments of `reserve`: an amount is `none` when `amount_decimal` raises on it; `fresh` is
what `uuid4` draws. -/
structure Reserve where
  mandateId : String
  amount : Option ℕ
  totalBudget : Option ℕ
  reservationId : Option String
  reservationKey : Option String
  fresh : String

/-- The arguments of `release`. -/
structure Release where
  mandateId : String
  amount : Option ℕ
  reservationId : Option String

/-- What a call returns, or that it raises. -/
inductive Outcome where
  | reserved (id : Option String)
  | released (done : Bool)
  | raised
  deriving DecidableEq

/-- `reservation_id or str(uuid4())`. -/
def Reserve.identifier (x : Reserve) : String :=
  ((x.reservationId.filter (· ≠ "")).getD x.fresh)

/-- The store after a new reservation. -/
def hold (L : Ledger) (x : Reserve) (a : Account) (amount : ℕ) : Ledger where
  accounts := Function.update L.accounts x.mandateId (some (a.hold amount))
  reservations := Function.update L.reservations x.identifier (some (x.mandateId, amount))
  keys := match x.reservationKey with
    | some key => Function.update L.keys key (some x.identifier)
    | none => L.keys

/-- The part of `reserve` for a key that is new. -/
def reserveNew (L : Ledger) (x : Reserve) (amount totalBudget : ℕ) (maxTxn : Option ℕ) :
    Option String × Ledger :=
  let a := L.accountOr x.mandateId totalBudget
  let L := L.setAccount x.mandateId a
  if a.status ≠ "active" then (none, L)
  else if a.spentTotal + a.reservedTotal + amount > a.totalBudget then (none, L)
  else if !Ledger.countOk a maxTxn then (none, L)
  else match L.reservations x.identifier with
    | some held => if held = (x.mandateId, amount) then (some x.identifier, L) else (none, L)
    | none => (some x.identifier, hold L x a amount)

/-- **`reserve`**, under the mandate's maximum count. -/
def reserve (L : Ledger) (maxTxn : Option ℕ) (x : Reserve) : Outcome × Ledger :=
  match x.amount, x.totalBudget with
  | some amount, some totalBudget =>
    match x.reservationKey.bind L.keys with
    | some existing =>
      if L.reservations existing = some (x.mandateId, amount) then (.reserved (some existing), L)
      else (.reserved none, L)
    | none => ((.reserved (reserveNew L x amount totalBudget maxTxn).1),
        (reserveNew L x amount totalBudget maxTxn).2)
  | _, _ => (.raised, L)

/-- The part of `release` without a reservation. -/
def releaseAmount (L : Ledger) (m : String) (amount : ℕ) : Bool × Ledger :=
  match L.accounts m with
  | none => (false, L)
  | some a => if a.reservedTotal < amount then (false, L) else (true, L.setAccount m (a.free amount))

/-- **`release`**. -/
def release (L : Ledger) (x : Release) : Outcome × Ledger :=
  match x.amount, x.reservationId with
  | none, _ => (.raised, L)
  | some _, some id => (.released (L.release x.mandateId id).1, (L.release x.mandateId id).2)
  | some amount, none =>
    (.released (releaseAmount L x.mandateId amount).1, (releaseAmount L x.mandateId amount).2)

/-- On the arguments that the service passes, `reserve` is that of the ledger. -/
theorem reserve_named (L : Ledger) (m id key fresh : String) (hid : id ≠ "") (amount totalBudget : ℕ)
    (maxTxn : Option ℕ) :
    reserve L maxTxn ⟨m, some amount, some totalBudget, some id, some key, fresh⟩ =
      (.reserved (L.reserve m amount totalBudget maxTxn id key).1,
        (L.reserve m amount totalBudget maxTxn id key).2) := by
  have hidentifier : Reserve.identifier
      ⟨m, some amount, some totalBudget, some id, some key, fresh⟩ = id := by
    simp [Reserve.identifier, Option.filter, hid]
  simp only [reserve, Ledger.reserve, Option.bind_some]
  cases hkey : L.keys key with
  | some existing =>
    dsimp only
    split_ifs <;> rfl
  | none =>
    cases hheld : L.reservations id with
    | none => simp only [reserveNew, hold, hidentifier, Ledger.setAccount, hheld]
    | some held => simp only [reserveNew, hidentifier, Ledger.setAccount, hheld]

/-- On the arguments that the service passes, `release` is that of the ledger. -/
theorem release_named (L : Ledger) (m id : String) (amount : ℕ) :
    release L ⟨m, some amount, some id⟩ = (.released (L.release m id).1, (L.release m id).2) := rfl

/-! ## What the store is to be -/

/-- What a reservation holds of a mandate. -/
def share (L : Ledger) (m id : String) : ℕ :=
  match L.reservations id with
  | some (owner, amount) => if owner = m then amount else 0
  | none => 0

/-- **A sound store**: every mandate's reserved total is the sum of its live reservations, spent and
reserved are within its budget, and its count is within its maximum. -/
structure Sound (maxTxn : String → Option ℕ) (L : Ledger) : Prop where
  totals : ∃ live : Finset String, (∀ id, id ∈ live ↔ (L.reservations id).isSome) ∧
    ∀ m, L.reserved m = ∑ id ∈ live, share L m id
  budget : ∀ m a, L.accounts m = some a → a.spentTotal + a.reservedTotal ≤ a.totalBudget
  count : ∀ m a, L.accounts m = some a → ∀ n ∈ maxTxn m, a.txnCountPeriod ≤ n

/-- A call. -/
inductive Act where
  | reserve (x : Reserve)
  | release (x : Release)

/-- **One call**. -/
def step (maxTxn : String → Option ℕ) (L : Ledger) : Act → Outcome × Ledger
  | .reserve x => reserve L (maxTxn x.mandateId) x
  | .release x => release L x

/-- The call leaves the store as it was when it is a `reserve` that raises or a `release` that
returns `False`. -/
def Clean (maxTxn : String → Option ℕ) (L : Ledger) (act : Act) : Prop :=
  (step maxTxn L act).1 = .raised ∨ (step maxTxn L act).1 = .released false →
    (step maxTxn L act).2 = L

/-- A property of every call of a sequence, in the state that it meets. -/
def Throughout (maxTxn : String → Option ℕ) (P : Ledger → Act → Prop) : List Act → Ledger → Prop
  | [], _ => True
  | act :: acts, L => P L act ∧ Throughout maxTxn P acts (step maxTxn L act).2

/-- **A proper call**: a release names a live reservation only under its mandate; without a
reservation it is refused, or for nothing. -/
def Proper (L : Ledger) : Act → Prop
  | .reserve _ => True
  | .release x => ∀ amount ∈ x.amount, match x.reservationId with
    | some id => ∀ held ∈ L.reservations id, held.1 = x.mandateId
    | none => ∀ a ∈ L.accounts x.mandateId, a.reservedTotal < amount ∨ amount = 0

/-- The invariant: the store is sound, and live reservations are of mandates that it knows. -/
structure Inv (maxTxn : String → Option ℕ) (L : Ledger) : Prop where
  sound : Sound maxTxn L
  known : ∀ id held, L.reservations id = some held → (L.accounts held.1).isSome

/-! ## Steps -/

section Steps

variable {maxTxn : String → Option ℕ} {L : Ledger} {m : String} {a a' : Account}

theorem reserved_of (h : L.accounts m = some a) : L.reserved m = a.reservedTotal := by
  rw [Ledger.reserved, h]
  rfl

/-- What other reservations hold. -/
theorem share_of_ne {L' : Ledger} {id : String} {held : Option (String × ℕ)}
    (h : L'.reservations = Function.update L.reservations id held) {j : String} (hj : j ≠ id)
    (m : String) : share L' m j = share L m j := by
  rw [share, share, h, Function.update_of_ne hj]

/-- **A new account**, with what its mandate has reserved then. -/
theorem inv_update (h : Inv maxTxn L) {L' : Ledger}
    (haccounts : L'.accounts = Function.update L.accounts m (some a'))
    (hbudget : a'.spentTotal + a'.reservedTotal ≤ a'.totalBudget)
    (hcount : ∀ n ∈ maxTxn m, a'.txnCountPeriod ≤ n)
    (htotals : ∃ live : Finset String, (∀ id, id ∈ live ↔ (L'.reservations id).isSome) ∧
      a'.reservedTotal = ∑ id ∈ live, share L' m id ∧
        ∀ m', m' ≠ m → L.reserved m' = ∑ id ∈ live, share L' m' id)
    (hknown : ∀ id held, L'.reservations id = some held →
      held.1 = m ∨ (L.accounts held.1).isSome) : Inv maxTxn L' := by
  have hself : L'.accounts m = some a' := by rw [haccounts, Function.update_self]
  have hother : ∀ m', m' ≠ m → L'.accounts m' = L.accounts m' := fun m' hm => by
    rw [haccounts, Function.update_of_ne hm]
  obtain ⟨live, hlive, hsum, hsums⟩ := htotals
  refine ⟨⟨⟨live, hlive, fun m' => ?_⟩, fun m' b hb => ?_, fun m' b hb => ?_⟩, fun id held hid => ?_⟩
  · by_cases hm : m' = m
    · rw [hm, reserved_of hself, hsum]
    · rw [← hsums m' hm, Ledger.reserved, Ledger.reserved, hother m' hm]
  · by_cases hm : m' = m
    · rw [hm, hself] at hb
      cases hb
      exact hbudget
    · rw [hother m' hm] at hb
      exact h.sound.budget m' b hb
  · by_cases hm : m' = m
    · rw [hm, hself] at hb
      cases hb
      rw [hm]
      exact hcount
    · rw [hother m' hm] at hb
      exact h.sound.count m' b hb
  · by_cases hm : held.1 = m
    · rw [hm, hself]
      rfl
    · rw [hother _ hm]
      exact (hknown id held hid).resolve_left hm

/-- A mandate's account as `reserve` finds it, or makes it. -/
theorem inv_accountOr (h : Inv maxTxn L) (m : String) (totalBudget : ℕ) :
    L.reserved m = (L.accountOr m totalBudget).reservedTotal ∧
      Inv maxTxn (L.setAccount m (L.accountOr m totalBudget)) := by
  have hreserved : L.reserved m = (L.accountOr m totalBudget).reservedTotal := by
    rw [Ledger.reserved, Ledger.accountOr]
    cases L.accounts m <;> rfl
  refine ⟨hreserved, ?_⟩
  obtain ⟨live, hlive, htotals⟩ := h.sound.totals
  refine inv_update h rfl ?_ ?_ ⟨live, hlive, ?_, fun m' _ => htotals m'⟩ fun id held hid =>
    .inr (h.known id held hid)
  · rw [Ledger.accountOr]
    cases ha : L.accounts m with
    | none => simp
    | some a => exact h.sound.budget m a ha
  · rw [Ledger.accountOr]
    cases ha : L.accounts m with
    | none => simp
    | some a => exact h.sound.count m a ha
  · rw [← hreserved]
    exact htotals m

/-- **A new reservation.** -/
theorem inv_hold (h : Inv maxTxn L) {x : Reserve} {amount : ℕ}
    (hreserved : L.reserved x.mandateId = a.reservedTotal)
    (hbudget : a.spentTotal + a.reservedTotal + amount ≤ a.totalBudget)
    (hcount : ∀ n ∈ maxTxn x.mandateId, a.txnCountPeriod + 1 ≤ n)
    (hnew : L.reservations x.identifier = none) : Inv maxTxn (hold L x a amount) := by
  obtain ⟨live, hlive, htotals⟩ := h.sound.totals
  have hnot : x.identifier ∉ live := by
    rw [hlive, hnew]
    simp
  have hrest : ∀ m, ∑ id ∈ live, share (hold L x a amount) m id = L.reserved m := by
    intro m
    rw [htotals]
    exact Finset.sum_congr rfl fun id hid => share_of_ne rfl (ne_of_mem_of_not_mem hid hnot) m
  have hshare : ∀ m, share (hold L x a amount) m x.identifier =
      if x.mandateId = m then amount else 0 := by
    intro m
    rw [share, hold]
    dsimp only
    rw [Function.update_self]
  refine inv_update h rfl ?_ hcount ⟨insert x.identifier live, fun id => ?_, ?_, fun m' hm => ?_⟩
    fun id held hid => ?_
  · show a.spentTotal + (a.reservedTotal + amount) ≤ a.totalBudget
    omega
  · show _ ↔ (Function.update L.reservations x.identifier _ id).isSome
    by_cases hid : id = x.identifier
    · rw [hid, Function.update_self]
      simp
    · rw [Function.update_of_ne hid, Finset.mem_insert, hlive]
      simp [hid]
  · rw [Finset.sum_insert hnot, hrest, hshare, if_pos rfl, hreserved]
    show a.reservedTotal + amount = _
    omega
  · rw [Finset.sum_insert hnot, hrest, hshare, if_neg (Ne.symm hm), zero_add]
  · have hheld : Function.update L.reservations x.identifier (some (x.mandateId, amount)) id =
        some held := hid
    by_cases hid' : id = x.identifier
    · rw [hid', Function.update_self] at hheld
      cases hheld
      exact .inl rfl
    · rw [Function.update_of_ne hid'] at hheld
      exact .inr (h.known id held hheld)

/-- **A reservation given back.** -/
theorem inv_free (h : Inv maxTxn L) {id : String} {amount : ℕ}
    (hid : L.reservations id = some (m, amount)) (ha : L.accounts m = some a) :
    amount ≤ a.reservedTotal ∧
      Inv maxTxn (((L.pop id).popKeys id).setAccount m (a.free amount)) := by
  obtain ⟨live, hlive, htotals⟩ := h.sound.totals
  have hmem : id ∈ live := by
    rw [hlive, hid]
    rfl
  have hrest : ∀ m', share L m' id + ∑ j ∈ live.erase id,
      share (((L.pop id).popKeys id).setAccount m (a.free amount)) m' j = L.reserved m' := by
    intro m'
    rw [htotals, ← Finset.add_sum_erase live _ hmem]
    congr 1
    exact Finset.sum_congr rfl fun j hj => share_of_ne rfl (Finset.ne_of_mem_erase hj) m'
  have hshare : ∀ m', share L m' id = if m = m' then amount else 0 := by
    intro m'
    rw [share, hid]
  have hm := hrest m
  rw [hshare, if_pos rfl, reserved_of ha] at hm
  refine ⟨by omega, inv_update h rfl ?_ ?_ ⟨live.erase id, fun j => ?_, ?_, fun m' hm' => ?_⟩
    fun j held hj => ?_⟩
  · have hbudget := h.sound.budget m a ha
    show a.spentTotal + (a.reservedTotal - amount) ≤ a.totalBudget
    omega
  · intro n hn
    have hcount := h.sound.count m a ha n hn
    show a.txnCountPeriod - 1 ≤ n
    omega
  · show _ ↔ (Function.update L.reservations id none j).isSome
    by_cases hj : j = id
    · rw [hj, Function.update_self]
      simp
    · rw [Function.update_of_ne hj, Finset.mem_erase, hlive]
      simp [hj]
  · show a.reservedTotal - amount = _
    omega
  · rw [← hrest m', hshare, if_neg (Ne.symm hm'), zero_add]
  · have hheld : Function.update L.reservations id none j = some held := hj
    by_cases hj' : j = id
    · rw [hj', Function.update_self] at hheld
      cases hheld
    · rw [Function.update_of_ne hj'] at hheld
      exact .inr (h.known j held hheld)

/-- What the part of `reserve` for a new key does to the store. -/
theorem reserveNew_cases (L : Ledger) (x : Reserve) (amount totalBudget : ℕ) (maxTxn : Option ℕ) :
    (reserveNew L x amount totalBudget maxTxn).2 =
        L.setAccount x.mandateId (L.accountOr x.mandateId totalBudget) ∨
      ((reserveNew L x amount totalBudget maxTxn).2 =
          hold (L.setAccount x.mandateId (L.accountOr x.mandateId totalBudget)) x
            (L.accountOr x.mandateId totalBudget) amount ∧
        (L.accountOr x.mandateId totalBudget).spentTotal +
            (L.accountOr x.mandateId totalBudget).reservedTotal + amount ≤
          (L.accountOr x.mandateId totalBudget).totalBudget ∧
        Ledger.countOk (L.accountOr x.mandateId totalBudget) maxTxn = true ∧
        L.reservations x.identifier = none) := by
  simp only [reserveNew, Ledger.setAccount]
  split_ifs with hstatus hbudget hcount
  · exact .inl rfl
  · exact .inl rfl
  · exact .inl rfl
  · cases hid : L.reservations x.identifier with
    | some held =>
      dsimp only
      split_ifs <;> exact .inl rfl
    | none => exact .inr ⟨rfl, by omega, by simpa using hcount, rfl⟩

/-- **A reservation, or none.** -/
theorem reserve_inv (h : Inv maxTxn L) (x : Reserve) :
    Inv maxTxn (reserve L (maxTxn x.mandateId) x).2 := by
  rw [reserve]
  cases x.amount with
  | none => exact h
  | some amount =>
    cases x.totalBudget with
    | none => exact h
    | some totalBudget =>
      cases x.reservationKey.bind L.keys with
      | some existing =>
        dsimp only
        split_ifs <;> exact h
      | none =>
        show Inv maxTxn (reserveNew L x amount totalBudget (maxTxn x.mandateId)).2
        obtain ⟨hreserved, hset⟩ := inv_accountOr h x.mandateId totalBudget
        rcases reserveNew_cases L x amount totalBudget (maxTxn x.mandateId) with
          heq | ⟨heq, hbudget, hcount, hnew⟩
        · rw [heq]
          exact hset
        · rw [heq]
          refine inv_hold hset (reserved_of (Function.update_self ..)) hbudget (fun n hn => ?_) hnew
          rw [Option.mem_def] at hn
          rw [Ledger.countOk, hn] at hcount
          simpa using hcount

/-- A `reserve` that raises changes nothing. -/
theorem reserve_clean (L : Ledger) (x : Reserve) : Clean maxTxn L (.reserve x) := by
  rw [Clean, step, reserve]
  cases x.amount with
  | none => exact fun _ => rfl
  | some amount =>
    cases x.totalBudget with
    | none => exact fun _ => rfl
    | some totalBudget =>
      cases x.reservationKey.bind L.keys with
      | some existing =>
        dsimp only
        split_ifs <;> exact fun h => (by simp at h)
      | none => exact fun h => (by simp at h)

/-- **A named release**: of a reservation of the mandate, or of none. -/
theorem release_inv (h : Inv maxTxn L) (id : String)
    (hown : ∀ held ∈ L.reservations id, held.1 = m) :
    Inv maxTxn (L.release m id).2 ∧ ((L.release m id).1 = false → (L.release m id).2 = L) := by
  rw [Ledger.release]
  cases hid : L.reservations id with
  | none => exact ⟨h, fun _ => rfl⟩
  | some held =>
    obtain ⟨owner, amount⟩ := held
    have howner : owner = m := hown _ hid
    subst howner
    obtain ⟨a, ha⟩ := Option.isSome_iff_exists.mp (h.known id _ hid)
    obtain ⟨hle, hfree⟩ := inv_free h hid ha
    dsimp only at ha ⊢
    rw [if_neg (by simp), ha]
    dsimp only
    rw [if_neg (by omega)]
    exact ⟨hfree, fun hfalse => (by cases hfalse)⟩

/-- Nothing given back. -/
theorem inv_free_zero (h : Inv maxTxn L) (ha : L.accounts m = some a) :
    Inv maxTxn (L.setAccount m (a.free 0)) := by
  obtain ⟨live, hlive, htotals⟩ := h.sound.totals
  refine inv_update h rfl (h.sound.budget m a ha) (fun n hn => ?_)
    ⟨live, hlive, ?_, fun m' _ => htotals m'⟩ fun id held hid => .inr (h.known id held hid)
  · have hcount := h.sound.count m a ha n hn
    show a.txnCountPeriod - 1 ≤ n
    omega
  · show a.reservedTotal - 0 = _
    rw [Nat.sub_zero, ← reserved_of ha]
    exact htotals m

/-- **A proper call** keeps the invariant, and is clean. -/
theorem proper_step (h : Inv maxTxn L) {act : Act} (hproper : Proper L act) :
    Inv maxTxn (step maxTxn L act).2 ∧ Clean maxTxn L act := by
  cases act with
  | reserve x => exact ⟨reserve_inv h x, reserve_clean L x⟩
  | release x =>
    obtain ⟨m, amount, id⟩ := x
    cases amount with
    | none => exact ⟨h, fun _ => rfl⟩
    | some amount =>
      cases id with
      | some id =>
        obtain ⟨hinv, hclean⟩ := release_inv h id (hproper amount rfl)
        refine ⟨hinv, fun hout => hclean ?_⟩
        rcases hout with hout | hout
        · cases hout
        · exact Outcome.released.inj hout
      | none =>
        have hproper : ∀ a ∈ L.accounts m, a.reservedTotal < amount ∨ amount = 0 :=
          hproper amount rfl
        simp only [Clean, step, release, releaseAmount]
        cases ha : L.accounts m with
        | none => exact ⟨h, fun _ => rfl⟩
        | some a =>
          dsimp only
          by_cases hlt : a.reservedTotal < amount
          · rw [if_pos hlt]
            exact ⟨h, fun _ => rfl⟩
          · obtain rfl : amount = 0 := (hproper a ha).resolve_left hlt
            rw [if_neg hlt]
            exact ⟨inv_free_zero h ha, fun hout => (by simp at hout)⟩

/-- **An improper call** changes the store and returns `False`, or leaves a total that is not the
sum of the reservations. -/
theorem improper_step (h : Inv maxTxn L) {act : Act} (hproper : ¬Proper L act) :
    ¬(Sound maxTxn (step maxTxn L act).2 ∧ Clean maxTxn L act) := by
  rintro ⟨hsound, hclean⟩
  cases act with
  | reserve x => exact hproper trivial
  | release x =>
    obtain ⟨m, amount, id⟩ := x
    cases amount with
    | none => exact hproper fun amount hamount => nomatch hamount
    | some amount =>
      refine hproper fun amount' hamount => ?_
      obtain rfl : amount = amount' := Option.some.inj hamount
      cases id with
      | some id =>
        intro held hid
        by_contra hown
        -- the reservation is gone, under whichever mandate it was
        have hrelease : L.release m id = (false, L.pop id) := by
          rw [Ledger.release, hid]
          exact if_pos hown
        have hpop : (L.release m id).2 = L :=
          hclean (.inr (congrArg Outcome.released (congrArg Prod.fst hrelease)))
        have hgone : L.reservations id = none := by
          rw [← hpop, hrelease]
          exact Function.update_self ..
        rw [hgone] at hid
        cases hid
      | none =>
        intro a ha
        by_contra hmore
        obtain ⟨hle, hzero⟩ := not_or.mp hmore
        have hstep : (step maxTxn L (.release ⟨m, some amount, none⟩)).2 =
            L.setAccount m (a.free amount) := by
          simp only [step, release, releaseAmount]
          rw [show L.accounts m = some a from ha]
          dsimp only
          rw [if_neg hle]
        rw [hstep] at hsound
        -- the same reservations are live, and hold what they held
        obtain ⟨live, hlive, htotals⟩ := h.sound.totals
        obtain ⟨live', hlive', htotals'⟩ := hsound.totals
        have hsame : live' = live := by
          ext id
          rw [hlive, hlive']
          rfl
        have hless : a.reservedTotal - amount = a.reservedTotal := calc
          a.reservedTotal - amount = (L.setAccount m (a.free amount)).reserved m :=
            (reserved_of (L := L.setAccount m (a.free amount)) (Function.update_self ..)).symm
          _ = ∑ id ∈ live, share L m id := by rw [htotals' m, hsame]; rfl
          _ = a.reservedTotal := by rw [← htotals m, reserved_of ha]
        omega

end Steps

/-! ## Sequences -/

/-- A store before its first call: mandates are registered, nothing is reserved. -/
structure Start (maxTxn : String → Option ℕ) (L : Ledger) : Prop where
  reservations : ∀ id, L.reservations id = none
  reserved : ∀ m a, L.accounts m = some a → a.reservedTotal = 0
  spent : ∀ m a, L.accounts m = some a → a.spentTotal ≤ a.totalBudget
  count : ∀ m a, L.accounts m = some a → ∀ n ∈ maxTxn m, a.txnCountPeriod ≤ n

theorem Start.inv {maxTxn : String → Option ℕ} {L : Ledger} (h : Start maxTxn L) : Inv maxTxn L where
  sound :=
    { totals := ⟨∅, fun id => by simp [h.reservations id], fun m => by
        rw [Finset.sum_empty, Ledger.reserved]
        cases ha : L.accounts m with
        | none => rfl
        | some a => exact h.reserved m a ha⟩
      budget := fun m a ha => by
        have hreserved := h.reserved m a ha
        have hspent := h.spent m a ha
        omega
      count := h.count }
  known := fun id held hid => by
    rw [h.reservations id] at hid
    cases hid

/-- From any state that keeps the invariant. -/
theorem throughout_iff {maxTxn : String → Option ℕ} (acts : List Act) {L : Ledger}
    (h : Inv maxTxn L) :
    Throughout maxTxn (fun L act => Sound maxTxn (step maxTxn L act).2 ∧ Clean maxTxn L act) acts L ↔
      Throughout maxTxn Proper acts L := by
  induction acts generalizing L with
  | nil => exact Iff.rfl
  | cons act acts ih =>
    simp only [Throughout]
    constructor
    · rintro ⟨hstep, hrest⟩
      have hproper : Proper L act := by
        by_contra hproper
        exact improper_step h hproper hstep
      exact ⟨hproper, (ih (proper_step h hproper).1).mp hrest⟩
    · rintro ⟨hproper, hrest⟩
      obtain ⟨hinv, hclean⟩ := proper_step h hproper
      exact ⟨⟨hinv.sound, hclean⟩, (ih hinv).mpr hrest⟩

/-- **In every sequence of calls the store is sound after each, and unchanged by those that raise or
return `False`, exactly when every release is proper.** -/
theorem memory_sound (maxTxn : String → Option ℕ) (L : Ledger) (h : Start maxTxn L)
    (acts : List Act) :
    Throughout maxTxn (fun L act => Sound maxTxn (step maxTxn L act).2 ∧ Clean maxTxn L act) acts L ↔
      Throughout maxTxn Proper acts L :=
  throughout_iff acts h.inv

/-- The store as it is made. -/
def empty : Ledger where
  accounts := fun _ => none
  reservations := fun _ => none
  keys := fun _ => none

theorem start_empty (maxTxn : String → Option ℕ) : Start maxTxn empty where
  reservations := fun _ => rfl
  reserved := fun _ _ h => nomatch h
  spent := fun _ _ h => nomatch h
  count := fun _ _ h => nomatch h

/-- A reservation under one mandate, then its release under another. -/
def crossed : List Act :=
  [.reserve ⟨"mdt_1", some 500, some 1000, some "res_1", none, "u"⟩,
    .release ⟨"mdt_2", some 500, some "res_1"⟩]

theorem memory_sound_empty :
    Throughout (fun _ => some 1)
        (fun L act => Sound (fun _ => some 1) (step (fun _ => some 1) L act).2 ∧
          Clean (fun _ => some 1) L act) crossed empty ↔
      Throughout (fun _ => some 1) Proper crossed empty :=
  memory_sound (fun _ => some 1) empty (start_empty _) crossed

/-- **A release under another mandate returns `False`, and the reservation is gone.** -/
theorem memory_leaked :
    ¬Throughout (fun _ => some 1)
      (fun L act => Sound (fun _ => some 1) (step (fun _ => some 1) L act).2 ∧
        Clean (fun _ => some 1) L act) crossed empty := by
  rintro ⟨-, ⟨-, hclean⟩, -⟩
  have hsame := hclean (.inr rfl)
  have hgone := congrArg (fun L => L.reservations "res_1") hsame
  revert hgone
  decide

end TryTrust.DecisionCore.Memory
