import TryTrust.Conc.Flow
import TryTrust.Conc.Keyed
import TryTrust.Decision.Service

/-!
# The books of the decision service

A purchase that awaits its capture is recorded three times: as a purchase, as a reservation with
its share of the mandate's reserved total, and as an open slot of the mandate.

* `Balanced`: the three books agree in every mandate; `Parked`: a pending escalation has a purchase
  of its own that is in none of them; `Sound`, both with the keys of the reservation store;
* `Booked E h x o`: the books agree but for one purchase, which has a reservation iff `h`, the
  record `x` and a slot iff `o`; what `reserve`, `release` and the other port calls make of it;
* **`Booked.tallied`**: when the three agree, the books do.
-/

namespace TryTrust.DecisionCore

open Conc

/-! ## Weights -/

/-- What a purchase holds of a mandate's budget. -/
def PurchaseRecord.held (m : String) (p : PurchaseRecord) : ℕ :=
  if p.status = .pendingCapture ∧ p.mandateId = m then p.intent.amount.getD 0 else 0

/-- The slots that a purchase holds of a mandate. -/
def PurchaseRecord.slot (m : String) (p : PurchaseRecord) : ℕ :=
  if p.status = .pendingCapture ∧ p.mandateId = m then 1 else 0

/-- The reservation that a purchase should have. -/
def PurchaseRecord.booking (p : PurchaseRecord) : Option (String × ℕ) :=
  if p.status = .pendingCapture then p.intent.amount.map fun a => (p.mandateId, a) else none

/-- The id of a purchase's reservation. -/
def resId (pid : String) : String := "reservation:" ++ pid

theorem resId_inj {p q : String} (h : resId p = resId q) : p = q := by
  have := congrArg String.toList h
  exact String.toList_inj.1 (by simpa [resId] using this)

theorem resId_ne_empty (pid : String) : resId pid ≠ "" := by
  intro h
  have := congrArg String.toList h
  simp [resId] at this

/-- A purchase that is in none of the books. -/
def PurchaseRecord.Quiet (p : PurchaseRecord) : Prop :=
  p.status ≠ .pendingCapture ∧ p.reservationId = none

theorem PurchaseRecord.booking_of_ne {p : PurchaseRecord} (h : p.status ≠ .pendingCapture) :
    p.booking = none := by
  simp [booking, h]

theorem PurchaseRecord.held_of_ne {p : PurchaseRecord} (h : p.status ≠ .pendingCapture)
    (m : String) : p.held m = 0 := by
  simp [held, h]

theorem PurchaseRecord.slot_of_ne {p : PurchaseRecord} (h : p.status ≠ .pendingCapture)
    (m : String) : p.slot m = 0 := by
  simp [slot, h]

/-! ## The invariant -/

/-- The purchases of a mandate that await their capture. -/
def Stores.awaiting (s : Stores) (m : String) : List PurchaseRecord :=
  s.purchases.filter fun p => p.status = .pendingCapture ∧ p.mandateId = m

/-- **The books agree**: for every mandate, what is reserved is the sum of the amounts of the
purchases that await their capture, and the open slots are their number. -/
def Balanced (s : Stores) : Prop :=
  ∀ m, s.ledger.reserved m = ((s.awaiting m).map fun p => p.intent.amount.getD 0).sum ∧
    s.velocity.openAuthz m = (s.awaiting m).length

/-- The books agree, and so do the reservations and their keys. -/
structure Tallied (s : Stores) : Prop where
  ids : (s.purchases.map (·.purchaseId)).Nodup
  reserved : ∀ m, s.ledger.reserved m = total (·.held m) s.purchases
  slots : ∀ m, s.velocity.openAuthz m = total (·.slot m) s.purchases
  reservations : ∀ q, s.ledger.reservations (resId q) = (s.purchase q).bind (·.booking)
  keys : ∀ q, s.ledger.keys q = ((s.purchase q).bind (·.booking)).map fun _ => resId q

/-- Every pending escalation has a purchase of its own, which is in none of the books. -/
structure Parked (s : Stores) : Prop where
  parked : ∀ id e, s.escalations id = some e → e.status = .pending →
    e.escalationId = id ∧ ∃ p, s.purchase e.purchaseId = some p ∧ p.Quiet ∧
      p.mandateId = e.mandateId ∧ p.intent = e.intent
  alone : ∀ id id' e e', s.escalations id = some e → s.escalations id' = some e' →
    e.status = .pending → e'.status = .pending → e.purchaseId = e'.purchaseId → id = id'

/-- **The invariant of the stores.** -/
structure Sound (s : Stores) : Prop where
  tallied : Tallied s
  parked : Parked s

theorem total_held (s : Stores) (m : String) : total (·.held m) s.purchases =
    ((s.awaiting m).map fun p => p.intent.amount.getD 0).sum := by
  unfold total Stores.awaiting
  induction s.purchases with
  | nil => rfl
  | cons p l ih =>
    by_cases h : p.status = .pendingCapture ∧ p.mandateId = m
    · rw [List.filter_cons_of_pos (by simpa using h), List.map_cons, List.map_cons, List.sum_cons,
        List.sum_cons, ih, PurchaseRecord.held, if_pos h]
    · rw [List.filter_cons_of_neg (by simpa using h), ← ih, List.map_cons, List.sum_cons,
        PurchaseRecord.held, if_neg h, Nat.zero_add]

theorem total_slot (s : Stores) (m : String) :
    total (·.slot m) s.purchases = (s.awaiting m).length := by
  unfold total Stores.awaiting
  induction s.purchases with
  | nil => rfl
  | cons p l ih =>
    by_cases h : p.status = .pendingCapture ∧ p.mandateId = m
    · rw [List.filter_cons_of_pos (by simpa using h), List.map_cons, List.sum_cons, List.length_cons,
        ih, PurchaseRecord.slot, if_pos h, Nat.add_comm]
    · rw [List.filter_cons_of_neg (by simpa using h), ← ih, List.map_cons, List.sum_cons,
        PurchaseRecord.slot, if_neg h, Nat.zero_add]

theorem Tallied.balanced {s : Stores} (h : Tallied s) : Balanced s := fun m =>
  ⟨(h.reserved m).trans (total_held s m), (h.slots m).trans (total_slot s m)⟩

/-! ## One purchase apart -/

/-- A purchase, its mandate and amount, and how many slots other purchases hold of the mandate. -/
structure Entry where
  pid : String
  mandate : String
  amount : ℕ
  others : ℕ

/-- **The books but for one purchase.** -/
structure Booked (E : Entry) (h : Bool) (x : Option PurchaseRecord) (o : Bool) (s : Stores) :
    Prop where
  ids : (s.purchases.map (·.purchaseId)).Nodup
  record : s.purchase E.pid = x
  reserved : ∀ m, s.ledger.reserved m = total (off (·.purchaseId) E.pid (·.held m)) s.purchases +
    if h ∧ m = E.mandate then E.amount else 0
  slots : ∀ m, s.velocity.openAuthz m = total (off (·.purchaseId) E.pid (·.slot m)) s.purchases +
    if o ∧ m = E.mandate then 1 else 0
  others : total (off (·.purchaseId) E.pid (·.slot E.mandate)) s.purchases = E.others
  own : s.ledger.reservations (resId E.pid) = if h then some (E.mandate, E.amount) else none
  ownKey : s.ledger.keys E.pid = if h then some (resId E.pid) else none
  account : h → (s.ledger.accounts E.mandate).isSome
  reservations : ∀ q, q ≠ E.pid →
    s.ledger.reservations (resId q) = (s.purchase q).bind (·.booking)
  keys : ∀ q, q ≠ E.pid → s.ledger.keys q = ((s.purchase q).bind (·.booking)).map fun _ => resId q

/-- A purchase outside the books leaves them. -/
theorem Tallied.booked {s : Stores} (h : Tallied s) (pid m : String) (a : ℕ)
    (hx : ∀ p, s.purchase pid = some p → p.status ≠ .pendingCapture) :
    Booked ⟨pid, m, a, s.velocity.openAuthz m⟩ false (s.purchase pid) false s := by
  have hoff : ∀ p ∈ s.purchases, p.purchaseId = pid → p.status ≠ .pendingCapture := by
    rintro p hp rfl
    exact hx p (lookup_of_mem h.ids hp)
  have hslot : ∀ m, total (·.slot m) s.purchases =
      total (off (·.purchaseId) pid (·.slot m)) s.purchases := fun m =>
    total_off_of_zero fun p hp hk => PurchaseRecord.slot_of_ne (hoff p hp hk) m
  have hheld : ∀ m, total (·.held m) s.purchases =
      total (off (·.purchaseId) pid (·.held m)) s.purchases := fun m =>
    total_off_of_zero fun p hp hk => PurchaseRecord.held_of_ne (hoff p hp hk) m
  have hnone : (s.purchase pid).bind (·.booking) = none := by
    cases hp : s.purchase pid with
    | none => rfl
    | some p => exact PurchaseRecord.booking_of_ne (hx p hp)
  exact
    { ids := h.ids
      record := rfl
      reserved := fun m => by rw [h.reserved, hheld]; simp
      slots := fun m => by rw [h.slots, hslot]; simp
      others := by rw [← hslot, ← h.slots]
      own := by rw [h.reservations]; simpa using hnone
      ownKey := by rw [h.keys, hnone]; rfl
      account := fun h => by cases h
      reservations := fun q _ => h.reservations q
      keys := fun q _ => h.keys q }

/-- The record of the purchase agrees with the other two books. -/
def Agrees (E : Entry) (h : Bool) (x : Option PurchaseRecord) : Prop :=
  match h with
  | true => ∃ p, x = some p ∧ p.booking = some (E.mandate, E.amount)
  | false => ∀ p, x = some p → p.status ≠ .pendingCapture

/-- **When the three records of the purchase agree, so do the books.** -/
theorem Booked.tallied {E : Entry} {h : Bool} {x : Option PurchaseRecord} {s : Stores}
    (hB : Booked E h x h s) (hx : Agrees E h x) : Tallied s := by
  have hbook : (s.purchase E.pid).bind (·.booking) = if h then some (E.mandate, E.amount) else none
      := by
    rw [hB.record]
    cases h with
    | true =>
      obtain ⟨p, rfl, hp⟩ := hx
      exact hp
    | false =>
      cases x with
      | none => rfl
      | some p => exact PurchaseRecord.booking_of_ne (hx p rfl)
  have hsplit : (∀ m, total (·.held m) s.purchases =
        total (off (·.purchaseId) E.pid (·.held m)) s.purchases +
          if h ∧ m = E.mandate then E.amount else 0) ∧
      ∀ m, total (·.slot m) s.purchases =
        total (off (·.purchaseId) E.pid (·.slot m)) s.purchases +
          if h ∧ m = E.mandate then 1 else 0 := by
    cases h with
    | false =>
      have hoff : ∀ p ∈ s.purchases, p.purchaseId = E.pid → p.status ≠ .pendingCapture := by
        intro p hp hk
        refine hx p ?_
        rw [← hB.record, ← hk]
        exact lookup_of_mem hB.ids hp
      refine ⟨fun m => ?_, fun m => ?_⟩
      · rw [total_off_of_zero fun p hp hk => PurchaseRecord.held_of_ne (hoff p hp hk) m]
        simp
      · rw [total_off_of_zero fun p hp hk => PurchaseRecord.slot_of_ne (hoff p hp hk) m]
        simp
    | true =>
      obtain ⟨p, rfl, hp⟩ := hx
      obtain ⟨hmem, hid⟩ := lookup_some (show lookup (·.purchaseId) s.purchases E.pid = some p from
        hB.record)
      unfold PurchaseRecord.booking at hp
      split_ifs at hp with hstatus
      obtain ⟨a, hamount, ha⟩ := Option.map_eq_some_iff.1 hp
      obtain ⟨hmandate, ha⟩ := Prod.mk.inj ha
      simp only [← hmandate, ← ha]
      refine ⟨fun m => ?_, fun m => ?_⟩
      · rw [total_split hB.ids hmem, hid]
        congr 1
        by_cases hm : p.mandateId = m
        · simp [PurchaseRecord.held, hstatus, hm, hamount]
        · simp [PurchaseRecord.held, hm, Ne.symm hm]
      · rw [total_split hB.ids hmem, hid]
        congr 1
        by_cases hm : p.mandateId = m
        · simp [PurchaseRecord.slot, hstatus, hm]
        · simp [PurchaseRecord.slot, hm, Ne.symm hm]
  refine
    { ids := hB.ids
      reserved := fun m => by rw [hB.reserved, hsplit.1]
      slots := fun m => by rw [hB.slots, hsplit.2]
      reservations := fun q => ?_
      keys := fun q => ?_ }
  · by_cases hq : q = E.pid
    · rw [hq, hB.own, hbook]
    · exact hB.reservations q hq
  · by_cases hq : q = E.pid
    · rw [hq, hB.ownKey, hbook]
      cases h <;> rfl
    · exact hB.keys q hq

/-! ## What the port calls make of the books -/

theorem Booked.congr {E : Entry} {h : Bool} {x : Option PurchaseRecord} {o : Bool} {s t : Stores}
    (hB : Booked E h x o s) (hl : t.ledger = s.ledger)
    (ho : t.velocity.openAuthz = s.velocity.openAuthz) (hp : t.purchases = s.purchases) :
    Booked E h x o t := by
  have hq : ∀ q, t.purchase q = s.purchase q := fun q => by rw [Stores.purchase, hp]; rfl
  exact
    { ids := by rw [hp]; exact hB.ids
      record := by rw [hq]; exact hB.record
      reserved := by rw [hl, hp]; exact hB.reserved
      slots := by rw [ho, hp]; exact hB.slots
      others := by rw [hp]; exact hB.others
      own := by rw [hl]; exact hB.own
      ownKey := by rw [hl]; exact hB.ownKey
      account := by rw [hl]; exact hB.account
      reservations := fun q hne => by rw [hl, hq]; exact hB.reservations q hne
      keys := fun q hne => by rw [hl, hq]; exact hB.keys q hne }

theorem Tallied.congr {s t : Stores} (h : Tallied s) (hl : t.ledger = s.ledger)
    (ho : t.velocity.openAuthz = s.velocity.openAuthz) (hp : t.purchases = s.purchases) :
    Tallied t := by
  have hq : ∀ q, t.purchase q = s.purchase q := fun q => by rw [Stores.purchase, hp]; rfl
  exact
    { ids := by rw [hp]; exact h.ids
      reserved := by rw [hl, hp]; exact h.reserved
      slots := by rw [ho, hp]; exact h.slots
      reservations := fun q => by rw [hl, hq]; exact h.reservations q
      keys := fun q => by rw [hl, hq]; exact h.keys q }

theorem Parked.congr {s t : Stores} (h : Parked s) (hp : t.purchases = s.purchases)
    (he : t.escalations = s.escalations) : Parked t := by
  have hq : ∀ q, t.purchase q = s.purchase q := fun q => by rw [Stores.purchase, hp]; rfl
  refine ⟨fun id e hid => ?_, fun id id' e e' hid hid' => ?_⟩
  · rw [hq]
    exact h.parked id e (he ▸ hid)
  · exact h.alone id id' e e' (he ▸ hid) (he ▸ hid')

/-! ### Reservations -/

theorem Ledger.reserved_accountOr (L : Ledger) (m : String) (budget : ℕ) :
    (L.accountOr m budget).reservedTotal = L.reserved m := by
  unfold Ledger.accountOr Ledger.reserved
  cases L.accounts m <;> rfl

theorem Ledger.reserved_update (L : Ledger) (m : String) (a : Account) (m' : String) :
    (L.setAccount m a).reserved m' = if m' = m then a.reservedTotal else L.reserved m' := by
  unfold Ledger.setAccount Ledger.reserved
  by_cases hm : m' = m
  · subst hm; simp
  · simp [hm]

/-- **`reserve` under a new key** refuses, and no reservation changes, or holds the amount. -/
theorem Ledger.reserve_spec (L : Ledger) {rid key : String} (m : String) (amount budget : ℕ)
    (maxTxn : Option ℕ) (hk : L.keys key = none) (hr : L.reservations rid = none) :
    ((L.reserve m amount budget maxTxn rid key).1 = none ∧
      (∀ m', (L.reserve m amount budget maxTxn rid key).2.reserved m' = L.reserved m') ∧
      (L.reserve m amount budget maxTxn rid key).2.reservations = L.reservations ∧
      (L.reserve m amount budget maxTxn rid key).2.keys = L.keys) ∨
    ((L.reserve m amount budget maxTxn rid key).1 = some rid ∧
      (∀ m', (L.reserve m amount budget maxTxn rid key).2.reserved m' =
        L.reserved m' + if m' = m then amount else 0) ∧
      (L.reserve m amount budget maxTxn rid key).2.reservations =
        Function.update L.reservations rid (some (m, amount)) ∧
      (L.reserve m amount budget maxTxn rid key).2.keys = Function.update L.keys key (some rid) ∧
      ((L.reserve m amount budget maxTxn rid key).2.accounts m).isSome) := by
  have hsame : ∀ m', (L.setAccount m (L.accountOr m budget)).reserved m' = L.reserved m' := by
    intro m'
    rw [Ledger.reserved_update, Ledger.reserved_accountOr]
    split_ifs with hm
    · rw [hm]
    · rfl
  have hreserve : L.reserve m amount budget maxTxn rid key =
      if (L.accountOr m budget).status ≠ "active" then
        (none, L.setAccount m (L.accountOr m budget))
      else if (L.accountOr m budget).spentTotal + (L.accountOr m budget).reservedTotal + amount >
          (L.accountOr m budget).totalBudget then (none, L.setAccount m (L.accountOr m budget))
      else if !Ledger.countOk (L.accountOr m budget) maxTxn then
        (none, L.setAccount m (L.accountOr m budget))
      else (some rid,
        { accounts := Function.update L.accounts m (some ((L.accountOr m budget).hold amount))
          reservations := Function.update L.reservations rid (some (m, amount))
          keys := Function.update L.keys key (some rid) }) := by
    unfold Ledger.reserve
    rw [hk]
    dsimp only
    rw [show (L.setAccount m (L.accountOr m budget)).reservations rid = none from hr]
    split_ifs <;> simp [Ledger.setAccount]
  rw [hreserve]
  split_ifs
  · exact .inl ⟨rfl, hsame, rfl, rfl⟩
  · exact .inl ⟨rfl, hsame, rfl, rfl⟩
  · exact .inl ⟨rfl, hsame, rfl, rfl⟩
  · refine .inr ⟨rfl, fun m' => ?_, rfl, rfl, by simp⟩
    have hheld := Ledger.reserved_update L m ((L.accountOr m budget).hold amount) m'
    rw [show (L.setAccount m ((L.accountOr m budget).hold amount)).reserved m' = _ from rfl] at hheld
    refine hheld.trans ?_
    split_ifs with hm
    · rw [Account.hold, hm, Ledger.reserved_accountOr]
    · rfl

/-- **`release` of a held reservation** gives it back. -/
theorem Ledger.release_spec (L : Ledger) {m rid : String} {amount : ℕ}
    (hr : L.reservations rid = some (m, amount)) (hle : amount ≤ L.reserved m)
    (ha : (L.accounts m).isSome) :
    (L.release m rid).1 = true ∧
      (∀ m', (L.release m rid).2.reserved m' = L.reserved m' - if m' = m then amount else 0) ∧
      (L.release m rid).2.reservations = Function.update L.reservations rid none ∧
      (L.release m rid).2.keys = fun k => if L.keys k = some rid then none else L.keys k := by
  obtain ⟨a, hacc⟩ := Option.isSome_iff_exists.1 ha
  have hres : L.reserved m = a.reservedTotal := by simp [Ledger.reserved, hacc]
  have hrelease : L.release m rid =
      (true, ((L.pop rid).popKeys rid).setAccount m (a.free amount)) := by
    unfold Ledger.release
    rw [hr]
    dsimp only
    rw [if_neg (fun h => h rfl), hacc]
    dsimp only
    rw [if_neg (by omega)]
  rw [hrelease]
  refine ⟨rfl, fun m' => ?_, rfl, rfl⟩
  rw [Ledger.reserved_update]
  split_ifs with hm
  · rw [hm, hres, Account.free]
  · rfl

section Reservations

variable {E : Entry} {x : Option PurchaseRecord} {o : Bool} {s : Stores}

theorem Booked.reserve (hB : Booked E false x o s) (budget : ℕ) (maxTxn : Option ℕ) :
    ((s.ledger.reserve E.mandate E.amount budget maxTxn (resId E.pid) E.pid).1 = none ∧
      Booked E false x o { s with ledger :=
        (s.ledger.reserve E.mandate E.amount budget maxTxn (resId E.pid) E.pid).2 }) ∨
    ((s.ledger.reserve E.mandate E.amount budget maxTxn (resId E.pid) E.pid).1 =
        some (resId E.pid) ∧
      Booked E true x o { s with ledger :=
        (s.ledger.reserve E.mandate E.amount budget maxTxn (resId E.pid) E.pid).2 }) := by
  rcases Ledger.reserve_spec s.ledger E.mandate E.amount budget maxTxn hB.ownKey hB.own with ⟨h1, h2, h3, h4⟩ | ⟨h1, h2, h3, h4, h5⟩
  · refine .inl ⟨h1, ?_⟩
    exact
      { hB with
        reserved := fun m => (h2 m).trans (hB.reserved m)
        own := (congrFun h3 _).trans hB.own
        ownKey := (congrFun h4 _).trans hB.ownKey
        account := fun h => by cases h
        reservations := fun q hq => (congrFun h3 _).trans (hB.reservations q hq)
        keys := fun q hq => (congrFun h4 _).trans (hB.keys q hq) }
  · refine .inr ⟨h1, ?_⟩
    exact
      { hB with
        reserved := fun m => by rw [h2 m, hB.reserved m]; simp
        own := by rw [h3]; simp
        ownKey := by rw [h4]; simp
        account := fun _ => h5
        reservations := fun q hq => by
          rw [h3, Function.update_of_ne (fun h => hq (resId_inj h))]
          exact hB.reservations q hq
        keys := fun q hq => by
          rw [h4, Function.update_of_ne hq]
          exact hB.keys q hq }

theorem Booked.release (hB : Booked E true x o s) :
    (s.ledger.release E.mandate (resId E.pid)).1 = true ∧
      Booked E false x o { s with ledger := (s.ledger.release E.mandate (resId E.pid)).2 } := by
  have hle : E.amount ≤ s.ledger.reserved E.mandate := by
    rw [hB.reserved]
    simp
  obtain ⟨h1, h2, h3, h4⟩ := Ledger.release_spec s.ledger hB.own hle (hB.account rfl)
  refine ⟨h1, ?_⟩
  exact
    { hB with
      reserved := fun m => by
        rw [h2 m, hB.reserved m]
        simp
      own := by rw [h3]; simp
      ownKey := by rw [h4]; simp [hB.ownKey]
      account := fun h => by cases h
      reservations := fun q hq => by
        rw [h3, Function.update_of_ne (fun h => hq (resId_inj h))]
        exact hB.reservations q hq
      keys := fun q hq => by
        -- the key of another purchase is of another reservation
        have hne : s.ledger.keys q ≠ some (resId E.pid) := by
          rw [hB.keys q hq]
          intro h
          obtain ⟨_, _, h⟩ := Option.map_eq_some_iff.1 h
          exact hq (resId_inj h)
        rw [h4]
        dsimp only
        rw [if_neg hne]
        exact hB.keys q hq }

theorem Booked.incrementOpen {h : Bool} (hB : Booked E h x false s) :
    Booked E h x true { s with velocity := s.velocity.incrementOpen E.mandate } := by
  refine { hB with slots := fun m => ?_ }
  show Function.update s.velocity.openAuthz E.mandate (s.velocity.openAuthz E.mandate + 1) m = _
  by_cases hm : m = E.mandate
  · subst hm
    rw [Function.update_self, hB.slots]
    simp
  · rw [Function.update_of_ne hm, hB.slots]
    simp [hm]

theorem Booked.decrementOpen {h : Bool} (hB : Booked E h x o s) (ho : o = true ∨ E.others = 0) :
    Booked E h x false { s with velocity := s.velocity.decrementOpen E.mandate } := by
  refine { hB with slots := fun m => ?_ }
  show Function.update s.velocity.openAuthz E.mandate (s.velocity.openAuthz E.mandate - 1) m = _
  by_cases hm : m = E.mandate
  · subst hm
    rw [Function.update_self, hB.slots]
    rcases ho with rfl | ho
    · simp
    · rw [hB.others, ho]
      cases o <;> simp
  · rw [Function.update_of_ne hm, hB.slots]
    simp [hm]

end Reservations

/-! ### Purchases -/

theorem Stores.purchase_eq (s : Stores) (q : String) :
    s.purchase q = lookup (·.purchaseId) s.purchases q := rfl

theorem Stores.purchase_create {s : Stores} {p : PurchaseRecord}
    (hp : s.purchase p.purchaseId = none) (q : String) :
    (s.createPurchase p).purchase q = if q = p.purchaseId then some p else s.purchase q := by
  have hlist : (s.createPurchase p).purchases = s.purchases ++ [p] := by
    simp [Stores.createPurchase, hp]
  rw [Stores.purchase_eq, hlist, lookup_append]
  by_cases hq : q = p.purchaseId
  · rw [if_pos hq, if_pos hq.symm, hq, ← Stores.purchase_eq, hp]
    rfl
  · rw [if_neg hq, if_neg (Ne.symm hq), Option.or_none]
    rfl

theorem PurchaseRecord.change_purchaseId (c : PurchaseChange) (p : PurchaseRecord) :
    (p.change c).purchaseId = p.purchaseId := rfl

theorem Stores.purchase_update_self (s : Stores) (pid : String) (c : PurchaseChange) :
    (s.updatePurchase pid c).purchase pid = (s.purchase pid).map (·.change c) :=
  lookup_amend_self (PurchaseRecord.change_purchaseId c) _

theorem Stores.purchase_update_ne (s : Stores) {pid q : String} (c : PurchaseChange)
    (hq : q ≠ pid) : (s.updatePurchase pid c).purchase q = s.purchase q :=
  lookup_amend_ne (PurchaseRecord.change_purchaseId c) _ hq

section Purchases

variable {E : Entry} {h o : Bool} {s : Stores}

theorem Booked.createPurchase (hB : Booked E h none o s) {p : PurchaseRecord}
    (hp : p.purchaseId = E.pid) : Booked E h (some p) o (s.createPurchase p) := by
  have hnone : s.purchase p.purchaseId = none := by rw [hp]; exact hB.record
  have hstores : s.createPurchase p = { s with purchases := s.purchases ++ [p] } := by
    simp [Stores.createPurchase, hnone]
  have hq : ∀ q, q ≠ E.pid → (s.createPurchase p).purchase q = s.purchase q := fun q hne => by
    rw [Stores.purchase_create hnone, if_neg (by rw [hp]; exact hne)]
  have hoff : ∀ w : PurchaseRecord → ℕ, total (off (·.purchaseId) E.pid w) (s.purchases ++ [p]) =
      total (off (·.purchaseId) E.pid w) s.purchases := fun w => by
    rw [← hp]
    exact total_off_append w _ p
  have hfresh : ∀ x ∈ s.purchases, x.purchaseId ≠ p.purchaseId := lookup_eq_none.1 hnone
  refine
    { ids := ?_
      record := by rw [Stores.purchase_create hnone, if_pos hp.symm]
      reserved := fun m => by rw [hstores]; exact (hB.reserved m).trans (by rw [hoff])
      slots := fun m => by rw [hstores]; exact (hB.slots m).trans (by rw [hoff])
      others := by rw [hstores]; exact (hoff _).trans hB.others
      own := by rw [hstores]; exact hB.own
      ownKey := by rw [hstores]; exact hB.ownKey
      account := by rw [hstores]; exact hB.account
      reservations := fun q hne => by rw [hq q hne, hstores]; exact hB.reservations q hne
      keys := fun q hne => by rw [hq q hne, hstores]; exact hB.keys q hne }
  rw [hstores, List.map_append, List.nodup_append]
  refine ⟨hB.ids, by simp, ?_⟩
  simp only [List.map_cons, List.map_nil, List.mem_singleton, List.mem_map]
  rintro _ ⟨x, hx, rfl⟩ _ rfl
  exact hfresh x hx

theorem Booked.updatePurchase {x : Option PurchaseRecord} (hB : Booked E h x o s)
    (c : PurchaseChange) : Booked E h (x.map (·.change c)) o (s.updatePurchase E.pid c) := by
  have hoff : ∀ w : PurchaseRecord → ℕ,
      total (off (·.purchaseId) E.pid w) (s.updatePurchase E.pid c).purchases =
        total (off (·.purchaseId) E.pid w) s.purchases := fun w =>
    total_off_amend (PurchaseRecord.change_purchaseId c) w _
  exact
    { ids := (map_amend (PurchaseRecord.change_purchaseId c) _).symm ▸ hB.ids
      record := by rw [Stores.purchase_update_self, hB.record]
      reserved := fun m => (hB.reserved m).trans (by rw [hoff])
      slots := fun m => (hB.slots m).trans (by rw [hoff])
      others := (hoff _).trans hB.others
      own := hB.own
      ownKey := hB.ownKey
      account := hB.account
      reservations := fun q hq => by
        rw [Stores.purchase_update_ne s c hq]
        exact hB.reservations q hq
      keys := fun q hq => by
        rw [Stores.purchase_update_ne s c hq]
        exact hB.keys q hq }

end Purchases

/-! ### Pending escalations -/

section Parked

variable {s : Stores}

theorem Parked.createPurchase (h : Parked s) (p : PurchaseRecord) : Parked (s.createPurchase p) := by
  cases hp : s.purchase p.purchaseId with
  | some x => simpa [Stores.createPurchase, hp] using h
  | none =>
    have he : (s.createPurchase p).escalations = s.escalations := by
      simp [Stores.createPurchase, hp]
    refine ⟨fun id e hid hpend => ?_, fun id id' e e' hid hid' =>
      h.alone id id' e e' (he ▸ hid) (he ▸ hid')⟩
    obtain ⟨hkey, x, hx, hrest⟩ := h.parked id e (he ▸ hid) hpend
    refine ⟨hkey, x, ?_, hrest⟩
    -- the escalation's purchase exists, so it is not the new one
    rw [Stores.purchase_create hp, if_neg]
    · exact hx
    · intro heq
      rw [heq, hp] at hx
      cases hx

/-- An update that leaves the purchase out of the books. -/
theorem Parked.updatePurchase (h : Parked s) (pid : String) {c : PurchaseChange}
    (hc : c.status ≠ .pendingCapture ∧ c.reservationId = none) :
    Parked (s.updatePurchase pid c) := by
  refine ⟨fun id e hid hpend => ?_, h.alone⟩
  obtain ⟨hkey, x, hx, hquiet, hrest⟩ := h.parked id e hid hpend
  refine ⟨hkey, ?_⟩
  by_cases hpid : e.purchaseId = pid
  · rw [← hpid, Stores.purchase_update_self, hx]
    exact ⟨_, rfl, hc, hrest⟩
  · rw [Stores.purchase_update_ne s c hpid]
    exact ⟨x, hx, hquiet, hrest⟩

/-- An update of a purchase without a pending escalation. -/
theorem Parked.updatePurchase_free (h : Parked s) {pid : String} (c : PurchaseChange)
    (hfree : ∀ id e, s.escalations id = some e → e.status = .pending → e.purchaseId ≠ pid) :
    Parked (s.updatePurchase pid c) := by
  refine ⟨fun id e hid hpend => ?_, h.alone⟩
  rw [Stores.purchase_update_ne s c (hfree id e hid hpend)]
  exact h.parked id e hid hpend

theorem Stores.escalations_update (s : Stores) (id : String) (status : EscalationStatus)
    (decision : String) (i : String) : (s.updateEscalation id status decision).escalations i =
      if i = id then (s.escalations id).map (·.change status decision) else s.escalations i := by
  unfold Stores.updateEscalation
  by_cases hi : i = id
  · subst hi
    cases he : s.escalations i with
    | none => simp [he]
    | some e => simp
  · cases he : s.escalations id with
    | none => simp [hi]
    | some e => simp [hi]

theorem Stores.updateEscalation_rest (s : Stores) (id : String) (status : EscalationStatus)
    (decision : String) : (s.updateEscalation id status decision).ledger = s.ledger ∧
      (s.updateEscalation id status decision).velocity = s.velocity ∧
      (s.updateEscalation id status decision).purchases = s.purchases := by
  unfold Stores.updateEscalation
  cases s.escalations id <;> exact ⟨rfl, rfl, rfl⟩

/-- Closing an escalation. -/
theorem Parked.updateEscalation (h : Parked s) (id : String) {status : EscalationStatus}
    (hstatus : status ≠ .pending) (decision : String) :
    Parked (s.updateEscalation id status decision) := by
  -- what is pending after the update was pending before it
  have hback : ∀ i e, (s.updateEscalation id status decision).escalations i = some e →
      e.status = .pending → i ≠ id ∧ s.escalations i = some e := by
    intro i e hi hpend
    rw [Stores.escalations_update] at hi
    split_ifs at hi with hid
    · obtain ⟨e', _, rfl⟩ := Option.map_eq_some_iff.1 hi
      exact absurd hpend hstatus
    · exact ⟨hid, hi⟩
  have hq : ∀ q, (s.updateEscalation id status decision).purchase q = s.purchase q := fun q => by
    rw [Stores.purchase, (s.updateEscalation_rest id status decision).2.2]
    rfl
  refine ⟨fun i e hi hpend => ?_, fun i i' e e' hi hi' hpend hpend' => ?_⟩
  · rw [hq]
    exact h.parked i e (hback i e hi hpend).2 hpend
  · exact h.alone i i' e e' (hback i e hi hpend).2 (hback i' e' hi' hpend').2 hpend hpend'

/-- A new escalation of a purchase that has none. -/
theorem Parked.createEscalation (h : Parked s) {e : EscalationRecord} {p : PurchaseRecord}
    (hp : s.purchase e.purchaseId = some p)
    (hrest : p.Quiet ∧ p.mandateId = e.mandateId ∧ p.intent = e.intent)
    (hfree : ∀ id e', s.escalations id = some e' → e'.status = .pending →
      e'.purchaseId ≠ e.purchaseId) : Parked (s.createEscalation e) := by
  cases hid : s.escalations e.escalationId with
  | some x => simpa [Stores.createEscalation, hid] using h
  | none =>
    have hstores : s.createEscalation e =
        { s with escalations := Function.update s.escalations e.escalationId (some e) } := by
      simp [Stores.createEscalation, hid]
    rw [hstores]
    have hback : ∀ i x, Function.update s.escalations e.escalationId (some e) i = some x →
        (i = e.escalationId ∧ x = e) ∨ (i ≠ e.escalationId ∧ s.escalations i = some x) := by
      intro i x hi
      by_cases hne : i = e.escalationId
      · subst hne
        rw [Function.update_self] at hi
        exact .inl ⟨rfl, (Option.some.inj hi).symm⟩
      · rw [Function.update_of_ne hne] at hi
        exact .inr ⟨hne, hi⟩
    refine ⟨fun i x hi hpend => ?_, fun i i' x x' hi hi' hpend hpend' heq => ?_⟩
    · rcases hback i x hi with ⟨rfl, rfl⟩ | ⟨_, hi⟩
      · exact ⟨rfl, p, hp, hrest⟩
      · exact h.parked i x hi hpend
    · rcases hback i x hi with ⟨rfl, rfl⟩ | ⟨_, hold⟩ <;>
        rcases hback i' x' hi' with ⟨rfl, rfl⟩ | ⟨_, hold'⟩
      · rfl
      · exact absurd heq.symm (hfree i' x' hold' hpend')
      · exact absurd heq (hfree i x hold hpend)
      · exact h.alone i i' x x' hold hold' hpend hpend' heq

end Parked

end TryTrust.DecisionCore
