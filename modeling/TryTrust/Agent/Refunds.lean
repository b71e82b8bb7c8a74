import TryTrust.Agent.Holds
import TryTrust.Agent.Reserve
import TryTrust.Conc.Alone

/-!
# A purchase alone never refunds a mandate

One `submit_purchase`, alone; at every call the environment may fail it or answer anything.

* `Above`: what every mandate has spent and committed, and by how
  much more on the mandates that hold the reservation and on those that paid;
* `unreserve_above`, `reserveChain_above`, `settle_above`, **`submitPurchase_above`**: for a positive
  amount no function lowers what was spent or committed;
* **`never_refunds_iff`**: so it is for every purchase at a price exactly when the price is positive;
  **`refunded`**: a purchase at a negative price.
-/

namespace TryTrust.Agent

open Conc

/-! ## What was spent and committed -/

/-- The calls that set the counters of a mandate. -/
def Call.setsCounters : Call → Bool
  | .casReserve _ _ _ => true
  | .updateReserved _ _ => true
  | .updateSettled _ _ _ _ _ => true
  | _ => false

/-- No mandate has spent or committed less than at the start; those in `paid` have spent the amount
more, and those in `held` committed it. -/
structure Above (amount : ℤ) (start : Db) (held paid : Finset String) (db : Db) : Prop where
  parents : db.parents = start.parents
  rows : ∀ m row, start.mandates m = some row → ∃ row', db.mandates m = some row' ∧
    row.spentTotal + (if m ∈ paid then amount else 0) ≤ row'.spentTotal ∧
    row.spentTotal + row.reservedAmount + (if m ∈ held then amount else 0) ≤
      row'.spentTotal + row'.reservedAmount

section Above

variable {amount : ℤ} {start db : Db} {held paid : Finset String}

theorem above_refl (amount : ℤ) (start : Db) : Above amount start ∅ ∅ start :=
  ⟨rfl, fun m row h => ⟨row, h, by simp, by simp⟩⟩

theorem Above.mono (ha : 0 < amount) (h : Above amount start held paid db) {held' paid' : Finset String}
    (hh : held' ⊆ held) (hp : paid' ⊆ paid) : Above amount start held' paid' db := by
  refine ⟨h.parents, fun m row hrow => ?_⟩
  obtain ⟨row', hrow', hspent, hsum⟩ := h.rows m row hrow
  refine ⟨row', hrow', le_trans ?_ hspent, le_trans ?_ hsum⟩
  · have := @hp m
    split_ifs <;> first | omega | simp_all
  · have := @hh m
    split_ifs <;> first | omega | simp_all

theorem Above.least (ha : 0 < amount) (h : Above amount start held paid db) :
    Above amount start ∅ ∅ db :=
  h.mono ha (Finset.empty_subset _) (Finset.empty_subset _)

/-- **A write to one row.** -/
theorem above_write (h : Above amount start held paid db) {jti : String}
    {f : MandateRow → MandateRow} (hf : ∀ row, (f row).parentJti = row.parentJti)
    {held' paid' : Finset String} (hheld : ∀ m, m ≠ jti → (m ∈ held' ↔ m ∈ held))
    (hpaid : ∀ m, m ≠ jti → (m ∈ paid' ↔ m ∈ paid))
    (hself : ∀ cur, db.mandates jti = some cur → ∀ spent sum : ℤ,
      spent + (if jti ∈ paid then amount else 0) ≤ cur.spentTotal →
      sum + (if jti ∈ held then amount else 0) ≤ cur.spentTotal + cur.reservedAmount →
        spent + (if jti ∈ paid' then amount else 0) ≤ (f cur).spentTotal ∧
          sum + (if jti ∈ held' then amount else 0) ≤ (f cur).spentTotal + (f cur).reservedAmount) :
    Above amount start held' paid' (db.setMandate jti f) := by
  refine ⟨?_, fun m row hrow => ?_⟩
  · rw [← h.parents]
    funext j
    rw [← parents_eq, ← parents_eq]
    exact setMandate_column db jti hf j
  · obtain ⟨row', hrow', hspent, hsum⟩ := h.rows m row hrow
    by_cases hm : m = jti
    · subst hm
      obtain ⟨hspent', hsum'⟩ := hself row' hrow' _ _ hspent hsum
      exact ⟨f row', by rw [Db.setMandate_same, hrow']; rfl, hspent', hsum'⟩
    · refine ⟨row', by rw [Db.setMandate_ne db f hm, hrow'], ?_, ?_⟩
      · simpa only [hpaid m hm] using hspent
      · simpa only [hheld m hm] using hsum

/-- A call that sets no counters. -/
theorem above_other (h : Above amount start held paid db) (e : Env) {c : Call}
    (hc : c.setsCounters = false) : Above amount start held paid (exec e c db).2 := by
  have hsame : ∀ db' : Db, db'.mandates = db.mandates → Above amount start held paid db' := by
    intro db' hdb
    refine ⟨?_, fun m row hrow => by rw [hdb]; exact h.rows m row hrow⟩
    rw [← h.parents]
    funext j
    rw [← parents_eq, ← parents_eq, hdb]
  have hstatus : ∀ jti st, Above amount start held paid
      (db.setMandate jti fun cur => { cur with status := st }) := fun jti st =>
    above_write (f := fun cur => { cur with status := st }) h (fun _ => rfl) (fun _ _ => Iff.rfl)
      (fun _ _ => Iff.rfl) fun _ _ _ _ h1 h2 => ⟨h1, h2⟩
  cases c with
  | updateExpired jti => exact hstatus jti _
  | updateRevoked jti => exact hstatus jti _
  | updateTransition jti target sources =>
    simp only [exec]
    split_ifs
    · exact hstatus jti _
    · exact h
  | deleteInstrument _ => simp only [exec]; split_ifs <;> exact hsame _ rfl
  | insertCapture _ _ => simp only [exec]; split <;> exact hsame _ rfl
  | insertIntent _ _ => simp only [exec]; split_ifs <;> exact hsame _ rfl
  | insertPurchase _ _ => simp only [exec]; split <;> exact hsame _ rfl
  | casReserve _ _ _ => cases hc
  | updateReserved _ _ => cases hc
  | updateSettled _ _ _ _ _ => cases hc
  | _ => exact hsame _ rfl

end Above

/-! ## Reservation, release and settlement -/

section Purchase

variable {envs : ℕ → Env} {amount : ℤ} {start db : Db} {held paid : Finset String} {n : ℕ}

/-- The end of a part of a purchase that raises: nothing spent or committed was lost. -/
abbrev atLeast {α : Type} (amount : ℤ) (start : Db) (φ : α → Db → Prop) :
    Except PyErr α → Db → Prop :=
  onEnd (Above amount start ∅ ∅) φ

/-- One call, which may fail. -/
theorem alone_exec {c : Call} {I : Db → Prop} {φ : Res c → Db → Prop} (hfail : I db)
    (herror : ∀ x, (exec (envs n) c db).1 = .error x → I (exec (envs n) c db).2)
    (hok : ∀ a, (exec (envs n) c db).1 = .ok a → φ a (exec (envs n) c db).2) :
    Alone sem envs (onEnd I φ) (call c) db n := by
  refine alone_call ?_
  rw [sem]
  cases (envs n).fail with
  | some x => exact hfail
  | none =>
    dsimp only
    cases hr : (exec (envs n) c db).1 with
    | error x => exact herror x hr
    | ok a => exact hok a hr

/-- A read, by which the database stays as it is. -/
theorem alone_read (ha : 0 < amount) (h : Above amount start held paid db) {c : Call} {a : Res c}
    (hread : ∀ e, exec e c db = (.ok a, db)) :
    Alone sem envs (atLeast amount start fun r db' => r = a ∧ db' = db) (call c) db n := by
  refine alone_exec (h.least ha) (fun x hx => ?_) fun r hr => ?_
  · rw [hread] at hx
    cases hx
  · rw [hread] at hr ⊢
    exact ⟨(Except.ok.inj hr).symm, rfl⟩

/-- Calls that set no counters. -/
theorem alone_others (ha : 0 < amount) (h : Above amount start held paid db) {α : Type} {p : Py α}
    (hp : p.Calls fun c => c.setsCounters = false) :
    Alone sem envs (atLeast amount start fun _ db' => Above amount start held paid db') p db n := by
  have hkeeps : Alone sem envs (fun _ => Above amount start held paid) p db n := by
    refine alone_calls (fun e c db hc hdb => ?_) hp h
    rw [sem]
    cases e.fail with
    | some x => exact hdb
    | none => exact above_other hdb _ hc
  refine flow_mono (fun r s hr => ?_) hkeeps
  cases r with
  | ok a => exact hr
  | error x => exact Above.least ha hr

theorem chain_above (ha : 0 < amount) (h : Above amount start held paid db) (fuel : ℕ)
    (jti : String) :
    Alone sem envs (atLeast amount start fun jtis db' => jtis = start.chainOf fuel jti ∧ db' = db)
      (chain fuel jti) db n := by
  have hloop : ∀ (fuel : ℕ) current seen n, Alone sem envs (atLeast amount start fun jtis db' =>
      jtis = chainList start.parents fuel current seen ∧ db' = db)
      (chainLoop fuel current seen) db n := by
    intro fuel
    induction fuel with
    | zero => exact fun _ _ _ => ⟨rfl, rfl⟩
    | succ fuel ih =>
      intro current seen n
      cases current with
      | none => exact ⟨rfl, rfl⟩
      | some jti =>
        simp only [chainLoop, chainList]
        split_ifs
        · exact ⟨rfl, rfl⟩
        · refine alone_bind (alone_read (c := .selectParent jti) (a := start.parents jti) ha h
            fun e => ?_) ?_
          · rw [← h.parents, ← parents_eq]
            rfl
          · rintro row db' n' ⟨rfl, rfl⟩
            exact ih _ _ _
  exact hloop fuel (some jti) [] n

/-- A reservation given back on one mandate. -/
theorem unreserveOne_above (ha : 0 < amount) (h : Above amount start held paid db) {jti : String}
    (hjti : jti ∈ held) :
    Alone sem envs (atLeast amount start fun _ db' => Above amount start (held.erase jti) paid db')
      (unreserveOne amount jti) db n := by
  refine alone_bind (alone_read (c := .selectReserved jti)
    (a := (db.mandates jti).map (·.reservedAmount)) ha h fun e => rfl) ?_
  rintro r db' n' ⟨hr, hdb⟩
  obtain rfl := hdb.symm
  cases r with
  | none => exact h.mono ha (Finset.erase_subset _ _) subset_rfl
  | some reserved =>
    obtain ⟨row, hrow, rfl⟩ := Option.map_eq_some_iff.mp hr.symm
    refine alone_exec (c := .updateReserved jti (max 0 (row.reservedAmount - amount))) (h.least ha)
      (fun x hx => (by cases hx)) fun _ _ => ?_
    refine above_write
      (f := fun cur => { cur with reservedAmount := max 0 (row.reservedAmount - amount) }) h
      (fun _ => rfl) (fun m hm => by simp [hm]) (fun _ _ => Iff.rfl)
      fun cur hcur spent sum hspent hsum => ⟨hspent, ?_⟩
    obtain rfl : row = cur := Option.some.inj (hrow.symm.trans hcur)
    rw [if_pos hjti] at hsum
    rw [if_neg (by simp)]
    dsimp only
    omega

/-- A reservation given back on mandates that hold it. -/
theorem unreserve_above (ha : 0 < amount) {jtis : List String} (hn : jtis.Nodup)
    (h : Above amount start held paid db) (hjtis : ∀ j ∈ jtis, j ∈ held) :
    Alone sem envs (atLeast amount start fun _ db' => Above amount start ∅ paid db')
      (unreserve amount jtis) db n := by
  induction jtis generalizing db held n with
  | nil => exact h.mono ha (Finset.empty_subset _) subset_rfl
  | cons jti rest ih =>
    obtain ⟨hnot, hrest⟩ := List.nodup_cons.mp hn
    refine alone_bind (unreserveOne_above ha h (hjtis jti List.mem_cons_self)) fun _ db' n' h' => ?_
    refine ih hrest h' fun j hj => Finset.mem_erase.mpr ⟨?_, hjtis j (List.mem_cons_of_mem _ hj)⟩
    rintro rfl
    exact hnot hj

/-- A compare-and-swap that wins commits its mandate to the amount. -/
theorem casReserve_above (ha : 0 < amount) (h : Above amount start held paid db) (jti : String)
    (row : MandateRow) :
    Alone sem envs (atLeast amount start fun (won : Bool) db' =>
      Above amount start (if won = true then insert jti held else held) paid db')
      (call (.casReserve jti row (row.reservedAmount + amount))) db n := by
  have hcases : (exec (envs n) (.casReserve jti row (row.reservedAmount + amount)) db =
      (.ok true, db.setMandate jti fun cur =>
        { cur with reservedAmount := row.reservedAmount + amount }) ∧
          (db.mandates jti).any (casMatches row) = true) ∨
      exec (envs n) (.casReserve jti row (row.reservedAmount + amount)) db = (.ok false, db) := by
    by_cases hmatch : (db.mandates jti).any (casMatches row) = true
    · exact .inl ⟨if_pos hmatch, hmatch⟩
    · exact .inr (if_neg hmatch)
  refine alone_exec (c := .casReserve jti row (row.reservedAmount + amount))
    (φ := fun (won : Bool) db' =>
      Above amount start (if won = true then insert jti held else held) paid db')
    (h.least ha) (fun x hx => ?_) fun won hwon => ?_
  · rcases hcases with ⟨hexec, -⟩ | hexec <;> rw [hexec] at hx <;> cases hx
  rcases hcases with ⟨hexec, hmatch⟩ | hexec
  · rw [hexec] at hwon ⊢
    obtain rfl : true = won := Except.ok.inj hwon
    refine above_write (f := fun cur => { cur with reservedAmount := row.reservedAmount + amount })
      h (fun _ => rfl) (fun m hm => by simp [hm]) (fun _ _ => Iff.rfl)
      fun cur hcur spent sum hspent hsum => ⟨hspent, ?_⟩
    have hread : cur.reservedAmount = row.reservedAmount := by
      simp only [hcur, Option.any_some, casMatches, Bool.and_eq_true, decide_eq_true_eq] at hmatch
      exact hmatch.1.1.2
    simp only [if_true, Finset.mem_insert_self]
    split_ifs at hsum <;> omega
  · rw [hexec] at hwon ⊢
    obtain rfl : false = won := Except.ok.inj hwon
    exact h

/-- `reserve_chain`: every mandate of the chain is committed to the amount, or none is. -/
theorem reserveChain_above (ha : 0 < amount) (h : Above amount start ∅ ∅ db) (fuel : ℕ)
    (jti : String) :
    Alone sem envs (atLeast amount start fun won db' =>
      if won = true then Above amount start (start.chainOf fuel jti).toFinset ∅ db'
      else Above amount start ∅ ∅ db') (reserveChain fuel jti amount) db n := by
  have hloop : ∀ (jtis done : List String) (db : Db) (n : ℕ), (done ++ jtis).Nodup →
      Above amount start done.toFinset ∅ db → Alone sem envs (atLeast amount start fun won db' =>
        if won = true then Above amount start (done ++ jtis).toFinset ∅ db'
        else Above amount start ∅ ∅ db') (reserveLoop amount jtis done) db n := by
    intro jtis
    induction jtis with
    | nil =>
      intro done db n _ h
      rw [List.append_nil]
      exact h
    | cons jti rest ih =>
      intro done db n hn h
      -- giving up: what was reserved is given back
      have hgiveUp : ∀ db n, Above amount start done.toFinset ∅ db → Alone sem envs (atLeast amount start fun won db' =>
          if won = true then Above amount start (done ++ jti :: rest).toFinset ∅ db'
          else Above amount start ∅ ∅ db') ((unreserve amount done).bind fun _ => pure false) db n :=
        fun db n h => alone_bind (unreserve_above ha hn.of_append_left h fun j hj =>
          List.mem_toFinset.mpr hj) fun _ db' n' h' => h'
      refine alone_bind (alone_read (c := .selectMandate jti) (a := db.mandates jti) ha h
        fun e => rfl) ?_
      rintro r db' n' ⟨-, hdb⟩
      obtain rfl := hdb.symm
      cases r with
      | none => exact hgiveUp db n' h
      | some row =>
        dsimp only
        split_ifs
        · exact hgiveUp db n' h
        · exact hgiveUp db n' h
        refine alone_bind (casReserve_above ha h jti row) fun won db' n' h' => ?_
        cases won with
        | true =>
          have hrest := ih (done ++ [jti]) db' n' (by simpa using hn) (by simpa using h')
          rwa [List.append_assoc] at hrest
        | false => exact hgiveUp db' n' h'
  refine alone_bind (chain_above ha h fuel jti) ?_
  rintro jtis db' n' ⟨rfl, hdb⟩
  obtain rfl := hdb.symm
  exact hloop _ [] db n' (chainList_nodup _ fuel (some jti) List.nodup_nil) (by simpa using h)

/-- `settle` on one mandate. -/
theorem settleOne_above (ha : 0 < amount) (h : Above amount start held paid db) (jti : String) :
    Alone sem envs (atLeast amount start fun _ db' => Above amount start held (insert jti paid) db')
      (settleOne amount jti) db n := by
  refine alone_bind (alone_read (c := .selectMandate jti) (a := db.mandates jti) ha h fun e => rfl) ?_
  rintro r db' n' ⟨hrow, hdb⟩
  obtain rfl := hdb.symm
  cases r with
  | none =>
    -- a mandate without a row had none at the start either
    refine ⟨h.parents, fun m row hstart => ?_⟩
    obtain ⟨row', hrow', hspent, hsum⟩ := h.rows m row hstart
    have hm : m ≠ jti := by
      rintro rfl
      rw [← hrow] at hrow'
      cases hrow'
    exact ⟨row', hrow', by simpa [hm] using hspent, hsum⟩
  | some row =>
    refine alone_exec (c := settleCall amount jti row) (h.least ha) (fun x hx => (by cases hx))
      fun _ _ => ?_
    refine above_write (f := fun cur =>
      { cur with
        reservedAmount := (settleRow amount row).reservedAmount
        spentTotal := (settleRow amount row).spentTotal
        txnCount := (settleRow amount row).txnCount
        status := (settleRow amount row).status }) h (fun _ => rfl) (fun _ _ => Iff.rfl)
      (fun m hm => by simp [hm]) fun cur hcur spent sum hspent hsum => ?_
    obtain rfl : row = cur := Option.some.inj (hrow.trans hcur)
    rw [if_pos (Finset.mem_insert_self _ _)]
    simp only [settleRow]
    constructor
    · split_ifs at hspent <;> omega
    · omega

/-- **`settle`**: every mandate of the chain has paid. -/
theorem settle_above (ha : 0 < amount) (h : Above amount start held ∅ db) (fuel : ℕ)
    (jti : String) :
    Alone sem envs (atLeast amount start fun _ db' =>
      Above amount start held (start.chainOf fuel jti).toFinset db') (settle fuel jti amount) db n := by
  have hloop : ∀ (jtis : List String) (paid : Finset String) (db : Db) (n : ℕ),
      Above amount start held paid db → Alone sem envs (atLeast amount start fun _ db' =>
        Above amount start held (jtis.toFinset ∪ paid) db') (settleLoop amount jtis) db n := by
    intro jtis
    induction jtis with
    | nil =>
      intro paid db n h
      rw [List.toFinset_nil, Finset.empty_union]
      exact h
    | cons jti rest ih =>
      intro paid db n h
      refine alone_bind (settleOne_above ha h jti) fun _ db' n' h' => ?_
      have hrest := ih (insert jti paid) db' n' h'
      rwa [Finset.union_insert, ← Finset.insert_union, ← List.toFinset_cons] at hrest
  refine alone_bind (chain_above ha h fuel jti) ?_
  rintro jtis db' n' ⟨rfl, hdb⟩
  obtain rfl := hdb.symm
  simpa using hloop _ ∅ db n' h

/-- **`release`** by the mandates that hold the amount. -/
theorem release_above (ha : 0 < amount) (fuel : ℕ) (jti : String)
    (h : Above amount start (start.chainOf fuel jti).toFinset ∅ db) :
    Alone sem envs (atLeast amount start fun _ db' => Above amount start ∅ ∅ db')
      (release fuel jti amount) db n := by
  refine alone_bind (chain_above ha h fuel jti) ?_
  rintro jtis db' n' ⟨rfl, hdb⟩
  obtain rfl := hdb.symm
  exact unreserve_above ha (chainList_nodup _ fuel (some jti) List.nodup_nil) h fun j hj =>
    List.mem_toFinset.mpr hj

/-! ## The purchase -/

/-- The end of a purchase: nothing was lost, and a captured one was paid by the whole chain. -/
def Settled (amount : ℤ) (start : Db) (fuel : ℕ) (jti : String) (o : Outcome) (db : Db) : Prop :=
  ∃ paid, Above amount start ∅ paid db ∧
    ∀ id receipt, o = .captured id receipt → (start.chainOf fuel jti).toFinset ⊆ paid

variable {fuel : ℕ} {intent : Intent}

theorem settled_rejected (h : Above amount start ∅ ∅ db) (jti : String) (id : Option String)
    (code detail : String) : Settled amount start fuel jti (.rejected id code detail) db :=
  ⟨∅, h, fun _ _ h => nomatch h⟩

theorem compensate_above (ha : 0 < intent.amount) (claims : Claims)
    (h : Above intent.amount start (start.chainOf fuel claims.jti).toFinset ∅ db)
    (purchaseId code detail : String) :
    Alone sem envs (atLeast intent.amount start (Settled intent.amount start fuel claims.jti))
      (compensate fuel purchaseId claims intent code detail) db n := by
  refine alone_bind (release_above ha fuel claims.jti h) fun _ _ _ h => ?_
  refine alone_bind (alone_others ha h (Prog.calls_perform rfl)) fun _ _ _ h => ?_
  refine alone_bind (alone_others ha h (Prog.calls_perform rfl)) fun _ _ _ h => ?_
  exact settled_rejected h _ _ _ _

theorem finishCharge_above (ha : 0 < intent.amount) (claims : Claims)
    (h : Above intent.amount start (start.chainOf fuel claims.jti).toFinset ∅ db)
    (purchaseId : String) (receipt : Receipt) :
    Alone sem envs (atLeast intent.amount start (Settled intent.amount start fuel claims.jti))
      (finishCharge fuel purchaseId claims intent receipt) db n := by
  refine alone_bind (settle_above ha h fuel claims.jti) fun _ _ _ h => ?_
  refine alone_bind (alone_others ha h (Prog.calls_perform rfl)) fun _ _ _ h => ?_
  refine alone_bind (alone_others ha h (Prog.calls_perform rfl)) fun _ _ _ h => ?_
  refine alone_bind (alone_others ha h (Prog.calls_perform rfl)) fun _ _ _ h => ?_
  exact ⟨_, h.mono ha (Finset.empty_subset _) subset_rfl, fun _ _ _ => subset_rfl⟩

variable (K : Deps) (ports : String → Option Port)

theorem portSettle_others (ids : FreshIds) (port : Port) (offer : Offer) (claims : Claims)
    (token : String) (intent : Intent) (signature : String) (reservationId : Option String) :
    (portSettle K ids port offer claims token intent signature reservationId).Calls
      fun c => c.setsCounters = false := by
  have hlive : (liveState claims.jti reservationId).Calls fun c => c.setsCounters = false :=
    liveState_calls (φ := fun c => c.setsCounters = false) rfl
  cases port with
  | mock =>
    exact localSettle_calls K ids token intent signature hlive rfl rfl (fun _ => rfl) (fun _ => rfl)
      fun _ => rfl
  | rappiBridge =>
    exact rappiSettle_calls K offer claims intent hlive (fun _ _ => Prog.calls_perform rfl)
      (fun _ => rfl) (fun _ => rfl) (fun _ => rfl) fun _ => rfl

/-- **`_charge`** of a reserved purchase. -/
theorem charge_above (ha : 0 < intent.amount) (ids : FreshIds) (claims : Claims)
    (h : Above intent.amount start (start.chainOf fuel claims.jti).toFinset ∅ db)
    (purchaseId token signature : String) (reservationId : Option String) :
    Alone sem envs (atLeast intent.amount start (Settled intent.amount start fuel claims.jti))
      (charge K ports fuel ids purchaseId token claims intent signature reservationId) db n := by
  refine alone_bind (alone_others ha h (Prog.calls_perform rfl)) fun _ _ _ h => ?_
  cases ports intent.merchantId with
  | none => exact h.least ha
  | some port =>
    refine alone_bind (alone_others ha h (Prog.calls_perform rfl)) fun found _ _ h => ?_
    refine alone_bind (alone_others ha h (Prog.calls_attempt
      (portSettle_others K ids port _ claims token intent signature reservationId)))
        fun result _ _ h => ?_
    rcases result with (_ | _ | _ | _) | (receipt | _)
    case ok.accepted => exact finishCharge_above ha claims h purchaseId receipt
    all_goals exact compensate_above ha claims h purchaseId _ _

/-- The end of `verify`: an approved purchase is committed to by the whole chain. -/
def Committed (amount : ℤ) (start : Db) (fuel : ℕ) (jti : String) (v : Verified) (db : Db) : Prop :=
  if v.decision.decision = .approved then Above amount start (start.chainOf fuel jti).toFinset ∅ db
  else Above amount start ∅ ∅ db

theorem refuse_above (ha : 0 < amount) (h : Above amount start ∅ ∅ db) (fuel : ℕ) (jti : String)
    (mandateJti : Option String) (code detail : String) :
    Alone sem envs (atLeast amount start (Committed amount start fuel jti))
      (refuse mandateJti code detail) db n := by
  refine alone_bind (alone_others ha h (Prog.calls_perform rfl)) fun _ _ _ h => ?_
  exact h

theorem verifyGate_above (ha : 0 < intent.amount) (ids : FreshIds) (claims : Claims)
    (row : MandateRow) (signature : String) (now : ℤ) (h : Above intent.amount start ∅ ∅ db) :
    Alone sem envs (atLeast intent.amount start (Committed intent.amount start fuel claims.jti))
      (verifyGate K ports fuel ids claims row intent signature now true) db n := by
  have hrefuse : ∀ {db n} code detail, Above intent.amount start ∅ ∅ db →
      Alone sem envs (atLeast intent.amount start (Committed intent.amount start fuel claims.jti))
        (refuse claims.jti code detail) db n :=
    fun code detail h => refuse_above ha h fuel _ _ code detail
  simp only [verifyGate]
  cases ports intent.merchantId with
  | none => exact hrefuse _ _ h
  | some port =>
    refine alone_bind (alone_others ha h (Prog.calls_perform rfl)) fun offer _ _ h => ?_
    cases offer with
    | none => exact hrefuse _ _ h
    | some offer =>
      dsimp only
      split_ifs with hprice hstop
      · exact hrefuse _ _ h
      · refine alone_bind (alone_others ha h (Prog.calls_perform rfl)) fun _ _ _ h => ?_
        exact (if_neg (by simpa using hstop)).mpr h
      · refine alone_bind (reserveChain_above ha h fuel claims.jti) fun won _ _ h => ?_
        cases won with
        | false => exact hrefuse _ _ h
        | true =>
          refine alone_bind (alone_others ha h (Prog.calls_perform rfl)) fun _ _ _ h => ?_
          refine alone_bind (alone_others ha h (Prog.calls_perform rfl)) fun _ _ _ h => ?_
          exact h

theorem verify_above (ha : 0 < intent.amount) (ids : FreshIds) (token signature : String)
    (h : Above intent.amount start ∅ ∅ db) :
    Alone sem envs (atLeast intent.amount start (Committed intent.amount start fuel intent.mandateJti))
      (verify K ports fuel ids token intent signature true) db n := by
  have hrule : VerifyRule fun p : Py Verified => ∀ db n, Above intent.amount start ∅ ∅ db →
      Alone sem envs (atLeast intent.amount start (Committed intent.amount start fuel intent.mandateJti))
        p db n :=
    { raise := fun x db n h => h
      refuse := fun mandateJti code detail db n h => refuse_above ha h fuel _ _ code detail
      read := fun c f hc hf db n h => by
        refine alone_bind (alone_others ha h (Prog.calls_perform ?_)) fun a db' n' h => hf a db' n' h
        cases c <;> first | rfl | cases hc
      expire := fun jti p hp db n h =>
        alone_bind (alone_others ha h (Prog.calls_perform rfl)) fun _ db' n' h => hp db' n' h }
  refine verify_rule hrule (fun claims row now _ hname db n h => ?_) db n h
  rw [hname]
  exact verifyGate_above K ports ha ids claims row signature now h

/-- What `submit_purchase` does with the verdict. -/
theorem afterVerify_above (ha : 0 < intent.amount) (ids : FreshIds) (token signature : String)
    (claims : Claims) (v : Verified) (h : Committed intent.amount start fuel claims.jti v db) :
    Alone sem envs (atLeast intent.amount start (Settled intent.amount start fuel claims.jti))
      (afterVerify K ports fuel ids token claims intent signature v) db n := by
  rw [Committed] at h
  simp only [afterVerify]
  cases hv : v.decision.decision with
  | approved =>
    rw [if_pos hv] at h
    exact charge_above K ports ha ids claims h _ _ _ _
  | escalated =>
    rw [if_neg (by simp [hv])] at h
    refine alone_bind (alone_others ha h (Prog.calls_perform rfl)) fun _ _ _ h => ?_
    refine alone_bind (alone_others ha h (Prog.calls_perform rfl)) fun _ _ _ h => ?_
    exact ⟨∅, h, fun _ _ h => nomatch h⟩
  | rejected =>
    rw [if_neg (by simp [hv])] at h
    refine alone_bind (alone_others ha h (Prog.calls_perform rfl)) fun _ _ _ h => ?_
    refine alone_bind (alone_others ha h (Prog.calls_perform rfl)) fun _ _ _ h => ?_
    exact settled_rejected h _ _ _ _

end Purchase

/-! ## No refund -/

/-- At the end of a purchase, nothing that the mandates of its chain have spent or committed is less
than at the start; when it is captured, each has spent more. -/
def NoRefund (start : Db) (jtis : List String) (r : Except PyErr Outcome) (db : Db) : Prop :=
  ∀ m ∈ jtis, ∀ row ∈ start.mandates m, ∃ row', db.mandates m = some row' ∧
    row.spentTotal ≤ row'.spentTotal ∧
    row.spentTotal + row.reservedAmount ≤ row'.spentTotal + row'.reservedAmount ∧
    ∀ id receipt, r = .ok (.captured id receipt) → row.spentTotal < row'.spentTotal

/-- Every mandate is stored under the id in its claims. -/
def Named (db : Db) : Prop := ∀ m, ∀ row ∈ db.mandates m, row.claims.jti = m

section Submit

variable {envs : ℕ → Env} {amount : ℤ} {start db : Db} {n fuel : ℕ} {jti : String}

theorem noRefund_error (start : Db) (jtis : List String) (x : PyErr) :
    NoRefund start jtis (.error x) start :=
  fun _ _ row hrow => ⟨row, hrow, le_rfl, le_rfl, fun _ _ h => nomatch h⟩

theorem noRefund_rejected (start : Db) (jtis : List String) (id : Option String)
    (code detail : String) : NoRefund start jtis (.ok (.rejected id code detail)) start :=
  fun _ _ row hrow => ⟨row, hrow, le_rfl, le_rfl, fun _ _ h => nomatch h⟩

/-- The end of a purchase of a positive amount. -/
theorem settled_noRefund (ha : 0 < amount) {r : Except PyErr Outcome}
    (h : atLeast amount start (Settled amount start fuel jti) r db) :
    NoRefund start (start.chainOf fuel jti) r db := by
  intro m hm row hrow
  cases r with
  | error x =>
    obtain ⟨row', hrow', hspent, hsum⟩ := h.rows m row hrow
    exact ⟨row', hrow', by simpa using hspent, by simpa using hsum, fun _ _ h => nomatch h⟩
  | ok o =>
    obtain ⟨paid, hpaid, hcaptured⟩ := h
    obtain ⟨row', hrow', hspent, hsum⟩ := hpaid.rows m row hrow
    refine ⟨row', hrow', ?_, by simpa using hsum, fun id receipt heq => ?_⟩
    · split_ifs at hspent <;> omega
    · have hmem := hcaptured id receipt (Except.ok.inj heq) (List.mem_toFinset.mpr hm)
      rw [if_pos hmem] at hspent
      omega

/-- A read at a known step. -/
theorem sem_read {c : Call} {a : Res c} {e : Env} (hread : exec e c db = (.ok a, db)) :
    (sem e c db).2 = db ∧ ∀ b, (sem e c db).1 = .ok b → b = a := by
  rw [sem]
  cases e.fail with
  | some x => exact ⟨rfl, fun b h => by cases h⟩
  | none =>
    dsimp only
    rw [hread]
    exact ⟨rfl, fun b h => (Except.ok.inj h).symm⟩

/-- **A purchase at a positive price**, which the merchant answers at its second call. -/
theorem submitPurchase_noRefund (K : Deps) (ports : String → Option Port) (ids : FreshIds)
    (offerId mandateJti merchantId : String) (hnamed : Named start)
    (hprice : ∀ offer ∈ (envs 1).offer, 0 < offer.price) :
    Alone sem envs (NoRefund start (start.chainOf fuel mandateJti))
      (submitPurchase K ports fuel ids offerId mandateJti merchantId) start 0 := by
  refine alone_step (a := start.mandates mandateJti) (sem_read rfl) (noRefund_error start _) ?_
  cases hrow : start.mandates mandateJti with
  | none => exact noRefund_error start _ _
  | some row =>
    dsimp only
    cases ports merchantId with
    | none => exact noRefund_rejected start _ _ _ _
    | some port =>
      refine alone_step (a := (envs 1).offer) (sem_read rfl) (noRefund_error start _) ?_
      cases hoffer : (envs 1).offer with
      | none => exact noRefund_rejected start _ _ _ _
      | some offer =>
        have ha : 0 < offer.price := hprice offer hoffer
        have hname : row.claims.jti = mandateJti := hnamed _ row hrow
        have h := above_refl offer.price start
        refine flow_mono (fun r (s : Db × ℕ) (hs : atLeast offer.price start
          (Settled offer.price start fuel mandateJti) r s.1) => settled_noRefund ha hs) ?_
        refine alone_bind (alone_others ha h (Prog.calls_perform rfl)) fun issued _ _ h => ?_
        refine alone_bind (alone_others ha h (Prog.calls_perform rfl)) fun _ _ _ h => ?_
        refine alone_bind (alone_others ha h (Prog.calls_perform rfl)) fun _ _ _ h => ?_
        have hintent : 0 < (buildIntent ids mandateJti row.claims.agent offer issued).amount := ha
        refine alone_bind (verify_above K ports hintent ids row.token _ h) fun v _ _ h => ?_
        rw [← hname] at h ⊢
        exact afterVerify_above K ports ha ids row.token _ row.claims v h

end Submit

/-! ## Prices that are not positive -/

/-- A mandate of 100.00 for groceries. -/
def pantryClaims : Claims where
  jti := "mdt"
  agent := "agt"
  paymentMethodRef := "pm"
  currency := "COP"
  categories := []
  merchants := []
  conditions := .bool true
  limits := ⟨10000, 10000, none⟩
  nbf := 0
  exp := 1000

def pantryRow : MandateRow := ⟨.active, pantryClaims, "token", 0, 0, 0, none⟩

def pantryStart : Db where
  mandates := fun m => if m = "mdt" then some pantryRow else none
  instruments := fun _ => none
  captures := fun _ => none
  intents := []
  purchases := fun _ => none
  audit := []
  escalations := []
  bridgeOrders := []

/-- An offer at any price. -/
def pantryOffer (price : ℤ) : Offer :=
  ⟨"off", "rappi", "groceries", "coffee", price, "COP",
    some ⟨"st", "turbo", "pr", "coffee", price.tdiv 100⟩⟩

/-- Nothing fails, and the bridge confirms the order. -/
def pantryEnv (price : ℤ) : Env where
  fail := none
  now := 10
  offer := some (pantryOffer price)
  dryRun := false
  quote := ⟨"400.00", "hash", none, "quote"⟩
  order := .confirmed (some "order") (some "400.00") "confirmed"

def pantryDeps : Deps where
  verifyToken := fun _ => .ok pantryClaims
  verifyDetached := fun _ _ _ => .ok ()
  signDetached := fun _ _ => "signature"
  evaluate := fun _ _ _ => .ok true
  describe := fun _ => ""
  bridgeMessage := id

def pantryIds : FreshIds := ⟨"pur", "pit", "nonce", "res", "cap", "rct", "esc"⟩

section Quiet

variable {α β : Type} {e : Env} {Q : Except PyErr β → Db → Prop} {db t : Db}

/-- A part whose run is known, when nothing fails. -/
theorem ends_result {p : Py α} {f : α → Py β} {a : α} (h : runAlone e p db = (.ok a, t))
    (hf : Ends (exec e) Q (f a) t) : Ends (exec e) Q (p.bind f) db := by
  refine flow_bind (P := fun r s => r = .ok a ∧ s = t) (ends_of_run ?_) (fun b s hb => ?_)
    fun x s hx => (by cases hx.1)
  · exact ⟨congrArg Prod.fst h, congrArg Prod.snd h⟩
  · obtain ⟨hb, rfl⟩ := hb
    rw [Except.ok.inj hb]
    exact hf

/-- One call. -/
theorem ends_exec {c : Call} {f : Res c → Py β} {a : Res c} (h : exec e c db = (.ok a, t))
    (hf : Ends (exec e) Q (f a) t) : Ends (exec e) Q ((call c).bind f) db :=
  ends_result ((Prog.run_perform (exec e) c db).trans h) hf

end Quiet

/-- The intent of the purchase. -/
def pantryIntent (price : ℤ) : Intent := buildIntent pantryIds "mdt" "agt" (pantryOffer price) 10

theorem discount_approved {price : ℤ} (h : price ≤ 0) :
    gate pantryDeps pantryClaims (pantryIntent price) (pantryOffer price) ⟨0, 0, 0⟩ 10 =
      ⟨.approved, none, "", []⟩ := by
  have hlimit : ¬ price > 10000 := by omega
  simp [gate, pantryClaims, pantryIntent, buildIntent, pantryOffer, pantryDeps, hlimit]

/-- The mandate has no ancestor. -/
theorem pantry_chain {db : Db} {r : MandateRow} (hrow : db.mandates "mdt" = some r)
    (hparent : r.parentJti = none) : db.chainOf 2 "mdt" = ["mdt"] := by
  have hparents : db.parents "mdt" = some none := by rw [← parents_eq, hrow, Option.map_some, hparent]
  simp [Db.chainOf, chainList, hparents]

/-- The gate approves, and the mandate takes the amount. -/
theorem discount_reserved {price : ℤ} (h : price ≤ 0) {db : Db}
    (hrow : db.mandates "mdt" = some pantryRow) (hintents : db.intents = []) :
    Ends (exec (pantryEnv price)) (fun r s => r = .ok ⟨⟨.approved, none, "", []⟩, some "res"⟩ ∧
      s.mandates "mdt" = some (holdRow price pantryRow))
      (verifyGate pantryDeps (fun _ => some .rappiBridge) 2 pantryIds pantryClaims pantryRow
        (pantryIntent price) "signature" 10 true) db := by
  have hgate : gate pantryDeps pantryClaims (pantryIntent price) (pantryOffer price)
      ⟨pantryRow.spentTotal, pantryRow.reservedAmount, pantryRow.txnCount⟩ 10 =
        ⟨.approved, none, "", []⟩ := discount_approved h
  have hamount : ¬ (pantryIntent price).amount ≠ (pantryOffer price).price := not_not.mpr rfl
  refine ends_exec (a := some (pantryOffer price)) (t := db) rfl ?_
  dsimp only
  rw [if_neg hamount, if_neg (by simp [hgate])]
  -- the mandate takes the amount, whatever it is below its limits
  have hfits : ∀ j ∈ ["mdt"], Fits price db j := by
    intro j hj
    obtain rfl := List.mem_singleton.mp hj
    refine ⟨pantryRow, hrow, rfl, ?_⟩
    show (0 : ℤ) + 0 + price ≤ 10000
    omega
  have hrun := (run_reserveLoop (e := pantryEnv price) price db ["mdt"] [] (by simp)).1 hfits
  rw [onRows_nil, ← pantry_chain hrow rfl, ← run_reserveChain, pantry_chain hrow rfl] at hrun
  refine ends_result hrun ?_
  refine ends_exec (c := .insertIntent (pantryIntent price) "signature") (a := ())
    (if_neg (by simp [Db.onRows, hintents])) ?_
  refine ends_exec (a := ()) rfl ?_
  refine ⟨rfl, ?_⟩
  exact (onRows_mem (List.mem_singleton_self _)).trans (by rw [hrow])

/-- The check approves and reserves. -/
theorem discount_verified {price : ℤ} (h : price ≤ 0) {db : Db}
    (hrow : db.mandates "mdt" = some pantryRow) (hintents : db.intents = []) :
    Ends (exec (pantryEnv price)) (fun r s => r = .ok ⟨⟨.approved, none, "", []⟩, some "res"⟩ ∧
      s.mandates "mdt" = some (holdRow price pantryRow))
      (verify pantryDeps (fun _ => some .rappiBridge) 2 pantryIds "token" (pantryIntent price)
        "signature" true) db := by
  refine ends_exec (c := .nowTs) (a := (10 : ℤ)) (t := db) rfl ?_
  rw [if_neg (by simp [pantryIntent, buildIntent]), if_neg (by simp [pantryIntent, buildIntent, intentTtl])]
  refine ends_exec (c := .selectIntentSeen "pit" "nonce") (a := false) (t := db)
    (by simp [exec, hintents]) ?_
  refine ends_exec (c := .selectMandate "mdt") (a := some pantryRow) (t := db)
    (by simp [exec, hrow]) ?_
  have hchain := run_chain (e := pantryEnv price) db 2 "mdt"
  rw [pantry_chain hrow rfl] at hchain
  exact ends_result hchain (discount_reserved h hrow hintents)

/-- The bridge takes the order. -/
theorem discount_settled (price : ℤ) {db : Db} {row : MandateRow}
    (hrow : db.mandates "mdt" = some row) (hstatus : row.status = .active) :
    Ends (exec (pantryEnv price)) (fun r s => s.mandates = db.mandates ∧
      ∃ receipt, r = .ok (.accepted receipt))
      (rappiSettle pantryDeps (pantryOffer price) pantryClaims (pantryIntent price)
        (liveState "mdt" (some "res"))
        (some fun amount cartHash => call (.mintToken "pit" (some "res") amount cartHash))) db := by
  have hlive : runAlone (pantryEnv price) (liveState "mdt" (some "res")) db =
      (.ok ⟨true, none, some "res"⟩, db) :=
    run_exec (c := .selectLiveStatus "mdt") (a := some .active) (by simp [exec, hrow, hstatus])
  refine ends_result hlive ?_
  refine ends_exec (c := .cartAdd (rappiCart (pantryOffer price))) (a := ()) rfl ?_
  refine ends_exec (c := .quote "turbo") (a := ⟨"400.00", "hash", none, "quote"⟩) rfl ?_
  have horder : ∃ s, s.mandates = db.mandates ∧ runAlone (pantryEnv price)
      (rappiOrder (pantryIntent price) "turbo" ⟨"400.00", "hash", none, "quote"⟩
        fun amount cartHash => call (.mintToken "pit" (some "res") amount cartHash)).attempt db =
      (.ok (.ok ⟨"confirmed", some "order", some "400.00", "confirmed"⟩), s) := by
    refine ⟨_, ?_, (Prog.run_attempt _ _ _).trans rfl⟩
    rfl
  obtain ⟨s, hs, hrun⟩ := horder
  refine ends_result hrun ?_
  refine ends_exec (c := .auditAppend ⟨"merchant.settled", "off", some "mdt"⟩) (a := ()) rfl ?_
  exact ⟨hs, _, rfl⟩

/-- The mandate pays the price, and less than nothing where it is negative. -/
theorem discount_paid {price : ℤ} {db : Db}
    (hrow : db.mandates "mdt" = some (holdRow price pantryRow)) (receipt : Receipt) :
    Ends (exec (pantryEnv price)) (fun r s => (∃ receipt, r = .ok (.captured "pur" receipt)) ∧
      ∃ row, s.mandates "mdt" = some row ∧ row.spentTotal = price)
      (finishCharge 2 "pur" pantryClaims (pantryIntent price) receipt) db := by
  have hsettle : ∃ s row, runAlone (pantryEnv price) (settle 2 "mdt" price) db = (.ok (), s) ∧
      s.mandates "mdt" = some row ∧ row.spentTotal = price := by
    have hchain := run_chain (e := pantryEnv price) db 2 "mdt"
    rw [pantry_chain hrow rfl] at hchain
    have hselect : exec (pantryEnv price) (.selectMandate "mdt") db =
        (.ok (some (holdRow price pantryRow)), db) := by simp [exec, hrow]
    refine ⟨_, settleRow price (holdRow price pantryRow), (Prog.run_bind_ok _ hchain).trans
      (Prog.run_bind_ok _ ((run_exec hselect).trans rfl)), ?_, ?_⟩
    · exact (Db.setMandate_same db "mdt" _).trans (by rw [hrow]; rfl)
    · show (0 : ℤ) + price = price
      omega
  obtain ⟨s, row, hrun, hpaid, hspent⟩ := hsettle
  refine ends_result hrun ?_
  refine ends_exec (a := ()) rfl ?_
  refine ends_exec (a := ()) rfl ?_
  refine ends_exec (a := ()) rfl ?_
  exact ⟨⟨receipt, rfl⟩, row, hpaid, hspent⟩

/-- **A purchase at a price that is not positive** is captured. -/
theorem discount_captured {price : ℤ} (h : price ≤ 0) :
    Ends (exec (pantryEnv price)) (fun r s => (∃ receipt, r = .ok (.captured "pur" receipt)) ∧
      ∃ row, s.mandates "mdt" = some row ∧ row.spentTotal = price)
      (submitPurchase pantryDeps (fun _ => some .rappiBridge) 2 pantryIds "off" "mdt" "rappi")
      pantryStart := by
  refine ends_exec (a := some pantryRow) (t := pantryStart) rfl ?_
  refine ends_exec (a := some (pantryOffer price)) (t := pantryStart) rfl ?_
  refine ends_exec (a := (10 : ℤ)) (t := pantryStart) rfl ?_
  refine ends_exec (a := ()) rfl ?_
  refine ends_exec (a := ()) rfl ?_
  refine flow_bind (discount_verified h rfl rfl) ?_ fun x s hs => (by cases hs.1)
  rintro v s ⟨hv, hrow⟩
  obtain rfl := Except.ok.inj hv
  refine ends_exec (c := .updatePurchase "pur" .charging (.reservation (some "res"))) (a := ()) rfl ?_
  refine ends_exec (a := some (pantryOffer price)) rfl ?_
  refine flow_attempt_bind (discount_settled price hrow rfl) ?_
  rintro r s' ⟨hs', receipt, rfl⟩
  exact discount_paid (by rw [hs']; exact hrow) receipt

/-- The run of `submit_purchase` alone ends without a refund. -/
def NeverRefunds (K : Deps) (ports : String → Option Port) (fuel : ℕ) (ids : FreshIds)
    (offerId mandateJti merchantId : String) (envs : ℕ → Env) (start : Db) : Prop :=
  Alone sem envs (NoRefund start (start.chainOf fuel mandateJti))
    (submitPurchase K ports fuel ids offerId mandateJti merchantId) start 0

theorem pantry_refunds {price : ℤ} (h : price ≤ 0) :
    ¬ NeverRefunds pantryDeps (fun _ => some .rappiBridge) 2 pantryIds "off" "mdt" "rappi"
      (fun _ => pantryEnv price) pantryStart := by
  intro hnever
  have hsem : sem (pantryEnv price) = exec (pantryEnv price) := rfl
  have hends := flow_run (alone_constant hnever)
  rw [hsem] at hends
  obtain ⟨⟨receipt, hcaptured⟩, row, hrow, hspent⟩ := flow_run (discount_captured h)
  obtain ⟨row', hrow', -, -, hmore⟩ := hends "mdt"
    (by rw [pantry_chain (r := pantryRow) rfl rfl]; exact List.mem_singleton_self _) pantryRow rfl
  obtain rfl : row = row' := Option.some.inj (hrow.symm.trans hrow')
  have hless := hmore "pur" receipt hcaptured
  rw [hspent, show pantryRow.spentTotal = 0 from rfl] at hless
  omega

theorem pantryStart_named : Named pantryStart := by
  intro m row hrow
  by_cases hm : m = "mdt"
  · obtain rfl := Option.some.inj ((if_pos hm).symm.trans hrow)
    exact hm.symm
  · cases (if_neg hm).symm.trans hrow

/-- **No purchase at a price refunds a mandate exactly when the price is positive**: any mandates
stored under their ids, any environment at every call; the price is that of the offer which the
merchant answers first. -/
theorem never_refunds_iff (price : ℤ) :
    (∀ (K : Deps) (ports : String → Option Port) (fuel : ℕ) (ids : FreshIds)
      (offerId mandateJti merchantId : String) (envs : ℕ → Env) (start : Db), Named start →
        (∀ offer ∈ (envs 1).offer, offer.price = price) →
          NeverRefunds K ports fuel ids offerId mandateJti merchantId envs start) ↔ 0 < price := by
  constructor
  · intro hall
    by_contra hprice
    exact pantry_refunds (not_lt.mp hprice) (hall _ _ _ _ _ _ _ _ _ pantryStart_named
      fun offer hoffer => by
        obtain rfl := Option.some.inj hoffer
        rfl)
  · intro hprice K ports fuel ids offerId mandateJti merchantId envs start hnamed hoffer
    exact submitPurchase_noRefund K ports ids offerId mandateJti merchantId hnamed
      fun offer ho => by rw [hoffer offer ho]; exact hprice

/-- **A purchase of an offer at -50.00** lowers what the mandate has spent. -/
theorem refunded : ¬ NeverRefunds pantryDeps (fun _ => some .rappiBridge) 2 pantryIds "off" "mdt"
    "rappi" (fun _ => pantryEnv (-5000)) pantryStart :=
  pantry_refunds (by decide)

end TryTrust.Agent
