import TryTrust.Agent.Budget
import TryTrust.Agent.Revocation

/-!
# What a purchase holds

A pool of purchase sagas, revocations and status transitions over one forest of mandates, with the
history that says of every purchase what it holds on every mandate.

* `Holding`: the stage on each mandate, the row found by the compare-and-swap, the count and the
  clock last read; `Actor`, its programs;
* `HoldInv`: what a purchase has reserved it reserved within the budget of an active mandate;
* `HoldStep`: only held mandates are released or settled, and money moves only under a mandate whose
  whole chain is held and which had not expired;
* **`actor_outline`**: every actor keeps the invariant and its calls are `HoldStep`s.
-/

namespace TryTrust.Agent

open Conc

/-- What a purchase did to every mandate, the row that its compare-and-swap found, the count that it
last read, its amount, and the clock's last answer. -/
structure Holding where
  stage : String → Stage
  taken : String → Option MandateRow
  count : String → ℕ
  amount : ℤ
  clock : ℤ

/-- A purchase that has not started. -/
def Holding.start : Holding := ⟨fun _ => .none, fun _ => none, fun _ => 0, 0, 0⟩

/-- A call's effect on the caller's holding. -/
def Holding.advance (γ : Holding) (db : Db) : (c : Call) → Except PyErr (Res c) → Holding
  | .insertPurchase _ i, .ok _ => { γ with amount := i.amount }
  | .nowTs, .ok t => { γ with clock := t }
  | .selectMandate jti, .ok (some row) =>
    { γ with count := Function.update γ.count jti row.txnCount }
  | .casReserve jti _ _, .ok true =>
    { γ with
      stage := Function.update γ.stage jti .reserved
      taken := Function.update γ.taken jti (db.mandates jti) }
  | .updateReserved jti _, .ok _ => { γ with stage := Function.update γ.stage jti .released }
  | .updateSettled jti _ _ _ _, .ok _ => { γ with stage := Function.update γ.stage jti .settled }
  | _, _ => γ

/-- A purchase, or what runs beside it. -/
inductive Actor where
  | purchase (ids : FreshIds) (offerId mandateJti merchantId : String)
  | revocation (w : Revocation)

/-- The mandate that an actor buys under. -/
def Actor.target : Actor → Option String
  | purchase _ _ mandateJti _ => some mandateJti
  | revocation _ => none

/-- The program of an actor. -/
def Actor.prog (K : Deps) (ports : String → Option Port) (fuel : ℕ) : Actor → Py (Option Outcome)
  | purchase ids offerId mandateJti merchantId => do
    let outcome ← submitPurchase K ports fuel ids offerId mandateJti merchantId
    pure (some outcome)
  | revocation w => w.prog

/-- The mandate that a compare-and-swap would reserve. -/
def Call.reserves : Call → Option String
  | .casReserve jti _ _ => some jti
  | _ => none

/-- The mandate that a compare-and-swap reserves when its guard matches. -/
def Call.takes (db : Db) : Call → Option String
  | .casReserve jti row _ => if (db.mandates jti).any (casMatches row) then some jti else none
  | _ => none

/-- The mandate and the count that a settlement writes. -/
def Call.counts : Call → Option (String × ℕ)
  | .updateSettled jti _ _ count _ => some (jti, count)
  | _ => none

/-- The calls by which money moves. -/
def Call.moves : Call → Bool
  | .insertCapture _ _ => true
  | .placeOrder _ => true
  | _ => false

/-- The calls that keep the caller's holding. -/
def Call.calm : Call → Bool
  | .insertPurchase _ _ => false
  | .nowTs => false
  | .selectMandate _ => false
  | .casReserve _ _ _ => false
  | .updateReserved _ _ => false
  | .updateSettled _ _ _ _ _ => false
  | _ => true

/-- The row is active and its budget covers the amount. -/
structure Covers (amount : ℤ) (row : MandateRow) : Prop where
  active : row.status = .active
  budget : row.spentTotal + row.reservedAmount + amount ≤ row.claims.limits.totalBudget

theorem holding_calm {c : Call} (hc : c.calm = true) (γ : Holding) (db : Db)
    (r : Except PyErr (Res c)) : γ.advance db c r = γ := by
  cases c <;> first | rfl | exact Bool.noConfusion hc

theorem holding_error (γ : Holding) (db : Db) (c : Call) (x : PyErr) :
    γ.advance db c (.error x) = γ := by
  cases c <;> rfl

/-- The columns that are fixed when a mandate is issued. -/
def IssuedColumn {β : Type} (f : MandateRow → β) : Prop :=
  ∀ row status reserved spent count,
    f { row with
      status := status, reservedAmount := reserved, spentTotal := spent, txnCount := count } = f row

theorem setMandate_column {β : Type} {f : MandateRow → β} (db : Db) (jti : String)
    {g : MandateRow → MandateRow} (hg : ∀ row, f (g row) = f row) (m : String) :
    ((db.setMandate jti g).mandates m).map f = (db.mandates m).map f := by
  by_cases hm : m = jti
  · subst hm
    rw [Db.setMandate_same, Option.map_map]
    exact congrFun (congrArg _ (funext hg)) _
  · rw [Db.setMandate_ne db g hm]

/-- No call changes such a column. -/
theorem exec_column {β : Type} {f : MandateRow → β} (hf : IssuedColumn f) (e : Env) (c : Call)
    (db : Db) (m : String) : ((exec e c db).2.mandates m).map f = (db.mandates m).map f := by
  cases c with
  | casReserve _ _ _ =>
    simp only [exec]
    split_ifs
    · exact setMandate_column db _ (fun row => hf row _ _ _ _) m
    · rfl
  | updateTransition _ _ _ =>
    simp only [exec]
    split_ifs
    · exact setMandate_column db _ (fun row => hf row _ _ _ _) m
    · rfl
  | updateReserved _ _ => exact setMandate_column db _ (fun row => hf row _ _ _ _) m
  | updateSettled _ _ _ _ _ => exact setMandate_column db _ (fun row => hf row _ _ _ _) m
  | updateExpired _ => exact setMandate_column db _ (fun row => hf row _ _ _ _) m
  | updateRevoked _ => exact setMandate_column db _ (fun row => hf row _ _ _ _) m
  | deleteInstrument _ => simp only [exec]; split_ifs <;> rfl
  | insertCapture _ _ => simp only [exec]; split <;> rfl
  | insertIntent _ _ => simp only [exec]; split_ifs <;> rfl
  | insertPurchase _ _ => simp only [exec]; split <;> rfl
  | _ => rfl

theorem exec_terms (e : Env) (c : Call) (db : Db) : (exec e c db).2.terms = db.terms :=
  funext fun m => exec_column (fun _ _ _ _ _ => rfl) e c db m

/-- A mandate's token, when it verifies, carries the mandate's claims. -/
def Signed (K : Deps) (db : Db) : Prop :=
  ∀ m, ∀ row ∈ db.mandates m, ∀ claims, K.verifyToken row.token = .ok claims → claims = row.claims

theorem exec_signed {K : Deps} {db : Db} (h : Signed K db) (e : Env) (c : Call) :
    Signed K (exec e c db).2 := by
  intro m row hrow
  have hcol := exec_column (f := fun row => (row.token, row.claims)) (fun _ _ _ _ _ => rfl) e c db m
  rw [Option.mem_def.1 hrow, Option.map_some, eq_comm, Option.map_eq_some_iff] at hcol
  obtain ⟨old, hold, heq⟩ := hcol
  obtain ⟨htoken, hclaims⟩ := Prod.mk.inj heq
  rw [← htoken, ← hclaims]
  exact h m old hold

section Pool

variable {ι : Type} [DecidableEq ι]

/-- The pool of purchases and revocations. -/
def holdSystem : System ι Call Res PyErr Db Holding Env where
  sem := sem
  adv _ γ db c r := γ.advance db c r

variable (K : Deps) (fuel : ℕ) (target : ι → Option String)
  (Left : ι → String → MandateRow → Prop) (terms : String → Option (Claims × Option String))

/-- What is known of a mandate that the purchase of `γ` holds: it was reserved when it was active
and had the budget for the amount, and `Left` held of its row. -/
def Holds (i : ι) (γ : Holding) (m : String) : Prop :=
  ∃ row ∈ γ.taken m, Covers γ.amount row ∧ Left i m row ∧
    terms m = some (row.claims, row.parentJti)

/-- What the holder of `γ` may do. -/
structure HoldStep (i : ι) (γ : Holding) (c : Call) : Prop where
  reserves : ∀ jti ∈ c.reserves, γ.stage jti = .none
  frees : ∀ jti ∈ c.frees, γ.stage jti = .reserved
  settles : ∀ p ∈ c.counts, γ.stage p.1 = .reserved ∧ p.2 = γ.count p.1 + 1
  moves : c.moves = true → ∀ jti ∈ target i,
    (∀ j ∈ chainOf terms fuel jti, Holds Left terms i γ j) ∧ ∀ t ∈ terms jti, γ.clock ≤ t.1.exp

/-- `Left` holds of the row that a compare-and-swap is about to reserve. -/
def LeftAt (db : Db) (i : ι) (c : Call) : Prop :=
  ∀ jti ∈ c.takes db, ∀ row ∈ db.mandates jti, Left i jti row

instance [∀ i m row, Decidable (Left i m row)] (db : Db) (i : ι) (c : Call) :
    Decidable (LeftAt Left db i c) :=
  inferInstanceAs (Decidable (∀ _ ∈ _, ∀ _ ∈ _, _))

/-- The specification of the pool. -/
def holdSpec : Spec ι Call Res PyErr Db Holding where
  inv _ db := db.terms = terms ∧ Signed K db
  ok _ db i c := LeftAt Left db i c
  prop g _ i c _ _ := HoldStep fuel target Left terms i (g i) c

variable {K fuel target Left terms} {i : ι} {γ : Holding}

/-! ## One call -/

/-- A failed call changes nothing, and no call changes the terms or the tokens. -/
theorem hold_call {c : Call} {Q : Except PyErr (Res c) → Holding → Prop}
    (hstep : HoldStep fuel target Left terms i γ c)
    (h : ∀ db e, db.terms = terms → Signed K db → LeftAt Left db i c →
      Q (exec e c db).1 (γ.advance db c (exec e c db).1)) (herr : ∀ x, Q (.error x) γ) :
    Outline holdSystem (holdSpec K fuel target Left terms) i Q (call c) γ := by
  refine outline_perform fun g db e hg hI hok => ?_
  subst hg
  cases hf : e.fail with
  | none =>
    simp only [holdSystem, sem, hf]
    exact ⟨⟨(exec_terms e c db).trans hI.1, exec_signed hI.2 e c⟩, hstep, h db e hI.1 hI.2 hok⟩
  | some x =>
    simp only [holdSystem, sem, hf, holding_error]
    exact ⟨hI, hstep, herr x⟩

omit [DecidableEq ι] in
/-- A call that reserves, frees and settles nothing. -/
theorem other_step {c : Call} (hr : c.reserves = none) (hf : c.frees = none) (hc : c.counts = none)
    (hm : c.moves = true → ∀ jti ∈ target i, (∀ j ∈ chainOf terms fuel jti, Holds Left terms i γ j) ∧
      ∀ t ∈ terms jti, γ.clock ≤ t.1.exp) : HoldStep fuel target Left terms i γ c where
  reserves jti h := by rw [hr] at h; cases h
  frees jti h := by rw [hf] at h; cases h
  settles p h := by rw [hc] at h; cases h
  moves := hm

omit [DecidableEq ι] in
theorem calm_step {c : Call} (hc : c.calm = true) (hm : c.moves = true → ∀ jti ∈ target i,
    (∀ j ∈ chainOf terms fuel jti, Holds Left terms i γ j) ∧ ∀ t ∈ terms jti, γ.clock ≤ t.1.exp) :
    HoldStep fuel target Left terms i γ c := by
  refine other_step ?_ ?_ ?_ hm
  all_goals cases c <;> first | rfl | exact Bool.noConfusion hc

/-- The calls that keep the holding. -/
theorem hold_calm {α : Type} {p : Py α}
    (hp : p.Calls fun c => c.calm = true ∧ HoldStep fuel target Left terms i γ c) :
    Outline holdSystem (holdSpec K fuel target Left terms) i (fun _ γ' => γ' = γ) p γ := by
  refine outline_calls (fun g db e c hc hγ hI _ => ?_) hp rfl
  subst hγ
  refine ⟨?_, hc.2, holding_calm hc.1 _ db _⟩
  simp only [holdSystem]
  cases hf : e.fail with
  | none =>
    simp only [sem, hf]
    exact ⟨(exec_terms e c db).trans hI.1, exec_signed hI.2 e c⟩
  | some x =>
    simp only [sem, hf]
    exact hI

/-- The calls that keep the holding and move no money. -/
def Call.still (c : Call) : Bool := c.calm && !c.moves

omit [DecidableEq ι] in
theorem still_step {c : Call} (hc : c.still = true) :
    c.calm = true ∧ HoldStep fuel target Left terms i γ c := by
  simp only [Call.still, Bool.and_eq_true, Bool.not_eq_true'] at hc
  exact ⟨hc.1, calm_step hc.1 fun h => absurd (hc.2.symm.trans h) (by decide)⟩

theorem still_bind {α β : Type} {p : Py α} {f : α → Py β} {φ : β → Holding → Prop}
    (hp : p.Calls fun c => c.still = true)
    (hf : ∀ a, Outline holdSystem (holdSpec K fuel target Left terms) i (onOk φ) (f a) γ) :
    Outline holdSystem (holdSpec K fuel target Left terms) i (onOk φ) (p.bind f) γ :=
  outline_bind (hold_calm (Prog.calls_mono (fun _ => still_step) hp)) (fun a _ h => h ▸ hf a)
    fun _ _ _ => trivial

/-- The amount, the clock, and what is known of the mandates held. -/
structure Fit (Left : ι → String → MandateRow → Prop)
    (terms : String → Option (Claims × Option String)) (i : ι) (amount clock : ℤ) (γ : Holding) :
    Prop where
  amount : γ.amount = amount
  clock : γ.clock = clock
  holds : ∀ m, γ.stage m = .reserved → Holds Left terms i γ m

/-- Selecting a row records its count. -/
theorem select_hold (jti : String) (γ : Holding) :
    Outline holdSystem (holdSpec K fuel target Left terms) i
      (onOk fun r γ' => (∃ count, γ' = { γ with count := count }) ∧ ∀ row, r = some row →
        γ'.count jti = row.txnCount ∧ terms jti = some (row.claims, row.parentJti) ∧
          ∀ claims, K.verifyToken row.token = .ok claims → claims = row.claims)
      (call (.selectMandate jti)) γ := by
  refine hold_call (other_step rfl rfl rfl Bool.noConfusion) (fun db e ht hs _ => ?_)
    fun _ => trivial
  simp only [exec]
  cases hrow : db.mandates jti with
  | none => exact ⟨⟨γ.count, rfl⟩, by simp⟩
  | some row =>
    refine ⟨⟨Function.update γ.count jti row.txnCount, rfl⟩, ?_⟩
    rintro _ ⟨rfl⟩
    refine ⟨Function.update_self .., ?_, hs jti row hrow⟩
    rw [← ht, Db.terms, hrow]
    rfl

/-! ## The loops over the chain -/

variable {amount clock : ℤ}

theorem chain_hold (jti : String) (γ : Holding) :
    Outline holdSystem (holdSpec K fuel target Left terms) i
      (onOk fun jtis γ' => jtis = chainOf terms fuel jti ∧ γ' = γ) (chain fuel jti) γ :=
  chain_walk (fun j => hold_call (still_step rfl).2 (fun db _ ht _ _ =>
    ⟨ht ▸ parents_eq db j, rfl⟩) fun _ => trivial) fuel jti

/-- The compare-and-swap: the row it finds is the one read, and is active. -/
theorem casReserve_hold (jti : String) (row : MandateRow) (γ : Holding)
    (hγ : Fit Left terms i amount clock γ) (hterms : terms jti = some (row.claims, row.parentJti))
    (hst : γ.stage jti = .none)
    (hfits : row.spentTotal + row.reservedAmount + amount ≤ row.claims.limits.totalBudget) :
    Outline holdSystem (holdSpec K fuel target Left terms) i
      (onOk fun won γ' => Moved Holding.stage (Fit Left terms i amount clock)
        (· = if won = true then .reserved else .none) jti γ γ')
      (call (.casReserve jti row (row.reservedAmount + amount))) γ := by
  have hstep : HoldStep fuel target Left terms i γ
      (.casReserve jti row (row.reservedAmount + amount)) :=
    { reserves := fun j hj => by cases hj; exact hst
      frees := fun _ h => by cases h
      settles := fun _ h => by cases h
      moves := Bool.noConfusion }
  refine hold_call hstep (fun db e ht _ hleft => ?_) fun _ => trivial
  simp only [exec]
  split_ifs with hm
  swap
  · exact ⟨hγ, fun _ _ => rfl, hst⟩
  replace hleft := hleft jti (if_pos hm)
  rw [Option.any_eq_true] at hm
  obtain ⟨cur, hcur, hm⟩ := hm
  simp only [casMatches, Bool.and_eq_true, decide_eq_true_eq] at hm
  obtain ⟨⟨⟨hactive, hreserved⟩, hspent⟩, -⟩ := hm
  have hcurTerms : terms jti = some (cur.claims, cur.parentJti) := by
    rw [← ht, Db.terms, hcur]
    rfl
  have hclaims : cur.claims = row.claims :=
    congrArg Prod.fst (Option.some.inj (hcurTerms.symm.trans hterms))
  refine ⟨⟨hγ.amount, hγ.clock, fun m hm => ?_⟩, fun m hm => Function.update_of_ne hm _ _,
    Function.update_self ..⟩
  simp only [Holding.advance] at hm ⊢
  by_cases hj : m = jti
  · subst hj
    refine ⟨cur, (Function.update_self ..).trans hcur, ⟨hactive, ?_⟩,
      hleft cur hcur, hcurTerms⟩
    rw [hγ.amount, hspent, hreserved, hclaims]
    exact hfits
  · rw [Function.update_of_ne hj] at hm
    obtain ⟨old, hold, hrest⟩ := hγ.holds m hm
    exact ⟨old, (Function.update_of_ne hj ..).trans hold, hrest⟩

/-- A reservation given back. -/
theorem unreserveOne_hold (jti : String) (γ : Holding) (hγ : Fit Left terms i amount clock γ)
    (hst : γ.stage jti = .reserved) :
    Outline holdSystem (holdSpec K fuel target Left terms) i
      (onOk fun _ γ' => Moved Holding.stage (Fit Left terms i amount clock) (fun _ => True) jti γ γ')
      (unreserveOne amount jti) γ := by
  refine still_bind (Prog.calls_perform rfl) fun r => ?_
  cases r with
  | none => exact ⟨hγ, fun _ _ => rfl, trivial⟩
  | some v =>
    have hstep : ∀ w, HoldStep fuel target Left terms i γ (.updateReserved jti w) := fun w =>
      { reserves := fun _ h => by cases h
        frees := fun j hj => by cases hj; exact hst
        settles := fun _ h => by cases h
        moves := Bool.noConfusion }
    refine hold_call (hstep _) (fun db e _ _ _ => ?_) fun _ => trivial
    refine ⟨⟨hγ.amount, hγ.clock, fun m hm => ?_⟩, fun m hm => Function.update_of_ne hm _ _, trivial⟩
    simp only [exec, Holding.advance] at hm
    by_cases hj : m = jti
    · subst hj
      rw [Function.update_self] at hm
      cases hm
    · rw [Function.update_of_ne hj] at hm
      exact hγ.holds m hm

theorem unreserve_hold (jtis : List String) (γ : Holding) (hn : jtis.Nodup)
    (hγ : Fit Left terms i amount clock γ) (hst : ∀ j ∈ jtis, γ.stage j = .reserved) :
    Outline holdSystem (holdSpec K fuel target Left terms) i
      (onOk fun _ γ' => Fit Left terms i amount clock γ') (unreserve amount jtis) γ := by
  refine outline_mono (fun r γ' h => ?_) (loop_walk (T := fun _ _ => True) (unreserve amount) rfl
    (fun _ _ => rfl) jtis (fun jti _ γ hγ hst => unreserveOne_hold jti γ hγ hst) γ hn hγ hst)
  cases r with
  | error x => trivial
  | ok u => exact h.1

theorem settleOne_hold (jti : String) (γ : Holding) (hst : γ.stage jti = .reserved) :
    Outline holdSystem (holdSpec K fuel target Left terms) i
      (onOk fun _ γ' => Moved Holding.stage (fun _ => True) (fun _ => True) jti γ γ')
      (settleOne amount jti) γ := by
  refine outline_bind_ok (select_hold jti γ) ?_
  rintro r γ' ⟨⟨count, rfl⟩, hrow⟩
  cases r with
  | none => exact ⟨trivial, fun _ _ => rfl, trivial⟩
  | some row =>
    have hstep : ∀ reserved spent status, HoldStep fuel target Left terms i
        { γ with count := count } (.updateSettled jti reserved spent (row.txnCount + 1) status) :=
      fun _ _ _ =>
      { reserves := fun _ h => by cases h
        frees := fun _ h => by cases h
        settles := fun p hp => by cases hp; exact ⟨hst, by rw [(hrow row rfl).1]⟩
        moves := Bool.noConfusion }
    refine hold_call (hstep _ _ _) (fun db e _ _ _ => ?_) fun _ => trivial
    exact ⟨trivial, fun m hm => Function.update_of_ne hm _ _, trivial⟩

theorem settle_hold (jti : String) (γ : Holding)
    (hst : ∀ j ∈ chainOf terms fuel jti, γ.stage j = .reserved) :
    Outline holdSystem (holdSpec K fuel target Left terms) i (onOk fun _ _ => True)
      (settle fuel jti amount) γ := by
  refine outline_bind_ok (chain_hold jti γ) ?_
  rintro _ _ ⟨rfl, rfl⟩
  refine outline_mono (fun r γ' _ => by cases r <;> trivial) (loop_walk (T := fun _ _ => True)
    (settleLoop amount) rfl (fun _ _ => rfl) _ (fun jti _ γ _ hst => settleOne_hold jti γ hst) _
    (chainOf_nodup terms fuel jti) trivial hst)

theorem release_hold (jti : String) (γ : Holding) (hγ : Fit Left terms i amount clock γ)
    (hst : ∀ j ∈ chainOf terms fuel jti, γ.stage j = .reserved) :
    Outline holdSystem (holdSpec K fuel target Left terms) i (onOk fun _ _ => True)
      (release fuel jti amount) γ := by
  refine outline_bind_ok (chain_hold jti γ) ?_
  rintro _ _ ⟨rfl, rfl⟩
  exact outline_mono (fun r γ' _ => by cases r <;> trivial)
    (unreserve_hold _ _ (chainOf_nodup terms fuel jti) hγ hst)

theorem reserveChain_hold (jti : String) (γ : Holding) (hγ : Fit Left terms i amount clock γ)
    (hst : ∀ m, γ.stage m = .none) :
    Outline holdSystem (holdSpec K fuel target Left terms) i
      (onOk fun won γ' => Fit Left terms i amount clock γ' ∧
        (won = true → ∀ j ∈ chainOf terms fuel jti, γ'.stage j = .reserved))
      (reserveChain fuel jti amount) γ := by
  refine outline_bind_ok (chain_hold jti γ) ?_
  rintro _ _ ⟨rfl, rfl⟩
  refine outline_mono (fun r γ' h => ?_) (reserveLoop_walk (φ := Fit Left terms i amount clock)
    (fun jti row => terms jti = some (row.claims, row.parentJti)) (fun jti γ hγ => ?_)
    (fun jti row γ hγ hterms hst hfits => casReserve_hold jti row γ hγ hterms hst hfits)
    (fun jtis γ hn hγ hst => unreserve_hold jtis γ hn hγ hst) _ [] _ (chainOf_nodup terms fuel jti)
    hγ (by simp) fun j _ => hst j)
  · cases r with
    | error x => trivial
    | ok won => exact ⟨h.1, fun hwon => (h.2 hwon).1⟩
  · refine outline_mono (fun r γ' h => ?_) (select_hold jti γ)
    cases r with
    | error x => trivial
    | ok r =>
      obtain ⟨⟨count, rfl⟩, hrow⟩ := h
      exact ⟨⟨⟨hγ.amount, hγ.clock, hγ.holds⟩, rfl⟩, fun row hr => (hrow row hr).2.1⟩

/-! ## The check before the reservation -/

/-- Reading the clock records it. -/
theorem nowTs_hold (γ : Holding) :
    Outline holdSystem (holdSpec K fuel target Left terms) i
      (onOk fun (now : ℤ) γ' => γ' = { γ with clock := now }) (call .nowTs) γ :=
  hold_call (other_step rfl rfl rfl Bool.noConfusion) (fun _ _ _ _ _ => rfl) fun _ => trivial

/-- What an approval leaves: the chain reserved, in time. -/
structure Cleared (fuel : ℕ) (Left : ι → String → MandateRow → Prop)
    (terms : String → Option (Claims × Option String)) (i : ι) (mandateJti : String) (amount : ℤ)
    (γ : Holding) : Prop where
  fit : Fit Left terms i amount γ.clock γ
  reserved : ∀ j ∈ chainOf terms fuel mandateJti, γ.stage j = .reserved
  clock : ∀ t ∈ terms mandateJti, γ.clock ≤ t.1.exp
  own : ∀ t ∈ terms mandateJti, t.1.jti = mandateJti

/-- The approval of a check. -/
def ClearedIf (fuel : ℕ) (Left : ι → String → MandateRow → Prop)
    (terms : String → Option (Claims × Option String)) (i : ι) (mandateJti : String) (amount : ℤ)
    (v : Verified) (γ : Holding) : Prop :=
  v.decision.decision = .approved → Cleared fuel Left terms i mandateJti amount γ

theorem refuse_hold (jti : Option String) (code detail : String) {mandateJti : String} :
    Outline holdSystem (holdSpec K fuel target Left terms) i
      (onOk (ClearedIf fuel Left terms i mandateJti amount)) (refuse jti code detail) γ := by
  refine still_bind (Prog.calls_perform rfl) fun _ h => ?_
  exact absurd h (by simp [Decision.reject])

theorem verifyGate_hold (K : Deps) (ports : String → Option Port) (ids : FreshIds) (claims : Claims)
    (row : MandateRow) (intent : Intent) (signature : String)
    (hγ : Fit Left terms i intent.amount clock γ) (hst : ∀ m, γ.stage m = .none)
    (hclock : ∀ t ∈ terms claims.jti, clock ≤ t.1.exp)
    (hown : ∀ t ∈ terms claims.jti, t.1.jti = claims.jti) :
    Outline holdSystem (holdSpec K fuel target Left terms) i
      (onOk (ClearedIf fuel Left terms i claims.jti intent.amount))
      (verifyGate K ports fuel ids claims row intent signature clock true) γ := by
  simp only [verifyGate]
  cases ports intent.merchantId with
  | none => exact refuse_hold _ _ _
  | some port =>
    refine still_bind (Prog.calls_perform rfl) fun offer => ?_
    cases offer with
    | none => exact refuse_hold _ _ _
    | some offer =>
      dsimp only
      split_ifs with hprice hstop
      · exact refuse_hold _ _ _
      · refine still_bind (Prog.calls_perform rfl) fun _ h => ?_
        rcases hstop with hno | hno
        · exact absurd h hno
        · exact absurd hno (by decide)
      · refine outline_bind_ok (reserveChain_hold claims.jti γ hγ hst) fun won γ' h => ?_
        cases won with
        | false => exact refuse_hold _ _ _
        | true =>
          refine still_bind (Prog.calls_perform rfl) fun _ => ?_
          refine still_bind (Prog.calls_perform rfl) fun _ _ => ?_
          exact ⟨⟨h.1.amount, rfl, h.1.holds⟩, h.2 rfl, h.1.clock ▸ hclock, hown⟩

theorem verifyAlive_hold (K : Deps) (ports : String → Option Port) (ids : FreshIds)
    (claims : Claims) (intent : Intent) (signature : String)
    (hγ : Fit Left terms i intent.amount clock γ) (hst : ∀ m, γ.stage m = .none)
    (hexp : ∀ t ∈ terms claims.jti, t.1 = claims) :
    Outline holdSystem (holdSpec K fuel target Left terms) i
      (onOk (ClearedIf fuel Left terms i claims.jti intent.amount))
      (verifyAlive K ports fuel ids claims intent signature clock true) γ := by
  refine outline_bind_ok (select_hold claims.jti γ) ?_
  rintro r γ' ⟨⟨count, rfl⟩, -⟩
  cases r with
  | none => exact refuse_hold _ _ _
  | some row =>
    dsimp only
    by_cases hrevoked : row.status = .revoked
    · rw [if_pos hrevoked]
      exact refuse_hold _ _ _
    rw [if_neg hrevoked]
    refine still_bind (chain_calls (fun _ => rfl) fuel claims.jti) fun jtis => ?_
    refine still_bind (deadAncestor_calls (fun _ => rfl) _) fun dead => ?_
    cases dead with
    | some d => exact refuse_hold _ _ _
    | none =>
      dsimp only
      split_ifs with hsuspended hexhausted hnbf hlate
      · exact refuse_hold _ _ _
      · exact refuse_hold _ _ _
      · exact refuse_hold _ _ _
      · exact still_bind (Prog.calls_perform rfl) fun _ => refuse_hold _ _ _
      · refine verifyGate_hold K ports ids claims row intent signature
          ⟨hγ.amount, hγ.clock, hγ.holds⟩ hst (fun t ht => ?_) fun t ht => ?_
        · rw [hexp t ht]
          omega
        · rw [hexp t ht]

theorem verify_hold (K : Deps) (ports : String → Option Port) (ids : FreshIds) (token : String)
    (intent : Intent) (signature : String) (hγ : γ.amount = intent.amount)
    (hst : ∀ m, γ.stage m = .none) (hexp : ∀ claims, K.verifyToken token = .ok claims →
      ∀ t ∈ terms intent.mandateJti, t.1 = claims) :
    Outline holdSystem (holdSpec K fuel target Left terms) i
      (onOk (ClearedIf fuel Left terms i intent.mandateJti intent.amount))
      (verify K ports fuel ids token intent signature true) γ := by
  simp only [verify]
  rcases htoken : K.verifyToken token with (_ | _ | _ | _) | claims
  case error.badSignature => exact refuse_hold _ _ _
  case ok =>
    dsimp only
    rcases K.verifyDetached signature intent claims with (_ | _ | _ | _) | ⟨⟩
    case error.badSignature => exact refuse_hold _ _ _
    case ok =>
      dsimp only
      by_cases hname : intent.mandateJti ≠ claims.jti
      · rw [if_pos hname]
        exact refuse_hold _ _ _
      rw [if_neg hname]
      -- the clock of the check is the one recorded
      refine outline_bind_ok (nowTs_hold γ) ?_
      rintro now _ rfl
      by_cases httl : intent.exp - intent.iat > intentTtl
      · rw [if_pos httl]
        exact refuse_hold _ _ _
      rw [if_neg httl]
      by_cases hlate : now > intent.exp
      · rw [if_pos hlate]
        exact refuse_hold _ _ _
      rw [if_neg hlate]
      refine still_bind (Prog.calls_perform rfl) fun seen => ?_
      cases seen with
      | true => exact refuse_hold _ _ _
      | false =>
        have hjti : intent.mandateJti = claims.jti := not_not.1 hname
        rw [hjti] at hexp ⊢
        refine verifyAlive_hold K ports ids claims intent signature ⟨hγ, rfl, fun m hm => ?_⟩ hst
          (hexp claims htoken)
        exact absurd ((hst m).symm.trans hm) (by decide)
    all_goals trivial
  all_goals trivial

/-! ## The end of the saga -/

omit [DecidableEq ι] in
/-- Calls that keep the holding, when the purchase is cleared. -/
theorem cleared_step {mandateJti : String} (htarget : target i = some mandateJti)
    (hγ : Cleared fuel Left terms i mandateJti amount γ) {c : Call} (hc : c.calm = true) :
    c.calm = true ∧ HoldStep fuel target Left terms i γ c := by
  refine ⟨hc, calm_step hc fun _ jti hjti => ?_⟩
  rw [htarget] at hjti
  cases hjti
  exact ⟨fun j hj => hγ.fit.holds j (hγ.reserved j hj), hγ.clock⟩

theorem compensate_hold (purchaseId : String) (claims : Claims) (intent : Intent)
    (code detail : String) (hγ : Cleared fuel Left terms i claims.jti intent.amount γ) :
    Outline holdSystem (holdSpec K fuel target Left terms) i (onOk fun _ _ => True)
      (compensate fuel purchaseId claims intent code detail) γ := by
  refine outline_bind_ok (release_hold claims.jti γ hγ.fit hγ.reserved) fun _ γ' _ => ?_
  refine still_bind (Prog.calls_perform rfl) fun _ => ?_
  exact still_bind (Prog.calls_perform rfl) fun _ => trivial

theorem finishCharge_hold (purchaseId : String) (claims : Claims) (intent : Intent)
    (receipt : Receipt) (hγ : Cleared fuel Left terms i claims.jti intent.amount γ) :
    Outline holdSystem (holdSpec K fuel target Left terms) i (onOk fun _ _ => True)
      (finishCharge fuel purchaseId claims intent receipt) γ := by
  refine outline_bind_ok (settle_hold claims.jti γ hγ.reserved) fun _ γ' _ => ?_
  refine still_bind (Prog.calls_perform rfl) fun _ => ?_
  refine still_bind (Prog.calls_perform rfl) fun _ => ?_
  exact still_bind (Prog.calls_perform rfl) fun _ => trivial

theorem charge_hold (K : Deps) (ports : String → Option Port) (ids : FreshIds)
    (purchaseId token : String) (claims : Claims) (intent : Intent) (signature : String)
    (rid : Option String) (htarget : target i = some claims.jti)
    (hγ : Cleared fuel Left terms i claims.jti intent.amount γ) :
    Outline holdSystem (holdSpec K fuel target Left terms) i (onOk fun _ _ => True)
      (charge K ports fuel ids purchaseId token claims intent signature rid) γ := by
  have hcalm : ∀ {c : Call}, c.calm = true →
      c.calm = true ∧ HoldStep fuel target Left terms i γ c := cleared_step htarget hγ
  refine still_bind (Prog.calls_perform rfl) fun _ => ?_
  cases ports intent.merchantId with
  | none => trivial
  | some port =>
    refine still_bind (Prog.calls_perform rfl) fun found => ?_
    refine outline_bind (outline_attempt (hold_calm ?_)) ?_ fun _ _ _ => trivial
    · cases port with
      | mock =>
        exact localSettle_calls K ids token intent signature (liveState_calls (hcalm rfl))
          (hcalm rfl) (hcalm rfl) (fun _ => hcalm rfl) (fun _ => hcalm rfl) fun _ => hcalm rfl
      | rappiBridge =>
        exact rappiSettle_calls K _ claims intent (liveState_calls (hcalm rfl))
          (fun _ _ => Prog.calls_perform (hcalm rfl)) (fun _ => hcalm rfl) (fun _ => hcalm rfl)
          (fun _ => hcalm rfl) fun _ => hcalm rfl
    · rintro r _ ⟨r, ⟨rfl⟩, rfl⟩
      rcases r with (⟨code, m⟩ | _ | _ | _) | (receipt | ⟨code, detail⟩)
      case ok.accepted => exact finishCharge_hold purchaseId claims intent receipt hγ
      all_goals exact compensate_hold purchaseId claims intent _ _ hγ

theorem afterVerify_hold (K : Deps) (ports : String → Option Port) (ids : FreshIds)
    (token : String) (claims : Claims) (intent : Intent) (signature : String) (v : Verified)
    (hγ : v.decision.decision = .approved → target i = some claims.jti ∧
      Cleared fuel Left terms i claims.jti intent.amount γ) :
    Outline holdSystem (holdSpec K fuel target Left terms) i (onOk fun _ _ => True)
      (afterVerify K ports fuel ids token claims intent signature v) γ := by
  unfold afterVerify
  cases hd : v.decision.decision with
  | approved =>
    exact charge_hold K ports ids ids.purchaseId token claims intent signature v.reservationId
      (hγ hd).1 (hγ hd).2
  | rejected =>
    refine still_bind (Prog.calls_perform rfl) fun _ => ?_
    exact still_bind (Prog.calls_perform rfl) fun _ => trivial
  | escalated =>
    refine still_bind (Prog.calls_perform rfl) fun _ => ?_
    exact still_bind (Prog.calls_perform rfl) fun _ => trivial

theorem submitPurchase_hold (K : Deps) (ports : String → Option Port) (ids : FreshIds)
    (offerId mandateJti merchantId : String) (htarget : target i = some mandateJti) :
    Outline holdSystem (holdSpec K fuel target Left terms) i (onOk fun _ _ => True)
      (submitPurchase K ports fuel ids offerId mandateJti merchantId) .start := by
  refine outline_bind_ok (select_hold mandateJti .start) ?_
  rintro r _ ⟨⟨count, rfl⟩, hrow⟩
  cases r with
  | none => trivial
  | some row =>
    obtain ⟨-, hterms, hsigned⟩ := hrow row rfl
    dsimp only
    cases ports merchantId with
    | none => trivial
    | some port =>
      refine still_bind (Prog.calls_perform rfl) fun found => ?_
      cases found with
      | none => trivial
      | some offer =>
        refine outline_bind_ok (nowTs_hold _) ?_
        rintro issued _ rfl
        set intent := buildIntent ids mandateJti row.claims.agent offer issued with hintent
        refine outline_bind_ok (φ := fun _ γ' => γ'.amount = intent.amount ∧ ∀ m, γ'.stage m = .none)
          (hold_call (other_step rfl rfl rfl Bool.noConfusion) (fun db e _ _ _ => ?_)
            fun _ => trivial) ?_
        · simp only [exec]
          split
          · trivial
          · exact ⟨rfl, fun _ => rfl⟩
        rintro _ γ ⟨hamount, hst⟩
        refine still_bind (Prog.calls_perform rfl) fun _ => ?_
        refine outline_bind_ok (verify_hold K ports ids row.token intent _ hamount hst
          fun claims htoken t ht => ?_) fun v γ' hv => ?_
        · rw [show terms intent.mandateJti = some (row.claims, row.parentJti) from hterms] at ht
          cases ht
          exact (hsigned claims htoken).symm
        · refine afterVerify_hold K ports ids row.token row.claims intent _ v fun hd => ?_
          have hjti : row.claims.jti = mandateJti := (hv hd).own _ hterms
          rw [hjti]
          exact ⟨htarget, hv hd⟩

/-- A revocation keeps every holding. -/
theorem revocation_hold (w : Revocation) (γ : Holding) :
    Outline holdSystem (holdSpec K fuel target Left terms) i (fun _ _ => True) w.prog γ := by
  refine outline_mono (fun _ _ _ => trivial) (hold_calm (revocation_calls ?_ ?_ ?_ ?_ ?_ ?_ w))
  · exact fun _ => still_step rfl
  · exact fun _ => still_step rfl
  · exact fun _ => still_step rfl
  · exact fun _ => still_step rfl
  · exact fun _ _ _ => still_step rfl
  · exact fun _ => still_step rfl

/-- **The outline of an actor.** -/
theorem actor_outline (K : Deps) (ports : String → Option Port) (w : ι → Actor)
    (hw : ∀ i, target i = (w i).target) :
    Outline holdSystem (holdSpec K fuel target Left terms) i (fun _ _ => True)
      ((w i).prog K ports fuel) .start := by
  have hi := hw i
  cases hwi : w i with
  | purchase ids offerId mandateJti merchantId =>
    rw [hwi] at hi
    refine outline_mono (fun _ _ _ => trivial) (outline_bind_ok (ψ := fun _ _ => True)
      (submitPurchase_hold K ports ids offerId mandateJti merchantId hi) fun _ _ _ => trivial)
  | revocation w => exact revocation_hold w _

end Pool

end TryTrust.Agent
