import TryTrust.Bridge.Service

/-!
# One key, one paying click

A worker past the guard `ARMED → CLICKED` **holds** its key until it records a rejection as
`FAILED`. The checkpoints before the guard are written whatever the row says.

* `Holding`: one holder for each key, and the row says how far it is;
* `holding_write`, `holding_quiet`: what a write, and any other call, keeps;
* `*_staged`: up to the guard the flow makes early calls only; `clickOrder_outline`;
* **`one_key_one_click`**: every run whose checkpoints find no other holder issues a paying call
  only after rejected ones, and never leaves `CLICKED` but through `FAILED`;
  **`clicked_twice`**: otherwise a worker that is behind clicks again.
-/

namespace TryTrust.Bridge

open Conc

/-- The key of an unguarded write other than the confirmation of a click. -/
def Call.checkpointKey : Call → Option String
  | .transition k state _ _ none => if state = .confirmed then none else some k
  | _ => none

/-- The call sends the paying request. -/
def Call.isClick : Call → Bool
  | .click .. => true
  | _ => false

section Pool

variable {ι : Type} (w : ι → PlaceOrderRequest)

/-- A checkpoint of worker `i` finds no other worker of the key past its guard with no rejection
recorded. -/
def CheckpointClear (g : ι → Click) (i : ι) (c : Call) : Prop :=
  ∀ k ∈ c.checkpointKey, ∀ j, j ≠ i → (w j).idemKey = k → (g j).holds = false

/-- A paying call is issued only when every earlier one of the key was answered by
`MinAmountRejected`. -/
def OneClick (g : ι → Click) (i : ι) (c : Call) : Prop :=
  c.isClick → ∀ j, (w j).idemKey = (w i).idemKey → (g j).mayHavePaid = false

/-- A clicked order stays clicked, or becomes `FAILED` by the worker whose paying call was answered
by `MinAmountRejected`. -/
def KeepsClick (g : ι → Click) (i : ι) (db db' : Db) : Prop :=
  ∀ k, ∀ row ∈ db.orders k, row.state.isClicked → ∃ row' ∈ db'.orders k,
    row'.state.isClicked ∨
      row'.state = .failed ∧ (w i).idemKey = k ∧ g i = .rejected

instance [DecidableEq ι] [Fintype ι] (g : ι → Click) (i : ι) (c : Call) :
    Decidable (CheckpointClear w g i c) :=
  inferInstanceAs (Decidable (∀ k ∈ c.checkpointKey, ∀ j, j ≠ i → (w j).idemKey = k →
    (g j).holds = false))

instance [Fintype ι] (g : ι → Click) (i : ι) (c : Call) : Decidable (OneClick w g i c) :=
  inferInstanceAs (Decidable (c.isClick → ∀ j, (w j).idemKey = (w i).idemKey →
    (g j).mayHavePaid = false))

/-! ## The invariant -/

/-- The state that the row of a holder's key has. -/
def Click.recorded : Click → OrderState
  | confirmed => .confirmed
  | uncertain | abandoned => .uncertain
  | _ => .clicked

theorem Click.recorded_isClicked (γ : Click) : γ.recorded.isClicked = true := by
  cases γ <;> rfl

theorem Click.holds_of_mayHavePaid {γ : Click} (h : γ.mayHavePaid = true) : γ.holds = true := by
  cases γ <;> first | rfl | cases h

/-- **The invariant**: a key has at most one holder; its row says how far the holder is; and a
clicked row has a holder. -/
structure Holding (g : ι → Click) (db : Db) : Prop where
  single : ∀ i j, (w i).idemKey = (w j).idemKey → (g i).holds → (g j).holds → i = j
  stored : ∀ i, (g i).holds → ∃ row ∈ db.orders (w i).idemKey, row.state = (g i).recorded
  held : ∀ k, ∀ row ∈ db.orders k, row.state.isClicked → ∃ i, (w i).idemKey = k ∧ (g i).holds

/-- The specification of the pool of workers. -/
def clickSpec : Spec ι Call Res BridgeErr Db Click where
  inv := Holding w
  ok g _ i c := CheckpointClear w g i c
  prop g db i c _ db' := OneClick w g i c ∧ KeepsClick w g i db db'

variable {w} {g : ι → Click} {db db' : Db} {i : ι}

/-- Nobody else holds the key of a holder. -/
theorem Holding.alone (h : Holding w g db) (hi : (g i).holds) :
    ∀ j, j ≠ i → (w j).idemKey = (w i).idemKey → (g j).holds = false := by
  intro j hj hk
  by_contra hh
  exact hj (h.single j i hk (by simpa using hh) hi)

/-- Nobody holds a key whose row is not clicked. -/
theorem Holding.nobody (h : Holding w g db) {row : OrderRow}
    (hrow : db.orders (w i).idemKey = some row) (hc : row.state.isClicked = false) :
    ∀ j, (w j).idemKey = (w i).idemKey → (g j).holds = false := by
  intro j hk
  by_contra hh
  obtain ⟨r, hr, hs⟩ := h.stored j (by simpa using hh)
  rw [hk, hrow] at hr
  obtain rfl := Option.some.inj hr
  rw [hs, Click.recorded_isClicked] at hc
  cases hc

section Update

variable [DecidableEq ι]

/-- A call that leaves the orders alone keeps the invariant, when the caller holds as before. -/
theorem holding_quiet (h : Holding w g db) {γ : Click} (horders : db'.orders = db.orders)
    (hholds : γ.holds = (g i).holds) (hrec : γ.holds → γ.recorded = (g i).recorded) :
    Holding w (Function.update g i γ) db' := by
  have hsame : ∀ j, (Function.update g i γ j).holds = (g j).holds := by
    intro j
    by_cases hj : j = i
    · rw [hj, Function.update_self, hholds]
    · rw [Function.update_of_ne hj]
  refine ⟨fun a b hk ha hb => ?_, fun a ha => ?_, fun k row hrow hc => ?_⟩
  · rw [hsame] at ha hb
    exact h.single a b hk ha hb
  · have hga := ha
    rw [hsame] at hga
    obtain ⟨row, hrow, hs⟩ := h.stored a hga
    refine ⟨row, by rwa [horders], ?_⟩
    by_cases hj : a = i
    · subst hj
      rw [Function.update_self] at ha ⊢
      rw [hs, hrec ha]
    · rw [Function.update_of_ne hj, hs]
  · rw [horders] at hrow
    obtain ⟨a, hka, ha⟩ := h.held k row hrow hc
    exact ⟨a, hka, by rwa [hsame]⟩

/-- A write to the row of the caller's key keeps the invariant, when nobody else holds the key
and the new row says how far the caller is. -/
theorem holding_write (h : Holding w g db) {γ : Click} {r : OrderRow}
    (halone : ∀ j, j ≠ i → (w j).idemKey = (w i).idemKey → (g j).holds = false)
    (hrec : γ.holds → r.state = γ.recorded) (hclicked : r.state.isClicked → γ.holds) :
    Holding w (Function.update g i γ) (db.setOrder (w i).idemKey r) := by
  have hother : ∀ j, j ≠ i → (Function.update g i γ j).holds →
      (g j).holds = true ∧ (w j).idemKey ≠ (w i).idemKey := by
    intro j hj hh
    rw [Function.update_of_ne hj] at hh
    refine ⟨hh, fun hk => ?_⟩
    rw [halone j hj hk] at hh
    cases hh
  refine ⟨fun a b hk ha hb => ?_, fun a ha => ?_, fun k row hrow hc => ?_⟩
  · by_cases hai : a = i <;> by_cases hbi : b = i
    · rw [hai, hbi]
    · exact absurd (hk ▸ hai ▸ rfl) (hother b hbi hb).2
    · exact absurd (hk ▸ hbi ▸ rfl) (hother a hai ha).2
    · exact h.single a b hk (hother a hai ha).1 (hother b hbi hb).1
  · by_cases hai : a = i
    · subst hai
      rw [Function.update_self] at ha ⊢
      exact ⟨r, Db.setOrder_same .., hrec ha⟩
    · obtain ⟨hg, hk⟩ := hother a hai ha
      obtain ⟨row, hrow, hs⟩ := h.stored a hg
      rw [Function.update_of_ne hai, Db.setOrder_ne _ _ hk]
      exact ⟨row, hrow, hs⟩
  · by_cases hk : k = (w i).idemKey
    · subst hk
      rw [Db.setOrder_same] at hrow
      obtain rfl := Option.some.inj hrow
      exact ⟨i, rfl, by rw [Function.update_self]; exact hclicked hc⟩
    · rw [Db.setOrder_ne _ _ hk] at hrow
      obtain ⟨a, hka, ha⟩ := h.held k row hrow hc
      have hai : a ≠ i := fun hai => hk (hka ▸ hai ▸ rfl)
      exact ⟨a, hka, by rwa [Function.update_of_ne hai]⟩

end Update

/-! ## Steps -/

theorem keepsClick_of_orders (h : db'.orders = db.orders) : KeepsClick w g i db db' :=
  fun k row hrow hc => ⟨row, by rwa [h], Or.inl hc⟩

/-- A write to one row keeps the click of every order, when it does of that one. -/
theorem keepsClick_write {k : String} {row row' : OrderRow} (hrow : db.orders k = some row)
    (h : row.state.isClicked → row'.state.isClicked ∨
      row'.state = .failed ∧ (w i).idemKey = k ∧ g i = .rejected) :
    KeepsClick w g i db (db.setOrder k row') := by
  intro k' r hr hc
  by_cases hk : k' = k
  · subst hk
    rw [hrow] at hr
    obtain rfl := Option.some.inj hr
    exact ⟨row', Db.setOrder_same .., h hc⟩
  · exact ⟨r, by rwa [Db.setOrder_ne _ _ hk], Or.inl hc⟩

/-- What a transition does: it writes the row that it expects, or changes nothing. -/
theorem transition_cases (k : String) (state : OrderState) (orderId : Option String)
    (receipt : Option Receipt) (expect : Option OrderState) (db : Db) :
    (∃ row, db.orders k = some row ∧ (∀ s ∈ expect, row.state = s) ∧
      transition k state orderId receipt expect db =
        (.ok (), db.setOrder k (row.write state orderId receipt))) ∨
    ∃ m, transition k state orderId receipt expect db = (.error (.runtime m), db) := by
  unfold transition
  cases hrow : db.orders k with
  | none => exact Or.inr ⟨_, rfl⟩
  | some row =>
    dsimp only
    split_ifs with hexp
    · refine Or.inl ⟨row, rfl, fun s hs => ?_, rfl⟩
      rcases hexp with hexp | hexp
      · rw [hexp] at hs
        cases hs
      · rw [hexp] at hs
        exact Option.some.inj hs
    · exact Or.inr ⟨_, rfl⟩

/-- A claim keeps every click: it inserts a row that is not clicked, or changes nothing. -/
theorem claim_keeps (k purchaseId cartHash amount : String) (db : Db) :
    (claim k purchaseId cartHash amount db).2 = db ∨ db.orders k = none ∧
      (claim k purchaseId cartHash amount db).2 =
        db.setOrder k ⟨purchaseId, cartHash, amount, .received, none, none⟩ := by
  unfold claim
  cases hrow : db.orders k with
  | some row => exact Or.inl rfl
  | none => exact Or.inr ⟨rfl, rfl⟩

/-- Inserting a row keeps the invariant: nobody holds a key without a row. -/
theorem holding_insert (h : Holding w g db) {k : String} {row : OrderRow}
    (hk : db.orders k = none) (hc : row.state.isClicked = false) :
    Holding w g (db.setOrder k row) := by
  refine ⟨h.single, fun a ha => ?_, fun k' r hr hclicked => ?_⟩
  · obtain ⟨r, hr, hs⟩ := h.stored a ha
    have hne : (w a).idemKey ≠ k := by
      rintro rfl
      rw [hk] at hr
      cases hr
    exact ⟨r, by rwa [Db.setOrder_ne _ _ hne], hs⟩
  · by_cases hkk : k' = k
    · subst hkk
      rw [Db.setOrder_same] at hr
      obtain rfl := Option.some.inj hr
      rw [hc] at hclicked
      cases hclicked
    · rw [Db.setOrder_ne _ _ hkk] at hr
      exact h.held k' r hr hclicked

variable [DecidableEq ι]

/-- **A transition of worker `i`**, which keeps the invariant when a write to its row does. -/
theorem transition_outline {state : OrderState} {orderId : Option String}
    {receipt : Option Receipt} {expect : Option OrderState} {γ δ : Click}
    {Q : Except BridgeErr Unit → Click → Prop}
    (hadv : ∀ u, γ.advance (.transition (w i).idemKey state orderId receipt expect) (.ok u) = δ)
    (hstay : ∀ x, γ.advance (.transition (w i).idemKey state orderId receipt expect) (.error x) = γ)
    (halone : ∀ g db row, g i = γ → Holding w g db → db.orders (w i).idemKey = some row →
      (∀ s ∈ expect, row.state = s) →
      CheckpointClear w g i (.transition (w i).idemKey state orderId receipt expect) →
      (∀ j, j ≠ i → (w j).idemKey = (w i).idemKey → (g j).holds = false) ∧
        (row.state.isClicked → state.isClicked ∨ state = .failed ∧ γ = .rejected))
    (hrec : δ.holds → state = δ.recorded) (hclicked : state.isClicked → δ.holds)
    (hok : Q (.ok ()) δ) (herr : ∀ m, Q (.error (.runtime m)) γ) :
    Outline bridgeSystem (clickSpec w) i Q
      (call (.transition (w i).idemKey state orderId receipt expect)) γ := by
  refine outline_perform_eq fun g db e hg hI hclear => ?_
  obtain ⟨row, hrow, hexp, heq⟩ | ⟨m, heq⟩ :=
    transition_cases (w i).idemKey state orderId receipt expect db
  · obtain ⟨h1, h2⟩ := halone g db row hg hI hrow hexp hclear
    have hkeep : KeepsClick w g i db (db.setOrder (w i).idemKey (row.write state orderId receipt)) :=
      keepsClick_write hrow fun hc => (h2 hc).imp id fun h => ⟨h.1, rfl, hg.trans h.2⟩
    exact ⟨_, _, δ, heq, hadv (), holding_write hI h1 hrec hclicked,
      ⟨fun h => Bool.noConfusion h, hkeep⟩, hok⟩
  · have hsame : Function.update g i γ = g := by rw [← hg, Function.update_eq_self]
    exact ⟨_, _, γ, heq, hstay (.runtime m), hsame.symm ▸ hI,
      ⟨fun h => Bool.noConfusion h, keepsClick_of_orders rfl⟩, herr m⟩

/-! ## Up to the guard -/

/-- A call that the flow makes before the guard: a checkpoint of its own key, or a call that
neither writes an order nor belongs to the paying call. -/
def Call.early (k : String) : Call → Prop
  | .transition k' state _ _ expect => k' = k ∧ expect = none ∧ state.isClicked = false
  | .click .. | .clickAnswer => False
  | _ => True

theorem advance_early {k : String} {c : Call} (hc : c.early k) (r : Except BridgeErr (Res c)) :
    Click.idle.advance c r = .idle := by
  cases c with
  | transition k' state orderId receipt expect =>
    obtain ⟨-, rfl, -⟩ := hc
    cases state <;> rfl
  | click | clickAnswer => exact hc.elim
  | _ => rfl

/-- An early call of a worker before its guard keeps the invariant and every click. -/
theorem early_step {c : Call} (hc : c.early (w i).idemKey) (hg : g i = .idle)
    (hI : Holding w g db) (hclear : CheckpointClear w g i c) (e : Env) :
    Holding w g (exec e c db).2 ∧ KeepsClick w g i db (exec e c db).2 := by
  have hquiet : ∀ db' : Db, db'.orders = db.orders → Holding w g db' ∧ KeepsClick w g i db db' := by
    intro db' hdb
    have h := holding_quiet (i := i) (γ := g i) hI hdb rfl fun _ => rfl
    rw [Function.update_eq_self] at h
    exact ⟨h, keepsClick_of_orders hdb⟩
  cases c with
  | transition k state orderId receipt expect =>
    obtain ⟨rfl, rfl, hs⟩ := hc
    have hkey : Call.checkpointKey (.transition (w i).idemKey state orderId receipt none) =
        some (w i).idemKey := by
      cases state <;> first | rfl | cases hs
    have hothers := hclear _ hkey
    have hidle : (g i).holds = false := by rw [hg]; rfl
    obtain ⟨row, hrow, -, heq⟩ | ⟨m, heq⟩ :=
      transition_cases (w i).idemKey state orderId receipt none db
    · have hdb : (exec e (.transition (w i).idemKey state orderId receipt none) db).2 =
          db.setOrder (w i).idemKey (row.write state orderId receipt) := congrArg Prod.snd heq
      have hnot : row.state.isClicked → False := by
        intro hclicked
        obtain ⟨j, hj, hh⟩ := hI.held _ row hrow hclicked
        by_cases hji : j = i
        · rw [hji, hidle] at hh
          cases hh
        · rw [hothers j hji hj] at hh
          cases hh
      have hwrite := holding_write (i := i) (γ := g i) (r := row.write state orderId receipt)
        hI hothers (fun h => by rw [hidle] at h; cases h) (fun h => by
          rw [show (row.write state orderId receipt).state = state from rfl, hs] at h
          cases h)
      rw [Function.update_eq_self] at hwrite
      rw [hdb]
      exact ⟨hwrite, keepsClick_write hrow fun h => (hnot h).elim⟩
    · have hdb : (exec e (.transition (w i).idemKey state orderId receipt none) db).2 = db :=
        congrArg Prod.snd heq
      exact hquiet _ (congrArg Db.orders hdb)
  | claim k purchaseId cartHash amount =>
    obtain heq | ⟨hnone, heq⟩ := claim_keeps k purchaseId cartHash amount db
    · exact hquiet _ (congrArg Db.orders heq)
    · have hdb : (exec e (.claim k purchaseId cartHash amount) db).2 = _ := heq
      rw [hdb]
      refine ⟨holding_insert hI hnone rfl, fun k' row hrow hclicked => ?_⟩
      have hne : k' ≠ k := by
        rintro rfl
        rw [hnone] at hrow
        cases hrow
      exact ⟨row, by rwa [Db.setOrder_ne _ _ hne], Or.inl hclicked⟩
  | click | clickAnswer => exact hc.elim
  | _ => exact hquiet _ rfl

/-- A program of early calls, before the guard. -/
theorem early_outline {α : Type} {p : Br α} (hp : p.Calls (Call.early (w i).idemKey)) :
    Outline bridgeSystem (clickSpec w) i (fun _ γ => γ = .idle) p .idle := by
  refine outline_calls (fun g db e c hc hg hI hclear => ?_) hp rfl
  obtain ⟨h1, h2⟩ := early_step hc hg hI hclear e
  have hadv : bridgeSystem.adv i (g i) db c (exec e c db).1 = .idle := by
    rw [hg]
    exact advance_early hc _
  have hsame : Function.update g i (bridgeSystem.adv i (g i) db c (exec e c db).1) = g := by
    rw [hadv, ← hg, Function.update_eq_self]
  have hnoclick : OneClick w g i c := by
    intro hclick
    cases c with
    | click => exact hc.elim
    | _ => cases hclick
  refine ⟨?_, ⟨hnoclick, h2⟩, hadv⟩
  show Holding w (Function.update g i (bridgeSystem.adv i (g i) db c (exec e c db).1)) (exec e c db).2
  rw [hsame]
  exact h1

end Pool

/-! ## The calls of the stages -/

/-- The call stores no receipt. -/
def Call.noReceipt : Call → Prop
  | .transition _ _ _ receipt _ => receipt = none
  | _ => True

/-- The calls of the stages. -/
def Call.staged (k : String) (c : Call) : Prop := c.early k ∧ c.noReceipt

section Stages

variable (D : Deps) (cfg : Config) (request : PlaceOrderRequest)

theorem lift_calls {α : Type} {φ : Call → Prop} (x : Except BridgeErr α) : (lift x).Calls φ := by
  unfold lift
  cases x <;> trivial

theorem call_staged {k : String} {c : Call} (h : c.early k) (h' : c.noReceipt) :
    (call c).Calls (Call.staged k) :=
  Prog.calls_perform ⟨h, h'⟩

theorem checkpoint_staged {state : OrderState} (h : state.isClicked = false) :
    (checkpoint request state).Calls (Call.staged request.idemKey) :=
  call_staged ⟨rfl, rfl, h⟩ rfl

theorem openSession_staged : (openSession request).Calls (Call.staged request.idemKey) :=
  Prog.calls_bind (call_staged trivial trivial) fun _ => checkpoint_staged request rfl

theorem bindCart_staged (approved : Money) :
    (bindCart D request approved).Calls (Call.staged request.idemKey) := by
  refine Prog.calls_bind (call_staged trivial trivial) fun resolved => ?_
  refine Prog.calls_bind (call_staged trivial trivial) fun stores => ?_
  cases stores with
  | nil => trivial
  | cons store rest =>
    refine Prog.calls_bind (lift_calls _) fun _ => ?_
    refine Prog.calls_bind (lift_calls _) fun current => ?_
    split_ifs
    · trivial
    · exact Prog.calls_bind (checkpoint_staged request rfl) fun _ => trivial

theorem verifyApproval_staged (approved : Money) :
    (verifyApproval D cfg request approved).Calls (Call.staged request.idemKey) :=
  Prog.calls_bind (call_staged trivial trivial) fun _ =>
    Prog.calls_bind (call_staged trivial trivial) fun _ =>
      Prog.calls_bind (lift_calls _) fun _ =>
        Prog.calls_bind (checkpoint_staged request rfl) fun _ => trivial

theorem applyPayment_staged (resolved : String) :
    (applyPayment cfg resolved).Calls (Call.staged request.idemKey) :=
  Prog.calls_bind (call_staged trivial trivial) fun _ =>
    Prog.calls_bind (lift_calls _) fun _ =>
      Prog.calls_bind (call_staged trivial trivial) fun _ => call_staged trivial trivial

theorem armCheckout_staged (approved : Money) (resolved : String) (store : Fields) :
    (armCheckout cfg request approved resolved store).Calls (Call.staged request.idemKey) := by
  refine Prog.calls_bind (call_staged trivial trivial) fun _ => ?_
  refine Prog.calls_bind (call_staged trivial trivial) fun stores => ?_
  refine Prog.calls_bind (lift_calls _) fun total => ?_
  refine Prog.calls_bind (lift_calls _) fun _ => ?_
  refine Prog.calls_bind (call_staged trivial trivial) fun detail => ?_
  refine Prog.calls_bind (lift_calls _) fun _ => ?_
  refine Prog.calls_bind (call_staged trivial trivial) fun address => ?_
  refine Prog.calls_bind (lift_calls _) fun _ => ?_
  exact Prog.calls_bind (checkpoint_staged request rfl) fun _ => trivial

theorem finish_early (total : Money) {state : OrderState} (h : state.isClicked = false)
    (orderId : Option String) :
    (finish cfg request total state orderId).Calls (Call.early request.idemKey) :=
  Prog.calls_bind (Prog.calls_perform trivial) fun _ =>
    Prog.calls_bind (Prog.calls_perform ⟨rfl, rfl, h⟩) fun _ => trivial

end Stages

/-! ## From the guard on -/

section Workers

variable {ι : Type} [DecidableEq ι] {w : ι → PlaceOrderRequest} {i : ι}
variable (D : Deps) (cfg : Config)

/-- A call of the holder that writes no order and keeps it a holder. -/
theorem holder_call {c : Call} {γ : Click} {Q : Except BridgeErr (Res c) → Click → Prop}
    (hclick : c.isClick → γ = .guarded)
    (horders : ∀ e db, (exec e c db).2.orders = db.orders)
    (hholds : ∀ r, γ.holds ∧ (γ.advance c r).holds ∧ (γ.advance c r).recorded = γ.recorded)
    (hQ : ∀ e db, Q (exec e c db).1 (γ.advance c (exec e c db).1)) :
    Outline bridgeSystem (clickSpec w) i Q (call c) γ := by
  refine outline_perform_eq fun g db e hg hI _ =>
    ⟨(exec e c db).1, (exec e c db).2, γ.advance c (exec e c db).1, rfl, rfl, ?_, ⟨?_, ?_⟩, hQ e db⟩
  · obtain ⟨h1, h2, h3⟩ := hholds (exec e c db).1
    exact holding_quiet hI (horders e db) (by rw [h2, hg, h1]) fun _ => by rw [h3, hg]
  · intro h j hj
    have hγ := hclick h
    have hholder : (g i).holds = true := by rw [hg, hγ]; rfl
    by_contra hpaid
    have hji := hI.single j i hj (Click.holds_of_mayHavePaid (by simpa using hpaid)) hholder
    rw [hji, hg, hγ] at hpaid
    exact hpaid rfl
  · exact keepsClick_of_orders (horders e db)

/-- A transition of the holder to a state that records its paying call. -/
theorem holder_transition {state : OrderState} {orderId : Option String}
    {receipt : Option Receipt} {expect : Option OrderState} {γ δ : Click}
    (hadv : ∀ u, γ.advance (.transition (w i).idemKey state orderId receipt expect) (.ok u) = δ)
    (hstay : ∀ x, γ.advance (.transition (w i).idemKey state orderId receipt expect) (.error x) = γ)
    (hγ : γ.holds) (hstate : state.isClicked ∨ state = .failed ∧ γ = .rejected)
    (hrec : δ.holds → state = δ.recorded) (hclicked : state.isClicked → δ.holds) :
    Outline bridgeSystem (clickSpec w) i (fun _ _ => True)
      (call (.transition (w i).idemKey state orderId receipt expect)) γ :=
  transition_outline hadv hstay
    (fun _ _ _ hg hI _ _ _ => ⟨hI.alone (by rw [hg]; exact hγ), fun _ => hstate⟩)
    hrec hclicked trivial fun _ => trivial

/-- How the paying call ends. -/
def Answered : Except BridgeErr Json → Click → Prop
  | .ok _, γ => γ = .ordered
  | .error x, γ => if x.isMinAmount then γ = .rejected else γ = .ambiguous ∨ γ = .guarded

theorem guard_outline (request : PlaceOrderRequest) (hw : w i = request) :
    Outline bridgeSystem (clickSpec w) i (onOk fun _ γ => γ = .guarded)
      ((call (.transition request.idemKey .clicked none none (some .armed))).tryCatch
        fun x => .raise (conflictOf request x)) .idle := by
  subst hw
  refine outline_tryCatch (Q := onOk fun _ γ => γ = .guarded) ?_ (fun _ _ h => h)
    fun _ _ _ => trivial
  refine transition_outline (δ := .guarded) (fun _ => rfl) (fun _ => rfl) ?_ (fun _ => rfl)
    (fun _ => rfl) rfl fun _ => trivial
  intro g db row _ hI hrow hexp _
  have harmed : row.state = .armed := hexp _ rfl
  have hnot : row.state.isClicked = false := by rw [harmed]; rfl
  refine ⟨fun j _ hj => hI.nobody hrow hnot j hj, fun hc => ?_⟩
  rw [hnot] at hc
  cases hc

theorem payingCall_outline (resolved : String) (detail : Json) :
    Outline bridgeSystem (clickSpec w) i Answered (payingCall resolved detail) .guarded := by
  unfold payingCall
  cases returnKeyOf detail with
  | none => exact Or.inr rfl
  | some returnKey =>
    refine outline_bind (Q := fun r γ => (∃ a, r = .ok a) ∧ γ = .issued)
      (holder_call (fun _ => rfl) (fun _ _ => rfl) (fun _ => ⟨rfl, rfl, rfl⟩)
        fun _ _ => ⟨⟨_, rfl⟩, rfl⟩) ?_ ?_
    · rintro _ _ ⟨-, rfl⟩
      refine holder_call (fun h => Bool.noConfusion h) (fun _ _ => rfl) (fun r => ?_)
        fun e db => ?_
      · cases r with
        | ok a => exact ⟨rfl, rfl, rfl⟩
        | error x => cases hx : x.isMinAmount <;> simp [Click.advance, hx, Click.holds, Click.recorded]
      · show Answered (e .clickAnswer) (Click.issued.advance .clickAnswer (e .clickAnswer))
        cases e .clickAnswer with
        | ok a => rfl
        | error x => cases hx : x.isMinAmount <;> simp [Answered, Click.advance, hx]
    · rintro x γ ⟨⟨_, h⟩, -⟩
      cases h

theorem clickFailed_outline {x : BridgeErr} {γ : Click} (h : Answered (.error x) γ) :
    Outline bridgeSystem (clickSpec w) i (fun _ _ => True) (clickFailed (w i) x) γ := by
  unfold clickFailed
  simp only [Answered] at h
  split_ifs at h ⊢
  · subst h
    exact outline_bind (holder_transition (δ := .failed) (fun _ => rfl) (fun _ => rfl) rfl
      (Or.inr ⟨rfl, rfl⟩) (fun hf => Bool.noConfusion hf) fun hf => Bool.noConfusion hf)
      (fun _ _ _ => trivial) fun _ _ _ => trivial
  · obtain rfl | rfl := h
    · exact outline_bind (holder_transition (δ := .uncertain) (fun _ => rfl) (fun _ => rfl) rfl
        (Or.inl rfl) (fun _ => rfl) fun _ => rfl) (fun _ _ _ => trivial) fun _ _ _ => trivial
    · exact outline_bind (holder_transition (δ := .abandoned) (fun _ => rfl) (fun _ => rfl) rfl
        (Or.inl rfl) (fun _ => rfl) fun _ => rfl) (fun _ _ _ => trivial) fun _ _ _ => trivial

/-- Recording the confirmation of an answered click. -/
theorem confirm_outline (total : Money) (orderId : Option String) :
    Outline bridgeSystem (clickSpec w) i (fun _ _ => True)
      (finish cfg (w i) total .confirmed orderId) .ordered := by
  refine outline_bind (Q := fun _ γ => γ = .ordered)
    (holder_call (fun h => Bool.noConfusion h) (fun _ _ => rfl) (fun _ => ⟨rfl, rfl, rfl⟩)
      fun _ _ => rfl) ?_ fun _ _ _ => trivial
  rintro label _ rfl
  exact outline_bind (holder_transition (δ := .confirmed) (fun _ => rfl) (fun _ => rfl) rfl
    (Or.inl rfl) (fun _ => rfl) fun _ => rfl) (fun _ _ _ => trivial) fun _ _ _ => trivial

/-- **From the guard to the end.** -/
theorem clickOrder_outline (total : Money) (resolved : String) (detail : Json) :
    Outline bridgeSystem (clickSpec w) i (fun _ _ => True)
      (clickOrder cfg (w i) total resolved detail) .idle := by
  refine outline_bind (guard_outline (w i) rfl) ?_ fun _ _ _ => trivial
  rintro _ _ rfl
  refine outline_bind (outline_attempt (payingCall_outline resolved detail)) ?_ fun _ _ _ => trivial
  rintro answer γ ⟨r, heq, h⟩
  rw [← Except.ok.inj heq] at h
  cases answer with
  | error x => exact clickFailed_outline h
  | ok result =>
    obtain rfl : γ = .ordered := h
    dsimp only
    cases orderIdOf result with
    | none => trivial
    | some orderId => exact confirm_outline cfg total orderId

/-- The stages before the guard, one after the other. -/
theorem early_bind {α β : Type} {p : Br α} {f : α → Br β}
    (hp : p.Calls (Call.staged (w i).idemKey))
    (hf : ∀ a, Outline bridgeSystem (clickSpec w) i (fun _ _ => True) (f a) .idle) :
    Outline bridgeSystem (clickSpec w) i (fun _ _ => True) (p.bind f) .idle := by
  have hearly := Prog.calls_mono (fun _ h => h.1) hp
  refine outline_bind (early_outline hearly) ?_ fun _ _ _ => trivial
  rintro a _ rfl
  exact hf a

theorem executeOrder_outline (approved : Money) :
    Outline bridgeSystem (clickSpec w) i (fun _ _ => True)
      (executeOrder D cfg (w i) approved) .idle := by
  refine early_bind (openSession_staged _) fun _ => ?_
  refine early_bind (bindCart_staged D _ approved) fun cart => ?_
  refine early_bind (verifyApproval_staged D cfg _ approved) fun claims => ?_
  refine early_bind (applyPayment_staged cfg _ cart.1) fun _ => ?_
  refine early_bind (armCheckout_staged cfg _ approved cart.1 cart.2) fun armed => ?_
  unfold submitOrder
  split_ifs
  · trivial
  · exact outline_mono (fun _ _ _ => trivial) (early_outline (finish_early cfg _ _ rfl none))
  · exact clickOrder_outline cfg armed.1 cart.1 armed.2

/-- **The outline of a worker.** -/
theorem placeOrder_outline :
    Outline bridgeSystem (clickSpec w) i (fun _ _ => True) (placeOrder D cfg (w i)) .idle := by
  unfold placeOrder
  split_ifs
  · trivial
  refine early_bind (lift_calls _) fun approved => ?_
  refine early_bind (call_staged trivial trivial) fun existing => ?_
  cases existing with
  | none => exact executeOrder_outline D cfg approved
  | some row =>
    simp only [resumeOrder]
    cases row.replay with
    | some receipt => trivial
    | none =>
      dsimp only
      split_ifs
      · trivial
      · exact executeOrder_outline D cfg approved

/-! ## Runs -/

/-- At the start nobody holds a key. -/
theorem bridgeStart_outlined :
    Outlined bridgeSystem (clickSpec w) (fun _ _ _ => True) (bridgeStart D cfg w) := by
  refine ⟨⟨fun _ _ _ h => ?_, fun _ h => ?_, fun _ _ h => ?_⟩, fun i => placeOrder_outline D cfg⟩
  all_goals cases h

/-- **One key, one paying click**: in every run whose checkpoints find no other worker of the key
past its guard with no rejection recorded, a paying call is issued only when every earlier one of
the key was answered by `MinAmountRejected`, and a clicked order stays clicked but for such an
answer. -/
theorem one_key_one_click (w : ι → PlaceOrderRequest) (xs : List (ι × Env))
    (hok : bridgeSystem.Along
      (fun c i _ => ∀ op ∈ (c.prog i).next, CheckpointClear w c.hist i op)
      (bridgeStart D cfg w) xs) :
    bridgeSystem.Along (fun c i e => ∀ op ∈ (c.prog i).next,
      OneClick w c.hist i op ∧ KeepsClick w c.hist i c.shared (exec e op c.shared).2)
      (bridgeStart D cfg w) xs :=
  (outline_run (bridgeStart_outlined D cfg) hok).1

end Workers

/-! ### Two workers of one key -/

/-- The store of the cart. -/
def pantry : Fields := [("id", .str "900"), ("products", .arr []), ("total", .str "19800.00")]

/-- The binding of that cart. -/
def pantryHash : String := "11a9c7b7baea8d27e4d377fd8fbae04a0d49a3a72f114014c9fad115b3517e65"

/-- The libraries, for that cart and one capture token. -/
def pantryDeps : Deps where
  digest _ := .ok pantryHash
  peekHeader _ := .ok [("typ", .str "capture-token+jwt"), ("kid", .str "v1")]
  verifyCompact _ _ := .ok [("purchase_id", .str "purchase-1"), ("amount", .str "19800.00"),
    ("cart_hash", .str pantryHash), ("dry_run", .bool false), ("iat", .num 0 0),
    ("exp", .num 120 0)]

/-- A live bridge. -/
def liveConfig : Config := ⟨true, false, "80000.00", none, false⟩

/-- Rappi answers, and takes every order. -/
def taking : Env
  | .claim .. => .ok none
  | .transition .. => .ok ()
  | .storePaymentLabel _ => .ok ()
  | .loadPaymentLabel => .ok ""
  | .now => .ok (0 : ℤ)
  | .kernelKeys => .ok [("v1", .null)]
  | .whoami => .ok ()
  | .resolveStoreType preferred => .ok preferred
  | .recalculate _ => .ok [pantry]
  | .getPaymentMethods _ => .ok [[("id", .str "cc|1"), ("main_description", .str "Visa")]]
  | .setPaymentMethod .. => .ok ()
  | .checkoutDetail _ => .ok (.obj [("return_key", .str "rk-123")])
  | .activeAddress => .ok none
  | .click .. => .ok ()
  | .clickAnswer => .ok (.obj [("order_id", .str "2496728264")])

/-- The approved order. -/
def pantryOrder (idemKey : String) : PlaceOrderRequest :=
  ⟨idemKey, "purchase-1", "19800.00", pantryHash, "token-1", none, "restaurant"⟩

/-- A request and its retry. -/
def retried : Fin 2 → PlaceOrderRequest := fun _ => pantryOrder "idem-1"

theorem one_key_one_click_retried :
    bridgeSystem.Along (fun c i e => ∀ op ∈ (c.prog i).next,
      OneClick retried c.hist i op ∧ KeepsClick retried c.hist i c.shared (exec e op c.shared).2)
      (bridgeStart pantryDeps liveConfig retried)
      (List.replicate 22 (0, taking) ++ List.replicate 2 (1, taking)) :=
  one_key_one_click pantryDeps liveConfig retried _ (by decide +kernel)

/-- **The key is clicked twice**: the retry claimed the key before the click, and writes its
checkpoints over `CLICKED`. -/
theorem clicked_twice : ¬ ∀ xs : List (Fin 2 × Env),
    bridgeSystem.Along (fun c i e => ∀ op ∈ (c.prog i).next,
      OneClick retried c.hist i op ∧ KeepsClick retried c.hist i c.shared (exec e op c.shared).2)
      (bridgeStart pantryDeps liveConfig retried) xs := by
  intro h
  have hclicks := bridgeSystem.along_mono
    (Q := fun c i _ => ∀ op ∈ (c.prog i).next, OneClick retried c.hist i op)
    (fun _ _ _ hstep op hop => (hstep op hop).1)
    (h ([(0, taking), (1, taking)] ++ List.replicate 18 (0, taking) ++
      List.replicate 18 (1, taking)))
  revert hclicks
  decide +kernel

end TryTrust.Bridge
