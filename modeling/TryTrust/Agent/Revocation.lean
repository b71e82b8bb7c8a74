import TryTrust.Agent.Status
import TryTrust.Agent.Walk

/-!
# Revocation before capture

One purchase runs among revocations and registry transitions of any mandate. `verify` reads the
status of the mandate and of every ancestor; the settlement's last check reads the mandate only.

* `Trail`: the stage of the purchase on every mandate, and the database that the last check saw;
* `LiveInv`: nothing is captured unless that check saw the whole chain active;
* `verify_live`, `portSettle_live`, `compensate_live`: the outlines of the saga's parts;
* **`revoked_not_captured`**: a purchase whose last check saw an inactive mandate on its chain is
  not captured and is released, when a check that finds the mandate active finds its ancestors
  active; `revoked_parent_captured`: without that, a revoked parent is not seen.
-/

namespace TryTrust.Agent

open Conc

/-- What the purchase did to every mandate, its amount, and the database at its last check. -/
structure Trail where
  stage : String → Stage
  amount : ℤ
  live : Option Db

/-- The trail of a purchase that has not started. -/
def Trail.start : Trail := ⟨fun _ => .none, 0, none⟩

/-- A call's effect on the caller's trail. -/
def Trail.advance (γ : Trail) (db : Db) : (c : Call) → Except PyErr (Res c) → Trail
  | .insertPurchase _ i, .ok _ => { γ with amount := i.amount }
  | .casReserve jti _ _, .ok true => { γ with stage := Function.update γ.stage jti .reserved }
  | .updateReserved jti _, .ok _ => { γ with stage := Function.update γ.stage jti .released }
  | .updateSettled jti _ _ _ _, .ok _ => { γ with stage := Function.update γ.stage jti .settled }
  | .selectLiveStatus _, .ok _ => { γ with live := some db }
  | _, _ => γ

/-- What runs beside the purchase. -/
inductive Revocation where
  | revoke (jti : String)
  | transition (jti : String) (target : MandateStatus)

/-- The program of a revocation. -/
def Revocation.prog : Revocation → Py (Option Outcome)
  | .revoke jti => do
    let _ ← TryTrust.Agent.revoke jti
    pure none
  | .transition jti target => do
    let _ ← TryTrust.Agent.transition jti target
    pure none

/-- The mandate and all its ancestors are active. -/
def AllActive (fuel : ℕ) (jti : String) (db : Db) : Prop :=
  ∀ j ∈ db.chainOf fuel jti, (db.mandates j).map (·.status) = some .active

instance (fuel : ℕ) (jti : String) (db : Db) : Decidable (AllActive fuel jti db) :=
  inferInstanceAs (Decidable (∀ _ ∈ _, _))

/-- The mandate whose live status a call reads. -/
def Call.readsLive : Call → Option String
  | .selectLiveStatus jti => some jti
  | _ => none

/-- A check that finds the mandate active finds its ancestors active too. -/
def LiveTells (fuel : ℕ) (db : Db) (c : Call) : Prop :=
  ∀ jti ∈ c.readsLive, (db.mandates jti).map (·.status) = some .active → AllActive fuel jti db

instance (fuel : ℕ) (db : Db) (c : Call) : Decidable (LiveTells fuel db c) :=
  inferInstanceAs (Decidable (∀ _ ∈ _, _))

/-- The purchase is captured: money is held for it, or its row says so. -/
def IsCaptured (ids : FreshIds) (db : Db) : Prop :=
  Held ids.intentJti db ∨ ∃ row ∈ db.purchases ids.purchaseId, row.status = .captured

/-! ## What calls keep -/

/-- The terms and reservations of mandates are the same, and no capture is new. -/
structure SameHold (ids : FreshIds) (db db' : Db) : Prop where
  terms : db'.terms = db.terms
  reserved : ∀ m, ∀ row' ∈ db'.mandates m, ∃ row ∈ db.mandates m,
    row'.reservedAmount = row.reservedAmount
  captured : IsCaptured ids db' → IsCaptured ids db

/-- The calls that touch neither reservations nor captures, and are no live read. -/
def Call.quiet : Call → Bool
  | .casReserve _ _ _ => false
  | .updateReserved _ _ => false
  | .updateSettled _ _ _ _ _ => false
  | .selectLiveStatus _ => false
  | .insertCapture _ _ => false
  | .placeOrder _ => false
  | .insertPurchase _ _ => false
  | .updatePurchase _ status _ => status ≠ .captured
  | _ => true

theorem sameHold_refl (ids : FreshIds) (db : Db) : SameHold ids db db :=
  ⟨rfl, fun _ row h => ⟨row, h, rfl⟩, id⟩

/-- A write to a status column. -/
theorem sameHold_status (ids : FreshIds) (db : Db) (jti : String) (status : MandateStatus) :
    SameHold ids db (db.setMandate jti fun cur => { cur with status := status }) := by
  refine ⟨setMandate_terms db jti (fun _ => rfl) fun _ => rfl, fun m row' h => ?_, id⟩
  by_cases hm : m = jti
  · subst hm
    rw [Db.setMandate_same] at h
    obtain ⟨row, hrow, rfl⟩ := Option.map_eq_some_iff.1 h
    exact ⟨row, hrow, rfl⟩
  · rw [Db.setMandate_ne _ _ hm] at h
    exact ⟨row', h, rfl⟩

theorem sameHold_purchase (ids : FreshIds) (db : Db) (id : String) {status : PurchaseStatus}
    (hs : status ≠ .captured) (set : PurchaseSet) :
    SameHold ids db (db.setPurchase id status set) := by
  refine ⟨rfl, fun _ row h => ⟨row, h, rfl⟩, ?_⟩
  rintro (h | ⟨row, hrow, hcap⟩)
  · exact Or.inl h
  · by_cases hid : ids.purchaseId = id
    · -- the row written has the new status
      simp only [Db.setPurchase, if_pos hid] at hrow
      obtain ⟨old, -, rfl⟩ := Option.map_eq_some_iff.1 hrow
      cases set <;> exact absurd hcap hs
    · simp only [Db.setPurchase, if_neg hid] at hrow
      exact Or.inr ⟨row, hrow, hcap⟩

theorem sameHold_of_quiet (ids : FreshIds) {c : Call} (hc : c.quiet = true) (e : Env) (db : Db) :
    SameHold ids db (exec e c db).2 := by
  cases c with
  | updateExpired jti => exact sameHold_status ids db jti _
  | updateRevoked jti => exact sameHold_status ids db jti _
  | updateTransition jti target sources =>
    simp only [exec]
    split_ifs
    · exact sameHold_status ids db jti _
    · exact sameHold_refl ids db
  | updatePurchase id status set => exact sameHold_purchase ids db id (of_decide_eq_true hc) set
  | deleteInstrument ref =>
    simp only [exec]
    split_ifs
    · exact ⟨rfl, fun _ row h => ⟨row, h, rfl⟩, id⟩
    · exact sameHold_refl ids db
  | insertIntent i signature =>
    simp only [exec]
    split_ifs
    · exact sameHold_refl ids db
    · exact ⟨rfl, fun _ row h => ⟨row, h, rfl⟩, id⟩
  | casReserve _ _ _ => exact Bool.noConfusion hc
  | updateReserved _ _ => exact Bool.noConfusion hc
  | updateSettled _ _ _ _ _ => exact Bool.noConfusion hc
  | selectLiveStatus _ => exact Bool.noConfusion hc
  | insertCapture _ _ => exact Bool.noConfusion hc
  | placeOrder _ => exact Bool.noConfusion hc
  | insertPurchase _ _ => exact Bool.noConfusion hc
  | _ => exact ⟨rfl, fun _ row h => ⟨row, h, rfl⟩, id⟩

theorem advance_quiet {c : Call} (hc : c.quiet = true) (γ : Trail) (db : Db)
    (r : Except PyErr (Res c)) : γ.advance db c r = γ := by
  cases c <;> first | rfl | exact Bool.noConfusion hc

theorem trail_error (γ : Trail) (db : Db) (c : Call) (x : PyErr) :
    γ.advance db c (.error x) = γ := by
  cases c <;> rfl

/-! ## The invariant -/

section Pool

variable {ι : Type} [DecidableEq ι]

/-- A purchase among revocations. -/
def liveSystem : System ι Call Res PyErr Db Trail Env where
  sem := sem
  adv _ γ db c r := γ.advance db c r

variable (fuel : ℕ) (ids : FreshIds) (mandateJti : String)
  (terms : String → Option (Claims × Option String)) (base : String → ℤ)

/-- The last check saw the whole chain active. -/
def Passed (γ : Trail) : Prop := ∃ seen ∈ γ.live, AllActive fuel mandateJti seen

/-- Terms never change; what is reserved beyond `base` is the purchase's; nothing is captured that
did not pass the last check. -/
structure LiveInv (γ : Trail) (db : Db) : Prop where
  terms : db.terms = terms
  reserved : ∀ m, γ.stage m ≠ .settled → ∀ row ∈ db.mandates m,
    row.reservedAmount = base m + if γ.stage m = .reserved then γ.amount else 0
  paid : IsCaptured ids db → Passed fuel mandateJti γ

/-- The invariant of the purchase `b`, under the condition on live reads. -/
def liveSpec (b : ι) : Spec ι Call Res PyErr Db Trail where
  inv g db := LiveInv fuel ids mandateJti terms base (g b) db
  ok _ db _ c := LiveTells fuel db c
  prop _ _ _ _ _ _ := True

variable {fuel ids mandateJti terms base}

theorem LiveInv.frame {γ : Trail} {db db' : Db} (h : LiveInv fuel ids mandateJti terms base γ db)
    (hs : SameHold ids db db') : LiveInv fuel ids mandateJti terms base γ db' where
  terms := hs.terms.trans h.terms
  reserved m hm row' hrow' := by
    obtain ⟨row, hrow, heq⟩ := hs.reserved m row' hrow'
    rw [heq]
    exact h.reserved m hm row hrow
  paid hc := h.paid (hs.captured hc)

variable {b : ι} {γ : Trail}

/-- A failed call changes nothing, so only the run of a call has to be looked at. -/
theorem live_call {c : Call} {Q : Except PyErr (Res c) → Trail → Prop}
    (h : ∀ db e, LiveInv fuel ids mandateJti terms base γ db → LiveTells fuel db c →
      LiveInv fuel ids mandateJti terms base (γ.advance db c (exec e c db).1) (exec e c db).2 ∧
        Q (exec e c db).1 (γ.advance db c (exec e c db).1)) (he : ∀ x, Q (.error x) γ) :
    Outline liveSystem (liveSpec fuel ids mandateJti terms base b) b Q (call c) γ := by
  refine outline_perform fun g db e hg hI hok => ?_
  simp only [liveSpec, hg] at hI hok
  cases hf : e.fail with
  | none =>
    simp only [liveSystem, sem, hf, liveSpec, Function.update_self]
    obtain ⟨h1, h2⟩ := h db e hI hok
    exact ⟨h1, trivial, h2⟩
  | some x =>
    simp only [liveSystem, sem, hf, liveSpec, Function.update_self, trail_error]
    exact ⟨hI, trivial, he x⟩

/-- The quiet calls of the purchase. -/
theorem live_quiet {α : Type} {p : Py α} (hp : p.Calls fun c => c.quiet = true) :
    Outline liveSystem (liveSpec fuel ids mandateJti terms base b) b (fun _ γ' => γ' = γ) p γ := by
  refine outline_calls (fun g db e c hc hγ hI _ => ?_) hp rfl
  simp only [liveSystem, liveSpec, Function.update_self, advance_quiet hc]
  refine ⟨?_, trivial, hγ⟩
  cases hf : e.fail with
  | none =>
    simp only [sem, hf]
    exact LiveInv.frame hI (sameHold_of_quiet ids hc e db)
  | some x =>
    simp only [sem, hf]
    exact hI

/-- The calls of the others. -/
theorem live_other {α : Type} {p : Py α} {i : ι} (hi : i ≠ b)
    (hp : p.Calls fun c => c.quiet = true) :
    Outline liveSystem (liveSpec fuel ids mandateJti terms base b) i (fun _ _ => True) p γ := by
  refine outline_calls (fun g db e c hc _ hI _ => ?_) hp trivial
  simp only [liveSystem, liveSpec, Function.update_of_ne hi.symm]
  refine ⟨?_, trivial, trivial⟩
  cases hf : e.fail with
  | none =>
    simp only [sem, hf]
    exact LiveInv.frame hI (sameHold_of_quiet ids hc e db)
  | some x =>
    simp only [sem, hf]
    exact hI

/-- One quiet call and what follows. -/
theorem quiet_bind {α β : Type} {p : Py α} {f : α → Py β} {φ : β → Trail → Prop}
    (hp : p.Calls fun c => c.quiet = true)
    (hf : ∀ a, Outline liveSystem (liveSpec fuel ids mandateJti terms base b) b (onOk φ) (f a) γ) :
    Outline liveSystem (liveSpec fuel ids mandateJti terms base b) b (onOk φ) (p.bind f) γ :=
  outline_bind (live_quiet hp) (fun a _ h => h ▸ hf a) fun _ _ _ => trivial

/-! ## Reserve and release -/

/-- A write to the row of one mandate. -/
theorem LiveInv.write {γ' : Trail} {db : Db} (h : LiveInv fuel ids mandateJti terms base γ db)
    {jti : String} {f : MandateRow → MandateRow} (hlive : γ'.live = γ.live)
    (hamount : γ'.amount = γ.amount) (hothers : ∀ m, m ≠ jti → γ'.stage m = γ.stage m)
    (hc : ∀ row, (f row).claims = row.claims) (hp : ∀ row, (f row).parentJti = row.parentJti)
    (hrow : γ'.stage jti ≠ .settled → ∀ row ∈ db.mandates jti,
      (f row).reservedAmount = base jti + if γ'.stage jti = .reserved then γ.amount else 0) :
    LiveInv fuel ids mandateJti terms base γ' (db.setMandate jti f) where
  terms := (setMandate_terms db jti hc hp).trans h.terms
  reserved m hm row hrow' := by
    rw [hamount]
    by_cases hj : m = jti
    · subst hj
      rw [Db.setMandate_same] at hrow'
      obtain ⟨old, hold, rfl⟩ := Option.map_eq_some_iff.1 hrow'
      exact hrow hm old hold
    · rw [Db.setMandate_ne _ _ hj] at hrow'
      rw [hothers m hj] at hm ⊢
      exact h.reserved m hm row hrow'
  paid hcap := by
    obtain ⟨seen, hseen, hall⟩ := h.paid hcap
    exact ⟨seen, by rwa [hlive], hall⟩

theorem chain_live (jti : String) :
    Outline liveSystem (liveSpec fuel ids mandateJti terms base b) b
      (onOk fun jtis γ' => jtis = chainOf terms fuel jti ∧ γ' = γ) (chain fuel jti) γ :=
  chain_walk (fun j => live_call (fun db e hI _ =>
    ⟨hI.frame (sameHold_of_quiet ids rfl e db), hI.terms ▸ parents_eq db j, rfl⟩)
      fun _ => trivial) fuel jti

/-- The purchase's amount, and the database at its last check. -/
def Trail.Is (amount : ℤ) (live : Option Db) (γ : Trail) : Prop :=
  γ.amount = amount ∧ γ.live = live

variable {amount : ℤ} {live : Option Db}

theorem unreserveOne_live (hbase : ∀ m, 0 ≤ base m) (jti : String) (γ : Trail)
    (hγ : γ.Is amount live) (hst : γ.stage jti = .reserved) :
    Outline liveSystem (liveSpec fuel ids mandateJti terms base b) b
      (onOk fun _ γ' => Moved Trail.stage (Trail.Is amount live)
        (fun st => st = .released ∨ terms jti = none) jti γ γ') (unreserveOne amount jti) γ := by
  refine outline_bind_ok (φ := fun r γ' => γ' = γ ∧ (∀ v, r = some v → v = base jti + amount) ∧
    (r = none → terms jti = none)) (live_call (fun db e hI _ => ?_) fun _ => trivial) ?_
  · refine ⟨hI.frame (sameHold_of_quiet ids rfl e db), rfl, fun v hv => ?_, fun hv => ?_⟩
    · obtain ⟨row, hrow, rfl⟩ := Option.map_eq_some_iff.1 hv
      have hres := hI.reserved jti (by rw [hst]; decide) row hrow
      rwa [hst, if_pos rfl, hγ.1] at hres
    · have hnone := Option.map_eq_none_iff.1 hv
      rw [← hI.terms, Db.terms, hnone]
      rfl
  · rintro r γ' ⟨rfl, hsome, hnone⟩
    cases r with
    | none => exact ⟨hγ, fun _ _ => rfl, Or.inr (hnone rfl)⟩
    | some v =>
      refine live_call (fun db e hI _ => ?_) fun _ => trivial
      refine ⟨hI.write rfl rfl (fun m hm => Function.update_of_ne hm _ _) (fun _ => rfl)
        (fun _ => rfl) fun _ row _ => ?_, hγ, fun m hm => Function.update_of_ne hm _ _,
        Or.inl (Function.update_self ..)⟩
      have hfree := hbase jti
      rw [hsome v rfl]
      simp only [exec, Trail.advance, Function.update_self]
      rw [if_neg (by decide)]
      omega

theorem unreserve_live (hbase : ∀ m, 0 ≤ base m) (jtis : List String) (γ : Trail)
    (hn : jtis.Nodup) (hγ : γ.Is amount live) (hst : ∀ j ∈ jtis, γ.stage j = .reserved) :
    Outline liveSystem (liveSpec fuel ids mandateJti terms base b) b
      (onOk fun _ γ' => γ'.Is amount live ∧
        ∀ j ∈ jtis, γ'.stage j = .released ∨ terms j = none) (unreserve amount jtis) γ := by
  refine outline_mono (fun r γ' h => ?_) (loop_walk
    (T := fun j st => st = .released ∨ terms j = none) (unreserve amount) rfl (fun _ _ => rfl) jtis
    (fun jti _ γ hγ hst => unreserveOne_live hbase jti γ hγ hst) γ hn hγ hst)
  cases r with
  | error x => trivial
  | ok u => exact ⟨h.1, h.2.1⟩

theorem casReserve_live (jti : String) (row : MandateRow) (γ : Trail) (hγ : γ.Is amount live)
    (hst : γ.stage jti = .none) :
    Outline liveSystem (liveSpec fuel ids mandateJti terms base b) b
      (onOk fun won γ' => Moved Trail.stage (Trail.Is amount live)
        (· = if won = true then .reserved else .none) jti γ γ')
      (call (.casReserve jti row (row.reservedAmount + amount))) γ := by
  refine live_call (fun db e hI _ => ?_) fun _ => trivial
  simp only [exec]
  split_ifs with hm
  · refine ⟨hI.write rfl rfl (fun m hm => Function.update_of_ne hm _ _) (fun _ => rfl)
      (fun _ => rfl) fun _ cur hcur => ?_, hγ, fun m hm => Function.update_of_ne hm _ _,
      Function.update_self ..⟩
    -- the row still has the reserved amount that was read
    rw [Option.any_eq_true] at hm
    obtain ⟨cur', hcur', hm⟩ := hm
    obtain rfl : cur' = cur := Option.some.inj (hcur'.symm.trans hcur)
    simp only [casMatches, Bool.and_eq_true, decide_eq_true_eq] at hm
    have hres := hI.reserved jti (by rw [hst]; decide) cur' hcur
    rw [hst, if_neg (by decide)] at hres
    simp only [Trail.advance, Function.update_self, if_true, hγ.1]
    omega
  · exact ⟨hI, hγ, fun _ _ => rfl, hst⟩

theorem reserveChain_live (hbase : ∀ m, 0 ≤ base m) (jti : String) (γ : Trail)
    (hγ : γ.Is amount live) (hst : ∀ m, γ.stage m = .none) :
    Outline liveSystem (liveSpec fuel ids mandateJti terms base b) b
      (onOk fun won γ' => γ'.Is amount live ∧ (won = true →
        ∀ j ∈ chainOf terms fuel jti, γ'.stage j = .reserved ∧ terms j ≠ none))
      (reserveChain fuel jti amount) γ := by
  refine outline_bind_ok (chain_live jti) ?_
  rintro _ _ ⟨rfl, rfl⟩
  refine outline_mono (fun r γ' h => ?_) (reserveLoop_walk (φ := Trail.Is amount live)
    (fun jti row => terms jti = some (row.claims, row.parentJti))
    (fun jti γ hγ => live_call (fun db e hI _ => ?_) fun _ => trivial)
    (fun jti row γ hγ _ hst _ => casReserve_live jti row γ hγ hst)
    (fun jtis γ hn hγ hst => ?_) _ [] _ (chainOf_nodup terms fuel jti) hγ (by simp)
    fun j _ => hst j)
  · cases r with
    | error x => trivial
    | ok won =>
      refine ⟨h.1, fun hwon j hj => ⟨(h.2 hwon).1 j hj, ?_⟩⟩
      obtain ⟨row, hrow⟩ := (h.2 hwon).2 j hj
      simp [hrow]
  · refine ⟨hI.frame (sameHold_of_quiet ids rfl e db), ⟨hγ, rfl⟩, fun row hrow => ?_⟩
    rw [← hI.terms, Db.terms, hrow]
    rfl
  · refine outline_mono (fun r γ' h => ?_) (unreserve_live hbase jtis γ hn hγ hst)
    cases r with
    | error x => trivial
    | ok u => exact h.1

/-! ## The check before the reservation -/

/-- An answer of `verify`: no live read yet, and an approval leaves the chain reserved. -/
def Checked (fuel : ℕ) (mandateJti : String) (terms : String → Option (Claims × Option String))
    (amount : ℤ) (v : Verified) (γ : Trail) : Prop :=
  γ.Is amount none ∧ (v.decision.decision = .approved →
    ∀ j ∈ chainOf terms fuel mandateJti, γ.stage j = .reserved ∧ terms j ≠ none)

theorem refuse_live (jti : Option String) (code detail : String) (hγ : γ.Is amount none) :
    Outline liveSystem (liveSpec fuel ids mandateJti terms base b) b
      (onOk (Checked fuel mandateJti terms amount)) (refuse jti code detail) γ := by
  refine quiet_bind (Prog.calls_perform rfl) fun _ => ⟨hγ, fun h => ?_⟩
  exact absurd h (by simp [Decision.reject])

theorem verifyGate_live (K : Deps) (ports : String → Option Port) (hbase : ∀ m, 0 ≤ base m)
    (claims : Claims) (row : MandateRow) (intent : Intent) (signature : String) (now : ℤ)
    (hjti : claims.jti = mandateJti) (hγ : γ.Is intent.amount none) (hst : ∀ m, γ.stage m = .none) :
    Outline liveSystem (liveSpec fuel ids mandateJti terms base b) b
      (onOk (Checked fuel mandateJti terms intent.amount))
      (verifyGate K ports fuel ids claims row intent signature now true) γ := by
  simp only [verifyGate]
  cases ports intent.merchantId with
  | none => exact refuse_live _ _ _ hγ
  | some port =>
    refine quiet_bind (Prog.calls_perform rfl) fun offer => ?_
    cases offer with
    | none => exact refuse_live _ _ _ hγ
    | some offer =>
      dsimp only
      split_ifs with hprice hstop
      · exact refuse_live _ _ _ hγ
      · refine quiet_bind (Prog.calls_perform rfl) fun _ => ⟨hγ, fun h => ?_⟩
        rcases hstop with hno | hno
        · exact absurd h hno
        · exact absurd hno (by decide)
      · refine outline_bind_ok (reserveChain_live hbase claims.jti γ hγ hst) fun won γ' h => ?_
        obtain ⟨hγ', hwon⟩ := h
        cases won with
        | false => exact refuse_live _ _ _ hγ'
        | true =>
          refine quiet_bind (Prog.calls_perform rfl) fun _ => ?_
          refine quiet_bind (Prog.calls_perform rfl) fun _ => ?_
          exact ⟨hγ', fun _ => hjti ▸ hwon rfl⟩

theorem verify_live (K : Deps) (ports : String → Option Port) (hbase : ∀ m, 0 ≤ base m)
    (token : String) (intent : Intent) (signature : String) (hjti : intent.mandateJti = mandateJti)
    (hγ : γ.Is intent.amount none) (hst : ∀ m, γ.stage m = .none) :
    Outline liveSystem (liveSpec fuel ids mandateJti terms base b) b
      (onOk (Checked fuel mandateJti terms intent.amount))
      (verify K ports fuel ids token intent signature true) γ := by
  have hrule : VerifyRule fun p : Py Verified => Outline liveSystem
      (liveSpec fuel ids mandateJti terms base b) b
      (onOk (Checked fuel mandateJti terms intent.amount)) p γ :=
    { raise := fun _ => trivial
      refuse := fun _ _ _ => refuse_live _ _ _ hγ
      read := fun c _ hc hf => quiet_bind (Prog.calls_perform (by
        cases c <;> first | rfl | exact Bool.noConfusion hc)) hf
      expire := fun _ _ hp => quiet_bind (Prog.calls_perform rfl) fun _ => hp }
  exact verify_rule hrule fun claims row now _ hname =>
    verifyGate_live K ports hbase claims row intent signature now (hname.symm.trans hjti) hγ hst

/-! ## The last check and the capture -/

/-- The last check and the port keep the stages and the amount. -/
structure Settling (γ γ' : Trail) : Prop where
  stage : γ'.stage = γ.stage
  amount : γ'.amount = γ.amount

/-- The last check: an approval passed it. -/
theorem liveState_live (rid : Option String) (hγ : γ.live = none) :
    Outline liveSystem (liveSpec fuel ids mandateJti terms base b) b
      (fun r γ' => Settling γ γ' ∧
        ∀ live, r = .ok live → live.approved = true → Passed fuel mandateJti γ')
      (liveState mandateJti rid) γ := by
  refine outline_bind (Q := fun r γ' => Settling γ γ' ∧
    (r = .ok (some .active) → Passed fuel mandateJti γ'))
    (live_call (fun db e hI hok => ?_) fun x => ⟨⟨rfl, rfl⟩, fun h => by cases h⟩) ?_ ?_
  · refine ⟨⟨hI.terms, hI.reserved, fun hcap => ?_⟩, ⟨rfl, rfl⟩, fun h => ?_⟩
    · -- nothing is captured before the last check
      obtain ⟨seen, hseen, -⟩ := hI.paid hcap
      rw [hγ] at hseen
      cases hseen
    · exact ⟨db, rfl, hok mandateJti rfl (Except.ok.inj h)⟩
  · rintro status γ' ⟨hs, hpass⟩
    rcases status with _ | (_ | _ | _ | _ | _ | _)
    case some.active => exact ⟨hs, fun _ _ _ => hpass rfl⟩
    all_goals
      refine ⟨hs, ?_⟩
      rintro live ⟨rfl⟩ h
      cases h
  · exact fun x γ' h => ⟨h.1, fun _ hl => by cases hl⟩

/-- The calls by which a port moves money, and the quiet ones. -/
def Call.pays : Call → Bool
  | .insertCapture _ _ => true
  | .placeOrder _ => true
  | c => c.quiet

theorem pays_cases {c : Call} (hc : c.pays = true) :
    c.quiet = true ∨ (∃ id cap, c = .insertCapture id cap) ∨ ∃ body, c = .placeOrder body := by
  cases c with
  | insertCapture id cap => exact Or.inr (Or.inl ⟨id, cap, rfl⟩)
  | placeOrder body => exact Or.inr (Or.inr ⟨body, rfl⟩)
  | _ => exact Or.inl hc

/-- Once the last check passed, the port's calls keep the invariant. -/
theorem live_pays {α : Type} {p : Py α} (hp : p.Calls fun c => c.pays = true)
    (hγ : Passed fuel mandateJti γ) :
    Outline liveSystem (liveSpec fuel ids mandateJti terms base b) b (fun _ γ' => γ' = γ) p γ := by
  refine outline_calls (fun g db e c hc hγ' hI _ => ?_) hp rfl
  simp only [liveSystem, liveSpec, Function.update_self]
  rw [hγ']
  replace hI : LiveInv fuel ids mandateJti terms base γ db := hγ' ▸ hI
  have hadv : γ.advance db c (sem e c db).1 = γ := by
    obtain hq | ⟨id, cap, rfl⟩ | ⟨body, rfl⟩ := pays_cases hc
    · exact advance_quiet hq γ db _
    · rfl
    · rfl
  refine ⟨?_, trivial, hadv⟩
  rw [hadv]
  cases hf : e.fail with
  | some x =>
    simp only [sem, hf]
    exact hI
  | none =>
    simp only [sem, hf]
    obtain hq | ⟨id, cap, rfl⟩ | ⟨body, rfl⟩ := pays_cases hc
    · exact hI.frame (sameHold_of_quiet ids hq e db)
    · simp only [exec]
      split
      · exact hI
      · exact ⟨hI.terms, hI.reserved, fun _ => hγ⟩
    · exact ⟨hI.terms, hI.reserved, fun _ => hγ⟩

/-- How a port's `settle` leaves the trail: it accepts only what passed the last check. -/
def PortLeft (fuel : ℕ) (mandateJti : String) (γ : Trail) (r : Except PyErr SettleResult)
    (γ' : Trail) : Prop :=
  Settling γ γ' ∧ ∀ receipt, r = .ok (.accepted receipt) → Passed fuel mandateJti γ'

theorem portLeft_refused {γ' : Trail} (h : Settling γ γ') (code : Option String) (detail : String) :
    PortLeft fuel mandateJti γ (.ok (.refused code detail)) γ' :=
  ⟨h, fun receipt hr => by cases hr⟩

theorem portLeft_raised {γ' : Trail} (h : Settling γ γ') (x : PyErr) :
    PortLeft fuel mandateJti γ (.error x) γ' :=
  ⟨h, fun receipt hr => by cases hr⟩

theorem settling_refl (γ : Trail) : Settling γ γ := ⟨rfl, rfl⟩

/-- The last check, and what a port does with its answer. -/
theorem lastCheck_live {rid : Option String} (hγ : γ.live = none) {code : Live → Option String}
    {detail : String} {p : Py SettleResult} (hp : ∀ γ', Settling γ γ' →
      Passed fuel mandateJti γ' → Outline liveSystem (liveSpec fuel ids mandateJti terms base b) b
        (PortLeft fuel mandateJti γ) p γ') :
    Outline liveSystem (liveSpec fuel ids mandateJti terms base b) b (PortLeft fuel mandateJti γ)
      ((liveState mandateJti rid).bind fun live =>
        if (!live.approved) = true then pure (.refused (code live) detail) else p) γ := by
  refine outline_bind (liveState_live rid hγ) (fun live γ' h => ?_) fun x γ' h => portLeft_raised h.1 x
  obtain ⟨hs, hpass⟩ := h
  split_ifs with hlive
  · exact portLeft_refused hs _ _
  · exact hp γ' hs (hpass live rfl (by simpa using hlive))

theorem localSettle_live (K : Deps) (token : String) (intent : Intent) (signature : String)
    (rid : Option String) (hγ : γ.live = none) :
    Outline liveSystem (liveSpec fuel ids mandateJti terms base b) b (PortLeft fuel mandateJti γ)
      (localSettle K ids token intent signature (liveState mandateJti rid)) γ := by
  refine outline_tryCatch (Q := PortLeft fuel mandateJti γ) ?_ (fun _ _ h => h) fun x γ' h => ?_
  swap
  · cases x with
    | rail code m => exact portLeft_refused h.1 _ _
    | _ => exact portLeft_raised h.1 _
  simp only [checkoutCharge]
  rcases K.verifyToken token with (_ | _ | _ | _) | claims
  case error.badSignature => exact portLeft_refused (settling_refl γ) _ _
  case ok =>
    dsimp only
    rcases K.verifyDetached signature intent claims with (_ | _ | _ | _) | ⟨⟩
    case error.badSignature => exact portLeft_refused (settling_refl γ) _ _
    case ok =>
      refine outline_bind (live_quiet (Prog.calls_perform rfl)) ?_ ?_
      swap
      · rintro x _ rfl
        exact portLeft_raised (settling_refl _) x
      rintro offer _ rfl
      cases offer with
      | none => exact portLeft_refused (settling_refl _) _ _
      | some offer =>
        dsimp only
        by_cases hprice : intent.amount ≠ offer.price
        · rw [if_pos hprice]
          exact portLeft_refused (settling_refl _) _ _
        rw [if_neg hprice]
        refine lastCheck_live hγ fun γ₁ hs hpass => ?_
        refine outline_mono (fun r γ₂ h => ?_) (live_pays (γ := γ₁) (Prog.calls_bind
          (capture_calls rfl (fun _ => rfl) (fun _ => rfl)) fun _ => Prog.calls_bind
            (Prog.calls_perform rfl) fun _ => trivial) hpass)
        exact ⟨h ▸ hs, fun _ _ => h ▸ hpass⟩
    all_goals exact portLeft_raised (settling_refl γ) _
  all_goals exact portLeft_raised (settling_refl γ) _

theorem rappiSettle_live (K : Deps) (offer : Offer) (claims : Claims) (intent : Intent)
    (rid : Option String) (hγ : γ.live = none) :
    Outline liveSystem (liveSpec fuel ids mandateJti terms base b) b (PortLeft fuel mandateJti γ)
      (rappiSettle K offer claims intent (liveState mandateJti rid)
        (some fun amount cartHash => call (.mintToken intent.jti rid amount cartHash))) γ := by
  refine lastCheck_live hγ fun γ₁ hs hpass => ?_
  refine outline_mono (fun r γ₂ h => ?_) (live_pays (γ := γ₁) ?_ hpass)
  · exact ⟨h ▸ hs, fun _ _ => h ▸ hpass⟩
  · split_ifs
    · trivial
    refine Prog.calls_bind (Prog.calls_perform rfl) fun _ => ?_
    refine Prog.calls_bind (Prog.calls_perform rfl) fun q => ?_
    split_ifs
    · trivial
    refine Prog.calls_bind (Prog.calls_attempt (Prog.calls_bind (Prog.calls_perform rfl) fun _ =>
      Prog.calls_perform rfl)) fun answer => ?_
    cases answer with
    | error x =>
      simp only [rappiFinish]
      trivial
    | ok receipt =>
      simp only [rappiFinish]
      split_ifs
      · trivial
      · exact Prog.calls_bind (Prog.calls_perform rfl) fun _ => trivial

/-! ## The end of the saga -/

/-- How the purchase ends: what the last check should have stopped is not captured, and released on
the whole chain. -/
def Ended (fuel : ℕ) (mandateJti : String) (terms : String → Option (Claims × Option String))
    (o : Outcome) (γ : Trail) : Prop :=
  ∀ seen ∈ γ.live, ¬ AllActive fuel mandateJti seen → (∀ id receipt, o ≠ .captured id receipt) ∧
    ∀ j ∈ chainOf terms fuel mandateJti, γ.stage j = .released ∧ terms j ≠ none

theorem ended_of_none {o : Outcome} (hγ : γ.live = none) : Ended fuel mandateJti terms o γ := by
  intro seen hseen
  rw [hγ] at hseen
  cases hseen

theorem ended_of_passed {o : Outcome} (hγ : Passed fuel mandateJti γ) :
    Ended fuel mandateJti terms o γ := by
  obtain ⟨seen, hseen, hall⟩ := hγ
  intro seen' hseen' hdead
  obtain rfl : seen = seen' := Option.some.inj (hseen.symm.trans hseen')
  exact absurd hall hdead

/-- The calls by which a purchase is settled. -/
def Call.books : Call → Bool
  | .updateSettled _ _ _ _ _ => true
  | .updatePurchase _ _ _ => true
  | c => c.quiet

theorem books_cases {c : Call} (hc : c.books = true) : c.quiet = true ∨
    (∃ jti r sp n st, c = .updateSettled jti r sp n st) ∨
      ∃ id st set, c = .updatePurchase id st set := by
  cases c with
  | updateSettled jti r sp n st => exact Or.inr (Or.inl ⟨jti, r, sp, n, st, rfl⟩)
  | updatePurchase id st set => exact Or.inr (Or.inr ⟨id, st, set, rfl⟩)
  | _ => exact Or.inl hc

/-- Once the last check passed, settlement keeps the invariant. -/
theorem live_books {α : Type} {p : Py α} (hp : p.Calls fun c => c.books = true)
    (hγ : Passed fuel mandateJti γ) :
    Outline liveSystem (liveSpec fuel ids mandateJti terms base b) b
      (fun _ γ' => Passed fuel mandateJti γ') p γ := by
  refine outline_calls (fun g db e c hc hpass hI _ => ?_) hp hγ
  simp only [liveSystem, liveSpec, Function.update_self]
  cases hf : e.fail with
  | some x =>
    simp only [sem, hf, trail_error]
    exact ⟨hI, trivial, hpass⟩
  | none =>
    simp only [sem, hf]
    obtain hq | ⟨jti, r, sp, n, st, rfl⟩ | ⟨id, st, set, rfl⟩ := books_cases hc
    · rw [advance_quiet hq]
      exact ⟨hI.frame (sameHold_of_quiet ids hq e db), trivial, hpass⟩
    · refine ⟨LiveInv.write hI rfl rfl (fun m hm => Function.update_of_ne hm _ _) (fun _ => rfl)
        (fun _ => rfl) fun hno => ?_, trivial, hpass⟩
      exact absurd (Function.update_self ..) hno
    · exact ⟨⟨hI.terms, hI.reserved, fun _ => hpass⟩, trivial, hpass⟩

theorem finishCharge_live (purchaseId : String) (claims : Claims) (intent : Intent)
    (receipt : Receipt) (hγ : Passed fuel mandateJti γ) :
    Outline liveSystem (liveSpec fuel ids mandateJti terms base b) b
      (onOk (Ended fuel mandateJti terms)) (finishCharge fuel purchaseId claims intent receipt) γ := by
  refine outline_mono (fun r γ' h => ?_) (live_books (Prog.calls_bind
    (settle_calls (fun _ => rfl) (fun _ => rfl) (fun _ _ _ _ _ => rfl) fuel _ _) fun _ =>
      Prog.calls_bind (Prog.calls_perform rfl) fun _ => Prog.calls_bind (Prog.calls_perform rfl)
        fun _ => Prog.calls_bind (Prog.calls_perform rfl) fun _ => trivial) hγ)
  cases r with
  | error x => trivial
  | ok o => exact ended_of_passed h

/-- The chain carries the purchase's reservation. -/
def OnChain (fuel : ℕ) (mandateJti : String) (terms : String → Option (Claims × Option String))
    (amount : ℤ) (γ : Trail) : Prop :=
  γ.amount = amount ∧ ∀ j ∈ chainOf terms fuel mandateJti, γ.stage j = .reserved ∧ terms j ≠ none

theorem compensate_live (hbase : ∀ m, 0 ≤ base m) (purchaseId : String) (claims : Claims)
    (intent : Intent) (code detail : String) (hjti : claims.jti = mandateJti)
    (hγ : OnChain fuel mandateJti terms intent.amount γ) :
    Outline liveSystem (liveSpec fuel ids mandateJti terms base b) b
      (onOk (Ended fuel mandateJti terms))
      (compensate fuel purchaseId claims intent code detail) γ := by
  refine outline_bind_ok (φ := fun _ γ' => ∀ j ∈ chainOf terms fuel mandateJti,
    γ'.stage j = .released ∧ terms j ≠ none) ?_ fun _ γ' hreleased => ?_
  · rw [hjti]
    refine outline_bind_ok (chain_live mandateJti) ?_
    rintro _ _ ⟨rfl, rfl⟩
    refine outline_mono (fun r γ' h => ?_) (unreserve_live hbase _ _
      (chainOf_nodup terms fuel mandateJti) ⟨hγ.1, rfl⟩ fun j hj => (hγ.2 j hj).1)
    cases r with
    | error x => trivial
    | ok u => exact fun j hj => ⟨(h.2 j hj).resolve_right (hγ.2 j hj).2, (hγ.2 j hj).2⟩
  · refine quiet_bind (Prog.calls_perform rfl) fun _ => ?_
    refine quiet_bind (Prog.calls_perform rfl) fun _ => ?_
    exact fun seen _ _ => ⟨fun id receipt h => (by cases h), hreleased⟩

theorem afterSettle_live (hbase : ∀ m, 0 ≤ base m) (purchaseId : String) (claims : Claims)
    (intent : Intent) (hjti : claims.jti = mandateJti) {γ₀ : Trail}
    (hγ : OnChain fuel mandateJti terms intent.amount γ₀) {r : Except PyErr SettleResult}
    (h : PortLeft fuel mandateJti γ₀ r γ) :
    Outline liveSystem (liveSpec fuel ids mandateJti terms base b) b
      (onOk (Ended fuel mandateJti terms)) (afterSettle fuel purchaseId claims intent r) γ := by
  have hchain : OnChain fuel mandateJti terms intent.amount γ :=
    ⟨h.1.amount.trans hγ.1, fun j hj => by rw [h.1.stage]; exact hγ.2 j hj⟩
  rcases r with (⟨code, m⟩ | _ | _ | _) | (receipt | ⟨code, detail⟩)
  case ok.accepted => exact finishCharge_live purchaseId claims intent receipt (h.2 receipt rfl)
  all_goals exact compensate_live hbase purchaseId claims intent _ _ hjti hchain

theorem charge_live (hbase : ∀ m, 0 ≤ base m) (K : Deps) (ports : String → Option Port)
    (purchaseId token : String) (claims : Claims) (intent : Intent) (signature : String)
    (rid : Option String) (hjti : claims.jti = mandateJti) (hlive : γ.live = none)
    (hγ : OnChain fuel mandateJti terms intent.amount γ) :
    Outline liveSystem (liveSpec fuel ids mandateJti terms base b) b
      (onOk (Ended fuel mandateJti terms))
      (charge K ports fuel ids purchaseId token claims intent signature rid) γ := by
  refine quiet_bind (Prog.calls_perform rfl) fun _ => ?_
  cases ports intent.merchantId with
  | none => trivial
  | some port =>
    refine quiet_bind (Prog.calls_perform rfl) fun found => ?_
    have hport : Outline liveSystem (liveSpec fuel ids mandateJti terms base b) b
        (PortLeft fuel mandateJti γ) (portSettle K ids port
          ((found : Option Offer).getD (unknownOffer intent.offerId)) claims token intent signature rid)
        γ := by
      subst hjti
      cases port with
      | mock => exact localSettle_live K token intent signature rid hlive
      | rappiBridge => exact rappiSettle_live K _ claims intent rid hlive
    refine outline_bind (outline_attempt hport) ?_ fun _ _ _ => trivial
    rintro r γ' ⟨_, ⟨rfl⟩, h⟩
    exact afterSettle_live hbase purchaseId claims intent hjti hγ h

theorem afterVerify_live (hbase : ∀ m, 0 ≤ base m) (K : Deps) (ports : String → Option Port)
    (token : String) (claims : Claims) (intent : Intent) (signature : String) (v : Verified)
    (hjti : claims.jti = mandateJti) (hγ : Checked fuel mandateJti terms intent.amount v γ) :
    Outline liveSystem (liveSpec fuel ids mandateJti terms base b) b
      (onOk (Ended fuel mandateJti terms))
      (afterVerify K ports fuel ids token claims intent signature v) γ := by
  unfold afterVerify
  cases hd : v.decision.decision with
  | approved =>
    exact charge_live hbase K ports ids.purchaseId token claims intent signature v.reservationId hjti
      hγ.1.2 ⟨hγ.1.1, hγ.2 hd⟩
  | rejected =>
    refine quiet_bind (Prog.calls_perform rfl) fun _ => ?_
    exact quiet_bind (Prog.calls_perform rfl) fun _ => ended_of_none hγ.1.2
  | escalated =>
    refine quiet_bind (Prog.calls_perform rfl) fun _ => ?_
    exact quiet_bind (Prog.calls_perform rfl) fun _ => ended_of_none hγ.1.2

theorem submitPurchase_live (hbase : ∀ m, 0 ≤ base m)
    (hkeyed : ∀ m, ∀ t ∈ terms m, t.1.jti = m) (K : Deps) (ports : String → Option Port)
    (offerId merchantId : String) :
    Outline liveSystem (liveSpec fuel ids mandateJti terms base b) b
      (onOk (Ended fuel mandateJti terms))
      (submitPurchase K ports fuel ids offerId mandateJti merchantId) .start := by
  refine outline_bind_ok (φ := fun r γ' => γ' = Trail.start ∧
    ∀ row, r = some row → row.claims.jti = mandateJti)
    (live_call (fun db e hI _ => ?_) fun _ => trivial) ?_
  · refine ⟨hI.frame (sameHold_of_quiet ids rfl e db), rfl, fun row hrow => ?_⟩
    refine hkeyed mandateJti (row.claims, row.parentJti) ?_
    rw [← hI.terms, Db.terms, hrow]
    rfl
  rintro (_ | row) _ ⟨rfl, hjti⟩
  · trivial
  dsimp only
  cases ports merchantId with
  | none => exact ended_of_none rfl
  | some port =>
    refine quiet_bind (Prog.calls_perform rfl) fun found => ?_
    cases found with
    | none => exact ended_of_none rfl
    | some offer =>
      refine quiet_bind (Prog.calls_perform rfl) fun issued => ?_
      set intent := buildIntent ids mandateJti row.claims.agent offer issued with hintent
      refine outline_bind_ok (φ := fun _ γ' => γ' = { Trail.start with amount := intent.amount })
        (live_call (fun db e hI _ => ?_) fun _ => trivial) ?_
      · simp only [exec]
        split
        · exact ⟨hI, trivial⟩
        · -- the row inserted is pending
          refine ⟨⟨hI.terms, fun m _ row hrow => ?_, fun hcap => ?_⟩, rfl⟩
          · have hres := hI.reserved m (by simp [Trail.start]) row hrow
            simpa [Trail.start, Trail.advance] using hres
          · have hbefore : IsCaptured ids db := by
              rcases hcap with hheld | ⟨row, hrow, hcap⟩
              · exact Or.inl hheld
              · simp only [if_true] at hrow
                obtain rfl := Option.some.inj hrow
                cases hcap
            obtain ⟨seen, hseen, -⟩ := hI.paid hbefore
            cases hseen
      rintro _ _ rfl
      refine quiet_bind (Prog.calls_perform rfl) fun _ => ?_
      refine outline_bind_ok (verify_live K ports hbase row.token intent _ rfl ⟨rfl, rfl⟩
        fun _ => rfl) fun v γ' hv => ?_
      exact afterVerify_live hbase K ports row.token row.claims intent _ v (hjti row rfl) hv

end Pool

/-! ## Runs -/

/-- The calls of a revocation. -/
theorem revocation_calls {φ : Call → Prop} (hr : ∀ j, φ (.updateRevoked j))
    (hc : ∀ j, φ (.selectClaims j)) (hd : ∀ ref, φ (.deleteInstrument ref))
    (ha : ∀ ev, φ (.auditAppend ev)) (ht : ∀ j target sources, φ (.updateTransition j target sources))
    (hs : ∀ j, φ (.selectStatus j)) (w : Revocation) : w.prog.Calls φ := by
  cases w with
  | revoke jti =>
    refine Prog.calls_bind (Prog.calls_bind (Prog.calls_perform (hr _)) fun _ => ?_) fun _ => trivial
    refine Prog.calls_bind (Prog.calls_perform (hc _)) fun claims => ?_
    dsimp only
    split_ifs
    · refine Prog.calls_bind (Prog.calls_pure false) fun _ => ?_
      exact Prog.calls_bind (Prog.calls_perform (ha _)) fun _ => trivial
    · refine Prog.calls_bind (Prog.calls_perform (hd _)) fun _ => ?_
      exact Prog.calls_bind (Prog.calls_perform (ha _)) fun _ => trivial
  | transition jti target =>
    refine Prog.calls_bind ?_ fun _ => trivial
    have hrefuse : (refuseTransition jti target).Calls φ :=
      Prog.calls_bind (Prog.calls_perform (hs _)) fun _ => trivial
    simp only [transition]
    split_ifs
    · exact hrefuse
    · refine Prog.calls_bind (Prog.calls_perform (ht _ _ _)) fun moved => ?_
      cases moved with
      | false => exact hrefuse
      | true => trivial

theorem revocation_quiet (w : Revocation) : w.prog.Calls fun c => c.quiet = true :=
  revocation_calls (fun _ => rfl) (fun _ => rfl) (fun _ => rfl) (fun _ => rfl) (fun _ _ _ => rfl)
    (fun _ => rfl) w

section Runs

variable {ι : Type} [DecidableEq ι] (b : ι) (K : Deps) (ports : String → Option Port) (fuel : ℕ)
  (ids : FreshIds) (offerId mandateJti merchantId : String)

/-- The purchase `b` and the revocations, before their first call. -/
def liveStart (w : ι → Revocation) (db : Db) :
    Config ι Call Res PyErr (Option Outcome) Db Trail where
  shared := db
  prog i := if i = b then do
      let outcome ← submitPurchase K ports fuel ids offerId mandateJti merchantId
      pure (some outcome)
    else (w i).prog
  hist _ := .start

/-- **Revoke before capture**: a purchase whose last check saw an inactive mandate on its chain is
not captured, and when it ends its reservation is given back on the whole chain, in every run whose
live reads that find the mandate active find its ancestors active. -/
theorem revoked_not_captured (w : ι → Revocation) (db : Db) (hfresh : ¬ IsCaptured ids db)
    (hkeyed : ∀ m, ∀ row ∈ db.mandates m, row.claims.jti = m)
    (hpos : ∀ m, ∀ row ∈ db.mandates m, 0 ≤ row.reservedAmount) (xs : List (ι × Env))
    (hok : liveSystem.Along (fun c i _ => ∀ op ∈ (c.prog i).next, LiveTells fuel c.shared op)
      (liveStart b K ports fuel ids offerId mandateJti merchantId w db) xs)
    (hdead : ∃ seen ∈ ((liveSystem.run (liveStart b K ports fuel ids offerId mandateJti merchantId
      w db) xs).hist b).live, ¬ AllActive fuel mandateJti seen) :
    ¬ IsCaptured ids (liveSystem.run (liveStart b K ports fuel ids offerId mandateJti merchantId
        w db) xs).shared ∧
      ∀ o, (liveSystem.run (liveStart b K ports fuel ids offerId mandateJti merchantId
          w db) xs).prog b = .ret (some o) →
        (∀ id receipt, o ≠ .captured id receipt) ∧ ∀ j ∈ db.chainOf fuel mandateJti,
          ∃ row₀ ∈ db.mandates j, ∃ row ∈ (liveSystem.run (liveStart b K ports fuel ids offerId
            mandateJti merchantId w db) xs).shared.mandates j,
              row.reservedAmount = row₀.reservedAmount := by
  set base : String → ℤ := fun m => ((db.mandates m).map (·.reservedAmount)).getD 0 with hbase
  have hbase0 : ∀ m, 0 ≤ base m := by
    intro m
    rw [hbase]
    cases hrow : db.mandates m with
    | none => simp [hrow]
    | some row => simpa [hrow] using hpos m row hrow
  have hstart : Outlined liveSystem (liveSpec fuel ids mandateJti db.terms base b)
      (fun i r γ => i = b → ∀ o, r = .ok (some o) → Ended fuel mandateJti db.terms o γ)
      (liveStart b K ports fuel ids offerId mandateJti merchantId w db) := by
    refine ⟨⟨rfl, fun m _ row hrow => ?_, fun hcap => absurd hcap hfresh⟩, fun i => ?_⟩
    · replace hrow : db.mandates m = some row := hrow
      simp [liveStart, Trail.start, hbase, hrow]
    · by_cases hi : i = b
      · subst hi
        simp only [liveStart, if_true]
        refine outline_mono (fun r γ h _ o hr => ?_) (outline_bind_ok
          (submitPurchase_live hbase0 (fun m t ht => ?_) K ports offerId merchantId)
          (ψ := fun o γ => ∃ o', o = some o' ∧ Ended fuel mandateJti db.terms o' γ)
          fun o γ h => ⟨o, rfl, h⟩)
        · subst hr
          obtain ⟨o', ho, h⟩ := h
          exact Option.some.inj ho ▸ h
        · obtain ⟨row, hrow, rfl⟩ := Option.map_eq_some_iff.1 ht
          exact hkeyed m row hrow
      · simp only [liveStart, if_neg hi]
        exact outline_mono (fun r γ _ h => absurd h hi) (live_other hi (revocation_quiet (w i)))
  obtain ⟨hinv, hout⟩ := (outline_run hstart hok).2
  obtain ⟨seen, hseen, hdead⟩ := hdead
  refine ⟨fun hcap => ?_, fun o hend => ?_⟩
  · obtain ⟨seen', hseen', hall⟩ := hinv.paid hcap
    exact hdead (Option.some.inj (hseen'.symm.trans hseen) ▸ hall)
  · have hended := hout b
    rw [hend] at hended
    obtain ⟨hno, hreleased⟩ := hended rfl o rfl seen hseen hdead
    refine ⟨hno, fun j hj => ?_⟩
    obtain ⟨hst, hterms⟩ := hreleased j hj
    -- the row is still there, with the reservation it had before the purchase
    obtain ⟨row₀, hrow₀⟩ : ∃ row₀, db.mandates j = some row₀ :=
      Option.ne_none_iff_exists'.1 fun h => hterms (by rw [Db.terms, h]; rfl)
    have hrow := congrFun hinv.terms j
    rw [Db.terms, Db.terms, hrow₀] at hrow
    obtain ⟨row, hrow, -⟩ := Option.map_eq_some_iff.1 hrow
    refine ⟨row₀, hrow₀, row, hrow, ?_⟩
    have hres := hinv.reserved j (by rw [hst]; decide) row hrow
    rw [hst, if_neg (by decide)] at hres
    simpa [hbase, hrow₀] using hres

end Runs

/-! ### A mandate derived from another -/

/-- The claims of a mandate of 100.00. -/
def familyClaims (jti : String) : Claims :=
  ⟨jti, "agt", "ppt", "USD", [], [], .null, ⟨10000, 10000, none⟩, 0, 100⟩

/-- The mandate `mdt`, derived from `par`. -/
def familyDb : Db where
  mandates j :=
    if j = "mdt" then some
      { status := .active, claims := familyClaims "mdt", token := "", reservedAmount := 0
        spentTotal := 0, txnCount := 0, parentJti := some "par" }
    else if j = "par" then some
      { status := .active, claims := familyClaims "par", token := "", reservedAmount := 0
        spentTotal := 0, txnCount := 0, parentJti := none }
    else none
  instruments _ := some .active
  captures _ := none
  intents := []
  purchases _ := none
  audit := []
  escalations := []
  bridgeOrders := []

theorem family_row (m : String) (row : MandateRow) (hrow : row ∈ familyDb.mandates m) :
    row.claims.jti = m ∧ 0 ≤ row.reservedAmount := by
  simp only [familyDb] at hrow
  split_ifs at hrow with hmdt hpar
  · cases hrow
    exact ⟨hmdt.symm, le_refl _⟩
  · cases hrow
    exact ⟨hpar.symm, le_refl _⟩
  · cases hrow

/-- Signatures that verify. -/
def familyDeps : Deps where
  verifyToken _ := .ok (familyClaims "mdt")
  verifyDetached _ _ _ := .ok ()
  signDetached _ _ := ""
  evaluate _ _ _ := .ok true
  describe _ := ""
  bridgeMessage _ := ""

/-- The ids of the purchase. -/
def familyIds : FreshIds := ⟨"pur", "pit", "nonce", "res", "cap", "rct", "esc"⟩

/-- The purchase under `mdt` is process 0; process 1 revokes `jti`. -/
def familyStart (jti : String) : Config (Fin 2) Call Res PyErr (Option Outcome) Db Trail :=
  liveStart 0 familyDeps (fun _ => some .mock) 3 familyIds "off" "mdt" merchantId
    (fun _ => .revoke jti) familyDb

/-- The purchase runs up to its last check, the revocation is written, and the purchase goes on. -/
def revokedBetween (after : ℕ) : List (Fin 2 × Env) :=
  (List.replicate 23 (0 : Fin 2) ++ [1] ++ List.replicate after 0).map fun i =>
    (i, { Env.quiet with
      offer := some ⟨"off", merchantId, "flights", "flight", 3000, "USD", none⟩ })

theorem revoked_not_captured_family :
    ¬ IsCaptured familyIds (liveSystem.run (familyStart "mdt") (revokedBetween 9)).shared ∧
      ∀ o, (liveSystem.run (familyStart "mdt") (revokedBetween 9)).prog 0 = .ret (some o) →
        (∀ id receipt, o ≠ .captured id receipt) ∧ ∀ j ∈ familyDb.chainOf 3 "mdt",
          ∃ row₀ ∈ familyDb.mandates j, ∃ row ∈ (liveSystem.run (familyStart "mdt")
            (revokedBetween 9)).shared.mandates j, row.reservedAmount = row₀.reservedAmount :=
  revoked_not_captured 0 familyDeps (fun _ => some .mock) 3 familyIds "off" "mdt" merchantId
    (fun _ => .revoke "mdt") familyDb
    (by rintro (h | ⟨row, hrow, -⟩)
        · rcases h with h | ⟨o, ho, -⟩
          · exact absurd h (by decide)
          · cases ho
        · cases hrow)
    (fun m row hrow => (family_row m row hrow).1) (fun m row hrow => (family_row m row hrow).2)
    _ (by decide) (by decide)

/-- **A revoked parent**: the parent is revoked before the last check, which reads the mandate
only, and the purchase is captured. -/
theorem revoked_parent_captured : ¬ ∀ xs : List (Fin 2 × Env),
    (∃ seen ∈ ((liveSystem.run (familyStart "par") xs).hist 0).live, ¬ AllActive 3 "mdt" seen) →
      ¬ IsCaptured familyIds (liveSystem.run (familyStart "par") xs).shared := by
  intro h
  exact h (revokedBetween 4) (by decide) (Or.inl (Or.inl (by decide)))

end TryTrust.Agent
