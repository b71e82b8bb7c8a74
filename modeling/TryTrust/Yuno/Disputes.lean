import TryTrust.Compare
import TryTrust.Conc.Cell
import TryTrust.Conc.Transaction
import TryTrust.Yuno.Settlement

/-!
# Concurrent adjudications

`open_dispute` and `adjudicate`, each call one transaction, and any number of them at once. The
status is read into the session, and the verdict is written back by the key alone.

* `DisputeRow`, `findings`, `outcomeOf`; `Supported`, **`outcomeOf_seller`**: when the seller wins;
* `Docket`, `Call`, `exec`, `sem`: the statements; a statement that waits for a lock in vain raises;
* `openDispute`, `adjudicate`, `answer`; `Work`, `disputeSystem`;
* `DisputeOk`, `DocketInv`; `DocketInv.read`, `.insert`, `.write`, `.commit`, `.rollback`;
* `Accounted`, `Final`; **`resolved_once`**: every change of a dispute is its opening or the end of
  one call by that call's evidence, and there is one such end as long as each `UPDATE` finds the
  dispute open; **`overturned`**.
-/

namespace TryTrust.Yuno.Disputes

open Conc

/-! ## Verdicts -/

/-- `status`: `open` or `resolved`. -/
inductive DisputeStatus where
  | pending
  | resolved
  deriving DecidableEq, Repr

/-- `BUYER_FAVOR`, `SELLER_FAVOR`. -/
inductive Outcome where
  | buyerFavor
  | sellerFavor
  deriving DecidableEq, Repr

/-- `DisputeRow`. -/
structure DisputeRow where
  disputeId : String
  paymentId : String
  reason : String
  status : DisputeStatus := .pending
  outcome : Option Outcome := none
  evidence : Option Fields := none
  resolvedAt : Option ℤ := none

/-- `payment.checkout_hash` of a payment that has one. -/
def boundHash (payment : Option PaymentRow) : Option String :=
  (payment.bind (·.checkoutHash)).filter (· ≠ "")

/-- The finding on the cart. -/
def cartFindings (payment : Option PaymentRow) (evidence : Fields) : List String :=
  match boundHash payment with
  | some h =>
    if (evidence.get "checkout_hash").pyEq (.str h) then []
    else ["the cart in evidence is not the cart that was charged"]
  | none =>
    if (evidence.get "checkout_hash").truthy then []
    else ["the merchant never committed to a cart"]

/-- The findings against the charge; each of them makes it indefensible. -/
def faults (payment : Option PaymentRow) (evidence : Fields) : List String :=
  (if (evidence.get "mandate_sd_jwt").truthy then [] else ["no signed mandate presented"]) ++
  (if (evidence.get "intent_jwt").truthy then []
    else ["no signed purchase intent presented"]) ++
  cartFindings payment evidence ++
  (if (evidence.get "escalated").truthy && !(evidence.get "approval_receipt_sig").truthy then
    ["escalated purchase with no approval receipt"] else [])

/-- `findings`. -/
def findings (payment : Option PaymentRow) (evidence : Fields) : List String :=
  if faults payment evidence = [] then ["mandate, intent and cart form an unbroken chain"]
  else faults payment evidence

/-- The outcome: the seller's when the charge is defensible. -/
def outcomeOf (payment : Option PaymentRow) (evidence : Fields) : Outcome :=
  if faults payment evidence = [] then .sellerFavor else .buyerFavor

/-- `{**evidence, "findings": findings}`. -/
def withFindings (payment : Option PaymentRow) (evidence : Fields) : Fields :=
  evidence.set "findings" (.arr ((findings payment evidence).map Json.str))

/-- A dispute with its verdict. -/
def DisputeRow.decided (r : DisputeRow) (outcome : Outcome) (evidence : Fields) (t : ℤ) :
    DisputeRow :=
  { r with
    status := .resolved
    outcome := some outcome
    evidence := some evidence
    resolvedAt := some t }

/-- The evidence that a charge needs: a mandate, an intent, the cart that was charged, or one of the
merchant's when none was bound, and the receipt of an escalated purchase. -/
structure Supported (payment : Option PaymentRow) (evidence : Fields) : Prop where
  mandate : (evidence.get "mandate_sd_jwt").truthy = true
  intent : (evidence.get "intent_jwt").truthy = true
  cart : ∀ h, boundHash payment = some h → evidence.get "checkout_hash" = .str h
  committed : boundHash payment = none → (evidence.get "checkout_hash").truthy = true
  receipt : (evidence.get "escalated").truthy = true →
    (evidence.get "approval_receipt_sig").truthy = true

theorem pyEq_str {v : Json} {h : String} : v.pyEq (.str h) = true ↔ v = .str h := by
  cases v with
  | str s => simp [Json.pyEq]
  | _ => simp [Json.pyEq, Json.numbersAre, Json.number]

/-- **The seller wins** exactly with all of the evidence. -/
theorem outcomeOf_seller {payment : Option PaymentRow} {evidence : Fields} :
    outcomeOf payment evidence = .sellerFavor ↔ Supported payment evidence := by
  have hfaults : outcomeOf payment evidence = .sellerFavor ↔ faults payment evidence = [] := by
    unfold outcomeOf
    split_ifs with h <;> simp [h]
  have hcart : cartFindings payment evidence = [] ↔
      (∀ h, boundHash payment = some h → evidence.get "checkout_hash" = .str h) ∧
        (boundHash payment = none → (evidence.get "checkout_hash").truthy = true) := by
    unfold cartFindings
    cases boundHash payment with
    | none => simp
    | some h => simp [pyEq_str]
  rw [hfaults, faults, List.append_eq_nil_iff, List.append_eq_nil_iff, List.append_eq_nil_iff, hcart]
  constructor
  · rintro ⟨⟨⟨hmandate, hintent⟩, hbound, hown⟩, hreceipt⟩
    exact ⟨by simpa using hmandate, by simpa using hintent, hbound, hown, by simpa using hreceipt⟩
  · intro h
    refine ⟨⟨⟨by simp [h.mandate], by simp [h.intent]⟩, h.cart, h.committed⟩, ?_⟩
    cases hescalated : (evidence.get "escalated").truthy with
    | false => simp
    | true => simp [h.receipt hescalated]

/-! ## Statements -/

/-- The rows of `yuno_disputes`, and those of `yuno_payments`, which nothing changes here. -/
structure Docket (ι : Type) where
  disputes : String → Cell ι (Option DisputeRow)
  payments : String → Option PaymentRow

/-- A call of a session. -/
inductive Call (ι : Type) where
  /-- `session.get`. -/
  | getDispute (i : ι) (disputeId : String)
  | getPayment (i : ι) (paymentId : String)
  /-- `ids.new_id`. -/
  | newId (i : ι)
  /-- `datetime.now(UTC)`. -/
  | now (i : ι)
  /-- The flush of a new row. -/
  | insertDispute (i : ι) (row : DisputeRow)
  /-- The flush of a verdict: an `UPDATE` by the key. -/
  | updateDispute (i : ι) (disputeId : String) (outcome : Outcome) (evidence : Fields)
      (resolvedAt : ℤ)
  | commit (i : ι)
  | rollback (i : ι)

/-- The answer of a call. -/
def Res {ι : Type} : Call ι → Type
  | .getDispute .. => Option DisputeRow
  | .getPayment .. => Option PaymentRow
  | .newId _ => String
  | .now _ => ℤ
  | _ => Unit

/-- The exceptions. -/
inductive Err where
  /-- `DisputeError`. -/
  | dispute (message : String)
  /-- `IntegrityError`. -/
  | integrity
  /-- Any other exception. -/
  | failure (message : String)
  deriving DecidableEq

/-- What a call meets: the exception that it raises, if any, the moment, and a new id. -/
structure Outside where
  raises : Option Err := none
  now : ℤ := 0
  disputeId : String := ""

/-- A program of a session. -/
abbrev Tx (ι α : Type) : Type := Prog (Call ι) Res Err α

section Statements

variable {ι : Type} [DecidableEq ι]

/-- Write a dispute, and hold its row. -/
def Docket.put (i : ι) (disputeId : String) (row : DisputeRow) (s : Docket ι) : Docket ι :=
  { s with
    disputes := Function.update s.disputes disputeId
      ((s.disputes disputeId).write i (some row)) }

/-- What a call does when it does not raise by the environment's choice. -/
def exec (e : Outside) : (op : Call ι) → Docket ι → Except Err (Res op) × Docket ι
  | .getDispute i id, s => (.ok ((s.disputes id).seen i), s)
  | .getPayment _ id, s => (.ok (s.payments id), s)
  | .newId _, s => (.ok e.disputeId, s)
  | .now _, s => (.ok e.now, s)
  | .insertDispute i row, s =>
    if ¬ (s.disputes row.disputeId).Free i then (.error (.failure "lock timeout"), s)
    else if ((s.disputes row.disputeId).seen i).isSome then (.error .integrity, s)
    else (.ok (), s.put i row.disputeId row)
  | .updateDispute i id outcome evidence t, s =>
    match (s.disputes id).seen i with
    | none => (.error (.failure "StaleDataError"), s)
    | some row =>
      if (s.disputes id).Free i then (.ok (), s.put i id (row.decided outcome evidence t))
      else (.error (.failure "lock timeout"), s)
  | .commit i, s => (.ok (), { s with disputes := fun k => (s.disputes k).commit i })
  | .rollback i, s => (.ok (), { s with disputes := fun k => (s.disputes k).rollback i })

/-- The call ends a transaction for good, whatever becomes of the connection. -/
def Call.ends : Call ι → Bool
  | .rollback _ => true
  | _ => false

/-- **One call**: it raises without an effect, or runs. -/
def sem (e : Outside) (op : Call ι) (s : Docket ι) : Except Err (Res op) × Docket ι :=
  match e.raises, op.ends with
  | some x, false => (.error x, s)
  | _, _ => exec e op s

/-- One call of a program. -/
def call (op : Call ι) : Tx ι (Res op) := Prog.perform op

/-! ## The service -/

/-- The part of `open_dispute` after the payment is read. -/
def openWith (i : ι) (paymentId reason : String) : Option PaymentRow → Tx ι DisputeRow
  | none => .raise (.dispute ("unknown payment " ++ paymentId))
  | some payment =>
    if payment.status ≠ .captured then
      .raise (.dispute "only a captured payment can be disputed")
    else do
      let disputeId : String ← call (.newId i)
      call (.insertDispute i ⟨disputeId, paymentId, reason, .pending, none, none, none⟩)
      pure ⟨disputeId, paymentId, reason, .pending, none, none, none⟩

/-- `open_dispute`. -/
def openDispute (i : ι) (paymentId reason : String) : Tx ι DisputeRow := do
  let payment : Option PaymentRow ← call (.getPayment i paymentId)
  openWith i paymentId reason payment

/-- The part of `adjudicate` after the dispute is read. -/
def adjudicateWith (i : ι) (disputeId : String) (evidence : Fields) :
    Option DisputeRow → Tx ι DisputeRow
  | none => .raise (.dispute ("unknown dispute " ++ disputeId))
  | some dispute =>
    if dispute.status ≠ .pending then .raise (.dispute "dispute already resolved")
    else do
      let payment : Option PaymentRow ← call (.getPayment i dispute.paymentId)
      let now : ℤ ← call (.now i)
      call (.updateDispute i disputeId (outcomeOf payment evidence) (withFindings payment evidence)
        now)
      pure (dispute.decided (outcomeOf payment evidence) (withFindings payment evidence) now)

/-- **`adjudicate`**. -/
def adjudicate (i : ι) (disputeId : String) (evidence : Fields) : Tx ι DisputeRow := do
  let dispute : Option DisputeRow ← call (.getDispute i disputeId)
  adjudicateWith i disputeId evidence dispute

/-- A request to the rail. -/
inductive Request where
  | openDispute (paymentId reason : String)
  | adjudicate (disputeId : String) (evidence : Fields)

/-- The body of a request. -/
def body (i : ι) : Request → Tx ι DisputeRow
  | .openDispute paymentId reason => Disputes.openDispute i paymentId reason
  | .adjudicate disputeId evidence => Disputes.adjudicate i disputeId evidence

/-- **A request**, in the transaction of `get_session`. -/
def answer (i : ι) (r : Request) : Tx ι DisputeRow :=
  Prog.transaction (call (.commit i)) (call (.rollback i)) (body i r)

end Statements

/-! ## The system -/

/-- What a request has done: the dispute that it has read; whether its open transaction has opened a
dispute, or has written a verdict; whether it has committed one. -/
structure Work where
  read : Option DisputeRow := none
  opened : Bool := false
  wrote : Bool := false
  resolved : Bool := false

/-- After a call that did not raise. -/
def Work.next (γ : Work) {ι : Type} : (op : Call ι) → Res op → Work
  | .getDispute .., (row : Option DisputeRow) => { γ with read := row }
  | .insertDispute .., _ => { γ with opened := true }
  | .updateDispute .., _ => { γ with wrote := true }
  | .commit _, _ => { γ with opened := false, wrote := false, resolved := γ.wrote || γ.resolved }
  | .rollback _, _ => { γ with opened := false, wrote := false }
  | _, _ => γ

section System

variable (ι : Type) [DecidableEq ι]

/-- The requests. -/
def disputeSystem : System ι (Call ι) Res Err (Docket ι) Work Outside where
  sem := sem
  adv _ γ _ op r := match r with
    | .ok a => γ.next op a
    | .error _ => γ

variable {ι}

/-- The configurations of the requests. -/
abbrev Sessions (ι : Type) : Type := Config ι (Call ι) Res Err DisputeRow (Docket ι) Work

/-- The start: any disputes and payments, and each request before its first statement. -/
def disputeStart (disputes : String → Option DisputeRow) (payments : String → Option PaymentRow)
    (requests : ι → Request) : Sessions ι where
  shared := ⟨fun k => ⟨disputes k, none⟩, payments⟩
  prog i := answer i (requests i)
  hist _ := {}

/-- The row that a verdict overwrites is not resolved yet. -/
def Guarded (s : Docket ι) : Call ι → Prop
  | .updateDispute i id .. => (s.disputes id).Free i →
      ∀ r ∈ (s.disputes id).seen i, r.status = .pending
  | _ => True

instance (s : Docket ι) : (op : Call ι) → Decidable (Guarded s op)
  | .updateDispute i id .. => inferInstanceAs (Decidable ((s.disputes id).Free i →
      ∀ r ∈ (s.disputes id).seen i, r.status = .pending))
  | .getDispute .. | .getPayment .. | .newId _ | .now _ => .isTrue trivial
  | .insertDispute .. | .commit _ | .rollback _ => .isTrue trivial

/-- **Still open** at a step: no other verdict on the dispute has been committed between the read of
its status and the `UPDATE`. -/
def StillOpen (c : Sessions ι) (i : ι) (_ : Outside) : Prop :=
  ∀ op ∈ (c.prog i).next, Guarded c.shared op

instance (c : Sessions ι) (i : ι) (e : Outside) : Decidable (StillOpen c i e) :=
  inferInstanceAs (Decidable (∀ op ∈ (c.prog i).next, Guarded c.shared op))

/-- The dispute that a request adjudicates, and its evidence. -/
def Request.verdict : Request → Option (String × Fields)
  | .adjudicate disputeId evidence => some (disputeId, evidence)
  | .openDispute .. => none

/-- A row becomes another by the verdict on some evidence. -/
def Verdict (payments : String → Option PaymentRow) (evidence : Fields) (r r' : DisputeRow) : Prop :=
  ∃ t, r' = r.decided (outcomeOf (payments r.paymentId) evidence)
    (withFindings (payments r.paymentId) evidence) t

/-- **Accounted for**: a step opens a dispute, or it is the end of a call to adjudicate it, which
returns, and whose evidence has the outcome; the seller wins only with all of the evidence. -/
def Accounted (payments : String → Option PaymentRow) (requests : ι → Request) (i : ι)
    (c c' : Sessions ι) (id : String) : Prop :=
  ((c.shared.disputes id).row = none ∧
    ∃ r, (c'.shared.disputes id).row = some r ∧ r.status = .pending ∧ r.outcome = none) ∨
  ∃ evidence r r', (requests i).verdict = some (id, evidence) ∧
    (c.shared.disputes id).row = some r ∧ (c'.shared.disputes id).row = some r' ∧
    Verdict payments evidence r r' ∧ (c'.prog i).result ≠ none ∧
    (r'.outcome = some .sellerFavor → Supported (payments r.paymentId) evidence)

/-- **Final**: a step leaves the resolved disputes as they are. -/
def Final (c c' : Sessions ι) : Prop := ∀ id r, (c.shared.disputes id).row = some r →
  r.status = .resolved → (c'.shared.disputes id).row = some r

end System

/-! ## The invariant -/

section Invariant

variable {ι : Type} (K : Prop) (payments : String → Option PaymentRow) (requests : ι → Request)

/-- Who holds a row has opened the dispute, or has written its verdict; where it was open, if `K`
asks for it. -/
def Holding (i : ι) (γ : Work) (id : String) (row : Option DisputeRow) (r' : DisputeRow) : Prop :=
  (row = none ∧ r'.status = .pending ∧ r'.outcome = none ∧ γ.opened = true) ∨
  ∃ evidence r, (requests i).verdict = some (id, evidence) ∧ row = some r ∧
    Verdict payments evidence r r' ∧ γ.wrote = true ∧ (K → r.status = .pending)

/-- **The row of a dispute** in the course of a run. -/
structure DisputeOk (g : ι → Work) (id : String) (c : Cell ι (Option DisputeRow)) : Prop where
  read : ∀ i r e, (g i).read = some r → (requests i).verdict = some (id, e) →
    ∃ r₀, c.row = some r₀ ∧ r₀.paymentId = r.paymentId
  held : ∀ i v, c.held = some (i, v) → ∃ r', v = some r' ∧
    Holding K payments requests i (g i) id c.row r'
  wrote : ∀ i e, (g i).wrote = true → (requests i).verdict = some (id, e) →
    c.row ≠ none ∧ ∃ v, c.held = some (i, v)
  resolved : ∀ i e, (g i).resolved = true → (requests i).verdict = some (id, e) →
    (∃ r, c.row = some r ∧ r.status = .resolved) ∧
      (K → ∀ j e', (g j).resolved = true → (requests j).verdict = some (id, e') → j = i)

/-- The invariant. -/
structure DocketInv (g : ι → Work) (s : Docket ι) : Prop where
  paid : s.payments = payments
  cells : ∀ id, DisputeOk K payments requests g id (s.disputes id)

variable {K payments requests} {g : ι → Work} {s : Docket ι} {i : ι} {γ : Work} {id : String}
  {c : Cell ι (Option DisputeRow)}

theorem DisputeOk.not_held (h : DisputeOk K payments requests g id c) (hopened : (g i).opened = false)
    (hwrote : (g i).wrote = false) (v : Option DisputeRow) : c.held ≠ some (i, v) := by
  intro hv
  obtain ⟨r', -, ⟨-, -, -, hγ⟩ | ⟨-, -, -, -, -, hγ, -⟩⟩ := h.held i v hv
  · rw [hopened] at hγ
    cases hγ
  · rw [hwrote] at hγ
    cases hγ

variable [DecidableEq ι]

/-- **A row that the request does not hold**, when it writes no verdict on it. -/
theorem DisputeOk.update (h : DisputeOk K payments requests g id c)
    (hnot : ∀ v, c.held ≠ some (i, v))
    (hread : ∀ r e, γ.read = some r → (requests i).verdict = some (id, e) →
      ∃ r₀, c.row = some r₀ ∧ r₀.paymentId = r.paymentId)
    (hwrote : γ.wrote = true → ∀ e, (requests i).verdict ≠ some (id, e))
    (hresolved : γ.resolved = (g i).resolved) :
    DisputeOk K payments requests (Function.update g i γ) id c := by
  have hresolved := update_same Work.resolved hresolved
  refine ⟨fun j r e hr he => ?_, fun j v hv => ?_, fun j e hw he => ?_, fun j e hj he => ?_⟩
  · by_cases hji : j = i
    · subst hji
      rw [Function.update_self] at hr
      exact hread r e hr he
    · rw [Function.update_of_ne hji] at hr
      exact h.read j r e hr he
  · have hji : j ≠ i := by
      rintro rfl
      exact hnot v hv
    rw [Function.update_of_ne hji]
    exact h.held j v hv
  · have hji : j ≠ i := by
      rintro rfl
      rw [Function.update_self] at hw
      exact hwrote hw e he
    rw [Function.update_of_ne hji] at hw
    exact h.wrote j e hw he
  · rw [hresolved] at hj
    obtain ⟨hrow, hone⟩ := h.resolved j e hj he
    refine ⟨hrow, fun hK k e' hk => ?_⟩
    rw [hresolved] at hk
    exact hone hK k e' hk

/-- **The read of a dispute** by a request that has written nothing. -/
theorem DocketInv.read (h : DocketInv K payments requests g s) (hopened : (g i).opened = false)
    (hwrote : (g i).wrote = false) (hown : ∀ k e, (requests i).verdict = some (k, e) → k = id) :
    DocketInv K payments requests
      (Function.update g i { g i with read := (s.disputes id).seen i }) s := by
  refine ⟨h.paid, fun k => (h.cells k).update ((h.cells k).not_held hopened hwrote)
    (fun r e hr he => ?_) (fun hw => ?_) rfl⟩
  · obtain rfl := hown k e he
    have hrow : (s.disputes k).row = some r :=
      (Cell.seen_of_not ((h.cells k).not_held hopened hwrote)).symm.trans hr
    exact ⟨r, hrow, rfl⟩
  · have hw : (g i).wrote = true := hw
    rw [hwrote] at hw
    cases hw

/-- **A write of a row** by a request that holds none. -/
theorem DocketInv.write (h : DocketInv K payments requests g s) (hopened : (g i).opened = false)
    (hwrote : (g i).wrote = false) (hfree : (s.disputes id).Free i) {r' : DisputeRow}
    (hread : γ.read = (g i).read) (hresolved : γ.resolved = (g i).resolved)
    (hverdict : γ.wrote = true → (s.disputes id).row ≠ none ∧
      ∀ k e, (requests i).verdict = some (k, e) → k = id)
    (hholding : Holding K payments requests i γ id (s.disputes id).row r') :
    DocketInv K payments requests (Function.update g i γ) (s.put i id r') := by
  refine ⟨h.paid, fun k => ?_⟩
  have hnot := (h.cells k).not_held hopened hwrote
  by_cases hk : k = id
  · subst hk
    have hc := h.cells k
    have hnone : (s.disputes k).held = none := by
      cases hheld : (s.disputes k).held with
      | none => rfl
      | some w =>
        obtain rfl : w.1 = i := hfree w hheld
        exact absurd hheld (hnot w.2)
    have hcell : (s.put i k r').disputes k = (s.disputes k).write i (some r') :=
      Function.update_self ..
    rw [hcell]
    have hresolved := update_same Work.resolved hresolved
    refine ⟨fun j r e hr he => ?_, fun j v hv => ?_, fun j e hw he => ?_, fun j e hj he => ?_⟩
    · rw [update_same Work.read hread] at hr
      exact hc.read j r e hr he
    · rw [Cell.held_write] at hv
      obtain ⟨rfl, rfl⟩ := Prod.mk.inj (Option.some.inj hv)
      rw [Function.update_self]
      exact ⟨r', rfl, hholding⟩
    · by_cases hji : j = i
      · subst hji
        rw [Function.update_self] at hw
        exact ⟨(hverdict hw).1, some r', rfl⟩
      · rw [Function.update_of_ne hji] at hw
        obtain ⟨-, v, hv⟩ := hc.wrote j e hw he
        rw [hnone] at hv
        cases hv
    · rw [hresolved] at hj
      obtain ⟨hrow, hone⟩ := hc.resolved j e hj he
      refine ⟨hrow, fun hK l e' hl => ?_⟩
      rw [hresolved] at hl
      exact hone hK l e' hl
  · have hcell : (s.put i id r').disputes k = s.disputes k := Function.update_of_ne hk ..
    rw [hcell]
    refine (h.cells k).update hnot (fun r e hr he => ?_) (fun hw e he => ?_) hresolved
    · exact (h.cells k).read i r e (hread.symm.trans hr) he
    · exact hk ((hverdict hw).2 k e he)

/-- **A commit**: a verdict that is committed is the only one, if it found the dispute open. -/
theorem DisputeOk.commit (h : DisputeOk K payments requests g id c) :
    DisputeOk K payments requests (Function.update g i ((g i).next (.commit i) ())) id
      (c.commit i) := by
  have hread := update_same Work.read (g := g) (i := i) (γ := (g i).next (.commit i) ()) rfl
  refine ⟨fun j r e hr he => ?_, fun j v hv => ?_, fun j e hw he => ?_, fun j e hj he => ?_⟩
  · rw [hread] at hr
    obtain ⟨r₀, hr₀, hpayment⟩ := h.read j r e hr he
    rcases c.held_or_not i with ⟨v, hv⟩ | hnot
    · rw [Cell.commit_of_held hv]
      obtain ⟨r', rfl, ⟨hnone, -⟩ | ⟨e', r₁, -, hr₁, ⟨t, rfl⟩, -⟩⟩ := h.held i v hv
      · rw [hr₀] at hnone
        cases hnone
      · obtain rfl : r₀ = r₁ := Option.some.inj (hr₀.symm.trans hr₁)
        exact ⟨_, rfl, hpayment⟩
    · rw [Cell.commit_of_not hnot]
      exact ⟨r₀, hr₀, hpayment⟩
  · have hji : j ≠ i := by
      rintro rfl
      exact Cell.not_held_commit hv
    rw [Cell.held_commit_iff hji] at hv
    rw [Cell.commit_of_not (fun u hu => hji ?_), Function.update_of_ne hji]
    · exact h.held j v hv
    · rw [hv] at hu
      cases hu
      rfl
  · have hji : j ≠ i := by
      rintro rfl
      rw [Function.update_self] at hw
      cases hw
    rw [Function.update_of_ne hji] at hw
    obtain ⟨hrow, v, hv⟩ := h.wrote j e hw he
    rw [Cell.commit_of_not fun u hu => ?_]
    · exact ⟨hrow, v, hv⟩
    · rw [hv] at hu
      cases hu
      exact hji rfl
  · -- whoever has committed a verdict did so before, or does it now
    have hwhen : ∀ k, (Function.update g i ((g i).next (.commit i) ()) k).resolved = true →
        (g k).resolved = true ∨ k = i ∧ (g i).wrote = true := by
      intro k hk
      by_cases hki : k = i
      · subst hki
        rw [Function.update_self] at hk
        exact (Bool.or_eq_true_iff.1 hk).symm.imp_right fun hw => ⟨rfl, hw⟩
      · rw [Function.update_of_ne hki] at hk
        exact .inl hk
    rcases c.held_or_not i with ⟨v, hv⟩ | hnot
    · obtain ⟨r', rfl, ⟨hnone, -⟩ | ⟨e₁, r₁, he₁, hr₁, ⟨t, rfl⟩, -, hopen⟩⟩ := h.held i v hv
      · rcases hwhen j hj with hold | ⟨rfl, hw⟩
        · obtain ⟨⟨r, hr, -⟩, -⟩ := h.resolved j e hold he
          rw [hr] at hnone
          cases hnone
        · exact absurd hnone (h.wrote j e hw he).1
      · rw [Cell.commit_of_held hv]
        refine ⟨⟨_, rfl, rfl⟩, fun hK k e' hk he' => ?_⟩
        have hnew : ∀ l e₂, (Function.update g i ((g i).next (.commit i) ()) l).resolved = true →
            (requests l).verdict = some (id, e₂) → l = i := by
          intro l e₂ hl hle
          rcases hwhen l hl with hold | ⟨rfl, -⟩
          · obtain ⟨⟨r, hr, hstatus⟩, -⟩ := h.resolved l e₂ hold hle
            obtain rfl : r = r₁ := Option.some.inj (hr.symm.trans hr₁)
            rw [hopen hK] at hstatus
            cases hstatus
          · rfl
        exact (hnew k e' hk he').trans (hnew j e hj he).symm
    · have hold : ∀ l e₂, (Function.update g i ((g i).next (.commit i) ()) l).resolved = true →
          (requests l).verdict = some (id, e₂) → (g l).resolved = true := by
        intro l e₂ hl hle
        rcases hwhen l hl with hold | ⟨rfl, hw⟩
        · exact hold
        · obtain ⟨-, v, hv⟩ := h.wrote l e₂ hw hle
          exact absurd hv (hnot v)
      rw [Cell.commit_of_not hnot]
      obtain ⟨hrow, hone⟩ := h.resolved j e (hold j e hj he) he
      exact ⟨hrow, fun hK k e' hk he' => hone hK k e' (hold k e' hk he') he'⟩

theorem DisputeOk.rollback (h : DisputeOk K payments requests g id c) :
    DisputeOk K payments requests (Function.update g i ((g i).next (.rollback i) ())) id
      (c.rollback i) := by
  have hread := update_same Work.read (g := g) (i := i) (γ := (g i).next (.rollback i) ()) rfl
  have hresolved := update_same Work.resolved (g := g) (i := i)
    (γ := (g i).next (.rollback i) ()) rfl
  refine ⟨fun j r e hr he => ?_, fun j v hv => ?_, fun j e hw he => ?_, fun j e hj he => ?_⟩
  · rw [hread] at hr
    rw [Cell.row_rollback]
    exact h.read j r e hr he
  · have hji : j ≠ i := by
      rintro rfl
      exact Cell.not_held_rollback hv
    rw [Cell.row_rollback, Function.update_of_ne hji]
    exact h.held j v ((Cell.held_rollback_iff hji).1 hv)
  · have hji : j ≠ i := by
      rintro rfl
      rw [Function.update_self] at hw
      cases hw
    rw [Function.update_of_ne hji] at hw
    obtain ⟨hrow, v, hv⟩ := h.wrote j e hw he
    rw [Cell.row_rollback]
    exact ⟨hrow, v, Cell.held_rollback_ne hji hv⟩
  · rw [hresolved] at hj
    rw [Cell.row_rollback]
    obtain ⟨hrow, hone⟩ := h.resolved j e hj he
    refine ⟨hrow, fun hK k e' hk => ?_⟩
    rw [hresolved] at hk
    exact hone hK k e' hk

/-- The tables after a commit. -/
def committed (i : ι) (s : Docket ι) : Docket ι :=
  { s with disputes := fun k => (s.disputes k).commit i }

/-- The tables after a rollback. -/
def rolledBack (i : ι) (s : Docket ι) : Docket ι :=
  { s with disputes := fun k => (s.disputes k).rollback i }

theorem DocketInv.commit (h : DocketInv K payments requests g s) :
    DocketInv K payments requests (Function.update g i ((g i).next (.commit i) ()))
      (committed i s) :=
  ⟨h.paid, fun id => (h.cells id).commit⟩

theorem DocketInv.rollback (h : DocketInv K payments requests g s) :
    DocketInv K payments requests (Function.update g i ((g i).next (.rollback i) ()))
      (rolledBack i s) :=
  ⟨h.paid, fun id => (h.cells id).rollback⟩

/-! ## What a step may do -/

/-- What a commit does to a row that it changes. -/
def Judged (K : Prop) (payments : String → Option PaymentRow) (requests : ι → Request) (i : ι)
    (γ : Work) (id : String) (row row' : Option DisputeRow) : Prop :=
  (row = none ∧ ∃ r, row' = some r ∧ r.status = .pending ∧ r.outcome = none) ∨
  ∃ evidence r r', (requests i).verdict = some (id, evidence) ∧ row = some r ∧ row' = some r' ∧
    Verdict payments evidence r r' ∧ γ.wrote = true ∧ (K → r.status = .pending)

/-- **What a step may do**: the request has not committed a verdict yet, and only a commit changes
rows. -/
def StepOk (K : Prop) (payments : String → Option PaymentRow) (requests : ι → Request)
    (g : ι → Work) (s : Docket ι) (i : ι) (op : Call ι) (s' : Docket ι) : Prop :=
  (g i).resolved = false ∧ ∀ id, (s'.disputes id).row ≠ (s.disputes id).row →
    op = .commit i ∧ Judged K payments requests i (g i) id (s.disputes id).row (s'.disputes id).row

omit [DecidableEq ι] in
theorem stepOk_of_rows {s' : Docket ι} {op : Call ι} (hresolved : (g i).resolved = false)
    (h : ∀ id, (s'.disputes id).row = (s.disputes id).row) :
    StepOk K payments requests g s i op s' :=
  ⟨hresolved, fun id hne => absurd (h id) hne⟩

theorem stepOk_commit (h : DocketInv K payments requests g s) (hresolved : (g i).resolved = false) :
    StepOk K payments requests g s i (.commit i) (committed i s) := by
  refine ⟨hresolved, fun id hne => ⟨rfl, ?_⟩⟩
  have hne : ((s.disputes id).commit i).row ≠ (s.disputes id).row := hne
  show Judged K payments requests i (g i) id _ ((s.disputes id).commit i).row
  rcases (s.disputes id).held_or_not i with ⟨v, hv⟩ | hnot
  · rw [Cell.commit_of_held hv]
    obtain ⟨r', rfl, ⟨hnone, hstatus, houtcome, -⟩ | ⟨e, r, he, hr, hverdict, hwrote, hopen⟩⟩ :=
      (h.cells id).held i v hv
    · exact .inl ⟨hnone, r', rfl, hstatus, houtcome⟩
    · exact .inr ⟨e, r, r', he, hr, rfl, hverdict, hwrote, hopen⟩
  · rw [Cell.commit_of_not hnot] at hne
    exact absurd rfl hne

/-! ## Calls -/

/-- The specification of the requests; `K` asks for the condition. -/
def disputeSpec (K : Prop) (payments : String → Option PaymentRow) (requests : ι → Request) :
    Spec ι (Call ι) Res Err (Docket ι) Work where
  inv := DocketInv K payments requests
  ok _ s _ op := K → Guarded s op
  prop g s i op _ s' := StepOk K payments requests g s i op s'

/-- A part of a request keeps the invariant, and ends as it says, or raises without a verdict. -/
abbrev Judges (K : Prop) (payments : String → Option PaymentRow) (requests : ι → Request) {α : Type}
    (i : ι) (A : α → Work → Prop) (p : Tx ι α) (γ : Work) : Prop :=
  Outline (disputeSystem ι) (disputeSpec K payments requests) i
    (ends A fun _ γ' => γ'.resolved = false) p γ

theorem judges_bind {α β : Type} {A : α → Work → Prop} {A' : β → Work → Prop} {p : Tx ι α}
    {f : α → Tx ι β} (hp : Judges K payments requests i A p γ)
    (hf : ∀ a γ', A a γ' → Judges K payments requests i A' (f a) γ') :
    Judges K payments requests i A' (p.bind f) γ :=
  outline_bind_ends hp hf

/-- A call raises without an effect, or it runs. -/
theorem sem_cases (e : Outside) (op : Call ι) (s : Docket ι) :
    (∃ x, sem e op s = (.error x, s)) ∨ sem e op s = exec e op s := by
  rw [sem]
  split
  · exact .inl ⟨_, rfl⟩
  · exact .inr rfl

/-- **One call**, that raises without an effect or does what it does. -/
theorem call_judges {op : Call ι} {A : Res op → Work → Prop} (hγ : γ.resolved = false)
    (h : ∀ e g s, g i = γ → DocketInv K payments requests g s → (K → Guarded s op) →
      (∃ x, exec e op s = (.error x, s)) ∨ ∃ a s', exec e op s = (.ok a, s') ∧
        DocketInv K payments requests (Function.update g i (γ.next op a)) s' ∧
        StepOk K payments requests g s i op s' ∧ A a (γ.next op a)) :
    Judges K payments requests i A (call op) γ := by
  refine outline_perform_eq fun g s e hg hinv hok => ?_
  have hraised : ∀ x, sem e op s = (.error x, s) →
      ∃ r s' γ', (disputeSystem ι).sem e op s = (r, s') ∧
        (disputeSystem ι).adv i γ s op r = γ' ∧
        DocketInv K payments requests (Function.update g i γ') s' ∧
          StepOk K payments requests g s i op s' ∧
            ends A (fun _ γ' => γ'.resolved = false) r γ' := by
    intro x hx
    refine ⟨_, _, γ, hx, rfl, ?_, stepOk_of_rows (hg ▸ hγ) fun _ => rfl, hγ⟩
    rw [← hg, Function.update_eq_self]
    exact hinv
  rcases sem_cases e op s with ⟨x, hx⟩ | hexec
  · exact hraised x hx
  · rcases h e g s hg hinv hok with ⟨x, hx⟩ | ⟨a, s', ha, hinv', hstep, hA⟩
    · exact hraised x (hexec.trans hx)
    · exact ⟨_, _, _, hexec.trans ha, rfl, hinv', hstep, hA⟩

/-- Nothing of the open transaction is on a dispute. -/
structure Blank (γ : Work) : Prop where
  opened : γ.opened = false
  wrote : γ.wrote = false
  resolved : γ.resolved = false

omit [DecidableEq ι] in
/-- A write changes no committed row. -/
theorem stepOk_put {op : Call ι} {r : DisputeRow} (hresolved : (g i).resolved = false) :
    StepOk K payments requests g s i op (s.put i id r) := by
  refine stepOk_of_rows hresolved fun k => ?_
  by_cases hk : k = id
  · subst hk
    show (Function.update s.disputes k _ k).row = _
    rw [Function.update_self, Cell.row_write]
  · show (Function.update s.disputes id _ k).row = _
    rw [Function.update_of_ne hk]

theorem getDispute_judges (hγ : Blank γ)
    (hown : ∀ k e, (requests i).verdict = some (k, e) → k = id) :
    Judges K payments requests i (fun (row : Option DisputeRow) γ' => γ' = { γ with read := row })
      (call (.getDispute i id)) γ := by
  refine call_judges hγ.resolved fun e g s hg hinv _ => ?_
  subst hg
  exact .inr ⟨_, s, rfl, hinv.read hγ.opened hγ.wrote hown,
    stepOk_of_rows hγ.resolved fun _ => rfl, rfl⟩

theorem getPayment_judges {paymentId : String} (hγ : Blank γ) :
    Judges K payments requests i
      (fun (row : Option PaymentRow) γ' => row = payments paymentId ∧ γ' = γ)
      (call (.getPayment i paymentId)) γ := by
  refine call_judges hγ.resolved fun e g s hg hinv _ => ?_
  subst hg
  refine .inr ⟨_, s, rfl, ?_, stepOk_of_rows hγ.resolved fun _ => rfl, by rw [hinv.paid], rfl⟩
  show DocketInv K payments requests (Function.update g i (g i)) s
  rwa [Function.update_eq_self]

/-- A call that reads nothing of the tables. -/
theorem quiet_judges {op : Call ι} (hγ : Blank γ) (hexec : ∀ e s, ∃ a, exec e op s = (.ok a, s))
    (hnext : ∀ a, γ.next op a = γ) :
    Judges K payments requests i (fun _ γ' => γ' = γ) (call op) γ := by
  refine call_judges hγ.resolved fun e g s hg hinv _ => ?_
  subst hg
  obtain ⟨a, ha⟩ := hexec e s
  refine .inr ⟨a, s, ha, ?_, stepOk_of_rows hγ.resolved fun _ => rfl, hnext a⟩
  rwa [hnext, Function.update_eq_self]

/-- **A dispute is opened.** -/
theorem insert_judges {r : DisputeRow} (hγ : Blank γ) (hstatus : r.status = .pending)
    (houtcome : r.outcome = none) :
    Judges K payments requests i (fun _ γ' => γ'.resolved = false) (call (.insertDispute i r)) γ := by
  refine call_judges hγ.resolved fun e g s hg hinv _ => ?_
  subst hg
  rw [exec]
  by_cases hfree : (s.disputes r.disputeId).Free i
  · rw [if_neg (not_not.2 hfree)]
    by_cases htaken : ((s.disputes r.disputeId).seen i).isSome
    · rw [if_pos htaken]
      exact .inl ⟨_, rfl⟩
    · rw [if_neg htaken]
      have hrow : (s.disputes r.disputeId).row = none := by
        rw [← Cell.seen_of_not ((hinv.cells _).not_held hγ.opened hγ.wrote)]
        simpa using htaken
      refine .inr ⟨(), _, rfl, hinv.write hγ.opened hγ.wrote hfree rfl rfl (fun hw => ?_)
        (.inl ⟨hrow, hstatus, houtcome, rfl⟩), stepOk_put hγ.resolved, hγ.resolved⟩
      have hw : (g i).wrote = true := hw
      rw [hγ.wrote] at hw
      cases hw
  · rw [if_pos hfree]
    exact .inl ⟨_, rfl⟩

/-- **A verdict is written** on the dispute that the request has read. -/
theorem update_judges {evidence : Fields} {r : DisputeRow} {t : ℤ} (hγ : Blank γ)
    (hrequest : (requests i).verdict = some (id, evidence)) (hread : γ.read = some r) :
    Judges K payments requests i (fun _ γ' => γ'.resolved = false ∧ γ'.wrote = true)
      (call (.updateDispute i id (outcomeOf (payments r.paymentId) evidence)
        (withFindings (payments r.paymentId) evidence) t)) γ := by
  refine call_judges hγ.resolved fun e g s hg hinv hok => ?_
  subst hg
  obtain ⟨r₀, hr₀, hpayment⟩ := (hinv.cells id).read i r evidence hread hrequest
  have hseen : (s.disputes id).seen i = some r₀ :=
    (Cell.seen_of_not ((hinv.cells id).not_held hγ.opened hγ.wrote)).trans hr₀
  rw [exec, hseen]
  dsimp only
  by_cases hfree : (s.disputes id).Free i
  · rw [if_pos hfree]
    refine .inr ⟨(), _, rfl, hinv.write hγ.opened hγ.wrote hfree rfl rfl (fun _ => ⟨?_, ?_⟩)
      (.inr ⟨evidence, r₀, hrequest, hr₀, ⟨t, ?_⟩, rfl, fun hK => ?_⟩), stepOk_put hγ.resolved,
      hγ.resolved, rfl⟩
    · rw [hr₀]
      exact Option.some_ne_none r₀
    · intro k e' he'
      exact congrArg Prod.fst (Option.some.inj (he'.symm.trans hrequest))
    · rw [hpayment]
    · exact hok hK hfree r₀ hseen
  · rw [if_neg hfree]
    exact .inl ⟨_, rfl⟩

/-- **A commit.** -/
theorem commit_judges (hγ : γ.resolved = false) :
    Judges K payments requests i (fun _ γ' => γ'.resolved = γ.wrote) (call (.commit i)) γ := by
  refine call_judges hγ fun e g s hg hinv _ => ?_
  subst hg
  refine .inr ⟨(), _, rfl, hinv.commit, stepOk_commit hinv hγ, ?_⟩
  show ((g i).wrote || (g i).resolved) = (g i).wrote
  rw [hγ, Bool.or_false]

theorem rollback_judges (hγ : γ.resolved = false) :
    Judges K payments requests i (fun _ γ' => γ'.resolved = false) (call (.rollback i)) γ := by
  refine call_judges hγ fun e g s hg hinv _ => ?_
  subst hg
  exact .inr ⟨(), _, rfl, hinv.rollback, stepOk_of_rows hγ fun id => Cell.row_rollback, hγ⟩

/-! ## Requests -/

/-- A request before its commit: with a verdict, if it adjudicates. -/
def Ready (request : Request) (γ : Work) : Prop :=
  γ.resolved = false ∧ (request.verdict ≠ none → γ.wrote = true)

/-- **`open_dispute`**. -/
theorem openDispute_judges {paymentId reason : String} (hγ : Blank γ)
    (hrequest : requests i = .openDispute paymentId reason) :
    Judges K payments requests i (fun _ γ' => Ready (requests i) γ')
      (openDispute i paymentId reason) γ := by
  have hno : (requests i).verdict = none := by
    rw [hrequest]
    rfl
  refine judges_bind (getPayment_judges hγ) ?_
  rintro payment γ₁ ⟨-, rfl⟩
  cases payment with
  | none => exact hγ.resolved
  | some payment =>
    rw [openWith]
    split_ifs with hstatus
    · exact hγ.resolved
    · refine judges_bind (quiet_judges hγ (fun e s => ⟨_, rfl⟩) fun _ => rfl) fun id γ₂ h₂ => ?_
      subst h₂
      exact judges_bind (insert_judges hγ rfl rfl) fun _ γ₃ h₃ => ⟨h₃, fun hne => absurd hno hne⟩

/-- **`adjudicate`** writes the verdict on its own evidence. -/
theorem adjudicate_judges {evidence : Fields} (hγ : Blank γ)
    (hrequest : (requests i).verdict = some (id, evidence)) :
    Judges K payments requests i (fun _ γ' => Ready (requests i) γ') (adjudicate i id evidence) γ := by
  refine judges_bind (getDispute_judges hγ fun k e he => ?_) fun row γ₁ h₁ => ?_
  · exact congrArg Prod.fst (Option.some.inj (he.symm.trans hrequest))
  · subst h₁
    cases row with
    | none => exact hγ.resolved
    | some r =>
      have hblank : Blank { γ with read := some r } := ⟨hγ.opened, hγ.wrote, hγ.resolved⟩
      rw [adjudicateWith]
      split_ifs with hstatus
      · exact hγ.resolved
      · refine judges_bind (getPayment_judges hblank) ?_
        rintro payment γ₂ ⟨rfl, rfl⟩
        refine judges_bind (quiet_judges hblank (fun e s => ⟨_, rfl⟩) fun _ => rfl)
          fun t γ₃ h₃ => ?_
        subst h₃
        exact judges_bind (update_judges hblank hrequest rfl) fun _ γ₄ h₄ => ⟨h₄.1, fun _ => h₄.2⟩

/-- **A request** that returns after adjudicating has committed its verdict. -/
theorem answer_judges (K : Prop) (payments : String → Option PaymentRow) (requests : ι → Request)
    (i : ι) :
    Judges K payments requests i
      (fun _ γ' => (requests i).verdict ≠ none → γ'.resolved = true) (answer i (requests i)) {} := by
  have hblank : Blank {} := ⟨rfl, rfl, rfl⟩
  have hbody : Judges K payments requests i (fun _ γ' => Ready (requests i) γ')
      (Disputes.body i (requests i)) {} := by
    cases hrequest : requests i with
    | openDispute paymentId reason =>
      have h : Judges K payments requests i (fun _ γ' => Ready (requests i) γ')
          (openDispute i paymentId reason) {} := openDispute_judges hblank hrequest
      rwa [hrequest] at h
    | adjudicate id evidence =>
      have hverdict : (requests i).verdict = some (id, evidence) := by
        rw [hrequest]
        rfl
      have h : Judges K payments requests i (fun _ γ' => Ready (requests i) γ')
          (adjudicate i id evidence) {} := adjudicate_judges hblank hverdict
      rwa [hrequest] at h
  refine outline_transaction hbody ?_ ?_
  · intro row γ' hready
    refine outline_mono (fun r γ'' hr => ?_) (commit_judges hready.1)
    cases r with
    | ok a => exact fun hne => hr.trans (hready.2 hne)
    | error x => exact hr
  · intro x γ' hγ
    refine outline_mono (fun r γ'' hr => ?_) (rollback_judges hγ)
    cases r <;> exact hr

/-! ## Runs -/

/-- A configuration whose requests follow their outlines. -/
abbrev Sound (K : Prop) (payments : String → Option PaymentRow) (requests : ι → Request)
    (c : Sessions ι) : Prop :=
  Outlined (disputeSystem ι) (disputeSpec K payments requests)
    (fun i => ends (fun _ γ' => (requests i).verdict ≠ none → γ'.resolved = true)
      fun _ γ' => γ'.resolved = false) c

theorem disputeStart_sound (K : Prop) (disputes : String → Option DisputeRow)
    (payments : String → Option PaymentRow) (requests : ι → Request) :
    Sound K payments requests (disputeStart disputes payments requests) :=
  ⟨⟨rfl, fun _ => ⟨fun _ _ _ h => (by cases h), fun _ _ h => (by cases h),
    fun _ _ h => (by cases h), fun _ _ h => (by cases h)⟩⟩, answer_judges K payments requests⟩

variable {c c' : Sessions ι}

/-- **A step that changes a dispute** is a commit of its request. -/
theorem sound_change (h : Sound K payments requests c) {e : Outside}
    (hok : (disputeSpec K payments requests).Ok c i e) {id : String}
    (hne : (((disputeSystem ι).step c i e).shared.disputes id).row ≠ (c.shared.disputes id).row) :
    Judged K payments requests i (c.hist i) id (c.shared.disputes id).row
      (((disputeSystem ι).step c i e).shared.disputes id).row ∧
    (((disputeSystem ι).step c i e).hist i).resolved = (c.hist i).wrote := by
  obtain ⟨hprop, -⟩ := outlined_step h hok
  cases hp : c.prog i with
  | ret a =>
    rw [step_of_none (by rw [hp]; rfl)] at hne
    exact absurd rfl hne
  | raise x =>
    rw [step_of_none (by rw [hp]; rfl)] at hne
    exact absurd rfl hne
  | call op next =>
    have hnext : (c.prog i).next = some op := by rw [hp]; rfl
    have hshared : ((disputeSystem ι).step c i e).shared = (sem e op c.shared).2 := by
      simp only [System.step, hp]
      rfl
    obtain ⟨hresolved, hchange⟩ := hprop op hnext
    rw [hshared] at hne
    obtain ⟨rfl, hjudged⟩ := hchange id hne
    refine ⟨by rw [hshared]; exact hjudged, ?_⟩
    rw [hist_step hnext, Function.update_self]
    rcases sem_cases e (.commit i) c.shared with ⟨x, hx⟩ | hexec
    · rw [hx] at hne
      exact absurd rfl hne
    · have hadv : (disputeSystem ι).adv i (c.hist i) c.shared (.commit i)
          ((disputeSystem ι).sem e (.commit i) c.shared).1 = (c.hist i).next (.commit i) () := by
        show (disputeSystem ι).adv i (c.hist i) c.shared (.commit i)
          (sem e (.commit i) c.shared).1 = _
        rw [hexec]
        rfl
      rw [hadv]
      show ((c.hist i).wrote || (c.hist i).resolved) = (c.hist i).wrote
      rw [hresolved, Bool.or_false]

/-- A request that has committed its verdict has returned. -/
theorem returned_of_resolved (h : Sound False payments requests c)
    (hresolved : (c.hist i).resolved = true) : (c.prog i).result ≠ none := by
  cases hp : c.prog i with
  | ret a => exact Option.some_ne_none a
  | raise x =>
    have hi := h.outline i
    rw [hp] at hi
    have hi : (c.hist i).resolved = false := hi
    rw [hresolved] at hi
    cases hi
  | call op next =>
    have hnext : (c.prog i).next = some op := by rw [hp]; rfl
    have hcall := (outlined_call h hnext {} fun hK => hK.elim).1
    rw [hresolved] at hcall
    cases hcall

/-- **Every change of a dispute** is accounted for. -/
theorem accounted_step (h : Sound False payments requests c) (i : ι) (e : Outside) {id : String}
    (hne : (((disputeSystem ι).step c i e).shared.disputes id).row ≠ (c.shared.disputes id).row) :
    Accounted payments requests i c ((disputeSystem ι).step c i e) id := by
  have hok : (disputeSpec False payments requests).Ok c i e := fun _ _ hK => hK.elim
  obtain ⟨hjudged, hresolved⟩ := sound_change h hok hne
  refine hjudged.imp_right fun hv => ?_
  obtain ⟨evidence, r, r', hrequest, hr, hr', hverdict, hwrote, -⟩ := hv
  refine ⟨evidence, r, r', hrequest, hr, hr', hverdict,
    returned_of_resolved (outlined_step h hok).2 (hresolved.trans hwrote), fun hseller => ?_⟩
  obtain ⟨t, rfl⟩ := hverdict
  exact outcomeOf_seller.1 (Option.some.inj hseller)

/-- **A resolved dispute stays as it is**, when the step meets the condition. -/
theorem final_step (h : Sound True payments requests c) {e : Outside} (hok : StillOpen c i e) :
    Final c ((disputeSystem ι).step c i e) := by
  intro id r hr hstatus
  by_contra hne
  have hne : (((disputeSystem ι).step c i e).shared.disputes id).row ≠
      (c.shared.disputes id).row := fun heq => hne (heq.trans hr)
  obtain ⟨⟨hnone, -⟩ | ⟨evidence, r₀, r', -, hr₀, -, -, -, hopen⟩, -⟩ :=
    sound_change h (fun op hop _ => hok op hop) hne
  · rw [hr] at hnone
    cases hnone
  · obtain rfl : r = r₀ := Option.some.inj (hr.symm.trans hr₀)
    rw [hopen trivial] at hstatus
    cases hstatus

/-- **A dispute is resolved once.** In every run of the calls, each change of a dispute opens it, or
is the end of one call to adjudicate it, which returns, and whose own evidence has the outcome: for
the seller only with a mandate, an intent, the cart that was charged and the receipt of an escalated
purchase. As long as each verdict is written on a dispute that is still open, a resolved dispute
never changes, and no two calls to adjudicate one dispute return. -/
theorem resolved_once (disputes : String → Option DisputeRow)
    (payments : String → Option PaymentRow) (requests : ι → Request) (xs : List (ι × Outside)) :
    (disputeSystem ι).Along (fun c i e => ∀ id,
      (((disputeSystem ι).step c i e).shared.disputes id).row ≠ (c.shared.disputes id).row →
        Accounted payments requests i c ((disputeSystem ι).step c i e) id)
      (disputeStart disputes payments requests) xs ∧
    ((disputeSystem ι).Along StillOpen (disputeStart disputes payments requests) xs →
      (disputeSystem ι).Along (fun c i e => Final c ((disputeSystem ι).step c i e))
        (disputeStart disputes payments requests) xs ∧
      ∀ i j id e e', (requests i).verdict = some (id, e) → (requests j).verdict = some (id, e') →
        (((disputeSystem ι).run (disputeStart disputes payments requests) xs).prog i).result ≠
          none →
        (((disputeSystem ι).run (disputeStart disputes payments requests) xs).prog j).result ≠
          none → i = j) := by
  constructor
  · have hsound := disputeStart_sound False disputes payments requests
    generalize disputeStart disputes payments requests = c at hsound ⊢
    induction xs generalizing c with
    | nil => trivial
    | cons x xs ih =>
      refine ⟨fun id hne => accounted_step hsound x.1 x.2 hne, ih _ ?_⟩
      exact (outlined_step hsound fun _ _ hK => hK.elim).2
  · intro hok
    have hsound := disputeStart_sound True disputes payments requests
    generalize disputeStart disputes payments requests = c at hsound hok ⊢
    induction xs generalizing c with
    | nil =>
      refine ⟨trivial, fun i j id e e' hi hj hri hrj => ?_⟩
      obtain ⟨a, ha⟩ := Option.ne_none_iff_exists'.1 hri
      obtain ⟨b, hb⟩ := Option.ne_none_iff_exists'.1 hrj
      have hdone := outlined_returned hsound ha (hi ▸ Option.some_ne_none _)
      have hdone' := outlined_returned hsound hb (hj ▸ Option.some_ne_none _)
      exact (((hsound.inv.cells id).resolved i e hdone hi).2 trivial j e' hdone' hj).symm
    | cons x xs ih =>
      obtain ⟨hfinal, hone⟩ := ih _ (outlined_step hsound fun op hop _ => hok.1 op hop).2 hok.2
      exact ⟨⟨final_step hsound hok.1, hfinal⟩, hone⟩

end Invariant

/-! ## Two verdicts -/

/-- A payment with a cart. -/
def cartPayment : PaymentRow :=
  ⟨"ynp_1", "tok_1", "mnd_1", .cents 3500, "COP", .captured, none, some "h1", "pur_1"⟩

/-- Its dispute, open. -/
def openRow : DisputeRow := { disputeId := "ynd_1", paymentId := "ynp_1", reason := "UNAUTHORISED" }

/-- All of the evidence. -/
def fullEvidence : Fields :=
  [("mandate_sd_jwt", .str "m"), ("intent_jwt", .str "i"), ("checkout_hash", .str "h1")]

/-- One call with all of the evidence, and one with none. -/
def twoCalls : Bool → Request
  | false => .adjudicate "ynd_1" fullEvidence
  | true => .adjudicate "ynd_1" []

/-- The calls after some steps. -/
def judged (xs : List (Bool × Outside)) : Sessions Bool :=
  (disputeSystem Bool).run (disputeStart (fun id => if id = "ynd_1" then some openRow else none)
    (fun id => if id = "ynp_1" then some cartPayment else none) twoCalls) xs

/-- Steps of a request. -/
def statements (i : Bool) (n : ℕ) : List (Bool × Outside) := List.replicate n (i, {})

/-- Both read the dispute, and then each writes its verdict. -/
def bothRead : List (Bool × Outside) :=
  statements false 3 ++ statements true 3 ++ statements false 2 ++ statements true 2

/-- The outcome of the dispute. -/
def outcomeAfter (c : Sessions Bool) : Option Outcome :=
  (c.shared.disputes "ynd_1").row.bind (·.outcome)

/-- One after the other: the second call raises. -/
theorem resolved_once_serial :
    (disputeSystem Bool).Along (fun c i e => Final c ((disputeSystem Bool).step c i e))
      (disputeStart (fun id => if id = "ynd_1" then some openRow else none)
        (fun id => if id = "ynp_1" then some cartPayment else none) twoCalls)
      (statements false 5 ++ statements true 2) ∧
    outcomeAfter (judged (statements false 5 ++ statements true 2)) = some .sellerFavor :=
  ⟨((resolved_once _ _ twoCalls (statements false 5 ++ statements true 2)).2
    (by decide +kernel)).1, by decide +kernel⟩

/-- Both calls return, and the second turns the outcome around. -/
theorem overturned :
    (outcomeAfter (judged (bothRead.take 8)) = some .sellerFavor ∧
      outcomeAfter (judged bothRead) = some .buyerFavor) ∧
    ¬ ∀ (requests : Bool → Request) (disputes : String → Option DisputeRow)
      (payments : String → Option PaymentRow) (xs : List (Bool × Outside)) (i j : Bool)
      (id : String) (e e' : Fields), (requests i).verdict = some (id, e) →
      (requests j).verdict = some (id, e') →
      (((disputeSystem Bool).run (disputeStart disputes payments requests) xs).prog i).result ≠
        none →
      (((disputeSystem Bool).run (disputeStart disputes payments requests) xs).prog j).result ≠
        none → i = j := by
  refine ⟨by decide +kernel, fun h => ?_⟩
  have hfalse : ((judged bothRead).prog false).result.isSome = true := by decide +kernel
  have htrue : ((judged bothRead).prog true).result.isSome = true := by decide +kernel
  exact absurd (h twoCalls _ _ bothRead false true "ynd_1" fullEvidence [] rfl rfl
    (Option.isSome_iff_ne_none.1 hfalse) (Option.isSome_iff_ne_none.1 htrue)) (by decide)

end TryTrust.Yuno.Disputes
