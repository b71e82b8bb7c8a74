import TryTrust.Agent.Kernel
import TryTrust.Money

/-!
# The amount debited and the amount charged

The kernel reserves and debits the intent's amount, which is the offer's price. The bridge is
authorised for the amount of the capture token, which is the total that it quoted.

* `Bill`: what one purchase quoted, sent, reserved and debited; `Kept`: what its calls keep of it;
* `rappiSettle_outline`: an accepted order carries a token for the quoted total;
* `settle_outline`: every mandate is debited by the intent's amount;
* **`settled_amount_iff`**: the authorised amount is the debited one, and inside the limits,
  exactly when the quote's total is the intent's amount; `settled_amount_differs`: a delivery fee.
-/

namespace TryTrust.Agent

open Conc

/-- What one purchase read, quoted, sent and wrote. -/
structure Bill where
  /-- The row of the mandate, as first read. -/
  mandate : Option MandateRow
  /-- The row that was read last. -/
  read : Option MandateRow
  intent : Option Intent
  quote : Option Quote
  /-- The order sent to the bridge. -/
  order : Option PlaceOrder
  /-- The rows of the successful reservations, and the reserved amounts written. -/
  reserved : List (MandateRow × ℤ)
  /-- The rows read by `settle`, and the spent amounts written. -/
  debited : List (MandateRow × ℤ)

/-- The bill before the first call. -/
def Bill.start : Bill := ⟨none, none, none, none, none, [], []⟩

/-- A call's effect on the caller's bill. -/
def Bill.advance (γ : Bill) : (c : Call) → Except PyErr (Res c) → Bill
  | .selectMandate _, .ok row => { γ with read := row, mandate := γ.mandate.or row }
  | .insertPurchase _ i, .ok _ => { γ with intent := some i }
  | .quote _, .ok q => { γ with quote := some q }
  | .placeOrder body, _ => { γ with order := some body }
  | .casReserve _ row reserved, .ok true => { γ with reserved := γ.reserved ++ [(row, reserved)] }
  | .updateSettled _ _ spent _ _, .ok _ =>
    { γ with debited := γ.debited ++ (γ.read.map fun row => (row, spent)).toList }
  | _, _ => γ

/-- Every reservation is one of this amount and fits the budget of its row. -/
def Bill.ReservedAs (b : Bill) (amount : ℤ) : Prop :=
  ∀ x ∈ b.reserved, x.2 = x.1.reservedAmount + amount ∧
    x.1.spentTotal + x.2 ≤ x.1.claims.limits.totalBudget

/-- Every debit is one of this amount. -/
def Bill.DebitedAs (b : Bill) (amount : ℤ) : Prop :=
  ∀ x ∈ b.debited, x.2 = x.1.spentTotal + amount

/-- A bill of the purchase `intent` under the mandate `first`. -/
structure Bill.Kept (first : MandateRow) (intent : Intent) (quote : Option Quote)
    (order : Option PlaceOrder) (b : Bill) : Prop where
  row : b.mandate = some first
  buys : b.intent = some intent
  quoted : b.quote = quote
  sent : b.order = order
  reserved : b.ReservedAs intent.amount
  debited : b.DebitedAs intent.amount

/-- The calls that keep a bill of this amount, whatever they answer. -/
def Call.keepsBill (amount : ℤ) : Call → Prop
  | .insertPurchase _ _ => False
  | .quote _ => False
  | .placeOrder _ => False
  | .updateSettled _ _ _ _ _ => False
  | .casReserve _ row reserved => reserved = row.reservedAmount + amount ∧
      row.spentTotal + reserved ≤ row.claims.limits.totalBudget
  | _ => True

theorem Bill.Kept.advance {first : MandateRow} {intent : Intent} {quote : Option Quote}
    {order : Option PlaceOrder} {b : Bill} (h : b.Kept first intent quote order) {c : Call}
    (hc : c.keepsBill intent.amount) (r : Except PyErr (Res c)) :
    (b.advance c r).Kept first intent quote order := by
  cases r with
  | error x =>
    cases c with
    | placeOrder body => exact hc.elim
    | _ => exact h
  | ok a =>
    cases c with
    | selectMandate jti =>
      refine ⟨?_, h.buys, h.quoted, h.sent, h.reserved, h.debited⟩
      show b.mandate.or a = some first
      rw [h.row]
      rfl
    | casReserve jti row reserved =>
      cases a with
      | false => exact h
      | true =>
        refine ⟨h.row, h.buys, h.quoted, h.sent, fun x hx => ?_, h.debited⟩
        rcases List.mem_append.1 hx with hx | hx
        · exact h.reserved x hx
        · rw [List.mem_singleton] at hx
          subst hx
          exact hc
    | insertPurchase _ _ => exact hc.elim
    | quote _ => exact hc.elim
    | placeOrder _ => exact hc.elim
    | updateSettled _ _ _ _ _ => exact hc.elim
    | _ => exact h

section Pool

variable {ι : Type} [DecidableEq ι]

/-- Purchases and anything else, on one database. -/
def billSystem : System ι Call Res PyErr Db Bill Env where
  sem := sem
  adv _ γ _ c r := γ.advance c r

/-- Nothing is assumed of the others. -/
def billSpec : Spec ι Call Res PyErr Db Bill where
  inv _ _ := True
  ok _ _ _ _ := True
  prop _ _ _ _ _ _ := True

variable {i : ι} {first : MandateRow} {intent : Intent} {quote : Option Quote}
  {order : Option PlaceOrder} {γ : Bill}

theorem bill_call {c : Call} {Q : Except PyErr (Res c) → Bill → Prop}
    (h : ∀ e db, Q (sem e c db).1 (γ.advance c (sem e c db).1)) :
    Outline billSystem billSpec i Q (call c) γ :=
  outline_perform fun _ db e _ _ _ => ⟨trivial, trivial, h e db⟩

theorem bill_kept {α : Type} {p : Py α} (hp : p.Calls (Call.keepsBill intent.amount))
    (h : γ.Kept first intent quote order) :
    Outline billSystem billSpec i (fun _ γ' => γ'.Kept first intent quote order) p γ :=
  outline_calls (fun _ _ _ _ hc hγ _ _ => ⟨trivial, trivial, hγ.advance hc _⟩) hp h

theorem kept_call {c : Call} (hc : c.keepsBill intent.amount) (h : γ.Kept first intent quote order) :
    Outline billSystem billSpec i (fun _ γ' => γ'.Kept first intent quote order) (call c) γ :=
  bill_kept (Prog.calls_perform hc) h

/-- A call that keeps the bill, and what follows. -/
theorem kept_bind {α β : Type} {p : Py α} {f : α → Py β} {R : Except PyErr β → Bill → Prop}
    (hp : p.Calls (Call.keepsBill intent.amount)) (h : γ.Kept first intent quote order)
    (hf : ∀ a γ', γ'.Kept first intent quote order → Outline billSystem billSpec i R (f a) γ')
    (he : ∀ x γ', R (.error x) γ') : Outline billSystem billSpec i R (p.bind f) γ :=
  outline_bind (bill_kept hp h) (fun a γ' hγ => hf a γ' hγ) fun x γ' _ => he x γ'

/-! ## The bridge -/

/-- An order was sent for the quote, with a token for the quoted total. -/
def Sent (first : MandateRow) (intent : Intent) (b : Bill) : Prop :=
  ∃ quote body, b.Kept first intent (some quote) (some body) ∧
    body.captureToken.amount = quote.total

theorem rappiOrder_outline (storeType : String) (q : Quote) (rid : Option String)
    (h : γ.Kept first intent (some q) none) :
    Outline billSystem billSpec i (fun r γ' => ∀ receipt, r = .ok receipt → Sent first intent γ')
      (rappiOrder intent storeType q
        fun amount cartHash => call (.mintToken intent.jti rid amount cartHash)) γ := by
  refine outline_bind (Q := fun r γ' => γ'.Kept first intent (some q) none ∧
    ∀ token : CaptureToken, r = .ok token → token.amount = q.total)
    (bill_call fun e db => ⟨h.advance (c := .mintToken _ _ _ _) trivial _, fun token ht => ?_⟩) ?_ fun x γ' _ receipt h => by
      cases h
  · cases hf : e.fail with
    | none =>
      simp only [sem, hf, exec] at ht
      exact (Except.ok.inj ht) ▸ rfl
    | some x =>
      simp only [sem, hf] at ht
      cases ht
  · rintro token γ' ⟨hγ', htoken⟩
    refine bill_call fun e db receipt _ => ⟨q, rappiBody intent storeType q token, ?_, htoken token rfl⟩
    exact ⟨hγ'.row, hγ'.buys, hγ'.quoted, rfl, hγ'.reserved, hγ'.debited⟩

theorem rappiSettle_outline (K : Deps) (offer : Offer) (claims : Claims) (rid : Option String)
    (h : γ.Kept first intent none none) :
    Outline billSystem billSpec i
      (fun r γ' => ∀ receipt, r = .ok (.accepted receipt) → Sent first intent γ')
      (rappiSettle K offer claims intent (liveState claims.jti rid)
        (some fun amount cartHash => call (.mintToken intent.jti rid amount cartHash))) γ := by
  have hraise : ∀ (x : PyErr) (γ' : Bill) (receipt : Receipt),
      (Except.error x : Except PyErr SettleResult) = .ok (.accepted receipt) → Sent first intent γ' :=
    fun x γ' receipt h => by cases h
  have hrefuse : ∀ (code : Option String) (detail : String) (γ' : Bill) (receipt : Receipt),
      (Except.ok (.refused code detail) : Except PyErr SettleResult) = .ok (.accepted receipt) →
        Sent first intent γ' := fun code detail γ' receipt h => by cases h
  refine kept_bind ?_ h (fun live γ₁ h₁ => ?_) hraise
  · refine Prog.calls_bind (Prog.calls_perform trivial) fun status => ?_
    rcases status with _ | (_ | _ | _ | _ | _ | _) <;> trivial
  by_cases hlive : (!live.approved) = true
  · rw [if_pos hlive]
    exact hrefuse _ _ γ₁
  rw [if_neg hlive]
  by_cases hhandles : (rappiCart offer).storeId = "" ∨ (rappiCart offer).productId = ""
  · simp only [if_pos hhandles]
    exact hrefuse _ _ γ₁
  simp only [if_neg hhandles]
  refine kept_bind (Prog.calls_perform trivial) h₁ (fun _ γ₂ h₂ => ?_) hraise
  refine outline_bind (Q := fun r γ' => ∀ q, r = .ok q → γ'.Kept first intent (some q) none)
    (bill_call fun e db q hq => ?_) (fun q γ₃ h₃ => ?_) fun x γ' _ => hraise x γ'
  · rw [hq]
    exact ⟨h₂.row, h₂.buys, rfl, h₂.sent, h₂.reserved, h₂.debited⟩
  by_cases hfull : (q : Quote).total = "" ∨ q.cartHash = ""
  · rw [if_pos hfull]
    exact hrefuse _ _ γ₃
  rw [if_neg hfull]
  refine outline_bind (outline_attempt (rappiOrder_outline _ q rid (h₃ q rfl)))
    (fun answer γ₄ h₄ => ?_) fun x γ' _ => hraise x γ'
  obtain ⟨_, ⟨rfl⟩, hsent⟩ := h₄
  cases answer with
  | error x =>
    simp only [rappiFinish, rappiFailure]
    split_ifs <;> exact hrefuse _ _ γ₄
  | ok receipt =>
    simp only [rappiFinish]
    by_cases hstate : receipt.state ≠ "confirmed" ∧ receipt.state ≠ "dry_run_confirmed"
    · rw [if_pos hstate]
      exact hrefuse _ _ γ₄
    rw [if_neg hstate]
    obtain ⟨q', body, hkept, hamount⟩ := hsent receipt rfl
    exact kept_bind (Prog.calls_perform trivial) hkept
      (fun _ γ₅ h₅ _ _ => ⟨q', body, h₅, hamount⟩) hraise

/-! ## The debit -/

theorem settleOne_bill (jti : String) (h : γ.Kept first intent quote order) :
    Outline billSystem billSpec i (onOk fun _ γ' => γ'.Kept first intent quote order)
      (settleOne intent.amount jti) γ := by
  refine outline_bind (Q := fun r γ' => γ'.Kept first intent quote order ∧
    ∀ row : Option MandateRow, r = .ok row → γ'.read = row)
    (bill_call fun e db => ⟨h.advance (c := .selectMandate jti) trivial _, fun row hr => ?_⟩) ?_
    fun _ _ _ => trivial
  · rw [hr]
    rfl
  · rintro row γ' ⟨hγ', hread⟩
    cases row with
    | none => exact hγ'
    | some row =>
      refine bill_call fun e db => ?_
      generalize (sem e _ db).1 = r
      cases r with
      | error x => trivial
      | ok u =>
        refine ⟨hγ'.row, hγ'.buys, hγ'.quoted, hγ'.sent, hγ'.reserved, fun x hx => ?_⟩
        rcases List.mem_append.1 hx with hx | hx
        · exact hγ'.debited x hx
        · -- the row written is the one read just before
          rw [hread _ rfl, Option.map_some, Option.toList_some, List.mem_singleton] at hx
          subst hx
          rfl

theorem settleLoop_bill (jtis : List String) (h : γ.Kept first intent quote order) :
    Outline billSystem billSpec i (onOk fun _ γ' => γ'.Kept first intent quote order)
      (settleLoop intent.amount jtis) γ := by
  induction jtis generalizing γ with
  | nil => exact h
  | cons jti rest ih => exact outline_bind_ok (settleOne_bill jti h) fun _ _ h' => ih h'

/-! ## The charge -/

/-- A purchase that ends captured keeps its bill; through the bridge, it sent one order, with a
token for the quoted total. -/
def CapturedAs (ports : String → Option Port) (first : MandateRow) (intent : Intent)
    (r : Except PyErr Outcome) (b : Bill) : Prop :=
  ∀ id receipt, r = .ok (.captured id receipt) → b.intent = some intent ∧
    (ports intent.merchantId = some .rappiBridge → Sent first intent b)

variable {ports : String → Option Port} {fuel : ℕ}

theorem capturedAs_raise (x : PyErr) (γ' : Bill) : CapturedAs ports first intent (.error x) γ' :=
  fun id receipt h => by cases h

theorem finishCharge_bill (purchaseId : String) (claims : Claims) (receipt : Receipt)
    (h : γ.Kept first intent quote order)
    (hsent : ports intent.merchantId = some .rappiBridge → ∃ q body, quote = some q ∧
      order = some body ∧ body.captureToken.amount = q.total) :
    Outline billSystem billSpec i (CapturedAs ports first intent)
      (finishCharge fuel purchaseId claims intent receipt) γ := by
  refine outline_bind (Q := onOk fun _ γ' => γ'.Kept first intent quote order) ?_
    (fun _ γ₁ h₁ => ?_) fun x γ' _ => capturedAs_raise x γ'
  · exact outline_bind (bill_kept (chain_calls (fun _ => trivial) fuel claims.jti) h)
      (fun jtis γ' h' => settleLoop_bill jtis h') fun _ _ _ => trivial
  · refine kept_bind (Prog.calls_perform trivial) h₁ (fun _ γ₂ h₂ => ?_) capturedAs_raise
    refine kept_bind (Prog.calls_perform trivial) h₂ (fun _ γ₃ h₃ => ?_) capturedAs_raise
    refine kept_bind (Prog.calls_perform trivial) h₃ (fun _ γ₄ h₄ => ?_) capturedAs_raise
    intro id receipt _
    refine ⟨h₄.buys, fun hbridge => ?_⟩
    obtain ⟨q, body, rfl, rfl, hamount⟩ := hsent hbridge
    exact ⟨q, body, h₄, hamount⟩

/-- A program that never ends captured. -/
theorem bill_notCaptured {p : Py Outcome}
    (hp : p.Returns fun r => ∀ id receipt, r ≠ .ok (.captured id receipt)) :
    Outline billSystem billSpec i (CapturedAs ports first intent) p γ :=
  outline_mono (fun _ _ h id receipt hr => absurd hr (h.2 id receipt))
    (outline_returns (outline_calls (φ := fun _ => True) (ψ := fun _ => True)
      (fun _ _ _ _ _ _ _ _ => ⟨trivial, trivial, trivial⟩) (Prog.calls_true p) trivial) hp)

theorem afterSettle_bill (purchaseId : String) (claims : Claims) (r : Except PyErr SettleResult)
    (h : ∀ receipt, r = .ok (.accepted receipt) → ∃ quote order, γ.Kept first intent quote order ∧
      (ports intent.merchantId = some .rappiBridge → ∃ q body, quote = some q ∧
        order = some body ∧ body.captureToken.amount = q.total)) :
    Outline billSystem billSpec i (CapturedAs ports first intent)
      (afterSettle fuel purchaseId claims intent r) γ := by
  rcases r with (⟨code, m⟩ | _ | _ | _) | (receipt | ⟨code, detail⟩)
  case ok.accepted =>
    obtain ⟨quote, order, hkept, hsent⟩ := h receipt rfl
    exact finishCharge_bill purchaseId claims receipt hkept hsent
  all_goals exact bill_notCaptured (compensate_returns _ _ _ _ _ _)

theorem charge_bill (K : Deps) (ids : FreshIds) (purchaseId token : String) (claims : Claims)
    (signature : String) (rid : Option String) (h : γ.Kept first intent none none) :
    Outline billSystem billSpec i (CapturedAs ports first intent)
      (charge K ports fuel ids purchaseId token claims intent signature rid) γ := by
  refine kept_bind (Prog.calls_perform trivial) h (fun _ γ₁ h₁ => ?_) capturedAs_raise
  rcases hport : ports intent.merchantId with _ | (_ | _)
  · exact capturedAs_raise _ γ₁
  · -- the in-process merchant neither quotes nor orders
    refine kept_bind (Prog.calls_perform trivial) h₁ (fun found γ₂ h₂ => ?_) capturedAs_raise
    refine kept_bind (Prog.calls_attempt (localSettle_calls K ids token intent signature
      (liveState_calls trivial) trivial trivial (fun _ => trivial) (fun _ => trivial)
      fun _ => trivial)) h₂ (fun r γ₃ h₃ => ?_) capturedAs_raise
    refine afterSettle_bill purchaseId claims r fun _ _ => ⟨none, none, h₃, fun hbridge => ?_⟩
    rw [hport] at hbridge
    cases hbridge
  · refine kept_bind (Prog.calls_perform trivial) h₁ (fun found γ₂ h₂ => ?_) capturedAs_raise
    refine outline_bind (outline_attempt (rappiSettle_outline K _ claims rid h₂)) ?_
      fun x γ' _ => capturedAs_raise x γ'
    rintro r γ₃ ⟨_, ⟨rfl⟩, hsent⟩
    refine afterSettle_bill purchaseId claims r fun receipt hr => ?_
    obtain ⟨q, body, hkept, hamount⟩ := hsent receipt hr
    exact ⟨some q, some body, hkept, fun _ => ⟨q, body, rfl, rfl, hamount⟩⟩

/-! ## The saga -/

/-- A purchase that ends captured passed the gate of its signed mandate. -/
def GatedAs (K : Deps) (ports : String → Option Port) (r : Except PyErr Outcome) (b : Bill) :
    Prop :=
  ∀ id receipt, r = .ok (.captured id receipt) → ∃ first intent claims, b.intent = some intent ∧
    (K.verifyToken first.token = .ok claims ∧ intent.amount ≤ claims.limits.maxPerTxn) ∧
      (ports intent.merchantId = some .rappiBridge → Sent first intent b)

theorem gatedAs_raise {K : Deps} (x : PyErr) (γ' : Bill) : GatedAs K ports (.error x) γ' :=
  fun id receipt h => by cases h

theorem gatedAs_rejected {K : Deps} (id : Option String) (code detail : String) (γ' : Bill) :
    GatedAs K ports (.ok (.rejected id code detail)) γ' :=
  fun id receipt h => by cases h

theorem admits_keepsBill (intent : Intent) :
    AdmitsVerify (Call.keepsBill intent.amount) intent where
  read c hc := by cases c <;> trivial
  log _ := trivial
  expire _ := trivial
  release _ _ := trivial
  record _ := trivial
  reserve j row hfits := ⟨rfl, by omega⟩

theorem afterVerify_bill (K : Deps) (ids : FreshIds) (token : String) (claims : Claims)
    (signature : String) (v : Verified) (htoken : token = first.token)
    (hv : v.decision.decision = .approved → ∃ claims, K.verifyToken token = .ok claims ∧
      intent.amount ≤ claims.limits.maxPerTxn) (h : γ.Kept first intent none none) :
    Outline billSystem billSpec i (GatedAs K ports)
      (afterVerify K ports fuel ids token claims intent signature v) γ := by
  unfold afterVerify
  cases hd : v.decision.decision with
  | approved =>
    obtain ⟨signed, hsigned⟩ := hv hd
    refine outline_mono (fun r γ' hr id receipt hcap => ?_)
      (charge_bill K ids ids.purchaseId token claims signature v.reservationId h)
    obtain ⟨hbuys, hsent⟩ := hr id receipt hcap
    exact ⟨first, intent, signed, hbuys, htoken ▸ hsigned, hsent⟩
  | rejected =>
    refine kept_bind (Prog.calls_perform trivial) h (fun _ γ₁ h₁ => ?_) gatedAs_raise
    exact kept_bind (Prog.calls_perform trivial) h₁ (fun _ γ₂ _ => gatedAs_rejected _ _ _ γ₂)
      gatedAs_raise
  | escalated =>
    refine kept_bind (Prog.calls_perform trivial) h (fun _ γ₁ h₁ => ?_) gatedAs_raise
    refine kept_bind (Prog.calls_perform trivial) h₁ (fun _ γ₂ _ => ?_) gatedAs_raise
    exact fun id receipt hcap => by cases hcap

theorem submitPurchase_bill (K : Deps) (ids : FreshIds) (offerId mandateJti merchantId : String) :
    Outline billSystem billSpec i (GatedAs K ports)
      (submitPurchase K ports fuel ids offerId mandateJti merchantId) Bill.start := by
  -- the two reads before the purchase is inserted
  refine outline_bind (Q := fun r γ' => ∀ row, r = .ok (some row) →
    γ' = { Bill.start with read := some row, mandate := some row }) (bill_call fun e db row hr => ?_)
    (fun row γ₁ h₁ => ?_) fun x γ' _ => gatedAs_raise x γ'
  · rw [hr]
    rfl
  cases row with
  | none => exact gatedAs_raise _ γ₁
  | some row =>
    dsimp only
    cases ports merchantId with
    | none => exact gatedAs_rejected _ _ _ γ₁
    | some port =>
      refine outline_bind (Q := fun r γ' => γ' = γ₁) (bill_call fun e db => by
        generalize (sem e _ db).1 = r
        cases r <;> rfl) ?_ fun x γ' _ => gatedAs_raise x γ'
      rintro found γ₂ rfl
      cases found with
      | none => exact gatedAs_rejected _ _ _ γ₂
      | some offer =>
        refine outline_bind (Q := fun r γ' => γ' = γ₂) (bill_call fun e db => by
          generalize (sem e _ db).1 = r
          cases r <;> rfl) ?_ fun x γ' _ => gatedAs_raise x γ'
        rintro issued γ₃ rfl
        have hstart := h₁ row rfl
        set intent := buildIntent ids mandateJti row.claims.agent offer issued with hintent
        refine outline_bind (Q := onOk fun _ γ' => γ'.Kept row intent none none)
          (bill_call fun e db => ?_) (fun _ γ₄ h₄ => ?_) fun x γ' _ => gatedAs_raise x γ'
        · generalize (sem e _ db).1 = r
          cases r with
          | error x => trivial
          | ok u =>
            rw [hstart]
            exact ⟨rfl, rfl, rfl, rfl, by simp [Bill.ReservedAs, Bill.advance, Bill.start],
              by simp [Bill.DebitedAs, Bill.advance, Bill.start]⟩
        refine kept_bind (Prog.calls_perform trivial) h₄ (fun _ γ₅ h₅ => ?_) gatedAs_raise
        refine outline_bind (outline_returns (bill_kept (verify_calls K ports fuel
          (admits_keepsBill intent) ids row.token _ true) h₅)
            (verify_returns K ports fuel ids row.token intent _ true)) (fun v γ₆ h₆ => ?_)
          fun x γ' _ => gatedAs_raise x γ'
        exact afterVerify_bill K ids row.token row.claims _ v rfl (fun hv => h₆.2 v rfl hv) h₆.1

/-- The authorised amount is the debited one, and it respects the limit per transaction and the
budget left on every mandate of the chain. -/
structure ChargedRight (claims : Claims) (intent : Intent) (order : PlaceOrder) (b : Bill) :
    Prop where
  equal : parseMoney order.captureToken.amount = some (.cents intent.amount)
  perTxn : ∀ a, parseMoney order.captureToken.amount = some (.cents a) →
    a ≤ claims.limits.maxPerTxn
  budget : ∀ a, parseMoney order.captureToken.amount = some (.cents a) → ∀ x ∈ b.reserved,
    x.1.spentTotal + x.1.reservedAmount + a ≤ x.1.claims.limits.totalBudget

theorem chargedRight_iff {claims : Claims} {body : PlaceOrder} {q : Quote} {b : Bill}
    (hgate : intent.amount ≤ claims.limits.maxPerTxn) (hreserved : b.ReservedAs intent.amount)
    (hamount : body.captureToken.amount = q.total) :
    ChargedRight claims intent body b ↔ parseMoney q.total = some (.cents intent.amount) := by
  constructor
  · intro h
    have hequal := h.equal
    rwa [hamount] at hequal
  · intro h
    have huniq : ∀ a, parseMoney body.captureToken.amount = some (.cents a) → a = intent.amount := by
      intro a ha
      rw [hamount, h] at ha
      exact (Money.cents.inj (Option.some.inj ha)).symm
    refine ⟨hamount ▸ h, fun a ha => huniq a ha ▸ hgate, fun a ha x hx => ?_⟩
    obtain ⟨hwritten, hfits⟩ := hreserved x hx
    rw [huniq a ha]
    omega

/-- **Settled and charged**: a purchase that ends captured through the bridge reserved and debited
the intent's amount; it authorised that amount, within the limits, exactly when the quote's total is
that amount. -/
theorem settled_amount_iff (K : Deps) (ports : String → Option Port) (fuel : ℕ) (ids : FreshIds)
    (offerId mandateJti merchantId : String) (c : Config ι Call Res PyErr Outcome Db Bill) (i : ι)
    (hprog : c.prog i = submitPurchase K ports fuel ids offerId mandateJti merchantId)
    (hhist : c.hist i = .start) (xs : List (ι × Env)) (id : String) (receipt : Receipt)
    (hend : (billSystem.run c xs).prog i = .ret (.captured id receipt)) (intent : Intent)
    (hintent : ((billSystem.run c xs).hist i).intent = some intent)
    (hbridge : ports intent.merchantId = some .rappiBridge) :
    ∃ first claims quote order,
      ((billSystem.run c xs).hist i).Kept first intent (some quote) (some order) ∧
        K.verifyToken first.token = .ok claims ∧
          (ChargedRight claims intent order ((billSystem.run c xs).hist i) ↔
            parseMoney quote.total = some (.cents intent.amount)) := by
  have hstart : Outlined billSystem billSpec (fun j r b => j = i → GatedAs K ports r b) c := by
    refine ⟨trivial, fun j => ?_⟩
    by_cases hj : j = i
    · subst hj
      rw [hprog, hhist]
      exact outline_mono (fun r γ' h _ => h)
        (submitPurchase_bill K ids offerId mandateJti merchantId)
    · exact outline_mono (fun r γ' _ h => absurd h hj) (outline_calls (φ := fun _ => True)
        (ψ := fun _ => True) (fun _ _ _ _ _ _ _ _ => ⟨trivial, trivial, trivial⟩)
        (Prog.calls_true _) trivial)
  have hfinal := (outline_run hstart (System.along_of_forall _
    (fun _ _ _ _ _ => trivial) c xs)).2.outline i
  rw [hend] at hfinal
  obtain ⟨first, intent', claims, hbuys, ⟨htoken, hgate⟩, hsent⟩ := hfinal rfl id receipt rfl
  obtain rfl : intent = intent' := Option.some.inj (hintent.symm.trans hbuys)
  obtain ⟨q, body, hkept, hamount⟩ := hsent hbridge
  exact ⟨first, claims, q, body, hkept, htoken, chargedRight_iff hgate hkept.reserved hamount⟩

end Pool

/-! ### A delivery fee -/

/-- A mandate of 42000.00 per purchase. -/
def groceryClaims : Claims :=
  ⟨"mdt", "agt", "ppt", "COP", [], [], .null, ⟨4200000, 9000000, none⟩, 0, 100⟩

/-- A product of 40000.00. -/
def groceryOffer : Offer :=
  ⟨"off", "rappi", "groceries", "milk", 4000000, "COP", some ⟨"900", "turbo", "p1", "milk", 40000⟩⟩

/-- Signatures that verify. -/
def groceryDeps : Deps where
  verifyToken _ := .ok groceryClaims
  verifyDetached _ _ _ := .ok ()
  signDetached _ _ := ""
  evaluate _ _ _ := .ok true
  describe _ := ""
  bridgeMessage _ := ""

/-- The ids of the purchase. -/
def groceryIds : FreshIds := ⟨"pur", "pit", "nonce", "res", "cap", "rct", "esc"⟩

/-- The intent of the purchase. -/
def groceryIntent : Intent := buildIntent groceryIds "mdt" "agt" groceryOffer 10

/-- One purchase of the product, before its first call. -/
def groceryStart : Config Unit Call Res PyErr Outcome Db Bill where
  shared :=
    { mandates := fun j => if j = "mdt" then some
        { status := .active, claims := groceryClaims, token := "", reservedAmount := 0
          spentTotal := 0, txnCount := 0, parentJti := none }
      else none
      instruments := fun _ => some .active
      captures := fun _ => none
      intents := []
      purchases := fun _ => none
      audit := []
      escalations := []
      bridgeOrders := [] }
  prog _ := submitPurchase groceryDeps (fun _ => some .rappiBridge) 2 groceryIds "off" "mdt" "rappi"
  hist _ := .start

/-- The purchase carried out, with the bridge quoting this total and confirming the order. -/
def groceryRun (total : String) : Config Unit Call Res PyErr Outcome Db Bill :=
  billSystem.run groceryStart (List.replicate 29 ((),
    { fail := none
      now := 10
      offer := some groceryOffer
      dryRun := false
      quote := ⟨total, "hash", some "address", ""⟩
      order := .confirmed (some "order") (some total) "" }))

theorem settled_amount_iff_grocery : ∃ first claims quote order,
    ((groceryRun "40000.00").hist ()).Kept first groceryIntent (some quote) (some order) ∧
      groceryDeps.verifyToken first.token = .ok claims ∧
        (ChargedRight claims groceryIntent order ((groceryRun "40000.00").hist ()) ↔
          parseMoney quote.total = some (.cents groceryIntent.amount)) :=
  settled_amount_iff groceryDeps (fun _ => some .rappiBridge) 2 groceryIds "off" "mdt" "rappi"
    groceryStart () rfl rfl _ _ _ rfl _ rfl rfl

/-- **A delivery fee of 3900.00**: the bridge is authorised for more than the kernel debits, and
for more than the mandate allows per transaction. -/
theorem settled_amount_differs : ¬ ∀ total id receipt order,
    (groceryRun total).prog () = .ret (.captured id receipt) →
      ((groceryRun total).hist ()).order = some order →
        ChargedRight groceryClaims groceryIntent order ((groceryRun total).hist ()) := by
  intro h
  have hcharged := h "43900.00" _ _ _ rfl rfl
  exact absurd hcharged.equal (by decide)

end TryTrust.Agent
