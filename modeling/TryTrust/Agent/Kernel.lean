import TryTrust.Agent.Ports

/-!
# The kernel: gate, verify and the purchase saga

* `gate`: the pure decision table; `verify`: identity, liveness, gate, atomic reservation;
* `charge`: settlement through the merchant's port, then `settle` or `compensate`;
* `submitPurchase`: the whole saga.
-/

namespace TryTrust.Agent

open Conc

/-- The verdicts. -/
inductive Verdict where
  | approved
  | escalated
  | rejected
  deriving DecidableEq, Repr

/-- A decision with its reason and the differences shown to a human. -/
structure Decision where
  decision : Verdict
  reasonCode : Option String
  detail : String
  diff : List (String × String)

/-- A refusal without a diff. -/
def Decision.reject (code detail : String) : Decision := ⟨.rejected, some code, detail, []⟩

/-- Python's text of a list of strings. -/
def pyList (items : List String) : String :=
  "[" ++ ", ".intercalate (items.map fun s => "'" ++ s ++ "'") ++ "]"

/-- The counters the gate sees. -/
structure Spend where
  spentTotal : ℤ
  reservedAmount : ℤ
  txnCount : ℕ

/-- **The decision table**: is this purchase inside the mandate? -/
def gate (K : Deps) (claims : Claims) (intent : Intent) (offer : Offer) (spend : Spend) (now : ℤ) :
    Decision :=
  let amount := intent.amount
  let limits := claims.limits
  if claims.categories ≠ [] ∧ offer.category ∉ claims.categories then
    .reject "CATEGORY_FORBIDDEN" (offer.category ++ " is not in " ++ pyList claims.categories)
  else if claims.merchants ≠ [] ∧ offer.merchantId ∉ claims.merchants then
    .reject "MERCHANT_NOT_ALLOWED" (offer.merchantId ++ " is not in " ++ pyList claims.merchants)
  else if intent.currency ≠ claims.currency then
    .reject "CONDITION_FAILED" ("currency " ++ intent.currency ++ " != " ++ claims.currency)
  else if ∃ count ∈ limits.maxTxnCount, count ≤ spend.txnCount then
    .reject "LIMIT_EXHAUSTED" (toString spend.txnCount ++ " of " ++
      toString (limits.maxTxnCount.getD 0) ++ " purchases used")
  else
    let remaining := limits.totalBudget - (spend.spentTotal + spend.reservedAmount)
    if amount > remaining then
      ⟨.rejected, some "BUDGET_EXCEEDED",
        fmt amount ++ " exceeds remaining budget " ++ fmt remaining,
        [("amount", fmt amount), ("remaining_budget", fmt remaining)]⟩
    else if amount > limits.maxPerTxn then
      ⟨.escalated, some "AMOUNT_EXCEEDS_PER_TXN",
        fmt amount ++ " is over the " ++ fmt limits.maxPerTxn ++ " per-purchase limit",
        [("amount", fmt amount), ("limit", fmt limits.maxPerTxn),
          ("over_by", fmt (amount - limits.maxPerTxn)), ("offer", offer.title)]⟩
    else
      match K.evaluate (claims.conditions.orElse (.bool true)) offer now with
      | .error x => .reject "CONDITION_FAILED" ("unevaluable condition: " ++ x)
      | .ok false =>
        ⟨.escalated, some "CONDITION_FAILED",
          "fails the buyer's condition: " ++ K.describe claims.conditions,
          [("condition", K.describe claims.conditions), ("offer_price", fmt offer.price),
            ("offer", offer.title)]⟩
      | .ok true => ⟨.approved, none, "", []⟩

/-- An answer of `verify`. -/
structure Verified where
  decision : Decision
  reservationId : Option String

/-- Write the refusal to the log and answer it. -/
def refuse (mandateJti : Option String) (code detail : String) : Py Verified := do
  call (.auditAppend ⟨"purchase.refused", code, mandateJti⟩)
  pure ⟨.reject code detail, none⟩

/-- How long an intent may live, in seconds. -/
def intentTtl : ℤ := 120

/-- The registered merchant ports: the in-process merchant, or the bridge. -/
inductive Port where
  | mock
  | rappiBridge
  deriving DecidableEq, Repr

/-- The ancestors of a mandate in turn; the first one that is not active, with its status. -/
def deadAncestor : List String → Py (Option (String × MandateStatus))
  | [] => pure none
  | ancestor :: rest => do
    match ← call (.selectStatus ancestor) with
    | some status => if status ≠ .active then pure (some (ancestor, status)) else deadAncestor rest
    | none => deadAncestor rest

theorem refuse_calls {φ : Call → Prop} (h : ∀ ev, φ (.auditAppend ev)) (mandateJti : Option String)
    (code detail : String) : (refuse mandateJti code detail).Calls φ :=
  Prog.calls_bind (Prog.calls_perform (h _)) fun _ => trivial

theorem deadAncestor_calls {φ : Call → Prop} (h : ∀ j, φ (.selectStatus j)) (jtis : List String) :
    (deadAncestor jtis).Calls φ := by
  induction jtis with
  | nil => trivial
  | cons jti rest ih =>
    refine Prog.calls_bind (Prog.calls_perform (h jti)) fun r => ?_
    cases r with
    | none => exact ih
    | some status =>
      dsimp only
      split_ifs
      · trivial
      · exact ih

section

variable (K : Deps) (ports : String → Option Port) (fuel : ℕ)

/-- The third check and the reservation, once the mandate is known to be alive. -/
def verifyGate (ids : FreshIds) (claims : Claims) (row : MandateRow) (intent : Intent)
    (signature : String) (now : ℤ) (reserve : Bool) : Py Verified := do
  match ports intent.merchantId with
  | none =>
    refuse claims.jti "MERCHANT_NOT_ALLOWED"
      ("no merchant registered as '" ++ intent.merchantId ++ "'")
  | some _ =>
    match ← call (.portGet intent.merchantId intent.offerId) with
    | none => refuse claims.jti "RAIL_ERROR" "offer withdrawn"
    | some offer =>
      if intent.amount ≠ offer.price then
        refuse claims.jti "AMOUNT_MISMATCH"
          ("intent " ++ fmt intent.amount ++ " != catalog " ++ fmt offer.price)
      else
        let spend : Spend := ⟨row.spentTotal, row.reservedAmount, row.txnCount⟩
        let decision := gate K claims intent offer spend now
        if decision.decision ≠ .approved ∨ !reserve then
          call (.auditAppend ⟨"purchase.gated", intent.jti, some claims.jti⟩)
          pure ⟨decision, none⟩
        else
          let won : Bool ← reserveChain fuel claims.jti intent.amount
          if !won then
            refuse claims.jti "BUDGET_EXCEEDED"
              "mandate state changed during the check, or an ancestor mandate cannot cover it"
          else
            call (.insertIntent intent signature)
            call (.auditAppend ⟨"purchase.verified", intent.jti, some claims.jti⟩)
            pure ⟨⟨.approved, none, "", []⟩, some ids.reservationId⟩

theorem verifyGate_calls {φ : Call → Prop} (ha : ∀ ev, φ (.auditAppend ev))
    (hg : ∀ m o, φ (.portGet m o)) {intent : Intent} (hi : ∀ s, φ (.insertIntent intent s))
    (hr : ∀ jti, (reserveChain fuel jti intent.amount).Calls φ) (ids : FreshIds) (claims : Claims)
    (row : MandateRow) (signature : String) (now : ℤ) (reserve : Bool) :
    (verifyGate K ports fuel ids claims row intent signature now reserve).Calls φ := by
  have href : ∀ code detail, (refuse claims.jti code detail).Calls φ :=
    fun code detail => refuse_calls ha _ _ _
  simp only [verifyGate]
  cases ports intent.merchantId with
  | none => exact href _ _
  | some port =>
    refine Prog.calls_bind (Prog.calls_perform (hg _ _)) fun offer => ?_
    cases offer with
    | none => exact href _ _
    | some offer =>
      dsimp only
      split_ifs
      · exact href _ _
      · exact Prog.calls_bind (Prog.calls_perform (ha _)) fun _ => trivial
      · refine Prog.calls_bind (hr _) fun won => ?_
        cases won with
        | false => exact href _ _
        | true =>
          exact Prog.calls_bind (Prog.calls_perform (hi _)) fun _ =>
            Prog.calls_bind (Prog.calls_perform (ha _)) fun _ => trivial

/-- Is the mandate alive? The row is read here, and its status at the end may be overwritten. -/
def verifyAlive (ids : FreshIds) (claims : Claims) (intent : Intent) (signature : String)
    (now : ℤ) (reserve : Bool) : Py Verified := do
  match ← call (.selectMandate claims.jti) with
  | none => refuse claims.jti "MANDATE_REVOKED" "unknown mandate"
  | some row =>
    if row.status = .revoked then refuse claims.jti "MANDATE_REVOKED" "revoked by the holder"
    else
      let jtis ← chain fuel claims.jti
      match ← deadAncestor jtis.tail with
      | some (ancestor, status) =>
        refuse claims.jti "MANDATE_REVOKED"
          ("parent mandate " ++ ancestor ++ " is " ++ status.value)
      | none =>
        if row.status = .suspended then refuse claims.jti "MANDATE_SUSPENDED" "suspended"
        else if row.status = .exhausted then refuse claims.jti "MANDATE_EXHAUSTED" "no budget left"
        else if now < claims.nbf then refuse claims.jti "MANDATE_NOT_YET_VALID" "not valid yet"
        else if now > claims.exp then
          call (.updateExpired claims.jti)
          refuse claims.jti "MANDATE_EXPIRED" "past its validity window"
        else verifyGate K ports fuel ids claims row intent signature now reserve

/-- **The three checks in order**, then the reservation. -/
def verify (ids : FreshIds) (token : String) (intent : Intent) (signature : String)
    (reserve : Bool) : Py Verified :=
  match K.verifyToken token with
  | .error (.badSignature m) => refuse none "INVALID_SIGNATURE" m
  | .error x => .raise x
  | .ok claims =>
    match K.verifyDetached signature intent claims with
    | .error (.badSignature m) => refuse claims.jti "INVALID_PROOF_OF_POSSESSION" m
    | .error x => .raise x
    | .ok () =>
      if intent.mandateJti ≠ claims.jti then
        refuse claims.jti "INVALID_PROOF_OF_POSSESSION" "intent does not name this mandate"
      else do
        let now : ℤ ← call .nowTs
        if intent.exp - intent.iat > intentTtl then
          refuse claims.jti "INVALID_SIGNATURE" "intent lifetime over 120s"
        else if now > intent.exp then refuse claims.jti "INVALID_SIGNATURE" "intent expired"
        else
          let seen : Bool ← call (.selectIntentSeen intent.jti intent.nonce)
          if seen then refuse claims.jti "DUPLICATE_JTI" "intent id or nonce reused"
          else verifyAlive K ports fuel ids claims intent signature now reserve

/-! ### The calls and the ends of the check -/

/-- The calls that only read. -/
def Call.reads : Call → Bool
  | .selectMandate _ => true
  | .selectParent _ => true
  | .selectReserved _ => true
  | .selectStatus _ => true
  | .selectIntentSeen _ _ => true
  | .nowTs => true
  | .portGet _ _ => true
  | _ => false

/-- `φ` admits every call of a `verify` of this intent. -/
structure AdmitsVerify (φ : Call → Prop) (intent : Intent) : Prop where
  read : ∀ c : Call, c.reads = true → φ c
  log : ∀ ev, φ (.auditAppend ev)
  expire : ∀ j, φ (.updateExpired j)
  release : ∀ j r, φ (.updateReserved j r)
  record : ∀ s, φ (.insertIntent intent s)
  reserve : ∀ j row,
    row.spentTotal + row.reservedAmount + intent.amount ≤ row.claims.limits.totalBudget →
      φ (.casReserve j row (row.reservedAmount + intent.amount))

/-- A property of checks that holds of refusals and passes through the calls before the gate. -/
structure VerifyRule (P : Py Verified → Prop) : Prop where
  raise : ∀ x, P (.raise x)
  refuse : ∀ jti code detail, P (refuse jti code detail)
  read : ∀ c f, c.reads = true → (∀ a, P (f a)) → P ((call c).bind f)
  expire : ∀ jti p, P p → P ((call (.updateExpired jti)).bind fun _ => p)

section Verify

variable {P : Py Verified → Prop} (h : VerifyRule P) {K ports fuel}

include h

theorem chain_rule {f : List String → Py Verified} (hf : ∀ jtis, P (f jtis)) (fuel : ℕ)
    (jti : String) : P ((chain fuel jti).bind f) := by
  have hloop : ∀ (fuel : ℕ) current seen, P ((chainLoop fuel current seen).bind f) := by
    intro fuel
    induction fuel with
    | zero => exact fun _ seen => hf seen
    | succ fuel ih =>
      intro current seen
      cases current with
      | none => exact hf seen
      | some jti =>
        simp only [chainLoop]
        split_ifs
        · exact hf seen
        · refine (congrArg P (Prog.bind_assoc _ _ _)).mpr ?_
          exact h.read (.selectParent jti) _ rfl fun _ => ih _ _
  exact hloop fuel _ _

theorem deadAncestor_rule {f : Option (String × MandateStatus) → Py Verified}
    (hf : ∀ d, P (f d)) (jtis : List String) : P ((deadAncestor jtis).bind f) := by
  induction jtis with
  | nil => exact hf none
  | cons jti rest ih =>
    refine (congrArg P (Prog.bind_assoc _ _ _)).mpr ?_
    refine h.read (.selectStatus jti) _ rfl fun r => ?_
    cases r with
    | none => exact ih
    | some status =>
      dsimp only
      split_ifs
      · exact hf _
      · exact ih

theorem verifyAlive_rule {ids : FreshIds} {claims : Claims} {intent : Intent} {signature : String}
    {now : ℤ} {reserve : Bool}
    (hgate : ∀ row, P (verifyGate K ports fuel ids claims row intent signature now reserve)) :
    P (verifyAlive K ports fuel ids claims intent signature now reserve) := by
  refine h.read _ _ rfl fun r => ?_
  cases r with
  | none => exact h.refuse _ _ _
  | some row =>
    dsimp only
    by_cases hrevoked : row.status = .revoked
    · rw [if_pos hrevoked]
      exact h.refuse _ _ _
    rw [if_neg hrevoked]
    refine chain_rule h (fun jtis => ?_) fuel claims.jti
    refine deadAncestor_rule h (fun dead => ?_) jtis.tail
    cases dead with
    | some d => exact h.refuse _ _ _
    | none =>
      dsimp only
      split_ifs
      · exact h.refuse _ _ _
      · exact h.refuse _ _ _
      · exact h.refuse _ _ _
      · exact h.expire _ _ (h.refuse _ _ _)
      · exact hgate row

/-- **The checks before the gate** only read, refuse, or expire the mandate. -/
theorem verify_rule {ids : FreshIds} {token : String} {intent : Intent} {signature : String}
    {reserve : Bool}
    (hgate : ∀ claims row now, K.verifyToken token = .ok claims → intent.mandateJti = claims.jti →
      P (verifyGate K ports fuel ids claims row intent signature now reserve)) :
    P (verify K ports fuel ids token intent signature reserve) := by
  simp only [verify]
  rcases htoken : K.verifyToken token with (_ | _ | _ | _) | claims
  case error.badSignature => exact h.refuse _ _ _
  case ok =>
    dsimp only
    rcases K.verifyDetached signature intent claims with (_ | _ | _ | _) | ⟨⟩
    case error.badSignature => exact h.refuse _ _ _
    case ok =>
      dsimp only
      by_cases hname : intent.mandateJti ≠ claims.jti
      · rw [if_pos hname]
        exact h.refuse _ _ _
      rw [if_neg hname]
      refine h.read .nowTs _ rfl fun (now : ℤ) => ?_
      by_cases httl : intent.exp - intent.iat > intentTtl
      · rw [if_pos httl]
        exact h.refuse _ _ _
      rw [if_neg httl]
      by_cases hexp : now > intent.exp
      · rw [if_pos hexp]
        exact h.refuse _ _ _
      rw [if_neg hexp]
      refine h.read _ _ rfl fun seen => ?_
      cases seen with
      | true => exact h.refuse _ _ _
      | false =>
        exact verifyAlive_rule h fun row => hgate claims row now htoken (not_not.1 hname)
    all_goals exact h.raise _
  all_goals exact h.raise _

end Verify

theorem admits_rule {φ : Call → Prop} {intent : Intent} (hφ : AdmitsVerify φ intent) :
    VerifyRule fun p : Py Verified => p.Calls φ where
  raise _ := trivial
  refuse _ _ _ := refuse_calls hφ.log _ _ _
  read _ _ hc hf := Prog.calls_bind (Prog.calls_perform (hφ.read _ hc)) hf
  expire _ _ hp := Prog.calls_bind (Prog.calls_perform (hφ.expire _)) fun _ => hp

theorem admits_gate {φ : Call → Prop} {intent : Intent} (hφ : AdmitsVerify φ intent)
    (ids : FreshIds) (claims : Claims) (row : MandateRow) (signature : String) (now : ℤ)
    (reserve : Bool) :
    (verifyGate K ports fuel ids claims row intent signature now reserve).Calls φ :=
  verifyGate_calls K ports fuel hφ.log (fun _ _ => hφ.read _ rfl) hφ.record
    (reserveChain_calls (fun _ => hφ.read _ rfl) (fun _ => hφ.read _ rfl) hφ.release
      (fun _ => hφ.read _ rfl) hφ.reserve fuel) ids claims row signature now reserve

theorem verifyAlive_calls {φ : Call → Prop} {intent : Intent} (hφ : AdmitsVerify φ intent)
    (ids : FreshIds) (claims : Claims) (signature : String) (now : ℤ) (reserve : Bool) :
    (verifyAlive K ports fuel ids claims intent signature now reserve).Calls φ :=
  verifyAlive_rule (admits_rule hφ) fun row =>
    admits_gate K ports fuel hφ ids claims row signature now reserve

theorem verify_calls {φ : Call → Prop} {intent : Intent} (hφ : AdmitsVerify φ intent)
    (ids : FreshIds) (token : String) (signature : String) (reserve : Bool) :
    (verify K ports fuel ids token intent signature reserve).Calls φ :=
  verify_rule (admits_rule hφ) fun claims row now _ _ =>
    admits_gate K ports fuel hφ ids claims row signature now reserve

/-- The gate lets no purchase over the limit per transaction pass. -/
theorem gate_approved {claims : Claims} {intent : Intent} {offer : Offer} {spend : Spend} {now : ℤ}
    (h : (gate K claims intent offer spend now).decision = .approved) :
    intent.amount ≤ claims.limits.maxPerTxn := by
  by_contra hover
  unfold gate at h
  dsimp only at h
  rw [if_pos (by omega : intent.amount > claims.limits.maxPerTxn)] at h
  split_ifs at h <;> simp [Decision.reject] at h

/-- An answer that approves only a purchase for which `P` holds. -/
def ApprovesOnly (P : Prop) (r : Except PyErr Verified) : Prop :=
  ∀ v, r = .ok v → v.decision.decision = .approved → P

theorem refuse_returns (P : Prop) (mandateJti : Option String) (code detail : String) :
    (refuse mandateJti code detail).Returns (ApprovesOnly P) := by
  rintro (x | u) v ⟨rfl⟩ h
  exact absurd h (by simp [Decision.reject])

/-- After one more call, the ends of what follows. -/
theorem returns_call {α : Type} {c : Call} {Q : Except PyErr α → Prop} {f : Res c → Py α}
    (he : ∀ x, Q (.error x)) (hf : ∀ a, (f a).Returns Q) : ((call c).bind f).Returns Q := by
  intro r
  cases r with
  | ok a => exact hf a
  | error x => exact he x

theorem verifyGate_returns (ids : FreshIds) (claims : Claims) (row : MandateRow) (intent : Intent)
    (signature : String) (now : ℤ) (reserve : Bool) :
    (verifyGate K ports fuel ids claims row intent signature now reserve).Returns
      (ApprovesOnly (intent.amount ≤ claims.limits.maxPerTxn)) := by
  have herr : ∀ x : PyErr, ApprovesOnly (intent.amount ≤ claims.limits.maxPerTxn) (.error x) :=
    fun x v h => by cases h
  simp only [verifyGate]
  cases ports intent.merchantId with
  | none => exact refuse_returns _ _ _ _
  | some port =>
    refine returns_call herr fun offer => ?_
    cases offer with
    | none => exact refuse_returns _ _ _ _
    | some offer =>
      dsimp only
      split_ifs with hprice hstop
      · exact refuse_returns _ _ _ _
      · refine returns_call herr fun _ => ?_
        rintro v ⟨rfl⟩ h
        exact gate_approved K h
      · -- the gate approved before the reservation was tried
        push Not at hstop
        exact Prog.returns_of_forall
          (fun r v _ _ => gate_approved K hstop.1) _

/-- `verify` approves nothing over the limit per transaction of the signed mandate. -/
theorem verify_returns (ids : FreshIds) (token : String) (intent : Intent) (signature : String)
    (reserve : Bool) :
    (verify K ports fuel ids token intent signature reserve).Returns
      (ApprovesOnly (∃ claims, K.verifyToken token = .ok claims ∧
        intent.amount ≤ claims.limits.maxPerTxn)) := by
  have hrule : VerifyRule fun p : Py Verified => p.Returns (ApprovesOnly
      (∃ claims, K.verifyToken token = .ok claims ∧ intent.amount ≤ claims.limits.maxPerTxn)) :=
    { raise := fun x v h => by cases h
      refuse := refuse_returns _
      read := fun _ _ _ hf => returns_call (fun x v h => by cases h) hf
      expire := fun _ _ hp => returns_call (fun x v h => by cases h) fun _ => hp }
  refine verify_rule hrule fun claims row now htoken _ => ?_
  exact Prog.returns_mono (fun r h v hv ha => ⟨claims, htoken, h v hv ha⟩)
    (verifyGate_returns K ports fuel ids claims row intent signature now reserve)

/-! ## Settlement -/

/-- How a purchase ends for its caller. -/
inductive Outcome where
  | captured (purchaseId : String) (receipt : Receipt)
  | rejected (purchaseId : Option String) (reasonCode detail : String)
  | escalated (purchaseId escalationId reasonCode detail : String) (diff : List (String × String))

/-- Re-read the mandate's state at settlement time. -/
def liveState (jti : String) (reservationId : Option String) : Py Live := do
  match ← call (.selectLiveStatus jti) with
  | some .active => pure ⟨true, none, reservationId⟩
  | _ => pure ⟨false, some "MANDATE_REVOKED", none⟩

/-- Give the reservation back and record why. -/
def compensate (purchaseId : String) (claims : Claims) (intent : Intent) (code detail : String) :
    Py Outcome := do
  release fuel claims.jti intent.amount
  call (.updatePurchase purchaseId .compensated (.reason (some code)))
  call (.auditAppend ⟨"purchase.compensated", purchaseId, some claims.jti⟩)
  pure (.rejected (some purchaseId) code detail)

theorem liveState_calls {φ : Call → Prop} {jti : String} (h : φ (.selectLiveStatus jti))
    {rid : Option String} : (liveState jti rid).Calls φ := by
  refine Prog.calls_bind (Prog.calls_perform h) fun status => ?_
  rcases status with _ | (_ | _ | _ | _ | _ | _) <;> trivial

/-- A compensated purchase is not captured. -/
theorem compensate_returns (purchaseId : String) (claims : Claims) (intent : Intent)
    (code detail : String) : (compensate fuel purchaseId claims intent code detail).Returns
      fun r => ∀ id receipt, r ≠ .ok (.captured id receipt) := by
  have hraise : ∀ (x : PyErr) id receipt,
      (Except.error x : Except PyErr Outcome) ≠ .ok (.captured id receipt) :=
    fun x id receipt h => by cases h
  refine Prog.returns_bind (Prog.returns_of_forall (Q := fun _ => True) (fun _ => trivial) _)
    (fun _ _ => ?_) fun x _ => hraise x
  refine returns_call hraise fun _ => returns_call hraise fun _ => ?_
  exact fun id receipt h => by cases h

/-- The port's `settle`, with the kernel's token minter where the port asks for one. -/
def portSettle (ids : FreshIds) (port : Port) (offer : Offer) (claims : Claims) (token : String)
    (intent : Intent) (signature : String) (reservationId : Option String) : Py SettleResult :=
  match port with
  | .mock =>
    localSettle K ids token intent signature (liveState claims.jti reservationId)
  | .rappiBridge =>
    rappiSettle K offer claims intent (liveState claims.jti reservationId)
      (some fun amount cartHash => call (.mintToken intent.jti reservationId amount cartHash))

/-- The snapshot used when the port no longer knows the offer. -/
def unknownOffer (offerId : String) : Offer := ⟨offerId, "", "", offerId, 0, "", none⟩

/-- After the merchant accepted: the reservation becomes spend. -/
def finishCharge (purchaseId : String) (claims : Claims) (intent : Intent) (receipt : Receipt) :
    Py Outcome := do
  settle fuel claims.jti intent.amount
  call (.updatePurchase purchaseId .captured (.receipt receipt))
  call (.updateIntentCaptured intent.jti)
  call (.auditAppend ⟨"purchase.captured", purchaseId, some claims.jti⟩)
  pure (.captured purchaseId receipt)

/-- What the kernel does with the end of the port's `settle`. -/
def afterSettle (purchaseId : String) (claims : Claims) (intent : Intent) :
    Except PyErr SettleResult → Py Outcome
  | .error (.rail code m) => compensate fuel purchaseId claims intent code m
  | .error x => compensate fuel purchaseId claims intent "RAIL_ERROR" (clip 200 x.message)
  | .ok (.refused code detail) =>
    compensate fuel purchaseId claims intent (textOr code "RAIL_ERROR") detail
  | .ok (.accepted receipt) => finishCharge fuel purchaseId claims intent receipt

/-- **Settlement of an approved purchase.** -/
def charge (ids : FreshIds) (purchaseId : String) (token : String) (claims : Claims)
    (intent : Intent) (signature : String) (reservationId : Option String) : Py Outcome := do
  call (.updatePurchase purchaseId .charging (.reservation reservationId))
  match ports intent.merchantId with
  | none => .raise (.keyError ("no merchant registered as '" ++ intent.merchantId ++ "'"))
  | some port =>
    let found : Option Offer ← call (.portGet intent.merchantId intent.offerId)
    let offer := found.getD (unknownOffer intent.offerId)
    let result : Except PyErr SettleResult ←
      (portSettle K ids port offer claims token intent signature reservationId).attempt
    afterSettle fuel purchaseId claims intent result

/-- The intent of an offer; the amount is the offer's price. -/
def buildIntent (ids : FreshIds) (mandateJti agentId : String) (offer : Offer) (issued : ℤ) :
    Intent where
  mandateJti := mandateJti
  agent := agentId
  merchantId := offer.merchantId
  offerId := offer.offerId
  amount := offer.price
  currency := offer.currency
  nonce := ids.nonce
  jti := ids.intentJti
  iat := issued
  exp := issued + intentTtl

/-- What `submit_purchase` does with the verdict. -/
def afterVerify (ids : FreshIds) (token : String) (claims : Claims) (intent : Intent)
    (signature : String) (v : Verified) : Py Outcome :=
  let code := v.decision.reasonCode.getD ""
  match v.decision.decision with
  | .escalated => do
    call (.updatePurchase ids.purchaseId .awaitingEscalation (.reason v.decision.reasonCode))
    call (.openEscalation ids.escalationId ids.purchaseId code)
    pure (.escalated ids.purchaseId ids.escalationId code v.decision.detail v.decision.diff)
  | .rejected => do
    call (.updatePurchase ids.purchaseId .rejected (.reason v.decision.reasonCode))
    call (.auditAppend ⟨"purchase.rejected", ids.purchaseId, some claims.jti⟩)
    pure (.rejected (some ids.purchaseId) code v.decision.detail)
  | .approved =>
    charge K ports fuel ids ids.purchaseId token claims intent signature v.reservationId

/-- **The purchase saga**: intent, signature, verify, settlement or compensation. -/
def submitPurchase (ids : FreshIds) (offerId mandateJti merchantId : String) : Py Outcome := do
  match ← call (.selectMandate mandateJti) with
  | none => .raise (.keyError ("no such mandate: " ++ mandateJti))
  | some row =>
    let claims := row.claims
    match ports merchantId with
    | none =>
      pure (.rejected none "MERCHANT_NOT_ALLOWED"
        ("no merchant registered as '" ++ merchantId ++ "'"))
    | some _ =>
      match ← call (.portGet merchantId offerId) with
      | none =>
        pure (.rejected none "RAIL_ERROR" ("no such offer " ++ offerId ++ " at " ++ merchantId))
      | some offer =>
        let issued : ℤ ← call .nowTs
        let intent := buildIntent ids mandateJti claims.agent offer issued
        let signature := K.signDetached intent claims
        call (.insertPurchase ids.purchaseId intent)
        call (.auditAppend ⟨"purchase.requested", ids.purchaseId, some mandateJti⟩)
        let v ← verify K ports fuel ids row.token intent signature true
        afterVerify K ports fuel ids row.token claims intent signature v

end

end TryTrust.Agent
