import TryTrust.Decimal
import TryTrust.Policy.Exact

/-!
# The AP2 projection of a mandate

* `toMinorUnits` (`to_minor_units`); **`toMinorUnits_exact_iff`**: it loses nothing exactly for a
  whole number of cents with at most 28 significant digits;
* `constraintsFor` (`constraints_for`), and what a payment must `satisfy` of it;
* `permitted`: the currency, the merchant and the limit per purchase of the policy gate, for the
  domain's own classes (`nativeLimits`, `nativeScope`); `permitted_of_approved`;
* **`projection_faithful_iff`**: when the two agree and no amount is rounded.
-/

namespace TryTrust.Trustlib

/-! ## Minor units -/

/-- `to_minor_units`, with the default exponent; `none` for `decimal.Overflow`. -/
def toMinorUnits (amount : Dec) : Option ℤ :=
  let product := amount.mul ⟨100, 0⟩
  if product.coeff ≠ 0 ∧ 999999 < product.adjusted then none else some product.toIntegralValue

/-- A conversion that loses nothing. -/
def Exact (amount : Dec) : Prop := ∃ m, toMinorUnits amount = some m ∧ (m : ℚ) = 100 * amount.value

/-- A whole number of cents with at most 28 significant digits and a million digits in all. -/
def WholeCents (amount : Dec) : Prop :=
  ∃ (n : ℤ) (k : ℕ), n.natAbs < 10 ^ 28 ∧ (n ≠ 0 → digitCount n.natAbs + k ≤ 1000000) ∧
    100 * amount.value = n * 10 ^ k

theorem toIntegralValue_lt {d : Dec} (hexp : ¬ 0 ≤ d.exp) :
    d.toIntegralValue.natAbs ≤ d.coeff.natAbs := by
  unfold Dec.toIntegralValue
  rw [if_neg hexp]
  exact natAbs_roundHalfEven_le (Nat.pow_pos (by decide))
    (Nat.le_mul_of_pos_left _ (Nat.pow_pos (by decide)))

theorem value_product (amount : Dec) :
    (⟨amount.coeff * 100, amount.exp + 0⟩ : Dec).value = 100 * amount.value := by
  unfold Dec.value
  push_cast
  rw [add_zero]
  ring

theorem wholeCents_of_exact {amount : Dec} (h : Exact amount) : WholeCents amount := by
  obtain ⟨m, hm, hexact⟩ := h
  have hdigits : (amount.mul ⟨100, 0⟩).coeff.natAbs < 10 ^ 28 := Dec.fix_digits _
  unfold toMinorUnits at hm
  simp only at hm
  split_ifs at hm with hover
  obtain rfl := Option.some.inj hm
  generalize amount.mul ⟨100, 0⟩ = p at *
  rw [not_and, not_lt] at hover
  unfold WholeCents
  rw [← hexact]
  by_cases hexp : 0 ≤ p.exp
  · refine ⟨p.coeff, p.exp.toNat, hdigits, fun hzero => ?_, ?_⟩
    · have := hover hzero
      unfold Dec.adjusted at this
      omega
    · unfold Dec.toIntegralValue
      rw [if_pos hexp]
      push_cast
      rfl
  · have hle := toIntegralValue_lt hexp
    refine ⟨p.toIntegralValue, 0, by omega, fun _ => ?_, by simp⟩
    have := (digitCount_le_iff (k := 28) (by decide)).2 (lt_of_le_of_lt hle hdigits)
    omega

theorem exact_of_wholeCents {amount : Dec} (h : WholeCents amount) : Exact amount := by
  obtain ⟨n, k, hn, hsize, hvalue⟩ := h
  have hcast : (n : ℚ) * 10 ^ k = (⟨n, k⟩ : Dec).value := by
    unfold Dec.value
    rw [zpow_natCast]
  -- the product is kept, so it is the number itself
  have hkept : (amount.mul ⟨100, 0⟩).value = (⟨n, k⟩ : Dec).value := by
    rw [← hcast, ← hvalue, ← value_product]
    exact Dec.fix_whole hn (by rw [value_product, hvalue, hcast]; rfl)
  have hm : (amount.mul ⟨100, 0⟩).toIntegralValue = n * 10 ^ k := by
    apply Dec.toIntegralValue_of_value
    rw [hkept, ← hcast]
    push_cast
    rfl
  refine ⟨n * 10 ^ k, ?_, by push_cast; rw [hvalue]⟩
  unfold toMinorUnits
  simp only
  rw [if_neg, hm]
  rintro ⟨hzero, hover⟩
  have hn0 : n ≠ 0 := by
    rintro rfl
    rw [← hcast, Int.cast_zero, zero_mul, Dec.value_eq_zero_iff] at hkept
    exact hzero hkept
  have hplace := Dec.adjusted_of_value hkept hn0
  have := hsize hn0
  unfold Dec.adjusted at hplace hover
  simp only at hplace
  omega

/-- **Nothing is lost exactly for a whole number of cents with at most 28 significant digits.** -/
theorem toMinorUnits_exact_iff (amount : Dec) : Exact amount ↔ WholeCents amount :=
  ⟨wholeCents_of_exact, exact_of_wholeCents⟩

/-! ## The mandate and its constraints -/

/-- `Period`. -/
inductive Period where
  | day
  | week
  | month
  deriving DecidableEq, Repr

/-- `MaxTxn`. -/
structure MaxTxn where
  count : ℤ
  period : Period

/-- `MandateLimits`: any finite decimals. -/
structure MandateLimits where
  maxPerTxn : Option Dec
  totalBudget : Option Dec
  maxTxn : Option MaxTxn

/-- The amounts of the limits. -/
def MandateLimits.amounts (l : MandateLimits) : List Dec := l.maxPerTxn.toList ++ l.totalBudget.toList

/-- `MandateScope`. -/
structure MandateScope where
  categories : List String
  merchants : List String

/-- `MandateValidity`. -/
structure MandateValidity where
  notBefore : ℤ
  expiresAt : ℤ

/-- What the projection reads of `MandateClaims`. -/
structure MandateClaims where
  currency : String
  scope : MandateScope
  limits : MandateLimits
  validity : MandateValidity

/-- A constraint by its type: `payment.amount_range`, `payment.budget`, `payment.allowed_payees`,
`payment.agent_recurrence`, `payment.execution_date`. -/
inductive Constraint where
  | amountRange (currency : String) (min max : ℤ)
  | budget (currency : String) (max : ℤ)
  | allowedPayees (allowed : List String)
  | agentRecurrence (frequency : String) (maxOccurrences : ℤ)
  | executionDate (notBefore notAfter : String)
  deriving DecidableEq, Repr

/-- `_AP2_FREQUENCY`. -/
def ap2Frequency : Period → String
  | .day => "DAILY"
  | .week => "WEEKLY"
  | .month => "MONTHLY"

/-- The constraint of a limit, when there is one. -/
def limitConstraint (limit : Option Dec) (make : ℤ → Constraint) : Option (List Constraint) :=
  match limit with
  | none => some []
  | some amount => (toMinorUnits amount).map fun max => [make max]

/-- **`constraints_for`**; `none` when a conversion raises. -/
def constraintsFor (isoformat : ℤ → String) (claims : MandateClaims) : Option (List Constraint) := do
  let range ← limitConstraint claims.limits.maxPerTxn (.amountRange claims.currency 0)
  let budget ← limitConstraint claims.limits.totalBudget (.budget claims.currency)
  let payees := if claims.scope.merchants ≠ [] then [.allowedPayees claims.scope.merchants] else []
  let recurrence := claims.limits.maxTxn.toList.map fun t =>
    Constraint.agentRecurrence (ap2Frequency t.period) t.count
  some (range ++ budget ++ payees ++ recurrence ++ [.executionDate
    (isoformat claims.validity.notBefore) (isoformat claims.validity.expiresAt)])

/-- What a constraint says of one payment's amount, currency and payee. -/
def Constraint.admits (minor : ℤ) (currency payee : String) : Constraint → Bool
  | .amountRange c low high => currency = c && low ≤ minor && minor ≤ high
  | .allowedPayees allowed => payee ∈ allowed
  | _ => true

/-- A payment satisfies the projected constraints. -/
def satisfies (isoformat : ℤ → String) (claims : MandateClaims) (amount : Dec)
    (currency payee : String) : Bool :=
  match constraintsFor isoformat claims, toMinorUnits amount with
  | some constraints, some minor => constraints.all (Constraint.admits minor currency payee)
  | _, _ => false

/-! ## The native rules -/

/-- `_decimal_amount` of a `Decimal`, in cents; `none` when it raises. -/
def decimalAmount (d : Dec) : Option ℕ := Policy.numeric d.json

/-- The domain's `MandateLimits` of the limits; `none` when it raises. -/
def nativeLimits (l : MandateLimits) : Option Policy.MandateLimits := do
  let maxPerTxn ← l.maxPerTxn.bind decimalAmount
  let totalBudget ← l.totalBudget.bind decimalAmount
  match l.maxTxn with
  | none => some ⟨maxPerTxn, totalBudget, none⟩
  | some t => if 0 ≤ t.count then some ⟨maxPerTxn, totalBudget, some t.count.toNat⟩ else none

/-- The domain's `MandateScope` of the scope; `none` when it raises. -/
def nativeScope (s : MandateScope) : Option Policy.MandateScope :=
  if h : ∀ item ∈ s.categories ++ s.merchants, item ≠ "" then some ⟨s.categories, s.merchants, h⟩
  else none

/-- **The gate's rules on the currency, the merchant and the limit per purchase.** -/
def permitted (upper : String → String) (claims : MandateClaims) (amount : Dec)
    (currency merchant : String) : Bool :=
  match nativeLimits claims.limits, nativeScope claims.scope, decimalAmount amount with
  | some limits, some scope, some cents =>
    cents ≤ limits.maxPerTxn && upper claims.currency ≠ "" &&
      upper currency = upper claims.currency && merchant ≠ "" && merchant ∈ scope.merchants
  | _, _, _ => false

/-- **What the gate approves is permitted.** -/
theorem permitted_of_approved {G : Policy.PolicyGate} {m : Policy.MandateClaims}
    {i : Policy.PurchaseIntent} {spend : DecisionCore.SpendView} {now : ℤ} {o : Policy.Offer}
    {approvedStepup : Bool} {d : DecisionCore.Decision} {claims : MandateClaims} {amount : Dec}
    (hcurrency : m.currency = claims.currency) (hlimits : nativeLimits claims.limits = m.limits)
    (hscope : nativeScope claims.scope = some m.scope)
    (hamount : decimalAmount amount = Policy.canonicalAmount i.amount)
    (h : Policy.evaluate G m i spend now (some o) approvedStepup = .ok d)
    (hd : d.decision = .approved) :
    permitted G.upper claims amount i.currency i.merchantId = true := by
  obtain ⟨hpass, -⟩ := Policy.passes_of_evaluate h (by rw [hd]; decide)
  obtain ⟨l, hl, hlimit⟩ := hpass.limits
  unfold permitted
  rw [hlimits, hl, hscope, hamount, hpass.price]
  have hmerchant := m.scope.entries o.merchantId (by simp [hpass.scope.1])
  simp only [hpass.merchant, ← hcurrency, Bool.and_eq_true, decide_eq_true_eq]
  exact ⟨⟨⟨⟨hlimit.1, hpass.currency.1⟩, hpass.currency.2⟩, hmerchant⟩, hpass.scope.1⟩

theorem numeric_num {m : ℤ} {scale c : ℕ} :
    Policy.numeric (.num m scale) = some c ↔ (c : ℤ) * 10 ^ scale = m * 100 ∧ c < 10 ^ 28 := by
  have hpow : (0 : ℤ) < 10 ^ scale := Int.pow_pos (by decide)
  simp only [Policy.numeric]
  constructor
  · intro h
    split_ifs at h with hm
    obtain ⟨hpos, hmod, hlt⟩ := hm
    obtain rfl := Option.some.inj h
    have hquot : 0 ≤ m * 100 / 10 ^ scale := Int.ediv_nonneg (by omega) hpow.le
    rw [Int.toNat_of_nonneg hquot, Int.ediv_mul_cancel (Int.dvd_of_emod_eq_zero hmod)]
    exact ⟨rfl, by omega⟩
  · rintro ⟨hm, hlt⟩
    have hpos : 0 ≤ m * 100 := by
      rw [← hm]
      exact Int.mul_nonneg (by omega) hpow.le
    rw [← hm, Int.mul_emod_left, Int.mul_ediv_cancel _ hpow.ne', if_pos ⟨by omega, rfl, by omega⟩,
      Int.toNat_natCast]

/-- The domain takes exactly the whole cents with 28 digits at most. -/
theorem decimalAmount_iff {d : Dec} {c : ℕ} :
    decimalAmount d = some c ↔ (c : ℚ) = 100 * d.value ∧ c < 10 ^ 28 := by
  have hten : (10 : ℚ) ≠ 0 := by norm_num
  unfold decimalAmount Dec.json
  split_ifs with hexp
  · have hvalue : d.value = ((d.coeff * 10 ^ d.exp.toNat : ℤ) : ℚ) := by
      unfold Dec.value
      conv_lhs => rw [← Int.toNat_of_nonneg hexp]
      rw [zpow_natCast]
      push_cast
      rfl
    rw [numeric_num, pow_zero, mul_one, hvalue]
    refine and_congr_left fun _ => ⟨fun h => ?_, fun h => ?_⟩
    · have hq : ((c : ℤ) : ℚ) = ((d.coeff * 10 ^ d.exp.toNat * 100 : ℤ) : ℚ) := by rw [h]
      rw [Int.cast_mul _ 100, mul_comm] at hq
      exact_mod_cast hq
    · rw [mul_comm]
      exact_mod_cast h
  · have hvalue : d.value * 10 ^ (-d.exp).toNat = d.coeff := by
      have hback : (10 : ℚ) ^ (-d.exp).toNat = 10 ^ (-d.exp) := by
        rw [← zpow_natCast, Int.toNat_of_nonneg (by omega)]
      unfold Dec.value
      rw [hback, mul_assoc, ← zpow_add₀ hten, add_neg_cancel, zpow_zero, mul_one]
    have hpow : (10 : ℚ) ^ (-d.exp).toNat ≠ 0 := pow_ne_zero _ hten
    rw [numeric_num]
    refine and_congr_left fun _ => ⟨fun h => ?_, fun h => ?_⟩
    · have hq : (c : ℚ) * 10 ^ (-d.exp).toNat = d.coeff * 100 := by exact_mod_cast h
      apply mul_right_cancel₀ hpow
      rw [hq, ← hvalue]
      ring
    · have hq : (c : ℚ) * 10 ^ (-d.exp).toNat = d.coeff * 100 := by
        rw [h, ← hvalue]
        ring
      exact_mod_cast hq

/-! ## When the projection says the same -/

/-- **The claim of the projection** for one payment: it is judged the same, and no amount is
rounded. -/
structure Faithful (isoformat : ℤ → String) (upper : String → String) (claims : MandateClaims)
    (amount : Dec) (currency merchant : String) : Prop where
  same : satisfies isoformat claims amount currency merchant =
    permitted upper claims amount currency merchant
  exact : ∀ a ∈ amount :: claims.limits.amounts, Exact a

/-- The mandate states what the gate needs: limits and a scope that the domain's classes accept, a
merchant, and a currency. -/
structure Enforceable (upper : String → String) (claims : MandateClaims) : Prop where
  limits : (nativeLimits claims.limits).isSome
  scope : (nativeScope claims.scope).isSome
  merchants : claims.scope.merchants ≠ []
  currency : upper claims.currency ≠ ""

/-- The limit per purchase, where there is one, covers the payment in its currency. -/
def Covered (claims : MandateClaims) (amount : Dec) (currency : String) : Prop :=
  ∀ high, claims.limits.maxPerTxn = some high →
    currency = claims.currency ∧ 0 ≤ amount.value ∧ amount.value ≤ high.value

/-- The listed merchants, where there are any, include the payee. -/
def Listed (claims : MandateClaims) (merchant : String) : Prop :=
  claims.scope.merchants ≠ [] → merchant ∈ claims.scope.merchants

/-- **When the projection of a mandate says the same as the gate**, for one payment. -/
structure Projects (upper : String → String) (claims : MandateClaims) (amount : Dec)
    (currency merchant : String) : Prop where
  whole : ∀ a ∈ amount :: claims.limits.amounts, WholeCents a
  stated : Covered claims amount currency → Listed claims merchant → Enforceable upper claims
  spelled : permitted upper claims amount currency merchant → currency = claims.currency

theorem limitConstraint_all {limit : Option Dec} (make : ℤ → Constraint) (p : Constraint → Bool)
    (h : ∀ a ∈ limit, Exact a) : ∃ cs, limitConstraint limit make = some cs ∧
      (cs.all p = true ↔ ∀ a ∈ limit, ∀ m : ℤ, (m : ℚ) = 100 * a.value → p (make m) = true) := by
  cases limit with
  | none => exact ⟨[], rfl, by simp⟩
  | some a =>
    obtain ⟨m, hm, hvalue⟩ := h a rfl
    refine ⟨[make m], by simp [limitConstraint, hm], ?_⟩
    simp only [List.all_cons, List.all_nil, Bool.and_true]
    constructor
    · rintro hp b hb m' hm'
      obtain rfl := Option.some.inj hb
      have hsame : (m' : ℚ) = m := hm'.trans hvalue.symm
      rwa [Int.cast_inj.1 hsame]
    · intro hp
      exact hp a rfl m hvalue

/-- The constraints of amounts that lose nothing. -/
theorem satisfies_iff {isoformat : ℤ → String} {claims : MandateClaims} {amount : Dec}
    {currency merchant : String} (hexact : ∀ a ∈ amount :: claims.limits.amounts, Exact a) :
    satisfies isoformat claims amount currency merchant = true ↔
      Covered claims amount currency ∧ Listed claims merchant := by
  obtain ⟨minor, hminor, hvalue⟩ := hexact amount List.mem_cons_self
  have hlimit : ∀ a ∈ claims.limits.maxPerTxn, Exact a := fun a ha =>
    hexact a (by simp [MandateLimits.amounts, Option.mem_def.1 ha])
  have hbudget : ∀ a ∈ claims.limits.totalBudget, Exact a := fun a ha =>
    hexact a (by simp [MandateLimits.amounts, Option.mem_def.1 ha])
  obtain ⟨range, hrange, hall⟩ := limitConstraint_all (.amountRange claims.currency 0)
    (Constraint.admits minor currency merchant) hlimit
  obtain ⟨budget, hbudgets, hrest⟩ := limitConstraint_all (.budget claims.currency)
    (Constraint.admits minor currency merchant) hbudget
  have hcovered : range.all (Constraint.admits minor currency merchant) = true ↔
      Covered claims amount currency := by
    have hadmits : ∀ m : ℤ, Constraint.admits minor currency merchant
        (.amountRange claims.currency 0 m) = true ↔
          currency = claims.currency ∧ 0 ≤ minor ∧ minor ≤ m := by
      intro m
      simp [Constraint.admits, and_assoc]
    have hpos : 0 ≤ minor ↔ 0 ≤ amount.value := by
      rw [← Int.cast_nonneg_iff (R := ℚ), hvalue]
      constructor <;> intro h <;> linarith
    have hle : ∀ (m : ℤ) (high : Dec), (m : ℚ) = 100 * high.value →
        (minor ≤ m ↔ amount.value ≤ high.value) := by
      intro m high hm
      rw [← Int.cast_le (R := ℚ), hvalue, hm]
      constructor <;> intro h <;> linarith
    rw [hall]
    constructor
    · intro h high hhigh
      obtain ⟨m, -, hm⟩ := hlimit high hhigh
      have hm' := (hadmits m).1 (h high hhigh m hm)
      exact ⟨hm'.1, hpos.1 hm'.2.1, (hle m high hm).1 hm'.2.2⟩
    · intro h high hhigh m hm
      obtain ⟨hcurrency, h0, hmax⟩ := h high hhigh
      exact (hadmits m).2 ⟨hcurrency, hpos.2 h0, (hle m high hm).2 hmax⟩
  have hfree : budget.all (Constraint.admits minor currency merchant) = true :=
    hrest.2 fun _ _ _ _ => rfl
  unfold satisfies constraintsFor
  rw [hminor, hrange, hbudgets]
  simp only [Option.bind_eq_bind, Option.bind_some, List.all_append, hfree, Bool.and_true,
    Bool.and_eq_true, hcovered]
  unfold Listed
  split_ifs with hany
  · simp [Constraint.admits, hany]
  · simp [Constraint.admits, hany]

theorem permitted_iff {upper : String → String} {claims : MandateClaims} {amount : Dec}
    {currency merchant : String} : permitted upper claims amount currency merchant = true ↔
      ∃ l, nativeLimits claims.limits = some l ∧ (nativeScope claims.scope).isSome ∧
        (∃ c, decimalAmount amount = some c ∧ c ≤ l.maxPerTxn) ∧ upper claims.currency ≠ "" ∧
          upper currency = upper claims.currency ∧ merchant ≠ "" ∧
            merchant ∈ claims.scope.merchants := by
  have hscope : ∀ s, nativeScope claims.scope = some s → s.merchants = claims.scope.merchants := by
    intro s hs
    unfold nativeScope at hs
    split_ifs at hs
    obtain rfl := Option.some.inj hs
    rfl
  unfold permitted
  cases hl : nativeLimits claims.limits with
  | none => simp
  | some l =>
    cases hs : nativeScope claims.scope with
    | none => simp
    | some s =>
      cases hc : decimalAmount amount with
      | none => simp
      | some c => simp [hscope s hs, and_assoc]

/-- The limit per purchase of limits that the domain accepts. -/
theorem nativeLimits_maxPerTxn {limits : MandateLimits} {l : Policy.MandateLimits}
    (h : nativeLimits limits = some l) :
    ∃ high, limits.maxPerTxn = some high ∧ decimalAmount high = some l.maxPerTxn := by
  unfold nativeLimits at h
  cases hmax : limits.maxPerTxn.bind decimalAmount with
  | none => simp [hmax] at h
  | some c =>
    obtain ⟨high, hhigh, hc⟩ := Option.bind_eq_some_iff.1 hmax
    refine ⟨high, hhigh, ?_⟩
    cases hbudget : limits.totalBudget.bind decimalAmount with
    | none => simp [hmax, hbudget] at h
    | some b =>
      rw [hmax, hbudget] at h
      simp only [Option.bind_eq_bind, Option.bind_some] at h
      cases hcount : limits.maxTxn with
      | none =>
        rw [hcount] at h
        obtain rfl := Option.some.inj h
        exact hc
      | some t =>
        rw [hcount] at h
        simp only at h
        split_ifs at h
        obtain rfl := Option.some.inj h
        exact hc

/-- Cents compare as the amounts. -/
theorem cents_le {d e : Dec} {b c : ℕ} (hd : decimalAmount d = some b)
    (he : decimalAmount e = some c) : b ≤ c ↔ d.value ≤ e.value := by
  rw [← Nat.cast_le (α := ℚ), (decimalAmount_iff.1 hd).1, (decimalAmount_iff.1 he).1]
  constructor <;> intro h <;> linarith

/-- Whole cents that are not negative and not above the domain's are the domain's. -/
theorem decimalAmount_of_le {d e : Dec} {c : ℕ} (hwhole : WholeCents d) (hpos : 0 ≤ d.value)
    (he : decimalAmount e = some c) (hle : d.value ≤ e.value) : ∃ b, decimalAmount d = some b := by
  obtain ⟨n, k, -, -, hvalue⟩ := hwhole
  obtain ⟨hc, hlt⟩ := decimalAmount_iff.1 he
  have hcents : ((n * 10 ^ k : ℤ) : ℚ) = 100 * d.value := by
    push_cast
    exact hvalue.symm
  have hnonneg : 0 ≤ n * 10 ^ k := by
    rw [← Int.cast_nonneg_iff (R := ℚ), hcents]
    linarith
  have hbound : n * 10 ^ k ≤ c := by
    rw [← Int.cast_le (R := ℚ), hcents, Int.cast_natCast, hc]
    linarith
  refine ⟨(n * 10 ^ k).toNat, decimalAmount_iff.2 ⟨?_, by omega⟩⟩
  rw [← hcents, ← Int.cast_natCast, Int.toNat_of_nonneg hnonneg]

/-- **The projection says the same as the gate, losing nothing, exactly when** all amounts are whole
cents with 28 significant digits at most, what the projection leaves open is stated by the mandate,
and the currency is spelled as the mandate spells it. -/
theorem projection_faithful_iff (isoformat : ℤ → String) (upper : String → String)
    (claims : MandateClaims) (amount : Dec) (currency merchant : String) :
    Faithful isoformat upper claims amount currency merchant ↔
      Projects upper claims amount currency merchant := by
  constructor
  · rintro ⟨hsame, hexact⟩
    have hiff : satisfies isoformat claims amount currency merchant = true ↔ _ :=
      satisfies_iff hexact
    refine ⟨fun a ha => (toMinorUnits_exact_iff a).1 (hexact a ha), ?_, ?_⟩
    · intro hcovered hlisted
      have hpermitted := hiff.2 ⟨hcovered, hlisted⟩
      rw [hsame, permitted_iff] at hpermitted
      obtain ⟨l, hl, hs, -, hupper, -, -, hmem⟩ := hpermitted
      exact ⟨by rw [hl]; rfl, hs, List.ne_nil_of_mem hmem, hupper⟩
    · intro hpermitted
      obtain ⟨l, hl, -⟩ := permitted_iff.1 hpermitted
      obtain ⟨high, hhigh, -⟩ := nativeLimits_maxPerTxn hl
      rw [← hsame, hiff] at hpermitted
      exact (hpermitted.1 high hhigh).1
  · rintro ⟨hwhole, hstated, hspelled⟩
    have hexact : ∀ a ∈ amount :: claims.limits.amounts, Exact a :=
      fun a ha => (toMinorUnits_exact_iff a).2 (hwhole a ha)
    refine ⟨?_, hexact⟩
    rw [Bool.eq_iff_iff, satisfies_iff hexact]
    constructor
    · rintro ⟨hcovered, hlisted⟩
      obtain ⟨hlimits, hscope, hmerchants, hupper⟩ := hstated hcovered hlisted
      obtain ⟨l, hl⟩ := Option.isSome_iff_exists.1 hlimits
      obtain ⟨high, hhigh, hmax⟩ := nativeLimits_maxPerTxn hl
      obtain ⟨rfl, hpos, hle⟩ := hcovered high hhigh
      obtain ⟨c, hc⟩ := decimalAmount_of_le (hwhole amount List.mem_cons_self) hpos hmax hle
      have hmem := hlisted hmerchants
      refine permitted_iff.2 ⟨l, hl, hscope, ⟨c, hc, (cents_le hc hmax).2 hle⟩, hupper, rfl, ?_,
        hmem⟩
      obtain ⟨s, hs⟩ := Option.isSome_iff_exists.1 hscope
      unfold nativeScope at hs
      split_ifs at hs with hentries
      exact hentries merchant (List.mem_append_right _ hmem)
    · intro hpermitted
      have hcurrency := hspelled hpermitted
      obtain ⟨l, hl, -, ⟨c, hc, hle⟩, -, -, -, hmem⟩ := permitted_iff.1 hpermitted
      obtain ⟨high, hhigh, hmax⟩ := nativeLimits_maxPerTxn hl
      refine ⟨fun high' hhigh' => ?_, fun _ => hmem⟩
      obtain rfl := Option.some.inj (hhigh.symm.trans hhigh')
      have hcents := (decimalAmount_iff.1 hc).1
      have hnonneg : (0 : ℚ) ≤ c := Nat.cast_nonneg c
      exact ⟨hcurrency, by linarith, (cents_le hc hmax).1 hle⟩

/-! ## A mandate without merchants -/

/-- A mandate of 150.00 a purchase for flights, with no merchant. -/
def anyMerchant : MandateClaims where
  currency := "USD"
  scope := ⟨["flights"], []⟩
  limits := ⟨some ⟨15000, -2⟩, some ⟨40000, -2⟩, none⟩
  validity := ⟨0, 1⟩

/-- Every merchant satisfies the projection of a mandate that allows none. -/
theorem projection_wildcard : ¬ ∀ (isoformat : ℤ → String) (upper : String → String)
    (claims : MandateClaims) (amount : Dec) (currency merchant : String),
    Faithful isoformat upper claims amount currency merchant := by
  intro h
  have hsame := (h (fun _ => "") (fun s => s) anyMerchant ⟨1000, -2⟩ "USD" "stranger").same
  exact absurd hsame (by decide)

end TryTrust.Trustlib
