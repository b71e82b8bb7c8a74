import TryTrust.Decimal

/-!
# Canonical amounts

`canonical_amount` writes a text, an integer or a decimal as an amount of two decimals, and
`price_matches` compares two of these texts.

* `SignedDecimal`, Python's `Decimal`, which keeps the sign of a zero; `SignedDecimal.quantize`;
* `decimalAmount`, `canonicalAmount`, `priceMatches`, and `amountRe`, the grammar;
* `quantized_spec`: what passes the checks is a number of cents, negative only as a zero;
* **`agrees_iff`**: two accepted values are written in the grammar, read back as they were, kept
  when they are given again and compared by value exactly when neither is a negative zero.
-/

namespace TryTrust.Api.Amounts

/-! ## Decimals with a sign -/

/-- A `Decimal`. -/
inductive SignedDecimal where
  | finite (negative : Bool) (coeff : ℕ) (exp : ℤ)
  | infinity (negative : Bool)
  | nan (signaling : Bool)
  deriving DecidableEq, Repr

/-- A finite decimal without the sign of a zero. -/
def unsigned (negative : Bool) (coeff : ℕ) (exp : ℤ) : Dec :=
  ⟨if negative then -coeff else coeff, exp⟩

/-- A decimal of two places: its sign and its cents. -/
structure TwoPlaces where
  negative : Bool
  cents : ℕ
  deriving DecidableEq, Repr

namespace SignedDecimal

/-- The number that a decimal stands for. -/
def value : SignedDecimal → Option ℚ
  | finite negative coeff exp => some (unsigned negative coeff exp).value
  | _ => none

/-- `Decimal(text)`; `none` when it raises. -/
def parse (text : String) : Option SignedDecimal :=
  let negative := ((text.toList.dropWhile Char.isWhitespace).filter (· ≠ '_')).head? = some '-'
  (parseDecimal text).map fun
    | .finite d => finite negative d.coeff.natAbs d.exp
    | .infinity => infinity negative
    | .nan => nan false
    | .signalingNan => nan true

/-- `amount.quantize(Decimal("0.01"))` of a finite amount; `none` for `InvalidOperation`, when the
result has more than 28 digits. A zero keeps its sign. -/
def quantize (negative : Bool) (coeff : ℕ) (exp : ℤ) : Option TwoPlaces :=
  if coeff = 0 then some ⟨negative, 0⟩
  else if 28 < exp + digitCount coeff + 2 then none
  else
    let cents := (Dec.cents ⟨coeff, exp⟩).toNat
    if 28 < digitCount cents then none else some ⟨negative, cents⟩

end SignedDecimal

namespace TwoPlaces

/-- The decimal. -/
def decimal (q : TwoPlaces) : Dec := unsigned q.negative q.cents (-2)

/-- `format(amount, ".2f")`. -/
def text (q : TwoPlaces) : String := (if q.negative then "-" else "") ++ fmt q.cents

end TwoPlaces

/-! ## `canonical_amount` -/

/-- What the functions are called with: a text, an integer or a decimal, or what they refuse. -/
inductive AmountLike where
  | text (s : String)
  | decimal (d : SignedDecimal)
  | integer (n : ℤ)
  | bool (b : Bool)
  | float
  | other
  deriving DecidableEq, Repr

/-- `AmountFormatError`, and the `ValueError` of `str(n)` for an integer of too many digits. -/
inductive AmountError where
  | format (message : String)
  | valueError (message : String)
  deriving DecidableEq, Repr

/-- `_AMOUNT_RE.fullmatch`: `(?:0|[1-9][0-9]*)\.[0-9]{2}`. -/
def amountRe (text : String) : Bool :=
  let whole := text.toList.takeWhile Char.isDigit
  let rest := text.toList.dropWhile Char.isDigit
  decide (whole = ['0'] ∨ whole ≠ [] ∧ whole.head? ≠ some '0') &&
    match rest with
    | ['.', d, e] => d.isDigit && e.isDigit
    | _ => false

/-- `Decimal(raw)` of the value as text; a decimal and an integer read back as themselves. -/
def decimalOf (requireCanonicalString : Bool) : AmountLike → Except AmountError SignedDecimal
  | .bool _ | .float => .error (.format "money must be a string, Decimal, or integer")
  | .text s =>
    if requireCanonicalString ∧ amountRe s = false then
      .error (.format "money strings must contain exactly two decimals")
    else if !requireCanonicalString ∧ s = "" then .error (.format "money cannot be empty")
    else
      match SignedDecimal.parse s with
      | some d => .ok d
      | none => .error (.format "invalid decimal amount")
  | .decimal d => .ok d
  | .integer n =>
    -- `sys.get_int_max_str_digits()`
    if 4300 < digitCount n.natAbs then
      .error (.valueError ("Exceeds the limit (4300 digits) for integer string conversion; " ++
        "use sys.set_int_max_str_digits() to increase the limit"))
    else .ok (.finite (n < 0) n.natAbs 0)
  | .other => .error (.format "unsupported money type")

/-- The checks of `_decimal_amount`. -/
def quantized : SignedDecimal → Except AmountError TwoPlaces
  | .finite negative coeff exp =>
    if negative ∧ coeff ≠ 0 then .error (.format "amount must be finite and non-negative")
    else
      match SignedDecimal.quantize negative coeff exp with
      | none => .error (.format "amount cannot be represented to two decimals")
      | some q =>
        if q.decimal.same (unsigned negative coeff exp) = false then
          .error (.format "amount has more than two decimal places")
        else .ok q
  | _ => .error (.format "amount must be finite and non-negative")

/-- `_decimal_amount`. -/
def decimalAmount (value : AmountLike) (requireCanonicalString : Bool) :
    Except AmountError TwoPlaces :=
  (decimalOf requireCanonicalString value).bind quantized

/-- `isinstance(value, str)`. -/
def AmountLike.isText : AmountLike → Bool
  | .text _ => true
  | _ => false

/-- `canonical_amount`. -/
def canonicalAmount (value : AmountLike) : Except AmountError String :=
  (decimalAmount value value.isText).map TwoPlaces.text

/-- `canonical_amount(intent_amount) == canonical_amount(offer_amount)`. -/
def sameText (intentAmount offerAmount : AmountLike) : Except AmountError Bool := do
  let intent ← canonicalAmount intentAmount
  let offer ← canonicalAmount offerAmount
  return intent = offer

/-- `price_matches`. -/
def priceMatches (intentAmount offerAmount : AmountLike) : Except AmountError Bool :=
  match sameText intentAmount offerAmount with
  | .error (.format _) => .ok false
  | result => result

/-- The number that a value stands for. -/
def AmountLike.value : AmountLike → Option ℚ
  | .text s => (SignedDecimal.parse s).bind SignedDecimal.value
  | .decimal d => d.value
  | .integer n => some n
  | _ => none

/-! ## What is accepted -/

theorem digitCount_of_lt {c : ℕ} (hc : c < 10 ^ 28) : digitCount c ≤ 28 :=
  (digitCount_le_iff (by decide)).2 hc

theorem quantize_spec {negative : Bool} {coeff : ℕ} {exp : ℤ} {q : TwoPlaces}
    (h : SignedDecimal.quantize negative coeff exp = some q) :
    q.negative = negative ∧ q.cents < 10 ^ 28 ∧ (coeff = 0 → q.cents = 0) := by
  unfold SignedDecimal.quantize at h
  dsimp only at h
  split_ifs at h with hzero hlarge hdigits
  · obtain rfl := Option.some.inj h
    exact ⟨rfl, Nat.pow_pos (by decide), fun _ => rfl⟩
  · obtain rfl := Option.some.inj h
    exact ⟨rfl, (digitCount_le_iff (by decide)).1 (Nat.le_of_not_lt hdigits),
      fun hc => absurd hc hzero⟩

/-- **What passes the checks** is the number of cents, and negative only as a zero. -/
theorem quantized_spec {d : SignedDecimal} {q : TwoPlaces} (h : quantized d = .ok q) :
    d.value = some q.decimal.value ∧ q.cents < 10 ^ 28 ∧
      (q.negative = true → q.cents = 0 ∧ ∃ e, d = .finite true 0 e) := by
  cases d with
  | infinity _ => cases h
  | nan _ => cases h
  | finite negative coeff exp =>
    simp only [quantized] at h
    split_ifs at h with hnegative
    cases hq : SignedDecimal.quantize negative coeff exp with
    | none =>
      rw [hq] at h
      cases h
    | some p =>
      rw [hq] at h
      dsimp only at h
      split_ifs at h with hsame
      obtain rfl := Except.ok.inj h
      obtain ⟨hsign, hsmall, hzero⟩ := quantize_spec hq
      rw [Bool.not_eq_false, Dec.same_iff] at hsame
      refine ⟨by rw [hsame]; rfl, hsmall, fun hneg => ?_⟩
      rw [hsign] at hneg
      have hcoeff : coeff = 0 := by
        by_contra hne
        exact hnegative ⟨hneg, hne⟩
      exact ⟨hzero hcoeff, exp, by rw [hneg, hcoeff]⟩

theorem quantized_negativeZero (exp : ℤ) :
    quantized (.finite true 0 exp) = .ok ⟨true, 0⟩ := by
  have hsame : (TwoPlaces.decimal ⟨true, 0⟩).same (unsigned true 0 exp) = true := by
    rw [Dec.same_iff]
    simp [TwoPlaces.decimal, unsigned, Dec.value]
  simp [quantized, SignedDecimal.quantize, hsame]

theorem quantized_cents {c : ℕ} (hc : c < 10 ^ 28) :
    quantized (.finite false c (-2)) = .ok ⟨false, c⟩ := by
  have hfew := digitCount_of_lt hc
  have hcents : (Dec.cents ⟨c, -2⟩).toNat = c := by simp [Dec.cents]
  have hquantize : SignedDecimal.quantize false c (-2) = some ⟨false, c⟩ := by
    unfold SignedDecimal.quantize
    dsimp only
    rw [hcents]
    split_ifs with hzero hlarge hdigits
    · rw [hzero]
    · omega
    · omega
    · rfl
  have hsame : (TwoPlaces.decimal ⟨false, c⟩).same (unsigned false c (-2)) = true := by
    rw [Dec.same_iff]
    rfl
  simp [quantized, hquantize, hsame]

/-! ## Texts -/

theorem fmt_chars (c : ℕ) : ∃ d ds, (fmt c).toList = d :: ds ∧ d.isDigit = true := by
  obtain ⟨d, ds, hdigits, hd⟩ := toDigits_head (c / 100)
  exact ⟨d, _, by rw [fmt_toList, hdigits, List.cons_append], hd⟩

theorem amountRe_fmt (c : ℕ) : amountRe (fmt c) = true := by
  have hpoint : NoDigit ['.', (c % 100 / 10).digitChar, (c % 10).digitChar] := by
    intro d hd
    obtain rfl := Option.some.inj hd
    rfl
  unfold amountRe
  dsimp only
  rw [fmt_toList, JsonText.takeWhile_digits (JsonText.isDigit_toDigits _) hpoint,
    JsonText.dropWhile_digits (JsonText.isDigit_toDigits _) hpoint]
  have hhead : Nat.toDigits 10 (c / 100) = ['0'] ∨
      Nat.toDigits 10 (c / 100) ≠ [] ∧ (Nat.toDigits 10 (c / 100)).head? ≠ some '0' := by
    by_cases h : c / 100 = 0
    · left
      rw [h]
      rfl
    · exact .inr ⟨Nat.toDigits_ne_nil, head_toDigits (by omega)⟩
  rw [Bool.and_eq_true, decide_eq_true_eq]
  refine ⟨hhead, ?_⟩
  simp [Nat.mod_lt]
  omega

/-- A text that begins with a digit has no sign. -/
theorem parse_unsigned {s : String} {d : Char} {ds : List Char} (hs : s.toList = d :: ds)
    (hd : d.isDigit = true) {negative : Bool} {coeff : ℕ} {exp : ℤ}
    (h : SignedDecimal.parse s = some (.finite negative coeff exp)) : negative = false := by
  have hplain := IsNumeralChar.plain (.inl hd)
  have hhead : ((s.toList.dropWhile Char.isWhitespace).filter (· ≠ '_')).head? = some d := by
    rw [hs, List.dropWhile_cons, hplain.1]
    simp [hplain.2]
  have hminus : d ≠ '-' := by
    rintro rfl
    cases hd
  unfold SignedDecimal.parse at h
  dsimp only at h
  rw [hhead] at h
  cases hp : parseDecimal s with
  | none => rw [hp] at h; cases h
  | some p =>
    rw [hp] at h
    cases p <;> simp_all

theorem parse_fmt (c : ℕ) : SignedDecimal.parse (fmt c) = some (.finite false c (-2)) := by
  obtain ⟨d, ds, hs, hd⟩ := fmt_chars c
  have hread : parseDecimal (fmt c) = some (.finite ⟨c, -2⟩) := by
    rw [fmt_eq, parseDecimal_decimalText]
    rfl
  have hparse : ∃ negative, SignedDecimal.parse (fmt c) = some (.finite negative c (-2)) := by
    unfold SignedDecimal.parse
    rw [hread]
    exact ⟨_, rfl⟩
  obtain ⟨negative, hparse⟩ := hparse
  rw [hparse, parse_unsigned hs hd hparse]

/-- **The text of an amount** is its own canonical text. -/
theorem canonicalAmount_fmt {c : ℕ} (hc : c < 10 ^ 28) :
    canonicalAmount (.text (fmt c)) = .ok (fmt c) := by
  have hread : decimalOf true (.text (fmt c)) = .ok (.finite false c (-2)) := by
    have hne : amountRe (fmt c) ≠ false := by simp [amountRe_fmt]
    simp [decimalOf, hne, parse_fmt]
  unfold canonicalAmount decimalAmount AmountLike.isText
  rw [hread]
  simp only [Except.bind, quantized_cents hc, Except.map]
  simp [TwoPlaces.text]

/-! ## Values and texts -/

/-- A zero with a sign. -/
def NegativeZero : AmountLike → Prop
  | .decimal (.finite negative coeff _) => negative = true ∧ coeff = 0
  | _ => False

theorem decimalOf_value {b : Bool} {v : AmountLike} {d : SignedDecimal}
    (h : decimalOf b v = .ok d) : v.value = d.value := by
  cases v with
  | bool _ | float | other => cases h
  | decimal d' =>
    obtain rfl := Except.ok.inj h
    rfl
  | integer n =>
    simp only [decimalOf] at h
    split_ifs at h
    obtain rfl := Except.ok.inj h
    have hsign : (if decide (n < 0) = true then -(n.natAbs : ℤ) else n.natAbs) = n := by
      split_ifs with hn
      · have := of_decide_eq_true hn
        omega
      · have := of_decide_eq_false (Bool.not_eq_true _ ▸ hn)
        omega
    simp only [AmountLike.value, SignedDecimal.value, unsigned, hsign]
    simp [Dec.value]
  | text s =>
    simp only [decimalOf] at h
    split_ifs at h
    cases hp : SignedDecimal.parse s with
    | none =>
      rw [hp] at h
      cases h
    | some p =>
      rw [hp] at h
      obtain rfl := Except.ok.inj h
      simp [AmountLike.value, hp]

/-- A text of the grammar begins with a digit. -/
theorem amountRe_head {s : String} (h : amountRe s = true) :
    ∃ d ds, s.toList = d :: ds ∧ d.isDigit = true := by
  unfold amountRe at h
  dsimp only at h
  cases hs : s.toList with
  | nil =>
    rw [hs] at h
    cases h
  | cons d ds =>
    refine ⟨d, ds, rfl, ?_⟩
    by_contra hd
    rw [hs, List.takeWhile_cons, if_neg hd] at h
    cases h

/-- Only a decimal is read as a negative zero. -/
theorem decimalOf_negativeZero {v : AmountLike} {exp : ℤ}
    (h : decimalOf v.isText v = .ok (.finite true 0 exp)) : NegativeZero v := by
  cases v with
  | bool _ | float | other => cases h
  | decimal d =>
    obtain rfl := Except.ok.inj h
    exact ⟨rfl, rfl⟩
  | integer n =>
    simp only [decimalOf] at h
    split_ifs at h
    have hd := Except.ok.inj h
    simp only [SignedDecimal.finite.injEq, decide_eq_true_eq] at hd
    omega
  | text s =>
    replace h : decimalOf true (.text s) = .ok (.finite true 0 exp) := h
    simp only [decimalOf] at h
    by_cases hre : amountRe s = false
    · rw [if_pos ⟨trivial, hre⟩] at h
      cases h
    rw [if_neg fun hno => hre hno.2, if_neg (by simp)] at h
    cases hp : SignedDecimal.parse s with
    | none =>
      rw [hp] at h
      cases h
    | some p =>
      rw [hp] at h
      obtain rfl := Except.ok.inj h
      obtain ⟨d, ds, hs, hd⟩ := amountRe_head (Bool.eq_true_of_not_eq_false hre)
      exact absurd (parse_unsigned hs hd hp) (by decide)

/-- **What is accepted**: a number of cents, written by its sign and its cents; only a negative
zero has a sign. -/
theorem canonicalAmount_spec {v : AmountLike} {text : String} (h : canonicalAmount v = .ok text) :
    ∃ q : TwoPlaces, text = q.text ∧ v.value = some q.decimal.value ∧ q.cents < 10 ^ 28 ∧
      (q.negative = true ↔ NegativeZero v) ∧ (q.negative = true → q.cents = 0) := by
  unfold canonicalAmount decimalAmount at h
  cases hd : decimalOf v.isText v with
  | error e =>
    rw [hd] at h
    cases h
  | ok d =>
    rw [hd] at h
    simp only [Except.bind] at h
    cases hq : quantized d with
    | error e =>
      rw [hq] at h
      cases h
    | ok q =>
      rw [hq] at h
      obtain rfl := Except.ok.inj h
      obtain ⟨hvalue, hsmall, hzero⟩ := quantized_spec hq
      refine ⟨q, rfl, (decimalOf_value hd).trans hvalue, hsmall, ⟨fun hneg => ?_, fun hv => ?_⟩,
        fun hneg => (hzero hneg).1⟩
      · obtain ⟨-, e, rfl⟩ := hzero hneg
        exact decimalOf_negativeZero hd
      · cases v with
        | decimal d' =>
          cases d' with
          | finite negative coeff exp =>
            obtain ⟨rfl, rfl⟩ := hv
            obtain rfl := Except.ok.inj hd
            rw [quantized_negativeZero] at hq
            obtain rfl := Except.ok.inj hq
            rfl
          | infinity _ | nan _ => cases hv
        | _ => cases hv

theorem cents_value (q : TwoPlaces) (h : q.negative = true → q.cents = 0) :
    q.decimal.value = (q.cents : ℚ) * 10 ^ (-2 : ℤ) := by
  by_cases hneg : q.negative = true
  · simp [TwoPlaces.decimal, unsigned, Dec.value, h hneg]
  · simp [TwoPlaces.decimal, unsigned, Dec.value, hneg]

theorem cents_value_inj {a b : ℕ} :
    (a : ℚ) * 10 ^ (-2 : ℤ) = b * 10 ^ (-2 : ℤ) ↔ a = b := by
  rw [mul_left_inj' (zpow_ne_zero _ (by norm_num)), Nat.cast_inj]

theorem fmt_inj {a b : ℕ} (h : fmt a = fmt b) : a = b := by
  have hparse := parse_fmt a
  rw [h, parse_fmt b] at hparse
  simp only [Option.some.injEq, SignedDecimal.finite.injEq, true_and, and_true] at hparse
  exact hparse.symm

/-! ## Canonical texts -/

/-- The text of a value is in the grammar, reads back as the value and is its own text. -/
structure Canonical (v : AmountLike) (text : String) : Prop where
  grammar : amountRe text = true
  value : (AmountLike.text text).value = v.value
  kept : canonicalAmount (.text text) = .ok text

/-- Two values have canonical texts, and these and `price_matches` compare them by value. -/
structure Agree (v w : AmountLike) (textV textW : String) : Prop where
  left : Canonical v textV
  right : Canonical w textW
  same : textV = textW ↔ v.value = w.value
  compared : priceMatches v w = .ok (decide (v.value = w.value))

theorem TwoPlaces.text_of_not {q : TwoPlaces} (h : ¬ q.negative = true) : q.text = fmt q.cents := by
  simp [TwoPlaces.text, h]

/-- **A text is canonical** exactly when the value is no negative zero. -/
theorem canonical_iff {v : AmountLike} {text : String} (h : canonicalAmount v = .ok text) :
    Canonical v text ↔ ¬ NegativeZero v := by
  obtain ⟨q, rfl, hvalue, hsmall, hsign, hzero⟩ := canonicalAmount_spec h
  rw [← hsign]
  constructor
  · intro hc hneg
    have htext : q.text = "-0.00" := by
      rw [TwoPlaces.text, hzero hneg, if_pos hneg]
      rfl
    have hgrammar := hc.grammar
    rw [htext] at hgrammar
    exact absurd hgrammar (by decide)
  · intro hneg
    rw [TwoPlaces.text_of_not hneg]
    refine ⟨amountRe_fmt _, ?_, canonicalAmount_fmt hsmall⟩
    rw [hvalue, AmountLike.value, parse_fmt, Option.bind_some, SignedDecimal.value,
      cents_value q hzero]
    simp [unsigned, Dec.value]

theorem priceMatches_of_ok {v w : AmountLike} {t u : String} (hv : canonicalAmount v = .ok t)
    (hw : canonicalAmount w = .ok u) : priceMatches v w = .ok (decide (t = u)) := by
  unfold priceMatches sameText
  rw [hv, hw]
  rfl

/-- **Amounts are compared by value.** Two accepted values have canonical texts and agree by value
exactly when neither is a negative zero. -/
theorem agrees_iff {v w : AmountLike} {t u : String} (hv : canonicalAmount v = .ok t)
    (hw : canonicalAmount w = .ok u) :
    Agree v w t u ↔ ¬ NegativeZero v ∧ ¬ NegativeZero w := by
  constructor
  · intro h
    exact ⟨(canonical_iff hv).1 h.left, (canonical_iff hw).1 h.right⟩
  · rintro ⟨hnv, hnw⟩
    obtain ⟨p, hp, hvalue, -, hsign, hzero⟩ := canonicalAmount_spec hv
    obtain ⟨q, hq, hvalue', -, hsign', hzero'⟩ := canonicalAmount_spec hw
    have hsame : t = u ↔ v.value = w.value := by
      rw [hvalue, hvalue', cents_value p hzero, cents_value q hzero', Option.some.injEq,
        cents_value_inj, hp, hq, TwoPlaces.text_of_not (hsign.not.2 hnv),
        TwoPlaces.text_of_not (hsign'.not.2 hnw)]
      exact ⟨fmt_inj, congrArg fun c : ℕ => fmt c⟩
    refine ⟨(canonical_iff hv).2 hnv, (canonical_iff hw).2 hnw, hsame, ?_⟩
    rw [priceMatches_of_ok hv hw, decide_eq_decide.2 hsame]

/-- Twelve as an integer and as `1.20E+1`. -/
theorem twelve_agrees :
    Agree (.integer 12) (.decimal (.finite false 120 (-1))) "12.00" "12.00" :=
  (agrees_iff (by decide +kernel) (by decide +kernel)).2
    ⟨fun h => h.elim, fun h => Bool.false_ne_true h.1⟩

/-- A negative zero is accepted, is written as `-0.00`, which is not accepted, and is not matched
with a zero. -/
theorem negative_zero_amount :
    ¬ (∀ v w t u, canonicalAmount v = .ok t → canonicalAmount w = .ok u → Agree v w t u) ∧
    canonicalAmount (.decimal (.finite true 0 0)) = .ok "-0.00" ∧ amountRe "-0.00" = false ∧
    canonicalAmount (.text "-0.00") =
      .error (.format "money strings must contain exactly two decimals") ∧
    priceMatches (.decimal (.finite true 0 0)) (.text "0.00") = .ok false := by
  have hzero : canonicalAmount (.decimal (.finite true 0 0)) = .ok "-0.00" := by decide +kernel
  refine ⟨fun h => ?_, hzero, by decide +kernel, by decide +kernel, by decide +kernel⟩
  have hgrammar := (h _ _ _ _ hzero hzero).left.grammar
  exact absurd hgrammar (by decide +kernel)

end TryTrust.Api.Amounts
