import TryTrust.Json

/-!
# Decimal texts and money

Amounts cross the boundaries as decimal text. `parseMoney` reads one as the bridge does, to the
cent and rounding half to even.

* `Dec`, finite decimal numbers, and `Dec.cents`; `roundHalfEven_mul`: whole cents are kept;
* `PyDecimal`, `parseDecimal`: Python's `Decimal(text)`;
* `Money`, `parseMoney`: `Decimal(text).quantize(Decimal("0.01"))`.
-/

namespace TryTrust

/-! ## Finite decimals -/

/-- The number `coeff * 10 ^ exp`. -/
structure Dec where
  coeff : ℤ
  exp : ℤ
  deriving DecidableEq, Repr

/-- The quotient by a positive number, rounded to the nearest integer, halves to the even one. -/
def roundHalfEven (n : ℤ) (d : ℕ) : ℤ :=
  let q := n / d
  let r := n % d
  if 2 * r < d then q else if 2 * r > d then q + 1 else if q % 2 = 0 then q else q + 1

theorem roundHalfEven_mul (n : ℤ) {d : ℕ} (hd : 0 < d) : roundHalfEven (n * d) d = n := by
  have hd' : (d : ℤ) ≠ 0 := by omega
  simp only [roundHalfEven, Int.mul_emod_left, Int.mul_ediv_cancel _ hd']
  rw [if_pos (by omega)]

/-- The number in cents. -/
def Dec.cents (d : Dec) : ℤ :=
  if -2 ≤ d.exp then d.coeff * 10 ^ (d.exp + 2).toNat
  else roundHalfEven d.coeff (10 ^ (-(d.exp + 2)).toNat)

/-- Equality with a number of cents, exactly. -/
def Dec.isCents (d : Dec) (c : ℤ) : Bool :=
  if -2 ≤ d.exp then d.coeff * 10 ^ (d.exp + 2).toNat = c
  else d.coeff = c * 10 ^ (-(d.exp + 2)).toNat

/-- A number that is exactly so many cents quantizes to them. -/
theorem Dec.cents_of_isCents {d : Dec} {c : ℤ} (h : d.isCents c = true) : d.cents = c := by
  unfold Dec.isCents at h
  unfold Dec.cents
  split_ifs at h ⊢
  · exact of_decide_eq_true h
  · have hc := of_decide_eq_true h
    rw [hc]
    have hpos : 0 < 10 ^ (-(d.exp + 2)).toNat := Nat.pow_pos (by decide)
    exact_mod_cast roundHalfEven_mul c hpos

/-! ## `Decimal(text)` -/

/-- What `Decimal(text)` can be. -/
inductive PyDecimal where
  | finite (d : Dec)
  | infinity
  | nan
  | signalingNan
  deriving DecidableEq, Repr

/-- The value of a list of digits. -/
def digitsVal (cs : List Char) : ℕ := cs.foldl (fun n c => 10 * n + (c.toNat - 48)) 0

/-- A leading sign, as a factor, and the rest. -/
def takeSign : List Char → ℤ × List Char
  | '-' :: cs => (-1, cs)
  | '+' :: cs => (1, cs)
  | cs => (1, cs)

/-- The exponent part of a number; it may be missing. -/
def parseExponent : List Char → Option ℤ
  | [] => some 0
  | c :: cs =>
    let (sign, digits) := takeSign cs
    if (c = 'e' ∨ c = 'E') ∧ digits ≠ [] ∧ digits.all Char.isDigit then some (sign * digitsVal digits)
    else none

/-- The fraction digits, if any, and the rest. -/
def takeFraction : List Char → List Char × List Char
  | '.' :: cs => cs.span Char.isDigit
  | cs => ([], cs)

/-- A finite number without its sign. -/
def parseFinite (sign : ℤ) (cs : List Char) : Option PyDecimal :=
  let (whole, rest) := cs.span Char.isDigit
  let (fraction, rest) := takeFraction rest
  if whole = [] ∧ fraction = [] then none
  else (parseExponent rest).map fun e =>
    .finite ⟨sign * digitsVal (whole ++ fraction), e - fraction.length⟩

/-- `Decimal(text)`; `none` when it raises. Surrounding blanks and underscores are ignored. -/
def parseDecimal (text : String) : Option PyDecimal :=
  let blank : Char → Bool := Char.isWhitespace
  let trimmed := ((text.toList.dropWhile blank).reverse.dropWhile blank).reverse
  let (sign, cs) := takeSign (trimmed.filter (· ≠ '_'))
  match parseFinite sign cs with
  | some d => some d
  | none =>
    let name := (cs.takeWhile Char.isAlpha).map Char.toLower
    let payload := cs.dropWhile Char.isAlpha
    if (name = "inf".toList ∨ name = "infinity".toList) ∧ payload = [] then some .infinity
    else if name = "nan".toList ∧ payload.all Char.isDigit then some .nan
    else if name = "snan".toList ∧ payload.all Char.isDigit then some .signalingNan
    else none

/-! ## Money -/

/-- An amount to the cent, or the quiet NaN that `quantize` lets through. -/
inductive Money where
  | cents (c : ℤ)
  | nan
  deriving DecidableEq, Repr

/-- `str(amount)`. -/
def Money.text : Money → String
  | cents c => fmt c
  | nan => "NaN"

/-- Python's `a == b`: NaN equals nothing. -/
def Money.eq : Money → Money → Bool
  | cents a, cents b => a = b
  | _, _ => false

theorem Money.eq_of_eq {a b : Money} (h : a.eq b = true) : a = b := by
  cases a <;> cases b <;> simp_all [Money.eq]

/-- `parse_money(text)`; `none` when it raises. A result of more than 28 digits raises. -/
def parseMoney (text : String) : Option Money :=
  match parseDecimal text with
  | some (.finite d) => if d.cents.natAbs < 10 ^ 28 then some (.cents d.cents) else none
  | some .nan => some .nan
  | _ => none

example : parseMoney " 1_299.005 " = some (.cents 129900) := by decide

end TryTrust
