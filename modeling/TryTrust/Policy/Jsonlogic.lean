import TryTrust.Compare
import TryTrust.JsonText
import TryTrust.Money

/-!
# The conditions of the policy gate

* `Dec.add`, `Dec.sub`, `Dec.mul`, `Dec.div`, `Dec.json`: decimal arithmetic with 28 digits;
  `Dec.bound`: the bounds of the exponents;
* `numeric` (`_numeric`), `compareValues` (`_comparison`), `lookupVar` (`_lookup_var`);
* **`jsonlogic`** (`_jsonlogic`): an operator gets its arguments and what each evaluates to, and an
  argument that Python does not evaluate is one whose value the operator does not look at;
* `evaluateConditions`.

A number with a scale is a `Decimal` here, since a `float` in a condition raises.
-/

namespace TryTrust

/-! ## Decimal arithmetic -/

/-- The number of digits of a coefficient. -/
def digitCount (n : ℕ) : ℕ := (Nat.toDigits 10 n).length

namespace Dec

/-- Round to 28 digits. -/
def fix (d : Dec) : Dec :=
  let k := digitCount d.coeff.natAbs - 28
  let c := roundHalfEven d.coeff (10 ^ k)
  if k = 0 then d
  else if digitCount c.natAbs > 28 then ⟨c / 10, d.exp + k + 1⟩
  else ⟨c, d.exp + k⟩

/-- `a + b`. -/
def add (a b : Dec) : Dec :=
  let e := min a.exp b.exp
  fix ⟨a.coeff * 10 ^ (a.exp - e).toNat + b.coeff * 10 ^ (b.exp - e).toNat, e⟩

/-- `a - b`. -/
def sub (a b : Dec) : Dec := a.add ⟨-b.coeff, b.exp⟩

/-- `a * b`. -/
def mul (a b : Dec) : Dec := fix ⟨a.coeff * b.coeff, a.exp + b.exp⟩

/-- Strip trailing zeros, at most so many. -/
def strip : ℕ → Dec → Dec
  | 0, d => d
  | n + 1, d => if d.coeff % 10 = 0 then strip n ⟨d.coeff / 10, d.exp + 1⟩ else d

/-- `a / b` of numbers that are not negative, for `b` not zero. -/
def div (a b : Dec) : Dec :=
  let shift : ℤ := digitCount b.coeff.natAbs - digitCount a.coeff.natAbs + 29
  let n := a.coeff * 10 ^ shift.toNat
  let d := b.coeff * 10 ^ (-shift).toNat
  let q : Dec := ⟨n / d, a.exp - b.exp - shift⟩
  if a.coeff = 0 then ⟨0, a.exp - b.exp⟩
  else if n % d = 0 then fix (strip shift.toNat q)
  -- a digit that does not look like a half when the rest is not zero
  else fix (if q.coeff % 5 = 0 then ⟨q.coeff + 1, q.exp⟩ else q)

/-- An exact result in the context: 28 digits, none below `10 ^ -1000026`; `none` for `Overflow`. -/
def bound (d : Dec) : Option Dec :=
  let k := max (digitCount d.coeff.natAbs - 28) (-1000026 - d.exp).toNat
  let c := roundHalfEven d.coeff (10 ^ k)
  let r : Dec := if k = 0 then d else if digitCount c.natAbs > 28 then ⟨c / 10, d.exp + k + 1⟩
    else ⟨c, d.exp + k⟩
  if c ≠ 0 ∧ 999999 < r.exp + digitCount r.coeff.natAbs - 1 then none else some r

/-- `sum(numbers, Decimal(0))`; `none` for `Overflow`. -/
def total (numbers : List Dec) : Option Dec :=
  numbers.foldlM (fun a b => (a.add b).bound) ⟨0, 0⟩

/-- `numbers[0] - sum(numbers[1:], Decimal(0))`; `none` for `Overflow`. -/
def difference (first : Dec) (numbers : List Dec) : Option Dec :=
  (total numbers).bind fun sum => (first.sub sum).bound

/-- The product of numbers; `none` for `Overflow`. -/
def product (numbers : List Dec) : Option Dec :=
  numbers.foldlM (fun a b => bound ⟨a.coeff * b.coeff, a.exp + b.exp⟩) ⟨1, 0⟩

/-- The number as a value. -/
def json (d : Dec) : Json :=
  if 0 ≤ d.exp then .num (d.coeff * 10 ^ d.exp.toNat) 0 else .num d.coeff (-d.exp).toNat

end Dec

/-! ## Amounts -/

/-- A text of `(0|[1-9][0-9]*)\.[0-9]{2}` with at most 28 digits, in cents. -/
def canonicalCents (s : String) : Option ℕ :=
  match s.toList.reverse with
  | d :: e :: '.' :: whole =>
    let cents := 100 * digitsVal whole.reverse + digitsVal [e, d]
    if d.isDigit ∧ e.isDigit ∧ whole ≠ [] ∧ whole.all Char.isDigit ∧
        (whole.length = 1 ∨ whole.getLast? ≠ some '0') ∧ cents < 10 ^ 28 then some cents
    else none
  | _ => none

theorem digitsVal_toDigits (n : ℕ) : digitsVal (Nat.toDigits 10 n) = n :=
  Nat.ofDigitChars_ten_toDigits

theorem fmt_toList (c : ℕ) : (fmt c).toList =
    Nat.toDigits 10 (c / 100) ++ ['.', (c % 100 / 10).digitChar, (c % 10).digitChar] := by
  have htail : (if c % 100 < 10 then "0" else "").toList ++ Nat.toDigits 10 (c % 100) =
      [(c % 100 / 10).digitChar, (c % 10).digitChar] := by
    by_cases h : c % 100 < 10
    · have h0 : c % 100 / 10 = 0 := by omega
      have h1 : c % 10 = c % 100 := by omega
      rw [if_pos h, Nat.toDigits_of_lt_base h, h0, h1]
      rfl
    · have h1 : c % 100 % 10 = c % 10 := by omega
      rw [if_neg h, Nat.toDigits_of_base_le (by decide) (by omega),
        Nat.toDigits_of_lt_base (by omega), h1]
      rfl
  have hneg : ¬ (c : ℤ) < 0 := by omega
  simp only [fmt, Int.natAbs_natCast, if_neg hneg, String.toList_append, Nat.toString_eq_repr,
    Nat.toList_repr, List.append_assoc]
  rw [htail]
  rfl

/-- The text of an amount reads as the amount. -/
theorem canonicalCents_fmt {c : ℕ} (hc : c < 10 ^ 28) : canonicalCents (fmt c) = some c := by
  have hdigit : ∀ x ∈ Nat.toDigits 10 (c / 100), x.isDigit = true :=
    fun x hx => Nat.isDigit_of_mem_toDigits (by decide) (by decide) hx
  have hval : digitsVal [(c % 100 / 10).digitChar, (c % 10).digitChar] = c % 100 := by
    have h : digitsVal [(c % 100 / 10).digitChar, (c % 10).digitChar] =
        10 * (10 * 0 + ((c % 100 / 10).digitChar.toNat - 48)) +
          ((c % 10).digitChar.toNat - 48) := rfl
    rw [h, Nat.toNat_digitChar_sub_48_of_lt_ten (by omega),
      Nat.toNat_digitChar_sub_48_of_lt_ten (by omega)]
    omega
  have hlen : (Nat.toDigits 10 (c / 100)).length = 1 ∨
      (Nat.toDigits 10 (c / 100)).head? ≠ some '0' := by
    by_cases h : c / 100 = 0
    · left
      rw [h]
      rfl
    · exact .inr (head_toDigits (by omega))
  unfold canonicalCents
  rw [fmt_toList, List.reverse_append]
  simp only [List.reverse_cons, List.reverse_nil, List.nil_append, List.cons_append,
    List.reverse_reverse, hval, digitsVal_toDigits, List.all_reverse, List.length_reverse,
    List.getLast?_reverse]
  rw [if_pos, Nat.div_add_mod]
  refine ⟨?_, ?_, ?_, ?_, hlen, ?_⟩
  · simp [Nat.mod_lt]
  · simp
    omega
  · simp
  · exact List.all_eq_true.2 hdigit
  · omega

namespace Policy

/-- `_numeric`: an amount of at most two decimals that is not negative, in cents. -/
def numeric : Json → Option ℕ
  | .str s => canonicalCents s
  | .num m scale =>
    if 0 ≤ m ∧ m * 100 % 10 ^ scale = 0 ∧ m * 100 / 10 ^ scale < 10 ^ 28 then
      some (m * 100 / 10 ^ scale).toNat
    else none
  | _ => none

/-! ## The evaluator -/

/-- An exception of an evaluation: one that `evaluate_conditions` turns into a refusal (`KeyError`,
`TypeError`, `ValueError`, `InvalidOperation`), or another one. -/
inductive EvalErr where
  | refused
  | other
  deriving DecidableEq, Repr

/-- The context of a condition: the offer, and the time as text. -/
structure Context where
  offer : Fields
  now : String

/-- The parts of a path. -/
def pathParts (path : String) : List String := (path.toList.splitOn '.').map String.ofList

/-- Go down a path of keys. -/
def descend : List String → Json → Option Json
  | [], value => some value
  | part :: parts, .obj fields => (fields.lookup part).bind (descend parts)
  | _ :: _, _ => none

/-- `_lookup_var`; `none` for `KeyError`. -/
def lookupVar (ctx : Context) (path : String) : Option Json :=
  match pathParts path with
  | ["now"] => some (.str ctx.now)
  | "offer" :: part :: parts => descend (part :: parts) (.obj ctx.offer)
  | _ => none

/-- `_comparison`: amounts compare as amounts, all else as Python compares it. -/
def compareValues (op : String) (left right : Json) : Except EvalErr Json :=
  let pair := match numeric left, numeric right with
    | some a, some b => (Json.num a 2, Json.num b 2)
    | _, _ => (left, right)
  let answer := if op ∈ ["==", "===", "=", "eq"] then some (pair.1.pyEq pair.2)
    else if op ∈ ["!=", "!==", "neq"] then some !pair.1.pyEq pair.2
    else if op = "<" then pair.1.pyLess pair.2
    else if op = "<=" then pair.1.pyLessEq pair.2
    else if op = ">" then pair.2.pyLess pair.1
    else pair.2.pyLessEq pair.1
  match answer with
  | some b => .ok (.bool b)
  | none => .error .refused

/-- A result of decimal arithmetic; `Overflow` is not among the exceptions that refuse. -/
def decimalResult (d : Option Dec) : Except EvalErr Json :=
  d.elim (.error .other) fun d => .ok d.json

/-- An arithmetic operator on amounts in cents. -/
def arithmetic (op : String) (cents : List ℕ) : Except EvalErr Json :=
  let exact := cents.map fun c : ℕ => (⟨c, -2⟩ : Dec)
  if op = "+" then decimalResult (Dec.total exact)
  else if op = "-" then
    match exact with
    | [] => .error .other
    | [x] => .ok x.json
    | x :: xs => decimalResult (x.difference xs)
  else if op = "*" then decimalResult (Dec.product exact)
  else if op = "/" ∨ op = "%" then
    match exact with
    | [x, y] =>
      if y.coeff = 0 then .error .refused
      else if op = "/" then .ok (x.div y).json
      else .ok (Dec.json ⟨x.coeff % y.coeff, -2⟩)
    | _ => .error .refused
  else
    match cents with
    | [] => .error .refused
    | c :: cs => .ok (Dec.json ⟨if op = "min" then cs.foldl min c else cs.foldl max c, -2⟩)

/-- `int(value)`; `none` when it raises. -/
def pyInt : Json → Option ℤ
  | .bool b => some (if b then 1 else 0)
  | .num m scale => some (m.tdiv (10 ^ scale))
  | .str s =>
    let blank : Char → Bool := Char.isWhitespace
    let trimmed := ((s.toList.dropWhile blank).reverse.dropWhile blank).reverse
    let (sign, cs) := takeSign trimmed
    let groups := cs.splitOn '_'
    let digits := groups.flatten
    if (groups.all fun g => !g.isEmpty && g.all Char.isDigit) ∧ digits.length ≤ 4300 then
      some (sign * digitsVal digits)
    else none
  | _ => none

/-- The items of a value that Python can iterate. -/
def iterate : Json → Option (List Json)
  | .arr items => some items
  | .str s => some (s.toList.map fun c => .str (String.ofList [c]))
  | .obj fields => some (fields.map fun e => .str e.1)
  | _ => none

/-- The paths that the context does not have; a path that is no text raises `AttributeError`. -/
def missing (ctx : Context) : List Json → Except EvalErr (List Json)
  | [] => .ok []
  | .str path :: rest => do
    let others ← missing ctx rest
    .ok (if (lookupVar ctx path).isNone then .str path :: others else others)
  | _ :: _ => .error .other

/-- `if`: the value of the first condition that is true, else the last argument. -/
def ifValues : List (Except EvalErr Json) → Except EvalErr Json
  | [] => .ok .null
  | [last] => last
  | condition :: value :: rest => do
    if (← condition).truthy then value else ifValues rest

/-- `and`: the first value that is not true, else the last one. -/
def andValues (result : Json) : List (Except EvalErr Json) → Except EvalErr Json
  | [] => .ok result
  | value :: rest => do
    let result ← value
    if result.truthy then andValues result rest else .ok result

/-- `or`: the first value that is true, else the last one. -/
def orValues (result : Json) : List (Except EvalErr Json) → Except EvalErr Json
  | [] => .ok result
  | value :: rest => do
    let result ← value
    if result.truthy then .ok result else orValues result rest

/-- What `merge` takes from a value. -/
def mergeItems : Json → List Json
  | .arr items => items
  | value => [value]

/-- An operator on its arguments, of which `values` has what each evaluates to. -/
def jsonlogicOp (ctx : Context) (op : String) (args : List Json)
    (values : List (Except EvalErr Json)) : Except EvalErr Json :=
  if op = "var" then
    match args.headD (.str "") with
    | .str path =>
      match lookupVar ctx path with
      | some value => .ok value
      | none => (values[1]?).getD (.ok .null)
    | _ => .error .refused
  else if op = "if" ∨ op = "?:" then
    if args.length < 2 then .error .refused else ifValues values
  else if op = "and" then andValues .null values
  else if op = "or" then orValues .null values
  else if op = "!" ∨ op = "!!" then do
    let result ← match values with
      | [] => .ok true
      | value :: _ => value.map fun v => !v.truthy
    .ok (.bool (if op = "!" then result else !result))
  else if op ∈ ["==", "===", "!=", "!==", "=", "eq", "neq", "<", "<=", ">", ">="] then
    match values with
    | [left, right] => do compareValues op (← left) (← right)
    | _ => .error .refused
  else if op = "in" then
    match values with
    | [needle, haystack] => do
      match (← needle).pyIn (← haystack) with
      | some b => .ok (.bool b)
      | none => .error .refused
    | _ => .error .refused
  else if op = "missing" then (missing ctx args).map .arr
  else if op = "missing_some" then
    match values with
    | [minimum, paths] => do
      let n ← (pyInt (← minimum)).elim (.error .refused) .ok
      let paths ← (iterate (← paths)).elim (.error .refused) .ok
      let lost ← missing ctx paths
      .ok (.arr (if (paths.length : ℤ) - lost.length ≥ n then [] else lost))
    | _ => .error .refused
  else if op ∈ ["+", "-", "*", "/", "%", "min", "max"] then do
    match ((← values.mapM id).map numeric).mapM id with
    | some cents => arithmetic op cents
    | none => .error .refused
  else if op = "cat" then do
    .ok (.str (String.join ((← values.mapM id).map Json.text)))
  else if op = "merge" then do
    .ok (.arr ((← values.mapM id).flatMap mergeItems))
  else .error .refused

mutual

/-- **`_jsonlogic`**. -/
def jsonlogic (ctx : Context) : Json → Except EvalErr Json
  | .null => .ok .null
  | .bool b => .ok (.bool b)
  | .str s => .ok (.str s)
  | .num m scale => if scale = 0 then .ok (.num m 0) else .error .refused
  | .arr items => ((jsonlogicAll ctx items).mapM id).map .arr
  | .obj fields => jsonlogicNode ctx fields

/-- A node: exactly one operator. -/
def jsonlogicNode (ctx : Context) : List (String × Json) → Except EvalErr Json
  | [(op, .arr args)] => jsonlogicOp ctx op args (jsonlogicAll ctx args)
  | [(op, arg)] => jsonlogicOp ctx op [arg] [jsonlogic ctx arg]
  | _ => .error .refused

/-- What each argument evaluates to. -/
def jsonlogicAll (ctx : Context) : List Json → List (Except EvalErr Json)
  | [] => []
  | arg :: args => jsonlogic ctx arg :: jsonlogicAll ctx args

end

/-- `evaluate_conditions`; an exception that it does not turn into a refusal gets out. -/
def evaluateConditions (conditions : Json) (offer : Option Fields) (now : String) :
    Except EvalErr Bool :=
  if !conditions.truthy then .ok true
  else
    match offer with
    | none => .ok false
    | some offer =>
      match jsonlogic ⟨offer, now⟩ conditions with
      | .ok value => .ok value.truthy
      | .error .refused => .ok false
      | .error .other => .error .other

end Policy

end TryTrust
