import TryTrust.Json

/-!
# Python's comparisons of values

* `Json.pyEq`: `a == b`; `Json.pyLess`: `a < b`, `none` when it raises `TypeError`;
* `Json.pyIn`: `a in b`, `none` when it raises `TypeError`.

`True` and `False` are numbers here, and numbers of any scale compare by value.
-/

namespace TryTrust

/-- The number that a value is to a comparison. -/
def Json.number : Json → Option (ℤ × ℕ)
  | bool b => some (if b then 1 else 0, 0)
  | num m scale => some (m, scale)
  | _ => none

/-- Compare `m / 10 ^ scale` by value. -/
def numCompare (a b : ℤ × ℕ) : Ordering := compare (a.1 * 10 ^ b.2) (b.1 * 10 ^ a.2)

/-- Both values are numbers, and compare like this. -/
def Json.numbersAre (a b : Json) (o : Ordering) : Option Bool :=
  match a.number, b.number with
  | some x, some y => some (numCompare x y = o)
  | _, _ => none

mutual

/-- `a == b`. -/
def Json.pyEq : Json → Json → Bool
  | null, null => true
  | str a, str b => a = b
  | arr a, arr b => pyEqItems a b
  | obj a, obj b => a.length = b.length && pyEqFields a b
  | bool a, b => ((bool a).numbersAre b .eq).getD false
  | num m scale, b => ((num m scale).numbersAre b .eq).getD false
  | _, _ => false

/-- Lists are equal item by item. -/
def Json.pyEqItems : List Json → List Json → Bool
  | [], [] => true
  | x :: xs, y :: ys => x.pyEq y && pyEqItems xs ys
  | _, _ => false

/-- Every entry of the first dictionary is one of the second. -/
def Json.pyEqFields : List (String × Json) → List (String × Json) → Bool
  | [], _ => true
  | (key, value) :: fields, other =>
    ((other.lookup key).map value.pyEq).getD false && pyEqFields fields other

end

mutual

/-- `a < b`; `none` when it raises. -/
def Json.pyLess : Json → Json → Option Bool
  | str a, str b => some (a < b)
  | arr a, arr b => pyLessItems a b
  | bool a, b => (bool a).numbersAre b .lt
  | num m scale, b => (num m scale).numbersAre b .lt
  | _, _ => none

/-- Lists compare by their first different items, else by their lengths. -/
def Json.pyLessItems : List Json → List Json → Option Bool
  | [], ys => some !ys.isEmpty
  | _ :: _, [] => some false
  | x :: xs, y :: ys => if x.pyEq y then pyLessItems xs ys else x.pyLess y

end

/-- `a <= b`; `none` when it raises. -/
def Json.pyLessEq (a b : Json) : Option Bool := (a.pyLess b).map (· || a.pyEq b)

/-- A text occurs in another. -/
def isInfix (t : List Char) : List Char → Bool
  | [] => t.isEmpty
  | c :: cs => t.isPrefixOf (c :: cs) || isInfix t cs

/-- `a in b`; `none` when it raises. -/
def Json.pyIn (needle : Json) : Json → Option Bool
  | arr items => some (items.any fun x => x.pyEq needle)
  | str s => match needle with
    | str t => some (isInfix t.toList s.toList)
    | _ => none
  | obj fields => match needle with
    | arr _ => none
    | obj _ => none
    | _ => some (fields.any fun e => (str e.1).pyEq needle)
  | _ => none

example : (Json.num 15000 2).pyEq (.num 150 0) = true := by decide

end TryTrust
