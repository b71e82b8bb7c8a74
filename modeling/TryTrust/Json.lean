import Mathlib

/-!
# Values shared by the components

* `Json`, the values that cross a boundary as JSON, and Python's truth value `Json.truthy`;
* `Fields`, the dictionaries, and `Fields.get`; `Json.repr`, `Json.text`: Python's texts of a value;
* `fmt`: an amount in cents as the fixed two-decimal text in which money is signed and stored.
-/

namespace TryTrust

/-- A JSON value; a number is `mantissa / 10 ^ scale`, so `1`, `1.0` and `1.00` are different. -/
inductive Json where
  | null
  | bool (b : Bool)
  | num (mantissa : ℤ) (scale : ℕ)
  | str (s : String)
  | arr (items : List Json)
  | obj (fields : List (String × Json))

/-- Python's `bool(value)`. -/
def Json.truthy : Json → Bool
  | null => false
  | bool b => b
  | num m _ => m != 0
  | str s => s != ""
  | arr items => !items.isEmpty
  | obj fields => !fields.isEmpty

/-- Python's `value or default`. -/
def Json.orElse (value default : Json) : Json := if value.truthy then value else default

/-! ## Dictionaries -/

/-- A dictionary; the first entry of a key counts. -/
abbrev Fields : Type := List (String × Json)

/-- `d.get(key, default)`. -/
def Fields.getD (d : Fields) (key : String) (default : Json) : Json := (d.lookup key).getD default

/-- `d.get(key)`. -/
def Fields.get (d : Fields) (key : String) : Json := d.getD key .null

/-- `d[key] = value`. -/
def Fields.set (d : Fields) (key : String) (value : Json) : Fields :=
  if d.any fun e => e.1 = key then d.map fun e => if e.1 = key then (key, value) else e
  else d ++ [(key, value)]

/-- `value or {}` for a value that is a dictionary when it is true; `none` when it is another
value, on which `.get` raises. -/
def Json.fields : Json → Option Fields
  | obj fields => some fields
  | value => if value.truthy then none else some []

/-! ## Python's texts -/

/-- `mantissa / 10 ^ scale` with all its fraction digits. -/
def decimalText (mantissa : ℤ) (scale : ℕ) : String :=
  let fraction := toString (mantissa.natAbs % 10 ^ scale)
  (if mantissa < 0 then "-" else "") ++ toString (mantissa.natAbs / 10 ^ scale) ++
    (if scale = 0 then "" else
      "." ++ String.ofList (List.replicate (scale - fraction.length) '0') ++ fraction)

/-- `repr` of a text; characters that do not print are kept. -/
def quoted (s : String) : String :=
  let mark := if '\'' ∈ s.toList ∧ '"' ∉ s.toList then '"' else '\''
  let escaped := s.toList.flatMap fun c =>
    if c = '\\' ∨ c = mark then ['\\', c] else if c = '\n' then ['\\', 'n']
    else if c = '\t' then ['\\', 't'] else [c]
  String.ofList (mark :: escaped ++ [mark])

mutual

/-- `repr(value)`. -/
def Json.repr : Json → String
  | null => "None"
  | bool b => if b then "True" else "False"
  | num m scale => decimalText m scale
  | str s => quoted s
  | arr items => "[" ++ ", ".intercalate (reprItems items) ++ "]"
  | obj fields => "\x7b" ++ ", ".intercalate (reprFields fields) ++ "\x7d"

/-- The texts of a list's items. -/
def Json.reprItems : List Json → List String
  | [] => []
  | item :: items => item.repr :: reprItems items

/-- The texts of a dictionary's entries. -/
def Json.reprFields : List (String × Json) → List String
  | [] => []
  | (key, value) :: fields => (quoted key ++ ": " ++ value.repr) :: reprFields fields

end

/-- `str(value)`. -/
def Json.text : Json → String
  | str s => s
  | value => value.repr

/-! ## Amounts -/

/-- An amount in cents as text, `1234` as `12.34`. -/
def fmt (cents : ℤ) : String :=
  let digits := cents.natAbs % 100
  (if cents < 0 then "-" else "") ++ toString (cents.natAbs / 100) ++ "." ++
    (if digits < 10 then "0" else "") ++ toString digits

end TryTrust
