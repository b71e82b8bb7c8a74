import TryTrust.CanonicalJson

/-!
# JSON texts

* `dumps`: `json.dumps(value)` with its defaults, ASCII only;
* `loads`: `json.loads(text)`; `none` where it raises, and for `NaN`, infinities and a half of a
  surrogate pair, which are no values here;
* `Distinct`: every dictionary has a key once, as Python's have;
* **`loads_dumps`**: such a value is read back.
-/

namespace TryTrust

/-- The text of a positive number does not start with a zero. -/
theorem head_toDigits {n : ℕ} (hn : 0 < n) : (Nat.toDigits 10 n).head? ≠ some '0' := by
  induction n using Nat.strong_induction_on with
  | _ n ih =>
    by_cases h : n < 10
    · rw [Nat.toDigits_of_lt_base h]
      intro h0
      have hzero : n.digitChar = '0' := by simpa using h0
      rw [Nat.digitChar_eq_zero] at hzero
      omega
    · rw [Nat.toDigits_of_base_le (by decide) (by omega),
        List.head?_append_of_ne_nil _ Nat.toDigits_ne_nil]
      exact ih (n / 10) (by omega) (by omega)

namespace JsonText

/-! ## Writing -/

/-- `\uXXXX`. -/
def codeUnit (n : ℕ) : List Char :=
  ['\\', 'u', hexDigit (n / 4096 % 16), hexDigit (n / 256 % 16), hexDigit (n / 16 % 16),
    hexDigit (n % 16)]

/-- One character in a JSON text, `ensure_ascii=True`. -/
def asciiChar (c : Char) : List Char :=
  if c = '"' then ['\\', '"']
  else if c = '\\' then ['\\', '\\']
  else if c = '\n' then ['\\', 'n']
  else if c = '\r' then ['\\', 'r']
  else if c = '\t' then ['\\', 't']
  else if c = Char.ofNat 12 then ['\\', 'f']
  else if c = Char.ofNat 8 then ['\\', 'b']
  else if 32 ≤ c.toNat ∧ c.toNat < 127 then [c]
  else if c.toNat < 65536 then codeUnit c.toNat
  else codeUnit (55296 + (c.toNat - 65536) / 1024) ++ codeUnit (56320 + (c.toNat - 65536) % 1024)

/-- A text in quotes. -/
def quote (s : String) : List Char := '"' :: (s.toList.flatMap asciiChar ++ ['"'])

mutual

/-- The text of a value. -/
def write : Json → List Char
  | .null => "null".toList
  | .bool b => if b then "true".toList else "false".toList
  | .num m scale => (decimalText m scale).toList
  | .str s => quote s
  | .arr items => '[' :: (writeItems items ++ [']'])
  | .obj fields => '\x7b' :: (writeFields fields ++ ['\x7d'])

/-- The items of a list, with commas between them. -/
def writeItems : List Json → List Char
  | [] => []
  | [item] => write item
  | item :: items => write item ++ ',' :: ' ' :: writeItems items

/-- The entries of a dictionary, with commas between them. -/
def writeFields : List (String × Json) → List Char
  | [] => []
  | [(key, value)] => quote key ++ ':' :: ' ' :: write value
  | (key, value) :: fields =>
    quote key ++ ':' :: ' ' :: (write value ++ ',' :: ' ' :: writeFields fields)

end

/-- `json.dumps(value)`. -/
def dumps (value : Json) : String := String.ofList (write value)

/-! ## Reading -/

/-- The value of a hexadecimal digit. -/
def hexValue (c : Char) : Option ℕ :=
  if c.isDigit then some (c.toNat - 48)
  else if 97 ≤ c.toNat ∧ c.toNat ≤ 102 then some (c.toNat - 87)
  else if 65 ≤ c.toNat ∧ c.toNat ≤ 70 then some (c.toNat - 55)
  else none

/-- Four hexadecimal digits, and what is left. -/
def readUnit : List Char → Option (ℕ × List Char)
  | a :: b :: c :: d :: rest => do
    let a ← hexValue a
    let b ← hexValue b
    let c ← hexValue c
    let d ← hexValue d
    some (4096 * a + 256 * b + 16 * c + d, rest)
  | _ => none

/-- The second half of a surrogate pair, after the first. -/
def readLow (high : ℕ) : List Char → Option (Char × List Char)
  | '\\' :: 'u' :: rest =>
    (readUnit rest).bind fun low =>
      if 56320 ≤ low.1 ∧ low.1 < 57344 then
        some (Char.ofNat (65536 + 1024 * (high - 55296) + (low.1 - 56320)), low.2)
      else none
  | _ => none

/-- The character of `\uXXXX`, with the pair that it may begin. -/
def readEscape (rest : List Char) : Option (Char × List Char) :=
  (readUnit rest).bind fun unit =>
    if 55296 ≤ unit.1 ∧ unit.1 < 56320 then readLow unit.1 unit.2
    else if 56320 ≤ unit.1 ∧ unit.1 < 57344 then none
    else some (Char.ofNat unit.1, unit.2)

/-- The first character of a text in quotes, and what is left. -/
def nextChar : List Char → Option (Char × List Char)
  | '\\' :: 'u' :: rest => readEscape rest
  | '\\' :: 'n' :: rest => some ('\n', rest)
  | '\\' :: 'r' :: rest => some ('\r', rest)
  | '\\' :: 't' :: rest => some ('\t', rest)
  | '\\' :: 'f' :: rest => some (Char.ofNat 12, rest)
  | '\\' :: 'b' :: rest => some (Char.ofNat 8, rest)
  | '\\' :: c :: rest => if c = '"' ∨ c = '\\' ∨ c = '/' then some (c, rest) else none
  | ['\\'] => none
  | c :: rest => if c.toNat < 32 then none else some (c, rest)
  | [] => none

/-- A text up to its closing quote. -/
def readString : ℕ → List Char → Option (List Char × List Char)
  | 0, _ => none
  | _ + 1, '"' :: rest => some ([], rest)
  | n + 1, cs => (nextChar cs).bind fun x => (readString n x.2).map fun y => (x.1 :: y.1, y.2)

/-- Without the blanks in front. -/
def skip (cs : List Char) : List Char :=
  cs.dropWhile fun c => c = ' ' ∨ c = '\t' ∨ c = '\n' ∨ c = '\r'

/-- The value of digits. -/
def digitsValue (ds : List Char) : ℕ := Nat.ofDigitChars 10 ds 0

/-- The exponent of a number, if there is one, and what is left. -/
def readExponent : List Char → Option ℤ × List Char
  | e :: cs =>
    let sign : ℤ := if cs.head? = some '-' then -1 else 1
    let ds := if cs.head? = some '-' ∨ cs.head? = some '+' then cs.tail else cs
    if (e = 'e' ∨ e = 'E') ∧ (ds.takeWhile Char.isDigit) ≠ [] then
      (some (sign * digitsValue (ds.takeWhile Char.isDigit)), ds.dropWhile Char.isDigit)
    else (none, e :: cs)
  | [] => (none, [])

/-- The digits after a point, if there are any, and what is left. -/
def readFraction : List Char → List Char × List Char
  | '.' :: cs =>
    if cs.takeWhile Char.isDigit = [] then ([], '.' :: cs)
    else (cs.takeWhile Char.isDigit, cs.dropWhile Char.isDigit)
  | cs => ([], cs)

/-- The digits before the point: no further ones after a zero. -/
def readWhole (cs : List Char) : List Char × List Char :=
  if cs.head? = some '0' then (['0'], cs.tail)
  else (cs.takeWhile Char.isDigit, cs.dropWhile Char.isDigit)

/-- The number of a mantissa, a scale and an exponent; with an exponent it is a float. -/
def numberOf (m : ℤ) (scale : ℕ) : Option ℤ → Json
  | none => .num m scale
  | some e =>
    if e < scale then .num m (scale - e).toNat else .num (m * 10 ^ (e - scale).toNat * 10) 1

/-- A number without its sign. -/
def readUnsigned (sign : ℤ) (cs : List Char) : Option (Json × List Char) :=
  let whole := readWhole cs
  let fraction := readFraction whole.2
  let exponent := readExponent fraction.2
  if whole.1 = [] then none
  else some (numberOf (sign * digitsValue (whole.1 ++ fraction.1)) fraction.1.length exponent.1,
    exponent.2)

/-- A number. -/
def readNumber : List Char → Option (Json × List Char)
  | '-' :: cs => readUnsigned (-1) cs
  | cs => readUnsigned 1 cs

mutual

/-- A value, and what is left; every call takes a unit of fuel. -/
def readValue : ℕ → List Char → Option (Json × List Char)
  | 0, _ => none
  | n + 1, cs =>
    match cs with
    | '"' :: rest => (readString n rest).map fun x => (.str (String.ofList x.1), x.2)
    | 'n' :: 'u' :: 'l' :: 'l' :: rest => some (.null, rest)
    | 't' :: 'r' :: 'u' :: 'e' :: rest => some (.bool true, rest)
    | 'f' :: 'a' :: 'l' :: 's' :: 'e' :: rest => some (.bool false, rest)
    | '[' :: rest =>
      if (skip rest).head? = some ']' then some (.arr [], (skip rest).tail)
      else (readItems n rest).map fun x => (.arr x.1, x.2)
    | '\x7b' :: rest =>
      if (skip rest).head? = some '\x7d' then some (.obj [], (skip rest).tail)
      else (readFields n rest).map fun x =>
        (.obj (x.1.foldl (fun d e => Fields.set d e.1 e.2) []), x.2)
    | cs => readNumber cs

/-- The items of a list up to its bracket. -/
def readItems : ℕ → List Char → Option (List Json × List Char)
  | 0, _ => none
  | n + 1, cs =>
    (readValue n (skip cs)).bind fun x =>
      match skip x.2 with
      | ',' :: rest => (readItems n rest).map fun y => (x.1 :: y.1, y.2)
      | ']' :: rest => some ([x.1], rest)
      | _ => none

/-- The entries of a dictionary up to its brace. -/
def readFields : ℕ → List Char → Option (List (String × Json) × List Char)
  | 0, _ => none
  | n + 1, cs =>
    match skip cs with
    | '"' :: rest =>
      (readString n rest).bind fun key =>
        match skip key.2 with
        | ':' :: rest =>
          (readValue n (skip rest)).bind fun x =>
            match skip x.2 with
            | ',' :: rest =>
              (readFields n rest).map fun y => ((String.ofList key.1, x.1) :: y.1, y.2)
            | '\x7d' :: rest => some ([(String.ofList key.1, x.1)], rest)
            | _ => none
        | _ => none
    | _ => none

end

/-- `json.loads(text)`. -/
def loads (text : String) : Option Json :=
  (readValue (text.toList.length + 1) (skip text.toList)).bind fun x =>
    if skip x.2 = [] then some x.1 else none

/-! ## Texts -/

theorem hexValue_hexDigit : ∀ n < 16, hexValue (hexDigit n) = some n := by decide

theorem readUnit_codeUnit {n : ℕ} (hn : n < 65536) (rest : List Char) :
    readUnit ((codeUnit n).tail.tail ++ rest) = some (n, rest) := by
  have hdigit : ∀ k, hexValue (hexDigit (k % 16)) = some (k % 16) := fun k =>
    hexValue_hexDigit _ (Nat.mod_lt _ (by decide))
  have hsum : 4096 * (n / 4096 % 16) + 256 * (n / 256 % 16) + 16 * (n / 16 % 16) + n % 16 = n := by
    omega
  simp only [codeUnit, List.tail_cons, List.cons_append, List.nil_append, readUnit, hdigit,
    Option.bind_eq_bind, Option.bind_some, hsum]

theorem codeUnit_append (n : ℕ) (rest : List Char) :
    codeUnit n ++ rest = '\\' :: 'u' :: ((codeUnit n).tail.tail ++ rest) := rfl

/-- Characters are no halves of surrogate pairs. -/
theorem toNat_range (c : Char) :
    (c.toNat < 55296 ∨ 57344 ≤ c.toNat) ∧ c.toNat < 1114112 := by
  have hvalid := c.valid
  have hnat : c.toNat = c.val.toNat := rfl
  rcases hvalid with h | ⟨h, h'⟩ <;> omega

/-- A character that is no surrogate is read from its code unit. -/
theorem readEscape_codeUnit {n : ℕ} (hn : n < 65536) (hplain : n < 55296 ∨ 57344 ≤ n)
    (rest : List Char) :
    readEscape ((codeUnit n).tail.tail ++ rest) = some (Char.ofNat n, rest) := by
  rw [readEscape, readUnit_codeUnit hn, Option.bind_some, if_neg (by omega), if_neg (by omega)]

/-- A character is read from its surrogate pair. -/
theorem readEscape_pair {n : ℕ} (hn : n < 1048576) (rest : List Char) :
    readEscape ((codeUnit (55296 + n / 1024)).tail.tail ++ (codeUnit (56320 + n % 1024) ++ rest)) =
      some (Char.ofNat (65536 + n), rest) := by
  have hsum : 65536 + 1024 * (55296 + n / 1024 - 55296) + (56320 + n % 1024 - 56320) =
      65536 + n := by
    omega
  rw [readEscape, readUnit_codeUnit (by omega), Option.bind_some, if_pos (by omega),
    codeUnit_append, readLow, readUnit_codeUnit (by omega), Option.bind_some, if_pos (by omega),
    hsum]

theorem nextChar_asciiChar (c : Char) (rest : List Char) :
    nextChar (asciiChar c ++ rest) = some (c, rest) := by
  obtain ⟨hplain, hmax⟩ := toNat_range c
  unfold asciiChar
  split_ifs with hquote hback hnl hcr htab hff hbs hprint hunit
  · rw [hquote]
    rfl
  · rw [hback]
    rfl
  · rw [hnl]
    rfl
  · rw [hcr]
    rfl
  · rw [htab]
    rfl
  · rw [hff]
    rfl
  · rw [hbs]
    rfl
  · rw [List.singleton_append]
    unfold nextChar
    split <;> simp_all
  · rw [codeUnit_append, nextChar, readEscape_codeUnit hunit hplain, Char.ofNat_toNat]
  · rw [List.append_assoc, codeUnit_append, nextChar, readEscape_pair (by omega),
      show 65536 + (c.toNat - 65536) = c.toNat by omega, Char.ofNat_toNat]

theorem asciiChar_head (c : Char) (rest : List Char) : (asciiChar c ++ rest).head? ≠ some '"' := by
  unfold asciiChar
  split_ifs with hquote <;> simp_all [codeUnit]

theorem readString_step (n : ℕ) {cs : List Char} (h : cs.head? ≠ some '"') :
    readString (n + 1) cs =
      (nextChar cs).bind fun x => (readString n x.2).map fun y => (x.1 :: y.1, y.2) := by
  rw [readString]
  rintro rest rfl
  exact h rfl

/-- A text is read back from characters that are read back one by one. -/
theorem readString_flatMap {enc : Char → List Char}
    (hhead : ∀ c rest, (enc c ++ rest).head? ≠ some '"')
    (hnext : ∀ c rest, nextChar (enc c ++ rest) = some (c, rest)) {s : List Char} {n : ℕ}
    (hn : s.length < n) (rest : List Char) :
    readString n (s.flatMap enc ++ '"' :: rest) = some (s, rest) := by
  induction s generalizing n with
  | nil =>
    obtain ⟨n, rfl⟩ : ∃ k, n = k + 1 := ⟨n - 1, by simp at hn; omega⟩
    rfl
  | cons c s ih =>
    obtain ⟨n, rfl⟩ : ∃ k, n = k + 1 := ⟨n - 1, by simp at hn; omega⟩
    rw [List.flatMap_cons, List.append_assoc]
    have hread := readString_step n (hhead c (s.flatMap enc ++ '"' :: rest))
    rw [hread, hnext, Option.bind_some, ih (by simp at hn; omega)]
    rfl

theorem readString_write {s : List Char} {n : ℕ} (hn : s.length < n) (rest : List Char) :
    readString n (s.flatMap asciiChar ++ '"' :: rest) = some (s, rest) :=
  readString_flatMap asciiChar_head nextChar_asciiChar hn rest

/-- A text is at most as long as its characters' texts. -/
theorem length_le_flatMap {enc : Char → List Char} (hpos : ∀ c, enc c ≠ []) (s : List Char) :
    s.length ≤ (s.flatMap enc).length := by
  induction s with
  | nil => simp
  | cons c cs ih =>
    have hc := List.length_pos_iff.2 (hpos c)
    rw [List.flatMap_cons, List.length_append, List.length_cons]
    omega

/-! ## Numbers -/

/-- What follows a number: nothing that would go on with it. -/
def Follows (rest : List Char) : Prop :=
  ∀ c ∈ rest.head?, c.isDigit = false ∧ c ≠ '.' ∧ c ≠ 'e' ∧ c ≠ 'E'

/-- The fraction digits of a number. -/
def fractionDigits (r scale : ℕ) : List Char :=
  List.replicate (scale - (Nat.toDigits 10 r).length) '0' ++ Nat.toDigits 10 r

theorem decimalText_toList (m : ℤ) (scale : ℕ) : (decimalText m scale).toList =
    (if m < 0 then ['-'] else []) ++ (Nat.toDigits 10 (m.natAbs / 10 ^ scale) ++
      if scale = 0 then [] else '.' :: fractionDigits (m.natAbs % 10 ^ scale) scale) := by
  have hsign : (if m < 0 then "-" else "").toList = if m < 0 then ['-'] else [] := by
    split_ifs <;> rfl
  have hfraction : (if scale = 0 then "" else "." ++ String.ofList (List.replicate
      (scale - (toString (m.natAbs % 10 ^ scale)).length) '0') ++
        toString (m.natAbs % 10 ^ scale)).toList =
      if scale = 0 then [] else '.' :: fractionDigits (m.natAbs % 10 ^ scale) scale := by
    have hlength : (toString (m.natAbs % 10 ^ scale)).length =
        (Nat.toDigits 10 (m.natAbs % 10 ^ scale)).length := by
      rw [Nat.toString_eq_ofList_toDigits, String.length_ofList]
    split_ifs
    · rfl
    · have hdigits : (toString (m.natAbs % 10 ^ scale)).toList =
          Nat.toDigits 10 (m.natAbs % 10 ^ scale) := by
        rw [Nat.toString_eq_ofList_toDigits, String.toList_ofList]
      rw [hlength]
      simp only [String.toList_append, hdigits, String.toList_ofList]
      rfl
  unfold decimalText
  simp only [String.toList_append, hsign, hfraction, List.append_assoc]
  rw [Nat.toString_eq_ofList_toDigits, String.toList_ofList]

theorem takeWhile_digits {ds rest : List Char} (hds : ∀ c ∈ ds, c.isDigit = true)
    (hrest : NoDigit rest) : (ds ++ rest).takeWhile Char.isDigit = ds := by
  rw [List.takeWhile_append_of_pos hds]
  cases rest with
  | nil => simp
  | cons c rest => simp [hrest c rfl]

theorem dropWhile_digits {ds rest : List Char} (hds : ∀ c ∈ ds, c.isDigit = true)
    (hrest : NoDigit rest) : (ds ++ rest).dropWhile Char.isDigit = rest := by
  rw [List.dropWhile_append_of_pos hds]
  cases rest with
  | nil => rfl
  | cons c rest => simp [hrest c rfl]

theorem isDigit_toDigits (n : ℕ) : ∀ c ∈ Nat.toDigits 10 n, c.isDigit = true :=
  fun _ hc => Nat.isDigit_of_mem_toDigits (by decide) (by decide) hc

theorem readWhole_toDigits (n : ℕ) {rest : List Char} (hrest : NoDigit rest) :
    readWhole (Nat.toDigits 10 n ++ rest) = (Nat.toDigits 10 n, rest) := by
  unfold readWhole
  rw [takeWhile_digits (isDigit_toDigits n) hrest, dropWhile_digits (isDigit_toDigits n) hrest]
  by_cases hn : n = 0
  · rw [hn]
    rfl
  · rw [if_neg]
    rw [List.head?_append_of_ne_nil _ Nat.toDigits_ne_nil]
    exact head_toDigits (by omega)

theorem isDigit_fractionDigits (r scale : ℕ) : ∀ c ∈ fractionDigits r scale, c.isDigit = true := by
  intro c hc
  rcases List.mem_append.1 hc with hc | hc
  · rw [List.eq_of_mem_replicate hc]
    rfl
  · exact isDigit_toDigits r c hc

theorem fractionDigits_length {r scale : ℕ} (hscale : scale ≠ 0) (hr : r < 10 ^ scale) :
    (fractionDigits r scale).length = scale := by
  have hle := (Nat.length_toDigits_le_iff (n := r) (by decide : 1 < 10) (by omega : 0 < scale)).2 hr
  simp only [fractionDigits, List.length_append, List.length_replicate]
  omega

/-- The digits of a number are its mantissa. -/
theorem digitsValue_append {n scale : ℕ} (hscale : scale ≠ 0) :
    digitsValue (Nat.toDigits 10 (n / 10 ^ scale) ++ fractionDigits (n % 10 ^ scale) scale) =
      n := by
  have hlength := fractionDigits_length hscale (Nat.mod_lt n (by positivity : 0 < 10 ^ scale))
  have hfraction : Nat.ofDigitChars 10 (fractionDigits (n % 10 ^ scale) scale) 0 =
      n % 10 ^ scale := by
    rw [fractionDigits, Nat.ofDigitChars_append, Nat.ofDigitChars_replicate_zero, Nat.mul_zero,
      Nat.ofDigitChars_ten_toDigits]
  rw [digitsValue, Nat.ofDigitChars_append, Nat.ofDigitChars_ten_toDigits,
    Nat.ofDigitChars_eq_ofDigitChars_zero, hfraction, hlength, Nat.div_add_mod]

theorem readExponent_follows {rest : List Char} (h : Follows rest) :
    readExponent rest = (none, rest) := by
  cases rest with
  | nil => rfl
  | cons c rest =>
    obtain ⟨-, -, he, hE⟩ := h c rfl
    unfold readExponent
    exact if_neg fun hc => hc.1.elim he hE

theorem readFraction_follows {rest : List Char} (h : Follows rest) :
    readFraction rest = ([], rest) := by
  unfold readFraction
  split
  · exact absurd rfl (h _ rfl).2.1
  · rfl

theorem readFraction_digits {ds rest : List Char} (hne : ds ≠ []) (hds : ∀ c ∈ ds, c.isDigit = true)
    (h : NoDigit rest) : readFraction ('.' :: (ds ++ rest)) = (ds, rest) := by
  rw [readFraction, takeWhile_digits hds h, dropWhile_digits hds h, if_neg hne]

theorem readUnsigned_text (sign : ℤ) (n scale : ℕ) {rest : List Char} (h : Follows rest) :
    readUnsigned sign (Nat.toDigits 10 (n / 10 ^ scale) ++
      ((if scale = 0 then [] else '.' :: fractionDigits (n % 10 ^ scale) scale) ++ rest)) =
        some (.num (sign * n) scale, rest) := by
  have hno : NoDigit rest := fun c hc => (h c hc).1
  by_cases hscale : scale = 0
  · rw [if_pos hscale, List.nil_append, hscale, Nat.pow_zero, Nat.div_one]
    simp only [readUnsigned, readWhole_toDigits n hno, readFraction_follows h,
      readExponent_follows h, Nat.toDigits_ne_nil, if_false, List.append_nil, List.length_nil,
      numberOf, digitsValue, Nat.ofDigitChars_ten_toDigits]
  · have hpoint : NoDigit ('.' :: (fractionDigits (n % 10 ^ scale) scale ++ rest)) := by
      intro c hc
      cases hc
      rfl
    have hlength := fractionDigits_length hscale (Nat.mod_lt n (by positivity : 0 < 10 ^ scale))
    have hne : fractionDigits (n % 10 ^ scale) scale ≠ [] := by
      intro hnil
      rw [hnil] at hlength
      exact hscale hlength.symm
    rw [if_neg hscale, List.cons_append]
    simp only [readUnsigned, readWhole_toDigits _ hpoint,
      readFraction_digits hne (isDigit_fractionDigits _ _) hno, readExponent_follows h,
      Nat.toDigits_ne_nil, if_false, numberOf, digitsValue_append hscale, hlength]

/-- **A number** is read back. -/
theorem readNumber_text (m : ℤ) (scale : ℕ) {rest : List Char} (h : Follows rest) :
    readNumber ((decimalText m scale).toList ++ rest) = some (.num m scale, rest) := by
  rw [decimalText_toList, List.append_assoc, List.append_assoc]
  by_cases hm : m < 0
  · rw [if_pos hm, List.singleton_append, readNumber, readUnsigned_text _ _ _ h]
    congr
    omega
  · rw [if_neg hm, List.nil_append]
    obtain ⟨c, ds, hdigits, hc⟩ := toDigits_head (m.natAbs / 10 ^ scale)
    have hunsigned := readUnsigned_text 1 m.natAbs scale h
    rw [hdigits, List.cons_append] at hunsigned ⊢
    unfold readNumber
    split
    · rename_i heq
      rw [(List.cons.inj heq).1] at hc
      cases hc
    · rw [hunsigned]
      congr
      omega

/-! ## Values -/

mutual

/-- Every dictionary in a value has a key once. -/
def Distinct : Json → Prop
  | .arr items => DistinctItems items
  | .obj fields => (fields.map (·.1)).Nodup ∧ DistinctFields fields
  | _ => True

/-- So it is in all items. -/
def DistinctItems : List Json → Prop
  | [] => True
  | item :: items => Distinct item ∧ DistinctItems items

/-- So it is in all entries. -/
def DistinctFields : List (String × Json) → Prop
  | [] => True
  | (_, value) :: fields => Distinct value ∧ DistinctFields fields

end

/-- A character that begins a value. -/
def Begins (c : Char) : Prop :=
  ¬ (c = ' ' ∨ c = '\t' ∨ c = '\n' ∨ c = '\r') ∧ c ≠ ']' ∧ c ≠ '\x7d'

theorem begins_of_isDigit {c : Char} (h : c.isDigit = true) : Begins c := by
  refine ⟨?_, ?_, ?_⟩
  · rintro (rfl | rfl | rfl | rfl) <;> exact absurd h (by decide)
  · rintro rfl
    exact absurd h (by decide)
  · rintro rfl
    exact absurd h (by decide)

theorem number_head (m : ℤ) (scale : ℕ) : ∃ c rest, (decimalText m scale).toList = c :: rest ∧
    (c.isDigit = true ∨ c = '-') := by
  obtain ⟨c, ds, hdigits, hc⟩ := toDigits_head (m.natAbs / 10 ^ scale)
  rw [decimalText_toList, hdigits]
  by_cases hm : m < 0
  · rw [if_pos hm]
    exact ⟨'-', _, rfl, .inr rfl⟩
  · rw [if_neg hm]
    exact ⟨c, _, rfl, .inl hc⟩

theorem write_head (v : Json) : ∃ c rest, write v = c :: rest ∧ Begins c := by
  cases v with
  | null => exact ⟨'n', _, rfl, by simp [Begins]⟩
  | bool b =>
    cases b
    · exact ⟨'f', _, rfl, by simp [Begins]⟩
    · exact ⟨'t', _, rfl, by simp [Begins]⟩
  | num m scale =>
    obtain ⟨c, rest, htext, hc⟩ := number_head m scale
    refine ⟨c, rest, htext, ?_⟩
    rcases hc with hc | rfl
    · exact begins_of_isDigit hc
    · simp [Begins]
  | str s => exact ⟨'"', _, rfl, by simp [Begins]⟩
  | arr items => exact ⟨'[', _, rfl, by simp [Begins]⟩
  | obj fields => exact ⟨'\x7b', _, rfl, by simp [Begins]⟩

/-- A character that is no blank is not skipped. -/
theorem skip_bracket {c : Char} (h : ¬ (c = ' ' ∨ c = '\t' ∨ c = '\n' ∨ c = '\r'))
    (cs : List Char) : skip (c :: cs) = c :: cs := by
  unfold skip
  rw [List.dropWhile_cons_of_neg]
  simp [h]

theorem skip_write (v : Json) (rest : List Char) : skip (write v ++ rest) = write v ++ rest := by
  obtain ⟨c, cs, hwrite, hc⟩ := write_head v
  rw [hwrite, List.cons_append, skip_bracket hc.1]

theorem skip_blank (cs : List Char) : skip (' ' :: cs) = skip cs := by
  unfold skip
  rw [List.dropWhile_cons_of_pos]
  simp

/-- A digit or a sign begins a number. -/
theorem readValue_number {c : Char} (hc : c.isDigit = true ∨ c = '-') (n : ℕ) (cs : List Char) :
    readValue (n + 1) (c :: cs) = readNumber (c :: cs) := by
  have hne : ∀ {d : Char} {rest : List Char}, (d.isDigit = false ∧ d ≠ '-') →
      c :: cs = d :: rest → False := by
    rintro d rest ⟨hdigit, hsign⟩ heq
    rw [(List.cons.inj heq).1] at hc
    rcases hc with hc | hc
    · rw [hdigit] at hc
      cases hc
    · exact hsign hc
  rw [readValue] <;> exact fun _ => hne (by decide)

theorem foldl_set {d fields : Fields} (h : ((d ++ fields).map (·.1)).Nodup) :
    fields.foldl (fun d e => Fields.set d e.1 e.2) d = d ++ fields := by
  induction fields generalizing d with
  | nil => rw [List.foldl_nil, List.append_nil]
  | cons e fields ih =>
    have hnew : d.any (fun x => x.1 = e.1) = false := by
      rw [List.any_eq_false]
      intro x hx heq
      rw [List.map_append, List.map_cons] at h
      refine List.disjoint_of_nodup_append h (List.mem_map_of_mem hx) ?_
      rw [of_decide_eq_true heq]
      exact List.mem_cons_self
    have hset : Fields.set d e.1 e.2 = d ++ [e] := by
      unfold Fields.set
      rw [hnew]
      rfl
    rw [List.foldl_cons, hset, ih, List.append_assoc, List.singleton_append]
    rwa [List.append_assoc, List.singleton_append]

theorem quote_length (s : String) : s.toList.length + 2 ≤ (quote s).length := by
  have hne : ∀ c, asciiChar c ≠ [] := by
    intro c
    unfold asciiChar
    split_ifs <;> simp [codeUnit]
  have hle := length_le_flatMap hne s.toList
  simp only [quote, List.length_cons, List.length_append, List.length_nil]
  omega

theorem quote_append (s : String) (rest : List Char) :
    quote s ++ rest = '"' :: (s.toList.flatMap asciiChar ++ '"' :: rest) := by
  simp [quote]

theorem follows_cons {c : Char} (h : c.isDigit = false ∧ c ≠ '.' ∧ c ≠ 'e' ∧ c ≠ 'E')
    (rest : List Char) : Follows (c :: rest) := by
  intro d hd
  cases hd
  exact h

theorem writeItems_head {items : List Json} (h : items ≠ []) :
    ∃ c rest, writeItems items = c :: rest ∧ Begins c := by
  match items, h with
  | [item], _ => exact write_head item
  | item :: next :: items, _ =>
    obtain ⟨c, rest, hwrite, hc⟩ := write_head item
    exact ⟨c, _, by rw [writeItems, hwrite, List.cons_append]; simp, hc⟩

theorem writeItems_cons (item next : Json) (items : List Json) :
    writeItems (item :: next :: items) =
      write item ++ ',' :: ' ' :: writeItems (next :: items) := by
  rw [writeItems]
  simp

theorem writeFields_cons (key : String) (value : Json) (next : String × Json)
    (fields : List (String × Json)) : writeFields ((key, value) :: next :: fields) =
      quote key ++ ':' :: ' ' :: (write value ++ ',' :: ' ' :: writeFields (next :: fields)) := by
  rw [writeFields]
  simp

theorem writeFields_head {fields : List (String × Json)} (h : fields ≠ []) :
    ∃ rest, writeFields fields = '"' :: rest := by
  match fields, h with
  | [(key, value)], _ => exact ⟨_, quote_append key _⟩
  | (key, value) :: next :: fields, _ =>
    rw [writeFields_cons]
    exact ⟨_, quote_append key _⟩

theorem readItems_comma {n : ℕ} {cs r rest : List Char} {x : Json}
    (h : readValue n (skip cs) = some (x, r)) (hr : skip r = ',' :: rest) :
    readItems (n + 1) cs = (readItems n rest).map fun y => (x :: y.1, y.2) := by
  rw [readItems, h]
  simp only [Option.bind_some, hr]

theorem readItems_end {n : ℕ} {cs r rest : List Char} {x : Json}
    (h : readValue n (skip cs) = some (x, r)) (hr : skip r = ']' :: rest) :
    readItems (n + 1) cs = some ([x], rest) := by
  rw [readItems, h]
  simp only [Option.bind_some, hr]

theorem readFields_comma {n : ℕ} {cs k r r' rest : List Char} {key : List Char} {x : Json}
    (hcs : skip cs = '"' :: k) (hkey : readString n k = some (key, r)) (hr : skip r = ':' :: r')
    {w : List Char} (hx : readValue n (skip r') = some (x, w)) (hw : skip w = ',' :: rest) :
    readFields (n + 1) cs =
      (readFields n rest).map fun y => ((String.ofList key, x) :: y.1, y.2) := by
  rw [readFields]
  simp only [hcs, hkey, Option.bind_some, hr, hx, hw]

theorem readFields_end {n : ℕ} {cs k r r' rest : List Char} {key : List Char} {x : Json}
    (hcs : skip cs = '"' :: k) (hkey : readString n k = some (key, r)) (hr : skip r = ':' :: r')
    {w : List Char} (hx : readValue n (skip r') = some (x, w)) (hw : skip w = '\x7d' :: rest) :
    readFields (n + 1) cs = some ([(String.ofList key, x)], rest) := by
  rw [readFields]
  simp only [hcs, hkey, Option.bind_some, hr, hx, hw]

theorem readItems_blank (n : ℕ) (cs : List Char) : readItems n (' ' :: cs) = readItems n cs := by
  cases n with
  | zero => rfl
  | succ n => rw [readItems, readItems, skip_blank]

theorem readFields_blank (n : ℕ) (cs : List Char) : readFields n (' ' :: cs) = readFields n cs := by
  cases n with
  | zero => rfl
  | succ n => rw [readFields, readFields, skip_blank]

mutual

theorem readValue_write : (v : Json) → Distinct v → ∀ n rest, (write v).length < n → Follows rest →
    readValue n (write v ++ rest) = some (v, rest)
  | .null, _, n + 1, rest, _, _ => rfl
  | .bool true, _, n + 1, rest, _, _ => rfl
  | .bool false, _, n + 1, rest, _, _ => rfl
  | .num m scale, _, n + 1, rest, _, hrest => by
    obtain ⟨c, cs, htext, hc⟩ := number_head m scale
    have hread := readNumber_text m scale hrest
    rw [htext, List.cons_append] at hread
    rw [write, htext, List.cons_append, readValue_number hc, hread]
  | .str s, _, n + 1, rest, hn, _ => by
    have hlength := quote_length s
    rw [write] at hn
    rw [write, quote_append, readValue, readString_write (by omega)]
    simp
  | .arr [], _, n + 1, rest, _, _ => rfl
  | .arr (item :: items), hdistinct, n + 1, rest, hn, _ => by
    obtain ⟨c, cs, htext, hc⟩ := writeItems_head (List.cons_ne_nil item items)
    have hread := readItems_write (item :: items) hdistinct (List.cons_ne_nil _ _) n rest (by
      simp only [write, List.length_cons, List.length_append, List.length_nil] at hn
      omega)
    rw [write, List.cons_append, List.append_assoc, List.singleton_append, readValue]
    rw [htext, List.cons_append] at hread ⊢
    rw [skip_bracket hc.1, if_neg (by simp [hc.2.1]), hread]
    rfl
  | .obj [], _, n + 1, rest, _, _ => rfl
  | .obj (e :: fields), hdistinct, n + 1, rest, hn, _ => by
    obtain ⟨cs, htext⟩ := writeFields_head (List.cons_ne_nil e fields)
    have hread := readFields_write (e :: fields) hdistinct.2 (List.cons_ne_nil _ _) n rest (by
      simp only [write, List.length_cons, List.length_append, List.length_nil] at hn
      omega)
    rw [write, List.cons_append, List.append_assoc, List.singleton_append, readValue]
    rw [htext, List.cons_append] at hread ⊢
    rw [skip_bracket (by simp), if_neg (by simp), hread, Option.map_some,
      foldl_set (by simpa using hdistinct.1), List.nil_append]

theorem readItems_write : (items : List Json) → DistinctItems items → items ≠ [] → ∀ n rest,
    (writeItems items).length + 1 < n →
      readItems n (writeItems items ++ ']' :: rest) = some (items, rest)
  | [item], hdistinct, _, n + 1, rest, hn => by
    rw [writeItems] at hn ⊢
    have hread := readValue_write item hdistinct.1 n (']' :: rest) (by omega)
      (follows_cons (by decide) rest)
    exact readItems_end ((skip_write item _).symm ▸ hread) (skip_bracket (by decide) rest)
  | item :: next :: items, hdistinct, _, n + 1, rest, hn => by
    rw [writeItems_cons, List.append_assoc, List.cons_append, List.cons_append]
    rw [writeItems_cons, List.length_append, List.length_cons, List.length_cons] at hn
    have hread := readValue_write item hdistinct.1 n
      (',' :: ' ' :: (writeItems (next :: items) ++ ']' :: rest)) (by omega)
      (follows_cons (by decide) _)
    have hitems := readItems_write (next :: items) hdistinct.2 (List.cons_ne_nil _ _) n rest
      (by omega)
    rw [readItems_comma ((skip_write item _).symm ▸ hread) (skip_bracket (by decide) _),
      readItems_blank, hitems]
    rfl

theorem readFields_write : (fields : List (String × Json)) → DistinctFields fields → fields ≠ [] →
    ∀ n rest, (writeFields fields).length + 1 < n →
      readFields n (writeFields fields ++ '\x7d' :: rest) = some (fields, rest)
  | [(key, value)], hdistinct, _, n + 1, rest, hn => by
    have hkey := quote_length key
    rw [writeFields, List.append_assoc, quote_append, List.cons_append, List.cons_append]
    rw [writeFields, List.length_append, List.length_cons, List.length_cons] at hn
    have hread := readValue_write value hdistinct.1 n ('\x7d' :: rest) (by omega)
      (follows_cons (by decide) rest)
    rw [readFields_end (skip_bracket (by decide) _) (readString_write (by omega) _)
      (skip_bracket (by decide) _) (by rw [skip_blank, skip_write, hread])
      (skip_bracket (by decide) rest), String.ofList_toList]
  | (key, value) :: next :: fields, hdistinct, _, n + 1, rest, hn => by
    have hkey := quote_length key
    rw [writeFields_cons, List.append_assoc, quote_append, List.cons_append, List.cons_append,
      List.append_assoc, List.cons_append, List.cons_append]
    simp only [writeFields_cons, List.length_append, List.length_cons] at hn
    have hread := readValue_write value hdistinct.1 n
      (',' :: ' ' :: (writeFields (next :: fields) ++ '\x7d' :: rest)) (by omega)
      (follows_cons (by decide) _)
    have hfields := readFields_write (next :: fields) hdistinct.2 (List.cons_ne_nil _ _) n rest
      (by omega)
    rw [readFields_comma (skip_bracket (by decide) _) (readString_write (by omega) _)
      (skip_bracket (by decide) _) (by rw [skip_blank, skip_write, hread])
      (skip_bracket (by decide) _), readFields_blank, hfields, String.ofList_toList]
    rfl

end

/-- **A value is read back** from its text. -/
theorem loads_dumps {v : Json} (h : Distinct v) : loads (dumps v) = some v := by
  have hread := readValue_write v h ((write v).length + 1) [] (Nat.lt_succ_self _)
    fun c hc => by cases hc
  have hskip := skip_write v []
  rw [List.append_nil] at hread hskip
  unfold loads dumps
  rw [String.toList_ofList, hskip, hread]
  rfl

end JsonText

end TryTrust
