import TryTrust.Json

/-!
# Canonical JSON

The deterministic text of a JSON value: dictionaries sorted by key, no blanks, no floats. Two values
have the same text only if they are the same value up to the order of keys.

* `Json.sorted`: dictionaries sorted, at every depth; `dump`: the text of a value as it is;
* `canonicalText`: `json.dumps(value, sort_keys=True, separators=(",", ":"), ensure_ascii=False)`;
* `readChar_jsonChar`, `dumpString_inj`: texts in quotes are read back;
* **`dump_inj`**: a text is followed by no digit, so where it ends and what it says is determined;
* **`canonicalText_inj`**: equal canonical texts are of equal values, up to the order of keys.
-/

namespace TryTrust

/-! ## Texts -/

/-- A lower-case hexadecimal digit. -/
def hexDigit (n : ℕ) : Char := if n < 10 then Char.ofNat (48 + n) else Char.ofNat (87 + n)

/-- One character in a JSON text, `ensure_ascii=False`. -/
def jsonChar (c : Char) : List Char :=
  if c = '"' then ['\\', '"']
  else if c = '\\' then ['\\', '\\']
  else if c = '\n' then ['\\', 'n']
  else if c = '\r' then ['\\', 'r']
  else if c = '\t' then ['\\', 't']
  else if c = Char.ofNat 12 then ['\\', 'f']
  else if c = Char.ofNat 8 then ['\\', 'b']
  else if c.toNat < 32 then
    ['\\', 'u', '0', '0', hexDigit (c.toNat / 16), hexDigit (c.toNat % 16)]
  else [c]

/-- A text in quotes. -/
def dumpString (s : String) : List Char := '"' :: (s.toList.flatMap jsonChar ++ ['"'])

/-- Texts with commas between them. -/
def commas : List (List Char) → List Char
  | [] => []
  | [t] => t
  | t :: u :: ts => t ++ ',' :: commas (u :: ts)

mutual

/-- The text of a value, its dictionaries in their order; `none` at a float. -/
def dump : Json → Option (List Char)
  | .null => some "null".toList
  | .bool b => some (if b then "true".toList else "false".toList)
  | .num m scale => if scale = 0 then some (toString m).toList else none
  | .str s => some (dumpString s)
  | .arr items => (dumpItems items).map fun ts => '[' :: (commas ts ++ [']'])
  | .obj fields => (dumpFields fields).map fun ts => '\x7b' :: (commas ts ++ ['\x7d'])

/-- The texts of a list's items. -/
def dumpItems : List Json → Option (List (List Char))
  | [] => some []
  | item :: items => (dump item).bind fun t => (dumpItems items).map (t :: ·)

/-- The texts of a dictionary's entries. -/
def dumpFields : List (String × Json) → Option (List (List Char))
  | [] => some []
  | (key, value) :: fields =>
    (dump value).bind fun t => (dumpFields fields).map ((dumpString key ++ ':' :: t) :: ·)

end

/-- A dictionary's entries by key. -/
def sortFields (fields : List (String × Json)) : List (String × Json) :=
  fields.insertionSort fun a b => ¬ b.1 < a.1

mutual

/-- A value with its dictionaries sorted. -/
def Json.sorted : Json → Json
  | .arr items => .arr (sortedItems items)
  | .obj fields => .obj (sortFields (sortedFields fields))
  | value => value

/-- The items of a list, sorted inside. -/
def Json.sortedItems : List Json → List Json
  | [] => []
  | item :: items => item.sorted :: sortedItems items

/-- The entries of a dictionary, sorted inside. -/
def Json.sortedFields : List (String × Json) → List (String × Json)
  | [] => []
  | (key, value) :: fields => (key, value.sorted) :: sortedFields fields

end

/-- `canonical_json`; `none` at a float. -/
def canonicalText (value : Json) : Option String := (dump value.sorted).map String.ofList

/-! ## Texts in quotes are read back -/

/-- The value of a lower-case hexadecimal digit. -/
def hexDigitValue (c : Char) : ℕ := if c.toNat < 58 then c.toNat - 48 else c.toNat - 87

/-- The first character of a JSON text, and what is left. -/
def readChar : List Char → Option (Char × List Char)
  | '\\' :: 'u' :: _ :: _ :: high :: low :: rest =>
    some (Char.ofNat (16 * hexDigitValue high + hexDigitValue low), rest)
  | '\\' :: 'n' :: rest => some ('\n', rest)
  | '\\' :: 'r' :: rest => some ('\r', rest)
  | '\\' :: 't' :: rest => some ('\t', rest)
  | '\\' :: 'f' :: rest => some (Char.ofNat 12, rest)
  | '\\' :: 'b' :: rest => some (Char.ofNat 8, rest)
  | '\\' :: c :: rest => some (c, rest)
  | c :: rest => some (c, rest)
  | [] => none

theorem hexDigitValue_hexDigit : ∀ n < 16, hexDigitValue (hexDigit n) = n := by decide

theorem readChar_jsonChar (c : Char) (rest : List Char) :
    readChar (jsonChar c ++ rest) = some (c, rest) := by
  unfold jsonChar
  split_ifs with hquote hback hnl hcr htab hff hbs hctl
  · rw [hquote]; rfl
  · rw [hback]; rfl
  · rw [hnl]; rfl
  · rw [hcr]; rfl
  · rw [htab]; rfl
  · rw [hff]; rfl
  · rw [hbs]; rfl
  · have hhigh := hexDigitValue_hexDigit (c.toNat / 16) (by omega)
    have hlow := hexDigitValue_hexDigit (c.toNat % 16) (by omega)
    have hsum : 16 * (c.toNat / 16) + c.toNat % 16 = c.toNat := by omega
    simp only [List.cons_append, List.nil_append, readChar, hhigh, hlow, hsum, Char.ofNat_toNat]
  · rw [List.singleton_append]
    unfold readChar
    split <;> simp_all

theorem jsonChar_ne_nil (c : Char) : jsonChar c ≠ [] := by
  unfold jsonChar
  split_ifs <;> exact List.cons_ne_nil _ _

theorem jsonChar_head (c : Char) (rest rest' : List Char) :
    jsonChar c ++ rest ≠ '"' :: rest' := by
  unfold jsonChar
  split_ifs with hquote
  all_goals intro h; simp at h
  exact hquote h.1

/-- The end of a text in quotes is determined. -/
theorem flatMap_jsonChar_inj {s t : List Char} {r r' : List Char}
    (h : s.flatMap jsonChar ++ '"' :: r = t.flatMap jsonChar ++ '"' :: r') : s = t ∧ r = r' := by
  induction s generalizing t with
  | nil =>
    cases t with
    | nil => exact ⟨rfl, (List.cons.inj h).2⟩
    | cons d t =>
      rw [List.flatMap_cons, List.append_assoc] at h
      exact absurd h.symm (jsonChar_head d _ _)
  | cons c s ih =>
    cases t with
    | nil =>
      rw [List.flatMap_cons, List.append_assoc] at h
      exact absurd h (jsonChar_head c _ _)
    | cons d t =>
      rw [List.flatMap_cons, List.flatMap_cons, List.append_assoc, List.append_assoc] at h
      have hread := congrArg readChar h
      rw [readChar_jsonChar, readChar_jsonChar] at hread
      obtain ⟨hc, hrest⟩ := Prod.mk.inj (Option.some.inj hread)
      obtain ⟨hs, hr⟩ := ih hrest
      exact ⟨by rw [hc, hs], hr⟩

theorem dumpString_inj {s t : String} {r r' : List Char}
    (h : dumpString s ++ r = dumpString t ++ r') : s = t ∧ r = r' := by
  simp only [dumpString, List.cons_append, List.append_assoc] at h
  obtain ⟨hs, hr⟩ := flatMap_jsonChar_inj (List.cons.inj h).2
  exact ⟨String.toList_inj.1 hs, hr⟩

/-! ## Numbers -/

/-- What follows a value's text: no digit. -/
def NoDigit (r : List Char) : Prop := ∀ c ∈ r.head?, c.isDigit = false

/-- The end of a run of digits is determined. -/
theorem digits_inj {n m : ℕ} {r r' : List Char}
    (h : Nat.toDigits 10 n ++ r = Nat.toDigits 10 m ++ r') (hr : NoDigit r) (hr' : NoDigit r') :
    n = m ∧ r = r' := by
  have hall : ∀ k, ∀ c ∈ Nat.toDigits 10 k, c.isDigit = true := fun k c hc =>
    Nat.isDigit_of_mem_toDigits (by omega) (by omega) hc
  have htake : ∀ {r : List Char}, NoDigit r → r.takeWhile Char.isDigit = [] := by
    intro r hr
    cases r with
    | nil => rfl
    | cons c r =>
      have hc := hr c rfl
      simp [hc]
  have hdigits := congrArg (List.takeWhile Char.isDigit) h
  rw [List.takeWhile_append_of_pos (hall n), List.takeWhile_append_of_pos (hall m), htake hr,
    htake hr', List.append_nil, List.append_nil] at hdigits
  have hvalue := congrArg (fun ds => Nat.ofDigitChars 10 ds 0) hdigits
  simp only [Nat.ofDigitChars_ten_toDigits] at hvalue
  rw [hvalue] at h
  exact ⟨hvalue, List.append_cancel_left h⟩

theorem toString_natCast (n : ℕ) : (toString (n : ℤ)).toList = Nat.toDigits 10 n := by
  change (toString n).toList = _
  rw [Nat.toString_eq_ofList_toDigits, String.toList_ofList]

theorem toString_negSucc (n : ℕ) :
    (toString (Int.negSucc n)).toList = '-' :: Nat.toDigits 10 (n + 1) := by
  change ("-" ++ toString (n + 1)).toList = _
  rw [String.toList_append, Nat.toString_eq_ofList_toDigits]
  exact congrArg ('-' :: ·) String.toList_ofList

/-- A run of digits starts with a digit. -/
theorem toDigits_head (n : ℕ) : ∃ c rest, Nat.toDigits 10 n = c :: rest ∧ c.isDigit = true := by
  cases hdigits : Nat.toDigits 10 n with
  | nil => exact absurd hdigits Nat.toDigits_ne_nil
  | cons c rest =>
    have hmem : c ∈ Nat.toDigits 10 n := by
      rw [hdigits]
      exact List.mem_cons_self
    exact ⟨c, rest, rfl, Nat.isDigit_of_mem_toDigits (by omega) (by omega) hmem⟩

theorem intText_inj {m k : ℤ} {r r' : List Char}
    (h : (toString m).toList ++ r = (toString k).toList ++ r') (hr : NoDigit r)
    (hr' : NoDigit r') : m = k ∧ r = r' := by
  have hminus : ∀ n x y, Nat.toDigits 10 n ++ x ≠ '-' :: y := by
    intro n x y heq
    obtain ⟨c, rest, hdigits, hc⟩ := toDigits_head n
    rw [hdigits] at heq
    have hhead : c = '-' := (List.cons.inj heq).1
    rw [hhead] at hc
    exact absurd hc (by decide)
  cases m with
  | ofNat n =>
    cases k with
    | ofNat l =>
      obtain ⟨hn, hrest⟩ := digits_inj (by
        rwa [Int.ofNat_eq_natCast, Int.ofNat_eq_natCast, toString_natCast, toString_natCast] at h)
        hr hr'
      exact ⟨by rw [hn], hrest⟩
    | negSucc l =>
      rw [Int.ofNat_eq_natCast, toString_natCast, toString_negSucc] at h
      exact absurd h (hminus n _ _)
  | negSucc n =>
    cases k with
    | ofNat l =>
      rw [Int.ofNat_eq_natCast, toString_natCast, toString_negSucc] at h
      exact absurd h.symm (hminus l _ _)
    | negSucc l =>
      rw [toString_negSucc, toString_negSucc] at h
      obtain ⟨hn, hrest⟩ := digits_inj (List.cons.inj h).2 hr hr'
      exact ⟨by rw [Nat.succ.inj hn], hrest⟩

/-! ## Values -/

/-- What a value's first character says of it. -/
inductive Kind where
  | null
  | bool
  | num
  | str
  | arr
  | obj
  | none
  deriving DecidableEq

/-- The kind of a value. -/
def Json.kind : Json → Kind
  | .null => .null
  | .bool _ => .bool
  | .num .. => .num
  | .str _ => .str
  | .arr _ => .arr
  | .obj _ => .obj

/-- The kind of a value by its first character. -/
def charKind (c : Char) : Kind :=
  if c.isDigit ∨ c = '-' then .num
  else if c = 'n' then .null
  else if c = 't' ∨ c = 'f' then .bool
  else if c = '"' then .str
  else if c = '[' then .arr
  else if c = '{' then .obj
  else .none

theorem intText_kind (m : ℤ) : ∃ c rest, (toString m).toList = c :: rest ∧ charKind c = .num := by
  cases m with
  | ofNat n =>
    obtain ⟨c, rest, hdigits, hc⟩ := toDigits_head n
    exact ⟨c, rest, (toString_natCast n).trans hdigits, if_pos (.inl hc)⟩
  | negSucc n => exact ⟨'-', _, toString_negSucc n, rfl⟩

/-- A text starts with a character of its value's kind. -/
theorem dump_kind {v : Json} {t : List Char} (h : dump v = some t) :
    ∃ c rest, t = c :: rest ∧ charKind c = v.kind := by
  cases v with
  | null =>
    cases h
    exact ⟨'n', _, rfl, rfl⟩
  | bool b =>
    cases h
    cases b
    · exact ⟨'f', _, rfl, rfl⟩
    · exact ⟨'t', _, rfl, rfl⟩
  | num m scale =>
    rw [dump] at h
    split_ifs at h
    cases h
    exact intText_kind m
  | str s =>
    cases h
    exact ⟨'"', _, rfl, rfl⟩
  | arr items =>
    obtain ⟨ts, -, rfl⟩ := Option.map_eq_some_iff.1 h
    exact ⟨'[', _, rfl, rfl⟩
  | obj fields =>
    obtain ⟨ts, -, rfl⟩ := Option.map_eq_some_iff.1 h
    exact ⟨'{', _, rfl, rfl⟩

/-- No value starts with a closing bracket. -/
theorem bracket_ne_kind (v : Json) : charKind ']' ≠ v.kind := by
  cases v <;> exact Kind.noConfusion

theorem kind_eq_of_dump {v w : Json} {t u r r' : List Char} (hv : dump v = some t)
    (hw : dump w = some u) (h : t ++ r = u ++ r') : v.kind = w.kind := by
  obtain ⟨c, rest, rfl, hc⟩ := dump_kind hv
  obtain ⟨d, rest', rfl, hd⟩ := dump_kind hw
  have hhead : c = d := (List.cons.inj h).1
  rw [← hc, ← hd, hhead]

/-- A list's text from its first item on. -/
theorem commas_cons (t : List Char) (ts : List (List Char)) (close : Char) (r : List Char) :
    commas (t :: ts) ++ close :: r =
      t ++ if ts = [] then close :: r else ',' :: (commas ts ++ close :: r) := by
  cases ts with
  | nil => rfl
  | cons u us => simp [commas]

theorem noDigit_tail (ts : List (List Char)) {close : Char} (hclose : close.isDigit = false)
    (r : List Char) :
    NoDigit (if ts = [] then close :: r else ',' :: (commas ts ++ close :: r)) := by
  intro c hc
  split_ifs at hc
  · cases hc
    exact hclose
  · cases hc
    rfl

/-- What follows an item: the end, or a comma and the next items. -/
theorem tail_inj {ts us : List (List Char)} {close : Char} (hclose : close ≠ ',')
    {r r' : List Char}
    (h : (if ts = [] then close :: r else ',' :: (commas ts ++ close :: r)) =
      if us = [] then close :: r' else ',' :: (commas us ++ close :: r')) :
    (ts = [] ∧ us = [] ∧ r = r') ∨
      (ts ≠ [] ∧ us ≠ [] ∧ commas ts ++ close :: r = commas us ++ close :: r') := by
  by_cases hts : ts = []
  · by_cases hus : us = []
    · rw [if_pos hts, if_pos hus] at h
      exact .inl ⟨hts, hus, (List.cons.inj h).2⟩
    · rw [if_pos hts, if_neg hus] at h
      exact absurd (List.cons.inj h).1 hclose
  · by_cases hus : us = []
    · rw [if_neg hts, if_pos hus] at h
      exact absurd (List.cons.inj h).1.symm hclose
    · rw [if_neg hts, if_neg hus] at h
      exact .inr ⟨hts, hus, (List.cons.inj h).2⟩

theorem dumpItems_cons {item : Json} {items : List Json} {ts : List (List Char)}
    (h : dumpItems (item :: items) = some ts) :
    ∃ t us, dump item = some t ∧ dumpItems items = some us ∧ ts = t :: us := by
  rw [dumpItems] at h
  obtain ⟨t, ht, h⟩ := Option.bind_eq_some_iff.1 h
  obtain ⟨us, hus, rfl⟩ := Option.map_eq_some_iff.1 h
  exact ⟨t, us, ht, hus, rfl⟩

theorem dumpFields_cons {key : String} {value : Json} {fields : List (String × Json)}
    {ts : List (List Char)} (h : dumpFields ((key, value) :: fields) = some ts) :
    ∃ t us, dump value = some t ∧ dumpFields fields = some us ∧
      ts = (dumpString key ++ ':' :: t) :: us := by
  rw [dumpFields] at h
  obtain ⟨t, ht, h⟩ := Option.bind_eq_some_iff.1 h
  obtain ⟨us, hus, rfl⟩ := Option.map_eq_some_iff.1 h
  exact ⟨t, us, ht, hus, rfl⟩

mutual

/-- **A value's text** determines where it ends, and the value. -/
theorem dump_inj : (v : Json) → ∀ (w : Json) (t u r r' : List Char), dump v = some t →
    dump w = some u → t ++ r = u ++ r' → NoDigit r → NoDigit r' → v = w ∧ r = r'
  | .null, w, t, u, r, r', hv, hw, h, _, _ => by
    cases w with
    | null =>
      cases hv
      cases hw
      exact ⟨rfl, List.append_cancel_left h⟩
    | _ => cases kind_eq_of_dump hv hw h
  | .bool b, w, t, u, r, r', hv, hw, h, _, _ => by
    cases w with
    | bool b' =>
      cases hv
      cases hw
      cases b <;> cases b' <;> simp_all
    | _ => cases kind_eq_of_dump hv hw h
  | .num m scale, w, t, u, r, r', hv, hw, h, hr, hr' => by
    have hkind := kind_eq_of_dump hv hw h
    cases w with
    | num k scale' =>
      rw [dump] at hv hw
      split_ifs at hv hw with hm hk
      cases hv
      cases hw
      obtain ⟨hmk, hrest⟩ := intText_inj h hr hr'
      exact ⟨by rw [hmk, hm, hk], hrest⟩
    | _ => cases hkind
  | .str s, w, t, u, r, r', hv, hw, h, _, _ => by
    cases w with
    | str s' =>
      cases hv
      cases hw
      obtain ⟨hs, hrest⟩ := dumpString_inj h
      exact ⟨by rw [hs], hrest⟩
    | _ => cases kind_eq_of_dump hv hw h
  | .arr items, w, t, u, r, r', hv, hw, h, _, _ => by
    have hkind := kind_eq_of_dump hv hw h
    cases w with
    | arr items' =>
      obtain ⟨ts, hts, rfl⟩ := Option.map_eq_some_iff.1 hv
      obtain ⟨us, hus, rfl⟩ := Option.map_eq_some_iff.1 hw
      have hbody : commas ts ++ ']' :: r = commas us ++ ']' :: r' := by
        simpa using h
      obtain ⟨hitems, hrest⟩ := dumpItems_inj items items' ts us r r' hts hus hbody
      exact ⟨by rw [hitems], hrest⟩
    | _ => cases hkind
  | .obj fields, w, t, u, r, r', hv, hw, h, _, _ => by
    have hkind := kind_eq_of_dump hv hw h
    cases w with
    | obj fields' =>
      obtain ⟨ts, hts, rfl⟩ := Option.map_eq_some_iff.1 hv
      obtain ⟨us, hus, rfl⟩ := Option.map_eq_some_iff.1 hw
      have hbody : commas ts ++ '}' :: r = commas us ++ '}' :: r' := by
        simpa using h
      obtain ⟨hfields, hrest⟩ := dumpFields_inj fields fields' ts us r r' hts hus hbody
      exact ⟨by rw [hfields], hrest⟩
    | _ => cases hkind

/-- The texts of a list's items, up to the closing bracket. -/
theorem dumpItems_inj : (items : List Json) → ∀ (items' : List Json) (ts us : List (List Char))
    (r r' : List Char), dumpItems items = some ts → dumpItems items' = some us →
    commas ts ++ ']' :: r = commas us ++ ']' :: r' → items = items' ∧ r = r'
  | [], items', ts, us, r, r', hts, hus, h => by
    cases hts
    cases items' with
    | nil =>
      cases hus
      exact ⟨rfl, (List.cons.inj h).2⟩
    | cons item' items' =>
      obtain ⟨t, us, ht, -, rfl⟩ := dumpItems_cons hus
      obtain ⟨c, rest, rfl, hc⟩ := dump_kind ht
      rw [commas_cons] at h
      have hhead : ']' = c := (List.cons.inj h).1
      rw [← hhead] at hc
      exact absurd hc (bracket_ne_kind item')
  | item :: items, items', ts, us, r, r', hts, hus, h => by
    obtain ⟨t, ts, ht, hitems, rfl⟩ := dumpItems_cons hts
    cases items' with
    | nil =>
      cases hus
      obtain ⟨c, rest, rfl, hc⟩ := dump_kind ht
      rw [commas_cons] at h
      have hhead : c = ']' := (List.cons.inj h).1
      rw [hhead] at hc
      exact absurd hc (bracket_ne_kind item)
    | cons item' items' =>
      obtain ⟨u, us, hu, hitems', rfl⟩ := dumpItems_cons hus
      rw [commas_cons, commas_cons] at h
      obtain ⟨hitem, htail⟩ := dump_inj item item' t u _ _ ht hu h
        (noDigit_tail ts (by decide) r) (noDigit_tail us (by decide) r')
      rcases tail_inj (by decide) htail with ⟨rfl, rfl, hrest⟩ | ⟨-, -, hrest⟩
      · obtain ⟨hrests, -⟩ := dumpItems_inj items items' [] [] [] [] hitems hitems' rfl
        exact ⟨by rw [hitem, hrests], hrest⟩
      · obtain ⟨hrests, hr⟩ := dumpItems_inj items items' ts us r r' hitems hitems' hrest
        exact ⟨by rw [hitem, hrests], hr⟩

/-- The texts of a dictionary's entries, up to the closing brace. -/
theorem dumpFields_inj : (fields : List (String × Json)) → ∀ (fields' : List (String × Json))
    (ts us : List (List Char)) (r r' : List Char), dumpFields fields = some ts →
    dumpFields fields' = some us → commas ts ++ '}' :: r = commas us ++ '}' :: r' →
    fields = fields' ∧ r = r'
  | [], fields', ts, us, r, r', hts, hus, h => by
    cases hts
    cases fields' with
    | nil =>
      cases hus
      exact ⟨rfl, (List.cons.inj h).2⟩
    | cons e fields' =>
      obtain ⟨key, value⟩ := e
      obtain ⟨t, us, ht, -, rfl⟩ := dumpFields_cons hus
      rw [commas_cons] at h
      exact absurd (List.cons.inj h).1 (by decide)
  | (key, value) :: fields, fields', ts, us, r, r', hts, hus, h => by
    obtain ⟨t, ts, ht, hfields, rfl⟩ := dumpFields_cons hts
    cases fields' with
    | nil =>
      cases hus
      rw [commas_cons] at h
      exact absurd (List.cons.inj h).1 (by decide)
    | cons e fields' =>
      obtain ⟨key', value'⟩ := e
      obtain ⟨u, us, hu, hfields', rfl⟩ := dumpFields_cons hus
      rw [commas_cons, commas_cons, List.append_assoc, List.append_assoc] at h
      obtain ⟨hkey, hcolon⟩ := dumpString_inj h
      have hvalues := (List.cons.inj hcolon).2
      obtain ⟨hvalue, htail⟩ := dump_inj value value' t u _ _ ht hu hvalues
        (noDigit_tail ts (by decide) r) (noDigit_tail us (by decide) r')
      rcases tail_inj (by decide) htail with ⟨rfl, rfl, hrest⟩ | ⟨-, -, hrest⟩
      · obtain ⟨hrests, -⟩ := dumpFields_inj fields fields' [] [] [] [] hfields hfields' rfl
        exact ⟨by rw [hkey, hvalue, hrests], hrest⟩
      · obtain ⟨hrests, hr⟩ := dumpFields_inj fields fields' ts us r r' hfields hfields' hrest
        exact ⟨by rw [hkey, hvalue, hrests], hr⟩

end

/-- **Equal canonical texts** are of equal values, up to the order of keys. -/
theorem canonicalText_inj {v w : Json} {t : String} (hv : canonicalText v = some t)
    (hw : canonicalText w = some t) : v.sorted = w.sorted := by
  obtain ⟨ts, hts, hs⟩ := Option.map_eq_some_iff.1 hv
  obtain ⟨us, hus, hu⟩ := Option.map_eq_some_iff.1 hw
  have hsame : ts ++ [] = us ++ [] := by
    rw [List.append_nil, List.append_nil]
    exact String.ofList_inj.1 (hs.trans hu.symm)
  have hnil : NoDigit [] := fun c hc => by cases hc
  exact (dump_inj _ _ ts us [] [] hts hus hsame hnil hnil).1

/-! ## Dictionaries written in order -/

/-- Entries that are already in the order of their keys. -/
theorem sortFields_of_keys {fields : List (String × Json)}
    (h : (fields.map Prod.fst).Pairwise fun a b => ¬ b < a) : sortFields fields = fields := by
  exact (List.pairwise_map.1 h).insertionSort_eq

theorem sortedFields_keys (fields : List (String × Json)) :
    (Json.sortedFields fields).map Prod.fst = fields.map Prod.fst := by
  induction fields with
  | nil => rfl
  | cons e fields ih =>
    obtain ⟨key, value⟩ := e
    rw [Json.sortedFields, List.map_cons, List.map_cons, ih]

/-- A dictionary written in order is only sorted inside. -/
theorem sorted_obj {fields : List (String × Json)}
    (h : (fields.map Prod.fst).Pairwise fun a b => ¬ b < a) :
    (Json.obj fields).sorted = .obj (Json.sortedFields fields) := by
  rw [Json.sorted, sortFields_of_keys]
  rwa [sortedFields_keys]

/-! ## Sorting twice -/

theorem not_lt_total (a b : String × Json) : ¬ b.1 < a.1 ∨ ¬ a.1 < b.1 := by
  by_contra h
  push Not at h
  exact absurd (h.1.trans h.2) (lt_irrefl _)

theorem sortFields_ordered (fields : List (String × Json)) :
    (sortFields fields).Pairwise fun a b => ¬ b.1 < a.1 := by
  have : Std.Total fun a b : String × Json => ¬ b.1 < a.1 := ⟨not_lt_total⟩
  have : IsTrans (String × Json) fun a b => ¬ b.1 < a.1 :=
    ⟨fun a b c hab hbc hca => absurd (lt_of_lt_of_le hca (not_lt.1 hab)) hbc⟩
  exact List.pairwise_insertionSort _ fields

theorem sortedFields_eq_map (fields : List (String × Json)) :
    Json.sortedFields fields = fields.map fun e => (e.1, e.2.sorted) := by
  induction fields with
  | nil => rfl
  | cons e fields ih =>
    obtain ⟨key, value⟩ := e
    rw [Json.sortedFields, List.map_cons, ih]

/-- Sorting inside does not change the order of the keys. -/
theorem sortedFields_sortFields (fields : List (String × Json)) :
    Json.sortedFields (sortFields fields) = sortFields (Json.sortedFields fields) := by
  rw [sortedFields_eq_map, sortedFields_eq_map, sortFields, sortFields]
  exact List.map_insertionSort _ _ _ _ fun a _ b _ => Iff.rfl

mutual

/-- **Sorting twice** is sorting. -/
theorem sorted_sorted : (v : Json) → v.sorted.sorted = v.sorted
  | .null => rfl
  | .bool _ => rfl
  | .num _ _ => rfl
  | .str _ => rfl
  | .arr items => by
    rw [Json.sorted, Json.sorted, sortedItems_sortedItems items]
  | .obj fields => by
    rw [Json.sorted, Json.sorted, sortedFields_sortFields, sortedFields_sortedFields fields]
    rw [sortFields_of_keys]
    exact List.pairwise_map.2 (sortFields_ordered _)

theorem sortedItems_sortedItems : (items : List Json) →
    Json.sortedItems (Json.sortedItems items) = Json.sortedItems items
  | [] => rfl
  | item :: items => by
    rw [Json.sortedItems, Json.sortedItems, sorted_sorted item, sortedItems_sortedItems items]

theorem sortedFields_sortedFields : (fields : List (String × Json)) →
    Json.sortedFields (Json.sortedFields fields) = Json.sortedFields fields
  | [] => rfl
  | (key, value) :: fields => by
    rw [Json.sortedFields, Json.sortedFields, sorted_sorted value,
      sortedFields_sortedFields fields]

end

/-- The entries of two dictionaries that are sorted alike. -/
theorem mem_of_sorted_obj {fields fields' : List (String × Json)}
    (h : (Json.obj fields).sorted = (Json.obj fields').sorted) {key : String} {value : Json}
    (hmem : (key, value) ∈ fields) : ∃ value', (key, value') ∈ fields' ∧
      value.sorted = value'.sorted := by
  have hperm : (Json.sortedFields fields).Perm (Json.sortedFields fields') := by
    have hsame : sortFields (Json.sortedFields fields) = sortFields (Json.sortedFields fields') :=
      Json.obj.inj h
    exact ((List.perm_insertionSort _ _).symm.trans (.of_eq hsame)).trans
      (List.perm_insertionSort _ _)
  rw [sortedFields_eq_map, sortedFields_eq_map] at hperm
  have hsorted := hperm.mem_iff.1 (List.mem_map_of_mem (f := fun e => (e.1, e.2.sorted)) hmem)
  obtain ⟨⟨key', value'⟩, hmem', heq⟩ := List.mem_map.1 hsorted
  obtain ⟨hkey, hvalue⟩ := Prod.mk.inj heq
  change key' = key at hkey
  exact ⟨value', by rwa [← hkey], hvalue.symm⟩

end TryTrust
