import TryTrust.CanonicalJson
import TryTrust.CodeUnits

/-!
# RFC 8785

The canonical text of a value by the standard: dictionaries by the code units of their keys, numbers
as doubles. It is compared with `canonicalText`, which sorts by characters and writes any integer.

* `escape`, `write`: the text of a value as it is; `arrange`: dictionaries sorted by an order of
  their keys; `Jcs.text`: the canonical text;
* `numbers`: every number of a value passes a check; `integral`, `safe`; `uncrossed`: no two keys of
  one dictionary cross; `portable`;
* `write_eq`: the standard writes what `dump` does while the integers are safe;
* `arrange_eq_iff`: both orders arrange a value alike exactly when its keys do not cross;
* **`text_eq_iff`**: both canonical texts are the same exactly when the value is portable.
-/

namespace TryTrust.Jcs

open CodeUnits (utf16 crossed utf16_lt_iff crossed_comm)

/-! ## The standard -/

/-- One character in a text. -/
def escape (c : Char) : List Char :=
  if c.toNat < 0x20 then
    if c.toNat = 0x08 then ['\\', 'b']
    else if c.toNat = 0x09 then ['\\', 't']
    else if c.toNat = 0x0A then ['\\', 'n']
    else if c.toNat = 0x0C then ['\\', 'f']
    else if c.toNat = 0x0D then ['\\', 'r']
    else ['\\', 'u', '0', '0', hexDigit (c.toNat / 16), hexDigit (c.toNat % 16)]
  else if c = '"' then ['\\', '"']
  else if c = '\\' then ['\\', '\\']
  else [c]

/-- A text in quotes. -/
def writeString (s : String) : List Char := '"' :: (s.toList.flatMap escape ++ ['"'])

/-- The integer and all below it are doubles. -/
def isSafe (m : ℤ) : Bool := decide (m.natAbs < 2 ^ 53)

section Write

/- The text of a number with a fraction. -/
variable (float : ℤ → ℕ → Option (List Char))

mutual

/-- The text of a value, its dictionaries in their order; `none` at an integer that is not safe. -/
def write : Json → Option (List Char)
  | .null => some "null".toList
  | .bool b => some (if b then "true".toList else "false".toList)
  | .num m scale =>
    if scale = 0 then if isSafe m then some (toString m).toList else none else float m scale
  | .str s => some (writeString s)
  | .arr items => (writeItems items).map fun ts => '[' :: (commas ts ++ [']'])
  | .obj fields => (writeFields fields).map fun ts => '\x7b' :: (commas ts ++ ['\x7d'])

/-- The texts of a list's items. -/
def writeItems : List Json → Option (List (List Char))
  | [] => some []
  | item :: items => (write item).bind fun t => (writeItems items).map (t :: ·)

/-- The texts of a dictionary's entries. -/
def writeFields : List (String × Json) → Option (List (List Char))
  | [] => some []
  | (key, value) :: fields =>
    (write value).bind fun t => (writeFields fields).map ((writeString key ++ ':' :: t) :: ·)

end

end Write

section Arrange

/- The order of the keys. -/
variable (le : String → String → Prop) [DecidableRel le]

/-- A dictionary's entries in order. -/
def arrangeKeys (fields : List (String × Json)) : List (String × Json) :=
  fields.insertionSort fun a b => le a.1 b.1

mutual

/-- A value with its dictionaries in order. -/
def arrange : Json → Json
  | .arr items => .arr (arrangeItems items)
  | .obj fields => .obj (arrangeKeys le (arrangeFields fields))
  | value => value

/-- The items of a list, in order inside. -/
def arrangeItems : List Json → List Json
  | [] => []
  | item :: items => arrange item :: arrangeItems items

/-- The entries of a dictionary, in order inside. -/
def arrangeFields : List (String × Json) → List (String × Json)
  | [] => []
  | (key, value) :: fields => (key, arrange value) :: arrangeFields fields

end

end Arrange

/-- The order of keys by characters. -/
def byChars (a b : String) : Prop := ¬ b < a

/-- The order of keys by code units. -/
def byUnits (a b : String) : Prop := ¬ utf16 b.toList < utf16 a.toList

instance : DecidableRel byChars := fun a b => by unfold byChars; infer_instance

instance : DecidableRel byUnits := fun a b => by unfold byUnits; infer_instance

/-- **The canonical text** of RFC 8785. -/
def text (float : ℤ → ℕ → Option (List Char)) (value : Json) : Option String :=
  (write float (arrange byUnits value)).map String.ofList

/-! ## Values that both write alike -/

section Numbers

/- The check of a number. -/
variable (p : ℤ → ℕ → Bool)

mutual

/-- Every number of a value passes. -/
def numbers : Json → Bool
  | .num m scale => p m scale
  | .arr items => numbersItems items
  | .obj fields => numbersFields fields
  | _ => true

/-- Every number of a list's items passes. -/
def numbersItems : List Json → Bool
  | [] => true
  | item :: items => numbers item && numbersItems items

/-- Every number of a dictionary's entries passes. -/
def numbersFields : List (String × Json) → Bool
  | [] => true
  | (_, value) :: fields => numbers value && numbersFields fields

end

end Numbers

/-- The number is an integer. -/
def isInt (_ : ℤ) (scale : ℕ) : Bool := scale = 0

/-- The number is no integer that is not safe. -/
def fits (m : ℤ) (scale : ℕ) : Bool := scale ≠ 0 || isSafe m

/-- Every number is an integer. -/
def integral (value : Json) : Bool := numbers isInt value

/-- Every integer is safe. -/
def safe (value : Json) : Bool := numbers fits value

/-- No two keys cross. -/
def Uncrossed (keys : List String) : Prop :=
  ∀ a ∈ keys, ∀ b ∈ keys, crossed a.toList b.toList = false

instance (keys : List String) : Decidable (Uncrossed keys) := by unfold Uncrossed; infer_instance

mutual

/-- No two keys of a dictionary cross, at any depth. -/
def uncrossed : Json → Bool
  | .arr items => uncrossedItems items
  | .obj fields => decide (Uncrossed (fields.map Prod.fst)) && uncrossedFields fields
  | _ => true

/-- No two keys cross in a list's items. -/
def uncrossedItems : List Json → Bool
  | [] => true
  | item :: items => uncrossed item && uncrossedItems items

/-- No two keys cross in a dictionary's entries. -/
def uncrossedFields : List (String × Json) → Bool
  | [] => true
  | (_, value) :: fields => uncrossed value && uncrossedFields fields

end

/-- **Portable values**: every integer is safe, and no two keys of one dictionary cross. -/
def Portable (value : Json) : Prop := safe value = true ∧ uncrossed value = true

instance (value : Json) : Decidable (Portable value) := by unfold Portable; infer_instance

/-! ## Texts -/

/-- Both escape the same characters alike. -/
theorem escape_eq (c : Char) : escape c = jsonChar c := by
  have hchar : ∀ d : Char, c = d ↔ c.toNat = d.toNat := fun d => Char.toNat_inj.symm
  unfold escape jsonChar
  simp only [hchar, show '"'.toNat = 34 by decide, show '\\'.toNat = 92 by decide,
    show '\n'.toNat = 10 by decide, show '\r'.toNat = 13 by decide, show '\t'.toNat = 9 by decide,
    show (Char.ofNat 12).toNat = 12 by decide, show (Char.ofNat 8).toNat = 8 by decide]
  split_ifs <;> first | rfl | omega

theorem writeString_eq (s : String) : writeString s = dumpString s := by
  rw [writeString, dumpString, funext escape_eq]

mutual

/-- A value has a text when its numbers are integers. -/
theorem dump_isSome : (v : Json) → (dump v).isSome = integral v
  | .null => rfl
  | .bool _ => rfl
  | .num m scale => by
    simp only [dump, integral, numbers, isInt]
    split_ifs with hscale <;> simp [hscale]
  | .str _ => rfl
  | .arr items => by
    rw [dump, Option.isSome_map, dumpItems_isSome items]
    rfl
  | .obj fields => by
    rw [dump, Option.isSome_map, dumpFields_isSome fields]
    rfl

theorem dumpItems_isSome : (items : List Json) →
    (dumpItems items).isSome = numbersItems isInt items
  | [] => rfl
  | item :: items => by
    have hitem : (dump item).isSome = numbers isInt item := dump_isSome item
    rw [dumpItems, numbersItems, ← hitem, ← dumpItems_isSome items]
    cases dump item <;> simp

theorem dumpFields_isSome : (fields : List (String × Json)) →
    (dumpFields fields).isSome = numbersFields isInt fields
  | [] => rfl
  | (key, value) :: fields => by
    have hvalue : (dump value).isSome = numbers isInt value := dump_isSome value
    rw [dumpFields, numbersFields, ← hvalue, ← dumpFields_isSome fields]
    cases dump value <;> simp

end

section WriteEq

variable (float : ℤ → ℕ → Option (List Char))

mutual

/-- **The texts of integers**: both are the same while the integers are safe. -/
theorem write_eq : (v : Json) → integral v = true →
    write float v = if safe v then dump v else none
  | .null, _ => rfl
  | .bool _, _ => rfl
  | .num m scale, h => by
    have hscale : scale = 0 := of_decide_eq_true h
    simp [write, dump, safe, numbers, fits, hscale]
  | .str s, _ => by
    rw [write, writeString_eq]
    rfl
  | .arr items, h => by
    rw [write, writeItems_eq items h, dump, safe, numbers]
    split_ifs <;> rfl
  | .obj fields, h => by
    rw [write, writeFields_eq fields h, dump, safe, numbers]
    split_ifs <;> rfl

theorem writeItems_eq : (items : List Json) → numbersItems isInt items = true →
    writeItems float items = if numbersItems fits items then dumpItems items else none
  | [], _ => rfl
  | item :: items, h => by
    obtain ⟨hitem, hitems⟩ := Bool.and_eq_true_iff.1 h
    rw [writeItems, write_eq item hitem, writeItems_eq items hitems, dumpItems, numbersItems, safe]
    cases numbers fits item <;> cases numbersItems fits items <;> simp

theorem writeFields_eq : (fields : List (String × Json)) → numbersFields isInt fields = true →
    writeFields float fields = if numbersFields fits fields then dumpFields fields else none
  | [], _ => rfl
  | (key, value) :: fields, h => by
    obtain ⟨hvalue, hfields⟩ := Bool.and_eq_true_iff.1 h
    rw [writeFields, write_eq value hvalue, writeFields_eq fields hfields, dumpFields,
      numbersFields, safe, writeString_eq]
    cases numbers fits value <;> cases numbersFields fits fields <;> simp

end

end WriteEq

/-! ## Orders -/

section Orders

variable (le : String → String → Prop) [DecidableRel le]

theorem arrangeFields_eq_map (fields : List (String × Json)) :
    arrangeFields le fields = fields.map fun e => (e.1, arrange le e.2) := by
  induction fields with
  | nil => rfl
  | cons e fields ih =>
    obtain ⟨key, value⟩ := e
    rw [arrangeFields, List.map_cons, ih]

/-- A dictionary is sorted by its keys, whatever its values become. -/
theorem arrange_obj (fields : List (String × Json)) :
    arrangeKeys le (arrangeFields le fields) =
      (arrangeKeys le fields).map fun e => (e.1, arrange le e.2) := by
  rw [arrangeFields_eq_map, arrangeKeys, arrangeKeys]
  exact (List.map_insertionSort (fun a b : String × Json => le a.1 b.1)
    (fun a b : String × Json => le a.1 b.1) (fun e => (e.1, arrange le e.2)) fields
    fun a _ b _ => Iff.rfl).symm

theorem numbersFields_eq_all (p : ℤ → ℕ → Bool) (fields : List (String × Json)) :
    numbersFields p fields = fields.all fun e => numbers p e.2 := by
  induction fields with
  | nil => rfl
  | cons e fields ih =>
    obtain ⟨key, value⟩ := e
    rw [numbersFields, List.all_cons, ih]

theorem numbersFields_arrangeKeys (p : ℤ → ℕ → Bool) (fields : List (String × Json)) :
    numbersFields p (arrangeKeys le fields) = numbersFields p fields := by
  rw [numbersFields_eq_all, numbersFields_eq_all]
  exact (List.perm_insertionSort (fun a b : String × Json => le a.1 b.1) fields).all_eq

mutual

/-- Order changes no number. -/
theorem numbers_arrange (p : ℤ → ℕ → Bool) : (v : Json) → numbers p (arrange le v) = numbers p v
  | .null => rfl
  | .bool _ => rfl
  | .num _ _ => rfl
  | .str _ => rfl
  | .arr items => numbersItems_arrange p items
  | .obj fields => by
    rw [arrange, numbers, numbers, numbersFields_arrangeKeys, numbersFields_arrange p fields]

theorem numbersItems_arrange (p : ℤ → ℕ → Bool) : (items : List Json) →
    numbersItems p (arrangeItems le items) = numbersItems p items
  | [] => rfl
  | item :: items => by
    rw [arrangeItems, numbersItems, numbersItems, numbers_arrange p item,
      numbersItems_arrange p items]

theorem numbersFields_arrange (p : ℤ → ℕ → Bool) : (fields : List (String × Json)) →
    numbersFields p (arrangeFields le fields) = numbersFields p fields
  | [] => rfl
  | (key, value) :: fields => by
    rw [arrangeFields, numbersFields, numbersFields, numbers_arrange p value,
      numbersFields_arrange p fields]

end

end Orders

mutual

/-- `sort_keys` sorts by characters. -/
theorem sorted_eq_arrange : (v : Json) → v.sorted = arrange byChars v
  | .null => rfl
  | .bool _ => rfl
  | .num _ _ => rfl
  | .str _ => rfl
  | .arr items => by
    rw [Json.sorted, arrange, sortedItems_eq_arrange items]
  | .obj fields => by
    rw [Json.sorted, arrange, sortedFields_eq_arrange fields]
    rfl

theorem sortedItems_eq_arrange : (items : List Json) →
    Json.sortedItems items = arrangeItems byChars items
  | [] => rfl
  | item :: items => by
    rw [Json.sortedItems, arrangeItems, sorted_eq_arrange item, sortedItems_eq_arrange items]

theorem sortedFields_eq_arrange : (fields : List (String × Json)) →
    Json.sortedFields fields = arrangeFields byChars fields
  | [] => rfl
  | (key, value) :: fields => by
    rw [Json.sortedFields, arrangeFields, sorted_eq_arrange value,
      sortedFields_eq_arrange fields]

end

/-! ## Both orders -/

theorem byUnits_iff (a b : String) :
    (byUnits a b ↔ byChars a b) ↔ crossed b.toList a.toList = false := by
  unfold byUnits byChars
  rw [not_iff_not, String.lt_iff_toList_lt]
  exact utf16_lt_iff _ _

/-- Entries sorted by two orders that agree on their keys. -/
theorem orderedInsert_congr {le le' : String → String → Prop} [DecidableRel le] [DecidableRel le']
    {e : String × Json} {fields : List (String × Json)}
    (h : ∀ x ∈ fields, (le e.1 x.1 ↔ le' e.1 x.1)) :
    fields.orderedInsert (fun a b => le a.1 b.1) e =
      fields.orderedInsert (fun a b => le' a.1 b.1) e := by
  induction fields with
  | nil => rfl
  | cons x fields ih =>
    have htail := ih fun y hy => h y (List.mem_cons_of_mem _ hy)
    by_cases hle : le e.1 x.1
    · have hle' := (h x List.mem_cons_self).1 hle
      simp [List.orderedInsert, hle, hle']
    · have hle' : ¬ le' e.1 x.1 := fun h' => hle ((h x List.mem_cons_self).2 h')
      simp [List.orderedInsert, hle, hle', htail]

theorem arrangeKeys_congr {le le' : String → String → Prop} [DecidableRel le] [DecidableRel le']
    {fields : List (String × Json)}
    (h : ∀ a ∈ fields.map Prod.fst, ∀ b ∈ fields.map Prod.fst, (le a b ↔ le' a b)) :
    arrangeKeys le fields = arrangeKeys le' fields := by
  induction fields with
  | nil => rfl
  | cons e fields ih =>
    have htail : arrangeKeys le fields = arrangeKeys le' fields := ih fun a ha b hb =>
      h a (List.mem_cons_of_mem _ ha) b (List.mem_cons_of_mem _ hb)
    have hmem : ∀ x ∈ arrangeKeys le' fields, (le e.1 x.1 ↔ le' e.1 x.1) := fun x hx =>
      h e.1 List.mem_cons_self x.1 (List.mem_cons_of_mem _
        (List.mem_map_of_mem ((List.mem_insertionSort _).1 hx)))
    show (arrangeKeys le fields).orderedInsert _ e = (arrangeKeys le' fields).orderedInsert _ e
    rw [htail]
    exact orderedInsert_congr hmem

theorem arrangeKeys_byChars (fields : List (String × Json)) :
    (arrangeKeys byChars fields).Pairwise fun a b => byChars a.1 b.1 :=
  sortFields_ordered fields

theorem arrangeKeys_byUnits (fields : List (String × Json)) :
    (arrangeKeys byUnits fields).Pairwise fun a b => byUnits a.1 b.1 := by
  have : Std.Total fun a b : String × Json => byUnits a.1 b.1 := ⟨fun a b => by
    unfold byUnits
    rcases lt_or_ge (utf16 b.1.toList) (utf16 a.1.toList) with h | h
    · exact .inr (not_lt.2 h.le)
    · exact .inl (not_lt.2 h)⟩
  have : IsTrans (String × Json) fun a b => byUnits a.1 b.1 := ⟨fun a b c hab hbc =>
    not_lt.2 ((not_lt.1 hab).trans (not_lt.1 hbc))⟩
  exact List.pairwise_insertionSort _ fields

/-- **Keys in both orders** do not cross. -/
theorem uncrossed_of_pairwise {keys : List String} (hchars : keys.Pairwise byChars)
    (hunits : keys.Pairwise byUnits) : Uncrossed keys := by
  have hpair : keys.Pairwise fun a b => crossed a.toList b.toList = false := by
    refine (hchars.and hunits).imp fun {a b} h => ?_
    rw [crossed_comm]
    exact (byUnits_iff a b).1 (iff_of_true h.2 h.1)
  have hsymm : Std.Symm fun a b : String => crossed a.toList b.toList = false :=
    ⟨fun a b h => by rw [crossed_comm]; exact h⟩
  intro a ha b hb
  exact hpair.forall_of_forall (fun x _ => CodeUnits.crossed_self _) ha hb

/-- A dictionary is arranged alike exactly when its values are, and its keys do not cross. -/
theorem arrange_obj_iff (fields : List (String × Json)) :
    arrange byUnits (.obj fields) = arrange byChars (.obj fields) ↔
      Uncrossed (fields.map Prod.fst) ∧
        arrangeFields byUnits fields = arrangeFields byChars fields := by
  have hmem : ∀ e, e ∈ arrangeKeys byUnits fields ↔ e ∈ fields := fun e =>
    List.mem_insertionSort fun a b : String × Json => byUnits a.1 b.1
  -- uncrossed keys are in one order, so the entries are the same before their values are arranged
  have hsame : Uncrossed (fields.map Prod.fst) →
      arrangeKeys byUnits fields = arrangeKeys byChars fields := fun h =>
    arrangeKeys_congr fun a ha b hb => (byUnits_iff a b).2 (h b hb a ha)
  rw [arrange, arrange, Json.obj.injEq, arrange_obj, arrange_obj, arrangeFields_eq_map,
    arrangeFields_eq_map]
  constructor
  · intro h
    have hkeys := congrArg (List.map Prod.fst) h
    simp only [List.map_map, Function.comp_def] at hkeys
    have huncrossed : Uncrossed (fields.map Prod.fst) := by
      have hchars : ((arrangeKeys byUnits fields).map Prod.fst).Pairwise byChars := by
        rw [show (arrangeKeys byUnits fields).map Prod.fst =
          (arrangeKeys byChars fields).map Prod.fst from hkeys]
        exact List.pairwise_map.2 (arrangeKeys_byChars fields)
      have hboth := uncrossed_of_pairwise hchars (List.pairwise_map.2 (arrangeKeys_byUnits fields))
      intro a ha b hb
      refine hboth a ?_ b ?_
      · simpa [hmem] using ha
      · simpa [hmem] using hb
    rw [← hsame huncrossed] at h
    refine ⟨huncrossed, List.map_congr_left fun e he => ?_⟩
    exact List.map_inj_left.1 h e ((hmem e).2 he)
  · rintro ⟨huncrossed, hvalues⟩
    rw [← hsame huncrossed]
    exact List.map_congr_left fun e he => List.map_inj_left.1 hvalues e ((hmem e).1 he)

mutual

/-- **A value is arranged alike** by both orders exactly when its keys do not cross. -/
theorem arrange_eq_iff : (v : Json) →
    (arrange byUnits v = arrange byChars v ↔ uncrossed v = true)
  | .null => by simp [arrange, uncrossed]
  | .bool _ => by simp [arrange, uncrossed]
  | .num _ _ => by simp [arrange, uncrossed]
  | .str _ => by simp [arrange, uncrossed]
  | .arr items => by
    rw [arrange, arrange, Json.arr.injEq, uncrossed, arrangeItems_eq_iff items]
  | .obj fields => by
    rw [arrange_obj_iff, arrangeFields_eq_iff fields, uncrossed, Bool.and_eq_true, decide_eq_true_iff]

theorem arrangeItems_eq_iff : (items : List Json) →
    (arrangeItems byUnits items = arrangeItems byChars items ↔ uncrossedItems items = true)
  | [] => by simp [arrangeItems, uncrossedItems]
  | item :: items => by
    rw [arrangeItems, arrangeItems, List.cons.injEq, arrange_eq_iff item,
      arrangeItems_eq_iff items, uncrossedItems, Bool.and_eq_true]

theorem arrangeFields_eq_iff : (fields : List (String × Json)) →
    (arrangeFields byUnits fields = arrangeFields byChars fields ↔ uncrossedFields fields = true)
  | [] => by simp [arrangeFields, uncrossedFields]
  | (key, value) :: fields => by
    rw [arrangeFields, arrangeFields, List.cons.injEq, Prod.mk.injEq, arrange_eq_iff value,
      arrangeFields_eq_iff fields, uncrossedFields, Bool.and_eq_true]
    simp

end

/-- **The canonical texts** are the same exactly when the value is portable. -/
theorem text_eq_iff (float : ℤ → ℕ → Option (List Char)) {v : Json} {t : String}
    (h : canonicalText v = some t) : text float v = some t ↔ Portable v := by
  obtain ⟨ts, hts, rfl⟩ := Option.map_eq_some_iff.1 h
  rw [sorted_eq_arrange] at hts
  have hintegral : integral v = true := by
    rw [integral, ← numbers_arrange byChars isInt v]
    exact (dump_isSome _).symm.trans (by rw [hts]; rfl)
  have hunits : integral (arrange byUnits v) = true :=
    (numbers_arrange byUnits isInt v).trans hintegral
  have hsafe : safe (arrange byUnits v) = safe v := numbers_arrange byUnits fits v
  rw [text, write_eq float _ hunits, hsafe]
  constructor
  · intro h
    split_ifs at h with hv
    swap
    · cases h
    obtain ⟨us, hus, hsame⟩ := Option.map_eq_some_iff.1 h
    have hlists : us ++ [] = ts ++ [] := by
      rw [List.append_nil, List.append_nil]
      exact String.ofList_inj.1 hsame
    have hnil : NoDigit [] := fun c hc => by cases hc
    have harrange := (dump_inj _ _ us ts [] [] hus hts hlists hnil hnil).1
    exact ⟨hv, (arrange_eq_iff v).1 harrange⟩
  · rintro ⟨hv, huncrossed⟩
    rw [if_pos hv, (arrange_eq_iff v).2 huncrossed, hts]
    rfl

end TryTrust.Jcs
