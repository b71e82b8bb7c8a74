import TryTrust.Jcs
import TryTrust.PyEqual

/-!
# Canonical texts are read back

* `nextChar_jsonChar`, `readValue_dump`: `json.loads` reads what `dump` writes;
* `distinct_arrange`, **`pyEq_arrange`**: a value with its dictionaries in another order has every
  key once, and is equal to Python;
* **`loads_canonicalText`**, `loads_text`: both canonical texts are read back, in their order.
-/

namespace TryTrust

open Jcs (arrange arrangeItems arrangeFields arrangeKeys arrange_obj arrangeFields_eq_map byChars
  byUnits)

open PyEqual (distinctFields_iff lookup_of_mem pyEqFields_of)

open JsonText (nextChar readString readValue readItems readFields Distinct DistinctItems
  DistinctFields Follows Begins skip)

/-! ## Texts in quotes -/

theorem jsonChar_eq_codeUnit {c : Char} (h : c.toNat < 32) :
    ['\\', 'u', '0', '0', hexDigit (c.toNat / 16), hexDigit (c.toNat % 16)] =
      JsonText.codeUnit c.toNat := by
  have hzero : hexDigit 0 = '0' := by decide
  have hhigh : c.toNat / 4096 % 16 = 0 := by omega
  have hmid : c.toNat / 256 % 16 = 0 := by omega
  have hlow : c.toNat / 16 % 16 = c.toNat / 16 := by omega
  rw [JsonText.codeUnit, hhigh, hmid, hlow, hzero]

theorem nextChar_jsonChar (c : Char) (rest : List Char) :
    nextChar (jsonChar c ++ rest) = some (c, rest) := by
  unfold jsonChar
  split_ifs with hquote hback hnl hcr htab hff hbs hctl
  · rw [hquote]
    rfl
  · rw [hback]
    rfl
  · rw [hnl]
    rfl
  · rw [hcr]
    rfl
  · rw [htab]
    rfl
  · rw [hff]
    rfl
  · rw [hbs]
    rfl
  · rw [jsonChar_eq_codeUnit hctl, JsonText.codeUnit_append, nextChar,
      JsonText.readEscape_codeUnit (by omega) (by omega), Char.ofNat_toNat]
  · rw [List.singleton_append]
    unfold nextChar
    split <;> simp_all

theorem readString_dumpString {s : String} {n : ℕ} (hn : s.toList.length < n) (rest : List Char) :
    readString n (s.toList.flatMap jsonChar ++ '"' :: rest) = some (s.toList, rest) := by
  refine JsonText.readString_flatMap (fun c rest h => ?_) nextChar_jsonChar hn rest
  obtain ⟨rest', hrest⟩ := List.head?_eq_some_iff.1 h
  exact jsonChar_head c rest rest' hrest

theorem dumpString_append (s : String) (rest : List Char) :
    dumpString s ++ rest = '"' :: (s.toList.flatMap jsonChar ++ '"' :: rest) := by
  simp [dumpString]

theorem dumpString_length (s : String) : s.toList.length + 2 ≤ (dumpString s).length := by
  have hle := JsonText.length_le_flatMap jsonChar_ne_nil s.toList
  simp only [dumpString, List.length_cons, List.length_append, List.length_nil]
  omega

/-! ## Values -/

theorem decimalText_zero (m : ℤ) : (decimalText m 0).toList = (toString m).toList := by
  rw [JsonText.decimalText_toList, if_pos rfl, List.append_nil, Nat.pow_zero, Nat.div_one]
  cases m with
  | ofNat n =>
    rw [if_neg (by simp), List.nil_append]
    exact (toString_natCast n).symm
  | negSucc n =>
    rw [toString_negSucc, if_pos (Int.negSucc_lt_zero n)]
    rfl

theorem dump_head {v : Json} {t : List Char} (h : dump v = some t) :
    ∃ c rest, t = c :: rest ∧ Begins c := by
  cases v with
  | null =>
    cases h
    exact ⟨'n', _, rfl, by simp [Begins]⟩
  | bool b =>
    cases h
    cases b
    · exact ⟨'f', _, rfl, by simp [Begins]⟩
    · exact ⟨'t', _, rfl, by simp [Begins]⟩
  | num m scale =>
    rw [dump] at h
    split_ifs at h
    obtain ⟨c, rest, htext, hc⟩ := JsonText.number_head m 0
    rw [decimalText_zero] at htext
    refine ⟨c, rest, (Option.some.inj h).symm.trans htext, ?_⟩
    rcases hc with hc | rfl
    · exact JsonText.begins_of_isDigit hc
    · simp [Begins]
  | str s =>
    cases h
    exact ⟨'"', _, rfl, by simp [Begins]⟩
  | arr items =>
    obtain ⟨ts, -, rfl⟩ := Option.map_eq_some_iff.1 h
    exact ⟨'[', _, rfl, by simp [Begins]⟩
  | obj fields =>
    obtain ⟨ts, -, rfl⟩ := Option.map_eq_some_iff.1 h
    exact ⟨'\x7b', _, rfl, by simp [Begins]⟩

theorem skip_dump {v : Json} {t : List Char} (h : dump v = some t) (rest : List Char) :
    skip (t ++ rest) = t ++ rest := by
  obtain ⟨c, cs, rfl, hc⟩ := dump_head h
  rw [List.cons_append, JsonText.skip_bracket hc.1]

theorem commas_head {t : List Char} {c : Char} {cs : List Char} (h : t = c :: cs)
    (ts : List (List Char)) : ∃ rest, commas (t :: ts) = c :: rest := by
  subst h
  cases ts with
  | nil => exact ⟨cs, rfl⟩
  | cons u us => exact ⟨_, rfl⟩

mutual

theorem readValue_dump : (v : Json) → Distinct v → ∀ t, dump v = some t → ∀ n rest, t.length < n →
    Follows rest → readValue n (t ++ rest) = some (v, rest)
  | .null, _, _, h, n + 1, rest, _, _ => by
    rw [← Option.some.inj h]
    rfl
  | .bool true, _, _, h, n + 1, rest, _, _ => by
    rw [← Option.some.inj h]
    rfl
  | .bool false, _, _, h, n + 1, rest, _, _ => by
    rw [← Option.some.inj h]
    rfl
  | .num m scale, _, t, h, n + 1, rest, _, hrest => by
    rw [dump] at h
    split_ifs at h with hscale
    obtain ⟨c, cs, htext, hc⟩ := JsonText.number_head m 0
    have hread := JsonText.readNumber_text m 0 hrest
    rw [htext, List.cons_append] at hread
    rw [decimalText_zero] at htext
    rw [← Option.some.inj h, htext, List.cons_append, JsonText.readValue_number hc, hread, hscale]
  | .str s, _, t, h, n + 1, rest, hn, _ => by
    have hlength := dumpString_length s
    cases h
    rw [dumpString_append, readValue, readString_dumpString (by omega)]
    simp
  | .arr [], _, t, h, n + 1, rest, _, _ => by
    cases h
    rfl
  | .arr (item :: items), hdistinct, t, h, n + 1, rest, hn, _ => by
    obtain ⟨ts, hts, rfl⟩ := Option.map_eq_some_iff.1 h
    simp only [List.length_cons, List.length_append, List.length_nil] at hn
    have hread := readItems_dump (item :: items) hdistinct ts hts (List.cons_ne_nil _ _) n rest
      (by omega)
    obtain ⟨u, us, hu, -, rfl⟩ := dumpItems_cons hts
    obtain ⟨c, cs, hc, hbegins⟩ := dump_head hu
    obtain ⟨cs', htext⟩ := commas_head hc us
    rw [List.cons_append, List.append_assoc, List.singleton_append, readValue]
    rw [htext, List.cons_append] at hread ⊢
    rw [JsonText.skip_bracket hbegins.1, if_neg (by simp [hbegins.2.1]), hread]
    rfl
  | .obj [], _, t, h, n + 1, rest, _, _ => by
    cases h
    rfl
  | .obj ((key, value) :: fields), hdistinct, t, h, n + 1, rest, hn, _ => by
    obtain ⟨ts, hts, rfl⟩ := Option.map_eq_some_iff.1 h
    simp only [List.length_cons, List.length_append, List.length_nil] at hn
    have hread := readFields_dump ((key, value) :: fields) hdistinct.2 ts hts (List.cons_ne_nil _ _)
      n rest (by omega)
    obtain ⟨u, us, -, -, rfl⟩ := dumpFields_cons hts
    obtain ⟨cs, htext⟩ := commas_head (t := dumpString key ++ ':' :: u) (dumpString_append key _) us
    rw [List.cons_append, List.append_assoc, List.singleton_append, readValue]
    rw [htext, List.cons_append] at hread ⊢
    rw [JsonText.skip_bracket (by simp), if_neg (by simp), hread, Option.map_some,
      JsonText.foldl_set (by simpa using hdistinct.1), List.nil_append]

theorem readItems_dump : (items : List Json) → DistinctItems items → ∀ ts,
    dumpItems items = some ts → items ≠ [] → ∀ n rest, (commas ts).length + 1 < n →
      readItems n (commas ts ++ ']' :: rest) = some (items, rest)
  | [item], hdistinct, ts, h, _, n + 1, rest, hn => by
    obtain ⟨t, us, ht, hus, rfl⟩ := dumpItems_cons h
    cases hus
    rw [commas] at hn ⊢
    have hread := readValue_dump item hdistinct.1 t ht n (']' :: rest) (by omega)
      (JsonText.follows_cons (by decide) rest)
    exact JsonText.readItems_end ((skip_dump ht _).symm ▸ hread)
      (JsonText.skip_bracket (by decide) rest)
  | item :: next :: items, hdistinct, ts, h, _, n + 1, rest, hn => by
    obtain ⟨t, us, ht, hus, rfl⟩ := dumpItems_cons h
    obtain ⟨u, us', -, -, rfl⟩ := dumpItems_cons hus
    simp only [commas, List.length_append, List.length_cons] at hn
    have hread := readValue_dump item hdistinct.1 t ht n
      (',' :: (commas (u :: us') ++ ']' :: rest)) (by omega) (JsonText.follows_cons (by decide) _)
    have hitems := readItems_dump (next :: items) hdistinct.2 (u :: us') hus
      (List.cons_ne_nil _ _) n rest (by omega)
    rw [commas_cons, if_neg (List.cons_ne_nil _ _), JsonText.readItems_comma
      ((skip_dump ht _).symm ▸ hread) (JsonText.skip_bracket (by decide) _), hitems]
    rfl

theorem readFields_dump : (fields : List (String × Json)) → DistinctFields fields → ∀ ts,
    dumpFields fields = some ts → fields ≠ [] → ∀ n rest, (commas ts).length + 1 < n →
      readFields n (commas ts ++ '\x7d' :: rest) = some (fields, rest)
  | [(key, value)], hdistinct, ts, h, _, n + 1, rest, hn => by
    obtain ⟨t, us, ht, hus, rfl⟩ := dumpFields_cons h
    cases hus
    have hkey := dumpString_length key
    simp only [commas, List.length_append, List.length_cons] at hn
    rw [commas, List.append_assoc, dumpString_append, List.cons_append]
    have hread := readValue_dump value hdistinct.1 t ht n ('\x7d' :: rest) (by omega)
      (JsonText.follows_cons (by decide) rest)
    rw [JsonText.readFields_end (JsonText.skip_bracket (by decide) _)
      (readString_dumpString (by omega) _) (JsonText.skip_bracket (by decide) _)
      ((skip_dump ht _).symm ▸ hread) (JsonText.skip_bracket (by decide) rest),
      String.ofList_toList]
  | (key, value) :: next :: fields, hdistinct, ts, h, _, n + 1, rest, hn => by
    obtain ⟨t, us, ht, hus, rfl⟩ := dumpFields_cons h
    obtain ⟨u, us', -, -, husc⟩ := dumpFields_cons hus
    obtain ⟨e, rfl⟩ : ∃ e, us = e :: us' := ⟨_, husc⟩
    have hkey := dumpString_length key
    simp only [commas, List.length_append, List.length_cons] at hn
    have hread := readValue_dump value hdistinct.1 t ht n
      (',' :: (commas (e :: us') ++ '\x7d' :: rest)) (by omega)
      (JsonText.follows_cons (by decide) _)
    have hfields := readFields_dump (next :: fields) hdistinct.2 (e :: us') hus
      (List.cons_ne_nil _ _) n rest (by omega)
    rw [commas_cons, if_neg (List.cons_ne_nil _ _), List.append_assoc, dumpString_append,
      List.cons_append, JsonText.readFields_comma (JsonText.skip_bracket (by decide) _)
        (readString_dumpString (by omega) _) (JsonText.skip_bracket (by decide) _)
        ((skip_dump ht _).symm ▸ hread) (JsonText.skip_bracket (by decide) _), hfields,
      String.ofList_toList]
    rfl

end

/-- **A value is read back** from its text. -/
theorem loads_dump {v : Json} (hv : Distinct v) {t : List Char} (h : dump v = some t) :
    JsonText.loads (String.ofList t) = some v := by
  have hread := readValue_dump v hv t h (t.length + 1) [] (Nat.lt_succ_self _)
    fun c hc => by cases hc
  have hskip := skip_dump h []
  rw [List.append_nil] at hread hskip
  unfold JsonText.loads
  rw [String.toList_ofList, hskip, hread]
  rfl

/-! ## Dictionaries in another order -/

section Orders

variable (le : String → String → Prop) [DecidableRel le]

theorem arrangeKeys_perm (fields : List (String × Json)) : (arrangeKeys le fields).Perm fields :=
  List.perm_insertionSort (fun a b : String × Json => le a.1 b.1) fields

theorem mem_arrange_obj {fields : List (String × Json)} {e : String × Json}
    (h : e ∈ arrangeKeys le (arrangeFields le fields)) :
    ∃ x ∈ fields, e = (x.1, arrange le x.2) := by
  rw [(arrangeKeys_perm le _).mem_iff, arrangeFields_eq_map] at h
  obtain ⟨x, hx, rfl⟩ := List.mem_map.1 h
  exact ⟨x, hx, rfl⟩

theorem arrange_obj_keys (fields : List (String × Json)) :
    ((arrangeKeys le (arrangeFields le fields)).map Prod.fst).Perm (fields.map Prod.fst) := by
  refine ((arrangeKeys_perm le _).map _).trans (.of_eq ?_)
  rw [arrangeFields_eq_map, List.map_map]
  rfl

mutual

/-- Dictionaries in another order have each key once. -/
theorem distinct_arrange : (v : Json) → Distinct v → Distinct (arrange le v)
  | .null, _ => trivial
  | .bool _, _ => trivial
  | .num _ _, _ => trivial
  | .str _, _ => trivial
  | .arr items, h => distinct_arrangeItems items h
  | .obj fields, h => by
    refine ⟨(arrange_obj_keys le fields).nodup_iff.2 h.1, distinctFields_iff.2 fun e he => ?_⟩
    obtain ⟨x, hx, rfl⟩ := mem_arrange_obj le he
    exact distinct_arrangeFields fields h.2 x hx

theorem distinct_arrangeItems : (items : List Json) → DistinctItems items →
    DistinctItems (arrangeItems le items)
  | [], _ => trivial
  | item :: items, h => ⟨distinct_arrange item h.1, distinct_arrangeItems items h.2⟩

theorem distinct_arrangeFields : (fields : List (String × Json)) → DistinctFields fields →
    ∀ x ∈ fields, Distinct (arrange le x.2)
  | [], _ => by simp
  | (_, value) :: fields, h =>
    List.forall_mem_cons.2 ⟨distinct_arrange value h.1, distinct_arrangeFields fields h.2⟩

end

mutual

/-- **A value with its dictionaries in another order** is equal to Python. -/
theorem pyEq_arrange : (v : Json) → Distinct v → (arrange le v).pyEq v = true
  | .null, _ => rfl
  | .bool b, _ => by simp [arrange, Json.pyEq, Json.numbersAre, Json.number, numCompare]
  | .num m scale, _ => by simp [arrange, Json.pyEq, Json.numbersAre, Json.number, numCompare]
  | .str s, _ => by simp [arrange, Json.pyEq]
  | .arr items, h => by
    rw [arrange, Json.pyEq]
    exact pyEqItems_arrange items h
  | .obj fields, h => by
    have hlen := (arrange_obj_keys le fields).length_eq
    rw [List.length_map, List.length_map] at hlen
    rw [arrange, Json.pyEq, Bool.and_eq_true]
    refine ⟨decide_eq_true hlen, pyEqFields_of fun e he => ?_⟩
    obtain ⟨x, hx, rfl⟩ := mem_arrange_obj le he
    exact ⟨x.2, lookup_of_mem h.1 hx, pyEqFields_arrange fields h.2 x hx⟩

theorem pyEqItems_arrange : (items : List Json) → DistinctItems items →
    Json.pyEqItems (arrangeItems le items) items = true
  | [], _ => rfl
  | item :: items, h => by
    rw [arrangeItems, Json.pyEqItems, Bool.and_eq_true]
    exact ⟨pyEq_arrange item h.1, pyEqItems_arrange items h.2⟩

theorem pyEqFields_arrange : (fields : List (String × Json)) → DistinctFields fields →
    ∀ x ∈ fields, (arrange le x.2).pyEq x.2 = true
  | [], _ => by simp
  | (_, value) :: fields, h =>
    List.forall_mem_cons.2 ⟨pyEq_arrange value h.1, pyEqFields_arrange fields h.2⟩

end

end Orders

/-! ## Canonical texts -/

theorem distinct_sorted {v : Json} (hv : Distinct v) : Distinct v.sorted := by
  rw [Jcs.sorted_eq_arrange]
  exact distinct_arrange byChars v hv

/-- **A canonical text** is read back, in its order. -/
theorem loads_canonicalText {v : Json} (hv : Distinct v) {t : String}
    (h : canonicalText v = some t) : JsonText.loads t = some v.sorted := by
  obtain ⟨ts, hts, rfl⟩ := Option.map_eq_some_iff.1 h
  exact loads_dump (distinct_sorted hv) hts

theorem pyEq_sorted {v : Json} (hv : Distinct v) : v.sorted.pyEq v = true := by
  rw [Jcs.sorted_eq_arrange]
  exact pyEq_arrange byChars v hv

mutual

/-- The standard writes what `dump` does, where it has no floats to write. -/
theorem dump_of_write : (v : Json) → ∀ t, Jcs.write (fun _ _ => none) v = some t → dump v = some t
  | .null, _, h => h
  | .bool _, _, h => h
  | .num m scale, t, h => by
    rw [Jcs.write] at h
    split_ifs at h with hscale
    rw [dump, if_pos hscale, h]
  | .str s, t, h => by
    rw [Jcs.write, Jcs.writeString_eq] at h
    exact h
  | .arr items, t, h => by
    obtain ⟨ts, hts, rfl⟩ := Option.map_eq_some_iff.1 h
    rw [dump, dumpItems_of_write items ts hts]
    rfl
  | .obj fields, t, h => by
    obtain ⟨ts, hts, rfl⟩ := Option.map_eq_some_iff.1 h
    rw [dump, dumpFields_of_write fields ts hts]
    rfl

theorem dumpItems_of_write : (items : List Json) → ∀ ts,
    Jcs.writeItems (fun _ _ => none) items = some ts → dumpItems items = some ts
  | [], _, h => h
  | item :: items, ts, h => by
    obtain ⟨t, ht, h⟩ := Option.bind_eq_some_iff.1 h
    obtain ⟨us, hus, rfl⟩ := Option.map_eq_some_iff.1 h
    rw [dumpItems, dump_of_write item t ht, dumpItems_of_write items us hus]
    rfl

theorem dumpFields_of_write : (fields : List (String × Json)) → ∀ ts,
    Jcs.writeFields (fun _ _ => none) fields = some ts → dumpFields fields = some ts
  | [], _, h => h
  | (key, value) :: fields, ts, h => by
    obtain ⟨t, ht, h⟩ := Option.bind_eq_some_iff.1 h
    obtain ⟨us, hus, rfl⟩ := Option.map_eq_some_iff.1 h
    rw [dumpFields, dump_of_write value t ht, dumpFields_of_write fields us hus,
      Jcs.writeString_eq]
    rfl

end

/-- **The standard's text** of a value without fractions is read back, in its order. -/
theorem loads_text {v : Json} (hv : Distinct v) {t : String}
    (h : Jcs.text (fun _ _ => none) v = some t) : JsonText.loads t = some (arrange byUnits v) := by
  obtain ⟨ts, hts, rfl⟩ := Option.map_eq_some_iff.1 h
  exact loads_dump (distinct_arrange byUnits v hv) (dump_of_write _ _ hts)

end TryTrust
