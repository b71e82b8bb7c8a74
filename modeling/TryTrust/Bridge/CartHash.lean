import TryTrust.Alike
import TryTrust.Bridge.Cart

/-!
# The cart hash as a fingerprint

The hash binds the store type, the store id as it is, the products with their numbers as decimal
texts, and the total in cents.

* `decimalOf`, `SameNumber`: the number that a value stands for; `Blurred`: different numbers that
  28 digits do not tell apart;
* `canonicalNumber_eq_iff`: the decimal text of a number is of what 28 digits keep of it;
* `OnlyNumbers`, `SameContent`, **`Fingerprint`**: what the hash should tell of two carts;
* `Stable`, `Sharp`, **`fingerprint_iff`**: the carts of which it does.
-/

namespace TryTrust.Bridge

open TryTrust.Json (Alike)

/-! ## Numbers -/

/-- A text of digits, with a sign and a point. -/
def isNumeral (text : String) : Bool := text.toList.all fun c => c.isDigit || c = '-' || c = '.'

/-- The finite number of a text. -/
def finiteOf (text : String) : Option Dec :=
  match parseDecimal text with
  | some (.finite d) => some d
  | _ => none

/-- The number that a value stands for, as a number or as a decimal string. -/
def decimalOf : Json → Option Dec
  | .num m scale => some ⟨m, -scale⟩
  | .str text => if isNumeral text then finiteOf text else none
  | _ => none

/-- **Two leaves that differ at most in how a number is represented.** -/
def SameNumber (a b : Json) : Prop :=
  a = b ∨ ∃ x y, decimalOf a = some x ∧ decimalOf b = some y ∧ x.value = y.value

/-- Different numbers of which 28 digits keep the same. -/
def Blurred (a b : Json) : Prop :=
  ∃ x y, decimalOf a = some x ∧ decimalOf b = some y ∧ x.value ≠ y.value ∧
    x.fix.value = y.fix.value

theorem finiteOf_decimalText (m : ℤ) (scale : ℕ) :
    finiteOf (decimalText m scale) = some ⟨m, -scale⟩ := by
  rw [finiteOf, parseDecimal_decimalText]

theorem isNumeral_decimalText (m : ℤ) (scale : ℕ) : isNumeral (decimalText m scale) = true := by
  refine List.all_eq_true.2 fun c hc => ?_
  rcases numeral_decimalText m scale c hc with h | rfl | rfl
  · simp [h]
  · rfl
  · rfl

/-- The text of a number stands for the number. -/
theorem decimalOf_decimalText (m : ℤ) (scale : ℕ) :
    decimalOf (.str (decimalText m scale)) = some ⟨m, -scale⟩ := by
  rw [decimalOf, if_pos (isNumeral_decimalText m scale), finiteOf_decimalText]

/-- What stands for a number has a text that reads as the number. -/
theorem parse_of_decimalOf {v : Json} {d : Dec} (h : decimalOf v = some d) :
    parseDecimal v.text = some (.finite d) := by
  cases v with
  | num m scale =>
    cases h
    exact parseDecimal_decimalText m scale
  | str s =>
    rw [decimalOf] at h
    split_ifs at h
    unfold finiteOf at h
    cases hparse : parseDecimal s with
    | none =>
      rw [hparse] at h
      cases h
    | some x =>
      rw [hparse] at h
      cases x with
      | finite x =>
        cases h
        exact hparse
      | infinity | nan | signalingNan => cases h
  | null | bool b | arr items | obj fields => cases h

/-! ## Decimal texts of numbers -/

theorem normalized_value (m : ℤ) (scale : ℕ) :
    (⟨(normalized m scale).1, -(normalized m scale).2⟩ : Dec).value =
      (⟨m, -scale⟩ : Dec).value := by
  induction scale generalizing m with
  | zero => rfl
  | succ scale ih =>
    rw [normalized]
    split_ifs with h
    · have hm : m = m / 10 * 10 := by omega
      have hten : (10 : ℚ) ≠ 0 := by norm_num
      rw [ih]
      unfold Dec.value
      conv_rhs => rw [hm]
      push_cast
      rw [neg_add, zpow_add₀ hten, zpow_neg_one]
      ring
    · rfl

theorem normalized_lowest (m : ℤ) (scale : ℕ) :
    (normalized m scale).2 = 0 ∨ (normalized m scale).1 % 10 ≠ 0 := by
  induction scale generalizing m with
  | zero => exact .inl rfl
  | succ scale ih =>
    rw [normalized]
    split_ifs with h
    · exact ih _
    · exact .inr h

/-- Decimals without zeros at the end are equal when their values are. -/
theorem lowest_unique {m m' : ℤ} {k k' : ℕ} (hm : k = 0 ∨ m % 10 ≠ 0) (hm' : k' = 0 ∨ m' % 10 ≠ 0)
    (h : (⟨m, -k⟩ : Dec).value = (⟨m', -k'⟩ : Dec).value) : m = m' ∧ k = k' := by
  have hone : ∀ {m m' : ℤ} {k k' : ℕ}, (k' = 0 ∨ m' % 10 ≠ 0) →
      (∃ j : ℕ, (⟨m', -k'⟩ : Dec) = ⟨m * 10 ^ j, -(k : ℤ) - j⟩) → m = m' ∧ k = k' := by
    rintro m m' k k' hlow ⟨j, hj⟩
    obtain ⟨hm, hk⟩ := Dec.mk.inj hj
    cases j with
    | zero =>
      rw [pow_zero, mul_one] at hm
      exact ⟨hm.symm, by push_cast at hk; omega⟩
    | succ j =>
      rcases hlow with h0 | hlow
      · push_cast at hk
        omega
      · rw [hm, pow_succ, ← mul_assoc, Int.mul_emod_left] at hlow
        exact absurd rfl hlow
  rcases Dec.value_cases h with hj | hj
  · obtain ⟨h1, h2⟩ := hone hm hj
    exact ⟨h1.symm, h2.symm⟩
  · exact hone hm' hj

/-- The text of a number of a cart, in lowest terms. -/
theorem canonicalNumber_text (m : ℤ) (scale : ℕ) : ∃ (c : ℤ) (k : ℕ),
    canonicalNumber m scale = decimalText c k ∧ (k = 0 ∨ c % 10 ≠ 0) ∧
      (⟨c, -k⟩ : Dec).value = (Dec.fix ⟨m, -scale⟩).value := by
  unfold canonicalNumber
  dsimp only
  generalize Dec.fix ⟨m, -scale⟩ = d
  split_ifs with hzero
  · refine ⟨0, 0, rfl, .inl rfl, ?_⟩
    rw [Dec.value_eq_zero_iff.2 hzero]
    exact Dec.value_eq_zero_iff.2 rfl
  · refine ⟨_, _, rfl, normalized_lowest _ _, (normalized_value _ _).trans ?_⟩
    rcases le_total 0 d.exp with he | he
    · have hneg : (-d.exp).toNat = 0 := by omega
      have hexp : (10 : ℚ) ^ d.exp = 10 ^ d.exp.toNat := by
        rw [← zpow_natCast, Int.toNat_of_nonneg he]
      unfold Dec.value
      rw [hneg, hexp]
      push_cast
      simp
    · have hpos : d.exp.toNat = 0 := by omega
      unfold Dec.value
      rw [hpos, Int.toNat_of_nonneg (by omega)]
      push_cast
      simp

theorem decimalText_inj {m m' : ℤ} {k k' : ℕ} (h : decimalText m k = decimalText m' k') :
    m = m' ∧ k = k' := by
  have hparse := finiteOf_decimalText m k
  rw [h, finiteOf_decimalText] at hparse
  obtain ⟨hm, hk⟩ := Dec.mk.inj (Option.some.inj hparse)
  exact ⟨hm.symm, by omega⟩

/-- **The decimal texts of two numbers are equal when 28 digits keep the same of them.** -/
theorem canonicalNumber_eq_iff (m m' : ℤ) (scale scale' : ℕ) :
    canonicalNumber m scale = canonicalNumber m' scale' ↔
      (Dec.fix ⟨m, -scale⟩).value = (Dec.fix ⟨m', -scale'⟩).value := by
  obtain ⟨c, k, htext, hlow, hvalue⟩ := canonicalNumber_text m scale
  obtain ⟨c', k', htext', hlow', hvalue'⟩ := canonicalNumber_text m' scale'
  rw [htext, htext', ← hvalue, ← hvalue']
  constructor
  · intro h
    obtain ⟨rfl, rfl⟩ := decimalText_inj h
    rfl
  · intro h
    obtain ⟨rfl, rfl⟩ := lowest_unique hlow hlow' h
    rfl

/-- The decimal text of a number stands for what 28 digits keep of it. -/
theorem decimalOf_canonicalNumber (m : ℤ) (scale : ℕ) : ∃ d,
    decimalOf (.str (canonicalNumber m scale)) = some d ∧
      d.value = (Dec.fix ⟨m, -scale⟩).value := by
  obtain ⟨c, k, htext, -, hvalue⟩ := canonicalNumber_text m scale
  exact ⟨_, by rw [htext, decimalOf_decimalText], hvalue⟩

/-! ## Leaves -/

/-- What a leaf of the products becomes. -/
def canonicalLeaf : Json → Json
  | .num m scale => .str (canonicalNumber m scale)
  | v => v

/-- Two numbers, a number and the decimal text that it becomes, or one value. -/
def Matched : Json → Json → Prop
  | .num _ _, .num _ _ => True
  | .num m scale, .str s => s = canonicalNumber m scale
  | .str s, .num m scale => s = canonicalNumber m scale
  | v, w => v = w

theorem isLeaf_canonicalLeaf (v : Json) (hv : v.isLeaf = true) :
    (canonicalLeaf v).isLeaf = true := by
  cases v with
  | num m scale => rfl
  | arr items | obj fields => cases hv
  | null | bool b | str s => rfl

mutual

/-- The numbers of the products become texts, at every depth. -/
theorem canonicalCartValue_eq : (v : Json) → canonicalCartValue v = v.mapLeaves canonicalLeaf
  | .null => rfl
  | .bool _ => rfl
  | .str _ => rfl
  | .num _ _ => rfl
  | .arr items => by rw [canonicalCartValue, Json.mapLeaves, canonicalItems_eq items]
  | .obj fields => by rw [canonicalCartValue, Json.mapLeaves, canonicalFields_eq fields]

theorem canonicalItems_eq : (items : List Json) →
    canonicalItems items = Json.mapItems canonicalLeaf items
  | [] => rfl
  | item :: items => by
    rw [canonicalItems, Json.mapItems, canonicalCartValue_eq item, canonicalItems_eq items]

theorem canonicalFields_eq : (fields : List (String × Json)) →
    canonicalFields fields = Json.mapFields canonicalLeaf fields
  | [] => rfl
  | (_, value) :: fields => by
    rw [canonicalFields, Json.mapFields, canonicalCartValue_eq value, canonicalFields_eq fields]

end

/-- One number in two representations becomes one text when they are matched. -/
theorem canonicalLeaf_eq_iff {a b : Json} (h : SameNumber a b) :
    canonicalLeaf a = canonicalLeaf b ↔ Matched a b := by
  cases a with
  | num m scale =>
    cases b with
    | num m' scale' =>
      refine iff_of_true ?_ trivial
      rcases h with h | ⟨x, y, ⟨⟩, ⟨⟩, hvalue⟩
      · rw [h]
      · exact congrArg Json.str ((canonicalNumber_eq_iff _ _ _ _).2 (Dec.fix_value_congr hvalue))
    | str s =>
      show Json.str _ = Json.str s ↔ s = _
      rw [Json.str.injEq, eq_comm]
    | null | bool b | arr items | obj fields => exact iff_of_false nofun nofun
  | str s =>
    cases b with
    | num m scale =>
      show Json.str s = Json.str _ ↔ s = _
      rw [Json.str.injEq]
    | str s' => exact Iff.rfl
    | null | bool b | arr items | obj fields => exact Iff.rfl
  | null | bool t | arr items | obj fields =>
    cases b with
    | num m scale => exact iff_of_false nofun nofun
    | null | bool b | str s | arr items | obj fields => exact Iff.rfl

/-- A number and a text that it becomes, if 28 digits tell them apart. -/
theorem sameNumber_of_text {m : ℤ} {scale : ℕ} {b : Json} (hb : b = .str (canonicalNumber m scale))
    (h : ¬ Blurred (.num m scale) b) : SameNumber (.num m scale) b := by
  subst hb
  obtain ⟨d, hd, hvalue⟩ := decimalOf_canonicalNumber m scale
  by_contra hne
  refine h ⟨_, d, rfl, hd, fun heq => hne (.inr ⟨_, d, rfl, hd, heq⟩), ?_⟩
  rw [← Dec.fix_fix_value, Dec.fix_value_congr hvalue]

theorem SameNumber.symm {a b : Json} (h : SameNumber a b) : SameNumber b a := by
  rcases h with rfl | ⟨x, y, hx, hy, hvalue⟩
  · exact .inl rfl
  · exact .inr ⟨y, x, hy, hx, hvalue.symm⟩

theorem Blurred.symm {a b : Json} (h : Blurred a b) : Blurred b a := by
  obtain ⟨x, y, hx, hy, hne, hfix⟩ := h
  exact ⟨y, x, hy, hx, hne.symm, hfix.symm⟩

/-- Leaves that become one text are one number, if 28 digits tell them apart. -/
theorem sameNumber_of_canonicalLeaf {a b : Json} (heq : canonicalLeaf a = canonicalLeaf b)
    (h : ¬ Blurred a b) : SameNumber a b := by
  cases a with
  | num m scale =>
    cases b with
    | num m' scale' =>
      have hfix := (canonicalNumber_eq_iff _ _ _ _).1 (Json.str.inj heq)
      by_contra hne
      exact h ⟨_, _, rfl, rfl, fun hvalue => hne (.inr ⟨_, _, rfl, rfl, hvalue⟩), hfix⟩
    | str s => exact sameNumber_of_text heq.symm h
    | null | bool b | arr items | obj fields => cases heq
  | str s =>
    cases b with
    | num m scale => exact (sameNumber_of_text heq fun hb => h hb.symm).symm
    | null | bool b | str s' | arr items | obj fields => exact .inl heq
  | null | bool t | arr items | obj fields =>
    cases b with
    | num m scale => cases heq
    | null | bool b | str s | arr items | obj fields => exact .inl heq

theorem not_blurred {a b : Json} (h : SameNumber a b) : ¬ Blurred a b := by
  rintro ⟨x, y, hx, hy, hne, -⟩
  rcases h with rfl | ⟨x', y', hx', hy', hvalue⟩
  · exact hne (congrArg Dec.value (Option.some.inj (hx.symm.trans hy)))
  · obtain rfl := Option.some.inj (hx.symm.trans hx')
    obtain rfl := Option.some.inj (hy.symm.trans hy')
    exact hne hvalue

/-! ## Totals -/

/-- The total of a store as it is. -/
def totalOf (store : Fields) : Json := store.getD "total" (.str "0")

theorem finiteOf_cents (store : Fields) (c : ℤ) :
    finiteOf (totalText store (.cents c)) = some ⟨c, -2⟩ := by
  unfold totalText
  split_ifs with h
  · obtain rfl := Money.cents.inj h.1
    decide
  · show finiteOf (fmt c) = _
    rw [fmt_eq, finiteOf_decimalText]
    rfl

theorem finiteOf_nan (store : Fields) : finiteOf (totalText store .nan) = none := by
  rw [totalText, if_neg fun h => nomatch h.1]
  decide

/-- The text of a total determines it. -/
theorem totalText_inj {store store' : Fields} {total total' : Money}
    (h : totalText store total = totalText store' total') : total = total' := by
  have hread := congrArg finiteOf h
  cases total with
  | nan =>
    cases total' with
    | nan => rfl
    | cents c' =>
      rw [finiteOf_nan, finiteOf_cents] at hread
      cases hread
  | cents c =>
    cases total' with
    | nan =>
      rw [finiteOf_nan, finiteOf_cents] at hread
      cases hread
    | cents c' =>
      rw [finiteOf_cents, finiteOf_cents] at hread
      exact congrArg Money.cents (Dec.mk.inj (Option.some.inj hread)).1

/-- The text of one total is the same when a zero has the same sign. -/
theorem totalText_eq_iff (store store' : Fields) (total : Money) :
    totalText store total = totalText store' total ↔
      (total = .cents 0 →
        startsMinus (totalOf store).text = startsMinus (totalOf store').text) := by
  unfold totalText
  by_cases hzero : total = .cents 0
  · subst hzero
    have hne : "-0.00" ≠ (Money.cents 0).text := by decide
    have hsign : ∀ a b : Bool, ((if a = true then "-0.00" else (Money.cents 0).text) =
        if b = true then "-0.00" else (Money.cents 0).text) ↔ a = b := by
      rintro (_ | _) (_ | _) <;> simp [hne, hne.symm]
    simp only [true_and, true_imp_iff]
    exact hsign _ _
  · simp [hzero]

/-- One number in two representations is one total. -/
theorem parseMoney_congr {a b : Json} (h : SameNumber a b) :
    parseMoney a.text = parseMoney b.text := by
  rcases h with rfl | ⟨x, y, hx, hy, hvalue⟩
  · rfl
  · unfold parseMoney
    rw [parse_of_decimalOf hx, parse_of_decimalOf hy]
    dsimp only
    rw [Dec.cents_congr hvalue]

theorem storeTotal_ok {store : Fields} {total : Money} :
    storeTotal store = .ok total ↔ parseMoney (totalOf store).text = some total := by
  unfold storeTotal parseMoneyE totalOf
  cases parseMoney (store.getD "total" (.str "0")).text with
  | none => exact iff_of_false nofun nofun
  | some m =>
    constructor
    · exact fun h => congrArg some (Except.ok.inj h)
    · exact fun h => congrArg Except.ok (Option.some.inj h)

/-! ## What is hashed -/

/-- The products of a store. -/
def productsOf (store : Fields) : Json := store.getD "products" (.arr [])

theorem dump_canonicalLeaf (v : Json) (hv : v.isLeaf = true) :
    ∃ t, dump (canonicalLeaf v) = some t := by
  cases v with
  | arr items | obj fields => cases hv
  | null | bool b | num m scale | str s => exact ⟨_, rfl⟩

/-- The hashed dictionary, its keys in order. -/
theorem sorted_binding (storeType : String) (id products : Json) (total : String) :
    (Json.obj [("store_type", .str storeType), ("store_id", id), ("products", products),
      ("total", .str total)]).sorted =
        .obj [("products", products.sorted), ("store_id", id.sorted),
          ("store_type", .str storeType), ("total", .str total)] := by
  have horder : sortFields [("store_type", Json.str storeType), ("store_id", id.sorted),
      ("products", products.sorted), ("total", .str total)] =
        [("products", products.sorted), ("store_id", id.sorted), ("store_type", .str storeType),
          ("total", .str total)] := by
    have h1 : "products" < "store_id" := by decide
    have h2 : "store_id" < "store_type" := by decide
    have h3 : "store_type" < "total" := by decide
    have h4 : "products" < "total" := by decide
    have h5 : "store_id" < "total" := by decide
    have h6 : "products" < "store_type" := by decide
    simp only [sortFields, List.insertionSort_cons, List.insertionSort_nil, List.orderedInsert_nil,
      List.orderedInsert_cons, h1, h2, h3, h4, h5, h6, not_true_eq_false, if_false, if_true,
      String.lt_asymm, not_false_eq_true]
  rw [Json.sorted, Json.sortedFields, Json.sortedFields, Json.sortedFields, Json.sortedFields,
    Json.sortedFields]
  exact congrArg Json.obj horder

/-- The dictionary that is hashed. -/
def bound (storeType : String) (store : Fields) (total : Money) : Json :=
  .obj [("store_type", .str storeType), ("store_id", store.get "id"),
    ("products", canonicalCartValue (productsOf store)), ("total", .str (totalText store total))]

theorem cartBinding_ok {storeType : String} {store : Fields} {value : Json} :
    cartBinding storeType store = .ok value ↔
      ∃ total, parseMoney (totalOf store).text = some total ∧
        value = bound storeType store total := by
  simp only [← storeTotal_ok]
  unfold cartBinding
  cases storeTotal store with
  | error x => exact iff_of_false nofun (by rintro ⟨_, h, -⟩; cases h)
  | ok total =>
    constructor
    · intro h
      exact ⟨total, rfl, (Except.ok.inj h).symm⟩
    · rintro ⟨_, h, rfl⟩
      obtain rfl := Except.ok.inj h
      rfl

theorem sorted_bound (storeType : String) (store : Fields) (total : Money) :
    (bound storeType store total).sorted =
      .obj [("products", (productsOf store).sorted.mapLeaves canonicalLeaf),
        ("store_id", (store.get "id").sorted), ("store_type", .str storeType),
        ("total", .str (totalText store total))] := by
  rw [bound, sorted_binding, canonicalCartValue_eq, Json.sorted_mapLeaves isLeaf_canonicalLeaf]

/-- It has a text when the store id has one. -/
theorem canonicalText_bound (storeType : String) (store : Fields) (total : Money) :
    (∃ text, canonicalText (bound storeType store total) = some text) ↔
      ∃ text, canonicalText (store.get "id") = some text := by
  obtain ⟨p, hp⟩ := Json.dump_mapLeaves dump_canonicalLeaf (productsOf store).sorted
  unfold canonicalText
  rw [sorted_bound]
  simp only [dump, dumpFields, hp]
  cases dump (store.get "id").sorted with
  | none => exact iff_of_false nofun nofun
  | some t => exact ⟨fun _ => ⟨_, rfl⟩, fun _ => ⟨_, rfl⟩⟩

/-- **What the hash sees of two carts** is the same: the store type, the store id as it is, the text
of the total, and what 28 digits keep of the numbers of the products. -/
structure Agree (storeType : String) (store : Fields) (storeType' : String) (store' : Fields) :
    Prop where
  storeType : storeType = storeType'
  storeId : (store.get "id").sorted = (store'.get "id").sorted
  noFloat : ∃ text, canonicalText (store.get "id") = some text
  total : ∃ total, parseMoney (totalOf store).text = some total ∧
    parseMoney (totalOf store').text = some total ∧
      (total = .cents 0 → startsMinus (totalOf store).text = startsMinus (totalOf store').text)
  products : Alike (fun a b => canonicalLeaf a = canonicalLeaf b) (productsOf store).sorted
    (productsOf store').sorted

section Hash

variable {D : Deps} {sha : String → String} {storeType storeType' : String} {store store' : Fields}

/-- **Two carts have one hash** when the hash sees no difference. -/
theorem same_hash_iff (hsha : Function.Injective sha) :
    (∃ hash, computeCartHash (D.withSha sha) storeType store = .ok hash ∧
      computeCartHash (D.withSha sha) storeType' store' = .ok hash) ↔
        Agree storeType store storeType' store' := by
  simp only [computeCartHash_ok, cartBinding_ok]
  constructor
  · rintro ⟨_, ⟨_, text, ⟨total, htotal, rfl⟩, htext, rfl⟩, _, text', ⟨total', htotal', rfl⟩,
      htext', heq⟩
    obtain rfl := hsha heq
    have hsorted := canonicalText_inj htext htext'
    rw [sorted_bound, sorted_bound] at hsorted
    simp only [Json.obj.injEq, List.cons.injEq, Prod.mk.injEq, true_and, and_true, Json.str.injEq]
      at hsorted
    obtain ⟨hproducts, hid, htype, hmoney⟩ := hsorted
    obtain rfl := totalText_inj hmoney
    exact ⟨htype, hid, (canonicalText_bound _ _ _).1 ⟨_, htext⟩,
      ⟨total, htotal, htotal', (totalText_eq_iff _ _ _).1 hmoney⟩,
      (Json.mapLeaves_eq_iff isLeaf_canonicalLeaf _ _).1 hproducts⟩
  · rintro ⟨rfl, hid, hfloat, ⟨total, htotal, htotal', hzero⟩, hproducts⟩
    obtain ⟨text, htext⟩ := (canonicalText_bound storeType store total).2 hfloat
    have hsorted :
        (bound storeType store total).sorted = (bound storeType store' total).sorted := by
      rw [sorted_bound, sorted_bound, hid, (totalText_eq_iff store store' total).2 hzero,
        (Json.mapLeaves_eq_iff isLeaf_canonicalLeaf _ _).2 hproducts]
    refine ⟨sha text, ⟨_, text, ⟨total, htotal, rfl⟩, htext, rfl⟩, _, text, ⟨total, htotal', rfl⟩,
      ?_, rfl⟩
    rw [canonicalText, ← hsorted]
    exact htext

/-! ## The fingerprint -/

variable (storeType storeType' store store')

/-- Two carts that differ at most in how their numbers are represented. -/
structure OnlyNumbers : Prop where
  storeType : storeType = storeType'
  storeId : Alike SameNumber (store.get "id").sorted (store'.get "id").sorted
  products : Alike SameNumber (productsOf store).sorted (productsOf store').sorted
  total : SameNumber (totalOf store) (totalOf store')

/-- Two carts with one store type, one store id, the same products up to the representation of
their numbers, and one total to the cent. -/
structure SameContent : Prop where
  storeType : storeType = storeType'
  storeId : (store.get "id").sorted = (store'.get "id").sorted
  products : Alike SameNumber (productsOf store).sorted (productsOf store').sorted
  total : ∃ total, storeTotal store = .ok total ∧ storeTotal store' = .ok total

/-- **A faithful fingerprint**: the digest is there and the same for carts that differ only in how
numbers are represented, and carts with one digest have one content. -/
def Fingerprint (D : Deps) : Prop :=
  (OnlyNumbers storeType storeType' store store' → ∃ hash,
    computeCartHash D storeType store = .ok hash ∧ computeCartHash D storeType' store' = .ok hash) ∧
  ∀ hash, computeCartHash D storeType store = .ok hash →
    computeCartHash D storeType' store' = .ok hash → SameContent storeType storeType' store store'

/-- **Stable representations**: the store id is written the same, and without a float; the total is
an amount, and a zero has the same sign; every number of the products stays a number, or is the
decimal text that a number becomes, or is written the same. -/
structure Stable : Prop where
  storeId : (store.get "id").sorted = (store'.get "id").sorted
  noFloat : ∃ text, canonicalText (store.get "id") = some text
  total : ∃ total, parseMoney (totalOf store).text = some total ∧
    (total = .cents 0 → startsMinus (totalOf store).text = startsMinus (totalOf store').text)
  products : Alike Matched (productsOf store).sorted (productsOf store').sorted

/-- **Sharp numbers**: if the hash sees no difference, 28 digits tell different numbers of the
products apart. -/
def Sharp : Prop :=
  Agree storeType store storeType' store' →
    Alike (fun a b => ¬ Blurred a b) (productsOf store).sorted (productsOf store').sorted

variable {storeType storeType' store store'}

theorem stable_iff (h : OnlyNumbers storeType storeType' store store') :
    Agree storeType store storeType' store' ↔ Stable store store' := by
  have hmoney := parseMoney_congr h.total
  constructor
  · rintro ⟨-, hid, hfloat, ⟨total, htotal, -, hzero⟩, hproducts⟩
    exact ⟨hid, hfloat, ⟨total, htotal, hzero⟩, Json.alike_both
      (fun a b _ _ hsame heq => (canonicalLeaf_eq_iff hsame).1 heq) _ _ h.products hproducts⟩
  · rintro ⟨hid, hfloat, ⟨total, htotal, hzero⟩, hproducts⟩
    exact ⟨h.storeType, hid, hfloat, ⟨total, htotal, hmoney ▸ htotal, hzero⟩, Json.alike_both
      (fun a b _ _ hsame heq => (canonicalLeaf_eq_iff hsame).2 heq) _ _ h.products hproducts⟩

theorem sharp_iff : (Agree storeType store storeType' store' →
    SameContent storeType storeType' store store') ↔ Sharp storeType storeType' store store' := by
  refine forall_congr' fun h => ⟨fun hsame => ?_, fun hsharp => ?_⟩
  · exact Json.alike_mono (fun a b _ _ => not_blurred) hsame.products
  · obtain ⟨total, htotal, htotal', -⟩ := h.total
    exact ⟨h.storeType, h.storeId, Json.alike_both
      (fun a b _ _ heq hb => sameNumber_of_canonicalLeaf heq hb) _ _ h.products hsharp,
      total, storeTotal_ok.2 htotal, storeTotal_ok.2 htotal'⟩

end Hash

/-- A bakery of one product. -/
def oneBakery (id price total : Json) : Fields :=
  [("id", id), ("products", .arr [.obj [("id", .str "2135"), ("price", price)]]), ("total", total)]

end TryTrust.Bridge
