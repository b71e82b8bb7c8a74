import TryTrust.Agent.Jsonlogic
import TryTrust.Decimal

/-!
# The two evaluators of mandate conditions

The kernel of the agent and the policy gate of the API evaluate the conditions of a mandate with
two evaluators, which differ in what they coerce and in what they refuse.

* `Kind`, `HasKind`: the kinds of values; `Typed`: the rules of a kind, over an offer;
* `canonicalCents_text`: an amount has one text;
* `Both`, `Meet`: the same value at both evaluators; **`typed_means`**: a typed rule has one, of its
  kind;
* **`typed_agree`**: neither evaluator raises on a typed rule, and both gates read the same.
-/

namespace TryTrust.Agent.Jsonlogic

open Rules (Means)

open Policy (operands pathParts descend subrules levels levels_subrule lookupVar numeric
  compareValues evaluateConditionsAt jsonlogicAt)

/-! ## Amounts have one text -/

/-- A digit is the digit of its value. -/
theorem digitChar_val {c : Char} (h : c.isDigit = true) :
    Nat.digitChar (c.toNat - 48) = c ∧ c.toNat - 48 < 10 := by
  have hrange : 48 ≤ c.toNat ∧ c.toNat ≤ 57 := Char.isDigit_iff_toNat.1 h
  refine ⟨Char.toNat_inj.1 ?_, by omega⟩
  rw [Nat.toNat_digitChar_of_lt_ten (by omega)]
  omega

theorem digitsVal_append (ds : List Char) (d : Char) :
    digitsVal (ds ++ [d]) = 10 * digitsVal ds + (d.toNat - 48) := by
  simp [digitsVal]

/-- Digits with a leading one that is not zero have a value. -/
theorem digitsVal_pos {ds : List Char} (hdigits : ∀ c ∈ ds, c.isDigit = true) (hne : ds ≠ [])
    (hlead : ds.head? ≠ some '0') : 0 < digitsVal ds := by
  induction ds using List.reverseRecOn with
  | nil => exact absurd rfl hne
  | append_singleton ds d ih =>
    rw [digitsVal_append]
    by_cases hds : ds = []
    · subst hds
      have hd := digitChar_val (hdigits d (by simp))
      by_contra hzero
      have hval : d.toNat - 48 = 0 := by omega
      rw [hval] at hd
      exact hlead (congrArg some hd.1.symm)
    · have hpos := ih (fun c hc => hdigits c (by simp [hc])) hds (by
        rwa [List.head?_append_of_ne_nil _ hds] at hlead)
      omega

/-- Digits without a leading zero are the digits of their value. -/
theorem toDigits_digitsVal {ds : List Char} (hdigits : ∀ c ∈ ds, c.isDigit = true)
    (hne : ds ≠ []) (hlead : ds.length = 1 ∨ ds.head? ≠ some '0') :
    Nat.toDigits 10 (digitsVal ds) = ds := by
  induction ds using List.reverseRecOn with
  | nil => exact absurd rfl hne
  | append_singleton ds d ih =>
    obtain ⟨hd, hlt⟩ := digitChar_val (hdigits d (by simp))
    rw [digitsVal_append]
    by_cases hds : ds = []
    · subst hds
      rw [show digitsVal [] = 0 from rfl, Nat.mul_zero, Nat.zero_add, Nat.toDigits_of_lt_base hlt,
        hd, List.nil_append]
    · have hlen := List.length_pos_iff.2 hds
      have hhead : ds.head? ≠ some '0' := by
        rcases hlead with h | h
        · rw [List.length_append, List.length_singleton] at h
          omega
        · rwa [List.head?_append_of_ne_nil _ hds] at h
      have hdigits' : ∀ c ∈ ds, c.isDigit = true := fun c hc => hdigits c (by simp [hc])
      have hpos := digitsVal_pos hdigits' hds hhead
      rw [Nat.toDigits_of_base_le (by decide) (by omega),
        show (10 * digitsVal ds + (d.toNat - 48)) / 10 = digitsVal ds by omega,
        show (10 * digitsVal ds + (d.toNat - 48)) % 10 = d.toNat - 48 by omega, hd,
        ih hdigits' hds (.inr hhead)]

/-- **An amount has one text.** -/
theorem canonicalCents_text {s : String} {c : ℕ} (h : canonicalCents s = some c) :
    s = fmt c ∧ c < 10 ^ 28 := by
  unfold canonicalCents at h
  split at h
  case h_2 => cases h
  case h_1 _ d e whole hs =>
    dsimp only at h
    split_ifs at h with hc
    obtain ⟨hd, he, hwhole, hdigits, hlead, hlt⟩ := hc
    obtain ⟨hd, hdlt⟩ := digitChar_val hd
    obtain ⟨he, helt⟩ := digitChar_val he
    have hval : digitsVal [e, d] = 10 * (e.toNat - 48) + (d.toNat - 48) := by
      simp [digitsVal]
    have hwholes : Nat.toDigits 10 (digitsVal whole.reverse) = whole.reverse := by
      refine toDigits_digitsVal (fun c hc => List.all_eq_true.1 hdigits c (List.mem_reverse.1 hc))
        (by simpa using hwhole) ?_
      rwa [List.length_reverse, List.head?_reverse]
    rw [hval] at h hlt
    obtain rfl := Option.some.inj h
    refine ⟨String.toList_inj.1 ?_, hlt⟩
    rw [fmt_toList, ← List.reverse_reverse s.toList, hs,
      show (100 * digitsVal whole.reverse + (10 * (e.toNat - 48) + (d.toNat - 48))) / 100 =
        digitsVal whole.reverse by omega,
      show (100 * digitsVal whole.reverse + (10 * (e.toNat - 48) + (d.toNat - 48))) % 100 / 10 =
        e.toNat - 48 by omega,
      show (100 * digitsVal whole.reverse + (10 * (e.toNat - 48) + (d.toNat - 48))) % 10 =
        d.toNat - 48 by omega, hwholes, hd, he]
    simp

/-! ## Kinds -/

/-- The kinds of values in a condition. -/
inductive Kind where
  | text
  | money
  | whole
  | flag
  | list
  | any
  deriving DecidableEq, Repr

/-- A value of a kind: `money` is an amount as text, `whole` one of whole units. -/
def HasKind : Json → Kind → Prop
  | .str _, .text => True
  | .str s, .money => (canonicalCents s).isSome
  | .num m scale, .whole => scale = 0 ∧ 0 ≤ m ∧ m * 100 < 10 ^ 28
  | .bool _, .flag => True
  | .arr _, .list => True
  | _, .any => True
  | _, _ => False

/-- A value without a dictionary or a fraction in it, which stands for itself in a rule. -/
inductive Literal : Json → Prop where
  | null : Literal .null
  | bool (b : Bool) : Literal (.bool b)
  | int (m : ℤ) : Literal (.num m 0)
  | str (s : String) : Literal (.str s)
  | arr {items : List Json} (hitems : ∀ item ∈ items, Literal item) : Literal (.arr items)

/-- What an `if` can come to. -/
def branches : List Json → List Json
  | [] => []
  | [last] => [last]
  | _ :: value :: rest => value :: branches rest

/-- What an `if` decides on. -/
def deciders : List Json → List Json
  | [] => []
  | [_] => []
  | condition :: _ :: rest => condition :: deciders rest

theorem mem_of_branches {a : Json} {args : List Json} (h : a ∈ branches args) : a ∈ args := by
  induction args using branches.induct with
  | case1 => exact h
  | case2 last => exact h
  | case3 condition value rest ih =>
    rcases List.mem_cons.1 h with rfl | h
    · simp
    · simp [ih h]

theorem mem_of_deciders {a : Json} {args : List Json} (h : a ∈ deciders args) : a ∈ args := by
  induction args using deciders.induct with
  | case1 => exact h
  | case2 last => cases h
  | case3 condition value rest ih =>
    rcases List.mem_cons.1 h with rfl | h
    · simp
    · simp [ih h]

/-- What an offer has at a path below `offer`. -/
def OfferHas (offer : Fields) (path : String) (found : Option Json) : Prop :=
  ∃ part parts, pathParts path = "offer" :: part :: parts ∧
    descend (part :: parts) (.obj offer) = found

/-- **A rule of a kind**, over an offer. -/
inductive Typed (offer : Fields) : Json → Kind → Prop where
  | literal {value : Json} {κ : Kind} (hvalue : Literal value) (hκ : HasKind value κ) :
    Typed offer value κ
  | widen {rule : Json} {κ κ' : Kind} (hκ : ∀ v, HasKind v κ → HasKind v κ')
      (h : Typed offer rule κ) : Typed offer rule κ'
  /-- A variable of the offer is there, or has a default. -/
  | var {raw : Json} {path : String} {defaults : List Json} {found : Option Json} {κ : Kind}
      (hargs : operands raw = .str path :: defaults) (hone : defaults.length ≤ 1)
      (hfound : OfferHas offer path found) (hκ : ∀ v ∈ found, HasKind v κ)
      (hthere : found.isSome ∨ defaults ≠ [] ∨ κ = .any)
      (hdefaults : ∀ a ∈ defaults, Typed offer a κ) : Typed offer (.obj [("var", raw)]) κ
  /-- The offer has no `None` where `missing` looks. -/
  | missing {raw : Json} (hpaths : ∀ a ∈ operands raw, ∃ path found, a = .str path ∧
      OfferHas offer path found ∧ found ≠ some .null) : Typed offer (.obj [("missing", raw)]) .list
  | order {op : String} {raw a b : Json} {κ κ' : Kind} (hop : op ∈ orders)
      (hargs : operands raw = [a, b]) (hκ : κ ∈ [Kind.money, .whole])
      (hκ' : κ' ∈ [Kind.money, .whole]) (ha : Typed offer a κ) (hb : Typed offer b κ') :
    Typed offer (.obj [(op, raw)]) .flag
  | equality {op : String} {raw a b : Json} {κ : Kind} (hop : op ∈ equalities)
      (hargs : operands raw = [a, b]) (hκ : κ ∈ [Kind.text, .whole, .flag])
      (ha : Typed offer a κ) (hb : Typed offer b κ) : Typed offer (.obj [(op, raw)]) .flag
  | junction {op : String} {raw : Json} {κ : Kind} (hop : op = "and" ∨ op = "or")
      (hne : operands raw ≠ []) (hargs : ∀ a ∈ operands raw, Typed offer a κ) :
    Typed offer (.obj [(op, raw)]) κ
  | negation {raw a : Json} {κ : Kind} (hargs : operands raw = [a]) (ha : Typed offer a κ) :
    Typed offer (.obj [("!", raw)]) .flag
  | member {raw a b : Json} {κ : Kind} (hargs : operands raw = [a, b]) (ha : Typed offer a κ)
      (hb : Typed offer b .list) : Typed offer (.obj [("in", raw)]) .flag
  /-- Without an `else`, an `if` can come to `None`. -/
  | choice {raw : Json} {κ : Kind} (hlen : 2 ≤ (operands raw).length)
      (hend : (operands raw).length % 2 = 1 ∨ κ = .any)
      (hdeciders : ∀ a ∈ deciders (operands raw), Typed offer a .any)
      (hbranches : ∀ a ∈ branches (operands raw), Typed offer a κ) :
    Typed offer (.obj [("if", raw)]) κ

/-! ## Operators on values of a kind -/

theorem compare_mul {a b k : ℤ} (hk : 0 < k) : compare (a * k) (b * k) = compare a b := by
  rcases lt_trichotomy a b with h | rfl | h
  · rw [compare_lt_iff_lt.2 h, compare_lt_iff_lt]
    exact Int.mul_lt_mul_of_pos_right h hk
  · simp
  · rw [compare_gt_iff_gt.2 h, compare_gt_iff_gt]
    exact Int.mul_lt_mul_of_pos_right h hk

/-- The number `d` is so many cents. -/
def Cents (d : Dec) (c : ℕ) : Prop := d = ⟨c, -2⟩ ∨ ∃ m : ℤ, d = ⟨m, 0⟩ ∧ m * 100 = c

/-- **An amount** is the same number to both evaluators. -/
theorem num_amount {v : Json} {κ : Kind} (hκ : κ ∈ [Kind.money, .whole]) (hv : HasKind v κ) :
    ∃ c d, numeric v = some c ∧ num v = .ok (.finite d) ∧ Cents d c := by
  simp only [List.mem_cons, List.not_mem_nil, or_false] at hκ
  cases v with
  | str s =>
    have hs : (canonicalCents s).isSome := by
      rcases hκ with rfl | rfl
      · exact hv
      · exact hv.elim
    obtain ⟨c, hc⟩ := Option.isSome_iff_exists.1 hs
    have hread : parseDecimal (Json.str s).text = some (.finite ⟨c, -2⟩) := by
      change parseDecimal s = _
      rw [(canonicalCents_text hc).1, fmt_eq, parseDecimal_decimalText]
      rfl
    refine ⟨c, ⟨c, -2⟩, hc, ?_, .inl rfl⟩
    rw [num, hread]
  | num m scale =>
    have hm : scale = 0 ∧ 0 ≤ m ∧ m * 100 < 10 ^ 28 := by
      rcases hκ with rfl | rfl
      · exact hv.elim
      · exact hv
    obtain ⟨rfl, hpos, hlt⟩ := hm
    have hread : parseDecimal (Json.num m 0).text = some (.finite ⟨m, 0⟩) := by
      change parseDecimal (decimalText m 0) = _
      rw [parseDecimal_decimalText]
      rfl
    refine ⟨(m * 100).toNat, ⟨m, 0⟩, ?_, ?_, .inr ⟨m, rfl, by omega⟩⟩
    · have hwhole : m * 100 % 10 ^ 0 = 0 ∧ m * 100 / 10 ^ 0 = m * 100 := by simp
      rw [numeric, hwhole.2, if_pos ⟨hpos, hwhole.1, hlt⟩]
    · rw [num, hread]
  | null | bool b | arr items | obj fields => rcases hκ with rfl | rfl <;> exact hv.elim

theorem decCompare_cents {d d' : Dec} {c c' : ℕ} (h : Cents d c) (h' : Cents d' c') :
    decCompare d d' = compare (c : ℤ) c' := by
  rcases h with rfl | ⟨m, rfl, hm⟩ <;> rcases h' with rfl | ⟨m', rfl, hm'⟩
  · simp [decCompare]
  · simp [decCompare, ← hm']
  · simp [decCompare, ← hm]
  · simp only [decCompare, sub_self, Int.toNat_zero, pow_zero, mul_one, ← hm, ← hm']
    exact (compare_mul (by decide)).symm

/-- **An order of amounts** comes out the same. -/
theorem order_agrees {op : String} (hop : op ∈ orders) {x y : Json} {κ κ' : Kind}
    (hκ : κ ∈ [Kind.money, .whole]) (hκ' : κ' ∈ [Kind.money, .whole]) (hx : HasKind x κ)
    (hy : HasKind y κ') : ∃ b, cmp op x y = .ok b ∧ compareValues op x y = .ok (.bool b) := by
  obtain ⟨c, d, hc, hd, hcents⟩ := num_amount hκ hx
  obtain ⟨c', d', hc', hd', hcents'⟩ := num_amount hκ' hy
  refine ⟨holdsFor op (compare (c : ℤ) c'), ?_, ?_⟩
  · have horder : (Operand.finite d).order (.finite d') = some (compare (c : ℤ) c') := by
      rw [Operand.order, decCompare_cents hcents hcents']
    simp only [cmp, hd, hd', bind, Except.bind, horder]
  · have hcompare : ∀ a b : ℕ, numCompare ((a : ℤ), 2) ((b : ℤ), 2) = compare (a : ℤ) b :=
      fun a b => compare_mul (show (0 : ℤ) < 10 ^ 2 by decide)
    have hswap : compare (c' : ℤ) c = (compare (c : ℤ) c').swap := (Std.OrientedCmp.eq_swap)
    simp only [orders, List.mem_cons, List.not_mem_nil, or_false] at hop
    unfold compareValues
    simp only [hc, hc']
    rcases hop with rfl | rfl | rfl | rfl <;>
      simp only [Json.pyLess, Json.pyLessEq, Json.pyEq, Json.numbersAre, Json.number, hcompare,
        hswap, holdsFor] <;> cases compare (c : ℤ) c' <;> rfl

/-- The texts of values of one kind are equal as the values are. -/
theorem text_eq_iff {x y : Json} {κ : Kind} (hκ : κ ∈ [Kind.text, .whole, .flag])
    (hx : HasKind x κ) (hy : HasKind y κ) : x.text = y.text ↔ x = y := by
  refine ⟨fun h => ?_, congrArg Json.text⟩
  simp only [List.mem_cons, List.not_mem_nil, or_false] at hκ
  rcases hκ with rfl | rfl | rfl
  · cases x <;> cases y <;> first | exact hx.elim | exact hy.elim | skip
    exact congrArg Json.str h
  · cases x <;> cases y <;> first | exact hx.elim | exact hy.elim | skip
    obtain ⟨rfl, -, -⟩ := hx
    obtain ⟨rfl, -, -⟩ := hy
    rename_i m m'
    have hread := congrArg parseDecimal (show decimalText m 0 = decimalText m' 0 from h)
    rw [parseDecimal_decimalText, parseDecimal_decimalText] at hread
    cases hread
    rfl
  · cases x <;> cases y <;> first | exact hx.elim | exact hy.elim | skip
    rename_i b b'
    cases b <;> cases b' <;> first | rfl | exact absurd h (by decide)

/-- Values of one kind are equal to Python when they are. -/
theorem pyEq_eq {x y : Json} {κ : Kind} (hκ : κ ∈ [Kind.text, .whole, .flag])
    (hx : HasKind x κ) (hy : HasKind y κ) : x.pyEq y = true ↔ x = y := by
  simp only [List.mem_cons, List.not_mem_nil, or_false] at hκ
  rcases hκ with rfl | rfl | rfl
  · cases x <;> cases y <;> first | exact hx.elim | exact hy.elim | skip
    simp [Json.pyEq]
  · cases x <;> cases y <;> first | exact hx.elim | exact hy.elim | skip
    obtain ⟨rfl, -, -⟩ := hx
    obtain ⟨rfl, -, -⟩ := hy
    simp [Json.pyEq, Json.numbersAre, Json.number, numCompare]
  · cases x <;> cases y <;> first | exact hx.elim | exact hy.elim | skip
    rename_i b b'
    cases b <;> cases b' <;> simp [Json.pyEq, Json.numbersAre, Json.number, numCompare]

/-- Amounts in cents are equal when the values of one kind are. -/
theorem numeric_eq_iff {x y : Json} {κ : Kind} (hκ : κ ∈ [Kind.text, .whole, .flag])
    (hx : HasKind x κ) (hy : HasKind y κ) {c c' : ℕ} (hc : numeric x = some c)
    (hc' : numeric y = some c') : c = c' ↔ x = y := by
  refine ⟨?_, ?_⟩
  · rintro rfl
    simp only [List.mem_cons, List.not_mem_nil, or_false] at hκ
    rcases hκ with rfl | rfl | rfl
    · cases x <;> cases y <;> first | exact hx.elim | exact hy.elim | skip
      rw [(canonicalCents_text hc).1, (canonicalCents_text hc').1]
    · cases x <;> cases y <;> first | exact hx.elim | exact hy.elim | skip
      obtain ⟨rfl, hm, hlt⟩ := hx
      obtain ⟨rfl, hm', hlt'⟩ := hy
      rename_i m m'
      have hvalue : ∀ k : ℤ, 0 ≤ k → k * 100 < 10 ^ 28 →
          numeric (.num k 0) = some (k * 100).toNat := by
        intro k hk hklt
        have hwhole : k * 100 % 10 ^ 0 = 0 ∧ k * 100 / 10 ^ 0 = k * 100 := by simp
        rw [numeric, hwhole.2, if_pos ⟨hk, hwhole.1, hklt⟩]
      rw [hvalue m hm hlt] at hc
      rw [hvalue m' hm' hlt'] at hc'
      have hsame := Option.some.inj (hc.trans hc'.symm)
      rw [show m = m' by omega]
    · cases x <;> cases y <;> first | exact hx.elim | exact hy.elim | skip
      cases hc
  · rintro rfl
    exact Option.some.inj (hc.symm.trans hc')

/-- The equality of the policy gate: amounts are equal as amounts. -/
def sameValue (x y : Json) : Bool :=
  match numeric x, numeric y with
  | some a, some b => a = b
  | _, _ => x.pyEq y

theorem compareValues_equality {op : String} (hop : op ∈ equalities) (x y : Json) :
    compareValues op x y =
      .ok (.bool (if op = "==" ∨ op = "===" then sameValue x y else !sameValue x y)) := by
  have hcents : ∀ a b : ℕ, (Json.num a 2).pyEq (.num b 2) = decide (a = b) := by
    intro a b
    simp [Json.pyEq, Json.numbersAre, Json.number, numCompare]
  simp only [equalities, List.mem_cons, List.not_mem_nil, or_false] at hop
  unfold compareValues sameValue
  cases numeric x <;> cases numeric y <;> rcases hop with rfl | rfl | rfl | rfl <;>
    simp [hcents]

/-- **An equality of values of one kind** comes out the same. -/
theorem equality_agrees {op : String} (hop : op ∈ equalities) {x y : Json} {κ : Kind}
    (hκ : κ ∈ [Kind.text, .whole, .flag]) (hx : HasKind x κ) (hy : HasKind y κ) :
    compareValues op x y = .ok (.bool (equal op x y)) := by
  have hsame : sameValue x y = true ↔ x = y := by
    unfold sameValue
    cases hc : numeric x with
    | none => exact pyEq_eq hκ hx hy
    | some c =>
      cases hc' : numeric y with
      | none => exact pyEq_eq hκ hx hy
      | some c' => simpa using numeric_eq_iff hκ hx hy hc hc'
  have htext : decide (x.text = y.text) = sameValue x y := by
    rw [Bool.eq_iff_iff, decide_eq_true_iff, text_eq_iff hκ hx hy, hsame]
  have hpy : x.pyEq y = sameValue x y := by
    rw [Bool.eq_iff_iff, pyEq_eq hκ hx hy, hsame]
  rw [compareValues_equality hop]
  simp only [equalities, List.mem_cons, List.not_mem_nil, or_false] at hop
  rcases hop with rfl | rfl | rfl | rfl <;> simp [equal, ← htext, hpy]

/-! ## Bodies that meet -/

section Meet

variable {D D' : Json → Json → Prop}

/-- A rule has one value at both evaluators, of the kind. -/
def Both (D D' : Json → Json → Prop) (κ : Kind) (rule : Json) : Prop :=
  ∃ v, HasKind v κ ∧ D rule v ∧ D' rule v

/-- Two bodies come to one value, of the kind. -/
def Meet (D D' : Json → Json → Prop) (κ : Kind) (p : RuleBody) (q : Policy.RuleBody Json) : Prop :=
  ∃ v, HasKind v κ ∧ p.Comes D (.ok v) ∧ q.Comes D' (.ok v)

theorem meet_ite {κ : Kind} {c : Prop} [Decidable c] {p p' : RuleBody}
    {q q' : Policy.RuleBody Json} (h : c → Meet D D' κ p q) (h' : ¬ c → Meet D D' κ p' q') :
    Meet D D' κ (if c then p else p') (if c then q else q') := by
  split_ifs with hc
  · exact h hc
  · exact h' hc

theorem meet_ask {κ κ' : Kind} {a : Json} {next : Json → RuleBody}
    {next' : Json → Policy.RuleBody Json} (ha : Both D D' κ' a)
    (h : ∀ v, HasKind v κ' → D a v → D' a v → Meet D D' κ (next v) (next' v)) :
    Meet D D' κ (.ask a next) (.ask a next') := by
  obtain ⟨v, hv, hD, hD'⟩ := ha
  obtain ⟨w, hw, hp, hq⟩ := h v hv hD hD'
  exact ⟨w, hw, ⟨v, hD, hp⟩, v, hD', hq⟩

theorem meet_ret {κ : Kind} {v : Json} (hv : HasKind v κ) : Meet D D' κ (.ret v) (.ret v) :=
  ⟨v, hv, rfl, rfl⟩

theorem hasKind_any (v : Json) : HasKind v .any := by
  cases v <;> trivial

theorem meet_value {κ : Kind} {a : Json} (ha : Both D D' κ a) :
    Meet D D' κ (.value a) (.value a) :=
  meet_ask ha fun _ hv _ _ => meet_ret hv

theorem andBody_meet {κ : Kind} {args : List Json} (hargs : ∀ a ∈ args, Both D D' κ a)
    {result : Json} (hresult : HasKind result κ) :
    Meet D D' κ (andBody result args) (Policy.andBody result args) := by
  induction args generalizing result with
  | nil => exact meet_ret hresult
  | cons a rest ih =>
    obtain ⟨ha, hrest⟩ := List.forall_mem_cons.1 hargs
    exact meet_ask ha fun v hv _ _ => meet_ite (fun _ => ih hrest hv) fun _ => meet_ret hv

theorem orBody_meet {κ : Kind} {args : List Json} (hargs : ∀ a ∈ args, Both D D' κ a)
    {result : Json} (hresult : HasKind result κ) :
    Meet D D' κ (orBody result args) (Policy.orBody result args) := by
  induction args generalizing result with
  | nil => exact meet_ret hresult
  | cons a rest ih =>
    obtain ⟨ha, hrest⟩ := List.forall_mem_cons.1 hargs
    exact meet_ask ha fun v hv _ _ => meet_ite (fun _ => meet_ret hv) fun _ => ih hrest hv

theorem ifBody_meet {κ : Kind} {args : List Json} (hend : args.length % 2 = 1 ∨ κ = .any)
    (hdeciders : ∀ a ∈ deciders args, Both D D' .any a)
    (hbranches : ∀ a ∈ branches args, Both D D' κ a) :
    Meet D D' κ (ifBody args) (Policy.ifBody args) := by
  induction args using ifBody.induct with
  | case1 =>
    rcases hend with hend | rfl
    · cases hend
    · exact meet_ret (hasKind_any _)
  | case2 last => exact meet_value (hbranches last (List.mem_singleton.2 rfl))
  | case3 condition value rest ih =>
    obtain ⟨hcondition, hdeciders⟩ := List.forall_mem_cons.1 hdeciders
    obtain ⟨hvalue, hbranches⟩ := List.forall_mem_cons.1 hbranches
    have hend' : rest.length % 2 = 1 ∨ κ = .any := by
      refine hend.imp_left fun h => ?_
      simp only [List.length_cons] at h
      omega
    exact meet_ask hcondition fun v _ _ _ =>
      meet_ite (fun _ => meet_value hvalue) fun _ => ih hend' hdeciders hbranches

/-- The values of arguments. -/
theorem values_meet {args : List Json} {κ : Kind} (hargs : ∀ a ∈ args, Both D D' κ a) :
    ∃ vs, List.Forall₂ D args vs ∧ List.Forall₂ D' args vs ∧ ∀ v ∈ vs, HasKind v κ := by
  induction args with
  | nil => exact ⟨[], .nil, .nil, by simp⟩
  | cons a rest ih =>
    obtain ⟨⟨v, hv, hD, hD'⟩, hrest⟩ := List.forall_mem_cons.1 hargs
    obtain ⟨vs, hvs, hvs', hkind⟩ := ih hrest
    exact ⟨v :: vs, .cons hD hvs, .cons hD' hvs', List.forall_mem_cons.2 ⟨hv, hkind⟩⟩

theorem comes_values_ret {args vs : List Json} (hvs : List.Forall₂ D args vs)
    {f : List Json → RuleBody} {v : Json} (h : (f vs).Comes D (.ok v)) :
    ((Rules.Body.values args).bind f).Comes D (.ok v) :=
  Rules.Body.comes_bind.2 (.inl ⟨vs, Rules.Body.comes_values.2 ⟨vs, rfl, hvs⟩, h⟩)

/-! ### Operators -/

variable {ctx : Json} {gate : Policy.Context}

theorem order_meet {op : String} (hop : op ∈ orders) {a b : Json} {κ κ' : Kind}
    (hκ : κ ∈ [Kind.money, .whole]) (hκ' : κ' ∈ [Kind.money, .whole]) (ha : Both D D' κ a)
    (hb : Both D D' κ' b) :
    Meet D D' .flag (operatorBody ctx op [a, b]) (Policy.operatorBody gate op [a, b]) := by
  obtain ⟨x, hx, hax, hax'⟩ := ha
  obtain ⟨y, hy, hby, hby'⟩ := hb
  obtain ⟨holds, hcmp, hcompare⟩ := order_agrees hop hκ hκ' hx hy
  simp only [orders, List.mem_cons, List.not_mem_nil, or_false] at hop
  have hagent : operatorBody ctx op [a, b] =
      (Rules.Body.values [a, b]).bind fun values => .lift (ordered op values) := by
    rcases hop with rfl | rfl | rfl | rfl <;> rfl
  have hgate : Policy.operatorBody gate op [a, b] =
      Policy.binaryBody (compareValues op) [a, b] := by
    rcases hop with rfl | rfl | rfl | rfl <;> rfl
  rw [hagent, hgate]
  refine ⟨.bool holds, trivial, comes_values_ret (.cons hax (.cons hby .nil)) ?_, x, hax', y, hby',
    Rules.Body.comes_lift.2 hcompare.symm⟩
  rw [Rules.Body.comes_lift, ordered, hcmp]
  rfl

theorem equality_meet {op : String} (hop : op ∈ equalities) {a b : Json} {κ : Kind}
    (hκ : κ ∈ [Kind.text, .whole, .flag]) (ha : Both D D' κ a) (hb : Both D D' κ b) :
    Meet D D' .flag (operatorBody ctx op [a, b]) (Policy.operatorBody gate op [a, b]) := by
  obtain ⟨x, hx, hax, hax'⟩ := ha
  obtain ⟨y, hy, hby, hby'⟩ := hb
  have hcompare := equality_agrees hop hκ hx hy
  simp only [equalities, List.mem_cons, List.not_mem_nil, or_false] at hop
  have hagent : operatorBody ctx op [a, b] =
      pairBody (fun a b => .ok (.bool (equal op a b))) [a, b] := by
    rcases hop with rfl | rfl | rfl | rfl <;> rfl
  have hgate : Policy.operatorBody gate op [a, b] =
      Policy.binaryBody (compareValues op) [a, b] := by
    rcases hop with rfl | rfl | rfl | rfl <;> rfl
  rw [hagent, hgate]
  exact ⟨.bool (equal op x y), trivial, ⟨x, hax, y, hby, rfl⟩, x, hax', y, hby',
    Rules.Body.comes_lift.2 hcompare.symm⟩

/-- The first argument decides on the kind, so that what comes before it does not matter. -/
theorem junction_meet {op : String} (hop : op = "and" ∨ op = "or") {args : List Json} {κ : Kind}
    (hne : args ≠ []) (hargs : ∀ a ∈ args, Both D D' κ a) :
    Meet D D' κ (operatorBody ctx op args) (Policy.operatorBody gate op args) := by
  obtain ⟨a, rest, rfl⟩ := List.exists_cons_of_ne_nil hne
  obtain ⟨ha, hrest⟩ := List.forall_mem_cons.1 hargs
  rcases hop with rfl | rfl
  · exact meet_ask ha fun v hv _ _ =>
      meet_ite (fun _ => andBody_meet hrest hv) fun _ => meet_ret hv
  · exact meet_ask ha fun v hv _ _ =>
      meet_ite (fun _ => meet_ret hv) fun _ => orBody_meet hrest hv

theorem negation_meet {a : Json} {κ : Kind} (ha : Both D D' κ a) :
    Meet D D' .flag (operatorBody ctx "!" [a]) (Policy.operatorBody gate "!" [a]) :=
  meet_ask ha fun _ _ _ _ => meet_ret trivial

theorem member_meet {a b : Json} {κ : Kind} (ha : Both D D' κ a) (hb : Both D D' .list b) :
    Meet D D' .flag (operatorBody ctx "in" [a, b]) (Policy.operatorBody gate "in" [a, b]) := by
  obtain ⟨x, -, hax, hax'⟩ := ha
  obtain ⟨y, hy, hby, hby'⟩ := hb
  cases y with
  | arr items =>
    have hor : (Json.arr items).orElse (.arr []) = .arr items := by
      cases items <;> rfl
    refine ⟨.bool (items.any fun item => item.pyEq x), trivial, ⟨x, hax, .arr items, hby, ?_⟩,
      x, hax', .arr items, hby', rfl⟩
    rw [Rules.Body.comes_lift, within, hor]
    rfl
  | null | bool c | num m scale | str s | obj fields => exact hy.elim

theorem choice_meet {args : List Json} {κ : Kind} (hlen : 2 ≤ args.length)
    (hend : args.length % 2 = 1 ∨ κ = .any) (hdeciders : ∀ a ∈ deciders args, Both D D' .any a)
    (hbranches : ∀ a ∈ branches args, Both D D' κ a) :
    Meet D D' κ (operatorBody ctx "if" args) (Policy.operatorBody gate "if" args) := by
  have hgate : Policy.operatorBody gate "if" args = Policy.ifBody args := by
    change (if args.length < 2 then Policy.refuse else Policy.ifBody args) = _
    rw [if_neg (by omega)]
  rw [hgate]
  exact ifBody_meet hend hdeciders hbranches

end Meet

/-! ## Typed rules -/

section Typed

variable {offer : Fields}

theorem lookupVar_offer {path : String} {found : Option Json} (h : OfferHas offer path found)
    (t : String) : lookupVar ⟨offer, t⟩ path = found := by
  obtain ⟨part, parts, hpath, hfound⟩ := h
  rw [lookupVar, hpath]
  exact hfound

theorem var_offer {path : String} {found : Option Json} (h : OfferHas offer path found) (now : ℤ)
    (default : Json) : var (.str path) (contextOf offer now) default = found.getD default := by
  obtain ⟨part, parts, hpath, hfound⟩ := h
  have hne : path ≠ "" := by
    rintro rfl
    have hlen := congrArg List.length hpath
    rw [show (pathParts "").length = 1 from rfl] at hlen
    simp at hlen
  have hvar : var (.str path) (contextOf offer now) default =
      (descend (pathParts path) (contextOf offer now)).getD default := by
    unfold var
    split
    · rename_i heq
      exact absurd (Json.str.inj heq) hne
    · rfl
  rw [hvar, hpath, ← hfound]
  rfl

theorem exists_room {rule : Json} {n : ℕ} (hn : levels rule ≤ n) : ∃ k, n = k + 1 := by
  refine ⟨n - 1, ?_⟩
  have hpos : 0 < levels rule := by
    cases rule <;> simp [levels]
  omega

theorem levels_operand {op : String} {raw a : Json} {k : ℕ}
    (hn : levels (.obj [(op, raw)]) ≤ k + 1) (ha : a ∈ operands raw) : levels a ≤ k := by
  have := levels_subrule (show a ∈ subrules (.obj [(op, raw)]) from ha)
  omega

/-- A node at the two evaluators is its operator on its arguments. -/
theorem both_node {ctx : Json} {gate : Policy.Context} {k : ℕ} {op : String} {raw : Json}
    {args : List Json} {κ : Kind} (hargs : operands raw = args)
    (h : Meet (Means (ruleBody ctx) k) (Means (Policy.ruleBody gate) k) κ
      (operatorBody ctx op args) (Policy.operatorBody gate op args)) :
    Both (Means (ruleBody ctx) (k + 1)) (Means (Policy.ruleBody gate) (k + 1)) κ
      (.obj [(op, raw)]) := by
  subst hargs
  exact h

/-- What stands for itself does so at the policy gate. -/
theorem literal_means {v : Json} (h : Literal v) {n : ℕ} (hn : levels v ≤ n)
    (ctx : Policy.Context) : Means (Policy.ruleBody ctx) n v v := by
  induction h generalizing n with
  | null | bool b | str s =>
    obtain ⟨n, rfl⟩ := exists_room hn
    rfl
  | int m =>
    obtain ⟨n, rfl⟩ := exists_room hn
    rfl
  | @arr items hitems ih =>
    obtain ⟨n, rfl⟩ := exists_room hn
    have hvs : List.Forall₂ (Means (Policy.ruleBody ctx) n) items items := by
      refine List.forall₂_same.2 fun item hitem => ih item hitem ?_
      have := levels_subrule (show item ∈ subrules (.arr items) from hitem)
      omega
    exact Rules.Body.comes_bind.2 (.inl ⟨items, Rules.Body.comes_values.2 ⟨items, rfl, hvs⟩, rfl⟩)

theorem ruleBody_literal {v : Json} (h : Literal v) (ctx : Json) : ruleBody ctx v = .ret v := by
  cases h <;> rfl

theorem var_meet {D D' : Json → Json → Prop} {path : String} {defaults : List Json}
    {found : Option Json} {κ : Kind} (hone : defaults.length ≤ 1)
    (hfound : OfferHas offer path found) (hκ : ∀ v ∈ found, HasKind v κ)
    (hthere : found.isSome ∨ defaults ≠ [] ∨ κ = .any) (hpath : D (.str path) (.str path))
    (hdefaults : ∀ a ∈ defaults, Both D D' κ a) (now : ℤ) (t : String) :
    Meet D D' κ (operatorBody (contextOf offer now) "var" (.str path :: defaults))
      (Policy.operatorBody ⟨offer, t⟩ "var" (.str path :: defaults)) := by
  obtain ⟨vs, hvs, hvs', hkinds⟩ := values_meet hdefaults
  have hagent : (operatorBody (contextOf offer now) "var" (.str path :: defaults)).Comes D
      (.ok (found.getD (vs.headD .null))) := by
    refine comes_values_ret (.cons hpath hvs) ?_
    rw [← var_offer hfound now]
    rfl
  have hgate : ∀ v, found = some v ∨ found = none ∧ (vs = [v] ∨ vs = [] ∧ v = .null) →
      (Policy.operatorBody ⟨offer, t⟩ "var" (.str path :: defaults)).Comes D' (.ok v) := by
    intro v hv
    change (Policy.varBody ⟨offer, t⟩ (.str path :: defaults)).Comes D' (.ok v)
    unfold Policy.varBody
    simp only [List.headD_cons, lookupVar_offer hfound t]
    rcases hv with rfl | ⟨rfl, rfl | ⟨rfl, rfl⟩⟩
    · rfl
    · cases hvs' with
      | cons hv hrest =>
        cases hrest
        exact ⟨v, hv, rfl⟩
    · cases hvs'
      rfl
  have hlen : vs.length ≤ 1 := by
    rw [← hvs.length_eq]
    exact hone
  refine ⟨found.getD (vs.headD .null), ?_, hagent, hgate _ ?_⟩
  · cases found with
    | some v => exact hκ v rfl
    | none =>
      cases vs with
      | cons v vs => exact hkinds v List.mem_cons_self
      | nil =>
        cases hvs
        rcases hthere with h | h | rfl
        · cases h
        · exact absurd rfl h
        · exact hasKind_any _
  · cases found with
    | some v => exact .inl rfl
    | none =>
      refine .inr ⟨rfl, ?_⟩
      rcases vs with _ | ⟨v, _ | ⟨w, vs⟩⟩
      · exact .inr ⟨rfl, rfl⟩
      · exact .inl rfl
      · simp at hlen

theorem missing_meet {D D' : Json → Json → Prop} {args : List Json}
    (hpaths : ∀ a ∈ args, ∃ path found, a = .str path ∧ OfferHas offer path found ∧
      found ≠ some .null) (now : ℤ) (t : String) :
    Meet D D' .list (operatorBody (contextOf offer now) "missing" args)
      (Policy.operatorBody ⟨offer, t⟩ "missing" args) := by
  have hlost : Policy.missing ⟨offer, t⟩ args =
      .ok (args.filter fun a => isNone (var a (contextOf offer now) .null)) := by
    induction args with
    | nil => rfl
    | cons a rest ih =>
      obtain ⟨⟨path, found, rfl, hfound, hnull⟩, hrest⟩ := List.forall_mem_cons.1 hpaths
      have hnone : isNone (found.getD .null) = found.isNone := by
        cases found with
        | none => rfl
        | some v => cases v <;> first | rfl | exact absurd rfl hnull
      rw [Policy.missing, ih hrest, List.filter_cons, var_offer hfound, lookupVar_offer hfound,
        hnone]
      cases found.isNone <;> rfl
  refine ⟨.arr (args.filter fun a => isNone (var a (contextOf offer now) .null)), trivial, rfl, ?_⟩
  change (Rules.Body.lift ((Policy.missing ⟨offer, t⟩ args).map Json.arr)).Comes D' _
  rw [hlost]
  rfl

/-- **A typed rule has one value at both evaluators**, of its kind, whatever the time. -/
theorem typed_means {rule : Json} {κ : Kind} (h : Typed offer rule κ) {n : ℕ}
    (hn : levels rule ≤ n) (now : ℤ) (t : String) :
    Both (Means (ruleBody (contextOf offer now)) n) (Means (Policy.ruleBody ⟨offer, t⟩) n) κ
      rule := by
  induction h generalizing n with
  | @literal v κ hvalue hκ =>
    obtain ⟨k, rfl⟩ := exists_room hn
    refine ⟨v, hκ, ?_, literal_means hvalue hn _⟩
    rw [Means, ruleBody_literal hvalue]
    rfl
  | widen hκ _ ih =>
    obtain ⟨v, hv, hmeans⟩ := ih hn
    exact ⟨v, hκ v hv, hmeans⟩
  | @var raw path defaults found κ hargs hone hfound hκ hthere hdefaults ih =>
    obtain ⟨k, rfl⟩ := exists_room hn
    have hpath : Means (ruleBody (contextOf offer now)) k (.str path) (.str path) := by
      obtain ⟨j, rfl⟩ := exists_room (levels_operand hn (a := .str path) (by simp [hargs]))
      rfl
    exact both_node hargs (var_meet hone hfound hκ hthere hpath
      (fun a ha => ih a ha (levels_operand hn (by simp [hargs, ha]))) now t)
  | @missing raw hpaths =>
    obtain ⟨k, rfl⟩ := exists_room hn
    exact both_node rfl (missing_meet hpaths now t)
  | @order op raw a b κ κ' hop hargs hκ hκ' _ _ iha ihb =>
    obtain ⟨k, rfl⟩ := exists_room hn
    exact both_node hargs (order_meet hop hκ hκ' (iha (levels_operand hn (by simp [hargs])))
      (ihb (levels_operand hn (by simp [hargs]))))
  | @equality op raw a b κ hop hargs hκ _ _ iha ihb =>
    obtain ⟨k, rfl⟩ := exists_room hn
    exact both_node hargs (equality_meet hop hκ (iha (levels_operand hn (by simp [hargs])))
      (ihb (levels_operand hn (by simp [hargs]))))
  | @junction op raw κ hop hne _ ih =>
    obtain ⟨k, rfl⟩ := exists_room hn
    exact both_node rfl (junction_meet hop hne fun a ha => ih a ha (levels_operand hn ha))
  | @negation raw a κ hargs _ ih =>
    obtain ⟨k, rfl⟩ := exists_room hn
    exact both_node hargs (negation_meet (ih (levels_operand hn (by simp [hargs]))))
  | @member raw a b κ hargs _ _ iha ihb =>
    obtain ⟨k, rfl⟩ := exists_room hn
    exact both_node hargs (member_meet (iha (levels_operand hn (by simp [hargs])))
      (ihb (levels_operand hn (by simp [hargs]))))
  | @choice raw κ hlen hend _ _ ihd ihb =>
    obtain ⟨k, rfl⟩ := exists_room hn
    exact both_node rfl (choice_meet hlen hend
      (fun a ha => ihd a ha (levels_operand hn (mem_of_deciders ha)))
      fun a ha => ihb a ha (levels_operand hn (mem_of_branches ha)))

theorem describe_node {op : String} {raw : Json} {args : List Json} (hargs : operands raw = args)
    (hvar : op = "var" → args ≠ []) (h : op ≠ "var" → ∀ a ∈ args, describe a ≠ none) :
    describe (.obj [(op, raw)]) ≠ none := by
  rw [describe_obj, hargs, Ne, describeOp_none_iff, List.mem_map]
  rintro (⟨hop, hargs⟩ | ⟨hop, a, ha, hnone⟩)
  · exact hvar hop hargs
  · exact h hop a ha hnone

/-- An argument of an `if` is decided on or can be what it comes to. -/
theorem mem_choice {a : Json} {args : List Json} (h : a ∈ args) :
    a ∈ deciders args ∨ a ∈ branches args := by
  induction args using branches.induct with
  | case1 => cases h
  | case2 last => exact .inr h
  | case3 condition value rest ih =>
    simp only [List.mem_cons] at h
    rcases h with rfl | rfl | h
    · exact .inl List.mem_cons_self
    · exact .inr List.mem_cons_self
    · exact (ih h).imp (List.mem_cons_of_mem _) (List.mem_cons_of_mem _)

/-- There are words for a typed rule. -/
theorem typed_describe {rule : Json} {κ : Kind} (h : Typed offer rule κ) :
    describe rule ≠ none := by
  have hpair : ∀ {op : String} {raw a b : Json}, op ≠ "var" → operands raw = [a, b] →
      describe a ≠ none → describe b ≠ none → describe (.obj [(op, raw)]) ≠ none := by
    intro op raw a b hop hargs ha hb
    refine describe_node hargs (fun h => absurd h hop) fun _ => ?_
    simp [ha, hb]
  induction h with
  | literal hvalue _ => cases hvalue <;> simp [describe]
  | widen _ _ ih => exact ih
  | var hargs =>
    refine describe_node hargs (fun _ => ?_) fun h => absurd rfl h
    simp
  | missing hpaths =>
    refine describe_node rfl (fun h => absurd h (by decide)) fun _ a ha => ?_
    obtain ⟨path, found, rfl, -⟩ := hpaths a ha
    simp [describe]
  | order hop hargs _ _ _ _ iha ihb =>
    refine hpair ?_ hargs iha ihb
    rintro rfl
    exact absurd hop (by decide)
  | equality hop hargs _ _ _ iha ihb =>
    refine hpair ?_ hargs iha ihb
    rintro rfl
    exact absurd hop (by decide)
  | junction hop hne _ ih =>
    exact describe_node rfl (fun _ => hne) fun _ => ih
  | negation hargs _ ih =>
    refine describe_node hargs (fun h => absurd h (by decide)) fun _ => ?_
    simp [ih]
  | member hargs _ _ iha ihb => exact hpair (by decide) hargs iha ihb
  | choice _ _ _ _ ihd ihb =>
    refine describe_node rfl (fun h => absurd h (by decide)) fun _ a ha => ?_
    exact (mem_choice ha).elim (ihd a) (ihb a)

/-- A price under a limit and a category on a list. -/
def demoConditions : Json :=
  .obj [("and", .arr [
    .obj [("<=", .arr [.obj [("var", .str "offer.price")], .num 150 0])],
    .obj [("in", .arr [.obj [("var", .str "offer.category")],
      .arr [.str "flight", .str "hotel"]])]])]

/-- An offer for them. -/
def demoOffer : Fields := [("price", .str "79.00"), ("category", .str "flight")]

theorem demo_typed : Typed demoOffer demoConditions .flag := by
  refine .junction (.inl rfl) (by simp [operands]) ?_
  simp only [operands, List.mem_cons, List.not_mem_nil, or_false, forall_eq_or_imp, forall_eq]
  constructor
  · have hprice : OfferHas demoOffer "offer.price" (some (.str "79.00")) :=
      ⟨"price", [], rfl, rfl⟩
    refine .order (by decide) rfl (show Kind.money ∈ _ by decide)
      (show Kind.whole ∈ _ by decide) ?_ ?_
    · refine .var rfl (by decide) hprice ?_ (.inl rfl) (by simp)
      intro v hv
      cases hv
      exact rfl
    · exact .literal (.int 150) ⟨rfl, by decide, by decide⟩
  · have hcategory : OfferHas demoOffer "offer.category" (some (.str "flight")) :=
      ⟨"category", [], rfl, rfl⟩
    refine .member (κ := .text) rfl ?_ ?_
    · refine .var rfl (by decide) hcategory ?_ (.inl rfl) (by simp)
      intro v hv
      cases hv
      trivial
    · refine .literal (.arr ?_) trivial
      simp only [List.mem_cons, List.not_mem_nil, or_false, forall_eq_or_imp, forall_eq]
      exact ⟨.str _, .str _⟩

end Typed

end TryTrust.Agent.Jsonlogic
