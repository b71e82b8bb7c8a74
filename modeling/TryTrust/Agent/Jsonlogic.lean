import TryTrust.Agent.Kernel
import TryTrust.Policy.Evaluation

/-!
# The agent's own evaluator of rules

Mandate conditions and watch thresholds are rules of the restricted evaluator. A caller catches
`RuleError` and nothing else.

* `num` (`_num`), `cmp` (`_cmp`), `var` (`_var`);
* `ruleBody`: what `evaluate` makes of one rule; **`evaluate`** with room for so many calls;
  `describe`;
* `checkConditions`, the last check of `gate`; `firstMatch`, the loop of a watch over the offers;
* `Defect`: the rules that raise something else than `RuleError`; **`comes_crash_iff`**;
* `Contained`, **`evaluate_crash_iff`**; `Unnamed`, `describe_none_iff`;
  **`check_raises_iff`**, **`firstMatch_raises_iff`**.
-/

namespace TryTrust.Agent.Jsonlogic

open Rules (Means Reaches)

open Policy (operands pathParts descend)

/-- An exception of an evaluation: `RuleError` with its text, or another one. -/
inductive Fault where
  | rule (message : String)
  | crash
  deriving DecidableEq, Repr

/-! ## Numbers -/

/-- What `Decimal(str(value))` is to a comparison. -/
inductive Operand where
  | finite (d : Dec)
  | infinite (negative : Bool)
  | nan
  deriving DecidableEq, Repr

/-- The text of a number has a minus. -/
def negative (text : String) : Bool :=
  text.toList.find? (fun c => !c.isWhitespace && c != '_') = some '-'

/-- `_num`. -/
def num (value : Json) : Except Fault Operand :=
  match parseDecimal value.text with
  | some (.finite d) => .ok (.finite d)
  | some .infinity => .ok (.infinite (negative value.text))
  | some .nan => .ok .nan
  | some .signalingNan => .ok .nan
  | none => .error (.rule ("not comparable as a number: " ++ value.repr))

/-- Compare finite numbers. -/
def decCompare (a b : Dec) : Ordering :=
  compare (a.coeff * 10 ^ (a.exp - b.exp).toNat) (b.coeff * 10 ^ (b.exp - a.exp).toNat)

/-- How two numbers are ordered; `none` when the comparison raises `InvalidOperation`. -/
def Operand.order : Operand → Operand → Option Ordering
  | finite a, finite b => some (decCompare a b)
  | infinite a, infinite b => some (if a = b then .eq else if a then .lt else .gt)
  | infinite a, finite _ => some (if a then .lt else .gt)
  | finite _, infinite b => some (if b then .gt else .lt)
  | _, _ => none

/-- An order operator on how its operands are ordered. -/
def holdsFor (op : String) (o : Ordering) : Bool :=
  if op = "<" then o = .lt else if op = "<=" then o ≠ .gt else if op = ">" then o = .gt
  else o ≠ .lt

/-- `_cmp`. -/
def cmp (op : String) (left right : Json) : Except Fault Bool := do
  let a ← num left
  let b ← num right
  match a.order b with
  | some o => .ok (holdsFor op o)
  | none => .error .crash

/-- An order operator on its values; three are the form `lo, x, hi`. -/
def ordered (op : String) : List Json → Except Fault Json
  | [a, b] => (cmp op a b).map .bool
  | [a, b, c] => do
    if ← cmp op a b then (cmp op b c).map .bool else .ok (.bool false)
  | _ => .error (.rule (op ++ " takes 2 or 3 arguments"))

/-! ## Variables -/

/-- `_var`. -/
def var (path ctx default : Json) : Json :=
  match path with
  | .str "" => ctx
  | path => (descend (pathParts path.text) ctx).getD default

/-- `value is None`. -/
def isNone : Json → Bool
  | .null => true
  | _ => false

/-! ## The evaluator -/

/-- What a rule makes of the values of others. -/
abbrev RuleBody : Type := Rules.Body Json Json Fault Json

/-- `var`: the path and the default are rules themselves. -/
def varBody (ctx : Json) (args : List Json) : RuleBody :=
  (Rules.Body.values args).bind fun resolved =>
    match resolved with
    | [] => .raise .crash
    | path :: rest => .ret (var path ctx (rest.headD .null))

/-- An operator on its first two arguments, which have to be there. -/
def pairBody (f : Json → Json → Except Fault Json) : List Json → RuleBody
  | a :: b :: _ => .ask a fun x => .ask b fun y => .lift (f x y)
  | [a] => .ask a fun _ => .raise .crash
  | [] => .raise .crash

/-- `and`: arguments up to one that is not true. -/
def andBody (result : Json) : List Json → RuleBody
  | [] => .ret result
  | a :: rest => .ask a fun result => if result.truthy then andBody result rest else .ret result

/-- `or`: arguments up to one that is true. -/
def orBody (result : Json) : List Json → RuleBody
  | [] => .ret result
  | a :: rest => .ask a fun result => if result.truthy then .ret result else orBody result rest

/-- `!`. -/
def notBody : List Json → RuleBody
  | [] => .raise .crash
  | a :: _ => .ask a fun v => .ret (.bool !v.truthy)

/-- `if`: conditions up to one that is true, else the last argument. -/
def ifBody : List Json → RuleBody
  | [] => .ret .null
  | [last] => .value last
  | condition :: value :: rest =>
    .ask condition fun c => if c.truthy then .value value else ifBody rest

/-- The equality operators: `==` and `!=` compare texts. -/
def equal (op : String) (a b : Json) : Bool :=
  if op = "==" then a.text = b.text else if op = "===" then a.pyEq b
  else if op = "!=" then a.text ≠ b.text else !a.pyEq b

/-- `needle in (haystack or [])`. -/
def within (needle haystack : Json) : Except Fault Json :=
  match needle.pyIn (haystack.orElse (.arr [])) with
  | some b => .ok (.bool b)
  | none => .error .crash

/-- The operators of order. -/
def orders : List String := ["<", "<=", ">", ">="]

/-- The operators of equality. -/
def equalities : List String := ["==", "===", "!=", "!=="]

/-- An operator on its arguments. -/
def operatorBody (ctx : Json) (op : String) (args : List Json) : RuleBody :=
  if op = "var" then varBody ctx args
  else if op = "missing" then .ret (.arr (args.filter fun a => isNone (var a ctx .null)))
  else if op ∈ orders then (Rules.Body.values args).bind fun values => .lift (ordered op values)
  else if op ∈ equalities then pairBody (fun a b => .ok (.bool (equal op a b))) args
  else if op = "and" then andBody (.bool true) args
  else if op = "or" then orBody (.bool false) args
  else if op = "!" then notBody args
  else if op = "in" then pairBody within args
  else if op = "if" then ifBody args
  else .raise (.rule ("operator not allowed in a mandate: " ++ quoted op))

/-- **`evaluate`** on one rule. -/
def ruleBody (ctx : Json) : Json → RuleBody
  | .obj [(op, raw)] => operatorBody ctx op (operands raw)
  | .obj fields => .raise (.rule ("a rule node takes exactly one operator, got " ++
      (Json.arr (fields.map fun e => .str e.1)).repr))
  | value => .ret value

/-- **`evaluate`** with room for so many calls; without room it raises `RecursionError`. -/
def evaluate (ctx : Json) (room : ℕ) (rule : Json) : Except Fault Json :=
  Rules.evaluate .crash (ruleBody ctx) room rule

/-! ## In plain words -/

/-- The words of the operators. -/
def words : List (String × String) :=
  [("<", "below"), ("<=", "at most"), (">", "above"), (">=", "at least"), ("==", "is"),
    ("!=", "is not"), ("in", "one of")]

/-- An operator in words, from the texts of its arguments. -/
def describeOp (op : String) (args : List Json) (texts : List (Option String)) : Option String :=
  if op = "var" then args.head?.map Json.text
  else
    match words.lookup op, texts with
    | some word, [a, b] => do some ((← a) ++ " " ++ word ++ " " ++ (← b))
    | _, _ => do
      let parts ← texts.mapM id
      some (if op = "and" ∨ op = "or" then (" " ++ op ++ " ").intercalate parts
        else op ++ "(" ++ ", ".intercalate parts ++ ")")

mutual

/-- `describe`; `none` when it raises. -/
def describe : Json → Option String
  | .obj fields => describeNode fields
  | value => some value.text

/-- A dictionary in words: its first operator. -/
def describeNode : List (String × Json) → Option String
  | [] => none
  | (op, .arr args) :: _ => describeOp op args (describeAll args)
  | (op, arg) :: _ => describeOp op [arg] [describe arg]

/-- Each argument in words. -/
def describeAll : List Json → List (Option String)
  | [] => []
  | arg :: args => describe arg :: describeAll args

end

/-! ## The callers -/

/-- The context of an offer. -/
def contextOf (offer : Fields) (now : ℤ) : Json :=
  .obj [("offer", .obj offer), ("now", .num now 0)]

/-- The last check of `gate`, the buyer's own conditions; `none` when an exception gets out. -/
def checkConditions (room : ℕ) (conditions : Json) (offer : Fields) (price title : String)
    (now : ℤ) : Option Decision :=
  match evaluate (contextOf offer now) room (conditions.orElse (.bool true)) with
  | .error (.rule message) =>
    some (.reject "CONDITION_FAILED" ("unevaluable condition: " ++ message))
  | .error .crash => none
  | .ok passes =>
    if passes.truthy then some ⟨.approved, none, "", []⟩
    else (describe conditions).map fun text =>
      ⟨.escalated, some "CONDITION_FAILED", "fails the buyer's condition: " ++ text,
        [("condition", text), ("offer_price", price), ("offer", title)]⟩

/-- The first offer that the threshold of a watch lets through; `none` when an exception gets
out. -/
def firstMatch (room : ℕ) (threshold : Json) (now : ℤ) : List Fields → Option (Option Fields)
  | [] => some none
  | offer :: offers =>
    match evaluate (contextOf offer now) room threshold with
    | .ok value => if value.truthy then some (some offer) else firstMatch room threshold now offers
    | .error (.rule _) => firstMatch room threshold now offers
    | .error .crash => none

/-! ## The exceptions that get out -/

/-- Both values are numbers, and one of them is not a number. -/
def NotOrdered (a b : Json) : Prop :=
  ∃ x y, num a = .ok x ∧ num b = .ok y ∧ (x = .nan ∨ y = .nan)

/-- The comparison of these values comes to a pair of which one is not a number. -/
def Incomparable (op : String) (values : List Json) : Prop :=
  (∃ a b, values = [a, b] ∧ NotOrdered a b) ∨
  ∃ a b c, values = [a, b, c] ∧ (NotOrdered a b ∨ cmp op a b = .ok true ∧ NotOrdered b c)

/-- **A rule that raises something else than `RuleError`**, where `D` are the values of its
sub-rules. -/
inductive Defect (D : Json → Json → Prop) : Json → Prop where
  /-- `IndexError`: an operator that reads its first argument has none. -/
  | bare {op : String} {raw : Json} (hop : op = "var" ∨ op = "!") (hargs : operands raw = []) :
    Defect D (.obj [(op, raw)])
  /-- `ValueError`: an operator of two operands has fewer. -/
  | short {op : String} {raw : Json} (hop : op ∈ "in" :: equalities)
    (hargs : (operands raw).length < 2) (hvs : ∀ a ∈ operands raw, ∃ v, D a v) :
    Defect D (.obj [(op, raw)])
  /-- `InvalidOperation`: an order with what is not a number. -/
  | notOrdered {op : String} {raw : Json} {values : List Json} (hop : op ∈ orders)
    (hvs : List.Forall₂ D (operands raw) values) (hnan : Incomparable op values) :
    Defect D (.obj [(op, raw)])
  /-- `TypeError`: the needle cannot be in such a haystack. -/
  | foreign {raw needle haystack x y : Json} {rest : List Json}
    (hargs : operands raw = needle :: haystack :: rest) (hx : D needle x) (hy : D haystack y)
    (hin : x.pyIn (y.orElse (.arr [])) = none) : Defect D (.obj [("in", raw)])

theorem order_none_iff {x y : Operand} : x.order y = none ↔ x = .nan ∨ y = .nan := by
  cases x <;> cases y <;> simp [Operand.order]

theorem num_ne_crash (a : Json) : num a ≠ .error .crash := by
  unfold num
  split <;> simp

/-- A comparison raises `InvalidOperation` on what is not a number. -/
theorem cmp_crash_iff {op : String} {a b : Json} :
    cmp op a b = .error .crash ↔ NotOrdered a b := by
  unfold cmp NotOrdered
  cases ha : num a with
  | error e =>
    have he : e ≠ .crash := fun h => num_ne_crash a (h ▸ ha)
    refine iff_of_false (fun h => he (Except.error.inj h)) ?_
    rintro ⟨x, y, hx, -⟩
    cases hx
  | ok x =>
    cases hb : num b with
    | error e =>
      have he : e ≠ .crash := fun h => num_ne_crash b (h ▸ hb)
      refine iff_of_false (fun h => he (Except.error.inj h)) ?_
      rintro ⟨_, y, -, hy, -⟩
      cases hy
    | ok y =>
      change (match x.order y with
        | some o => Except.ok (holdsFor op o)
        | none => Except.error Fault.crash) = _ ↔ _
      cases ho : x.order y with
      | some o =>
        refine iff_of_false (fun h => nomatch h) ?_
        rintro ⟨_, _, ⟨⟩, ⟨⟩, hnan⟩
        rw [order_none_iff.2 hnan] at ho
        cases ho
      | none => exact iff_of_true rfl ⟨x, y, rfl, rfl, order_none_iff.1 ho⟩

/-- An order operator raises something else on incomparable values only. -/
theorem ordered_crash_iff {op : String} {values : List Json} :
    ordered op values = .error .crash ↔ Incomparable op values := by
  rcases values with _ | ⟨a, _ | ⟨b, _ | ⟨c, _ | ⟨d, rest⟩⟩⟩⟩
  · simp [ordered, Incomparable]
  · simp [ordered, Incomparable]
  · have hsome : ordered op [a, b] = .error .crash ↔ cmp op a b = .error .crash := by
      rw [ordered]
      cases cmp op a b <;> simp [Except.map]
    rw [hsome, cmp_crash_iff]
    simp [Incomparable]
  · have hsome : ordered op [a, b, c] = .error .crash ↔ cmp op a b = .error .crash ∨
        cmp op a b = .ok true ∧ cmp op b c = .error .crash := by
      rw [ordered]
      cases cmp op a b with
      | error e => simp [Bind.bind, Except.bind]
      | ok first =>
        cases first with
        | false => simp [Bind.bind, Except.bind]
        | true => cases cmp op b c <;> simp [Bind.bind, Except.bind, Except.map]
    rw [hsome, cmp_crash_iff, cmp_crash_iff]
    simp [Incomparable]
  · simp [ordered, Incomparable]

theorem within_crash_iff {needle haystack : Json} :
    within needle haystack = .error .crash ↔ needle.pyIn (haystack.orElse (.arr [])) = none := by
  unfold within
  cases needle.pyIn (haystack.orElse (.arr [])) <;> simp

section Comes

variable {ctx : Json} {D : Json → Json → Prop}

/-- The cases of an operator. -/
theorem operatorBody_cases {motive : RuleBody → Prop} {op : String} {args : List Json}
    (path : op = "var" → motive (varBody ctx args))
    (lost : op = "missing" → motive (.ret (.arr (args.filter fun a => isNone (var a ctx .null)))))
    (order : op ∈ orders → motive ((Rules.Body.values args).bind fun vs => .lift (ordered op vs)))
    (equality : op ∈ equalities →
      motive (pairBody (fun a b => .ok (.bool (equal op a b))) args))
    (conj : op = "and" → motive (andBody (.bool true) args))
    (disj : op = "or" → motive (orBody (.bool false) args))
    (neg : op = "!" → motive (notBody args)) (member : op = "in" → motive (pairBody within args))
    (cond : op = "if" → motive (ifBody args))
    (unknown : motive (.raise (.rule ("operator not allowed in a mandate: " ++ quoted op)))) :
    motive (operatorBody ctx op args) := by
  unfold operatorBody
  exact iteInduction path fun _ => iteInduction lost fun _ => iteInduction order fun _ =>
    iteInduction equality fun _ => iteInduction conj fun _ => iteInduction disj fun _ =>
    iteInduction neg fun _ => iteInduction member fun _ => iteInduction cond fun _ => unknown

theorem values_crash {args : List Json} {f : List Json → RuleBody} :
    ((Rules.Body.values args).bind f).Comes D (.error .crash) ↔
      ∃ vs, List.Forall₂ D args vs ∧ (f vs).Comes D (.error .crash) := by
  rw [Rules.Body.comes_bind]
  constructor
  · rintro (⟨vs, hvs, h⟩ | ⟨e, -, hvs⟩)
    · obtain ⟨ws, hws, hD⟩ := Rules.Body.comes_values.1 hvs
      cases hws
      exact ⟨vs, hD, h⟩
    · obtain ⟨ws, hws, -⟩ := Rules.Body.comes_values.1 hvs
      cases hws
  · rintro ⟨vs, hvs, h⟩
    exact .inl ⟨vs, Rules.Body.comes_values.2 ⟨vs, rfl, hvs⟩, h⟩

theorem varBody_crash {args : List Json} :
    (varBody ctx args).Comes D (.error .crash) ↔ args = [] := by
  rw [varBody, values_crash]
  constructor
  · rintro ⟨_ | ⟨v, vs⟩, hvs, h⟩
    · cases hvs
      rfl
    · cases h
  · rintro rfl
    exact ⟨[], .nil, rfl⟩

theorem pairBody_crash {f : Json → Json → Except Fault Json} {args : List Json} :
    (pairBody f args).Comes D (.error .crash) ↔
      (args.length < 2 ∧ ∀ a ∈ args, ∃ v, D a v) ∨ ∃ a b rest x y, args = a :: b :: rest ∧
        D a x ∧ D b y ∧ f x y = .error .crash := by
  rcases args with _ | ⟨a, _ | ⟨b, rest⟩⟩
  · simp [pairBody]
  · simp [pairBody]
  · simp [pairBody, eq_comm]

theorem andBody_raises {args : List Json} {result : Json} {e : Fault} :
    ¬ (andBody result args).Comes D (.error e) := by
  induction args generalizing result with
  | nil => exact fun h => nomatch h
  | cons a rest ih =>
    rintro ⟨v, -, h⟩
    rcases Rules.Body.comes_ite.1 h with ⟨-, h⟩ | ⟨-, h⟩
    · exact ih h
    · cases h

theorem orBody_raises {args : List Json} {result : Json} {e : Fault} :
    ¬ (orBody result args).Comes D (.error e) := by
  induction args generalizing result with
  | nil => exact fun h => nomatch h
  | cons a rest ih =>
    rintro ⟨v, -, h⟩
    rcases Rules.Body.comes_ite.1 h with ⟨-, h⟩ | ⟨-, h⟩
    · cases h
    · exact ih h

theorem ifBody_raises {args : List Json} {e : Fault} : ¬ (ifBody args).Comes D (.error e) := by
  induction args using ifBody.induct with
  | case1 =>
    intro h
    cases h
  | case2 last =>
    rintro ⟨c, -, h⟩
    cases h
  | case3 condition value rest ih =>
    rintro ⟨c, -, h⟩
    rcases Rules.Body.comes_ite.1 h with ⟨-, _, -, h⟩ | ⟨-, h⟩
    · cases h
    · exact ih h

theorem notBody_crash {args : List Json} :
    (notBody args).Comes D (.error .crash) ↔ args = [] := by
  cases args <;> simp [notBody]

theorem defect_of_operator {op : String} {raw : Json}
    (h : (operatorBody ctx op (operands raw)).Comes D (.error .crash)) :
    Defect D (.obj [(op, raw)]) := by
  revert h
  refine operatorBody_cases
    (motive := fun p => p.Comes D (.error .crash) → Defect D (.obj [(op, raw)]))
    (fun hop h => .bare (.inl hop) (varBody_crash.1 h)) (fun _ h => nomatch h) ?order ?equality
    (fun _ h => absurd h andBody_raises) (fun _ h => absurd h orBody_raises)
    (fun hop h => .bare (.inr hop) (notBody_crash.1 h)) ?member
    (fun _ h => absurd h ifBody_raises) (fun h => nomatch h)
  case order =>
    intro hop h
    obtain ⟨vs, hvs, h⟩ := values_crash.1 h
    exact .notOrdered hop hvs (ordered_crash_iff.1 (Rules.Body.comes_lift.1 h).symm)
  case equality =>
    intro hop h
    rcases pairBody_crash.1 h with ⟨hargs, hvs⟩ | ⟨a, b, rest, x, y, -, -, -, h⟩
    · exact .short (List.mem_cons_of_mem _ hop) hargs hvs
    · cases h
  case member =>
    rintro rfl h
    rcases pairBody_crash.1 h with ⟨hargs, hvs⟩ | ⟨a, b, rest, x, y, hargs, hx, hy, h⟩
    · exact .short List.mem_cons_self hargs hvs
    · exact .foreign hargs hx hy (within_crash_iff.1 h)

theorem comes_crash_of_defect {rule : Json} (h : Defect D rule) :
    (ruleBody ctx rule).Comes D (.error .crash) := by
  cases h with
  | @bare op raw hop hargs =>
    rcases hop with rfl | rfl
    · exact varBody_crash.2 hargs
    · exact notBody_crash.2 hargs
  | @short op raw hop hargs hvs =>
    have hpair : ∀ f, (pairBody f (operands raw)).Comes D (.error .crash) :=
      fun f => pairBody_crash.2 (.inl ⟨hargs, hvs⟩)
    simp only [equalities, List.mem_cons, List.not_mem_nil, or_false] at hop
    rcases hop with rfl | rfl | rfl | rfl | rfl <;> exact hpair _
  | @notOrdered op raw values hop hvs hnan =>
    have hrun : ((Rules.Body.values (operands raw)).bind fun vs => .lift (ordered op vs)).Comes D
        (.error .crash) :=
      values_crash.2 ⟨values, hvs, Rules.Body.comes_lift.2 (ordered_crash_iff.2 hnan).symm⟩
    simp only [orders, List.mem_cons, List.not_mem_nil, or_false] at hop
    rcases hop with rfl | rfl | rfl | rfl <;> exact hrun
  | @foreign raw needle haystack x y rest hargs hx hy hin =>
    exact pairBody_crash.2 (.inr ⟨needle, haystack, rest, x, y, hargs, hx, hy,
      within_crash_iff.2 hin⟩)

/-- **A rule raises something else than `RuleError` on a defect only.** -/
theorem comes_crash_iff {rule : Json} :
    (ruleBody ctx rule).Comes D (.error .crash) ↔ Defect D rule := by
  refine ⟨fun h => ?_, comes_crash_of_defect⟩
  cases rule with
  | obj fields =>
    rcases fields with _ | ⟨⟨op, raw⟩, _ | ⟨_, rest⟩⟩
    · cases h
    · exact defect_of_operator h
    · cases h
  | null | bool b | num m scale | str s | arr items => cases h

end Comes

/-- The evaluation neither runs out of room nor reaches a defect. -/
def Contained (ctx : Json) (room : ℕ) (rule : Json) : Prop :=
  ∀ k x, Reaches (ruleBody ctx) room rule k x →
    ∃ j, k = j + 1 ∧ ¬ Defect (Means (ruleBody ctx) j) x

/-- **An evaluation raises something else than `RuleError` unless it is contained.** -/
theorem evaluate_crash_iff {ctx : Json} {room : ℕ} {rule : Json} :
    evaluate ctx room rule = .error .crash ↔ ¬ Contained ctx room rule := by
  refine Rules.evaluate_error_iff.trans ?_
  constructor
  · rintro ⟨k, x, hx, h⟩ hcont
    obtain ⟨j, rfl, hdefect⟩ := hcont k x hx
    exact hdefect (comes_crash_iff.1 h)
  · intro h
    unfold Contained at h
    push Not at h
    obtain ⟨k, x, hx, h⟩ := h
    refine ⟨k, x, hx, ?_⟩
    cases k with
    | zero => rfl
    | succ j => exact comes_crash_iff.2 (h j rfl)

/-! ## Rules in words -/

/-- What `describe` describes on its way through a rule. -/
inductive Described : Json → Json → Prop where
  | self (rule : Json) : Described rule rule
  | sub {op : String} {raw a x : Json} {rest : List (String × Json)} (hop : op ≠ "var")
      (ha : a ∈ operands raw) (hx : Described a x) : Described (.obj ((op, raw) :: rest)) x

/-- A rule without the words that `describe` reads: no operator, or a variable without a path. -/
def Unnamed : Json → Prop
  | .obj [] => True
  | .obj ((op, raw) :: _) => op = "var" ∧ operands raw = []
  | _ => False

theorem mapM_none_iff {texts : List (Option String)} : texts.mapM id = none ↔ none ∈ texts := by
  induction texts with
  | nil => simp
  | cons t texts ih =>
    rw [List.mapM_cons, List.mem_cons, ← ih]
    cases t with
    | none => simp
    | some t => cases texts.mapM id <;> simp

theorem describeOp_none_iff {op : String} {args : List Json} {texts : List (Option String)} :
    describeOp op args texts = none ↔ (op = "var" ∧ args = []) ∨ (op ≠ "var" ∧ none ∈ texts) := by
  unfold describeOp
  by_cases hop : op = "var"
  · rw [if_pos hop]
    simp [hop]
  · rw [if_neg hop]
    have hmany : ∀ word : List String → String,
        (do let parts ← texts.mapM id; some (word parts)) = none ↔ none ∈ texts := by
      intro word
      rw [← mapM_none_iff]
      cases texts.mapM id <;> simp
    simp only [hop, false_and, false_or, ne_eq, not_false_eq_true, true_and]
    split
    · rename_i word a b _
      cases a <;> cases b <;> simp
    · exact hmany _

theorem describeAll_eq (args : List Json) : describeAll args = args.map describe := by
  induction args with
  | nil => rfl
  | cons a args ih => rw [describeAll, ih, List.map_cons]

theorem describe_obj (op : String) (raw : Json) (rest : List (String × Json)) :
    describe (.obj ((op, raw) :: rest)) =
      describeOp op (operands raw) ((operands raw).map describe) := by
  cases raw <;> simp only [describe, describeNode, operands, describeAll_eq, List.map_cons,
    List.map_nil]

theorem sizeOf_operand {op : String} {raw a : Json} {rest : List (String × Json)}
    (h : a ∈ operands raw) : sizeOf a < sizeOf (Json.obj ((op, raw) :: rest)) := by
  have hraw : sizeOf a ≤ sizeOf raw := by
    cases raw with
    | arr items =>
      have := List.sizeOf_lt_of_mem (show a ∈ items from h)
      simp only [Json.arr.sizeOf_spec]
      omega
    | null | bool b | num m scale | str s | obj fields =>
      rw [List.mem_singleton.1 h]
  simp only [Json.obj.sizeOf_spec, List.cons.sizeOf_spec, Prod.mk.sizeOf_spec]
  omega

/-- **`describe` raises on an unnamed rule on its way.** -/
theorem describe_none_iff (rule : Json) :
    describe rule = none ↔ ∃ x, Described rule x ∧ Unnamed x := by
  induction hn : sizeOf rule using Nat.strong_induction_on generalizing rule with
  | _ n ih =>
    subst hn
    rcases rule with _ | b | ⟨m, scale⟩ | s | items | _ | ⟨⟨op, raw⟩, rest⟩
    case obj.nil => exact iff_of_true rfl ⟨.obj [], .self _, trivial⟩
    case obj.cons =>
      have hsub : none ∈ (operands raw).map describe ↔
          ∃ a ∈ operands raw, ∃ x, Described a x ∧ Unnamed x := by
        rw [List.mem_map]
        exact exists_congr fun a => and_congr_right fun ha => ih _ (sizeOf_operand ha) a rfl
      rw [describe_obj, describeOp_none_iff, hsub]
      constructor
      · rintro (h | ⟨hop, a, ha, x, hx, h⟩)
        · exact ⟨_, .self _, h⟩
        · exact ⟨x, .sub hop ha hx, h⟩
      · rintro ⟨x, hx, h⟩
        cases hx with
        | self => exact .inl h
        | sub hop ha hx => exact .inr ⟨hop, _, ha, x, hx, h⟩
    all_goals
      refine iff_of_false (fun h => nomatch h) ?_
      rintro ⟨x, hx, h⟩
      cases hx
      exact h

/-! ## What gets out of the callers -/

/-- **The buyer's conditions raise** something that `gate` does not catch. -/
theorem check_raises_iff (room : ℕ) (conditions : Json) (offer : Fields) (price title : String)
    (now : ℤ) : checkConditions room conditions offer price title now = none ↔
      ¬ Contained (contextOf offer now) room (conditions.orElse (.bool true)) ∨
      (∃ v, Means (ruleBody (contextOf offer now)) room (conditions.orElse (.bool true)) v ∧
        v.truthy = false) ∧ ∃ x, Described conditions x ∧ Unnamed x := by
  rw [← evaluate_crash_iff, ← describe_none_iff]
  have hmeans : ∀ rule v, Means (ruleBody (contextOf offer now)) room rule v ↔
      evaluate (contextOf offer now) room rule = .ok v :=
    fun _ _ => Rules.evaluate_ok_iff.symm
  simp only [hmeans]
  unfold checkConditions
  cases evaluate (contextOf offer now) room (conditions.orElse (.bool true)) with
  | error e => cases e <;> simp
  | ok v => cases hv : v.truthy <;> simp [hv]

/-- An offer does not match, where the threshold can be evaluated. -/
def Passed (room : ℕ) (threshold : Json) (now : ℤ) (offer : Fields) : Prop :=
  ∀ v, Means (ruleBody (contextOf offer now)) room threshold v → v.truthy = false

theorem firstMatch_cons (room : ℕ) (threshold : Json) (now : ℤ) (offer : Fields)
    (offers : List Fields) : firstMatch room threshold now (offer :: offers) = none ↔
      ¬ Contained (contextOf offer now) room threshold ∨
      Passed room threshold now offer ∧ firstMatch room threshold now offers = none := by
  rw [← evaluate_crash_iff]
  have hpassed : Passed room threshold now offer ↔
      ∀ v, evaluate (contextOf offer now) room threshold = .ok v → v.truthy = false :=
    forall_congr' fun v => imp_congr_left Rules.evaluate_ok_iff.symm
  rw [hpassed, firstMatch]
  cases evaluate (contextOf offer now) room threshold with
  | error e => cases e <;> simp
  | ok v => cases hv : v.truthy <;> simp [hv]

/-- **A threshold raises** something that a watch does not catch, on an offer before which none
matches. -/
theorem firstMatch_raises_iff (room : ℕ) (threshold : Json) (now : ℤ) (offers : List Fields) :
    firstMatch room threshold now offers = none ↔
      ∃ before offer after, offers = before ++ offer :: after ∧
        (∀ o ∈ before, Passed room threshold now o) ∧
        ¬ Contained (contextOf offer now) room threshold := by
  induction offers with
  | nil => simp [firstMatch]
  | cons first offers ih =>
    rw [firstMatch_cons, ih]
    constructor
    · rintro (h | ⟨hfirst, before, offer, after, rfl, hbefore, h⟩)
      · exact ⟨[], first, offers, rfl, by simp, h⟩
      · exact ⟨first :: before, offer, after, rfl, List.forall_mem_cons.2 ⟨hfirst, hbefore⟩, h⟩
    · rintro ⟨_ | ⟨o, before⟩, offer, after, hoffers, hbefore, h⟩
      · cases hoffers
        exact .inl h
      · cases hoffers
        obtain ⟨ho, hbefore⟩ := List.forall_mem_cons.1 hbefore
        exact .inr ⟨ho, before, offer, after, rfl, hbefore, h⟩

end TryTrust.Agent.Jsonlogic
