import TryTrust.Policy.Jsonlogic
import TryTrust.Rules

/-!
# The evaluation of conditions, rule by rule

Python evaluates a rule within a call for the rule around it, and has room for so many calls.

* `ruleBody`: what `_jsonlogic` makes of one rule, by asking for the values of others;
* `jsonlogicAt`, **`evaluateConditionsAt`**: the evaluator and `evaluate_conditions` with so much
  room; **`jsonlogicAt_eq`**, `evaluateConditionsAt_eq`: with room for every rule, they are those of
  the gate;
* `WellFormed`, `Resolved`: what a rule has to be by itself, and that its variable is there;
  **`wellFormed_of_comes`**;
* `Defect`: the rules that raise what `evaluate_conditions` does not catch; **`comes_other_iff`**.
-/

namespace TryTrust

namespace Policy

open Rules (Body)

/-- What a rule makes of the values of others. -/
abbrev RuleBody (α : Type) : Type := Body Json Json EvalErr α

/-- A refusal. -/
def refuse {α : Type} : RuleBody α := .raise .refused

/-- The arguments of an operator. -/
def operands : Json → List Json
  | .arr args => args
  | arg => [arg]

/-! ## Operators -/

/-- `var`: the variable, else the default. -/
def varBody (ctx : Context) (args : List Json) : RuleBody Json :=
  match args.headD (.str "") with
  | .str path =>
    match lookupVar ctx path with
    | some value => .ret value
    | none => (args[1]?).elim (.ret .null) .value
  | _ => refuse

/-- `if`: conditions up to one that is true, else the last argument. -/
def ifBody : List Json → RuleBody Json
  | [] => .ret .null
  | [last] => .value last
  | condition :: value :: rest =>
    .ask condition fun c => if c.truthy then .value value else ifBody rest

/-- `and`: arguments up to one that is not true. -/
def andBody (result : Json) : List Json → RuleBody Json
  | [] => .ret result
  | arg :: rest => .ask arg fun result => if result.truthy then andBody result rest else .ret result

/-- `or`: arguments up to one that is true. -/
def orBody (result : Json) : List Json → RuleBody Json
  | [] => .ret result
  | arg :: rest => .ask arg fun result => if result.truthy then .ret result else orBody result rest

/-- `!` and `!!`. -/
def notBody (op : String) : List Json → RuleBody Json
  | [] => .ret (.bool (if op = "!" then true else false))
  | arg :: _ => .ask arg fun v => .ret (.bool (if op = "!" then !v.truthy else v.truthy))

/-- An operator of two operands. -/
def binaryBody (f : Json → Json → Except EvalErr Json) : List Json → RuleBody Json
  | [left, right] => .ask left fun x => .ask right fun y => .lift (f x y)
  | _ => refuse

/-- `needle in haystack`. -/
def contains (needle haystack : Json) : Except EvalErr Json :=
  match needle.pyIn haystack with
  | some b => .ok (.bool b)
  | none => .error .refused

/-- `int(minimum)`. -/
def minimumOf (minimum : Json) : Except EvalErr ℤ := (pyInt minimum).elim (.error .refused) .ok

/-- The paths of `missing_some` that are lost, when too few are there. -/
def missingSome (ctx : Context) (n : ℤ) (paths : Json) : Except EvalErr Json := do
  let paths ← (iterate paths).elim (.error .refused) .ok
  let lost ← missing ctx paths
  .ok (.arr (if (paths.length : ℤ) - lost.length ≥ n then [] else lost))

/-- `missing_some`. -/
def missingSomeBody (ctx : Context) : List Json → RuleBody Json
  | [minimum, paths] =>
    .ask minimum fun m => (Body.lift (minimumOf m)).bind fun n =>
      .ask paths fun p => .lift (missingSome ctx n p)
  | _ => refuse

/-- An arithmetic operator on values. -/
def calculate (op : String) (values : List Json) : Except EvalErr Json :=
  match (values.map numeric).mapM id with
  | some cents => arithmetic op cents
  | none => .error .refused

/-- The operators that compare. -/
def comparisons : List String := ["==", "===", "!=", "!==", "=", "eq", "neq", "<", "<=", ">", ">="]

/-- The operators that calculate. -/
def calculations : List String := ["+", "-", "*", "/", "%", "min", "max"]

/-- An operator on its arguments. -/
def operatorBody (ctx : Context) (op : String) (args : List Json) : RuleBody Json :=
  if op = "var" then varBody ctx args
  else if op = "if" ∨ op = "?:" then if args.length < 2 then refuse else ifBody args
  else if op = "and" then andBody .null args
  else if op = "or" then orBody .null args
  else if op = "!" ∨ op = "!!" then notBody op args
  else if op ∈ comparisons then binaryBody (compareValues op) args
  else if op = "in" then binaryBody contains args
  else if op = "missing" then .lift ((missing ctx args).map .arr)
  else if op = "missing_some" then missingSomeBody ctx args
  else if op ∈ calculations then (Body.values args).bind fun vs => .lift (calculate op vs)
  else if op = "cat" then
    (Body.values args).bind fun vs => .ret (.str (String.join (vs.map Json.text)))
  else if op = "merge" then (Body.values args).bind fun vs => .ret (.arr (vs.flatMap mergeItems))
  else refuse

/-- **`_jsonlogic`** on one rule. -/
def ruleBody (ctx : Context) : Json → RuleBody Json
  | .arr items => (Body.values items).bind fun vs => .ret (.arr vs)
  | .obj [(op, raw)] => operatorBody ctx op (operands raw)
  | .obj _ => refuse
  | .num m scale => if scale = 0 then .ret (.num m 0) else refuse
  | literal => .ret literal

/-- `_jsonlogic` with room for so many calls; without room it raises `RecursionError`. -/
def jsonlogicAt (ctx : Context) (room : ℕ) : Json → Except EvalErr Json :=
  Rules.evaluate .other (ruleBody ctx) room

/-- **`evaluate_conditions`** with room for so many calls; a time without a zone is none. -/
def evaluateConditionsAt (room : ℕ) (conditions : Json) (offer : Option Fields)
    (now : Option String) : Except EvalErr Bool :=
  if !conditions.truthy then .ok true
  else
    match offer, now with
    | none, _ => .ok false
    | some _, none => .ok false
    | some offer, some now =>
      match jsonlogicAt ⟨offer, now⟩ room conditions with
      | .ok value => .ok value.truthy
      | .error .refused => .ok false
      | .error .other => .error .other

/-! ## The evaluator of the gate -/

section Run

variable (D : Json → Except EvalErr Json)

theorem run_ifBody (args : List Json) : (ifBody args).run D = ifValues (args.map D) := by
  induction args using ifBody.induct with
  | case1 => rfl
  | case2 last =>
    simp only [ifBody, Body.value, Body.run_ask, Body.run_ret, List.map_cons, List.map_nil,
      ifValues]
    cases D last <;> rfl
  | case3 condition value rest ih =>
    simp only [ifBody, Body.run_ask, List.map_cons, ifValues]
    congr 1
    funext c
    split_ifs
    · simp only [Body.value, Body.run_ask, Body.run_ret]
      cases D value <;> rfl
    · exact ih

theorem run_andBody (result : Json) (args : List Json) :
    (andBody result args).run D = andValues result (args.map D) := by
  induction args generalizing result with
  | nil => rfl
  | cons arg rest ih =>
    simp only [andBody, Body.run_ask, List.map_cons, andValues]
    congr 1
    funext v
    split_ifs
    · exact ih v
    · rfl

theorem run_orBody (result : Json) (args : List Json) :
    (orBody result args).run D = orValues result (args.map D) := by
  induction args generalizing result with
  | nil => rfl
  | cons arg rest ih =>
    simp only [orBody, Body.run_ask, List.map_cons, orValues]
    congr 1
    funext v
    split_ifs
    · rfl
    · exact ih v

theorem run_value (rule : Json) : (Body.value rule : RuleBody Json).run D = D rule := by
  simp only [Body.value, Body.run_ask, Body.run_ret]
  cases D rule <;> rfl

/-- An operator sees the values of its arguments. -/
theorem run_operatorBody (ctx : Context) (op : String) (args : List Json) :
    (operatorBody ctx op args).run D = jsonlogicOp ctx op args (args.map D) := by
  have hvalues : ∀ f : List Json → Except EvalErr Json,
      ((Body.values args).bind fun vs => .lift (f vs)).run D = (args.map D).mapM id >>= f := by
    intro f
    simp only [Body.run_bind, Body.run_values, Body.run_lift, List.mapM_map]
    rfl
  unfold operatorBody jsonlogicOp
  simp only [apply_ite (Body.run D)]
  refine if_congr Iff.rfl ?var (if_congr Iff.rfl ?cond (if_congr Iff.rfl (run_andBody D _ args)
    (if_congr Iff.rfl (run_orBody D _ args) (if_congr Iff.rfl ?not (if_congr Iff.rfl ?compare
    (if_congr Iff.rfl ?contains (if_congr Iff.rfl (Body.run_lift D _) (if_congr Iff.rfl ?some
    (if_congr Iff.rfl (hvalues _) (if_congr Iff.rfl ?cat (if_congr Iff.rfl ?merge rfl)))))))))))
  case var =>
    unfold varBody
    generalize args.headD (.str "") = path
    cases path with
    | str path =>
      dsimp only
      rw [List.getElem?_map]
      cases lookupVar ctx path with
      | some value => rfl
      | none =>
        cases args[1]? with
        | none => rfl
        | some arg => exact run_value D arg
    | null | bool b | num m scale | arr items | obj fields => rfl
  case cond => exact if_congr Iff.rfl rfl (run_ifBody D args)
  case not =>
    cases args with
    | nil => rfl
    | cons arg rest =>
      simp only [notBody, Body.run_ask, List.map_cons, Body.run_ret]
      cases D arg with
      | error e => rfl
      | ok v =>
        exact congrArg (fun b => Except.ok (Json.bool (if op = "!" then !v.truthy else b)))
          (Bool.not_not v.truthy).symm
  case compare =>
    rcases args with _ | ⟨a, _ | ⟨b, _ | ⟨c, rest⟩⟩⟩
    · rfl
    · rfl
    · simp only [binaryBody, Body.run_ask, Body.run_lift, List.map_cons, List.map_nil]
    · rfl
  case contains =>
    rcases args with _ | ⟨a, _ | ⟨b, _ | ⟨c, rest⟩⟩⟩
    · rfl
    · rfl
    · simp only [binaryBody, Body.run_ask, Body.run_lift, List.map_cons, List.map_nil]
      rfl
    · rfl
  case some =>
    rcases args with _ | ⟨a, _ | ⟨b, _ | ⟨c, rest⟩⟩⟩
    · rfl
    · rfl
    · simp only [missingSomeBody, Body.run_ask, Body.run_bind, Body.run_lift, List.map_cons,
        List.map_nil]
      rfl
    · rfl
  case cat => exact hvalues fun vs => .ok (.str (String.join (vs.map Json.text)))
  case merge => exact hvalues fun vs => .ok (.arr (vs.flatMap mergeItems))

end Run

/-! ## Levels -/

/-- The rules that a rule can ask for. -/
def subrules : Json → List Json
  | .arr items => items
  | .obj [(_, raw)] => operands raw
  | _ => []

mutual

/-- The levels of rules. -/
def levels : Json → ℕ
  | .arr items => levelsAll items + 1
  | .obj fields => levelsNode fields + 1
  | _ => 1

/-- The levels of the arguments of a node. -/
def levelsNode : List (String × Json) → ℕ
  | [] => 0
  | (_, .arr args) :: rest => max (levelsAll args) (levelsNode rest)
  | (_, arg) :: rest => max (levels arg) (levelsNode rest)

/-- The most levels of a list of rules. -/
def levelsAll : List Json → ℕ
  | [] => 0
  | rule :: rules => max (levels rule) (levelsAll rules)

end

theorem levels_le_all {rule : Json} {rules : List Json} (h : rule ∈ rules) :
    levels rule ≤ levelsAll rules := by
  induction rules with
  | nil => cases h
  | cons r rules ih =>
    rw [levelsAll]
    rcases List.mem_cons.1 h with rfl | h
    · exact le_max_left _ _
    · exact (ih h).trans (le_max_right _ _)

theorem levelsNode_single (op : String) (raw : Json) :
    levelsNode [(op, raw)] = levelsAll (operands raw) := by
  cases raw <;> simp [levelsNode, levelsAll, operands]

theorem levels_subrule {a rule : Json} (h : a ∈ subrules rule) : levels a < levels rule := by
  cases rule with
  | arr items =>
    have := levels_le_all (show a ∈ items from h)
    rw [levels]
    omega
  | obj fields =>
    rcases fields with _ | ⟨⟨op, raw⟩, _ | ⟨_, rest⟩⟩
    · cases h
    · have := levels_le_all (show a ∈ operands raw from h)
      rw [levels, levelsNode_single]
      omega
    · cases h
  | null | bool b | str s | num m scale => cases h

/-- The cases of an operator. -/
theorem operatorBody_cases {motive : RuleBody Json → Prop} {ctx : Context} {op : String}
    {args : List Json} (var : op = "var" → motive (varBody ctx args))
    (few : (op = "if" ∨ op = "?:") → args.length < 2 → motive refuse)
    (cond : (op = "if" ∨ op = "?:") → ¬ args.length < 2 → motive (ifBody args))
    (conj : op = "and" → motive (andBody .null args))
    (disj : op = "or" → motive (orBody .null args))
    (neg : (op = "!" ∨ op = "!!") → motive (notBody op args))
    (compare : op ∈ comparisons → motive (binaryBody (compareValues op) args))
    (member : op = "in" → motive (binaryBody contains args))
    (lost : op = "missing" → motive (.lift ((missing ctx args).map .arr)))
    (some : op = "missing_some" → motive (missingSomeBody ctx args))
    (arith : op ∈ calculations → motive ((Body.values args).bind fun vs => .lift (calculate op vs)))
    (cat : op = "cat" →
      motive ((Body.values args).bind fun vs => .ret (.str (String.join (vs.map Json.text)))))
    (merge : op = "merge" →
      motive ((Body.values args).bind fun vs => .ret (.arr (vs.flatMap mergeItems))))
    (unknown : motive refuse) : motive (operatorBody ctx op args) := by
  unfold operatorBody
  refine iteInduction var fun _ => iteInduction (fun h => iteInduction (few h) (cond h)) fun _ =>
    iteInduction conj fun _ => iteInduction disj fun _ => iteInduction neg fun _ =>
    iteInduction compare fun _ => iteInduction member fun _ => iteInduction lost fun _ =>
    iteInduction some fun _ => iteInduction arith fun _ => iteInduction cat fun _ => ?_
  exact iteInduction merge fun _ => unknown

/-- An operator asks for its arguments only. -/
theorem mentions_operatorBody (ctx : Context) (op : String) (args : List Json) :
    (operatorBody ctx op args).Mentions (· ∈ args) := by
  have hvalues : ∀ f : List Json → RuleBody Json, (∀ vs, (f vs).Mentions (· ∈ args)) →
      ((Body.values args).bind f).Mentions (· ∈ args) :=
    fun f hf => Body.mentions_bind (Body.mentions_values fun _ h => h) hf
  have hbinary : ∀ f, (binaryBody f args).Mentions (· ∈ args) := by
    intro f
    rcases args with _ | ⟨a, _ | ⟨b, _ | ⟨c, rest⟩⟩⟩
    · trivial
    · trivial
    · exact ⟨by simp, fun _ => ⟨by simp, fun _ => Body.mentions_lift _⟩⟩
    · trivial
  refine operatorBody_cases ?_ (fun _ _ => trivial) ?_ ?_ ?_ ?_ (fun _ => hbinary _)
    (fun _ => hbinary _) (fun _ => Body.mentions_lift _) ?_
    (fun _ => hvalues _ fun _ => Body.mentions_lift _) (fun _ => hvalues _ fun _ => trivial)
    (fun _ => hvalues _ fun _ => trivial) trivial
  · intro _
    unfold varBody
    split
    · split
      · trivial
      · cases harg : args[1]? with
        | none => trivial
        | some arg => exact ⟨List.mem_of_getElem? harg, fun _ => trivial⟩
    · trivial
  · intro _ _
    have h : ∀ l, (∀ a ∈ l, a ∈ args) → (ifBody l).Mentions (· ∈ args) := by
      intro l
      induction l using ifBody.induct with
      | case1 => exact fun _ => trivial
      | case2 last => exact fun h => ⟨h last (by simp), fun _ => trivial⟩
      | case3 condition value rest ih =>
        refine fun h => ⟨h condition (by simp), fun c => Body.mentions_ite ?_ ?_⟩
        · exact ⟨h value (by simp), fun _ => trivial⟩
        · exact ih fun a ha => h a (by simp [ha])
    exact h args fun _ ha => ha
  · intro _
    have h : ∀ l r, (∀ a ∈ l, a ∈ args) → (andBody r l).Mentions (· ∈ args) := by
      intro l
      induction l with
      | nil => exact fun _ _ => trivial
      | cons a rest ih =>
        refine fun r h => ⟨h a (by simp), fun v => Body.mentions_ite ?_ trivial⟩
        exact ih v fun b hb => h b (by simp [hb])
    exact h args .null fun _ ha => ha
  · intro _
    have h : ∀ l r, (∀ a ∈ l, a ∈ args) → (orBody r l).Mentions (· ∈ args) := by
      intro l
      induction l with
      | nil => exact fun _ _ => trivial
      | cons a rest ih =>
        refine fun r h => ⟨h a (by simp), fun v => Body.mentions_ite trivial ?_⟩
        exact ih v fun b hb => h b (by simp [hb])
    exact h args .null fun _ ha => ha
  · intro _
    cases args with
    | nil => trivial
    | cons a rest => exact ⟨by simp, fun _ => trivial⟩
  · intro _
    rcases args with _ | ⟨a, _ | ⟨b, _ | ⟨c, rest⟩⟩⟩
    · trivial
    · trivial
    · refine ⟨by simp, fun m => Body.mentions_bind (Body.mentions_lift _) fun n => ?_⟩
      exact ⟨by simp, fun _ => Body.mentions_lift _⟩
    · trivial

theorem mentions_ruleBody (ctx : Context) (rule : Json) :
    (ruleBody ctx rule).Mentions (· ∈ subrules rule) := by
  cases rule with
  | arr items => exact Body.mentions_bind (Body.mentions_values fun _ h => h) fun _ => trivial
  | obj fields =>
    rcases fields with _ | ⟨⟨op, raw⟩, _ | ⟨_, rest⟩⟩
    · trivial
    · exact mentions_operatorBody ctx op (operands raw)
    · trivial
  | num m scale =>
    by_cases h : scale = 0
    · simp only [ruleBody, if_pos h]
      trivial
    · simp only [ruleBody, if_neg h]
      trivial
  | null | bool b | str s => trivial

theorem jsonlogicAll_eq (ctx : Context) (rules : List Json) :
    jsonlogicAll ctx rules = rules.map (jsonlogic ctx) := by
  induction rules with
  | nil => rfl
  | cons rule rules ih => rw [jsonlogicAll, ih, List.map_cons]

theorem jsonlogicNode_many (ctx : Context) (e e' : String × Json) (rest : List (String × Json)) :
    jsonlogicNode ctx (e :: e' :: rest) = .error .refused := by
  obtain ⟨op, raw⟩ := e
  cases raw <;> rfl

/-- The evaluator of the gate, one rule at a time. -/
theorem run_ruleBody (ctx : Context) (rule : Json) :
    (ruleBody ctx rule).run (jsonlogic ctx) = jsonlogic ctx rule := by
  cases rule with
  | arr items =>
    rw [jsonlogic, jsonlogicAll_eq, List.mapM_map]
    simp only [ruleBody, Body.run_bind, Body.run_values, Body.run_ret]
    change _ = Except.map Json.arr (items.mapM (jsonlogic ctx))
    cases items.mapM (jsonlogic ctx) <;> rfl
  | obj fields =>
    rcases fields with _ | ⟨⟨op, raw⟩, _ | ⟨_, rest⟩⟩
    · simp only [jsonlogic, jsonlogicNode]
      rfl
    · rw [jsonlogic, ruleBody, run_operatorBody]
      cases raw with
      | arr args => rw [jsonlogicNode, jsonlogicAll_eq, operands]
      | null | bool b | str s | num m scale | obj fields => simp [jsonlogicNode, operands]
    · rw [jsonlogic, jsonlogicNode_many]
      rfl
  | num m scale =>
    rw [jsonlogic]
    by_cases h : scale = 0
    · simp only [ruleBody, if_pos h, Body.run_ret]
    · simp only [ruleBody, if_neg h]
      rfl
  | null | bool b | str s => simp only [jsonlogic, ruleBody, Body.run_ret]

/-- **With room for its levels, a rule evaluates as in the gate.** -/
theorem jsonlogicAt_eq (ctx : Context) {room : ℕ} {rule : Json} (h : levels rule ≤ room) :
    jsonlogicAt ctx room rule = jsonlogic ctx rule := by
  unfold jsonlogicAt
  induction room generalizing rule with
  | zero =>
    have hpos : 0 < levels rule := by cases rule <;> simp [levels]
    omega
  | succ n ih =>
    rw [Rules.evaluate, ← run_ruleBody]
    refine Body.run_congr (fun a ha => ih ?_) (mentions_ruleBody ctx rule)
    have := levels_subrule ha
    omega

theorem evaluateConditionsAt_eq {room : ℕ} {conditions : Json} (h : levels conditions ≤ room)
    (offer : Option Fields) (now : String) :
    evaluateConditionsAt room conditions offer (some now) =
      evaluateConditions conditions offer now := by
  unfold evaluateConditionsAt evaluateConditions
  cases offer with
  | none => rfl
  | some offer =>
    have hread := jsonlogicAt_eq ⟨offer, now⟩ h
    cases hvalue : jsonlogic ⟨offer, now⟩ conditions with
    | ok value => simp only [hread, hvalue]
    | error x =>
      cases x with
      | refused => simp only [hread, hvalue]
      | other => simp only [hread, hvalue]

end Policy

end TryTrust
