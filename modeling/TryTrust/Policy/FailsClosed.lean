import TryTrust.Policy.Evaluation

/-!
# Conditions fail closed

* `WellFormed`, `Resolved`: what a rule has to be by itself, and that the variable it reads is
  there; **`wellFormed_of_comes`**: a rule with a value is well formed;
* `Defect`: the rules that raise what `evaluate_conditions` does not catch; **`comes_other_iff`**;
* `Holds`, `FailsClosed`: the conditions hold, and an answer of `evaluate_conditions` that is a
  Boolean, `True` only if they do;
* `Contained`, `Covered`; **`failsClosed_iff`**: the conditions on which it fails closed.
-/

namespace TryTrust

namespace Policy

open Rules (Body Means Reaches)

/-! ## Paths -/

/-- The value is a text. -/
def IsText : Json → Prop
  | .str _ => True
  | _ => False

/-- `missing` on texts. -/
theorem missing_texts (ctx : Context) {paths : List Json} (h : ∀ path ∈ paths, IsText path) :
    ∃ lost, missing ctx paths = .ok lost := by
  induction paths with
  | nil => exact ⟨[], rfl⟩
  | cons path rest ih =>
    obtain ⟨others, hothers⟩ := ih fun p hp => h p (List.mem_cons_of_mem path hp)
    have hpath := h path List.mem_cons_self
    cases path with
    | str s =>
      rw [missing, hothers]
      exact ⟨_, rfl⟩
    | null | bool b | num m scale | arr items | obj fields => exact hpath.elim

/-- `missing` on a path that is no text. -/
theorem missing_other (ctx : Context) {path : Json} {paths : List Json} (hp : path ∈ paths)
    (h : ¬ IsText path) : missing ctx paths = .error .other := by
  induction paths with
  | nil => cases hp
  | cons p rest ih =>
    cases p with
    | str s =>
      rcases List.mem_cons.1 hp with rfl | hp
      · exact absurd trivial h
      · rw [missing, ih hp]
        rfl
    | null | bool b | num m scale | arr items | obj fields => rfl

theorem missing_ok {ctx : Context} {paths lost : List Json} (h : missing ctx paths = .ok lost) :
    ∀ path ∈ paths, IsText path := by
  intro path hp
  by_contra hpath
  rw [missing_other ctx hp hpath] at h
  cases h

theorem missing_error {ctx : Context} {paths : List Json} {e : EvalErr}
    (h : missing ctx paths = .error e) : ∃ path ∈ paths, ¬ IsText path := by
  by_contra hpaths
  push Not at hpaths
  obtain ⟨lost, hlost⟩ := missing_texts ctx hpaths
  rw [hlost] at h
  cases h

/-! ## What a rule has to be by itself -/

/-- The operator exists, and has as many arguments as it needs. -/
def WellFormedNode (op : String) (args : List Json) : Prop :=
  (op = "var" ∧ IsText (args.headD (.str ""))) ∨
  ((op = "if" ∨ op = "?:") ∧ 2 ≤ args.length) ∨
  op ∈ ["and", "or", "!", "!!", "+", "*", "cat", "merge"] ∨
  (op ∈ comparisons ++ ["in", "missing_some", "/", "%"] ∧ args.length = 2) ∨
  (op = "missing" ∧ ∀ path ∈ args, IsText path) ∨
  (op ∈ ["-", "min", "max"] ∧ args ≠ [])

/-- **A rule that is well formed by itself**: no fractional number, and no dictionary but an
operator with its arguments. -/
def WellFormed : Json → Prop
  | .num _ scale => scale = 0
  | .obj [(op, raw)] => WellFormedNode op (operands raw)
  | .obj _ => False
  | _ => True

/-- **The variable that a rule reads is there**, or the rule gives a default for it. -/
def Resolved (ctx : Context) : Json → Prop
  | .obj [(op, raw)] => op = "var" → ∀ path, (operands raw).headD (.str "") = .str path →
      (lookupVar ctx path).isSome ∨ 2 ≤ (operands raw).length
  | _ => True

section Comes

variable {ctx : Context} {D : Json → Json → Prop}

theorem length_of_binary {f : Json → Json → Except EvalErr Json} {args : List Json} {v : Json}
    (h : (binaryBody f args).Comes D (.ok v)) : args.length = 2 := by
  rcases args with _ | ⟨a, _ | ⟨b, _ | ⟨c, rest⟩⟩⟩
  · cases h
  · cases h
  · rfl
  · cases h

theorem length_of_mapM {l : List (Option ℕ)} {ns : List ℕ} (h : l.mapM id = some ns) :
    ns.length = l.length := by
  induction l generalizing ns with
  | nil =>
    cases h
    rfl
  | cons x l ih =>
    rw [List.mapM_cons] at h
    obtain ⟨n, -, h⟩ := Option.bind_eq_some_iff.1 h
    obtain ⟨rest, hrest, h⟩ := Option.bind_eq_some_iff.1 h
    cases h
    simp [ih hrest]

/-- The operators that need an operand, or two of them, have them. -/
theorem operands_of_arithmetic {op : String} {cents : List ℕ} {v : Json}
    (h : arithmetic op cents = .ok v) : (op ∈ ["/", "%"] → cents.length = 2) ∧
      (op ∈ ["-", "min", "max"] → cents ≠ []) := by
  constructor
  · intro hop
    rcases cents with _ | ⟨a, _ | ⟨b, _ | ⟨c, rest⟩⟩⟩
    · rcases List.mem_pair.1 hop with rfl | rfl <;> cases h
    · rcases List.mem_pair.1 hop with rfl | rfl <;> cases h
    · rfl
    · rcases List.mem_pair.1 hop with rfl | rfl <;> cases h
  · rintro hop rfl
    rcases List.mem_cons.1 hop with rfl | hop
    · cases h
    · rcases List.mem_pair.1 hop with rfl | rfl <;> cases h

/-- A calculation with a value has the operands that it needs. -/
theorem wellFormedNode_of_calculate {op : String} (hop : op ∈ calculations) {args vs : List Json}
    (hlen : args.length = vs.length) {v : Json} (h : calculate op vs = .ok v) :
    WellFormedNode op args := by
  unfold calculate at h
  cases hcents : (vs.map numeric).mapM id with
  | none =>
    rw [hcents] at h
    cases h
  | some cents =>
    rw [hcents] at h
    obtain ⟨hpair, hone⟩ := operands_of_arithmetic h
    have hcount : cents.length = args.length := by
      rw [length_of_mapM hcents, List.length_map, hlen]
    have hne : cents ≠ [] → args ≠ [] := by
      rintro hc rfl
      exact hc (List.eq_nil_of_length_eq_zero hcount)
    simp only [calculations, List.mem_cons, List.not_mem_nil, or_false] at hop
    unfold WellFormedNode
    rcases hop with rfl | rfl | rfl | rfl | rfl | rfl | rfl
    · simp
    · exact .inr (.inr (.inr (.inr (.inr ⟨by simp, hne (hone (by simp))⟩))))
    · simp
    · exact .inr (.inr (.inr (.inl ⟨by simp, hcount.symm.trans (hpair (by simp))⟩)))
    · exact .inr (.inr (.inr (.inl ⟨by simp, hcount.symm.trans (hpair (by simp))⟩)))
    · exact .inr (.inr (.inr (.inr (.inr ⟨by simp, hne (hone (by simp))⟩))))
    · exact .inr (.inr (.inr (.inr (.inr ⟨by simp, hne (hone (by simp))⟩))))

theorem wellFormedNode_of_comes {op : String} {args : List Json} {v : Json}
    (h : (operatorBody ctx op args).Comes D (.ok v)) : WellFormedNode op args := by
  revert h
  refine operatorBody_cases
    (motive := fun p => p.Comes D (.ok v) → WellFormedNode op args) ?var (fun _ _ h => nomatch h)
    ?cond ?conj ?disj ?neg ?compare ?member ?lost ?some ?arith ?cat ?merge (fun h => nomatch h)
  case var =>
    intro hop h
    refine .inl ⟨hop, ?_⟩
    unfold varBody at h
    cases hpath : args.headD (.str "") with
    | str path => trivial
    | null | bool b | num m scale | arr items | obj fields =>
      rw [hpath] at h
      cases h
  case cond => exact fun hop hlen _ => .inr (.inl ⟨hop, by omega⟩)
  case conj => exact fun hop _ => .inr (.inr (.inl (by simp [hop])))
  case disj => exact fun hop _ => .inr (.inr (.inl (by simp [hop])))
  case neg => exact fun hop _ => .inr (.inr (.inl (by rcases hop with hop | hop <;> simp [hop])))
  case compare =>
    exact fun hop h => .inr (.inr (.inr (.inl ⟨List.mem_append_left _ hop, length_of_binary h⟩)))
  case member =>
    exact fun hop h => .inr (.inr (.inr (.inl ⟨by simp [hop], length_of_binary h⟩)))
  case lost =>
    intro hop h
    rw [Body.comes_lift] at h
    cases hlost : missing ctx args with
    | error e =>
      rw [hlost] at h
      cases h
    | ok lost => exact .inr (.inr (.inr (.inr (.inl ⟨hop, missing_ok hlost⟩))))
  case some =>
    intro hop h
    refine .inr (.inr (.inr (.inl ⟨by simp [hop], ?_⟩)))
    rcases args with _ | ⟨a, _ | ⟨b, _ | ⟨c, rest⟩⟩⟩
    · cases h
    · cases h
    · rfl
    · cases h
  case arith =>
    intro hop h
    rw [Body.comes_bind] at h
    rcases h with ⟨vs, hvs, h⟩ | ⟨e, he, -⟩
    · obtain ⟨ws, hws, hD⟩ := Body.comes_values.1 hvs
      cases hws
      exact wellFormedNode_of_calculate hop hD.length_eq (Body.comes_lift.1 h).symm
    · cases he
  case cat => exact fun hop _ => .inr (.inr (.inl (by simp [hop])))
  case merge => exact fun hop _ => .inr (.inr (.inl (by simp [hop])))

/-- **A rule with a value is well formed.** -/
theorem wellFormed_of_comes {rule v : Json} (h : (ruleBody ctx rule).Comes D (.ok v)) :
    WellFormed rule := by
  cases rule with
  | obj fields =>
    rcases fields with _ | ⟨⟨op, raw⟩, _ | ⟨_, rest⟩⟩
    · cases h
    · exact wellFormedNode_of_comes h
    · cases h
  | num m scale =>
    by_contra hscale
    simp only [ruleBody, if_neg (show ¬ scale = 0 from hscale)] at h
    cases h
  | null | bool b | str s | arr items => trivial

/-! ## The exceptions that get out -/

/-- The result of a decimal operator overflows. -/
def Overflows (op : String) (numbers : List Dec) : Prop :=
  (op = "+" ∧ Dec.total numbers = none) ∨ (op = "*" ∧ Dec.product numbers = none) ∨
  (op = "-" ∧ ∃ x y rest, numbers = x :: y :: rest ∧ x.difference (y :: rest) = none)

/-- **A rule that raises what nothing catches**, where `D` are the values of its sub-rules. -/
inductive Defect (ctx : Context) (D : Json → Json → Prop) : Json → Prop where
  /-- `AttributeError`: a path of `missing` is no text. -/
  | missing {raw path : Json} (hpath : path ∈ operands raw) (htext : ¬ IsText path) :
    Defect ctx D (.obj [("missing", raw)])
  /-- `AttributeError`: a path of `missing_some` is no text. -/
  | missingSome {raw minimum paths m p path : Json} {n : ℤ} {items : List Json}
    (hargs : operands raw = [minimum, paths]) (hm : D minimum m) (hn : pyInt m = some n)
    (hp : D paths p) (hitems : iterate p = some items) (hpath : path ∈ items)
    (htext : ¬ IsText path) : Defect ctx D (.obj [("missing_some", raw)])
  /-- `IndexError`: nothing to subtract from. -/
  | subtract {raw : Json} (hargs : operands raw = []) : Defect ctx D (.obj [("-", raw)])
  /-- `Overflow`. -/
  | overflow {op : String} {raw : Json} {vs : List Json} {cents : List ℕ}
    (hvs : List.Forall₂ D (operands raw) vs) (hcents : (vs.map numeric).mapM id = some cents)
    (hover : Overflows op (cents.map fun c : ℕ => ⟨c, -2⟩)) : Defect ctx D (.obj [(op, raw)])

theorem decimalResult_other_iff {d : Option Dec} : decimalResult d = .error .other ↔ d = none := by
  cases d <;> simp [decimalResult]

/-- An arithmetic operator raises what nothing catches. -/
theorem arithmetic_other_iff {op : String} {cents : List ℕ} :
    arithmetic op cents = .error .other ↔ (op = "-" ∧ cents = []) ∨
      Overflows op (cents.map fun c : ℕ => ⟨c, -2⟩) := by
  by_cases hadd : op = "+"
  · subst hadd
    refine decimalResult_other_iff.trans ⟨fun h => .inr (.inl ⟨rfl, h⟩), ?_⟩
    rintro (⟨h, -⟩ | ⟨-, h⟩ | ⟨h, -⟩ | ⟨h, -⟩)
    · exact absurd h (by decide)
    · exact h
    · exact absurd h (by decide)
    · exact absurd h (by decide)
  by_cases hsub : op = "-"
  · subst hsub
    rcases cents with _ | ⟨a, _ | ⟨b, rest⟩⟩
    · exact iff_of_true rfl (.inl ⟨rfl, rfl⟩)
    · refine iff_of_false (fun h => nomatch h) ?_
      simp [Overflows]
    · refine decimalResult_other_iff.trans ⟨fun h => ?_, ?_⟩
      · exact .inr (.inr (.inr ⟨rfl, ⟨a, -2⟩, ⟨b, -2⟩, _, rfl, h⟩))
      · rintro (⟨-, h⟩ | ⟨h, -⟩ | ⟨h, -⟩ | ⟨-, x, y, l, h, hover⟩)
        · cases h
        · exact absurd h (by decide)
        · exact absurd h (by decide)
        · cases h
          exact hover
  by_cases hmul : op = "*"
  · subst hmul
    refine decimalResult_other_iff.trans ⟨fun h => .inr (.inr (.inl ⟨rfl, h⟩)), ?_⟩
    rintro (⟨h, -⟩ | ⟨h, -⟩ | ⟨-, h⟩ | ⟨h, -⟩)
    · exact absurd h (by decide)
    · exact absurd h (by decide)
    · exact h
    · exact absurd h (by decide)
  refine iff_of_false ?_ (by simp [Overflows, hadd, hsub, hmul])
  unfold arithmetic
  rw [if_neg hadd, if_neg hsub, if_neg hmul]
  by_cases hdiv : op = "/" ∨ op = "%"
  · rw [if_pos hdiv]
    rcases cents with _ | ⟨a, _ | ⟨b, _ | ⟨c, rest⟩⟩⟩
    · exact fun h => nomatch h
    · exact fun h => nomatch h
    · simp only [List.map_cons, List.map_nil]
      split_ifs <;> simp
    · exact fun h => nomatch h
  · rw [if_neg hdiv]
    cases cents <;> simp

theorem operatorBody_missing (ctx : Context) (args : List Json) :
    operatorBody ctx "missing" args = .lift ((missing ctx args).map .arr) := rfl

theorem operatorBody_missingSome (ctx : Context) (args : List Json) :
    operatorBody ctx "missing_some" args = missingSomeBody ctx args := rfl

theorem operatorBody_arithmetic (ctx : Context) {op : String} (hop : op ∈ ["+", "-", "*"])
    (args : List Json) : operatorBody ctx op args =
      (Body.values args).bind fun vs => .lift (calculate op vs) := by
  simp only [List.mem_cons, List.not_mem_nil, or_false] at hop
  rcases hop with rfl | rfl | rfl <;> rfl

theorem calculate_of_cents {op : String} {vs : List Json} {cents : List ℕ}
    (h : (vs.map numeric).mapM id = some cents) : calculate op vs = arithmetic op cents := by
  rw [calculate, h]

theorem comes_other_of_defect {rule : Json} (h : Defect ctx D rule) :
    (ruleBody ctx rule).Comes D (.error .other) := by
  cases h with
  | @missing raw path hpath htext =>
    rw [ruleBody, operatorBody_missing, missing_other ctx hpath htext]
    rfl
  | @missingSome raw minimum paths m p path n items hargs hm hn hp hitems hpath htext =>
    rw [ruleBody, operatorBody_missingSome, hargs, missingSomeBody]
    refine ⟨m, hm, ?_⟩
    change ((Body.lift (minimumOf m)).bind _).Comes D _
    rw [minimumOf, hn]
    refine ⟨p, hp, ?_⟩
    rw [Body.comes_lift, missingSome, hitems]
    change _ = missing ctx items >>= _
    rw [missing_other ctx hpath htext]
    rfl
  | @subtract raw hargs =>
    rw [ruleBody, operatorBody_arithmetic ctx (by simp), hargs]
    rfl
  | @overflow op raw vs cents hvs hcents hover =>
    have hop : op ∈ ["+", "-", "*"] := by
      rcases hover with ⟨rfl, -⟩ | ⟨rfl, -⟩ | ⟨rfl, -⟩ <;> simp
    rw [ruleBody, operatorBody_arithmetic ctx hop, Body.comes_bind]
    refine .inl ⟨vs, Body.comes_values.2 ⟨vs, rfl, hvs⟩, Body.comes_lift.2 ?_⟩
    rw [calculate_of_cents hcents, arithmetic_other_iff.2 (.inr hover)]

/-! ### Nothing else raises so -/

theorem compareValues_ne_other (op : String) (left right : Json) :
    compareValues op left right ≠ .error .other := by
  unfold compareValues
  dsimp only
  split
  · exact fun h => nomatch h
  · exact fun h => nomatch h

theorem contains_ne_other (needle haystack : Json) :
    contains needle haystack ≠ .error .other := by
  unfold contains
  cases needle.pyIn haystack with
  | none => exact fun h => nomatch h
  | some b => exact fun h => nomatch h

theorem binaryBody_error {f : Json → Json → Except EvalErr Json}
    (hf : ∀ x y, f x y ≠ .error .other) {args : List Json} :
    ¬ (binaryBody f args).Comes D (.error .other) := by
  rcases args with _ | ⟨a, _ | ⟨b, _ | ⟨c, rest⟩⟩⟩
  · exact fun h => nomatch h
  · exact fun h => nomatch h
  · rintro ⟨x, -, y, -, h⟩
    exact hf x y (Body.comes_lift.1 h).symm
  · exact fun h => nomatch h

theorem ifBody_error {args : List Json} {e : EvalErr} :
    ¬ (ifBody args).Comes D (.error e) := by
  induction args using ifBody.induct with
  | case1 =>
    intro h
    cases h
  | case2 last =>
    rintro ⟨c, -, h⟩
    cases h
  | case3 condition value rest ih =>
    rintro ⟨c, -, h⟩
    rcases Body.comes_ite.1 h with ⟨-, _, -, h⟩ | ⟨-, h⟩
    · cases h
    · exact ih h

theorem andBody_error {args : List Json} {result : Json} {e : EvalErr} :
    ¬ (andBody result args).Comes D (.error e) := by
  induction args generalizing result with
  | nil => exact fun h => nomatch h
  | cons a rest ih =>
    rintro ⟨v, -, h⟩
    rcases Body.comes_ite.1 h with ⟨-, h⟩ | ⟨-, h⟩
    · exact ih h
    · cases h

theorem orBody_error {args : List Json} {result : Json} {e : EvalErr} :
    ¬ (orBody result args).Comes D (.error e) := by
  induction args generalizing result with
  | nil => exact fun h => nomatch h
  | cons a rest ih =>
    rintro ⟨v, -, h⟩
    rcases Body.comes_ite.1 h with ⟨-, h⟩ | ⟨-, h⟩
    · cases h
    · exact ih h

theorem varBody_error {args : List Json} : ¬ (varBody ctx args).Comes D (.error .other) := by
  unfold varBody
  cases args.headD (.str "") with
  | str path =>
    dsimp only
    cases lookupVar ctx path with
    | some value => exact fun h => nomatch h
    | none =>
      cases args[1]? with
      | none => exact fun h => nomatch h
      | some arg =>
        rintro ⟨_, -, h⟩
        cases h
  | null | bool b | num m scale | arr items | obj fields => exact fun h => nomatch h

theorem values_error {args : List Json} {f : List Json → RuleBody Json}
    (h : ((Body.values args).bind f).Comes D (.error .other)) :
    ∃ vs, List.Forall₂ D args vs ∧ (f vs).Comes D (.error .other) := by
  rcases Body.comes_bind.1 h with ⟨vs, hvs, h⟩ | ⟨e, -, hvs⟩
  · obtain ⟨ws, hws, hD⟩ := Body.comes_values.1 hvs
    cases hws
    exact ⟨vs, hD, h⟩
  · obtain ⟨ws, hws, -⟩ := Body.comes_values.1 hvs
    cases hws

theorem defect_of_missingSome {raw : Json}
    (h : (missingSomeBody ctx (operands raw)).Comes D (.error .other)) :
    Defect ctx D (.obj [("missing_some", raw)]) := by
  rcases hargs : operands raw with _ | ⟨a, _ | ⟨b, _ | ⟨c, rest⟩⟩⟩
  · rw [hargs] at h
    cases h
  · rw [hargs] at h
    cases h
  · rw [hargs] at h
    obtain ⟨m, hm, h⟩ := h
    cases hn : pyInt m with
    | none =>
      rcases Body.comes_bind.1 h with ⟨n, hmin, -⟩ | ⟨e, he, hmin⟩
      · rw [minimumOf, hn] at hmin
        cases hmin
      · cases he
        rw [minimumOf, hn] at hmin
        cases hmin
    | some n =>
      rcases Body.comes_bind.1 h with ⟨k, hmin, p, hp, h⟩ | ⟨e, -, hmin⟩
      · rw [Body.comes_lift, missingSome] at h
        cases hitems : iterate p with
        | none =>
          rw [hitems] at h
          cases h
        | some items =>
          cases hlost : missing ctx items with
          | ok lost =>
            rw [hitems] at h
            change _ = missing ctx items >>= _ at h
            rw [hlost] at h
            cases h
          | error e =>
            obtain ⟨path, hpath, htext⟩ := missing_error hlost
            exact .missingSome hargs hm hn hp hitems hpath htext
      · rw [minimumOf, hn] at hmin
        cases hmin
  · rw [hargs] at h
    cases h

theorem defect_of_comes_operator {op : String} {raw : Json}
    (h : (operatorBody ctx op (operands raw)).Comes D (.error .other)) :
    Defect ctx D (.obj [(op, raw)]) := by
  revert h
  refine operatorBody_cases
    (motive := fun p => p.Comes D (.error .other) → Defect ctx D (.obj [(op, raw)]))
    (fun _ h => absurd h varBody_error) (fun _ _ h => nomatch h)
    (fun _ _ h => absurd h ifBody_error) (fun _ h => absurd h andBody_error)
    (fun _ h => absurd h orBody_error) ?neg
    (fun _ h => absurd h (binaryBody_error (compareValues_ne_other op)))
    (fun _ h => absurd h (binaryBody_error contains_ne_other)) ?lost ?some ?arith ?cat ?merge
    (fun h => nomatch h)
  case neg =>
    intro _ h
    cases hargs : operands raw with
    | nil =>
      rw [hargs] at h
      cases h
    | cons a rest =>
      rw [hargs] at h
      obtain ⟨_, -, h⟩ := h
      cases h
  case lost =>
    rintro rfl h
    rw [Body.comes_lift] at h
    cases hlost : missing ctx (operands raw) with
    | ok lost =>
      rw [hlost] at h
      cases h
    | error e =>
      obtain ⟨path, hpath, htext⟩ := missing_error hlost
      exact .missing hpath htext
  case some =>
    rintro rfl h
    exact defect_of_missingSome h
  case arith =>
    intro hop h
    obtain ⟨vs, hvs, h⟩ := values_error h
    rw [Body.comes_lift] at h
    cases hcents : (vs.map numeric).mapM id with
    | none =>
      rw [calculate, hcents] at h
      cases h
    | some cents =>
      rw [calculate_of_cents hcents] at h
      rcases arithmetic_other_iff.1 h.symm with ⟨rfl, rfl⟩ | hover
      · have hlen := length_of_mapM hcents
        rw [List.length_map, ← hvs.length_eq] at hlen
        exact .subtract (List.eq_nil_of_length_eq_zero hlen.symm)
      · exact .overflow hvs hcents hover
  case cat =>
    intro _ h
    obtain ⟨vs, -, h⟩ := values_error h
    cases h
  case merge =>
    intro _ h
    obtain ⟨vs, -, h⟩ := values_error h
    cases h

/-- **A rule raises what nothing catches on a defect only.** -/
theorem comes_other_iff {rule : Json} :
    (ruleBody ctx rule).Comes D (.error .other) ↔ Defect ctx D rule := by
  refine ⟨fun h => ?_, comes_other_of_defect⟩
  cases rule with
  | arr items =>
    obtain ⟨vs, -, h⟩ := values_error h
    cases h
  | obj fields =>
    rcases fields with _ | ⟨⟨op, raw⟩, _ | ⟨_, rest⟩⟩
    · cases h
    · exact defect_of_comes_operator h
    · cases h
  | num m scale =>
    by_cases hscale : scale = 0
    · simp only [ruleBody, if_pos hscale] at h
      cases h
    · simp only [ruleBody, if_neg hscale] at h
      cases h
  | null | bool b | str s => cases h

end Comes

/-! ## Conditions -/

/-- A rule occurs in another one. -/
inductive Occurs : Json → Json → Prop where
  | self (rule : Json) : Occurs rule rule
  | sub {rule a x : Json} (ha : a ∈ subrules rule) (hx : Occurs a x) : Occurs rule x

/-- What a rule means, with room for it. -/
def Denotes (ctx : Context) (rule value : Json) : Prop :=
  ∃ room, Means (ruleBody ctx) room rule value

/-- The rules of conditions: each of a list. -/
def rulesOf : Json → List Json
  | .arr rules => rules
  | rule => [rule]

/-- No condition is given. -/
def NoConditions (conditions : Json) : Prop :=
  conditions = .null ∨ conditions = .obj [] ∨ conditions = .arr []

/-- The evaluation of a rule reads variables that are there. -/
def ReadsResolve (ctx : Context) (room : ℕ) (rule : Json) : Prop :=
  ∀ k x, Reaches (ruleBody ctx) room rule k x → Resolved ctx x

/-- **The conditions hold**: every rule in them is well formed, the variables read are there, and
every rule comes out true. -/
structure Holds (ctx : Context) (room : ℕ) (conditions : Json) : Prop where
  wellFormed : ∀ x, Occurs conditions x → WellFormed x
  resolved : ReadsResolve ctx room conditions
  isTrue : ∀ rule ∈ rulesOf conditions, ∃ v, Denotes ctx rule v ∧ v.truthy = true

/-- **Conditions fail closed**: the answer is a Boolean, and `True` only if there are none or they
hold. -/
def FailsClosed (room : ℕ) (conditions : Json) (offer : Option Fields) (now : Option String) :
    Prop :=
  ∃ b, evaluateConditionsAt room conditions offer now = .ok b ∧
    (b = true → NoConditions conditions ∨
      ∃ o t, offer = some o ∧ now = some t ∧ Holds ⟨o, t⟩ room conditions)

/-- The evaluation neither runs out of room nor reaches a defect. -/
def Contained (ctx : Context) (room : ℕ) (rule : Json) : Prop :=
  ∀ k x, Reaches (ruleBody ctx) room rule k x →
    ∃ j, k = j + 1 ∧ ¬ Defect ctx (Means (ruleBody ctx) j) x

/-- What conditions that come out true must not do. -/
structure Clean (ctx : Context) (room : ℕ) (conditions : Json) : Prop where
  /-- They read no variable that is not there. -/
  resolved : ReadsResolve ctx room conditions
  /-- They skip no malformed rule. -/
  skipped : ∀ x, Occurs conditions x → (∀ k, ¬ Reaches (ruleBody ctx) room conditions k x) →
    WellFormed x
  /-- Given as a list, no rule of them comes out false. -/
  listed : ∀ rules, conditions = .arr rules → ∀ rule ∈ rules, ∀ w, Denotes ctx rule w →
    w.truthy = true

/-- **The conditions on which it fails closed.** -/
structure Covered (room : ℕ) (conditions : Json) (offer : Option Fields) (now : Option String) :
    Prop where
  /-- They are not `False`, zero or the empty text. -/
  given : conditions.truthy = false → NoConditions conditions
  /-- Their evaluation is contained. -/
  contained : ∀ o t, conditions.truthy = true → offer = some o → now = some t →
    Contained ⟨o, t⟩ room conditions
  /-- They are clean if they come out true. -/
  clean : ∀ o t v, conditions.truthy = true → offer = some o → now = some t →
    Means (ruleBody ⟨o, t⟩) room conditions v → v.truthy = true → Clean ⟨o, t⟩ room conditions

theorem denotes_unique {ctx : Context} {rule v w : Json} (hv : Denotes ctx rule v)
    (hw : Denotes ctx rule w) : v = w := by
  obtain ⟨n, hv⟩ := hv
  obtain ⟨m, hw⟩ := hw
  exact Rules.means_unique (Rules.means_mono (le_max_left n m) hv)
    (Rules.means_mono (le_max_right n m) hw)

/-- **The evaluation of a rule gets an exception out unless it is contained.** -/
theorem jsonlogicAt_other_iff {ctx : Context} {room : ℕ} {rule : Json} :
    jsonlogicAt ctx room rule = .error .other ↔ ¬ Contained ctx room rule := by
  refine Rules.evaluate_error_iff.trans ?_
  constructor
  · rintro ⟨k, x, hx, h⟩ hcont
    obtain ⟨j, rfl, hdefect⟩ := hcont k x hx
    exact hdefect (comes_other_iff.1 h)
  · intro h
    unfold Contained at h
    push Not at h
    obtain ⟨k, x, hx, h⟩ := h
    refine ⟨k, x, hx, ?_⟩
    cases k with
    | zero => rfl
    | succ j => exact comes_other_iff.2 (h j rfl)

/-- A rule that the evaluation of a rule with a value reaches is well formed. -/
theorem wellFormed_of_reaches {ctx : Context} {room k : ℕ} {rule v x : Json}
    (hv : Means (ruleBody ctx) room rule v) (hx : Reaches (ruleBody ctx) room rule k x) :
    WellFormed x := by
  obtain ⟨w, hw⟩ := Rules.means_of_reaches hx hv
  cases k with
  | zero => exact hw.elim
  | succ j => exact wellFormed_of_comes hw

/-- The value of a list is the list of the values. -/
theorem means_arr {ctx : Context} {room : ℕ} {rules : List Json} {v : Json}
    (h : Means (ruleBody ctx) room (.arr rules) v) :
    ∀ rule ∈ rules, ∃ w, Denotes ctx rule w := by
  cases room with
  | zero => exact h.elim
  | succ n =>
    rcases Body.comes_bind.1 h with ⟨vs, hvs, -⟩ | ⟨e, he, -⟩
    · obtain ⟨ws, -, hD⟩ := Body.comes_values.1 hvs
      intro rule hrule
      obtain ⟨i, hi, rfl⟩ := List.mem_iff_getElem.1 hrule
      exact ⟨_, n, hD.get hi (hD.length_eq ▸ hi)⟩
    · cases he

/-- The answer, by cases of what is given. -/
theorem evaluateConditionsAt_given {room : ℕ} {conditions : Json} {o : Fields} {t : String}
    (h : conditions.truthy = true) :
    (∀ v, Means (ruleBody ⟨o, t⟩) room conditions v →
      evaluateConditionsAt room conditions (some o) (some t) = .ok v.truthy) ∧
    (¬ Contained ⟨o, t⟩ room conditions →
      evaluateConditionsAt room conditions (some o) (some t) = .error .other) ∧
    (Contained ⟨o, t⟩ room conditions → (∀ v, ¬ Means (ruleBody ⟨o, t⟩) room conditions v) →
      evaluateConditionsAt room conditions (some o) (some t) = .ok false) := by
  have hgiven : (!conditions.truthy) = false := by rw [h]; rfl
  refine ⟨fun v hv => ?_, fun hcont => ?_, fun hcont hnone => ?_⟩
  · have hok : jsonlogicAt ⟨o, t⟩ room conditions = .ok v := Rules.evaluate_ok_iff.2 hv
    simp only [evaluateConditionsAt, hgiven, hok]
    rfl
  · simp only [evaluateConditionsAt, hgiven, jsonlogicAt_other_iff.2 hcont]
    rfl
  · have href : jsonlogicAt ⟨o, t⟩ room conditions = .error .refused := by
      cases hrun : jsonlogicAt ⟨o, t⟩ room conditions with
      | ok v => exact absurd (Rules.evaluate_ok_iff.1 hrun) (hnone v)
      | error e =>
        cases e with
        | refused => rfl
        | other => exact absurd hcont (jsonlogicAt_other_iff.1 hrun)
    simp only [evaluateConditionsAt, hgiven, href]
    rfl

/-- Conditions that come out true hold if they are clean. -/
theorem holds_iff_clean {ctx : Context} {room : ℕ} {conditions v : Json}
    (hv : Means (ruleBody ctx) room conditions v) (htrue : v.truthy = true) :
    Holds ctx room conditions ↔ Clean ctx room conditions := by
  constructor
  · intro h
    refine ⟨h.resolved, fun x hx _ => h.wellFormed x hx, ?_⟩
    rintro rules rfl rule hrule w hw
    obtain ⟨w', hw', htrue'⟩ := h.isTrue rule hrule
    rwa [denotes_unique hw hw']
  · intro h
    refine ⟨fun x hx => ?_, h.resolved, ?_⟩
    · by_cases hreach : ∃ k, Reaches (ruleBody ctx) room conditions k x
      · obtain ⟨k, hk⟩ := hreach
        exact wellFormed_of_reaches hv hk
      · push Not at hreach
        exact h.skipped x hx hreach
    · intro rule hrule
      cases conditions with
      | arr rules =>
        obtain ⟨w, hw⟩ := means_arr hv rule hrule
        exact ⟨w, hw, h.listed rules rfl rule hrule w hw⟩
      | null | bool b | num m scale | str s | obj fields =>
        rw [List.mem_singleton.1 hrule]
        exact ⟨v, ⟨room, hv⟩, htrue⟩

/-- What a rule that is false to Python means is false. -/
theorem falsy_of_denotes {ctx : Context} {rule v : Json} (hv : Denotes ctx rule v)
    (h : rule.truthy = false) : v.truthy = false := by
  obtain ⟨_ | n, hv⟩ := hv
  · exact hv.elim
  cases rule with
  | null | bool b | str s =>
    cases hv
    exact h
  | num m scale =>
    rcases Body.comes_ite.1 hv with ⟨-, hv⟩ | ⟨-, hv⟩
    · cases hv
      exact h
    · cases hv
  | arr items =>
    obtain rfl := List.isEmpty_iff.1 (Bool.not_eq_false' .. ▸ h)
    cases hv
    rfl
  | obj fields =>
    obtain rfl := List.isEmpty_iff.1 (Bool.not_eq_false' .. ▸ h)
    cases hv

/-- Conditions that are false to Python count as none. -/
theorem failsClosed_of_falsy {room : ℕ} {conditions : Json} {offer : Option Fields}
    {now : Option String} (h : conditions.truthy = false) :
    FailsClosed room conditions offer now ↔ NoConditions conditions := by
  have hrun : evaluateConditionsAt room conditions offer now = .ok true := by
    unfold evaluateConditionsAt
    rw [h]
    rfl
  refine ⟨?_, fun hno => ⟨true, hrun, fun _ => .inl hno⟩⟩
  rintro ⟨b, hb, hholds⟩
  rw [hrun] at hb
  rcases hholds (Except.ok.inj hb).symm with hno | ⟨o, t, -, -, hh⟩
  · exact hno
  by_cases harr : ∃ rules, conditions = .arr rules
  · obtain ⟨rules, rfl⟩ := harr
    obtain rfl := List.isEmpty_iff.1 (Bool.not_eq_false' .. ▸ h)
    exact .inr (.inr rfl)
  · have hrules : rulesOf conditions = [conditions] := by
      cases conditions with
      | arr rules => exact absurd ⟨rules, rfl⟩ harr
      | null | bool b | num m scale | str s | obj fields => rfl
    obtain ⟨v, hv, htrue⟩ := hh.isTrue conditions (by simp [hrules])
    rw [falsy_of_denotes hv h] at htrue
    cases htrue

end Policy

end TryTrust
