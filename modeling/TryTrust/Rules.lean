import Mathlib

/-!
# Evaluators of rules

A **body** says what a rule makes of its sub-rules: it asks for the value of one after the other,
and returns or raises. An exception of a sub-rule ends it.

* `Body`, its monad, `value`, `values`; `Body.run`, with `run_bind`, `run_congr`;
* `Comes`, `Asks`: how a body ends and what it asks, when sub-rules have certain values, with
  `comes_bind`, `asks_bind`; **`run_ok_iff`**, **`run_error_iff`**;
* `evaluate`: a rule evaluated to so many levels, below which it raises;
* `Means`, `Reaches`: what a rule means, and which rules its evaluation reaches;
  **`evaluate_ok_iff`**, **`evaluate_error_iff`**, **`means_of_reaches`**.
-/

namespace Rules

/-- What a rule makes of its sub-rules. -/
inductive Body (ρ ν ε α : Type) : Type where
  | ret (a : α)
  | raise (e : ε)
  | ask (rule : ρ) (next : ν → Body ρ ν ε α)

namespace Body

variable {ρ ν ε α β γ : Type}

/-- Sequencing; an exception skips what follows. -/
def bind (p : Body ρ ν ε α) (f : α → Body ρ ν ε β) : Body ρ ν ε β :=
  match p with
  | ret a => f a
  | raise e => raise e
  | ask rule next => ask rule fun v => (next v).bind f

instance : Monad (Body ρ ν ε) where
  pure := ret
  bind := bind

/-- The value of one rule. -/
def value (rule : ρ) : Body ρ ν ε ν := ask rule ret

/-- The values of rules, from left to right. -/
def values : List ρ → Body ρ ν ε (List ν)
  | [] => ret []
  | rule :: rules => (value rule).bind fun v => (values rules).bind fun vs => ret (v :: vs)

/-- A step that asks nothing. -/
def lift : Except ε α → Body ρ ν ε α
  | .ok a => ret a
  | .error e => raise e

theorem pure_eq (a : α) : (pure a : Body ρ ν ε α) = ret a := rfl

theorem bind_eq (p : Body ρ ν ε α) (f : α → Body ρ ν ε β) : p >>= f = p.bind f := rfl

@[simp] theorem ret_bind (a : α) (f : α → Body ρ ν ε β) : (ret a).bind f = f a := rfl

@[simp] theorem raise_bind (e : ε) (f : α → Body ρ ν ε β) : (raise e).bind f = raise e := rfl

@[simp] theorem ask_bind (rule : ρ) (next : ν → Body ρ ν ε α) (f : α → Body ρ ν ε β) :
    (ask rule next).bind f = ask rule fun v => (next v).bind f := rfl

@[simp] theorem value_bind (rule : ρ) (f : ν → Body ρ ν ε β) :
    (value rule).bind f = ask rule f := rfl

@[simp] theorem lift_ok (a : α) : (lift (.ok a) : Body ρ ν ε α) = ret a := rfl

@[simp] theorem lift_error (e : ε) : (lift (.error e) : Body ρ ν ε α) = raise e := rfl

/-! ## Runs -/

section Run

variable (D : ρ → Except ε ν)

/-- **The end of a body**, where `D` evaluates its sub-rules. -/
def run : Body ρ ν ε α → Except ε α
  | ret a => .ok a
  | raise e => .error e
  | ask rule next =>
    match D rule with
    | .ok v => (next v).run
    | .error e => .error e

@[simp] theorem run_ret (a : α) : (ret a : Body ρ ν ε α).run D = .ok a := rfl

@[simp] theorem run_raise (e : ε) : (raise e : Body ρ ν ε α).run D = .error e := rfl

@[simp] theorem run_lift (x : Except ε α) : (lift x : Body ρ ν ε α).run D = x := by
  cases x <;> rfl

@[simp] theorem run_ask (rule : ρ) (next : ν → Body ρ ν ε α) :
    (ask rule next).run D = D rule >>= fun v => (next v).run D := by
  simp only [run]
  cases D rule <;> rfl

theorem run_bind (p : Body ρ ν ε α) (f : α → Body ρ ν ε β) :
    (p.bind f).run D = p.run D >>= fun a => (f a).run D := by
  induction p with
  | ret a => rfl
  | raise e => rfl
  | ask rule next ih =>
    simp only [ask_bind, run_ask]
    cases D rule with
    | error e => rfl
    | ok v => exact ih v

theorem run_values (rules : List ρ) :
    (values rules : Body ρ ν ε (List ν)).run D = rules.mapM D := by
  induction rules with
  | nil => rfl
  | cons rule rules ih =>
    simp only [values, value_bind, run_ask, run_bind, run_ret, ih, List.mapM_cons]
    rfl

end Run

/-! ## The rules that a body mentions -/

/-- Every rule that the body can ask, whatever the answers, satisfies `φ`. -/
def Mentions (φ : ρ → Prop) : Body ρ ν ε α → Prop
  | ret _ => True
  | raise _ => True
  | ask rule next => φ rule ∧ ∀ v, (next v).Mentions φ

variable {φ : ρ → Prop}

theorem mentions_lift (x : Except ε α) : (lift x : Body ρ ν ε α).Mentions φ := by
  cases x <;> trivial

theorem mentions_bind {p : Body ρ ν ε α} {f : α → Body ρ ν ε β} (hp : p.Mentions φ)
    (hf : ∀ a, (f a).Mentions φ) : (p.bind f).Mentions φ := by
  induction p with
  | ret a => exact hf a
  | raise e => trivial
  | ask rule next ih => exact ⟨hp.1, fun v => ih v (hp.2 v)⟩

theorem mentions_values {rules : List ρ} (h : ∀ rule ∈ rules, φ rule) :
    (values rules : Body ρ ν ε (List ν)).Mentions φ := by
  induction rules with
  | nil => trivial
  | cons rule rules ih =>
    rw [values, value_bind]
    refine ⟨h rule List.mem_cons_self, fun v => mentions_bind ?_ fun _ => trivial⟩
    exact ih fun r hr => h r (List.mem_cons_of_mem rule hr)

theorem mentions_ite {c : Prop} [Decidable c] {p q : Body ρ ν ε α} (hp : p.Mentions φ)
    (hq : q.Mentions φ) : (if c then p else q).Mentions φ := by
  split_ifs
  · exact hp
  · exact hq

/-- Two ways to evaluate that agree on what a body mentions. -/
theorem run_congr {D D' : ρ → Except ε ν} (h : ∀ rule, φ rule → D rule = D' rule)
    {p : Body ρ ν ε α} (hp : p.Mentions φ) : p.run D = p.run D' := by
  induction p with
  | ret a => rfl
  | raise e => rfl
  | ask rule next ih =>
    simp only [run_ask, h rule hp.1]
    cases D' rule with
    | error e => rfl
    | ok v => exact ih v (hp.2 v)

/-! ## Ends and asked rules -/

section Comes

variable (D : ρ → ν → Prop)

/-- The body ends so, where its sub-rules have the values `D`. -/
def Comes : Body ρ ν ε α → Except ε α → Prop
  | ret a, r => r = .ok a
  | raise e, r => r = .error e
  | ask rule next, r => ∃ v, D rule v ∧ (next v).Comes r

/-- The body asks a rule, where the sub-rules before it have the values `D`. -/
def Asks : Body ρ ν ε α → ρ → Prop
  | ret _, _ => False
  | raise _, _ => False
  | ask rule next, x => x = rule ∨ ∃ v, D rule v ∧ (next v).Asks x

variable {D}

@[simp] theorem comes_ret {a : α} {r : Except ε α} :
    (ret a : Body ρ ν ε α).Comes D r ↔ r = .ok a := Iff.rfl

@[simp] theorem comes_raise {e : ε} {r : Except ε α} :
    (raise e : Body ρ ν ε α).Comes D r ↔ r = .error e := Iff.rfl

@[simp] theorem comes_ask {rule : ρ} {next : ν → Body ρ ν ε α} {r : Except ε α} :
    (ask rule next).Comes D r ↔ ∃ v, D rule v ∧ (next v).Comes D r := Iff.rfl

@[simp] theorem comes_lift {x r : Except ε α} :
    (lift x : Body ρ ν ε α).Comes D r ↔ r = x := by
  cases x <;> rfl

@[simp] theorem comes_value {rule : ρ} {r : Except ε ν} :
    (value rule : Body ρ ν ε ν).Comes D r ↔ ∃ v, D rule v ∧ r = .ok v := Iff.rfl

theorem comes_ite {c : Prop} [Decidable c] {p q : Body ρ ν ε α} {r : Except ε α} :
    (if c then p else q).Comes D r ↔ (c ∧ p.Comes D r) ∨ (¬ c ∧ q.Comes D r) := by
  split_ifs with hc <;> simp [hc]

theorem comes_bind {p : Body ρ ν ε α} {f : α → Body ρ ν ε β} {r : Except ε β} :
    (p.bind f).Comes D r ↔ (∃ a, p.Comes D (.ok a) ∧ (f a).Comes D r) ∨
      ∃ e, r = .error e ∧ p.Comes D (.error e) := by
  induction p with
  | ret a => simp [Comes]
  | raise e => simp [Comes, bind]
  | ask rule next ih =>
    simp only [ask_bind, comes_ask, ih]
    constructor
    · rintro ⟨v, hv, ⟨a, ha, hr⟩ | ⟨e, he, hr⟩⟩
      · exact .inl ⟨a, ⟨v, hv, ha⟩, hr⟩
      · exact .inr ⟨e, he, v, hv, hr⟩
    · rintro (⟨a, ⟨v, hv, ha⟩, hr⟩ | ⟨e, he, v, hv, hr⟩)
      · exact ⟨v, hv, .inl ⟨a, ha, hr⟩⟩
      · exact ⟨v, hv, .inr ⟨e, he, hr⟩⟩

theorem asks_bind {p : Body ρ ν ε α} {f : α → Body ρ ν ε β} {x : ρ} :
    (p.bind f).Asks D x ↔ p.Asks D x ∨ ∃ a, p.Comes D (.ok a) ∧ (f a).Asks D x := by
  induction p with
  | ret a => simp [Asks, Comes]
  | raise e => simp [Asks, Comes, bind]
  | ask rule next ih =>
    simp only [ask_bind, Asks, comes_ask, ih]
    constructor
    · rintro (h | ⟨v, hv, h | ⟨a, ha, h⟩⟩)
      · exact .inl (.inl h)
      · exact .inl (.inr ⟨v, hv, h⟩)
      · exact .inr ⟨a, ⟨v, hv, ha⟩, h⟩
    · rintro ((h | ⟨v, hv, h⟩) | ⟨a, ⟨v, hv, ha⟩, h⟩)
      · exact .inl h
      · exact .inr ⟨v, hv, .inl h⟩
      · exact .inr ⟨v, hv, .inr ⟨a, ha, h⟩⟩

/-- The values of rules: each has its own, and none of this raises. -/
theorem comes_values {rules : List ρ} {r : Except ε (List ν)} :
    (values rules : Body ρ ν ε (List ν)).Comes D r ↔
      ∃ vs, r = .ok vs ∧ List.Forall₂ D rules vs := by
  induction rules generalizing r with
  | nil => simp [values]
  | cons rule rules ih =>
    simp only [values, value_bind, comes_ask, comes_bind, ih, comes_ret]
    constructor
    · rintro ⟨v, hv, ⟨vs, ⟨vs', hvs, h⟩, hr⟩ | ⟨e, _, vs, hvs, _⟩⟩
      · rw [Except.ok.inj hvs] at hr
        exact ⟨v :: vs', hr, .cons hv h⟩
      · cases hvs
    · rintro ⟨_, hr, h⟩
      cases h with
      | cons hv h => exact ⟨_, hv, .inl ⟨_, ⟨_, rfl, h⟩, hr⟩⟩

theorem asks_of_mentions {p : Body ρ ν ε α} (hp : p.Mentions φ) {x : ρ} (h : p.Asks D x) :
    φ x := by
  induction p with
  | ret a => exact h.elim
  | raise e => exact h.elim
  | ask rule next ih =>
    rcases h with h | ⟨v, -, h⟩
    · exact h ▸ hp.1
    · exact ih v (hp.2 v) h

theorem comes_mono {D' : ρ → ν → Prop} (hD : ∀ rule v, D rule v → D' rule v)
    {p : Body ρ ν ε α} {r : Except ε α} (h : p.Comes D r) : p.Comes D' r := by
  induction p with
  | ret a => exact h
  | raise e => exact h
  | ask rule next ih =>
    obtain ⟨v, hv, h⟩ := h
    exact ⟨v, hD rule v hv, ih v h⟩

/-- Values that are unique make the end unique. -/
theorem comes_unique (hD : ∀ rule v w, D rule v → D rule w → v = w) {p : Body ρ ν ε α}
    {r r' : Except ε α} (h : p.Comes D r) (h' : p.Comes D r') : r = r' := by
  induction p with
  | ret a => exact h.trans h'.symm
  | raise e => exact h.trans h'.symm
  | ask rule next ih =>
    obtain ⟨v, hv, h⟩ := h
    obtain ⟨w, hw, h'⟩ := h'
    rw [hD rule w v hw hv] at h'
    exact ih v h h'

/-- What a body that comes to an end asks has a value. -/
theorem value_of_asks (hD : ∀ rule v w, D rule v → D rule w → v = w) {p : Body ρ ν ε α}
    {r : Except ε α} (h : p.Comes D r) {x : ρ} (hx : p.Asks D x) : ∃ v, D x v := by
  induction p with
  | ret a => exact hx.elim
  | raise e => exact hx.elim
  | ask rule next ih =>
    obtain ⟨v, hv, h⟩ := h
    rcases hx with hx | ⟨w, hw, hx⟩
    · exact ⟨v, hx ▸ hv⟩
    · rw [hD rule w v hw hv] at hx
      exact ih v h hx

/-- **A body returns**: its sub-rules have values, and it comes to its own with them. -/
theorem run_ok_iff {D : ρ → Except ε ν} {p : Body ρ ν ε α} {a : α} :
    p.run D = .ok a ↔ p.Comes (fun rule v => D rule = .ok v) (.ok a) := by
  induction p with
  | ret b => exact ⟨fun h => h.symm, fun h => h.symm⟩
  | raise e => simp [Comes, run]
  | ask rule next ih =>
    rw [run_ask, comes_ask]
    cases hv : D rule with
    | error e => simp [Bind.bind, Except.bind]
    | ok v =>
      refine (ih v).trans ⟨fun h => ⟨v, rfl, h⟩, ?_⟩
      rintro ⟨w, hw, h⟩
      rwa [← Except.ok.inj hw] at h

/-- **A body raises**: by itself, or because a rule that it asks does. -/
theorem run_error_iff {D : ρ → Except ε ν} {p : Body ρ ν ε α} {e : ε} :
    p.run D = .error e ↔ p.Comes (fun rule v => D rule = .ok v) (.error e) ∨
      ∃ x, p.Asks (fun rule v => D rule = .ok v) x ∧ D x = .error e := by
  induction p with
  | ret b => simp [Comes, Asks, run]
  | raise e' => simp [Comes, Asks, run, eq_comm]
  | ask rule next ih =>
    rw [run_ask, comes_ask]
    cases hv : D rule with
    | error e' =>
      change Except.error e' = Except.error e ↔ _
      constructor
      · exact fun h => .inr ⟨rule, .inl rfl, hv.trans (congrArg _ (Except.error.inj h))⟩
      · rintro (⟨v, hw, -⟩ | ⟨x, hx | ⟨v, hw, -⟩, he⟩)
        · cases hw
        · rw [hx, hv] at he
          exact congrArg _ (Except.error.inj he)
        · rw [hv] at hw
          cases hw
    | ok v =>
      refine (ih v).trans ⟨?_, ?_⟩
      · rintro (h | ⟨x, hx, he⟩)
        · exact .inl ⟨v, rfl, h⟩
        · exact .inr ⟨x, .inr ⟨v, hv, hx⟩, he⟩
      · rintro (⟨w, hw, h⟩ | ⟨x, hx | ⟨w, hw, hx⟩, he⟩)
        · rw [← Except.ok.inj hw] at h
          exact .inl h
        · rw [hx, hv] at he
          cases he
        · rw [hv] at hw
          rw [← Except.ok.inj hw] at hx
          exact .inr ⟨x, hx, he⟩

end Comes

end Body

/-! ## Evaluation -/

section Evaluate

variable {ρ ν ε : Type} (deep : ε) (body : ρ → Body ρ ν ε ν)

/-- **Evaluation** to so many levels of rules; one more raises `deep`. -/
def evaluate : ℕ → ρ → Except ε ν
  | 0, _ => .error deep
  | n + 1, rule => (body rule).run (evaluate n)

/-- What a rule of so many levels means. -/
def Means : ℕ → ρ → ν → Prop
  | 0, _, _ => False
  | n + 1, rule, v => (body rule).Comes (Means n) (.ok v)

/-- A rule raises by itself, its sub-rules being evaluated. -/
def Raises : ℕ → ρ → ε → Prop
  | 0, _, e => e = deep
  | n + 1, rule, e => (body rule).Comes (Means body n) (.error e)

/-- The evaluation of a rule reaches another one, with so many levels left. -/
inductive Reaches : ℕ → ρ → ℕ → ρ → Prop where
  | self (n : ℕ) (rule : ρ) : Reaches n rule n rule
  | sub {n k : ℕ} {rule a x : ρ} (hask : (body rule).Asks (Means body n) a)
      (hreach : Reaches n a k x) : Reaches (n + 1) rule k x

variable {deep body}

/-- **A rule evaluates to what it means.** -/
theorem evaluate_ok_iff {n : ℕ} {rule : ρ} {v : ν} :
    evaluate deep body n rule = .ok v ↔ Means body n rule v := by
  induction n generalizing rule v with
  | zero => simp [evaluate, Means]
  | succ n ih =>
    have hD : (fun r w => evaluate deep body n r = .ok w) = Means body n := by
      funext r w
      exact propext ih
    rw [evaluate, Body.run_ok_iff, hD, Means]

/-- **An evaluation raises what a rule that it reaches raises.** -/
theorem evaluate_error_iff {n : ℕ} {rule : ρ} {e : ε} :
    evaluate deep body n rule = .error e ↔
      ∃ k x, Reaches body n rule k x ∧ Raises deep body k x e := by
  induction n generalizing rule with
  | zero =>
    constructor
    · exact fun h => ⟨0, rule, .self 0 rule, (Except.error.inj h).symm⟩
    · rintro ⟨k, x, hx, h⟩
      cases hx with
      | self => exact congrArg Except.error (Eq.symm h)
  | succ n ih =>
    have hD : (fun r w => evaluate deep body n r = .ok w) = Means body n := by
      funext r w
      exact propext evaluate_ok_iff
    rw [evaluate, Body.run_error_iff, hD]
    constructor
    · rintro (h | ⟨a, ha, he⟩)
      · exact ⟨n + 1, rule, .self _ rule, h⟩
      · obtain ⟨k, x, hx, h⟩ := ih.1 he
        exact ⟨k, x, .sub ha hx, h⟩
    · rintro ⟨k, x, hx, h⟩
      cases hx with
      | self => exact .inl h
      | sub ha hx => exact .inr ⟨_, ha, ih.2 ⟨k, x, hx, h⟩⟩

theorem means_unique {n : ℕ} {rule : ρ} {v w : ν} (hv : Means body n rule v)
    (hw : Means body n rule w) : v = w := by
  induction n generalizing rule v w with
  | zero => exact hv.elim
  | succ n ih =>
    have hD : ∀ r v w, Means body n r v → Means body n r w → v = w := fun _ _ _ => ih
    exact Except.ok.inj (Body.comes_unique hD hv hw)

/-- More levels keep the meaning. -/
theorem means_mono {n m : ℕ} (hnm : n ≤ m) {rule : ρ} {v : ν} (h : Means body n rule v) :
    Means body m rule v := by
  induction n generalizing m rule v with
  | zero => exact h.elim
  | succ n ih =>
    obtain ⟨m, rfl⟩ : ∃ k, m = k + 1 := ⟨m - 1, by omega⟩
    exact Body.comes_mono (fun r w hw => ih (by omega) hw) h

/-- **What the evaluation of a rule with a meaning reaches has a meaning.** -/
theorem means_of_reaches {n k : ℕ} {rule x : ρ} (hx : Reaches body n rule k x) {v : ν}
    (hv : Means body n rule v) : ∃ w, Means body k x w := by
  induction hx generalizing v with
  | self => exact ⟨v, hv⟩
  | @sub n k rule a x hask _ ih =>
    have hD : ∀ r v w, Means body n r v → Means body n r w → v = w := fun _ _ _ => means_unique
    obtain ⟨w, hw⟩ := Body.value_of_asks hD hv hask
    exact ih hw

/-- A rule either has a meaning or raises. -/
theorem means_or_raises (deep : ε) (n : ℕ) (rule : ρ) :
    (∃ v, Means body n rule v) ∨ ∃ e k x, Reaches body n rule k x ∧ Raises deep body k x e := by
  cases h : evaluate deep body n rule with
  | ok v => exact .inl ⟨v, evaluate_ok_iff.1 h⟩
  | error e => exact .inr ⟨e, evaluate_error_iff.1 h⟩

/-- What an evaluation reaches is tied to the rule by what the bodies mention. -/
theorem reaches_within {R : ρ → ρ → Prop} (hrefl : ∀ rule, R rule rule)
    (hstep : ∀ rule, (body rule).Mentions fun a => ∀ x, R a x → R rule x) {n k : ℕ}
    {rule x : ρ} (h : Reaches body n rule k x) : R rule x := by
  induction h with
  | self n rule => exact hrefl rule
  | sub hask _ ih => exact Body.asks_of_mentions (hstep _) hask _ ih

end Evaluate

end Rules
