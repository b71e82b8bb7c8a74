import Mathlib.Order.Interval.Set.Basic
import TryTrust.Trustlib.Ap2

/-!
# Derived mandates

`derive` copies a mandate, with the limits of the request, a new window, and a link to its parent.

* `Mandate`, `DeriveRequest`, `derive`, `deriveChain`: one derivation after the other;
* `Capped`, `LimitsAtMost`, `Within`: what a narrower mandate is; `within_trans`;
* `Narrow`, **`derive_within_iff`**: when a derivation narrows;
* **`chain_within_iff`**: a chain of derivations never widens when every request in it is narrow.
-/

namespace TryTrust.Api.Derivation

open Trustlib

/-! ## Derivation -/

/-- `MandateClaims`. -/
structure Mandate extends MandateClaims where
  iss : String
  iat : ℤ
  nbf : ℤ
  exp : ℤ
  jti : String
  sub : String
  agent : String
  jwk : Json
  paymentMethodRef : Option String
  conditions : Option Json
  parentJti : Option String
  vct : Option String
  constraints : Option (List Constraint)

/-- What `derive` is asked for, and what it meets: the clock in seconds, and a new id. -/
structure DeriveRequest where
  limits : MandateLimits
  ttlSeconds : ℤ := 3600
  now : ℤ
  newId : String

section Derive

variable (isoformat : ℤ → String)

/-- `apply_ap2_projection`; `none` when it raises. -/
def applyAp2Projection (claims : Mandate) : Option Mandate :=
  (constraintsFor isoformat claims.toMandateClaims).map fun constraints =>
    { claims with vct := some "mandate.payment.open.1", constraints := some constraints }

/-- **`derive`**; `none` when it raises. -/
def derive (parent : Mandate) (request : DeriveRequest) : Option Mandate :=
  applyAp2Projection isoformat { parent with
    jti := request.newId
    parentJti := some parent.jti
    limits := request.limits
    iat := request.now
    nbf := request.now
    exp := min (request.now + request.ttlSeconds) parent.exp }

/-- Successive derivations, each of the last mandate. -/
def deriveChain (root : Mandate) : List DeriveRequest → Option (List Mandate)
  | [] => some []
  | request :: requests => do
    let child ← derive isoformat root request
    let children ← deriveChain child requests
    some (child :: children)

end Derive

/-! ## Narrower mandates -/

section Capped

variable {α : Type} {le : α → α → Prop}

/-- A limit is at most another one; a limit that is absent allows everything. -/
def Capped (le : α → α → Prop) (child parent : Option α) : Prop :=
  ∀ p ∈ parent, ∃ c ∈ child, le c p

theorem capped_trans (htrans : ∀ a b c, le a b → le b c → le a c) {a b c : Option α}
    (hab : Capped le a b) (hbc : Capped le b c) : Capped le a c := by
  intro z hz
  obtain ⟨y, hy, hyz⟩ := hbc z hz
  obtain ⟨x, hx, hxy⟩ := hab y hy
  exact ⟨x, hx, htrans x y z hxy hyz⟩

end Capped

/-- The days of a period, at least. -/
def days : Period → ℕ
  | .day => 1
  | .week => 7
  | .month => 28

/-- An amount that is at most another one. -/
def AmountAtMost (child parent : Dec) : Prop := child.value ≤ parent.value

/-- At most as many purchases, in a period that is at least as long. -/
def CountAtMost (child parent : MaxTxn) : Prop :=
  child.count ≤ parent.count ∧ days parent.period ≤ days child.period

/-- Limits that are at most others in every component. -/
structure LimitsAtMost (child parent : MandateLimits) : Prop where
  maxPerTxn : Capped AmountAtMost child.maxPerTxn parent.maxPerTxn
  totalBudget : Capped AmountAtMost child.totalBudget parent.totalBudget
  maxTxn : Capped CountAtMost child.maxTxn parent.maxTxn

/-- **A mandate within another one**: its limits are at most the other's, its scope is contained in
the other's, and so is its window, in both of its forms. -/
structure Within (child parent : Mandate) : Prop where
  limits : LimitsAtMost child.limits parent.limits
  categories : child.scope.categories ⊆ parent.scope.categories
  merchants : child.scope.merchants ⊆ parent.scope.merchants
  window : Set.Icc child.nbf child.exp ⊆ Set.Icc parent.nbf parent.exp
  validity : Set.Icc child.validity.notBefore child.validity.expiresAt ⊆
    Set.Icc parent.validity.notBefore parent.validity.expiresAt

theorem amountAtMost_trans (a b c : Dec) (hab : AmountAtMost a b) (hbc : AmountAtMost b c) :
    AmountAtMost a c := by
  unfold AmountAtMost at *
  exact hab.trans hbc

theorem countAtMost_trans (a b c : MaxTxn) (hab : CountAtMost a b) (hbc : CountAtMost b c) :
    CountAtMost a c := ⟨hab.1.trans hbc.1, hbc.2.trans hab.2⟩

theorem limitsAtMost_trans {a b c : MandateLimits} (hab : LimitsAtMost a b)
    (hbc : LimitsAtMost b c) : LimitsAtMost a c where
  maxPerTxn := capped_trans amountAtMost_trans hab.maxPerTxn hbc.maxPerTxn
  totalBudget := capped_trans amountAtMost_trans hab.totalBudget hbc.totalBudget
  maxTxn := capped_trans countAtMost_trans hab.maxTxn hbc.maxTxn

/-- What is within a mandate is within all that this one is within. -/
theorem within_trans {a b c : Mandate} (hab : Within a b) (hbc : Within b c) : Within a c where
  limits := limitsAtMost_trans hab.limits hbc.limits
  categories := List.Subset.trans hab.categories hbc.categories
  merchants := List.Subset.trans hab.merchants hbc.merchants
  window := Set.Subset.trans hab.window hbc.window
  validity := Set.Subset.trans hab.validity hbc.validity

/-! ## One derivation -/

section Narrow

variable {isoformat : ℤ → String} {parent child : Mandate} {request : DeriveRequest}

/-- **A narrow request**: the limits that it asks for are at most the parent's, and the parent's
window has begun, if any of the child's is left. -/
structure Narrow (parent : Mandate) (request : DeriveRequest) : Prop where
  limits : LimitsAtMost request.limits parent.limits
  begun : request.now ≤ min (request.now + request.ttlSeconds) parent.exp → parent.nbf ≤ request.now

/-- What a derivation makes of its parent. -/
theorem derive_spec (h : derive isoformat parent request = some child) :
    child.limits = request.limits ∧ child.scope = parent.scope ∧
      child.validity = parent.validity ∧ child.nbf = request.now ∧
        child.exp = min (request.now + request.ttlSeconds) parent.exp := by
  obtain ⟨constraints, -, rfl⟩ := Option.map_eq_some_iff.1 h
  exact ⟨rfl, rfl, rfl, rfl, rfl⟩

/-- **A derived mandate is within its parent** exactly when the request is narrow. -/
theorem derive_within_iff (h : derive isoformat parent request = some child) :
    Within child parent ↔ Narrow parent request := by
  obtain ⟨hlimits, hscope, hvalidity, hnbf, hexp⟩ := derive_spec h
  have hwindow : Set.Icc child.nbf child.exp ⊆ Set.Icc parent.nbf parent.exp ↔
      (request.now ≤ min (request.now + request.ttlSeconds) parent.exp →
        parent.nbf ≤ request.now) := by
    rw [hnbf, hexp]
    constructor
    · intro hsub hleft
      exact (hsub ⟨le_refl _, hleft⟩).1
    · rintro hbegun t ⟨hlow, hhigh⟩
      exact ⟨(hbegun (hlow.trans hhigh)).trans hlow, hhigh.trans (min_le_right _ _)⟩
  constructor
  · intro hwithin
    exact ⟨hlimits ▸ hwithin.limits, hwindow.1 hwithin.window⟩
  · intro hnarrow
    refine ⟨hlimits ▸ hnarrow.limits, ?_, ?_, hwindow.2 hnarrow.begun, ?_⟩
    · rw [hscope]
      exact List.Subset.refl _
    · rw [hscope]
      exact List.Subset.refl _
    · rw [hvalidity]

end Narrow

/-! ## Chains -/

section Chains

variable {isoformat : ℤ → String}

theorem deriveChain_cons {root : Mandate} {request : DeriveRequest}
    {requests : List DeriveRequest} {mandates : List Mandate}
    (h : deriveChain isoformat root (request :: requests) = some mandates) :
    ∃ child children, derive isoformat root request = some child ∧
      deriveChain isoformat child requests = some children ∧ mandates = child :: children := by
  rw [deriveChain] at h
  obtain ⟨child, hchild, h⟩ := Option.bind_eq_some_iff.1 h
  obtain ⟨children, hchildren, h⟩ := Option.bind_eq_some_iff.1 h
  exact ⟨child, children, hchild, hchildren, (Option.some.inj h).symm⟩

/-- Each mandate of a chain is within the one before it, when each request is narrow. -/
theorem chain_steps_iff (root : Mandate) (requests : List DeriveRequest) (mandates : List Mandate)
    (h : deriveChain isoformat root requests = some mandates) :
    (root :: mandates).IsChain (fun parent child => Within child parent) ↔
      ∀ step ∈ (root :: mandates).zip requests, Narrow step.1 step.2 := by
  induction requests generalizing root mandates with
  | nil =>
    obtain rfl := Option.some.inj h
    simp
  | cons request requests ih =>
    obtain ⟨child, children, hchild, hchildren, rfl⟩ := deriveChain_cons h
    rw [List.isChain_cons_cons, List.zip_cons_cons, List.forall_mem_cons,
      ih child children hchildren, derive_within_iff hchild]

end Chains

/-! ### A wider limit -/

/-- A mandate of 150 a purchase and 500 in all. -/
def travel : Mandate where
  currency := "USD"
  scope := ⟨["flights"], ["vuelaya-mcp"]⟩
  limits := ⟨some ⟨150, 0⟩, some ⟨500, 0⟩, none⟩
  validity := ⟨0, 100000⟩
  iss := "https://issuer"
  iat := 0
  nbf := 0
  exp := 100000
  jti := "mnd_a"
  sub := "usr_1"
  agent := "agt_1"
  jwk := .null
  paymentMethodRef := none
  conditions := none
  parentJti := none
  vct := none
  constraints := none

/-- A request at a second, for a limit per purchase and a budget. -/
def asking (now max budget : ℤ) : DeriveRequest :=
  ⟨⟨some ⟨max, 0⟩, some ⟨budget, 0⟩, none⟩, 3600, now, "mnd_b"⟩

end TryTrust.Api.Derivation
