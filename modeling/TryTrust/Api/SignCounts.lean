import TryTrust.Api.Activation

/-!
# Counters of passkeys

`_verify_gesture` reads the counter of a credential, checks that the assertion's is greater, and
writes it back without a guard: between the two the row may have been written by another request.

* `Meter`, `countSystem`: the requests of the ceremonies, with the assertions that they have
  accepted; `Cloned`, the check of `verify_assertion`; `NotOvertaken`;
* `CredentialOk`, `MeterInv`: the stored counter bounds the accepted ones, and who holds a row has
  inserted it or is about to accept its counter;
* `MeterInv.get`, `MeterInv.write`, `MeterInv.commit`, `MeterInv.rollback`: the statements keep it;
* **`counters_advance`**: while every `UPDATE` would pass the check against the row that it
  overwrites, no counter decreases, and no counter but zero is accepted twice.
-/

namespace TryTrust.Api.Ceremonies

open Conc Mandates

/-! ## Accepted assertions -/

/-- What a request has been answered: the credential; the credential that its open transaction has
stored; the assertion that it has accepted, by its credential and its counter; those that it has
committed. -/
structure Meter where
  credential : Option Credential := none
  stored : Option String := none
  pending : Option (String × ℕ) := none
  accepted : List (String × ℕ) := []

/-- After a call that did not raise. -/
def Meter.next (γ : Meter) {ι : Type} : (op : Call ι) → Res op → Meter
  | .getCredential .., (c : Option Credential) => { γ with credential := c }
  | .storeCredential _ c, _ => { γ with stored := some c.credentialId }
  | .advanceSignCount _ id n, _ => { γ with pending := some (id, n) }
  | .commit _, _ =>
    { γ with stored := none, pending := none, accepted := γ.accepted ++ γ.pending.toList }
  | .rollback _, _ => { γ with stored := none, pending := none }
  | _, _ => γ

/-- The clone check of `verify_assertion`: the counter did not advance. -/
def Cloned (stored n : ℕ) : Prop := stored > 0 ∧ n ≤ stored

instance (stored n : ℕ) : Decidable (Cloned stored n) :=
  inferInstanceAs (Decidable (_ ∧ _))

section Counters

variable (R : Registry) {ι : Type} [DecidableEq ι]

variable (ι) in
/-- The requests, with what they accept. -/
def countSystem : System ι (Call ι) Res Err (Desk ι) Meter Outside where
  sem := sem R
  adv _ γ _ op r := match r with
    | .ok a => γ.next op a
    | .error _ => γ

/-- The configurations of the requests. -/
abbrev Counting (ι : Type) : Type := Config ι (Call ι) Res Err Reply (Desk ι) Meter

/-- The start: any tables, and each request before its first statement. -/
def countStart (start : Tables) (requests : ι → Request) : Counting ι where
  shared := (ceremonyStart R start requests).shared
  prog i := answer R i (requests i)
  hist _ := {}

/-- The counter of a call would pass the clone check against the row that it overwrites. -/
def Passes (s : Desk ι) : Call ι → Prop
  | .advanceSignCount i id n => (s.credentials.cell id).Free i →
      ∀ r ∈ (s.credentials.cell id).seen i, ¬ Cloned r.signCount n
  | _ => True

instance (s : Desk ι) : (op : Call ι) → Decidable (Passes s op)
  | .advanceSignCount i id n => inferInstanceAs (Decidable ((s.credentials.cell id).Free i →
      ∀ r ∈ (s.credentials.cell id).seen i, ¬ Cloned r.signCount n))
  | .selectMandate .. | .insertMandate .. | .updateStatus .. | .attachSdJwt .. => .isTrue trivial
  | .credentialsFor .. | .getCredential .. | .storeCredential .. => .isTrue trivial
  | .storeChallenge .. | .consumeChallenge .. | .linkInstrument .. => .isTrue trivial
  | .instrumentsFor .. | .markInstrumentDeleted .. | .emitEvent .. | .now _ => .isTrue trivial
  | .buildClaims .. | .newChallenge _ | .createSetupToken .. => .isTrue trivial
  | .deletePaymentToken .. | .commit _ | .rollback _ => .isTrue trivial

/-- **No assertion is overtaken** at a step: between the read of the counter and its `UPDATE` no
other request has stored one that the clone check would refuse it against. -/
def NotOvertaken (c : Counting ι) (i : ι) (_ : Outside) : Prop :=
  ∀ op ∈ (c.prog i).next, Passes c.shared op

instance (c : Counting ι) (i : ι) (e : Outside) : Decidable (NotOvertaken c i e) :=
  inferInstanceAs (Decidable (∀ op ∈ (c.prog i).next, Passes c.shared op))

omit [DecidableEq ι] in
/-- **No counter decreases** once it is positive. -/
def CountsKept (s s' : Desk ι) : Prop := ∀ id r, (s.credentials.cell id).row = some r →
  ∃ r', (s'.credentials.cell id).row = some r' ∧ (0 < r.signCount → r.signCount ≤ r'.signCount)

/-- **No counter is accepted twice**, but zero. -/
structure Unrepeated (g : ι → Meter) : Prop where
  once : ∀ i, (g i).accepted.length ≤ 1
  distinct : ∀ i j id n, (id, n) ∈ (g i).accepted → (id, n) ∈ (g j).accepted → n ≠ 0 → i = j

/-! ## The invariant -/

/-- Who holds a row has inserted it, or is about to accept its counter. -/
def Holding (γ : Meter) (id : String) (row : Option Credential) (r' : Credential) : Prop :=
  (row = none ∧ γ.stored = some id) ∨ ∃ r, row = some r ∧
    γ.pending = some (id, r'.signCount) ∧ ¬ Cloned r.signCount r'.signCount

/-- **The row of a credential** in the course of a run. -/
structure CredentialOk (g : ι → Meter) (id : String) (c : Cell ι (Option Credential)) : Prop where
  key : ∀ r, c.row = some r → r.credentialId = id
  bound : ∀ j n, (id, n) ∈ (g j).accepted → ∃ r, c.row = some r ∧ n ≤ r.signCount
  read : ∀ j r, (g j).credential = some r → r.credentialId = id → c.row ≠ none
  held : ∀ j v, c.held = some (j, v) → ∃ r', v = some r' ∧ r'.credentialId = id ∧
    Holding (g j) id c.row r'
  pending : ∀ j n, (g j).pending = some (id, n) → ∃ r', c.held = some (j, some r') ∧
    r'.signCount = n ∧ c.row ≠ none

/-- The invariant. -/
structure MeterInv (g : ι → Meter) (s : Desk ι) : Prop where
  cells : ∀ id, CredentialOk g id (s.credentials.cell id)
  unrepeated : Unrepeated g
  one : ∀ i, (g i).pending ≠ none → (g i).accepted = []

/-- Nothing of the open transaction is on a credential. -/
structure Blank (γ : Meter) : Prop where
  stored : γ.stored = none
  pending : γ.pending = none
  accepted : γ.accepted = []

variable {R} {g : ι → Meter} {s : Desk ι} {i : ι} {γ : Meter} {id : String}
  {c : Cell ι (Option Credential)}

omit [DecidableEq ι] in
theorem CredentialOk.not_held (h : CredentialOk g id c) (hi : Blank (g i)) (v : Option Credential) :
    c.held ≠ some (i, v) := by
  intro hv
  obtain ⟨r', -, -, ⟨-, hstored⟩ | ⟨r, -, hpending, -⟩⟩ := h.held i v hv
  · rw [hi.stored] at hstored
    cases hstored
  · rw [hi.pending] at hpending
    cases hpending

/-- **A row that the request does not hold**, when it accepts nothing. -/
theorem CredentialOk.update (h : CredentialOk g id c) (hnot : ∀ v, c.held ≠ some (i, v))
    (haccepted : γ.accepted = (g i).accepted)
    (hread : ∀ r, γ.credential = some r → r.credentialId = id → c.row ≠ none)
    (hpending : ∀ n, γ.pending ≠ some (id, n)) :
    CredentialOk (Function.update g i γ) id c := by
  have haccepted := update_same Meter.accepted haccepted
  refine ⟨h.key, fun j n hn => ?_, fun j r hr hid => ?_, fun j v hv => ?_, fun j n hn => ?_⟩
  · rw [haccepted] at hn
    exact h.bound j n hn
  · by_cases hj : j = i
    · subst hj
      rw [Function.update_self] at hr
      exact hread r hr hid
    · rw [Function.update_of_ne hj] at hr
      exact h.read j r hr hid
  · have hj : j ≠ i := by
      rintro rfl
      exact hnot v hv
    rw [Function.update_of_ne hj]
    exact h.held j v hv
  · have hj : j ≠ i := by
      rintro rfl
      rw [Function.update_self] at hn
      exact hpending n hn
    rw [Function.update_of_ne hj] at hn
    exact h.pending j n hn

/-- The accepted assertions, when the request accepts nothing. -/
theorem Unrepeated.update (h : Unrepeated g) (haccepted : γ.accepted = (g i).accepted) :
    Unrepeated (Function.update g i γ) := by
  have haccepted := update_same Meter.accepted haccepted
  refine ⟨fun j => ?_, fun j k => ?_⟩
  · rw [haccepted]
    exact h.once j
  · rw [haccepted, haccepted]
    exact h.distinct j k

/-- What is pending, after a request of no commit yet. -/
theorem MeterInv.one_update (h : MeterInv g s) (hγ : γ.accepted = []) (j : ι)
    (hj : (Function.update g i γ j).pending ≠ none) : (Function.update g i γ j).accepted = [] := by
  by_cases hji : j = i
  · rw [hji, Function.update_self, hγ]
  · rw [Function.update_of_ne hji] at hj ⊢
    exact h.one j hj

omit [DecidableEq ι] in
/-- The invariant reads the credentials. -/
theorem MeterInv.tables {s' : Desk ι} (h : MeterInv g s) (hs : s'.credentials = s.credentials) :
    MeterInv g s' :=
  ⟨fun id => by rw [hs]; exact h.cells id, h.unrepeated, h.one⟩

/-! ## Statements -/

/-- **The read of a credential.** -/
theorem MeterInv.get (h : MeterInv g s) (hi : Blank (g i)) :
    MeterInv (Function.update g i { g i with credential := (s.credentials.cell id).seen i }) s := by
  have hseen := Cell.seen_of_not ((h.cells id).not_held hi)
  refine ⟨fun id' => (h.cells id').update ((h.cells id').not_held hi) rfl (fun r hr hid => ?_)
    fun n hn => ?_, h.unrepeated.update rfl, h.one_update hi.accepted⟩
  · have hrow : (s.credentials.cell id).row = some r := hseen.symm.trans hr
    obtain rfl : id = id' := ((h.cells id).key r hrow).symm.trans hid
    rw [hrow]
    exact Option.some_ne_none r
  · have hn : (g i).pending = some (id', n) := hn
    rw [hi.pending] at hn
    cases hn

/-- The tables with a row of `webauthn_credentials` written. -/
def writeCredential (s : Desk ι) (i : ι) (id : String) (r : Credential) : Desk ι :=
  { s with credentials := putCell s.credentials id ((s.credentials.cell id).write i (some r)) }

/-- **A write of a row** by a request that holds none. -/
theorem MeterInv.write (h : MeterInv g s) (hi : Blank (g i)) {r' : Credential}
    (hfree : (s.credentials.cell id).Free i) (hkey : r'.credentialId = id)
    (hcredential : γ.credential = (g i).credential) (haccepted : γ.accepted = (g i).accepted)
    (hholding : Holding γ id (s.credentials.cell id).row r')
    (hpending : ∀ id' n, γ.pending = some (id', n) →
      id' = id ∧ n = r'.signCount ∧ (s.credentials.cell id).row ≠ none) :
    MeterInv (Function.update g i γ) (writeCredential s i id r') := by
  have hread : ∀ id' r, γ.credential = some r → r.credentialId = id' →
      (s.credentials.cell id').row ≠ none := fun id' r hr =>
    (h.cells id').read i r (hcredential.symm.trans hr)
  refine ⟨fun id' => ?_, h.unrepeated.update haccepted,
    h.one_update (haccepted.trans hi.accepted)⟩
  by_cases hid : id' = id
  · subst hid
    have hcell : (writeCredential s i id' r').credentials.cell id' =
        (s.credentials.cell id').write i (some r') := Function.update_self ..
    have hc := h.cells id'
    have hnone := held_of_free hfree (hc.not_held hi)
    have hother : ∀ j n, j ≠ i → (g j).pending ≠ some (id', n) := by
      intro j n hj hn
      obtain ⟨r, hr, -⟩ := hc.pending j n hn
      rw [hnone] at hr
      cases hr
    rw [hcell]
    have hupdated := update_same Meter.accepted haccepted
    refine ⟨hc.key, fun j n hn => ?_, fun j r hr => ?_, fun j v hv => ?_, fun j n hn => ?_⟩
    · rw [hupdated] at hn
      exact hc.bound j n hn
    · rw [update_same Meter.credential hcredential] at hr
      exact hc.read j r hr
    · rw [Cell.held_write] at hv
      obtain ⟨rfl, rfl⟩ := Prod.mk.inj (Option.some.inj hv)
      rw [Function.update_self]
      exact ⟨r', rfl, hkey, hholding⟩
    · by_cases hj : j = i
      · subst hj
        rw [Function.update_self] at hn
        obtain ⟨-, rfl, hrow⟩ := hpending id' n hn
        exact ⟨r', rfl, rfl, hrow⟩
      · rw [Function.update_of_ne hj] at hn
        exact absurd hn (hother j n hj)
  · have hcell : (writeCredential s i id r').credentials.cell id' = s.credentials.cell id' :=
      Function.update_of_ne hid ..
    rw [hcell]
    refine (h.cells id').update ((h.cells id').not_held hi) haccepted (hread id') fun n hn => ?_
    exact hid (hpending id' n hn).1

/-- **The commit** of a row: the counter that is accepted is new. -/
theorem CredentialOk.commit (h : CredentialOk g id c) :
    CredentialOk (Function.update g i ((g i).next (.commit i) ())) id (c.commit i) := by
  have hcredential := update_same Meter.credential (g := g) (i := i)
    (γ := (g i).next (.commit i) ()) rfl
  have hrow : c.row ≠ none → (c.commit i).row ≠ none := by
    intro hne
    rcases c.held_or_not i with ⟨v, hv⟩ | hnot
    · obtain ⟨r', rfl, -⟩ := h.held i v hv
      rw [Cell.commit_of_held hv]
      exact Option.some_ne_none r'
    · rwa [Cell.commit_of_not hnot]
  refine ⟨fun r hr => ?_, fun j n hn => ?_, fun j r hr hid => ?_, fun j v hv => ?_,
    fun j n hn => ?_⟩
  · rcases c.held_or_not i with ⟨v, hv⟩ | hnot
    · obtain ⟨r', rfl, hkey, -⟩ := h.held i v hv
      rw [Cell.commit_of_held hv] at hr
      obtain rfl := Option.some.inj hr
      exact hkey
    · rw [Cell.commit_of_not hnot] at hr
      exact h.key r hr
  · have hold : (id, n) ∈ (g j).accepted ∨ (g i).pending = some (id, n) := by
      by_cases hj : j = i
      · subst hj
        rw [Function.update_self] at hn
        exact (List.mem_append.1 hn).imp_right fun hp => by simpa using hp
      · rw [Function.update_of_ne hj] at hn
        exact .inl hn
    rcases c.held_or_not i with ⟨v, hv⟩ | hnot
    · rw [Cell.commit_of_held hv]
      obtain ⟨r', rfl, -, hholding⟩ := h.held i v hv
      refine ⟨r', rfl, ?_⟩
      rcases hold with hn | hn
      · obtain ⟨r, hr, hle⟩ := h.bound j n hn
        rcases hholding with ⟨hnone, -⟩ | ⟨r₀, hr₀, -, hnot⟩
        · rw [hr] at hnone
          cases hnone
        · obtain rfl : r = r₀ := Option.some.inj (hr.symm.trans hr₀)
          unfold Cloned at hnot
          omega
      · obtain ⟨r₁, hr₁, hcount, -⟩ := h.pending i n hn
        obtain rfl : r₁ = r' := by
          rw [hv] at hr₁
          cases hr₁
          rfl
        exact hcount.ge
    · rw [Cell.commit_of_not hnot]
      rcases hold with hn | hn
      · exact h.bound j n hn
      · obtain ⟨r₁, hr₁, -⟩ := h.pending i n hn
        exact absurd hr₁ (hnot _)
  · rw [hcredential] at hr
    exact hrow (h.read j r hr hid)
  · have hj : j ≠ i := by
      rintro rfl
      exact Cell.not_held_commit hv
    rw [Cell.held_commit_iff hj] at hv
    rw [Cell.commit_of_not (fun u hu => hj ?_), Function.update_of_ne hj]
    · exact h.held j v hv
    · rw [hv] at hu
      cases hu
      rfl
  · have hj : j ≠ i := by
      rintro rfl
      rw [Function.update_self] at hn
      cases hn
    rw [Function.update_of_ne hj] at hn
    obtain ⟨r', hheld, hcount, hne⟩ := h.pending j n hn
    exact ⟨r', Cell.held_commit_ne hj hheld, hcount, hrow hne⟩

theorem CredentialOk.rollback (h : CredentialOk g id c) :
    CredentialOk (Function.update g i ((g i).next (.rollback i) ())) id (c.rollback i) := by
  have hcredential := update_same Meter.credential (g := g) (i := i)
    (γ := (g i).next (.rollback i) ()) rfl
  have haccepted := update_same Meter.accepted (g := g) (i := i)
    (γ := (g i).next (.rollback i) ()) rfl
  refine ⟨fun r hr => ?_, fun j n hn => ?_, fun j r hr hid => ?_, fun j v hv => ?_,
    fun j n hn => ?_⟩
  · rw [Cell.row_rollback] at hr
    exact h.key r hr
  · rw [haccepted] at hn
    rw [Cell.row_rollback]
    exact h.bound j n hn
  · rw [hcredential] at hr
    rw [Cell.row_rollback]
    exact h.read j r hr hid
  · have hj : j ≠ i := by
      rintro rfl
      exact Cell.not_held_rollback hv
    rw [Cell.row_rollback, Function.update_of_ne hj]
    exact h.held j v ((Cell.held_rollback_iff hj).1 hv)
  · have hj : j ≠ i := by
      rintro rfl
      rw [Function.update_self] at hn
      cases hn
    rw [Function.update_of_ne hj] at hn
    obtain ⟨r', hheld, hcount, hne⟩ := h.pending j n hn
    exact ⟨r', Cell.held_rollback_ne hj hheld, hcount, by rwa [Cell.row_rollback]⟩

omit [DecidableEq ι] in
/-- A counter that is pending is of no accepted assertion, unless it is zero. -/
theorem CredentialOk.fresh (h : CredentialOk g id c) {j : ι} {n : ℕ}
    (hpending : (g i).pending = some (id, n)) (hj : (id, n) ∈ (g j).accepted) : n = 0 := by
  obtain ⟨r', hheld, rfl, -⟩ := h.pending i n hpending
  obtain ⟨r, hr, hle⟩ := h.bound j _ hj
  obtain ⟨r₁, hr₁, -, ⟨hnone, -⟩ | ⟨r₀, hr₀, -, hnot⟩⟩ := h.held i _ hheld
  · rw [hr] at hnone
    cases hnone
  · obtain rfl : r = r₀ := Option.some.inj (hr.symm.trans hr₀)
    obtain rfl := Option.some.inj hr₁
    unfold Cloned at hnot
    omega

/-- What a request has accepted after a commit. -/
theorem mem_accepted_commit {j : ι} {x : String × ℕ}
    (h : x ∈ (Function.update g i ((g i).next (.commit i) ()) j).accepted) :
    x ∈ (g j).accepted ∨ j = i ∧ (g i).pending = some x := by
  by_cases hj : j = i
  · subst hj
    rw [Function.update_self] at h
    exact (List.mem_append.1 h).imp_right fun hp => ⟨rfl, by simpa using hp⟩
  · rw [Function.update_of_ne hj] at h
    exact .inl h

/-- **A commit.** -/
theorem MeterInv.commit (h : MeterInv g s) :
    MeterInv (Function.update g i ((g i).next (.commit i) ())) (committed i s) := by
  refine ⟨fun id => (h.cells id).commit, ⟨fun j => ?_, fun j k id n hj hk hn => ?_⟩,
    fun j hj => ?_⟩
  · by_cases hji : j = i
    · subst hji
      rw [Function.update_self]
      show ((g j).accepted ++ (g j).pending.toList).length ≤ 1
      cases hp : (g j).pending with
      | none => simpa using h.unrepeated.once j
      | some x => simp [h.one j (by rw [hp]; exact Option.some_ne_none x)]
    · rw [Function.update_of_ne hji]
      exact h.unrepeated.once j
  · rcases mem_accepted_commit hj with hold | ⟨hji, hnew⟩
    · rcases mem_accepted_commit hk with hold' | ⟨-, hnew⟩
      · exact h.unrepeated.distinct j k id n hold hold' hn
      · exact absurd ((h.cells id).fresh hnew hold) hn
    · rcases mem_accepted_commit hk with hold' | ⟨hki, -⟩
      · exact absurd ((h.cells id).fresh hnew hold') hn
      · exact hji.trans hki.symm
  · by_cases hji : j = i
    · subst hji
      rw [Function.update_self] at hj
      exact absurd rfl hj
    · rw [Function.update_of_ne hji] at hj ⊢
      exact h.one j hj

/-- **A rollback.** -/
theorem MeterInv.rollback (h : MeterInv g s) :
    MeterInv (Function.update g i ((g i).next (.rollback i) ())) (rolledBack i s) := by
  refine ⟨fun id => (h.cells id).rollback, h.unrepeated.update rfl, fun j hj => ?_⟩
  by_cases hji : j = i
  · subst hji
    rw [Function.update_self] at hj
    exact absurd rfl hj
  · rw [Function.update_of_ne hji] at hj ⊢
    exact h.one j hj

/-! ## What a step does to the counters -/

omit [DecidableEq ι] in
theorem countsKept_of_rows {s' : Desk ι}
    (h : ∀ id, (s'.credentials.cell id).row = (s.credentials.cell id).row) : CountsKept s s' :=
  fun id r hr => ⟨r, (h id).trans hr, fun _ => le_rfl⟩

theorem countsKept_commit (h : MeterInv g s) : CountsKept s (committed i s) := by
  intro id r hr
  show ∃ r', ((s.credentials.cell id).commit i).row = some r' ∧ _
  rcases (s.credentials.cell id).held_or_not i with ⟨v, hv⟩ | hnot
  · obtain ⟨r', rfl, -, ⟨hnone, -⟩ | ⟨r₀, hr₀, -, hcount⟩⟩ := (h.cells id).held i v hv
    · rw [hr] at hnone
      cases hnone
    · obtain rfl : r = r₀ := Option.some.inj (hr.symm.trans hr₀)
      refine ⟨r', by rw [Cell.commit_of_held hv], fun hpos => ?_⟩
      unfold Cloned at hcount
      omega
  · exact ⟨r, by rw [Cell.commit_of_not hnot, hr], fun _ => le_rfl⟩

/-! ## Calls -/

/-- The specification of the requests. -/
def countSpec (ι : Type) [DecidableEq ι] : Spec ι (Call ι) Res Err (Desk ι) Meter where
  inv := MeterInv
  ok _ s _ op := Passes s op
  prop _ s _ _ _ s' := CountsKept s s'

/-- A part of a request keeps the invariant, and ends as it says, or raises. -/
abbrev Counts (R : Registry) {α : Type} (i : ι) (A : α → Meter → Prop) (p : Tx ι α) (γ : Meter) :
    Prop :=
  Outline (countSystem R ι) (countSpec ι) i (ends A fun _ _ => True) p γ

/-- **One call**, that raises without an effect or does what it does. -/
theorem call_counts {op : Call ι} {A : Res op → Meter → Prop}
    (h : ∀ e g s, g i = γ → MeterInv g s → Passes s op →
      (∃ x, exec R e op s = (.error x, s)) ∨ ∃ a s', exec R e op s = (.ok a, s') ∧
        MeterInv (Function.update g i (γ.next op a)) s' ∧ CountsKept s s' ∧ A a (γ.next op a)) :
    Counts R i A (call op) γ := by
  refine outline_perform_eq fun g s e hg hinv hok => ?_
  have hraised : ∀ x, sem R e op s = (.error x, s) →
      ∃ r s' γ', (countSystem R ι).sem e op s = (r, s') ∧
        (countSystem R ι).adv i γ s op r = γ' ∧ MeterInv (Function.update g i γ') s' ∧
          CountsKept s s' ∧ ends A (fun _ _ => True) r γ' := by
    intro x hx
    refine ⟨_, _, γ, hx, rfl, ?_, countsKept_of_rows fun _ => rfl, trivial⟩
    rw [← hg, Function.update_eq_self]
    exact hinv
  rcases sem_cases e op s with ⟨x, hx⟩ | hexec
  · exact hraised x hx
  · rcases h e g s hg hinv hok with ⟨x, hx⟩ | ⟨a, s', ha, hinv', hkept, hA⟩
    · exact hraised x (hexec.trans hx)
    · exact ⟨_, _, _, hexec.trans ha, rfl, hinv', hkept, hA⟩

omit [DecidableEq ι] in
/-- The calls that neither read nor write the credentials of an assertion. -/
def Call.aside : Call ι → Prop
  | .getCredential .. | .storeCredential .. | .advanceSignCount .. => False
  | .commit _ | .rollback _ => False
  | _ => True

theorem exec_aside {op : Call ι} (h : op.aside) (e : Outside) (s : Desk ι) :
    (exec R e op s).2.credentials = s.credentials := by
  have hmandate : ∀ {δ : Type} (id : String) (x : Except Err (δ × Cell ι (Option Row))),
      (onMandate s id x).2.credentials = s.credentials := by
    intro δ id x
    cases x <;> rfl
  have hchallenge : ∀ {δ : Type} (k : Key) (x : Except Err (δ × Cell ι (Option ChallengeRow))),
      (onChallenge s k x).2.credentials = s.credentials := by
    intro δ k x
    cases x <;> rfl
  have hinstrument : ∀ {δ : Type} (ref : String)
      (x : Except Err (δ × Cell ι (Option Instrument))),
      (onInstrument s ref x).2.credentials = s.credentials := by
    intro δ ref x
    cases x <;> rfl
  cases op with
  | getCredential | storeCredential | advanceSignCount | commit | rollback => exact h.elim
  | insertMandate | updateStatus | attachSdJwt => exact hmandate _ _
  | storeChallenge | consumeChallenge => exact hchallenge _ _
  | linkInstrument | markInstrumentDeleted => exact hinstrument _ _
  | _ => rfl

omit [DecidableEq ι] in
theorem next_aside {op : Call ι} (h : op.aside) (γ : Meter) (a : Res op) : γ.next op a = γ := by
  cases op with
  | getCredential | storeCredential | advanceSignCount | commit | rollback => exact h.elim
  | _ => rfl

/-- **A call aside** keeps everything. -/
theorem aside_step {op : Call ι} (h : op.aside) (hinv : MeterInv g s) (e : Outside) :
    (countSystem R ι).adv i (g i) s op (sem R e op s).1 = g i ∧ MeterInv g (sem R e op s).2 ∧
      CountsKept s (sem R e op s).2 := by
  have hsem : (sem R e op s).2.credentials = s.credentials := by
    rcases sem_cases e op s with ⟨x, hx⟩ | hexec
    · rw [hx]
    · rw [hexec]
      exact exec_aside h e s
  refine ⟨?_, hinv.tables hsem, countsKept_of_rows fun id => by rw [hsem]⟩
  generalize (sem R e op s).1 = r
  cases r with
  | ok a => exact next_aside h (g i) a
  | error x => rfl

/-- A program of calls aside keeps everything. -/
theorem aside_counts {α : Type} {p : Tx ι α} (hp : p.Calls Call.aside) :
    Counts R i (fun _ γ' => γ' = γ) p γ := by
  refine outline_mono (Q := fun _ γ' => γ' = γ) (fun r γ' hr => ?_)
    (outline_calls (ψ := fun γ' => γ' = γ) (fun g s e op hop hg hinv _ => ?_) hp rfl)
  · cases r with
    | ok a => exact hr
    | error x => trivial
  · obtain ⟨hadv, hinv', hkept⟩ := aside_step (R := R) (i := i) hop hinv e
    refine ⟨?_, hkept, hadv.trans hg⟩
    show MeterInv (Function.update g i ((countSystem R ι).adv i (g i) s op (sem R e op s).1)) _
    rw [hadv, Function.update_eq_self]
    exact hinv'

/-- **A commit or a rollback**, whatever the transaction did. -/
theorem commit_counts : Counts R i (fun _ _ => True) (call (.commit i)) γ := by
  refine call_counts fun e g s hg hinv _ => ?_
  subst hg
  exact .inr ⟨(), _, rfl, hinv.commit, countsKept_commit hinv, trivial⟩

theorem rollback_counts : Counts R i (fun _ _ => True) (call (.rollback i)) γ := by
  refine call_counts fun e g s hg hinv _ => ?_
  subst hg
  exact .inr ⟨(), _, rfl, hinv.rollback, countsKept_of_rows fun id => Cell.row_rollback, trivial⟩

theorem counts_bind {α β : Type} {A : α → Meter → Prop} {A' : β → Meter → Prop} {p : Tx ι α}
    {f : α → Tx ι β} (hp : Counts R i A p γ) (hf : ∀ a γ', A a γ' → Counts R i A' (f a) γ') :
    Counts R i A' (p.bind f) γ :=
  outline_bind_ends hp hf

/-- A call aside. -/
theorem keep_counts {op : Call ι} (h : op.aside) : Counts R i (fun _ γ' => γ' = γ) (call op) γ :=
  aside_counts (Prog.calls_perform h)

/-- A program of calls aside, when nothing is asked of its end. -/
theorem aside_end {α : Type} {p : Tx ι α} (hp : p.Calls Call.aside) :
    Counts R i (fun _ _ => True) p γ :=
  outline_mono (fun r _ _ => by cases r <;> trivial) (aside_counts hp)

/-- **The read of a credential**: a row under the key, or none. -/
theorem get_counts (hγ : Blank γ) :
    Counts R i (fun (row : Option Credential) γ' => γ' = { γ with credential := row })
      (call (.getCredential i id)) γ := by
  refine call_counts fun e g s hg hinv _ => ?_
  subst hg
  exact .inr ⟨_, s, rfl, hinv.get hγ, countsKept_of_rows fun _ => rfl, rfl⟩

omit [DecidableEq ι] in
/-- A write changes no committed row. -/
theorem countsKept_write (r : Credential) : CountsKept s (writeCredential s i id r) :=
  countsKept_of_rows fun id' => row_update (f := s.credentials.cell) id'

/-- **A credential is stored.** -/
theorem store_counts {r : Credential} (hγ : Blank γ) :
    Counts R i (fun _ _ => True) (call (.storeCredential i r)) γ := by
  refine call_counts fun e g s hg hinv _ => ?_
  subst hg
  rcases insertRow_cases (i := i) r (s.credentials.cell r.credentialId) with
    ⟨x, hx⟩ | ⟨hfree, hseen, hok⟩
  · exact .inl ⟨x, by rw [exec, hx]; rfl⟩
  · have hrow : (s.credentials.cell r.credentialId).row = none :=
      (Cell.seen_of_not ((hinv.cells _).not_held hγ)).symm.trans hseen
    refine .inr ⟨(), _, by rw [exec, hok]; rfl, ?_, countsKept_write r, trivial⟩
    refine hinv.write hγ hfree rfl rfl rfl (.inl ⟨hrow, rfl⟩) fun id' n hn => ?_
    have hn : (g i).pending = some (id', n) := hn
    rw [hγ.pending] at hn
    cases hn

/-- **The counter of the credential that was read is written.** -/
theorem advance_counts {c : Credential} {n : ℕ} (hγ : Blank γ) (hread : γ.credential = some c) :
    Counts R i (fun _ _ => True) (call (.advanceSignCount i c.credentialId n)) γ := by
  refine call_counts fun e g s hg hinv hok => ?_
  subst hg
  have hrow := (hinv.cells c.credentialId).read i c hread rfl
  have hseen := Cell.seen_of_not ((hinv.cells c.credentialId).not_held hγ)
  rcases rewriteRow_cases (i := i) (fun _ : Credential => true)
      (fun c => { c with signCount := n }) (s.credentials.cell c.credentialId) with
    ⟨x, hx⟩ | ⟨hnone, -⟩ | ⟨r, hr, -, hfree, hdone⟩
  · exact .inl ⟨x, by rw [exec, hx]; rfl⟩
  · rw [hseen] at hnone
    cases hr : (s.credentials.cell c.credentialId).row with
    | none => exact absurd hr hrow
    | some r =>
      rw [hr] at hnone
      cases hnone
  · have hr' : (s.credentials.cell c.credentialId).row = some r := hseen.symm.trans hr
    refine .inr ⟨some r, _, by rw [exec, hdone]; rfl, ?_, countsKept_write _, trivial⟩
    have hkey : ({ r with signCount := n } : Credential).credentialId = c.credentialId :=
      (hinv.cells c.credentialId).key r hr'
    refine hinv.write hγ hfree hkey rfl rfl (.inr ⟨r, hr', rfl, hok hfree r hr⟩) fun id' m hm => ?_
    obtain ⟨rfl, rfl⟩ := Prod.mk.inj (Option.some.inj hm)
    exact ⟨rfl, rfl, hrow⟩

/-! ## Routes -/

/-- **`_verify_gesture`** of a request that has accepted nothing. -/
theorem verifyGesture_counts {record : Row} {body : Assertion} {purpose : Purpose} (hγ : Blank γ) :
    Counts R i (fun _ _ => True) (verifyGesture R i record body purpose) γ := by
  refine counts_bind (keep_counts trivial) fun row γ₁ h₁ => ?_
  subst h₁
  cases row with
  | none => trivial
  | some r =>
    rw [gestureWith]
    split_ifs with hpurpose
    · trivial
    · refine counts_bind (get_counts hγ) fun c γ₂ h₂ => ?_
      subst h₂
      cases c with
      | none => trivial
      | some c =>
        rw [checkWith]
        split_ifs with howner
        · trivial
        · refine counts_bind (keep_counts trivial) fun t γ₃ h₃ => ?_
          subst h₃
          cases verifyAssertion R.passkeys (clock t) body r c record.claims with
          | error x => trivial
          | ok n =>
            exact counts_bind (advance_counts ⟨hγ.stored, hγ.pending, hγ.accepted⟩ rfl)
              fun _ _ _ => trivial

omit [DecidableEq ι] in
theorem moveTo_aside (id default : String) (target : MandateStatus) :
    (moveTo i id target default).Calls Call.aside := by
  refine Prog.calls_bind (Prog.calls_perform trivial) fun row => ?_
  cases row with
  | none => exact Prog.calls_bind (Prog.calls_perform trivial) fun _ => trivial
  | some m => trivial

omit [DecidableEq ι] in
theorem link_aside (claims : Claims) (ref : Option String) :
    (link i claims ref).Calls Call.aside := by
  cases ref with
  | none => trivial
  | some ref =>
    exact Prog.calls_bind (Prog.calls_perform trivial) fun _ => Prog.calls_perform trivial

omit [DecidableEq ι] in
theorem signWith_aside (id : String) (claims disclosed : Claims) :
    (signWith R i id claims disclosed).Calls Call.aside :=
  Prog.calls_bind (Prog.calls_perform trivial) fun _ =>
    Prog.calls_bind (link_aside claims _) fun _ =>
      Prog.calls_bind (Prog.calls_perform trivial) fun _ => trivial

omit [DecidableEq ι] in
theorem deleteTokens_aside (refs : List String) : (deleteTokens i refs).Calls Call.aside := by
  induction refs with
  | nil => trivial
  | cons ref refs ih =>
    refine Prog.calls_bind (Prog.calls_attempt ?_) fun _ => ih
    exact Prog.calls_bind (Prog.calls_perform trivial) fun _ =>
      Prog.calls_bind (Prog.calls_perform trivial) fun _ => trivial

/-- **`assert_passkey`**. -/
theorem assertPasskey_counts {id : String} {body : Assertion} (hγ : Blank γ) :
    Counts R i (fun _ _ => True) (assertPasskey R i id body) γ := by
  refine counts_bind (keep_counts trivial) fun row γ₁ h₁ => ?_
  subst h₁
  cases row with
  | none => trivial
  | some record =>
    refine counts_bind (verifyGesture_counts hγ) fun claims _ _ => ?_
    exact counts_bind (aside_end (moveTo_aside ..)) fun _ _ _ => aside_end (signWith_aside ..)

/-- The commit of a revocation, and what follows it. -/
theorem killSwitch_counts {id : String} {record : Row} :
    Counts R i (fun _ _ => True) (killSwitch R i id record) γ := by
  refine counts_bind (keep_counts trivial) fun t _ _ => ?_
  refine counts_bind (keep_counts trivial) fun _ _ _ => ?_
  refine counts_bind (keep_counts trivial) fun refs _ _ => ?_
  refine counts_bind commit_counts fun _ _ _ => ?_
  refine counts_bind (aside_end (deleteTokens_aside refs)) fun _ _ _ => ?_
  refine counts_bind (keep_counts trivial) fun row _ _ => ?_
  cases row <;> trivial

/-- **`revoke_mandate`**. -/
theorem revokeMandate_counts {id : String} {body : Assertion} (hγ : Blank γ) :
    Counts R i (fun _ _ => True) (revokeMandate R i id body) γ := by
  refine counts_bind (keep_counts trivial) fun row γ₁ h₁ => ?_
  subst h₁
  cases row with
  | none => trivial
  | some record =>
    refine counts_bind (verifyGesture_counts hγ) fun claims _ _ => ?_
    exact counts_bind (aside_end (moveTo_aside ..)) fun _ _ _ => killSwitch_counts

omit [DecidableEq ι] in
theorem beginRevoke_aside (id : String) : (beginRevoke R i id).Calls Call.aside := by
  refine Prog.calls_bind (Prog.calls_perform trivial) fun row => ?_
  cases row with
  | none => trivial
  | some record =>
    refine Prog.calls_bind (Prog.calls_perform trivial) fun credentials => ?_
    cases credentials with
    | nil => trivial
    | cons c cs =>
      exact Prog.calls_bind (Prog.calls_perform trivial) fun _ =>
        Prog.calls_bind (Prog.calls_perform trivial) fun _ => trivial

omit [DecidableEq ι] in
theorem createMandate_aside (body : MandateCreate) :
    (createMandate R i body).Calls Call.aside := by
  refine Prog.calls_bind (Prog.calls_perform trivial) fun claims => ?_
  refine Prog.calls_bind (Prog.calls_perform trivial) fun _ => ?_
  refine Prog.calls_bind (Prog.calls_perform trivial) fun credentials => ?_
  cases credentials with
  | nil => trivial
  | cons c cs =>
    refine Prog.calls_bind (Prog.calls_perform trivial) fun _ => ?_
    refine Prog.calls_bind (Prog.calls_perform trivial) fun _ => ?_
    refine Prog.calls_bind (Prog.calls_attempt (Prog.calls_perform trivial)) fun _ => ?_
    exact Prog.calls_bind (Prog.calls_perform trivial) fun _ => trivial

omit [DecidableEq ι] in
theorem beginRegistration_aside (userId : String) :
    (beginRegistration R i userId).Calls Call.aside :=
  Prog.calls_bind (Prog.calls_perform trivial) fun _ =>
    Prog.calls_bind (Prog.calls_perform trivial) fun _ =>
      Prog.calls_bind (Prog.calls_perform trivial) fun _ => trivial

theorem completeRegistration_counts {value response : String} (hγ : Blank γ) :
    Counts R i (fun _ _ => True) (completeRegistration R i value response) γ := by
  refine counts_bind (keep_counts trivial) fun row γ₁ h₁ => ?_
  subst h₁
  cases row with
  | none => trivial
  | some r =>
    refine counts_bind (keep_counts trivial) fun t γ₂ h₂ => ?_
    subst h₂
    split_ifs with hlate
    · trivial
    · cases R.verifyRegistration response r.challenge with
      | none => trivial
      | some new => exact counts_bind (store_counts hγ) fun _ _ _ => trivial

/-- **Every route.** -/
theorem body_counts (r : Request) (hγ : Blank γ) :
    Counts R i (fun _ _ => True) (Ceremonies.body R i r) γ := by
  cases r with
  | beginRegistration userId =>
    exact counts_bind (aside_end (beginRegistration_aside userId)) fun _ _ _ => trivial
  | completeRegistration value response =>
    exact counts_bind (completeRegistration_counts hγ) fun _ _ _ => trivial
  | create b => exact counts_bind (aside_end (createMandate_aside b)) fun _ _ _ => trivial
  | assert id b => exact counts_bind (assertPasskey_counts hγ) fun _ _ _ => trivial
  | beginRevoke id => exact counts_bind (aside_end (beginRevoke_aside id)) fun _ _ _ => trivial
  | revoke id b => exact counts_bind (revokeMandate_counts hγ) fun _ _ _ => trivial

/-- **A request** keeps the invariant at each of its statements. -/
theorem answer_counts (r : Request) : Counts R i (fun _ _ => True) (answer R i r) {} :=
  outline_transaction (body_counts r ⟨rfl, rfl, rfl⟩)
    (fun _ _ _ => outline_mono (fun r _ _ => by cases r <;> trivial) (commit_counts (R := R)))
    fun _ _ _ => rollback_counts

/-! ## Runs -/

omit [DecidableEq ι] in
theorem countStart_inv (R : Registry) (start : Tables) (requests : ι → Request) :
    MeterInv (countStart R start requests).hist (countStart R start requests).shared := by
  refine ⟨fun id => ⟨fun r hr => ?_, ?_, ?_, ?_, ?_⟩, ⟨?_, ?_⟩, ?_⟩
  · have hr : start.credentials.find? (fun r => decide (r.credentialId = id)) = some r := hr
    simpa using List.find?_some hr
  all_goals simp [countStart, ceremonyStart, tableOf]

/-- **Counters advance.** In a run in which no assertion is overtaken between the read of its
counter and its `UPDATE`, the stored counter of a credential never decreases once it is positive,
and no two committed assertions of a credential carry one counter but zero. -/
theorem counters_advance (R : Registry) (start : Tables) (requests : ι → Request)
    (xs : List (ι × Outside))
    (hok : (countSystem R ι).Along NotOvertaken (countStart R start requests) xs) :
    (countSystem R ι).Along
      (fun c i e => CountsKept c.shared ((countSystem R ι).step c i e).shared)
      (countStart R start requests) xs ∧
    Unrepeated ((countSystem R ι).run (countStart R start requests) xs).hist := by
  have hstart : Outlined (countSystem R ι) (countSpec ι)
      (fun _ => ends (fun _ _ => True) fun _ _ => True) (countStart R start requests) :=
    ⟨countStart_inv R start requests, fun i => answer_counts (requests i)⟩
  have hspec : (countSystem R ι).Along (countSpec ι).Ok (countStart R start requests) xs :=
    (countSystem R ι).along_mono (fun c i e h op hop => h op hop) hok
  obtain ⟨hsteps, hend⟩ := outline_run hstart hspec
  refine ⟨(countSystem R ι).along_mono (fun c i e h => ?_) hsteps, hend.inv.unrepeated⟩
  cases hp : c.prog i with
  | ret a =>
    rw [step_of_none (by rw [hp]; rfl)]
    exact countsKept_of_rows fun _ => rfl
  | raise x =>
    rw [step_of_none (by rw [hp]; rfl)]
    exact countsKept_of_rows fun _ => rfl
  | call op next =>
    have hkept := h op (by rw [hp]; rfl)
    simp only [System.step, hp]
    exact hkept

end Counters

/-! ## Two assertions of one passkey -/

/-- A check that answers the counter of a response, its length. -/
def countRegistry : Registry :=
  { plainRegistry with
    passkeys := { plainPasskeys with
      verifyAuthentication := fun body _ _ _ => some body.response.length } }

/-- Two mandates of a user, each with its challenge, and a passkey at four. -/
def twoMandates : Tables where
  mandates id := if id = "mnd_1" ∨ id = "mnd_2" then
    some ⟨⟨"usr_1", .draft, ⟨id, "usr_1", .null⟩, 1⟩, none⟩ else none
  challenges := ["mnd_1", "mnd_2"].map fun id => ⟨id, "usr_1", some id, .activate, 100, none⟩
  credentials := [⟨"cred_1", "usr_1", "key_1", 4⟩]
  instruments := []
  outbox := []

/-- The activations of both, at the counters of two responses. -/
def twoGestures (first second : String) : Bool → Request
  | false => .assert "mnd_1" ⟨"cred_1", "mnd_1", first⟩
  | true => .assert "mnd_2" ⟨"cred_1", "mnd_2", second⟩

/-- Statements of a request. -/
def statements (i : Bool) (n : ℕ) : List (Bool × Outside) := List.replicate n (i, {})

/-- Both read the counter, and then each writes its own. -/
def interleaved : List (Bool × Outside) :=
  statements false 4 ++ statements true 4 ++ statements false 5 ++ statements true 5

/-- The counter of the passkey after a run. -/
def storedCount (c : Counting Bool) : Option ℕ :=
  (c.shared.credentials.cell "cred_1").row.map (·.signCount)

/-- What the two have accepted. -/
def acceptedBy (c : Counting Bool) : List (String × ℕ) × List (String × ℕ) :=
  ((c.hist false).accepted, (c.hist true).accepted)

/-- The run of two gestures. -/
def raced (first second : String) (xs : List (Bool × Outside)) : Counting Bool :=
  (countSystem countRegistry Bool).run
    (countStart countRegistry twoMandates (twoGestures first second)) xs

/-- One after the other. -/
theorem counters_advance_serial :
    (countSystem countRegistry Bool).Along
      (fun c i e => CountsKept c.shared ((countSystem countRegistry Bool).step c i e).shared)
      (countStart countRegistry twoMandates (twoGestures "12345" "123456"))
      (statements false 9 ++ statements true 9) ∧
    Unrepeated (raced "12345" "123456" (statements false 9 ++ statements true 9)).hist :=
  counters_advance countRegistry twoMandates (twoGestures "12345" "123456")
    (statements false 9 ++ statements true 9) (by decide +kernel)

/-- Both have read four: the counter goes to six and back to five, and two assertions with the
counter five are accepted. -/
theorem counter_overtaken :
    (storedCount (raced "123456" "12345" (interleaved.take 17)) = some 6 ∧
      storedCount (raced "123456" "12345" interleaved) = some 5 ∧
      ¬ (countSystem countRegistry Bool).Along
        (fun c i e => CountsKept c.shared ((countSystem countRegistry Bool).step c i e).shared)
        (countStart countRegistry twoMandates (twoGestures "123456" "12345")) interleaved) ∧
    acceptedBy (raced "12345" "12345" interleaved) = ([("cred_1", 5)], [("cred_1", 5)]) ∧
    ¬ Unrepeated (raced "12345" "12345" interleaved).hist := by
  have hbefore : storedCount (raced "123456" "12345" (interleaved.take 17)) = some 6 := by
    decide +kernel
  have hafter : storedCount ((countSystem countRegistry Bool).step
      (raced "123456" "12345" (interleaved.take 17)) true {}) = some 5 := by decide +kernel
  have htwice : acceptedBy (raced "12345" "12345" interleaved) =
      ([("cred_1", 5)], [("cred_1", 5)]) := by decide +kernel
  refine ⟨⟨hbefore, by decide +kernel, fun h => ?_⟩, htwice, fun h => ?_⟩
  · have hsplit : interleaved = interleaved.take 17 ++ interleaved.drop 17 :=
      (List.take_append_drop 17 interleaved).symm
    rw [hsplit, System.along_append] at h
    have hkept := h.2.1
    obtain ⟨r, hr, hcount⟩ := Option.map_eq_some_iff.1 hbefore
    obtain ⟨r', hr', hle⟩ := hkept "cred_1" r hr
    have hfive : r'.signCount = 5 :=
      Option.some.inj ((congrArg (Option.map Credential.signCount) hr').symm.trans hafter)
    omega
  · obtain ⟨hfalse, htrue⟩ := Prod.mk.inj htwice
    have hone := h.distinct false true "cred_1" 5 (by rw [hfalse]; exact List.mem_cons_self)
      (by rw [htrue]; exact List.mem_cons_self) (by decide)
    cases hone

end TryTrust.Api.Ceremonies
