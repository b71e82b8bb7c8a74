import TryTrust.Api.Ceremonies

/-!
# The rows of ceremonies

What the requests of the ceremonies keep, statement by statement: who holds a mandate has inserted
it or set its status, and who holds a challenge has issued or consumed it.

* `Gesture`, `Issued`; `Activated`, `StatusChanged`, `Spent`: what a step does to committed rows;
* `MandateOk`, `ChallengeOk`, `DeskInv`: the invariant; `StepOk`: what a step may do;
* `DeskInv.read`, `DeskInv.draft`, `DeskInv.move`, `DeskInv.attach`, `DeskInv.store`,
  `DeskInv.consume`, `DeskInv.commit`, `DeskInv.rollback`: the statements keep it;
* **`stepOk_commit`**: a commit changes the status of a mandate by the gesture of its request only.
-/

namespace TryTrust.Api.Ceremonies

open Conc Mandates

/-! ## What is claimed -/

/-- The mandate, the assertion, the purpose and the target of a request with a gesture. -/
def Request.gesture : Request → Option (String × Assertion × Purpose × MandateStatus)
  | .assert id body => some (id, body, .activate, .active)
  | .revoke id body => some (id, body, .revoke, .revoked)
  | _ => none

/-- The mandate that a request reads. -/
def Request.mandate : Request → Option String
  | .assert id _ => some id
  | .beginRevoke id => some id
  | .revoke id _ => some id
  | _ => none

/-- A challenge before its consumption. -/
def unspent (r : ChallengeRow) : ChallengeRow := { r with consumedAt := none }

/-- **No collision**: claims with one hash are of one mandate and of one user. -/
def CollisionFree (P : Passkeys) : Prop := ∀ a b, P.mandateChallenge a = P.mandateChallenge b →
  a.jti = b.jti ∧ a.sub = b.sub

/-- A request issues a challenge. -/
def Issues (R : Registry) : Request → ChallengeRow → Prop
  | .beginRegistration userId, r => r.purpose = .register ∧ r.userId = userId
  | .create body, r => ∃ claims t, claims.sub = body.userId ∧
      r = issue R.passkeys (clock t) claims .activate
  | .beginRevoke _, r => ∃ claims t, r = issue R.passkeys (clock t) claims .revoke
  | _, _ => False

section Claimed

variable {ι : Type}

/-- **Where a challenge comes from**: the tables at the start, or a request that issued it. -/
def Issued (R : Registry) (start : Tables) (requests : ι → Request) (g : ι → Work)
    (r : ChallengeRow) : Prop :=
  (∃ r' ∈ start.challenges, unspent r' = unspent r) ∨
    ∃ j, (g j).issued = some (unspent r) ∧ Issues R (requests j) (unspent r)

/-- **A gesture**: an assertion by a credential of the mandate's user, accepted over the hash of the
mandate's claims, with a challenge of the purpose that is consumed, and in time. -/
structure Gesture (R : Registry) (body : Assertion) (purpose : Purpose) (γ : Work) (m : Row)
    (r : ChallengeRow) (c : Credential) : Prop where
  record : γ.record = some m
  challenge : γ.challenge = some r
  credential : γ.credential = some c
  key : keyOf r = (body.presented, purpose)
  owner : c.userId = m.userId
  inTime : γ.moment ≤ r.expiresAt
  hash : r.challenge = R.passkeys.mandateChallenge m.claims
  verified : ∃ n, R.passkeys.verifyAuthentication body r.challenge c.publicKey c.signCount = some n

/-- A step makes a mandate active. -/
def Activated (s s' : Desk ι) (id : String) : Prop :=
  (∀ m, (s.mandates id).row = some m → m.status ≠ .active) ∧
    ∃ m, (s'.mandates id).row = some m ∧ m.status = .active

/-- A step changes the status of a mandate. -/
def StatusChanged (s s' : Desk ι) (id : String) : Prop :=
  ∃ m m', (s.mandates id).row = some m ∧ (s'.mandates id).row = some m' ∧ m.status ≠ m'.status

/-- A step consumes a challenge for good. -/
def Spent (s s' : Desk ι) (k : Key) : Prop :=
  ∃ r t, (s.challenges k).row = some r ∧ r.consumedAt = none ∧
    (s'.challenges k).row = some { r with consumedAt := some t }

/-! ## The invariant -/

/-- A row that an open transaction has inserted. -/
def Drafted (γ : Work) (row : Option Row) (m : Row) : Prop :=
  row = none ∧ m.status = .draft ∧ γ.created ≠ none

/-- A row whose status an open transaction has set, of the mandate of its request. -/
structure Moved (request : Request) (γ : Work) (id : String) (m₀ m : Row) : Prop where
  own : request.mandate = some id
  profile : m.profile = m₀.profile
  status : γ.moved = some m.status
  signed : ∀ x, γ.signed = some x → m.sdJwt = some x.1

/-- **The row of a mandate** in the course of a run: who holds it has inserted it, or has set its
status; what its requests have read is what its profile still is. -/
structure MandateOk (requests : ι → Request) (g : ι → Work) (id : String)
    (c : Cell ι (Option Row)) : Prop where
  record : ∀ i r, (g i).record = some r → (requests i).mandate = some id →
    ∃ m, c.row = some m ∧ m.profile = r.profile
  held : ∀ i v, c.held = some (i, v) → ∃ m, v = some m ∧
    (Drafted (g i) c.row m ∨ ∃ m₀, c.row = some m₀ ∧ Moved (requests i) (g i) id m₀ m)
  moved : ∀ i t, (g i).moved = some t → (requests i).mandate = some id → ∃ v, c.held = some (i, v)

/-- **The row of a challenge** in the course of a run: who holds it has issued it, or has consumed
it where it was open. -/
structure ChallengeOk (R : Registry) (start : Tables) (requests : ι → Request) (g : ι → Work)
    (k : Key) (c : Cell ι (Option ChallengeRow)) : Prop where
  row : ∀ r, c.row = some r → keyOf r = k ∧ Issued R start requests g r
  held : ∀ i v, c.held = some (i, v) →
    (∃ r, v = some r ∧ c.row = none ∧ keyOf r = k ∧ (g i).issued = some r ∧
      Issued R start requests g r) ∨
    ∃ r t, v = some { r with consumedAt := some t } ∧ c.row = some r ∧ r.consumedAt = none ∧
      (g i).challenge = some r
  consumed : ∀ i r, (g i).challenge = some r → keyOf r = k → c.row = some r ∧
    r.consumedAt = none ∧ ∃ t, c.held = some (i, some { r with consumedAt := some t })

/-- The invariant of the tables. -/
structure DeskInv (R : Registry) (start : Tables) (requests : ι → Request) (g : ι → Work)
    (s : Desk ι) : Prop where
  mandates : ∀ id, MandateOk requests g id (s.mandates id)
  challenges : ∀ k, ChallengeOk R start requests g k (s.challenges k)

/-- **A change of a status** by a gesture: the request's own mandate, on the consumption of the
challenge of the gesture. -/
def ByGesture (R : Registry) (start : Tables) (requests : ι → Request) (g : ι → Work) (i : ι)
    (s s' : Desk ι) (id : String) : Prop :=
  ∃ body purpose record r c m, (requests i).gesture = some (id, body, purpose, m.status) ∧
    Gesture R body purpose (g i) record r c ∧ (s.challenges (keyOf r)).row = some r ∧
    Issued R start requests g r ∧ Spent s s' (keyOf r) ∧
    (s'.mandates id).row = some m ∧ m.profile = record.profile ∧
    (m.status = .active → m.sdJwt = some (R.sign record.claims (disclosable record.claims)))

/-- **What a step may do** to the committed rows. -/
structure StepOk (R : Registry) (start : Tables) (requests : ι → Request) (g : ι → Work) (i : ι)
    (s s' : Desk ι) : Prop where
  changed : ∀ id, StatusChanged s s' id → ByGesture R start requests g i s s' id
  spent : ∀ k r, (s.challenges k).row = some r → r.consumedAt ≠ none →
    (s'.challenges k).row = some r
  drafted : ∀ id m, (s.mandates id).row = none → (s'.mandates id).row = some m → m.status = .draft

end Claimed

/-! ## Statements keep the invariant -/

section Invariant

variable {R : Registry} {start : Tables} {ι : Type} {requests : ι → Request} {g : ι → Work}
  {s s' : Desk ι} {i : ι} {γ : Work}

theorem keyOf_unspent (r : ChallengeRow) : keyOf (unspent r) = keyOf r := rfl

variable [DecidableEq ι]

/-- What is issued stays issued. -/
theorem Issued.update {r : ChallengeRow} (h : Issued R start requests g r)
    (hissued : (g i).issued ≠ none → γ.issued = (g i).issued) :
    Issued R start requests (Function.update g i γ) r := by
  refine h.imp_right fun hr => ?_
  obtain ⟨j, hj, hissues⟩ := hr
  refine ⟨j, ?_, hissues⟩
  by_cases hji : j = i
  · subst hji
    rw [Function.update_self, hissued (by rw [hj]; exact Option.some_ne_none _), hj]
  · rw [Function.update_of_ne hji, hj]

/-- A mandate, when a request changes nothing that its rows stand on. -/
theorem MandateOk.congr {id : String} {c : Cell ι (Option Row)} (h : MandateOk requests g id c)
    (hrecord : γ.record = (g i).record) (hcreated : γ.created = (g i).created)
    (hmoved : γ.moved = (g i).moved) (hsigned : γ.signed = (g i).signed) :
    MandateOk requests (Function.update g i γ) id c := by
  have hrecord := update_same Work.record hrecord
  have hcreated := update_same Work.created hcreated
  have hmoved := update_same Work.moved hmoved
  have hsigned := update_same Work.signed hsigned
  refine ⟨fun j r => ?_, fun j v hv => ?_, fun j t => ?_⟩
  · rw [hrecord]
    exact h.record j r
  · obtain ⟨m, rfl, hm⟩ := h.held j v hv
    refine ⟨m, rfl, hm.imp (fun hd => ?_) fun hx => ?_⟩
    · exact ⟨hd.1, hd.2.1, by rw [hcreated]; exact hd.2.2⟩
    · obtain ⟨m₀, hm₀, hmv⟩ := hx
      refine ⟨m₀, hm₀, hmv.own, hmv.profile, ?_, ?_⟩
      · rw [hmoved]
        exact hmv.status
      · rw [hsigned]
        exact hmv.signed
  · rw [hmoved]
    exact h.moved j t

/-- A mandate that is not the request's own. -/
theorem MandateOk.other {id : String} {c : Cell ι (Option Row)} (h : MandateOk requests g id c)
    (hown : (requests i).mandate ≠ some id) (hcreated : (g i).created ≠ none → γ.created ≠ none) :
    MandateOk requests (Function.update g i γ) id c := by
  have hne : ∀ j, (requests j).mandate = some id → j ≠ i := by
    rintro j hj rfl
    exact hown hj
  refine ⟨fun j r hr hj => ?_, fun j v hv => ?_, fun j t ht hj => ?_⟩
  · rw [Function.update_of_ne (hne j hj)] at hr
    exact h.record j r hr hj
  · obtain ⟨m, rfl, hm⟩ := h.held j v hv
    refine ⟨m, rfl, hm.imp (fun hd => ⟨hd.1, hd.2.1, ?_⟩) fun hx => ?_⟩
    · by_cases hji : j = i
      · subst hji
        rw [Function.update_self]
        exact hcreated hd.2.2
      · rw [Function.update_of_ne hji]
        exact hd.2.2
    · obtain ⟨m₀, hm₀, hmv⟩ := hx
      rw [Function.update_of_ne (hne j hmv.own)]
      exact ⟨m₀, hm₀, hmv⟩
  · rw [Function.update_of_ne (hne j hj)] at ht
    exact h.moved j t ht hj

/-- A challenge, when a request changes nothing that its rows stand on. -/
theorem ChallengeOk.congr {k : Key} {c : Cell ι (Option ChallengeRow)}
    (h : ChallengeOk R start requests g k c)
    (hissued : (g i).issued ≠ none → γ.issued = (g i).issued)
    (hchallenge : γ.challenge = (g i).challenge) :
    ChallengeOk R start requests (Function.update g i γ) k c := by
  have hchallenge := update_same Work.challenge hchallenge
  refine ⟨fun r hr => ⟨(h.row r hr).1, (h.row r hr).2.update hissued⟩, fun j v hv => ?_,
    fun j r => ?_⟩
  · refine (h.held j v hv).imp (fun hx => ?_) fun hx => ?_
    · obtain ⟨r, hr, hrow, hkey, hj, hfrom⟩ := hx
      refine ⟨r, hr, hrow, hkey, ?_, hfrom.update hissued⟩
      by_cases hji : j = i
      · subst hji
        rw [Function.update_self, hissued (by rw [hj]; exact Option.some_ne_none _), hj]
      · rw [Function.update_of_ne hji, hj]
    · obtain ⟨r, t, hr, hrow, hopen, hj⟩ := hx
      refine ⟨r, t, hr, hrow, hopen, ?_⟩
      rw [hchallenge, hj]
  · rw [hchallenge]
    exact h.consumed j r

omit [DecidableEq ι] in
/-- The invariant reads two of the tables. -/
theorem DeskInv.tables (h : DeskInv R start requests g s) (hm : s'.mandates = s.mandates)
    (hc : s'.challenges = s.challenges) : DeskInv R start requests g s' :=
  ⟨fun id => by rw [hm]; exact h.mandates id, fun k => by rw [hc]; exact h.challenges k⟩

/-- **A quiet call** changes no more than the credential and the moment. -/
theorem DeskInv.quiet (h : DeskInv R start requests g s) (hm : s'.mandates = s.mandates)
    (hc : s'.challenges = s.challenges) {credential : Option Credential} {t : ℤ} :
    DeskInv R start requests
      (Function.update g i { g i with credential := credential, moment := t }) s' :=
  DeskInv.tables ⟨fun id => (h.mandates id).congr rfl rfl rfl rfl,
    fun k => (h.challenges k).congr (fun _ => rfl) rfl⟩ hm hc

omit [DecidableEq ι] in
/-- Who has neither inserted a mandate nor set its status does not hold it. -/
theorem MandateOk.not_held {id : String} {c : Cell ι (Option Row)} (h : MandateOk requests g id c)
    (hcreated : (g i).created = none) (hmoved : (g i).moved = none) (v : Option Row) :
    c.held ≠ some (i, v) := by
  intro hv
  obtain ⟨m, -, hd | ⟨m₀, -, hmv⟩⟩ := h.held i v hv
  · exact hd.2.2 hcreated
  · have hstatus := hmv.status
    rw [hmoved] at hstatus
    cases hstatus

omit [DecidableEq ι] in
/-- A row that nobody else holds, nor the request. -/
theorem held_of_free {ρ : Type} {c : Cell ι ρ} (hfree : c.Free i)
    (hnot : ∀ v, c.held ≠ some (i, v)) : c.held = none := by
  cases hc : c.held with
  | none => rfl
  | some w =>
    obtain ⟨j, v⟩ := w
    obtain rfl : j = i := hfree (j, v) hc
    exact absurd hc (hnot v)

/-- **A read of a mandate** by a request that has not written it. -/
theorem DeskInv.read (h : DeskInv R start requests g s) {id : String}
    (hown : (requests i).mandate = some id) (hcreated : (g i).created = none)
    (hmoved : (g i).moved = none) :
    DeskInv R start requests
      (Function.update g i { g i with record := (s.mandates id).seen i }) s := by
  refine ⟨fun id' => ?_, fun k => (h.challenges k).congr (fun _ => rfl) rfl⟩
  by_cases hid : id' = id
  · subst hid
    have hm := h.mandates id'
    refine ⟨fun j r hr hj => ?_, fun j v hv => ?_, fun j t ht hj => ?_⟩
    · by_cases hji : j = i
      · subst hji
        rw [Function.update_self] at hr
        have hseen : (s.mandates id').row = some r :=
          (Cell.seen_of_not (hm.not_held hcreated hmoved)).symm.trans hr
        exact ⟨r, hseen, rfl⟩
      · rw [Function.update_of_ne hji] at hr
        exact hm.record j r hr hj
    · have hji : j ≠ i := by
        rintro rfl
        exact hm.not_held hcreated hmoved v hv
      rw [Function.update_of_ne hji]
      exact hm.held j v hv
    · have hmoved' := update_same Work.moved (g := g) (i := i)
        (γ := { g i with record := (s.mandates id').seen i }) rfl
      rw [hmoved'] at ht
      exact hm.moved j t ht hj
  · refine (h.mandates id').other (fun hown' => hid ?_) fun hne => hne
    exact Option.some.inj (hown'.symm.trans hown)

/-- **An inserted mandate.** -/
theorem DeskInv.draft (h : DeskInv R start requests g s) {claims : Claims} {m : Row}
    (hown : (requests i).mandate = none) (hfree : (s.mandates claims.jti).Free i)
    (hseen : (s.mandates claims.jti).seen i = none) (hstatus : m.status = .draft) :
    DeskInv R start requests (Function.update g i { g i with created := some claims })
      { s with
        mandates := Function.update s.mandates claims.jti
          ((s.mandates claims.jti).write i (some m)) } := by
  have hother : ∀ id, MandateOk requests (Function.update g i { g i with created := some claims }) id
      (s.mandates id) := fun id => (h.mandates id).other (by rw [hown]; exact fun hx => by cases hx)
        fun _ => Option.some_ne_none claims
  refine ⟨fun id => ?_, fun k => (h.challenges k).congr (fun _ => rfl) rfl⟩
  by_cases hid : id = claims.jti
  · subst hid
    have hm := hother claims.jti
    have hrow : (s.mandates claims.jti).row = none := by
      cases hheld : (s.mandates claims.jti).held with
      | none => rwa [Cell.seen_of_none hheld] at hseen
      | some w =>
        obtain ⟨j, v⟩ := w
        obtain rfl : j = i := hfree (j, v) hheld
        obtain ⟨m', rfl, -⟩ := (h.mandates claims.jti).held j v hheld
        rw [Cell.seen_of_held hheld] at hseen
        cases hseen
    have hnone : ∀ j, (requests j).mandate = some claims.jti →
        (Function.update g i { g i with created := some claims } j).moved = none := by
      intro j hj
      by_contra hmoved
      obtain ⟨t, ht⟩ := Option.ne_none_iff_exists'.1 hmoved
      obtain ⟨v, hv⟩ := hm.moved j t ht hj
      have hji : j = i := hfree (j, v) hv
      rw [hji, hown] at hj
      cases hj
    show MandateOk _ _ _ (Function.update s.mandates claims.jti _ claims.jti)
    rw [Function.update_self]
    refine ⟨hm.record, fun j v hv => ?_, fun j t ht hj => ?_⟩
    · rw [Cell.held_write] at hv
      cases hv
      refine ⟨m, rfl, .inl ⟨hrow, hstatus, ?_⟩⟩
      rw [Function.update_self]
      exact Option.some_ne_none claims
    · rw [hnone j hj] at ht
      cases ht
  · show MandateOk _ _ _ (Function.update s.mandates claims.jti _ id)
    rw [Function.update_of_ne hid]
    exact hother id

/-- **A transition** of the request's own mandate. -/
theorem DeskInv.move (h : DeskInv R start requests g s) {id : String} {m : Row}
    {target : MandateStatus} (hown : (requests i).mandate = some id)
    (hcreated : (g i).created = none) (hmoved : (g i).moved = none) (hsigned : (g i).signed = none)
    (hfree : (s.mandates id).Free i) (hseen : (s.mandates id).seen i = some m) :
    DeskInv R start requests (Function.update g i { g i with moved := some target })
      { s with
        mandates := Function.update s.mandates id
          ((s.mandates id).write i (some (m.moved target))) } := by
  refine ⟨fun id' => ?_, fun k => (h.challenges k).congr (fun _ => rfl) rfl⟩
  by_cases hid : id' = id
  · subst hid
    have hm := h.mandates id'
    have hnone := held_of_free hfree (hm.not_held hcreated hmoved)
    have hrow : (s.mandates id').row = some m := (Cell.seen_of_none hnone).symm.trans hseen
    show MandateOk _ _ _ (Function.update s.mandates id' _ id')
    rw [Function.update_self]
    refine ⟨fun j r hr hj => ?_, fun j v hv => ?_, fun j t ht hj => ?_⟩
    · have hsame := update_same Work.record (g := g) (i := i)
        (γ := { g i with moved := some target }) rfl
      rw [hsame] at hr
      exact hm.record j r hr hj
    · rw [Cell.held_write] at hv
      cases hv
      refine ⟨_, rfl, .inr ⟨m, hrow, hown, rfl, by rw [Function.update_self]; rfl, fun x hx => ?_⟩⟩
      rw [Function.update_self] at hx
      have hx : (g i).signed = some x := hx
      rw [hsigned] at hx
      cases hx
    · by_cases hji : j = i
      · exact ⟨_, by rw [hji]; rfl⟩
      · rw [Function.update_of_ne hji] at ht
        obtain ⟨v, hv⟩ := hm.moved j t ht hj
        rw [hnone] at hv
        cases hv
  · show MandateOk _ _ _ (Function.update s.mandates id _ id')
    rw [Function.update_of_ne hid]
    refine (h.mandates id').other (fun hown' => hid ?_) fun hne => hne
    exact Option.some.inj (hown'.symm.trans hown)

omit [DecidableEq ι] in
/-- The row of the request's own mandate, once its status is set. -/
theorem MandateOk.own {id : String} {c : Cell ι (Option Row)} (h : MandateOk requests g id c)
    (hown : (requests i).mandate = some id) (hcreated : (g i).created = none) {t : MandateStatus}
    (hmoved : (g i).moved = some t) :
    ∃ m₀ m, c.row = some m₀ ∧ c.held = some (i, some m) ∧ Moved (requests i) (g i) id m₀ m := by
  obtain ⟨v, hv⟩ := h.moved i t hmoved hown
  obtain ⟨m, rfl, hd | ⟨m₀, hm₀, hmv⟩⟩ := h.held i v hv
  · exact absurd hcreated hd.2.2
  · exact ⟨m₀, m, hm₀, hv, hmv⟩

/-- **The signed mandate**, on the row whose status the request has set. -/
theorem DeskInv.attach (h : DeskInv R start requests g s) {id sdJwt : String} {m r : Row}
    {t : MandateStatus} (hown : (requests i).mandate = some id) (hcreated : (g i).created = none)
    (hmoved : (g i).moved = some t) (hrecord : (g i).record = some r)
    (hseen : (s.mandates id).seen i = some m) :
    DeskInv R start requests (Function.update g i { g i with signed := some (sdJwt, r.claims) })
      { s with
        mandates := Function.update s.mandates id ((s.mandates id).write i
          (some { m with sdJwt := some sdJwt, claims := r.claims })) } := by
  refine ⟨fun id' => ?_, fun k => (h.challenges k).congr (fun _ => rfl) rfl⟩
  by_cases hid : id' = id
  · subst hid
    have hm := h.mandates id'
    obtain ⟨m₀, m', hrow, hheld, hmv⟩ := hm.own hown hcreated hmoved
    obtain rfl : m' = m := Option.some.inj ((Cell.seen_of_held hheld).symm.trans hseen)
    obtain ⟨m₁, hrow', hprofile⟩ := hm.record i r hrecord hown
    obtain rfl : m₀ = m₁ := Option.some.inj (hrow.symm.trans hrow')
    have hclaims : r.claims = m'.claims :=
      (Prod.mk.inj (hprofile.symm.trans hmv.profile.symm)).2
    show MandateOk _ _ _ (Function.update s.mandates id' _ id')
    rw [Function.update_self]
    refine ⟨fun j x hx hj => ?_, fun j v hv => ?_, fun j t' ht hj => ?_⟩
    · have hsame := update_same Work.record (g := g) (i := i)
        (γ := { g i with signed := some (sdJwt, r.claims) }) rfl
      rw [hsame] at hx
      exact hm.record j x hx hj
    · rw [Cell.held_write] at hv
      cases hv
      refine ⟨_, rfl, .inr ⟨m₀, hrow, hown, ?_, ?_, fun x hx => ?_⟩⟩
      · rw [hclaims]
        exact hmv.profile
      · rw [Function.update_self]
        exact hmv.status
      · rw [Function.update_self] at hx
        obtain rfl := Option.some.inj hx
        rfl
    · by_cases hji : j = i
      · exact ⟨_, by rw [hji]; rfl⟩
      · rw [Function.update_of_ne hji] at ht
        obtain ⟨v, hv⟩ := hm.moved j t' ht hj
        rw [hheld] at hv
        cases hv
        exact absurd rfl hji
  · show MandateOk _ _ _ (Function.update s.mandates id _ id')
    rw [Function.update_of_ne hid]
    refine (h.mandates id').other (fun hown' => hid ?_) fun hne => hne
    exact Option.some.inj (hown'.symm.trans hown)

omit [DecidableEq ι] in
/-- Who has neither issued nor consumed a challenge does not hold it. -/
theorem ChallengeOk.not_held {k : Key} {c : Cell ι (Option ChallengeRow)}
    (h : ChallengeOk R start requests g k c) (hissued : (g i).issued = none)
    (hchallenge : (g i).challenge = none) (v : Option ChallengeRow) : c.held ≠ some (i, v) := by
  intro hv
  obtain ⟨r, -, -, -, hr, -⟩ | ⟨r, t, -, -, -, hr⟩ := h.held i v hv
  · rw [hissued] at hr
    cases hr
  · rw [hchallenge] at hr
    cases hr

/-- **An issued challenge.** -/
theorem DeskInv.store (h : DeskInv R start requests g s) {r : ChallengeRow}
    (hissued : (g i).issued = none) (hchallenge : (g i).challenge = none)
    (hopen : r.consumedAt = none) (hissues : Issues R (requests i) r)
    (hfree : (s.challenges (keyOf r)).Free i) (hseen : (s.challenges (keyOf r)).seen i = none) :
    DeskInv R start requests (Function.update g i { g i with issued := some r })
      { s with
        challenges := Function.update s.challenges (keyOf r)
          ((s.challenges (keyOf r)).write i (some r)) } := by
  have hcongr : ∀ k, ChallengeOk R start requests
      (Function.update g i { g i with issued := some r }) k (s.challenges k) :=
    fun k => (h.challenges k).congr (fun hne => absurd hissued hne) rfl
  refine ⟨fun id => (h.mandates id).congr rfl rfl rfl rfl, fun k => ?_⟩
  by_cases hk : k = keyOf r
  · subst hk
    have hnone := held_of_free hfree ((h.challenges _).not_held hissued hchallenge)
    have hrow : (s.challenges (keyOf r)).row = none := (Cell.seen_of_none hnone).symm.trans hseen
    show ChallengeOk _ _ _ _ _ (Function.update s.challenges (keyOf r) _ (keyOf r))
    rw [Function.update_self]
    have hunspent : unspent r = r := by rw [unspent, ← hopen]
    refine ⟨(hcongr _).row, fun j v hv => ?_, fun j x hx hkey => ?_⟩
    · rw [Cell.held_write] at hv
      cases hv
      refine .inl ⟨r, rfl, hrow, rfl, by rw [Function.update_self], .inr ⟨i, ?_, ?_⟩⟩
      · rw [Function.update_self, hunspent]
      · rwa [hunspent]
    · obtain ⟨hx', -⟩ := (hcongr _).consumed j x hx hkey
      rw [hrow] at hx'
      cases hx'
  · show ChallengeOk _ _ _ _ _ (Function.update s.challenges (keyOf r) _ k)
    rw [Function.update_of_ne hk]
    exact hcongr k

/-- **A consumed challenge.** -/
theorem DeskInv.consume (h : DeskInv R start requests g s) {k : Key} {r : ChallengeRow} {t : ℤ}
    (hissued : (g i).issued = none) (hchallenge : (g i).challenge = none)
    (hopen : r.consumedAt = none) (hfree : (s.challenges k).Free i)
    (hseen : (s.challenges k).seen i = some r) :
    keyOf r = k ∧ DeskInv R start requests (Function.update g i { g i with challenge := some r })
      { s with
        challenges := Function.update s.challenges k
          ((s.challenges k).write i (some { r with consumedAt := some t })) } := by
  have hk := h.challenges k
  have hnone := held_of_free hfree (hk.not_held hissued hchallenge)
  have hrow : (s.challenges k).row = some r := (Cell.seen_of_none hnone).symm.trans hseen
  have hkey := (hk.row r hrow).1
  have hissued' : ∀ x, Issued R start requests g x →
      Issued R start requests (Function.update g i { g i with challenge := some r }) x :=
    fun x hx => hx.update fun _ => rfl
  have hsame := update_same Work.issued (g := g) (i := i)
    (γ := { g i with challenge := some r }) rfl
  refine ⟨hkey, fun id => (h.mandates id).congr rfl rfl rfl rfl, fun k' => ?_⟩
  by_cases hk' : k' = k
  · subst hk'
    show ChallengeOk _ _ _ _ _ (Function.update s.challenges k' _ k')
    rw [Function.update_self]
    refine ⟨fun x hx => ⟨(hk.row x hx).1, hissued' x (hk.row x hx).2⟩, fun j v hv => ?_,
      fun j x hx hxkey => ?_⟩
    · rw [Cell.held_write] at hv
      cases hv
      exact .inr ⟨r, t, rfl, hrow, hopen, by rw [Function.update_self]⟩
    · by_cases hji : j = i
      · subst hji
        rw [Function.update_self] at hx
        obtain rfl := Option.some.inj hx
        exact ⟨hrow, hopen, t, rfl⟩
      · rw [Function.update_of_ne hji] at hx
        obtain ⟨-, -, t', hheld⟩ := hk.consumed j x hx hxkey
        rw [hnone] at hheld
        cases hheld
  · show ChallengeOk _ _ _ _ _ (Function.update s.challenges k _ k')
    rw [Function.update_of_ne hk']
    have hc := h.challenges k'
    have hcell := hc.not_held hissued hchallenge
    refine ⟨fun x hx => ⟨(hc.row x hx).1, hissued' x (hc.row x hx).2⟩, fun j v hv => ?_,
      fun j x hx hxkey => ?_⟩
    · have hji : j ≠ i := by
        rintro rfl
        exact hcell v hv
      refine (hc.held j v hv).imp (fun hx => ?_) fun hx => ?_
      · obtain ⟨x, hv', hrow', hkey', hj, hfrom⟩ := hx
        exact ⟨x, hv', hrow', hkey', (hsame j).trans hj, hissued' x hfrom⟩
      · rw [Function.update_of_ne hji]
        exact hx
    · by_cases hji : j = i
      · subst hji
        rw [Function.update_self] at hx
        obtain rfl := Option.some.inj hx
        exact absurd (hxkey.symm.trans hkey) hk'
      · rw [Function.update_of_ne hji] at hx
        exact hc.consumed j x hx hxkey

/-! ## Ends of transactions -/

/-- What a request has read and issued outlasts its transaction. -/
theorem MandateOk.commit {id : String} {c : Cell ι (Option Row)} (h : MandateOk requests g id c) :
    MandateOk requests (Function.update g i (g i).ended) id (c.commit i) := by
  have hrecord := update_same Work.record (g := g) (i := i) (γ := (g i).ended) rfl
  refine ⟨fun j r hr hj => ?_, fun j v hv => ?_, fun j t ht hj => ?_⟩
  · rw [hrecord] at hr
    obtain ⟨m₁, hrow, hprofile⟩ := h.record j r hr hj
    rcases c.held_or_not i with ⟨v, hv⟩ | hnot
    · rw [Cell.commit_of_held hv]
      obtain ⟨m, rfl, hd | ⟨m₀, hm₀, hmv⟩⟩ := h.held i v hv
      · rw [hd.1] at hrow
        cases hrow
      · obtain rfl : m₀ = m₁ := Option.some.inj (hm₀.symm.trans hrow)
        exact ⟨m, rfl, hmv.profile.trans hprofile⟩
    · rw [Cell.commit_of_not hnot]
      exact ⟨m₁, hrow, hprofile⟩
  · have hji : j ≠ i := by
      rintro rfl
      exact Cell.not_held_commit hv
    rw [Cell.held_commit_iff hji] at hv
    rw [Cell.commit_of_not (fun u hu => hji ?_), Function.update_of_ne hji]
    · exact h.held j v hv
    · rw [hv] at hu
      cases hu
      rfl
  · have hji : j ≠ i := by
      rintro rfl
      rw [Function.update_self] at ht
      cases ht
    rw [Function.update_of_ne hji] at ht
    obtain ⟨v, hv⟩ := h.moved j t ht hj
    exact ⟨v, Cell.held_commit_ne hji hv⟩

theorem MandateOk.rollback {id : String} {c : Cell ι (Option Row)} (h : MandateOk requests g id c) :
    MandateOk requests (Function.update g i (g i).ended) id (c.rollback i) := by
  have hrecord := update_same Work.record (g := g) (i := i) (γ := (g i).ended) rfl
  refine ⟨fun j r hr hj => ?_, fun j v hv => ?_, fun j t ht hj => ?_⟩
  · rw [hrecord] at hr
    rw [Cell.row_rollback]
    exact h.record j r hr hj
  · have hji : j ≠ i := by
      rintro rfl
      exact Cell.not_held_rollback hv
    rw [Cell.row_rollback, Function.update_of_ne hji]
    exact h.held j v ((Cell.held_rollback_iff hji).1 hv)
  · have hji : j ≠ i := by
      rintro rfl
      rw [Function.update_self] at ht
      cases ht
    rw [Function.update_of_ne hji] at ht
    obtain ⟨v, hv⟩ := h.moved j t ht hj
    exact ⟨v, Cell.held_rollback_ne hji hv⟩

/-- The committed row of a challenge after a commit. -/
theorem ChallengeOk.row_commit {k : Key} {c : Cell ι (Option ChallengeRow)}
    (h : ChallengeOk R start requests g k c) {r : ChallengeRow} (hr : (c.commit i).row = some r) :
    keyOf r = k ∧ Issued R start requests g r := by
  rcases c.held_or_not i with ⟨v, hv⟩ | hnot
  · rw [Cell.commit_of_held hv] at hr
    obtain ⟨x, rfl, -, hkey, -, hfrom⟩ | ⟨x, t, rfl, hrow, -, -⟩ := h.held i v hv
    · obtain rfl := Option.some.inj hr
      exact ⟨hkey, hfrom⟩
    · obtain rfl := Option.some.inj hr
      exact h.row x hrow
  · rw [Cell.commit_of_not hnot] at hr
    exact h.row r hr

theorem ChallengeOk.commit {k : Key} {c : Cell ι (Option ChallengeRow)}
    (h : ChallengeOk R start requests g k c) :
    ChallengeOk R start requests (Function.update g i (g i).ended) k (c.commit i) := by
  have hissued : ∀ x, Issued R start requests g x →
      Issued R start requests (Function.update g i (g i).ended) x := fun x hx => hx.update fun _ => rfl
  have hsame := update_same Work.issued (g := g) (i := i) (γ := (g i).ended) rfl
  refine ⟨fun r hr => ⟨(h.row_commit hr).1, hissued r (h.row_commit hr).2⟩, fun j v hv => ?_,
    fun j r hr hkey => ?_⟩
  · have hji : j ≠ i := by
      rintro rfl
      exact Cell.not_held_commit hv
    rw [Cell.held_commit_iff hji] at hv
    rw [Cell.commit_of_not (fun u hu => hji ?_)]
    · refine (h.held j v hv).imp (fun hx => ?_) fun hx => ?_
      · obtain ⟨x, hv', hrow', hkey', hj, hfrom⟩ := hx
        exact ⟨x, hv', hrow', hkey', (hsame j).trans hj, hissued x hfrom⟩
      · rw [Function.update_of_ne hji]
        exact hx
    · rw [hv] at hu
      cases hu
      rfl
  · have hji : j ≠ i := by
      rintro rfl
      rw [Function.update_self] at hr
      cases hr
    rw [Function.update_of_ne hji] at hr
    obtain ⟨hrow, hopen, t, hheld⟩ := h.consumed j r hr hkey
    refine ⟨?_, hopen, t, Cell.held_commit_ne hji hheld⟩
    rw [Cell.commit_of_not (fun u hu => hji ?_)]
    · exact hrow
    · rw [hheld] at hu
      cases hu
      rfl

theorem ChallengeOk.rollback {k : Key} {c : Cell ι (Option ChallengeRow)}
    (h : ChallengeOk R start requests g k c) :
    ChallengeOk R start requests (Function.update g i (g i).ended) k (c.rollback i) := by
  have hissued : ∀ x, Issued R start requests g x →
      Issued R start requests (Function.update g i (g i).ended) x := fun x hx => hx.update fun _ => rfl
  have hsame := update_same Work.issued (g := g) (i := i) (γ := (g i).ended) rfl
  refine ⟨fun r hr => ?_, fun j v hv => ?_, fun j r hr hkey => ?_⟩
  · rw [Cell.row_rollback] at hr
    exact ⟨(h.row r hr).1, hissued r (h.row r hr).2⟩
  · have hji : j ≠ i := by
      rintro rfl
      exact Cell.not_held_rollback hv
    rw [Cell.row_rollback]
    refine (h.held j v ((Cell.held_rollback_iff hji).1 hv)).imp (fun hx => ?_) fun hx => ?_
    · obtain ⟨x, hv', hrow', hkey', hj, hfrom⟩ := hx
      exact ⟨x, hv', hrow', hkey', (hsame j).trans hj, hissued x hfrom⟩
    · rw [Function.update_of_ne hji]
      exact hx
  · have hji : j ≠ i := by
      rintro rfl
      rw [Function.update_self] at hr
      cases hr
    rw [Function.update_of_ne hji] at hr
    obtain ⟨hrow, hopen, t, hheld⟩ := h.consumed j r hr hkey
    exact ⟨by rw [Cell.row_rollback, hrow], hopen, t, Cell.held_rollback_ne hji hheld⟩

/-- The tables after a commit. -/
def committed (i : ι) (s : Desk ι) : Desk ι :=
  ⟨fun k => (s.mandates k).commit i, fun k => (s.challenges k).commit i, s.credentials.commit i,
    s.instruments.commit i, s.outbox ++ s.events i, Function.update s.events i []⟩

/-- The tables after a rollback. -/
def rolledBack (i : ι) (s : Desk ι) : Desk ι :=
  ⟨fun k => (s.mandates k).rollback i, fun k => (s.challenges k).rollback i,
    s.credentials.rollback i, s.instruments.rollback i, s.outbox, Function.update s.events i []⟩

/-- **A commit.** -/
theorem DeskInv.commit (h : DeskInv R start requests g s) :
    DeskInv R start requests (Function.update g i (g i).ended) (committed i s) :=
  ⟨fun id => (h.mandates id).commit, fun k => (h.challenges k).commit⟩

/-- **A rollback.** -/
theorem DeskInv.rollback (h : DeskInv R start requests g s) :
    DeskInv R start requests (Function.update g i (g i).ended) (rolledBack i s) :=
  ⟨fun id => (h.mandates id).rollback, fun k => (h.challenges k).rollback⟩

/-! ## What a step may do -/

/-- **What a request is about to commit**: no change of a status, or one by its gesture. -/
def Fit (R : Registry) (request : Request) (γ : Work) : Prop :=
  ∀ t, γ.moved = some t → γ.created = none ∧ ∃ id body purpose record r c,
    request.gesture = some (id, body, purpose, t) ∧ Gesture R body purpose γ record r c ∧
      (t = .active → γ.signed =
        some (R.sign record.claims (disclosable record.claims), record.claims))

theorem mandate_of_gesture {request : Request} {id : String} {body : Assertion} {purpose : Purpose}
    {t : MandateStatus} (h : request.gesture = some (id, body, purpose, t)) :
    request.mandate = some id := by
  cases request with
  | assert id' body' =>
    obtain ⟨rfl, -⟩ := Prod.mk.inj (Option.some.inj h)
    rfl
  | revoke id' body' =>
    obtain ⟨rfl, -⟩ := Prod.mk.inj (Option.some.inj h)
    rfl
  | _ => cases h

omit [DecidableEq ι] in
/-- A step that changes no committed row. -/
theorem stepOk_of_rows (hm : ∀ id, (s'.mandates id).row = (s.mandates id).row)
    (hc : ∀ k, (s'.challenges k).row = (s.challenges k).row) :
    StepOk R start requests g i s s' := by
  refine ⟨fun id hx => ?_, fun k r hr _ => (hc k).trans hr, fun id m hnone hsome => ?_⟩
  · obtain ⟨m, m', hrow, hrow', hne⟩ := hx
    rw [hm, hrow] at hrow'
    exact absurd (congrArg (·.status) (Option.some.inj hrow')) hne
  · rw [hm, hnone] at hsome
    cases hsome

/-- **The commit of a request** that is fit for it. -/
theorem stepOk_commit (h : DeskInv R start requests g s) (hfit : Fit R (requests i) (g i)) :
    StepOk R start requests g i s (committed i s) := by
  refine ⟨fun id hx => ?_, fun k r hr hspent => ?_, fun id m hnone hsome => ?_⟩
  · obtain ⟨m, m', hrow, hrow', hne⟩ := hx
    have hrow' : ((s.mandates id).commit i).row = some m' := hrow'
    rcases (s.mandates id).held_or_not i with ⟨v, hv⟩ | hnot
    · rw [Cell.commit_of_held hv] at hrow'
      obtain ⟨m₁, rfl, hd | ⟨m₀, hm₀, hmv⟩⟩ := (h.mandates id).held i v hv
      · rw [hd.1] at hrow
        cases hrow
      · obtain rfl : m₁ = m' := Option.some.inj hrow'
        obtain ⟨-, id', body, purpose, record, r, c, hgesture, hg, hsigned⟩ := hfit _ hmv.status
        obtain rfl : id' = id :=
          Option.some.inj ((mandate_of_gesture hgesture).symm.trans hmv.own)
        obtain ⟨m₂, hrow₂, hprofile⟩ := (h.mandates id').record i record hg.record hmv.own
        obtain rfl : m₀ = m₂ := Option.some.inj (hm₀.symm.trans hrow₂)
        obtain ⟨hchallenge, hopen, t, hheld⟩ := (h.challenges _).consumed i r hg.challenge rfl
        refine ⟨body, purpose, record, r, c, m₁, hgesture, hg, hchallenge,
          ((h.challenges _).row r hchallenge).2, ⟨r, t, hchallenge, hopen, ?_⟩, ?_,
          hmv.profile.trans hprofile, fun hactive => hmv.signed _ (hsigned hactive)⟩
        · show ((s.challenges (keyOf r)).commit i).row = _
          rw [Cell.commit_of_held hheld]
        · show ((s.mandates id').commit i).row = _
          rw [Cell.commit_of_held hv]
    · rw [Cell.commit_of_not hnot, hrow] at hrow'
      exact absurd (congrArg (·.status) (Option.some.inj hrow')) hne
  · show ((s.challenges k).commit i).row = some r
    rw [Cell.commit_of_not fun v hv => ?_, hr]
    obtain ⟨x, -, hnone, -⟩ | ⟨x, t, -, hrow, hopen, -⟩ := (h.challenges k).held i v hv
    · rw [hnone] at hr
      cases hr
    · obtain rfl : x = r := Option.some.inj (hrow.symm.trans hr)
      exact hspent hopen
  · have hsome : ((s.mandates id).commit i).row = some m := hsome
    rcases (s.mandates id).held_or_not i with ⟨v, hv⟩ | hnot
    · rw [Cell.commit_of_held hv] at hsome
      obtain ⟨m₁, rfl, hd | ⟨m₀, hm₀, -⟩⟩ := (h.mandates id).held i v hv
      · obtain rfl : m₁ = m := Option.some.inj hsome
        exact hd.2.1
      · rw [hnone] at hm₀
        cases hm₀
    · rw [Cell.commit_of_not hnot, hnone] at hsome
      cases hsome

end Invariant

end TryTrust.Api.Ceremonies
