import TryTrust.Api.CeremonyRows
import TryTrust.CanonicalJson

/-!
# Activation needs its own gesture

Whoever's requests run in whatever order, a mandate becomes active by the commit of one assertion of
its own user over its own claims, and a challenge serves for one change of a status.

* `Follows`, `call_follows`, `quiet_outline`: a call of a request; `Call.quiet`: the calls that touch
  neither the mandates nor the challenges;
* `verifyGesture_follows`, `moveTo_follows`, `assertPasskey_follows`, `revokeMandate_follows`,
  `answer_follows`: the routes keep the invariant, and end fit to be committed;
* `sound_step`, `spent_run`; `ActivatedBy`;
* **`activation_by_gesture`**.
-/

namespace TryTrust.Api.Ceremonies

open Conc Mandates

/-! ## Calls -/

section Requests

variable {R : Registry} {start : Tables} {ι : Type} [DecidableEq ι] {requests : ι → Request} {i : ι}
  {γ : Work} {ρ α β : Type}

/-- The specification of the requests. -/
def ceremonySpec (R : Registry) (start : Tables) (requests : ι → Request) :
    Spec ι (Call ι) Res Err (Desk ι) Work where
  inv := DeskInv R start requests
  ok _ _ _ _ := True
  prop g s i _ _ s' := StepOk R start requests g i s s'

/-- A part of a request keeps the invariant, and ends as it says, or raises. -/
abbrev Follows (R : Registry) (start : Tables) (requests : ι → Request) (i : ι)
    (A : α → Work → Prop) (p : Tx ι α) (γ : Work) : Prop :=
  Outline (ceremonySystem R ι) (ceremonySpec R start requests) i (ends A fun _ _ => True) p γ

theorem follows_bind {A : α → Work → Prop} {A' : β → Work → Prop} {p : Tx ι α} {f : α → Tx ι β}
    (hp : Follows R start requests i A p γ)
    (hf : ∀ a γ', A a γ' → Follows R start requests i A' (f a) γ') :
    Follows R start requests i A' (p.bind f) γ :=
  outline_bind_ends hp hf

/-- A call raises without an effect, or it runs. -/
theorem sem_cases (e : Outside) (op : Call ι) (s : Desk ι) :
    (∃ x, sem R e op s = (.error x, s)) ∨ sem R e op s = exec R e op s := by
  rw [sem]
  split
  · exact .inl ⟨_, rfl⟩
  · exact .inr rfl

omit [DecidableEq ι] in
theorem stepOk_same {g : ι → Work} {s : Desk ι} : StepOk R start requests g i s s :=
  stepOk_of_rows (fun _ => rfl) fun _ => rfl

theorem DeskInv.same {g : ι → Work} {s : Desk ι} (h : DeskInv R start requests g s) :
    DeskInv R start requests (Function.update g i (g i)) s := by
  rwa [Function.update_eq_self]

/-- **One call** of a request, that raises without an effect or does what it does. -/
theorem call_follows {op : Call ι} {A : Res op → Work → Prop}
    (h : ∀ e g s, g i = γ → DeskInv R start requests g s →
      (∃ x, exec R e op s = (.error x, s)) ∨ ∃ a s', exec R e op s = (.ok a, s') ∧
        DeskInv R start requests (Function.update g i (γ.next op a)) s' ∧
        StepOk R start requests g i s s' ∧ A a (γ.next op a)) :
    Follows R start requests i A (call op) γ := by
  refine outline_perform_eq fun g s e hg hinv _ => ?_
  have hraised : ∀ x, sem R e op s = (.error x, s) →
      ∃ r s' γ', (ceremonySystem R ι).sem e op s = (r, s') ∧
        (ceremonySystem R ι).adv i γ s op r = γ' ∧
        DeskInv R start requests (Function.update g i γ') s' ∧
          StepOk R start requests g i s s' ∧ ends A (fun _ _ => True) r γ' := by
    intro x hx
    refine ⟨_, _, γ, hx, rfl, ?_, stepOk_same, trivial⟩
    rw [← hg]
    exact hinv.same
  rcases sem_cases e op s with ⟨x, hx⟩ | hexec
  · exact hraised x hx
  · rcases h e g s hg hinv with ⟨x, hx⟩ | ⟨a, s', ha, hinv', hstep, hA⟩
    · exact hraised x (hexec.trans hx)
    · exact ⟨_, _, _, hexec.trans ha, rfl, hinv', hstep, hA⟩

/-- The calls that touch neither the mandates nor the challenges. -/
def Call.quiet : Call ι → Bool
  | .credentialsFor .. | .getCredential .. | .storeCredential .. | .advanceSignCount .. => true
  | .linkInstrument .. | .instrumentsFor .. | .markInstrumentDeleted .. | .emitEvent .. => true
  | .now _ | .buildClaims .. | .newChallenge _ | .createSetupToken .. => true
  | .deletePaymentToken .. => true
  | _ => false

theorem exec_quiet {op : Call ι} (h : op.quiet = true) (e : Outside) (s : Desk ι) :
    (exec R e op s).2.mandates = s.mandates ∧ (exec R e op s).2.challenges = s.challenges := by
  have hcredential : ∀ {δ : Type} (id : String)
      (x : Except Err (δ × Cell ι (Option Credential))),
      (onCredential s id x).2.mandates = s.mandates ∧
        (onCredential s id x).2.challenges = s.challenges := by
    intro δ id x
    cases x <;> exact ⟨rfl, rfl⟩
  have hinstrument : ∀ {δ : Type} (ref : String)
      (x : Except Err (δ × Cell ι (Option Instrument))),
      (onInstrument s ref x).2.mandates = s.mandates ∧
        (onInstrument s ref x).2.challenges = s.challenges := by
    intro δ ref x
    cases x <;> exact ⟨rfl, rfl⟩
  cases op with
  | storeCredential => exact hcredential _ _
  | advanceSignCount => exact hcredential _ _
  | linkInstrument => exact hinstrument _ _
  | markInstrumentDeleted => exact hinstrument _ _
  | credentialsFor => exact ⟨rfl, rfl⟩
  | getCredential => exact ⟨rfl, rfl⟩
  | instrumentsFor => exact ⟨rfl, rfl⟩
  | emitEvent => exact ⟨rfl, rfl⟩
  | now => exact ⟨rfl, rfl⟩
  | buildClaims => exact ⟨rfl, rfl⟩
  | newChallenge => exact ⟨rfl, rfl⟩
  | createSetupToken => exact ⟨rfl, rfl⟩
  | deletePaymentToken => exact ⟨rfl, rfl⟩
  | _ => cases h

omit [DecidableEq ι] in
theorem next_quiet {op : Call ι} (h : op.quiet = true) (γ : Work) (a : Res op) :
    ∃ c t, γ.next op a = { γ with credential := c, moment := t } := by
  cases op with
  | getCredential => exact ⟨a, γ.moment, rfl⟩
  | now =>
    by_cases hmoved : γ.moved = none
    · exact ⟨γ.credential, a, if_pos hmoved⟩
    · exact ⟨γ.credential, γ.moment, if_neg hmoved⟩
  | credentialsFor => exact ⟨_, _, rfl⟩
  | storeCredential => exact ⟨_, _, rfl⟩
  | advanceSignCount => exact ⟨_, _, rfl⟩
  | linkInstrument => exact ⟨_, _, rfl⟩
  | instrumentsFor => exact ⟨_, _, rfl⟩
  | markInstrumentDeleted => exact ⟨_, _, rfl⟩
  | emitEvent => exact ⟨_, _, rfl⟩
  | buildClaims => exact ⟨_, _, rfl⟩
  | newChallenge => exact ⟨_, _, rfl⟩
  | createSetupToken => exact ⟨_, _, rfl⟩
  | deletePaymentToken => exact ⟨_, _, rfl⟩
  | _ => cases h

/-- **A quiet call**, whether it raises or not. -/
theorem quiet_outline {op : Call ι} (h : op.quiet = true) :
    Outline (ceremonySystem R ι) (ceremonySpec R start requests) i
      (ends (fun a γ' => γ' = γ.next op a) fun _ γ' => γ' = γ) (call op) γ := by
  refine outline_perform fun g s e hg hinv _ => ?_
  have hsem : (sem R e op s).2.mandates = s.mandates ∧
      (sem R e op s).2.challenges = s.challenges := by
    rcases sem_cases e op s with ⟨x, hx⟩ | hexec
    · rw [hx]
      exact ⟨rfl, rfl⟩
    · rw [hexec]
      exact exec_quiet h e s
  obtain ⟨hm, hc⟩ := hsem
  refine ⟨?_, stepOk_of_rows (fun id => by rw [← congrFun hm id]; rfl)
    (fun k => by rw [← congrFun hc k]; rfl), ?_⟩
  · subst hg
    show DeskInv R start requests (Function.update g i ((ceremonySystem R ι).adv i (g i) s op
      (sem R e op s).1)) (sem R e op s).2
    cases hr : (sem R e op s).1 with
    | error x => exact hinv.same.tables hm hc
    | ok a =>
      obtain ⟨c, t, hnext⟩ := next_quiet h (g i) a
      show DeskInv R start requests (Function.update g i ((g i).next op a)) (sem R e op s).2
      rw [hnext]
      exact hinv.quiet hm hc
  · show ends _ _ (sem R e op s).1 ((ceremonySystem R ι).adv i γ s op (sem R e op s).1)
    cases (sem R e op s).1 with
    | error x => rfl
    | ok a => rfl

theorem quiet_follows {op : Call ι} (h : op.quiet = true) :
    Follows R start requests i (fun a γ' => γ' = γ.next op a) (call op) γ := by
  refine outline_mono (fun r γ' hr => ?_) (quiet_outline h)
  cases r with
  | ok a => exact hr
  | error x => trivial

/-- A call that leaves no trace. -/
theorem keep_follows {op : Call ι} (h : op.quiet = true) (hsame : ∀ a, γ.next op a = γ) :
    Follows R start requests i (fun _ γ' => γ' = γ) (call op) γ :=
  outline_mono (fun r γ' hr => by
    cases r with
    | ok a => exact hr.trans (hsame a)
    | error x => trivial) (quiet_outline h)

/-- The clock, before the transition. -/
theorem now_follows (hmoved : γ.moved = none) :
    Follows R start requests i (fun (t : ℤ) γ' => γ' = { γ with moment := t }) (call (.now i)) γ :=
  outline_mono (fun r γ' hr => by
    cases r with
    | ok a => exact hr.trans (if_pos hmoved)
    | error x => trivial) (quiet_outline rfl)

/-- A quiet call whose exception is caught. -/
theorem attempt_follows {op : Call ι} (h : op.quiet = true) (hsame : ∀ a, γ.next op a = γ) :
    Follows R start requests i (fun _ γ' => γ' = γ) ((call op).attempt) γ := by
  refine outline_mono (fun r γ' hr => ?_) (outline_attempt (quiet_outline h))
  obtain ⟨done, rfl, hdone⟩ := hr
  cases done with
  | ok a => exact hdone.trans (hsame a)
  | error x => exact hdone

/-! ## Rows -/

/-- **A guarded `UPDATE`** waits in vain, matches nothing, or rewrites the newest row. -/
theorem rewriteRow_cases (guard : ρ → Bool) (f : ρ → ρ) (c : Cell ι (Option ρ)) :
    (∃ x, rewriteRow i guard f c = .error x) ∨
      (c.seen i).filter guard = none ∧ rewriteRow i guard f c = .ok (none, c) ∨
      ∃ r, c.seen i = some r ∧ guard r = true ∧ c.Free i ∧
        rewriteRow i guard f c = .ok (some r, c.write i (some (f r))) := by
  rw [rewriteRow]
  cases hseen : (c.seen i).filter guard with
  | none => exact .inr (.inl ⟨rfl, rfl⟩)
  | some r =>
    obtain ⟨hsome, hguard⟩ := Option.filter_eq_some_iff.1 hseen
    by_cases hfree : c.Free i
    · exact .inr (.inr ⟨r, hsome, hguard, hfree, if_pos hfree⟩)
    · exact .inl ⟨_, if_neg hfree⟩

/-- **An `INSERT`** waits in vain, finds its key taken, or inserts. -/
theorem insertRow_cases (r : ρ) (c : Cell ι (Option ρ)) :
    (∃ x, insertRow i r c = .error x) ∨
      c.Free i ∧ c.seen i = none ∧ insertRow i r c = .ok ((), c.write i (some r)) := by
  rw [insertRow]
  by_cases hfree : c.Free i
  · cases hseen : c.seen i with
    | none => exact .inr ⟨hfree, rfl, (if_neg (not_not.2 hfree)).trans (if_neg (by simp))⟩
    | some x => exact .inl ⟨_, (if_neg (not_not.2 hfree)).trans (if_pos rfl)⟩
  · exact .inl ⟨_, if_pos hfree⟩

omit [DecidableEq ι] in
/-- A write changes no committed row. -/
theorem row_update {κ : Type} [DecidableEq κ] {f : κ → Cell ι (Option ρ)} {k : κ} {v : Option ρ}
    (k' : κ) : (Function.update f k ((f k).write i v) k').row = (f k').row := by
  by_cases hk : k' = k
  · rw [hk, Function.update_self, Cell.row_write]
  · rw [Function.update_of_ne hk]

omit [DecidableEq ι] in
theorem onMandate_none {s : Desk ι} {id : String} :
    onMandate s id (.ok ((none : Option Row), s.mandates id)) = (.ok none, s) := by
  rw [onMandate, Function.update_eq_self]

omit [DecidableEq ι] in
theorem onChallenge_none {s : Desk ι} {k : Key} :
    onChallenge s k (.ok ((none : Option ChallengeRow), s.challenges k)) = (.ok none, s) := by
  rw [onChallenge, Function.update_eq_self]

/-- No transaction is open. -/
structure Idle (γ : Work) : Prop where
  challenge : γ.challenge = none
  created : γ.created = none
  moved : γ.moved = none
  signed : γ.signed = none

omit [DecidableEq ι] in
theorem Idle.fit (h : Idle γ) : Fit R (requests i) γ := by
  intro t ht
  rw [h.moved] at ht
  cases ht

/-- **The mandate of a request is read.** -/
theorem select_follows {id : String} (hown : (requests i).mandate = some id)
    (hcreated : γ.created = none) (hmoved : γ.moved = none) :
    Follows R start requests i (fun row γ' => γ' = { γ with record := row })
      (call (.selectMandate i id)) γ := by
  refine call_follows fun e g s hg hinv => .inr ⟨_, s, rfl, ?_, stepOk_same, rfl⟩
  subst hg
  exact hinv.read hown hcreated hmoved

/-- **A challenge is stored.** -/
theorem store_follows {r : ChallengeRow} (hissued : γ.issued = none) (hchallenge : γ.challenge = none)
    (hopen : r.consumedAt = none) (hissues : Issues R (requests i) r) :
    Follows R start requests i (fun _ γ' => γ' = { γ with issued := some r })
      (call (.storeChallenge i r)) γ := by
  refine call_follows fun e g s hg hinv => ?_
  subst hg
  rcases insertRow_cases (i := i) r (s.challenges (keyOf r)) with ⟨x, hx⟩ | ⟨hfree, hseen, hok⟩
  · exact .inl ⟨x, by rw [exec, hx]; rfl⟩
  · refine .inr ⟨(), _, by rw [exec, hok]; rfl, hinv.store hissued hchallenge hopen hissues hfree
      hseen, stepOk_of_rows (fun _ => rfl) fun k => row_update k, rfl⟩

/-- **A challenge is consumed**, or none is open. -/
theorem consume_follows {value : String} {purpose : Purpose} (hissued : γ.issued = none)
    (hchallenge : γ.challenge = none) :
    Follows R start requests i (fun row γ' => ∀ r, row = some r →
      keyOf r = (value, purpose) ∧ γ' = { γ with challenge := some r })
      (call (.consumeChallenge i value purpose)) γ := by
  refine call_follows fun e g s hg hinv => ?_
  subst hg
  rcases rewriteRow_cases (i := i) (fun r : ChallengeRow => r.consumedAt.isNone)
      (fun r => { r with consumedAt := some e.now }) (s.challenges (value, purpose)) with
    ⟨x, hx⟩ | ⟨-, hok⟩ | ⟨r, hseen, hopen, hfree, hok⟩
  · exact .inl ⟨x, by rw [exec, hx]; rfl⟩
  · refine .inr ⟨none, s, by rw [exec, hok]; exact onChallenge_none, hinv.same, stepOk_same, ?_⟩
    rintro r ⟨⟩
  · obtain ⟨hkey, hinv'⟩ := hinv.consume (t := e.now) hissued hchallenge
      (Option.isNone_iff_eq_none.1 hopen) hfree hseen
    refine .inr ⟨some r, _, by rw [exec, hok]; rfl, hinv',
      stepOk_of_rows (fun _ => rfl) fun k => row_update k, ?_⟩
    rintro x hx
    obtain rfl := Option.some.inj hx
    exact ⟨hkey, rfl⟩

/-- **A mandate is inserted.** -/
theorem insert_follows {claims : Claims} (hown : (requests i).mandate = none) :
    Follows R start requests i (fun _ γ' => γ' = { γ with created := some claims })
      (call (.insertMandate i claims)) γ := by
  refine call_follows fun e g s hg hinv => ?_
  subst hg
  rcases insertRow_cases (i := i) (⟨⟨claims.sub, .draft, claims, 1⟩, none⟩ : Row)
      (s.mandates claims.jti) with ⟨x, hx⟩ | ⟨hfree, hseen, hok⟩
  · exact .inl ⟨x, by rw [exec, hx]; rfl⟩
  · exact .inr ⟨(), _, by rw [exec, hok]; rfl, hinv.draft hown hfree hseen rfl,
      stepOk_of_rows (fun id => row_update id) fun _ => rfl, rfl⟩

/-- **The status of the request's own mandate is set**, or the transition is refused. -/
theorem update_follows {id : String} {target : MandateStatus}
    (hown : (requests i).mandate = some id) (hcreated : γ.created = none) (hmoved : γ.moved = none)
    (hsigned : γ.signed = none) :
    Follows R start requests i (fun row γ' => (row = none → γ' = γ) ∧
      (row ≠ none → γ' = { γ with moved := some target }))
      (call (.updateStatus i id target)) γ := by
  refine call_follows fun e g s hg hinv => ?_
  subst hg
  rcases rewriteRow_cases (i := i) (fun m : Row => decide (m.status ∈ sourcesFor target))
      (Row.moved target) (s.mandates id) with ⟨x, hx⟩ | ⟨-, hok⟩ | ⟨m, hseen, -, hfree, hok⟩
  · exact .inl ⟨x, by rw [exec, hx]; rfl⟩
  · exact .inr ⟨none, s, by rw [exec, hok]; exact onMandate_none, hinv.same, stepOk_same,
      fun _ => rfl, fun hne => absurd rfl hne⟩
  · exact .inr ⟨some m, _, by rw [exec, hok]; rfl,
      hinv.move hown hcreated hmoved hsigned hfree hseen,
      stepOk_of_rows (fun id => row_update id) fun _ => rfl, fun hnone => (by cases hnone),
      fun _ => rfl⟩

/-- **The signed mandate is attached.** -/
theorem attach_follows {id sdJwt : String} {r : Row} {t : MandateStatus}
    (hown : (requests i).mandate = some id) (hcreated : γ.created = none)
    (hmoved : γ.moved = some t) (hrecord : γ.record = some r) :
    Follows R start requests i (fun _ γ' => γ' = { γ with signed := some (sdJwt, r.claims) })
      (call (.attachSdJwt i id sdJwt r.claims)) γ := by
  refine call_follows fun e g s hg hinv => ?_
  subst hg
  rcases rewriteRow_cases (i := i) (fun _ : Row => true)
      (fun m => { m with sdJwt := some sdJwt, claims := r.claims }) (s.mandates id) with
    ⟨x, hx⟩ | ⟨hnone, -⟩ | ⟨m, hseen, -, hfree, hok⟩
  · exact .inl ⟨x, by rw [exec, hx]; rfl⟩
  · obtain ⟨m₀, m, -, hheld, -⟩ := (hinv.mandates id).own hown hcreated hmoved
    rw [Cell.seen_of_held hheld] at hnone
    cases hnone
  · exact .inr ⟨some m, _, by rw [exec, hok]; rfl, hinv.attach hown hcreated hmoved hrecord hseen,
      stepOk_of_rows (fun id => row_update id) fun _ => rfl, rfl⟩

/-- **A commit.** -/
theorem commit_follows (h : Fit R (requests i) γ) :
    Follows R start requests i (fun _ γ' => γ' = γ.ended) (call (.commit i)) γ := by
  refine call_follows fun e g s hg hinv => ?_
  subst hg
  exact .inr ⟨(), _, rfl, hinv.commit, stepOk_commit hinv h, rfl⟩

theorem rollback_follows :
    Follows R start requests i (fun _ _ => True) (call (.rollback i)) γ := by
  refine call_follows fun e g s hg hinv => ?_
  subst hg
  refine .inr ⟨(), _, rfl, hinv.rollback, stepOk_of_rows (fun id => ?_) (fun k => ?_), trivial⟩
  · exact Cell.row_rollback
  · exact Cell.row_rollback

/-! ## Routes -/

/-- What an assertion that is accepted was checked for. -/
theorem verifyAssertion_accepts {P : Passkeys} {d : Mandates.Desk} {body : Assertion}
    {r : ChallengeRow} {c : Credential} {claims : Claims} {n : ℕ}
    (h : verifyAssertion P d body r c claims = .ok n) :
    d.now ≤ r.expiresAt ∧ r.challenge = P.mandateChallenge claims ∧
      P.verifyAuthentication body r.challenge c.publicKey c.signCount = some n := by
  have hhash := verifyAssertion_ok h
  rw [verifyAssertion] at h
  split_ifs at h with hlate hne
  cases hv : P.verifyAuthentication body r.challenge c.publicKey c.signCount with
  | none =>
    rw [hv] at h
    cases h
  | some n' =>
    rw [hv] at h
    dsimp only at h
    split_ifs at h
    exact ⟨not_lt.1 hlate, hhash, congrArg some (Except.ok.inj h)⟩

/-- **A request after its gesture**, before its transition. -/
structure Gestured (R : Registry) (body : Assertion) (purpose : Purpose) (record : Row) (γ : Work) :
    Prop where
  created : γ.created = none
  moved : γ.moved = none
  signed : γ.signed = none
  gesture : ∃ r c, Gesture R body purpose γ record r c

/-- **`_verify_gesture`** returns the claims of the mandate after a gesture over them. -/
theorem verifyGesture_follows {record : Row} {body : Assertion} {purpose : Purpose} (h : Idle γ)
    (hissued : γ.issued = none) (hrecord : γ.record = some record) :
    Follows R start requests i
      (fun claims γ' => claims = record.claims ∧ Gestured R body purpose record γ')
      (verifyGesture R i record body purpose) γ := by
  refine follows_bind (consume_follows hissued h.challenge) fun row γ₁ h₁ => ?_
  cases row with
  | none => trivial
  | some r =>
    obtain ⟨hkey, rfl⟩ := h₁ r rfl
    rw [gestureWith]
    split_ifs with hpurpose
    · trivial
    · refine follows_bind (quiet_follows rfl) fun c γ₂ h₂ => ?_
      subst h₂
      cases c with
      | none => trivial
      | some c =>
        rw [checkWith]
        split_ifs with howner
        · trivial
        · refine follows_bind (now_follows h.moved) fun t γ₃ h₃ => ?_
          subst h₃
          cases hv : verifyAssertion R.passkeys (clock t) body r c record.claims with
          | error x => trivial
          | ok n =>
            obtain ⟨htime, hhash, hverified⟩ := verifyAssertion_accepts hv
            refine follows_bind (keep_follows rfl fun _ => rfl) fun _ γ₄ h₄ => ?_
            subst h₄
            exact ⟨rfl, h.created, h.moved, h.signed, r, c, hrecord, rfl, rfl, hkey,
              not_not.1 howner, htime, hhash, n, hverified⟩

/-- **A request after its transition.** -/
structure Advanced (R : Registry) (body : Assertion) (purpose : Purpose) (target : MandateStatus)
    (record : Row) (γ : Work) : Prop where
  created : γ.created = none
  moved : γ.moved = some target
  gesture : ∃ r c, Gesture R body purpose γ record r c

/-- **`transition`** after a gesture, or the request is refused. -/
theorem moveTo_follows {id default : String} {record : Row} {body : Assertion} {purpose : Purpose}
    {target : MandateStatus} (hown : (requests i).mandate = some id)
    (h : Gestured R body purpose record γ) :
    Follows R start requests i (fun _ γ' => Advanced R body purpose target record γ')
      (moveTo i id target default) γ := by
  refine follows_bind (update_follows hown h.created h.moved h.signed) fun row γ₁ h₁ => ?_
  obtain ⟨r, c, hg⟩ := h.gesture
  cases row with
  | none =>
    obtain rfl := h₁.1 rfl
    exact follows_bind (select_follows hown h.created h.moved) fun _ _ _ => trivial
  | some m =>
    obtain rfl := h₁.2 (Option.some_ne_none m)
    exact ⟨h.created, rfl, r, c, hg.record, hg.challenge, hg.credential, hg.key, hg.owner,
      hg.inTime, hg.hash, hg.verified⟩

/-- The link of an instrument is quiet. -/
theorem link_follows (claims : Claims) (ref : Option String) :
    Follows R start requests i (fun _ γ' => γ' = γ) (link i claims ref) γ := by
  cases ref with
  | none => rfl
  | some ref =>
    refine follows_bind (keep_follows rfl fun _ => rfl) fun _ γ₁ h₁ => ?_
    subst h₁
    exact keep_follows rfl fun _ => rfl

/-- **The signature** over the claims of the gesture. -/
theorem signWith_follows {id : String} {record : Row} {body : Assertion}
    (hgesture : (requests i).gesture = some (id, body, .activate, .active))
    (h : Advanced R body .activate .active record γ) :
    Follows R start requests i (fun _ γ' => Fit R (requests i) γ')
      (signWith R i id record.claims record.claims) γ := by
  obtain ⟨r, c, hg⟩ := h.gesture
  refine follows_bind (attach_follows (mandate_of_gesture hgesture) h.created h.moved hg.record)
    fun _ γ₁ h₁ => ?_
  subst h₁
  refine follows_bind (link_follows _ _) fun _ γ₂ h₂ => ?_
  subst h₂
  refine follows_bind (keep_follows rfl fun _ => rfl) fun _ γ₃ h₃ => ?_
  subst h₃
  intro t ht
  obtain rfl : MandateStatus.active = t := Option.some.inj (h.moved.symm.trans ht)
  exact ⟨h.created, id, body, .activate, record, r, c, hgesture, ⟨hg.record, hg.challenge,
    hg.credential, hg.key, hg.owner, hg.inTime, hg.hash, hg.verified⟩, fun _ => rfl⟩

/-- **`assert_passkey`**. -/
theorem assertPasskey_follows {id : String} {body : Assertion}
    (hgesture : (requests i).gesture = some (id, body, .activate, .active)) (h : Idle γ)
    (hissued : γ.issued = none) :
    Follows R start requests i (fun _ γ' => Fit R (requests i) γ') (assertPasskey R i id body) γ := by
  have hown := mandate_of_gesture hgesture
  refine follows_bind (select_follows hown h.created h.moved) fun row γ₁ h₁ => ?_
  subst h₁
  cases row with
  | none => trivial
  | some record =>
    refine follows_bind (verifyGesture_follows ⟨h.challenge, h.created, h.moved, h.signed⟩ hissued
      rfl) ?_
    rintro claims γ₂ ⟨rfl, h₂⟩
    exact follows_bind (moveTo_follows hown h₂) fun _ γ₃ h₃ => signWith_follows hgesture h₃

/-- The deletions at the rail are quiet. -/
theorem deleteTokens_follows (refs : List String) :
    Follows R start requests i (fun _ γ' => γ' = γ) (deleteTokens i refs) γ := by
  induction refs with
  | nil => rfl
  | cons ref refs ih =>
    have hdelete : Outline (ceremonySystem R ι) (ceremonySpec R start requests) i
        (ends (fun _ γ' => γ' = γ) fun _ γ' => γ' = γ) (deleteToken i ref) γ := by
      refine outline_bind_ends (quiet_outline rfl) fun _ γ₁ h₁ => ?_
      subst h₁
      refine outline_bind_ends (quiet_outline rfl) fun _ γ₂ h₂ => ?_
      exact h₂
    refine follows_bind (A := fun _ γ' => γ' = γ) ?_ fun _ γ₁ h₁ => ?_
    · refine outline_mono (fun r γ' hr => ?_) (outline_attempt hdelete)
      obtain ⟨done, rfl, hdone⟩ := hr
      cases done <;> exact hdone
    · subst h₁
      exact ih

/-- **The commit of a revocation**, and what follows it. -/
theorem killSwitch_follows {id : String} {record : Row} {body : Assertion}
    (hgesture : (requests i).gesture = some (id, body, .revoke, .revoked))
    (h : Advanced R body .revoke .revoked record γ) :
    Follows R start requests i (fun _ γ' => Fit R (requests i) γ') (killSwitch R i id record) γ := by
  obtain ⟨r, c, hg⟩ := h.gesture
  have hmoved : γ.moved ≠ none := by
    rw [h.moved]
    exact Option.some_ne_none _
  refine follows_bind (keep_follows rfl fun _ => if_neg hmoved) fun _ γ₁ h₁ => ?_
  subst h₁
  refine follows_bind (keep_follows rfl fun _ => rfl) fun _ γ₂ h₂ => ?_
  subst h₂
  refine follows_bind (keep_follows rfl fun _ => rfl) fun refs γ₃ h₃ => ?_
  subst h₃
  refine follows_bind (commit_follows fun t ht => ?_) fun _ γ₄ h₄ => ?_
  · obtain rfl : MandateStatus.revoked = t := Option.some.inj (h.moved.symm.trans ht)
    exact ⟨h.created, id, body, .revoke, record, r, c, hgesture, hg, fun hx => by cases hx⟩
  · subst h₄
    refine follows_bind (deleteTokens_follows refs) fun _ γ₅ h₅ => ?_
    subst h₅
    refine follows_bind (select_follows (mandate_of_gesture hgesture) rfl rfl) fun row γ₆ h₆ => ?_
    subst h₆
    cases row with
    | none => trivial
    | some m => exact Idle.fit ⟨rfl, rfl, rfl, rfl⟩

/-- **`revoke_mandate`**. -/
theorem revokeMandate_follows {id : String} {body : Assertion}
    (hgesture : (requests i).gesture = some (id, body, .revoke, .revoked)) (h : Idle γ)
    (hissued : γ.issued = none) :
    Follows R start requests i (fun _ γ' => Fit R (requests i) γ') (revokeMandate R i id body) γ := by
  have hown := mandate_of_gesture hgesture
  refine follows_bind (select_follows hown h.created h.moved) fun row γ₁ h₁ => ?_
  subst h₁
  cases row with
  | none => trivial
  | some record =>
    refine follows_bind (verifyGesture_follows ⟨h.challenge, h.created, h.moved, h.signed⟩ hissued
      rfl) ?_
    rintro claims γ₂ ⟨rfl, h₂⟩
    exact follows_bind (moveTo_follows hown h₂) fun _ γ₃ h₃ => killSwitch_follows hgesture h₃

/-- **`begin_revoke`**. -/
theorem beginRevoke_follows {id : String} (hrequest : requests i = .beginRevoke id) (h : Idle γ)
    (hissued : γ.issued = none) :
    Follows R start requests i (fun _ γ' => Fit R (requests i) γ') (beginRevoke R i id) γ := by
  have hown : (requests i).mandate = some id := by
    rw [hrequest]
    rfl
  refine follows_bind (select_follows hown h.created h.moved) fun row γ₁ h₁ => ?_
  subst h₁
  cases row with
  | none => trivial
  | some record =>
    refine follows_bind (keep_follows rfl fun _ => rfl) fun credentials γ₂ h₂ => ?_
    subst h₂
    cases credentials with
    | nil => trivial
    | cons c cs =>
      refine follows_bind (now_follows h.moved) fun t γ₃ h₃ => ?_
      subst h₃
      refine follows_bind (store_follows hissued h.challenge rfl ?_) fun _ γ₄ h₄ => ?_
      · rw [hrequest]
        exact ⟨record.claims, t, rfl⟩
      · subst h₄
        exact Idle.fit ⟨h.challenge, h.created, h.moved, h.signed⟩

/-- **`create_mandate`**. -/
theorem createMandate_follows {body : MandateCreate} (hrequest : requests i = .create body)
    (h : Idle γ) (hissued : γ.issued = none) :
    Follows R start requests i (fun _ γ' => Fit R (requests i) γ') (createMandate R i body) γ := by
  have hown : (requests i).mandate = none := by
    rw [hrequest]
    rfl
  have hclaims : Follows R start requests i (fun (claims : Claims) γ' => claims.sub = body.userId ∧
      γ' = γ) (call (.buildClaims i body)) γ := by
    refine call_follows fun e g s hg hinv => .inr ⟨_, s, rfl, ?_, stepOk_same, rfl, rfl⟩
    subst hg
    exact hinv.same
  refine follows_bind hclaims ?_
  rintro claims γ₁ ⟨hsub, rfl⟩
  refine follows_bind (insert_follows hown) fun _ γ₂ h₂ => ?_
  subst h₂
  refine follows_bind (keep_follows rfl fun _ => rfl) fun credentials γ₃ h₃ => ?_
  subst h₃
  cases credentials with
  | nil => trivial
  | cons c cs =>
    refine follows_bind (now_follows h.moved) fun t γ₄ h₄ => ?_
    subst h₄
    refine follows_bind (store_follows hissued h.challenge rfl ?_) fun _ γ₅ h₅ => ?_
    · rw [hrequest]
      exact ⟨claims, t, hsub, rfl⟩
    · subst h₅
      refine follows_bind (attempt_follows rfl fun _ => rfl) fun _ γ₆ h₆ => ?_
      subst h₆
      refine follows_bind (keep_follows rfl fun _ => rfl) fun _ γ₇ h₇ => ?_
      subst h₇
      intro x hx
      have hx : γ₁.moved = some x := hx
      rw [h.moved] at hx
      cases hx

/-- The registration of a passkey sets no status. -/
theorem beginRegistration_follows {userId : String}
    (hrequest : requests i = .beginRegistration userId) (h : Idle γ) (hissued : γ.issued = none) :
    Follows R start requests i (fun _ γ' => Fit R (requests i) γ') (beginRegistration R i userId)
      γ := by
  refine follows_bind (keep_follows rfl fun _ => rfl) fun value γ₁ h₁ => ?_
  subst h₁
  refine follows_bind (now_follows h.moved) fun t γ₂ h₂ => ?_
  subst h₂
  refine follows_bind (store_follows hissued h.challenge rfl ?_) fun _ γ₃ h₃ => ?_
  · rw [hrequest]
    exact ⟨rfl, rfl⟩
  · subst h₃
    exact Idle.fit ⟨h.challenge, h.created, h.moved, h.signed⟩

theorem completeRegistration_follows {value response : String} (h : Idle γ)
    (hissued : γ.issued = none) :
    Follows R start requests i (fun _ γ' => Fit R (requests i) γ')
      (completeRegistration R i value response) γ := by
  have hfit : ∀ γ' : Work, γ'.moved = none → Fit R (requests i) γ' := by
    intro γ' hmoved t ht
    rw [hmoved] at ht
    cases ht
  refine follows_bind (consume_follows hissued h.challenge) fun row γ₁ h₁ => ?_
  cases row with
  | none => trivial
  | some r =>
    obtain ⟨-, rfl⟩ := h₁ r rfl
    refine follows_bind (now_follows h.moved) fun t γ₂ h₂ => ?_
    subst h₂
    split_ifs with hlate
    · trivial
    · cases R.verifyRegistration response r.challenge with
      | none => trivial
      | some new =>
        refine follows_bind (keep_follows rfl fun _ => rfl) fun _ γ₃ h₃ => ?_
        subst h₃
        exact hfit _ h.moved

/-- **Every route** ends fit to be committed. -/
theorem body_follows {r : Request} (hrequest : requests i = r) (h : Idle γ)
    (hissued : γ.issued = none) :
    Follows R start requests i (fun _ γ' => Fit R (requests i) γ') (body R i r) γ := by
  cases r with
  | beginRegistration userId =>
    exact follows_bind (beginRegistration_follows hrequest h hissued) fun _ _ h' => h'
  | completeRegistration value response =>
    exact follows_bind (completeRegistration_follows h hissued) fun _ _ h' => h'
  | create b =>
    exact follows_bind (createMandate_follows hrequest h hissued) fun _ _ h' => h'
  | assert id b =>
    have hgesture : (requests i).gesture = some (id, b, .activate, .active) := by
      rw [hrequest]
      rfl
    exact follows_bind (assertPasskey_follows hgesture h hissued) fun _ _ h' => h'
  | beginRevoke id =>
    exact follows_bind (beginRevoke_follows hrequest h hissued) fun _ _ h' => h'
  | revoke id b =>
    have hgesture : (requests i).gesture = some (id, b, .revoke, .revoked) := by
      rw [hrequest]
      rfl
    exact follows_bind (revokeMandate_follows hgesture h hissued) fun _ _ h' => h'

/-- **A request** keeps the invariant at each of its statements. -/
theorem answer_follows :
    Follows R start requests i (fun _ _ => True) (answer R i (requests i)) {} := by
  refine outline_transaction (body_follows rfl ⟨rfl, rfl, rfl, rfl⟩ rfl) ?_ ?_
  · intro reply γ' hfit
    have hcommit : Follows R start requests i (fun _ γ'' => γ'' = γ'.ended) (call (.commit i)) γ' :=
      commit_follows hfit
    exact outline_mono (fun r _ _ => by cases r <;> trivial) hcommit
  · exact fun _ _ _ => rollback_follows

/-! ## Runs -/

/-- A configuration whose requests follow their outlines. -/
abbrev Sound (R : Registry) (start : Tables) (requests : ι → Request) (c : Sessions ι) : Prop :=
  Outlined (ceremonySystem R ι) (ceremonySpec R start requests)
    (fun _ => ends (fun _ _ => True) fun _ _ => True) c

theorem ceremonyStart_sound (R : Registry) (start : Tables) (requests : ι → Request) :
    Sound R start requests (ceremonyStart R start requests) := by
  refine ⟨⟨fun id => ⟨?_, ?_, ?_⟩, fun k => ⟨fun r hr => ?_, ?_, ?_⟩⟩, fun i => answer_follows⟩
  · simp [ceremonyStart]
  · simp [ceremonyStart]
  · simp [ceremonyStart]
  · have hr : start.challenges.find? (fun r => decide (keyOf r = k)) = some r := hr
    have hkey := List.find?_some hr
    exact ⟨by simpa using hkey, .inl ⟨r, List.mem_of_find?_eq_some hr, rfl⟩⟩
  · simp [ceremonyStart]
  · simp [ceremonyStart]

variable {c : Sessions ι}

/-- **A step** of a sound configuration. -/
theorem sound_step (h : Sound R start requests c) (i : ι) (e : Outside) :
    StepOk R start requests c.hist i c.shared ((ceremonySystem R ι).step c i e).shared ∧
      Sound R start requests ((ceremonySystem R ι).step c i e) := by
  obtain ⟨hstep, hnext⟩ := outlined_step (i := i) (e := e) h fun _ _ => trivial
  refine ⟨?_, hnext⟩
  cases hop : (c.prog i).next with
  | none =>
    rw [step_of_none hop]
    exact stepOk_same
  | some op =>
    have hshared : ((ceremonySystem R ι).step c i e).shared = (sem R e op c.shared).2 := by
      cases hp : c.prog i with
      | ret a => simp [hp, Prog.next] at hop
      | raise x => simp [hp, Prog.next] at hop
      | call op' next =>
        rw [hp] at hop
        obtain rfl : op' = op := by simpa [Prog.next] using hop
        simp only [System.step, hp]
        rfl
    rw [hshared]
    exact hstep op hop

theorem sound_run (h : Sound R start requests c) (xs : List (ι × Outside)) :
    Sound R start requests ((ceremonySystem R ι).run c xs) :=
  (outline_run h ((ceremonySystem R ι).along_of_forall (fun _ _ _ _ _ => trivial) _ xs)).2

/-- A challenge that is consumed stays so. -/
theorem spent_run (h : Sound R start requests c) {k : Key} {r : ChallengeRow}
    (hr : (c.shared.challenges k).row = some r) (hspent : r.consumedAt ≠ none)
    (xs : List (ι × Outside)) :
    (((ceremonySystem R ι).run c xs).shared.challenges k).row = some r := by
  induction xs generalizing c with
  | nil => exact hr
  | cons x xs ih =>
    obtain ⟨hstep, hnext⟩ := sound_step h x.1 x.2
    exact ih hnext (hstep.spent k r hr hspent)

/-- **Activated by a gesture**: an assertion for this mandate by a credential of its user, over the
hash of the claims that are signed, on an open challenge that was issued to activate it, in time. -/
def ActivatedBy (R : Registry) (Genuine : Assertion → String → String → Prop) (start : Tables)
    (requests : ι → Request) (g : ι → Work) (i : ι) (s s' : Desk ι) (id : String) : Prop :=
  ∃ body challenge credential m, requests i = .assert id body ∧
    (s'.mandates id).row = some m ∧ m.sdJwt = some (R.sign m.claims (disclosable m.claims)) ∧
    (g i).credential = some credential ∧ credential.userId = m.userId ∧
    Genuine body challenge.challenge credential.publicKey ∧
    challenge.challenge = R.passkeys.mandateChallenge m.claims ∧ challenge.purpose = .activate ∧
    (g i).moment ≤ challenge.expiresAt ∧
    (s.challenges (keyOf challenge)).row = some challenge ∧ Spent s s' (keyOf challenge) ∧
    ((∃ r ∈ start.challenges, unspent r = unspent challenge) ∨
      ∃ j new t, requests j = .create new ∧ (g j).issued = some challenge ∧
        challenge = issue R.passkeys (clock t) m.claims .activate)

omit [DecidableEq ι] in
/-- A challenge that was open, where it comes from when it is one for an activation. -/
theorem issued_activate {g : ι → Work} {r : ChallengeRow} {claims : Claims}
    (hcollision : CollisionFree R.passkeys)
    (h : Issued R start requests g r) (hopen : r.consumedAt = none) (hpurpose : r.purpose = .activate)
    (hhash : r.challenge = R.passkeys.mandateChallenge claims) :
    (∃ r' ∈ start.challenges, unspent r' = unspent r) ∨ ∃ j new t, requests j = .create new ∧
      (g j).issued = some r ∧ r = issue R.passkeys (clock t) claims .activate := by
  refine h.imp_right fun hx => ?_
  obtain ⟨j, hj, hissues⟩ := hx
  have hunspent : unspent r = r := by rw [unspent, ← hopen]
  rw [hunspent] at hj hissues
  cases hrequest : requests j with
  | create new =>
    rw [hrequest] at hissues
    obtain ⟨claims', t, -, hr⟩ := hissues
    have hsame : R.passkeys.mandateChallenge claims' = R.passkeys.mandateChallenge claims := by
      rw [← hhash, hr]
      rfl
    obtain ⟨hjti, hsub⟩ := hcollision claims' claims hsame
    refine ⟨j, new, t, hrequest, hj, ?_⟩
    rw [hr, issue, issue, hsame, hjti, hsub]
  | beginRegistration userId =>
    rw [hrequest] at hissues
    obtain ⟨hregister, -⟩ := hissues
    rw [hpurpose] at hregister
    cases hregister
  | beginRevoke id =>
    rw [hrequest] at hissues
    obtain ⟨claims', t, hr⟩ := hissues
    rw [hr] at hpurpose
    cases hpurpose
  | completeRegistration challenge response =>
    rw [hrequest] at hissues
    exact hissues.elim
  | assert id body =>
    rw [hrequest] at hissues
    exact hissues.elim
  | revoke id body =>
    rw [hrequest] at hissues
    exact hissues.elim

omit [DecidableEq ι] in
/-- **A step that makes a mandate active** is the end of an assertion. -/
theorem activated_by {Genuine : Assertion → String → String → Prop} {g : ι → Work} {s s' : Desk ι}
    (hgenuine : ∀ body value key count n,
      R.passkeys.verifyAuthentication body value key count = some n → Genuine body value key)
    (hcollision : CollisionFree R.passkeys)
    (h : StepOk R start requests g i s s') {id : String} (hactive : Activated s s' id) :
    ActivatedBy R Genuine start requests g i s s' id := by
  obtain ⟨hbefore, m, hm, hstatus⟩ := hactive
  have hchanged : StatusChanged s s' id := by
    cases hrow : (s.mandates id).row with
    | none =>
      have hdraft := h.drafted id m hrow hm
      rw [hstatus] at hdraft
      cases hdraft
    | some m₀ => exact ⟨m₀, m, hrow, hm, by rw [hstatus]; exact hbefore m₀ hrow⟩
  obtain ⟨body, purpose, record, r, c, m', hgesture, hg, hrow, hissued, hspent, hm', hprofile,
    hsigned⟩ := h.changed id hchanged
  obtain rfl : m' = m := Option.some.inj (hm'.symm.trans hm)
  obtain ⟨huser, hclaims⟩ := Prod.mk.inj hprofile
  have hopen : r.consumedAt = none := by
    obtain ⟨x, t, hx, hopen, -⟩ := hspent
    obtain rfl : x = r := Option.some.inj (hx.symm.trans hrow)
    exact hopen
  rw [hstatus] at hgesture
  cases hrequest : requests i with
  | assert id' body' =>
    rw [hrequest] at hgesture
    obtain ⟨hid, hrest⟩ := Prod.mk.inj (Option.some.inj hgesture)
    obtain ⟨hbody, hrest⟩ := Prod.mk.inj hrest
    obtain ⟨hpurpose, -⟩ := Prod.mk.inj hrest
    have hrpurpose : r.purpose = .activate := (Prod.mk.inj hg.key).2.trans hpurpose.symm
    have hhash : r.challenge = R.passkeys.mandateChallenge m'.claims := by
      rw [hclaims]
      exact hg.hash
    obtain ⟨n, hn⟩ := hg.verified
    refine ⟨body, r, c, m', by rw [hrequest, hid, hbody], hm, ?_, hg.credential,
      hg.owner.trans huser.symm, hgenuine _ _ _ _ n hn, hhash, hrpurpose, hg.inTime, hrow, hspent,
      issued_activate hcollision hissued hopen hrpurpose hhash⟩
    rw [hclaims]
    exact hsigned hstatus
  | revoke id' body' =>
    rw [hrequest] at hgesture
    have hlast := congrArg (fun x => x.2.2.2) (Option.some.inj hgesture)
    cases hlast
  | _ =>
    rw [hrequest] at hgesture
    cases hgesture

/-- **Activation needs its own gesture.** In every run of the routes a step that makes a mandate
active is the end of an assertion for it, by a credential of its own user, over the hash of the
claims that it signs, on a challenge issued for its activation and in time; a step that changes the
status of a mandate changes no other, and consumes the challenge that its request presents; and no
challenge is consumed twice. -/
theorem activation_by_gesture (R : Registry) (Genuine : Assertion → String → String → Prop)
    (hgenuine : ∀ body value key count n,
      R.passkeys.verifyAuthentication body value key count = some n → Genuine body value key)
    (hcollision : CollisionFree R.passkeys) (start : Tables)
    (requests : ι → Request) (xs : List (ι × Outside)) (i : ι) (e : Outside) :
    let c := (ceremonySystem R ι).run (ceremonyStart R start requests) xs
    let c' := (ceremonySystem R ι).step c i e
    (∀ id, Activated c.shared c'.shared id →
      ActivatedBy R Genuine start requests c.hist i c.shared c'.shared id) ∧
    (∀ id, StatusChanged c.shared c'.shared id →
      (∀ id', StatusChanged c.shared c'.shared id' → id' = id) ∧
      ∃ body purpose target, (requests i).gesture = some (id, body, purpose, target) ∧
        Spent c.shared c'.shared (body.presented, purpose)) ∧
    ∀ k, Spent c.shared c'.shared k → ∀ ys j e', ¬ Spent ((ceremonySystem R ι).run c' ys).shared
      ((ceremonySystem R ι).step ((ceremonySystem R ι).run c' ys) j e').shared k := by
  intro c c'
  have hsound : Sound R start requests c := sound_run (ceremonyStart_sound R start requests) xs
  obtain ⟨hstep, hnext⟩ := sound_step hsound i e
  refine ⟨fun id hactive => activated_by hgenuine hcollision hstep hactive, fun id hchanged => ?_,
    fun k hspent ys j e' hagain => ?_⟩
  · obtain ⟨body, purpose, record, r, cred, m, hgesture, hg, -, -, hspent, -⟩ :=
      hstep.changed id hchanged
    refine ⟨fun id' hchanged' => ?_, body, purpose, m.status, hgesture, ?_⟩
    · obtain ⟨_, _, _, _, _, _, hgesture', -⟩ := hstep.changed id' hchanged'
      exact congrArg Prod.fst (Option.some.inj (hgesture'.symm.trans hgesture))
    · rw [← hg.key]
      exact hspent
  · obtain ⟨r, t, -, -, hafter⟩ := hspent
    obtain ⟨r', -, hrow, hopen, -⟩ := hagain
    have hkept := spent_run hnext hafter (Option.some_ne_none t) ys
    rw [hkept] at hrow
    obtain rfl := Option.some.inj hrow
    cases hopen

end Requests

/-! ## One activation -/

/-- A hash that keeps the mandate and the user, a check that accepts a response naming the challenge
and the key, and a signature that names the mandate. -/
def plainRegistry : Registry where
  passkeys := { plainPasskeys with
    mandateChallenge := fun c =>
      String.ofList (dumpString c.jti ++ (dumpString c.sub ++ c.terms.repr.toList)) }
  verifyRegistration _ _ := none
  terms body _ := body.terms
  sign c _ := c.jti

theorem plainRegistry_collisionFree : CollisionFree plainRegistry.passkeys := by
  intro a b h
  obtain ⟨hjti, hrest⟩ := dumpString_inj (String.ofList_inj.1 h)
  exact ⟨hjti, (dumpString_inj hrest).1⟩

/-- A user with a passkey. -/
def plainTables : Tables := ⟨fun _ => none, [], [⟨"cred_1", "usr_1", "key_1", 0⟩], [], []⟩

/-- The assertion that answers the challenge of the new mandate. -/
def plainAssertion : Assertion where
  id := "cred_1"
  presented := plainRegistry.passkeys.mandateChallenge ⟨"mnd_1", "usr_1", .null⟩
  response := plainRegistry.passkeys.mandateChallenge ⟨"mnd_1", "usr_1", .null⟩ ++ "key_1"

/-- The creation of a mandate, and its activation. -/
def plainRequests : Bool → Request
  | false => .create ⟨"usr_1", .null⟩
  | true => .assert "mnd_1" plainAssertion

/-- The statements of the creation, and those of the activation but its commit. -/
def plainSteps : List (Bool × Outside) :=
  List.replicate 8 (false, (⟨none, 0, "mnd_1", "", "", ""⟩ : Outside)) ++
    List.replicate 8 (true, ({} : Outside))

/-- What the check of the example accepts. -/
def PlainGenuine (body : Assertion) (value key : String) : Prop := body.response = value ++ key

theorem activation_by_gesture_plain :
    ActivatedBy plainRegistry PlainGenuine plainTables plainRequests
      ((ceremonySystem plainRegistry Bool).run
        (ceremonyStart plainRegistry plainTables plainRequests) plainSteps).hist true
      ((ceremonySystem plainRegistry Bool).run
        (ceremonyStart plainRegistry plainTables plainRequests) plainSteps).shared
      ((ceremonySystem plainRegistry Bool).step ((ceremonySystem plainRegistry Bool).run
        (ceremonyStart plainRegistry plainTables plainRequests) plainSteps) true {}).shared
      "mnd_1" := by
  refine (activation_by_gesture plainRegistry PlainGenuine ?_ plainRegistry_collisionFree
    plainTables plainRequests plainSteps true {}).1 "mnd_1" ⟨fun m hm => ?_, ?_⟩
  · intro body value key count n h
    have h : (if body.response = value ++ key then some (count + 1) else none) = some n := h
    split_ifs at h with hresponse
    exact hresponse
  · have hdraft : (((ceremonySystem plainRegistry Bool).run
        (ceremonyStart plainRegistry plainTables plainRequests) plainSteps).shared.mandates
          "mnd_1").row.map (·.status) = some .draft := by decide +kernel
    rw [hm] at hdraft
    have hstatus : m.status = .draft := Option.some.inj hdraft
    rw [hstatus]
    decide
  · exact Option.map_eq_some_iff.1 (by decide +kernel)

end TryTrust.Api.Ceremonies
