import TryTrust.Agent.Kernel

/-!
# The status of a mandate

Four operations write `mandates.status`: the API registry's transitions, each one guarded update;
the agent's `revoke`, an unguarded one; and two that read the status first, the expiry inside
`verify` and `settle`.

* `allowedTransitions`, `transition`, `revoke`; `StatusOp`, the writers;
* `StatusStep`: a terminal status stays, and only a guarded transition activates;
* **`status_absorbing`**: every run whose unguarded writes find the status as it was read and
  leave terminal ones alone keeps terminal statuses; `status_reactivated`: otherwise they change.
-/

namespace TryTrust.Agent

open Conc

/-- Nothing leaves these. -/
def MandateStatus.terminal : MandateStatus → Bool
  | revoked | expired | exhausted => true
  | _ => false

/-! ## The writers -/

/-- The source states that each target admits. -/
def allowedTransitions : MandateStatus → List MandateStatus
  | .active => [.draft, .suspended]
  | .suspended => [.active]
  | .revoked => [.active, .suspended]
  | .expired => [.active, .suspended]
  | .exhausted => [.active]
  | .draft => []

/-- Why a transition from `current` was refused. -/
def refusalReason : MandateStatus → String
  | .revoked => "MANDATE_REVOKED"
  | .expired => "MANDATE_EXPIRED"
  | .exhausted => "MANDATE_EXHAUSTED"
  | _ => "MANDATE_SUSPENDED"

/-- The event of a successful transition. -/
def transitionEvent : MandateStatus → Option String
  | .active => some "mandate.activated"
  | .suspended => some "mandate.suspended"
  | .revoked => some "mandate.revoked"
  | .expired => some "mandate.expired"
  | .exhausted => some "mandate.exhausted"
  | .draft => none

/-- A registry's answer. -/
structure TransitionResult where
  ok : Bool
  frm : Option MandateStatus
  target : MandateStatus
  reasonCode : Option String
  event : Option String

/-- A refusal, explained by the status the mandate has now. -/
def refuseTransition (jti : String) (target : MandateStatus) : Py TransitionResult := do
  let current : Option MandateStatus ← call (.selectStatus jti)
  pure ⟨false, current, target, current.map refusalReason, none⟩

/-- Move a mandate to `target`, or refuse: the whole state machine in one guarded update. -/
def transition (jti : String) (target : MandateStatus) : Py TransitionResult :=
  if allowedTransitions target = [] then refuseTransition jti target
  else do
    let moved : Bool ← call (.updateTransition jti target (allowedTransitions target))
    if moved then pure ⟨true, none, target, none, transitionEvent target⟩
    else refuseTransition jti target

/-- The agent's revocation: the mandate, then the rail token. -/
def revoke (jti : String) : Py Bool := do
  call (.updateRevoked jti)
  let claims : Option Claims ← call (.selectClaims jti)
  let tokenRef := textOr (claims.map (·.paymentMethodRef)) ""
  let deleted : Bool ← if tokenRef = "" then pure false else call (.deleteInstrument tokenRef)
  call (.auditAppend ⟨"mandate.revoked", jti, some jti⟩)
  pure deleted

/-- An operation that writes a mandate's status. -/
inductive StatusOp where
  | transition (jti : String) (target : MandateStatus)
  | revoke (jti : String)
  | verify (ids : FreshIds) (token : String) (intent : Intent) (signature : String) (reserve : Bool)
  | settle (jti : String) (amount : ℤ)

/-- The operation's program; its answer plays no role here. -/
def StatusOp.prog (K : Deps) (ports : String → Option Port) (fuel : ℕ) : StatusOp → Py Unit
  | .transition jti target => (Agent.transition jti target).bind fun _ => pure ()
  | .revoke jti => (Agent.revoke jti).bind fun _ => pure ()
  | .verify ids token intent signature reserve =>
    (Agent.verify K ports fuel ids token intent signature reserve).bind fun _ => pure ()
  | .settle jti amount => Agent.settle fuel jti amount

/-! ## Steps -/

/-- A registry transition to `active`. -/
def Call.activates : Call → Bool
  | .updateTransition _ .active _ => true
  | _ => false

/-- What a step may do to statuses: terminal ones stay, and only the registry activates. -/
def StatusStep (db : Db) (c : Call) (db' : Db) : Prop :=
  ∀ m, ∀ row ∈ db.mandates m, ∃ row' ∈ db'.mandates m,
    (row.status.terminal → row'.status = row.status) ∧
      (row'.status = .active → row.status = .active ∨ c.activates)

/-- The call writes a status. -/
def Call.writesStatus : Call → Bool
  | .updateSettled _ _ _ _ _ | .updateExpired _ | .updateRevoked _ => true
  | .updateTransition _ _ _ => true
  | _ => false

/-- The statuses that a writer last read, by mandate. -/
abbrev StatusRead : Type := String → Option MandateStatus

/-- A `SELECT` of the row records its status. -/
def StatusRead.advance (γ : StatusRead) : (c : Call) → Except PyErr (Res c) → StatusRead
  | .selectMandate jti, .ok (some row) => Function.update γ jti (some row.status)
  | _, _ => γ

section Pool

variable {ι : Type} [DecidableEq ι]

/-- The pool of status writers. -/
def statusSystem : System ι Call Res PyErr Db StatusRead Env where
  sem := sem
  adv _ γ _ c r := γ.advance c r

/-- The status that `settle` writes, and where. -/
def Call.settlesTo : Call → Option (String × MandateStatus)
  | .updateSettled jti _ _ _ status => some (jti, status)
  | _ => none

/-- The mandate that `verify` expires. -/
def Call.expires : Call → Option String
  | .updateExpired jti => some jti
  | _ => none

/-- The mandate that the agent revokes. -/
def Call.revokes : Call → Option String
  | .updateRevoked jti => some jti
  | _ => none

/-- An unguarded write finds the status that its writer read, `settle` exhausts no revoked or
expired mandate, and the agent revokes no expired or exhausted one. -/
def StatusAsRead (g : ι → StatusRead) (db : Db) (i : ι) (c : Call) : Prop :=
  (∀ x ∈ c.settlesTo, ∀ row ∈ db.mandates x.1, g i x.1 = some row.status ∧
    (x.2 = .exhausted → row.status ≠ .revoked ∧ row.status ≠ .expired)) ∧
  (∀ jti ∈ c.expires, ∀ row ∈ db.mandates jti, g i jti = some row.status) ∧
  ∀ jti ∈ c.revokes, ∀ row ∈ db.mandates jti, row.status ≠ .expired ∧ row.status ≠ .exhausted

instance (g : ι → StatusRead) (db : Db) (i : ι) (c : Call) : Decidable (StatusAsRead g db i c) :=
  inferInstanceAs (Decidable (_ ∧ _))

/-- The specification of the pool: a property of steps only. -/
def statusSpec : Spec ι Call Res PyErr Db StatusRead where
  inv _ _ := True
  ok := StatusAsRead
  prop _ db _ c _ db' := StatusStep db c db'

theorem statusStep_refl (db : Db) (c : Call) : StatusStep db c db :=
  fun _ row hrow => ⟨row, hrow, fun _ => rfl, Or.inl⟩

/-- A write to one mandate is a status step when it is one on that row. -/
theorem statusStep_write {db : Db} {c : Call} {jti : String} {f : MandateRow → MandateRow}
    (h : ∀ row ∈ db.mandates jti, (row.status.terminal → (f row).status = row.status) ∧
      ((f row).status = .active → row.status = .active ∨ c.activates)) :
    StatusStep db c (db.setMandate jti f) := by
  intro m row hrow
  by_cases hm : m = jti
  · subst hm
    exact ⟨f row, by rw [Db.setMandate_same, hrow]; rfl, h row hrow⟩
  · exact ⟨row, by rwa [Db.setMandate_ne db f hm], fun _ => rfl, Or.inl⟩

theorem statusStep_of_keeps {c : Call} (h : c.writesStatus = false) (e : Env) (db : Db) :
    StatusStep db c (exec e c db).2 := by
  have hkeep : ∀ db' : Db, db'.mandates = db.mandates → StatusStep db c db' := by
    intro db' hdb m row hrow
    exact ⟨row, hdb ▸ hrow, fun _ => rfl, Or.inl⟩
  cases c with
  | updateSettled | updateExpired | updateRevoked | updateTransition => cases h
  | updateReserved => exact statusStep_write fun _ _ => ⟨fun _ => rfl, Or.inl⟩
  | casReserve =>
    simp only [exec]
    split_ifs
    · exact statusStep_write fun _ _ => ⟨fun _ => rfl, Or.inl⟩
    · exact statusStep_refl db _
  | deleteInstrument | insertIntent =>
    simp only [exec]
    split_ifs <;> exact hkeep _ rfl
  | insertCapture | insertPurchase =>
    simp only [exec]
    split <;> exact hkeep _ rfl
  | _ => exact hkeep _ rfl

variable {i : ι}

/-- A failed call is a status step, so only the run of a call has to be looked at. -/
theorem status_call {c : Call} {γ : StatusRead} {φ : Res c → StatusRead → Prop}
    (h : ∀ g db e, g i = γ → StatusAsRead g db i c →
      StatusStep db c (exec e c db).2 ∧ onOk φ (exec e c db).1 (γ.advance c (exec e c db).1)) :
    Outline statusSystem statusSpec i (onOk φ) (call c) γ := by
  refine outline_perform fun g db e hg _ hok => ?_
  cases hf : e.fail with
  | none =>
    simp only [statusSystem, sem, hf]
    exact ⟨trivial, h g db e hg hok⟩
  | some x =>
    simp only [statusSystem, sem, hf]
    exact ⟨trivial, statusStep_refl db c, trivial⟩

/-- A program that writes no status and selects no whole row. -/
theorem status_frame {α : Type} {p : Py α} {γ : StatusRead}
    (hp : p.Calls fun c => c.writesStatus = false ∧ ∀ r, ∀ δ : StatusRead, δ.advance c r = δ) :
    Outline statusSystem statusSpec i (onOk fun _ γ' => γ' = γ) p γ := by
  refine outline_mono (fun r γ' h => ?_) (outline_calls (ψ := fun γ' => γ' = γ)
    (fun g db e c hc hg _ _ => ⟨trivial, ?_, ?_⟩) hp rfl)
  · cases r with
    | ok a => exact h
    | error e => trivial
  · simp only [statusSystem, sem]
    cases e.fail with
    | none => exact statusStep_of_keeps hc.1 e db
    | some x => exact statusStep_refl db c
  · simp only [statusSystem, hc.2]
    exact hg

/-- A program that writes no status. -/
theorem status_quiet {α : Type} {p : Py α} {γ : StatusRead}
    (hp : p.Calls fun c => c.writesStatus = false) :
    Outline statusSystem statusSpec i (onOk fun _ _ => True) p γ := by
  refine outline_mono (fun r γ' _ => by cases r <;> trivial) (outline_calls (ψ := fun _ => True)
    (fun g db e c hc _ _ _ => ⟨trivial, ?_, trivial⟩) hp trivial)
  simp only [statusSystem, sem]
  cases e.fail with
  | none => exact statusStep_of_keeps hc e db
  | some x => exact statusStep_refl db c

theorem quiet_perform {c : Call} (h : c.writesStatus = false) :
    (call c).Calls fun c => c.writesStatus = false :=
  Prog.calls_perform h

/-! ## Outlines of the writers -/

theorem status_chain (fuel : ℕ) (jti : String) (γ : StatusRead) :
    Outline statusSystem statusSpec i (onOk fun _ γ' => γ' = γ) (chain fuel jti) γ :=
  status_frame (chain_calls (fun _ => ⟨rfl, fun _ _ => rfl⟩) fuel jti)

theorem status_refuse (mandateJti : Option String) (code detail : String) (γ : StatusRead) :
    Outline statusSystem statusSpec i (onOk fun _ _ => True) (refuse mandateJti code detail) γ :=
  status_quiet (refuse_calls (fun _ => rfl) mandateJti code detail)

/-- Selecting a row records its status. -/
theorem status_select (jti : String) (γ : StatusRead) :
    Outline statusSystem statusSpec i
      (onOk fun r γ' => ∀ row, r = some row → γ' jti = some row.status)
      (call (.selectMandate jti)) γ := by
  refine status_call fun g db e _ _ => ⟨statusStep_of_keeps rfl e db, ?_⟩
  simp only [exec]
  cases db.mandates jti with
  | none => exact fun row h => by cases h
  | some row =>
    rintro _ ⟨rfl⟩
    exact Function.update_self ..

theorem status_settleOne (amount : ℤ) (jti : String) (γ : StatusRead) :
    Outline statusSystem statusSpec i (onOk fun _ _ => True) (settleOne amount jti) γ := by
  refine outline_bind_ok (status_select jti γ) fun r γ' h => ?_
  cases r with
  | none => trivial
  | some old =>
    refine status_call fun g db e hg hok => ⟨?_, trivial⟩
    refine statusStep_write fun row hrow => ?_
    obtain ⟨hread, hex⟩ := hok.1 _ rfl row hrow
    rw [hg, h old rfl, Option.some.injEq] at hread
    dsimp only at hex ⊢
    split_ifs at hex ⊢ with hspent
    · -- the budget is exhausted: the row was neither revoked nor expired
      obtain ⟨h1, h2⟩ := hex rfl
      cases hs : row.status <;> simp_all [MandateStatus.terminal]
    · exact ⟨fun _ => hread, fun ha => Or.inl (hread ▸ ha)⟩

theorem status_settleLoop (amount : ℤ) (jtis : List String) (γ : StatusRead) :
    Outline statusSystem statusSpec i (onOk fun _ _ => True) (settleLoop amount jtis) γ := by
  induction jtis generalizing γ with
  | nil => trivial
  | cons jti rest ih => exact outline_bind_ok (status_settleOne amount jti γ) fun _ γ' _ => ih γ'

theorem status_settle (fuel : ℕ) (jti : String) (amount : ℤ) (γ : StatusRead) :
    Outline statusSystem statusSpec i (onOk fun _ _ => True) (settle fuel jti amount) γ :=
  outline_bind_ok (status_chain fuel jti γ) fun jtis γ' _ => status_settleLoop amount jtis γ'

theorem status_verifyAlive (K : Deps) (ports : String → Option Port) (fuel : ℕ) (ids : FreshIds)
    (claims : Claims) (intent : Intent) (signature : String) (now : ℤ) (reserve : Bool)
    (γ : StatusRead) :
    Outline statusSystem statusSpec i (onOk fun _ _ => True)
      (verifyAlive K ports fuel ids claims intent signature now reserve) γ := by
  refine outline_bind_ok (status_select claims.jti γ) fun r γ' h => ?_
  cases r with
  | none => exact status_refuse _ _ _ _
  | some row =>
    dsimp only
    by_cases hrevoked : row.status = .revoked
    · rw [if_pos hrevoked]
      exact status_refuse _ _ _ _
    rw [if_neg hrevoked]
    refine outline_bind_ok (status_chain fuel claims.jti γ') ?_
    rintro jtis _ rfl
    refine outline_bind_ok
      (status_frame (deadAncestor_calls (fun _ => ⟨rfl, fun _ _ => rfl⟩) jtis.tail)) ?_
    rintro (_ | ⟨ancestor, status⟩) _ rfl
    · dsimp only
      split_ifs with hsus hexh hnbf hexp
      · exact status_refuse _ _ _ _
      · exact status_refuse _ _ _ _
      · exact status_refuse _ _ _ _
      · -- the row was read as active, draft or expired, and still is
        refine outline_bind_ok (φ := fun _ _ => True)
          (status_call fun g db e hg hok => ⟨?_, trivial⟩) fun _ γ₃ _ => status_refuse _ _ _ _
        refine statusStep_write fun cur hcur => ?_
        have hread := hok.2.1 _ rfl cur hcur
        rw [hg, h row rfl, Option.some.injEq] at hread
        cases hs : cur.status <;> simp_all [MandateStatus.terminal]
      · exact status_quiet (verifyGate_calls K ports fuel (fun _ => rfl) (fun _ _ => rfl)
          (fun _ => rfl) (reserveChain_calls (fun _ => rfl) (fun _ => rfl) (fun _ _ => rfl)
            (fun _ => rfl) (fun _ _ _ => rfl) fuel) ids claims row signature now reserve)
    · exact status_refuse _ _ _ _

theorem status_verify (K : Deps) (ports : String → Option Port) (fuel : ℕ) (ids : FreshIds)
    (token : String) (intent : Intent) (signature : String) (reserve : Bool) (γ : StatusRead) :
    Outline statusSystem statusSpec i (onOk fun _ _ => True)
      (verify K ports fuel ids token intent signature reserve) γ := by
  simp only [verify]
  rcases K.verifyToken token with (_ | _ | _ | _) | claims
  case ok =>
    dsimp only
    rcases K.verifyDetached signature intent claims with (_ | _ | _ | _) | ⟨⟩
    case ok =>
      dsimp only
      by_cases hname : intent.mandateJti ≠ claims.jti
      · rw [if_pos hname]
        exact status_refuse _ _ _ _
      rw [if_neg hname]
      refine outline_bind_ok (status_quiet (quiet_perform rfl)) fun now γ' _ => ?_
      by_cases httl : intent.exp - intent.iat > intentTtl
      · rw [if_pos httl]
        exact status_refuse _ _ _ _
      rw [if_neg httl]
      by_cases hexp : now > intent.exp
      · rw [if_pos hexp]
        exact status_refuse _ _ _ _
      rw [if_neg hexp]
      refine outline_bind_ok (status_quiet (quiet_perform rfl)) fun seen γ'' _ => ?_
      cases seen with
      | true => exact status_refuse _ _ _ _
      | false => exact status_verifyAlive K ports fuel ids claims intent signature now reserve γ''
    case error.badSignature => exact status_refuse _ _ _ _
    all_goals trivial
  case error.badSignature => exact status_refuse _ _ _ _
  all_goals trivial

theorem status_transition (jti : String) (target : MandateStatus) (γ : StatusRead) :
    Outline statusSystem statusSpec i (onOk fun _ _ => True) (transition jti target) γ := by
  have hrefuse : ∀ γ, Outline statusSystem statusSpec i (onOk fun _ _ => True)
      (refuseTransition jti target) γ :=
    fun γ => status_quiet (Prog.calls_bind (quiet_perform rfl) fun _ => trivial)
  simp only [transition]
  split_ifs with hnone
  · exact hrefuse γ
  refine outline_bind_ok (φ := fun _ _ => True) (status_call fun g db e _ _ => ?_) fun moved γ' _ => ?_
  · simp only [exec]
    split_ifs with hany
    · refine ⟨statusStep_write fun row hrow => ⟨fun hterm => ?_, fun ha => Or.inr ?_⟩, trivial⟩
      · -- no source state of the table is terminal
        rw [hrow, Option.any_some] at hany
        cases target <;> cases hs : row.status <;>
          simp_all [allowedTransitions, MandateStatus.terminal]
      · dsimp only at ha
        rw [ha]
        rfl
    · exact ⟨statusStep_refl db _, trivial⟩
  · cases moved with
    | false => exact hrefuse γ'
    | true => trivial

theorem status_revoke (jti : String) (γ : StatusRead) :
    Outline statusSystem statusSpec i (onOk fun _ _ => True) (revoke jti) γ := by
  refine outline_bind_ok (φ := fun _ _ => True) (status_call fun g db e _ hok => ⟨?_, trivial⟩)
    fun _ γ' _ => status_quiet ?_
  · refine statusStep_write fun row hrow => ?_
    obtain ⟨h1, h2⟩ := hok.2.2 _ rfl row hrow
    cases hs : row.status <;> simp_all [MandateStatus.terminal]
  · refine Prog.calls_bind (quiet_perform rfl) fun claims => ?_
    dsimp only
    split_ifs
    · refine Prog.calls_bind (Prog.calls_pure false) fun _ => ?_
      exact Prog.calls_bind (quiet_perform rfl) fun _ => trivial
    · refine Prog.calls_bind (quiet_perform rfl) fun _ => ?_
      exact Prog.calls_bind (quiet_perform rfl) fun _ => trivial

theorem status_op (K : Deps) (ports : String → Option Port) (fuel : ℕ) (w : StatusOp)
    (γ : StatusRead) :
    Outline statusSystem statusSpec i (onOk fun _ _ => True) (w.prog K ports fuel) γ := by
  cases w with
  | transition jti target =>
    exact outline_bind_ok (status_transition jti target γ) fun _ _ _ => trivial
  | revoke jti => exact outline_bind_ok (status_revoke jti γ) fun _ _ _ => trivial
  | verify ids token intent signature reserve =>
    exact outline_bind_ok (status_verify K ports fuel ids token intent signature reserve γ)
      fun _ _ _ => trivial
  | settle jti amount => exact status_settle fuel jti amount γ

end Pool

/-! ## Runs -/

variable {ι : Type} [DecidableEq ι] (K : Deps) (ports : String → Option Port) (fuel : ℕ)

/-- All writers before their first statement. -/
def statusStart (w : ι → StatusOp) (db : Db) : Config ι Call Res PyErr Unit Db StatusRead where
  shared := db
  prog i := (w i).prog K ports fuel
  hist _ _ := none

/-- Steps that are status steps compose to runs that keep terminal statuses. -/
theorem terminal_run {c : Config ι Call Res PyErr Unit Db StatusRead} {xs : List (ι × Env)}
    (h : statusSystem.Along (statusSpec.Prop statusSystem) c xs) :
    ∀ m, ∀ row ∈ c.shared.mandates m, row.status.terminal →
      ∃ row' ∈ (statusSystem.run c xs).shared.mandates m, row'.status = row.status := by
  induction xs generalizing c with
  | nil => exact fun m row hrow _ => ⟨row, hrow, rfl⟩
  | cons x xs ih =>
    intro m row hrow hterm
    obtain ⟨row', hrow', hs⟩ : ∃ row' ∈ (statusSystem.step c x.1 x.2).shared.mandates m,
        row'.status = row.status := by
      cases hp : c.prog x.1 with
      | ret a => exact ⟨row, by simpa [System.step, hp] using hrow, rfl⟩
      | raise e => exact ⟨row, by simpa [System.step, hp] using hrow, rfl⟩
      | call op next =>
        obtain ⟨row', hrow', hs, -⟩ := h.1 op (by simp [hp, Prog.next]) m row hrow
        exact ⟨row', by simpa [System.step, hp] using hrow', hs hterm⟩
    obtain ⟨row'', hrow'', hs'⟩ := ih h.2 m row' hrow' (hs ▸ hterm)
    exact ⟨row'', hrow'', hs'.trans hs⟩

/-- A terminal status, once reached in a run, is the status ever after. -/
def Absorbing (c : Config ι Call Res PyErr Unit Db StatusRead) (xs : List (ι × Env)) : Prop :=
  ∀ pre post, xs = pre ++ post → ∀ m, ∀ row ∈ (statusSystem.run c pre).shared.mandates m,
    row.status.terminal → ∃ row' ∈ (statusSystem.run c xs).shared.mandates m,
      row'.status = row.status

/-- **Revocation is absorbing**, and so is every terminal status, and only the registry activates,
in every run whose unguarded status writes find the status as it was read and leave terminal ones
alone. -/
theorem status_absorbing (w : ι → StatusOp) (db : Db) (xs : List (ι × Env))
    (hok : statusSystem.Along
      (fun c i _ => ∀ op ∈ (c.prog i).next, StatusAsRead c.hist c.shared i op)
      (statusStart K ports fuel w db) xs) :
    Absorbing (statusStart K ports fuel w db) xs ∧
      statusSystem.Along (fun c i e => ∀ op ∈ (c.prog i).next,
        StatusStep c.shared op (sem e op c.shared).2) (statusStart K ports fuel w db) xs := by
  have hstart : Outlined statusSystem statusSpec (fun _ => onOk fun _ _ => True)
      (statusStart K ports fuel w db) :=
    ⟨trivial, fun i => status_op K ports fuel (w i) _⟩
  have hsteps := (outline_run hstart hok).1
  refine ⟨?_, hsteps⟩
  rintro pre post rfl m row hrow hterm
  rw [System.run_append]
  exact terminal_run ((System.along_append _ _ _ _).1 hsteps).2 m row hrow hterm

/-! ### A settlement and a revocation -/

/-- An active mandate with 30.00 of its 100.00 reserved. -/
def reservedMandate : Db where
  mandates j := if j = "mdt" then some
      { status := .active, token := "", reservedAmount := 3000, spentTotal := 0, txnCount := 0,
        parentJti := none
        claims := ⟨"mdt", "agt", "ppt", "USD", [], [], .null, ⟨10000, 10000, none⟩, 0, 0⟩ }
    else none
  instruments _ := none
  captures _ := none
  intents := []
  purchases _ := none
  audit := []
  escalations := []
  bridgeOrders := []

/-- No signature is checked in the runs below. -/
def noDeps : Deps where
  verifyToken _ := .error (.badSignature "malformed compact JWS")
  verifyDetached _ _ _ := .ok ()
  signDetached _ _ := ""
  evaluate _ _ _ := .ok true
  describe _ := ""
  bridgeMessage _ := ""

/-- The first process settles, the second revokes. -/
def settleAndRevoke : Fin 2 → StatusOp
  | 0 => .settle "mdt" 3000
  | 1 => .revoke "mdt"

theorem status_absorbing_settle_revoke :
    Absorbing (statusStart noDeps (fun _ => none) 2 settleAndRevoke reservedMandate)
      ([0, 0, 0, 1, 1, 1, 1].map fun i => (i, Env.quiet)) ∧
    statusSystem.Along (fun c i e => ∀ op ∈ (c.prog i).next,
      StatusStep c.shared op (sem e op c.shared).2)
      (statusStart noDeps (fun _ => none) 2 settleAndRevoke reservedMandate)
      ([0, 0, 0, 1, 1, 1, 1].map fun i => (i, Env.quiet)) :=
  status_absorbing noDeps (fun _ => none) 2 settleAndRevoke reservedMandate _ (by decide)

/-- **A revoked mandate comes back**: the settlement read `active` before the revocation and
writes it back after. -/
theorem status_reactivated : ¬ ∀ xs : List (Fin 2 × Env),
    Absorbing (statusStart noDeps (fun _ => none) 2 settleAndRevoke reservedMandate) xs := by
  intro h
  have hsched := h ([0, 0, 1, 0].map fun i => (i, Env.quiet))
    ([0, 0, 1].map fun i => (i, Env.quiet)) [(0, Env.quiet)] rfl "mdt" _ rfl (by decide)
  obtain ⟨row, hrow, hs⟩ := hsched
  have hactive : row.status = .active := by
    obtain rfl := Option.some.inj hrow
    decide
  rw [hactive] at hs
  exact absurd hs (by decide)

end TryTrust.Agent
