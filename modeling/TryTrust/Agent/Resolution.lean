import TryTrust.Agent.Escalations

/-!
# One escalation, many rulings

Any number of connections resolve, expire and sweep, statement by statement, over any escalations.

* `rulings`, `rulingSystem`, `rulingStart`: the connections, with a clock that never goes back;
* `Deeds`: what a connection has done to one escalation: rulings written, mandates derived, retries;
* `InTurn`: a ruling is written only while the escalation is pending;
* `Own`, `Ruled`: the invariant; `resolve_outline`, `expire_outline`, `sweep_outline`;
* **`ruled_once`**: in turn, one ruling at most takes effect, one purchase is retried and one
  mandate derived at most, only under an approval, and by a call that began in time;
  **`ruled_twice`**: two approvals that both read `pending` retry the purchase twice.
-/

namespace TryTrust.Agent.Escalation

open Conc

/-! ## The system -/

/-- The calls of a connection; an exception ends the call that it comes from. -/
def rulings (D : Deployment) : List Ruling → Py Unit
  | [] => pure ()
  | r :: rest => do
    let _ : Except PyErr Unit ← (rule D r).attempt
    rulings D rest

/-- The desk and the clock, in seconds. -/
structure Timed where
  desk : Desk
  clock : ℤ

/-- What the environment decides at a step, and how long it takes. -/
structure Turn where
  env : DeskEnv
  elapsed : ℕ

/-- The environment at a time. -/
def DeskEnv.at (e : DeskEnv) (clock : ℤ) : DeskEnv :=
  { e with kernel := { e.kernel with now := clock } }

/-- A statement at the time of the clock, which then advances. -/
def timedSem (e : Turn) (op : Stmt) (s : Timed) : Except PyErr (Ans op) × Timed :=
  ((sem (e.env.at s.clock) op s.desk).1,
    ⟨(sem (e.env.at s.clock) op s.desk).2, s.clock + e.elapsed⟩)

/-- What a connection has done to one escalation. -/
structure Deeds where
  /-- The call under way has written its approval. -/
  approved : Bool := false
  /-- The time of the first statement of the call under way. -/
  began : ℤ
  /-- `timeout_at`, as that call read it. -/
  deadline : Option ℤ := none
  /-- The rulings that it wrote. -/
  effects : ℕ := 0
  /-- The mandates that it issued for an approval. -/
  derived : ℕ := 0
  /-- The purchases that it submitted for an approval. -/
  retries : ℕ := 0
  /-- When the call of its last retry began. -/
  since : ℤ := 0

/-- What a statement adds, for the escalation `id`. -/
def Deeds.next (id : String) (clock : ℤ) (γ : Deeds) : (op : Stmt) → Ans op → Deeds
  | .selectEscalation other, row =>
    if other = id then
      { γ with
        approved := false, began := clock
        deadline := (row : Option EscalationRow).map (·.timeoutAt) }
    else { γ with approved := false }
  | .updateResolved other answer _ _ _, _ =>
    if other = id then
      { γ with approved := answer = .approve, effects := γ.effects + 1 }
    else γ
  | .updateTimedOut other, _ => if other = id then { γ with effects := γ.effects + 1 } else γ
  | .insertMandate _, _ => if γ.approved then { γ with derived := γ.derived + 1 } else γ
  | .kernel (.insertPurchase _ _), _ =>
    if γ.approved then { γ with retries := γ.retries + 1, since := γ.began } else γ
  | _, _ => γ

/-- The system, with the deeds that concern the escalation `id`. -/
def rulingSystem (ι : Type) (id : String) : System ι Stmt Ans PyErr Timed Deeds Turn where
  sem := timedSem
  adv _ γ s op r := match r with
    | .ok a => γ.next id s.clock op a
    | .error _ => γ

/-- The connections before their first calls. -/
def rulingStart {ι : Type} (D : Deployment) (start : Timed) (calls : ι → List Ruling) :
    Config ι Stmt Ans PyErr Unit Timed Deeds where
  shared := start
  prog i := rulings D (calls i)
  hist _ := { began := start.clock }

/-- The escalation is pending. -/
def Pending (d : Desk) (id : String) : Prop := ∃ row ∈ d.escalation id, row.status = .pending

instance (d : Desk) (id : String) : Decidable (Pending d id) :=
  inferInstanceAs (Decidable (∃ row ∈ d.escalation id, row.status = .pending))

/-- **In turn**: a ruling on `id` is written only while `id` is pending. -/
def Orderly (id : String) (d : Desk) : Stmt → Prop
  | .updateResolved other _ _ _ _ => other = id → Pending d id
  | .updateTimedOut other => other = id → Pending d id
  | _ => True

/-- A step in turn. -/
def InTurn {ι : Type} (id : String) (c : Config ι Stmt Ans PyErr Unit Timed Deeds) (i : ι)
    (_ : Turn) : Prop :=
  ∀ op ∈ (c.prog i).next, Orderly id c.shared.desk op

instance (id : String) (d : Desk) : (op : Stmt) → Decidable (Orderly id d op)
  | .updateResolved other .. => inferInstanceAs (Decidable (other = id → Pending d id))
  | .updateTimedOut other => inferInstanceAs (Decidable (other = id → Pending d id))
  | .kernel _ | .selectAgentId _ | .selectApprover _ | .guardEscalation _ | .insertEscalation ..
  | .selectEscalation _ | .now | .selectPurchase _ | .selectIntent _ | .selectRequested _
  | .insertMandate _ | .insertInstrument _ | .selectDue _ => .isTrue trivial

instance {ι : Type} (id : String) (c : Config ι Stmt Ans PyErr Unit Timed Deeds) (i : ι)
    (e : Turn) : Decidable (InTurn id c i e) :=
  inferInstanceAs (Decidable (∀ op ∈ (c.prog i).next, Orderly id c.shared.desk op))

/-! ## The invariant -/

/-- What the row of an escalation says of a connection's deeds. -/
structure Own (row : Option EscalationRow) (γ : Deeds) : Prop where
  deadline : ∀ t ∈ γ.deadline, ∃ r ∈ row, r.timeoutAt = t
  effects : γ.effects ≤ 1
  derived : γ.derived ≤ 1
  retries : γ.retries ≤ 1
  approval : γ.approved = true ∨ 0 < γ.derived ∨ 0 < γ.retries →
    γ.effects = 1 ∧ ∃ r ∈ row, r.status = .resolved ∧ r.decision = some .approve
  timely : 0 < γ.retries → ∃ r ∈ row, γ.since ≤ r.timeoutAt

/-- **The invariant**: one connection at most has ruled, and none while the escalation is pending. -/
structure Ruled {ι : Type} (id : String) (g : ι → Deeds) (s : Timed) : Prop where
  single : ∀ i j, 0 < (g i).effects → 0 < (g j).effects → i = j
  untouched : (∀ row ∈ s.desk.escalation id, row.status = .pending) → ∀ i, (g i).effects = 0
  own : ∀ i, Own (s.desk.escalation id) (g i)
  began : ∀ i, (g i).began ≤ s.clock

/-- The specification. -/
def rulingSpec (ι : Type) (id : String) : Spec ι Stmt Ans PyErr Timed Deeds where
  inv := Ruled id
  ok _ s _ op := Orderly id s.desk op
  prop _ _ _ _ _ _ := True

section Steps

variable {ι : Type} [DecidableEq ι] {id : String} {g : ι → Deeds} {s s' : Timed} {i : ι}

/-- A step that leaves the escalation as it is and adds no ruling. -/
theorem Ruled.keep (h : Ruled id g s) {γ : Deeds} (hclock : s.clock ≤ s'.clock)
    (hrow : s'.desk.escalation id = s.desk.escalation id) (heffects : γ.effects = (g i).effects)
    (hown : Own (s.desk.escalation id) γ) (hbegan : γ.began ≤ s'.clock) :
    Ruled id (Function.update g i γ) s' := by
  have hsame : ∀ j, (Function.update g i γ j).effects = (g j).effects := by
    intro j
    by_cases hj : j = i
    · rw [hj, Function.update_self]
      exact heffects
    · rw [Function.update_of_ne hj]
  refine ⟨fun a b ha hb => ?_, fun hpending j => ?_, fun j => ?_, fun j => ?_⟩
  · rw [hsame] at ha hb
    exact h.single a b ha hb
  · rw [hsame]
    rw [hrow] at hpending
    exact h.untouched hpending j
  · rw [hrow]
    by_cases hj : j = i
    · rw [hj, Function.update_self]
      exact hown
    · rw [Function.update_of_ne hj]
      exact h.own j
  · by_cases hj : j = i
    · rw [hj, Function.update_self]
      exact hbegan
    · rw [Function.update_of_ne hj]
      exact (h.began j).trans hclock

/-- Deeds without a ruling, under any row with the same deadline. -/
theorem Own.of_untouched {row row' : Option EscalationRow} {γ : Deeds} (h : Own row γ)
    (hnone : γ.effects = 0) (hrow : ∀ r ∈ row, ∃ r' ∈ row', r'.timeoutAt = r.timeoutAt) :
    Own row' γ := by
  have hno : ¬ (γ.approved = true ∨ 0 < γ.derived ∨ 0 < γ.retries) := by
    intro hdone
    have hone := (h.approval hdone).1
    omega
  refine ⟨fun t ht => ?_, h.effects, h.derived, h.retries, fun hdone => absurd hdone hno,
    fun hretry => absurd (.inr (.inr hretry)) hno⟩
  obtain ⟨r, hr, rfl⟩ := h.deadline t ht
  exact hrow r hr

/-- **A ruling** on a pending escalation. -/
theorem Ruled.rule (h : Ruled id g s) {γ : Deeds} {row row' : EscalationRow}
    (hclock : s.clock ≤ s'.clock) (hrow : s.desk.escalation id = some row)
    (hpending : row.status = .pending) (hrow' : s'.desk.escalation id = some row')
    (hstatus : row'.status ≠ .pending) (htimeout : row'.timeoutAt = row.timeoutAt)
    (hown : Own (some row') γ) (hbegan : γ.began ≤ s'.clock) :
    Ruled id (Function.update g i γ) s' := by
  have hnone : ∀ j, (g j).effects = 0 := by
    refine h.untouched fun r hr => ?_
    rw [hrow] at hr
    rw [← Option.some.inj hr]
    exact hpending
  refine ⟨fun a b ha hb => ?_, fun hall => ?_, fun j => ?_, fun j => ?_⟩
  · have honly : ∀ j, 0 < (Function.update g i γ j).effects → j = i := by
      intro j hj
      by_contra hne
      rw [Function.update_of_ne hne, hnone] at hj
      omega
    rw [honly a ha, honly b hb]
  · exact absurd (hall row' hrow') hstatus
  · rw [hrow']
    by_cases hj : j = i
    · rw [hj, Function.update_self]
      exact hown
    · rw [Function.update_of_ne hj]
      refine (h.own j).of_untouched (hnone j) fun r hr => ⟨row', rfl, ?_⟩
      rw [hrow] at hr
      rw [htimeout, ← Option.some.inj hr]
  · by_cases hj : j = i
    · rw [hj, Function.update_self]
      exact hbegan
    · rw [Function.update_of_ne hj]
      exact (h.began j).trans hclock

omit [DecidableEq ι] in
/-- An escalation that did not exist is opened. -/
theorem Ruled.opened (h : Ruled id g s) {row : EscalationRow}
    (hnone : s.desk.escalation id = none) (hclock : s'.clock = s.clock)
    (hrow : s'.desk.escalation id = some row) : Ruled id g s' := by
  have hno : ∀ j, (g j).effects = 0 := h.untouched fun r hr => by rw [hnone] at hr; cases hr
  refine ⟨h.single, fun _ => hno, fun j => ?_, fun j => ?_⟩
  · rw [hrow]
    refine (h.own j).of_untouched (hno j) fun r hr => ?_
    rw [hnone] at hr
    cases hr
  · rw [hclock]
    exact h.began j

end Steps

/-! ## What statements do to an escalation -/

theorem lookup_map_update {α β : Type} [DecidableEq α] (l : List (α × β)) (id other : α)
    (f : β → β) : (l.map fun e => if e.1 = id then (e.1, f e.2) else e).lookup other =
      (l.lookup other).map fun b => if other = id then f b else b := by
  induction l with
  | nil => rfl
  | cons e l ih =>
    rcases e with ⟨a, b⟩
    rw [List.map_cons]
    by_cases hother : other = a
    · subst hother
      by_cases hid : other = id
      · simp [hid]
      · simp [hid]
    · have hbeq : (other == a) = false := by simpa using hother
      have hhead : (if a = id then (a, f b) else (a, b)) = (a, if a = id then f b else b) := by
        split_ifs <;> rfl
      rw [hhead, List.lookup_cons, List.lookup_cons, hbeq]
      exact ih

theorem escalation_set (d : Desk) (id other : String) (f : EscalationRow → EscalationRow) :
    (d.setEscalation id f).escalation other =
      (d.escalation other).map fun row => if other = id then f row else row :=
  lookup_map_update _ _ _ _

/-- A statement that rules on no escalation and begins no call. -/
def Plain : Stmt → Prop
  | .selectEscalation _ => False
  | .updateResolved .. => False
  | .updateTimedOut _ => False
  | _ => True

/-- A plain statement leaves an escalation, or opens it. -/
theorem exec_plain (e : DeskEnv) {op : Stmt} (hop : Plain op) (d : Desk) (id : String) :
    (exec e op d).2.escalation id = d.escalation id ∨
      (d.escalation id = none ∧ ∃ row, (exec e op d).2.escalation id = some row) := by
  cases op with
  | insertEscalation other row =>
    simp only [exec]
    cases hother : d.escalation other with
    | some old => exact .inl rfl
    | none =>
      by_cases hid : id = other
      · subst hid
        refine .inr ⟨hother, row, ?_⟩
        change (d.escalations ++ [(id, row)]).lookup id = some row
        have hnone : d.escalations.lookup id = none := hother
        rw [List.lookup_append, hnone]
        simp
      · refine .inl ?_
        change (d.escalations ++ [(other, row)]).lookup id = d.escalations.lookup id
        have hbeq : (id == other) = false := by simpa using hid
        rw [List.lookup_append, List.lookup_cons, hbeq]
        simp
  | selectEscalation | updateResolved | updateTimedOut => exact hop.elim
  | insertMandate row =>
    simp only [exec]
    split <;> exact .inl rfl
  | insertInstrument ref =>
    simp only [exec]
    split <;> exact .inl rfl
  | _ => exact .inl rfl

/-- What is added by a statement that is not one of a ruling: nothing. -/
def Quiet : Stmt → Prop
  | .insertMandate _ => False
  | .kernel (.insertPurchase ..) => False
  | op => Plain op

theorem Quiet.plain {op : Stmt} (h : Quiet op) : Plain op := by
  cases op <;> trivial

theorem next_quiet {op : Stmt} (h : Quiet op) (id : String) (clock : ℤ) (γ : Deeds) (a : Ans op) :
    γ.next id clock op a = γ := by
  cases op with
  | kernel c => cases c <;> first | rfl | exact h.elim
  | selectEscalation | updateResolved | updateTimedOut | insertMandate => exact h.elim
  | _ => rfl

/-- Without an approval nothing is added either. -/
theorem next_unapproved {op : Stmt} (h : Plain op) (id : String) (clock : ℤ) {γ : Deeds}
    (hγ : γ.approved = false) (a : Ans op) : γ.next id clock op a = γ := by
  cases op with
  | kernel c => cases c <;> first | rfl | simp [Deeds.next, hγ]
  | insertMandate => simp [Deeds.next, hγ]
  | selectEscalation | updateResolved | updateTimedOut => exact h.elim
  | _ => rfl

/-! ## Outlines of statements -/

section Outlines

variable {ι : Type} [DecidableEq ι] {id : String} {i : ι} {γ : Deeds}

/-- The deeds after an answer. -/
def advance (id : String) (clock : ℤ) (γ : Deeds) (op : Stmt) : Except PyErr (Ans op) → Deeds
  | .ok a => γ.next id clock op a
  | .error _ => γ

/-- A statement: what holds if it runs. -/
theorem statement_outline (op : Stmt) {Q : Except PyErr (Ans op) → Deeds → Prop}
    (hruns : ∀ (g : ι → Deeds) s (e : DeskEnv) (n : ℕ), g i = γ → Ruled id g s →
      Orderly id s.desk op →
      Ruled id (Function.update g i (advance id s.clock γ op (exec (e.at s.clock) op s.desk).1))
        ⟨(exec (e.at s.clock) op s.desk).2, s.clock + n⟩ ∧
      Q (exec (e.at s.clock) op s.desk).1
        (advance id s.clock γ op (exec (e.at s.clock) op s.desk).1))
    (hfails : ∀ x, Q (.error x) γ) :
    Outline (rulingSystem ι id) (rulingSpec ι id) i Q (stmt op) γ := by
  refine outline_perform fun g s e hg hinv hok => ?_
  have hadv : ∀ r : Except PyErr (Ans op),
      (rulingSystem ι id).adv i γ s op r = advance id s.clock γ op r := by
    intro r
    cases r <;> rfl
  rw [hadv]
  change Ruled id (Function.update g i (advance id s.clock γ op
      (sem (e.env.at s.clock) op s.desk).1)) ⟨(sem (e.env.at s.clock) op s.desk).2, _⟩ ∧ True ∧
    Q (sem (e.env.at s.clock) op s.desk).1
      (advance id s.clock γ op (sem (e.env.at s.clock) op s.desk).1)
  have hrun := hruns g s e.env e.elapsed hg hinv hok
  by_cases hfallible : op.fallible = true
  · cases hfail : e.env.kernel.fail with
    | none =>
      have hsem : sem (e.env.at s.clock) op s.desk = exec (e.env.at s.clock) op s.desk := by
        rw [sem, if_pos hfallible]
        simp only [DeskEnv.at, hfail]
      rw [hsem]
      exact ⟨hrun.1, trivial, hrun.2⟩
    | some x =>
      have hsem : sem (e.env.at s.clock) op s.desk = (.error x, s.desk) := by
        rw [sem, if_pos hfallible]
        simp only [DeskEnv.at, hfail]
      rw [hsem]
      have hclock : s.clock ≤ s.clock + e.elapsed := by omega
      subst hg
      exact ⟨hinv.keep hclock rfl rfl (hinv.own i) ((hinv.began i).trans hclock), trivial, hfails x⟩
  · have hsem : sem (e.env.at s.clock) op s.desk = exec (e.env.at s.clock) op s.desk := by
      rw [sem, if_neg hfallible]
    rw [hsem]
    exact ⟨hrun.1, trivial, hrun.2⟩

/-- A statement whose effect and new deeds are known. -/
theorem statement_eq (op : Stmt) {Q : Except PyErr (Ans op) → Deeds → Prop}
    (hruns : ∀ (g : ι → Deeds) s (e : DeskEnv) (n : ℕ), g i = γ → Ruled id g s →
      Orderly id s.desk op → ∃ r d γ', exec (e.at s.clock) op s.desk = (r, d) ∧
        advance id s.clock γ op r = γ' ∧
          Ruled id (Function.update g i γ') ⟨d, s.clock + n⟩ ∧ Q r γ')
    (hfails : ∀ x, Q (.error x) γ) :
    Outline (rulingSystem ι id) (rulingSpec ι id) i Q (stmt op) γ := by
  refine statement_outline op (fun g s e n hg hinv hok => ?_) hfails
  obtain ⟨r, d, γ', hexec, hadv, hruled, hQ⟩ := hruns g s e n hg hinv hok
  rw [hexec, hadv]
  exact ⟨hruled, hQ⟩

/-- A plain statement with deeds that the row of the escalation bears out. -/
theorem Ruled.plain {g : ι → Deeds} {s : Timed} (h : Ruled id g s) (e : DeskEnv) {op : Stmt}
    (hop : Plain op) (n : ℕ) {γ : Deeds} (heffects : γ.effects = (g i).effects)
    (hown : Own (s.desk.escalation id) γ) (hbegan : γ.began ≤ s.clock) :
    Ruled id (Function.update g i γ) ⟨(exec e op s.desk).2, s.clock + n⟩ := by
  have hclock : s.clock ≤ s.clock + n := by omega
  rcases exec_plain e hop s.desk id with hsame | ⟨hnone, row, hrow⟩
  · exact h.keep hclock hsame heffects hown (hbegan.trans hclock)
  · have hkeep : Ruled id (Function.update g i γ) ⟨s.desk, s.clock + n⟩ :=
      h.keep hclock rfl heffects hown (hbegan.trans hclock)
    exact hkeep.opened hnone rfl hrow

/-- A statement that adds nothing. -/
theorem quiet_outline (op : Stmt) (h : Quiet op ∨ (Plain op ∧ γ.approved = false)) :
    Outline (rulingSystem ι id) (rulingSpec ι id) i (fun _ γ' => γ' = γ) (stmt op) γ := by
  have hplain : Plain op := h.elim Quiet.plain And.left
  have hsame : ∀ clock r, advance id clock γ op r = γ := by
    intro clock r
    cases r with
    | error x => rfl
    | ok a =>
      rcases h with hquiet | ⟨hp, happroved⟩
      · exact next_quiet hquiet id clock γ a
      · exact next_unapproved hp id clock happroved a
  refine statement_outline op (fun g s e n hg hinv _ => ?_) fun _ => rfl
  rw [hsame]
  subst hg
  exact ⟨hinv.plain _ hplain n rfl (hinv.own i) (hinv.began i), rfl⟩

/-- A program of statements that add nothing. -/
theorem quiet_calls {α : Type} {p : Py α}
    (h : p.Calls Quiet ∨ (p.Calls Plain ∧ γ.approved = false)) :
    Outline (rulingSystem ι id) (rulingSpec ι id) i (fun _ γ' => γ' = γ) p γ := by
  induction p with
  | ret a => rfl
  | raise x => rfl
  | call op next ih =>
    have hop : Quiet op ∨ (Plain op ∧ γ.approved = false) :=
      h.imp And.left (And.imp_left And.left)
    have hnext : ∀ r, (next r).Calls Quiet ∨ ((next r).Calls Plain ∧ γ.approved = false) :=
      fun r => h.imp (fun hc => hc.2 r) (And.imp_left fun hc => hc.2 r)
    intro g s e hg hinv hok
    obtain ⟨h1, h2, h3⟩ := quiet_outline op hop g s e hg hinv hok
    refine ⟨h1, h2, ?_⟩
    generalize hr : ((rulingSystem ι id).sem e op s).1 = r at h3 ⊢
    have hγ : (rulingSystem ι id).adv i γ s op r = γ := by
      cases r <;> exact h3
    rw [hγ]
    exact ih r (hnext r)

/-! ### The statements of a ruling -/

/-- `escalation.get` begins a call. -/
theorem get_outline (other : String) : Outline (rulingSystem ι id) (rulingSpec ι id) i
    (onOk fun row γ' => γ'.approved = false ∧ (other = id → γ'.deadline = some row.timeoutAt))
    (get other) γ := by
  refine outline_bind (Q := onOk fun row γ' => γ'.approved = false ∧
    (other = id → γ'.deadline = (row : Option EscalationRow).map (·.timeoutAt))) ?_ ?_ ?_
  · refine statement_eq (.selectEscalation other) (fun g s e n hg hinv _ => ?_)
      fun _ => trivial
    have hclock : s.clock ≤ s.clock + n := by omega
    have hold := hinv.own i
    rw [hg] at hold
    have hnone : (false : Bool) = true ∨ 0 < γ.derived ∨ 0 < γ.retries →
        γ.effects = 1 ∧ ∃ r ∈ s.desk.escalation id, r.status = .resolved ∧
          r.decision = some .approve := by
      rintro (happroved | hdone)
      · cases happroved
      · exact hold.approval (.inr hdone)
    by_cases hid : other = id
    · refine ⟨_, _, _, rfl, if_pos hid, hinv.keep hclock rfl (by rw [hg]) ⟨?_, hold.effects,
        hold.derived, hold.retries, hnone, hold.timely⟩ hclock, rfl, fun _ => rfl⟩
      rintro t ht
      obtain ⟨r, hr, rfl⟩ := Option.map_eq_some_iff.1 ht
      rw [hid] at hr
      exact ⟨r, hr, rfl⟩
    · have hbegan := hinv.began i
      rw [hg] at hbegan
      exact ⟨_, _, _, rfl, if_neg hid, hinv.keep hclock rfl (by rw [hg]) ⟨hold.deadline,
        hold.effects, hold.derived, hold.retries, hnone, hold.timely⟩ (hbegan.trans hclock), rfl,
        fun h => absurd h hid⟩
  · rintro (_ | row) γ' h
    · trivial
    · exact h
  · exact fun _ _ _ => trivial

/-- The clock does not go back. -/
theorem now_outline : Outline (rulingSystem ι id) (rulingSpec ι id) i
    (onOk fun (n : ℤ) γ' => γ' = γ ∧ γ.began ≤ n) (stmt .now) γ := by
  refine statement_outline .now (fun g s e n hg hinv _ => ?_) fun _ => trivial
  have hbegan := hinv.began i
  rw [hg] at hbegan
  have hown := hinv.own i
  rw [hg] at hown
  exact ⟨hinv.plain (e.at s.clock) (show Plain .now from trivial) n (by rw [hg]; rfl) hown hbegan, rfl,
    hbegan⟩

/-- The call under way began in time. -/
def InTime (γ : Deeds) : Prop := ∃ t ∈ γ.deadline, γ.began ≤ t

/-- An approval that has submitted nothing yet. -/
structure Ready (γ : Deeds) : Prop where
  approved : γ.approved = true
  retries : γ.retries = 0
  inTime : InTime γ

/-- A ruling on the escalation, written in turn. -/
theorem ruling_rule {g : ι → Deeds} {s : Timed} (hinv : Ruled id g s) (hpending : Pending s.desk id)
    (n : ℕ) {d : Desk} {f : EscalationRow → EscalationRow}
    (hd : d = s.desk.setEscalation id f)
    (hstatus : ∀ r, (f r).status ≠ .pending) (htimeout : ∀ r, (f r).timeoutAt = r.timeoutAt)
    (approved : Bool) (happroved : approved = true → ∀ r, (f r).status = .resolved ∧
      (f r).decision = some .approve) :
    Ruled id (Function.update g i
      { g i with approved := approved, effects := (g i).effects + 1 }) ⟨d, s.clock + n⟩ ∧
      (g i).retries = 0 ∧ (g i).derived = 0 := by
  obtain ⟨row, hrow, hstill⟩ := hpending
  have hrow : s.desk.escalation id = some row := hrow
  have hold := hinv.own i
  have hnone : (g i).effects = 0 := by
    refine hinv.untouched (fun r hr => ?_) i
    rw [hrow] at hr
    rw [← Option.some.inj hr]
    exact hstill
  have hno : ¬ (0 < (g i).derived ∨ 0 < (g i).retries) := by
    intro hdone
    have hone := (hold.approval (.inr hdone)).1
    omega
  have hclock : s.clock ≤ s.clock + n := by omega
  have hrow' : d.escalation id = some (f row) := by
    rw [hd, escalation_set, hrow, Option.map_some, if_pos rfl]
  refine ⟨hinv.rule hclock hrow hstill hrow' (hstatus row) (htimeout row) ⟨?_, ?_, hold.derived,
    hold.retries, ?_, ?_⟩ ((hinv.began i).trans hclock), by omega, by omega⟩
  · intro t ht
    obtain ⟨r, hr, rfl⟩ := hold.deadline t ht
    rw [hrow] at hr
    rw [← Option.some.inj hr]
    exact ⟨f row, rfl, htimeout row⟩
  · change (g i).effects + 1 ≤ 1
    omega
  · rintro (happ | hdone)
    · refine ⟨?_, f row, rfl, happroved happ row⟩
      change (g i).effects + 1 = 1
      omega
    · exact absurd hdone hno
  · exact fun hretry => absurd (.inr hretry) hno

/-- A ruling on another escalation. -/
theorem ruling_other {g : ι → Deeds} {s : Timed} (hinv : Ruled id g s) (n : ℕ)
    {other : String} (hother : other ≠ id) (f : EscalationRow → EscalationRow) :
    Ruled id (Function.update g i (g i)) ⟨s.desk.setEscalation other f, s.clock + n⟩ := by
  have hclock : s.clock ≤ s.clock + n := by omega
  refine hinv.keep hclock ?_ rfl (hinv.own i) ((hinv.began i).trans hclock)
  change (s.desk.setEscalation other f).escalation id = s.desk.escalation id
  have hid : (fun row => if id = other then f row else row) = fun row => row := by
    funext row
    exact if_neg (Ne.symm hother)
  rw [escalation_set, hid]
  exact Option.map_id_fun' ▸ rfl

/-- The `UPDATE` of a resolution. -/
theorem resolved_outline (other : String) (answer : Answer) (approver channel sig : String)
    (hγ : γ.approved = false) (htime : other = id → InTime γ) :
    Outline (rulingSystem ι id) (rulingSpec ι id) i
      (onOk fun _ γ' => (γ'.approved = false ∨ Ready γ' ∧ γ'.derived = 0) ∧
        (answer ≠ .approve → γ'.approved = false))
      (stmt (.updateResolved other answer approver channel sig)) γ := by
  refine statement_eq (.updateResolved other answer approver channel sig)
    (fun g s e n hg hinv hturn => ?_) fun _ => trivial
  by_cases hid : other = id
  · have hpending : Pending s.desk id := hturn hid
    obtain ⟨hruled, hretries, hderived⟩ := ruling_rule (i := i) hinv hpending n
      (f := fun row =>
        { row with
          status := .resolved, decision := some answer, approver := some approver
          channel := some channel, receiptSig := some sig })
      (d := s.desk.setEscalation other _) (by rw [hid]) (fun r h => by cases h) (fun r => rfl)
      (decide (answer = .approve)) (fun h r => ⟨rfl, by rw [of_decide_eq_true h]⟩)
    rw [hg] at hruled hretries hderived
    refine ⟨_, _, _, rfl, if_pos hid, hruled, ?_, fun hne => decide_eq_false hne⟩
    by_cases happrove : answer = .approve
    · exact .inr ⟨⟨decide_eq_true happrove, hretries, htime hid⟩, hderived⟩
    · exact .inl (decide_eq_false happrove)
  · have hruled := ruling_other (i := i) hinv n hid
    rw [hg] at hruled
    exact ⟨_, _, _, rfl, if_neg hid, hruled _, .inl hγ, fun _ => hγ⟩

/-- The `UPDATE` of a timeout. -/
theorem timedOut_outline (other : String) (hγ : γ.approved = false) :
    Outline (rulingSystem ι id) (rulingSpec ι id) i (fun _ _ => True)
      (stmt (.updateTimedOut other)) γ := by
  refine statement_eq (.updateTimedOut other) (fun g s e n hg hinv hturn => ?_)
    fun _ => trivial
  by_cases hid : other = id
  · have hpending : Pending s.desk id := hturn hid
    obtain ⟨hruled, -, -⟩ := ruling_rule (i := i) hinv hpending n
      (f := fun row => { row with status := .expired, decision := some .timeout })
      (d := s.desk.setEscalation other _) (by rw [hid]) (fun r h => by cases h) (fun r => rfl)
      false (fun h => by cases h)
    rw [hg, ← hγ] at hruled
    exact ⟨_, _, _, rfl, if_pos hid, hruled, trivial⟩
  · have hruled := ruling_other (i := i) hinv n hid
    rw [hg] at hruled
    exact ⟨_, _, _, rfl, if_neg hid, hruled _, trivial⟩

/-! ### The statements of a retry -/

/-- The derived mandate of an approval. -/
theorem derive_outline (row : MandateRow) (hγ : Ready γ) (hderived : γ.derived = 0) :
    Outline (rulingSystem ι id) (rulingSpec ι id) i (fun _ γ' => Ready γ')
      (stmt (.insertMandate row)) γ := by
  refine statement_outline (.insertMandate row) (fun g s e n hg hinv _ => ?_) fun _ => hγ
  have hold := hinv.own i
  rw [hg] at hold
  have hbegan := hinv.began i
  rw [hg] at hbegan
  have hplain : Plain (.insertMandate row) := trivial
  generalize (exec (e.at s.clock) (.insertMandate row) s.desk).1 = r
  have hnext : advance id s.clock γ (.insertMandate row) r = γ ∨
      advance id s.clock γ (.insertMandate row) r = { γ with derived := γ.derived + 1 } := by
    cases r with
    | error x => exact .inl rfl
    | ok a => exact .inr (if_pos hγ.approved)
  rcases hnext with hsame | hmore
  · rw [hsame]
    exact ⟨hinv.plain _ hplain n (by rw [hg]) hold hbegan, hγ⟩
  · rw [hmore]
    have hone : γ.derived + 1 ≤ 1 := by omega
    refine ⟨hinv.plain _ hplain n (by rw [hg]) ⟨hold.deadline, hold.effects, hone, hold.retries,
      fun _ => hold.approval (.inl hγ.approved), hold.timely⟩ hbegan, hγ.approved, hγ.retries,
      hγ.inTime⟩

/-- The retried purchase of an approval. -/
theorem retry_outline (purchaseId : String) (intent : Intent) (hγ : Ready γ) :
    Outline (rulingSystem ι id) (rulingSpec ι id) i (fun _ _ => True)
      (kernel (.insertPurchase purchaseId intent)) γ := by
  refine statement_outline (.kernel (.insertPurchase purchaseId intent))
    (fun g s e n hg hinv _ => ⟨?_, trivial⟩) fun _ => trivial
  have hold := hinv.own i
  rw [hg] at hold
  have hbegan := hinv.began i
  rw [hg] at hbegan
  have hplain : Plain (.kernel (.insertPurchase purchaseId intent)) := trivial
  generalize (exec (e.at s.clock) (.kernel (.insertPurchase purchaseId intent)) s.desk).1 = r
  have hnext : advance id s.clock γ (.kernel (.insertPurchase purchaseId intent)) r = γ ∨
      advance id s.clock γ (.kernel (.insertPurchase purchaseId intent)) r =
        { γ with retries := γ.retries + 1, since := γ.began } := by
    cases r with
    | error x => exact .inl rfl
    | ok a => exact .inr (if_pos hγ.approved)
  rcases hnext with hsame | hmore
  · rw [hsame]
    exact hinv.plain _ hplain n (by rw [hg]) hold hbegan
  · rw [hmore]
    have hone : γ.retries + 1 ≤ 1 := by
      rw [hγ.retries]
    obtain ⟨t, ht, hbefore⟩ := hγ.inTime
    obtain ⟨row, hrow, rfl⟩ := hold.deadline t ht
    exact hinv.plain _ hplain n (by rw [hg]) ⟨hold.deadline, hold.effects, hold.derived, hone,
      fun _ => hold.approval (.inl hγ.approved), fun _ => ⟨row, hrow, hbefore⟩⟩ hbegan

/-- A call of the kernel that inserts no purchase. -/
def Later (c : Call) : Prop := ∀ purchaseId intent, c ≠ .insertPurchase purchaseId intent

theorem openEscalation_quiet (I : Issuer) (o : Opening) : (openEscalation I o).Calls Quiet := by
  refine Prog.calls_bind ?_ fun approver => ?_
  · refine Prog.calls_bind (Prog.calls_perform trivial) fun agent => ?_
    cases agent with
    | none => trivial
    | some agentId =>
      dsimp only
      split_ifs
      · trivial
      · exact Prog.calls_bind (Prog.calls_perform trivial) fun _ => trivial
  · exact Prog.calls_bind (Prog.calls_perform trivial) fun _ =>
      Prog.calls_bind (Prog.calls_perform trivial) fun _ =>
        Prog.calls_bind (Prog.calls_perform trivial) fun _ =>
          Prog.calls_bind (Prog.calls_perform trivial) fun _ => Prog.calls_perform trivial

theorem handler_quiet (I : Issuer) (mandateJti : String) (runId : Option String) {c : Call}
    (hc : Later c) : (handler I mandateJti runId c).Calls Quiet := by
  cases c with
  | openEscalation escalationId purchaseId code => exact openEscalation_quiet I _
  | insertPurchase purchaseId intent => exact absurd rfl (hc purchaseId intent)
  | _ => exact Prog.calls_perform trivial

theorem handler_plain (I : Issuer) (mandateJti : String) (runId : Option String) (c : Call) :
    (handler I mandateJti runId c).Calls Plain := by
  cases c with
  | openEscalation escalationId purchaseId code =>
    exact Prog.calls_mono (fun _ => Quiet.plain) (openEscalation_quiet I _)
  | _ => exact Prog.calls_perform trivial

/-- What follows the insert of a purchase inserts no other. -/
theorem afterVerify_later (K : Deps) (ports : String → Option Port) (fuel : ℕ) (ids : FreshIds)
    (token : String) (claims : Claims) (intent : Intent) (signature : String) (v : Verified) :
    (afterVerify K ports fuel ids token claims intent signature v).Calls Later := by
  have hlater : ∀ c, Elsewhere c → Later c := by
    rintro c hc purchaseId intent rfl
    exact hc
  simp only [afterVerify]
  cases v.decision.decision with
  | escalated =>
    exact Prog.calls_bind (Prog.calls_perform fun _ _ h => by cases h) fun _ =>
      Prog.calls_bind (Prog.calls_perform fun _ _ h => by cases h) fun _ => trivial
  | rejected =>
    exact Prog.calls_bind (Prog.calls_perform fun _ _ h => by cases h) fun _ =>
      Prog.calls_bind (Prog.calls_perform fun _ _ h => by cases h) fun _ => trivial
  | approved =>
    exact charge_elsewhere hlater K ports fuel ids _ _ _ _ _ _ fun _ _ _ _ _ h => by cases h

/-- **A retry** submits one purchase. -/
theorem submitPurchase_outline (D : Deployment) (r : Submission) (hγ : Ready γ) :
    Outline (rulingSystem ι id) (rulingSpec ι id) i (fun _ _ => True) (submitPurchase D r) γ := by
  have hquiet : ∀ {α : Type} (p : Agent.Py α) (γ : Deeds), p.Calls Later →
      Outline (rulingSystem ι id) (rulingSpec ι id) i (fun _ γ' => γ' = γ)
        (p.interp (handler D.issuer r.mandateJti r.runId)) γ := by
    intro α p γ hp
    exact quiet_calls (.inl (Prog.calls_interp (fun c hc => handler_quiet _ _ _ hc) hp))
  rw [submitPurchase]
  refine outline_interp_bind (hquiet _ γ (Prog.calls_perform fun _ _ h => by cases h))
    (fun row γ' hγ' => ?_) fun _ _ _ => trivial
  rw [hγ']
  cases row with
  | none => trivial
  | some row =>
    dsimp only
    cases D.ports r.merchantId with
    | none => trivial
    | some port =>
      dsimp only
      refine outline_interp_bind (hquiet _ γ (Prog.calls_perform fun _ _ h => by cases h))
        (fun offer γ' hγ' => ?_) fun _ _ _ => trivial
      rw [hγ']
      cases offer with
      | none => trivial
      | some offer =>
        refine outline_interp_bind (hquiet _ γ (Prog.calls_perform fun _ _ h => by cases h))
          (fun issued γ' hγ' => ?_) fun _ _ _ => trivial
        rw [hγ']
        refine outline_interp_bind (outline_interp_perform
          (h := handler D.issuer r.mandateJti r.runId) (retry_outline _ _ hγ))
          (fun _ γ' _ => ?_) fun _ _ _ => trivial
        refine outline_mono (fun _ _ _ => trivial) (hquiet _ γ' ?_)
        exact Prog.calls_bind (Prog.calls_perform fun _ _ h => by cases h) fun _ =>
          Prog.calls_bind (verify_elsewhere (fun c hc purchaseId intent h => by
            rw [h] at hc
            exact hc) _ _ _ _ _ _ _ _) fun v => afterVerify_later _ _ _ _ _ _ _ _ v

theorem retryOffer_quiet (row : EscalationRow) (purchase : PurchaseRow) :
    (retryOffer row purchase).Calls Quiet := by
  refine Prog.calls_bind (Prog.calls_perform trivial) fun r => ?_
  cases r with
  | some r => trivial
  | none => exact Prog.calls_bind (Prog.calls_perform trivial) fun _ => trivial

/-- The mandate of a retry, derived once when the approval is sticky. -/
theorem retryMandate_outline (I : Issuer) (row : EscalationRow) (purchase : PurchaseRow)
    (sticky : Bool) (derivedJti : String) (hγ : Ready γ) (hderived : γ.derived = 0) :
    Outline (rulingSystem ι id) (rulingSpec ι id) i (fun _ γ' => Ready γ')
      (retryMandate I row purchase sticky derivedJti) γ := by
  rw [retryMandate]
  refine outline_ite (fun _ => ?_) fun _ => hγ
  refine outline_bind (quiet_outline _ (.inl trivial)) (fun parent γ' hγ' => ?_) fun x γ' hγ' => ?_
  · rw [hγ']
    cases parent with
    | none => exact hγ
    | some parent =>
      refine outline_bind (quiet_outline _ (.inl trivial)) (fun issued γ' hγ' => ?_)
        fun x γ' hγ' => by rw [hγ']; exact hγ
      rw [hγ']
      refine outline_bind (derive_outline _ hγ hderived) (fun _ γ' hγ' => ?_) fun _ _ h => h
      refine outline_bind (quiet_outline _ (.inl trivial)) (fun _ γ'' hsame => ?_)
        fun x γ'' hsame => by rw [hsame]; exact hγ'
      rw [hsame]
      refine outline_bind (quiet_outline _ (.inl trivial)) (fun _ γ'' hsame => ?_)
        fun x γ'' hsame => by rw [hsame]; exact hγ'
      rw [hsame]
      exact hγ'
  · rw [hγ']
    exact hγ

/-- **The retry of an approval.** -/
theorem retryThroughGate_outline (D : Deployment) (r : Resolution) (row : EscalationRow)
    (hγ : Ready γ) (hderived : γ.derived = 0) :
    Outline (rulingSystem ι id) (rulingSpec ι id) i (fun _ _ => True)
      (retryThroughGate D r row) γ := by
  refine outline_bind (quiet_outline _ (.inl trivial)) (fun purchase γ' hγ' => ?_)
    fun _ _ _ => trivial
  rw [hγ']
  cases purchase with
  | none => trivial
  | some purchase =>
    refine outline_bind (quiet_calls (.inl (retryOffer_quiet row purchase)))
      (fun offer γ' hγ' => ?_) fun _ _ _ => trivial
    rw [hγ']
    rcases offer with ⟨offerId, merchantId⟩
    cases offerId with
    | none => trivial
    | some offerId =>
      refine outline_bind (retryMandate_outline D.issuer row purchase _ _ hγ hderived)
        (fun mandateJti γ' hγ' => ?_) fun _ _ _ => trivial
      exact submitPurchase_outline D _ hγ'

theorem retryThroughGate_plain (D : Deployment) (r : Resolution) (row : EscalationRow) :
    (retryThroughGate D r row).Calls Plain := by
  refine Prog.calls_bind (Prog.calls_perform trivial) fun purchase => ?_
  cases purchase with
  | none => trivial
  | some purchase =>
    refine Prog.calls_bind (Prog.calls_mono (fun _ => Quiet.plain) (retryOffer_quiet row purchase))
      fun offer => ?_
    rcases offer with ⟨offerId, merchantId⟩
    cases offerId with
    | none => trivial
    | some offerId =>
      refine Prog.calls_bind ?_ fun mandateJti =>
        Prog.calls_interp (fun c _ => handler_plain _ _ _ c) (Prog.calls_true _)
      rw [retryMandate]
      split_ifs
      · refine Prog.calls_bind (Prog.calls_perform trivial) fun parent => ?_
        cases parent with
        | none => trivial
        | some parent =>
          exact Prog.calls_bind (Prog.calls_perform trivial) fun _ =>
            Prog.calls_bind (Prog.calls_perform trivial) fun _ =>
              Prog.calls_bind (Prog.calls_perform trivial) fun _ =>
                Prog.calls_bind (Prog.calls_perform trivial) fun _ => trivial
      · trivial

/-! ### Rulings -/

theorem expire_outline (other : String) : Outline (rulingSystem ι id) (rulingSpec ι id) i
    (fun _ _ => True) (expire other) γ := by
  refine outline_bind (get_outline other) (fun row γ hγ => ?_) fun _ _ _ => trivial
  refine outline_ite (fun _ => trivial) fun _ => ?_
  refine outline_bind (timedOut_outline other hγ.1) (fun _ γ _ => ?_) fun _ _ _ => trivial
  refine outline_bind (quiet_outline _ (.inl trivial)) (fun _ γ _ => ?_) fun _ _ _ => trivial
  exact outline_bind (quiet_outline _ (.inl trivial)) (fun _ _ _ => trivial) fun _ _ _ => trivial

theorem resolvePending_outline (D : Deployment) (r : Resolution) (answer : Answer)
    (row : EscalationRow) (hγ : γ.approved = false) (htime : r.escalationId = id → InTime γ) :
    Outline (rulingSystem ι id) (rulingSpec ι id) i (fun _ _ => True)
      (resolvePending D r answer row) γ := by
  refine outline_bind now_outline (fun now γ' hnow => ?_) fun _ _ _ => trivial
  rw [hnow.1]
  refine outline_bind (resolved_outline r.escalationId answer r.approver r.channel _ hγ htime)
    (fun _ γ hγ => ?_) fun _ _ _ => trivial
  refine outline_bind (quiet_outline _ (.inl trivial)) (fun _ γ' hγ' => ?_) fun _ _ _ => trivial
  rw [hγ']
  refine outline_ite (fun _ => ?_) fun _ => ?_
  · exact outline_bind (quiet_outline _ (.inl trivial)) (fun _ _ _ => trivial) fun _ _ _ => trivial
  · have hretry : Outline (rulingSystem ι id) (rulingSpec ι id) i (fun _ _ => True)
        (retryThroughGate D r row) γ := by
      rcases hγ.1 with hno | ⟨hready, hderived⟩
      · exact outline_mono (fun _ _ _ => trivial)
          (quiet_calls (.inr ⟨retryThroughGate_plain D r row, hno⟩))
      · exact retryThroughGate_outline D r row hready hderived
    exact outline_bind hretry (fun _ _ _ => trivial) fun _ _ _ => trivial

theorem resolve_outline (D : Deployment) (r : Resolution) :
    Outline (rulingSystem ι id) (rulingSpec ι id) i (fun _ _ => True) (resolve D r) γ := by
  rw [resolve]
  cases Answer.ofText r.decision with
  | none => trivial
  | some answer =>
    refine outline_bind (get_outline r.escalationId) (fun row γ hγ => ?_) fun _ _ _ => trivial
    refine outline_ite (fun _ => trivial) fun _ => ?_
    refine outline_bind now_outline (fun now γ' hnow => ?_) fun _ _ _ => trivial
    rw [hnow.1]
    refine outline_ite (fun _ => expire_outline _) fun htime => ?_
    refine resolvePending_outline D r answer row hγ.1 fun hid => ⟨row.timeoutAt, hγ.2 hid, ?_⟩
    exact hnow.2.trans (not_lt.1 htime)

theorem expireAll_outline (due : List String) : Outline (rulingSystem ι id) (rulingSpec ι id) i
    (fun _ _ => True) (expireAll due) γ := by
  induction due generalizing γ with
  | nil => trivial
  | cons other due ih =>
    refine outline_bind (expire_outline other) (fun _ γ _ => ?_) fun _ _ _ => trivial
    exact outline_bind ih (fun _ _ _ => trivial) fun _ _ _ => trivial

theorem sweep_outline : Outline (rulingSystem ι id) (rulingSpec ι id) i (fun _ _ => True)
    sweep γ := by
  refine outline_bind now_outline (fun now γ _ => ?_) fun _ _ _ => trivial
  exact outline_bind (quiet_outline _ (.inl trivial)) (fun due γ _ => expireAll_outline due)
    fun _ _ _ => trivial

theorem rulings_outline (D : Deployment) (calls : List Ruling) :
    Outline (rulingSystem ι id) (rulingSpec ι id) i (fun _ _ => True) (rulings D calls) γ := by
  induction calls generalizing γ with
  | nil => trivial
  | cons r rest ih =>
    have hfirst : Outline (rulingSystem ι id) (rulingSpec ι id) i (fun _ _ => True)
        (rule D r) γ := by
      cases r with
      | resolve r =>
        exact outline_bind (resolve_outline D r) (fun _ _ _ => trivial) fun _ _ _ => trivial
      | expire other =>
        exact outline_bind (expire_outline other) (fun _ _ _ => trivial) fun _ _ _ => trivial
      | sweep =>
        exact outline_bind sweep_outline (fun _ _ _ => trivial) fun _ _ _ => trivial
    exact outline_bind (outline_attempt hfirst) (fun _ _ _ => ih) fun _ _ _ => trivial

end Outlines

/-! ## Runs -/

/-- **What is done at most once** about an escalation. -/
structure Once {ι : Type} (id : String) (deeds : ι → Deeds) (d : Desk) : Prop where
  /-- One connection at most has ruled, retried or derived anything. -/
  single : ∀ i j, 0 < (deeds i).effects ∨ 0 < (deeds i).retries ∨ 0 < (deeds i).derived →
    0 < (deeds j).effects ∨ 0 < (deeds j).retries ∨ 0 < (deeds j).derived → i = j
  effects : ∀ i, (deeds i).effects ≤ 1
  retries : ∀ i, (deeds i).retries ≤ 1
  derived : ∀ i, (deeds i).derived ≤ 1
  /-- A retry, or a derived mandate, is under a recorded approval. -/
  approval : ∀ i, 0 < (deeds i).retries ∨ 0 < (deeds i).derived →
    ∃ row ∈ d.escalation id, row.status = .resolved ∧ row.decision = some .approve
  /-- A retry is by a call that began in time. -/
  timely : ∀ i, 0 < (deeds i).retries → ∃ row ∈ d.escalation id, (deeds i).since ≤ row.timeoutAt

theorem Ruled.once {ι : Type} {id : String} {g : ι → Deeds} {s : Timed} (h : Ruled id g s) :
    Once id g s.desk := by
  have hacted : ∀ i, 0 < (g i).effects ∨ 0 < (g i).retries ∨ 0 < (g i).derived →
      0 < (g i).effects := by
    rintro i (heffects | hdone)
    · exact heffects
    · have hone := ((h.own i).approval (.inr hdone.symm)).1
      omega
  exact ⟨fun i j hi hj => h.single i j (hacted i hi) (hacted j hj), fun i => (h.own i).effects,
    fun i => (h.own i).retries, fun i => (h.own i).derived,
    fun i hdone => ((h.own i).approval (.inr hdone.symm)).2, fun i => (h.own i).timely⟩

/-- **An escalation is ruled on once.** Any connections resolve, expire and sweep any escalations,
from any desk, statement by statement, and a ruling on `id` is written only while `id` is pending.
Then one ruling at most takes effect, one retry is submitted and one mandate derived at most, both
only under a recorded approval, and the retry by a call that began in time. -/
theorem ruled_once {ι : Type} [DecidableEq ι] (D : Deployment) (id : String) (start : Timed)
    (calls : ι → List Ruling) (xs : List (ι × Turn))
    (hturn : (rulingSystem ι id).Along (InTurn id) (rulingStart D start calls) xs) :
    Once id ((rulingSystem ι id).run (rulingStart D start calls) xs).hist
      ((rulingSystem ι id).run (rulingStart D start calls) xs).shared.desk := by
  have hstarted : Outlined (rulingSystem ι id) (rulingSpec ι id) (fun _ _ _ => True)
      (rulingStart D start calls) := by
    refine ⟨⟨fun i j hi => ?_, fun _ _ => rfl, fun i => ⟨fun t ht => ?_, ?_, ?_, ?_, fun h => ?_,
      fun h => ?_⟩, fun _ => le_refl _⟩, fun i => rulings_outline D (calls i)⟩
    · exact absurd hi (lt_irrefl 0)
    · cases ht
    · exact Nat.zero_le 1
    · exact Nat.zero_le 1
    · exact Nat.zero_le 1
    · rcases h with h | h | h
      · cases h
      · exact absurd h (lt_irrefl 0)
      · exact absurd h (lt_irrefl 0)
    · exact absurd h (lt_irrefl 0)
  exact (outline_run hstarted hturn).2.inv.once

/-! ## An escalated purchase -/

/-- A mandate of 100.00 per purchase. -/
def fareClaims (jti : String) : Claims :=
  ⟨jti, "agt", "ppt", "USD", [], [], .bool true, ⟨10000, 50000, none⟩, 0, 1000⟩

/-- A fare of 300.00. -/
def fareOffer : Offer := ⟨"ofr_300", "vuelaya", "flights", "business", 30000, "USD", none⟩

/-- A deployment whose signatures verify. -/
def fareDeployment : Deployment where
  issuer := ⟨fun _ _ _ _ _ _ => "sig", fun claims => claims.jti, fun _ => none, 120⟩
  deps :=
    { verifyToken := fun token => .ok (fareClaims token), verifyDetached := fun _ _ _ => .ok ()
      signDetached := fun _ _ => "sig", evaluate := fun _ _ _ => .ok true
      describe := fun _ => "", bridgeMessage := fun _ => "" }
  ports := fun merchant => if merchant = "vuelaya" then some .mock else none
  fuel := 3

/-- The escalation of the fare, pending until 120. -/
def fareEscalation : EscalationRow where
  purchaseId := "pur"
  mandateJti := "mdt"
  runId := none
  approverId := none
  status := .pending
  reasonCode := "AMOUNT_EXCEEDS_PER_TXN"
  timeoutAt := 120
  createdAt := 0
  decision := none
  approver := none
  channel := none
  receiptSig := none

/-- A desk with that escalation. -/
def fareDesk : Timed where
  desk :=
    { db :=
        { mandates := fun j => if j = "mdt" then some
            { status := .active, claims := fareClaims "mdt", token := "mdt", reservedAmount := 0
              spentTotal := 0, txnCount := 0, parentJti := none }
          else none
          instruments := fun _ => some .active
          captures := fun _ => none
          intents := []
          purchases := fun p => if p = "pur" then
              some ⟨"mdt", "int", .awaitingEscalation, 30000, none, none, none⟩
            else none
          audit := []
          escalations := []
          bridgeOrders := [] }
      approvers := fun _ => none
      escalations := [("esc", fareEscalation)] }
  clock := 10

/-- Steps at which nothing fails; the log names the fare. -/
def fareTurn : Turn where
  env := ⟨{ Env.quiet with offer := some fareOffer }, some (some "ofr_300", some "vuelaya")⟩
  elapsed := 1

/-- A sticky approval by each of two people. -/
def bothApprove : Bool → List Ruling := fun i =>
  [.resolve ⟨"esc", "APPROVE", "marta", "chat", true, if i then "mdt_1" else "mdt_0",
    if i then ⟨"pur_1", "int_1", "nonce_1", "rsv_1", "cap_1", "rct_1", "esc_1"⟩
    else ⟨"pur_0", "int_0", "nonce_0", "rsv_0", "cap_0", "rct_0", "esc_0"⟩⟩]

/-- One approves, and then the other. -/
def inTurnRun : List (Bool × Turn) :=
  List.replicate 17 (false, fareTurn) ++ List.replicate 17 (true, fareTurn)

theorem ruled_once_approved :
    Once "esc" ((rulingSystem Bool "esc").run (rulingStart fareDeployment fareDesk bothApprove)
        inTurnRun).hist
      ((rulingSystem Bool "esc").run (rulingStart fareDeployment fareDesk bothApprove)
        inTurnRun).shared.desk :=
  ruled_once fareDeployment "esc" fareDesk bothApprove inTurnRun (by decide +kernel)

/-- Both read the escalation before either rules. -/
def racedRun : List (Bool × Turn) :=
  [(false, fareTurn), (true, fareTurn)] ++ List.replicate 16 (false, fareTurn) ++
    List.replicate 16 (true, fareTurn)

/-- **Two approvals** that both read `pending`: two mandates are derived and two purchases retried. -/
theorem ruled_twice : ¬ ∀ xs : List (Bool × Turn),
    Once "esc" ((rulingSystem Bool "esc").run (rulingStart fareDeployment fareDesk bothApprove)
        xs).hist
      ((rulingSystem Bool "esc").run (rulingStart fareDeployment fareDesk bothApprove)
        xs).shared.desk := by
  intro h
  have hboth : (((rulingSystem Bool "esc").run (rulingStart fareDeployment fareDesk bothApprove)
      racedRun).hist false).retries = 1 ∧ (((rulingSystem Bool "esc").run
        (rulingStart fareDeployment fareDesk bothApprove) racedRun).hist true).retries = 1 := by
    decide +kernel
  have hsame := (h racedRun).single false true (.inr (.inl (by rw [hboth.1]; decide)))
    (.inr (.inl (by rw [hboth.2]; decide)))
  cases hsame

end TryTrust.Agent.Escalation
