import TryTrust.Agent.Orchestrator

/-!
# Runs of the orchestrator

Any number of calls of `start`, `run_until_pause`, `resume` and `add_guidance` over one table,
each stopped at any statement, with any answers of the model, the merchants and the kernel.

* `Board`, `sem`: the table and what the statements do; `Trail`: what a call has learned;
* `RunOk`, `RunsInv`: what the rows and the calls may rely on; one lemma for each kind of statement;
* `save_meets`, `handler_meets`, `loop_outline`, `act_outline`: the specifications;
* **`submissions_sound`**: every submission is of a purchase run, for an offer that a merchant
  listed for this run, and the third of its call at the latest, after refusals that may be retried;
* **`runs_truthful`**: a run that is done was paid or only read; one that waits has its
  escalation; every event has the version pinned at the start.
-/

namespace TryTrust.Agent.Orchestrator

open Conc
open TryTrust.Agent.Graph (RunStatus)

/-! ## The table -/

/-- `agent_runs` and the audit log. -/
structure Board where
  runs : String → Option AgentRun
  events : List RunEvent

/-- How a statement over the table ends: it runs; it fails; it runs and its answer is lost. -/
inductive Fate where
  | runs
  | fails (e : GraphErr)
  | lost (e : GraphErr)

/-- What the environment chooses at a call. -/
structure Env where
  fate : Fate
  answer : (op : Op) → Except GraphErr (Reply op)

/-- `UPDATE agent_runs … WHERE run_id = ?`. -/
def Board.setRun (s : Board) (runId : String) (f : AgentRun → AgentRun) : Board :=
  { s with runs := Function.update s.runs runId ((s.runs runId).map f) }

/-- `INSERT INTO agent_runs`. -/
def Board.addRun (s : Board) (run : AgentRun) : Board :=
  { s with runs := Function.update s.runs run.runId (some run) }

theorem addRun_runs (s : Board) (run : AgentRun) (id : String) :
    (s.addRun run).runs id = if id = run.runId then some run else s.runs id := by
  simp only [Board.addRun, Function.update_apply]

/-- The answer of a statement that ran, under its fate. -/
def Fate.answer {α : Type} (f : Fate) (a : α) : Except GraphErr α :=
  match f with
  | .runs => .ok a
  | .fails e => .error e
  | .lost e => .error e

/-- The table after a statement, under its fate. -/
def Fate.effect (f : Fate) (s s' : Board) : Board :=
  match f with
  | .fails _ => s
  | _ => s'

/-- **The meaning of a call.** -/
def sem (e : Env) : (op : Op) → Board → Except GraphErr (Reply op) × Board
  | .insertRun run, s =>
    if (s.runs run.runId).isSome then (.error (.other "UNIQUE constraint failed"), s)
    else (e.fate.answer (), e.fate.effect s (s.addRun run))
  | .selectRun id, s => (e.fate.answer (s.runs id), s)
  | .updateRun id node state status escalationId, s =>
    (e.fate.answer (), e.fate.effect s (s.setRun id fun run =>
      { run with node := node, state := state, status := status, escalationId := escalationId }))
  | .updateRunning id, s =>
    (e.fate.answer (), e.fate.effect s (s.setRun id fun run => { run with status := .running }))
  | .updateState id state, s =>
    (e.fate.answer (), e.fate.effect s (s.setRun id fun run =>
      { run with state := state, status := .running }))
  | .append event, s =>
    (e.fate.answer (), e.fate.effect s { s with events := s.events ++ [event] })
  | op, s => (e.answer op, s)

/-! ## What a call has learned -/

/-- What never changes in a run. -/
structure Base where
  runId : String
  agentId : String
  agentVersion : ℕ
  mandateJti : String
  mode : Mode
  deriving DecidableEq

/-- The part of a run that never changes. -/
def AgentRun.base (run : AgentRun) : Base :=
  ⟨run.runId, run.agentId, run.agentVersion, run.mandateJti, run.state.requestMode⟩

/-- The history of a call. -/
structure Trail where
  /-- The run it works on. -/
  base : Option Base
  /-- Offers, with their merchants where known, that it was told or has read. -/
  offers : List (String × Option String)
  /-- Offers that merchants answered to its searches. -/
  found : List (String × String)
  /-- Escalations that it was told or has read. -/
  escalations : List String
  /-- Escalations that the kernel opened for it. -/
  opened : List String
  /-- It knows that the run was paid. -/
  paid : Bool
  /-- It was told that a purchase of the run is captured. -/
  captured : Bool
  /-- The answers to its submissions. -/
  submissions : List (Except GraphErr Result)

/-- The history of a call that has not begun. -/
def Trail.empty : Trail := ⟨none, [], [], [], [], false, false, []⟩

/-- The offers that a state names. -/
def offersOf (st : RunState) : List (String × Option String) :=
  (st.offers.map fun o => (o.offerId, some o.merchantId)) ++
    ((st.proposal.bind (·.offerId)).map fun id => (id, none)).toList

/-- The escalations that a run names. -/
def escalationsOf (run : AgentRun) : List String :=
  run.escalationId.toList ++ (run.state.result.bind (·.escalationId)).toList

/-- A node that only a paid run reaches. -/
def paidAt (run : AgentRun) : Bool :=
  run.node = .receipt || (run.node = .done && run.state.requestMode = .purchase)

/-- A run is read. -/
def Trail.readRun (γ : Trail) (run : AgentRun) : Trail :=
  { γ with
    base := some (γ.base.getD run.base)
    offers := offersOf run.state
    escalations := escalationsOf run
    paid := paidAt run }

/-- A merchant answers. -/
def Trail.listed (γ : Trail) (m : String) (offers : List Listing) : Trail :=
  { γ with
    offers := γ.offers ++ offers.map fun o => (o.offerId, some m)
    found := γ.found ++ offers.map fun o => (o.offerId, m) }

/-- The kernel says that the purchase is captured. -/
def Result.isCaptured (r : Result) : Bool := r.status = .purchase .captured

/-- The kernel answers. -/
def Trail.answered (γ : Trail) (r : Except GraphErr Result) : Trail :=
  match r with
  | .ok a =>
    { γ with
      submissions := γ.submissions ++ [.ok a]
      escalations := γ.escalations ++ a.escalationId.toList
      opened := γ.opened ++ a.escalationId.toList
      paid := γ.paid || a.isCaptured
      captured := γ.captured || a.isCaptured }
  | .error e => { γ with submissions := γ.submissions ++ [.error e] }

/-- A purchase is read. -/
def Trail.readPurchase (γ : Trail) (p : PurchaseView) : Trail :=
  { γ with
    paid := γ.paid || p.status = .captured
    captured := γ.captured || p.status = .captured }

/-- The history after a call. -/
def adv (γ : Trail) : (op : Op) → Except GraphErr (Reply op) → Trail
  | .insertRun run, .ok _ => { γ with base := some (γ.base.getD run.base) }
  | .selectRun _, .ok (some run) => γ.readRun run
  | .merchantSearch m _, .ok offers => γ.listed m offers
  | .submitPurchase _ _ _ _, r => γ.answered r
  | .selectPurchase _, .ok (some p) => γ.readPurchase p
  | _, _ => γ

/-- Any number of calls over one table. -/
def system (ι : Type) : System ι Op Reply GraphErr Board Trail Env where
  sem := sem
  adv _ γ _ op r := adv γ op r

/-! ## What the rows may rely on -/

/-- What is known of a run: offers, escalations, and that it was paid. -/
structure Vouch where
  offer : String → Option String → Prop
  escalation : String → Prop
  paid : Prop

/-- One knowledge is part of another. -/
structure Vouch.Le (V W : Vouch) : Prop where
  offer : ∀ id m, V.offer id m → W.offer id m
  escalation : ∀ id, V.escalation id → W.escalation id
  paid : V.paid → W.paid

/-- What a state names is known. -/
structure StateOk (V : Vouch) (st : RunState) : Prop where
  offers : ∀ o ∈ st.offers, V.offer o.offerId (some o.merchantId)
  proposal : ∀ p, st.proposal = some p → ∀ id, p.offerId = some id → ∃ m, V.offer id m
  result : ∀ r, st.result = some r → ∀ id, r.escalationId = some id → V.escalation id

/-- What a node says of its run. -/
structure NodeOk (V : Vouch) (mode : Mode) (n : Node) : Prop where
  purchase : n = .gate ∨ n = .awaitHuman ∨ n = .receipt → mode = .purchase
  receipt : n = .receipt → V.paid
  done : n = .done → V.paid ∨ mode = .search

/-- **What a row says is known.** -/
structure RunOk (V : Vouch) (run : AgentRun) : Prop where
  state : StateOk V run.state
  escalation : ∀ id, run.escalationId = some id → V.escalation id
  node : NodeOk V run.state.requestMode run.node
  parked : run.status = .awaitingHuman →
    run.state.requestMode = .purchase ∧ run.escalationId.isSome = true
  done : run.status = .done → V.paid ∨ run.state.requestMode = .search

section Le

variable {V W : Vouch} (h : V.Le W)
include h

theorem StateOk.mono {st : RunState} (hst : StateOk V st) : StateOk W st where
  offers o ho := h.offer _ _ (hst.offers o ho)
  proposal p hp id hid := (hst.proposal p hp id hid).imp fun m => h.offer id m
  result r hr id hid := h.escalation id (hst.result r hr id hid)

theorem NodeOk.mono {mode : Mode} {n : Node} (hn : NodeOk V mode n) : NodeOk W mode n where
  purchase := hn.purchase
  receipt hr := h.paid (hn.receipt hr)
  done hd := (hn.done hd).imp h.paid id

theorem RunOk.mono {run : AgentRun} (hrun : RunOk V run) : RunOk W run where
  state := hrun.state.mono h
  escalation id hid := h.escalation id (hrun.escalation id hid)
  node := hrun.node.mono h
  parked := hrun.parked
  done hd := (hrun.done hd).imp h.paid id

end Le

/-- What one call knows. -/
def Trail.vouch (γ : Trail) : Vouch where
  offer id m := (id, m) ∈ γ.offers
  escalation id := id ∈ γ.escalations
  paid := γ.paid = true

/-! ## What all calls together know -/

section Global

variable {ι : Type}

/-- Some call of the run satisfies `φ`. -/
def SomeCall (g : ι → Trail) (runId : String) (φ : Trail → Prop) : Prop :=
  ∃ j b, (g j).base = some b ∧ b.runId = runId ∧ φ (g j)

/-- **A merchant answered this offer** to a search of this run. -/
def Found (g : ι → Trail) (runId id m : String) : Prop :=
  SomeCall g runId fun γ => (id, m) ∈ γ.found

/-- **A purchase of this run was captured**, as a call was told. -/
def Paid (g : ι → Trail) (runId : String) : Prop := SomeCall g runId fun γ => γ.captured = true

/-- **The kernel opened this escalation** for this run. -/
def Opened (g : ι → Trail) (runId id : String) : Prop := SomeCall g runId fun γ => id ∈ γ.opened

/-- What all calls together know of a run. -/
def vouchOf (g : ι → Trail) (runId : String) : Vouch where
  offer id m := ∃ m', Found g runId id m' ∧ (m = none ∨ m = some m')
  escalation := Opened g runId
  paid := Paid g runId

/-- The history has grown: it is about the same run and knows at least as much. -/
structure Trail.Grows (γ γ' : Trail) : Prop where
  base : ∀ b, γ.base = some b → γ'.base = some b
  found : ∀ p ∈ γ.found, p ∈ γ'.found
  opened : ∀ id ∈ γ.opened, id ∈ γ'.opened
  captured : γ.captured = true → γ'.captured = true

theorem Trail.Grows.refl (γ : Trail) : γ.Grows γ :=
  ⟨fun _ h => h, fun _ h => h, fun _ h => h, fun h => h⟩

variable [DecidableEq ι]

theorem SomeCall.grow {g : ι → Trail} {i : ι} {γ' : Trail} {runId : String} {φ : Trail → Prop}
    (hbase : ∀ b, (g i).base = some b → γ'.base = some b) (hφ : φ (g i) → φ γ')
    (h : SomeCall g runId φ) : SomeCall (Function.update g i γ') runId φ := by
  obtain ⟨j, b, hb, hid, hj⟩ := h
  by_cases hji : j = i
  · subst hji
    exact ⟨j, b, by simpa using hbase b hb, hid, by simpa using hφ hj⟩
  · exact ⟨j, b, by simpa [hji] using hb, hid, by simpa [hji] using hj⟩

theorem vouchOf_grow {g : ι → Trail} {i : ι} {γ' : Trail} (h : (g i).Grows γ') (runId : String) :
    (vouchOf g runId).Le (vouchOf (Function.update g i γ') runId) where
  offer _ _ := fun ⟨m', hf, hm⟩ => ⟨m', hf.grow h.base (h.found _), hm⟩
  escalation id hid := SomeCall.grow (φ := fun γ => id ∈ γ.opened) h.base (h.opened id) hid
  paid hp := SomeCall.grow (φ := fun γ => γ.captured = true) h.base h.captured hp

/-! ## The invariant -/

variable (K : Deps)

/-- What a call relies on is known. -/
structure TrailOk (g : ι → Trail) (s : Board) (γ : Trail) : Prop where
  row : ∀ b, γ.base = some b → ∃ run, s.runs b.runId = some run ∧ run.base = b
  vouch : ∀ b, γ.base = some b → γ.vouch.Le (vouchOf g b.runId)
  purchase : γ.captured = true ∨ γ.submissions ≠ [] → ∃ b, γ.base = some b ∧ b.mode = .purchase
  registered : ∀ p ∈ γ.found, p.2 ∈ K.merchants

/-- An event has the version of its run. -/
def Pinned (s : Board) (e : RunEvent) : Prop :=
  ∀ v, e.agentVersion = some v →
    ∃ run, s.runs e.runId = some run ∧ run.agentVersion = v ∧ run.agentId = e.agentId

/-- **The invariant.** -/
structure RunsInv (g : ι → Trail) (s : Board) : Prop where
  rows : ∀ id run, s.runs id = some run → run.runId = id ∧ RunOk (vouchOf g id) run
  trails : ∀ j, TrailOk K g s (g j)
  events : ∀ e ∈ s.events, Pinned s e

/-- The answer of a submission after which the graph tries again. -/
def Retry : Except GraphErr Result → Prop
  | .ok r => r.status ≠ .purchase .captured ∧ r.status ≠ .escalated ∧
    ∃ code ∈ retryable, r.reasonCode = some code
  | .error _ => False

/-- **What a submission must be.** -/
structure Submittable (g : ι → Trail) (s : Board) (i : ι) (runId : String)
    (offerId : Option String) (mandateJti : String) (merchantId : Option String) : Prop where
  run : ∃ run, s.runs runId = some run ∧ run.mandateJti = mandateJti ∧
    run.state.requestMode = .purchase
  offer : ∀ id, offerId = some id → ∃ m ∈ K.merchants, Found g runId id m
  merchant : ∀ m, merchantId = some m → ∃ id, offerId = some id ∧ Found g runId id m
  few : (g i).submissions.length ≤ maxReplans
  retried : ∀ r ∈ (g i).submissions, Retry r

/-- The specification of a pool of calls. -/
def runsSpec (ι : Type) [DecidableEq ι] : Spec ι Op Reply GraphErr Board Trail where
  inv g s := RunsInv K g s
  ok _ _ _ _ := True
  prop g s i op _ _ := ∀ runId offerId mandateJti merchantId,
    op = .submitPurchase runId offerId mandateJti merchantId →
      Submittable K g s i runId offerId mandateJti merchantId

/-! ## What changes keep the invariant -/

variable {K} {g : ι → Trail} {s s' : Board} {i : ι} {γ γ' : Trail} {run : AgentRun}

theorem Vouch.Le.trans {U V W : Vouch} (h : U.Le V) (h' : V.Le W) : U.Le W where
  offer id m hm := h'.offer id m (h.offer id m hm)
  escalation id hid := h'.escalation id (h.escalation id hid)
  paid hp := h'.paid (h.paid hp)

theorem TrailOk.grow (h : TrailOk K g s γ) (hg : (g i).Grows γ') :
    TrailOk K (Function.update g i γ') s γ where
  row := h.row
  vouch b hb := (h.vouch b hb).trans (vouchOf_grow hg b.runId)
  purchase := h.purchase
  registered := h.registered

/-- A call learns something. -/
theorem RunsInv.grow (h : RunsInv K g s) (hg : (g i).Grows γ')
    (hi : TrailOk K (Function.update g i γ') s γ') : RunsInv K (Function.update g i γ') s where
  rows id run hrun := ⟨(h.rows id run hrun).1, (h.rows id run hrun).2.mono (vouchOf_grow hg id)⟩
  trails j := by
    by_cases hj : j = i
    · subst hj
      simpa using hi
    · simpa [hj] using (h.trails j).grow hg
  events := h.events

omit [DecidableEq ι] in
/-- Rows change, and keep what never changes. -/
theorem RunsInv.write (h : RunsInv K g s) (hevents : s'.events = s.events)
    (hrows : ∀ id run', s'.runs id = some run' →
      ∃ run, s.runs id = some run ∧ run'.base = run.base ∧ RunOk (vouchOf g id) run')
    (hkeep : ∀ id run, s.runs id = some run →
      ∃ run', s'.runs id = some run' ∧ run'.base = run.base) : RunsInv K g s' where
  rows id run' hrun' := by
    obtain ⟨run, hrun, hbase, hok⟩ := hrows id run' hrun'
    exact ⟨(congrArg Base.runId hbase).trans (h.rows id run hrun).1, hok⟩
  trails j := by
    refine ⟨fun b hb => ?_, (h.trails j).vouch, (h.trails j).purchase, (h.trails j).registered⟩
    obtain ⟨run, hrun, rfl⟩ := (h.trails j).row b hb
    exact hkeep _ run hrun
  events e he v hv := by
    rw [hevents] at he
    obtain ⟨run, hrun, hversion, hagent⟩ := h.events e he v hv
    obtain ⟨run', hrun', hbase⟩ := hkeep _ run hrun
    exact ⟨run', hrun', (congrArg Base.agentVersion hbase).trans hversion,
      (congrArg Base.agentId hbase).trans hagent⟩

omit [DecidableEq ι] in
/-- One row changes. -/
theorem RunsInv.setRun (h : RunsInv K g s) {runId : String} {f : AgentRun → AgentRun}
    (hbase : ∀ run, s.runs runId = some run → (f run).base = run.base)
    (hok : ∀ run, s.runs runId = some run → RunOk (vouchOf g runId) (f run)) :
    RunsInv K g (s.setRun runId f) := by
  have hget : ∀ id, (s.setRun runId f).runs id =
      if id = runId then (s.runs runId).map f else s.runs id := by
    intro id
    simp only [Board.setRun, Function.update_apply]
  refine h.write rfl (fun id run' hrun' => ?_) fun id run hrun => ?_
  · rw [hget] at hrun'
    split_ifs at hrun' with hid
    · subst hid
      obtain ⟨run, hrun, rfl⟩ := Option.map_eq_some_iff.1 hrun'
      exact ⟨run, hrun, hbase run hrun, hok run hrun⟩
    · exact ⟨run', hrun', rfl, (h.rows id run' hrun').2⟩
  · rw [hget]
    split_ifs with hid
    · subst hid
      exact ⟨f run, by rw [hrun]; rfl, hbase run hrun⟩
    · exact ⟨run, hrun, rfl⟩

omit [DecidableEq ι] in
/-- An event is logged. -/
theorem RunsInv.append (h : RunsInv K g s) {e : RunEvent} (he : Pinned s e) :
    RunsInv K g { s with events := s.events ++ [e] } where
  rows := h.rows
  trails j := ⟨(h.trails j).row, (h.trails j).vouch, (h.trails j).purchase, (h.trails j).registered⟩
  events e' he' := by
    rcases List.mem_append.1 he' with hold | hnew
    · exact h.events e' hold
    · rw [List.mem_singleton.1 hnew]
      exact he

omit [DecidableEq ι] in
/-- A statement that may fail, or lose its answer. -/
theorem effect_inv (f : Fate) (hs : RunsInv K g s) (hs' : RunsInv K g s') :
    RunsInv K g (f.effect s s') := by
  cases f with
  | fails e => exact hs
  | runs => exact hs'
  | lost e => exact hs'

/-! ## Calls -/

variable (K i) in
/-- An outline of a program of this pool. -/
abbrev Runs {α : Type} (Q : Except GraphErr α → Trail → Prop) (p : Task α) (γ : Trail) : Prop :=
  Outline (system ι) (runsSpec K ι) i Q p γ

variable (K i) in
/-- An outline of a job of this pool: `φ` where it ends, `ψ` where it raises. -/
abbrev Works {α : Type} (φ : α → AgentRun → Trail → Prop) (ψ : AgentRun → Trail → Prop)
    (j : Work α) (run : AgentRun) (γ : Trail) : Prop :=
  JobMeets (system ι) (runsSpec K ι) i (either φ ψ) j run γ

/-- The call does not submit. -/
def NoSubmission (op : Op) : Prop :=
  ∀ runId offerId mandateJti merchantId, op ≠ .submitPurchase runId offerId mandateJti merchantId

theorem call_outline {op : Op} {Q : Except GraphErr (Reply op) → Trail → Prop}
    (hno : NoSubmission op)
    (h : ∀ g s e, g i = γ → RunsInv K g s →
      RunsInv K (Function.update g i (adv γ op (sem e op s).1)) (sem e op s).2 ∧
        Q (sem e op s).1 (adv γ op (sem e op s).1)) : Runs K i Q (task op) γ := by
  refine outline_perform fun g s e hg hI _ => ?_
  obtain ⟨hinv, hQ⟩ := h g s e hg hI
  exact ⟨hinv, fun _ _ _ _ hop => absurd hop (hno _ _ _ _), hQ⟩

/-- A call that teaches nothing. -/
theorem plain_outline {op : Op} {Q : Except GraphErr (Reply op) → Trail → Prop}
    (hno : NoSubmission op) (hadv : ∀ r, adv γ op r = γ)
    (hinv : ∀ (g : ι → Trail) s e, g i = γ → RunsInv K g s → RunsInv K g (sem e op s).2)
    (hQ : ∀ r, Q r γ) : Runs K i Q (task op) γ := by
  refine call_outline hno fun g s e hg hI => ?_
  rw [hadv]
  refine ⟨?_, hQ _⟩
  subst hg
  rw [Function.update_eq_self]
  exact hinv g s e rfl hI

/-- A call that leaves the process and teaches nothing. -/
def Op.outside : Op → Bool
  | .getAgent _ | .guardRunStart _ | .getVersion _ _ | .selectClaims _ | .summarise _
  | .guardLlmCall _ _ | .guardMerchantCall _ _ | .parseRequest _ | .complete _ _ _ _ _
  | .selectEscalation _ | .monotonic => true
  | _ => false

theorem outside_outline {op : Op} {Q : Except GraphErr (Reply op) → Trail → Prop}
    (hop : op.outside = true) (hQ : ∀ r, Q r γ) : Runs K i Q (task op) γ := by
  refine plain_outline ?_ (fun r => ?_) (fun g s e _ hI => ?_) hQ
  · rintro _ _ _ _ rfl
    cases hop
  · cases op <;> first | rfl | cases hop
  · cases op <;> first | exact hI | cases hop

/-! ## Loading -/

/-- A call at work on a run: what it has in memory is known to it. -/
structure AtWork (γ : Trail) (run : AgentRun) : Prop where
  base : γ.base = some run.base
  state : StateOk γ.vouch run.state
  escalation : ∀ id, run.escalationId = some id → id ∈ γ.escalations
  parked : run.status = .awaitingHuman →
    run.state.requestMode = .purchase ∧ run.escalationId.isSome = true

omit [DecidableEq ι] in
theorem stateOk_offersOf (γ : Trail) (run : AgentRun) :
    StateOk (γ.readRun run).vouch run.state where
  offers o ho := List.mem_append_left _ (List.mem_map.2 ⟨o, ho, rfl⟩)
  proposal p hp id hid := by
    refine ⟨none, List.mem_append_right _ ?_⟩
    simp [hp, hid]
  result r hr id hid := List.mem_append_right _ (by simp [hr, hid])

omit [DecidableEq ι] in
/-- What a row names is known of its run. -/
theorem RunOk.vouch_le (h : RunOk (vouchOf g run.runId) run) :
    (γ.readRun run).vouch.Le (vouchOf g run.runId) where
  offer id m hm := by
    rcases List.mem_append.1 hm with hoffer | hproposal
    · obtain ⟨o, ho, heq⟩ := List.mem_map.1 hoffer
      cases heq
      exact h.state.offers o ho
    · simp only [Option.mem_toList, Option.map_eq_some_iff, Option.bind_eq_some_iff] at hproposal
      obtain ⟨id', ⟨p, hp, hid⟩, heq⟩ := hproposal
      cases heq
      obtain ⟨m, m', hm', -⟩ := h.state.proposal p hp id hid
      exact ⟨m', hm', .inl rfl⟩
  escalation id hid := by
    rcases List.mem_append.1 hid with hown | hresult
    · exact h.escalation id (by simpa using hown)
    · simp only [Option.mem_toList, Option.bind_eq_some_iff] at hresult
      obtain ⟨r, hr, hrid⟩ := hresult
      exact h.state.result r hr id hrid
  paid hp := by
    simp only [Trail.vouch, Trail.readRun, paidAt, Bool.or_eq_true, Bool.and_eq_true,
      decide_eq_true_eq] at hp
    rcases hp with hnode | ⟨hnode, hmode⟩
    · exact h.node.receipt hnode
    · refine (h.node.done hnode).resolve_right fun hsearch => ?_
      rw [hmode] at hsearch
      cases hsearch

/-- What `_load` leaves. -/
structure Loaded (γ : Trail) (run : AgentRun) (runId : String) (γ' : Trail) : Prop where
  history : γ' = γ.readRun run
  id : run.runId = runId
  work : AtWork γ' run
  node : NodeOk γ'.vouch run.state.requestMode run.node

theorem load_outline {runId : String} (hγ : ∀ b, γ.base = some b → b.runId = runId) :
    Runs K i (onOk fun run => Loaded γ run runId) (load runId) γ := by
  have hselect : Runs K i (onOk fun r γ' => (∀ run, r = some run → Loaded γ run runId γ'))
      (task (.selectRun runId)) γ := by
    refine call_outline (fun _ _ _ _ h => by cases h) fun g s e hg hI => ?_
    subst hg
    cases hf : e.fate with
    | fails x => simpa [sem, hf, Fate.answer, adv, onOk] using hI
    | lost x => simpa [sem, hf, Fate.answer, adv, onOk] using hI
    | runs =>
      cases hrow : s.runs runId with
      | none => simpa [sem, hf, Fate.answer, hrow, adv, onOk] using hI
      | some run =>
        obtain ⟨hid, hok⟩ := hI.rows runId run hrow
        rw [← hid] at hok
        -- what it knew of the run is what the row says
        have hbase : ((g i).readRun run).base = some run.base := by
          cases hb : (g i).base with
          | none => simp [Trail.readRun, hb]
          | some b =>
            obtain ⟨row, hget, rfl⟩ := (hI.trails i).row b hb
            rw [hγ _ hb, hrow] at hget
            cases hget
            simp [Trail.readRun, hb]
        have hgrows : (g i).Grows ((g i).readRun run) :=
          ⟨fun b hb => by simp [Trail.readRun, hb], fun _ h => h, fun _ h => h, fun h => h⟩
        simp only [sem, hf, Fate.answer, hrow, adv, onOk, Option.some.injEq, forall_eq']
        refine ⟨hI.grow hgrows ⟨?_, ?_, ?_, (hI.trails i).registered⟩, rfl, hid,
          ⟨hbase, stateOk_offersOf _ run, fun id hesc => ?_, hok.parked⟩, hok.node.purchase, ?_, ?_⟩
        · intro b hb
          cases hbase.symm.trans hb
          exact ⟨run, by rw [← hrow, ← hid]; rfl, rfl⟩
        · intro b hb
          cases hbase.symm.trans hb
          exact hok.vouch_le.trans (vouchOf_grow hgrows run.runId)
        · intro hpaid
          obtain ⟨b, hb, hmode⟩ := (hI.trails i).purchase hpaid
          exact ⟨b, hgrows.base b hb, hmode⟩
        · exact List.mem_append_left _ (by simpa using hesc)
        · intro hnode
          simp [Trail.vouch, Trail.readRun, paidAt, hnode]
        · intro hnode
          cases hmode : run.state.requestMode with
          | purchase => exact .inl (by simp [Trail.vouch, Trail.readRun, paidAt, hnode, hmode])
          | search => exact .inr rfl
  refine outline_bind_ok hselect fun r γ' hr => ?_
  cases r with
  | none => trivial
  | some run => exact hr run rfl

/-! ## Saving -/

/-- The run after `_save`. -/
def savedRun (node : Node) (status : Option RunStatus) (escalationId : Option String)
    (run : AgentRun) : AgentRun :=
  { run with
    node := node
    status := status.getD run.status
    escalationId := escalationId <|> run.escalationId }

/-- What `_save` may write. -/
structure Savable (γ : Trail) (run : AgentRun) (node : Node) (status : Option RunStatus)
    (escalationId : Option String) : Prop where
  work : AtWork γ run
  node : NodeOk γ.vouch run.state.requestMode node
  escalation : ∀ id, escalationId = some id → id ∈ γ.escalations
  parked : status = some .awaitingHuman →
    run.state.requestMode = .purchase ∧ escalationId.isSome = true
  done : status.getD run.status = .done → γ.paid = true ∨ run.state.requestMode = .search

omit [DecidableEq ι] in
theorem Savable.runOk {node : Node} {status : Option RunStatus} {escalationId : Option String}
    (h : Savable γ run node status escalationId) :
    RunOk γ.vouch (savedRun node status escalationId run) where
  state := h.work.state
  escalation id hid := by
    rcases (Option.orElse_eq_some _ _ _).1 hid with hnew | ⟨-, hold⟩
    · exact h.escalation id hnew
    · exact h.work.escalation id hold
  node := h.node
  parked hstatus := by
    cases hs : status with
    | none =>
      obtain ⟨hmode, hsome⟩ := h.work.parked (by simpa [savedRun, hs] using hstatus)
      refine ⟨hmode, ?_⟩
      cases he : escalationId with
      | none => simpa [savedRun, he] using hsome
      | some id => rfl
    | some st =>
      obtain ⟨hmode, hsome⟩ := h.parked (by simpa [savedRun, hs] using hstatus)
      refine ⟨hmode, ?_⟩
      obtain ⟨id, he⟩ := Option.isSome_iff_exists.1 hsome
      simp [savedRun, he]
  done := h.done

theorem save_works {node : Node} {status : Option RunStatus} {escalationId : Option String}
    (event : Fields) (h : Savable γ run node status escalationId) :
    Works K i (fun _ run' γ' => γ' = γ ∧ run' = savedRun node status escalationId run)
      (fun run' γ' => γ' = γ ∧ run' = run) (save node status escalationId event) run γ := by
  have hupdate : Works K i (fun _ run' γ' => γ' = γ ∧ run' = run)
      (fun run' γ' => γ' = γ ∧ run' = run)
      (ask (.updateRun run.runId node run.state (status.getD run.status)
        (escalationId <|> run.escalationId))) run γ := by
    refine meets_lift (plain_outline (fun _ _ _ _ hop => by cases hop) (fun r => rfl)
      (fun g s e hg hI => ?_) fun r => by cases r <;> exact ⟨rfl, rfl⟩)
    subst hg
    refine effect_inv _ hI (hI.setRun (fun row hrow => ?_) fun row hrow => ?_)
    all_goals
      obtain ⟨row', hget, hbase⟩ := (hI.trails i).row _ h.work.base
      obtain rfl : row' = row := Option.some.inj (hget.symm.trans hrow)
    · exact congrArg (fun m => Base.mk row'.runId row'.agentId row'.agentVersion row'.mandateJti m)
        (congrArg Base.mode hbase).symm
    · have hok := h.runOk.mono ((hI.trails i).vouch _ h.work.base)
      exact ⟨hok.state, hok.escalation, hok.node, hok.parked, hok.done⟩
  have hlog : Works K i (fun _ run' γ' => γ' = γ ∧ run' = run)
      (fun run' γ' => γ' = γ ∧ run' = run)
      (ask (.append (entered run node (status.getD run.status) event))) run γ := by
    refine meets_lift (plain_outline (fun _ _ _ _ hop => by cases hop) (fun r => rfl)
      (fun g s e hg hI => effect_inv _ hI (hI.append fun v hv => ?_))
      fun r => by cases r <;> exact ⟨rfl, rfl⟩)
    subst hg
    obtain ⟨row, hget, hbase⟩ := (hI.trails i).row _ h.work.base
    refine ⟨row, hget, ?_, congrArg Base.agentId hbase⟩
    exact (congrArg Base.agentVersion hbase).trans (Option.some.inj hv)
  refine meets_bind (meets_read (Q := either (fun a run' γ' => a = run ∧ γ' = γ ∧ run' = run)
    fun _ _ => False) ⟨rfl, rfl, rfl⟩) ?_ fun _ _ _ hfalse => hfalse.elim
  rintro _ _ _ ⟨rfl, rfl, rfl⟩
  refine meets_seq hupdate ?_
  rintro _ _ _ ⟨rfl, rfl⟩
  refine meets_seq hlog ?_
  rintro _ _ _ ⟨rfl, rfl⟩
  exact meets_edit ⟨rfl, rfl⟩

/-! ## At a node -/

/-- A call that may save its run at this node. -/
structure Enters (γ : Trail) (run : AgentRun) (n : Node) : Prop where
  work : AtWork γ run
  live : finished run.status = false
  node : NodeOk γ.vouch run.state.requestMode n

/-- The nodes from which the graph may still submit. -/
def Node.early : Node → Bool
  | .perceive | .search | .propose | .gate => true
  | _ => false

/-- **A call that enters a node.** -/
structure At (γ : Trail) (run : AgentRun) (n : Node) : Prop extends Enters γ run n where
  retried : n.early = true → ∀ r ∈ γ.submissions, Retry r
  counted : n.early = true → γ.submissions.length ≤ run.state.replans
  bounded : n.early = true → γ.submissions ≠ [] → run.state.replans ≤ maxReplans

/-- What a node leaves. -/
def Leads (next : Next) (run : AgentRun) (γ : Trail) : Prop :=
  γ.base = some run.base ∧ ∀ m, next = .node m → At γ run m

omit [DecidableEq ι] in
theorem AtWork.learn (h : AtWork γ run) (hbase : γ'.base = γ.base) (hle : γ.vouch.Le γ'.vouch) :
    AtWork γ' run where
  base := hbase.trans h.base
  state := h.state.mono hle
  escalation id hid := hle.escalation id (h.escalation id hid)
  parked := h.parked

omit [DecidableEq ι] in
/-- The state changes, and is still known. -/
theorem AtWork.setState (h : AtWork γ run) {f : RunState → RunState}
    (hmode : (f run.state).requestMode = run.state.requestMode)
    (hst : StateOk γ.vouch (f run.state)) : AtWork γ { run with state := f run.state } where
  base := by rw [h.base, AgentRun.base, AgentRun.base, hmode]
  state := hst
  escalation := h.escalation
  parked hs := by
    rw [hmode]
    exact h.parked hs

omit [DecidableEq ι] in
/-- A change that is not about offers, proposals, results or attempts. -/
theorem At.setState {n : Node} (h : At γ run n) {f : RunState → RunState}
    (hmode : (f run.state).requestMode = run.state.requestMode)
    (hreplans : (f run.state).replans = run.state.replans)
    (hst : StateOk γ.vouch (f run.state)) : At γ { run with state := f run.state } n where
  work := h.work.setState hmode hst
  live := h.live
  node := by
    rw [hmode]
    exact h.node
  retried := h.retried
  counted hn := by
    rw [hreplans]
    exact h.counted hn
  bounded hn := by
    rw [hreplans]
    exact h.bounded hn

omit [DecidableEq ι] in
/-- From one early node to another. -/
theorem At.move {n m : Node} (h : At γ run n) (hn : n.early = true)
    (hm : NodeOk γ.vouch run.state.requestMode m) : At γ run m where
  work := h.work
  live := h.live
  node := hm
  retried _ := h.retried hn
  counted _ := h.counted hn
  bounded _ := h.bounded hn

omit [DecidableEq ι] in
/-- Nodes that say nothing of their run. -/
theorem nodeOk_of_plain {V : Vouch} {mode : Mode} {n : Node}
    (hn : n = .perceive ∨ n = .search ∨ n = .propose ∨ n = .denied) : NodeOk V mode n where
  purchase h := by rcases hn with rfl | rfl | rfl | rfl <;> simp at h
  receipt h := by rcases hn with rfl | rfl | rfl | rfl <;> cases h
  done h := by rcases hn with rfl | rfl | rfl | rfl <;> cases h

omit [DecidableEq ι] in
/-- A run may be saved where its call is. -/
theorem Enters.savable {n : Node} (h : Enters γ run n) : Savable γ run n none none where
  work := h.work
  node := h.node
  escalation id hid := by cases hid
  parked hs := by cases hs
  done hs := by
    have hlive := h.live
    rw [Option.getD_none] at hs
    rw [hs] at hlive
    cases hlive

omit [DecidableEq ι] in
/-- A run may be given a status where its call is. -/
theorem Enters.savable_as {n : Node} (h : Enters γ run n) {status : RunStatus}
    (hparked : status ≠ .awaitingHuman)
    (hdone : status = .done → γ.paid = true ∨ run.state.requestMode = .search) :
    Savable γ run n (some status) none where
  work := h.work
  node := h.node
  escalation id hid := by cases hid
  parked hs := absurd (Option.some.inj hs) hparked
  done := hdone

omit [DecidableEq ι] in
/-- A node from which the graph submits no more. -/
theorem Enters.late {n : Node} (h : Enters γ run n) (hn : n.early = false) : At γ run n where
  toEnters := h
  retried he := by
    rw [hn] at he
    cases he
  counted he := by
    rw [hn] at he
    cases he
  bounded he := by
    rw [hn] at he
    cases he

omit [DecidableEq ι] in
/-- Saving where the call is does not move it. -/
theorem At.saved {n m : Node} (h : At γ run m) : At γ (savedRun n none none run) m where
  work := ⟨h.work.base, h.work.state, h.work.escalation, h.work.parked⟩
  live := h.live
  node := h.node
  retried := h.retried
  counted := h.counted
  bounded := h.bounded

/-- A call that leaves the process. -/
theorem ask_works {op : Op} {φ : Reply op → AgentRun → Trail → Prop}
    {ψ : AgentRun → Trail → Prop} (hop : op.outside = true) (hψ : ψ run γ)
    (hφ : ∀ a, φ a run γ) : Works K i φ ψ (ask op) run γ := by
  refine meets_lift (outside_outline hop fun r => ?_)
  cases r with
  | ok a => exact hφ a
  | error e => exact hψ

/-- Reading first. -/
theorem read_seq {α : Type} {φ : α → AgentRun → Trail → Prop} {ψ : AgentRun → Trail → Prop}
    {f : AgentRun → Work α} (h : Works K i φ ψ (f run) run γ) :
    Works K i φ ψ (Job.read >>= f) run γ := by
  refine meets_seq (φ := fun a run' γ' => a = run ∧ run' = run ∧ γ' = γ)
    (meets_read ⟨rfl, rfl, rfl⟩) ?_
  rintro _ _ _ ⟨rfl, rfl, rfl⟩
  exact h

/-- A change of the state first. -/
theorem setState_seq {α : Type} {φ : α → AgentRun → Trail → Prop} {ψ : AgentRun → Trail → Prop}
    {f : RunState → RunState} {j : Unit → Work α}
    (h : Works K i φ ψ (j ()) { run with state := f run.state } γ) :
    Works K i φ ψ (setState f >>= j) run γ := by
  refine meets_seq (φ := fun _ run' γ' => run' = { run with state := f run.state } ∧ γ' = γ)
    (meets_edit ⟨rfl, rfl⟩) ?_
  rintro _ _ _ ⟨rfl, rfl⟩
  exact h

/-- A call that leaves the process first. -/
theorem ask_seq {α : Type} {op : Op} {φ : α → AgentRun → Trail → Prop}
    {ψ : AgentRun → Trail → Prop} {f : Reply op → Work α} (hop : op.outside = true)
    (hψ : ψ run γ) (h : ∀ a, Works K i φ ψ (f a) run γ) :
    Works K i φ ψ (ask op >>= f) run γ := by
  refine meets_seq (φ := fun _ run' γ' => run' = run ∧ γ' = γ)
    (ask_works hop hψ fun _ => ⟨rfl, rfl⟩) ?_
  rintro a _ _ ⟨rfl, rfl⟩
  exact h a

/-- An event without a version first. -/
theorem log_seq {α : Type} {e : RunEvent} {φ : α → AgentRun → Trail → Prop}
    {ψ : AgentRun → Trail → Prop} {f : Unit → Work α} (he : e.agentVersion = none)
    (hψ : ψ run γ) (h : Works K i φ ψ (f ()) run γ) :
    Works K i φ ψ (ask (.append e) >>= f) run γ := by
  refine meets_seq (φ := fun _ run' γ' => run' = run ∧ γ' = γ) (meets_lift ?_) ?_
  · refine plain_outline (fun _ _ _ _ hop => by cases hop) (fun r => rfl)
      (fun g s e' hg hI => effect_inv _ hI (hI.append fun v hv => ?_)) fun r => ?_
    · rw [he] at hv
      cases hv
    · cases r with
      | ok a => exact ⟨rfl, rfl⟩
      | error x => exact hψ
  · rintro _ _ _ ⟨rfl, rfl⟩
    exact h

/-- Saving first. -/
theorem save_seq {α : Type} {node : Node} {status : Option RunStatus}
    {escalationId : Option String} {event : Fields} {φ : α → AgentRun → Trail → Prop}
    {ψ : AgentRun → Trail → Prop} {f : Unit → Work α}
    (hsave : Savable γ run node status escalationId) (hψ : ψ run γ)
    (h : Works K i φ ψ (f ()) (savedRun node status escalationId run) γ) :
    Works K i φ ψ (save node status escalationId event >>= f) run γ := by
  refine meets_bind (save_works event hsave) ?_ ?_
  · rintro _ _ _ ⟨rfl, rfl⟩
    exact h
  · rintro _ _ _ ⟨rfl, rfl⟩
    exact hψ

/-! ## The nodes -/

theorem readCriteria_works (h : At γ run .perceive) :
    Works K i (fun _ run' γ' => γ' = γ ∧ run' = run) (fun run' γ' => Enters γ' run' .perceive)
      (readCriteria run) run γ := by
  refine meets_ite (fun _ => meets_pure ⟨rfl, rfl⟩) fun _ => ?_
  exact ask_seq rfl h.toEnters fun _ => ask_works rfl h.toEnters fun _ => ⟨rfl, rfl⟩

theorem perceive_works (h : At γ run .perceive) :
    Works K i Leads (fun run' γ' => Enters γ' run' .perceive) (nodePerceive K) run γ := by
  refine read_seq (ask_seq rfl h.toEnters fun ontology => ask_seq rfl h.toEnters fun claims =>
    ask_seq rfl h.toEnters fun summary => setState_seq (read_seq ?_))
  have h1 : At γ { run with state := perceived K ontology claims summary run.state } .perceive :=
    h.setState rfl rfl ⟨h.work.state.offers, h.work.state.proposal, h.work.state.result⟩
  refine meets_seq (readCriteria_works h1) ?_
  rintro criteria _ _ ⟨rfl, rfl⟩
  have h2 := h1.setState (f := fun st => { st with criteria := criteria }) rfl rfl
    ⟨h1.work.state.offers, h1.work.state.proposal, h1.work.state.result⟩
  refine setState_seq (save_seq h2.savable h2.toEnters (meets_pure ⟨h2.work.base, ?_⟩))
  rintro m hm
  cases hm
  exact (h2.move rfl (nodeOk_of_plain (by simp))).saved

/-! ### `search` -/

/-- A call has learned offers. -/
structure Learned (γ γ' : Trail) : Prop where
  base : γ'.base = γ.base
  vouch : γ.vouch.Le γ'.vouch
  submissions : γ'.submissions = γ.submissions

/-- The offers are known with their merchants. -/
def Known (γ : Trail) (offers : List Listing) : Prop :=
  ∀ o ∈ offers, (o.offerId, some o.merchantId) ∈ γ.offers

omit [DecidableEq ι] in
theorem Learned.refl (γ : Trail) : Learned γ γ :=
  ⟨rfl, ⟨fun _ _ h => h, fun _ h => h, fun h => h⟩, rfl⟩

omit [DecidableEq ι] in
theorem Learned.trans {γ'' : Trail} (h : Learned γ γ') (h' : Learned γ' γ'') : Learned γ γ'' :=
  ⟨h'.base.trans h.base, h.vouch.trans h'.vouch, h'.submissions.trans h.submissions⟩

omit [DecidableEq ι] in
theorem Known.learn {offers : List Listing} (h : Known γ offers) (hle : Learned γ γ') :
    Known γ' offers :=
  fun o ho => hle.vouch.offer _ _ (h o ho)

omit [DecidableEq ι] in
theorem listed_learned (γ : Trail) (m : String) (offers : List Listing) :
    Learned γ (γ.listed m offers) :=
  ⟨rfl, ⟨fun _ _ h => List.mem_append_left _ h, fun _ h => h, fun h => h⟩, rfl⟩

/-- A merchant is asked. -/
theorem merchant_outline {m : String} {q : Query} (hm : m ∈ K.merchants) :
    Runs K i (fun r γ' => Learned γ γ' ∧ ∀ offers, r = .ok offers →
      Known γ' (offers.map (normaliseOffer m))) (task (.merchantSearch m q)) γ := by
  refine call_outline (fun _ _ _ _ h => by cases h) fun g s e hg hI => ?_
  subst hg
  cases ha : e.answer (.merchantSearch m q) with
  | error x =>
    simp only [sem, ha, adv, Function.update_eq_self]
    exact ⟨hI, Learned.refl _, fun _ h => by cases h⟩
  | ok offers =>
    have hgrows : (g i).Grows ((g i).listed m offers) :=
      ⟨fun _ h => h, fun _ h => List.mem_append_left _ h, fun _ h => h, fun h => h⟩
    simp only [sem, ha, adv]
    refine ⟨hI.grow hgrows ⟨(hI.trails i).row, fun b hb => ?_, (hI.trails i).purchase, ?_⟩,
      listed_learned _ _ _, ?_⟩
    · have hold := ((hI.trails i).vouch b hb).trans (vouchOf_grow hgrows b.runId)
      refine ⟨fun id x hx => ?_, hold.escalation, hold.paid⟩
      rcases List.mem_append.1 hx with hx | hx
      · exact hold.offer id x hx
      · obtain ⟨o, ho, heq⟩ := List.mem_map.1 hx
        cases heq
        refine ⟨m, ⟨i, b, by simpa using hb, rfl, ?_⟩, .inr rfl⟩
        rw [Function.update_self]
        exact List.mem_append_right _ (List.mem_map.2 ⟨o, ho, rfl⟩)
    · intro p hp
      rcases List.mem_append.1 hp with hp | hp
      · exact (hI.trails i).registered p hp
      · obtain ⟨o, ho, rfl⟩ := List.mem_map.1 hp
        exact hm
    · rintro found hfound o ho
      cases hfound
      obtain ⟨raw, hraw, rfl⟩ := List.mem_map.1 ho
      exact List.mem_append_right _ (List.mem_map.2 ⟨raw, hraw, rfl⟩)

theorem collect_outline (q : Query) {ms : List String} (hms : ∀ m ∈ ms, m ∈ K.merchants) :
    Runs K i (fun r γ' => Learned γ γ' ∧ ∀ found, r = .ok found → Known γ' found.1)
      (collect q ms) γ := by
  induction ms generalizing γ with
  | nil => exact ⟨Learned.refl γ, fun found h => by cases h; exact fun o ho => by cases ho⟩
  | cons m ms ih =>
    refine outline_bind (outline_attempt (merchant_outline (hms m (by simp)))) ?_ ?_
    · rintro r γ' ⟨r', hr, hlearned, hknown⟩
      cases hr
      refine outline_bind (ih fun m hm => hms m (by simp [hm])) ?_ ?_
      · rintro rest γ'' ⟨hlearned', hknown'⟩
        refine ⟨hlearned.trans hlearned', ?_⟩
        rintro found hfound
        cases hfound
        cases r with
        | error e => exact hknown' rest rfl
        | ok offers =>
          intro o ho
          rcases List.mem_append.1 ho with ho | ho
          · exact (hknown offers rfl).learn hlearned' o ho
          · exact hknown' rest rfl o ho
      · rintro e γ'' ⟨hlearned', -⟩
        exact ⟨hlearned.trans hlearned', fun _ h => by cases h⟩
    · rintro e γ' ⟨r', hr, -⟩
      cases hr

theorem logFailures_outline {failures : List (String × GraphErr)} :
    Runs K i (fun _ γ' => γ' = γ) (logFailures failures) γ := by
  induction failures with
  | nil => rfl
  | cons f rest ih =>
    refine outline_bind (Q := fun _ γ' => γ' = γ) ?_ ?_ fun e γ' h => h
    · refine plain_outline (fun _ _ _ _ hop => by cases hop) (fun r => rfl)
        (fun g s e hg hI => effect_inv _ hI (hI.append fun v hv => by cases hv)) fun r => rfl
    · rintro _ _ rfl
      exact ih

theorem searchAll_outline (allowed : Option (List String)) (q : Query) :
    Runs K i (fun r γ' => Learned γ γ' ∧ ∀ offers, r = .ok offers → Known γ' offers)
      (searchAll K allowed q) γ := by
  have htargets : ∀ m ∈ targets K allowed, m ∈ K.merchants := fun m hm =>
    (List.mem_filter.1 hm).1
  refine outline_bind (collect_outline q htargets) ?_ ?_
  · rintro found γ' ⟨hlearned, hknown⟩
    refine outline_bind logFailures_outline ?_ ?_
    · rintro _ _ rfl
      refine ⟨hlearned, fun offers h => ?_⟩
      cases h
      exact hknown found rfl
    · rintro e _ rfl
      exact ⟨hlearned, fun _ h => by cases h⟩
  · rintro e γ' ⟨hlearned, -⟩
    exact ⟨hlearned, fun _ h => by cases h⟩

theorem findOffers_outline (st : RunState) :
    Runs K i (fun r γ' => Learned γ γ' ∧ ∀ offers, r = .ok offers → Known γ' offers)
      (findOffers K st) γ := by
  refine outline_bind (searchAll_outline _ _) ?_ ?_
  · rintro offers γ' ⟨hlearned, hknown⟩
    split
    · exact outline_mono (fun r γ'' h => ⟨hlearned.trans h.1, h.2⟩) (searchAll_outline _ _)
    · exact ⟨hlearned, hknown⟩
  · rintro e γ' ⟨hlearned, -⟩
    exact ⟨hlearned, fun _ h => by cases h⟩

omit [DecidableEq ι] in
theorem Known.clamp {offers : List Listing} (h : Known γ offers) :
    Known γ (clampOffers K offers) := by
  intro o ho
  obtain ⟨raw, hraw, rfl⟩ := List.mem_map.1 ho
  exact h raw (List.mem_of_mem_take hraw)

omit [DecidableEq ι] in
/-- A call that has learned is where it was. -/
theorem At.learn {n : Node} (h : At γ run n) (hle : Learned γ γ') : At γ' run n where
  work := h.work.learn hle.base hle.vouch
  live := h.live
  node := h.node.mono hle.vouch
  retried hn := by
    rw [hle.submissions]
    exact h.retried hn
  counted hn := by
    rw [hle.submissions]
    exact h.counted hn
  bounded hn := by
    rw [hle.submissions]
    exact h.bounded hn

theorem search_works (h : At γ run .search) :
    Works K i Leads (fun run' γ' => Enters γ' run' .search) (nodeSearch K) run γ := by
  refine read_seq (ask_seq rfl h.toEnters fun _ => ?_)
  refine meets_seq (φ := fun offers run' γ' => run' = run ∧ Learned γ γ' ∧ Known γ' offers)
    (meets_lift (outline_mono ?_ (findOffers_outline run.state))) ?_
  · rintro r γ' ⟨hlearned, hknown⟩
    cases r with
    | ok offers => exact ⟨rfl, hlearned, hknown offers rfl⟩
    | error e => exact (h.learn hlearned).toEnters
  rintro offers run γ' ⟨rfl, hlearned, hknown⟩
  have h1 := h.learn hlearned
  have h2 : At γ' { run with state := searched K offers run.state } .search :=
    h1.setState rfl rfl ⟨hknown.clamp, h1.work.state.proposal, h1.work.state.result⟩
  have h3 : At γ' (savedRun .search none none
      { run with state := searched K offers run.state }) .search := h2.saved
  refine setState_seq (read_seq (save_seq h2.savable h2.toEnters
    (log_seq rfl h3.toEnters (meets_pure ⟨h3.work.base, ?_⟩))))
  rintro m hm
  cases hm
  split
  · exact h3.move rfl (nodeOk_of_plain (by simp))
  · exact h3.move rfl (nodeOk_of_plain (by simp))

/-! ### `propose` -/

/-- The proposal is one of the offers, if any. -/
def Picks (offers : List Listing) (p : Proposal) : Prop :=
  ∀ id, p.offerId = some id → ∃ o ∈ offers, o.offerId = id

theorem cheapest_mem (best : Listing) (rest : List Listing) :
    cheapest best rest ∈ best :: rest := by
  induction rest generalizing best with
  | nil => exact List.mem_cons_self
  | cons o rest ih =>
    rw [cheapest]
    split
    · exact List.mem_cons_of_mem _ (ih o)
    · rcases List.mem_cons.1 (ih best) with h | h
      · rw [h]
        exact List.mem_cons_self
      · exact List.mem_cons_of_mem _ (List.mem_cons_of_mem _ h)

theorem fallback_picks (L : Letters) (first : Listing) (rest : List Listing) (request : String) :
    Picks (first :: rest) (fallback L first rest request) := by
  intro id hid
  rw [fallback] at hid
  split at hid
  · next o ho =>
    cases hid
    exact ⟨o, List.mem_of_find?_eq_some ho, rfl⟩
  · cases hid
    exact ⟨_, cheapest_mem first rest, rfl⟩

theorem proposeDeterministic_picks (L : Letters) (first : Listing) (rest : List Listing) :
    Picks (first :: rest) (proposeDeterministic L first rest) := by
  intro id hid
  refine fallback_picks L first rest "" id ?_
  rw [proposeDeterministic] at hid
  split at hid
  · exact hid
  · exact hid

theorem readAnswer_picks {first : Listing} {rest : List Listing} {request : String}
    {answer : Completion} {p : Proposal} (h : readAnswer K first rest request answer = .ok p) :
    Picks (first :: rest) p := by
  have hfallback : ∀ concern, Picks (first :: rest)
      { fallback K.letters first rest request with concern := concern } := fun concern id hid =>
    fallback_picks K.letters first rest request id hid
  cases answer with
  | unavailable text =>
    cases h
    exact hfallback _
  | parsed value =>
    cases value with
    | obj answer =>
      rw [readAnswer] at h
      split at h
      · next o ho =>
        cases h
        rintro id hid
        cases hid
        rw [named] at ho
        split at ho
        · exact ⟨o, List.mem_of_find?_eq_some ho, rfl⟩
        · cases ho
      · cases h
        exact hfallback _
    | _ => cases h

theorem propose_outline (st : RunState) :
    Runs K i (fun r γ' => γ' = γ ∧ ∀ p, r = .ok p → Picks st.offers p) (propose K st) γ := by
  rw [propose]
  split
  · refine ⟨rfl, fun p hp id hid => ?_⟩
    cases hp
    cases hid
  · next first rest hoffers =>
    refine outline_bind (Q := fun _ γ' => γ' = γ) (outside_outline rfl fun _ => rfl) ?_ ?_
    · rintro answer _ rfl
      cases hr : readAnswer K first rest st.request answer with
      | ok p =>
        refine ⟨rfl, fun p' hp => ?_⟩
        cases hp
        rw [hoffers]
        exact readAnswer_picks hr
      | error e => exact ⟨rfl, fun p hp => by cases hp⟩
    · rintro e _ rfl
      exact ⟨rfl, fun p hp => by cases hp⟩

theorem proposeDirect_outline (st : RunState) :
    Runs K i (fun r γ' => γ' = γ ∧ ∀ p, r = .ok p → Picks st.offers p) (proposeDirect K st) γ := by
  rw [proposeDirect]
  split
  · exact ⟨rfl, fun p hp => by cases hp⟩
  · next first rest hoffers =>
    refine ⟨rfl, fun p hp => ?_⟩
    cases hp
    rw [hoffers]
    exact proposeDeterministic_picks K.letters first rest

theorem stored_offerId (st : RunState) (p : Proposal) : (stored st p).offerId = p.offerId := by
  rw [stored]
  split <;> rfl

omit [DecidableEq ι] in
/-- A proposal that is one of the offers may be stored. -/
theorem StateOk.proposed {V : Vouch} {st : RunState} (h : StateOk V st) {p : Proposal}
    (hp : Picks st.offers p) : StateOk V (proposed p st) where
  offers := h.offers
  proposal p' hp' id hid := by
    cases hp'
    rw [stored_offerId] at hid
    obtain ⟨o, ho, rfl⟩ := hp id hid
    exact ⟨_, h.offers o ho⟩
  result r hr id hid := by
    simp only [Orchestrator.proposed] at hr
    split at hr
    · cases hr
      cases hid
    · exact h.result r hr id hid

omit [DecidableEq ι] in
/-- Where the graph goes with a proposal. -/
theorem nodeOk_afterPropose {V : Vouch} (st : RunState) (p : Proposal) :
    NodeOk V st.requestMode (afterPropose st p) := by
  rw [afterPropose]
  split_ifs with hsearch hoffer
  · refine ⟨fun hn => ?_, fun hn => ?_, fun _ => .inr ?_⟩
    · simp at hn
    · cases hn
    · exact of_decide_eq_true (Bool.and_eq_true_iff.1 hsearch).1
  · refine ⟨fun _ => ?_, fun hn => ?_, fun hn => ?_⟩
    · cases hmode : st.requestMode with
      | purchase => rfl
      | search => exact absurd (by simp [searchOnly, hmode, hoffer]) hsearch
    · cases hn
    · cases hn
  · exact nodeOk_of_plain (by simp)

theorem choose_works (h : At γ run .propose) :
    Works K i (fun p run' γ' => γ' = γ ∧ run' = run ∧ Picks run.state.offers p)
      (fun run' γ' => Enters γ' run' .propose) (choose K run) run γ := by
  have hlift : ∀ {q : Task Proposal},
      Runs K i (fun r γ' => γ' = γ ∧ ∀ p, r = .ok p → Picks run.state.offers p) q γ →
      Works K i (fun p run' γ' => γ' = γ ∧ run' = run ∧ Picks run.state.offers p)
        (fun run' γ' => Enters γ' run' .propose) (Job.lift q) run γ := by
    intro q hq
    refine meets_lift (outline_mono ?_ hq)
    rintro r _ ⟨rfl, hp⟩
    cases r with
    | ok p => exact ⟨rfl, rfl, hp p rfl⟩
    | error e => exact h.toEnters
  refine meets_ite (fun _ => hlift (proposeDirect_outline run.state)) fun _ => ?_
  exact ask_seq rfl h.toEnters fun _ => hlift (propose_outline run.state)

theorem propose_works (h : At γ run .propose) :
    Works K i Leads (fun run' γ' => Enters γ' run' .propose) (nodePropose K) run γ := by
  refine read_seq (meets_seq (choose_works h) ?_)
  rintro p run γ ⟨rfl, rfl, hp⟩
  have h1 := h.setState (f := proposed p) rfl rfl (h.work.state.proposed hp)
  have h2 : At γ (savedRun .propose none none { run with state := proposed p run.state })
    .propose := h1.saved
  refine setState_seq (save_seq h1.savable h1.toEnters (meets_pure ⟨h2.work.base, ?_⟩))
  rintro m hm
  cases hm
  exact h2.move rfl (nodeOk_afterPropose run.state p)

/-! ### `gate` -/

omit [DecidableEq ι] in
theorem answered_grows (γ : Trail) (r : Except GraphErr Result) : γ.Grows (γ.answered r) := by
  cases r with
  | error e => exact ⟨fun _ h => h, fun _ h => h, fun _ h => h, fun h => h⟩
  | ok a =>
    refine ⟨fun _ h => h, fun _ h => h, fun _ h => List.mem_append_left _ h, fun h => ?_⟩
    simp [Trail.answered, h]

omit [DecidableEq ι] in
theorem answered_vouch (γ : Trail) (r : Except GraphErr Result) :
    γ.vouch.Le (γ.answered r).vouch := by
  cases r with
  | error e => exact ⟨fun _ _ h => h, fun _ h => h, fun h => h⟩
  | ok a =>
    refine ⟨fun _ _ h => h, fun _ h => List.mem_append_left _ h, fun h => ?_⟩
    simp only [Trail.vouch] at h
    simp [Trail.vouch, Trail.answered, h]

omit [DecidableEq ι] in
theorem answered_base (γ : Trail) (r : Except GraphErr Result) : (γ.answered r).base = γ.base := by
  cases r <;> rfl

omit [DecidableEq ι] in
theorem answered_submissions (γ : Trail) (r : Except GraphErr Result) :
    (γ.answered r).submissions = γ.submissions ++ [r] := by
  cases r <;> rfl

/-- The kernel answers a call of a purchase run. -/
theorem RunsInv.answered (h : RunsInv K g s) {b : Base} (hb : (g i).base = some b)
    (hmode : b.mode = .purchase) (r : Except GraphErr Result) :
    RunsInv K (Function.update g i ((g i).answered r)) s := by
  have hgrows := answered_grows (g i) r
  have hbase : ((g i).answered r).base = some b := (answered_base _ r).trans hb
  refine h.grow hgrows ⟨fun b' hb' => ?_, fun b' hb' => ?_, fun _ => ⟨b, hbase, hmode⟩, ?_⟩
  · rw [answered_base] at hb'
    exact (h.trails i).row b' hb'
  · rw [answered_base] at hb'
    have hold := ((h.trails i).vouch b' hb').trans (vouchOf_grow hgrows b'.runId)
    cases r with
    | error e => exact ⟨hold.offer, hold.escalation, hold.paid⟩
    | ok a =>
      refine ⟨hold.offer, fun id hid => ?_, fun hpaid => ?_⟩
      · rcases List.mem_append.1 hid with hid | hid
        · exact hold.escalation id hid
        · refine ⟨i, b', by simpa [answered_base] using hb', rfl, ?_⟩
          rw [Function.update_self]
          exact List.mem_append_right _ hid
      · simp only [Trail.vouch, Trail.answered, Bool.or_eq_true] at hpaid
        rcases hpaid with hpaid | hpaid
        · exact hold.paid hpaid
        · refine ⟨i, b', by simpa [answered_base] using hb', rfl, ?_⟩
          simp [Trail.answered, hpaid]
  · cases r with
    | error e => exact (h.trails i).registered
    | ok a => exact (h.trails i).registered

/-- What a call may submit. -/
structure Submits (γ : Trail) (run : AgentRun) (offerId merchantId : Option String) : Prop where
  purchase : run.state.requestMode = .purchase
  offer : ∀ id, offerId = some id → ∃ m, (id, m) ∈ γ.offers
  merchant : ∀ m, merchantId = some m → ∃ id, offerId = some id ∧ (id, some m) ∈ γ.offers

omit [DecidableEq ι] in
theorem submits_of_proposedOffer (h : At γ run .gate) {offerId merchantId : Option String}
    (ho : proposedOffer run.state = .ok (offerId, merchantId)) :
    Submits γ run offerId merchantId := by
  rw [proposedOffer] at ho
  split at ho
  · cases ho
  · next p hp =>
    cases ho
    refine ⟨h.node.purchase (by simp), fun id hid => h.work.state.proposal p hp id hid,
      fun m hm => ?_⟩
    obtain ⟨o, hfind, rfl⟩ := Option.map_eq_some_iff.1 hm
    have hid : some o.offerId = p.offerId := by simpa using List.find?_some hfind
    exact ⟨o.offerId, hid.symm, h.work.state.offers o (List.mem_of_find?_eq_some hfind)⟩

/-- **A submission.** -/
theorem submit_outline (h : At γ run .gate) {offerId merchantId : Option String}
    (hs : Submits γ run offerId merchantId) :
    Runs K i (fun r γ' => γ' = γ.answered r)
      (task (.submitPurchase run.runId offerId run.mandateJti merchantId)) γ := by
  refine outline_perform fun g s e hg hI _ => ?_
  subst hg
  refine ⟨hI.answered h.work.base hs.purchase _, ?_, rfl⟩
  rintro _ _ _ _ hop
  cases hop
  obtain ⟨row, hrow, hbase⟩ := (hI.trails i).row _ h.work.base
  have hle := (hI.trails i).vouch _ h.work.base
  have hfound : ∀ id m, (id, m) ∈ (g i).offers →
      ∃ m', Found g run.runId id m' ∧ (m = none ∨ m = some m') := hle.offer
  have hregistered : ∀ id m, Found g run.runId id m → m ∈ K.merchants := by
    rintro id m ⟨j, -, -, -, hj⟩
    exact (hI.trails j).registered _ hj
  refine ⟨⟨row, hrow, congrArg Base.mandateJti hbase, (congrArg Base.mode hbase).trans hs.purchase⟩,
    fun id hid => ?_, fun m hm => ?_, ?_, h.retried rfl⟩
  · obtain ⟨m, hm⟩ := hs.offer id hid
    obtain ⟨m', hm', -⟩ := hfound id m hm
    exact ⟨m', hregistered id m' hm', hm'⟩
  · obtain ⟨id, hid, hoffer⟩ := hs.merchant m hm
    obtain ⟨m', hm', hnone | hsome⟩ := hfound id _ hoffer
    · cases hnone
    · cases hsome
      exact ⟨id, hid, hm'⟩
  · by_cases hempty : (g i).submissions = []
    · simp [hempty]
    · exact (h.counted rfl).trans (h.bounded rfl hempty)

/-- Where the graph goes after the answer of the kernel. -/
theorem afterGate_cases (st : RunState) (r : Result) :
    afterGate st r = .node .receipt ∧ r.isCaptured = true ∨ afterGate st r = .node .awaitHuman ∨
      (afterGate st r = .node .search ∧ Retry (.ok r) ∧ st.replans < maxReplans) ∨
        afterGate st r = .node .denied := by
  rw [afterGate]
  split_ifs with hcaptured hescalated hagain
  · exact .inl ⟨rfl, by simpa [Result.isCaptured] using hcaptured⟩
  · exact .inr (.inl rfl)
  · obtain ⟨hcode, hfew⟩ := Bool.and_eq_true_iff.1 hagain
    refine .inr (.inr (.inl ⟨rfl, ⟨hcaptured, hescalated, ?_⟩, by simpa using hfew⟩))
    cases hreason : r.reasonCode with
    | none => simp [hreason] at hcode
    | some code => exact ⟨code, by simpa [hreason] using hcode, rfl⟩
  · exact .inr (.inr (.inr rfl))

theorem gated_replans {st : RunState} {r : Result} (h : afterGate st r = .node .search) :
    (gated r st).replans = st.replans + 1 := by
  rw [gated, if_pos h]

theorem gated_mode (r : Result) (st : RunState) :
    (gated r st).requestMode = st.requestMode := by
  rw [gated]
  split <;> rfl

omit [DecidableEq ι] in
theorem stateOk_gated (h : AtWork γ run) (r : Result) :
    StateOk (γ.answered (.ok r)).vouch (gated r run.state) := by
  have hold := h.state.mono (answered_vouch γ (.ok r))
  have hresult : ∀ id, r.escalationId = some id → id ∈ (γ.answered (.ok r)).escalations :=
    fun id hid => List.mem_append_right _ (by simp [hid])
  rw [gated]
  split
  · exact ⟨hold.offers, hold.proposal, fun r' hr => by cases hr; exact hresult⟩
  · exact ⟨hold.offers, hold.proposal, fun r' hr => by cases hr; exact hresult⟩

omit [DecidableEq ι] in
/-- The next node after the answer of the kernel. -/
theorem at_afterGate (h : At γ run .gate) (r : Result) {m : Node}
    (hm : afterGate run.state r = .node m) :
    At (γ.answered (.ok r)) { run with state := gated r run.state } m := by
  have hwork := (h.work.learn (answered_base γ (.ok r)) (answered_vouch γ (.ok r))).setState
    (gated_mode r run.state) (stateOk_gated h.work r)
  have hmode : (gated r run.state).requestMode = .purchase :=
    (gated_mode r run.state).trans (h.node.purchase (by simp))
  -- the graph stops submitting, unless it tries again
  have hlate : m.early = false → NodeOk (γ.answered (.ok r)).vouch .purchase m →
      At (γ.answered (.ok r)) { run with state := gated r run.state } m := by
    intro hearly hn
    rw [← hmode] at hn
    exact Enters.late ⟨hwork, h.live, hn⟩ hearly
  rcases afterGate_cases run.state r with ⟨hgo, hcaptured⟩ | hgo | ⟨hgo, hretry, hfew⟩ | hgo
  · cases hgo.symm.trans hm
    refine hlate rfl ⟨fun _ => rfl, fun _ => ?_, fun hn => by cases hn⟩
    simp [Trail.vouch, Trail.answered, hcaptured]
  · cases hgo.symm.trans hm
    exact hlate rfl ⟨fun _ => rfl, (fun hn => by cases hn), (fun hn => by cases hn)⟩
  · cases hgo.symm.trans hm
    have hreplans := gated_replans hgo
    refine ⟨⟨hwork, h.live, nodeOk_of_plain (by simp)⟩, fun _ => ?_, fun _ => ?_, fun _ _ => ?_⟩
    · rw [answered_submissions]
      intro r' hr'
      rcases List.mem_append.1 hr' with hold | hnew
      · exact h.retried rfl r' hold
      · rw [List.mem_singleton.1 hnew]
        exact hretry
    · have hcounted := h.counted rfl
      rw [answered_submissions, List.length_append, List.length_singleton]
      change _ ≤ (gated r run.state).replans
      omega
    · change (gated r run.state).replans ≤ maxReplans
      omega
  · cases hgo.symm.trans hm
    exact hlate rfl (nodeOk_of_plain (by simp))

theorem gate_works (h : At γ run .gate) :
    Works K i Leads (fun run' γ' => Enters γ' run' .gate) nodeGate run γ := by
  have h1 : At γ (savedRun .gate none none run) .gate := h.saved
  refine save_seq h.savable h.toEnters (read_seq ?_)
  generalize savedRun .gate none none run = run at h1
  cases ho : proposedOffer run.state with
  | error e => exact meets_raise h1.toEnters
  | ok choice =>
    obtain ⟨offerId, merchantId⟩ := choice
    refine meets_seq (φ := fun r run' γ' => run' = run ∧ γ' = γ.answered (.ok r))
      (meets_lift (outline_mono ?_ (submit_outline h1 (submits_of_proposedOffer h1 ho)))) ?_
    · rintro r _ rfl
      cases r with
      | ok a => exact ⟨rfl, rfl⟩
      | error e =>
        exact ⟨h1.work.learn rfl (answered_vouch γ (.error e)), h1.live,
          h1.node.mono (answered_vouch γ (.error e))⟩
    · rintro r run _ ⟨rfl, rfl⟩
      refine setState_seq (meets_pure ⟨?_, fun m hm => at_afterGate h1 r hm⟩)
      rw [answered_base, h1.work.base, AgentRun.base, AgentRun.base, gated_mode]

/-! ### The nodes after -/

theorem awaitHuman_works (h : At γ run .awaitHuman) :
    Works K i Leads (fun run' γ' => Enters γ' run' .awaitHuman) nodeAwaitHuman run γ := by
  refine read_seq ?_
  cases hr : run.state.result with
  | none => exact meets_raise h.toEnters
  | some r =>
    cases hid : r.escalationId with
    | none =>
      simp only [hid]
      exact meets_raise h.toEnters
    | some id =>
      simp only [hid]
      refine save_seq ⟨h.work, h.node, ?_, fun _ => ⟨h.node.purchase (by simp), rfl⟩,
        fun hs => by cases hs⟩ h.toEnters (meets_pure ⟨h.work.base, fun m hm => by cases hm⟩)
      rintro id' heq
      cases heq
      exact h.work.state.result r hr id hid

theorem receipt_works (h : At γ run .receipt) :
    Works K i Leads (fun run' γ' => Enters γ' run' .receipt) nodeReceipt run γ := by
  refine read_seq ?_
  cases hr : run.state.result with
  | none => exact meets_raise h.toEnters
  | some r =>
    refine save_seq h.savable h.toEnters (meets_pure ⟨h.work.base, ?_⟩)
    rintro m hm
    cases hm
    refine Enters.late ⟨h.saved.work, h.live, fun hn => ?_, fun hn => ?_, fun _ => .inl ?_⟩ rfl
    · simp at hn
    · cases hn
    · exact h.node.receipt rfl

theorem done_works (h : At γ run .done) :
    Works K i Leads (fun run' γ' => Enters γ' run' .done) nodeDone run γ := by
  refine save_seq (h.savable_as (by simp) fun _ => h.node.done rfl) h.toEnters
    (meets_pure ⟨h.work.base, fun m hm => by cases hm⟩)

theorem denied_works (h : At γ run .denied) :
    Works K i Leads (fun run' γ' => Enters γ' run' .denied) nodeDenied run γ := by
  refine read_seq (save_seq (h.savable_as (by simp) (by simp)) h.toEnters
    (meets_pure ⟨h.work.base, fun m hm => by cases hm⟩))

/-- **Every node.** -/
theorem handler_works {n : Node} (h : At γ run n) :
    Works K i Leads (fun run' γ' => Enters γ' run' n) (handler K n) run γ := by
  cases n with
  | perceive => exact perceive_works h
  | search => exact search_works h
  | propose => exact propose_works h
  | gate => exact gate_works h
  | awaitHuman => exact awaitHuman_works h
  | receipt => exact receipt_works h
  | done => exact done_works h
  | denied => exact denied_works h

/-! ## The loop -/

/-- The end of a call; nothing is asked of it. -/
def ended {α : Type} : Except GraphErr α → Trail → Prop := fun _ _ => True

theorem reload_outline (h : γ.base = some run.base) : Runs K i ended (load run.runId) γ := by
  refine outline_mono (fun _ _ _ => trivial) (load_outline fun b hb => ?_)
  rw [h] at hb
  cases hb
  rfl

theorem stopAt_outline {n : Node} {status : RunStatus} (h : Enters γ run n) (event : Fields)
    (hstatus : status = .denied ∨ status = .failed) :
    Runs K i ended (stopAt n status event run) γ := by
  have hsave : Savable γ run n (some status) none := by
    rcases hstatus with rfl | rfl
    · exact h.savable_as (by simp) (by simp)
    · exact h.savable_as (by simp) (by simp)
  refine outline_bind (Q := fun _ γ' => γ' = γ) (outline_bind (save_works event hsave) ?_ ?_) ?_ ?_
  · rintro ⟨r, run'⟩ γ' ⟨_, hr, hQ⟩
    cases hr
    cases r with
    | ok a => exact hQ.1
    | error e => exact hQ.1
  · rintro e γ' ⟨_, hr, -⟩
    cases hr
  · rintro _ _ rfl
    exact reload_outline h.work.base
  · rintro e _ rfl
    trivial

theorem loop_outline (deadline : ℚ) (steps : ℕ) {n : Node} (h : At γ run n) :
    Runs K i ended (loop K deadline steps n run) γ := by
  induction steps generalizing n run γ with
  | zero => exact stopAt_outline h.toEnters _ (.inr rfl)
  | succ steps ih =>
    refine outline_bind (Q := fun _ γ' => γ' = γ) (outside_outline rfl fun _ => rfl) ?_
      fun _ _ _ => trivial
    rintro (now : ℚ) _ rfl
    refine outline_ite (fun _ => stopAt_outline h.toEnters _ (.inr rfl)) fun _ => ?_
    refine outline_bind (handler_works h) ?_ fun e γ' hr => ?_
    · rintro ⟨r, run'⟩ γ' ⟨_, hr, hQ⟩
      cases hr
      cases r with
      | error e =>
        cases e with
        | limitExceeded code detail => exact stopAt_outline hQ _ (.inl rfl)
        | other text => exact stopAt_outline hQ _ (.inr rfl)
      | ok next =>
        cases next with
        | node m => exact ih (hQ.2 m rfl)
        | pause => exact reload_outline hQ.1
        | stop => exact reload_outline hQ.1
    · obtain ⟨_, hr, -⟩ := hr
      cases hr

/-! ## The entries -/

theorem runUntilPause_outline (runId : String) (maxSteps : Option ℕ) (maxSeconds : Option ℚ) :
    Runs K i ended (runUntilPause K runId maxSteps maxSeconds) Trail.empty := by
  refine outline_bind (Q := fun _ γ' => γ' = Trail.empty) (outside_outline rfl fun _ => rfl) ?_
    fun _ _ _ => trivial
  rintro now _ rfl
  refine outline_bind (load_outline fun b hb => by cases hb) ?_ fun _ _ _ => trivial
  rintro run γ ⟨rfl, -, hwork, hnode⟩
  refine outline_ite (fun _ => trivial) fun hlive => ?_
  refine loop_outline _ _ ⟨⟨hwork, by simpa using hlive, ?_⟩, ?_, ?_, ?_⟩
  · rw [entry]
    split
    · exact hnode
    · exact nodeOk_of_plain (by simp)
  · rintro - r hr
    cases hr
  · exact fun _ => Nat.zero_le _
  · exact fun _ hne => absurd rfl hne

omit [DecidableEq ι] in
/-- A run begins. -/
theorem RunsInv.insert (h : RunsInv K g s) (hnew : s.runs run.runId = none)
    (hok : ∀ V, RunOk V run) :
    RunsInv K g (s.addRun run) := by
  have hold : ∀ id old, s.runs id = some old → (s.addRun run).runs id = some old := by
    intro id old hget
    rw [addRun_runs, if_neg, hget]
    rintro rfl
    rw [hnew] at hget
    cases hget
  refine ⟨fun id row hrow => ?_, fun j => ?_, fun e he v hv => ?_⟩
  · rw [addRun_runs] at hrow
    split_ifs at hrow with hid
    · subst hid
      cases hrow
      exact ⟨rfl, hok _⟩
    · exact h.rows id row hrow
  · refine ⟨fun b hb => ?_, (h.trails j).vouch, (h.trails j).purchase, (h.trails j).registered⟩
    obtain ⟨row, hget, hbase⟩ := (h.trails j).row b hb
    exact ⟨row, hold _ _ hget, hbase⟩
  · obtain ⟨row, hget, hversion⟩ := h.events e he v hv
    exact ⟨row, hold _ _ hget, hversion⟩

theorem freshRun_ok (runId agentId : String) (version : ℕ) (mandateJti request : String)
    (V : Vouch) : RunOk V (freshRun K runId agentId version mandateJti request) where
  state := ⟨fun o ho => (List.not_mem_nil ho).elim, (fun p hp => by cases hp),
    (fun r hr => by cases hr)⟩
  escalation id hid := by cases hid
  node := nodeOk_of_plain (by simp [freshRun])
  parked hs := by cases hs
  done hs := by cases hs

theorem insertRun_outline (hγ : γ = Trail.empty) (hok : ∀ V, RunOk V run) :
    Runs K i (onOk fun _ γ' => γ'.base = some run.base) (task (.insertRun run)) γ := by
  refine call_outline (fun _ _ _ _ h => by cases h) fun g s e hg hI => ?_
  subst hg
  have hbase : (g i).base = none := by rw [hγ]; rfl
  by_cases hnew : s.runs run.runId = none
  · have hins := hI.insert hnew hok
    simp only [sem, hnew, Option.isSome_none, Bool.false_eq_true, if_false]
    cases hf : e.fate with
    | fails x => simpa [Fate.answer, Fate.effect, adv, onOk] using hI
    | lost x => simpa [Fate.answer, Fate.effect, adv, onOk] using hins
    | runs =>
      simp only [Fate.answer, Fate.effect, adv, onOk, hbase, Option.getD_none]
      refine ⟨hins.grow ⟨fun b hb => ?_, fun _ h => h, fun _ h => h, fun h => h⟩
        ⟨fun b hb => ?_, fun b hb => ?_, fun hpaid => ?_, (hI.trails i).registered⟩, trivial⟩
      · rw [hbase] at hb
        cases hb
      · cases hb
        exact ⟨run, (addRun_runs s run _).trans (if_pos rfl), rfl⟩
      · rw [hγ]
        refine ⟨fun id m hm => ?_, fun id hid => ?_, fun hp => ?_⟩
        · exact (List.not_mem_nil hm).elim
        · exact (List.not_mem_nil hid).elim
        · cases hp
      · rw [hγ] at hpaid
        rcases hpaid with hpaid | hpaid
        · cases hpaid
        · exact absurd rfl hpaid
  · obtain ⟨row, hrow⟩ := Option.ne_none_iff_exists'.1 hnew
    simpa [sem, hrow, adv, onOk] using hI

theorem start_outline (runId agentId mandateJti request : String) :
    Runs K i ended (start K runId agentId mandateJti request) Trail.empty := by
  refine outline_bind (Q := fun _ γ' => γ' = Trail.empty) (outside_outline rfl fun _ => rfl) ?_
    fun _ _ _ => trivial
  rintro agent _ rfl
  refine outline_ite (fun _ => trivial) fun _ => ?_
  refine outline_bind (Q := fun _ γ' => γ' = Trail.empty) (outside_outline rfl fun _ => rfl) ?_
    fun _ _ _ => trivial
  rintro _ _ rfl
  refine outline_bind (insertRun_outline rfl (freshRun_ok runId agentId agent.currentVersion
    mandateJti request)) ?_ fun _ _ _ => trivial
  intro _ γ hbase
  refine outline_bind (Q := fun _ γ' => γ' = γ) ?_ ?_ fun _ _ _ => trivial
  · refine plain_outline (fun _ _ _ _ hop => by cases hop) (fun r => rfl)
      (fun g s e hg hI => effect_inv _ hI (hI.append fun v hv => ?_)) fun r => rfl
    subst hg
    obtain ⟨row, hget, hrow⟩ := (hI.trails i).row _ hbase
    exact ⟨row, hget, (congrArg Base.agentVersion hrow).trans (Option.some.inj hv),
      congrArg Base.agentId hrow⟩
  · rintro _ _ rfl
    exact reload_outline hbase

/-- A purchase is read by a call of a purchase run. -/
theorem RunsInv.readPurchase (h : RunsInv K g s) {b : Base} (hb : (g i).base = some b)
    (hmode : b.mode = .purchase) (p : PurchaseView) :
    RunsInv K (Function.update g i ((g i).readPurchase p)) s := by
  have hgrows : (g i).Grows ((g i).readPurchase p) :=
    ⟨fun _ h => h, fun _ h => h, fun _ h => h, fun h => by simp [Trail.readPurchase, h]⟩
  refine h.grow hgrows ⟨(h.trails i).row, fun b' hb' => ?_, fun _ => ⟨b, hb, hmode⟩,
    (h.trails i).registered⟩
  have hold := ((h.trails i).vouch b' hb').trans (vouchOf_grow hgrows b'.runId)
  refine ⟨hold.offer, hold.escalation, fun hpaid => ?_⟩
  simp only [Trail.vouch, Trail.readPurchase, Bool.or_eq_true, decide_eq_true_eq] at hpaid
  rcases hpaid with hpaid | hpaid
  · exact hold.paid hpaid
  · refine ⟨i, b', by simpa [Trail.readPurchase] using hb', rfl, ?_⟩
    simp [Trail.readPurchase, hpaid]

/-- The purchase of a parked run is read. -/
theorem selectPurchase_outline (id : String) (hbase : γ.base = some run.base)
    (hmode : run.state.requestMode = .purchase) :
    Runs K i (onOk fun r γ' => ∀ p, r = some p → γ' = γ.readPurchase p)
      (task (.selectPurchase id)) γ := by
  refine call_outline (fun _ _ _ _ h => by cases h) fun g s e hg hI => ?_
  subst hg
  cases ha : e.answer (.selectPurchase id) with
  | error x => simpa [sem, ha, adv, onOk] using hI
  | ok r =>
    cases r with
    | none => simpa [sem, ha, adv, onOk] using hI
    | some p =>
      simp only [sem, ha, adv]
      refine ⟨hI.readPurchase hbase hmode p, fun p' h => ?_⟩
      cases h
      rfl

/-- The status goes back to running. -/
theorem updateRunning_seq {α : Type} {runId : String} {φ : α → AgentRun → Trail → Prop}
    {ψ : AgentRun → Trail → Prop} {f : Unit → Work α} (hψ : ψ run γ)
    (h : Works K i φ ψ (f ()) run γ) :
    Works K i φ ψ (ask (.updateRunning runId) >>= f) run γ := by
  refine meets_seq (φ := fun _ run' γ' => run' = run ∧ γ' = γ) (meets_lift ?_) ?_
  · refine plain_outline (fun _ _ _ _ hop => by cases hop) (fun r => rfl)
      (fun g s e hg hI => effect_inv _ hI (hI.setRun (fun row hrow => rfl) fun row hrow => ?_))
      fun r => ?_
    · have hok := (hI.rows _ row hrow).2
      exact ⟨hok.state, hok.escalation, hok.node, (fun hs => by cases hs), (fun hs => by cases hs)⟩
    · cases r with
      | ok a => exact ⟨rfl, rfl⟩
      | error x => exact hψ
  · rintro _ _ _ ⟨rfl, rfl⟩
    exact h

theorem resumeWith_works (h : At γ run .gate) (esc : EscalationView) (p : PurchaseView)
    (hpaid : p.status = .captured → γ.paid = true) :
    Works K i (fun _ _ _ => True) (fun _ _ => True) (resumeWith K esc p) run γ := by
  have h1 := h.setState (f := settled esc.purchaseId p) rfl rfl
    ⟨h.work.state.offers, h.work.state.proposal, fun r hr id hid => by cases hr; cases hid⟩
  refine setState_seq (meets_seq (φ := fun _ run' γ' => γ' = γ ∧ run' =
    { run with state := settled esc.purchaseId p run.state, status := .running })
    (meets_edit ⟨rfl, rfl⟩) ?_)
  rintro _ run' γ ⟨rfl, hrun'⟩
  have h2 : At γ run' .gate := by
    subst hrun'
    exact ⟨⟨⟨h1.work.base, h1.work.state, h1.work.escalation, fun hs => by cases hs⟩, rfl, h1.node⟩,
      h1.retried, h1.counted, h1.bounded⟩
  have h3 : At γ (savedRun .gate none none run') .gate := h2.saved
  have hnext : At γ (savedRun .gate none none run') (resumeNode p) := by
    rw [resumeNode]
    split_ifs with hcaptured
    · refine Enters.late ⟨h3.work, h3.live, fun _ => h3.node.purchase (by simp),
        fun _ => hpaid hcaptured, fun hn => by cases hn⟩ rfl
    · exact Enters.late ⟨h3.work, h3.live, nodeOk_of_plain (by simp)⟩ rfl
  refine read_seq (updateRunning_seq trivial (save_seq h2.savable trivial ?_))
  exact meets_bind (handler_works hnext) (fun _ _ _ _ => meets_pure trivial) fun _ _ _ _ => trivial

omit [DecidableEq ι] in
/-- A call is about one run. -/
theorem adv_base {b : Base} (h : γ.base = some b) (op : Op) (r : Except GraphErr (Reply op)) :
    (adv γ op r).base = some b := by
  cases op with
  | insertRun run => cases r <;> simp [adv, h]
  | selectRun id =>
    rcases r with e | _ | run
    · exact h
    · exact h
    · simp [adv, Trail.readRun, h]
  | merchantSearch m q => cases r <;> exact h
  | submitPurchase runId offerId jti merchantId => exact (answered_base γ r).trans h
  | selectPurchase id => rcases r with e | _ | p <;> exact h
  | _ => exact h

omit [DecidableEq ι] in
theorem readPurchase_vouch (γ : Trail) (p : PurchaseView) :
    γ.vouch.Le (γ.readPurchase p).vouch := by
  refine ⟨fun _ _ h => h, fun _ h => h, fun h => ?_⟩
  simp only [Trail.vouch] at h
  simp [Trail.vouch, Trail.readPurchase, h]

theorem resume_outline (runId : String) : Runs K i ended (resume K runId) Trail.empty := by
  refine outline_bind (load_outline fun b hb => by cases hb) ?_ fun _ _ _ => trivial
  rintro run γ ⟨hγ, hid, hwork, -⟩
  refine outline_ite (fun _ => trivial) fun hparked => ?_
  obtain ⟨hmode, -⟩ := hwork.parked (not_not.1 hparked)
  refine outline_bind (Q := fun _ γ' => γ' = γ) (outside_outline rfl fun _ => rfl) ?_
    fun _ _ _ => trivial
  rintro esc γ rfl
  cases esc with
  | none => trivial
  | some esc =>
    refine outline_ite (fun _ => trivial) fun _ => ?_
    refine outline_bind (selectPurchase_outline esc.purchaseId hwork.base hmode) ?_
      fun _ _ _ => trivial
    intro r γ' hread
    cases r with
    | none => trivial
    | some p =>
      obtain rfl := hread p rfl
      have hlearned : AtWork (γ.readPurchase p) run := hwork.learn rfl (readPurchase_vouch γ p)
      have hgate : At (γ.readPurchase p) run .gate := by
        have hsubmissions : (γ.readPurchase p).submissions = [] := by
          rw [hγ]
          rfl
        refine ⟨⟨hlearned, by rw [not_not.1 hparked]; rfl, fun _ => hmode, (fun hn => by cases hn),
          (fun hn => by cases hn)⟩, fun _ => ?_, fun _ => ?_, fun _ hne => absurd hsubmissions hne⟩
        · rw [hsubmissions]
          exact fun r hr => (List.not_mem_nil hr).elim
        · rw [hsubmissions]
          exact Nat.zero_le _
      have hpaid : p.status = .captured → (γ.readPurchase p).paid = true := fun hp => by
        simp [Trail.readPurchase, hp]
      refine outline_bind (Q := fun _ γ' => γ'.base = some run.base) ?_ ?_ fun _ _ _ => trivial
      · refine outline_mono (fun _ _ h => h.2) (outline_keeps (Q := ended)
          (ψ := fun γ' => γ'.base = some run.base) (fun γ' s op r h => adv_base h op r)
          (outline_bind (resumeWith_works hgate esc p hpaid) ?_ fun _ _ _ => trivial)
          hlearned.base)
        rintro ⟨r, run'⟩ γ' -
        cases r with
        | ok a => trivial
        | error e => trivial
      · intro _ γ' hbase
        rw [← hid]
        exact reload_outline hbase

/-- The state of a guided run. -/
theorem updateState_outline (hwork : AtWork γ run) {st : RunState}
    (hmode : st.requestMode = run.state.requestMode) (hst : StateOk γ.vouch st) :
    Runs K i (fun _ γ' => γ' = γ) (task (.updateState run.runId st)) γ := by
  refine plain_outline (fun _ _ _ _ hop => by cases hop) (fun r => rfl)
    (fun g s e hg hI => effect_inv _ hI ?_) fun r => rfl
  subst hg
  obtain ⟨row, hget, hbase⟩ := (hI.trails i).row _ hwork.base
  have hrowMode : st.requestMode = row.state.requestMode :=
    hmode.trans (congrArg Base.mode hbase).symm
  have hknown := hst.mono ((hI.trails i).vouch _ hwork.base)
  refine hI.setRun (fun row' hrow => ?_) fun row' hrow => ?_
  all_goals obtain rfl : row = row' := Option.some.inj (hget.symm.trans hrow)
  · rw [AgentRun.base, AgentRun.base, hrowMode]
  · have hok := (hI.rows _ row hget).2
    refine ⟨hknown, hok.escalation, ?_, (fun hs => by cases hs), (fun hs => by cases hs)⟩
    rw [hrowMode]
    exact hok.node

theorem addGuidance_outline (runId text : String) :
    Runs K i ended (addGuidance runId text) Trail.empty := by
  refine outline_bind (load_outline fun b hb => by cases hb) ?_ fun _ _ _ => trivial
  rintro run γ ⟨-, rfl, hwork, -⟩
  refine outline_bind (updateState_outline hwork rfl ⟨hwork.state.offers, hwork.state.proposal,
    hwork.state.result⟩) ?_ fun _ _ _ => trivial
  rintro _ γ rfl
  refine outline_bind (Q := fun _ γ' => γ' = γ) ?_ ?_ fun _ _ _ => trivial
  · exact plain_outline (fun _ _ _ _ hop => by cases hop) (fun r => rfl)
      (fun g s e hg hI => effect_inv _ hI (hI.append fun v hv => by cases hv)) fun r => rfl
  · rintro _ _ rfl
    exact reload_outline hwork.base

/-! ## The pool -/

/-- The calls. -/
inductive Act where
  | start (runId agentId mandateJti request : String)
  | advance (runId : String) (maxSteps : Option ℕ) (maxSeconds : Option ℚ)
  | resume (runId : String)
  | guide (runId text : String)

variable (K) in
/-- The program of a call. -/
def act : Act → Task AgentRun
  | .start runId agentId mandateJti request => start K runId agentId mandateJti request
  | .advance runId maxSteps maxSeconds => runUntilPause K runId maxSteps maxSeconds
  | .resume runId => resume K runId
  | .guide runId text => addGuidance runId text

theorem act_outline (a : Act) : Runs K i ended (act K a) Trail.empty := by
  cases a with
  | start runId agentId mandateJti request => exact start_outline runId agentId mandateJti request
  | advance runId maxSteps maxSeconds => exact runUntilPause_outline runId maxSteps maxSeconds
  | resume runId => exact resume_outline runId
  | guide runId text => exact addGuidance_outline runId text

variable (K) in
/-- All calls, over an empty table. -/
def pool (acts : ι → Act) : Config ι Op Reply GraphErr AgentRun Board Trail where
  shared := ⟨fun _ => none, []⟩
  prog i := act K (acts i)
  hist _ := Trail.empty

theorem pool_outlined (acts : ι → Act) :
    Outlined (system ι) (runsSpec K ι) (fun _ => ended) (pool K acts) where
  inv :=
    { rows := fun id run hrun => by cases hrun
      trails := fun j =>
        { row := fun b hb => by cases hb
          vouch := fun b hb => by cases hb
          purchase := fun h => h.elim (fun h => by cases h) (absurd rfl)
          registered := fun p hp => (List.not_mem_nil hp).elim }
      events := fun e he => (List.not_mem_nil he).elim }
  outline i := act_outline (acts i)

/-- **What a row may say.** -/
structure Truthful (g : ι → Trail) (run : AgentRun) : Prop where
  done : run.status = .done → Paid g run.runId ∨ run.state.requestMode = .search
  parked : run.status = .awaitingHuman →
    ∃ id, run.escalationId = some id ∧ Opened g run.runId id
  readOnly : run.state.requestMode = .search → ¬ Paid g run.runId ∧
    ∀ j b, (g j).base = some b → b.runId = run.runId → (g j).submissions = []

end Global

end TryTrust.Agent.Orchestrator
