import TryTrust.Agent.Resolution
import TryTrust.Conc.Alone

/-!
# Resuming a parked run

A run that waits for a human goes on once its escalation is resolved.

* `AgentRun`, `Office`: the runs beside the desk; `Task`: the programs over their statements;
* `save`, `nodeReceipt`, `nodeDenied`, `resume`, statement by statement;
* `Parked`, `Truthful`; `rule_closed`: a ruling closes the escalation and never captures its own
  purchase; `resume_denied`: so the run is denied;
* **`resume_truthful_iff`**: the run tells the truth exactly when nothing was captured;
  **`resumed_untruthful`**: an approval whose retry is captured.
-/

namespace TryTrust.Agent.Graph

open Conc Escalation

/-! ## Runs -/

/-- `agent_runs.status`. -/
inductive RunStatus where
  | running
  | awaitingHuman
  | done
  | denied
  | failed
  deriving DecidableEq, Repr

/-- `state["result"]`, as `resume` writes it. -/
structure RunResult where
  status : PurchaseStatus
  reasonCode : Option String
  purchaseId : String
  receipt : Option Receipt
  deriving DecidableEq

/-- A row of `agent_runs`. -/
structure AgentRun where
  agentId : String
  agentVersion : ℕ
  mandateJti : String
  node : String
  status : RunStatus
  escalationId : Option String
  result : Option RunResult
  deriving DecidableEq

/-- The desk and the runs. -/
structure Office where
  desk : Desk
  runs : String → Option AgentRun

/-- The statements of the graph, and the desk's. -/
inductive Op where
  | desk (op : Stmt)
  | selectRun (runId : String)
  /-- `SELECT * FROM escalations WHERE id = ?` for the column of a run, which may be `NULL`. -/
  | selectEscalation (id : Option String)
  | updateRunning (runId : String)
  | updateRun (runId : String) (run : AgentRun)

/-- The answers. -/
def Reply : Op → Type
  | .desk op => Ans op
  | .selectRun _ => Option AgentRun
  | .selectEscalation _ => Option EscalationRow
  | _ => Unit

/-- `UPDATE agent_runs SET … WHERE run_id = ?`. -/
def Office.setRun (s : Office) (runId : String) (f : AgentRun → AgentRun) : Office :=
  { s with runs := Function.update s.runs runId ((s.runs runId).map f) }

/-- A statement that does not fail. -/
def exec (e : DeskEnv) : (op : Op) → Office → Except PyErr (Reply op) × Office
  | .desk op, s => ((Escalation.exec e op s.desk).1, { s with desk := (Escalation.exec e op s.desk).2 })
  | .selectRun runId, s => (.ok (s.runs runId), s)
  | .selectEscalation id, s => (.ok (id.bind s.desk.escalation), s)
  | .updateRunning runId, s => (.ok (), s.setRun runId fun run => { run with status := .running })
  | .updateRun runId new, s =>
    (.ok (), s.setRun runId fun run =>
      { run with
        node := new.node, result := new.result, status := new.status
        escalationId := new.escalationId })

/-- **The meaning of a statement**: it raises without an effect, or it runs. -/
def sem (e : DeskEnv) (op : Op) (s : Office) : Except PyErr (Reply op) × Office :=
  match e.kernel.fail with
  | some x => (.error x, s)
  | none => exec e op s

/-- The programs over these statements. -/
abbrev Task (α : Type) : Type := Prog Op Reply PyErr α

/-- One statement. -/
abbrev task (op : Op) : Task (Reply op) := Prog.perform op

/-! ## `resume` -/

/-- `_load`. -/
def load (runId : String) : Task AgentRun := do
  match ← task (.selectRun runId) with
  | none => .raise (.keyError ("no such run: " ++ runId))
  | some run => pure run

/-- `_save`: the row, then the log. -/
def save (runId : String) (run : AgentRun) (node : String) (status : Option RunStatus) :
    Task AgentRun := do
  let run := { run with node := node, status := status.getD run.status }
  task (.updateRun runId run)
  task (.desk (.kernel (.auditAppend ⟨"agent.node.entered", runId, some run.mandateJti⟩)))
  pure run

/-- `node_receipt`. -/
def nodeReceipt (runId : String) (run : AgentRun) : Task String := do
  let _ ← save runId run "receipt" none
  pure "done"

/-- `node_denied`. -/
def nodeDenied (runId : String) (run : AgentRun) : Task String := do
  let _ ← save runId run "denied" (some .denied)
  pure "__stop__"

/-- `NODES[node](conn, run)` for the node that `resume` chooses. -/
def enterNode (runId : String) (run : AgentRun) (purchase : PurchaseRow) : Task String :=
  if purchase.status = .captured then nodeReceipt runId run else nodeDenied runId run

/-- The part of `resume` after its reads; the answer of the node is not looked at. -/
def resumeWith (runId : String) (run : AgentRun) (purchaseId : String) (purchase : PurchaseRow) :
    Task AgentRun := do
  let run := { run with
    result := some ⟨purchase.status, purchase.reasonCode, purchaseId, purchase.receipt⟩
    status := RunStatus.running }
  task (.updateRunning runId)
  let run ← save runId run "gate" none
  let _ ← enterNode runId run purchase
  load runId

/-- **`resume`**. -/
def resume (runId : String) : Task AgentRun := do
  let run ← load runId
  if run.status ≠ .awaitingHuman then pure run
  else
    match ← task (.selectEscalation run.escalationId) with
    | none => pure run
    | some esc =>
      if esc.status = .pending then pure run
      else
        match ← task (.desk (.selectPurchase esc.purchaseId)) with
        | none => .raise (.other "'NoneType' object is not subscriptable")
        | some purchase => resumeWith runId run esc.purchaseId purchase

/-! ## The escalated purchase -/

/-- The escalation is of this purchase; `closed` says that it is no longer pending. -/
def Filed (esc purchaseId : String) (closed : Bool) (d : Desk) : Prop :=
  ∃ row, d.escalation esc = some row ∧ row.purchaseId = purchaseId ∧
    (closed = true → row.status ≠ .pending)

/-- The escalation is of this purchase, which is not captured. -/
structure Watched (esc purchaseId : String) (closed : Bool) (d : Desk) : Prop where
  escalation : Filed esc purchaseId closed d
  purchase : ∃ row, d.db.purchases purchaseId = some row ∧ row.status ≠ .captured

/-- The statement does not write the purchase as captured. -/
def Mild (purchaseId : String) (op : Stmt) : Prop :=
  ∀ set, op ≠ .kernel (.updatePurchase purchaseId .captured set)

section Watched

variable {esc purchaseId : String} {closed : Bool} {d : Desk} {envs : ℕ → DeskEnv} {n : ℕ}

theorem Watched.loosen (h : Watched esc purchaseId closed d) : Watched esc purchaseId false d := by
  obtain ⟨row, hrow, hid, -⟩ := h.escalation
  exact ⟨⟨row, hrow, hid, fun h => by cases h⟩, h.purchase⟩

/-- The kernel's calls and the purchase. -/
theorem exec_purchase (e : Env) {c : Call} (hc : ∀ set, c ≠ .updatePurchase purchaseId .captured set)
    {db : Db} (h : ∃ row, db.purchases purchaseId = some row ∧ row.status ≠ .captured) :
    ∃ row, (Agent.exec e c db).2.purchases purchaseId = some row ∧ row.status ≠ .captured := by
  obtain ⟨row, hrow, hstatus⟩ := h
  cases c with
  | insertPurchase id i =>
    simp only [Agent.exec]
    split
    · exact ⟨row, hrow, hstatus⟩
    · next hnone =>
      have hid : purchaseId ≠ id := by
        rintro rfl
        rw [hrow] at hnone
        cases hnone
      exact ⟨row, by simpa [hid] using hrow, hstatus⟩
  | updatePurchase id status set =>
    by_cases hid : purchaseId = id
    · subst hid
      have hne : status ≠ .captured := fun heq => hc set (by rw [heq])
      cases set with
      | reservation r =>
        exact ⟨{ row with status := status, reservationId := r },
          by simp [Agent.exec, Db.setPurchase, hrow], hne⟩
      | reason code =>
        exact ⟨{ row with status := status, reasonCode := code },
          by simp [Agent.exec, Db.setPurchase, hrow], hne⟩
      | receipt receipt =>
        exact ⟨{ row with status := status, receipt := some receipt },
          by simp [Agent.exec, Db.setPurchase, hrow], hne⟩
    · refine ⟨row, ?_, hstatus⟩
      simpa [Agent.exec, Db.setPurchase, hid] using hrow
  | casReserve _ _ _ => simp only [Agent.exec]; split_ifs <;> exact ⟨row, hrow, hstatus⟩
  | updateTransition _ _ _ => simp only [Agent.exec]; split_ifs <;> exact ⟨row, hrow, hstatus⟩
  | deleteInstrument _ => simp only [Agent.exec]; split_ifs <;> exact ⟨row, hrow, hstatus⟩
  | insertCapture _ _ => simp only [Agent.exec]; split <;> exact ⟨row, hrow, hstatus⟩
  | insertIntent _ _ => simp only [Agent.exec]; split_ifs <;> exact ⟨row, hrow, hstatus⟩
  | _ => exact ⟨row, hrow, hstatus⟩

/-- A ruling on an escalation. -/
theorem filed_set (h : Filed esc purchaseId closed d) (id : String)
    {f : EscalationRow → EscalationRow} (hf : ∀ row, (f row).purchaseId = row.purchaseId)
    (hstatus : ∀ row, (f row).status ≠ .pending) :
    Filed esc purchaseId closed (d.setEscalation id f) ∧
      (esc = id → Filed esc purchaseId true (d.setEscalation id f)) := by
  obtain ⟨row, hrow, hid, hclosed⟩ := h
  have hset := escalation_set d id esc f
  rw [hrow, Option.map_some] at hset
  by_cases hesc : esc = id
  · rw [if_pos hesc] at hset
    exact ⟨⟨f row, hset, (hf row).trans hid, fun _ => hstatus row⟩,
      fun _ => ⟨f row, hset, (hf row).trans hid, fun _ => hstatus row⟩⟩
  · rw [if_neg hesc] at hset
    exact ⟨⟨row, hset, hid, hclosed⟩, fun h => absurd h hesc⟩

theorem filed_resolved (h : Filed esc purchaseId closed d) (id : String) (answer : Answer)
    (approver channel sig : String) :
    Filed esc purchaseId closed (d.setEscalation id fun row =>
      { row with
        status := .resolved, decision := some answer, approver := some approver
        channel := some channel, receiptSig := some sig }) ∧
      (esc = id → Filed esc purchaseId true (d.setEscalation id fun row =>
        { row with
          status := .resolved, decision := some answer, approver := some approver
          channel := some channel, receiptSig := some sig })) :=
  filed_set h id (fun _ => rfl) fun _ h => by cases h

theorem filed_timedOut (h : Filed esc purchaseId closed d) (id : String) :
    Filed esc purchaseId closed (d.setEscalation id fun row =>
      { row with status := .expired, decision := some .timeout }) ∧
      (esc = id → Filed esc purchaseId true (d.setEscalation id fun row =>
        { row with status := .expired, decision := some .timeout })) :=
  filed_set h id (fun _ => rfl) fun _ h => by cases h

/-- No statement undoes a ruling. -/
theorem exec_filed (e : DeskEnv) (op : Stmt) (h : Filed esc purchaseId closed d) :
    Filed esc purchaseId closed (Escalation.exec e op d).2 := by
  have hplain : Plain op → Filed esc purchaseId closed (Escalation.exec e op d).2 := by
    intro hop
    obtain ⟨row, hrow, hid, hclosed⟩ := h
    rcases exec_plain e hop d esc with heq | ⟨hnone, -⟩
    · exact ⟨row, heq.trans hrow, hid, hclosed⟩
    · rw [hrow] at hnone
      cases hnone
  cases op with
  | updateResolved id answer approver channel sig =>
    exact (filed_resolved h id answer approver channel sig).1
  | updateTimedOut id => exact (filed_timedOut h id).1
  | selectEscalation id => exact h
  | _ => exact hplain trivial

/-- **Every mild statement** keeps what is watched. -/
theorem exec_watched (e : DeskEnv) {op : Stmt} (hop : Mild purchaseId op)
    (h : Watched esc purchaseId closed d) :
    Watched esc purchaseId closed (Escalation.exec e op d).2 := by
  refine ⟨exec_filed e op h.escalation, ?_⟩
  cases op with
  | kernel c => exact exec_purchase e.kernel (fun set heq => hop set (by rw [heq])) h.purchase
  | insertEscalation id row => simp only [Escalation.exec]; split <;> exact h.purchase
  | insertMandate row => simp only [Escalation.exec]; split <;> exact h.purchase
  | insertInstrument ref => simp only [Escalation.exec]; split <;> exact h.purchase
  | _ => exact h.purchase

/-! ### Rulings -/

/-- The end of a call that returns. -/
abbrev returned {α σ : Type} (φ : α → σ → Prop) : Except PyErr α → σ → Prop :=
  onEnd (fun _ => True) φ

/-- One statement of the desk. -/
theorem alone_stmt (op : Stmt) {φ : Ans op → Desk → Prop}
    (h : ∀ e a, (Escalation.exec e op d).1 = .ok a → φ a (Escalation.exec e op d).2) :
    Alone Escalation.sem envs (returned φ) (stmt op) d n := by
  have hexec : ∀ e, returned φ (Escalation.exec e op d).1 (Escalation.exec e op d).2 := by
    intro e
    cases hr : (Escalation.exec e op d).1 with
    | ok a => exact h e a hr
    | error x => trivial
  refine alone_call ?_
  rw [Escalation.sem]
  split_ifs
  · cases (envs n).kernel.fail with
    | some x => trivial
    | none => exact hexec _
  · exact hexec _

theorem alone_mild {α : Type} {p : Escalation.Py α} (hp : p.Calls (Mild purchaseId))
    (h : Watched esc purchaseId closed d) :
    Alone Escalation.sem envs (returned fun _ => Watched esc purchaseId closed) p d n := by
  have hkeeps : Alone Escalation.sem envs (fun _ => Watched esc purchaseId closed) p d n := by
    refine alone_calls (fun e op d hop hd => ?_) hp h
    rw [Escalation.sem]
    split_ifs
    · cases e.kernel.fail with
      | some x => exact hd
      | none => exact exec_watched e hop hd
    · exact exec_watched e hop hd
  refine flow_mono (fun r t hr => ?_) hkeeps
  cases r with
  | ok a => exact hr
  | error x => trivial

theorem get_alone (id : String) :
    Alone Escalation.sem envs (returned fun row d' => d' = d ∧ d.escalation id = some row)
      (get id) d n := by
  refine alone_bind (alone_stmt (.selectEscalation id)
    (φ := fun a d' => d' = d ∧ a = d.escalation id) fun e a ha => ⟨rfl, ?_⟩) ?_
  · exact (Except.ok.inj ha).symm
  · rintro a d' n' ⟨rfl, rfl⟩
    cases hrow : d'.escalation id with
    | none => trivial
    | some row => exact ⟨rfl, rfl⟩

/-- `expire` closes the escalation. -/
theorem expire_closes (h : Watched esc purchaseId closed d) :
    Alone Escalation.sem envs (returned fun _ => Watched esc purchaseId true) (expire esc) d n := by
  refine alone_bind (get_alone esc) ?_
  rintro row d' n' ⟨rfl, hrow⟩
  split_ifs with hstatus
  · obtain ⟨row', hrow', hid, -⟩ := h.escalation
    obtain rfl : row = row' := Option.some.inj (hrow.symm.trans hrow')
    exact ⟨⟨row, hrow, hid, fun _ => hstatus⟩, h.purchase⟩
  · refine alone_bind (alone_stmt (.updateTimedOut esc)
      (φ := fun _ => Watched esc purchaseId true) fun e a _ => ?_) fun _ d'' n'' h' => ?_
    · exact ⟨(filed_timedOut h.escalation esc).2 rfl, h.purchase⟩
    · refine alone_mild (Prog.calls_bind (Prog.calls_perform fun set heq => ?_) fun _ =>
        Prog.calls_bind (Prog.calls_perform fun set heq => ?_) fun _ => trivial) h'
      · cases heq
      · cases heq

/-! ### The retry -/

/-- The kernel's call does not write the purchase as captured. -/
def Gentle (purchaseId : String) (c : Call) : Prop :=
  ∀ set, c ≠ .updatePurchase purchaseId .captured set

theorem openEscalation_mild (I : Issuer) (o : Opening) :
    (openEscalation I o).Calls (Mild purchaseId) := by
  have hmild : ∀ op, (∀ c, op ≠ .kernel c) → Mild purchaseId op := fun op h set => h _
  refine Prog.calls_bind ?_ fun approver => ?_
  · refine Prog.calls_bind (Prog.calls_perform fun _ h => by cases h) fun agent => ?_
    cases agent with
    | none => trivial
    | some agentId =>
      dsimp only
      split_ifs
      · trivial
      · exact Prog.calls_bind (Prog.calls_perform fun _ h => by cases h) fun _ => trivial
  · exact Prog.calls_bind (Prog.calls_perform fun _ h => by cases h) fun _ =>
      Prog.calls_bind (Prog.calls_perform fun _ h => by cases h) fun _ =>
        Prog.calls_bind (Prog.calls_perform fun _ h => by cases h) fun _ =>
          Prog.calls_bind (Prog.calls_perform fun _ h => by cases h) fun _ =>
            Prog.calls_perform fun _ h => by cases h

theorem handler_mild (I : Issuer) (mandateJti : String) (runId : Option String) {c : Call}
    (hc : Gentle purchaseId c) : (handler I mandateJti runId c).Calls (Mild purchaseId) := by
  have hkernel : (kernel c).Calls (Mild purchaseId) :=
    Prog.calls_perform fun set heq => hc set (Stmt.kernel.inj heq)
  cases c with
  | openEscalation escalationId id code => exact openEscalation_mild I _
  | _ => exact hkernel

/-- After the insert of its own purchase, a saga writes no other. -/
theorem afterVerify_gentle (K : Deps) (ports : String → Option Port) (fuel : ℕ) (ids : FreshIds)
    (token : String) (claims : Claims) (intent : Intent) (signature : String) (v : Verified)
    (hid : ids.purchaseId ≠ purchaseId) :
    (afterVerify K ports fuel ids token claims intent signature v).Calls (Gentle purchaseId) := by
  have hother : ∀ status set, Gentle purchaseId (.updatePurchase ids.purchaseId status set) := by
    intro status set set' heq
    exact hid (Call.updatePurchase.inj heq).1
  have helsewhere : ∀ c, Elsewhere c → Gentle purchaseId c := by
    rintro c hc set rfl
    exact hc
  simp only [afterVerify]
  cases v.decision.decision with
  | escalated =>
    exact Prog.calls_bind (Prog.calls_perform (hother _ _)) fun _ =>
      Prog.calls_bind (Prog.calls_perform fun _ h => by cases h) fun _ => trivial
  | rejected =>
    exact Prog.calls_bind (Prog.calls_perform (hother _ _)) fun _ =>
      Prog.calls_bind (Prog.calls_perform fun _ h => by cases h) fun _ => trivial
  | approved =>
    exact charge_elsewhere helsewhere K ports fuel ids _ _ _ _ _ _ fun _ _ _ => hother _ _

/-- **A retry** that returns has not captured the purchase it retries: it inserts one of its own. -/
theorem submitPurchase_alone (D : Deployment) (r : Submission)
    (h : Watched esc purchaseId closed d) :
    Alone Escalation.sem envs (returned fun _ => Watched esc purchaseId closed)
      (Escalation.submitPurchase D r) d n := by
  have hgentle : ∀ {α : Type} {p : Agent.Py α} {d n}, p.Calls (Gentle purchaseId) →
      Watched esc purchaseId closed d → Alone Escalation.sem envs
        (returned fun _ => Watched esc purchaseId closed)
        (p.interp (handler D.issuer r.mandateJti r.runId)) d n :=
    fun hp h => alone_mild (Prog.calls_interp (fun c hc => handler_mild _ _ _ hc) hp) h
  have hread : ∀ c, Elsewhere c → Gentle purchaseId c := by
    rintro c hc set rfl
    exact hc
  rw [Escalation.submitPurchase]
  refine flow_interp_bind (hgentle (Prog.calls_perform (hread _ trivial)) h)
    (fun row s h => ?_) fun _ _ _ => trivial
  cases row with
  | none => trivial
  | some row =>
    dsimp only
    cases D.ports r.merchantId with
    | none => exact h
    | some port =>
      dsimp only
      refine flow_interp_bind (hgentle (Prog.calls_perform (hread _ trivial)) h)
        (fun offer s h => ?_) fun _ _ _ => trivial
      cases offer with
      | none => exact h
      | some offer =>
        refine flow_interp_bind (hgentle (Prog.calls_perform (hread _ trivial)) h)
          (fun issued s h => ?_) fun _ _ _ => trivial
        -- the insert raises when the id is that of the purchase already there
        have hinsert : Alone Escalation.sem envs (returned fun _ d' =>
            r.ids.purchaseId ≠ purchaseId ∧ Watched esc purchaseId closed d')
            (handler D.issuer r.mandateJti r.runId (.insertPurchase r.ids.purchaseId
              (buildIntent r.ids r.mandateJti row.claims.agent offer issued))) s.1 s.2 := by
          refine alone_stmt (.kernel (.insertPurchase r.ids.purchaseId
            (buildIntent r.ids r.mandateJti row.claims.agent offer issued)))
            (φ := fun _ d' => r.ids.purchaseId ≠ purchaseId ∧ Watched esc purchaseId closed d')
            fun e a ha => ⟨?_, exec_watched e (fun _ h => by cases h) h⟩
          rintro heq
          obtain ⟨old, hold, -⟩ := h.purchase
          simp only [Escalation.exec, Agent.exec, heq, hold] at ha
          cases ha
        refine flow_interp_bind (flow_interp_perform (h := handler D.issuer r.mandateJti r.runId)
          hinsert) (fun _ s h => ?_) fun _ _ _ => trivial
        refine hgentle (Prog.calls_bind (Prog.calls_perform (hread _ trivial)) fun _ =>
          Prog.calls_bind (verify_elsewhere hread _ _ _ _ _ _ _ _) fun v =>
            afterVerify_gentle _ _ _ _ _ _ _ _ v h.1) h.2

theorem retryOffer_mild (row : EscalationRow) (purchase : PurchaseRow) :
    (retryOffer row purchase).Calls (Mild purchaseId) := by
  refine Prog.calls_bind (Prog.calls_perform fun _ h => by cases h) fun r => ?_
  cases r with
  | some r => trivial
  | none => exact Prog.calls_bind (Prog.calls_perform fun _ h => by cases h) fun _ => trivial

theorem retryMandate_mild (I : Issuer) (row : EscalationRow) (purchase : PurchaseRow)
    (sticky : Bool) (derivedJti : String) :
    (retryMandate I row purchase sticky derivedJti).Calls (Mild purchaseId) := by
  rw [retryMandate]
  refine Prog.calls_ite (fun _ => ?_) fun _ => trivial
  refine Prog.calls_bind (Prog.calls_perform fun _ h => by cases h) fun r => ?_
  cases r with
  | none => trivial
  | some parent =>
    exact Prog.calls_bind (Prog.calls_perform fun _ h => by cases h) fun _ =>
      Prog.calls_bind (Prog.calls_perform fun _ h => by cases h) fun _ =>
        Prog.calls_bind (Prog.calls_perform fun _ h => by cases h) fun _ =>
          Prog.calls_bind (Prog.calls_perform fun _ h => by cases h) fun _ => trivial

theorem retryThroughGate_alone (D : Deployment) (r : Resolution) (row : EscalationRow)
    (h : Watched esc purchaseId closed d) :
    Alone Escalation.sem envs (returned fun _ => Watched esc purchaseId closed)
      (retryThroughGate D r row) d n := by
  refine alone_bind (alone_mild (Prog.calls_perform fun _ h => by cases h) h) fun found _ _ h => ?_
  cases found with
  | none => trivial
  | some purchase =>
    refine alone_bind (alone_mild (retryOffer_mild row purchase) h) fun offer _ _ h => ?_
    obtain ⟨offerId, merchantId⟩ := offer
    cases offerId with
    | none => exact h
    | some offerId =>
      refine alone_bind (alone_mild (retryMandate_mild _ _ _ _ _) h) fun mandateJti _ _ h => ?_
      exact submitPurchase_alone D _ h

/-- `resolve` closes the escalation. -/
theorem resolve_closes (D : Deployment) (r : Resolution)
    (h : Watched r.escalationId purchaseId closed d) :
    Alone Escalation.sem envs (returned fun _ => Watched r.escalationId purchaseId true)
      (resolve D r) d n := by
  rw [resolve]
  cases Answer.ofText r.decision with
  | none => trivial
  | some answer =>
    refine alone_bind (get_alone r.escalationId) ?_
    rintro row d' n' ⟨rfl, hrow⟩
    split_ifs with hstatus
    · obtain ⟨row', hrow', hid, -⟩ := h.escalation
      obtain rfl : row = row' := Option.some.inj (hrow.symm.trans hrow')
      exact ⟨⟨row, hrow, hid, fun _ => hstatus⟩, h.purchase⟩
    refine alone_bind (alone_mild (Prog.calls_perform fun _ h => by cases h) h) fun now _ _ h => ?_
    split_ifs
    · exact expire_closes h
    refine alone_bind (alone_mild (Prog.calls_perform fun _ h => by cases h) h) fun at' d _ h => ?_
    refine alone_bind (alone_stmt (.updateResolved r.escalationId answer r.approver r.channel _)
      (φ := fun _ => Watched r.escalationId purchaseId true) fun e a _ => ?_) fun _ _ _ h => ?_
    · exact ⟨(filed_resolved h.escalation _ _ _ _ _).2 rfl, h.purchase⟩
    refine alone_bind (alone_mild (Prog.calls_perform fun _ h => by cases h) h) fun _ _ _ h => ?_
    split_ifs
    · exact alone_bind (alone_mild (Prog.calls_perform fun _ h => by cases h) h) fun _ _ _ h => h
    · exact alone_bind (retryThroughGate_alone D r row h) fun _ _ _ h => h

/-- The ruling is on this escalation. -/
def RulesOn (esc : String) : Ruling → Prop
  | .resolve r => r.escalationId = esc
  | .expire id => id = esc
  | .sweep => False

/-- **A ruling that returns** has closed the escalation, and its purchase is not captured. -/
theorem rule_closed (D : Deployment) {w : Ruling} (hw : RulesOn esc w)
    (h : Watched esc purchaseId closed d) :
    Alone Escalation.sem envs (returned fun _ => Watched esc purchaseId true) (rule D w) d n := by
  cases w with
  | resolve r =>
    obtain rfl : r.escalationId = esc := hw
    exact alone_bind (resolve_closes D r h) fun _ _ _ h => h
  | expire id =>
    obtain rfl : id = esc := hw
    exact alone_bind (expire_closes h) fun _ _ _ h => h
  | sweep => exact hw.elim

end Watched

/-! ## The resumed run -/

/-- Where a run is, and the purchases. -/
def At (runId : String) (status : RunStatus) (purchases : String → Option PurchaseRow)
    (s : Office) : Prop :=
  (∃ run, s.runs runId = some run ∧ run.status = status) ∧ s.desk.db.purchases = purchases

section Resume

variable {runId : String} {status : RunStatus} {purchases : String → Option PurchaseRow}
  {s : Office} {envs : ℕ → DeskEnv} {n : ℕ}

/-- One statement of the graph. -/
theorem alone_task (op : Op) {φ : Reply op → Office → Prop}
    (h : ∀ e a, (exec e op s).1 = .ok a → φ a (exec e op s).2) :
    Alone sem envs (returned φ) (task op) s n := by
  refine alone_call ?_
  rw [sem]
  cases (envs n).kernel.fail with
  | some x => trivial
  | none =>
    dsimp only
    cases hr : (exec (envs n) op s).1 with
    | ok a => exact h _ a hr
    | error x => trivial

theorem at_setRun (h : At runId status purchases s) {f : AgentRun → AgentRun} {st : RunStatus}
    (hf : ∀ run, (f run).status = st) : At runId st purchases (s.setRun runId f) := by
  obtain ⟨⟨run, hrun, -⟩, hpurchases⟩ := h
  refine ⟨⟨f run, ?_, hf run⟩, hpurchases⟩
  show Function.update s.runs runId ((s.runs runId).map f) runId = some (f run)
  rw [Function.update_self, hrun, Option.map_some]

theorem save_alone (run : AgentRun) (node : String) (st : Option RunStatus)
    (h : At runId status purchases s) :
    Alone sem envs (returned fun run' s' => run'.status = st.getD run.status ∧
      At runId (st.getD run.status) purchases s') (save runId run node st) s n := by
  refine alone_bind (alone_task (.updateRun runId _)
    (φ := fun _ => At runId (st.getD run.status) purchases) fun e a _ => ?_) fun _ s' n' h' => ?_
  · exact at_setRun h fun _ => rfl
  refine alone_bind (alone_task (.desk (.kernel (.auditAppend _)))
    (φ := fun _ => At runId (st.getD run.status) purchases) fun e a _ => h') fun _ s'' n'' h'' => ?_
  exact ⟨rfl, h''⟩

theorem load_alone (h : At runId status purchases s) :
    Alone sem envs (returned fun run s' => run.status = status ∧ s' = s) (load runId) s n := by
  refine alone_bind (alone_task (.selectRun runId)
    (φ := fun a s' => a = s.runs runId ∧ s' = s) fun e a ha => ⟨(Except.ok.inj ha).symm, rfl⟩) ?_
  rintro a s' n' ⟨rfl, rfl⟩
  obtain ⟨⟨run, hrun, hstatus⟩, -⟩ := h
  cases hrow : s'.runs runId with
  | none => trivial
  | some row =>
    obtain rfl : run = row := Option.some.inj (hrun.symm.trans hrow)
    exact ⟨hstatus, rfl⟩

/-- A purchase that is not captured denies the run. -/
theorem resumeWith_denied (run : AgentRun) (purchaseId : String) {purchase : PurchaseRow}
    (hstatus : purchase.status ≠ .captured) (h : At runId status purchases s) :
    Alone sem envs (returned fun run' s' => run'.status = .denied ∧ At runId .denied purchases s')
      (resumeWith runId run purchaseId purchase) s n := by
  refine alone_bind (alone_task (.updateRunning runId) (φ := fun _ => At runId .running purchases)
    fun e a _ => at_setRun h fun _ => rfl) fun _ _ _ h => ?_
  refine alone_bind (save_alone _ "gate" none h) fun run' s' n' h => ?_
  have hdenied : Alone sem envs (returned fun _ => At runId .denied purchases)
      (enterNode runId run' purchase) s' n' := by
    rw [enterNode, if_neg hstatus]
    exact alone_bind (save_alone run' "denied" (some .denied) h.2) fun _ _ _ h => h.2
  refine alone_bind hdenied fun _ s' _ h => ?_
  refine alone_mono (load_alone h) ?_
  rintro run'' s'' ⟨hrun, rfl⟩
  exact ⟨hrun, h⟩

/-- **A resumed run is denied**: the purchase that it reads is the one that was escalated. -/
theorem resume_denied {esc purchaseId : String} {run : AgentRun}
    (hrun : s.runs runId = some run) (hstatus : run.status = .awaitingHuman)
    (hesc : run.escalationId = some esc) (h : Watched esc purchaseId true s.desk) :
    Alone sem envs (returned fun run' s' => run'.status = .denied ∧
      At runId .denied s.desk.db.purchases s') (resume runId) s n := by
  obtain ⟨row, hrow, rfl, hclosed⟩ := h.escalation
  obtain ⟨purchase, hpurchase, hnot⟩ := h.purchase
  have hat : At runId .awaitingHuman s.desk.db.purchases s := ⟨⟨run, hrun, hstatus⟩, rfl⟩
  have hload : Alone sem envs (returned fun a s' => a = run ∧ s' = s) (load runId) s n := by
    refine alone_bind (alone_task (.selectRun runId)
      (φ := fun a s' => a = some run ∧ s' = s) fun e a ha => ⟨?_, rfl⟩) ?_
    · exact (Except.ok.inj ha).symm.trans hrun
    · rintro a s' n' ⟨rfl, rfl⟩
      exact ⟨rfl, rfl⟩
  refine alone_bind hload ?_
  rintro a s' n' ⟨rfl, rfl⟩
  rw [if_neg (not_not.mpr hstatus), hesc]
  refine alone_bind (alone_task (.selectEscalation (some esc))
    (φ := fun a s'' => a = some row ∧ s'' = s') fun e a ha => ⟨?_, rfl⟩) ?_
  · exact (Except.ok.inj ha).symm.trans hrow
  rintro found s'' n'' ⟨rfl, rfl⟩
  dsimp only
  rw [if_neg (hclosed rfl)]
  refine alone_bind (alone_task (.desk (.selectPurchase row.purchaseId))
    (φ := fun a s' => a = some purchase ∧ s' = s'') fun e a ha => ⟨?_, rfl⟩) ?_
  · exact (Except.ok.inj ha).symm.trans hpurchase
  rintro found s' n' ⟨rfl, rfl⟩
  exact resumeWith_denied a row.purchaseId hnot hat

end Resume

/-! ## Telling the truth -/

/-- A parked run: it waits for its escalation, whose purchase waits too. -/
structure Parked (s : Office) (runId esc : String) : Prop where
  run : ∃ run, s.runs runId = some run ∧ run.status = .awaitingHuman ∧ run.escalationId = some esc
  escalation : ∃ row, s.desk.escalation esc = some row ∧ row.status = .pending ∧
    ∃ purchase, s.desk.db.purchases row.purchaseId = some purchase ∧
      purchase.status = .awaitingEscalation

/-- A purchase was captured between two states. -/
def NewlyCaptured (d d' : Desk) : Prop :=
  ∃ p row, d'.db.purchases p = some row ∧ row.status = .captured ∧
    ∀ old, d.db.purchases p = some old → old.status ≠ .captured

/-- The run is done exactly when a purchase was captured, and denied otherwise. -/
def Truthful (runId : String) (start end' : Office) : Prop :=
  ((∃ run, end'.runs runId = some run ∧ run.status = .done) ↔ NewlyCaptured start.desk end'.desk) ∧
  ((∃ run, end'.runs runId = some run ∧ run.status = .denied) ↔
    ¬ NewlyCaptured start.desk end'.desk)

/-- The desk after a ruling, and whether it returned. -/
def ruled (D : Deployment) (w : Ruling) (envs : ℕ → DeskEnv) (s : Office) :
    Except PyErr Unit × Office :=
  ((((rule D w).run (streamed Escalation.sem envs) (s.desk, 0)).1),
    { s with desk := ((rule D w).run (streamed Escalation.sem envs) (s.desk, 0)).2.1 })

/-- The office after `resume`, and whether it returned. -/
def resumed (runId : String) (envs : ℕ → DeskEnv) (s : Office) : Bool × Office :=
  (((resume runId).run (streamed sem envs) (s, 0)).1.toBool,
    ((resume runId).run (streamed sem envs) (s, 0)).2.1)

/-- **A resumed run tells the truth exactly when no purchase was captured** by the ruling: for every
parked run, every ruling on its escalation, and whatever the environment does at every statement, when
both calls return. -/
theorem resume_truthful_iff (D : Deployment) (w : Ruling) (envs envs' : ℕ → DeskEnv) (start : Office)
    (runId esc : String) (hparked : Parked start runId esc) (hw : RulesOn esc w)
    (hruled : (ruled D w envs start).1 = .ok ())
    (hresumed : (resumed runId envs' (ruled D w envs start).2).1 = true) :
    Truthful runId start (resumed runId envs' (ruled D w envs start).2).2 ↔
      ¬ NewlyCaptured start.desk (ruled D w envs start).2.desk := by
  obtain ⟨run, hrun, hstatus, hesc⟩ := hparked.run
  obtain ⟨row, hrow, hpending, purchase, hpurchase, hwaits⟩ := hparked.escalation
  have hwatched : Watched esc row.purchaseId false start.desk :=
    ⟨⟨row, hrow, rfl, fun h => by cases h⟩, purchase, hpurchase, by rw [hwaits]; decide⟩
  have hrules : Alone Escalation.sem envs (returned fun _ => Watched esc row.purchaseId true)
      (rule D w) start.desk 0 := rule_closed D hw hwatched
  have hclosed := alone_run hrules
  rw [ruled] at hruled
  rw [hruled] at hclosed
  have hresumes : Alone sem envs' (returned fun run' s' => run'.status = .denied ∧
      At runId .denied (ruled D w envs start).2.desk.db.purchases s') (resume runId)
      (ruled D w envs start).2 0 := resume_denied hrun hstatus hesc hclosed
  have hdenied := alone_run hresumes
  rw [resumed] at hresumed
  obtain ⟨run', hrun'⟩ : ∃ run', ((resume runId).run (streamed sem envs')
      ((ruled D w envs start).2, 0)).1 = .ok run' := by
    cases hr : ((resume runId).run (streamed sem envs') ((ruled D w envs start).2, 0)).1 with
    | ok run' => exact ⟨run', rfl⟩
    | error x =>
      rw [hr] at hresumed
      cases hresumed
  rw [hrun'] at hdenied
  obtain ⟨-, ⟨final, hfinal, hend⟩, hsame⟩ := hdenied
  have hcaptured : NewlyCaptured start.desk (resumed runId envs' (ruled D w envs start).2).2.desk ↔
      NewlyCaptured start.desk (ruled D w envs start).2.desk := by
    rw [NewlyCaptured, NewlyCaptured, resumed, hsame]
  have hat : ∀ st, (∃ run, (resumed runId envs' (ruled D w envs start).2).2.runs runId = some run ∧
      run.status = st) ↔ st = .denied := by
    intro st
    constructor
    · rintro ⟨run'', hrun'', rfl⟩
      rw [← Option.some.inj (hfinal.symm.trans hrun''), hend]
    · rintro rfl
      exact ⟨final, hfinal, hend⟩
  rw [Truthful, hat, hat, hcaptured]
  simp

/-- A run parked on the escalation of a fare. -/
def fareOffice : Office where
  desk := fareDesk.desk
  runs := fun runId => if runId = "run" then
      some ⟨"agt", 1, "mdt", "await_human", .awaitingHuman, some "esc", none⟩
    else none

theorem fareOffice_parked : Parked fareOffice "run" "esc" where
  run := ⟨_, rfl, rfl, rfl⟩
  escalation := ⟨fareEscalation, rfl, rfl, _, rfl, rfl⟩

/-- The fare is approved, with a mandate of its own. -/
def fareApproval : Ruling :=
  .resolve ⟨"esc", "APPROVE", "marta", "chat", true, "mdt_0",
    ⟨"pur_0", "int_0", "nonce_0", "rsv_0", "cap_0", "rct_0", "esc_0"⟩⟩

/-- A deployment that reads the derived mandate as it signed it. -/
def derivedDeployment : Deployment :=
  { fareDeployment with
    deps :=
      { fareDeployment.deps with
        verifyToken := fun token => .ok (if token = "mdt_0" then
            { fareClaims "mdt_0" with limits := ⟨30000, 30000, some 1⟩, exp := 2592000 }
          else fareClaims token) } }

/-- Nothing fails. -/
def fareEnvs : ℕ → DeskEnv := fun _ => fareTurn.env

theorem resume_truthful_fare :
    Truthful "run" fareOffice
        (resumed "run" fareEnvs (ruled derivedDeployment fareApproval fareEnvs fareOffice).2).2 ↔
      ¬ NewlyCaptured fareOffice.desk (ruled derivedDeployment fareApproval fareEnvs fareOffice).2.desk :=
  resume_truthful_iff derivedDeployment fareApproval fareEnvs fareEnvs fareOffice "run" "esc"
    fareOffice_parked rfl (by decide +kernel) (by decide +kernel)

/-- **An approved fare is captured, and the run that asked for it ends denied.** -/
theorem resumed_untruthful : ¬ Truthful "run" fareOffice
    (resumed "run" fareEnvs (ruled derivedDeployment fareApproval fareEnvs fareOffice).2).2 := by
  rintro ⟨-, hdenied⟩
  have hrun : ((resumed "run" fareEnvs
      (ruled derivedDeployment fareApproval fareEnvs fareOffice).2).2.runs "run").map (·.status) =
        some .denied := by
    decide +kernel
  have hpurchase : ((resumed "run" fareEnvs
      (ruled derivedDeployment fareApproval fareEnvs fareOffice).2).2.desk.db.purchases "pur_0").map
        (·.status) = some .captured := by
    decide +kernel
  obtain ⟨run, hrun, hstatus⟩ := Option.map_eq_some_iff.mp hrun
  obtain ⟨row, hrow, hcaptured⟩ := Option.map_eq_some_iff.mp hpurchase
  exact hdenied.mp ⟨run, hrun, hstatus⟩ ⟨"pur_0", row, hrow, hcaptured, fun old hold => by cases hold⟩

end TryTrust.Agent.Graph
