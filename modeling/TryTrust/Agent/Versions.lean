import TryTrust.Conc.Cell
import TryTrust.Conc.Transaction
import TryTrust.JsonText

/-!
# Versions of an agent

`create_agent` and `publish_version`, on any number of connections, statement by statement. The
current version is read before the transaction begins; the primary key of `agent_versions` refuses
a number that has been published since.

* `AgentRow`, `VersionRow`, `Tables`, `Call`, `exec`, `sem`: a statement runs, fails or, at a
  `COMMIT`, loses its answer;
* `publishVersion`, `createAgent`, `session`; `Work`, `versionSystem`;
* `Gapless`, `Kept`, `StepOk`: what a call may do;
* `AgentOk`, `VersionInv`: who holds the row of a version holds the next one of the agent;
  `VersionInv.read`, `.insert`, `.update`, `.create`, `.commit`, `.rollback`;
* `write_runs`, `undo_runs`, `publishVersion_runs`, `createAgent_runs`, `session_runs`;
  **`versions_gapless`**.
-/

namespace TryTrust.Agent.Versions

open Conc

/-! ## Tables -/

/-- A row of `agents`. -/
structure AgentRow where
  id : String
  name : String
  ownerId : String
  approverId : String
  auditorId : String
  status : String := "active"
  publicJwk : String
  currentVersion : ℕ := 0
  createdAt : String
  updatedAt : String

/-- A row of `agent_versions`. -/
structure VersionRow where
  agentId : String
  version : ℕ
  ontology : String
  modelCfg : String
  changedBy : Option String
  reason : String
  createdAt : String

/-- The rows of both tables, by their primary keys. -/
structure Tables (ι : Type) where
  agents : String → Cell ι (Option AgentRow)
  versions : String × ℕ → Cell ι (Option VersionRow)

/-- A call of a connection. -/
inductive Call (ι : Type) where
  | selectVersion (i : ι) (agentId : String)
  /-- `now_iso()`. -/
  | now (i : ι)
  /-- `new_id("agt")`. -/
  | newId (i : ι)
  /-- `public_jwk(load_or_create(…))`. -/
  | loadKey (i : ι) (agentId : String)
  /-- The `INSERT` of `create_agent`, in a transaction of its own. -/
  | insertAgent (i : ι) (row : AgentRow)
  | begin (i : ι)
  | insertVersion (i : ι) (row : VersionRow)
  | updateCurrent (i : ι) (agentId : String) (version : ℕ) (stamp : String)
  | commit (i : ι)
  | rollback (i : ι)
  /-- `audit.append`, in a transaction of its own. -/
  | auditAppend (i : ι) (event : String) (payload : Fields) (actor : Option String)
      (agentId : String)

/-- The answer of a call. -/
def Res {ι : Type} : Call ι → Type
  | .selectVersion .. => Option ℕ
  | .now _ => String
  | .newId _ => String
  | .loadKey .. => Json
  | _ => Unit

/-- The exceptions. -/
inductive Err where
  /-- `KeyError`. -/
  | keyError (message : String)
  /-- `UniqueViolation`. -/
  | integrity
  /-- The connection is lost when the server has done what it was asked for. -/
  | lost
  /-- Any other exception. -/
  | failure (message : String)
  deriving DecidableEq

/-- What a call meets: the exception that it raises, if any, and new values. -/
structure Outside where
  raises : Option Err := none
  stamp : String := ""
  agentId : String := ""
  key : Json := .null

/-- A program of a connection. -/
abbrev Tx (ι α : Type) : Type := Prog (Call ι) Res Err α

section Statements

variable {ι : Type} [DecidableEq ι]

/-- The tables after a commit. -/
def committed (i : ι) (s : Tables ι) : Tables ι :=
  ⟨fun k => (s.agents k).commit i, fun k => (s.versions k).commit i⟩

/-- The tables after a rollback. -/
def rolledBack (i : ι) (s : Tables ι) : Tables ι :=
  ⟨fun k => (s.agents k).rollback i, fun k => (s.versions k).rollback i⟩

/-- Write the row of an agent. -/
def Tables.putAgent (s : Tables ι) (id : String) (c : Cell ι (Option AgentRow)) : Tables ι :=
  { s with agents := Function.update s.agents id c }

/-- Write the row of a version. -/
def Tables.putVersion (s : Tables ι) (k : String × ℕ) (c : Cell ι (Option VersionRow)) : Tables ι :=
  { s with versions := Function.update s.versions k c }

/-- What a call does when it does not raise by the environment's choice. -/
def exec (e : Outside) : (op : Call ι) → Tables ι → Except Err (Res op) × Tables ι
  | .selectVersion i id, s => (.ok (((s.agents id).seen i).map (·.currentVersion)), s)
  | .now _, s => (.ok e.stamp, s)
  | .newId _, s => (.ok e.agentId, s)
  | .loadKey .., s => (.ok e.key, s)
  | .insertAgent i row, s =>
    if ¬ (s.agents row.id).Free i then (.error (.failure "lock timeout"), s)
    else if ((s.agents row.id).seen i).isSome then (.error .integrity, s)
    else (.ok (), s.putAgent row.id (((s.agents row.id).write i (some row)).commit i))
  | .begin _, s => (.ok (), s)
  | .insertVersion i row, s =>
    if ¬ (s.versions (row.agentId, row.version)).Free i then (.error (.failure "lock timeout"), s)
    else if ((s.versions (row.agentId, row.version)).seen i).isSome then (.error .integrity, s)
    else (.ok (), s.putVersion (row.agentId, row.version)
      ((s.versions (row.agentId, row.version)).write i (some row)))
  | .updateCurrent i id version stamp, s =>
    match (s.agents id).seen i with
    | none => (.ok (), s)
    | some row =>
      if (s.agents id).Free i then
        (.ok (), s.putAgent id ((s.agents id).write i
          (some { row with currentVersion := version, updatedAt := stamp })))
      else (.error (.failure "lock timeout"), s)
  | .commit i, s => (.ok (), committed i s)
  | .rollback i, s => (.ok (), rolledBack i s)
  | .auditAppend .., s => (.ok (), s)

/-- What a call that raises has done: a `ROLLBACK` whose connection is lost ends the transaction,
and so does a `COMMIT` that loses its answer. -/
def leaves (x : Err) : Call ι → Tables ι → Tables ι
  | .commit i, s => if x = .lost then committed i s else s
  | .rollback i, s => rolledBack i s
  | _, s => s

/-- **One call.** -/
def sem (e : Outside) (op : Call ι) (s : Tables ι) : Except Err (Res op) × Tables ι :=
  match e.raises with
  | some x => (.error x, leaves x op s)
  | none => exec e op s

/-- One call of a program. -/
def call (op : Call ι) : Tx ι (Res op) := Prog.perform op

/-! ## The registry -/

/-- The arguments of `publish_version`. -/
structure Publish where
  agentId : String
  ontology : Fields
  modelCfg : Fields := []
  changedBy : Option String := none
  reason : String := ""

/-- The row of a new version. -/
def Publish.row (x : Publish) (version : ℕ) (stamp : String) : VersionRow :=
  ⟨x.agentId, version, JsonText.dumps (.obj x.ontology), JsonText.dumps (.obj x.modelCfg),
    x.changedBy, x.reason, stamp⟩

/-- The payload of `agent.version.published`. -/
def Publish.payload (x : Publish) (version : ℕ) : Fields :=
  [("agent_id", .str x.agentId), ("version", .num version 0), ("reason", .str x.reason),
    ("ontology_keys",
      .arr (((x.ontology.map Prod.fst).mergeSort fun a b => decide (a ≤ b)).map Json.str))]

/-- The transaction of `publish_version`. -/
def write (i : ι) (x : Publish) (version : ℕ) (stamp : String) : Tx ι Unit := do
  call (.insertVersion i (x.row version stamp))
  call (.updateCurrent i x.agentId version stamp)
  call (.commit i)

/-- The `except` of `publish_version`. -/
def undo (i : ι) (e : Err) : Tx ι Unit := do
  call (.rollback i)
  .raise e

/-- The part of `publish_version` after the read. -/
def publishAfter (i : ι) (x : Publish) : Option ℕ → Tx ι ℕ
  | none => .raise (.keyError ("no such agent: " ++ x.agentId))
  | some current => do
    let stamp : String ← call (.now i)
    call (.begin i)
    (write i x (current + 1) stamp).tryCatch (undo i)
    call (.auditAppend i "agent.version.published" (x.payload (current + 1)) x.changedBy x.agentId)
    pure (current + 1)

/-- **`publish_version`**. -/
def publishVersion (i : ι) (x : Publish) : Tx ι ℕ := do
  let row : Option ℕ ← call (.selectVersion i x.agentId)
  publishAfter i x row

/-- The arguments of `create_agent`. -/
structure Create where
  name : String
  ownerId : String
  approverId : Option String := none
  auditorId : Option String := none
  ontology : Fields := []
  modelCfg : Fields := []
  actor : Option String := none
  agentId : Option String := none

/-- `value or default`. -/
def orElse (value : Option String) (default : String) : String :=
  (value.filter (· ≠ "")).getD default

/-- `new_id("agt")`. -/
def newId (i : ι) : Tx ι String := call (.newId i)

/-- `agent_id or new_id("agt")`. -/
def idFor (i : ι) : Option String → Tx ι String
  | none => newId i
  | some id => if id = "" then newId i else pure id

/-- `create_agent`. -/
def createAgent (i : ι) (x : Create) : Tx ι String := do
  let aid : String ← idFor i x.agentId
  let jwk : Json ← call (.loadKey i aid)
  let stamp : String ← call (.now i)
  call (.insertAgent i ⟨aid, x.name, x.ownerId, orElse x.approverId x.ownerId,
    orElse x.auditorId x.ownerId, "active", JsonText.dumps jwk, 0, stamp, stamp⟩)
  call (.auditAppend i "agent.created" [("agent_id", .str aid), ("name", .str x.name),
    ("owner_id", .str x.ownerId), ("approver_id", .str (orElse x.approverId x.ownerId)),
    ("public_jwk", jwk)] (some (orElse x.actor x.ownerId)) aid)
  let _version : ℕ ← publishVersion i ⟨aid, x.ontology, x.modelCfg,
    some (orElse x.actor x.ownerId), "initial version"⟩
  pure aid

/-- A call of the registry. -/
inductive Request where
  | createAgent (x : Create)
  | publishVersion (x : Publish)

/-- What a call returns. -/
inductive Reply where
  | agent (id : String)
  | version (n : ℕ)

/-- One call. -/
def serve (i : ι) : Request → Tx ι Reply
  | .createAgent x => do
    let aid : String ← Versions.createAgent i x
    pure (.agent aid)
  | .publishVersion x => do
    let n : ℕ ← Versions.publishVersion i x
    pure (.version n)

/-- The calls on one connection, and what each has returned or raised. -/
def session (i : ι) : List Request → Tx ι (List (Except Err Reply))
  | [] => pure []
  | x :: xs => do
    let reply : Except Err Reply ← (serve i x).attempt
    let replies ← session i xs
    pure (reply :: replies)

end Statements

/-! ## The system -/

/-- What a connection has done: the version that it has read; the row that its open transaction has
inserted; whether it has moved the pointer. -/
structure Work where
  read : Option (String × ℕ) := none
  inserted : Option (String × ℕ) := none
  updated : Bool := false

/-- A connection whose transaction has ended. -/
def Work.ended (γ : Work) : Work := { γ with inserted := none, updated := false }

/-- After a call. -/
def Work.next (γ : Work) {ι : Type} : (op : Call ι) → Except Err (Res op) → Work
  | .selectVersion _ id, .ok (n : Option ℕ) => { γ with read := n.map fun n => (id, n) }
  | .insertVersion _ row, .ok _ => { γ with inserted := some (row.agentId, row.version) }
  | .updateCurrent .., .ok _ => { γ with updated := true }
  | .commit _, .ok _ => γ.ended
  | .commit _, .error .lost => γ.ended
  | .rollback _, _ => γ.ended
  | _, _ => γ

section System

variable (ι : Type) [DecidableEq ι]

/-- The connections. -/
def versionSystem : System ι (Call ι) Res Err (Tables ι) Work Outside where
  sem := sem
  adv _ γ _ op r := γ.next op r

variable {ι}

/-- The configurations of the connections. -/
abbrev Sessions (ι : Type) : Type :=
  Config ι (Call ι) Res Err (List (Except Err Reply)) (Tables ι) Work

/-- The start: empty tables, and each connection before its first call. -/
def versionStart (requests : ι → List Request) : Sessions ι where
  shared := ⟨fun _ => ⟨none, none⟩, fun _ => ⟨none, none⟩⟩
  prog i := session i (requests i)
  hist _ := {}

end System

/-- `current_version` of a row; an agent that does not exist has none. -/
def current (row : Option AgentRow) : ℕ := (row.map (·.currentVersion)).getD 0

/-- **The versions of an agent** are exactly those from one to the current one. -/
def Gapless {ι : Type} (s : Tables ι) (id : String) : Prop :=
  ∀ v, (s.versions (id, v)).row ≠ none ↔ 1 ≤ v ∧ v ≤ current (s.agents id).row

/-- What a step keeps: published versions stay as they are, and no current version is lowered. -/
structure Kept {ι : Type} (s s' : Tables ι) : Prop where
  versions : ∀ k r, (s.versions k).row = some r → (s'.versions k).row = some r
  current : ∀ id, current (s.agents id).row ≤ current (s'.agents id).row

/-- A connection that holds no row. -/
def HoldsNothing {ι : Type} (i : ι) (s : Tables ι) : Prop :=
  (∀ id x, (s.agents id).held ≠ some (i, x)) ∧ ∀ k x, (s.versions k).held ≠ some (i, x)

/-- **What a call may do**: both tables change at a `COMMIT`, but for a new agent; and a
transaction begins with nothing of an earlier one. -/
structure StepOk {ι : Type} (s : Tables ι) (i : ι) (op : Call ι) (s' : Tables ι) : Prop where
  kept : Kept s s'
  versions : op ≠ .commit i → ∀ k, (s'.versions k).row = (s.versions k).row
  agents : op ≠ .commit i → ∀ id, (s'.agents id).row = (s.agents id).row ∨
    (s.agents id).row = none ∧ ∃ r, op = .insertAgent i r ∧ r.id = id
  begins : op = .begin i → HoldsNothing i s

/-! ## The invariant -/

section Invariant

variable {ι : Type}

/-- **The rows of an agent** in the course of a run: who holds the row of a version holds the next
one, and who holds the agent is to move the pointer to it. -/
structure AgentOk (g : ι → Work) (id : String) (a : Cell ι (Option AgentRow))
    (v : ℕ → Cell ι (Option VersionRow)) : Prop where
  gapless : ∀ n, (v n).row ≠ none ↔ 1 ≤ n ∧ n ≤ current a.row
  version : ∀ i n x, (v n).held = some (i, x) → x ≠ none ∧ (g i).inserted = some (id, n) ∧
    a.row ≠ none ∧ n = current a.row + 1
  agent : ∀ i x, a.held = some (i, x) → x ≠ none ∧ (g i).updated = true ∧
    (g i).inserted = some (id, current x)
  inserted : ∀ i n, (g i).inserted = some (id, n) → ∃ x, (v n).held = some (i, x)
  updated : ∀ i n, (g i).inserted = some (id, n) → (g i).updated = true → ∃ x, a.held = some (i, x)
  read : ∀ i n, (g i).read = some (id, n) → a.row ≠ none ∧ n ≤ current a.row

/-- The invariant. -/
def VersionInv (g : ι → Work) (s : Tables ι) : Prop :=
  ∀ id, AgentOk g id (s.agents id) fun n => s.versions (id, n)

variable {g : ι → Work} {s : Tables ι} {i : ι} {γ : Work} {id : String}
  {a : Cell ι (Option AgentRow)} {v : ℕ → Cell ι (Option VersionRow)}

theorem AgentOk.agent_free (h : AgentOk g id a v) (hγ : (g i).updated = false)
    (x : Option AgentRow) : a.held ≠ some (i, x) := by
  intro hx
  rw [(h.agent i x hx).2.1] at hγ
  cases hγ

theorem AgentOk.version_free (h : AgentOk g id a v) (hγ : (g i).inserted = none) (n : ℕ)
    (x : Option VersionRow) : (v n).held ≠ some (i, x) := by
  intro hx
  rw [(h.version i n x hx).2.1] at hγ
  cases hγ

/-- Two connections do not hold versions of one agent. -/
theorem AgentOk.one (h : AgentOk g id a v) {j : ι} {m n : ℕ}
    (hi : (g i).inserted = some (id, m)) (hj : (g j).inserted = some (id, n)) : j = i := by
  obtain ⟨x, hx⟩ := h.inserted i m hi
  obtain ⟨y, hy⟩ := h.inserted j n hj
  have hm := (h.version i m x hx).2.2.2
  have hn := (h.version j n y hy).2.2.2
  rw [hm] at hx
  rw [hn, hx] at hy
  cases hy
  rfl

variable [DecidableEq ι]

/-- **An agent whose rows a connection does not write.** -/
theorem AgentOk.update (h : AgentOk g id a v)
    (hread : ∀ n, γ.read = some (id, n) → a.row ≠ none ∧ n ≤ current a.row)
    (hinserted : ∀ n, γ.inserted = some (id, n) ↔ (g i).inserted = some (id, n))
    (hupdated : ∀ n, (g i).inserted = some (id, n) → γ.updated = (g i).updated) :
    AgentOk (Function.update g i γ) id a v := by
  have hins : ∀ j n, (Function.update g i γ j).inserted = some (id, n) ↔
      (g j).inserted = some (id, n) := by
    intro j n
    by_cases hj : j = i
    · subst hj
      rw [Function.update_self]
      exact hinserted n
    · rw [Function.update_of_ne hj]
  have hupd : ∀ j n, (g j).inserted = some (id, n) →
      (Function.update g i γ j).updated = (g j).updated := by
    intro j n hn
    by_cases hj : j = i
    · subst hj
      rw [Function.update_self]
      exact hupdated n hn
    · rw [Function.update_of_ne hj]
  refine ⟨h.gapless, fun j n x hx => ?_, fun j x hx => ?_, fun j n hn => ?_, fun j n hn hu => ?_,
    fun j n hn => ?_⟩
  · obtain ⟨hne, hj, hrow, hnext⟩ := h.version j n x hx
    exact ⟨hne, (hins j n).2 hj, hrow, hnext⟩
  · obtain ⟨hne, hu, hj⟩ := h.agent j x hx
    exact ⟨hne, (hupd j _ hj).trans hu, (hins j _).2 hj⟩
  · exact h.inserted j n ((hins j n).1 hn)
  · have hj := (hins j n).1 hn
    exact h.updated j n hj ((hupd j n hj).symm.trans hu)
  · by_cases hj : j = i
    · subst hj
      rw [Function.update_self] at hn
      exact hread n hn
    · rw [Function.update_of_ne hj] at hn
      exact h.read j n hn

/-- Nothing of the connection is in a transaction. -/
structure Idle (γ : Work) : Prop where
  inserted : γ.inserted = none
  updated : γ.updated = false

/-- **The read of the current version.** -/
theorem VersionInv.read (h : VersionInv g s) (hi : Idle (g i)) :
    VersionInv (Function.update g i { g i with
      read := (((s.agents id).seen i).map (·.currentVersion)).map fun n => (id, n) }) s := by
  intro k
  refine (h k).update (fun n hn => ?_) (fun n => Iff.rfl) fun n _ => rfl
  have hseen := Cell.seen_of_not ((h id).agent_free hi.updated)
  rw [hseen] at hn
  cases hrow : (s.agents id).row with
  | none =>
    rw [hrow] at hn
    cases hn
  | some r =>
    rw [hrow] at hn
    obtain ⟨rfl, rfl⟩ := Prod.mk.inj (Option.some.inj hn)
    rw [hrow]
    exact ⟨Option.some_ne_none r, le_rfl⟩

omit [DecidableEq ι] in
/-- A row that nobody else holds, nor the connection. -/
theorem held_of_free {ρ : Type} {c : Cell ι ρ} (hfree : c.Free i)
    (hnot : ∀ x, c.held ≠ some (i, x)) : c.held = none := by
  cases hc : c.held with
  | none => rfl
  | some w =>
    obtain rfl : w.1 = i := hfree w hc
    exact absurd hc (hnot w.2)

/-- **The row of a version is inserted**: nothing has been published since the read. -/
theorem VersionInv.insert (h : VersionInv g s) (hi : Idle (g i)) {n : ℕ} {r : VersionRow}
    (hread : (g i).read = some (id, n)) (hfree : (s.versions (id, n + 1)).Free i)
    (hseen : (s.versions (id, n + 1)).seen i = none) :
    VersionInv (Function.update g i { g i with inserted := some (id, n + 1) })
      (s.putVersion (id, n + 1) ((s.versions (id, n + 1)).write i (some r))) := by
  intro k
  by_cases hk : k = id
  · subst hk
    have hk := h k
    have hnot := hk.version_free hi.inserted (n + 1)
    have hrow : (s.versions (k, n + 1)).row = none := (Cell.seen_of_not hnot).symm.trans hseen
    have hnone := held_of_free hfree hnot
    obtain ⟨hagent, hle⟩ := hk.read i n hread
    -- the number is free, so it is the next one
    have hnext : n + 1 = current (s.agents k).row + 1 := by
      by_contra hne
      exact (hk.gapless (n + 1)).2 ⟨by omega, by omega⟩ hrow
    have hcell : ∀ m, m ≠ n + 1 → Function.update s.versions (k, n + 1)
        ((s.versions (k, n + 1)).write i (some r)) (k, m) = s.versions (k, m) :=
      fun m hm => Function.update_of_ne (fun heq => hm (Prod.mk.inj heq).2) ..
    have hself : Function.update s.versions (k, n + 1)
        ((s.versions (k, n + 1)).write i (some r)) (k, n + 1) =
          (s.versions (k, n + 1)).write i (some r) := Function.update_self ..
    have hother : ∀ j m, j ≠ i → (g j).inserted ≠ some (k, m) := by
      intro j m hj hm
      obtain ⟨x, hx⟩ := hk.inserted j m hm
      have hm' := (hk.version j m x hx).2.2.2
      rw [← hnext] at hm'
      rw [hm', hnone] at hx
      cases hx
    show AgentOk _ k (s.agents k) fun m => Function.update s.versions (k, n + 1)
      ((s.versions (k, n + 1)).write i (some r)) (k, m)
    refine ⟨fun m => ?_, fun j m x hx => ?_, fun j x hx => ?_, fun j m hm => ?_, fun j m hm hu => ?_,
      fun j m hm => ?_⟩
    · by_cases hm : m = n + 1
      · subst hm
        rw [hself, Cell.row_write]
        exact hk.gapless (n + 1)
      · rw [hcell m hm]
        exact hk.gapless m
    · by_cases hm : m = n + 1
      · subst hm
        rw [hself, Cell.held_write] at hx
        obtain ⟨rfl, rfl⟩ := Prod.mk.inj (Option.some.inj hx)
        rw [Function.update_self]
        exact ⟨Option.some_ne_none r, rfl, hagent, hnext⟩
      · rw [hcell m hm] at hx
        have hm' := (hk.version j m x hx).2.2.2
        exact absurd (hm'.trans hnext.symm) hm
    · obtain ⟨hne, hu, hj⟩ := hk.agent j x hx
      by_cases hji : j = i
      · subst hji
        rw [hi.inserted] at hj
        cases hj
      · exact absurd hj (hother j _ hji)
    · by_cases hji : j = i
      · subst hji
        rw [Function.update_self] at hm
        obtain rfl := (Prod.mk.inj (Option.some.inj hm)).2
        rw [hself]
        exact ⟨_, rfl⟩
      · rw [Function.update_of_ne hji] at hm
        exact absurd hm (hother j m hji)
    · by_cases hji : j = i
      · subst hji
        rw [Function.update_self] at hu
        have hu : (g j).updated = true := hu
        rw [hi.updated] at hu
        cases hu
      · rw [Function.update_of_ne hji] at hm
        exact absurd hm (hother j m hji)
    · rw [update_same Work.read (g := g) (i := i)
        (γ := { g i with inserted := some (k, n + 1) }) rfl] at hm
      exact hk.read j m hm
  · have hcell : ∀ m, (s.putVersion (id, n + 1)
        ((s.versions (id, n + 1)).write i (some r))).versions (k, m) = s.versions (k, m) :=
      fun m => Function.update_of_ne (fun heq => hk (Prod.mk.inj heq).1) ..
    simp only [hcell]
    refine (h k).update (fun m hm => (h k).read i m hm) (fun m => ?_) fun m _ => rfl
    rw [hi.inserted]
    constructor
    · intro hm
      exact absurd (Prod.mk.inj (Option.some.inj hm)).1.symm hk
    · intro hm
      cases hm

/-- **The pointer is moved** to the version that the connection has inserted. -/
theorem VersionInv.update (h : VersionInv g s) {n : ℕ} {r' : AgentRow}
    (hinserted : (g i).inserted = some (id, n)) (hupdated : (g i).updated = false)
    (hfree : (s.agents id).Free i) (hversion : r'.currentVersion = n) :
    VersionInv (Function.update g i { g i with updated := true })
      (s.putAgent id ((s.agents id).write i (some r'))) := by
  intro k
  have hread := update_same Work.read (g := g) (i := i) (γ := { g i with updated := true }) rfl
  have hins := update_same Work.inserted (g := g) (i := i) (γ := { g i with updated := true }) rfl
  by_cases hk : k = id
  · subst hk
    have hk := h k
    have hnone := held_of_free hfree (hk.agent_free hupdated)
    have hself : (s.putAgent k ((s.agents k).write i (some r'))).agents k =
        (s.agents k).write i (some r') := Function.update_self ..
    rw [hself]
    refine ⟨hk.gapless, fun j m x hx => ?_, fun j x hx => ?_, fun j m hm => ?_, fun j m hm hu => ?_,
      fun j m hm => ?_⟩
    · rw [hins]
      exact hk.version j m x hx
    · rw [Cell.held_write] at hx
      obtain ⟨rfl, rfl⟩ := Prod.mk.inj (Option.some.inj hx)
      rw [hins, Function.update_self]
      refine ⟨Option.some_ne_none r', rfl, hinserted.trans ?_⟩
      rw [← hversion]
      rfl
    · rw [hins] at hm
      exact hk.inserted j m hm
    · rw [hins] at hm
      obtain rfl := hk.one hinserted hm
      exact ⟨_, rfl⟩
    · rw [hread] at hm
      exact hk.read j m hm
  · have hcell : (s.putAgent id ((s.agents id).write i (some r'))).agents k = s.agents k :=
      Function.update_of_ne hk ..
    rw [hcell]
    refine (h k).update (fun m hm => (h k).read i m hm) (fun m => Iff.rfl) fun m hm => ?_
    rw [hinserted] at hm
    exact absurd (Prod.mk.inj (Option.some.inj hm)).1.symm hk

/-- **An agent is created**, without versions. -/
theorem VersionInv.create (h : VersionInv g s) (hi : Idle (g i)) {r : AgentRow}
    (hseen : (s.agents r.id).seen i = none)
    (hzero : r.currentVersion = 0) :
    VersionInv g (s.putAgent r.id (((s.agents r.id).write i (some r)).commit i)) := by
  intro k
  by_cases hk : k = r.id
  · subst hk
    have hk := h r.id
    have hnot := hk.agent_free hi.updated
    have hrow : (s.agents r.id).row = none := (Cell.seen_of_not hnot).symm.trans hseen
    have hself : (s.putAgent r.id (((s.agents r.id).write i (some r)).commit i)).agents r.id =
        ⟨some r, none⟩ := by
      rw [Tables.putAgent, Cell.commit_of_held (Cell.held_write (i := i) (v := some r))]
      exact Function.update_self ..
    have hcurrent : current (some r) = current (s.agents r.id).row := by
      rw [hrow]
      exact hzero
    rw [hself]
    refine ⟨fun m => ?_, fun j m x hx => ?_, fun j x hx => (by cases hx), fun j m hm => ?_,
      fun j m hm hu => ?_, fun j m hm => ?_⟩
    · dsimp only
      rw [hcurrent]
      exact hk.gapless m
    · exact absurd hrow (hk.version j m x hx).2.2.1
    · exact hk.inserted j m hm
    · obtain ⟨x, hx⟩ := hk.inserted j m hm
      exact absurd hrow (hk.version j m x hx).2.2.1
    · exact absurd hrow (hk.read j m hm).1
  · have hcell : (s.putAgent r.id (((s.agents r.id).write i (some r)).commit i)).agents k =
        s.agents k := Function.update_of_ne hk ..
    rw [hcell]
    exact h k

/-- **A commit** of the next version, with the pointer to it. -/
theorem VersionInv.commit (h : VersionInv g s)
    (hboth : (g i).inserted ≠ none → (g i).updated = true) :
    VersionInv (Function.update g i (g i).ended) (committed i s) := by
  intro k
  have hk := h k
  have hread := update_same Work.read (g := g) (i := i) (γ := (g i).ended) rfl
  have hended : ∀ j m, (Function.update g i (g i).ended j).inserted = some (k, m) →
      j ≠ i ∧ (g j).inserted = some (k, m) := by
    intro j m hm
    by_cases hj : j = i
    · subst hj
      rw [Function.update_self] at hm
      cases hm
    · rw [Function.update_of_ne hj] at hm
      exact ⟨hj, hm⟩
  show AgentOk _ k ((s.agents k).commit i) fun m => (s.versions (k, m)).commit i
  by_cases hmine : ∃ n, (g i).inserted = some (k, n)
  · obtain ⟨n, hn⟩ := hmine
    obtain ⟨x, hx⟩ := hk.inserted i n hn
    obtain ⟨hxne, -, hrow, hnext⟩ := hk.version i n x hx
    obtain ⟨y, hy⟩ := hk.updated i n hn (hboth (by rw [hn]; exact Option.some_ne_none _))
    obtain ⟨hyne, -, hy'⟩ := hk.agent i y hy
    have hcurrent : current y = n := (Prod.mk.inj (Option.some.inj (hy'.symm.trans hn))).2
    have hother : ∀ m, m ≠ n → (s.versions (k, m)).held = none := by
      intro m hm
      cases hheld : (s.versions (k, m)).held with
      | none => rfl
      | some w =>
        have hm' := (hk.version w.1 m w.2 hheld).2.2.2
        exact absurd (hm'.trans hnext.symm) hm
    have hkeep : ∀ m, m ≠ n → (s.versions (k, m)).commit i = s.versions (k, m) := by
      intro m hm
      refine Cell.commit_of_not fun u hu => ?_
      rw [hother m hm] at hu
      cases hu
    have hnobody : ∀ j m, j ≠ i → (g j).inserted ≠ some (k, m) := fun j m hj hm => hj (hk.one hn hm)
    rw [Cell.commit_of_held hy]
    refine ⟨fun m => ?_, fun j m z hz => ?_, fun j z hz => (by cases hz), fun j m hm => ?_,
      fun j m hm hu => ?_, fun j m hm => ?_⟩
    · by_cases hm : m = n
      · subst hm
        rw [Cell.commit_of_held hx]
        simp only [hcurrent]
        exact ⟨fun _ => ⟨by omega, le_rfl⟩, fun _ => hxne⟩
      · rw [hkeep m hm, hk.gapless m]
        simp only [hcurrent]
        omega
    · by_cases hm : m = n
      · subst hm
        rw [Cell.commit_of_held hx] at hz
        cases hz
      · rw [hkeep m hm, hother m hm] at hz
        cases hz
    · obtain ⟨hj, hm⟩ := hended j m hm
      exact absurd hm (hnobody j m hj)
    · obtain ⟨hj, hm⟩ := hended j m hm
      exact absurd hm (hnobody j m hj)
    · rw [hread] at hm
      obtain ⟨-, hle⟩ := hk.read j m hm
      simp only [hcurrent]
      exact ⟨hyne, by omega⟩
  · have hversion : ∀ m, (s.versions (k, m)).commit i = s.versions (k, m) := by
      refine fun m => Cell.commit_of_not fun u hu => hmine ⟨m, (hk.version i m u hu).2.1⟩
    have hagent : (s.agents k).commit i = s.agents k :=
      Cell.commit_of_not fun u hu => hmine ⟨_, (hk.agent i u hu).2.2⟩
    simp only [hversion, hagent]
    refine hk.update (fun m hm => hk.read i m hm) (fun m => ?_) fun m hm => absurd ⟨m, hm⟩ hmine
    exact ⟨fun hm => (by cases hm), fun hm => absurd ⟨m, hm⟩ hmine⟩

/-- **A rollback.** -/
theorem VersionInv.rollback (h : VersionInv g s) :
    VersionInv (Function.update g i (g i).ended) (rolledBack i s) := by
  intro k
  have hk := h k
  have hread := update_same Work.read (g := g) (i := i) (γ := (g i).ended) rfl
  have hended : ∀ j m, (Function.update g i (g i).ended j).inserted = some (k, m) →
      j ≠ i ∧ (g j).inserted = some (k, m) := by
    intro j m hm
    by_cases hj : j = i
    · subst hj
      rw [Function.update_self] at hm
      cases hm
    · rw [Function.update_of_ne hj] at hm
      exact ⟨hj, hm⟩
  show AgentOk _ k ((s.agents k).rollback i) fun m => (s.versions (k, m)).rollback i
  refine ⟨fun m => ?_, fun j m x hx => ?_, fun j x hx => ?_, fun j m hm => ?_, fun j m hm hu => ?_,
    fun j m hm => ?_⟩
  · rw [Cell.row_rollback, Cell.row_rollback]
    exact hk.gapless m
  · have hj : j ≠ i := by
      rintro rfl
      exact Cell.not_held_rollback hx
    rw [Cell.row_rollback, Function.update_of_ne hj]
    exact hk.version j m x ((Cell.held_rollback_iff hj).1 hx)
  · have hj : j ≠ i := by
      rintro rfl
      exact Cell.not_held_rollback hx
    rw [Function.update_of_ne hj]
    exact hk.agent j x ((Cell.held_rollback_iff hj).1 hx)
  · obtain ⟨hj, hm⟩ := hended j m hm
    obtain ⟨x, hx⟩ := hk.inserted j m hm
    exact ⟨x, Cell.held_rollback_ne hj hx⟩
  · obtain ⟨hj, hm⟩ := hended j m hm
    rw [Function.update_of_ne hj] at hu
    obtain ⟨x, hx⟩ := hk.updated j m hm hu
    exact ⟨x, Cell.held_rollback_ne hj hx⟩
  · rw [hread] at hm
    rw [Cell.row_rollback]
    exact hk.read j m hm

/-! ## What a call may do -/

omit [DecidableEq ι] in
/-- A call that changes no committed row. -/
theorem stepOk_of_rows {s' : Tables ι} {op : Call ι}
    (hagents : ∀ id, (s'.agents id).row = (s.agents id).row)
    (hversions : ∀ k, (s'.versions k).row = (s.versions k).row)
    (hbegins : op = .begin i → HoldsNothing i s) : StepOk s i op s' where
  kept := ⟨fun k r hr => (hversions k).trans hr, fun id => by rw [hagents id]⟩
  versions _ := hversions
  agents _ id := .inl (hagents id)
  begins := hbegins

omit [DecidableEq ι] in
theorem VersionInv.holdsNothing (h : VersionInv g s) (hi : Idle (g i)) : HoldsNothing i s :=
  ⟨fun id => (h id).agent_free hi.updated, fun k => (h k.1).version_free hi.inserted k.2⟩

omit [DecidableEq ι] in
theorem stepOk_putVersion {op : Call ι} {k : String × ℕ} {r : VersionRow} (hop : op ≠ .begin i) :
    StepOk s i op (s.putVersion k ((s.versions k).write i (some r))) := by
  refine stepOk_of_rows (fun _ => rfl) (fun k' => ?_) fun h => absurd h hop
  by_cases hk : k' = k
  · subst hk
    show (Function.update s.versions k' _ k').row = _
    rw [Function.update_self, Cell.row_write]
  · show (Function.update s.versions k _ k').row = _
    rw [Function.update_of_ne hk]

omit [DecidableEq ι] in
theorem stepOk_putAgent {op : Call ι} {r : AgentRow} (hop : op ≠ .begin i) :
    StepOk s i op (s.putAgent id ((s.agents id).write i (some r))) := by
  refine stepOk_of_rows (fun id' => ?_) (fun _ => rfl) fun h => absurd h hop
  by_cases hk : id' = id
  · subst hk
    show (Function.update s.agents id' _ id').row = _
    rw [Function.update_self, Cell.row_write]
  · show (Function.update s.agents id _ id').row = _
    rw [Function.update_of_ne hk]

/-- **A new agent** changes no other row. -/
theorem stepOk_create {r : AgentRow} (hrow : (s.agents r.id).row = none) :
    StepOk s i (.insertAgent i r)
      (s.putAgent r.id (((s.agents r.id).write i (some r)).commit i)) := by
  have hother : ∀ id, id ≠ r.id →
      (s.putAgent r.id (((s.agents r.id).write i (some r)).commit i)).agents id = s.agents id :=
    fun id hid => Function.update_of_ne hid ..
  refine ⟨⟨fun _ _ hr => hr, fun id => ?_⟩, fun _ _ => rfl, fun _ id => ?_, fun h => (by cases h)⟩
  · by_cases hid : id = r.id
    · rw [hid, hrow]
      exact Nat.zero_le _
    · rw [hother id hid]
  · by_cases hid : id = r.id
    · exact .inr ⟨hid ▸ hrow, r, rfl, hid.symm⟩
    · exact .inl (by rw [hother id hid])

/-- **A commit** publishes a version that did not exist, and raises the pointer to it. -/
theorem VersionInv.stepOk_commit (h : VersionInv g s) :
    StepOk s i (.commit i) (committed i s) := by
  refine ⟨⟨fun k r hr => ?_, fun id => ?_⟩, fun hne => absurd rfl hne, fun hne => absurd rfl hne,
    fun heq => (by cases heq)⟩
  · show ((s.versions k).commit i).row = some r
    rcases (s.versions k).held_or_not i with ⟨v, hv⟩ | hnot
    · obtain ⟨-, -, -, hnext⟩ := (h k.1).version i k.2 v hv
      have hle := (((h k.1).gapless k.2).1 (by rw [hr]; exact Option.some_ne_none r)).2
      omega
    · rw [Cell.commit_of_not hnot, hr]
  · show current (s.agents id).row ≤ current ((s.agents id).commit i).row
    rcases (s.agents id).held_or_not i with ⟨v, hv⟩ | hnot
    · rw [Cell.commit_of_held hv]
      obtain ⟨-, -, hinserted⟩ := (h id).agent i v hv
      obtain ⟨x, hx⟩ := (h id).inserted i _ hinserted
      have hnext := ((h id).version i _ x hx).2.2.2
      dsimp only
      omega
    · rw [Cell.commit_of_not hnot]

/-! ## Calls -/

/-- The specification of the connections. -/
def versionSpec (ι : Type) : Spec ι (Call ι) Res Err (Tables ι) Work where
  inv := VersionInv
  ok _ _ _ _ := True
  prop _ s i op _ s' := StepOk s i op s'

/-- A part of a call keeps the invariant, and ends as it says. -/
abbrev Runs {α : Type} (i : ι) (Q : Except Err α → Work → Prop) (p : Tx ι α) (γ : Work) : Prop :=
  Outline (versionSystem ι) (versionSpec ι) i Q p γ

/-- A connection between two transactions, however a part of a call has ended. -/
abbrev AtRest {α : Type} (_ : Except Err α) (γ : Work) : Prop := Idle γ

theorem rest_bind {α β : Type} {A : Except Err α → Work → Prop} {p : Tx ι α} {f : α → Tx ι β}
    (hp : Runs i A p γ) (hf : ∀ a γ', A (.ok a) γ' → Runs i AtRest (f a) γ')
    (herr : ∀ x γ', A (.error x) γ' → Idle γ') : Runs i AtRest (p.bind f) γ :=
  outline_bind hp hf herr

/-- **One call** outside of `COMMIT` and `ROLLBACK`: it raises without an effect, or it does what it
does. -/
theorem call_runs {op : Call ι} {Q : Except Err (Res op) → Work → Prop}
    (hleaves : ∀ x (s : Tables ι), leaves x op s = s) (hnext : ∀ x, γ.next op (.error x) = γ)
    (hbegins : op = .begin i → Idle γ) (hraised : ∀ x, Q (.error x) γ)
    (h : ∀ e g s, g i = γ → VersionInv g s →
      (∃ x, exec e op s = (.error x, s)) ∨ ∃ a s', exec e op s = (.ok a, s') ∧
        VersionInv (Function.update g i (γ.next op (.ok a))) s' ∧ StepOk s i op s' ∧
          Q (.ok a) (γ.next op (.ok a))) :
    Runs i Q (call op) γ := by
  refine outline_perform_eq fun g s e hg hinv _ => ?_
  have hraise : ∀ x, sem e op s = (.error x, s) →
      ∃ r s' γ', (versionSystem ι).sem e op s = (r, s') ∧ (versionSystem ι).adv i γ s op r = γ' ∧
        VersionInv (Function.update g i γ') s' ∧ StepOk s i op s' ∧ Q r γ' := by
    intro x hx
    refine ⟨_, _, γ, hx, hnext x, ?_, stepOk_of_rows (fun _ => rfl) (fun _ => rfl) fun hop => ?_,
      hraised x⟩
    · rw [← hg, Function.update_eq_self]
      exact hinv
    · exact hinv.holdsNothing (hg ▸ hbegins hop)
  cases he : e.raises with
  | some x =>
    refine hraise x ?_
    rw [sem, he]
    exact Prod.ext rfl (hleaves x s)
  | none =>
    have hsem : sem e op s = exec e op s := by rw [sem, he]
    rcases h e g s hg hinv with ⟨x, hx⟩ | ⟨a, s', ha, hinv', hstep, hQ⟩
    · exact hraise x (hsem.trans hx)
    · exact ⟨_, _, _, hsem.trans ha, rfl, hinv', hstep, hQ⟩

/-- A call that reads nothing of the tables. -/
theorem quiet_runs {op : Call ι} (hi : Idle γ) (hleaves : ∀ x (s : Tables ι), leaves x op s = s)
    (hnext : ∀ r, γ.next op r = γ) (hexec : ∀ e (s : Tables ι), ∃ a, exec e op s = (.ok a, s)) :
    Runs i (fun _ γ' => γ' = γ) (call op) γ := by
  refine call_runs hleaves (fun x => hnext _) (fun _ => hi) (fun _ => rfl) fun e g s hg hinv => ?_
  subst hg
  obtain ⟨a, ha⟩ := hexec e s
  refine .inr ⟨a, s, ha, ?_, stepOk_of_rows (fun _ => rfl) (fun _ => rfl) fun _ =>
    hinv.holdsNothing hi, hnext _⟩
  rw [hnext, Function.update_eq_self]
  exact hinv

/-- The read of the current version, which keeps the transaction of the connection as it is. -/
theorem select_runs (hi : Idle γ) :
    Runs i (fun r γ' => Idle γ' ∧ ∀ n, r = .ok (some n) → γ'.read = some (id, n))
      (call (.selectVersion i id)) γ := by
  refine call_runs (fun _ _ => rfl) (fun _ => rfl) (fun h => (by cases h))
    (fun x => ⟨hi, fun n h => (by cases h)⟩) fun e g s hg hinv => ?_
  subst hg
  refine .inr ⟨_, s, rfl, hinv.read hi, stepOk_of_rows (fun _ => rfl) (fun _ => rfl)
    fun h => (by cases h), ⟨hi.inserted, hi.updated⟩, fun n hn => ?_⟩
  have hn : ((s.agents id).seen i).map (·.currentVersion) = some n := Except.ok.inj hn
  show (((s.agents id).seen i).map (·.currentVersion)).map (fun n => (id, n)) = some (id, n)
  rw [hn]
  rfl

/-- **A new agent.** -/
theorem insertAgent_runs {r : AgentRow} (hi : Idle γ) (hzero : r.currentVersion = 0) :
    Runs i AtRest (call (.insertAgent i r)) γ := by
  refine call_runs (fun _ _ => rfl) (fun _ => rfl) (fun h => (by cases h)) (fun _ => hi)
    fun e g s hg hinv => ?_
  subst hg
  rw [exec]
  by_cases hfree : (s.agents r.id).Free i
  · rw [if_neg (not_not.2 hfree)]
    by_cases htaken : ((s.agents r.id).seen i).isSome
    · rw [if_pos htaken]
      exact .inl ⟨_, rfl⟩
    · rw [if_neg htaken]
      have hseen : (s.agents r.id).seen i = none := by simpa using htaken
      have hrow : (s.agents r.id).row = none :=
        (Cell.seen_of_not ((hinv r.id).agent_free hi.updated)).symm.trans hseen
      refine .inr ⟨(), _, rfl, ?_, stepOk_create hrow, hi⟩
      show VersionInv (Function.update g i (g i)) _
      rw [Function.update_eq_self]
      exact hinv.create hi hseen hzero
  · rw [if_pos hfree]
    exact .inl ⟨_, rfl⟩

/-- **The row of the next version.** -/
theorem insertVersion_runs {n : ℕ} {r : VersionRow} (hi : Idle γ)
    (hread : γ.read = some (r.agentId, n)) (hversion : r.version = n + 1) :
    Runs i (onOk fun _ γ' => γ'.inserted = some (r.agentId, n + 1) ∧ γ'.updated = false)
      (call (.insertVersion i r)) γ := by
  refine call_runs (fun _ _ => rfl) (fun _ => rfl) (fun h => (by cases h)) (fun _ => trivial)
    fun e g s hg hinv => ?_
  subst hg
  rw [exec, hversion]
  by_cases hfree : (s.versions (r.agentId, n + 1)).Free i
  · rw [if_neg (not_not.2 hfree)]
    by_cases htaken : ((s.versions (r.agentId, n + 1)).seen i).isSome
    · rw [if_pos htaken]
      exact .inl ⟨_, rfl⟩
    · rw [if_neg htaken]
      have hseen : (s.versions (r.agentId, n + 1)).seen i = none := by simpa using htaken
      refine .inr ⟨(), _, rfl, ?_, stepOk_putVersion fun h => (by cases h), ?_, hi.updated⟩
      · show VersionInv (Function.update g i
          { g i with inserted := some (r.agentId, r.version) }) _
        rw [hversion]
        exact hinv.insert hi hread hfree hseen
      · show some (r.agentId, r.version) = _
        rw [hversion]
  · rw [if_pos hfree]
    exact .inl ⟨_, rfl⟩

/-- **The pointer to the row that was inserted.** -/
theorem updateCurrent_runs {n : ℕ} {stamp : String} (hinserted : γ.inserted = some (id, n))
    (hupdated : γ.updated = false) :
    Runs i (onOk fun _ γ' => γ'.updated = true) (call (.updateCurrent i id n stamp)) γ := by
  refine call_runs (fun _ _ => rfl) (fun _ => rfl) (fun h => (by cases h)) (fun _ => trivial)
    fun e g s hg hinv => ?_
  subst hg
  -- the connection holds a version of the agent, so the agent exists
  obtain ⟨x, hx⟩ := (hinv id).inserted i n hinserted
  have hagent := ((hinv id).version i n x hx).2.2.1
  have hseen := Cell.seen_of_not ((hinv id).agent_free hupdated)
  obtain ⟨row, hrow⟩ := Option.ne_none_iff_exists'.1 hagent
  rw [exec, hseen, hrow]
  dsimp only
  by_cases hfree : (s.agents id).Free i
  · rw [if_pos hfree]
    exact .inr ⟨(), _, rfl, hinv.update hinserted hupdated hfree rfl,
      stepOk_putAgent fun h => (by cases h), rfl⟩
  · rw [if_neg hfree]
    exact .inl ⟨_, rfl⟩

/-- **`COMMIT`**, whether its answer arrives or not. -/
theorem commit_runs (hboth : γ.inserted ≠ none → γ.updated = true) :
    Runs i (onOk fun _ γ' => Idle γ') (call (.commit i)) γ := by
  refine outline_perform_eq fun g s e hg hinv _ => ?_
  subst hg
  have hdone : ∀ r : Except Err Unit, (g i).next (Call.commit i) r = (g i).ended →
      sem e (.commit i) s = (r, committed i s) →
      ∃ r s' γ', (versionSystem ι).sem e (.commit i) s = (r, s') ∧
        (versionSystem ι).adv i (g i) s (.commit i) r = γ' ∧
        VersionInv (Function.update g i γ') s' ∧ StepOk s i (.commit i) s' ∧
          onOk (fun _ γ' => Idle γ') r γ' := by
    intro r hr hsem
    refine ⟨r, _, _, hsem, hr, hinv.commit hboth, hinv.stepOk_commit, ?_⟩
    cases r with
    | ok a => exact ⟨rfl, rfl⟩
    | error x => trivial
  cases he : e.raises with
  | none =>
    refine hdone (.ok ()) rfl ?_
    rw [sem, he]
    rfl
  | some x =>
    by_cases hx : x = .lost
    · subst hx
      refine hdone (.error .lost) rfl ?_
      rw [sem, he]
      rfl
    · refine ⟨.error x, s, g i, ?_, ?_, ?_, stepOk_of_rows (fun _ => rfl) (fun _ => rfl)
        fun h => (by cases h), trivial⟩
      · show sem e (.commit i) s = _
        rw [sem, he]
        exact Prod.ext rfl (if_neg hx)
      · show (g i).next (Call.commit i) (.error x) = g i
        cases x with
        | lost => exact absurd rfl hx
        | _ => rfl
      · rw [Function.update_eq_self]
        exact hinv

/-- **`ROLLBACK`** ends the transaction, whether it raises or not. -/
theorem rollback_runs (γ : Work) : Runs i AtRest (call (.rollback i)) γ := by
  refine outline_perform_eq fun g s e hg hinv _ => ?_
  subst hg
  have hsem : ∃ r, sem e (.rollback i) s = (r, rolledBack i s) := by
    rw [sem]
    cases e.raises with
    | none => exact ⟨_, rfl⟩
    | some x => exact ⟨_, rfl⟩
  obtain ⟨r, hr⟩ := hsem
  have hnext : (g i).next (Call.rollback i) r = (g i).ended := by cases r <;> rfl
  exact ⟨r, _, _, hr, hnext, hinv.rollback, stepOk_of_rows (fun _ => Cell.row_rollback)
    (fun _ => Cell.row_rollback) fun h => (by cases h), rfl, rfl⟩

/-! ## The registry -/

/-- **The transaction**: at its end both rows are committed, or neither. -/
theorem write_runs {x : Publish} {n : ℕ} {stamp : String} (hi : Idle γ)
    (hread : γ.read = some (x.agentId, n)) :
    Runs i (onOk fun _ γ' => Idle γ') (write i x (n + 1) stamp) γ := by
  refine outline_bind_ok (insertVersion_runs (r := x.row (n + 1) stamp) hi hread rfl) ?_
  rintro - γ₁ ⟨hinserted, hupdated⟩
  refine outline_bind_ok (updateCurrent_runs hinserted hupdated) ?_
  rintro - γ₂ hupdated
  exact commit_runs fun _ => hupdated

/-- After the `except` nothing is left. -/
theorem undo_runs (x : Err) (γ : Work) : Runs i AtRest (undo i x) γ :=
  rest_bind (rollback_runs γ) (fun _ _ h => h) fun _ _ h => h

/-- **`publish_version`** leaves no transaction open. -/
theorem publishVersion_runs (x : Publish) (hi : Idle γ) :
    Runs i AtRest (publishVersion i x) γ := by
  refine rest_bind (select_runs hi) ?_ fun _ _ h => h.1
  rintro row γ₁ ⟨hi₁, hread⟩
  cases row with
  | none => exact hi₁
  | some n =>
    refine rest_bind (quiet_runs hi₁ (fun _ _ => rfl) (fun r => by cases r <;> rfl)
      fun _ _ => ⟨_, rfl⟩) ?_ fun _ _ h => h ▸ hi₁
    rintro stamp _ rfl
    refine rest_bind (quiet_runs hi₁ (fun _ _ => rfl) (fun r => by cases r <;> rfl)
      fun _ _ => ⟨_, rfl⟩) ?_ fun _ _ h => h ▸ hi₁
    rintro - _ rfl
    refine rest_bind (A := AtRest) (outline_tryCatch (write_runs hi₁ (hread n rfl))
      (fun _ _ h => h) fun e γ₂ _ => undo_runs e γ₂) ?_ fun _ _ h => h
    intro _ γ₂ hi₂
    refine rest_bind (quiet_runs hi₂ (fun _ _ => rfl) (fun r => by cases r <;> rfl)
      fun _ _ => ⟨_, rfl⟩) ?_ fun _ _ h => h ▸ hi₂
    rintro - _ rfl
    exact hi₂

/-- **`create_agent`**, a new agent and its first version. -/
theorem createAgent_runs (x : Create) (hi : Idle γ) : Runs i AtRest (createAgent i x) γ := by
  have hid : ∀ given, Runs i (fun _ γ' => γ' = γ) (idFor i given) γ := by
    intro given
    have hnew : Runs i (fun _ γ' => γ' = γ) (newId i) γ :=
      quiet_runs hi (fun _ _ => rfl) (fun r => by cases r <;> rfl) fun _ _ => ⟨_, rfl⟩
    cases given with
    | none => exact hnew
    | some id =>
      rw [idFor]
      split_ifs
      · exact hnew
      · exact rfl
  refine rest_bind (hid x.agentId) ?_ fun _ _ h => h ▸ hi
  rintro aid _ rfl
  refine rest_bind (quiet_runs hi (fun _ _ => rfl) (fun r => by cases r <;> rfl)
    fun _ _ => ⟨_, rfl⟩) ?_ fun _ _ h => h ▸ hi
  rintro jwk _ rfl
  refine rest_bind (quiet_runs hi (fun _ _ => rfl) (fun r => by cases r <;> rfl)
    fun _ _ => ⟨_, rfl⟩) ?_ fun _ _ h => h ▸ hi
  rintro stamp _ rfl
  refine rest_bind (insertAgent_runs hi rfl) ?_ fun _ _ h => h
  intro _ γ₁ hi₁
  refine rest_bind (quiet_runs hi₁ (fun _ _ => rfl) (fun r => by cases r <;> rfl)
    fun _ _ => ⟨_, rfl⟩) ?_ fun _ _ h => h ▸ hi₁
  rintro - _ rfl
  exact rest_bind (publishVersion_runs _ hi₁) (fun _ _ h => h) fun _ _ h => h

theorem serve_runs (x : Request) (hi : Idle γ) : Runs i AtRest (serve i x) γ := by
  cases x with
  | createAgent x => exact rest_bind (createAgent_runs x hi) (fun _ _ h => h) fun _ _ h => h
  | publishVersion x => exact rest_bind (publishVersion_runs x hi) (fun _ _ h => h) fun _ _ h => h

/-- **A connection** is at rest between its calls, whatever they raise. -/
theorem session_runs (xs : List Request) (hi : Idle γ) : Runs i AtRest (session i xs) γ := by
  induction xs generalizing γ with
  | nil => exact hi
  | cons x xs ih =>
    refine rest_bind (outline_attempt (serve_runs x hi)) ?_ ?_
    · rintro reply γ₁ ⟨_, -, hi₁⟩
      exact rest_bind (ih hi₁) (fun _ _ h => h) fun _ _ h => h
    · rintro e γ₁ ⟨_, -, hi₁⟩
      exact hi₁

/-! ## Runs -/

theorem versionStart_outlined (requests : ι → List Request) :
    Outlined (versionSystem ι) (versionSpec ι) (fun _ => AtRest) (versionStart requests) where
  inv id := by
    refine ⟨fun n => ⟨fun h => absurd rfl h, fun h => ?_⟩, fun i n x h => (by cases h),
      fun i x h => (by cases h), fun i n h => (by cases h), fun i n h => (by cases h),
      fun i n h => (by cases h)⟩
    have hzero : n ≤ 0 := h.2
    omega
  outline i := session_runs (requests i) ⟨rfl, rfl⟩

/-- **Versions are gapless.** In every run of any calls on any connections, from empty tables: the
versions of each agent are those from one to its current one; no step changes a published version
or lowers a current one; and a call that makes no `COMMIT` leaves the rows as they were, with
nothing for a later transaction to commit. -/
theorem versions_gapless (requests : ι → List Request) (xs : List (ι × Outside)) :
    (versionSystem ι).Along (fun c i e => ∀ op, (c.prog i).next = some op →
      StepOk c.shared i op ((versionSystem ι).step c i e).shared) (versionStart requests) xs ∧
    ∀ id, Gapless ((versionSystem ι).run (versionStart requests) xs).shared id := by
  have hok : (versionSystem ι).Along (versionSpec ι).Ok (versionStart requests) xs :=
    (versionSystem ι).along_of_forall (fun _ _ _ _ _ => trivial) _ _
  obtain ⟨hprop, hend⟩ := outline_run (versionStart_outlined requests) hok
  refine ⟨(versionSystem ι).along_mono (fun c i e h op hop => ?_) hprop,
    fun id => (hend.inv id).gapless⟩
  have hstep : ((versionSystem ι).step c i e).shared = (sem e op c.shared).2 := by
    cases hp : c.prog i with
    | ret a => simp [hp, Prog.next] at hop
    | raise x => simp [hp, Prog.next] at hop
    | call op' next =>
      rw [hp] at hop
      obtain rfl : op' = op := Option.some.inj hop
      simp only [System.step, hp]
      rfl
  rw [hstep]
  exact h op hop

end Invariant

end TryTrust.Agent.Versions
