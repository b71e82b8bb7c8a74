import TryTrust.Conc.Cell
import TryTrust.Conc.Transaction
import TryTrust.Yuno.Settlement

/-!
# Concurrent exchanges of setup tokens

`approve_setup_token` and `exchange`, each request one transaction, and any number of them at once.

* `Rows`, `Call`, `exec`, `sem`: the statements; a statement that waits for a lock in vain raises;
* `approveSetupToken`, `exchange`, `answer`;
* `Work`: what a request has marked, and what it used for good; `RowOk`, `VaultInv`;
* `answer_outline`: a request keeps the invariant, and returns a token when it used a setup token;
* `ExchangedOnce`, `Fresh`; **`exchanged_once`**: setup tokens are exchanged once as long as every
  exchange commits to a row that nobody has exchanged yet; **`exchanged_twice`**.
-/

namespace TryTrust.Yuno.Vault

open Conc

/-! ## Statements -/

/-- The rows of both tables, by their primary keys. -/
structure Rows (ι : Type) where
  setups : String → Cell ι (Option SetupToken)
  tokens : String → Cell ι (Option PaymentToken)

/-- A call of a session. -/
inductive Call (ι : Type) where
  /-- `session.get`. -/
  | get (i : ι) (setupTokenId : String)
  /-- The guarded `UPDATE` of `approve_setup_token`, `RETURNING` the id. -/
  | updateApproved (i : ι) (setupTokenId : String)
  /-- The `UPDATE` of `exchange`. -/
  | updateExchanged (i : ι) (setupTokenId : String)
  /-- The flush of the new row. -/
  | insertToken (i : ι) (token : PaymentToken)
  | commit (i : ι)
  | rollback (i : ι)
  deriving DecidableEq

/-- The answer of a call. -/
def Res {ι : Type} : Call ι → Type
  | .get .. => Option SetupToken
  | .updateApproved .. => Option String
  | _ => Unit

/-- The exceptions. -/
inductive Err where
  /-- `VaultError`. -/
  | vault (message : String)
  /-- Any other exception. -/
  | failure (message : String)
  deriving DecidableEq

/-- The exception that the next call raises, if any. -/
structure Env where
  raises : Option String := none

/-- A program of a session. -/
abbrev Tx (ι α : Type) : Type := Prog (Call ι) Res Err α

/-- The status of a row, if there is one. -/
def statusOf (row : Option SetupToken) : Option SetupStatus := row.map (·.status)

/-- A row with another status. -/
def withStatus (status : SetupStatus) (row : Option SetupToken) : Option SetupToken :=
  row.map fun r => { r with status }

section Statements

variable {ι : Type} [DecidableEq ι]

/-- Write the row of a setup token, and hold it. -/
def Rows.mark (i : ι) (id : String) (status : SetupStatus) (s : Rows ι) : Rows ι :=
  { s with
    setups := Function.update s.setups id
      ((s.setups id).write i (withStatus status ((s.setups id).seen i))) }

/-- Insert a token, and hold its row. -/
def Rows.insert (i : ι) (token : PaymentToken) (s : Rows ι) : Rows ι :=
  { s with
    tokens := Function.update s.tokens token.tokenId
      ((s.tokens token.tokenId).write i (some token)) }

/-- A call that another transaction's lock keeps waiting. -/
def Blocked (s : Rows ι) : Call ι → Bool
  | .updateApproved i id =>
    statusOf ((s.setups id).seen i) = some .pending && !decide ((s.setups id).Free i)
  | .updateExchanged i id => ((s.setups id).seen i).isSome && !decide ((s.setups id).Free i)
  | .insertToken i token => !decide ((s.tokens token.tokenId).Free i)
  | _ => false

/-- What a call does when it neither waits nor raises by itself. -/
def exec : (op : Call ι) → Rows ι → Except Err (Res op) × Rows ι
  | .get i id, s => (.ok ((s.setups id).seen i), s)
  | .updateApproved i id, s =>
    if statusOf ((s.setups id).seen i) = some .pending then (.ok (some id), s.mark i id .approved)
    else (.ok none, s)
  | .updateExchanged i id, s =>
    if ((s.setups id).seen i).isSome then (.ok (), s.mark i id .exchanged) else (.ok (), s)
  | .insertToken i token, s =>
    if ((s.tokens token.tokenId).seen i).isSome then (.error (.failure "duplicate key"), s)
    else (.ok (), s.insert i token)
  | .commit i, s =>
    (.ok (), ⟨fun k => (s.setups k).commit i, fun k => (s.tokens k).commit i⟩)
  | .rollback i, s =>
    (.ok (), ⟨fun k => (s.setups k).rollback i, fun k => (s.tokens k).rollback i⟩)

/-- The call ends a transaction for good, whatever becomes of the connection. -/
def Call.ends : Call ι → Bool
  | .rollback _ => true
  | _ => false

/-- **One call**: it raises without an effect, gives up waiting, or runs. -/
def sem (e : Env) (op : Call ι) (s : Rows ι) : Except Err (Res op) × Rows ι :=
  match e.raises, op.ends with
  | some x, false => (.error (.failure x), s)
  | _, _ => if Blocked s op then (.error (.failure "lock timeout"), s) else exec op s

/-- One call of a program. -/
def call (op : Call ι) : Tx ι (Res op) := Prog.perform op

/-! ## The service -/

/-- `approve_setup_token`. -/
def approveSetupToken (i : ι) (setupTokenId : String) : Tx ι Unit := do
  let result : Option String ← call (.updateApproved i setupTokenId)
  if result = none then .raise (.vault ("setup token " ++ setupTokenId ++ " is not pending"))
  else pure ()

/-- The row of a payment token. -/
def newToken (row : SetupToken) (setupTokenId tokenId : String) : PaymentToken :=
  ⟨tokenId, setupTokenId, row.mandateId, true, "VISA ****4242 (simulated)"⟩

/-- The part of `exchange` after its checks: the `UPDATE`, and the flush of the new token. -/
def issue (i : ι) (token : PaymentToken) : Tx ι PaymentToken := do
  call (.updateExchanged i token.setupTokenId)
  call (.insertToken i token)
  pure token

/-- The part of `exchange` for the row that it read. -/
def exchangeRow (i : ι) (setupTokenId tokenId : String) (now : ℤ) :
    Option SetupToken → Tx ι PaymentToken
  | none => .raise (.vault "unknown setup token")
  | some row =>
    if row.status = .exchanged then .raise (.vault "setup token already exchanged")
    else if row.status ≠ .approved then
      .raise (.vault ("setup token has not been approved by the human yet — " ++
        "the whole point of enrollment is that a person agreed once"))
    else if row.expiresAt < now then .raise (.vault "setup token expired")
    else issue i (newToken row setupTokenId tokenId)

/-- **`exchange`**, with a new id and the moment. -/
def exchange (i : ι) (setupTokenId tokenId : String) (now : ℤ) : Tx ι PaymentToken := do
  let row : Option SetupToken ← call (.get i setupTokenId)
  exchangeRow i setupTokenId tokenId now row

/-- A request to the vault. -/
inductive Request where
  | approve (setupTokenId : String)
  | confirm (setupTokenId tokenId : String) (now : ℤ)
  deriving DecidableEq

/-- The setup token that a request is to use. -/
def Request.uses : Request → Option String
  | .approve _ => none
  | .confirm k _ _ => some k

/-- What a request returns. -/
inductive Reply where
  | approved
  | token (token : PaymentToken)
  deriving DecidableEq

/-- The body of a request. -/
def body (i : ι) : Request → Tx ι Reply
  | .approve setupTokenId => do
    approveSetupToken i setupTokenId
    pure .approved
  | .confirm setupTokenId tokenId now => do
    let token ← exchange i setupTokenId tokenId now
    pure (.token token)

/-- **A request**, in the transaction of `get_session`. -/
def answer (i : ι) (r : Request) : Tx ι Reply :=
  Prog.transaction (call (.commit i)) (call (.rollback i)) (body i r)

end Statements

/-! ## The system -/

/-- What a request has done: the setup token that its open transaction has marked as exchanged, and
the one that it used for good. -/
structure Work where
  marked : Option String := none
  used : Option String := none

/-- After a call that did not raise. -/
def Work.next (γ : Work) {ι : Type} : Call ι → Work
  | .updateExchanged _ id => { γ with marked := some id }
  | .commit _ => ⟨none, γ.marked⟩
  | .rollback _ => { γ with marked := none }
  | _ => γ

section System

variable (ι : Type) [DecidableEq ι]

/-- The requests. -/
def vaultSystem : System ι (Call ι) Res Err (Rows ι) Work Env where
  sem := sem
  adv _ γ _ op r := match r with
    | .ok _ => γ.next op
    | .error _ => γ

variable {ι}

/-- The configurations of the requests. -/
abbrev Sessions (ι : Type) : Type := Config ι (Call ι) Res Err Reply (Rows ι) Work

/-- The start: any rows, and each request before its first statement. -/
def vaultStart (start : String → Option SetupToken) (tokens : String → Option PaymentToken)
    (requests : ι → Request) : Sessions ι where
  shared := ⟨fun k => ⟨start k, none⟩, fun k => ⟨tokens k, none⟩⟩
  prog i := answer i (requests i)
  hist _ := {}

/-- A request has returned a token for a setup token. -/
def Exchanged (c : Sessions ι) (i : ι) (setupTokenId : String) : Prop :=
  ∃ token : PaymentToken, (c.prog i).result = some (.token token) ∧
    token.setupTokenId = setupTokenId

/-- **Exchanged once**: at most one request returns a token for a setup token, and the setup token
is marked as exchanged exactly when one did, or when it was before them. -/
structure ExchangedOnce (start : String → Option SetupToken) (c : Sessions ι) (k : String) :
    Prop where
  once : ∀ i j, Exchanged c i k → Exchanged c j k → i = j
  marked : statusOf (c.shared.setups k).row = some .exchanged ↔
    statusOf (start k) = some .exchanged ∨ ∃ i, Exchanged c i k

/-- The step is no commit of an exchange onto a row that is exchanged already. -/
def Fresh (requests : ι → Request) (c : Sessions ι) (i : ι) (e : Env) : Prop :=
  (c.prog i).next = some (.commit i) → e.raises = none →
    ∀ k, (requests i).uses = some k → statusOf (c.shared.setups k).row ≠ some .exchanged

end System

/-! ## The invariant -/

section Invariant

variable {ι : Type}

/-- **The row of a setup token** in the course of a run: it is exchanged when it was at the start or
when a request used it, and who holds it has marked it, or has approved a pending one. -/
structure RowOk (start : Option SetupToken) (g : ι → Work) (k : String)
    (c : Cell ι (Option SetupToken)) : Prop where
  known : c.row.isSome = start.isSome
  exchanged : statusOf c.row = some .exchanged ↔
    statusOf start = some .exchanged ∨ ∃ i, (g i).used = some k
  held : ∀ i v, c.held = some (i, v) →
    statusOf v = some .exchanged ∧ c.row.isSome ∧ (g i).marked = some k ∨
      statusOf v = some .approved ∧ statusOf c.row = some .pending ∧ (g i).marked ≠ some k
  marked : ∀ i, (g i).marked = some k →
    statusOf start ≠ some .exchanged ∧ ∃ v, c.held = some (i, v)

/-- The invariant of the vault. -/
def VaultInv (start : String → Option SetupToken) (g : ι → Work) (s : Rows ι) : Prop :=
  ∀ k, RowOk (start k) g k (s.setups k)

theorem statusOf_withStatus {status : SetupStatus} {row : Option SetupToken} (h : row.isSome) :
    statusOf (withStatus status row) = some status := by
  obtain ⟨r, rfl⟩ := Option.isSome_iff_exists.1 h
  rfl

theorem isSome_of_statusOf {status : SetupStatus} {row : Option SetupToken}
    (h : statusOf row = some status) : row.isSome := by
  cases row with
  | none => cases h
  | some r => rfl

variable [DecidableEq ι] {start : String → Option SetupToken} {g : ι → Work} {s : Rows ι} {i : ι}
  {k : String}

@[simp] theorem setups_mark_self {status : SetupStatus} : (s.mark i k status).setups k =
    (s.setups k).write i (withStatus status ((s.setups k).seen i)) := Function.update_self ..

theorem setups_mark_ne {status : SetupStatus} {k' : String} (h : k' ≠ k) :
    (s.mark i k status).setups k' = s.setups k' := Function.update_of_ne h ..

omit [DecidableEq ι] in
/-- A row and its newest version are there together. -/
theorem RowOk.newest_isSome {r : Option SetupToken} {c : Cell ι (Option SetupToken)}
    (h : RowOk r g k c) : c.newest.isSome = c.row.isSome := by
  cases hc : c.held with
  | none => rw [Cell.newest_of_none hc]
  | some w =>
    obtain ⟨j, v⟩ := w
    rw [Cell.newest_of_held hc]
    rcases h.held j v hc with ⟨hv, hrow, -⟩ | ⟨hv, hrow, -⟩
    · rw [isSome_of_statusOf hv, hrow]
    · rw [isSome_of_statusOf hv, isSome_of_statusOf hrow]

/-- What a transaction sees is there when the row is. -/
theorem RowOk.seen_isSome {r : Option SetupToken} {c : Cell ι (Option SetupToken)}
    (h : RowOk r g k c) : (c.seen i).isSome = c.row.isSome := by
  rcases c.held_or_not i with ⟨v, hv⟩ | hnot
  · rw [Cell.seen_of_held hv, ← Cell.newest_of_held hv, h.newest_isSome]
  · rw [Cell.seen_of_not hnot]

/-- Who sees a pending row and may write it finds it as it was committed. -/
theorem RowOk.pending {r : Option SetupToken} {c : Cell ι (Option SetupToken)}
    (h : RowOk r g k c) (hfree : c.Free i) (hseen : statusOf (c.seen i) = some .pending) :
    statusOf c.row = some .pending := by
  rw [Cell.seen_eq_newest hfree] at hseen
  cases hc : c.held with
  | none => rwa [Cell.newest_of_none hc] at hseen
  | some w =>
    obtain ⟨j, v⟩ := w
    rw [Cell.newest_of_held hc] at hseen
    rcases h.held j v hc with ⟨hv, -⟩ | ⟨hv, -⟩ <;>
    · rw [hseen] at hv
      cases hv

/-- Who sees an approved row finds that it was not exchanged at the start. -/
theorem RowOk.not_exchanged {r : Option SetupToken} {c : Cell ι (Option SetupToken)}
    (h : RowOk r g k c) (hseen : statusOf (c.seen i) = some .approved) :
    statusOf r ≠ some .exchanged := by
  intro hr
  have hrow := h.exchanged.2 (.inl hr)
  rcases c.held_or_not i with ⟨v, hv⟩ | hnot
  · rw [Cell.seen_of_held hv] at hseen
    rcases h.held i v hv with ⟨hv', -⟩ | ⟨-, hpending, -⟩
    · rw [hseen] at hv'
      cases hv'
    · rw [hrow] at hpending
      cases hpending
  · rw [Cell.seen_of_not hnot, hrow] at hseen
    cases hseen

/-- The history of a request that neither marks nor uses anything does not matter. -/
theorem VaultInv.same (h : VaultInv start g s) : VaultInv start (Function.update g i (g i)) s := by
  rwa [Function.update_eq_self]

/-- **An approval** keeps the invariant. -/
theorem VaultInv.approve (h : VaultInv start g s) (hmarked : (g i).marked = none)
    (hfree : (s.setups k).Free i) (hseen : statusOf ((s.setups k).seen i) = some .pending) :
    VaultInv start g (s.mark i k .approved) := by
  intro k'
  by_cases hk : k' = k
  · subst hk
    have hrow := h k'
    have hpending := hrow.pending hfree hseen
    rw [setups_mark_self]
    refine ⟨hrow.known, hrow.exchanged, fun j v hv => ?_, fun j hj => ?_⟩
    · rw [Cell.held_write] at hv
      cases hv
      refine .inr ⟨statusOf_withStatus (isSome_of_statusOf hseen), hpending, ?_⟩
      rw [hmarked]
      exact Option.some_ne_none _ ∘ Eq.symm
    · obtain ⟨hstart, v, hv⟩ := hrow.marked j hj
      obtain rfl : j = i := hfree (j, v) hv
      rw [hmarked] at hj
      cases hj
  · rw [setups_mark_ne hk]
    exact h k'

/-- **A mark** keeps the invariant. -/
theorem VaultInv.mark (h : VaultInv start g s) (hmarked : (g i).marked = none)
    (hfree : (s.setups k).Free i) (hstart : statusOf (start k) ≠ some .exchanged)
    (hseen : ((s.setups k).seen i).isSome) :
    VaultInv start (Function.update g i { g i with marked := some k }) (s.mark i k .exchanged) := by
  have hused : ∀ j, (Function.update g i { g i with marked := some k } j).used = (g j).used :=
    update_same Work.used rfl
  intro k'
  have hrow := h k'
  by_cases hk : k' = k
  · subst hk
    rw [setups_mark_self]
    refine ⟨hrow.known, ?_, fun j v hv => ?_, fun j hj => ⟨hstart, ?_⟩⟩
    · simp only [hused, Cell.row_write]
      exact hrow.exchanged
    · rw [Cell.held_write] at hv
      cases hv
      refine .inl ⟨statusOf_withStatus hseen, ?_, by rw [Function.update_self]⟩
      rwa [hrow.seen_isSome] at hseen
    · by_cases hji : j = i
      · exact ⟨_, by rw [hji]; rfl⟩
      · rw [Function.update_of_ne hji] at hj
        obtain ⟨-, v, hv⟩ := hrow.marked j hj
        exact absurd (hfree (j, v) hv) hji
  · rw [setups_mark_ne hk]
    refine ⟨hrow.known, ?_, fun j v hv => ?_, fun j hj => ?_⟩
    · simp only [hused]
      exact hrow.exchanged
    · by_cases hji : j = i
      · subst hji
        rw [Function.update_self]
        rcases hrow.held j v hv with ⟨-, -, hj⟩ | ⟨hv', hpending, -⟩
        · rw [hmarked] at hj
          cases hj
        · exact .inr ⟨hv', hpending, fun heq => hk (Option.some.inj heq).symm⟩
      · rw [Function.update_of_ne hji]
        exact hrow.held j v hv
    · by_cases hji : j = i
      · rw [hji, Function.update_self] at hj
        exact absurd (Option.some.inj hj).symm hk
      · rw [Function.update_of_ne hji] at hj
        exact hrow.marked j hj

/-- **A commit** keeps the invariant: what was marked is used. -/
theorem VaultInv.commit (h : VaultInv start g s) (hused : (g i).used = none) :
    VaultInv start (Function.update g i ⟨none, (g i).marked⟩)
      ⟨fun k => (s.setups k).commit i, fun k => (s.tokens k).commit i⟩ := by
  intro k
  have hrow := h k
  have hothers : (∃ j, (Function.update g i ⟨none, (g i).marked⟩ j).used = some k) ↔
      (g i).marked = some k ∨ ∃ j, (g j).used = some k := by
    constructor
    · rintro ⟨j, hj⟩
      by_cases hji : j = i
      · rw [hji, Function.update_self] at hj
        exact .inl hj
      · rw [Function.update_of_ne hji] at hj
        exact .inr ⟨j, hj⟩
    · rintro (hi | ⟨j, hj⟩)
      · exact ⟨i, by rw [Function.update_self]; exact hi⟩
      · have hji : j ≠ i := by
          rintro rfl
          rw [hused] at hj
          cases hj
        exact ⟨j, by rw [Function.update_of_ne hji]; exact hj⟩
  have hmarked : ∀ j, (Function.update g i ⟨none, (g i).marked⟩ j).marked = some k →
      j ≠ i ∧ (g j).marked = some k := by
    intro j hj
    by_cases hji : j = i
    · rw [hji, Function.update_self] at hj
      cases hj
    · rw [Function.update_of_ne hji] at hj
      exact ⟨hji, hj⟩
  have hnew := hrow.marked i
  rcases (s.setups k).held_or_not i with ⟨v, hv⟩ | hnot
  · show RowOk (start k) _ k ((s.setups k).commit i)
    rw [Cell.commit_of_held hv]
    refine ⟨?_, ?_, fun j w hw => (by cases hw), fun j hj => ?_⟩
    · rcases hrow.held i v hv with ⟨hstatus, hsome, -⟩ | ⟨hstatus, hpending, -⟩
      · rw [isSome_of_statusOf hstatus, ← hrow.known, hsome]
      · rw [isSome_of_statusOf hstatus, ← hrow.known, isSome_of_statusOf hpending]
    · rw [hothers]
      rcases hrow.held i v hv with ⟨hstatus, -, hi⟩ | ⟨hstatus, hpending, hi⟩
      · exact ⟨fun _ => .inr (.inl hi), fun _ => hstatus⟩
      · have hnone := hrow.exchanged
        rw [hpending] at hnone
        simp only [hstatus, hi, false_or, ← hnone]
        decide
    · obtain ⟨hji, hj⟩ := hmarked j hj
      obtain ⟨-, w, hw⟩ := hrow.marked j hj
      rw [hv] at hw
      cases hw
      exact absurd rfl hji
  · show RowOk (start k) _ k ((s.setups k).commit i)
    rw [Cell.commit_of_not hnot]
    have hi : (g i).marked ≠ some k := by
      intro hi
      obtain ⟨-, v, hv⟩ := hnew hi
      exact hnot v hv
    refine ⟨hrow.known, ?_, fun j v hv => ?_, fun j hj => hrow.marked j (hmarked j hj).2⟩
    · rw [hothers, hrow.exchanged]
      simp only [hi, false_or]
    · have hji : j ≠ i := by
        rintro rfl
        exact hnot v hv
      rw [Function.update_of_ne hji]
      exact hrow.held j v hv

/-- **A rollback** keeps the invariant. -/
theorem VaultInv.rollback (h : VaultInv start g s) :
    VaultInv start (Function.update g i { g i with marked := none })
      ⟨fun k => (s.setups k).rollback i, fun k => (s.tokens k).rollback i⟩ := by
  intro k
  have hrow := h k
  have hused : ∀ j, (Function.update g i { g i with marked := none } j).used = (g j).used :=
    update_same Work.used rfl
  have hmarked : ∀ j, (Function.update g i { g i with marked := none } j).marked = some k →
      j ≠ i ∧ (g j).marked = some k := by
    intro j hj
    by_cases hji : j = i
    · rw [hji, Function.update_self] at hj
      cases hj
    · rw [Function.update_of_ne hji] at hj
      exact ⟨hji, hj⟩
  show RowOk (start k) _ k ((s.setups k).rollback i)
  refine ⟨?_, ?_, fun j v hv => ?_, fun j hj => ?_⟩
  · rw [Cell.row_rollback]
    exact hrow.known
  · simp only [Cell.row_rollback, hused]
    exact hrow.exchanged
  · have hji : j ≠ i := by
      rintro rfl
      exact Cell.not_held_rollback hv
    rw [Cell.row_rollback, Function.update_of_ne hji]
    exact hrow.held j v ((Cell.held_rollback_iff hji).1 hv)
  · obtain ⟨hji, hj⟩ := hmarked j hj
    obtain ⟨hstart, v, hv⟩ := hrow.marked j hj
    exact ⟨hstart, v, (Cell.held_rollback_iff hji).2 hv⟩

end Invariant

/-! ## Requests -/

section Requests

variable {ι : Type} [DecidableEq ι] {start : String → Option SetupToken} {requests : ι → Request}
  {i : ι} {γ : Work}

/-- The setup token that a reply has used. -/
def Reply.used : Reply → Option String
  | .approved => none
  | .token t => some t.setupTokenId

/-- A commit is of the request itself, with its mark. -/
def CommitsMark (requests : ι → Request) (g : ι → Work) (i : ι) (op : Call ι) : Prop :=
  ∀ j, op = .commit j → j = i ∧ (g i).marked = (requests i).uses

/-- The specification: nobody acts after having used a setup token. -/
def vaultSpec (start : String → Option SetupToken) (requests : ι → Request) :
    Spec ι (Call ι) Res Err (Rows ι) Work where
  inv := VaultInv start
  ok _ _ _ _ := True
  prop g _ i op _ _ := (g i).used = none ∧ CommitsMark requests g i op

/-- A call raises without an effect, or it runs. -/
theorem sem_cases (e : Env) (op : Call ι) (s : Rows ι) :
    (∃ x, sem e op s = (.error x, s)) ∨ Blocked s op = false ∧ sem e op s = exec op s := by
  rw [sem]
  split
  · exact .inl ⟨_, rfl⟩
  · split_ifs with hblocked
    · exact .inl ⟨_, rfl⟩
    · exact .inr ⟨by simpa using hblocked, rfl⟩

/-- **One call** of a request, that raises without an effect or does what it does. -/
theorem call_outline {op : Call ι} {A : Res op → Work → Prop} {B : Err → Work → Prop}
    (hused : γ.used = none) (hcommit : ∀ g : ι → Work, g i = γ → CommitsMark requests g i op)
    (hfail : ∀ x, B x γ)
    (h : ∀ g s, g i = γ → VaultInv start g s → Blocked s op = false →
      (∃ x, exec op s = (.error x, s)) ∨ ∃ a s', exec op s = (.ok a, s') ∧
        VaultInv start (Function.update g i (γ.next op)) s' ∧ A a (γ.next op)) :
    Outline (vaultSystem ι) (vaultSpec start requests) i (ends A B) (call op) γ := by
  refine outline_perform_eq fun g s e hg hinv _ => ?_
  have hraised : ∀ x, (vaultSystem ι).sem e op s = (.error x, s) →
      ∃ r s' γ', (vaultSystem ι).sem e op s = (r, s') ∧ (vaultSystem ι).adv i γ s op r = γ' ∧
        VaultInv start (Function.update g i γ') s' ∧
          (vaultSpec start requests).prop g s i op r s' ∧ ends A B r γ' := by
    intro x hx
    refine ⟨_, _, γ, hx, rfl, ?_, ⟨hg ▸ hused, hcommit g hg⟩, hfail x⟩
    rw [← hg]
    exact hinv.same
  rcases sem_cases e op s with ⟨x, hx⟩ | ⟨hblocked, hexec⟩
  · exact hraised x hx
  · rcases h g s hg hinv hblocked with ⟨x, hx⟩ | ⟨a, s', ha, hinv', hA⟩
    · exact hraised x (hexec.trans hx)
    · exact ⟨_, _, _, hexec.trans ha, rfl, hinv', ⟨hg ▸ hused, hcommit g hg⟩, hA⟩

/-- What holds of a request until its commit. -/
structure Working (γ : Work) (marked : Option String) : Prop where
  marked : γ.marked = marked
  used : γ.used = none

theorem approve_outline (k : String) (hγ : Working γ none) :
    Outline (vaultSystem ι) (vaultSpec start requests) i
      (ends (fun _ γ' => Working γ' none) fun _ γ' => γ'.used = none)
      (approveSetupToken i k) γ := by
  refine outline_bind_ends (A := fun _ γ' => Working γ' none) ?_ fun result γ' h => ?_
  · refine call_outline hγ.used (fun _ _ _ h => by cases h) (fun _ => hγ.used) ?_
    rintro g s rfl hinv hblocked
    rw [exec]
    split_ifs with hseen
    · have hfree : (s.setups k).Free i := by simpa [Blocked, hseen] using hblocked
      refine .inr ⟨_, _, rfl, ?_, hγ⟩
      show VaultInv start (Function.update g i (g i)) _
      exact (hinv.approve hγ.marked hfree hseen).same
    · exact .inr ⟨_, _, rfl, hinv.same, hγ⟩
  · split_ifs
    · exact h.used
    · exact h

theorem issue_outline (token : PaymentToken) (hγ : Working γ none)
    (hknown : (start token.setupTokenId).isSome)
    (hstart : statusOf (start token.setupTokenId) ≠ some .exchanged) :
    Outline (vaultSystem ι) (vaultSpec start requests) i
      (ends (fun t γ' => t = token ∧ Working γ' (some token.setupTokenId))
        fun _ γ' => γ'.used = none) (issue i token) γ := by
  refine outline_bind_ends (A := fun _ γ' => Working γ' (some token.setupTokenId)) ?_
    fun _ γ₁ h₁ => outline_bind_ends (A := fun _ γ' => Working γ' (some token.setupTokenId)) ?_
      fun _ γ₂ h₂ => ⟨rfl, h₂⟩
  · refine call_outline hγ.used (fun _ _ _ h => by cases h) (fun _ => hγ.used) ?_
    rintro g s rfl hinv hblocked
    have hrow := hinv token.setupTokenId
    have hseen : ((s.setups token.setupTokenId).seen i).isSome := by
      rw [hrow.seen_isSome, hrow.known, hknown]
    have hfree : (s.setups token.setupTokenId).Free i := by simpa [Blocked, hseen] using hblocked
    refine .inr ⟨(), s.mark i token.setupTokenId .exchanged, ?_, ?_, rfl, hγ.used⟩
    · rw [exec]
      exact if_pos hseen
    · exact hinv.mark hγ.marked hfree hstart hseen
  · refine call_outline h₁.used (fun _ _ _ h => by cases h) (fun _ => h₁.used) ?_
    rintro g s rfl hinv hblocked
    rw [exec]
    split_ifs with hseen
    · exact .inl ⟨_, rfl⟩
    · exact .inr ⟨_, _, rfl, hinv.same, h₁⟩

/-- **`exchange`** ends with its setup token marked, or raises. -/
theorem exchange_outline (k tokenId : String) (now : ℤ) (hγ : Working γ none) :
    Outline (vaultSystem ι) (vaultSpec start requests) i
      (ends (fun token γ' => token.setupTokenId = k ∧ Working γ' (some k))
        fun _ γ' => γ'.used = none) (exchange i k tokenId now) γ := by
  refine outline_bind_ends (A := fun row γ' => Working γ' none ∧
    (statusOf row = some .approved → (start k).isSome ∧ statusOf (start k) ≠ some .exchanged)) ?_
    fun row γ' h => ?_
  · refine call_outline hγ.used (fun _ _ _ h => by cases h) (fun _ => hγ.used) ?_
    rintro g s rfl hinv -
    refine .inr ⟨_, _, rfl, hinv.same, hγ, fun hrow => ⟨?_, fun hstart => ?_⟩⟩
    · rw [← (hinv k).known, ← (hinv k).seen_isSome (i := i)]
      exact isSome_of_statusOf hrow
    · exact (hinv k).not_exchanged hrow hstart
  · obtain ⟨hγ', hrow⟩ := h
    cases row with
    | none => exact hγ'.used
    | some row =>
      show Outline _ _ _ _ (exchangeRow i k tokenId now (some row)) γ'
      rw [exchangeRow]
      split_ifs with h1 h2 h3
      · exact hγ'.used
      · exact hγ'.used
      · exact hγ'.used
      · obtain ⟨hknown, hstart⟩ := hrow (congrArg some (not_not.1 h2))
        refine outline_mono ?_ (issue_outline (newToken row k tokenId) hγ' hknown hstart)
        rintro (x | token) γ'' hend
        · exact hend
        · obtain ⟨rfl, hend⟩ := hend
          exact ⟨rfl, hend⟩

/-- The mark of a request that is about to reply. -/
def Replying (r : Request) (reply : Reply) (γ : Work) : Prop :=
  Working γ reply.used ∧ reply.used = r.uses

theorem body_outline (r : Request) (hγ : Working γ none) :
    Outline (vaultSystem ι) (vaultSpec start requests) i
      (ends (Replying r) fun _ γ' => γ'.used = none) (body i r) γ := by
  cases r with
  | approve k =>
    exact outline_bind_ends (approve_outline k hγ) fun _ γ' h => ⟨h, rfl⟩
  | confirm k tokenId now =>
    refine outline_bind_ends (exchange_outline k tokenId now hγ) ?_
    rintro token γ' ⟨rfl, h⟩
    exact ⟨h, rfl⟩

/-- **A request** returns a token when it used its setup token. -/
theorem answer_outline :
    Outline (vaultSystem ι) (vaultSpec start requests) i
      (ends (fun reply γ' => γ'.used = reply.used) fun _ γ' => γ'.used = none)
      (answer i (requests i)) {} := by
  refine outline_transaction (body_outline (requests i) ⟨rfl, rfl⟩) ?_ ?_
  · rintro reply γ' ⟨hγ', huses⟩
    refine call_outline hγ'.used ?_ (fun _ => hγ'.used) ?_
    · rintro g rfl j hop
      cases hop
      exact ⟨rfl, hγ'.marked.trans huses⟩
    · rintro g s rfl hinv -
      exact .inr ⟨_, _, rfl, hinv.commit hγ'.used, hγ'.marked⟩
  · rintro x γ' hused
    refine call_outline hused (fun _ _ _ h => by cases h) (fun _ => hused) ?_
    rintro g s rfl hinv -
    exact .inr ⟨_, _, rfl, hinv.rollback, hused⟩

/-! ## Runs -/

/-- A configuration whose requests follow their outlines. -/
abbrev Sound (start : String → Option SetupToken) (requests : ι → Request) (c : Sessions ι) : Prop :=
  Outlined (vaultSystem ι) (vaultSpec start requests)
    (fun _ => ends (fun reply γ' => γ'.used = reply.used) fun _ γ' => γ'.used = none) c

theorem vaultStart_sound (start : String → Option SetupToken)
    (tokens : String → Option PaymentToken) (requests : ι → Request) :
    Sound start requests (vaultStart start tokens requests) := by
  refine ⟨fun k => ⟨rfl, ?_, fun j v hv => (by cases hv), fun j hj => (by cases hj)⟩,
    fun i => answer_outline⟩
  simp [vaultStart]

variable {c : Sessions ι} {k : String}

/-- A request has returned a token for a setup token when it used it. -/
theorem exchanged_iff (h : Sound start requests c) : Exchanged c i k ↔ (c.hist i).used = some k := by
  constructor
  · rintro ⟨token, hresult, rfl⟩
    exact outlined_returned h hresult
  · intro hused
    have hi := h.outline i
    cases hp : c.prog i with
    | ret reply =>
      rw [hp] at hi
      have hreply : reply.used = some k := hi.symm.trans hused
      cases reply with
      | approved => cases hreply
      | token t => exact ⟨t, by rw [hp]; rfl, Option.some.inj hreply⟩
    | raise x =>
      rw [hp] at hi
      exact absurd (hi.symm.trans hused) (by simp)
    | call op next =>
      have hprop := outlined_call h (show (c.prog i).next = some op by rw [hp]; rfl) {} trivial
      rw [hprop.1] at hused
      cases hused

/-- **The mark of a setup token**: it is exchanged when a request returned a token for it. -/
theorem marked_iff (h : Sound start requests c) :
    statusOf (c.shared.setups k).row = some .exchanged ↔
      statusOf (start k) = some .exchanged ∨ ∃ i, Exchanged c i k := by
  simp only [exchanged_iff h]
  exact (h.inv k).exchanged

/-- **A commit that takes effect** uses the setup token of its request. -/
theorem used_commit (h : Sound start requests c) {e : Env} (hop : (c.prog i).next = some (.commit i))
    (he : e.raises = none) : ((vaultSystem ι).step c i e).hist =
      Function.update c.hist i ⟨none, (requests i).uses⟩ := by
  obtain ⟨-, hmarks⟩ := outlined_call h hop e trivial
  have hsem : (sem e (.commit i) c.shared).1 = .ok () := by
    rw [sem, he]
    rfl
  rw [hist_step hop, ← (hmarks i rfl).2]
  show Function.update c.hist i ((vaultSystem ι).adv i (c.hist i) c.shared (.commit i)
    (sem e (.commit i) c.shared).1) = _
  rw [hsem]
  rfl

/-- Any other step uses nothing. -/
theorem used_quiet (h : Sound start requests c) {e : Env}
    (hquiet : ¬ ((c.prog i).next = some (.commit i) ∧ e.raises = none)) (j : ι) :
    (((vaultSystem ι).step c i e).hist j).used = (c.hist j).used := by
  cases hop : (c.prog i).next with
  | none => rw [step_of_none hop]
  | some op =>
    rw [hist_step hop]
    by_cases hj : j = i
    · subst hj
      rw [Function.update_self]
      obtain ⟨-, hmarks⟩ := outlined_call h hop e trivial
      rcases sem_cases e op c.shared with ⟨x, hx⟩ | ⟨-, hexec⟩
      · show ((vaultSystem ι).adv j (c.hist j) c.shared op (sem e op c.shared).1).used = _
        rw [hx]
        rfl
      · show ((vaultSystem ι).adv j (c.hist j) c.shared op (sem e op c.shared).1).used = _
        cases hr : (sem e op c.shared).1 with
        | error x => rfl
        | ok a =>
          cases op with
          | commit l =>
            obtain ⟨rfl, -⟩ := hmarks l rfl
            refine absurd ⟨hop, ?_⟩ hquiet
            cases he : e.raises with
            | none => rfl
            | some x =>
              rw [sem, he] at hr
              cases hr
          | _ => rfl
    · rw [Function.update_of_ne hj]

/-- **One step** keeps setup tokens used once exactly when it is fresh. -/
theorem once_step (h : Sound start requests c) {e : Env}
    (honce : ∀ k i j, Exchanged c i k → Exchanged c j k → i = j) :
    (∀ k l j, Exchanged ((vaultSystem ι).step c i e) l k →
      Exchanged ((vaultSystem ι).step c i e) j k → l = j) ↔ Fresh requests c i e := by
  have hnext : Sound start requests ((vaultSystem ι).step c i e) :=
    (outlined_step h fun _ _ => trivial).2
  simp only [exchanged_iff h] at honce
  simp only [exchanged_iff hnext]
  by_cases hcommit : (c.prog i).next = some (.commit i) ∧ e.raises = none
  · obtain ⟨hop, he⟩ := hcommit
    have hused : (c.hist i).used = none := (outlined_call h hop e trivial).1
    rw [used_commit h hop he]
    constructor
    · intro hall _ _ k huses hrow
      rcases (marked_iff h).1 hrow with hstart | ⟨j, hj⟩
      · have hmarked := ((outlined_call h hop e trivial).2 i rfl).2
        exact ((h.inv k).marked i (hmarked.trans huses)).1 hstart
      · rw [exchanged_iff h] at hj
        have hji : j ≠ i := by
          rintro rfl
          rw [hused] at hj
          cases hj
        refine hji (hall k j i ?_ ?_)
        · rw [Function.update_of_ne hji]
          exact hj
        · rw [Function.update_self]
          exact huses
    · intro hfresh k l j hl hj
      have hother : ∀ j, j ≠ i → (c.hist j).used = some k → (requests i).uses ≠ some k := by
        intro j hji hj huses
        exact hfresh hop he k huses ((marked_iff h).2 (.inr ⟨j, (exchanged_iff h).2 hj⟩))
      by_cases hli : l = i <;> by_cases hji : j = i
      · rw [hli, hji]
      · rw [hli, Function.update_self] at hl
        rw [Function.update_of_ne hji] at hj
        exact absurd hl (hother j hji hj)
      · rw [hji, Function.update_self] at hj
        rw [Function.update_of_ne hli] at hl
        exact absurd hj (hother l hli hl)
      · rw [Function.update_of_ne hli] at hl
        rw [Function.update_of_ne hji] at hj
        exact honce k l j hl hj
  · simp only [used_quiet h hcommit]
    exact ⟨fun _ hop he => absurd ⟨hop, he⟩ hcommit, fun _ => honce⟩

/-- **Setup tokens are exchanged once** in every state of a run exactly when no exchange commits to
a row that another has exchanged. -/
theorem exchanged_once (start : String → Option SetupToken) (tokens : String → Option PaymentToken)
    (requests : ι → Request) (xs : List (ι × Env)) :
    (∀ ys, ys <+: xs → ∀ k,
      ExchangedOnce start ((vaultSystem ι).run (vaultStart start tokens requests) ys) k) ↔
      (vaultSystem ι).Along (Fresh requests) (vaultStart start tokens requests) xs := by
  have hsound := vaultStart_sound start tokens requests
  have hruns : ∀ ys, (vaultSystem ι).Along (vaultSpec start requests).Ok
      (vaultStart start tokens requests) ys :=
    (vaultSystem ι).along_of_forall (fun _ _ _ _ _ => trivial) _
  rw [← always_iff_along (fun c i e h _ honce => once_step h honce) hsound ?_ (hruns xs)]
  · constructor
    · exact fun hall ys hys k => (hall ys hys k).once
    · exact fun hall ys hys k => ⟨hall ys hys k, marked_iff (outline_run hsound (hruns ys)).2⟩
  · intro k l j hl
    rw [exchanged_iff hsound] at hl
    cases hl

end Requests

/-! ## An approval exchanged twice -/

/-- An approved setup token. -/
def approvedToken : SetupToken := ⟨"yst_1", "mnd_1", .approved, "/simulated-approval/yst_1", 100⟩

/-- Two exchanges of it, each with a token of its own. -/
def twoConfirms (first : Bool) : Request := .confirm "yst_1" (if first then "ynt_1" else "ynt_2") 5

/-- Both read the row before either commits. -/
def overlapping : List (Bool × Env) :=
  [(true, {}), (false, {}), (true, {}), (true, {}), (true, {}), (false, {}), (false, {}), (false, {})]

/-- The tables that they run on. -/
def twoConfirmsStart : Sessions Bool :=
  vaultStart (fun k => if k = "yst_1" then some approvedToken else none) (fun _ => none) twoConfirms

/-- **Two overlapping exchanges** of one approved setup token both return a payment token. -/
theorem exchanged_twice :
    ((vaultSystem Bool).run twoConfirmsStart overlapping).prog true =
        .ret (.token (newToken approvedToken "yst_1" "ynt_1")) ∧
      ((vaultSystem Bool).run twoConfirmsStart overlapping).prog false =
        .ret (.token (newToken approvedToken "yst_1" "ynt_2")) ∧
      ¬ ExchangedOnce (fun k => if k = "yst_1" then some approvedToken else none)
        ((vaultSystem Bool).run twoConfirmsStart overlapping) "yst_1" := by
  have htrue : (((vaultSystem Bool).run twoConfirmsStart overlapping).prog true).result =
      some (.token (newToken approvedToken "yst_1" "ynt_1")) := by decide +kernel
  have hfalse : (((vaultSystem Bool).run twoConfirmsStart overlapping).prog false).result =
      some (.token (newToken approvedToken "yst_1" "ynt_2")) := by decide +kernel
  refine ⟨Prog.result_eq_some.1 htrue, Prog.result_eq_some.1 hfalse, fun h => ?_⟩
  cases h.once true false ⟨_, htrue, rfl⟩ ⟨_, hfalse, rfl⟩

end TryTrust.Yuno.Vault
