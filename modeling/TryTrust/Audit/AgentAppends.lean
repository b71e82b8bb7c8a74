import TryTrust.Audit.AgentChains
import TryTrust.Audit.Shared

/-!
# Appends of the agent lane under concurrency

Any number of connections, each appending one event after another to any chains, statement by
statement, each statement running, failing, or losing its answer.

* `appends`, `appendSystem`, `appendStart`; `Granted`, a step that does not wait for a lock;
* `Progress`, `Knows`, `AppendInv`: what a transaction under way knows of the chain it has locked,
  and what ties the events, the chain rows and the outbox;
* `agentAppend_outline`: every append keeps the invariant; **`appends_reach`**: so does every run;
* **`appends_verify`**: in every state all chains replay, are numbered without gap and have each
  relayed event in the outbox once.
-/

namespace TryTrust.Audit.Agent

open Conc

/-! ## The system -/

/-- The payload that is stored. -/
def clean (scrubPayload : Json → Json) (request : AgentRequest) : Json :=
  if request.scrub then scrubPayload request.payload else request.payload

/-- The appends of one connection; an exception ends the append that it comes from. -/
def appends {ι : Type} (K : Crypto) (i : ι) (scrubPayload : Json → Json) :
    List AgentRequest → Tx ι Unit
  | [] => pure ()
  | request :: requests => do
    let _ : Except AuditErr Unit ← (agentAppend K i scrubPayload request).attempt
    appends K i scrubPayload requests

/-- How far the append of a connection has come. -/
inductive Progress where
  /-- No transaction. -/
  | idle
  /-- Before its read of the chain row. -/
  | opened
  /-- It holds the chain row, with the head it read. -/
  | locked (key : String) (head : ChainRow)
  /-- Its event is inserted. -/
  | drawn (row : AuditRow)
  /-- The chain row is updated too. -/
  | written (row : AuditRow)
  /-- So is the copy for the relay. -/
  | relayed (row : AuditRow) (copy : OutboxRow)
  /-- A statement failed. -/
  | failed

/-- The next stage after an answer. -/
def Progress.next (γ : Progress) : {ι : Type} → (op : Call ι) → Res op → Progress
  | _, .begin _, _ => .opened
  | _, .lockChain _ key, r => match (r : Option ChainRow) with
    | some head => .locked key head
    | none => .failed
  | _, .insertEvent _ entry, (seq : ℤ) => .drawn ⟨entry, seq⟩
  | _, .updateChain .., _ => match γ with
    | .drawn row => .written row
    | _ => .failed
  | _, .insertOutbox _ copy, _ => match γ with
    | .written row => .relayed row copy
    | _ => .failed
  | _, .commit _, _ => .idle
  | _, .rollback _, _ => .idle
  | _, _, _ => γ

/-- The system: what a fate does, and the stages. -/
def appendSystem (ι : Type) [DecidableEq ι] :
    System ι (Call ι) Res AuditErr (Shared ι) Progress Fate where
  sem := sem
  adv _ γ _ op r := match r with
    | .ok a => γ.next op a
    | .error _ => .failed

/-- Tables without rows, and the connections before their first statements. -/
def appendStart {ι : Type} (K : Crypto) (scrubPayload : Json → Json)
    (requests : ι → List AgentRequest) :
    Config ι (Call ι) Res AuditErr Unit (Shared ι) Progress where
  shared := ⟨[], [], [], 0, fun _ => {}⟩
  prog i := appends K i scrubPayload (requests i)
  hist _ := .idle

/-- A step that does not wait for a lock. -/
def Granted {ι : Type} (c : Config ι (Call ι) Res AuditErr Unit (Shared ι) Progress) (i : ι)
    (_ : Fate) : Prop :=
  ∀ op ∈ (c.prog i).next, Admitted c.shared op

instance {ι : Type} [DecidableEq ι] [Fintype ι]
    (c : Config ι (Call ι) Res AuditErr Unit (Shared ι) Progress) (i : ι) (e : Fate) :
    Decidable (Granted c i e) :=
  inferInstanceAs (Decidable (∀ op ∈ (c.prog i).next, Admitted c.shared op))

/-! ## The invariant -/

/-- The events of a chain, in the order of their commits. -/
def keyRows (rows : List AuditRow) (key : String) : List AuditRow :=
  rows.filter fun r => r.chainKey = key

/-- The chain row that the events of a chain ask for. -/
def tail (rows : List AuditRow) (key : String) : ChainRow :=
  ⟨HashChain.head hashOf genesisPrevHash (keyRows rows key), (keyRows rows key).length⟩

theorem mem_of_lookup {chains : Chains} {key : String} {row : ChainRow}
    (h : chains.lookup key = some row) : (key, row) ∈ chains := by
  obtain ⟨before, after, rfl, -⟩ := List.lookup_eq_some_iff.1 h
  simp

/-- A chain row after one is set. -/
theorem mem_set {chains : Chains} {key : String} {row : ChainRow} {e : String × ChainRow}
    (h : e ∈ chains.set key row) : e = (key, row) ∨ (e ∈ chains ∧ e.1 ≠ key) := by
  rw [Chains.set] at h
  split_ifs at h with hsome
  · obtain ⟨f, hf, hfe⟩ := List.mem_map.1 h
    by_cases hkey : f.1 = key
    · rw [if_pos hkey] at hfe
      exact .inl hfe.symm
    · rw [if_neg hkey] at hfe
      rw [← hfe]
      exact .inr ⟨hf, hkey⟩
  · rcases List.mem_append.1 h with hold | hnew
    · refine .inr ⟨hold, fun hkey => hsome (List.lookup_isSome_iff.2 ⟨e, hold, ?_⟩)⟩
      rw [hkey]
      exact beq_self_eq_true key
    · exact .inl (List.mem_singleton.1 hnew)

variable (K : Crypto)

/-- **A chain in good order**: its events replay and are numbered, its row is their tail. -/
structure ChainOk (chains : Chains) (rows : List AuditRow) (key : String) : Prop where
  replays : Replays K (keyRows rows key)
  numbered : (keyRows rows key).map (·.chainSeq) = List.range' 1 (keyRows rows key).length
  head : ∀ row, (key, row) ∈ chains → row = tail rows key
  fresh : chains.lookup key = none → keyRows rows key = []

/-- A row that may follow on its chain. -/
structure Follows (rows : List AuditRow) (row : AuditRow) : Prop where
  genuine : Genuine K row
  prev : row.prevHash = (tail rows row.chainKey).headHash
  number : row.chainSeq = (tail rows row.chainKey).length + 1

/-- What a connection's transaction is at a stage. -/
def Knows (chains : Chains) (rows : List AuditRow) (t : Txn) : Progress → Prop
  | .idle => t = {}
  | .opened => t.event = none ∧ t.relayed = none ∧ ((t.locked = none ∧ t.chain = none) ∨
      ∃ key, t.locked = some key ∧ (t.chain = none ∨
        (t.chain = some ⟨genesisPrevHash, 0⟩ ∧ chains.lookup key = none)))
  | .locked key head => t.locked = some key ∧ t.event = none ∧ t.relayed = none ∧
      head = tail rows key
  | .drawn row => t.locked = some row.chainKey ∧ t.event = some row ∧ t.relayed = none ∧
      Follows K rows row
  | .written row => t.locked = some row.chainKey ∧ t.event = some row ∧ t.relayed = none ∧
      Follows K rows row ∧ t.chain = some ⟨row.hash, row.chainSeq⟩
  | .relayed row copy => t.locked = some row.chainKey ∧ t.event = some row ∧
      t.relayed = some copy ∧ Follows K rows row ∧ t.chain = some ⟨row.hash, row.chainSeq⟩
  | .failed => True

/-- A row is what a request asked for. -/
def Wrote (scrubPayload : Json → Json) (request : AgentRequest) (row : AuditRow) : Prop :=
  ∃ head hash, row.toEntry = { request.entry (clean scrubPayload request) head with hash := hash }

/-- The copies that a request asks for. -/
def copies (scrubPayload : Json → Json) (request : AgentRequest) : List OutboxRow :=
  if request.relay then [request.relayed (clean scrubPayload request)] else []

/-- **The invariant** of the tables and of the transactions under way. -/
structure AppendInv {ι : Type} (scrubPayload : Json → Json) (asked : AgentRequest → Prop)
    (g : ι → Progress) (s : Shared ι) : Prop where
  chain : ∀ key, ChainOk K s.chains s.auditEvents key
  /-- Every event was asked for, and is in the outbox as asked. -/
  sent : ∀ row ∈ s.auditEvents, ∃ request, asked request ∧ Wrote scrubPayload request row ∧
    s.outbox.filter (fun o => o.eventId = row.eventId) = copies scrubPayload request
  /-- Every copy is of an event. -/
  known : ∀ o ∈ s.outbox, ∃ row ∈ s.auditEvents, row.eventId = o.eventId
  /-- One transaction holds a chain row. -/
  alone : ∀ key i j, (s.txns i).locked = some key → (s.txns j).locked = some key → i = j
  /-- Inserted events have identifiers of their own. -/
  apart : ∀ i j, i ≠ j → ∀ e ∈ (s.txns i).event, ∀ f ∈ (s.txns j).event, e.eventId ≠ f.eventId
  unsaved : ∀ i, ∀ e ∈ (s.txns i).event, ∀ r ∈ s.auditEvents, r.eventId ≠ e.eventId
  own : ∀ i, Knows K s.chains s.auditEvents (s.txns i) (g i)

variable {K} {ι : Type} {scrubPayload : Json → Json} {asked : AgentRequest → Prop}
  {g : ι → Progress} {s : Shared ι} {i : ι}

/-- Who does not hold a chain row knows nothing that an append to that chain could change. -/
theorem Knows.other {chains chains' : Chains} {rows rows' : List AuditRow} {t : Txn}
    {γ : Progress} {key : String} (h : Knows K chains rows t γ) (hlock : t.locked ≠ some key)
    (hchains : ∀ k, k ≠ key → chains'.lookup k = chains.lookup k)
    (hrows : ∀ k, k ≠ key → keyRows rows' k = keyRows rows k) : Knows K chains' rows' t γ := by
  have htail : ∀ k, t.locked = some k → tail rows' k = tail rows k := by
    intro k hk
    have hne : k ≠ key := by
      rintro rfl
      exact hlock hk
    rw [tail, tail, hrows k hne]
  have hfollows : ∀ row : AuditRow, t.locked = some row.chainKey → Follows K rows row →
      Follows K rows' row := by
    intro row hk hrow
    refine ⟨hrow.genuine, ?_, ?_⟩
    · rw [htail _ hk]
      exact hrow.prev
    · rw [htail _ hk]
      exact hrow.number
  cases γ with
  | idle => exact h
  | failed => trivial
  | opened =>
    refine ⟨h.1, h.2.1, h.2.2.imp_right ?_⟩
    rintro ⟨k, hk, hchain⟩
    refine ⟨k, hk, hchain.imp_right fun hnew => ⟨hnew.1, ?_⟩⟩
    rw [hchains k]
    · exact hnew.2
    · rintro rfl
      exact hlock hk
  | locked k head =>
    refine ⟨h.1, h.2.1, h.2.2.1, ?_⟩
    rw [htail k h.1]
    exact h.2.2.2
  | drawn row => exact ⟨h.1, h.2.1, h.2.2.1, hfollows row h.1 h.2.2.2⟩
  | written row => exact ⟨h.1, h.2.1, h.2.2.1, hfollows row h.1 h.2.2.2.1, h.2.2.2.2⟩
  | relayed row copy => exact ⟨h.1, h.2.1, h.2.2.1, hfollows row h.1 h.2.2.2.1, h.2.2.2.2⟩

theorem AppendInv.free (h : AppendInv K scrubPayload asked g s) {key : String}
    (hi : (s.txns i).locked = some key) : s.Free i key :=
  fun j hj hlocked => hj (h.alone key j i hlocked hi)

variable [DecidableEq ι]

/-- **A step that commits nothing**: one transaction changes, the tables stay. -/
theorem AppendInv.quiet {s' : Shared ι} (h : AppendInv K scrubPayload asked g s) (γ : Progress)
    (hchains : s'.chains = s.chains) (hrows : s'.auditEvents = s.auditEvents)
    (houtbox : s'.outbox = s.outbox) (htxns : ∀ j, j ≠ i → s'.txns j = s.txns j)
    (hlock : ∀ key, (s'.txns i).locked = some key → s.Free i key)
    (hevent : ∀ e ∈ (s'.txns i).event, (∀ r ∈ s.auditEvents, r.eventId ≠ e.eventId) ∧
      ∀ j, j ≠ i → ∀ f ∈ (s.txns j).event, f.eventId ≠ e.eventId)
    (hown : Knows K s.chains s.auditEvents (s'.txns i) γ) :
    AppendInv K scrubPayload asked (Function.update g i γ) s' := by
  refine ⟨?_, ?_, ?_, ?_, ?_, ?_, fun j => ?_⟩
  · rw [hchains, hrows]
    exact h.chain
  · rw [hrows, houtbox]
    exact h.sent
  · rw [hrows, houtbox]
    exact h.known
  · intro key a b ha hb
    by_contra hne
    by_cases hai : a = i
    · subst hai
      rw [htxns b (Ne.symm hne)] at hb
      exact hlock key ha b (Ne.symm hne) hb
    · rw [htxns a hai] at ha
      by_cases hbi : b = i
      · subst hbi
        exact hlock key hb a hai ha
      · rw [htxns b hbi] at hb
        exact hne (h.alone key a b ha hb)
  · intro a b hab e he f hf
    by_cases hai : a = i
    · subst hai
      rw [htxns b (Ne.symm hab)] at hf
      exact Ne.symm ((hevent e he).2 b (Ne.symm hab) f hf)
    · rw [htxns a hai] at he
      by_cases hbi : b = i
      · subst hbi
        exact (hevent f hf).2 a hai e he
      · rw [htxns b hbi] at hf
        exact h.apart a b hab e he f hf
  · intro a e he
    rw [hrows]
    by_cases hai : a = i
    · subst hai
      exact (hevent e he).1
    · rw [htxns a hai] at he
      exact h.unsaved a e he
  · rw [hchains, hrows]
    by_cases hj : j = i
    · subst hj
      rw [Function.update_self]
      exact hown
    · rw [Function.update_of_ne hj, htxns j hj]
      exact h.own j

/-- A transaction is replaced by one with no other lock and no other event. -/
theorem AppendInv.setTxn (h : AppendInv K scrubPayload asked g s) {t : Txn} (γ : Progress)
    (hlock : ∀ key, t.locked = some key → s.Free i key)
    (hevent : t.event = none ∨ t.event = (s.txns i).event)
    (hown : Knows K s.chains s.auditEvents t γ) :
    AppendInv K scrubPayload asked (Function.update g i γ) (s.setTxn i t) := by
  refine h.quiet γ rfl rfl rfl (fun j hj => setTxn_ne s hj t) ?_ ?_ ?_
  · rw [setTxn_self]
    exact hlock
  · rw [setTxn_self]
    intro e he
    rcases hevent with hnone | hsame
    · rw [hnone] at he
      cases he
    · rw [hsame] at he
      exact ⟨h.unsaved i e he, fun j hj f hf => h.apart j i hj f hf e he⟩
  · rw [setTxn_self]
    exact hown

/-- Nothing happened but an error. -/
theorem AppendInv.fail (h : AppendInv K scrubPayload asked g s) :
    AppendInv K scrubPayload asked (Function.update g i .failed) s :=
  h.quiet .failed rfl rfl rfl (fun _ _ => rfl) (fun _ hi => h.free hi)
    (fun e he => ⟨h.unsaved i e he, fun j hj f hf => h.apart j i hj f hf e he⟩) trivial

/-- The answer was lost. -/
theorem AppendInv.lose {γ : Progress}
    (h : AppendInv K scrubPayload asked (Function.update g i γ) s) :
    AppendInv K scrubPayload asked (Function.update g i .failed) s := by
  have hfail : AppendInv K scrubPayload asked
      (Function.update (Function.update g i γ) i .failed) s := h.fail
  rwa [Function.update_idem] at hfail

/-- An insert was refused. -/
theorem AppendInv.refuse (h : AppendInv K scrubPayload asked g s) (op : Call ι) :
    AppendInv K scrubPayload asked (Function.update g i .failed) (s.refused op) := by
  have hfail : AppendInv K scrubPayload asked (Function.update g i .failed) s := h.fail
  cases op with
  | insertEvent j entry => exact ⟨hfail.chain, hfail.sent, hfail.known, hfail.alone, hfail.apart,
      hfail.unsaved, hfail.own⟩
  | _ => exact hfail

/-! ## One append -/

/-- The specification: transactions wait for locks. -/
def appendSpec (K : Crypto) (scrubPayload : Json → Json) (asked : AgentRequest → Prop) :
    Spec ι (Call ι) Res AuditErr (Shared ι) Progress where
  inv := AppendInv K scrubPayload asked
  ok _ s _ op := Admitted s op
  prop _ _ _ _ _ _ := True

/-- The ends of a statement: an error without effect, or one of its two with its effect, no unique
index standing against it. -/
theorem sem_ends (e : Fate) (op : Call ι) (s : Shared ι) :
    sem e op s = (.error .database, s) ∨ sem e op s = (.error .database, s.refused op) ∨
      (s.refuses op = false ∧ (sem e op s = (.error .database, (exec op s).2) ∨
        sem e op s = (.ok (exec op s).1, (exec op s).2))) := by
  unfold sem
  by_cases hfails : e = .fails
  · exact .inl (if_pos hfails)
  · rw [if_neg hfails]
    by_cases hrefused : s.refuses op = true
    · exact .inr (.inl (if_pos hrefused))
    · rw [if_neg hrefused]
      refine .inr (.inr ⟨Bool.not_eq_true _ ▸ hrefused, ?_⟩)
      by_cases hlost : e = .lost
      · exact .inl (if_pos hlost)
      · exact .inr (if_neg hlost)

/-- One statement whose effect is known. -/
theorem statement_keeps {op : Call ι} {γ : Progress} {φ : Res op → Progress → Prop}
    (h : ∀ g s, g i = γ → AppendInv K scrubPayload asked g s → Admitted s op →
      s.refuses op = false →
      AppendInv K scrubPayload asked (Function.update g i (γ.next op (exec op s).1))
        (exec op s).2 ∧ φ (exec op s).1 (γ.next op (exec op s).1)) :
    Outline (appendSystem ι) (appendSpec K scrubPayload asked) i (onOk φ) (call op) γ := by
  refine outline_perform fun g s e hg hinv hok => ?_
  have hsem : (appendSystem ι).sem e op s = sem e op s := rfl
  rw [hsem]
  rcases sem_ends e op s with hend | hend | ⟨hfree, hend | hend⟩
  · rw [hend]
    exact ⟨hinv.fail, trivial, trivial⟩
  · rw [hend]
    exact ⟨hinv.refuse op, trivial, trivial⟩
  · obtain ⟨hinv', -⟩ := h g s hg hinv hok hfree
    rw [hend]
    exact ⟨hinv'.lose, trivial, trivial⟩
  · obtain ⟨hinv', hφ⟩ := h g s hg hinv hok hfree
    rw [hend]
    exact ⟨hinv', trivial, hφ⟩

theorem begin_outline (γ : Progress) :
    Outline (appendSystem ι) (appendSpec K scrubPayload asked) i (onOk fun _ γ => γ = .opened)
      (call (.begin i)) γ := by
  refine statement_keeps fun g s _ hinv _ _ => ⟨?_, rfl⟩
  refine hinv.setTxn _ (fun key h => ?_) (.inl rfl) ⟨rfl, rfl, .inl ⟨rfl, rfl⟩⟩
  cases h

theorem createChain_keeps (key : String) :
    Outline (appendSystem ι) (appendSpec K scrubPayload asked) i (onOk fun _ γ => γ = .opened)
      (call (.createChain i key)) .opened := by
  refine statement_keeps fun g s hg hinv hok _ => ⟨?_, rfl⟩
  have hown := hinv.own i
  rw [hg] at hown
  by_cases hnone : s.chainOf i key = none
  · have hchain : s.chains.lookup key = none := by
      rw [Shared.chainOf] at hnone
      split_ifs at hnone with hlock
      · exact (Option.or_eq_none_iff.1 hnone).2
      · exact hnone
    simp only [exec, if_pos hnone]
    refine hinv.setTxn _ (fun k hk => ?_) (.inr rfl)
      ⟨hown.1, hown.2.1, .inr ⟨key, rfl, .inr ⟨rfl, hchain⟩⟩⟩
    cases hk
    exact hok hchain
  · simp only [exec, if_neg hnone]
    have hsame : Function.update g i Progress.opened = g := by rw [← hg, Function.update_eq_self]
    exact hsame.symm ▸ hinv

omit [DecidableEq ι] in
/-- The chain row that is read is the tail of its events. -/
theorem chainOf_tail (hinv : AppendInv K scrubPayload asked g s) (hg : g i = .opened)
    {key : String} {head : ChainRow} (hhead : s.chainOf i key = some head) :
    head = tail s.auditEvents key := by
  have hown := hinv.own i
  rw [hg] at hown
  obtain ⟨-, -, hlock⟩ := hown
  have hchain := hinv.chain key
  rw [Shared.chainOf] at hhead
  split_ifs at hhead with hkey
  · rcases hlock with ⟨hnone, -⟩ | ⟨k, hk, hrow⟩
    · rw [hnone] at hkey
      cases hkey
    · rw [hk] at hkey
      cases hkey
      rcases hrow with hrow | ⟨hrow, hnew⟩
      · rw [hrow, Option.none_or] at hhead
        exact hchain.head head (mem_of_lookup hhead)
      · rw [hrow, Option.some_or] at hhead
        cases hhead
        rw [tail, hchain.fresh hnew]
        rfl
  · exact hchain.head head (mem_of_lookup hhead)

theorem lockChain_keeps (key : String) :
    Outline (appendSystem ι) (appendSpec K scrubPayload asked) i
      (onOk fun found γ => ∀ head ∈ (found : Option ChainRow), γ = .locked key head)
      (call (.lockChain i key)) .opened := by
  refine statement_keeps fun g s hg hinv hok _ => ?_
  have hown := hinv.own i
  rw [hg] at hown
  cases hfound : s.chainOf i key with
  | none =>
    simp only [exec, if_pos hfound]
    exact ⟨hinv.fail, fun head h => by cases h⟩
  | some head =>
    have htail := chainOf_tail hinv hg hfound
    by_cases hlock : (s.txns i).locked = some key
    · have hexec : exec (.lockChain i key) s = (some head, s) := by
        simp only [exec, hfound, hlock, if_true, if_false, reduceCtorEq]
        rfl
      rw [hexec]
      refine ⟨?_, fun h hh => by cases hh; rfl⟩
      exact hinv.quiet _ rfl rfl rfl (fun _ _ => rfl) (fun _ hi => hinv.free hi)
        (fun e he => ⟨hinv.unsaved i e he, fun j hj f hf => hinv.apart j i hj f hf e he⟩)
        ⟨hlock, hown.1, hown.2.1, htail⟩
    · have hexec : exec (.lockChain i key) s =
          (some head, s.setTxn i { s.txns i with locked := some key, chain := none }) := by
        simp only [exec, hfound, hlock, if_false, reduceCtorEq]
        rfl
      rw [hexec]
      refine ⟨?_, fun h hh => by cases hh; rfl⟩
      refine hinv.setTxn _ (fun k hk => ?_) (.inr rfl) ⟨rfl, hown.1, hown.2.1, htail⟩
      cases hk
      exact hok

/-- An inserted event follows on its chain. -/
theorem insertEvent_keeps {key : String} {head : ChainRow} {entry : Entry}
    (hkey : entry.chainKey = key) (hprev : entry.prevHash = head.headHash)
    (hnumber : entry.chainSeq = head.length + 1)
    (hgenuine : ∀ seq, Genuine K ⟨entry, seq⟩) :
    Outline (appendSystem ι) (appendSpec K scrubPayload asked) i
      (onOk fun seq γ => γ = .drawn ⟨entry, (seq : ℤ)⟩)
      (call (.insertEvent i entry)) (.locked key head) := by
  refine statement_keeps fun g s hg hinv hok hfree => ⟨?_, rfl⟩
  have hown := hinv.own i
  rw [hg] at hown
  obtain ⟨hlock, -, hrelayed, hhead⟩ := hown
  have hmeets : ∀ row : AuditRow, entry.meets row.toEntry = false → row.eventId ≠ entry.eventId := by
    intro row hrow heq
    rw [Entry.meets, heq.symm] at hrow
    simp at hrow
  have htxn : (exec (.insertEvent i entry) s).2.txns i =
      { s.txns i with event := some ⟨entry, s.lastSeq + 1⟩ } := Function.update_self ..
  refine hinv.quiet _ rfl rfl rfl (fun j hj => Function.update_of_ne hj _ _) ?_ ?_ ?_
  · rw [htxn]
    exact fun k hk => hinv.free hk
  · rw [htxn]
    intro e he
    cases he
    refine ⟨fun r hr => hmeets r ?_, fun j hj f hf => hmeets f (hok j hj f hf)⟩
    rw [Shared.refuses, List.any_eq_false] at hfree
    simpa using hfree r hr
  · rw [htxn]
    subst hkey
    refine ⟨hlock, rfl, hrelayed, hgenuine _, ?_, ?_⟩
    · change entry.prevHash = _
      rw [hprev, hhead]
    · change entry.chainSeq = _
      rw [hnumber, hhead]

theorem updateChain_keeps {row : AuditRow} {key : String} {head : ChainRow}
    (hhead : head = ⟨row.hash, row.chainSeq⟩) :
    Outline (appendSystem ι) (appendSpec K scrubPayload asked) i (onOk fun _ γ => γ = .written row)
      (call (.updateChain i key head)) (.drawn row) := by
  refine statement_keeps fun g s hg hinv _ _ => ⟨?_, rfl⟩
  have hown := hinv.own i
  rw [hg] at hown
  obtain ⟨hlock, hevent, hrelayed, hfollows⟩ := hown
  exact hinv.setTxn _ (fun k hk => hinv.free hk) (.inr rfl)
    ⟨hlock, hevent, hrelayed, hfollows, congrArg some hhead⟩

theorem insertOutbox_keeps {row : AuditRow} (copy : OutboxRow) :
    Outline (appendSystem ι) (appendSpec K scrubPayload asked) i
      (onOk fun _ γ => γ = .relayed row copy) (call (.insertOutbox i copy)) (.written row) := by
  refine statement_keeps fun g s hg hinv _ _ => ⟨?_, rfl⟩
  have hown := hinv.own i
  rw [hg] at hown
  obtain ⟨hlock, hevent, -, hfollows, hchain⟩ := hown
  exact hinv.setTxn _ (fun k hk => hinv.free hk) (.inr rfl)
    ⟨hlock, hevent, rfl, hfollows, hchain⟩

theorem rollback_keeps (γ : Progress) :
    Outline (appendSystem ι) (appendSpec K scrubPayload asked) i (onOk fun _ _ => True)
      (call (.rollback i)) γ := by
  refine statement_keeps fun g s _ hinv _ _ => ⟨?_, trivial⟩
  refine hinv.setTxn _ (fun k hk => ?_) (.inl rfl) rfl
  cases hk

/-! ## Commits -/

theorem keyRows_append (rows : List AuditRow) (row : AuditRow) (key : String) :
    keyRows (rows ++ [row]) key = keyRows rows key ++ if row.chainKey = key then [row] else [] := by
  rw [keyRows, keyRows, List.filter_append]
  by_cases hkey : row.chainKey = key <;> simp [hkey]

/-- An appended event is the new tail of its chain. -/
theorem tail_append {rows : List AuditRow} {row : AuditRow} (h : Follows K rows row) :
    tail (rows ++ [row]) row.chainKey = ⟨row.hash, row.chainSeq⟩ := by
  rw [tail, keyRows_append, if_pos rfl, HashChain.head_concat, List.length_append,
    List.length_singleton, h.number]
  rfl

/-- **An appended event** keeps its chain in good order. -/
theorem chainOk_append {chains : Chains} {rows : List AuditRow} {row : AuditRow}
    (h : ∀ key, ChainOk K chains rows key) (hrow : Follows K rows row) (key : String) :
    ChainOk K (chains.set row.chainKey ⟨row.hash, row.chainSeq⟩) (rows ++ [row]) key := by
  have hkey := h key
  by_cases hsame : row.chainKey = key
  · subst hsame
    have hrows : keyRows (rows ++ [row]) row.chainKey = keyRows rows row.chainKey ++ [row] := by
      rw [keyRows_append, if_pos rfl]
    refine ⟨⟨?_, ?_⟩, ?_, ?_, ?_⟩
    · rw [hrows]
      exact HashChain.linked_concat.2 ⟨hkey.replays.linked, hrow.prev⟩
    · rw [hrows]
      intro r hr
      rcases List.mem_append.1 hr with hr | hr
      · exact hkey.replays.genuine r hr
      · rw [List.mem_singleton.1 hr]
        exact hrow.genuine
    · rw [hrows, List.map_append, hkey.numbered, List.length_append, List.length_singleton,
        List.map_singleton, hrow.number, List.range'_concat, tail]
      simp [Nat.add_comm]
    · rw [tail_append hrow]
      intro r hr
      rcases mem_set hr with hnew | ⟨-, hne⟩
      · exact (Prod.mk.inj hnew).2
      · exact absurd rfl hne
    · rw [Chains.lookup_set_self]
      intro hnone
      cases hnone
  · have hrows : keyRows (rows ++ [row]) key = keyRows rows key := by
      rw [keyRows_append, if_neg hsame, List.append_nil]
    have hlookup := Chains.lookup_set_ne chains (Ne.symm hsame) ⟨row.hash, row.chainSeq⟩
    refine ⟨⟨?_, ?_⟩, ?_, ?_, ?_⟩
    · rw [hrows]
      exact hkey.replays.linked
    · rw [hrows]
      exact hkey.replays.genuine
    · rw [hrows]
      exact hkey.numbered
    · rw [tail, hrows]
      intro r hr
      rcases mem_set hr with hnew | ⟨hold, -⟩
      · exact absurd (Prod.mk.inj hnew).1.symm hsame
      · exact hkey.head r hold
    · rw [hlookup, hrows]
      exact hkey.fresh

/-- What a transaction that is ready to commit holds. -/
structure Ready (K : Crypto) (rows : List AuditRow) (t : Txn) (row : AuditRow) : Prop where
  locked : t.locked = some row.chainKey
  event : t.event = some row
  chain : t.chain = some ⟨row.hash, row.chainSeq⟩
  follows : Follows K rows row

/-- **A commit** keeps the invariant. -/
theorem commit_keeps {γ : Progress} {row : AuditRow} {request : AgentRequest}
    (hready : ∀ {chains rows t}, Knows K chains rows t γ → Ready K rows t row ∧
      t.relayed.toList = copies scrubPayload request)
    (hasked : asked request) (hwrote : Wrote scrubPayload request row)
    (hids : ∀ o ∈ copies scrubPayload request, o.eventId = row.eventId) :
    Outline (appendSystem ι) (appendSpec K scrubPayload asked) i (onOk fun _ _ => True)
      (call (.commit i)) γ := by
  refine statement_keeps fun g s hg hinv _ _ => ⟨?_, trivial⟩
  have hown := hinv.own i
  rw [hg] at hown
  obtain ⟨⟨hlock, hevent, hchain, hfollows⟩, hcopies⟩ := hready hown
  have hchains : (exec (.commit i) s).2.chains =
      s.chains.set row.chainKey ⟨row.hash, row.chainSeq⟩ := by
    simp only [exec, Txn.intoChains, hlock, hchain]
  have hrows : (exec (.commit i) s).2.auditEvents = s.auditEvents ++ [row] := by
    simp only [exec, hevent, Option.toList_some]
  have houtbox : (exec (.commit i) s).2.outbox = s.outbox ++ copies scrubPayload request := by
    simp only [exec, hcopies]
  have hself : (exec (.commit i) s).2.txns i = {} := Function.update_self ..
  have hother : ∀ j, j ≠ i → (exec (.commit i) s).2.txns j = s.txns j := fun j hj =>
    Function.update_of_ne hj _ _
  have hnew := hinv.unsaved i row hevent
  refine ⟨?_, ?_, ?_, ?_, ?_, ?_, fun j => ?_⟩
  · rw [hchains, hrows]
    exact chainOk_append hinv.chain hfollows
  · rw [hrows, houtbox]
    intro r hr
    rcases List.mem_append.1 hr with hr | hr
    · -- the copy of the new event is not one of an older event
      obtain ⟨request', hasked', hwrote', hsent⟩ := hinv.sent r hr
      refine ⟨request', hasked', hwrote', ?_⟩
      rw [List.filter_append, hsent, List.filter_eq_nil_iff.2, List.append_nil]
      intro o ho
      rw [hids o ho]
      simpa using (hnew r hr).symm
    · rw [List.mem_singleton.1 hr]
      refine ⟨request, hasked, hwrote, ?_⟩
      rw [List.filter_append, List.filter_eq_nil_iff.2, List.nil_append, List.filter_eq_self.2]
      · intro o ho
        simpa using hids o ho
      · intro o ho
        obtain ⟨r', hr', hid⟩ := hinv.known o ho
        rw [← hid]
        simpa using hnew r' hr'
  · rw [hrows, houtbox]
    intro o ho
    rcases List.mem_append.1 ho with ho | ho
    · obtain ⟨r, hr, hid⟩ := hinv.known o ho
      exact ⟨r, List.mem_append_left _ hr, hid⟩
    · exact ⟨row, by simp, (hids o ho).symm⟩
  · intro key a b ha hb
    by_cases hai : a = i
    · rw [hai, hself] at ha
      cases ha
    · by_cases hbi : b = i
      · rw [hbi, hself] at hb
        cases hb
      · rw [hother a hai] at ha
        rw [hother b hbi] at hb
        exact hinv.alone key a b ha hb
  · intro a b hab e he f hf
    by_cases hai : a = i
    · rw [hai, hself] at he
      cases he
    · by_cases hbi : b = i
      · rw [hbi, hself] at hf
        cases hf
      · rw [hother a hai] at he
        rw [hother b hbi] at hf
        exact hinv.apart a b hab e he f hf
  · intro a e he
    by_cases hai : a = i
    · rw [hai, hself] at he
      cases he
    · rw [hother a hai] at he
      rw [hrows]
      intro r hr
      rcases List.mem_append.1 hr with hr | hr
      · exact hinv.unsaved a e he r hr
      · rw [List.mem_singleton.1 hr]
        exact hinv.apart i a (Ne.symm hai) row hevent e he
  · by_cases hj : j = i
    · subst hj
      rw [hself, Function.update_self]
      rfl
    · rw [hother j hj, Function.update_of_ne hj, hchains, hrows]
      have hfree : (s.txns j).locked ≠ some row.chainKey :=
        fun hl => hj (hinv.alone _ j i hl hlock)
      refine (hinv.own j).other hfree (fun k hk => Chains.lookup_set_ne _ hk _) fun k hk => ?_
      rw [keyRows_append, if_neg (Ne.symm hk), List.append_nil]

/-- The event that a request writes after a head. -/
theorem genuine_entry {request : AgentRequest} {head : ChainRow} {hash : String} {payload : Json}
    (h : digest K head.headHash (request.entry payload head).content = .ok hash) (seq : ℤ) :
    Genuine K ⟨{ request.entry payload head with hash := hash }, seq⟩ := h

/-- **An append** keeps the invariant at each of its statements. -/
theorem agentAppend_keeps {request : AgentRequest} (hasked : asked request) (γ : Progress) :
    Outline (appendSystem ι) (appendSpec K scrubPayload asked) i (fun _ _ => True)
      (agentAppend K i scrubPayload request) γ := by
  refine outline_bind (begin_outline γ) (fun _ γ hγ => ?_) fun _ _ _ => trivial
  change γ = .opened at hγ
  subst hγ
  refine outline_tryCatch (Q := onOk fun _ _ => True) ?_ (fun _ _ _ => trivial) fun x γ _ => ?_
  · refine outline_bind_ok (createChain_keeps request.key) fun _ γ hγ => ?_
    subst hγ
    refine outline_bind_ok (lockChain_keeps request.key) fun found γ hγ => ?_
    cases found with
    | none => trivial
    | some head =>
      obtain rfl := hγ head rfl
      have hclean : (if request.scrub = true then scrubPayload request.payload
        else request.payload) = clean scrubPayload request := rfl
      simp only [hclean]
      cases hhash : digest K head.headHash
          (request.entry (clean scrubPayload request) head).content with
      | error x => trivial
      | ok hash =>
        refine outline_bind_ok (φ := fun h γ => hash = h ∧ γ = .locked request.key head)
          ⟨rfl, rfl⟩ fun h γ hγ => ?_
        obtain ⟨rfl, rfl⟩ := hγ
        refine outline_bind_ok (insertEvent_keeps rfl rfl rfl (genuine_entry hhash))
          fun seq γ hγ => ?_
        subst hγ
        refine outline_bind_ok (updateChain_keeps rfl) fun _ γ hγ => ?_
        subst hγ
        have hwrote : Wrote scrubPayload request ⟨{ request.entry
            (clean scrubPayload request) head with hash := hash }, seq⟩ := ⟨head, hash, rfl⟩
        cases hrelay : request.relay with
        | true =>
          have hcopies : copies scrubPayload request =
              [request.relayed (clean scrubPayload request)] := by
            rw [copies, hrelay, if_pos rfl]
          refine outline_bind_ok (insertOutbox_keeps _) fun _ γ hγ => ?_
          subst hγ
          refine commit_keeps (fun hknows => ?_) hasked hwrote fun o ho => ?_
          · obtain ⟨hlock, hevent, hrelayed, hfollows, hchain⟩ := hknows
            refine ⟨⟨hlock, hevent, hchain, hfollows⟩, ?_⟩
            rw [hrelayed, hcopies]
            rfl
          · rw [hcopies] at ho
            rw [List.mem_singleton.1 ho]
            rfl
        | false =>
          have hcopies : copies scrubPayload request = [] := by
            rw [copies, hrelay, if_neg Bool.false_ne_true]
          refine commit_keeps (fun hknows => ?_) hasked hwrote fun o ho => ?_
          · obtain ⟨hlock, hevent, hrelayed, hfollows, hchain⟩ := hknows
            refine ⟨⟨hlock, hevent, hchain, hfollows⟩, ?_⟩
            rw [hrelayed, hcopies]
            rfl
          · rw [hcopies] at ho
            cases ho
  · exact outline_bind (rollback_keeps γ) (fun _ _ _ => trivial) fun _ _ _ => trivial

/-! ## Runs -/

/-- The appends of a connection, one after another. -/
theorem appends_keeps {requests : List AgentRequest} (hasked : ∀ r ∈ requests, asked r)
    (γ : Progress) : Outline (appendSystem ι) (appendSpec K scrubPayload asked) i
      (fun _ _ => True) (appends K i scrubPayload requests) γ := by
  induction requests generalizing γ with
  | nil => trivial
  | cons request requests ih =>
    have hfirst : Outline (appendSystem ι) (appendSpec K scrubPayload asked) i (fun _ _ => True)
        (agentAppend K i scrubPayload request) γ :=
      agentAppend_keeps (hasked request List.mem_cons_self) γ
    refine outline_bind (outline_attempt hfirst) (fun _ γ' _ => ?_) fun _ _ _ => trivial
    exact ih (fun r hr => hasked r (List.mem_cons_of_mem _ hr)) γ'

omit [DecidableEq ι] in
theorem appendInv_empty : AppendInv K scrubPayload asked (fun _ : ι => .idle)
    ⟨[], [], [], 0, fun _ => {}⟩ := by
  refine ⟨fun key => ⟨⟨trivial, fun r hr => by cases hr⟩, rfl, fun r hr => ?_, fun _ => rfl⟩,
    fun r hr => ?_, fun o ho => ?_, fun key i j hi => ?_, fun i j _ e he => ?_, fun i e he => ?_,
    fun i => rfl⟩
  · cases hr
  · cases hr
  · cases ho
  · cases hi
  · cases he
  · cases he

/-- **Every run** of appends reaches tables in good order. -/
theorem appends_reach (K : Crypto) (scrubPayload : Json → Json)
    (requests : ι → List AgentRequest) {xs : List (ι × Fate)}
    (hlocks : (appendSystem ι).Along Granted (appendStart K scrubPayload requests) xs) :
    AppendInv K scrubPayload (fun r => ∃ i, r ∈ requests i)
      ((appendSystem ι).run (appendStart K scrubPayload requests) xs).hist
      ((appendSystem ι).run (appendStart K scrubPayload requests) xs).shared := by
  have hstart : Outlined (appendSystem ι)
      (appendSpec K scrubPayload fun r => ∃ i, r ∈ requests i) (fun _ _ _ => True)
      (appendStart K scrubPayload requests) :=
    ⟨appendInv_empty, fun i => appends_keeps (fun r hr => ⟨i, hr⟩) .idle⟩
  exact (outline_run hstart hlocks).2.inv

omit [DecidableEq ι] in
/-- Numbered events are in the order of their numbers. -/
theorem eventsOf_numbered {rows : List AuditRow} {key : String}
    (h : (keyRows rows key).map (·.chainSeq) = List.range' 1 (keyRows rows key).length) :
    eventsOf rows key = keyRows rows key := by
  have hsorted : ((keyRows rows key).map (·.chainSeq)).Pairwise (· ≤ ·) := by
    rw [h]
    exact (List.pairwise_lt_range' 1).imp fun hlt => hlt.le
  exact (List.pairwise_map.1 hsorted).insertionSort_eq

/-- **The tables in good order**: all chains are valid. -/
theorem chainOk_valid {chains : Chains} {rows : List AuditRow}
    (h : ∀ key, ChainOk K chains rows key) : AllValid (verifyAll K chains rows) := by
  rw [verifyAll_valid]
  intro e _
  rw [verifyChain_valid, eventsOf_numbered (h e.1).numbered]
  refine ⟨(h e.1).replays, fun row hrow => ?_⟩
  rw [(h e.1).head row (mem_of_lookup hrow)]
  rfl

/-- **The chains of the agent lane.** In every state that any number of connections reach by any
number of appends, whatever fails: all chains are valid; the events of each are numbered from one
without gap and continue each other; and each event has the copies in the outbox that its request
asks for, one or none. -/
theorem appends_verify (K : Crypto) (scrubPayload : Json → Json)
    (requests : ι → List AgentRequest) {xs : List (ι × Fate)}
    (hlocks : (appendSystem ι).Along Granted (appendStart K scrubPayload requests) xs) :
    let s := ((appendSystem ι).run (appendStart K scrubPayload requests) xs).shared
    AllValid (verifyAll K s.chains s.auditEvents) ∧
      (∀ key, (eventsOf s.auditEvents key).map (·.chainSeq) =
        List.range' 1 (eventsOf s.auditEvents key).length) ∧
      (∀ key, HashChain.Linked prevOf hashOf genesisPrevHash (eventsOf s.auditEvents key)) ∧
      ∀ row ∈ s.auditEvents, ∃ i, ∃ request ∈ requests i, Wrote scrubPayload request row ∧
        s.outbox.filter (fun o => o.eventId = row.eventId) =
          if request.relay then [request.relayed (clean scrubPayload request)] else [] := by
  intro s
  have hinv := appends_reach K scrubPayload requests hlocks
  refine ⟨chainOk_valid hinv.chain, fun key => ?_, fun key => ?_, fun row hrow => ?_⟩
  · rw [eventsOf_numbered (hinv.chain key).numbered]
    exact (hinv.chain key).numbered
  · rw [eventsOf_numbered (hinv.chain key).numbered]
    exact (hinv.chain key).replays.linked
  · obtain ⟨request, ⟨i, hi⟩, hwrote, hsent⟩ := hinv.sent row hrow
    exact ⟨i, request, hi, hwrote, hsent⟩

/-- Two connections; both append to the chain of one mandate, one of them to the system's too. -/
def racing : Bool → List AgentRequest
  | false => [⟨"mandate.created", .obj [], none, none, none, some "mdt_1", true, false, none,
      "2026-08-31T00:00:00+00:00", "evt_1"⟩, ⟨"chat.message", .obj [], none, none, none, none,
      false, false, none, "2026-08-31T00:00:02+00:00", "evt_2"⟩]
  | true => [⟨"purchase.requested", .obj [], none, none, none, some "mdt_1", true, false, none,
      "2026-08-31T00:00:01+00:00", "evt_3"⟩]

/-- Both begin; the first creates the chain, the second waits for it. -/
def raced : List (Bool × Fate) :=
  [(false, .runs), (true, .runs)] ++ List.replicate 6 (false, .runs) ++
    List.replicate 6 (true, .runs) ++ List.replicate 6 (false, .runs)

/-- The three appends end, and the chains are valid. -/
theorem appends_verify_raced :
    ((appendSystem Bool).run (appendStart textCrypto id racing) raced).shared.auditEvents.length =
      3 ∧
    AllValid (verifyAll textCrypto
      ((appendSystem Bool).run (appendStart textCrypto id racing) raced).shared.chains
      ((appendSystem Bool).run (appendStart textCrypto id racing) raced).shared.auditEvents) :=
  ⟨by decide +kernel, (appends_verify textCrypto id racing (by decide +kernel)).1⟩

end TryTrust.Audit.Agent
