import TryTrust.Audit.Linked

/-!
# Two writers, one table

Any number of appends of the API ledger and of the agent lane, statement by statement, each
statement running, failing, or losing its answer.

* `Stage`, `Own`, `LedgerInv`: what a transaction under way knows of the partition it has locked;
* `apiAppend_outline`, `agentAppend_outline`: every append keeps the invariant;
* `InTurn`: a committed row of the API ledger takes the number after that of the row before it;
* **`shared_chain_verifies`**: in every run, `verifyChain` and `signRoot` accept every state of the
  partition exactly when every commit is in turn; **`shared_chain_refused`**: one append of the
  agent lane in between makes them refuse.
-/

namespace TryTrust.Audit

open Conc

/-! ## Transactions under way -/

/-- How far an append of the API ledger has come. -/
inductive Stage where
  /-- Before its read of the chain row, or after its end. -/
  | idle
  /-- It holds the chain row, with the head it read. -/
  | locked (head : ChainRow)
  /-- Its row is inserted. -/
  | drawn (row : AuditRow)
  /-- The chain row is updated too. -/
  | written (row : AuditRow)
  /-- A statement failed. -/
  | failed

/-- The next stage after an answer. -/
def Stage.next (γ : Stage) : {ι : Type} → (op : Call ι) → Res op → Stage
  | _, .lockChain .., r => match (r : Option ChainRow) with
    | some head => .locked head
    | none => .failed
  | _, .insertEvent _ entry, (seq : ℤ) => .drawn ⟨entry, seq⟩
  | _, .updateChain .., _ => match γ with
    | .drawn row => .written row
    | _ => .failed
  | _, .commit _, _ => .idle
  | _, .rollback _, _ => .idle
  | _, _, _ => γ

/-- The four ends of a statement: without effect, refused, with its answer lost, answered. -/
theorem sem_cases {ι : Type} [DecidableEq ι] (e : Fate) (op : Call ι) (s : Shared ι) :
    sem e op s = (.error .database, s) ∨ sem e op s = (.error .database, s.refused op) ∨
      sem e op s = (.error .database, (exec op s).2) ∨
        sem e op s = (.ok (exec op s).1, (exec op s).2) := by
  unfold sem
  by_cases hfails : e = .fails
  · exact .inl (if_pos hfails)
  · rw [if_neg hfails]
    by_cases hrefused : s.refuses op = true
    · exact .inr (.inl (if_pos hrefused))
    · rw [if_neg hrefused]
      by_cases hlost : e = .lost
      · exact .inr (.inr (.inl (if_pos hlost)))
      · exact .inr (.inr (.inr (if_neg hlost)))

/-- The system: what a fate does, and the stages. -/
def auditSystem (ι : Type) [DecidableEq ι] : System ι (Call ι) Res AuditErr (Shared ι) Stage Fate
    where
  sem := sem
  adv _ γ _ op r := match r with
    | .ok a => γ.next op a
    | .error _ => .failed

section Invariant

variable {ι : Type} (K : Crypto)

/-- A row that may follow on the partition. -/
structure Follows (s : Shared ι) (row : AuditRow) : Prop where
  key : row.chainKey = apiChainKey
  genuine : Genuine K row
  prev : row.prevHash = tailHash (apiRows s.auditEvents)
  above : ∀ r ∈ apiRows s.auditEvents, r.seq < row.seq
  below : row.seq ≤ s.lastSeq

/-- What an append of the API ledger knows at a stage. -/
def Knows (s : Shared ι) (t : Txn) : Stage → Prop
  | .idle => t.event = none ∧ ((t.locked = none ∧ t.chain = none) ∨ (t.locked = some apiChainKey ∧
      (t.chain = none ∨ (t.chain = some ⟨genesisPrevHash, 0⟩ ∧ s.chains.lookup apiChainKey = none))))
  | .locked head => t.locked = some apiChainKey ∧ t.event = none ∧
      head.headHash = tailHash (apiRows s.auditEvents)
  | .drawn row => t.locked = some apiChainKey ∧ t.event = some row ∧ Follows K s row
  | .written row => t.locked = some apiChainKey ∧ t.event = some row ∧ Follows K s row ∧
      ∃ head, t.chain = some head ∧ head.headHash = row.hash
  | .failed => True

/-- A transaction that has nothing to do with the partition. -/
structure Foreign (t : Txn) : Prop where
  locked : t.locked ≠ some apiChainKey
  event : ∀ e ∈ t.event, e.chainKey ≠ apiChainKey

/-- What a writer's own transaction is, by the side it is on. -/
def Own (w : Writer) (s : Shared ι) (t : Txn) (γ : Stage) : Prop :=
  match w with
  | .api _ => Knows K s t γ
  | .agent _ => Foreign t

/-- **The invariant**: the partition is linked, its chain row has its head, and every transaction
knows what its stage says. -/
structure LedgerInv (w : ι → Writer) (g : ι → Stage) (s : Shared ι) : Prop where
  linked : Linked K (apiRows s.auditEvents)
  head : ∀ row ∈ s.chains.lookup apiChainKey, row.headHash = tailHash (apiRows s.auditEvents)
  fresh : s.chains.lookup apiChainKey = none → apiRows s.auditEvents = []
  seqs : ∀ r ∈ apiRows s.auditEvents, r.seq ≤ s.lastSeq
  counts : 0 ≤ s.lastSeq
  alone : ∀ i j, (s.txns i).locked = some apiChainKey → (s.txns j).locked = some apiChainKey → i = j
  own : ∀ i, Own K (w i) s (s.txns i) (g i)

variable {K} {w : ι → Writer} {g : ι → Stage} {s s' : Shared ι} {i : ι}

theorem Follows.frame {row : AuditRow} (h : Follows K s row)
    (hrows : apiRows s'.auditEvents = apiRows s.auditEvents) (hseq : s.lastSeq ≤ s'.lastSeq) :
    Follows K s' row :=
  ⟨h.key, h.genuine, hrows ▸ h.prev, hrows ▸ h.above, h.below.trans hseq⟩

theorem Own.frame {w : Writer} {t : Txn} {γ : Stage} (h : Own K w s t γ)
    (hrows : apiRows s'.auditEvents = apiRows s.auditEvents)
    (hchain : s'.chains.lookup apiChainKey = s.chains.lookup apiChainKey) (hseq : s.lastSeq ≤ s'.lastSeq) :
    Own K w s' t γ := by
  cases w with
  | agent request => exact h
  | api request =>
    cases γ with
    | idle =>
      refine ⟨h.1, h.2.imp_right fun hlock => ⟨hlock.1, hlock.2.imp_right fun hown => ?_⟩⟩
      exact ⟨hown.1, hchain.trans hown.2⟩
    | locked head => exact ⟨h.1, h.2.1, h.2.2.trans (by rw [hrows])⟩
    | drawn row => exact ⟨h.1, h.2.1, h.2.2.frame hrows hseq⟩
    | written row => exact ⟨h.1, h.2.1, h.2.2.1.frame hrows hseq, h.2.2.2⟩
    | failed => trivial

/-- Who holds no lock on the partition knows nothing that a commit could change. -/
theorem Own.unlocked {w : Writer} {t : Txn} {γ : Stage} (h : Own K w s t γ)
    (hlock : t.locked ≠ some apiChainKey) (s' : Shared ι) : Own K w s' t γ := by
  cases w with
  | agent request => exact h
  | api request =>
    cases γ with
    | idle => exact ⟨h.1, .inl (h.2.resolve_right fun hl => hlock hl.1)⟩
    | locked head => exact absurd h.1 hlock
    | drawn row => exact absurd h.1 hlock
    | written row => exact absurd h.1 hlock
    | failed => trivial

/-- Who holds the lock is alone with it. -/
theorem LedgerInv.free (h : LedgerInv K w g s) (hi : (s.txns i).locked = some apiChainKey) :
    s.Free i apiChainKey := fun j hj hlocked => hj (h.alone j i hlocked hi)

variable [DecidableEq ι]

@[simp] theorem setTxn_self (s : Shared ι) (i : ι) (t : Txn) : (s.setTxn i t).txns i = t :=
  Function.update_self ..

theorem setTxn_ne (s : Shared ι) {i j : ι} (h : j ≠ i) (t : Txn) :
    (s.setTxn i t).txns j = s.txns j := Function.update_of_ne h ..

/-- **A step off the partition**: one transaction changes, the partition and its chain row stay. -/
theorem LedgerInv.quiet {s' : Shared ι} (h : LedgerInv K w g s) (γ : Stage)
    (hrows : apiRows s'.auditEvents = apiRows s.auditEvents)
    (hchain : s'.chains.lookup apiChainKey = s.chains.lookup apiChainKey) (hseq : s.lastSeq ≤ s'.lastSeq)
    (htxns : ∀ j, j ≠ i → s'.txns j = s.txns j)
    (hlock : (s'.txns i).locked = some apiChainKey → s.Free i apiChainKey)
    (hown : Own K (w i) s' (s'.txns i) γ) : LedgerInv K w (Function.update g i γ) s' := by
  refine ⟨hrows ▸ h.linked, ?_, ?_, ?_, h.counts.trans hseq, ?_, fun j => ?_⟩
  · rw [hchain, hrows]
    exact h.head
  · rw [hchain, hrows]
    exact h.fresh
  · rw [hrows]
    exact fun r hr => (h.seqs r hr).trans hseq
  · have hfree : ∀ j, j ≠ i → (s'.txns i).locked = some apiChainKey →
        (s'.txns j).locked = some apiChainKey → False := by
      intro j hj hi hlocked
      rw [htxns j hj] at hlocked
      exact hlock hi j hj hlocked
    intro a b ha hb
    by_contra hne
    by_cases hai : a = i
    · subst hai
      exact hfree b (Ne.symm hne) ha hb
    · by_cases hbi : b = i
      · subst hbi
        exact hfree a hne hb ha
      · rw [htxns a hai] at ha
        rw [htxns b hbi] at hb
        exact hne (h.alone a b ha hb)
  · by_cases hj : j = i
    · subst hj
      rw [Function.update_self]
      exact hown
    · rw [Function.update_of_ne hj, htxns j hj]
      exact (h.own j).frame hrows hchain hseq

/-- A transaction is replaced; the lock on the partition is not taken. -/
theorem LedgerInv.setTxn (h : LedgerInv K w g s) {t : Txn} (γ : Stage)
    (hlock : t.locked = some apiChainKey → (s.txns i).locked = some apiChainKey)
    (hown : Own K (w i) s t γ) : LedgerInv K w (Function.update g i γ) (s.setTxn i t) := by
  refine h.quiet γ rfl rfl le_rfl (fun j hj => setTxn_ne s hj t) ?_ ?_
  · rw [setTxn_self]
    exact fun hi => h.free (hlock hi)
  · rw [setTxn_self]
    exact Own.frame hown rfl rfl le_rfl

/-- Nothing happened but an error. -/
theorem LedgerInv.fail (h : LedgerInv K w g s) : LedgerInv K w (Function.update g i .failed) s := by
  refine h.quiet .failed rfl rfl le_rfl (fun _ _ => rfl) (fun hi => h.free hi) ?_
  have hi := h.own i
  cases hw : w i with
  | api request => trivial
  | agent request =>
    rw [hw] at hi
    exact hi

/-- The answer was lost. -/
theorem LedgerInv.lose {γ : Stage} (h : LedgerInv K w (Function.update g i γ) s) :
    LedgerInv K w (Function.update g i .failed) s := by
  have hfail : LedgerInv K w (Function.update (Function.update g i γ) i .failed) s := h.fail
  rwa [Function.update_idem] at hfail

/-- An insert was refused. -/
theorem LedgerInv.refuse (h : LedgerInv K w g s) (op : Call ι) :
    LedgerInv K w (Function.update g i .failed) (s.refused op) := by
  have hfail : LedgerInv K w (Function.update g i .failed) s := h.fail
  cases op with
  | insertEvent j entry =>
    have hseq : s.lastSeq ≤ s.lastSeq + 1 := by omega
    have hown : Own K (w i) { s with lastSeq := s.lastSeq + 1 } (s.txns i) .failed := by
      have hself := hfail.own i
      rw [Function.update_self] at hself
      exact hself.frame rfl rfl hseq
    exact h.quiet .failed rfl rfl hseq (fun _ _ => rfl) (fun hi => h.free hi) hown
  | _ => exact hfail

end Invariant

/-! ## Appends of the API ledger -/

section Api

variable {ι : Type} [DecidableEq ι] {K : Crypto} {w : ι → Writer} {i : ι} {request : ApiRequest}

/-- The specification: transactions wait for locks. -/
def ledgerSpec (K : Crypto) (w : ι → Writer) : Spec ι (Call ι) Res AuditErr (Shared ι) Stage where
  inv := LedgerInv K w
  ok _ s _ op := Admitted s op
  prop _ _ _ _ _ _ := True

/-- One statement whose effect is known. -/
theorem statement_outline {op : Call ι} {γ : Stage} {φ : Res op → Stage → Prop}
    (h : ∀ g s, g i = γ → LedgerInv K w g s → Admitted s op →
      LedgerInv K w (Function.update g i (γ.next op (exec op s).1)) (exec op s).2 ∧
        φ (exec op s).1 (γ.next op (exec op s).1)) :
    Outline (auditSystem ι) (ledgerSpec K w) i (onOk φ) (call op) γ := by
  refine outline_perform fun g s e hg hinv hok => ?_
  obtain ⟨hinv', hφ⟩ := h g s hg hinv hok
  have hsem : (auditSystem ι).sem e op s = sem e op s := rfl
  rw [hsem]
  rcases sem_cases e op s with h | h | h | h
  · rw [h]
    exact ⟨hinv.fail, trivial, trivial⟩
  · rw [h]
    exact ⟨hinv.refuse op, trivial, trivial⟩
  · rw [h]
    exact ⟨hinv'.lose, trivial, trivial⟩
  · rw [h]
    exact ⟨hinv', trivial, hφ⟩

variable (hw : w i = .api request)
include hw

omit [DecidableEq ι] in
theorem own_api {s : Shared ι} {t : Txn} {γ : Stage} (h : Knows K s t γ) : Own K (w i) s t γ := by
  rw [hw]
  exact h

omit [DecidableEq ι] in
theorem knows_of_inv {g : ι → Stage} {s : Shared ι} {γ : Stage} (h : LedgerInv K w g s)
    (hg : g i = γ) : Knows K s (s.txns i) γ := by
  have hown := h.own i
  rw [hw, hg] at hown
  exact hown

theorem advisoryLock_outline :
    Outline (auditSystem ι) (ledgerSpec K w) i (onOk fun _ γ => γ = .idle)
      (call (.advisoryLock i)) .idle := by
  refine statement_outline fun g s hg hinv _ => ⟨?_, rfl⟩
  exact hinv.setTxn .idle (fun h => h) (own_api hw (knows_of_inv hw hinv hg))

theorem createChain_outline :
    Outline (auditSystem ι) (ledgerSpec K w) i (onOk fun _ γ => γ = .idle)
      (call (.createChain i apiChainKey)) .idle := by
  refine statement_outline fun g s hg hinv hok => ⟨?_, ?_⟩
  · have hknows := knows_of_inv hw hinv hg
    by_cases hnone : s.chainOf i apiChainKey = none
    · have hchain : s.chains.lookup apiChainKey = none := by
        rw [Shared.chainOf] at hnone
        split_ifs at hnone with hlock
        · exact (Option.or_eq_none_iff.1 hnone).2
        · exact hnone
      simp only [exec, if_pos hnone]
      refine hinv.quiet .idle rfl rfl le_rfl (fun j hj => setTxn_ne s hj _)
        (fun _ => hok hchain) ?_
      rw [setTxn_self]
      exact own_api hw ⟨hknows.1, .inr ⟨rfl, .inr ⟨rfl, hchain⟩⟩⟩
    · simp only [exec, if_neg hnone]
      have hsame : Function.update g i Stage.idle = g := by rw [← hg, Function.update_eq_self]
      exact hsame.symm ▸ hinv
  · rfl

omit [DecidableEq ι] in
/-- The chain row that is read carries the head of the partition. -/
theorem chainOf_head {g : ι → Stage} {s : Shared ι} (hinv : LedgerInv K w g s) (hg : g i = .idle)
    {head : ChainRow} (hhead : s.chainOf i apiChainKey = some head) :
    head.headHash = tailHash (apiRows s.auditEvents) := by
  obtain ⟨-, hlock⟩ := knows_of_inv hw hinv hg
  rcases hlock with ⟨hlock, -⟩ | ⟨hlock, hchain | ⟨hchain, hnone⟩⟩
  · rw [Shared.chainOf, if_neg (by simp [hlock])] at hhead
    exact hinv.head head hhead
  · rw [Shared.chainOf, if_pos hlock, hchain, Option.none_or] at hhead
    exact hinv.head head hhead
  · rw [Shared.chainOf, if_pos hlock, hchain] at hhead
    cases hhead
    rw [hinv.fresh hnone]
    rfl

theorem lockChain_outline :
    Outline (auditSystem ι) (ledgerSpec K w) i
      (onOk fun found γ => ∀ head ∈ (found : Option ChainRow), γ = .locked head)
      (call (.lockChain i apiChainKey)) .idle := by
  refine statement_outline fun g s hg hinv hok => ?_
  have hknows := knows_of_inv hw hinv hg
  cases hfound : s.chainOf i apiChainKey with
  | none =>
    simp only [exec, if_pos hfound]
    exact ⟨hinv.fail, fun head h => by cases h⟩
  | some head =>
    have hhead := chainOf_head hw hinv hg hfound
    by_cases hlock : (s.txns i).locked = some apiChainKey
    · have hexec : exec (.lockChain i apiChainKey) s = (some head, s) := by
        simp only [exec, hfound, hlock, if_true, if_false, reduceCtorEq]
        rfl
      rw [hexec]
      refine ⟨?_, fun h hh => by cases hh; rfl⟩
      exact hinv.quiet _ rfl rfl le_rfl (fun _ _ => rfl) (fun hi => hinv.free hi)
        (own_api hw ⟨hlock, hknows.1, hhead⟩)
    · have hexec : exec (.lockChain i apiChainKey) s = (some head,
          s.setTxn i { s.txns i with locked := some apiChainKey, chain := none }) := by
        simp only [exec, hfound, hlock, if_false, reduceCtorEq]
        rfl
      rw [hexec]
      refine ⟨?_, fun h hh => by cases hh; rfl⟩
      refine hinv.quiet _ rfl rfl le_rfl (fun j hj => setTxn_ne s hj _) (fun _ => hok) ?_
      rw [setTxn_self]
      exact own_api hw ⟨rfl, hknows.1, hhead⟩

/-- An inserted row follows on the partition. -/
theorem insertEvent_outline {head : ChainRow} {entry : Entry}
    (hkey : entry.chainKey = apiChainKey)
    (hprev : IsHex64 head.headHash → entry.prevHash = head.headHash)
    (hgen : ∀ seq, 1 ≤ seq → IsHex64 head.headHash → Genuine K ⟨entry, seq⟩) :
    Outline (auditSystem ι) (ledgerSpec K w) i
      (onOk fun seq γ => γ = .drawn ⟨entry, (seq : ℤ)⟩)
      (call (.insertEvent i entry)) (.locked head) := by
  refine statement_outline fun g s hg hinv _ => ?_
  obtain ⟨hlock, hevent, hhead⟩ := knows_of_inv hw hinv hg
  have hhex : IsHex64 head.headHash := by
    rw [hhead]
    exact hinv.linked.tail_hex
  have hgenuine : Genuine K ⟨entry, s.lastSeq + 1⟩ := by
    refine hgen _ ?_ hhex
    have := hinv.counts
    omega
  refine ⟨?_, rfl⟩
  have hseq : s.lastSeq ≤ s.lastSeq + 1 := by omega
  refine hinv.quiet _ rfl rfl hseq (fun j hj => Function.update_of_ne hj _ _)
    (fun _ => hinv.free hlock) ?_
  have htxn : (exec (.insertEvent i entry) s).2.txns i =
      { s.txns i with event := some ⟨entry, s.lastSeq + 1⟩ } := Function.update_self ..
  rw [htxn]
  refine own_api hw ⟨hlock, rfl, hkey, hgenuine, (hprev hhex).trans hhead, fun r hr => ?_, le_rfl⟩
  have := hinv.seqs r hr
  change r.seq < s.lastSeq + 1
  omega

theorem updateChain_outline {row : AuditRow} {head : ChainRow} (hhead : head.headHash = row.hash) :
    Outline (auditSystem ι) (ledgerSpec K w) i (onOk fun _ γ => γ = .written row)
      (call (.updateChain i apiChainKey head)) (.drawn row) := by
  refine statement_outline fun g s hg hinv _ => ⟨?_, rfl⟩
  obtain ⟨hlock, hevent, hfollows⟩ := knows_of_inv hw hinv hg
  exact hinv.setTxn _ (fun h => h) (own_api hw ⟨hlock, hevent, hfollows, head, rfl, hhead⟩)

omit hw in
theorem apiRows_append (rows : List AuditRow) (row : AuditRow) :
    apiRows (rows ++ [row]) =
      apiRows rows ++ if row.chainKey = apiChainKey then [row] else [] := by
  rw [apiRows, List.filter_append]
  by_cases hkey : row.chainKey = apiChainKey <;> simp [apiRows, hkey]

theorem commit_outline {row : AuditRow} :
    Outline (auditSystem ι) (ledgerSpec K w) i (onOk fun _ γ => γ = .idle) (call (.commit i))
      (.written row) := by
  refine statement_outline fun g s hg hinv _ => ⟨?_, rfl⟩
  obtain ⟨hlock, hevent, hfollows, head, hchain, hhead⟩ := knows_of_inv hw hinv hg
  have hrows : apiRows (exec (.commit i) s).2.auditEvents = apiRows s.auditEvents ++ [row] := by
    simp only [exec, hevent, Option.toList_some, apiRows_append, if_pos hfollows.key]
  have hchains : (exec (.commit i) s).2.chains.lookup apiChainKey = some head := by
    simp only [exec, Txn.intoChains, hlock, hchain, Chains.lookup_set_self]
  have htail : tailHash (apiRows s.auditEvents ++ [row]) = head.headHash := by
    rw [tailHash, List.getLast?_concat, hhead]
    rfl
  have hother : ∀ j, j ≠ i → (exec (.commit i) s).2.txns j = s.txns j := fun j hj =>
    Function.update_of_ne hj _ _
  have hself : (exec (.commit i) s).2.txns i = {} := Function.update_self ..
  have hfree := hinv.free hlock
  refine ⟨?_, ?_, ?_, ?_, hinv.counts, ?_, fun j => ?_⟩
  · rw [hrows]
    exact hinv.linked.append hfollows.genuine hfollows.prev hfollows.above
  · rw [hchains, hrows, htail]
    intro r hr
    cases hr
    rfl
  · rw [hchains]
    exact fun h => by cases h
  · rw [hrows]
    intro r hr
    rcases List.mem_append.1 hr with hr | hr
    · exact hinv.seqs r hr
    · rw [List.mem_singleton.1 hr]
      exact hfollows.below
  · intro a b ha hb
    by_cases hai : a = i
    · rw [hai, hself] at ha
      cases ha
    · rw [hother a hai] at ha
      exact absurd ha (hfree a hai)
  · by_cases hj : j = i
    · subst hj
      rw [hself, Function.update_self]
      exact own_api hw ⟨rfl, .inl ⟨rfl, rfl⟩⟩
    · rw [hother j hj, Function.update_of_ne hj]
      exact (hinv.own j).unlocked (hfree j hj) _

/-- A transaction that is rolled back leaves the partition as it was. -/
theorem rollback_outline (γ : Stage) :
    Outline (auditSystem ι) (ledgerSpec K w) i (onOk fun _ _ => True) (call (.rollback i)) γ := by
  refine statement_outline fun g s _ hinv _ => ⟨?_, trivial⟩
  refine hinv.setTxn _ (fun h => ?_) (own_api hw ⟨rfl, .inl ⟨rfl, rfl⟩⟩)
  cases h

omit hw in
theorem lift_outline {α : Type} {r : Except AuditErr α} {φ : α → Stage → Prop} {γ : Stage}
    (h : ∀ a, r = .ok a → φ a γ) :
    Outline (auditSystem ι) (ledgerSpec K w) i (onOk φ) (lift r) γ := by
  cases r with
  | ok a => exact h a rfl
  | error x => trivial

/-- **An append of the API ledger** keeps the invariant at each of its statements. -/
theorem apiAppend_outline :
    Outline (auditSystem ι) (ledgerSpec K w) i (fun _ _ => True) (apiAppend K i request) .idle := by
  refine outline_tryCatch (Q := onOk fun _ _ => True) ?_ (fun _ _ _ => trivial) fun x γ _ => ?_
  · refine outline_bind_ok (advisoryLock_outline hw) fun _ γ hγ => ?_
    subst hγ
    refine outline_bind_ok (createChain_outline hw) fun _ γ hγ => ?_
    subst hγ
    refine outline_bind_ok (lockChain_outline hw) fun found γ hγ => ?_
    cases found with
    | none => trivial
    | some head =>
      obtain rfl := hγ head rfl
      refine outline_bind_ok (lift_outline (φ := fun hash γ => γ = .locked head ∧
        computeEventHash K request.mandateId request.type request.payload (strip head.headHash)
          request.ts = .ok hash) fun hash hhash => ⟨rfl, hhash⟩) fun hash γ hγ => ?_
      obtain ⟨rfl, hhash⟩ := hγ
      refine outline_bind_ok (insertEvent_outline hw rfl strip_hex64 fun seq hseq hhex => ?_)
        fun seq γ hγ => ?_
      · exact ⟨⟨_, _, rfl, rfl, hhash⟩, (strip_hex64 hhex).symm ▸ hhex, rfl, hseq⟩
      subst hγ
      refine outline_bind_ok (updateChain_outline hw rfl) fun _ γ hγ => ?_
      subst hγ
      refine outline_bind_ok (commit_outline hw) fun _ γ _ => ?_
      exact lift_outline fun _ _ => trivial
  · refine outline_bind (outline_attempt (rollback_outline hw γ)) (fun _ _ _ => trivial)
      fun _ _ _ => trivial

end Api

/-! ## Appends of the agent lane -/

/-- A statement of a connection that stays off the partition. -/
def OffPartition {ι : Type} (i : ι) : Call ι → Prop
  | .begin j => j = i
  | .advisoryLock _ => False
  | .createChain j key => j = i ∧ key ≠ apiChainKey
  | .lockChain j key => j = i ∧ key ≠ apiChainKey
  | .insertEvent j entry => j = i ∧ entry.chainKey ≠ apiChainKey
  | .updateChain j _ _ => j = i
  | .insertOutbox j _ => j = i
  | .commit j => j = i
  | .rollback j => j = i

section Agent

variable {ι : Type} {K : Crypto} {w : ι → Writer} {i : ι} {request : AgentRequest}
  {scrubPayload : Json → Json}

theorem lift_offPartition {α : Type} (r : Except AuditErr α) :
    (lift r : Tx ι α).Calls (OffPartition i) := by
  cases r <;> trivial

theorem agentAppend_calls (hkey : request.key ≠ apiChainKey) :
    (agentAppend K i scrubPayload request).Calls (OffPartition i) := by
  have hrollback : ∀ x : AuditErr, (call (.rollback i) >>= fun _ => .raise x : Tx ι Unit).Calls
      (OffPartition i) := fun x => Prog.calls_bind (Prog.calls_perform rfl) fun _ => trivial
  refine Prog.calls_bind (Prog.calls_perform rfl) fun _ => Prog.calls_tryCatch ?_ hrollback
  refine Prog.calls_bind (Prog.calls_perform ⟨rfl, hkey⟩) fun _ => ?_
  refine Prog.calls_bind (Prog.calls_perform ⟨rfl, hkey⟩) fun found => ?_
  cases found with
  | none => trivial
  | some head =>
    refine Prog.calls_bind (lift_offPartition _) fun hash => ?_
    refine Prog.calls_bind (Prog.calls_perform ⟨rfl, hkey⟩) fun seq => ?_
    refine Prog.calls_bind (Prog.calls_perform rfl) fun _ => ?_
    cases request.relay with
    | true => exact Prog.calls_bind (Prog.calls_perform rfl) fun _ => Prog.calls_perform rfl
    | false => exact Prog.calls_perform rfl

theorem foreign_empty : Foreign {} := by
  refine ⟨fun h => ?_, fun e he => ?_⟩
  · cases h
  · cases he

variable [DecidableEq ι] {g : ι → Stage} {s : Shared ι} {w : ι → Writer}

/-- A statement off the partition keeps the invariant. -/
theorem offPartition_keeps (hw : w i = .agent request) (h : LedgerInv K w g s) {op : Call ι}
    (hop : OffPartition i op) (γ : Stage) :
    LedgerInv K w (Function.update g i γ) (exec op s).2 := by
  have hown := h.own i
  rw [hw] at hown
  have hforeign : Foreign (s.txns i) := hown
  have hset : ∀ t, Foreign t → LedgerInv K w (Function.update g i γ) (s.setTxn i t) := by
    intro t ht
    refine h.setTxn γ (fun hl => absurd hl ht.locked) ?_
    rw [hw]
    exact ht
  have hstay : LedgerInv K w (Function.update g i γ) s := by
    have hsame := hset _ hforeign
    rwa [Shared.setTxn, Function.update_eq_self] at hsame
  cases op with
  | begin j =>
    cases hop
    exact hset {} foreign_empty
  | advisoryLock j => cases hop
  | createChain j key =>
    obtain ⟨rfl, hkey⟩ := hop
    by_cases hnone : s.chainOf j key = none
    · simp only [exec, if_pos hnone]
      exact hset _ ⟨fun h => hkey (Option.some.inj h), hforeign.event⟩
    · simp only [exec, if_neg hnone]
      exact hstay
  | lockChain j key =>
    obtain ⟨rfl, hkey⟩ := hop
    simp only [exec]
    split_ifs
    · exact hstay
    · exact hstay
    · exact hset _ ⟨fun h => hkey (Option.some.inj h), hforeign.event⟩
  | insertEvent j entry =>
    obtain ⟨rfl, hkey⟩ := hop
    have hseq : s.lastSeq ≤ s.lastSeq + 1 := by omega
    have htxn : (exec (.insertEvent j entry) s).2.txns j =
        { s.txns j with event := some ⟨entry, s.lastSeq + 1⟩ } := Function.update_self ..
    refine h.quiet γ rfl rfl hseq (fun k hk => Function.update_of_ne hk _ _) ?_ ?_
    · rw [htxn]
      exact fun hl => absurd hl hforeign.locked
    · rw [htxn, hw]
      refine ⟨hforeign.locked, fun e he => ?_⟩
      cases he
      exact hkey
  | updateChain j key row =>
    cases hop
    exact hset _ ⟨hforeign.locked, hforeign.event⟩
  | insertOutbox j row =>
    cases hop
    exact hset _ ⟨hforeign.locked, hforeign.event⟩
  | commit j =>
    cases hop
    have hself : (exec (.commit i) s).2.txns i = {} := Function.update_self ..
    refine h.quiet γ ?_ ?_ le_rfl (fun k hk => Function.update_of_ne hk _ _) ?_ ?_
    · simp only [exec]
      cases hevent : (s.txns i).event with
      | none => rw [Option.toList_none, List.append_nil]
      | some row =>
        rw [Option.toList_some, apiRows_append, if_neg (hforeign.event row hevent),
          List.append_nil]
    · simp only [exec, Txn.intoChains]
      cases hlocked : (s.txns i).locked with
      | none => rfl
      | some key =>
        have hne : apiChainKey ≠ key := fun h => hforeign.locked (h ▸ hlocked)
        cases (s.txns i).chain with
        | none => rfl
        | some row => exact Chains.lookup_set_ne _ hne row
    · rw [hself]
      exact fun hl => by cases hl
    · rw [hself, hw]
      exact foreign_empty
  | rollback j =>
    cases hop
    exact hset {} foreign_empty

/-- **An append of the agent lane** under another key keeps the invariant. -/
theorem agentAppend_outline (hw : w i = .agent request) (hkey : request.key ≠ apiChainKey)
    (γ : Stage) : Outline (auditSystem ι) (ledgerSpec K w) i (fun _ _ => True)
      (agentAppend K i scrubPayload request) γ := by
  refine outline_calls (ψ := fun _ => True) (fun g s e op hop _ hinv _ => ?_)
    (agentAppend_calls hkey) trivial
  have hkeeps := offPartition_keeps hw hinv hop
  have hsem : (auditSystem ι).sem e op s = sem e op s := rfl
  rw [hsem]
  rcases sem_cases e op s with h | h | h | h
  · rw [h]
    exact ⟨hinv.fail, trivial, trivial⟩
  · rw [h]
    exact ⟨hinv.refuse op, trivial, trivial⟩
  · rw [h]
    exact ⟨hkeeps _, trivial, trivial⟩
  · rw [h]
    exact ⟨hkeeps _, trivial, trivial⟩

end Agent

/-! ## Runs -/

section Runs

variable {ι : Type} [DecidableEq ι] (K : Crypto) (scrubPayload : Json → Json) (w : ι → Writer)

/-- Tables without rows of the API ledger, and no open transaction; the agent lane may have
written before, and the sequence may stand anywhere. -/
structure Shared.Fresh (s : Shared ι) : Prop where
  rows : apiRows s.auditEvents = []
  chain : s.chains.lookup apiChainKey = none
  seq : 0 ≤ s.lastSeq
  txns : ∀ i, s.txns i = {}

/-- The writers before their first statements. -/
def auditStart (s : Shared ι) : Config ι (Call ι) Res AuditErr Unit (Shared ι) Stage where
  shared := s
  prog i := append K i scrubPayload (w i)
  hist _ := .idle

/-- Both verdicts on the partition: `verify_chain` reports ok, and `sign_root` returns a checkpoint
when there is something to sign. -/
def Accepted (rows : List AuditRow) : Prop :=
  Verifies K rows (fun _ => none) ∧ (apiRows rows ≠ [] → ∀ now, Signs K rows (fun _ => none) now)

/-- The connection that commits. -/
def Call.commits : Call ι → Option ι
  | .commit i => some i
  | _ => none

/-- **A commit in turn**: the row that it adds to the partition takes the number after that of the
partition's last row. -/
def InTurn (c : Config ι (Call ι) Res AuditErr Unit (Shared ι) Stage) (i : ι) (e : Fate) : Prop :=
  e ≠ .fails → ∀ op ∈ (c.prog i).next, ∀ j ∈ op.commits, ∀ row ∈ (c.shared.txns j).event,
    row.chainKey = apiChainKey → ∀ last ∈ (apiRows c.shared.auditEvents).getLast?,
      row.seq = last.seq + 1

instance (c : Config ι (Call ι) Res AuditErr Unit (Shared ι) Stage) (i : ι) (e : Fate) :
    Decidable (InTurn c i e) :=
  inferInstanceAs (Decidable (_ → ∀ op ∈ (c.prog i).next, ∀ j ∈ op.commits,
    ∀ row ∈ (c.shared.txns j).event, _ → ∀ last ∈ (apiRows c.shared.auditEvents).getLast?,
      row.seq = last.seq + 1))

/-- A step that does not wait for a lock. -/
def Unblocked (c : Config ι (Call ι) Res AuditErr Unit (Shared ι) Stage) (i : ι) (_ : Fate) :
    Prop :=
  ∀ op ∈ (c.prog i).next, Admitted c.shared op

instance [Fintype ι] (c : Config ι (Call ι) Res AuditErr Unit (Shared ι) Stage) (i : ι) (e : Fate) :
    Decidable (Unblocked c i e) :=
  inferInstanceAs (Decidable (∀ op ∈ (c.prog i).next, Admitted c.shared op))

variable {K scrubPayload w}

theorem append_outline (hagents : ∀ i r, w i = .agent r → r.key ≠ apiChainKey) (i : ι) :
    Outline (auditSystem ι) (ledgerSpec K w) i (fun _ _ => True)
      (append K i scrubPayload (w i)) .idle := by
  cases hw : w i with
  | api request =>
    exact outline_bind (apiAppend_outline hw) (fun _ _ _ => trivial) fun _ _ _ => trivial
  | agent request => exact agentAppend_outline hw (hagents i request hw) .idle

theorem auditStart_outlined (hagents : ∀ i r, w i = .agent r → r.key ≠ apiChainKey)
    {s : Shared ι} (hs : s.Fresh) :
    Outlined (auditSystem ι) (ledgerSpec K w) (fun _ _ _ => True)
      (auditStart K scrubPayload w s) := by
  refine ⟨?_, append_outline hagents⟩
  have hempty := hs.rows
  refine ⟨?_, ?_, fun _ => hempty, ?_, hs.seq, ?_, fun i => ?_⟩
  · change Linked K (apiRows s.auditEvents)
    rw [hempty]
    exact Linked.nil
  · intro row hrow
    change row ∈ s.chains.lookup apiChainKey at hrow
    rw [hs.chain] at hrow
    cases hrow
  · intro r hr
    change r ∈ apiRows s.auditEvents at hr
    rw [hempty] at hr
    cases hr
  · intro i j hi
    change (s.txns i).locked = _ at hi
    rw [hs.txns i] at hi
    cases hi
  · change Own K (w i) s (s.txns i) .idle
    rw [hs.txns i]
    cases w i with
    | api request => exact ⟨rfl, .inl ⟨rfl, rfl⟩⟩
    | agent request => exact foreign_empty

omit [DecidableEq ι] in
/-- Under the invariant both verdicts say that the numbers are consecutive. -/
theorem accepted_iff {g : ι → Stage} {s : Shared ι} (h : LedgerInv K w g s) :
    Accepted K s.auditEvents ↔ Consecutive (apiRows s.auditEvents) := by
  have hverifies := verifies_iff h.linked (fun _ => none)
  constructor
  · exact fun haccepted => hverifies.1 haccepted.1
  · intro hcons
    exact ⟨hverifies.2 hcons, fun hne now => (signs_iff h.linked hne now).2 hcons⟩

omit [DecidableEq ι] in
/-- One event more, if it is one of the partition. -/
theorem consecutive_event {rows : List AuditRow} (event : Option AuditRow)
    (h : Consecutive (apiRows rows)) : Consecutive (apiRows (rows ++ event.toList)) ↔
      ∀ row ∈ event, row.chainKey = apiChainKey →
        ∀ last ∈ (apiRows rows).getLast?, row.seq = last.seq + 1 := by
  cases event with
  | none => simpa using h
  | some row =>
    rw [Option.toList_some, apiRows_append]
    by_cases hkey : row.chainKey = apiChainKey
    · rw [if_pos hkey, consecutive_append]
      constructor
      · intro hboth r hr _
        cases hr
        exact hboth.2
      · exact fun hall => ⟨h, hall row rfl hkey⟩
    · rw [if_neg hkey, List.append_nil]
      refine ⟨fun _ r hr hr' => ?_, fun _ => h⟩
      cases hr
      exact absurd hr' hkey

/-- Only a commit adds events. -/
theorem exec_auditEvents {op : Call ι} (s : Shared ι) (hop : ∀ j, op ≠ .commit j) :
    (exec op s).2.auditEvents = s.auditEvents := by
  cases op with
  | commit j => exact absurd rfl (hop j)
  | createChain j key =>
    simp only [exec]
    split_ifs <;> rfl
  | lockChain j key =>
    simp only [exec]
    split_ifs <;> rfl
  | _ => rfl

theorem sem_auditEvents {e : Fate} {op : Call ι} (s : Shared ι) (hop : ∀ j, op ≠ .commit j) :
    (sem e op s).2.auditEvents = s.auditEvents := by
  have hexec := exec_auditEvents s hop
  rcases sem_cases e op s with h | h | h | h
  · rw [h]
  · rw [h]
    cases op <;> rfl
  · rw [h, hexec]
  · rw [h, hexec]

theorem sem_commit {e : Fate} (he : e ≠ .fails) (j : ι) (s : Shared ι) :
    (sem e (.commit j) s).2 = (exec (.commit j) s).2 := by
  have hrefuses : ¬ s.refuses (.commit j) = true := Bool.false_ne_true
  rw [sem, if_neg he, if_neg hrefuses]
  split_ifs <;> rfl

/-- **One step** keeps the numbers consecutive exactly when it is in turn. -/
theorem consecutive_step {c : Config ι (Call ι) Res AuditErr Unit (Shared ι) Stage} {i : ι}
    {e : Fate} (h : Consecutive (apiRows c.shared.auditEvents)) :
    Consecutive (apiRows ((auditSystem ι).step c i e).shared.auditEvents) ↔ InTurn c i e := by
  cases hp : c.prog i with
  | ret a =>
    simp only [System.step, InTurn, hp, Prog.next]
    refine ⟨fun _ _ op hop => ?_, fun _ => h⟩
    cases hop
  | raise x =>
    simp only [System.step, InTurn, hp, Prog.next]
    refine ⟨fun _ _ op hop => ?_, fun _ => h⟩
    cases hop
  | call op next =>
    have hstep : ((auditSystem ι).step c i e).shared = (sem e op c.shared).2 := by
      simp only [System.step, hp]
      rfl
    rw [hstep]
    by_cases hop : ∃ j, op = .commit j
    · obtain ⟨j, rfl⟩ := hop
      by_cases he : e = .fails
      · subst he
        exact ⟨fun _ hne => absurd rfl hne, fun _ => h⟩
      · have hrows := consecutive_event (c.shared.txns j).event h
        rw [sem_commit he]
        refine hrows.trans ⟨fun hall _ op hop k hk => ?_, fun hturn => ?_⟩
        · rw [hp] at hop
          cases hop
          cases hk
          exact hall
        · exact hturn he (.commit j) (by rw [hp]; rfl) j rfl
    · have hcommit : ∀ j, op ≠ .commit j := fun j hj => hop ⟨j, hj⟩
      rw [sem_auditEvents c.shared hcommit]
      refine ⟨fun _ _ op' hop' j hj => ?_, fun _ => h⟩
      rw [hp] at hop'
      cases hop'
      cases op with
      | commit k => exact absurd rfl (hcommit k)
      | _ => cases hj

variable (K scrubPayload w)

/-- **The shared audit table.** In every run of appends of both sides, whatever fails, `verifyChain`
and `signRoot` accept the partition of the API ledger in every state exactly when every commit is in
turn. -/
theorem shared_chain_verifies (hagents : ∀ i r, w i = .agent r → r.key ≠ apiChainKey)
    {s : Shared ι} (hs : s.Fresh) {xs : List (ι × Fate)}
    (hlocks : (auditSystem ι).Along Unblocked (auditStart K scrubPayload w s) xs) :
    (∀ ys, ys <+: xs → Accepted K ((auditSystem ι).run
      (auditStart K scrubPayload w s) ys).shared.auditEvents) ↔
    (auditSystem ι).Along InTurn (auditStart K scrubPayload w s) xs := by
  have hstart := @auditStart_outlined ι _ K scrubPayload w hagents s hs
  refine always_iff_along (A := fun c => Accepted K c.shared.auditEvents)
    (fun c i e hc hok hA => ?_) hstart ?_ hlocks
  · have hnext := (outlined_step (e := e) hc hok).2
    rw [accepted_iff hnext.inv]
    exact consecutive_step ((accepted_iff hc.inv).1 hA)
  · refine (accepted_iff hstart.inv).2 ?_
    change Consecutive (apiRows s.auditEvents)
    rw [hs.rows]
    exact List.isChain_nil

end Runs

/-! ### An append of the agent lane between two of the API ledger -/

/-- Stand-ins for the primitives: one digest and one signature for every text. -/
def plainCrypto : Crypto where
  sha256 _ := genesisPrevHash
  sha256_hex _ := genesis_hex64
  sign _ := [1]
  sign_ne_nil _ := by simp
  verify _ sig := sig = [1]

/-- Two appends of the API ledger, and one under the key of a mandate. -/
def threeWriters : Option Bool → Writer
  | some false => .api ⟨"mdt_1", "mandate.created", .obj [], none, "2026-08-31T00:00:00", "aevt_1"⟩
  | some true => .api ⟨"mdt_1", "purchase.verified", .obj [], none, "2026-08-31T00:00:05", "aevt_2"⟩
  | none => .agent ⟨"purchase.requested", .obj [], none, none, none, some "mdt_1", true, false, none,
      "2026-08-31T00:00:03+00:00", "evt_1"⟩

/-- Empty tables. -/
def emptyTables : Shared (Option Bool) := ⟨[], [], [], 0, fun _ => {}⟩

/-- One append after the other, `order` of the writers; every statement runs. -/
def appendsInOrder (order : List (Option Bool)) : List (Option Bool × Fate) :=
  order.flatMap fun i => List.replicate 7 (i, .runs)

theorem emptyTables_fresh : emptyTables.Fresh := ⟨rfl, rfl, le_rfl, fun _ => rfl⟩

theorem threeWriters_keys : ∀ i r, threeWriters i = .agent r → r.key ≠ apiChainKey := by
  intro i r h
  cases i with
  | some b => cases b <;> cases h
  | none =>
    cases h
    decide

/-- The two appends of the API ledger alone are accepted. -/
theorem shared_chain_verifies_alone : Accepted plainCrypto ((auditSystem (Option Bool)).run
    (auditStart plainCrypto id threeWriters emptyTables)
      (appendsInOrder [some false, some true])).shared.auditEvents :=
  (shared_chain_verifies plainCrypto id threeWriters threeWriters_keys emptyTables_fresh
    (by decide +kernel)).2 (by decide +kernel) _ List.prefix_rfl

/-- **An append of the agent lane** between two of the API ledger takes the number in between, and
the partition is refused from then on. -/
theorem shared_chain_refused : ¬ ∀ xs : List (Option Bool × Fate),
    (auditSystem (Option Bool)).Along Unblocked
      (auditStart plainCrypto id threeWriters emptyTables) xs →
    Accepted plainCrypto ((auditSystem (Option Bool)).run
      (auditStart plainCrypto id threeWriters emptyTables) xs).shared.auditEvents := by
  intro h
  have hlocks : (auditSystem (Option Bool)).Along Unblocked
      (auditStart plainCrypto id threeWriters emptyTables)
      (appendsInOrder [some false, none, some true]) := by decide +kernel
  have hstart : Outlined (auditSystem (Option Bool)) (ledgerSpec plainCrypto threeWriters)
      (fun _ _ _ => True) (auditStart plainCrypto id threeWriters emptyTables) :=
    auditStart_outlined threeWriters_keys emptyTables_fresh
  have hreached := (outline_run hstart hlocks).2
  have hcons := (accepted_iff hreached.inv).1 (h _ hlocks)
  have hseqs : (apiRows ((auditSystem (Option Bool)).run
      (auditStart plainCrypto id threeWriters emptyTables)
      (appendsInOrder [some false, none, some true])).shared.auditEvents).map (·.seq) = [1, 3] := by
    decide +kernel
  have hmap := (List.isChain_map AuditRow.seq (R := fun a b : ℤ => b = a + 1)).2 hcons
  rw [hseqs] at hmap
  exact absurd hmap (by decide)

end TryTrust.Audit
