import TryTrust.Api.Escalations
import TryTrust.Conc.Alone
import TryTrust.IsoTime

/-!
# The deadline of an escalation

The guards of `expire_pending` and of `resolve` compare texts that `_iso` has cut to the second, so
both turn over at the end of the second of the deadline.

* `create`, the row of a new escalation; `timeoutAt_lt_iff`: the guard, as the texts compare;
* `Waiting`, `after`; `Mine`, `Failed`, `Undone`: what a call that raises leaves;
* `expirePending_alone`, `resolve_alone`, `answer_alone`; **`after_expire`**, **`after_resolve`**:
  how the two calls leave the row;
* `DeadlineExact`; **`deadline_exact_iff`**: the deadline is exact unless the moment is later than
  it and in its second.
-/

namespace TryTrust.Api.Deadline

open Conc IsoTime Escalations

/-! ## The row of an escalation -/

/-- The row that `create` adds for a deadline. -/
def create (purchaseId mandateId : String) (deadline : DateTime) : EscalationRow where
  purchaseId := purchaseId
  mandateJti := mandateId
  status := .pending
  timeoutAt := iso deadline.micros

/-- **The guard**: `timeout_at < _iso(moment)`, of texts. -/
theorem timeoutAt_lt_iff {purchaseId mandateId : String} {deadline moment : DateTime} :
    (create purchaseId mandateId deadline).timeoutAt < iso moment.micros ↔
      deadline.text < moment.text := by
  unfold create iso
  rw [DateTime.micros_div, DateTime.micros_div, DateTime.text_lt_iff, Nat.cast_lt]

/-! ## One call -/

section Calls

variable {ι : Type} [DecidableEq ι]

/-- An escalation that no transaction holds. -/
structure Waiting (id : String) (r : EscalationRow) (d : Desk ι) : Prop where
  known : id ∈ d.escalations.keys
  cell : d.escalations.cell id = ⟨r, none⟩

/-- The row of an escalation after a call. -/
def after (isoformat : ℤ → String) (envs : ℕ → Env) (i : ι) (q : Request) (d : Desk ι)
    (id : String) : EscalationRow :=
  (((answer isoformat i q).run (streamed sem envs) (d, 0)).2.1.escalations.cell id).row

/-- A committed row that only session `i` may hold. -/
structure Mine (i : ι) (id : String) (r : EscalationRow) (d : Desk ι) : Prop where
  row : (d.escalations.cell id).row = r
  free : (d.escalations.cell id).Free i

/-- A statement raised. -/
def Failed (envs : ℕ → Env) : Prop := ∃ n, (envs n).raises ≠ none

/-- The end of a call that raises: its row is as it was, for a reason. -/
def Undone (i : ι) (id : String) (r : EscalationRow) (reason : Prop) (d : Desk ι) : Prop :=
  Mine i id r d ∧ reason

variable {isoformat : ℤ → String} {envs : ℕ → Env} {i : ι} {id : String} {r : EscalationRow}
  {d : Desk ι} {n : ℕ} {reason : Prop} {now : ℤ}

omit [DecidableEq ι] in
theorem Waiting.mine (h : Waiting id r d) : Mine i id r d := by
  refine ⟨by rw [h.cell], ?_⟩
  rw [h.cell]
  exact Cell.free_of_none rfl

/-- The end of a transaction that may be the one that holds a row. -/
theorem row_commit {c : Cell ι EscalationRow} (h : c.Free i) : (c.commit i).row = c.newest := by
  rcases c.held_or_not i with ⟨v, hv⟩ | hnot
  · rw [Cell.commit_of_held hv, Cell.newest_of_held hv]
  · rw [Cell.commit_of_not hnot, ← Cell.seen_eq_newest h, Cell.seen_of_not hnot]

theorem Waiting.seen (h : Waiting id r d) : (d.escalations.cell id).seen i = r := by
  rw [h.cell]
  rfl

/-- One call: it raises without an effect, or runs. -/
theorem alone_op (op : Call ι) {φ : Res op → Desk ι → Prop} (hfail : Failed envs → reason)
    (h : Mine i id r d) (hφ : φ (exec (envs n) op d).1 (exec (envs n) op d).2) :
    Alone sem envs (onEnd (Undone i id r reason) φ) (call op) d n := by
  refine alone_call ?_
  unfold sem
  cases hr : (envs n).raises with
  | none => exact hφ
  | some x =>
    cases op.ends with
    | true => exact hφ
    | false => exact ⟨h, hfail ⟨n, by rw [hr]; exact Option.some_ne_none x⟩⟩

/-- The events of the loop touch no row. -/
theorem emitExpired_alone (hfail : Failed envs → reason) (rows : List (String × String))
    (h : Mine i id r d) : Alone sem envs (onEnd (Undone i id r reason)
      fun _ d' => d'.escalations = d.escalations) (emitExpired i rows) d n := by
  induction rows generalizing d n with
  | nil => exact rfl
  | cons x rows ih =>
    refine alone_bind (alone_op (.emitEvent i (expiredEvent x.1 x.2)) hfail h
      (φ := fun _ d' => d'.escalations = d.escalations) rfl) fun _ d' n' hd => ?_
    rw [← hd]
    exact ih ⟨by rw [hd]; exact h.row, by rw [hd]; exact h.free⟩

/-- The row within a sweep. -/
def swept (i : ι) (r : EscalationRow) (now : ℤ) : Cell ι EscalationRow :=
  ⟨r, if r.timeoutAt < iso now then some (i, r.expire) else none⟩

omit [DecidableEq ι] in
theorem mine_swept (h : d.escalations.cell id = swept i r now) : Mine i id r d := by
  refine ⟨by rw [h]; rfl, ?_⟩
  rw [h]
  intro v hv
  unfold swept at hv
  dsimp only at hv
  split_ifs at hv
  · cases hv
    rfl
  · cases hv

theorem mem_overdue_iff (h : Waiting id r d) (hpending : r.status = .pending) :
    id ∈ overdue i now d ↔ r.timeoutAt < iso now := by
  rw [overdue, Table.mem_matching, h.seen, hpending]
  simp [h.known]

theorem expirePending_alone (hfail : Failed envs → reason) (h : Waiting id r d)
    (hpending : r.status = .pending) : Alone sem envs (onEnd (Undone i id r reason)
      fun _ d' => id ∈ d'.escalations.keys ∧ d'.escalations.cell id = swept i r now)
      (expirePending i now) d n := by
  have hswept : ((d.escalations.rewrite i (overdue i now d) fun _ r => r.expire).cell id) =
      swept i r now := by
    unfold swept
    split_ifs with hlate
    · rw [Table.cell_rewrite_mem ((mem_overdue_iff h hpending).2 hlate), h.seen, h.cell]
      rfl
    · rw [Table.cell_rewrite_not (mt (mem_overdue_iff h hpending).1 hlate), h.cell]
  refine alone_bind (alone_op (.updateExpired i now) hfail h.mine
    (φ := fun _ d' => id ∈ d'.escalations.keys ∧ d'.escalations.cell id = swept i r now)
    ⟨h.known, hswept⟩) fun rows d' n' hd => ?_
  refine alone_bind (emitExpired_alone hfail rows (mine_swept hd.2)) fun _ d'' n'' he => ?_
  show id ∈ d''.escalations.keys ∧ d''.escalations.cell id = swept i r now
  rw [he]
  exact hd

/-- What `resolve` needs: no sticky approval, and a deadline that the texts still meet. -/
def Refused (r : EscalationRow) (q : ResolveRequest) : Prop :=
  q.sticky = true ∨ r.timeoutAt < iso q.now

theorem resolvePending_alone {q : ResolveRequest} (hfail : Failed envs → reason)
    (h : Waiting id r d) (hid : q.escalationId = id) (hpending : r.status = .pending)
    (htime : ¬ r.timeoutAt < iso q.now) : Alone sem envs (onEnd (Undone i id r reason)
      fun _ d' => ∃ x : Resolution, x.decision = q.decision ∧
        d'.escalations.cell id = ⟨r, some (i, r.resolve x)⟩)
      (resolvePending isoformat i q) d n := by
  subst hid
  refine alone_bind (alone_op (.sign i _) hfail h.mine (φ := fun _ d' => d = d') rfl) ?_
  rintro receiptSig _ n' rfl
  generalize hx : (⟨q.decision, q.approver, q.channel, receiptSig⟩ : Resolution) = x
  have hmem : q.escalationId ∈ answerable i q.escalationId q.now d := by
    rw [answerable, Table.mem_matching, h.seen, hpending]
    simpa using ⟨h.known, not_lt.1 htime⟩
  have hhead : ∃ k, (answerable i q.escalationId q.now d).head? = some k := by
    cases hks : answerable i q.escalationId q.now d with
    | nil => rw [hks] at hmem; cases hmem
    | cons k ks => exact ⟨k, rfl⟩
  refine alone_bind (alone_op (.updateResolved i q.escalationId q.now x) hfail h.mine
    (φ := fun row d' => row ≠ none ∧
      d'.escalations.cell q.escalationId = ⟨r, some (i, r.resolve x)⟩) ⟨?_, ?_⟩) ?_
  · obtain ⟨k, hk⟩ := hhead
    show (answerable i q.escalationId q.now d).head?.map _ ≠ none
    rw [hk]
    exact Option.some_ne_none _
  · show (d.escalations.rewrite i (answerable i q.escalationId q.now d)
      fun _ r => r.resolve x).cell q.escalationId = _
    rw [Table.cell_rewrite_mem hmem, h.seen, h.cell]
    rfl
  · rintro row d' n'' ⟨hrow, hcell⟩
    cases row with
    | none => exact absurd rfl hrow
    | some row =>
      have hmine : Mine i q.escalationId r d' := by
        refine ⟨by rw [hcell], ?_⟩
        rw [hcell]
        exact Cell.free_of_held rfl
      refine alone_bind (alone_op (.emitEvent i (answerEvent q row receiptSig)) hfail hmine
        (φ := fun _ d'' => d''.escalations = d'.escalations) rfl) fun _ d'' _ he => ?_
      refine ⟨x, by rw [← hx], ?_⟩
      rw [he]
      exact hcell

theorem resolve_alone {q : ResolveRequest} (h : Waiting id r d) (hid : q.escalationId = id)
    (hpending : r.status = .pending) :
    Alone sem envs (onEnd (Undone i id r (Failed envs ∨ Refused r q)) fun _ d' =>
        ¬ Refused r q ∧ ∃ x : Resolution, x.decision = q.decision ∧
          d'.escalations.cell id = ⟨r, some (i, r.resolve x)⟩)
      (resolve isoformat i q) d n := by
  unfold resolve
  cases hsticky : q.sticky with
  | true => exact ⟨h.mine, .inr (.inl hsticky)⟩
  | false =>
    refine alone_bind (expirePending_alone Or.inl h hpending) fun _ d' n' hd => ?_
    obtain ⟨hknown, hcell⟩ := hd
    have hmine : Mine i id r d' := mine_swept hcell
    refine alone_bind (alone_op (.get i q.escalationId) (fun h => .inl h) hmine
      (φ := fun row d'' => d' = d'' ∧ row = some ((d'.escalations.cell id).seen i))
      ⟨rfl, by rw [hid]; exact if_pos hknown⟩) ?_
    rintro row _ n'' ⟨rfl, rfl⟩
    by_cases htime : r.timeoutAt < iso q.now
    · have hseen : (d'.escalations.cell id).seen i = r.expire := by
        rw [hcell, swept, if_pos htime]
        exact Cell.seen_of_held rfl
      rw [hseen]
      exact ⟨hmine, .inr (.inr htime)⟩
    · have hwaiting : Waiting id r d' := by
        refine ⟨hknown, ?_⟩
        rw [hcell, swept, if_neg htime]
      have hgranted : ¬ Refused r q := by
        unfold Refused
        rw [hsticky]
        simpa using htime
      rw [hwaiting.seen]
      dsimp only
      rw [hpending]
      refine alone_mono (resolvePending_alone Or.inl hwaiting hid hpending htime) fun _ _ hx => ?_
      exact ⟨hgranted, hx⟩

/-- A rollback never raises. -/
theorem rollback_alone (h : Mine i id r d) :
    Alone sem envs (fun _ d' => (d'.escalations.cell id).row = r) (call (.rollback i)) d n := by
  have hrow : ((d.escalations.rollback i).cell id).row = r := by
    rw [Table.cell_rollback, Cell.row_rollback]
    exact h.row
  refine alone_call ?_
  unfold sem
  cases (envs n).raises with
  | none => exact hrow
  | some x => exact hrow

/-- **A call**: its row is as its body leaves it, or it raised and the row is as it was. -/
theorem answer_alone {q : Request} {φ : EscalationRow → Prop} (hfail : Failed envs → reason)
    (hbody : Alone sem envs (onEnd (Undone i id r reason) fun _ d' =>
      Mine i id r d' ∧ φ (d'.escalations.cell id).newest) (body isoformat i q) d 0) :
    φ (after isoformat envs i q d id) ∨ after isoformat envs i q d id = r ∧ reason := by
  suffices hend : Alone sem envs (fun _ d' => φ (d'.escalations.cell id).row ∨
      (d'.escalations.cell id).row = r ∧ reason) (answer isoformat i q) d 0 from alone_run hend
  refine flow_attempt_bind (P := fun out t => onEnd (Undone i id r reason)
    (fun _ (d' : Desk ι) => φ (d'.escalations.cell id).row) out t.1) ?_ fun out t hout => ?_
  · refine alone_bind hbody fun reply d' n' hd => ?_
    refine alone_bind (alone_op (.commit i) hfail hd.1
      (φ := fun _ (d'' : Desk ι) => φ (d''.escalations.cell id).row) ?_) fun _ _ _ h => h
    show φ ((d'.escalations.cell id).commit i).row
    rw [row_commit hd.1.free]
    exact hd.2
  · cases out with
    | ok reply => exact .inl hout
    | error x =>
      obtain ⟨hmine, hreason⟩ := hout
      exact flow_bind (rollback_alone hmine) (fun _ _ h => .inr ⟨h, hreason⟩)
        fun _ _ h => .inr ⟨h, hreason⟩

/-- **`expire_pending`**: the row expires when its deadline is over, as the texts compare. -/
theorem after_expire (envs : ℕ → Env) (h : Waiting id r d) (hpending : r.status = .pending) :
    after isoformat envs i (.expirePending now) d id =
        (if r.timeoutAt < iso now then r.expire else r) ∨
      after isoformat envs i (.expirePending now) d id = r ∧ Failed envs := by
  refine answer_alone (φ := fun row => row = if r.timeoutAt < iso now then r.expire else r)
    (fun h => h) ?_
  refine alone_bind (expirePending_alone (fun h => h) h hpending) fun _ d' _ hd =>
    ⟨mine_swept hd.2, ?_⟩
  rw [hd.2, swept]
  split_ifs <;> rfl

/-- **`resolve`**: it records the answer until the deadline is over, as the texts compare. -/
theorem after_resolve (envs : ℕ → Env) {q : ResolveRequest} (h : Waiting id r d)
    (hid : q.escalationId = id) (hpending : r.status = .pending) :
    (¬ Refused r q ∧ ∃ x : Resolution, x.decision = q.decision ∧
        after isoformat envs i (.resolve q) d id = r.resolve x) ∨
      after isoformat envs i (.resolve q) d id = r ∧ (Failed envs ∨ Refused r q) := by
  refine answer_alone (φ := fun row => ¬ Refused r q ∧ ∃ x : Resolution,
    x.decision = q.decision ∧ row = r.resolve x) Or.inl ?_
  refine alone_bind (resolve_alone h hid hpending) fun row d' _ hd => ?_
  obtain ⟨hgranted, x, hx, hcell⟩ := hd
  refine ⟨⟨by rw [hcell], ?_⟩, hgranted, x, hx, ?_⟩
  · rw [hcell]
    exact Cell.free_of_held rfl
  · rw [hcell]
    rfl

end Calls

/-! ## The deadline -/

/-- An approval is recorded. -/
def Approved (r : EscalationRow) : Prop := r.status = .resolved ∧ r.decision = some "APPROVE"

/-- **The deadline is exact** at a moment: `due` is the creation and the timeout, `deadline` the
moment that `create` writes. -/
structure DeadlineExact {ι : Type} [DecidableEq ι] (i : ι) (deadline : DateTime) (due : ℤ)
    (moment : DateTime) : Prop where
  /-- An approval is not later than the deadline. -/
  approve : ∀ isoformat envs id purchaseId mandateId d q,
    Waiting id (create purchaseId mandateId deadline) d → q.escalationId = id →
    q.now = moment.micros → Approved (after isoformat envs i (.resolve q) d id) →
    moment.micros ≤ due
  /-- Nothing expires before the deadline. -/
  expire : ∀ isoformat envs id purchaseId mandateId d,
    Waiting id (create purchaseId mandateId deadline) d →
    (after isoformat envs i (.expirePending moment.micros) d id).status = .expired →
    due ≤ moment.micros
  /-- Where nothing fails, the one ends where the other begins. -/
  partition : ∀ isoformat envs id purchaseId mandateId d q,
    Waiting id (create purchaseId mandateId deadline) d → ¬ Failed envs → q.escalationId = id →
    q.now = moment.micros → q.sticky = false → q.decision = "APPROVE" →
    (Approved (after isoformat envs i (.resolve q) d id) ↔ moment.micros ≤ due) ∧
    ((after isoformat envs i (.expirePending moment.micros) d id).status = .expired ↔
      due < moment.micros)

section Exact

variable {ι : Type} [DecidableEq ι] {i : ι} {isoformat : ℤ → String} {envs : ℕ → Env}
  {id purchaseId mandateId : String} {deadline moment : DateTime} {d : Desk ι} {q : ResolveRequest}

/-- An approval passes the guard. -/
theorem text_of_approved (h : Waiting id (create purchaseId mandateId deadline) d)
    (hid : q.escalationId = id) (hnow : q.now = moment.micros)
    (happroved : Approved (after isoformat envs i (.resolve q) d id)) :
    ¬ deadline.text < moment.text := by
  rcases after_resolve envs h hid rfl with ⟨hgranted, -⟩ | ⟨hrow, -⟩
  · intro htext
    rw [← timeoutAt_lt_iff, ← hnow] at htext
    exact hgranted (.inr htext)
  · rw [hrow] at happroved
    cases happroved.1

/-- What passes the guard is approved, where nothing fails. -/
theorem approved_of_text (h : Waiting id (create purchaseId mandateId deadline) d)
    (hwell : ¬ Failed envs) (hid : q.escalationId = id) (hnow : q.now = moment.micros)
    (hsticky : q.sticky = false) (hdecision : q.decision = "APPROVE")
    (htext : ¬ deadline.text < moment.text) :
    Approved (after isoformat envs i (.resolve q) d id) := by
  rcases after_resolve envs h hid rfl with ⟨-, x, hx, hrow⟩ | ⟨-, hreason⟩
  · rw [hrow]
    exact ⟨rfl, by rw [← hdecision, ← hx]; rfl⟩
  · exfalso
    rcases hreason with hfail | hrefused
    · exact hwell hfail
    · unfold Refused at hrefused
      rw [hsticky, hnow, timeoutAt_lt_iff] at hrefused
      exact htext (hrefused.resolve_left Bool.false_ne_true)

/-- An expiry passes the guard. -/
theorem text_of_expired (h : Waiting id (create purchaseId mandateId deadline) d)
    (hexpired : (after isoformat envs i (.expirePending moment.micros) d id).status = .expired) :
    deadline.text < moment.text := by
  by_contra htext
  rcases after_expire envs h rfl with hrow | ⟨hrow, -⟩
  · rw [if_neg (mt timeoutAt_lt_iff.1 htext)] at hrow
    rw [hrow] at hexpired
    cases hexpired
  · rw [hrow] at hexpired
    cases hexpired

/-- What passes the guard expires, where nothing fails. -/
theorem expired_of_text (h : Waiting id (create purchaseId mandateId deadline) d)
    (hwell : ¬ Failed envs) (htext : deadline.text < moment.text) :
    (after isoformat envs i (.expirePending moment.micros) d id).status = .expired := by
  rcases after_expire envs h rfl with hrow | ⟨-, hfail⟩
  · rw [hrow, if_pos (timeoutAt_lt_iff.2 htext)]
    rfl
  · exact absurd hfail hwell

/-- Away from the deadline's second, the texts are in the order of the moments. -/
theorem text_lt_iff_micros (h : ¬ (deadline.micros < moment.micros ∧
    moment.seconds = deadline.seconds)) :
    deadline.text < moment.text ↔ deadline.micros < moment.micros := by
  rw [DateTime.text_lt_iff]
  by_cases heq : deadline.seconds = moment.seconds
  · have hle : ¬ deadline.micros < moment.micros := fun hlt => h ⟨hlt, heq.symm⟩
    omega
  · exact (DateTime.micros_lt_iff _ _ heq).symm

/-- A desk with one escalation. -/
def oneEscalation (ι : Type) (deadline : DateTime) : Desk ι where
  escalations := ⟨["esc_1"], fun _ => ⟨create "pur_1" "mnd_1" deadline, none⟩⟩
  outbox := []
  inserted _ := []

/-- Its approval at a moment. -/
def approval (moment : DateTime) : ResolveRequest where
  escalationId := "esc_1"
  decision := "APPROVE"
  approver := "user_1"
  channel := "web"
  sticky := false
  now := moment.micros

/-- An approval in the deadline's second is recorded, also after the deadline. -/
theorem approved_late (i : ι) (hseconds : moment.seconds = deadline.seconds) :
    Approved (after (fun _ => "") (fun _ => {}) i (.resolve (approval moment))
      (oneEscalation ι deadline) "esc_1") := by
  have hwaiting : Waiting "esc_1" (create "pur_1" "mnd_1" deadline) (oneEscalation ι deadline) :=
    ⟨List.mem_singleton_self _, rfl⟩
  refine approved_of_text hwaiting (fun h => ?_) rfl rfl rfl rfl ?_
  · obtain ⟨n, hn⟩ := h
    exact hn rfl
  · rw [DateTime.text_lt_iff, hseconds]
    exact lt_irrefl _

/-- **The deadline is exact** at every moment that is not both later than it and in its second. -/
theorem deadline_exact_iff (i : ι) {created deadline moment : DateTime} {timeout : ℤ}
    (hdeadline : deadline.micros = created.micros + timeout) :
    DeadlineExact i deadline (created.micros + timeout) moment ↔
      ¬ (created.micros + timeout < moment.micros ∧ moment.seconds = deadline.seconds) := by
  rw [← hdeadline]
  constructor
  · rintro h ⟨hlate, hseconds⟩
    have hle := h.approve _ _ _ _ _ _ _ ⟨List.mem_singleton_self _, rfl⟩ rfl rfl
      (approved_late i hseconds)
    omega
  · intro h
    have htext := text_lt_iff_micros h
    refine ⟨fun isoformat envs id _ _ d q hd hid hnow happroved => ?_,
      fun isoformat envs id _ _ d hd hexpired => ?_,
      fun isoformat envs id _ _ d q hd hwell hid hnow hsticky hdecision => ⟨?_, ?_⟩⟩
    · have := mt htext.2 (text_of_approved hd hid hnow happroved)
      omega
    · exact (htext.1 (text_of_expired hd hexpired)).le
    · rw [← not_lt, ← htext]
      exact ⟨text_of_approved hd hid hnow, approved_of_text hd hwell hid hnow hsticky hdecision⟩
    · rw [← htext]
      exact ⟨text_of_expired hd, expired_of_text hd hwell⟩

end Exact

/-! ## A late approval -/

/-- A moment of the noon of one day. -/
def noon (minute second micro : ℕ) (hminute : minute < 60) (hsecond : second < 60)
    (hmicro : micro < 1000000) : DateTime where
  year := 2026
  month := 1
  day := 1
  hour := 12
  minute := minute
  second := second
  micro := micro
  year_pos := by decide
  year_le := by decide
  month_pos := by decide
  month_le := by decide
  day_pos := by decide
  day_le := by decide
  hour_lt := by decide
  minute_lt := hminute
  second_lt := hsecond
  micro_lt := hmicro

/-- The deadline holds for an approval on time. -/
theorem exact_on_time : DeadlineExact () (noon 2 0 100000 (by decide) (by decide) (by decide))
    ((noon 0 0 100000 (by decide) (by decide) (by decide)).micros + 120000000)
    (noon 1 59 900000 (by decide) (by decide) (by decide)) :=
  (deadline_exact_iff () (by decide)).2 (by decide)

/-- **A late approval**: 800 milliseconds after the deadline, in its second. -/
theorem late_approval : ¬ DeadlineExact () (noon 2 0 100000 (by decide) (by decide) (by decide))
    ((noon 0 0 100000 (by decide) (by decide) (by decide)).micros + 120000000)
    (noon 2 0 900000 (by decide) (by decide) (by decide)) := by
  intro h
  have hle := h.approve _ _ _ _ _ _ _ ⟨List.mem_singleton_self _, rfl⟩ rfl rfl
    (approved_late () (by decide))
  revert hle
  decide

end TryTrust.Api.Deadline
