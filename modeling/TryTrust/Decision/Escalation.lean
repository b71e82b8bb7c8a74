import TryTrust.Decision.Balance
import TryTrust.Decision.Calls

/-!
# Escalations fail closed

* `Moved`: a purchase leaves `awaiting_escalation` for `pending_capture`; `EachStep`: what holds of
  every port call of an event; `Unheld`: a purchase in none of the books;
* `resolve_moves`: one resolution, from any stores and with any failing port calls;
  `resolve_refuses`: one resolution that is not authorised or gets no reservation;
* **`escalation_fail_closed`**: both, in every run.
-/

namespace TryTrust.DecisionCore

open Conc

/-! ## What a resolution moves -/

/-- The purchase leaves `awaiting_escalation` for `pending_capture`. -/
def Moved (pid : String) (t t' : Stores) : Prop :=
  (∃ p, t.purchase pid = some p ∧ p.status = .awaitingEscalation) ∧
    ∃ p, t'.purchase pid = some p ∧ p.status = .pendingCapture

/-- A port call that moves no purchase. -/
def Op.still : Op → Prop
  | .updatePurchase _ c => c.status ≠ .pendingCapture
  | _ => True

section Moves

variable {K : Deps} {e : Env}

theorem still_of_idle {o : Op} (h : o.idle) : o.still := by
  cases o <;> trivial

theorem still_of_verify {r : VerifyRequest} {o : Op} (h : o.ofVerify r) : o.still := by
  cases o with
  | updatePurchase q c =>
    intro hc
    rw [h.2.1] at hc
    cases hc
  | _ => trivial

theorem still_of_expire {record : EscalationRecord} {o : Op} (h : o.ofExpire record) : o.still := by
  cases o with
  | updatePurchase q c =>
    intro hc
    rw [h.2] at hc
    cases hc
  | _ => trivial

/-- A port call moves only the purchase that it sets to `pending_capture`. -/
theorem moved_update {c : Call} {s : Stores} {pid : String} (h : Moved pid s (sem e c s).2) :
    ∃ x, c.op = .updatePurchase pid x ∧ x.status = .pendingCapture := by
  obtain ⟨⟨p, hp, hawait⟩, p', hp', hpend⟩ := h
  have hchanged : p' ≠ p := by
    rintro rfl
    rw [hawait] at hpend
    cases hpend
  rcases sem_purchase e c s pid with heq | heq
  · rw [heq, hp] at hp'
    exact absurd (Option.some.inj hp').symm hchanged
  · rw [heq, exec_purchase, hp] at hp'
    split at hp'
    · exact absurd (Option.some.inj hp').symm hchanged
    · next q x hop =>
      split_ifs at hp' with hq
      · cases hp'
        exact ⟨x, by rw [hop, hq], hpend⟩
      · exact absurd (Option.some.inj hp').symm hchanged
    · exact absurd (Option.some.inj hp').symm hchanged

theorem still_moves {c : Call} (h : c.op.still) (s : Stores) (pid : String) :
    ¬ Moved pid s (sem e c s).2 := by
  intro hm
  obtain ⟨x, hop, hx⟩ := moved_update hm
  rw [hop] at h
  exact h hx

/-- A program of still calls moves nothing. -/
theorem still_flow {α : Type} {p : Ds α} (hp : p.Calls fun c => c.op.still)
    {R : String → Prop} (s : Stores) :
    Flow (sem e) (fun t _ _ t' => ∀ pid, Moved pid t t' → R pid) (fun _ _ => True) p s :=
  flow_calls (I := fun _ => True)
    (fun _ t hc _ => ⟨fun pid hm => absurd hm (still_moves hc t pid), trivial⟩) hp trivial

/-- **One resolution** moves the purchase of its own escalation, and only when it is authorised. -/
theorem resolve_moves (r : ResolveRequest) (s : Stores) :
    Flow (sem e) (fun t _ _ t' => ∀ pid, Moved pid t t' → ∃ record mandate,
        s.escalations r.escalationId = some record ∧ record.status = .pending ∧
          record.purchaseId = pid ∧ Authorized K e s r record mandate)
      (fun _ _ => True) (resolve K r) s := by
  refine resolve_rule (fun t c hc pid hm => absurd hm (still_moves (still_of_idle hc) t pid))
    trivial (fun _ => trivial) (fun record _ _ => ?_) (fun record reason t _ _ _ => ?_)
    fun record mandate hid hpend hauth => ?_
  · exact still_flow (Prog.calls_mono (fun _ => still_of_idle) (resolveSettled_calls record r)) s
  · exact still_flow (Prog.calls_mono (fun _ => still_of_expire) (expire_calls record reason none
      r.now)) t
  · refine flow_calls (I := fun _ => True) (fun c t hc _ => ⟨fun pid hm => ?_, trivial⟩)
      (resolveReserve_calls record mandate r) trivial
    obtain ⟨x, hop, hx⟩ := moved_update hm
    refine ⟨record, mandate, hid, hpend, ?_, hauth⟩
    rcases hc with hc | ⟨y, hy⟩ | ⟨d, hd⟩
    · exact absurd hm (still_moves (still_of_expire hc) t pid)
    · rw [hop] at hy
      cases hy
      rfl
    · rw [hop] at hd
      cases hd

end Moves

/-! ## What a refused resolution leaves -/

/-- A purchase in none of the books. -/
structure Unheld (pid : String) (s : Stores) : Prop where
  stored : ∃ p, s.purchase pid = some p ∧ p.status ≠ .pendingCapture
  key : s.ledger.keys pid = none
  reservation : s.ledger.reservations (resId pid) = none

theorem Quieted.unheld {E : Entry} {s : Stores} (h : Quieted E false false s)
    (hsome : (s.purchase E.pid).isSome) : Unheld E.pid s := by
  obtain ⟨x, hM, hx⟩ := h
  obtain ⟨p, hp⟩ := Option.isSome_iff_exists.1 hsome
  exact ⟨⟨p, hp, (hx p (hM.booked.record.symm.trans hp)).1⟩, hM.booked.ownKey, hM.booked.own⟩

section Refuses

variable {K : Deps} {e : Env} {s : Stores}

/-- **One resolution that makes no reservation** leaves the purchase out of the books, and what is
reserved as it was. -/
theorem resolve_refuses (hS : Sound s) {r : ResolveRequest} {record : EscalationRecord}
    (hid : s.escalations r.escalationId = some record) (hpend : record.status = .pending)
    (hno : ∀ mandate a, ¬ ResolveReserves K e s r record mandate a) :
    Unheld record.purchaseId (after K s (.resolve r e)) ∧
      ∀ m, (after K s (.resolve r e)).ledger.reserved m = s.ledger.reserved m := by
  obtain ⟨_, p, hp, hquiet, hpm, hintent⟩ := hS.parked.parked _ record hid hpend
  have hsome : ((after K s (.resolve r e)).purchase record.purchaseId).isSome :=
    run_sem_keeps (φ := fun _ => True) (I := fun t => (t.purchase record.purchaseId).isSome)
      (fun c _ _ ht => sem_keeps_purchase e c ht) (Prog.calls_true _) (by rw [hp]; rfl)
  have hM : Mid (s.entry record.purchaseId record.mandateId) false (some p) false s := by
    have hbooked := hS.tallied.booked record.purchaseId record.mandateId 0
      fun q hq => by rw [hp] at hq; cases hq; exact hquiet.1
    rw [hp] at hbooked
    exact ⟨hbooked, hS.parked⟩
  have hx : ∀ q, some p = some q → q.Quiet := by
    rintro _ ⟨rfl⟩
    exact hquiet
  have hexpire : ∀ reason t, Mid (s.entry record.purchaseId record.mandateId) false (some p) false
      t → (∀ m, t.ledger.reserved m = s.ledger.reserved m) →
      Ends (sem e) (fun _ s' => Quieted (s.entry record.purchaseId record.mandateId) false false s' ∧
        ∀ m, s'.ledger.reserved m = s.ledger.reserved m) (expire K record reason none r.now) t := by
    intro reason t ht hres
    refine flow_mono (fun _ s' h => ⟨h.1, fun m => ?_⟩)
      (expire_ends ⟨some p, ht, hx⟩ record rfl reason r.now)
    rw [h.2.1, hres]
  have hhere : Quieted (s.entry record.purchaseId record.mandateId) false false s ∧
      ∀ m, s.ledger.reserved m = s.ledger.reserved m := ⟨⟨some p, hM, hx⟩, fun _ => rfl⟩
  have hend : Quieted (s.entry record.purchaseId record.mandateId) false false
      (after K s (.resolve r e)) ∧
        ∀ m, (after K s (.resolve r e)).ledger.reserved m = s.ledger.reserved m := by
    refine flow_run (R := fun _ _ _ _ => True) (Q := fun _ s' =>
        Quieted (s.entry record.purchaseId record.mandateId) false false s' ∧
          ∀ m, s'.ledger.reserved m = s.ledger.reserved m)
      (resolve_rule (fun _ _ _ => trivial) hhere (fun _ => hhere) (fun record' hid' hne => ?_)
        (fun record' reason t hid' _ hst => ?_) fun record' mandate hid' _ hauth => ?_)
    · rw [hid] at hid'
      cases hid'
      exact absurd hpend hne
    · rw [hid] at hid'
      cases hid'
      exact hexpire reason t (hM.same hst) fun m => by rw [hst.ledger]
    · rw [hid] at hid'
      cases hid'
      have hMv := hM.same (s.viewed_same mandate record.mandateId r.now)
      refine flow_attempt_bind (reserve_ends hMv .resolveReserve mandate record.intent)
        fun x t hxt => ?_
      obtain ⟨_, ⟨⟨y, rfl⟩, hMt, hres⟩ | ⟨a, hg, _⟩⟩ := hxt
      · exact hexpire .mandateSuspended t hMt hres
      · exact absurd ⟨⟨hid, hpend⟩, hauth, hg.amount, hg.port, hg.granted⟩ (hno mandate a)
  exact ⟨hend.1.unheld hsome, hend.2⟩

end Refuses

/-! ## Runs -/

/-- Every port call of an event has the property. -/
def EachStep (K : Deps) (R : Stores → Stores → Prop) (s : Stores) : Event → Prop
  | .verify r e => Flow (sem e) (fun t _ _ t' => R t t') (fun _ _ => True) (verify K r) s
  | .resolve r e => Flow (sem e) (fun t _ _ t' => R t t') (fun _ _ => True) (resolve K r) s
  | .others mandates offers => R s { s with mandates := mandates, offers := offers }

/-- The event is an authorised resolution of an escalation of the purchase. -/
def Resolves (K : Deps) (s : Stores) (x : Event) (pid : String) : Prop :=
  ∃ r e record mandate, x = .resolve r e ∧ s.escalations r.escalationId = some record ∧
    record.status = .pending ∧ record.purchaseId = pid ∧ Authorized K e s r record mandate

/-- Every purchase id belongs to one intent. -/
def OneIntent (events : List Event) : Prop :=
  ∀ r e r' e', .verify r e ∈ events → .verify r' e' ∈ events → r.pid = r'.pid →
    r.intent.jti = r'.intent.jti

/-- No port call of the event fails. -/
def Event.unfailing : Event → Prop
  | .verify _ e => ∀ site, e.fails site = false
  | .resolve _ e => ∀ site, e.fails site = false
  | .others _ _ => True

/-- The purchases stored are those that the sequence verifies. -/
def Verified (events : List Event) (s : Stores) : Prop :=
  ∀ q p, s.purchase q = some p → ∃ r e, .verify r e ∈ events ∧ r.pid = q ∧
    r.intent.jti = p.intentJti

section Run

variable {K : Deps} {s : Stores} {events : List Event}

theorem verified_sem {e : Env} {c : Call} (hc : ∀ p, c.op = .createPurchase p → ∃ r e,
    Event.verify r e ∈ events ∧ r.pid = p.purchaseId ∧ r.intent.jti = p.intentJti)
    (h : Verified events s) : Verified events (sem e c s).2 := by
  intro q p hp
  rcases sem_purchase e c s q with heq | heq
  · exact h q p (heq ▸ hp)
  · rw [heq, exec_purchase] at hp
    split at hp
    · next x hop =>
      cases hq : s.purchase q with
      | some y =>
        rw [hq, Option.some_or] at hp
        cases hp
        exact h q p hq
      | none =>
        rw [hq, Option.none_or] at hp
        split_ifs at hp with hpid
        cases hp
        obtain ⟨r, e', hr, hrest⟩ := hc p hop
        exact ⟨r, e', hr, hrest.1.trans hpid.symm, hrest.2⟩
    · split_ifs at hp with hpid
      · obtain ⟨y, hy, rfl⟩ := Option.map_eq_some_iff.1 hp
        exact h q y hy
      · exact h q p hp
    · exact h q p hp

theorem verified_same {t : Stores} (hst : Same s t) (h : Verified events s) : Verified events t :=
  fun q p hp => h q p (by rw [← hst.purchase]; exact hp)

/-- An event of the sequence stores only purchases that the sequence verifies. -/
theorem verified_after {x : Event} (hx : x ∈ events) (h : Verified events s) :
    Verified events (after K s x) := by
  have hnew : ∀ (e : Env) (c : Call) (t : Stores), (∀ p, c.op ≠ .createPurchase p) →
      Verified events t → Verified events (sem e c t).2 := fun e c t hc ht =>
    verified_sem (fun p hop => absurd hop (hc p)) ht
  cases x with
  | verify r e =>
    refine run_sem_keeps (fun c t hc ht => verified_sem (fun p hop => ?_) ht) (verify_calls r) h
    rw [hop] at hc
    exact ⟨r, e, hx, hc.1.symm, by rw [PurchaseRecord.intentJti, hc.2]⟩
  | resolve r e =>
    refine flow_run (R := fun _ _ _ _ => True) (Q := fun _ s' => Verified events s')
      (resolve_rule (fun _ _ _ => trivial) h (fun _ => h) (fun record _ _ => ?_)
        (fun record reason t _ _ hst => ?_) fun record mandate _ _ _ => ?_)
    · exact flow_mono (fun _ _ hst => verified_same hst h) (idle_ends e (resolveSettled_calls _ r) s)
    · refine ends_calls (fun c t hc ht => hnew e c t (fun p hop => ?_) ht) (expire_calls _ _ _ _)
        (verified_same hst h)
      rw [hop] at hc
      exact hc
    · refine ends_calls (fun c t hc ht => hnew e c t (fun p hop => ?_) ht)
        (resolveReserve_calls record mandate r) (verified_same (s.viewed_same _ _ _) h)
      rw [hop] at hc
      rcases hc with hc | ⟨_, hc⟩ | ⟨_, hc⟩
      · exact hc
      · cases hc
      · cases hc
  | others mandates offers => exact h

/-- With one intent for each purchase id and no failing port call, every event is careful. -/
theorem careful_of_oneIntent (hone : OneIntent events) {x : Event} (hx : x ∈ events)
    (hfine : x.unfailing) (h : Verified events s) : Careful K s x := by
  cases x with
  | verify r e =>
    have hfine : ∀ site, e.fails site = false := hfine
    refine ⟨fun _ _ hunseen => ?_, fun _ _ _ => by simp [Env.recordsWell, hfine]⟩
    by_contra hstored
    obtain ⟨p, hp⟩ := Option.ne_none_iff_exists'.1 hstored
    obtain ⟨r', e', hr', hpid, hjti⟩ := h r.pid p hp
    have hsame : r.intent.jti = p.intentJti := (hone r e r' e' hx hr' hpid.symm).trans hjti
    have hmem : p ∈ s.purchases := (lookup_some hp).1
    have := List.find?_eq_none.1 hunseen p hmem
    simp [hsame] at this
  | resolve r e =>
    have hfine : ∀ site, e.fails site = false := hfine
    exact fun _ _ _ _ => by simp [Env.resolvesWell, hfine]
  | others => trivial

/-- A call of `verify` moves no purchase, and an event no other than its resolution's. -/
theorem each_step_resolves (s : Stores) (x : Event) :
    EachStep K (fun t t' => ∀ pid, Moved pid t t' → Resolves K s x pid) s x := by
  cases x with
  | verify r e => exact still_flow (Prog.calls_mono (fun _ => still_of_verify) (verify_calls r)) s
  | resolve r e =>
    refine flow_mono_steps (fun t c _ t' h pid hm => ?_) (resolve_moves r s)
    obtain ⟨record, mandate, hrest⟩ := h pid hm
    exact ⟨r, e, record, mandate, rfl, hrest⟩
  | others mandates offers =>
    rintro pid ⟨⟨p, hp, hawait⟩, p', hp', hpend⟩
    rw [show ({ s with mandates := mandates, offers := offers } : Stores).purchase pid =
      s.purchase pid from rfl, hp] at hp'
    cases hp'
    rw [hawait] at hpend
    cases hpend

end Run

/-- **Escalations fail closed.** In every run, with any failing port calls, every port call that
moves a purchase from `awaiting_escalation` to `pending_capture` is made inside an authorised
resolution of its escalation, and expiries move nothing. When no port call fails and every purchase
id belongs to one intent, a resolution of a pending escalation that makes no reservation leaves its
purchase out of all books and the reserved totals as they were. -/
theorem escalation_fail_closed (K : Deps) :
    (∀ s events, Throughout K (fun s x => EachStep K (fun t t' => ∀ pid, Moved pid t t' →
      Resolves K s x pid) s x) s events) ∧
    (∀ e s record reason reservationId now, Flow (sem e)
      (fun t _ _ t' => ∀ pid, ¬ Moved pid t t') (fun _ _ => True)
      (expire K record reason reservationId now) s) ∧
    ∀ s events, Blank s → OneIntent events → (∀ x ∈ events, x.unfailing) →
      Throughout K (fun s x => ∀ r e record, x = .resolve r e →
        s.escalations r.escalationId = some record → record.status = .pending →
        (∀ mandate a, ¬ ResolveReserves K e s r record mandate a) →
        Unheld record.purchaseId (after K s x) ∧
          ∀ m, (after K s x).ledger.reserved m = s.ledger.reserved m) s events := by
  refine ⟨fun s events => ?_, fun e s record reason rid now => ?_, ?_⟩
  · refine throughout_keeps K (I := fun _ => True) (P := fun _ _ => True)
      (fun s x _ _ => ⟨each_step_resolves s x, trivial⟩) trivial ?_
    induction events generalizing s with
    | nil => trivial
    | cons x xs ih => exact ⟨trivial, ih _⟩
  · exact flow_mono_steps (fun t c _ t' h pid hm => h pid hm) (still_flow (R := fun _ => False)
      (Prog.calls_mono (fun _ => still_of_expire) (expire_calls record reason rid now)) s)
  · intro s events hs hone hfine
    refine throughout_keeps K (I := fun s => Sound s ∧ Verified events s)
      (P := fun _ x => x ∈ events) (fun s x hI hx => ?_) ⟨hs.sound, ?_⟩ ?_
    · have hcareful := careful_of_oneIntent (K := K) hone hx (hfine x hx) hI.2
      refine ⟨?_, after_sound x hI.1 hcareful, verified_after hx hI.2⟩
      rintro r e record rfl hid hpend hno
      exact resolve_refuses hI.1 hid hpend hno
    · intro q p hp
      rw [Stores.purchase, hs.purchases] at hp
      cases hp
    · -- every event of the sequence is one of the sequence
      have hall : ∀ (xs : List Event) (s : Stores), (∀ x ∈ xs, x ∈ events) →
          Throughout K (fun _ x => x ∈ events) s xs := by
        intro xs
        induction xs with
        | nil => exact fun _ _ => trivial
        | cons x xs ih =>
          exact fun s h => ⟨h x List.mem_cons_self, ih _ fun y hy => h y (List.mem_cons_of_mem _ hy)⟩
      exact hall events s fun _ hx => hx

/-- A gate that asks a human first. -/
def watchful : Deps :=
  { lenient with
    evaluate := fun _ _ _ _ _ approvedStepup => .ok (if approvedStepup then .approved none
      else ⟨.escalated, some .velocityBurst, none, none, some .l3, none, false⟩) }

/-- A human refuses: the purchase holds nothing. -/
theorem escalation_fail_closed_refused : Unheld "p-1" (history watchful shop
    [.verify (buy "int-1" 3000 "p-1" "esc-1") (failing []),
      .resolve ⟨"esc-1", .text "REJECT", 1⟩ (failing [])]) := by
  have hone : OneIntent [.verify (buy "int-1" 3000 "p-1" "esc-1") (failing []),
      .resolve ⟨"esc-1", .text "REJECT", 1⟩ (failing [])] := by
    rintro r e r' e' (_ | ⟨_, _ | ⟨_, ⟨⟩⟩⟩) (_ | ⟨_, _ | ⟨_, ⟨⟩⟩⟩) _
    rfl
  have hfine : ∀ x ∈ [Event.verify (buy "int-1" 3000 "p-1" "esc-1") (failing []),
      .resolve ⟨"esc-1", .text "REJECT", 1⟩ (failing [])], x.unfailing := by
    rintro x (_ | ⟨_, _ | ⟨_, ⟨⟩⟩⟩) site <;> rfl
  have hrun := (escalation_fail_closed watchful).2.2 shop _ shop_blank hone hfine
  have hstored : ((after watchful shop (.verify (buy "int-1" 3000 "p-1" "esc-1")
      (failing []))).escalations "esc-1").map (fun x => (x.status, x.purchaseId)) =
        some (.pending, "p-1") := by
    decide +kernel
  obtain ⟨record, hid, hrecord⟩ := Option.map_eq_some_iff.1 hstored
  obtain ⟨hpend, hpid⟩ := Prod.mk.inj hrecord
  have hrefused := hrun.2.1 ⟨"esc-1", .text "REJECT", 1⟩ (failing []) record rfl hid hpend
    fun mandate a h => absurd h.authorized.approves (by decide +kernel)
  rw [hpid] at hrefused
  exact hrefused.1

end TryTrust.DecisionCore
