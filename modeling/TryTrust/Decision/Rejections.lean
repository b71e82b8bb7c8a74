import TryTrust.Decision.StepUp

/-!
# Rejections are recorded

What `verify` leaves in the in-memory stores when it returns a rejection.

* `verifyAt`: `verify` with a time that may be naive;
* `RecordedOnce`: one record, one event, one observation;
* `refusal`, the rejection before anything is booked, and `Recordable`, when `_rejected` records it:
  `rejected_records`, `rejected_leaves`;
* `Unrecorded`: no event, or two observations; `branch_unrecorded`, `decide_records`;
* **`rejection_recorded_iff`**: exactly when a rejection is recorded once.
-/

namespace TryTrust.DecisionCore

open Conc

/-! ## Recorded once -/

/-- `verify` at a time that may be naive, on which it rejects at once. -/
def verifyAt (K : Deps) (r : VerifyRequest) (aware : Bool) : Ds VerificationResult :=
  if aware then verify K r else pure (rejectedResult .mandateSuspended r.pid none)

/-- `_mandate_id` of the mandate of a call. -/
def mandateIdOf (s : Stores) (r : VerifyRequest) : String :=
  ((r.mandate.or (s.mandates r.intent.mandateJti)).map (·.id)).getD r.intent.mandateJti

/-- The number of `purchase.rejected` events. -/
def rejections (s : Stores) : ℕ := s.outbox.countP fun x => x.type = "purchase.rejected"

/-- **A rejection recorded once**, from `s` to `t`: the purchase is stored, rejected for the reason
returned, and no other one is touched; one event, and one observation. -/
structure RecordedOnce (s t : Stores) (m : String) (now : ℤ) (v : VerificationResult) : Prop where
  purchase : ∃ p, t.purchase v.purchaseId = some p ∧ p.status = .rejected ∧
    p.reasonCode = v.decision.reasonCode
  others : ∀ pid, pid ≠ v.purchaseId → t.purchase pid = s.purchase pid
  event : rejections t = rejections s + 1
  observation : t.velocity.intents = bump s.velocity.intents m (minute now) 1

/-- No event, or two observations. -/
def Unrecorded (s t : Stores) (m : String) (now : ℤ) : Prop :=
  rejections t = rejections s ∨ t.velocity.intents =
    bump (bump s.velocity.intents m (minute now) 1) m (minute now) 1

theorem Unrecorded.not_once {s t : Stores} {m : String} {now : ℤ} {v : VerificationResult}
    (h : Unrecorded s t m now) : ¬ RecordedOnce s t m now v := by
  intro hv
  rcases h with h | h
  · have := hv.event
    omega
  · have hcount := congrFun (congrFun (h.symm.trans hv.observation) m) (minute now)
    simp [bump] at hcount

/-! ## The rejection -/

/-- The rejection that the gate's answer leads to: it raises or rejects, or it approves and the
observation of the approval raises in the port. -/
def gateRefusal (e : Env) : Except Err Decision → Option Decision
  | .error _ => some (.rejected .mandateSuspended)
  | .ok d =>
    match d.decision with
    | .rejected => some d
    | .escalated => none
    | .approved => if e.fails .approvedObserve then some (.rejected .mandateSuspended) else none

/-- **The rejection of a call before it books anything**: no mandate, no offer, or the gate's. -/
def refusal (K : Deps) (e : Env) (s : Stores) (r : VerifyRequest) : Option Decision :=
  match r.mandate.or (s.mandates r.intent.mandateJti) with
  | none => some (.rejected .mandateSuspended)
  | some mandate =>
    match s.offers r.intent.offerId with
    | none => some (.rejected .conditionFailed)
    | some offer =>
      if e.fails .verifySpend then some (.rejected .mandateSuspended)
      else
        gateRefusal e (K.evaluate mandate r.intent
          (s.velocity.spendView mandate mandate.id r.now).1 r.now offer false)

/-- The id of the event of a rejection. -/
def rejectionId (K : Deps) (r : VerifyRequest) (d : Decision) : String :=
  "purchase.rejected" ++ ":" ++ r.pid ++ ":" ++ K.sha256 (.obj [("purchase_id", .str r.pid),
    ("intent_jti", .str r.intent.jti), ("reason_code", jsonText (d.reasonCode.map (·.text)))])

/-- **When `_rejected` records a rejection**: the amount can be read, the four port calls do not
raise, and the outbox does not have the event yet. -/
structure Recordable (K : Deps) (e : Env) (s : Stores) (r : VerifyRequest) (d : Decision) :
    Prop where
  amount : r.intent.observed ≠ none
  observes : e.fails .rejectedObserve = false
  updates : e.fails .rejectedUpdate = false
  saves : s.purchase r.pid = none → e.fails .rejectedSave = false
  emits : e.fails .rejectedEmit = false
  fresh : ∀ x ∈ s.outbox, x.eventId ≠ rejectionId K r d

/-- What `_rejected` answers: the alert about a flood of escalations may raise. -/
def answered (e : Env) (r : VerifyRequest) (d : Decision) : VerificationResult :=
  if (d.diffAt "auto_suspend").truthy ∧ e.fails .rejectedEmitAlert = true then
    rejectedResult .mandateSuspended r.pid none
  else ⟨d, r.pid, .rejected, none⟩

section Rejection

variable {K : Deps} {e : Env} {s : Stores} {r : VerifyRequest}

theorem rejections_append (s : Stores) (x : OutboxEvent) :
    rejections (s.appendEvent x) = rejections s +
      if x.type = "purchase.rejected" ∧ ∀ y ∈ s.outbox, y.eventId ≠ x.eventId then 1 else 0 := by
  unfold Stores.appendEvent rejections
  by_cases hthere : s.outbox.any (fun y => y.eventId = x.eventId) = true
  · rw [if_pos hthere, if_neg, add_zero]
    rintro ⟨-, hno⟩
    obtain ⟨y, hy, heq⟩ := List.any_eq_true.1 hthere
    exact hno y hy (of_decide_eq_true heq)
  · have hno : ∀ y ∈ s.outbox, y.eventId ≠ x.eventId := by
      intro y hy heq
      exact hthere (List.any_eq_true.2 ⟨y, hy, decide_eq_true heq⟩)
    rw [if_neg hthere]
    simp only [List.countP_append, List.countP_singleton, decide_eq_true_eq]
    by_cases htype : x.type = "purchase.rejected"
    · rw [if_pos htype, if_pos ⟨htype, hno⟩]
    · rw [if_neg htype, if_neg fun h => htype h.1]

/-- The record and the observation of a rejection, for a reason. -/
structure Written (s t : Stores) (m pid : String) (now : ℤ) (reason : Option ReasonCode) :
    Prop where
  purchase : ∃ p, t.purchase pid = some p ∧ p.status = .rejected ∧ p.reasonCode = reason
  others : ∀ q, q ≠ pid → t.purchase q = s.purchase q
  observation : t.velocity.intents = bump s.velocity.intents m (minute now) 1

theorem Written.emit {t : Stores} {m pid : String} {now : ℤ} {reason : Option ReasonCode}
    (h : Written s t m pid now reason) (x : OutboxEvent) :
    Written s (t.appendEvent x) m pid now reason := by
  obtain ⟨hv, -, hp⟩ := t.appendEvent_rest x
  obtain ⟨p, hstored, hstatus, hreason⟩ := h.purchase
  refine ⟨⟨p, (hp pid).trans hstored, hstatus, hreason⟩, fun q hq => ?_, ?_⟩
  · rw [hp, h.others q hq]
  · rw [hv, h.observation]

theorem Written.update {t : Stores} {m pid : String} {now : ℤ} {reason reason' : Option ReasonCode}
    (h : Written s t m pid now reason) :
    Written s (t.updatePurchase pid ⟨.rejected, reason', none, true⟩) m pid now reason' := by
  obtain ⟨p, hstored, hstatus, hreason⟩ := h.purchase
  refine ⟨⟨p.change ⟨.rejected, reason', none, true⟩, ?_, rfl, rfl⟩, fun q hq => ?_, h.observation⟩
  · rw [Stores.purchase_update_self, hstored]
    rfl
  · rw [Stores.purchase_update_ne _ _ hq, h.others q hq]

theorem Stores.createPurchase_outbox (s : Stores) (p : PurchaseRecord) :
    (s.createPurchase p).outbox = s.outbox := by
  unfold createPurchase
  cases s.purchase p.purchaseId <;> rfl

/-- The record of a rejection that was not stored, after the observation. -/
theorem written_create {t : Stores} {m pid : String} {now : ℤ} {p : PurchaseRecord}
    (hobserved : t.velocity.intents = bump s.velocity.intents m (minute now) 1)
    (hkept : ∀ q, t.purchase q = s.purchase q) (hnone : s.purchase pid = none)
    (hpid : p.purchaseId = pid) (hstatus : p.status = .rejected) :
    Written s (t.createPurchase p) m pid now p.reasonCode := by
  have hp : t.purchase p.purchaseId = none := by rw [hkept, hpid, hnone]
  refine ⟨⟨p, ?_, hstatus, rfl⟩, fun q hq => ?_, ?_⟩
  · rw [Stores.purchase_create hp, if_pos hpid.symm]
  · rw [Stores.purchase_create hp, if_neg (hpid ▸ hq), hkept]
  · rw [(t.createPurchase_rest p).2.1, hobserved]

/-- The record of a rejection that was stored, after the observation. -/
theorem written_update {t : Stores} {m pid : String} {now : ℤ} {reason : Option ReasonCode}
    (hobserved : t.velocity.intents = bump s.velocity.intents m (minute now) 1)
    (hkept : ∀ q, t.purchase q = s.purchase q) (hsome : (s.purchase pid).isSome) :
    Written s (t.updatePurchase pid ⟨.rejected, reason, none, true⟩) m pid now reason := by
  obtain ⟨p, hp⟩ := Option.isSome_iff_exists.1 hsome
  refine ⟨⟨p.change ⟨.rejected, reason, none, true⟩, ?_, rfl, rfl⟩, fun q hq => ?_, hobserved⟩
  · rw [Stores.purchase_update_self, hkept, hp]
    rfl
  · rw [Stores.purchase_update_ne _ _ hq, hkept]

/-- What `_rejected` leaves: everything about the rejection, or no event. -/
def Left (K : Deps) (e : Env) (s t : Stores) (r : VerifyRequest) (m : String) (d : Decision)
    (reason : Option ReasonCode) : Prop :=
  (Recordable K e s r d ∧ Written s t m r.pid r.now reason ∧ rejections t = rejections s + 1) ∨
    (¬ Recordable K e s r d ∧ rejections t = rejections s)

theorem rejections_other (s : Stores) {x : OutboxEvent} (h : x.type ≠ "purchase.rejected") :
    rejections (s.appendEvent x) = rejections s := by
  rw [rejections_append, if_neg fun hx => h hx.1, add_zero]

/-- Another event changes none of it. -/
theorem Left.other {t : Stores} {m : String} {d : Decision} {reason : Option ReasonCode}
    (h : Left K e s t r m d reason) {x : OutboxEvent} (hx : x.type ≠ "purchase.rejected") :
    Left K e s (t.appendEvent x) r m d reason := by
  rcases h with ⟨hrec, hw, hcount⟩ | ⟨hnot, hcount⟩
  · exact .inl ⟨hrec, hw.emit x, (rejections_other t hx).trans hcount⟩
  · exact .inr ⟨hnot, (rejections_other t hx).trans hcount⟩

/-- **The transaction of `_rejected`** records everything, or stops before the event; only the alert
may raise after it. -/
theorem rejectedBody_left (m : String) (d : Decision) :
    Ends (sem e) (fun res t => Left K e s t r m d d.reasonCode ∧ (Recordable K e s r d →
        if (d.diffAt "auto_suspend").truthy ∧ e.fails .rejectedEmitAlert = true then
          ∃ y, res = .error y else res = .ok ()))
      (rejectedBody K r.intent m r.pid d r.now) s := by
  have hno : ∀ {t : Stores} {P : Prop}, ¬ Recordable K e s r d → rejections t = rejections s →
      Left K e s t r m d d.reasonCode ∧ (Recordable K e s r d → P) :=
    fun hnot ht => ⟨.inr ⟨hnot, ht⟩, fun h => absurd h hnot⟩
  have hfail : ∀ {b : Bool} {P : Prop}, b = false → b = true → P := fun h h' => by
    rw [h] at h'
    cases h'
  unfold rejectedBody
  cases hamount : r.intent.observed with
  | none =>
    have hnot : ¬ Recordable K e s r d := fun h => h.amount hamount
    exact ends_port_raise rfl (hno hnot rfl) (hno hnot rfl)
  | some a =>
    refine ends_port_bind rfl (fun hf => hno (fun h => hfail h.observes hf) rfl) fun hobserves => ?_
    refine ends_port_bind rfl (fun hf => hno (fun h => hfail h.updates hf) rfl) fun hupdates => ?_
    let u : Stores := { s with velocity := s.velocity.incrementIntent m a r.now }
    let p : PurchaseRecord := ⟨r.pid, m, r.intent, .rejected, d.reasonCode, none, none⟩
    -- what is left once the record is there
    have hrest : ∀ t : Stores, Written s t m r.pid r.now d.reasonCode → t.outbox = s.outbox →
        (s.purchase r.pid = none → e.fails .rejectedSave = false) →
        Ends (sem e) (fun res t => Left K e s t r m d d.reasonCode ∧ (Recordable K e s r d →
            if (d.diffAt "auto_suspend").truthy ∧ e.fails .rejectedEmitAlert = true then
              ∃ y, res = .error y else res = .ok ()))
          (do
            emit K .rejectedEmit "purchase.rejected" r.pid
              [("purchase_id", .str r.pid), ("intent_jti", .str r.intent.jti),
                ("reason_code", jsonText (d.reasonCode.map (·.text)))] r.now
            whenever (d.diffAt "auto_suspend").truthy (emit K .rejectedEmitAlert "fraud.alert" m
              [("mandate_id", .str m), ("kind", .str "escalation_flood")] r.now)) t := by
      intro t ht hout hsaves
      have hcount : rejections t = rejections s := by
        unfold rejections
        rw [hout]
      refine ends_port_bind rfl (fun hf => hno (fun h => hfail h.emits hf) hcount) fun hemits => ?_
      let x : OutboxEvent := ⟨rejectionId K r d, "purchase.rejected", r.pid,
        [("purchase_id", .str r.pid), ("intent_jti", .str r.intent.jti),
          ("reason_code", jsonText (d.reasonCode.map (·.text)))], r.now⟩
      have hleft : Left K e s (t.appendEvent x) r m d d.reasonCode := by
        have happend := rejections_append t x
        rw [hout, hcount] at happend
        by_cases hfresh : ∀ y ∈ s.outbox, y.eventId ≠ rejectionId K r d
        · rw [if_pos ⟨rfl, hfresh⟩] at happend
          exact .inl ⟨⟨by simp [hamount], hobserves, hupdates, hsaves, hemits, hfresh⟩, ht.emit x,
            happend⟩
        · rw [if_neg fun h => hfresh h.2, add_zero] at happend
          exact .inr ⟨fun h => hfresh h.fresh, happend⟩
      cases halert : (d.diffAt "auto_suspend").truthy with
      | false => exact flow_pure ⟨hleft, fun _ => by simp⟩
      | true =>
        refine ends_port .rejectedEmitAlert (.emit _) (fun hf => ⟨hleft, fun _ => ?_⟩)
          fun hf => ⟨hleft.other
            (show "fraud.alert" ≠ "purchase.rejected" by decide), fun _ => ?_⟩
        · rw [if_pos ⟨rfl, hf⟩]
          exact ⟨_, rfl⟩
        · rw [if_neg (by simp [hf])]
          rfl
    have hkept : ∀ q, u.purchase q = s.purchase q := fun _ => rfl
    have hupdated : (u.purchase r.pid).isSome = (s.purchase r.pid).isSome := rfl
    rw [hupdated]
    cases hp : s.purchase r.pid with
    | some q =>
      exact hrest _ (written_update rfl hkept (by simp [hp])) rfl fun h => by rw [hp] at h; cases h
    | none =>
      have hsame : ∀ q, (u.updatePurchase r.pid ⟨.rejected, d.reasonCode, none, true⟩).purchase q =
          s.purchase q := by
        intro q
        by_cases hq : q = r.pid
        · rw [hq, Stores.purchase_update_self, hkept, hp]
          rfl
        · rw [Stores.purchase_update_ne _ _ hq, hkept]
      refine ends_port_bind (o := .createPurchase p) rfl (fun hf => hno (fun h =>
        hfail (h.saves hp) hf) rfl) fun hsaves => ?_
      refine hrest _ (written_create rfl hsame hp rfl rfl) ?_ fun _ => hsaves
      rw [Stores.createPurchase_outbox]
      rfl

/-- **`_rejected`** answers, and records the answer, or leaves no event. -/
theorem rejected_left (m : String) (d : Decision) :
    Ends (sem e) (fun res t => ∀ v, res = .ok v →
        (Recordable K e s r d → v = answered e r d) ∧
          Left K e s t r m d (answered e r d).decision.reasonCode)
      (rejected K r.intent m r.pid d r.now) s := by
  unfold rejected
  refine flow_attempt_bind (rejectedBody_left m d) fun res t hres => ?_
  obtain ⟨hleft, hend⟩ := hres
  cases res with
  | ok u =>
    refine flow_pure fun v hv => ?_
    cases hv
    rcases hleft with ⟨hrec, hw, hcount⟩ | ⟨hnot, hcount⟩
    · have hok : answered e r d = ⟨d, r.pid, .rejected, none⟩ := by
        unfold answered
        split_ifs with halert
        · have := hend hrec
          rw [if_pos halert] at this
          obtain ⟨y, hy⟩ := this
          cases hy
        · rfl
      rw [hok]
      exact ⟨fun _ => rfl, .inl ⟨hrec, hw, hcount⟩⟩
    · exact ⟨fun hrec => absurd hrec hnot, .inr ⟨hnot, hcount⟩⟩
  | error y =>
    refine ends_port_bind rfl (fun _ v hv => by cases hv) fun _ => flow_pure fun v hv => ?_
    cases hv
    rcases hleft with ⟨hrec, hw, hcount⟩ | ⟨hnot, hcount⟩
    · have hok : answered e r d = rejectedResult .mandateSuspended r.pid none := by
        unfold answered
        split_ifs with halert
        · rfl
        · have := hend hrec
          rw [if_neg halert] at this
          cases this
      rw [hok]
      exact ⟨fun _ => rfl, .inl ⟨hrec, hw.update, hcount⟩⟩
    · exact ⟨fun hrec => absurd hrec hnot, .inr ⟨hnot, hcount⟩⟩

/-! ## Stores that are alike -/

/-- The same purchases, events and observations. -/
structure Alike (s t : Stores) : Prop where
  purchases : t.purchases = s.purchases
  outbox : t.outbox = s.outbox
  intents : t.velocity.intents = s.velocity.intents

theorem Alike.refl (s : Stores) : Alike s s := ⟨rfl, rfl, rfl⟩

theorem Alike.viewed (s : Stores) (mandate : Mandate) (m : String) (now : ℤ) :
    Alike s (s.viewed mandate m now) :=
  ⟨rfl, rfl, (s.velocity.getCooldown_rest m now).1⟩

theorem Alike.purchase {s t : Stores} (h : Alike s t) (pid : String) :
    t.purchase pid = s.purchase pid := by
  unfold Stores.purchase
  rw [h.purchases]

theorem Alike.rejections {s t : Stores} (h : Alike s t) : rejections t = rejections s := by
  unfold DecisionCore.rejections
  rw [h.outbox]

theorem recordable_alike {u : Stores} {d : Decision} (h : Alike s u) :
    Recordable K e u r d ↔ Recordable K e s r d := by
  have hp := h.purchase r.pid
  constructor
  · intro hr
    exact ⟨hr.amount, hr.observes, hr.updates, fun hq => hr.saves (hp.trans hq), hr.emits,
      h.outbox ▸ hr.fresh⟩
  · intro hr
    exact ⟨hr.amount, hr.observes, hr.updates, fun hq => hr.saves (hp.symm.trans hq), hr.emits,
      h.outbox.symm ▸ hr.fresh⟩

theorem Left.alike {t u : Stores} {m : String} {d : Decision} {reason : Option ReasonCode}
    (hu : Alike s u) (h : Left K e u t r m d reason) : Left K e s t r m d reason := by
  rcases h with ⟨h, hw, hevent⟩ | ⟨h, hevent⟩
  · refine .inl ⟨(recordable_alike hu).1 h, ⟨hw.purchase, fun q hq => ?_, ?_⟩, ?_⟩
    · rw [hw.others q hq, hu.purchase]
    · rw [hw.observation, hu.intents]
    · rw [hevent, hu.rejections]
  · exact .inr ⟨fun h' => h ((recordable_alike hu).2 h'), hevent.trans hu.rejections⟩

theorem Unrecorded.alike {s t u : Stores} {m : String} {now : ℤ} (hu : Alike s u)
    (h : Unrecorded u t m now) : Unrecorded s t m now := by
  unfold Unrecorded at h ⊢
  rwa [hu.rejections, hu.intents] at h

/-! ## Approvals and escalations -/

/-- A port call that is no event of a rejection. -/
def Op.silent : Op → Prop
  | .emit x => x.type ≠ "purchase.rejected"
  | _ => True

/-- A port call that is no observation. -/
def Op.unseen : Op → Prop
  | .incrementIntent _ _ _ => False
  | _ => True

theorem exec_silent (e : Env) {o : Op} (h : o.silent) (s : Stores) :
    rejections (exec e o s).2 = rejections s := by
  cases o with
  | emit x => exact rejections_other s h
  | createPurchase p =>
    simp only [exec, rejections, s.createPurchase_outbox]
  | createEscalation x =>
    simp only [exec, Stores.createEscalation]
    cases s.escalations x.escalationId <;> rfl
  | updateEscalation id status d =>
    simp only [exec, Stores.updateEscalation]
    cases s.escalations id <;> rfl
  | incrementIntent m a now => cases a <;> rfl
  | reserve m a b n id key => cases a <;> cases b <;> rfl
  | release m a id => cases a <;> rfl
  | _ => rfl

theorem sem_silent (e : Env) {c : Call} (h : c.op.silent) (s : Stores) :
    rejections (sem e c s).2 = rejections s := by
  unfold sem
  split_ifs
  · rfl
  · exact exec_silent e h s

theorem sem_unseen (e : Env) {c : Call} (h : c.op.unseen) (s : Stores) :
    (sem e c s).2.velocity.intents = s.velocity.intents := by
  unfold sem
  split_ifs
  · rfl
  · obtain ⟨site, o⟩ := c
    cases o with
    | incrementIntent => exact h.elim
    | spendView m mandate now => exact (s.velocity.getCooldown_rest m now).1
    | recordCooldown m t =>
      simp only [exec, Velocity.recordCooldown]
      split_ifs <;> rfl
    | createPurchase p => exact congrArg Velocity.intents (s.createPurchase_rest p).2.1
    | createEscalation x => exact congrArg Velocity.intents (s.createEscalation_rest x).2.1
    | updateEscalation id status d =>
      exact congrArg Velocity.intents (s.updateEscalation_rest id status d).2.1
    | emit x => exact congrArg Velocity.intents (s.appendEvent_rest x).1
    | reserve m a b n id key => cases a <;> cases b <;> rfl
    | release m a id => cases a <;> rfl
    | _ => rfl

theorem silent_ends {α : Type} {p : Ds α} (hp : p.Calls fun c => c.op.silent) (s : Stores) :
    Ends (sem e) (fun _ t => rejections t = rejections s) p s :=
  ends_calls (I := fun t => rejections t = rejections s)
    (fun _ t hc ht => (sem_silent e hc t).trans ht) hp rfl

theorem escalated_silent (x : EscalationRecord) (d : Decision) (now : ℤ) :
    (escalated K x d now).Calls fun c => c.op.silent := by
  refine Prog.calls_bind (Prog.calls_attempt ?_) fun body => ?_
  · refine Prog.calls_bind (Prog.calls_perform trivial) fun _ => ?_
    refine Prog.calls_bind (observeEscalation_calls (fun _ _ => trivial) (fun _ _ => trivial) _ _ _)
      fun _ => ?_
    refine Prog.calls_bind (Prog.calls_perform trivial) fun _ => ?_
    refine Prog.calls_bind (Prog.calls_perform trivial) fun _ => ?_
    refine Prog.calls_bind (Prog.calls_perform (show "purchase.escalated" ≠ _ by decide))
      fun _ => ?_
    refine Prog.calls_bind (whenever_calls (Prog.calls_perform
      (show "risk.stepup_required" ≠ _ by decide))) fun _ => ?_
    exact whenever_calls (Prog.calls_perform (show "agent.paused_cooldown" ≠ _ by decide))
  · cases body with
    | ok u => trivial
    | error y =>
      exact Prog.calls_bind (Prog.calls_perform trivial) fun _ =>
        Prog.calls_bind (Prog.calls_perform trivial) fun _ => trivial

/-- One observation, and no event. -/
structure Observed (s t : Stores) (m : String) (now : ℤ) : Prop where
  intents : t.velocity.intents = bump s.velocity.intents m (minute now) 1
  events : rejections t = rejections s

theorem observed_ends {α : Type} {p : Ds α} {m : String} {now : ℤ} {t : Stores}
    (hp : p.Calls fun c => c.op.silent ∧ c.op.unseen) (ht : Observed s t m now) :
    Ends (sem e) (fun _ u => Observed s u m now) p t := by
  have hcall : ∀ (c : Call) u, c.op.silent ∧ c.op.unseen → Observed s u m now →
      Observed s (sem e c u).2 m now := fun c u hc hu =>
    ⟨(sem_unseen e hc.2 u).trans hu.intents, (sem_silent e hc.1 u).trans hu.events⟩
  exact ends_calls hcall hp ht

/-- A rejection after an observation is not recorded once. -/
theorem rejected_again {t : Stores} {m : String} (ht : Observed s t m r.now) (d : Decision) :
    Ends (sem e) (fun res u => ∀ v, res = .ok v → Unrecorded s u m r.now)
      (rejected K r.intent m r.pid d r.now) t := by
  refine flow_mono (fun res u hu v hv => ?_) (rejected_left m d)
  rcases (hu v hv).2 with ⟨-, hw, -⟩ | ⟨-, hevent⟩
  · exact .inr (hw.observation.trans (by rw [ht.intents]))
  · exact .inl (hevent.trans ht.events)

/-- **An approval whose observation did not raise** is not recorded once as a rejection. -/
theorem approved_unrecorded (mandate : Mandate) (m : String)
    (hobserves : e.fails .approvedObserve = false) :
    Ends (sem e) (fun res t => ∀ v, res = .ok v → Unrecorded s t m r.now)
      (approved K mandate m r.intent r.pid r.now) s := by
  have hfail : ∀ {P : Prop}, e.fails .approvedObserve = true → P := fun h => by
    rw [hobserves] at h
    cases h
  have hquiet : ∀ {α : Type} (p : Ds α), p.Calls (fun c => c.op.silent ∧ c.op.unseen) → ∀ t,
      Observed s t m r.now → Ends (sem e) (fun _ u => Observed s u m r.now) p t :=
    fun p hp t ht => observed_ends hp ht
  have hreserve : Ends (sem e) (fun _ t => Observed s t m r.now)
      (approvedReserve mandate m r.intent r.pid r.now) s := by
    refine flow_bind (P := fun _ t => Observed s t m r.now) ?_ (fun _ t ht => ?_) fun _ _ ht => ht
    · refine ends_port .approvedObserve (.incrementIntent m r.intent.observed r.now)
        (fun h => hfail h) fun _ => ?_
      cases r.intent.observed <;> exact ⟨rfl, rfl⟩
    · exact hquiet _ (reserve_calls _ _ _ _ _ fun _ _ _ _ _ _ => ⟨trivial, trivial⟩) t ht
  unfold approved
  refine flow_attempt_bind hreserve fun reservation t ht => ?_
  rcases reservation with (_ | _ | _) | rid
  · exact rejected_again ht _
  · exact rejected_again ht _
  · exact rejected_again ht _
  · refine flow_attempt_bind (hquiet _ ?_ t ht) fun record u hu => ?_
    · refine Prog.calls_bind (Prog.calls_perform ⟨trivial, trivial⟩) fun _ => ?_
      refine Prog.calls_bind (Prog.calls_perform ⟨trivial, trivial⟩) fun _ => ?_
      exact Prog.calls_perform ⟨show "purchase.verified" ≠ _ by decide, trivial⟩
    · cases record with
      | ok _ => exact flow_pure fun _ _ => .inl hu.events
      | error y =>
        refine flow_bind (hquiet _ (releaseSlot_calls _ _ _ _ _
          (fun _ _ _ => ⟨trivial, trivial⟩) fun _ => ⟨trivial, trivial⟩) u hu)
          (fun _ w hw => rejected_again hw _) fun x w _ v hv => ?_
        cases hv

/-- An approval whose observation raises in the port is a rejection. -/
theorem approved_refused {Q : Except Err VerificationResult → Stores → Prop} (mandate : Mandate)
    (m : String) (hraises : e.fails .approvedObserve = true)
    (h : Ends (sem e) Q (rejected K r.intent m r.pid (.rejected .mandateSuspended) r.now) s) :
    Ends (sem e) Q (approved K mandate m r.intent r.pid r.now) s := by
  unfold approved
  refine flow_attempt_bind (P := fun res t => res = .error .failure ∧ t = s) ?_ ?_
  · refine flow_bind (P := fun res t => res = .error .failure ∧ t = s) ?_ ?_ ?_
    · refine ends_port .approvedObserve (.incrementIntent m r.intent.observed r.now)
        (fun _ => ⟨rfl, rfl⟩) fun hf => ?_
      rw [hraises] at hf
      cases hf
    · rintro _ t ⟨h, -⟩
      cases h
    · rintro x t ⟨hx, rfl⟩
      exact ⟨congrArg Except.error (Except.error.inj hx), rfl⟩
  · rintro res t ⟨rfl, rfl⟩
    exact h

/-! ## `verify` -/

/-- What the branches of a decision leave: a rejection as `_rejected` leaves it, or nothing that is
recorded once. -/
def Outcome (K : Deps) (e : Env) (s t : Stores) (r : VerifyRequest) (v : VerificationResult) :
    Prop :=
  (∃ d, refusal K e s r = some d ∧ (Recordable K e s r d → v = answered e r d) ∧
    Left K e s t r (mandateIdOf s r) d (answered e r d).decision.reasonCode) ∨
  (refusal K e s r = none ∧ Unrecorded s t (mandateIdOf s r) r.now)

theorem decide_outcome : Ends (sem e) (fun res t => ∀ v, res = .ok v → Outcome K e s t r v)
    (DecisionCore.decide K r) s := by
  have hraise : ∀ (y : Err) (t : Stores) (v : VerificationResult),
      (.error y : Except Err _) = .ok v → Outcome K e s t r v := fun y t v h => by cases h
  have hreject : ∀ d t, refusal K e s r = some d → Alike s t →
      Ends (sem e) (fun res t => ∀ v, res = .ok v → Outcome K e s t r v)
        (rejected K r.intent (mandateIdOf s r) r.pid d r.now) t := by
    intro d t hd ht
    refine flow_mono (fun res u hu v hv => .inl ⟨d, hd, fun hrec => ?_, ?_⟩) (rejected_left _ d)
    · exact (hu v hv).1 ((recordable_alike ht).2 hrec)
    · exact ((hu v hv).2).alike ht
  have hmandate : ∀ mandate, r.mandate.or (s.mandates r.intent.mandateJti) = some mandate →
      Ends (sem e) (fun res t => ∀ v, res = .ok v → Outcome K e s t r v)
        (decideFor K r mandate) s := by
    intro mandate hm
    have hid : mandateIdOf s r = mandate.id := by
      unfold mandateIdOf
      rw [hm]
      rfl
    rw [hid] at hreject
    refine ends_port_bind (o := .readOffer r.intent.offerId) (a := s.offers r.intent.offerId) rfl
      (fun _ => hraise _ _) fun _ => ?_
    cases ho : s.offers r.intent.offerId with
    | none => exact hreject _ s (by simp only [refusal, hm, ho]) (Alike.refl s)
    | some offer =>
      refine evaluate_flow (fun _ _ => trivial) (fun hspend => ?_) fun hspend => ?_
      · exact hreject _ s (by simp only [refusal, hm, ho, hspend, if_true]) (Alike.refl s)
      have hview := Alike.viewed s mandate mandate.id r.now
      have hrefusal : refusal K e s r = gateRefusal e (K.evaluate mandate r.intent
          (s.velocity.spendView mandate mandate.id r.now).1 r.now offer false) := by
        simp [refusal, hm, ho, hspend]
      cases hd : K.evaluate mandate r.intent (s.velocity.spendView mandate mandate.id r.now).1 r.now
        offer false with
      | error y => exact hreject _ _ (by rw [hrefusal, hd]; rfl) hview
      | ok d =>
        rw [hd] at hrefusal
        unfold gateRefusal at hrefusal
        unfold branch
        dsimp only at hrefusal ⊢
        cases hdecision : d.decision with
        | rejected => exact hreject _ _ (by rw [hrefusal, hdecision]) hview
        | escalated =>
          refine flow_mono (fun res t ht v _ => .inr ⟨by rw [hrefusal, hdecision], .inl ?_⟩)
            (silent_ends (escalated_silent _ d r.now) _)
          exact ht.trans hview.rejections
        | approved =>
          rw [hdecision] at hrefusal
          cases hobserve : e.fails .approvedObserve with
          | true =>
            exact approved_refused mandate _ hobserve
              (hreject _ _ (by rw [hrefusal, hobserve]; rfl) hview)
          | false =>
            refine flow_mono (fun res t ht v hv => .inr ⟨by rw [hrefusal, hobserve]; rfl, ?_⟩)
              (approved_unrecorded mandate mandate.id hobserve)
            rw [hid]
            exact (ht v hv).alike hview
  unfold DecisionCore.decide loadMandate
  cases hgiven : r.mandate with
  | some mandate => exact hmandate mandate (by rw [hgiven]; rfl)
  | none =>
    refine ends_port_bind (o := .readMandate r.intent.mandateJti)
      (a := s.mandates r.intent.mandateJti) rfl (fun _ => hraise _ _) fun _ => ?_
    cases hm : s.mandates r.intent.mandateJti with
    | none =>
      have hid : mandateIdOf s r = r.intent.mandateJti := by
        unfold mandateIdOf
        rw [hgiven, hm]
        rfl
      rw [hid] at hreject
      exact hreject _ s (by simp only [refusal, hgiven, hm, Option.or]) (Alike.refl s)
    | some mandate => exact hmandate mandate (by rw [hgiven]; exact hm)

/-- **A rejection on a fresh key**: the idempotency store has no answer for it and no other call
holds it. -/
structure Rejection (K : Deps) (e : Env) (s : Stores) (r : VerifyRequest) (aware : Bool)
    (v : VerificationResult) (t : Stores) : Prop where
  run : (verifyAt K r aware).run (sem e) s = (.ok v, t)
  fresh : ∀ c, e.claim = .ok c → c = .unclaimed ∨ c = .owned
  rejected : v.decision.decision = .rejected

/-- **When a rejection is recorded once**: the time is aware, the claim of the key does not raise,
the intent has no purchase, the call is rejected before it books anything and the rejection can be
recorded; and where the answer cannot be kept, the reason is already the one given then. -/
structure RecordsOnce (K : Deps) (e : Env) (s : Stores) (r : VerifyRequest) (aware : Bool) :
    Prop where
  aware : aware = true
  claims : e.claims
  unknown : s.purchaseByIntent r.intent.jti = none
  refused : ∃ d, refusal K e s r = some d ∧ Recordable K e s r d ∧
    (e.claim = .ok .owned → e.fails .finishSave = true →
      (answered e r d).decision.reasonCode = some .mandateSuspended)

/-- The answer after the attempt to keep it. -/
def kept (e : Env) (claim : Claim) (v : VerificationResult) : VerificationResult :=
  match claim with
  | .owned =>
    if e.fails .finishSave then rejectedResult .mandateSuspended v.purchaseId v.escalationId else v
  | _ => v

theorem kept_lost {claim : Claim} (v : VerificationResult)
    (h : claim = .owned ∧ e.fails .finishSave = true) :
    kept e claim v = rejectedResult .mandateSuspended v.purchaseId v.escalationId := by
  rw [h.1]
  exact if_pos h.2

theorem kept_same {claim : Claim} (v : VerificationResult)
    (h : ¬ (claim = .owned ∧ e.fails .finishSave = true)) : kept e claim v = v := by
  cases claim with
  | owned => exact if_neg fun hf => h ⟨rfl, hf⟩
  | _ => rfl

theorem finish_ends (claim : Claim) (v : VerificationResult) (t : Stores) :
    Ends (sem e) (fun res u => u = t ∧ res = .ok (kept e claim v)) (finish r claim v) t := by
  unfold finish
  cases claim with
  | owned =>
    refine ends_port_attempt (fun hf => flow_pure ⟨rfl, ?_⟩) fun hf => flow_pure ⟨rfl, ?_⟩
    · rw [kept_lost v ⟨rfl, hf⟩]
    · rw [kept_same v (by simp [hf])]
  | _ => exact flow_pure ⟨rfl, rfl⟩

/-- What a call leaves that may decide about an intent without a purchase. -/
theorem recorded_of_outcome {t : Stores} {v : VerificationResult} {claim : Claim}
    (hclaims : e.claims) (hclaim : e.claim = .ok claim)
    (hunknown : s.purchaseByIntent r.intent.jti = none) (h : Outcome K e s t r v) :
    RecordedOnce s t (mandateIdOf s r) r.now (kept e claim v) ↔ RecordsOnce K e s r true := by
  have hpid : ∀ d, (answered e r d).purchaseId = r.pid := by
    intro d
    unfold answered
    split_ifs <;> rfl
  rcases h with ⟨d, hd, hanswer, hleft⟩ | ⟨hnone, hun⟩
  · rcases hleft with ⟨hrec, hw, hcount⟩ | ⟨hnot, hcount⟩
    · rw [hanswer hrec]
      have hwritten : ∀ w : VerificationResult, w.purchaseId = r.pid →
          (RecordedOnce s t (mandateIdOf s r) r.now w ↔
            w.decision.reasonCode = (answered e r d).decision.reasonCode) := by
        intro w hw'
        obtain ⟨p, hp, hstatus, hreason⟩ := hw.purchase
        constructor
        · intro h
          obtain ⟨q, hq, -, hreason'⟩ := h.purchase
          rw [hw', hp] at hq
          cases hq
          rw [← hreason', hreason]
        · intro h
          exact ⟨⟨p, hw' ▸ hp, hstatus, hreason.trans h.symm⟩, hw' ▸ hw.others, hcount,
            hw.observation⟩
      have hiff : RecordsOnce K e s r true ↔ (claim = .owned → e.fails .finishSave = true →
          (answered e r d).decision.reasonCode = some .mandateSuspended) := by
        constructor
        · intro h howned
          obtain ⟨d', hd', -, hlast⟩ := h.refused
          rw [hd] at hd'
          cases hd'
          exact hlast (howned ▸ hclaim)
        · intro h
          refine ⟨rfl, hclaims, hunknown, d, hd, hrec, fun howned => h ?_⟩
          rw [hclaim] at howned
          exact Except.ok.inj howned
      rw [hiff]
      by_cases hlost : claim = .owned ∧ e.fails .finishSave = true
      · rw [kept_lost _ hlost, hwritten (rejectedResult .mandateSuspended _ _) (hpid d)]
        exact ⟨fun h _ _ => h.symm, fun h => (h hlost.1 hlost.2).symm⟩
      · rw [kept_same _ hlost, hwritten _ (hpid d)]
        exact ⟨fun _ h1 h2 => absurd ⟨h1, h2⟩ hlost, fun _ => rfl⟩
    · refine iff_of_false (Unrecorded.not_once (.inl hcount)) fun h => ?_
      obtain ⟨d', hd', hrec, -⟩ := h.refused
      rw [hd] at hd'
      cases hd'
      exact hnot hrec
  · refine iff_of_false hun.not_once fun h => ?_
    obtain ⟨d', hd', -⟩ := h.refused
    rw [hnone] at hd'
    cases hd'

/-- What `verify` leaves, whatever it answers. -/
theorem verify_recorded : Ends (sem e) (fun res t => ∀ v, res = .ok v →
    (RecordedOnce s t (mandateIdOf s r) r.now v ↔ RecordsOnce K e s r true)) (verify K r) s := by
  -- an answer that leaves the stores as they are
  have hstill : ∀ v : VerificationResult, ¬ RecordsOnce K e s r true →
      (RecordedOnce s s (mandateIdOf s r) r.now v ↔ RecordsOnce K e s r true) := fun v hnot =>
    iff_of_false (Unrecorded.not_once (.inl rfl)) hnot
  have hmain : ∀ claim : Claim, e.claims → e.claim = .ok claim →
      Ends (sem e) (fun res t => ∀ v, res = .ok v →
        (RecordedOnce s t (mandateIdOf s r) r.now v ↔ RecordsOnce K e s r true))
        (verifyClaimed K r claim) s := by
    intro claim hclaims hclaim
    refine ends_port_bind (o := .readPurchaseByIntent r.intent.jti)
      (a := s.purchaseByIntent r.intent.jti) rfl (fun _ v h => by cases h) fun _ => ?_
    cases hp : s.purchaseByIntent r.intent.jti with
    | some p =>
      refine flow_bind (reads_ends e (resultForExisting_calls p fun _ => trivial) s)
        (fun v t ht => ?_) fun y t _ v h => by cases h
      refine flow_mono (fun res u hu w hw => ?_) (finish_ends claim v t)
      rw [hu.1, ht]
      refine hstill w fun h => ?_
      rw [h.unknown] at hp
      cases hp
    | none =>
      refine flow_bind (decide_outcome (K := K) (e := e) (s := s) (r := r)) (fun v t ht => ?_)
        fun y t _ v h => by cases h
      refine flow_mono (fun res u hu w hw => ?_) (finish_ends claim v t)
      rw [hu.2] at hw
      rw [hu.1, ← Except.ok.inj hw]
      exact recorded_of_outcome hclaims hclaim hp (ht v rfl)
  have hrefused : ∀ v : VerificationResult, ¬ e.claims → (Ends (sem e) (fun res t => ∀ v,
      res = .ok v → (RecordedOnce s t (mandateIdOf s r) r.now v ↔ RecordsOnce K e s r true))
        (pure v) s) := fun v hnot =>
    flow_pure fun w _ => hstill w fun h => hnot h.claims
  have hclaimed : ∀ c, e.claim = .ok c → c ≠ .unclaimed → c ≠ .owned → ¬ e.claims := by
    rintro c hc h1 h2 ⟨-, h | h⟩ <;> rw [hc] at h
    · exact h1 (Except.ok.inj h)
    · exact h2 (Except.ok.inj h)
  unfold verify
  refine ends_port_attempt (fun hf => hrefused _ fun h => ?_) fun hclaim => ?_
  · rw [h.1] at hf
    cases hf
  dsimp only [exec]
  cases hc : e.claim with
  | error y =>
    have hnot : ¬ e.claims := by
      rintro ⟨-, h | h⟩ <;> rw [hc] at h <;> cases h
    cases y with
    | idempotencyConflict => exact flow_raise fun v h => by cases h
    | _ => exact hrefused _ hnot
  | ok claim =>
    cases claim with
    | replay result => exact hrefused _ (hclaimed _ hc (by simp) (by simp))
    | busy => exact hrefused _ (hclaimed _ hc (by simp) (by simp))
    | unclaimed => exact hmain .unclaimed ⟨hclaim, .inl hc⟩ hc
    | owned => exact hmain .owned ⟨hclaim, .inr hc⟩ hc

/-- **A rejection on a fresh key is recorded once** exactly when nothing was booked before it and it
can be recorded. -/
theorem rejection_recorded_iff {aware : Bool} {v : VerificationResult} {t : Stores}
    (h : Rejection K e s r aware v t) :
    RecordedOnce s t (mandateIdOf s r) r.now v ↔ RecordsOnce K e s r aware := by
  have hrun := h.run
  cases aware with
  | true =>
    have hend := flow_run (verify_recorded (K := K) (e := e) (s := s) (r := r))
    rw [show (verify K r).run (sem e) s = (.ok v, t) from hrun] at hend
    exact hend v rfl
  | false =>
    refine iff_of_false ?_ fun h => by cases h.aware
    have hs : s = t := (Prod.mk.inj hrun).2
    rw [← hs]
    exact Unrecorded.not_once (.inl rfl)

end Rejection

/-! ## A restaurant with a small budget -/

/-- The default gate for a mandate of 15.00 in all. -/
def bistro : Wiring :=
  { restaurant with
    claims := fun jti => { restaurant.claims jti with limits := some ⟨1500, 1500, none⟩ } }

/-- The stores of the bistro, whose guest may spend 15.00. -/
def bistroStores : Stores :=
  { morning with
    mandates := fun jti =>
      if jti = "mdt" then some { guest with totalBudget := some 1500 } else none }

/-- The bistro's stores after a soup. -/
def bistroLunch : Stores :=
  history bistro.deps bistroStores [.verify (order "p-1" "soup" 1000 0) (failing [])]

/-- A call that ends in a rejection. -/
theorem rejection_of_run {K : Deps} {e : Env} {s : Stores} {r : VerifyRequest}
    (hfresh : ∀ c, e.claim = .ok c → c = .unclaimed ∨ c = .owned)
    (h : (((verifyAt K r true).run (sem e) s).1.toOption.map (·.decision.decision)) =
      some .rejected) : ∃ v, Rejection K e s r true v ((verifyAt K r true).run (sem e) s).2 := by
  obtain ⟨v, hv, hrejected⟩ := Option.map_eq_some_iff.1 h
  refine ⟨v, ⟨Prod.ext ?_ rfl, hfresh, hrejected⟩⟩
  cases hres : ((verifyAt K r true).run (sem e) s).1 with
  | ok w =>
    rw [hres] at hv
    rw [Option.some.inj hv]
  | error y =>
    rw [hres] at hv
    cases hv

/-- A dinner of 80.00 is rejected by the gate, and recorded once. -/
theorem rejection_recorded_dinner :
    rejections ((verifyAt bistro.deps (order "p-1" "dinner" 8000 0) true).run (sem (failing []))
      bistroStores).2 = 1 := by
  obtain ⟨v, h⟩ := rejection_of_run (K := bistro.deps) (e := failing []) (s := bistroStores)
    (r := order "p-1" "dinner" 8000 0) (fun c hc => .inr (Except.ok.inj hc).symm)
    (by decide +kernel)
  obtain ⟨d, hd⟩ := Option.isSome_iff_exists.1
    (show (refusal bistro.deps (failing []) bistroStores (order "p-1" "dinner" 8000 0)).isSome by
      decide +kernel)
  refine ((rejection_recorded_iff h).2 ⟨rfl, ⟨rfl, .inr rfl⟩, rfl, d, hd, ?_, ?_⟩).event
  · exact ⟨by decide, rfl, rfl, fun _ => rfl, rfl, by simp [bistroStores, morning, shop]⟩
  · intro _ hf
    cases hf

/-- **The observation is counted twice**: after a soup the gate approves a second one, the
reservation refuses it, and the guest's window has three intents of two orders. -/
theorem rejection_counted_twice : ¬ ∀ (K : Deps) (e : Env) (s : Stores) (r : VerifyRequest)
    (aware : Bool) (v : VerificationResult) (t : Stores), Rejection K e s r aware v t →
      RecordedOnce s t (mandateIdOf s r) r.now v := by
  intro hall
  obtain ⟨v, h⟩ := rejection_of_run (K := bistro.deps) (e := failing []) (s := bistroLunch)
    (r := order "p-2" "soup" 1000 1) (fun c hc => .inr (Except.ok.inj hc).symm) (by decide +kernel)
  have hcount := congrFun (congrFun (hall _ _ _ _ _ _ _ h).observation "mdt")
    (minute (september + 1000000))
  have hthree : ((verifyAt bistro.deps (order "p-2" "soup" 1000 1) true).run (sem (failing []))
      bistroLunch).2.velocity.intents "mdt" (minute (september + 1000000)) = 3 := by
    decide +kernel
  have htwo : bump bistroLunch.velocity.intents
      (mandateIdOf bistroLunch (order "p-2" "soup" 1000 1))
      (minute (order "p-2" "soup" 1000 1).now) 1 "mdt" (minute (september + 1000000)) = 2 := by
    decide +kernel
  rw [hthree, htwo] at hcount
  cases hcount

end TryTrust.DecisionCore
