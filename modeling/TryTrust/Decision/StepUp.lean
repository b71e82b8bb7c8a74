import TryTrust.Decision.Balance
import TryTrust.Decision.Calls
import TryTrust.Policy.Exact

/-!
# Approvals after a step-up

* `Wiring`: the service with the policy gate;
* `windowSum_update`, `Noted`: what an escalation adds to the counters of its mandate;
  `risk_cooldown`: when it starts a cooldown;
* `Leaves`: what `verify` leaves in the stores, with **`verify_escalates`**; `resolve_path`: the
  path of a confirmed approval;
* `Clear`: the candidate's own traces stop nothing; **`approval_after_stepup`**: an approval makes
  the purchase `pending_capture` exactly then; `approval_counts_itself`.
-/

namespace TryTrust.DecisionCore

open Conc

/-! ## The gate of the service -/

/-- What connects the service to the policy gate: how the gate reads mandates, intents and offers,
and the library's texts. -/
structure Wiring where
  gate : Policy.PolicyGate
  claims : Mandate → Policy.MandateClaims
  purchaseIntent : Intent → Policy.PurchaseIntent
  offer : Json → Policy.Offer
  sha256 : Json → String
  fromisoformat : String → Option ℤ

namespace Wiring

/-- `PolicyGate.evaluate`, as the service calls it. -/
def evaluate (W : Wiring) (mandate : Mandate) (intent : Intent) (spend : SpendView) (now : ℤ)
    (offer : Json) (approvedStepup : Bool) : Except Err Decision :=
  match Policy.evaluate W.gate (W.claims mandate) (W.purchaseIntent intent) spend now
    (some (W.offer offer)) approvedStepup with
  | .ok d => .ok d
  | .error _ => .error .failure

/-- The service's dependencies. -/
def deps (W : Wiring) : Deps := ⟨W.evaluate, W.sha256, W.gate.isoformat, W.fromisoformat⟩

theorem evaluate_ok {W : Wiring} {mandate : Mandate} {intent : Intent} {spend : SpendView} {now : ℤ}
    {offer : Json} {approvedStepup : Bool} {d : Decision} :
    W.evaluate mandate intent spend now offer approvedStepup = .ok d ↔
      Policy.evaluate W.gate (W.claims mandate) (W.purchaseIntent intent) spend now
        (some (W.offer offer)) approvedStepup = .ok d := by
  unfold evaluate
  cases Policy.evaluate W.gate (W.claims mandate) (W.purchaseIntent intent) spend now
    (some (W.offer offer)) approvedStepup <;> simp

end Wiring

/-! ## Counters -/

/-- A moment's bucket lies in a window of buckets. -/
def inWindow (bucket start stop : ℤ) : ℕ := if start ≤ bucket ∧ bucket ≤ stop then 1 else 0

theorem windowSum_range (f : ℤ → ℕ) (start stop : ℤ) : windowSum f start stop =
    ((List.range (stop - start + 1).toNat).map fun i : ℕ => f (start + i)).sum := by
  show ((List.flatMap (fun i : ℕ => [(i : ℤ)]) _).map fun k => f (start + k)).sum = _
  rw [← List.map_eq_flatMap, List.map_map]
  rfl

theorem sum_range_update (f : ℤ → ℕ) (bucket start : ℤ) (k : ℕ) :
    ((List.range k).map fun i : ℕ => Function.update f bucket (f bucket + 1) (start + i)).sum =
      ((List.range k).map fun i : ℕ => f (start + i)).sum +
        if start ≤ bucket ∧ bucket < start + k then 1 else 0 := by
  induction k with
  | zero => simp
  | succ k ih =>
    rw [List.sum_range_succ, List.sum_range_succ, ih, Function.update_apply]
    by_cases hlast : start + k = bucket
    · rw [if_pos hlast, if_neg (by omega), if_pos (by omega), hlast]
      omega
    · rw [if_neg hlast]
      split_ifs <;> omega

/-- **One more event in a bucket** counts in the windows around it. -/
theorem windowSum_update (f : ℤ → ℕ) (bucket start stop : ℤ) :
    windowSum (Function.update f bucket (f bucket + 1)) start stop =
      windowSum f start stop + inWindow bucket start stop := by
  rw [windowSum_range, windowSum_range, sum_range_update]
  unfold inWindow
  split_ifs <;> omega

/-- **What an escalation adds** to the counters of its mandate, when no cooldown runs. -/
structure Noted (v w : Velocity) (m : String) (now : ℤ) (cooldown : Option ℤ) : Prop where
  intents : w.intents m =
    Function.update (v.intents m) (minute now) (v.intents m (minute now) + 1)
  escalations : w.escalations m =
    Function.update (v.escalations m) (minute now) (v.escalations m (minute now) + 1)
  openAuthz : w.openAuthz m = v.openAuthz m
  cooldowns : w.cooldowns m = cooldown

namespace Velocity

/-- `record_cooldown`, if there is one to record. -/
def cool (v : Velocity) (m : String) : Option ℤ → Velocity
  | none => v
  | some t => v.recordCooldown m t

theorem getCooldown_rest (v : Velocity) (m : String) (now : ℤ) :
    (v.getCooldown m now).2.intents = v.intents ∧
      (v.getCooldown m now).2.escalations = v.escalations ∧
      (v.getCooldown m now).2.openAuthz = v.openAuthz := by
  unfold getCooldown
  cases v.cooldowns m with
  | none => exact ⟨rfl, rfl, rfl⟩
  | some t =>
    dsimp only
    split_ifs <;> exact ⟨rfl, rfl, rfl⟩

/-- A cooldown that is over is dropped. -/
theorem getCooldown_over (v : Velocity) (m : String) {now : ℤ}
    (h : ∀ t ∈ (v.getCooldown m now).1, t ≤ now) : (v.getCooldown m now).2.cooldowns m = none := by
  unfold getCooldown at h ⊢
  cases hc : v.cooldowns m with
  | none => exact hc
  | some t =>
    rw [hc] at h
    dsimp only at h ⊢
    split_ifs at h ⊢ with hover
    · exact Function.update_self ..
    · exact absurd (h t rfl) (by omega)

/-- The cooldown that a view shows is the recorded one, until it is over. -/
theorem getCooldown_fst (v : Velocity) (m : String) (now : ℤ) :
    (v.getCooldown m now).1 = (v.cooldowns m).filter (now < ·) := by
  unfold getCooldown
  cases v.cooldowns m with
  | none => rfl
  | some t =>
    dsimp only
    by_cases hover : now ≥ t
    · rw [if_pos hover, Option.filter_some, if_neg (by simpa using hover)]
    · rw [if_neg hover, Option.filter_some, if_pos (by simpa using hover)]

theorem noted (v : Velocity) (mandate : Mandate) (m : String) {now : ℤ} {a : ℕ}
    (h : ∀ t ∈ (v.spendView mandate m now).1.cooldownUntil, t ≤ now) (cooldown : Option ℤ) :
    Noted v ((((v.spendView mandate m now).2.incrementIntent m a now).incrementEscalation m
      now).cool m cooldown) m now cooldown := by
  obtain ⟨hi, he, ho⟩ := v.getCooldown_rest m now
  have hover := v.getCooldown_over m h
  have hview : (v.spendView mandate m now).2 = (v.getCooldown m now).2 := rfl
  cases cooldown with
  | none =>
    refine ⟨?_, ?_, ?_, ?_⟩
    · simp [cool, incrementEscalation, incrementIntent, bump, hview, hi]
    · simp [cool, incrementEscalation, incrementIntent, bump, hview, he]
    · simp [cool, hview, ho]
    · simpa [cool, incrementEscalation, incrementIntent, hview] using hover
  | some t =>
    have hrecord : ∀ w : Velocity, w.cooldowns m = none →
        w.recordCooldown m t = { w with cooldowns := Function.update w.cooldowns m (some t) } := by
      intro w hw
      rw [recordCooldown, if_pos (by simp [hw])]
    rw [cool, hrecord _ (by simpa [incrementEscalation, incrementIntent, hview] using hover)]
    refine ⟨?_, ?_, ?_, ?_⟩
    · simp [incrementEscalation, incrementIntent, bump, hview, hi]
    · simp [incrementEscalation, incrementIntent, bump, hview, he]
    · simp [hview, ho]
    · simp

end Velocity

/-! ## What an escalation leaves -/

/-- **What an escalation leaves** in the stores. -/
structure Leaves (K : Deps) (s t : Stores) (x : EscalationRecord) (d : Decision) (now : ℤ) :
    Prop where
  counted : ∃ a cooldown, x.intent.amount = some a ∧ cooldownOf K d = .ok cooldown ∧
    t.velocity = ((s.velocity.incrementIntent x.mandateId a now).incrementEscalation x.mandateId
      now).cool x.mandateId cooldown
  stored : t.escalations x.escalationId = some x
  purchase : (t.purchase x.purchaseId).isSome

section Escalates

variable {K : Deps} {e : Env} {s : Stores}

theorem Stores.purchase_of_create (s : Stores) (p : PurchaseRecord) :
    ((s.createPurchase p).purchase p.purchaseId).isSome := by
  have hp := exec_purchase ⟨fun _ => false, .ok .unclaimed, fun _ _ => false⟩ (.createPurchase p) s
    p.purchaseId
  rw [show s.createPurchase p = (exec _ (.createPurchase p) s).2 from rfl, hp]
  simp

theorem Stores.appendEvent_rest (s : Stores) (x : OutboxEvent) :
    (s.appendEvent x).velocity = s.velocity ∧ (s.appendEvent x).escalations = s.escalations ∧
      ∀ pid, (s.appendEvent x).purchase pid = s.purchase pid := by
  unfold Stores.appendEvent
  split_ifs <;> exact ⟨rfl, rfl, fun _ => rfl⟩

/-- An event changes none of it. -/
theorem Leaves.emit {t : Stores} {x : EscalationRecord} {d : Decision} {now : ℤ}
    (h : Leaves K s t x d now) {c : Call} (hc : ∃ y, c.op = .emit y) :
    Leaves K s (sem e c t).2 x d now := by
  obtain ⟨site, o⟩ := c
  obtain ⟨y, rfl⟩ := hc
  obtain ⟨hv, hesc, hpur⟩ := t.appendEvent_rest y
  unfold sem
  split_ifs
  · exact h
  · obtain ⟨a, cooldown, ha, hcool, hvel⟩ := h.counted
    refine ⟨⟨a, cooldown, ha, hcool, hv.trans hvel⟩, ?_, ?_⟩
    · exact (congrFun hesc _).trans h.stored
    · show ((t.appendEvent y).purchase _).isSome
      rw [hpur]
      exact h.purchase

theorem observeEscalation_ends (m : String) (d : Decision) (now : ℤ) :
    Ends (sem e) (fun r t => t.escalations = s.escalations ∧ (r = .ok () → ∃ cooldown,
        cooldownOf K d = .ok cooldown ∧
          t.velocity = (s.velocity.incrementEscalation m now).cool m cooldown))
      (observeEscalation K m d now) s := by
  unfold observeEscalation
  refine ends_port_bind rfl (fun _ => ⟨rfl, fun h => by cases h⟩) fun _ => ?_
  cases hcool : cooldownOf K d with
  | error y =>
    rw [lift_error]
    exact flow_raise ⟨rfl, fun h => by cases h⟩
  | ok cooldown =>
    rw [lift_ok]
    cases cooldown with
    | none => exact flow_pure ⟨rfl, fun _ => ⟨none, rfl, rfl⟩⟩
    | some t =>
      refine ends_port .escalatedCooldown (.recordCooldown m t) (fun _ => ⟨rfl, fun h => ?_⟩)
        fun _ => ⟨rfl, fun _ => ⟨some t, rfl, rfl⟩⟩
      cases h

/-- The transaction of `_escalated`, for a new id. -/
theorem escalatedBody_leaves {x : EscalationRecord} (hfresh : s.escalations x.escalationId = none)
    (d : Decision) (now : ℤ) : Ends (sem e) (fun _ t => t.escalations x.escalationId = none ∨
      Leaves K s t x d now) (escalatedBody K x d now) s := by
  unfold escalatedBody
  cases hamount : x.intent.amount with
  | none => exact ends_port_raise rfl (.inl hfresh) (.inl hfresh)
  | some a =>
    refine ends_port_bind rfl (fun _ => .inl hfresh) fun _ => ?_
    refine flow_bind (observeEscalation_ends x.mandateId d now) (fun _ t ht => ?_)
      fun _ t ht => .inl ((congrFun ht.1 _).trans hfresh)
    obtain ⟨cooldown, hcool, hvel⟩ := ht.2 rfl
    have ht' : t.escalations x.escalationId = none := (congrFun ht.1 _).trans hfresh
    refine ends_port_bind rfl (fun _ => .inl ht') fun _ => ?_
    let p : PurchaseRecord := ⟨x.purchaseId, x.mandateId, x.intent, .awaitingEscalation,
      d.reasonCode, none, some x.escalationId⟩
    obtain ⟨-, hv, hesc⟩ := t.createPurchase_rest p
    have hnew : (t.createPurchase p).escalations x.escalationId = none :=
      (congrFun hesc _).trans ht'
    refine ends_port_bind rfl (fun _ => .inl hnew) fun _ => ?_
    obtain ⟨-, hv', hpur⟩ := (t.createPurchase p).createEscalation_rest x
    have hstored : ((t.createPurchase p).createEscalation x).escalations x.escalationId =
        some x := by
      unfold Stores.createEscalation
      rw [hnew]
      exact Function.update_self ..
    have hleaves : Leaves K s ((t.createPurchase p).createEscalation x) x d now := by
      refine ⟨⟨a, cooldown, hamount, hcool, hv'.trans (hv.trans hvel)⟩, hstored, ?_⟩
      rw [Stores.purchase, hpur]
      exact t.purchase_of_create p
    have hkeep : ∀ (c : Call) (u : Stores), (∃ y, c.op = .emit y) → Leaves K s u x d now →
        Leaves K s (sem e c u).2 x d now := fun c u hc hu => hu.emit hc
    refine flow_mono (fun _ _ h => .inr h) (ends_calls hkeep ?_ hleaves)
    refine Prog.calls_bind (emit_calls (fun y => ⟨y, rfl⟩) _ _ _ _) fun _ => ?_
    refine Prog.calls_bind (whenever_calls (emit_calls (fun y => ⟨y, rfl⟩) _ _ _ _)) fun _ => ?_
    exact whenever_calls (emit_calls (fun y => ⟨y, rfl⟩) _ _ _ _)

/-- **`_escalated`**: an escalation that is pending at its end left everything. -/
theorem escalated_leaves {x : EscalationRecord} (hfresh : s.escalations x.escalationId = none)
    (d : Decision) (now : ℤ) : Ends (sem e) (fun _ t => ∀ y, t.escalations x.escalationId = some y →
      y.status = .pending → Leaves K s t x d now) (escalated K x d now) s := by
  have hleft : ∀ t : Stores, t.escalations x.escalationId = none ∨ Leaves K s t x d now →
      ∀ y, t.escalations x.escalationId = some y → y.status = .pending → Leaves K s t x d now := by
    intro t ht y hy _
    rcases ht with ht | ht
    · rw [ht] at hy
      cases hy
    · exact ht
  unfold escalated
  refine flow_attempt_bind (escalatedBody_leaves hfresh d now) fun r t ht => ?_
  cases r with
  | ok u => exact flow_pure (hleft t ht)
  | error y =>
    refine ends_port_bind rfl (fun _ => hleft t ht) fun _ => ?_
    -- the purchase is rewritten, and the escalation expires
    let u := t.updatePurchase x.purchaseId ⟨.rejected, some .mandateSuspended, none, true⟩
    have hu : u.escalations x.escalationId = none ∨ Leaves K s u x d now := by
      refine ht.imp id fun h => ⟨h.counted, h.stored, ?_⟩
      have hp := exec_purchase e (.updatePurchase x.purchaseId
        ⟨.rejected, some .mandateSuspended, none, true⟩) t x.purchaseId
      rw [show u = (exec e (.updatePurchase x.purchaseId
        ⟨.rejected, some .mandateSuspended, none, true⟩) t).2 from rfl, hp]
      simpa using h.purchase
    refine ends_port_bind rfl (fun _ => hleft u hu) fun _ => flow_pure fun z hz hpend => ?_
    unfold Stores.updateEscalation at hz
    cases hstored : u.escalations x.escalationId with
    | none =>
      rw [show t.updatePurchase x.purchaseId _ = u from rfl, hstored, hstored] at hz
      cases hz
    | some w =>
      rw [show t.updatePurchase x.purchaseId _ = u from rfl, hstored] at hz
      dsimp only at hz
      rw [Function.update_self] at hz
      cases hz
      cases hpend

/-- A port call that touches no escalation. -/
def Op.spares : Op → Prop
  | .createEscalation _ => False
  | .updateEscalation _ _ _ => False
  | _ => True

theorem sem_spares (e : Env) {c : Call} (h : c.op.spares) (t : Stores) :
    (sem e c t).2.escalations = t.escalations := by
  unfold sem
  split_ifs
  · rfl
  · obtain ⟨site, o⟩ := c
    cases o with
    | createEscalation | updateEscalation => exact h.elim
    | createPurchase p => exact (t.createPurchase_rest p).2.2
    | emit x => exact (t.appendEvent_rest x).2.1
    | incrementIntent m a now => cases a <;> rfl
    | reserve m a b n rid key => cases a <;> cases b <;> rfl
    | release m a rid => cases a <;> rfl
    | _ => rfl

theorem rejected_spares (intent : Intent) (m pid : String) (d : Decision) (now : ℤ) :
    (rejected K intent m pid d now).Calls fun c => c.op.spares := by
  refine Prog.calls_bind (Prog.calls_attempt ?_) fun body => ?_
  · refine Prog.calls_bind (Prog.calls_perform trivial) fun _ => ?_
    refine Prog.calls_bind (Prog.calls_perform trivial) fun updated => ?_
    refine Prog.calls_bind (whenever_calls (Prog.calls_perform trivial)) fun _ => ?_
    refine Prog.calls_bind (emit_calls (fun _ => trivial) _ _ _ _) fun _ => ?_
    exact whenever_calls (emit_calls (fun _ => trivial) _ _ _ _)
  · cases body with
    | ok u => trivial
    | error y => exact Prog.calls_bind (Prog.calls_perform trivial) fun _ => trivial

theorem approved_spares (mandate : Mandate) (m : String) (intent : Intent) (pid : String)
    (now : ℤ) : (approved K mandate m intent pid now).Calls fun c => c.op.spares := by
  refine Prog.calls_bind (Prog.calls_attempt ?_) fun reservation => ?_
  · refine Prog.calls_bind (Prog.calls_perform trivial) fun _ => ?_
    exact reserve_calls _ _ _ _ _ fun _ _ _ _ _ _ => trivial
  · rcases reservation with (_ | _ | _) | rid
    · exact rejected_spares _ _ _ _ _
    · exact rejected_spares _ _ _ _ _
    · exact rejected_spares _ _ _ _ _
    · refine Prog.calls_bind (Prog.calls_attempt ?_) fun record => ?_
      · refine Prog.calls_bind (Prog.calls_perform trivial) fun _ => ?_
        refine Prog.calls_bind (Prog.calls_perform trivial) fun _ => ?_
        exact emit_calls (fun _ => trivial) _ _ _ _
      · cases record with
        | ok u => trivial
        | error y =>
          refine Prog.calls_bind ?_ fun _ => rejected_spares _ _ _ _ _
          exact releaseSlot_calls _ _ _ _ _ (fun _ _ _ => trivial) fun _ => trivial

/-- **A purchase that `verify` escalates**: the gate decided so, and the escalation left its
traces. -/
structure Escalation (K : Deps) (e : Env) (s t : Stores) (r : VerifyRequest) (mandate : Mandate)
    (offer : Json) (d : Decision) : Prop where
  gated : Gated K e s r mandate offer d
  escalates : d.decision = .escalated
  leaves : Leaves K (s.viewed mandate mandate.id r.now) t
    (createEscalation K r.escalationId r.pid mandate.id r.intent offer d r.now) d r.now

/-- **A new pending escalation** after `verify` is one that the gate asked for. -/
theorem verify_escalates {r : VerifyRequest} (hfresh : s.escalations r.escalationId = none)
    {record : EscalationRecord}
    (hstored : (after K s (.verify r e)).escalations r.escalationId = some record)
    (hpend : record.status = .pending) : ∃ mandate offer d,
      Escalation K e s (after K s (.verify r e)) r mandate offer d := by
  have hnone : ∀ t : Stores, t.escalations = s.escalations → ∀ y,
      t.escalations r.escalationId = some y → y.status = .pending → ∃ mandate offer d,
        Escalation K e s t r mandate offer d := by
    intro t ht y hy
    rw [ht, hfresh] at hy
    cases hy
  have hspares : ∀ {p : Ds VerificationResult}, p.Calls (fun c => c.op.spares) → ∀ t : Stores,
      t.escalations = s.escalations → Ends (sem e) (fun _ t => ∀ y,
        t.escalations r.escalationId = some y → y.status = .pending → ∃ mandate offer d,
          Escalation K e s t r mandate offer d) p t := by
    intro p hp t ht
    have hkeep : ∀ (c : Call) (u : Stores), c.op.spares → u.escalations = s.escalations →
        (sem e c u).2.escalations = s.escalations := fun c u hc hu => (sem_spares e hc u).trans hu
    exact flow_mono (fun _ u hu => hnone u hu) (ends_calls hkeep hp ht)
  refine flow_run (R := fun _ _ _ _ => True) (verify_rule (I := fun t => ∀ y,
    t.escalations r.escalationId = some y → y.status = .pending → ∃ mandate offer d,
      Escalation K e s t r mandate offer d) (hnone s rfl) fun _ _ _ => ?_) record hstored hpend
  refine decide_rule (hnone s rfl)
    (fun m reason t hst => hspares (rejected_spares _ _ _ _ _) t hst.escalations) ?_
  intro mandate offer d hg
  unfold branch
  cases hd : d.decision with
  | rejected => exact hspares (rejected_spares _ _ _ _ _) _ rfl
  | approved => exact hspares (approved_spares _ _ _ _ _) _ rfl
  | escalated =>
    refine flow_mono (fun _ t ht y hy hy' => ⟨mandate, offer, d, hg, hd, ht y hy hy'⟩)
      (escalated_leaves ?_ d r.now)
    exact hfresh

end Escalates

/-! ## A confirmed approval -/

/-- The purchase of an id is stored in a status. -/
def Stores.holds (s : Stores) (pid : String) (status : PurchaseStatus) : Prop :=
  ∃ p, s.purchase pid = some p ∧ p.status = status

/-- **The reservation store grants** a purchase. -/
def Grants (L : Ledger) (mandate : Mandate) (mandateId : String) (intent : Intent)
    (pid : String) : Prop :=
  ∃ a b rid, intent.amount = some a ∧ mandate.totalBudget = some b ∧
    (L.reserve mandateId a b mandate.maxTxn ("reservation:" ++ pid) pid).1 = some rid

section Answers

variable {K : Deps} {e : Env} {s : Stores} {record : EscalationRecord}

theorem holds_update {pid : String} (h : (s.purchase pid).isSome) (c : PurchaseChange) :
    (s.updatePurchase pid c).holds pid c.status := by
  obtain ⟨p, hp⟩ := Option.isSome_iff_exists.1 h
  refine ⟨p.change c, ?_, rfl⟩
  rw [Stores.purchase_update_self, hp]
  rfl

theorem holds_emit {pid : String} {status : PurchaseStatus} (h : s.holds pid status)
    (x : OutboxEvent) : (s.appendEvent x).holds pid status := by
  obtain ⟨p, hp, hstatus⟩ := h
  exact ⟨p, ((s.appendEvent_rest x).2.2 pid).trans hp, hstatus⟩

theorem holds_velocity {pid : String} {status : PurchaseStatus} (h : s.holds pid status)
    (v : Velocity) : Stores.holds { s with velocity := v } pid status := h

theorem emit_ends (hfine : ∀ site, e.fails site = false) {site : Site} {type aggregateId : String}
    {payload : Fields} {now : ℤ} {Q : Except Err Unit → Stores → Prop}
    (hQ : ∀ x, Q (.ok ()) (s.appendEvent x)) :
    Ends (sem e) Q (emit K site type aggregateId payload now) s := by
  unfold emit
  exact ends_port site (.emit _) (fun h => by rw [hfine] at h; cases h) fun _ => hQ _

/-- **`_expire_and_compensate`** without a failing port call. -/
theorem expire_compensates (hfine : ∀ site, e.fails site = false) {a : ℕ}
    (ha : record.intent.amount = some a) (hstored : (s.purchase record.purchaseId).isSome)
    (reason : ReasonCode) (now : ℤ) :
    Ends (sem e) (fun _ t => t.holds record.purchaseId .compensated)
      (expire K record reason none now) s := by
  have hno : ∀ {site : Site} {P : Prop}, e.fails site = true → P := fun h => by
    rw [hfine] at h
    cases h
  unfold expire
  refine ends_port_attempt (fun h => hno h) fun _ => ?_
  dsimp only [exec]
  refine flow_attempt_bind (P := fun r t => ∃ b, r = .ok b ∧
    (t.purchase record.purchaseId).isSome) ?_ ?_
  · unfold expireRelease
    split
    · next id hid =>
      refine ends_port .expireRelease (.release record.mandateId record.intent.amount id)
        (fun h => hno h) fun _ => ?_
      rw [ha]
      exact ⟨_, rfl, hstored⟩
    · exact flow_pure ⟨false, rfl, hstored⟩
  · rintro _ t ⟨released, rfl, ht⟩
    dsimp only
    refine flow_attempt_bind (P := fun r u => r = .ok () ∧ u.holds record.purchaseId .compensated)
      ?_ ?_
    · unfold expireRecord
      refine flow_bind (P := fun r u => r = .ok () ∧ (u.purchase record.purchaseId).isSome) ?_ ?_
        fun _ _ h => by cases h.1
      · cases released with
        | true =>
          exact ends_port .expireReleaseOpen (.decrementOpen record.mandateId) (fun h => hno h)
            fun _ => ⟨rfl, ht⟩
        | false => exact flow_pure ⟨rfl, ht⟩
      · rintro _ u ⟨-, hu⟩
        refine ends_port_bind rfl (fun h => hno h) fun _ => ?_
        have hu' : ((u.updateEscalation record.escalationId .expired reason.text).purchase
            record.purchaseId).isSome := by
          rw [Stores.purchase, (u.updateEscalation_rest _ _ _).2.2]
          exact hu
        refine ends_port_bind rfl (fun h => hno h) fun _ => ?_
        exact emit_ends hfine fun _ => ⟨rfl, holds_emit (holds_update hu' _) _⟩
    · rintro _ u ⟨rfl, hu⟩
      exact flow_pure hu

/-- A granted reservation is recorded. -/
theorem resolveReserve_captures (record : EscalationRecord) (hfine : ∀ site, e.fails site = false)
    (hstored : (s.purchase record.purchaseId).isSome) {mandate : Mandate} {r : ResolveRequest}
    (hgrants : Grants s.ledger mandate record.mandateId record.intent record.purchaseId) :
    Ends (sem e) (fun _ t => t.holds record.purchaseId .pendingCapture)
      (resolveReserve K record mandate r) s := by
  have hno : ∀ {site : Site} {P : Prop}, e.fails site = true → P := fun h => by
    rw [hfine] at h
    cases h
  obtain ⟨a, b, rid, ha, hb, hgrant⟩ := hgrants
  unfold resolveReserve reserve
  refine flow_attempt_bind (P := fun x t => x = .ok rid ∧
    (t.purchase record.purchaseId).isSome) ?_ ?_
  · have hexec : exec e (.reserve record.mandateId record.intent.amount mandate.totalBudget
        mandate.maxTxn ("reservation:" ++ record.purchaseId) record.purchaseId) s =
        (.ok (some rid), { s with ledger := (s.ledger.reserve record.mandateId a b mandate.maxTxn
          ("reservation:" ++ record.purchaseId) record.purchaseId).2 }) := by
      rw [ha, hb, ← hgrant]
      rfl
    exact ends_port_bind hexec (fun h => hno h) fun _ => flow_pure ⟨rfl, hstored⟩
  · rintro _ t ⟨rfl, ht⟩
    dsimp only
    refine flow_attempt_bind (P := fun x u => x = .ok () ∧
      u.holds record.purchaseId .pendingCapture) ?_ ?_
    · unfold resolveRecord
      refine ends_port_bind rfl (fun h => hno h) fun _ => ?_
      have ht' : ((t.updateEscalation r.escalationId .resolved "APPROVE").purchase
          record.purchaseId).isSome := by
        rw [Stores.purchase, (t.updateEscalation_rest _ _ _).2.2]
        exact ht
      refine ends_port_bind rfl (fun h => hno h) fun _ => ?_
      refine ends_port_bind rfl (fun h => hno h) fun _ => ?_
      refine ends_port_bind rfl (fun h => hno h) fun _ => ?_
      have hheld := holds_update ht' ⟨.pendingCapture, none, some rid, false⟩
      exact emit_ends hfine fun _ => ⟨rfl, holds_emit (holds_emit (holds_velocity hheld _) _) _⟩
    · rintro _ u ⟨rfl, hu⟩
      exact flow_pure hu

/-- A refused reservation is compensated. -/
theorem resolveReserve_refused (hfine : ∀ site, e.fails site = false) {a : ℕ}
    (ha : record.intent.amount = some a) (hstored : (s.purchase record.purchaseId).isSome)
    {mandate : Mandate} {r : ResolveRequest}
    (hno : ¬ Grants s.ledger mandate record.mandateId record.intent record.purchaseId) :
    Ends (sem e) (fun _ t => t.holds record.purchaseId .compensated)
      (resolveReserve K record mandate r) s := by
  unfold resolveReserve
  refine flow_attempt_bind (P := fun x t => (∃ y, x = .error y) ∧
    (t.purchase record.purchaseId).isSome) ?_ ?_
  · unfold reserve
    cases hb : mandate.totalBudget with
    | none => exact ends_port_raise (by rw [ha]; rfl) ⟨⟨_, rfl⟩, hstored⟩ ⟨⟨_, rfl⟩, hstored⟩
    | some b =>
      refine ends_port_bind (by rw [ha]; rfl) (fun _ => ⟨⟨_, rfl⟩, hstored⟩) fun _ => ?_
      cases hgrant : (s.ledger.reserve record.mandateId a b mandate.maxTxn
          ("reservation:" ++ record.purchaseId) record.purchaseId).1 with
      | none => exact flow_raise ⟨⟨_, rfl⟩, hstored⟩
      | some rid => exact absurd ⟨a, b, rid, ha, hb, hgrant⟩ hno
  · rintro _ t ⟨⟨y, rfl⟩, ht⟩
    exact expire_compensates hfine ha ht _ _

/-- **The path of a confirmed approval** in time: the gate decides again. -/
theorem resolve_path {q : ResolveRequest} {mandate : Mandate} {offer : Json}
    {Q : Except Err VerificationResult → Stores → Prop} (hfine : ∀ site, e.fails site = false)
    (hrecord : s.escalations q.escalationId = some record) (hpend : record.status = .pending)
    (htime : q.now < record.timeoutAt) (hcreated : record.createdAt < record.timeoutAt)
    (happroves : q.approval.approves = true)
    (hverified : ∀ challenge age, e.userVerified challenge age = true)
    (hmandate : (s.mandates record.mandateId).or (s.mandates record.intent.mandateJti) =
      some mandate)
    (hoffer : s.offers record.intent.offerId = some offer)
    (happroved : ∀ d, K.evaluate mandate record.intent
        (s.velocity.spendView mandate record.mandateId q.now).1 q.now offer true = .ok d →
      d.decision = .approved → Ends (sem e) Q (resolveReserve K record mandate q)
        (s.viewed mandate record.mandateId q.now))
    (hrefused : (∀ d, K.evaluate mandate record.intent
        (s.velocity.spendView mandate record.mandateId q.now).1 q.now offer true = .ok d →
      d.decision ≠ .approved) → ∀ reason, Ends (sem e) Q (expire K record reason none q.now)
        (s.viewed mandate record.mandateId q.now)) :
    Ends (sem e) Q (resolve K q) s := by
  have hno : ∀ {site : Site} {P : Prop}, e.fails site = true → P := fun h => by
    rw [hfine] at h
    cases h
  have hgate : Ends (sem e) Q (regateFor K record mandate q) s := by
    refine ends_port_bind rfl (fun h => hno h) fun _ => ?_
    rw [hoffer]
    refine evaluate_flow (fun _ _ => trivial) (fun h => hno h) fun _ => ?_
    cases hd : K.evaluate mandate record.intent
      (s.velocity.spendView mandate record.mandateId q.now).1 q.now offer true with
    | error y => exact hrefused (fun d h => by rw [hd] at h; cases h) _
    | ok d =>
      dsimp only
      split_ifs with hdec
      · exact hrefused (fun d' h => by rw [hd] at h; cases h; exact hdec) _
      · exact happroved d hd (not_not.1 hdec)
  have hregate : Ends (sem e) Q (regate K record q) s := by
    unfold regate reloadMandate
    refine (congrArg (fun p => Ends (sem e) Q p s) (Prog.bind_assoc _ _ _)).mpr ?_
    refine ends_port_bind rfl (fun h => hno h) fun _ => ?_
    cases hm : s.mandates record.mandateId with
    | some m =>
      rw [hm] at hmandate
      cases hmandate
      exact hgate
    | none =>
      rw [hm] at hmandate
      refine ends_port_bind rfl (fun h => hno h) fun _ => ?_
      rw [show s.mandates record.intent.mandateJti = some mandate from hmandate]
      exact hgate
  have hpass : ∀ envelope : Decision, envelope = .approved none → Ends (sem e) Q
      (if envelope.decision = .rejected then expire K record .escalationTimeoutDenied none q.now
        else regate K record q) s := by
    rintro _ rfl
    rw [if_neg (by decide)]
    exact hregate
  unfold resolve
  refine ends_port_bind rfl (fun h => hno h) fun _ => ?_
  rw [hrecord]
  dsimp only
  rw [if_neg (by simp [hpend])]
  unfold resolvePending
  rw [if_neg (by omega)]
  unfold resolveEnvelope
  rw [if_neg (by simp [hpend, htime]), if_neg (by omega), if_neg (by simp [happroves])]
  cases record.level with
  | l3 => exact hpass _ rfl
  | l3Plus =>
    refine (congrArg (fun p => Ends (sem e) Q p s) (Prog.bind_assoc _ _ _)).mpr ?_
    refine ends_port_attempt (fun h => hno h) fun _ => ?_
    dsimp only [exec]
    rw [hverified]
    exact hpass _ rfl

end Answers

/-! ## The candidate's own traces -/

/-- **The candidate's own traces stop nothing**, in terms of the stores before `verify`: the mandate
is still in force at the answer, the counters with the candidate's own intent and escalation are
within the limits, and a cooldown that the escalation started is over. -/
structure Clear (W : Wiring) (s : Stores) (r : VerifyRequest) (mandate : Mandate) (offer : Json)
    (now : ℤ) : Prop where
  state : Policy.mandateStateReason (W.claims mandate) now = none
  conditions : Policy.evaluateConditions (W.claims mandate).conditions
    (some (Policy.asOfferMapping (W.offer offer)))
    ((W.gate.isoformat now).replace "+00:00" "Z") = .ok true
  intents : windowSum (s.velocity.intents mandate.id) (minute (now - 60000000)) (minute now) +
    inWindow (minute r.now) (minute (now - 60000000)) (minute now) + 1 ≤
      W.gate.burstConfig.maxIntents
  escalations : windowSum (s.velocity.escalations mandate.id) (minute (now - 3600000000))
      (minute now) + inWindow (minute r.now) (minute (now - 3600000000)) (minute now) ≤
    W.gate.burstConfig.maxEscalationsPerHour
  openAuthz : s.velocity.openAuthz mandate.id + 1 ≤ W.gate.burstConfig.maxOpenAuthorizations
  cooldown : ∀ l, (W.claims mandate).limits = some l →
    Policy.StartsCooldown W.gate l (W.purchaseIntent r.intent).amount
      (s.velocity.spendView mandate mandate.id r.now).1 → r.now + W.gate.burstConfig.cooldown ≤ now

/-- Stores in which a mandate's counters, the escalation of a call and its purchase are as they
were. -/
structure Undisturbed (t t' : Stores) (mandateId : String) (r : VerifyRequest) : Prop where
  intents : t'.velocity.intents mandateId = t.velocity.intents mandateId
  escalations : t'.velocity.escalations mandateId = t.velocity.escalations mandateId
  openAuthz : t'.velocity.openAuthz mandateId = t.velocity.openAuthz mandateId
  cooldowns : t'.velocity.cooldowns mandateId = t.velocity.cooldowns mandateId
  escalation : t'.escalations r.escalationId = t.escalations r.escalationId
  purchase : t'.purchase r.pid = t.purchase r.pid

/-- **A confirmed approval of an escalated purchase**: `verify` stored the escalation under a new
id, nothing about the mandate, the offer, the escalation and the purchase changed, and an approval
of a verified user arrives in time. -/
structure ConfirmedApproval (W : Wiring) (e : Env) (s : Stores) (r : VerifyRequest)
    (mandate : Mandate) (offer : Json) (record : EscalationRecord) (e' : Env) (s' : Stores)
    (q : ResolveRequest) : Prop where
  fresh : s.escalations r.escalationId = none
  stored : (after W.deps s (.verify r e)).escalations r.escalationId = some record
  pending : record.status = .pending
  found : r.mandate.or (s.mandates r.intent.mandateJti) = some mandate
  offered : s.offers r.intent.offerId = some offer
  undisturbed : Undisturbed (after W.deps s (.verify r e)) s' mandate.id r
  reader : (s'.mandates mandate.id).or (s'.mandates r.intent.mandateJti) = some mandate
  catalog : s'.offers r.intent.offerId = some offer
  answers : q.escalationId = r.escalationId
  approves : q.approval.approves = true
  verified : ∀ challenge age, e'.userVerified challenge age = true
  inTime : q.now < record.timeoutAt
  unfailing : ∀ site, e'.fails site = false

section Again

variable {W : Wiring} {e e' : Env} {s s' : Stores} {r : VerifyRequest} {mandate : Mandate}
  {offer : Json} {record : EscalationRecord} {q : ResolveRequest}

/-- An escalation lasts a while. -/
theorem createEscalation_lasts (K : Deps) (id pid m : String) (intent : Intent) (offer : Json)
    (d : Decision) (now : ℤ) : (createEscalation K id pid m intent offer d now).createdAt <
      (createEscalation K id pid m intent offer d now).timeoutAt := by
  show now < now + ((d.level.getD .l3).ttlSeconds : ℤ) * 1000000
  cases d.level.getD .l3 <;> simp [Level.ttlSeconds]

theorem cooldownOf_ok {K : Deps} {d : Decision} {text : String} {t : ℤ}
    (hiso : K.fromisoformat text = some t) {P : Prop} [Decidable P]
    (h : d.diffAt "cooldown_until" = if P then .str text else .null) :
    cooldownOf K d = .ok (if P then some t else none) := by
  unfold cooldownOf
  rw [h]
  split_ifs
  · dsimp only
    rw [hiso]
  · rfl

/-- **The escalation's traces**: the counters of the mandate, and the cooldown if one started. -/
theorem escalation_noted {d : Decision} {t : Stores}
    (h : Escalation W.deps e s t r mandate offer d)
    (hiso : W.fromisoformat (W.gate.isoformat (r.now + W.gate.burstConfig.cooldown)) =
      some (r.now + W.gate.burstConfig.cooldown)) :
    ∃ l cooldown, (W.claims mandate).limits = some l ∧
      Noted s.velocity t.velocity mandate.id r.now cooldown ∧
      cooldown = if Policy.StartsCooldown W.gate l (W.purchaseIntent r.intent).amount
        (s.velocity.spendView mandate mandate.id r.now).1 then
          some (r.now + W.gate.burstConfig.cooldown) else none := by
  obtain ⟨hp, hd⟩ := Policy.passes_of_evaluate (Wiring.evaluate_ok.1 h.gated.decision)
    (by rw [h.escalates]; decide)
  obtain ⟨l, hl, -⟩ := hp.limits
  have hescalates := h.escalates
  rw [hl] at hd
  rw [hd] at hescalates
  obtain ⟨hburst, hdiff⟩ := Policy.risk_cooldown hescalates
  rw [← hd] at hdiff
  obtain ⟨a, cooldown, -, hcool, hvel⟩ := h.leaves.counted
  rw [cooldownOf_ok (K := W.deps) hiso hdiff] at hcool
  refine ⟨l, cooldown, hl, ?_, (Except.ok.inj hcool).symm⟩
  rw [hvel]
  exact s.velocity.noted mandate mandate.id (Policy.evaluateBurst_rejected hburst).1 cooldown

/-- The counters that the gate reads at the answer. -/
theorem spendView_again {m : String} {cooldown : Option ℤ} {t : Stores}
    (hnoted : Noted s.velocity t.velocity m r.now cooldown) (hst : Undisturbed t s' m r)
    (now : ℤ) : (s'.velocity.spendView mandate m now).1 =
      { spentTotal := mandate.spentTotal, reservedTotal := mandate.reservedTotal
        txnCountPeriod := mandate.txnCountPeriod, mandateStatus := mandate.status
        intentsLast60s :=
          windowSum (s.velocity.intents m) (minute (now - 60000000)) (minute now) +
            inWindow (minute r.now) (minute (now - 60000000)) (minute now)
        escalationsLastHour :=
          windowSum (s.velocity.escalations m) (minute (now - 3600000000)) (minute now) +
            inWindow (minute r.now) (minute (now - 3600000000)) (minute now)
        openAuthorizations := s.velocity.openAuthz m
        cooldownUntil := cooldown.filter (now < ·) } := by
  unfold Velocity.spendView
  dsimp only
  rw [Velocity.getCooldown_fst, hst.intents, hst.escalations, hst.openAuthz, hst.cooldowns,
    hnoted.intents, hnoted.escalations, hnoted.openAuthz, hnoted.cooldowns, windowSum_update,
    windowSum_update]

/-- **The gate approves again** exactly when the candidate's own traces stop nothing. -/
theorem gate_again {d : Decision} {t : Stores} (h : Escalation W.deps e s t r mandate offer d)
    (hiso : W.fromisoformat (W.gate.isoformat (r.now + W.gate.burstConfig.cooldown)) =
      some (r.now + W.gate.burstConfig.cooldown)) (hst : Undisturbed t s' mandate.id r) (now : ℤ) :
    (∃ d', W.deps.evaluate mandate r.intent (s'.velocity.spendView mandate mandate.id now).1 now
      offer true = .ok d' ∧ d'.decision = .approved) ↔ Clear W s r mandate offer now := by
  obtain ⟨l, cooldown, hl, hnoted, hcooldown⟩ := escalation_noted h hiso
  obtain ⟨hp, -⟩ := Policy.passes_of_evaluate (Wiring.evaluate_ok.1 h.gated.decision)
    (by rw [h.escalates]; decide)
  rw [spendView_again hnoted hst]
  have hover : (∀ x ∈ cooldown.filter (now < ·), x ≤ now) ↔
      ∀ l, (W.claims mandate).limits = some l →
        Policy.StartsCooldown W.gate l (W.purchaseIntent r.intent).amount
          (s.velocity.spendView mandate mandate.id r.now).1 →
        r.now + W.gate.burstConfig.cooldown ≤ now := by
    rw [hcooldown]
    constructor
    · intro hall l' hl' hstarts
      rw [hl] at hl'
      cases hl'
      rw [if_pos hstarts] at hall
      by_contra hlate
      exact hlate (hall _ (by simpa [Option.filter_some] using hlate))
    · intro hall x hx
      obtain ⟨hx, hlt⟩ := Option.mem_filter_iff.1 hx
      split_ifs at hx with hstarts
      · cases hx
        exact hall l hl hstarts
      · cases hx
  constructor
  · rintro ⟨d', hd', happroved⟩
    obtain ⟨hp', rfl⟩ := Policy.passes_of_evaluate (Wiring.evaluate_ok.1 hd')
      (by rw [happroved]; decide)
    rw [hl, Policy.risk_approved, Policy.evaluateBurst_approved] at happroved
    obtain ⟨⟨hcool, hesc, hint, hopen⟩, -⟩ := happroved
    exact ⟨hp'.state, hp'.conditions, hint, hesc, hopen, hover.1 hcool⟩
  · intro hc
    refine ⟨_, Wiring.evaluate_ok.2 (Policy.Passes.evaluate ⟨hc.state, hp.mandate, hp.agent,
      hp.currency, hp.offer, hp.price, hp.merchant, hp.scope, hc.conditions, ?_⟩ true), ?_⟩
    · exact hp.limits
    · rw [hl, Policy.risk_approved, Policy.evaluateBurst_approved]
      exact ⟨⟨hover.2 hc.cooldown, hc.escalations, hc.intents, hc.openAuthz⟩, rfl⟩

/-- **An approval after a step-up**: a confirmed approval in time makes the escalated purchase
`pending_capture` exactly when the candidate's own traces stop nothing and the reservation store
grants the purchase. -/
theorem approval_after_stepup
    (h : ConfirmedApproval W e s r mandate offer record e' s' q)
    (hiso : W.fromisoformat (W.gate.isoformat (r.now + W.gate.burstConfig.cooldown)) =
      some (r.now + W.gate.burstConfig.cooldown)) :
    (after W.deps s' (.resolve q e')).holds r.pid .pendingCapture ↔
      Clear W s r mandate offer q.now ∧ Grants s'.ledger mandate mandate.id r.intent r.pid := by
  obtain ⟨mandate', offer', d, hesc⟩ := verify_escalates h.fresh h.stored h.pending
  obtain rfl : mandate' = mandate := Option.some.inj (hesc.gated.found.symm.trans h.found)
  obtain rfl : offer' = offer := Option.some.inj (hesc.gated.offered.symm.trans h.offered)
  obtain rfl : record = createEscalation W.deps r.escalationId r.pid mandate'.id r.intent offer' d
    r.now := Option.some.inj (h.stored.symm.trans hesc.leaves.stored)
  obtain ⟨a, -, ha, -⟩ := hesc.leaves.counted
  have hpurchase : (s'.purchase r.pid).isSome := by
    rw [h.undisturbed.purchase]
    exact hesc.leaves.purchase
  have hclear := gate_again hesc hiso h.undisturbed q.now
  have hviewed : ((s'.viewed mandate' mandate'.id q.now).purchase r.pid).isSome := hpurchase
  have hrecord : s'.escalations q.escalationId = some (createEscalation W.deps r.escalationId r.pid
      mandate'.id r.intent offer' d r.now) := by
    rw [h.answers, h.undisturbed.escalation]
    exact hesc.leaves.stored
  constructor
  · rintro ⟨p, hp, hstatus⟩
    by_contra hno
    obtain ⟨p', hp', hstatus'⟩ : (after W.deps s' (.resolve q e')).holds r.pid .compensated := by
      refine flow_run (R := fun _ _ _ _ => True) (Q := fun _ t => t.holds r.pid .compensated)
        (resolve_path h.unfailing hrecord h.pending h.inTime (createEscalation_lasts ..) h.approves
          h.verified h.reader h.catalog (fun d' hd' happroved => ?_) fun _ reason => ?_)
      · exact resolveReserve_refused h.unfailing ha hviewed
          fun hgrants => hno ⟨hclear.1 ⟨d', hd', happroved⟩, hgrants⟩
      · exact expire_compensates h.unfailing ha hviewed reason q.now
    rw [hp] at hp'
    cases hp'
    rw [hstatus] at hstatus'
    cases hstatus'
  · rintro ⟨hc, hgrants⟩
    obtain ⟨d', hd', happroved⟩ := hclear.2 hc
    refine flow_run (R := fun _ _ _ _ => True) (Q := fun _ t => t.holds r.pid .pendingCapture)
      (resolve_path h.unfailing hrecord h.pending h.inTime (createEscalation_lasts ..) h.approves
        h.verified h.reader h.catalog (fun _ _ _ => ?_) fun hrefused => ?_)
    · exact resolveReserve_captures (createEscalation ..) h.unfailing hviewed hgrants
    · exact absurd happroved (hrefused d' hd')

end Again

/-! ## A restaurant -/

/-- The midnight at which the first of September 2026 begins. -/
def september : ℤ := 1788220800000000

/-- The offers of a restaurant: a soup of 10.00 and a dinner of 80.00. -/
def menu : Json → Policy.Offer
  | .str "dinner" => ⟨"dinner", "merchant-1", "food", 8000, "USD", "dinner", none, by decide⟩
  | _ => ⟨"soup", "merchant-1", "food", 1000, "USD", "soup", none, by decide⟩

/-- The default gate for a mandate of 100.00 a purchase and 1000.00 in all. -/
def restaurant : Wiring where
  gate := ⟨.default, .default, fun s => s, fun t => if t = september + 600000000 then
    "2026-09-01T00:10:00+00:00" else "2026-09-01T00:00:00+00:00"⟩
  claims := fun _ => ⟨"mdt", some "agent-1", "USD", ⟨["food"], ["merchant-1"], by decide⟩,
    some ⟨10000, 100000, none⟩, some ⟨september, september + 86400000000, by decide⟩, "active",
    .null, by decide⟩
  purchaseIntent := fun i => ⟨i.mandateJti, some "agent-1", "merchant-1", i.offerId,
    .str (fmt (i.amount.getD 0)), "USD", "food", .null⟩
  offer := menu
  sha256 := Json.text
  fromisoformat := fun s => if s = "2026-09-01T00:10:00+00:00" then some (september + 600000000)
    else none

/-- The mandate of the restaurant's guest. -/
def guest : Mandate := ⟨"mdt", "active", 0, 0, 0, some 100000, none, .null⟩

/-- The restaurant's stores in the morning. -/
def morning : Stores :=
  { shop with
    mandates := fun jti => if jti = "mdt" then some guest else none
    offers := fun offerId => some (.str offerId) }

/-- An order at a second of the day. -/
def order (jti offerId : String) (amount : ℕ) (second : ℤ) : VerifyRequest :=
  ⟨⟨jti, "mdt", offerId, some amount, .null⟩, september + second * 1000000, none, some jti,
    "esc-" ++ jti⟩

/-- The restaurant's stores after two soups. -/
def soups : Stores := history restaurant.deps morning
  [.verify (order "p-1" "soup" 1000 0) (failing []),
    .verify (order "p-2" "soup" 1000 1) (failing [])]

/-- A call of `verify` changes neither the mandates nor the offers. -/
theorem after_reader (K : Deps) (s : Stores) (r : VerifyRequest) (e : Env) :
    (after K s (.verify r e)).mandates = s.mandates ∧
      (after K s (.verify r e)).offers = s.offers := by
  refine run_sem_keeps (φ := fun _ => True)
    (I := fun t => t.mandates = s.mandates ∧ t.offers = s.offers) (fun c t _ ht => ?_)
    (Prog.calls_true _) ⟨rfl, rfl⟩
  obtain ⟨site, o⟩ := c
  unfold sem
  split_ifs
  · exact ht
  · cases o with
    | createPurchase p =>
      dsimp only [exec, Stores.createPurchase]
      cases t.purchase p.purchaseId <;> exact ht
    | createEscalation x =>
      dsimp only [exec, Stores.createEscalation]
      cases t.escalations x.escalationId <;> exact ht
    | updateEscalation id status decision =>
      dsimp only [exec, Stores.updateEscalation]
      cases t.escalations id <;> exact ht
    | emit x =>
      dsimp only [exec, Stores.appendEvent]
      split_ifs <;> exact ht
    | incrementIntent m a now => cases a <;> exact ht
    | reserve m a b n rid key => cases a <;> cases b <;> exact ht
    | release m a rid => cases a <;> exact ht
    | _ => exact ht

/-- A confirmed approval of a dinner from some stores on. -/
theorem dinner_confirmed {s : Stores} (jti : String) (second limit now : ℤ)
    (hreader : s.mandates = morning.mandates ∧ s.offers = morning.offers)
    (hfresh : s.escalations ("esc-" ++ jti) = none)
    (hstored : ((after restaurant.deps s (.verify (order jti "dinner" 8000 second)
      (failing []))).escalations ("esc-" ++ jti)).map (fun x => (x.status, x.timeoutAt)) =
        some (.pending, limit)) (htime : now < limit) :
    ∃ record, ConfirmedApproval restaurant (failing []) s (order jti "dinner" 8000 second) guest
      (.str "dinner") record (failing []) (after restaurant.deps s
        (.verify (order jti "dinner" 8000 second) (failing [])))
      ⟨"esc-" ++ jti, .text "APPROVE", now⟩ := by
  obtain ⟨record, hrecord, hfields⟩ := Option.map_eq_some_iff.1 hstored
  obtain ⟨hpend, hlimit⟩ := Prod.mk.inj hfields
  obtain ⟨hmandates, hoffers⟩ := after_reader restaurant.deps s (order jti "dinner" 8000 second)
    (failing [])
  have happroves : (Approval.text "APPROVE").approves = true := by decide +kernel
  refine ⟨record, hfresh, hrecord, hpend, ?_, ?_, ⟨rfl, rfl, rfl, rfl, rfl, rfl⟩, ?_, ?_, rfl,
    happroves, fun _ _ => rfl, hlimit ▸ htime, fun _ => rfl⟩
  · rw [hreader.1]
    rfl
  · rw [hreader.2]
    rfl
  · rw [hmandates, hreader.1]
    rfl
  · rw [hoffers, hreader.2]
    rfl

/-- A dinner on its own is approved after a minute. -/
theorem approval_after_stepup_alone :
    (after restaurant.deps (after restaurant.deps morning (.verify (order "p-1" "dinner" 8000 0)
      (failing []))) (.resolve ⟨"esc-p-1", .text "APPROVE", september + 60000000⟩
        (failing []))).holds "p-1" .pendingCapture := by
  obtain ⟨record, h⟩ := dinner_confirmed "p-1" 0 (september + 300000000) (september + 60000000)
    ⟨rfl, rfl⟩ rfl (by decide +kernel) (by decide)
  refine (approval_after_stepup h (by decide +kernel)).2 ⟨⟨?_, ?_, ?_, ?_, ?_, ?_⟩, ?_⟩
  · decide +kernel
  · rfl
  · decide +kernel
  · decide +kernel
  · decide +kernel
  · rintro l ⟨⟩ hstarts
    exact absurd hstarts (by decide +kernel)
  · exact ⟨8000, 100000, "reservation:p-1", rfl, rfl, by decide +kernel⟩

/-- **The candidate counts itself**: a dinner after two soups is escalated for its amount only, and
the approval a second later finds three intents instead of two. -/
theorem approval_counts_itself : ¬ ∀ (W : Wiring) (e : Env) (s : Stores) (r : VerifyRequest)
    (mandate : Mandate) (offer : Json) (record : EscalationRecord) (e' : Env) (s' : Stores)
    (q : ResolveRequest), ConfirmedApproval W e s r mandate offer record e' s' q →
      (after W.deps s' (.resolve q e')).holds r.pid .pendingCapture := by
  intro h
  obtain ⟨h1, h2⟩ := after_reader restaurant.deps morning (order "p-1" "soup" 1000 0) (failing [])
  obtain ⟨h3, h4⟩ := after_reader restaurant.deps _ (order "p-2" "soup" 1000 1) (failing [])
  obtain ⟨record, hrecord⟩ := dinner_confirmed (s := soups) "p-3" 2 (september + 302000000)
    (september + 3000000) ⟨h3.trans h1, h4.trans h2⟩
    (Option.isNone_iff_eq_none.1 (by decide +kernel)) (by decide +kernel) (by decide)
  obtain ⟨p, hp, hstatus⟩ := h _ _ _ _ _ _ _ _ _ _ hrecord
  have hcompensated : ((after restaurant.deps (after restaurant.deps soups
      (.verify (order "p-3" "dinner" 8000 2) (failing []))) (.resolve ⟨"esc-" ++ "p-3",
        .text "APPROVE", september + 3000000⟩ (failing []))).purchase "p-3").map (·.status) =
          some .compensated := by
    decide +kernel
  rw [show (order "p-3" "dinner" 8000 2).pid = "p-3" from by decide +kernel] at hp
  rw [hp, Option.map_some, hstatus] at hcompensated
  cases hcompensated

end TryTrust.DecisionCore
