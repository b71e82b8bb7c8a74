import TryTrust.Conc.Within
import TryTrust.Decision.Paths

/-!
# The port calls of the service

* `Op.ofVerify`, `Op.ofDecide`, `Op.ofExpire`: the port calls that a part of the service can make,
  with **`verify_calls`**, `expire_calls`, `resolveReserve_calls`;
* **`decide_within`**: a decision makes at most one reservation;
* `exec_purchase`, `exec_escalation`: what a port call makes of one purchase and of one escalation.
-/

namespace TryTrust.DecisionCore

open Conc

/-- The port calls of `verify`. -/
def Op.ofVerify (r : VerifyRequest) : Op → Prop
  | .updatePurchase q c => q = r.pid ∧ c.status = .rejected ∧ c.reservationId = none
  | .createPurchase p => p.purchaseId = r.pid ∧ p.intent = r.intent
  | .createEscalation x => x.purchaseId = r.pid ∧ x.intent = r.intent ∧
      x.escalationId = r.escalationId
  | .updateEscalation id status _ => id = r.escalationId ∧ status = .expired
  | _ => True

/-- The port calls of `verify` between its claim and the answer that it keeps. -/
def Op.ofDecide (r : VerifyRequest) : Op → Prop
  | .claimIdempotency _ _ => False
  | .saveResponse _ _ _ => False
  | op => op.ofVerify r

/-- The port calls of a branch of side effects, but for the reservation. -/
def Op.ofBranch (r : VerifyRequest) : Op → Prop
  | .claimIdempotency _ _ => False
  | .saveResponse _ _ _ => False
  | .reserve _ _ _ _ _ _ => False
  | op => op.ofVerify r

/-- The reservations that a port call asks for. -/
def Op.reserves : Op → ℕ
  | .reserve _ _ _ _ _ _ => 1
  | _ => 0

/-- The port calls of an expiry. -/
def Op.ofExpire (record : EscalationRecord) : Op → Prop
  | .updatePurchase q c => q = record.purchaseId ∧ c.status = .compensated
  | .updateEscalation id status _ => id = record.escalationId ∧ status = .expired
  | .createPurchase _ => False
  | .createEscalation _ => False
  | _ => True

theorem Op.idle.ofVerify {o : Op} (h : o.idle) (r : VerifyRequest) : o.ofVerify r := by
  cases o <;> trivial

theorem Op.ofDecide.ofVerify {o : Op} {r : VerifyRequest} (h : o.ofDecide r) : o.ofVerify r := by
  cases o <;> first | exact h | trivial

theorem Op.ofBranch.ofDecide {o : Op} {r : VerifyRequest} (h : o.ofBranch r) :
    o.ofDecide r ∧ o.reserves = 0 := by
  cases o with
  | claimIdempotency | saveResponse | reserve => exact h.elim
  | _ => exact ⟨h, rfl⟩

section Calls

variable {K : Deps}

theorem rejected_calls (r : VerifyRequest) (mandateId : String) (decision : Decision) :
    (rejected K r.intent mandateId r.pid decision r.now).Calls fun c => c.op.ofBranch r := by
  refine Prog.calls_bind (Prog.calls_attempt ?_) fun body => ?_
  · refine Prog.calls_bind (Prog.calls_perform trivial) fun _ => ?_
    refine Prog.calls_bind (Prog.calls_perform ⟨rfl, rfl, rfl⟩) fun updated => ?_
    refine Prog.calls_bind (whenever_calls (Prog.calls_perform ⟨rfl, rfl⟩)) fun _ => ?_
    refine Prog.calls_bind (emit_calls (fun _ => trivial) _ _ _ _) fun _ => ?_
    exact whenever_calls (emit_calls (fun _ => trivial) _ _ _ _)
  · cases body with
    | ok u => trivial
    | error y => exact Prog.calls_bind (Prog.calls_perform ⟨rfl, rfl, rfl⟩) fun _ => trivial

theorem escalated_calls (r : VerifyRequest) {x : EscalationRecord} (hx : x.purchaseId = r.pid)
    (hintent : x.intent = r.intent) (hid : x.escalationId = r.escalationId) (decision : Decision) :
    (escalated K x decision r.now).Calls fun c => c.op.ofBranch r := by
  refine Prog.calls_bind (Prog.calls_attempt ?_) fun body => ?_
  · refine Prog.calls_bind (Prog.calls_perform trivial) fun _ => ?_
    refine Prog.calls_bind (observeEscalation_calls (fun _ _ => trivial) (fun _ _ => trivial)
      _ _ _) fun _ => ?_
    refine Prog.calls_bind (Prog.calls_perform ⟨hx, hintent⟩) fun _ => ?_
    refine Prog.calls_bind (Prog.calls_perform ⟨hx, hintent, hid⟩) fun _ => ?_
    refine Prog.calls_bind (emit_calls (fun _ => trivial) _ _ _ _) fun _ => ?_
    refine Prog.calls_bind (whenever_calls (emit_calls (fun _ => trivial) _ _ _ _)) fun _ => ?_
    exact whenever_calls (emit_calls (fun _ => trivial) _ _ _ _)
  · cases body with
    | ok u => trivial
    | error y =>
      refine Prog.calls_bind (Prog.calls_perform ⟨hx, rfl, rfl⟩) fun _ => ?_
      exact Prog.calls_bind (Prog.calls_perform ⟨hid, rfl⟩) fun _ => trivial

theorem reserve_calls {φ : Call → Prop} (site : Site) (mandate : Mandate) (mandateId : String)
    (intent : Intent) (pid : String) (h : ∀ m a b n rid key, φ ⟨site, .reserve m a b n rid key⟩) :
    (reserve site mandate mandateId intent pid).Calls φ := by
  refine Prog.calls_bind (Prog.calls_perform (h _ _ _ _ _ _)) fun result => ?_
  cases result <;> trivial

theorem releaseSlot_calls {φ : Call → Prop} (relSite openSite : Site) (mandateId : String)
    (intent : Intent) (rid : String) (hrel : ∀ m a id, φ ⟨relSite, .release m a id⟩)
    (hopen : ∀ m, φ ⟨openSite, .decrementOpen m⟩) :
    (releaseSlot relSite openSite mandateId intent rid).Calls φ :=
  Prog.calls_bind (Prog.calls_perform (hrel _ _ _)) fun _ =>
    whenever_calls (Prog.calls_perform (hopen _))

/-- Calls that ask for no reservation. -/
theorem within_of_branch {r : VerifyRequest} {α : Type} {p : Ds α} {b : ℕ}
    (hp : p.Calls fun c => c.op.ofBranch r) :
    p.Within (fun c => c.op.ofDecide r) (fun c => c.op.reserves) b :=
  Prog.within_of_calls (fun _ h => h.ofDecide) hp

theorem approved_within (r : VerifyRequest) (mandate : Mandate) (mandateId : String) :
    (approved K mandate mandateId r.intent r.pid r.now).Within (fun c => c.op.ofDecide r)
      (fun c => c.op.reserves) 1 := by
  refine Prog.within_bind (b := 1) (c := 0) le_rfl (Prog.within_attempt ?_) fun reservation => ?_
  · refine Prog.within_bind (b := 0) (c := 1) le_rfl (within_of_branch ?_) fun _ => ?_
    · exact Prog.calls_perform trivial
    · refine Prog.within_bind (b := 1) (c := 0) le_rfl (Prog.within_perform ?_ le_rfl) fun result => ?_
      · exact trivial
      cases result <;> trivial
  · refine within_of_branch ?_
    rcases reservation with (_ | _ | _) | rid
    · exact rejected_calls r _ _
    · exact rejected_calls r _ _
    · exact rejected_calls r _ _
    · refine Prog.calls_bind (Prog.calls_attempt ?_) fun record => ?_
      · refine Prog.calls_bind (Prog.calls_perform ⟨rfl, rfl⟩) fun _ => ?_
        refine Prog.calls_bind (Prog.calls_perform trivial) fun _ => ?_
        exact emit_calls (fun _ => trivial) _ _ _ _
      · cases record with
        | ok u => trivial
        | error y =>
          refine Prog.calls_bind ?_ fun _ => rejected_calls r _ _
          exact releaseSlot_calls _ _ _ _ _ (fun _ _ _ => trivial) fun _ => trivial

/-- **A decision makes at most one reservation**, and neither claims nor keeps an answer. -/
theorem decide_within (r : VerifyRequest) :
    (decide K r).Within (fun c => c.op.ofDecide r) (fun c => c.op.reserves) 1 := by
  refine Prog.within_bind (b := 0) (c := 1) le_rfl (within_of_branch ?_) fun mandate => ?_
  · unfold loadMandate
    cases r.mandate with
    | some m => trivial
    | none => exact Prog.calls_perform trivial
  · cases mandate with
    | none => exact within_of_branch (rejected_calls r _ _)
    | some mandate =>
      refine Prog.within_bind (b := 0) (c := 1) le_rfl (within_of_branch ?_) fun offer => ?_
      · exact Prog.calls_perform trivial
      cases offer with
      | none => exact within_of_branch (rejected_calls r _ _)
      | some offer =>
        refine Prog.within_bind (b := 0) (c := 1) le_rfl (within_of_branch ?_) fun d => ?_
        · exact Prog.calls_attempt (Prog.calls_bind (Prog.calls_perform trivial) fun _ => lift_calls _)
        cases d with
        | error y => exact within_of_branch (rejected_calls r _ _)
        | ok d =>
          show (branch K r mandate offer d).Within _ _ _
          unfold branch
          cases d.decision with
          | rejected => exact within_of_branch (rejected_calls r _ _)
          | escalated => exact within_of_branch (escalated_calls r rfl rfl rfl d)
          | approved => exact approved_within r mandate _

/-- **The port calls of `verify`** concern its own purchase and its own escalation. -/
theorem verify_calls (r : VerifyRequest) : (verify K r).Calls fun c => c.op.ofVerify r := by
  have hfinish : ∀ claim result, (finish r claim result).Calls fun c => c.op.ofVerify r :=
    fun claim result => Prog.calls_mono (fun _ hc => Op.idle.ofVerify hc.idle r)
      (finish_calls r claim result)
  have hdecide : (decide K r).Calls fun c => c.op.ofVerify r :=
    Prog.calls_mono (fun _ h => Op.ofDecide.ofVerify h) (Prog.calls_of_within (decide_within r))
  refine Prog.calls_bind (Prog.calls_attempt (Prog.calls_perform trivial)) fun claim => ?_
  have hmain : ∀ claim : Claim, (verifyClaimed K r claim).Calls fun c => c.op.ofVerify r := by
    intro claim
    refine Prog.calls_bind (Prog.calls_perform trivial) fun existing => ?_
    cases existing with
    | some p =>
      exact Prog.calls_bind (resultForExisting_calls p fun _ => trivial) fun _ =>
        hfinish _ _
    | none => exact Prog.calls_bind hdecide fun _ => hfinish _ _
  rcases claim with (_ | _ | _) | (_ | _ | _ | result)
  · trivial
  · trivial
  · trivial
  · exact hmain .unclaimed
  · exact hmain .owned
  · trivial
  · trivial

theorem expireRecover_calls (record : EscalationRecord) (releaseId : Option String)
    (released : Bool) :
    (expireRecover record releaseId released).Calls fun c => c.op.ofExpire record := by
  unfold expireRecover
  rcases releaseId with _ | id <;> cases released
  · trivial
  · trivial
  · exact Prog.calls_bind (Prog.calls_attempt (releaseSlot_calls _ _ _ _ _ (fun _ _ _ => trivial)
      fun _ => trivial)) fun _ => trivial
  · trivial

/-- **The port calls of an expiry** close the escalation and compensate its purchase. -/
theorem expire_calls (record : EscalationRecord) (reason : ReasonCode)
    (reservationId : Option String) (now : ℤ) :
    (expire K record reason reservationId now).Calls fun c => c.op.ofExpire record := by
  refine Prog.calls_bind (Prog.calls_attempt (Prog.calls_perform trivial)) fun purchase => ?_
  cases purchase with
  | error y => exact expireRecover_calls _ _ _
  | ok purchase =>
    refine Prog.calls_bind (Prog.calls_attempt ?_) fun released => ?_
    · unfold expireRelease
      split
      · exact Prog.calls_perform trivial
      · trivial
    · cases released with
      | error y => exact expireRecover_calls _ _ _
      | ok released =>
        refine Prog.calls_bind (Prog.calls_attempt ?_) fun body => ?_
        · refine Prog.calls_bind (whenever_calls (Prog.calls_perform trivial)) fun _ => ?_
          refine Prog.calls_bind (Prog.calls_perform ⟨rfl, rfl⟩) fun _ => ?_
          refine Prog.calls_bind (Prog.calls_perform ⟨rfl, rfl⟩) fun _ => ?_
          exact emit_calls (fun _ => trivial) _ _ _ _
        · cases body with
          | error y => exact expireRecover_calls _ _ _
          | ok u => trivial

/-- The port calls of a reservation for an escalation: its purchase is the only one updated. -/
theorem resolveReserve_calls (record : EscalationRecord) (mandate : Mandate) (r : ResolveRequest) :
    (resolveReserve K record mandate r).Calls fun c => c.op.ofExpire record ∨
      (∃ x, c.op = .updatePurchase record.purchaseId x) ∨
      ∃ d, c.op = .updateEscalation r.escalationId .resolved d := by
  have hexpire : ∀ rid, (expire K record .mandateSuspended rid r.now).Calls fun c =>
      c.op.ofExpire record ∨ (∃ x, c.op = .updatePurchase record.purchaseId x) ∨
        ∃ d, c.op = .updateEscalation r.escalationId .resolved d := fun rid =>
    Prog.calls_mono (fun _ h => .inl h) (expire_calls _ _ _ _)
  refine Prog.calls_bind (Prog.calls_attempt (reserve_calls _ _ _ _ _ fun _ _ _ _ _ _ =>
    .inl trivial)) fun reservation => ?_
  cases reservation with
  | error y => exact hexpire _
  | ok rid =>
    refine Prog.calls_bind (Prog.calls_attempt ?_) fun body => ?_
    · refine Prog.calls_bind (Prog.calls_perform (.inr (.inr ⟨_, rfl⟩))) fun _ => ?_
      refine Prog.calls_bind (Prog.calls_perform (.inr (.inl ⟨_, rfl⟩))) fun _ => ?_
      refine Prog.calls_bind (Prog.calls_perform (.inl trivial)) fun _ => ?_
      refine Prog.calls_bind (emit_calls (fun _ => .inl trivial) _ _ _ _) fun _ => ?_
      exact emit_calls (fun _ => .inl trivial) _ _ _ _
    · cases body with
      | error y => exact hexpire _
      | ok u => trivial

end Calls

/-! ## One purchase, one escalation -/

/-- **What a port call makes of a purchase.** -/
theorem exec_purchase (e : Env) (op : Op) (s : Stores) (q : String) :
    (exec e op s).2.purchase q = match op with
      | .createPurchase p => (s.purchase q).or (if q = p.purchaseId then some p else none)
      | .updatePurchase pid c => if q = pid then (s.purchase q).map (·.change c) else s.purchase q
      | _ => s.purchase q := by
  cases op with
  | createPurchase p =>
    cases hp : s.purchase p.purchaseId with
    | some x =>
      have hsame : s.createPurchase p = s := by simp [Stores.createPurchase, hp]
      dsimp only [exec]
      rw [hsame]
      split_ifs with hq
      · rw [hq, hp]
        rfl
      · rw [Option.or_none]
    | none =>
      dsimp only [exec]
      rw [Stores.purchase_create hp]
      split_ifs with hq
      · rw [hq, hp]
        rfl
      · rw [Option.or_none]
  | updatePurchase pid c =>
    dsimp only [exec]
    split_ifs with hq
    · rw [hq, Stores.purchase_update_self]
    · exact Stores.purchase_update_ne s c hq
  | createEscalation x =>
    exact congrFun (congrArg (fun l q => lookup (·.purchaseId) l q)
      (s.createEscalation_rest x).2.2) q
  | updateEscalation id status decision =>
    exact congrFun (congrArg (fun l q => lookup (·.purchaseId) l q)
      (s.updateEscalation_rest id status decision).2.2) q
  | incrementOpen | decrementOpen => rfl
  | reserve m a b n rid key => cases a <;> cases b <;> rfl
  | release m a rid => cases a <;> rfl
  | _ =>
    refine (exec_idle e ?_ s).purchase q
    trivial

theorem sem_purchase (e : Env) (c : Call) (s : Stores) (q : String) :
    (sem e c s).2.purchase q = s.purchase q ∨
      (sem e c s).2.purchase q = (exec e c.op s).2.purchase q := by
  unfold sem
  split_ifs
  · exact .inl rfl
  · exact .inr rfl

/-- No port call removes a purchase. -/
theorem sem_keeps_purchase (e : Env) (c : Call) {s : Stores} {q : String}
    (h : (s.purchase q).isSome) : ((sem e c s).2.purchase q).isSome := by
  rcases sem_purchase e c s q with heq | heq
  · rw [heq]
    exact h
  · rw [heq, exec_purchase]
    split
    · simp [Option.isSome_or, h]
    · split_ifs
      · simpa using h
      · exact h
    · exact h

end TryTrust.DecisionCore
