import TryTrust.Decision.Effects

/-!
# Paths through the service

Which branch a call of the service takes, and what holds on the way to it.

* `Gated`: `verify` reads a mandate and an offer and the gate decides; `decide_rule`,
  `verify_rule`: an end of `verify` is an end of one of its branches;
* `Authorized`: a human approved in time, the user is verified where the level asks for it and the
  gate approves again; **`resolve_rule`**: an end of `resolve` is that of an expiry, or of a
  reservation for which all this holds;
* `Event`, `after`, `history`: calls of the service one after the other, while others change what
  it only reads.
-/

namespace TryTrust.DecisionCore

open Conc

/-- The stores after a look at a mandate's counters, which drops an expired cooldown. -/
def Stores.viewed (s : Stores) (mandate : Mandate) (mandateId : String) (now : ℤ) : Stores :=
  { s with velocity := (s.velocity.spendView mandate mandateId now).2 }

theorem Stores.viewed_same (s : Stores) (mandate : Mandate) (mandateId : String) (now : ℤ) :
    Same s (s.viewed mandate mandateId now) :=
  ⟨rfl, s.velocity.spendView_openAuthz mandate mandateId now, rfl, rfl⟩

section Paths

variable {K : Deps} {e : Env} {s : Stores}

theorem lift_ok {α : Type} (a : α) : lift (.ok a) = pure a := by unfold lift; rfl

theorem lift_error {α : Type} (y : Err) : (lift (.error y) : Ds α) = .raise y := by unfold lift; rfl

/-! ## `verify` -/

/-- The mandate, the offer and the gate's decision of a call. -/
structure Gated (K : Deps) (e : Env) (s : Stores) (r : VerifyRequest) (mandate : Mandate)
    (offer : Json) (d : Decision) : Prop where
  found : r.mandate.or (s.mandates r.intent.mandateJti) = some mandate
  offered : s.offers r.intent.offerId = some offer
  decision : K.evaluate mandate r.intent (s.velocity.spendView mandate mandate.id r.now).1 r.now
    offer false = .ok d
  readsMandate : r.mandate = none → e.fails .verifyReadMandate = false
  readsOffer : e.fails .verifyReadOffer = false
  readsSpend : e.fails .verifySpend = false

/-- What `evaluate` answers, in the stores of the moment. -/
theorem evaluate_flow {R : Stores → (c : Call) → Except Err (Res c) → Stores → Prop}
    {site : Site} {mandate : Mandate} {mandateId : String} {intent : Intent} {now : ℤ}
    {offer : Json} {approvedStepup : Bool} {α : Type} {f : Except Err Decision → Ds α}
    {Q : Except Err α → Stores → Prop}
    (hR : ∀ c : Call, c.op.idle → R s c (sem e c s).1 (sem e c s).2)
    (hfail : e.fails site = true → Flow (sem e) R Q (f (.error .failure)) s)
    (hrun : e.fails site = false → Flow (sem e) R Q
      (f (K.evaluate mandate intent (s.velocity.spendView mandate mandateId now).1 now offer
        approvedStepup)) (s.viewed mandate mandateId now)) :
    Flow (sem e) R Q
      ((evaluate K site mandate mandateId intent now offer approvedStepup).attempt >>= f) s := by
  refine flow_attempt_bind (P := fun r s' =>
    (e.fails site = true ∧ r = .error .failure ∧ s' = s) ∨
      (e.fails site = false ∧ r = K.evaluate mandate intent
        (s.velocity.spendView mandate mandateId now).1 now offer approvedStepup ∧
        s' = s.viewed mandate mandateId now)) ?_ ?_
  · unfold evaluate
    refine flow_port_bind (hR _ trivial) rfl (fun h => .inl ⟨h, rfl, rfl⟩) fun h => ?_
    cases hd : K.evaluate mandate intent (s.velocity.spendView mandate mandateId now).1 now offer
      approvedStepup with
    | ok d =>
      rw [lift_ok]
      exact flow_pure (.inr ⟨h, rfl, rfl⟩)
    | error y =>
      rw [lift_error]
      exact flow_raise (.inr ⟨h, rfl, rfl⟩)
  · rintro r s' (⟨h, rfl, rfl⟩ | ⟨h, rfl, rfl⟩)
    · exact hfail h
    · exact hrun h

/-- `decide` once the mandate is known. -/
def decideFor (K : Deps) (r : VerifyRequest) (mandate : Mandate) : Ds VerificationResult := do
  let offer : Option Json ← port .verifyReadOffer (.readOffer r.intent.offerId)
  match offer with
  | none => rejected K r.intent mandate.id r.pid (.rejected .conditionFailed) r.now
  | some offer =>
    let decision : Except Err Decision ←
      (evaluate K .verifySpend mandate mandate.id r.intent r.now offer false).attempt
    match decision with
    | .error _ => rejected K r.intent mandate.id r.pid (.rejected .mandateSuspended) r.now
    | .ok decision => branch K r mandate offer decision

/-- **The branches of a decision**: a rejection by the service, or the gate's. -/
theorem decide_rule {r : VerifyRequest} {Q : Except Err VerificationResult → Stores → Prop}
    (hraise : Q (.error .failure) s)
    (hreject : ∀ m reason t, Same s t →
      Ends (sem e) Q (rejected K r.intent m r.pid (.rejected reason) r.now) t)
    (hbranch : ∀ mandate offer d, Gated K e s r mandate offer d →
      Ends (sem e) Q (branch K r mandate offer d) (s.viewed mandate mandate.id r.now)) :
    Ends (sem e) Q (decide K r) s := by
  have hmandate : ∀ mandate, r.mandate.or (s.mandates r.intent.mandateJti) = some mandate →
      (r.mandate = none → e.fails .verifyReadMandate = false) →
      Ends (sem e) Q (decideFor K r mandate) s := by
    intro mandate hm hreads
    refine ends_port_bind (o := .readOffer r.intent.offerId) (a := s.offers r.intent.offerId) rfl
      (fun _ => hraise) fun hoffer => ?_
    cases ho : s.offers r.intent.offerId with
    | none => exact hreject mandate.id .conditionFailed s (Same.rfl' s)
    | some offer =>
      refine evaluate_flow (fun _ _ => trivial) (fun _ => hreject _ _ _ (Same.rfl' s)) fun hspend => ?_
      cases hd : K.evaluate mandate r.intent (s.velocity.spendView mandate mandate.id r.now).1 r.now
        offer false with
      | error y => exact hreject mandate.id .mandateSuspended _ (s.viewed_same _ _ _)
      | ok d => exact hbranch mandate offer d ⟨hm, ho, hd, hreads, hoffer, hspend⟩
  unfold decide loadMandate
  cases hgiven : r.mandate with
  | some mandate => exact hmandate mandate (by rw [hgiven]; rfl) fun h => by rw [hgiven] at h; cases h
  | none =>
    refine ends_port_bind (o := .readMandate r.intent.mandateJti)
      (a := s.mandates r.intent.mandateJti) rfl (fun _ => hraise) fun hread => ?_
    cases hm : s.mandates r.intent.mandateJti with
    | none => exact hreject _ _ s (Same.rfl' s)
    | some mandate => exact hmandate mandate (by rw [hgiven]; exact hm) fun _ => hread

theorem resultForExisting_calls {φ : Call → Prop} (p : PurchaseRecord)
    (h : ∀ id, φ ⟨.existingReadEscalation, .readEscalation id⟩) :
    (resultForExisting p).Calls φ := by
  unfold resultForExisting
  cases p.status with
  | awaitingEscalation =>
    cases p.escalationId with
    | none => trivial
    | some id => exact Prog.calls_bind (Prog.calls_perform (h id)) fun _ => trivial
  | _ => trivial

/-- A port call without an effect. -/
def Op.reads : Op → Prop
  | .claimIdempotency _ _ => True
  | .saveResponse _ _ _ => True
  | .readEscalation _ => True
  | _ => False

theorem Op.reads.idle {o : Op} (h : o.reads) : o.idle := by
  cases o <;> first | exact h.elim | trivial

theorem sem_reads (e : Env) {c : Call} (h : c.op.reads) (s : Stores) : (sem e c s).2 = s := by
  unfold sem
  split_ifs
  · rfl
  · obtain ⟨site, o⟩ := c
    cases o <;> first | exact h.elim | rfl

/-- A program of such calls leaves the stores as they were. -/
theorem reads_ends (e : Env) {α : Type} {p : Ds α} (hp : p.Calls fun c => c.op.reads)
    (s : Stores) : Ends (sem e) (fun _ t => t = s) p s :=
  ends_calls (I := fun t => t = s) (fun _ t hc ht => by rw [sem_reads e hc t, ht]) hp rfl

theorem finish_calls (r : VerifyRequest) (claim : Claim) (result : VerificationResult) :
    (finish r claim result).Calls fun c => c.op.reads := by
  cases claim with
  | owned =>
    refine Prog.calls_bind (Prog.calls_attempt (Prog.calls_perform trivial)) fun saved => ?_
    cases saved <;> trivial
  | _ => trivial

/-- The caller may decide: the idempotency store answered, and not with an answer of its own. -/
def Env.claims (e : Env) : Prop :=
  e.fails .verifyClaim = false ∧ (e.claim = .ok .unclaimed ∨ e.claim = .ok .owned)

/-- `verify` for a caller who may decide. -/
def verifyClaimed (K : Deps) (r : VerifyRequest) (claim : Claim) : Ds VerificationResult := do
  let existing : Option PurchaseRecord ←
    port .verifyReadPurchase (.readPurchaseByIntent r.intent.jti)
  let result ← match existing with
    | some p => resultForExisting p
    | none => decide K r
  finish r claim result

/-- **The paths of `verify`**: nothing happens, or it decides about an intent that has no purchase,
and keeps its answer. -/
theorem verify_rule {r : VerifyRequest} {I : Stores → Prop} (hs : I s)
    (hdecide : e.claims → e.fails .verifyReadPurchase = false →
      s.purchaseByIntent r.intent.jti = none → Ends (sem e) (fun _ s' => I s') (decide K r) s) :
    Ends (sem e) (fun _ s' => I s') (verify K r) s := by
  have hreads : ∀ {α : Type} (p : Ds α), p.Calls (fun c => c.op.reads) → ∀ t, I t →
      Ends (sem e) (fun _ s' => I s') p t := fun p hp t ht =>
    flow_mono (fun _ s' hst => hst ▸ ht) (reads_ends e hp t)
  have hmain : ∀ claim : Claim, e.claims →
      Ends (sem e) (fun _ s' => I s') (verifyClaimed K r claim) s := by
    intro claim hclaims
    refine ends_port_bind (o := .readPurchaseByIntent r.intent.jti)
      (a := s.purchaseByIntent r.intent.jti) rfl (fun _ => hs) fun hread => ?_
    have hfinish : ∀ (result : VerificationResult) t, I t →
        Ends (sem e) (fun _ s' => I s') (finish r claim result) t := fun result =>
      hreads _ (finish_calls r claim result)
    cases hp : s.purchaseByIntent r.intent.jti with
    | some p =>
      exact flow_bind (hreads _ (resultForExisting_calls p fun _ => trivial) s hs) hfinish
        fun _ _ ht => ht
    | none => exact flow_bind (hdecide hclaims hread hp) hfinish fun _ _ ht => ht
  unfold verify
  refine ends_port_attempt (fun _ => flow_pure hs) fun hclaim => ?_
  dsimp only [exec]
  cases hc : e.claim with
  | error y =>
    cases y with
    | idempotencyConflict => exact flow_raise hs
    | _ => exact flow_pure hs
  | ok claim =>
    cases claim with
    | replay result => exact flow_pure hs
    | busy => exact flow_pure hs
    | unclaimed => exact hmain .unclaimed ⟨hclaim, .inl hc⟩
    | owned => exact hmain .owned ⟨hclaim, .inr hc⟩

/-! ## `resolve_escalation` -/

/-- **An authorised resolution**: the answer is an approval, in time, of a user who is verified
where the level asks for it, and the gate approves again on the stores of the moment. -/
structure Authorized (K : Deps) (e : Env) (s : Stores) (r : ResolveRequest)
    (record : EscalationRecord) (mandate : Mandate) : Prop where
  approves : r.approval.approves = true
  inTime : r.now < record.timeoutAt
  verified : record.level = .l3Plus → e.fails .resolveVerifyUser = false ∧
    e.userVerified (K.sha256 (.obj record.diff))
      ((record.timeoutAt - record.createdAt) / 1000000) = true
  found : (s.mandates record.mandateId).or (s.mandates record.intent.mandateJti) = some mandate
  reads : e.fails .resolveReadEscalation = false ∧ e.fails .resolveReadMandate = false ∧
    (s.mandates record.mandateId = none → e.fails .resolveReadMandateOfIntent = false) ∧
    e.fails .resolveReadOffer = false ∧ e.fails .resolveSpend = false
  gate : ∃ offer d, s.offers record.intent.offerId = some offer ∧
    K.evaluate mandate record.intent (s.velocity.spendView mandate record.mandateId r.now).1 r.now
      offer true = .ok d ∧ d.decision = .approved

/-- A flow in which a step that touches no book is allowed everywhere. -/
def AllowsIdle (e : Env) (R : Stores → (c : Call) → Except Err (Res c) → Stores → Prop) : Prop :=
  ∀ t (c : Call), c.op.idle → R t c (sem e c t).1 (sem e c t).2

section Resolve

variable {R : Stores → (c : Call) → Except Err (Res c) → Stores → Prop}
  {r : ResolveRequest} {record : EscalationRecord} {Q : Except Err VerificationResult → Stores → Prop}

/-- `regate` once the mandate is known. -/
def regateFor (K : Deps) (record : EscalationRecord) (mandate : Mandate) (r : ResolveRequest) :
    Ds VerificationResult := do
  let offer : Option Json ← port .resolveReadOffer (.readOffer record.intent.offerId)
  match offer with
  | none => expire K record .conditionFailed none r.now
  | some offer =>
    let decision : Except Err Decision ← (evaluate K .resolveSpend mandate record.mandateId
      record.intent r.now offer true).attempt
    match decision with
    | .error _ => expire K record .mandateSuspended none r.now
    | .ok decision =>
      if decision.decision ≠ .approved then
        expire K record (decision.reasonCode.getD .escalationTimeoutDenied) none r.now
      else resolveReserve K record mandate r

/-- The gate again: an expiry, or a reservation for which the gate approved. -/
theorem regate_rule (hidle : AllowsIdle e R) (hraise : Q (.error .failure) s)
    (hexpire : ∀ reason t, Same s t →
      Flow (sem e) R Q (expire K record reason none r.now) t)
    (hreserve : ∀ mandate offer d,
      (s.mandates record.mandateId).or (s.mandates record.intent.mandateJti) = some mandate →
      s.offers record.intent.offerId = some offer →
      K.evaluate mandate record.intent (s.velocity.spendView mandate record.mandateId r.now).1 r.now
        offer true = .ok d → d.decision = .approved → e.fails .resolveReadMandate = false ∧
      (s.mandates record.mandateId = none → e.fails .resolveReadMandateOfIntent = false) ∧
      e.fails .resolveReadOffer = false ∧ e.fails .resolveSpend = false →
      Flow (sem e) R Q (resolveReserve K record mandate r)
        (s.viewed mandate record.mandateId r.now)) :
    Flow (sem e) R Q (regate K record r) s := by
  have hmandate : ∀ mandate,
      (s.mandates record.mandateId).or (s.mandates record.intent.mandateJti) = some mandate →
      (e.fails .resolveReadMandate = false ∧
        (s.mandates record.mandateId = none → e.fails .resolveReadMandateOfIntent = false)) →
      Flow (sem e) R Q (regateFor K record mandate r) s := by
    intro mandate hm hread
    refine flow_port_bind (o := .readOffer record.intent.offerId)
      (a := s.offers record.intent.offerId) (hidle _ _ trivial) rfl (fun _ => hraise) fun hoffer => ?_
    cases ho : s.offers record.intent.offerId with
    | none => exact hexpire _ s (Same.rfl' s)
    | some offer =>
      refine evaluate_flow (fun c hc => hidle _ c hc) (fun _ => hexpire _ s (Same.rfl' s))
        fun hspend => ?_
      cases hd : K.evaluate mandate record.intent
        (s.velocity.spendView mandate record.mandateId r.now).1 r.now offer true with
      | error y => exact hexpire _ _ (s.viewed_same _ _ _)
      | ok d =>
        dsimp only
        split_ifs with happroved
        · exact hexpire _ _ (s.viewed_same _ _ _)
        · exact hreserve mandate offer d hm ho hd (not_not.1 happroved)
            ⟨hread.1, hread.2, hoffer, hspend⟩
  unfold regate reloadMandate
  refine (congrArg (fun p => Flow (sem e) R Q p s) (Prog.bind_assoc _ _ _)).mpr ?_
  refine flow_port_bind (o := .readMandate record.mandateId) (a := s.mandates record.mandateId)
    (hidle _ _ trivial) rfl (fun _ => hraise) fun hfirst => ?_
  cases hm : s.mandates record.mandateId with
  | some mandate => exact hmandate mandate (by rw [hm]; rfl) ⟨hfirst, fun h => by rw [hm] at h; cases h⟩
  | none =>
    refine flow_port_bind (o := .readMandate record.intent.mandateJti)
      (a := s.mandates record.intent.mandateJti) (hidle _ _ trivial) rfl (fun _ => hraise)
      fun hsecond => ?_
    cases hm' : s.mandates record.intent.mandateJti with
    | none => exact hexpire _ s (Same.rfl' s)
    | some mandate => exact hmandate mandate (by rw [hm]; exact hm') ⟨hfirst, fun _ => hsecond⟩

/-- The envelope passes an approval, in time, of a verified user where the level asks for it. -/
theorem resolveEnvelope_flow (hidle : AllowsIdle e R) (hstatus : record.status = .pending)
    (htime : r.now < record.timeoutAt) {f : Decision → Ds VerificationResult}
    (hraise : Q (.error .failure) s)
    (hrefuse : ∀ d : Decision, d.decision = .rejected → Flow (sem e) R Q (f d) s)
    (hpass : r.approval.approves = true → (record.level = .l3Plus →
      e.fails .resolveVerifyUser = false ∧ e.userVerified (K.sha256 (.obj record.diff))
        ((record.timeoutAt - record.createdAt) / 1000000) = true) →
      Flow (sem e) R Q (f (.approved none)) s) :
    Flow (sem e) R Q (resolveEnvelope K record r >>= f) s := by
  unfold resolveEnvelope
  rw [if_neg (by simp [hstatus, htime])]
  split_ifs with hcreated happroves
  · exact flow_raise hraise
  · exact hrefuse _ rfl
  · have happ : r.approval.approves = true := by simpa using happroves
    cases hlevel : record.level with
    | l3 => exact hpass happ fun h => by rw [hlevel] at h; cases h
    | l3Plus =>
      refine (congrArg (fun p => Flow (sem e) R Q p s) (Prog.bind_assoc _ _ _)).mpr ?_
      refine flow_port_attempt (hidle _ _ trivial) (fun _ => hrefuse _ rfl) fun hrun => ?_
      dsimp only [exec]
      cases hv : e.userVerified (K.sha256 (.obj record.diff))
          ((record.timeoutAt - record.createdAt) / 1000000) with
      | true => exact hpass happ fun _ => ⟨hrun, hv⟩
      | false => exact hrefuse _ rfl

/-- **The paths of `resolve_escalation`**: nothing to resolve, an expiry, or a reservation that is
authorised. -/
theorem resolve_rule (hidle : AllowsIdle e R) (hraise : Q (.error .failure) s)
    (hmissing : ∀ result, Q (.ok result) s)
    (hsettled : ∀ record, s.escalations r.escalationId = some record → record.status ≠ .pending →
      Flow (sem e) R Q (resolveSettled record r) s)
    (hexpire : ∀ record reason t, s.escalations r.escalationId = some record →
      record.status = .pending → Same s t →
      Flow (sem e) R Q (expire K record reason none r.now) t)
    (hreserve : ∀ record mandate, s.escalations r.escalationId = some record →
      record.status = .pending → Authorized K e s r record mandate →
      Flow (sem e) R Q (resolveReserve K record mandate r)
        (s.viewed mandate record.mandateId r.now)) :
    Flow (sem e) R Q (resolve K r) s := by
  unfold resolve
  refine flow_port_bind (o := .readEscalation r.escalationId) (a := s.escalations r.escalationId)
    (hidle _ _ trivial) rfl (fun _ => hraise) fun hread => ?_
  cases hrec : s.escalations r.escalationId with
  | none => exact flow_pure (hmissing _)
  | some record =>
    dsimp only
    split_ifs with hstatus
    · exact hsettled record hrec hstatus
    · have hpend : record.status = .pending := not_not.1 hstatus
      unfold resolvePending
      split_ifs with hlate
      · exact hexpire record _ s hrec hpend (Same.rfl' s)
      · have htime : r.now < record.timeoutAt := by omega
        refine resolveEnvelope_flow hidle hpend htime hraise (fun d hd => ?_) fun happ hver => ?_
        · rw [if_pos hd]
          exact hexpire record _ s hrec hpend (Same.rfl' s)
        · rw [if_neg (by simp [Decision.approved])]
          refine regate_rule hidle hraise (fun reason t => hexpire record reason t hrec hpend) ?_
          intro mandate offer d hm ho hd hdec hreads
          exact hreserve record mandate hrec hpend
            ⟨happ, htime, hver, hm, ⟨hread, hreads⟩, offer, d, ho, hd, hdec⟩

end Resolve

end Paths

/-! ## Runs -/

/-- A call of the service in an environment, or a change of what it only reads. -/
inductive Event where
  | verify (r : VerifyRequest) (e : Env)
  | resolve (r : ResolveRequest) (e : Env)
  | others (mandates : String → Option Mandate) (offers : String → Option Json)

section Runs

variable (K : Deps)

/-- The stores after an event. -/
def after (s : Stores) : Event → Stores
  | .verify r e => ((verify K r).run (sem e) s).2
  | .resolve r e => ((resolve K r).run (sem e) s).2
  | .others mandates offers => { s with mandates := mandates, offers := offers }

/-- The stores after a sequence of events. -/
def history (s : Stores) (events : List Event) : Stores := events.foldl (after K) s

/-- Every event of a sequence meets `P` in the stores in which it happens. -/
def Throughout (P : Stores → Event → Prop) (s : Stores) : List Event → Prop
  | [] => True
  | x :: xs => P s x ∧ Throughout P (after K s x) xs

/-- **Runs**: what every event keeps when it meets the condition, a sequence keeps. -/
theorem history_keeps {I : Stores → Prop} {P : Stores → Event → Prop}
    (h : ∀ s x, I s → P s x → I (after K s x)) {s : Stores} (hs : I s) {events : List Event}
    (hP : Throughout K P s events) : I (history K s events) := by
  induction events generalizing s with
  | nil => exact hs
  | cons x xs ih => exact ih (h s x hs hP.1) hP.2

/-- What every event does from stores of the invariant, it does throughout a sequence. -/
theorem throughout_keeps {I : Stores → Prop} {P Q : Stores → Event → Prop}
    (h : ∀ s x, I s → P s x → Q s x ∧ I (after K s x)) {s : Stores} (hs : I s)
    {events : List Event} (hP : Throughout K P s events) : Throughout K Q s events := by
  induction events generalizing s with
  | nil => trivial
  | cons x xs ih =>
    obtain ⟨hQ, hI⟩ := h s x hs hP.1
    exact ⟨hQ, ih hI hP.2⟩

end Runs

end TryTrust.DecisionCore
