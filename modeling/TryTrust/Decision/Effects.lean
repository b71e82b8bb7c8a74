import TryTrust.Decision.Books

/-!
# What the service's branches make of the books

One purchase is followed through a call of the service; the rest of the books agree.

* `Op.idle`, `Op.quiets`: port calls that touch no book, or only take the purchase out of its own;
* `Mid`, `Quieted`: the books and the pending escalations while a call runs;
* the ends of the branches: `rejected_ends`, `escalated_ends`, `approvedReserve_ends`,
  `approvedRecord_ends`, `releaseSlot_ends`, `resolveRecord_ends`, `expire_ends`,
  `expire_undo_ends`.
-/

namespace TryTrust.DecisionCore

open Conc

/-! ## Port calls -/

/-- The stores with the same books and escalations. -/
structure Same (s t : Stores) : Prop where
  ledger : t.ledger = s.ledger
  openAuthz : t.velocity.openAuthz = s.velocity.openAuthz
  purchases : t.purchases = s.purchases
  escalations : t.escalations = s.escalations

theorem Same.rfl' (s : Stores) : Same s s := ⟨rfl, rfl, rfl, rfl⟩

theorem Same.purchase {s t : Stores} (h : Same s t) (q : String) : t.purchase q = s.purchase q := by
  rw [Stores.purchase, h.purchases]
  rfl

/-- A port call that touches neither the books nor the escalations. -/
def Op.idle : Op → Prop
  | .createPurchase _ => False
  | .updatePurchase _ _ => False
  | .createEscalation _ => False
  | .updateEscalation _ _ _ => False
  | .incrementOpen _ => False
  | .decrementOpen _ => False
  | .reserve _ _ _ _ _ _ => False
  | .release _ _ _ => False
  | _ => True

theorem exec_idle (e : Env) {op : Op} (h : op.idle) (s : Stores) : Same s (exec e op s).2 := by
  cases op with
  | createPurchase | updatePurchase | createEscalation | updateEscalation | incrementOpen
  | decrementOpen | reserve | release => exact h.elim
  | spendView mandateId mandate now =>
    exact ⟨rfl, s.velocity.spendView_openAuthz mandate mandateId now, rfl, rfl⟩
  | recordCooldown m t => exact ⟨rfl, Velocity.recordCooldown_openAuthz _ _ _, rfl, rfl⟩
  | incrementIntent m amount now => cases amount <;> exact ⟨rfl, rfl, rfl, rfl⟩
  | emit x =>
    simp only [exec, Stores.appendEvent]
    split_ifs <;> exact ⟨rfl, rfl, rfl, rfl⟩
  | _ => exact ⟨rfl, rfl, rfl, rfl⟩

theorem sem_idle (e : Env) {c : Call} (h : c.op.idle) (s : Stores) : Same s (sem e c s).2 := by
  unfold sem
  split_ifs
  · exact Same.rfl' s
  · exact exec_idle e h s

theorem sem_fails {e : Env} {site : Site} (h : e.fails site = true) (op : Op) (s : Stores) :
    sem e ⟨site, op⟩ s = (.error .failure, s) := by
  rw [sem, if_pos h]

theorem sem_runs {e : Env} {site : Site} (h : e.fails site = false) (op : Op) (s : Stores) :
    sem e ⟨site, op⟩ s = exec e op s := by
  rw [sem, if_neg (by simp [h])]

section Port

variable {e : Env} {R : Stores → (c : Call) → Except Err (Res c) → Stores → Prop}

theorem flow_call (c : Call) {Q : Except Err (Res c) → Stores → Prop} {s : Stores}
    (hR : R s c (sem e c s).1 (sem e c s).2) (hfail : e.fails c.site = true → Q (.error .failure) s)
    (hrun : e.fails c.site = false → Q (exec e c.op s).1 (exec e c.op s).2) :
    Flow (sem e) R Q (Prog.perform c) s := by
  refine flow_perform hR ?_
  cases h : e.fails c.site with
  | true => rw [sem_fails h]; exact hfail h
  | false => rw [sem_runs h]; exact hrun h

/-- **A port call ends** without an effect when it fails, or as its operation does. -/
theorem flow_port (site : Site) (op : Op) {Q : Except Err op.Answer → Stores → Prop} {s : Stores}
    (hR : R s ⟨site, op⟩ (sem e ⟨site, op⟩ s).1 (sem e ⟨site, op⟩ s).2)
    (hfail : e.fails site = true → Q (.error .failure) s)
    (hrun : e.fails site = false → Q (exec e op s).1 (exec e op s).2) :
    Flow (sem e) R Q (port site op) s :=
  flow_call ⟨site, op⟩ hR hfail hrun

theorem ends_port (site : Site) (op : Op) {Q : Except Err op.Answer → Stores → Prop} {s : Stores}
    (hfail : e.fails site = true → Q (.error .failure) s)
    (hrun : e.fails site = false → Q (exec e op s).1 (exec e op s).2) :
    Ends (sem e) Q (port site op) s :=
  flow_port site op trivial hfail hrun

/-- A port call that answers, before the rest of a program. -/
theorem flow_port_bind {site : Site} {o : Op} {β : Type} {f : o.Answer → Ds β}
    {Q : Except Err β → Stores → Prop} {s : Stores} {a : o.Answer} {t : Stores}
    (hR : R s ⟨site, o⟩ (sem e ⟨site, o⟩ s).1 (sem e ⟨site, o⟩ s).2)
    (hexec : exec e o s = (.ok a, t)) (hfail : e.fails site = true → Q (.error .failure) s)
    (hrun : e.fails site = false → Flow (sem e) R Q (f a) t) :
    Flow (sem e) R Q (port site o >>= f) s := by
  refine flow_bind (P := fun r s' => (e.fails site = true ∧ r = .error .failure ∧ s' = s) ∨
    (e.fails site = false ∧ r = .ok a ∧ s' = t)) ?_ ?_ ?_
  · refine flow_port site o hR (fun h => .inl ⟨h, rfl, rfl⟩) fun h => .inr ⟨h, ?_⟩
    rw [hexec]
    exact ⟨rfl, rfl⟩
  · rintro b s' (⟨_, h, _⟩ | ⟨h, hb, rfl⟩)
    · cases h
    · cases hb
      exact hrun h
  · rintro x s' (⟨h, hx, rfl⟩ | ⟨_, hx, _⟩)
    · cases hx
      exact hfail h
    · cases hx

theorem ends_port_bind {site : Site} {o : Op} {β : Type} {f : o.Answer → Ds β}
    {Q : Except Err β → Stores → Prop} {s : Stores} {a : o.Answer} {t : Stores}
    (hexec : exec e o s = (.ok a, t)) (hfail : e.fails site = true → Q (.error .failure) s)
    (hrun : e.fails site = false → Ends (sem e) Q (f a) t) :
    Ends (sem e) Q (port site o >>= f) s :=
  flow_port_bind trivial hexec hfail hrun

/-- A tried port call, before the rest of a program. -/
theorem flow_port_attempt {site : Site} {o : Op} {β : Type} {f : Except Err o.Answer → Ds β}
    {Q : Except Err β → Stores → Prop} {s : Stores}
    (hR : R s ⟨site, o⟩ (sem e ⟨site, o⟩ s).1 (sem e ⟨site, o⟩ s).2)
    (hfail : e.fails site = true → Flow (sem e) R Q (f (.error .failure)) s)
    (hrun : e.fails site = false → Flow (sem e) R Q (f (exec e o s).1) (exec e o s).2) :
    Flow (sem e) R Q ((port site o).attempt >>= f) s := by
  refine flow_attempt_bind (P := fun r s' => (e.fails site = true ∧ r = .error .failure ∧ s' = s) ∨
    (e.fails site = false ∧ r = (exec e o s).1 ∧ s' = (exec e o s).2)) ?_ ?_
  · exact flow_port site o hR (fun h => .inl ⟨h, rfl, rfl⟩) fun h => .inr ⟨h, rfl, rfl⟩
  · rintro r s' (⟨h, rfl, rfl⟩ | ⟨h, rfl, rfl⟩)
    · exact hfail h
    · exact hrun h

theorem ends_port_attempt {site : Site} {o : Op} {β : Type} {f : Except Err o.Answer → Ds β}
    {Q : Except Err β → Stores → Prop} {s : Stores}
    (hfail : e.fails site = true → Ends (sem e) Q (f (.error .failure)) s)
    (hrun : e.fails site = false → Ends (sem e) Q (f (exec e o s).1) (exec e o s).2) :
    Ends (sem e) Q ((port site o).attempt >>= f) s :=
  flow_port_attempt trivial hfail hrun

end Port

/-- A port call that raises by itself. -/
theorem ends_port_raise {e : Env} {site : Site} {o : Op} {β : Type} {f : o.Answer → Ds β}
    {Q : Except Err β → Stores → Prop} {s t : Stores}
    (hexec : exec e o s = (.error .failure, t)) (hfail : Q (.error .failure) s)
    (hrun : Q (.error .failure) t) : Ends (sem e) Q (port site o >>= f) s := by
  refine flow_bind (P := fun r s' => r = .error .failure ∧ Q (.error .failure) s') ?_ ?_ ?_
  · refine ends_port site o (fun _ => ⟨rfl, hfail⟩) fun _ => ?_
    rw [hexec]
    exact ⟨rfl, hrun⟩
  · rintro b s' ⟨h, _⟩
    cases h
  · rintro x s' ⟨h, hx⟩
    cases h
    exact hx

/-- What the port calls of a program keep, its run keeps. -/
theorem run_sem_keeps {e : Env} {φ : Call → Prop} {I : Stores → Prop}
    (h : ∀ c s, φ c → I s → I (sem e c s).2) {α : Type} {p : Ds α} (hp : p.Calls φ) {s : Stores}
    (hs : I s) : I (p.run (sem e) s).2 :=
  Prog.run_keeps h hp hs

/-! ## While a call runs -/

/-- The books but for one purchase, and the pending escalations. -/
structure Mid (E : Entry) (h : Bool) (x : Option PurchaseRecord) (o : Bool) (s : Stores) :
    Prop where
  booked : Booked E h x o s
  parked : Parked s

/-- The purchase is in no book, or is not stored. -/
def Quieted (E : Entry) (h o : Bool) (s : Stores) : Prop :=
  ∃ x, Mid E h x o s ∧ ∀ p, x = some p → p.Quiet

theorem Mid.same {E : Entry} {h : Bool} {x : Option PurchaseRecord} {o : Bool} {s t : Stores}
    (hM : Mid E h x o s) (hst : Same s t) : Mid E h x o t :=
  ⟨hM.booked.congr hst.ledger hst.openAuthz hst.purchases,
    hM.parked.congr hst.purchases hst.escalations⟩

theorem Quieted.same {E : Entry} {h o : Bool} {s t : Stores} (hQ : Quieted E h o s)
    (hst : Same s t) : Quieted E h o t := by
  obtain ⟨x, hM, hx⟩ := hQ
  exact ⟨x, hM.same hst, hx⟩

theorem Sound.same {s t : Stores} (hS : Sound s) (hst : Same s t) : Sound t :=
  ⟨hS.tallied.congr hst.ledger hst.openAuthz hst.purchases,
    hS.parked.congr hst.purchases hst.escalations⟩

/-- **Between calls** a purchase that is in no book can be told apart. -/
theorem Sound.quieted {s : Stores} (h : Sound s) {pid m : String} {a : ℕ}
    (hx : ∀ p, s.purchase pid = some p → p.Quiet) :
    Quieted ⟨pid, m, a, s.velocity.openAuthz m⟩ false false s :=
  ⟨s.purchase pid, ⟨h.tallied.booked pid m a fun p hp => (hx p hp).1, h.parked⟩, hx⟩

theorem Quieted.sound {E : Entry} {s : Stores} (h : Quieted E false false s) : Sound s := by
  obtain ⟨x, hM, hx⟩ := h
  exact ⟨hM.booked.tallied fun p hp => (hx p hp).1, hM.parked⟩

theorem Mid.sound {E : Entry} {p : PurchaseRecord} {s : Stores} (h : Mid E true (some p) true s)
    (hp : p.booking = some (E.mandate, E.amount)) : Sound s :=
  ⟨h.booked.tallied ⟨p, rfl, hp⟩, h.parked⟩

/-! ### Calls that take the purchase out of its book -/

/-- A port call that touches no book, or takes the purchase out of its own. -/
def Op.quiets (pid : String) : Op → Prop
  | .updatePurchase q c => q = pid ∧ c.status ≠ .pendingCapture ∧ c.reservationId = none
  | .createPurchase p => p.purchaseId = pid ∧ p.Quiet
  | .updateEscalation _ status _ => status ≠ .pending
  | op => op.idle

theorem Op.idle.quiets {op : Op} (h : op.idle) (pid : String) : op.quiets pid := by
  cases op <;> first | exact h | exact h.elim

/-- A purchase set aside is in no book, whatever it was before. -/
theorem Mid.setAside {E : Entry} {h : Bool} {x : Option PurchaseRecord} {o : Bool} {s : Stores}
    (hM : Mid E h x o s) {c : PurchaseChange}
    (hc : c.status ≠ .pendingCapture ∧ c.reservationId = none) :
    Quieted E h o (s.updatePurchase E.pid c) := by
  refine ⟨x.map (·.change c), ⟨hM.booked.updatePurchase c, hM.parked.updatePurchase E.pid hc⟩, ?_⟩
  intro p hp
  obtain ⟨_, _, rfl⟩ := Option.map_eq_some_iff.1 hp
  exact hc

theorem Mid.updateEscalation {E : Entry} {h : Bool} {x : Option PurchaseRecord} {o : Bool}
    {s : Stores} (hM : Mid E h x o s) (id : String) (status : EscalationStatus)
    (hstatus : status ≠ .pending) (decision : String) :
    Mid E h x o (s.updateEscalation id status decision) := by
  obtain ⟨hl, hv, hp⟩ := s.updateEscalation_rest id status decision
  exact ⟨hM.booked.congr hl (by rw [hv]) hp, hM.parked.updateEscalation id hstatus decision⟩

theorem Quieted.exec (e : Env) {E : Entry} {h o : Bool} {s : Stores} {op : Op}
    (hop : op.quiets E.pid) (hQ : Quieted E h o s) : Quieted E h o (exec e op s).2 := by
  cases op with
  | updatePurchase q c =>
    obtain ⟨rfl, hc⟩ := hop
    obtain ⟨x, hM, _⟩ := hQ
    exact hM.setAside hc
  | createPurchase p =>
    obtain ⟨hp, hquiet⟩ := hop
    obtain ⟨x, hM, hx⟩ := hQ
    cases x with
    | some y =>
      have hsome : s.purchase p.purchaseId = some y := by rw [hp]; exact hM.booked.record
      exact ⟨some y, by simpa [DecisionCore.exec, Stores.createPurchase, hsome] using hM, hx⟩
    | none =>
      refine ⟨some p, ⟨hM.booked.createPurchase hp, hM.parked.createPurchase p⟩, ?_⟩
      rintro _ ⟨rfl⟩
      exact hquiet
  | updateEscalation id status decision =>
    obtain ⟨x, hM, hx⟩ := hQ
    exact ⟨x, hM.updateEscalation id status hop decision, hx⟩
  | createEscalation | incrementOpen | decrementOpen | reserve | release => exact hop.elim
  | _ =>
    refine hQ.same (exec_idle e ?_ s)
    exact hop

theorem Quieted.sem (e : Env) {E : Entry} {h o : Bool} (c : Call) (s : Stores)
    (hop : c.op.quiets E.pid) (hQ : Quieted E h o s) : Quieted E h o (sem e c s).2 := by
  unfold DecisionCore.sem
  split_ifs
  · exact hQ
  · exact hQ.exec e hop

/-- A program of such calls. -/
theorem Quieted.ends (e : Env) {E : Entry} {h o : Bool} {α : Type} {p : Ds α}
    (hp : p.Calls fun c => c.op.quiets E.pid) {s : Stores} (hQ : Quieted E h o s) :
    Ends (DecisionCore.sem e) (fun _ s' => Quieted E h o s') p s :=
  ends_calls (fun c s hop hQ => hQ.sem e c s hop) hp hQ

/-- Such a call leaves the reservations and the slots alone. -/
theorem exec_quiets (e : Env) {op : Op} {pid : String} (h : op.quiets pid) (s : Stores) :
    (exec e op s).2.ledger = s.ledger ∧
      (exec e op s).2.velocity.openAuthz = s.velocity.openAuthz := by
  cases op with
  | updatePurchase q c => exact ⟨rfl, rfl⟩
  | createPurchase p =>
    simp only [exec, Stores.createPurchase]
    cases s.purchase p.purchaseId <;> exact ⟨rfl, rfl⟩
  | updateEscalation id status decision =>
    obtain ⟨hl, hv, _⟩ := s.updateEscalation_rest id status decision
    exact ⟨hl, by rw [DecisionCore.exec, hv]⟩
  | createEscalation | incrementOpen | decrementOpen | reserve | release => exact h.elim
  | _ =>
    refine ⟨(exec_idle e ?_ s).ledger, (exec_idle e ?_ s).openAuthz⟩ <;> exact h

theorem sem_quiets (e : Env) {c : Call} {pid : String} (h : c.op.quiets pid) (s : Stores) :
    (sem e c s).2.ledger = s.ledger ∧ (sem e c s).2.velocity.openAuthz = s.velocity.openAuthz := by
  unfold sem
  split_ifs
  · exact ⟨rfl, rfl⟩
  · exact exec_quiets e h s

/-- A program of calls that take the purchase out of its book, with what they leave alone. -/
theorem Quieted.ends_same (e : Env) {E : Entry} {h o : Bool} {α : Type} {p : Ds α}
    (hp : p.Calls fun c => c.op.quiets E.pid) {s : Stores} (hQ : Quieted E h o s) :
    Ends (DecisionCore.sem e) (fun _ s' => Quieted E h o s' ∧ s'.ledger = s.ledger ∧
      s'.velocity.openAuthz = s.velocity.openAuthz) p s :=
  ends_calls (I := fun t => Quieted E h o t ∧ t.ledger = s.ledger ∧
      t.velocity.openAuthz = s.velocity.openAuthz)
    (fun c t hop ht => by
      obtain ⟨hl, ho⟩ := sem_quiets e hop t
      exact ⟨ht.1.sem e c t hop, hl.trans ht.2.1, ho.trans ht.2.2⟩) hp ⟨hQ, rfl, rfl⟩

/-- A program of idle calls. -/
theorem idle_ends (e : Env) {α : Type} {p : Ds α} (hp : p.Calls fun c => c.op.idle) (s : Stores) :
    Ends (sem e) (fun _ s' => Same s s') p s :=
  ends_calls (I := fun s' => Same s s') (fun c s' hop hs => by
    have := sem_idle e hop s'
    exact ⟨this.ledger.trans hs.ledger, this.openAuthz.trans hs.openAuthz,
      this.purchases.trans hs.purchases, this.escalations.trans hs.escalations⟩) hp (Same.rfl' s)

/-! ## Rejections -/

section Calls

variable {K : Deps} {φ : Call → Prop}

theorem emit_calls {site : Site} (h : ∀ x, φ ⟨site, .emit x⟩) (type aggregateId : String)
    (payload : Fields) (now : ℤ) : (emit K site type aggregateId payload now).Calls φ :=
  Prog.calls_perform (h _)

theorem whenever_calls {b : Bool} {p : Ds Unit} (h : p.Calls φ) : (whenever b p).Calls φ := by
  cases b
  · trivial
  · exact h

theorem lift_calls {α : Type} (r : Except Err α) : (lift r).Calls φ := by
  unfold lift
  cases r <;> trivial

end Calls

/-- The rest of a rejection, after its first update. -/
theorem rejectedRest_calls (K : Deps) (intent : Intent) (mandateId purchaseId : String)
    (decision : Decision) (now : ℤ) (updated : Bool) :
    (do
      whenever (!updated) (port .rejectedSave (.createPurchase
        ⟨purchaseId, mandateId, intent, .rejected, decision.reasonCode, none, none⟩))
      emit K .rejectedEmit "purchase.rejected" purchaseId
        [("purchase_id", .str purchaseId), ("intent_jti", .str intent.jti),
          ("reason_code", jsonText (decision.reasonCode.map (·.text)))] now
      whenever (decision.diffAt "auto_suspend").truthy (emit K .rejectedEmitAlert "fraud.alert"
        mandateId [("mandate_id", .str mandateId), ("kind", .str "escalation_flood")] now) :
      Ds Unit).Calls fun c => c.op.quiets purchaseId := by
  refine Prog.calls_bind (whenever_calls (Prog.calls_perform ?_)) fun _ => ?_
  · exact ⟨rfl, by simp [PurchaseRecord.Quiet]⟩
  refine Prog.calls_bind (emit_calls (fun _ => trivial) _ _ _ _) fun _ => ?_
  exact whenever_calls (emit_calls (fun _ => trivial) _ _ _ _)

section Branches

variable {K : Deps} {e : Env} {E : Entry} {h o : Bool} {x : Option PurchaseRecord} {s : Stores}

/-- **A rejection** takes the purchase out of its book, unless its update fails twice. -/
theorem rejected_ends (hM : Mid E h x o s) (intent : Intent) (mandateId : String)
    (decision : Decision) (now : ℤ) :
    Ends (sem e) (fun r s' => Quieted E h o s' ∨ Mid E h x o s' ∧ (∃ y, r = .error y) ∧
        e.fails .rejectedRecover = true ∧ (intent.amount = none ∨
          e.fails .rejectedObserve = true ∨ e.fails .rejectedUpdate = true))
      (rejected K intent mandateId E.pid decision now) s := by
  have hbody : Ends (sem e) (fun r s' => Quieted E h o s' ∨ Mid E h x o s' ∧ (∃ y, r = .error y) ∧
      (intent.amount = none ∨ e.fails .rejectedObserve = true ∨ e.fails .rejectedUpdate = true))
      (rejectedBody K intent mandateId E.pid decision now) s := by
    unfold rejectedBody
    cases hobserved : intent.observed with
    | none =>
      have hamount := Intent.amount_of_observed hobserved
      exact ends_port_raise rfl (.inr ⟨hM, ⟨_, rfl⟩, .inl hamount⟩)
        (.inr ⟨hM.same ⟨rfl, rfl, rfl, rfl⟩, ⟨_, rfl⟩, .inl hamount⟩)
    | some a =>
      refine ends_port_bind rfl (fun hf => .inr ⟨hM, ⟨_, rfl⟩, .inr (.inl hf)⟩) fun _ => ?_
      refine ends_port_bind rfl (fun hf => .inr ⟨hM.same ⟨rfl, rfl, rfl, rfl⟩, ⟨_, rfl⟩,
        .inr (.inr hf)⟩) fun _ => ?_
      have hquiet := (hM.same (t := { s with velocity := s.velocity.incrementIntent mandateId a now })
        ⟨rfl, rfl, rfl, rfl⟩).setAside (c := ⟨.rejected, decision.reasonCode, none, true⟩)
        ⟨by simp, rfl⟩
      exact flow_mono (fun _ _ h => .inl h)
        (hquiet.ends e (rejectedRest_calls K intent mandateId E.pid decision now _))
  unfold rejected
  refine flow_attempt_bind hbody fun r s' hr => ?_
  cases r with
  | ok u =>
    rcases hr with hr | ⟨_, ⟨_, h⟩, _⟩
    · exact flow_pure (.inl hr)
    · cases h
  | error y =>
    refine ends_port_bind rfl (fun hf => ?_) fun _ => flow_pure (.inl ?_)
    · rcases hr with hr | ⟨hr, _, hwhy⟩
      · exact .inl hr
      · exact .inr ⟨hr, ⟨_, rfl⟩, hf, hwhy⟩
    · rcases hr with ⟨_, hr, _⟩ | ⟨hr, _⟩ <;> exact hr.setAside ⟨by simp, rfl⟩

/-- A rejection that is not about the books. -/
theorem rejected_quiets (hQ : Quieted E h o s) (intent : Intent) (mandateId : String)
    (decision : Decision) (now : ℤ) : Ends (sem e) (fun _ s' => Quieted E h o s')
      (rejected K intent mandateId E.pid decision now) s := by
  obtain ⟨x, hM, hx⟩ := hQ
  refine flow_mono (fun r s' hr => ?_) (rejected_ends hM intent mandateId decision now)
  rcases hr with hr | ⟨hr, _⟩
  · exact hr
  · exact ⟨x, hr, hx⟩

/-! ## Escalations -/

theorem observeEscalation_calls {φ : Call → Prop} (hcount : ∀ m t, φ ⟨.escalatedCount,
    .incrementEscalation m t⟩) (hcooldown : ∀ m t, φ ⟨.escalatedCooldown, .recordCooldown m t⟩)
    (mandateId : String) (decision : Decision) (now : ℤ) :
    (observeEscalation K mandateId decision now).Calls φ := by
  refine Prog.calls_bind (Prog.calls_perform (hcount _ _)) fun _ => ?_
  refine Prog.calls_bind (lift_calls _) fun t => ?_
  cases t with
  | none => trivial
  | some t => exact Prog.calls_perform (hcooldown _ _)

/-- The rest of an escalation, after the two records. -/
theorem escalatedRest_calls (r : EscalationRecord) (decision : Decision) (now : ℤ) (pid : String) :
    (do
      emit K .escalatedEmit "purchase.escalated" r.purchaseId
        [("purchase_id", .str r.purchaseId), ("escalation_id", .str r.escalationId),
          ("diff", .obj r.diff)] now
      whenever (stepupRequired decision) (emit K .escalatedEmitStepup "risk.stepup_required"
        r.purchaseId [("purchase_id", .str r.purchaseId), ("level", .str r.level.text),
          ("reason_code", jsonText (decision.reasonCode.map (·.text)))] now)
      whenever (decision.diffAt "cooldown_until").truthy (emit K .escalatedEmitCooldown
        "agent.paused_cooldown" r.mandateId [("mandate_id", .str r.mandateId),
          ("until", decision.diffAt "cooldown_until")] now) :
      Ds Unit).Calls fun c => c.op.quiets pid := by
  refine Prog.calls_bind (emit_calls (fun _ => trivial) _ _ _ _) fun _ => ?_
  refine Prog.calls_bind (whenever_calls (emit_calls (fun _ => trivial) _ _ _ _)) fun _ => ?_
  exact whenever_calls (emit_calls (fun _ => trivial) _ _ _ _)

/-- A purchase that is not stored has no pending escalation. -/
theorem Parked.free (hP : Parked s) {pid : String} (hnone : s.purchase pid = none) (id : String)
    (r : EscalationRecord) (hid : s.escalations id = some r) (hpend : r.status = .pending) :
    r.purchaseId ≠ pid := by
  rintro rfl
  obtain ⟨_, p, hp, _⟩ := hP.parked id r hid hpend
  rw [hnone] at hp
  cases hp

theorem Stores.createEscalation_rest (s : Stores) (r : EscalationRecord) :
    (s.createEscalation r).ledger = s.ledger ∧ (s.createEscalation r).velocity = s.velocity ∧
      (s.createEscalation r).purchases = s.purchases := by
  unfold Stores.createEscalation
  cases s.escalations r.escalationId <;> exact ⟨rfl, rfl, rfl⟩

theorem Stores.createPurchase_rest (s : Stores) (p : PurchaseRecord) :
    (s.createPurchase p).ledger = s.ledger ∧ (s.createPurchase p).velocity = s.velocity ∧
      (s.createPurchase p).escalations = s.escalations := by
  unfold Stores.createPurchase
  cases s.purchase p.purchaseId <;> exact ⟨rfl, rfl, rfl⟩

/-- **An escalation** of a new purchase parks it. -/
theorem escalated_ends (r : EscalationRecord) (hM : Mid E h none o s) (hpid : r.purchaseId = E.pid)
    (decision : Decision) (now : ℤ) : Ends (sem e) (fun _ s' => Quieted E h o s')
      (escalated K r decision now) s := by
  have hquiet : ∀ {t : Stores}, Same s t → Quieted E h o t := fun hst =>
    ⟨none, hM.same hst, fun p hp => by cases hp⟩
  have hbody : Ends (sem e) (fun _ s' => Quieted E h o s') (escalatedBody K r decision now) s := by
    unfold escalatedBody
    cases hamount : r.intent.amount with
    | none => exact ends_port_raise rfl (hquiet (Same.rfl' s)) (hquiet ⟨rfl, rfl, rfl, rfl⟩)
    | some a =>
      refine ends_port_bind rfl (fun _ => hquiet (Same.rfl' s)) fun _ => ?_
      refine flow_bind (idle_ends e (observeEscalation_calls (fun _ _ => trivial)
        (fun _ _ => trivial) r.mandateId decision now) _)
        (fun _ t ht => ?_) fun _ t ht => hquiet ⟨ht.ledger, ht.openAuthz, ht.purchases, ht.escalations⟩
      have hst : Same s t := ⟨ht.ledger, ht.openAuthz, ht.purchases, ht.escalations⟩
      refine ends_port_bind rfl (fun _ => hquiet hst) fun _ => ?_
      let p : PurchaseRecord := ⟨r.purchaseId, r.mandateId, r.intent, .awaitingEscalation,
        decision.reasonCode, none, some r.escalationId⟩
      have hp : p.Quiet := ⟨by simp [p], rfl⟩
      have hMt := hM.same hst
      have hcreated : Mid E h (some p) o (t.createPurchase p) :=
        ⟨hMt.booked.createPurchase hpid, hMt.parked.createPurchase p⟩
      refine ends_port_bind rfl (fun _ => ⟨some p, hcreated, fun _ h => by cases h; exact hp⟩)
        fun _ => ?_
      -- the purchase was not stored, so no other escalation is pending for it
      have hfree : ∀ id r', (t.createPurchase p).escalations id = some r' → r'.status = .pending →
          r'.purchaseId ≠ r.purchaseId := by
        intro id r' hid hpend
        rw [(t.createPurchase_rest p).2.2] at hid
        rw [hpid]
        exact hMt.parked.free hMt.booked.record id r' hid hpend
      have hstored : (t.createPurchase p).purchase r.purchaseId = some p := by
        rw [hpid]
        exact hcreated.booked.record
      obtain ⟨hl, hv, hps⟩ := (t.createPurchase p).createEscalation_rest r
      have hescalated : Mid E h (some p) o ((t.createPurchase p).createEscalation r) :=
        ⟨hcreated.booked.congr hl (by rw [hv]) hps,
          hcreated.parked.createEscalation hstored ⟨hp, rfl, rfl⟩ hfree⟩
      exact Quieted.ends e (escalatedRest_calls r decision now E.pid)
        ⟨some p, hescalated, fun _ h => by cases h; exact hp⟩
  unfold escalated
  refine flow_attempt_bind hbody fun y s' hs' => ?_
  cases y with
  | ok u => exact flow_pure hs'
  | error y =>
    refine Quieted.ends e ?_ hs'
    refine Prog.calls_bind (Prog.calls_perform ⟨hpid, by simp, rfl⟩) fun _ => ?_
    exact Prog.calls_bind (Prog.calls_perform (by simp [Op.quiets])) fun _ => trivial

/-! ## Reservations -/

/-- Without a reservation the amount plays no part. -/
theorem Mid.reamount (hM : Mid E false x o s) (a : ℕ) : Mid { E with amount := a } false x o s :=
  ⟨{ hM.booked with
      reserved := fun m => (hM.booked.reserved m).trans (by simp)
      own := hM.booked.own }, hM.parked⟩

/-- A reservation that the port grants is of the purchase's own id. -/
structure Granted (e : Env) (s : Stores) (site : Site) (E : Entry) (mandate : Mandate)
    (intent : Intent) (a : ℕ) : Prop where
  amount : intent.amount = some a
  port : e.fails site = false
  granted : ∃ b, mandate.totalBudget = some b ∧
    (s.ledger.reserve E.mandate a b mandate.maxTxn (resId E.pid) E.pid).1 = some (resId E.pid)

/-- Without a grant nothing is booked. -/
theorem reserve_ends (hM : Mid E false x false s) (site : Site) (mandate : Mandate)
    (intent : Intent) : Ends (sem e) (fun r s' => s'.escalations = s.escalations ∧
        ((∃ y, r = .error y) ∧ Mid E false x false s' ∧
            (∀ m, s'.ledger.reserved m = s.ledger.reserved m) ∨
          ∃ a, Granted e s site E mandate intent a ∧ r = .ok (resId E.pid) ∧
            Mid { E with amount := a } true x false s'))
      (reserve site mandate E.mandate intent E.pid) s := by
  unfold reserve
  cases hamount : intent.amount with
  | none =>
    exact ends_port_raise rfl ⟨rfl, .inl ⟨⟨_, rfl⟩, hM, fun _ => rfl⟩⟩
      ⟨rfl, .inl ⟨⟨_, rfl⟩, hM, fun _ => rfl⟩⟩
  | some a =>
    cases hbudget : mandate.totalBudget with
    | none =>
      exact ends_port_raise rfl ⟨rfl, .inl ⟨⟨_, rfl⟩, hM, fun _ => rfl⟩⟩
        ⟨rfl, .inl ⟨⟨_, rfl⟩, hM, fun _ => rfl⟩⟩
    | some b =>
      refine ends_port_bind rfl (fun _ => ⟨rfl, .inl ⟨⟨_, rfl⟩, hM, fun _ => rfl⟩⟩) fun hport => ?_
      rcases (hM.reamount a).booked.reserve b mandate.maxTxn with ⟨hnone, hB⟩ | ⟨hsome, hB⟩
      · rw [show (s.ledger.reserve E.mandate a b mandate.maxTxn ("reservation:" ++ E.pid)
          E.pid).1 = none from hnone]
        have hMn : Mid { E with amount := a } false x false _ := ⟨hB, hM.parked.congr rfl rfl⟩
        refine flow_raise ⟨rfl, .inl ⟨⟨_, rfl⟩, hMn.reamount E.amount, fun m => ?_⟩⟩
        -- both totals are those of the same purchases
        have hbefore := hM.booked.reserved m
        have hafter := hB.reserved m
        simp only [Bool.false_eq_true, false_and, if_false] at hbefore hafter
        exact hafter.trans hbefore.symm
      · rw [show (s.ledger.reserve E.mandate a b mandate.maxTxn ("reservation:" ++ E.pid)
          E.pid).1 = some (resId E.pid) from hsome]
        exact flow_pure ⟨rfl, .inr ⟨a, ⟨hamount, hport, b, hbudget, hsome⟩, rfl, hB,
          hM.parked.congr rfl rfl⟩⟩

/-- Up to the reservation nothing is booked. -/
theorem approvedReserve_ends (hM : Mid E false x false s) (mandate : Mandate) (intent : Intent)
    (now : ℤ) : Ends (sem e) (fun r s' => (∃ y, r = .error y) ∧ Mid E false x false s' ∨
        ∃ a, e.fails .approvedObserve = false ∧
          Granted e s .approvedReserve E mandate intent a ∧
          r = .ok (resId E.pid) ∧ Mid { E with amount := a } true x false s')
      (approvedReserve mandate E.mandate intent E.pid now) s := by
  unfold approvedReserve
  cases hobserved : intent.observed with
  | none =>
    exact ends_port_raise rfl (.inl ⟨⟨_, rfl⟩, hM⟩)
      (.inl ⟨⟨_, rfl⟩, hM.same ⟨rfl, rfl, rfl, rfl⟩⟩)
  | some a =>
    refine ends_port_bind rfl (fun _ => .inl ⟨⟨_, rfl⟩, hM⟩) fun hobserve => ?_
    have hM' : Mid E false x false
        { s with velocity := s.velocity.incrementIntent E.mandate a now } :=
      hM.same ⟨rfl, rfl, rfl, rfl⟩
    refine flow_mono (fun r s' hr => ?_) (reserve_ends hM' .approvedReserve mandate intent)
    rcases hr with ⟨_, ⟨hy, hMy, _⟩ | ⟨a', hg, hr, hMr⟩⟩
    · exact .inl ⟨hy, hMy⟩
    · exact .inr ⟨a', hobserve, ⟨hg.amount, hg.port, hg.granted⟩, hr, hMr⟩

/-- How far the record of an approval came. -/
inductive Recorded (e : Env) (E : Entry) (p : PurchaseRecord) :
    Except Err Unit → Stores → Prop where
  | unsaved {t : Stores} : e.fails .approvedSave = true → Mid E true none false t →
      Recorded e E p (.error .failure) t
  | unopened {t : Stores} : e.fails .approvedSave = false → e.fails .approvedOpen = true →
      Mid E true (some p) false t → Recorded e E p (.error .failure) t
  | silent {t : Stores} : e.fails .approvedSave = false → e.fails .approvedOpen = false →
      e.fails .approvedEmit = true → Mid E true (some p) true t →
      Recorded e E p (.error .failure) t
  | whole {t : Stores} : e.fails .approvedSave = false → e.fails .approvedOpen = false →
      e.fails .approvedEmit = false → Mid E true (some p) true t → Recorded e E p (.ok ()) t

theorem Mid.emit (hM : Mid E h x o s) (ev : OutboxEvent) : Mid E h x o (s.appendEvent ev) :=
  hM.same (exec_idle ⟨fun _ => false, .ok .owned, fun _ _ => false⟩
    (show Op.idle (.emit ev) from trivial) s)

theorem Mid.incrementOpen (hM : Mid E h x false s) :
    Mid E h x true { s with velocity := s.velocity.incrementOpen E.mandate } :=
  ⟨hM.booked.incrementOpen, hM.parked.congr rfl rfl⟩

theorem Mid.decrementOpen (hM : Mid E h x o s) (ho : o = true ∨ E.others = 0) :
    Mid E h x false { s with velocity := s.velocity.decrementOpen E.mandate } :=
  ⟨hM.booked.decrementOpen ho, hM.parked.congr rfl rfl⟩

theorem approvedRecord_ends (hM : Mid E true none false s) (intent : Intent) (now : ℤ) :
    Ends (sem e) (Recorded e E
        ⟨E.pid, E.mandate, intent, .pendingCapture, none, some (resId E.pid), none⟩)
      (approvedRecord K E.mandate intent E.pid (resId E.pid) now) s := by
  unfold approvedRecord
  refine ends_port_bind rfl (fun hf => .unsaved hf hM) fun hsave => ?_
  have hsaved := hM.booked.createPurchase
    (p := ⟨E.pid, E.mandate, intent, .pendingCapture, none, some (resId E.pid), none⟩) rfl
  have hMs : Mid E true (some _) false _ := ⟨hsaved, hM.parked.createPurchase _⟩
  refine ends_port_bind rfl (fun hf => .unopened hsave hf hMs) fun hopen => ?_
  refine ends_port .approvedEmit (.emit _) (fun hf => .silent hsave hopen hf hMs.incrementOpen) fun hemit => ?_
  exact .whole hsave hopen hemit (hMs.incrementOpen.emit _)

/-- How a held reservation is given back. -/
inductive Released (e : Env) (relSite openSite : Site) (E : Entry) (x : Option PurchaseRecord)
    (o : Bool) : Except Err Unit → Stores → Prop where
  | kept {t : Stores} : e.fails relSite = true → Mid E true x o t →
      Released e relSite openSite E x o (.error .failure) t
  | slotKept {t : Stores} : e.fails relSite = false → e.fails openSite = true → Mid E false x o t →
      Released e relSite openSite E x o (.error .failure) t
  | whole {t : Stores} : e.fails relSite = false → e.fails openSite = false → Mid E false x o t →
      Released e relSite openSite E x o (.ok ())
        { t with velocity := t.velocity.decrementOpen E.mandate }

theorem releaseSlot_ends (hM : Mid E true x o s) (relSite openSite : Site) {intent : Intent}
    {a : ℕ} (ha : intent.amount = some a) : Ends (sem e) (Released e relSite openSite E x o)
      (releaseSlot relSite openSite E.mandate intent (resId E.pid)) s := by
  unfold releaseSlot
  rw [ha]
  obtain ⟨hreleased, hB⟩ := hM.booked.release
  refine ends_port_bind rfl (fun hf => .kept hf hM) fun hrel => ?_
  rw [hreleased]
  have hMr : Mid E false x o _ := ⟨hB, hM.parked.congr rfl rfl⟩
  refine ends_port openSite (.decrementOpen E.mandate) (fun hf => .slotKept hrel hf hMr) fun hopen => ?_
  exact .whole hrel hopen hMr

/-! ## Compensation -/

theorem emit_quiets {site : Site} (type aggregateId : String) (payload : Fields) (now : ℤ)
    (pid : String) :
    (emit K site type aggregateId payload now).Calls fun c => c.op.quiets pid :=
  emit_calls (fun _ => trivial) _ _ _ _

/-- The record of an expiry without a release. -/
theorem expireRecord_quiets (record : EscalationRecord) (reason : ReasonCode) (now : ℤ) :
    (expireRecord K record reason none false now).Calls fun c => c.op.quiets record.purchaseId := by
  unfold expireRecord
  refine Prog.calls_bind trivial fun _ => ?_
  refine Prog.calls_bind (Prog.calls_perform (by simp [Op.quiets])) fun _ => ?_
  refine Prog.calls_bind (Prog.calls_perform ⟨rfl, by simp, by simp⟩) fun _ => ?_
  exact emit_quiets _ _ _ _ _

/-- What `_expire_and_compensate` finds to release under a purchase that is in no book. -/
theorem quiet_releaseId {x : Option PurchaseRecord} (hx : ∀ p, x = some p → p.Quiet)
    (reservationId : Option String) :
    ((x.bind fun p => p.reservationId.filter (· ≠ "")) <|> reservationId) = reservationId := by
  cases x with
  | none => rfl
  | some p =>
    rw [Option.bind_some, (hx p rfl).2]
    rfl

/-- **An expiry without a reservation** keeps the books. -/
theorem expire_ends (hQ : Quieted E h o s) (record : EscalationRecord)
    (hpid : record.purchaseId = E.pid) (reason : ReasonCode) (now : ℤ) :
    Ends (sem e) (fun _ s' => Quieted E h o s' ∧ s'.ledger = s.ledger ∧
      s'.velocity.openAuthz = s.velocity.openAuthz) (expire K record reason none now) s := by
  unfold expire
  refine ends_port_attempt (fun _ => flow_pure ⟨hQ, rfl, rfl⟩) fun _ => ?_
  obtain ⟨x, hM, hx⟩ := hQ
  dsimp only [exec]
  rw [hpid, hM.booked.record, quiet_releaseId hx]
  refine flow_attempt_bind (P := fun r s' => r = .ok false ∧ s' = s) ⟨rfl, rfl⟩ ?_
  rintro _ _ ⟨rfl, rfl⟩
  have hcalls := expireRecord_quiets (K := K) record reason now
  rw [hpid] at hcalls
  refine flow_attempt_bind (Quieted.ends_same e hcalls ⟨x, hM, hx⟩) fun r s' hs' => ?_
  cases r <;> exact flow_pure hs'

/-- How far the record of a resolution came. -/
inductive ResolveRecorded (e : Env) (E : Entry) (p p' : PurchaseRecord) :
    Except Err Unit → Stores → Prop where
  | unsaved {t : Stores} : e.fails .resolveUpdateEscalation = true ∨
      e.fails .resolveUpdatePurchase = true → Mid E true (some p) false t →
      ResolveRecorded e E p p' (.error .failure) t
  | unopened {t : Stores} : e.fails .resolveUpdateEscalation = false →
      e.fails .resolveUpdatePurchase = false → e.fails .resolveOpen = true →
      Mid E true (some p') false t → ResolveRecorded e E p p' (.error .failure) t
  | silent {t : Stores} : e.fails .resolveUpdateEscalation = false →
      e.fails .resolveUpdatePurchase = false → e.fails .resolveOpen = false →
      e.fails .resolveEmit = true ∨ e.fails .resolveEmitPurchase = true →
      Mid E true (some p') true t → ResolveRecorded e E p p' (.error .failure) t
  | whole {t : Stores} : e.fails .resolveUpdateEscalation = false →
      e.fails .resolveUpdatePurchase = false → e.fails .resolveOpen = false →
      e.fails .resolveEmit = false → e.fails .resolveEmitPurchase = false →
      Mid E true (some p') true t → ResolveRecorded e E p p' (.ok ()) t

theorem resolveRecord_ends {p : PurchaseRecord} (hM : Mid E true (some p) false s)
    {record : EscalationRecord} {r : ResolveRequest}
    (hid : s.escalations r.escalationId = some record) (hpend : record.status = .pending)
    (hpid : record.purchaseId = E.pid) (hm : record.mandateId = E.mandate) :
    Ends (sem e) (ResolveRecorded e E p
        (p.change ⟨.pendingCapture, none, some (resId E.pid), false⟩))
      (resolveRecord K record (resId E.pid) r) s := by
  unfold resolveRecord
  rw [hpid, hm]
  refine ends_port_bind rfl (fun hf => .unsaved (.inl hf) hM) fun hesc => ?_
  have hMe := hM.updateEscalation r.escalationId .resolved (by simp) "APPROVE"
  refine ends_port_bind rfl (fun hf => .unsaved (.inr hf) hMe) fun hpur => ?_
  -- its own escalation is closed and no other is pending for the purchase
  have hfree : ∀ id r', (s.updateEscalation r.escalationId .resolved "APPROVE").escalations id =
      some r' → r'.status = .pending → r'.purchaseId ≠ E.pid := by
    intro id r' hid' hpend' hp'
    rw [Stores.escalations_update] at hid'
    split_ifs at hid' with heq
    · obtain ⟨_, _, rfl⟩ := Option.map_eq_some_iff.1 hid'
      cases hpend'
    · exact heq (hM.parked.alone _ _ _ _ hid' hid hpend' hpend (hp'.trans hpid.symm))
  have hMp : Mid E true (some (p.change ⟨.pendingCapture, none, some (resId E.pid), false⟩)) false
      _ := ⟨hMe.booked.updatePurchase _, hMe.parked.updatePurchase_free _ hfree⟩
  refine ends_port_bind rfl (fun hf => .unopened hesc hpur hf hMp) fun hopen => ?_
  have hMo := hMp.incrementOpen
  refine ends_port_bind rfl (fun hf => .silent hesc hpur hopen (.inl hf) hMo) fun hemit => ?_
  refine ends_port .resolveEmitPurchase (.emit _)
    (fun hf => .silent hesc hpur hopen (.inr hf) (hMo.emit _)) fun hemit' => ?_
  exact .whole hesc hpur hopen hemit hemit' ((hMo.emit _).emit _)

/-- The release of `_expire_and_compensate` is not reached or fails. -/
def Env.misses (e : Env) : Prop :=
  e.fails .expireReadPurchase = true ∨ e.fails .expireRelease = true

/-- How far the compensation of a reservation came. -/
inductive Undone (e : Env) (E : Entry) (p : PurchaseRecord) (o : Bool) : Stores → Prop where
  | kept {t : Stores} : e.misses → e.fails .expireUndoRelease = true → Mid E true (some p) o t →
      Undone e E p o t
  | slotKept {t : Stores} :
      (e.misses ∧ e.fails .expireUndoRelease = false ∧ e.fails .expireUndoOpen = true) ∨
        (¬ e.misses ∧ e.fails .expireReleaseOpen = true) →
      Mid E false (some p) o t → Undone e E p o t
  | unrecorded {t : Stores} :
      (e.misses ∧ e.fails .expireUndoRelease = false ∧ e.fails .expireUndoOpen = false) ∨
        (¬ e.misses ∧ e.fails .expireReleaseOpen = false ∧
          (e.fails .expireUpdateEscalation = true ∨ e.fails .expireUpdatePurchase = true)) →
      ((o = true ∨ E.others = 0) → Mid E false (some p) false t) → Undone e E p o t
  | whole {t : Stores} : ¬ e.misses → e.fails .expireReleaseOpen = false →
      e.fails .expireUpdateEscalation = false → e.fails .expireUpdatePurchase = false →
      ((o = true ∨ E.others = 0) → Quieted E false false t) → Undone e E p o t

section Undo

variable {p : PurchaseRecord} {record : EscalationRecord} {a : ℕ}

/-- The release that the `except` clause makes. -/
theorem expireRecover_ends (hM : Mid E true (some p) o s) (hm : record.mandateId = E.mandate)
    (ha : record.intent.amount = some a) (hmiss : e.misses) :
    Ends (sem e) (fun _ s' => Undone e E p o s')
      (expireRecover record (some (resId E.pid)) false) s := by
  unfold expireRecover
  rw [hm]
  refine flow_attempt_bind (releaseSlot_ends hM .expireUndoRelease .expireUndoOpen ha) ?_
  intro r s' hr
  refine flow_pure ?_
  cases hr with
  | kept h hM' => exact .kept hmiss h hM'
  | slotKept h h' hM' => exact .slotKept (.inl ⟨hmiss, h, h'⟩) hM'
  | whole h h' hM' => exact .unrecorded (.inl ⟨hmiss, h, h'⟩) hM'.decrementOpen

/-- The record of an expiry after the release. -/
theorem expireRecord_ends (hM : Mid E false (some p) o s) (hmiss : ¬ e.misses)
    (hpid : record.purchaseId = E.pid) (hm : record.mandateId = E.mandate) (reason : ReasonCode)
    (releaseId : Option String) (now : ℤ) : Ends (sem e) (fun _ s' => Undone e E p o s')
      (expireRecord K record reason releaseId true now) s := by
  unfold expireRecord
  rw [hpid, hm]
  refine ends_port_bind (o := .decrementOpen E.mandate) rfl
    (fun hf => .slotKept (.inr ⟨hmiss, hf⟩) hM) fun hopen => ?_
  have hfreed := fun ho : o = true ∨ E.others = 0 => hM.decrementOpen ho
  refine ends_port_bind rfl
    (fun hf => .unrecorded (.inr ⟨hmiss, hopen, .inl hf⟩) hfreed) fun hesc => ?_
  have hclosed := fun ho => (hfreed ho).updateEscalation record.escalationId .expired
    (by simp) reason.text
  refine ends_port_bind rfl
    (fun hf => .unrecorded (.inr ⟨hmiss, hopen, .inr hf⟩) hclosed) fun hpur => ?_
  have hquiet := fun ho => (hclosed ho).setAside (c := ⟨.compensated, some reason, none, false⟩)
    ⟨by simp, rfl⟩
  refine flow_mono (fun _ _ h => .whole hmiss hopen hesc hpur h) (?_ : Ends (sem e) (fun _ s' =>
    (o = true ∨ E.others = 0) → Quieted E false false s') _ _)
  by_cases ho : o = true ∨ E.others = 0
  · exact flow_mono (fun _ _ h _ => h) (Quieted.ends e (emit_quiets _ _ _ _ E.pid) (hquiet ho))
  · exact flow_mono (fun _ _ _ h => absurd h ho)
      (idle_ends e (emit_calls (φ := fun c => c.op.idle) (fun _ => trivial) _ _ _ _) _)

/-- **The compensation of a reservation.** -/
theorem expire_undo_ends (hM : Mid E true (some p) o s)
    (hp : p.reservationId = none ∨ p.reservationId = some (resId E.pid))
    (hpid : record.purchaseId = E.pid) (hm : record.mandateId = E.mandate)
    (ha : record.intent.amount = some a) (reason : ReasonCode) (now : ℤ) :
    Ends (sem e) (fun _ s' => Undone e E p o s')
      (expire K record reason (some (resId E.pid)) now) s := by
  unfold expire
  refine ends_port_attempt (fun hf => expireRecover_ends hM hm ha (.inl hf)) fun hread => ?_
  have hrelease : (((some p).bind fun p => p.reservationId.filter (· ≠ "")) <|>
      some (resId E.pid)) = some (resId E.pid) := by
    rcases hp with hp | hp
    · rw [Option.bind_some, hp]
      rfl
    · rw [Option.bind_some, hp]
      simp [Option.filter, resId_ne_empty]
  dsimp only [exec]
  rw [hpid, hM.booked.record, hrelease]
  unfold expireRelease
  dsimp only
  refine ends_port_attempt (fun hf => expireRecover_ends hM hm ha (.inr hf)) fun hrel => ?_
  have hmiss : ¬ e.misses := by simp [Env.misses, hread, hrel]
  obtain ⟨hreleased, hB⟩ := hM.booked.release
  rw [ha, hm]
  dsimp only [exec]
  rw [hreleased]
  refine flow_attempt_bind (expireRecord_ends ⟨hB, hM.parked.congr rfl rfl⟩ hmiss hpid hm reason (some (resId E.pid)) now) fun r s' hs' => ?_
  cases r <;> exact flow_pure hs'

end Undo

end Branches

end TryTrust.DecisionCore
