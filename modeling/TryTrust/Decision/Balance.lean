import TryTrust.Decision.Paths

/-!
# The books of purchases, reservations and slots agree

* `Env.recordsWell`, `Env.resolvesWell`: which failing port calls after a reservation leave the
  books in agreement; `Reserves`, `ResolveReserves`: the calls that make one; `Careful`, the
  condition on an event;
* `verify_sound`, `resolve_sound`: one call keeps the invariant;
* **`reservations_balanced`**: in every run whose events are careful, from empty stores, the books
  agree in every state; `reservation_orphaned`: two intents under one purchase id.
-/

namespace TryTrust.DecisionCore

open Conc

/-! ## The condition -/

/-- The purchase is rewritten by a rejection. -/
def Env.rewrites (e : Env) : Prop :=
  (e.fails .rejectedObserve = false ∧ e.fails .rejectedUpdate = false) ∨
    e.fails .rejectedRecover = false

/-- **`verify` after its reservation**: the purchase is in all three books, or in none. `others` is
the number of the mandate's open slots. -/
def Env.recordsWell (e : Env) (others : ℕ) : Prop :=
  if e.fails .approvedSave then
    e.fails .approvedUndoRelease = false ∧ (e.fails .approvedUndoOpen = true ∨ others = 0)
  else if e.fails .approvedOpen then
    e.fails .approvedUndoRelease = false ∧ e.fails .approvedUndoOpen = false ∧ others = 0 ∧
      e.rewrites
  else if e.fails .approvedEmit then
    e.fails .approvedUndoRelease = true ∨ (e.fails .approvedUndoOpen = false ∧ e.rewrites)
  else True

/-- The compensation reaches the purchase. -/
def Env.compensates (e : Env) : Prop :=
  ¬ e.misses ∧ e.fails .expireReleaseOpen = false ∧ e.fails .expireUpdateEscalation = false ∧
    e.fails .expireUpdatePurchase = false

/-- **`resolve_escalation` after its reservation**, in the same way. -/
def Env.resolvesWell (e : Env) (others : ℕ) : Prop :=
  if e.fails .resolveUpdateEscalation ∨ e.fails .resolveUpdatePurchase then
    (¬ e.misses ∧ (e.fails .expireReleaseOpen = true ∨ others = 0)) ∨
      (e.misses ∧ e.fails .expireUndoRelease = false ∧
        (e.fails .expireUndoOpen = true ∨ others = 0))
  else if e.fails .resolveOpen then e.compensates ∧ others = 0
  else if e.fails .resolveEmit ∨ e.fails .resolveEmitPurchase then
    e.compensates ∨ (e.misses ∧ e.fails .expireUndoRelease = true)
  else True

/-- A purchase of a mandate, with the mandate's open slots. -/
def Stores.entry (s : Stores) (pid mandateId : String) : Entry :=
  ⟨pid, mandateId, 0, s.velocity.openAuthz mandateId⟩

/-- The call of `verify` makes a reservation of `a` under the mandate. -/
structure Reserves (K : Deps) (e : Env) (s : Stores) (r : VerifyRequest) (mandate : Mandate)
    (a : ℕ) : Prop where
  claims : e.claims
  unseen : e.fails .verifyReadPurchase = false ∧ s.purchaseByIntent r.intent.jti = none
  gated : ∃ offer d, Gated K e s r mandate offer d ∧ d.decision = .approved
  observed : e.fails .approvedObserve = false
  granted : Granted e s .approvedReserve (s.entry r.pid mandate.id) mandate r.intent a

/-- The call of `resolve_escalation` makes a reservation of `a`. -/
structure ResolveReserves (K : Deps) (e : Env) (s : Stores) (r : ResolveRequest)
    (record : EscalationRecord) (mandate : Mandate) (a : ℕ) : Prop where
  pending : s.escalations r.escalationId = some record ∧ record.status = .pending
  authorized : Authorized K e s r record mandate
  granted : Granted e s .resolveReserve (s.entry record.purchaseId record.mandateId) mandate
    record.intent a

/-- **The condition on an event**: a new intent comes under a new purchase id, and the port calls
after a reservation fail in a pattern that is undone. -/
def Careful (K : Deps) (s : Stores) : Event → Prop
  | .verify r e =>
    (e.claims → e.fails .verifyReadPurchase = false → s.purchaseByIntent r.intent.jti = none →
      s.purchase r.pid = none) ∧
    ∀ mandate a, Reserves K e s r mandate a → e.recordsWell (s.velocity.openAuthz mandate.id)
  | .resolve r e => ∀ record mandate a, ResolveReserves K e s r record mandate a →
    e.resolvesWell (s.velocity.openAuthz record.mandateId)
  | .others _ _ => True

section Sound

variable {K : Deps} {e : Env} {E : Entry} {s : Stores}

/-! ## `verify` -/

theorem quieted_none {h o : Bool} (hM : Mid E h none o s) : Quieted E h o s :=
  ⟨none, hM, fun _ h => by cases h⟩

/-- A rejection that rewrites the purchase. -/
theorem rejected_rewrites {p : PurchaseRecord} (hM : Mid E false (some p) false s)
    {intent : Intent} {a : ℕ} (ha : intent.amount = some a) (hw : e.rewrites) (mandateId : String)
    (decision : Decision) (now : ℤ) : Ends (sem e) (fun _ s' => Sound s')
      (rejected K intent mandateId E.pid decision now) s := by
  refine flow_mono (fun r s' hr => ?_) (rejected_ends hM intent mandateId decision now)
  rcases hr with hr | ⟨_, _, hrecover, hwhy⟩
  · exact hr.sound
  · exfalso
    rcases hw with ⟨h1, h2⟩ | h3
    · simp [ha, h1, h2] at hwhy
    · rw [hrecover] at h3
      cases h3

/-- The rest of `_approved` after a failed record, when the pattern is undone. -/
theorem unrecorded_sound {x : Except Err Unit} {intent : Intent} {a : ℕ} {now : ℤ}
    (ha : intent.amount = some a) (hE : E.amount = a) (hw : e.recordsWell E.others)
    (hr : Recorded e E ⟨E.pid, E.mandate, intent, .pendingCapture, none, some (resId E.pid), none⟩
      x s) (hx : x = .error .failure) (decision : Decision) :
    Ends (sem e) (fun _ s' => Sound s') (do
      releaseSlot .approvedUndoRelease .approvedUndoOpen E.mandate intent (resId E.pid)
      rejected K intent E.mandate E.pid decision now) s := by
  have hbooking : (PurchaseRecord.mk E.pid E.mandate intent .pendingCapture none
      (some (resId E.pid)) none).booking = some (E.mandate, E.amount) := by
    simp [PurchaseRecord.booking, ha, hE]
  cases hr with
  | unsaved hsave hM =>
    simp only [Env.recordsWell, hsave, if_true] at hw
    refine flow_bind (releaseSlot_ends hM .approvedUndoRelease .approvedUndoOpen ha) ?_ ?_
    · intro _ t ht
      cases ht with
      | whole _ hopen hM' =>
        have hzero : E.others = 0 := by simpa [hopen] using hw.2
        exact flow_mono (fun _ _ h => h.sound)
          (rejected_quiets (quieted_none (hM'.decrementOpen (.inr hzero))) _ _ _ _)
    · intro y t ht
      cases ht with
      | kept hrel _ => simp [hrel] at hw
      | slotKept _ _ hM' => exact (quieted_none hM').sound
  | unopened hsave hopen hM =>
    simp only [Env.recordsWell, hsave, hopen, if_true, Bool.false_eq_true, if_false] at hw
    obtain ⟨hrel, hundo, hzero, hrewrites⟩ := hw
    refine flow_bind (releaseSlot_ends hM .approvedUndoRelease .approvedUndoOpen ha) ?_ ?_
    · intro _ t ht
      cases ht with
      | whole _ _ hM' => exact rejected_rewrites (hM'.decrementOpen (.inr hzero)) ha hrewrites _ _ _
    · intro y t ht
      cases ht with
      | kept h _ => simp [hrel] at h
      | slotKept _ h _ => simp [hundo] at h
  | silent hsave hopen hemit hM =>
    simp only [Env.recordsWell, hsave, hopen, hemit, if_true, Bool.false_eq_true, if_false] at hw
    refine flow_bind (releaseSlot_ends hM .approvedUndoRelease .approvedUndoOpen ha) ?_ ?_
    · intro _ t ht
      cases ht with
      | whole hrel hundo hM' =>
        have hrewrites : e.rewrites := by simpa [hrel, hundo] using hw
        exact rejected_rewrites (hM'.decrementOpen (.inl rfl)) ha hrewrites _ _ _
    · intro y t ht
      cases ht with
      | kept _ hM' => exact hM'.sound hbooking
      | slotKept hrel hundo _ => simp [hrel, hundo] at hw
  | whole => cases hx

/-- `_approved` keeps the invariant when the pattern of its failing calls is undone. -/
theorem approved_sound (hM : Mid E false none false s) {mandate : Mandate} {intent : Intent}
    {now : ℤ} (hw : ∀ a, e.fails .approvedObserve = false →
      Granted e s .approvedReserve E mandate intent a → e.recordsWell E.others) :
    Ends (sem e) (fun _ s' => Sound s') (approved K mandate E.mandate intent E.pid now) s := by
  unfold approved
  refine flow_attempt_bind (approvedReserve_ends hM mandate intent now) fun r t hr => ?_
  rcases hr with ⟨⟨y, rfl⟩, hM'⟩ | ⟨a, hobserve, hgrant, rfl, hM'⟩
  · cases y <;>
      exact flow_mono (fun _ _ h => h.sound) (rejected_quiets (quieted_none hM') _ _ _ _)
  · refine flow_attempt_bind (approvedRecord_ends hM' intent now) fun r t' hr => ?_
    cases r with
    | ok u =>
      cases hr with
      | whole _ _ _ hM'' =>
        exact flow_pure (hM''.sound (by simp [PurchaseRecord.booking, hgrant.amount]))
    | error y =>
      have hy : (Except.error y : Except Err Unit) = .error .failure := by
        cases hr <;> rfl
      exact unrecorded_sound (E := { E with amount := a }) hgrant.amount rfl
        (hw a hobserve hgrant) hr hy _

/-- **`verify` keeps the invariant.** -/
theorem verify_sound (hS : Sound s) {r : VerifyRequest} (hc : Careful K s (.verify r e)) :
    Sound (after K s (.verify r e)) := by
  refine flow_run (verify_rule (I := Sound) hS ?_)
  intro hclaims hread hunseen
  have hnone : s.purchase r.pid = none := hc.1 hclaims hread hunseen
  have hquiet : ∀ t, Same s t → ∀ m,
      Quieted ⟨r.pid, m, 0, t.velocity.openAuthz m⟩ false false t := by
    intro t hst m
    refine (hS.same hst).quieted fun p hp => ?_
    rw [hst.purchase, hnone] at hp
    cases hp
  refine decide_rule hS (fun m reason t hst => ?_) fun mandate offer d hg => ?_
  · exact flow_mono (fun _ _ h => h.sound) (rejected_quiets (hquiet t hst m) _ _ _ _)
  · have hst := s.viewed_same mandate mandate.id r.now
    have hM : Mid (s.entry r.pid mandate.id) false none false
        (s.viewed mandate mandate.id r.now) := by
      have hbooked := hS.tallied.booked r.pid mandate.id 0
        fun p hp => by rw [hnone] at hp; cases hp
      rw [hnone] at hbooked
      exact (⟨hbooked, hS.parked⟩ : Mid _ _ _ _ s).same hst
    unfold branch
    cases hd : d.decision with
    | rejected =>
      exact flow_mono (fun _ _ h => h.sound) (rejected_quiets (quieted_none hM) _ _ _ _)
    | escalated =>
      exact flow_mono (fun _ _ h => h.sound) (escalated_ends _ hM rfl _ _)
    | approved =>
      refine approved_sound hM fun a hobserve hgrant => ?_
      exact hc.2 mandate a ⟨hclaims, ⟨hread, hunseen⟩, ⟨offer, d, hg, hd⟩, hobserve,
        hgrant.amount, hgrant.port, hgrant.granted⟩

/-! ## `resolve_escalation` -/

theorem resolveSettled_calls (record : EscalationRecord) (r : ResolveRequest) :
    (resolveSettled record r).Calls fun c => c.op.idle := by
  refine Prog.calls_bind (Prog.calls_perform trivial) fun existing => ?_
  cases existing with
  | none => trivial
  | some p => exact resultForExisting_calls p fun _ => trivial

/-- The compensation of a reservation keeps the invariant when the pattern is undone. -/
theorem undone_sound {p p' : PurchaseRecord} {x : Except Err Unit} {t : Stores}
    (hp : p.status ≠ .pendingCapture) (hp' : p'.booking = some (E.mandate, E.amount))
    (hw : e.resolvesWell E.others) (hr : ResolveRecorded e E p p' x s) (hx : x = .error .failure)
    (hundone : ∀ q o, Mid E true (some q) o s → (q = p ∨ q = p') → Undone e E q o t) :
    Sound t := by
  have hsound : ∀ {u : Stores}, Mid E false (some p) false u → Sound u := fun hM =>
    ⟨hM.booked.tallied fun _ h => by cases h; exact hp, hM.parked⟩
  cases hr with
  | unsaved hfail hM =>
    simp only [Env.resolvesWell, hfail, if_true] at hw
    cases hundone p false hM (.inl rfl) with
    | kept hmiss hrel _ => simp [hmiss, hrel] at hw
    | slotKept _ hM' => exact hsound hM'
    | unrecorded hwhy hM' =>
      refine hsound (hM' (.inr ?_))
      rcases hwhy with ⟨hmiss, hrel, hopen⟩ | ⟨hmiss, hopen, _⟩
      · simpa [hmiss, hrel, hopen] using hw
      · simpa [hmiss, hopen] using hw
    | whole hmiss hopen _ _ hQ =>
      exact (hQ (.inr (by simpa [hmiss, hopen] using hw))).sound
  | unopened hesc hpur hopen hM =>
    simp only [Env.resolvesWell, hesc, hpur, hopen, Bool.false_eq_true, or_self, if_false,
      if_true] at hw
    obtain ⟨⟨hmiss, h1, h2, h3⟩, hzero⟩ := hw
    cases hundone p' false hM (.inr rfl) with
    | kept h _ _ => exact absurd h hmiss
    | slotKept h _ =>
      rcases h with ⟨h, _⟩ | ⟨_, h⟩
      · exact absurd h hmiss
      · simp [h1] at h
    | unrecorded h _ =>
      rcases h with ⟨h, _⟩ | ⟨_, _, h⟩
      · exact absurd h hmiss
      · simp [h2, h3] at h
    | whole _ _ _ _ hQ => exact (hQ (.inr hzero)).sound
  | silent hesc hpur hopen hemit hM =>
    simp only [Env.resolvesWell, hesc, hpur, hopen, hemit, Bool.false_eq_true, or_self, if_false,
      if_true] at hw
    cases hundone p' true hM (.inr rfl) with
    | kept _ _ hM' => exact hM'.sound hp'
    | slotKept h _ =>
      exfalso
      rcases hw with ⟨hmiss, h1, _⟩ | ⟨hmiss, hrel⟩ <;> simp_all
    | unrecorded h _ =>
      exfalso
      rcases hw with ⟨hmiss, h1, h2, h3⟩ | ⟨hmiss, hrel⟩ <;> simp_all
    | whole _ _ _ _ hQ => exact (hQ (.inl rfl)).sound
  | whole => cases hx

/-- A reservation of an authorised resolution keeps the invariant. -/
theorem resolveReserve_sound {p : PurchaseRecord} (hM : Mid E false (some p) false s)
    (hp : p.Quiet) {record : EscalationRecord} {r : ResolveRequest} {mandate : Mandate}
    (hid : s.escalations r.escalationId = some record) (hpend : record.status = .pending)
    (hpid : record.purchaseId = E.pid) (hm : record.mandateId = E.mandate)
    (hpm : p.mandateId = E.mandate) (hintent : p.intent = record.intent)
    (hw : ∀ a, Granted e s .resolveReserve E mandate record.intent a → e.resolvesWell E.others) :
    Ends (sem e) (fun _ s' => Sound s') (resolveReserve K record mandate r) s := by
  unfold resolveReserve
  rw [hm, hpid]
  refine flow_attempt_bind (reserve_ends hM .resolveReserve mandate record.intent) fun x t hx => ?_
  obtain ⟨hesc, ⟨⟨y, rfl⟩, hM', _⟩ | ⟨a, hg, rfl, hM'⟩⟩ := hx
  · refine flow_mono (fun _ _ h => h.1.sound) (expire_ends (E := E) ⟨some p, hM', ?_⟩ record hpid
      .mandateSuspended r.now)
    rintro _ ⟨rfl⟩
    exact hp
  · refine flow_attempt_bind (resolveRecord_ends hM' (by rw [hesc]; exact hid) hpend hpid hm)
      fun x t' hx => ?_
    have hbooking : (p.change ⟨.pendingCapture, none, some (resId E.pid), false⟩).booking =
        some (E.mandate, a) := by
      simp [PurchaseRecord.booking, PurchaseRecord.change, hintent, hg.amount, hpm]
    cases x with
    | ok u =>
      cases hx with
      | whole _ _ _ _ _ hM'' => exact flow_pure (hM''.sound hbooking)
    | error y =>
      have hy : (Except.error y : Except Err Unit) = .error .failure := by
        cases hx <;> rfl
      refine ends_of_run (undone_sound (E := { E with amount := a }) hp.1 hbooking (hw a hg) hx hy fun q o hMq hq => ?_)
      refine flow_run (expire_undo_ends (E := { E with amount := a }) hMq ?_ hpid hm hg.amount
        .mandateSuspended r.now)
      rcases hq with rfl | rfl
      · exact .inl hp.2
      · exact .inr rfl

/-- **`resolve_escalation` keeps the invariant.** -/
theorem resolve_sound (hS : Sound s) {r : ResolveRequest} (hc : Careful K s (.resolve r e)) :
    Sound (after K s (.resolve r e)) := by
  refine flow_run (R := fun _ _ _ _ => True) (Q := fun _ s' => Sound s')
    (resolve_rule (fun _ _ _ => trivial) hS (fun _ => hS) (fun record _ _ => ?_) (fun record reason t hid hpend hst => ?_)
    fun record mandate hid hpend hauth => ?_)
  · exact flow_mono (fun _ _ hst => hS.same hst) (idle_ends e (resolveSettled_calls record r) s)
  · obtain ⟨_, p, hp, hquiet, _⟩ := hS.parked.parked _ record hid hpend
    have hQ : Quieted (t.entry record.purchaseId record.mandateId) false false t := by
      refine (hS.same hst).quieted fun q hq => ?_
      rw [hst.purchase, hp] at hq
      cases hq
      exact hquiet
    exact flow_mono (fun _ _ h => h.1.sound) (expire_ends hQ record rfl reason r.now)
  · obtain ⟨_, p, hp, hquiet, hpm, hintent⟩ := hS.parked.parked _ record hid hpend
    have hst := s.viewed_same mandate record.mandateId r.now
    have hM : Mid (s.entry record.purchaseId record.mandateId) false (some p) false
        (s.viewed mandate record.mandateId r.now) := by
      have hbooked := hS.tallied.booked record.purchaseId record.mandateId 0
        fun q hq => by rw [hp] at hq; cases hq; exact hquiet.1
      rw [hp] at hbooked
      exact (⟨hbooked, hS.parked⟩ : Mid _ _ _ _ s).same hst
    refine resolveReserve_sound hM hquiet hid hpend rfl rfl hpm hintent fun a hg => ?_
    exact hc record mandate a ⟨⟨hid, hpend⟩, hauth, hg.amount, hg.port, hg.granted⟩

/-! ## Runs -/

/-- **Every event keeps the invariant.** -/
theorem after_sound (x : Event) (hS : Sound s) (hc : Careful K s x) : Sound (after K s x) := by
  cases x with
  | verify r e => exact verify_sound hS hc
  | resolve r e => exact resolve_sound hS hc
  | others mandates offers => exact hS.same ⟨rfl, rfl, rfl, rfl⟩

end Sound

/-- Stores in which nothing is recorded yet. -/
structure Blank (s : Stores) : Prop where
  purchases : s.purchases = []
  escalations : ∀ id, s.escalations id = none
  reserved : ∀ m, s.ledger.reserved m = 0
  reservations : ∀ rid, s.ledger.reservations rid = none
  keys : ∀ key, s.ledger.keys key = none
  openAuthz : ∀ m, s.velocity.openAuthz m = 0

theorem Blank.sound {s : Stores} (h : Blank s) : Sound s := by
  have hnone : ∀ q, s.purchase q = none := fun q => by rw [Stores.purchase, h.purchases]; rfl
  refine ⟨⟨by simp [h.purchases], fun m => by simp [h.reserved, h.purchases],
    fun m => by simp [h.openAuthz, h.purchases], fun q => by simp [h.reservations, hnone],
    fun q => by simp [h.keys, hnone]⟩, ⟨fun id e hid => ?_, fun id _ e _ hid => ?_⟩⟩ <;>
  · rw [h.escalations] at hid
    cases hid

/-- **The books agree in every state of a careful run**: what is reserved under a mandate is the
sum of the amounts of its purchases that await their capture, and its open slots are their
number. -/
theorem reservations_balanced (K : Deps) {s : Stores} (hs : Blank s) {events : List Event}
    (hc : Throughout K (Careful K) s events) : Balanced (history K s events) :=
  (history_keeps K (fun _ x hS hcx => after_sound x hS hcx) hs.sound hc).tallied.balanced

/-! ## A shop -/

/-- A gate that approves everything. -/
def lenient : Deps where
  evaluate := fun _ _ _ _ _ _ => .ok (.approved none)
  sha256 := fun _ => ""
  isoformat := fun _ => ""
  fromisoformat := fun _ => none

/-- A mandate of 100.00. -/
def shopMandate : Mandate := ⟨"mdt", "active", 0, 0, 0, some 10000, none, .null⟩

/-- Stores with one mandate and one offer. -/
def shop : Stores where
  mandates := fun jti => if jti = "mdt" then some shopMandate else none
  offers := fun offerId => if offerId = "offer-1" then some .null else none
  velocity := ⟨fun _ _ => 0, fun _ _ => 0, fun _ _ => 0, fun _ => 0, fun _ => none⟩
  ledger := ⟨fun _ => none, fun _ => none, fun _ => none⟩
  purchases := []
  escalations := fun _ => none
  outbox := []

/-- A call of `verify` under the mandate. -/
def buy (jti : String) (amount : ℕ) (purchaseId escalationId : String) : VerifyRequest :=
  ⟨⟨jti, "mdt", "offer-1", some amount, .null⟩, 0, none, some purchaseId, escalationId⟩

/-- An environment in which some port calls fail. -/
def failing (sites : List Site) : Env := ⟨fun site => sites.contains site, .ok .owned, fun _ _ => true⟩

theorem shop_blank : Blank shop := ⟨rfl, fun _ => rfl, fun _ => rfl, fun _ => rfl, fun _ => rfl,
  fun _ => rfl⟩

/-- Two purchases, of which the second is undone. -/
theorem reservations_balanced_undone : Balanced (history lenient shop
    [.verify (buy "int-1" 3000 "p-1" "esc-1") (failing []),
      .verify (buy "int-2" 2000 "p-2" "esc-2") (failing [.approvedEmit])]) := by
  refine reservations_balanced lenient shop_blank ⟨⟨fun _ _ _ => rfl, fun _ _ _ => ?_⟩,
    ⟨fun _ _ _ => ?_, fun _ _ _ => ?_⟩, trivial⟩
  · simp [Env.recordsWell, failing]
  · exact Option.isNone_iff_eq_none.1 (by decide +kernel)
  · exact .inr ⟨by decide, .inl ⟨by decide, by decide⟩⟩

/-- Two intents under one purchase id: the second is refused and rewrites the first one's record,
whose reservation stays. And a release whose slot is not given back leaves the purchase without
its reservation. -/
theorem reservation_orphaned : Blank shop ∧
    ¬ Balanced (history lenient shop
      [.verify (buy "int-1" 3000 "p-1" "esc-1") (failing []),
        .verify (buy "int-2" 2000 "p-1" "esc-2") (failing [])]) ∧
    ¬ Balanced (history lenient shop
      [.verify (buy "int-1" 3000 "p-1" "esc-1") (failing [.approvedEmit, .approvedUndoOpen])]) := by
  refine ⟨shop_blank, fun h => ?_, fun h => ?_⟩
  · exact absurd (h "mdt").1 (by decide +kernel)
  · exact absurd (h "mdt").1 (by decide +kernel)

end TryTrust.DecisionCore
