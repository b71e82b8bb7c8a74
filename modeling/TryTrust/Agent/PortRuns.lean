import TryTrust.Agent.Settlement

/-!
# How the merchant ports end

What `settle` of each port does under a plan of failing calls: whether the rail or the bridge
holds a capture when it ends, and whether the port says so.

* `PortRan`: how a port's `settle` ended;
* `MockCharges`, `RappiCharges` (the money moves) and `MockAccepts`, `RappiAccepts` (the port says
  so), in terms of the plan;
* **`run_localSettle`**, **`run_rappiSettle`**.
-/

namespace TryTrust.Agent

open Conc

/-! ## The live state and the rail -/

section

variable (plan : Call → Env)

/-- The live-state check passes. -/
def LiveOk (jti : String) (db : Db) : Prop :=
  Fine plan (.selectLiveStatus jti) ∧ (db.mandates jti).map (·.status) = some .active

/-- The rail captures: its statements run, the vaulted token is active, the amount is not zero. -/
def CaptureOk (ids : FreshIds) (tokenRef : String) (intent : Intent) (db : Db) : Prop :=
  Fine plan (.selectCapture intent.jti) ∧ Fine plan (.selectInstrument tokenRef) ∧
    db.instruments tokenRef = some .active ∧ intent.amount ≠ 0 ∧
      Fine plan (.insertCapture intent.jti ⟨ids.captureId, intent.amount, intent.currency, tokenRef⟩)

/-- How a port's `settle` ended: whether it charged, and whether it answered that it did. -/
structure PortRan (intent : Intent) (s : Saga) (charged accepted : Prop)
    (out : Except PyErr SettleResult × Saga) : Prop where
  mandates : out.2.1.mandates = s.1.mandates
  stage : out.2.2.stage = s.2.stage
  held : Held intent.jti out.2.1 ↔ charged
  accepted : (∃ receipt, out.1 = .ok (.accepted receipt)) ↔ accepted

variable {plan} {intent : Intent} {s : Saga}

/-- A port that stopped before it charged. -/
theorem portRan_stop {charged accepted : Prop} {r : Except PyErr SettleResult}
    (hfresh : ¬ Held intent.jti s.1) (hr : ∀ receipt, r ≠ .ok (.accepted receipt)) (hc : ¬ charged)
    (ha : ¬ accepted) : PortRan intent s charged accepted (r, s) :=
  ⟨rfl, rfl, iff_of_false hfresh hc, iff_of_false (fun h => h.elim hr) ha⟩

variable (plan s) in
/-- How the live-state check ends. -/
theorem run_liveState (jti : String) (rid : Option String) :
    (LiveOk plan jti s.1 ∧ runPlan plan (liveState jti rid) s = (.ok ⟨true, none, rid⟩, s)) ∨
    (¬ LiveOk plan jti s.1 ∧ (runPlan plan (liveState jti rid) s).2 = s ∧
      ∀ live, (runPlan plan (liveState jti rid) s).1 = .ok live → live.approved = false) := by
  let Q : Except PyErr Live × Saga → Prop := fun out =>
    (LiveOk plan jti s.1 ∧ out = (.ok ⟨true, none, rid⟩, s)) ∨
      (¬ LiveOk plan jti s.1 ∧ out.2 = s ∧ ∀ live, out.1 = .ok live → live.approved = false)
  refine run_call_cases (Q := Q) _ rfl (fun h => ?_) fun h x => ?_
  · have hno : (s.1.mandates jti).map (·.status) ≠ some .active → ¬ LiveOk plan jti s.1 :=
      fun hne hok => hne hok.2
    cases hst : (s.1.mandates jti).map (·.status) with
    | none => exact Or.inr ⟨hno (by simp [hst]), rfl, by rintro live ⟨rfl⟩; rfl⟩
    | some st =>
      cases st with
      | active => exact Or.inl ⟨⟨h, hst⟩, rfl⟩
      | _ => exact Or.inr ⟨hno (by simp [hst]), rfl, by rintro live ⟨rfl⟩; rfl⟩
  · exact Or.inr ⟨fun hok => h hok.1, rfl, fun live hl => by cases hl⟩

variable (plan) in
/-- How the rail's capture of a new request ends. -/
theorem run_capture (ids : FreshIds) (tokenRef : String) (hfresh : s.1.captures intent.jti = none) :
    (CaptureOk plan ids tokenRef intent s.1 ∧
      runPlan plan (capture ids tokenRef intent.amount intent.currency intent.jti) s =
        (.ok ⟨ids.captureId, intent.amount, intent.currency, tokenRef⟩,
          s.1.addCapture intent.jti ⟨ids.captureId, intent.amount, intent.currency, tokenRef⟩, s.2)) ∨
    (¬ CaptureOk plan ids tokenRef intent s.1 ∧ ∃ x,
      runPlan plan (capture ids tokenRef intent.amount intent.currency intent.jti) s =
        (.error x, s)) := by
  set cap : Capture := ⟨ids.captureId, intent.amount, intent.currency, tokenRef⟩ with hcap
  let Q : Except PyErr Capture × Saga → Prop := fun out =>
    (CaptureOk plan ids tokenRef intent s.1 ∧ out = (.ok cap, s.1.addCapture intent.jti cap, s.2)) ∨
      (¬ CaptureOk plan ids tokenRef intent s.1 ∧ ∃ x, out = (.error x, s))
  refine run_call_cases (Q := Q) none (by simp [exec, hfresh]) (fun h1 => ?_)
    fun h1 x => Or.inr ⟨fun h => h1 h.1, x, rfl⟩
  refine run_call_cases (Q := Q) _ rfl (fun h2 => ?_) fun h2 x => Or.inr ⟨fun h => h2 h.2.1, x, rfl⟩
  have hno : s.1.instruments tokenRef ≠ some .active → ¬ CaptureOk plan ids tokenRef intent s.1 :=
    fun hne h => hne h.2.2.1
  dsimp only [exec]
  cases hi : s.1.instruments tokenRef with
  | none => exact Or.inr ⟨hno (by simp [hi]), _, rfl⟩
  | some st =>
    cases st with
    | deleted => exact Or.inr ⟨hno (by simp [hi]), _, rfl⟩
    | active =>
      by_cases h0 : intent.amount = 0
      · simp only [h0, if_true]
        exact Or.inr ⟨fun h => h.2.2.2.1 h0, _, rfl⟩
      · simp only [h0, if_false]
        refine run_call_cases (Q := Q) () (by simp [exec, hfresh]) (fun h3 => ?_)
          fun h3 x => Or.inr ⟨fun h => h3 h.2.2.2.2, x, rfl⟩
        refine Or.inl ⟨⟨h1, h2, hi, h0, h3⟩, ?_⟩
        simp only [exec, hfresh]
        rfl

/-! ## The in-process merchant -/

variable (plan) in
/-- The in-process merchant charges: the signatures verify, its price is the intent's, the mandate
is live and the rail captures. -/
def MockReaches (K : Deps) (ids : FreshIds) (token : String) (claims : Claims) (intent : Intent)
    (signature : String) (db : Db) (signed : Claims) : Prop :=
  K.verifyToken token = .ok signed ∧ K.verifyDetached signature intent signed = .ok () ∧
    Fine plan (.getOffer intent.offerId) ∧
      (∃ offer ∈ (plan (.getOffer intent.offerId)).offer, intent.amount = offer.price) ∧
        LiveOk plan claims.jti db ∧ CaptureOk plan ids signed.paymentMethodRef intent db

variable (plan) in
/-- The in-process merchant's money moves. -/
def MockCharges (K : Deps) (ids : FreshIds) (token : String) (claims : Claims) (intent : Intent)
    (signature : String) (db : Db) : Prop :=
  ∃ signed, MockReaches plan K ids token claims intent signature db signed

variable (plan) in
/-- The in-process merchant answers that it charged: it also wrote its audit entry. -/
def MockAccepts (K : Deps) (ids : FreshIds) (token : String) (claims : Claims) (intent : Intent)
    (signature : String) (db : Db) : Prop :=
  ∃ signed, MockReaches plan K ids token claims intent signature db signed ∧
    Fine plan (.auditAppend ⟨"merchant.verified", intent.jti, some signed.jti⟩)

theorem refused_ne (c : Option String) (d : String) (receipt : Receipt) :
    (Except.ok (.refused c d) : Except PyErr SettleResult) ≠ .ok (.accepted receipt) :=
  fun h => by cases h

theorem raised_ne (x : PyErr) (receipt : Receipt) :
    (Except.error x : Except PyErr SettleResult) ≠ .ok (.accepted receipt) :=
  fun h => by cases h

variable (plan) in
theorem run_checkoutCharge (K : Deps) (ids : FreshIds) (token : String) (claims : Claims)
    (signature : String) (rid : Option String) (hfresh : ¬ Held intent.jti s.1) :
    PortRan intent s (MockCharges plan K ids token claims intent signature s.1)
      (MockAccepts plan K ids token claims intent signature s.1)
      (runPlan plan (checkoutCharge K ids token intent signature (liveState claims.jti rid)) s) := by
  have hnew : s.1.captures intent.jti = none :=
    Option.not_isSome_iff_eq_none.1 fun h => hfresh (Or.inl h)
  -- a stop before the capture, where no signed claims reach it
  have stop : ∀ {r : Except PyErr SettleResult}, (∀ receipt, r ≠ .ok (.accepted receipt)) →
      (∀ signed, ¬ MockReaches plan K ids token claims intent signature s.1 signed) →
      PortRan intent s (MockCharges plan K ids token claims intent signature s.1)
        (MockAccepts plan K ids token claims intent signature s.1) (r, s) :=
    fun hr hno => portRan_stop hfresh hr (fun h => h.elim hno)
      fun h => h.elim fun signed h => hno signed h.1
  simp only [checkoutCharge]
  cases htok : K.verifyToken token with
  | error x =>
    have hno : ∀ signed, ¬ MockReaches plan K ids token claims intent signature s.1 signed := by
      intro signed h
      rw [MockReaches, htok] at h
      cases h.1
    cases x with
    | badSignature m => exact stop (refused_ne _ _) hno
    | _ => exact stop (raised_ne _) hno
  | ok signed =>
    have huniq : ∀ c, MockReaches plan K ids token claims intent signature s.1 c → c = signed := by
      intro c h
      rw [MockReaches, htok] at h
      exact (Except.ok.inj h.1).symm
    dsimp only
    cases hdet : K.verifyDetached signature intent signed with
    | error x =>
      have hno : ∀ c, ¬ MockReaches plan K ids token claims intent signature s.1 c := by
        intro c h
        obtain rfl := huniq c h
        rw [MockReaches, hdet] at h
        cases h.2.1
      cases x with
      | badSignature m => exact stop (refused_ne _ _) hno
      | _ => exact stop (raised_ne _) hno
    | ok u =>
      refine run_read_cases _ rfl rfl (fun hget => ?_)
        fun hget x => stop (raised_ne x) fun c h => hget h.2.2.1
      cases hoffer : (plan (.getOffer intent.offerId)).offer with
      | none =>
        refine stop (refused_ne _ _) fun c h => ?_
        obtain ⟨offer, ho, -⟩ := h.2.2.2.1
        rw [hoffer] at ho
        cases ho
      | some offer =>
        dsimp only
        by_cases hprice : intent.amount = offer.price
        swap
        · rw [if_pos hprice]
          refine stop (refused_ne _ _) fun c h => ?_
          obtain ⟨offer', ho, hp⟩ := h.2.2.2.1
          rw [hoffer] at ho
          cases ho
          exact hprice hp
        rw [if_neg (not_not.2 hprice)]
        rcases run_liveState plan s claims.jti rid with
          ⟨hlive, hrun⟩ | ⟨hlive, hs, hno⟩
        swap
        · -- the live state refuses, or cannot be read
          rcases hrun : runPlan plan (liveState claims.jti rid) s with ⟨x | d, s'⟩
          · rw [hrun] at hs
            obtain rfl : s' = s := hs
            exact Prog.run_bind_of_error (planned plan) hrun
              (stop (raised_ne x) fun c h => hlive h.2.2.2.2.1)
          · rw [hrun] at hs hno
            obtain rfl : s' = s := hs
            refine Prog.run_bind_of_ok (planned plan) hrun ?_
            rw [hno d rfl]
            exact stop (refused_ne _ _) fun c h => hlive h.2.2.2.2.1
        refine Prog.run_bind_of_ok (planned plan) hrun ?_
        rw [if_neg (by simp)]
        rcases run_capture plan ids signed.paymentMethodRef hnew with
          ⟨hcap, hrun⟩ | ⟨hcap, x, hrun⟩
        swap
        · exact Prog.run_bind_of_error (planned plan) hrun
            (stop (raised_ne x) fun c h => hcap (huniq c h ▸ h.2.2.2.2.2))
        refine Prog.run_bind_of_ok (planned plan) hrun ?_
        have hreach : MockReaches plan K ids token claims intent signature s.1 signed :=
          ⟨htok, hdet, hget, ⟨offer, hoffer, hprice⟩, hlive, hcap⟩
        have hheld : Held intent.jti (s.1.addCapture intent.jti
            ⟨ids.captureId, intent.amount, intent.currency, signed.paymentMethodRef⟩) :=
          Or.inl (by simp [Db.addCapture])
        refine run_call_cases _ rfl (fun haudit => ?_) fun haudit x => ?_
        · exact ⟨rfl, rfl, iff_of_true hheld ⟨signed, hreach⟩,
            iff_of_true ⟨_, rfl⟩ ⟨signed, hreach, haudit⟩⟩
        · refine ⟨rfl, rfl, iff_of_true hheld ⟨signed, hreach⟩,
            iff_of_false (fun h => h.elim (raised_ne x)) ?_⟩
          rintro ⟨c, h, ha⟩
          rw [huniq c h] at ha
          exact haudit ha

theorem run_localSettle (K : Deps) (ids : FreshIds) (token : String) (claims : Claims)
    (signature : String) (rid : Option String) (hfresh : ¬ Held intent.jti s.1) :
    PortRan intent s (MockCharges plan K ids token claims intent signature s.1)
      (MockAccepts plan K ids token claims intent signature s.1)
      (runPlan plan (localSettle K ids token intent signature (liveState claims.jti rid)) s) := by
  have h := run_checkoutCharge plan K ids token claims signature rid hfresh
  rcases hrun : runPlan plan
    (checkoutCharge K ids token intent signature (liveState claims.jti rid)) s with ⟨x | r, s'⟩
  · -- an exception: the rail's become refusals, the others go on
    rw [hrun] at h
    rw [runPlan, localSettle, Prog.run_tryCatch_error (planned plan) hrun]
    have hno : ∀ r : Except PyErr SettleResult, (∀ receipt, r ≠ .ok (.accepted receipt)) →
        PortRan intent s (MockCharges plan K ids token claims intent signature s.1)
          (MockAccepts plan K ids token claims intent signature s.1) (r, s') := by
      refine fun r hr => ⟨h.mandates, h.stage, h.held,
        iff_of_false (fun h => h.elim hr) fun ha => ?_⟩
      obtain ⟨receipt, hc⟩ := h.accepted.2 ha
      cases hc
    cases x with
    | rail code m => exact hno _ fun _ hc => by cases hc
    | _ => exact hno _ fun _ hc => by cases hc
  · rw [hrun] at h
    rw [runPlan, localSettle, Prog.run_tryCatch_ok (planned plan) hrun]
    exact h

end

/-! ## The bridge -/

section Rappi

variable (plan : Call → Env) (offer : Offer) (claims : Claims) (intent : Intent)
  (rid : Option String)

/-- The bridge's quote for the offer's cart. -/
def quoteOf : Quote := (plan (.quote (rappiStoreType offer))).quote

/-- The kernel's mint for that quote. -/
def mintCall : Call := .mintToken intent.jti rid (quoteOf plan offer).total (quoteOf plan offer).cartHash

/-- The minted token. -/
def tokenOf : CaptureToken where
  purchaseId := intent.jti
  reservationId := rid
  amount := (quoteOf plan offer).total
  cartHash := (quoteOf plan offer).cartHash
  dryRun := (plan (mintCall plan offer intent rid)).dryRun
  iat := (plan (mintCall plan offer intent rid)).now
  exp := (plan (mintCall plan offer intent rid)).now + 120

/-- The order sent to the bridge. -/
def orderOf : PlaceOrder :=
  rappiBody intent (rappiStoreType offer) (quoteOf plan offer) (tokenOf plan offer intent rid)

/-- How the bridge ends the order. -/
def answerOf : BridgeAnswer := (plan (.placeOrder (orderOf plan offer intent rid))).order

/-- The mint and the order are carried out. -/
def OrderOk : Prop :=
  Fine plan (mintCall plan offer intent rid) ∧
    Fine plan (.placeOrder (orderOf plan offer intent rid))

/-- The order reaches the bridge. -/
def RappiReaches (db : Db) : Prop :=
  LiveOk plan claims.jti db ∧ (rappiCart offer).storeId ≠ "" ∧ (rappiCart offer).productId ≠ "" ∧
    Fine plan (.cartAdd (rappiCart offer)) ∧ Fine plan (.quote (rappiStoreType offer)) ∧
      (quoteOf plan offer).total ≠ "" ∧ (quoteOf plan offer).cartHash ≠ "" ∧
        OrderOk plan offer intent rid

/-- The bridge's paying click goes through. -/
def RappiCharges (db : Db) : Prop :=
  RappiReaches plan offer claims intent rid db ∧ (answerOf plan offer intent rid).clicked = true

/-- The answers that the port takes for a charge. -/
def settledStates : List String := ["confirmed", "dry_run_confirmed"]

/-- The port answers that it charged. -/
def RappiAccepts (db : Db) : Prop :=
  RappiReaches plan offer claims intent rid db ∧
    (∃ receipt, (answerOf plan offer intent rid).result = .ok receipt ∧
      receipt.state ∈ settledStates) ∧
    Fine plan (.auditAppend ⟨"merchant.settled", offer.offerId, some claims.jti⟩)

variable {plan offer claims intent rid} {s : Saga}

variable (plan offer s) in
/-- How the mint and the order end. -/
theorem run_rappiOrder {mint : String → String → Py CaptureToken}
    (hmint : mint = fun amount cartHash => call (.mintToken intent.jti rid amount cartHash)) :
    (OrderOk plan offer intent rid ∧
      runPlan plan (rappiOrder intent (rappiStoreType offer) (quoteOf plan offer) mint) s =
        ((answerOf plan offer intent rid).result,
          s.1.addOrder (orderOf plan offer intent rid, (answerOf plan offer intent rid).clicked),
          s.2)) ∨
    (¬ OrderOk plan offer intent rid ∧ ∃ x,
      runPlan plan (rappiOrder intent (rappiStoreType offer) (quoteOf plan offer) mint) s =
        (.error x, s)) := by
  subst hmint
  let Q : Except PyErr BridgeReceipt × Saga → Prop := fun out =>
    (OrderOk plan offer intent rid ∧ out = ((answerOf plan offer intent rid).result,
      s.1.addOrder (orderOf plan offer intent rid, (answerOf plan offer intent rid).clicked), s.2)) ∨
    (¬ OrderOk plan offer intent rid ∧ ∃ x, out = (.error x, s))
  refine run_read_cases (Q := Q) (tokenOf plan offer intent rid) rfl rfl (fun h1 => ?_)
    fun h1 x => Or.inr ⟨fun h => h1 h.1, x, rfl⟩
  by_cases h2 : Fine plan (.placeOrder (orderOf plan offer intent rid))
  · exact Or.inl ⟨⟨h1, h2⟩, run_call _ s h2⟩
  · obtain ⟨x, hx⟩ := run_call_fail _ s h2
    exact Or.inr ⟨fun h => h2 h.2, x, hx⟩

/-- The order is the first one for a fresh intent. -/
theorem held_addOrder (hfresh : ¬ Held intent.jti s.1) (b : Bool) :
    Held intent.jti (s.1.addOrder (orderOf plan offer intent rid, b)) ↔ b = true := by
  constructor
  · rintro (h | ⟨o, ho, h1, h2⟩)
    · exact absurd (Or.inl h) hfresh
    · rcases List.mem_append.1 ho with ho | ho
      · exact absurd (Or.inr ⟨o, ho, h1, h2⟩) hfresh
      · rw [List.mem_singleton] at ho
        rw [ho] at h2
        exact h2
  · rintro rfl
    exact Or.inr ⟨(orderOf plan offer intent rid, true),
      List.mem_append_right _ List.mem_cons_self, rfl, rfl⟩

theorem run_rappiSettle (K : Deps) (hfresh : ¬ Held intent.jti s.1) :
    PortRan intent s (RappiCharges plan offer claims intent rid s.1)
      (RappiAccepts plan offer claims intent rid s.1)
      (runPlan plan (rappiSettle K offer claims intent (liveState claims.jti rid)
        (some fun amount cartHash => call (.mintToken intent.jti rid amount cartHash))) s) := by
  have stop : ∀ {r : Except PyErr SettleResult}, (∀ receipt, r ≠ .ok (.accepted receipt)) →
      ¬ RappiReaches plan offer claims intent rid s.1 →
      PortRan intent s (RappiCharges plan offer claims intent rid s.1)
        (RappiAccepts plan offer claims intent rid s.1) (r, s) :=
    fun hr hno => portRan_stop hfresh hr (fun h => hno h.1) fun h => hno h.1
  rcases run_liveState plan s claims.jti rid with
    ⟨hlive, hrun⟩ | ⟨hlive, hs, hno⟩
  swap
  · -- the live state refuses, or cannot be read
    rcases hrun : runPlan plan (liveState claims.jti rid) s with ⟨x | d, s'⟩
    · rw [hrun] at hs
      obtain rfl : s' = s := hs
      exact Prog.run_bind_of_error (planned plan) hrun (stop (raised_ne x) fun h => hlive h.1)
    · rw [hrun] at hs hno
      obtain rfl : s' = s := hs
      refine Prog.run_bind_of_ok (planned plan) hrun ?_
      rw [hno d rfl]
      exact stop (refused_ne _ _) fun h => hlive h.1
  refine Prog.run_bind_of_ok (planned plan) hrun ?_
  dsimp only
  rw [if_neg (by simp)]
  by_cases hhandles : (rappiCart offer).storeId = "" ∨ (rappiCart offer).productId = ""
  · rw [if_pos hhandles]
    exact stop (refused_ne _ _) fun h => hhandles.elim h.2.1 h.2.2.1
  rw [if_neg hhandles]
  push Not at hhandles
  refine run_read_cases () rfl rfl (fun hcart => ?_)
    fun hcart x => stop (raised_ne x) fun h => hcart h.2.2.2.1
  refine run_read_cases (quoteOf plan offer) rfl rfl (fun hquote => ?_)
    fun hquote x => stop (raised_ne x) fun h => hquote h.2.2.2.2.1
  by_cases hfull : (quoteOf plan offer).total = "" ∨ (quoteOf plan offer).cartHash = ""
  · rw [if_pos hfull]
    exact stop (refused_ne _ _) fun h => hfull.elim h.2.2.2.2.2.1 h.2.2.2.2.2.2.1
  rw [if_neg hfull]
  push Not at hfull
  refine Prog.run_bind_of_ok (planned plan) (Prog.run_attempt (planned plan) _ s) ?_
  rcases run_rappiOrder plan offer s rfl with ⟨horder, hrun⟩ | ⟨horder, x, hrun⟩
  swap
  · rw [runPlan] at hrun
    rw [hrun]
    simp only [rappiFinish, rappiFailure]
    split_ifs <;> exact stop (refused_ne _ _) fun h => horder h.2.2.2.2.2.2.2
  rw [runPlan] at hrun
  rw [hrun]
  have hreach : RappiReaches plan offer claims intent rid s.1 :=
    ⟨hlive, hhandles.1, hhandles.2, hcart, hquote, hfull.1, hfull.2, horder⟩
  have hheld : Held intent.jti (s.1.addOrder
      (orderOf plan offer intent rid, (answerOf plan offer intent rid).clicked)) ↔
      RappiCharges plan offer claims intent rid s.1 :=
    (held_addOrder hfresh _).trans ⟨fun h => ⟨hreach, h⟩, fun h => h.2⟩
  -- an end that is no receipt of a charge
  have away : ∀ {r : Except PyErr SettleResult}, (∀ receipt, r ≠ .ok (.accepted receipt)) →
      ¬ RappiAccepts plan offer claims intent rid s.1 →
      PortRan intent s (RappiCharges plan offer claims intent rid s.1)
        (RappiAccepts plan offer claims intent rid s.1) (r, s.1.addOrder
          (orderOf plan offer intent rid, (answerOf plan offer intent rid).clicked), s.2) :=
    fun hr hno => ⟨rfl, rfl, hheld, iff_of_false (fun h => h.elim hr) hno⟩
  cases hres : (answerOf plan offer intent rid).result with
  | error x =>
    have hno : ¬ RappiAccepts plan offer claims intent rid s.1 := by
      rintro ⟨-, ⟨receipt, hr, -⟩, -⟩
      rw [hres] at hr
      cases hr
    simp only [rappiFinish, rappiFailure]
    split_ifs <;> exact away (refused_ne _ _) hno
  | ok receipt =>
    have huniq : ∀ r, (answerOf plan offer intent rid).result = .ok r → r = receipt := by
      intro r hr
      rw [hres] at hr
      exact (Except.ok.inj hr).symm
    simp only [rappiFinish]
    by_cases hstate : receipt.state ∈ settledStates
    · rw [if_neg fun h => by simp [settledStates, h.1, h.2] at hstate]
      refine run_call_cases _ rfl (fun haudit => ?_) fun haudit x => ?_
      · exact ⟨rfl, rfl, hheld, iff_of_true ⟨_, rfl⟩ ⟨hreach, ⟨receipt, hres, hstate⟩, haudit⟩⟩
      · exact away (raised_ne x) fun h => haudit h.2.2
    · rw [if_pos (by simpa [settledStates] using hstate)]
      refine away (refused_ne _ _) ?_
      rintro ⟨_, ⟨r, hr, hs⟩, _⟩
      exact hstate (huniq r hr ▸ hs)

end Rappi

end TryTrust.Agent
