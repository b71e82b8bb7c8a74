import TryTrust.Agent.PortRuns

/-!
# Is the purchase saga atomic?

A charge is atomic when the merchant or the rail holds a capture exactly if the mandate chain was
debited, and the reservation was released exactly if nothing was captured.

* `Debited`, `Released`, `Atomic`; `Approved`, the state in which `verify` leaves a purchase;
* `afterSettle_atomic`: a charge that was carried out and accepted must settle, any other release;
* **`charge_atomic_iff`**: which calls must not fail for a charge to be atomic;
  `charge_not_atomic`: an audit append that fails after the capture.
-/

namespace TryTrust.Agent

open Conc

/-- `settle` debited every listed mandate by the amount. -/
def Debited (amount : ℤ) (jtis : List String) (s s' : Saga) : Prop :=
  ∀ j ∈ jtis, s'.2.stage j = .settled ∧ ∀ row ∈ s.1.mandates j, ∃ row' ∈ s'.1.mandates j,
    row'.spentTotal = row.spentTotal + amount

/-- The compensation gave the amount back on every listed mandate. -/
def Released (amount : ℤ) (jtis : List String) (s s' : Saga) : Prop :=
  ∀ j ∈ jtis, s'.2.stage j = .released ∧ ∀ row ∈ s.1.mandates j, ∃ row' ∈ s'.1.mandates j,
    row'.reservedAmount = row.reservedAmount - amount ∧ row'.spentTotal = row.spentTotal

/-- **Atomicity of a charge.** -/
def Atomic (intent : Intent) (jtis : List String) (s s' : Saga) : Prop :=
  (Held intent.jti s'.1 ↔ Debited intent.amount jtis s s') ∧
    (Released intent.amount jtis s s' ↔ ¬ Held intent.jti s'.1)

/-! ## Which mandates a walk wrote -/

section Wrote

variable {jtis done : List String} {s s' : Saga} {amount : ℤ}

theorem debited_of_wrote (hw : Wrote (settleRow amount) .settled jtis s s') :
    Debited amount jtis s s' := by
  intro j hj
  refine ⟨by rw [hw.stage, if_pos hj], fun row hrow => ⟨settleRow amount row, ?_, rfl⟩⟩
  rw [hw.mandates, if_pos hj, hrow]
  rfl

theorem released_of_wrote (hw : Wrote (freeRow amount) .released jtis s s')
    (hle : ∀ j ∈ jtis, ∀ row ∈ s.1.mandates j, amount ≤ row.reservedAmount) :
    Released amount jtis s s' := by
  intro j hj
  refine ⟨by rw [hw.stage, if_pos hj], fun row hrow => ⟨freeRow amount row, ?_, ?_, rfl⟩⟩
  · rw [hw.mandates, if_pos hj, hrow]
    rfl
  · have := hle j hj row hrow
    exact max_eq_right (by omega)

/-- A mandate of the chain that was not written keeps its reservation. -/
theorem stage_of_not_mem {f : MandateRow → MandateRow} {st : Stage} (hw : Wrote f st done s s')
    {j : String} (hj : j ∉ done) (hst : s.2.stage j = .reserved) : s'.2.stage j = .reserved := by
  rw [hw.stage, if_neg hj, hst]

theorem not_debited {j : String} (hj : j ∈ jtis) (h : s'.2.stage j ≠ .settled) :
    ¬ Debited amount jtis s s' := fun hd => h (hd j hj).1

theorem not_released {j : String} (hj : j ∈ jtis) (h : s'.2.stage j ≠ .released) :
    ¬ Released amount jtis s s' := fun hd => h (hd j hj).1

end Wrote

/-! ## Bookkeeping -/

/-- The calls that only keep the books. -/
def Call.keepsBooks : Call → Bool
  | .updatePurchase _ _ _ => true
  | .updateIntentCaptured _ => true
  | .auditAppend _ => true
  | _ => false

/-- Rows of mandates, stages, captures and orders are the same. -/
structure SameMoney (s s' : Saga) : Prop where
  mandates : s'.1.mandates = s.1.mandates
  stage : s'.2.stage = s.2.stage
  held : ∀ jti, Held jti s'.1 ↔ Held jti s.1

theorem SameMoney.trans {s s' s'' : Saga} (h : SameMoney s s') (h' : SameMoney s' s'') :
    SameMoney s s'' :=
  ⟨h'.mandates.trans h.mandates, h'.stage.trans h.stage, fun i => (h'.held i).trans (h.held i)⟩

section

variable {plan : Call → Env} {intent : Intent} {jtis : List String} {s s' s'' : Saga} {amount : ℤ}

theorem sameMoney_run {α : Type} {p : Py α} (hp : p.Calls fun c => c.keepsBooks = true)
    (s : Saga) : SameMoney s (runPlan plan p s).2 := by
  refine Prog.run_keeps (I := SameMoney s) (fun c t hc h => h.trans ?_) hp
    ⟨rfl, rfl, fun _ => Iff.rfl⟩
  by_cases hf : Fine plan c
  · have hrun := run_call c t hf
    rw [runPlan, call, Prog.run_perform] at hrun
    rw [hrun]
    cases c with
    | updatePurchase _ _ _ => exact ⟨rfl, rfl, fun _ => Iff.rfl⟩
    | updateIntentCaptured _ => exact ⟨rfl, rfl, fun _ => Iff.rfl⟩
    | auditAppend _ => exact ⟨rfl, rfl, fun _ => Iff.rfl⟩
    | _ => exact Bool.noConfusion hc
  · obtain ⟨x, hx⟩ := run_call_fail c t hf
    rw [runPlan, call, Prog.run_perform] at hx
    rw [hx]
    exact ⟨rfl, rfl, fun _ => Iff.rfl⟩

theorem sameMoney_bind {α : Type} {p : Py Unit} {f : Unit → Py α}
    (hrun : runPlan plan p s = (.ok (), s')) (hf : (f ()).Calls fun c => c.keepsBooks = true) :
    SameMoney s' (runPlan plan (p.bind f) s).2 := by
  rw [runPlan, Prog.run_bind_ok (planned plan) hrun]
  exact sameMoney_run hf s'

theorem SameMoney.debited (h : SameMoney s' s'') :
    Debited amount jtis s s'' ↔ Debited amount jtis s s' := by
  simp only [Debited, h.mandates, h.stage]

theorem SameMoney.released (h : SameMoney s' s'') :
    Released amount jtis s s'' ↔ Released amount jtis s s' := by
  simp only [Released, h.mandates, h.stage]

theorem SameMoney.atomic (h : SameMoney s' s'') :
    Atomic intent jtis s s'' ↔ Atomic intent jtis s s' := by
  simp only [Atomic, h.debited, h.released, h.held]

theorem Wrote.held {f : MandateRow → MandateRow} {st : Stage} (h : Wrote f st jtis s s') :
    Held intent.jti s'.1 ↔ Held intent.jti s.1 := by
  rw [Held, Held, h.rest]

/-! ## The two ends -/

theorem atomic_of_debited (hd : Debited intent.amount jtis s s')
    (hr : ¬ Released intent.amount jtis s s') : Atomic intent jtis s s' ↔ Held intent.jti s'.1 :=
  ⟨fun h => h.1.2 hd, fun h => ⟨iff_of_true h hd, iff_of_false hr (not_not.2 h)⟩⟩

theorem atomic_of_released (hr : Released intent.amount jtis s s')
    (hd : ¬ Debited intent.amount jtis s s') : Atomic intent jtis s s' ↔ ¬ Held intent.jti s'.1 :=
  ⟨fun h => h.2.1 hr, fun h => ⟨iff_of_false h hd, iff_of_true hr h⟩⟩

/-- A chain that is neither debited nor released, or not all of it. -/
theorem not_atomic_of_neither (hd : ¬ Debited intent.amount jtis s s')
    (hr : ¬ Released intent.amount jtis s s') : ¬ Atomic intent jtis s s' :=
  fun h => by_cases (fun hheld => hd (h.1.1 hheld)) fun hno => hr (h.2.2 hno)

/-- A mandate that is still reserved. -/
theorem not_atomic_of_reserved {j : String} (hj : j ∈ jtis) (hst : s'.2.stage j = .reserved) :
    ¬ Atomic intent jtis s s' :=
  not_atomic_of_neither (not_debited hj (by simp [hst])) (not_released hj (by simp [hst]))

theorem debited_congr {t : Saga} (h : s.1.mandates = t.1.mandates) :
    Debited amount jtis s s' ↔ Debited amount jtis t s' := by
  simp only [Debited, h]

theorem released_congr {t : Saga} (h : s.1.mandates = t.1.mandates) :
    Released amount jtis s s' ↔ Released amount jtis t s' := by
  simp only [Released, h]

theorem chainOf_congr {db db' : Db} (h : db'.mandates = db.mandates) (fuel : ℕ) (jti : String) :
    db'.chainOf fuel jti = db.chainOf fuel jti := by
  have hparents : db'.parents = db.parents := by
    funext j
    rw [← parents_eq, ← parents_eq, h]
  rw [Db.chainOf, Db.chainOf, hparents]

theorem chainOk_congr {f : MandateRow → MandateRow} {st : Stage} {P : Db → String → Prop}
    {body : String → Py Unit} (hbody : Body plan f st P body) {db db' : Db}
    (h : db'.mandates = db.mandates) (fuel : ℕ) (jti : String) :
    ChainOk plan P fuel jti db' ↔ ChainOk plan P fuel jti db := by
  rw [ChainOk, ChainOk, chainOf_congr h]
  exact and_congr_right fun _ => forall₂_congr fun j _ =>
    hbody.local' _ _ j (by rw [h])

end

/-! ## Settlement -/

/-- The state in which `verify` leaves an approved purchase: its merchant is registered, nothing
was captured for its intent yet, and its amount is reserved on every mandate of its chain. -/
structure Approved (ports : String → Option Port) (fuel : ℕ) (port : Port) (claims : Claims)
    (intent : Intent) (s : Saga) : Prop where
  port : ports intent.merchantId = some port
  fresh : ¬ Held intent.jti s.1
  chain : s.1.chainOf fuel claims.jti ≠ []
  stage : ∀ j ∈ s.1.chainOf fuel claims.jti, s.2.stage j = .reserved
  reserved : ∀ j ∈ s.1.chainOf fuel claims.jti, (s.1.mandates j).isSome ∧
    ∀ row ∈ s.1.mandates j, intent.amount ≤ row.reservedAmount

section

variable (plan : Call → Env) (K : Deps) (ids : FreshIds) (port : Port) (offer : Offer)
  (claims : Claims) (token : String) (intent : Intent) (signature : String) (rid : Option String)
  {ports : String → Option Port}

/-- The port moves the money. -/
def PortCharges (db : Db) : Prop :=
  match port with
  | .mock => MockCharges plan K ids token claims intent signature db
  | .rappiBridge => RappiCharges plan offer claims intent rid db

/-- The port answers that it charged. -/
def PortAccepts (db : Db) : Prop :=
  match port with
  | .mock => MockAccepts plan K ids token claims intent signature db
  | .rappiBridge => RappiAccepts plan offer claims intent rid db

variable {plan claims intent}

variable (plan claims) in
theorem run_portSettle {s : Saga} (hfresh : ¬ Held intent.jti s.1) :
    PortRan intent s (PortCharges plan K ids port offer claims token intent signature rid s.1)
      (PortAccepts plan K ids port offer claims token intent signature rid s.1)
      (runPlan plan (portSettle K ids port offer claims token intent signature rid) s) := by
  cases port with
  | mock => exact run_localSettle K ids token claims signature rid hfresh
  | rappiBridge => exact run_rappiSettle K hfresh

variable {port} {fuel : ℕ} {s s₁ : Saga} {charged accepted : Prop}

variable (plan fuel claims intent) in
/-- What the port's end asks of the rest of a charge: a charge that was made and answered must be
settled on the whole chain, and one that was neither made nor answered released on it. -/
def EndsWhole (charged accepted : Prop) (db : Db) : Prop :=
  charged ∧ accepted ∧ ChainOk plan (SettleOk plan intent.amount) fuel claims.jti db ∨
    ¬ charged ∧ ¬ accepted ∧ ChainOk plan (FreeOk plan intent.amount) fuel claims.jti db

/-- A walk along the chain and the bookkeeping after it. -/
theorem walk_atomic (h : Approved ports fuel port claims intent s)
    (hm : s₁.1.mandates = s.1.mandates) (hst : s₁.2.stage = s.2.stage)
    {f : MandateRow → MandateRow} {st : Stage} {P : Db → String → Prop} {body : String → Py Unit}
    (hbody : Body plan f st P body) (loop : List String → Py Unit) (hnil : loop [] = pure ())
    (hcons : ∀ jti rest, loop (jti :: rest) = (body jti).bind fun _ => loop rest) {G : Prop}
    (hG : ∀ s₂, Wrote f st (s.1.chainOf fuel claims.jti) s₁ s₂ →
      (Atomic intent (s.1.chainOf fuel claims.jti) s s₂ ↔ G))
    {α : Type} {tail : Unit → Py α} (htail : (tail ()).Calls fun c => c.keepsBooks = true) :
    Atomic intent (s.1.chainOf fuel claims.jti) s
        (runPlan plan (((chain fuel claims.jti).bind loop).bind tail) s₁).2 ↔
      G ∧ ChainOk plan P fuel claims.jti s.1 := by
  have hchain := chainOf_congr hm fuel claims.jti
  obtain ⟨hok, hfail⟩ := run_walk hbody loop hnil hcons fuel claims.jti s₁ fun j hj => by
    rw [hm]
    exact (h.reserved j (hchain ▸ hj)).1
  rw [chainOk_congr hbody hm, hchain] at hok hfail
  by_cases hc : ChainOk plan P fuel claims.jti s.1
  · obtain ⟨s₂, hrun, hw⟩ := hok hc
    rw [(sameMoney_bind hrun htail).atomic, hG s₂ hw, and_iff_left hc]
  · obtain ⟨x, s₂, done, hrun, hw, -, j, hj, hjd⟩ := hfail hc
    rw [runPlan, Prog.run_bind_error (planned plan) hrun]
    refine iff_of_false (not_atomic_of_reserved hj ?_) fun hno => hc hno.2
    exact stage_of_not_mem hw hjd (by rw [hst]; exact h.stage j hj)

/-- The end of a charge whose port accepted. -/
theorem finishCharge_atomic (h : Approved ports fuel port claims intent s)
    (hm : s₁.1.mandates = s.1.mandates) (hst : s₁.2.stage = s.2.stage) (purchaseId : String)
    (receipt : Receipt) :
    Atomic intent (s.1.chainOf fuel claims.jti) s
        (runPlan plan (finishCharge fuel purchaseId claims intent receipt) s₁).2 ↔
      Held intent.jti s₁.1 ∧ ChainOk plan (SettleOk plan intent.amount) fuel claims.jti s.1 := by
  obtain ⟨j, hj⟩ := List.exists_mem_of_ne_nil _ h.chain
  refine walk_atomic h hm hst (body_settle intent.amount) (settleLoop intent.amount) rfl
    (fun _ _ => rfl) (fun s₂ hw => ?_) ?_
  · have hstage := hw.stage j
    rw [if_pos hj] at hstage
    rw [← hw.held]
    exact atomic_of_debited ((debited_congr hm).1 (debited_of_wrote hw))
      (not_released hj (by rw [hstage]; decide))
  · exact Prog.calls_bind (Prog.calls_perform rfl) fun _ => Prog.calls_bind
      (Prog.calls_perform rfl) fun _ => Prog.calls_bind (Prog.calls_perform rfl) fun _ => trivial

/-- The end of a charge that is compensated. -/
theorem compensate_atomic (h : Approved ports fuel port claims intent s)
    (hm : s₁.1.mandates = s.1.mandates) (hst : s₁.2.stage = s.2.stage)
    (purchaseId code detail : String) :
    Atomic intent (s.1.chainOf fuel claims.jti) s
        (runPlan plan (compensate fuel purchaseId claims intent code detail) s₁).2 ↔
      ¬ Held intent.jti s₁.1 ∧ ChainOk plan (FreeOk plan intent.amount) fuel claims.jti s.1 := by
  obtain ⟨j, hj⟩ := List.exists_mem_of_ne_nil _ h.chain
  refine walk_atomic h hm hst (body_unreserve intent.amount) (unreserve intent.amount) rfl
    (fun _ _ => rfl) (fun s₂ hw => ?_) ?_
  · have hstage := hw.stage j
    rw [if_pos hj] at hstage
    rw [← hw.held]
    refine atomic_of_released ((released_congr hm).1 (released_of_wrote hw ?_))
      (not_debited hj (by rw [hstage]; decide))
    rw [hm]
    exact fun j hj => (h.reserved j hj).2
  · exact Prog.calls_bind (Prog.calls_perform rfl) fun _ => Prog.calls_bind
      (Prog.calls_perform rfl) fun _ => trivial

/-- After the port's `settle`: the rest of a charge is atomic when it ends whole. -/
theorem afterSettle_atomic (h : Approved ports fuel port claims intent s)
    {out : Except PyErr SettleResult × Saga} (hran : PortRan intent s charged accepted out)
    (purchaseId : String) :
    Atomic intent (s.1.chainOf fuel claims.jti) s
        (runPlan plan (afterSettle fuel purchaseId claims intent out.1) out.2).2 ↔
      EndsWhole plan claims intent fuel charged accepted s.1 := by
  obtain ⟨r, s₁⟩ := out
  obtain ⟨hm, hst, hheld, hacc⟩ := hran
  -- whatever is not an acceptance is compensated
  have hcomp : ¬ accepted → ∀ code detail,
      (Atomic intent (s.1.chainOf fuel claims.jti) s
        (runPlan plan (compensate fuel purchaseId claims intent code detail) s₁).2 ↔
          EndsWhole plan claims intent fuel charged accepted s.1) := by
    intro hno code detail
    rw [compensate_atomic h hm hst, EndsWhole, hheld]
    tauto
  have hrefused : (∀ receipt, r ≠ .ok (.accepted receipt)) → ¬ accepted :=
    fun hr ha => (hacc.2 ha).elim hr
  rcases r with (⟨code, m⟩ | _ | _ | _) | (receipt | ⟨code, detail⟩)
  case ok.accepted =>
    have ha : accepted := hacc.1 ⟨receipt, rfl⟩
    rw [afterSettle, finishCharge_atomic h hm hst, EndsWhole, hheld]
    tauto
  case ok.refused => exact hcomp (hrefused (refused_ne code detail)) _ _
  all_goals exact hcomp (hrefused (raised_ne _)) _ _

/-- **When a charge is atomic**: its first two calls do not fail, the port charges exactly if it
says so, and the walk along the chain that this calls for is carried out. -/
theorem charge_atomic_iff (h : Approved ports fuel port claims intent s) (purchaseId : String)
    (hoffer : offer = (plan (.portGet intent.merchantId intent.offerId)).offer.getD
      (unknownOffer intent.offerId)) :
    Atomic intent (s.1.chainOf fuel claims.jti) s
        (runPlan plan (charge K ports fuel ids purchaseId token claims intent signature rid) s).2 ↔
      Fine plan (.updatePurchase purchaseId .charging (.reservation rid)) ∧
        Fine plan (.portGet intent.merchantId intent.offerId) ∧
          EndsWhole plan claims intent fuel
            (PortCharges plan K ids port offer claims token intent signature rid s.1)
            (PortAccepts plan K ids port offer claims token intent signature rid s.1) s.1 := by
  obtain ⟨j, hj⟩ := List.exists_mem_of_ne_nil _ h.chain
  let Q : Except PyErr Outcome × Saga → Prop := fun out =>
    Atomic intent (s.1.chainOf fuel claims.jti) s out.2 ↔
      Fine plan (.updatePurchase purchaseId .charging (.reservation rid)) ∧
        Fine plan (.portGet intent.merchantId intent.offerId) ∧
          EndsWhole plan claims intent fuel
            (PortCharges plan K ids port offer claims token intent signature rid s.1)
            (PortAccepts plan K ids port offer claims token intent signature rid s.1) s.1
  -- an exception before the port was asked leaves the chain reserved
  refine run_call_cases (Q := Q) () rfl (fun hu => ?_) fun hu x =>
    iff_of_false (not_atomic_of_reserved hj (h.stage j hj)) fun hok => hu hok.1
  rw [h.port]
  refine run_read_cases (Q := Q) (plan (.portGet intent.merchantId intent.offerId)).offer rfl rfl
    (fun hg => ?_) fun hg x =>
      iff_of_false (not_atomic_of_reserved hj (h.stage j hj)) fun hok => hg hok.2.1
  refine Prog.run_bind_of_ok (planned plan) (Prog.run_attempt (planned plan) _ _) ?_
  dsimp only [Q]
  rw [← hoffer, and_iff_right hu, and_iff_right hg]
  have hran := run_portSettle plan K ids port offer claims token signature rid
    (s := (s.1.setPurchase purchaseId .charging (.reservation rid), s.2)) h.fresh
  exact afterSettle_atomic h ⟨hran.mandates, hran.stage, hran.held, hran.accepted⟩ purchaseId

end

/-! ### A purchase at the in-process merchant -/

/-- A mandate of 100.00. -/
def flightClaims : Claims :=
  ⟨"mdt", "agt", "ppt", "USD", [], [], .null, ⟨10000, 10000, none⟩, 0, 0⟩

/-- An offer of 30.00. -/
def flightOffer : Offer := ⟨"off", merchantId, "flights", "flight", 3000, "USD", none⟩

/-- The intent to buy it. -/
def flightIntent : Intent := ⟨"mdt", "agt", merchantId, "off", 3000, "USD", "nonce", "pit", 0, 120⟩

/-- Signatures that verify. -/
def flightDeps : Deps where
  verifyToken _ := .ok flightClaims
  verifyDetached _ _ _ := .ok ()
  signDetached _ _ := ""
  evaluate _ _ _ := .ok true
  describe _ := ""
  bridgeMessage _ := ""

/-- The state after the approval: 30.00 reserved for the purchase. -/
def flightSaga : Saga where
  fst :=
    { mandates := fun j => if j = "mdt" then some
        { status := .active, claims := flightClaims, token := "", reservedAmount := 3000
          spentTotal := 0, txnCount := 0, parentJti := none }
      else none
      instruments := fun _ => some .active
      captures := fun _ => none
      intents := []
      purchases := fun _ => none
      audit := []
      escalations := []
      bridgeOrders := [] }
  snd := ⟨fun j => if j = "mdt" then .reserved else .none, fun _ => (0, 0)⟩

/-- The ids of the purchase. -/
def flightIds : FreshIds := ⟨"pur", "pit", "nonce", "res", "cap", "rct", "esc"⟩

/-- The merchant knows the offer, and the audit entries of type `bad` fail. -/
def auditFails (bad : String) : Call → Env
  | .auditAppend ev =>
    { Env.quiet with fail := if ev.type = bad then some (.other "audit log unavailable") else none }
  | _ => { Env.quiet with offer := some flightOffer }

theorem flight_approved :
    Approved (fun _ => some .mock) 2 .mock flightClaims flightIntent flightSaga where
  port := rfl
  fresh := by
    rintro (h | ⟨o, ho, -⟩)
    · exact absurd h (by decide)
    · cases ho
  chain := by decide
  stage := by decide
  reserved := by decide

theorem charge_atomic_iff_flight :
    Atomic flightIntent ["mdt"] flightSaga (runPlan (auditFails "") (charge flightDeps
        (fun _ => some .mock) 2 flightIds "pur" "" flightClaims flightIntent "" (some "res"))
        flightSaga).2 ↔
      Fine (auditFails "") (.updatePurchase "pur" .charging (.reservation (some "res"))) ∧
        Fine (auditFails "") (.portGet merchantId "off") ∧
          EndsWhole (auditFails "") flightClaims flightIntent 2
            (PortCharges (auditFails "") flightDeps flightIds .mock flightOffer flightClaims ""
              flightIntent "" (some "res") flightSaga.1)
            (PortAccepts (auditFails "") flightDeps flightIds .mock flightOffer flightClaims ""
              flightIntent "" (some "res") flightSaga.1) flightSaga.1 :=
  charge_atomic_iff flightDeps flightIds flightOffer "" "" (some "res") flight_approved "pur" rfl

/-- **A capture that is compensated**: the merchant's audit entry fails after the rail captured,
and the chain's reservation is given back. -/
theorem charge_not_atomic : ¬ ∀ (plan : Call → Env) (s : Saga),
    Approved (fun _ => some .mock) 2 .mock flightClaims flightIntent s →
      Atomic flightIntent (s.1.chainOf 2 flightClaims.jti) s (runPlan plan
        (charge flightDeps (fun _ => some .mock) 2 flightIds "pur" "" flightClaims flightIntent ""
          (some "res")) s).2 := by
  intro h
  obtain ⟨hdebited, -⟩ := h (auditFails "merchant.verified") flightSaga flight_approved
  have hheld := hdebited.1 (Or.inl (by decide))
  exact absurd (hheld "mdt" (by decide)).1 (by decide)

end TryTrust.Agent
