import TryTrust.Bridge.Clicks

/-!
# One approval, one order

A capture token approves one purchase, and a receipt answers one request.

* `ReceiptFor`: a receipt names the purchase, the cart and the approved amount of a request;
* `*_returns`, `finish_receipt`: what passes the drift check is receipted at the approved amount;
* `placeOrder_receipt`: every receipt, fresh or replayed, is for the request that gets it, when the
  requests under one key agree;
* **`one_approval_one_order`**, for tokens presented under one key; **`token_reused`**: under two
  keys, one approval buys two orders.
-/

namespace TryTrust.Bridge

open Conc

/-- The receipt names the purchase and the cart of the request, and captures its amount. -/
def ReceiptFor (request : PlaceOrderRequest) (r : Receipt) : Prop :=
  r.purchaseId = request.purchaseId ∧ r.cartHash = request.cartHash ∧
    ∃ c, parseMoney request.amount = some (.cents c) ∧ r.totalCaptured = fmt c

/-- Two requests ask for the same order. -/
def SameOrder (r r' : PlaceOrderRequest) : Prop :=
  r.purchaseId = r'.purchaseId ∧ r.cartHash = r'.cartHash ∧
    parseMoney r.amount = parseMoney r'.amount

theorem ReceiptFor.of_sameOrder {request request' : PlaceOrderRequest} {r : Receipt}
    (h : ReceiptFor request r) (hs : SameOrder request request') : ReceiptFor request' r := by
  obtain ⟨h1, h2, c, h3, h4⟩ := h
  obtain ⟨s1, s2, s3⟩ := hs
  exact ⟨h1.trans s1, h2.trans s2, c, s3 ▸ h3, h4⟩

/-! ## What the stages return -/

/-- Of a program of which nothing is known, and what follows it. -/
theorem returns_bind_any {α β : Type} {R : Except BridgeErr β → Prop} {p : Br α} {f : α → Br β}
    (hf : ∀ a, (f a).Returns R) (he : ∀ x, R (.error x)) : (p.bind f).Returns R :=
  Prog.returns_bind (Q := fun _ => True) (Prog.returns_of_forall (fun _ => trivial) p)
    (fun a _ => hf a) fun x _ => he x

/-- Of a check, and what follows it. -/
theorem returns_lift_bind {α β : Type} {R : Except BridgeErr β → Prop} {x : Except BridgeErr α}
    {f : α → Br β} (hf : ∀ a, x = .ok a → (f a).Returns R) (he : ∀ e, R (.error e)) :
    ((lift x).bind f).Returns R := by
  unfold lift
  cases x with
  | ok a => exact hf a rfl
  | error e => exact he e

/-- What the guards let through is the approved amount, a number of cents. -/
def Approved (approved total : Money) : Prop := ∃ c, approved = .cents c ∧ total = .cents c

theorem armCheckout_returns (cfg : Config) (request : PlaceOrderRequest) (approved : Money)
    (resolved : String) (store : Fields) :
    (armCheckout cfg request approved resolved store).Returns
      fun r => ∀ a, r = .ok a → Approved approved a.1 := by
  have herr : ∀ (x : BridgeErr) (a : Money × Json), Except.error x = .ok a → Approved approved a.1 :=
    fun x a h => by cases h
  refine returns_bind_any (fun _ => returns_bind_any (fun stores => ?_) herr) herr
  refine returns_lift_bind (fun total _ => returns_bind_any (fun _ => ?_) herr) herr
  refine returns_bind_any (fun detail => returns_lift_bind (fun _ hdrift => ?_) herr) herr
  refine returns_bind_any (fun address => returns_bind_any (fun _ => ?_) herr) herr
  refine returns_bind_any (fun _ => ?_) herr
  rintro a ⟨rfl⟩
  exact checkDrift_ok hdrift

/-! ## The receipts of the table -/

section Workers

variable {ι : Type} (w : ι → PlaceOrderRequest)

/-- Every stored receipt is for a request under its key. -/
def Receipted (db : Db) : Prop :=
  ∀ k, ∀ row ∈ db.orders k, ∀ r ∈ row.receipt, ∃ j, (w j).idemKey = k ∧ ReceiptFor (w j) r

/-- The specification of the receipts: an invariant of the table, in every run. -/
def receiptSpec : Spec ι Call Res BridgeErr Db Click where
  inv _ := Receipted w
  ok _ _ _ _ := True
  prop _ _ _ _ _ _ := True

variable {w} {db : Db}

/-- A new row keeps the receipts, when its own is for a request under the key. -/
theorem receipted_write (h : Receipted w db) {k : String} {row : OrderRow}
    (hrow : ∀ r ∈ row.receipt, ∃ j, (w j).idemKey = k ∧ ReceiptFor (w j) r) :
    Receipted w (db.setOrder k row) := by
  intro k' row' hrow' r hr
  by_cases hk : k' = k
  · subst hk
    rw [Db.setOrder_same] at hrow'
    obtain rfl := Option.some.inj hrow'
    exact hrow r hr
  · rw [Db.setOrder_ne _ _ hk] at hrow'
    exact h k' row' hrow' r hr

/-- A transition keeps the receipts, when the one it stores is for a request under the key. -/
theorem receipted_transition (h : Receipted w db) {k : String} {state : OrderState}
    {orderId : Option String} {receipt : Option Receipt} {expect : Option OrderState}
    (hrec : ∀ r ∈ receipt, ∃ j, (w j).idemKey = k ∧ ReceiptFor (w j) r) :
    Receipted w (transition k state orderId receipt expect db).2 := by
  obtain ⟨row, hrow, -, heq⟩ | ⟨m, heq⟩ := transition_cases k state orderId receipt expect db
  · rw [heq]
    refine receipted_write h fun r hr => ?_
    cases receipt with
    | none => exact h k row hrow r hr
    | some r' =>
      obtain rfl := Option.some.inj hr
      exact hrec r' rfl
  · rw [heq]
    exact h

/-- A call that stores no receipt keeps the receipts. -/
theorem receipted_call (h : Receipted w db) {c : Call} (hc : c.noReceipt) (e : Env) :
    Receipted w (exec e c db).2 := by
  cases c with
  | transition k state orderId receipt expect =>
    obtain rfl : receipt = none := hc
    exact receipted_transition h fun r hr => by cases hr
  | claim k purchaseId cartHash amount =>
    show Receipted w (claim k purchaseId cartHash amount db).2
    obtain heq | ⟨-, heq⟩ := claim_keeps k purchaseId cartHash amount db
    · rw [heq]
      exact h
    · rw [heq]
      exact receipted_write h fun r hr => by cases hr
  | _ => exact h

variable [DecidableEq ι] {i : ι}

/-- A program that stores no receipt. -/
theorem noReceipt_outline {α : Type} {p : Br α} (hp : p.Calls Call.noReceipt) (γ : Click) :
    Outline bridgeSystem (receiptSpec w) i (onOk fun _ _ => True) p γ := by
  refine outline_mono (fun r _ _ => onOk_true r _) (outline_calls (ψ := fun _ => True)
    (fun g db e c hc _ hI _ => ⟨receipted_call hI hc e, trivial, trivial⟩) hp trivial)

/-- Of a check, and what follows it. -/
theorem outline_lift_bind {α : Type} {φ : Receipt → Click → Prop} {x : Except BridgeErr α}
    {f : α → Br Receipt} {γ : Click}
    (hf : ∀ a, x = .ok a → Outline bridgeSystem (receiptSpec w) i (onOk φ) (f a) γ) :
    Outline bridgeSystem (receiptSpec w) i (onOk φ) ((lift x).bind f) γ := by
  unfold lift
  cases x with
  | ok a => exact hf a rfl
  | error e => trivial

/-- The stages before the guard store no receipt. -/
theorem staged_bind {α : Type} {φ : Receipt → Click → Prop} {p : Br α} {f : α → Br Receipt}
    {k : String} (hp : p.Calls (Call.staged k)) {γ : Click}
    (hf : ∀ a γ', Outline bridgeSystem (receiptSpec w) i (onOk φ) (f a) γ') :
    Outline bridgeSystem (receiptSpec w) i (onOk φ) (p.bind f) γ :=
  outline_bind_ok (noReceipt_outline (Prog.calls_mono (fun _ h => h.2) hp) γ)
    fun a γ' _ => hf a γ'

variable (D : Deps) (cfg : Config)

/-- The end of an order stores and returns a receipt for its request. -/
theorem finish_receipt {total : Money} (state : OrderState) (orderId : Option String) (γ : Click)
    {c : ℤ} (hamount : parseMoney (w i).amount = some (.cents c)) (htotal : total = .cents c) :
    Outline bridgeSystem (receiptSpec w) i (onOk fun r _ => ReceiptFor (w i) r)
      (finish cfg (w i) total state orderId) γ := by
  have hlabel : (call .loadPaymentLabel).Calls Call.noReceipt := Prog.calls_perform trivial
  refine outline_bind_ok (noReceipt_outline hlabel γ) fun label γ' _ => ?_
  have hreceipt : ∀ label : String, ReceiptFor (w i)
      { state := state, dryRun := cfg.dryRun, orderId := orderId, totalCaptured := total.text,
        cartHash := (w i).cartHash, purchaseId := (w i).purchaseId, paymentMethod := label } :=
    fun _ => ⟨rfl, rfl, c, hamount, by rw [htotal]; rfl⟩
  refine outline_bind_ok (φ := fun _ _ => True) (outline_perform_eq fun g db e _ hI _ =>
    ⟨_, _, _, rfl, rfl, ?_, trivial, onOk_true _ _⟩) fun _ _ _ => hreceipt label
  refine receipted_transition hI fun r hr => ⟨i, rfl, ?_⟩
  obtain rfl := Option.some.inj hr
  exact hreceipt label

/-- From the guard on: the receipt of a click that was answered. -/
theorem clickOrder_receipt {total : Money} (resolved : String) (detail : Json) (γ : Click)
    {c : ℤ} (hamount : parseMoney (w i).amount = some (.cents c)) (htotal : total = .cents c) :
    Outline bridgeSystem (receiptSpec w) i (onOk fun r _ => ReceiptFor (w i) r)
      (clickOrder cfg (w i) total resolved detail) γ := by
  have hguard : ((call (.transition (w i).idemKey .clicked none none (some .armed))).tryCatch
      fun x => .raise (conflictOf (w i) x)).Calls Call.noReceipt :=
    Prog.calls_tryCatch (Prog.calls_perform rfl) fun _ => trivial
  have hpaying : (payingCall resolved detail).Calls Call.noReceipt := by
    unfold payingCall
    cases returnKeyOf detail with
    | none => trivial
    | some returnKey =>
      exact Prog.calls_bind (Prog.calls_perform trivial) fun _ => Prog.calls_perform trivial
  refine outline_bind_ok (noReceipt_outline hguard γ) fun _ γ₁ _ => ?_
  refine outline_bind_ok (noReceipt_outline (Prog.calls_attempt hpaying) γ₁) fun answer γ₂ _ => ?_
  cases answer with
  | error x =>
    show Outline bridgeSystem (receiptSpec w) i _ (clickFailed (w i) x) γ₂
    have hrecord : ∀ state, (call (.transition (w i).idemKey state none none
        (some .clicked))).Calls Call.noReceipt := fun _ => Prog.calls_perform rfl
    unfold clickFailed
    split_ifs
    · exact outline_bind_ok (noReceipt_outline (hrecord .failed) γ₂) fun _ _ _ => trivial
    · exact outline_bind_ok (noReceipt_outline (hrecord .uncertain) γ₂) fun _ _ _ => trivial
  | ok result =>
    dsimp only
    cases orderIdOf result with
    | none => trivial
    | some orderId => exact finish_receipt cfg .confirmed orderId γ₂ hamount htotal

theorem executeOrder_receipt {approved : Money} (γ : Click)
    (hamount : parseMoney (w i).amount = some approved) :
    Outline bridgeSystem (receiptSpec w) i (onOk fun r _ => ReceiptFor (w i) r)
      (executeOrder D cfg (w i) approved) γ := by
  refine staged_bind (openSession_staged (w i)) fun _ γ₁ => ?_
  refine staged_bind (bindCart_staged D (w i) approved) fun cart γ₂ => ?_
  refine staged_bind (verifyApproval_staged D cfg (w i) approved) fun claims γ₃ => ?_
  refine staged_bind (applyPayment_staged cfg (w i) cart.1) fun _ γ₄ => ?_
  have harm := noReceipt_outline (w := w) (i := i) (Prog.calls_mono (fun _ h => h.2)
    (armCheckout_staged cfg (w i) approved cart.1 cart.2)) γ₄
  -- what the guards let through is the approved amount
  refine outline_bind_ok (φ := fun a _ => Approved approved a.1) (outline_mono ?_ (outline_returns
    harm (armCheckout_returns cfg (w i) approved cart.1 cart.2))) ?_
  · rintro (x | a) γ' ⟨-, h⟩
    · trivial
    · exact h a rfl
  rintro armed γ₅ ⟨c, rfl, htotal⟩
  unfold submitOrder
  split_ifs
  · trivial
  · exact finish_receipt cfg .dryRunConfirmed none γ₅ hamount htotal
  · exact clickOrder_receipt cfg cart.1 armed.2 γ₅ hamount htotal

/-- A claim answers a row whose receipts are for requests under the key. -/
theorem claim_receipt (k purchaseId cartHash amount : String) (γ : Click) :
    Outline bridgeSystem (receiptSpec w) i
      (onOk fun (existing : Option OrderRow) _ => ∀ row ∈ existing, ∀ r ∈ row.receipt,
        ∃ j, (w j).idemKey = k ∧ ReceiptFor (w j) r)
      (call (.claim k purchaseId cartHash amount)) γ := by
  refine outline_perform_eq fun g db e _ hI _ =>
    ⟨.ok (claim k purchaseId cartHash amount db).1, _, _, rfl, rfl,
      receipted_call (c := .claim k purchaseId cartHash amount) hI trivial e, trivial, ?_⟩
  intro row hrow
  refine hI k row ?_
  unfold claim at hrow
  cases horder : db.orders k with
  | none => rw [horder] at hrow; cases hrow
  | some row' => rw [horder] at hrow; exact hrow

/-- **The receipt that a worker gets is for its request**, when the requests under one key agree. -/
theorem placeOrder_receipt (hkey : ∀ i j, (w i).idemKey = (w j).idemKey → SameOrder (w i) (w j))
    (γ : Click) :
    Outline bridgeSystem (receiptSpec w) i (onOk fun r _ => ReceiptFor (w i) r)
      (placeOrder D cfg (w i)) γ := by
  unfold placeOrder
  split_ifs
  · trivial
  have hparse : ∀ approved, parseMoneyE (w i).amount = .ok approved →
      parseMoney (w i).amount = some approved := by
    intro approved h
    unfold parseMoneyE at h
    cases hp : parseMoney (w i).amount with
    | none => rw [hp] at h; cases h
    | some m => rw [hp] at h; rw [Except.ok.inj h]
  refine outline_lift_bind fun approved happroved => ?_
  have hamount := hparse approved happroved
  refine outline_bind_ok (claim_receipt _ _ _ _ γ) fun existing γ₁ hrow => ?_
  cases existing with
  | none => exact executeOrder_receipt D cfg γ₁ hamount
  | some row =>
    simp only [resumeOrder]
    cases hreplay : row.replay with
    | some receipt =>
      -- the stored receipt is for a request under this key, which asks for the same order
      have hstored : receipt ∈ row.receipt := by
        unfold OrderRow.replay at hreplay
        split_ifs at hreplay
        exact hreplay
      obtain ⟨j, hj, hfor⟩ := hrow row rfl receipt hstored
      exact hfor.of_sameOrder (hkey j i hj)
    | none =>
      dsimp only
      split_ifs
      · trivial
      · exact executeOrder_receipt D cfg γ₁ hamount

end Workers

/-! ## Runs -/

/-- The paying call was answered by an order. -/
def Click.succeeded : Click → Bool
  | ordered | confirmed => true
  | _ => false

/-- **One approval, one order**: at most one paying click succeeds for a token, and every receipt
returned is for the request that gets it. -/
def OneApproval {ι : Type} (w : ι → PlaceOrderRequest)
    (c : Conc.Config ι Call Res BridgeErr Receipt Db Click) : Prop :=
  (∀ i j, (w i).captureToken = (w j).captureToken → (c.hist i).succeeded → (c.hist j).succeeded →
    i = j) ∧
  ∀ i r, c.prog i = .ret r → ReceiptFor (w i) r

section Runs

variable {ι : Type} [DecidableEq ι] (D : Deps) (cfg : Config)

theorem Click.holds_of_succeeded {γ : Click} (h : γ.succeeded = true) : γ.holds = true := by
  cases γ <;> first | rfl | cases h

/-- **One approval, one order**, in every run in which a token is presented under one key, the
requests under one key ask for the same order, and checkpoints find no other worker of the key
past its guard with no rejection recorded. -/
theorem one_approval_one_order (w : ι → PlaceOrderRequest)
    (htoken : ∀ i j, (w i).captureToken = (w j).captureToken → (w i).idemKey = (w j).idemKey)
    (hkey : ∀ i j, (w i).idemKey = (w j).idemKey → SameOrder (w i) (w j)) (xs : List (ι × Env))
    (hok : bridgeSystem.Along
      (fun c i _ => ∀ op ∈ (c.prog i).next, CheckpointClear w c.hist i op)
      (bridgeStart D cfg w) xs) :
    OneApproval w (bridgeSystem.run (bridgeStart D cfg w) xs) := by
  have hclicks := (outline_run (bridgeStart_outlined D cfg) hok).2.inv
  have hreceipts : Outlined bridgeSystem (receiptSpec w)
      (fun i => onOk fun r _ => ReceiptFor (w i) r) (bridgeStart D cfg w) :=
    ⟨(fun _ _ h => nomatch h), fun i => placeOrder_receipt D cfg hkey .idle⟩
  have hrun := (outline_run hreceipts (bridgeSystem.along_of_forall (fun _ _ _ _ _ => trivial) _ xs)).2
  refine ⟨fun i j h hi hj => ?_, fun i r hr => ?_⟩
  · exact hclicks.single i j (htoken i j h) (Click.holds_of_succeeded hi)
      (Click.holds_of_succeeded hj)
  · have houtline := hrun.outline i
    rw [hr] at houtline
    exact houtline

end Runs

/-! ### One token under two keys -/

theorem one_approval_one_order_retried :
    OneApproval retried (bridgeSystem.run (bridgeStart pantryDeps liveConfig retried)
      (List.replicate 22 (0, taking) ++ List.replicate 2 (1, taking))) :=
  one_approval_one_order pantryDeps liveConfig retried (fun _ _ _ => rfl)
    (fun _ _ _ => ⟨rfl, rfl, rfl⟩) _ (by decide +kernel)

/-- The same approved order, sent under two keys. -/
def resent : Fin 2 → PlaceOrderRequest
  | 0 => pantryOrder "idem-1"
  | 1 => pantryOrder "idem-2"

/-- **One approval buys two orders**: the token is not consumed, and each key has its own row. -/
theorem token_reused : ¬ ∀ xs : List (Fin 2 × Env),
    OneApproval resent (bridgeSystem.run (bridgeStart pantryDeps liveConfig resent) xs) := by
  intro h
  -- both are armed before either clicks
  have hone := (h (List.replicate 17 (0, taking) ++ List.replicate 17 (1, taking) ++
    List.replicate 5 (0, taking) ++ List.replicate 5 (1, taking))).1 0 1 rfl
    (by decide +kernel) (by decide +kernel)
  exact absurd hone (by decide)

end TryTrust.Bridge
