import TryTrust.Bridge.Clicks
import TryTrust.CanonicalJson
import TryTrust.Conc.Transaction

/-!
# The cart behind the click

The flow reads the cart three times. It hashes the first store of the first answer, and compares
the total of the first store of the last one with the approved amount.

* `shaDigest`: the digest of canonical JSON; `cartBinding`, `computeCartHash_eq`: what is hashed;
* `cartSystem`: the workers, with the carts that each of them has read;
* `Bound`, `Unchanged`; `Checked`: what the flow has checked at its click; `placeOrder_checked`;
* **`click_bound`**: the click is bound to the approved cart when the last cart is the store that was
  hashed, and only then; **`click_unbound`**.
-/

namespace TryTrust.Bridge

open Conc

/-! ## Bindings -/

/-- `sha256_hex(canonical_json(value))`. -/
def shaDigest (sha : String → String) (value : Json) : Except BridgeErr String :=
  match canonicalText value with
  | some text => .ok (sha text)
  | none => .error (.other "CanonicalizationError")

/-- The libraries, with a hash function for their digest. -/
def Deps.withSha (D : Deps) (sha : String → String) : Deps := { D with digest := shaDigest sha }

/-- The dictionary that `compute_cart_hash` hashes. -/
def cartBinding (storeType : String) (store : Fields) : Except BridgeErr Json := do
  let total ← storeTotal store
  pure (.obj [("store_type", .str storeType), ("store_id", store.get "id"),
    ("products", canonicalCartValue (store.getD "products" (.arr []))),
    ("total", .str (totalText store total))])

theorem computeCartHash_eq (D : Deps) (storeType : String) (store : Fields) :
    computeCartHash D storeType store = (cartBinding storeType store).bind D.digest := by
  rw [computeCartHash, cartBinding]
  cases storeTotal store <;> rfl

theorem shaDigest_ok {sha : String → String} {value : Json} {hash : String}
    (h : shaDigest sha value = .ok hash) : ∃ text, canonicalText value = some text ∧ sha text = hash := by
  rw [shaDigest] at h
  split at h
  · next text htext => exact ⟨text, htext, Except.ok.inj h⟩
  · cases h

/-- What a cart hash says of a store. -/
theorem computeCartHash_ok {D : Deps} {sha : String → String} {storeType hash : String}
    {store : Fields} : computeCartHash (D.withSha sha) storeType store = .ok hash ↔
      ∃ value text, cartBinding storeType store = .ok value ∧ canonicalText value = some text ∧
        sha text = hash := by
  rw [computeCartHash_eq]
  cases hbinding : cartBinding storeType store with
  | error x =>
    constructor
    · intro h
      cases h
    · rintro ⟨_, _, h, -⟩
      cases h
  | ok value =>
    constructor
    · intro h
      obtain ⟨text, htext, hsha⟩ := shaDigest_ok h
      exact ⟨value, text, rfl, htext, hsha⟩
    · rintro ⟨_, text, ⟨⟩, htext, rfl⟩
      show shaDigest sha value = _
      rw [shaDigest, htext]

/-- Two stores are the same to `compute_cart_hash`: id, products and total, up to the order of
keys. -/
def SameBinding (storeType : String) (store store' : Fields) : Prop :=
  ∃ value value' text, cartBinding storeType store = .ok value ∧
    cartBinding storeType store' = .ok value' ∧
      canonicalText value = some text ∧ canonicalText value' = some text

/-! ## The carts that a worker reads -/

/-- The carts that a worker has read: for which store type, and their stores. -/
abbrev Reads : Type := List (String × List Fields)

/-- What a call adds. -/
def Reads.advance : Reads → (c : Call) → Except BridgeErr (Res c) → Reads
  | reads, .recalculate storeType, .ok (stores : List Fields) => reads ++ [(storeType, stores)]
  | reads, _, _ => reads

/-- The pool of workers. -/
def cartSystem {ι : Type} : System ι Call Res BridgeErr Db Reads Env where
  sem := exec
  adv _ reads _ c r := reads.advance c r

/-- The start of the workers. -/
def cartStart {ι : Type} (D : Deps) (cfg : Config) (w : ι → PlaceOrderRequest) :
    Conc.Config ι Call Res BridgeErr Receipt Db Reads where
  shared := ⟨fun _ => none, ""⟩
  prog i := placeOrder D cfg (w i)
  hist _ := []

/-- **The click is bound to the approved cart**: the cart that was read last is one store with the
approved hash, and its total is the approved amount. -/
def Bound (D : Deps) (request : PlaceOrderRequest) (reads : Reads) : Prop :=
  ∃ storeType store, reads.getLast? = some (storeType, [store]) ∧
    computeCartHash D storeType store = .ok request.cartHash ∧
      ∃ cents, parseMoney request.amount = some (.cents cents) ∧
        storeTotal store = .ok (.cents cents)

/-- **The cart is unchanged**: it was read last as one store, which has the id, the products and the
total of the first store that was read first. -/
def Unchanged (reads : Reads) : Prop :=
  ∃ storeType store rest store', reads.head? = some (storeType, store :: rest) ∧
    reads.getLast? = some (storeType, [store']) ∧ SameBinding storeType store store'

/-- **What the flow has checked at its click**: the hash of the first store that was read first,
and the total of the first store that was read last. -/
def Checked (D : Deps) (request : PlaceOrderRequest) (reads : Reads) : Prop :=
  ∃ storeType store rest middle stores cents,
    reads = [(storeType, store :: rest), (storeType, middle), (storeType, stores)] ∧
      computeCartHash D storeType store = .ok request.cartHash ∧
        parseMoney request.amount = some (.cents cents) ∧
          storeTotal (stores.headD store) = .ok (.cents cents)

/-- A cart that is unchanged is the approved one. -/
theorem bound_of_unchanged {D : Deps} {sha : String → String} {request : PlaceOrderRequest}
    {reads : Reads} (hchecked : Checked (D.withSha sha) request reads) (h : Unchanged reads) :
    Bound (D.withSha sha) request reads := by
  obtain ⟨t, store, rest, middle, stores, cents, rfl, hhash, hamount, htotal⟩ := hchecked
  obtain ⟨t', store₀, rest₀, store', hhead, hlast, value, value', text, hvalue, hvalue', htext,
    htext'⟩ := h
  cases hhead
  cases hlast
  refine ⟨t, store', rfl, ?_, cents, hamount, htotal⟩
  obtain ⟨v, u, hv, hu, hsha⟩ := computeCartHash_ok.1 hhash
  obtain rfl : value = v := Except.ok.inj (hvalue.symm.trans hv)
  obtain rfl : text = u := Option.some.inj (htext.symm.trans hu)
  exact computeCartHash_ok.2 ⟨value', text, hvalue', htext', hsha⟩

/-- The approved cart is unchanged, when hashes do not collide. -/
theorem unchanged_of_bound {D : Deps} {sha : String → String} (hsha : Function.Injective sha)
    {request : PlaceOrderRequest} {reads : Reads}
    (hchecked : Checked (D.withSha sha) request reads) (h : Bound (D.withSha sha) request reads) :
    Unchanged reads := by
  obtain ⟨t, store, rest, middle, stores, cents, rfl, hhash, hamount, htotal⟩ := hchecked
  obtain ⟨t', store', hlast, hhash', -⟩ := h
  cases hlast
  obtain ⟨v, u, hv, hu, hsha₁⟩ := computeCartHash_ok.1 hhash
  obtain ⟨v', u', hv', hu', hsha₂⟩ := computeCartHash_ok.1 hhash'
  obtain rfl : u = u' := hsha (hsha₁.trans hsha₂.symm)
  exact ⟨t, store, rest, store', rfl, rfl, v, v', u, hv, hv', hu, hu'⟩

/-! ## The flow up to its click -/

/-- The call neither reads the cart nor clicks. -/
def Call.unread : Call → Prop
  | .recalculate _ | .click .. => False
  | _ => True

section Workers

variable {ι : Type} [DecidableEq ι] {w : ι → PlaceOrderRequest} {i : ι} (D : Deps) (cfg : Config)
  {reads : Reads}

/-- The specification: a worker that clicks has made its checks. -/
def cartSpec (w : ι → PlaceOrderRequest) : Spec ι Call Res BridgeErr Db Reads where
  inv _ _ := True
  ok _ _ _ _ := True
  prop g _ i c _ _ := c.isClick → Checked D (w i) (g i)

variable {D}

theorem advance_unread {c : Call} (h : c.unread) (r : Except BridgeErr (Res c)) :
    reads.advance c r = reads := by
  cases c with
  | recalculate storeType => exact absurd h id
  | _ => rfl

/-- Calls that neither read the cart nor click. -/
theorem unread_outline {α : Type} {p : Br α} (hp : p.Calls Call.unread) :
    Outline cartSystem (cartSpec D w) i (fun _ reads' => reads' = reads) p reads := by
  refine outline_calls (φ := Call.unread) (ψ := fun reads' => reads' = reads) ?_ hp rfl
  rintro g s e c hc rfl - -
  refine ⟨trivial, fun hclick => ?_, advance_unread hc _⟩
  cases c with
  | click t k => exact absurd hc id
  | _ => cases hclick

/-- A stage without reads, and what follows it. -/
theorem unread_bind {α β : Type} {φ : β → Reads → Prop} {p : Br α} {f : α → Br β}
    (hp : p.Calls Call.unread)
    (hf : ∀ a, Outline cartSystem (cartSpec D w) i (onOk φ) (f a) reads) :
    Outline cartSystem (cartSpec D w) i (onOk φ) (p.bind f) reads := by
  refine outline_bind (unread_outline hp) ?_ fun _ _ _ => trivial
  rintro a _ rfl
  exact hf a

/-- A check, and what follows it. -/
theorem check_bind {α β : Type} {φ : β → Reads → Prop} {x : Except BridgeErr α} {f : α → Br β}
    (hf : ∀ a, x = .ok a → Outline cartSystem (cartSpec D w) i (onOk φ) (f a) reads) :
    Outline cartSystem (cartSpec D w) i (onOk φ) ((lift x).bind f) reads := by
  unfold lift
  cases x with
  | ok a => exact hf a rfl
  | error x => trivial

/-- A read of the cart. -/
theorem recalculate_outline (storeType : String) :
    Outline cartSystem (cartSpec D w) i
      (onOk fun (stores : List Fields) reads' => reads' = reads ++ [(storeType, stores)])
      (call (.recalculate storeType)) reads := by
  refine outline_perform fun g s e _ _ _ => ⟨trivial, fun h => (by cases h), ?_⟩
  cases hr : (cartSystem.sem (ι := ι) e (.recalculate storeType) s).1 with
  | error x => trivial
  | ok stores => rfl

theorem unread_call {c : Call} (h : c.unread) : (call c).Calls Call.unread := Prog.calls_perform h

theorem checkpoint_unread (request : PlaceOrderRequest) (state : OrderState) :
    (checkpoint request state).Calls Call.unread := unread_call trivial

/-- The store that was bound, in the one cart that was read. -/
structure BoundCart (D : Deps) (request : PlaceOrderRequest) (cart : String × Fields)
    (reads : Reads) : Prop where
  reads : ∃ rest, reads = [(cart.1, cart.2 :: rest)]
  hash : computeCartHash D cart.1 cart.2 = .ok request.cartHash

/-- **The binding of the cart.** -/
theorem bindCart_outline (approved : Money) :
    Outline cartSystem (cartSpec D w) i (onOk (BoundCart D (w i))) (bindCart D (w i) approved) [] := by
  refine unread_bind (unread_call trivial) fun resolved => ?_
  refine outline_bind_ok (recalculate_outline resolved) ?_
  rintro (stores : List Fields) _ rfl
  cases stores with
  | nil => trivial
  | cons store rest =>
    refine check_bind fun _ _ => check_bind fun current hcurrent => ?_
    split_ifs with hne
    · trivial
    · refine unread_bind (checkpoint_unread _ _) fun _ => ⟨⟨rest, rfl⟩, ?_⟩
      rw [hcurrent, not_not.1 hne]

theorem verifyApproval_unread (request : PlaceOrderRequest) (approved : Money) :
    (verifyApproval D cfg request approved).Calls Call.unread :=
  Prog.calls_bind (unread_call trivial) fun _ => Prog.calls_bind (unread_call trivial) fun _ =>
    Prog.calls_bind (lift_calls _) fun _ => Prog.calls_bind (checkpoint_unread _ _) fun _ => trivial

theorem applyPayment_unread (resolved : String) : (applyPayment cfg resolved).Calls Call.unread :=
  Prog.calls_bind (unread_call trivial) fun _ => Prog.calls_bind (lift_calls _) fun _ =>
    Prog.calls_bind (unread_call trivial) fun _ => unread_call trivial

/-- **The guards** on the cart that is read last. -/
theorem armCheckout_outline {approved : Money} (hamount : parseMoney (w i).amount = some approved)
    {cart : String × Fields} (hcart : BoundCart D (w i) cart reads) :
    Outline cartSystem (cartSpec D w) i (onOk fun _ reads' => Checked D (w i) reads')
      (armCheckout cfg (w i) approved cart.1 cart.2) reads := by
  obtain ⟨⟨rest, rfl⟩, hhash⟩ := hcart
  refine outline_bind_ok (recalculate_outline cart.1) ?_
  rintro (middle : List Fields) _ rfl
  refine outline_bind_ok (recalculate_outline cart.1) ?_
  rintro (stores : List Fields) _ rfl
  refine check_bind fun total htotal => check_bind fun _ _ => ?_
  refine unread_bind (unread_call trivial) fun detail => check_bind fun _ hdrift => ?_
  refine unread_bind (unread_call trivial) fun address => check_bind fun _ _ => ?_
  refine unread_bind (checkpoint_unread _ _) fun _ => ?_
  obtain ⟨cents, happroved, hcents⟩ := checkDrift_ok hdrift
  exact ⟨cart.1, cart.2, rest, middle, stores, cents, rfl, hhash, hamount.trans (by rw [happroved]),
    htotal.trans (by rw [hcents])⟩

theorem finish_unread (request : PlaceOrderRequest) (total : Money) (state : OrderState)
    (orderId : Option String) : (finish cfg request total state orderId).Calls Call.unread :=
  Prog.calls_bind (unread_call trivial) fun _ => Prog.calls_bind (unread_call trivial) fun _ => trivial

theorem clickFailed_unread (request : PlaceOrderRequest) (x : BridgeErr) :
    (clickFailed request x).Calls Call.unread := by
  unfold clickFailed
  split_ifs
  · exact Prog.calls_bind (unread_call trivial) fun _ => trivial
  · exact Prog.calls_bind (unread_call trivial) fun _ => trivial

/-- **The click** of a worker that has made its checks. -/
theorem payingCall_checked (resolved : String) (detail : Json) (h : Checked D (w i) reads) :
    Outline cartSystem (cartSpec D w) i (fun _ reads' => reads' = reads)
      (payingCall resolved detail) reads := by
  unfold payingCall
  cases returnKeyOf detail with
  | none => rfl
  | some returnKey =>
    refine outline_bind (Q := fun _ reads' => reads' = reads) ?_ ?_ fun _ _ h => h
    · exact outline_perform fun g s e hg _ _ => ⟨trivial, fun _ => hg ▸ h, rfl⟩
    · rintro _ _ rfl
      exact unread_outline (unread_call trivial)

/-- The guard `ARMED → CLICKED`, the click, and what its answer records. -/
theorem clickOrder_checked (total : Money) (resolved : String) (detail : Json)
    (h : Checked D (w i) reads) :
    Outline cartSystem (cartSpec D w) i (onOk fun _ _ => True)
      (clickOrder cfg (w i) total resolved detail) reads := by
  refine unread_bind (Prog.calls_tryCatch (unread_call trivial) fun _ => trivial) fun _ => ?_
  refine outline_bind (outline_attempt (payingCall_checked resolved detail h)) ?_ fun _ _ _ => trivial
  rintro answer _ ⟨_, -, rfl⟩
  refine outline_mono (fun r γ _ => onOk_true r γ) (unread_outline ?_)
  cases answer with
  | error x => exact clickFailed_unread _ x
  | ok result =>
    dsimp only
    cases orderIdOf result with
    | none => trivial
    | some orderId => exact finish_unread cfg _ _ _ _

/-- The checkpoints of an order. -/
theorem executeOrder_checked {approved : Money} (hamount : parseMoney (w i).amount = some approved) :
    Outline cartSystem (cartSpec D w) i (onOk fun _ _ => True)
      (executeOrder D cfg (w i) approved) [] := by
  refine unread_bind (Prog.calls_bind (unread_call trivial) fun _ => checkpoint_unread _ _) fun _ => ?_
  refine outline_bind_ok (bindCart_outline approved) fun cart reads hcart => ?_
  refine unread_bind (verifyApproval_unread cfg _ approved) fun claims => ?_
  refine unread_bind (applyPayment_unread cfg cart.1) fun _ => ?_
  refine outline_bind_ok (armCheckout_outline cfg hamount hcart) fun armed reads' hchecked => ?_
  unfold submitOrder
  split_ifs
  · trivial
  · exact outline_mono (fun r γ _ => onOk_true r γ) (unread_outline (finish_unread cfg _ _ _ _))
  · exact clickOrder_checked cfg _ _ _ hchecked

/-- **The outline of a worker**: it has made its checks when it clicks. -/
theorem placeOrder_checked :
    Outline cartSystem (cartSpec D w) i (onOk fun _ _ => True) (placeOrder D cfg (w i)) [] := by
  unfold placeOrder
  split_ifs
  · trivial
  refine check_bind fun approved happroved => unread_bind (unread_call trivial) fun existing => ?_
  have hamount : parseMoney (w i).amount = some approved := by
    unfold parseMoneyE at happroved
    cases hparse : parseMoney (w i).amount with
    | none => simp [hparse] at happroved
    | some m => simp_all
  cases existing with
  | none => exact executeOrder_checked cfg hamount
  | some row =>
    simp only [resumeOrder]
    cases row.replay with
    | some receipt => trivial
    | none =>
      dsimp only
      split_ifs
      · trivial
      · exact executeOrder_checked cfg hamount

/-! ## Runs -/

/-- **The click is bound to the approved cart** when the cart that was read last is the one store
that was hashed; when hashes do not collide, only then. -/
theorem click_bound (D : Deps) (sha : String → String) (cfg : Config) (w : ι → PlaceOrderRequest)
    (xs : List (ι × Env)) :
    cartSystem.Along (fun c i _ => ∀ t k, (c.prog i).next = some (.click t k) →
      (Unchanged (c.hist i) → Bound (D.withSha sha) (w i) (c.hist i)) ∧
        (Function.Injective sha → Bound (D.withSha sha) (w i) (c.hist i) → Unchanged (c.hist i)))
      (cartStart (D.withSha sha) cfg w) xs := by
  have hsound : Outlined cartSystem (cartSpec (D.withSha sha) w) (fun _ => onOk fun _ _ => True)
      (cartStart (D.withSha sha) cfg w) := ⟨trivial, fun i => placeOrder_checked cfg⟩
  have hruns : cartSystem.Along (cartSpec (D.withSha sha) w).Ok (cartStart (D.withSha sha) cfg w) xs :=
    cartSystem.along_of_forall (fun _ _ _ _ _ => trivial) _ _
  refine cartSystem.along_mono (fun c i e hprop t k hnext => ?_) (outline_run hsound hruns).1
  have hchecked := hprop (.click t k) (by rw [hnext]; rfl) rfl
  exact ⟨bound_of_unchanged hchecked, fun hsha => unchanged_of_bound hsha hchecked⟩

end Workers

/-! ### A second store -/

/-- The libraries, with the hash that the cart of the order has. -/
def pantrySha : Deps := pantryDeps.withSha fun _ => pantryHash

/-- A worker of the order. -/
def pantryStart : Conc.Config Unit Call Res BridgeErr Receipt Db Reads :=
  cartStart pantrySha liveConfig fun _ => pantryOrder "idem-1"

/-- A store that joins the cart after it was hashed. -/
def bakery : Fields := [("id", .str "901"), ("products", .arr []), ("total", .str "40000.00")]

/-- Rappi answers as before, but for the carts that it reads. -/
def withCart (stores : List Fields) : Env
  | .recalculate _ => .ok stores
  | c => taking c

/-- The worker up to its click: another store joins the cart after the first read. -/
def joined : List (Unit × Env) :=
  List.replicate 5 ((), withCart [pantry]) ++ List.replicate 13 ((), withCart [pantry, bakery])

/-- **A second store** that joins the cart after it was hashed is clicked with the first. -/
theorem click_unbound :
    ((cartSystem.run pantryStart joined).prog ()).next.map Call.isClick = some true ∧
      ¬ Bound pantrySha (pantryOrder "idem-1") ((cartSystem.run pantryStart joined).hist ()) := by
  refine ⟨by decide +kernel, ?_⟩
  rintro ⟨storeType, store, hlast, -⟩
  have hstores : (((cartSystem.run pantryStart joined).hist ()).getLast?.map fun cart =>
      cart.2.length) = some 2 := by decide +kernel
  rw [hlast] at hstores
  cases hstores

end TryTrust.Bridge
