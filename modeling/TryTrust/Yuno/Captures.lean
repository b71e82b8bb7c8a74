import TryTrust.Conc.Cell
import TryTrust.Conc.Transaction
import TryTrust.Yuno.Settlement

/-!
# Concurrent captures

`capture` of the rail, each request one transaction, and any number of them at once. The primary
key of `yuno_idempotency` lets one of them insert; whoever comes later answers what it stored.

* `Books`, `Call`, `exec`, `sem`: the statements; a statement that waits for a lock in vain raises;
* `refuse`, `settle`, `capture`, `answer`;
* `Work`: what a request has flushed, captured and heard; `KeyOk`, `PaymentOk`, `BooksInv`;
* `answer_outline`: a request keeps the invariant, and returns what it captured or heard;
* `CapturedOnce`, `WholeCapture`; **`captured_once`**: one payment and one answer for each key as
  long as what is captured is a number of whole cents; **`captured_rounded`**.
-/

namespace TryTrust.Yuno.Captures

open Conc

/-! ## Statements -/

/-- The rows of both tables, by their primary keys. -/
structure Books (ι : Type) where
  idempotency : String → Cell ι (Option IdempotencyRow)
  payments : String → Cell ι (Option PaymentRow)

/-- A new `PaymentRow`, before the database has it. -/
structure NewPayment where
  paymentId : String
  tokenId : String
  mandateJti : Json
  amount : PyDecimal
  currency : String
  status : PaymentStatus
  reasonCode : Option ReasonCode
  checkoutHash : Option String
  intentRef : String

/-- A new `IdempotencyRow`, to go with a payment. -/
structure NewKey where
  idempotencyKey : String
  purchaseId : String
  capturedAt : ℤ

/-- A call of a session. -/
inductive Call (ι : Type) where
  /-- `session.get`. -/
  | getIdempotency (i : ι) (key : String)
  | getActiveToken (i : ι) (tokenId : String)
  | tokenExists (i : ι) (tokenId : String)
  | verify (i : ι) (x : CaptureRequest)
  /-- `ids.new_id`, `datetime.now`. -/
  | newPayment (i : ι)
  /-- `session.flush`, of a payment and of the key that it settles. -/
  | flush (i : ι) (payment : NewPayment) (key : Option NewKey)
  | commit (i : ι)
  | rollback (i : ι)

/-- The answer of a call. -/
def Res {ι : Type} : Call ι → Type
  | .getIdempotency .. => Option IdempotencyRow
  | .getActiveToken .. => Option PaymentToken
  | .tokenExists .. => Bool
  | .verify .. => VerificationResult
  | .newPayment .. => String × ℤ
  | _ => Unit

/-- The exceptions. -/
inductive Err where
  /-- `PaymentRefused`. -/
  | refused (reason : ReasonCode) (message : String)
  /-- `IntegrityError`. -/
  | integrity
  /-- Any other exception. -/
  | failure (message : String)
  deriving DecidableEq

/-- What is outside: the exception that the call raises, if any; the other tables and the statuses
at the issuer, as the call finds them; what the verifier meets, the moment and a new id. -/
structure Outside where
  raises : Option Err := none
  rail : Rail := {}
  meets : Env := ⟨none, false, 0, 0, ""⟩

/-- A program of a session. -/
abbrev Tx (ι α : Type) : Type := Prog (Call ι) Res Err α

/-- The row as its columns have it: a missing `mandate_jti` violates its constraint, and any other
value that does not fit is an error of another kind. -/
def NewPayment.row (p : NewPayment) : Except Err PaymentRow :=
  match p.mandateJti, column p.amount with
  | .str jti, some amount => .ok ⟨p.paymentId, p.tokenId, jti, amount, p.currency, p.status,
      p.reasonCode, p.checkoutHash, p.intentRef⟩
  | .null, some _ => .error .integrity
  | _, _ => .error (.failure "the row does not fit its columns")

/-- The row of the key, with the receipt of the payment. -/
def NewKey.row (k : NewKey) (p : NewPayment) : IdempotencyRow :=
  ⟨k.idempotencyKey, p.paymentId,
    ⟨k.purchaseId, p.paymentId, p.amount, p.currency, k.capturedAt, p.mandateJti.text⟩⟩

section Statements

variable {ι : Type} [DecidableEq ι]

/-- Insert a payment, and hold its row. -/
def Books.addPayment (i : ι) (r : PaymentRow) (s : Books ι) : Books ι :=
  { s with
    payments := Function.update s.payments r.paymentId
      ((s.payments r.paymentId).write i (some r)) }

/-- Insert a key, and hold its row. -/
def Books.addKey (i : ι) (x : IdempotencyRow) (s : Books ι) : Books ι :=
  { s with
    idempotency := Function.update s.idempotency x.idempotencyKey
      ((s.idempotency x.idempotencyKey).write i (some x)) }

/-- Both primary keys of a flush are held by no other transaction. -/
def FreeFor (i : ι) (s : Books ι) (paymentId : String) (key : Option NewKey) : Prop :=
  (s.payments paymentId).Free i ∧ ∀ k ∈ key, (s.idempotency k.idempotencyKey).Free i

instance (i : ι) (s : Books ι) (paymentId : String) (key : Option NewKey) :
    Decidable (FreeFor i s paymentId key) := by
  unfold FreeFor
  infer_instance

/-- One of the primary keys of a flush is taken. -/
def Taken (i : ι) (s : Books ι) (paymentId : String) (key : Option NewKey) : Prop :=
  ((s.payments paymentId).seen i).isSome ∨
    ∃ k ∈ key, ((s.idempotency k.idempotencyKey).seen i).isSome

instance (i : ι) (s : Books ι) (paymentId : String) (key : Option NewKey) :
    Decidable (Taken i s paymentId key) := by
  unfold Taken
  infer_instance

/-- The books after both inserts of a flush. -/
def Books.add (i : ι) (r : PaymentRow) (p : NewPayment) (key : Option NewKey) (s : Books ι) :
    Books ι :=
  match key with
  | none => s.addPayment i r
  | some k => (s.addPayment i r).addKey i (k.row p)

/-- A flush: a row that does not fit, a lock that is not released in time, a key that is taken, or
both inserts. -/
def flush (i : ι) (p : NewPayment) (key : Option NewKey) (s : Books ι) : Except Err Unit × Books ι :=
  match p.row with
  | .error x => (.error x, s)
  | .ok r =>
    if ¬ FreeFor i s p.paymentId key then (.error (.failure "lock timeout"), s)
    else if Taken i s p.paymentId key then (.error .integrity, s)
    else (.ok (), s.add i r p key)

variable (J : Jose)

/-- What a call does when it does not raise by the environment's choice. -/
def exec (e : Outside) : (op : Call ι) → Books ι → Except Err (Res op) × Books ι
  | .getIdempotency i key, s => (.ok ((s.idempotency key).seen i), s)
  | .getActiveToken _ tokenId, s => (.ok (e.rail.activeToken tokenId), s)
  | .tokenExists _ tokenId, s => (.ok (e.rail.tokens.any fun t => t.tokenId = tokenId), s)
  | .verify _ x, s => ((verifyMandate J e.rail x e.meets).mapError Err.failure, s)
  | .newPayment _, s => (.ok (e.meets.paymentId, e.meets.capturedAt), s)
  | .flush i p key, s => flush i p key s
  | .commit i, s =>
    (.ok (), ⟨fun k => (s.idempotency k).commit i, fun k => (s.payments k).commit i⟩)
  | .rollback i, s =>
    (.ok (), ⟨fun k => (s.idempotency k).rollback i, fun k => (s.payments k).rollback i⟩)

/-- The call ends a transaction for good, whatever becomes of the connection. -/
def Call.ends : Call ι → Bool
  | .rollback _ => true
  | _ => false

/-- **One call**: it raises without an effect, or runs. -/
def sem (e : Outside) (op : Call ι) (s : Books ι) : Except Err (Res op) × Books ι :=
  match e.raises, op.ends with
  | some x, false => (.error x, s)
  | _, _ => exec J e op s

/-- One call of a program. -/
def call (op : Call ι) : Tx ι (Res op) := Prog.perform op

/-! ## The service -/

/-- `_record_refusal`, and the exception. -/
def refuse (i : ι) (x : CaptureRequest) (reason : ReasonCode) (message : String) :
    Tx ι Settlement := do
  let new : String × ℤ ← call (.newPayment i)
  call (.flush i ⟨new.1, x.tokenId, .str "unknown", x.amount, x.currency, .refused, some reason,
    none, x.intentRef⟩ none)
  .raise (.refused reason message)

/-- The answer to a key that is taken: what its winner stored. -/
def winner (i : ι) (key : String) : Tx ι Settlement := do
  call (.rollback i)
  let stored : Option IdempotencyRow ← call (.getIdempotency i key)
  match stored with
  | none => .raise .integrity
  | some stored => pure stored.response.settlement

/-- The end of the flush of a settlement. -/
def settled (i : ι) (key : String) (settlement : Settlement) : Except Err Unit → Tx ι Settlement
  | .ok _ => pure settlement
  | .error .integrity => winner i key
  | .error x => .raise x

/-- The settlement: both rows in one flush. -/
def settle (i : ι) (x : CaptureRequest) (jti : Json) (checkoutHash : Option String) :
    Tx ι Settlement := do
  let new : String × ℤ ← call (.newPayment i)
  let done : Except Err Unit ← (call (.flush i ⟨new.1, x.tokenId, jti, x.amount, x.currency,
    .captured, none, checkoutHash, x.intentRef⟩
    (some ⟨x.idempotencyKey, x.purchaseId, new.2⟩)) : Tx ι Unit).attempt
  settled i x.idempotencyKey ⟨new.1, x.amount, x.currency, jti.text, new.2, false⟩ done

/-- The part of `capture` after the verification. -/
def afterVerdict (i : ι) (x : CaptureRequest) : VerificationResult → Tx ι Settlement
  | .refused reason detail => refuse i x reason detail
  | .ok jti checkoutHash => settle i x jti checkoutHash

/-- The part of `capture` for a token that is not active. -/
def withoutToken (i : ι) (x : CaptureRequest) : Tx ι Settlement := do
  let known : Bool ← call (.tokenExists i x.tokenId)
  if known = true then
    refuse i x .railTokenDeleted
      "the payment token was deleted — this is the rail-side half of revocation"
  else refuse i x .railError "unknown payment token"

/-- The part of `capture` after the read of the token. -/
def afterToken (i : ι) (x : CaptureRequest) : Option PaymentToken → Tx ι Settlement
  | none => withoutToken i x
  | some _ => do
    let verdict : VerificationResult ← call (.verify i x)
    afterVerdict i x verdict

/-- The part of `capture` after the first read. -/
def afterReplay (i : ι) (x : CaptureRequest) : Option IdempotencyRow → Tx ι Settlement
  | some replay => pure replay.response.settlement
  | none => do
    let token : Option PaymentToken ← call (.getActiveToken i x.tokenId)
    afterToken i x token

/-- **`capture`**. -/
def capture (i : ι) (x : CaptureRequest) : Tx ι Settlement := do
  let replay : Option IdempotencyRow ← call (.getIdempotency i x.idempotencyKey)
  afterReplay i x replay

/-- **A request**, in the transaction of `get_session`. -/
def answer (i : ι) (x : CaptureRequest) : Tx ι Settlement :=
  Prog.transaction (call (.commit i)) (call (.rollback i)) (capture i x)

end Statements

/-! ## The system -/

/-- What a request has done: the captured row that its open transaction has flushed, the one that
it committed, and the row of its key that it has read. -/
structure Work where
  flushed : Option PaymentRow := none
  captured : Option PaymentRow := none
  heard : Option IdempotencyRow := none

/-- After a call that did not raise. -/
def Work.next (γ : Work) {ι : Type} : (op : Call ι) → Res op → Work
  | .getIdempotency .., (row : Option IdempotencyRow) => { γ with heard := row }
  | .flush _ p (some _), _ => { γ with flushed := p.row.toOption }
  | .commit _, _ => { γ with flushed := none, captured := γ.flushed }
  | .rollback _, _ => { γ with flushed := none }
  | _, _ => γ

section System

variable (J : Jose) (ι : Type) [DecidableEq ι]

/-- The requests. -/
def captureSystem : System ι (Call ι) Res Err (Books ι) Work Outside where
  sem := sem J
  adv _ γ _ op r := match r with
    | .ok a => γ.next op a
    | .error _ => γ

variable {ι}

/-- The configurations of the requests. -/
abbrev Sessions (ι : Type) : Type := Config ι (Call ι) Res Err Settlement (Books ι) Work

/-- The start: empty books, and each request before its first statement. -/
def captureStart (requests : ι → CaptureRequest) : Sessions ι where
  shared := ⟨fun _ => ⟨none, none⟩, fun _ => ⟨none, none⟩⟩
  prog i := answer i (requests i)
  hist _ := {}

/-- The amount of a settlement and that of a row are one number. -/
def SameAmount : PyDecimal → Money → Prop
  | .finite d, .cents c => d.isCents c = true
  | .nan, .nan => True
  | _, _ => False

/-- A row that a request with a key has captured and committed. -/
def CapturedFor (requests : ι → CaptureRequest) (c : Sessions ι) (k : String) (r : PaymentRow) :
    Prop :=
  (c.shared.payments r.paymentId).row = some r ∧ r.status = .captured ∧
    ∃ i, (requests i).idempotencyKey = k ∧ (c.hist i).captured = some r

/-- **One payment and one answer for a key**. -/
structure CapturedOnce (requests : ι → CaptureRequest) (c : Sessions ι) (k : String) : Prop where
  once : ∀ r r', CapturedFor requests c k r → CapturedFor requests c k r' → r = r'
  answers : ∀ i settlement, (requests i).idempotencyKey = k →
    (c.prog i).result = some settlement → ∃ r, CapturedFor requests c k r ∧
      settlement.paymentId = r.paymentId ∧ SameAmount settlement.amount r.amount

/-- The step commits no captured row whose amount is not a number of whole cents. -/
def WholeCapture (requests : ι → CaptureRequest) (k : String) (c : Sessions ι) (i : ι)
    (e : Outside) : Prop :=
  (c.prog i).next = some (.commit i) → e.raises = none → (requests i).idempotencyKey = k →
    (∃ v, (c.shared.idempotency k).held = some (i, v)) → WholeCents (requests i).amount

end System

/-! ## The invariant -/

section Invariant

variable {ι : Type}

/-- **A key's row and the payment that it stands for**, of a request. -/
structure Records (x : CaptureRequest) (row : IdempotencyRow) (r : PaymentRow) : Prop where
  id : row.response.captureId = r.paymentId
  amount : row.response.amount = x.amount
  column : column x.amount = some r.amount
  status : r.status = .captured

/-- **The row of a key** in the course of a run: it is never written again, and stands for the one
payment that was captured under the key. -/
structure KeyOk (requests : ι → CaptureRequest) (g : ι → Work) (k : String)
    (c : Cell ι (Option IdempotencyRow)) : Prop where
  row : ∀ x, c.row = some x → ∃ i r, (requests i).idempotencyKey = k ∧
    (g i).captured = some r ∧ Records (requests i) x r
  captured : ∀ i, (requests i).idempotencyKey = k → (g i).captured ≠ none → c.row ≠ none
  once : ∀ i j, (requests i).idempotencyKey = k → (requests j).idempotencyKey = k →
    (g i).captured ≠ none → (g j).captured ≠ none → i = j
  held : ∀ i v, c.held = some (i, v) → c.row = none ∧ (requests i).idempotencyKey = k ∧
    ∃ x r, v = some x ∧ (g i).flushed = some r ∧ Records (requests i) x r
  flushed : ∀ i, (requests i).idempotencyKey = k → (g i).flushed ≠ none → ∃ v, c.held = some (i, v)
  heard : ∀ i x, (requests i).idempotencyKey = k → (g i).heard = some x → c.row = some x

/-- **The row of a payment** in the course of a run: it is never written again, and it is there when
a request has captured it. -/
structure PaymentOk (g : ι → Work) (id : String) (c : Cell ι (Option PaymentRow)) : Prop where
  final : c.row ≠ none → c.held = none
  captured : ∀ i r, (g i).captured = some r → r.paymentId = id → c.row = some r
  flushed : ∀ i r, (g i).flushed = some r → r.paymentId = id → c.held = some (i, some r)

/-- The invariant of the books. -/
structure BooksInv (requests : ι → CaptureRequest) (g : ι → Work) (s : Books ι) : Prop where
  keys : ∀ k, KeyOk requests g k (s.idempotency k)
  payments : ∀ id, PaymentOk g id (s.payments id)

variable [DecidableEq ι] {requests : ι → CaptureRequest} {g : ι → Work} {s : Books ι} {i : ι}

theorem BooksInv.same (h : BooksInv requests g s) :
    BooksInv requests (Function.update g i (g i)) s := by
  rwa [Function.update_eq_self]

omit [DecidableEq ι] in
/-- A key's row, when its requests change no more than what they have read. -/
theorem KeyOk.congr {k : String} {c : Cell ι (Option IdempotencyRow)} {g' : ι → Work}
    (h : KeyOk requests g k c)
    (hcaptured : ∀ j, (requests j).idempotencyKey = k → (g' j).captured = (g j).captured)
    (hflushed : ∀ j, (requests j).idempotencyKey = k → (g' j).flushed = (g j).flushed)
    (hheard : ∀ j x, (requests j).idempotencyKey = k → (g' j).heard = some x → c.row = some x) :
    KeyOk requests g' k c := by
  refine ⟨fun x hx => ?_, fun j hj hc => ?_, fun j l hj hl hjc hlc => ?_, fun j v hv => ?_,
    fun j hj hf => ?_, hheard⟩
  · obtain ⟨j, r, hj, hr, hrecords⟩ := h.row x hx
    exact ⟨j, r, hj, (hcaptured j hj).trans hr, hrecords⟩
  · rw [hcaptured j hj] at hc
    exact h.captured j hj hc
  · rw [hcaptured j hj] at hjc
    rw [hcaptured l hl] at hlc
    exact h.once j l hj hl hjc hlc
  · obtain ⟨hrow, hj, x, r, hx, hr, hrecords⟩ := h.held j v hv
    exact ⟨hrow, hj, x, r, hx, (hflushed j hj).trans hr, hrecords⟩
  · rw [hflushed j hj] at hf
    exact h.flushed j hj hf

/-- **A read of a key** that the request does not hold. -/
theorem BooksInv.hear (h : BooksInv requests g s) (hflushed : (g i).flushed = none) {k : String}
    (hk : (requests i).idempotencyKey = k) :
    BooksInv requests (Function.update g i { g i with heard := (s.idempotency k).seen i }) s := by
  have hcaptured := update_same Work.captured (g := g) (i := i)
    (γ := { g i with heard := (s.idempotency k).seen i }) rfl
  have hsame := update_same Work.flushed (g := g) (i := i)
    (γ := { g i with heard := (s.idempotency k).seen i }) rfl
  refine ⟨fun k' => ?_, fun id => ⟨(h.payments id).final, ?_, ?_⟩⟩
  · have hkey := h.keys k'
    refine hkey.congr (fun j _ => hcaptured j) (fun j _ => hsame j) fun j x hj hx => ?_
    by_cases hji : j = i
    · subst hji
      obtain rfl : k = k' := hk.symm.trans hj
      rw [Function.update_self] at hx
      have hnot : ∀ v, (s.idempotency k).held ≠ some (j, v) := by
        intro v hv
        obtain ⟨-, -, _, r, -, hr, -⟩ := hkey.held j v hv
        rw [hflushed] at hr
        cases hr
      exact (Cell.seen_of_not hnot).symm.trans hx
    · rw [Function.update_of_ne hji] at hx
      exact hkey.heard j x hj hx
  · simp only [hcaptured]
    exact (h.payments id).captured
  · simp only [hsame]
    exact (h.payments id).flushed

/-- A row that a request does not see, where inserts are final. -/
theorem row_of_seen {ρ : Type} {c : Cell ι (Option ρ)} (hseen : c.seen i = none)
    (hfinal : c.row ≠ none → c.held = none) : c.row = none := by
  by_contra hrow
  rw [Cell.seen_of_none (hfinal hrow)] at hseen
  exact hrow hseen

/-- **An inserted payment**, that its request may have captured. -/
theorem PaymentOk.add {c : Cell ι (Option PaymentRow)} {r : PaymentRow} {γ : Work}
    (h : PaymentOk g r.paymentId c) (hfree : c.Free i) (hseen : c.seen i = none)
    (hcaptured : γ.captured = (g i).captured) (hflushed : γ.flushed = none ∨ γ.flushed = some r) :
    PaymentOk (Function.update g i γ) r.paymentId (c.write i (some r)) := by
  have hrow := row_of_seen hseen h.final
  refine ⟨fun hsome => absurd hrow hsome, fun j r' hj hid => ?_, fun j r' hj hid => ?_⟩
  · rw [update_same Work.captured hcaptured] at hj
    exact h.captured j r' hj hid
  · by_cases hji : j = i
    · rw [hji, Function.update_self] at hj
      rcases hflushed with hnone | hsome
      · rw [hnone] at hj
        cases hj
      · rw [hji, ← hj, hsome]
        rfl
    · rw [Function.update_of_ne hji] at hj
      exact absurd (hfree _ (h.flushed j r' hj hid)) hji

/-- Another payment, when a request inserts one. -/
theorem PaymentOk.other {c : Cell ι (Option PaymentRow)} {r : PaymentRow} {γ : Work} {id : String}
    (h : PaymentOk g id c) (hid : r.paymentId ≠ id) (hcaptured : γ.captured = (g i).captured)
    (hflushed : γ.flushed = none ∨ γ.flushed = some r) : PaymentOk (Function.update g i γ) id c := by
  refine ⟨h.final, fun j r' hj hr' => ?_, fun j r' hj hr' => ?_⟩
  · rw [update_same Work.captured hcaptured] at hj
    exact h.captured j r' hj hr'
  · by_cases hji : j = i
    · rw [hji, Function.update_self] at hj
      rcases hflushed with hnone | hsome
      · rw [hnone] at hj
        cases hj
      · rw [hsome] at hj
        obtain rfl : r = r' := Option.some.inj hj
        exact absurd hr' hid
    · rw [Function.update_of_ne hji] at hj
      exact h.flushed j r' hj hr'

/-- The payments after an insert. -/
theorem BooksInv.payments_add (h : BooksInv requests g s) {r : PaymentRow} {γ : Work}
    (hfree : (s.payments r.paymentId).Free i) (hseen : (s.payments r.paymentId).seen i = none)
    (hcaptured : γ.captured = (g i).captured) (hflushed : γ.flushed = none ∨ γ.flushed = some r)
    (id : String) : PaymentOk (Function.update g i γ) id ((s.addPayment i r).payments id) := by
  by_cases hid : id = r.paymentId
  · rw [hid, Books.addPayment]
    dsimp only
    rw [Function.update_self]
    exact (h.payments r.paymentId).add hfree hseen hcaptured hflushed
  · rw [Books.addPayment]
    dsimp only
    rw [Function.update_of_ne hid]
    exact (h.payments id).other (Ne.symm hid) hcaptured hflushed

/-- **The flush of a refusal.** -/
theorem BooksInv.refuse (h : BooksInv requests g s) {r : PaymentRow}
    (hfree : (s.payments r.paymentId).Free i) (hseen : (s.payments r.paymentId).seen i = none)
    (hflushed : (g i).flushed = none) :
    BooksInv requests (Function.update g i (g i)) (s.addPayment i r) :=
  ⟨h.same.keys, h.payments_add hfree hseen rfl (.inl hflushed)⟩

/-- **The flush of a settlement.** -/
theorem BooksInv.settle (h : BooksInv requests g s) {r : PaymentRow} {x : IdempotencyRow}
    (hfree : (s.payments r.paymentId).Free i) (hseen : (s.payments r.paymentId).seen i = none)
    (hfreeKey : (s.idempotency x.idempotencyKey).Free i)
    (hseenKey : (s.idempotency x.idempotencyKey).seen i = none) (hflushed : (g i).flushed = none)
    (hkey : (requests i).idempotencyKey = x.idempotencyKey) (hrecords : Records (requests i) x r) :
    BooksInv requests (Function.update g i { g i with flushed := some r })
      ((s.addPayment i r).addKey i x) := by
  have hcaptured : ∀ j, (Function.update g i { g i with flushed := some r } j).captured =
      (g j).captured := update_same Work.captured rfl
  have hheard : ∀ j, (Function.update g i { g i with flushed := some r } j).heard = (g j).heard :=
    update_same Work.heard rfl
  refine ⟨fun k => ?_, h.payments_add hfree hseen rfl (.inr rfl)⟩
  have hk := h.keys k
  by_cases hkx : k = x.idempotencyKey
  · subst hkx
    have hnone : (s.idempotency x.idempotencyKey).held = none := by
      cases hheld : (s.idempotency x.idempotencyKey).held with
      | none => rfl
      | some w =>
        obtain ⟨j, v⟩ := w
        obtain rfl : j = i := hfreeKey _ hheld
        obtain ⟨-, -, _, _, -, hr, -⟩ := hk.held j v hheld
        rw [hflushed] at hr
        cases hr
    have hrow : (s.idempotency x.idempotencyKey).row = none := by
      rwa [Cell.seen_of_none hnone] at hseenKey
    show KeyOk requests _ _ (Function.update s.idempotency x.idempotencyKey _ x.idempotencyKey)
    rw [Function.update_self]
    refine ⟨?_, ?_, ?_, fun j v hv => ?_, fun j hj hjf => ?_, ?_⟩
    · simp only [hcaptured]
      exact hk.row
    · simp only [hcaptured]
      exact hk.captured
    · simp only [hcaptured]
      exact hk.once
    · rw [Cell.held_write] at hv
      cases hv
      exact ⟨hrow, hkey, x, r, rfl, by rw [Function.update_self], hrecords⟩
    · by_cases hji : j = i
      · exact ⟨_, by rw [hji]; rfl⟩
      · rw [Function.update_of_ne hji] at hjf
        obtain ⟨v, hv⟩ := hk.flushed j hj hjf
        rw [hnone] at hv
        cases hv
    · simp only [hheard]
      exact hk.heard
  · show KeyOk requests _ _ (Function.update s.idempotency x.idempotencyKey _ k)
    rw [Function.update_of_ne hkx]
    refine hk.congr (fun j _ => hcaptured j) (fun j hj => ?_) fun j y hj hy => ?_
    · have hji : j ≠ i := by
        rintro rfl
        exact hkx (hj.symm.trans hkey)
      rw [Function.update_of_ne hji]
    · rw [hheard] at hy
      exact hk.heard j y hj hy

/-- A key's row at the commit of a request. -/
theorem KeyOk.commit {k : String} {c : Cell ι (Option IdempotencyRow)} (h : KeyOk requests g k c)
    (hcaptured : (g i).captured = none) :
    KeyOk requests (Function.update g i { g i with flushed := none, captured := (g i).flushed }) k
      (c.commit i) := by
  have hheard : ∀ j, (Function.update g i
      { g i with flushed := none, captured := (g i).flushed } j).heard = (g j).heard :=
    update_same Work.heard rfl
  rcases c.held_or_not i with ⟨v, hv⟩ | hnot
  · obtain ⟨hrow, hi, x, r, rfl, hr, hrecords⟩ := h.held i v hv
    have honly : ∀ j, (requests j).idempotencyKey = k → (Function.update g i
        { g i with flushed := none, captured := (g i).flushed } j).captured ≠ none → j = i := by
      intro j hj hc
      by_contra hji
      rw [Function.update_of_ne hji] at hc
      exact h.captured j hj hc hrow
    rw [Cell.commit_of_held hv]
    refine ⟨fun y hy => ⟨i, r, hi, ?_, ?_⟩, fun j hj hc => ?_, fun j l hj hl hjc hlc => ?_,
      fun j w hw => (by cases hw), fun j hj hf => ?_, fun j y hj hy => ?_⟩
    · rw [Function.update_self]
      exact hr
    · obtain rfl : x = y := Option.some.inj hy
      exact hrecords
    · exact Option.some_ne_none x
    · rw [honly j hj hjc, honly l hl hlc]
    · by_cases hji : j = i
      · rw [hji, Function.update_self] at hf
        exact absurd rfl hf
      · rw [Function.update_of_ne hji] at hf
        obtain ⟨w, hw⟩ := h.flushed j hj hf
        rw [hv] at hw
        cases hw
        exact absurd rfl hji
    · rw [hheard] at hy
      have hsome := h.heard j y hj hy
      rw [hrow] at hsome
      cases hsome
  · rw [Cell.commit_of_not hnot]
    have hquiet : (requests i).idempotencyKey = k → (g i).flushed = none := by
      intro hi
      by_contra hf
      obtain ⟨v, hv⟩ := h.flushed i hi hf
      exact hnot v hv
    refine h.congr (fun j hj => ?_) (fun j hj => ?_) fun j y hj hy => ?_
    · by_cases hji : j = i
      · subst hji
        rw [Function.update_self, hcaptured]
        exact hquiet hj
      · rw [Function.update_of_ne hji]
    · by_cases hji : j = i
      · subst hji
        rw [Function.update_self, hquiet hj]
      · rw [Function.update_of_ne hji]
    · rw [hheard] at hy
      exact h.heard j y hj hy

/-- A payment's row at the commit of a request. -/
theorem PaymentOk.commit {id : String} {c : Cell ι (Option PaymentRow)} (h : PaymentOk g id c) :
    PaymentOk (Function.update g i { g i with flushed := none, captured := (g i).flushed }) id
      (c.commit i) := by
  rcases c.held_or_not i with ⟨v, hv⟩ | hnot
  · have hrow : c.row = none := by
      by_contra hrow
      rw [h.final hrow] at hv
      cases hv
    rw [Cell.commit_of_held hv]
    refine ⟨fun _ => rfl, fun j r hj hid => ?_, fun j r hj hid => ?_⟩
    · by_cases hji : j = i
      · rw [hji, Function.update_self] at hj
        have hheld := h.flushed i r hj hid
        rw [hv] at hheld
        cases hheld
        rfl
      · rw [Function.update_of_ne hji] at hj
        have hsome := h.captured j r hj hid
        rw [hrow] at hsome
        cases hsome
    · by_cases hji : j = i
      · rw [hji, Function.update_self] at hj
        cases hj
      · rw [Function.update_of_ne hji] at hj
        have hheld := h.flushed j r hj hid
        rw [hv] at hheld
        cases hheld
        exact absurd rfl hji
  · rw [Cell.commit_of_not hnot]
    refine ⟨h.final, fun j r hj hid => ?_, fun j r hj hid => ?_⟩
    · by_cases hji : j = i
      · rw [hji, Function.update_self] at hj
        exact absurd (h.flushed i r hj hid) (hnot _)
      · rw [Function.update_of_ne hji] at hj
        exact h.captured j r hj hid
    · by_cases hji : j = i
      · rw [hji, Function.update_self] at hj
        cases hj
      · rw [Function.update_of_ne hji] at hj
        exact h.flushed j r hj hid

/-- **A commit**: what was flushed is captured. -/
theorem BooksInv.commit (h : BooksInv requests g s) (hcaptured : (g i).captured = none) :
    BooksInv requests
      (Function.update g i { g i with flushed := none, captured := (g i).flushed })
      ⟨fun k => (s.idempotency k).commit i, fun k => (s.payments k).commit i⟩ :=
  ⟨fun k => (h.keys k).commit hcaptured, fun id => (h.payments id).commit⟩

/-- **A rollback**: what was flushed is forgotten. -/
theorem BooksInv.rollback (h : BooksInv requests g s) :
    BooksInv requests (Function.update g i { g i with flushed := none })
      ⟨fun k => (s.idempotency k).rollback i, fun k => (s.payments k).rollback i⟩ := by
  have hcaptured := update_same Work.captured (g := g) (i := i) (γ := { g i with flushed := none }) rfl
  have hheard := update_same Work.heard (g := g) (i := i) (γ := { g i with flushed := none }) rfl
  have hflushed : ∀ j, (Function.update g i { g i with flushed := none } j).flushed ≠ none →
      j ≠ i ∧ (g j).flushed ≠ none := by
    intro j hf
    by_cases hji : j = i
    · rw [hji, Function.update_self] at hf
      exact absurd rfl hf
    · rw [Function.update_of_ne hji] at hf
      exact ⟨hji, hf⟩
  refine ⟨fun k => ?_, fun id => ?_⟩
  · have hk := h.keys k
    refine ⟨?_, ?_, ?_, fun j v hv => ?_, fun j hj hf => ?_, ?_⟩
    · simp only [Cell.row_rollback, hcaptured]
      exact hk.row
    · simp only [Cell.row_rollback, hcaptured]
      exact hk.captured
    · simp only [hcaptured]
      exact hk.once
    · have hji : j ≠ i := by
        rintro rfl
        exact Cell.not_held_rollback hv
      rw [Cell.row_rollback, Function.update_of_ne hji]
      exact hk.held j v ((Cell.held_rollback_iff hji).1 hv)
    · obtain ⟨hji, hf⟩ := hflushed j hf
      obtain ⟨v, hv⟩ := hk.flushed j hj hf
      exact ⟨v, (Cell.held_rollback_iff hji).2 hv⟩
    · simp only [Cell.row_rollback, hheard]
      exact hk.heard
  · have hid := h.payments id
    refine ⟨fun hrow => ?_, ?_, fun j r hj hr => ?_⟩
    · rw [Cell.row_rollback] at hrow
      have hnone := hid.final hrow
      show ((s.payments id).rollback i).held = none
      rw [Cell.rollback_of_not fun v hv => ?_]
      · exact hnone
      · rw [hnone] at hv
        cases hv
    · simp only [Cell.row_rollback, hcaptured]
      exact hid.captured
    · obtain ⟨hji, -⟩ := hflushed j (by rw [hj]; exact Option.some_ne_none r)
      rw [Function.update_of_ne hji] at hj
      exact (Cell.held_rollback_iff hji).2 (hid.flushed j r hj hr)

end Invariant

/-! ## Requests -/

section Requests

variable {J : Jose} {ι : Type} [DecidableEq ι] {requests : ι → CaptureRequest} {i : ι} {γ : Work}

/-- The specification: nobody acts after having captured a payment. -/
def captureSpec (requests : ι → CaptureRequest) : Spec ι (Call ι) Res Err (Books ι) Work where
  inv := BooksInv requests
  ok _ _ _ _ := True
  prop g _ i op _ _ := (g i).captured = none ∧ ∀ j, op = .commit j → j = i

/-- A call raises without an effect, or it runs. -/
theorem sem_cases (e : Outside) (op : Call ι) (s : Books ι) :
    (∃ x, sem J e op s = (.error x, s)) ∨ sem J e op s = exec J e op s := by
  rw [sem]
  split
  · exact .inl ⟨_, rfl⟩
  · exact .inr rfl

/-- **One call** of a request, that raises without an effect or does what it does. -/
theorem call_outline {op : Call ι} {A : Res op → Work → Prop} {B : Err → Work → Prop}
    (hcaptured : γ.captured = none) (hcommit : ∀ j, op = .commit j → j = i) (hfail : ∀ x, B x γ)
    (h : ∀ e g s, g i = γ → BooksInv requests g s →
      (∃ x, exec J e op s = (.error x, s)) ∨ ∃ a s', exec J e op s = (.ok a, s') ∧
        BooksInv requests (Function.update g i (γ.next op a)) s' ∧ A a (γ.next op a)) :
    Outline (captureSystem J ι) (captureSpec requests) i (ends A B) (call op) γ := by
  refine outline_perform_eq fun g s e hg hinv _ => ?_
  have hraised : ∀ x, sem J e op s = (.error x, s) →
      ∃ r s' γ', (captureSystem J ι).sem e op s = (r, s') ∧
        (captureSystem J ι).adv i γ s op r = γ' ∧ BooksInv requests (Function.update g i γ') s' ∧
          (captureSpec requests).prop g s i op r s' ∧ ends A B r γ' := by
    intro x hx
    refine ⟨_, _, γ, hx, rfl, ?_, ⟨hg ▸ hcaptured, hcommit⟩, hfail x⟩
    rw [← hg]
    exact hinv.same
  rcases sem_cases e op s with ⟨x, hx⟩ | hexec
  · exact hraised x hx
  · rcases h e g s hg hinv with ⟨x, hx⟩ | ⟨a, s', ha, hinv', hA⟩
    · exact hraised x (hexec.trans hx)
    · exact ⟨_, _, _, hexec.trans ha, rfl, hinv', ⟨hg ▸ hcaptured, hcommit⟩, hA⟩

/-- A call that touches neither the books nor the history. -/
theorem quiet_outline {op : Call ι} {B : Err → Work → Prop} (hcaptured : γ.captured = none)
    (hcommit : ∀ j, op = .commit j → j = i) (hfail : ∀ x, B x γ)
    (hexec : ∀ e s, (exec J e op s).2 = s) (hnext : ∀ a, γ.next op a = γ) :
    Outline (captureSystem J ι) (captureSpec requests) i (ends (fun _ γ' => γ' = γ) B)
      (call op) γ := by
  refine call_outline hcaptured hcommit hfail fun e g s hg hinv => ?_
  cases hr : exec J e op s with
  | mk r s' =>
    obtain rfl : s' = s := by rw [← hexec e s, hr]
    cases r with
    | error x => exact .inl ⟨x, rfl⟩
    | ok a =>
      refine .inr ⟨a, s', rfl, ?_, hnext a⟩
      rw [hnext a, ← hg]
      exact hinv.same

/-- What holds of a request before its flush. -/
structure Reading (γ : Work) : Prop where
  flushed : γ.flushed = none
  captured : γ.captured = none

/-- **What a request is about to return**: what it has flushed, or what it has heard. -/
structure Ready (x : CaptureRequest) (settlement : Settlement) (γ : Work) : Prop where
  captured : γ.captured = none
  answer : (∃ r, γ.flushed = some r ∧ settlement.paymentId = r.paymentId ∧
      settlement.amount = x.amount) ∨
    γ.flushed = none ∧ ∃ row, γ.heard = some row ∧ settlement = row.response.settlement

/-- **What a request has returned**: what it has captured, or what it has heard. -/
def Answered (x : CaptureRequest) (settlement : Settlement) (γ : Work) : Prop :=
  (∃ r, γ.captured = some r ∧ settlement.paymentId = r.paymentId ∧ settlement.amount = x.amount) ∨
    γ.captured = none ∧ ∃ row, γ.heard = some row ∧ settlement = row.response.settlement

/-- A request that has captured nothing. -/
def Nothing (_ : Err) (γ : Work) : Prop := γ.captured = none

/-- The row of a payment that fits its columns. -/
theorem row_ok {p : NewPayment} {r : PaymentRow} (h : p.row = .ok r) :
    p.mandateJti = .str r.mandateJti ∧ column p.amount = some r.amount ∧
      r.paymentId = p.paymentId ∧ r.status = p.status := by
  rw [NewPayment.row] at h
  split at h
  · next hjti hcolumn =>
    cases h
    exact ⟨hjti, hcolumn, rfl, rfl⟩
  · cases h
  · cases h

omit [DecidableEq ι] in
/-- What a request has flushed. -/
theorem next_flush {p : NewPayment} {k : NewKey} {r : PaymentRow} (h : p.row = .ok r) :
    γ.next (.flush i p (some k)) () = { γ with flushed := some r } := by
  simp [Work.next, h, Except.toOption]

/-- **A flush** raises without an effect, or inserts its rows. -/
theorem flush_cases (p : NewPayment) (key : Option NewKey) (s : Books ι) :
    (∃ x, flush i p key s = (.error x, s)) ∨
      ∃ r, p.row = .ok r ∧ FreeFor i s r.paymentId key ∧ ¬ Taken i s r.paymentId key ∧
        flush i p key s = (.ok (), s.add i r p key) := by
  rw [flush]
  cases hrow : p.row with
  | error x => exact .inl ⟨x, rfl⟩
  | ok r =>
    by_cases hfree : FreeFor i s p.paymentId key
    · by_cases htaken : Taken i s p.paymentId key
      · exact .inl ⟨_, (if_neg (not_not.2 hfree)).trans (if_pos htaken)⟩
      · refine .inr ⟨r, rfl, ?_⟩
        rw [(row_ok hrow).2.2.1]
        exact ⟨hfree, htaken, (if_neg (not_not.2 hfree)).trans (if_neg htaken)⟩
    · exact .inl ⟨_, if_pos hfree⟩

theorem refuse_outline (reason : ReasonCode) (message : String) {x : CaptureRequest}
    (hγ : Reading γ) :
    Outline (captureSystem J ι) (captureSpec requests) i (ends (Ready x) Nothing)
      (refuse i x reason message) γ := by
  refine outline_bind_ends (quiet_outline (B := Nothing) hγ.captured (fun _ h => by cases h)
    (fun _ => hγ.captured) (fun _ _ => rfl) fun _ => rfl) ?_
  rintro new γ₁ rfl
  refine outline_bind_ends (A := fun _ γ' => γ'.captured = none) ?_ fun _ γ₂ h₂ => ?_
  · refine call_outline hγ.captured (fun _ h => by cases h) (fun _ => hγ.captured) ?_
    rintro e g s rfl hinv
    rcases flush_cases (i := i) ⟨new.1, x.tokenId, .str "unknown", x.amount, x.currency, .refused,
      some reason, none, x.intentRef⟩ none s with ⟨y, hy⟩ | ⟨r, -, hfree, htaken, hflush⟩
    · exact .inl ⟨y, hy⟩
    · refine .inr ⟨_, _, hflush, hinv.refuse hfree.1 ?_ hγ.flushed, hγ.captured⟩
      by_contra hseen
      exact htaken (.inl (Option.isSome_iff_ne_none.2 hseen))
  · exact h₂

/-- **The answer to a key that is taken.** -/
theorem winner_outline {x : CaptureRequest} {k : String} (hk : (requests i).idempotencyKey = k)
    (hγ : Reading γ) :
    Outline (captureSystem J ι) (captureSpec requests) i (ends (Ready x) Nothing) (winner i k) γ := by
  refine outline_bind_ends (A := fun _ γ' => Reading γ') ?_ fun _ γ₁ h₁ => ?_
  · refine call_outline hγ.captured (fun _ h => by cases h) (fun _ => hγ.captured) ?_
    rintro e g s rfl hinv
    exact .inr ⟨(), _, rfl, hinv.rollback, rfl, hγ.captured⟩
  · refine outline_bind_ends (A := fun stored γ' => Reading γ' ∧ γ'.heard = stored) ?_
      fun stored γ₂ h₂ => ?_
    · refine call_outline h₁.captured (fun _ h => by cases h) (fun _ => h₁.captured) ?_
      rintro e g s rfl hinv
      exact .inr ⟨_, _, rfl, hinv.hear h₁.flushed hk, ⟨h₁.flushed, h₁.captured⟩, rfl⟩
    · cases stored with
      | none => exact h₂.1.captured
      | some stored => exact ⟨h₂.1.captured, .inr ⟨h₂.1.flushed, stored, h₂.2, rfl⟩⟩

/-- **The settlement**: it is flushed, or what the winner stored is heard. -/
theorem settle_outline (jti : Json) (checkoutHash : Option String) (hγ : Reading γ) :
    Outline (captureSystem J ι) (captureSpec requests) i (ends (Ready (requests i)) Nothing)
      (settle i (requests i) jti checkoutHash) γ := by
  refine outline_bind_ends (quiet_outline (B := Nothing) hγ.captured (fun _ h => by cases h)
    (fun _ => hγ.captured) (fun _ _ => rfl) fun _ => rfl) ?_
  rintro new γ₁ rfl
  refine outline_bind (outline_attempt (Q := ends (fun _ γ' => Ready (requests i)
    ⟨new.1, (requests i).amount, (requests i).currency, jti.text, new.2, false⟩ γ')
      fun _ γ' => Reading γ') ?_) ?_ fun y γ' h => ?_
  · refine call_outline hγ.captured (fun _ h => by cases h) (fun _ => hγ) ?_
    rintro e g s rfl hinv
    rcases flush_cases (i := i) ⟨new.1, (requests i).tokenId, jti, (requests i).amount,
      (requests i).currency, .captured, none, checkoutHash, (requests i).intentRef⟩
      (some ⟨(requests i).idempotencyKey, (requests i).purchaseId, new.2⟩) s with
      ⟨y, hy⟩ | ⟨r, hrow, hfree, htaken, hflush⟩
    · exact .inl ⟨y, hy⟩
    · obtain ⟨-, hcolumn, hid, hstatus⟩ := row_ok hrow
      have hnext := next_flush (γ := g i) (i := i)
        (k := ⟨(requests i).idempotencyKey, (requests i).purchaseId, new.2⟩) hrow
      refine .inr ⟨(), _, hflush, ?_, ?_⟩
      · rw [hnext]
        refine hinv.settle hfree.1 ?_ (hfree.2 _ rfl) ?_ hγ.flushed rfl
          ⟨hid.symm, rfl, hcolumn, hstatus⟩
        · by_contra hseen
          exact htaken (.inl (Option.isSome_iff_ne_none.2 hseen))
        · by_contra hseen
          exact htaken (.inr ⟨_, rfl, Option.isSome_iff_ne_none.2 hseen⟩)
      · rw [hnext]
        exact ⟨hγ.captured, .inl ⟨r, rfl, hid.symm, rfl⟩⟩
  · rintro done γ₂ ⟨r, hr, hend⟩
    obtain rfl : done = r := Except.ok.inj hr
    cases done with
    | ok _ => exact hend
    | error y =>
      cases y with
      | integrity => exact winner_outline rfl hend
      | refused reason message => exact hend.captured
      | failure message => exact hend.captured
  · obtain ⟨z, hz, -⟩ := h
    cases hz

/-- **`capture`** ends ready to return, or raises. -/
theorem capture_outline (hγ : Reading γ) :
    Outline (captureSystem J ι) (captureSpec requests) i (ends (Ready (requests i)) Nothing)
      (capture i (requests i)) γ := by
  refine outline_bind_ends (A := fun replay γ' => Reading γ' ∧ γ'.heard = replay) ?_
    fun replay γ₁ h₁ => ?_
  · refine call_outline hγ.captured (fun _ h => by cases h) (fun _ => hγ.captured) ?_
    rintro e g s rfl hinv
    exact .inr ⟨_, _, rfl, hinv.hear hγ.flushed rfl, ⟨hγ.flushed, hγ.captured⟩, rfl⟩
  · obtain ⟨h₁, hheard⟩ := h₁
    cases replay with
    | some replay => exact ⟨h₁.captured, .inr ⟨h₁.flushed, replay, hheard, rfl⟩⟩
    | none =>
      refine outline_bind_ends (quiet_outline (B := Nothing) h₁.captured (fun _ h => by cases h)
        (fun _ => h₁.captured) (fun _ _ => rfl) fun _ => rfl) ?_
      rintro token γ₂ rfl
      cases token with
      | none =>
        refine outline_bind_ends (quiet_outline (B := Nothing) h₁.captured (fun _ h => by cases h)
          (fun _ => h₁.captured) (fun _ _ => rfl) fun _ => rfl) ?_
        rintro known γ₃ rfl
        split_ifs
        · exact refuse_outline _ _ h₁
        · exact refuse_outline _ _ h₁
      | some token =>
        refine outline_bind_ends (quiet_outline (B := Nothing) h₁.captured (fun _ h => by cases h)
          (fun _ => h₁.captured) (fun _ _ => rfl) fun _ => rfl) ?_
        rintro verdict γ₃ rfl
        cases verdict with
        | refused reason detail => exact refuse_outline _ _ h₁
        | ok jti checkoutHash => exact settle_outline _ _ h₁

/-- **A request** returns what it has captured, or what it has heard. -/
theorem answer_outline :
    Outline (captureSystem J ι) (captureSpec requests) i (ends (Answered (requests i)) Nothing)
      (answer i (requests i)) {} := by
  refine outline_transaction (capture_outline ⟨rfl, rfl⟩) ?_ ?_
  · rintro settlement γ' ⟨hcaptured, hanswer⟩
    refine call_outline hcaptured ?_ (fun _ => hcaptured) ?_
    · rintro j ⟨⟩
      rfl
    · rintro e g s rfl hinv
      exact .inr ⟨_, _, rfl, hinv.commit hcaptured, hanswer⟩
  · rintro x γ' hcaptured
    refine call_outline hcaptured (fun _ h => by cases h) (fun _ => hcaptured) ?_
    rintro e g s rfl hinv
    exact .inr ⟨_, _, rfl, hinv.rollback, hcaptured⟩

/-! ## Runs -/

/-- A configuration whose requests follow their outlines. -/
abbrev Sound (J : Jose) (requests : ι → CaptureRequest) (c : Sessions ι) : Prop :=
  Outlined (captureSystem J ι) (captureSpec requests)
    (fun i => ends (Answered (requests i)) Nothing) c

theorem captureStart_sound (J : Jose) (requests : ι → CaptureRequest) :
    Sound J requests (captureStart requests) := by
  refine ⟨⟨fun k => ⟨?_, ?_, ?_, ?_, ?_, ?_⟩, fun id => ⟨?_, ?_, ?_⟩⟩, fun i => answer_outline⟩ <;>
    simp [captureStart]

variable {c : Sessions ι} {k : String} {r : PaymentRow}

/-- Who has captured a payment has returned it. -/
theorem captured_returned (h : Sound J requests c) (hr : (c.hist i).captured = some r) :
    ∃ settlement, (c.prog i).result = some settlement ∧ settlement.paymentId = r.paymentId ∧
      settlement.amount = (requests i).amount := by
  have hi := h.outline i
  cases hp : c.prog i with
  | ret settlement =>
    rw [hp] at hi
    rcases hi with ⟨r', hr', hid, hamount⟩ | ⟨hnone, -⟩
    · rw [hr] at hr'
      cases hr'
      exact ⟨settlement, rfl, hid, hamount⟩
    · rw [hr] at hnone
      cases hnone
  | raise x =>
    rw [hp] at hi
    exact absurd (hr.symm.trans hi) (Option.some_ne_none r)
  | call op next =>
    have hprop := outlined_call h (show (c.prog i).next = some op by rw [hp]; rfl) {} trivial
    exact absurd (hr.symm.trans hprop.1) (Option.some_ne_none r)

/-- What a request has captured is recorded under its key. -/
theorem captured_records (h : Sound J requests c) (hr : (c.hist i).captured = some r) :
    ∃ x, (c.shared.idempotency (requests i).idempotencyKey).row = some x ∧
      Records (requests i) x r := by
  have hkey := h.inv.keys (requests i).idempotencyKey
  have hsome : (c.hist i).captured ≠ none := by
    rw [hr]
    exact Option.some_ne_none r
  obtain ⟨x, hx⟩ := Option.ne_none_iff_exists'.1 (hkey.captured i rfl hsome)
  obtain ⟨j, r', hj, hr', hrecords⟩ := hkey.row x hx
  obtain rfl : i = j := hkey.once i j rfl hj hsome (by rw [hr']; exact Option.some_ne_none r')
  obtain rfl : r = r' := Option.some.inj (hr.symm.trans hr')
  exact ⟨x, hx, hrecords⟩

theorem captured_for (h : Sound J requests c) (hk : (requests i).idempotencyKey = k)
    (hr : (c.hist i).captured = some r) : CapturedFor requests c k r := by
  obtain ⟨x, -, hrecords⟩ := captured_records h hr
  exact ⟨(h.inv.payments r.paymentId).captured i r hr rfl, hrecords.status, i, hk, hr⟩

/-- **The amounts of a column** are those that are written to it when they are whole cents. -/
theorem sameAmount_iff {amount : PyDecimal} {m : Money} (h : column amount = some m) :
    SameAmount amount m ↔ WholeCents amount := by
  cases amount with
  | finite d =>
    constructor
    · intro hsame
      cases m with
      | cents cents =>
        have hcents : d.isCents cents = true := hsame
        show d.isCents d.cents = true
        rw [Dec.cents_of_isCents hcents]
        exact hcents
      | nan => exact absurd hsame id
    · intro hwhole
      rw [column_of_wholeCents hwhole h rfl]
      exact hwhole
  | nan =>
    obtain rfl : Money.nan = m := Option.some.inj h
    exact ⟨fun _ => trivial, fun _ => trivial⟩
  | infinity => cases h
  | signalingNan => cases h

/-- **One payment and one answer**, when what is captured under the key is stored as it is. -/
theorem capturedOnce_iff (h : Sound J requests c) : CapturedOnce requests c k ↔
    ∀ i r, (requests i).idempotencyKey = k → (c.hist i).captured = some r →
      SameAmount (requests i).amount r.amount := by
  have honce : ∀ r r', CapturedFor requests c k r → CapturedFor requests c k r' → r = r' := by
    rintro r r' ⟨-, -, i, hi, hr⟩ ⟨-, -, j, hj, hr'⟩
    obtain rfl : i = j := (h.inv.keys k).once i j hi hj (by rw [hr]; exact Option.some_ne_none r)
      (by rw [hr']; exact Option.some_ne_none r')
    exact Option.some.inj (hr.symm.trans hr')
  constructor
  · intro hall i r hk hr
    obtain ⟨settlement, hresult, -, hamount⟩ := captured_returned h hr
    obtain ⟨r', hfor, -, hsame⟩ := hall.answers i settlement hk hresult
    obtain rfl := honce r r' (captured_for h hk hr) hfor
    rwa [← hamount]
  · intro hsame
    refine ⟨honce, fun i settlement hk hresult => ?_⟩
    rcases outlined_returned h hresult with ⟨r, hr, hid, hamount⟩ | ⟨-, x, hx, rfl⟩
    · refine ⟨r, captured_for h hk hr, hid, ?_⟩
      rw [hamount]
      exact hsame i r hk hr
    · obtain ⟨j, r, hj, hr, hrecords⟩ := (h.inv.keys k).row x ((h.inv.keys k).heard i x hk hx)
      refine ⟨r, captured_for h hj hr, hrecords.id, ?_⟩
      show SameAmount x.response.amount r.amount
      rw [hrecords.amount]
      exact hsame j r hj hr

/-- **A commit that takes effect** captures what was flushed. -/
theorem captured_commit {e : Outside} (hop : (c.prog i).next = some (.commit i))
    (he : e.raises = none) : ((captureSystem J ι).step c i e).hist = Function.update c.hist i
      { c.hist i with flushed := none, captured := (c.hist i).flushed } := by
  have hsem : (sem J e (.commit i) c.shared).1 = .ok () := by
    rw [sem, he]
    rfl
  rw [hist_step hop]
  show Function.update c.hist i ((captureSystem J ι).adv i (c.hist i) c.shared (.commit i)
    (sem J e (.commit i) c.shared).1) = _
  rw [hsem]
  rfl

/-- Any other step captures nothing. -/
theorem captured_quiet (h : Sound J requests c) {e : Outside}
    (hquiet : ¬ ((c.prog i).next = some (.commit i) ∧ e.raises = none)) (j : ι) :
    (((captureSystem J ι).step c i e).hist j).captured = (c.hist j).captured := by
  cases hop : (c.prog i).next with
  | none => rw [step_of_none hop]
  | some op =>
    rw [hist_step hop]
    refine update_same Work.captured ?_ j
    show ((captureSystem J ι).adv i (c.hist i) c.shared op (sem J e op c.shared).1).captured = _
    cases hr : (sem J e op c.shared).1 with
    | error x => rfl
    | ok a =>
      cases op with
      | commit l =>
        obtain rfl := (outlined_call h hop e trivial).2 l rfl
        refine absurd ⟨hop, ?_⟩ hquiet
        cases he : e.raises with
        | none => rfl
        | some x =>
          rw [sem, he] at hr
          cases hr
      | flush l p key => cases key <;> rfl
      | _ => rfl

/-- **One step** keeps the amounts exactly when it captures whole cents. -/
theorem amounts_step (h : Sound J requests c) {e : Outside}
    (hsame : ∀ i r, (requests i).idempotencyKey = k → (c.hist i).captured = some r →
      SameAmount (requests i).amount r.amount) :
    (∀ j r, (requests j).idempotencyKey = k →
      (((captureSystem J ι).step c i e).hist j).captured = some r →
        SameAmount (requests j).amount r.amount) ↔ WholeCapture requests k c i e := by
  by_cases hcommit : (c.prog i).next = some (.commit i) ∧ e.raises = none
  · obtain ⟨hop, he⟩ := hcommit
    rw [captured_commit hop he]
    constructor
    · rintro hall - - hk ⟨v, hv⟩
      obtain ⟨-, -, x, r, -, hr, hrecords⟩ := (h.inv.keys k).held i v hv
      rw [← sameAmount_iff hrecords.column]
      refine hall i r hk ?_
      rw [Function.update_self]
      exact hr
    · intro hwhole j r hj hr
      by_cases hji : j = i
      · subst hji
        rw [Function.update_self] at hr
        have hflushed : (c.hist j).flushed = some r := hr
        obtain ⟨v, hv⟩ := (h.inv.keys k).flushed j hj (by rw [hflushed]; exact Option.some_ne_none r)
        obtain ⟨-, -, x, r', -, hr', hrecords⟩ := (h.inv.keys k).held j v hv
        obtain rfl : r = r' := Option.some.inj (hflushed.symm.trans hr')
        exact (sameAmount_iff hrecords.column).2 (hwhole hop he hj ⟨v, hv⟩)
      · rw [Function.update_of_ne hji] at hr
        exact hsame j r hj hr
  · simp only [captured_quiet h hcommit]
    exact ⟨fun _ hop he => absurd ⟨hop, he⟩ hcommit, fun _ => hsame⟩

/-- **One payment and one answer for a key** in every state of a run exactly when what is captured
under the key is a number of whole cents. -/
theorem captured_once (J : Jose) (requests : ι → CaptureRequest) (k : String)
    (xs : List (ι × Outside)) :
    (∀ ys, ys <+: xs →
      CapturedOnce requests ((captureSystem J ι).run (captureStart requests) ys) k) ↔
      (captureSystem J ι).Along (WholeCapture requests k) (captureStart requests) xs := by
  have hsound := captureStart_sound J requests
  have hruns : ∀ ys, (captureSystem J ι).Along (captureSpec requests).Ok (captureStart requests) ys :=
    (captureSystem J ι).along_of_forall (fun _ _ _ _ _ => trivial) _
  rw [← always_iff_along (fun c i e h _ hsame => amounts_step h hsame) hsound ?_ (hruns xs)]
  · constructor
    · exact fun hall ys hys => (capturedOnce_iff (outline_run hsound (hruns ys)).2).1 (hall ys hys)
    · exact fun hall ys hys => (capturedOnce_iff (outline_run hsound (hruns ys)).2).2 (hall ys hys)
  · intro j r _ hr
    cases hr

end Requests

/-! ## Half a cent -/

/-- A capture of 130.025 under a signed mandate. -/
def halfCent : CaptureRequest := { plainCapture ⟨130025, -3⟩ with checkoutJwt := none }

/-- The tables of the rail and the issuer's answers, as the capture finds them. -/
def halfCentEnv : Outside where
  rail := { tokens := [⟨"ynt_1", "yst_1", "mnd_b", true, "VISA ****4242 (simulated)"⟩]
            statuses := fun _ => some .active }
  meets := plainEnv

/-- **Half a cent**: the settlement says 130.025, and the row 130.03. -/
theorem captured_rounded :
    (((captureSystem plainJose Unit).run (captureStart fun _ => halfCent)
        (List.replicate 6 ((), halfCentEnv))).prog ()).result =
      some ⟨"ynp_1", .finite ⟨130025, -3⟩, "USD", "mnd_b", 5000000, false⟩ ∧
    ¬ CapturedOnce (fun _ => halfCent) ((captureSystem plainJose Unit).run
        (captureStart fun _ => halfCent) (List.replicate 6 ((), halfCentEnv))) "idem_1" := by
  have hresult : (((captureSystem plainJose Unit).run (captureStart fun _ => halfCent)
      (List.replicate 6 ((), halfCentEnv))).prog ()).result =
        some ⟨"ynp_1", .finite ⟨130025, -3⟩, "USD", "mnd_b", 5000000, false⟩ := by decide +kernel
  refine ⟨hresult, fun h => ?_⟩
  obtain ⟨r, ⟨hrow, -, -⟩, hid, hsame⟩ := h.answers () _ rfl hresult
  rw [← hid] at hrow
  have hpayment : (((captureSystem plainJose Unit).run (captureStart fun _ => halfCent)
      (List.replicate 6 ((), halfCentEnv))).shared.payments "ynp_1").row =
        some ⟨"ynp_1", "ynt_1", "mnd_b", .cents 13003, "USD", .captured, none, none, "int_1"⟩ := by
    decide +kernel
  rw [hpayment] at hrow
  cases hrow
  have hcents : (⟨130025, -3⟩ : Dec).isCents 13003 = true := hsame
  exact absurd hcents (by decide)

end TryTrust.Yuno.Captures
