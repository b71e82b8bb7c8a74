import TryTrust.Agent.Confinement
import TryTrust.Conc.Answers

/-!
# What a revocation leaves alone

`revoke` writes the status of one mandate and deletes the rail token that its claims name. A sticky
approval signs the token of the parent into the derived mandate, and `issue` vaults a token once.

* `Vaulted`: the databases that issuing, approving and running statements lead to; `Descends`;
* `revoked`, the database after a revocation; **`revoked_eq`**: what it writes;
* `Apart`, `Alike`: calls and databases apart from a mandate; `alike_exec`;
* `Stays`: a program whose calls are apart; `verify_stays`, `charge_stays`;
* `Attempt`: a purchase, or the settlement of an intent; `Captures`: it is captured, when it runs
  alone; `attempt_alike`, `attempt_refused`;
* **`revoke_frames`**: other mandates keep their rows, and an attempt that was captured still is,
  exactly when the rail is not to charge the revoked mandate's token; **`token_shared`**: the parent
  of a revoked mandate.
-/

namespace TryTrust.Agent

open Conc

/-! ## Mandates and their tokens -/

/-- `INSERT INTO payment_instruments … ON CONFLICT (token_ref) DO NOTHING`. -/
def Db.vault (db : Db) (ref : String) : Db :=
  { db with
    instruments := fun r => if r = ref then some ((db.instruments r).getD .active)
      else db.instruments r }

/-- **The databases of a forest with its tokens**: mandates are issued, or derived by sticky
approvals, tokens are vaulted and statements run; what verifies is what was signed. -/
inductive Vaulted (K : Deps) : Db → Prop
  | empty (db : Db) (h : ∀ m, db.mandates m = none) : Vaulted K db
  | issue {db : Db} (h : Vaulted K db) (g : Grant) (jti : String) (issued : ℤ) (token : String)
      (hsigned : ∀ claims, K.verifyToken token = .ok claims → claims = g.claims jti issued) :
      Vaulted K ((db.addMandate jti (g.row jti issued token none)).vault g.paymentMethodRef)
  | approve {db : Db} (h : Vaulted K db) {parentJti : String} {parent : MandateRow}
      (hparent : db.mandates parentJti = some parent) (validityExp : Option ℤ) (amount : ℤ)
      (jti : String) (issued : ℤ) (token : String)
      (hsigned : ∀ claims, K.verifyToken token = .ok claims →
        claims = (sticky parent.claims validityExp amount).claims jti issued) :
      Vaulted K ((db.addMandate jti
        ((sticky parent.claims validityExp amount).row jti issued token (some parentJti))).vault
          parent.claims.paymentMethodRef)
  | vault {db : Db} (h : Vaulted K db) (ref : String) : Vaulted K (db.vault ref)
  | call {db : Db} (h : Vaulted K db) (e : Env) (c : Call) : Vaulted K (exec e c db).2

/-- The claims of a row name it, and are those of its token. -/
def Genuine (K : Deps) (db : Db) : Prop :=
  ∀ m row, db.mandates m = some row → row.claims.jti = m ∧
    ∀ claims, K.verifyToken row.token = .ok claims → claims = row.claims

theorem genuine_add {K : Deps} {db : Db} (h : Genuine K db) {jti : String} {row : MandateRow}
    (hjti : row.claims.jti = jti)
    (hsigned : ∀ claims, K.verifyToken row.token = .ok claims → claims = row.claims) :
    Genuine K (db.addMandate jti row) := by
  intro m row' hrow
  by_cases hm : m = jti
  · subst hm
    have hself : (db.addMandate m row).mandates m = some row := Function.update_self ..
    obtain rfl := Option.some.inj (hself.symm.trans hrow)
    exact ⟨hjti, hsigned⟩
  · have hother : (db.addMandate jti row).mandates m = db.mandates m := Function.update_of_ne hm ..
    exact h m row' (hother.symm.trans hrow)

theorem Vaulted.genuine {K : Deps} {db : Db} (h : Vaulted K db) : Genuine K db := by
  induction h with
  | empty db h =>
    intro m row hrow
    rw [h m] at hrow
    cases hrow
  | issue _ g jti issued token hsigned ih => exact genuine_add ih rfl hsigned
  | approve _ _ validityExp amount jti issued token hsigned ih => exact genuine_add ih rfl hsigned
  | vault _ _ ih => exact ih
  | @call db _ e c ih =>
    intro m row hrow
    have hcol := exec_column (f := fun row => (row.token, row.claims)) (fun _ _ _ _ _ => rfl) e c
      db m
    rw [hrow, Option.map_some, eq_comm, Option.map_eq_some_iff] at hcol
    obtain ⟨old, hold, heq⟩ := hcol
    obtain ⟨htoken, hclaims⟩ := Prod.mk.inj heq
    rw [← htoken, ← hclaims]
    exact ih m old hold

/-- The mandate is `m`, or was derived from it, in any number of steps. -/
def Descends (db : Db) (x m : String) : Prop :=
  Relation.ReflTransGen (fun child parent => db.parents child = some (some parent)) x m

/-- The mandates of a chain are the mandate and those it was derived from. -/
theorem descends_of_chain {db : Db} {fuel : ℕ} {x j : String} (hj : j ∈ db.chainOf fuel x) :
    Descends db x j := by
  have hloop : ∀ (fuel : ℕ) (current : Option String) (seen : List String),
      (∀ c ∈ current, Descends db x c) → (∀ j ∈ seen, Descends db x j) →
        ∀ j ∈ chainList db.parents fuel current seen, Descends db x j := by
    intro fuel
    induction fuel with
    | zero => exact fun _ _ _ hseen => hseen
    | succ fuel ih =>
      intro current seen hcurrent hseen
      cases current with
      | none => exact hseen
      | some current =>
        have hhere := hcurrent current rfl
        simp only [chainList]
        split_ifs
        · exact hseen
        · refine ih _ _ (fun p hp => ?_) fun j hj => ?_
          · exact hhere.tail (Option.join_eq_some_iff.1 hp)
          · rcases List.mem_append.1 hj with hj | hj
            · exact hseen j hj
            · rw [List.mem_singleton] at hj
              exact hj ▸ hhere
  exact hloop fuel _ _ (fun c hc => by cases hc; exact .refl) (by simp) j hj

/-! ## A revocation -/

/-- The database after a revocation whose statements all run. -/
def revoked (db : Db) (m : String) : Db := ((revoke m).run (sem .quiet) db).2

/-- The token that a mandate's claims name. -/
def Db.tokenOf (db : Db) (m : String) : String :=
  textOr ((db.mandates m).map (·.claims.paymentMethodRef)) ""

/-- The rail forgets a token. -/
def Db.forget (db : Db) (ref : String) : Db :=
  if ref = "" then db else (exec .quiet (.deleteInstrument ref) db).2

theorem run_deleteInstrument (db : Db) (ref : String) : ∃ deleted : Bool,
    (call (.deleteInstrument ref)).run (sem .quiet) db =
      (.ok deleted, (exec .quiet (.deleteInstrument ref) db).2) := by
  rw [Prog.run_perform]
  by_cases hactive : db.instruments ref = some .active
  · exact ⟨true, by simp [sem, Env.quiet, exec, hactive]⟩
  · exact ⟨false, by simp [sem, Env.quiet, exec, hactive]⟩

/-- **What a revocation does**: the status, then the token. -/
theorem revoked_eq (db : Db) (m : String) :
    revoked db m = (exec .quiet (.auditAppend ⟨"mandate.revoked", m, some m⟩)
      ((exec .quiet (.updateRevoked m) db).2.forget (db.tokenOf m))).2 := by
  have hclaims : ((exec .quiet (.updateRevoked m) db).2.mandates m).map (·.claims) =
      (db.mandates m).map (·.claims) := exec_column (fun _ _ _ _ _ => rfl) _ _ _ _
  have htoken : textOr ((((exec .quiet (.updateRevoked m) db).2.mandates m).map (·.claims)).map
      (·.paymentMethodRef)) "" = db.tokenOf m := by
    rw [hclaims, Option.map_map]
    rfl
  have hstatus : (call (.updateRevoked m)).run (sem .quiet) db =
      (.ok (), (exec .quiet (.updateRevoked m) db).2) := rfl
  have hread : (call (.selectClaims m)).run (sem .quiet) (exec .quiet (.updateRevoked m) db).2 =
      (.ok (((exec .quiet (.updateRevoked m) db).2.mandates m).map (·.claims)),
        (exec .quiet (.updateRevoked m) db).2) := rfl
  show ((revoke m).run (sem .quiet) db).2 = _
  rw [← htoken]
  refine (congrArg Prod.snd ((Prog.run_bind_ok (sem .quiet) hstatus).trans
    (Prog.run_bind_ok (sem .quiet) hread))).trans ?_
  dsimp only
  by_cases href : textOr ((((exec .quiet (.updateRevoked m) db).2.mandates m).map (·.claims)).map
      (·.paymentMethodRef)) "" = ""
  · rw [if_pos href, Db.forget, if_pos href]
    rfl
  · obtain ⟨deleted, hdeleted⟩ := run_deleteInstrument (exec .quiet (.updateRevoked m) db).2
      (textOr ((((exec .quiet (.updateRevoked m) db).2.mandates m).map (·.claims)).map
        (·.paymentMethodRef)) "")
    rw [if_neg href, Db.forget, if_neg href]
    exact congrArg Prod.snd (Prog.run_bind_ok (sem .quiet) hdeleted)

/-! ## What a revocation leaves -/

/-- The mandate whose row a call reads or writes, but for the parent pointer, which is fixed. -/
def Call.mandate : Call → Option String
  | .selectMandate j => some j
  | .selectReserved j => some j
  | .selectStatus j => some j
  | .selectLiveStatus j => some j
  | .selectClaims j => some j
  | .casReserve j _ _ => some j
  | .updateReserved j _ => some j
  | .updateSettled j _ _ _ _ => some j
  | .updateExpired j => some j
  | .updateRevoked j => some j
  | .updateTransition j _ _ => some j
  | _ => none

/-- The token whose row a call reads or writes. -/
def Call.instrument : Call → Option String
  | .selectInstrument ref => some ref
  | .deleteInstrument ref => some ref
  | _ => none

/-- **A call apart** from the mandate `m`, on tokens that satisfy `T` only. -/
structure Apart (m : String) (T : String → Prop) (c : Call) : Prop where
  mandate : ∀ j ∈ c.mandate, j ≠ m
  instrument : ∀ ref ∈ c.instrument, T ref

/-- **Databases alike** but for the row of `m`, tokens outside of `T` and the log. -/
structure Alike (m : String) (T : String → Prop) (s t : Db) : Prop where
  mandates : ∀ j, j ≠ m → t.mandates j = s.mandates j
  terms : t.terms = s.terms
  instruments : ∀ ref, T ref → t.instruments ref = s.instruments ref
  captures : t.captures = s.captures
  intents : t.intents = s.intents
  purchases : t.purchases = s.purchases
  escalations : t.escalations = s.escalations
  bridgeOrders : t.bridgeOrders = s.bridgeOrders

section Alike

variable {m : String} {T : String → Prop} {s t : Db}

/-- A write to another mandate. -/
theorem Alike.setMandate (h : Alike m T s t) {j : String} {f : MandateRow → MandateRow}
    (hterms : (t.setMandate j f).terms = (s.setMandate j f).terms) :
    Alike m T (s.setMandate j f) (t.setMandate j f) where
  mandates i hi := by
    simp only [Db.setMandate]
    rw [h.mandates i hi]
  terms := hterms
  instruments := h.instruments
  captures := h.captures
  intents := h.intents
  purchases := h.purchases
  escalations := h.escalations
  bridgeOrders := h.bridgeOrders

/-- **A call apart** is answered alike, and keeps the databases alike. -/
theorem alike_exec (h : Alike m T s t) {c : Call} (hc : Apart m T c) (e : Env) :
    (exec e c t).1 = (exec e c s).1 ∧ Alike m T (exec e c s).2 (exec e c t).2 := by
  have hterms : (exec e c t).2.terms = (exec e c s).2.terms := by
    rw [exec_terms, exec_terms, h.terms]
  have hrow : ∀ j, c.mandate = some j → t.mandates j = s.mandates j :=
    fun j hj => h.mandates j (hc.mandate j hj)
  cases c with
  | selectMandate j => exact ⟨congrArg Except.ok (hrow j rfl), h⟩
  | selectParent j =>
    have hparent : t.parents j = s.parents j := by rw [Db.parents, h.terms, Db.parents]
    exact ⟨by simp only [exec, parents_eq, hparent], h⟩
  | selectReserved j => exact ⟨by simp only [exec, hrow j rfl], h⟩
  | selectStatus j => exact ⟨by simp only [exec, hrow j rfl], h⟩
  | selectLiveStatus j => exact ⟨by simp only [exec, hrow j rfl], h⟩
  | selectClaims j => exact ⟨by simp only [exec, hrow j rfl], h⟩
  | casReserve j row reserved =>
    simp only [exec, hrow j rfl] at hterms ⊢
    split_ifs at hterms ⊢ with hcas
    · exact ⟨rfl, h.setMandate hterms⟩
    · exact ⟨rfl, h⟩
  | updateReserved j _ => exact ⟨rfl, h.setMandate hterms⟩
  | updateSettled j _ _ _ _ => exact ⟨rfl, h.setMandate hterms⟩
  | updateExpired j => exact ⟨rfl, h.setMandate hterms⟩
  | updateRevoked j => exact ⟨rfl, h.setMandate hterms⟩
  | updateTransition j target sources =>
    simp only [exec, hrow j rfl] at hterms ⊢
    split_ifs at hterms ⊢ with hcas
    · exact ⟨rfl, h.setMandate hterms⟩
    · exact ⟨rfl, h⟩
  | selectInstrument ref =>
    exact ⟨congrArg Except.ok (h.instruments ref (hc.instrument ref rfl)), h⟩
  | deleteInstrument ref =>
    simp only [exec, h.instruments ref (hc.instrument ref rfl)]
    split_ifs
    · refine ⟨rfl, { h with instruments := fun r hr => ?_ }⟩
      dsimp only
      split_ifs
      · rfl
      · exact h.instruments r hr
    · exact ⟨rfl, h⟩
  | selectCapture id => exact ⟨by simp only [exec, h.captures], h⟩
  | insertCapture id cap =>
    simp only [exec, h.captures]
    cases s.captures id with
    | some _ => exact ⟨rfl, h⟩
    | none => exact ⟨rfl, { h with captures := by simp only [Db.addCapture, h.captures] }⟩
  | selectIntentSeen jti nonce => exact ⟨by simp only [exec, h.intents], h⟩
  | insertIntent i signature =>
    simp only [exec, h.intents]
    split_ifs
    · exact ⟨rfl, h⟩
    · exact ⟨rfl, { h with intents := rfl }⟩
  | updateIntentCaptured jti =>
    exact ⟨rfl, { h with intents := by simp only [exec, h.intents] }⟩
  | insertPurchase id i =>
    simp only [exec, h.purchases]
    cases s.purchases id with
    | some _ => exact ⟨rfl, h⟩
    | none => exact ⟨rfl, { h with purchases := rfl }⟩
  | updatePurchase id status set =>
    exact ⟨rfl, { h with purchases := by simp only [exec, Db.setPurchase, h.purchases] }⟩
  | openEscalation id purchase code =>
    exact ⟨rfl, { h with escalations := congrArg (· ++ [(id, purchase)]) h.escalations }⟩
  | auditAppend ev => exact ⟨rfl, { h with }⟩
  | placeOrder body =>
    exact ⟨rfl, { h with bridgeOrders := congrArg (· ++ [(body, e.order.clicked)]) h.bridgeOrders }⟩
  | _ => exact ⟨rfl, h⟩

end Alike

/-! ## Programs apart from a mandate -/

/-- What is known of answers: parent pointers are fixed, and stored captures are found. -/
def Fixed (terms : String → Option (Claims × Option String)) (stored : String → Prop) :
    (c : Call) → Res c → Prop
  | .selectParent j, (parent : Option (Option String)) => parent = (terms j).map (·.2)
  | .selectCapture id, (prior : Option Capture) => stored id → prior ≠ none
  | _, _ => True

section Stays

variable {m : String} {T : String → Prop} {terms : String → Option (Claims × Option String)}
  {stored : String → Prop} {α β : Type}

theorem apart_quiet {c : Call} (hm : c.mandate = none) (hi : c.instrument = none) :
    Apart m T c := by
  refine ⟨fun j hj => ?_, fun ref href => ?_⟩
  · rw [hm] at hj
    cases hj
  · rw [hi] at href
    cases href

theorem apart_mandate {c : Call} {j : String} (hm : c.mandate = some j) (hi : c.instrument = none)
    (hj : j ≠ m) : Apart m T c := by
  refine ⟨fun i hi => ?_, fun ref href => ?_⟩
  · rw [hm] at hi
    cases hi
    exact hj
  · rw [hi] at href
    cases href

variable (m T terms stored) in
/-- **A program stays apart** from the mandate `m`, on tokens that satisfy `T`. -/
abbrev Stays (p : Py α) : Prop := Answered (Fixed terms stored) (Apart m T) (fun _ => True) p

theorem stays_bind {p : Py α} {f : α → Py β} (hp : Stays m T terms stored p)
    (hf : ∀ a, Stays m T terms stored (f a)) : Stays m T terms stored (p.bind f) :=
  answered_bind hp (fun a _ => hf a) fun _ _ => trivial

theorem stays_call {c : Call} (hc : Apart m T c) : Stays m T terms stored (call c) :=
  answered_perform hc (fun _ _ => trivial) fun _ => trivial

theorem stays_of_calls {p : Py α} (hp : p.Calls (Apart m T)) : Stays m T terms stored p :=
  answered_of_calls hp (Prog.returns_of_forall (fun _ => trivial) p)

/-- **The chain**, over the fixed parent pointers. -/
theorem chain_stays (fuel : ℕ) (jti : String) :
    Answered (Fixed terms stored) (Apart m T) (Yields (· = chainOf terms fuel jti))
      (chain fuel jti) := by
  have hloop : ∀ (fuel : ℕ) current seen, Answered (Fixed terms stored) (Apart m T)
      (Yields (· = chainList (fun j => (terms j).map (·.2)) fuel current seen))
      (chainLoop fuel current seen) := by
    intro fuel
    induction fuel with
    | zero => exact fun _ _ => yields_ok rfl
    | succ fuel ih =>
      intro current seen
      cases current with
      | none => exact yields_ok rfl
      | some jti =>
        simp only [chainLoop, chainList]
        split_ifs
        · exact yields_ok rfl
        · have hparent : Answered (Fixed terms stored) (Apart m T)
              (Yields fun parent => parent = (terms jti).map (·.2)) (call (.selectParent jti)) :=
            answered_call (apart_quiet rfl rfl) fun _ h => h
          refine answered_then hparent ?_
          rintro parent rfl
          exact ih _ _
  exact hloop fuel _ _

/-- After the chain. -/
theorem chain_then {fuel : ℕ} {jti : String} {f : List String → Py α}
    (hf : Stays m T terms stored (f (chainOf terms fuel jti))) :
    Stays m T terms stored ((chain fuel jti).bind f) :=
  answered_bind (chain_stays fuel jti) (fun a h => h a rfl ▸ hf) fun _ _ => trivial

theorem unreserve_apart {amount : ℤ} {jtis : List String} (h : m ∉ jtis) :
    (unreserve amount jtis).Calls (Apart m T) := by
  induction jtis with
  | nil => trivial
  | cons jti rest ih =>
    have hjti : jti ≠ m := fun heq => h (heq ▸ List.mem_cons_self)
    refine Prog.calls_bind (Prog.calls_bind (Prog.calls_perform (apart_mandate rfl rfl hjti))
      fun r => ?_) fun _ => ih fun hm => h (List.mem_cons_of_mem _ hm)
    cases r with
    | none => trivial
    | some r => exact Prog.calls_perform (apart_mandate rfl rfl hjti)

theorem settleLoop_apart {amount : ℤ} {jtis : List String} (h : m ∉ jtis) :
    (settleLoop amount jtis).Calls (Apart m T) := by
  induction jtis with
  | nil => trivial
  | cons jti rest ih =>
    have hjti : jti ≠ m := fun heq => h (heq ▸ List.mem_cons_self)
    refine Prog.calls_bind (Prog.calls_bind (Prog.calls_perform (apart_mandate rfl rfl hjti))
      fun r => ?_) fun _ => ih fun hm => h (List.mem_cons_of_mem _ hm)
    cases r with
    | none => trivial
    | some r => exact Prog.calls_perform (apart_mandate rfl rfl hjti)

theorem reserveLoop_apart {amount : ℤ} {jtis done : List String} (h : m ∉ jtis) (hd : m ∉ done) :
    (reserveLoop amount jtis done).Calls (Apart m T) := by
  induction jtis generalizing done with
  | nil => trivial
  | cons jti rest ih =>
    have hjti : jti ≠ m := fun heq => h (heq ▸ List.mem_cons_self)
    have hundo : ((unreserve amount done).bind fun _ => pure false).Calls (Apart m T) :=
      Prog.calls_bind (unreserve_apart hd) fun _ => trivial
    refine Prog.calls_bind (Prog.calls_perform (apart_mandate rfl rfl hjti)) fun r => ?_
    cases r with
    | none => exact hundo
    | some row =>
      dsimp only
      split_ifs
      · exact hundo
      · exact hundo
      · refine Prog.calls_bind (Prog.calls_perform (apart_mandate rfl rfl hjti)) fun won => ?_
        cases won with
        | false => exact hundo
        | true =>
          refine ih (fun hm => h (List.mem_cons_of_mem _ hm)) fun hm => ?_
          rcases List.mem_append.1 hm with hm | hm
          · exact hd hm
          · exact hjti (List.mem_singleton.1 hm).symm

theorem deadAncestor_apart {jtis : List String} (h : m ∉ jtis) :
    (deadAncestor jtis).Calls (Apart m T) := by
  induction jtis with
  | nil => trivial
  | cons jti rest ih =>
    have hjti : jti ≠ m := fun heq => h (heq ▸ List.mem_cons_self)
    have hrest := ih fun hm => h (List.mem_cons_of_mem _ hm)
    refine Prog.calls_bind (Prog.calls_perform (apart_mandate rfl rfl hjti)) fun r => ?_
    cases r with
    | none => exact hrest
    | some status =>
      dsimp only
      split_ifs
      · trivial
      · exact hrest

/-! ### The saga -/

variable {K : Deps} {ports : String → Option Port} {fuel : ℕ} {claims : Claims} {intent : Intent}

theorem refuse_apart (mandateJti : Option String) (code detail : String) :
    (refuse mandateJti code detail).Calls (Apart m T) :=
  refuse_calls (fun _ => apart_quiet rfl rfl) _ _ _

theorem refuse_stays (mandateJti : Option String) (code detail : String) :
    Stays m T terms stored (refuse mandateJti code detail) :=
  stays_of_calls (refuse_apart _ _ _)

theorem verifyGate_stays (ids : FreshIds) (row : MandateRow) (signature : String) (now : ℤ)
    (reserve : Bool) (hchain : m ∉ chainOf terms fuel claims.jti) :
    Stays m T terms stored
      (verifyGate K ports fuel ids claims row intent signature now reserve) := by
  simp only [verifyGate]
  cases ports intent.merchantId with
  | none => exact refuse_stays _ _ _
  | some port =>
    refine stays_bind (stays_call (apart_quiet rfl rfl)) fun offer => ?_
    cases offer with
    | none => exact refuse_stays _ _ _
    | some offer =>
      dsimp only
      split_ifs
      · exact refuse_stays _ _ _
      · exact stays_bind (stays_call (apart_quiet rfl rfl)) fun _ => trivial
      · have hreserve : Stays m T terms stored (reserveChain fuel claims.jti intent.amount) :=
          chain_then (stays_of_calls (reserveLoop_apart hchain (by simp)))
        refine stays_bind hreserve fun won => ?_
        cases won with
        | false => exact refuse_stays _ _ _
        | true =>
          exact stays_bind (stays_call (apart_quiet rfl rfl)) fun _ =>
            stays_bind (stays_call (apart_quiet rfl rfl)) fun _ => trivial

theorem verifyAlive_stays (ids : FreshIds) (signature : String) (now : ℤ) (reserve : Bool)
    (hjti : claims.jti ≠ m) (hchain : m ∉ chainOf terms fuel claims.jti) :
    Stays m T terms stored
      (verifyAlive K ports fuel ids claims intent signature now reserve) := by
  refine stays_bind (stays_call (apart_mandate rfl rfl hjti)) fun row => ?_
  cases row with
  | none => exact refuse_stays _ _ _
  | some row =>
    dsimp only
    by_cases hrevoked : row.status = .revoked
    · rw [if_pos hrevoked]
      exact refuse_stays _ _ _
    rw [if_neg hrevoked]
    refine chain_then (stays_bind (stays_of_calls (deadAncestor_apart fun h =>
      hchain (List.mem_of_mem_tail h))) fun dead => ?_)
    cases dead with
    | some d => exact refuse_stays _ _ _
    | none =>
      dsimp only
      split_ifs
      · exact refuse_stays _ _ _
      · exact refuse_stays _ _ _
      · exact refuse_stays _ _ _
      · exact stays_bind (stays_call (apart_mandate rfl rfl hjti)) fun _ => refuse_stays _ _ _
      · exact verifyGate_stays ids row signature now reserve hchain

/-- **`verify`** of a mandate whose chain does not hold `m`. -/
theorem verify_stays {x token : String}
    (htoken : ∀ claims, K.verifyToken token = .ok claims → claims.jti = x) (ids : FreshIds)
    (signature : String) (reserve : Bool) (hx : x ≠ m) (hchain : m ∉ chainOf terms fuel x) :
    Stays m T terms stored (verify K ports fuel ids token intent signature reserve) := by
  simp only [verify]
  rcases hverify : K.verifyToken token with (_ | _ | _ | _) | claims
  case error.badSignature => exact refuse_stays _ _ _
  case ok =>
    obtain rfl := htoken claims hverify
    dsimp only
    rcases K.verifyDetached signature intent claims with (_ | _ | _ | _) | ⟨⟩
    case error.badSignature => exact refuse_stays _ _ _
    case ok =>
      dsimp only
      by_cases hname : intent.mandateJti ≠ claims.jti
      · rw [if_pos hname]
        exact refuse_stays _ _ _
      rw [if_neg hname]
      refine stays_bind (stays_call (apart_quiet rfl rfl)) fun (now : ℤ) => ?_
      by_cases httl : intent.exp - intent.iat > intentTtl
      · rw [if_pos httl]
        exact refuse_stays _ _ _
      rw [if_neg httl]
      by_cases hexp : now > intent.exp
      · rw [if_pos hexp]
        exact refuse_stays _ _ _
      rw [if_neg hexp]
      refine stays_bind (stays_call (apart_quiet rfl rfl)) fun seen => ?_
      cases seen with
      | true => exact refuse_stays _ _ _
      | false => exact verifyAlive_stays ids signature now reserve hx hchain
    all_goals trivial
  all_goals trivial

/-! ### Settlement -/

/-- **The rail**, for a request that it has answered before, or a token that satisfies `T`. -/
theorem capture_stays (ids : FreshIds) {ref requestId : String} (amount : ℤ) (currency : String)
    (h : stored requestId ∨ T ref) :
    Stays m T terms stored (capture ids ref amount currency requestId) := by
  refine answered_bind (P := Yields fun prior : Option Capture => stored requestId → prior ≠ none)
    (answered_call (apart_quiet rfl rfl) fun _ h => h) (fun prior hprior => ?_) fun _ _ => trivial
  cases prior with
  | some prior => trivial
  | none =>
    have href : T ref := h.resolve_left fun hs => hprior none rfl hs rfl
    have hc : Apart m T (.selectInstrument ref) :=
      ⟨fun j hj => (by cases hj), fun r hr => (by cases hr; exact href)⟩
    refine stays_bind (stays_call hc) fun status => ?_
    rcases status with _ | (_ | _)
    · trivial
    · dsimp only
      split_ifs
      · trivial
      · exact stays_bind (stays_call (apart_quiet rfl rfl)) fun _ => trivial
    · trivial

theorem liveState_stays (rid : Option String) (h : claims.jti ≠ m) :
    Stays m T terms stored (liveState claims.jti rid) :=
  stays_of_calls (liveState_calls (apart_mandate rfl rfl h))

theorem localSettle_stays {token signature ref : String} {verifyFn : Py Live} (ids : FreshIds)
    (htoken : ∀ claims, K.verifyToken token = .ok claims → claims.paymentMethodRef = ref)
    (hv : Stays m T terms stored verifyFn) (h : stored intent.jti ∨ T ref) :
    Stays m T terms stored (localSettle K ids token intent signature verifyFn) := by
  refine answered_tryCatch (P := fun _ => True) ?_ (fun _ _ => trivial)
    fun x _ => by cases x <;> trivial
  simp only [checkoutCharge]
  rcases hverify : K.verifyToken token with (_ | _ | _ | _) | claims
  case ok =>
    obtain rfl := htoken claims hverify
    dsimp only
    rcases K.verifyDetached signature intent claims with (_ | _ | _ | _) | ⟨⟩
    case ok =>
      refine stays_bind (stays_call (apart_quiet rfl rfl)) fun offer => ?_
      cases offer with
      | none => trivial
      | some offer =>
        dsimp only
        split_ifs
        · trivial
        refine stays_bind hv fun live => ?_
        split_ifs
        · trivial
        exact stays_bind (capture_stays ids _ _ h) fun _ =>
          stays_bind (stays_call (apart_quiet rfl rfl)) fun _ => trivial
    all_goals trivial
  all_goals trivial

/-- **A port**, when the rail is not to read a token outside of `T`. -/
theorem portSettle_stays {port : Port} {token ref signature : String} (ids : FreshIds)
    (offer : Offer) (rid : Option String)
    (htoken : ∀ claims, K.verifyToken token = .ok claims → claims.paymentMethodRef = ref)
    (hx : claims.jti ≠ m) (h : port = .mock → stored intent.jti ∨ T ref) :
    Stays m T terms stored (portSettle K ids port offer claims token intent signature rid) := by
  cases port with
  | mock => exact localSettle_stays ids htoken (liveState_stays rid hx) (h rfl)
  | rappiBridge =>
    refine stays_of_calls (rappiSettle_calls K offer claims intent
      (liveState_calls (apart_mandate rfl rfl hx)) (fun _ _ => ?_) (fun _ => apart_quiet rfl rfl)
      (fun _ => apart_quiet rfl rfl) (fun _ => apart_quiet rfl rfl) fun _ => apart_quiet rfl rfl)
    exact Prog.calls_perform (apart_quiet rfl rfl)

theorem compensate_stays (purchaseId code detail : String)
    (hchain : m ∉ chainOf terms fuel claims.jti) :
    Stays m T terms stored (compensate fuel purchaseId claims intent code detail) :=
  stays_bind (chain_then (stays_of_calls (unreserve_apart hchain))) fun _ =>
    stays_bind (stays_call (apart_quiet rfl rfl)) fun _ =>
      stays_bind (stays_call (apart_quiet rfl rfl)) fun _ => trivial

theorem afterSettle_stays (purchaseId : String) (hchain : m ∉ chainOf terms fuel claims.jti)
    (r : Except PyErr SettleResult) :
    Stays m T terms stored (afterSettle fuel purchaseId claims intent r) := by
  rcases r with (_ | _ | _ | _) | (receipt | _)
  case ok.accepted =>
    exact stays_bind (chain_then (stays_of_calls (settleLoop_apart hchain))) fun _ =>
      stays_bind (stays_call (apart_quiet rfl rfl)) fun _ =>
        stays_bind (stays_call (apart_quiet rfl rfl)) fun _ =>
          stays_bind (stays_call (apart_quiet rfl rfl)) fun _ => trivial
  all_goals exact compensate_stays _ _ _ hchain

/-- **The settlement of an intent.** -/
theorem charge_stays {token ref signature : String} (ids : FreshIds) (purchaseId : String)
    (rid : Option String)
    (htoken : ∀ claims, K.verifyToken token = .ok claims → claims.paymentMethodRef = ref)
    (hx : claims.jti ≠ m) (hchain : m ∉ chainOf terms fuel claims.jti)
    (h : ports intent.merchantId = some .mock → stored intent.jti ∨ T ref) :
    Stays m T terms stored
      (charge K ports fuel ids purchaseId token claims intent signature rid) := by
  refine stays_bind (stays_call (apart_quiet rfl rfl)) fun _ => ?_
  cases hport : ports intent.merchantId with
  | none => trivial
  | some port =>
    refine stays_bind (stays_call (apart_quiet rfl rfl)) fun found => ?_
    refine answered_bind (answered_attempt (portSettle_stays ids _ rid htoken hx fun hmock => ?_))
      (fun r _ => afterSettle_stays purchaseId hchain r) fun _ _ => trivial
    exact h (hport.trans (congrArg some hmock))

end Stays

/-! ## Attempts -/

/-- A purchase that ends as captured. -/
def Captured (r : Except PyErr Outcome) : Prop := ∃ id receipt, r = .ok (.captured id receipt)

section Attempts

variable (K : Deps) (ports : String → Option Port) (fuel : ℕ)

/-- The part of `submit_purchase` after the offer is found. -/
def submitOffer (ids : FreshIds) (x : String) (row : MandateRow) (offer : Offer) : Py Outcome := do
  let issued : ℤ ← call .nowTs
  let intent := buildIntent ids x row.claims.agent offer issued
  let signature := K.signDetached intent row.claims
  call (.insertPurchase ids.purchaseId intent)
  call (.auditAppend ⟨"purchase.requested", ids.purchaseId, some x⟩)
  let v ← verify K ports fuel ids row.token intent signature true
  afterVerify K ports fuel ids row.token row.claims intent signature v

/-- An attempt to have an intent captured: a purchase, or the settlement of an intent that was
verified before. -/
inductive Attempt where
  | purchase (ids : FreshIds) (offerId merchantId : String)
  | settlement (ids : FreshIds) (purchaseId : String) (intent : Intent) (signature : String)
      (reservationId : Option String)

/-- Its program, under the mandate `x` with this row. -/
def Attempt.prog (x : String) (row : MandateRow) : Attempt → Py Outcome
  | .purchase ids offerId merchantId => submitPurchase K ports fuel ids offerId x merchantId
  | .settlement ids purchaseId intent signature reservationId =>
    charge K ports fuel ids purchaseId row.token row.claims intent signature reservationId

/-- The id of its intent. -/
def Attempt.intentJti : Attempt → String
  | .purchase ids _ _ => ids.intentJti
  | .settlement _ _ intent _ _ => intent.jti

/-- The merchant of its intent; a purchase finds the offer by its second call. -/
def Attempt.merchant (envs : ℕ → Env) : Attempt → Option String
  | .purchase .. => (envs 1).offer.map (·.merchantId)
  | .settlement _ _ intent _ _ => some intent.merchantId

/-- **The attempt is captured**, when it runs alone and `envs` decides its calls. -/
def Captures (envs : ℕ → Env) (x : String) (row : MandateRow) (a : Attempt) (db : Db) : Prop :=
  Captured ((a.prog K ports fuel x row).run (streamed sem envs) (db, 0)).1

/-- **The rail is to charge**: the in-process merchant settles the intent, and the rail has not
answered for it before. -/
structure OnRail (envs : ℕ → Env) (a : Attempt) (db : Db) : Prop where
  port : (a.merchant envs).bind ports = some .mock
  fresh : db.captures a.intentJti = none

variable {K ports fuel} {envs : ℕ → Env} {s t : Db} {x m : String} {T : String → Prop}

theorem run_read {α : Type} {n : ℕ} {c : Call} {a : Res c} {f : Res c → Py α}
    (hfail : (envs n).fail = none) (h : exec (envs n) c s = (.ok a, s)) :
    ((call c).bind f).run (streamed sem envs) (s, n) =
      (f a).run (streamed sem envs) (s, n + 1) := by
  refine Prog.run_bind_ok _ ?_
  rw [Prog.run_perform, streamed, sem, hfail, h]

theorem run_failed {α : Type} {n : ℕ} {c : Call} {e : PyErr} {f : Res c → Py α}
    (hfail : (envs n).fail = some e) :
    ((call c).bind f).run (streamed sem envs) (s, n) = (.error e, (s, n + 1)) := by
  refine Prog.run_bind_error _ ?_
  rw [Prog.run_perform, streamed, sem, hfail]

theorem not_captured_error {e : PyErr} : ¬ Captured (.error e) := by
  rintro ⟨id, receipt, h⟩
  cases h

theorem not_captured_rejected {id : Option String} {code detail : String} :
    ¬ Captured (.ok (.rejected id code detail)) := by
  rintro ⟨id, receipt, h⟩
  cases h

/-- What follows a read. -/
theorem captured_read {n : ℕ} {c : Call} {a : Res c} {f : Res c → Py Outcome}
    (hfail : (envs n).fail = none) (h : exec (envs n) c s = (.ok a, s)) :
    Captured (((call c).bind f).run (streamed sem envs) (s, n)).1 ↔
      Captured ((f a).run (streamed sem envs) (s, n + 1)).1 := by
  rw [run_read hfail h]

/-- After a call that fails. -/
theorem not_captured_failed {n : ℕ} {c : Call} {e : PyErr} {f : Res c → Py Outcome}
    (hfail : (envs n).fail = some e) :
    ¬ Captured (((call c).bind f).run (streamed sem envs) (s, n)).1 := by
  rw [run_failed hfail]
  exact not_captured_error

/-- **A purchase that is captured** finds its mandate and its offer first. -/
theorem purchase_captured {ids : FreshIds} {offerId merchantId : String} :
    Captured ((submitPurchase K ports fuel ids offerId x merchantId).run (streamed sem envs)
      (s, 0)).1 ↔
    (envs 0).fail = none ∧ (envs 1).fail = none ∧ ports merchantId ≠ none ∧
      ∃ row offer, s.mandates x = some row ∧ (envs 1).offer = some offer ∧
        Captured ((submitOffer K ports fuel ids x row offer).run (streamed sem envs) (s, 2)).1 := by
  cases h₀ : (envs 0).fail with
  | some e =>
    refine iff_of_false (not_captured_failed h₀) ?_
    rintro ⟨h, -⟩
    cases h
  | none =>
    refine (captured_read (c := .selectMandate x) (a := s.mandates x) h₀ rfl).trans ?_
    cases hrow : s.mandates x with
    | none =>
      refine iff_of_false not_captured_error ?_
      rintro ⟨-, -, -, row, -, h, -⟩
      cases h
    | some row =>
      dsimp only
      cases hport : ports merchantId with
      | none =>
        refine iff_of_false not_captured_rejected ?_
        rintro ⟨-, -, h, -⟩
        exact h rfl
      | some port =>
        cases h₁ : (envs 1).fail with
        | some e =>
          refine iff_of_false (not_captured_failed h₁) ?_
          rintro ⟨-, h, -⟩
          cases h
        | none =>
          refine (captured_read (c := .portGet merchantId offerId) (a := (envs 1).offer) h₁
            rfl).trans ?_
          cases hoffer : (envs 1).offer with
          | none =>
            refine iff_of_false not_captured_rejected ?_
            rintro ⟨-, -, -, -, offer, -, h, -⟩
            cases h
          | some offer =>
            refine ⟨fun h => ⟨rfl, rfl, Option.some_ne_none port, row, offer, rfl, rfl, h⟩, ?_⟩
            rintro ⟨-, -, -, row', offer', hrow', hoffer', h⟩
            cases hrow'
            cases hoffer'
            exact h

/-! ### Attempts that read nothing of the revocation -/

theorem exec_captures {id : String} {c : Call} (h : s.captures id ≠ none) (e : Env) :
    (exec e c s).2.captures id ≠ none := by
  cases c with
  | insertCapture id' cap =>
    simp only [exec]
    cases hid : s.captures id' with
    | some _ => exact h
    | none =>
      simp only [Db.addCapture]
      split_ifs
      · exact Option.some_ne_none cap
      · exact h
  | casReserve _ _ _ => simp only [exec]; split_ifs <;> exact h
  | updateTransition _ _ _ => simp only [exec]; split_ifs <;> exact h
  | deleteInstrument _ => simp only [exec]; split_ifs <;> exact h
  | insertIntent _ _ => simp only [exec]; split_ifs <;> exact h
  | insertPurchase _ _ => simp only [exec]; split <;> exact h
  | _ => exact h

/-- Two runs side by side, with what the answers follow from. -/
structure Paired (m : String) (T : String → Prop)
    (terms : String → Option (Claims × Option String)) (stored : String → Prop)
    (s t : Db × ℕ) : Prop where
  alike : Alike m T s.1 t.1
  count : t.2 = s.2
  terms : s.1.terms = terms
  stored : ∀ id, stored id → s.1.captures id ≠ none

theorem paired_step {terms : String → Option (Claims × Option String)} {stored : String → Prop}
    {s t : Db × ℕ} {c : Call} (hc : Apart m T c) (h : Paired m T terms stored s t) :
    (streamed sem envs c t).1 = (streamed sem envs c s).1 ∧
      (∀ a, (streamed sem envs c s).1 = .ok a → Fixed terms stored c a) ∧
        Paired m T terms stored (streamed sem envs c s).2 (streamed sem envs c t).2 := by
  obtain ⟨s, n⟩ := s
  obtain ⟨t, n'⟩ := t
  obtain rfl : n' = n := h.count
  simp only [streamed, sem]
  cases hfail : (envs n').fail with
  | some e => exact ⟨rfl, fun a ha => (by cases ha), h.alike, rfl, h.terms, h.stored⟩
  | none =>
    obtain ⟨hsame, halike⟩ := alike_exec h.alike hc (envs n')
    refine ⟨hsame, fun a ha => ?_, halike, rfl, (exec_terms _ c s).trans h.terms,
      fun id hid => exec_captures (h.stored id hid) _⟩
    cases c with
    | selectParent j =>
      have ha : a = s.parents j := (Except.ok.inj ha).symm.trans (parents_eq s j)
      rw [ha, Db.parents, h.terms]
      rfl
    | selectCapture id =>
      intro hid
      rw [← Except.ok.inj ha]
      exact h.stored id hid
    | _ => trivial

/-- **Programs apart** end alike. -/
theorem stays_alike {p : Py Outcome} {n : ℕ} (h : Alike m T s t)
    (hp : Stays m T s.terms (fun id => s.captures id ≠ none) p) :
    (p.run (streamed sem envs) (t, n)).1 = (p.run (streamed sem envs) (s, n)).1 := by
  refine answered_agree (R := Paired m T s.terms fun id => s.captures id ≠ none)
    (fun c u w hc hR => ?_) hp ⟨h, rfl, rfl, fun _ hid => hid⟩
  exact paired_step hc hR

/-- **An attempt under another mandate** ends as before, when the rail is not to charge a token
outside of `T`. -/
theorem attempt_alike {row : MandateRow} {a : Attempt} (hg : Genuine K s)
    (hrow : s.mandates x = some row) (h : Alike m T s t) (hx : x ≠ m)
    (hchain : m ∉ s.chainOf fuel x)
    (hrail : OnRail ports envs a s → T row.claims.paymentMethodRef) :
    Captures K ports fuel envs x row a t ↔ Captures K ports fuel envs x row a s := by
  obtain ⟨hjti, hsigned⟩ := hg x row hrow
  have hjti' : ∀ claims, K.verifyToken row.token = .ok claims → claims.jti = x :=
    fun claims hc => by rw [hsigned claims hc, hjti]
  have href : ∀ claims, K.verifyToken row.token = .ok claims →
      claims.paymentMethodRef = row.claims.paymentMethodRef :=
    fun claims hc => by rw [hsigned claims hc]
  have hrowx : row.claims.jti ≠ m := hjti ▸ hx
  have hchain' : m ∉ chainOf s.terms fuel row.claims.jti := hjti ▸ hchain
  cases a with
  | settlement ids purchaseId intent signature rid =>
    have hp : Stays m T s.terms (fun id => s.captures id ≠ none)
        (charge K ports fuel ids purchaseId row.token row.claims intent signature rid) := by
      refine charge_stays ids purchaseId rid href hrowx hchain' fun hport => ?_
      by_cases hstored : s.captures intent.jti = none
      · exact .inr (hrail ⟨hport, hstored⟩)
      · exact .inl hstored
    show Captured _ ↔ Captured _
    rw [Attempt.prog, stays_alike h hp]
  | purchase ids offerId merchantId =>
    refine purchase_captured.trans (Iff.trans ?_ purchase_captured.symm)
    rw [h.mandates x hx]
    refine and_congr_right fun _ => and_congr_right fun _ => and_congr_right fun _ =>
      exists_congr fun row' => exists_congr fun offer => and_congr_right fun hrow' =>
        and_congr_right fun hoffer => ?_
    obtain rfl := Option.some.inj (hrow.symm.trans hrow')
    have hp : Stays m T s.terms (fun id => s.captures id ≠ none)
        (submitOffer K ports fuel ids x row offer) := by
      refine stays_bind (stays_call (apart_quiet rfl rfl)) fun issued => ?_
      refine stays_bind (stays_call (apart_quiet rfl rfl)) fun _ => ?_
      refine stays_bind (stays_call (apart_quiet rfl rfl)) fun _ => ?_
      refine stays_bind (verify_stays hjti' ids _ true hx hchain) fun v => ?_
      have hcharge : Stays m T s.terms (fun id => s.captures id ≠ none)
          (charge K ports fuel ids ids.purchaseId row.token row.claims
            (buildIntent ids x row.claims.agent offer issued)
            (K.signDetached (buildIntent ids x row.claims.agent offer issued) row.claims)
            v.reservationId) := by
        refine charge_stays ids _ _ href hrowx hchain' fun hport => ?_
        by_cases hstored : s.captures ids.intentJti = none
        · refine .inr (hrail ⟨?_, hstored⟩)
          rw [Attempt.merchant, hoffer]
          exact hport
        · exact .inl hstored
      unfold afterVerify
      dsimp only
      cases v.decision.decision with
      | approved => exact hcharge
      | escalated =>
        exact stays_bind (stays_call (apart_quiet rfl rfl)) fun _ =>
          stays_bind (stays_call (apart_quiet rfl rfl)) fun _ => trivial
      | rejected =>
        exact stays_bind (stays_call (apart_quiet rfl rfl)) fun _ =>
          stays_bind (stays_call (apart_quiet rfl rfl)) fun _ => trivial
    rw [stays_alike h hp]

/-! ### Attempts on a deleted token -/

/-- What is known of answers: the token `ref` is not active, and the rail has not answered the
request `id`. -/
def Dead (ref id : String) : (c : Call) → Res c → Prop
  | .selectInstrument r, (status : Option Instrument) => r = ref → status ≠ some .active
  | .selectCapture i, (prior : Option Capture) => i = id → prior = none
  | _, _ => True

/-- A call that stores no answer of the rail to the request `id`. -/
def Uncharged (id : String) (c : Call) : Prop := ∀ cap, c ≠ .insertCapture id cap

variable {ref id : String}

/-- A program that ends without a capture. -/
abbrev Refuses (ref id : String) (p : Py Outcome) : Prop :=
  Answered (Dead ref id) (Uncharged id) (fun r => ¬ Captured r) p

theorem refuses_bind {α : Type} {p : Py α} {f : α → Py Outcome} (hp : p.Calls (Uncharged id))
    (hf : ∀ a, Refuses ref id (f a)) : Refuses ref id (p.bind f) :=
  answered_bind (P := fun _ => True)
    (answered_of_calls hp (Prog.returns_of_forall (fun _ => trivial) p)) (fun a _ => hf a)
    fun _ _ => not_captured_error

theorem refuses_call {c : Call} {f : Res c → Py Outcome} (hc : Uncharged id c)
    (hf : ∀ a, Refuses ref id (f a)) : Refuses ref id ((call c).bind f) :=
  refuses_bind (Prog.calls_perform hc) hf

theorem uncharged_verify (intent : Intent) : AdmitsVerify (Uncharged id) intent where
  read c hc cap heq := by
    rw [heq] at hc
    cases hc
  log _ _ h := by cases h
  expire _ _ h := by cases h
  release _ _ _ h := by cases h
  record _ _ h := by cases h
  reserve _ _ _ _ h := by cases h

/-- **The rail raises.** -/
theorem capture_refused (ids : FreshIds) (amount : ℤ) (currency : String) :
    Answered (Dead ref id) (Uncharged id) (Yields fun _ => False)
      (capture ids ref amount currency id) := by
  have hprior : Answered (Dead ref id) (Uncharged id) (Yields fun prior => prior = none)
      (call (.selectCapture id)) :=
    answered_call (fun _ h => by cases h) fun _ h => h rfl
  refine answered_then hprior ?_
  rintro prior rfl
  have hstatus : Answered (Dead ref id) (Uncharged id) (Yields fun status => status ≠ some .active)
      (call (.selectInstrument ref)) :=
    answered_call (fun _ h => by cases h) fun _ h => h rfl
  refine answered_then hstatus fun status hdead => ?_
  rcases status with _ | (_ | _)
  · exact yields_error _
  · exact absurd rfl hdead
  · exact yields_error _

/-- The in-process port does not accept. -/
def Declined : SettleResult → Prop
  | .accepted _ => False
  | .refused _ _ => True

theorem localSettle_refused {token signature : String} {verifyFn : Py Live} {intent : Intent}
    (ids : FreshIds)
    (htoken : ∀ claims, K.verifyToken token = .ok claims → claims.paymentMethodRef = ref)
    (hv : verifyFn.Calls (Uncharged intent.jti)) :
    Answered (Dead ref intent.jti) (Uncharged intent.jti) (Yields Declined)
      (localSettle K ids token intent signature verifyFn) := by
  refine answered_tryCatch (P := Yields Declined) ?_ (fun _ h => h) fun x _ => ?_
  · simp only [checkoutCharge]
    rcases hverify : K.verifyToken token with (_ | _ | _ | _) | claims
    case ok =>
      obtain rfl := htoken claims hverify
      dsimp only
      rcases K.verifyDetached signature intent claims with (_ | _ | _ | _) | ⟨⟩
      case ok =>
        refine answered_then (ψ := fun _ => True) (answered_call (fun _ h => by cases h)
          fun _ _ => trivial) fun offer _ => ?_
        cases offer with
        | none => exact yields_ok trivial
        | some offer =>
          dsimp only
          split_ifs
          · exact yields_ok trivial
          refine answered_then (ψ := fun _ => True) (answered_of_calls hv
            (Prog.returns_of_forall (fun _ _ _ => trivial) _)) fun live _ => ?_
          split_ifs
          · exact yields_ok trivial
          exact answered_then (capture_refused ids _ _) fun _ h => h.elim
      all_goals first | exact yields_ok trivial | exact yields_error _
    all_goals first | exact yields_ok trivial | exact yields_error _
  · cases x with
    | rail code message => exact yields_ok trivial
    | _ => exact yields_error _

theorem compensate_refused (purchaseId code detail : String) (claims : Claims) (intent : Intent) :
    Refuses ref id (compensate fuel purchaseId claims intent code detail) := by
  refine refuses_bind (Prog.calls_bind (chain_calls (fun _ _ h => by cases h) fuel _) fun _ =>
    unreserve_calls (fun _ _ h => by cases h) (fun _ _ _ h => by cases h) _ _) fun _ => ?_
  exact refuses_call (fun _ h => by cases h) fun _ => refuses_call (fun _ h => by cases h)
    fun _ => not_captured_rejected

/-- **The settlement of an intent** on a token that was deleted. -/
theorem charge_refused {token signature : String} {claims : Claims} {intent : Intent}
    (ids : FreshIds) (purchaseId : String) (rid : Option String)
    (hport : ports intent.merchantId = some .mock)
    (htoken : ∀ claims, K.verifyToken token = .ok claims → claims.paymentMethodRef = ref) :
    Refuses ref intent.jti
      (charge K ports fuel ids purchaseId token claims intent signature rid) := by
  refine refuses_call (fun _ h => by cases h) fun _ => ?_
  rw [hport]
  refine refuses_call (fun _ h => by cases h) fun found => ?_
  refine answered_bind (answered_attempt (localSettle_refused ids htoken
    (liveState_calls fun _ h => by cases h))) (fun r hr => ?_) fun _ _ => not_captured_error
  have hr : Yields Declined r := hr r rfl
  rcases r with (_ | _ | _ | _) | (receipt | _)
  case ok.accepted => exact (hr _ rfl).elim
  all_goals exact compensate_refused _ _ _ _ _

/-- A call keeps a token dead, and a request that the rail has not answered. -/
theorem dead_step {c : Call} (hc : Uncharged id c) {t : Db × ℕ}
    (h : t.1.instruments ref ≠ some .active ∧ t.1.captures id = none) :
    (∀ a, (streamed sem envs c t).1 = .ok a → Dead ref id c a) ∧
      (streamed sem envs c t).2.1.instruments ref ≠ some .active ∧
        (streamed sem envs c t).2.1.captures id = none := by
  obtain ⟨t, n⟩ := t
  obtain ⟨hdead, hnone⟩ := h
  simp only [streamed, sem]
  cases hfail : (envs n).fail with
  | some e => exact ⟨fun a ha => (by cases ha), hdead, hnone⟩
  | none =>
    cases c with
    | selectInstrument r =>
      refine ⟨fun a ha hr => ?_, hdead, hnone⟩
      rw [← Except.ok.inj ha, hr]
      exact hdead
    | selectCapture i =>
      refine ⟨fun a ha hi => ?_, hdead, hnone⟩
      rw [← Except.ok.inj ha, hi]
      exact hnone
    | insertCapture i cap =>
      have hi : id ≠ i := fun heq => hc cap (heq ▸ rfl)
      simp only [exec]
      cases hcap : t.captures i with
      | some _ => exact ⟨fun a ha => (by cases ha), hdead, hnone⟩
      | none =>
        refine ⟨fun _ _ => trivial, hdead, ?_⟩
        simp only [Db.addCapture, if_neg hi]
        exact hnone
    | deleteInstrument r =>
      simp only [exec]
      split_ifs with hactive
      · refine ⟨fun _ _ => trivial, ?_, hnone⟩
        dsimp only
        split_ifs
        · exact fun h => by cases h
        · exact hdead
      · exact ⟨fun _ _ => trivial, hdead, hnone⟩
    | casReserve _ _ _ =>
      simp only [exec]
      split_ifs <;> exact ⟨fun _ _ => trivial, hdead, hnone⟩
    | updateTransition _ _ _ =>
      simp only [exec]
      split_ifs <;> exact ⟨fun _ _ => trivial, hdead, hnone⟩
    | insertIntent _ _ =>
      simp only [exec]
      split_ifs <;> exact ⟨fun _ _ => trivial, hdead, hnone⟩
    | insertPurchase _ _ =>
      simp only [exec]
      split <;> exact ⟨fun _ _ => trivial, hdead, hnone⟩
    | _ => exact ⟨fun _ _ => trivial, hdead, hnone⟩

theorem refuses_run {p : Py Outcome} {n : ℕ} (hp : Refuses ref id p)
    (h : t.instruments ref ≠ some .active ∧ t.captures id = none) :
    ¬ Captured (p.run (streamed sem envs) (t, n)).1 := by
  refine answered_run (I := fun u => u.1.instruments ref ≠ some .active ∧ u.1.captures id = none)
    (fun c u hc hu => ?_) hp (s := (t, n)) h
  exact dead_step hc hu

/-- **The rail refuses** to charge a token that is not active. -/
theorem attempt_refused {row : MandateRow} {a : Attempt} (hg : Genuine K t)
    (hrow : t.mandates x = some row) (hrail : OnRail ports envs a t)
    (hdead : t.instruments row.claims.paymentMethodRef ≠ some .active) :
    ¬ Captures K ports fuel envs x row a t := by
  have href : ∀ claims, K.verifyToken row.token = .ok claims →
      claims.paymentMethodRef = row.claims.paymentMethodRef :=
    fun claims hc => by rw [(hg x row hrow).2 claims hc]
  cases a with
  | settlement ids purchaseId intent signature rid =>
    exact refuses_run (charge_refused ids purchaseId rid hrail.port href) ⟨hdead, hrail.fresh⟩
  | purchase ids offerId merchantId =>
    intro h
    obtain ⟨-, -, -, row', offer, hrow', hoffer, h⟩ := purchase_captured.1 h
    obtain rfl := Option.some.inj (hrow.symm.trans hrow')
    have hport : ports offer.merchantId = some .mock := by
      have hport := hrail.port
      rwa [Attempt.merchant, hoffer] at hport
    have hp : Refuses row.claims.paymentMethodRef ids.intentJti
        (submitOffer K ports fuel ids x row offer) := by
      refine refuses_call (fun _ h => by cases h) fun issued => ?_
      refine refuses_call (fun _ h => by cases h) fun _ => ?_
      refine refuses_call (fun _ h => by cases h) fun _ => ?_
      refine refuses_bind (verify_calls K ports fuel (uncharged_verify _) ids _ _ true) fun v => ?_
      have hcharge : Refuses row.claims.paymentMethodRef
          (buildIntent ids x row.claims.agent offer issued).jti
          (charge K ports fuel ids ids.purchaseId row.token row.claims
            (buildIntent ids x row.claims.agent offer issued)
            (K.signDetached (buildIntent ids x row.claims.agent offer issued) row.claims)
            v.reservationId) := charge_refused ids _ _ hport href
      unfold afterVerify
      dsimp only
      cases v.decision.decision with
      | approved => exact hcharge
      | escalated =>
        refine refuses_call (fun _ h => by cases h) fun _ => refuses_call (fun _ h => by cases h)
          fun _ => ?_
        rintro ⟨id, receipt, h⟩
        cases h
      | rejected =>
        exact refuses_call (fun _ h => by cases h) fun _ => refuses_call (fun _ h => by cases h)
          fun _ => not_captured_rejected
    exact refuses_run hp ⟨hdead, hrail.fresh⟩ h

/-! ## The frame of a revocation -/

/-- **The revoked mandate names the token**, so that its revocation deletes it. -/
def SharesToken (db : Db) (m : String) (row : MandateRow) : Prop :=
  row.claims.paymentMethodRef ≠ "" ∧ db.tokenOf m = row.claims.paymentMethodRef

theorem forget_instruments {db : Db} {ref r : String} (h : ref = "" ∨ r ≠ ref) :
    (db.forget ref).instruments r = db.instruments r := by
  unfold Db.forget
  split_ifs with href
  · rfl
  · simp only [exec]
    split_ifs
    · exact if_neg (h.resolve_left href)
    · rfl

theorem forget_dead {db : Db} {ref : String} (h : ref ≠ "") :
    (db.forget ref).instruments ref ≠ some .active := by
  rw [Db.forget, if_neg h]
  simp only [exec]
  split_ifs with hactive
  · dsimp only
    rw [if_pos rfl]
    exact fun h => by cases h
  · exact hactive

theorem forget_same (db : Db) (ref : String) :
    (db.forget ref).mandates = db.mandates ∧ (db.forget ref).captures = db.captures ∧
      (db.forget ref).intents = db.intents ∧ (db.forget ref).purchases = db.purchases ∧
        (db.forget ref).escalations = db.escalations ∧
          (db.forget ref).bridgeOrders = db.bridgeOrders := by
  unfold Db.forget
  split_ifs
  · exact ⟨rfl, rfl, rfl, rfl, rfl, rfl⟩
  · simp only [exec]
    split_ifs <;> exact ⟨rfl, rfl, rfl, rfl, rfl, rfl⟩

/-- **A revocation** leaves a database alike, but for its mandate and the token. -/
theorem revoked_alike (db : Db) (m : String) :
    Alike m (fun r => db.tokenOf m = "" ∨ r ≠ db.tokenOf m) db (revoked db m) := by
  obtain ⟨hmandates, hcaptures, hintents, hpurchases, hescalations, horders⟩ :=
    forget_same (exec .quiet (.updateRevoked m) db).2 (db.tokenOf m)
  rw [revoked_eq]
  refine ⟨fun j hj => ?_, ?_, fun r hr => ?_, hcaptures, hintents, hpurchases, hescalations,
    horders⟩
  · exact (congrFun hmandates j).trans (Db.setMandate_ne db _ hj)
  · rw [exec_terms, Db.forget]
    split_ifs
    · exact exec_terms _ _ _
    · rw [exec_terms, exec_terms]
  · exact forget_instruments hr

theorem Vaulted.revoked {db : Db} (h : Vaulted K db) (m : String) : Vaulted K (revoked db m) := by
  rw [revoked_eq, Db.forget]
  refine Vaulted.call ?_ _ _
  split_ifs
  · exact h.call _ _
  · exact (h.call _ _).call _ _

/-- **Revocation touches its own subtree**, and the token that its mandate names. In every forest of
issued and derived mandates, with the tokens that they name: a mandate that is neither the revoked
one nor derived from it keeps its row; and an attempt that would have been captured is captured
after the revocation exactly when the rail is not to charge it on the token of the revoked
mandate. -/
theorem revoke_frames (K : Deps) (ports : String → Option Port) (fuel : ℕ) {db : Db}
    (h : Vaulted K db) {m x : String} {row : MandateRow} (hrow : db.mandates x = some row)
    (hx : ¬ Descends db x m) :
    (revoked db m).mandates x = some row ∧
      ∀ (a : Attempt) (envs : ℕ → Env), Captures K ports fuel envs x row a db →
        (Captures K ports fuel envs x row a (revoked db m) ↔
          ¬ (OnRail ports envs a db ∧ SharesToken db m row)) := by
  have hne : x ≠ m := fun heq => hx (heq ▸ .refl)
  have hchain : m ∉ db.chainOf fuel x := fun hm => hx (descends_of_chain hm)
  have halike := revoked_alike db m
  have hrow' : (revoked db m).mandates x = some row := (halike.mandates x hne).trans hrow
  refine ⟨hrow', fun a envs hcaptured => ⟨?_, fun hno => ?_⟩⟩
  · rintro hafter ⟨hrail, hnamed, hshared⟩
    refine attempt_refused (h.revoked m).genuine hrow' ⟨hrail.port, ?_⟩ ?_ hafter
    · rw [halike.captures]
      exact hrail.fresh
    · rw [revoked_eq, ← hshared]
      exact forget_dead (hshared ▸ hnamed)
  · refine (attempt_alike h.genuine hrow halike hne hchain fun hrail => ?_).2 hcaptured
    by_contra hneither
    push Not at hneither
    exact hno ⟨hrail, hneither.2 ▸ hneither.1, hneither.2.symm⟩

end Attempts

/-! ### A token of two mandates -/

instance : (r : Except PyErr Outcome) → Decidable (Captured r)
  | .ok (.captured id receipt) => .isTrue ⟨id, receipt, rfl⟩
  | .ok (.rejected _ _ _) => .isFalse not_captured_rejected
  | .ok (.escalated _ _ _ _ _) => .isFalse (by rintro ⟨id, receipt, h⟩; cases h)
  | .error _ => .isFalse not_captured_error

/-- A mandate that was not derived has no ancestors. -/
theorem root_descends {db : Db} {x m : String} (h : db.parents x = some none) (hne : x ≠ m) :
    ¬ Descends db x m := by
  intro hd
  rcases hd.cases_head with heq | ⟨parent, hparent, -⟩
  · exact hne heq
  · rw [h] at hparent
    cases hparent

/-- A mandate with a token of its own. -/
def otherGrant : Grant := { parentGrant 3 with paymentMethodRef := "ppx" }

/-- The grant of a mandate derived by an approval of 30.00. -/
def derivedGrant : Grant := sticky ((parentGrant 3).claims "par" 0) (some 100) 3000

/-- Signatures that verify. -/
def groveDeps : Deps :=
  { familyDeps with
    verifyToken := fun token => .ok (if token = "mdt" then derivedGrant.claims "mdt" 0
      else if token = "par" then (parentGrant 3).claims "par" 0 else otherGrant.claims "oth" 0) }

/-- A mandate is issued. -/
def parentDb : Db :=
  ({ emptyDb with instruments := fun _ => none }.addMandate "par"
    ((parentGrant 3).row "par" 0 "par" none)).vault "ppt"

/-- Another one is derived from it, and a third is issued. -/
def groveDb : Db :=
  (((parentDb.addMandate "mdt" (derivedGrant.row "mdt" 0 "mdt" (some "par"))).vault
    "ppt").addMandate "oth" (otherGrant.row "oth" 0 "oth" none)).vault "ppx"

theorem groveDb_vaulted : Vaulted groveDeps groveDb := by
  have hpar := (Vaulted.empty (K := groveDeps) { emptyDb with instruments := fun _ => none }
    fun _ => rfl).issue (parentGrant 3) "par" 0 "par" fun claims h => (Except.ok.inj h).symm
  have hrow : parentDb.mandates "par" = some ((parentGrant 3).row "par" 0 "par" none) := rfl
  have hmdt := hpar.approve hrow (some 100) 3000 "mdt" 0 "mdt"
    fun claims h => (Except.ok.inj h).symm
  exact hmdt.issue otherGrant "oth" 0 "oth" fun claims h => (Except.ok.inj h).symm

/-- The merchant sells the offer at 30.00. -/
def groveEnvs (_ : ℕ) : Env :=
  { Env.quiet with offer := some ⟨"off", merchantId, "flights", "flight", 3000, "USD", none⟩ }

/-- A purchase of the offer. -/
def grovePurchase : Attempt := .purchase familyIds "off" merchantId

/-- A mandate with a token of its own is captured after the revocation as before. -/
theorem revoke_frames_other :
    (revoked groveDb "mdt").mandates "oth" = some (otherGrant.row "oth" 0 "oth" none) ∧
      Captures groveDeps (fun _ => some .mock) 3 groveEnvs "oth"
        (otherGrant.row "oth" 0 "oth" none) grovePurchase (revoked groveDb "mdt") := by
  have h := revoke_frames groveDeps (fun _ => some .mock) 3 groveDb_vaulted
    (x := "oth") (m := "mdt") rfl (root_descends rfl (by decide))
  have hcaptured : Captures groveDeps (fun _ => some .mock) 3 groveEnvs "oth"
      (otherGrant.row "oth" 0 "oth" none) grovePurchase groveDb := by
    show Captured _
    decide +kernel
  refine ⟨h.1, (h.2 grovePurchase groveEnvs hcaptured).2 ?_⟩
  rintro ⟨-, -, hshared⟩
  exact absurd hshared (by decide +kernel)

/-- **The parent of a revoked mandate** could have a purchase captured before its child was revoked,
and cannot afterwards. -/
theorem token_shared : Vaulted groveDeps groveDb ∧
    ¬ ∀ (m x : String) (row : MandateRow), groveDb.mandates x = some row → ¬ Descends groveDb x m →
      ∀ (a : Attempt) (envs : ℕ → Env),
        Captures groveDeps (fun _ => some .mock) 3 envs x row a groveDb →
          Captures groveDeps (fun _ => some .mock) 3 envs x row a (revoked groveDb m) := by
  refine ⟨groveDb_vaulted, fun h => ?_⟩
  have hcaptured : Captures groveDeps (fun _ => some .mock) 3 groveEnvs "par"
      ((parentGrant 3).row "par" 0 "par" none) grovePurchase groveDb := by
    show Captured _
    decide +kernel
  have hafter : ¬ Captures groveDeps (fun _ => some .mock) 3 groveEnvs "par"
      ((parentGrant 3).row "par" 0 "par" none) grovePurchase (revoked groveDb "mdt") := by
    show ¬ Captured _
    decide +kernel
  exact hafter (h "mdt" "par" _ rfl (root_descends rfl (by decide)) grovePurchase groveEnvs
    hcaptured)

end TryTrust.Agent
