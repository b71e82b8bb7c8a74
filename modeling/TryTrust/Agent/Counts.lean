import TryTrust.Agent.Holds

/-!
# The limit on the number of purchases

`max_txn.count` is compared at the gate and `txn_count` is written at settlement; what lies between
is counted by nobody.

* `settledOn`, `takenOn`: the purchases that were settled on a mandate, and those that were or hold
  a reservation on it; `CountLeft`: a reservation is made while the limit covers one more of them;
* `CountInv`, its step lemma `count_step` and its run lemma `count_run`;
* **`count_limited`**: in every run whose reservations meet the condition, no mandate's `txn_count`
  passes its limit.
-/

namespace TryTrust.Agent

open Conc

/-- The row's count is within its limit. -/
def WithinCount (row : MandateRow) : Prop :=
  ∀ n ∈ row.claims.limits.maxTxnCount, row.txnCount ≤ n

section Pool

variable {ι : Type} [Fintype ι]

/-- How many purchases were settled on a mandate. -/
def settledOn (g : ι → Holding) (m : String) : ℕ :=
  ∑ i, if (g i).stage m = .settled then 1 else 0

/-- How many purchases were settled on a mandate or hold a reservation on it. -/
def takenOn (g : ι → Holding) (m : String) : ℕ :=
  ∑ i, if (g i).stage m = .settled ∨ (g i).stage m = .reserved then 1 else 0

/-- A mandate is reserved while its limit covers one more purchase; `base` are the counts at the
start. -/
def CountLeft (base : String → ℕ) (g : ι → Holding) (db : Db) (c : Call) : Prop :=
  ∀ jti ∈ c.takes db, ∀ row ∈ db.mandates jti, ∀ n ∈ row.claims.limits.maxTxnCount,
    base jti + takenOn g jti < n

instance (base : String → ℕ) (g : ι → Holding) (db : Db) (c : Call) :
    Decidable (CountLeft base g db c) :=
  inferInstanceAs (Decidable (∀ _ ∈ _, ∀ _ ∈ _, ∀ _ ∈ _, _))

/-- **The count invariant**: counts in the table, and those read from it, are of settled purchases;
settled and reserved purchases are within the limit. -/
structure CountInv (base : String → ℕ) (g : ι → Holding) (db : Db) : Prop where
  table : ∀ m, ∀ row ∈ db.mandates m, row.txnCount ≤ base m + settledOn g m
  read : ∀ i m, (g i).count m ≤ base m + settledOn g m
  limit : ∀ m, ∀ row ∈ db.mandates m, ∀ n ∈ row.claims.limits.maxTxnCount,
    base m + takenOn g m ≤ n

theorem settledOn_le_takenOn (g : ι → Holding) (m : String) : settledOn g m ≤ takenOn g m := by
  refine Finset.sum_le_sum fun i _ => ?_
  split_ifs <;> simp_all

/-- What the invariant says of a row. -/
theorem CountInv.within {base : String → ℕ} {g : ι → Holding} {db : Db} (h : CountInv base g db)
    {m : String} {row : MandateRow} (hrow : row ∈ db.mandates m) : WithinCount row := by
  intro n hn
  have h1 := h.table m row hrow
  have h2 := h.limit m row hrow n hn
  have h3 := settledOn_le_takenOn g m
  omega

/-! ## One step -/

theorem row_of_setMandate {db : Db} {jti m : String} {f : MandateRow → MandateRow}
    {row' : MandateRow} (h : row' ∈ (db.setMandate jti f).mandates m) :
    ∃ row ∈ db.mandates m, row' = row ∨ m = jti ∧ row' = f row := by
  by_cases hm : m = jti
  · subst hm
    rw [Db.setMandate_same] at h
    obtain ⟨row, hrow, rfl⟩ := Option.map_eq_some_iff.1 h
    exact ⟨row, hrow, Or.inr ⟨rfl, rfl⟩⟩
  · rw [Db.setMandate_ne db f hm] at h
    exact ⟨row', h, Or.inl rfl⟩

/-- What a call writes to the counts and the claims. -/
theorem exec_row (e : Env) (c : Call) (db : Db) {m : String} {row' : MandateRow}
    (hrow : row' ∈ (exec e c db).2.mandates m) : ∃ row ∈ db.mandates m,
      row'.claims = row.claims ∧
        (row'.txnCount = row.txnCount ∨ c.counts = some (m, row'.txnCount)) := by
  have hsame : row' ∈ db.mandates m → ∃ row ∈ db.mandates m, row'.claims = row.claims ∧
      (row'.txnCount = row.txnCount ∨ c.counts = some (m, row'.txnCount)) :=
    fun h => ⟨row', h, rfl, Or.inl rfl⟩
  have hwrite : ∀ (jti : String) (f : MandateRow → MandateRow),
      row' ∈ (db.setMandate jti f).mandates m → (∀ row, (f row).claims = row.claims) →
      (∀ row, (f row).txnCount = row.txnCount ∨ c.counts = some (jti, (f row).txnCount)) →
      ∃ row ∈ db.mandates m, row'.claims = row.claims ∧
        (row'.txnCount = row.txnCount ∨ c.counts = some (m, row'.txnCount)) := by
    intro jti f h hclaims hcount
    obtain ⟨row, hold, rfl | ⟨rfl, rfl⟩⟩ := row_of_setMandate h
    · exact ⟨row', hold, rfl, Or.inl rfl⟩
    · exact ⟨row, hold, hclaims row, hcount row⟩
  cases c with
  | casReserve jti _ _ =>
    simp only [exec] at hrow
    split_ifs at hrow
    · exact hwrite jti _ hrow (fun _ => rfl) fun _ => Or.inl rfl
    · exact hsame hrow
  | updateTransition jti _ _ =>
    simp only [exec] at hrow
    split_ifs at hrow
    · exact hwrite jti _ hrow (fun _ => rfl) fun _ => Or.inl rfl
    · exact hsame hrow
  | updateReserved jti _ => exact hwrite jti _ hrow (fun _ => rfl) fun _ => Or.inl rfl
  | updateSettled jti _ _ _ _ => exact hwrite jti _ hrow (fun _ => rfl) fun _ => Or.inr rfl
  | updateExpired jti => exact hwrite jti _ hrow (fun _ => rfl) fun _ => Or.inl rfl
  | updateRevoked jti => exact hwrite jti _ hrow (fun _ => rfl) fun _ => Or.inl rfl
  | deleteInstrument _ => simp only [exec] at hrow; split_ifs at hrow <;> exact hsame hrow
  | insertCapture _ _ => simp only [exec] at hrow; split at hrow <;> exact hsame hrow
  | insertIntent _ _ => simp only [exec] at hrow; split_ifs at hrow <;> exact hsame hrow
  | insertPurchase _ _ => simp only [exec] at hrow; split at hrow <;> exact hsame hrow
  | _ => exact hsame hrow

variable [DecidableEq ι]

theorem settledOn_update (g : ι → Holding) (i : ι) (γ : Holding) (m : String) :
    settledOn (Function.update g i γ) m + (if (g i).stage m = .settled then 1 else 0) =
      settledOn g m + if γ.stage m = .settled then 1 else 0 :=
  sum_update_add (fun γ : Holding => if γ.stage m = .settled then 1 else 0) g i γ

theorem takenOn_update (g : ι → Holding) (i : ι) (γ : Holding) (m : String) :
    takenOn (Function.update g i γ) m +
        (if (g i).stage m = .settled ∨ (g i).stage m = .reserved then 1 else 0) =
      takenOn g m + if γ.stage m = .settled ∨ γ.stage m = .reserved then 1 else 0 :=
  sum_update_add
    (fun γ : Holding => if γ.stage m = .settled ∨ γ.stage m = .reserved then 1 else 0) g i γ

/-- The invariant after a call: settled purchases stay settled, a count is written from one that was
read, and a new reservation is covered by the limit. -/
theorem CountInv.advance {base : String → ℕ} {g : ι → Holding} {db db' : Db}
    (h : CountInv base g db) {i : ι} {γ : Holding}
    (hrows : ∀ m, ∀ row' ∈ db'.mandates m, ∃ row ∈ db.mandates m, row'.claims = row.claims ∧
      (row'.txnCount = row.txnCount ∨
        row'.txnCount = (g i).count m + 1 ∧ (g i).stage m ≠ .settled ∧ γ.stage m = .settled))
    (hsettled : ∀ m, (g i).stage m = .settled → γ.stage m = .settled)
    (hcount : ∀ m, γ.count m = (g i).count m ∨ ∃ row ∈ db.mandates m, γ.count m = row.txnCount)
    (htaken : ∀ m, γ.stage m = .settled ∨ γ.stage m = .reserved →
      ((g i).stage m = .settled ∨ (g i).stage m = .reserved) ∨ ∀ row ∈ db.mandates m,
        ∀ n ∈ row.claims.limits.maxTxnCount, base m + takenOn g m < n) :
    CountInv base (Function.update g i γ) db' := by
  have hmono : ∀ m, settledOn g m ≤ settledOn (Function.update g i γ) m := by
    intro m
    have hsum := settledOn_update g i γ m
    by_cases hm : (g i).stage m = .settled
    · rw [if_pos hm, if_pos (hsettled m hm)] at hsum
      omega
    · rw [if_neg hm] at hsum
      omega
  refine ⟨fun m row' hrow' => ?_, fun j m => ?_, fun m row' hrow' n hn => ?_⟩
  · obtain ⟨row, hrow, -, hsame | ⟨hwritten, hnot, hnow⟩⟩ := hrows m row' hrow'
    · have := h.table m row hrow
      have := hmono m
      omega
    · have hsum := settledOn_update g i γ m
      rw [if_neg hnot, if_pos hnow] at hsum
      have := h.read i m
      omega
  · have := hmono m
    by_cases hj : j = i
    · subst hj
      rw [Function.update_self]
      rcases hcount m with hsame | ⟨row, hrow, hread⟩
      · have := h.read j m
        omega
      · have := h.table m row hrow
        omega
    · rw [Function.update_of_ne hj]
      have := h.read j m
      omega
  · obtain ⟨row, hrow, hclaims, -⟩ := hrows m row' hrow'
    rw [hclaims] at hn
    have hlimit := h.limit m row hrow n hn
    have hsum := takenOn_update g i γ m
    by_cases hnow : γ.stage m = .settled ∨ γ.stage m = .reserved
    · rw [if_pos hnow] at hsum
      rcases htaken m hnow with hbefore | hleft
      · rw [if_pos hbefore] at hsum
        omega
      · have := hleft row hrow n hn
        omega
    · rw [if_neg hnow] at hsum
      omega

/-- What a call does to the caller's stages. -/
theorem advance_stage (γ : Holding) (db : Db) (e : Env) (c : Call) (m : String) :
    (γ.advance db c (exec e c db).1).stage m = γ.stage m ∨
      c.takes db = some m ∧ c.reserves = some m ∧
        (γ.advance db c (exec e c db).1).stage m = .reserved ∨
      c.frees = some m ∧ (γ.advance db c (exec e c db).1).stage m = .released ∨
      (∃ n, c.counts = some (m, n)) ∧ (γ.advance db c (exec e c db).1).stage m = .settled := by
  cases c with
  | casReserve jti row reserved =>
    by_cases hwins : (db.mandates jti).any (casMatches row) = true
    · simp only [exec, if_pos hwins, Holding.advance]
      by_cases hm : m = jti
      · subst hm
        exact Or.inr (Or.inl ⟨if_pos hwins, rfl, Function.update_self ..⟩)
      · exact Or.inl (Function.update_of_ne hm ..)
    · simp only [exec, if_neg hwins]
      exact Or.inl rfl
  | updateReserved jti reserved =>
    by_cases hm : m = jti
    · subst hm
      exact Or.inr (Or.inr (Or.inl ⟨rfl, Function.update_self ..⟩))
    · exact Or.inl (Function.update_of_ne hm ..)
  | updateSettled jti reserved spent count status =>
    by_cases hm : m = jti
    · subst hm
      exact Or.inr (Or.inr (Or.inr ⟨⟨count, rfl⟩, Function.update_self ..⟩))
    · exact Or.inl (Function.update_of_ne hm ..)
  | selectMandate jti =>
    simp only [exec]
    cases db.mandates jti <;> exact Or.inl rfl
  | insertPurchase id i =>
    simp only [exec]
    cases db.purchases id <;> exact Or.inl rfl
  | nowTs => exact Or.inl rfl
  | _ => exact Or.inl (by rw [holding_calm rfl])

theorem advance_settled (γ : Holding) (db : Db) (e : Env) {c : Call} {m : String} {n : ℕ}
    (hc : c.counts = some (m, n)) : (γ.advance db c (exec e c db).1).stage m = .settled := by
  cases c with
  | updateSettled jti reserved spent count status =>
    cases hc
    exact Function.update_self ..
  | _ => cases hc

/-- What a call does to the counts that the caller read. -/
theorem advance_count (γ : Holding) (db : Db) (e : Env) (c : Call) (m : String) :
    (γ.advance db c (exec e c db).1).count m = γ.count m ∨
      ∃ row ∈ db.mandates m, (γ.advance db c (exec e c db).1).count m = row.txnCount := by
  cases c with
  | selectMandate jti =>
    simp only [exec]
    cases hrow : db.mandates jti with
    | none => exact Or.inl rfl
    | some row =>
      by_cases hm : m = jti
      · subst hm
        exact Or.inr ⟨row, hrow, Function.update_self ..⟩
      · exact Or.inl (Function.update_of_ne hm ..)
  | casReserve jti row reserved =>
    by_cases hwins : (db.mandates jti).any (casMatches row) = true
    · simp only [exec, if_pos hwins]
      exact Or.inl rfl
    · simp only [exec, if_neg hwins]
      exact Or.inl rfl
  | insertPurchase id i =>
    simp only [exec]
    cases db.purchases id <;> exact Or.inl rfl
  | updateReserved _ _ => exact Or.inl rfl
  | updateSettled _ _ _ _ _ => exact Or.inl rfl
  | nowTs => exact Or.inl rfl
  | _ => exact Or.inl (by rw [holding_calm rfl])

/-- **One call** of a purchase keeps the count invariant. -/
theorem count_step {base : String → ℕ} {g : ι → Holding} {db : Db} (h : CountInv base g db) {i : ι}
    {fuel : ℕ} {target : ι → Option String} {Left : ι → String → MandateRow → Prop}
    {terms : String → Option (Claims × Option String)} {c : Call}
    (hstep : HoldStep fuel target Left terms i (g i) c) (hleft : CountLeft base g db c) (e : Env) :
    CountInv base (Function.update g i ((g i).advance db c (exec e c db).1)) (exec e c db).2 := by
  refine h.advance (fun m row' hrow' => ?_) (fun m hm => ?_) (advance_count (g i) db e c)
    fun m hm => ?_
  · obtain ⟨row, hrow, hclaims, hsame | hwritten⟩ := exec_row e c db hrow'
    · exact ⟨row, hrow, hclaims, Or.inl hsame⟩
    · obtain ⟨hreserved, hread⟩ := hstep.settles _ hwritten
      have hnot : (g i).stage m ≠ .settled := by
        rw [hreserved]
        decide
      exact ⟨row, hrow, hclaims, Or.inr ⟨hread, hnot, advance_settled (g i) db e hwritten⟩⟩
  · rcases advance_stage (g i) db e c m with hsame | ⟨-, htook, -⟩ | ⟨hfreed, -⟩ | ⟨⟨n, hwrote⟩, -⟩
    · rw [hsame, hm]
    · exact absurd ((hstep.reserves m htook).symm.trans hm) (by decide)
    · exact absurd ((hstep.frees m hfreed).symm.trans hm) (by decide)
    · exact absurd ((hstep.settles _ hwrote).1.symm.trans hm) (by decide)
  · rcases advance_stage (g i) db e c m with hsame | ⟨htook, -⟩ | ⟨-, hreleased⟩ | ⟨⟨n, hwrote⟩, -⟩
    · rw [hsame] at hm
      exact Or.inl hm
    · exact Or.inr (hleft m htook)
    · rw [hreleased] at hm
      exact absurd hm (by decide)
    · exact Or.inl (Or.inr (hstep.settles _ hwrote).1)

/-! ## Runs -/

/-- **A run** whose calls are those of purchases keeps the count invariant, when every reservation
is covered by the limit. -/
theorem count_run {base : String → ℕ} {K : Deps} {fuel : ℕ} {target : ι → Option String}
    {Left : ι → String → MandateRow → Prop} {terms : String → Option (Claims × Option String)}
    {c : Config ι Call Res PyErr (Option Outcome) Db Holding} (h : CountInv base c.hist c.shared)
    {xs : List (ι × Env)}
    (hsteps : holdSystem.Along ((holdSpec K fuel target Left terms).Prop holdSystem) c xs)
    (hok : holdSystem.Along
      (fun c i _ => ∀ op ∈ (c.prog i).next, CountLeft base c.hist c.shared op) c xs) :
    CountInv base (holdSystem.run c xs).hist (holdSystem.run c xs).shared := by
  induction xs generalizing c with
  | nil => exact h
  | cons x xs ih =>
    obtain ⟨i, e⟩ := x
    refine ih ?_ hsteps.2 hok.2
    have hstep := hsteps.1
    have hleft := hok.1
    cases hp : c.prog i with
    | ret a => simpa only [System.step, hp] using h
    | raise y => simpa only [System.step, hp] using h
    | call op next =>
      have hnext : op ∈ (c.prog i).next := by simp [hp, Prog.next]
      simp only [System.step, hp, holdSystem]
      cases hf : e.fail with
      | none =>
        simp only [sem, hf]
        exact count_step h (hstep op hnext) (hleft op hnext) e
      | some y =>
        simp only [sem, hf, holding_error, Function.update_eq_self]
        exact h

end Pool

/-- The pool before its first call. -/
def holdStart {ι : Type} (K : Deps) (ports : String → Option Port) (fuel : ℕ) (w : ι → Actor)
    (db : Db) : Config ι Call Res PyErr (Option Outcome) Db Holding where
  shared := db
  prog i := (w i).prog K ports fuel
  hist _ := .start

/-- The counts of a database. -/
def Db.counts (db : Db) (m : String) : ℕ := ((db.mandates m).map (·.txnCount)).getD 0

section Runs

variable {ι : Type} [Fintype ι] [DecidableEq ι]

/-- **The count limit**: no `txn_count` passes the limit of its mandate, in every run in which a
mandate is reserved while its limit covers one more purchase. -/
theorem count_limited (K : Deps) (ports : String → Option Port) (fuel : ℕ) (w : ι → Actor) (db : Db)
    (hsigned : Signed K db) (hdb : ∀ m, ∀ row ∈ db.mandates m, WithinCount row)
    (xs : List (ι × Env))
    (hok : holdSystem.Along
      (fun c i _ => ∀ op ∈ (c.prog i).next, CountLeft db.counts c.hist c.shared op)
      (holdStart K ports fuel w db) xs) :
    ∀ m, ∀ row ∈ (holdSystem.run (holdStart K ports fuel w db) xs).shared.mandates m,
      WithinCount row := by
  have hstart : Outlined holdSystem
      (holdSpec K fuel (fun i => (w i).target) (fun _ _ _ => True) db.terms) (fun _ _ _ => True)
      (holdStart K ports fuel w db) :=
    ⟨⟨rfl, hsigned⟩, fun i => actor_outline K ports w fun _ => rfl⟩
  have hcounts : ∀ m, ∀ row ∈ db.mandates m, db.counts m = row.txnCount := by
    intro m row hrow
    rw [Db.counts, Option.mem_def.1 hrow]
    rfl
  have hinv : CountInv db.counts (holdStart K ports fuel w db).hist db := by
    refine ⟨fun m row hrow => ?_, fun i m => Nat.zero_le _, fun m row hrow n hn => ?_⟩
    · rw [hcounts m row hrow]
      omega
    · have hnone : takenOn (holdStart K ports fuel w db).hist m = 0 := by
        simp [takenOn, holdStart, Holding.start]
      rw [hnone, hcounts m row hrow]
      exact hdb m row hrow n hn
  have hsteps := (outline_run hstart (holdSystem.along_of_forall
    (fun c i e op _ jti _ row _ => trivial) _ xs)).1
  exact fun m row hrow => (count_run hinv hsteps hok).within hrow

end Runs

/-! ### Two purchases under one limit -/

/-- The claims of a mandate of 100.00 for `n` purchases. -/
def countedClaims (n : ℕ) : Claims :=
  ⟨"mdt", "agt", "ppt", "USD", [], [], .null, ⟨10000, 10000, some n⟩, 0, 100⟩

/-- The mandate, freshly issued. -/
def countedDb (n : ℕ) : Db where
  mandates j :=
    if j = "mdt" then some
      { status := .active, claims := countedClaims n, token := "", reservedAmount := 0
        spentTotal := 0, txnCount := 0, parentJti := none }
    else none
  instruments _ := some .active
  captures _ := none
  intents := []
  purchases _ := none
  audit := []
  escalations := []
  bridgeOrders := []

/-- Signatures that verify. -/
def countedDeps (n : ℕ) : Deps := { familyDeps with verifyToken := fun _ => .ok (countedClaims n) }

/-- Two purchases under the mandate. -/
def twoBuyers : Bool → Actor
  | false => .purchase ⟨"pur-0", "pit-0", "nonce-0", "res-0", "cap-0", "rct-0", "esc-0"⟩ "off" "mdt"
      merchantId
  | true => .purchase ⟨"pur-1", "pit-1", "nonce-1", "res-1", "cap-1", "rct-1", "esc-1"⟩ "off" "mdt"
      merchantId

/-- Both purchases, before their first call. -/
def twoStart (n : ℕ) : Config Bool Call Res PyErr (Option Outcome) Db Holding :=
  holdStart (countedDeps n) (fun _ => some .mock) 2 twoBuyers (countedDb n)

/-- Both purchases are verified, then both are settled; the merchant sells the offer at 30.00. -/
def bothInFlight : List (Bool × Env) :=
  (List.replicate 15 false ++ List.replicate 15 true ++ List.replicate 14 false ++
    List.replicate 14 true).map fun i =>
      (i, { Env.quiet with
        offer := some ⟨"off", merchantId, "flights", "flight", 3000, "USD", none⟩ })

theorem counted_row {n : ℕ} {m : String} {row : MandateRow} (hrow : row ∈ (countedDb n).mandates m) :
    row.claims = countedClaims n ∧ row.txnCount = 0 := by
  simp only [countedDb] at hrow
  split_ifs at hrow
  · cases hrow
    exact ⟨rfl, rfl⟩
  · cases hrow

theorem count_limited_both : ∃ row,
    (holdSystem.run (twoStart 2) bothInFlight).shared.mandates "mdt" = some row ∧
      row.txnCount = 2 ∧ WithinCount row := by
  refine ⟨_, rfl, rfl, count_limited (countedDeps 2) (fun _ => some .mock) 2 twoBuyers (countedDb 2)
    (fun m row hrow claims h => ?_) (fun m row hrow n _ => ?_) bothInFlight (by decide) "mdt" _ rfl⟩
  · rw [(counted_row hrow).1]
    exact (Except.ok.inj h).symm
  · rw [(counted_row hrow).2]
    exact Nat.zero_le n

/-- **Two purchases in flight** pass a limit of one: both pass the gate and reserve before either is
settled. -/
theorem count_passed : ¬ ∀ xs : List (Bool × Env), ∀ m,
    ∀ row ∈ (holdSystem.run (twoStart 1) xs).shared.mandates m, WithinCount row := by
  intro h
  obtain ⟨row, hrow, hlimit, hcount⟩ : ∃ row,
      (holdSystem.run (twoStart 1) bothInFlight).shared.mandates "mdt" = some row ∧
        row.claims.limits.maxTxnCount = some 1 ∧ row.txnCount = 2 := ⟨_, rfl, rfl, rfl⟩
  have hwithin := h bothInFlight "mdt" row hrow 1 hlimit
  omega

end TryTrust.Agent
