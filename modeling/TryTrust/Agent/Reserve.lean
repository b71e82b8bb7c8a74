import TryTrust.Agent.Settlement

/-!
# Reserving up the chain, alone

`chain`, `reserve_chain` and `release` run with no one else's statement between theirs.

* `Db.onRows`: one row function applied to the listed mandates; `holdRow`, `freeRow_holdRow`;
* `run_chain`, `run_unreserve`, `run_reserveLoop`: what each loop does to the whole table;
* `Fits`: a mandate that takes the amount; **`reserveChain_whole`**: the chain is reserved as a whole
  or not at all, and released as it was reserved.
-/

namespace TryTrust.Agent

open Conc

/-! ## Rows of a list -/

/-- The listed mandates' rows through `f`. -/
def Db.onRows (db : Db) (jtis : List String) (f : MandateRow → MandateRow) : Db :=
  { db with mandates := fun j => if j ∈ jtis then (db.mandates j).map f else db.mandates j }

/-- The amount reserved on a row. -/
def holdRow (amount : ℤ) (row : MandateRow) : MandateRow :=
  { row with reservedAmount := row.reservedAmount + amount }

/-- A mandate that takes the amount: its row is there, active, and stays within its budget. -/
def Fits (amount : ℤ) (db : Db) (jti : String) : Prop :=
  ∃ row, db.mandates jti = some row ∧ row.status = .active ∧
    row.spentTotal + row.reservedAmount + amount ≤ row.claims.limits.totalBudget

/-- A mandate without a negative reserved amount. -/
def NotNegative (db : Db) (jti : String) : Prop :=
  ∀ row ∈ db.mandates jti, 0 ≤ row.reservedAmount

section Rows

variable {db : Db} {jtis : List String} {f g : MandateRow → MandateRow}

@[simp] theorem onRows_nil (db : Db) (f : MandateRow → MandateRow) : db.onRows [] f = db := by
  simp [Db.onRows]

theorem onRows_mem {j : String} (h : j ∈ jtis) :
    (db.onRows jtis f).mandates j = (db.mandates j).map f := if_pos h

theorem onRows_not_mem {j : String} (h : j ∉ jtis) : (db.onRows jtis f).mandates j = db.mandates j :=
  if_neg h

/-- A write to one row, then the rows of a list without it. -/
theorem setMandate_onRows {jti : String} (h : jti ∉ jtis)
    (hg : ∀ row ∈ db.mandates jti, g row = f row) :
    (db.setMandate jti g).onRows jtis f = db.onRows (jti :: jtis) f := by
  have hrow : (db.mandates jti).map g = (db.mandates jti).map f := Option.map_congr hg
  simp only [Db.onRows, Db.setMandate]
  congr 1
  funext j
  by_cases hj : j = jti
  · subst hj
    simp [h, hrow]
  · simp [hj]

/-- The rows of a list, then a write to one that is not in it. -/
theorem onRows_setMandate {jti : String} (h : jti ∉ jtis)
    (hg : ∀ row ∈ db.mandates jti, g row = f row) :
    (db.onRows jtis f).setMandate jti g = db.onRows (jtis ++ [jti]) f := by
  have hrow : (db.mandates jti).map g = (db.mandates jti).map f := Option.map_congr hg
  simp only [Db.onRows, Db.setMandate]
  congr 1
  funext j
  by_cases hj : j = jti
  · subst hj
    simp [h, hrow]
  · simp [hj]

/-- Twice along one list. -/
theorem onRows_onRows : (db.onRows jtis f).onRows jtis g = db.onRows jtis (g ∘ f) := by
  simp only [Db.onRows]
  congr 1
  funext j
  by_cases hj : j ∈ jtis
  · simp [hj]
  · simp [hj]

theorem onRows_parents (hp : ∀ row, (f row).parentJti = row.parentJti) :
    (db.onRows jtis f).parents = db.parents := by
  funext j
  rw [← parents_eq, ← parents_eq]
  by_cases hj : j ∈ jtis
  · rw [onRows_mem hj, Option.map_map]
    exact Option.map_congr fun row _ => hp row
  · rw [onRows_not_mem hj]

theorem onRows_chainOf (hp : ∀ row, (f row).parentJti = row.parentJti) (fuel : ℕ) (jti : String) :
    (db.onRows jtis f).chainOf fuel jti = db.chainOf fuel jti := by
  rw [Db.chainOf, onRows_parents hp]

/-- **What was reserved is given back**, down to zero. -/
theorem freeRow_holdRow (amount : ℤ) (row : MandateRow) :
    freeRow amount (holdRow amount row) = { row with reservedAmount := max 0 row.reservedAmount } := by
  simp [freeRow, holdRow]

theorem freed_row {amount : ℤ} {j : String} (h : NotNegative db j) :
    (db.onRows jtis (freeRow amount ∘ holdRow amount)).mandates j = db.mandates j := by
  by_cases hj : j ∈ jtis
  · rw [onRows_mem hj]
    cases hrow : db.mandates j with
    | none => rfl
    | some row =>
      have hnn : 0 ≤ row.reservedAmount := h row hrow
      simp only [Option.map_some, Function.comp_apply, freeRow_holdRow, max_eq_right hnn]
  · exact onRows_not_mem hj

end Rows

/-! ## Runs -/

section Runs

variable (e : Env)

/-- A run alone, in which no statement fails. -/
abbrev runAlone {α : Type} (p : Py α) (db : Db) : Except PyErr α × Db := p.run (exec e) db

variable {e}

theorem run_exec {α : Type} {c : Call} {f : Res c → Py α} {db db' : Db} {a : Res c}
    (h : exec e c db = (.ok a, db')) : runAlone e ((call c).bind f) db = runAlone e (f a) db' :=
  Prog.run_bind_ok (exec e) ((Prog.run_perform (exec e) c db).trans h)

theorem run_chainLoop_alone (db : Db) (fuel : ℕ) (current : Option String) (seen : List String) :
    runAlone e (chainLoop fuel current seen) db = (.ok (chainList db.parents fuel current seen), db) := by
  induction fuel generalizing current seen with
  | zero => rfl
  | succ fuel ih =>
    cases current with
    | none => rfl
    | some jti =>
      simp only [chainLoop, chainList]
      split_ifs with hj
      · rfl
      · have hcall : exec e (.selectParent jti) db = (.ok (db.parents jti), db) := by
          rw [← parents_eq]
          rfl
        exact (run_exec hcall).trans (ih _ _)

/-- `chain` returns the chain. -/
theorem run_chain (db : Db) (fuel : ℕ) (jti : String) :
    runAlone e (chain fuel jti) db = (.ok (db.chainOf fuel jti), db) :=
  run_chainLoop_alone db fuel (some jti) []

/-- `_unreserve` on one mandate. -/
theorem run_unreserveOne (amount : ℤ) (jti : String) (db : Db) :
    runAlone e (unreserveOne amount jti) db = (.ok (), db.setMandate jti (freeRow amount)) := by
  cases hrow : db.mandates jti with
  | none =>
    have hcall : exec e (.selectReserved jti) db = (.ok none, db) := by simp [exec, hrow]
    have hsame : db.setMandate jti (freeRow amount) = db := by
      rw [← onRows_nil (db.setMandate _ _) (freeRow amount),
        setMandate_onRows (by simp) fun _ _ => rfl, Db.onRows]
      congr 1
      funext j
      by_cases hj : j = jti
      · rw [hj, hrow]
        simp
      · simp [hj]
    rw [hsame]
    exact run_exec hcall
  | some row =>
    have hcall : exec e (.selectReserved jti) db = (.ok (some row.reservedAmount), db) := by
      simp [exec, hrow]
    refine (run_exec hcall).trans ((Prog.run_perform (exec e) _ _).trans (Prod.ext rfl ?_))
    show db.setMandate jti _ = db.setMandate jti _
    rw [← onRows_nil (db.setMandate _ _) (freeRow amount),
      ← onRows_nil (db.setMandate _ (freeRow amount)) (freeRow amount),
      setMandate_onRows (by simp) fun _ _ => rfl, setMandate_onRows (by simp) fun cur hcur => ?_]
    obtain rfl : row = cur := Option.some.inj (hrow.symm.trans hcur)
    rfl

/-- `_unreserve` along a list without repetitions. -/
theorem run_unreserve (amount : ℤ) {jtis : List String} (h : jtis.Nodup) (db : Db) :
    runAlone e (unreserve amount jtis) db = (.ok (), db.onRows jtis (freeRow amount)) := by
  induction jtis generalizing db with
  | nil => simp [unreserve]
  | cons jti rest ih =>
    obtain ⟨hjti, hrest⟩ := List.nodup_cons.mp h
    refine (Prog.run_bind_ok (exec e) (run_unreserveOne amount jti db)).trans ?_
    exact (ih hrest _).trans (by rw [setMandate_onRows hjti fun _ _ => rfl])

/-- A refusal: what was reserved so far is given back. -/
theorem run_refused (amount : ℤ) {done : List String} (h : done.Nodup) (db : Db) :
    runAlone e ((unreserve amount done).bind fun _ => pure false)
        (db.onRows done (holdRow amount)) =
      (.ok false, db.onRows done (freeRow amount ∘ holdRow amount)) := by
  refine (Prog.run_bind_ok (exec e) (run_unreserve amount h _)).trans ?_
  rw [onRows_onRows]
  rfl

/-- **The loop of `reserve_chain`**, with the mandates in `done` reserved: it reserves all of the
rest if all take the amount, and otherwise gives back what it reserved. -/
theorem run_reserveLoop (amount : ℤ) (db : Db) (jtis done : List String)
    (h : (done ++ jtis).Nodup) :
    ((∀ j ∈ jtis, Fits amount db j) →
      runAlone e (reserveLoop amount jtis done) (db.onRows done (holdRow amount)) =
        (.ok true, db.onRows (done ++ jtis) (holdRow amount))) ∧
    ((¬ ∀ j ∈ jtis, Fits amount db j) →
      ∃ held, runAlone e (reserveLoop amount jtis done) (db.onRows done (holdRow amount)) =
        (.ok false, db.onRows held (freeRow amount ∘ holdRow amount))) := by
  induction jtis generalizing done with
  | nil => exact ⟨fun _ => by rw [List.append_nil]; rfl, fun h => absurd (by simp) h⟩
  | cons jti rest ih =>
    have hdone : done.Nodup := (List.nodup_append.mp h).1
    have hjti : jti ∉ done := fun hmem =>
      (List.nodup_append.mp h).2.2 jti hmem jti List.mem_cons_self rfl
    have hselect : exec e (.selectMandate jti) (db.onRows done (holdRow amount)) =
        (.ok (db.mandates jti), db.onRows done (holdRow amount)) := by
      rw [exec, onRows_not_mem hjti]
    by_cases hfits : Fits amount db jti
    · obtain ⟨row, hrow, hactive, hbudget⟩ := hfits
      have hcas : exec e (.casReserve jti row (row.reservedAmount + amount))
          (db.onRows done (holdRow amount)) =
            (.ok true, db.onRows (done ++ [jti]) (holdRow amount)) := by
        have hwon : ((db.onRows done (holdRow amount)).mandates jti).any (casMatches row) = true := by
          rw [onRows_not_mem hjti, hrow]
          simp [casMatches, hactive]
        rw [exec, if_pos hwon, onRows_setMandate hjti fun cur hcur => ?_]
        obtain rfl : row = cur := Option.some.inj (hrow.symm.trans hcur)
        rfl
      have hstep : runAlone e (reserveLoop amount (jti :: rest) done)
          (db.onRows done (holdRow amount)) =
            runAlone e (reserveLoop amount rest (done ++ [jti]))
              (db.onRows (done ++ [jti]) (holdRow amount)) := by
        refine (run_exec hselect).trans ?_
        rw [hrow]
        dsimp only
        rw [if_neg (by simpa using hactive), if_neg (by omega)]
        exact run_exec hcas
      obtain ⟨hall, hnot⟩ := ih (done ++ [jti]) (by simpa using h)
      rw [hstep]
      refine ⟨fun hrest => ?_, fun hrest => hnot fun hothers => hrest ?_⟩
      · rw [hall fun j hj => hrest j (List.mem_cons_of_mem _ hj), List.append_assoc]
        rfl
      · exact List.forall_mem_cons.mpr ⟨⟨row, hrow, hactive, hbudget⟩, hothers⟩
    · refine ⟨fun hall => absurd (hall jti List.mem_cons_self) hfits, fun _ => ⟨done, ?_⟩⟩
      refine (run_exec hselect).trans ?_
      cases hrow : db.mandates jti with
      | none => exact run_refused amount hdone db
      | some row =>
        dsimp only
        by_cases hactive : row.status ≠ .active
        · rw [if_pos hactive]
          exact run_refused amount hdone db
        · rw [if_neg hactive, if_pos (lt_of_not_ge fun hbudget =>
            hfits ⟨row, hrow, not_not.mp hactive, hbudget⟩)]
          exact run_refused amount hdone db

/-- `reserve_chain` is its loop over the chain. -/
theorem run_reserveChain (db : Db) (fuel : ℕ) (jti : String) (amount : ℤ) :
    runAlone e (reserveChain fuel jti amount) db =
      runAlone e (reserveLoop amount (db.chainOf fuel jti) []) db :=
  Prog.run_bind_ok (exec e) (run_chain db fuel jti)

/-- `release` frees the chain. -/
theorem run_release (db : Db) (fuel : ℕ) (jti : String) (amount : ℤ) :
    runAlone e (release fuel jti amount) db =
      (.ok (), db.onRows (db.chainOf fuel jti) (freeRow amount)) :=
  (Prog.run_bind_ok (exec e) (run_chain db fuel jti)).trans
    (run_unreserve amount (chainList_nodup _ fuel (some jti) List.nodup_nil) db)

end Runs

/-! ## All or nothing -/

/-- `chain` and `reserve_chain` end from `db`, the latter with `reserved` in `db'`, whatever larger
bound their loop has; a refusal changed nothing, a reservation exactly the chain, within budgets, and
its release restores it. Both undo down to zero, so this is said of amounts that were not negative. -/
structure Whole (e : Env) (db : Db) (jti : String) (amount : ℤ) (fuel : ℕ) (reserved : Bool)
    (db' : Db) : Prop where
  chain : ∀ more, runAlone e (chain (fuel + more) jti) db = (.ok (db.chainOf fuel jti), db)
  ends : ∀ more, runAlone e (reserveChain (fuel + more) jti amount) db = (.ok reserved, db')
  fits : reserved = true ↔ ∀ j ∈ db.chainOf fuel jti, Fits amount db j
  refused : reserved = false → ∀ j, NotNegative db j → db'.mandates j = db.mandates j
  held : reserved = true → ∀ j ∈ db.chainOf fuel jti, ∃ row, db.mandates j = some row ∧
    db'.mandates j = some { row with reservedAmount := row.reservedAmount + amount } ∧
      row.spentTotal + (row.reservedAmount + amount) ≤ row.claims.limits.totalBudget
  others : reserved = true → ∀ j ∉ db.chainOf fuel jti, db'.mandates j = db.mandates j
  released : reserved = true → ∃ db'',
    (∀ more, runAlone e (release (fuel + more) jti amount) db' = (.ok (), db'')) ∧
      ∀ j, NotNegative db j → db''.mandates j = db.mandates j

/-- **The chain is reserved as a whole or not at all.** In a table with rows for finitely many
mandates the loops end of themselves: no bound above the number of rows is reached. -/
theorem reserveChain_whole (e : Env) (db : Db) (jti : String) (amount : ℤ) (rows : Finset String)
    (hrows : ∀ j, db.mandates j ≠ none → j ∈ rows) (fuel : ℕ) (hfuel : rows.card + 1 < fuel) :
    ∃ reserved db', Whole e db jti amount fuel reserved db' := by
  have hparents : ∀ j, db.parents j ≠ none → j ∈ rows := by
    intro j hj
    refine hrows j fun hnone => hj ?_
    rw [← parents_eq, hnone]
    rfl
  have hbound : ∀ more, db.chainOf (fuel + more) jti = db.chainOf fuel jti :=
    chainList_fuel db.parents rows hparents fuel (some jti) [] (by simpa using hfuel)
  have hchain : ∀ more, runAlone e (chain (fuel + more) jti) db = (.ok (db.chainOf fuel jti), db) :=
    fun more => by rw [run_chain, hbound]
  have hloop := run_reserveLoop (e := e) amount db (db.chainOf fuel jti) []
    (chainList_nodup _ fuel (some jti) List.nodup_nil)
  rw [onRows_nil] at hloop
  by_cases hfits : ∀ j ∈ db.chainOf fuel jti, Fits amount db j
  · refine ⟨true, db.onRows (db.chainOf fuel jti) (holdRow amount), hchain, fun more => ?_,
      by simpa using hfits, fun h => (by cases h), fun _ j hj => ?_,
      fun _ j hj => onRows_not_mem hj,
      fun _ => ⟨db.onRows (db.chainOf fuel jti) (freeRow amount ∘ holdRow amount), fun more => ?_,
        fun j hj => freed_row hj⟩⟩
    · rw [run_reserveChain, hbound, hloop.1 hfits, List.nil_append]
    · obtain ⟨row, hrow, -, hbudget⟩ := hfits j hj
      refine ⟨row, hrow, ?_, by omega⟩
      rw [onRows_mem hj, hrow]
      rfl
    · rw [run_release, onRows_chainOf (f := holdRow amount) (fun _ => rfl), hbound, onRows_onRows]
  · obtain ⟨held, hheld⟩ := hloop.2 hfits
    refine ⟨false, db.onRows held (freeRow amount ∘ holdRow amount), hchain, fun more => ?_,
      by simpa using hfits, fun _ j hj => freed_row hj, fun h => (by cases h), fun h => (by cases h),
      fun h => (by cases h)⟩
    rw [run_reserveChain, hbound, hheld]

/-- Two mandates that are each other's parents. -/
def cyclic : Db where
  mandates := fun j =>
    if j = "mdt_1" then some (row "mdt_1" "mdt_2")
    else if j = "mdt_2" then some (row "mdt_2" "mdt_1")
    else none
  instruments := fun _ => none
  captures := fun _ => none
  intents := []
  purchases := fun _ => none
  audit := []
  escalations := []
  bridgeOrders := []
where
  row (jti parent : String) : MandateRow :=
    ⟨.active, ⟨jti, "agt", "pm", "USD", [], [], .null, ⟨10000, 10000, none⟩, 0, 100⟩, "tok", 0, 0, 0,
      some parent⟩

theorem reserveChain_whole_cyclic :
    ∃ reserved db', Whole Env.quiet cyclic "mdt_1" 500 4 reserved db' :=
  reserveChain_whole Env.quiet cyclic "mdt_1" 500 {"mdt_1", "mdt_2"} (fun j hj => by
    by_contra hmem
    rw [Finset.mem_insert, Finset.mem_singleton, not_or] at hmem
    exact hj (by simp [cyclic, hmem.1, hmem.2])) 4 (by decide)

end TryTrust.Agent
