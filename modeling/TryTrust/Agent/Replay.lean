import TryTrust.Agent.Revocation
import TryTrust.Conc.Erase

/-!
# Replays of a signed intent

A pool of `verify` calls whose intents share an id or a nonce. A call reads the table of intents
before it reserves, and writes its own row after.

* `Freshness`: how far a call is between that read and that write; `NoneBetween`: a read that finds
  nothing finds no other call in between;
* `Unlogged`: what calls see of the database; a call that did not pass its read keeps it;
* **`replays_refused`**: in every run whose reads meet the condition, at most one call reserves,
  and every other one is refused as a replay and could be taken out of the run.
-/

namespace TryTrust.Agent

open Conc

/-- What a call of `verify` is handed. -/
structure Submission where
  ids : FreshIds
  token : String
  intent : Intent
  signature : String
  reserve : Bool

/-- The intents have an id or a nonce in common. -/
def Clash (a b : Intent) : Prop := a.jti = b.jti ∨ a.nonce = b.nonce

/-- Did the call ask whether its intent was seen, did it find that it was not, and is its own row
in the table? -/
structure Freshness where
  asked : Bool
  passed : Bool
  recorded : Bool
  deriving DecidableEq

/-- A call that has not started. -/
def Freshness.start : Freshness := ⟨false, false, false⟩

/-- A call's effect on the caller's freshness. -/
def Freshness.advance (γ : Freshness) : (c : Call) → Except PyErr (Res c) → Freshness
  | .selectIntentSeen _ _, .ok false => { γ with asked := true, passed := true }
  | .selectIntentSeen _ _, .ok true => { γ with asked := true }
  | .insertIntent _ _, .ok _ => { γ with recorded := true }
  | _, _ => γ

/-- Who has passed has passed for good. -/
theorem advance_passed {γ : Freshness} (h : γ.passed = true) (c : Call) (r : Except PyErr (Res c)) :
    (γ.advance c r).passed = true := by
  unfold Freshness.advance
  split
  · rfl
  · exact h
  · exact h
  · exact h

/-- The statement of the freshness check. -/
def Db.seen (db : Db) (jti nonce : String) : Bool :=
  db.intents.any fun r => r.intent.jti = jti || r.intent.nonce = nonce

/-- The intent has a row. -/
def Db.Stored (db : Db) (a : Intent) : Prop :=
  ∃ r ∈ db.intents, r.intent.jti = a.jti ∧ r.intent.nonce = a.nonce

/-- The database without its log. -/
def Db.unlogged (db : Db) : Db := { db with audit := [] }

theorem seen_of_stored {db : Db} {a b : Intent} (h : db.Stored a) (hab : Clash a b) :
    db.seen b.jti b.nonce = true := by
  obtain ⟨r, hr, hjti, hnonce⟩ := h
  rw [Db.seen, List.any_eq_true]
  refine ⟨r, hr, ?_⟩
  rcases hab with h | h
  · simp [hjti, h]
  · simp [hnonce, h]

theorem stored_unlogged {db db' : Db} (h : db'.unlogged = db.unlogged) {a : Intent}
    (hs : db.Stored a) : db'.Stored a := by
  have hintents : db'.intents = db.intents := congrArg (·.intents) h
  rwa [Db.Stored, hintents]

/-- No statement takes an intent out of the table. -/
theorem stored_exec {db : Db} {a : Intent} (hs : db.Stored a) (e : Env) (c : Call) :
    (exec e c db).2.Stored a := by
  have hkeep : ∀ db' : Db, db'.intents = db.intents → db'.Stored a := by
    intro db' h
    rwa [Db.Stored, h]
  cases c with
  | casReserve _ _ _ => simp only [exec]; split_ifs <;> exact hkeep _ rfl
  | updateTransition _ _ _ => simp only [exec]; split_ifs <;> exact hkeep _ rfl
  | deleteInstrument _ => simp only [exec]; split_ifs <;> exact hkeep _ rfl
  | insertCapture _ _ => simp only [exec]; split <;> exact hkeep _ rfl
  | insertPurchase _ _ => simp only [exec]; split <;> exact hkeep _ rfl
  | insertIntent i signature =>
    simp only [exec]
    split_ifs
    · exact hs
    · obtain ⟨r, hr, h⟩ := hs
      exact ⟨r, List.mem_append_left _ hr, h⟩
  | updateIntentCaptured jti =>
    obtain ⟨r, hr, h⟩ := hs
    refine ⟨_, List.mem_map_of_mem hr, ?_⟩
    split_ifs
    · exact h
    · exact h
  | _ => exact hkeep _ rfl

/-- An insert that goes through stores its intent. -/
theorem stored_insert (e : Env) (i : Intent) (signature : String) (db : Db)
    (h : (exec e (.insertIntent i signature) db).1 = .ok ()) :
    (exec e (.insertIntent i signature) db).2.Stored i := by
  simp only [exec] at h ⊢
  split_ifs at h ⊢
  exact ⟨_, List.mem_append_right _ (List.mem_singleton_self _), rfl, rfl⟩

/-- Who becomes recorded has stored its intent. -/
theorem stored_of_recorded {γ : Freshness} {a : Intent} (e : Env) (c : Call) {db : Db}
    (hc : ∀ i s, c = .insertIntent i s → i = a) (hγ : γ.recorded = true → db.Stored a)
    (h : (γ.advance c (exec e c db).1).recorded = true) : (exec e c db).2.Stored a := by
  by_cases hrec : γ.recorded = true
  · exact stored_exec (hγ hrec) e c
  cases c with
  | insertIntent i signature =>
    cases hr : (exec e (.insertIntent i signature) db).1 with
    | ok u => exact hc i signature rfl ▸ stored_insert e i signature db hr
    | error x =>
      rw [hr] at h
      exact absurd h hrec
  | selectIntentSeen jti nonce =>
    rw [show (exec e (.selectIntentSeen jti nonce) db).1 = .ok (db.seen jti nonce) from rfl] at h
    cases hseen : db.seen jti nonce with
    | true => rw [hseen] at h; exact absurd h hrec
    | false => rw [hseen] at h; exact absurd h hrec
  | _ => exact absurd h hrec

/-! ## Calls see nothing of the log -/

theorem exec_log (e : Env) (c : Call) (db : Db) (log : List AuditEvent) :
    (exec e c { db with audit := log }).1 = (exec e c db).1 ∧
      (exec e c { db with audit := log }).2.unlogged = (exec e c db).2.unlogged := by
  cases c with
  | casReserve _ _ _ => simp only [exec]; split_ifs <;> exact ⟨rfl, rfl⟩
  | updateTransition _ _ _ => simp only [exec]; split_ifs <;> exact ⟨rfl, rfl⟩
  | deleteInstrument _ => simp only [exec]; split_ifs <;> exact ⟨rfl, rfl⟩
  | insertIntent _ _ => simp only [exec]; split_ifs <;> exact ⟨rfl, rfl⟩
  | insertCapture id c => simp only [exec]; cases db.captures id <;> exact ⟨rfl, rfl⟩
  | insertPurchase id i => simp only [exec]; cases db.purchases id <;> exact ⟨rfl, rfl⟩
  | _ => exact ⟨rfl, rfl⟩

theorem eq_of_unlogged {s t : Db} (h : s.unlogged = t.unlogged) : s = { t with audit := s.audit } := by
  obtain ⟨_, _, _, _, _, _, _, _⟩ := s
  obtain ⟨_, _, _, _, _, _, _, _⟩ := t
  simp only [Db.unlogged, Db.mk.injEq, true_and] at h ⊢
  exact h

/-! ## The pool -/

section Pool

variable {ι : Type}

/-- The pool of `verify` calls; no statement fails. -/
def replaySystem : System ι Call Res PyErr Db Freshness Env where
  sem := exec
  adv _ γ _ c r := γ.advance c r

theorem replay_viewed : Viewed (replaySystem (ι := ι)) Db.unlogged where
  answer e c s t h := by
    rw [eq_of_unlogged h]
    exact (exec_log e c t _).1
  state e c s t h := by
    rw [eq_of_unlogged h]
    exact (exec_log e c t _).2

variable (K : Deps) (ports : String → Option Port) (fuel : ℕ) (q : ι → Submission)

/-- The calls before their first statement. -/
def replayStart (db : Db) : Config ι Call Res PyErr Verified Db Freshness where
  shared := db
  prog i := verify K ports fuel (q i).ids (q i).token (q i).intent (q i).signature (q i).reserve
  hist _ := .start

/-- Recorded intents are in the table, and at most one call passed its read. -/
structure OnePassed (g : ι → Freshness) (db : Db) : Prop where
  stored : ∀ i, (g i).recorded = true → db.Stored (q i).intent
  one : ∀ i k, (g i).passed = true → (g k).passed = true → i = k

/-- The id and the nonce that a freshness check asks for. -/
def Call.asksFor : Call → Option (String × String)
  | .selectIntentSeen jti nonce => some (jti, nonce)
  | _ => none

/-- A freshness check that finds nothing: no other call is between its own and its insert. -/
def NoneBetween (g : ι → Freshness) (db : Db) (i : ι) (c : Call) : Prop :=
  ∀ a ∈ c.asksFor, db.seen a.1 a.2 = false →
    ∀ k, k ≠ i → (g k).passed = true → (g k).recorded = true

instance [Fintype ι] [DecidableEq ι] (g : ι → Freshness) (db : Db) (i : ι) (c : Call) :
    Decidable (NoneBetween g db i c) :=
  inferInstanceAs (Decidable (∀ _ ∈ _, _ → ∀ _, _ → _ → _))

/-- The specification of the pool: a call that has not passed keeps everything but the log. -/
def replaySpec : Spec ι Call Res PyErr Db Freshness where
  inv := OnePassed q
  ok := NoneBetween
  prop g db i c r db' := ((g i).advance c r).passed = false → db'.unlogged = db.unlogged

/-! ### One call -/

variable {q}

/-- A call that keeps everything but the log, and the caller's history. -/
def Call.silent : Call → Bool
  | .auditAppend _ => true
  | .nowTs => true
  | _ => false

variable {i : ι}

/-- Who passed was alone. -/
theorem OnePassed.alone {g : ι → Freshness} {db : Db} (h : OnePassed q g db)
    (hi : (g i).passed = true) (k : ι) (hk : k ≠ i) : (g k).passed = false := by
  by_contra hpassed
  exact hk (h.one k i (by simpa using hpassed) hi)

variable [DecidableEq ι]

/-- The invariant after a call of `i`. -/
theorem OnePassed.update {g : ι → Freshness} {db db' : Db} (h : OnePassed q g db) {γ : Freshness}
    (hdb : ∀ a, db.Stored a → db'.Stored a) (hrec : γ.recorded = true → db'.Stored (q i).intent)
    (hpass : γ.passed = true → ∀ k, k ≠ i → (g k).passed = false) :
    OnePassed q (Function.update g i γ) db' := by
  refine ⟨fun k hk => ?_, fun j k hj hk => ?_⟩
  · by_cases hki : k = i
    · subst hki
      rw [Function.update_self] at hk
      exact hrec hk
    · rw [Function.update_of_ne hki] at hk
      exact hdb _ (h.stored k hk)
  · have hother : ∀ k, k ≠ i → γ.passed = true → (Function.update g i γ k).passed = true → False := by
      intro k hki hγ hk
      rw [Function.update_of_ne hki, hpass hγ k hki] at hk
      exact Bool.noConfusion hk
    by_cases hji : j = i
    · by_cases hki : k = i
      · rw [hji, hki]
      · rw [hji, Function.update_self] at hj
        exact (hother k hki hj hk).elim
    · by_cases hki : k = i
      · rw [hki, Function.update_self] at hk
        exact (hother j hji hk hj).elim
      · rw [Function.update_of_ne hji] at hj
        rw [Function.update_of_ne hki] at hk
        exact h.one j k hj hk

theorem silent_call {c : Call} (hc : c.silent = true) (γ : Freshness) :
    Outline replaySystem (replaySpec q) i (fun r γ' => γ' = γ ∧ ∃ a, r = .ok a) (call c) γ := by
  refine outline_perform_eq fun g db e hg hI _ => ?_
  subst hg
  cases c with
  | auditAppend ev =>
    refine ⟨_, _, g i, rfl, rfl, ?_, fun _ => rfl, rfl, _, rfl⟩
    rw [Function.update_eq_self]
    exact ⟨hI.stored, hI.one⟩
  | nowTs =>
    refine ⟨_, _, g i, rfl, rfl, ?_, fun _ => rfl, rfl, _, rfl⟩
    rw [Function.update_eq_self]
    exact hI
  | _ => exact Bool.noConfusion hc

/-- The freshness check: a call that passes it is the only one. -/
theorem selectIntentSeen_outline (hq : ∀ i k, Clash (q i).intent (q k).intent) (γ : Freshness)
    (hγ : γ.passed = false) :
    Outline replaySystem (replaySpec q) i (fun r γ' => ∃ seen : Bool, r = .ok seen ∧
        γ'.asked = true ∧ γ'.passed = !seen)
      (call (.selectIntentSeen (q i).intent.jti (q i).intent.nonce)) γ := by
  refine outline_perform_eq fun g db e hg hI hok => ?_
  subst hg
  cases hseen : db.seen (q i).intent.jti (q i).intent.nonce with
  | true =>
    refine ⟨.ok true, db, { g i with asked := true }, congrArg (Except.ok · , db) hseen, rfl, ?_,
      fun _ => rfl, true, rfl, rfl, hγ⟩
    refine hI.update (fun _ h => h) (hI.stored i) fun h => ?_
    rw [hγ] at h
    exact Bool.noConfusion h
  | false =>
    refine ⟨.ok false, db, { g i with asked := true, passed := true },
      congrArg (Except.ok · , db) hseen, rfl, ?_, fun _ => rfl, false, rfl, rfl, rfl⟩
    refine hI.update (fun _ h => h) (hI.stored i) fun _ k hk => ?_
    -- a call that had passed has its row in the table, where the check would have found it
    by_contra hpassed
    have hstored := hI.stored k (hok _ rfl hseen k hk (by simpa using hpassed))
    rw [seen_of_stored hstored (hq k i)] at hseen
    exact Bool.noConfusion hseen

/-- What follows the check of a call that passed it. -/
theorem passed_outline {α : Type} {p : Py α}
    (hp : p.Calls fun c => ∀ a s, c = .insertIntent a s → a = (q i).intent) {γ : Freshness}
    (hγ : γ.passed = true) :
    Outline replaySystem (replaySpec q) i (fun _ γ' => γ'.passed = true) p γ := by
  refine outline_calls (fun g db e c hc hpassed hI _ => ?_) hp hγ
  have hkeeps : ((g i).advance c (exec e c db).1).passed = true := advance_passed hpassed c _
  refine ⟨hI.update (fun a ha => stored_exec ha e c) (stored_of_recorded e c hc (hI.stored i))
    fun _ => hI.alone hpassed, fun h => ?_, hkeeps⟩
  exact absurd (hkeeps.symm.trans h) (by decide)

/-! ### A call of `verify` -/

/-- The answer of a refused replay. -/
def replayRefusal : Verified := ⟨.reject "DUPLICATE_JTI" "intent id or nonce reused", none⟩

/-- How a call that did not pass its check ends. -/
def ReplayEnd (r : Except PyErr Verified) (γ : Freshness) : Prop :=
  γ.passed = false → (γ.asked = true → r = .ok replayRefusal) ∧
    ∀ v, r = .ok v → v.reservationId = none

theorem refuse_outline (mandateJti : Option String) (code detail : String) (γ : Freshness) :
    Outline replaySystem (replaySpec q) i
      (fun r γ' => γ' = γ ∧ r = .ok ⟨.reject code detail, none⟩) (refuse mandateJti code detail) γ := by
  refine outline_bind (silent_call rfl γ) (fun u γ' h => ⟨h.1, rfl⟩) fun x γ' h => ?_
  obtain ⟨-, a, ha⟩ := h
  cases ha

/-- A refusal before the freshness check. -/
theorem early_outline (mandateJti : Option String) (code detail : String) {γ : Freshness}
    (hγ : γ.asked = false) :
    Outline replaySystem (replaySpec q) i ReplayEnd (refuse mandateJti code detail) γ := by
  refine outline_mono (fun r γ' h _ => ?_) (refuse_outline mandateJti code detail γ)
  obtain ⟨rfl, rfl⟩ := h
  refine ⟨fun hasked => absurd (hγ.symm.trans hasked) (by decide), fun v hv => ?_⟩
  cases hv
  rfl

theorem raise_outline {x : PyErr} {γ : Freshness} (hγ : γ.asked = false) :
    Outline replaySystem (replaySpec q) i ReplayEnd (.raise x) γ :=
  fun _ => ⟨fun h => absurd (hγ.symm.trans h) (by decide), fun v hv => by cases hv⟩

theorem admits_insert (intent : Intent) :
    AdmitsVerify (fun c => ∀ a s, c = .insertIntent a s → a = intent) intent where
  read c hc a s h := by
    subst h
    exact Bool.noConfusion hc
  log _ _ _ h := by cases h
  expire _ _ _ h := by cases h
  release _ _ _ _ h := by cases h
  record _ _ _ h := by cases h; rfl
  reserve _ _ _ _ _ h := by cases h

/-- **The outline of `verify`.** -/
theorem verify_outline (hq : ∀ i k, Clash (q i).intent (q k).intent) :
    Outline replaySystem (replaySpec q) i ReplayEnd
      (verify K ports fuel (q i).ids (q i).token (q i).intent (q i).signature (q i).reserve)
      .start := by
  simp only [verify]
  rcases K.verifyToken (q i).token with (_ | _ | _ | _) | claims
  case ok =>
    dsimp only
    rcases K.verifyDetached (q i).signature (q i).intent claims with (_ | _ | _ | _) | ⟨⟩
    case ok =>
      dsimp only
      by_cases hname : (q i).intent.mandateJti ≠ claims.jti
      · rw [if_pos hname]
        exact early_outline _ _ _ rfl
      rw [if_neg hname]
      refine outline_bind (silent_call rfl _) (fun now γ h => ?_) fun x γ h => ?_
      · obtain ⟨rfl, -⟩ := h
        by_cases httl : (q i).intent.exp - (q i).intent.iat > intentTtl
        · rw [if_pos httl]
          exact early_outline _ _ _ rfl
        rw [if_neg httl]
        by_cases hexp : now > (q i).intent.exp
        · rw [if_pos hexp]
          exact early_outline _ _ _ rfl
        rw [if_neg hexp]
        refine outline_bind (selectIntentSeen_outline hq _ rfl) (fun seen γ h => ?_) fun x γ h => ?_
        · obtain ⟨b, hb, hasked, hpassed⟩ := h
          cases hb
          cases seen with
          | true =>
            refine outline_mono (fun r γ' h _ => ?_) (refuse_outline _ _ _ γ)
            obtain ⟨rfl, rfl⟩ := h
            refine ⟨fun _ => rfl, fun v hv => ?_⟩
            cases hv
            rfl
          | false =>
            refine outline_mono (fun r γ' h hnot => absurd (hnot.symm.trans h) (by decide))
              (passed_outline ?_ hpassed)
            exact verifyAlive_calls K ports fuel (admits_insert _) _ _ _ _ _
        · obtain ⟨b, hb, -⟩ := h
          cases hb
      · obtain ⟨-, a, ha⟩ := h
        cases ha
    case error.badSignature => exact early_outline _ _ _ rfl
    all_goals exact raise_outline rfl
  case error.badSignature => exact early_outline _ _ _ rfl
  all_goals exact raise_outline rfl

/-! ### Runs -/

theorem passed_step {c : Config ι Call Res PyErr Verified Db Freshness} {i : ι}
    (h : (c.hist i).passed = true) (j : ι) (e : Env) :
    ((replaySystem.step c j e).hist i).passed = true := by
  cases hp : c.prog j with
  | ret a => simpa only [System.step, hp] using h
  | raise x => simpa only [System.step, hp] using h
  | call op next =>
    simp only [System.step, hp]
    by_cases hij : i = j
    · subst hij
      rw [Function.update_self]
      exact advance_passed h _ _
    · rwa [Function.update_of_ne hij]

theorem passed_run {c : Config ι Call Res PyErr Verified Db Freshness} {i : ι}
    (h : (c.hist i).passed = true) (xs : List (ι × Env)) :
    ((replaySystem.run c xs).hist i).passed = true := by
  induction xs generalizing c with
  | nil => exact h
  | cons x xs ih => exact ih (passed_step h x.1 x.2)

/-- A step of a call that has not passed keeps everything but the log. -/
theorem keeps_step {c : Config ι Call Res PyErr Verified Db Freshness} {i j : ι} {e : Env}
    (hprop : (replaySpec q).Prop replaySystem c j e)
    (hnot : ((replaySystem.step c j e).hist i).passed = false) :
    KeepsView replaySystem Db.unlogged i c j e := by
  rintro rfl
  cases hp : c.prog j with
  | ret a => simp only [System.step, hp]
  | raise x => simp only [System.step, hp]
  | call op next =>
    simp only [System.step, hp, Function.update_self] at hnot ⊢
    exact hprop op (by simp [hp, Prog.next]) hnot

theorem keeps_run {c : Config ι Call Res PyErr Verified Db Freshness} {i : ι}
    {xs : List (ι × Env)} (hprop : replaySystem.Along ((replaySpec q).Prop replaySystem) c xs)
    (hnot : ((replaySystem.run c xs).hist i).passed = false) :
    replaySystem.Along (KeepsView replaySystem Db.unlogged i) c xs := by
  induction xs generalizing c with
  | nil => trivial
  | cons x xs ih =>
    refine ⟨keeps_step hprop.1 ?_, ih hprop.2 hnot⟩
    by_contra hpassed
    have := passed_run (by simpa using hpassed) xs
    exact absurd (this.symm.trans hnot) (by decide)

/-- How a program ended, if it did. -/
def ending {α : Type} : Py α → Option (Except PyErr α)
  | .ret a => some (.ok a)
  | .raise x => some (.error x)
  | .call _ _ => none

/-- **Replay safety** of a run: one call at most ends with a reservation; every other one that got
to the freshness check and ended was refused as a replay, and the run without its steps ends with
the same mandates. -/
def ReplaySafe (c : Config ι Call Res PyErr Verified Db Freshness) (xs : List (ι × Env)) : Prop :=
  ∃ winner : Option ι,
    (∀ i v, ending ((replaySystem.run c xs).prog i) = some (.ok v) → v.reservationId ≠ none →
      winner = some i) ∧
    ∀ i, winner ≠ some i →
      (((replaySystem.run c xs).hist i).asked = true →
        ∀ r ∈ ending ((replaySystem.run c xs).prog i), r = .ok replayRefusal) ∧
      (replaySystem.run c (xs.filter fun x => x.1 ≠ i)).shared.mandates =
        (replaySystem.run c xs).shared.mandates

theorem ended_outline {Q : Except PyErr Verified → Freshness → Prop} {p : Py Verified}
    {γ : Freshness} (h : Outline replaySystem (replaySpec q) i Q p γ) {r : Except PyErr Verified}
    (hr : r ∈ ending p) : Q r γ := by
  cases p with
  | ret a => cases hr; exact h
  | raise x => cases hr; exact h
  | call op next => cases hr

/-- **Replays are refused**, in every run whose freshness checks that find nothing find no other
call between its own check and its insert. -/
theorem replays_refused (q : ι → Submission) (hq : ∀ i k, Clash (q i).intent (q k).intent)
    (db : Db) (xs : List (ι × Env))
    (hok : replaySystem.Along
      (fun c i _ => ∀ op ∈ (c.prog i).next, NoneBetween c.hist c.shared i op)
      (replayStart K ports fuel q db) xs) :
    ReplaySafe (replayStart K ports fuel q db) xs := by
  have hstart : Outlined replaySystem (replaySpec q) (fun _ => ReplayEnd)
      (replayStart K ports fuel q db) := by
    refine ⟨⟨fun i h => ?_, fun i k h => ?_⟩, fun i => verify_outline K ports fuel hq⟩
    · exact Bool.noConfusion h
    · exact Bool.noConfusion h
  obtain ⟨hprop, hinv, hout⟩ := outline_run hstart hok
  have hend : ∀ i, ∀ r ∈ ending ((replaySystem.run (replayStart K ports fuel q db) xs).prog i),
      ReplayEnd r ((replaySystem.run (replayStart K ports fuel q db) xs).hist i) :=
    fun i r hr => ended_outline (hout i) hr
  have hother : ∀ i, ((replaySystem.run (replayStart K ports fuel q db) xs).hist i).passed = false →
      (((replaySystem.run (replayStart K ports fuel q db) xs).hist i).asked = true →
        ∀ r ∈ ending ((replaySystem.run (replayStart K ports fuel q db) xs).prog i),
          r = .ok replayRefusal) ∧
      (replaySystem.run (replayStart K ports fuel q db) (xs.filter fun x => x.1 ≠ i)).shared.mandates =
        (replaySystem.run (replayStart K ports fuel q db) xs).shared.mandates := by
    intro i hnot
    refine ⟨fun hasked r hr => (hend i r hr hnot).1 hasked, ?_⟩
    have herase := erase_run replay_viewed (beside_refl i _) (keeps_run hprop hnot)
    exact congrArg (·.mandates) herase.shared.symm
  have hnone : ∀ i v, ending ((replaySystem.run (replayStart K ports fuel q db) xs).prog i) =
      some (.ok v) → v.reservationId ≠ none →
        ((replaySystem.run (replayStart K ports fuel q db) xs).hist i).passed = true := by
    intro i v hv hid
    by_contra hnot
    exact hid ((hend i _ hv (by simpa using hnot)).2 v rfl)
  by_cases hw : ∃ w, ((replaySystem.run (replayStart K ports fuel q db) xs).hist w).passed = true
  · obtain ⟨w, hw⟩ := hw
    refine ⟨some w, fun i v hv hid => ?_, fun i hi => hother i ?_⟩
    · rw [hinv.one w i hw (hnone i v hv hid)]
    · exact hinv.alone hw i fun h => hi (congrArg some h.symm)
  · push Not at hw
    refine ⟨none, fun i v hv hid => ?_, fun i _ => hother i (by simpa using hw i)⟩
    exact absurd (hnone i v hv hid) (hw i)

end Pool

/-! ### Two calls with one intent -/

/-- One intent, submitted twice, under a mandate derived from another. -/
def sameIntent (_ : Fin 2) : Submission where
  ids := familyIds
  token := ""
  intent := ⟨"mdt", "agt", merchantId, "off", 3000, "USD", "nonce", "pit", 0, 100⟩
  signature := ""
  reserve := true

/-- Both calls, before their first statement. -/
def twice : Config (Fin 2) Call Res PyErr Verified Db Freshness :=
  replayStart familyDeps (fun _ => some .mock) 3 sameIntent familyDb

/-- A schedule of the two calls; the merchant sells the offer at 30.00. -/
def inTurn (turns : List (Fin 2)) : List (Fin 2 × Env) :=
  turns.map fun i =>
    (i, { Env.quiet with
      offer := some ⟨"off", merchantId, "flights", "flight", 3000, "USD", none⟩ })

theorem replays_refused_in_turn :
    ReplaySafe twice (inTurn (List.replicate 15 0 ++ List.replicate 3 1)) :=
  replays_refused familyDeps (fun _ => some .mock) 3 sameIntent (fun _ _ => .inl rfl) familyDb _
    (by decide)

/-- **A race past the check**: both calls find the intent unseen and reserve; the second insert
raises, and its reservation stays on both mandates. -/
theorem replay_raced : ¬ ∀ xs : List (Fin 2 × Env), ReplaySafe twice xs := by
  intro h
  obtain ⟨w, hone, hother⟩ :=
    h (inTurn ([0, 0, 1, 1] ++ List.replicate 13 0 ++ List.replicate 12 1))
  have hw : w = some 0 := hone 0 ⟨⟨.approved, none, "", []⟩, some "res"⟩ rfl (by decide)
  have hraised := (hother 1 (by rw [hw]; decide)).1 (by decide)
    (.error (.other "duplicate key value violates unique constraint")) rfl
  cases hraised

end TryTrust.Agent
