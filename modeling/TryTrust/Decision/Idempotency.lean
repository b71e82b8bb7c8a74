import TryTrust.Json

/-!
# The in-memory idempotency store

A claim makes a record, reserves it under its derived key, and owns it when the record that the
store answers carries its own token. The store keeps a record until it expires.

* `Record`, `makeRecord`; `Store`, with `get`, `put`, `pop`, `purge`;
* `reserve`, `claimIdempotency`, `getRecord`, `saveResponse`, `purgeExpired`;
* `Call`, `Reply`, `reply`, `next`, `after`, `replies`: histories of calls;
* `InTime`: what a claim finds is expired at the wall clock as it is at the injected time;
* **`claims_protocol`**: with every claim in time, one owner until the record expires, the first
  response for every later claim, a conflict for every other request, and answers that depend on the
  injected times only; **`claims_late`**: two owners of one record.
-/

namespace TryTrust.Idempotency

/-! ## Records -/

/-- The exceptions. -/
inductive Err where
  | value (message : String)
  /-- `IdempotencyConflict`. -/
  | conflict (message : String)
  /-- `KeyError`. -/
  | missing (key : String)
  deriving DecidableEq

/-- The hashes: of a secret and a source `jti`, and of a request. -/
structure Hashing where
  hmac : String → String → String
  fingerprint : Json → String

/-- `IdempotencyRecord`; times in microseconds. -/
structure Record where
  key : String
  scope : String
  derivedFrom : String
  requestFingerprint : String
  expiresAt : ℤ
  response : Option Fields
  createdAt : ℤ
  claimToken : String

/-- `is_expired`. -/
def Record.isExpired (r : Record) (now : ℤ) : Bool := decide (now ≥ r.expiresAt)

/-- A record, answered or not. -/
def Record.answered (r : Record) (response : Option Fields) : Record := { r with response }

/-- `IDEMPOTENCY_TTL`, 45 days. -/
def idempotencyTtl : ℤ := 45 * 86400 * 1000000

section Records

variable (H : Hashing)

/-- `derive_idempotency_key`. -/
def deriveIdempotencyKey (jti secret : String) : Except Err String :=
  if jti = "" then .error (.value "intent jti must be a non-empty string")
  else if secret = "" then .error (.value "idempotency secret cannot be empty")
  else .ok (H.hmac secret jti)

/-- `make_record`, of a claim; the checks of `__post_init__` come last. -/
def makeRecord (jti secret scope : String) (request : Json) (createdAt : ℤ) (claimToken : String) :
    Except Err Record :=
  match deriveIdempotencyKey H jti secret with
  | .error x => .error x
  | .ok key =>
    if key = "" ∨ scope = "" ∨ jti = "" then
      .error (.value "idempotency records require key, scope, and source jti")
    else if createdAt + idempotencyTtl ≤ createdAt then
      .error (.value "idempotency expiry must be after creation")
    else .ok ⟨key, scope, jti, H.fingerprint request, createdAt + idempotencyTtl, none, createdAt,
      claimToken⟩

end Records

/-! ## The store -/

/-- The dictionary of records, by their keys. -/
structure Store where
  records : List Record
  nodup : (records.map (·.key)).Nodup

namespace Store

/-- The empty store. -/
def empty : Store := ⟨[], List.nodup_nil⟩

/-- `_records.get`. -/
def get (s : Store) (key : String) : Option Record := s.records.find? fun r => r.key = key

/-- `_records.pop`. -/
def pop (s : Store) (key : String) : Store where
  records := s.records.filter fun r => r.key ≠ key
  nodup := s.nodup.sublist (List.filter_sublist.map _)

/-- `_records[record.key] = record`. -/
def put (s : Store) (record : Record) : Store where
  records := record :: (s.pop record.key).records
  nodup := by
    rw [List.map_cons, List.nodup_cons]
    refine ⟨fun h => ?_, (s.pop record.key).nodup⟩
    obtain ⟨r, hr, hkey⟩ := List.mem_map.1 h
    have hne := (List.mem_filter.1 hr).2
    simp [hkey] at hne

/-- The store without its expired records. -/
def purge (s : Store) (now : ℤ) : Store where
  records := s.records.filter fun r => !r.isExpired now
  nodup := s.nodup.sublist (List.filter_sublist.map _)

variable {s : Store} {r : Record} {key : String} {now : ℤ}

@[simp] theorem get_empty : empty.get key = none := rfl

theorem key_of_get (h : s.get key = some r) : r.key = key := by
  have hkey := List.find?_some h
  simpa using hkey

theorem get_pop_ne {key' : String} (h : key' ≠ key) : (s.pop key).get key' = s.get key' := by
  rw [get, pop, List.find?_filter, get]
  congr 1
  funext r
  by_cases hr : r.key = key'
  · simp [hr, h]
  · simp [hr]

theorem get_pop_self : (s.pop key).get key = none := by
  rw [get, pop, List.find?_filter, List.find?_eq_none]
  intro r _
  simp

theorem get_put_self : (s.put r).get r.key = some r := by
  rw [get, put, List.find?_cons_of_pos]
  simp

theorem get_put_ne (h : key ≠ r.key) : (s.put r).get key = s.get key := by
  rw [get, put, List.find?_cons_of_neg]
  · exact get_pop_ne h
  · simpa using h.symm

/-- **A purge** keeps what has not expired, and nothing else. -/
theorem get_purge : (s.purge now).get key = (s.get key).filter fun r => !r.isExpired now := by
  obtain ⟨records, hnodup⟩ := s
  rw [get, purge, get]
  dsimp only
  induction records with
  | nil => rfl
  | cons x records ih =>
    rw [List.map_cons, List.nodup_cons] at hnodup
    by_cases hx : x.key = key
    · rw [List.find?_cons_of_pos (by simpa using hx), Option.filter_some]
      by_cases hexpired : x.isExpired now
      · rw [List.filter_cons_of_neg (by simpa using hexpired), if_neg (by simpa using hexpired),
          List.find?_eq_none]
        intro r hr hkey
        refine hnodup.1 (List.mem_map.2 ⟨r, (List.mem_filter.1 hr).1, ?_⟩)
        rw [hx]
        simpa using hkey
      · rw [List.filter_cons_of_pos (by simpa using hexpired), if_pos (by simpa using hexpired),
          List.find?_cons_of_pos (by simpa using hx)]
    · rw [List.find?_cons_of_neg (by simpa using hx), ← ih hnodup.2]
      by_cases hexpired : x.isExpired now
      · rw [List.filter_cons_of_neg (by simpa using hexpired)]
      · rw [List.filter_cons_of_pos (by simpa using hexpired),
          List.find?_cons_of_neg (by simpa using hx)]

end Store

/-! ## The operations -/

/-- The record and the request are not of one operation. -/
def Record.differs (existing candidate : Record) : Prop :=
  existing.scope ≠ candidate.scope ∨ existing.derivedFrom ≠ candidate.derivedFrom ∨
    existing.requestFingerprint ≠ candidate.requestFingerprint

instance (existing candidate : Record) : Decidable (existing.differs candidate) :=
  inferInstanceAs (Decidable (_ ∨ _ ∨ _))

/-- A claim: the record, and whether the caller owns it. -/
structure IdempotencyClaim where
  record : Record
  ownsClaim : Bool

/-- `get`; an expired record is dropped. -/
def getRecord (s : Store) (key : String) (now : ℤ) : Option Record × Store :=
  match s.get key with
  | none => (none, s)
  | some record => if record.isExpired now then (none, s.pop key) else (some record, s)

/-- `save_response`. -/
def saveResponse (s : Store) (key : String) (response : Fields) (now : ℤ) :
    Except Err Record × Store :=
  match s.get key with
  | none => (.error (.missing key), s)
  | some record =>
    if record.isExpired now then (.error (.missing key), s.pop key)
    else
      match record.response with
      | some _ => (.ok record, s)
      | none => (.ok (record.answered (some response)), s.put (record.answered (some response)))

/-- `purge_expired`. -/
def purgeExpired (s : Store) (now : ℤ) : ℕ × Store :=
  (s.records.length - (s.purge now).records.length, s.purge now)

section Claims

variable (H : Hashing) (secret : String)

/-- `reserve`, in a store with a secret; `now` is the wall clock when it is not given. -/
def reserve (s : Store) (candidate : Record) (now : ℤ) : Except Err Record × Store :=
  match deriveIdempotencyKey H candidate.derivedFrom secret with
  | .error x => (.error x, s)
  | .ok expected =>
    if candidate.key ≠ expected then
      (.error (.conflict "idempotency key must be derived from the source jti"), s)
    else
      match s.get candidate.key with
      | none => (.ok candidate, s.put candidate)
      | some existing =>
        if existing.isExpired now then (.ok candidate, s.put candidate)
        else if existing.differs candidate then
          (.error (.conflict "same idempotency key used with a different request"), s)
        else (.ok existing, s)

/-- A request for a claim, with the caller's secret and the fresh token. -/
structure ClaimRequest where
  jti : String
  secret : String
  scope : String
  request : Json
  token : String

/-- The record that a claim offers. -/
def ClaimRequest.candidate (x : ClaimRequest) (now : ℤ) : Except Err Record :=
  makeRecord H x.jti x.secret x.scope x.request now x.token

/-- **`claim_idempotency`**: it calls `reserve` without a time; the store reads the wall clock. -/
def claimIdempotency (s : Store) (x : ClaimRequest) (now wall : ℤ) :
    Except Err IdempotencyClaim × Store :=
  match x.candidate H now with
  | .error e => (.error e, s)
  | .ok candidate =>
    match reserve H secret s candidate wall with
    | (.error e, s) => (.error e, s)
    | (.ok record, s) => (.ok ⟨record, record.claimToken = candidate.claimToken⟩, s)

/-! ## Histories -/

/-- A call at an injected time; a claim also at a moment of the wall clock. -/
inductive Call where
  | claim (x : ClaimRequest) (now wall : ℤ)
  | saveResponse (key : String) (response : Fields) (now : ℤ)
  | get (key : String) (now : ℤ)
  | purgeExpired (now : ℤ)

/-- What a call answers or raises. -/
inductive Reply where
  | claimed (claim : IdempotencyClaim)
  | saved (record : Record)
  | got (record : Option Record)
  | purged (count : ℕ)
  | raised (x : Err)

/-- The injected time. -/
def Call.now : Call → ℤ
  | .claim _ now _ => now
  | .saveResponse _ _ now => now
  | .get _ now => now
  | .purgeExpired now => now

/-- The fresh token of a claim. -/
def Call.token : Call → Option String
  | .claim x _ _ => some x.token
  | _ => none

/-- The call with the wall clock at the injected time. -/
def Call.injected : Call → Call
  | .claim x now _ => .claim x now now
  | call => call

/-- An answer, or an exception. -/
def Reply.of {α : Type} (f : α → Reply) : Except Err α → Reply
  | .ok a => f a
  | .error x => .raised x

/-- The reply of a call. -/
def reply (s : Store) : Call → Reply
  | .claim x now wall => .of .claimed (claimIdempotency H secret s x now wall).1
  | .saveResponse key response now => .of .saved (Idempotency.saveResponse s key response now).1
  | .get key now => .got (getRecord s key now).1
  | .purgeExpired now => .purged (Idempotency.purgeExpired s now).1

/-- The store after a call. -/
def next (s : Store) : Call → Store
  | .claim x now wall => (claimIdempotency H secret s x now wall).2
  | .saveResponse key response now => (Idempotency.saveResponse s key response now).2
  | .get key now => (getRecord s key now).2
  | .purgeExpired now => (Idempotency.purgeExpired s now).2

/-- The store after calls. -/
def after (s : Store) (calls : List Call) : Store := calls.foldl (next H secret) s

/-- The replies of calls. -/
def replies (s : Store) : List Call → List Reply
  | [] => []
  | call :: calls => reply H secret s call :: replies (next H secret s call) calls

/-- The record that a claim finds under the key of its request is expired at the wall clock exactly
when it is expired at the injected time. -/
def InTime (s : Store) : Call → Prop
  | .claim x now wall => ∀ key, deriveIdempotencyKey H x.jti x.secret = .ok key →
      ∀ r ∈ s.get key, r.isExpired wall = r.isExpired now
  | _ => True

/-- Every claim of a history is in time. -/
def AllInTime (s : Store) : List Call → Prop
  | [] => True
  | call :: calls => InTime H s call ∧ AllInTime (next H secret s call) calls

/-- The first response that is saved under a key. -/
def firstSaved (key : String) (calls : List Call) : Option Fields :=
  calls.findSome? fun
    | .saveResponse k response _ => if k = key then some response else none
    | _ => none

/-- A claim after some calls that owns a record. -/
def Owns (pre : List Call) (call : Call) (r : Record) : Prop :=
  reply H secret (after H secret .empty pre) call = .claimed ⟨r, true⟩

/-- **What a call is told of a record** that has not expired, with a response or none: a claim of
the same operation gets it and does not own it, another one conflicts, a save and a read get the
response. -/
def Told (r : Record) (saved : Option Fields) : Call → Reply → Prop
  | .claim x now _, answer => ∀ candidate, x.candidate H now = .ok candidate →
      candidate.key = r.key →
        if r.differs candidate then ∃ message, answer = .raised (.conflict message)
        else answer = .claimed ⟨r.answered saved, false⟩
  | .saveResponse key response _, answer => key = r.key →
      answer = .saved (r.answered (some (saved.getD response)))
  | .get key _, answer => key = r.key → answer = .got (some (r.answered saved))
  | .purgeExpired _, _ => True

/-- **The protocol of a history**. -/
structure Protocol (calls : List Call) : Prop where
  /-- While a record lives, every call is told of it and of the response saved first, and the store
  keeps both. -/
  owned : ∀ pre call mid later rest r, calls = pre ++ call :: (mid ++ later :: rest) →
    Owns H secret pre call r → later.now < r.expiresAt →
      Told H r (firstSaved r.key mid) later
          (reply H secret (after H secret .empty (pre ++ call :: mid)) later) ∧
        (after H secret .empty (pre ++ call :: (mid ++ [later]))).get r.key =
          some (r.answered (firstSaved r.key (mid ++ [later])))
  /-- A claim with the store's secret owns its record when every earlier one of its key has
  expired. -/
  free : ∀ pre x now wall rest candidate, calls = pre ++ .claim x now wall :: rest →
    x.secret = secret → x.candidate H now = .ok candidate →
    (∀ pre' call mid r, pre = pre' ++ call :: mid → Owns H secret pre' call r →
      r.key = candidate.key → r.expiresAt ≤ now) → Owns H secret pre (.claim x now wall) candidate
  /-- The replies depend on the injected times only. -/
  timeless : replies H secret .empty calls = replies H secret .empty (calls.map Call.injected)

/-! ## One call -/

variable {H secret} {s : Store} {x : ClaimRequest} {r candidate : Record} {now wall : ℤ}

theorem candidate_ok (h : x.candidate H now = .ok candidate) :
    deriveIdempotencyKey H x.jti x.secret = .ok candidate.key ∧
      candidate.derivedFrom = x.jti ∧ candidate.claimToken = x.token ∧
        candidate.response = none := by
  rw [ClaimRequest.candidate, makeRecord] at h
  cases hkey : deriveIdempotencyKey H x.jti x.secret with
  | error e =>
    rw [hkey] at h
    cases h
  | ok key =>
    rw [hkey] at h
    dsimp only at h
    split_ifs at h
    obtain rfl := Except.ok.inj h
    exact ⟨rfl, rfl, rfl, rfl⟩

/-- A record that a store holds under its own key, answered or not. -/
structure Held (H : Hashing) (secret : String) (s : Store) (r : Record) (saved : Option Fields) :
    Prop where
  derived : deriveIdempotencyKey H r.derivedFrom secret = .ok r.key
  stored : s.get r.key = some (r.answered saved)

variable {saved : Option Fields}

@[simp] theorem isExpired_answered : (r.answered saved).isExpired now = r.isExpired now := rfl

theorem not_expired (h : now < r.expiresAt) : r.isExpired now = false := by
  rw [Record.isExpired, decide_eq_false_iff_not]
  omega

theorem derive_ok {jti jti' other key key' : String}
    (h : deriveIdempotencyKey H jti other = .ok key)
    (h' : deriveIdempotencyKey H jti' secret = .ok key') :
    deriveIdempotencyKey H jti secret = .ok (H.hmac secret jti) := by
  unfold deriveIdempotencyKey at h h' ⊢
  split_ifs at h h' ⊢
  rfl

/-- A claim under the key of a record that has not expired: the record, or a conflict. -/
theorem reserve_held (hheld : Held H secret s r saved) (hkey : candidate.key = r.key)
    (hlive : r.isExpired wall = false) {expected : String}
    (hderive : deriveIdempotencyKey H candidate.derivedFrom secret = .ok expected) :
    reserve H secret s candidate wall = (.ok (r.answered saved), s) ∧ ¬ r.differs candidate ∨
      (∃ message, reserve H secret s candidate wall = (.error (.conflict message), s)) ∧
        r.differs candidate := by
  rw [reserve, hderive]
  dsimp only
  by_cases hexpected : candidate.key = expected
  · rw [if_neg (not_not.2 hexpected), hkey, hheld.stored]
    dsimp only
    rw [isExpired_answered, hlive, if_neg Bool.false_ne_true]
    by_cases hdiffers : r.differs candidate
    · rw [if_pos (show (r.answered saved).differs candidate from hdiffers)]
      exact .inr ⟨⟨_, rfl⟩, hdiffers⟩
    · rw [if_neg (show ¬ (r.answered saved).differs candidate from hdiffers)]
      exact .inl ⟨rfl, hdiffers⟩
  · rw [if_pos hexpected]
    refine .inr ⟨⟨_, rfl⟩, .inr (.inl fun heq => hexpected ?_)⟩
    rw [← heq, hheld.derived] at hderive
    rw [hkey]
    exact Except.ok.inj hderive

/-- What `reserve` does to the store: nothing, or it puts the candidate under its derived key, where
no record is live. -/
theorem reserve_cases (candidate : Record) (wall : ℤ) :
    (reserve H secret s candidate wall).2 = s ∧
        (∀ record, (reserve H secret s candidate wall).1 = .ok record →
          s.get candidate.key = some record ∧ record.isExpired wall = false) ∨
      reserve H secret s candidate wall = (.ok candidate, s.put candidate) ∧
        deriveIdempotencyKey H candidate.derivedFrom secret = .ok candidate.key ∧
        ∀ r ∈ s.get candidate.key, r.isExpired wall = true := by
  rw [reserve]
  cases hderive : deriveIdempotencyKey H candidate.derivedFrom secret with
  | error e => exact .inl ⟨rfl, fun _ h => by cases h⟩
  | ok expected =>
    dsimp only
    by_cases hexpected : candidate.key = expected
    · rw [if_neg (not_not.2 hexpected)]
      cases hget : s.get candidate.key with
      | none =>
        refine .inr ⟨rfl, by rw [hexpected], fun r hr => ?_⟩
        cases hr
      | some existing =>
        dsimp only
        split_ifs with hexpired hdiffers
        · refine .inr ⟨rfl, by rw [hexpected], fun r hr => ?_⟩
          obtain rfl := Option.mem_some_iff.1 hr
          exact hexpired
        · exact .inl ⟨rfl, fun _ h => by cases h⟩
        · refine .inl ⟨rfl, fun record h => ?_⟩
          obtain rfl := Except.ok.inj h
          exact ⟨rfl, by simpa using hexpired⟩
    · rw [if_pos hexpected]
      exact .inl ⟨rfl, fun _ h => by cases h⟩

/-- A claim whose request makes no record. -/
theorem claim_of_error {e : Err} (h : x.candidate H now = .error e) :
    claimIdempotency H secret s x now wall = (.error e, s) := by
  rw [claimIdempotency, h]

/-- A claim whose request makes a record. -/
theorem claim_of_candidate (h : x.candidate H now = .ok candidate) :
    claimIdempotency H secret s x now wall =
      ((reserve H secret s candidate wall).1.map fun record =>
        ⟨record, record.claimToken = candidate.claimToken⟩,
        (reserve H secret s candidate wall).2) := by
  rw [claimIdempotency, h]
  dsimp only
  cases reserve H secret s candidate wall with
  | mk answer s' => cases answer <;> rfl

/-- **A claim while a record is live**: it changes nothing of it, and is told of it. -/
theorem held_claim (hheld : Held H secret s r saved) (hlive : now < r.expiresAt)
    (htoken : x.token ≠ r.claimToken) (htime : InTime H s (.claim x now wall)) :
    Told H r saved (.claim x now wall) (reply H secret s (.claim x now wall)) ∧
      Held H secret (next H secret s (.claim x now wall)) r saved := by
  cases hcandidate : x.candidate H now with
  | error e =>
    refine ⟨fun candidate h => ?_, ?_⟩
    · rw [hcandidate] at h
      cases h
    · rw [next, claimIdempotency, hcandidate]
      exact hheld
  | ok candidate =>
    obtain ⟨hkey, hfrom, htok, -⟩ := candidate_ok hcandidate
    rw [next, reply, claim_of_candidate hcandidate]
    by_cases hsame : candidate.key = r.key
    · have hwall : r.isExpired wall = false := by
        have h := htime _ hkey (r.answered saved) (by rw [hsame]; exact hheld.stored)
        rw [isExpired_answered, isExpired_answered] at h
        rw [h]
        exact not_expired hlive
      have hderive := derive_ok hkey hheld.derived
      rw [← hfrom] at hderive
      rcases reserve_held hheld hsame hwall hderive with
        ⟨hok, hsimilar⟩ | ⟨⟨message, herror⟩, hdiffers⟩
      · rw [hok]
        refine ⟨fun candidate' h _ => ?_, hheld⟩
        obtain rfl := Except.ok.inj (hcandidate.symm.trans h)
        rw [if_neg hsimilar]
        have hother : decide ((r.answered saved).claimToken = candidate.claimToken) = false := by
          rw [decide_eq_false_iff_not, htok]
          exact fun heq => htoken heq.symm
        rw [Except.map, Reply.of, hother]
      · rw [herror]
        refine ⟨fun candidate' h _ => ?_, hheld⟩
        obtain rfl := Except.ok.inj (hcandidate.symm.trans h)
        rw [if_pos hdiffers]
        exact ⟨message, rfl⟩
    · refine ⟨fun candidate' h hkey' => ?_, ?_⟩
      · obtain rfl := Except.ok.inj (hcandidate.symm.trans h)
        exact absurd hkey' hsame
      · rcases reserve_cases (H := H) (s := s) candidate wall with
          ⟨hsame', -⟩ | ⟨hput, -⟩
        · rw [hsame']
          exact hheld
        · rw [hput]
          exact ⟨hheld.derived, by rw [Store.get_put_ne (Ne.symm hsame), hheld.stored]⟩

/-- A save while a record is live: the first response stays. -/
theorem held_save (hheld : Held H secret s r saved) (hlive : now < r.expiresAt) (key : String)
    (response : Fields) :
    (key = r.key → (saveResponse s key response now).1 =
      .ok (r.answered (some (saved.getD response)))) ∧
    Held H secret (saveResponse s key response now).2 r
      (saved.or (if key = r.key then some response else none)) := by
  rw [saveResponse]
  by_cases hkey : key = r.key
  · rw [hkey, hheld.stored, if_pos rfl]
    dsimp only
    rw [isExpired_answered, not_expired hlive, if_neg Bool.false_ne_true]
    cases saved with
    | none =>
      refine ⟨fun _ => rfl, hheld.derived, ?_⟩
      exact Store.get_put_self (r := r.answered (some response))
    | some first => exact ⟨fun _ => rfl, hheld⟩
  · rw [if_neg hkey, Option.or_none]
    refine ⟨fun h => absurd h hkey, hheld.derived, ?_⟩
    cases hget : s.get key with
    | none => exact hheld.stored
    | some record =>
      have hrecord := Store.key_of_get hget
      dsimp only
      split_ifs with hexpired
      · rw [Store.get_pop_ne (Ne.symm hkey), hheld.stored]
      · cases record.response with
        | some _ => exact hheld.stored
        | none =>
          have hne : r.key ≠ (record.answered (some response)).key :=
            fun heq => hkey (hrecord.symm.trans heq.symm)
          dsimp only
          rw [Store.get_put_ne hne, hheld.stored]

/-- A read while a record is live. -/
theorem held_get (hheld : Held H secret s r saved) (hlive : now < r.expiresAt) (key : String) :
    (key = r.key → (getRecord s key now).1 = some (r.answered saved)) ∧
      Held H secret (getRecord s key now).2 r saved := by
  rw [getRecord]
  by_cases hkey : key = r.key
  · rw [hkey, hheld.stored]
    dsimp only
    rw [isExpired_answered, not_expired hlive, if_neg Bool.false_ne_true]
    exact ⟨fun _ => rfl, hheld⟩
  · refine ⟨fun h => absurd h hkey, hheld.derived, ?_⟩
    cases s.get key with
    | none => exact hheld.stored
    | some record =>
      dsimp only
      split_ifs
      · rw [Store.get_pop_ne (Ne.symm hkey), hheld.stored]
      · exact hheld.stored

/-- **One call while a record is live**: it is told of the record, and the record stays, with the
response that was saved first. -/
theorem held_step {call : Call} (hheld : Held H secret s r saved) (hlive : call.now < r.expiresAt)
    (htoken : ∀ token ∈ call.token, token ≠ r.claimToken) (htime : InTime H s call) :
    Told H r saved call (reply H secret s call) ∧
      Held H secret (next H secret s call) r (saved.or (firstSaved r.key [call])) := by
  cases call with
  | claim x now wall =>
    have hnone : firstSaved r.key [.claim x now wall] = none := rfl
    rw [hnone, Option.or_none]
    exact held_claim hheld hlive (htoken x.token rfl) htime
  | saveResponse key response now =>
    have hfirst : firstSaved r.key [.saveResponse key response now] =
        if key = r.key then some response else none := by
      rw [firstSaved, List.findSome?_singleton]
    have hnow : now < r.expiresAt := hlive
    obtain ⟨htold, hnext⟩ := held_save hheld hnow key response
    rw [hfirst]
    refine ⟨fun hkey => ?_, hnext⟩
    rw [reply, htold hkey, Reply.of]
  | get key now =>
    have hnone : firstSaved r.key [.get key now] = none := rfl
    have hnow : now < r.expiresAt := hlive
    obtain ⟨htold, hnext⟩ := held_get hheld hnow key
    rw [hnone, Option.or_none]
    exact ⟨fun hkey => congrArg Reply.got (htold hkey), hnext⟩
  | purgeExpired now =>
    have hnone : firstSaved r.key [.purgeExpired now] = none := rfl
    rw [hnone, Option.or_none]
    have hnow : now < r.expiresAt := hlive
    refine ⟨trivial, hheld.derived, ?_⟩
    rw [next, purgeExpired, Store.get_purge, hheld.stored, Option.filter_some,
      isExpired_answered, not_expired hnow, Bool.not_false, if_pos rfl]

/-! ## Histories -/

theorem after_append (calls calls' : List Call) :
    after H secret s (calls ++ calls') = after H secret (after H secret s calls) calls' :=
  List.foldl_append

theorem allInTime_append (calls calls' : List Call) : AllInTime H secret s (calls ++ calls') ↔
    AllInTime H secret s calls ∧ AllInTime H secret (after H secret s calls) calls' := by
  induction calls generalizing s with
  | nil => exact (and_iff_right trivial).symm
  | cons call calls ih => rw [List.cons_append, AllInTime, AllInTime, ih, and_assoc]; rfl

theorem firstSaved_append (key : String) (calls calls' : List Call) :
    firstSaved key (calls ++ calls') = (firstSaved key calls).or (firstSaved key calls') := by
  rw [firstSaved, List.findSome?_append]
  rfl

/-- **A record stays** while calls come before its expiry. -/
theorem held_run {calls : List Call} (hheld : Held H secret s r saved)
    (hlive : ∀ call ∈ calls, call.now < r.expiresAt)
    (htoken : ∀ call ∈ calls, ∀ token ∈ call.token, token ≠ r.claimToken)
    (htime : AllInTime H secret s calls) :
    Held H secret (after H secret s calls) r (saved.or (firstSaved r.key calls)) := by
  induction calls generalizing s saved with
  | nil => rwa [show firstSaved r.key [] = none from rfl, Option.or_none]
  | cons call calls ih =>
    rw [List.forall_mem_cons] at hlive htoken
    obtain ⟨-, hnext⟩ := held_step hheld hlive.1 htoken.1 htime.1
    have hrest := ih hnext hlive.2 htoken.2 htime.2
    rw [Option.or_assoc, ← firstSaved_append] at hrest
    exact hrest

/-- A claim that owns, with a fresh token, has put its candidate. -/
theorem owner_put {call : Call} (h : reply H secret s call = .claimed ⟨r, true⟩)
    (htokens : ∀ record, s.get record.key = some record →
      ∀ token ∈ call.token, record.claimToken ≠ token) :
    Held H secret (next H secret s call) r none ∧ call.token = some r.claimToken := by
  cases call with
  | saveResponse key response now =>
    rw [reply] at h
    cases hanswer : (saveResponse s key response now).1 <;> rw [hanswer] at h <;> cases h
  | get key now => cases h
  | purgeExpired now => cases h
  | claim x now wall =>
    rw [reply] at h
    rw [next]
    cases hcandidate : x.candidate H now with
    | error e =>
      rw [claimIdempotency, hcandidate] at h
      cases h
    | ok candidate =>
      obtain ⟨-, -, htok, hresponse⟩ := candidate_ok hcandidate
      rw [claim_of_candidate hcandidate] at h ⊢
      rcases reserve_cases (H := H) (s := s) candidate wall with ⟨-, hfound⟩ | ⟨hput, hderive, -⟩
      · cases hanswer : (reserve H secret s candidate wall).1 with
        | error e =>
          rw [hanswer] at h
          cases h
        | ok record =>
          rw [hanswer, Except.map, Reply.of, Reply.claimed.injEq, IdempotencyClaim.mk.injEq,
            decide_eq_true_iff] at h
          have hget := (hfound record hanswer).1
          rw [← Store.key_of_get hget] at hget
          exact absurd (h.2.trans htok) (htokens record hget x.token rfl)
      · rw [hput] at h ⊢
        rw [Except.map, Reply.of, Reply.claimed.injEq, IdempotencyClaim.mk.injEq] at h
        obtain ⟨rfl, -⟩ := h
        refine ⟨⟨hderive, ?_⟩, congrArg some htok.symm⟩
        rw [Record.answered, ← hresponse]
        exact Store.get_put_self

/-- Where a stored record comes from: it was there, or the call owns it. -/
theorem get_next {call : Call} {key : String} (h : (next H secret s call).get key = some r) :
    (∃ r', s.get key = some r' ∧ r = r'.answered r.response) ∨
      reply H secret s call = .claimed ⟨r, true⟩ ∧ r.key = key ∧
        call.token = some r.claimToken := by
  cases call with
  | claim x now wall =>
    rw [next] at h
    rw [reply]
    cases hcandidate : x.candidate H now with
    | error e =>
      rw [claimIdempotency, hcandidate] at h
      exact .inl ⟨r, h, rfl⟩
    | ok candidate =>
      obtain ⟨-, -, htok, -⟩ := candidate_ok hcandidate
      rw [claim_of_candidate hcandidate] at h ⊢
      rcases reserve_cases (H := H) (s := s) candidate wall with ⟨hsame, -⟩ | ⟨hput, -⟩
      · rw [hsame] at h
        exact .inl ⟨r, h, rfl⟩
      · rw [hput] at h ⊢
        by_cases hkey : key = candidate.key
        · rw [hkey, Store.get_put_self] at h
          obtain rfl := Option.some.inj h
          refine .inr ⟨?_, hkey.symm, congrArg some htok.symm⟩
          rw [Except.map, Reply.of, decide_eq_true rfl]
        · rw [Store.get_put_ne hkey] at h
          exact .inl ⟨r, h, rfl⟩
  | saveResponse key' response now =>
    refine .inl ?_
    rw [next, saveResponse] at h
    cases hget : s.get key' with
    | none =>
      rw [hget] at h
      exact ⟨r, h, rfl⟩
    | some record =>
      have hrecord := Store.key_of_get hget
      rw [hget] at h
      dsimp only at h
      split_ifs at h
      · by_cases hkey : key = key'
        · rw [hkey, Store.get_pop_self] at h
          cases h
        · rw [Store.get_pop_ne hkey] at h
          exact ⟨r, h, rfl⟩
      · cases hresponse : record.response with
        | some _ =>
          rw [hresponse] at h
          exact ⟨r, h, rfl⟩
        | none =>
          rw [hresponse] at h
          dsimp only at h
          by_cases hkey : key = key'
          · have hself := Store.get_put_self (s := s) (r := record.answered (some response))
            rw [show (record.answered (some response)).key = key from hrecord.trans hkey.symm,
              h] at hself
            obtain rfl := Option.some.inj hself
            exact ⟨record, hkey ▸ hget, rfl⟩
          · have hne : key ≠ (record.answered (some response)).key :=
              fun heq => hkey (heq.trans hrecord)
            rw [Store.get_put_ne hne] at h
            exact ⟨r, h, rfl⟩
  | get key' now =>
    refine .inl ?_
    rw [next, getRecord] at h
    cases hget : s.get key' with
    | none =>
      rw [hget] at h
      exact ⟨r, h, rfl⟩
    | some record =>
      rw [hget] at h
      dsimp only at h
      split_ifs at h
      · by_cases hkey : key = key'
        · rw [hkey, Store.get_pop_self] at h
          cases h
        · rw [Store.get_pop_ne hkey] at h
          exact ⟨r, h, rfl⟩
      · exact ⟨r, h, rfl⟩
  | purgeExpired now =>
    refine .inl ⟨r, ?_, rfl⟩
    rw [next, purgeExpired, Store.get_purge, Option.filter_eq_some_iff] at h
    exact h.1

/-- **Every stored record** was owned by a claim. -/
theorem get_after {key : String} : ∀ {pre : List Call} {r : Record},
    (after H secret .empty pre).get key = some r → ∃ pre' call mid r', pre = pre' ++ call :: mid ∧
      Owns H secret pre' call r' ∧ r'.key = key ∧ call.token = some r.claimToken ∧
        r = r'.answered r.response := by
  intro pre
  induction pre using List.reverseRecOn with
  | nil =>
    intro r h
    cases h
  | append_singleton pre call ih =>
    intro r h
    rw [after_append] at h
    rcases get_next h with ⟨r', hget, hr⟩ | ⟨hreply, hkey, htoken⟩
    · obtain ⟨pre', call', mid, r'', rfl, howns, hkey, htoken, hr'⟩ := ih hget
      refine ⟨pre', call', mid ++ [call], r'', by simp, howns, hkey, ?_, ?_⟩
      · rw [htoken, hr]
        rfl
      · rw [hr, hr']
        rfl
    · exact ⟨pre, call, [], r, rfl, hreply, hkey, htoken, rfl⟩

/-- A call in time replies, and acts, as if the wall clock were at the injected time. -/
theorem injected_step {call : Call} (htime : InTime H s call) :
    reply H secret s call = reply H secret s call.injected ∧
      next H secret s call = next H secret s call.injected := by
  cases call with
  | claim x now wall =>
    have hsame :
        claimIdempotency H secret s x now wall = claimIdempotency H secret s x now now := by
      cases hcandidate : x.candidate H now with
      | error e => rw [claim_of_error hcandidate, claim_of_error hcandidate]
      | ok candidate =>
        rw [claim_of_candidate hcandidate, claim_of_candidate hcandidate]
        have hreserve : reserve H secret s candidate wall = reserve H secret s candidate now := by
          have hfound := htime _ (candidate_ok hcandidate).1
          rw [reserve, reserve]
          cases hget : s.get candidate.key with
          | none => rfl
          | some existing =>
            rw [hget] at hfound
            dsimp only
            rw [hfound existing rfl]
        rw [hreserve]
    exact ⟨by rw [Call.injected, reply, reply, hsame], by rw [Call.injected, next, next, hsame]⟩
  | saveResponse key response now => exact ⟨rfl, rfl⟩
  | get key now => exact ⟨rfl, rfl⟩
  | purgeExpired now => exact ⟨rfl, rfl⟩

/-- **The replies depend on the injected times only**, where every claim is in time. -/
theorem replies_injected {calls : List Call} (htime : AllInTime H secret s calls) :
    replies H secret s calls = replies H secret s (calls.map Call.injected) := by
  induction calls generalizing s with
  | nil => rfl
  | cons call calls ih =>
    obtain ⟨hreply, hnext⟩ := injected_step htime.1
    rw [List.map_cons, replies, replies, ← hreply, ← hnext, ih htime.2]

/-- The tokens of a part of a history are not those of another part. -/
theorem token_ne {pre later : List Call} {a b : Call} {token token' : String}
    (h : ((pre ++ later).filterMap Call.token).Nodup) (ha : a ∈ pre) (hb : b ∈ later)
    (hta : a.token = some token) (htb : b.token = some token') : token ≠ token' := by
  rw [List.filterMap_append, List.nodup_append] at h
  exact h.2.2 token (List.mem_filterMap.2 ⟨a, ha, hta⟩) token' (List.mem_filterMap.2 ⟨b, hb, htb⟩)

/-- After a claim that owns, its record is held. -/
theorem held_of_owns {pre rest : List Call} {call : Call}
    (htokens : ((pre ++ call :: rest).filterMap Call.token).Nodup) (h : Owns H secret pre call r) :
    Held H secret (after H secret .empty (pre ++ [call])) r none ∧
      call.token = some r.claimToken := by
  have hput := owner_put h fun record hget token htoken => by
    obtain ⟨pre', call', mid, -, rfl, -, -, hold, -⟩ := get_after hget
    exact token_ne htokens (by simp) List.mem_cons_self hold htoken
  rw [after_append]
  exact hput

/-- **The protocol holds** in every history with injected times that do not go back and fresh
tokens, whose claims are in time. -/
theorem claims_protocol {calls : List Call} (htimes : (calls.map Call.now).Pairwise (· ≤ ·))
    (htokens : (calls.filterMap Call.token).Nodup) (htime : AllInTime H secret .empty calls) :
    Protocol H secret calls := by
  refine ⟨?_, ?_, replies_injected htime⟩
  · intro pre call mid later rest r hcalls howns hlive
    subst hcalls
    obtain ⟨hheld, htoken⟩ := held_of_owns htokens howns
    have hlater : ∀ c ∈ mid ++ [later], c.now < r.expiresAt := by
      intro c hc
      refine lt_of_le_of_lt ?_ hlive
      rw [List.map_append, List.map_cons, List.map_append, List.map_cons, List.pairwise_append,
        List.pairwise_cons, List.pairwise_append] at htimes
      rcases List.mem_append.1 hc with hmid | hlast
      · exact htimes.2.1.2.2.2 _ (List.mem_map_of_mem hmid) _ List.mem_cons_self
      · rw [List.mem_singleton.1 hlast]
    have hfresh : ∀ c ∈ mid ++ [later], ∀ token ∈ c.token, token ≠ r.claimToken := by
      intro c hc token hct
      have hsplit : pre ++ call :: (mid ++ later :: rest) =
          (pre ++ [call]) ++ ((mid ++ [later]) ++ rest) := by simp
      rw [hsplit] at htokens
      exact (token_ne htokens (by simp) (List.mem_append_left _ hc) htoken hct).symm
    have hsplit : pre ++ call :: (mid ++ later :: rest) =
        (pre ++ [call]) ++ (mid ++ (later :: rest)) := by simp
    rw [hsplit, allInTime_append] at htime
    obtain ⟨hmid, hstep, -⟩ := (allInTime_append mid (later :: rest)).1 htime.2
    have hrun := held_run hheld (fun c hc => hlater c (List.mem_append_left _ hc))
      (fun c hc => hfresh c (List.mem_append_left _ hc)) hmid
    have hlast := held_step hrun (hlater later (by simp)) (hfresh later (by simp)) hstep
    rw [Option.none_or, ← firstSaved_append, ← after_append] at hlast
    refine ⟨?_, ?_⟩
    · rw [show pre ++ call :: mid = pre ++ [call] ++ mid by simp]
      exact hlast.1
    · rw [show pre ++ call :: (mid ++ [later]) = (pre ++ [call] ++ mid) ++ [later] by simp,
        after_append]
      exact hlast.2.stored
  · intro pre x now wall rest candidate hcalls hsecret hcandidate hended
    subst hcalls
    rw [allInTime_append] at htime
    obtain ⟨hkey, hfrom, -⟩ := candidate_ok hcandidate
    have hexpired : ∀ e ∈ (after H secret .empty pre).get candidate.key,
        e.isExpired wall = true := by
      intro e he
      rw [htime.2.1 _ hkey e he]
      obtain ⟨pre', call, mid, r, hpre, howns, hr, -, hsame⟩ := get_after (Option.mem_def.1 he)
      have hend := hended pre' call mid r hpre howns hr
      rw [hsame, isExpired_answered, Record.isExpired, decide_eq_true_iff]
      exact hend
    rw [hsecret, ← hfrom] at hkey
    rw [Owns, reply, claim_of_candidate hcandidate, reserve, hkey]
    dsimp only
    rw [if_neg (not_not.2 rfl)]
    cases hget : (after H secret .empty pre).get candidate.key with
    | none =>
      dsimp only
      rw [Except.map, Reply.of, decide_eq_true rfl]
    | some e =>
      rw [hget] at hexpired
      dsimp only
      rw [if_pos (hexpired e rfl), Except.map, Reply.of, decide_eq_true rfl]

end Claims

/-! ## A wall clock that is late -/

/-- Hashes that are their arguments. -/
def plainHashing : Hashing where
  hmac secret jti := secret ++ "/" ++ jti
  fingerprint
    | .str text => text
    | _ => ""

/-- A request under the token of its caller. -/
def plainRequest (token : String) : ClaimRequest :=
  ⟨"jti_1", "secret", "verify", .str "body", token⟩

/-- Two claims a second apart, made 46 days after the injected times. -/
def lateClaims : List Call :=
  [.claim (plainRequest "a") 0 (46 * 86400 * 1000000),
    .claim (plainRequest "b") 1000000 (46 * 86400 * 1000000 + 1000000)]

/-- The record that they offer. -/
def plainRecord (token : String) (createdAt : ℤ) : Record :=
  ⟨"secret/jti_1", "verify", "jti_1", "body", createdAt + idempotencyTtl, none, createdAt, token⟩

/-- **Late claims**: both own the key, a second apart and 45 days before the first record expires;
the second would not if the store read the injected time. -/
theorem claims_late : (lateClaims.map Call.now).Pairwise (· ≤ ·) ∧
    (lateClaims.filterMap Call.token).Nodup ∧
    replies plainHashing "secret" .empty lateClaims =
      [.claimed ⟨plainRecord "a" 0, true⟩, .claimed ⟨plainRecord "b" 1000000, true⟩] ∧
    (1000000 : ℤ) < (plainRecord "a" 0).expiresAt ∧
    replies plainHashing "secret" .empty (lateClaims.map Call.injected) =
      [.claimed ⟨plainRecord "a" 0, true⟩, .claimed ⟨plainRecord "a" 0, false⟩] ∧
    ¬ Protocol plainHashing "secret" lateClaims := by
  have htwo : replies plainHashing "secret" .empty lateClaims =
      [.claimed ⟨plainRecord "a" 0, true⟩, .claimed ⟨plainRecord "b" 1000000, true⟩] := by rfl
  have hone : replies plainHashing "secret" .empty (lateClaims.map Call.injected) =
      [.claimed ⟨plainRecord "a" 0, true⟩, .claimed ⟨plainRecord "a" 0, false⟩] := by rfl
  refine ⟨by decide, by decide, htwo, by decide, hone, fun h => ?_⟩
  have hsame := h.timeless
  rw [htwo, hone] at hsame
  cases hsame

/-- A claim, its response, a retry and another body, each at the time that the wall shows. -/
def promptClaims : List Call :=
  [.claim (plainRequest "a") 0 0, .saveResponse "secret/jti_1" [("decision", .str "APPROVED")] 1,
    .claim (plainRequest "b") 2 2]

theorem claims_protocol_prompt : Protocol plainHashing "secret" promptClaims := by
  refine claims_protocol (by decide) (by decide) ⟨?_, trivial, ?_, trivial⟩
  · intro key _ r hr
    cases hr
  · intro key _ r _
    rfl

end TryTrust.Idempotency
