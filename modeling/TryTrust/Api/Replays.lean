import TryTrust.Api.Verify
import TryTrust.JsonText

/-!
# Replayed answers

An answer that is kept under an idempotency key, in memory or in a row of the database, and read
back for a later request.

* `packResponse`, `unpackRow`: the row's text, with the request's fingerprint; `Backend`, `stored`;
* `SameAnswer`: all that an answer says, an absent and an empty `diff` identified;
* **`replay_same_answer`**: of every answer, from either store;
* `verify_replays`: the answer of a later request that finds it.
-/

namespace TryTrust.Api.Verify

open Conc DecisionCore
open Idempotency (Record)

/-! ## The stores -/

/-- `_pack_idempotency_response`. -/
def packResponse (record : Record) : String :=
  JsonText.dumps (.obj [("_aval_idempotency", .obj
      [("request_fingerprint", .str record.requestFingerprint),
        ("claim_token", .str record.claimToken)]),
    ("response", (record.response.map Json.obj).getD .null)])

/-- The response of a row, in `_unpack_idempotency_row`; `none` for its exceptions. -/
def unpackRow (text : String) : Option Json :=
  match JsonText.loads text with
  | none => none
  | some value =>
    let metadata : Fields := (fieldsOrNone value).getD []
    match metadata.getD "_aval_idempotency" (.obj []) with
    | .obj marker =>
      if (Fields.getD marker "request_fingerprint" (.str "")).text = "" then none
      else some ((metadata.lookup "response").getD value)
    | _ => none

/-- Where answers are kept: `InMemoryIdempotencyStore`, or `PostgresIdempotencyStore`. -/
inductive Backend where
  | memory
  | postgres

/-- The response that a store has for a record, once it kept one. -/
def stored (b : Backend) (record : Record) (response : Fields) : Option Fields :=
  match b with
  | .memory => some response
  | .postgres => (unpackRow (packResponse (record.answered (some response)))).bind fieldsOrNone

/-- **The same answer**: all ten parts of it. -/
structure SameAnswer (v w : VerificationResult) : Prop where
  decision : w.decision.decision = v.decision.decision
  reasonCode : w.decision.reasonCode = v.decision.reasonCode
  reservationId : w.decision.reservationId = v.decision.reservationId
  purchaseId : w.purchaseId = v.purchaseId
  status : w.status = v.status
  escalationId : w.escalationId = v.escalationId
  diff : w.decision.diff.getD [] = v.decision.diff.getD []
  level : w.decision.level = v.decision.level
  ttlSeconds : w.decision.ttlSeconds = v.decision.ttlSeconds
  requiresUv : w.decision.requiresUv = v.decision.requiresUv

/-! ## The round trip -/

theorem ofDict_same (v : VerificationResult) (fallbackPurchaseId : String) :
    SameAnswer v (ofDict (asDict v) fallbackPurchaseId) := by
  rw [ofDict_asDict]
  exact ⟨rfl, rfl, rfl, rfl, rfl, rfl, rfl, rfl, rfl, rfl⟩

/-- The two answers have one response. -/
theorem SameAnswer.formatResult {v w : VerificationResult} (h : SameAnswer v w) :
    formatResult w = Verify.formatResult v := by
  unfold Verify.formatResult
  rw [h.decision, h.reasonCode, h.reservationId, h.purchaseId, h.status, h.escalationId, h.diff,
    h.level, h.ttlSeconds, h.requiresUv]

theorem distinct_jsonText (x : Option String) : JsonText.Distinct (jsonText x) := by
  cases x <;> exact trivial

theorem distinct_asDict {v : VerificationResult}
    (h : JsonText.Distinct (.obj (v.decision.diff.getD []))) :
    JsonText.Distinct (.obj (asDict v)) := by
  have hcount : JsonText.Distinct (jsonCount v.decision.ttlSeconds) := by
    cases v.decision.ttlSeconds <;> exact trivial
  exact ⟨by simp [asDict], trivial, distinct_jsonText _, distinct_jsonText _, trivial, trivial,
    distinct_jsonText _, h, distinct_jsonText _, hcount, trivial, trivial⟩

/-- A row gives back the response that was written. -/
theorem unpackRow_packResponse {record : Record} {response : Fields}
    (hfingerprint : record.requestFingerprint ≠ "")
    (h : JsonText.Distinct (.obj response)) :
    unpackRow (packResponse (record.answered (some response))) = some (.obj response) := by
  have hdistinct : JsonText.Distinct (.obj [("_aval_idempotency", .obj
      [("request_fingerprint", .str record.requestFingerprint),
        ("claim_token", .str record.claimToken)]), ("response", .obj response)]) :=
    ⟨by simp, ⟨by simp, trivial, trivial, trivial⟩, h, trivial⟩
  have hload : JsonText.loads (packResponse (record.answered (some response))) = _ :=
    JsonText.loads_dumps hdistinct
  unfold unpackRow
  rw [hload]
  exact if_neg hfingerprint

/-- **A kept answer is the same answer**, whatever was decided and wherever it is kept; the `diff`
is a dictionary, and the fingerprint of a request is not empty. -/
theorem replay_same_answer (b : Backend) {record : Record} (v : VerificationResult)
    (fallbackPurchaseId : String) (hfingerprint : record.requestFingerprint ≠ "")
    (hdiff : JsonText.Distinct (.obj (v.decision.diff.getD []))) :
    ∃ response, stored b record (asDict v) = some response ∧
      SameAnswer v (ofDict response fallbackPurchaseId) ∧
      formatResult (ofDict response fallbackPurchaseId) = formatResult v := by
  refine ⟨asDict v, ?_, ofDict_same v _, (ofDict_same v _).formatResult⟩
  cases b with
  | memory => rfl
  | postgres =>
    unfold stored
    rw [unpackRow_packResponse hfingerprint (distinct_asDict hdiff)]
    rfl

/-- An escalation of a purchase above the step-up threshold. -/
def steppedUp : VerificationResult :=
  ⟨⟨.escalated, some .stepupAmountThreshold, none, some [("amount_threshold", .obj
      [("ratio", .str "0.8"), ("amount", .str "90.00"), ("max_per_txn", .str "100.00")])],
    some .l3Plus, some 300, true⟩, "purchase-1", .awaitingEscalation, some "escalation-1"⟩

/-- It comes back from the database. -/
theorem replay_same_answer_steppedUp : ∃ response,
    stored .postgres ⟨"key", "verify", "intent-1", "5f2a", 1, none, 0, "token"⟩
      (asDict steppedUp) = some response ∧ SameAnswer steppedUp (ofDict response "") ∧
        formatResult (ofDict response "") = formatResult steppedUp :=
  replay_same_answer .postgres steppedUp "" (by decide)
    ⟨by decide, ⟨by decide, trivial, trivial, trivial, trivial⟩, trivial⟩

/-! ## A later request -/

/-- A claim that finds an answer of the same request is told of it. -/
theorem claimPort_replay {X : Setting} {p : Posted} {intent : Intent} {key : String}
    (hjti : ¬ (intent.jti = "" ∨ intent.jti = "unknown-intent")) (hderives : Derives X p intent key)
    {e : RouteEnv} {now : ℤ} {T : Idempotency.Store} {r : Record} {response : Fields}
    (hget : T.get key = some r) (hlive : e.wall < r.expiresAt)
    (hsame : ¬ r.differs (p.record X intent key now e.token))
    (hresponse : r.response = some response) :
    claimPort X p e intent now T = (.ok (.replay (ofDict response (p.pid intent))), T) := by
  have hreserve : Idempotency.reserve X.hashing X.storeSecret T
      (p.record X intent key now e.token) e.wall = (.ok r, T) := by
    simp only [Idempotency.reserve, Posted.record, hderives.store, ne_eq, not_true_eq_false,
      if_false, hget, Idempotency.not_expired hlive, Bool.false_eq_true]
    exact if_neg hsame
  rw [claimPort, if_neg hjti, Idempotency.claim_of_candidate (hderives.candidate now e.token),
    hreserve]
  simp only [Except.map, hresponse]

/-- **A replayed request gets the answer that was kept**, and changes nothing. -/
theorem verify_replays {X : Setting} {p : Posted} {d : Draw} {e : RouteEnv} {s : Shared}
    {key : String} {r : Record} {v : VerificationResult}
    (hjti : ¬ ((p.intent X d.uid).jti = "" ∨ (p.intent X d.uid).jti = "unknown-intent"))
    (hderives : Derives X p (p.intent X d.uid) key) (hget : s.idempotency.get key = some r)
    (hlive : e.wall < r.expiresAt)
    (hsame : ¬ r.differs (p.record X (p.intent X d.uid) key d.now e.token))
    (hresponse : r.response = some (asDict v)) :
    ∃ w, (verify X.deps (p.request X d)).run (sem X p e) s = (.ok w, s) ∧ SameAnswer v w := by
  refine ⟨ofDict (asDict v) (p.pid (p.intent X d.uid)), ?_, ofDict_same v _⟩
  have hclaim := claimPort_replay hjti hderives hget hlive hsame hresponse
  have hport : (port .verifyClaim (.claimIdempotency (p.intent X d.uid) d.now)).run (sem X p e) s =
      (.ok (.replay (ofDict (asDict v) (p.pid (p.intent X d.uid)))), s) := by
    refine (Prog.run_perform (sem X p e) ⟨.verifyClaim, .claimIdempotency (p.intent X d.uid) d.now⟩
      s).trans ?_
    show ((claimPort X p e (p.intent X d.uid) d.now s.idempotency).1,
      { s with
        idempotency := (claimPort X p e (p.intent X d.uid) d.now s.idempotency).2 }) = _
    rw [hclaim]
    rfl
  have hattempt := Prog.run_attempt (sem X p e)
    (port .verifyClaim (.claimIdempotency (p.intent X d.uid) d.now)) s
  rw [hport] at hattempt
  exact Prog.run_bind_ok (sem X p e) hattempt

end TryTrust.Api.Verify
