import TryTrust.Yuno.Settlement

/-!
# Refusals of the rail

A refusal is written into the session of its request and then raised. The exception goes through the
session, which rolls back.

* `capture_cases`: how a capture ends;
* `Recorded`: one refused row of a request, with its reason, in the tables after it;
* `refusal_written`: the session of a refused capture has its row;
* **`refusals_lost`**: the tables never have it.
-/

namespace TryTrust.Yuno

section Refusals

variable {J : Jose} {s : Rail} {x : CaptureRequest} {e : Env}

/-- **How a capture ends**: with an earlier answer, an uncaught exception, a refusal, or a
settlement. -/
theorem capture_cases (J : Jose) (s : Rail) (x : CaptureRequest) (e : Env) :
    (∃ settlement, capture J s x e = (.ok settlement, s)) ∨
      (∃ text, capture J s x e = (.error (.other text), s)) ∨
        (∃ reason message, capture J s x e = refuse s x e reason message) ∨
          ∃ jti hash, capture J s x e = settle s x e jti hash := by
  unfold capture
  cases s.replay x.idempotencyKey with
  | some replay => exact .inl ⟨_, rfl⟩
  | none =>
    dsimp only
    cases s.activeToken x.tokenId with
    | none =>
      dsimp only
      split_ifs
      · exact .inr (.inr (.inl ⟨_, _, rfl⟩))
      · exact .inr (.inr (.inl ⟨_, _, rfl⟩))
    | some token =>
      dsimp only
      cases verifyMandate J s x e with
      | error text => exact .inr (.inl ⟨text, rfl⟩)
      | ok verdict =>
        cases verdict with
        | refused reason detail => exact .inr (.inr (.inl ⟨reason, detail, rfl⟩))
        | ok jti hash => exact .inr (.inr (.inr ⟨jti, hash, rfl⟩))

/-- The row of a refusal. -/
def refusedRow (x : CaptureRequest) (e : Env) (reason : ReasonCode) (amount : Money) : PaymentRow :=
  ⟨e.paymentId, x.tokenId, "unknown", amount, x.currency, .refused, some reason, none, x.intentRef⟩

/-- What a refusal writes into its session. -/
theorem refuse_written {reason reason' : ReasonCode} {message message' : String} {s' : Rail}
    (h : refuse s x e reason message = (.error (.refused reason' message'), s')) :
    ∃ amount, column x.amount = some amount ∧
      s'.payments = s.payments ++ [refusedRow x e reason' amount] := by
  unfold refuse at h
  cases hcolumn : column x.amount with
  | none =>
    rw [hcolumn] at h
    cases h
  | some amount =>
    rw [hcolumn] at h
    dsimp only at h
    split_ifs at h with htaken
    · cases h
    · cases h
      exact ⟨amount, rfl, rfl⟩

theorem settle_not_refused {jti : Json} {hash : Option String} {reason : ReasonCode}
    {message : String} {s' : Rail} :
    settle s x e jti hash ≠ (.error (.refused reason message), s') := by
  intro h
  unfold settle at h
  cases jti with
  | str j =>
    cases hcolumn : column x.amount with
    | none =>
      rw [hcolumn] at h
      cases h
    | some amount =>
      rw [hcolumn] at h
      dsimp only at h
      split_ifs at h with htaken
      · cases hreplay : s.replay x.idempotencyKey with
        | none =>
          rw [hreplay] at h
          cases h
        | some winner =>
          rw [hreplay] at h
          cases h
      · cases h
  | null | bool b | num m scale | arr items | obj fields => cases h

/-- **The session of a refused capture** has the row, with the reason. -/
theorem refusal_written {reason : ReasonCode} {message : String} {s' : Rail}
    (h : capture J s x e = (.error (.refused reason message), s')) :
    ∃ amount, column x.amount = some amount ∧
      s'.payments = s.payments ++ [refusedRow x e reason amount] := by
  rcases capture_cases J s x e with ⟨settlement, hcase⟩ | ⟨text, hcase⟩ |
    ⟨reason', message', hcase⟩ | ⟨jti, hash, hcase⟩
  · rw [hcase] at h
    cases h
  · rw [hcase] at h
    cases h
  · exact refuse_written (hcase.symm.trans h)
  · exact absurd (hcase.symm.trans h) settle_not_refused

/-! ## The tables -/

/-- The rows that a capture leaves are those before it, and captured ones. -/
theorem capture_kept {r : PaymentRow} (h : r ∈ (keptCapture s (capture J s x e)).payments) :
    r ∈ s.payments ∨ r.status = .captured := by
  cases hcapture : capture J s x e with
  | mk answer s' =>
    rw [hcapture] at h
    cases answer with
    | error error => exact .inl h
    | ok settlement =>
      rcases capture_cases J s x e with ⟨_, hcase⟩ | ⟨_, hcase⟩ | ⟨reason, message, hcase⟩ |
        ⟨jti, hash, hcase⟩
      · rw [hcase] at hcapture
        cases hcapture
        exact .inl h
      · rw [hcase] at hcapture
        cases hcapture
      · obtain ⟨error, herror⟩ := refuse_error (s := s) (x := x) (e := e) reason message
        rw [← hcase, hcapture] at herror
        cases herror
      · rcases settle_ok (hcase.symm.trans hcapture) with rfl | ⟨_, _, _, _, _, rfl⟩
        · exact .inl h
        · rcases List.mem_append.1 h with hold | hlast
          · exact .inl hold
          · rw [List.mem_singleton.1 hlast]
            exact .inr rfl

/-- An act leaves the rows before it, and captured ones. -/
theorem captured_step {r : PaymentRow} (a : Act) (h : r ∈ (step J s a).payments) :
    r ∈ s.payments ∨ r.status = .captured := by
  rcases payments_step a h with hold | ⟨x, e, rfl, -⟩
  · exact .inl hold
  · exact capture_kept h

variable (J)

/-- **No row is refused**, after any history. -/
theorem payments_captured (acts : List Act) :
    ∀ r ∈ (run J acts).payments, r.status = .captured := by
  induction acts using List.reverseRecOn with
  | nil =>
    intro r hr
    cases hr
  | append_singleton acts a ih =>
    intro r hr
    rw [run, List.foldl_append] at hr
    rcases captured_step a hr with hold | hcaptured
    · exact ih r hold
    · exact hcaptured

/-- **A refusal is recorded**: the tables after the request have exactly one row of it, which is
refused for the reason. -/
def Recorded (acts : List Act) (x : CaptureRequest) (e : Env) (reason : ReasonCode) : Prop :=
  ∃ r, (∀ r', (r' ∈ (run J (acts ++ [.capture x e])).payments ∧ r'.paymentId = e.paymentId) ↔
    r' = r) ∧ r.status = .refused ∧ r.reasonCode = some reason

/-- **Refusals are lost**: whatever came before, the session of a refused capture has the row, with
the reason, and the tables have none of it when the request has ended. -/
theorem refusals_lost (acts : List Act) (x : CaptureRequest) (e : Env) (reason : ReasonCode)
    (message : String) (h : (capture J (run J acts) x e).1 = .error (.refused reason message)) :
    (∃ amount, (capture J (run J acts) x e).2.payments =
      (run J acts).payments ++ [refusedRow x e reason amount]) ∧ ¬ Recorded J acts x e reason := by
  constructor
  · obtain ⟨amount, -, hwritten⟩ := refusal_written (Prod.ext h rfl : capture J (run J acts) x e =
      (.error (.refused reason message), (capture J (run J acts) x e).2))
    exact ⟨amount, hwritten⟩
  · rintro ⟨r, hrow, hrefused, -⟩
    have hcaptured := payments_captured J _ r ((hrow r).2 rfl).1
    rw [hrefused] at hcaptured
    cases hcaptured

end Refusals

/-! ### An unknown token -/

theorem refusal_lost_unknown : (∃ amount, (capture plainJose (run plainJose [])
    (plainCapture ⟨13002, -2⟩) plainEnv).2.payments = (run plainJose []).payments ++
      [refusedRow (plainCapture ⟨13002, -2⟩) plainEnv .railError amount]) ∧
        ¬ Recorded plainJose [] (plainCapture ⟨13002, -2⟩) plainEnv .railError :=
  refusals_lost plainJose [] (plainCapture ⟨13002, -2⟩) plainEnv .railError "unknown payment token"
    (by decide +kernel)

/-- **A capture with an unknown token** is refused, and nothing is in the tables. -/
theorem unknown_not_recorded :
    (capture plainJose (run plainJose []) (plainCapture ⟨13002, -2⟩) plainEnv).1 =
      .error (.refused .railError "unknown payment token") ∧
        ¬ Recorded plainJose [] (plainCapture ⟨13002, -2⟩) plainEnv .railError := by
  refine ⟨by decide +kernel, ?_⟩
  rintro ⟨r, hrow, -⟩
  have hnone : (run plainJose ([] ++ [.capture (plainCapture ⟨13002, -2⟩) plainEnv])).payments =
      [] := by decide +kernel
  have hmem := ((hrow r).2 rfl).1
  rw [hnone] at hmem
  cases hmem

end TryTrust.Yuno
