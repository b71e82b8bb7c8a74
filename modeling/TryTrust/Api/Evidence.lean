import TryTrust.CanonicalJson

/-!
# The evidence pack of a purchase

`EvidenceService.assemble` joins the purchase, the claims of a mandate, an intent, a slice of the
ledger and a checkpoint. It reads all of them under the `jti` of the intent.

* `ChainVerdict`, `EvidencePack`, whose integrity follows from its reasons; `Readers`, the stores;
* `decisionSnapshot`, `failures`, `packParts`, `packDigest`; `assemble`;
* `Complete`: nothing is missing under a `jti`; `failures_eq_nil`; `Usable`; **`assembled_ok_iff`**:
  when a pack is reported as ok;
* `Contains`, `EvidenceComplete`: what a pack is for; `SameAnswers`; **`evidence_complete_iff`**: it
  is, unless the readers answer differently for the intent and for the mandate.
-/

namespace TryTrust.Api.Evidence

/-! ## Packs -/

/-- `ChainVerdict`. -/
structure ChainVerdict where
  ok : Bool
  firstBadSeq : Option ℕ := none
  reason : Option String := none
  reasoned : ok = false → reason.getD "" ≠ ""
  sound : ok = true → firstBadSeq = none

/-- `INTEGRITY_OK` and `INTEGRITY_FAILED`. -/
inductive Integrity where
  | ok
  | failed
  deriving DecidableEq, Repr

/-- `EvidencePack`. -/
structure EvidencePack where
  purchaseId : String
  mandateJti : String
  integrity : Integrity
  generatedAt : ℤ
  digest : String
  mandateClaims : Option Fields
  intent : Option Fields
  decision : Option Fields
  receipt : Option Fields
  ledgerEvents : List Fields
  chain : ChainVerdict
  rootCheckpoint : Option Fields
  failureReasons : List String
  named : purchaseId ≠ "" ∧ mandateJti ≠ ""
  coherent : integrity = .failed ↔ failureReasons ≠ []

/-- The stores that a pack is read from. -/
structure Readers where
  purchase : String → Option Fields
  claims : String → Option Fields
  intent : String → Option Fields
  receipt : String → Option Fields
  events : String → List Fields
  chainVerdict : String → ChainVerdict
  latestCheckpoint : String → Option Fields

/-- The exceptions. -/
inductive Err where
  /-- `EvidenceNotFoundError`. -/
  | notFound (message : String)
  | value (message : String)
  | type (message : String)
  deriving DecidableEq

/-! ## Assembling -/

/-- `str(purchase.get(key, "") or "")`. -/
def textOf (purchase : Fields) (key : String) : String :=
  ((purchase.getD key (.str "")).orElse (.str "")).text

/-- `_decision_snapshot`. -/
def decisionSnapshot (purchase : Fields) : Option Fields :=
  let status := purchase.get "status"
  if status.truthy then
    some (("status", .str status.text) ::
      ["reason_code", "reservation_id", "escalation_id", "captured_at"].filterMap fun key =>
        match purchase.get key with
        | .null => none
        | value => some (key, value))
  else none

/-- A reason, when there is one. -/
def reasonIf (failed : Bool) (reason : String) : List String := if failed then [reason] else []

/-- The reasons that `assemble` collects. -/
def failures (r : Readers) (purchase : Fields) (jti : String) : List String :=
  reasonIf (r.claims jti).isNone "mandate-claims-missing" ++
  reasonIf (r.intent jti).isNone "intent-missing" ++
  reasonIf (decisionSnapshot purchase).isNone "decision-missing" ++
  reasonIf (r.events jti).isEmpty "ledger-slice-empty" ++
  reasonIf (!(r.chainVerdict jti).ok)
    ("chain-failed:" ++ ((r.chainVerdict jti).reason.getD "None")) ++
  reasonIf (r.latestCheckpoint jti).isNone "root-checkpoint-missing"

/-- A dictionary, or nothing. -/
def orNull (value : Option Fields) : Json := (value.map Json.obj).getD .null

/-- `pack_parts`. -/
def packParts (r : Readers) (purchaseId : String) (purchase : Fields) (jti : String) : Fields :=
  [("purchase_id", .str purchaseId), ("mandate_jti", .str jti),
    ("mandate_claims", orNull (r.claims jti)), ("intent", orNull (r.intent jti)),
    ("decision", orNull (decisionSnapshot purchase)), ("receipt", orNull (r.receipt purchaseId)),
    ("ledger_events", .arr ((r.events jti).map Json.obj)),
    ("chain", .obj [("ok", .bool (r.chainVerdict jti).ok),
      ("first_bad_seq", ((r.chainVerdict jti).firstBadSeq.map fun n => Json.num n 0).getD .null)]),
    ("root_checkpoint", orNull (r.latestCheckpoint jti))]

/-- `pack_digest`; `none` when the parts have a float. -/
def packDigest (sha256Hex : String → String) (parts : Fields) : Option String :=
  (canonicalText (.obj parts)).map sha256Hex

/-- **`assemble`.** -/
def assemble (sha256Hex : String → String) (r : Readers) (purchaseId : String) (now : ℤ) :
    Except Err EvidencePack :=
  match r.purchase purchaseId with
  | none => .error (.notFound ("unknown purchase: " ++ purchaseId))
  | some purchase =>
    let mandateJti := textOf purchase "intent_jti"
    if hjti : mandateJti = "" then
      .error (.value ("purchase " ++ purchaseId ++ " has no intent_jti"))
    else
      match packDigest sha256Hex (packParts r purchaseId purchase mandateJti) with
      | none => .error (.type "floating point numbers are forbidden in canonical serialization")
      | some digest =>
        if hid : purchaseId = "" then
          .error (.value "evidence packs require purchase_id and mandate_jti")
        else
          .ok
            { purchaseId
              mandateJti
              integrity := if failures r purchase mandateJti = [] then .ok else .failed
              generatedAt := now
              digest
              mandateClaims := r.claims mandateJti
              intent := r.intent mandateJti
              decision := decisionSnapshot purchase
              receipt := r.receipt purchaseId
              ledgerEvents := r.events mandateJti
              chain := r.chainVerdict mandateJti
              rootCheckpoint := r.latestCheckpoint mandateJti
              failureReasons := failures r purchase mandateJti
              named := ⟨hid, hjti⟩
              coherent := by split_ifs with h <;> simp [h] }

/-! ## Reported as ok -/

/-- **Nothing is missing** of a purchase and its intent, with the claims, the ledger slice and the
checkpoint under a `jti`. -/
structure Complete (r : Readers) (purchase : Fields) (jti : String) : Prop where
  status : (purchase.get "status").truthy = true
  claims : r.claims jti ≠ none
  intent : r.intent (textOf purchase "intent_jti") ≠ none
  events : r.events jti ≠ []
  chain : (r.chainVerdict jti).ok = true
  checkpoint : r.latestCheckpoint jti ≠ none

/-- What `assemble` can serialise at all. -/
structure Usable (r : Readers) (purchaseId : String) (purchase : Fields) : Prop where
  purchaseId_ne : purchaseId ≠ ""
  jti_ne : textOf purchase "intent_jti" ≠ ""
  no_float : canonicalText
    (.obj (packParts r purchaseId purchase (textOf purchase "intent_jti"))) ≠ none

section Assembled

variable {sha256Hex : String → String} {r : Readers} {purchaseId : String} {purchase : Fields}
  {now : ℤ} {pack : EvidencePack}

theorem reasonIf_eq_nil {failed : Bool} {reason : String} :
    reasonIf failed reason = [] ↔ failed = false := by
  cases failed <;> simp [reasonIf]

theorem decisionSnapshot_ne : decisionSnapshot purchase ≠ none ↔
    (purchase.get "status").truthy = true := by
  unfold decisionSnapshot
  dsimp only
  split_ifs with h <;> simp [h]

/-- **No reason** is collected when nothing is missing under the intent's `jti`. -/
theorem failures_eq_nil : failures r purchase (textOf purchase "intent_jti") = [] ↔
    Complete r purchase (textOf purchase "intent_jti") := by
  unfold failures
  simp only [List.append_eq_nil_iff, reasonIf_eq_nil, Option.isNone_eq_false_iff,
    Option.isSome_iff_ne_none, List.isEmpty_eq_false_iff, Bool.not_eq_false', decisionSnapshot_ne]
  constructor
  · rintro ⟨⟨⟨⟨⟨hclaims, hintent⟩, hstatus⟩, hevents⟩, hchain⟩, hcheckpoint⟩
    exact ⟨hstatus, hclaims, hintent, hevents, hchain, hcheckpoint⟩
  · intro h
    exact ⟨⟨⟨⟨⟨h.claims, h.intent⟩, h.status⟩, h.events⟩, h.chain⟩, h.checkpoint⟩

/-- What a pack holds of a purchase, under a `jti`. -/
structure Contains (pack : EvidencePack) (r : Readers) (purchase : Fields) (jti : String) :
    Prop where
  decision : pack.decision = decisionSnapshot purchase
  claims : pack.mandateClaims = r.claims jti
  intent : pack.intent = r.intent (textOf purchase "intent_jti")
  events : pack.ledgerEvents = r.events jti
  chain : pack.chain = r.chainVerdict jti
  checkpoint : pack.rootCheckpoint = r.latestCheckpoint jti

/-- **The pack**, when its parts can be serialised. -/
theorem assemble_usable (sha256Hex : String → String) (now : ℤ)
    (hpurchase : r.purchase purchaseId = some purchase) (h : Usable r purchaseId purchase) : ∃ pack,
      assemble sha256Hex r purchaseId now = .ok pack ∧
      Contains pack r purchase (textOf purchase "intent_jti") ∧
      (pack.integrity = .ok ↔ Complete r purchase (textOf purchase "intent_jti")) := by
  obtain ⟨text, htext⟩ := Option.ne_none_iff_exists'.1 h.no_float
  unfold assemble packDigest
  rw [hpurchase]
  dsimp only
  rw [dif_neg h.jti_ne, htext]
  dsimp only [Option.map_some]
  rw [dif_neg h.purchaseId_ne]
  refine ⟨_, rfl, ⟨rfl, rfl, rfl, rfl, rfl, rfl⟩, ?_⟩
  rw [← failures_eq_nil]
  dsimp only
  split_ifs with hfailures <;> simp [hfailures]

/-- Without them there is none. -/
theorem usable_of_assemble (hpurchase : r.purchase purchaseId = some purchase)
    (h : assemble sha256Hex r purchaseId now = .ok pack) : Usable r purchaseId purchase := by
  unfold assemble packDigest at h
  rw [hpurchase] at h
  dsimp only at h
  by_cases hjti : textOf purchase "intent_jti" = ""
  · rw [dif_pos hjti] at h
    cases h
  rw [dif_neg hjti] at h
  cases htext : canonicalText
      (.obj (packParts r purchaseId purchase (textOf purchase "intent_jti"))) with
  | none =>
    rw [htext] at h
    cases h
  | some text =>
    rw [htext] at h
    dsimp only [Option.map_some] at h
    by_cases hid : purchaseId = ""
    · rw [dif_pos hid] at h
      cases h
    exact ⟨hid, hjti, by rw [htext]; exact Option.some_ne_none text⟩

/-- **A pack is reported as ok** when nothing is missing under the intent's `jti`. -/
theorem assembled_ok_iff (sha256Hex : String → String) (now : ℤ)
    (hpurchase : r.purchase purchaseId = some purchase) :
    (∃ pack, assemble sha256Hex r purchaseId now = .ok pack ∧ pack.integrity = .ok) ↔
      Usable r purchaseId purchase ∧ Complete r purchase (textOf purchase "intent_jti") := by
  constructor
  · rintro ⟨pack, hpack, hok⟩
    have husable := usable_of_assemble hpurchase hpack
    obtain ⟨pack', hpack', -, hiff⟩ := assemble_usable sha256Hex now hpurchase husable
    obtain rfl := Except.ok.inj (hpack.symm.trans hpack')
    exact ⟨husable, hiff.1 hok⟩
  · rintro ⟨husable, hcomplete⟩
    obtain ⟨pack, hpack, -, hiff⟩ := assemble_usable sha256Hex now hpurchase husable
    exact ⟨pack, hpack, hiff.2 hcomplete⟩

theorem contains_of_assemble (hpurchase : r.purchase purchaseId = some purchase)
    (h : assemble sha256Hex r purchaseId now = .ok pack) :
    Contains pack r purchase (textOf purchase "intent_jti") := by
  have husable := usable_of_assemble hpurchase h
  obtain ⟨pack', hpack', hcontains, -⟩ := assemble_usable sha256Hex now hpurchase husable
  obtain rfl := Except.ok.inj (h.symm.trans hpack')
  exact hcontains

end Assembled

/-! ## What a pack is for -/

/-- **A pack is reported as ok** exactly when nothing is missing of the purchase, its intent and its
mandate, and it holds just that. -/
structure EvidenceComplete (sha256Hex : String → String) (r : Readers) (purchaseId : String)
    (purchase : Fields) (now : ℤ) : Prop where
  reported : (∃ pack, assemble sha256Hex r purchaseId now = .ok pack ∧ pack.integrity = .ok) ↔
    Complete r purchase (textOf purchase "mandate_id")
  contents : ∀ pack, assemble sha256Hex r purchaseId now = .ok pack → pack.integrity = .ok →
    Contains pack r purchase (textOf purchase "mandate_id")

/-- The readers answer the same for the `jti` of the intent as for the one of the mandate. -/
structure SameAnswers (r : Readers) (intentJti mandateJti : String) : Prop where
  claims : r.claims intentJti = r.claims mandateJti
  events : r.events intentJti = r.events mandateJti
  chain : r.chainVerdict intentJti = r.chainVerdict mandateJti
  checkpoint : r.latestCheckpoint intentJti = r.latestCheckpoint mandateJti

theorem SameAnswers.complete_iff {r : Readers} {purchase : Fields} {intentJti mandateJti : String}
    (h : SameAnswers r intentJti mandateJti) :
    Complete r purchase intentJti ↔ Complete r purchase mandateJti := by
  constructor
  · rintro ⟨hstatus, hclaims, hintent, hevents, hchain, hcheckpoint⟩
    exact ⟨hstatus, h.claims ▸ hclaims, hintent, h.events ▸ hevents, h.chain ▸ hchain,
      h.checkpoint ▸ hcheckpoint⟩
  · rintro ⟨hstatus, hclaims, hintent, hevents, hchain, hcheckpoint⟩
    exact ⟨hstatus, h.claims ▸ hclaims, hintent, h.events ▸ hevents, h.chain ▸ hchain,
      h.checkpoint ▸ hcheckpoint⟩

/-- **A pack is what it is for** as long as the readers answer the same for the intent and for the
mandate, wherever one of them is complete. -/
theorem evidence_complete_iff {sha256Hex : String → String} {r : Readers} {purchaseId : String}
    {purchase : Fields} {now : ℤ} (hpurchase : r.purchase purchaseId = some purchase) :
    EvidenceComplete sha256Hex r purchaseId purchase now ↔
      ((Usable r purchaseId purchase ∧ Complete r purchase (textOf purchase "intent_jti")) ∨
          Complete r purchase (textOf purchase "mandate_id") →
        Usable r purchaseId purchase ∧
          SameAnswers r (textOf purchase "intent_jti") (textOf purchase "mandate_id")) := by
  have hok := assembled_ok_iff sha256Hex now hpurchase
  constructor
  · rintro ⟨hreported, hcontents⟩ hcomplete
    have hpack : ∃ pack, assemble sha256Hex r purchaseId now = .ok pack ∧ pack.integrity = .ok :=
      hcomplete.elim hok.2 hreported.2
    obtain ⟨pack, hassemble, hintegrity⟩ := hpack
    have hintent := contains_of_assemble hpurchase hassemble
    have hmandate := hcontents pack hassemble hintegrity
    exact ⟨usable_of_assemble hpurchase hassemble, hintent.claims.symm.trans hmandate.claims,
      hintent.events.symm.trans hmandate.events, hintent.chain.symm.trans hmandate.chain,
      hintent.checkpoint.symm.trans hmandate.checkpoint⟩
  · intro h
    refine ⟨⟨fun hpack => ?_, fun hcomplete => ?_⟩, fun pack hassemble hintegrity => ?_⟩
    · have hcomplete := hok.1 hpack
      exact (h (.inl hcomplete)).2.complete_iff.1 hcomplete.2
    · obtain ⟨husable, hsame⟩ := h (.inr hcomplete)
      exact hok.2 ⟨husable, hsame.complete_iff.2 hcomplete⟩
    · obtain ⟨-, hsame⟩ := h (.inl (hok.1 ⟨pack, hassemble, hintegrity⟩))
      have hcontains := contains_of_assemble hpurchase hassemble
      exact ⟨hcontains.decision, hcontains.claims.trans hsame.claims, hcontains.intent,
        hcontains.events.trans hsame.events, hcontains.chain.trans hsame.chain,
        hcontains.checkpoint.trans hsame.checkpoint⟩

/-! ## Two identifiers -/

/-- A captured purchase of the mandate `mnd_1`. -/
def captured (intentJti : String) : Fields :=
  [("purchase_id", .str "pur_1"), ("mandate_id", .str "mnd_1"), ("intent_jti", .str intentJti),
    ("status", .str "captured")]

/-- Stores with one purchase, its intent, and all of its mandate under the mandate's `jti`. -/
def oneMandate (intentJti : String) : Readers where
  purchase id := if id = "pur_1" then some (captured intentJti) else none
  claims jti := if jti = "mnd_1" then some [("jti", .str "mnd_1")] else none
  intent jti := if jti = intentJti then some [("jti", .str intentJti)] else none
  receipt _ := none
  events jti := if jti = "mnd_1" then [[("seq", .num 1 0)]] else []
  chainVerdict _ := ⟨true, none, none, by simp, by simp⟩
  latestCheckpoint jti := if jti = "mnd_1" then some [("seq_end", .num 1 0)] else none

/-- An intent with the `jti` of its mandate. -/
theorem evidence_one_jti :
    EvidenceComplete id (oneMandate "mnd_1") "pur_1" (captured "mnd_1") 0 :=
  (evidence_complete_iff rfl).2 fun _ =>
    ⟨⟨by decide, by decide, Option.isSome_iff_ne_none.1 (by decide +kernel)⟩, rfl, rfl, rfl, rfl⟩

/-- **An intent with a `jti` of its own**: nothing is missing, and no pack is reported as ok. -/
theorem evidence_two_jtis :
    ¬ EvidenceComplete id (oneMandate "int_1") "pur_1" (captured "int_1") 0 := by
  intro h
  have hcomplete : Complete (oneMandate "int_1") (captured "int_1")
      (textOf (captured "int_1") "mandate_id") :=
    ⟨by decide, Option.isSome_iff_ne_none.1 (by decide),
      Option.isSome_iff_ne_none.1 (by decide), List.cons_ne_nil _ _, rfl,
      Option.isSome_iff_ne_none.1 (by decide)⟩
  have hintent := ((assembled_ok_iff id 0 rfl).1 (h.reported.2 hcomplete)).2
  exact hintent.claims rfl

end TryTrust.Api.Evidence
