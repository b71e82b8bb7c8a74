import TryTrust.CanonicalJson

/-!
# Canonical texts and hashes of the audit tables

The pre-images of the two writers' hashes. SHA-256 and the root signature come with what is
documented of them: a digest is 64 hexadecimal digits, a signature is not empty.

* `canonicalJson`, the canonical text or the ledger's refusal of floats;
* `Instant`, with the texts of a time that are stored and hashed;
* `Crypto`, the primitives; `computeEventHash`, `computeRootHash`: the hashes of the API ledger;
* `strip`, `hex`, `fromHex`; **`strip_hex64`**: a digest has nothing to strip.
-/

namespace TryTrust.Audit

/-- The exceptions of both writers. -/
inductive AuditErr where
  | value (message : String)
  | type (message : String)
  | runtime (message : String)
  | nonCanonical (message : String)
  | database
  deriving DecidableEq, Repr

/-- `canonical_json` of the API ledger. -/
def canonicalJson (value : Json) : Except AuditErr String :=
  match canonicalText value with
  | some text => .ok text
  | none => .error (.type "floating point numbers are forbidden in canonical audit serialization")

/-! ## Lists of computations -/

/-- The results of a list of computations that succeed. -/
theorem mapM_forall₂ {α β ε : Type} {f : α → Except ε β} {l : List α} {ys : List β}
    (h : l.mapM f = .ok ys) : List.Forall₂ (fun x y => f x = .ok y) l ys := by
  induction l generalizing ys with
  | nil =>
    rw [List.mapM_nil] at h
    obtain rfl := Except.ok.inj h
    exact .nil
  | cons x l ih =>
    rw [List.mapM_cons] at h
    simp only [bind, Except.bind, pure, Except.pure] at h
    cases hx : f x with
    | error e =>
      rw [hx] at h
      cases h
    | ok y =>
      rw [hx] at h
      cases hl : l.mapM f with
      | error e =>
        simp only [hl] at h
        cases h
      | ok zs =>
        simp only [hl] at h
        obtain rfl := Except.ok.inj h
        exact .cons hx (ih hl)

theorem mapM_of_forall {α β ε : Type} {f : α → Except ε β} {l : List α}
    (h : ∀ x ∈ l, ∃ y, f x = .ok y) : ∃ ys, l.mapM f = .ok ys := by
  induction l with
  | nil => exact ⟨[], rfl⟩
  | cons x l ih =>
    obtain ⟨y, hy⟩ := h x List.mem_cons_self
    obtain ⟨ys, hys⟩ := ih fun z hz => h z (List.mem_cons_of_mem _ hz)
    refine ⟨y :: ys, ?_⟩
    rw [List.mapM_cons, hy, hys]
    rfl

/-- No collision, checked one pair after another. -/
theorem injOn_of_pairwise {α β : Type} {f : α → β} {l : List α}
    (h : l.Pairwise fun x y => f x = f y → x = y) : Set.InjOn f {x | x ∈ l} := by
  intro x hx y hy heq
  have : Std.Symm fun x y => f x = f y → x = y := ⟨fun x y h heq => (h heq.symm).symm⟩
  exact h.forall_of_forall (fun _ _ _ => rfl) hx hy heq

/-! ## Times -/

/-- An instant: the `isoformat()` of its UTC datetime without the offset. -/
abbrev Instant : Type := String

/-- `ts.replace(microsecond=0)`. -/
def Instant.truncate (t : Instant) : Instant := String.ofList (t.toList.takeWhile (· ≠ '.'))

/-- `isoformat()`, the text that is stored. -/
def Instant.iso (t : Instant) : String := t ++ "+00:00"

/-- `normalize_utc`, the text that is hashed. -/
def normalizeUtc (t : Instant) : String := t ++ "Z"

/-- `_parse_iso` of a stored text. -/
def parseIso (text : String) : Option Instant :=
  if "+00:00".toList.isSuffixOf text.toList then
    some (String.ofList (text.toList.take (text.toList.length - 6)))
  else none

theorem parseIso_iso (t : Instant) : parseIso t.iso = some t := by
  have hsuffix : "+00:00".toList.isSuffixOf t.iso.toList = true := by
    rw [List.isSuffixOf_iff_suffix, Instant.iso, String.toList_append]
    exact List.suffix_append _ _
  have htake : t.iso.toList.take (t.iso.toList.length - 6) = t.toList := by
    rw [Instant.iso, String.toList_append, List.length_append]
    exact List.take_left' (by simp)
  rw [parseIso, if_pos hsuffix, htake, String.ofList_toList]

/-! ## Hexadecimal texts -/

/-- The characters of a digest. -/
def isHexChar (c : Char) : Bool := ('0' ≤ c && c ≤ '9') || ('a' ≤ c && c ≤ 'f')

/-- A text of 64 hexadecimal digits. -/
def IsHex64 (s : String) : Prop := s.length = 64 ∧ ∀ c ∈ s.toList, isHexChar c = true

/-- `str.strip()`. -/
def strip (s : String) : String :=
  String.ofList (((s.toList.dropWhile Char.isWhitespace).reverse.dropWhile
    Char.isWhitespace).reverse)

/-- `bytes.hex()`. -/
def hex (bytes : List UInt8) : String :=
  String.ofList (bytes.flatMap fun b => [hexDigit (b.toNat / 16), hexDigit (b.toNat % 16)])

/-- The value of a hexadecimal digit, of either case. -/
def hexValue (c : Char) : Option ℕ :=
  if '0' ≤ c ∧ c ≤ '9' then some (c.toNat - 48)
  else if 'a' ≤ c ∧ c ≤ 'f' then some (c.toNat - 87)
  else if 'A' ≤ c ∧ c ≤ 'F' then some (c.toNat - 55)
  else none

/-- `bytes.fromhex`; blanks between bytes are skipped. -/
def fromHexChars : List Char → Option (List UInt8)
  | [] => some []
  | [c] => if c.isWhitespace then some [] else none
  | c :: d :: rest =>
    if c.isWhitespace then fromHexChars (d :: rest)
    else (hexValue c).bind fun high => (hexValue d).bind fun low =>
      (fromHexChars rest).map (UInt8.ofNat (16 * high + low) :: ·)

/-- `bytes.fromhex` of a text. -/
def fromHex (s : String) : Option (List UInt8) := fromHexChars s.toList

/-- A digit read back. -/
theorem hexDigit_value {n : ℕ} (h : n < 16) :
    hexValue (hexDigit n) = some n ∧ (hexDigit n).isWhitespace = false := by
  interval_cases n <;> exact ⟨by decide, by decide⟩

theorem hexDigit_isHex {n : ℕ} (h : n < 16) : isHexChar (hexDigit n) = true := by
  interval_cases n <;> decide

/-- **Bytes** read back from their hexadecimal text. -/
theorem fromHex_hex (bytes : List UInt8) : fromHex (hex bytes) = some bytes := by
  rw [fromHex, hex, String.toList_ofList]
  induction bytes with
  | nil => rfl
  | cons b bytes ih =>
    have hb : b.toNat < 256 := b.toNat_lt
    obtain ⟨hhigh, hblank⟩ := hexDigit_value (n := b.toNat / 16) (by omega)
    obtain ⟨hlow, -⟩ := hexDigit_value (n := b.toNat % 16) (by omega)
    have hbyte : UInt8.ofNat (16 * (b.toNat / 16) + b.toNat % 16) = b := by
      rw [Nat.div_add_mod]
      exact UInt8.ofNat_toNat
    rw [List.flatMap_cons, List.cons_append, List.cons_append, List.nil_append, fromHexChars,
      hblank, if_neg Bool.false_ne_true, hhigh, hlow, Option.bind_some, Option.bind_some, ih,
      hbyte]
    rfl

/-- The text of some bytes is not empty. -/
theorem hex_ne_empty {bytes : List UInt8} (h : bytes ≠ []) : hex bytes ≠ "" := by
  intro hhex
  have hlist := congrArg String.toList hhex
  rw [hex, String.toList_ofList] at hlist
  cases bytes with
  | nil => exact h rfl
  | cons b bytes => cases hlist

theorem isWhitespace_of_isHexChar {c : Char} (h : isHexChar c = true) : c.isWhitespace = false := by
  by_contra hw
  rw [Bool.not_eq_false] at hw
  simp only [Char.isWhitespace, Bool.or_eq_true, decide_eq_true_eq] at hw
  rcases hw with ((rfl | rfl) | rfl) | rfl <;> exact absurd h (by decide)

theorem dropWhile_hex {l : List Char} (h : ∀ c ∈ l, isHexChar c = true) :
    l.dropWhile Char.isWhitespace = l := by
  cases l with
  | nil => rfl
  | cons c l =>
    rw [List.dropWhile_cons_of_neg]
    rw [isWhitespace_of_isHexChar (h c List.mem_cons_self)]
    exact Bool.false_ne_true

/-- **A digest has nothing to strip.** -/
theorem strip_hex64 {s : String} (h : IsHex64 s) : strip s = s := by
  have hrev : ∀ c ∈ s.toList.reverse, isHexChar c = true := fun c hc =>
    h.2 c (List.mem_reverse.1 hc)
  rw [strip, dropWhile_hex h.2, dropWhile_hex hrev, List.reverse_reverse, String.ofList_toList]

/-! ## Hashes -/

/-- The cryptographic primitives. -/
structure Crypto where
  /-- The hexadecimal SHA-256 of a text's UTF-8 bytes. -/
  sha256 : String → String
  sha256_hex : ∀ s, IsHex64 (sha256 s)
  /-- The root signature of a text's UTF-8 bytes. -/
  sign : String → List UInt8
  sign_ne_nil : ∀ s, sign s ≠ []
  /-- The check of a root signature. -/
  verify : String → List UInt8 → Bool

/-- The hash before the first event. -/
def genesisPrevHash : String := String.ofList (List.replicate 64 '0')

theorem genesis_hex64 : IsHex64 genesisPrevHash := by
  unfold genesisPrevHash
  refine ⟨by rw [String.length_ofList, List.length_replicate], fun c hc => ?_⟩
  rw [String.toList_ofList] at hc
  rw [List.eq_of_mem_replicate hc]
  decide

/-- A polynomial in a text's bytes. -/
def polynomial (s : String) : ℕ :=
  s.toByteArray.data.toList.foldl (fun n b => (31 * n + b.toNat) % 2 ^ 32) 7

/-- Its digits. -/
def polynomialHash (s : String) : String :=
  String.ofList (List.replicate 56 '0' ++ (List.range 8).map fun i =>
    hexDigit (polynomial s / 16 ^ i % 16))

theorem polynomialHash_hex (s : String) : IsHex64 (polynomialHash s) := by
  rw [IsHex64, polynomialHash, String.length_ofList, String.toList_ofList]
  refine ⟨by simp, fun c hc => ?_⟩
  rcases List.mem_append.1 hc with hc | hc
  · rw [List.eq_of_mem_replicate hc]
    decide
  · obtain ⟨i, -, rfl⟩ := List.mem_map.1 hc
    exact hexDigit_isHex (Nat.mod_lt _ (by decide))

/-- Primitives that can be run: a polynomial for a hash, the bytes themselves for a signature. -/
def textCrypto : Crypto where
  sha256 := polynomialHash
  sha256_hex := polynomialHash_hex
  sign s := 1 :: s.toByteArray.data.toList
  sign_ne_nil _ := List.cons_ne_nil _ _
  verify s sig := sig = 1 :: s.toByteArray.data.toList

variable (K : Crypto)

/-- What an event's hash covers. -/
def eventEnvelope (mandateId type : String) (payload : Json) (prevHash : String)
    (createdAt : Instant) : Json :=
  .obj [("created_at", .str (normalizeUtc createdAt)), ("mandate_id", .str mandateId),
    ("payload", payload), ("prev_hash", .str prevHash), ("type", .str type)]

/-- `compute_event_hash`. -/
def computeEventHash (mandateId type : String) (payload : Json) (prevHash : String)
    (createdAt : Instant) : Except AuditErr String :=
  if mandateId = "" then .error (.value "mandate_id cannot be empty")
  else if type = "" then .error (.value "event type cannot be empty")
  else if prevHash = "" ∨ prevHash.length ≠ 64 then
    .error (.value "prev_hash must be a 64-character hex string")
  else do
    let text ← canonicalJson (eventEnvelope mandateId type payload prevHash createdAt)
    pure (K.sha256 text)

/-- What a root hash covers. -/
def rootEnvelope (seqStart seqEnd : ℤ) (lastHash : String) (cardinality : ℤ) : Json :=
  .obj [("cardinality", .num cardinality 0), ("last_hash", .str lastHash),
    ("seq_end", .num seqEnd 0), ("seq_start", .num seqStart 0)]

/-- `compute_root_hash`. -/
def computeRootHash (seqStart seqEnd : ℤ) (lastHash : String) (cardinality : ℤ) :
    Except AuditErr String :=
  if seqStart < 1 ∨ seqEnd < seqStart then
    .error (.value "invalid sequence range for root computation")
  else if cardinality ≠ seqEnd - seqStart + 1 then
    .error (.value "cardinality must equal seq_end - seq_start + 1")
  else if lastHash = "" ∨ lastHash.length ≠ 64 then
    .error (.value "last_hash must be a 64-character hex string")
  else do
    let text ← canonicalJson (rootEnvelope seqStart seqEnd lastHash cardinality)
    pure (K.sha256 text)

variable {K}

theorem IsHex64.ne_empty {s : String} (h : IsHex64 s) : ¬ (s = "" ∨ s.length ≠ 64) := by
  rintro (rfl | hne)
  · exact absurd h.1 (by decide)
  · exact hne h.1

theorem canonicalJson_ok {value : Json} {text : String} (h : canonicalJson value = .ok text) :
    canonicalText value = some text := by
  rw [canonicalJson] at h
  cases hc : canonicalText value with
  | none => rw [hc] at h; cases h
  | some t =>
    rw [hc] at h
    rw [Except.ok.inj h]

/-- What a computed event hash says of its input. -/
theorem computeEventHash_ok {mandateId type : String} {payload : Json} {prevHash : String}
    {createdAt : Instant} {hash : String}
    (h : computeEventHash K mandateId type payload prevHash createdAt = .ok hash) :
    mandateId ≠ "" ∧ type ≠ "" ∧ IsHex64 hash ∧
      ∃ text, canonicalText (eventEnvelope mandateId type payload prevHash createdAt) = some text ∧
        hash = K.sha256 text := by
  rw [computeEventHash] at h
  split_ifs at h with hm ht hp
  cases hc : canonicalJson (eventEnvelope mandateId type payload prevHash createdAt) with
  | error e => rw [hc] at h; cases h
  | ok text =>
    rw [hc] at h
    have hhash : K.sha256 text = hash := Except.ok.inj h
    exact ⟨hm, ht, hhash ▸ K.sha256_hex text, text, canonicalJson_ok hc, hhash.symm⟩

/-- The keys of an event's envelope, in order. -/
theorem eventEnvelope_keys (mandateId type : String) (payload : Json) (prevHash : String)
    (createdAt : Instant) : ([("created_at", Json.str (normalizeUtc createdAt)),
      ("mandate_id", .str mandateId), ("payload", payload), ("prev_hash", .str prevHash),
      ("type", .str type)].map Prod.fst).Pairwise fun a b => ¬ b < a := by
  simp only [List.map_cons, List.map_nil]
  decide

/-- The envelope of a payload that has a text has one. -/
theorem eventEnvelope_text (mandateId type : String) (payload : Json) (prevHash : String)
    (createdAt : Instant) (hpayload : (canonicalText payload).isSome) :
    ∃ text, canonicalText (eventEnvelope mandateId type payload prevHash createdAt) =
      some text := by
  rw [canonicalText, Option.isSome_map] at hpayload
  obtain ⟨chars, hchars⟩ := Option.isSome_iff_exists.1 hpayload
  rw [canonicalText, eventEnvelope, sorted_obj (eventEnvelope_keys ..)]
  simp only [Json.sortedFields, Json.sorted, dump, dumpFields, hchars]
  exact ⟨_, rfl⟩

theorem rootEnvelope_text (seqStart seqEnd : ℤ) (lastHash : String) (cardinality : ℤ) :
    ∃ text, canonicalText (rootEnvelope seqStart seqEnd lastHash cardinality) = some text := by
  have hkeys : ([("cardinality", Json.num cardinality 0), ("last_hash", .str lastHash),
      ("seq_end", .num seqEnd 0), ("seq_start", .num seqStart 0)].map Prod.fst).Pairwise
        fun a b => ¬ b < a := by
    simp only [List.map_cons, List.map_nil]
    decide
  rw [canonicalText, rootEnvelope, sorted_obj hkeys]
  exact ⟨_, rfl⟩

/-- The root of a range that its events fill is computed. -/
theorem computeRootHash_ok {seqStart seqEnd : ℤ} {lastHash : String} {cardinality : ℤ}
    (hstart : 1 ≤ seqStart) (hend : seqStart ≤ seqEnd)
    (hcard : cardinality = seqEnd - seqStart + 1) (hhash : IsHex64 lastHash) :
    ∃ text, canonicalText (rootEnvelope seqStart seqEnd lastHash cardinality) = some text ∧
      computeRootHash K seqStart seqEnd lastHash cardinality = .ok (K.sha256 text) := by
  obtain ⟨text, htext⟩ := rootEnvelope_text seqStart seqEnd lastHash cardinality
  refine ⟨text, htext, ?_⟩
  rw [computeRootHash, if_neg (by omega), if_neg (not_not.2 hcard), if_neg hhash.ne_empty,
    canonicalJson, htext]
  rfl

/-- What a computed root hash says of its input. -/
theorem computeRootHash_eq {seqStart seqEnd : ℤ} {lastHash : String} {cardinality : ℤ}
    {hash : String} (h : computeRootHash K seqStart seqEnd lastHash cardinality = .ok hash) :
    1 ≤ seqStart ∧ seqStart ≤ seqEnd ∧ cardinality = seqEnd - seqStart + 1 ∧
      ∃ text, canonicalText (rootEnvelope seqStart seqEnd lastHash cardinality) = some text ∧
        hash = K.sha256 text := by
  rw [computeRootHash] at h
  split_ifs at h with hrange hcard hlast
  obtain ⟨text, htext⟩ := rootEnvelope_text seqStart seqEnd lastHash cardinality
  rw [canonicalJson, htext] at h
  exact ⟨by omega, by omega, not_not.1 hcard, text, htext, (Except.ok.inj h).symm⟩

/-! ## What equal texts say -/

/-- Two envelopes of events with the same text. -/
theorem eventEnvelope_inj {m m' type type' : String} {payload payload' : Json}
    {prev prev' : String} {t t' : Instant} {text : String}
    (h : canonicalText (eventEnvelope m type payload prev t) = some text)
    (h' : canonicalText (eventEnvelope m' type' payload' prev' t') = some text) :
    m = m' ∧ type = type' ∧ payload.sorted = payload'.sorted ∧ prev = prev' ∧ t = t' := by
  have hsorted := canonicalText_inj h h'
  rw [eventEnvelope, eventEnvelope, sorted_obj (eventEnvelope_keys ..),
    sorted_obj (eventEnvelope_keys ..)] at hsorted
  simp only [Json.sortedFields, Json.sorted, Json.obj.injEq, List.cons.injEq, Prod.mk.injEq,
    Json.str.injEq, true_and, and_true] at hsorted
  obtain ⟨ht, hm, hpayload, hprev, htype⟩ := hsorted
  exact ⟨hm, htype, hpayload, hprev, (String.append_left_inj "Z").1 ht⟩

/-- Two envelopes of roots with the same text. -/
theorem rootEnvelope_inj {a a' b b' : ℤ} {hash hash' : String} {n n' : ℤ} {text : String}
    (h : canonicalText (rootEnvelope a b hash n) = some text)
    (h' : canonicalText (rootEnvelope a' b' hash' n') = some text) :
    a = a' ∧ b = b' ∧ hash = hash' ∧ n = n' := by
  have hkeys : ∀ (a b n : ℤ) (hash : String),
      ([("cardinality", Json.num n 0), ("last_hash", .str hash), ("seq_end", .num b 0),
        ("seq_start", .num a 0)].map Prod.fst).Pairwise fun a b => ¬ b < a := by
    intro a b n hash
    simp only [List.map_cons, List.map_nil]
    decide
  have hsorted := canonicalText_inj h h'
  rw [rootEnvelope, rootEnvelope, sorted_obj (hkeys ..), sorted_obj (hkeys ..)] at hsorted
  simp only [Json.sortedFields, Json.sorted, Json.obj.injEq, List.cons.injEq, Prod.mk.injEq,
    Json.str.injEq, Json.num.injEq, true_and, and_true] at hsorted
  obtain ⟨hn, hhash, hb, ha⟩ := hsorted
  exact ⟨ha, hb, hhash, hn⟩

end TryTrust.Audit
