import TryTrust.Jcs
import TryTrust.Merchant.HandOff

/-!
# Canonical texts across the lanes

The agent signs a canonical text of its own making; the merchant and the kernel verify with the
canonical text of `rfc8785`.

* `check`, `canonicalJson`, `signDetached`: the agent's side; `canonicalJson_iff`: its text is
  `canonicalText`, and there is one when no number has a fraction;
* `Rfc8785`, `Eddsa`, `Verifier`, `Reads`: what the libraries promise;
* **`bytes_iff`**: both sides write the same bytes exactly when the value is portable;
* **`accepted_iff`**: what the agent signs is taken exactly when the payload is portable;
* **`cross_lane`**: both for every value; `signed_for_nobody`: payloads that nobody takes.
-/

namespace TryTrust.Agent.Crypto

open Trustlib (Library encodeAscii b64uEncode isAscii isAscii_b64uEncode)
open Merchant (verifyDetached splitOn_segments dot_not_mem asciiBytes)
open Yuno (Raised bind_ok)
open Jcs (Portable integral numbersItems numbersFields isInt)

/-! ## The agent -/

/-- `NonCanonical` of a float. -/
def floatAt (path : String) : Raised :=
  ⟨"float at " ++ path ++ ": use a 2-decimal string for money (M7)", true⟩

mutual

/-- `_check`. -/
def check : Json → String → Except Raised Json
  | .num m scale, path => if scale = 0 then .ok (.num m scale) else .error (floatAt path)
  | .arr items, path => (checkItems items path 0).map .arr
  | .obj fields, path => (checkFields fields path).map .obj
  | value, _ => .ok value

/-- The items of a list, from an index on. -/
def checkItems : List Json → String → ℕ → Except Raised (List Json)
  | [], _, _ => .ok []
  | item :: items, path, i => do
    let item ← check item (path ++ "[" ++ toString i ++ "]")
    let items ← checkItems items path (i + 1)
    .ok (item :: items)

/-- The entries of a dictionary. -/
def checkFields : List (String × Json) → String → Except Raised (List (String × Json))
  | [], _ => .ok []
  | (key, value) :: fields, path => do
    let value ← check value (path ++ "." ++ key)
    let fields ← checkFields fields path
    .ok ((key, value) :: fields)

end

/-- `canonical_json`; a value that was checked has a text. -/
def canonicalJson (obj : Json) : Except Raised String := do
  let value ← check obj "$"
  .ok ((canonicalText value).getD "")

/-- `text.encode("utf-8")`. -/
def utf8 (text : String) : List UInt8 := text.toByteArray.data.toList

/-- `canonical_bytes`. -/
def canonicalBytes (obj : Json) : Except Raised (List UInt8) := (canonicalJson obj).map utf8

/-- What `_header` puts in a header; an empty `kid` is left out. -/
def headerFields (kid typ : String) : Fields :=
  [("alg", .str "EdDSA"), ("typ", .str typ)] ++ if kid = "" then [] else [("kid", .str kid)]

/-- `_header`. -/
def header (kid typ : String) : Except Raised String :=
  (canonicalBytes (.obj (headerFields kid typ))).map b64uEncode

/-- `sign_detached`, with `key.sign`. -/
def signDetached (sign : List UInt8 → List UInt8) (payload : Fields) (kid typ : String) :
    Except Raised String := do
  let head ← header kid typ
  let body ← (canonicalBytes (.obj payload)).map b64uEncode
  let input ← encodeAscii (head ++ "." ++ body)
  .ok (head ++ ".." ++ b64uEncode (sign input))

mutual

/-- **`_check`** keeps a value whose numbers are integers. -/
theorem check_of_integral : (v : Json) → ∀ (path : String), integral v = true →
    check v path = .ok v
  | .null, _, _ => rfl
  | .bool _, _, _ => rfl
  | .num _ _, _, h => if_pos (of_decide_eq_true h)
  | .str _, _, _ => rfl
  | .arr items, path, h => by
    rw [check, checkItems_of_integral items path 0 h]
    rfl
  | .obj fields, path, h => by
    rw [check, checkFields_of_integral fields path h]
    rfl

theorem checkItems_of_integral : (items : List Json) → ∀ (path : String) (i : ℕ),
    numbersItems isInt items = true → checkItems items path i = .ok items
  | [], _, _, _ => rfl
  | item :: items, path, i, h => by
    obtain ⟨hitem, hitems⟩ := Bool.and_eq_true_iff.1 h
    rw [checkItems, check_of_integral item _ hitem, checkItems_of_integral items path _ hitems]
    rfl

theorem checkFields_of_integral : (fields : List (String × Json)) → ∀ (path : String),
    numbersFields isInt fields = true → checkFields fields path = .ok fields
  | [], _, _ => rfl
  | (key, value) :: fields, path, h => by
    obtain ⟨hvalue, hfields⟩ := Bool.and_eq_true_iff.1 h
    rw [checkFields, check_of_integral value _ hvalue, checkFields_of_integral fields path hfields]
    rfl

end

mutual

/-- A value that passes has integers only. -/
theorem integral_of_check : (v : Json) → ∀ (path : String) (w : Json), check v path = .ok w →
    integral v = true
  | .null, _, _, _ => rfl
  | .bool _, _, _, _ => rfl
  | .num m scale, path, w, h => by
    rw [check] at h
    split_ifs at h with hscale
    exact decide_eq_true hscale
  | .str _, _, _, _ => rfl
  | .arr items, path, w, h => by
    rw [check] at h
    cases hrun : checkItems items path 0 with
    | error x =>
      rw [hrun] at h
      cases h
    | ok items' => exact integral_of_checkItems items path 0 items' hrun
  | .obj fields, path, w, h => by
    rw [check] at h
    cases hrun : checkFields fields path with
    | error x =>
      rw [hrun] at h
      cases h
    | ok fields' => exact integral_of_checkFields fields path fields' hrun

theorem integral_of_checkItems : (items : List Json) → ∀ (path : String) (i : ℕ)
    (items' : List Json), checkItems items path i = .ok items' → numbersItems isInt items = true
  | [], _, _, _, _ => rfl
  | item :: items, path, i, items', h => by
    obtain ⟨w, hitem, h⟩ := bind_ok h
    obtain ⟨ws, hitems, -⟩ := bind_ok h
    exact Bool.and_eq_true_iff.2 ⟨integral_of_check item _ w hitem,
      integral_of_checkItems items path _ ws hitems⟩

theorem integral_of_checkFields : (fields : List (String × Json)) → ∀ (path : String)
    (fields' : List (String × Json)), checkFields fields path = .ok fields' →
    numbersFields isInt fields = true
  | [], _, _, _ => rfl
  | (key, value) :: fields, path, fields', h => by
    obtain ⟨w, hvalue, h⟩ := bind_ok h
    obtain ⟨ws, hfields, -⟩ := bind_ok h
    exact Bool.and_eq_true_iff.2 ⟨integral_of_check value _ w hvalue,
      integral_of_checkFields fields path ws hfields⟩

end

/-- **The agent's text**: there is one when no number has a fraction. -/
theorem canonicalJson_iff {v : Json} {text : String} :
    canonicalJson v = .ok text ↔ canonicalText v = some text := by
  have hsome : (canonicalText v).isSome = integral v := by
    rw [canonicalText, Option.isSome_map, Jcs.dump_isSome, Jcs.sorted_eq_arrange]
    exact Jcs.numbers_arrange _ _ v
  constructor
  · intro h
    obtain ⟨w, hcheck, h⟩ := bind_ok h
    have hintegral := integral_of_check v _ w hcheck
    rw [check_of_integral v _ hintegral] at hcheck
    obtain ⟨t, ht⟩ := Option.isSome_iff_exists.1 (hsome.trans hintegral)
    cases hcheck
    rw [ht] at h
    rw [ht, ← Except.ok.inj h]
    rfl
  · intro h
    have hintegral : integral v = true := by
      rw [← hsome, h]
      rfl
    rw [canonicalJson, check_of_integral v _ hintegral]
    show Except.ok ((canonicalText v).getD "") = .ok text
    rw [h]
    rfl

/-! ## The libraries -/

section Lanes

variable {L : Library} {float : ℤ → ℕ → Option (List Char)} {key kid typ : String}
  {sign : List UInt8 → List UInt8} {verifies : List UInt8 → List UInt8 → Bool} {payload : Fields}

/-- **`rfc8785.dumps`** follows the standard, and refuses an integer that is not safe. -/
structure Rfc8785 (L : Library) (float : ℤ → ℕ → Option (List Char)) : Prop where
  text : ∀ {v : Json} {t : String}, Jcs.text float v = some t → L.canonicalJson v = .ok (utf8 t)
  domain : ∀ {v : Json}, Jcs.text float v = none → ∃ x, L.canonicalJson v = .error x

/-- **Ed25519**: what one key signed verifies under the other, and nothing else does. -/
structure Eddsa (sign : List UInt8 → List UInt8) (verifies : List UInt8 → List UInt8 → Bool) :
    Prop where
  verifies_sign : ∀ input signed, verifies input (sign signed) = true ↔ input = signed

/-- **`jwcrypto`** takes a token with a header of the agent's when its signature verifies, and its
payload is the second segment. -/
structure Verifier (L : Library) (key : String) (verifies : List UInt8 → List UInt8 → Bool) :
    Prop where
  payload : ∀ {kid typ head : String} {body signature input read : List UInt8},
    header kid typ = .ok head → encodeAscii (head ++ "." ++ b64uEncode body) = .ok input →
    (L.payload (head ++ "." ++ b64uEncode body ++ "." ++ b64uEncode signature) key = .ok read ↔
      verifies input signature = true ∧ read = body)

/-- `json.loads` reads the bytes that `rfc8785.dumps` writes of the value. -/
def Reads (L : Library) (v : Json) : Prop :=
  ∀ bytes, L.canonicalJson v = .ok bytes → ∃ got, L.loads bytes = .ok got

theorem utf8_injective : Function.Injective utf8 := fun _ _ h =>
  String.toByteArray_inj.1 (ByteArray.ext (Array.toList_inj.1 h))

/-- **The bytes**: both sides write the same exactly when the value is portable. -/
theorem bytes_iff (hrfc : Rfc8785 L float) {v : Json} {text : String}
    (h : canonicalJson v = .ok text) : L.canonicalJson v = .ok (utf8 text) ↔ Portable v := by
  rw [← Jcs.text_eq_iff float (canonicalJson_iff.1 h)]
  constructor
  · intro hbytes
    cases htext : Jcs.text float v with
    | none =>
      obtain ⟨x, hx⟩ := hrfc.domain htext
      rw [hx] at hbytes
      cases hbytes
    | some t =>
      have hutf8 := Except.ok.inj ((hrfc.text htext).symm.trans hbytes)
      rw [utf8_injective hutf8]
  · exact hrfc.text

/-- A header is a segment. -/
theorem header_ok (kid typ : String) : ∃ bytes, header kid typ = .ok (b64uEncode bytes) := by
  have hintegral : integral (.obj (headerFields kid typ)) = true := by
    unfold headerFields
    split_ifs <;> rfl
  refine ⟨utf8 ((canonicalText (.obj (headerFields kid typ))).getD ""), ?_⟩
  rw [header, canonicalBytes, canonicalJson, check_of_integral _ _ hintegral]
  rfl

theorem encodeAscii_segments (bytes body : List UInt8) :
    ∃ input, encodeAscii (b64uEncode bytes ++ "." ++ b64uEncode body) = .ok input := by
  refine ⟨_, if_pos ?_⟩
  have hbytes := isAscii_b64uEncode bytes
  have hbody := isAscii_b64uEncode body
  unfold isAscii at *
  rw [String.toList_append, String.toList_append, List.all_append, List.all_append, hbytes, hbody]
  rfl

/-- A token that the agent signs has its header, nothing, and the signature of header and body. -/
theorem signDetached_ok {text : String} (h : canonicalJson (.obj payload) = .ok text) :
    ∃ head input, header kid typ = .ok head ∧ '.' ∉ head.toList ∧
      encodeAscii (head ++ "." ++ b64uEncode (utf8 text)) = .ok input ∧
      signDetached sign payload kid typ = .ok (head ++ ".." ++ b64uEncode (sign input)) := by
  obtain ⟨bytes, hhead⟩ := header_ok kid typ
  obtain ⟨input, hinput⟩ := encodeAscii_segments bytes (utf8 text)
  refine ⟨b64uEncode bytes, input, hhead, dot_not_mem bytes, hinput, ?_⟩
  rw [signDetached, hhead, canonicalBytes, h]
  show (encodeAscii (b64uEncode bytes ++ "." ++ b64uEncode (utf8 text))).bind _ = _
  rw [hinput]
  rfl

/-- The verification of a detached token. -/
theorem verifyDetached_ok_iff {head signature : String} (hhead : '.' ∉ head.toList)
    (hsignature : '.' ∉ signature.toList) :
    (∃ got, verifyDetached L (head ++ ".." ++ signature) payload key = .ok got) ↔
      ∃ bytes read got, L.canonicalJson (.obj payload) = .ok bytes ∧
        L.payload (head ++ "." ++ b64uEncode bytes ++ "." ++ signature) key = .ok read ∧
        L.loads read = .ok got := by
  have hsplit : (head ++ ".." ++ signature).splitOn "." = [head, "", signature] := by
    have htext : head ++ ".." ++ signature = head ++ "." ++ "" ++ "." ++ signature := by
      apply String.toList_inj.1
      simp
    rw [htext]
    exact splitOn_segments hhead (by simp) hsignature
  unfold verifyDetached
  rw [hsplit]
  constructor
  · rintro ⟨got, h⟩
    obtain ⟨bytes, hbytes, h⟩ := bind_ok h
    obtain ⟨read, hread, h⟩ := bind_ok h
    exact ⟨bytes, read, got, hbytes, hread, h⟩
  · rintro ⟨bytes, read, got, hbytes, hread, h⟩
    refine ⟨got, ?_⟩
    show (L.canonicalJson (.obj payload)).bind _ = _
    rw [hbytes]
    show (L.payload _ key).bind _ = _
    rw [hread]
    exact h

/-- What is taken was portable: the signature is of one text only. -/
theorem portable_of_accepted (hrfc : Rfc8785 L float) (hsig : Eddsa sign verifies)
    (hver : Verifier L key verifies) {text token : String}
    (h : canonicalJson (.obj payload) = .ok text)
    (htoken : signDetached sign payload kid typ = .ok token)
    (htaken : ∃ got, verifyDetached L token payload key = .ok got) : Portable (.obj payload) := by
  obtain ⟨head, input, hhead, hdot, hinput, hsigned⟩ :=
    signDetached_ok  h
  cases htoken.symm.trans hsigned
  obtain ⟨bytes, read, got, hbytes, hread, -⟩ :=
    (verifyDetached_ok_iff hdot (dot_not_mem _)).1 htaken
  obtain ⟨input', hinput'⟩ : ∃ input', encodeAscii (head ++ "." ++ b64uEncode bytes) =
      .ok input' := by
    obtain ⟨bytes', hhead'⟩ := header_ok kid typ
    cases hhead.symm.trans hhead'
    exact encodeAscii_segments bytes' bytes
  have hsame := (hsig.verifies_sign _ _).1 ((hver.payload hhead hinput').1 hread).1
  rw [← hsame] at hinput
  have hsegments := Trustlib.encodeAscii_injective hinput' hinput
  have hbody := Trustlib.b64uEncode_injective ((String.append_right_inj _).1 hsegments)
  rw [← bytes_iff hrfc h, hbytes, hbody]

/-- **The signature**: what the agent signs is taken exactly when the payload is portable. -/
theorem accepted_iff (hrfc : Rfc8785 L float) (hsig : Eddsa sign verifies)
    (hver : Verifier L key verifies) (hreads : Reads L (.obj payload)) {text : String}
    (h : canonicalJson (.obj payload) = .ok text) :
    ∃ token, signDetached sign payload kid typ = .ok token ∧
      ((∃ got, verifyDetached L token payload key = .ok got) ↔ Portable (.obj payload)) := by
  obtain ⟨head, input, hhead, hdot, hinput, htoken⟩ :=
    signDetached_ok  h
  refine ⟨_, htoken, portable_of_accepted hrfc hsig hver h htoken, fun hportable => ?_⟩
  have hbytes := (bytes_iff hrfc h).2 hportable
  obtain ⟨got, hgot⟩ := hreads _ hbytes
  exact (verifyDetached_ok_iff hdot (dot_not_mem _)).2 ⟨utf8 text, utf8 text, got, hbytes,
    (hver.payload hhead hinput).2 ⟨(hsig.verifies_sign _ _).2 rfl, rfl⟩, hgot⟩

/-- **Across the lanes**: the bytes of any value that the agent's canonical text takes, and the
signature of any payload, exactly when it is portable. -/
theorem cross_lane (hrfc : Rfc8785 L float) (hsig : Eddsa sign verifies)
    (hver : Verifier L key verifies) :
    (∀ v text, canonicalJson v = .ok text →
      (L.canonicalJson v = .ok (utf8 text) ↔ Portable v)) ∧
    ∀ payload kid typ text, canonicalJson (.obj payload) = .ok text → Reads L (.obj payload) →
      ∃ token, signDetached sign payload kid typ = .ok token ∧
        ((∃ got, verifyDetached L token payload key = .ok got) ↔ Portable (.obj payload)) :=
  ⟨fun _ _ h => bytes_iff hrfc h, fun _ _ _ _ h hreads => accepted_iff hrfc hsig hver hreads h⟩

end Lanes

/-! ## Payloads that nobody takes -/

/-- A signature that is of one text. -/
def plainSign (input : List UInt8) : List UInt8 := 1 :: input

/-- Its check. -/
def plainVerifies (input signature : List UInt8) : Bool := signature = plainSign input

/-- The payload of a token of three segments whose signature is right. -/
def plainPayload (token : String) : Option (List UInt8) :=
  match token.splitOn "." with
  | [head, body, signature] =>
    if signature = b64uEncode (plainSign (asciiBytes (head ++ "." ++ body))) then
      (Trustlib.b64uDecode body).toOption
    else none
  | _ => none

/-- Libraries that follow the standard for values without fractions. -/
def rfcLibrary : Library where
  canonicalJson value :=
    match Jcs.text (fun _ _ => none) value with
    | some text => .ok (utf8 text)
    | none => .error ⟨"integer exceeds the domain", true⟩
  loads bytes :=
    match JsonText.loads (String.ofList (bytes.map fun b => Char.ofNat b.toNat)) with
    | some value => .ok value
    | none => .error ⟨"Expecting value", true⟩
  sha256 := id
  kty _ := .str "OKP"
  sign _ _ _ := .error ⟨"no private key", true⟩
  payload token _ :=
    match plainPayload token with
    | some body => .ok body
    | none => .error ⟨"Verification failed for all signatures", false⟩
  jwk _ := .ok "agent"

theorem rfc8785_rfcLibrary : Rfc8785 rfcLibrary fun _ _ => none := by
  constructor
  · intro v t h
    simp only [rfcLibrary, h]
  · intro v h
    exact ⟨⟨"integer exceeds the domain", true⟩, by simp only [rfcLibrary, h]⟩

theorem eddsa_plain : Eddsa plainSign plainVerifies := by
  constructor
  intro input signed
  simp [plainVerifies, plainSign, eq_comm]

theorem encodeAscii_eq {text : String} {bytes : List UInt8} (h : encodeAscii text = .ok bytes) :
    asciiBytes text = bytes := by
  unfold encodeAscii at h
  split_ifs at h
  exact Except.ok.inj h

theorem verifier_rfcLibrary : Verifier rfcLibrary "agent" plainVerifies := by
  constructor
  intro kid typ head body signature input read hhead hinput
  obtain ⟨bytes, hbytes⟩ := header_ok kid typ
  cases hhead.symm.trans hbytes
  have hpayload : plainPayload (b64uEncode bytes ++ "." ++ b64uEncode body ++ "." ++
      b64uEncode signature) = if signature = plainSign input then some body else none := by
    unfold plainPayload
    rw [splitOn_segments (dot_not_mem _) (dot_not_mem _) (dot_not_mem _)]
    dsimp only
    rw [encodeAscii_eq hinput, Trustlib.b64uDecode_encode]
    simp only [Trustlib.b64uEncode_injective.eq_iff]
    rfl
  simp only [rfcLibrary, hpayload, plainVerifies]
  split_ifs with hsame <;> simp [hsame, eq_comm]

/-- A payload whose integer is the first that is not safe. -/
def largePayload : Fields := [("amount", .str "130.00"), ("nonce", .num 9007199254740992 0)]

/-- A payload whose keys are in another order by code units. -/
def crossedPayload : Fields := [("\uFFFD", .bool true), ("😀", .null)]

/-- A payload of the agent's. -/
def smallPayload : Fields := [("jti", .str "i1"), ("exp", .num 1100 0)]

/-- A small payload crosses the lanes. -/
theorem cross_lane_small :
    rfcLibrary.canonicalJson (.obj smallPayload) =
      .ok (utf8 "\x7b\"exp\":1100,\"jti\":\"i1\"\x7d") ∧
    ∃ token, signDetached plainSign smallPayload "agt_1" "JWS" = .ok token ∧
      ∃ got, verifyDetached rfcLibrary token smallPayload "agent" = .ok got := by
  have htext : canonicalJson (.obj smallPayload) =
      .ok "\x7b\"exp\":1100,\"jti\":\"i1\"\x7d" := by decide +kernel
  have hportable : Portable (.obj smallPayload) := by decide +kernel
  obtain ⟨hbytes, htoken⟩ := cross_lane rfc8785_rfcLibrary eddsa_plain verifier_rfcLibrary
  have hwritten := (hbytes _ _ htext).2 hportable
  have hreads : Reads rfcLibrary (.obj smallPayload) := by
    intro bytes h
    rw [hwritten] at h
    cases h
    have hok : (rfcLibrary.loads
        (utf8 "\x7b\"exp\":1100,\"jti\":\"i1\"\x7d")).isOk = true := by decide +kernel
    cases hloads : rfcLibrary.loads (utf8 "\x7b\"exp\":1100,\"jti\":\"i1\"\x7d") with
    | ok got => exact ⟨got, rfl⟩
    | error x =>
      rw [hloads] at hok
      cases hok
  obtain ⟨token, hsigned, hiff⟩ := htoken smallPayload "agt_1" "JWS" _ htext hreads
  exact ⟨hwritten, token, hsigned, hiff.2 hportable⟩

/-- What the agent signs of a payload that is not portable is refused. -/
theorem refused_of_not_portable {payload : Fields} {text : String}
    (h : canonicalJson (.obj payload) = .ok text) (hportable : ¬ Portable (.obj payload)) :
    ∃ token, signDetached plainSign payload "agt_1" "JWS" = .ok token ∧
      ¬ ∃ got, verifyDetached rfcLibrary token payload "agent" = .ok got := by
  obtain ⟨head, input, -, -, -, htoken⟩ := signDetached_ok h
  exact ⟨_, htoken, fun htaken => hportable (portable_of_accepted rfc8785_rfcLibrary eddsa_plain
    verifier_rfcLibrary h htoken htaken)⟩

/-- **Large integers and crossed keys**: the agent signs both payloads; the other lanes have no
text of the first and another text of the second, and refuse both tokens. -/
theorem signed_for_nobody :
    (∃ x, rfcLibrary.canonicalJson (.obj largePayload) = .error x) ∧
    (∃ token, signDetached plainSign largePayload "agt_1" "JWS" = .ok token ∧
      ¬ ∃ got, verifyDetached rfcLibrary token largePayload "agent" = .ok got) ∧
    (∃ text other, canonicalJson (.obj crossedPayload) = .ok text ∧
      rfcLibrary.canonicalJson (.obj crossedPayload) = .ok (utf8 other) ∧ text ≠ other) ∧
    ∃ token, signDetached plainSign crossedPayload "agt_1" "JWS" = .ok token ∧
      ¬ ∃ got, verifyDetached rfcLibrary token crossedPayload "agent" = .ok got := by
  have hlarge : canonicalJson (.obj largePayload) =
      .ok "\x7b\"amount\":\"130.00\",\"nonce\":9007199254740992\x7d" := by decide +kernel
  have hcrossed : canonicalJson (.obj crossedPayload) =
      .ok "\x7b\"\uFFFD\":true,\"😀\":null\x7d" := by decide +kernel
  have hlargeText : Jcs.text (fun _ _ => none) (.obj largePayload) = none := by decide +kernel
  have hcrossedText : Jcs.text (fun _ _ => none) (.obj crossedPayload) =
      some "\x7b\"😀\":null,\"\uFFFD\":true\x7d" := by decide +kernel
  refine ⟨rfc8785_rfcLibrary.domain hlargeText,
    refused_of_not_portable hlarge (by decide +kernel),
    ⟨_, _, hcrossed, rfc8785_rfcLibrary.text hcrossedText, by decide⟩,
    refused_of_not_portable hcrossed (by decide +kernel)⟩

end TryTrust.Agent.Crypto
