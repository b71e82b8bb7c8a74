import TryTrust.Base64
import TryTrust.JsonText
import TryTrust.Yuno.SdJwt

/-!
# Tokens

Compact tokens and disclosures, over the libraries that sign, hash and read JSON.

* `Library`, what is outside: canonical JSON, JSON, SHA-256, signatures and keys;
* `b64uEncode`, `b64uDecode`, `peekHeader`, `verifyCompact`, `signCompact`;
* `digest`, `decodeDisclosure`; `Library.jose`: what `verify` takes of them;
* **`b64uDecode_encode`**: bytes are read back from their text; `digest_injective`.
-/

namespace TryTrust.Trustlib

open Yuno (Raised Jose hashable asText)

/-- The libraries: `rfc8785.dumps`, `json.loads` of bytes, SHA-256, the type of a key, a compact
token of a key, a protected header and a payload, the payload of a token that verifies under a key,
and the key of a JWK. -/
structure Library where
  canonicalJson : Json → Except Raised (List UInt8)
  loads : List UInt8 → Except Raised Json
  sha256 : List UInt8 → List UInt8
  kty : String → Json
  sign : String → String → List UInt8 → Except Raised String
  payload : String → String → Except Raised (List UInt8)
  jwk : Json → Except Raised String

/-! ## Texts of bytes -/

/-- The text has ASCII characters only. -/
def isAscii (text : String) : Bool := text.toList.all fun c => c.toNat < 128

/-- `text.encode("ascii")`. -/
def encodeAscii (text : String) : Except Raised (List UInt8) :=
  if isAscii text then .ok (text.toList.map fun c => UInt8.ofNat c.toNat)
  else .error ⟨"'ascii' codec can't encode characters", true⟩

/-- The characters of an ASCII text are read back from its bytes. -/
theorem ofNat_encodeAscii {text : String} {bytes : List UInt8} (h : encodeAscii text = .ok bytes) :
    bytes.map (fun b => Char.ofNat b.toNat) = text.toList := by
  unfold encodeAscii at h
  split_ifs at h with hascii
  rw [← Except.ok.inj h, List.map_map]
  refine (List.map_congr_left fun c hc => ?_).trans (List.map_id _)
  have hc' := of_decide_eq_true (List.all_eq_true.1 hascii c hc)
  show Char.ofNat (UInt8.ofNat c.toNat).toNat = c
  rw [UInt8.toNat_ofNat', Nat.mod_eq_of_lt (by omega), Char.ofNat_toNat]

theorem encodeAscii_injective {a b : String} {bytes : List UInt8} (ha : encodeAscii a = .ok bytes)
    (hb : encodeAscii b = .ok bytes) : a = b :=
  String.toList_inj.1 ((ofNat_encodeAscii ha).symm.trans (ofNat_encodeAscii hb))

/-- `b64u_encode`. -/
def b64uEncode (data : List UInt8) : String := String.ofList (Base64.encode data)

/-- The message of `binascii.Error`. -/
def malformed (data : String) : String :=
  let n := data.toList.countP fun c => (Base64.sextet c).isSome
  if n % 4 = 1 then "Invalid base64-encoded string: number of data characters (" ++ toString n ++
    ") cannot be 1 more than a multiple of 4"
  else "Incorrect padding"

/-- `b64u_decode`. -/
def b64uDecode (data : String) : Except Raised (List UInt8) :=
  if isAscii data then
    match Base64.scan (data.toList ++ Base64.padding data.toList.length) 0 0 0 with
    | some bytes => .ok bytes
    | none => .error ⟨malformed data, true⟩
  else .error ⟨"string argument should contain only ASCII characters", true⟩

theorem isAscii_b64uEncode (data : List UInt8) : isAscii (b64uEncode data) = true := by
  rw [isAscii, b64uEncode, String.toList_ofList]
  refine List.all_eq_true.2 fun c hc => ?_
  obtain ⟨n, hn, rfl⟩ := Base64.mem_encode c hc
  have hall : ∀ n < 64, (Base64.digit n).toNat < 128 := by decide
  exact decide_eq_true (hall n hn)

/-- **Bytes** are read back from their text. -/
theorem b64uDecode_encode (data : List UInt8) : b64uDecode (b64uEncode data) = .ok data := by
  rw [b64uDecode, if_pos (isAscii_b64uEncode data), b64uEncode, String.toList_ofList,
    Base64.scan_encode]

theorem b64uEncode_injective : Function.Injective b64uEncode := by
  intro data data' h
  have hread := b64uDecode_encode data
  rw [h, b64uDecode_encode] at hread
  exact (Except.ok.inj hread).symm

section Tokens

variable (L : Library)

/-! ## Tokens -/

/-- `alg_for`. -/
def algFor (key : String) : Except Raised String :=
  match L.kty key with
  | .str "OKP" => .ok "EdDSA"
  | .str "EC" => .ok "ES256"
  | kty => .error ⟨"unsupported key type for Aval: " ++ kty.repr, true⟩

/-- The protected header of a token; an empty `kid` or `typ` is left out. -/
def headerOf (alg kid typ : String) : Fields :=
  [("alg", .str alg)] ++ (if kid = "" then [] else [("kid", .str kid)]) ++
    if typ = "" then [] else [("typ", .str typ)]

/-- `sign_compact`. -/
def signCompact (payload : Fields) (key kid typ : String) : Except Raised String := do
  let alg ← algFor L key
  let body ← L.canonicalJson (.obj payload)
  L.sign key (JsonText.dumps (.obj (headerOf alg kid typ))) body

/-- `verify_compact`. -/
def verifyCompact (token key : String) : Except Raised Json := do
  let body ← L.payload token key
  L.loads body

/-- `token.split(".", 1)[0]`. -/
def headerSegment (token : String) : String := String.ofList (token.toList.takeWhile (· ≠ '.'))

/-- `peek_header`; its callers take `.get` of the header. -/
def peekHeader (token : String) : Except Raised Fields := do
  let bytes ← b64uDecode (headerSegment token)
  match ← L.loads bytes with
  | .obj header => .ok header
  | _ => .error ⟨"object has no attribute 'get'", false⟩

/-! ## Disclosures -/

/-- `_digest`. -/
def digest (disclosure : String) : Except Raised String := do
  let bytes ← encodeAscii disclosure
  .ok (b64uEncode (L.sha256 bytes))

/-- What an iteration over a value gives; `none` when it raises. -/
def elements : Json → Option (List Json)
  | .arr items => some items
  | .str s => some (s.toList.map fun c => .str (String.singleton c))
  | .obj fields => some (fields.map fun e => .str e.1)
  | _ => none

/-- `_, name, value = ...`. -/
def unpack (value : Json) : Except Raised (Json × Json) :=
  match elements value with
  | none => .error ⟨"cannot unpack non-iterable object", false⟩
  | some [_, name, value] => .ok (name, value)
  | some items =>
    if items.length < 3 then
      .error ⟨"not enough values to unpack (expected 3, got " ++ toString items.length ++ ")", true⟩
    else .error ⟨"too many values to unpack (expected 3)", true⟩

/-- A disclosure's name, which becomes the key of a dictionary, and its value. -/
def decodeDisclosure (disclosure : String) : Except Raised (Option String × Json) := do
  let bytes ← b64uDecode disclosure
  let value ← L.loads bytes
  let (name, value) ← unpack value
  if hashable name then .ok (asText name, value) else .error ⟨"unhashable type", false⟩

/-- What `verify` takes from outside. -/
def Library.jose : Jose where
  peekHeader := peekHeader L
  verifyCompact := verifyCompact L
  digest := digest L
  decodeDisclosure := decodeDisclosure L
  jwkFromDict := L.jwk

variable {L}

/-- Digests do not collide. -/
theorem digest_injective (hsha : Function.Injective L.sha256) {a b d : String}
    (ha : digest L a = .ok d) (hb : digest L b = .ok d) : a = b := by
  obtain ⟨bytes, hbytes, ha⟩ := Yuno.bind_ok ha
  obtain ⟨bytes', hbytes', hb⟩ := Yuno.bind_ok hb
  have heq := hsha (b64uEncode_injective (Except.ok.inj (ha.trans hb.symm)))
  rw [← heq] at hbytes'
  exact encodeAscii_injective hbytes hbytes'

end Tokens

end TryTrust.Trustlib
