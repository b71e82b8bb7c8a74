import TryTrust.Agent.CrossLane
import TryTrust.Audit.Hashing
import TryTrust.CanonicalRead
import TryTrust.PyEqual

/-!
# Issued mandates

The issuer signs claims, and the digests of further claims that the holder may disclose; the holder
binds a presentation to a verifier.

* `makeDisclosure`, `issue`, `attachKeyBinding`; `Issuance`: what an issuer issues;
* `Readable`, `Compact`: what the libraries promise;
* **`split_presented`**: a presentation is taken apart into what it was put together from;
* `addDisclosures_like`: disclosures of the issuer's are merged;
* `signing`, `mandate`: a library whose keys have signed one payload each, and what they signed.
-/

namespace TryTrust.Trustlib

open Agent.Crypto (utf8)

open PyEqual (Like Matches distinct_set pyEq_text pyEq_arr pyEqItems_length)

open Yuno (Raised Jose Options Keys Failure splitPresentation presented popClaim disclose
  addDisclosures verifyWith number asText)

/-! ## Issue -/

/-- A claim that can be disclosed: the bytes of its salt, its name and its value. -/
structure Selective where
  salt : List UInt8
  name : String
  value : Json

/-- What a disclosure says. -/
def Selective.content (x : Selective) : Json :=
  .arr [.str (b64uEncode x.salt), .str x.name, x.value]

/-- The payload of a token with digests. -/
def withDigests (claims : Fields) (digests : List String) : Fields :=
  (claims.set "_sd" (.arr (digests.map Json.str))).set "_sd_alg" (.str "sha-256")

/-- What a key binding says. -/
def bindingClaims (nonce aud : String) (iat : ℤ) (sdHash : String) : Fields :=
  [("nonce", .str nonce), ("aud", .str aud), ("iat", .num iat 0), ("sd_hash", .str sdHash)]

section Issue

variable (L : Library)

/-- `make_disclosure`: the disclosure and its digest. -/
def makeDisclosure (x : Selective) : Except Raised (String × String) := do
  let body ← L.canonicalJson x.content
  let hash ← digest L (b64uEncode body)
  .ok (b64uEncode body, hash)

/-- The payload that the issuer signs, and the disclosures. -/
def payloadOf (claims : Fields) (selective : List Selective) :
    Except Raised (Fields × List String) := do
  let made ← selective.mapM (makeDisclosure L)
  .ok (if selective.isEmpty then claims else withDigests claims (made.map Prod.snd),
    made.map Prod.fst)

/-- `issue`. -/
def issue (claims : Fields) (key kid : String) (selective : List Selective) :
    Except Raised String := do
  let (payload, disclosures) ← payloadOf L claims selective
  let token ← signCompact L payload key kid "sd+jwt"
  .ok ("~".intercalate (token :: disclosures) ++ "~")

/-- `attach_key_binding`, at a moment in seconds. -/
def attachKeyBinding (sdJwt holderKey nonce aud : String) (iat : ℤ) : Except Raised String := do
  let presented := if sdJwt.toList.getLast? = some '~' then sdJwt else sdJwt ++ "~"
  let sdHash ← digest L presented
  let kb ← signCompact L (bindingClaims nonce aud iat sdHash) holderKey "" "kb+jwt"
  .ok (presented ++ kb)

end Issue

/-- What an issuer issues: dictionaries have a key once, and the claims name no digests. -/
structure Issuance where
  claims : Fields
  selective : List Selective
  distinct : JsonText.Distinct (.obj claims)
  values : ∀ x ∈ selective, JsonText.Distinct x.value
  plain : claims.lookup "_sd" = none

/-- The claims with some of those that can be disclosed. -/
def discloseAll (claims : Fields) (chosen : List Selective) : Fields :=
  chosen.foldl (fun d x => d.set x.name x.value) claims

/-! ## Presentations -/

/-- A text without a separator in it. -/
def Segment (text : String) : Prop := '~' ∉ text.toList

theorem presented_toList (token : String) (disclosures : List String) (kb : String) :
    (presented token disclosures ++ kb).toList =
      ['~'].intercalate ((token :: disclosures ++ [kb]).map String.toList) := by
  have hstep : ∀ (first : String) (texts : List String),
      ['~'].intercalate ((first :: texts ++ [kb]).map String.toList) =
        ['~'].intercalate ((first :: texts).map String.toList) ++ '~' :: kb.toList := by
    intro first texts
    induction texts generalizing first with
    | nil => simp [List.intercalate_cons_cons]
    | cons t texts ih =>
      have ht := ih t
      simp only [List.cons_append, List.map_cons, List.intercalate_cons_cons] at ht ⊢
      rw [ht]
      simp
  rw [hstep]
  cases disclosures with
  | nil => simp [presented]
  | cons d ds => simp [presented, String.toList_intercalate, List.intercalate_cons_cons]

theorem isAscii_append (a b : String) : isAscii (a ++ b) = (isAscii a && isAscii b) := by
  simp [isAscii]

theorem isAscii_presented {token : String} {disclosures : List String}
    (htoken : isAscii token = true) (hds : ∀ d ∈ disclosures, isAscii d = true) :
    isAscii (presented token disclosures) = true := by
  have hjoin : ∀ texts : List String, (∀ t ∈ texts, isAscii t = true) →
      (['~'].intercalate (texts.map String.toList)).all (fun c => c.toNat < 128) = true := by
    intro texts h
    induction texts with
    | nil => simp
    | cons t texts ih =>
      obtain ⟨ht, hrest⟩ := List.forall_mem_cons.1 h
      unfold isAscii at ht
      cases texts with
      | nil => simpa using ht
      | cons u texts =>
        have hlist := ih hrest
        simp only [List.map_cons, List.intercalate_cons_cons, List.all_append] at hlist ⊢
        rw [ht, hlist]
        decide
  have htext := presented_toList token disclosures ""
  rw [String.append_empty] at htext
  rw [isAscii, htext]
  refine hjoin _ fun t ht => ?_
  rcases List.mem_append.1 ht with ht | ht
  · rcases List.mem_cons.1 ht with rfl | ht
    · exact htoken
    · exact hds t ht
  · rw [List.mem_singleton.1 ht]
    rfl

/-- **A presentation** is taken apart into its token, its disclosures and its key binding. -/
theorem split_presented {token : String} {disclosures : List String} {kb : String}
    (htoken : Segment token) (hds : ∀ d ∈ disclosures, Segment d ∧ d ≠ "") (hkb : Segment kb) :
    splitPresentation (presented token disclosures ++ kb) =
      (token, disclosures, if kb = "" then none else some kb) := by
  have hparts : ((presented token disclosures ++ kb).toList.splitOn '~').map String.ofList =
      token :: (disclosures ++ [kb]) := by
    rw [presented_toList, List.splitOn_intercalate '~' ?_ (by simp), List.map_map]
    · have hid : String.ofList ∘ String.toList = id := by
        funext s
        simp
      rw [hid, List.map_id]
      rfl
    · simp only [List.cons_append, List.map_cons, List.map_append, List.map_nil, List.mem_cons,
        List.mem_append, List.mem_map, List.not_mem_nil, or_false]
      rintro l (rfl | ⟨d, hd, rfl⟩ | rfl)
      · exact htoken
      · exact (hds d hd).1
      · exact hkb
  have hlast : (disclosures ++ [kb]).getLast? = some kb := by simp
  have hfilled : ∀ d ∈ disclosures, ¬ d = "" := fun d hd => (hds d hd).2
  have hnot : disclosures.getLast? ≠ some "" := by
    intro h
    exact (hds "" (List.mem_of_getLast? h)).2 rfl
  unfold splitPresentation
  simp only [hparts, List.tail_cons, List.headD_cons, hlast]
  by_cases hempty : kb = ""
  · subst hempty
    simpa using hfilled
  · simpa [hempty, hnot] using hfilled

/-! ## Claims of a dictionary -/

theorem like_set {d d' : Fields} (h : Like d d') (name : String) {w v : Json}
    (hv : w.pyEq v = true) : Like (d.set name w) (d'.set name v) := by
  intro key
  rw [Merchant.lookup_set, Merchant.lookup_set]
  split_ifs
  · exact hv
  · exact h key

theorem lookup_popClaim (d : Fields) (name key : String) :
    List.lookup key (popClaim d name) = if key = name then none else List.lookup key d := by
  induction d with
  | nil => simp [popClaim]
  | cons e d ih =>
    unfold popClaim at ih ⊢
    rw [List.filter_cons]
    by_cases he : e.1 = name
    · rw [if_neg (by simpa using he), ih]
      split_ifs with hkey
      · rfl
      · rw [Merchant.lookup_cons_ne e d (by rw [he]; exact hkey)]
    · rw [if_pos (by simpa using he)]
      by_cases hkey : key = e.1
      · subst hkey
        rw [List.lookup_cons_self, if_neg he, List.lookup_cons_self]
      · rw [Merchant.lookup_cons_ne e _ hkey, ih, Merchant.lookup_cons_ne e d hkey]

/-- Equal values are the same number to a comparison. -/
theorem number_of_pyEq {w v : Json} (h : w.pyEq v = true) : number w = number v := by
  have hnumbers : ∀ x y : ℤ × ℕ, numCompare x y = .eq →
      (x.1 : ℚ) / 10 ^ x.2 = y.1 / 10 ^ y.2 := by
    intro x y hxy
    rw [numCompare, compare_eq_iff_eq] at hxy
    rw [div_eq_div_iff (by positivity) (by positivity)]
    exact_mod_cast hxy
  have hnumber : ∀ u x, u.number = some x → number u = some ((x.1 : ℚ) / 10 ^ x.2) := by
    rintro u x hu
    cases u with
    | bool b =>
      cases hu
      cases b <;> simp [number]
    | num m scale =>
      cases hu
      rfl
    | null | str s | arr items | obj fields => cases hu
  cases hw : w.number with
  | some x =>
    have hare : w.pyEq v = (w.numbersAre v .eq).getD false := by
      cases w with
      | bool b => rw [Json.pyEq]
      | num m scale => rw [Json.pyEq]
      | null | str s | arr items | obj fields => cases hw
    rw [hare, Json.numbersAre, hw] at h
    cases hv : v.number with
    | none =>
      rw [hv] at h
      cases h
    | some y =>
      rw [hv] at h
      rw [hnumber w x hw, hnumber v y hv, hnumbers x y (of_decide_eq_true h)]
  | none =>
    cases w with
    | null | str s | arr items | obj fields => cases v <;> simp_all [Json.pyEq, number]
    | bool b => cases hw
    | num m scale => cases hw

/-- A number is true when it is not zero. -/
theorem truthy_number {u : Json} {q : ℚ} (h : number u = some q) : u.truthy = decide (q ≠ 0) := by
  cases u with
  | bool b =>
    cases h
    cases b <;> simp [Json.truthy]
  | num m scale =>
    cases h
    have hpow : (10 : ℚ) ^ scale ≠ 0 := by positivity
    simp [Json.truthy, hpow, bne, BEq.beq]
  | null | str s | arr items | obj fields => cases h

/-- Equal values are both true or both false. -/
theorem truthy_of_pyEq {w v : Json} (h : w.pyEq v = true) : w.truthy = v.truthy := by
  have hnumber := number_of_pyEq h
  rcases hw : number w with _ | q
  case some => rw [truthy_number hw, truthy_number (hnumber.symm.trans hw)]
  cases w with
  | null => cases v <;> simp_all [Json.pyEq]
  | str s => cases v <;> simp_all [Json.pyEq]
  | arr items =>
    cases v with
    | arr items' =>
      have hlen := pyEqItems_length (by simpa [Json.pyEq] using h)
      cases items <;> cases items' <;> simp_all [Json.truthy]
    | null | bool b | num m scale | str s | obj fields => simp [Json.pyEq] at h
  | obj d =>
    cases v with
    | obj d' =>
      rw [Json.pyEq, Bool.and_eq_true, decide_eq_true_iff] at h
      cases d <;> cases d' <;> simp_all [Json.truthy]
    | null | bool b | num m scale | str s | arr items => simp [Json.pyEq] at h
  | bool b => cases hw
  | num m scale => cases hw

/-! ## What the libraries promise -/

/-- `json.loads` reads equal values from what `rfc8785.dumps` and `json.dumps` write, and nothing
from no bytes; equal JWKs make the same key. -/
structure Readable (L : Library) : Prop where
  canonical : ∀ {v : Json} {bytes : List UInt8}, JsonText.Distinct v →
    L.canonicalJson v = .ok bytes →
      ∃ w, L.loads bytes = .ok w ∧ JsonText.Distinct w ∧ w.pyEq v = true
  text : ∀ {v : Json}, JsonText.Distinct v → L.loads (utf8 (JsonText.dumps v)) = .ok v
  nothing : ∀ v, L.loads [] ≠ .ok v
  sameKey : ∀ {w v : Json}, w.pyEq v = true → L.jwk w = L.jwk v

/-- A compact token of a key: three segments, the payload of which the public key gives back. -/
structure Compact (L : Library) (publicKey : String → String) : Prop where
  shape : ∀ {key head token : String} {body : List UInt8}, L.sign key head body = .ok token →
    ∃ signature, token =
      b64uEncode (utf8 head) ++ "." ++ b64uEncode body ++ "." ++ b64uEncode signature
  verifies : ∀ {key head token : String} {body : List UInt8}, L.sign key head body = .ok token →
    L.payload token (publicKey key) = .ok body

theorem segment_b64u (bytes : List UInt8) : Segment (b64uEncode bytes) := by
  rw [Segment, b64uEncode, String.toList_ofList]
  exact Base64.not_mem_encode (by decide) bytes

theorem b64u_ne_empty {bytes : List UInt8} (h : bytes ≠ []) : b64uEncode bytes ≠ "" :=
  fun he => h (b64uEncode_injective he)

/-! ## Disclosures -/

section Disclosures

variable {L : Library}

/-- The disclosure of a claim. -/
def Disclosed (L : Library) (x : Selective) (disclosure : String) : Prop :=
  ∃ body, L.canonicalJson x.content = .ok body ∧ disclosure = b64uEncode body

theorem makeDisclosure_ok {x : Selective} {made : String × String}
    (h : makeDisclosure L x = .ok made) :
    Disclosed L x made.1 ∧ digest L made.1 = .ok made.2 := by
  obtain ⟨body, hbody, h⟩ := Yuno.bind_ok h
  obtain ⟨hash, hhash, h⟩ := Yuno.bind_ok h
  cases h
  exact ⟨⟨body, hbody, rfl⟩, hhash⟩

theorem distinct_content {x : Selective} (h : JsonText.Distinct x.value) :
    JsonText.Distinct x.content :=
  ⟨trivial, trivial, h, trivial⟩

theorem Disclosed.filled (hread : Readable L) {x : Selective} {d : String}
    (hx : JsonText.Distinct x.value) (h : Disclosed L x d) : Segment d ∧ d ≠ "" := by
  obtain ⟨body, hbody, rfl⟩ := h
  refine ⟨segment_b64u body, b64u_ne_empty ?_⟩
  rintro rfl
  obtain ⟨w, hw, -⟩ := hread.canonical (distinct_content hx) hbody
  exact hread.nothing w hw

/-- A disclosure says its claim. -/
theorem decode_disclosed (hread : Readable L) {x : Selective} {d : String}
    (hx : JsonText.Distinct x.value) (h : Disclosed L x d) :
    ∃ w, decodeDisclosure L d = .ok (some x.name, w) ∧ JsonText.Distinct w ∧
      w.pyEq x.value = true := by
  obtain ⟨body, hbody, rfl⟩ := h
  obtain ⟨w, hw, hdistinct, heq⟩ := hread.canonical (distinct_content hx) hbody
  obtain ⟨items, rfl, hitems⟩ := pyEq_arr heq
  rcases items with _ | ⟨a, _ | ⟨b, _ | ⟨c, _ | ⟨d, rest⟩⟩⟩⟩
  · cases hitems
  · simp [Json.pyEqItems] at hitems
  · simp [Json.pyEqItems] at hitems
  · simp only [Json.pyEqItems, Bool.and_eq_true] at hitems
    obtain ⟨-, hname, hvalue, -⟩ := hitems
    obtain rfl := pyEq_text hname
    refine ⟨c, ?_, hdistinct.2.2.1, hvalue⟩
    unfold decodeDisclosure
    rw [b64uDecode_encode]
    change (L.loads body >>= _) = _
    rw [hw]
    rfl
  · simp [Json.pyEqItems] at hitems

/-- **Disclosures of the issuer's** are merged, in their order. -/
theorem addDisclosures_like (hread : Readable L) {signed ds : List String}
    {chosen : List Selective}
    (h : List.Forall₂ (fun d x => JsonText.Distinct x.value ∧ Disclosed L x d ∧
      ∃ hash ∈ signed, digest L d = .ok hash) ds chosen) {claims claims' : Fields}
    (hdistinct : JsonText.Distinct (.obj claims)) (hlike : Like claims claims') :
    ∃ out, addDisclosures L.jose signed claims ds = .ok out ∧ JsonText.Distinct (.obj out) ∧
      Like out (discloseAll claims' chosen) := by
  induction h generalizing claims claims' with
  | nil => exact ⟨claims, rfl, hdistinct, hlike⟩
  | @cons d x ds chosen hd _ ih =>
    obtain ⟨hx, hdisclosed, hash, hsigned, hhash⟩ := hd
    obtain ⟨w, hdecode, hw, heq⟩ := decode_disclosed hread hx hdisclosed
    obtain ⟨out, hout, hresult⟩ := ih (distinct_set hdistinct x.name hw) (like_set hlike x.name heq)
    refine ⟨out, ?_, hresult⟩
    have hdigest : L.jose.digest d = .ok hash := hhash
    have hdecoded : L.jose.decodeDisclosure d = .ok (some x.name, w) := hdecode
    rw [addDisclosures, hdigest, hdecoded]
    change (if hash ∉ signed then _ else addDisclosures L.jose signed (claims.set x.name w) ds) = _
    rw [if_neg (not_not.2 hsigned), hout]

/-- What is merged has a digest that is signed. -/
theorem signed_of_addDisclosures {signed ds : List String} {claims out : Fields}
    (h : addDisclosures L.jose signed claims ds = .ok out) :
    ∀ d ∈ ds, ∃ hash ∈ signed, digest L d = .ok hash := by
  induction ds generalizing claims with
  | nil => simp
  | cons d ds ih =>
    obtain ⟨hash, hhash, h⟩ := Yuno.bind_ok h
    have hdigest : digest L d = .ok hash := Yuno.uncaught_ok.1 hhash
    split_ifs at h with hsigned
    obtain ⟨decoded, -, h⟩ := Yuno.bind_ok h
    exact List.forall_mem_cons.2 ⟨⟨hash, hsigned, hdigest⟩, ih h⟩

/-- The payload of an issuance: its claims, with the digests of its disclosures if it has any. -/
theorem payloadOf_ok {claims payload : Fields} {selective : List Selective} {all : List String}
    (h : payloadOf L claims selective = .ok (payload, all)) : ∃ made : List (String × String),
      List.Forall₂ (fun x m => Disclosed L x m.1 ∧ digest L m.1 = .ok m.2) selective made ∧
      all = made.map Prod.fst ∧
      (selective = [] ∧ payload = claims ∨
        selective ≠ [] ∧ payload = withDigests claims (made.map Prod.snd)) := by
  obtain ⟨made, hmade, h⟩ := Yuno.bind_ok h
  cases h
  refine ⟨made, (Audit.mapM_forall₂ hmade).imp fun _ _ hm => makeDisclosure_ok hm, rfl, ?_⟩
  cases selective with
  | nil => exact .inl ⟨rfl, rfl⟩
  | cons x rest => exact .inr ⟨by simp, rfl⟩

end Disclosures

/-! ## A library of a few signatures -/

/-- The value of a text in UTF-8. -/
def readText (bytes : List UInt8) : Option Json :=
  (String.fromUTF8? ⟨bytes.toArray⟩).bind JsonText.loads

theorem readText_utf8 (text : String) : readText (utf8 text) = JsonText.loads text := by
  have hbytes : (⟨(utf8 text).toArray⟩ : ByteArray) = text.toByteArray := rfl
  unfold readText String.fromUTF8?
  rw [hbytes, dif_pos text.isValidUTF8]
  rfl

/-- The canonical text of a value without fractions. -/
def writeText (v : Json) : Option (List UInt8) := (Jcs.text (fun _ _ => none) v).map utf8

/-- A token whose signature names its key. -/
def tokenOf (key head : String) (body : List UInt8) : String :=
  b64uEncode (utf8 head) ++ "." ++ b64uEncode body ++ "." ++ b64uEncode (utf8 key)

/-- A value whose numbers are safe integers has a canonical text. -/
theorem writeText_safe {v : Json} (hint : Jcs.integral v = true) (hsafe : Jcs.safe v = true) :
    ∃ body, writeText v = some body := by
  have hint' : Jcs.integral (Jcs.arrange Jcs.byUnits v) = true :=
    (Jcs.numbers_arrange _ _ v).trans hint
  have hsafe' : Jcs.safe (Jcs.arrange Jcs.byUnits v) = true :=
    (Jcs.numbers_arrange _ _ v).trans hsafe
  obtain ⟨t, ht⟩ := Option.isSome_iff_exists.1 ((Jcs.dump_isSome _).trans hint')
  refine ⟨utf8 (String.ofList t), ?_⟩
  rw [writeText, Jcs.text, Jcs.write_eq _ _ hint', if_pos hsafe', ht]
  rfl

theorem isAscii_tokenOf (key head : String) (body : List UInt8) :
    isAscii (tokenOf key head body) = true := by
  have hdot : isAscii "." = true := by decide
  simp [tokenOf, isAscii_append, isAscii_b64uEncode, hdot]

/-- The payload of a token, when its key signed it. -/
def payloadFrom (signed : String → Option (List UInt8)) (token key : String) :
    Option (List UInt8) :=
  match token.splitOn "." with
  | [_, _, signature] => if signature = b64uEncode (utf8 key) then signed key else none
  | _ => none

/-- Libraries whose keys have signed one payload each. -/
def signing (signed : String → Option (List UInt8)) : Library where
  canonicalJson v :=
    match writeText v with
    | some bytes => .ok bytes
    | none => .error ⟨"integer exceeds the domain", true⟩
  loads bytes :=
    match readText bytes with
    | some v => .ok v
    | none => .error ⟨"Expecting value", true⟩
  sha256 := id
  kty _ := .str "OKP"
  sign key head body :=
    if signed key = some body then .ok (tokenOf key head body)
    else .error ⟨"no private key", true⟩
  payload token key :=
    match payloadFrom signed token key with
    | some body => .ok body
    | none => .error ⟨"Verification failed for all signatures", false⟩
  jwk _ := .ok "holder"

section Signing

variable (signed : String → Option (List UInt8))

theorem readable_signing : Readable (signing signed) := by
  constructor
  · intro v bytes hv h
    simp only [signing] at h
    cases hbytes : writeText v with
    | none =>
      rw [hbytes] at h
      cases h
    | some bytes' =>
      rw [hbytes] at h
      cases h
      obtain ⟨text, htext, rfl⟩ := Option.map_eq_some_iff.1 hbytes
      refine ⟨Jcs.arrange Jcs.byUnits v, ?_, distinct_arrange _ v hv, pyEq_arrange _ v hv⟩
      simp only [signing, readText_utf8, loads_text hv htext]
  · intro v hv
    simp only [signing, readText_utf8, JsonText.loads_dumps hv]
  · intro v h
    have hnone : readText (utf8 "") = none := by rw [readText_utf8]; decide +kernel
    have hempty : readText [] = none := hnone
    simp only [signing, hempty] at h
    cases h
  · exact fun _ => rfl

variable {signed} in
theorem sign_signing {key : String} {body : List UInt8} (h : signed key = some body)
    (head : String) : (signing signed).sign key head body = .ok (tokenOf key head body) :=
  if_pos h

variable {signed} in
theorem signed_signing {key head token : String} {body : List UInt8}
    (h : (signing signed).sign key head body = .ok token) :
    signed key = some body ∧ token = tokenOf key head body := by
  simp only [signing] at h
  split_ifs at h with hkey
  exact ⟨hkey, (Except.ok.inj h).symm⟩

theorem compact_signing : Compact (signing signed) id := by
  constructor
  · intro key head token body h
    exact ⟨utf8 key, (signed_signing h).2⟩
  · intro key head token body h
    obtain ⟨hkey, rfl⟩ := signed_signing h
    have hpayload : payloadFrom signed (tokenOf key head body) key = some body := by
      unfold payloadFrom tokenOf
      rw [Merchant.splitOn_segments (Merchant.dot_not_mem _) (Merchant.dot_not_mem _)
        (Merchant.dot_not_mem _)]
      dsimp only
      rw [if_pos rfl, hkey]
    simp only [signing, id, hpayload]

end Signing

/-! ### A mandate -/

/-- A mandate of a holder, with an age that can be disclosed. -/
def mandate : Issuance where
  claims := [("exp", .num 2000 0), ("cnf", .obj [("jwk", .obj [("kty", .str "OKP")])])]
  selective := [⟨[1], "age", .num 30 0⟩]
  distinct := by simp [JsonText.Distinct, JsonText.DistinctFields]
  values := by simp [JsonText.Distinct]
  plain := by decide

/-- What the issuer signs of the mandate. -/
def mandateBody : Option (List UInt8) :=
  (payloadOf (signing fun _ => none) mandate.claims mandate.selective).toOption.bind
    fun p => writeText (.obj p.1)

/-- The mandate, once it is issued. -/
def mandateText : String :=
  ((issue (signing fun _ => mandateBody) mandate.claims "issuer" "k1"
    mandate.selective).toOption).getD ""

/-- What the holder signs to bind the mandate. -/
def bindingBody : Option (List UInt8) :=
  (digest (signing fun _ => none) mandateText).toOption.bind
    fun hash => writeText (.obj (bindingClaims "n1" "shop" 1000 hash))

/-- What the issuer of the mandate and its holder signed. -/
def mandateSigned (key : String) : Option (List UInt8) :=
  if key = "issuer" then mandateBody else if key = "holder" then bindingBody else none

/-- Their library. -/
def mandateLibrary : Library := signing mandateSigned

theorem mandate_issued :
    issue mandateLibrary mandate.claims "issuer" "k1" mandate.selective = .ok mandateText := by
  have hok : (issue (signing fun _ => mandateBody) mandate.claims "issuer" "k1"
      mandate.selective).isOk = true := by decide +kernel
  change issue (signing fun _ => mandateBody) mandate.claims "issuer" "k1" mandate.selective = _
  unfold mandateText
  cases hissue : issue (signing fun _ => mandateBody) mandate.claims "issuer" "k1"
      mandate.selective with
  | ok text => rfl
  | error x =>
    rw [hissue] at hok
    cases hok

end TryTrust.Trustlib
