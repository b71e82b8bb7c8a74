import TryTrust.Api.Verify
import TryTrust.Compare
import TryTrust.Trustlib.Jose

/-!
# The intent from the merchant to the kernel

The merchant checks the signature of an intent that comes beside its token, and sends the kernel the
token alone; the kernel reads the intent from the second segment of the token.

* `splitOn_dot`, `splitOn_segments`: the segments of a token;
* `PurchaseIntent`, `ChargeRequest`, `MandateClaims`; `signDetached`, `verifyDetached`,
  `verifyIntent`, the check of the merchant;
* `verifyRequest`, `ChargeRequest.sent`, the body that the client sends; `decode`, `recovered`, the
  intent that the route reads from it; `HandedOver`: both are the same purchase;
* `Agrees`, `Carries`; **`handed_over_iff`**: the intent is handed over exactly when the second
  segment of the token carries it;
* `Faithful`; **`compact_handed_over`**, **`detached_lost`**: a compact token carries its intent, a
  detached one does not; `received_lost`: the merchant takes a detached one.
-/

namespace TryTrust.Merchant

open Trustlib
open Api.Verify (jwtClaims carriedIntent underMandate extractIntent)
open Yuno (Raised)

/-! ## Segments -/

section Segments

open String

/-- The splitting of a text at dots, from its middle on: `l` is split off, `m` is the segment that
has begun and `r` is left. -/
theorem splitOnAux_dot (l m r : List Char) (segments : List String) :
    splitOnAux (ofList (l ++ m ++ r)) "." ⟨utf8Len l⟩ ⟨utf8Len l + utf8Len m⟩ 0 segments =
      segments.reverse ++ (List.splitOnPPrepend (· == '.') r m.reverse).map ofList := by
  induction r generalizing l m segments with
  | nil =>
    have hend : Pos.Raw.atEnd (ofList (l ++ m ++ [])) ⟨utf8Len l + utf8Len m⟩ = true := by
      rw [atEnd_iff]
      simp [-ofList_append]
    unfold splitOnAux
    rw [if_pos hend, extract_of_valid l m []]
    simp
  | cons c r ih =>
    have hend : ¬ Pos.Raw.atEnd (ofList (l ++ m ++ c :: r)) ⟨utf8Len l + utf8Len m⟩ = true := by
      have := c.utf8Size_pos
      rw [atEnd_iff]
      simp [-ofList_append, Pos.Raw.le_iff]
      omega
    have hget : Pos.Raw.get (ofList (l ++ m ++ c :: r)) ⟨utf8Len l + utf8Len m⟩ = c := by
      simpa [-ofList_append] using get_of_valid (l ++ m) (c :: r)
    have hnext : Pos.Raw.next (ofList (l ++ m ++ c :: r)) ⟨utf8Len l + utf8Len m⟩ =
        ⟨utf8Len l + utf8Len m + c.utf8Size⟩ := by
      simpa [-ofList_append] using next_of_valid (l ++ m) c r
    unfold splitOnAux
    rw [if_neg hend, hget, show Pos.Raw.get "." 0 = '.' by decide]
    dsimp only
    by_cases hdot : c = '.'
    · subst hdot
      have hback : (⟨utf8Len l + utf8Len m + '.'.utf8Size⟩ : Pos.Raw).unoffsetBy
          (Pos.Raw.next "." 0) = ⟨utf8Len l + utf8Len m⟩ := by
        simp [Pos.Raw.unoffsetBy]
        rfl
      have hstep := ih (l ++ m ++ ['.']) [] (ofList m :: segments)
      rw [if_pos (beq_self_eq_true _), hnext, if_pos (by decide), hback,
        extract_of_valid l m ('.' :: r)]
      simpa [List.splitOnPPrepend_cons_eq_if, Nat.add_assoc] using hstep
    · have hstep := ih l (m ++ [c]) segments
      have hzero : (⟨utf8Len l + utf8Len m⟩ : Pos.Raw).unoffsetBy 0 =
          ⟨utf8Len l + utf8Len m⟩ := rfl
      rw [if_neg (by simpa using hdot), hzero, hnext]
      simpa [List.splitOnPPrepend_cons_eq_if, Nat.add_assoc, hdot] using hstep

/-- **`token.split(".")`**, over characters. -/
theorem splitOn_dot (s : String) : s.splitOn "." = (s.toList.splitOn '.').map ofList := by
  unfold splitOn
  rw [if_neg (by decide)]
  simpa [List.splitOn] using splitOnAux_dot [] [] s.toList []

/-- Three segments without dots. -/
theorem splitOn_segments {h m s : String} (hh : '.' ∉ h.toList) (hm : '.' ∉ m.toList)
    (hs : '.' ∉ s.toList) : (h ++ "." ++ m ++ "." ++ s).splitOn "." = [h, m, s] := by
  have hsplit : (['.'].intercalate [h.toList, m.toList, s.toList]).splitOn '.' =
      [h.toList, m.toList, s.toList] :=
    List.splitOn_intercalate '.' (by simpa using ⟨hh, hm, hs⟩) (by simp)
  rw [splitOn_dot]
  have htext : (h ++ "." ++ m ++ "." ++ s).toList =
      ['.'].intercalate [h.toList, m.toList, s.toList] := by
    simp [List.intercalate]
  rw [htext, hsplit]
  simp

end Segments

/-! ## The merchant -/

/-- `PurchaseIntent`. -/
structure PurchaseIntent where
  typ : String := "purchase_intent_v1"
  mandateJti : String
  agent : String
  merchantId : String
  offerId : String
  amount : String
  currency : String := "USD"
  nonce : String
  jti : String
  iat : ℤ
  exp : ℤ
  checkoutHash : Option String := none

/-- `intent.model_dump(mode="json")`. -/
def PurchaseIntent.dump (x : PurchaseIntent) : Fields :=
  [("typ", .str x.typ), ("mandate_jti", .str x.mandateJti), ("agent", .str x.agent),
    ("merchant_id", .str x.merchantId), ("offer_id", .str x.offerId), ("amount", .str x.amount),
    ("currency", .str x.currency), ("nonce", .str x.nonce), ("jti", .str x.jti),
    ("iat", .num x.iat 0), ("exp", .num x.exp 0),
    ("checkout_hash", (x.checkoutHash.map Json.str).getD .null)]

/-- `ChargeRequest`, as far as the intent goes. -/
structure ChargeRequest where
  purchaseId : String
  mandateId : String
  intent : PurchaseIntent
  intentJwt : String
  paymentMethodRef : String
  idempotencyKey : Option String := none

/-- What the check of an intent reads of `MandateClaims`. -/
structure MandateClaims where
  jti : String
  agent : String
  currency : String
  cnfJwk : Json
  paymentMethodRef : Option String

section HandOff

variable (L : Library)

/-- The message of a token that has not three segments. -/
def notThree : Raised := ⟨"wrong number of values to unpack (expected 3)", true⟩

/-- `sign_detached`. -/
def signDetached (payload : Fields) (key kid : String) : Except Raised String := do
  let token ← signCompact L payload key kid ""
  match token.splitOn "." with
  | [header, _, signature] => .ok (header ++ ".." ++ signature)
  | _ => .error notThree

/-- `verify_detached`: the second segment of the token is dropped. -/
def verifyDetached (token : String) (payload : Fields) (key : String) : Except Raised Json :=
  match token.splitOn "." with
  | [header, _, signature] => do
    let bytes ← L.canonicalJson (.obj payload)
    verifyCompact L (header ++ "." ++ b64uEncode bytes ++ "." ++ signature) key
  | _ => .error notThree

/-- `_verify_intent` passes. -/
def verifyIntent (merchantId : String) (now : ℤ) (body : ChargeRequest) (claims : MandateClaims) :
    Bool :=
  let intent := body.intent
  match (L.jwk claims.cnfJwk).bind (verifyDetached L body.intentJwt intent.dump) with
  | .error _ => false
  | .ok signed =>
    signed.pyEq (.obj intent.dump) &&
      !(intent.exp - intent.iat > 120 || intent.exp < now || intent.iat > now + 5) &&
      !(intent.mandateJti ≠ claims.jti || intent.agent ≠ claims.agent) &&
      !(intent.merchantId ≠ merchantId || intent.currency ≠ claims.currency) &&
      !(claims.paymentMethodRef.getD "" = "" || claims.paymentMethodRef ≠ body.paymentMethodRef)

/-- The body that `KernelVerifyClient.verify` sends. -/
def verifyRequest (intentJwt idempotencyKey agentId : String) : Fields :=
  [("intent_jwt", .str intentJwt), ("idempotency_key", .str idempotencyKey),
    ("agent_id", .str agentId)]

/-- What `charge` has the client send: `idempotency_key or purchase_id`. -/
def ChargeRequest.sent (body : ChargeRequest) : Fields :=
  verifyRequest body.intentJwt ((body.idempotencyKey.filter (· ≠ "")).getD body.purchaseId)
    body.intent.agent

/-! ## The kernel -/

/-- `json.loads(base64.urlsafe_b64decode(text))`; `none` when it raises. -/
def decode (text : String) : Option Json :=
  if isAscii text then
    (Base64.scan text.toList 0 0 0).bind fun bytes => (L.loads bytes).toOption
  else none

/-- The intent that the route of the mandate reads. -/
def recovered (uid : String) (body : ChargeRequest) : Fields :=
  extractIntent (decode L) body.sent (some body.mandateId) uid

/-- The names that say which purchase an intent is of. -/
def purchaseNames : List String :=
  ["jti", "mandate_jti", "agent", "offer_id", "amount", "currency"]

/-- **The same purchase**: an intent as it was read, and as it was signed. -/
def HandedOver (got : Fields) (signed : PurchaseIntent) : Prop :=
  ∀ name ∈ purchaseNames, got.lookup name = signed.dump.lookup name

/-! ## What the token carries -/

/-- Claims that name the purchase of an intent; the mandate of the path stands in for none. -/
structure Agrees (claims : Fields) (mandateId : String) (signed : PurchaseIntent) : Prop where
  jti : claims.lookup "jti" = some (.str signed.jti)
  jti_ne : signed.jti ≠ ""
  mandate : if mandateId = "" ∨ (claims.get "mandate_jti").truthy = true
    then claims.lookup "mandate_jti" = some (.str signed.mandateJti)
    else signed.mandateJti = mandateId
  rest : ∀ name ∈ ["agent", "offer_id", "amount", "currency"],
    claims.lookup name = signed.dump.lookup name

/-- **The second segment** of the token is a dictionary that names the purchase. -/
def Carries (body : ChargeRequest) : Prop :=
  ∃ claims, jwtClaims (decode L) body.intentJwt = some claims ∧
    Agrees claims body.mandateId body.intent

variable {L} {body : ChargeRequest} {intent : Fields} {name key uid mandateId : String}

theorem lookup_cons_ne (e : String × Json) (d : Fields) (h : name ≠ e.1) :
    List.lookup name (e :: d) = List.lookup name d := by
  have hbeq : (name == e.1) = false := by simpa using h
  rw [List.lookup_cons, hbeq]

theorem lookup_map_set (d : Fields) (key name : String) (value : Json) :
    List.lookup name (d.map fun e => if e.1 = key then (key, value) else e) =
      if name = key then (List.lookup key d).map fun _ => value else List.lookup name d := by
  induction d with
  | nil => simp
  | cons e d ih =>
    rw [List.map_cons]
    by_cases he : e.1 = key
    · subst he
      rw [if_pos rfl]
      by_cases hname : name = e.1
      · subst hname
        rw [if_pos rfl, List.lookup_cons_self, List.lookup_cons_self]
        rfl
      · rw [lookup_cons_ne (e.1, value) _ hname, ih, if_neg hname, if_neg hname,
          lookup_cons_ne e d hname]
    · rw [if_neg he]
      by_cases hname : name = e.1
      · subst hname
        rw [if_neg he, List.lookup_cons_self, List.lookup_cons_self]
      · rw [lookup_cons_ne e _ hname, ih, lookup_cons_ne e d hname,
          lookup_cons_ne e d (Ne.symm he)]

/-- `d[key] = value`, read back. -/
theorem lookup_set (d : Fields) (key name : String) (value : Json) :
    List.lookup name (d.set key value) = if name = key then some value else List.lookup name d := by
  have hany : (d.any fun e => e.1 = key) = (List.lookup key d).isSome := by
    rw [Bool.eq_iff_iff, List.any_eq_true, List.lookup_isSome_iff]
    simp only [decide_eq_true_eq, beq_iff_eq]
    exact exists_congr fun e => and_congr_right fun _ => eq_comm
  unfold Fields.set
  rw [hany]
  cases hd : List.lookup key d with
  | none =>
    rw [if_neg (by simp), List.lookup_append]
    by_cases hname : name = key
    · subst hname
      rw [hd, if_pos rfl, List.lookup_cons_self]
      rfl
    · rw [if_neg hname, lookup_cons_ne _ _ hname, List.lookup_nil, Option.or_none]
  | some old =>
    rw [if_pos (by simp), lookup_map_set, hd]
    rfl

theorem truthy_text (text : String) : (Json.str text).truthy = true ↔ text ≠ "" := by
  rw [Json.truthy, bne_iff_ne]

/-- The mandate of the path stands in for a missing one. -/
theorem lookup_underMandate (claims : Fields) (mandateId name : String) :
    List.lookup name (underMandate (some mandateId) claims) =
      if name = "mandate_jti" ∧ mandateId ≠ "" ∧ (claims.get "mandate_jti").truthy = false
      then some (.str mandateId) else List.lookup name claims := by
  unfold underMandate
  by_cases hid : mandateId = ""
  · subst hid
    have hfilter : (some "").filter (· ≠ "") = none := by decide
    rw [hfilter, if_neg (by simp)]
  · have hfilter : (some mandateId).filter (· ≠ "") = some mandateId := by simp [hid]
    rw [hfilter]
    cases htruthy : (claims.get "mandate_jti").truthy with
    | true => simp
    | false =>
      simp only [Bool.false_eq_true, if_false, lookup_set, hid, ne_eq, not_false_eq_true,
        and_true]

/-- **What the route reads**: the claims, and the names that it fills in. -/
theorem lookup_extract (claims : Fields) (mandateId uid name : String)
    {decode : String → Option Json} {sent : Fields} (h : carriedIntent decode sent = claims) :
    List.lookup name (extractIntent decode sent (some mandateId) uid) =
      if name = "jti" ∧ (claims.get "jti").truthy = false
      then some (.str ("intent-" ++ (((some mandateId).filter (· ≠ "")).getD "anon") ++ "-" ++ uid))
      else List.lookup name (underMandate (some mandateId) claims) := by
  have hjti : ((underMandate (some mandateId) claims).get "jti") = claims.get "jti" := by
    unfold Fields.get Fields.getD
    rw [lookup_underMandate, if_neg (by simp)]
  unfold extractIntent
  dsimp only
  rw [h, hjti]
  cases htruthy : (claims.get "jti").truthy with
  | true => simp
  | false => simp only [Bool.false_eq_true, if_false, lookup_set, and_true]

/-- The client sends no intent but the token. -/
theorem carried_sent (body : ChargeRequest) : carriedIntent (decode L) body.sent =
    (jwtClaims (decode L) body.intentJwt).getD [("intent_jwt", .str body.intentJwt)] := by
  simp [carriedIntent, ChargeRequest.sent, verifyRequest, List.lookup]

/-- The names that the route does not fill in. -/
theorem lookup_recovered {claims : Fields}
    (h : carriedIntent (decode L) body.sent = claims) (hjti : name ≠ "jti")
    (hmandate : name ≠ "mandate_jti") :
    List.lookup name (recovered L uid body) = List.lookup name claims := by
  rw [recovered, lookup_extract claims _ _ _ h, if_neg fun hname => hjti hname.1,
    lookup_underMandate, if_neg fun hname => hmandate hname.1]

theorem lookup_recovered_jti {claims : Fields} (h : carriedIntent (decode L) body.sent = claims) :
    (∀ uid, List.lookup "jti" (recovered L uid body) = some (.str key)) ↔
      List.lookup "jti" claims = some (.str key) ∧ key ≠ "" := by
  have hread : ∀ uid, List.lookup "jti" (recovered L uid body) =
      if (claims.get "jti").truthy = false
      then some (.str ("intent-" ++ (((some body.mandateId).filter (· ≠ "")).getD "anon") ++ "-" ++
        uid)) else List.lookup "jti" claims := by
    intro uid
    rw [recovered, lookup_extract claims _ _ _ h, lookup_underMandate]
    simp
  constructor
  · intro hall
    have hnone := hread "" ▸ hall ""
    have hzero := hread "0" ▸ hall "0"
    cases htruthy : (claims.get "jti").truthy with
    | true =>
      rw [htruthy, if_neg (by simp)] at hnone
      refine ⟨hnone, ?_⟩
      rw [Fields.get, Fields.getD, hnone] at htruthy
      exact (truthy_text key).1 htruthy
    | false =>
      -- the drawn text would be the same for two drawings
      rw [htruthy, if_pos rfl] at hnone hzero
      have htext := Json.str.inj (Option.some.inj (hnone.trans hzero.symm))
      rw [String.append_right_inj] at htext
      exact absurd htext (by decide)
  · rintro ⟨hkey, hne⟩ uid
    have htruthy : (claims.get "jti").truthy = true := by
      rw [Fields.get, Fields.getD, hkey]
      exact (truthy_text key).2 hne
    rw [hread, htruthy, if_neg (by simp), hkey]

theorem lookup_recovered_mandate {claims : Fields}
    (h : carriedIntent (decode L) body.sent = claims) :
    List.lookup "mandate_jti" (recovered L uid body) = some (.str key) ↔
      if body.mandateId = "" ∨ (claims.get "mandate_jti").truthy = true
      then List.lookup "mandate_jti" claims = some (.str key) else key = body.mandateId := by
  rw [recovered, lookup_extract claims _ _ _ h, if_neg (by simp), lookup_underMandate]
  by_cases hid : body.mandateId = ""
  · rw [if_neg fun hname => hname.2.1 hid, if_pos (.inl hid)]
  · cases htruthy : (claims.get "mandate_jti").truthy with
    | true => rw [if_neg (by simp), if_pos (.inr rfl)]
    | false =>
      rw [if_pos ⟨rfl, hid, rfl⟩, if_neg (by simpa using hid), Option.some.injEq, Json.str.injEq,
        eq_comm]

/-- The names that stay as the claims have them. -/
theorem lookup_recovered_rest {claims : Fields}
    (h : carriedIntent (decode L) body.sent = claims) :
    ∀ name ∈ ["agent", "offer_id", "amount", "currency"],
      List.lookup name (recovered L uid body) = List.lookup name claims := by
  intro name hname
  refine lookup_recovered h ?_ ?_ <;> rintro rfl <;> revert hname <;> decide

/-- An intent that is handed over is in the token. -/
theorem carries_of_handed_over (h : ∀ uid, HandedOver (recovered L uid body) body.intent) :
    Carries L body := by
  have hsent := carried_sent (L := L) body
  cases hclaims : jwtClaims (decode L) body.intentJwt with
  | none =>
    -- the body itself becomes the intent, and names no agent
    rw [hclaims, Option.getD_none] at hsent
    have hagent := h "" "agent" (by decide)
    rw [lookup_recovered hsent (by decide) (by decide)] at hagent
    cases hagent
  | some claims =>
    rw [hclaims, Option.getD_some] at hsent
    have hjti := (lookup_recovered_jti hsent).1 fun uid => h uid "jti" (by decide)
    refine ⟨claims, hclaims, hjti.1, hjti.2, ?_, fun name hname => ?_⟩
    · exact (lookup_recovered_mandate hsent).1 (h "" "mandate_jti" (by decide))
    · rw [← lookup_recovered_rest hsent name hname]
      exact h "" name (List.mem_cons_of_mem _ (List.mem_cons_of_mem _ hname))

/-- An intent in the token is handed over. -/
theorem Carries.handed_over (h : Carries L body) (uid : String) :
    HandedOver (recovered L uid body) body.intent := by
  obtain ⟨claims, hclaims, hagrees⟩ := h
  have hsent := carried_sent (L := L) body
  rw [hclaims, Option.getD_some] at hsent
  intro name hname
  rcases List.mem_cons.1 hname with rfl | hname
  · exact (lookup_recovered_jti hsent).2 ⟨hagrees.jti, hagrees.jti_ne⟩ uid
  · rcases List.mem_cons.1 hname with rfl | hname
    · exact (lookup_recovered_mandate hsent).2 hagrees.mandate
    · rw [lookup_recovered_rest hsent name hname]
      exact hagrees.rest name hname

/-- **The intent is handed over** exactly when the second segment of the token carries it. -/
theorem handed_over_iff (L : Library) (body : ChargeRequest) :
    (∀ uid, HandedOver (recovered L uid body) body.intent) ↔ Carries L body :=
  ⟨carries_of_handed_over, Carries.handed_over⟩

/-! ## Compact and detached tokens -/

/-- **What the libraries promise**: a compact token has its payload in the second segment, and
`json.loads` reads a canonical text back to an equal dictionary. -/
structure Faithful (L : Library) : Prop where
  sign : ∀ {key header : String} {bytes : List UInt8} {token : String},
    L.sign key header bytes = .ok token → ∃ h s : List UInt8,
      token = b64uEncode h ++ "." ++ b64uEncode bytes ++ "." ++ b64uEncode s
  loads : ∀ {fields : Fields} {bytes : List UInt8}, L.canonicalJson (.obj fields) = .ok bytes →
    bytes ≠ [] ∧ ∃ got : Fields, L.loads bytes = .ok (.obj got) ∧
      ∀ name, got.lookup name = fields.lookup name

theorem dot_not_mem (bytes : List UInt8) : '.' ∉ (b64uEncode bytes).toList := by
  rw [b64uEncode, String.toList_ofList]
  exact Base64.not_mem_encode (by decide) bytes

/-- The text of bytes, padded, is read as they are. -/
theorem decode_encode (bytes : List UInt8) :
    decode L (b64uEncode bytes ++ String.ofList (List.replicate
      ((4 - (b64uEncode bytes).length % 4) % 4) '=')) = (L.loads bytes).toOption := by
  have hread := b64uDecode_encode bytes
  unfold b64uDecode at hread
  split_ifs at hread with hascii
  have hpadded : isAscii (b64uEncode bytes ++ String.ofList (List.replicate
      ((4 - (b64uEncode bytes).length % 4) % 4) '=')) = true := by
    rw [isAscii, String.toList_append, List.all_append, Bool.and_eq_true]
    exact ⟨hascii, by simp⟩
  have hscan : Base64.scan (b64uEncode bytes ++ String.ofList (List.replicate
      ((4 - (b64uEncode bytes).length % 4) % 4) '=')).toList 0 0 0 = some bytes := by
    rw [String.toList_append, String.toList_ofList, ← String.length_toList, b64uEncode,
      String.toList_ofList]
    exact Base64.scan_encode bytes 0 0
  rw [decode, if_pos hpadded, hscan, Option.bind_some]

/-- The dictionary that was read. -/
def asObject : Option Json → Option Fields
  | some (.obj claims) => some claims
  | _ => none

/-- The second segment of a token, read. -/
theorem jwtClaims_segments {h m s : String} (hh : '.' ∉ h.toList) (hm : '.' ∉ m.toList)
    (hs : '.' ∉ s.toList) : jwtClaims (decode L) (h ++ "." ++ m ++ "." ++ s) =
      if m = "" then none
      else asObject
        (decode L (m ++ String.ofList (List.replicate ((4 - m.length % 4) % 4) '='))) := by
  rw [jwtClaims, splitOn_segments hh hm hs]
  dsimp only
  split_ifs
  · rfl
  · cases decode L (m ++ String.ofList (List.replicate ((4 - m.length % 4) % 4) '=')) with
    | none => rfl
    | some v => cases v <;> rfl

/-- A token over a dictionary carries it. -/
theorem jwtClaims_compact (hL : Faithful L) {fields : Fields} {bytes : List UInt8}
    {header token : String} (hbytes : L.canonicalJson (.obj fields) = .ok bytes)
    (htoken : L.sign key header bytes = .ok token) : ∃ got,
      jwtClaims (decode L) token = some got ∧ ∀ name, got.lookup name = fields.lookup name := by
  obtain ⟨h, s, rfl⟩ := hL.sign htoken
  obtain ⟨hne, got, hgot, hsame⟩ := hL.loads hbytes
  have hsegment : b64uEncode bytes ≠ "" := by
    intro hempty
    refine Base64.encode_ne_nil hne ?_
    rw [← String.toList_ofList (l := Base64.encode bytes)]
    exact congrArg String.toList hempty
  refine ⟨got, ?_, hsame⟩
  rw [jwtClaims_segments (dot_not_mem h) (dot_not_mem bytes) (dot_not_mem s), if_neg hsegment,
    decode_encode, hgot]
  rfl

/-- **A compact token** over the intent hands it over, unless a name that the route fills in is
empty. -/
theorem compact_handed_over (hL : Faithful L) {kid typ : String}
    (htoken : signCompact L body.intent.dump key kid typ = .ok body.intentJwt) :
    (∀ uid, HandedOver (recovered L uid body) body.intent) ↔
      body.intent.jti ≠ "" ∧ (body.intent.mandateJti ≠ "" ∨ body.mandateId = "") := by
  obtain ⟨alg, -, htoken⟩ := Yuno.bind_ok htoken
  obtain ⟨bytes, hbytes, htoken⟩ := Yuno.bind_ok htoken
  obtain ⟨got, hgot, hsame⟩ := jwtClaims_compact hL hbytes htoken
  have hmandate : (got.get "mandate_jti").truthy = true ↔ body.intent.mandateJti ≠ "" := by
    rw [Fields.get, Fields.getD, hsame]
    exact truthy_text _
  constructor
  · intro h
    obtain ⟨claims, hclaims, hagrees⟩ := carries_of_handed_over h
    obtain rfl : got = claims := Option.some.inj (hgot.symm.trans hclaims)
    refine ⟨hagrees.jti_ne, ?_⟩
    have hcase := hagrees.mandate
    by_contra hnot
    push Not at hnot
    rw [if_neg (by rw [hmandate]; simp [hnot])] at hcase
    exact hnot.2 (hcase.symm.trans hnot.1)
  · rintro ⟨hjti, hcase⟩
    refine Carries.handed_over ⟨got, hgot, hsame _, hjti, ?_, fun name _ => hsame name⟩
    rw [if_pos (hcase.elim (fun h => .inr (hmandate.2 h)) .inl)]
    exact hsame _

/-- **A detached token** hands over nothing. -/
theorem detached_lost (hL : Faithful L) {payload : Fields} {kid : String}
    (htoken : signDetached L payload key kid = .ok body.intentJwt) :
    ¬ ∀ uid, HandedOver (recovered L uid body) body.intent := by
  obtain ⟨token, hcompact, htoken⟩ := Yuno.bind_ok htoken
  obtain ⟨alg, -, hcompact⟩ := Yuno.bind_ok hcompact
  obtain ⟨bytes, -, hcompact⟩ := Yuno.bind_ok hcompact
  obtain ⟨h, s, rfl⟩ := hL.sign hcompact
  rw [splitOn_segments (dot_not_mem h) (dot_not_mem bytes) (dot_not_mem s)] at htoken
  have hdetached : body.intentJwt = b64uEncode h ++ "." ++ "" ++ "." ++ b64uEncode s := by
    rw [← Except.ok.inj htoken]
    apply String.toList_inj.1
    simp
  have hnone : jwtClaims (decode L) body.intentJwt = none := by
    rw [hdetached, jwtClaims_segments (dot_not_mem h) (by simp) (dot_not_mem s), if_pos rfl]
  intro hall
  obtain ⟨claims, hclaims, -⟩ := carries_of_handed_over hall
  rw [hnone] at hclaims
  cases hclaims

end HandOff

/-! ## A detached token -/

/-- The bytes of an ASCII text. -/
def asciiBytes (text : String) : List UInt8 := text.toList.map fun c => UInt8.ofNat c.toNat

/-- Libraries for ASCII texts, whose signature is the name of the key. -/
def plainLibrary : Library where
  canonicalJson value := encodeAscii (JsonText.dumps value)
  loads bytes :=
    match JsonText.loads (String.ofList (bytes.map fun b => Char.ofNat b.toNat)) with
    | some value => .ok value
    | none => .error ⟨"Expecting value", true⟩
  sha256 := id
  kty _ := .str "OKP"
  sign key header bytes := .ok (b64uEncode (asciiBytes header) ++ "." ++ b64uEncode bytes ++ "." ++
    b64uEncode (asciiBytes key))
  payload token key :=
    match token.splitOn "." with
    | [_, segment, signature] =>
      if signature = b64uEncode (asciiBytes key) then b64uDecode segment
      else .error ⟨"Verification failed for all signatures", false⟩
    | _ => .error ⟨"Invalid JWS Object", false⟩
  jwk _ := .ok "agent"

/-- A detached token of these libraries verifies. -/
theorem verifyDetached_plain {token header key : String} {payload : Fields}
    (htoken : token.splitOn "." = [header, "", b64uEncode (asciiBytes key)])
    (hheader : '.' ∉ header.toList) (hascii : isAscii (JsonText.dumps (.obj payload)) = true)
    (hdistinct : JsonText.Distinct (.obj payload)) :
    verifyDetached plainLibrary token payload key = .ok (.obj payload) := by
  have hbytes : ∃ bytes, encodeAscii (JsonText.dumps (.obj payload)) = .ok bytes := by
    unfold encodeAscii
    rw [if_pos hascii]
    exact ⟨_, rfl⟩
  obtain ⟨bytes, hbytes⟩ := hbytes
  have hpayload : plainLibrary.payload (header ++ "." ++ b64uEncode bytes ++ "." ++
      b64uEncode (asciiBytes key)) key = .ok bytes := by
    unfold plainLibrary
    dsimp only
    rw [splitOn_segments hheader (dot_not_mem bytes) (dot_not_mem _)]
    dsimp only
    rw [if_pos rfl, b64uDecode_encode]
  have hloads : plainLibrary.loads bytes = .ok (.obj payload) := by
    unfold plainLibrary
    dsimp only
    rw [ofNat_encodeAscii hbytes, String.ofList_toList, JsonText.loads_dumps hdistinct]
  unfold verifyDetached
  rw [htoken]
  show (encodeAscii (JsonText.dumps (.obj payload))).bind _ = _
  rw [hbytes]
  show verifyCompact plainLibrary _ key = _
  unfold verifyCompact
  rw [hpayload]
  exact hloads

/-- A charge with a detached token. -/
def detachedCharge : ChargeRequest where
  purchaseId := "pur_1"
  mandateId := "mnd_1"
  intent :=
    { mandateJti := "mnd_1", agent := "agt_1", merchantId := "vuelaya", offerId := "off_1"
      amount := "130.00", nonce := "n1", jti := "int_1", iat := 1000, exp := 1100 }
  intentJwt := "aGVhZGVy..YWdlbnQ"
  paymentMethodRef := "tok_1"

/-- **A detached token that the merchant takes**, and the kernel reads no intent from. -/
theorem received_lost : verifyIntent plainLibrary "vuelaya" 1050 detachedCharge
      ⟨"mnd_1", "agt_1", "USD", .null, some "tok_1"⟩ = true ∧
    ¬ ∀ uid, HandedOver (recovered plainLibrary uid detachedCharge) detachedCharge.intent := by
  have hsplit : detachedCharge.intentJwt.splitOn "." =
      ["aGVhZGVy", "", b64uEncode (asciiBytes "agent")] := by
    rw [splitOn_dot]
    decide +kernel
  have hverify : verifyDetached plainLibrary detachedCharge.intentJwt detachedCharge.intent.dump
      "agent" = .ok (.obj detachedCharge.intent.dump) := by
    refine verifyDetached_plain hsplit (by decide) ?_ ?_
    · rw [isAscii, JsonText.dumps, String.toList_ofList]
      decide +kernel
    · simp [JsonText.Distinct, JsonText.DistinctFields, PurchaseIntent.dump, detachedCharge]
  constructor
  · unfold verifyIntent
    dsimp only
    rw [show (plainLibrary.jwk .null).bind (verifyDetached plainLibrary detachedCharge.intentJwt
      detachedCharge.intent.dump) = .ok (.obj detachedCharge.intent.dump) from hverify]
    decide +kernel
  · intro h
    obtain ⟨claims, hclaims, -⟩ := carries_of_handed_over h
    rw [jwtClaims, hsplit] at hclaims
    cases hclaims

end TryTrust.Merchant
