import TryTrust.Trustlib.Issue

/-!
# Presentations that verify

* `Within`: the window of signed claims; `shown`: what a verifier gets to see;
* `issuer_ok`, `merge_ok`, `binding_ok`: the checks of a presentation of the issuer's;
* **`issued_verifies`**: every presentation of an issuance verifies to its claims with those
  disclosed, bound or not.
-/

namespace TryTrust.Trustlib

open Agent.Crypto (utf8)

open PyEqual (Like Matches like_of_pyEq pyEq_text pyEq_obj pyEqItems_texts pyEq_arr distinct_set
  distinct_of_lookup)

open Yuno (Raised Jose Options Keys Failure splitPresentation presented popClaim disclose
  addDisclosures mergeDisclosures signedDigests issuerClaims keyFor checkWindow checkBound
  checkKeyBinding checkBinding checkAsked verifyWith number asText bind_ok uncaught_ok caughtAs_ok)

/-- A moment is in the window of the claims, with a leeway. -/
structure Within (claims : Fields) (now leeway : ℤ) : Prop where
  exp : ∀ v, List.lookup "exp" claims = some v → ∃ q, number v = some q ∧ (now : ℚ) ≤ q + leeway
  nbf : ∀ v, List.lookup "nbf" claims = some v → ∃ q, number v = some q ∧ q ≤ (now : ℚ) + leeway

/-- What a verifier gets to see: the claims with those disclosed, without the digests. -/
def shown (claims : Fields) (chosen : List Selective) : Fields :=
  popClaim (popClaim (discloseAll claims chosen) "_sd") "_sd_alg"

/-- The disclosures are of these claims of an issuance. -/
def Chosen (L : Library) (i : Issuance) (ds : List String) (chosen : List Selective) : Prop :=
  List.Forall₂ (fun d x => x ∈ i.selective ∧ Disclosed L x d) ds chosen

section Verify

variable {L : Library} {publicKey : String → String} {i : Issuance} {keys : Keys} {o : Options}
  {now : ℤ}

/-! ## The window -/

theorem checkBound_iff {d p : Fields} (h : Like d p) {name : String} {ok : ℚ → Bool}
    {error : Json → Failure} : checkBound d name ok error = .ok () ↔
      ∀ v, List.lookup name p = some v → ∃ q, number v = some q ∧ ok q = true := by
  unfold checkBound
  cases hp : List.lookup name p with
  | none =>
    rw [h.none hp]
    simp
  | some v =>
    obtain ⟨w, hw, heq⟩ := h.some hp
    rw [hw]
    simp only [Option.some.injEq, forall_eq', number_of_pyEq heq]
    cases hv : number v with
    | none => simp
    | some q => by_cases hok : ok q = true <;> simp [hok]

/-- **The window** of what is read is that of what was signed. -/
theorem checkWindow_iff {d p : Fields} (h : Like d p) {leeway : ℤ} :
    checkWindow d now leeway = .ok () ↔ Within p now leeway := by
  have hbounds : checkWindow d now leeway = .ok () ↔
      checkBound d "exp" (fun q => now ≤ q + leeway) (fun v =>
        .sdJwt .expired ("exp=" ++ v.text ++ " < now=" ++ toString now)) = .ok () ∧
      checkBound d "nbf" (fun q => q ≤ now + leeway) (fun v =>
        .sdJwt .notYetValid ("nbf=" ++ v.text ++ " > now=" ++ toString now)) = .ok () := by
    constructor
    · intro hok
      obtain ⟨_, hexp, hnbf⟩ := bind_ok hok
      exact ⟨hexp, hnbf⟩
    · rintro ⟨hexp, hnbf⟩
      rw [checkWindow, hexp]
      exact hnbf
  rw [hbounds, checkBound_iff h, checkBound_iff h]
  simp only [decide_eq_true_eq]
  exact ⟨fun hw => ⟨hw.1, hw.2⟩, fun hw => ⟨hw.exp, hw.nbf⟩⟩

/-! ## The claims -/

theorem lookup_discloseAll {name : String} {d d' : Fields}
    (h : List.lookup name d = List.lookup name d') (chosen : List Selective) :
    List.lookup name (discloseAll d chosen) = List.lookup name (discloseAll d' chosen) := by
  induction chosen generalizing d d' with
  | nil => exact h
  | cons x chosen ih =>
    refine ih ?_
    rw [Merchant.lookup_set, Merchant.lookup_set, h]

theorem lookup_withDigests {name : String} (hsd : name ≠ "_sd") (halg : name ≠ "_sd_alg")
    (claims : Fields) (hashes : List String) :
    List.lookup name (withDigests claims hashes) = List.lookup name claims := by
  rw [withDigests, Merchant.lookup_set, if_neg halg, Merchant.lookup_set, if_neg hsd]

/-- The payload of an issuance, apart from the digests, is its claims. -/
theorem lookup_payload {payload : Fields} {all : List String}
    (h : payloadOf L i.claims i.selective = .ok (payload, all)) {name : String}
    (hsd : name ≠ "_sd") (halg : name ≠ "_sd_alg") :
    List.lookup name payload = List.lookup name i.claims := by
  obtain ⟨made, -, -, ⟨-, rfl⟩ | ⟨-, rfl⟩⟩ := payloadOf_ok h
  · rfl
  · exact lookup_withDigests hsd halg _ _

theorem distinct_texts (texts : List String) :
    JsonText.Distinct (.arr (texts.map Json.str)) := by
  show JsonText.DistinctItems (texts.map Json.str)
  induction texts with
  | nil => trivial
  | cons t texts ih => exact ⟨trivial, ih⟩

theorem distinct_payload {payload : Fields} {all : List String}
    (h : payloadOf L i.claims i.selective = .ok (payload, all)) :
    JsonText.Distinct (.obj payload) := by
  obtain ⟨made, -, -, ⟨-, rfl⟩ | ⟨-, rfl⟩⟩ := payloadOf_ok h
  · exact i.distinct
  · exact distinct_set (distinct_set i.distinct _ (distinct_texts _)) _ trivial

/-- The digests are left out. -/
theorem lookup_shown (name : String) (d : Fields) :
    List.lookup name (popClaim (popClaim d "_sd") "_sd_alg") =
      if name = "_sd_alg" ∨ name = "_sd" then none else List.lookup name d := by
  rw [lookup_popClaim, lookup_popClaim]
  by_cases halg : name = "_sd_alg"
  · simp [halg]
  · simp [halg]

/-- What is shown of the payload is what is shown of the claims. -/
theorem like_shown {payload out : Fields} {all : List String} {chosen : List Selective}
    (h : payloadOf L i.claims i.selective = .ok (payload, all))
    (hout : Like out (discloseAll payload chosen)) :
    Like (popClaim (popClaim out "_sd") "_sd_alg") (shown i.claims chosen) := by
  intro name
  rw [shown, lookup_shown, lookup_shown]
  split_ifs with hname
  · trivial
  · push Not at hname
    have hsame := lookup_discloseAll (lookup_payload h hname.2 hname.1) chosen
    rw [← hsame]
    exact hout name

theorem within_payload {payload : Fields} {all : List String}
    (h : payloadOf L i.claims i.selective = .ok (payload, all)) {leeway : ℤ} :
    Within payload now leeway ↔ Within i.claims now leeway := by
  have hsame : ∀ name, name ≠ "_sd" → name ≠ "_sd_alg" →
      List.lookup name payload = List.lookup name i.claims := fun _ => lookup_payload h
  have hexp := hsame "exp" (by decide) (by decide)
  have hnbf := hsame "nbf" (by decide) (by decide)
  constructor
  · exact fun hw => ⟨hexp ▸ hw.exp, hnbf ▸ hw.nbf⟩
  · exact fun hw => ⟨hexp.symm ▸ hw.exp, hnbf.symm ▸ hw.nbf⟩

/-! ## The disclosures -/

theorem filterMap_texts (texts : List String) :
    (texts.map Json.str).filterMap asText = texts := by
  induction texts with
  | nil => rfl
  | cons t texts ih => rw [List.map_cons, List.filterMap_cons, ih]; rfl

/-- Each disclosure of an issuance, with its digest. -/
def Made (L : Library) (i : Issuance) (made : List (String × String)) : Prop :=
  List.Forall₂ (fun x m => Disclosed L x m.1 ∧ digest L m.1 = .ok m.2) i.selective made

/-- The digests of an issuance are read back. -/
theorem signedDigests_payload {payload d : Fields} {all : List String}
    (h : payloadOf L i.claims i.selective = .ok (payload, all)) (hlike : Like d payload) :
    ∃ made, signedDigests d = .ok (made.map Prod.snd) ∧ Made L i made ∧
      all = made.map Prod.fst := by
  obtain ⟨made, hmade, hall, hpayload⟩ := payloadOf_ok h
  refine ⟨made, ?_, hmade, hall⟩
  rcases hpayload with ⟨hselective, rfl⟩ | ⟨-, rfl⟩
  · rw [hselective] at hmade
    cases hmade
    rw [signedDigests, Fields.getD, hlike.none i.plain]
    rfl
  · have hsd : List.lookup "_sd" (withDigests i.claims (made.map Prod.snd)) =
        some (.arr ((made.map Prod.snd).map Json.str)) := by
      rw [withDigests, Merchant.lookup_set, if_neg (by decide), Merchant.lookup_set, if_pos rfl]
    obtain ⟨w, hw, heq⟩ := hlike.some hsd
    obtain ⟨items, rfl, hitems⟩ := pyEq_arr heq
    have hall : ((made.map Prod.snd).map Json.str).all Yuno.hashable = true := by
      simp [Yuno.hashable]
    rw [signedDigests, Fields.getD, hw, pyEqItems_texts hitems]
    show (if ((made.map Prod.snd).map Json.str).all Yuno.hashable then
      Except.ok (((made.map Prod.snd).map Json.str).filterMap asText) else _) = _
    rw [if_pos hall, filterMap_texts]

/-- Whatever of the disclosures of an issuance is presented, and in whatever order, is of claims of
the issuance. -/
theorem chosen_of_made {made : List (String × String)} (hmade : Made L i made) {ds : List String}
    (hds : ∀ d ∈ ds, ∃ m ∈ made, d = m.1) : ∃ chosen, Chosen L i ds chosen ∧
      List.Forall₂ (fun d x => JsonText.Distinct x.value ∧ Disclosed L x d ∧
        ∃ hash ∈ made.map Prod.snd, digest L d = .ok hash) ds chosen := by
  induction ds with
  | nil => exact ⟨[], .nil, .nil⟩
  | cons d ds ih =>
    obtain ⟨⟨m, hm, rfl⟩, hrest⟩ := List.forall_mem_cons.1 hds
    obtain ⟨chosen, hchosen, hsigned⟩ := ih hrest
    obtain ⟨n, hn, rfl⟩ := List.mem_iff_getElem.1 hm
    have hlen : n < i.selective.length := hmade.length_eq ▸ hn
    obtain ⟨hdisclosed, hdigest⟩ := hmade.get hlen hn
    have hx : i.selective[n] ∈ i.selective := List.getElem_mem hlen
    refine ⟨i.selective[n] :: chosen, .cons ⟨hx, hdisclosed⟩ hchosen,
      .cons ⟨i.values _ hx, hdisclosed, made[n].2, ?_, hdigest⟩ hsigned⟩
    exact List.mem_map.2 ⟨made[n], List.getElem_mem hn, rfl⟩

/-- Digests do not collide, so that what has a signed digest is a disclosure of the issuance. -/
theorem made_of_signed (hsha : Function.Injective L.sha256) {made : List (String × String)}
    (hmade : Made L i made) {d hash : String} (hhash : hash ∈ made.map Prod.snd)
    (hd : digest L d = .ok hash) : ∃ m ∈ made, d = m.1 := by
  obtain ⟨m, hm, rfl⟩ := List.mem_map.1 hhash
  obtain ⟨n, hn, rfl⟩ := List.mem_iff_getElem.1 hm
  have hlen : n < i.selective.length := hmade.length_eq ▸ hn
  exact ⟨made[n], hm, digest_injective hsha hd (hmade.get hlen hn).2⟩

/-! ## Tokens -/

theorem signCompact_ok {payload : Fields} {key kid typ token : String}
    (h : signCompact L payload key kid typ = .ok token) : ∃ alg body,
      L.canonicalJson (.obj payload) = .ok body ∧
      L.sign key (JsonText.dumps (.obj (headerOf alg kid typ))) body = .ok token := by
  obtain ⟨alg, -, h⟩ := bind_ok h
  obtain ⟨body, hbody, h⟩ := bind_ok h
  exact ⟨alg, body, hbody, h⟩

/-- An ASCII text has a digest. -/
theorem digest_ascii {text : String} (h : isAscii text = true) :
    ∃ hash, digest L text = .ok hash := by
  unfold digest
  rw [encodeAscii, if_pos h]
  exact ⟨_, rfl⟩

theorem signCompact_eq {payload : Fields} {key kid typ alg : String} {body : List UInt8}
    (halg : algFor L key = .ok alg) (hbody : L.canonicalJson (.obj payload) = .ok body) :
    signCompact L payload key kid typ =
      L.sign key (JsonText.dumps (.obj (headerOf alg kid typ))) body := by
  unfold signCompact
  rw [halg]
  change (L.canonicalJson _ >>= _) = _
  rw [hbody]
  rfl

/-- The holder's signature goes after what is presented. -/
theorem attachKeyBinding_eq {text holder nonce aud hash kb : String} {iat : ℤ}
    (hends : text.toList.getLast? = some '~') (hhash : digest L text = .ok hash)
    (hkb : signCompact L (bindingClaims nonce aud iat hash) holder "" "kb+jwt" = .ok kb) :
    attachKeyBinding L text holder nonce aud iat = .ok (text ++ kb) := by
  rw [attachKeyBinding, if_pos hends, hhash]
  change (signCompact L (bindingClaims nonce aud iat hash) holder "" "kb+jwt" >>= _) = _
  rw [hkb]
  rfl

/-- What is read of a signed payload is equal to it. -/
theorem payload_like (hread : Readable L) {payload : Fields}
    (hpayload : JsonText.Distinct (.obj payload)) {body : List UInt8}
    (h : L.canonicalJson (.obj payload) = .ok body) :
    ∃ d, L.loads body = .ok (.obj d) ∧ JsonText.Distinct (.obj d) ∧ Like d payload := by
  obtain ⟨w, hw, hdistinct, heq⟩ := hread.canonical hpayload h
  obtain ⟨d, rfl⟩ := pyEq_obj heq
  exact ⟨d, hw, hdistinct, like_of_pyEq hdistinct.1 heq⟩

/-- **A signed token** verifies to its payload. -/
theorem verifyCompact_signed (hread : Readable L) (hcompact : Compact L publicKey)
    {payload : Fields} (hpayload : JsonText.Distinct (.obj payload)) {key kid typ token : String}
    (h : signCompact L payload key kid typ = .ok token) :
    ∃ d, verifyCompact L token (publicKey key) = .ok (.obj d) ∧ JsonText.Distinct (.obj d) ∧
      Like d payload := by
  obtain ⟨alg, body, hbody, hsign⟩ := signCompact_ok h
  obtain ⟨d, hd, hdistinct⟩ := payload_like hread hpayload hbody
  refine ⟨d, ?_, hdistinct⟩
  rw [verifyCompact, hcompact.verifies hsign]
  exact hd

theorem headerOf_distinct (alg kid typ : String) :
    JsonText.Distinct (.obj (headerOf alg kid typ)) := by
  unfold headerOf
  by_cases hkid : kid = "" <;> by_cases htyp : typ = "" <;>
    simp [hkid, htyp, JsonText.Distinct, JsonText.DistinctFields]

theorem headerOf_kid {kid : String} (hkid : kid ≠ "") (alg typ : String) :
    (headerOf alg kid typ).get "kid" = .str kid := by
  unfold headerOf
  rw [if_neg hkid]
  rfl

theorem headerSegment_token (head : List UInt8) (body signature : String) :
    headerSegment (b64uEncode head ++ "." ++ body ++ "." ++ signature) = b64uEncode head := by
  have htext : (b64uEncode head ++ "." ++ body ++ "." ++ signature).toList =
      (b64uEncode head).toList ++ '.' :: (body.toList ++ '.' :: signature.toList) := by
    simp
  have hdot : ∀ c ∈ (b64uEncode head).toList, decide (c ≠ '.') = true := by
    intro c hc
    refine decide_eq_true ?_
    rintro rfl
    exact Merchant.dot_not_mem head hc
  rw [headerSegment, htext, List.takeWhile_append_of_pos hdot, List.takeWhile_cons_of_neg (by simp),
    List.append_nil, String.ofList_toList]

/-- **The header** of a signed token is read without its key. -/
theorem peekHeader_signed (hread : Readable L) (hcompact : Compact L publicKey) {payload : Fields}
    {key kid typ token : String} (h : signCompact L payload key kid typ = .ok token) :
    ∃ alg, peekHeader L token = .ok (headerOf alg kid typ) := by
  obtain ⟨alg, body, -, hsign⟩ := signCompact_ok h
  obtain ⟨signature, rfl⟩ := hcompact.shape hsign
  refine ⟨alg, ?_⟩
  unfold peekHeader
  rw [headerSegment_token, b64uDecode_encode]
  change (L.loads (utf8 _) >>= _) = _
  rw [hread.text (headerOf_distinct alg kid typ)]
  rfl

theorem segment_append {a b : String} (ha : Segment a) (hb : Segment b) : Segment (a ++ b) := by
  unfold Segment at *
  rw [String.toList_append, List.mem_append]
  exact not_or.2 ⟨ha, hb⟩

/-- A token has no separator in it, and is not empty. -/
theorem segment_token (hcompact : Compact L publicKey) {payload : Fields}
    {key kid typ token : String} (h : signCompact L payload key kid typ = .ok token) :
    Segment token ∧ token ≠ "" := by
  obtain ⟨alg, body, -, hsign⟩ := signCompact_ok h
  obtain ⟨signature, rfl⟩ := hcompact.shape hsign
  have hdot : Segment "." := by unfold Segment; decide
  refine ⟨segment_append (segment_append (segment_append (segment_append (segment_b64u _) hdot)
    (segment_b64u _)) hdot) (segment_b64u _), fun hempty => ?_⟩
  have htext := congrArg String.toList hempty
  simp at htext

/-- **The issuer's claims** are found by the key that the token names. -/
theorem issuer_ok (hread : Readable L) (hcompact : Compact L publicKey) {payload : Fields}
    (hpayload : JsonText.Distinct (.obj payload)) {key kid typ token : String}
    (h : signCompact L payload key kid typ = .ok token) (hkid : kid ≠ "")
    (hkey : keys.lookup kid = some (publicKey key)) :
    ∃ d, issuerClaims L.jose keys token = .ok d ∧ JsonText.Distinct (.obj d) ∧
      Like d payload := by
  obtain ⟨alg, hheader⟩ := peekHeader_signed hread hcompact h
  obtain ⟨d, hd, hdistinct⟩ := verifyCompact_signed hread hcompact hpayload h
  refine ⟨d, ?_, hdistinct⟩
  have hpeek : L.jose.peekHeader token = .ok (headerOf alg kid typ) := hheader
  have hverify : L.jose.verifyCompact token (publicKey key) = .ok (.obj d) := hd
  have hfor : keyFor keys (.str kid) = .ok (some (publicKey key)) := by
    rw [keyFor, if_pos (by simpa [Json.truthy] using hkid), hkey]
  rw [issuerClaims, hpeek]
  change ((keyFor keys ((headerOf alg kid typ).get "kid")) >>= _) = _
  rw [headerOf_kid hkid, hfor]
  change (Yuno.caughtAs _ _ (L.jose.verifyCompact token (publicKey key)) >>= _) = _
  rw [hverify]
  rfl

/-! ## Every presentation of an issuance verifies -/

/-- A presentation that verifies passes each check. -/
theorem verifyWith_iff {p : String} {result : Fields} :
    verifyWith L.jose o keys now p = .ok result ↔ ∃ d out,
      issuerClaims L.jose keys (splitPresentation p).1 = .ok d ∧
      checkWindow d now o.leeway = .ok () ∧
      mergeDisclosures L.jose d (splitPresentation p).2.1 = .ok out ∧
      checkKeyBinding L.jose o out (splitPresentation p).1 (splitPresentation p).2.1
        (splitPresentation p).2.2 = .ok () ∧
      popClaim (popClaim out "_sd") "_sd_alg" = result := by
  constructor
  · intro h
    rw [verifyWith] at h
    obtain ⟨d, hissuer, h⟩ := bind_ok h
    obtain ⟨_, hwindow, h⟩ := bind_ok h
    obtain ⟨out, hmerge, h⟩ := bind_ok h
    obtain ⟨_, hbound, h⟩ := bind_ok h
    exact ⟨d, out, hissuer, hwindow, hmerge, hbound, Except.ok.inj h⟩
  · rintro ⟨d, out, hissuer, hwindow, hmerge, hbound, rfl⟩
    unfold verifyWith
    dsimp only
    rw [hissuer]
    change (checkWindow d now o.leeway >>= _) = _
    rw [hwindow]
    change (mergeDisclosures L.jose d _ >>= _) = _
    rw [hmerge]
    change (checkKeyBinding L.jose o out _ _ _ >>= _) = _
    rw [hbound]
    rfl

theorem issue_ok {claims : Fields} {selective : List Selective} {key kid sdJwt : String}
    (h : issue L claims key kid selective = .ok sdJwt) : ∃ payload all token,
      payloadOf L claims selective = .ok (payload, all) ∧
      signCompact L payload key kid "sd+jwt" = .ok token ∧ sdJwt = presented token all := by
  obtain ⟨⟨payload, all⟩, hpayload, h⟩ := bind_ok h
  obtain ⟨token, htoken, h⟩ := bind_ok h
  refine ⟨payload, all, token, hpayload, htoken, ?_⟩
  rw [← Except.ok.inj h]
  refine String.toList_inj.1 ?_
  cases all with
  | nil => simp [presented]
  | cons d ds => simp [presented, String.toList_intercalate]

/-- **The disclosures of an issuance** are merged. -/
theorem merge_ok (hread : Readable L) {payload d : Fields} {all ds : List String}
    (h : payloadOf L i.claims i.selective = .ok (payload, all))
    (hdistinct : JsonText.Distinct (.obj d)) (hlike : Like d payload) (hds : ∀ e ∈ ds, e ∈ all) :
    ∃ chosen out, Chosen L i ds chosen ∧ mergeDisclosures L.jose d ds = .ok out ∧
      JsonText.Distinct (.obj out) ∧ Like out (discloseAll payload chosen) := by
  obtain ⟨made, hsigned, hmade, rfl⟩ := signedDigests_payload h hlike
  obtain ⟨chosen, hchosen, hall⟩ := chosen_of_made hmade fun e he => by
    obtain ⟨m, hm, rfl⟩ := List.mem_map.1 (hds e he)
    exact ⟨m, hm, rfl⟩
  obtain ⟨out, hout, hresult⟩ := addDisclosures_like hread hall hdistinct hlike
  refine ⟨chosen, out, hchosen, ?_, hresult⟩
  unfold mergeDisclosures
  split_ifs with hempty
  · subst hempty
    exact hout
  · rw [hsigned]
    exact hout

theorem filled_of_chosen (hread : Readable L) {ds : List String} {chosen : List Selective}
    (h : Chosen L i ds chosen) : ∀ d ∈ ds, Segment d ∧ d ≠ "" := by
  intro d hd
  obtain ⟨n, hn, rfl⟩ := List.mem_iff_getElem.1 hd
  have hlen : n < chosen.length := h.length_eq ▸ hn
  obtain ⟨hx, hdisclosed⟩ := h.get hn hlen
  exact hdisclosed.filled hread (i.values _ hx)

theorem checkAsked_ok {b p : Fields} (h : Like b p) {name value text : String}
    (hv : List.lookup name p = some (.str value)) {asked : Option String}
    (hasked : ∀ a ∈ asked, a = value) : checkAsked b name asked text = .ok () := by
  obtain ⟨w, hw, heq⟩ := h.some hv
  obtain rfl := pyEq_text heq
  have hget : Fields.get b name = .str value := by
    rw [Fields.get, Fields.getD, hw]
    rfl
  unfold checkAsked
  cases asked with
  | none => rfl
  | some a =>
    obtain rfl := hasked a rfl
    exact if_pos (congrArg asText hget)

theorem checkBinding_iff {covered : String} {b : Fields} :
    checkBinding L.jose o covered (.obj b) = .ok () ↔
      checkAsked b "nonce" o.nonce "KB-JWT nonce mismatch" = .ok () ∧
      checkAsked b "aud" o.aud "KB-JWT audience mismatch" = .ok () ∧
      ∃ hash, digest L covered = .ok hash ∧ checkAsked b "sd_hash" (some hash)
        "KB-JWT sd_hash does not cover this presentation" = .ok () := by
  constructor
  · intro h
    rw [checkBinding] at h
    obtain ⟨_, hnonce, h⟩ := bind_ok h
    obtain ⟨_, haud, h⟩ := bind_ok h
    obtain ⟨hash, hhash, h⟩ := bind_ok h
    exact ⟨hnonce, haud, hash, uncaught_ok.1 hhash, h⟩
  · rintro ⟨hnonce, haud, hash, hhash, hbound⟩
    have hdigest : L.jose.digest covered = .ok hash := hhash
    rw [checkBinding, hnonce]
    change (checkAsked b "aud" o.aud _ >>= _) = _
    rw [haud]
    change (Yuno.uncaught (L.jose.digest covered) >>= _) = _
    rw [hdigest]
    exact hbound

/-- A claim that confirms a holder's key. -/
structure Confirms (L : Library) (claims : Fields) (holder : String) : Prop where
  jwk : ∃ cnf jwk, List.lookup "cnf" claims = some (.obj cnf) ∧ List.lookup "jwk" cnf = some jwk ∧
    jwk.truthy = true ∧ L.jwk jwk = .ok holder

theorem distinct_bindingClaims (nonce aud : String) (iat : ℤ) (sdHash : String) :
    JsonText.Distinct (.obj (bindingClaims nonce aud iat sdHash)) := by
  simp [bindingClaims, JsonText.Distinct, JsonText.DistinctFields]

/-- The key that is read of claims is the one that they confirm. -/
theorem confirms_of_like (hread : Readable L) {out claims : Fields}
    (hdistinct : JsonText.Distinct (.obj out))
    (hsame : Matches (List.lookup "cnf" out) (List.lookup "cnf" claims)) {f : Fields} {j : Json}
    {holder : String} (hcnf : List.lookup "cnf" out = some (.obj f))
    (hj : List.lookup "jwk" f = some j) (htrue : j.truthy = true) (hholder : L.jwk j = .ok holder) :
    Confirms L claims holder := by
  have hf : JsonText.Distinct (.obj f) := distinct_of_lookup hdistinct.2 hcnf
  rw [hcnf] at hsame
  obtain ⟨v, hv, heq⟩ := hsame.left
  cases v with
  | obj cnf =>
    have hjwk := like_of_pyEq hf.1 heq "jwk"
    rw [hj] at hjwk
    obtain ⟨jwk, hjwk, hsame⟩ := hjwk.left
    refine ⟨cnf, jwk, hv, hjwk, ?_, (hread.sameKey hsame).symm.trans hholder⟩
    rw [← truthy_of_pyEq hsame, htrue]
  | null | bool b | num m scale | str s | arr items => simp [Json.pyEq] at heq

/-- **A key binding** of the confirmed holder passes. -/
theorem binding_ok (hread : Readable L) (hcompact : Compact L publicKey) {out claims : Fields}
    (hdistinct : JsonText.Distinct (.obj out))
    (hlike : Matches (List.lookup "cnf" out) (List.lookup "cnf" claims))
    {holder nonce aud token sdHash kb : String} {iat : ℤ} {ds : List String}
    (hconfirms : Confirms L claims (publicKey holder))
    (hnonce : ∀ n ∈ o.nonce, n = nonce) (haud : ∀ a ∈ o.aud, a = aud)
    (hhash : digest L (presented token ds) = .ok sdHash)
    (hkb : signCompact L (bindingClaims nonce aud iat sdHash) holder "" "kb+jwt" = .ok kb) :
    checkKeyBinding L.jose o out token ds (some kb) = .ok () := by
  obtain ⟨cnf, jwk, hcnf, hjwk, htrue, hkey⟩ := hconfirms.jwk
  rw [hcnf] at hlike
  obtain ⟨w, hw, heq⟩ := hlike.right
  obtain ⟨f, rfl⟩ := pyEq_obj heq
  have hf : JsonText.Distinct (.obj f) := distinct_of_lookup hdistinct.2 hw
  obtain ⟨j, hj, hsame⟩ := (like_of_pyEq hf.1 heq).some hjwk
  have hget : Fields.get out "cnf" = .obj f := by
    rw [Fields.get, Fields.getD, hw]
    rfl
  have hgetj : Fields.get f "jwk" = j := by
    rw [Fields.get, Fields.getD, hj]
    rfl
  have hfields : ((Fields.get out "cnf").orElse (.obj [])).fields = some f := by
    rw [hget]
    cases f <;> rfl
  obtain ⟨b, hb, -, hbound⟩ :=
    verifyCompact_signed hread hcompact (distinct_bindingClaims _ _ _ _) hkb
  have hdict : L.jose.jwkFromDict j = .ok (publicKey holder) := (hread.sameKey hsame).trans hkey
  have hverify : L.jose.verifyCompact kb (publicKey holder) = .ok (.obj b) := hb
  have hcheck : checkBinding L.jose o (presented token ds) (.obj b) = .ok () :=
    checkBinding_iff.2 ⟨checkAsked_ok hbound rfl hnonce,
      checkAsked_ok hbound rfl haud, sdHash, hhash, checkAsked_ok hbound rfl (by simp)⟩
  unfold checkKeyBinding
  rw [hfields]
  dsimp only
  rw [hgetj, truthy_of_pyEq hsame, htrue, hdict]
  change (Yuno.caughtAs _ _ (L.jose.verifyCompact kb (publicKey holder)) >>= _) = _
  rw [hverify]
  exact hcheck

/-- What an issuer signed, and the disclosures of it that are presented. -/
structure Presentable (L : Library) (publicKey : String → String) (i : Issuance) (keys : Keys)
    (token : String) (ds : List String) : Prop where
  signed : ∃ payload all key kid, payloadOf L i.claims i.selective = .ok (payload, all) ∧
    signCompact L payload key kid "sd+jwt" = .ok token ∧ kid ≠ "" ∧
    keys.lookup kid = some (publicKey key) ∧ ∀ d ∈ ds, d ∈ all

/-- A presentation passes each check up to its key binding, whichever that is. -/
theorem presentable_ok (hread : Readable L) (hcompact : Compact L publicKey) {token : String}
    {ds : List String} (h : Presentable L publicKey i keys token ds)
    (hwithin : Within i.claims now o.leeway) : ∃ chosen out, Chosen L i ds chosen ∧
      JsonText.Distinct (.obj out) ∧
      Matches (List.lookup "cnf" out) (List.lookup "cnf" (discloseAll i.claims chosen)) ∧
      Like (popClaim (popClaim out "_sd") "_sd_alg") (shown i.claims chosen) ∧
      ∀ kb, Segment kb →
        checkKeyBinding L.jose o out token ds (if kb = "" then none else some kb) = .ok () →
        verifyWith L.jose o keys now (presented token ds ++ kb) =
          .ok (popClaim (popClaim out "_sd") "_sd_alg") := by
  obtain ⟨payload, all, key, kid, hpayload, htoken, hkid, hkey, hds⟩ := h.signed
  obtain ⟨d, hissuer, hdistinct, hlike⟩ :=
    issuer_ok hread hcompact (distinct_payload hpayload) htoken hkid hkey
  have hwindow := (checkWindow_iff hlike).2 ((within_payload hpayload).2 hwithin)
  obtain ⟨chosen, out, hchosen, hmerge, hout, hresult⟩ :=
    merge_ok hread hpayload hdistinct hlike hds
  refine ⟨chosen, out, hchosen, hout, ?_, like_shown hpayload hresult, fun kb hkb hbinding => ?_⟩
  · rw [← lookup_discloseAll (lookup_payload hpayload (by decide) (by decide)) chosen]
    exact hresult "cnf"
  · have hsplit := split_presented (segment_token hcompact htoken).1
      (filled_of_chosen hread hchosen) hkb
    refine verifyWith_iff.2 ⟨d, out, ?_⟩
    rw [hsplit]
    exact ⟨hissuer, hwindow, hmerge, hbinding, rfl⟩

/-- A presentation that the holder bound passes every check. -/
theorem bound_ok (hread : Readable L) (hcompact : Compact L publicKey) {out claims : Fields}
    (hdistinct : JsonText.Distinct (.obj out))
    (hcnf : Matches (List.lookup "cnf" out) (List.lookup "cnf" claims))
    {token holder nonce aud bound : String} {iat : ℤ} {ds : List String}
    (hconfirms : Confirms L claims (publicKey holder))
    (hattach : attachKeyBinding L (presented token ds) holder nonce aud iat = .ok bound)
    (hnonce : ∀ n ∈ o.nonce, n = nonce) (haud : ∀ a ∈ o.aud, a = aud) :
    ∃ kb, bound = presented token ds ++ kb ∧ Segment kb ∧
      checkKeyBinding L.jose o out token ds (if kb = "" then none else some kb) = .ok () := by
  have hends : (presented token ds).toList.getLast? = some '~' := by
    simp [presented]
  rw [attachKeyBinding, if_pos hends] at hattach
  obtain ⟨sdHash, hhash, hattach⟩ := bind_ok hattach
  obtain ⟨kb, hkb, hattach⟩ := bind_ok hattach
  obtain ⟨hsegment, hfilled⟩ := segment_token hcompact hkb
  refine ⟨kb, (Except.ok.inj hattach).symm, hsegment, ?_⟩
  rw [if_neg hfilled]
  exact binding_ok hread hcompact hdistinct hcnf hconfirms hnonce haud hhash hkb

/-- **What is issued** is taken apart into its token and its disclosures. -/
theorem issue_split (hread : Readable L) (hcompact : Compact L publicKey) {key kid sdJwt : String}
    (h : issue L i.claims key kid i.selective = .ok sdJwt) : ∃ payload all token,
      payloadOf L i.claims i.selective = .ok (payload, all) ∧
      signCompact L payload key kid "sd+jwt" = .ok token ∧ sdJwt = presented token all ∧
      splitPresentation sdJwt = (token, all, none) := by
  obtain ⟨payload, all, token, hpayload, htoken, rfl⟩ := issue_ok h
  obtain ⟨made, hmade, hall, -⟩ := payloadOf_ok hpayload
  have hempty : Segment "" := by unfold Segment; decide
  obtain ⟨chosen, hchosen, -⟩ := chosen_of_made hmade fun e (he : e ∈ all) => by
    rw [hall] at he
    obtain ⟨m, hm, rfl⟩ := List.mem_map.1 he
    exact ⟨m, hm, rfl⟩
  have hsplit := split_presented (segment_token hcompact htoken).1
    (filled_of_chosen hread hchosen) hempty
  rw [String.append_empty, if_pos rfl] at hsplit
  exact ⟨payload, all, token, hpayload, htoken, rfl, hsplit⟩

/-- **Every presentation of an issuance verifies**, whichever disclosures of it are presented and in
whatever order: to its claims with those disclosed. So does one that the holder bound. -/
theorem issued_verifies (hread : Readable L) (hcompact : Compact L publicKey) (i : Issuance)
    {key kid sdJwt : String} (hkid : kid ≠ "")
    (hissue : issue L i.claims key kid i.selective = .ok sdJwt)
    (hkey : keys.lookup kid = some (publicKey key)) (hwithin : Within i.claims now o.leeway)
    {ds : List String} (hds : ∀ d ∈ ds, d ∈ (splitPresentation sdJwt).2.1) :
    ∃ chosen, Chosen L i ds chosen ∧
      (o.requireKeyBinding = false → ∃ result,
        verifyWith L.jose o keys now (presented (splitPresentation sdJwt).1 ds) = .ok result ∧
          Like result (shown i.claims chosen)) ∧
      ∀ {holder nonce aud bound : String} {iat : ℤ},
        Confirms L (discloseAll i.claims chosen) (publicKey holder) →
        attachKeyBinding L (presented (splitPresentation sdJwt).1 ds) holder nonce aud iat =
          .ok bound →
        (∀ n ∈ o.nonce, n = nonce) → (∀ a ∈ o.aud, a = aud) →
        ∃ result, verifyWith L.jose o keys now bound = .ok result ∧
          Like result (shown i.claims chosen) := by
  have hempty : Segment "" := by unfold Segment; decide
  obtain ⟨payload, all, token, hpayload, htoken, -, hsplit⟩ := issue_split hread hcompact hissue
  rw [hsplit] at hds ⊢
  obtain ⟨chosen, out, hchosen, hdistinct, hcnf, hshown, hverify⟩ := presentable_ok hread hcompact
    (o := o) ⟨payload, all, key, kid, hpayload, htoken, hkid, hkey, hds⟩ hwithin
  refine ⟨chosen, hchosen, fun hrequire => ?_, ?_⟩
  · have hnone : checkKeyBinding L.jose o out token ds none = .ok () := by
      rw [checkKeyBinding, hrequire]
      rfl
    have h := hverify "" hempty hnone
    rw [String.append_empty] at h
    exact ⟨_, h, hshown⟩
  · intro holder nonce aud bound iat hconfirms hattach hnonce haud
    obtain ⟨kb, rfl, hsegment, hbinding⟩ :=
      bound_ok hread hcompact hdistinct hcnf hconfirms hattach hnonce haud
    exact ⟨_, hverify kb hsegment hbinding, hshown⟩

theorem lookup_discloseAll_ne {name : String} {chosen : List Selective}
    (h : ∀ x ∈ chosen, x.name ≠ name) (d : Fields) :
    List.lookup name (discloseAll d chosen) = List.lookup name d := by
  induction chosen generalizing d with
  | nil => rfl
  | cons x chosen ih =>
    obtain ⟨hx, hrest⟩ := List.forall_mem_cons.1 h
    refine (ih hrest _).trans ?_
    rw [Merchant.lookup_set, if_neg hx.symm]

/-- The mandate names its holder, whatever of it is disclosed. -/
theorem mandate_confirms {ds : List String} {chosen : List Selective}
    (h : Chosen mandateLibrary mandate ds chosen) :
    Confirms mandateLibrary (discloseAll mandate.claims chosen) "holder" := by
  have hname : ∀ x ∈ chosen, x.name ≠ "cnf" := by
    intro x hx
    obtain ⟨n, hn, rfl⟩ := List.mem_iff_getElem.1 hx
    have hmem := (h.get (h.length_eq ▸ hn) hn).1
    have hall : ∀ x ∈ mandate.selective, x.name ≠ "cnf" := by decide
    exact hall _ hmem
  refine ⟨[("jwk", .obj [("kty", .str "OKP")])], .obj [("kty", .str "OKP")], ?_, rfl, rfl, rfl⟩
  rw [lookup_discloseAll_ne hname]
  rfl

theorem mandate_within : Within mandate.claims 1000 0 := by
  constructor
  · intro v h
    cases h
    exact ⟨2000, by norm_num [number], by norm_num⟩
  · intro v h
    cases h

theorem canonical_of_writeText {v : Json} {bytes : List UInt8} (h : writeText v = some bytes) :
    mandateLibrary.canonicalJson v = .ok bytes := by
  simp only [mandateLibrary, signing, h]

theorem digest_signing (signed : String → Option (List UInt8)) (text : String) :
    digest (signing signed) text = digest (signing fun _ => none) text := rfl

/-- The text of the mandate is ASCII. -/
theorem isAscii_mandateText : isAscii mandateText = true := by
  obtain ⟨payload, all, token, hpayload, htoken, htext, -⟩ :=
    issue_split (readable_signing _) (compact_signing _) mandate_issued
  obtain ⟨made, hmade, rfl, -⟩ := payloadOf_ok hpayload
  obtain ⟨alg, body, -, hsign⟩ := signCompact_ok htoken
  rw [htext]
  refine isAscii_presented ?_ fun d hd => ?_
  · rw [(signed_signing hsign).2]
    exact isAscii_tokenOf _ _ body
  · obtain ⟨m, hm, rfl⟩ := List.mem_map.1 hd
    obtain ⟨n, hn, rfl⟩ := List.mem_iff_getElem.1 hm
    obtain ⟨content, -, hcontent⟩ := (hmade.get (hmade.length_eq ▸ hn) hn).1
    rw [List.get_eq_getElem] at hcontent
    rw [hcontent]
    exact isAscii_b64uEncode content

/-- What the holder signs. -/
theorem mandate_binding : ∃ hash body, digest mandateLibrary mandateText = .ok hash ∧
    writeText (.obj (bindingClaims "n1" "shop" 1000 hash)) = some body ∧
    bindingBody = some body := by
  obtain ⟨hash, hhash⟩ := digest_ascii (L := signing fun _ => none) isAscii_mandateText
  obtain ⟨body, hbody⟩ := writeText_safe (v := .obj (bindingClaims "n1" "shop" 1000 hash)) rfl rfl
  refine ⟨hash, body, (digest_signing mandateSigned _).trans hhash, hbody, ?_⟩
  rw [bindingBody, hhash]
  exact hbody

/-- The holder binds the mandate. -/
theorem mandate_bound : ∃ bound,
    attachKeyBinding mandateLibrary mandateText "holder" "n1" "shop" 1000 = .ok bound := by
  obtain ⟨hash, body, hhash, hwrite, hbody⟩ := mandate_binding
  obtain ⟨payload, all, token, -, -, htext, -⟩ :=
    issue_split (readable_signing _) (compact_signing _) mandate_issued
  have hends : mandateText.toList.getLast? = some '~' := by
    rw [htext]
    simp [presented]
  have hcanonical : mandateLibrary.canonicalJson
      (.obj (bindingClaims "n1" "shop" 1000 hash)) = .ok body := canonical_of_writeText hwrite
  have hholder : mandateSigned "holder" = some body := by
    rw [mandateSigned, if_neg (by decide), if_pos rfl, hbody]
  obtain ⟨kb, hkb⟩ : ∃ kb, mandateLibrary.sign "holder"
      (JsonText.dumps (.obj (headerOf "EdDSA" "" "kb+jwt"))) body = .ok kb :=
    ⟨_, sign_signing hholder _⟩
  exact ⟨_, attachKeyBinding_eq hends hhash ((signCompact_eq rfl hcanonical).trans hkb)⟩

/-- A mandate that its holder bound verifies. -/
theorem issued_verifies_mandate : ∃ bound result chosen,
    Chosen mandateLibrary mandate (splitPresentation mandateText).2.1 chosen ∧
    attachKeyBinding mandateLibrary mandateText "holder" "n1" "shop" 1000 = .ok bound ∧
    verifyWith mandateLibrary.jose ⟨some "n1", some "shop", true, 0⟩ [("k1", "issuer")] 1000 bound =
      .ok result ∧ Like result (shown mandate.claims chosen) := by
  obtain ⟨bound, hattach⟩ := mandate_bound
  have hkey : List.lookup "k1" [("k1", "issuer")] = some (id "issuer") := rfl
  obtain ⟨chosen, hchosen, -, hverify⟩ := issued_verifies (o := ⟨some "n1", some "shop", true, 0⟩)
    (readable_signing _) (compact_signing _) mandate (by decide) mandate_issued hkey mandate_within
    fun _ hd => hd
  obtain ⟨payload, all, token, -, -, htext, hsplit⟩ :=
    issue_split (readable_signing _) (compact_signing _) mandate_issued
  have hwhole : presented (splitPresentation mandateText).1 (splitPresentation mandateText).2.1 =
      mandateText := by
    rw [hsplit, htext]
  rw [hwhole] at hverify
  obtain ⟨result, hresult, hlike⟩ :=
    hverify (mandate_confirms hchosen) hattach (by simp) (by simp)
  exact ⟨bound, result, chosen, hchosen, hattach, hresult, hlike⟩

end Verify

end TryTrust.Trustlib
