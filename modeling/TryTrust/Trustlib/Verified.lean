import TryTrust.Trustlib.Presentations

/-!
# What verifies

What a verifier accepts, whoever wrote it, while nobody signs with the keys of others.

* `Binding`: what a holder binds; `Issued`, `Held`: what keys have signed;
* `issued_of_issuerClaims`, `mem_of_merge`, `checkKeyBinding_some`: what each check says;
* **`verified_issued`**: what verifies is a presentation of an issuance, and bound by its holder.
-/

namespace TryTrust.Trustlib

open PyEqual (Like pyEq_text)

open Yuno (Raised Jose Options Keys Failure splitPresentation presented popClaim mergeDisclosures
  signedDigests issuerClaims keyFor checkKeyBinding checkBinding checkAsked verifyWith number asText
  bind_ok caughtAs_ok)

variable {L : Library} {i : Issuance} {keys : Keys} {o : Options} {now : ℤ}

/-! ## Keys that nobody else signs with -/

/-- A key binding: the presentation, and for whom it is. -/
structure Binding where
  presented : String
  nonce : String
  aud : String
  iat : ℤ

/-- **Unforgeable**: what verifies under a published key is the payload of an issuance. -/
def Issued (L : Library) (keys : Keys) (issued : Set Issuance) : Prop :=
  ∀ e ∈ keys, ∀ {token : String} {body : List UInt8}, L.payload token e.2 = .ok body →
    ∃ i ∈ issued, ∃ payload all, payloadOf L i.claims i.selective = .ok (payload, all) ∧
      L.canonicalJson (.obj payload) = .ok body

/-- **Unforgeable**: what verifies under a holder's key and has an `sd_hash` is what
`attach_key_binding` made for the holder. -/
def Held (L : Library) (bound : String → Set Binding) : Prop :=
  ∀ {jwk : Json} {holder token hash : String} {body : List UInt8} {d : Fields},
    L.jwk jwk = .ok holder → L.payload token holder = .ok body → L.loads body = .ok (.obj d) →
    List.lookup "sd_hash" d = some (.str hash) →
    ∃ b ∈ bound holder, digest L b.presented = .ok hash ∧
      L.canonicalJson (.obj (bindingClaims b.nonce b.aud b.iat hash)) = .ok body

theorem keyFor_mem {kid : Json} {key : String} (h : keyFor keys kid = .ok (some key)) :
    ∃ e ∈ keys, e.2 = key := by
  unfold keyFor at h
  split_ifs at h
  · cases kid with
    | str s =>
      obtain ⟨l, r, hkeys, -⟩ := List.lookup_eq_some_iff.1 (Except.ok.inj h)
      exact ⟨(s, key), by simp [hkeys], rfl⟩
    | null | bool b | num m scale | arr items | obj fields => cases h
  · obtain ⟨e, he, rfl⟩ := Option.map_eq_some_iff.1 (Except.ok.inj h)
    exact ⟨e, List.mem_of_head? he, rfl⟩

/-- The issuer's claims are of an issuance. -/
theorem issued_of_issuerClaims (hread : Readable L) {issued : Set Issuance}
    (hissued : Issued L keys issued) {token : String} {d : Fields}
    (h : issuerClaims L.jose keys token = .ok d) : ∃ i ∈ issued, ∃ payload all,
      payloadOf L i.claims i.selective = .ok (payload, all) ∧ JsonText.Distinct (.obj d) ∧
        Like d payload := by
  obtain ⟨header, key, -, hkey, hverify⟩ := Yuno.issuerClaims_ok h
  obtain ⟨e, he, rfl⟩ := keyFor_mem hkey
  obtain ⟨body, hbody, hloads⟩ := bind_ok hverify
  obtain ⟨i, hi, payload, all, hpayload, hcanonical⟩ := hissued e he hbody
  obtain ⟨d', hd', hdistinct, hlike⟩ := payload_like hread (distinct_payload hpayload) hcanonical
  have hsame := Except.ok.inj (hd'.symm.trans hloads)
  cases hsame
  exact ⟨i, hi, payload, all, hpayload, hdistinct, hlike⟩

/-- What is merged of an issuance is disclosures of it. -/
theorem mem_of_merge (hsha : Function.Injective L.sha256) {payload d out : Fields}
    {all ds : List String} (h : payloadOf L i.claims i.selective = .ok (payload, all))
    (hlike : Like d payload) (hmerge : mergeDisclosures L.jose d ds = .ok out) :
    ∀ e ∈ ds, e ∈ all := by
  obtain ⟨made, hsigned, hmade, rfl⟩ := signedDigests_payload h hlike
  intro e he
  unfold mergeDisclosures at hmerge
  rw [if_neg (List.ne_nil_of_mem he), hsigned] at hmerge
  obtain ⟨hash, hhash, hdigest⟩ := signed_of_addDisclosures hmerge e he
  obtain ⟨m, hm, rfl⟩ := made_of_signed hsha hmade hhash hdigest
  exact List.mem_map.2 ⟨m, hm, rfl⟩

theorem checkAsked_some {b : Fields} {name value text : String}
    (h : checkAsked b name (some value) text = .ok ()) :
    List.lookup name b = some (.str value) := by
  unfold checkAsked at h
  dsimp only at h
  split_ifs at h with hvalue
  rw [Fields.get, Fields.getD] at hvalue
  cases hb : List.lookup name b with
  | none =>
    rw [hb] at hvalue
    cases hvalue
  | some w =>
    rw [hb] at hvalue
    cases w with
    | str s => rw [Option.some.inj hvalue]
    | null | bool c | num m scale | arr items | obj fields => cases hvalue

/-- A claim of a binding that was asked for is the one of the binding. -/
theorem asked_eq {b p : Fields} (h : Like b p) {name value text : String}
    (hv : List.lookup name p = some (.str value)) {asked : Option String}
    (hasked : checkAsked b name asked text = .ok ()) {a : String} (ha : a ∈ asked) :
    a = value := by
  obtain rfl := Option.mem_def.1 ha
  obtain ⟨w, hw, heq⟩ := h.some hv
  rw [checkAsked_some hasked, pyEq_text heq] at hw
  exact Json.str.inj (Option.some.inj hw)

theorem fields_orElse {v : Json} {f : Fields} (h : (v.orElse (.obj [])).fields = some f)
    (hf : f ≠ []) : v = .obj f := by
  unfold Json.orElse at h
  split_ifs at h with htrue
  · cases v with
    | obj d => rw [Option.some.inj h]
    | null | bool b | num m scale | str s | arr items => simp [Json.fields, htrue] at h
  · exact absurd (Option.some.inj h).symm hf

/-- What a key binding that passes was checked with. -/
theorem checkKeyBinding_some {out : Fields} {token kb : String} {ds : List String}
    (h : checkKeyBinding L.jose o out token ds (some kb) = .ok ()) : ∃ f j holder body b,
      List.lookup "cnf" out = some (.obj f) ∧ List.lookup "jwk" f = some j ∧ j.truthy = true ∧
      L.jwk j = .ok holder ∧ L.payload kb holder = .ok body ∧ L.loads body = .ok (.obj b) ∧
      checkBinding L.jose o (presented token ds) (.obj b) = .ok () := by
  unfold checkKeyBinding at h
  cases hfields : ((Fields.get out "cnf").orElse (.obj [])).fields with
  | none =>
    rw [hfields] at h
    cases h
  | some f =>
    rw [hfields] at h
    dsimp only at h
    cases htrue : (Fields.get f "jwk").truthy with
    | false =>
      rw [htrue] at h
      cases h
    | true =>
      rw [htrue] at h
      obtain ⟨holder, hholder, h⟩ := bind_ok h
      obtain ⟨payload, hverify, h⟩ := bind_ok h
      obtain ⟨body, hbody, hloads⟩ := bind_ok (caughtAs_ok.1 hverify)
      have hj : List.lookup "jwk" f = some (Fields.get f "jwk") := by
        rw [Fields.get, Fields.getD] at htrue ⊢
        cases hlookup : List.lookup "jwk" f with
        | none =>
          rw [hlookup] at htrue
          cases htrue
        | some w => rfl
      have hcnf : Fields.get out "cnf" = .obj f := by
        refine fields_orElse hfields ?_
        rintro rfl
        cases hj
      have hlookup : List.lookup "cnf" out = some (.obj f) := by
        rw [Fields.get, Fields.getD] at hcnf
        cases hout : List.lookup "cnf" out with
        | none =>
          rw [hout] at hcnf
          cases hcnf
        | some w =>
          rw [hout] at hcnf
          rw [show w = .obj f from hcnf]
      cases payload with
      | obj b =>
        exact ⟨f, _, holder, body, b, hlookup, hj, htrue, caughtAs_ok.1 hholder, hbody, hloads, h⟩
      | null | bool c | num m scale | str s | arr items => cases h

/-- **What verifies is a presentation of an issuance**: to its claims with some of its disclosures,
in its window. Where a key binding is asked for or comes with it, the holder that the claims confirm
bound exactly this presentation, for this nonce and this verifier. -/
theorem verified_issued (hread : Readable L) (hsha : Function.Injective L.sha256)
    {issued : Set Issuance} (hissued : Issued L keys issued) {bound : String → Set Binding}
    (hheld : Held L bound) {p : String} {result : Fields}
    (h : verifyWith L.jose o keys now p = .ok result) : ∃ i ∈ issued, ∃ chosen,
      Chosen L i (splitPresentation p).2.1 chosen ∧ Within i.claims now o.leeway ∧
      Like result (shown i.claims chosen) ∧
      (o.requireKeyBinding = true ∨ (splitPresentation p).2.2 ≠ none →
        ∃ holder, Confirms L (discloseAll i.claims chosen) holder ∧ ∃ b ∈ bound holder,
          b.presented = presented (splitPresentation p).1 (splitPresentation p).2.1 ∧
          (∀ n ∈ o.nonce, n = b.nonce) ∧ ∀ a ∈ o.aud, a = b.aud) := by
  obtain ⟨d, out, hissuer, hwindow, hmerge, hbinding, rfl⟩ := verifyWith_iff.1 h
  obtain ⟨i, hi, payload, all, hpayload, hdistinct, hlike⟩ :=
    issued_of_issuerClaims hread hissued hissuer
  obtain ⟨chosen, out', hchosen, hmerge', hout, hresult⟩ :=
    merge_ok hread hpayload hdistinct hlike (mem_of_merge hsha hpayload hlike hmerge)
  obtain rfl := Except.ok.inj (hmerge'.symm.trans hmerge)
  refine ⟨i, hi, chosen, hchosen,
    (within_payload hpayload).1 ((checkWindow_iff hlike).1 hwindow),
    like_shown hpayload hresult, fun hasked => ?_⟩
  cases hkb : (splitPresentation p).2.2 with
  | none =>
    rw [hkb] at hasked hbinding
    rw [checkKeyBinding, if_pos (hasked.resolve_right fun h => h rfl)] at hbinding
    cases hbinding
  | some kb =>
    rw [hkb] at hbinding
    obtain ⟨f, j, holder, body, b, hcnf, hj, htrue, hholder, hbody, hloads, hcheck⟩ :=
      checkKeyBinding_some hbinding
    obtain ⟨hnonce, haud, hash, hhash, hbound⟩ := checkBinding_iff.1 hcheck
    obtain ⟨made, hmade, hdigest, hcanonical⟩ :=
      hheld hholder hbody hloads (checkAsked_some hbound)
    obtain ⟨b', hb', -, hlikeb⟩ := payload_like hread (distinct_bindingClaims _ _ _ _) hcanonical
    cases Except.ok.inj (hb'.symm.trans hloads)
    refine ⟨holder, ?_, made, hmade, digest_injective hsha hdigest hhash, ?_, ?_⟩
    · refine confirms_of_like hread hout ?_ hcnf hj htrue hholder
      rw [← lookup_discloseAll (lookup_payload hpayload (by decide) (by decide)) chosen]
      exact hresult "cnf"
    · exact fun n hn => asked_eq hlikeb rfl hnonce hn
    · exact fun a ha => asked_eq hlikeb rfl haud ha

/-- What the keys of the mandate's library have signed. -/
theorem mandate_payload {token key : String} {body : List UInt8}
    (h : mandateLibrary.payload token key = .ok body) :
    key = "issuer" ∧ mandateBody = some body ∨ key = "holder" ∧ bindingBody = some body := by
  simp only [mandateLibrary, signing] at h
  split at h
  · rename_i bytes hbytes
    cases h
    unfold payloadFrom at hbytes
    split at hbytes
    · split_ifs at hbytes
      unfold mandateSigned at hbytes
      split_ifs at hbytes with hissuer hholder
      · exact .inl ⟨hissuer, hbytes⟩
      · exact .inr ⟨hholder, hbytes⟩
    · cases hbytes
  · cases h

theorem mandate_unforged : Issued mandateLibrary [("k1", "issuer")] {mandate} := by
  intro e he token body h
  rw [List.mem_singleton.1 he] at h
  rcases mandate_payload h with ⟨-, hbody⟩ | ⟨hkey, -⟩
  · refine ⟨mandate, rfl, ?_⟩
    obtain ⟨p, hp, hwrite⟩ := Option.bind_eq_some_iff.1 hbody
    cases hpayload : payloadOf (signing fun _ => none) mandate.claims mandate.selective with
    | ok q =>
      rw [hpayload] at hp
      cases hp
      exact ⟨p.1, p.2, hpayload, canonical_of_writeText hwrite⟩
    | error x =>
      rw [hpayload] at hp
      cases hp
  · exact absurd hkey (by decide)

/-- What the holder of the mandate has bound. -/
def mandateBindings (holder : String) : Set Binding :=
  {b | holder = "holder" ∧ b = ⟨mandateText, "n1", "shop", 1000⟩}

theorem mandate_held : Held mandateLibrary mandateBindings := by
  intro jwk holder token hash body d hholder h hloads hsd
  rcases mandate_payload h with ⟨hkey, -⟩ | ⟨-, hbody⟩
  · cases hholder
    exact absurd hkey (by decide)
  · obtain ⟨hash', hdigest, hwrite⟩ := Option.bind_eq_some_iff.1 hbody
    have hcanonical := canonical_of_writeText hwrite
    obtain ⟨d', hd', -, hlike⟩ :=
      payload_like (readable_signing _) (distinct_bindingClaims _ _ _ _) hcanonical
    cases Except.ok.inj (hd'.symm.trans hloads)
    have hlookup : List.lookup "sd_hash" (bindingClaims "n1" "shop" 1000 hash') =
        some (.str hash') := rfl
    obtain ⟨w, hw, heq⟩ := hlike.some hlookup
    have hsame := Option.some.inj (hsd.symm.trans hw)
    rw [pyEq_text heq] at hsame
    cases hsame
    refine ⟨_, ⟨(Except.ok.inj hholder).symm, rfl⟩, ?_, hcanonical⟩
    cases hok : digest (signing fun _ => none) mandateText with
    | ok got =>
      rw [hok] at hdigest
      cases hdigest
      exact hok
    | error x =>
      rw [hok] at hdigest
      cases hdigest

/-- The mandate that its holder bound passes every check. -/
theorem mandate_passes : ∃ bound result,
    attachKeyBinding mandateLibrary mandateText "holder" "n1" "shop" 1000 = .ok bound ∧
    verifyWith mandateLibrary.jose ⟨some "n1", some "shop", true, 0⟩ [("k1", "issuer")] 1000 bound =
      .ok result := by
  obtain ⟨bound, hattach⟩ := mandate_bound
  obtain ⟨payload, all, token, hpayload, htoken, htext, -⟩ :=
    issue_split (readable_signing _) (compact_signing _) mandate_issued
  have hkey : List.lookup "k1" [("k1", "issuer")] = some (id "issuer") := rfl
  obtain ⟨chosen, out, hchosen, hdistinct, hcnf, -, hverify⟩ := presentable_ok
    (o := ⟨some "n1", some "shop", true, 0⟩) (readable_signing _) (compact_signing _)
    ⟨payload, all, "issuer", "k1", hpayload, htoken, by decide, hkey, fun _ hd => hd⟩
    mandate_within
  obtain ⟨kb, rfl, hsegment, hbinding⟩ := bound_ok (o := ⟨some "n1", some "shop", true, 0⟩)
    (readable_signing _) (compact_signing _) hdistinct hcnf (mandate_confirms hchosen)
    (htext ▸ hattach) (by simp) (by simp)
  exact ⟨_, _, hattach, hverify kb hsegment hbinding⟩

/-- The bound mandate is one that was issued. -/
theorem verified_issued_mandate : ∃ bound result,
    verifyWith mandateLibrary.jose ⟨some "n1", some "shop", true, 0⟩ [("k1", "issuer")] 1000 bound =
      .ok result ∧ ∃ chosen,
        Chosen mandateLibrary mandate (splitPresentation bound).2.1 chosen ∧
        Like result (shown mandate.claims chosen) ∧
        presented (splitPresentation bound).1 (splitPresentation bound).2.1 = mandateText := by
  obtain ⟨bound, result, -, hverify⟩ := mandate_passes
  obtain ⟨i, rfl, chosen, hchosen, -, hlike, hbound⟩ :=
    verified_issued (readable_signing _) (fun _ _ h => h) mandate_unforged mandate_held hverify
  obtain ⟨holder, -, b, ⟨-, rfl⟩, hpresented, -⟩ := hbound (.inl rfl)
  exact ⟨bound, result, hverify, chosen, hchosen, hlike, hpresented.symm⟩

end TryTrust.Trustlib
