import TryTrust.Audit.Tamper

/-!
# What a chain's last hash says

Two lists of events that `validate_chain` accepts, and that end in one hash.

* `Valid`: links join and hashes recompute; **`accepted_from`**: what the validator accepts;
* `eventTexts`: the texts that are hashed;
* **`histories_same`**: lists of one length with one last hash have the same contents, and the same
  numbers when all of them are known;
* `unnumbered_history`: a number is no part of a hash.
-/

namespace TryTrust.Audit

/-- Events that join, each with the hash of its own content. -/
def Valid (K : Crypto) (prev : String) (es : List AuditEvent) : Prop :=
  HashChain.Linked AuditEvent.prevHash AuditEvent.hash prev es ∧ ∀ e ∈ es, e.rehash K = .ok e.hash

/-- The texts that are hashed over some events. -/
def eventTexts (es : List AuditEvent) : Set String := {text | ∃ e ∈ es, e.text = some text}

/-- Two lists of events end in one hash. -/
def SameEnd (xs ys : List AuditEvent) : Prop :=
  xs.length = ys.length ∧ xs.getLast?.map (·.hash) = ys.getLast?.map (·.hash)

variable {K : Crypto}

/-- One event of an accepted list. -/
theorem accepted_cons {start : Option String} {check : Bool} {i : ℕ} {prev : Option AuditEvent}
    {e : AuditEvent} {es : List AuditEvent} :
    Passes (validateFrom K start check i prev (e :: es)) ↔
      (check = true → prev.bind (seqGap · e) = none) ∧
        (e.prevHash = expectedPrev start prev e ∧ e.rehash K = .ok e.hash) ∧
          Passes (validateFrom K start check (i + 1) (some e) es) := by
  rw [← validateEvent_iff]
  cases hgap : (if check then prev.bind (seqGap · e) else none) with
  | some gap =>
    constructor
    · rintro ⟨r, hr, hok⟩
      simp only [validateFrom, hgap] at hr
      rw [← Except.ok.inj hr] at hok
      cases hok
    · rintro ⟨hnone, -⟩
      split_ifs at hgap with hcheck
      rw [hnone hcheck] at hgap
      cases hgap
  | none =>
    have hnone : check = true → prev.bind (seqGap · e) = none := by
      intro hcheck
      rwa [if_pos hcheck] at hgap
    simp only [validateFrom, hgap, bind, Except.bind]
    cases hval : validateEvent K e (expectedPrev start prev e) with
    | error x =>
      constructor
      · rintro ⟨r, hr, -⟩
        cases hr
      · rintro ⟨-, h, -⟩
        cases h
    | ok reason =>
      cases reason with
      | none => exact ⟨fun h => ⟨hnone, rfl, h⟩, fun h => h.2.2⟩
      | some reason =>
        constructor
        · rintro ⟨r, hr, hok⟩
          rw [← Except.ok.inj hr] at hok
          cases hok
        · rintro ⟨-, h, -⟩
          cases h

/-- No gap between two neighbours whose numbers are known. -/
def NoGaps (es : List AuditEvent) : Prop := es.IsChain fun a b => seqGap a b = none

/-- **What is accepted** joins and recomputes, and has no gap if that is checked. -/
theorem accepted_from {start : Option String} {check : Bool} {i : ℕ} {prev : AuditEvent}
    {es : List AuditEvent} : Passes (validateFrom K start check i (some prev) es) ↔
      Valid K prev.hash es ∧ (check = true → NoGaps (prev :: es)) := by
  induction es generalizing i prev with
  | nil => exact ⟨fun _ => ⟨⟨trivial, by simp⟩, fun _ => .singleton _⟩, fun _ => ⟨_, rfl, rfl⟩⟩
  | cons e es ih =>
    rw [accepted_cons, ih]
    simp only [Valid, HashChain.Linked, List.forall_mem_cons, Option.bind_some, expectedPrev,
      NoGaps, List.isChain_cons_cons]
    tauto

theorem accepted_valid {start : Option String} {check : Bool} {es : List AuditEvent}
    (h : Passes (validateChain K es start check)) : ∃ prev, Valid K prev es := by
  cases es with
  | nil => exact ⟨genesisPrevHash, trivial, by simp⟩
  | cons e es =>
    obtain ⟨-, ⟨-, hhash⟩, hrest⟩ := accepted_cons.1 h
    obtain ⟨⟨hlinked, hgenuine⟩, -⟩ := accepted_from.1 hrest
    exact ⟨e.prevHash, ⟨rfl, hlinked⟩, List.forall_mem_cons.2 ⟨hhash, hgenuine⟩⟩

/-- A valid list without gaps is accepted, where the validator starts before its first event. -/
theorem valid_accepted {start : Option String} {prev : String} {es : List AuditEvent}
    (h : Valid K prev es) (hstart : ∀ e ∈ es.head?, expectedPrev start none e = prev)
    (hgaps : NoGaps es) : Passes (validateChain K es start true) := by
  cases es with
  | nil => exact ⟨_, rfl, rfl⟩
  | cons e es =>
    obtain ⟨⟨hprev, hlinked⟩, hall⟩ := h
    obtain ⟨hhash, hgenuine⟩ := List.forall_mem_cons.1 hall
    exact accepted_cons.2 ⟨fun _ => rfl, ⟨hprev.trans (hstart e rfl).symm, hhash⟩,
      accepted_from.2 ⟨⟨hlinked, hgenuine⟩, fun _ => hgaps⟩⟩

/-- The last hash, for a chain that may be empty. -/
theorem sameEnd_head {p : String} {xs ys : List AuditEvent} (h : SameEnd xs ys) :
    HashChain.head AuditEvent.hash p xs = HashChain.head AuditEvent.hash p ys := by
  rw [HashChain.head, HashChain.head, h.2]

/-- **Valid lists** with one length and one last hash. -/
theorem valid_same {p q : String} {xs ys : List AuditEvent} (hx : Valid K p xs)
    (hy : Valid K q ys) (hK : Set.InjOn K.sha256 (eventTexts (xs ++ ys))) (h : SameEnd xs ys) :
    List.Forall₂ SameContent xs ys := by
  cases xs with
  | nil =>
    obtain rfl := List.length_eq_zero_iff.1 h.1.symm
    exact .nil
  | cons x xs =>
    have hhead : HashChain.head AuditEvent.hash p (x :: xs) =
        HashChain.head AuditEvent.hash q ys := by
      rw [HashChain.head_cons, ← HashChain.head_cons q x xs]
      exact sameEnd_head h
    refine (HashChain.commit hx.1 hy.1 (fun a ha b hb heq => ?_) h.1 hhead).1
    have hsame := same_content hK (fun _ ht => ⟨a, List.mem_append_left _ ha, ht⟩)
      (fun _ ht => ⟨b, List.mem_append_right _ hb, ht⟩) (hx.2 a ha) (hy.2 b hb) heq
    exact ⟨hsame, hsame.prevHash⟩

/-- Accepted lists that are numbered throughout are numbered by their first number. -/
theorem numbered_same {R : AuditEvent → AuditEvent → Prop} {start start' : Option String}
    {xs ys : List AuditEvent} (hx : Passes (validateChain K xs start true))
    (hy : Passes (validateChain K ys start' true)) (hxs : ∀ e ∈ xs, e.seq.isSome)
    (hys : ∀ e ∈ ys, e.seq.isSome) (hfirst : xs.head?.map (·.seq) = ys.head?.map (·.seq))
    (h : List.Forall₂ R xs ys) : List.Forall₂ (fun e f => R e f ∧ e.seq = f.seq) xs ys := by
  cases h with
  | nil => exact .nil
  | @cons x y xs ys hR hrest =>
    obtain ⟨n, hn⟩ := Option.isSome_iff_exists.1 (hxs x List.mem_cons_self)
    have hyn : y.seq = some n := (Option.some.inj hfirst).symm.trans hn
    exact chained_numbers
      ((validateChain_iff start hn fun f hf => hxs f (List.mem_cons_of_mem _ hf)).1 hx)
      ((validateChain_iff start' hyn fun f hf => hys f (List.mem_cons_of_mem _ hf)).1 hy)
      (.cons hR hrest)

/-- **A last hash fixes a history.** Two accepted lists of one length and one last hash have the
same contents, event for event, where the hash has no collision on their texts; and the same
numbers, when the validator checked numbers, every event has one, and the first ones agree. -/
theorem histories_same {start start' : Option String} {check check' : Bool}
    {xs ys : List AuditEvent} (hx : Passes (validateChain K xs start check))
    (hy : Passes (validateChain K ys start' check'))
    (hK : Set.InjOn K.sha256 (eventTexts (xs ++ ys))) (h : SameEnd xs ys) :
    List.Forall₂ SameContent xs ys ∧
      (check = true → check' = true → (∀ e ∈ xs ++ ys, e.seq.isSome) →
        xs.head?.map (·.seq) = ys.head?.map (·.seq) → List.Forall₂ SameEvent xs ys) := by
  obtain ⟨p, hp⟩ := accepted_valid hx
  obtain ⟨q, hq⟩ := accepted_valid hy
  have hsame := valid_same hp hq hK h
  refine ⟨hsame, ?_⟩
  rintro rfl rfl hnumbered hfirst
  exact numbered_same hx hy (fun e he => hnumbered e (List.mem_append_left _ he))
    (fun e he => hnumbered e (List.mem_append_right _ he)) hfirst hsame

/-! ## Histories of two events -/

/-- An event with its hash. -/
def madeEvent (prevHash : String) (payload : Json) (seq : Option ℤ) : AuditEvent where
  mandateId := "mdt_1"
  type := "purchase.verified"
  payload := payload
  prevHash := prevHash
  hash := ((computeEventHash textCrypto "mdt_1" "purchase.verified" payload prevHash
    "2026-08-31T00:00:00").toOption).getD ""
  createdAt := "2026-08-31T00:00:00"
  seq := seq
  rootSig := none

/-- Its hash is that of its text. -/
theorem made_hash {prevHash : String} {payload : Json} (seq : Option ℤ)
    (hprev : IsHex64 prevHash) {text : String}
    (htext : (madeEvent prevHash payload seq).text = some text) :
    (madeEvent prevHash payload seq).hash = textCrypto.sha256 text ∧
      (madeEvent prevHash payload seq).rehash textCrypto = .ok (textCrypto.sha256 text) := by
  have hcompute : computeEventHash textCrypto "mdt_1" "purchase.verified" payload prevHash
      "2026-08-31T00:00:00" = .ok (textCrypto.sha256 text) := by
    rw [computeEventHash, if_neg (by decide), if_neg (by decide), if_neg hprev.ne_empty,
      canonicalJson, show canonicalText (eventEnvelope "mdt_1" "purchase.verified" payload prevHash
        "2026-08-31T00:00:00") = some text from htext]
    rfl
  refine ⟨?_, hcompute⟩
  rw [madeEvent, hcompute]
  rfl

theorem made_rehash {prevHash : String} {payload : Json} (seq : Option ℤ)
    (hprev : IsHex64 prevHash) (htext : (madeEvent prevHash payload seq).text.isSome) :
    (madeEvent prevHash payload seq).rehash textCrypto =
      .ok (madeEvent prevHash payload seq).hash := by
  obtain ⟨text, htext⟩ := Option.isSome_iff_exists.1 htext
  obtain ⟨hhash, hrehash⟩ := made_hash seq hprev htext
  rw [hrehash, hhash]

/-- Two events from genesis. -/
def twoEvents (payload : Json) (seq : Option ℤ) : List AuditEvent :=
  let first := madeEvent genesisPrevHash payload (some 1)
  [first, madeEvent first.hash payload seq]

/-- Both are accepted, with the number of the second and without. -/
theorem twoEvents_accepted {payload : Json} {seq : Option ℤ}
    (hfirst : (madeEvent genesisPrevHash payload (some 1)).text.isSome)
    (hsecond : (madeEvent (madeEvent genesisPrevHash payload (some 1)).hash payload
      seq).text.isSome) (hseq : seq = none ∨ seq = some 2) :
    Passes (validateChain textCrypto (twoEvents payload seq) none true) := by
  have hhash := made_rehash (some 1) genesis_hex64 hfirst
  have hvalid : Valid textCrypto genesisPrevHash (twoEvents payload seq) := by
    refine ⟨⟨rfl, rfl, trivial⟩, ?_⟩
    simp only [twoEvents, List.forall_mem_cons]
    exact ⟨hhash, made_rehash seq (rehash_hex hhash) hsecond, by simp⟩
  refine valid_accepted hvalid (fun e he => ?_) (.cons_cons ?_ (.singleton _))
  · obtain rfl := Option.some.inj he
    rfl
  · rcases hseq with rfl | rfl
    · rfl
    · rfl

/-- The texts of two such histories. -/
theorem twoEvents_injOn {payload : Json} (seq seq' : Option ℤ)
    (h : ((twoEvents payload none).filterMap (·.text)).Pairwise fun x y =>
      textCrypto.sha256 x = textCrypto.sha256 y → x = y) :
    Set.InjOn textCrypto.sha256
      (eventTexts (twoEvents payload seq ++ twoEvents payload seq')) := by
  refine (injOn_of_pairwise h).mono ?_
  rintro text ⟨e, he, htext⟩
  refine List.mem_filterMap.2 ?_
  simp only [twoEvents, List.mem_append, List.mem_cons, List.not_mem_nil, or_false] at he ⊢
  rcases he with (rfl | rfl) | rfl | rfl
  · exact ⟨_, .inl rfl, htext⟩
  · exact ⟨_, .inr rfl, htext⟩
  · exact ⟨_, .inl rfl, htext⟩
  · exact ⟨_, .inr rfl, htext⟩

/-- **A number is no part of a hash**: the second event of a history with its number and without. -/
theorem unnumbered_history :
    Passes (validateChain textCrypto (twoEvents (.obj []) (some 2)) none true) ∧
    Passes (validateChain textCrypto (twoEvents (.obj []) none) none true) ∧
    Set.InjOn textCrypto.sha256
      (eventTexts (twoEvents (.obj []) (some 2) ++ twoEvents (.obj []) none)) ∧
    SameEnd (twoEvents (.obj []) (some 2)) (twoEvents (.obj []) none) ∧
    ¬ List.Forall₂ SameEvent (twoEvents (.obj []) (some 2)) (twoEvents (.obj []) none) := by
  refine ⟨twoEvents_accepted (by decide +kernel) (by decide +kernel) (.inr rfl),
    twoEvents_accepted (by decide +kernel) (by decide +kernel) (.inl rfl),
    twoEvents_injOn _ _ (by decide +kernel), ⟨rfl, rfl⟩, ?_⟩
  rintro (_ | ⟨-, _ | ⟨⟨-, hseq⟩, -⟩⟩)
  cases hseq

/-- A payload in two orders. -/
def paidPayload : Json := .obj [("amount_cents", .num 13002 0), ("currency", .str "USD")]

def reversedPayload : Json := .obj [("currency", .str "USD"), ("amount_cents", .num 13002 0)]

/-- Their texts are one. -/
theorem reversed_text : (madeEvent genesisPrevHash paidPayload (some 1)).text =
    (madeEvent genesisPrevHash reversedPayload (some 1)).text := by
  decide +kernel

/-- The order of a payload is no part of a history. -/
theorem histories_same_reordered :
    List.Forall₂ SameEvent [madeEvent genesisPrevHash paidPayload (some 1)]
      [madeEvent genesisPrevHash reversedPayload (some 1)] := by
  have haccepted : ∀ payload, (madeEvent genesisPrevHash payload (some 1)).text.isSome →
      Passes (validateChain textCrypto [madeEvent genesisPrevHash payload (some 1)] none true) := by
    intro payload htext
    refine valid_accepted ⟨⟨rfl, trivial⟩, ?_⟩ (fun e he => ?_) (.singleton _)
    · simpa using made_rehash (some 1) genesis_hex64 htext
    · obtain rfl := Option.some.inj he
      rfl
  have hsome : (madeEvent genesisPrevHash paidPayload (some 1)).text.isSome := by decide +kernel
  have hx := haccepted paidPayload hsome
  have hy := haccepted reversedPayload (reversed_text ▸ hsome)
  obtain ⟨text, htext⟩ := Option.isSome_iff_exists.1 hsome
  have htext' := reversed_text ▸ htext
  have hone : eventTexts ([madeEvent genesisPrevHash paidPayload (some 1)] ++
      [madeEvent genesisPrevHash reversedPayload (some 1)]) ⊆ {text} := by
    rintro t ⟨e, he, ht⟩
    simp only [List.mem_append, List.mem_singleton] at he
    rcases he with rfl | rfl
    · exact Option.some.inj (ht.symm.trans htext)
    · exact Option.some.inj (ht.symm.trans htext')
  have hend : SameEnd [madeEvent genesisPrevHash paidPayload (some 1)]
      [madeEvent genesisPrevHash reversedPayload (some 1)] := by
    have hhash := (made_hash (some 1) genesis_hex64 htext).1.trans
      (made_hash (some 1) genesis_hex64 htext').1.symm
    exact ⟨rfl, congrArg some hhash⟩
  exact (histories_same hx hy ((Set.subsingleton_singleton.anti hone).injOn _) hend).2 rfl rfl
    (by simp [madeEvent]) rfl

end TryTrust.Audit
