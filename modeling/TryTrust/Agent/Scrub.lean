import TryTrust.Audit.AgentAppends
import TryTrust.Backtrack

/-!
# Personal data

`scrub_payload` replaces e-mail addresses, card numbers, security codes and phone numbers in the
texts of a payload; the names of its entries and its numbers stay.

* `Classes`, the character classes of `re`; `email`, `pan`, `cvv`, `phone`, `scrubText`,
  `scrubPayload`;
* `Edged` patterns by `edged_email`, `edged_pan`, `edged_cvv`; `phone_last`: no digit follows a
  phone number; `email_before_phone`: none is exposed by the replacement of one;
* **`scrubText_clean`**: what was scrubbed has no match of any pattern; `scrubText_idem`;
* `Clean`, `Spared`, `blank`; **`scrubPayload_clean_iff`**: a scrubbed payload has no match
  anywhere exactly when the names of its entries and its numbers have none;
* **`stored_clean_iff`**: so it is for every event that the agent's appends store.
-/

namespace TryTrust.Agent.Scrub

open Backtrack (Pattern Place ends search sub markOf Edged Shadows)
open Audit (AgentRequest AuditRow)

/-! ## Patterns -/

/-- `\w`, `\d` and `\s` of `re`: digits are of words, the marks of a placeholder and the sign of a
phone number are not, and no letter is a digit. -/
structure Classes where
  word : Char → Bool
  digit : Char → Bool
  space : Char → Bool
  digit_word : ∀ c, digit c = true → word c = true
  left_word : word '<' = false
  right_word : word '>' = false
  left_space : space '<' = false
  right_space : space '>' = false
  plus_word : word '+' = false
  letter_digit : ∀ c, c.isAlpha = true → digit c = false

/-- The character is one of a text's. -/
def oneOf (text : String) (c : Char) : Bool := text.toList.contains c

/-- A letter, in any case. -/
def anyCase (lower upper : Char) : Pattern := .char fun c => c = lower || c = upper

section Patterns

variable (W : Classes)

/-- `[\w.+-]`. -/
def localChar (c : Char) : Bool := W.word c || oneOf ".+-" c

/-- `[\w-]`. -/
def domainChar (c : Char) : Bool := W.word c || c = '-'

/-- `[\w.-]`. -/
def hostChar (c : Char) : Bool := W.word c || oneOf ".-" c

/-- `[\d\s().-]`. -/
def phoneChar (c : Char) : Bool := W.digit c || W.space c || oneOf "().-" c

/-- What follows the first character of an address. -/
def emailRest : Pattern :=
  .seq (.star true (.char (localChar W)))
    (.seq (.char fun c => c = '@') (.seq (.plus (.char (domainChar W)))
      (.seq (.char fun c => c = '.') (.seq (.plus (.char (hostChar W))) .edge))))

/-- `\b[\w.+-]+@[\w-]+\.[\w.-]+\b`. -/
def email : Pattern := .seq .edge (.seq (.char (localChar W)) (emailRest W))

/-- `\d[ -]*?`. -/
def panDigit : Pattern := .seq (.char W.digit) (.star false (.char (oneOf " -")))

/-- `\b(?:\d[ -]*?){13,19}\b`. -/
def pan : Pattern := .seq .edge (.seq (.between 13 6 (panDigit W)) .edge)

/-- `\s*(?:cvv|cvc)`, in any case. -/
def cvvWord : Pattern :=
  .seq (.star true (.char W.space))
    (.alt (.seq (anyCase 'c' 'C') (.seq (anyCase 'v' 'V') (anyCase 'v' 'V')))
      (.seq (anyCase 'c' 'C') (.seq (anyCase 'v' 'V') (anyCase 'c' 'C'))))

/-- `\b\d{3}\b(?=\s*(?:cvv|cvc))`, in any case. -/
def cvv : Pattern :=
  .seq .edge (.seq (.times 3 (.char W.digit)) (.seq .edge (.ahead (cvvWord W))))

/-- `\+\d[\d\s().-]{7,}\d`. -/
def phone : Pattern :=
  .seq (.char fun c => c = '+') (.seq (.char W.digit)
    (.seq (.times 7 (.char (phoneChar W)))
      (.seq (.star true (.char (phoneChar W))) (.char W.digit))))

/-- A placeholder. -/
def placeholder (name : String) : List Char := markOf '<' '>' name.toList

/-- `_PATTERNS`, with the names of the placeholders. -/
def patterns : List (Pattern × String) :=
  [(email W, "EMAIL"), (pan W, "PAN"), (cvv W, "CVV"), (phone W, "PHONE")]

/-- `scrub_text`, over characters. -/
def scrubChars (text : List Char) : List Char :=
  (patterns W).foldl (fun text p => sub W.word p.1 (placeholder p.2) text) text

/-- `scrub_text`. -/
def scrubText (text : String) : String := String.ofList (scrubChars W text.toList)

mutual

/-- `scrub_payload`. -/
def scrubPayload : Json → Json
  | .str s => .str (scrubText W s)
  | .obj fields => .obj (scrubFields fields)
  | .arr items => .arr (scrubItems items)
  | value => value

/-- The items of a list. -/
def scrubItems : List Json → List Json
  | [] => []
  | item :: items => scrubPayload item :: scrubItems items

/-- The entries of a dictionary; their names stay. -/
def scrubFields : List (String × Json) → List (String × Json)
  | [] => []
  | (key, value) :: fields => (key, scrubPayload value) :: scrubFields fields

end

/-- A text has a match of one of the patterns. -/
def found (text : List Char) : Bool := (patterns W).any fun p => search W.word p.1 text

end Patterns

/-! ## What the patterns read -/

variable {W : Classes}

/-- The marks of a placeholder. -/
def Unmarked (c : Char) : Prop := c ≠ '<' ∧ c ≠ '>'

theorem unmarked_word {c : Char} (h : W.word c = true) : Unmarked c := by
  constructor
  · rintro rfl
    exact absurd (W.left_word.symm.trans h) Bool.false_ne_true
  · rintro rfl
    exact absurd (W.right_word.symm.trans h) Bool.false_ne_true

theorem unmarked_digit {c : Char} (h : W.digit c = true) : Unmarked c :=
  unmarked_word (W.digit_word c h)

theorem unmarked_space {c : Char} (h : W.space c = true) : Unmarked c := by
  constructor
  · rintro rfl
    exact absurd (W.left_space.symm.trans h) Bool.false_ne_true
  · rintro rfl
    exact absurd (W.right_space.symm.trans h) Bool.false_ne_true

/-- Characters of a text without marks. -/
theorem unmarked_oneOf {text : String} (htext : oneOf text '<' = false ∧ oneOf text '>' = false)
    {c : Char} (h : oneOf text c = true) : Unmarked c := by
  constructor
  · rintro rfl
    exact absurd (htext.1.symm.trans h) Bool.false_ne_true
  · rintro rfl
    exact absurd (htext.2.symm.trans h) Bool.false_ne_true

theorem unmarked_of_eq {c d : Char} (hd : Unmarked d) (h : decide (c = d) = true) : Unmarked c := by
  rwa [of_decide_eq_true h]

instance (c : Char) : Decidable (Unmarked c) := by unfold Unmarked; infer_instance

theorem reads_email : (email W).Reads Unmarked := by
  have hlocal : ∀ c, localChar W c = true → Unmarked c := fun c h =>
    (Bool.or_eq_true_iff.1 h).elim unmarked_word (unmarked_oneOf (by decide))
  have hdomain : ∀ c, domainChar W c = true → Unmarked c := fun c h =>
    (Bool.or_eq_true_iff.1 h).elim unmarked_word (unmarked_of_eq (by decide))
  have hhost : ∀ c, hostChar W c = true → Unmarked c := fun c h =>
    (Bool.or_eq_true_iff.1 h).elim unmarked_word (unmarked_oneOf (by decide))
  have hat : ∀ c, decide (c = '@') = true → Unmarked c := fun c => unmarked_of_eq (by decide)
  have hdot : ∀ c, decide (c = '.') = true → Unmarked c := fun c => unmarked_of_eq (by decide)
  exact ⟨trivial, hlocal, hlocal, hat, ⟨hdomain, hdomain⟩, hdot, ⟨hhost, hhost⟩, trivial⟩

theorem reads_emailRest : (emailRest W).Reads Unmarked := reads_email.2.2

theorem reads_pan : (pan W).Reads Unmarked := by
  have hdigit : (panDigit W).Reads Unmarked :=
    ⟨fun c => unmarked_digit, fun c => unmarked_oneOf (by decide)⟩
  exact ⟨trivial, ⟨Backtrack.reads_times hdigit 13, Backtrack.reads_upTo hdigit 6⟩, trivial⟩

theorem reads_anyCase {lower upper : Char} (hlower : Unmarked lower) (hupper : Unmarked upper) :
    (anyCase lower upper).Reads Unmarked := fun _ h =>
  (Bool.or_eq_true_iff.1 h).elim (unmarked_of_eq hlower) (unmarked_of_eq hupper)

theorem reads_digit : (Pattern.char W.digit).Reads Unmarked := fun _ => unmarked_digit

theorem reads_cvv : (cvv W).Reads Unmarked :=
  have hc : (anyCase 'c' 'C').Reads Unmarked := reads_anyCase (by decide) (by decide)
  have hv : (anyCase 'v' 'V').Reads Unmarked := reads_anyCase (by decide) (by decide)
  ⟨trivial, Backtrack.reads_times reads_digit 3, trivial, fun c => unmarked_space,
    ⟨hc, hv, hv⟩, hc, hv, hc⟩

theorem reads_phone : (phone W).Reads Unmarked := by
  have hphone : (Pattern.char (phoneChar W)).Reads Unmarked := fun c h => by
    rcases Bool.or_eq_true_iff.1 h with h | h
    · exact (Bool.or_eq_true_iff.1 h).elim unmarked_digit unmarked_space
    · exact unmarked_oneOf (by decide) h
  exact ⟨fun c => unmarked_of_eq (by decide), fun c => unmarked_digit,
    Backtrack.reads_times hphone 7, hphone, reads_digit⟩

/-- What reads no marks does not read one of them. -/
theorem reads_ne {p : Pattern} (h : p.Reads Unmarked) :
    p.Reads (· ≠ '<') ∧ p.Reads (· ≠ '>') :=
  ⟨Backtrack.reads_mono (fun _ hc => hc.1) h, Backtrack.reads_mono (fun _ hc => hc.2) h⟩

/-- A digit, or the sign of an address. -/
def Telling (W : Classes) (c : Char) : Prop := W.digit c = true ∨ c = '@'

theorem needs_email : (email W).Needs (Telling W) :=
  .inr (.inr (.inr (.inl fun _ h => .inr (of_decide_eq_true h))))

theorem needs_pan : (pan W).Needs (Telling W) :=
  .inr (.inl (.inl (.inl (.inl fun _ h => .inl h))))

theorem needs_cvv : (cvv W).Needs (Telling W) := .inr (.inl (.inl fun _ h => .inl h))

theorem needs_phone : (phone W).Needs (Telling W) := .inr (.inl fun _ h => .inl h)

/-- The names of the placeholders tell nothing. -/
theorem not_telling {name : String} (h : name.toList.all (·.isAlpha) = true) :
    ∀ c ∈ name.toList, ¬ Telling W c := by
  rintro c hc (hdigit | rfl)
  · have hletter := W.letter_digit c (List.all_eq_true.1 h c hc)
    exact absurd (hletter.symm.trans hdigit) Bool.false_ne_true
  · exact absurd (List.all_eq_true.1 h _ hc) (by decide)

/-! ## Where matches start and end -/

theorem edged_of {a : Pattern} {word : Char → Bool} (hlast : ∀ s t, t ∈ ends word a s →
    t.edge word = true) : Edged word (.seq .edge a) := by
  constructor
  · intro s t h
    obtain ⟨m, hm, -⟩ := Backtrack.mem_seq.1 h
    exact (Backtrack.mem_edge.1 hm).1
  · intro s t h
    obtain ⟨m, -, ht⟩ := Backtrack.mem_seq.1 h
    exact hlast m t ht

/-- The end of a sequence is the end of its second part. -/
theorem last_seq {a b : Pattern} {word : Char → Bool}
    (hlast : ∀ s t, t ∈ ends word b s → t.edge word = true) :
    ∀ s t, t ∈ ends word (.seq a b) s → t.edge word = true := by
  intro s t h
  obtain ⟨m, -, ht⟩ := Backtrack.mem_seq.1 h
  exact hlast m t ht

theorem last_edge {word : Char → Bool} : ∀ s t, t ∈ ends word .edge s → t.edge word = true := by
  intro s t h
  obtain ⟨hs, rfl⟩ := Backtrack.mem_edge.1 h
  exact hs

theorem edged_email : Edged W.word (email W) :=
  edged_of (last_seq (last_seq (last_seq (last_seq (last_seq (last_seq last_edge))))))

theorem edged_pan : Edged W.word (pan W) := edged_of (last_seq last_edge)

theorem edged_cvv : Edged W.word (cvv W) := by
  refine edged_of (last_seq ?_)
  intro s t h
  obtain ⟨m, hm, ht⟩ := Backtrack.mem_seq.1 h
  obtain ⟨hs, rfl⟩ := Backtrack.mem_edge.1 hm
  obtain ⟨-, rfl⟩ := Backtrack.mem_ahead.1 ht
  exact hs

theorem edges_phone : (phone W).edges = false := rfl

/-- A phone number starts outside of words. -/
theorem phone_first (s t : Place) (h : t ∈ ends W.word (phone W) s) :
    s.rest.head?.any W.word = false := by
  obtain ⟨m, hm, -⟩ := Backtrack.mem_seq.1 h
  obtain ⟨c, rest, hrest, hc, -⟩ := Backtrack.mem_char.1 hm
  rw [hrest, of_decide_eq_true hc]
  exact W.plus_word

/-- **No digit follows a phone number**: the repetition before its last digit is greedy. -/
theorem phone_last {s t : Place} (h : (ends W.word (phone W) s).head? = some t) :
    t.before.head?.any W.digit = true ∧ t.rest.head?.any W.digit = false := by
  obtain ⟨m₁, -, h⟩ := Backtrack.head_seq h
  obtain ⟨m₂, -, h⟩ := Backtrack.head_seq h
  obtain ⟨m₃, -, h⟩ := Backtrack.head_seq h
  refine Backtrack.greedy_last (fun x hx => ?_) le_rfl h
  rw [phoneChar, hx]
  rfl

/-- The pattern's matches start with a digit. -/
def StartsWithDigit (W : Classes) (p : Pattern) : Prop :=
  ∀ s t, t ∈ ends W.word p s → s.rest.head?.any W.digit = true

theorem startsWithDigit_char : StartsWithDigit W (.char W.digit) := by
  intro s t h
  obtain ⟨c, rest, hrest, hc, -⟩ := Backtrack.mem_char.1 h
  rw [hrest]
  exact hc

theorem StartsWithDigit.seq {a : Pattern} (ha : StartsWithDigit W a) (b : Pattern) :
    StartsWithDigit W (.seq a b) := by
  intro s t h
  obtain ⟨m, hm, -⟩ := Backtrack.mem_seq.1 h
  exact ha s m hm

theorem StartsWithDigit.edge {a : Pattern} (ha : StartsWithDigit W a) :
    StartsWithDigit W (.seq .edge a) := by
  intro s t h
  obtain ⟨m, hm, ht⟩ := Backtrack.mem_seq.1 h
  obtain ⟨-, rfl⟩ := Backtrack.mem_edge.1 hm
  exact ha _ t ht

theorem startsWithDigit_pan : StartsWithDigit W (pan W) :=
  ((((startsWithDigit_char.seq _).seq _).seq _).seq _).edge

theorem startsWithDigit_cvv : StartsWithDigit W (cvv W) :=
  ((startsWithDigit_char.seq _).seq _).edge

/-! ## One replacement after another -/

variable {text : List Char} {p r : Pattern}

/-- What a pattern reads and needs. -/
structure Telltale (W : Classes) (p : Pattern) : Prop where
  reads : p.Reads Unmarked
  needs : p.Needs (Telling W)

theorem telltale_email : Telltale W (email W) := ⟨reads_email, needs_email⟩

theorem telltale_pan : Telltale W (pan W) := ⟨reads_pan, needs_pan⟩

theorem telltale_cvv : Telltale W (cvv W) := ⟨reads_cvv, needs_cvv⟩

/-- **A pattern between edges** is found no more once it is replaced, and nothing new is found. -/
theorem search_sub_edged (hp : Telltale W p) (hedged : Edged W.word p) (name : String)
    (hname : name.toList.all (·.isAlpha) = true) (text : List Char) :
    search W.word p (sub W.word p (placeholder name) text) = false ∧
      ∀ r, Telltale W r → search W.word r text = false →
        search W.word r (sub W.word p (placeholder name) text) = false := by
  refine ⟨Backtrack.not_search_sub hp.needs hedged (reads_ne hp.reads).1 (reads_ne hp.reads).2
    (not_telling hname), fun r hr hnone => ?_⟩
  by_contra h
  have hfound := Backtrack.search_of_search_sub hp.needs hedged (reads_ne hr.reads).1
    (reads_ne hr.reads).2 hr.needs (not_telling hname) (Bool.not_eq_false _ ▸ h)
  exact absurd (hnone.symm.trans hfound) Bool.false_ne_true

/-- The place that a match after the replacement of phone numbers stands for. -/
theorem shadows_phone (hr : Telltale W r)
    (h : search W.word r (sub W.word (phone W) (placeholder "PHONE") text) = true) :
    search W.word r text = true ∨ ∃ o t o' s : Place, t.text = text ∧
      Shadows W.word (phone W) '<' '>' "PHONE".toList o t ∧ o' ∈ ends W.word r o ∧
      o.before.head? = some '>' ∧ (ends W.word (phone W) s).head? = some t := by
  obtain ⟨o, t, ht, hshadow, o', ho'⟩ := Backtrack.shadows_of_search needs_phone
    (reads_ne hr.reads).2 hr.needs (not_telling (by decide)) h
  rcases hshadow.2 with hsame | ⟨hright, s, hs⟩
  · obtain ⟨t', ht'⟩ := Backtrack.ends_of_inner needs_phone W.left_word phone_first
      (reads_ne hr.reads).1 hshadow hsame ho'
    exact .inl ((Backtrack.search_iff _).2 ⟨t, ht, t', ht'⟩)
  · exact .inr ⟨o, t, o', s, ht, hshadow, ho', hright, hs⟩

/-- What starts with a digit does not start after a phone number. -/
theorem digit_after_phone (hr : Telltale W r)
    (hfirst : StartsWithDigit W r)
    (h : search W.word r (sub W.word (phone W) (placeholder "PHONE") text) = true) :
    search W.word r text = true := by
  rcases shadows_phone hr h with h | ⟨o, t, o', s, -, hshadow, ho', -, hs⟩
  · exact h
  · exfalso
    have hdigit := hfirst o o' ho'
    cases hrest : o.rest with
    | nil => simp [hrest] at hdigit
    | cons c rest =>
      rw [hrest] at hdigit
      have hc : W.digit c = true := hdigit
      obtain ⟨-, rest', hrest', -⟩ := hshadow.read needs_phone hrest (unmarked_digit hc).1
      have hlast := (phone_last hs).2
      rw [hrest'] at hlast
      exact absurd (hlast.symm.trans hc) Bool.false_ne_true

/-- **An address after a phone number** is the end of a longer one: it starts in a word, which
starts in the number. -/
theorem email_after_phone
    (h : search W.word (email W) (sub W.word (phone W) (placeholder "PHONE") text) = true) :
    search W.word (email W) text = true := by
  rcases shadows_phone telltale_email h with h | ⟨o, t, o', s, ht, hshadow, ho', hright, hs⟩
  · exact h
  · obtain ⟨m₁, hm₁, htail⟩ := Backtrack.mem_seq.1 ho'
    obtain ⟨hedge, rfl⟩ := Backtrack.mem_edge.1 hm₁
    obtain ⟨m₂, hm₂, hemail⟩ := Backtrack.mem_seq.1 htail
    obtain ⟨c, rest, hrest, hc, rfl⟩ := Backtrack.mem_char.1 hm₂
    have hword : W.word c = true := by
      rw [Place.edge, hright, hrest, Option.any_some, List.head?_cons, Option.any_some,
        W.right_word] at hedge
      simpa using hedge
    obtain ⟨-, rest', hrest', hnext⟩ := hshadow.read needs_phone hrest (unmarked_word hword).1
    obtain ⟨t', ht'⟩ := Backtrack.ends_of_inner needs_phone W.left_word phone_first
      (reads_ne reads_emailRest).1 hnext rfl hemail
    -- the word of the first character starts in the number, or before it
    have hdigit : t.before.head?.any W.word = true := by
      obtain ⟨d, hd, hdigit⟩ := (Option.any_eq_true _ _).1 (phone_last hs).1
      exact (Option.any_eq_true _ _).2 ⟨d, hd, W.digit_word d hdigit⟩
    obtain ⟨before, d, u, hd, hu, hbefore, hstart⟩ := Backtrack.exists_word_start hdigit
    have hlocal : ∀ e, W.word e = true → localChar W e = true := fun e he => by
      rw [localChar, he]
      rfl
    have hread : Relation.ReflTransGen (Backtrack.Round (ends W.word (.char (localChar W))))
        ⟨d :: before, u ++ t.rest⟩ ⟨c :: t.before, rest'⟩ := by
      have hchars : ∀ e ∈ u ++ [c], localChar W e = true := by
        intro e he
        rcases List.mem_append.1 he with he | he
        · exact hlocal e (hu e he)
        · rw [List.mem_singleton.1 he]
          exact hlocal c hword
      have hrounds : Relation.ReflTransGen
          (Backtrack.Round (ends W.word (.char (localChar W)))) _ _ :=
        Backtrack.rounds_read hchars (d :: before) rest'
      simpa [hrest', hbefore] using hrounds
    obtain ⟨m, hm, hafter⟩ := Backtrack.mem_seq.1 ht'
    have hstar : m ∈ ends W.word (.star true (.char (localChar W)))
        ⟨d :: before, u ++ t.rest⟩ :=
      Backtrack.mem_star.2 (hread.trans (Backtrack.mem_star.1 hm))
    refine (Backtrack.search_iff _).2 ⟨⟨before, d :: (u ++ t.rest)⟩, ?_, t', ?_⟩
    · rw [← ht, Place.text, Place.text, hbefore]
      simp
    · exact Backtrack.mem_seq.2 ⟨_, Backtrack.mem_edge.2 ⟨hstart, rfl⟩, Backtrack.mem_seq.2
        ⟨_, Backtrack.mem_char.2 ⟨d, _, rfl, hlocal d hd, rfl⟩, Backtrack.mem_seq.2
          ⟨m, hstar, hafter⟩⟩⟩

/-- **Phone numbers** are found no more once they are replaced, and nothing new is found. -/
theorem search_sub_phone (text : List Char) :
    search W.word (phone W) (sub W.word (phone W) (placeholder "PHONE") text) = false ∧
      ∀ r ∈ [email W, pan W, cvv W], search W.word r text = false →
        search W.word r (sub W.word (phone W) (placeholder "PHONE") text) = false := by
  refine ⟨Backtrack.not_search_sub_plain needs_phone edges_phone (reads_ne reads_phone).1
    (reads_ne reads_phone).2 (not_telling (by decide)), fun r hr hnone => ?_⟩
  by_contra h
  have hsome : search W.word r (sub W.word (phone W) (placeholder "PHONE") text) = true :=
    Bool.not_eq_false _ ▸ h
  have hfound : search W.word r text = true := by
    simp only [List.mem_cons, List.not_mem_nil, or_false] at hr
    rcases hr with rfl | rfl | rfl
    · exact email_after_phone hsome
    · exact digit_after_phone telltale_pan startsWithDigit_pan hsome
    · exact digit_after_phone telltale_cvv startsWithDigit_cvv hsome
  exact absurd (hnone.symm.trans hfound) Bool.false_ne_true

theorem found_eq_false_iff : found W text = false ↔ search W.word (email W) text = false ∧
    search W.word (pan W) text = false ∧ search W.word (cvv W) text = false ∧
      search W.word (phone W) text = false := by
  simp [found, patterns]

/-- **A scrubbed text** has no match of any pattern. -/
theorem scrubChars_clean (text : List Char) : found W (scrubChars W text) = false := by
  obtain ⟨hemail, -⟩ := search_sub_edged (telltale_email (W := W)) edged_email "EMAIL"
    (by decide) text
  obtain ⟨hpan, keepPan⟩ := search_sub_edged (telltale_pan (W := W)) edged_pan "PAN" (by decide)
    (sub W.word (email W) (placeholder "EMAIL") text)
  obtain ⟨hcvv, keepCvv⟩ := search_sub_edged (telltale_cvv (W := W)) edged_cvv "CVV" (by decide)
    (sub W.word (pan W) (placeholder "PAN") (sub W.word (email W) (placeholder "EMAIL") text))
  have hemail' := keepCvv _ telltale_email (keepPan _ telltale_email hemail)
  have hpan' := keepCvv _ telltale_pan hpan
  obtain ⟨hphone, keepPhone⟩ := search_sub_phone (W := W) (sub W.word (cvv W)
    (placeholder "CVV") (sub W.word (pan W) (placeholder "PAN")
      (sub W.word (email W) (placeholder "EMAIL") text)))
  exact found_eq_false_iff.2 ⟨keepPhone _ (by simp) hemail', keepPhone _ (by simp) hpan',
    keepPhone _ (by simp) hcvv, hphone⟩

/-- A text without matches stays. -/
theorem scrubChars_of_clean {text : List Char} (h : found W text = false) :
    scrubChars W text = text := by
  obtain ⟨hemail, hpan, hcvv, hphone⟩ := found_eq_false_iff.1 h
  rw [scrubChars, patterns]
  simp only [List.foldl_cons, List.foldl_nil]
  rw [Backtrack.sub_of_not_search needs_email hemail, Backtrack.sub_of_not_search needs_pan hpan,
    Backtrack.sub_of_not_search needs_cvv hcvv, Backtrack.sub_of_not_search needs_phone hphone]

/-- **Scrubbing twice** is scrubbing. -/
theorem scrubText_idem (text : String) : scrubText W (scrubText W text) = scrubText W text := by
  rw [scrubText, scrubText, String.toList_ofList, scrubChars_of_clean (scrubChars_clean _)]

/-! ## Payloads -/

mutual

/-- The texts of a payload, its names of entries apart. -/
def strings : Json → List String
  | .str s => [s]
  | .arr items => stringsItems items
  | .obj fields => stringsFields fields
  | _ => []

/-- The texts of a list's items. -/
def stringsItems : List Json → List String
  | [] => []
  | item :: items => strings item ++ stringsItems items

/-- The texts of a dictionary's values. -/
def stringsFields : List (String × Json) → List String
  | [] => []
  | (_, value) :: fields => strings value ++ stringsFields fields

end

mutual

/-- The names of the entries of a payload, and its numbers as JSON spells them. -/
def names : Json → List String
  | .num m scale => [decimalText m scale]
  | .arr items => namesItems items
  | .obj fields => namesFields fields
  | _ => []

/-- The names and numbers of a list's items. -/
def namesItems : List Json → List String
  | [] => []
  | item :: items => names item ++ namesItems items

/-- The names and numbers of a dictionary. -/
def namesFields : List (String × Json) → List String
  | [] => []
  | (key, value) :: fields => key :: (names value ++ namesFields fields)

end

mutual

/-- **The structure** of a payload: its texts are emptied. -/
def blank : Json → Json
  | .str _ => .str ""
  | .arr items => .arr (blankItems items)
  | .obj fields => .obj (blankFields fields)
  | value => value

/-- The structure of a list's items. -/
def blankItems : List Json → List Json
  | [] => []
  | item :: items => blank item :: blankItems items

/-- The structure of a dictionary's entries. -/
def blankFields : List (String × Json) → List (String × Json)
  | [] => []
  | (key, value) :: fields => (key, blank value) :: blankFields fields

end

/-- None of the texts has a match. -/
def NoMatch (W : Classes) (texts : List String) : Prop :=
  ∀ text ∈ texts, found W text.toList = false

instance (W : Classes) (texts : List String) : Decidable (NoMatch W texts) := by
  unfold NoMatch
  infer_instance

/-- **A clean payload**: no text, no name of an entry and no number has a match. -/
def Clean (W : Classes) (v : Json) : Prop := NoMatch W (strings v) ∧ NoMatch W (names v)

instance (W : Classes) (v : Json) : Decidable (Clean W v) := by unfold Clean; infer_instance

mutual

/-- The texts of a payload are scrubbed, one by one. -/
theorem strings_scrubPayload : (v : Json) →
    strings (scrubPayload W v) = (strings v).map (scrubText W)
  | .null => rfl
  | .bool _ => rfl
  | .num _ _ => rfl
  | .str _ => rfl
  | .arr items => by
    rw [scrubPayload, strings, strings, stringsItems_scrubItems items]
  | .obj fields => by
    rw [scrubPayload, strings, strings, stringsFields_scrubFields fields]

theorem stringsItems_scrubItems : (items : List Json) →
    stringsItems (scrubItems W items) = (stringsItems items).map (scrubText W)
  | [] => rfl
  | item :: items => by
    rw [scrubItems, stringsItems, stringsItems, List.map_append, strings_scrubPayload item,
      stringsItems_scrubItems items]

theorem stringsFields_scrubFields : (fields : List (String × Json)) →
    stringsFields (scrubFields W fields) = (stringsFields fields).map (scrubText W)
  | [] => rfl
  | (key, value) :: fields => by
    rw [scrubFields, stringsFields, stringsFields, List.map_append, strings_scrubPayload value,
      stringsFields_scrubFields fields]

end

mutual

/-- Names of entries and numbers stay. -/
theorem names_scrubPayload : (v : Json) → names (scrubPayload W v) = names v
  | .null => rfl
  | .bool _ => rfl
  | .num _ _ => rfl
  | .str s => by simp [scrubPayload, names]
  | .arr items => by
    rw [scrubPayload, names, names, namesItems_scrubItems items]
  | .obj fields => by
    rw [scrubPayload, names, names, namesFields_scrubFields fields]

theorem namesItems_scrubItems : (items : List Json) →
    namesItems (scrubItems W items) = namesItems items
  | [] => rfl
  | item :: items => by
    rw [scrubItems, namesItems, namesItems, names_scrubPayload item, namesItems_scrubItems items]

theorem namesFields_scrubFields : (fields : List (String × Json)) →
    namesFields (scrubFields W fields) = namesFields fields
  | [] => rfl
  | (key, value) :: fields => by
    rw [scrubFields, namesFields, namesFields, names_scrubPayload value,
      namesFields_scrubFields fields]

end

mutual

/-- The structure stays. -/
theorem blank_scrubPayload : (v : Json) → blank (scrubPayload W v) = blank v
  | .null => rfl
  | .bool _ => rfl
  | .num _ _ => rfl
  | .str s => by
    rw [scrubPayload, blank, blank]
  | .arr items => by
    rw [scrubPayload, blank, blank, blankItems_scrubItems items]
  | .obj fields => by
    rw [scrubPayload, blank, blank, blankFields_scrubFields fields]

theorem blankItems_scrubItems : (items : List Json) →
    blankItems (scrubItems W items) = blankItems items
  | [] => rfl
  | item :: items => by
    rw [scrubItems, blankItems, blankItems, blank_scrubPayload item, blankItems_scrubItems items]

theorem blankFields_scrubFields : (fields : List (String × Json)) →
    blankFields (scrubFields W fields) = blankFields fields
  | [] => rfl
  | (key, value) :: fields => by
    rw [scrubFields, blankFields, blankFields, blank_scrubPayload value,
      blankFields_scrubFields fields]

end

mutual

/-- **Scrubbing a payload twice** is scrubbing it. -/
theorem scrubPayload_idem : (v : Json) →
    scrubPayload W (scrubPayload W v) = scrubPayload W v
  | .null => rfl
  | .bool _ => rfl
  | .num _ _ => rfl
  | .str s => by
    rw [scrubPayload, scrubPayload, scrubText_idem]
  | .arr items => by
    rw [scrubPayload, scrubPayload, scrubItems_idem items]
  | .obj fields => by
    rw [scrubPayload, scrubPayload, scrubFields_idem fields]

theorem scrubItems_idem : (items : List Json) →
    scrubItems W (scrubItems W items) = scrubItems W items
  | [] => rfl
  | item :: items => by
    rw [scrubItems, scrubItems, scrubPayload_idem item, scrubItems_idem items]

theorem scrubFields_idem : (fields : List (String × Json)) →
    scrubFields W (scrubFields W fields) = scrubFields W fields
  | [] => rfl
  | (key, value) :: fields => by
    rw [scrubFields, scrubFields, scrubPayload_idem value, scrubFields_idem fields]

end

/-- The texts of a scrubbed payload have no match. -/
theorem noMatch_strings (v : Json) : NoMatch W (strings (scrubPayload W v)) := by
  rw [strings_scrubPayload]
  intro text htext
  obtain ⟨s, -, rfl⟩ := List.mem_map.1 htext
  rw [scrubText, String.toList_ofList]
  exact scrubChars_clean s.toList

/-- **A scrubbed payload** is clean exactly when the names of its entries and its numbers are. -/
theorem scrubPayload_clean_iff (v : Json) :
    Clean W (scrubPayload W v) ↔ NoMatch W (names v) := by
  rw [Clean, names_scrubPayload]
  exact and_iff_right (noMatch_strings v)

/-! ## Stored events -/

section Stored

open Conc
open Audit (Crypto)
open Audit.Agent (appendSystem appendStart appends_reach)

variable {ι : Type} [DecidableEq ι]

/-- The events that a run of appends has stored. -/
def stored (W : Classes) (K : Crypto) (requests : ι → List AgentRequest)
    (xs : List (ι × Audit.Fate)) : List AuditRow :=
  ((appendSystem ι).run (appendStart K (scrubPayload W) requests) xs).shared.auditEvents

/-- Every event that is stored has the payload of a request, scrubbed when it asks for it. -/
theorem stored_payload (W : Classes) (K : Crypto) (requests : ι → List AgentRequest)
    {xs : List (ι × Audit.Fate)}
    (hlocks : (appendSystem ι).Along Audit.Agent.Granted
      (appendStart K (scrubPayload W) requests) xs)
    {row : AuditRow} (hrow : row ∈ stored W K requests xs) :
    ∃ i, ∃ request ∈ requests i, Audit.Agent.Wrote (scrubPayload W) request row ∧
      row.payload = if request.scrub then scrubPayload W request.payload else request.payload := by
  obtain ⟨request, ⟨i, hi⟩, ⟨head, hash, hentry⟩, -⟩ :=
    (appends_reach K (scrubPayload W) requests hlocks).sent row hrow
  exact ⟨i, request, hi, ⟨head, hash, hentry⟩, congrArg Audit.Entry.payload hentry⟩

/-- **What enters the chain.** Scrubbing keeps the structure of a payload and is done by doing it
once, and every event that any number of connections store by any appends, whatever fails, is of a
request: when that asks for scrubbing, the stored payload is the scrubbed one, and has no match in
any text; it has none at all exactly when the names and the numbers of the given one have none. -/
theorem stored_clean_iff (W : Classes) (K : Crypto) (requests : ι → List AgentRequest)
    {xs : List (ι × Audit.Fate)}
    (hlocks : (appendSystem ι).Along Audit.Agent.Granted
      (appendStart K (scrubPayload W) requests) xs) :
    (∀ v, blank (scrubPayload W v) = blank v ∧
      scrubPayload W (scrubPayload W v) = scrubPayload W v) ∧
    ∀ row ∈ stored W K requests xs, ∃ i, ∃ request ∈ requests i,
      Audit.Agent.Wrote (scrubPayload W) request row ∧ (request.scrub = true →
        row.payload = scrubPayload W request.payload ∧ NoMatch W (strings row.payload) ∧
          (Clean W row.payload ↔ NoMatch W (names request.payload))) := by
  refine ⟨fun v => ⟨blank_scrubPayload v, scrubPayload_idem v⟩, fun row hrow => ?_⟩
  obtain ⟨i, request, hi, hwrote, hpayload⟩ := stored_payload W K requests hlocks hrow
  refine ⟨i, request, hi, hwrote, fun hscrub => ?_⟩
  rw [if_pos hscrub] at hpayload
  rw [hpayload]
  exact ⟨rfl, noMatch_strings _, scrubPayload_clean_iff _⟩

end Stored

/-! ## An event with an address -/

/-- The classes of `re` on ASCII texts. -/
def ascii : Classes where
  word c := c.isAlphanum || c = '_'
  digit := Char.isDigit
  space := Char.isWhitespace
  digit_word c h := by simp [Char.isAlphanum, h]
  left_word := by decide
  right_word := by decide
  left_space := by decide
  right_space := by decide
  plus_word := by decide
  letter_digit c h := by
    by_contra hdigit
    have hrange := Char.isDigit_iff_toNat.1 (Bool.not_eq_false _ ▸ hdigit)
    rw [show '0'.toNat = 48 by decide, show '9'.toNat = 57 by decide] at hrange
    simp only [Char.isAlpha, Char.isUpper, Char.isLower, Bool.or_eq_true, Bool.and_eq_true,
      decide_eq_true_iff, ge_iff_le, UInt32.le_iff_toNat_le, Char.toNat_val] at h
    simp at h
    omega

/-- A message with an address, a card number, a security code and a phone number. -/
def message : AgentRequest :=
  ⟨"chat.message", .obj [("text", .str "ana@b.co or +54 911 5550, 4111 1111 1111 1111, 123 cvv"),
    ("items", .arr [.num 2 0, .null])], none, none, none, some "mdt_1", true, true, none,
    "2026-08-31T00:00:00+00:00", "evt_1"⟩

example : scrubText ascii "ana@b.co or +54 911 5550, 4111 1111 1111 1111, 123 cvv" =
    "<EMAIL> or <PHONE>, <PAN>, <CVV> cvv" := by decide +kernel

/-- One connection appends it. -/
def sent : List (Unit × Audit.Fate) := List.replicate 8 ((), .runs)

/-- The message is stored, and clean. -/
theorem stored_clean_message : ∃ row ∈ stored ascii Audit.textCrypto (fun _ => [message]) sent,
    Clean ascii row.payload := by
  have hrows : (stored ascii Audit.textCrypto (fun _ => [message]) sent).length = 1 := by
    decide +kernel
  obtain ⟨row, hrow⟩ := List.exists_mem_of_length_pos (by rw [hrows]; exact Nat.one_pos)
  obtain ⟨i, request, hrequest, -, hclean⟩ := (stored_clean_iff ascii Audit.textCrypto
    (fun _ => [message]) (by decide +kernel)).2 row hrow
  obtain rfl := List.mem_singleton.1 hrequest
  exact ⟨row, hrow, (hclean rfl).2.2.2 (by decide +kernel)⟩

end TryTrust.Agent.Scrub
