import Mathlib

/-!
# Patterns in texts

Patterns matched by backtracking, with edges of words and looks ahead, and the replacement of their
matches from left to right.

* `Place`, `Pattern`, `ends`: where a pattern's matches from a place end, the preferred one first;
* `search`, `sub`: a match anywhere, and every match replaced; `search_iff`, `scan_match`,
  `scan_read`, `scan_nil`: their rules;
* `Reads`, `Needs`: what every match reads; `ends_reads`, `ends_needs`;
* **`ends_sim`**: a relation of places that keeps what is read and the edges keeps matches;
* `Shadows`: a place of the text with the matches replaced, and the place it stands for;
  **`places_of_scan`**: every place is in a replacement or stands for one.
-/

namespace Backtrack

/-- A place in a text: what is before it, the last character first, and what is left. -/
structure Place where
  before : List Char
  rest : List Char

/-- The text of a place. -/
def Place.text (s : Place) : List Char := s.before.reverse ++ s.rest

/-- The place is at the edge of a word. -/
def Place.edge (word : Char → Bool) (s : Place) : Bool :=
  s.before.head?.any word != s.rest.head?.any word

/-- Patterns: `\b` is `edge`, a look ahead is `ahead`. -/
inductive Pattern where
  | empty
  | char (p : Char → Bool)
  | edge
  | seq (a b : Pattern)
  | alt (a b : Pattern)
  | star (greedy : Bool) (a : Pattern)
  | ahead (a : Pattern)

/-- The ends of at most `n` rounds that each read something; a greedy pattern prefers more. -/
def iterate (greedy : Bool) (step : Place → List Place) : ℕ → Place → List Place
  | 0, s => [s]
  | n + 1, s =>
    let more := ((step s).filter fun t => t.rest.length < s.rest.length).flatMap
      (iterate greedy step n)
    if greedy then more ++ [s] else s :: more

/-- **The ends of the matches** from a place, the preferred one first. -/
def ends (word : Char → Bool) : Pattern → Place → List Place
  | .empty, s => [s]
  | .char p, ⟨before, c :: rest⟩ => if p c then [⟨c :: before, rest⟩] else []
  | .char _, ⟨_, []⟩ => []
  | .edge, s => if s.edge word then [s] else []
  | .seq a b, s => (ends word a s).flatMap (ends word b)
  | .alt a b, s => ends word a s ++ ends word b s
  | .star greedy a, s => iterate greedy (ends word a) s.rest.length s
  | .ahead a, s => if (ends word a s).isEmpty then [] else [s]

namespace Pattern

/-- One round or more. -/
def plus (a : Pattern) : Pattern := .seq a (.star true a)

/-- `n` rounds. -/
def times : ℕ → Pattern → Pattern
  | 0, _ => .empty
  | n + 1, a => .seq a (times n a)

/-- Up to `n` rounds, more of them first. -/
def upTo : ℕ → Pattern → Pattern
  | 0, _ => .empty
  | n + 1, a => .alt (.seq a (upTo n a)) .empty

/-- `n` rounds or more. -/
def atLeast (n : ℕ) (a : Pattern) : Pattern := .seq (times n a) (.star true a)

/-- From `n` to `n + k` rounds. -/
def between (n k : ℕ) (a : Pattern) : Pattern := .seq (times n a) (upTo k a)

/-- Every character that a match reads or looks at is `ok`. -/
def Reads (ok : Char → Prop) : Pattern → Prop
  | .empty => True
  | .char p => ∀ c, p c = true → ok c
  | .edge => True
  | .seq a b => Reads ok a ∧ Reads ok b
  | .alt a b => Reads ok a ∧ Reads ok b
  | .star _ a => Reads ok a
  | .ahead a => Reads ok a

/-- Every match reads a character with `q`. -/
def Needs (q : Char → Prop) : Pattern → Prop
  | .char p => ∀ c, p c = true → q c
  | .seq a b => Needs q a ∨ Needs q b
  | .alt a b => Needs q a ∧ Needs q b
  | _ => False

/-- The pattern looks for the edge of a word. -/
def edges : Pattern → Bool
  | .empty => false
  | .char _ => false
  | .edge => true
  | .seq a b => edges a || edges b
  | .alt a b => edges a || edges b
  | .star _ a => edges a
  | .ahead a => edges a

end Pattern

/-! ## Searching and replacing -/

section Search

variable (word : Char → Bool) (p : Pattern)

/-- There is a match at a place or after it. -/
def searchFrom : List Char → List Char → Bool
  | before, [] => !(ends word p ⟨before, []⟩).isEmpty
  | before, c :: rest =>
    !(ends word p ⟨before, c :: rest⟩).isEmpty || searchFrom (c :: before) rest

/-- `pattern.search(text)`. -/
def search (text : List Char) : Bool := searchFrom word p [] text

/-- The text from a place on, with the matches replaced. -/
def subFrom (mark : List Char) : ℕ → Place → List Char
  | 0, s => s.rest
  | n + 1, s =>
    match (ends word p s).head?, s.rest with
    | some t, _ => mark ++ subFrom mark n t
    | none, c :: rest => c :: subFrom mark n ⟨c :: s.before, rest⟩
    | none, [] => []

/-- The text from a place on, with all matches replaced. -/
def scan (mark : List Char) (s : Place) : List Char := subFrom word p mark s.rest.length s

/-- `pattern.sub(mark, text)`, for a pattern whose matches are not empty. -/
def sub (mark text : List Char) : List Char := scan word p mark ⟨[], text⟩

end Search

/-! ## What a match reads -/

/-- From one place to another a text is read. -/
def Reached (s t : Place) (u : List Char) : Prop :=
  s.rest = u ++ t.rest ∧ t.before = u.reverse ++ s.before

theorem Reached.refl (s : Place) : Reached s s [] := ⟨rfl, rfl⟩

theorem Reached.trans {s t v : Place} {u w : List Char} (h : Reached s t u) (h' : Reached t v w) :
    Reached s v (u ++ w) := by
  refine ⟨?_, ?_⟩
  · rw [h.1, h'.1, List.append_assoc]
  · rw [h'.2, h.2, List.reverse_append, List.append_assoc]

theorem Reached.text {s t : Place} {u : List Char} (h : Reached s t u) : t.text = s.text := by
  rw [Place.text, Place.text, h.1, h.2]
  simp

theorem Reached.lt_iff {s t : Place} {u : List Char} (h : Reached s t u) :
    t.rest.length < s.rest.length ↔ u ≠ [] := by
  rw [h.1, List.length_append, ← List.length_pos_iff]
  omega

variable {word : Char → Bool} {p : Pattern}

/-- One round of a repetition. -/
def Round (step : Place → List Place) (s t : Place) : Prop :=
  t ∈ step s ∧ t.rest.length < s.rest.length

/-- **Repetitions** are rounds one after another. -/
theorem mem_iterate {greedy : Bool} {step : Place → List Place} {n : ℕ} {s t : Place}
    (hn : s.rest.length ≤ n) :
    t ∈ iterate greedy step n s ↔ Relation.ReflTransGen (Round step) s t := by
  induction n generalizing s with
  | zero =>
    rw [iterate, List.mem_singleton]
    constructor
    · rintro rfl
      exact .refl
    · intro h
      rcases h.cases_head with rfl | ⟨m, hm, -⟩
      · rfl
      · exact absurd hm.2 (by omega)
  | succ n ih =>
    have hmore : t ∈ ((step s).filter fun t => t.rest.length < s.rest.length).flatMap
        (iterate greedy step n) ↔ ∃ m, Round step s m ∧ Relation.ReflTransGen (Round step) m t := by
      rw [List.mem_flatMap]
      refine exists_congr fun m => ?_
      rw [List.mem_filter, decide_eq_true_iff]
      refine and_congr_right fun hm => ih ?_
      omega
    have hstar : Relation.ReflTransGen (Round step) s t ↔ t = s ∨
        ∃ m, Round step s m ∧ Relation.ReflTransGen (Round step) m t := by
      rw [Relation.ReflTransGen.cases_head_iff, eq_comm]
    rw [iterate, hstar, ← hmore]
    cases greedy <;> simp [or_comm]

theorem mem_star {greedy : Bool} {a : Pattern} {s t : Place} :
    t ∈ ends word (.star greedy a) s ↔ Relation.ReflTransGen (Round (ends word a)) s t :=
  mem_iterate le_rfl

theorem mem_char {c : Char → Bool} {s t : Place} :
    t ∈ ends word (.char c) s ↔ ∃ d rest, s.rest = d :: rest ∧ c d = true ∧
      t = ⟨d :: s.before, rest⟩ := by
  obtain ⟨before, rest⟩ := s
  cases rest with
  | nil => simp [ends]
  | cons d rest =>
    rw [ends]
    split_ifs with hd <;> simp [hd]

theorem mem_edge {s t : Place} : t ∈ ends word .edge s ↔ s.edge word = true ∧ t = s := by
  rw [ends]
  split_ifs with h <;> simp [h]

theorem mem_seq {a b : Pattern} {s t : Place} :
    t ∈ ends word (.seq a b) s ↔ ∃ m ∈ ends word a s, t ∈ ends word b m := by
  rw [ends, List.mem_flatMap]

theorem mem_alt {a b : Pattern} {s t : Place} :
    t ∈ ends word (.alt a b) s ↔ t ∈ ends word a s ∨ t ∈ ends word b s := by
  rw [ends, List.mem_append]

theorem mem_ahead {a : Pattern} {s t : Place} :
    t ∈ ends word (.ahead a) s ↔ (∃ m, m ∈ ends word a s) ∧ t = s := by
  rw [ends]
  cases ends word a s with
  | nil => simp
  | cons m ms =>
    simp only [List.isEmpty_cons, Bool.false_eq_true, if_false, List.mem_singleton]
    exact (and_iff_right ⟨m, List.mem_cons_self⟩).symm

/-- **What a match reads** is of the characters that the pattern reads. -/
theorem ends_reads {ok : Char → Prop} (hp : p.Reads ok) {s t : Place} (h : t ∈ ends word p s) :
    ∃ u, Reached s t u ∧ ∀ c ∈ u, ok c := by
  induction p generalizing s t with
  | empty =>
    rw [ends, List.mem_singleton] at h
    exact ⟨[], h ▸ .refl s, by simp⟩
  | char q =>
    obtain ⟨c, rest, hrest, hc, rfl⟩ := mem_char.1 h
    refine ⟨[c], ⟨hrest, rfl⟩, ?_⟩
    simpa using hp c hc
  | edge =>
    obtain ⟨-, rfl⟩ := mem_edge.1 h
    exact ⟨[], .refl t, by simp⟩
  | seq a b iha ihb =>
    obtain ⟨m, hm, ht⟩ := mem_seq.1 h
    obtain ⟨u, hu, huok⟩ := iha hp.1 hm
    obtain ⟨w, hw, hwok⟩ := ihb hp.2 ht
    refine ⟨u ++ w, hu.trans hw, fun c hc => ?_⟩
    rcases List.mem_append.1 hc with hc | hc
    · exact huok c hc
    · exact hwok c hc
  | alt a b iha ihb =>
    rcases mem_alt.1 h with h | h
    · exact iha hp.1 h
    · exact ihb hp.2 h
  | star greedy a ih =>
    have hstar := mem_star.1 h
    clear h
    induction hstar with
    | refl => exact ⟨[], .refl s, by simp⟩
    | tail _ hround ih' =>
      obtain ⟨u, hu, huok⟩ := ih'
      obtain ⟨w, hw, hwok⟩ := ih hp hround.1
      refine ⟨u ++ w, hu.trans hw, fun c hc => ?_⟩
      rcases List.mem_append.1 hc with hc | hc
      · exact huok c hc
      · exact hwok c hc
  | ahead a _ =>
    obtain ⟨-, rfl⟩ := mem_ahead.1 h
    exact ⟨[], .refl t, by simp⟩

theorem reads_mono {ok ok' : Char → Prop} (h : ∀ c, ok c → ok' c) (hp : p.Reads ok) :
    p.Reads ok' := by
  induction p with
  | empty => trivial
  | char q => exact fun c hc => h c (hp c hc)
  | edge => trivial
  | seq a b iha ihb => exact ⟨iha hp.1, ihb hp.2⟩
  | alt a b iha ihb => exact ⟨iha hp.1, ihb hp.2⟩
  | star _ a ih => exact ih hp
  | ahead a ih => exact ih hp

theorem reads_times {ok : Char → Prop} {a : Pattern} (h : a.Reads ok) (n : ℕ) :
    (Pattern.times n a).Reads ok := by
  induction n with
  | zero => trivial
  | succ n ih => exact ⟨h, ih⟩

theorem reads_upTo {ok : Char → Prop} {a : Pattern} (h : a.Reads ok) (n : ℕ) :
    (Pattern.upTo n a).Reads ok := by
  induction n with
  | zero => trivial
  | succ n ih => exact ⟨⟨h, ih⟩, trivial⟩

theorem reads_true (p : Pattern) : p.Reads fun _ => True := by
  induction p <;> simp_all [Pattern.Reads]

theorem ends_reached {s t : Place} (h : t ∈ ends word p s) : ∃ u, Reached s t u := by
  obtain ⟨u, hu, -⟩ := ends_reads (reads_true p) h
  exact ⟨u, hu⟩

/-- Every match reads a character that the pattern needs. -/
theorem ends_needs {q : Char → Prop} (hp : p.Needs q) {s t : Place} (h : t ∈ ends word p s) :
    ∃ u, Reached s t u ∧ ∃ c ∈ u, q c := by
  induction p generalizing s t with
  | empty => cases hp
  | char r =>
    obtain ⟨c, rest, hrest, hc, rfl⟩ := mem_char.1 h
    exact ⟨[c], ⟨hrest, rfl⟩, c, List.mem_singleton_self c, hp c hc⟩
  | edge => cases hp
  | seq a b iha ihb =>
    obtain ⟨m, hm, ht⟩ := mem_seq.1 h
    obtain ⟨u, hu⟩ := ends_reached hm
    obtain ⟨w, hw⟩ := ends_reached ht
    rcases hp with ha | hb
    · obtain ⟨u', hu', c, hc, hq⟩ := iha ha hm
      exact ⟨u' ++ w, hu'.trans hw, c, List.mem_append_left _ hc, hq⟩
    · obtain ⟨w', hw', c, hc, hq⟩ := ihb hb ht
      exact ⟨u ++ w', hu.trans hw', c, List.mem_append_right _ hc, hq⟩
  | alt a b iha ihb =>
    rcases mem_alt.1 h with h | h
    · exact iha hp.1 h
    · exact ihb hp.2 h
  | star _ _ _ => cases hp
  | ahead _ _ => cases hp

theorem ends_shorter {q : Char → Prop} (hp : p.Needs q) {s t : Place} (h : t ∈ ends word p s) :
    t.rest.length < s.rest.length := by
  obtain ⟨u, hu, c, hc, -⟩ := ends_needs hp h
  exact hu.lt_iff.2 (List.ne_nil_of_mem hc)

/-! ## Related places -/

/-- **Matches at related places**: a relation that keeps what is read, and the edges that the
pattern looks for, keeps matches. -/
theorem ends_sim {R : Place → Place → Prop} {ok : Char → Prop}
    (hread : ∀ s t c rest, R s t → s.rest = c :: rest → ok c →
      ∃ rest', t.rest = c :: rest' ∧ R ⟨c :: s.before, rest⟩ ⟨c :: t.before, rest'⟩)
    (hedge : p.edges = true → ∀ s t, R s t → s.edge word = true → t.edge word = true)
    (hp : p.Reads ok) {s t s' : Place} (hR : R s t) (h : s' ∈ ends word p s) :
    ∃ u t', t' ∈ ends word p t ∧ Reached s s' u ∧ Reached t t' u ∧ R s' t' := by
  induction p generalizing s t s' with
  | empty =>
    rw [ends, List.mem_singleton] at h
    subst h
    exact ⟨[], t, List.mem_singleton_self t, .refl _, .refl _, hR⟩
  | char q =>
    obtain ⟨c, rest, hrest, hc, rfl⟩ := mem_char.1 h
    obtain ⟨rest', hrest', hR'⟩ := hread s t c rest hR hrest (hp c hc)
    exact ⟨[c], _, mem_char.2 ⟨c, rest', hrest', hc, rfl⟩, ⟨hrest, rfl⟩, ⟨hrest', rfl⟩, hR'⟩
  | edge =>
    obtain ⟨hs, rfl⟩ := mem_edge.1 h
    exact ⟨[], t, mem_edge.2 ⟨hedge rfl s' t hR hs, rfl⟩, .refl _, .refl _, hR⟩
  | seq a b iha ihb =>
    have hedges : ∀ x, a.edges = x ∨ b.edges = x → x = true → (Pattern.seq a b).edges = true := by
      rintro x (rfl | rfl) hx <;> simp [Pattern.edges, hx]
    obtain ⟨m, hm, ht⟩ := mem_seq.1 h
    obtain ⟨u, m', hm', hu, hu', hRm⟩ := iha (fun ha => hedge (hedges _ (.inl rfl) ha)) hp.1 hR hm
    obtain ⟨w, t', ht', hw, hw', hRt⟩ := ihb (fun hb => hedge (hedges _ (.inr rfl) hb)) hp.2 hRm ht
    exact ⟨u ++ w, t', mem_seq.2 ⟨m', hm', ht'⟩, hu.trans hw, hu'.trans hw', hRt⟩
  | alt a b iha ihb =>
    rcases mem_alt.1 h with h | h
    · obtain ⟨u, t', ht', hu, hu', hRt⟩ :=
        iha (fun ha => hedge (by simp [Pattern.edges, ha])) hp.1 hR h
      exact ⟨u, t', mem_alt.2 (.inl ht'), hu, hu', hRt⟩
    · obtain ⟨u, t', ht', hu, hu', hRt⟩ :=
        ihb (fun hb => hedge (by simp [Pattern.edges, hb])) hp.2 hR h
      exact ⟨u, t', mem_alt.2 (.inr ht'), hu, hu', hRt⟩
  | star greedy a ih =>
    have hstar := mem_star.1 h
    clear h
    suffices h : ∃ u t', Relation.ReflTransGen (Round (ends word a)) t t' ∧ Reached s s' u ∧
        Reached t t' u ∧ R s' t' by
      obtain ⟨u, t', ht', hrest⟩ := h
      exact ⟨u, t', mem_star.2 ht', hrest⟩
    induction hstar with
    | refl => exact ⟨[], t, .refl, .refl _, .refl _, hR⟩
    | tail _ hround ih' =>
      obtain ⟨u, m', hm', hu, hu', hRm⟩ := ih'
      obtain ⟨w, t', ht', hw, hw', hRt⟩ := ih hedge hp hRm hround.1
      have hlt := hw'.lt_iff.2 (hw.lt_iff.1 hround.2)
      exact ⟨u ++ w, t', hm'.tail ⟨ht', hlt⟩, hu.trans hw, hu'.trans hw', hRt⟩
  | ahead a ih =>
    obtain ⟨⟨m, hm⟩, rfl⟩ := mem_ahead.1 h
    obtain ⟨u, m', hm', -⟩ := ih hedge hp hR hm
    exact ⟨[], t, mem_ahead.2 ⟨⟨m', hm'⟩, rfl⟩, .refl _, .refl _, hR⟩

/-! ## Words -/

/-- **Where a word starts** that goes on at a place: an edge, from which its characters are read. -/
theorem exists_word_start {s : Place} (h : s.before.head?.any word = true) :
    ∃ before c u, word c = true ∧ (∀ d ∈ u, word d = true) ∧
      s.before = u.reverse ++ c :: before ∧
      (⟨before, c :: (u ++ s.rest)⟩ : Place).edge word = true := by
  have hsplit := List.takeWhile_append_dropWhile (p := word) (l := s.before)
  have hwords : ∀ d ∈ s.before.takeWhile word, word d = true := fun d hd =>
    List.mem_takeWhile_imp hd
  have hne : s.before.takeWhile word ≠ [] := by
    cases hbefore : s.before with
    | nil => simp [hbefore] at h
    | cons d ds =>
      have hd : word d = true := by simpa [hbefore] using h
      simp [hd]
  have hstart : (s.before.dropWhile word).head?.any word = false := by
    have hnot := List.head?_dropWhile_not word s.before
    cases hhead : (s.before.dropWhile word).head? with
    | none => rfl
    | some d => simpa [hhead] using hnot
  generalize s.before.takeWhile word = ws at hsplit hwords hne
  obtain ⟨u, c, rfl⟩ : ∃ u c, ws = u ++ [c] := ⟨_, _, (List.dropLast_append_getLast hne).symm⟩
  refine ⟨s.before.dropWhile word, c, u.reverse, hwords c (by simp), fun d hd => ?_, ?_, ?_⟩
  · exact hwords d (List.mem_append_left _ (List.mem_reverse.1 hd))
  · refine hsplit.symm.trans ?_
    simp
  · rw [Place.edge, hstart]
    simp [hwords c (by simp)]

/-! ## Preferred matches -/

/-- The characters of a class are read by its repetition. -/
theorem rounds_read {c : Char → Bool} {u : List Char} (hu : ∀ d ∈ u, c d = true)
    (before rest : List Char) :
    Relation.ReflTransGen (Round (ends word (.char c))) ⟨before, u ++ rest⟩
      ⟨u.reverse ++ before, rest⟩ := by
  induction u generalizing before with
  | nil => exact .refl
  | cons d u ih =>
    have hfirst : Round (ends word (.char c)) ⟨before, d :: (u ++ rest)⟩
        ⟨d :: before, u ++ rest⟩ :=
      ⟨mem_char.2 ⟨d, _, rfl, hu d List.mem_cons_self, rfl⟩, by simp⟩
    have htail := ih (fun e he => hu e (List.mem_cons_of_mem _ he)) (d :: before)
    rw [List.reverse_cons, List.append_assoc]
    exact .head hfirst htail

/-- The preferred match of a sequence ends with a preferred match. -/
theorem head_seq {a b : Pattern} {s t : Place} (h : (ends word (.seq a b) s).head? = some t) :
    ∃ m ∈ ends word a s, (ends word b m).head? = some t := by
  rw [ends, List.head?_flatMap] at h
  exact List.exists_of_findSome?_eq_some h

/-- **A greedy repetition** before a character of its own class leaves none of them. -/
theorem greedy_last {c d : Char → Bool} (hdc : ∀ x, d x = true → c x = true) {n : ℕ}
    {s t : Place} (hn : s.rest.length ≤ n)
    (h : ((iterate true (ends word (.char c)) n s).flatMap (ends word (.char d))).head? = some t) :
    t.before.head?.any d = true ∧ t.rest.head?.any d = false := by
  induction n generalizing s with
  | zero =>
    have hnil : s.rest = [] := List.length_eq_zero_iff.1 (by omega)
    obtain ⟨before, rest⟩ := s
    cases hnil
    cases h
  | succ n ih =>
    obtain ⟨before, rest⟩ := s
    cases rest with
    | nil => simp [iterate, ends] at h
    | cons x rest =>
      rw [List.length_cons] at hn
      by_cases hx : c x = true
      · have hmore : iterate true (ends word (.char c)) (n + 1) ⟨before, x :: rest⟩ =
            iterate true (ends word (.char c)) n ⟨x :: before, rest⟩ ++ [⟨before, x :: rest⟩] := by
          simp [iterate, ends, hx]
        rw [hmore, List.flatMap_append, List.head?_append] at h
        cases hfirst : ((iterate true (ends word (.char c)) n ⟨x :: before, rest⟩).flatMap
            (ends word (.char d))).head? with
        | some t' =>
          rw [hfirst] at h
          obtain rfl : t' = t := Option.some.inj h
          exact ih (by simp; omega) hfirst
        | none =>
          rw [hfirst] at h
          have hd : ⟨x :: before, rest⟩ = t ∧ d x = true := by
            by_cases hdx : d x = true
            · simpa [ends, hdx] using h
            · simp [ends, hdx] at h
          obtain ⟨rfl, hdx⟩ := hd
          refine ⟨by simpa using hdx, ?_⟩
          -- a further character of the class would have been read by one round more
          by_contra hnext
          rw [List.head?_eq_none_iff, List.flatMap_eq_nil_iff] at hfirst
          have hnone := hfirst ⟨x :: before, rest⟩ ((mem_iterate (by simp; omega)).2 .refl)
          cases rest with
          | nil => simp at hnext
          | cons y rest =>
            have hy : d y = true := by simpa using hnext
            simp [ends, hy] at hnone
      · have hd : d x = false := by
          by_contra hdx
          exact hx (hdc x (Bool.not_eq_false _ ▸ hdx))
        simp [iterate, ends, hx, hd] at h

/-! ## Searches -/

theorem searchFrom_iff (before rest : List Char) : searchFrom word p before rest = true ↔
    ∃ x y, rest = x ++ y ∧ ∃ t, t ∈ ends word p ⟨x.reverse ++ before, y⟩ := by
  have hsome : ∀ s, (!(ends word p s).isEmpty) = true ↔ ∃ t, t ∈ ends word p s := by
    intro s
    cases ends word p s with
    | nil => simp
    | cons t ts => simp
  induction rest generalizing before with
  | nil =>
    rw [searchFrom, hsome]
    constructor
    · exact fun h => ⟨[], [], rfl, h⟩
    · rintro ⟨x, y, hxy, h⟩
      obtain ⟨rfl, rfl⟩ := List.append_eq_nil_iff.1 hxy.symm
      exact h
  | cons c rest ih =>
    rw [searchFrom, Bool.or_eq_true, hsome]
    refine (or_congr_right (ih (c :: before))).trans ?_
    constructor
    · rintro (h | ⟨x, y, rfl, h⟩)
      · exact ⟨[], c :: rest, rfl, h⟩
      · exact ⟨c :: x, y, rfl, by simpa using h⟩
    · rintro ⟨x, y, hxy, h⟩
      cases x with
      | nil =>
        cases hxy
        exact .inl h
      | cons d x =>
        cases hxy
        exact .inr ⟨x, y, rfl, by simpa using h⟩

/-- **A search** finds a match when there is one at some place of the text. -/
theorem search_iff (text : List Char) :
    search word p text = true ↔ ∃ s : Place, s.text = text ∧ ∃ t, t ∈ ends word p s := by
  rw [search, searchFrom_iff]
  constructor
  · rintro ⟨x, y, rfl, h⟩
    exact ⟨⟨x.reverse ++ [], y⟩, by simp [Place.text], h⟩
  · rintro ⟨s, rfl, h⟩
    exact ⟨s.before.reverse, s.rest, rfl, by simpa using h⟩

/-! ## Replacements -/

section Scan

variable {q : Char → Prop} {mark : List Char}

theorem subFrom_nil (hp : p.Needs q) (n : ℕ) {s : Place} (hrest : s.rest = []) :
    subFrom word p mark n s = [] := by
  cases n with
  | zero => exact hrest
  | succ n =>
    have hnone : (ends word p s).head? = none := by
      rw [List.head?_eq_none_iff, List.eq_nil_iff_forall_not_mem]
      intro t ht
      have hlt := ends_shorter hp ht
      simp [hrest] at hlt
    rw [subFrom, hnone, hrest]

/-- More rounds than characters change nothing. -/
theorem subFrom_enough (hp : p.Needs q) {n m : ℕ} {s : Place} (hn : s.rest.length ≤ n)
    (hm : s.rest.length ≤ m) : subFrom word p mark n s = subFrom word p mark m s := by
  induction n generalizing m s with
  | zero =>
    have hnil : s.rest = [] := List.length_eq_zero_iff.1 (by omega)
    rw [subFrom_nil hp 0 hnil, subFrom_nil hp m hnil]
  | succ n ih =>
    cases m with
    | zero =>
      have hnil : s.rest = [] := List.length_eq_zero_iff.1 (by omega)
      rw [subFrom_nil hp _ hnil, subFrom_nil hp 0 hnil]
    | succ m =>
      rw [subFrom, subFrom]
      cases hhead : (ends word p s).head? with
      | none =>
        cases hrest : s.rest with
        | nil => rfl
        | cons c rest =>
          rw [hrest, List.length_cons] at hn hm
          dsimp only
          rw [ih (m := m) (by simp; omega) (by simp; omega)]
      | some t =>
        have hlt := ends_shorter hp (List.mem_of_mem_head? hhead)
        dsimp only
        rw [ih (m := m) (by omega) (by omega)]

theorem scan_nil (hp : p.Needs q) {s : Place} (hrest : s.rest = []) :
    scan word p mark s = [] :=
  subFrom_nil hp _ hrest

theorem scan_succ (hp : p.Needs q) (s : Place) :
    scan word p mark s = subFrom word p mark (s.rest.length + 1) s :=
  subFrom_enough hp le_rfl (Nat.le_succ _)

/-- A match is replaced. -/
theorem scan_match (hp : p.Needs q) {s t : Place} (h : (ends word p s).head? = some t) :
    scan word p mark s = mark ++ scan word p mark t := by
  have hlt := ends_shorter hp (List.mem_of_mem_head? h)
  rw [scan_succ hp, subFrom, h]
  dsimp only
  rw [subFrom_enough hp hlt.le le_rfl]
  rfl

/-- A character that no match starts at is kept. -/
theorem scan_read (hp : p.Needs q) {s : Place} {c : Char} {rest : List Char}
    (h : (ends word p s).head? = none) (hrest : s.rest = c :: rest) :
    scan word p mark s = c :: scan word p mark ⟨c :: s.before, rest⟩ := by
  rw [scan_succ hp, subFrom, h, hrest]
  dsimp only
  rw [subFrom_enough hp (by simp) le_rfl]
  rfl

/-- A text without a match stays. -/
theorem scan_of_not_searchFrom (hp : p.Needs q) {before rest : List Char}
    (h : searchFrom word p before rest = false) :
    scan word p mark ⟨before, rest⟩ = rest := by
  induction rest generalizing before with
  | nil => exact scan_nil hp rfl
  | cons c rest ih =>
    rw [searchFrom, Bool.or_eq_false_iff] at h
    have hnone : (ends word p ⟨before, c :: rest⟩).head? = none := by
      rw [List.head?_eq_none_iff, ← List.isEmpty_iff]
      simpa using h.1
    rw [scan_read hp hnone rfl]
    exact congrArg (c :: ·) (ih h.2)

theorem sub_of_not_search (hp : p.Needs q) {text : List Char} (h : search word p text = false) :
    sub word p mark text = text :=
  scan_of_not_searchFrom hp h

end Scan

/-! ## Places of the text with the matches replaced -/

section Shadows

/- The replacement: a character, a name and a character. -/
variable (word) (p) (left right : Char) (name : List Char)

/-- The replacement. -/
def markOf : List Char := left :: name ++ [right]

theorem markOf_append (rest : List Char) :
    markOf left right name ++ rest = left :: (name ++ right :: rest) := by
  simp [markOf]

/-- **What a place stands for**: the same is left, once the matches are replaced, and the same
character is before, or the right end of a replacement and of its match. -/
def Shadows (o t : Place) : Prop :=
  o.rest = scan word p (markOf left right name) t ∧
    (o.before.head? = t.before.head? ∨
      o.before.head? = some right ∧ ∃ s, (ends word p s).head? = some t)

variable {word} {p} {left right} {name} {q : Char → Prop}

/-- What is left at a place is copied, or is a replacement. -/
theorem Shadows.read (hp : p.Needs q) {o t : Place} (h : Shadows word p left right name o t)
    {c : Char} {rest : List Char} (hrest : o.rest = c :: rest) (hc : c ≠ left) :
    (ends word p t).head? = none ∧ ∃ rest', t.rest = c :: rest' ∧
      Shadows word p left right name ⟨c :: o.before, rest⟩ ⟨c :: t.before, rest'⟩ := by
  rw [h.1] at hrest
  cases hhead : (ends word p t).head? with
  | some t' =>
    rw [scan_match hp hhead, markOf_append] at hrest
    exact absurd (List.cons.inj hrest).1.symm hc
  | none =>
    cases hleft : t.rest with
    | nil =>
      rw [scan_nil hp hleft] at hrest
      cases hrest
    | cons d rest' =>
      rw [scan_read hp hhead hleft] at hrest
      obtain ⟨hd, hafter⟩ := List.cons.inj hrest
      subst hd
      exact ⟨rfl, rest', rfl, hafter.symm, .inl rfl⟩

/-- **Every place** of the text with the matches replaced is inside a replacement or stands for a
place of the text. -/
theorem places_of_scan (hp : p.Needs q) {o s : Place} (h : Shadows word p left right name o s)
    {x y : List Char} (hxy : o.rest = x ++ y) :
    (∃ t : Place, t.text = s.text ∧
      Shadows word p left right name ⟨x.reverse ++ o.before, y⟩ t) ∨
    ∃ z w, y = z ++ right :: w ∧ ∀ c ∈ z, c ∈ name := by
  induction hn : s.rest.length using Nat.strong_induction_on generalizing o s x with
  | _ n ih =>
    cases x with
    | nil => exact .inl ⟨s, rfl, by rw [← List.nil_append y, ← hxy]; exact h⟩
    | cons c x =>
      have hscan := h.1
      rw [hxy] at hscan
      cases hhead : (ends word p s).head? with
      | some t =>
        have hmem := List.mem_of_mem_head? hhead
        obtain ⟨u, hu⟩ := ends_reached hmem
        rw [scan_match hp hhead, markOf_append] at hscan
        obtain ⟨rfl, hscan⟩ := List.cons.inj hscan
        -- the place is inside the replacement, or after it
        rcases List.append_eq_append_iff.1 hscan with ⟨z, hname, hy⟩ | ⟨x', hx, hrest⟩
        · exact .inr ⟨z, _, hy, fun d hd => by
            rw [hname]
            exact List.mem_append_right _ hd⟩
        · cases x' with
          | nil =>
            exact .inr ⟨[], _, hrest.symm, by simp⟩
          | cons d x' =>
            rw [List.cons_append] at hrest
            obtain ⟨hd, hafter⟩ := List.cons.inj hrest
            subst hd
            have hnext : Shadows word p c right name
                ⟨right :: (c :: name).reverse ++ o.before, x' ++ y⟩ t :=
              ⟨hafter.symm, .inr ⟨rfl, s, hhead⟩⟩
            have hlt := ends_shorter hp hmem
            rcases ih t.rest.length (by omega) hnext rfl rfl with ⟨v, hv, hshadow⟩ | h
            · refine .inl ⟨v, hv.trans hu.text, ?_⟩
              simpa [hx] using hshadow
            · exact .inr h
      | none =>
        cases hrest : s.rest with
        | nil =>
          rw [scan_nil hp hrest] at hscan
          cases hscan
        | cons d rest =>
          rw [scan_read hp hhead hrest] at hscan
          obtain ⟨rfl, hscan⟩ := List.cons.inj hscan
          have hnext : Shadows word p left right name ⟨c :: o.before, x ++ y⟩
              ⟨c :: s.before, rest⟩ := ⟨hscan, .inl rfl⟩
          rcases ih rest.length (by rw [← hn, hrest]; simp) hnext rfl rfl with ⟨t, ht, hshadow⟩ | h
          · refine .inl ⟨t, ?_, ?_⟩
            · rw [ht, Place.text, Place.text, hrest]
              simp
            · simpa using hshadow
          · exact .inr h

/-! ## Matches among the replacements -/

variable {r : Pattern} {text : List Char}

/-- **A match among the replacements** is at a place that stands for one of the text: it cannot
leave a replacement, and reads what no replacement has inside. -/
theorem shadows_of_search {m : Char → Prop} (hp : p.Needs q) (hr : r.Reads (· ≠ right))
    (hm : r.Needs m) (hname : ∀ c ∈ name, ¬ m c)
    (h : search word r (sub word p (markOf left right name) text) = true) :
    ∃ o t : Place, t.text = text ∧ Shadows word p left right name o t ∧
      ∃ o', o' ∈ ends word r o := by
  obtain ⟨o, ho, o', ho'⟩ := (search_iff _).1 h
  have hstart : Shadows word p left right name
      ⟨[], sub word p (markOf left right name) text⟩ ⟨[], text⟩ := ⟨rfl, .inl rfl⟩
  rcases places_of_scan hp hstart (x := o.before.reverse) (y := o.rest) ho.symm with
    ⟨t, ht, hshadow⟩ | ⟨z, w, hrest, hz⟩
  · exact ⟨o, t, ht, by simpa using hshadow, o', ho'⟩
  · exfalso
    obtain ⟨u, hu, hreads⟩ := ends_reads hr ho'
    obtain ⟨u', hu', c, hc, hq⟩ := ends_needs hm ho'
    obtain rfl : u' = u := List.append_cancel_right (hu'.1.symm.trans hu.1)
    rcases List.append_eq_append_iff.1 (hrest.symm.trans hu.1) with ⟨a, ha, hright⟩ | ⟨a, ha, -⟩
    · cases a with
      | nil =>
        rw [ha, List.append_nil] at hc
        exact hname c (hz c hc) hq
      | cons d a =>
        have hd := (List.cons.inj hright).1
        exact hreads d (by rw [ha]; simp) hd.symm
    · exact hname c (hz c (by rw [ha]; exact List.mem_append_left _ hc)) hq

/-- No match of the pattern itself starts where one was replaced. -/
theorem not_ends_of_ends (hp : p.Needs q) (hreads : p.Reads (· ≠ left)) {o t o' t' : Place}
    (hrest : o.rest = scan word p (markOf left right name) t) (ho : o' ∈ ends word p o)
    (ht : t' ∈ ends word p t) : False := by
  obtain ⟨v, hv⟩ : ∃ v, (ends word p t).head? = some v := by
    rw [← Option.isSome_iff_exists, List.isSome_head?]
    simpa using List.ne_nil_of_mem ht
  rw [scan_match hp hv, markOf_append] at hrest
  obtain ⟨u, hu, hok⟩ := ends_reads hreads ho
  obtain ⟨c, u', rfl⟩ := List.exists_cons_of_ne_nil (hu.lt_iff.1 (ends_shorter hp ho))
  have hc := (List.cons.inj (hrest.symm.trans hu.1)).1
  exact hok c List.mem_cons_self hc.symm

/-- The same character follows, unless a match does. -/
theorem head_scan (hp : p.Needs q) {t : Place} (h : (ends word p t).head? = none) :
    (scan word p (markOf left right name) t).head? = t.rest.head? := by
  cases hrest : t.rest with
  | nil => rw [scan_nil hp hrest]
  | cons c rest => rw [scan_read hp h hrest]; rfl

/-! ### Patterns between edges -/

/-- Every match is between two edges of words. -/
structure Edged (word : Char → Bool) (p : Pattern) : Prop where
  first : ∀ s t, t ∈ ends word p s → s.edge word = true
  last : ∀ s t, t ∈ ends word p s → t.edge word = true

/-- The edges of the text with the matches replaced are edges of the text. -/
theorem Shadows.edge (hp : p.Needs q) (hedged : Edged word p) {o t : Place}
    (h : Shadows word p left right name o t) (ho : o.edge word = true) :
    t.edge word = true := by
  cases hhead : (ends word p t).head? with
  | some t' => exact hedged.first t t' (List.mem_of_mem_head? hhead)
  | none =>
    rcases h.2 with hbefore | ⟨-, s, hs⟩
    · rw [Place.edge, h.1, head_scan hp hhead, hbefore] at ho
      exact ho
    · exact hedged.last s t (List.mem_of_mem_head? hs)

theorem ends_of_edged (hp : p.Needs q) (hedged : Edged word p) (hr : r.Reads (· ≠ left))
    {o t o' : Place} (h : Shadows word p left right name o t)
    (ho : o' ∈ ends word r o) : ∃ t', t' ∈ ends word r t := by
  obtain ⟨u, t', ht', -⟩ := ends_sim (R := Shadows word p left right name)
    (fun s t c rest hs hrest hc => by
      obtain ⟨-, rest', hrest', hnext⟩ := hs.read hp hrest hc
      exact ⟨rest', hrest', hnext⟩)
    (fun _ s t hs => hs.edge hp hedged) hr h ho
  exact ⟨t', ht'⟩

/-- **What was replaced** is found no more. -/
theorem not_search_sub (hp : p.Needs q) (hedged : Edged word p) (hleft : p.Reads (· ≠ left))
    (hreads : p.Reads (· ≠ right)) (hname : ∀ c ∈ name, ¬ q c) :
    search word p (sub word p (markOf left right name) text) = false := by
  by_contra h
  obtain ⟨o, t, -, hshadow, o', ho'⟩ :=
    shadows_of_search hp hreads hp hname (Bool.not_eq_false _ ▸ h)
  obtain ⟨t', ht'⟩ := ends_of_edged hp hedged hleft hshadow ho'
  exact not_ends_of_ends hp hleft hshadow.1 ho' ht'

/-- **What another pattern finds** after the replacement was there before. -/
theorem search_of_search_sub {m : Char → Prop} (hp : p.Needs q) (hedged : Edged word p)
    (hleft : r.Reads (· ≠ left)) (hreads : r.Reads (· ≠ right))
    (hm : r.Needs m) (hname : ∀ c ∈ name, ¬ m c)
    (h : search word r (sub word p (markOf left right name) text) = true) :
    search word r text = true := by
  obtain ⟨o, t, ht, hshadow, o', ho'⟩ := shadows_of_search hp hreads hm hname h
  obtain ⟨t', ht'⟩ := ends_of_edged hp hedged hleft hshadow ho'
  exact (search_iff _).2 ⟨t, ht, t', ht'⟩

/-! ### Patterns without edges -/

theorem not_search_sub_plain (hp : p.Needs q) (hedges : p.edges = false)
    (hleft : p.Reads (· ≠ left)) (hreads : p.Reads (· ≠ right)) (hname : ∀ c ∈ name, ¬ q c) :
    search word p (sub word p (markOf left right name) text) = false := by
  by_contra h
  obtain ⟨o, t, -, hshadow, o', ho'⟩ :=
    shadows_of_search hp hreads hp hname (Bool.not_eq_false _ ▸ h)
  obtain ⟨u, t', ht', -⟩ := ends_sim (R := Shadows word p left right name)
    (fun s t c rest hs hrest hc => by
      obtain ⟨-, rest', hrest', hnext⟩ := hs.read hp hrest hc
      exact ⟨rest', hrest', hnext⟩)
    (fun he => by rw [hedges] at he; cases he) hleft hshadow ho'
  exact not_ends_of_ends hp hleft hshadow.1 ho' ht'

/-- A pattern whose matches start outside of words leaves the edges before them as they are. -/
theorem ends_of_inner (hp : p.Needs q) (hword : word left = false)
    (hfirst : ∀ s t, t ∈ ends word p s → s.rest.head?.any word = false)
    (hr : r.Reads (· ≠ left)) {o t o' : Place} (h : Shadows word p left right name o t)
    (hbefore : o.before.head? = t.before.head?) (ho : o' ∈ ends word r o) :
    ∃ t', t' ∈ ends word r t := by
  obtain ⟨u, t', ht', -⟩ := ends_sim (R := fun o t => Shadows word p left right name o t ∧
      o.before.head? = t.before.head?)
    (fun s t c rest hs hrest hc => by
      obtain ⟨-, rest', hrest', hnext⟩ := hs.1.read hp hrest hc
      exact ⟨rest', hrest', hnext, rfl⟩)
    (fun _ s t hs he => by
      cases hhead : (ends word p t).head? with
      | none => rwa [Place.edge, hs.2, hs.1.1, head_scan hp hhead] at he
      | some t' =>
        have hleft : s.rest.head? = some left := by
          rw [hs.1.1, scan_match hp hhead, markOf_append]
          rfl
        rw [Place.edge, hs.2, hleft, Option.any_some, hword] at he
        rwa [Place.edge, hfirst t t' (List.mem_of_mem_head? hhead)])
    hr ⟨h, hbefore⟩ ho
  exact ⟨t', ht'⟩

end Shadows

end Backtrack
