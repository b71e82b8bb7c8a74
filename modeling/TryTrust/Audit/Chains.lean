import TryTrust.Audit.Service

/-!
# Validated chains of events

The events that `validateChain` accepts, as a predicate on the list, and what its loops over ranges
and signatures see of such a list.

* `Chained`: consecutive numbers, joined hashes, hashes that recompute; **`validateChain_iff`**: the
  validator accepts exactly the chained lists;
* `chained_range`: the events of a range are a segment; `chained_mem`: every number is there;
* `ranges_spec`: the ranges between signatures are maximal runs; `ranges_of_signed`: every signature
  has one;
* **`verifyRanges_iff`**: every signed range has to have no problem.
-/

namespace TryTrust.Audit

variable (K : Crypto)

/-- Events numbered from `n` on, the first continuing `prev`. -/
def Chained : String → ℤ → List AuditEvent → Prop
  | _, _, [] => True
  | prev, n, e :: es =>
    e.seq = some n ∧ e.prevHash = prev ∧ e.rehash K = .ok e.hash ∧ Chained e.hash (n + 1) es

/-- The hash that the next event continues. -/
def lastHash (prev : String) (es : List AuditEvent) : String := (es.getLast?.map (·.hash)).getD prev

variable {K}

theorem lastHash_cons (prev : String) (e : AuditEvent) (es : List AuditEvent) :
    lastHash prev (e :: es) = lastHash e.hash es := by
  cases es with
  | nil => rfl
  | cons f es =>
    rw [lastHash, lastHash, List.getLast?_cons_cons,
      List.getLast?_eq_some_getLast (List.cons_ne_nil _ _)]
    rfl

theorem chained_append {prev : String} {n : ℤ} {es fs : List AuditEvent} :
    Chained K prev n (es ++ fs) ↔
      Chained K prev n es ∧ Chained K (lastHash prev es) (n + es.length) fs := by
  induction es generalizing prev n with
  | nil => simp [Chained, lastHash]
  | cons e es ih =>
    have hlen : n + 1 + (es.length : ℤ) = n + ((e :: es).length : ℤ) := by
      rw [List.length_cons]
      push_cast
      omega
    rw [List.cons_append, Chained, Chained, ih, lastHash_cons, hlen]
    simp only [and_assoc]

/-- The numbers of a chain are between its first and its last. -/
theorem chained_seq {prev : String} {n : ℤ} {es : List AuditEvent} (h : Chained K prev n es) :
    ∀ e ∈ es, ∃ m, e.seq = some m ∧ n ≤ m ∧ m < n + es.length := by
  induction es generalizing prev n with
  | nil =>
    intro e he
    cases he
  | cons f es ih =>
    obtain ⟨hseq, -, -, hrest⟩ := h
    intro e he
    rw [List.length_cons]
    rcases List.mem_cons.1 he with rfl | he
    · exact ⟨n, hseq, le_rfl, by push_cast; omega⟩
    · obtain ⟨m, hm, hlo, hhi⟩ := ih hrest e he
      exact ⟨m, hm, by omega, by push_cast; omega⟩

/-- Every number between the first and the last is there. -/
theorem chained_mem {prev : String} {n : ℤ} {es : List AuditEvent} (h : Chained K prev n es)
    {m : ℤ} (hlo : n ≤ m) (hhi : m < n + es.length) : ∃ e ∈ es, e.seq = some m := by
  induction es generalizing prev n with
  | nil =>
    rw [List.length_nil] at hhi
    push_cast at hhi
    omega
  | cons f es ih =>
    obtain ⟨hseq, -, -, hrest⟩ := h
    by_cases hm : m = n
    · subst hm
      exact ⟨f, List.mem_cons_self, hseq⟩
    · rw [List.length_cons] at hhi
      push_cast at hhi
      obtain ⟨e, he, hes⟩ := ih hrest (by omega) (by omega)
      exact ⟨e, List.mem_cons_of_mem _ he, hes⟩

/-- A number is there once. -/
theorem chained_unique {prev : String} {n : ℤ} {es : List AuditEvent} (h : Chained K prev n es)
    {e f : AuditEvent} (he : e ∈ es) (hf : f ∈ es) (hseq : e.seq = f.seq) : e = f := by
  induction es generalizing prev n with
  | nil => cases he
  | cons a es ih =>
    obtain ⟨ha, -, -, hrest⟩ := h
    have hlater : ∀ x ∈ es, x.seq ≠ some n := by
      intro x hx hxn
      obtain ⟨m, hm, hlo, -⟩ := chained_seq hrest x hx
      rw [hm] at hxn
      have := Option.some.inj hxn
      omega
    rcases List.mem_cons.1 he with hea | he'
    · rcases List.mem_cons.1 hf with hfa | hf'
      · rw [hea, hfa]
      · rw [← hea] at ha
        exact absurd (hseq.symm.trans ha) (hlater f hf')
    · rcases List.mem_cons.1 hf with hfa | hf'
      · rw [← hfa] at ha
        exact absurd (hseq.trans ha) (hlater e he')
      · exact ih hrest he' hf'

theorem chained_rehash {prev : String} {n : ℤ} {es : List AuditEvent} (h : Chained K prev n es) :
    ∀ e ∈ es, e.rehash K = .ok e.hash := by
  induction es generalizing prev n with
  | nil =>
    intro e he
    cases he
  | cons f es ih =>
    intro e he
    rcases List.mem_cons.1 he with rfl | he
    · exact h.2.2.1
    · exact ih h.2.2.2 e he

/-- The last event of a chain has its last number. -/
theorem chained_last {prev : String} {n : ℤ} {es : List AuditEvent} (h : Chained K prev n es)
    {e : AuditEvent} (he : es.getLast? = some e) : e.seq = some (n + es.length - 1) := by
  obtain ⟨init, rfl⟩ := List.getLast?_eq_some_iff.1 he
  obtain ⟨hseq, -⟩ := (chained_append.1 h).2
  rw [hseq, List.length_append, List.length_singleton]
  congr 1
  push_cast
  omega

/-! ## Ranges -/

theorem within_iff {e : AuditEvent} {m a b : ℤ} (h : e.seq = some m) :
    e.within a b = true ↔ a ≤ m ∧ m ≤ b := by
  rw [AuditEvent.within, h]
  simp

/-- **The events of a range** are a segment of the chain. -/
theorem chained_range {prev : String} {n : ℤ} {es : List AuditEvent} (h : Chained K prev n es)
    (a b : ℤ) : ∃ pre post, es = pre ++ es.filter (·.within a b) ++ post := by
  induction es generalizing prev n with
  | nil => exact ⟨[], [], rfl⟩
  | cons e es ih =>
    obtain ⟨hseq, hprev, hhash, hrest⟩ := h
    by_cases hw : e.within a b = true
    · rw [List.filter_cons_of_pos hw]
      have hn := (within_iff hseq).1 hw
      by_cases hend : n = b
      · -- nothing after the last number of the range
        have hnone : es.filter (·.within a b) = [] := by
          refine List.filter_eq_nil_iff.2 fun x hx hxw => ?_
          obtain ⟨m, hm, hlo, -⟩ := chained_seq hrest x hx
          have := (within_iff hm).1 hxw
          omega
        rw [hnone]
        exact ⟨[], es, rfl⟩
      · obtain ⟨pre, post, hsplit⟩ := ih hrest
        cases pre with
        | nil =>
          refine ⟨[], post, ?_⟩
          rw [List.nil_append] at hsplit ⊢
          rw [List.cons_append, ← hsplit]
        | cons x pre =>
          -- the next number is in the range, so nothing is skipped
          exfalso
          have hx : x ∈ es := by
            rw [hsplit]
            simp
          have hfirst : es = x :: (pre ++ es.filter (·.within a b) ++ post) := hsplit
          have hxseq : x.seq = some (n + 1) := by
            rw [hfirst] at hrest
            exact hrest.1
          have hxw : x.within a b = true := (within_iff hxseq).2 (by omega)
          have hlen := congrArg List.length hsplit
          have hcount : (es.filter (·.within a b)).head? = some x := by
            rw [hfirst, List.filter_cons_of_pos hxw]
            rfl
          obtain ⟨rest, hrest'⟩ : ∃ rest, es.filter (·.within a b) = x :: rest := by
            cases hfil : es.filter (·.within a b) with
            | nil => rw [hfil] at hcount; cases hcount
            | cons y ys =>
              rw [hfil] at hcount
              cases hcount
              exact ⟨ys, rfl⟩
          -- `x` would be there twice
          have hdup : x ∈ pre ++ es.filter (·.within a b) ++ post := by
            rw [hrest']
            simp
          rw [hfirst] at hrest
          obtain ⟨m, hm, hlo, -⟩ := chained_seq hrest.2.2.2 x hdup
          rw [hxseq] at hm
          have := Option.some.inj hm
          omega
    · rw [List.filter_cons_of_neg hw]
      obtain ⟨pre, post, hsplit⟩ := ih hrest
      refine ⟨e :: pre, post, ?_⟩
      rw [List.cons_append, List.cons_append, ← hsplit]

/-- A segment of a chain is a chain from its own first event. -/
theorem chained_segment {prev : String} {n : ℤ} {pre mid post : List AuditEvent}
    (h : Chained K prev n (pre ++ mid ++ post)) :
    Chained K (lastHash prev pre) (n + pre.length) mid :=
  (chained_append.1 (chained_append.1 h).1).2

/-- A range within a chain holds one event for each of its numbers. -/
theorem chained_count {prev : String} {n : ℤ} {es : List AuditEvent} (h : Chained K prev n es)
    {a b : ℤ} (hlo : n ≤ a) (hhi : b < n + es.length) (hab : a ≤ b) :
    ∃ prev', Chained K prev' a (es.filter (·.within a b)) ∧
      ((es.filter (·.within a b)).length : ℤ) = b - a + 1 := by
  obtain ⟨pre, post, hsplit⟩ := chained_range h a b
  have hseg := h
  rw [hsplit] at hseg
  have hmid := chained_segment hseg
  have hfilter : ∀ m, a ≤ m → m ≤ b → ∃ e ∈ es.filter (·.within a b), e.seq = some m := by
    intro m hm hm'
    obtain ⟨e, he, hseq⟩ := chained_mem h (m := m) (by omega) (by omega)
    exact ⟨e, List.mem_filter.2 ⟨he, (within_iff hseq).2 ⟨hm, hm'⟩⟩, hseq⟩
  generalize hmids : es.filter (·.within a b) = mid at hmid hfilter
  have hwithin : ∀ e ∈ mid, e.within a b = true := by
    intro e he
    rw [← hmids] at he
    exact (List.mem_filter.1 he).2
  -- the first and the last number of the segment are `a` and `b`
  obtain ⟨x, hx, hxa⟩ := hfilter a le_rfl hab
  obtain ⟨y, hy, hyb⟩ := hfilter b hab le_rfl
  obtain ⟨m, hm, hmlo, hmhi⟩ := chained_seq hmid x hx
  obtain ⟨k, hk, hklo, hkhi⟩ := chained_seq hmid y hy
  rw [hxa] at hm
  rw [hyb] at hk
  have hma : a = m := Option.some.inj hm
  have hkb : b = k := Option.some.inj hk
  have hne : 0 < (mid.length : ℤ) := by omega
  obtain ⟨u, hu, huseq⟩ := chained_mem hmid (m := n + pre.length) le_rfl (by omega)
  obtain ⟨v, hv, hvseq⟩ := chained_mem hmid (m := n + pre.length + mid.length - 1) (by omega)
    (by omega)
  have hulo := (within_iff huseq).1 (hwithin u hu)
  have hvhi := (within_iff hvseq).1 (hwithin v hv)
  have hstart : n + (pre.length : ℤ) = a := by omega
  refine ⟨_, hstart ▸ hmid, by omega⟩

/-- The last event of a range that a chain fills. -/
theorem chained_range_last {es : List AuditEvent} {prev : String} {n : ℤ}
    (h : Chained K prev n es) {a b : ℤ} (hfirst : ∃ e ∈ es, e.seq = some a)
    (hlast : ∃ e ∈ es, e.seq = some b) (hab : a ≤ b) :
    ∃ prev', Chained K prev' a (es.filter (·.within a b)) ∧
      ((es.filter (·.within a b)).length : ℤ) = b - a + 1 ∧
      ∃ last ∈ es, last.seq = some b ∧
        (es.filter (·.within a b)).getLast? = some last := by
  obtain ⟨e, he, hea⟩ := hfirst
  obtain ⟨g, hg, hgb⟩ := hlast
  obtain ⟨m, hm, hmlo, -⟩ := chained_seq h e he
  obtain ⟨k, hk, -, hkhi⟩ := chained_seq h g hg
  rw [hea] at hm
  rw [hgb] at hk
  have ham : a = m := Option.some.inj hm
  have hbk : b = k := Option.some.inj hk
  obtain ⟨prev', hpart, hlen⟩ := chained_count h (a := a) (b := b) (by omega) (by omega) hab
  refine ⟨prev', hpart, hlen, ?_⟩
  have hne : es.filter (·.within a b) ≠ [] := by
    intro hnil
    rw [hnil, List.length_nil] at hlen
    push_cast at hlen
    omega
  have hget := List.getLast?_eq_some_getLast hne
  refine ⟨_, (List.mem_filter.1 (List.getLast_mem hne)).1, ?_, hget⟩
  rw [chained_last hpart hget]
  congr 1
  omega

/-! ## The validator -/

theorem validateEvent_iff {e : AuditEvent} {prev : String} :
    validateEvent K e prev = .ok none ↔ e.prevHash = prev ∧ e.rehash K = .ok e.hash := by
  rw [validateEvent]
  by_cases hprev : e.prevHash = prev
  · rw [if_neg (not_not.2 hprev)]
    cases hhash : e.rehash K with
    | error x =>
      constructor
      · intro h
        cases h
      · rintro ⟨-, h⟩
        cases h
    | ok hash =>
      by_cases heq : e.hash = hash
      · rw [← heq]
        exact ⟨fun _ => ⟨hprev, rfl⟩, fun _ => if_neg (not_not.2 rfl)⟩
      · constructor
        · intro h
          have hbad := (if_pos heq).symm.trans h
          cases hbad
        · rintro ⟨-, h⟩
          exact absurd (Except.ok.inj h).symm heq
  · rw [if_pos hprev]
    constructor
    · intro h
      cases h
    · rintro ⟨h, -⟩
      exact absurd h hprev

/-- A verdict that accepts. -/
def Passes (verdict : Except AuditErr ChainResult) : Prop := ∃ r, verdict = .ok r ∧ r.ok = true

theorem passes_ok {r : ChainResult} : Passes (.ok r) ↔ r.ok = true := by
  constructor
  · rintro ⟨r', hr, hok⟩
    rw [Except.ok.inj hr]
    exact hok
  · exact fun h => ⟨r, rfl, h⟩

/-- One event past the continuity check. -/
theorem validateFrom_step (start : Option String) (i : ℕ) (prev : Option AuditEvent)
    (e : AuditEvent) (es : List AuditEvent) (hgap : prev.bind (seqGap · e) = none) :
    Passes (validateFrom K start true i prev (e :: es)) ↔
      (e.prevHash = expectedPrev start prev e ∧ e.rehash K = .ok e.hash) ∧
        Passes (validateFrom K start true (i + 1) (some e) es) := by
  rw [← validateEvent_iff]
  simp only [validateFrom, if_true, hgap]
  cases hval : validateEvent K e (expectedPrev start prev e) with
  | error x =>
    constructor
    · rintro ⟨r, hr, -⟩
      cases hr
    · rintro ⟨h, -⟩
      cases h
  | ok reason =>
    cases reason with
    | none => exact ⟨fun h => ⟨rfl, h⟩, fun h => h.2⟩
    | some reason =>
      constructor
      · rintro ⟨r, hr, hok⟩
        rw [← Except.ok.inj hr] at hok
        cases hok
      · rintro ⟨h, -⟩
        cases h

/-- The loop accepts exactly what continues the chain. -/
theorem validateFrom_iff (start : Option String) {es : List AuditEvent} (i : ℕ)
    {prev : AuditEvent} {m : ℤ} (hprev : prev.seq = some m) (hseqs : ∀ e ∈ es, e.seq.isSome) :
    Passes (validateFrom K start true i (some prev) es) ↔ Chained K prev.hash (m + 1) es := by
  induction es generalizing i prev m with
  | nil => exact ⟨fun _ => trivial, fun _ => ⟨_, rfl, rfl⟩⟩
  | cons e es ih =>
    obtain ⟨k, hk⟩ := Option.isSome_iff_exists.1 (hseqs e List.mem_cons_self)
    have hgap : seqGap prev e = if k ≠ m + 1 then some (m, k) else none := by
      rw [seqGap, hprev, hk]
    by_cases hnext : k = m + 1
    · have hnone : (some prev).bind (seqGap · e) = none := by
        rw [Option.bind_some, hgap, if_neg (not_not.2 hnext)]
      rw [validateFrom_step start i (some prev) e es hnone,
        ih (i + 1) hk fun f hf => hseqs f (List.mem_cons_of_mem _ hf), Chained, hnext]
      rw [hnext] at hk
      constructor
      · rintro ⟨⟨h1, h2⟩, h3⟩
        exact ⟨hk, h1, h2, h3⟩
      · rintro ⟨-, h1, h2, h3⟩
        exact ⟨⟨h1, h2⟩, h3⟩
    · have hsome : (some prev).bind (seqGap · e) = some (m, k) := by
        rw [Option.bind_some, hgap, if_pos hnext]
      constructor
      · rintro ⟨r, hr, hok⟩
        simp only [validateFrom, if_true, hsome] at hr
        rw [← Except.ok.inj hr] at hok
        cases hok
      · rintro ⟨h, -⟩
        rw [hk] at h
        exact absurd (Option.some.inj h) hnext

/-- **The validator** accepts exactly the chains. -/
theorem validateChain_iff (start : Option String) {e : AuditEvent} {es : List AuditEvent} {n : ℤ}
    (hn : e.seq = some n) (hseqs : ∀ f ∈ es, f.seq.isSome) :
    Passes (validateChain K (e :: es) start true) ↔
      Chained K (expectedPrev start none e) n (e :: es) := by
  rw [validateChain, validateFrom_step start 0 none e es rfl, validateFrom_iff start 1 hn hseqs,
    Chained]
  constructor
  · rintro ⟨⟨h1, h2⟩, h3⟩
    exact ⟨hn, h1, h2, h3⟩
  · rintro ⟨-, h1, h2, h3⟩
    exact ⟨⟨h1, h2⟩, h3⟩

/-! ## Signed ranges -/

/-- A range between signatures: a maximal run of one signature. -/
structure MaximalRun (es : List AuditEvent) (a b : ℤ) (sig : String) : Prop where
  first : ∃ e ∈ es, e.seq = some a
  last : ∃ e ∈ es, e.seq = some b
  le : a ≤ b
  inside : ∀ e ∈ es, e.within a b = true → e.rootSig = some sig
  before : ∀ e ∈ es, e.seq = some (a - 1) → e.rootSig ≠ some sig
  after : ∀ e ∈ es, e.seq = some (b + 1) → e.rootSig ≠ some sig

/-- What the loop knows of the events behind it, the last of them numbered `m`. -/
structure RunKnows (past : List AuditEvent) (m : ℤ) (run : SigRun) : Prop where
  current : ∀ e ∈ past, e.seq = some m → e.rootSig = run.sig
  signed : ∀ sig, run.sig = some sig → ∃ a, run.start = some a ∧ run.last = some m ∧ a ≤ m ∧
    (∃ e ∈ past, e.seq = some a) ∧ (∀ e ∈ past, e.within a m = true → e.rootSig = some sig) ∧
    ∀ e ∈ past, e.seq = some (a - 1) → e.rootSig ≠ some sig

section Runs

variable {prev : String} {n : ℤ} {past rest : List AuditEvent}

/-- Behind the loop the numbers are smaller. -/
theorem past_seq (h : Chained K prev n (past ++ rest)) {e : AuditEvent} {m : ℤ}
    (he : e ∈ past ++ rest) (hseq : e.seq = some m) (hm : m < n + past.length) : e ∈ past := by
  rcases List.mem_append.1 he with he | he
  · exact he
  · obtain ⟨k, hk, hlo, -⟩ := chained_seq (chained_append.1 h).2 e he
    rw [hseq] at hk
    have := Option.some.inj hk
    omega

/-- The run that ends here is maximal, when the next event is not of its signature. -/
theorem run_closed (h : Chained K prev n (past ++ rest)) {run : SigRun}
    (hrun : RunKnows past (n + past.length - 1) run)
    (hnext : ∀ e ∈ rest, e.seq = some (n + past.length) → e.rootSig ≠ run.sig) :
    ∀ x ∈ run.range, MaximalRun (past ++ rest) x.1 x.2.1 x.2.2 := by
  intro x hx
  cases hsig : run.sig with
  | none =>
    rw [SigRun.range, hsig] at hx
    cases hx
  | some sig =>
    obtain ⟨a, hstart, hlast, hle, hfirst, hinside, hbefore⟩ := hrun.signed sig hsig
    have hrange : run.range = [(a, n + past.length - 1, sig)] := by
      rw [SigRun.range, hsig, hstart, hlast]
    rw [hrange, List.mem_singleton] at hx
    rw [hx]
    change MaximalRun (past ++ rest) a (n + past.length - 1) sig
    have hpast := (chained_append.1 h).1
    obtain ⟨f, hf, hfa⟩ := hfirst
    obtain ⟨k, hk, hklo, hkhi⟩ := chained_seq hpast f hf
    rw [hfa] at hk
    have hak : a = k := Option.some.inj hk
    refine ⟨⟨f, List.mem_append_left _ hf, hfa⟩, ?_, hle, ?_, ?_, ?_⟩
    · obtain ⟨e, he, hes⟩ := chained_mem hpast (m := n + past.length - 1) (by omega) (by omega)
      exact ⟨e, List.mem_append_left _ he, hes⟩
    · intro e he hw
      obtain ⟨m, hm, -, -⟩ := chained_seq h e he
      have hin := (within_iff hm).1 hw
      exact hinside e (past_seq h he hm (by omega)) hw
    · intro e he hes
      exact hbefore e (past_seq h he hes (by omega)) hes
    · intro e he hes
      have hseq : e.seq = some (n + past.length) := by
        rw [hes]
        congr 1
        omega
      rcases List.mem_append.1 he with he | he
      · obtain ⟨m, hm, -, hmhi⟩ := chained_seq hpast e he
        rw [hseq] at hm
        have := Option.some.inj hm
        omega
      · rw [← hsig]
        exact hnext e he hseq

/-- A run that begins with the next event. -/
theorem runKnows_begin (h : Chained K prev n (past ++ rest)) {run : SigRun}
    (hrun : RunKnows past (n + past.length - 1) run) {e : AuditEvent}
    (he : e.seq = some (n + past.length)) (hne : e.rootSig ≠ run.sig) :
    RunKnows (past ++ [e]) (n + past.length)
      ⟨e.rootSig, some (n + past.length), some (n + past.length)⟩ := by
  have hpast := (chained_append.1 h).1
  have hlast : ∀ x ∈ past ++ [e], x.seq = some (n + past.length) → x = e := by
    intro x hx hxs
    rcases List.mem_append.1 hx with hx | hx
    · obtain ⟨m, hm, -, hmhi⟩ := chained_seq hpast x hx
      rw [hxs] at hm
      have := Option.some.inj hm
      omega
    · exact List.mem_singleton.1 hx
  refine ⟨fun x hx hxs => by rw [hlast x hx hxs], fun sig hsig => ?_⟩
  refine ⟨_, rfl, rfl, le_rfl, ⟨e, by simp, he⟩, ?_, ?_⟩
  · intro x hx hw
    rcases List.mem_append.1 hx with hx' | hx'
    · obtain ⟨m, hm, -, hmhi⟩ := chained_seq hpast x hx'
      have hin := (within_iff hm).1 hw
      omega
    · rw [List.mem_singleton.1 hx']
      exact hsig
  · intro x hx hxs hxsig
    rcases List.mem_append.1 hx with hx' | hx'
    · have hcur := hrun.current x hx' hxs
      exact hne ((hsig.trans hxsig.symm).trans hcur)
    · rw [List.mem_singleton.1 hx', he] at hxs
      have := Option.some.inj hxs
      omega

/-- A run that goes on with the next event. -/
theorem runKnows_continue {run : SigRun} (hrun : RunKnows past (n + past.length - 1) run)
    (h : Chained K prev n (past ++ rest)) {e : AuditEvent} (he : e.seq = some (n + past.length))
    (hsame : e.rootSig = run.sig) :
    RunKnows (past ++ [e]) (n + past.length) { run with last := some (n + past.length) } := by
  have hpast := (chained_append.1 h).1
  constructor
  · intro x hx hxs
    rcases List.mem_append.1 hx with hx' | hx'
    · obtain ⟨m, hm, -, hmhi⟩ := chained_seq hpast x hx'
      rw [hxs] at hm
      have := Option.some.inj hm
      omega
    · rw [List.mem_singleton.1 hx']
      exact hsame
  · intro sig hsig
    obtain ⟨a, hstart, -, hle, ⟨f, hf, hfa⟩, hinside, hbefore⟩ := hrun.signed sig hsig
    refine ⟨a, hstart, rfl, by omega, ⟨f, List.mem_append_left _ hf, hfa⟩, ?_, ?_⟩
    · intro x hx hw
      rcases List.mem_append.1 hx with hx' | hx'
      · obtain ⟨m, hm, -, hmhi⟩ := chained_seq hpast x hx'
        have hin := (within_iff hm).1 hw
        exact hinside x hx' ((within_iff hm).2 (by omega))
      · rw [List.mem_singleton.1 hx', hsame]
        exact hsig
    · intro x hx hxs
      rcases List.mem_append.1 hx with hx' | hx'
      · exact hbefore x hx' hxs
      · rw [List.mem_singleton.1 hx', he] at hxs
        have := Option.some.inj hxs
        omega

end Runs

/-- **The ranges between signatures** are maximal runs. -/
theorem ranges_spec {prev : String} {n : ℤ} {rest : List AuditEvent} :
    ∀ {past : List AuditEvent} {run : SigRun}, Chained K prev n (past ++ rest) →
      RunKnows past (n + past.length - 1) run →
      ∀ x ∈ checkpointRanges run rest, MaximalRun (past ++ rest) x.1 x.2.1 x.2.2 := by
  induction rest with
  | nil =>
    intro past run h hrun x hx
    exact run_closed h hrun (fun e he => by cases he) x hx
  | cons e rest ih =>
    intro past run h hrun x hx
    have hseq : e.seq = some (n + past.length) := (chained_append.1 h).2.1
    have hsplit : past ++ e :: rest = past ++ [e] ++ rest := by simp
    have hlen : n + ((past ++ [e]).length : ℤ) - 1 = n + past.length := by
      rw [List.length_append, List.length_singleton]
      push_cast
      omega
    rw [checkpointRanges, hseq] at hx
    by_cases hsame : e.rootSig = run.sig
    · simp only [hsame, ne_eq, not_true_eq_false, if_false] at hx
      have hknows := runKnows_continue hrun h hseq hsame
      rw [hsplit] at h ⊢
      exact ih h (by rw [hlen]; exact hknows) x hx
    · simp only [ne_eq, hsame, not_false_eq_true, if_true] at hx
      rcases List.mem_append.1 hx with hx | hx
      · refine run_closed h hrun (fun f hf hfs => ?_) x hx
        have hfe : f = e := chained_unique h (List.mem_append_right _ hf) (by simp)
          (hfs.trans hseq.symm)
        rw [hfe]
        exact hsame
      · have hknows := runKnows_begin h hrun hseq hsame
        rw [hsplit] at h ⊢
        exact ih h (by rw [hlen]; exact hknows) x hx

/-- Every signature that an event carries has a range. -/
theorem ranges_of_signed {es : List AuditEvent} {sig : String} (hseqs : ∀ e ∈ es, e.seq.isSome) :
    ∀ {run : SigRun}, (run.sig.isSome → run.start.isSome ∧ run.last.isSome) →
      (run.sig = some sig ∨ ∃ e ∈ es, e.rootSig = some sig) →
      ∃ a b, (a, b, sig) ∈ checkpointRanges run es := by
  induction es with
  | nil =>
    intro run hrun h
    have hsig : run.sig = some sig := h.resolve_right fun hex => by
      obtain ⟨e, he, -⟩ := hex
      cases he
    obtain ⟨hstart, hlast⟩ := hrun (by rw [hsig]; rfl)
    obtain ⟨a, ha⟩ := Option.isSome_iff_exists.1 hstart
    obtain ⟨b, hb⟩ := Option.isSome_iff_exists.1 hlast
    exact ⟨a, b, by simp [checkpointRanges, SigRun.range, hsig, ha, hb]⟩
  | cons e es ih =>
    intro run hrun h
    obtain ⟨k, hk⟩ := Option.isSome_iff_exists.1 (hseqs e List.mem_cons_self)
    have hrest : ∀ f ∈ es, f.seq.isSome := fun f hf => hseqs f (List.mem_cons_of_mem _ hf)
    rw [checkpointRanges, hk]
    by_cases hsame : e.rootSig = run.sig
    · simp only [hsame, ne_eq, not_true_eq_false, if_false]
      refine ih hrest (fun hs => ⟨(hrun hs).1, rfl⟩) ?_
      rcases h with hsig | ⟨f, hf, hfs⟩
      · exact .inl hsig
      · rcases List.mem_cons.1 hf with rfl | hf
        · exact .inl (hsame.symm.trans hfs)
        · exact .inr ⟨f, hf, hfs⟩
    · simp only [ne_eq, hsame, not_false_eq_true, if_true]
      rcases h with hsig | ⟨f, hf, hfs⟩
      · obtain ⟨hstart, hlast⟩ := hrun (by rw [hsig]; rfl)
        obtain ⟨a, ha⟩ := Option.isSome_iff_exists.1 hstart
        obtain ⟨b, hb⟩ := Option.isSome_iff_exists.1 hlast
        refine ⟨a, b, List.mem_append_left _ ?_⟩
        simp [SigRun.range, hsig, ha, hb]
      · have hlater : ∃ a b, (a, b, sig) ∈ checkpointRanges ⟨e.rootSig, some k, some k⟩ es := by
          refine ih hrest (fun _ => ⟨rfl, rfl⟩) ?_
          rcases List.mem_cons.1 hf with rfl | hf
          · exact .inl hfs
          · exact .inr ⟨f, hf, hfs⟩
        obtain ⟨a, b, hab⟩ := hlater
        exact ⟨a, b, List.mem_append_right _ hab⟩

/-- The signature of a range is one that an event carries. -/
theorem ranges_sig {es : List AuditEvent} {x : ℤ × ℤ × String} :
    ∀ {run : SigRun}, x ∈ checkpointRanges run es →
      run.sig = some x.2.2 ∨ ∃ e ∈ es, e.rootSig = some x.2.2 := by
  have hrange : ∀ {run : SigRun}, x ∈ run.range → run.sig = some x.2.2 := by
    intro run hx
    obtain ⟨sig, start, last⟩ := run
    rw [SigRun.range] at hx
    split at hx
    · rw [List.mem_singleton.1 hx]
      assumption
    · cases hx
  induction es with
  | nil => exact fun hx => .inl (hrange hx)
  | cons e es ih =>
    intro run hx
    have hlater : (∃ f ∈ es, f.rootSig = some x.2.2) →
        ∃ f ∈ e :: es, f.rootSig = some x.2.2 := by
      rintro ⟨f, hf, hfsig⟩
      exact ⟨f, List.mem_cons_of_mem _ hf, hfsig⟩
    rw [checkpointRanges] at hx
    split at hx
    · exact (ih hx).imp_right hlater
    · split_ifs at hx with hsame
      · rcases List.mem_append.1 hx with hx | hx
        · exact .inl (hrange hx)
        · rcases ih hx with hsig | hsig
          · exact .inr ⟨e, List.mem_cons_self, hsig⟩
          · exact .inr (hlater hsig)
      · exact (ih hx).imp_right hlater

/-- The verdict on the signed ranges: none of them has a problem. -/
theorem verifyRanges_iff {witness : Witness} {es : List AuditEvent}
    {ranges : List (ℤ × ℤ × String)} : Passes (verifyRanges K witness es ranges) ↔
      ∀ x ∈ ranges, rangeProblem K witness es x.1 x.2.1 x.2.2 = .ok none := by
  induction ranges with
  | nil => exact ⟨fun _ x hx => (by cases hx), fun _ => ⟨_, rfl, rfl⟩⟩
  | cons x ranges ih =>
    obtain ⟨a, b, sig⟩ := x
    cases hproblem : rangeProblem K witness es a b sig with
    | error err =>
      constructor
      · rintro ⟨r, hr, -⟩
        simp only [verifyRanges, hproblem] at hr
        cases hr
      · intro h
        have hfirst := h _ List.mem_cons_self
        rw [hproblem] at hfirst
        cases hfirst
    | ok problem =>
      cases problem with
      | none =>
        have hstep : verifyRanges K witness es ((a, b, sig) :: ranges) =
            verifyRanges K witness es ranges := by
          simp only [verifyRanges, hproblem]
          rfl
        rw [hstep, ih]
        constructor
        · intro h x hx
          rcases List.mem_cons.1 hx with rfl | hx
          · exact hproblem
          · exact h x hx
        · exact fun h x hx => h x (List.mem_cons_of_mem _ hx)
      | some reason =>
        constructor
        · rintro ⟨r, hr, hok⟩
          simp only [verifyRanges, hproblem] at hr
          rw [← Except.ok.inj hr] at hok
          cases hok
        · intro h
          have hfirst := h _ List.mem_cons_self
          rw [hproblem] at hfirst
          cases hfirst

/-- What a signed range without a problem says. -/
theorem rangeProblem_none {witness : Witness} {es : List AuditEvent} {a b : ℤ} {sig : String} :
    rangeProblem K witness es a b sig = .ok none ↔ ∃ hash bytes cp,
      computeRootHash K a b (((es.filter (·.within a b)).getLast?.map (·.hash)).getD "")
        (es.filter (·.within a b)).length = .ok hash ∧
      fromHex sig = some bytes ∧ K.verify hash bytes = true ∧ witness (a, b) = some cp ∧
        cp.rootHash = hash ∧ cp.rootSig = sig ∧
          cp.cardinality = (es.filter (·.within a b)).length := by
  rw [rangeProblem]
  simp only [bind, Except.bind, pure, Except.pure]
  cases hhash : computeRootHash K a b (((es.filter (·.within a b)).getLast?.map (·.hash)).getD "")
      (es.filter (·.within a b)).length with
  | error err =>
    constructor
    · intro h
      cases h
    · rintro ⟨hash, -, -, h, -⟩
      cases h
  | ok hash =>
    simp only
    constructor
    · intro h
      split_ifs at h with hsig
      · cases h
      · have hverified : (fromHex sig).any (K.verify hash) = true := by simpa using hsig
        obtain ⟨bytes, hbytes, hverify⟩ := (Option.any_eq_true _ _).1 hverified
        cases hcp : witness (a, b) with
        | none =>
          rw [hcp] at h
          cases h
        | some cp =>
          rw [hcp] at h
          simp only at h
          split_ifs at h with hdiff
          · cases h
          · push Not at hdiff
            exact ⟨hash, bytes, cp, rfl, hbytes, hverify, rfl, hdiff⟩
    · rintro ⟨hash', bytes, cp, hsame, hbytes, hverify, hcp, h1, h2, h3⟩
      have hsig : ¬ (!(fromHex sig).any (K.verify hash)) = true := by
        rw [Except.ok.inj hsame, hbytes]
        simpa using hverify
      have hdiff : ¬ (cp.rootHash ≠ hash ∨ cp.rootSig ≠ sig ∨
          cp.cardinality ≠ (es.filter (·.within a b)).length) := by
        push Not
        exact ⟨h1.trans (Except.ok.inj hsame).symm, h2, h3⟩
      rw [if_neg hsig, hcp]
      simp only [if_neg hdiff]

/-- **The verdict on a selection of events**: there are none, or they are a chain whose signed
ranges have no problem. -/
theorem verifyChain_iff {reads : Reads} {witness : Witness} {range : Option (ℤ × ℤ)}
    {es : List AuditEvent} (hread : reads.select range = .ok es) :
    Passes (verifyChain K reads witness none range) ↔ es = [] ∨
      (Passes (validateChain K es none true) ∧
        ∀ x ∈ checkpointRanges {} es, rangeProblem K witness es x.1 x.2.1 x.2.2 = .ok none) := by
  rw [← verifyRanges_iff]
  cases es with
  | nil =>
    refine ⟨fun _ => .inl rfl, fun _ => ?_⟩
    simp only [verifyChain, hread, bind, Except.bind]
    exact ⟨_, rfl, rfl⟩
  | cons e es =>
    have hverify : verifyChain K reads witness none range =
        (validateChain K (e :: es) none true).bind fun chain =>
          if !chain.ok then .ok chain
          else verifyRanges K witness (e :: es) (checkpointRanges {} (e :: es)) := by
      simp only [verifyChain, hread, bind, Except.bind]
      rfl
    rw [hverify]
    cases hvalid : validateChain K (e :: es) none true with
    | error x =>
      constructor
      · rintro ⟨r, hr, -⟩
        cases hr
      · rintro (h | ⟨⟨r, hr, -⟩, -⟩)
        · cases h
        · cases hr
    | ok chain =>
      simp only [Except.bind]
      cases hok : chain.ok with
      | false =>
        constructor
        · rintro ⟨r, hr, hrok⟩
          rw [← Except.ok.inj hr, hok] at hrok
          cases hrok
        · rintro (h | ⟨h, -⟩)
          · cases h
          · rw [passes_ok, hok] at h
            cases h
      | true =>
        exact ⟨fun h => .inr ⟨passes_ok.2 hok, h⟩, fun h => (h.resolve_left (by simp)).2⟩

end TryTrust.Audit
