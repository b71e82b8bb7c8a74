import TryTrust.Audit.AgentAppends

/-!
# What a checkpoint of the agent lane binds

The tables that appends have written, a checkpoint of them, and any edit of the tables after it.

* `SameRow`, `Unchanged`: the events that a checkpoint covers are those of before;
* `replays_prev`, `same_chain`: two chains that replay to one head;
* **`checkpoint_sound`**: a valid verdict binds the events as long as the latest row still holds the
  root that was signed, and no longer; **`checkpoint_forged`**: rewritten chains with a rewritten
  root are valid under the old signature.
-/

namespace TryTrust.Audit.Agent

open Conc

/-- Two rows of one event. -/
structure SameRow (a b : AuditRow) : Prop where
  content : SameContent a b
  prevHash : a.prevHash = b.prevHash
  hash : a.hash = b.hash

/-- **The covered events**: of every chain that `d` has a row of, up to the length in that row. -/
def Unchanged (d d' : Database) : Prop :=
  ∀ key row, (key, row) ∈ d.chains → List.Forall₂ SameRow
    ((eventsOf d.auditEvents key).take row.length) ((eventsOf d'.auditEvents key).take row.length)

/-- The texts that are hashed over a database: of its events, and of its heads. -/
def hashed (d : Database) : Set String :=
  {text | (∃ row ∈ d.auditEvents, ∃ t, canonicalText row.toEntry.content = some t ∧
    text = row.prevHash ++ t) ∨ canonicalText (headsJson d.chains) = some text}

variable {K : Crypto}

theorem genuine_text {row : AuditRow} (h : Genuine K row) : ∃ t,
    canonicalText row.toEntry.content = some t ∧ row.hash = K.sha256 (row.prevHash ++ t) := by
  rw [Genuine, digest] at h
  cases htext : canonicalText row.toEntry.content with
  | none =>
    rw [htext] at h
    cases h
  | some t =>
    rw [htext] at h
    exact ⟨t, rfl, (Except.ok.inj h).symm⟩

/-- Every event of a chain that replays names a hash of 64 characters. -/
theorem linked_prev {rows : List AuditRow} {p : String} (hp : p.length = 64)
    (h : HashChain.Linked prevOf hashOf p rows) (hgenuine : ∀ r ∈ rows, Genuine K r) :
    ∀ r ∈ rows, r.prevHash.length = 64 := by
  induction rows generalizing p with
  | nil =>
    intro r hr
    cases hr
  | cons row rows ih =>
    intro r hr
    rcases List.mem_cons.1 hr with hr | hr
    · rw [hr]
      have hprev : row.prevHash = p := h.1
      rw [hprev]
      exact hp
    · refine ih ?_ h.2 (fun x hx => hgenuine x (List.mem_cons_of_mem _ hx)) r hr
      obtain ⟨t, -, hhash⟩ := genuine_text (hgenuine row List.mem_cons_self)
      change row.hash.length = 64
      rw [hhash]
      exact (K.sha256_hex _).1

theorem append_inj_length {s s' t t' : String} (h : s ++ t = s' ++ t')
    (hlen : s.length = s'.length) : s = s' ∧ t = t' := by
  have hchars := congrArg String.toList h
  rw [String.toList_append, String.toList_append] at hchars
  obtain ⟨hs, ht⟩ := List.append_inj hchars
    (by rw [String.length_toList, String.length_toList]; exact hlen)
  exact ⟨String.toList_inj.1 hs, String.toList_inj.1 ht⟩

theorem mem_eventsOf {rows : List AuditRow} {key : String} {r : AuditRow}
    (h : r ∈ eventsOf rows key) : r ∈ rows :=
  (List.mem_filter.1 ((List.mem_insertionSort _).1 h)).1

/-- **Two chains that replay** to one head, the hash being free of collisions on their texts. -/
theorem same_chain {d d' : Database} (hcoll : Set.InjOn K.sha256 (hashed d ∪ hashed d'))
    (hgenesis : ∀ text ∈ hashed d ∪ hashed d', K.sha256 text ≠ genesisPrevHash) {key : String}
    (h : Replays K (eventsOf d.auditEvents key)) (h' : Replays K (eventsOf d'.auditEvents key))
    (hhead : HashChain.head hashOf genesisPrevHash (eventsOf d.auditEvents key) =
      HashChain.head hashOf genesisPrevHash (eventsOf d'.auditEvents key)) :
    List.Forall₂ SameRow (eventsOf d.auditEvents key) (eventsOf d'.auditEvents key) := by
  have hlen := linked_prev genesis_hex64.1 h.linked h.genuine
  have hlen' := linked_prev genesis_hex64.1 h'.linked h'.genuine
  have htext : ∀ r ∈ eventsOf d.auditEvents key, ∃ t, canonicalText r.toEntry.content = some t ∧
      r.hash = K.sha256 (r.prevHash ++ t) ∧ r.prevHash ++ t ∈ hashed d ∪ hashed d' := by
    intro r hr
    obtain ⟨t, ht, hhash⟩ := genuine_text (h.genuine r hr)
    exact ⟨t, ht, hhash, .inl (.inl ⟨r, mem_eventsOf hr, t, ht, rfl⟩)⟩
  have htext' : ∀ r ∈ eventsOf d'.auditEvents key, ∃ t,
      canonicalText r.toEntry.content = some t ∧ r.hash = K.sha256 (r.prevHash ++ t) ∧
        r.prevHash ++ t ∈ hashed d ∪ hashed d' := by
    intro r hr
    obtain ⟨t, ht, hhash⟩ := genuine_text (h'.genuine r hr)
    exact ⟨t, ht, hhash, .inr (.inl ⟨r, mem_eventsOf hr, t, ht, rfl⟩)⟩
  refine HashChain.commit_first h.linked h'.linked (fun x hx y hy heq => ?_) (fun x hx => ?_)
    (fun y hy => ?_) hhead
  · obtain ⟨t, ht, hhash, hmem⟩ := htext x hx
    obtain ⟨u, hu, hhash', hmem'⟩ := htext' y hy
    have hxy : x.hash = y.hash := heq
    have hsame := hcoll hmem hmem' (hhash.symm.trans (hxy.trans hhash'))
    obtain ⟨hprev, rfl⟩ := append_inj_length hsame ((hlen x hx).trans (hlen' y hy).symm)
    exact ⟨⟨content_inj (canonicalText_inj ht hu), hprev, hxy⟩, hprev⟩
  · obtain ⟨t, -, hhash, hmem⟩ := htext x hx
    change x.hash ≠ genesisPrevHash
    rw [hhash]
    exact hgenesis _ hmem
  · obtain ⟨t, -, hhash, hmem⟩ := htext' y hy
    change y.hash ≠ genesisPrevHash
    rw [hhash]
    exact hgenesis _ hmem

/-- The row that a checkpoint inserts holds the root of the heads. -/
theorem checkpointRow_root {d : Database} {now : String} {row : CheckpointRow}
    (h : checkpointRow K d now = .ok row) : computeRoot K d.chains = .ok row.rootHash := by
  obtain ⟨text, -, hroot⟩ := computeRoot_ok (K := K) d.chains
  rw [checkpointRow] at h
  simp only [bind, Except.bind, hroot] at h
  split at h
  · cases h
  · rw [← Except.ok.inj h]
    exact hroot

/-- An edited row with the root that was signed. -/
theorem kept_root_unchanged {d d' : Database} (hchains : ∀ key, ChainOk K d.chains d.auditEvents key)
    (hcoll : Set.InjOn K.sha256 (hashed d ∪ hashed d'))
    (hgenesis : ∀ text ∈ hashed d ∪ hashed d', K.sha256 text ≠ genesisPrevHash)
    (hvalid : AllValid (verifyAll K d'.chains d'.auditEvents)) {root : String}
    (hroot : computeRoot K d.chains = .ok root) (hroot' : computeRoot K d'.chains = .ok root) :
    Unchanged d d' := by
  intro key row hmem
  obtain ⟨text, htext, hhash⟩ := computeRoot_ok (K := K) d.chains
  obtain ⟨text', htext', hhash'⟩ := computeRoot_ok (K := K) d'.chains
  rw [hroot] at hhash
  rw [hroot'] at hhash'
  obtain rfl : text = text' := hcoll (.inl (.inr htext)) (.inr (.inr htext'))
    ((Except.ok.inj hhash).symm.trans (Except.ok.inj hhash'))
  have hnumbered := eventsOf_numbered (hchains key).numbered
  have htail := (hchains key).head row hmem
  -- the edited row of the chain carries the head that was signed
  obtain ⟨row', hmem', -⟩ := heads_inj htext htext' hmem
  obtain ⟨hreplays', hhead'⟩ := verifyChain_valid.1 (verifyAll_valid.1 hvalid _ hmem')
  have hlookup : ∃ stored, d'.chains.lookup key = some stored := by
    refine Option.isSome_iff_exists.1 (List.lookup_isSome_iff.2 ⟨_, hmem', beq_self_eq_true key⟩)
  obtain ⟨stored, hstored⟩ := hlookup
  obtain ⟨row₀, hmem₀, hsame⟩ := heads_inj htext' htext (mem_of_lookup hstored)
  have htail₀ := (hchains key).head row₀ hmem₀
  have hhead : HashChain.head hashOf genesisPrevHash (eventsOf d.auditEvents key) =
      HashChain.head hashOf genesisPrevHash (eventsOf d'.auditEvents key) := by
    rw [← hhead' stored hstored, ← hsame, htail₀, hnumbered]
    rfl
  have hreplays : Replays K (eventsOf d.auditEvents key) := by
    rw [hnumbered]
    exact (hchains key).replays
  have hall := same_chain hcoll hgenesis hreplays hreplays' hhead
  have hlength : row.length = (eventsOf d.auditEvents key).length := by
    rw [htail, hnumbered]
    rfl
  rw [hlength, List.take_length, hall.length_eq, List.take_length]
  exact hall

variable {ι : Type} [DecidableEq ι]

/-- The tables that a run of appends leaves, with the checkpoints of before. -/
def reached (K : Crypto) (scrubPayload : Json → Json) (requests : ι → List AgentRequest)
    (xs : List (ι × Fate)) (earlier : List CheckpointRow) : Database where
  chains := ((appendSystem ι).run (appendStart K scrubPayload requests) xs).shared.chains
  auditEvents := ((appendSystem ι).run (appendStart K scrubPayload requests) xs).shared.auditEvents
  checkpoints := earlier

/-- The tables that appends leave are valid. -/
theorem reached_valid {scrubPayload : Json → Json} {requests : ι → List AgentRequest}
    {xs : List (ι × Fate)}
    (hlocks : (appendSystem ι).Along Granted (appendStart K scrubPayload requests) xs)
    (earlier : List CheckpointRow) :
    AllValid (verifyAll K (reached K scrubPayload requests xs earlier).chains
      (reached K scrubPayload requests xs earlier).auditEvents) :=
  chainOk_valid (appends_reach K scrubPayload requests hlocks).chain

/-- **A checkpoint of the agent lane.** After any run of appends and a checkpoint of its tables, let
any edit of the three tables be verified. If the latest row still holds the root that was signed, a
valid verdict says that the covered events are those of before. With any other rewriting that
replays, it is enough to put the new root in that row. -/
theorem checkpoint_sound (K : Crypto) (scrubPayload : Json → Json)
    (requests : ι → List AgentRequest) {xs : List (ι × Fate)}
    (hlocks : (appendSystem ι).Along Granted (appendStart K scrubPayload requests) xs)
    (earlier : List CheckpointRow) {now : String} {signed : CheckpointRow}
    (hsigned : checkpointRow K (reached K scrubPayload requests xs earlier) now = .ok signed)
    (d' : Database)
    (hcoll : Set.InjOn K.sha256
      (hashed (reached K scrubPayload requests xs earlier) ∪ hashed d'))
    (hgenesis : ∀ text ∈ hashed (reached K scrubPayload requests xs earlier) ∪ hashed d',
      K.sha256 text ≠ genesisPrevHash) :
    ((∃ row, d'.checkpoints.getLast? = some row ∧ row.rootHash = signed.rootHash) →
      CheckpointValid (verifyCheckpoint K d') →
        Unchanged (reached K scrubPayload requests xs earlier) d') ∧
    (AllValid (verifyAll K d'.chains d'.auditEvents) → ∃ root, CheckpointValid (verifyCheckpoint K
      { d' with checkpoints := earlier ++ [{ signed with rootHash := root }] })) := by
  have hchains := (appends_reach K scrubPayload requests hlocks).chain
  have hroot := checkpointRow_root hsigned
  constructor
  · rintro ⟨row, hlast, hsame⟩ hvalid
    obtain ⟨row', hlast', hall, hroot'⟩ := verifyCheckpoint_valid.1 hvalid
    rw [hlast] at hlast'
    rw [← Option.some.inj hlast', hsame] at hroot'
    exact kept_root_unchanged hchains hcoll hgenesis hall hroot hroot'
  · intro hall
    obtain ⟨text, -, hnew⟩ := computeRoot_ok (K := K) d'.chains
    exact ⟨K.sha256 text, verifyCheckpoint_valid.2 ⟨_, List.getLast?_concat, hall, hnew⟩⟩

/-! ## Runs -/

/-- The texts of `hashed`, one after another. -/
def hashedList (d : Database) : List String :=
  d.auditEvents.filterMap (fun row => (canonicalText row.toEntry.content).map (row.prevHash ++ ·)) ++
    (canonicalText (headsJson d.chains)).toList

theorem hashed_list {d : Database} {text : String} (h : text ∈ hashed d) : text ∈ hashedList d := by
  rw [hashedList, List.mem_append]
  rcases h with ⟨row, hrow, t, ht, rfl⟩ | hroot
  · exact .inl (List.mem_filterMap.2 ⟨row, hrow, by rw [ht]; rfl⟩)
  · rw [hroot]
    exact .inr (List.mem_singleton.2 rfl)

/-- One append of one connection, of an event with some payload. -/
def paying (amount : String) : Unit → List AgentRequest := fun _ =>
  [⟨"mandate.created", .obj [("amount", .str amount)], none, none, none, some "mdt_1", true, false,
    none, "2026-08-31T00:00:00+00:00", "evt_1"⟩]

/-- Its seven statements. -/
def paid : List (Unit × Fate) := List.replicate 7 ((), .runs)

/-- The tables that it leaves. -/
def tables (amount : String) : Database := reached textCrypto id (paying amount) paid []

theorem tables_hashes : (hashedList (tables "10.00") ++ hashedList (tables "99.00")).Pairwise
      (fun x y => textCrypto.sha256 x = textCrypto.sha256 y → x = y) ∧
    ∀ x ∈ hashedList (tables "10.00") ++ hashedList (tables "99.00"),
      textCrypto.sha256 x ≠ genesisPrevHash := by
  decide +kernel

/-- No collision among the texts of the two databases. -/
theorem tables_injOn (d d' : Database)
    (hd : d.auditEvents = (tables "10.00").auditEvents ∧ d.chains = (tables "10.00").chains)
    (hd' : d'.auditEvents = d.auditEvents ∧ d'.chains = d.chains ∨
      d'.auditEvents = (tables "99.00").auditEvents ∧ d'.chains = (tables "99.00").chains) :
    Set.InjOn textCrypto.sha256 (hashed d ∪ hashed d') ∧
      ∀ text ∈ hashed d ∪ hashed d', textCrypto.sha256 text ≠ genesisPrevHash := by
  have hsub : ∀ text ∈ hashed d ∪ hashed d',
      text ∈ hashedList (tables "10.00") ++ hashedList (tables "99.00") := by
    intro text htext
    have hfirst : text ∈ hashed d → text ∈ hashedList (tables "10.00") := by
      intro h
      have hlist := hashed_list h
      rwa [hashedList, hd.1, hd.2] at hlist
    rw [List.mem_append]
    rcases htext with h | h
    · exact .inl (hfirst h)
    · rcases hd' with ⟨hevents, hchains⟩ | ⟨hevents, hchains⟩
      · have hlist := hashed_list h
        rw [hashedList, hevents, hchains, hd.1, hd.2] at hlist
        exact .inl hlist
      · have hlist := hashed_list h
        rw [hashedList, hevents, hchains] at hlist
        exact .inr hlist
  exact ⟨(injOn_of_pairwise tables_hashes.1).mono hsub,
    fun text htext => tables_hashes.2 text (hsub text htext)⟩

theorem paying_ten : (appendSystem Unit).Along Granted
    (appendStart textCrypto id (paying "10.00")) paid := by
  decide +kernel

theorem paying_other : (appendSystem Unit).Along Granted
    (appendStart textCrypto id (paying "99.00")) paid := by
  decide +kernel

/-- The checkpoint of the tables with the first amount. -/
theorem tables_signed : ∃ signed,
    checkpointRow textCrypto (tables "10.00") "2026-08-31T00:00:05+00:00" = .ok signed := by
  have hsigned : (checkpointRow textCrypto (tables "10.00")
      "2026-08-31T00:00:05+00:00").toOption.isSome = true := by
    decide +kernel
  cases hrow : checkpointRow textCrypto (tables "10.00") "2026-08-31T00:00:05+00:00" with
  | error x =>
    rw [hrow] at hsigned
    cases hsigned
  | ok signed => exact ⟨signed, rfl⟩

theorem tables_differ : ¬ Unchanged (tables "10.00") (tables "99.00") := by
  intro h
  have hlookup : ((tables "10.00").chains.lookup "mdt_1").map (·.length) = some 1 := by
    decide +kernel
  have hpayloads : ((eventsOf (tables "10.00").auditEvents "mdt_1").take 1).map
      (fun r => dump r.payload.sorted) ≠
        ((eventsOf (tables "99.00").auditEvents "mdt_1").take 1).map
          fun r => dump r.payload.sorted := by
    decide +kernel
  obtain ⟨row, hrow, hlength⟩ := Option.map_eq_some_iff.1 hlookup
  have hsame := h "mdt_1" row (mem_of_lookup hrow)
  rw [hlength] at hsame
  refine hpayloads ?_
  generalize (eventsOf (tables "10.00").auditEvents "mdt_1").take 1 = xs at hsame ⊢
  generalize (eventsOf (tables "99.00").auditEvents "mdt_1").take 1 = ys at hsame ⊢
  induction hsame with
  | nil => rfl
  | cons hrow _ ih => rw [List.map_cons, List.map_cons, ih, hrow.content.payload]

/-- The checkpoint itself, right after it was signed. -/
theorem checkpoint_sound_signed : ∃ signed,
    checkpointRow textCrypto (tables "10.00") "2026-08-31T00:00:05+00:00" = .ok signed ∧
      CheckpointValid (verifyCheckpoint textCrypto
        { tables "10.00" with checkpoints := [signed] }) ∧
      Unchanged (tables "10.00") { tables "10.00" with checkpoints := [signed] } := by
  obtain ⟨signed, hsigned⟩ := tables_signed
  have hvalid : CheckpointValid (verifyCheckpoint textCrypto
      { tables "10.00" with checkpoints := [signed] }) :=
    verifyCheckpoint_valid.2 ⟨signed, rfl, reached_valid paying_ten [],
      checkpointRow_root hsigned⟩
  obtain ⟨hinj, hgenesis⟩ := tables_injOn (tables "10.00")
    { tables "10.00" with checkpoints := [signed] } ⟨rfl, rfl⟩ (.inl ⟨rfl, rfl⟩)
  exact ⟨signed, hsigned, hvalid, (checkpoint_sound textCrypto id (paying "10.00") paying_ten []
    hsigned _ hinj hgenesis).1 ⟨signed, rfl, rfl⟩ hvalid⟩

/-- **A forged checkpoint**: other events, their chain and their root under the signature of the
first is valid. -/
theorem checkpoint_forged : ∃ signed root,
    checkpointRow textCrypto (tables "10.00") "2026-08-31T00:00:05+00:00" = .ok signed ∧
      Set.InjOn textCrypto.sha256 (hashed (tables "10.00") ∪ hashed (tables "99.00")) ∧
      CheckpointValid (verifyCheckpoint textCrypto
        { tables "99.00" with checkpoints := [{ signed with rootHash := root }] }) ∧
      ¬ Unchanged (tables "10.00") (tables "99.00") := by
  obtain ⟨signed, hsigned⟩ := tables_signed
  obtain ⟨text, -, hroot⟩ := computeRoot_ok (K := textCrypto) (tables "99.00").chains
  have hinj := (tables_injOn (tables "10.00") (tables "99.00") ⟨rfl, rfl⟩
    (.inr ⟨rfl, rfl⟩)).1
  exact ⟨signed, textCrypto.sha256 text, hsigned, hinj,
    verifyCheckpoint_valid.2 ⟨_, rfl, reached_valid paying_other [], hroot⟩, tables_differ⟩

end TryTrust.Audit.Agent
