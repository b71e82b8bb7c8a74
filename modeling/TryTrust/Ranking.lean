import Mathlib

/-!
# Rankings

A list in the order of a score, the highest first, where a key breaks ties, the smallest first.

* `Before`, the order; `rank`, a stable sort by it; `rank_perm`;
* `Leads`: nothing in the list scores higher; `head_leads`: the first of a ranking leads, and no
  other that leads has a smaller key;
* `Newest`: it leads, and no other that leads has a greater key; **`head_newest_iff`**: the first of
  a ranking is newest exactly when all that lead have one key.
-/

namespace Ranking

variable {α β γ : Type} [LinearOrder β] [LinearOrder γ] (score : α → β) (key : α → γ)

/-- A higher score, or the same and no greater key. -/
def Before (a b : α) : Prop := score b < score a ∨ score a = score b ∧ key a ≤ key b

instance : DecidableRel (Before score key) := fun a b =>
  inferInstanceAs (Decidable (score b < score a ∨ score a = score b ∧ key a ≤ key b))

instance : IsTrans α (Before score key) where
  trans a b c hab hbc := by
    rcases hab with hab | ⟨hab, hkey⟩
    · rcases hbc with hbc | ⟨hbc, -⟩
      · exact .inl (hbc.trans hab)
      · exact .inl (hbc ▸ hab)
    · rcases hbc with hbc | ⟨hbc, hkey'⟩
      · exact .inl (hab ▸ hbc)
      · exact .inr ⟨hab.trans hbc, hkey.trans hkey'⟩

instance : Std.Total (Before score key) where
  total a b := by
    rcases lt_trichotomy (score a) (score b) with h | h | h
    · exact .inr (.inl h)
    · exact (le_total (key a) (key b)).imp (fun hkey => .inr ⟨h, hkey⟩)
        fun hkey => .inr ⟨h.symm, hkey⟩
    · exact .inl (.inl h)

/-- **The ranking** of a list. -/
def rank (l : List α) : List α := l.insertionSort (Before score key)

/-- `x` is in the list, and nothing there scores higher. -/
def Leads (l : List α) (x : α) : Prop := x ∈ l ∧ ∀ y ∈ l, score y ≤ score x

/-- `x` leads, and nothing that leads has a greater key. -/
def Newest (l : List α) (x : α) : Prop :=
  Leads score l x ∧ ∀ y, Leads score l y → key y ≤ key x

variable {score key} {l l' : List α} {x : α}

variable (score key) in
theorem rank_perm (l : List α) : (rank score key l).Perm l := List.perm_insertionSort _ l

theorem Leads.of_perm (h : l.Perm l') (hx : Leads score l x) : Leads score l' x :=
  ⟨h.mem_iff.1 hx.1, fun y hy => hx.2 y (h.mem_iff.2 hy)⟩

/-- All that lead have one score. -/
theorem Leads.score_eq {y : α} (hx : Leads score l x) (hy : Leads score l y) :
    score x = score y := le_antisymm (hy.2 x hx.1) (hx.2 y hy.1)

theorem Newest.of_perm (h : l.Perm l') (hx : Newest score key l x) : Newest score key l' x :=
  ⟨hx.1.of_perm h, fun y hy => hx.2 y (hy.of_perm h.symm)⟩

/-- **The first of a ranking** leads, with the smallest key. -/
theorem head_leads (h : (rank score key l).head? = some x) :
    Leads score l x ∧ ∀ y, Leads score l y → key x ≤ key y := by
  have hsorted := List.pairwise_insertionSort (Before score key) l
  have hperm := rank_perm score key l
  obtain ⟨rest, hrest⟩ : ∃ rest, rank score key l = x :: rest := by
    cases hrank : rank score key l with
    | nil =>
      rw [hrank] at h
      cases h
    | cons a rest =>
      rw [hrank] at h
      exact ⟨rest, by rw [Option.some.inj h]⟩
  have hfirst : ∀ y ∈ l, Before score key x y := by
    intro y hy
    have hy' := hperm.mem_iff.2 hy
    rw [hrest] at hy'
    change List.Pairwise _ (rank score key l) at hsorted
    rw [hrest, List.pairwise_cons] at hsorted
    rcases List.mem_cons.1 hy' with rfl | hmem
    · exact .inr ⟨rfl, le_refl _⟩
    · exact hsorted.1 y hmem
  have hmem : x ∈ l := hperm.mem_iff.1 (by rw [hrest]; exact List.mem_cons_self)
  refine ⟨⟨hmem, fun y hy => ?_⟩, fun y hy => ?_⟩
  · exact (hfirst y hy).elim le_of_lt fun heq => heq.1.ge
  · exact (hfirst y hy.1).elim (fun hlt => absurd (hy.2 x hmem) (not_le.2 hlt)) And.right

variable (score key) in
theorem exists_head (hl : l ≠ []) : ∃ x, (rank score key l).head? = some x := by
  cases hrank : rank score key l with
  | nil =>
    have hperm := rank_perm score key l
    rw [hrank] at hperm
    exact absurd hperm.symm.eq_nil hl
  | cons a rest => exact ⟨a, rfl⟩

/-- **The first of a ranking is newest** exactly when all that lead have one key. -/
theorem head_newest_iff : (∀ x, (rank score key l).head? = some x → Newest score key l x) ↔
    ∀ x y, Leads score l x → Leads score l y → key x = key y := by
  constructor
  · intro h x y hx hy
    obtain ⟨a, ha⟩ := exists_head score key (List.ne_nil_of_mem hx.1)
    have holdest := (head_leads ha).2
    have hnewest := (h a ha).2
    exact (le_antisymm (hnewest x hx) (holdest x hx)).trans
      (le_antisymm (holdest y hy) (hnewest y hy))
  · intro h x hx
    exact ⟨(head_leads hx).1, fun y hy => (h y x hy (head_leads hx).1).le⟩

end Ranking
