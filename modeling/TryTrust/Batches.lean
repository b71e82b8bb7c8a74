import Mathlib.Data.List.TakeDrop
import Mathlib.Logic.Function.Iterate

/-!
# Batches from the head of a queue

A queue whose first entries are taken, round by round; the entries that `stays` holds of are put
back where they were, the others are gone.

* `round`, one round of at most `n`; `Reached`: fewer than `n` staying entries before each other;
* `reached_round`, `blocked_round`: a round keeps either; `round_lt`: something goes meanwhile;
* **`rounds_iff`**: after as many rounds as there are entries, only staying ones are left exactly
  when the queue was `Reached`.
-/

namespace Batches

variable {α : Type} (stays : α → Bool) (n : ℕ)

/-- One round. -/
def round (queue : List α) : List α := (queue.take n).filter stays ++ queue.drop n

/-- Fewer than `n` staying entries are before any other. -/
def Reached (queue : List α) : Prop :=
  ∀ pre x post, queue = pre ++ x :: post → stays x = false → (pre.filter stays).length < n

/-- How many are to go. -/
def left (queue : List α) : ℕ := (queue.filter fun x => !stays x).length

variable {stays n} {queue : List α}

@[simp] theorem round_nil : round stays n [] = [] := by simp [round]

/-- An entry that is to go, behind a whole batch of staying ones, is so after the round. -/
theorem blocked_round {pre post : List α} {x : α} (hpre : n ≤ (pre.filter stays).length) :
    ∃ pre', round stays n (pre ++ x :: post) = pre' ++ x :: post ∧
      n ≤ (pre'.filter stays).length := by
  have hn : n ≤ pre.length := Nat.le_trans hpre (List.length_filter_le _ _)
  refine ⟨(pre.take n).filter stays ++ pre.drop n, ?_, ?_⟩
  · rw [round, List.take_append_of_le_length hn, List.drop_append_of_le_length hn,
      List.append_assoc]
  · have hsplit : ((pre.take n).filter stays ++ pre.drop n).filter stays = pre.filter stays := by
      conv_rhs => rw [← List.take_append_drop n pre, List.filter_append]
      rw [List.filter_append, List.filter_filter]
      simp only [Bool.and_self]
    rw [hsplit]
    exact hpre

/-- An entry that is to go and is still there comes from behind the batch. -/
theorem round_split {pre post : List α} {x : α} (hx : stays x = false)
    (h : round stays n queue = pre ++ x :: post) :
    ∃ mid, pre = (queue.take n).filter stays ++ mid ∧
      queue = (queue.take n ++ mid) ++ x :: post := by
  have hmid : ∃ mid, pre = (queue.take n).filter stays ++ mid ∧
      queue.drop n = mid ++ x :: post := by
    rcases List.append_eq_append_iff.1 h with hmid | ⟨mid, htake, hdrop⟩
    · exact hmid
    · cases mid with
      | nil => exact ⟨[], by rw [htake, List.append_nil, List.append_nil], hdrop.symm⟩
      | cons y mid =>
        have hy : y ∈ (queue.take n).filter stays := by
          rw [htake]
          simp
        rw [← (List.cons.inj hdrop).1, List.mem_filter, hx] at hy
        exact absurd hy.2 Bool.false_ne_true
  obtain ⟨mid, hpre, hdrop⟩ := hmid
  refine ⟨mid, hpre, ?_⟩
  rw [List.append_assoc, ← hdrop, List.take_append_drop]

/-- **A round** keeps every entry within reach. -/
theorem reached_round (h : Reached stays n queue) : Reached stays n (round stays n queue) := by
  intro pre x post hsplit hx
  obtain ⟨mid, rfl, hqueue⟩ := round_split hx hsplit
  have hreach := h _ x post hqueue hx
  rw [List.filter_append] at hreach ⊢
  rw [List.filter_filter]
  simpa only [Bool.and_self] using hreach

/-- What is to go after a round was behind the batch. -/
theorem left_round (stays : α → Bool) (n : ℕ) (queue : List α) :
    left stays (round stays n queue) = left stays (queue.drop n) := by
  rw [round, left, List.filter_append, List.filter_filter, List.length_append]
  simp [left]

theorem left_split (stays : α → Bool) (n : ℕ) (queue : List α) :
    left stays queue = left stays (queue.take n) + left stays (queue.drop n) := by
  rw [left, left, left, ← List.length_append, ← List.filter_append, List.take_append_drop]

/-- **Something goes** in a round, while something is within reach. -/
theorem round_lt (h : Reached stays n queue) (hleft : left stays queue ≠ 0) :
    left stays (round stays n queue) < left stays queue := by
  have hsum := left_split stays n queue
  have hround := left_round stays n queue
  -- the first entry that is to go is in the batch
  have hfirst : left stays (queue.take n) ≠ 0 := by
    obtain ⟨x, hx⟩ := List.exists_mem_of_length_pos (Nat.pos_of_ne_zero hleft)
    obtain ⟨hmem, hgoes⟩ := List.mem_filter.1 hx
    obtain ⟨y, hy⟩ := Option.isSome_iff_exists.1
      (List.find?_isSome.2 ⟨x, hmem, hgoes⟩ : (queue.find? fun x => !stays x).isSome)
    obtain ⟨hygoes, pre, post, hqueue, hpre⟩ := List.find?_eq_some_iff_append.1 hy
    have hlt := h pre y post hqueue (by simpa using hygoes)
    rw [List.filter_eq_self.2 fun a ha => by simpa using hpre a ha] at hlt
    have hbatch : y ∈ queue.take n := by
      obtain ⟨m, hm⟩ : ∃ m, n - pre.length = m + 1 := ⟨n - pre.length - 1, by omega⟩
      rw [hqueue, List.take_append, hm, List.take_succ_cons]
      simp
    exact Nat.ne_of_gt (List.length_pos_of_mem (List.mem_filter.2 ⟨hbatch, hygoes⟩))
  omega

/-! ## Rounds -/

theorem reached_rounds (h : Reached stays n queue) (k : ℕ) :
    Reached stays n ((round stays n)^[k] queue) := by
  induction k with
  | zero => exact h
  | succ k ih =>
    rw [Function.iterate_succ_apply']
    exact reached_round ih

/-- No round adds an entry. -/
theorem rounds_sublist (queue : List α) (k : ℕ) : ((round stays n)^[k] queue).Sublist queue := by
  induction k with
  | zero => exact List.Sublist.refl _
  | succ k ih =>
    rw [Function.iterate_succ_apply']
    refine List.Sublist.trans ?_ ih
    conv_rhs => rw [← List.take_append_drop n ((round stays n)^[k] queue)]
    exact List.filter_sublist.append (List.Sublist.refl _)

/-- At least one entry goes in each round. -/
theorem left_rounds (h : Reached stays n queue) (k : ℕ) :
    left stays ((round stays n)^[k] queue) ≤ left stays queue - k := by
  induction k with
  | zero => exact Nat.le_refl _
  | succ k ih =>
    rw [Function.iterate_succ_apply']
    by_cases hleft : left stays ((round stays n)^[k] queue) = 0
    · have hround := left_round stays n ((round stays n)^[k] queue)
      have hsum := left_split stays n ((round stays n)^[k] queue)
      omega
    · have hlt := round_lt (reached_rounds h k) hleft
      omega

/-- An entry that is to go stays behind a whole batch. -/
theorem blocked_rounds {pre post : List α} {x : α} (hpre : n ≤ (pre.filter stays).length) (k : ℕ) :
    x ∈ (round stays n)^[k] (pre ++ x :: post) := by
  have hblocked : ∃ pre', (round stays n)^[k] (pre ++ x :: post) = pre' ++ x :: post ∧
      n ≤ (pre'.filter stays).length := by
    induction k with
    | zero => exact ⟨pre, rfl, hpre⟩
    | succ k ih =>
      obtain ⟨pre', hqueue, hpre'⟩ := ih
      rw [Function.iterate_succ_apply', hqueue]
      exact blocked_round hpre'
  obtain ⟨pre', hqueue, -⟩ := hblocked
  rw [hqueue]
  simp

/-- **As many rounds as entries** leave only what stays, exactly when everything was in reach. -/
theorem rounds_iff {k : ℕ} (hk : queue.length ≤ k) :
    (∀ x ∈ (round stays n)^[k] queue, stays x = true) ↔ Reached stays n queue := by
  constructor
  · intro hall pre x post hqueue hx
    by_contra hpre
    have hmem := hall x (by rw [hqueue]; exact blocked_rounds (Nat.le_of_not_lt hpre) k)
    rw [hx] at hmem
    exact Bool.false_ne_true hmem
  · intro h x hx
    have hle := left_rounds h k
    have hlen : left stays queue ≤ queue.length := List.length_filter_le _ _
    by_contra hgoes
    have hpos : 0 < left stays ((round stays n)^[k] queue) :=
      List.length_pos_of_mem (List.mem_filter.2 ⟨hx, by simpa using hgoes⟩)
    omega

end Batches
