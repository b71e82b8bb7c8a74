import Mathlib.Data.List.Induction
import Mathlib.Data.List.Forall2

/-!
# Hash chains

Lists of entries that each name the hash of the one before, over any entries and hashes.

* `Linked`, `head`: a chain from a first hash, and the hash it ends in;
* **`commit`**: two chains of one length that end in one hash are the same, entry by entry;
  `commit_first`: so are two chains of any lengths from a hash that no entry has.
-/

namespace HashChain

variable {α H : Type} (prev hash : α → H)

/-- Every entry names the hash before it. -/
def Linked : H → List α → Prop
  | _, [] => True
  | p, x :: xs => prev x = p ∧ Linked (hash x) xs

/-- The hash that a chain ends in. -/
def head (p : H) (xs : List α) : H := (xs.getLast?.map hash).getD p

variable {prev hash}

@[simp] theorem head_nil (p : H) : head hash p [] = p := rfl

@[simp] theorem head_concat (p : H) (xs : List α) (x : α) : head hash p (xs ++ [x]) = hash x := by
  rw [head, List.getLast?_concat]
  rfl

theorem head_cons (p : H) (x : α) (xs : List α) :
    head hash p (x :: xs) = head hash (hash x) xs := by
  cases xs with
  | nil => rfl
  | cons y xs =>
    rw [head, head, List.getLast?_cons_cons, List.getLast?_eq_some_getLast (List.cons_ne_nil _ _)]
    rfl

theorem linked_append {p : H} {xs ys : List α} :
    Linked prev hash p (xs ++ ys) ↔
      Linked prev hash p xs ∧ Linked prev hash (head hash p xs) ys := by
  induction xs generalizing p with
  | nil => exact ⟨fun h => ⟨trivial, h⟩, fun h => h.2⟩
  | cons x xs ih =>
    rw [List.cons_append, Linked, Linked, ih, head_cons]
    exact ⟨fun h => ⟨⟨h.1, h.2.1⟩, h.2.2⟩, fun h => ⟨h.1.1, h.1.2, h.2⟩⟩

theorem linked_concat {p : H} {xs : List α} {x : α} :
    Linked prev hash p (xs ++ [x]) ↔ Linked prev hash p xs ∧ prev x = head hash p xs := by
  rw [linked_append, Linked, Linked]
  exact ⟨fun h => ⟨h.1, h.2.1⟩, fun h => ⟨h.1, h.2, trivial⟩⟩

/-- **Commitment**: two chains of one length with one last hash agree entry by entry, when an equal
hash means related entries and an equal hash before them. -/
theorem commit {R : α → α → Prop} {p q : H} {xs ys : List α} (hx : Linked prev hash p xs)
    (hy : Linked prev hash q ys)
    (hinj : ∀ x ∈ xs, ∀ y ∈ ys, hash x = hash y → R x y ∧ prev x = prev y)
    (hlen : xs.length = ys.length) (hhead : head hash p xs = head hash q ys) :
    List.Forall₂ R xs ys ∧ p = q := by
  -- from the last entry back to the first
  induction xs using List.reverseRecOn generalizing ys with
  | nil =>
    obtain rfl := List.length_eq_zero_iff.1 hlen.symm
    exact ⟨.nil, hhead⟩
  | append_singleton xs x ih =>
    rcases List.eq_nil_or_concat ys with rfl | ⟨ys, y, rfl⟩
    · rw [List.length_append, List.length_singleton, List.length_nil] at hlen
      omega
    · rw [List.concat_eq_append] at *
      rw [head_concat, head_concat] at hhead
      obtain ⟨hxs, hxprev⟩ := linked_concat.1 hx
      obtain ⟨hys, hyprev⟩ := linked_concat.1 hy
      obtain ⟨hrel, hprev⟩ := hinj x (by simp) y (by simp) hhead
      rw [List.length_append, List.length_append, List.length_singleton,
        List.length_singleton] at hlen
      obtain ⟨hall, hpq⟩ := ih hxs hys
        (fun a ha b hb => hinj a (List.mem_append_left _ ha) b (List.mem_append_left _ hb))
        (by omega) (hxprev.symm.trans (hprev.trans hyprev))
      exact ⟨List.rel_append hall (.cons hrel .nil), hpq⟩

/-- Two chains with one last hash agree whatever their lengths, when no entry has their first hash. -/
theorem commit_first {R : α → α → Prop} {p : H} {xs ys : List α} (hx : Linked prev hash p xs)
    (hy : Linked prev hash p ys)
    (hinj : ∀ x ∈ xs, ∀ y ∈ ys, hash x = hash y → R x y ∧ prev x = prev y)
    (hxp : ∀ x ∈ xs, hash x ≠ p) (hyp : ∀ y ∈ ys, hash y ≠ p)
    (hhead : head hash p xs = head hash p ys) : List.Forall₂ R xs ys := by
  -- it is enough that the lengths agree, from the last entry back to the first
  suffices hlen : xs.length = ys.length from (commit hx hy hinj hlen hhead).1
  induction xs using List.reverseRecOn generalizing ys with
  | nil =>
    rcases List.eq_nil_or_concat ys with rfl | ⟨ys, y, rfl⟩
    · rfl
    · rw [List.concat_eq_append, head_concat] at hhead
      exact absurd hhead.symm (hyp y (by simp))
  | append_singleton xs x ih =>
    rcases List.eq_nil_or_concat ys with rfl | ⟨ys, y, rfl⟩
    · rw [head_concat] at hhead
      exact absurd hhead (hxp x (by simp))
    · rw [List.concat_eq_append] at *
      rw [head_concat, head_concat] at hhead
      obtain ⟨hxs, hxprev⟩ := linked_concat.1 hx
      obtain ⟨hys, hyprev⟩ := linked_concat.1 hy
      obtain ⟨-, hprev⟩ := hinj x (by simp) y (by simp) hhead
      have hlen := ih hxs hys
        (fun a ha b hb => hinj a (List.mem_append_left _ ha) b (List.mem_append_left _ hb))
        (fun a ha => hxp a (List.mem_append_left _ ha))
        (fun b hb => hyp b (List.mem_append_left _ hb))
        (hxprev.symm.trans (hprev.trans hyprev))
      rw [List.length_append, List.length_append, hlen, List.length_singleton,
        List.length_singleton]

end HashChain
