import Mathlib

/-!
# Lists of records with keys

A table as a list whose records are told apart by a key.

* `amend`: change the records of a key; `find?` and membership after it;
* `total w l`, the sum of a weight; `off`, a weight that leaves one key out; **`total_split`**: in
  a list without repeated keys, a total is that of the other keys and the weight of one record.
-/

namespace Conc

section Keyed

variable {α κ : Type} [DecidableEq κ] (key : α → κ)

/-- Change the records of a key. -/
def amend (k : κ) (f : α → α) (l : List α) : List α := l.map fun a => if key a = k then f a else a

/-- The record of a key. -/
def lookup (l : List α) (k : κ) : Option α := l.find? fun a => key a = k

/-- The sum of a weight. -/
def total (w : α → ℕ) (l : List α) : ℕ := (l.map w).sum

/-- A weight that leaves one key out. -/
def off (k : κ) (w : α → ℕ) (a : α) : ℕ := if key a = k then 0 else w a

variable {key}

theorem lookup_some {l : List α} {k : κ} {a : α} (h : lookup key l k = some a) :
    a ∈ l ∧ key a = k :=
  ⟨List.mem_of_find?_eq_some h, by simpa using List.find?_some h⟩

theorem lookup_eq_none {l : List α} {k : κ} : lookup key l k = none ↔ ∀ a ∈ l, key a ≠ k := by
  simp [lookup, List.find?_eq_none]

/-- Without repeated keys the record of a key is the only one. -/
theorem lookup_of_mem {l : List α} (hl : (l.map key).Nodup) {a : α} (ha : a ∈ l) :
    lookup key l (key a) = some a := by
  induction l with
  | nil => cases ha
  | cons b l ih =>
    rw [List.map_cons, List.nodup_cons] at hl
    rcases List.mem_cons.1 ha with rfl | ha
    · simp [lookup]
    · have hne : key b ≠ key a := fun h => hl.1 (h ▸ List.mem_map_of_mem ha)
      rw [lookup, List.find?_cons_of_neg (by simpa using hne)]
      exact ih hl.2 ha

theorem lookup_append (l : List α) (a : α) (k : κ) :
    lookup key (l ++ [a]) k = (lookup key l k).or (if key a = k then some a else none) := by
  rw [lookup, List.find?_append]
  by_cases h : key a = k <;> simp [lookup, h]

section Amend

variable {k : κ} {f : α → α} (hf : ∀ a, key (f a) = key a)

include hf

theorem map_amend (l : List α) : (amend key k f l).map key = l.map key := by
  simp only [amend, List.map_map]
  refine List.map_congr_left fun a _ => ?_
  by_cases h : key a = k <;> simp [h, hf a]

theorem lookup_amend_self (l : List α) :
    lookup key (amend key k f l) k = (lookup key l k).map f := by
  induction l with
  | nil => rfl
  | cons a l ih =>
    by_cases h : key a = k
    · simp [lookup, amend, h, hf a]
    · simpa [lookup, amend, h] using ih

theorem lookup_amend_ne (l : List α) {k' : κ} (hne : k' ≠ k) :
    lookup key (amend key k f l) k' = lookup key l k' := by
  induction l with
  | nil => rfl
  | cons a l ih =>
    by_cases h : key a = k
    · have hfa : key (f a) ≠ k' := by rw [hf a, h]; exact hne.symm
      have ha : key a ≠ k' := by rw [h]; exact hne.symm
      simpa [lookup, amend, h, hfa, ha, hne.symm, hf a] using ih
    · by_cases h' : key a = k'
      · simp [lookup, amend, h', hne]
      · simpa [lookup, amend, h, h'] using ih

/-- What is changed under a key does not count off it. -/
theorem total_off_amend (w : α → ℕ) (l : List α) :
    total (off key k w) (amend key k f l) = total (off key k w) l := by
  simp only [total, amend, List.map_map]
  congr 1
  refine List.map_congr_left fun a _ => ?_
  by_cases h : key a = k <;> simp [off, h, hf a]

end Amend

@[simp] theorem total_nil (w : α → ℕ) : total w [] = 0 := rfl

theorem total_append (w : α → ℕ) (l : List α) (a : α) : total w (l ++ [a]) = total w l + w a := by
  simp [total]

theorem total_off_append (w : α → ℕ) (l : List α) (a : α) :
    total (off key (key a) w) (l ++ [a]) = total (off key (key a) w) l := by
  simp [total_append, off]

theorem total_off_of_zero {w : α → ℕ} {l : List α} {k : κ} (h : ∀ a ∈ l, key a = k → w a = 0) :
    total w l = total (off key k w) l := by
  simp only [total]
  congr 1
  refine List.map_congr_left fun a ha => ?_
  by_cases hk : key a = k
  · simp [off, hk, h a ha hk]
  · simp [off, hk]

/-- **One record and the others.** -/
theorem total_split {l : List α} (hl : (l.map key).Nodup) {a : α} (ha : a ∈ l) (w : α → ℕ) :
    total w l = total (off key (key a) w) l + w a := by
  induction l with
  | nil => cases ha
  | cons b l ih =>
    rw [List.map_cons, List.nodup_cons] at hl
    have hcons : ∀ w : α → ℕ, total w (b :: l) = w b + total w l := fun w => by simp [total]
    rw [hcons, hcons]
    rcases List.mem_cons.1 ha with rfl | ha
    · have hzero : ∀ c ∈ l, key c = key a → w c = 0 := fun c hc h =>
        absurd (h ▸ List.mem_map_of_mem hc) hl.1
      rw [total_off_of_zero hzero]
      simp [off, Nat.add_comm]
    · have hne : key b ≠ key a := fun h => hl.1 (h ▸ List.mem_map_of_mem ha)
      rw [ih hl.2 ha]
      simp [off, hne, Nat.add_assoc]

end Keyed

end Conc
