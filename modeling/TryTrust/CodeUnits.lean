import Mathlib

/-!
# Texts by code units

UTF-16 writes a character above `U+FFFF` as two code units below `U+E000`, so texts compared by
code units are not always in the order of their characters.

* `units`, `utf16`: the code units of a character and of a text; `rank`: the place of a character
  in the order of code units;
* `crossed`: two texts part at a character of `U+E000`–`U+FFFF` in one, above `U+FFFF` in the other;
* `utf16_lt_cons`, **`utf16_lt_iff`**: both orders agree on two texts exactly when these do not
  cross.
-/

namespace CodeUnits

/-- The code units of a character. -/
def units (c : Char) : List ℕ :=
  if c.toNat < 0x10000 then [c.toNat]
  else [0xD800 + (c.toNat - 0x10000) / 0x400, 0xDC00 + (c.toNat - 0x10000) % 0x400]

/-- The code units of a text. -/
def utf16 (s : List Char) : List ℕ := s.flatMap units

/-- The place of a character in the order of code units: `U+E000`–`U+FFFF` come last. -/
def rank (c : Char) : ℕ :=
  if 0xE000 ≤ c.toNat ∧ c.toNat < 0x10000 then c.toNat + 0x110000 else c.toNat

/-- One character is of `U+E000`–`U+FFFF`, the other is above. -/
def Swapped (c d : Char) : Prop := 0xE000 ≤ c.toNat ∧ c.toNat < 0x10000 ∧ 0x10000 ≤ d.toNat

instance (c d : Char) : Decidable (Swapped c d) := by unfold Swapped; infer_instance

/-- **Crossed texts**: they part at characters that the two orders put the other way round. -/
def crossed : List Char → List Char → Bool
  | c :: s, d :: t => if c = d then crossed s t else decide (Swapped c d ∨ Swapped d c)
  | _, _ => false

/-! ## Characters -/

variable {c d : Char} {s t : List Char}

theorem toNat_cases (c : Char) : c.toNat < 0xD800 ∨ 0xE000 ≤ c.toNat ∧ c.toNat < 0x110000 := by
  rcases c.valid with h | ⟨h, h'⟩
  · exact .inl h
  · exact .inr ⟨Nat.succ_le_of_lt h, h'⟩

theorem toNat_eq_iff : c = d ↔ c.toNat = d.toNat := Char.toNat_inj.symm

/-- One character decides, or the rest does. -/
theorem units_lt (r r' : List ℕ) :
    units c ++ r < units d ++ r' ↔ rank c < rank d ∨ c = d ∧ r < r' := by
  have hc := toNat_cases c
  have hd := toNat_cases d
  rw [toNat_eq_iff]
  unfold units rank
  by_cases hr : r < r'
  all_goals
    simp only [hr, and_true, and_false, or_false]
    split_ifs <;> simp [List.cons_lt_cons_iff, hr] <;> omega

/-- The order of characters and the order of ranks differ on swapped characters only. -/
theorem rank_lt_iff : (rank c < rank d ↔ c < d) ↔ ¬ (Swapped c d ∨ Swapped d c) := by
  have hc := toNat_cases c
  have hd := toNat_cases d
  have hlt : c < d ↔ c.toNat < d.toNat := Iff.rfl
  rw [hlt]
  unfold rank Swapped
  split_ifs <;> omega

/-! ## Texts -/

theorem utf16_lt_cons :
    utf16 (c :: s) < utf16 (d :: t) ↔ rank c < rank d ∨ c = d ∧ utf16 s < utf16 t :=
  units_lt _ _

theorem units_ne_nil (c : Char) : units c ≠ [] := by
  unfold units
  split_ifs <;> exact List.cons_ne_nil _ _

theorem nil_lt_utf16 : utf16 [] < utf16 (d :: t) := by
  have hne : utf16 (d :: t) ≠ [] := fun h => units_ne_nil d (List.append_eq_nil_iff.1 h).1
  obtain ⟨u, us, hus⟩ := List.exists_cons_of_ne_nil hne
  rw [hus]
  exact List.nil_lt_cons u us

theorem not_utf16_lt_nil : ¬ utf16 s < utf16 [] := List.not_lt_nil _

theorem crossed_comm (s t : List Char) : crossed s t = crossed t s := by
  induction s generalizing t with
  | nil => cases t <;> rfl
  | cons c s ih =>
    cases t with
    | nil => rfl
    | cons d t =>
      by_cases hcd : c = d
      · simp [crossed, hcd, ih]
      · simp [crossed, hcd, Ne.symm hcd, or_comm]

theorem crossed_self (s : List Char) : crossed s s = false := by
  induction s with
  | nil => rfl
  | cons c s ih => simpa [crossed] using ih

/-- **The two orders** agree on two texts exactly when these do not cross. -/
theorem utf16_lt_iff (s t : List Char) : (utf16 s < utf16 t ↔ s < t) ↔ crossed s t = false := by
  induction s generalizing t with
  | nil =>
    cases t with
    | nil => simp [crossed]
    | cons d t => simp [crossed, nil_lt_utf16]
  | cons c s ih =>
    cases t with
    | nil => simp [crossed, not_utf16_lt_nil]
    | cons d t =>
      rw [utf16_lt_cons, List.cons_lt_cons_iff]
      by_cases hcd : c = d
      · subst hcd
        simpa [crossed] using ih t
      · simpa [crossed, hcd] using rank_lt_iff

end CodeUnits
