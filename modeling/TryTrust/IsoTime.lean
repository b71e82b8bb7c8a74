import Mathlib

/-!
# Moments and their texts

A date and time in UTC, the seconds it stands for, and its text in the format of ISO 8601 with every
field padded and the fraction of the second left out.

* `pad`, a number in a fixed number of digits; `append_lt`, `pad_lt`, `pad_append_lt`: such texts
  sort by the number and then by what follows it;
* `DateTime`; `ordinal`, `seconds`, `micros`; `text`;
* `block_lt`: numbers that are an offset and a rest sort by the offset and then by the rest;
* **`text_lt_iff`**: texts sort as the seconds do; `micros_lt_iff`, `micros_div`.
-/

namespace IsoTime

/-! ## Numbers in a fixed width -/

/-- The last `w` decimal digits of a number. -/
def pad : ℕ → ℕ → List Char
  | 0, _ => []
  | w + 1, n => pad w (n / 10) ++ [Nat.digitChar (n % 10)]

@[simp] theorem length_pad (w n : ℕ) : (pad w n).length = w := by
  induction w generalizing n with
  | zero => rfl
  | succ w ih => simp [pad, ih]

/-- Digits sort as characters. -/
theorem digitChar_lt_iff {a b : ℕ} (ha : a < 10) (hb : b < 10) :
    Nat.digitChar a < Nat.digitChar b ↔ a < b := by
  interval_cases a <;> interval_cases b <;> decide

/-- Texts whose beginnings have one length. -/
theorem append_lt {x x' y y' : List Char} (h : x.length = x'.length) :
    x ++ y < x' ++ y' ↔ x < x' ∨ x = x' ∧ y < y' := by
  induction x generalizing x' with
  | nil =>
    obtain rfl : x' = [] := List.eq_nil_of_length_eq_zero h.symm
    simp
  | cons a x ih =>
    cases x' with
    | nil => cases h
    | cons b x' =>
      simp only [List.cons_append, List.cons_lt_cons_iff, ih (Nat.succ.inj h), List.cons.injEq]
      tauto

/-- **Padded numbers** sort as the numbers do. -/
theorem pad_lt {w a b : ℕ} (ha : a < 10 ^ w) (hb : b < 10 ^ w) :
    (pad w a < pad w b ↔ a < b) ∧ (pad w a = pad w b ↔ a = b) := by
  induction w generalizing a b with
  | zero =>
    simp only [pow_zero, Nat.lt_one_iff] at ha hb
    simp [pad, ha, hb]
  | succ w ih =>
    obtain ⟨hlt, heq⟩ := ih (a := a / 10) (b := b / 10) (by omega) (by omega)
    have hdigit := digitChar_lt_iff (Nat.mod_lt a (by norm_num)) (Nat.mod_lt b (by norm_num))
    have hdigit' := digitChar_lt_iff (Nat.mod_lt b (by norm_num)) (Nat.mod_lt a (by norm_num))
    have hsame : Nat.digitChar (a % 10) = Nat.digitChar (b % 10) ↔ a % 10 = b % 10 := by
      refine ⟨fun h => ?_, fun h => by rw [h]⟩
      rw [h] at hdigit hdigit'
      have hirrefl := lt_irrefl (Nat.digitChar (b % 10))
      have h1 := mt hdigit.2 hirrefl
      have h2 := mt hdigit'.2 hirrefl
      omega
    refine ⟨?_, ?_⟩
    · rw [pad, pad, append_lt (by simp), hlt, heq, List.cons_lt_cons_iff, hdigit]
      simp only [List.not_lt_nil, and_false, or_false]
      omega
    · have hinj : pad (w + 1) a = pad (w + 1) b ↔ a / 10 = b / 10 ∧ a % 10 = b % 10 := by
        rw [← heq, ← hsame]
        refine ⟨fun h => ?_, fun h => by rw [pad, pad, h.1, h.2]⟩
        obtain ⟨hfront, hlast⟩ := List.append_inj h (by simp)
        exact ⟨hfront, List.head_eq_of_cons_eq hlast⟩
      rw [hinj]
      omega

/-- A padded number, a separator and a rest. -/
theorem pad_append_lt {w a b : ℕ} {c : Char} {y y' : List Char} (ha : a < 10 ^ w)
    (hb : b < 10 ^ w) :
    pad w a ++ c :: y < pad w b ++ c :: y' ↔ a < b ∨ a = b ∧ y < y' := by
  rw [append_lt (by simp), (pad_lt ha hb).1, (pad_lt ha hb).2, List.cons_lt_cons_iff]
  simp

/-! ## Dates -/

/-- A leap year. -/
def isLeap (year : ℕ) : Bool := year % 4 = 0 && (year % 100 ≠ 0 || year % 400 = 0)

/-- The days of a month; there is no month `0`. -/
def daysInMonth (leap : Bool) : ℕ → ℕ
  | 0 => 0
  | 2 => if leap then 29 else 28
  | 4 => 30
  | 6 => 30
  | 9 => 30
  | 11 => 30
  | _ => 31

theorem daysInMonth_le (leap : Bool) (m : ℕ) : daysInMonth leap m ≤ 31 := by
  unfold daysInMonth
  split <;> try split_ifs
  all_goals omega

/-- The days of a year before a month. -/
def daysBeforeMonth (leap : Bool) : ℕ → ℕ
  | 0 => 0
  | m + 1 => daysBeforeMonth leap m + daysInMonth leap m

/-- The days before a year. -/
def daysBeforeYear (year : ℕ) : ℕ :=
  (year - 1) * 365 + (year - 1) / 4 - (year - 1) / 100 + (year - 1) / 400

/-- A date and time in UTC. -/
structure DateTime where
  year : ℕ
  month : ℕ
  day : ℕ
  hour : ℕ
  minute : ℕ
  second : ℕ
  micro : ℕ
  year_pos : 1 ≤ year
  year_le : year ≤ 9999
  month_pos : 1 ≤ month
  month_le : month ≤ 12
  day_pos : 1 ≤ day
  day_le : day ≤ daysInMonth (isLeap year) month
  hour_lt : hour < 24
  minute_lt : minute < 60
  second_lt : second < 60
  micro_lt : micro < 1000000

namespace DateTime

/-- The number of the day, where the first day of year `1` is day `1`. -/
def ordinal (t : DateTime) : ℕ :=
  daysBeforeYear t.year + daysBeforeMonth (isLeap t.year) t.month + t.day

/-- The whole seconds of a moment. -/
def seconds (t : DateTime) : ℕ := t.ordinal * 86400 + t.hour * 3600 + t.minute * 60 + t.second

/-- A moment in microseconds. -/
def micros (t : DateTime) : ℤ := (t.seconds * 1000000 + t.micro : ℕ)

/-- The text of a moment, without the fraction of its second. -/
def text (t : DateTime) : List Char :=
  pad 4 t.year ++ '-' :: (pad 2 t.month ++ '-' :: (pad 2 t.day ++ 'T' :: (pad 2 t.hour ++
    ':' :: (pad 2 t.minute ++ ':' :: (pad 2 t.second ++ '+' :: "00:00".toList)))))

end DateTime

/-! ## Offsets -/

/-- **An offset and a rest** that ends before the next offset. -/
theorem block_lt (f size : ℕ → ℕ) {a b r s : ℕ} (hab : a < b → f a + size a ≤ f b)
    (hba : b < a → f b + size b ≤ f a) (hr : r < size a) (hs : s < size b) :
    f a + r < f b + s ↔ a < b ∨ a = b ∧ r < s := by
  rcases lt_trichotomy a b with h | rfl | h
  · have := hab h
    omega
  · omega
  · have := hba h
    omega

/-- Multiples of a number, and a rest below it. -/
theorem mul_lt {n a b r s : ℕ} (hr : r < n) (hs : s < n) :
    a * n + r < b * n + s ↔ a < b ∨ a = b ∧ r < s := by
  have hblock : ∀ a b : ℕ, a < b → a * n + n ≤ b * n := fun a b h => by
    rw [← Nat.succ_mul]
    exact Nat.mul_le_mul_right n h
  exact block_lt (fun a => a * n) (fun _ => n) (hblock a b) (hblock b a) hr hs

/-- The next year. -/
theorem daysBeforeYear_succ {year : ℕ} (h : 1 ≤ year) :
    daysBeforeYear (year + 1) = daysBeforeYear year + daysBeforeMonth (isLeap year) 13 := by
  have hdays : daysBeforeMonth (isLeap year) 13 = if isLeap year then 366 else 365 := by
    cases isLeap year <;> rfl
  obtain ⟨n, rfl⟩ := Nat.exists_eq_add_of_le' h
  have hleap : isLeap (n + 1) = true ↔ 4 ∣ n + 1 ∧ (¬ 100 ∣ n + 1 ∨ 400 ∣ n + 1) := by
    simp [isLeap, Nat.dvd_iff_mod_eq_zero]
  rw [hdays, if_congr hleap rfl rfl, daysBeforeYear, daysBeforeYear, Nat.add_sub_cancel,
    Nat.add_sub_cancel, Nat.succ_div, Nat.succ_div, Nat.succ_div]
  split_ifs <;> omega

/-- Years do not overlap. -/
theorem year_block {a b : ℕ} (ha : 1 ≤ a) (h : a < b) :
    daysBeforeYear a + daysBeforeMonth (isLeap a) 13 ≤ daysBeforeYear b := by
  induction b, Nat.succ_le_of_lt h using Nat.le_induction with
  | base => exact (daysBeforeYear_succ ha).ge
  | succ b hb ih =>
    rw [daysBeforeYear_succ (by omega)]
    exact (ih hb).trans (Nat.le_add_right ..)

/-- Months do not overlap. -/
theorem month_block (leap : Bool) {a b : ℕ} (h : a < b) :
    daysBeforeMonth leap a + daysInMonth leap a ≤ daysBeforeMonth leap b := by
  induction b, Nat.succ_le_of_lt h using Nat.le_induction with
  | base => exact le_refl _
  | succ b hb ih => exact (ih hb).trans (Nat.le_add_right ..)

namespace DateTime

variable (t u : DateTime)

/-- The seconds since the start of the day. -/
def ofDay : ℕ := t.hour * 3600 + (t.minute * 60 + t.second)

/-- The seconds since the start of the month. -/
def ofMonth : ℕ := (t.day - 1) * 86400 + t.ofDay

/-- The seconds since the start of the year. -/
def ofYear : ℕ := daysBeforeMonth (isLeap t.year) t.month * 86400 + t.ofMonth

theorem seconds_eq : t.seconds = daysBeforeYear t.year * 86400 + t.ofYear + 86400 := by
  have := t.day_pos
  unfold seconds ordinal ofYear ofMonth ofDay
  omega

theorem ofDay_lt : t.ofDay < 86400 := by
  have := t.hour_lt
  have := t.minute_lt
  have := t.second_lt
  unfold ofDay
  omega

theorem ofMonth_lt : t.ofMonth < daysInMonth (isLeap t.year) t.month * 86400 := by
  have := t.ofDay_lt
  have := t.day_pos
  have := t.day_le
  unfold ofMonth
  omega

theorem ofYear_lt : t.ofYear < daysBeforeMonth (isLeap t.year) 13 * 86400 := by
  have := t.ofMonth_lt
  have := month_block (isLeap t.year) (show t.month < 13 from Nat.lt_succ_of_le t.month_le)
  unfold ofYear
  omega

theorem ofDay_lt_iff : t.ofDay < u.ofDay ↔ t.hour < u.hour ∨ t.hour = u.hour ∧
    (t.minute < u.minute ∨ t.minute = u.minute ∧ t.second < u.second) := by
  have := t.minute_lt
  have := t.second_lt
  have := u.minute_lt
  have := u.second_lt
  unfold ofDay
  rw [mul_lt (by omega) (by omega), mul_lt t.second_lt u.second_lt]

theorem ofMonth_lt_iff :
    t.ofMonth < u.ofMonth ↔ t.day < u.day ∨ t.day = u.day ∧ t.ofDay < u.ofDay := by
  have := t.day_pos
  have := u.day_pos
  unfold ofMonth
  rw [mul_lt t.ofDay_lt u.ofDay_lt]
  omega

theorem ofYear_lt_iff (h : t.year = u.year) :
    t.ofYear < u.ofYear ↔ t.month < u.month ∨ t.month = u.month ∧ t.ofMonth < u.ofMonth := by
  have ht := t.ofMonth_lt
  have hu := u.ofMonth_lt
  have hblock : ∀ a b, a < b → daysBeforeMonth (isLeap u.year) a * 86400 +
      daysInMonth (isLeap u.year) a * 86400 ≤ daysBeforeMonth (isLeap u.year) b * 86400 := by
    intro a b hab
    rw [← Nat.add_mul]
    exact Nat.mul_le_mul_right _ (month_block _ hab)
  unfold ofYear
  rw [h] at ht ⊢
  exact block_lt (fun m => daysBeforeMonth (isLeap u.year) m * 86400)
    (fun m => daysInMonth (isLeap u.year) m * 86400) (hblock _ _) (hblock _ _) ht hu

theorem seconds_lt_iff :
    t.seconds < u.seconds ↔ t.year < u.year ∨ t.year = u.year ∧ t.ofYear < u.ofYear := by
  have hblock : ∀ a b, 1 ≤ a → a < b → daysBeforeYear a * 86400 +
      daysBeforeMonth (isLeap a) 13 * 86400 ≤ daysBeforeYear b * 86400 := by
    intro a b ha hab
    rw [← Nat.add_mul]
    exact Nat.mul_le_mul_right _ (year_block ha hab)
  rw [seconds_eq, seconds_eq, Nat.add_lt_add_iff_right]
  exact block_lt (fun y => daysBeforeYear y * 86400)
    (fun y => daysBeforeMonth (isLeap y) 13 * 86400) (hblock _ _ t.year_pos)
    (hblock _ _ u.year_pos) t.ofYear_lt u.ofYear_lt

/-- **The texts of moments sort as their whole seconds do.** -/
theorem text_lt_iff : t.text < u.text ↔ t.seconds < u.seconds := by
  have hday := fun v : DateTime => (v.day_le.trans (daysInMonth_le (isLeap v.year) v.month))
  rw [text, text, seconds_lt_iff,
    pad_append_lt (by have := t.year_le; omega) (by have := u.year_le; omega)]
  refine or_congr_right (and_congr_right fun hyear => ?_)
  rw [ofYear_lt_iff t u hyear, ofMonth_lt_iff, ofDay_lt_iff,
    pad_append_lt (by have := t.month_le; omega) (by have := u.month_le; omega),
    pad_append_lt (by have := hday t; omega) (by have := hday u; omega),
    pad_append_lt (by have := t.hour_lt; omega) (by have := u.hour_lt; omega),
    pad_append_lt (by have := t.minute_lt; omega) (by have := u.minute_lt; omega),
    pad_append_lt (by have := t.second_lt; omega) (by have := u.second_lt; omega)]
  simp

/-- **Moments of different seconds** are in the order of their seconds. -/
theorem micros_lt_iff (h : t.seconds ≠ u.seconds) : t.micros < u.micros ↔ t.seconds < u.seconds := by
  have := t.micro_lt
  have := u.micro_lt
  unfold micros
  omega

/-- The whole second of a moment. -/
theorem micros_div : t.micros / 1000000 = t.seconds := by
  have := t.micro_lt
  unfold micros
  omega

end DateTime

end IsoTime
