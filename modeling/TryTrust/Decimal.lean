import Mathlib.Tactic.Linarith
import Mathlib.Tactic.NormNum
import Mathlib.Tactic.Ring
import Mathlib.Algebra.Order.Field.Rat
import TryTrust.Policy.Jsonlogic

/-!
# Rounding of decimals

The number that a decimal stands for, and what the rounding to 28 digits and to an integer does to
it.

* `digitCount_le_iff`, `digitCount_mul_pow`: digits and powers of ten;
* `Dec.value`, and **`Dec.fix_whole`**: a decimal with at most 28 significant digits is kept;
* **`Dec.fix_value_congr`**, `Dec.cents_congr`: rounding depends on the number only;
* **`parseDecimal_decimalText`**: the text of a number reads as the number;
* `Dec.same`: equality as numbers; `Dec.adjusted`, `Dec.toIntegralValue`, and
  `toIntegralValue_value`, `natAbs_roundHalfEven_le`.
-/

namespace TryTrust

/-! ## Digits -/

theorem digitCount_le_iff {n k : ℕ} (hk : 0 < k) : digitCount n ≤ k ↔ n < 10 ^ k :=
  Nat.length_toDigits_le_iff (by decide) hk

theorem digitCount_pos (n : ℕ) : 0 < digitCount n := Nat.length_toDigits_pos

theorem lt_pow_digitCount (n : ℕ) : n < 10 ^ digitCount n :=
  (digitCount_le_iff (digitCount_pos n)).1 le_rfl

/-- A positive number has more digits than each power of ten below it has zeros. -/
theorem pow_le_of_digitCount {n k : ℕ} (hn : 0 < n) (hk : k < digitCount n) : 10 ^ k ≤ n := by
  rcases Nat.eq_zero_or_pos k with rfl | hpos
  · exact hn
  · by_contra hlt
    have hfew : digitCount n ≤ k := (digitCount_le_iff hpos).2 (Nat.lt_of_not_le hlt)
    omega

/-- `k` zeros at the end are `k` digits more. -/
theorem digitCount_mul_pow {n : ℕ} (hn : 0 < n) (k : ℕ) :
    digitCount (n * 10 ^ k) = digitCount n + k := by
  have hd := digitCount_pos n
  have hpow : 0 < 10 ^ k := Nat.pow_pos (by decide)
  apply le_antisymm
  · rw [digitCount_le_iff (by omega), pow_add]
    exact Nat.mul_lt_mul_of_pos_right (lt_pow_digitCount n) hpow
  · by_contra hlt
    have hle : digitCount (n * 10 ^ k) ≤ digitCount n - 1 + k := by omega
    have hsmall : n * 10 ^ k < 10 ^ (digitCount n - 1 + k) := by
      apply lt_of_lt_of_le (lt_pow_digitCount _)
      exact Nat.pow_le_pow_right (by decide) hle
    rw [pow_add] at hsmall
    have hlarge := pow_le_of_digitCount hn (k := digitCount n - 1) (by omega)
    exact absurd (Nat.lt_of_mul_lt_mul_right hsmall) (by omega)

theorem natAbs_mul_pow (n : ℤ) (k : ℕ) : (n * 10 ^ k).natAbs = n.natAbs * 10 ^ k := by
  rw [Int.natAbs_mul, Int.natAbs_pow]
  rfl

/-! ## Rounding to an integer -/

/-- Rounding a quotient does not pass an integer. -/
theorem natAbs_roundHalfEven_le {n : ℤ} {d b : ℕ} (hd : 0 < d) (hn : n.natAbs ≤ d * b) :
    (roundHalfEven n d).natAbs ≤ b := by
  have hdz : (0 : ℤ) < d := by omega
  have hbound : -((d : ℤ) * b) ≤ n ∧ n ≤ (d : ℤ) * b := by
    have hcast : ((d * b : ℕ) : ℤ) = (d : ℤ) * b := Nat.cast_mul d b
    omega
  have hdiv := Int.mul_ediv_add_emod n d
  have hlow := Int.emod_nonneg n (by omega : (d : ℤ) ≠ 0)
  have hhigh := Int.emod_lt_of_pos n hdz
  unfold roundHalfEven
  simp only
  generalize n / (d : ℤ) = q at *
  generalize n % (d : ℤ) = r at *
  have hlo : -(b : ℤ) ≤ q := by
    by_contra hlt
    have hmul : (d : ℤ) * (q + 1) ≤ d * -b := Int.mul_le_mul_of_nonneg_left (by omega) hdz.le
    have hexpand : (d : ℤ) * (q + 1) = d * q + d := by ring
    have hneg : (d : ℤ) * -b = -(d * b) := by ring
    omega
  have hhi : q ≤ b := by
    by_contra hlt
    have hmul : (d : ℤ) * (b + 1) ≤ d * q := Int.mul_le_mul_of_nonneg_left (by omega) hdz.le
    have hexpand : (d : ℤ) * (b + 1) = d * b + d := by ring
    omega
  -- the quotient is `b` only when there is no remainder to round up
  have hup : 0 < r → q + 1 ≤ b := by
    intro hr
    by_contra hlt
    have heq : q = b := by omega
    rw [heq] at hdiv
    omega
  split_ifs <;> omega

/-- A quotient is rounded the same when it is expanded. -/
theorem roundHalfEven_scale (n : ℤ) (d : ℕ) {c : ℕ} (hc : 0 < c) :
    roundHalfEven (n * c) (d * c) = roundHalfEven n d := by
  have hcz : (0 : ℤ) < c := by omega
  have hcast : ((d * c : ℕ) : ℤ) = d * c := Nat.cast_mul d c
  have hquot : n * c / ((d * c : ℕ) : ℤ) = n / d := by
    rw [hcast, Int.mul_ediv_mul_of_pos_left _ _ hcz]
  have hrest : n * c % ((d * c : ℕ) : ℤ) = n % d * c := by
    rw [hcast, mul_comm n, mul_comm (d : ℤ), Int.mul_emod_mul_of_pos _ _ hcz, mul_comm]
  have hless : 2 * (n % d * c) < ((d * c : ℕ) : ℤ) ↔ 2 * (n % d) < (d : ℤ) := by
    rw [hcast, ← mul_assoc, mul_lt_mul_iff_left₀ hcz]
  have hmore : 2 * (n % d * c) > ((d * c : ℕ) : ℤ) ↔ 2 * (n % d) > (d : ℤ) := by
    rw [hcast, ← mul_assoc, gt_iff_lt, mul_lt_mul_iff_left₀ hcz]
  unfold roundHalfEven
  simp only [hquot, hrest, hless, hmore]

namespace Dec

/-- The number. -/
def value (d : Dec) : ℚ := d.coeff * 10 ^ d.exp

/-- `Decimal.adjusted`: the exponent of the first digit. -/
def adjusted (d : Dec) : ℤ := d.exp + digitCount d.coeff.natAbs - 1

/-- `Decimal.to_integral_value`. -/
def toIntegralValue (d : Dec) : ℤ :=
  if 0 ≤ d.exp then d.coeff * 10 ^ d.exp.toNat else roundHalfEven d.coeff (10 ^ (-d.exp).toNat)

theorem value_eq_zero_iff {d : Dec} : d.value = 0 ↔ d.coeff = 0 := by
  have hpow : (10 : ℚ) ^ d.exp ≠ 0 := zpow_ne_zero _ (by norm_num)
  simp [value, hpow]

/-- A number with an exponent that is at least the decimal's. -/
theorem coeff_of_value {d : Dec} {n e : ℤ} (he : d.exp ≤ e) (h : d.value = n * 10 ^ e) :
    d.coeff = n * 10 ^ (e - d.exp).toNat := by
  have hten : (10 : ℚ) ≠ 0 := by norm_num
  have hsplit : (10 : ℚ) ^ e = 10 ^ (e - d.exp).toNat * 10 ^ d.exp := by
    rw [← zpow_natCast, ← zpow_add₀ hten]
    congr 1
    omega
  have hpow : (10 : ℚ) ^ d.exp ≠ 0 := zpow_ne_zero _ hten
  unfold value at h
  rw [hsplit, ← mul_assoc] at h
  have hq := mul_right_cancel₀ hpow h
  exact_mod_cast hq

/-- Equality of decimals as numbers. -/
def same (a b : Dec) : Bool :=
  a.coeff * 10 ^ (a.exp - b.exp).toNat = b.coeff * 10 ^ (b.exp - a.exp).toNat

theorem same_iff {a b : Dec} : a.same b = true ↔ a.value = b.value := by
  have hten : (10 : ℚ) ≠ 0 := by norm_num
  have hpow : ∀ {c d : Dec}, c.exp ≤ d.exp →
      d.value = ((d.coeff * 10 ^ (d.exp - c.exp).toNat : ℤ) : ℚ) * 10 ^ c.exp := by
    intro c d hle
    unfold value
    push_cast
    rw [← zpow_natCast, mul_assoc, ← zpow_add₀ hten, Int.toNat_of_nonneg (by omega)]
    congr 2
    omega
  have hunit : ∀ (c : Dec) (m n : ℤ), (m : ℚ) * 10 ^ c.exp = n * 10 ^ c.exp ↔ m = n := by
    intro c m n
    rw [mul_left_inj' (zpow_ne_zero _ hten), Int.cast_inj]
  unfold same
  rw [decide_eq_true_eq]
  rcases le_total a.exp b.exp with hle | hle
  · have hzero : (a.exp - b.exp).toNat = 0 := by omega
    have ha : a.value = (a.coeff : ℚ) * 10 ^ a.exp := rfl
    rw [hpow hle, ha, hunit, hzero, pow_zero, mul_one]
  · have hzero : (b.exp - a.exp).toNat = 0 := by omega
    have hb : b.value = (b.coeff : ℚ) * 10 ^ b.exp := rfl
    rw [hpow hle, hb, hunit, hzero, pow_zero, mul_one]

/-- Decimals of one value have their first digit in one place. -/
theorem adjusted_of_value {a b : Dec} (h : a.value = b.value) (hb : b.coeff ≠ 0) :
    a.adjusted = b.adjusted := by
  have hone : ∀ {c d : Dec}, c.exp ≤ d.exp → c.value = d.value → d.coeff ≠ 0 →
      c.adjusted = d.adjusted := by
    intro c d hle hv hd
    have hc := coeff_of_value (n := d.coeff) hle hv
    unfold adjusted
    rw [hc, natAbs_mul_pow, digitCount_mul_pow (by omega)]
    omega
  rcases le_total a.exp b.exp with hle | hle
  · exact hone hle h hb
  · refine (hone hle h.symm fun ha => hb ?_).symm
    have hc := coeff_of_value (n := a.coeff) hle h.symm
    rw [hc, ha, zero_mul]

/-- An integer is kept. -/
theorem toIntegralValue_of_value {d : Dec} {m : ℤ} (h : d.value = m) : d.toIntegralValue = m := by
  unfold toIntegralValue
  split_ifs with he
  · have hexp : (10 : ℚ) ^ d.exp = 10 ^ d.exp.toNat := by
      rw [← zpow_natCast, Int.toNat_of_nonneg he]
    unfold value at h
    rw [hexp] at h
    exact_mod_cast h
  · have hc := coeff_of_value (d := d) (n := m) (e := 0) (by omega) (by simpa using h)
    rw [zero_sub] at hc
    rw [hc]
    exact_mod_cast roundHalfEven_mul m (d := 10 ^ (-d.exp).toNat) (Nat.pow_pos (by decide))

/-! ## Rounding to 28 digits -/

theorem fix_digits (d : Dec) : (fix d).coeff.natAbs < 10 ^ 28 := by
  unfold fix
  simp only
  split_ifs with hk hc
  · exact (digitCount_le_iff (by decide)).1 (by omega)
  · have hsize : d.coeff.natAbs ≤ 10 ^ (digitCount d.coeff.natAbs - 28) * 10 ^ 28 := by
      rw [← pow_add, Nat.sub_add_cancel (by omega)]
      exact (lt_pow_digitCount _).le
    have hround := natAbs_roundHalfEven_le (Nat.pow_pos (by decide)) hsize
    dsimp only
    omega
  · exact (digitCount_le_iff (by decide)).1 (Nat.le_of_not_lt hc)

/-- **A number with at most 28 significant digits is kept.** -/
theorem fix_whole {d : Dec} {n e : ℤ} (hn : n.natAbs < 10 ^ 28) (h : d.value = n * 10 ^ e) :
    (fix d).value = d.value := by
  by_cases hk : digitCount d.coeff.natAbs - 28 = 0
  · unfold fix
    rw [if_pos hk]
  have hlarge : 10 ^ 28 ≤ d.coeff.natAbs := by
    by_contra hlt
    have := (digitCount_le_iff (k := 28) (by decide)).2 (Nat.lt_of_not_le hlt)
    omega
  have hle : d.exp ≤ e := by
    by_contra hlt
    have hc := coeff_of_value (d := ⟨n, e⟩) (n := d.coeff) (e := d.exp) (by simp; omega) h.symm
    simp only at hc
    have hgrow : d.coeff.natAbs ≤ n.natAbs := by
      rw [hc, natAbs_mul_pow]
      exact Nat.le_mul_of_pos_right _ (Nat.pow_pos (by decide))
    omega
  have hc := coeff_of_value hle h
  have hzero : 0 < n.natAbs := by
    by_contra hz
    have hn0 : n = 0 := by omega
    rw [hc, hn0, zero_mul] at hlarge
    exact absurd hlarge (by decide)
  have hdigits : digitCount d.coeff.natAbs = digitCount n.natAbs + (e - d.exp).toNat := by
    rw [hc, natAbs_mul_pow, digitCount_mul_pow hzero]
  have hfew := (digitCount_le_iff (k := 28) (by decide)).2 hn
  obtain ⟨j, hj⟩ : ∃ j, digitCount d.coeff.natAbs - 28 = j := ⟨_, rfl⟩
  obtain ⟨i, hi⟩ : ∃ i, (e - d.exp).toNat = i + j := ⟨_, (Nat.sub_add_cancel (by omega)).symm⟩
  -- the zeros at the end are at least the digits to strip
  have hcut : d.coeff = n * 10 ^ i * 10 ^ j := by rw [hc, hi, pow_add, mul_assoc]
  have hround : roundHalfEven d.coeff (10 ^ j) = n * 10 ^ i := by
    rw [hcut]
    exact_mod_cast roundHalfEven_mul (n * 10 ^ i) (d := 10 ^ j) (Nat.pow_pos (by decide))
  have hkept : digitCount (n * 10 ^ i).natAbs = 28 := by
    rw [natAbs_mul_pow, digitCount_mul_pow hzero]
    omega
  have hfix : fix d = ⟨n * 10 ^ i, d.exp + j⟩ := by
    unfold fix
    simp only [hj] at hk ⊢
    rw [if_neg hk, hround, if_neg (by omega)]
  have hten : (10 : ℚ) ^ (d.exp + j) = 10 ^ d.exp * 10 ^ j := by
    rw [zpow_add₀ (by norm_num), zpow_natCast]
  unfold value
  rw [hfix, hcut]
  simp only
  rw [hten]
  push_cast
  ring

theorem fix_fix_value (d : Dec) : (fix (fix d)).value = (fix d).value :=
  fix_whole (fix_digits d) rfl

/-- Two decimals of one value: the one has as many more zeros as its exponent is less. -/
theorem value_cases {a b : Dec} (h : a.value = b.value) :
    (∃ j : ℕ, a = ⟨b.coeff * 10 ^ j, b.exp - j⟩) ∨ ∃ j : ℕ, b = ⟨a.coeff * 10 ^ j, a.exp - j⟩ := by
  rcases le_total a.exp b.exp with hle | hle
  · refine .inl ⟨(b.exp - a.exp).toNat, ?_⟩
    rw [← coeff_of_value hle h]
    exact congrArg (Dec.mk a.coeff) (by omega)
  · refine .inr ⟨(a.exp - b.exp).toNat, ?_⟩
    rw [← coeff_of_value hle h.symm]
    exact congrArg (Dec.mk b.coeff) (by omega)

/-- Zeros at the end do not change what 28 digits keep. -/
theorem fix_value_zeros (n e : ℤ) (j : ℕ) :
    (fix ⟨n * 10 ^ j, e - j⟩).value = (fix ⟨n, e⟩).value := by
  have hten : (10 : ℚ) ≠ 0 := by norm_num
  have hvalue : (⟨n * 10 ^ j, e - j⟩ : Dec).value = n * 10 ^ e := by
    simp only [value]
    push_cast
    rw [zpow_sub₀ hten, zpow_natCast, mul_assoc, mul_div_cancel₀ _ (pow_ne_zero j hten)]
  by_cases hn : n.natAbs < 10 ^ 28
  · have hshort : (fix ⟨n, e⟩).value = (⟨n, e⟩ : Dec).value := fix_whole hn rfl
    rw [fix_whole hn hvalue, hvalue, hshort]
    rfl
  · have hpos : 0 < n.natAbs := by omega
    have hlong : 28 < digitCount n.natAbs := by
      by_contra hle
      exact hn ((digitCount_le_iff (by decide)).1 (by omega))
    have hdigits : digitCount (n * 10 ^ j).natAbs = digitCount n.natAbs + j := by
      rw [natAbs_mul_pow, digitCount_mul_pow hpos]
    obtain ⟨k, hk⟩ : ∃ k, digitCount n.natAbs - 28 = k := ⟨_, rfl⟩
    have hkj : digitCount (n * 10 ^ j).natAbs - 28 = k + j := by omega
    have hround : roundHalfEven (n * 10 ^ j) (10 ^ (k + j)) = roundHalfEven n (10 ^ k) := by
      have hscale := roundHalfEven_scale n (10 ^ k) (c := 10 ^ j) (Nat.pow_pos (by decide))
      rw [← pow_add] at hscale
      exact_mod_cast hscale
    have hexp : e - j + ((k + j : ℕ) : ℤ) = e + k := by
      push_cast
      ring
    congr 1
    unfold fix
    simp only [hk, hkj, hround, hexp]
    have hboth : ¬ k + j = 0 := by omega
    have hone : ¬ k = 0 := by omega
    rw [if_neg hboth, if_neg hone]

/-- **What 28 digits keep of a number** depends on the number only. -/
theorem fix_value_congr {a b : Dec} (h : a.value = b.value) : (fix a).value = (fix b).value := by
  rcases value_cases h with ⟨j, rfl⟩ | ⟨j, rfl⟩
  · exact fix_value_zeros _ _ j
  · exact (fix_value_zeros _ _ j).symm

theorem cents_zeros (n e : ℤ) (j : ℕ) :
    (⟨n * 10 ^ j, e - j⟩ : Dec).cents = (⟨n, e⟩ : Dec).cents := by
  unfold cents
  dsimp only
  by_cases hlow : -2 ≤ e - j
  · rw [if_pos hlow, if_pos (by omega), mul_assoc, ← pow_add]
    congr 2
    omega
  rw [if_neg hlow]
  by_cases hhigh : -2 ≤ e
  · obtain ⟨i, hi⟩ : ∃ i : ℕ, (-(e - j + 2)).toNat = i := ⟨_, rfl⟩
    have hsplit : n * 10 ^ j = n * 10 ^ (e + 2).toNat * ((10 ^ i : ℕ) : ℤ) := by
      push_cast
      rw [mul_assoc, ← pow_add]
      congr 2
      omega
    rw [if_pos hhigh, hi, hsplit, roundHalfEven_mul _ (Nat.pow_pos (by decide))]
  · have hpow : (10 : ℕ) ^ (-(e - j + 2)).toNat = 10 ^ (-(e + 2)).toNat * 10 ^ j := by
      rw [← pow_add]
      congr 1
      omega
    have hscale := roundHalfEven_scale n (10 ^ (-(e + 2)).toNat) (c := 10 ^ j)
      (Nat.pow_pos (by decide))
    rw [if_neg hhigh, hpow]
    exact_mod_cast hscale

/-- The cents of a number depend on the number only. -/
theorem cents_congr {a b : Dec} (h : a.value = b.value) : a.cents = b.cents := by
  rcases value_cases h with ⟨j, rfl⟩ | ⟨j, rfl⟩
  · exact cents_zeros _ _ j
  · exact (cents_zeros _ _ j).symm

end Dec

/-! ## Texts -/

open JsonText

theorem dropWhile_blank {l : List Char} (h : ∀ c ∈ l, c.isWhitespace = false) :
    l.dropWhile Char.isWhitespace = l := by
  cases l with
  | nil => rfl
  | cons c l => rw [List.dropWhile_cons, h c List.mem_cons_self]; rfl

/-- The characters of decimal texts. -/
def IsNumeralChar (c : Char) : Prop := c.isDigit = true ∨ c = '-' ∨ c = '.'

theorem IsNumeralChar.plain {c : Char} (h : IsNumeralChar c) :
    c.isWhitespace = false ∧ (c ≠ '_') := by
  rcases h with h | rfl | rfl
  · constructor
    · by_contra hw
      simp only [Char.isWhitespace, Bool.not_eq_false, Bool.or_eq_true, decide_eq_true_eq] at hw
      rcases hw with ((rfl | rfl) | rfl) | rfl <;> cases h
    · rintro rfl
      cases h
  · decide
  · decide

theorem numeral_decimalText (m : ℤ) (scale : ℕ) : ∀ c ∈ (decimalText m scale).toList,
    IsNumeralChar c := by
  intro c hc
  rw [decimalText_toList] at hc
  rcases List.mem_append.1 hc with hc | hc
  · split_ifs at hc
    · exact .inr (.inl (List.mem_singleton.1 hc))
    · cases hc
  rcases List.mem_append.1 hc with hc | hc
  · exact .inl (isDigit_toDigits _ c hc)
  · split_ifs at hc
    · cases hc
    · rcases List.mem_cons.1 hc with hc | hc
      · exact .inr (.inr hc)
      · exact .inl (isDigit_fractionDigits _ _ c hc)

/-- The text of an amount is a decimal text. -/
theorem fmt_eq (cents : ℤ) : fmt cents = decimalText cents 2 := by
  have hpad : ∀ n < 100, (if n < 10 then "0" else "") ++ toString n =
      String.ofList (List.replicate (2 - (toString n).length) '0') ++ toString n := by decide
  unfold fmt decimalText
  dsimp only
  rw [if_neg (by decide : ¬ (2 = 0)), show 10 ^ 2 = 100 from rfl, String.append_assoc,
    hpad _ (Nat.mod_lt _ (by decide)), String.append_assoc, String.append_assoc,
    String.append_assoc, String.append_assoc]

theorem parseFinite_digits (sign : ℤ) (n scale : ℕ) :
    parseFinite sign (Nat.toDigits 10 (n / 10 ^ scale) ++
      if scale = 0 then [] else '.' :: fractionDigits (n % 10 ^ scale) scale) =
        some (.finite ⟨sign * n, -scale⟩) := by
  unfold parseFinite
  by_cases hscale : scale = 0
  · have hno : NoDigit [] := fun c hc => by cases hc
    simp only [if_pos hscale, List.span_eq_takeWhile_dropWhile,
      takeWhile_digits (isDigit_toDigits _) hno, dropWhile_digits (isDigit_toDigits _) hno]
    simp [takeFraction, parseExponent, hscale, digitsVal_toDigits, Nat.toDigits_ne_nil]
  · have hpoint : NoDigit ('.' :: fractionDigits (n % 10 ^ scale) scale) := by
      intro c hc
      cases hc
      rfl
    have hlength := fractionDigits_length hscale (Nat.mod_lt n (by positivity : 0 < 10 ^ scale))
    have hall := isDigit_fractionDigits (n % 10 ^ scale) scale
    have hvalue : digitsVal (Nat.toDigits 10 (n / 10 ^ scale) ++
        fractionDigits (n % 10 ^ scale) scale) = n := digitsValue_append hscale
    have htake : (fractionDigits (n % 10 ^ scale) scale).takeWhile Char.isDigit =
        fractionDigits (n % 10 ^ scale) scale := List.takeWhile_eq_self_iff.2 hall
    have hdrop : (fractionDigits (n % 10 ^ scale) scale).dropWhile Char.isDigit = [] :=
      List.dropWhile_eq_nil_iff.2 hall
    simp only [if_neg hscale, List.span_eq_takeWhile_dropWhile,
      takeWhile_digits (isDigit_toDigits _) hpoint, dropWhile_digits (isDigit_toDigits _) hpoint,
      takeFraction, htake, hdrop, parseExponent, hvalue, hlength]
    simp [Nat.toDigits_ne_nil]

/-- **The text of a number** reads as the number. -/
theorem parseDecimal_decimalText (m : ℤ) (scale : ℕ) :
    parseDecimal (decimalText m scale) = some (.finite ⟨m, -scale⟩) := by
  have hplain := numeral_decimalText m scale
  have htrim : (((decimalText m scale).toList.dropWhile Char.isWhitespace).reverse.dropWhile
      Char.isWhitespace).reverse = (decimalText m scale).toList := by
    rw [dropWhile_blank fun c hc => (hplain c hc).plain.1,
      dropWhile_blank fun c hc => (hplain c (List.mem_reverse.1 hc)).plain.1, List.reverse_reverse]
  have hfilter : (decimalText m scale).toList.filter (· ≠ '_') = (decimalText m scale).toList :=
    List.filter_eq_self.2 fun c hc => by simpa using (hplain c hc).plain.2
  unfold parseDecimal
  simp only [htrim, hfilter]
  rw [decimalText_toList]
  by_cases hm : m < 0
  · rw [if_pos hm, List.singleton_append]
    simp only [takeSign, parseFinite_digits]
    congr 3
    omega
  · rw [if_neg hm, List.nil_append]
    obtain ⟨c, ds, hdigits, hc⟩ := toDigits_head (m.natAbs / 10 ^ scale)
    have hfinite := parseFinite_digits 1 m.natAbs scale
    rw [hdigits, List.cons_append] at hfinite ⊢
    have hsign : ∀ l, takeSign (c :: l) = (1, c :: l) := by
      intro l
      unfold takeSign
      split
      · next heq =>
        rw [(List.cons.inj heq).1] at hc
        cases hc
      · next heq =>
        rw [(List.cons.inj heq).1] at hc
        cases hc
      · rfl
    simp only [hsign, hfinite]
    congr 3
    omega

end TryTrust
