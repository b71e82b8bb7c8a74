import Mathlib

/-!
# Token buckets

A **token bucket** is a level and the time of its last change; it refills at a rate, up to a burst.
The library is about what a bucket has given out over its whole life, for any window of time.

* `refill`, `available`: the level after some time, and of a bucket that may not exist yet;
* `Metered`: a bucket tells what was given out in every window that it has seen;
* `Metered.draw`: a draw of no more than what is available, not before the last one, keeps it;
* **`Metered.bound`**: in a window of length `d` no more than `burst + rate * d` was given out.
-/

namespace TokenBucket

variable {𝕜 : Type} [Field 𝕜] [LinearOrder 𝕜] [IsStrictOrderedRing 𝕜]

/-- The level after `elapsed`, up to `burst`; time that runs backwards refills nothing. -/
def refill (rate burst level elapsed : 𝕜) : 𝕜 := min burst (level + max 0 elapsed * rate)

/-- What a bucket, of a level at a time, holds `now`; a bucket starts full. -/
def available (rate burst : 𝕜) : Option (𝕜 × 𝕜) → 𝕜 → 𝕜
  | none, _ => burst
  | some b, now => refill rate burst b.1 (now - b.2)

omit [IsStrictOrderedRing 𝕜] in
theorem available_le_burst (rate burst : 𝕜) (bucket : Option (𝕜 × 𝕜)) (now : 𝕜) :
    available rate burst bucket now ≤ burst := by
  cases bucket with
  | none => exact le_refl _
  | some b => exact min_le_left _ _

theorem available_le_refilled (rate burst : 𝕜) {b : 𝕜 × 𝕜} {now : 𝕜} (h : b.2 ≤ now) :
    available rate burst (some b) now ≤ b.1 + rate * (now - b.2) := by
  have hright : available rate burst (some b) now ≤ b.1 + max 0 (now - b.2) * rate :=
    min_le_right _ _
  rw [max_eq_right (sub_nonneg.2 h), mul_comm] at hright
  exact hright

/-- **What a bucket tells** of `used s t`, what was given out between `s` and `t`. -/
def Metered (rate burst : 𝕜) (used : 𝕜 → 𝕜 → 𝕜) : Option (𝕜 × 𝕜) → Prop
  | none => ∀ s t, used s t = 0
  | some b => 0 ≤ b.1 ∧ ∀ s t, s ≤ t →
      (b.2 < s → used s t = 0) ∧
      (s ≤ b.2 → b.2 ≤ t → used s t + b.1 ≤ burst + rate * (b.2 - s)) ∧
      (t < b.2 → used s t ≤ burst + rate * (t - s))

variable {rate burst : 𝕜} {used used' : 𝕜 → 𝕜 → 𝕜} {bucket : Option (𝕜 × 𝕜)}

/-- **The bound** of a bucket: its burst and what refilled. -/
theorem Metered.bound (h : Metered rate burst used bucket) (hrate : 0 ≤ rate) (hburst : 0 ≤ burst)
    {s t : 𝕜} (hst : s ≤ t) : used s t ≤ burst + rate * (t - s) := by
  have hrefill : 0 ≤ rate * (t - s) := mul_nonneg hrate (sub_nonneg.2 hst)
  cases bucket with
  | none =>
    have hzero : used s t = 0 := h s t
    rw [hzero]
    exact add_nonneg hburst hrefill
  | some b =>
    obtain ⟨hlevel, hall⟩ := h
    obtain ⟨hbefore, hinside, hafter⟩ := hall s t hst
    rcases lt_or_ge b.2 s with hs | hs
    · rw [hbefore hs]
      exact add_nonneg hburst hrefill
    · rcases lt_or_ge t b.2 with ht | ht
      · exact hafter ht
      · have hmono : rate * (b.2 - s) ≤ rate * (t - s) :=
          mul_le_mul_of_nonneg_left (by linarith) hrate
        linarith [hinside hs ht]

/-- The window before a draw, up to the time of it. -/
theorem Metered.room (h : Metered rate burst used bucket) {now : 𝕜}
    (hnow : ∀ b ∈ bucket, b.2 ≤ now) {s : 𝕜} (hrate : 0 ≤ rate) (hs : s ≤ now) {t : 𝕜}
    (ht : now ≤ t) :
    used s t + available rate burst bucket now ≤ burst + rate * (now - s) := by
  have hrefill : 0 ≤ rate * (now - s) := mul_nonneg hrate (sub_nonneg.2 hs)
  have hfull := available_le_burst rate burst bucket now
  cases bucket with
  | none =>
    have hzero : used s t = 0 := h s t
    linarith
  | some b =>
    obtain ⟨-, hall⟩ := h
    obtain ⟨hbefore, hinside, -⟩ := hall s t (hs.trans ht)
    have hb := hnow b rfl
    rcases lt_or_ge b.2 s with hearly | hlate
    · rw [hbefore hearly]
      linarith
    · have hrefilled := available_le_refilled rate burst hb
      have hsplit : rate * (now - s) = rate * (b.2 - s) + rate * (now - b.2) := by ring
      linarith [hinside hlate (hb.trans ht)]

/-- **A draw** of what is available, the clock not having gone back. -/
theorem Metered.draw (h : Metered rate burst used bucket) (hrate : 0 ≤ rate) (hburst : 0 ≤ burst)
    {now units : 𝕜} (hnow : ∀ b ∈ bucket, b.2 ≤ now)
    (hunits : units ≤ available rate burst bucket now)
    (hused : ∀ s t, used' s t = used s t + if s ≤ now ∧ now ≤ t then units else 0) :
    Metered rate burst used' (some (available rate burst bucket now - units, now)) := by
  refine ⟨sub_nonneg.2 hunits, fun s t hst => ⟨fun hs => ?_, fun hs ht => ?_, fun ht => ?_⟩⟩
  · -- a window after the draw: nothing of it was given out before
    rw [hused, if_neg fun hin => absurd hin.1 (not_le.2 hs), add_zero]
    cases bucket with
    | none => exact h s t
    | some b => exact (h.2 s t hst).1 ((hnow b rfl).trans_lt hs)
  · have hroom := h.room hnow hrate hs ht
    rw [hused, if_pos ⟨hs, ht⟩]
    change used s t + units + (available rate burst bucket now - units) ≤
      burst + rate * (now - s)
    linarith
  · rw [hused, if_neg fun hin => absurd hin.2 (not_le.2 ht), add_zero]
    exact h.bound hrate hburst hst

end TokenBucket
