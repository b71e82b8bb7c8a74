import Mathlib.Tactic

/-!
# Base64 for URLs

Bytes as texts of the URL-safe alphabet without padding, and Python's lenient reading of them.

* `encode`, and `mem_encode`: its characters;
* `scan`: characters outside of the alphabet are skipped, and the text ends where its padding is
  complete;
* **`scan_encode`**: padded, the text of bytes is read back; `encode_injective`.
-/

namespace Base64

/-- The character of six bits. -/
def digit (n : ℕ) : Char :=
  if n < 26 then Char.ofNat (65 + n)
  else if n < 52 then Char.ofNat (71 + n)
  else if n < 62 then Char.ofNat (n - 4)
  else if n = 62 then '-' else '_'

/-- The six bits of a character, of the plain or of the URL-safe alphabet. -/
def sextet (c : Char) : Option ℕ :=
  if 65 ≤ c.toNat ∧ c.toNat ≤ 90 then some (c.toNat - 65)
  else if 97 ≤ c.toNat ∧ c.toNat ≤ 122 then some (c.toNat - 71)
  else if 48 ≤ c.toNat ∧ c.toNat ≤ 57 then some (c.toNat + 4)
  else if c = '-' ∨ c = '+' then some 62
  else if c = '_' ∨ c = '/' then some 63
  else none

/-- The text of bytes, without padding. -/
def encode : List UInt8 → List Char
  | [] => []
  | [a] => [digit (a.toNat / 4), digit (a.toNat % 4 * 16)]
  | [a, b] => [digit (a.toNat / 4), digit (a.toNat % 4 * 16 + b.toNat / 16),
      digit (b.toNat % 16 * 4)]
  | a :: b :: c :: rest =>
    digit (a.toNat / 4) :: digit (a.toNat % 4 * 16 + b.toNat / 16) ::
      digit (b.toNat % 16 * 4 + c.toNat / 64) :: digit (c.toNat % 64) :: encode rest

/-- The padding that a text of a length takes. -/
def padding (length : ℕ) : List Char := List.replicate ((4 - length % 4) % 4) '='

/-- What six bits add to a group of four, whose first `position` ones have left some bits: the byte
that is complete, and the bits that are left. -/
def push (position left bits : ℕ) : List UInt8 × ℕ :=
  match position with
  | 0 => ([], bits)
  | 1 => ([UInt8.ofNat (left * 4 + bits / 16)], bits % 16)
  | 2 => ([UInt8.ofNat (left * 16 + bits / 4)], bits % 4)
  | _ => ([UInt8.ofNat (left * 64 + bits)], 0)

/-- The bytes of a text, from a position in a group of four on; `none` when the text ends within a
group. -/
def scan : List Char → ℕ → ℕ → ℕ → Option (List UInt8)
  | [], position, _, _ => if position = 0 then some [] else none
  | c :: cs, position, left, pads =>
    if c = '=' then
      if position < 2 then scan cs position left pads
      else if 4 ≤ position + (pads + 1) then some []
      else scan cs position left (pads + 1)
    else
      match sextet c with
      | none => scan cs position left pads
      | some bits =>
        (scan cs ((position + 1) % 4) (push position left bits).2 0).map
          ((push position left bits).1 ++ ·)

theorem sextet_digit : ∀ n < 64, sextet (digit n) = some n := by decide

theorem digit_ne_pad : ∀ n < 64, digit n ≠ '=' := by decide

section Scan

variable {n : ℕ} (hn : n < 64) (cs : List Char) (left pads : ℕ)

include hn

/-- A character of the alphabet. -/
theorem scan_digit (position : ℕ) : scan (digit n :: cs) position left pads =
    (scan cs ((position + 1) % 4) (push position left n).2 0).map
      ((push position left n).1 ++ ·) := by
  rw [scan, if_neg (digit_ne_pad n hn), sextet_digit n hn]

theorem scan_first : scan (digit n :: cs) 0 left pads = scan cs 1 n 0 :=
  (scan_digit hn cs left pads 0).trans Option.map_id'

theorem scan_second : scan (digit n :: cs) 1 left pads =
    (scan cs 2 (n % 16) 0).map (UInt8.ofNat (left * 4 + n / 16) :: ·) := scan_digit hn cs left pads 1

theorem scan_third : scan (digit n :: cs) 2 left pads =
    (scan cs 3 (n % 4) 0).map (UInt8.ofNat (left * 16 + n / 4) :: ·) := scan_digit hn cs left pads 2

theorem scan_fourth : scan (digit n :: cs) 3 left pads =
    (scan cs 0 0 0).map (UInt8.ofNat (left * 64 + n) :: ·) := scan_digit hn cs left pads 3

end Scan

/-- The bytes of a text are those of its groups. -/
theorem ofNat_join {a : UInt8} {n : ℕ} (h : n = a.toNat) : UInt8.ofNat n = a := by
  rw [h, UInt8.ofNat_toNat]

theorem length_encode (a b c : UInt8) (rest : List UInt8) :
    (encode (a :: b :: c :: rest)).length = (encode rest).length + 4 := rfl

theorem padding_add_four (n : ℕ) : padding (n + 4) = padding n := by
  rw [padding, padding, Nat.add_mod_right]

/-- **The text of bytes** is read back, with its padding. -/
theorem scan_encode (bs : List UInt8) (left pads : ℕ) :
    scan (encode bs ++ padding (encode bs).length) 0 left pads = some bs := by
  induction bs using encode.induct generalizing left pads with
  | case1 => rfl
  | case2 a =>
    have ha := a.toNat_lt
    show scan (digit _ :: digit _ :: ['=', '=']) 0 left pads = _
    rw [scan_first (by omega), scan_second (by omega), ofNat_join (a := a) (by omega)]
    rfl
  | case3 a b =>
    have ha := a.toNat_lt
    have hb := b.toNat_lt
    show scan (digit _ :: digit _ :: digit _ :: ['=']) 0 left pads = _
    rw [scan_first (by omega), scan_second (by omega), scan_third (by omega),
      ofNat_join (a := a) (by omega), ofNat_join (a := b) (by omega)]
    rfl
  | case4 a b c rest ih =>
    have ha := a.toNat_lt
    have hb := b.toNat_lt
    have hc := c.toNat_lt
    rw [length_encode, padding_add_four]
    show scan (digit _ :: digit _ :: digit _ :: digit _ :: (encode rest ++ _)) 0 left pads = _
    rw [scan_first (by omega), scan_second (by omega), scan_third (by omega),
      scan_fourth (by omega), ih, ofNat_join (a := a) (by omega), ofNat_join (a := b) (by omega),
      ofNat_join (a := c) (by omega)]
    rfl

/-- Texts of bytes are equal only for equal bytes. -/
theorem encode_injective : Function.Injective encode := by
  intro bs bs' h
  have hread := scan_encode bs 0 0
  rw [h, scan_encode bs' 0 0] at hread
  exact (Option.some.inj hread).symm

/-- The characters of a text. -/
theorem mem_encode {bs : List UInt8} : ∀ c ∈ encode bs, ∃ n < 64, c = digit n := by
  induction bs using encode.induct with
  | case1 => intro c hc; cases hc
  | case2 a =>
    have ha := a.toNat_lt
    intro x hx
    simp only [encode, List.mem_cons, List.not_mem_nil, or_false] at hx
    rcases hx with rfl | rfl
    · exact ⟨_, by omega, rfl⟩
    · exact ⟨_, by omega, rfl⟩
  | case3 a b =>
    have ha := a.toNat_lt
    have hb := b.toNat_lt
    intro x hx
    simp only [encode, List.mem_cons, List.not_mem_nil, or_false] at hx
    rcases hx with rfl | rfl | rfl
    · exact ⟨_, by omega, rfl⟩
    · exact ⟨_, by omega, rfl⟩
    · exact ⟨_, by omega, rfl⟩
  | case4 a b c rest ih =>
    have ha := a.toNat_lt
    have hb := b.toNat_lt
    have hc := c.toNat_lt
    intro x hx
    simp only [encode, List.mem_cons] at hx
    rcases hx with rfl | rfl | rfl | rfl | hx
    · exact ⟨_, by omega, rfl⟩
    · exact ⟨_, by omega, rfl⟩
    · exact ⟨_, by omega, rfl⟩
    · exact ⟨_, by omega, rfl⟩
    · exact ih x hx

/-- A character that no text has. -/
theorem not_mem_encode {c : Char} (hc : ∀ n < 64, digit n ≠ c) (bs : List UInt8) : c ∉ encode bs := by
  intro h
  obtain ⟨n, hn, heq⟩ := mem_encode c h
  exact hc n hn heq.symm

theorem encode_ne_nil {bs : List UInt8} (h : bs ≠ []) : encode bs ≠ [] := by
  intro hnil
  exact h (encode_injective (hnil.trans rfl))

end Base64
