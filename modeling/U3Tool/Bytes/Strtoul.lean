import U3Tool.Bytes.Numeral

/-!
# `strtoul` in base 16

`strtoul` reads white space, a sign, an optional `0x` and as many hexadecimal digits as there are,
and returns an `unsigned long` together with the rest of the text, which is the whole text when
there are no digits. On a text that begins with a digit and whose digits end before a character
other than a letter or digit, it returns their value and what follows them (`strtoul_digits`); it
never reads past a character that is none of those it looks for (`mem_strtoul`).
-/

set_option autoImplicit false
set_option relaxedAutoImplicit false

namespace Bytes

/-- A hexadecimal digit. -/
def isXdigit (char : UInt8) : Bool := digitValue char < 16

/-- Drops the prefix `0x` before a hexadecimal digit. -/
def takeHex : List UInt8 → List UInt8
  | 48 :: marker :: digit :: rest =>
    if (marker = 120 ∨ marker = 88) ∧ isXdigit digit then digit :: rest
    else 48 :: marker :: digit :: rest
  | text => text

/-- The value of a signed magnitude as an `unsigned long`: the largest one when it does not fit. -/
def Sign.toUnsigned (sign : Sign) (value : ℕ) : UInt64 :=
  if 2 ^ 64 ≤ value then UInt64.ofNat (2 ^ 64 - 1)
  else if sign = .minus then 0 - UInt64.ofNat value
  else UInt64.ofNat value

/-- `strtoul(text, &end, 16)`: the value, and the text from `end` on. -/
def strtoul (text : List UInt8) : UInt64 × List UInt8 :=
  let (sign, unsigned) := takeSign (text.dropWhile isSpace)
  let digits := takeHex unsigned
  if digits.takeWhile isXdigit = [] then (0, text)
  else (sign.toUnsigned (magnitude 16 (digits.takeWhile isXdigit)), digits.dropWhile isXdigit)

/-! ### Texts of digits -/

/-- A character that `strtoul` stops at wherever it stands: it is no space, no sign, no letter and
no digit. -/
structure Stops (char : UInt8) : Prop where
  not_space : isSpace char = false
  not_plus : char ≠ 43
  not_minus : char ≠ 45
  not_digit : digitValue char = 36

theorem stops_colon : Stops 58 := ⟨by decide, by decide, by decide, by decide⟩

theorem Stops.not_xdigit {char : UInt8} (hstops : Stops char) : isXdigit char = false := by
  rw [isXdigit, hstops.not_digit]
  rfl

theorem takeSign_of_digit {first : UInt8} (hfirst : 48 ≤ first) (rest : List UInt8) :
    takeSign (first :: rest) = (.none, first :: rest) := by
  unfold takeSign
  split
  · next heq => exact absurd hfirst (by rw [(List.cons.inj heq).1]; decide)
  · next heq => exact absurd hfirst (by rw [(List.cons.inj heq).1]; decide)
  · rfl

/-- Digits have no prefix to drop: the letter of a prefix is no digit. -/
theorem takeHex_digits {digits rest : List UInt8} (hdigits : ∀ char ∈ digits, digitValue char < 16)
    (hrest : ∀ char ∈ rest.head?, Stops char) (hsome : digits ≠ []) :
    takeHex (digits ++ rest) = digits ++ rest := by
  unfold takeHex
  split
  · next marker digit tail heq =>
    refine (if_neg fun hprefix ↦ ?_).trans heq.symm
    obtain ⟨first, more, rfl⟩ := List.exists_cons_of_ne_nil hsome
    have htail := (List.cons.inj heq).2
    have hletter : digitValue marker = 33 := by
      rcases hprefix.1 with rfl | rfl
      · decide
      · decide
    cases more with
    | nil =>
      have hhead : marker ∈ rest.head? := by
        have : rest = marker :: digit :: tail := htail
        rw [this]
        rfl
      exact absurd (hrest marker hhead).not_digit (by omega)
    | cons second more =>
      obtain rfl : second = marker := (List.cons.inj htail).1
      exact absurd (hdigits second (by simp)) (by omega)
  · rfl

/-- Digits before a character that stops `strtoul`, or before the end, give their value. -/
theorem strtoul_digits {digits rest : List UInt8} (hsome : digits ≠ [])
    (hdigits : ∀ char ∈ digits, digitValue char < 16) (hrest : ∀ char ∈ rest.head?, Stops char) :
    strtoul (digits ++ rest) =
      (Sign.none.toUnsigned (magnitude 16 digits), rest) := by
  have hxdigits : ∀ char ∈ digits, isXdigit char = true := fun char hchar ↦
    decide_eq_true (hdigits char hchar)
  have htakeRest : rest.takeWhile isXdigit = [] ∧ rest.dropWhile isXdigit = rest := by
    cases rest with
    | nil => exact ⟨rfl, rfl⟩
    | cons char tail =>
      have hstop : ¬ isXdigit char = true := by simp [(hrest char rfl).not_xdigit]
      exact ⟨List.takeWhile_cons_of_neg hstop, List.dropWhile_cons_of_neg hstop⟩
  have htake : (digits ++ rest).takeWhile isXdigit = digits := by
    rw [List.takeWhile_append_of_pos hxdigits, htakeRest.1, List.append_nil]
  have hdrop : (digits ++ rest).dropWhile isXdigit = rest := by
    rw [List.dropWhile_append_of_pos hxdigits, htakeRest.2]
  have hsign : takeSign ((digits ++ rest).dropWhile isSpace) = (.none, digits ++ rest) := by
    obtain ⟨first, more, rfl⟩ := List.exists_cons_of_ne_nil hsome
    have hfirst : 48 ≤ first :=
      digit_range (lt_trans (hdigits first (List.mem_cons_self ..)) (by decide))
    rw [List.cons_append,
      List.dropWhile_cons_of_neg (by simp [Numeral.isSpace_eq_false hfirst])]
    exact takeSign_of_digit hfirst _
  rw [strtoul, hsign]
  dsimp only
  rw [takeHex_digits hdigits hrest hsome, htake, hdrop, if_neg hsome]

/-! ### The rest of the text -/

theorem mem_dropWhile {p : UInt8 → Bool} {char : UInt8} {text : List UInt8}
    (hchar : p char = false) (hmem : char ∈ text) : char ∈ text.dropWhile p := by
  rw [← List.takeWhile_append_dropWhile (p := p) (l := text), List.mem_append] at hmem
  exact hmem.resolve_left fun htaken ↦ absurd (List.mem_takeWhile_imp htaken) (by simp [hchar])

theorem mem_takeSign {char : UInt8} {text : List UInt8} (hstops : Stops char)
    (hmem : char ∈ text) : char ∈ (takeSign text).2 := by
  unfold takeSign
  split
  · exact (List.mem_cons.mp hmem).resolve_left hstops.not_minus
  · exact (List.mem_cons.mp hmem).resolve_left hstops.not_plus
  · exact hmem

theorem mem_takeHex {char : UInt8} {text : List UInt8} (hstops : Stops char)
    (hmem : char ∈ text) : char ∈ takeHex text := by
  have hother {other : UInt8} (hvalue : digitValue other ≠ 36) : char ≠ other := fun heq ↦
    hvalue (heq ▸ hstops.not_digit)
  unfold takeHex
  split
  · next marker digit rest =>
    split_ifs with hprefix
    · have hmarker : char ≠ marker := by
        rcases hprefix.1 with rfl | rfl
        · exact hother (by decide)
        · exact hother (by decide)
      exact (List.mem_cons.mp ((List.mem_cons.mp hmem).resolve_left
        (hother (by decide)))).resolve_left hmarker
    · exact hmem
  · exact hmem

/-- `strtoul` leaves what it stops at in the rest of the text. -/
theorem mem_strtoul {char : UInt8} {text : List UInt8} (hstops : Stops char) (hmem : char ∈ text) :
    char ∈ (strtoul text).2 := by
  have hdigits := mem_takeHex hstops
    (mem_takeSign hstops (mem_dropWhile hstops.not_space hmem))
  unfold strtoul
  dsimp only
  split_ifs
  · exact hmem
  · exact mem_dropWhile hstops.not_xdigit hdigits

end Bytes
