import Mathlib.Tactic
import Mathlib.Data.Nat.Digits.Defs
import Mathlib.Data.List.TakeWhile

/-!
# C numerals and `strtoll`

A `Numeral` is a text wholly in the grammar `strtoll` accepts in base 0: an optional sign, no prefix
and a first digit other than 0 for decimal, `0` for octal, `0x` or `0X` for hexadecimal, and digits
of that radix. Its `value` is the unbounded integer it denotes. `strtoll` reads any text; on the
text of a numeral it returns the value, cut to the range of `long long` (`strtoll_text`).

A program that copies such a text into a buffer may cut it short. A numeral cut to at least four
characters is a numeral again (`Numeral.truncate`), of a magnitude no larger (`truncate_le`).
-/

set_option autoImplicit false
set_option relaxedAutoImplicit false

namespace Bytes

/-! ### Digits -/

/-- The value of a character as a digit: decimal digits, then letters of either case; 36 for every
other character. -/
def digitValue (char : UInt8) : ℕ :=
  if 48 ≤ char ∧ char ≤ 57 then char.toNat - 48
  else if 97 ≤ char ∧ char ≤ 122 then char.toNat - 87
  else if 65 ≤ char ∧ char ≤ 90 then char.toNat - 55
  else 36

/-- The number that digits denote in a base, most significant first. -/
def magnitude (base : ℕ) (digits : List UInt8) : ℕ :=
  Nat.ofDigits base (digits.reverse.map digitValue)

theorem magnitude_append (base : ℕ) (first second : List UInt8) :
    magnitude base (first ++ second) =
      magnitude base second + base ^ second.length * magnitude base first := by
  simp [magnitude, Nat.ofDigits_append]

/-- A prefix denotes no more than the whole. -/
theorem magnitude_take_le {base : ℕ} (hbase : 0 < base) (count : ℕ) (digits : List UInt8) :
    magnitude base (digits.take count) ≤ magnitude base digits := by
  conv_rhs => rw [← List.take_append_drop count digits, magnitude_append]
  exact le_add_left (Nat.le_mul_of_pos_left _ (Nat.pow_pos hbase))

/-- A digit is neither white space nor a sign. -/
theorem digit_range {char : UInt8} (hdigit : digitValue char < 36) : 48 ≤ char := by
  unfold digitValue at hdigit
  split_ifs at hdigit with hdecimal hlower hupper
  · exact hdecimal.1
  · exact UInt8.le_trans (by decide) hlower.1
  · exact UInt8.le_trans (by decide) hupper.1
  · exact absurd hdigit (by omega)

/-! ### Numerals -/

/-- The sign of a numeral. -/
inductive Sign
  | none
  | plus
  | minus
  deriving DecidableEq

/-- The characters of a sign. -/
def Sign.text : Sign → List UInt8
  | .none => []
  | .plus => [43]
  | .minus => [45]

/-- Applies a sign. -/
def Sign.apply : Sign → ℤ → ℤ
  | .minus, value => -value
  | _, value => value

/-- How a numeral shows its radix. -/
inductive Radix
  | decimal
  | octal
  | hexLower
  | hexUpper
  deriving DecidableEq

/-- The base of a radix. -/
def Radix.base : Radix → ℕ
  | .decimal => 10
  | .octal => 8
  | .hexLower => 16
  | .hexUpper => 16

/-- The prefix of a radix: nothing, `0`, `0x` or `0X`. -/
def Radix.text : Radix → List UInt8
  | .decimal => []
  | .octal => [48]
  | .hexLower => [48, 120]
  | .hexUpper => [48, 88]

/-- The digits that may follow a prefix: a decimal numeral does not begin with 0, and only an octal
one may have no further digit. -/
def Radix.Allows : Radix → List UInt8 → Prop
  | .decimal, digits => ∃ first rest, digits = first :: rest ∧ first ≠ 48
  | .octal, _ => True
  | _, digits => digits ≠ []

/-- A text in the grammar of `strtoll` in base 0. -/
structure Numeral where
  sign : Sign
  radix : Radix
  digits : List UInt8
  digits_lt : ∀ char ∈ digits, digitValue char < radix.base
  allowed : radix.Allows digits

namespace Numeral

/-- The characters of a numeral. -/
def text (numeral : Numeral) : List UInt8 :=
  numeral.sign.text ++ (numeral.radix.text ++ numeral.digits)

/-- The unbounded integer a numeral denotes. -/
def value (numeral : Numeral) : ℤ :=
  numeral.sign.apply (magnitude numeral.radix.base numeral.digits)

end Numeral

/-! ### `strtoll` -/

/-- `isspace` in the C locale. -/
def isSpace (char : UInt8) : Bool := char = 32 || (9 ≤ char && char ≤ 13)

/-- Takes an optional sign off a text. -/
def takeSign : List UInt8 → Sign × List UInt8
  | 45 :: rest => (.minus, rest)
  | 43 :: rest => (.plus, rest)
  | text => (.none, text)

/-- Determines the base of a text as base 0 prescribes, and drops a hexadecimal prefix. The `0` of
an octal text is left as a digit, and `0x` is a prefix only before a hexadecimal digit. -/
def takeBase : List UInt8 → ℕ × List UInt8
  | 48 :: marker :: digit :: rest =>
    if (marker = 120 ∨ marker = 88) ∧ digitValue digit < 16 then (16, digit :: rest)
    else (8, 48 :: marker :: digit :: rest)
  | 48 :: rest => (8, 48 :: rest)
  | text => (10, text)

/-- Cuts an integer to the range of `long long`. -/
def saturate (value : ℤ) : ℤ := max (-2 ^ 63) (min value (2 ^ 63 - 1))

/-- `strtoll(text, NULL, 0)`: white space, a sign, a prefix that determines the base, and as many
digits as there are; out of range, the nearest `long long`. -/
def strtoll (text : List UInt8) : ℤ :=
  let (sign, unsigned) := takeSign (text.dropWhile isSpace)
  let (base, rest) := takeBase unsigned
  saturate (sign.apply (magnitude base (rest.takeWhile fun char ↦ digitValue char < base)))

namespace Numeral

variable (numeral : Numeral)

/-- A character from `0` on is not white space. -/
theorem isSpace_eq_false {char : UInt8} (hchar : 48 ≤ char) : isSpace char = false := by
  have hle := UInt8.le_iff_toNat_le.mp hchar
  simp only [isSpace, Bool.or_eq_false_iff, decide_eq_false_iff_not, Bool.and_eq_false_iff]
  refine ⟨fun hspace ↦ ?_, Or.inr fun hcontrol ↦ ?_⟩
  · rw [hspace] at hle
    exact absurd hle (by decide)
  · have hle' := UInt8.le_iff_toNat_le.mp hcontrol
    simp at hle hle'
    omega

/-- The part of a numeral after its sign begins with a digit. -/
theorem exists_digit_body :
    ∃ first rest, numeral.radix.text ++ numeral.digits = first :: rest ∧ 48 ≤ first := by
  obtain ⟨sign, radix, digits, hdigits, hallowed⟩ := numeral
  cases radix with
  | decimal =>
    obtain ⟨first, rest, rfl, -⟩ := hallowed
    have hfirst := hdigits first (List.mem_cons_self ..)
    exact ⟨first, rest, rfl, digit_range (lt_trans hfirst (by decide))⟩
  | octal => exact ⟨48, digits, rfl, by decide⟩
  | hexLower => exact ⟨48, 120 :: digits, rfl, by decide⟩
  | hexUpper => exact ⟨48, 88 :: digits, rfl, by decide⟩

/-- A hexadecimal prefix before a digit is dropped. -/
theorem takeBase_hex {marker : UInt8} {digits : List UInt8} (hmarker : marker = 120 ∨ marker = 88)
    (hsome : digits ≠ []) (hdigits : ∀ char ∈ digits, digitValue char < 16) :
    ∃ rest, takeBase (48 :: marker :: digits) = (16, rest) ∧
      (∀ char ∈ rest, digitValue char < 16) ∧ magnitude 16 rest = magnitude 16 digits := by
  cases digits with
  | nil => exact absurd rfl hsome
  | cons digit rest =>
    have hdigit := hdigits digit (List.mem_cons_self ..)
    exact ⟨digit :: rest, if_pos ⟨hmarker, hdigit⟩, hdigits, rfl⟩

/-- `takeBase` finds the base of a numeral, and leaves digits that denote its magnitude. -/
theorem exists_takeBase_body :
    ∃ rest, takeBase (numeral.radix.text ++ numeral.digits) = (numeral.radix.base, rest) ∧
      (∀ char ∈ rest, digitValue char < numeral.radix.base) ∧
      magnitude numeral.radix.base rest = magnitude numeral.radix.base numeral.digits := by
  obtain ⟨sign, radix, digits, hdigits, hallowed⟩ := numeral
  cases radix with
  | decimal =>
    obtain ⟨first, rest, rfl, hfirst⟩ := hallowed
    refine ⟨first :: rest, ?_, hdigits, rfl⟩
    unfold takeBase
    split
    · next heq => exact absurd (List.cons.inj heq).1 hfirst
    · next heq => exact absurd (List.cons.inj heq).1 hfirst
    · rfl
  | octal =>
    have hzero : digitValue 48 < 8 := by decide
    refine ⟨48 :: digits, ?_, List.forall_mem_cons.mpr ⟨hzero, hdigits⟩, ?_⟩
    · match digits with
      | [] => rfl
      | [digit] => rfl
      | marker :: digit :: rest =>
        have hmarker := hdigits marker (List.mem_cons_self ..)
        refine if_neg fun hhex ↦ ?_
        rcases hhex.1 with rfl | rfl
        · exact absurd hmarker (by decide)
        · exact absurd hmarker (by decide)
    · change magnitude 8 ([48] ++ digits) = magnitude 8 digits
      simp [magnitude, digitValue]
  | hexLower => exact takeBase_hex (Or.inl rfl) hallowed hdigits
  | hexUpper => exact takeBase_hex (Or.inr rfl) hallowed hdigits

/-- On the text of a numeral `strtoll` returns its value, cut to the range of `long long`. -/
theorem strtoll_text : strtoll numeral.text = saturate numeral.value := by
  obtain ⟨first, rest, hbody, hfirst⟩ := numeral.exists_digit_body
  obtain ⟨digits, hbase, hdigits, hmagnitude⟩ := numeral.exists_takeBase_body
  have hsign : takeSign (numeral.text.dropWhile isSpace) =
      (numeral.sign, numeral.radix.text ++ numeral.digits) := by
    rw [text, hbody]
    cases numeral.sign with
    | none =>
      rw [Sign.text, List.nil_append,
        List.dropWhile_cons_of_neg (by simp [isSpace_eq_false hfirst])]
      unfold takeSign
      split
      · next heq => exact absurd hfirst (by rw [(List.cons.inj heq).1]; decide)
      · next heq => exact absurd hfirst (by rw [(List.cons.inj heq).1]; decide)
      · rfl
    | plus => rfl
    | minus => rfl
  have hwhole : (digits.takeWhile fun char ↦ digitValue char < numeral.radix.base) = digits :=
    List.takeWhile_eq_self_iff.mpr (by simpa using hdigits)
  rw [strtoll, hsign]
  dsimp only
  rw [hbase]
  dsimp only
  rw [hwhole, hmagnitude, value]

/-! ### Numerals cut short -/

theorem length_prefix_le : numeral.sign.text.length + numeral.radix.text.length ≤ 3 := by
  cases numeral.sign <;> cases numeral.radix <;> decide

/-- A prefix allows any first part of the digits it allows that is not empty. -/
theorem Radix.Allows.take {radix : Radix} {digits : List UInt8} (hallowed : radix.Allows digits)
    {count : ℕ} (hcount : 0 < count) : radix.Allows (digits.take count) := by
  obtain ⟨rest, rfl⟩ : ∃ rest, count = rest + 1 := ⟨count - 1, by omega⟩
  cases radix with
  | decimal =>
    obtain ⟨first, tail, rfl, hfirst⟩ := hallowed
    exact ⟨first, tail.take rest, rfl, hfirst⟩
  | octal => trivial
  | hexLower => exact fun hnil ↦ (List.take_eq_nil_iff.mp hnil).elim (by simp) hallowed
  | hexUpper => exact fun hnil ↦ (List.take_eq_nil_iff.mp hnil).elim (by simp) hallowed

/-- The numeral formed by the first `limit` characters. -/
def truncate (limit : ℕ) (hlimit : 4 ≤ limit) : Numeral where
  sign := numeral.sign
  radix := numeral.radix
  digits := numeral.digits.take (limit - (numeral.sign.text.length + numeral.radix.text.length))
  digits_lt := fun char hchar ↦ numeral.digits_lt char (List.mem_of_mem_take hchar)
  allowed := by
    have hprefix := numeral.length_prefix_le
    exact Radix.Allows.take numeral.allowed (by omega)

theorem text_truncate {limit : ℕ} (hlimit : 4 ≤ limit) :
    (numeral.truncate limit hlimit).text = numeral.text.take limit := by
  have hprefix := numeral.length_prefix_le
  have hsign : numeral.sign.text.take limit = numeral.sign.text :=
    List.take_of_length_le (by omega)
  have hradix : numeral.radix.text.take (limit - numeral.sign.text.length) = numeral.radix.text :=
    List.take_of_length_le (by omega)
  have hcut : numeral.text.take limit = numeral.sign.text ++ (numeral.radix.text ++
      numeral.digits.take (limit - (numeral.sign.text.length + numeral.radix.text.length))) := by
    rw [text, List.take_append, List.take_append, hsign, hradix, Nat.sub_sub]
  exact hcut.symm

/-- Cutting a numeral that denotes no negative number leaves one that denotes no larger number. -/
theorem value_truncate {limit : ℕ} (hlimit : 4 ≤ limit) (hvalue : 0 ≤ numeral.value) :
    0 ≤ (numeral.truncate limit hlimit).value ∧
      (numeral.truncate limit hlimit).value ≤ numeral.value := by
  have hbase : 0 < numeral.radix.base := by cases numeral.radix <;> decide
  have hle : magnitude numeral.radix.base (numeral.truncate limit hlimit).digits ≤
      magnitude numeral.radix.base numeral.digits := magnitude_take_le hbase _ _
  have htruncate : (numeral.truncate limit hlimit).value = numeral.sign.apply
      (magnitude numeral.radix.base (numeral.truncate limit hlimit).digits) := rfl
  rw [htruncate]
  unfold value at hvalue ⊢
  cases hsign : numeral.sign <;> rw [hsign] at hvalue <;> simp only [Sign.apply] at hvalue ⊢ <;>
    omega

end Numeral

end Bytes
