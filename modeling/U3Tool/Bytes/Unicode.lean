import U3Tool.Bytes.Buffer

/-!
# Encodings of Unicode texts

A text is a list of characters, each a Unicode scalar value. `utf8` and `utf16le` are its encodings
as byte strings; `widen` puts a zero byte behind every byte of a string.

Widening the UTF-8 encoding of a text gives its UTF-16LE encoding when the text is ASCII
(`utf16le_of_ascii`). No other text has this chance: a UTF-16LE encoding with a zero at every odd
position has only characters below 256 (`lt_of_oddZero_utf16le`), and among those the ASCII
characters alone take as many bytes in UTF-8 as they take units in UTF-16 (`ascii_of_length_utf8`).
-/

set_option autoImplicit false
set_option relaxedAutoImplicit false

namespace Bytes

variable {text : List Char}

/-! ### Encodings -/

/-- The UTF-8 encoding of a text. -/
def utf8 (text : List Char) : List UInt8 := text.flatMap String.utf8EncodeChar

/-- The UTF-16 units of a character: one, or a surrogate pair. -/
def utf16Units (char : Char) : List UInt16 :=
  if char.toNat < 0x10000 then [UInt16.ofNat char.toNat]
  else
    [UInt16.ofNat (0xD800 + (char.toNat - 0x10000) / 0x400),
      UInt16.ofNat (0xDC00 + (char.toNat - 0x10000) % 0x400)]

/-- The UTF-16LE encoding of a text. -/
def utf16le (text : List Char) : List UInt8 :=
  (text.flatMap utf16Units).flatMap fun unit ↦ leBytes 2 unit.toNat

/-- Puts a zero byte behind every byte. -/
def widen (bytes : List UInt8) : List UInt8 := bytes.flatMap fun byte ↦ [byte, 0]

/-- The bytes at odd positions are zero. -/
def OddZero (bytes : List UInt8) : Prop := ∀ index, bytes.getD (2 * index + 1) 0 = 0

@[simp] theorem utf8_cons (char : Char) (text : List Char) :
    utf8 (char :: text) = String.utf8EncodeChar char ++ utf8 text := rfl

theorem utf16le_cons (char : Char) (text : List Char) :
    utf16le (char :: text) =
      ((utf16Units char).flatMap fun unit ↦ leBytes 2 unit.toNat) ++ utf16le text := by
  simp [utf16le, List.flatMap_append]

/-- A character of the basic plane is one unit of two bytes. -/
theorem utf16le_cons_of_lt {char : Char} (hchar : char.toNat < 0x10000) (text : List Char) :
    utf16le (char :: text) =
      UInt8.ofNat char.toNat :: UInt8.ofNat (char.toNat / 256) :: utf16le text := by
  rw [utf16le_cons, utf16Units, if_pos hchar]
  have hunit : (UInt16.ofNat char.toNat).toNat = char.toNat := by
    rw [UInt16.toNat_ofNat']
    exact Nat.mod_eq_of_lt hchar
  simp [leBytes, hunit]

@[simp] theorem widen_cons (byte : UInt8) (bytes : List UInt8) :
    widen (byte :: bytes) = byte :: 0 :: widen bytes := rfl

@[simp] theorem length_widen (bytes : List UInt8) : (widen bytes).length = 2 * bytes.length := by
  induction bytes with
  | nil => rfl
  | cons byte rest ih =>
    simp only [widen_cons, List.length_cons, ih]
    omega

theorem widen_append (first second : List UInt8) :
    widen (first ++ second) = widen first ++ widen second :=
  List.flatMap_append

/-- The bytes of a widened string: those of the string at even positions, zeros at odd ones. -/
theorem getElem?_widen (bytes : List UInt8) (index : ℕ) :
    (widen bytes)[index]? =
      if index % 2 = 0 then bytes[index / 2]? else bytes[index / 2]?.map fun _ ↦ 0 := by
  induction bytes generalizing index with
  | nil => simp
  | cons byte rest ih =>
    match index with
    | 0 => rfl
    | 1 => rfl
    | index + 2 =>
      have hmod : (index + 2) % 2 = index % 2 := by omega
      have hdiv : (index + 2) / 2 = index / 2 + 1 := by omega
      rw [widen_cons, List.getElem?_cons_succ, List.getElem?_cons_succ, ih, hmod, hdiv,
        List.getElem?_cons_succ]

theorem oddZero_cons_cons {first second : UInt8} {bytes : List UInt8} :
    OddZero (first :: second :: bytes) ↔ second = 0 ∧ OddZero bytes := by
  constructor
  · intro hzero
    exact ⟨hzero 0, fun index ↦ hzero (index + 1)⟩
  · rintro ⟨hsecond, hrest⟩ index
    cases index with
    | zero => exact hsecond
    | succ index => exact hrest index

theorem OddZero.take {bytes : List UInt8} (hzero : OddZero bytes) (count : ℕ) :
    OddZero (bytes.take count) := fun index ↦ by
  rw [List.getD_eq_getElem?_getD, List.getElem?_take]
  split_ifs
  · rw [← List.getD_eq_getElem?_getD]
    exact hzero index
  · rfl

theorem OddZero.of_append {first second : List UInt8} (hzero : OddZero (first ++ second)) :
    OddZero first := fun index ↦ by
  rw [List.getD_eq_getElem?_getD]
  by_cases hinside : 2 * index + 1 < first.length
  · rw [← List.getElem?_append_left hinside, ← List.getD_eq_getElem?_getD]
    exact hzero index
  · rw [List.getElem?_eq_none (by omega), Option.getD_none]

/-! ### Sizes -/

/-- A character below 128 is one byte in UTF-8. -/
theorem utf8EncodeChar_of_lt {char : Char} (hchar : char.toNat < 128) :
    String.utf8EncodeChar char = [UInt8.ofNat char.toNat] := by
  have hle : char.val.toNat ≤ 0x7f := Nat.le_of_lt_succ hchar
  simp only [String.utf8EncodeChar, if_pos hle]
  rfl

theorem ofNat_ne_zero {n : ℕ} (hn : n % 256 ≠ 0) : (0 : UInt8) ≠ UInt8.ofNat n := fun hzero ↦
  hn ((UInt8.toNat_ofNat' ..).symm.trans (congrArg UInt8.toNat hzero).symm)

/-- No character but NUL has a zero byte in its UTF-8 encoding. -/
theorem zero_notMem_utf8EncodeChar {char : Char} (hchar : char.toNat ≠ 0) :
    (0 : UInt8) ∉ String.utf8EncodeChar char := by
  have hnonzero : char.val.toNat ≠ 0 := hchar
  unfold String.utf8EncodeChar
  dsimp only
  split_ifs with hone htwo hthree
  · simp only [List.mem_cons, List.not_mem_nil, or_false]
    exact ofNat_ne_zero (by omega)
  · simp only [List.mem_cons, List.not_mem_nil, or_false, not_or]
    exact ⟨ofNat_ne_zero (by omega), ofNat_ne_zero (by omega)⟩
  · simp only [List.mem_cons, List.not_mem_nil, or_false, not_or]
    exact ⟨ofNat_ne_zero (by omega), ofNat_ne_zero (by omega), ofNat_ne_zero (by omega)⟩
  · simp only [List.mem_cons, List.not_mem_nil, or_false, not_or]
    exact ⟨ofNat_ne_zero (by omega), ofNat_ne_zero (by omega), ofNat_ne_zero (by omega),
      ofNat_ne_zero (by omega)⟩

/-- A text is no longer than its UTF-8 encoding. -/
theorem length_le_length_utf8 (text : List Char) : text.length ≤ (utf8 text).length := by
  induction text with
  | nil => exact le_rfl
  | cons char text ih =>
    have hsize := char.utf8Size_pos
    simp only [utf8_cons, List.length_append, String.length_utf8EncodeChar, List.length_cons]
    omega

/-- Only an ASCII text is as long as its UTF-8 encoding. -/
theorem ascii_of_length_utf8 (hlength : (utf8 text).length = text.length) :
    ∀ char ∈ text, char.toNat < 128 := by
  induction text with
  | nil => exact List.forall_mem_nil _
  | cons char text ih =>
    have hsize := char.utf8Size_pos
    have hrest := length_le_length_utf8 text
    simp only [utf8_cons, List.length_append, String.length_utf8EncodeChar,
      List.length_cons] at hlength
    refine List.forall_mem_cons.mpr ⟨?_, ih (by omega)⟩
    have hone : char.val ≤ 127 := Char.utf8Size_eq_one_iff.mp (by omega)
    exact Nat.lt_succ_of_le (UInt32.le_iff_toNat_le.mp hone)

/-- Characters below 256 take at most two bytes each in UTF-8. -/
theorem length_utf8_le (htext : ∀ char ∈ text, char.toNat < 256) :
    (utf8 text).length ≤ 2 * text.length := by
  induction text with
  | nil => exact le_rfl
  | cons char text ih =>
    obtain ⟨hchar, hrest⟩ := List.forall_mem_cons.mp htext
    have hsize : char.utf8Size ≤ 2 := by
      by_contra hlarge
      have hthree : char.utf8Size = 3 ∨ char.utf8Size = 4 := by
        have := char.utf8Size_le_four
        omega
      rcases hthree with hthree | hfour
      · have hval := UInt32.lt_iff_toNat_lt.mp (Char.utf8Size_eq_three_iff.mp hthree).1
        exact absurd (hval.trans hchar) (by decide)
      · have hval := UInt32.lt_iff_toNat_lt.mp (Char.utf8Size_eq_four_iff.mp hfour)
        exact absurd (hval.trans hchar) (by decide)
    have := ih hrest
    simp only [utf8_cons, List.length_append, String.length_utf8EncodeChar, List.length_cons]
    omega

/-! ### Widening -/

/-- The UTF-16LE encoding of an ASCII text is its UTF-8 encoding, widened. -/
theorem utf16le_of_ascii (htext : ∀ char ∈ text, char.toNat < 128) :
    utf16le text = widen (utf8 text) := by
  induction text with
  | nil => rfl
  | cons char text ih =>
    obtain ⟨hchar, hrest⟩ := List.forall_mem_cons.mp htext
    have hhigh : char.toNat / 256 = 0 := by omega
    rw [utf16le_cons_of_lt (by omega), ih hrest, utf8_cons, utf8EncodeChar_of_lt hchar, hhigh]
    rfl

/-- An ASCII text is as long as its UTF-8 encoding. -/
theorem length_utf8_of_ascii (htext : ∀ char ∈ text, char.toNat < 128) :
    (utf8 text).length = text.length := by
  induction text with
  | nil => rfl
  | cons char text ih =>
    obtain ⟨hchar, hrest⟩ := List.forall_mem_cons.mp htext
    rw [utf8_cons, utf8EncodeChar_of_lt hchar, List.singleton_append, List.length_cons, ih hrest,
      List.length_cons]

/-- The length of the UTF-16LE encoding of a text of the basic plane. -/
theorem length_utf16le (htext : ∀ char ∈ text, char.toNat < 0x10000) :
    (utf16le text).length = 2 * text.length := by
  induction text with
  | nil => rfl
  | cons char text ih =>
    obtain ⟨hchar, hrest⟩ := List.forall_mem_cons.mp htext
    rw [utf16le_cons_of_lt hchar, List.length_cons, List.length_cons, ih hrest, List.length_cons]
    omega

/-- A UTF-16LE encoding with zeros at the odd positions has no character from 256 on: there the high
byte of the first unit is not zero. -/
theorem lt_of_oddZero_utf16le (hzero : OddZero (utf16le text)) :
    ∀ char ∈ text, char.toNat < 256 := by
  induction text with
  | nil => exact List.forall_mem_nil _
  | cons char text ih =>
    by_cases hbasic : char.toNat < 0x10000
    · rw [utf16le_cons_of_lt hbasic, oddZero_cons_cons] at hzero
      refine List.forall_mem_cons.mpr ⟨?_, ih hzero.2⟩
      by_contra hlarge
      exact ofNat_ne_zero (by omega) hzero.1.symm
    · -- a surrogate pair begins with a unit from 0xD800 on
      have hrange : char.toNat < 0x110000 := by
        rcases char.valid with hlow | ⟨-, hhigh⟩
        · exact lt_trans hlow (by decide)
        · exact hhigh
      have hunits : ∃ rest, utf16le (char :: text) =
          UInt8.ofNat (0xD800 + (char.toNat - 0x10000) / 0x400) ::
            UInt8.ofNat ((0xD800 + (char.toNat - 0x10000) / 0x400) / 256) :: rest := by
        have hunit : (UInt16.ofNat (0xD800 + (char.toNat - 0x10000) / 0x400)).toNat =
            0xD800 + (char.toNat - 0x10000) / 0x400 := by
          rw [UInt16.toNat_ofNat']
          exact Nat.mod_eq_of_lt (by omega)
        rw [utf16le_cons, utf16Units, if_neg hbasic, List.flatMap_cons, hunit]
        exact ⟨_, rfl⟩
      obtain ⟨rest, hrest⟩ := hunits
      rw [hrest, oddZero_cons_cons] at hzero
      exact absurd hzero.1.symm (ofNat_ne_zero (by omega))

end Bytes
