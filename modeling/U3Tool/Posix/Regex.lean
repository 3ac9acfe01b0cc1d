import Mathlib.Tactic

/-!
# Basic regular expressions, `regcomp` and `regexec`

Basic regular expressions of POSIX in the C locale, as far as they are built of single characters,
the period, bracket expressions and the star; `regcomp` compiles no other. A compiled expression is
a list of pieces, each a set of characters that is matched once or any number of times.

Inside a bracket expression a character class is written with brackets of its own, as in
`[[:digit:]]`; the characters of `[:digit:]` alone are a bracket expression that lists a colon and
five letters.

`Matches` says which texts an expression matches. `regexec` searches a text for a match anywhere in
it (`regexec_iff`), as `regexec` does for an expression without anchors.
-/

set_option autoImplicit false
set_option relaxedAutoImplicit false

namespace Regex

/-! ### Expressions -/

/-- A set of characters, matched once or, with a star, any number of times. -/
structure Piece where
  members : List UInt8
  star : Bool
  deriving DecidableEq

/-- The texts an expression matches. -/
inductive Matches : List Piece → List UInt8 → Prop
  | nil : Matches [] []
  | once {members : List UInt8} {pieces : List Piece} {char : UInt8} {text : List UInt8}
      (hchar : char ∈ members) (hrest : Matches pieces text) :
      Matches (⟨members, false⟩ :: pieces) (char :: text)
  | stop {members : List UInt8} {pieces : List Piece} {text : List UInt8}
      (hrest : Matches pieces text) : Matches (⟨members, true⟩ :: pieces) text
  | more {members : List UInt8} {pieces : List Piece} {char : UInt8} {text : List UInt8}
      (hchar : char ∈ members) (hrest : Matches (⟨members, true⟩ :: pieces) text) :
      Matches (⟨members, true⟩ :: pieces) (char :: text)

/-- A text an expression matches has the character of every piece that is one character. -/
theorem Matches.mem_of_once {pieces : List Piece} {text : List UInt8}
    (hmatches : Matches pieces text) {char : UInt8} (hpiece : ⟨[char], false⟩ ∈ pieces) : char ∈ text := by
  induction hmatches with
  | nil => exact absurd hpiece List.not_mem_nil
  | once hchar _ ih =>
    rcases List.mem_cons.mp hpiece with hhead | hlater
    · obtain ⟨rfl, -⟩ := Piece.mk.inj hhead
      rw [List.mem_singleton.mp hchar]
      exact List.mem_cons_self ..
    · exact List.mem_cons_of_mem _ (ih hlater)
  | stop _ ih =>
    rcases List.mem_cons.mp hpiece with hhead | hlater
    · exact absurd (Piece.mk.inj hhead).2 Bool.false_ne_true
    · exact ih hlater
  | more _ _ ih => exact List.mem_cons_of_mem _ (ih hpiece)

/-! ### Compiling -/

/-- The characters from one to another. -/
def range (first last : UInt8) : List UInt8 :=
  (List.range 256).filterMap fun code ↦
    if first.toNat ≤ code ∧ code ≤ last.toNat then some (UInt8.ofNat code) else none

/-- The character classes of the C locale, under the characters of their names. -/
def classes : List (String × List UInt8) :=
  [("alnum", range 48 57 ++ range 65 90 ++ range 97 122), ("alpha", range 65 90 ++ range 97 122),
    ("blank", [9, 32]), ("cntrl", range 0 31 ++ [127]), ("digit", range 48 57),
    ("graph", range 33 126), ("lower", range 97 122), ("print", range 32 126),
    ("punct", range 33 47 ++ range 58 64 ++ range 91 96 ++ range 123 126),
    ("space", range 9 13 ++ [32]), ("upper", range 65 90),
    ("xdigit", range 48 57 ++ range 65 70 ++ range 97 102)]

/-- The members of the class of a name. -/
def classMembers (name : List UInt8) : Option (List UInt8) :=
  (classes.find? fun entry ↦ entry.1.toList.map (fun char ↦ UInt8.ofNat char.toNat) = name).map
    Prod.snd

/-- The name of a class, up to `:]`, and what follows. -/
def takeName : List UInt8 → Option (List UInt8 × List UInt8)
  | 58 :: 93 :: rest => some ([], rest)
  | char :: rest => (takeName rest).map fun found ↦ (char :: found.1, found.2)
  | [] => none

/-- The items of a bracket expression, up to its closing bracket, and what follows. -/
def bracketItems : (fuel : ℕ) → List UInt8 → Option (List UInt8 × List UInt8)
  | 0, _ => none
  | _ + 1, [] => none
  | _ + 1, 93 :: rest => some ([], rest)
  | fuel + 1, 91 :: 58 :: rest => do
    let (name, rest) ← takeName rest
    let members ← classMembers name
    let (items, rest) ← bracketItems fuel rest
    some (members ++ items, rest)
  | fuel + 1, first :: 45 :: last :: rest =>
    if last = 93 then do
      let (items, rest) ← bracketItems fuel (45 :: last :: rest)
      some (first :: items, rest)
    else do
      let (items, rest) ← bracketItems fuel rest
      some (range first last ++ items, rest)
  | fuel + 1, char :: rest => do
    let (items, rest) ← bracketItems fuel rest
    some (char :: items, rest)

/-- A bracket expression after its opening bracket: a closing bracket that comes first is an item,
and a circumflex that comes first complements the list. -/
def bracket (fuel : ℕ) : List UInt8 → Option (List UInt8 × List UInt8)
  | 94 :: 93 :: rest => do
    let (items, rest) ← bracketItems fuel rest
    some ((range 0 255).filter (· ∉ 93 :: items), rest)
  | 94 :: rest => do
    let (items, rest) ← bracketItems fuel rest
    some ((range 0 255).filter (· ∉ items), rest)
  | 93 :: rest => do
    let (items, rest) ← bracketItems fuel rest
    some (93 :: items, rest)
  | rest => bracketItems fuel rest

/-- Adds a piece, and takes the star that may follow it. -/
def addPiece (members : List UInt8) (rest : List UInt8)
    (compile : List UInt8 → Option (List Piece)) : Option (List Piece) :=
  match rest with
  | 42 :: rest => (compile rest).map (⟨members, true⟩ :: ·)
  | rest => (compile rest).map (⟨members, false⟩ :: ·)

/-- The pieces of an expression; a star without a piece before it is a character. -/
def compilePieces : (fuel : ℕ) → List UInt8 → Option (List Piece)
  | _, [] => some []
  | 0, _ :: _ => none
  | fuel + 1, char :: rest =>
    -- an escape, or an anchor
    if char = 92 ∨ char = 94 ∨ char = 36 then none
    else if char = 91 then do
      let (members, rest) ← bracket fuel rest
      addPiece members rest (compilePieces fuel)
    else if char = 46 then addPiece (range 1 255) rest (compilePieces fuel)
    else addPiece [char] rest (compilePieces fuel)

/-- `regcomp` without flags. -/
def regcomp (pattern : String) : Option (List Piece) :=
  compilePieces pattern.length (pattern.toList.map fun char ↦ UInt8.ofNat char.toNat)

example : regcomp "[[:digit:]]*:" = some [⟨range 48 57, true⟩, ⟨[58], false⟩] := by decide +kernel

example : regcomp "[:digit:]" = some [⟨[58, 100, 105, 103, 105, 116, 58], false⟩] := by
  decide +kernel

/-! ### Matching -/

/-- Any number of characters of a set, and then what a continuation accepts. -/
def matchStar (members : List UInt8) (next : List UInt8 → Bool) : List UInt8 → Bool
  | [] => next []
  | char :: rest =>
    next (char :: rest) || (decide (char ∈ members) && matchStar members next rest)

/-- One character of a set, and then what a continuation accepts. -/
def matchOnce (members : List UInt8) (next : List UInt8 → Bool) : List UInt8 → Bool
  | [] => false
  | char :: rest => decide (char ∈ members) && next rest

/-- Whether a text begins with a match. -/
def matchHere : List Piece → List UInt8 → Bool
  | [] => fun _ ↦ true
  | piece :: rest =>
    if piece.star then matchStar piece.members (matchHere rest)
    else matchOnce piece.members (matchHere rest)

/-- `regexec` of an expression without anchors: a text has a match somewhere. -/
def regexec (pieces : List Piece) (text : List UInt8) : Bool := text.tails.any (matchHere pieces)

/-- What a starred set and a continuation match at the start of a text. -/
theorem matchStar_iff {members : List UInt8} {pieces : List Piece} {next : List UInt8 → Bool}
    (hnext : ∀ text, next text = true ↔ ∃ found, found <+: text ∧ Matches pieces found)
    (text : List UInt8) :
    matchStar members next text = true ↔
      ∃ found, found <+: text ∧ Matches (⟨members, true⟩ :: pieces) found := by
  induction text with
  | nil =>
    rw [matchStar, hnext]
    constructor
    · rintro ⟨found, hfound, hmatches⟩
      exact ⟨found, hfound, .stop hmatches⟩
    · rintro ⟨found, hfound, hmatches⟩
      obtain rfl := List.prefix_nil.mp hfound
      cases hmatches with
      | stop hrest => exact ⟨[], List.prefix_rfl, hrest⟩
  | cons char text ih =>
    rw [matchStar, Bool.or_eq_true, Bool.and_eq_true, decide_eq_true_iff, hnext, ih]
    constructor
    · rintro (⟨found, hfound, hmatches⟩ | ⟨hchar, found, hfound, hmatches⟩)
      · exact ⟨found, hfound, .stop hmatches⟩
      · exact ⟨char :: found, List.cons_prefix_cons.mpr ⟨rfl, hfound⟩, .more hchar hmatches⟩
    · rintro ⟨found, hfound, hmatches⟩
      cases hmatches with
      | stop hrest => exact Or.inl ⟨found, hfound, hrest⟩
      | more hchar hrest =>
        obtain ⟨rfl, hlater⟩ := List.cons_prefix_cons.mp hfound
        exact Or.inr ⟨hchar, _, hlater, hrest⟩

/-- What a set and a continuation match at the start of a text. -/
theorem matchOnce_iff {members : List UInt8} {pieces : List Piece} {next : List UInt8 → Bool}
    (hnext : ∀ text, next text = true ↔ ∃ found, found <+: text ∧ Matches pieces found)
    (text : List UInt8) :
    matchOnce members next text = true ↔
      ∃ found, found <+: text ∧ Matches (⟨members, false⟩ :: pieces) found := by
  cases text with
  | nil =>
    refine ⟨fun hcontra ↦ absurd hcontra (by simp [matchOnce]), ?_⟩
    rintro ⟨found, hfound, hmatches⟩
    obtain rfl := List.prefix_nil.mp hfound
    cases hmatches
  | cons char text =>
    rw [matchOnce, Bool.and_eq_true, decide_eq_true_iff, hnext]
    constructor
    · rintro ⟨hchar, found, hfound, hmatches⟩
      exact ⟨char :: found, List.cons_prefix_cons.mpr ⟨rfl, hfound⟩, .once hchar hmatches⟩
    · rintro ⟨found, hfound, hmatches⟩
      cases hmatches with
      | once hchar hrest =>
        obtain ⟨rfl, hlater⟩ := List.cons_prefix_cons.mp hfound
        exact ⟨hchar, _, hlater, hrest⟩

/-- `matchHere` finds a match at the start of a text if there is one. -/
theorem matchHere_iff (pieces : List Piece) (text : List UInt8) :
    matchHere pieces text = true ↔ ∃ found, found <+: text ∧ Matches pieces found := by
  induction pieces generalizing text with
  | nil => exact ⟨fun _ ↦ ⟨[], List.nil_prefix, .nil⟩, fun _ ↦ rfl⟩
  | cons piece rest ih =>
    obtain ⟨members, star⟩ := piece
    cases star with
    | true => exact matchStar_iff ih text
    | false => exact matchOnce_iff ih text

/-- `regexec` finds a match in a text if there is one. -/
theorem regexec_iff (pieces : List Piece) (text : List UInt8) :
    regexec pieces text = true ↔ ∃ found, found <:+: text ∧ Matches pieces found := by
  rw [regexec, List.any_eq_true]
  constructor
  · rintro ⟨suffix, hsuffix, hmatch⟩
    obtain ⟨found, hfound, hmatches⟩ := (matchHere_iff pieces suffix).mp hmatch
    exact ⟨found, hfound.isInfix.trans ((List.mem_tails _ _).mp hsuffix).isInfix, hmatches⟩
  · rintro ⟨found, hfound, hmatches⟩
    obtain ⟨suffix, hprefix, hsuffix⟩ := List.infix_iff_prefix_suffix.mp hfound
    exact ⟨suffix, (List.mem_tails _ _).mpr hsuffix,
      (matchHere_iff pieces suffix).mpr ⟨found, hprefix, hmatches⟩⟩

end Regex
