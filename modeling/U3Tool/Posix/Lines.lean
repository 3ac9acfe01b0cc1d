import Mathlib.Data.List.ReduceOption
import Mathlib.Data.Stream.Init
import Mathlib.Tactic

/-!
# Line input

An input is what successive reads give: bytes, and nothing at the end of the input (`Input`). A line
is read up to a newline or the end of the input, both of which are read with it (`NextLine`); which
bytes count as newlines is a parameter. A program that reads lines until it has what it wants is an
automaton over the texts of the lines, and `Session` relates the input to the lines it reads, the
value it stops with and the input it leaves.

`nextLine_of_first` finds the next line by position, and `session_ofList_iff` says when a session over
a finite input comes to an end: when the automaton stops within the pieces that the newlines cut the
input into.
-/

set_option autoImplicit false
set_option relaxedAutoImplicit false

namespace Lines

variable {α β σ : Type}

/-! ### Lines -/

/-- What successive reads give: bytes, and nothing at the end of the input. -/
abbrev Input (α : Type) := Stream' (Option α)

/-- A reply that ends a line: a newline, or the end of the input. -/
def Ends (newline : α → Prop) (reply : Option α) : Prop := ∀ byte ∈ reply, newline byte

@[simp] theorem ends_none (newline : α → Prop) : Ends newline none := by simp [Ends]

@[simp] theorem ends_some {newline : α → Prop} {byte : α} :
    Ends newline (some byte) ↔ newline byte := by simp [Ends]

instance (newline : α → Prop) [DecidablePred newline] : DecidablePred (Ends newline)
  | none => isTrue (ends_none newline)
  | some byte => decidable_of_iff (newline byte) ends_some.symm

/-- A line: its text, and the newline or the end of the input that closes it. -/
structure Line (α : Type) where
  text : List α
  closing : Option α
  deriving DecidableEq

/-- The replies a line is made of. -/
def Line.replies (line : Line α) : List (Option α) := line.text.map some ++ [line.closing]

/-- The bytes of a line, with its newline if it has one. -/
def Line.bytes (line : Line α) : List α := line.text ++ line.closing.toList

/-- The next line of an input, and the input after it. -/
inductive NextLine (newline : α → Prop) : Input α → Line α → Input α → Prop
  | close {input : Input α} (hends : Ends newline input.head) :
      NextLine newline input ⟨[], input.head⟩ input.tail
  | byte {input rest : Input α} {first : α} {text : List α} {closing : Option α}
      (hfirst : input.head = some first) (hinside : ¬ newline first)
      (hrest : NextLine newline input.tail ⟨text, closing⟩ rest) :
      NextLine newline input ⟨first :: text, closing⟩ rest

namespace NextLine

variable {newline : α → Prop} {input rest rest' : Input α} {line line' : Line α}

/-- An input has one next line. -/
theorem unique (hline : NextLine newline input line rest)
    (hline' : NextLine newline input line' rest') : line = line' ∧ rest = rest' := by
  induction hline generalizing line' with
  | close hends =>
    cases hline' with
    | close _ => exact ⟨rfl, rfl⟩
    | byte hfirst hinside _ => exact absurd (by simpa [hfirst] using hends) hinside
  | byte hfirst hinside _ ih =>
    cases hline' with
    | close hends => exact absurd (by simpa [hfirst] using hends) hinside
    | byte hfirst' _ hrest' =>
      obtain rfl := Option.some.inj (hfirst.symm.trans hfirst')
      obtain ⟨hsame, rfl⟩ := ih hrest'
      cases hsame
      exact ⟨rfl, rfl⟩

/-- A line is read with one reply for each byte and one for its end. -/
theorem take_eq (hline : NextLine newline input line rest) :
    input.take (line.text.length + 1) = line.replies := by
  induction hline with
  | close hends => rfl
  | byte hfirst _ _ ih =>
    rw [List.length_cons, Stream'.take_succ, ih, hfirst]
    rfl

/-- What is left of the input after a line. -/
theorem rest_eq (hline : NextLine newline input line rest) :
    rest = input.drop (line.text.length + 1) := by
  induction hline with
  | close hends => rfl
  | byte _ _ _ ih => exact ih

theorem ends_closing (hline : NextLine newline input line rest) : Ends newline line.closing := by
  induction hline with
  | close hends => exact hends
  | byte _ _ _ ih => exact ih

/-- No byte of the text of a line is a newline. -/
theorem not_newline (hline : NextLine newline input line rest) :
    ∀ byte ∈ line.text, ¬ newline byte := by
  induction hline with
  | close _ => simp
  | byte _ hinside _ ih => exact List.forall_mem_cons.mpr ⟨hinside, ih⟩

/-- The bytes of the text of a line, by position. -/
theorem get_text (hline : NextLine newline input line rest) {index : ℕ}
    (hindex : index < line.text.length) : input.get index = some line.text[index] := by
  induction hline generalizing index with
  | close _ => simp at hindex
  | byte hfirst _ _ ih =>
    cases index with
    | zero => exact hfirst
    | succ index => exact ih (by simpa using hindex)

/-- What closes a line, by position. -/
theorem get_closing (hline : NextLine newline input line rest) :
    input.get line.text.length = line.closing := by
  induction hline with
  | close _ => rfl
  | byte _ _ _ ih => exact ih

/-- A line ends with its first reply that ends a line. -/
theorem not_ends (hline : NextLine newline input line rest) {index : ℕ}
    (hindex : index < line.text.length) : ¬ Ends newline (input.get index) := by
  rw [hline.get_text hindex, ends_some]
  exact hline.not_newline _ (List.getElem_mem hindex)

end NextLine

/-- The first reply that ends a line gives the next line. -/
theorem nextLine_of_first {newline : α → Prop} {input : Input α} {length : ℕ}
    (hends : Ends newline (input.get length))
    (hinside : ∀ index < length, ¬ Ends newline (input.get index)) :
    ∃ line, NextLine newline input line (input.drop (length + 1)) ∧ line.text.length = length := by
  induction length generalizing input with
  | zero => exact ⟨_, .close hends, rfl⟩
  | succ length ih =>
    have htail (index : ℕ) (hindex : index < length) : ¬ Ends newline (input.tail.get index) :=
      hinside (index + 1) (by omega)
    obtain ⟨line, hline, rfl⟩ := ih hends htail
    have hfirst := hinside 0 (by omega)
    cases hhead : input.get 0 with
    | none => exact absurd (by rw [hhead]; exact ends_none newline) hfirst
    | some first =>
      rw [hhead, ends_some] at hfirst
      exact ⟨⟨first :: line.text, line.closing⟩, .byte hhead hfirst hline, rfl⟩

/-- An input has a next line when some reply ends a line. -/
theorem exists_nextLine_iff {newline : α → Prop} {input : Input α} :
    (∃ line rest, NextLine newline input line rest) ↔ ∃ index, Ends newline (input.get index) := by
  classical
  constructor
  · rintro ⟨line, rest, hline⟩
    exact ⟨_, hline.get_closing ▸ hline.ends_closing⟩
  · intro hexists
    obtain ⟨line, hline, -⟩ := nextLine_of_first (Nat.find_spec hexists)
      fun _ hindex ↦ Nat.find_min hexists hindex
    exact ⟨line, _, hline⟩

/-- The bytes among the replies that lines are made of. -/
theorem reduceOption_flatMap_replies (lines : List (Line α)) :
    (lines.flatMap Line.replies).reduceOption = lines.flatMap Line.bytes := by
  induction lines with
  | nil => rfl
  | cons line lines ih =>
    rw [List.flatMap_cons, List.flatMap_cons, List.reduceOption_append, ih, Line.replies,
      List.reduceOption_append, List.reduceOption_singleton, Line.bytes]
    congr 2
    induction line.text with
    | nil => rfl
    | cons byte text ih => exact congrArg (byte :: ·) ih

/-- Consecutive lines of an input, and the input after them. -/
inductive NextLines (newline : α → Prop) : Input α → List (Line α) → Input α → Prop
  | nil (input : Input α) : NextLines newline input [] input
  | cons {input middle rest : Input α} {line : Line α} {lines : List (Line α)}
      (hline : NextLine newline input line middle) (hlines : NextLines newline middle lines rest) :
      NextLines newline input (line :: lines) rest

/-! ### Sessions -/

/-- An automaton reads lines, each of which moves it to a new state or stops it with a value:
the lines of an input it reads from a state, the value it stops with and the input it leaves. -/
inductive Session (newline : α → Prop) (step : σ → List α → σ ⊕ β) :
    Input α → σ → List (Line α) → β → Input α → Prop
  | stop {input rest : Input α} {state : σ} {line : Line α} {value : β}
      (hline : NextLine newline input line rest) (hstep : step state line.text = .inr value) :
      Session newline step input state [line] value rest
  | move {input middle rest : Input α} {state next : σ} {line : Line α} {lines : List (Line α)}
      {value : β} (hline : NextLine newline input line middle)
      (hstep : step state line.text = .inl next)
      (hmore : Session newline step middle next lines value rest) :
      Session newline step input state (line :: lines) value rest

/-- The automaton of a program that reads lines until one gives it an answer. -/
def untilSome (answer : List α → Option β) : Unit → List α → Unit ⊕ β
  | (), text =>
    match answer text with
    | some value => .inr value
    | none => .inl ()

@[simp] theorem untilSome_eq_inr {answer : List α → Option β} {text : List α} {value : β} :
    untilSome answer () text = .inr value ↔ answer text = some value := by
  cases hanswer : answer text <;> simp [untilSome, hanswer]

@[simp] theorem untilSome_eq_inl {answer : List α → Option β} {text : List α} {state : Unit} :
    untilSome answer () text = .inl state ↔ answer text = none := by
  cases hanswer : answer text <;> simp [untilSome, hanswer]

namespace Session

variable {newline : α → Prop} {step : σ → List α → σ ⊕ β} {input rest : Input α} {state : σ}
  {lines : List (Line α)} {value : β}

/-- The lines of a session are consecutive lines of its input. -/
theorem nextLines (hsession : Session newline step input state lines value rest) :
    NextLines newline input lines rest := by
  induction hsession with
  | stop hline _ => exact .cons hline (.nil _)
  | move hline _ _ ih => exact .cons hline ih

end Session

/-! ### Positions -/

/-- A line starts at a position: at the beginning, or after a reply that ends a line. -/
def Starts (newline : α → Prop) (input : Input α) (position : ℕ) : Prop :=
  ∀ before, position = before + 1 → Ends newline (input.get before)

/-- The line from a position on ends with the reply at another. -/
structure EndsAt (newline : α → Prop) (input : Input α) (start close : ℕ) : Prop where
  le : start ≤ close
  ends : Ends newline (input.get close)
  inside : ∀ index, start ≤ index → index < close → ¬ Ends newline (input.get index)

/-- A line starts at a position, and no line before it gives an answer by its first reply. -/
structure Reaches (newline : α → Prop) (answer : Option α → Option β) (input : Input α)
    (start : ℕ) : Prop where
  starts : Starts newline input start
  silent : ∀ before < start, Starts newline input before → answer (input.get before) = none

/-- The first line whose first reply gives an answer starts at a position. -/
structure FirstAnswer (newline : α → Prop) (answer : Option α → Option β) (input : Input α)
    (start : ℕ) : Prop extends Reaches newline answer input start where
  answers : (answer (input.get start)).isSome

namespace FirstAnswer

variable {newline : α → Prop} {answer : Option α → Option β} {input : Input α}
  {start start' : ℕ}

/-- There is one first answer. -/
theorem unique (hfirst : FirstAnswer newline answer input start)
    (hfirst' : FirstAnswer newline answer input start') : start = start' := by
  rcases lt_trichotomy start start' with hlt | heq | hgt
  · exact absurd hfirst.answers (by simp [hfirst'.silent start hlt hfirst.starts])
  · exact heq
  · exact absurd hfirst'.answers (by simp [hfirst.silent start' hgt hfirst'.starts])

/-- A line that gives an answer is the first one or comes after it. -/
theorem exists_le (hstarts : Starts newline input start)
    (hanswers : (answer (input.get start)).isSome) :
    ∃ first ≤ start, FirstAnswer newline answer input first := by
  classical
  have hexists : ∃ first, Starts newline input first ∧ (answer (input.get first)).isSome :=
    ⟨start, hstarts, hanswers⟩
  obtain ⟨hfirst, hsome⟩ := Nat.find_spec hexists
  refine ⟨Nat.find hexists, Nat.find_min' hexists ⟨hstarts, hanswers⟩,
    ⟨hfirst, fun before hbefore hbeforeStarts ↦ ?_⟩, hsome⟩
  have hnot := Nat.find_min hexists hbefore
  simpa [hbeforeStarts] using hnot

end FirstAnswer

/-- There is one reply that ends the line from a position on. -/
theorem EndsAt.unique {newline : α → Prop} {input : Input α} {start close close' : ℕ}
    (hends : EndsAt newline input start close) (hends' : EndsAt newline input start close') :
    close = close' := by
  rcases lt_trichotomy close close' with hlt | heq | hgt
  · exact absurd hends.ends (hends'.inside close hends.le hlt)
  · exact heq
  · exact absurd hends'.ends (hends.inside close' hends'.le hgt)

/-- A line ends no later than with any reply that ends a line. -/
theorem exists_endsAt {newline : α → Prop} {input : Input α} {start close : ℕ}
    (hle : start ≤ close) (hends : Ends newline (input.get close)) :
    ∃ first ≤ close, EndsAt newline input start first := by
  classical
  have hexists : ∃ first, start ≤ first ∧ Ends newline (input.get first) := ⟨close, hle, hends⟩
  obtain ⟨hfirst, hfirstEnds⟩ := Nat.find_spec hexists
  exact ⟨Nat.find hexists, Nat.find_min' hexists ⟨hle, hends⟩, hfirst, hfirstEnds,
    fun index hindex hlt hends' ↦ Nat.find_min hexists hlt ⟨hindex, hends'⟩⟩

/-- Where lines start after the first line of an input. -/
theorem starts_drop_iff {newline : α → Prop} {input : Input α} {length : ℕ}
    (hends : Ends newline (input.get length)) (position : ℕ) :
    Starts newline (input.drop (length + 1)) position ↔
      Starts newline input (length + 1 + position) := by
  constructor
  · intro hstarts before hbefore
    cases position with
    | zero => exact (by omega : length = before) ▸ hends
    | succ position =>
      obtain rfl : before = length + 1 + position := by omega
      simpa using hstarts position rfl
  · rintro hstarts before rfl
    simpa using hstarts (length + 1 + before) (by omega)

/-- No line starts within the first line of an input. -/
theorem eq_zero_of_starts {newline : α → Prop} {input : Input α} {length position : ℕ}
    (hinside : ∀ index < length, ¬ Ends newline (input.get index)) (hle : position ≤ length)
    (hstarts : Starts newline input position) : position = 0 := by
  cases position with
  | zero => rfl
  | succ before => exact absurd (hstarts before rfl) (hinside before (by omega))

section UntilSome

variable {newline : α → Prop} {answer : Option α → Option β} {input rest : Input α}
  {lines : List (Line α)} {value : β}

/-- When no reply that ends a line gives an answer, the first reply of a line gives the answer of
its text. -/
theorem NextLine.answer_head (hnone : ∀ reply, Ends newline reply → answer reply = none)
    {line : Line α} (hline : NextLine newline input line rest) :
    answer input.head = answer line.text.head? := by
  cases hline with
  | close hends => rw [hnone _ hends]; exact (hnone none (ends_none newline)).symm
  | byte hfirst _ _ => rw [hfirst]; rfl

/-- What is reached after a line that gives no answer. -/
theorem reaches_drop_iff {length : ℕ} (hends : Ends newline (input.get length))
    (hinside : ∀ index < length, ¬ Ends newline (input.get index))
    (hnone : answer input.head = none) (start : ℕ) :
    Reaches newline answer (input.drop (length + 1)) start ↔
      Reaches newline answer input (length + 1 + start) := by
  constructor
  · rintro ⟨hstarts, hsilent⟩
    refine ⟨(starts_drop_iff hends start).mp hstarts, fun before hbefore hbeforeStarts ↦ ?_⟩
    by_cases hle : before ≤ length
    · rwa [eq_zero_of_starts hinside hle hbeforeStarts]
    · obtain ⟨gap, rfl⟩ : ∃ gap, before = length + 1 + gap := ⟨before - (length + 1), by omega⟩
      simpa using hsilent gap (by omega) ((starts_drop_iff hends gap).mpr hbeforeStarts)
  · rintro ⟨hstarts, hsilent⟩
    refine ⟨(starts_drop_iff hends start).mpr hstarts, fun before hbefore hbeforeStarts ↦ ?_⟩
    simpa using hsilent (length + 1 + before) (by omega)
      ((starts_drop_iff hends before).mp hbeforeStarts)

/-- A session until an answer ends with the line that gives the first one, and has read the input
up to the end of that line. -/
theorem exists_firstAnswer_of_session
    (hnone : ∀ reply, Ends newline reply → answer reply = none)
    (hsession : Session newline (untilSome fun text ↦ answer text.head?) input () lines value
      rest) :
    ∃ start close, FirstAnswer newline answer input start ∧
      answer (input.get start) = some value ∧ EndsAt newline input start close ∧
      rest = input.drop (close + 1) ∧ lines.flatMap Line.replies = input.take (close + 1) := by
  generalize hstep : (untilSome fun text ↦ answer text.head?) = step at hsession
  generalize hstate : () = state at hsession
  induction hsession with
  | @stop input rest state line value hline hvalue =>
    subst hstep
    have hanswer : answer (input.get 0) = some value :=
      (hline.answer_head hnone).trans (untilSome_eq_inr.mp hvalue)
    exact ⟨0, line.text.length, ⟨⟨fun _ ↦ by omega, fun _ ↦ by omega⟩, by simp [hanswer]⟩, hanswer,
      ⟨Nat.zero_le _, hline.get_closing ▸ hline.ends_closing, fun _ _ ↦ hline.not_ends⟩,
      hline.rest_eq, by simp [hline.take_eq]⟩
  | @move input middle rest state next line lines value hline hnext _ ih =>
    subst hstep
    obtain ⟨start, close, hfirst, hanswer, hclose, hrest, hreplies⟩ := ih rfl
    have hends : Ends newline (input.get line.text.length) :=
      hline.get_closing ▸ hline.ends_closing
    have hsilent : answer input.head = none :=
      (hline.answer_head hnone).trans (untilSome_eq_inl.mp hnext)
    rw [hline.rest_eq] at hfirst hanswer hclose hrest hreplies
    refine ⟨line.text.length + 1 + start, line.text.length + 1 + close,
      ⟨(reaches_drop_iff hends (fun _ ↦ hline.not_ends) hsilent start).mp hfirst.toReaches,
        by simpa using hfirst.answers⟩,
      by simpa using hanswer,
      ⟨by have := hclose.le; omega, by simpa using hclose.ends, fun index hindex hlt ↦ ?_⟩, ?_, ?_⟩
    · obtain ⟨gap, rfl⟩ : ∃ gap, index = line.text.length + 1 + gap :=
        ⟨index - (line.text.length + 1), by omega⟩
      simpa using hclose.inside gap (by omega) (by omega)
    · rw [hrest, Stream'.drop_drop, Nat.add_assoc (line.text.length + 1)]
    · rw [List.flatMap_cons, hreplies, ← hline.take_eq, ← Stream'.take_add,
        Nat.add_assoc (line.text.length + 1)]

/-- The line that gives the first answer ends a session. -/
theorem session_of_firstAnswer (hnone : ∀ reply, Ends newline reply → answer reply = none)
    {start close : ℕ} (hfirst : FirstAnswer newline answer input start)
    (hanswer : answer (input.get start) = some value) (hclose : EndsAt newline input start close) :
    ∃ lines rest,
      Session newline (untilSome fun text ↦ answer text.head?) input () lines value rest := by
  induction start using Nat.strong_induction_on generalizing input close with
  | _ start ih =>
    cases start with
    | zero =>
      obtain ⟨line, hline, -⟩ := nextLine_of_first hclose.ends
        fun index hindex ↦ hclose.inside index (Nat.zero_le _) hindex
      have htext := (hline.answer_head hnone).symm.trans hanswer
      exact ⟨_, _, .stop hline (untilSome_eq_inr.mpr htext)⟩
    | succ before =>
      -- the first line ends before the one that answers
      obtain ⟨length, hlength, hends⟩ := exists_endsAt (Nat.zero_le _) (hfirst.starts before rfl)
      have hinside : ∀ index < length, ¬ Ends newline (input.get index) :=
        fun index ↦ hends.inside index (Nat.zero_le _)
      obtain ⟨line, hline, rfl⟩ := nextLine_of_first hends.ends hinside
      have hsilent : answer input.head = none := hfirst.silent 0 (by omega) fun _ ↦ by omega
      obtain ⟨gap, hgap⟩ : ∃ gap, before + 1 = line.text.length + 1 + gap :=
        ⟨before - line.text.length, by omega⟩
      rw [hgap] at hfirst hanswer hclose
      have hlater : FirstAnswer newline answer (input.drop (line.text.length + 1)) gap :=
        ⟨(reaches_drop_iff hends.ends hinside hsilent gap).mpr hfirst.toReaches,
          by simpa using hfirst.answers⟩
      have hcloseLater : EndsAt newline (input.drop (line.text.length + 1)) gap
          (close - (line.text.length + 1)) := by
        have hle := hclose.le
        have hsum : line.text.length + 1 + (close - (line.text.length + 1)) = close := by omega
        refine ⟨by omega, by rw [Stream'.get_drop, hsum]; exact hclose.ends,
          fun index hindex hlt ↦ ?_⟩
        rw [Stream'.get_drop]
        exact hclose.inside _ (by omega) (by omega)
      obtain ⟨lines, rest, hsession⟩ := ih gap (by omega) hlater
        (by rw [Stream'.get_drop]; exact hanswer) hcloseLater
      exact ⟨_, rest, .move hline
        (untilSome_eq_inl.mpr ((hline.answer_head hnone).symm.trans hsilent)) hsession⟩

end UntilSome

/-! ### Finite inputs -/

/-- The bytes of a list, and then the end of the input for ever. -/
def ofList (bytes : List α) : Input α := fun index ↦ bytes[index]?

@[simp] theorem head_ofList_nil : (ofList ([] : List α)).head = none := rfl

@[simp] theorem head_ofList_cons (byte : α) (bytes : List α) :
    (ofList (byte :: bytes)).head = some byte := rfl

/-- The next line of a finite input that begins with a text and a newline. -/
theorem nextLine_ofList_append {newline : α → Prop} {text rest : List α} {closing : α}
    (htext : ∀ byte ∈ text, ¬ newline byte) (hclosing : newline closing) :
    NextLine newline (ofList (text ++ closing :: rest)) ⟨text, some closing⟩ (ofList rest) := by
  induction text with
  | nil => exact .close (ends_some.mpr hclosing)
  | cons byte text ih =>
    obtain ⟨hbyte, htext⟩ := List.forall_mem_cons.mp htext
    exact .byte rfl hbyte (ih htext)

/-- The next line of a finite input is the first of the pieces its newlines cut it into. -/
theorem nextLine_ofList (newline : α → Prop) [DecidablePred newline] (bytes : List α) :
    ∃ line rest pieces, NextLine newline (ofList bytes) line (ofList rest) ∧
      bytes.splitOnP newline = line.text :: pieces ∧
      (pieces = [] ∧ rest = [] ∨ pieces = rest.splitOnP newline) := by
  induction bytes with
  | nil => exact ⟨_, [], [], .close (by simp), rfl, Or.inl ⟨rfl, rfl⟩⟩
  | cons byte bytes ih =>
    obtain ⟨line, rest, pieces, hline, hpieces, hrest⟩ := ih
    by_cases hbyte : newline byte
    · exact ⟨_, bytes, bytes.splitOnP newline, .close (by simpa using hbyte),
        by simp [List.splitOnP_cons_eq_if_modifyHead, hbyte], Or.inr rfl⟩
    · refine ⟨⟨byte :: line.text, line.closing⟩, rest, pieces, .byte rfl hbyte hline, ?_, hrest⟩
      simp [List.splitOnP_cons_eq_if_modifyHead, hbyte, hpieces]

/-- The state an automaton is in after some texts, or the value it has stopped with. -/
def after (step : σ → List α → σ ⊕ β) : σ → List (List α) → σ ⊕ β
  | state, [] => .inl state
  | state, text :: texts =>
    match step state text with
    | .inl next => after step next texts
    | .inr value => .inr value

/-- A program that reads until it has an answer stops within texts one of which gives an answer. -/
theorem isRight_after_untilSome {answer : List α → Option β} {texts : List (List α)} :
    (after (untilSome answer) () texts).isRight ↔ ∃ text ∈ texts, (answer text).isSome := by
  induction texts with
  | nil => simp [after]
  | cons text texts ih =>
    cases hanswer : answer text with
    | some value => simp [after, untilSome, hanswer]
    | none => simp [after, untilSome, hanswer, ih]

/-- An automaton that no empty line stops is not stopped after the end of the input. -/
theorem not_session_ofList_nil {newline : α → Prop} {step : σ → List α → σ ⊕ β}
    (hidle : ∀ state, ∃ next, step state [] = .inl next) {state : σ} {lines : List (Line α)}
    {value : β} {rest : Input α} : ¬ Session newline step (ofList []) state lines value rest := by
  have hempty : NextLine newline (ofList []) ⟨[], none⟩ (ofList []) := .close (by simp)
  intro hsession
  generalize hinput : ofList [] = input at hsession
  induction hsession with
  | stop hline hstep =>
    subst hinput
    obtain ⟨rfl, -⟩ := hempty.unique hline
    obtain ⟨next, hnext⟩ := hidle _
    exact absurd (hnext.symm.trans hstep) (by simp)
  | move hline _ _ ih =>
    subst hinput
    exact ih (hempty.unique hline).2

/-- A session over a finite input comes to an end if and only if the automaton stops within the
pieces its newlines cut the input into. -/
theorem session_ofList_iff {newline : α → Prop} [DecidablePred newline]
    {step : σ → List α → σ ⊕ β} (hidle : ∀ state, ∃ next, step state [] = .inl next)
    {bytes : List α} {state : σ} :
    (∃ lines value rest, Session newline step (ofList bytes) state lines value rest) ↔
      (after step state (bytes.splitOnP newline)).isRight := by
  obtain ⟨pieces, hpieces⟩ : ∃ pieces, bytes.splitOnP newline = pieces := ⟨_, rfl⟩
  rw [hpieces]
  induction pieces generalizing bytes state with
  | nil => exact absurd hpieces (List.splitOnP_ne_nil _ _)
  | cons text texts ih =>
    obtain ⟨line, rest, texts', hline, hsplit, hrest⟩ := nextLine_ofList newline bytes
    obtain ⟨rfl, rfl⟩ := List.cons.inj (hpieces.symm.trans hsplit)
    cases hstep : step state line.text with
    | inr value =>
      simp only [after, hstep, Sum.isRight_inr, iff_true]
      exact ⟨_, value, _, .stop hline hstep⟩
    | inl next =>
      simp only [after, hstep]
      have hmore : (∃ lines value last,
          Session newline step (ofList bytes) state lines value last) ↔
          ∃ lines value last, Session newline step (ofList rest) next lines value last := by
        constructor
        · rintro ⟨lines, value, last, hsession⟩
          cases hsession with
          | stop hline' hstep' =>
            obtain ⟨rfl, -⟩ := hline.unique hline'
            exact absurd (hstep.symm.trans hstep') (by simp)
          | move hline' hstep' hmore =>
            obtain ⟨rfl, rfl⟩ := hline.unique hline'
            obtain rfl := Sum.inl.inj (hstep.symm.trans hstep')
            exact ⟨_, _, _, hmore⟩
        · rintro ⟨lines, value, last, hsession⟩
          exact ⟨_, _, _, .move hline hstep hsession⟩
      rw [hmore]
      rcases hrest with ⟨rfl, rfl⟩ | htexts
      · simp only [after, Sum.isRight_inl, Bool.false_eq_true, iff_false]
        rintro ⟨lines, value, last, hsession⟩
        exact not_session_ofList_nil hidle hsession
      · exact ih htexts.symm

end Lines
