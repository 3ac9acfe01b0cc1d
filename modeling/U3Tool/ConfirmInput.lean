import Mathlib.Data.Seq.Defs
import U3Tool.PromptSessions

/-!
# What `confirm` takes for an answer

`confirm` stores what `fgetc` returns in a `char`, where the byte 0xFF cannot be told from `EOF`, so
its inner loop stops at such a byte in the middle of a line and the next byte is taken for the
beginning of an answer. `ConfirmsLines` is what `confirm` is for: it returns the answer of the first
line that gives one, having consumed the lines up to that one, and takes no byte inside a line for
an answer. `confirm_reads_lines_iff` says on which inputs it does so (`EofHarmless`).

The prompts in a trace are at the positions that the pieces reach (`reaches_of_prompt`,
`exists_prompt`), which turns the statement about executions into one about positions.
-/

set_option autoImplicit false
set_option relaxedAutoImplicit false

namespace U3Tool

open Interaction Bytes Program Lines

variable {δ : Type} {device : Surroundings Scsi δ}

/-! ### The statement -/

/-- The answer that a reply of `fgetc` gives after a prompt. -/
def answerTo (reply : Option UInt8) : Option Bool := answerOf (toChar reply)

/-- `confirm` is an answer to lines: it returns true exactly when the first line that gives an
answer says yes; when it returns it has consumed the lines up to that one; and what it takes for an
answer after a prompt is the first byte of a line. -/
structure ConfirmsLines (device : Surroundings Scsi δ) (state : δ) (input : Input UInt8) :
    Prop where
  true_iff : (∃ fuel, (exec (desk device) (confirm fuel) (reading state input)).result =
      .ok true) ↔
    ∃ lines rest, Session (· = 10) (untilSome firstAnswer) input () lines true rest
  consumed : ∀ fuel answer,
    (exec (desk device) (confirm fuel) (reading state input)).result = .ok answer →
      ∃ lines rest, Session (· = 10) (untilSome firstAnswer) input () lines answer rest ∧
        (fgetcReplies
          (exec (desk device) (confirm fuel) (reading state input)).trace).reduceOption =
            lines.flatMap Line.bytes
  inside : ∀ fuel before after byte,
    (exec (desk device) (confirm fuel) (reading state input)).trace =
        before ++ promptEvent :: ⟨.fgetc, some byte⟩ :: after →
      (answerTo (some byte)).isSome → Starts (· = 10) input (fgetcReplies before).length

/-- The byte 0xFF does no harm in an input: before an answer letter it stands only after the start
of a line that answers, and in the first such line only as the last byte of the input. -/
structure EofHarmless (input : Input UInt8) : Prop where
  before : ∀ index, input.get index = some 255 → (answerTo (input.get (index + 1))).isSome →
    ∃ start ≤ index, Starts (· = 10) input start ∧ (answerTo (input.get start)).isSome
  within : ∀ start index, FirstAnswer (· = 10) answerTo input start → start ≤ index →
    (∀ between, start ≤ between → between ≤ index → input.get between ≠ some 10) →
      input.get index = some 255 → input.get (index + 1) = none

/-! ### Pieces and lines -/

/-- No reply that ends a piece gives an answer. -/
theorem answerTo_of_stops (reply : Option UInt8) (hends : Ends StopsDrop reply) :
    answerTo reply = none := by
  rcases (toChar_stops_iff reply).mpr hends with hchar | hchar <;> rw [answerTo, hchar] <;> rfl

/-- What ends a line ends a piece. -/
theorem stops_of_newline {reply : Option UInt8} (hends : Ends (· = 10) reply) :
    Ends StopsDrop reply :=
  fun byte hbyte ↦ Or.inl (hends byte hbyte)

theorem answerTo_of_newline (reply : Option UInt8) (hends : Ends (· = 10) reply) :
    answerTo reply = none :=
  answerTo_of_stops reply (stops_of_newline hends)

/-- What ends a piece inside a line is the byte 0xFF. -/
theorem eq_of_stops {reply : Option UInt8} (hends : Ends StopsDrop reply)
    (hinside : ¬ Ends (· = 10) reply) : reply = some 255 := by
  cases reply with
  | none => exact absurd (ends_none _) hinside
  | some byte =>
    rw [ends_some] at hends hinside
    rcases hends with hten | hlast
    · exact absurd hten hinside
    · rw [hlast]

/-- A line starts where a piece starts. -/
theorem starts_stops {input : Input UInt8} {position : ℕ}
    (hstarts : Starts (· = 10) input position) : Starts StopsDrop input position :=
  fun before hbefore ↦ stops_of_newline (hstarts before hbefore)

/-- A piece that does not start with a line starts after a byte 0xFF. -/
theorem exists_of_not_starts {input : Input UInt8} {position : ℕ}
    (hstarts : Starts StopsDrop input position) (hinside : ¬ Starts (· = 10) input position) :
    ∃ before, position = before + 1 ∧ input.get before = some 255 := by
  unfold Starts at hinside
  push Not at hinside
  obtain ⟨before, hbefore, hnot⟩ := hinside
  exact ⟨before, hbefore, eq_of_stops (hstarts before hbefore) hnot⟩

/-! ### Prompts -/

/-- The trace of a turn: the prompt, the reply to it, what the inner loop reads and, when that loop
has come to the end of a piece without an answer, the trace of the next turns. -/
theorem trace_confirm_succ (fuel : ℕ) (state : δ) (input : Input UInt8) :
    ∃ dropped later,
      (exec (desk device) (confirm (fuel + 1)) (reading state input)).trace =
        promptEvent :: ⟨.fgetc, input.head⟩ :: (dropped ++ later) ∧
      PromptFree dropped ∧
      (later = [] ∨ ∃ line rest, NextLine StopsDrop input line rest ∧
        input.head :: fgetcReplies dropped = line.replies ∧ answerTo input.head = none ∧
        later = (exec (desk device) (confirm fuel) (reading state rest)).trace) := by
  have hfree : PromptFree
      (exec (desk device) (dropLine fuel (toChar input.head)) (reading state input.tail)).trace :=
    promptFree_dropLine (run_exec _ _ _)
  cases hdrop : (exec (desk device) (dropLine fuel (toChar input.head))
      (reading state input.tail)).result with
  | error halt =>
    refine ⟨_, [], ?_, hfree, Or.inl rfl⟩
    change (exec (desk device) (confirmLoop (fuel + 1)) (reading state input)).trace = _
    rw [confirmLoop, printf, exec_print_bind, exec_fgetc_bind, exec_bind_error hdrop,
      List.append_nil]
    rfl
  | ok value =>
    obtain ⟨line, rest, hline, hfuel⟩ := nextLine_of_exec_drain (dropLine_eq_drain .. ▸ hdrop)
    obtain ⟨dropped, hexec, hreplies⟩ := @exec_drain δ device _ _ _ _ _ hline fuel hfuel state
    rw [← dropLine_eq_drain] at hexec
    rw [hexec] at hfree
    change ∃ dropped later,
      (exec (desk device) (confirmLoop (fuel + 1)) (reading state input)).trace = _ ∧ _
    rw [confirmLoop, printf, exec_print_bind, exec_fgetc_bind, exec_bind_of_eq hexec]
    cases hanswer : answerOf (toChar input.head) with
    | some answer => exact ⟨dropped, [], rfl, hfree, Or.inl rfl⟩
    | none => exact ⟨dropped, _, rfl, hfree, Or.inr ⟨line, rest, hline, hreplies, hanswer, rfl⟩⟩

/-- A prompt in a trace is where the pieces reach, and is replied the byte there. -/
theorem reaches_of_prompt {fuel : ℕ} {state : δ} {input : Input UInt8}
    {before after : List (Event Tool)} {reply : Option UInt8}
    (htrace : (exec (desk device) (confirm fuel) (reading state input)).trace =
      before ++ promptEvent :: ⟨.fgetc, reply⟩ :: after) :
    reply = input.get (fgetcReplies before).length ∧
      Reaches StopsDrop answerTo input (fgetcReplies before).length := by
  induction fuel generalizing input before with
  | zero => simp [confirm, batchMode, confirmLoop] at htrace
  | succ fuel ih =>
    obtain ⟨dropped, later, hturn, hfree, hlater⟩ := @trace_confirm_succ δ device fuel state input
    rw [hturn] at htrace
    cases before with
    | nil =>
      obtain ⟨hreply, -⟩ := List.cons.inj (List.cons.inj htrace).2
      have hsame : input.head = reply := by simpa using hreply
      exact ⟨hsame.symm, fun _ ↦ by simp, fun _ ↦ by simp⟩
    | cons head tail =>
      obtain ⟨rfl, htail⟩ := List.cons.inj htrace
      -- the prompt is not in the piece that follows the first prompt
      have hpiece : promptEvent ∉ (⟨.fgetc, input.head⟩ : Event Tool) :: dropped := by
        intro hmem
        rcases List.mem_cons.mp hmem with heq | hmem
        · exact absurd (congrArg Event.request heq) (by simp [promptEvent])
        · exact hfree _ hmem rfl
      have hsplit : ((⟨.fgetc, input.head⟩ : Event Tool) :: dropped) ++ later =
          tail ++ promptEvent :: ⟨.fgetc, reply⟩ :: after := htail
      obtain ⟨between, hbetween, hrest⟩ := append_of_not_mem hsplit hpiece
      rcases hlater with rfl | ⟨line, rest, hline, hreplies, hnone, rfl⟩
      · exact absurd hrest (by simp)
      · obtain ⟨hreply, hreaches⟩ := ih hrest
        have hlength : (fgetcReplies (promptEvent :: tail)).length =
            line.text.length + 1 + (fgetcReplies between).length := by
          have hpieceLength : ((input.head :: fgetcReplies dropped) : List _).length =
              line.text.length + 1 := by
            rw [hreplies]
            simp [Line.replies]
          rw [hbetween]
          change (fgetcReplies (((⟨.fgetc, input.head⟩ : Event Tool) :: dropped) ++
            between)).length = _
          rw [fgetcReplies_append, List.length_append, fgetcReplies_fgetc, hpieceLength]
        rw [hlength]
        rw [hline.rest_eq] at hreply hreaches
        exact ⟨by simpa using hreply, (reaches_drop_iff (hline.get_closing ▸ hline.ends_closing)
          (fun _ ↦ hline.not_ends) hnone _).mp hreaches⟩

/-- Where the pieces reach, there is a prompt in the trace. -/
theorem exists_prompt {input : Input UInt8} {position : ℕ}
    (hreaches : Reaches StopsDrop answerTo input position) (state : δ) :
    ∃ enough, ∀ fuel ≥ enough, ∃ before after,
      (exec (desk device) (confirm fuel) (reading state input)).trace =
          before ++ promptEvent :: ⟨.fgetc, input.get position⟩ :: after ∧
        (fgetcReplies before).length = position := by
  induction position using Nat.strong_induction_on generalizing input with
  | _ position ih =>
    cases position with
    | zero =>
      refine ⟨1, fun fuel hfuel ↦ ?_⟩
      obtain ⟨fuel, rfl⟩ : ∃ more, fuel = more + 1 := ⟨fuel - 1, by omega⟩
      obtain ⟨dropped, later, hturn, -⟩ := @trace_confirm_succ δ device fuel state input
      exact ⟨[], _, hturn, rfl⟩
    | succ before =>
      obtain ⟨length, hlength, hends⟩ := exists_endsAt (Nat.zero_le _)
        (hreaches.starts before rfl)
      have hinside : ∀ index < length, ¬ Ends StopsDrop (input.get index) :=
        fun index ↦ hends.inside index (Nat.zero_le _)
      obtain ⟨line, hline, rfl⟩ := nextLine_of_first hends.ends hinside
      have hsilent : answerTo input.head = none :=
        hreaches.silent 0 (by omega) fun _ ↦ by omega
      obtain ⟨gap, hgap⟩ : ∃ gap, before + 1 = line.text.length + 1 + gap :=
        ⟨before - line.text.length, by omega⟩
      rw [hgap] at hreaches ⊢
      obtain ⟨enough, hprompt⟩ := ih gap (by omega)
        ((reaches_drop_iff hends.ends hinside hsilent gap).mpr hreaches)
      refine ⟨max line.text.length enough + 1, fun fuel hfuel ↦ ?_⟩
      obtain ⟨fuel, rfl⟩ : ∃ more, fuel = more + 1 := ⟨fuel - 1, by omega⟩
      cases @turn_confirm δ device _ _ _ hline fuel (by omega) state with
      | stops hstep =>
        have hanswer := (answerOf_head hline).trans (untilSome_eq_inr.mp hstep)
        exact absurd (hsilent.symm.trans hanswer) (by simp)
      | @goes _ more first hstep hmore hexec hreplies =>
        obtain ⟨earlier, after, htrace, hlength⟩ := hprompt more (by omega)
        refine ⟨first ++ earlier, after, ?_, ?_⟩
        · rw [hexec, htrace, List.append_assoc, Stream'.get_drop]
        · rw [fgetcReplies_append, List.length_append, hreplies, hlength]
          simp [Line.replies]

/-! ### The bytes that are consumed -/

/-- Reading on consumes nothing exactly when there is nothing to read. -/
theorem reduceOption_take_eq_iff {input : Input UInt8} {first last : ℕ} (hle : first ≤ last) :
    (input.take first).reduceOption = (input.take last).reduceOption ↔
      ∀ index, first ≤ index → index < last → input.get index = none := by
  obtain ⟨extra, rfl⟩ := Nat.exists_eq_add_of_le hle
  rw [Stream'.take_add, List.reduceOption_append, List.self_eq_append_right]
  induction extra with
  | zero => exact iff_of_true rfl fun index hfirst hlast ↦ by omega
  | succ extra ih =>
    rw [Stream'.take_succ', List.reduceOption_append, List.append_eq_nil_iff, ih (by omega),
      List.reduceOption_singleton, Stream'.get_drop]
    constructor
    · rintro ⟨hbefore, hend⟩ index hfirst hlast
      rcases Nat.lt_succ_iff_lt_or_eq.mp hlast with hlt | rfl
      · exact hbefore index hfirst hlt
      · simpa using hend
    · exact fun hall ↦ ⟨fun index hfirst hlast ↦ hall index hfirst (by omega),
        by simp [hall (first + extra) (by omega) (by omega)]⟩

/-- The answers of `confirm`, by position: the first piece that gives one. -/
theorem confirm_returns_iff (state : δ) (input : Input UInt8) (answer : Bool) :
    (∃ fuel, (exec (desk device) (confirm fuel) (reading state input)).result = .ok answer) ↔
      ∃ start close, FirstAnswer StopsDrop answerTo input start ∧
        answerTo (input.get start) = some answer ∧ EndsAt StopsDrop input start close := by
  constructor
  · rintro ⟨fuel, hreturns⟩
    obtain ⟨lines, rest, hsession, -⟩ := conducts_confirm.session hreturns
    obtain ⟨start, close, hfirst, hanswer, hclose, -⟩ :=
      exists_firstAnswer_of_session answerTo_of_stops hsession
    exact ⟨start, close, hfirst, hanswer, hclose⟩
  · rintro ⟨start, close, hfirst, hanswer, hclose⟩
    obtain ⟨lines, rest, hsession⟩ :=
      session_of_firstAnswer answerTo_of_stops hfirst hanswer hclose
    obtain ⟨enough, hreturns⟩ := conducts_confirm.returns device state hsession
    obtain ⟨_, trace, hexec, rfl, -⟩ := hreturns enough le_rfl
    exact ⟨enough, congrArg Execution.result hexec⟩

/-- The answers of lines, by position. -/
theorem lines_answer_iff (input : Input UInt8) (answer : Bool) :
    (∃ lines rest, Session (· = 10) (untilSome firstAnswer) input () lines answer rest) ↔
      ∃ start close, FirstAnswer (· = 10) answerTo input start ∧
        answerTo (input.get start) = some answer ∧ EndsAt (· = 10) input start close := by
  constructor
  · rintro ⟨lines, rest, hsession⟩
    obtain ⟨start, close, hfirst, hanswer, hclose, -⟩ :=
      exists_firstAnswer_of_session answerTo_of_newline hsession
    exact ⟨start, close, hfirst, hanswer, hclose⟩
  · rintro ⟨start, close, hfirst, hanswer, hclose⟩
    exact session_of_firstAnswer answerTo_of_newline hfirst hanswer hclose

/-! ### When the byte 0xFF does no harm -/

section Harmless

variable {input : Input UInt8}

/-- Where 0xFF stands before an answer letter only after the start of a line that answers, the first
piece that answers is the first line that answers. -/
theorem firstAnswer_stops_iff
    (hbefore : ∀ index, input.get index = some 255 → (answerTo (input.get (index + 1))).isSome →
      ∃ start ≤ index, Starts (· = 10) input start ∧ (answerTo (input.get start)).isSome)
    (start : ℕ) : FirstAnswer StopsDrop answerTo input start ↔
      FirstAnswer (· = 10) answerTo input start := by
  constructor
  · intro hfirst
    have hstarts : Starts (· = 10) input start := by
      by_contra hinside
      obtain ⟨before, rfl, hlast⟩ := exists_of_not_starts hfirst.starts hinside
      obtain ⟨earlier, hle, hearlier, hanswers⟩ := hbefore before hlast hfirst.answers
      rw [hfirst.silent earlier (by omega) (starts_stops hearlier)] at hanswers
      simp at hanswers
    exact ⟨⟨hstarts, fun position hposition hpositionStarts ↦
      hfirst.silent position hposition (starts_stops hpositionStarts)⟩, hfirst.answers⟩
  · intro hfirst
    refine ⟨⟨starts_stops hfirst.starts, fun position hposition hstarts ↦ ?_⟩, hfirst.answers⟩
    by_cases hline : Starts (· = 10) input position
    · exact hfirst.silent position hposition hline
    · obtain ⟨before, rfl, hlast⟩ := exists_of_not_starts hstarts hline
      by_contra hanswers
      obtain ⟨earlier, hle, hearlier, hearlierAnswers⟩ :=
        hbefore before hlast (Option.isSome_iff_ne_none.mpr hanswers)
      rw [hfirst.silent earlier (by omega) hearlier] at hearlierAnswers
      simp at hearlierAnswers

/-- Where 0xFF does no harm, the first piece that answers and the first line that does are made of
the same bytes. -/
theorem EofHarmless.exists_line_end (hharmless : EofHarmless input) {start close : ℕ}
    (hfirst : FirstAnswer (· = 10) answerTo input start)
    (hclose : EndsAt StopsDrop input start close) :
    ∃ lineClose, EndsAt (· = 10) input start lineClose ∧
      (input.take (close + 1)).reduceOption = (input.take (lineClose + 1)).reduceOption := by
  have hinside (index : ℕ) (hindex : start ≤ index) (hlt : index < close) :
      ¬ Ends (· = 10) (input.get index) :=
    fun hends ↦ hclose.inside index hindex hlt (stops_of_newline hends)
  by_cases hends : Ends (· = 10) (input.get close)
  · exact ⟨close, ⟨hclose.le, hends, hinside⟩, rfl⟩
  · have hlast := eq_of_stops hclose.ends hends
    have hnone : input.get (close + 1) = none := by
      refine hharmless.within start close hfirst hclose.le
        (fun between hbetween hle hten ↦ ?_) hlast
      rcases Nat.lt_or_eq_of_le hle with hlt | rfl
      · exact hinside between hbetween hlt (by rw [hten]; exact ends_some.mpr rfl)
      · rw [hlast] at hten
        exact absurd hten (by decide)
    refine ⟨close + 1, ⟨by have := hclose.le; omega, by rw [hnone]; exact ends_none _,
      fun index hindex hlt ↦ ?_⟩, ?_⟩
    · rcases Nat.lt_succ_iff_lt_or_eq.mp hlt with hlt | rfl
      · exact hinside index hindex hlt
      · exact hends
    · refine (reduceOption_take_eq_iff (by omega)).mpr fun index hfirst hlt ↦ ?_
      obtain rfl : index = close + 1 := by omega
      exact hnone

/-- Where 0xFF does no harm, `confirm` is an answer to lines. -/
theorem EofHarmless.confirmsLines (hharmless : EofHarmless input) (device : Surroundings Scsi δ)
    (state : δ) : ConfirmsLines device state input where
  true_iff := by
    rw [confirm_returns_iff, lines_answer_iff]
    constructor
    · rintro ⟨start, close, hfirst, hanswer, hclose⟩
      have hline := (firstAnswer_stops_iff hharmless.before start).mp hfirst
      obtain ⟨lineClose, hlineClose, -⟩ := hharmless.exists_line_end hline hclose
      exact ⟨start, lineClose, hline, hanswer, hlineClose⟩
    · rintro ⟨start, lineClose, hfirst, hanswer, hlineClose⟩
      obtain ⟨close, -, hclose⟩ := exists_endsAt hlineClose.le (stops_of_newline hlineClose.ends)
      have hfirst' := (firstAnswer_stops_iff hharmless.before start).mpr hfirst
      exact ⟨start, close, hfirst', hanswer, hclose⟩
  consumed fuel answer hreturns := by
    obtain ⟨pieces, rest, hsession, -, hreplies⟩ := conducts_confirm.session hreturns
    obtain ⟨start, close, hfirst, hanswer, hclose, -, htake⟩ :=
      exists_firstAnswer_of_session answerTo_of_stops hsession
    have hline := (firstAnswer_stops_iff hharmless.before start).mp hfirst
    obtain ⟨lineClose, hlineClose, hbytes⟩ := hharmless.exists_line_end hline hclose
    obtain ⟨lines, last, hlines⟩ :=
      session_of_firstAnswer answerTo_of_newline hline hanswer hlineClose
    refine ⟨lines, last, hlines, ?_⟩
    obtain ⟨start', close', hfirst', -, hclose', -, htake'⟩ :=
      exists_firstAnswer_of_session answerTo_of_newline hlines
    obtain rfl := hline.unique hfirst'
    obtain rfl := hlineClose.unique hclose'
    rw [hreplies, htake, hbytes, ← htake', reduceOption_flatMap_replies]
  inside fuel before after byte htrace hanswers := by
    obtain ⟨hbyte, hreaches⟩ := reaches_of_prompt htrace
    rw [hbyte] at hanswers
    exact ((firstAnswer_stops_iff hharmless.before _).mp ⟨hreaches, hanswers⟩).starts

/-- Where `confirm` is an answer to lines, a piece that answers first starts with a line. -/
theorem ConfirmsLines.starts {state : δ} (hconfirms : ConfirmsLines device state input)
    {start : ℕ} (hfirst : FirstAnswer StopsDrop answerTo input start) :
    Starts (· = 10) input start := by
  obtain ⟨enough, hprompt⟩ := @exists_prompt δ device _ _ hfirst.toReaches state
  obtain ⟨before, after, htrace, rfl⟩ := hprompt enough le_rfl
  have hanswers := hfirst.answers
  cases hbyte : input.get (fgetcReplies before).length with
  | none => rw [hbyte] at hanswers; exact absurd hanswers (by decide)
  | some byte =>
    rw [hbyte] at htrace hanswers
    exact hconfirms.inside enough before after byte htrace hanswers

/-- Where `confirm` is an answer to lines, a byte 0xFF before an answer letter comes after the start
of a line that answers. -/
theorem ConfirmsLines.before {state : δ} (hconfirms : ConfirmsLines device state input) {index : ℕ}
    (hlast : input.get index = some 255) (hanswers : (answerTo (input.get (index + 1))).isSome) :
    ∃ start ≤ index, Starts (· = 10) input start ∧ (answerTo (input.get start)).isSome := by
  have hstops : Starts StopsDrop input (index + 1) := by
    rintro before hbefore
    obtain rfl : index = before := by omega
    rw [hlast]
    exact ends_some.mpr (Or.inr rfl)
  obtain ⟨start, hle, hfirst⟩ := FirstAnswer.exists_le hstops hanswers
  have hstarts := hconfirms.starts hfirst
  rcases Nat.le_succ_iff.mp hle with hle | rfl
  · exact ⟨start, hle, hstarts, hfirst.answers⟩
  · have hten := hstarts index rfl
    rw [hlast, ends_some] at hten
    exact absurd hten (by decide)

/-- Where `confirm` is an answer to lines of stdin, a byte 0xFF in the first
line that answers is the last byte of stdin. -/
theorem ConfirmsLines.within {stdin : Stream'.Seq UInt8} {state : δ}
    (hconfirms : ConfirmsLines device state stdin.1) {start index : ℕ}
    (hfirst : FirstAnswer (· = 10) answerTo stdin.1 start) (hindex : start ≤ index)
    (hinside : ∀ between, start ≤ between → between ≤ index → stdin.1.get between ≠ some 10)
    (hlast : stdin.1.get index = some 255) : stdin.1.get (index + 1) = none := by
  have hpiece := (firstAnswer_stops_iff (fun _ ↦ hconfirms.before) start).mpr hfirst
  obtain ⟨close, hle, hclose⟩ := exists_endsAt hindex
    (by rw [hlast]; exact ends_some.mpr (Or.inr rfl) : Ends StopsDrop (stdin.1.get index))
  -- both the piece that `confirm` has consumed and the line it stands for are known
  obtain ⟨answer, hanswer⟩ := Option.isSome_iff_exists.mp hfirst.answers
  obtain ⟨fuel, hreturns⟩ := (@confirm_returns_iff δ device state stdin.1 answer).mpr
    ⟨start, close, hpiece, hanswer, hclose⟩
  obtain ⟨lines, rest, hlines, hbytes⟩ := hconfirms.consumed fuel answer hreturns
  obtain ⟨pieces, last, hsession, -, hreplies⟩ := conducts_confirm.session hreturns
  obtain ⟨start', close', hfirst', -, hclose', -, htake⟩ :=
    exists_firstAnswer_of_session answerTo_of_stops hsession
  obtain rfl := hpiece.unique hfirst'
  obtain rfl := hclose.unique hclose'
  obtain ⟨start', lineClose, hfirst', -, hlineClose, -, htakeLines⟩ :=
    exists_firstAnswer_of_session answerTo_of_newline hlines
  obtain rfl := hfirst.unique hfirst'
  rw [hreplies, htake, ← reduceOption_flatMap_replies, htakeLines] at hbytes
  -- the line is longer than the piece, and what is left of it has no bytes
  have hsome : stdin.1.get close ≠ none := fun hnone ↦ by
    rw [show stdin.1.get index = none from stdin.le_stable hle hnone] at hlast
    exact absurd hlast (by simp)
  have hnot : ¬ Ends (· = 10) (stdin.1.get close) := fun hends ↦ by
    obtain ⟨byte, hbyte⟩ := Option.ne_none_iff_exists'.mp hsome
    rw [hbyte, ends_some] at hends
    exact hinside close hclose.le hle (by rw [hbyte, hends])
  have hlonger : close < lineClose := by
    rcases Nat.lt_or_ge close lineClose with hlt | hge
    · exact hlt
    · rcases Nat.lt_or_eq_of_le hge with hlt | rfl
      · exact absurd (stops_of_newline hlineClose.ends)
          (hclose.inside lineClose hlineClose.le hlt)
      · exact absurd hlineClose.ends hnot
  have hnone : stdin.1.get (close + 1) = none :=
    (reduceOption_take_eq_iff (by omega)).mp hbytes (close + 1) le_rfl (by omega)
  rcases Nat.lt_or_eq_of_le hle with hlt | rfl
  · rw [show stdin.1.get index = none from stdin.le_stable hlt hnone] at hlast
    exact absurd hlast (by simp)
  · exact hnone

end Harmless

end U3Tool
