import U3Tool.MainGuard
import U3Tool.PromptSessions

/-!
# Prompts at the end of stdin

`confirm` and the two password loops read stdin until they have an answer, and none of the three
looks at the end of the input: what its inner loop takes for an empty line there is asked for again,
for ever. On a finite stdin a prompt comes to an end exactly when an answer is among the bytes
(`Prompt.Answered`): a piece that begins with an answer letter, a line that begins with a byte other
than NUL, or a text that is repeated. `prompt_finishes_iff` says so for the three of them.
-/

set_option autoImplicit false
set_option relaxedAutoImplicit false

namespace U3Tool

open Interaction Bytes Program Lines

/-- The prompts of `main.c`: `confirm`, and the loops of `main` that ask for the password and for
the new one. -/
inductive Prompt
  | confirm
  | password
  | newPassword
  deriving DecidableEq

/-- A prompt comes to an end on a stdin of some bytes, after which there is nothing. -/
def Prompt.Finishes {δ : Type} (device : Surroundings Scsi δ) (state : δ) (stack : MainStack)
    (bytes : List UInt8) : Prompt → Prop
  | .confirm => ∃ fuel answer, (exec (desk device) (U3Tool.confirm fuel)
      (reading state (ofList bytes))).result = .ok answer
  | .password => ∃ fuel answer, (exec (desk device) (askPassword fuel stack.password)
      (reading state (ofList bytes))).result = .ok answer
  | .newPassword => ∃ fuel answer,
      (exec (desk device) (askNewPassword fuel stack.newPassword stack.validatePassword)
        (reading state (ofList bytes))).result = .ok answer

/-- Among lines there is a new password: lines without a text and pairs of texts that differ, and
then a text that is repeated. -/
inductive Agrees : List (List UInt8) → Prop
  | same {first second : List UInt8} {rest : List (List UInt8)} (hentered : typedText first ≠ [])
      (hsame : typedText first = typedText second) : Agrees (first :: second :: rest)
  | empty {first : List UInt8} {rest : List (List UInt8)} (hempty : typedText first = [])
      (hrest : Agrees rest) : Agrees (first :: rest)
  | differ {first second : List UInt8} {rest : List (List UInt8)}
      (hentered : typedText first ≠ []) (hdiffer : typedText first ≠ typedText second)
      (hrest : Agrees rest) : Agrees (first :: second :: rest)

/-- The bytes of stdin answer a prompt. -/
def Prompt.Answered (bytes : List UInt8) : Prompt → Prop
  | .confirm => ∃ piece ∈ bytes.splitOnP (StopsDrop ·), ∃ letter ∈ piece.head?,
      letter ∈ ([121, 89, 110, 78] : List UInt8)
  | .password => ∃ line ∈ bytes.splitOnP (· = 10), ∃ letter ∈ line.head?, letter ≠ 0
  | .newPassword => Agrees (bytes.splitOnP (· = 10))

/-- A text answers when it begins with an answer letter. -/
theorem isSome_firstAnswer {text : List UInt8} :
    (firstAnswer text).isSome ↔
      ∃ letter ∈ text.head?, letter ∈ ([121, 89, 110, 78] : List UInt8) := by
  cases text with
  | nil => simp [firstAnswer, toChar, answerOf]
  | cons letter text =>
    have hletter (byte : UInt8) : letter.toInt8 = byte.toInt8 ↔ letter = byte :=
      ⟨fun heq ↦ congrArg Int8.toUInt8 heq, fun heq ↦ congrArg UInt8.toInt8 heq⟩
    have hy := hletter 121
    have hY := hletter 89
    have hn := hletter 110
    have hN := hletter 78
    simp only [List.head?_cons, Option.mem_def, Option.some.injEq, exists_eq_left', firstAnswer,
      toChar, answerOf, List.mem_cons, List.not_mem_nil, or_false]
    rw [← hy, ← hY, ← hn, ← hN]
    change (if letter.toInt8 = 121 ∨ letter.toInt8 = 89 then some true
      else if letter.toInt8 = 110 ∨ letter.toInt8 = 78 then some false else none).isSome ↔
        letter.toInt8 = 121 ∨ letter.toInt8 = 89 ∨ letter.toInt8 = 110 ∨ letter.toInt8 = 78
    split_ifs with hyes hno
    · exact iff_of_true rfl (by tauto)
    · exact iff_of_true rfl (by tauto)
    · exact iff_of_false (by simp) (by tauto)

/-- A line has a text when it begins with a byte other than NUL. -/
theorem typedText_ne_nil {text : List UInt8} :
    typedText text ≠ [] ↔ ∃ letter ∈ text.head?, letter ≠ 0 := by
  cases text with
  | nil => simp [typedText]
  | cons letter text =>
    by_cases hzero : letter = 0 <;> simp [typedText, hzero]

theorem isSome_enteredText {text : List UInt8} :
    (enteredText text).isSome ↔ typedText text ≠ [] := by
  unfold enteredText
  split_ifs with hempty <;> simp [hempty]

/-- The automaton of the new password stops within texts among which there is one. -/
theorem isRight_after_agreement {texts : List (List UInt8)} :
    (after agreement none texts).isRight ↔ Agrees texts := by
  obtain ⟨length, hlength⟩ : ∃ length, texts.length = length := ⟨_, rfl⟩
  induction length using Nat.strong_induction_on generalizing texts with
  | _ length ih =>
    cases texts with
    | nil => exact iff_of_false (by simp [after]) nofun
    | cons first rest =>
      by_cases hempty : typedText first = []
      · have hrest := ih rest.length (by simp [← hlength]) rfl
        rw [after, agreement, dif_pos hempty, hrest]
        refine ⟨.empty hempty, fun hagrees ↦ ?_⟩
        cases hagrees with
        | same hentered => exact absurd hempty hentered
        | empty _ hrest => exact hrest
        | differ hentered => exact absurd hempty hentered
      · rw [after, agreement, dif_neg hempty]
        dsimp only
        cases rest with
        | nil =>
          refine iff_of_false (by simp [after]) fun hagrees ↦ ?_
          cases hagrees with
          | empty hempty' => exact hempty hempty'
        | cons second rest =>
          by_cases hsame : typedText first = typedText second
          · rw [after, agreement, if_pos hsame]
            exact iff_of_true rfl (.same hempty hsame)
          · have hrest := ih rest.length (by simp [← hlength]) rfl
            rw [after, agreement, if_neg hsame]
            dsimp only
            rw [hrest]
            refine ⟨.differ hempty hsame, fun hagrees ↦ ?_⟩
            cases hagrees with
            | same _ hsame' => exact absurd hsame' hsame
            | empty hempty' => exact absurd hempty' hempty
            | differ _ _ hrest => exact hrest

/-- No empty line gives a new password. -/
theorem agreement_nil (entered : Option EnteredText) :
    ∃ next, agreement entered [] = .inl next := by
  cases entered with
  | none => exact ⟨none, rfl⟩
  | some entered => exact ⟨none, if_neg entered.2⟩

/-- On any finite stdin, each of the three prompts comes to an end if and only if the bytes answer
it. -/
theorem prompt_finishes_iff {δ : Type} (device : Surroundings Scsi δ) (state : δ)
    (stack : MainStack) (prompt : Prompt) (bytes : List UInt8) :
    prompt.Finishes device state stack bytes ↔ prompt.Answered bytes := by
  cases prompt with
  | confirm =>
    refine (conducts_confirm.returns_iff device state _).trans ?_
    rw [session_ofList_iff fun _ ↦ ⟨(), rfl⟩, isRight_after_untilSome]
    simp only [isSome_firstAnswer]
    rfl
  | password =>
    refine ((conducts_askPassword stack.password).returns_iff device state _).trans ?_
    rw [session_ofList_iff fun _ ↦ ⟨(), rfl⟩, isRight_after_untilSome]
    simp only [isSome_enteredText, typedText_ne_nil]
    rfl
  | newPassword =>
    refine ((conducts_askNewPassword stack.newPassword stack.validatePassword).returns_iff device
      state _).trans ?_
    rw [session_ofList_iff agreement_nil, isRight_after_agreement]
    rfl

/-- On an empty stdin none of the three prompts comes to an end. -/
theorem prompts_on_empty_stdin :
    ¬ Prompt.confirm.Finishes (fun _ _ ↦ (.success 0 [], ())) () zeroMainStack [] ∧
      ¬ Prompt.password.Finishes (fun _ _ ↦ (.success 0 [], ())) () zeroMainStack [] ∧
      ¬ Prompt.newPassword.Finishes (fun _ _ ↦ (.success 0 [], ())) () zeroMainStack [] := by
  refine ⟨fun hfinishes ↦ ?_, fun hfinishes ↦ ?_, fun hfinishes ↦ ?_⟩
  · obtain ⟨_, _, _, hsession⟩ := (conducts_confirm.returns_iff _ _ _).mp hfinishes
    exact not_session_ofList_nil (fun _ ↦ ⟨(), rfl⟩) hsession
  · obtain ⟨_, _, _, hsession⟩ := ((conducts_askPassword _).returns_iff _ _ _).mp hfinishes
    exact not_session_ofList_nil (fun _ ↦ ⟨(), rfl⟩) hsession
  · obtain ⟨_, _, _, hsession⟩ := ((conducts_askNewPassword _ _).returns_iff _ _ _).mp hfinishes
    exact not_session_ofList_nil agreement_nil hsession

end U3Tool
