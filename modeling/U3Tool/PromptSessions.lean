import U3Tool.Confirmation
import U3Tool.SecureInput

/-!
# The prompts as sessions over lines

The three loops of `main.c` that read stdin until they have an answer are sessions over lines:
`confirm` over the pieces its inner loop reads, which a byte 0xFF ends as a newline does, the two
password loops over lines. `Conducts` says that a program conducts the sessions of an automaton: it
returns, with enough fuel, at the end of every session and nowhere else, having read the lines of
the session. The automata are `firstAnswer` (`conducts_confirm`), `enteredText`
(`conducts_askPassword`) and `agreement` (`conducts_askNewPassword`).
-/

set_option autoImplicit false
set_option relaxedAutoImplicit false

namespace U3Tool

open Interaction Bytes Program Lines

variable {α β σ : Type}

/-- A program with fuel conducts the sessions of an automaton: against any device it returns, with
enough fuel, at the end of every session and nowhere else, with the value of the session and having
read its lines. -/
structure Conducts (newline : UInt8 → Prop) (step : σ → List UInt8 → σ ⊕ β) (start : σ)
    (p : ℕ → ToolProgram α) (view : α → β) : Prop where
  returns : ∀ {δ : Type} (device : Surroundings Scsi δ) {input rest : Input UInt8}
    {lines : List (Line UInt8)} {value : β} (state : δ),
    Session newline step input start lines value rest → ∃ enough, ∀ fuel ≥ enough,
      ∃ answer trace, exec (desk device) (p fuel) (reading state input) =
          ⟨.ok answer, trace, reading state rest⟩ ∧
        view answer = value ∧ fgetcReplies trace = lines.flatMap Line.replies
  session : ∀ {δ : Type} {device : Surroundings Scsi δ} {input : Input UInt8} {fuel : ℕ}
    {answer : α} {state : δ},
    (exec (desk device) (p fuel) (reading state input)).result = .ok answer →
      ∃ lines rest, Session newline step input start lines (view answer) rest ∧
        (exec (desk device) (p fuel) (reading state input)).final = reading state rest ∧
        fgetcReplies (exec (desk device) (p fuel) (reading state input)).trace =
          lines.flatMap Line.replies

/-- A conducted loop returns on an input with some fuel if and only if the input has a session. -/
theorem Conducts.returns_iff {newline : UInt8 → Prop} {step : σ → List UInt8 → σ ⊕ β} {start : σ}
    {p : ℕ → ToolProgram α} {view : α → β} (hp : Conducts newline step start p view) {δ : Type}
    (device : Surroundings Scsi δ) (state : δ) (input : Input UInt8) :
    (∃ fuel answer, (exec (desk device) (p fuel) (reading state input)).result = .ok answer) ↔
      ∃ lines value rest, Session newline step input start lines value rest := by
  constructor
  · rintro ⟨fuel, answer, hreturns⟩
    obtain ⟨lines, rest, hsession, -⟩ := hp.session hreturns
    exact ⟨lines, _, rest, hsession⟩
  · rintro ⟨lines, value, rest, hsession⟩
    obtain ⟨enough, hreturns⟩ := hp.returns device state hsession
    obtain ⟨answer, trace, hexec, -⟩ := hreturns enough le_rfl
    exact ⟨enough, answer, congrArg Execution.result hexec⟩

variable {δ : Type} {device : Surroundings Scsi δ} {ρ : Type}

/-- One turn of a loop over lines, in a state of the loop and with some fuel: a line is read, and
the loop returns or continues in another state, as the automaton says. -/
inductive Turn (step : σ → List UInt8 → σ ⊕ β) (p : ρ → ℕ → ToolProgram α) (viewState : ρ → σ)
    (view : α → β) (device : Surroundings Scsi δ) (state : δ) (now : ρ) (fuel : ℕ)
    (input : Input UInt8) (line : Line UInt8) (rest : Input UInt8) : Prop
  | stops {answer : α} {first : List (Event Tool)}
      (hstep : step (viewState now) line.text = .inr (view answer))
      (hexec : exec (desk device) (p now fuel) (reading state input) =
        ⟨.ok answer, first, reading state rest⟩)
      (hreplies : fgetcReplies first = line.replies)
  | goes (next : ρ) {more : ℕ} {first : List (Event Tool)}
      (hstep : step (viewState now) line.text = .inl (viewState next)) (hfuel : fuel ≤ more + 1)
      (hexec : exec (desk device) (p now fuel) (reading state input) =
        ⟨(exec (desk device) (p next more) (reading state rest)).result,
          first ++ (exec (desk device) (p next more) (reading state rest)).trace,
          (exec (desk device) (p next more) (reading state rest)).final⟩)
      (hreplies : fgetcReplies first = line.replies)

/-- A loop over lines: with enough fuel it takes a turn for the next line, and it returns only after
a turn. -/
structure LineLoop (newline : UInt8 → Prop) (step : σ → List UInt8 → σ ⊕ β)
    (p : ρ → ℕ → ToolProgram α) (viewState : ρ → σ) (view : α → β) : Prop where
  turn : ∀ {δ : Type} (device : Surroundings Scsi δ) {input rest : Input UInt8}
    {line : Line UInt8} (now : ρ) (fuel : ℕ) (state : δ), NextLine newline input line rest →
      line.text.length < fuel → Turn step p viewState view device state now fuel input line rest
  turned : ∀ {δ : Type} {device : Surroundings Scsi δ} {input : Input UInt8} (now : ρ) (fuel : ℕ)
    (answer : α) (state : δ),
    (exec (desk device) (p now fuel) (reading state input)).result = .ok answer →
      ∃ line rest, NextLine newline input line rest ∧
        Turn step p viewState view device state now fuel input line rest

section LineLoop

variable {newline : UInt8 → Prop} {step : σ → List UInt8 → σ ⊕ β} {p : ρ → ℕ → ToolProgram α}
  {viewState : ρ → σ} {view : α → β}

/-- A loop over lines returns, with enough fuel, at the end of a session. How much is enough depends
on the lines alone. -/
theorem LineLoop.returns (hloop : LineLoop newline step p viewState view)
    (device : Surroundings Scsi δ) {input rest : Input UInt8} {start : σ}
    {lines : List (Line UInt8)} {value : β}
    (hsession : Session newline step input start lines value rest) (state : δ) :
    ∃ enough, ∀ now, viewState now = start → ∀ fuel ≥ enough, ∃ answer trace,
      exec (desk device) (p now fuel) (reading state input) =
          ⟨.ok answer, trace, reading state rest⟩ ∧
        view answer = value ∧ fgetcReplies trace = lines.flatMap Line.replies := by
  induction hsession with
  | @stop input rest start line value hline hvalue =>
    refine ⟨line.text.length + 1, fun now hnow fuel hfuel ↦ ?_⟩
    subst hnow
    cases hloop.turn device now fuel state hline hfuel with
    | stops hstep hexec hreplies =>
      exact ⟨_, _, hexec, Sum.inr.inj (hstep.symm.trans hvalue), by simp [hreplies]⟩
    | goes next hstep => exact absurd (hstep.symm.trans hvalue) (by simp)
  | @move input middle rest start next line lines value hline hnext _ ih =>
    obtain ⟨enough, hreturns⟩ := ih
    refine ⟨line.text.length + 1 + enough, fun now hnow fuel hfuel ↦ ?_⟩
    subst hnow
    cases hloop.turn device now fuel state hline (by omega) with
    | stops hstep => exact absurd (hstep.symm.trans hnext) (by simp)
    | @goes now' more first hstep hmore hexec hreplies =>
      obtain ⟨answer, trace, hrest, hanswer, hlater⟩ :=
        hreturns now' (Sum.inl.inj (hstep.symm.trans hnext)) more (by omega)
      refine ⟨answer, first ++ trace, ?_, hanswer, by simp [hreplies, hlater]⟩
      rw [hexec, hrest]

/-- A loop over lines returns only at the end of a session. The induction is on the length of the
trace, which every turn makes longer. -/
theorem LineLoop.session (hloop : LineLoop newline step p viewState view) {input : Input UInt8}
    {now : ρ} {fuel : ℕ} {answer : α} {state : δ}
    (hreturns : (exec (desk device) (p now fuel) (reading state input)).result = .ok answer) :
    ∃ lines rest, Session newline step input (viewState now) lines (view answer) rest ∧
      (exec (desk device) (p now fuel) (reading state input)).final = reading state rest ∧
      fgetcReplies (exec (desk device) (p now fuel) (reading state input)).trace =
        lines.flatMap Line.replies := by
  obtain ⟨length, hlength⟩ : ∃ length,
      (exec (desk device) (p now fuel) (reading state input)).trace.length = length := ⟨_, rfl⟩
  induction length using Nat.strong_induction_on generalizing now fuel input with
  | _ length ih =>
    obtain ⟨line, rest, hline, hturn⟩ := hloop.turned now fuel answer state hreturns
    cases hturn with
    | stops hstep hexec hreplies =>
      rw [hexec] at hreturns ⊢
      obtain rfl := Except.ok.inj hreturns
      exact ⟨[line], rest, .stop hline hstep, rfl, by simp [hreplies]⟩
    | @goes next more first hstep _ hexec hreplies =>
      rw [hexec] at hreturns hlength ⊢
      have hfirst : first ≠ [] := by
        rintro rfl
        exact absurd hreplies (by simp [Line.replies])
      rw [List.length_append] at hlength
      obtain ⟨lines, last, hsession, hfinal, hlater⟩ :=
        ih _ (by have := List.length_pos_iff.mpr hfirst; omega) hreturns rfl
      exact ⟨line :: lines, last, .move hline hstep hsession, hfinal, by simp [hreplies, hlater]⟩

/-- A loop over lines conducts the sessions of its automaton. -/
theorem LineLoop.conducts (hloop : LineLoop newline step p viewState view) (now : ρ) :
    Conducts newline step (viewState now) (p now) view where
  returns {δ} device {input rest lines value} state hsession := by
    obtain ⟨enough, hreturns⟩ := hloop.returns device hsession state
    exact ⟨enough, hreturns now rfl⟩
  session hreturns := hloop.session hreturns

end LineLoop

/-- A printed text leaves the surroundings as they are. -/
theorem exec_print_bind (stream : Stream) (text : List UInt8) (continuation : Unit → ToolProgram α)
    (state : Desk δ) :
    exec (desk device) ((perform (I := Tool) (.print stream text) : ToolProgram Unit) >>=
      continuation) state =
        ⟨(exec (desk device) (continuation ()) state).result,
          ⟨.print stream text, ()⟩ :: (exec (desk device) (continuation ()) state).trace,
          (exec (desk device) (continuation ()) state).final⟩ := rfl

/-! ### `confirm` -/

/-- The bytes that end the inner loop of `confirm`: a newline, and the byte that an `EOF` stored in
a signed `char` cannot be told from. -/
def StopsDrop (byte : UInt8) : Prop := byte = 10 ∨ byte = 255

instance : DecidablePred StopsDrop := fun byte ↦
  inferInstanceAs (Decidable (byte = 10 ∨ byte = 255))

/-- The answer that a text gives by its first byte. -/
def firstAnswer (text : List UInt8) : Option Bool := answerOf (toChar text.head?)

theorem toChar_stops_iff (reply : Option UInt8) :
    toChar reply = 10 ∨ toChar reply = -1 ↔ Ends StopsDrop reply := by
  cases reply with
  | none => simp [toChar]
  | some byte =>
    have hten : byte.toInt8 = 10 ↔ byte = 10 :=
      ⟨fun heq ↦ congrArg Int8.toUInt8 heq, fun heq ↦ congrArg UInt8.toInt8 heq⟩
    have hlast : byte.toInt8 = -1 ↔ byte = 255 :=
      ⟨fun heq ↦ congrArg Int8.toUInt8 heq, fun heq ↦ congrArg UInt8.toInt8 heq⟩
    rw [ends_some, StopsDrop, toChar, hten, hlast]

/-- The inner loop of `confirm` drains what is left of a piece. -/
theorem dropLine_eq_drain (fuel : ℕ) (reply : Option UInt8) :
    dropLine fuel (toChar reply) = drain StopsDrop fuel reply := by
  induction fuel generalizing reply with
  | zero => simp only [dropLine, drain, toChar_stops_iff]
  | succ fuel ih => simp only [dropLine, drain, toChar_stops_iff, ih]

/-- The first character of a piece gives the answer of its text. -/
theorem answerOf_head {input rest : Input UInt8} {line : Line UInt8}
    (hline : NextLine StopsDrop input line rest) :
    answerOf (toChar input.head) = firstAnswer line.text := by
  cases hline with
  | close hends =>
    have hstops := (toChar_stops_iff _).mpr hends
    rcases hstops with hstops | hstops <;> rw [hstops] <;> rfl
  | byte hfirst _ _ => rw [hfirst]; rfl

/-- One turn of `confirm`: a piece is read, and answers or does not. -/
theorem turn_confirm {input rest : Input UInt8} {line : Line UInt8}
    (hline : NextLine StopsDrop input line rest) {fuel : ℕ} (hfuel : line.text.length ≤ fuel)
    (state : δ) :
    Turn (untilSome firstAnswer) (fun _ : Unit ↦ confirm) id id device state () (fuel + 1) input
      line rest := by
  obtain ⟨dropped, hdrop, hdropped⟩ := @exec_drain δ device _ _ _ _ _ hline fuel hfuel state
  rw [← dropLine_eq_drain] at hdrop
  have hreplies : fgetcReplies (promptEvent :: ⟨.fgetc, input.head⟩ :: dropped) = line.replies :=
    hdropped
  cases hanswer : firstAnswer line.text with
  | some answer =>
    have hexec : exec (desk device) (confirmLoop (fuel + 1)) (reading state input) =
        ⟨.ok answer, promptEvent :: ⟨.fgetc, input.head⟩ :: dropped, reading state rest⟩ := by
      rw [confirmLoop, printf, exec_print_bind, exec_fgetc_bind, exec_bind_of_eq hdrop,
        answerOf_head hline, hanswer, exec_done, List.append_nil]
      rfl
    exact .stops (untilSome_eq_inr.mpr hanswer) hexec hreplies
  | none =>
    have hexec : exec (desk device) (confirmLoop (fuel + 1)) (reading state input) =
        ⟨(exec (desk device) (confirmLoop fuel) (reading state rest)).result,
          promptEvent :: ⟨.fgetc, input.head⟩ :: dropped ++
            (exec (desk device) (confirmLoop fuel) (reading state rest)).trace,
          (exec (desk device) (confirmLoop fuel) (reading state rest)).final⟩ := by
      rw [confirmLoop, printf, exec_print_bind, exec_fgetc_bind, exec_bind_of_eq hdrop,
        answerOf_head hline, hanswer]
      rfl
    exact .goes () (untilSome_eq_inl.mpr hanswer) le_rfl hexec hreplies

/-- `confirm` reads a piece in every turn. -/
theorem lineLoop_confirm :
    LineLoop StopsDrop (untilSome firstAnswer) (fun _ : Unit ↦ confirm) id id where
  turn {δ} device {input rest line} _ fuel state hline hfuel := by
    obtain ⟨fuel, rfl⟩ : ∃ more, fuel = more + 1 := ⟨fuel - 1, by omega⟩
    exact turn_confirm hline (by omega) state
  turned {δ device input} now fuel answer state hreturns := by
    cases fuel with
    | zero => simp [confirm, batchMode, confirmLoop] at hreturns
    | succ fuel =>
      have hturn := hreturns
      change (exec (desk device) (confirmLoop (fuel + 1)) (reading state input)).result = _
        at hturn
      rw [confirmLoop, printf, exec_print_bind, exec_fgetc_bind] at hturn
      -- the inner loop returned, so there was a piece to read
      cases hdrop : (exec (desk device) (dropLine fuel (toChar input.head))
          (reading state input.tail)).result with
      | error halt => rw [exec_bind_error hdrop] at hturn; simp at hturn
      | ok value =>
        obtain ⟨line, rest, hline, hfuel⟩ := nextLine_of_exec_drain (dropLine_eq_drain .. ▸ hdrop)
        exact ⟨line, rest, hline, turn_confirm hline hfuel state⟩

/-- `confirm` reads pieces until one begins with an answer. -/
theorem conducts_confirm : Conducts StopsDrop (untilSome firstAnswer) () confirm id :=
  lineLoop_confirm.conducts ()

/-! ### The password -/

/-- The text of a line that a password is taken from: the bytes that fit in the buffer, up to the
first NUL. -/
def typedText (text : List UInt8) : List UInt8 := (text.take 1024).takeWhile (· ≠ 0)

/-- The password that a line gives, if any. -/
def enteredText (text : List UInt8) : Option (List UInt8) :=
  if typedText text = [] then none else some (typedText text)

/-- A call of `secure_input` on a password buffer leaves the text of the next line in it. -/
theorem exec_secureInput_password {input rest : Input UInt8} {line : Line UInt8}
    (hline : NextLine (· = 10) input line rest) {fuel : ℕ} (hfuel : line.text.length ≤ fuel + 1024)
    (password : PasswordBuffer) (state : δ) :
    ∃ entered trace, exec (desk device) (secureInput fuel password) (reading state input) =
        ⟨.ok entered, trace, reading state rest⟩ ∧ fgetcReplies trace = line.replies ∧
      cString entered = typedText line.text := by
  obtain ⟨trace, hexec, hreplies⟩ := @exec_secureInput δ device _ _ _ hline fuel 1025
    (by norm_num) (by omega) password state
  exact ⟨_, trace, hexec, hreplies, cString_lineStored (by norm_num) _ _⟩

/-- What prints a text and reads a line goes on with the line, or does not return. -/
theorem exec_ask_line {input : Input UInt8} {fuel : ℕ} {text : List UInt8}
    {buffer : PasswordBuffer} {continuation : PasswordBuffer → ToolProgram α} {answer : α}
    {state : δ}
    (hreturns : (exec (desk device) (eprint text >>= fun _ ↦ secureInput fuel buffer >>=
      continuation) (reading state input)).result = .ok answer) :
    ∃ line rest, NextLine (· = 10) input line rest ∧ line.text.length ≤ fuel + 1024 := by
  rw [eprint, exec_print_bind] at hreturns
  cases hread : (exec (desk device) (secureInput fuel buffer) (reading state input)).result with
  | error halt => rw [exec_bind_error hread] at hreturns; simp at hreturns
  | ok entered =>
    obtain ⟨line, rest, hline, hfuel⟩ := nextLine_of_exec_secureInput (by norm_num) hread
    exact ⟨line, rest, hline, by omega⟩

/-- One turn of the loop that asks for the password. -/
theorem turn_askPassword {input rest : Input UInt8} {line : Line UInt8}
    (hline : NextLine (· = 10) input line rest) {fuel : ℕ} (hfuel : line.text.length ≤ fuel + 1024)
    (password : PasswordBuffer) (state : δ) :
    Turn (untilSome enteredText) (fun password fuel ↦ askPassword fuel password) (fun _ ↦ ())
      cString device state password (fuel + 1) input line rest := by
  obtain ⟨entered, trace, hread, hreplies, htext⟩ :=
    @exec_secureInput_password δ device _ _ _ hline fuel hfuel password state
  by_cases hempty : typedText line.text = []
  · have hexec : exec (desk device) (askPassword (fuel + 1) password) (reading state input) =
        ⟨(exec (desk device) (askPassword fuel entered) (reading state rest)).result,
          (⟨.print .stderr (ascii "Enter password: "), ()⟩ :: trace ++
            [⟨.print .stderr (ascii "Password Empty\n"), ()⟩]) ++
            (exec (desk device) (askPassword fuel entered) (reading state rest)).trace,
          (exec (desk device) (askPassword fuel entered) (reading state rest)).final⟩ := by
      rw [askPassword, eprint, exec_print_bind, exec_bind_of_eq hread, htext, if_pos hempty,
        eprint, exec_print_bind]
      simp only [List.cons_append, List.append_assoc, List.nil_append]
    exact .goes entered (untilSome_eq_inl.mpr (if_pos hempty)) le_rfl hexec
      (by simpa using hreplies)
  · have hexec : exec (desk device) (askPassword (fuel + 1) password) (reading state input) =
        ⟨.ok entered, ⟨.print .stderr (ascii "Enter password: "), ()⟩ :: trace,
          reading state rest⟩ := by
      rw [askPassword, eprint, exec_print_bind, exec_bind_of_eq hread, htext, if_neg hempty,
        exec_done, List.append_nil]
    exact .stops (untilSome_eq_inr.mpr (by rw [enteredText, if_neg hempty, htext])) hexec
      (by simpa using hreplies)

/-- The loop that asks for the password reads a line in every turn. -/
theorem lineLoop_askPassword :
    LineLoop (· = 10) (untilSome enteredText)
      (fun (password : PasswordBuffer) fuel ↦ askPassword fuel password) (fun _ ↦ ()) cString where
  turn {δ} device {input rest line} password fuel state hline hfuel := by
    obtain ⟨fuel, rfl⟩ : ∃ more, fuel = more + 1 := ⟨fuel - 1, by omega⟩
    exact turn_askPassword hline (by omega) password state
  turned {δ device input} password fuel answer state hreturns := by
    cases fuel with
    | zero => simp [askPassword] at hreturns
    | succ fuel =>
      obtain ⟨line, rest, hline, hfuel⟩ := exec_ask_line hreturns
      exact ⟨line, rest, hline, turn_askPassword hline hfuel password state⟩

/-- The loop that asks for the password reads lines until one has a text. -/
theorem conducts_askPassword (password : PasswordBuffer) :
    Conducts (· = 10) (untilSome enteredText) () (fun fuel ↦ askPassword fuel password) cString :=
  lineLoop_askPassword.conducts password

/-! ### The new password -/

/-- A text that was entered as the new password, which is not empty. -/
abbrev EnteredText := {text : List UInt8 // text ≠ []}

/-- The automaton of the new password: an empty text is asked for again, and a text is accepted when
the next one is the same. -/
def agreement : Option EnteredText → List UInt8 → Option EnteredText ⊕ List UInt8
  | none, text =>
    if hempty : typedText text = [] then .inl none else .inl (some ⟨typedText text, hempty⟩)
  | some entered, text => if entered.1 = typedText text then .inr entered.1 else .inl none

/-- The second half of a turn of the loop that asks for the new password. -/
def reenterPassword (fuel : ℕ) (newPassword validatePassword : PasswordBuffer) :
    ToolProgram PasswordBuffer := do
  eprint (ascii "Reenter new password: ")
  let validatePassword ← secureInput fuel validatePassword
  if cString newPassword = cString validatePassword then
    .done newPassword
  else do
    eprint (ascii "Passwords don't match\n")
    askNewPassword fuel newPassword (.fill 1025 0)

/-- Where the loop that asks for the new password stands, with its two buffers: before the first
line, or between a line with a text and its repetition. -/
inductive Entry
  | first (newPassword validatePassword : PasswordBuffer)
  | again (newPassword validatePassword : PasswordBuffer) (hentered : cString newPassword ≠ [])

/-- The text that was entered. -/
def Entry.text : Entry → Option EnteredText
  | .first _ _ => none
  | .again newPassword _ hentered => some ⟨cString newPassword, hentered⟩

/-- What the loop does from there. -/
def Entry.program : Entry → ℕ → ToolProgram PasswordBuffer
  | .first newPassword validatePassword, fuel => askNewPassword fuel newPassword validatePassword
  | .again newPassword validatePassword _, fuel =>
    reenterPassword fuel newPassword validatePassword

/-- The first half of a turn of the loop that asks for the new password. -/
theorem turn_askNewPassword {input rest : Input UInt8} {line : Line UInt8}
    (hline : NextLine (· = 10) input line rest) {fuel : ℕ} (hfuel : line.text.length ≤ fuel + 1024)
    (newPassword validatePassword : PasswordBuffer) (state : δ) :
    Turn agreement Entry.program Entry.text cString device state
      (.first newPassword validatePassword) (fuel + 1) input line rest := by
  obtain ⟨entered, trace, hread, hreplies, htext⟩ :=
    @exec_secureInput_password δ device _ _ _ hline fuel hfuel newPassword state
  by_cases hempty : typedText line.text = []
  · have hexec : exec (desk device) (askNewPassword (fuel + 1) newPassword validatePassword)
        (reading state input) =
          ⟨(exec (desk device) (askNewPassword fuel entered validatePassword)
              (reading state rest)).result,
            (⟨.print .stderr (ascii "Enter new password: "), ()⟩ :: trace ++
              [⟨.print .stderr (ascii "Password Empty\n"), ()⟩]) ++
              (exec (desk device) (askNewPassword fuel entered validatePassword)
                (reading state rest)).trace,
            (exec (desk device) (askNewPassword fuel entered validatePassword)
              (reading state rest)).final⟩ := by
      rw [askNewPassword, eprint, exec_print_bind, exec_bind_of_eq hread, htext, if_pos hempty,
        eprint, exec_print_bind]
      simp only [List.cons_append, List.append_assoc, List.nil_append]
    exact .goes (.first entered validatePassword) (by simp [agreement, Entry.text, hempty]) le_rfl
      hexec (by simpa using hreplies)
  · have hentered : cString entered ≠ [] := by rwa [htext]
    have hexec : exec (desk device) (askNewPassword (fuel + 1) newPassword validatePassword)
        (reading state input) =
          ⟨(exec (desk device) (reenterPassword fuel entered validatePassword)
              (reading state rest)).result,
            (⟨.print .stderr (ascii "Enter new password: "), ()⟩ :: trace) ++
              (exec (desk device) (reenterPassword fuel entered validatePassword)
                (reading state rest)).trace,
            (exec (desk device) (reenterPassword fuel entered validatePassword)
              (reading state rest)).final⟩ := by
      rw [askNewPassword, eprint, exec_print_bind, exec_bind_of_eq hread, if_neg hentered]
      rfl
    exact .goes (.again entered validatePassword hentered)
      (by simp [agreement, Entry.text, hempty, htext]) le_rfl hexec (by simpa using hreplies)

/-- The second half of a turn of the loop that asks for the new password. -/
theorem turn_reenterPassword {input rest : Input UInt8} {line : Line UInt8}
    (hline : NextLine (· = 10) input line rest) {fuel : ℕ} (hfuel : line.text.length ≤ fuel + 1024)
    (newPassword validatePassword : PasswordBuffer) (hentered : cString newPassword ≠ [])
    (state : δ) :
    Turn agreement Entry.program Entry.text cString device state
      (.again newPassword validatePassword hentered) fuel input line rest := by
  obtain ⟨repeated, trace, hread, hreplies, htext⟩ :=
    @exec_secureInput_password δ device _ _ _ hline fuel hfuel validatePassword state
  by_cases hsame : cString newPassword = typedText line.text
  · have hexec : exec (desk device) (reenterPassword fuel newPassword validatePassword)
        (reading state input) =
          ⟨.ok newPassword, ⟨.print .stderr (ascii "Reenter new password: "), ()⟩ :: trace,
            reading state rest⟩ := by
      rw [reenterPassword, eprint, exec_print_bind, exec_bind_of_eq hread, htext, if_pos hsame,
        exec_done, List.append_nil]
    exact .stops (by simp [agreement, Entry.text, hsame]) hexec (by simpa using hreplies)
  · have hexec : exec (desk device) (reenterPassword fuel newPassword validatePassword)
        (reading state input) =
          ⟨(exec (desk device) (askNewPassword fuel newPassword (.fill 1025 0))
              (reading state rest)).result,
            (⟨.print .stderr (ascii "Reenter new password: "), ()⟩ :: trace ++
              [⟨.print .stderr (ascii "Passwords don't match\n"), ()⟩]) ++
              (exec (desk device) (askNewPassword fuel newPassword (.fill 1025 0))
                (reading state rest)).trace,
            (exec (desk device) (askNewPassword fuel newPassword (.fill 1025 0))
              (reading state rest)).final⟩ := by
      rw [reenterPassword, eprint, exec_print_bind, exec_bind_of_eq hread, htext, if_neg hsame,
        eprint, exec_print_bind]
      simp only [List.cons_append, List.append_assoc, List.nil_append]
    exact .goes (.first newPassword (.fill 1025 0)) (by simp [agreement, Entry.text, hsame])
      (Nat.le_succ fuel) hexec (by simpa using hreplies)

/-- The loop that asks for the new password reads a line in each half of a turn. -/
theorem lineLoop_askNewPassword :
    LineLoop (· = 10) agreement Entry.program Entry.text cString where
  turn {δ} device {input rest line} now fuel state hline hfuel := by
    cases now with
    | first newPassword validatePassword =>
      obtain ⟨fuel, rfl⟩ : ∃ more, fuel = more + 1 := ⟨fuel - 1, by omega⟩
      exact turn_askNewPassword hline (by omega) _ _ state
    | again newPassword validatePassword hentered =>
      exact turn_reenterPassword hline (by omega) _ _ hentered state
  turned {δ device input} now fuel answer state hreturns := by
    cases now with
    | first newPassword validatePassword =>
      cases fuel with
      | zero => simp [Entry.program, askNewPassword] at hreturns
      | succ fuel =>
        obtain ⟨line, rest, hline, hfuel⟩ := exec_ask_line hreturns
        exact ⟨line, rest, hline, turn_askNewPassword hline hfuel _ _ state⟩
    | again newPassword validatePassword hentered =>
      obtain ⟨line, rest, hline, hfuel⟩ := exec_ask_line hreturns
      exact ⟨line, rest, hline, turn_reenterPassword hline hfuel _ _ hentered state⟩

/-- The loop that asks for the new password reads lines until a text is repeated. -/
theorem conducts_askNewPassword (newPassword validatePassword : PasswordBuffer) :
    Conducts (· = 10) agreement none
      (fun fuel ↦ askNewPassword fuel newPassword validatePassword) cString :=
  lineLoop_askNewPassword.conducts (.first newPassword validatePassword)

end U3Tool
