import U3Tool.MainGuard
import U3Tool.PromptSessions

/-!
# The new password

The loop that asks for the new password compares two buffers as C strings, each of which holds as
much of its line as fits. What it accepts is the text that the two most recent lines have in common
(`AcceptedText`): the first 1024 bytes of a line, up to its first NUL. Two lines that agree so far
are taken for the same password, whatever follows (`askNewPassword_accepts_differing_lines`).

The two actions that set a password send a hash of that text and of nothing else: `CarriesHash` is
kept by every request of theirs, and `new_password_agreement` follows a run from stdin to the
command.
-/

set_option autoImplicit false
set_option relaxedAutoImplicit false

namespace U3Tool

open Interaction Bytes Program Lines

variable {δ : Type} {device : Surroundings Scsi δ}

/-! ### What the loop accepts -/

/-- A text that is accepted as the new password after some lines of an input: it is not empty, the
last two lines have it, and a line without a NUL that fits in the buffer is its own text. -/
structure AcceptedText (input : Input UInt8) (lines : List (Line UInt8)) (text : List UInt8)
    (rest : Input UInt8) : Prop where
  nextLines : NextLines (· = 10) input lines rest
  entered : text ≠ []
  twice : ∃ before first second, lines = before ++ [first, second] ∧
    typedText first.text = text ∧ typedText second.text = text
  whole : ∀ line ∈ lines, line.text.length ≤ 1024 → 0 ∉ line.text → typedText line.text = line.text

/-- A line without a NUL that fits in the buffer is its own text. -/
theorem typedText_eq_self {text : List UInt8} (hlength : text.length ≤ 1024) (hzero : 0 ∉ text) :
    typedText text = text := by
  rw [typedText, List.take_of_length_le hlength, List.takeWhile_eq_self_iff]
  intro byte hbyte
  simpa using fun heq : byte = 0 ↦ hzero (heq ▸ hbyte)

/-- A session of the automaton ends with two lines of one text, or, from a text that was entered,
with a line of that text. -/
theorem ends_of_session {input rest : Input UInt8} {entered : Option EnteredText}
    {lines : List (Line UInt8)} {text : List UInt8}
    (hsession : Session (· = 10) agreement input entered lines text rest) :
    (text ≠ [] ∧ ∃ before first second, lines = before ++ [first, second] ∧
        typedText first.text = text ∧ typedText second.text = text) ∨
      ∃ before line, entered = some before ∧ before.1 = text ∧ lines = [line] ∧
        typedText line.text = text := by
  induction hsession with
  | @stop input rest entered line text hline hstep =>
    cases entered with
    | none =>
      rw [agreement] at hstep
      split_ifs at hstep
    | some before =>
      rw [agreement] at hstep
      split_ifs at hstep with hsame
      obtain rfl := Sum.inr.inj hstep
      exact Or.inr ⟨before, line, rfl, rfl, rfl, hsame.symm⟩
  | @move input middle rest entered next line lines text hline hstep _ ih =>
    refine Or.inl ?_
    rcases ih with ⟨hentered, before, first, second, rfl, htexts⟩ |
      ⟨before, second, rfl, rfl, rfl, htext⟩
    · exact ⟨hentered, line :: before, first, second, rfl, htexts⟩
    · -- the automaton has moved to the text of the first of the two lines
      have hfirst : typedText line.text = before.1 := by
        cases entered with
        | none =>
          rw [agreement] at hstep
          split_ifs at hstep
          · simp at hstep
          · exact congrArg Subtype.val (Option.some.inj (Sum.inl.inj hstep))
        | some entered =>
          rw [agreement] at hstep
          split_ifs at hstep
          simp at hstep
      exact ⟨before.2, [], line, second, rfl, hfirst, htext⟩

/-- A session of the automaton ends with an accepted text. -/
theorem acceptedText_of_session {input rest : Input UInt8} {lines : List (Line UInt8)}
    {text : List UInt8} (hsession : Session (· = 10) agreement input none lines text rest) :
    AcceptedText input lines text rest := by
  rcases ends_of_session hsession with ⟨hentered, htwice⟩ | ⟨before, line, hnone, -⟩
  · exact ⟨hsession.nextLines, hentered, htwice, fun _ _ hlength hzero ↦
      typedText_eq_self hlength hzero⟩
  · exact absurd hnone (by simp)

/-- When the loop returns, it has accepted the text in its buffer, and read the lines up to it. -/
theorem acceptedText_of_exec {input : Input UInt8} {fuel : ℕ}
    {newPassword validatePassword password : PasswordBuffer} {state : δ}
    (hreturns : (exec (desk device) (askNewPassword fuel newPassword validatePassword)
      (reading state input)).result = .ok password) :
    ∃ lines rest, AcceptedText input lines (cString password) rest ∧
      (exec (desk device) (askNewPassword fuel newPassword validatePassword)
        (reading state input)).final = reading state rest ∧
      fgetcReplies (exec (desk device) (askNewPassword fuel newPassword validatePassword)
        (reading state input)).trace = lines.flatMap Line.replies := by
  obtain ⟨lines, rest, hsession, hfinal, hreplies⟩ :=
    (conducts_askNewPassword newPassword validatePassword).session hreturns
  exact ⟨lines, rest, acceptedText_of_session hsession, hfinal, hreplies⟩

/-! ### What the actions send -/

/-- If a request sets a password, its data end with a given hash. -/
def CarriesHash (hash : List UInt8) (request : CmdRequest) : Prop :=
  request.command ∈ ([0xA2, 0xA6] : List UInt16) → hash <:+ request.data

/-- A request of the tool that carries a hash if it sets a password. -/
def SendsHash (hash : List UInt8) : ToolRequest → Prop
  | .sendCmd request => CarriesHash hash request
  | _ => True

theorem SendsHash.of_talks {hash : List UInt8} {request : ToolRequest} (htalks : Talks request) :
    SendsHash hash request := by
  cases request with
  | sendCmd request => exact htalks.elim
  | fgetc => trivial
  | quit => trivial
  | print _ _ => trivial

/-- A query sets no password. -/
theorem asks_carriesHash_of_isQuery {α : Type} {p : Command α} (hp : IsQuery p)
    (hash : List UInt8) : Asks (CarriesHash hash) p where
  of_run hrun event hevent hcommand := by
    refine absurd ?_ (hp.not_changing hrun event hevent)
    unfold Changing deviceChanging
    simp only [List.mem_cons, List.not_mem_nil, or_false] at hcommand ⊢
    tauto

/-- A command function inside the tool sends what it asks. -/
theorem sendsHash_command {α : Type} {p : Command α} {hash : List UInt8}
    (hp : Asks (CarriesHash hash) p) : Asks (SendsHash hash) (command p) :=
  asks_command hp

/-- A message followed by a return. -/
theorem sendsHash_print_done {α : Type} {hash : List UInt8} {stream : Stream} {text : List UInt8}
    (value : α) : Asks (SendsHash hash) ((perform (I := Tool) (.print stream text) :
      ToolProgram Unit) >>= fun _ ↦ .done value) :=
  .ask trivial fun _ ↦ .done value

section Actions

variable (md5 : List UInt8 → Buffer 16) (newPassword : List UInt8)

/-- `u3_enable_security` sends the hash of its password. -/
theorem carriesHash_u3EnableSecurity (roundedSize : Buffer 4) :
    Asks (CarriesHash (u3PassToHash md5 newPassword).bytes)
      (u3EnableSecurity md5 newPassword roundedSize) := by
  refine (asks_carriesHash_of_isQuery (isQuery_u3DataPartitionInfo.mapError _) _).bind fun info ↦
    (asks_carriesHash_of_isQuery (isQuery_roundZoneSize _ _) _).bind fun zoneSize ↦
      Asks.bind ?_ fun _ ↦ .done _
  refine (asks_u3SendCmd fun _ ↦ List.suffix_append _ _).bind fun sent ↦ ?_
  dsimp only
  split_ifs
  · exact .fail _
  · exact .done _

/-- `u3_change_password` sends the hash of its new password last. -/
theorem carriesHash_u3ChangePassword (oldPassword : List UInt8) :
    Asks (CarriesHash (u3PassToHash md5 newPassword).bytes)
      (u3ChangePassword md5 oldPassword newPassword) :=
  (asks_u3SendCmd fun _ ↦ List.suffix_append _ _).bind fun _ ↦ .done _

theorem sendsHash_doEnableSecurity (roundedSize : Buffer 4) :
    Asks (SendsHash (u3PassToHash md5 newPassword).bytes)
      (doEnableSecurity md5 newPassword roundedSize) :=
  asks_command_bind (sendsHash_command (carriesHash_u3EnableSecurity md5 newPassword _))
    (fun _ ↦ sendsHash_print_done _) fun _ ↦ .done _

theorem sendsHash_getTriesLeft (hash : List UInt8) (securityProperties : Property0C) :
    Asks (SendsHash hash) (getTriesLeft securityProperties) :=
  asks_command_bind
    (sendsHash_command (asks_carriesHash_of_isQuery isQuery_u3DataPartitionInfo hash))
    (fun _ ↦ sendsHash_print_done _) fun _ ↦
    asks_command_bind
      (sendsHash_command (asks_carriesHash_of_isQuery (isQuery_u3ReadDeviceProperty _ _) hash))
      (fun _ ↦ sendsHash_print_done _) fun _ ↦ .done _

theorem sendsHash_sendPassword {hash : List UInt8} {function : String} {p : Command Bool}
    (hp : Asks (CarriesHash hash) p) : Asks (SendsHash hash) (sendPassword function p) :=
  asks_command_bind (sendsHash_command hp) (fun _ ↦ sendsHash_print_done _) fun accepted ↦ by
    cases accepted <;> exact sendsHash_print_done _

theorem sendsHash_guardedAction {hash : List UInt8} {p : Command Bool}
    (hp : Asks (CarriesHash hash) p) (fuel : ℕ) (securityProperties : Property0C)
    (verb function : String) :
    Asks (SendsHash hash) (guardedAction fuel securityProperties verb function p) := by
  refine (sendsHash_getTriesLeft hash _).bind fun triesLeft ↦ ?_
  cases triesLeft with
  | none => exact .done _
  | some triesLeft =>
    dsimp only [guardPassword]
    split_ifs
    · exact sendsHash_print_done _
    · refine Asks.bind (.ask trivial fun _ ↦ .perform trivial) fun _ ↦
        ((asks_confirm fuel).mono fun _ ↦ SendsHash.of_talks).bind fun confirmed ↦ ?_
      split_ifs
      · exact sendsHash_sendPassword hp
      · exact .done _
    · exact sendsHash_sendPassword hp

/-- An action that sets a password sends the hash of the new password it is given. -/
theorem sendsHash_performAction (world : World) (fuel : ℕ) (stack : MainStack) {options : Options}
    (haction : options.action = .changePassword ∨ options.action = .enableSecurity)
    (password : List UInt8) :
    Asks (SendsHash (u3PassToHash world.md5 newPassword).bytes)
      (performAction world fuel stack options password newPassword) := by
  rcases haction with haction | haction
  · simp only [performAction, doAction, haction]
    exact (sendsHash_guardedAction (carriesHash_u3ChangePassword _ _ _) _ _ _ _).bind
      fun _ ↦ .done _
  · simp only [performAction, doAction, haction]
    refine ((talks_printAll _).mono fun _ ↦ SendsHash.of_talks).bind fun _ ↦
      ((asks_confirm fuel).mono fun _ ↦ SendsHash.of_talks).bind fun confirmed ↦ ?_
    split_ifs
    · exact (sendsHash_doEnableSecurity _ _ _).bind fun _ ↦ .done _
    · exact .done _

end Actions

/-! ### From stdin to the command -/

/-- The password prompt leaves the device as it is. -/
theorem exists_final_passwordFor {input : Input UInt8} {fuel : ℕ} {action : Action}
    {buffer password : PasswordBuffer} {state : δ}
    (hreturns : (exec (desk device) (passwordFor fuel action buffer) (reading state input)).result =
      .ok password) :
    ∃ middle, (exec (desk device) (passwordFor fuel action buffer) (reading state input)).final =
      reading state middle := by
  unfold passwordFor at hreturns ⊢
  split_ifs at hreturns ⊢
  · obtain ⟨lines, rest, -, hfinal, -⟩ := (conducts_askPassword buffer).session hreturns
    exact ⟨rest, hfinal⟩
  · exact ⟨input, rfl⟩

/-- When the loop that asks for the new password returns, it has accepted a text that the last two
of the lines it read have in common. And every command of a run that sets a password carries the
hash of the text that this loop accepted in the run. -/
theorem new_password_agreement (world : World) (fuel : ℕ) (stack : MainStack) (options : Options)
    (state : δ) (input : Input UInt8) :
    (∀ newPassword validatePassword password,
      (exec (desk device) (askNewPassword fuel newPassword validatePassword)
        (reading state input)).result = .ok password →
      ∃ lines rest, AcceptedText input lines (cString password) rest ∧
        (exec (desk device) (askNewPassword fuel newPassword validatePassword)
          (reading state input)).final = reading state rest ∧
        fgetcReplies (exec (desk device) (askNewPassword fuel newPassword validatePassword)
          (reading state input)).trace = lines.flatMap Line.replies) ∧
    (options.action = .changePassword ∨ options.action = .enableSecurity →
      ∀ event ∈ commands (exec (desk device) (withDevice world fuel stack options)
          (reading state input)).trace,
        event.request.command ∈ ([0xA2, 0xA6] : List UInt16) →
          ∃ middle lines text rest,
            (exec (desk device) (passwordFor fuel options.action stack.password)
              (reading state input)).final = reading state middle ∧
            (exec (desk device) (newPasswordFor fuel options.action stack)
              (reading state middle)).final = reading state rest ∧
            AcceptedText middle lines text rest ∧
            (u3PassToHash world.md5 text).bytes <:+ event.request.data) := by
  refine ⟨fun _ _ _ hreturns ↦ acceptedText_of_exec hreturns, fun haction event hevent hsets ↦ ?_⟩
  have hsilent {α : Type} {p : ToolProgram α} (hp : Asks Chats p) (start : Desk δ) :
      commands (exec (desk device) p start).trace = [] :=
    commands_eq_nil_of_talks (hp.mono fun _ hchats ↦ hchats.1) (run_exec _ _ _)
  rw [withDevice] at hevent
  cases hpassword : (exec (desk device) (passwordFor fuel options.action stack.password)
      (reading state input)).result with
  | error halt =>
    rw [exec_bind_error hpassword, hsilent (chats_passwordFor _ _ _)] at hevent
    exact absurd hevent (List.not_mem_nil)
  | ok password =>
    obtain ⟨middle, hmiddle⟩ := exists_final_passwordFor hpassword
    rw [exec_bind_ok hpassword, commands_append, hsilent (chats_passwordFor _ _ _),
      List.nil_append, hmiddle] at hevent
    cases hnew : (exec (desk device) (newPasswordFor fuel options.action stack)
        (reading state middle)).result with
    | error halt =>
      rw [exec_bind_error hnew, hsilent (chats_newPasswordFor _ _ _)] at hevent
      exact absurd hevent (List.not_mem_nil)
    | ok newPassword =>
      rw [exec_bind_ok hnew, commands_append, hsilent (chats_newPasswordFor _ _ _),
        List.nil_append] at hevent
      have hloop : newPasswordFor fuel options.action stack =
          askNewPassword fuel stack.newPassword stack.validatePassword := if_pos haction
      rw [hloop] at hnew ⊢
      obtain ⟨lines, rest, haccepted, hfinal, -⟩ := acceptedText_of_exec hnew
      exact ⟨middle, lines, _, rest, hmiddle, hfinal, haccepted,
        (sendsHash_performAction _ world fuel stack haction _).of_run (run_exec _ _ _) _
          (mem_commands.mp hevent) hsets⟩

/-- Two lines that are entered as the same text are accepted, and that text is the password. -/
theorem accepts_same_text {first second text : List UInt8} (hplain : ∀ byte ∈ first, byte ≠ 10)
    (hplain' : ∀ byte ∈ second, byte ≠ 10) (hfirst : typedText first = text)
    (hsecond : typedText second = text) (hentered : text ≠ []) :
    ∃ fuel password, (exec (desk fun _ _ ↦ (.success 0 [], ())) (askNewPassword fuel (.fill 1025 0)
      (.fill 1025 0)) (reading () (ofList (first ++ 10 :: (second ++ [10]))))).result =
        .ok password ∧ cString password = text := by
  have hsession : Session (· = 10) agreement (ofList (first ++ 10 :: (second ++ [10]))) none
      [⟨first, some 10⟩, ⟨second, some 10⟩] text (ofList []) := by
    have hkept : agreement none first = .inl (some ⟨text, hentered⟩) := by
      simp only [agreement, hfirst, dif_neg hentered]
    have hagreed : agreement (some ⟨text, hentered⟩) second = .inr text := by
      simp only [agreement, hsecond, if_true]
    exact .move (nextLine_ofList_append hplain rfl) hkept
      (.stop (nextLine_ofList_append hplain' rfl) hagreed)
  obtain ⟨enough, hreturns⟩ := (conducts_askNewPassword (.fill 1025 0) (.fill 1025 0)).returns
    (fun _ _ ↦ (.success 0 [], ())) () hsession
  obtain ⟨password, trace, hexec, htext, -⟩ := hreturns enough le_rfl
  exact ⟨enough, password, by rw [hexec], htext⟩

/-- A line of 1024 equal letters and another one. -/
def longLine (last : UInt8) : List UInt8 := List.replicate 1024 97 ++ [last]

theorem typedText_longLine (last : UInt8) : typedText (longLine last) = List.replicate 1024 97 := by
  rw [typedText, longLine, List.take_left' List.length_replicate, List.takeWhile_eq_self_iff]
  intro byte hbyte
  rw [List.eq_of_mem_replicate hbyte]
  decide

/-- Two lines of 1025 bytes that differ in the last one are accepted, and so are two that differ
behind a NUL; neither line is the password. -/
theorem askNewPassword_accepts_differing_lines :
    (longLine 98 ≠ longLine 99 ∧ ∃ fuel password,
      (exec (desk fun _ _ ↦ (.success 0 [], ())) (askNewPassword fuel (.fill 1025 0)
        (.fill 1025 0)) (reading () (ofList (longLine 98 ++ 10 :: (longLine 99 ++ [10]))))).result =
          .ok password ∧ cString password ≠ longLine 98 ∧ cString password ≠ longLine 99) ∧
    ∃ fuel password,
      (exec (desk fun _ _ ↦ (.success 0 [], ())) (askNewPassword fuel (.fill 1025 0)
        (.fill 1025 0)) (reading () (ofList ([97, 0, 98] ++ 10 :: ([97, 0, 99] ++ [10]))))).result =
          .ok password ∧ cString password ≠ [97, 0, 98] ∧ cString password ≠ [97, 0, 99] := by
  have hplain (last : UInt8) (hlast : last ≠ 10) : ∀ byte ∈ longLine last, byte ≠ 10 := by
    intro byte hbyte
    rcases List.mem_append.mp hbyte with hbyte | hbyte
    · rw [List.eq_of_mem_replicate hbyte]
      decide
    · rw [List.mem_singleton.mp hbyte]
      exact hlast
  constructor
  · obtain ⟨fuel, password, hexec, htext⟩ := accepts_same_text (hplain 98 (by decide))
      (hplain 99 (by decide)) (typedText_longLine 98) (typedText_longLine 99)
      (List.replicate_succ_ne_nil : List.replicate 1024 (97 : UInt8) ≠ [])
    have hshort (last : UInt8) : cString password ≠ longLine last := fun heq ↦ by
      have hlengths := congrArg List.length (htext.symm.trans heq)
      rw [longLine, List.length_append, List.length_singleton] at hlengths
      omega
    exact ⟨fun heq ↦ absurd (List.append_cancel_left heq) (by decide), fuel, password, hexec,
      hshort 98, hshort 99⟩
  · obtain ⟨fuel, password, hexec, htext⟩ := @accepts_same_text [97, 0, 98] [97, 0, 99] [97]
      (by simp) (by simp) rfl rfl (List.cons_ne_nil _ _)
    exact ⟨fuel, password, hexec, by rw [htext]; decide, by rw [htext]; decide⟩

end U3Tool
