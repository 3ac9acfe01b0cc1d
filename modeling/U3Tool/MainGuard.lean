import U3Tool.ActionFailures
import U3Tool.ActionPrompts
import U3Tool.Main
import U3Tool.ReportRuns

/-!
# Whole runs of `main`

The options of the arguments decide what a run of `main` may send: the loop over the results of
`getopt` ends with the action of the last option that names one and with the arguments of the last
`-l` and the last `-p` (`lastOptions`, `parseOptions_ok`). Every command of a run is sent by that
action with these arguments (`Performs`), every action sends the device-changing commands that are
its own (`changesOnly_doAction`), and a run has the shape of a run with a confirmation
(`confirms_withDevice`). `DestructiveGuard` says the three things of a whole run.
-/

set_option autoImplicit false
set_option relaxedAutoImplicit false

namespace U3Tool

open Interaction Bytes Program

variable {α : Type} {trace : List (Event Tool)}

/-! ### The last options -/

/-- The action that an option names. -/
def namedAction : Getopt.Item UInt8 → Option Action
  | .flag c =>
    match Char.ofNat c.toNat with
    | 'c' => some .changePassword
    | 'd' => some .disableSecurity
    | 'D' => some .dump
    | 'e' => some .enableSecurity
    | 'i' => some .info
    | 'R' => some .resetSecurity
    | 'u' => some .unlock
    | _ => none
  | .valued c _ =>
    match Char.ofNat c.toNat with
    | 'l' => some .load
    | 'p' => some .partition
    | _ => none
  | .invalid _ => none

/-- The argument that an option of a given letter has. -/
def argumentOf (letter : Char) : Getopt.Item UInt8 → Option (List UInt8)
  | .valued c value => if Char.ofNat c.toNat = letter then some value else none
  | _ => none

/-- The action of the last option that names one. -/
def lastAction (items : List (Getopt.Item UInt8)) : Action :=
  (items.filterMap namedAction).getLast?.getD .unknown

/-- The argument of the last option of a given letter. -/
def lastArgument (letter : Char) (items : List (Getopt.Item UInt8)) : Option (List UInt8) :=
  (items.filterMap (argumentOf letter)).getLast?

/-- The action of the last option that names one, the file name of the last `-l` and the size of the
last `-p`, both up to the limits of the buffers. -/
def lastOptions (items : List (Getopt.Item UInt8)) : Options where
  action := lastAction items
  filenameString := ((lastArgument 'l' items).map filenameString).getD []
  sizeString := ((lastArgument 'p' items).map sizeString).getD []

/-- The last result of a list is that of its tail, if there is one. -/
theorem getLast?_filterMap_cons {β γ : Type} (f : β → Option γ) (head : β) (tail : List β) :
    ((head :: tail).filterMap f).getLast? = ((tail.filterMap f).getLast?).or (f head) := by
  cases hhead : f head with
  | none => simp [List.filterMap_cons_none hhead]
  | some value =>
    rw [List.filterMap_cons_some hhead, List.getLast?_cons]
    cases (tail.filterMap f).getLast? <;> rfl

/-- What one option does to the variables of `main`. -/
theorem parseItem_ok {options next : Options} {item : Getopt.Item UInt8}
    (hparse : parseItem options item = .ok next) :
    next.action = (namedAction item).getD options.action ∧
      next.filenameString =
        ((argumentOf 'l' item).map filenameString).getD options.filenameString ∧
      next.sizeString = ((argumentOf 'p' item).map sizeString).getD options.sizeString := by
  cases item with
  | flag c =>
    simp only [parseItem, namedAction, argumentOf] at hparse ⊢
    split at hparse <;> cases hparse <;> simp [*]
  | valued c value =>
    simp only [parseItem, namedAction, argumentOf] at hparse ⊢
    split at hparse <;> cases hparse <;> simp [*]
  | invalid c => exact absurd hparse (by simp [parseItem])

/-- The loop over the options ends with the last ones. -/
theorem parseOptions_ok {items : List (Getopt.Item UInt8)} {options parsed : Options}
    (hparse : parseOptions items options = .ok parsed) :
    parsed.action = (items.filterMap namedAction).getLast?.getD options.action ∧
      parsed.filenameString =
        ((lastArgument 'l' items).map filenameString).getD options.filenameString ∧
      parsed.sizeString = ((lastArgument 'p' items).map sizeString).getD options.sizeString := by
  induction items generalizing options with
  | nil =>
    obtain rfl := Except.ok.inj hparse
    exact ⟨rfl, rfl, rfl⟩
  | cons item rest ih =>
    rw [parseOptions] at hparse
    cases hitem : parseItem options item with
    | error exit => rw [hitem] at hparse; exact absurd hparse (by simp)
    | ok next =>
      rw [hitem] at hparse
      obtain ⟨haction, hfilename, hsize⟩ := parseItem_ok hitem
      obtain ⟨hlastAction, hlastFilename, hlastSize⟩ := ih hparse
      simp only [lastArgument, getLast?_filterMap_cons, Option.map_or, Option.getD_or] at *
      rw [hlastAction, hlastFilename, hlastSize, haction, hfilename, hsize]
      exact ⟨rfl, rfl, rfl⟩

theorem eq_lastOptions {items : List (Getopt.Item UInt8)} {options : Options}
    (hparse : parseOptions items .initial = .ok options) : options = lastOptions items := by
  obtain ⟨haction, hfilename, hsize⟩ := parseOptions_ok hparse
  cases options
  exact congr (congr (congrArg Options.mk haction) hfilename) hsize

example : lastOptions (parsedArguments [ascii "-ul", ascii "cd.iso", ascii "-vp0", ascii "dev"]).1 =
    ⟨.partition, ascii "cd.iso", ascii "0"⟩ := by decide

/-- The option whose argument an action takes. -/
def Action.argumentLetter : Action → Option Char
  | .load => some 'l'
  | .partition => some 'p'
  | _ => none

/-- An option that names an action gives the argument the action takes. -/
theorem isSome_argumentOf {item : Getopt.Item UInt8} {action : Action} {letter : Char}
    (hitem : namedAction item = some action) (hletter : action.argumentLetter = some letter) :
    (argumentOf letter item).isSome := by
  cases item with
  | flag c =>
    simp only [namedAction] at hitem
    split at hitem <;> cases hitem <;> cases hletter
  | valued c value =>
    simp only [namedAction, argumentOf] at hitem ⊢
    split at hitem <;> cases hitem <;> cases hletter <;> simp [*]
  | invalid c => exact absurd hitem (by simp [namedAction])

/-- The action of the last option finds the argument it takes. -/
theorem isSome_lastArgument {items : List (Getopt.Item UInt8)} {letter : Char}
    (hletter : (lastAction items).argumentLetter = some letter) :
    (lastArgument letter items).isSome := by
  unfold lastAction at hletter
  cases hnamed : (items.filterMap namedAction).getLast? with
  | none =>
    rw [hnamed] at hletter
    exact absurd hletter (by simp [Action.argumentLetter])
  | some action =>
    rw [hnamed] at hletter
    obtain ⟨item, hitem, hname⟩ := List.mem_filterMap.mp (List.mem_of_getLast? hnamed)
    obtain ⟨value, hvalue⟩ := Option.isSome_iff_exists.mp (isSome_argumentOf hname hletter)
    have hmem : value ∈ items.filterMap (argumentOf letter) :=
      List.mem_filterMap.mpr ⟨item, hitem, hvalue⟩
    exact List.getLast?_isSome.mpr (List.ne_nil_of_mem hmem)

/-! ### The action -/

/-- The device-changing commands of an action. -/
def Action.changing : Action → List UInt16
  | .load => [0x42]
  | .partition => [0x22, 0x101]
  | .unlock => [0xA4]
  | .changePassword => [0xA6]
  | .enableSecurity => [0xA2]
  | .disableSecurity => [0xA7]
  | .resetSecurity => [0xA2, 0xA7]
  | .unknown | .dump | .info => []

/-- The value of an exit status is computed without any request. -/
theorem run_exitCode {p : ToolProgram ExitStatus} {result : Except Halt Int32}
    (hrun : Run (exitCode p) trace result) : ∃ outcome, Run p trace outcome := by
  rcases run_bind.mp hrun with ⟨halt, -, hhalt⟩ | ⟨first, status, rest, rfl, hfirst, hrest⟩
  · exact ⟨_, hhalt⟩
  · obtain ⟨rfl, -⟩ := run_done.mp hrest
    exact ⟨_, by rwa [List.append_nil]⟩

theorem Confirms.exitCode {p : ToolProgram ExitStatus} (hp : Confirms p) :
    Confirms (exitCode p) where
  of_run hrun := by
    obtain ⟨outcome, houtcome⟩ := run_exitCode hrun
    exact hp.of_run houtcome

theorem unprompted_exitCode {p : ToolProgram ExitStatus} (hp : Asks Unprompted p) :
    Asks Unprompted (exitCode p) :=
  hp.bind fun _ ↦ .done _

/-- The device-changing commands of a program are among given ones. -/
structure ChangesOnly (codes : List UInt16) (p : ToolProgram α) : Prop where
  of_run : ∀ {trace : List (Event Tool)} {result : Except Halt α}, Run p trace result →
    ∀ event ∈ commands trace, Changing event → event.request.command ∈ codes

theorem ChangesOnly.of_harmless {codes : List UInt16} {p : ToolProgram α}
    (hp : Asks Harmless p) : ChangesOnly codes p where
  of_run hrun event hevent hchanging := absurd hchanging (reads_of_asks hp hrun event hevent)

theorem ChangesOnly.exitCode {codes : List UInt16} {p : ToolProgram ExitStatus}
    (hp : ChangesOnly codes p) : ChangesOnly codes (exitCode p) where
  of_run hrun := by
    obtain ⟨outcome, houtcome⟩ := run_exitCode hrun
    exact hp.of_run houtcome

theorem changesOnly_doLoad (image : ImageFile) (buffer : Buffer blockSize) :
    ChangesOnly [0x42] (doLoad image buffer) where
  of_run hrun event hevent hchanging := by
    have hcommand := command_of_run_doLoad hrun hevent
    simp only [List.mem_cons, List.not_mem_nil, or_false] at hcommand
    rcases hcommand with hread | hwrite
    · exact absurd hchanging (by rw [Changing, hread]; decide)
    · simp [hwrite]

section

variable (world : World) (fuel : ℕ) (stack : MainStack)

/-- Every device-changing command an action sends is one of its own. -/
theorem changesOnly_doAction (options : Options) (password newPassword : List UInt8) :
    ChangesOnly options.action.changing
      (doAction world fuel stack options password newPassword) := by
  unfold doAction
  cases options.action <;> dsimp only [Action.changing]
  case unknown => exact .of_harmless (harmless_print_done _)
  case load => exact (changesOnly_doLoad _ _).exitCode
  case partition =>
    exact .exitCode ⟨fun hrun _ ↦ (changesTwice_doPartition hrun).command_of_changing⟩
  case dump => exact .of_harmless (harmless_doDump _ _)
  case info => exact .exitCode (.of_harmless (harmless_doInfo _))
  case unlock =>
    exact .exitCode ⟨fun hrun _ ↦ (changesOnce_guardedAction hrun).command_of_changing⟩
  case changePassword =>
    exact .exitCode ⟨fun hrun _ ↦ (changesOnce_guardedAction hrun).command_of_changing⟩
  case enableSecurity =>
    exact .exitCode ⟨fun hrun _ ↦ (changesOnce_doEnableSecurity hrun).command_of_changing⟩
  case disableSecurity =>
    exact .exitCode ⟨fun hrun _ ↦ (changesOnce_guardedAction hrun).command_of_changing⟩
  case resetSecurity =>
    exact .exitCode ⟨fun hrun _ ↦ (changesTwice_doResetSecurity hrun).command_of_changing⟩

theorem talks_printAll (texts : List String) : Asks Talks (printAll texts) := by
  induction texts with
  | nil => exact .done _
  | cons text rest ih => exact .ask trivial fun _ ↦ ih

theorem unprompted_printAll {texts : List String}
    (htexts : ∀ text ∈ texts, Unprompted (.print .stdout (ascii text))) :
    Asks Unprompted (printAll texts) := by
  induction texts with
  | nil => exact .done _
  | cons text rest ih =>
    obtain ⟨htext, hrest⟩ := List.forall_mem_cons.mp htexts
    exact .ask htext fun _ ↦ ih hrest

/-- A warning and an action that is performed only after a confirmation. -/
theorem confirms_warned {texts : List String} {action : ToolProgram Int32}
    (htexts : ∀ text ∈ texts, Unprompted (.print .stdout (ascii text)))
    (haction : Asks Unprompted action) :
    Confirms (printAll texts >>= fun _ ↦ U3Tool.ifConfirmed fuel action) :=
  .bind (unprompted_printAll htexts)
    (fun hrun ↦ by simp [commands_eq_nil_of_talks (talks_printAll texts) hrun])
    fun _ ↦ .ifConfirmed haction

/-- The switch over the action is run with a confirmation. -/
theorem confirms_performAction (options : Options) (password newPassword : List UInt8) :
    Confirms (performAction world fuel stack options password newPassword) := by
  unfold performAction doAction
  cases haction : options.action <;> dsimp only
  case unknown => exact .of_talks (.ask trivial fun _ ↦ .done _)
  case load => exact (confirms_doLoad _ _).exitCode
  case partition =>
    exact confirms_warned fuel (by decide) (unprompted_exitCode (unprompted_doPartition _ _))
  case dump => exact .of_reads fun hrun ↦ reads_of_asks (harmless_doDump _ _) hrun
  case info => exact .exitCode (.of_reads fun hrun ↦ reads_of_asks (harmless_doInfo _) hrun)
  case unlock => exact (confirms_guardedAction (by decide) _).exitCode
  case changePassword => exact (confirms_guardedAction (by decide) _).exitCode
  case enableSecurity =>
    exact confirms_warned fuel (by decide) (unprompted_exitCode (unprompted_doEnableSecurity _ _ _))
  case disableSecurity => exact (confirms_guardedAction (by decide) _).exitCode
  case resetSecurity =>
    exact confirms_warned fuel (by decide) (unprompted_exitCode (unprompted_doResetSecurity _ _))

/-! ### Passwords -/

/-- Reading stdin, and printing anything but the prompt. -/
def Chats (request : ToolRequest) : Prop := Talks request ∧ Unprompted request

theorem chats_eprint (text : List UInt8) : Asks Chats (eprint text) :=
  .perform ⟨trivial, by simp [Unprompted, confirmPrompt]⟩

theorem chats_fgetc : Asks Chats fgetc :=
  .perform ⟨trivial, by simp [Unprompted, confirmPrompt]⟩

theorem chats_fillInput (room : ℕ) (ch : Option UInt8) : Asks Chats (fillInput room ch) := by
  induction room generalizing ch with
  | zero => exact .done _
  | succ room ih =>
    unfold fillInput
    split
    · exact .done _
    · split_ifs
      · exact .done _
      · exact chats_fgetc.bind fun next ↦ (ih next).bind fun _ ↦ .done _

theorem chats_flushInput (fuel : ℕ) (ch : Option UInt8) : Asks Chats (flushInput fuel ch) := by
  induction fuel generalizing ch with
  | zero =>
    unfold flushInput
    split_ifs
    · exact .done _
    · exact .fail _
  | succ fuel ih =>
    unfold flushInput
    split_ifs
    · exact .done _
    · exact chats_fgetc.bind fun next ↦ ih next

theorem chats_secureInput {size : ℕ} (fuel : ℕ) (buf : Buffer size) :
    Asks Chats (secureInput fuel buf) := by
  unfold secureInput
  split_ifs
  · exact .done _
  · exact chats_fgetc.bind fun _ ↦ (chats_fillInput _ _).bind fun _ ↦
      (chats_flushInput _ _).bind fun _ ↦
      (Asks.perform ⟨trivial, by decide⟩).bind fun _ ↦ .done _

theorem chats_askPassword (fuel : ℕ) (password : PasswordBuffer) :
    Asks Chats (askPassword fuel password) := by
  induction fuel generalizing password with
  | zero => exact .fail _
  | succ fuel ih =>
    refine (chats_eprint _).bind fun _ ↦ (chats_secureInput _ _).bind fun password ↦ ?_
    split_ifs
    · exact (chats_eprint _).bind fun _ ↦ ih password
    · exact .done _

theorem chats_askNewPassword (fuel : ℕ) (newPassword validatePassword : PasswordBuffer) :
    Asks Chats (askNewPassword fuel newPassword validatePassword) := by
  induction fuel generalizing newPassword validatePassword with
  | zero => exact .fail _
  | succ fuel ih =>
    refine (chats_eprint _).bind fun _ ↦ (chats_secureInput _ _).bind fun newPassword ↦ ?_
    split_ifs
    · exact (chats_eprint _).bind fun _ ↦ ih _ _
    · refine (chats_eprint _).bind fun _ ↦ (chats_secureInput _ _).bind fun validatePassword ↦ ?_
      split_ifs
      · exact .done _
      · exact (chats_eprint _).bind fun _ ↦ ih _ _

theorem chats_passwordFor (action : Action) (password : PasswordBuffer) :
    Asks Chats (passwordFor fuel action password) := by
  unfold passwordFor
  split_ifs
  · exact chats_askPassword _ _
  · exact .done _

theorem chats_newPasswordFor (action : Action) :
    Asks Chats (newPasswordFor fuel action stack) := by
  unfold newPasswordFor
  split_ifs
  · exact chats_askNewPassword _ _ _
  · exact .done _

/-! ### `main` -/

/-- The passwords are asked before anything is sent. -/
theorem Confirms.chat {p : ToolProgram α} {continuation : α → ToolProgram Int32}
    (hp : Asks Chats p) (hcontinuation : ∀ value, Confirms (continuation value)) :
    Confirms (p >>= continuation) :=
  .bind (hp.mono fun _ hchats ↦ hchats.2)
    (fun hrun ↦ by simp [commands_eq_nil_of_talks (hp.mono fun _ hchats ↦ hchats.1) hrun])
    hcontinuation

theorem confirms_withDevice (options : Options) : Confirms (withDevice world fuel stack options) :=
  .chat (chats_passwordFor _ _ _) fun _ ↦ .chat (chats_newPasswordFor _ _ _) fun _ ↦
    confirms_performAction _ _ _ _ _ _

/-- The commands of a run are those of a run of an action, before which none is sent. -/
def Performs (options : Options) (trace : List (Event Tool)) (result : Except Halt Int32) : Prop :=
  commands trace = [] ∨ ∃ before during password newPassword,
    trace = before ++ during ∧ commands before = [] ∧
      Run (doAction world fuel stack options password newPassword) during result

variable {world fuel stack}

/-- A program that sends nothing may run first. -/
theorem Performs.bind {options : Options} {p : ToolProgram α}
    {continuation : α → ToolProgram Int32} {result : Except Halt Int32} (hp : Asks Talks p)
    (hcontinuation : ∀ {value rest}, Run (continuation value) rest result →
      Performs world fuel stack options rest result)
    (hrun : Run (p >>= continuation) trace result) :
    Performs world fuel stack options trace result := by
  rcases run_bind.mp hrun with ⟨halt, -, hhalt⟩ | ⟨first, value, rest, rfl, hfirst, hrest⟩
  · exact Or.inl (commands_eq_nil_of_talks hp hhalt)
  · have hsilent := commands_eq_nil_of_talks hp hfirst
    rcases hcontinuation hrest with
      hnone | ⟨before, during, password, newPassword, rfl, hbefore, hduring⟩
    · exact Or.inl (by simp [hsilent, hnone])
    · exact Or.inr ⟨first ++ before, during, password, newPassword, by rw [List.append_assoc],
        by simp [hsilent, hbefore], hduring⟩

theorem performs_of_warned {options : Options} {texts : List String}
    {password newPassword : List UInt8} {result : Except Halt Int32}
    (hrun : Run (printAll texts >>= fun _ ↦ U3Tool.ifConfirmed fuel
      (doAction world fuel stack options password newPassword)) trace result) :
    Performs world fuel stack options trace result := by
  refine Performs.bind (talks_printAll texts) (fun hconfirm ↦ ?_) hrun
  refine Performs.bind (asks_confirm fuel) (fun {answer rest} hrest ↦ ?_) hconfirm
  cases answer with
  | true => exact Or.inr ⟨[], rest, password, newPassword, rfl, rfl, hrest⟩
  | false =>
    obtain ⟨rfl, -⟩ := run_done.mp hrest
    exact Or.inl rfl

theorem performs_of_run_performAction {options : Options} {password newPassword : List UInt8}
    {result : Except Halt Int32}
    (hrun : Run (performAction world fuel stack options password newPassword) trace result) :
    Performs world fuel stack options trace result := by
  unfold performAction at hrun
  dsimp only at hrun
  split at hrun
  · exact performs_of_warned hrun
  · exact performs_of_warned hrun
  · exact performs_of_warned hrun
  · exact Or.inr ⟨[], trace, password, newPassword, rfl, rfl, hrun⟩

theorem performs_of_run_withDevice {options : Options} {result : Except Halt Int32}
    (hrun : Run (withDevice world fuel stack options) trace result) :
    Performs world fuel stack options trace result :=
  Performs.bind ((chats_passwordFor _ _ _).mono fun _ hchats ↦ hchats.1)
    (fun hnew ↦ Performs.bind ((chats_newPasswordFor _ _ _).mono fun _ hchats ↦ hchats.1)
      (fun haction ↦ performs_of_run_performAction haction) hnew) hrun

variable (world fuel stack) in
/-- A run of `main` only prints and ends, or goes on with the last options of its arguments. -/
theorem main_talks_or_eq (name : List UInt8) (args : List (List UInt8)) :
    Asks Talks (main world fuel stack name args) ∨
      main world fuel stack name args =
        withDevice world fuel stack (lastOptions (parsedArguments args).1) := by
  have husage : Asks Talks (usage world name) :=
    (talks_printAll _).bind fun _ ↦ .ask trivial fun _ ↦ talks_printAll _
  unfold main
  dsimp only
  split
  · exact Or.inl ((talks_printAll _).bind fun _ ↦ .done _)
  · exact Or.inl (husage.bind fun _ ↦ .done _)
  · next options hparse =>
    rw [eq_lastOptions hparse]
    split
    · exact Or.inl (.ask trivial fun _ ↦ husage.bind fun _ ↦ .done _)
    · split
      · exact Or.inl (.ask trivial fun _ ↦ .done _)
      · exact Or.inr rfl

/-- What holds of a run of `main` with given arguments: its commands are sent by the last action
named, with the arguments of the last options; the device-changing ones are that action's own; the
guarded ones are preceded by a confirmation; and a run with a refused confirmation changes
nothing. -/
structure DestructiveGuard (world : World) (fuel : ℕ) (stack : MainStack)
    (args : List (List UInt8)) (trace : List (Event Tool)) (result : Except Halt Int32) :
    Prop where
  performs : Performs world fuel stack (lastOptions (parsedArguments args).1) trace result
  argument_given : ∀ {letter : Char},
    (lastAction (parsedArguments args).1).argumentLetter = some letter →
      (lastArgument letter (parsedArguments args).1).isSome
  changing_mem : ∀ event ∈ commands trace, Changing event →
    event.request.command ∈ (lastAction (parsedArguments args).1).changing
  confirmed : ∀ {before after : List (Event Tool)} {event : Event Scsi},
    trace = before ++ sendEvent event :: after → event.request.command ∈ [0x22, 0xA2] →
      ∃ first asked last fuel, before = first ++ asked ++ last ∧
        Run (confirm fuel) asked (.ok true)
  refused : ∀ {first asked last : List (Event Tool)} {fuel : ℕ}, trace = first ++ asked ++ last →
    Run (confirm fuel) asked (.ok false) → ∀ event ∈ commands trace, ¬ Changing event

theorem Performs.changing_mem {options : Options} {result : Except Halt Int32}
    (hperforms : Performs world fuel stack options trace result) :
    ∀ event ∈ commands trace, Changing event →
      event.request.command ∈ options.action.changing := by
  intro event hevent hchanging
  rcases hperforms with hnone | ⟨before, during, password, newPassword, rfl, hbefore, hduring⟩
  · exact absurd hevent (by simp [hnone])
  · rw [commands_append, hbefore, List.nil_append] at hevent
    exact (changesOnly_doAction _ _ _ _ _ _).of_run hduring event hevent hchanging

/-- Every run of `main`, whatever its arguments, its input and the device do, is guarded. -/
theorem main_destructiveGuard {name : List UInt8} {args : List (List UInt8)}
    {result : Except Halt Int32} (hrun : Run (main world fuel stack name args) trace result) :
    DestructiveGuard world fuel stack args trace result := by
  obtain ⟨hperforms, hshape⟩ :
      Performs world fuel stack (lastOptions (parsedArguments args).1) trace result ∧
        ConfirmedRun trace := by
    rcases main_talks_or_eq world fuel stack name args with htalks | heq
    · exact ⟨Or.inl (commands_eq_nil_of_talks htalks hrun), (Confirms.of_talks htalks).of_run hrun⟩
    · rw [heq] at hrun
      exact ⟨performs_of_run_withDevice hrun, (confirms_withDevice _ _ _ _).of_run hrun⟩
  exact
    { performs := hperforms
      argument_given := isSome_lastArgument
      changing_mem := hperforms.changing_mem
      confirmed := fun htrace hguarded ↦ hshape.preceded htrace hguarded
      refused := fun htrace hrefused ↦ hshape.refused htrace hrefused }

end

/-- A build without texts, a constant hash, files of one byte, and a device that can be opened. -/
def plainWorld : World where
  version := ""
  subsystemName := ""
  subsystemHelp := ""
  md5 := fun _ ↦ .fill 16 0
  file := fun _ ↦ oneByte
  openError := fun _ ↦ none

/-- Local variables that are all zero. -/
def zeroMainStack : MainStack where
  password := .fill 1025 0
  newPassword := .fill 1025 0
  validatePassword := .fill 1025 0
  loadBuffer := .fill blockSize 0
  partition := zeroStack
  securityProperties := .fill 10 0
  roundedSize := .fill 4 0
  report := ⟨.fill 39 0, .fill 10 0⟩
  retval := 0

/-- The arguments of a removal of the CD partition, after an action that is overridden. -/
def removeCdArguments : List (List UInt8) := [ascii "-ul", ascii "cd.iso", ascii "-p0", ascii "dev"]

/-- An execution of a removal of the CD partition that is confirmed. -/
def removeCdExecution : Execution Tool Halt Int32 (Desk Unit) :=
  exec (desk (refusing 0xFFFF))
    (main plainWorld 2 zeroMainStack (ascii "u3-tool") removeCdArguments)
    ⟨(), fun index ↦ (ascii "y\n")[index]?⟩

theorem main_destructiveGuard_witness :
    DestructiveGuard plainWorld 2 zeroMainStack removeCdArguments removeCdExecution.trace
        removeCdExecution.result ∧
      (commands removeCdExecution.trace).map (fun event ↦ event.request.command) =
        [0x00, 0x00, 0x20, 0x22, 0x101] :=
  ⟨main_destructiveGuard (run_exec _ _ _), by decide +kernel⟩

end U3Tool
