import U3Tool.Commands

/-!
# The surroundings of `main.c`

The actions of `main.c` talk to the device through the command layer, read characters from stdin,
print to stdout and stderr, and look at the flag `quit`, which a signal handler sets at any moment.
`Tool` is the interface with these four requests. A program over it that can loop for ever on its
input is given fuel and stops with `Halt.outOfFuel` when the fuel is used up.

`command` runs a function of the command layer; its runs are the runs of that function
(`run_command`). `commands` and `quitReads` project a trace to the calls of the subsystem and to the
values the flag was seen to have. `desk` executes a tool program against a device and a stdin.
-/

set_option autoImplicit false
set_option relaxedAutoImplicit false

namespace U3Tool

open Interaction Bytes Program

/-! ### The interface -/

/-- The standard streams written to. -/
inductive Stream
  | stdout
  | stderr
  deriving DecidableEq

/-- What a tool program asks of its surroundings: a call of `u3_send_cmd`, `fgetc(stdin)`, the
value of `quit`, or to print a text. -/
inductive ToolRequest
  | sendCmd (request : CmdRequest)
  | fgetc
  | quit
  | print (stream : Stream) (text : List UInt8)
  deriving DecidableEq

/-- The reply to each request; `fgetc` answers nothing at the end of the input. -/
@[reducible] def ToolRequest.Reply : ToolRequest → Type
  | .sendCmd _ => CmdReply
  | .fgetc => Option UInt8
  | .quit => Bool
  | .print _ _ => Unit

/-- The interface of `main.c`. -/
@[reducible] def Tool : Interface where
  Request := ToolRequest
  Reply := ToolRequest.Reply

/-- How a tool program stops without returning: its fuel is used up. -/
inductive Halt
  | outOfFuel
  deriving DecidableEq

/-- `EXIT_SUCCESS` and `EXIT_FAILURE`. -/
inductive ExitStatus
  | success
  | failure
  deriving DecidableEq

/-- Programs over the interface of `main.c`. -/
abbrev ToolProgram (α : Type) := Program Tool Halt α

/-- Runs a function of the command layer and returns its value, or the text its failure left in the
error buffer. -/
def command {α : Type} (p : Command α) : ToolProgram (Except ErrMsg α) :=
  p.interp fun request ↦ perform (I := Tool) (.sendCmd request)

/-- `fgetc(stdin)`. -/
def fgetc : ToolProgram (Option UInt8) := perform (I := Tool) .fgetc

/-- Reads the flag `quit`. -/
def readQuit : ToolProgram Bool := perform (I := Tool) .quit

/-- Prints a formatted text to stdout. -/
def printf (text : String) : ToolProgram Unit := perform (I := Tool) (.print .stdout (ascii text))

/-- Prints bytes to stderr. -/
def eprint (text : List UInt8) : ToolProgram Unit := perform (I := Tool) (.print .stderr text)

/-- The message of an action whose command failed. -/
def eprintFailure (function : String) (error : ErrMsg) : ToolProgram Unit :=
  eprint (ascii (function ++ "() failed: ") ++ error.text ++ ascii "\n")

/-! ### Traces -/

/-- A call of the subsystem as an event of the tool. -/
def sendEvent (event : Event Scsi) : Event Tool := ⟨.sendCmd event.request, event.reply⟩

/-- The calls of the subsystem in a trace. -/
def commands (trace : List (Event Tool)) : List (Event Scsi) :=
  trace.filterMap fun
    | ⟨.sendCmd request, reply⟩ => some ⟨request, reply⟩
    | _ => none

/-- The values `quit` was seen to have. -/
def quitReads (trace : List (Event Tool)) : List Bool :=
  trace.filterMap fun
    | ⟨.quit, reply⟩ => some reply
    | _ => none

/-- The texts printed to stdout. -/
def printed (trace : List (Event Tool)) : List (List UInt8) :=
  trace.filterMap fun event ↦
    match event.request with
    | .print .stdout text => some text
    | _ => none

@[simp] theorem commands_nil : commands [] = [] := rfl

@[simp] theorem commands_append (first second : List (Event Tool)) :
    commands (first ++ second) = commands first ++ commands second :=
  List.filterMap_append

@[simp] theorem commands_print (stream : Stream) (text : List UInt8) (reply : Unit)
    (trace : List (Event Tool)) :
    commands (⟨.print stream text, reply⟩ :: trace) = commands trace := rfl

@[simp] theorem commands_quit (reply : Bool) (trace : List (Event Tool)) :
    commands (⟨.quit, reply⟩ :: trace) = commands trace := rfl

@[simp] theorem commands_fgetc (reply : Option UInt8) (trace : List (Event Tool)) :
    commands (⟨.fgetc, reply⟩ :: trace) = commands trace := rfl

@[simp] theorem commands_sendEvent (event : Event Scsi) (trace : List (Event Tool)) :
    commands (sendEvent event :: trace) = event :: commands trace := rfl

@[simp] theorem commands_map_sendEvent (events : List (Event Scsi)) :
    commands (events.map sendEvent) = events := by
  induction events with
  | nil => rfl
  | cons event rest ih => exact congrArg (event :: ·) ih

/-- The calls of a trace are its events that are calls. -/
theorem mem_commands {event : Event Scsi} {trace : List (Event Tool)} :
    event ∈ commands trace ↔ sendEvent event ∈ trace := by
  rw [commands, List.mem_filterMap]
  constructor
  · rintro ⟨⟨request, reply⟩, hmem, hsome⟩
    cases request <;> simp at hsome
    rw [← hsome]
    exact hmem
  · intro hmem
    exact ⟨_, hmem, rfl⟩

/-- The values `quit` was seen to have are the replies to reading it. -/
theorem mem_quitReads {value : Bool} {trace : List (Event Tool)} :
    value ∈ quitReads trace ↔ (⟨.quit, value⟩ : Event Tool) ∈ trace := by
  rw [quitReads, List.mem_filterMap]
  constructor
  · rintro ⟨⟨request, reply⟩, hmem, hsome⟩
    cases request <;> simp at hsome
    rw [← hsome]
    exact hmem
  · intro hmem
    exact ⟨_, hmem, rfl⟩

@[simp] theorem quitReads_nil : quitReads [] = [] := rfl

@[simp] theorem quitReads_append (first second : List (Event Tool)) :
    quitReads (first ++ second) = quitReads first ++ quitReads second :=
  List.filterMap_append

@[simp] theorem quitReads_print (stream : Stream) (text : List UInt8) (reply : Unit)
    (trace : List (Event Tool)) :
    quitReads (⟨.print stream text, reply⟩ :: trace) = quitReads trace := rfl

@[simp] theorem quitReads_quit (reply : Bool) (trace : List (Event Tool)) :
    quitReads (⟨.quit, reply⟩ :: trace) = reply :: quitReads trace := rfl

@[simp] theorem quitReads_sendEvent (event : Event Scsi) (trace : List (Event Tool)) :
    quitReads (sendEvent event :: trace) = quitReads trace := rfl

@[simp] theorem quitReads_map_sendEvent (events : List (Event Scsi)) :
    quitReads (events.map sendEvent) = [] := by
  induction events with
  | nil => rfl
  | cons event rest ih => exact ih

/-! ### Running the command layer -/

/-- A run of a command function inside the tool is a run of that function. -/
theorem run_command {α : Type} {p : Command α} {trace : List (Event Tool)}
    {result : Except Halt (Except ErrMsg α)} :
    Run (command p) trace result ↔
      ∃ outcome events, result = .ok outcome ∧ trace = events.map sendEvent ∧
        Run p events outcome := by
  induction p generalizing trace with
  | done value => simp [command, and_comm, and_left_comm]
  | fail error => simp [command, and_comm, and_left_comm]
  | ask request next ih =>
    change Run (.ask (ToolRequest.sendCmd request) fun reply ↦ command (next reply) :
      ToolProgram (Except ErrMsg α)) trace result ↔ _
    simp only [run_ask, ih]
    constructor
    · rintro ⟨reply, _, rfl, outcome, events, rfl, rfl, hrest⟩
      exact ⟨outcome, ⟨request, reply⟩ :: events, rfl, rfl, reply, events, rfl, hrest⟩
    · rintro ⟨outcome, _, rfl, rfl, reply, events, rfl, hrest⟩
      exact ⟨reply, _, rfl, outcome, events, rfl, rfl, hrest⟩

/-- A function of the command layer asks its commands and nothing else. -/
theorem asks_command {α : Type} {kind : ToolRequest → Prop} {p : Command α}
    (hp : Asks (fun request ↦ kind (.sendCmd request)) p) : Asks kind (command p) where
  of_run hrun event hevent := by
    obtain ⟨outcome, events, -, rfl, hevents⟩ := run_command.mp hrun
    obtain ⟨sent, hsent, rfl⟩ := List.mem_map.mp hevent
    exact hp.of_run hevents sent hsent

/-- A sequence that begins with a function of the command layer asks what that function and both of
its continuations ask. -/
theorem asks_command_bind {α β : Type} {kind : ToolRequest → Prop} {p : Command α}
    {continuation : Except ErrMsg α → ToolProgram β} (hp : Asks kind (command p))
    (herror : ∀ error, Asks kind (continuation (.error error)))
    (hok : ∀ value, Asks kind (continuation (.ok value))) :
    Asks kind (command p >>= continuation) :=
  hp.bind fun outcome ↦ by
    cases outcome with
    | error error => exact herror error
    | ok value => exact hok value

/-- Surroundings in which the device accepts everything, stdin is empty and `quit` has a fixed
value. -/
def acceptAll (quit : Bool) : Surroundings Tool Unit := fun _ request ↦
  match request with
  | .sendCmd _ => (.success 0 [], ())
  | .fgetc => (none, ())
  | .quit => (quit, ())
  | .print _ _ => ((), ())

/-- The surroundings of a tool: the state of the device, and what stdin has still to offer. -/
structure Desk (δ : Type) where
  device : δ
  stdin : ℕ → Option UInt8

/-- Surroundings made of a device and a stdin; no signal arrives. -/
def desk {δ : Type} (device : Surroundings Scsi δ) : Surroundings Tool (Desk δ) :=
  fun state request ↦
    match request with
    | .sendCmd request =>
      ((device state.device request).1, { state with device := (device state.device request).2 })
    | .fgetc => (state.stdin 0, { state with stdin := fun index ↦ state.stdin (index + 1) })
    | .quit => (false, state)
    | .print _ _ => ((), state)

/-- A command function executes on the device alone. -/
theorem exec_command {δ α : Type} (device : Surroundings Scsi δ) (p : Command α)
    (state : Desk δ) :
    exec (desk device) (command p) state =
      ⟨.ok (exec device p state.device).result, (exec device p state.device).trace.map sendEvent,
        { state with device := (exec device p state.device).final }⟩ := by
  induction p generalizing state with
  | done value => rfl
  | fail error => rfl
  | ask request next ih =>
    change exec (desk device) (.ask (ToolRequest.sendCmd request) fun reply ↦
      command (next reply) : ToolProgram (Except ErrMsg α)) state = _
    rw [exec_ask, ih]
    rfl

/-- A sequence that begins with a command function continues with its outcome, in the state the
device is left in. -/
theorem exec_command_bind {δ α β : Type} (device : Surroundings Scsi δ) (p : Command α)
    (continuation : Except ErrMsg α → ToolProgram β) (state : Desk δ) :
    let execution := exec device p state.device
    let rest := exec (desk device) (continuation execution.result)
      { state with device := execution.final }
    exec (desk device) (command p >>= continuation) state =
      ⟨rest.result, execution.trace.map sendEvent ++ rest.trace, rest.final⟩ :=
  exec_bind_of_eq (exec_command device p state) continuation

/-! ### Programs without effect on the device -/

/-- A program that always returns, calls no subsystem and does not look at `quit`. -/
structure Silent {α : Type} (p : ToolProgram α) : Prop where
  of_run : ∀ {trace : List (Event Tool)} {result : Except Halt α}, Run p trace result →
    (∃ value, result = .ok value) ∧ commands trace = [] ∧ quitReads trace = []

namespace Silent

variable {α β : Type}

theorem done (value : α) : Silent (.done value : ToolProgram α) where
  of_run hrun := by
    obtain ⟨rfl, rfl⟩ := run_done.mp hrun
    exact ⟨⟨value, rfl⟩, rfl, rfl⟩

theorem print (stream : Stream) (text : List UInt8) :
    Silent (perform (I := Tool) (.print stream text) : ToolProgram Unit) where
  of_run hrun := by
    obtain ⟨reply, rest, rfl, hrest⟩ := run_ask.mp hrun
    obtain ⟨rfl, rfl⟩ := run_done.mp hrest
    exact ⟨⟨reply, rfl⟩, rfl, rfl⟩

/-- A silent program at the head of a sequence leaves no mark in what the sequence sends and
reads. -/
theorem run_bind {p : ToolProgram α} (hp : Silent p) {continuation : α → ToolProgram β}
    {trace : List (Event Tool)} {result : Except Halt β}
    (hrun : Run (p >>= continuation) trace result) :
    ∃ value rest, Run (continuation value) rest result ∧ commands trace = commands rest ∧
      quitReads trace = quitReads rest := by
  rcases Program.run_bind.mp hrun with
    ⟨error, rfl, herror⟩ | ⟨first, value, rest, rfl, hfirst, hrest⟩
  · obtain ⟨⟨value, hcontra⟩, -⟩ := hp.of_run herror
    exact absurd hcontra (by simp)
  · obtain ⟨-, hcommands, hquits⟩ := hp.of_run hfirst
    exact ⟨value, rest, hrest, by simp [hcommands], by simp [hquits]⟩

theorem bind {p : ToolProgram α} {continuation : α → ToolProgram β} (hp : Silent p)
    (hcontinuation : ∀ value, Silent (continuation value)) : Silent (p >>= continuation) where
  of_run hrun := by
    obtain ⟨value, rest, hrest, hcommands, hquits⟩ := hp.run_bind hrun
    rw [hcommands, hquits]
    exact (hcontinuation value).of_run hrest

end Silent

/-- A message followed by a return: no call, and that value. -/
theorem run_print_done {α : Type} {stream : Stream} {text : List UInt8} {value : α}
    {trace : List (Event Tool)} {result : Except Halt α}
    (hrun : Run ((perform (I := Tool) (.print stream text) : ToolProgram Unit) >>=
      fun _ ↦ .done value) trace result) :
    result = .ok value ∧ commands trace = [] ∧ quitReads trace = [] := by
  obtain ⟨-, rest, hrest, hcommands, hquits⟩ := (Silent.print _ _).run_bind hrun
  obtain ⟨rfl, rfl⟩ := run_done.mp hrest
  exact ⟨rfl, hcommands, hquits⟩

end U3Tool
