import U3Tool.Bytes.Memory
import U3Tool.Interaction.Protocol
import U3Tool.Main
import U3Tool.UsbTransport

/-!
# The whole program over a subsystem

`main` is linked with one subsystem, which opens a device, sends commands to it and closes it
(`Subsystem`). `mainOn` is the whole program over the calls of that subsystem and the console:
`u3_open`, what `main` does with an open device, and `u3_close`, which is not reached when an
assertion of the subsystem fails or the loops on stdin do not end.

`run_mainOn` takes a completed run of it apart into the opening, a run of `main` whose commands are
carried out by `u3_send_cmd`, and the closing; so what holds of every run of `main` holds of the
whole program over any subsystem.
-/

set_option autoImplicit false
set_option relaxedAutoImplicit false

namespace U3Tool

open Interaction Bytes Program

/-! ### The interfaces -/

/-- What a tool program asks of the console. -/
inductive ConsoleRequest
  | fgetc
  | quit
  | print (stream : Stream) (text : List UInt8)
  deriving DecidableEq

/-- The replies of the console. -/
@[reducible] def ConsoleRequest.Reply : ConsoleRequest → Type
  | .fgetc => Option UInt8
  | .quit => Bool
  | .print _ _ => Unit

/-- The console. -/
@[reducible] def Console : Interface where
  Request := ConsoleRequest
  Reply := ConsoleRequest.Reply

/-- A subsystem: the calls its functions make, what the handle of an open device refers to, and the
three functions of `u3_scsi.h`. `u3_open` is passed the flag `debug` that it can read. -/
structure Subsystem where
  Calls : Interface
  Handle : Type
  u3Open : (debug : Bool) → (which : CText) → Program Calls Abort (Except ErrMsg Handle)
  u3SendCmd : Handle → CmdRequest → Program Calls Abort CmdReply
  u3Close : Handle → Program Calls Abort Unit

/-- Carries out what a tool program asks, commands by a function of a subsystem. -/
def toolHandler {J : Interface} (send : CmdRequest → Program J Abort CmdReply) :
    (request : ToolRequest) → Program (J.sum Console) Abort request.Reply
  | .sendCmd request => (send request).left
  | .fgetc => (perform (I := Console) .fgetc).right
  | .quit => (perform (I := Console) .quit).right
  | .print stream text => (perform (I := Console) (.print stream text)).right

/-- No device is open: a command would be sent through a handle that is not initialized. -/
def noDevice {J : Interface} (_ : CmdRequest) : Program J Abort CmdReply := .fail .assertion

/-- The surroundings of the whole program: those of a subsystem, and a stdin; no signal arrives. -/
def bench {J : Interface} {δ : Type} (calls : Surroundings J δ) :
    Surroundings (J.sum Console) (Desk δ) := fun state request ↦
  match request with
  | .left call =>
    ((calls state.device call).1, { state with device := (calls state.device call).2 })
  | .right .fgetc => (state.stdin 0, { state with stdin := fun index ↦ state.stdin (index + 1) })
  | .right .quit => (false, state)
  | .right (.print _ _) => ((), state)

/-! ### The program -/

/-- The options and the device name with which `main` comes to open a device, if it does. -/
def deviceArgument (args : List (List UInt8)) : Option (Options × List UInt8) :=
  match parseOptions (parsedArguments args).1 .initial, (parsedArguments args).2 with
  | .ok options, deviceName :: _ => some (options, deviceName)
  | _, _ => none

/-- Whether `-v` is among the options, which sets `debug`. -/
def verbose (args : List (List UInt8)) : Bool :=
  (parsedArguments args).1.any fun item ↦ item = .flag 118

/-- An argument as a C string. -/
def argumentText (argument : List UInt8) : CText where
  bytes := argument.takeWhile (· ≠ 0)
  noNul hmem := by simpa using List.mem_takeWhile_imp hmem

/-- The message of a failed `u3_open`, and the exit. -/
def openFailed (error : ErrMsg) : ToolProgram Int32 := do
  eprint (ascii "Error opening device: " ++ error.text ++ ascii "\n")
  .done 1

variable (sub : Subsystem) (world : World)

/-- What `main` does with an open device, and the closing of it. -/
def session (fuel : ℕ) (stack : MainStack) (options : Options) (handle : sub.Handle) :
    Program (sub.Calls.sum Console) Abort (Except Halt Int32) := do
  match ← (withDevice world fuel stack options).interp (toolHandler (sub.u3SendCmd handle)) with
  | .error halt => .done (.error halt)
  | .ok code => do
    let _ ← (sub.u3Close handle).left
    .done (.ok code)

/-- `main` with a subsystem linked to it. -/
def mainOn (fuel : ℕ) (stack : MainStack) (name : List UInt8) (args : List (List UInt8)) :
    Program (sub.Calls.sum Console) Abort (Except Halt Int32) :=
  match deviceArgument args with
  | none => (main world fuel stack name args).interp (toolHandler noDevice)
  | some (options, deviceName) => do
    match ← (sub.u3Open (verbose args) (argumentText deviceName)).left with
    | .error error => (openFailed error).interp (toolHandler noDevice)
    | .ok handle => session sub world fuel stack options handle

/-! ### Its runs -/

/-- The outcome of opening a device, as `main` is told of it. -/
def opensAs (world : World) (error : Option ErrMsg) : World :=
  { world with openError := fun _ ↦ error }

/-- What a completed run of the whole program consists of: the opening of a device, if `main` comes
to it; a run of `main` with that outcome, whose commands `u3_send_cmd` carries out one after the
other; and, when a device was opened and `main` returned, the closing. -/
inductive Linked (fuel : ℕ) (stack : MainStack) (name : List UInt8) (args : List (List UInt8)) :
    List (Event (sub.Calls.sum Console)) → Except Halt Int32 → Prop
  | exits {events : List (Event Tool)} {trace : List (Event (sub.Calls.sum Console))}
      {outcome : Except Halt Int32} (hnone : deviceArgument args = none)
      (hmain : Run (main world fuel stack name args) events outcome)
      (hevents : Implements (toolHandler noDevice) events trace) :
      Linked fuel stack name args trace outcome
  | openFails {options : Options} {deviceName : List UInt8} {opening : List (Event sub.Calls)}
      {error : ErrMsg} {events : List (Event Tool)}
      {rest : List (Event (sub.Calls.sum Console))} {outcome : Except Halt Int32}
      (hdevice : deviceArgument args = some (options, deviceName))
      (hopen : Run (sub.u3Open (verbose args) (argumentText deviceName)) opening
        (.ok (.error error)))
      (hmain : Run (main (opensAs world (some error)) fuel stack name args) events outcome)
      (hevents : Implements (toolHandler noDevice) events rest) :
      Linked fuel stack name args (opening.map leftEvent ++ rest) outcome
  | opens {options : Options} {deviceName : List UInt8} {opening : List (Event sub.Calls)}
      {handle : sub.Handle} {events : List (Event Tool)}
      {middle : List (Event (sub.Calls.sum Console))} {closing : List (Event sub.Calls)}
      {outcome : Except Halt Int32}
      (hdevice : deviceArgument args = some (options, deviceName))
      (hopen : Run (sub.u3Open (verbose args) (argumentText deviceName)) opening
        (.ok (.ok handle)))
      (hmain : Run (main (opensAs world none) fuel stack name args) events outcome)
      (hevents : Implements (toolHandler (sub.u3SendCmd handle)) events middle)
      (hclose : ∀ code, outcome = .ok code → Run (sub.u3Close handle) closing (.ok ()))
      (hwaits : ∀ halt, outcome = .error halt → closing = []) :
      Linked fuel stack name args
        (opening.map leftEvent ++ (middle ++ closing.map leftEvent)) outcome

variable {sub world} in
/-- A session is a run of what `main` does with an open device, and the closing. -/
theorem run_session {fuel : ℕ} {stack : MainStack} {options : Options} {handle : sub.Handle}
    {trace : List (Event (sub.Calls.sum Console))} {outcome : Except Halt Int32}
    (hrun : Run (session sub world fuel stack options handle) trace (.ok outcome)) :
    ∃ events middle closing, trace = middle ++ closing.map leftEvent ∧
      Run (withDevice world fuel stack options) events outcome ∧
      Implements (toolHandler (sub.u3SendCmd handle)) events middle ∧
      (∀ code, outcome = .ok code → Run (sub.u3Close handle) closing (.ok ())) ∧
      ∀ halt, outcome = .error halt → closing = [] := by
  obtain ⟨middle, inner, rest, rfl, hinner, hrest⟩ := run_bind_ok.mp hrun
  obtain ⟨events, hevents, himplements⟩ := run_interp_ok.mp hinner
  cases inner with
  | error halt =>
    obtain ⟨rfl, houtcome⟩ := run_done.mp hrest
    obtain rfl := Except.ok.inj houtcome
    exact ⟨events, middle, [], rfl, hevents, himplements, fun code hcode ↦ by simp at hcode,
      fun _ _ ↦ rfl⟩
  | ok code =>
    obtain ⟨first, closed, last, rfl, hclose, hlast⟩ := run_bind_ok.mp hrest
    obtain ⟨rfl, houtcome⟩ := run_done.mp hlast
    obtain rfl := Except.ok.inj houtcome
    obtain ⟨closing, rfl, hclosing⟩ := run_left.mp hclose
    exact ⟨events, middle, closing, by rw [List.append_nil], hevents, himplements,
      fun _ _ ↦ hclosing, fun halt hhalt ↦ by simp at hhalt⟩

/-- With a device to open, `main` goes by the outcome of the opening. -/
theorem main_opensAs {fuel : ℕ} {stack : MainStack} {name : List UInt8}
    {args : List (List UInt8)} {options : Options} {deviceName : List UInt8}
    (hdevice : deviceArgument args = some (options, deviceName)) :
    main (opensAs world none) fuel stack name args = withDevice world fuel stack options ∧
      ∀ error, main (opensAs world (some error)) fuel stack name args = openFailed error := by
  unfold main
  unfold deviceArgument at hdevice
  dsimp only
  cases hparse : parseOptions (parsedArguments args).1 .initial with
  | error exit => simp [hparse] at hdevice
  | ok parsed =>
    cases hoperands : (parsedArguments args).2 with
    | nil => simp [hparse, hoperands] at hdevice
    | cons operand rest =>
      simp only [hparse, hoperands, Option.some.injEq, Prod.mk.injEq] at hdevice
      rw [← hdevice.1]
      exact ⟨rfl, fun error ↦ rfl⟩

variable {sub world} in
/-- Every completed run of the whole program is an opening, a run of `main` over the subsystem, and
a closing. -/
theorem run_mainOn {fuel : ℕ} {stack : MainStack} {name : List UInt8} {args : List (List UInt8)}
    {trace : List (Event (sub.Calls.sum Console))} {outcome : Except Halt Int32}
    (hrun : Run (mainOn sub world fuel stack name args) trace (.ok outcome)) :
    Linked sub world fuel stack name args trace outcome := by
  unfold mainOn at hrun
  cases hdevice : deviceArgument args with
  | none =>
    rw [hdevice] at hrun
    obtain ⟨events, hevents, himplements⟩ := run_interp_ok.mp hrun
    exact .exits hdevice hevents himplements
  | some argument =>
    rw [hdevice] at hrun
    obtain ⟨_, opened, rest, rfl, hopen, hrest⟩ := run_bind_ok.mp hrun
    obtain ⟨opening, rfl, hopening⟩ := run_left.mp hopen
    obtain ⟨hdeviceRun, hfailed⟩ := @main_opensAs world fuel stack name args _ _ hdevice
    cases opened with
    | error error =>
      obtain ⟨events, hevents, himplements⟩ := run_interp_ok.mp hrest
      refine .openFails hdevice hopening ?_ himplements
      rw [hfailed]
      exact hevents
    | ok handle =>
      obtain ⟨events, middle, closing, rfl, hevents, himplements, hclose, hwaits⟩ :=
        run_session hrest
      refine .opens hdevice hopening ?_ himplements hclose hwaits
      rw [hdeviceRun]
      exact hevents

end U3Tool
