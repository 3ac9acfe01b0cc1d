import U3Tool.CommandGuard
import U3Tool.Interaction.Simulation

/-!
# The whole program over a transparent subsystem

`main` is written against a device that receives commands and answers them. A subsystem is
transparent for such a device when, in its surroundings, `u3_send_cmd` returns what the device
answers and `u3_close` returns (`Transparent`). Once the device is open, the whole program then does
what `main` does with the device itself: it ends the same, says the same on the console, and leaves
the device the same (`exec_mainOn`).
-/

set_option autoImplicit false
set_option relaxedAutoImplicit false

namespace U3Tool

open Interaction Bytes Program

/-! ### Devices -/

/-- A device: for a command with its outgoing data, whether it succeeded, the data it returns, and
the state it is in afterwards. -/
abbrev DeviceModel (σ : Type) := σ → CmdRequest → (Bool × List UInt8) × σ

/-- The status of a command: 0 when it succeeded, else 1. -/
def statusOf (passed : Bool) : UInt8 := if passed then 0 else 1

/-- The data a command brings in, of what the device returns for it. -/
def CmdRequest.incoming (request : CmdRequest) (data : List UInt8) : List UInt8 :=
  match request.direction with
  | .fromDev => data.take request.length
  | _ => []

/-- A device as `u3_send_cmd` shows it. -/
def answering {σ : Type} (dev : DeviceModel σ) : Surroundings Scsi σ := fun state request ↦
  (.success (statusOf (dev state request).1.1) (request.incoming (dev state request).1.2),
    (dev state request).2)

/-- The value of the exit status of an execution that returned. -/
theorem exec_exitCode {τ : Type} {env : Surroundings Tool τ} {p : ToolProgram ExitStatus}
    {now : τ} {status : ExitStatus} (hstatus : (exec env p now).result = .ok status) :
    (exec env (exitCode p) now).result = .ok status.code ∧
      (exec env (exitCode p) now).final = (exec env p now).final := by
  rw [exitCode, exec_bind_ok hstatus]
  exact ⟨rfl, rfl⟩

/-- A tool program leaves a device in the state that its commands lead to. -/
theorem device_final_exec {σ ε α : Type} (dev : Surroundings Scsi σ) (p : Program Tool ε α)
    (now : Desk σ) :
    (exec (desk dev) p now).final.device =
      (commands (exec (desk dev) p now).trace).foldl
        (fun state event ↦ (dev state event.request).2) now.device := by
  induction p generalizing now with
  | done value => rfl
  | fail error => rfl
  | ask request next ih =>
    rw [exec_ask]
    cases request with
    | sendCmd request => exact ih _ _
    | fgetc => exact ih _ _
    | quit => exact ih _ _
    | print stream text => exact ih _ _

/-! ### Dialogues -/

section Dialogue

variable {J : Interface} {send : CmdRequest → Program J Abort CmdReply}

theorem dialogue_append (first second : List (Event (J.sum Console))) :
    dialogue (first ++ second) = dialogue first ++ dialogue second :=
  List.filterMap_append

theorem dialogue_map_leftEvent (calls : List (Event J)) :
    dialogue (calls.map leftEvent : List (Event (J.sum Console))) = [] := by
  induction calls with
  | nil => rfl
  | cons call rest ih => exact ih

/-- Carrying out the commands of a trace changes nothing about its dialogue. -/
theorem dialogue_of_implements {events : List (Event Tool)}
    {trace : List (Event (J.sum Console))}
    (himplements : Implements (toolHandler send) events trace) :
    dialogue trace = talk events := by
  induction himplements with
  | nil => rfl
  | @cons request reply events first rest hfirst _ ih =>
    have hspoken : dialogue first = talk [⟨request, reply⟩] := by
      cases request with
      | sendCmd request =>
        obtain ⟨calls, rfl, -⟩ := run_left.mp hfirst
        exact dialogue_map_leftEvent calls
      | fgetc =>
        obtain ⟨answer, last, rfl, hlast⟩ := run_ask.mp hfirst
        obtain ⟨rfl, hanswer⟩ := run_done.mp hlast
        obtain rfl := Except.ok.inj hanswer
        rfl
      | quit =>
        obtain ⟨answer, last, rfl, hlast⟩ := run_ask.mp hfirst
        obtain ⟨rfl, hanswer⟩ := run_done.mp hlast
        obtain rfl := Except.ok.inj hanswer
        rfl
      | print stream text =>
        obtain ⟨answer, last, rfl, hlast⟩ := run_ask.mp hfirst
        obtain ⟨rfl, hanswer⟩ := run_done.mp hlast
        obtain rfl := Except.ok.inj hanswer
        rfl
    rw [dialogue_append, hspoken, ih, ← talk_append]
    rfl

end Dialogue

/-! ### Transparent subsystems -/

/-- In its surroundings an open device of the subsystem answers as a device does, and can be
closed; `related` links the states of the two. -/
structure Transparent {σ τ : Type} (sub : Subsystem) (calls : Surroundings sub.Calls τ)
    (dev : DeviceModel σ) (handle : sub.Handle) (related : σ → τ → Prop) : Prop where
  sends : Simulates (sub.u3SendCmd handle) (answering dev) calls related IsOperation
  closes : ∀ {state now}, related state now →
    (exec calls (sub.u3Close handle) now).result = .ok () ∧
      related state (exec calls (sub.u3Close handle) now).final

section Whole

variable {σ τ : Type} {sub : Subsystem} {calls : Surroundings sub.Calls τ} {dev : DeviceModel σ}
  {handle : sub.Handle} {related : σ → τ → Prop}

/-- Two desks with related devices and the same input. -/
def SameDesk (related : σ → τ → Prop) (above : Desk σ) (below : Desk τ) : Prop :=
  related above.device below.device ∧ above.stdin = below.stdin

/-- An execution over a subsystem ends as one against a device, says the same on the console, and
leaves related devices. -/
structure SameOutcome {J : Interface} (related : σ → τ → Prop)
    (alone : Execution Tool Halt Int32 (Desk σ))
    (whole : Execution (J.sum Console) Abort (Except Halt Int32) (Desk τ)) : Prop where
  result : whole.result = .ok alone.result
  said : dialogue whole.trace = talk alone.trace
  desk : SameDesk related alone.final whole.final

/-- A program over the calls, on a desk. -/
theorem exec_left_bench (calls : Surroundings sub.Calls τ) {α : Type}
    (p : Program sub.Calls Abort α) (now : τ) (stdin : ℕ → Option UInt8) :
    exec (bench calls) (p.left (J := Console)) ⟨now, stdin⟩ =
      ⟨(exec calls p now).result, (exec calls p now).trace.map leftEvent,
        ⟨(exec calls p now).final, stdin⟩⟩ :=
  exec_left calls (bench calls) (fun now ↦ ⟨now, stdin⟩) (fun _ _ ↦ rfl) p now

/-- A transparent subsystem carries out what a tool program asks. -/
theorem Transparent.simulates (htransparent : Transparent sub calls dev handle related) :
    Simulates (toolHandler (sub.u3SendCmd handle)) (desk (answering dev)) (bench calls)
      (SameDesk related) Operates where
  replies {state now request} hrequest hsame := by
    obtain ⟨hrelated, hstdin⟩ := hsame
    cases request with
    | sendCmd request =>
      have hleft := exec_left_bench calls (sub.u3SendCmd handle request) now.device
        now.stdin
      rw [toolHandler, hleft]
      exact htransparent.sends.replies hrequest hrelated
    | fgetc => exact congrArg (fun stdin ↦ Except.ok (stdin 0)) hstdin.symm
    | quit => rfl
    | print stream text => rfl
  keeps {state now request} hrequest hsame := by
    obtain ⟨hrelated, hstdin⟩ := hsame
    cases request with
    | sendCmd request =>
      have hleft := exec_left_bench calls (sub.u3SendCmd handle request) now.device
        now.stdin
      rw [toolHandler, hleft]
      exact ⟨htransparent.sends.keeps hrequest hrelated, hstdin⟩
    | fgetc =>
      exact ⟨hrelated, congrArg (fun (stdin : ℕ → Option UInt8) index ↦ stdin (index + 1)) hstdin⟩
    | quit => exact ⟨hrelated, hstdin⟩
    | print stream text => exact ⟨hrelated, hstdin⟩

/-- What `main` asks of its surroundings are operations. -/
theorem operates_main (world : World) (fuel : ℕ) (stack : MainStack) (name : List UInt8)
    (args : List (List UInt8)) : Asks Operates (main world fuel stack name args) where
  of_run hrun event hevent := by
    obtain ⟨before, after, hevents⟩ := List.append_of_mem hevent
    obtain ⟨request, reply⟩ := event
    cases request with
    | sendCmd request =>
      have hsplit : _ = before ++ sendEvent ⟨request, reply⟩ :: after := hevents
      exact isOperation_of_run_main hrun hsplit
    | fgetc => trivial
    | quit => trivial
    | print stream text => trivial

variable {world : World} {fuel : ℕ} {stack : MainStack} {name : List UInt8}
  {args : List (List UInt8)} {options : Options} {deviceName : List UInt8}

/-- What `main` does with an open device, and the closing of it. -/
theorem exec_session {now : τ} {state : σ} (stdin : ℕ → Option UInt8)
    (htransparent : Transparent sub calls dev handle related) (hrelated : related state now)
    (hasks : Asks Operates (withDevice world fuel stack options)) :
    SameOutcome related
      (exec (desk (answering dev)) (withDevice world fuel stack options) ⟨state, stdin⟩)
      (exec (bench calls) (session sub world fuel stack options handle) ⟨now, stdin⟩) := by
  have hsame : SameDesk related ⟨state, stdin⟩ ⟨now, stdin⟩ := ⟨hrelated, rfl⟩
  obtain ⟨hresult, ⟨hlast, hrest⟩, htrace⟩ := exec_interp htransparent.simulates hasks hsame
  have hsaid := dialogue_of_implements htrace
  rw [session, exec_bind_ok hresult]
  cases hcode : (exec (desk (answering dev)) (withDevice world fuel stack options)
      ⟨state, stdin⟩).result with
  | error halt =>
    refine ⟨congrArg _ hcode.symm, ?_, hlast, hrest⟩
    exact (congrArg dialogue (List.append_nil _)).trans hsaid
  | ok code =>
    obtain ⟨hclosed, hclosing⟩ := htransparent.closes hlast
    have hleft := exec_left_bench calls (sub.u3Close handle)
      (exec (bench calls) ((withDevice world fuel stack options).interp
        (toolHandler (sub.u3SendCmd handle))) ⟨now, stdin⟩).final.device
      (exec (bench calls) ((withDevice world fuel stack options).interp
        (toolHandler (sub.u3SendCmd handle))) ⟨now, stdin⟩).final.stdin
    rw [hclosed] at hleft
    dsimp only
    rw [exec_bind_of_eq hleft]
    refine ⟨congrArg _ hcode.symm, ?_, hclosing, hrest⟩
    rw [dialogue_append, dialogue_append, dialogue_map_leftEvent, hsaid]
    simp [dialogue]

/-- A program that has no open device leaves every device alone. -/
theorem device_final_noDevice {J : Interface} {τ α : Type} (calls : Surroundings J τ)
    (p : ToolProgram α) (now : Desk τ) :
    (exec (bench calls) (p.interp (toolHandler noDevice)) now).final.device = now.device := by
  induction p generalizing now with
  | done value => rfl
  | fail error => rfl
  | ask request next ih =>
    rw [interp_ask]
    cases request with
    | sendCmd request => rfl
    | fgetc => exact ih _ _
    | quit => exact ih _ _
    | print stream text => exact ih _ _

/-- The whole program when `main` comes to no device. -/
theorem device_final_of_none (sub : Subsystem) (calls : Surroundings sub.Calls τ) {now : Desk τ}
    (hnone : deviceArgument args = none) :
    (exec (bench calls) (mainOn sub world fuel stack name args) now).final.device = now.device := by
  unfold mainOn
  rw [hnone]
  exact device_final_noDevice _ _ _

/-- The whole program when the device is not opened. -/
theorem device_final_of_unopened (sub : Subsystem) (calls : Surroundings sub.Calls τ)
    {opening : τ} {stdin : ℕ → Option UInt8}
    (hdevice : deviceArgument args = some (options, deviceName))
    (hunopened : ∀ handle, (exec calls (sub.u3Open (verbose args) (argumentText deviceName))
      opening).result ≠ .ok (.ok handle)) :
    (exec (bench calls) (mainOn sub world fuel stack name args) ⟨opening, stdin⟩).final.device =
      (exec calls (sub.u3Open (verbose args) (argumentText deviceName)) opening).final := by
  have hbench := exec_left_bench calls (sub.u3Open (verbose args) (argumentText deviceName))
    opening stdin
  unfold mainOn
  rw [hdevice]
  dsimp only
  cases hresult : (exec calls (sub.u3Open (verbose args) (argumentText deviceName))
      opening).result with
  | error stop =>
    rw [exec_bind_error ((congrArg Execution.result hbench).trans hresult), hbench]
  | ok opened =>
    rw [hresult] at hbench
    cases opened with
    | ok handle => exact absurd hresult (hunopened handle)
    | error error =>
      rw [exec_bind_of_eq hbench]
      exact device_final_noDevice _ _ _

/-- Once a transparent subsystem has opened its device, the whole program does what `main` does with
the device. -/
theorem exec_mainOn (world : World) (fuel : ℕ) (stack : MainStack) (name : List UInt8)
    (stdin : ℕ → Option UInt8) {opening : τ} {state : σ}
    (hdevice : deviceArgument args = some (options, deviceName))
    (hopen : (exec calls (sub.u3Open (verbose args) (argumentText deviceName)) opening).result =
      .ok (.ok handle))
    (htransparent : Transparent sub calls dev handle related)
    (hrelated : related state
      (exec calls (sub.u3Open (verbose args) (argumentText deviceName)) opening).final) :
    SameOutcome related
      (exec (desk (answering dev)) (main (opensAs world none) fuel stack name args) ⟨state, stdin⟩)
      (exec (bench calls) (mainOn sub world fuel stack name args) ⟨opening, stdin⟩) := by
  have hmain := (@main_opensAs world fuel stack name args _ _ hdevice).1
  have hasks : Asks Operates (withDevice world fuel stack options) :=
    hmain ▸ operates_main (opensAs world none) fuel stack name args
  have hopened := exec_left_bench calls
    (sub.u3Open (verbose args) (argumentText deviceName)) opening stdin
  rw [hopen] at hopened
  unfold mainOn
  rw [hdevice, hmain]
  dsimp only
  rw [exec_bind_of_eq hopened]
  obtain ⟨hresult, hsaid, hdesk⟩ := exec_session stdin htransparent hrelated hasks
  refine ⟨hresult, ?_, hdesk⟩
  rw [dialogue_append, dialogue_map_leftEvent, List.nil_append]
  exact hsaid

end Whole

end U3Tool
