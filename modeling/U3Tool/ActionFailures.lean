import U3Tool.ActionRuns

/-!
# What a failed action leaves behind

The actions that repartition the device or change its security have no rollback. Four of them issue
one device-changing command, which decides the result, so a failure means that nothing was changed.
`do_partition` follows the repartition with a reset and `do_reset_security` the enabling of security
with its disabling (`SecurityCall.chain`): when the second command is not accepted, the action fails
although the first was (`HalfDone`). `failure_leaves_unchanged` says that this is the only way in
which a failed action has changed the device.
-/

set_option autoImplicit false
set_option relaxedAutoImplicit false

namespace U3Tool

open Interaction Bytes Program

/-- A call of an action that repartitions the device or changes its security, with the initial
contents of the local variables that are not initialized. -/
inductive SecurityCall
  | partition (sizeString : List UInt8) (stack : PartitionStack)
  | unlock (password : List UInt8) (securityProperties : Property0C)
  | changePassword (password newPassword : List UInt8) (securityProperties : Property0C)
  | enableSecurity (password : List UInt8) (roundedSize : Buffer 4)
  | disableSecurity (password : List UInt8) (securityProperties : Property0C)
  | resetSecurity (roundedSize : Buffer 4)

namespace SecurityCall

/-- The action that is called. -/
def run (md5 : List UInt8 → Buffer 16) (fuel : ℕ) : SecurityCall → ToolProgram ExitStatus
  | .partition sizeString stack => doPartition sizeString stack
  | .unlock password securityProperties => doUnlock md5 fuel securityProperties password
  | .changePassword password newPassword securityProperties =>
    doChangePassword md5 fuel securityProperties password newPassword
  | .enableSecurity password roundedSize => doEnableSecurity md5 password roundedSize
  | .disableSecurity password securityProperties =>
    doDisableSecurity md5 fuel securityProperties password
  | .resetSecurity roundedSize => doResetSecurity md5 roundedSize

/-- The two device-changing commands of an action that issues two. -/
def chain : SecurityCall → Option (UInt16 × UInt16)
  | .partition _ _ => some (0x22, 0x101)
  | .resetSecurity _ => some (0xA2, 0xA7)
  | _ => none

end SecurityCall

/-- No device-changing command of a call was accepted. -/
def Unchanged (calls : List (Event Scsi)) : Prop :=
  ∀ event ∈ calls, Changing event → ¬ event.reply.Accepted

instance : DecidablePred Unchanged := fun calls ↦
  inferInstanceAs (Decidable (∀ event ∈ calls, Changing event → ¬ event.reply.Accepted))

/-- The first of the two device-changing commands of an action was accepted, and the second, the
last command of the action, was not. -/
def HalfDone (call : SecurityCall) (calls : List (Event Scsi)) : Prop :=
  ∃ queries change last, calls = queries ++ [change, last] ∧ Reads queries ∧
    call.chain = some (change.request.command, last.request.command) ∧
    change.reply.Accepted ∧ ¬ last.reply.Accepted

/-- An action with one device-changing command that fails has changed nothing. -/
theorem ChangesOnce.unchanged {code : UInt16} {calls : List (Event Scsi)}
    (honce : ChangesOnce code calls (.ok .failure)) : Unchanged calls := by
  cases honce with
  | stopped hreads _ => exact fun event hevent hchanging ↦ absurd hchanging (hreads event hevent)
  | sent hcalls hreads _ hstatus =>
    subst hcalls
    refine List.forall_mem_append.mpr ⟨fun query hquery hchanging ↦
      absurd hchanging (hreads query hquery), List.forall_mem_singleton.mpr fun _ haccepted ↦ ?_⟩
    exact absurd (hstatus.mpr haccepted) (by simp)

/-- An action with two device-changing commands that fails has changed nothing, or it is half
done. -/
theorem ChangesTwice.unchanged_or_halfDone {first second : UInt16} {calls : List (Event Scsi)}
    {call : SecurityCall} (hchain : call.chain = some (first, second))
    (htwice : ChangesTwice first second calls (.ok .failure)) :
    Unchanged calls ∨ HalfDone call calls := by
  cases htwice with
  | stopped honce => exact Or.inl honce.unchanged
  | sent hcalls hreads hfirst haccepted hsecond hstatus =>
    refine Or.inr ⟨_, _, _, hcalls, hreads, ?_, haccepted, fun hlast ↦ ?_⟩
    · rw [hchain, hfirst, hsecond]
    · exact absurd (hstatus.mpr hlast) (by simp)

/-- An action that returns `EXIT_FAILURE` has changed nothing on the device, unless it is one of the
two that issue two device-changing commands, the first was accepted and the second, its last
command, was not. -/
theorem failure_leaves_unchanged {md5 : List UInt8 → Buffer 16} {fuel : ℕ} {call : SecurityCall}
    {trace : List (Event Tool)} (hrun : Run (call.run md5 fuel) trace (.ok .failure)) :
    Unchanged (commands trace) ∨ HalfDone call (commands trace) := by
  cases call with
  | partition sizeString stack => exact (changesTwice_doPartition hrun).unchanged_or_halfDone rfl
  | unlock password securityProperties => exact Or.inl (changesOnce_guardedAction hrun).unchanged
  | changePassword password newPassword securityProperties =>
    exact Or.inl (changesOnce_guardedAction hrun).unchanged
  | enableSecurity password roundedSize =>
    exact Or.inl (changesOnce_doEnableSecurity hrun).unchanged
  | disableSecurity password securityProperties =>
    exact Or.inl (changesOnce_guardedAction hrun).unchanged
  | resetSecurity roundedSize =>
    exact (changesTwice_doResetSecurity hrun).unchanged_or_halfDone rfl

/-- A device that refuses one command and accepts every other; whatever it is asked, it answers the
beginning of a property page of 39 bytes. -/
def refusing (code : UInt16) : Surroundings Scsi Unit := fun _ request ↦
  if request.command = code then (.success 1 [], ())
  else (.success 0 ((3 :: 0 :: 1 :: 0 :: 39 :: List.replicate 34 0).take request.length), ())

/-- A reset of the security of a device, with a constant hash. -/
def resetCall : SecurityCall := .resetSecurity (.fill 4 0)

/-- The removal of the CD partition. -/
def removeCdCall : SecurityCall := .partition (ascii "0") ⟨.fill 4 0, .fill 39 0, .fill 4 0⟩

/-- An execution of a call against a device that refuses one command. -/
def refusedRun (code : UInt16) (call : SecurityCall) :
    Execution Tool Halt ExitStatus (Desk Unit) :=
  exec (desk (refusing code)) (call.run (fun _ ↦ .fill 16 0) 0) ⟨(), fun _ ↦ none⟩

theorem failure_leaves_unchanged_witness :
    Unchanged (commands (refusedRun 0xA2 resetCall).trace) ∨
      HalfDone resetCall (commands (refusedRun 0xA2 resetCall).trace) := by
  have hresult : (refusedRun 0xA2 resetCall).result = .ok .failure := by decide +kernel
  have hrun : Run (resetCall.run (fun _ ↦ .fill 16 0) 0) (refusedRun 0xA2 resetCall).trace
      (refusedRun 0xA2 resetCall).result := run_exec _ _ _
  exact failure_leaves_unchanged (hresult ▸ hrun)

/-- A device that refuses 0xA7 is left secured under the built-in password by a failed reset, and
one that refuses 0x101 keeps the new table of a failed repartition. -/
theorem failure_after_accepted_change :
    (refusedRun 0xA7 resetCall).result = .ok .failure ∧
      ((commands (refusedRun 0xA7 resetCall).trace).map fun event ↦
        (event.request.command, decide event.reply.Accepted)) =
        [(0xA0, true), (0xA3, true), (0xA2, true), (0xA7, false)] ∧
      (refusedRun 0x101 removeCdCall).result = .ok .failure ∧
      ((commands (refusedRun 0x101 removeCdCall).trace).map fun event ↦
        (event.request.command, decide event.reply.Accepted)) =
        [(0x00, true), (0x00, true), (0x20, true), (0x22, true), (0x101, false)] ∧
      ¬ ∀ (md5 : List UInt8 → Buffer 16) (fuel : ℕ) (call : SecurityCall)
        (trace : List (Event Tool)), Run (call.run md5 fuel) trace (.ok .failure) →
        Unchanged (commands trace) := by
  have hresult : (refusedRun 0xA7 resetCall).result = .ok .failure := by decide +kernel
  refine ⟨hresult, by decide +kernel, by decide +kernel, by decide +kernel, fun hclaim ↦ ?_⟩
  have hrun : Run (resetCall.run (fun _ ↦ .fill 16 0) 0) (refusedRun 0xA7 resetCall).trace
      (refusedRun 0xA7 resetCall).result := run_exec _ _ _
  exact absurd (hclaim _ _ _ _ (hresult ▸ hrun)) (by decide +kernel)

end U3Tool
