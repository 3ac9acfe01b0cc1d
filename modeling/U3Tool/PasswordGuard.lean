import U3Tool.Actions
import U3Tool.CommandRuns

/-!
# The guard on password tries

Before a password is sent, the number of tries left is computed as `max_pass_try - pass_try`, in 32
bits, and narrowed to an `int`. The device is taken as blocked when the result is 0, and the user is
asked when it is 1.

`password_guard_iff` says when the guard does what it is for, against any device that reports the
two values completely and on any stdin: no password is sent when no try is left, the last try is
made after a confirmation only, and otherwise exactly one password command is sent. This holds
exactly when `pass_try` does not exceed `max_pass_try`, apart from one pair of values for which the
difference wraps to 1 and a refusal on stdin saves the case.
-/

set_option autoImplicit false
set_option relaxedAutoImplicit false

namespace U3Tool

open Interaction Bytes Program

variable {δ : Type} {device : Surroundings Scsi δ}

/-! ### The device -/

/-- The call of `u3_data_partition_info`. -/
def dpartInfoRequest : CmdRequest where
  cmd := dataPartitionInfoCommand
  direction := .fromDev
  length := 16
  data := []

/-- A device that reports two values completely: it answers the data partition information and
property page 0x0C, both the header and the whole, with as many bytes as are asked for and the right
length field, and the values stand at their places. -/
structure Reports (device : Surroundings Scsi δ) (maxPassTry passTry : UInt32) : Prop where
  info : ∀ state, ∃ data, (device state dpartInfoRequest).1 = .success 0 data ∧
    data.length = 16 ∧ leUInt32 ((data.drop 12).take 4) = passTry
  header : ∀ state, ∃ data, (device state (propertyRequest 0x0C 6)).1 = .success 0 data ∧
    data.length = 6 ∧ leUInt16 ((data.drop 4).take 2) = 10
  page : ∀ state, ∃ data, (device state (propertyRequest 0x0C 10)).1 = .success 0 data ∧
    data.length = 10 ∧ leUInt32 ((data.drop 6).take 4) = maxPassTry

/-- The command is one that carries a password: unlock, change password or disable security. -/
def IsPassword (event : Event Scsi) : Prop := event.request.command ∈ [0xA4, 0xA6, 0xA7]

instance : DecidablePred IsPassword := fun event ↦
  inferInstanceAs (Decidable (event.request.command ∈ [0xA4, 0xA6, 0xA7]))

/-- A query sends no password. -/
theorem not_isPassword_of_isQuery {α : Type} {p : Command α} (hp : IsQuery p) (state : δ) :
    ∀ event ∈ (exec device p state).trace, ¬ IsPassword event := by
  intro event hevent hpassword
  refine hp.not_changing (run_exec device p state) event hevent ?_
  unfold IsPassword at hpassword
  unfold Changing deviceChanging
  simp only [List.mem_cons, List.not_mem_nil, or_false] at hpassword ⊢
  tauto

/-- No password command is among the calls of a trace. -/
def NoPassword (trace : List (Event Tool)) : Prop :=
  ∀ event ∈ commands trace, ¬ IsPassword event

theorem noPassword_append {first second : List (Event Tool)} :
    NoPassword (first ++ second) ↔ NoPassword first ∧ NoPassword second := by
  simp only [NoPassword, commands_append, List.forall_mem_append]

theorem noPassword_of_commands_eq_nil {trace : List (Event Tool)} (hnone : commands trace = []) :
    NoPassword trace := by
  simp [NoPassword, hnone]

/-- Against such a device `u3_data_partition_info` returns the number of tries made. -/
theorem exec_u3DataPartitionInfo {maxPassTry passTry : UInt32}
    (hreports : Reports device maxPassTry passTry) (state : δ) :
    ∃ info, (exec device u3DataPartitionInfo state).result = .ok info ∧
      DpartInfo.passTry info = passTry := by
  obtain ⟨data, hreply, hlength, hpassTry⟩ := hreports.info state
  have henv : device state dpartInfoRequest =
      (.success 0 data, (device state dpartInfoRequest).2) := Prod.ext hreply rfl
  refine ⟨(Buffer.fill 16 0).store 0 (data.take 16), ?_, ?_⟩
  · unfold u3DataPartitionInfo deviceCommand
    rw [bind_assoc', exec_u3SendCmd_bind henv]
    rfl
  · rw [DpartInfo.passTry, Buffer.word32, List.take_of_length_le (le_of_eq hlength),
      Buffer.slice_store_zero (by omega) (by omega), hpassTry]

/-- Against such a device the property read returns the number of tries allowed. -/
theorem exec_u3ReadDeviceProperty_0C {maxPassTry passTry : UInt32}
    (hreports : Reports device maxPassTry passTry) (buffer : Property0C) (state : δ) :
    ∃ page, (exec device (u3ReadDeviceProperty 0x0C buffer) state).result = .ok page ∧
      Property0C.maxPassTry page = maxPassTry := by
  obtain ⟨header, hheader, hheaderLength, hten⟩ := hreports.header state
  have hhdr : hdrLength (headerRead buffer header) = 10 := by
    have hwhole : header.take propertyHeaderSize.toNat = header :=
      List.take_of_length_le (le_of_eq hheaderLength)
    rw [headerRead, hwhole, hdrLength, Buffer.word16,
      Buffer.slice_store_zero (by omega) (by omega), hten]
  have hpageLength : pageLength (headerRead buffer header) = 10 := by
    rw [pageLength, hhdr]
    decide
  obtain ⟨page, hpage, hlength, hmax⟩ := hreports.page (device state (propertyRequest 0x0C 6)).2
  have hsmall : ¬ UInt16.ofNat 10 < 6 := by decide
  have hlong : ¬ hdrLength (headerRead buffer header) < propertyHeaderSize := by
    rw [hhdr]
    decide
  have hbody : (device (device state (propertyRequest 0x0C 6)).2
      (propertyRequest 0x0C (pageLength (headerRead buffer header)))).1 = .success 0 page := by
    rw [hpageLength]
    exact hpage
  refine ⟨_, congrArg Execution.result (exec_u3ReadDeviceProperty hsmall (Prod.ext hheader rfl)
    hlong (Prod.ext hbody rfl)), ?_⟩
  have hwhole : page.take (pageLength (headerRead buffer header)).toNat = page := by
    rw [hpageLength]
    exact List.take_of_length_le (le_of_eq hlength)
  rw [Property0C.maxPassTry, pageRead, hwhole, Buffer.word32,
    Buffer.slice_store_zero (by omega) (by omega), hmax]

/-- Against such a device `get_tries_left` returns the wrapped and narrowed difference. It sends no
password and leaves stdin as it was. -/
theorem exec_getTriesLeft {maxPassTry passTry : UInt32}
    (hreports : Reports device maxPassTry passTry) (securityProperties : Property0C)
    (state : Desk δ) :
    (exec (desk device) (getTriesLeft securityProperties) state).result =
        .ok (some (maxPassTry - passTry).toInt32) ∧
      NoPassword (exec (desk device) (getTriesLeft securityProperties) state).trace ∧
      (exec (desk device) (getTriesLeft securityProperties) state).final.stdin = state.stdin := by
  obtain ⟨info, hinfo, hpassTry⟩ := exec_u3DataPartitionInfo hreports state.device
  obtain ⟨page, hpage, hmax⟩ := exec_u3ReadDeviceProperty_0C hreports securityProperties
    (exec device u3DataPartitionInfo state.device).final
  unfold getTriesLeft
  rw [exec_command_bind]
  dsimp only
  rw [hinfo]
  dsimp only
  rw [exec_command_bind]
  dsimp only
  rw [hpage]
  refine ⟨by simp [hmax, hpassTry], fun event hevent ↦ ?_, rfl⟩
  simp only [commands_append, commands_map_sendEvent, exec_done, List.append_nil,
    List.mem_append] at hevent
  rcases hevent with hevent | hevent
  · exact not_isPassword_of_isQuery isQuery_u3DataPartitionInfo _ event hevent
  · exact not_isPassword_of_isQuery (isQuery_u3ReadDeviceProperty _ _) _ event hevent

/-! ### Confirmation -/

section Confirm

variable {σ : Type} {env : Surroundings Tool σ}

/-- More fuel changes nothing once the rest of the line is dropped. -/
theorem exec_dropLine_succ {fuel : ℕ} {c : Int8} {state : σ}
    (hreturns : (exec env (dropLine fuel c) state).result = .ok ()) :
    exec env (dropLine (fuel + 1) c) state = exec env (dropLine fuel c) state := by
  induction fuel generalizing c state with
  | zero =>
    unfold dropLine at hreturns ⊢
    split_ifs at hreturns ⊢ with hend
    · rfl
    · simp at hreturns
  | succ fuel ih =>
    unfold dropLine at hreturns ⊢
    split_ifs at hreturns ⊢ with hend
    · rfl
    · simp only [fgetc, perform, ask_bind, done_bind, exec_ask] at hreturns ⊢
      rw [ih hreturns]

/-- More fuel changes nothing once `confirm` has returned. -/
theorem exec_confirmLoop_succ {fuel : ℕ} {answer : Bool} {state : σ}
    (hreturns : (exec env (confirmLoop fuel) state).result = .ok answer) :
    exec env (confirmLoop (fuel + 1)) state = exec env (confirmLoop fuel) state := by
  induction fuel generalizing state with
  | zero => simp [confirmLoop] at hreturns
  | succ fuel ih =>
    rw [confirmLoop] at hreturns
    conv_lhs => rw [confirmLoop]
    conv_rhs => rw [confirmLoop]
    simp only [printf, fgetc, perform, ask_bind, done_bind, exec_ask] at hreturns ⊢
    generalize (env _ ToolRequest.fgetc).1 = first at hreturns ⊢
    generalize (env _ ToolRequest.fgetc).2 = after at hreturns ⊢
    cases hdropped : (exec env (dropLine fuel (toChar first)) after).result with
    | error halt =>
      rw [exec_bind_error hdropped] at hreturns
      exact absurd hreturns (by simp)
    | ok value =>
      have hsame := exec_dropLine_succ hdropped
      rw [exec_bind_ok (hsame ▸ hdropped), exec_bind_ok hdropped, hsame]
      rw [exec_bind_ok hdropped] at hreturns
      cases hanswer : answerOf (toChar first) with
      | some retval => simp only [exec_done]
      | none =>
        rw [hanswer] at hreturns
        dsimp only at hreturns ⊢
        rw [ih hreturns]

/-- With any fuel with which it returns, `confirm` returns the same. -/
theorem confirm_unique {fuel fuel' : ℕ} {answer answer' : Bool} {state : σ}
    (hreturns : (exec env (confirm fuel) state).result = .ok answer)
    (hreturns' : (exec env (confirm fuel') state).result = .ok answer') : answer = answer' := by
  have hmore : ∀ (fuel extra : ℕ) (answer : Bool),
      (exec env (confirmLoop fuel) state).result = .ok answer →
        (exec env (confirmLoop (fuel + extra)) state).result = .ok answer := by
    intro fuel extra answer hanswer
    induction extra with
    | zero => exact hanswer
    | succ extra ih =>
      rw [← add_assoc, exec_confirmLoop_succ ih]
      exact ih
  have hfirst := hmore fuel fuel' answer hreturns
  have hsecond := hmore fuel' fuel answer' hreturns'
  rw [add_comm fuel' fuel, hfirst] at hsecond
  exact Except.ok.inj hsecond

end Confirm

/-- Reading stdin and printing. -/
def Talks : ToolRequest → Prop
  | .fgetc => True
  | .print _ _ => True
  | _ => False

/-- A program that reads stdin and prints sends no command. -/
theorem commands_eq_nil_of_talks {α : Type} {p : ToolProgram α} (hp : Asks Talks p)
    {trace : List (Event Tool)} {result : Except Halt α} (hrun : Run p trace result) :
    commands trace = [] :=
  List.eq_nil_iff_forall_not_mem.mpr fun _ hevent ↦ hp.of_run hrun _ (mem_commands.mp hevent)

theorem asks_dropLine (fuel : ℕ) (c : Int8) : Asks Talks (dropLine fuel c) := by
  induction fuel generalizing c with
  | zero =>
    unfold dropLine
    split_ifs
    · exact .done _
    · exact .fail _
  | succ fuel ih =>
    unfold dropLine
    split_ifs
    · exact .done _
    · exact .ask trivial fun next ↦ ih _

theorem asks_confirm (fuel : ℕ) : Asks Talks (confirm fuel) := by
  change Asks Talks (confirmLoop fuel)
  induction fuel with
  | zero => exact .fail _
  | succ fuel ih =>
    refine .ask trivial fun _ ↦ .ask trivial fun first ↦ (asks_dropLine _ _).bind fun _ ↦ ?_
    cases answerOf (toChar first) with
    | some retval => exact .done _
    | none => exact ih

/-- What `confirm` returns depends on stdin alone. -/
theorem exec_confirm_of_stdin {fuel : ℕ} {state state' : Desk δ}
    (hstdin : state.stdin = state'.stdin) :
    (exec (desk device) (confirm fuel) state).result =
      (exec (desk device) (confirm fuel) state').result := by
  refine (exec_congr (R := fun first second : Desk δ ↦ first.stdin = second.stdin)
    (fun first second request hrequest hsame ↦ ?_) (asks_confirm fuel) hstdin).1
  cases request with
  | sendCmd request => exact hrequest.elim
  | fgetc => exact ⟨congrFun hsame 0, funext fun index ↦ congrFun hsame (index + 1)⟩
  | quit => exact hrequest.elim
  | print stream text => exact ⟨rfl, hsame⟩

/-! ### The guard -/

/-- A command function that sends one command, one that carries a password. -/
structure SendsPassword (p : Command Bool) : Prop where
  of_run : ∀ {trace : List (Event Scsi)} {result : Except ErrMsg Bool}, Run p trace result →
    ∃ event, trace = [event] ∧ IsPassword event

theorem sendsPassword_passwordCommand {cmd : Cdb} (hashes : List UInt8)
    (hcmd : cmd.word16 1 ∈ ([0xA4, 0xA6, 0xA7] : List UInt16)) :
    SendsPassword (passwordCommand cmd hashes) where
  of_run hrun := by
    rcases run_u3SendCmd_bind.mp hrun with ⟨error, rfl, -⟩ | ⟨status, received, rest, rfl, hrest⟩
    · exact ⟨_, rfl, hcmd⟩
    · obtain ⟨rfl, -⟩ := run_done.mp hrest
      exact ⟨_, rfl, hcmd⟩

/-- Sending the password is one password command. -/
theorem run_sendPassword {function : String} {p : Command Bool} (hp : SendsPassword p)
    {trace : List (Event Tool)} {result : Except Halt ExitStatus}
    (hrun : Run (sendPassword function p) trace result) :
    ∃ event, commands trace = [event] ∧ IsPassword event := by
  rcases run_bind.mp hrun with ⟨error, -, herror⟩ | ⟨sent, outcome, rest, rfl, hsent, hrest⟩
  · obtain ⟨_, _, hcontra, -⟩ := run_command.mp herror
    exact absurd hcontra (by simp)
  · obtain ⟨_, events, houtcome, rfl, hevents⟩ := run_command.mp hsent
    obtain ⟨event, rfl, hpassword⟩ := hp.of_run hevents
    have hsilent : commands rest = [] := by
      match outcome with
      | .error error => exact (run_print_done hrest).2.1
      | .ok true => exact (run_print_done hrest).2.1
      | .ok false => exact (run_print_done hrest).2.1
    exact ⟨event, by simp [hsilent], hpassword⟩

/-- The warning sends nothing and changes nothing. -/
theorem exec_warnLastTry (device : Surroundings Scsi δ) (state : Desk δ) :
    ∃ warning, exec (desk device) warnLastTry state = ⟨.ok (), warning, state⟩ ∧
      commands warning = [] :=
  ⟨_, rfl, rfl⟩

/-- What an execution of the guard is for a number of tries: blocked, confirmed or refused, or
free. -/
theorem exec_guardPassword {p : Command Bool} (hp : SendsPassword p) (fuel : ℕ)
    (verb function : String) (triesLeft : Int32) (state : Desk δ) :
    let guard := exec (desk device) (guardPassword fuel verb function p triesLeft) state
    let confirmed := exec (desk device) (confirm fuel) state
    (triesLeft = 0 ∧ guard.result = .ok .failure ∧ commands guard.trace = []) ∨
      (triesLeft = 1 ∧ confirmed.result ≠ .ok true ∧ commands guard.trace = [] ∧
        (guard.result = .ok .failure ↔ confirmed.result = .ok false)) ∨
      (triesLeft = 1 ∧ confirmed.result = .ok true ∧
        ∃ first rest event, guard.trace = first ++ confirmed.trace ++ rest ∧
          commands (first ++ confirmed.trace) = [] ∧ commands rest = [event] ∧
          IsPassword event) ∨
      (triesLeft ≠ 0 ∧ triesLeft ≠ 1 ∧
        ∃ event, commands guard.trace = [event] ∧ IsPassword event) := by
  intro guard confirmed
  have htalk : commands confirmed.trace = [] :=
    commands_eq_nil_of_talks (asks_confirm fuel) (run_exec _ _ _)
  by_cases hzero : triesLeft = 0
  · refine Or.inl ⟨hzero, ?_⟩
    simp only [guard, guardPassword, if_pos hzero]
    exact ⟨rfl, rfl⟩
  · by_cases hone : triesLeft = 1
    · let next : Bool → ToolProgram ExitStatus := fun answer ↦
        if answer then sendPassword function p else .done .failure
      obtain ⟨warning, hwarned, hwarning⟩ := exec_warnLastTry device state
      have hguard : guard =
          ⟨(exec (desk device) (confirm fuel >>= next) state).result,
            warning ++ (exec (desk device) (confirm fuel >>= next) state).trace,
            (exec (desk device) (confirm fuel >>= next) state).final⟩ := by
        simp only [guard, guardPassword, if_neg hzero, if_pos hone]
        rw [exec_bind_ok (congrArg Execution.result hwarned), hwarned]
      cases hanswer : confirmed.result with
      | error halt =>
        rw [exec_bind_error hanswer] at hguard
        refine Or.inr (Or.inl ⟨hone, by simp, ?_, by rw [hguard]; simp⟩)
        rw [hguard, commands_append, hwarning, List.nil_append]
        exact htalk
      | ok answer =>
        rw [exec_bind_ok hanswer] at hguard
        cases answer with
        | false =>
          refine Or.inr (Or.inl ⟨hone, by simp, ?_, by rw [hguard]; simp [next]⟩)
          rw [hguard, commands_append, hwarning, List.nil_append, commands_append]
          exact List.append_eq_nil_iff.mpr ⟨htalk, rfl⟩
        | true =>
          obtain ⟨event, hsent, hpassword⟩ := run_sendPassword hp
            (run_exec (desk device) (next true) (exec (desk device) (confirm fuel) state).final)
          exact Or.inr (Or.inr (Or.inl ⟨hone, rfl, warning, _, event, by
            rw [hguard, List.append_assoc], by simp [hwarning, htalk], hsent, hpassword⟩))
    · refine Or.inr (Or.inr (Or.inr ⟨hzero, hone, ?_⟩))
      simp only [guard, guardPassword, if_neg hzero, if_neg hone]
      exact run_sendPassword hp (run_exec _ _ _)

/-! ### The three actions -/

section Actions

variable (md5 : List UInt8 → Buffer 16)

/-- The actions that send a password, with their arguments. -/
inductive PasswordAction
  | unlock (password : List UInt8)
  | changePassword (password newPassword : List UInt8)
  | disableSecurity (password : List UInt8)

/-- `do_unlock`, `do_change_password` or `do_disable_security`. -/
def PasswordAction.run (fuel : ℕ) (securityProperties : Property0C) :
    PasswordAction → ToolProgram ExitStatus
  | .unlock password => doUnlock md5 fuel securityProperties password
  | .changePassword password newPassword =>
    doChangePassword md5 fuel securityProperties password newPassword
  | .disableSecurity password => doDisableSecurity md5 fuel securityProperties password

/-- Each of the three actions is the guarded action with a function that sends one password
command. -/
theorem PasswordAction.run_eq_guardedAction (action : PasswordAction) :
    ∃ verb function p, SendsPassword p ∧ ∀ fuel securityProperties,
      action.run md5 fuel securityProperties =
        guardedAction fuel securityProperties verb function p := by
  cases action with
  | unlock password =>
    exact ⟨_, _, _, sendsPassword_passwordCommand _ (by decide), fun _ _ ↦ rfl⟩
  | changePassword password newPassword =>
    exact ⟨_, _, _, sendsPassword_passwordCommand _ (by decide), fun _ _ ↦ rfl⟩
  | disableSecurity password =>
    exact ⟨_, _, _, sendsPassword_passwordCommand _ (by decide), fun _ _ ↦ rfl⟩

/-- The guard on password tries, for an action with fuel that is executed against a device and a
stdin. With no try left no password command is sent and the action fails; the last try is made
after `confirm` returned true; otherwise exactly one password command is sent. -/
structure GuardKept (device : Surroundings Scsi δ) (start : Desk δ) (maxPassTry passTry : UInt32)
    (action : ℕ → ToolProgram ExitStatus) : Prop where
  blocked : maxPassTry ≤ passTry →
    (∀ fuel, NoPassword (exec (desk device) (action fuel) start).trace) ∧
      ∃ fuel, (exec (desk device) (action fuel) start).result = .ok .failure
  last : passTry.toNat + 1 = maxPassTry.toNat → ∀ fuel,
    NoPassword (exec (desk device) (action fuel) start).trace ∨
      ∃ first confirmed rest,
        (exec (desk device) (action fuel) start).trace = first ++ confirmed ++ rest ∧
          Run (confirm fuel) confirmed (.ok true) ∧ NoPassword (first ++ confirmed)
  otherwise : passTry.toNat + 1 < maxPassTry.toNat → ∀ fuel, ∃ event,
    (commands (exec (desk device) (action fuel) start).trace).filter (IsPassword ·) = [event]

variable {maxPassTry passTry : UInt32}

/-- The narrowed difference is 0 exactly when the two values are equal. -/
theorem toInt32_sub_eq_zero_iff :
    (maxPassTry - passTry).toInt32 = 0 ↔ maxPassTry.toNat = passTry.toNat := by
  have hinj : (maxPassTry - passTry).toInt32 = 0 ↔ maxPassTry - passTry = 0 :=
    ⟨fun heq ↦ congrArg Int32.toUInt32 heq, fun heq ↦ congrArg UInt32.toInt32 heq⟩
  have hmax := maxPassTry.toNat_lt
  have hpass := passTry.toNat_lt
  rw [hinj, ← UInt32.toNat_inj, UInt32.toNat_sub, UInt32.toNat_zero]
  omega

/-- One try is left, or the difference wraps to 1. -/
def LooksLast (maxPassTry passTry : UInt32) : Prop :=
  maxPassTry.toNat = passTry.toNat + 1 ∨ maxPassTry.toNat = 0 ∧ passTry.toNat = 2 ^ 32 - 1

/-- The narrowed difference is 1 when one try is left, and when it wraps from 0 to the largest
number of tries made. -/
theorem toInt32_sub_eq_one_iff :
    (maxPassTry - passTry).toInt32 = 1 ↔ LooksLast maxPassTry passTry := by
  have hinj : (maxPassTry - passTry).toInt32 = 1 ↔ maxPassTry - passTry = 1 :=
    ⟨fun heq ↦ congrArg Int32.toUInt32 heq, fun heq ↦ congrArg UInt32.toInt32 heq⟩
  have hmax := maxPassTry.toNat_lt
  have hpass := passTry.toNat_lt
  rw [hinj, ← UInt32.toNat_inj, UInt32.toNat_sub, UInt32.toNat_one, LooksLast]
  omega

/-- What becomes of a guarded action, by the tries left and what `confirm` returns. -/
inductive GuardOutcome (maxPassTry passTry : UInt32) (fuel : ℕ) (answer : Except Halt Bool)
    (action : Execution Tool Halt ExitStatus (Desk δ)) : Prop
  | blocked (hsame : maxPassTry.toNat = passTry.toNat) (hfails : action.result = .ok .failure)
      (hnone : NoPassword action.trace)
  | unconfirmed (hlooks : LooksLast maxPassTry passTry) (hanswer : answer ≠ .ok true)
      (hnone : NoPassword action.trace) (hfails : action.result = .ok .failure ↔ answer = .ok false)
  | confirmed (hlooks : LooksLast maxPassTry passTry) (hanswer : answer = .ok true)
      (hafter : ∃ first confirmed rest, action.trace = first ++ confirmed ++ rest ∧
        Run (confirm fuel) confirmed (.ok true) ∧ NoPassword (first ++ confirmed))
      (hsent : ¬ NoPassword action.trace)
  | free (hdiffer : maxPassTry.toNat ≠ passTry.toNat) (hlooks : ¬ LooksLast maxPassTry passTry)
      (hone : ∃ event, (commands action.trace).filter (IsPassword ·) = [event])
      (hsent : ¬ NoPassword action.trace)

/-- Against such a device every execution of a guarded action has one of these outcomes. -/
theorem guardOutcome (hreports : Reports device maxPassTry passTry) {p : Command Bool}
    (hp : SendsPassword p) (securityProperties : Property0C) (fuel : ℕ) (verb function : String)
    (start : Desk δ) :
    GuardOutcome maxPassTry passTry fuel (exec (desk device) (confirm fuel) start).result
      (exec (desk device) (guardedAction fuel securityProperties verb function p) start) := by
  obtain ⟨htries, hfirst, hstdin⟩ := exec_getTriesLeft hreports securityProperties start
  generalize hasked : exec (desk device) (getTriesLeft securityProperties) start = asked
    at htries hfirst hstdin
  have hcases := @exec_guardPassword δ device p hp fuel verb function
    (maxPassTry - passTry).toInt32 asked.final
  generalize hguard : exec (desk device) (guardPassword fuel verb function p
    (maxPassTry - passTry).toInt32) asked.final = guard at hcases
  have hexec : exec (desk device) (guardedAction fuel securityProperties verb function p) start =
      ⟨guard.result, asked.trace ++ guard.trace, guard.final⟩ := by
    subst hasked hguard
    exact exec_bind_ok htries _
  rw [hexec, exec_confirm_of_stdin hstdin.symm]
  rcases hcases with ⟨hzero, hfails, hnone⟩ | ⟨hone, hanswer, hnone, hfails⟩ |
    ⟨hone, hanswer, before, rest, event, htrace, hbefore, hsent, hpassword⟩ |
    ⟨hzero, hone, event, hsent, hpassword⟩
  · exact .blocked (toInt32_sub_eq_zero_iff.mp hzero) hfails
      (noPassword_append.mpr ⟨hfirst, noPassword_of_commands_eq_nil hnone⟩)
  · exact .unconfirmed (toInt32_sub_eq_one_iff.mp hone) hanswer
      (noPassword_append.mpr ⟨hfirst, noPassword_of_commands_eq_nil hnone⟩) hfails
  · refine .confirmed (toInt32_sub_eq_one_iff.mp hone) hanswer
      ⟨asked.trace ++ before, _, rest, ?_, hanswer ▸ run_exec _ _ _, ?_⟩ fun hnone ↦ ?_
    · simp only [htrace, List.append_assoc]
    · rw [List.append_assoc, noPassword_append]
      exact ⟨hfirst, noPassword_of_commands_eq_nil hbefore⟩
    · exact hnone event (by simp [htrace, hsent]) hpassword
  · refine .free (fun hsame ↦ hzero (toInt32_sub_eq_zero_iff.mpr hsame))
      (fun hlooks ↦ hone (toInt32_sub_eq_one_iff.mpr hlooks)) ⟨event, ?_⟩ fun hnone ↦ ?_
    · have hnil : (commands asked.trace).filter (IsPassword ·) = [] :=
        List.filter_eq_nil_iff.mpr fun event hevent ↦ by simpa using hfirst event hevent
      simp [hsent, hnil, hpassword]
    · exact hnone event (by simp [hsent]) hpassword

section Kept

variable {start : Desk δ} {action : ℕ → ToolProgram ExitStatus}

/-- When the tries made do not exceed the tries allowed, the guard is kept. -/
theorem guardKept_of_le (houtcome : ∀ fuel, GuardOutcome maxPassTry passTry fuel
      (exec (desk device) (confirm fuel) start).result (exec (desk device) (action fuel) start))
    (hle : passTry.toNat ≤ maxPassTry.toNat) :
    GuardKept device start maxPassTry passTry action := by
  refine ⟨fun hblocked ↦ ?_, fun hlast fuel ↦ ?_, fun hmore fuel ↦ ?_⟩
  · have hsame : maxPassTry.toNat = passTry.toNat :=
      le_antisymm (UInt32.le_iff_toNat_le.mp hblocked) hle
    have hboth (fuel : ℕ) : NoPassword (exec (desk device) (action fuel) start).trace ∧
        (exec (desk device) (action fuel) start).result = .ok .failure := by
      cases houtcome fuel with
      | blocked hsame hfails hnone => exact ⟨hnone, hfails⟩
      | unconfirmed hlooks => exact absurd hlooks (by unfold LooksLast; omega)
      | confirmed hlooks => exact absurd hlooks (by unfold LooksLast; omega)
      | free hdiffer => exact absurd hsame hdiffer
    exact ⟨fun fuel ↦ (hboth fuel).1, 0, (hboth 0).2⟩
  · cases houtcome fuel with
    | blocked hsame hfails hnone => exact Or.inl hnone
    | unconfirmed hlooks hanswer hnone => exact Or.inl hnone
    | confirmed hlooks hanswer hafter => exact Or.inr hafter
    | free hdiffer hlooks => exact absurd (Or.inl hlast.symm) hlooks
  · cases houtcome fuel with
    | blocked hsame => omega
    | unconfirmed hlooks => exact absurd hlooks (by unfold LooksLast; omega)
    | confirmed hlooks => exact absurd hlooks (by unfold LooksLast; omega)
    | free hdiffer hlooks hone => exact hone

/-- When the difference wraps to 1 and the user refuses, the guard is kept. -/
theorem guardKept_of_refused (houtcome : ∀ fuel, GuardOutcome maxPassTry passTry fuel
      (exec (desk device) (confirm fuel) start).result (exec (desk device) (action fuel) start))
    (hzero : maxPassTry.toNat = 0) (hlargest : passTry.toNat = 2 ^ 32 - 1) {fuel : ℕ}
    (hrefused : (exec (desk device) (confirm fuel) start).result = .ok false) :
    GuardKept device start maxPassTry passTry action := by
  refine ⟨fun _ ↦ ⟨fun fuel' ↦ ?_, fuel, ?_⟩, fun hlast ↦ by omega, fun hmore ↦ by omega⟩
  · cases houtcome fuel' with
    | blocked hsame hfails hnone => exact hnone
    | unconfirmed hlooks hanswer hnone => exact hnone
    | confirmed hlooks hanswer => exact absurd (confirm_unique hanswer hrefused) (by decide)
    | free hdiffer hlooks => exact absurd (Or.inr ⟨hzero, hlargest⟩) hlooks
  · cases houtcome fuel with
    | blocked hsame hfails => exact hfails
    | unconfirmed hlooks hanswer hnone hfails => exact hfails.mpr hrefused
    | confirmed hlooks hanswer => exact absurd (confirm_unique hanswer hrefused) (by decide)
    | free hdiffer hlooks => exact absurd (Or.inr ⟨hzero, hlargest⟩) hlooks

/-- When more tries were made than are allowed, the guard is kept in that case only. -/
theorem refused_of_guardKept (houtcome : ∀ fuel, GuardOutcome maxPassTry passTry fuel
      (exec (desk device) (confirm fuel) start).result (exec (desk device) (action fuel) start))
    (hkept : GuardKept device start maxPassTry passTry action)
    (hmore : maxPassTry.toNat < passTry.toNat) :
    maxPassTry.toNat = 0 ∧ passTry.toNat = 2 ^ 32 - 1 ∧
      ∃ fuel, (exec (desk device) (confirm fuel) start).result = .ok false := by
  obtain ⟨hnone, fuel, hfail⟩ := hkept.blocked (UInt32.le_iff_toNat_le.mpr hmore.le)
  cases houtcome fuel with
  | blocked hsame => omega
  | unconfirmed hlooks hanswer hnone hfails =>
    unfold LooksLast at hlooks
    exact ⟨by omega, by omega, fuel, hfails.mp hfail⟩
  | confirmed hlooks hanswer hafter hsent => exact absurd (hnone fuel) hsent
  | free hdiffer hlooks hone hsent => exact absurd (hnone fuel) hsent

end Kept

/-- Against any device that reports the number of tries allowed and the number of tries made, and on
any stdin, each of the three actions keeps the guard if and only if the tries made do not exceed the
tries allowed, or their difference wraps to 1 and the user, asked for a confirmation, refuses. -/
theorem password_guard_iff (hreports : Reports device maxPassTry passTry)
    (action : PasswordAction) (securityProperties : Property0C) (start : Desk δ) :
    GuardKept device start maxPassTry passTry
        (fun fuel ↦ action.run md5 fuel securityProperties) ↔
      passTry ≤ maxPassTry ∨ maxPassTry = 0 ∧ passTry = 0xFFFFFFFF ∧
        ∃ fuel, (exec (desk device) (confirm fuel) start).result = .ok false := by
  obtain ⟨verb, function, p, hp, haction⟩ := action.run_eq_guardedAction md5
  have houtcome (fuel : ℕ) := guardOutcome hreports hp securityProperties fuel verb function start
  have hwraps : maxPassTry = 0 ↔ maxPassTry.toNat = 0 := UInt32.toNat_inj.symm
  have hwraps' : passTry = 0xFFFFFFFF ↔ passTry.toNat = 2 ^ 32 - 1 := UInt32.toNat_inj.symm
  simp only [haction, hwraps, hwraps', UInt32.le_iff_toNat_le]
  constructor
  · intro hkept
    refine or_iff_not_imp_left.mpr fun hmore ↦ ?_
    exact refused_of_guardKept houtcome hkept (not_le.mp hmore)
  · rintro (hle | ⟨hzero, hlargest, fuel, hrefused⟩)
    · exact guardKept_of_le houtcome hle
    · exact guardKept_of_refused houtcome hzero hlargest hrefused

end Actions

/-- A device that reports the two values and accepts everything else. -/
def reportingDevice (maxPassTry passTry : UInt32) : Surroundings Scsi Unit := fun _ request ↦
  if request.command = 0xA0 then
    (.success 0 (List.replicate 12 0 ++ leBytes 4 passTry.toNat), ())
  else if request.command = 0x00 then
    (.success 0 (([0x0C, 0, 0, 0, 10, 0] ++ leBytes 4 maxPassTry.toNat).take request.length), ())
  else (.success 0 [], ())

theorem reports_reportingDevice (maxPassTry passTry : UInt32) :
    Reports (reportingDevice maxPassTry passTry) maxPassTry passTry where
  info _ := ⟨_, rfl, by simp, leUInt32_leBytes passTry⟩
  header _ := ⟨_, rfl, rfl, rfl⟩
  page _ := ⟨_, rfl, rfl, leUInt32_leBytes maxPassTry⟩

/-- With two of three tries left, unlocking keeps the guard on an empty stdin. -/
theorem password_guard_iff_witness :
    GuardKept (reportingDevice 3 1) ⟨(), fun _ ↦ none⟩ 3 1 fun fuel ↦
      (PasswordAction.unlock (ascii "secret")).run (fun _ ↦ .fill 16 0) fuel (.fill 10 0) :=
  (password_guard_iff (fun _ ↦ .fill 16 0) (reports_reportingDevice 3 1) _ _ _).mpr
    (Or.inl (by decide))

/-- A device that counts five wrong tries out of three is sent the password nevertheless. -/
theorem doUnlock_after_last_try :
    (commands (exec (desk (reportingDevice 3 5)) (doUnlock (fun _ ↦ .fill 16 0) 0 (.fill 10 0)
      (ascii "secret")) ⟨(), fun _ ↦ none⟩).trace).map (fun event ↦ event.request.command) =
        [0xA0, 0x00, 0x00, 0xA4] ∧
      ¬ GuardKept (reportingDevice 3 5) ⟨(), fun _ ↦ none⟩ 3 5 fun fuel ↦
        (PasswordAction.unlock (ascii "secret")).run (fun _ ↦ .fill 16 0) fuel (.fill 10 0) := by
  have hsent : (commands (exec (desk (reportingDevice 3 5)) (doUnlock (fun _ ↦ .fill 16 0) 0
      (.fill 10 0) (ascii "secret")) ⟨(), fun _ ↦ none⟩).trace).map
        (fun event ↦ event.request.command) = [0xA0, 0x00, 0x00, 0xA4] := by decide +kernel
  refine ⟨hsent, fun hkept ↦ ?_⟩
  have hmem : (0xA4 : UInt16) ∈ [0xA0, 0x00, 0x00, 0xA4] := by decide
  rw [← hsent] at hmem
  obtain ⟨event, hevent, hcommand⟩ := List.mem_map.mp hmem
  exact (hkept.blocked (by decide)).1 0 event hevent (by simp [IsPassword, hcommand])

end U3Tool
