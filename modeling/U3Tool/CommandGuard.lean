import U3Tool.MainGuard
import U3Tool.SubsystemSafety
import U3Tool.WireFormat

/-!
# Commands of `main`, at the calls of a subsystem

Two things are known of every command that a run of `main` sends: it asks for an operation
(`isOperation_of_run_main`), and a repartition or an enabling of security comes after a
confirmation. A confirmation is a stretch of the dialogue on the console, so what permits a command
is in the dialogue before it (`Permitted`), and `permitted_of_run_main` is what `Keeps.of_run` needs
to know of `main` to say the same of the whole program over any subsystem.
-/

set_option autoImplicit false
set_option relaxedAutoImplicit false

namespace U3Tool

open Interaction Bytes Program

variable {α : Type}

/-! ### Operations -/

/-- A command that asks for an operation, or no command. -/
def Operates : ToolRequest → Prop
  | .sendCmd request => IsOperation request
  | _ => True

theorem Talks.operates : ∀ {request : ToolRequest}, Talks request → Operates request
  | .fgetc, _ => trivial
  | .print _ _, _ => trivial

theorem IsPrint.operates : ∀ {request : ToolRequest}, IsPrint request → Operates request
  | .print _ _, _ => trivial

/-- A message followed by a return. -/
theorem operates_print_done {stream : Stream} {text : List UInt8} (value : α) :
    Asks Operates ((perform (I := Tool) (.print stream text) : ToolProgram Unit) >>=
      fun _ ↦ .done value) :=
  .ask trivial fun _ ↦ .done value

theorem operates_exitCode {p : ToolProgram ExitStatus} (hp : Asks Operates p) :
    Asks Operates (exitCode p) :=
  hp.bind fun _ ↦ .done _

/-- A function that carries out a script asks for its operations. -/
theorem operates_command {p : Command α} {script : Script α} (hp : CarriesOut p script) :
    Asks Operates (command p) :=
  asks_command hp.asks

/-! ### The actions -/

theorem operates_displayProgress (last cur total : UInt32) :
    Asks Operates (displayProgress last cur total) := by
  unfold displayProgress
  dsimp only
  split_ifs
  · exact .done _
  · exact .done _
  · exact .ask trivial fun _ ↦ .ask trivial fun _ ↦ .ask trivial fun _ ↦ .ask trivial fun _ ↦
      operates_print_done _

theorem operates_loadWrite (blockNum : UInt32) (buffer : Buffer blockSize) :
    Asks Operates (loadWrite blockNum buffer) :=
  asks_command_bind (operates_command (carriesOut_u3CdWrite _ _)) (fun _ ↦ operates_print_done _)
    fun _ ↦ .done _

theorem operates_loadBody (read : List UInt8 × File) (blockNum : UInt32)
    (buffer : Buffer blockSize) : Asks Operates (loadBody read blockNum buffer) := by
  unfold loadBody
  split_ifs
  · exact (operates_loadWrite _ _).bind fun _ ↦ .done _
  · exact operates_print_done _
  · exact .done _
  · exact operates_print_done _
  · exact (operates_loadWrite _ _).bind fun _ ↦ .done _

theorem operates_loadEnd (last blockNum blockCnt : UInt32) :
    Asks Operates (loadEnd last blockNum blockCnt) :=
  (operates_displayProgress _ _ _).bind fun _ ↦ .ask trivial fun _ ↦ operates_print_done _

theorem operates_loadLoop (blockCnt : UInt32) (file : File) (blockNum : UInt32)
    (buffer : Buffer blockSize) (last : UInt32) :
    Asks Operates (loadLoop blockCnt file blockNum buffer last) := by
  fun_induction loadLoop blockCnt file blockNum buffer last with
  | case1 file blockNum buffer last ih =>
    refine (operates_displayProgress _ _ _).bind fun last ↦ (operates_loadBody _ _ _).bind
      fun loaded ↦ ?_
    cases loaded with
    | none => exact .done _
    | some loaded =>
      dsimp only
      split_ifs with heof
      · exact operates_loadEnd _ _ _
      · refine .ask trivial fun quit ↦ ?_
        cases quit with
        | true => exact operates_loadEnd _ _ _
        | false => exact ih last loaded heof

theorem operates_doLoad (image : ImageFile) (buffer : Buffer blockSize) :
    Asks Operates (doLoad image buffer) := by
  unfold doLoad
  cases image.statError with
  | some error => exact operates_print_done _
  | none =>
    dsimp only
    split_ifs
    · exact operates_print_done _
    · refine asks_command_bind (operates_command carriesOut_u3PartitionInfo)
        (fun _ ↦ operates_print_done _) fun pinfo ↦ ?_
      dsimp only
      split_ifs
      · exact operates_print_done _
      · cases image.openError with
        | some error => exact operates_print_done _
        | none => exact operates_loadLoop _ _ _ _ _

theorem operates_doPartition (sizeString : List UInt8) (stack : PartitionStack) :
    Asks Operates (doPartition sizeString stack) :=
  asks_command_bind (operates_command (carriesOut_u3Partition _ _)) (fun _ ↦ operates_print_done _)
    fun _ ↦ asks_command_bind (operates_command carriesOut_u3Reset) (fun _ ↦ operates_print_done _)
      fun _ ↦ .done _

theorem operates_sendPassword (function : String) {p : Command Bool} {script : Script Bool}
    (hp : CarriesOut p script) : Asks Operates (sendPassword function p) := by
  refine asks_command_bind (operates_command hp) (fun _ ↦ operates_print_done _) fun result ↦ ?_
  cases result <;> exact operates_print_done _

theorem operates_getTriesLeft (securityProperties : Property0C) :
    Asks Operates (getTriesLeft securityProperties) :=
  asks_command_bind (operates_command carriesOut_u3DataPartitionInfo)
    (fun _ ↦ operates_print_done _)
    fun _ ↦ asks_command_bind (operates_command (carriesOut_u3ReadDeviceProperty _ _))
      (fun _ ↦ operates_print_done _) fun _ ↦ .done _

/-- An action that sends a password. -/
theorem operates_guardedAction {fuel : ℕ} {securityProperties : Property0C}
    {verb function : String} {p : Command Bool} {script : Script Bool} (hp : CarriesOut p script) :
    Asks Operates (guardedAction fuel securityProperties verb function p) := by
  refine (operates_getTriesLeft _).bind fun triesLeft ↦ ?_
  cases triesLeft with
  | none => exact .done _
  | some triesLeft =>
    change Asks Operates (guardPassword fuel verb function p triesLeft)
    unfold guardPassword
    split_ifs
    · exact operates_print_done _
    · refine .ask trivial fun _ ↦ .ask trivial fun _ ↦
        ((asks_confirm fuel).mono fun _ ↦ Talks.operates).bind fun confirmed ↦ ?_
      cases confirmed with
      | true => exact operates_sendPassword _ hp
      | false => exact .done _
    · exact operates_sendPassword _ hp

section Security

variable (md5 : List UInt8 → Buffer 16)

theorem operates_doEnableSecurity (password : List UInt8) (roundedSize : Buffer 4) :
    Asks Operates (doEnableSecurity md5 password roundedSize) :=
  asks_command_bind (operates_command (carriesOut_u3EnableSecurity _ _ _))
    (fun _ ↦ operates_print_done _) fun _ ↦ .done _

theorem operates_doResetSecurity (roundedSize : Buffer 4) :
    Asks Operates (doResetSecurity md5 roundedSize) :=
  asks_command_bind (operates_command (carriesOut_u3EnableSecurity _ _ _))
    (fun _ ↦ operates_print_done _) fun _ ↦
    asks_command_bind (operates_command (carriesOut_u3DisableSecurity _ _))
      (fun _ ↦ operates_print_done _) fun result ↦ by cases result <;> exact operates_print_done _

end Security

theorem operates_infoRecords : Asks Operates infoRecords :=
  asks_command_bind (operates_command carriesOut_u3PartitionInfo)
    (fun _ ↦ operates_print_done _) fun _ ↦
    asks_command_bind (operates_command carriesOut_u3DataPartitionInfo)
      (fun _ ↦ operates_print_done _) fun _ ↦
      asks_command_bind (operates_command carriesOut_u3ChipInfo) (fun _ ↦ operates_print_done _)
        fun _ ↦ .done _

theorem isPrint_printSize (label : String) (sectors : UInt32) :
    Asks IsPrint (printSize label sectors) :=
  .ask trivial fun _ ↦ .ask trivial fun _ ↦ .perform trivial

theorem isPrint_printZoneStatus (dpinfo : DpartInfo) (securityProperties : Property0C) :
    Asks IsPrint (printZoneStatus dpinfo securityProperties) := by
  refine .ask trivial fun _ ↦ ?_
  dsimp only [done_bind]
  split_ifs <;> exact .perform trivial

theorem isPrint_printInfo (pinfo : PartInfo) (dpinfo : DpartInfo) (deviceProperties : Property03)
    (securityProperties : Property0C) :
    Asks IsPrint (printInfo pinfo dpinfo deviceProperties securityProperties) := by
  refine (isPrint_printSize _ _).bind fun _ ↦ (isPrint_printSize _ _).bind fun _ ↦ ?_
  split_ifs
  · exact (isPrint_printSize _ _).bind fun _ ↦ .done _
  · exact (isPrint_printSize _ _).bind fun _ ↦ (isPrint_printZoneStatus _ _).bind fun _ ↦ .done _

theorem operates_doInfo (stack : ReportStack) : Asks Operates (doInfo stack) := by
  refine operates_infoRecords.bind fun records ↦ ?_
  cases records with
  | none => exact .done _
  | some records =>
    exact asks_command_bind (operates_command (carriesOut_u3ReadDeviceProperty _ _))
      (fun _ ↦ operates_print_done _) fun _ ↦
      asks_command_bind (operates_command (carriesOut_u3ReadDeviceProperty _ _))
        (fun _ ↦ operates_print_done _) fun _ ↦
          (isPrint_printInfo _ _ _ _).mono fun _ ↦ IsPrint.operates

theorem operates_dumpSection {question : Command α} {fails : ErrMsg → ToolProgram Unit}
    {prints : α → ToolProgram ExitStatus} {script : Script α}
    (hquestion : CarriesOut question script)
    (hfails : ∀ error, Asks Operates (fails error))
    (hprints : ∀ answer, Asks IsPrint (prints answer)) (retval : Int32) :
    Asks Operates (dumpSection question fails prints retval) :=
  asks_command_bind (operates_command hquestion)
    (fun error ↦ (hfails error).bind fun _ ↦ .done _) fun answer ↦
    ((hprints answer).mono fun _ ↦ IsPrint.operates).bind fun status ↦ by
      cases status <;> exact .done _

theorem operates_doDump (stack : ReportStack) (retval : Int32) :
    Asks Operates (doDump stack retval) :=
  (operates_dumpSection carriesOut_u3PartitionInfo (fun _ ↦ .perform trivial)
    isPrint_printPartInfo _).bind fun _ ↦
  (operates_dumpSection carriesOut_u3DataPartitionInfo (fun _ ↦ .perform trivial)
    isPrint_printDpartInfo _).bind fun _ ↦
  (operates_dumpSection carriesOut_u3ChipInfo (fun _ ↦ .perform trivial)
    isPrint_printChipInfo _).bind fun _ ↦
  (operates_dumpSection (carriesOut_u3ReadDeviceProperty _ _) (fun _ ↦ .perform trivial)
    isPrint_printProperty03 _).bind fun _ ↦
  operates_dumpSection (carriesOut_u3ReadDeviceProperty _ _) (fun _ ↦ .perform trivial)
    isPrint_printProperty0C _

/-! ### `main` -/

/-- Every command an action sends asks for an operation. -/
theorem operates_doAction (world : World) (fuel : ℕ) (stack : MainStack) (options : Options)
    (password newPassword : List UInt8) :
    Asks Operates (doAction world fuel stack options password newPassword) := by
  unfold doAction
  cases options.action <;> dsimp only
  case unknown => exact operates_print_done _
  case load => exact operates_exitCode (operates_doLoad _ _)
  case partition => exact operates_exitCode (operates_doPartition _ _)
  case dump => exact operates_doDump _ _
  case info => exact operates_exitCode (operates_doInfo _)
  case unlock => exact operates_exitCode (operates_guardedAction (carriesOut_u3Unlock _ _))
  case changePassword =>
    exact operates_exitCode (operates_guardedAction (carriesOut_u3ChangePassword _ _ _))
  case enableSecurity => exact operates_exitCode (operates_doEnableSecurity _ _ _)
  case disableSecurity =>
    exact operates_exitCode (operates_guardedAction (carriesOut_u3DisableSecurity _ _))
  case resetSecurity => exact operates_exitCode (operates_doResetSecurity _ _)

section Main

variable {world : World} {fuel : ℕ} {stack : MainStack} {name : List UInt8}
  {args : List (List UInt8)} {events earlier later : List (Event Tool)} {sent : Event Scsi}
  {outcome : Except Halt Int32}

/-- Every command of a run of `main` asks for an operation. -/
theorem isOperation_of_run_main (hrun : Run (main world fuel stack name args) events outcome)
    (hevents : events = earlier ++ sendEvent sent :: later) : IsOperation sent.request := by
  have hmem : sent ∈ commands events := by simp [hevents]
  rcases main_talks_or_eq world fuel stack name args with htalks | heq
  · rw [commands_eq_nil_of_talks htalks hrun] at hmem
    exact absurd hmem List.not_mem_nil
  · rw [heq] at hrun
    rcases performs_of_run_withDevice hrun with hnone |
      ⟨before, during, password, newPassword, rfl, hbefore, hduring⟩
    · rw [hnone] at hmem
      exact absurd hmem List.not_mem_nil
    · rw [commands_append, hbefore, List.nil_append] at hmem
      exact (operates_doAction _ _ _ _ _ _).of_run hduring _ (mem_commands.mp hmem)

/-- A dialogue contains a confirmation that was given. -/
def Confirmed (talked : List (Event Tool)) : Prop :=
  ∃ first asked last fuel, talked = first ++ asked ++ last ∧ Run (confirm fuel) asked (.ok true)

/-- A trace without commands is all talk. -/
theorem talk_eq_self (hevents : ∀ event ∈ events, Talks event.request) : talk events = events := by
  induction events with
  | nil => rfl
  | cons event rest ih =>
    obtain ⟨hevent, hrest⟩ := List.forall_mem_cons.mp hevents
    obtain ⟨request, reply⟩ := event
    cases request with
    | sendCmd request => exact hevent.elim
    | fgetc => exact congrArg (⟨.fgetc, reply⟩ :: ·) (ih hrest)
    | quit => exact hevent.elim
    | print stream text => exact congrArg (⟨.print stream text, reply⟩ :: ·) (ih hrest)

/-- A confirmation in a trace is one in its dialogue. -/
theorem Confirmed.talk (hconfirmed : Confirmed events) : Confirmed (talk events) := by
  obtain ⟨first, asked, last, fuel, rfl, hasked⟩ := hconfirmed
  refine ⟨U3Tool.talk first, asked, U3Tool.talk last, fuel, ?_, hasked⟩
  rw [talk_append, talk_append, talk_eq_self ((asks_confirm fuel).of_run hasked)]

/-- The code of a command that is sent only after a confirmation: 0x22 or 0xA2. -/
def DestructiveCode (code : UInt16) : Prop := code ∈ ([0x22, 0xA2] : List UInt16)

instance : DecidablePred DestructiveCode := fun code ↦
  inferInstanceAs (Decidable (code ∈ ([0x22, 0xA2] : List UInt16)))

/-- The command code in a command block. -/
def commandCode (bytes : List UInt8) : UInt16 := leUInt16 ((bytes.drop 1).take 2)

/-- What a dialogue permits: the commands 0x22 and 0xA2 need a confirmation in it. -/
def Permitted (talked : List (Event Tool)) (request : CmdRequest) : Prop :=
  DestructiveCode request.command → Confirmed talked

/-- A command block that a permitted command has. -/
theorem confirmed_of_sends {J : Interface} {S : Type} {block : S → Event J → Option (List UInt8)}
    {talked : List (Event Tool)} {state : S} {call : Event J} {bytes : List UInt8}
    (hsends : Sends block (Permitted talked) state call) (hblock : block state call = some bytes)
    (hdestructive : DestructiveCode (commandCode bytes)) : Confirmed talked := by
  obtain ⟨request, hpermitted, rfl⟩ := hsends bytes hblock
  exact hpermitted hdestructive

/-- A run of `main` sends operations, as the dialogue before them permits. -/
theorem permitted_of_run_main (hrun : Run (main world fuel stack name args) events outcome) :
    ∀ {earlier : List (Event Tool)} {sent : Event Scsi} {later : List (Event Tool)},
      events = earlier ++ sendEvent sent :: later →
        Permitted (talk earlier) sent.request ∧ IsOperation sent.request := by
  intro earlier sent later hevents
  have hshape : ConfirmedRun events := by
    rcases main_talks_or_eq world fuel stack name args with htalks | heq
    · exact (Confirms.of_talks htalks).of_run hrun
    · rw [heq] at hrun
      exact (confirms_withDevice _ _ _ _).of_run hrun
  exact ⟨fun hdestructive ↦ Confirmed.talk (hshape.preceded hevents hdestructive),
    isOperation_of_run_main hrun hevents⟩

end Main

end U3Tool
