import U3Tool.Interaction.Vouching
import U3Tool.CommandGuard

/-!
# What an exit status of 0 says

When `main` returns 0, every command it sent was accepted by the device, but for the query that
`u3_partition_info` asks first and whose status it overlooks when the answer announces a second
partition (`Approved`). And the action was carried out to its end: the device-changing commands are
all of its own, in order, unless none was sent at all because the arguments came to no action or the
user declined (`main_exit_zero`).
-/

set_option autoImplicit false
set_option relaxedAutoImplicit false

namespace U3Tool

open Interaction Bytes Program

variable {α β : Type}

/-! ### Approved commands -/

/-- The first query of `u3_partition_info`, answered with the announcement of a second partition. -/
def Overlooked (event : Event Scsi) : Prop :=
  event.request = partitionInfoRequest 9 ∧
    ∃ status data, event.reply = .success status data ∧ data.head? = some 2

/-- A command that was accepted, or whose status is overlooked. -/
def Approved (event : Event Scsi) : Prop := event.reply.Accepted ∨ Overlooked event

/-- An event of the tool that is no command, or an approved one. -/
def Untroubled : Event Tool → Prop
  | ⟨.sendCmd request, reply⟩ => Approved ⟨request, reply⟩
  | _ => True

theorem Talks.untroubled : ∀ {event : Event Tool}, Talks event.request → Untroubled event
  | ⟨.fgetc, _⟩, _ => trivial
  | ⟨.print _ _, _⟩, _ => trivial

theorem IsPrint.talks : ∀ {request : ToolRequest}, IsPrint request → Talks request
  | .print _ _, _ => trivial

/-- A message and a return. -/
theorem returns_message {kind : β → Prop} {p : ToolProgram α} {value : β} (hvalue : kind value) :
    Returns kind (p >>= fun _ ↦ .done value) :=
  .of_continuation fun _ ↦ .done hvalue

/-! ### The command layer -/

/-- A function that returns only when every command was accepted. -/
theorem Faithful.vouches {p : Command α} (hp : Faithful p) {good : α → Prop} :
    Vouches Approved good p where
  of_run hrun _ event hevent := Or.inl (hp.allAccepted hrun event hevent)

theorem vouches_u3PartitionInfo : Vouches Approved (fun _ ↦ True) u3PartitionInfo where
  of_run {trace info} hrun _ event hevent := by
    rcases run_u3PartitionInfo hrun with
      ⟨reply, rfl, hreply⟩ | ⟨status, data, reply, rfl, hhead, hreply⟩
    · obtain rfl := List.mem_singleton.mp hevent
      exact Or.inl (hreply.mp ⟨info, rfl⟩)
    · simp only [List.mem_cons, List.not_mem_nil, or_false] at hevent
      rcases hevent with rfl | rfl
      · exact Or.inr ⟨rfl, status, data, rfl, hhead⟩
      · exact Or.inl (hreply.mp ⟨info, rfl⟩)

theorem vouches_u3ReadDeviceProperty {size : ℕ} (propertyId : UInt16) (buffer : Buffer size) :
    Vouches Approved (fun _ ↦ True) (u3ReadDeviceProperty propertyId buffer) where
  of_run hrun _ event hevent := by
    obtain ⟨-, header, body, rfl, -, -⟩ := run_u3ReadDeviceProperty_ok.mp hrun
    simp only [List.mem_cons, List.not_mem_nil, or_false] at hevent
    rcases hevent with rfl | rfl
    · exact Or.inl (by simp)
    · exact Or.inl (by simp)

/-- A correct password vouches for the command that sent it. -/
theorem vouches_passwordCommand (cmd : Cdb) (hashes : List UInt8) :
    Vouches Approved (· = true) (passwordCommand cmd hashes) where
  of_run hrun htrue event hevent := by
    obtain ⟨reply, rfl, hreply⟩ := run_passwordCommand hrun
    obtain rfl := List.mem_singleton.mp hevent
    exact Or.inl (hreply.mp (congrArg Except.ok htrue))

theorem vouches_u3Partition (cdSize : UInt32) (stack : PartitionStack) :
    Vouches Approved (fun _ ↦ True) (u3Partition cdSize stack) := by
  refine .bind_all (faithful_roundCdSize _ _).vouches fun cdSize ↦ ?_
  refine .bind_all ((vouches_u3ReadDeviceProperty _ _).mapError _) fun page ↦ ?_
  refine .bind_all ?_ fun dataSize ↦
    .bind_all (Faithful.deviceCommand _ _ _ _).vouches fun _ ↦ .done _
  unfold roundDataSize
  split_ifs
  · exact .fail _
  · exact .fail _
  · exact (faithful_u3PartitionSectorRound _ _ _).vouches.mapError _

/-! ### The actions -/

/-- A function of the command layer inside the tool. -/
theorem vouches_command {good : α → Prop} {p : Command α} (hp : Vouches Approved good p) :
    Vouches Untroubled (fun outcome ↦ ∃ value, outcome = .ok value ∧ good value) (command p) where
  of_run hrun hgood event hevent := by
    obtain ⟨outcome, events, houtcome, rfl, hevents⟩ := run_command.mp hrun
    obtain rfl := Except.ok.inj houtcome
    obtain ⟨value, rfl, hvalue⟩ := hgood
    obtain ⟨sent, hsent, rfl⟩ := List.mem_map.mp hevent
    exact hp.of_run hevents hvalue sent hsent

/-- A function of the command layer, whose failure comes to no good value. -/
theorem vouches_command_bind {good : β → Prop} {p : Command α}
    (hp : Vouches Approved (fun _ ↦ True) p) {continuation : Except ErrMsg α → ToolProgram β}
    (herror : ∀ error, Returns (fun value ↦ ¬ good value) (continuation (.error error)))
    (hok : ∀ value, Vouches Untroubled good (continuation (.ok value))) :
    Vouches Untroubled good (command p >>= continuation) := by
  refine (vouches_command hp).bind (fun outcome hgood ↦ ?_) fun outcome hother ↦ ?_
  · obtain ⟨value, rfl, -⟩ := hgood
    exact hok value
  · cases outcome with
    | error error => exact herror error
    | ok value => exact absurd ⟨value, rfl, trivial⟩ hother

theorem vouches_of_talks {good : α → Prop} {p : ToolProgram α} (hp : Asks Talks p) :
    Vouches Untroubled good p :=
  .of_asks hp fun _ ↦ Talks.untroubled

theorem vouches_of_isPrint {good : α → Prop} {p : ToolProgram α} (hp : Asks IsPrint p) :
    Vouches Untroubled good p :=
  vouches_of_talks (hp.mono fun _ ↦ IsPrint.talks)

theorem vouches_message {good : β → Prop} {stream : Stream} {text : List UInt8} {value : β} :
    Vouches Untroubled good ((perform (I := Tool) (.print stream text) : ToolProgram Unit) >>=
      fun _ ↦ .done value) :=
  vouches_of_isPrint (isPrint_print_done value)

theorem vouches_doPartition (sizeString : List UInt8) (stack : PartitionStack) :
    Vouches Untroubled (· = .success) (doPartition sizeString stack) := by
  refine vouches_command_bind (vouches_u3Partition _ _)
    (fun _ ↦ returns_message (by simp)) fun _ ↦ ?_
  refine vouches_command_bind ((Faithful.deviceCommand _ _ _ _).bind fun _ ↦ .done _).vouches
    (fun _ ↦ returns_message (by simp)) fun _ ↦ ?_
  exact .done _

theorem vouches_sendPassword (function : String) (cmd : Cdb) (hashes : List UInt8) :
    Vouches Untroubled (· = .success) (sendPassword function (passwordCommand cmd hashes)) := by
  refine (vouches_command (vouches_passwordCommand _ _)).bind (fun outcome hgood ↦ ?_)
    fun outcome hother ↦ ?_
  · obtain ⟨value, rfl, rfl⟩ := hgood
    exact vouches_message
  · match outcome with
    | .error error => exact returns_message (by simp)
    | .ok true => exact absurd ⟨true, rfl, rfl⟩ hother
    | .ok false => exact returns_message (by simp)

/-- The number of tries vouches for the questions behind it. -/
theorem vouches_getTriesLeft (securityProperties : Property0C) :
    Vouches Untroubled (fun tries ↦ tries.isSome = true) (getTriesLeft securityProperties) := by
  refine vouches_command_bind faithful_u3DataPartitionInfo.vouches
    (fun _ ↦ returns_message (by simp)) fun _ ↦ ?_
  refine vouches_command_bind (vouches_u3ReadDeviceProperty _ _)
    (fun _ ↦ returns_message (by simp)) fun _ ↦ ?_
  exact .done _

theorem vouches_guardPassword (fuel : ℕ) (verb function : String) (cmd : Cdb)
    (hashes : List UInt8) (triesLeft : Int32) : Vouches Untroubled (· = .success)
      (guardPassword fuel verb function (passwordCommand cmd hashes) triesLeft) := by
  unfold guardPassword
  split_ifs
  · exact vouches_message
  · refine .bind_all (vouches_of_talks (.ask trivial fun _ ↦ .ask trivial fun _ ↦ .done _))
      fun _ ↦ .bind_all (vouches_of_talks (asks_confirm fuel)) fun confirmed ↦ ?_
    cases confirmed with
    | true => exact vouches_sendPassword _ _ _
    | false => exact .done _
  · exact vouches_sendPassword _ _ _

theorem vouches_guardedAction (fuel : ℕ) (securityProperties : Property0C)
    (verb function : String) (cmd : Cdb) (hashes : List UInt8) :
    Vouches Untroubled (· = .success)
      (guardedAction fuel securityProperties verb function (passwordCommand cmd hashes)) := by
  refine (vouches_getTriesLeft securityProperties).bind (fun tries hsome ↦ ?_)
    fun tries hnone ↦ ?_
  · obtain ⟨triesLeft, rfl⟩ := Option.isSome_iff_exists.mp hsome
    exact vouches_guardPassword _ _ _ _ _ _
  · obtain rfl := Option.not_isSome_iff_eq_none.mp hnone
    exact .done (by simp)

theorem vouches_doEnableSecurity (md5 : List UInt8 → Buffer 16) (password : List UInt8)
    (roundedSize : Buffer 4) :
    Vouches Untroubled (· = .success) (doEnableSecurity md5 password roundedSize) := by
  refine vouches_command_bind (faithful_u3EnableSecurity _ _ _).vouches
    (fun _ ↦ returns_message (by simp)) fun _ ↦ ?_
  exact .done _

theorem vouches_doResetSecurity (md5 : List UInt8 → Buffer 16) (roundedSize : Buffer 4) :
    Vouches Untroubled (· = .success) (doResetSecurity md5 roundedSize) := by
  refine vouches_command_bind (faithful_u3EnableSecurity _ _ _).vouches
    (fun _ ↦ returns_message (by simp)) fun _ ↦ ?_
  refine (vouches_command (vouches_passwordCommand _ _)).bind (fun outcome hgood ↦ ?_)
    fun outcome hother ↦ ?_
  · obtain ⟨value, rfl, rfl⟩ := hgood
    exact vouches_message
  · match outcome with
    | .error error => exact returns_message (by simp)
    | .ok true => exact absurd ⟨true, rfl, rfl⟩ hother
    | .ok false => exact returns_message (by simp)

/-- The writes of a load that succeeds were accepted. -/
theorem Loading.allAccepted {image : ImageFile} {k : ℕ} {writes : List (Event Scsi)}
    {quits : List Bool} (hloading : Loading image k writes quits .success) :
    AllAccepted writes := by
  generalize hstatus : ExitStatus.success = status at hloading
  induction hloading with
  | readError hfailing => exact allAccepted_nil
  | exhausted hend => exact allAccepted_nil
  | refused hmore hreply => exact absurd hstatus (by simp)
  | last hmore hend hreply => exact (allAccepted_singleton _).mpr hreply
  | interrupted hmore hreply => exact (allAccepted_singleton _).mpr hreply
  | next hmore hreply hrest ih => exact List.forall_mem_cons.mpr ⟨hreply, ih hstatus⟩

theorem vouches_doLoad (image : ImageFile) (buffer : Buffer blockSize) :
    Vouches Untroubled (· = .success) (doLoad image buffer) where
  of_run {trace status} hrun hsuccess event hevent := by
    rcases run_doLoad hrun with ⟨hfailure, -, -⟩ | ⟨info, pinfo, writes, status, htransfers⟩
    · exact absurd (hfailure.symm.trans (congrArg _ hsuccess)) (by simp)
    · obtain rfl : status = .success :=
        (Except.ok.inj htransfers.result_eq).symm.trans hsuccess
      obtain ⟨request, reply⟩ := event
      cases request with
      | sendCmd request =>
        have hsent : (⟨request, reply⟩ : Event Scsi) ∈ commands trace := mem_commands.mpr hevent
        rw [htransfers.commands_eq] at hsent
        rcases List.mem_append.mp hsent with hinfo | hwrite
        · exact vouches_u3PartitionInfo.of_run htransfers.info_run trivial _ hinfo
        · exact Or.inl (htransfers.loading.allAccepted _ hwrite)
      | fgetc => trivial
      | quit => trivial
      | print stream text => trivial

/-! ### The reports -/

theorem vouches_doInfo (stack : ReportStack) :
    Vouches Untroubled (· = .success) (doInfo stack) := by
  have hrecords : Vouches Untroubled (fun records ↦ records.isSome = true) infoRecords := by
    refine vouches_command_bind vouches_u3PartitionInfo (fun _ ↦ returns_message (by simp))
      fun _ ↦ ?_
    refine vouches_command_bind faithful_u3DataPartitionInfo.vouches
      (fun _ ↦ returns_message (by simp)) fun _ ↦ ?_
    refine vouches_command_bind ((Faithful.deviceCommand _ _ _ _).bind fun _ ↦ .done _).vouches
      (fun _ ↦ returns_message (by simp)) fun _ ↦ ?_
    exact .done _
  refine hrecords.bind (fun records hsome ↦ ?_) fun records hnone ↦ ?_
  · obtain ⟨⟨pinfo, dpinfo⟩, rfl⟩ := Option.isSome_iff_exists.mp hsome
    refine vouches_command_bind (vouches_u3ReadDeviceProperty _ _)
      (fun _ ↦ returns_message (by simp)) fun _ ↦ ?_
    refine vouches_command_bind (vouches_u3ReadDeviceProperty _ _)
      (fun _ ↦ returns_message (by simp)) fun _ ↦ ?_
    exact vouches_of_isPrint (isPrint_printInfo _ _ _ _)
  · obtain rfl := Option.not_isSome_iff_eq_none.mp hnone
    exact .done (by simp)

/-- A part of `do_dump`, from the value of `retval` before it to the one after it: a 0 vouches for
its commands, and another value stays other than 0. -/
structure Accounts (part : Int32 → ToolProgram Int32) : Prop where
  vouches : ∀ retval, Vouches Untroubled (· = 0) (part retval)
  remembers : ∀ {retval}, retval ≠ 0 → Returns (· ≠ 0) (part retval)

theorem Accounts.andThen {first second : Int32 → ToolProgram Int32} (hfirst : Accounts first)
    (hsecond : Accounts second) : Accounts fun retval ↦ first retval >>= second where
  vouches retval := (hfirst.vouches retval).bind (fun value _ ↦ hsecond.vouches value)
    fun _ ↦ hsecond.remembers
  remembers hretval := (hfirst.remembers hretval).bind fun _ ↦ hsecond.remembers

theorem accounts_dumpSection {question : Command α} {fails : ErrMsg → ToolProgram Unit}
    {prints : α → ToolProgram ExitStatus} (hquestion : Vouches Approved (fun _ ↦ True) question)
    (hprints : ∀ answer, Asks IsPrint (prints answer)) :
    Accounts (dumpSection question fails prints) where
  vouches retval := by
    refine vouches_command_bind hquestion (fun _ ↦ returns_message (by decide)) fun answer ↦ ?_
    refine .bind_all (vouches_of_isPrint (hprints answer)) fun status ↦ ?_
    cases status with
    | success => exact .done _
    | failure => exact .done _
  remembers hretval := by
    refine .of_continuation fun outcome ↦ ?_
    cases outcome with
    | error error => exact returns_message (by decide)
    | ok answer =>
      refine .of_continuation fun status ↦ ?_
      cases status with
      | success => exact .done hretval
      | failure => exact .done (by decide)

theorem accounts_doDump (stack : ReportStack) : Accounts (doDump stack) :=
  (accounts_dumpSection vouches_u3PartitionInfo isPrint_printPartInfo).andThen <|
  (accounts_dumpSection faithful_u3DataPartitionInfo.vouches isPrint_printDpartInfo).andThen <|
  (accounts_dumpSection ((Faithful.deviceCommand _ _ _ _).bind fun _ ↦ .done _).vouches
    isPrint_printChipInfo).andThen <|
  (accounts_dumpSection (vouches_u3ReadDeviceProperty _ _) isPrint_printProperty03).andThen <|
  accounts_dumpSection (vouches_u3ReadDeviceProperty _ _) isPrint_printProperty0C

/-! ### `main` -/

theorem vouches_exitCode {p : ToolProgram ExitStatus} (hp : Vouches Untroubled (· = .success) p) :
    Vouches Untroubled (· = 0) (exitCode p) := by
  refine hp.bind (fun status _ ↦ .done _) fun status hfailed ↦ ?_
  cases status with
  | success => exact absurd rfl hfailed
  | failure => exact .done (by decide)

section Main

variable {world : World} {fuel : ℕ} {stack : MainStack} {name : List UInt8}
  {args : List (List UInt8)} {events : List (Event Tool)}

theorem vouches_doAction (options : Options) (password newPassword : List UInt8) :
    Vouches Untroubled (· = 0) (doAction world fuel stack options password newPassword) := by
  unfold doAction
  cases options.action with
  | unknown => exact vouches_message
  | load => exact vouches_exitCode (vouches_doLoad _ _)
  | partition => exact vouches_exitCode (vouches_doPartition _ _)
  | dump => exact (accounts_doDump _).vouches _
  | info => exact vouches_exitCode (vouches_doInfo _)
  | unlock => exact vouches_exitCode (vouches_guardedAction _ _ _ _ _ _)
  | changePassword => exact vouches_exitCode (vouches_guardedAction _ _ _ _ _ _)
  | enableSecurity => exact vouches_exitCode (vouches_doEnableSecurity _ _ _)
  | disableSecurity => exact vouches_exitCode (vouches_guardedAction _ _ _ _ _ _)
  | resetSecurity => exact vouches_exitCode (vouches_doResetSecurity _ _)

/-- The device-changing commands among given ones. -/
def changes (calls : List (Event Scsi)) : List UInt16 :=
  (calls.filter fun event ↦ Changing event).map fun event ↦ event.request.command

theorem changes_of_reads {calls : List (Event Scsi)} (hreads : Reads calls) :
    changes calls = [] := by
  have hnone : calls.filter (fun event ↦ Changing event) = [] :=
    List.filter_eq_nil_iff.mpr fun event hevent ↦ by simpa using hreads event hevent
  rw [changes, hnone, List.map_nil]

theorem changes_append (first second : List (Event Scsi)) :
    changes (first ++ second) = changes first ++ changes second := by
  simp [changes]

theorem changes_cons {event : Event Scsi} (hchanging : Changing event)
    (calls : List (Event Scsi)) :
    changes (event :: calls) = event.request.command :: changes calls := by
  simp [changes, hchanging]

/-- The device-changing commands of an action that was carried out to its end. -/
def Action.Completed : Action → List UInt16 → Prop
  | .load, codes => ∃ blocks, codes = List.replicate blocks 0x42
  | action, codes => codes = action.changing

/-- An action with one device-changing command that succeeded sent it. -/
theorem changes_of_changesOnce {code : UInt16} {calls : List (Event Scsi)}
    (hcode : code ∈ deviceChanging) (honce : ChangesOnce code calls (.ok .success)) :
    changes calls = [code] := by
  cases honce with
  | stopped hreads hresult => exact absurd rfl hresult
  | sent hcalls hreads hcommand hstatus =>
    rw [hcalls, changes_append, changes_of_reads hreads,
      changes_cons (by rw [Changing, hcommand]; exact hcode), hcommand]
    rfl

/-- An action with two device-changing commands that succeeded sent both. -/
theorem changes_of_changesTwice {first second : UInt16} {calls : List (Event Scsi)}
    (hfirst : first ∈ deviceChanging) (hsecond : second ∈ deviceChanging)
    (htwice : ChangesTwice first second calls (.ok .success)) :
    changes calls = [first, second] := by
  cases htwice with
  | sent hcalls hreads hchange haccepted hlast hstatus =>
    rw [hcalls, changes_append, changes_of_reads hreads,
      changes_cons (by rw [Changing, hchange]; exact hfirst),
      changes_cons (by rw [Changing, hlast]; exact hsecond), hchange, hlast]
    rfl

theorem run_exitCode_zero {p : ToolProgram ExitStatus} (hrun : Run (exitCode p) events (.ok 0)) :
    Run p events (.ok .success) := by
  obtain ⟨first, status, rest, rfl, hfirst, hrest⟩ := run_bind_ok.mp hrun
  obtain ⟨rfl, hcode⟩ := run_done.mp hrest
  rw [List.append_nil]
  cases status with
  | success => exact hfirst
  | failure => exact absurd (Except.ok.inj hcode) (by decide)

/-- The device-changing commands of a load are its writes. -/
theorem changes_of_changesOnly {code : UInt16} {p : ToolProgram α} (hp : ChangesOnly [code] p)
    {result : Except Halt α} (hrun : Run p events result) :
    ∃ count, changes (commands events) = List.replicate count code := by
  refine ⟨_, List.eq_replicate_of_mem fun sent hsent ↦ ?_⟩
  obtain ⟨event, hevent, rfl⟩ := List.mem_map.mp hsent
  obtain ⟨hmem, hchanging⟩ := List.mem_filter.mp hevent
  exact List.mem_singleton.mp (hp.of_run hrun event hmem (of_decide_eq_true hchanging))

theorem completed_of_run_doAction {options : Options} {password newPassword : List UInt8}
    (hrun : Run (doAction world fuel stack options password newPassword) events (.ok 0)) :
    options.action.Completed (changes (commands events)) := by
  unfold doAction at hrun
  cases haction : options.action with
  | unknown =>
    rw [haction] at hrun
    obtain ⟨-, hsilent, -⟩ := run_print_done hrun
    rw [hsilent]
    rfl
  | load =>
    rw [haction] at hrun
    exact changes_of_changesOnly (changesOnly_doLoad _ _) (run_exitCode_zero hrun)
  | partition =>
    rw [haction] at hrun
    exact changes_of_changesTwice (by decide) (by decide)
      (changesTwice_doPartition (run_exitCode_zero hrun))
  | dump =>
    rw [haction] at hrun
    exact changes_of_reads (reads_of_asks (harmless_doDump _ _) hrun)
  | info =>
    rw [haction] at hrun
    exact changes_of_reads (reads_of_asks (harmless_doInfo _) (run_exitCode_zero hrun))
  | unlock =>
    rw [haction] at hrun
    exact changes_of_changesOnce (by decide) (changesOnce_guardedAction (run_exitCode_zero hrun))
  | changePassword =>
    rw [haction] at hrun
    exact changes_of_changesOnce (by decide) (changesOnce_guardedAction (run_exitCode_zero hrun))
  | enableSecurity =>
    rw [haction] at hrun
    exact changes_of_changesOnce (by decide)
      (changesOnce_doEnableSecurity (run_exitCode_zero hrun))
  | disableSecurity =>
    rw [haction] at hrun
    exact changes_of_changesOnce (by decide) (changesOnce_guardedAction (run_exitCode_zero hrun))
  | resetSecurity =>
    rw [haction] at hrun
    exact changes_of_changesTwice (by decide) (by decide)
      (changesTwice_doResetSecurity (run_exitCode_zero hrun))

/-- The user was asked and declined. -/
def Declined (events : List (Event Tool)) : Prop :=
  ∃ first asked last fuel, events = first ++ asked ++ last ∧ Run (confirm fuel) asked (.ok false)

/-- A run of an action that returned, after messages and answers; or nothing was sent because the
user declined. -/
def Proceeds (world : World) (fuel : ℕ) (stack : MainStack) (options : Options) (code : Int32)
    (events : List (Event Tool)) : Prop :=
  (∃ before during password newPassword, events = before ++ during ∧ commands before = [] ∧
      Run (doAction world fuel stack options password newPassword) during (.ok code)) ∨
    commands events = [] ∧ Declined events

/-- A program that sends nothing may run first. -/
theorem proceeds_bind {options : Options} {code : Int32} {p : ToolProgram α}
    {continuation : α → ToolProgram Int32} (hp : Asks Talks p)
    (hcontinuation : ∀ {value rest}, Run (continuation value) rest (.ok code) →
      Proceeds world fuel stack options code rest)
    (hrun : Run (p >>= continuation) events (.ok code)) :
    Proceeds world fuel stack options code events := by
  obtain ⟨earlier, value, rest, rfl, hearlier, hrest⟩ := run_bind_ok.mp hrun
  have hsilent := commands_eq_nil_of_talks hp hearlier
  rcases hcontinuation hrest with
    ⟨before, during, password, newPassword, rfl, hbefore, hduring⟩ |
    ⟨hnone, first, asked, last, fuel, rfl, hasked⟩
  · exact Or.inl ⟨earlier ++ before, during, password, newPassword, by rw [List.append_assoc],
      by simp [hsilent, hbefore], hduring⟩
  · exact Or.inr ⟨by rw [commands_append, hsilent, hnone]; rfl,
      earlier ++ first, asked, last, fuel, by simp, hasked⟩

theorem proceeds_of_run_withDevice {options : Options} {code : Int32}
    (hrun : Run (withDevice world fuel stack options) events (.ok code)) :
    Proceeds world fuel stack options code events := by
  refine proceeds_bind ((chats_passwordFor _ _ _).mono fun _ hchats ↦ hchats.1)
    (fun {password _} hnew ↦ ?_) hrun
  refine proceeds_bind ((chats_newPasswordFor _ _ _).mono fun _ hchats ↦ hchats.1)
    (fun {newPassword trace} hperform ↦ ?_) hnew
  have hwarned {texts : List String} (hwarned : Run (printAll texts >>= fun _ ↦ ifConfirmed fuel
      (doAction world fuel stack options (cString password) (cString newPassword))) trace
      (.ok code)) : Proceeds world fuel stack options code trace := by
    refine proceeds_bind (talks_printAll texts) (fun hconfirm ↦ ?_) hwarned
    obtain ⟨asked, answer, rest, rfl, hasked, hrest⟩ := run_bind_ok.mp hconfirm
    have hsilent := commands_eq_nil_of_talks (asks_confirm fuel) hasked
    cases answer with
    | true => exact Or.inl ⟨asked, rest, _, _, rfl, hsilent, hrest⟩
    | false =>
      obtain ⟨rfl, -⟩ := run_done.mp hrest
      exact Or.inr ⟨by simpa using hsilent, [], asked, [], fuel, rfl, hasked⟩
  unfold performAction at hperform
  dsimp only at hperform
  split at hperform
  · exact hwarned hperform
  · exact hwarned hperform
  · exact hwarned hperform
  · exact Or.inl ⟨[], trace, _, _, rfl, rfl, hperform⟩

/-- A program that ends with the value of `EXIT_FAILURE`. -/
theorem returns_one {p : ToolProgram α} :
    Returns (fun code : Int32 ↦ code ≠ 0) (p >>= fun _ ↦ .done 1) :=
  returns_message (by decide)

/-- When `main` returns 0 it printed its version, or performed the last action named, or the user
declined that action. -/
theorem proceeds_of_run_main (hrun : Run (main world fuel stack name args) events (.ok 0)) :
    commands events = [] ∧ deviceArgument args = none ∨
      Proceeds world fuel stack (lastOptions (parsedArguments args).1) 0 events := by
  unfold main at hrun
  unfold deviceArgument
  dsimp only at hrun
  split at hrun
  · next hparse =>
    have htalks : Asks Talks (printVersion world) := talks_printAll _
    exact Or.inl ⟨commands_eq_nil_of_talks (htalks.bind fun _ ↦ .done _) hrun, by rw [hparse]⟩
  · exact absurd rfl (returns_one.of_run hrun)
  · next options hparse =>
    rw [eq_lastOptions hparse] at hrun
    split at hrun
    · obtain ⟨-, -, rest, -, -, hrest⟩ := run_bind_ok.mp hrun
      exact absurd rfl (returns_one.of_run hrest)
    · split at hrun
      · exact absurd rfl (returns_one.of_run hrun)
      · exact Or.inr (proceeds_of_run_withDevice hrun)

/-- A run of `main` that returns 0 sent only approved commands; and it carried out the last action
named, or sent nothing because no device was to be opened or the user declined. -/
theorem main_exit_zero (hrun : Run (main world fuel stack name args) events (.ok 0)) :
    (∀ sent ∈ commands events, Approved sent) ∧
      ((lastAction (parsedArguments args).1).Completed (changes (commands events)) ∨
        commands events = [] ∧ (deviceArgument args = none ∨ Declined events)) := by
  rcases proceeds_of_run_main hrun with
    ⟨hnone, hdevice⟩ | ⟨before, during, password, newPassword, rfl, hbefore, hduring⟩ |
    ⟨hnone, hdeclined⟩
  · exact ⟨by simp [hnone], Or.inr ⟨hnone, Or.inl hdevice⟩⟩
  · rw [commands_append, hbefore, List.nil_append]
    exact ⟨fun sent hsent ↦ (vouches_doAction _ _ _).of_run hduring rfl _ (mem_commands.mp hsent),
      Or.inl (completed_of_run_doAction hduring)⟩
  · exact ⟨by simp [hnone], Or.inr ⟨hnone, Or.inr hdeclined⟩⟩

end Main

theorem main_exit_zero_witness :
    ((∀ sent ∈ commands removeCdExecution.trace, Approved sent) ∧
      (Action.Completed .partition (changes (commands removeCdExecution.trace)) ∨
        commands removeCdExecution.trace = [] ∧
          (deviceArgument removeCdArguments = none ∨ Declined removeCdExecution.trace))) ∧
      changes (commands removeCdExecution.trace) = [0x22, 0x101] := by
  have hresult : removeCdExecution.result = .ok 0 := by decide +kernel
  have hrun : Run (main plainWorld 2 zeroMainStack (ascii "u3-tool") removeCdArguments)
      removeCdExecution.trace removeCdExecution.result := run_exec _ _ _
  have haction : lastAction (parsedArguments removeCdArguments).1 = .partition := by decide +kernel
  exact ⟨haction ▸ main_exit_zero (hresult ▸ hrun), by decide +kernel⟩

end U3Tool
