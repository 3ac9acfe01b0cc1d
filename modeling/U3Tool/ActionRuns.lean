import U3Tool.CommandStatus
import U3Tool.PasswordGuard

/-!
# Runs of the actions

What the actions of `main.c` send to the device. An action that only reads sends no device-changing
command. An action that changes the device asks its questions first and sends one device-changing
command after them (`ChangesOnce`), or two of which the second follows an accepted first
(`ChangesTwice`); the last of these decides what the action returns.
-/

set_option autoImplicit false
set_option relaxedAutoImplicit false

namespace U3Tool

open Interaction Bytes Program

variable {α β : Type} {trace : List (Event Tool)} {result : Except Halt ExitStatus}

/-! ### Pieces of an action -/

/-- A sequence that begins with a function of the command layer goes on with its outcome. -/
theorem run_command_bind {p : Command α} {continuation : Except ErrMsg α → ToolProgram β}
    {result : Except Halt β} (hrun : Run (command p >>= continuation) trace result) :
    ∃ outcome events rest, trace = events.map sendEvent ++ rest ∧ Run p events outcome ∧
      Run (continuation outcome) rest result := by
  rcases run_bind.mp hrun with ⟨halt, -, hhalt⟩ | ⟨first, outcome, rest, rfl, hfirst, hrest⟩
  · obtain ⟨outcome, events, hcontra, -⟩ := run_command.mp hhalt
    exact absurd hcontra (by simp)
  · obtain ⟨outcome', events, houtcome, rfl, hevents⟩ := run_command.mp hfirst
    obtain rfl := Except.ok.inj houtcome
    exact ⟨outcome, events, rest, rfl, hevents, hrest⟩

/-- No call of a trace changes the device. -/
def Reads (calls : List (Event Scsi)) : Prop := ∀ event ∈ calls, ¬ Changing event

@[simp] theorem reads_nil : Reads [] := by simp [Reads]

@[simp] theorem reads_append (first second : List (Event Scsi)) :
    Reads (first ++ second) ↔ Reads first ∧ Reads second :=
  List.forall_mem_append

theorem IsQuery.reads {p : Command α} (hp : IsQuery p) {calls : List (Event Scsi)}
    {outcome : Except ErrMsg α} (hrun : Run p calls outcome) : Reads calls :=
  hp.not_changing hrun

/-- `get_tries_left` returns and only reads. -/
theorem run_getTriesLeft {securityProperties : Property0C} {result : Except Halt (Option Int32)}
    (hrun : Run (getTriesLeft securityProperties) trace result) :
    (∃ tries, result = .ok tries) ∧ Reads (commands trace) := by
  obtain ⟨outcome, events, rest, rfl, hinfo, hrest⟩ := run_command_bind hrun
  have hinfoReads := isQuery_u3DataPartitionInfo.reads hinfo
  cases outcome with
  | error error =>
    obtain ⟨rfl, hsilent, -⟩ := run_print_done hrest
    exact ⟨⟨_, rfl⟩, by simp [hsilent, hinfoReads]⟩
  | ok dpinfo =>
    obtain ⟨outcome, pages, last, rfl, hpage, hlast⟩ := run_command_bind hrest
    have hpageReads := (isQuery_u3ReadDeviceProperty _ _).reads hpage
    cases outcome with
    | error error =>
      obtain ⟨rfl, hsilent, -⟩ := run_print_done hlast
      exact ⟨⟨_, rfl⟩, by simp [hsilent, hinfoReads, hpageReads]⟩
    | ok properties =>
      obtain ⟨rfl, rfl⟩ := run_done.mp hlast
      exact ⟨⟨_, rfl⟩, by simp [hinfoReads, hpageReads]⟩

/-! ### Shapes of an action -/

/-- An action that changes the device with one command: it ends without success before that, or the
command follows its questions and decides what the action returns. -/
inductive ChangesOnce (code : UInt16) (calls : List (Event Scsi)) :
    Except Halt ExitStatus → Prop
  | stopped {result : Except Halt ExitStatus} (hreads : Reads calls)
      (hresult : result ≠ .ok .success) : ChangesOnce code calls result
  | sent {queries : List (Event Scsi)} {event : Event Scsi} {status : ExitStatus}
      (hcalls : calls = queries ++ [event]) (hreads : Reads queries)
      (hcommand : event.request.command = code)
      (hstatus : status = .success ↔ event.reply.Accepted) : ChangesOnce code calls (.ok status)

/-- Questions asked first do not change the shape. -/
theorem ChangesOnce.prepend {code : UInt16} {queries calls : List (Event Scsi)}
    (hqueries : Reads queries) (hcalls : ChangesOnce code calls result) :
    ChangesOnce code (queries ++ calls) result := by
  cases hcalls with
  | stopped hreads hresult => exact .stopped (by simp [hqueries, hreads]) hresult
  | sent hcalls hreads hcommand hstatus =>
    exact .sent (by rw [hcalls, List.append_assoc]) (by simp [hqueries, hreads]) hcommand hstatus

/-- An action that changes the device with two commands: it fails before the first was accepted, or
the second follows an accepted first and decides what the action returns. -/
inductive ChangesTwice (first second : UInt16) (calls : List (Event Scsi)) :
    Except Halt ExitStatus → Prop
  | stopped (honce : ChangesOnce first calls (.ok .failure)) :
      ChangesTwice first second calls (.ok .failure)
  | sent {queries : List (Event Scsi)} {change last : Event Scsi} {status : ExitStatus}
      (hcalls : calls = queries ++ [change, last]) (hreads : Reads queries)
      (hfirst : change.request.command = first) (haccepted : change.reply.Accepted)
      (hsecond : last.request.command = second)
      (hstatus : status = .success ↔ last.reply.Accepted) :
      ChangesTwice first second calls (.ok status)

/-- The end of an action that reports the outcome of a function: it sends nothing, and it returns
success for one value only. -/
structure ReportsOutcome (continuation : Except ErrMsg α → ToolProgram ExitStatus) (value : α) :
    Prop where
  of_run : ∀ {outcome : Except ErrMsg α} {rest : List (Event Tool)}
    {result : Except Halt ExitStatus}, Run (continuation outcome) rest result →
    ∃ status, result = .ok status ∧ commands rest = [] ∧
      (status = .success ↔ outcome = .ok value)

/-- A report that prints a message and returns. -/
theorem reports_of_print {outcome : Except ErrMsg α} {value : α} {stream : Stream}
    {text : List UInt8} {status : ExitStatus} (hstatus : status = .success ↔ outcome = .ok value)
    (hrun : Run ((perform (I := Tool) (.print stream text) : ToolProgram Unit) >>=
      fun _ ↦ .done status) trace result) :
    ∃ status, result = .ok status ∧ commands trace = [] ∧
      (status = .success ↔ outcome = .ok value) := by
  obtain ⟨rfl, hsilent, -⟩ := run_print_done hrun
  exact ⟨status, rfl, hsilent, hstatus⟩

/-- A report that only returns. -/
theorem reports_of_done {outcome : Except ErrMsg α} {value : α} {status : ExitStatus}
    (hstatus : status = .success ↔ outcome = .ok value)
    (hrun : Run (.done status : ToolProgram ExitStatus) trace result) :
    ∃ status, result = .ok status ∧ commands trace = [] ∧
      (status = .success ↔ outcome = .ok value) := by
  obtain ⟨rfl, rfl⟩ := run_done.mp hrun
  exact ⟨status, rfl, rfl, hstatus⟩

/-- One device-changing function followed by the report of its outcome. -/
theorem changesOnce_of_command {p : Command Unit} {code : UInt16}
    {continuation : Except ErrMsg Unit → ToolProgram ExitStatus}
    (hp : ∀ {events outcome}, Run p events outcome → ChangesLast code events outcome)
    (hreport : ReportsOutcome continuation ())
    (hrun : Run (command p >>= continuation) trace result) :
    ChangesOnce code (commands trace) result := by
  obtain ⟨outcome, events, rest, rfl, hevents, hrest⟩ := run_command_bind hrun
  obtain ⟨status, rfl, hsilent, hstatus⟩ := hreport.of_run hrest
  rw [commands_append, commands_map_sendEvent, hsilent, List.append_nil]
  rcases hp hevents with ⟨queries, event, rfl, hcommand, hqueries, hresult⟩ |
    ⟨hreads, error, rfl⟩
  · exact .sent rfl (fun query hquery ↦ (hqueries query hquery).1) hcommand
      (hstatus.trans hresult)
  · exact .stopped hreads fun hsuccess ↦
      absurd (hstatus.mp (Except.ok.inj hsuccess)) (by simp)

/-- One checked command followed by the report of its outcome. -/
theorem run_lastCommand {p : Command α} {value : α} {code : UInt16}
    {continuation : Except ErrMsg α → ToolProgram ExitStatus}
    (hp : ∀ {events outcome}, Run p events outcome → ∃ event, events = [event] ∧
      event.request.command = code ∧ (outcome = .ok value ↔ event.reply.Accepted))
    (hreport : ReportsOutcome continuation value)
    (hrun : Run (command p >>= continuation) trace result) :
    ∃ event status, result = .ok status ∧ commands trace = [event] ∧
      event.request.command = code ∧ (status = .success ↔ event.reply.Accepted) := by
  obtain ⟨outcome, events, rest, rfl, hevents, hrest⟩ := run_command_bind hrun
  obtain ⟨status, rfl, hsilent, hstatus⟩ := hreport.of_run hrest
  obtain ⟨event, rfl, hcommand, hresult⟩ := hp hevents
  exact ⟨event, status, rfl, by simp [hsilent], hcommand, hstatus.trans hresult⟩

/-- A device-changing function, and after its success a second device-changing command. -/
theorem changesTwice_of_command {p : Command Unit} {first second : UInt16}
    {continuation : Except ErrMsg Unit → ToolProgram ExitStatus}
    (hp : ∀ {events outcome}, Run p events outcome → ChangesLast first events outcome)
    (hfailure : ∀ {error rest result}, Run (continuation (.error error)) rest result →
      result = .ok .failure ∧ commands rest = [])
    (hnext : ∀ {rest result}, Run (continuation (.ok ())) rest result →
      ∃ event status, result = .ok status ∧ commands rest = [event] ∧
        event.request.command = second ∧ (status = .success ↔ event.reply.Accepted))
    (hrun : Run (command p >>= continuation) trace result) :
    ChangesTwice first second (commands trace) result := by
  obtain ⟨outcome, events, rest, rfl, hevents, hrest⟩ := run_command_bind hrun
  rw [commands_append, commands_map_sendEvent]
  rcases hp hevents with ⟨queries, event, rfl, hcommand, hqueries, hresult⟩ |
    ⟨hreads, error, rfl⟩
  · have hqueryReads : Reads queries := fun query hquery ↦ (hqueries query hquery).1
    cases outcome with
    | error error =>
      obtain ⟨rfl, hsilent⟩ := hfailure hrest
      have hrefused : ¬ event.reply.Accepted := fun haccepted ↦
        absurd (hresult.mpr haccepted) (by simp)
      rw [hsilent, List.append_nil]
      exact .stopped (.sent rfl hqueryReads hcommand
        (iff_of_false (by simp) hrefused))
    | ok value =>
      obtain ⟨last, status, rfl, hlast, hsecond, hstatus⟩ := hnext hrest
      exact .sent (by rw [hlast, List.append_assoc]; rfl) hqueryReads hcommand (hresult.mp rfl)
        hsecond hstatus
  · obtain ⟨rfl, hsilent⟩ := hfailure hrest
    rw [hsilent, List.append_nil]
    exact .stopped (.stopped hreads (by simp))

/-! ### The functions that change the device -/

theorem changesLast_u3Partition {cdSize : UInt32} {stack : PartitionStack}
    {events : List (Event Scsi)} {outcome : Except ErrMsg Unit}
    (hrun : Run (u3Partition cdSize stack) events outcome) : ChangesLast 0x22 events outcome := by
  rw [u3Partition_eq] at hrun
  exact changesLast_of_query (isQuery_partitionQueries _ _) hrun

theorem changesLast_u3EnableSecurity {md5 : List UInt8 → Buffer 16} {password : List UInt8}
    {roundedSize : Buffer 4} {events : List (Event Scsi)} {outcome : Except ErrMsg Unit}
    (hrun : Run (u3EnableSecurity md5 password roundedSize) events outcome) :
    ChangesLast 0xA2 events outcome := by
  rw [u3EnableSecurity_eq] at hrun
  exact changesLast_of_query (isQuery_securityQueries _) hrun

/-- `u3_reset` is one command. -/
theorem run_u3Reset {events : List (Event Scsi)} {outcome : Except ErrMsg Unit}
    (hrun : Run u3Reset events outcome) :
    ∃ event, events = [event] ∧ event.request.command = 0x101 ∧
      (outcome = .ok () ↔ event.reply.Accepted) := by
  rcases run_bind.mp hrun with ⟨error, rfl, hsent⟩ | ⟨first, received, rest, rfl, hsent, hrest⟩
  · obtain ⟨reply, rfl, hreply⟩ := run_deviceCommand.mp hsent
    refine ⟨_, rfl, rfl, iff_of_false (by simp) fun haccepted ↦ ?_⟩
    obtain ⟨received, hreceived⟩ := haccepted.result_eq_ok 12
    exact absurd (hreply.trans hreceived) (by simp)
  · obtain ⟨answer, rfl, -⟩ := run_deviceCommand_ok.mp hsent
    obtain ⟨rfl, rfl⟩ := run_done.mp hrest
    exact ⟨_, rfl, rfl, by simp⟩

/-- Sending a password is one command. -/
theorem command_of_run_passwordCommand {cmd : Cdb} {hashes : List UInt8}
    {events : List (Event Scsi)} {outcome : Except ErrMsg Bool}
    (hrun : Run (passwordCommand cmd hashes) events outcome) :
    ∃ event, events = [event] ∧ event.request.command = cmd.word16 1 ∧
      (outcome = .ok true ↔ event.reply.Accepted) := by
  obtain ⟨reply, rfl, hresult⟩ := run_passwordCommand hrun
  exact ⟨_, rfl, rfl, hresult⟩

/-! ### The actions that change the device -/

/-- `do_partition` sends the record of a repartition and, when that was accepted, the reset. -/
theorem changesTwice_doPartition {sizeString : List UInt8} {stack : PartitionStack}
    (hrun : Run (doPartition sizeString stack) trace result) :
    ChangesTwice 0x22 0x101 (commands trace) result := by
  refine changesTwice_of_command changesLast_u3Partition (fun hfailed ↦ ?_)
    (fun hnext ↦ run_lastCommand run_u3Reset ⟨fun {outcome} _ _ hreport ↦ ?_⟩ hnext) hrun
  · obtain ⟨rfl, hsilent, -⟩ := run_print_done hfailed
    exact ⟨rfl, hsilent⟩
  · cases outcome with
    | error error => exact reports_of_print (by simp) hreport
    | ok value => exact reports_of_done (by simp) hreport

/-- Sending a password is one device-changing command, which decides the result. -/
theorem changesOnce_sendPassword {function : String} {cmd : Cdb} {hashes : List UInt8}
    (hrun : Run (sendPassword function (passwordCommand cmd hashes)) trace result) :
    ChangesOnce (cmd.word16 1) (commands trace) result := by
  obtain ⟨event, status, rfl, hsent, hcommand, hstatus⟩ :=
    run_lastCommand command_of_run_passwordCommand ⟨fun {outcome} _ _ hreport ↦ by
      match outcome with
      | .error error => exact reports_of_print (by simp) hreport
      | .ok true => exact reports_of_print (by simp) hreport
      | .ok false => exact reports_of_print (by simp) hreport⟩ hrun
  exact .sent (by rw [hsent, List.nil_append]) reads_nil hcommand hstatus

theorem silent_warnLastTry : Silent warnLastTry :=
  (Silent.print _ _).bind fun _ ↦ Silent.print _ _

/-- The guard on the number of tries sends the password or nothing. -/
theorem changesOnce_guardPassword {fuel : ℕ} {verb function : String} {cmd : Cdb}
    {hashes : List UInt8} {triesLeft : Int32}
    (hrun : Run (guardPassword fuel verb function (passwordCommand cmd hashes) triesLeft) trace
      result) : ChangesOnce (cmd.word16 1) (commands trace) result := by
  unfold guardPassword at hrun
  split_ifs at hrun with hzero hone
  · obtain ⟨rfl, hsilent, -⟩ := run_print_done hrun
    exact .stopped (by simp [hsilent]) (by simp)
  · obtain ⟨-, rest, hrest, hcommands, -⟩ := silent_warnLastTry.run_bind hrun
    rw [hcommands]
    rcases run_bind.mp hrest with ⟨halt, rfl, hhalt⟩ | ⟨first, answer, last, rfl, hanswer, hlast⟩
    · exact .stopped (by simp [commands_eq_nil_of_talks (asks_confirm fuel) hhalt]) (by simp)
    · rw [commands_append, commands_eq_nil_of_talks (asks_confirm fuel) hanswer, List.nil_append]
      cases answer with
      | false =>
        obtain ⟨rfl, rfl⟩ := run_done.mp hlast
        exact .stopped reads_nil (by simp)
      | true => exact changesOnce_sendPassword hlast
  · exact changesOnce_sendPassword hrun

/-- An action that sends a password sends it once, after questions. -/
theorem changesOnce_guardedAction {fuel : ℕ} {securityProperties : Property0C}
    {verb function : String} {cmd : Cdb} {hashes : List UInt8}
    (hrun : Run (guardedAction fuel securityProperties verb function (passwordCommand cmd hashes))
      trace result) : ChangesOnce (cmd.word16 1) (commands trace) result := by
  rcases run_bind.mp hrun with ⟨halt, -, hhalt⟩ | ⟨first, tries, rest, rfl, hfirst, hrest⟩
  · obtain ⟨⟨tries, hcontra⟩, -⟩ := run_getTriesLeft hhalt
    exact absurd hcontra (by simp)
  · obtain ⟨-, hreads⟩ := run_getTriesLeft hfirst
    rw [commands_append]
    refine ChangesOnce.prepend hreads ?_
    cases tries with
    | none =>
      obtain ⟨rfl, rfl⟩ := run_done.mp hrest
      exact .stopped reads_nil (by simp)
    | some triesLeft => exact changesOnce_guardPassword hrest

section Security

variable {md5 : List UInt8 → Buffer 16}

/-- `do_enable_security` sends one device-changing command. -/
theorem changesOnce_doEnableSecurity {password : List UInt8} {roundedSize : Buffer 4}
    (hrun : Run (doEnableSecurity md5 password roundedSize) trace result) :
    ChangesOnce 0xA2 (commands trace) result := by
  refine changesOnce_of_command changesLast_u3EnableSecurity
    ⟨fun {outcome} _ _ hreport ↦ ?_⟩ hrun
  cases outcome with
  | error error => exact reports_of_print (by simp) hreport
  | ok value => exact reports_of_done (by simp) hreport

/-- `do_reset_security` enables security and, when that was accepted, disables it. -/
theorem changesTwice_doResetSecurity {roundedSize : Buffer 4}
    (hrun : Run (doResetSecurity md5 roundedSize) trace result) :
    ChangesTwice 0xA2 0xA7 (commands trace) result := by
  refine changesTwice_of_command changesLast_u3EnableSecurity (fun hfailed ↦ ?_)
    (fun hnext ↦ run_lastCommand command_of_run_passwordCommand
      ⟨fun {outcome} _ _ hreport ↦ ?_⟩ hnext) hrun
  · obtain ⟨rfl, hsilent, -⟩ := run_print_done hfailed
    exact ⟨rfl, hsilent⟩
  · match outcome with
    | .error error => exact reports_of_print (by simp) hreport
    | .ok true => exact reports_of_print (by simp) hreport
    | .ok false => exact reports_of_print (by simp) hreport

end Security

end U3Tool
