import U3Tool.Repartition

/-!
# What a successful call says

Thirteen functions of `u3_commands.c` talk to the device. `CommandCall` is a call of one of them
with its arguments, and `CommandCall.run` the call with its outcome reduced to success or not: a
call of `u3_unlock`, `u3_change_password` or `u3_disable_security` succeeds when `*result` is true
as well.

A program is `Faithful` when it returns exactly on the runs in which every command was accepted. The
property is closed under sequencing, and most functions have it because each of their commands is
followed by a test of its status. The property read and `u3_partition` make checks of their own
besides. `u3_partition_info` tests the status of its last read only, so a refused first read that
announces two partitions is masked by an accepted second one (`commandCall_succeeds_iff`).
-/

set_option autoImplicit false
set_option relaxedAutoImplicit false

namespace U3Tool

open Interaction Bytes Program

variable {α β : Type} {trace : List (Event Scsi)}

/-! ### Calls of the command layer -/

/-- A call of a function that talks to the device: its arguments, and the initial contents of what
the function or its caller does not initialize. -/
inductive CommandCall
  | readDeviceProperty (propertyId bufferLength : UInt16) (buffer : Buffer bufferLength.toNat)
  | partition (cdSize : UInt32) (stack : PartitionStack)
  | cdWrite (blockNum : UInt32) (block : Buffer blockSize)
  | partitionSectorRound (direction : RoundDir) (size : UInt32) (roundedSize : Buffer 4)
  | securitySectorRound (direction : RoundDir) (size : UInt32) (roundedSize : Buffer 4)
  | partitionInfo
  | dataPartitionInfo
  | chipInfo
  | reset
  | enableSecurity (password : List UInt8) (roundedSize : Buffer 4)
  | disableSecurity (password : List UInt8)
  | unlock (password : List UInt8)
  | changePassword (oldPassword newPassword : List UInt8)

/-- Runs a function for its success alone. -/
def succeeds (p : Command α) : Command Bool := p >>= fun _ ↦ .done true

/-- The call; it returns whether the function reports success. -/
def CommandCall.run (md5 : List UInt8 → Buffer 16) : CommandCall → Command Bool
  | .readDeviceProperty propertyId _ buffer => succeeds (u3ReadDeviceProperty propertyId buffer)
  | .partition cdSize stack => succeeds (u3Partition cdSize stack)
  | .cdWrite blockNum block => succeeds (u3CdWrite blockNum block)
  | .partitionSectorRound direction size roundedSize =>
    succeeds (u3PartitionSectorRound direction size roundedSize)
  | .securitySectorRound direction size roundedSize =>
    succeeds (u3SecuritySectorRound direction size roundedSize)
  | .partitionInfo => succeeds u3PartitionInfo
  | .dataPartitionInfo => succeeds u3DataPartitionInfo
  | .chipInfo => succeeds u3ChipInfo
  | .reset => succeeds u3Reset
  | .enableSecurity password roundedSize => succeeds (u3EnableSecurity md5 password roundedSize)
  | .disableSecurity password => u3DisableSecurity md5 password
  | .unlock password => u3Unlock md5 password
  | .changePassword oldPassword newPassword => u3ChangePassword md5 oldPassword newPassword

/-- A run for success ends with success exactly when the function returns. -/
theorem run_succeeds {p : Command α} {result : Except ErrMsg Bool} :
    Run (succeeds p) trace result ↔
      ∃ outcome, Run p trace outcome ∧ result = outcome.map fun _ ↦ true := by
  rw [succeeds, run_bind]
  constructor
  · rintro (⟨error, rfl, herror⟩ | ⟨first, value, rest, rfl, hfirst, hrest⟩)
    · exact ⟨_, herror, rfl⟩
    · obtain ⟨rfl, rfl⟩ := run_done.mp hrest
      exact ⟨_, by simpa using hfirst, rfl⟩
  · rintro ⟨outcome, hrun, rfl⟩
    cases outcome with
    | error error => exact Or.inl ⟨error, rfl, hrun⟩
    | ok value => exact Or.inr ⟨trace, value, [], by simp, hrun, .done _⟩

/-! ### Programs that report every refusal -/

/-- Every command of the trace completed and was answered with status 0. -/
def AllAccepted (trace : List (Event Scsi)) : Prop := ∀ event ∈ trace, event.reply.Accepted

@[simp] theorem allAccepted_nil : AllAccepted [] := by simp [AllAccepted]

@[simp] theorem allAccepted_singleton (event : Event Scsi) :
    AllAccepted [event] ↔ event.reply.Accepted := by
  simp [AllAccepted]

@[simp] theorem allAccepted_append (first second : List (Event Scsi)) :
    AllAccepted (first ++ second) ↔ AllAccepted first ∧ AllAccepted second :=
  List.forall_mem_append

/-- A program that returns exactly when every command it sent was accepted. -/
structure Faithful (p : Command α) : Prop where
  returns_iff : ∀ {trace : List (Event Scsi)} {result : Except ErrMsg α}, Run p trace result →
    ((∃ value, result = .ok value) ↔ AllAccepted trace)

namespace Faithful

theorem done (value : α) : Faithful (.done value : Command α) where
  returns_iff hrun := by
    obtain ⟨rfl, rfl⟩ := run_done.mp hrun
    simp

/-- A run that fails has a refused command. -/
theorem not_allAccepted {p : Command α} (hp : Faithful p) {error : ErrMsg}
    (hrun : Run p trace (.error error)) : ¬ AllAccepted trace := fun haccepted ↦ by
  obtain ⟨value, hvalue⟩ := (hp.returns_iff hrun).mpr haccepted
  exact absurd hvalue (by simp)

/-- A run that returns has none. -/
theorem allAccepted {p : Command α} (hp : Faithful p) {value : α}
    (hrun : Run p trace (.ok value)) : AllAccepted trace :=
  (hp.returns_iff hrun).mp ⟨value, rfl⟩

/-- A sequence of faithful programs is faithful. -/
theorem bind {p : Command α} {continuation : α → Command β} (hp : Faithful p)
    (hcontinuation : ∀ value, Faithful (continuation value)) : Faithful (p >>= continuation) where
  returns_iff hrun := by
    rcases run_bind.mp hrun with ⟨error, rfl, herror⟩ | ⟨first, value, rest, rfl, hfirst, hrest⟩
    · simp [hp.not_allAccepted herror]
    · rw [(hcontinuation value).returns_iff hrest, allAccepted_append]
      exact (and_iff_right (hp.allAccepted hfirst)).symm

/-- A faithful program whose error is changed is faithful. -/
theorem mapError {p : Command α} (hp : Faithful p) (f : ErrMsg → ErrMsg) :
    Faithful (p.mapError f) where
  returns_iff hrun := by
    obtain ⟨outcome, rfl, houtcome⟩ := run_mapError.mp hrun
    rw [← hp.returns_iff houtcome]
    cases outcome <;> simp [Except.mapError]

/-- A checked command is faithful. -/
theorem deviceCommand (cmd : Cdb) (direction : DataDirection) (length : ℕ) (data : List UInt8) :
    Faithful (U3Tool.deviceCommand cmd direction length data) where
  returns_iff hrun := by
    obtain ⟨reply, rfl, rfl⟩ := run_deviceCommand.mp hrun
    rw [allAccepted_singleton]
    constructor
    · rintro ⟨received, hreceived⟩
      exact accepted_of_result_eq_ok hreceived
    · exact fun haccepted ↦ haccepted.result_eq_ok length

/-- For success alone a faithful program succeeds exactly when every command was accepted. -/
theorem succeeds_iff {p : Command α} (hp : Faithful p) {result : Except ErrMsg Bool}
    (hrun : Run (succeeds p) trace result) : result = .ok true ↔ AllAccepted trace := by
  obtain ⟨outcome, houtcome, rfl⟩ := run_succeeds.mp hrun
  rw [← hp.returns_iff houtcome]
  cases outcome <;> simp [Except.map]

end Faithful

theorem faithful_u3PartitionSectorRound (direction : RoundDir) (size : UInt32)
    (roundedSize : Buffer 4) : Faithful (u3PartitionSectorRound direction size roundedSize) :=
  (Faithful.deviceCommand _ _ _ _).bind fun _ ↦ .done _

theorem faithful_u3SecuritySectorRound (direction : RoundDir) (size : UInt32)
    (roundedSize : Buffer 4) : Faithful (u3SecuritySectorRound direction size roundedSize) :=
  (Faithful.deviceCommand _ _ _ _).bind fun _ ↦ .done _

theorem faithful_roundCdSize (cdSize : UInt32) (roundedSize : Buffer 4) :
    Faithful (roundCdSize cdSize roundedSize) := by
  unfold roundCdSize
  split_ifs
  · exact (faithful_u3PartitionSectorRound _ _ _).mapError _
  · exact .done _

theorem faithful_u3DataPartitionInfo : Faithful u3DataPartitionInfo :=
  (Faithful.deviceCommand _ _ _ _).bind fun _ ↦ .done _

theorem faithful_u3EnableSecurity (md5 : List UInt8 → Buffer 16) (password : List UInt8)
    (roundedSize : Buffer 4) : Faithful (u3EnableSecurity md5 password roundedSize) := by
  refine (faithful_u3DataPartitionInfo.mapError _).bind fun dpInfo ↦ ?_
  refine Faithful.bind ?_ fun size ↦ (Faithful.deviceCommand _ _ _ _).bind fun _ ↦ .done _
  unfold roundZoneSize
  split_ifs
  · exact (faithful_u3SecuritySectorRound _ _ _).mapError _
  · exact .done _

/-- Sending a password succeeds exactly when the command was accepted. -/
theorem run_passwordCommand {cmd : Cdb} {hashes : List UInt8} {result : Except ErrMsg Bool}
    (hrun : Run (passwordCommand cmd hashes) trace result) :
    ∃ reply : CmdReply, trace = [⟨⟨cmd, .toDev, hashes.length, hashes⟩, reply⟩] ∧
      (result = .ok true ↔ reply.Accepted) := by
  rcases run_u3SendCmd_bind.mp hrun with ⟨error, rfl, rfl⟩ | ⟨status, received, rest, rfl, hrest⟩
  · exact ⟨_, rfl, by simp [CmdReply.Accepted]⟩
  · obtain ⟨rfl, rfl⟩ := run_done.mp hrest
    exact ⟨_, rfl, by simp [CmdReply.Accepted]⟩

/-! ### The checks of a call on what it received -/

/-- The bytes of the reply to a command of the trace, by its number. -/
def replyData (trace : List (Event Scsi)) (index : ℕ) : List UInt8 :=
  ((trace.map fun event ↦ event.reply.data)[index]?).getD []

/-- The answers to the queries of `u3_partition` in a trace; nothing is rounded up when no CD
partition is requested. -/
def answersIn (cdSize : UInt32) (trace : List (Event Scsi)) : PartitionAnswers :=
  if cdSize ≠ 0 then
    ⟨replyData trace 0, replyData trace 1, replyData trace 2, replyData trace 3⟩
  else
    ⟨[], replyData trace 0, replyData trace 1, replyData trace 2⟩

/-- The checks a function makes besides the tests of the status: the property read on the sizes of
the buffer and of the header, and `u3_partition` on the header, on the length of the page and on the
size of the device. -/
def CommandCall.ChecksPass (call : CommandCall) (trace : List (Event Scsi)) : Prop :=
  match call with
  | .readDeviceProperty _ bufferLength buffer =>
    6 ≤ bufferLength ∧ 6 ≤ hdrLength (headerRead buffer (replyData trace 0))
  | .partition cdSize stack => (answersIn cdSize trace).Passes cdSize stack
  | _ => True

/-- The first read of `u3_partition_info` is refused and announces two partitions, and the second
one is accepted. -/
def CommandCall.Masked (call : CommandCall) (trace : List (Event Scsi)) : Prop :=
  call = .partitionInfo ∧ ∃ request request' status data, ∃ reply : CmdReply,
    trace = [⟨request, .success status data⟩, ⟨request', reply⟩] ∧ data.head? = some 2 ∧
      status ≠ 0 ∧ reply.Accepted

/-- The property read returns exactly when both reads were accepted and its checks pass. -/
theorem returns_u3ReadDeviceProperty_iff {propertyId : UInt16} {size : ℕ} {buffer : Buffer size}
    {result : Except ErrMsg (Buffer size)}
    (hrun : Run (u3ReadDeviceProperty propertyId buffer) trace result) :
    (∃ page, result = .ok page) ↔ AllAccepted trace ∧ ¬ UInt16.ofNat size < 6 ∧
      ¬ hdrLength (headerRead buffer (replyData trace 0)) < propertyHeaderSize := by
  rcases run_u3ReadDeviceProperty hrun with
    ⟨error, rfl, ⟨hsmall, rfl⟩ | ⟨reply, rfl, hshort⟩⟩ | ⟨hlarge, header, rest, rfl, hlong, hrest⟩
  · simp [hsmall]
  · simp only [allAccepted_singleton]
    constructor
    · rintro ⟨page, hpage⟩
      exact absurd hpage (by simp)
    · rintro ⟨haccepted, -, hlong⟩
      exact absurd (hshort haccepted) hlong
  · obtain ⟨reply, rfl, hreturns⟩ := run_readFullProperty hrest
    rw [hreturns]
    simp only [AllAccepted, List.forall_mem_cons, accepted_success]
    constructor
    · exact fun haccepted ↦ ⟨⟨trivial, haccepted, by simp⟩, hlarge, hlong⟩
    · exact fun hall ↦ hall.1.2.1

/-- The checks on the answers in a trace that begins with the rounding up, if there is one. -/
theorem passes_answersIn_append {cdSize : UInt32} {stack : PartitionStack}
    (up : PartitionAnswers) (rest : List (Event Scsi)) :
    (answersIn cdSize (up.roundUpEvents cdSize ++ rest)).Passes cdSize stack ↔
      ¬ hdrLength (headerRead stack.deviceProperties (replyData rest 0)) < propertyHeaderSize ∧
        hdrLength (pageRead stack.deviceProperties (replyData rest 0) (replyData rest 1)) = 39 ∧
        up.rounded cdSize stack ≤ Property03.deviceSize
          (pageRead stack.deviceProperties (replyData rest 0) (replyData rest 1)) := by
  have hanswers : (answersIn cdSize (up.roundUpEvents cdSize ++ rest)).rounded cdSize stack =
        up.rounded cdSize stack ∧
      (answersIn cdSize (up.roundUpEvents cdSize ++ rest)).header = replyData rest 0 ∧
      (answersIn cdSize (up.roundUpEvents cdSize ++ rest)).page = replyData rest 1 := by
    by_cases hzero : cdSize = 0
    · simp [answersIn, PartitionAnswers.roundUpEvents, PartitionAnswers.rounded, hzero]
    · simp [answersIn, PartitionAnswers.roundUpEvents, PartitionAnswers.rounded, hzero, replyData,
        CmdReply.data]
  obtain ⟨hrounded, hheader, hpage⟩ := hanswers
  rw [← hrounded, ← hheader, ← hpage]
  constructor
  · intro hpasses
    exact ⟨hpasses.header_length, hpasses.page_length, hpasses.fits⟩
  · rintro ⟨hlong, hlength, hfits⟩
    exact ⟨hlong, hlength, hfits⟩

/-- When the third step of `u3_partition` fails, a check fails or the rounding was refused. -/
theorem run_roundDataSize_error {cdSize : UInt32} {page : Property03} {roundedSize : Buffer 4}
    {error : ErrMsg} (hrun : Run (roundDataSize cdSize page roundedSize) trace (.error error)) :
    hdrLength page ≠ 39 ∨ ¬ cdSize ≤ page.deviceSize ∨ ¬ AllAccepted trace := by
  unfold roundDataSize at hrun
  split_ifs at hrun with hlength hfits
  · exact Or.inl hlength
  · exact Or.inr (Or.inl (UInt32.not_le.mpr hfits))
  · exact Or.inr (Or.inr
      (((faithful_u3PartitionSectorRound _ _ _).mapError _).not_allAccepted hrun))

/-- When the queries of `u3_partition` fail although all were accepted, a check fails. -/
theorem not_passes_of_run_partitionQueries {cdSize : UInt32} {stack : PartitionStack}
    {error : ErrMsg} (hrun : Run (partitionQueries cdSize stack) trace (.error error))
    (haccepted : AllAccepted trace) : ¬ (answersIn cdSize trace).Passes cdSize stack := by
  intro hpasses
  rcases run_bind.mp hrun with ⟨_, -, hround⟩ | ⟨first, rounded, rest, rfl, hround, hrest⟩
  · exact (faithful_roundCdSize _ _).not_allAccepted hround haccepted
  obtain ⟨up, rfl, rfl⟩ := run_roundCdSize_ok.mp hround
  obtain ⟨hlong, hlength, hfits⟩ := (passes_answersIn_append up rest).mp hpasses
  have hrestAccepted := ((allAccepted_append _ _).mp haccepted).2
  rcases run_bind.mp hrest with ⟨_, -, hread⟩ | ⟨pages, page, last, rfl, hread, hlast⟩
  · -- the property read failed
    obtain ⟨outcome, houtcome, hread⟩ := run_mapError.mp hread
    cases outcome with
    | ok page => exact absurd houtcome (by simp [Except.mapError])
    | error cause =>
      obtain ⟨page, hcontra⟩ := (returns_u3ReadDeviceProperty_iff hread).mpr
        ⟨hrestAccepted, by decide, hlong⟩
      exact absurd hcontra (by simp)
  · obtain ⟨-, header, body, rfl, -, rfl⟩ :=
      run_u3ReadDeviceProperty_ok.mp (run_mapError_ok.mp hread)
    rcases run_bind.mp hlast with ⟨_, -, hdown⟩ | ⟨_, dataSize, done, rfl, -, hdone⟩
    · rcases run_roundDataSize_error hdown with hcontra | hcontra | hcontra
      · exact hcontra hlength
      · exact hcontra hfits
      · exact hcontra ((allAccepted_append _ _).mp hrestAccepted).2
    · exact absurd (run_done.mp hdone).2 (by simp)

/-- Answers that pass the checks are found in a trace that begins with them. -/
theorem passes_answersIn {cdSize : UInt32} {stack : PartitionStack} {answers : PartitionAnswers}
    (hpasses : answers.Passes cdSize stack) (rest : List (Event Scsi)) :
    (answersIn cdSize (answers.queries cdSize stack ++ rest)).Passes cdSize stack := by
  unfold PartitionAnswers.queries
  rw [List.append_assoc]
  exact (passes_answersIn_append answers _).mpr
    ⟨hpasses.header_length, hpasses.page_length, hpasses.fits⟩

/-- `u3_partition` returns exactly when all its commands were accepted and its checks pass. -/
theorem returns_u3Partition_iff {cdSize : UInt32} {stack : PartitionStack}
    {result : Except ErrMsg Unit} (hrun : Run (u3Partition cdSize stack) trace result) :
    (∃ value, result = .ok value) ↔
      AllAccepted trace ∧ (answersIn cdSize trace).Passes cdSize stack := by
  rw [u3Partition_eq] at hrun
  rcases run_query_then_command hrun with
    ⟨error, rfl, herror⟩ | ⟨first, sizes, reply, rfl, hfirst, hresult⟩
  · constructor
    · rintro ⟨value, hcontra⟩
      exact absurd hcontra (by simp)
    · rintro ⟨haccepted, hpasses⟩
      exact absurd hpasses (not_passes_of_run_partitionQueries herror haccepted)
  · obtain ⟨answers, hpasses, rfl, rfl⟩ := run_partitionQueries_ok.mp hfirst
    have hqueries : AllAccepted (answers.queries cdSize stack) :=
      (isQuery_partitionQueries _ _).accepted hfirst
    have hreturns : (∃ value, result = .ok value) ↔ result = .ok () :=
      ⟨fun ⟨_, hvalue⟩ ↦ hvalue, fun hvalue ↦ ⟨(), hvalue⟩⟩
    rw [hreturns, hresult, allAccepted_append, allAccepted_singleton]
    exact ⟨fun haccepted ↦ ⟨⟨hqueries, haccepted⟩, passes_answersIn hpasses _⟩,
      fun hall ↦ hall.1.2⟩

/-! ### Success of a call -/

/-- The outcome of a call says whether every command it issued was accepted, and its checks
passed. -/
def CommandCall.StatusSound (call : CommandCall) (trace : List (Event Scsi))
    (result : Except ErrMsg Bool) : Prop :=
  result = .ok true ↔ AllAccepted trace ∧ call.ChecksPass trace

/-- A call made of faithful commands has a sound outcome. -/
theorem statusSound_of_faithful {call : CommandCall} {p : Command α} {result : Except ErrMsg Bool}
    (hp : Faithful p) (hrun : Run (succeeds p) trace result) (hchecks : call.ChecksPass trace) :
    call.StatusSound trace result := by
  rw [CommandCall.StatusSound, hp.succeeds_iff hrun]
  exact (and_iff_left hchecks).symm

/-- A call that sends a password has a sound outcome. -/
theorem statusSound_of_passwordCommand {call : CommandCall} {cmd : Cdb} {hashes : List UInt8}
    {result : Except ErrMsg Bool} (hrun : Run (passwordCommand cmd hashes) trace result)
    (hchecks : call.ChecksPass trace) : call.StatusSound trace result := by
  obtain ⟨reply, rfl, hresult⟩ := run_passwordCommand hrun
  rw [CommandCall.StatusSound, hresult, allAccepted_singleton]
  exact (and_iff_left hchecks).symm

/-- Success of a function that reports no more than that it returned. -/
theorem succeeds_eq_ok_iff {outcome : Except ErrMsg α} :
    (outcome.map fun _ ↦ true) = .ok true ↔ ∃ value, outcome = .ok value := by
  cases outcome <;> simp [Except.map]

/-- Every call but one of `u3_partition_info` has a sound outcome. -/
theorem statusSound_of_ne (md5 : List UInt8 → Buffer 16) {call : CommandCall}
    (hcall : call ≠ .partitionInfo) {result : Except ErrMsg Bool}
    (hrun : Run (call.run md5) trace result) : call.StatusSound trace result := by
  cases call with
  | readDeviceProperty propertyId bufferLength buffer =>
    obtain ⟨outcome, houtcome, rfl⟩ := run_succeeds.mp hrun
    have hreturns := returns_u3ReadDeviceProperty_iff houtcome
    rw [UInt16.ofNat_toNat, UInt16.not_lt, UInt16.not_lt] at hreturns
    rw [CommandCall.StatusSound, succeeds_eq_ok_iff, hreturns]
    rfl
  | partition cdSize stack =>
    obtain ⟨outcome, houtcome, rfl⟩ := run_succeeds.mp hrun
    rw [CommandCall.StatusSound, succeeds_eq_ok_iff, returns_u3Partition_iff houtcome]
    rfl
  | cdWrite blockNum block =>
    exact statusSound_of_faithful ((Faithful.deviceCommand _ _ _ _).bind fun _ ↦ .done _) hrun
      trivial
  | partitionSectorRound direction size roundedSize =>
    exact statusSound_of_faithful (faithful_u3PartitionSectorRound _ _ _) hrun trivial
  | securitySectorRound direction size roundedSize =>
    exact statusSound_of_faithful (faithful_u3SecuritySectorRound _ _ _) hrun trivial
  | partitionInfo => exact absurd rfl hcall
  | dataPartitionInfo => exact statusSound_of_faithful faithful_u3DataPartitionInfo hrun trivial
  | chipInfo =>
    exact statusSound_of_faithful ((Faithful.deviceCommand _ _ _ _).bind fun _ ↦ .done _) hrun
      trivial
  | reset =>
    exact statusSound_of_faithful ((Faithful.deviceCommand _ _ _ _).bind fun _ ↦ .done _) hrun
      trivial
  | enableSecurity password roundedSize =>
    exact statusSound_of_faithful (faithful_u3EnableSecurity md5 _ _) hrun trivial
  | disableSecurity password => exact statusSound_of_passwordCommand hrun trivial
  | unlock password => exact statusSound_of_passwordCommand hrun trivial
  | changePassword oldPassword newPassword => exact statusSound_of_passwordCommand hrun trivial

/-- Every call of every function that talks to the device reports success exactly when all its
commands were accepted and its checks passed, if and only if it is not a call of
`u3_partition_info` whose first read is refused, announces two partitions, and is followed by an
accepted second read. -/
theorem commandCall_statusSound_iff (md5 : List UInt8 → Buffer 16) (call : CommandCall)
    {result : Except ErrMsg Bool} (hrun : Run (call.run md5) trace result) :
    call.StatusSound trace result ↔ ¬ call.Masked trace := by
  by_cases hcall : call = .partitionInfo
  · subst hcall
    obtain ⟨outcome, houtcome, rfl⟩ := run_succeeds.mp hrun
    have hsound : CommandCall.partitionInfo.StatusSound trace (outcome.map fun _ ↦ true) ↔
        ((∃ info, outcome = .ok info) ↔ AllAccepted trace) := by
      rw [CommandCall.StatusSound, succeeds_eq_ok_iff]
      exact iff_congr Iff.rfl (and_iff_left trivial)
    rw [hsound]
    rcases run_u3PartitionInfo houtcome with
      ⟨reply, rfl, hreturns⟩ | ⟨status, data, reply, rfl, hcount, hreturns⟩
    · simp [hreturns, CommandCall.Masked]
    · rw [hreturns]
      simp only [AllAccepted, List.forall_mem_cons, accepted_success, List.not_mem_nil,
        false_imp_iff, implies_true, and_true, iff_and_self]
      constructor
      · rintro hmasks ⟨-, _, _, status', data', reply', htrace, -, hstatus, haccepted⟩
        obtain ⟨hfirst, hrest⟩ := List.cons.inj htrace
        obtain ⟨hsecond, -⟩ := List.cons.inj hrest
        obtain ⟨-, hreply⟩ := Event.mk.inj hfirst
        obtain ⟨-, hreply'⟩ := Event.mk.inj hsecond
        obtain ⟨rfl, -⟩ := CmdReply.success.inj (eq_of_heq hreply)
        obtain rfl := eq_of_heq hreply'
        exact hstatus (hmasks haccepted)
      · intro hunmasked haccepted
        by_contra hstatus
        exact hunmasked ⟨rfl, _, _, status, data, reply, rfl, hcount, hstatus, haccepted⟩
  · exact iff_of_true (statusSound_of_ne md5 hcall hrun) fun hmasked ↦ hcall hmasked.1

/-- A device that refuses the first read of the partition information and accepts the second. -/
def refusingFirst : Surroundings Scsi Unit := fun _ request ↦
  if request.length = 9 then (.success 1 [2], ()) else (.success 0 [2], ())

/-- An enabling of security with that device, which takes three commands. -/
def enableRefusingFirst : Execution Scsi ErrMsg Bool Unit :=
  exec refusingFirst
    ((CommandCall.enableSecurity (ascii "a") (.fill 4 0)).run fun _ ↦ .fill 16 0) ()

theorem commandCall_statusSound_iff_witness :
    (enableRefusingFirst.trace.map fun event ↦ event.request.command) = [0xA0, 0xA3, 0xA2] ∧
      enableRefusingFirst.result = .ok true ∧
      ((CommandCall.enableSecurity (ascii "a") (.fill 4 0)).StatusSound enableRefusingFirst.trace
          enableRefusingFirst.result ↔
        ¬ (CommandCall.enableSecurity (ascii "a") (.fill 4 0)).Masked
          enableRefusingFirst.trace) :=
  ⟨by decide +kernel, by decide +kernel, commandCall_statusSound_iff (fun _ ↦ .fill 16 0)
    (.enableSecurity (ascii "a") (.fill 4 0)) (run_exec _ _ _)⟩

/-- `u3_partition_info` reports success on that device, although its first read was refused. -/
theorem u3PartitionInfo_masks_refusal :
    (exec refusingFirst (CommandCall.partitionInfo.run fun _ ↦ .fill 16 0) ()).result = .ok true ∧
      ¬ CommandCall.partitionInfo.StatusSound
        (exec refusingFirst (CommandCall.partitionInfo.run fun _ ↦ .fill 16 0) ()).trace
        (exec refusingFirst (CommandCall.partitionInfo.run fun _ ↦ .fill 16 0) ()).result := by
  refine ⟨by decide +kernel, fun hsound ↦ ?_⟩
  have hall : AllAccepted
      (exec refusingFirst (CommandCall.partitionInfo.run fun _ ↦ .fill 16 0) ()).trace :=
    (hsound.mp (by decide +kernel)).1
  obtain ⟨data, hreply⟩ := hall _ (List.mem_cons_self ..)
  exact absurd (CmdReply.success.inj hreply).1 (by decide)

end U3Tool
