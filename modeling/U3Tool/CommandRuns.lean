import U3Tool.Commands

/-!
# Runs of the command layer

One inversion rule for each function of `Commands`: what a run of it sends, what it was answered,
and what it returns. `run_u3SendCmd_bind` runs one command at the head of a sequence, the rules for
the functions follow from it, and the proofs about their callers use the rules and never open the
functions again.

`IsQuery` says of a program that it sends no device-changing command and that it returns only when
every command it sent was accepted. It is closed under sequencing, and every reading function of
the command layer has it.
-/

set_option autoImplicit false
set_option relaxedAutoImplicit false

namespace U3Tool

open Interaction Bytes Program

variable {α β : Type} {size : ℕ} {trace : List (Event Scsi)}

/-! ### One command -/

/-- A sequence that begins with a command either ends with the failure of the transport, or goes on
with the status and the bytes received. -/
theorem run_u3SendCmd_bind {cmd : Cdb} {direction : DataDirection} {length : ℕ} {data : List UInt8}
    {continuation : UInt8 × List UInt8 → Command α} {result : Except ErrMsg α} :
    Run (u3SendCmd cmd direction length data >>= continuation) trace result ↔
      (∃ error, trace = [⟨⟨cmd, direction, length, data⟩, .failure error⟩] ∧
          result = .error error) ∨
        ∃ status received rest,
          trace = ⟨⟨cmd, direction, length, data⟩, .success status received⟩ :: rest ∧
            Run (continuation (status, received.take length)) rest result := by
  rw [u3SendCmd, ask_bind, run_ask]
  constructor
  · rintro ⟨reply, rest, rfl, hrest⟩
    cases reply with
    | failure error =>
      obtain ⟨rfl, rfl⟩ := run_fail.mp hrest
      exact Or.inl ⟨error, rfl, rfl⟩
    | success status received => exact Or.inr ⟨status, received, rest, rfl, hrest⟩
  · rintro (⟨error, rfl, rfl⟩ | ⟨status, received, rest, rfl, hrest⟩)
    · exact ⟨.failure error, [], rfl, .fail error⟩
    · exact ⟨.success status received, rest, rfl, hrest⟩

/-- Executing a sequence that begins with a command the surroundings carry out. -/
theorem exec_u3SendCmd_bind {σ : Type} {env : Surroundings Scsi σ} {state next : σ} {cmd : Cdb}
    {direction : DataDirection} {length : ℕ} {data received : List UInt8} {status : UInt8}
    (hreply : env state ⟨cmd, direction, length, data⟩ = (.success status received, next))
    (continuation : UInt8 × List UInt8 → Command α) :
    exec env (u3SendCmd cmd direction length data >>= continuation) state =
      ⟨(exec env (continuation (status, received.take length)) next).result,
        ⟨⟨cmd, direction, length, data⟩, .success status received⟩ ::
          (exec env (continuation (status, received.take length)) next).trace,
        (exec env (continuation (status, received.take length)) next).final⟩ := by
  rw [u3SendCmd, ask_bind, exec_ask, hreply]
  rfl

/-- One command asks one request. -/
theorem asks_u3SendCmd {kind : CmdRequest → Prop} {cmd : Cdb} {direction : DataDirection}
    {length : ℕ} {data : List UInt8} (hrequest : kind ⟨cmd, direction, length, data⟩) :
    Asks kind (u3SendCmd cmd direction length data) :=
  Asks.ask hrequest fun reply ↦ by
    cases reply with
    | failure error => exact .fail error
    | success status received => exact .done _

@[simp] theorem accepted_failure (error : ErrMsg) : ¬ (CmdReply.failure error).Accepted := by
  simp [CmdReply.Accepted]

@[simp] theorem accepted_success (status : UInt8) (data : List UInt8) :
    (CmdReply.success status data).Accepted ↔ status = 0 := by
  simp [CmdReply.Accepted]

/-- The test of a status at the end of a function. -/
theorem run_testStatus {status : UInt8} {error : ErrMsg} {value : α} {result : Except ErrMsg α}
    (hrun : Run (if status ≠ 0 then .fail error else .done value : Command α) trace result) :
    trace = [] ∧ ((∃ value, result = .ok value) ↔ status = 0) := by
  split_ifs at hrun with hstatus
  · obtain ⟨rfl, rfl⟩ := run_fail.mp hrun
    simp [hstatus]
  · obtain ⟨rfl, rfl⟩ := run_done.mp hrun
    simp [not_not.mp hstatus]

/-- What a caller of `deviceCommand` gets for a reply. -/
def CmdReply.result (length : ℕ) : CmdReply → Except ErrMsg (List UInt8)
  | .failure error => .error error
  | .success status received =>
    if status ≠ 0 then
      .error (u3SetError s!"Device reported command failed: status {status.toNat}")
    else .ok (received.take length)

/-- A checked command is one event, and its result depends on the reply alone. -/
theorem run_deviceCommand {cmd : Cdb} {direction : DataDirection} {length : ℕ} {data : List UInt8}
    {result : Except ErrMsg (List UInt8)} :
    Run (deviceCommand cmd direction length data) trace result ↔
      ∃ reply : CmdReply, trace = [⟨⟨cmd, direction, length, data⟩, reply⟩] ∧
        result = reply.result length := by
  simp only [deviceCommand, run_u3SendCmd_bind]
  constructor
  · rintro (⟨error, rfl, rfl⟩ | ⟨status, received, rest, rfl, hrest⟩)
    · exact ⟨.failure error, rfl, rfl⟩
    · refine ⟨.success status received, ?_⟩
      simp only [CmdReply.result]
      split_ifs at hrest ⊢ with hstatus
      · obtain ⟨rfl, rfl⟩ := run_fail.mp hrest
        exact ⟨rfl, rfl⟩
      · obtain ⟨rfl, rfl⟩ := run_done.mp hrest
        exact ⟨rfl, rfl⟩
  · rintro ⟨reply, rfl, rfl⟩
    cases reply with
    | failure error => exact Or.inl ⟨error, rfl, rfl⟩
    | success status received =>
      refine Or.inr ⟨status, received, [], rfl, ?_⟩
      simp only [CmdReply.result]
      split_ifs with hstatus
      · exact .fail _
      · exact .done _

/-- A checked command returns exactly when its reply accepts it, and then returns the bytes
received. -/
theorem result_eq_ok_iff {reply : CmdReply} {length : ℕ} {received : List UInt8} :
    reply.result length = .ok received ↔
      ∃ data, reply = .success 0 data ∧ received = data.take length := by
  cases reply with
  | failure error => simp [CmdReply.result]
  | success status data =>
    by_cases hstatus : status = 0
    · simp [CmdReply.result, hstatus, eq_comm]
    · simp [CmdReply.result, hstatus]

/-- A checked command that returns was accepted. -/
theorem accepted_of_result_eq_ok {reply : CmdReply} {length : ℕ} {received : List UInt8}
    (hresult : reply.result length = .ok received) : reply.Accepted :=
  let ⟨data, hreply, _⟩ := result_eq_ok_iff.mp hresult
  ⟨data, hreply⟩

/-- An accepted checked command returns. -/
theorem CmdReply.Accepted.result_eq_ok {reply : CmdReply} (haccepted : reply.Accepted)
    (length : ℕ) : ∃ received, reply.result length = .ok received := by
  obtain ⟨data, rfl⟩ := haccepted
  exact ⟨data.take length, by simp [CmdReply.result]⟩

/-- A returning checked command is one accepted event. -/
theorem run_deviceCommand_ok {cmd : Cdb} {direction : DataDirection} {length : ℕ}
    {data received : List UInt8} :
    Run (deviceCommand cmd direction length data) trace (.ok received) ↔
      ∃ answer, trace = [⟨⟨cmd, direction, length, data⟩, .success 0 answer⟩] ∧
        received = answer.take length := by
  rw [run_deviceCommand]
  constructor
  · rintro ⟨reply, rfl, hresult⟩
    obtain ⟨answer, rfl, rfl⟩ := result_eq_ok_iff.mp hresult.symm
    exact ⟨answer, rfl, rfl⟩
  · rintro ⟨answer, rfl, rfl⟩
    exact ⟨.success 0 answer, rfl, by simp [CmdReply.result]⟩

/-- Executing a checked command the surroundings accept. -/
theorem exec_deviceCommand {σ : Type} {env : Surroundings Scsi σ} {state next : σ} {cmd : Cdb}
    {direction : DataDirection} {length : ℕ} {data received : List UInt8}
    (hreply : env state ⟨cmd, direction, length, data⟩ = (.success 0 received, next)) :
    exec env (deviceCommand cmd direction length data) state =
      ⟨.ok (received.take length), [⟨⟨cmd, direction, length, data⟩, .success 0 received⟩],
        next⟩ := by
  rw [deviceCommand, exec_u3SendCmd_bind hreply]
  rfl

/-! ### Queries -/

/-- A program that changes nothing on the device, and returns only when every command it sent was
accepted. -/
structure IsQuery (p : Command α) : Prop where
  not_changing : ∀ {trace : List (Event Scsi)} {result : Except ErrMsg α},
    Run p trace result → ∀ event ∈ trace, ¬ Changing event
  accepted : ∀ {trace : List (Event Scsi)} {value : α},
    Run p trace (.ok value) → ∀ event ∈ trace, event.reply.Accepted

namespace IsQuery

theorem done (value : α) : IsQuery (.done value : Command α) where
  not_changing h := by simp [(run_done.mp h).1]
  accepted h := by simp [(run_done.mp h).1]

theorem fail (error : ErrMsg) : IsQuery (.fail error : Command α) where
  not_changing h := by simp [(run_fail.mp h).1]
  accepted h := by simp [(run_fail.mp h).1]

/-- A sequence of queries is a query. -/
theorem bind {p : Command α} {continuation : α → Command β} (hp : IsQuery p)
    (hcontinuation : ∀ value, IsQuery (continuation value)) : IsQuery (p >>= continuation) where
  not_changing h event hevent := by
    rcases run_bind.mp h with ⟨error, -, herror⟩ | ⟨first, value, rest, rfl, hfirst, hrest⟩
    · exact hp.not_changing herror event hevent
    · rcases List.mem_append.mp hevent with hevent | hevent
      · exact hp.not_changing hfirst event hevent
      · exact (hcontinuation value).not_changing hrest event hevent
  accepted h event hevent := by
    obtain ⟨first, value, rest, rfl, hfirst, hrest⟩ := run_bind_ok.mp h
    rcases List.mem_append.mp hevent with hevent | hevent
    · exact hp.accepted hfirst event hevent
    · exact (hcontinuation value).accepted hrest event hevent

/-- A query whose error is changed is a query. -/
theorem mapError {p : Command α} (hp : IsQuery p) (f : ErrMsg → ErrMsg) :
    IsQuery (p.mapError f) where
  not_changing h event hevent := by
    obtain ⟨outcome, -, hrun⟩ := run_mapError.mp h
    exact hp.not_changing hrun event hevent
  accepted h event hevent := hp.accepted (run_mapError_ok.mp h) event hevent

/-- A checked command is a query when its command code is not a device-changing one. -/
theorem deviceCommand {cmd : Cdb} {direction : DataDirection} {length : ℕ} {data : List UInt8}
    (hcmd : cmd.word16 1 ∉ deviceChanging) :
    IsQuery (U3Tool.deviceCommand cmd direction length data) where
  not_changing h := by
    obtain ⟨reply, rfl, -⟩ := run_deviceCommand.mp h
    simpa [Changing, CmdRequest.command] using hcmd
  accepted h := by
    obtain ⟨answer, rfl, -⟩ := run_deviceCommand_ok.mp h
    simp [CmdReply.Accepted]

end IsQuery

theorem isQuery_u3DataPartitionInfo : IsQuery u3DataPartitionInfo :=
  IsQuery.bind (IsQuery.deviceCommand (by decide)) fun _ ↦ .done _

theorem isQuery_u3ChipInfo : IsQuery u3ChipInfo :=
  IsQuery.bind (IsQuery.deviceCommand (by decide)) fun _ ↦ .done _

/-! ### Rounding -/

/-- The call that asks for a rounded partition size. -/
def partitionRoundRequest (direction : RoundDir) (size : UInt32) : CmdRequest where
  cmd := roundCommand partitionRoundCommand direction size
  direction := .fromDev
  length := 4
  data := []

/-- A rounding command block keeps the command code it is built on. -/
theorem word16_roundCommand (cmd : Cdb) (direction : RoundDir) (size : UInt32) :
    (roundCommand cmd direction size).word16 1 = cmd.word16 1 := by
  obtain ⟨bytes, hbytes⟩ := cmd
  match bytes, hbytes with
  | [_, _, _, _, _, _, _, _, _, _, _, _], _ => rfl

/-- The size to round travels in bytes 4 to 7, least significant first. -/
theorem slice_roundCommand (cmd : Cdb) (direction : RoundDir) (size : UInt32) :
    (roundCommand cmd direction size).slice 4 4 = leBytes 4 size.toNat := by
  obtain ⟨bytes, hbytes⟩ := cmd
  match bytes, hbytes with
  | [_, _, _, _, _, _, _, _, _, _, _, _], _ => rfl

/-- The direction of a rounding travels in byte 8. -/
theorem slice_roundCommand_direction (cmd : Cdb) (direction : RoundDir) (size : UInt32) :
    (roundCommand cmd direction size).slice 8 1 = [direction.toByte] := by
  obtain ⟨bytes, hbytes⟩ := cmd
  match bytes, hbytes with
  | [_, _, _, _, _, _, _, _, _, _, _, _], _ => rfl

/-- A rounding call tells its direction and its size. -/
theorem partitionRoundRequest_inj {direction direction' : RoundDir} {size size' : UInt32} :
    partitionRoundRequest direction size = partitionRoundRequest direction' size' ↔
      direction = direction' ∧ size = size' := by
  constructor
  · intro heq
    have hcmd := congrArg CmdRequest.cmd heq
    have hsize := congrArg (fun cmd ↦ cmd.slice 4 4) hcmd
    have hdirection := congrArg (fun cmd ↦ cmd.slice 8 1) hcmd
    simp only [partitionRoundRequest, slice_roundCommand] at hsize
    simp only [partitionRoundRequest, slice_roundCommand_direction] at hdirection
    refine ⟨?_, leBytes_injective hsize⟩
    cases direction <;> cases direction' <;> simp [RoundDir.toByte] at hdirection ⊢
  · rintro ⟨rfl, rfl⟩
    rfl

theorem isQuery_u3PartitionSectorRound (direction : RoundDir) (size : UInt32)
    (roundedSize : Buffer 4) : IsQuery (u3PartitionSectorRound direction size roundedSize) :=
  IsQuery.bind (IsQuery.deviceCommand (by rw [word16_roundCommand]; decide)) fun _ ↦ .done _

theorem isQuery_u3SecuritySectorRound (direction : RoundDir) (size : UInt32)
    (roundedSize : Buffer 4) : IsQuery (u3SecuritySectorRound direction size roundedSize) :=
  IsQuery.bind (IsQuery.deviceCommand (by rw [word16_roundCommand]; decide)) fun _ ↦ .done _

/-- A returning rounding call: one accepted event, whose bytes overlay the local variable. -/
theorem run_u3PartitionSectorRound_ok {direction : RoundDir} {size rounded : UInt32}
    {roundedSize : Buffer 4} :
    Run (u3PartitionSectorRound direction size roundedSize) trace (.ok rounded) ↔
      ∃ answer, trace = [⟨partitionRoundRequest direction size, .success 0 answer⟩] ∧
        rounded = (roundedSize.store 0 (answer.take 4)).word32 0 := by
  simp only [u3PartitionSectorRound, run_bind_ok, run_deviceCommand_ok, run_done]
  constructor
  · rintro ⟨_, _, rest, rfl, ⟨answer, rfl, rfl⟩, rfl, hvalue⟩
    exact ⟨answer, rfl, Except.ok.inj hvalue⟩
  · rintro ⟨answer, rfl, rfl⟩
    exact ⟨_, _, [], rfl, ⟨answer, rfl, rfl⟩, rfl, rfl⟩

/-! ### Property pages -/

/-- The call that reads a number of bytes of a property page. -/
def propertyRequest (propertyId length : UInt16) : CmdRequest where
  cmd := propertyCommand propertyId length
  direction := .fromDev
  length := length.toNat
  data := []

/-- A property read keeps command code 0x00. -/
theorem word16_propertyCommand (propertyId length : UInt16) :
    (propertyCommand propertyId length).word16 1 = 0 := rfl

/-- A property read tells its length. -/
theorem propertyRequest_inj {propertyId length length' : UInt16} :
    propertyRequest propertyId length = propertyRequest propertyId length' ↔ length = length' :=
  ⟨fun heq ↦ UInt16.toNat_inj.mp (congrArg CmdRequest.length heq), fun heq ↦ heq ▸ rfl⟩

/-- A property read is no rounding call. -/
theorem partitionRoundRequest_ne_propertyRequest {direction : RoundDir} {size : UInt32}
    {propertyId length : UInt16} :
    partitionRoundRequest direction size ≠ propertyRequest propertyId length := by
  intro heq
  have hcommand := congrArg CmdRequest.command heq
  simp only [CmdRequest.command, partitionRoundRequest, word16_roundCommand, propertyRequest,
    word16_propertyCommand] at hcommand
  exact absurd hcommand (by decide)

/-- The buffer after the header read. -/
def headerRead (buffer : Buffer size) (header : List UInt8) : Buffer size :=
  buffer.store 0 (header.take propertyHeaderSize.toNat)

/-- The buffer after the full read. -/
def pageRead (buffer : Buffer size) (header body : List UInt8) : Buffer size :=
  (headerRead buffer header).store 0 (body.take (pageLength (headerRead buffer header)).toNat)

/-- A run of the full read is one event, and it returns exactly when that is accepted. -/
theorem run_readFullProperty {propertyId : UInt16} {buffer : Buffer size}
    {result : Except ErrMsg (Buffer size)}
    (hrun : Run (readFullProperty propertyId buffer) trace result) :
    ∃ reply : CmdReply, trace = [⟨propertyRequest propertyId (pageLength buffer), reply⟩] ∧
      ((∃ page, result = .ok page) ↔ reply.Accepted) := by
  rcases run_u3SendCmd_bind.mp hrun with ⟨error, rfl, rfl⟩ | ⟨status, page, rest, rfl, hrest⟩
  · exact ⟨_, rfl, by simp⟩
  · obtain ⟨rfl, hresult⟩ := run_testStatus hrest
    exact ⟨.success status page, rfl, by simpa using hresult⟩

/-- A returning full read was accepted, and its bytes overlay the buffer. -/
theorem run_readFullProperty_ok {propertyId : UInt16} {buffer page : Buffer size} :
    Run (readFullProperty propertyId buffer) trace (.ok page) ↔
      ∃ body, trace = [⟨propertyRequest propertyId (pageLength buffer), .success 0 body⟩] ∧
        page = buffer.store 0 (body.take (pageLength buffer).toNat) := by
  simp only [readFullProperty, run_u3SendCmd_bind]
  constructor
  · rintro (⟨error, -, hcontra⟩ | ⟨status, body, rest, rfl, hrest⟩)
    · exact absurd hcontra (by simp)
    · split_ifs at hrest with hstatus
      · exact absurd (run_fail.mp hrest).2 (by simp)
      · obtain ⟨rfl, hpage⟩ := run_done.mp hrest
        obtain rfl : status = 0 := not_not.mp hstatus
        exact ⟨body, rfl, Except.ok.inj hpage⟩
  · rintro ⟨body, rfl, rfl⟩
    refine Or.inr ⟨0, body, [], rfl, ?_⟩
    rw [if_neg (by simp)]
    exact .done _

/-- A run of a property read stops at a buffer that is too small or at a header that is refused or
announces less than itself; or it is the header read, accepted and announcing at least the header,
followed by the full read. -/
theorem run_u3ReadDeviceProperty {propertyId : UInt16} {buffer : Buffer size}
    {result : Except ErrMsg (Buffer size)}
    (hrun : Run (u3ReadDeviceProperty propertyId buffer) trace result) :
    (∃ error, result = .error error ∧ (UInt16.ofNat size < 6 ∧ trace = [] ∨
        ∃ reply : CmdReply, trace = [⟨propertyRequest propertyId propertyHeaderSize, reply⟩] ∧
          (reply.Accepted → hdrLength (headerRead buffer reply.data) < propertyHeaderSize))) ∨
      ¬ UInt16.ofNat size < 6 ∧ ∃ header rest,
        trace = ⟨propertyRequest propertyId propertyHeaderSize, .success 0 header⟩ :: rest ∧
        ¬ hdrLength (headerRead buffer header) < propertyHeaderSize ∧
        Run (readFullProperty propertyId (headerRead buffer header)) rest result := by
  unfold u3ReadDeviceProperty at hrun
  dsimp only at hrun
  split_ifs at hrun with hsmall
  · obtain ⟨rfl, rfl⟩ := run_fail.mp hrun
    exact Or.inl ⟨_, rfl, Or.inl ⟨hsmall, rfl⟩⟩
  · rcases run_u3SendCmd_bind.mp hrun with ⟨error, rfl, rfl⟩ | ⟨status, header, rest, rfl, hrest⟩
    · exact Or.inl ⟨error, rfl, Or.inr ⟨_, rfl, by simp⟩⟩
    · dsimp only at hrest
      split_ifs at hrest with hstatus hshort
      · obtain ⟨rfl, rfl⟩ := run_fail.mp hrest
        exact Or.inl ⟨_, rfl, Or.inr ⟨_, rfl, by simp [hstatus]⟩⟩
      · obtain ⟨rfl, rfl⟩ := run_fail.mp hrest
        exact Or.inl ⟨_, rfl, Or.inr ⟨_, rfl, fun _ ↦ hshort⟩⟩
      · obtain rfl : status = 0 := not_not.mp hstatus
        exact Or.inr ⟨hsmall, header, rest, rfl, hshort, hrest⟩

/-- A returning property read: the header read and the full read, both accepted, with a header that
announces at least itself. Nothing is asked of the header the full read returns. -/
theorem run_u3ReadDeviceProperty_ok {propertyId : UInt16} {buffer page : Buffer size} :
    Run (u3ReadDeviceProperty propertyId buffer) trace (.ok page) ↔
      ¬ UInt16.ofNat size < 6 ∧ ∃ header body,
        trace = [⟨propertyRequest propertyId propertyHeaderSize, .success 0 header⟩,
          ⟨propertyRequest propertyId (pageLength (headerRead buffer header)), .success 0 body⟩] ∧
        ¬ hdrLength (headerRead buffer header) < propertyHeaderSize ∧
        page = pageRead buffer header body := by
  constructor
  · intro hrun
    rcases run_u3ReadDeviceProperty hrun with
      ⟨error, hcontra, -⟩ | ⟨hsmall, header, rest, rfl, hshort, hrest⟩
    · exact absurd hcontra (by simp)
    · obtain ⟨body, rfl, rfl⟩ := run_readFullProperty_ok.mp hrest
      exact ⟨hsmall, header, body, rfl, hshort, rfl⟩
  · rintro ⟨hsmall, header, body, rfl, hshort, rfl⟩
    unfold u3ReadDeviceProperty
    dsimp only
    rw [if_neg hsmall]
    refine run_u3SendCmd_bind.mpr (Or.inr ⟨0, header, _, rfl, ?_⟩)
    dsimp only
    rw [if_neg (by simp)]
    erw [if_neg hshort]
    exact run_readFullProperty_ok.mpr ⟨body, rfl, rfl⟩

/-- Executing a property read whose header and full read the surroundings both accept. -/
theorem exec_u3ReadDeviceProperty {σ : Type} {env : Surroundings Scsi σ} {state next last : σ}
    {propertyId : UInt16} {buffer : Buffer size} {header body : List UInt8}
    (hsmall : ¬ UInt16.ofNat size < 6)
    (hheader : env state (propertyRequest propertyId propertyHeaderSize) =
      (.success 0 header, next))
    (hlong : ¬ hdrLength (headerRead buffer header) < propertyHeaderSize)
    (hbody : env next (propertyRequest propertyId (pageLength (headerRead buffer header))) =
      (.success 0 body, last)) :
    exec env (u3ReadDeviceProperty propertyId buffer) state =
      ⟨.ok (pageRead buffer header body),
        [⟨propertyRequest propertyId propertyHeaderSize, .success 0 header⟩,
          ⟨propertyRequest propertyId (pageLength (headerRead buffer header)), .success 0 body⟩],
        last⟩ := by
  unfold u3ReadDeviceProperty
  dsimp only
  rw [if_neg hsmall, exec_u3SendCmd_bind hheader]
  dsimp only
  rw [if_neg (by simp)]
  erw [if_neg hlong]
  unfold readFullProperty
  dsimp only
  erw [exec_u3SendCmd_bind hbody]
  rfl

/-- Every command of a property read asks for a part of that page. -/
theorem request_of_run_u3ReadDeviceProperty {propertyId : UInt16} {buffer : Buffer size}
    {result : Except ErrMsg (Buffer size)}
    (hrun : Run (u3ReadDeviceProperty propertyId buffer) trace result) :
    ∀ event ∈ trace, ∃ length, event.request = propertyRequest propertyId length := by
  rcases run_u3ReadDeviceProperty hrun with
    ⟨error, -, ⟨-, rfl⟩ | ⟨reply, rfl, -⟩⟩ | ⟨-, header, rest, rfl, -, hrest⟩
  · simp
  · simp
  · obtain ⟨reply, rfl, -⟩ := run_readFullProperty hrest
    simp

theorem isQuery_u3ReadDeviceProperty (propertyId : UInt16) (buffer : Buffer size) :
    IsQuery (u3ReadDeviceProperty propertyId buffer) where
  not_changing h event hevent := by
    obtain ⟨length, hrequest⟩ := request_of_run_u3ReadDeviceProperty h event hevent
    rw [Changing, hrequest, CmdRequest.command, propertyRequest, word16_propertyCommand]
    decide
  accepted h := by
    obtain ⟨-, header, body, rfl, -, -⟩ := run_u3ReadDeviceProperty_ok.mp h
    simp [CmdReply.Accepted]

/-! ### CD blocks -/

/-- The block number travels big-endian in bytes 4 to 7. -/
theorem slice_cdWriteCommand (blockNum : UInt32) :
    (cdWriteCommand blockNum).slice 4 4 = (leBytes 4 blockNum.toNat).reverse := rfl

/-! ### Partition information -/

/-- A command block that holds the opcode, a command code and nothing else. -/
def plainCommand (code : UInt16) : Cdb :=
  ((Buffer.fill 12 0).store 0 [0xff]).store 1 (leBytes 2 code.toNat)

/-- The call that reads a number of bytes of the partition information. -/
def partitionInfoRequest (length : ℕ) : CmdRequest where
  cmd := plainCommand 0x21
  direction := .fromDev
  length := length
  data := []

/-- The first read announces two partitions when the first byte received is 2. -/
theorem head?_of_partitionCount {data : List UInt8}
    (hcount : (PartInfo.decode ((Buffer.fill 17 0).store 0 (data.take 9))).partitionCount = 2) :
    data.head? = some 2 := by
  cases data with
  | nil => exact absurd hcount (by decide)
  | cons first rest => exact congrArg some hcount

/-- A run of `u3_partition_info` is one read, or two reads of which the first announces two
partitions; it returns exactly when the last one is accepted. -/
theorem run_u3PartitionInfo {result : Except ErrMsg PartInfo}
    (hrun : Run u3PartitionInfo trace result) :
    (∃ reply : CmdReply, trace = [⟨partitionInfoRequest 9, reply⟩] ∧
        ((∃ info, result = .ok info) ↔ reply.Accepted)) ∨
      ∃ status data, ∃ reply : CmdReply,
        trace = [⟨partitionInfoRequest 9, .success status data⟩,
          ⟨partitionInfoRequest 16, reply⟩] ∧ data.head? = some 2 ∧
          ((∃ info, result = .ok info) ↔ reply.Accepted) := by
  unfold u3PartitionInfo at hrun
  rcases run_u3SendCmd_bind.mp hrun with ⟨error, rfl, rfl⟩ | ⟨status, data, rest, rfl, hrest⟩
  · exact Or.inl ⟨_, rfl, by simp⟩
  · dsimp only at hrest
    split_ifs at hrest with hcount
    · refine Or.inr ⟨status, data, ?_⟩
      rcases run_u3SendCmd_bind.mp hrest with
        ⟨error, rfl, rfl⟩ | ⟨status', data', last, rfl, hlast⟩
      · exact ⟨_, rfl, head?_of_partitionCount hcount, by simp⟩
      · rw [done_bind] at hlast
        obtain ⟨rfl, hresult⟩ := run_testStatus hlast
        exact ⟨.success status' data', rfl, head?_of_partitionCount hcount, by simpa using hresult⟩
    · rw [done_bind] at hrest
      obtain ⟨rfl, hresult⟩ := run_testStatus hrest
      exact Or.inl ⟨.success status data, rfl, by simpa using hresult⟩

/-- `u3_partition_info` sends nothing but command 0x21. -/
theorem asks_u3PartitionInfo :
    Asks (fun request : CmdRequest ↦ request.command = 0x21) u3PartitionInfo := by
  unfold u3PartitionInfo
  refine Asks.bind (asks_u3SendCmd (by rfl)) fun first ↦ ?_
  dsimp only [done_bind]
  split_ifs
  · refine Asks.bind (asks_u3SendCmd (by rfl)) fun second ↦ ?_
    split_ifs
    · exact .fail _
    · exact .done _
  · exact .fail _
  · exact .done _

end U3Tool
