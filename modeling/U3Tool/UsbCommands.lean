import U3Tool.UsbTransport
import U3Tool.Repartition

/-!
# Command sequences over USB

A command sequence over USB is the sequence with every `u3_send_cmd` carried out by `usbSendCmd`.
It runs here against a device that gives the same replies whatever it is sent (`scheduled`).
`sentBy` collects every byte string the run writes to the device; `returned` is the value it returns
and the number of the next request. What is sent is computed along the program (`sentBy_bind`): a
command with an incoming data phase takes three requests and goes on with the data when it is
accepted (`runFrom_u3SendCmd`), and the functions `u3_partition` calls follow.

What was proved of all runs over the device interface holds over USB: a run that no failed assertion
ends is a run over the interface whose calls `usbSendCmd` carries out
(`u3Partition_changesLast_over_usb`).
-/

set_option autoImplicit false
set_option relaxedAutoImplicit false

namespace U3Tool

open Interaction Bytes Program

variable {α β : Type}

/-! ### A device with given replies -/

/-- The reply to the request that comes in n-th, whichever it is: to a write the count or a negative
error, to a read the bytes or nothing. -/
structure Answers where
  write : ℕ → ℤ
  read : ℕ → Option (List UInt8)

/-- The device that gives these replies in order. -/
def scheduled (answers : Answers) : Surroundings Usb ℕ := fun n request ↦
  match request with
  | .bulkWrite _ => (answers.write n, n + 1)
  | .bulkRead _ => (answers.read n, n + 1)

/-- The bytes an event writes to the device. -/
def written (event : Event Usb) : Option (List UInt8) :=
  match event.request with
  | .bulkWrite data => some data
  | .bulkRead _ => none

/-- A command sequence over USB whose first request is the n-th. -/
def runFrom (answers : Answers) (n : ℕ) (p : Command α) :
    Execution Usb Abort (Except ErrMsg α) ℕ :=
  exec (scheduled answers) (p.interp usbSendCmd) n

/-- All byte strings a command sequence sends. -/
def sentBy (answers : Answers) (n : ℕ) (p : Command α) : List (List UInt8) :=
  (runFrom answers n p).trace.filterMap written

/-- The value a command sequence returns and the number of the request that comes next; nothing if
it fails or an assertion does. -/
def returned (answers : Answers) (n : ℕ) (p : Command α) : Option (α × ℕ) :=
  match (runFrom answers n p).result with
  | .ok (.ok value) => some (value, (runFrom answers n p).final)
  | _ => none

namespace Answers

variable (answers : Answers)

/-- The status in the n-th reply, if it is a command status wrapper with the tag of the command. -/
def status (n : ℕ) : Option UInt8 :=
  (answers.read n).bind fun bytes ↦
    if cswTag ((Buffer.fill 13 0).store 0 (bytes.take 13)) = cbwTag then
      some (cswStatus ((Buffer.fill 13 0).store 0 (bytes.take 13)))
    else none

/-- The data of a command with an incoming data phase whose first request is the n-th, if the
command is accepted: its wrapper is written, data and status are read, and the status is zero. -/
def received (n length : ℕ) : Option (List UInt8) :=
  if answers.write n = 31 ∧ answers.status (n + 2) = some 0 then
    (answers.read (n + 1)).map fun data ↦ data.take length
  else none

variable {answers}

theorem length_le_of_received {n length : ℕ} {data : List UInt8}
    (hreceived : answers.received n length = some data) : data.length ≤ length := by
  unfold received at hreceived
  split_ifs at hreceived
  obtain ⟨bytes, -, rfl⟩ := Option.map_eq_some_iff.mp hreceived
  exact List.length_take_le _ _

end Answers

variable {answers : Answers} {n : ℕ}

/-- The end of a command: it is accepted when its status is zero. -/
theorem exec_readStatus_scheduled (answers : Answers) (n : ℕ) (received : List UInt8) :
    (exec (scheduled answers) (readStatus received) n).trace.filterMap written = [] ∧
      (exec (scheduled answers) (readStatus received) n).final = n + 1 ∧
      ∀ status data, (exec (scheduled answers) (readStatus received) n).result =
        .ok (.success status data) ↔ answers.status n = some status ∧ data = received := by
  have hdevice : scheduled answers n (.bulkRead 13) = (answers.read n, n + 1) := rfl
  rw [readStatus, exec_bulkRead hdevice, Answers.status]
  cases hread : answers.read n with
  | none => exact ⟨rfl, rfl, fun _ _ ↦ by simp⟩
  | some bytes =>
    simp only [Option.map_some, Option.bind_some]
    by_cases htag : cswTag ((Buffer.fill 13 0).store 0 (bytes.take 13)) = cbwTag
    · rw [if_neg (not_not.mpr htag), if_pos htag]
      exact ⟨rfl, rfl, fun status data ↦ by simp [eq_comm]⟩
    · rw [if_pos htag, if_neg htag]
      exact ⟨rfl, rfl, fun status data ↦ by simp⟩

/-- One command with an incoming data phase: its wrapper is sent, and when the command is accepted
the next request is the third after it. -/
theorem exec_usbSendCmd_scheduled (answers : Answers) (n : ℕ) {request : CmdRequest}
    (hdirection : request.direction = .fromDev) :
    (exec (scheduled answers) (usbSendCmd request) n).trace.filterMap written = [cbw request] ∧
      (∀ data, (exec (scheduled answers) (usbSendCmd request) n).result =
        .ok (.success 0 data) ↔ answers.received n request.length = some data) ∧
      ∀ data, answers.received n request.length = some data →
        (exec (scheduled answers) (usbSendCmd request) n).final = n + 3 := by
  have hlength : request.dxferLength = request.length := by
    rw [CmdRequest.dxferLength, hdirection]
  have hwrite : scheduled answers n (.bulkWrite (cbw request)) = (answers.write n, n + 1) := rfl
  have hread : scheduled answers (n + 1) (.bulkRead request.length) =
      (answers.read (n + 1), n + 2) := rfl
  rw [usbSendCmd_of_eq hdirection, exec_bulkWrite hwrite, hlength, Answers.received]
  by_cases hres : answers.write n = 31
  · rw [if_neg (not_not.mpr hres), readData, exec_bulkRead hread]
    cases hdata : answers.read (n + 1) with
    | none => exact ⟨rfl, fun data ↦ by simp, fun data hcontra ↦ absurd hcontra (by simp)⟩
    | some bytes =>
      obtain ⟨htrace, hfinal, hresult⟩ := exec_readStatus_scheduled answers (n + 2)
        (bytes.take request.length)
      refine ⟨congrArg (cbw request :: ·) htrace, fun data ↦ (hresult 0 data).trans ?_,
        fun _ _ ↦ hfinal⟩
      simp [hres, eq_comm]
  · rw [if_pos hres, if_neg fun hcontra ↦ hres hcontra.1]
    exact ⟨rfl, fun data ↦ by simp, fun data hcontra ↦ absurd hcontra (by simp)⟩

/-! ### Command sequences -/

@[simp] theorem sentBy_done (value : α) : sentBy answers n (.done value) = [] := rfl

@[simp] theorem sentBy_fail (error : ErrMsg) :
    sentBy answers n (.fail error : Command α) = [] := rfl

@[simp] theorem returned_done (value : α) :
    returned answers n (.done value) = some (value, n) := rfl

@[simp] theorem returned_fail (error : ErrMsg) :
    returned answers n (.fail error : Command α) = none := rfl

/-- A sequence sends what its first part sends and, when that returns, what the rest sends. -/
theorem sentBy_bind (p : Command α) (continuation : α → Command β) :
    sentBy answers n (p >>= continuation) = sentBy answers n p ++
      match returned answers n p with
      | some (value, next) => sentBy answers next (continuation value)
      | none => [] := by
  unfold sentBy returned runFrom
  rw [interp_bind]
  cases hresult : (exec (scheduled answers) (p.interp usbSendCmd) n).result with
  | error abort =>
    rw [exec_bind_error hresult]
    simp
  | ok outcome =>
    rw [exec_bind_ok hresult, List.filterMap_append]
    cases outcome <;> rfl

/-- A changed error changes nothing that is sent. -/
@[simp] theorem sentBy_mapError (f : ErrMsg → ErrMsg) (p : Command α) :
    sentBy answers n (p.mapError f) = sentBy answers n p := by
  unfold sentBy runFrom
  rw [interp_mapError]
  cases hresult : (exec (scheduled answers) (p.interp usbSendCmd) n).result with
  | error abort => rw [exec_bind_error hresult]
  | ok outcome =>
    rw [exec_bind_ok hresult]
    simp

/-- A changed error changes nothing that is returned. -/
@[simp] theorem returned_mapError (f : ErrMsg → ErrMsg) (p : Command α) :
    returned answers n (p.mapError f) = returned answers n p := by
  unfold returned runFrom
  rw [interp_mapError]
  cases hresult : (exec (scheduled answers) (p.interp usbSendCmd) n).result with
  | error abort => rw [exec_bind_error hresult]
  | ok outcome =>
    rw [exec_bind_ok hresult]
    cases outcome <;> rfl

/-! ### Commands with an incoming data phase -/

section Fetch

variable {p : Command α} {cmd : Cdb} {length : ℕ}
  {continuation : UInt8 × List UInt8 → Command α}

/-- A sequence that begins with a command with an incoming data phase and fails unless the status is
zero: it sends the command and goes on with the data when the command is accepted. -/
theorem runFrom_u3SendCmd (answers : Answers) (n : ℕ)
    (hp : p = u3SendCmd cmd .fromDev length [] >>= continuation)
    (hfail : ∀ status ≠ 0, ∀ data, ∃ error, continuation (status, data) = .fail error) :
    sentBy answers n p =
        cbw ⟨cmd, .fromDev, length, []⟩ ::
          (match answers.received n length with
          | some data => sentBy answers (n + 3) (continuation (0, data))
          | none => []) ∧
      returned answers n p =
        match answers.received n length with
        | some data => returned answers (n + 3) (continuation (0, data))
        | none => none := by
  let request : CmdRequest := ⟨cmd, .fromDev, length, []⟩
  obtain ⟨htrace, haccepted, hfinal⟩ := exec_usbSendCmd_scheduled answers n
    (show request.direction = .fromDev from rfl)
  unfold sentBy returned runFrom
  rw [hp, u3SendCmd, ask_bind, interp_ask]
  cases hreceived : answers.received n length with
  | some data =>
    have htake : data.take length = data :=
      List.take_of_length_le (Answers.length_le_of_received hreceived)
    rw [exec_bind_ok ((haccepted data).mpr hreceived), hfinal data hreceived,
      List.filterMap_append, htrace]
    simp only [done_bind, htake]
    exact ⟨rfl, trivial⟩
  | none =>
    cases hresult : (exec (scheduled answers) (usbSendCmd request) n).result with
    | error abort =>
      rw [exec_bind_error hresult, htrace]
      exact ⟨rfl, rfl⟩
    | ok reply =>
      rw [exec_bind_ok hresult, List.filterMap_append, htrace]
      cases reply with
      | failure error => exact ⟨rfl, rfl⟩
      | success status data =>
        have hstatus : status ≠ 0 := by
          rintro rfl
          exact absurd (((haccepted data).mp hresult).symm.trans hreceived) (by simp)
        obtain ⟨error, herror⟩ := hfail status hstatus (data.take length)
        simp only [done_bind, herror]
        exact ⟨rfl, rfl⟩

end Fetch

/-- A rounding call sends its command, and what arrives overlays the local variable. -/
theorem runFrom_u3PartitionSectorRound (answers : Answers) (n : ℕ) (direction : RoundDir)
    (size : UInt32) (roundedSize : Buffer 4) :
    sentBy answers n (u3PartitionSectorRound direction size roundedSize) =
        [cbw (partitionRoundRequest direction size)] ∧
      returned answers n (u3PartitionSectorRound direction size roundedSize) =
        (answers.received n 4).map fun data ↦ ((roundedSize.store 0 data).word32 0, n + 3) := by
  have hbind : u3PartitionSectorRound direction size roundedSize =
      u3SendCmd (partitionRoundRequest direction size).cmd .fromDev 4 [] >>= fun reply ↦
        if reply.1 ≠ 0 then
          .fail (u3SetError s!"Device reported command failed: status {reply.1.toNat}")
        else .done ((roundedSize.store 0 reply.2).word32 0) := by
    simp only [u3PartitionSectorRound, deviceCommand, bind_assoc']
    refine congrArg _ (funext fun reply ↦ ?_)
    split_ifs <;> rfl
  obtain ⟨hsent, hreturned⟩ := runFrom_u3SendCmd answers n hbind
    fun status hstatus data ↦ ⟨_, if_pos hstatus⟩
  rw [hsent, hreturned]
  cases answers.received n 4 <;> exact ⟨rfl, rfl⟩

/-- The full read of a property page. -/
theorem runFrom_readFullProperty (answers : Answers) (n : ℕ) (buffer : Property03) :
    sentBy answers n (readFullProperty 3 buffer) = [cbw (propertyRequest 3 (pageLength buffer))] ∧
      returned answers n (readFullProperty 3 buffer) =
        (answers.received n (pageLength buffer).toNat).map fun data ↦
          (buffer.store 0 data, n + 3) := by
  obtain ⟨hsent, hreturned⟩ := runFrom_u3SendCmd answers n
    (show readFullProperty 3 buffer = u3SendCmd _ .fromDev (pageLength buffer).toNat [] >>= _
      from rfl) fun status hstatus data ↦ ⟨_, if_pos hstatus⟩
  rw [hsent, hreturned]
  cases answers.received n (pageLength buffer).toNat <;> exact ⟨rfl, rfl⟩

/-- The property read: the header, then as much of the page as the header says. -/
theorem runFrom_readProperty03 (answers : Answers) (n : ℕ) (page : Property03) :
    sentBy answers n (readProperty03 page) = cbw (propertyRequest 3 propertyHeaderSize) ::
        (match answers.received n 6 with
        | some header =>
          if hdrLength (page.store 0 header) < propertyHeaderSize then []
          else [cbw (propertyRequest 3 (pageLength (page.store 0 header)))]
        | none => []) ∧
      returned answers n (readProperty03 page) =
        match answers.received n 6 with
        | some header =>
          if hdrLength (page.store 0 header) < propertyHeaderSize then none
          else (answers.received (n + 3) (pageLength (page.store 0 header)).toNat).map fun data ↦
            ((page.store 0 header).store 0 data, n + 6)
        | none => none := by
  obtain ⟨hsent, hreturned⟩ := runFrom_u3SendCmd answers n
    (show u3ReadDeviceProperty 3 page =
        u3SendCmd _ .fromDev propertyHeaderSize.toNat [] >>= _ from rfl)
    fun status hstatus data ↦ ⟨_, if_pos hstatus⟩
  have hsize : propertyHeaderSize.toNat = 6 := rfl
  rw [readProperty03, sentBy_mapError, returned_mapError, hsent, hreturned, hsize]
  cases answers.received n 6 with
  | none => exact ⟨rfl, rfl⟩
  | some header =>
    obtain ⟨hpage, hread⟩ := runFrom_readFullProperty answers (n + 3) (page.store 0 header)
    dsimp only
    rw [if_neg (show ¬ (0 : UInt8) ≠ 0 by decide)]
    split_ifs with hlength
    · exact ⟨rfl, rfl⟩
    · rw [hpage, hread]
      exact ⟨rfl, rfl⟩

/-- The outgoing data phase of a record is one write. -/
theorem exec_writeData_scheduled (answers : Answers) (n : ℕ) {data : List UInt8}
    (hlength : data.length = 17) :
    (exec (scheduled answers) (writeData data 17 0) n).trace.filterMap written = [data] ∧
      ∃ complete, (exec (scheduled answers) (writeData data 17 0) n).result = .ok complete := by
  have hwrite : scheduled answers n
      (.bulkWrite ((data.drop 0).take (min (17 - 0) usbMaxPacketLen))) =
        (answers.write n, n + 1) := rfl
  have hdata : (data.drop 0).take (min (17 - 0) usbMaxPacketLen) = data := by
    rw [List.drop_zero]
    exact List.take_of_length_le (by rw [hlength]; decide)
  rw [writeData, if_pos (by norm_num), exec_bulkWrite hwrite, hdata]
  split_ifs with hres
  · exact ⟨rfl, false, rfl⟩
  · rw [show 0 + min (17 - 0) usbMaxPacketLen = 17 from rfl, writeData, if_neg (by norm_num)]
    exact ⟨rfl, true, rfl⟩

/-- A command at the end of a sequence is all that the sequence sends. -/
theorem sentBy_ask_last {request : CmdRequest} {next : CmdReply → Command α}
    (hnext : ∀ reply, (∃ value, next reply = .done value) ∨ ∃ error, next reply = .fail error) :
    sentBy answers n (.ask request next) =
      (exec (scheduled answers) (usbSendCmd request) n).trace.filterMap written := by
  unfold sentBy runFrom
  rw [interp_ask]
  cases hresult : (exec (scheduled answers) (usbSendCmd request) n).result with
  | error abort => rw [exec_bind_error hresult]
  | ok reply =>
    rw [exec_bind_ok hresult, List.filterMap_append]
    rcases hnext reply with ⟨value, hvalue⟩ | ⟨error, herror⟩
    · rw [hvalue]
      exact List.append_nil _
    · rw [herror]
      exact List.append_nil _

/-- The end of `u3_partition`: the command block of the repartition is sent, and the record when the
block was written. -/
theorem sentBy_record (answers : Answers) (n : ℕ) (record : PartInfo) :
    sentBy answers n (deviceCommand partitionCommand .toDev 17 record.encode >>= fun _ ↦ .done ()) =
      cbw (recordRequest record) :: if answers.write n = 31 then [record.encode] else [] := by
  have hlength : record.encode.length = 17 := by simp [PartInfo.encode]
  have hwrite : scheduled answers n (.bulkWrite (cbw (recordRequest record))) =
      (answers.write n, n + 1) := rfl
  have hlast : sentBy answers n
      (deviceCommand partitionCommand .toDev 17 record.encode >>= fun _ ↦ .done ()) =
      (exec (scheduled answers) (usbSendCmd (recordRequest record)) n).trace.filterMap written := by
    refine sentBy_ask_last fun reply ↦ ?_
    cases reply with
    | failure error => exact Or.inr ⟨error, rfl⟩
    | success status data =>
      by_cases hstatus : status = 0
      · exact Or.inl ⟨(), by rw [hstatus]; rfl⟩
      · refine Or.inr
          ⟨u3SetError s!"Device reported command failed: status {status.toNat}", ?_⟩
        change (if status ≠ 0 then .fail _ else .done _ : Command _) >>= _ = _
        rw [if_pos hstatus, fail_bind]
  rw [hlast, usbSendCmd_of_ne (by simp [recordRequest]), exec_bulkWrite hwrite]
  by_cases hres : answers.write n = 31
  · rw [if_neg (not_not.mpr hres), if_pos hres]
    obtain ⟨htrace, complete, hresult⟩ := exec_writeData_scheduled answers (n + 1) hlength
    change cbw (recordRequest record) :: List.filterMap written (exec (scheduled answers)
      (writeData record.encode 17 0 >>= _) (n + 1)).trace = _
    rw [exec_bind_ok hresult, List.filterMap_append, htrace]
    cases complete with
    | false => rfl
    | true =>
      simp only [if_true, (exec_readStatus_scheduled answers _ []).1, List.append_nil]
  · rw [if_pos hres, if_neg hres]
    rfl

/-! ### Every device over USB -/

/-- A run of `u3_partition` over USB that no failed assertion ends carries out calls of
`u3_send_cmd` of which the one that changes the device is the last. -/
theorem u3Partition_changesLast_over_usb {cdSize : UInt32} {stack : PartitionStack}
    {trace : List (Event Usb)} {outcome : Except ErrMsg Unit}
    (hrun : Run ((u3Partition cdSize stack).interp usbSendCmd) trace (.ok outcome)) :
    ∃ calls, Implements usbSendCmd calls trace ∧ ChangesLast 0x22 calls outcome := by
  obtain ⟨calls, hcalls, himplements⟩ := run_interp_ok.mp hrun
  rw [u3Partition_eq] at hcalls
  exact ⟨calls, himplements, changesLast_of_query (isQuery_partitionQueries _ _) hcalls⟩

end U3Tool
