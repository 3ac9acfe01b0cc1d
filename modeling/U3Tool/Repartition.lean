import U3Tool.CommandRuns

/-!
# Commands that change the device come last

`u3_partition` and `u3_enable_security` ask the device several questions and then issue one command
that changes it. Both are a program of queries followed by that command
(`u3Partition_eq`, `u3EnableSecurity_eq`), and `run_query_then_command` says what follows from this
shape alone: the changing command is sent at most once, as the last command, and only when every
query was accepted (`ChangesLast`).

`PartitionAnswers` collects the bytes the device answers to the queries of `u3_partition`, and the
values the function computes from them. `run_partitionQueries_ok` says that the queries return
exactly when the header announces at least itself, the page has the expected length and the rounded
size fits the device. `u3Partition_record_sound` is the arithmetic of the record: against a firmware
that rounds in the right direction and always shows the same property page, the two partitions fit
the device, the CD partition is no smaller than requested, and no subtraction wraps.
-/

set_option autoImplicit false
set_option relaxedAutoImplicit false

namespace U3Tool

open Interaction Bytes Program

variable {α : Type} {trace : List (Event Scsi)} {result : Except ErrMsg Unit}

/-! ### Queries followed by one change -/

/-- Either the device-changing command was sent, once and as the last command, after queries that
were all accepted, and the call succeeds exactly when it was accepted as well; or no
device-changing command was sent and the call fails. -/
def ChangesLast (command : UInt16) (trace : List (Event Scsi)) (result : Except ErrMsg Unit) :
    Prop :=
  (∃ queries event, trace = queries ++ [event] ∧ event.request.command = command ∧
      (∀ query ∈ queries, ¬ Changing query ∧ query.reply.Accepted) ∧
      (result = .ok () ↔ event.reply.Accepted)) ∨
    (∀ event ∈ trace, ¬ Changing event) ∧ ∃ error, result = .error error

/-- A program of queries followed by one checked command: the queries fail, or the command is the
last event and decides the result. -/
theorem run_query_then_command {queries : Command α} {cmd : Cdb} {direction : DataDirection}
    {length : ℕ} {data : α → List UInt8}
    (hrun : Run (queries >>= fun value ↦
      deviceCommand cmd direction length (data value) >>= fun _ ↦ .done ()) trace result) :
    (∃ error, result = .error error ∧ Run queries trace (.error error)) ∨
      ∃ first value reply, trace = first ++ [⟨⟨cmd, direction, length, data value⟩, reply⟩] ∧
        Run queries first (.ok value) ∧ (result = .ok () ↔ reply.Accepted) := by
  rcases run_bind.mp hrun with hfail | ⟨first, value, rest, rfl, hfirst, hrest⟩
  · exact Or.inl hfail
  · refine Or.inr ⟨first, value, ?_⟩
    rcases run_bind.mp hrest with ⟨error, rfl, herror⟩ | ⟨sent, received, last, rfl, hsent, hlast⟩
    · obtain ⟨reply, rfl, hreply⟩ := run_deviceCommand.mp herror
      refine ⟨reply, rfl, hfirst, ?_⟩
      simp only [reduceCtorEq, false_iff]
      intro haccepted
      obtain ⟨received, hreceived⟩ := haccepted.result_eq_ok length
      rw [hreceived] at hreply
      exact absurd hreply (by simp)
    · obtain ⟨reply, rfl, hreply⟩ := run_deviceCommand.mp hsent
      obtain ⟨rfl, rfl⟩ := run_done.mp hlast
      exact ⟨reply, by simp, hfirst, by simpa using accepted_of_result_eq_ok hreply.symm⟩

/-- A program of queries followed by one device-changing command changes the device last. -/
theorem changesLast_of_query {queries : Command α} (hqueries : IsQuery queries) {cmd : Cdb}
    {direction : DataDirection} {length : ℕ} {data : α → List UInt8}
    (hrun : Run (queries >>= fun value ↦
      deviceCommand cmd direction length (data value) >>= fun _ ↦ .done ()) trace result) :
    ChangesLast (cmd.word16 1) trace result := by
  rcases run_query_then_command hrun with
    ⟨error, rfl, herror⟩ | ⟨first, value, reply, rfl, hfirst, hresult⟩
  · exact Or.inr ⟨hqueries.not_changing herror, error, rfl⟩
  · exact Or.inl ⟨first, _, rfl, rfl,
      fun query hquery ↦ ⟨hqueries.not_changing hfirst query hquery,
        hqueries.accepted hfirst query hquery⟩, hresult⟩

/-! ### The queries of `u3_partition` -/

/-- What `u3_partition` asks before it repartitions; it returns the data size and the CD size. -/
def partitionQueries (cdSize : UInt32) (stack : PartitionStack) : Command (UInt32 × UInt32) := do
  let cdSize ← roundCdSize cdSize stack.roundUp
  let deviceProperties ← readProperty03 stack.deviceProperties
  let dataSize ← roundDataSize cdSize deviceProperties stack.roundDown
  .done (dataSize, cdSize)

/-- `u3_partition` asks its questions and then sends the record. -/
theorem u3Partition_eq (cdSize : UInt32) (stack : PartitionStack) :
    u3Partition cdSize stack = partitionQueries cdSize stack >>= fun sizes ↦
      deviceCommand partitionCommand .toDev 17 (partitionRecord sizes.1 sizes.2).encode >>=
        fun _ ↦ .done () := by
  simp only [u3Partition, partitionQueries, bind_assoc', done_bind]

@[simp] theorem partitionRecord_dataSize (dataSize cdSize : UInt32) :
    (partitionRecord dataSize cdSize).dataSize = dataSize := by
  unfold partitionRecord
  split_ifs <;> rfl

@[simp] theorem partitionRecord_cdSize (dataSize cdSize : UInt32) :
    (partitionRecord dataSize cdSize).cdSize = cdSize := by
  unfold partitionRecord
  split_ifs with hzero
  · exact hzero.symm
  · rfl

theorem isQuery_roundCdSize (cdSize : UInt32) (roundedSize : Buffer 4) :
    IsQuery (roundCdSize cdSize roundedSize) := by
  unfold roundCdSize
  split_ifs with hzero
  · exact (isQuery_u3PartitionSectorRound _ _ _).mapError _
  · exact .done _

theorem isQuery_roundDataSize (cdSize : UInt32) (page : Property03) (roundedSize : Buffer 4) :
    IsQuery (roundDataSize cdSize page roundedSize) := by
  unfold roundDataSize
  split_ifs
  · exact .fail _
  · exact .fail _
  · exact (isQuery_u3PartitionSectorRound _ _ _).mapError _

theorem isQuery_partitionQueries (cdSize : UInt32) (stack : PartitionStack) :
    IsQuery (partitionQueries cdSize stack) := by
  refine (isQuery_roundCdSize _ _).bind fun rounded ↦ ?_
  refine ((isQuery_u3ReadDeviceProperty _ _).mapError _).bind fun page ↦ ?_
  exact (isQuery_roundDataSize _ _ _).bind fun dataSize ↦ .done _

/-- The bytes the device answers to the queries of `u3_partition`, in the order asked; `roundUp` is
not asked for when no CD partition is requested. -/
structure PartitionAnswers where
  roundUp : List UInt8
  header : List UInt8
  page : List UInt8
  roundDown : List UInt8

namespace PartitionAnswers

variable (answers : PartitionAnswers) (cdSize : UInt32) (stack : PartitionStack)

/-- `cd_size` after rounding up. -/
def rounded : UInt32 :=
  if cdSize ≠ 0 then (stack.roundUp.store 0 (answers.roundUp.take 4)).word32 0 else cdSize

/-- `device_properties` after the property read. -/
def properties : Property03 := pageRead stack.deviceProperties answers.header answers.page

/-- `data_size` before rounding down. -/
def unroundedDataSize : UInt32 :=
  (answers.properties stack).deviceSize - answers.rounded cdSize stack

/-- `data_size` after rounding down. -/
def dataSize : UInt32 := (stack.roundDown.store 0 (answers.roundDown.take 4)).word32 0

/-- The event that rounds the requested size up, when there is one. -/
def roundUpEvents : List (Event Scsi) :=
  if cdSize ≠ 0 then [⟨partitionRoundRequest .up cdSize, .success 0 answers.roundUp⟩] else []

/-- The events of the property read. -/
def propertyEvents : List (Event Scsi) :=
  [⟨propertyRequest 3 propertyHeaderSize, .success 0 answers.header⟩,
    ⟨propertyRequest 3 (pageLength (headerRead stack.deviceProperties answers.header)),
      .success 0 answers.page⟩]

/-- The event that rounds the remaining size down. -/
def roundDownEvent : Event Scsi :=
  ⟨partitionRoundRequest .down (answers.unroundedDataSize cdSize stack),
    .success 0 answers.roundDown⟩

/-- The events of the queries, all accepted. -/
def queries : List (Event Scsi) :=
  answers.roundUpEvents cdSize ++
    (answers.propertyEvents stack ++ [answers.roundDownEvent cdSize stack])

/-- The checks `u3_partition` makes on the answers. -/
structure Passes : Prop where
  header_length : ¬ hdrLength (headerRead stack.deviceProperties answers.header) <
    propertyHeaderSize
  page_length : hdrLength (answers.properties stack) = 39
  fits : answers.rounded cdSize stack ≤ (answers.properties stack).deviceSize

end PartitionAnswers

/-- A returning first step of `u3_partition`. -/
theorem run_roundCdSize_ok {cdSize rounded : UInt32} {stack : PartitionStack} :
    Run (roundCdSize cdSize stack.roundUp) trace (.ok rounded) ↔
      ∃ answers : PartitionAnswers, trace = answers.roundUpEvents cdSize ∧
        rounded = answers.rounded cdSize stack := by
  unfold roundCdSize
  by_cases hzero : cdSize ≠ 0
  · simp only [if_pos hzero, run_mapError_ok, run_u3PartitionSectorRound_ok,
      PartitionAnswers.roundUpEvents, PartitionAnswers.rounded]
    constructor
    · rintro ⟨answer, rfl, rfl⟩
      exact ⟨⟨answer, [], [], []⟩, rfl, rfl⟩
    · rintro ⟨answers, rfl, rfl⟩
      exact ⟨answers.roundUp, rfl, rfl⟩
  · simp only [if_neg hzero, run_done, Except.ok.injEq, PartitionAnswers.roundUpEvents,
      PartitionAnswers.rounded]
    constructor
    · rintro ⟨rfl, rfl⟩
      exact ⟨⟨[], [], [], []⟩, rfl, rfl⟩
    · rintro ⟨answers, rfl, rfl⟩
      exact ⟨rfl, rfl⟩

/-- A returning third step of `u3_partition`: both checks pass, and the difference is rounded. -/
theorem run_roundDataSize_ok {cdSize dataSize : UInt32} {page : Property03}
    {roundedSize : Buffer 4} :
    Run (roundDataSize cdSize page roundedSize) trace (.ok dataSize) ↔
      hdrLength page = 39 ∧ cdSize ≤ page.deviceSize ∧
        ∃ answer, trace =
            [⟨partitionRoundRequest .down (page.deviceSize - cdSize), .success 0 answer⟩] ∧
          dataSize = (roundedSize.store 0 (answer.take 4)).word32 0 := by
  unfold roundDataSize
  split_ifs with hlength hfits
  · simp [hlength]
  · simp [UInt32.not_le.mpr hfits]
  · rw [run_mapError_ok, run_u3PartitionSectorRound_ok]
    simp only [not_not.mp hlength, UInt32.not_lt.mp hfits, true_and]

/-- The queries of `u3_partition` return exactly when they are all accepted and the answers pass
the three checks. -/
theorem run_partitionQueries_ok {cdSize : UInt32} {stack : PartitionStack}
    {sizes : UInt32 × UInt32} :
    Run (partitionQueries cdSize stack) trace (.ok sizes) ↔
      ∃ answers : PartitionAnswers, answers.Passes cdSize stack ∧
        trace = answers.queries cdSize stack ∧
        sizes = (answers.dataSize stack, answers.rounded cdSize stack) := by
  simp only [partitionQueries, readProperty03, run_bind_ok, run_mapError_ok]
  constructor
  · rintro ⟨first, rounded, rest, rfl, hfirst, second, page, last, rfl, hpage, third, dataSize,
      fourth, rfl, hthird, hfourth⟩
    obtain ⟨up, rfl, rfl⟩ := run_roundCdSize_ok.mp hfirst
    obtain ⟨-, header, body, rfl, hheader, rfl⟩ := run_u3ReadDeviceProperty_ok.mp hpage
    obtain ⟨hlength, hfits, answer, rfl, rfl⟩ := run_roundDataSize_ok.mp hthird
    obtain ⟨rfl, hsizes⟩ := run_done.mp hfourth
    exact ⟨⟨up.roundUp, header, body, answer⟩, ⟨hheader, hlength, hfits⟩, rfl, Except.ok.inj hsizes⟩
  · rintro ⟨answers, hpasses, rfl, rfl⟩
    refine ⟨_, _, _, rfl, run_roundCdSize_ok.mpr ⟨answers, rfl, rfl⟩, _, _, _, rfl,
      run_u3ReadDeviceProperty_ok.mpr
        ⟨by decide, answers.header, answers.page, rfl, hpasses.header_length, rfl⟩, _, _, [],
      (List.append_nil _).symm, ?_, .done _⟩
    exact run_roundDataSize_ok.mpr
      ⟨hpasses.page_length, hpasses.fits, answers.roundDown, rfl, rfl⟩

/-! ### Changing the device last -/

/-- What `u3_enable_security` asks before it enables security; it returns the zone size. -/
def securityQueries (roundedSize : Buffer 4) : Command UInt32 := do
  let dpInfo ← u3DataPartitionInfo.mapError (u3PrependError "Failed reading data partition info")
  roundZoneSize dpInfo.totalSize roundedSize

/-- `u3_enable_security` asks its questions and then sends size and password hash. -/
theorem u3EnableSecurity_eq (md5 : List UInt8 → Buffer 16) (password : List UInt8)
    (roundedSize : Buffer 4) :
    u3EnableSecurity md5 password roundedSize = securityQueries roundedSize >>= fun size ↦
      deviceCommand enableSecurityCommand .toDev 20
        (leBytes 4 size.toNat ++ (u3PassToHash md5 password).bytes) >>= fun _ ↦ .done () := by
  simp only [u3EnableSecurity, securityQueries, bind_assoc']

theorem isQuery_roundZoneSize (size : UInt32) (roundedSize : Buffer 4) :
    IsQuery (roundZoneSize size roundedSize) := by
  unfold roundZoneSize
  split_ifs with hzero
  · exact (isQuery_u3SecuritySectorRound _ _ _).mapError _
  · exact .done _

theorem isQuery_securityQueries (roundedSize : Buffer 4) :
    IsQuery (securityQueries roundedSize) :=
  (isQuery_u3DataPartitionInfo.mapError _).bind fun _ ↦ isQuery_roundZoneSize _ _

/-- The call that sends a record. -/
def recordRequest (record : PartInfo) : CmdRequest where
  cmd := partitionCommand
  direction := .toDev
  length := 17
  data := record.encode

/-- A repartition record is sent after queries whose answers pass the three checks. -/
theorem queries_of_sent_record {cdSize : UInt32} {stack : PartitionStack} {event : Event Scsi}
    (hrun : Run (u3Partition cdSize stack) trace result) (hevent : event ∈ trace)
    (hsent : event.request.command = 0x22) :
    ∃ answers : PartitionAnswers, answers.Passes cdSize stack ∧
      trace = answers.queries cdSize stack ++ [event] ∧
      event.request = recordRequest
        (partitionRecord (answers.dataSize stack) (answers.rounded cdSize stack)) ∧
      (result = .ok () ↔ event.reply.Accepted) := by
  have hchanging : Changing event := by
    rw [Changing, hsent]
    decide
  rw [u3Partition_eq] at hrun
  rcases run_query_then_command hrun with
    ⟨error, -, herror⟩ | ⟨first, sizes, reply, rfl, hfirst, hresult⟩
  · exact absurd hchanging ((isQuery_partitionQueries _ _).not_changing herror event hevent)
  · rcases List.mem_append.mp hevent with hquery | hlast
    · exact absurd hchanging ((isQuery_partitionQueries _ _).not_changing hfirst event hquery)
    · obtain ⟨answers, hpasses, rfl, rfl⟩ := run_partitionQueries_ok.mp hfirst
      obtain rfl := List.mem_singleton.mp hlast
      exact ⟨answers, hpasses, rfl, rfl, hresult⟩

/-- Answers that pass the checks lead to the record, and its acceptance to success. -/
theorem run_u3Partition_of_passes {cdSize : UInt32} {stack : PartitionStack}
    {answers : PartitionAnswers} (hpasses : answers.Passes cdSize stack) (data : List UInt8) :
    Run (u3Partition cdSize stack)
      (answers.queries cdSize stack ++ [⟨recordRequest
        (partitionRecord (answers.dataSize stack) (answers.rounded cdSize stack)),
        .success 0 data⟩]) (.ok ()) := by
  rw [u3Partition_eq]
  refine (run_partitionQueries_ok.mpr ⟨answers, hpasses, rfl, rfl⟩).bind ?_
  exact run_bind_ok.mpr ⟨_, _, [], rfl, run_deviceCommand_ok.mpr ⟨data, rfl, rfl⟩, .done _⟩

/-- Against any device, `u3_partition` and `u3_enable_security` change the device at most once, with
their last command, and only after queries that were all accepted; they succeed exactly when that
command was sent and accepted, and fail with nothing changed on every path that does not reach it.
The record of a repartition is sent only when the property page has 39 bytes and the rounded size
fits the device. -/
theorem u3Partition_and_u3EnableSecurity_changesLast :
    (∀ (cdSize : UInt32) (stack : PartitionStack) (trace : List (Event Scsi))
        (result : Except ErrMsg Unit), Run (u3Partition cdSize stack) trace result →
      ChangesLast 0x22 trace result ∧
        ∀ event ∈ trace, event.request.command = 0x22 →
          ∃ answers : PartitionAnswers, trace = answers.queries cdSize stack ++ [event] ∧
            hdrLength (answers.properties stack) = 39 ∧
            answers.rounded cdSize stack ≤ (answers.properties stack).deviceSize) ∧
      ∀ (md5 : List UInt8 → Buffer 16) (password : List UInt8) (roundedSize : Buffer 4)
        (trace : List (Event Scsi)) (result : Except ErrMsg Unit),
        Run (u3EnableSecurity md5 password roundedSize) trace result →
          ChangesLast 0xA2 trace result := by
  constructor
  · intro cdSize stack trace result hrun
    constructor
    · have hlast := hrun
      rw [u3Partition_eq] at hlast
      exact changesLast_of_query (isQuery_partitionQueries _ _) hlast
    · intro event hevent hsent
      obtain ⟨answers, hpasses, htrace, -⟩ := queries_of_sent_record hrun hevent hsent
      exact ⟨answers, htrace, hpasses.page_length, hpasses.fits⟩
  · intro md5 password roundedSize trace result hrun
    rw [u3EnableSecurity_eq] at hrun
    exact changesLast_of_query (isQuery_securityQueries _) hrun

/-- A device that accepts every command, and answers with the beginning of property page 3. -/
def obligingDevice : Surroundings Scsi Unit := fun _ request ↦
  let page : List UInt8 := [3, 0, 1, 0, 39] ++ List.replicate 32 0 ++ [2, 0]
  (.success 0 (page.take request.length), ())

/-- A repartition and an enabling of security with that device. -/
def partitionObliging : Execution Scsi ErrMsg Unit Unit :=
  exec obligingDevice (u3Partition 100 ⟨.fill 4 0, .fill 39 0, .fill 4 0⟩) ()

def enableObliging : Execution Scsi ErrMsg Unit Unit :=
  exec obligingDevice (u3EnableSecurity (fun _ ↦ .fill 16 0) (ascii "a") (.fill 4 0)) ()

theorem u3Partition_and_u3EnableSecurity_changesLast_witness :
    (partitionObliging.trace.length = 5 ∧ partitionObliging.result = .ok () ∧
      ChangesLast 0x22 partitionObliging.trace partitionObliging.result) ∧
    enableObliging.trace.length = 3 ∧ enableObliging.result = .ok () ∧
      ChangesLast 0xA2 enableObliging.trace enableObliging.result := by
  obtain ⟨hpartition, henable⟩ := u3Partition_and_u3EnableSecurity_changesLast
  exact ⟨⟨by decide +kernel, by decide +kernel, (hpartition _ _ _ _ (run_exec _ _ _)).1⟩,
    by decide +kernel, by decide +kernel, henable _ _ _ _ _ (run_exec _ _ _)⟩

/-! ### The sizes in the record -/

/-- The first bytes of a property page. -/
def pagePrefix (page : ℕ → UInt8) (count : ℕ) : List UInt8 := (List.range count).map page

@[simp] theorem length_pagePrefix (page : ℕ → UInt8) (count : ℕ) :
    (pagePrefix page count).length = count := by
  simp [pagePrefix]

/-- A field that a read prefix covers holds the bytes of the page. -/
theorem slice_store_pagePrefix {size : ℕ} (buffer : Buffer size) (page : ℕ → UInt8)
    {count offset width : ℕ} (hcount : offset + width ≤ count) (hsize : offset + width ≤ size) :
    (buffer.store 0 (pagePrefix page count)).slice offset width =
      (List.range width).map fun index ↦ page (offset + index) := by
  rw [Buffer.slice_store_zero (by simpa using hcount) hsize]
  apply List.ext_getElem
  · simp [pagePrefix]
    omega
  · intro index hleft hright
    simp [pagePrefix]

/-- What is assumed of a firmware: it rounds partition sizes in the direction asked for, and the
bytes of its property page 0x03 never change. -/
structure Firmware where
  roundUp : UInt32 → UInt32
  roundDown : UInt32 → UInt32
  page : ℕ → UInt8
  le_roundUp : ∀ size, size ≤ roundUp size
  roundDown_le : ∀ size, roundDown size ≤ size

namespace Firmware

variable (firmware : Firmware)

/-- The device size the property page shows. -/
def deviceSize : UInt32 := leUInt32 ((List.range 4).map fun index ↦ firmware.page (35 + index))

/-- The rounding function of a direction. -/
def round : RoundDir → UInt32 → UInt32
  | .down => firmware.roundDown
  | .up => firmware.roundUp

/-- A device with this firmware may fail any command, but when it accepts a rounding command it
answers the rounded size, and when it accepts a read of page 0x03 it answers the bytes asked for. -/
def Answers (event : Event Scsi) : Prop :=
  ∀ data, event.reply = .success 0 data →
    (∀ direction size, event.request = partitionRoundRequest direction size →
      data = leBytes 4 (firmware.round direction size).toNat) ∧
    ∀ length, event.request = propertyRequest 3 length →
      data = pagePrefix firmware.page length.toNat

variable {firmware}

theorem answers_round {direction : RoundDir} {size : UInt32} {data : List UInt8} :
    firmware.Answers ⟨partitionRoundRequest direction size, .success 0 data⟩ ↔
      data = leBytes 4 (firmware.round direction size).toNat := by
  constructor
  · intro hanswers
    exact (hanswers data rfl).1 direction size rfl
  · rintro rfl data hdata
    obtain ⟨-, rfl⟩ := CmdReply.success.inj hdata
    refine ⟨fun direction' size' heq ↦ ?_, fun length heq ↦ ?_⟩
    · obtain ⟨rfl, rfl⟩ := partitionRoundRequest_inj.mp heq
      rfl
    · exact absurd heq partitionRoundRequest_ne_propertyRequest

theorem answers_property {length : UInt16} {data : List UInt8} :
    firmware.Answers ⟨propertyRequest 3 length, .success 0 data⟩ ↔
      data = pagePrefix firmware.page length.toNat := by
  constructor
  · intro hanswers
    exact (hanswers data rfl).2 length rfl
  · rintro rfl data hdata
    obtain ⟨-, rfl⟩ := CmdReply.success.inj hdata
    refine ⟨fun direction size heq ↦ ?_, fun length' heq ↦ ?_⟩
    · exact absurd heq.symm partitionRoundRequest_ne_propertyRequest
    · rw [propertyRequest_inj.mp heq]

end Firmware

/-- An answered size of four bytes replaces the local variable. -/
theorem word32_store_leBytes (buffer : Buffer 4) (size : UInt32) :
    (buffer.store 0 ((leBytes 4 size.toNat).take 4)).word32 0 = size := by
  rw [List.take_of_length_le (by simp), Buffer.word32, Buffer.slice,
    Buffer.bytes_store_of_le (by simp), List.drop_zero, List.take_take, min_self,
    List.take_of_length_le (by simp), leUInt32_leBytes]

/-- When both reads of the property page return the same bytes and the page passes the length
check, the device size in the buffer is the one the page shows. -/
theorem deviceSize_of_stable_page (firmware : Firmware) {answers : PartitionAnswers}
    {stack : PartitionStack}
    (hheader : answers.header = pagePrefix firmware.page propertyHeaderSize.toNat)
    (hpage : answers.page = pagePrefix firmware.page
      (pageLength (headerRead stack.deviceProperties answers.header)).toNat)
    (hlong : ¬ hdrLength (headerRead stack.deviceProperties answers.header) < propertyHeaderSize)
    (hlength : hdrLength (answers.properties stack) = 39) :
    (answers.properties stack).deviceSize = firmware.deviceSize := by
  set header := headerRead stack.deviceProperties answers.header with hheaderRead
  have hheaderLength : hdrLength header =
      leUInt16 ((List.range 2).map fun index ↦ firmware.page (4 + index)) := by
    rw [hheaderRead, headerRead, hheader, hdrLength, Buffer.word16,
      List.take_of_length_le (by simp), slice_store_pagePrefix _ _ (by decide) (by decide)]
  have hproperties : answers.properties stack =
      header.store 0 (pagePrefix firmware.page (pageLength header).toNat) := by
    rw [PartitionAnswers.properties, pageRead, ← hheaderRead, hpage,
      List.take_of_length_le (by simp)]
  have hpageLength : 6 ≤ (pageLength header).toNat := by
    unfold pageLength
    split_ifs
    · decide
    · exact not_lt.mp hlong
  have hsame : hdrLength (answers.properties stack) = hdrLength header := by
    rw [hheaderLength, hproperties, hdrLength, Buffer.word16,
      slice_store_pagePrefix _ _ (by omega) (by decide)]
  have hfull : (pageLength header).toNat = 39 := by
    rw [pageLength, ← hsame, hlength]
    decide
  rw [Property03.deviceSize, Buffer.word32, hproperties, hfull,
    slice_store_pagePrefix _ _ (by decide) (by decide), Firmware.deviceSize]

/-- What `u3_partition` computes from the answers of a firmware that pass its checks. -/
theorem sizes_of_firmware (firmware : Firmware) {answers : PartitionAnswers} {cdSize : UInt32}
    {stack : PartitionStack}
    (hanswers : ∀ event ∈ answers.queries cdSize stack, firmware.Answers event)
    (hpasses : answers.Passes cdSize stack) :
    answers.rounded cdSize stack = (if cdSize ≠ 0 then firmware.roundUp cdSize else 0) ∧
      answers.rounded cdSize stack ≤ firmware.deviceSize ∧
      answers.dataSize stack =
        firmware.roundDown (firmware.deviceSize - answers.rounded cdSize stack) := by
  simp only [PartitionAnswers.queries, PartitionAnswers.propertyEvents, List.mem_append,
    List.mem_cons, List.not_mem_nil, or_false] at hanswers
  have hheader := Firmware.answers_property.mp (hanswers _ (Or.inr (Or.inl (Or.inl rfl))))
  have hpage := Firmware.answers_property.mp (hanswers _ (Or.inr (Or.inl (Or.inr rfl))))
  have hdown := Firmware.answers_round.mp (hanswers _ (Or.inr (Or.inr rfl)))
  have hdevice := deviceSize_of_stable_page firmware hheader hpage hpasses.header_length
    hpasses.page_length
  refine ⟨?_, hdevice ▸ hpasses.fits, ?_⟩
  · unfold PartitionAnswers.rounded
    split_ifs with hzero
    · have hup := Firmware.answers_round.mp
        (hanswers ⟨partitionRoundRequest .up cdSize, .success 0 answers.roundUp⟩
          (Or.inl (by simp [PartitionAnswers.roundUpEvents, hzero])))
      rw [hup, word32_store_leBytes]
      rfl
    · exact not_not.mp hzero
  · rw [PartitionAnswers.dataSize, hdown, word32_store_leBytes,
      PartitionAnswers.unroundedDataSize, hdevice]
    rfl

/-- A difference that does not wrap is the exact one. -/
theorem sub_eq_ofNat_of_le {whole part : UInt32} (hle : part ≤ whole) :
    whole - part = .ofNat (whole.toNat - part.toNat) := by
  apply UInt32.toNat_inj.mp
  rw [UInt32.toNat_sub_of_le _ _ hle, UInt32.toNat_ofNat']
  have hlt := whole.toNat_lt
  exact (Nat.mod_eq_of_lt (by omega)).symm

/-- The record has the shape of one partition exactly when no CD partition was requested. -/
theorem partitionRecord_shape {cdSize rounded : UInt32} (dataSize : UInt32)
    (hle : cdSize ≤ rounded) (hnone : cdSize = 0 → rounded = 0) :
    cdSize = 0 ∧ (partitionRecord dataSize rounded).partitionCount = 1 ∧ rounded = 0 ∨
      cdSize ≠ 0 ∧ (partitionRecord dataSize rounded).partitionCount = 2 ∧
        (partitionRecord dataSize rounded).unknown2 = 0x103 ∧ rounded ≠ 0 := by
  by_cases hzero : cdSize = 0
  · exact Or.inl ⟨hzero, by simp [partitionRecord, hnone hzero], hnone hzero⟩
  · have hsome : rounded ≠ 0 := by
      rintro rfl
      exact hzero (UInt32.toNat_inj.mp (by simpa using UInt32.le_iff_toNat_le.mp hle))
    exact Or.inr ⟨hzero, by simp [partitionRecord, hsome], by simp [partitionRecord, hsome], hsome⟩

/-- Whenever `u3_partition` sends its record to a device whose firmware rounds in the right
direction and shows a stable property page: the two partitions fit the device, the CD partition is
no smaller than requested, the data partition is what remains, rounded down, with no wrap in the
subtraction, and the shape of the record tells whether a CD partition was requested. -/
theorem u3Partition_record_sound (firmware : Firmware) {cdSize : UInt32} {stack : PartitionStack}
    {event : Event Scsi} (hrun : Run (u3Partition cdSize stack) trace result)
    (hfirmware : ∀ event ∈ trace, firmware.Answers event) (hevent : event ∈ trace)
    (hsent : event.request.command = 0x22) :
    ∃ record : PartInfo, event.request.data = record.encode ∧
      record.dataSize.toNat + record.cdSize.toNat ≤ firmware.deviceSize.toNat ∧
      cdSize ≤ record.cdSize ∧
      record.dataSize =
        firmware.roundDown (.ofNat (firmware.deviceSize.toNat - record.cdSize.toNat)) ∧
      (cdSize = 0 ∧ record.partitionCount = 1 ∧ record.cdSize = 0 ∨
        cdSize ≠ 0 ∧ record.partitionCount = 2 ∧ record.unknown2 = 0x103 ∧
          record.cdSize ≠ 0) := by
  obtain ⟨answers, hpasses, htrace, hrecord, -⟩ := queries_of_sent_record hrun hevent hsent
  obtain ⟨hrounded, hfits, hdataSize⟩ := sizes_of_firmware firmware
    (fun event hevent ↦ hfirmware event (htrace ▸ List.mem_append_left _ hevent)) hpasses
  have hrequested : cdSize ≤ answers.rounded cdSize stack := by
    rw [hrounded]
    split_ifs with hzero
    · exact firmware.le_roundUp cdSize
    · exact UInt32.le_of_eq (not_not.mp hzero)
  have hnone : cdSize = 0 → answers.rounded cdSize stack = 0 := by
    intro hzero
    rw [hrounded, if_neg (not_not.mpr hzero)]
  have hdown : (answers.dataSize stack).toNat ≤
      firmware.deviceSize.toNat - (answers.rounded cdSize stack).toNat := by
    rw [hdataSize, ← UInt32.toNat_sub_of_le _ _ hfits]
    exact UInt32.le_iff_toNat_le.mp (firmware.roundDown_le _)
  have hlargest := UInt32.le_iff_toNat_le.mp hfits
  refine ⟨_, congrArg CmdRequest.data hrecord, ?_⟩
  rw [partitionRecord_dataSize, partitionRecord_cdSize, ← sub_eq_ofNat_of_le hfits]
  exact ⟨by omega, hrequested, hdataSize, partitionRecord_shape _ hrequested hnone⟩

/-- A firmware that allows every size, on a device of 1000 sectors. -/
def exampleFirmware : Firmware where
  roundUp := id
  roundDown := id
  page := fun index ↦
    if index = 4 then 39 else if index = 35 then 0xe8 else if index = 36 then 3 else 0
  le_roundUp := fun _ ↦ UInt32.le_iff_toNat_le.mpr le_rfl
  roundDown_le := fun _ ↦ UInt32.le_iff_toNat_le.mpr le_rfl

/-- Its answers to a request for 100 sectors. -/
def exampleAnswers : PartitionAnswers where
  roundUp := leBytes 4 100
  header := pagePrefix exampleFirmware.page 6
  page := pagePrefix exampleFirmware.page 39
  roundDown := leBytes 4 900

/-- A stack of zeros. -/
def zeroStack : PartitionStack := ⟨.fill 4 0, .fill 39 0, .fill 4 0⟩

theorem exampleAnswers_passes : exampleAnswers.Passes 100 zeroStack :=
  ⟨by decide, by decide, by decide⟩

/-- Repartitioning the example device for 100 sectors sends a sound record. -/
theorem u3Partition_record_sound_witness :
    ∃ record : PartInfo, (partitionRecord 900 100).encode = record.encode ∧
      record.dataSize.toNat + record.cdSize.toNat ≤ exampleFirmware.deviceSize.toNat ∧
      100 ≤ record.cdSize ∧
      record.dataSize =
        exampleFirmware.roundDown
          (.ofNat (exampleFirmware.deviceSize.toNat - record.cdSize.toNat)) ∧
      ((100 : UInt32) = 0 ∧ record.partitionCount = 1 ∧ record.cdSize = 0 ∨
        (100 : UInt32) ≠ 0 ∧ record.partitionCount = 2 ∧ record.unknown2 = 0x103 ∧
          record.cdSize ≠ 0) := by
  refine u3Partition_record_sound exampleFirmware
    (run_u3Partition_of_passes exampleAnswers_passes []) (fun event hevent ↦ ?_)
    (List.mem_append_right _ (List.mem_singleton_self _)) (by decide)
  simp only [PartitionAnswers.queries, PartitionAnswers.propertyEvents,
    PartitionAnswers.roundUpEvents, List.mem_append, List.mem_cons, List.not_mem_nil,
    or_false] at hevent
  rcases hevent with (hup | (rfl | rfl) | rfl) | rfl
  · obtain rfl := List.mem_singleton.mp hup
    exact Firmware.answers_round.mpr rfl
  · exact Firmware.answers_property.mpr rfl
  · exact Firmware.answers_property.mpr (by decide)
  · exact Firmware.answers_round.mpr (by decide)
  · intro data hdata
    refine ⟨fun direction size heq ↦ ?_, fun length heq ↦ ?_⟩
    · exact absurd (congrArg CmdRequest.direction heq)
        (by simp [recordRequest, partitionRoundRequest])
    · exact absurd (congrArg CmdRequest.direction heq) (by simp [recordRequest, propertyRequest])

end U3Tool
