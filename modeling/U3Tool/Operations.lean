import U3Tool.CommandStatus
import U3Tool.Interaction.Protocol

/-!
# The command layer as operations

`Operation` lists what the command layer can ask of a device, each with its parameters, and
`Operation.request` is the call of `u3_send_cmd` that asks for it. `Operations` is the interface of
a device that is asked for operations instead of being sent bytes. `CommandCall.script` says over
this interface what each function of `u3_commands.c` is for: which operations it asks for, with
which of its arguments and of the numbers it was answered, and when it gives up.

A function `CarriesOut` a script when, up to the texts of its errors, it is that script with every
operation sent as its request. The property goes along the syntax of the two, and every function
carries out its script (`carriesOut_script`): a run of the function is a run of the script,
operation by operation (`CarriesOut.run`).
-/

set_option autoImplicit false
set_option relaxedAutoImplicit false

namespace U3Tool

open Interaction Bytes Program

variable {α β : Type} {trace : List (Event Scsi)}

/-! ### Operations -/

/-- What can be asked of a device. Sizes are in sectors. -/
inductive Operation
  | readProperty (propertyId length : UInt16)
  | roundPartition (direction : RoundDir) (size : UInt32)
  | partitionInfo (length : UInt16)
  | partition (record : PartInfo)
  | cdWrite (blockNum : UInt32) (block : Buffer blockSize)
  | dataPartitionInfo
  | enableSecurity (zoneSize : UInt32) (hash : Buffer 16)
  | roundSecurity (direction : RoundDir) (size : UInt32)
  | unlock (hash : Buffer 16)
  | changePassword (oldHash newHash : Buffer 16)
  | disableSecurity (hash : Buffer 16)
  | reset
  | chipInfo

/-- The 12 bytes that come with a reset. -/
def resetData : List UInt8 :=
  [0x50, 0x00, 0x00, 0x00, 0x40, 0x9c, 0x00, 0x00, 0x01, 0x00, 0x00, 0x00]

/-- The call of `u3_send_cmd` that asks for an operation. -/
def Operation.request : Operation → CmdRequest
  | .readProperty propertyId length => propertyRequest propertyId length
  | .roundPartition direction size => partitionRoundRequest direction size
  | .partitionInfo length => partitionInfoRequest length.toNat
  | .partition record => recordRequest record
  | .cdWrite blockNum block => ⟨cdWriteCommand blockNum, .toDev, 2048, block.bytes⟩
  | .dataPartitionInfo => ⟨plainCommand 0xA0, .fromDev, 16, []⟩
  | .enableSecurity zoneSize hash =>
    ⟨plainCommand 0xA2, .toDev, 20, leBytes 4 zoneSize.toNat ++ hash.bytes⟩
  | .roundSecurity direction size =>
    ⟨roundCommand (plainCommand 0xA3) direction size, .fromDev, 4, []⟩
  | .unlock hash => ⟨plainCommand 0xA4, .toDev, 16, hash.bytes⟩
  | .changePassword oldHash newHash =>
    ⟨plainCommand 0xA6, .toDev, 32, oldHash.bytes ++ newHash.bytes⟩
  | .disableSecurity hash => ⟨plainCommand 0xA7, .toDev, 16, hash.bytes⟩
  | .reset => ⟨plainCommand 0x101, .toDev, 12, resetData⟩
  | .chipInfo => ⟨plainCommand 0x103, .fromDev, 24, []⟩

/-- The request asks for an operation. -/
def IsOperation (request : CmdRequest) : Prop :=
  ∃ operation : Operation, request = operation.request

/-! ### Scripts -/

/-- The interface of a device that is asked for operations; its reply is that of `u3_send_cmd`. -/
@[reducible] def Operations : Interface where
  Request := Operation
  Reply := fun _ ↦ CmdReply

/-- Programs that ask for operations and return a value or fail. -/
abbrev Script (α : Type) := Program Operations Unit α

namespace Script

/-- The script with every operation sent as its request. -/
def requests (script : Script α) : Program Scsi Unit α :=
  script.handledBy fun operation : Operation ↦ .perform operation.request

/-- The event of a request for an operation. -/
def sent (event : Event Operations) : Event Scsi := ⟨event.request.request, event.reply⟩

/-- Asks for an operation that has to be accepted, and returns the bytes of the answer. -/
def demand (operation : Operation) : Script (List UInt8) :=
  .ask operation fun reply ↦
    if reply.Accepted then .done (reply.data.take operation.request.length) else .fail ()

/-- Asks for an operation that a wrong password refuses, and returns whether it was accepted. -/
def attempt (operation : Operation) : Script Bool :=
  .ask operation fun
    | .failure _ => .fail ()
    | .success status _ => .done (status = 0)

/-- Reads as much of a property page as its header says and the buffer holds. -/
def readFullProperty {size : ℕ} (propertyId : UInt16) (buffer : Buffer size) :
    Script (Buffer size) := do
  let page ← demand (.readProperty propertyId (pageLength buffer))
  .done (buffer.store 0 page)

/-- Reads a property page: its header, then the whole. -/
def readDeviceProperty {size : ℕ} (propertyId : UInt16) (buffer : Buffer size) :
    Script (Buffer size) :=
  if UInt16.ofNat size < propertyHeaderSize then .fail ()
  else do
    let header ← demand (.readProperty propertyId propertyHeaderSize)
    let buffer := buffer.store 0 header
    if hdrLength buffer < propertyHeaderSize then .fail ()
    else readFullProperty propertyId buffer

/-- Rounds the size of a partition. -/
def partitionSectorRound (direction : RoundDir) (size : UInt32) (roundedSize : Buffer 4) :
    Script UInt32 := do
  let answer ← demand (.roundPartition direction size)
  .done ((roundedSize.store 0 answer).word32 0)

/-- Rounds the size of a secure zone. -/
def securitySectorRound (direction : RoundDir) (size : UInt32) (roundedSize : Buffer 4) :
    Script UInt32 := do
  let answer ← demand (.roundSecurity direction size)
  .done ((roundedSize.store 0 answer).word32 0)

/-- A requested CD partition is rounded up. -/
def roundCdSize (cdSize : UInt32) (roundedSize : Buffer 4) : Script UInt32 :=
  if cdSize ≠ 0 then partitionSectorRound .up cdSize roundedSize else .done cdSize

/-- What the CD partition leaves of the device is rounded down, when the page says enough. -/
def roundDataSize (cdSize : UInt32) (page : Property03) (roundedSize : Buffer 4) : Script UInt32 :=
  if hdrLength page ≠ 39 then .fail ()
  else if cdSize > page.deviceSize then .fail ()
  else partitionSectorRound .down (page.deviceSize - cdSize) roundedSize

/-- Repartitions: both sizes are found out, and the record of them is sent. -/
def partition (cdSize : UInt32) (stack : PartitionStack) : Script Unit := do
  let cdSize ← roundCdSize cdSize stack.roundUp
  let page ← readDeviceProperty 3 stack.deviceProperties
  let dataSize ← roundDataSize cdSize page stack.roundDown
  let _ ← demand (.partition (partitionRecord dataSize cdSize))
  .done ()

/-- Reads the partition information: the part about the first partition, and if that announces a
second one, the part about both, whose status is the only one that is looked at then. -/
def partitionInfo : Script PartInfo :=
  .ask (.partitionInfo 9) fun
    | .failure _ => .fail ()
    | .success status header =>
      let info := (Buffer.fill 17 0).store 0 (header.take 9)
      if (PartInfo.decode info).partitionCount = 2 then do
        let both ← demand (.partitionInfo 16)
        .done (PartInfo.decode (info.store 0 both))
      else if status ≠ 0 then .fail ()
      else .done (PartInfo.decode info)

/-- Writes a block of the CD partition. -/
def cdWrite (blockNum : UInt32) (block : Buffer blockSize) : Script Unit := do
  let _ ← demand (.cdWrite blockNum block)
  .done ()

/-- Reads the data partition information. -/
def dataPartitionInfo : Script DpartInfo := do
  let answer ← demand .dataPartitionInfo
  .done ((Buffer.fill 16 0).store 0 answer)

/-- Reads the information about the chip. -/
def chipInfo : Script ChipInfo := do
  let answer ← demand .chipInfo
  .done ((Buffer.fill 24 0).store 0 answer)

/-- Resets the device. -/
def reset : Script Unit := do
  let _ ← demand .reset
  .done ()

/-- A zone that is not empty is rounded up. -/
def roundZoneSize (zoneSize : UInt32) (roundedSize : Buffer 4) : Script UInt32 :=
  if zoneSize ≠ 0 then securitySectorRound .up zoneSize roundedSize else .done zoneSize

/-- Makes the whole data partition a secure zone: its size, rounded up, is sent with the hash of the
password. -/
def enableSecurity (md5 : List UInt8 → Buffer 16) (password : List UInt8)
    (roundedSize : Buffer 4) : Script Unit := do
  let info ← dataPartitionInfo
  let zoneSize ← roundZoneSize info.totalSize roundedSize
  let _ ← demand (.enableSecurity zoneSize (u3PassToHash md5 password))
  .done ()

/-- Runs a script for its success alone. -/
def succeeds (script : Script α) : Script Bool := script >>= fun _ ↦ .done true

end Script

/-- What a call of a function asks of the device. -/
def CommandCall.script (md5 : List UInt8 → Buffer 16) : CommandCall → Script Bool
  | .readDeviceProperty propertyId _ buffer =>
    Script.succeeds (Script.readDeviceProperty propertyId buffer)
  | .partition cdSize stack => Script.succeeds (Script.partition cdSize stack)
  | .cdWrite blockNum block => Script.succeeds (Script.cdWrite blockNum block)
  | .partitionSectorRound direction size roundedSize =>
    Script.succeeds (Script.partitionSectorRound direction size roundedSize)
  | .securitySectorRound direction size roundedSize =>
    Script.succeeds (Script.securitySectorRound direction size roundedSize)
  | .partitionInfo => Script.succeeds Script.partitionInfo
  | .dataPartitionInfo => Script.succeeds Script.dataPartitionInfo
  | .chipInfo => Script.succeeds Script.chipInfo
  | .reset => Script.succeeds Script.reset
  | .enableSecurity password roundedSize =>
    Script.succeeds (Script.enableSecurity md5 password roundedSize)
  | .disableSecurity password => Script.attempt (.disableSecurity (u3PassToHash md5 password))
  | .unlock password => Script.attempt (.unlock (u3PassToHash md5 password))
  | .changePassword oldPassword newPassword =>
    Script.attempt
      (.changePassword (u3PassToHash md5 oldPassword) (u3PassToHash md5 newPassword))

/-! ### Carrying out a script -/

namespace Script

/-- What is made of the answer to an operation that has to be accepted. -/
theorem demand_bind (operation : Operation) (rest : List UInt8 → Script α) :
    demand operation >>= rest = .ask operation fun reply ↦
      if reply.Accepted then rest (reply.data.take operation.request.length) else .fail () := by
  refine congrArg (@Program.ask Operations Unit α operation) (funext fun reply ↦ ?_)
  by_cases haccepted : CmdReply.Accepted reply <;> simp only [haccepted, if_true, if_false] <;> rfl

/-- A script sends the requests of the operations it asks for. -/
theorem run_requests {script : Script α} {result : Except Unit α} :
    Run script.requests trace result ↔
      ∃ events, Run script events result ∧ trace = events.map sent := by
  induction script generalizing trace with
  | done value =>
    change Run (.done value : Program Scsi Unit α) trace result ↔ _
    simp only [run_done]
    constructor
    · rintro ⟨rfl, rfl⟩
      exact ⟨[], ⟨rfl, rfl⟩, rfl⟩
    · rintro ⟨events, ⟨rfl, rfl⟩, rfl⟩
      exact ⟨rfl, rfl⟩
  | fail error =>
    change Run (.fail error : Program Scsi Unit α) trace result ↔ _
    simp only [run_fail]
    constructor
    · rintro ⟨rfl, rfl⟩
      exact ⟨[], ⟨rfl, rfl⟩, rfl⟩
    · rintro ⟨events, ⟨rfl, rfl⟩, rfl⟩
      exact ⟨rfl, rfl⟩
  | ask operation next ih =>
    change Run (.ask operation.request fun reply ↦ requests (next reply) : Program Scsi Unit α)
      trace result ↔ _
    simp only [run_ask, ih]
    constructor
    · rintro ⟨reply, _, rfl, events, hevents, rfl⟩
      exact ⟨⟨operation, reply⟩ :: events, ⟨reply, events, rfl, hevents⟩, rfl⟩
    · rintro ⟨_, ⟨reply, events, rfl, hevents⟩, rfl⟩
      exact ⟨reply, events.map sent, rfl, events, hevents, rfl⟩

end Script

/-- Up to the text of its error, a program is a script with every operation sent as its request. -/
structure CarriesOut (p : Command α) (script : Script α) : Prop where
  forget_error : (p.mapError fun _ ↦ ()) = script.requests

namespace CarriesOut

theorem done (value : α) : CarriesOut (.done value) (.done value) where
  forget_error := rfl

theorem fail (error : ErrMsg) : CarriesOut (.fail error : Command α) (.fail ()) where
  forget_error := rfl

theorem bind {p : Command α} {script : Script α} {continuation : α → Command β}
    {rest : α → Script β} (hp : CarriesOut p script)
    (hrest : ∀ value, CarriesOut (continuation value) (rest value)) :
    CarriesOut (p >>= continuation) (script >>= rest) where
  forget_error := by
    rw [mapError_bind, hp.forget_error, Script.requests, Script.requests, handledBy_bind]
    exact congrArg _ (funext fun value ↦ (hrest value).forget_error)

/-- One command, with what is made of its status and of the bytes that arrived. -/
theorem sendCmd (operation : Operation) {cmd : Cdb} {direction : DataDirection} {length : ℕ}
    {data : List UInt8} {continuation : UInt8 × List UInt8 → Command α}
    {rest : CmdReply → Script α} (hrequest : operation.request = ⟨cmd, direction, length, data⟩)
    (hfailure : ∀ error, rest (.failure error) = .fail ())
    (hsuccess : ∀ status received, CarriesOut (continuation (status, received.take length))
      (rest (.success status received))) :
    CarriesOut (u3SendCmd cmd direction length data >>= continuation) (.ask operation rest) where
  forget_error := by
    rw [u3SendCmd, ask_bind, ← hrequest]
    refine congrArg (@Program.ask Scsi Unit α operation.request) (funext fun reply ↦ ?_)
    cases reply with
    | failure error =>
      change _ = Script.requests (rest (.failure error))
      rw [hfailure]
      rfl
    | success status received => exact (hsuccess status received).forget_error

/-- A command whose caller gives up when its status is not zero. -/
theorem demand (operation : Operation) {cmd : Cdb} {direction : DataDirection} {length : ℕ}
    {data : List UInt8} {continuation : UInt8 × List UInt8 → Command α}
    {error : UInt8 → List UInt8 → ErrMsg} {next : List UInt8 → Command α}
    {rest : List UInt8 → Script α} (hrequest : operation.request = ⟨cmd, direction, length, data⟩)
    (htest : ∀ status received, continuation (status, received) =
      if status ≠ 0 then .fail (error status received) else next received)
    (hnext : ∀ received, CarriesOut (next received) (rest received)) :
    CarriesOut (u3SendCmd cmd direction length data >>= continuation)
      (Script.demand operation >>= rest) := by
  rw [Script.demand_bind]
  refine sendCmd operation hrequest (fun error ↦ if_neg (accepted_failure error))
    fun status received ↦ ?_
  rw [htest]
  by_cases hstatus : status = 0
  · rw [if_neg (not_not.mpr hstatus), if_pos ((accepted_success status received).mpr hstatus),
      hrequest]
    exact hnext _
  · rw [if_pos hstatus, if_neg (mt (accepted_success status received).mp hstatus)]
    exact .fail _

/-- The text of the error does not matter. -/
theorem mapError {p : Command α} {script : Script α} (hp : CarriesOut p script)
    (f : ErrMsg → ErrMsg) : CarriesOut (p.mapError f) script where
  forget_error := by rw [mapError_mapError, ← hp.forget_error]

theorem ite {condition : Prop} [Decidable condition] {p q : Command α} {first second : Script α}
    (hp : CarriesOut p first) (hq : CarriesOut q second) :
    CarriesOut (if condition then p else q) (if condition then first else second) := by
  split_ifs
  · exact hp
  · exact hq

theorem succeeds {p : Command α} {script : Script α} (hp : CarriesOut p script) :
    CarriesOut (U3Tool.succeeds p) script.succeeds :=
  hp.bind fun _ ↦ .done true

/-- A run of a program that carries out a script is a run of the script, operation by operation. -/
theorem run {p : Command α} {script : Script α} (hp : CarriesOut p script)
    {result : Except ErrMsg α} (hrun : Run p trace result) :
    ∃ events, Run script events (result.mapError fun _ ↦ ()) ∧ trace = events.map Script.sent :=
  Script.run_requests.mp (hp.forget_error ▸ run_mapError.mpr ⟨result, rfl, hrun⟩)

/-- A program that carries out a script sends requests of operations. -/
theorem asks {p : Command α} {script : Script α} (hp : CarriesOut p script) :
    Asks IsOperation p where
  of_run hrun event hevent := by
    obtain ⟨events, -, rfl⟩ := hp.run hrun
    obtain ⟨operated, -, rfl⟩ := List.mem_map.mp hevent
    exact ⟨operated.request, rfl⟩

end CarriesOut

/-! ### The functions of the command layer -/

/-- A command that fails with a status demands its operation. -/
theorem carriesOut_deviceCommand (operation : Operation) {cmd : Cdb} {direction : DataDirection}
    {length : ℕ} {data : List UInt8}
    (hrequest : operation.request = ⟨cmd, direction, length, data⟩) :
    CarriesOut (deviceCommand cmd direction length data) (Script.demand operation) := by
  rw [← bind_done (Script.demand operation)]
  exact .demand operation hrequest (fun _ _ ↦ rfl) fun received ↦ .done received

/-- Sending a password attempts its operation. -/
theorem carriesOut_passwordCommand (operation : Operation) {cmd : Cdb} {hashes : List UInt8}
    (hrequest : operation.request = ⟨cmd, .toDev, hashes.length, hashes⟩) :
    CarriesOut (passwordCommand cmd hashes) (Script.attempt operation) :=
  .sendCmd operation hrequest (fun _ ↦ rfl) fun _ _ ↦ .done _

theorem carriesOut_readFullProperty {size : ℕ} (propertyId : UInt16) (buffer : Buffer size) :
    CarriesOut (readFullProperty propertyId buffer) (Script.readFullProperty propertyId buffer) :=
  .demand (.readProperty propertyId (pageLength buffer)) rfl (fun _ _ ↦ rfl) fun _ ↦ .done _

theorem carriesOut_u3ReadDeviceProperty {size : ℕ} (propertyId : UInt16) (buffer : Buffer size) :
    CarriesOut (u3ReadDeviceProperty propertyId buffer)
      (Script.readDeviceProperty propertyId buffer) :=
  .ite (.fail _) (.demand (.readProperty propertyId propertyHeaderSize) rfl (fun _ _ ↦ rfl)
    fun _ ↦ .ite (.fail _) (carriesOut_readFullProperty _ _))

theorem carriesOut_u3PartitionSectorRound (direction : RoundDir) (size : UInt32)
    (roundedSize : Buffer 4) :
    CarriesOut (u3PartitionSectorRound direction size roundedSize)
      (Script.partitionSectorRound direction size roundedSize) :=
  (carriesOut_deviceCommand (.roundPartition direction size) rfl).bind fun _ ↦ .done _

theorem carriesOut_u3SecuritySectorRound (direction : RoundDir) (size : UInt32)
    (roundedSize : Buffer 4) :
    CarriesOut (u3SecuritySectorRound direction size roundedSize)
      (Script.securitySectorRound direction size roundedSize) :=
  (carriesOut_deviceCommand (.roundSecurity direction size) rfl).bind fun _ ↦ .done _

theorem carriesOut_roundCdSize (cdSize : UInt32) (roundedSize : Buffer 4) :
    CarriesOut (roundCdSize cdSize roundedSize) (Script.roundCdSize cdSize roundedSize) :=
  .ite ((carriesOut_u3PartitionSectorRound _ _ _).mapError _) (.done _)

theorem carriesOut_roundDataSize (cdSize : UInt32) (page : Property03) (roundedSize : Buffer 4) :
    CarriesOut (roundDataSize cdSize page roundedSize)
      (Script.roundDataSize cdSize page roundedSize) :=
  .ite (.fail _) (.ite (.fail _) ((carriesOut_u3PartitionSectorRound _ _ _).mapError _))

theorem carriesOut_u3Partition (cdSize : UInt32) (stack : PartitionStack) :
    CarriesOut (u3Partition cdSize stack) (Script.partition cdSize stack) :=
  (carriesOut_roundCdSize _ _).bind fun _ ↦
    ((carriesOut_u3ReadDeviceProperty _ _).mapError _).bind fun _ ↦
    (carriesOut_roundDataSize _ _ _).bind fun _ ↦
    (carriesOut_deviceCommand (.partition _) rfl).bind fun _ ↦ .done _

theorem carriesOut_u3PartitionInfo : CarriesOut u3PartitionInfo Script.partitionInfo := by
  refine .sendCmd (.partitionInfo 9) rfl (fun _ ↦ rfl) fun status header ↦ ?_
  dsimp only [done_bind]
  split_ifs
  · exact .demand (.partitionInfo 16) rfl (fun _ _ ↦ rfl) fun _ ↦ .done _
  · exact .fail _
  · exact .done _

theorem carriesOut_u3DataPartitionInfo :
    CarriesOut u3DataPartitionInfo Script.dataPartitionInfo :=
  (carriesOut_deviceCommand .dataPartitionInfo rfl).bind fun _ ↦ .done _

theorem carriesOut_roundZoneSize (zoneSize : UInt32) (roundedSize : Buffer 4) :
    CarriesOut (roundZoneSize zoneSize roundedSize) (Script.roundZoneSize zoneSize roundedSize) :=
  .ite ((carriesOut_u3SecuritySectorRound _ _ _).mapError _) (.done _)

theorem carriesOut_u3EnableSecurity (md5 : List UInt8 → Buffer 16) (password : List UInt8)
    (roundedSize : Buffer 4) :
    CarriesOut (u3EnableSecurity md5 password roundedSize)
      (Script.enableSecurity md5 password roundedSize) :=
  (carriesOut_u3DataPartitionInfo.mapError _).bind fun _ ↦
    (carriesOut_roundZoneSize _ _).bind fun zoneSize ↦
    (carriesOut_deviceCommand (.enableSecurity zoneSize (u3PassToHash md5 password)) rfl).bind
      fun _ ↦ .done _

theorem carriesOut_u3CdWrite (blockNum : UInt32) (block : Buffer blockSize) :
    CarriesOut (u3CdWrite blockNum block) (Script.cdWrite blockNum block) :=
  (carriesOut_deviceCommand (.cdWrite blockNum block) rfl).bind fun _ ↦ .done _

theorem carriesOut_u3ChipInfo : CarriesOut u3ChipInfo Script.chipInfo :=
  (carriesOut_deviceCommand .chipInfo rfl).bind fun _ ↦ .done _

theorem carriesOut_u3Reset : CarriesOut u3Reset Script.reset :=
  (carriesOut_deviceCommand .reset rfl).bind fun _ ↦ .done _

theorem carriesOut_u3DisableSecurity (md5 : List UInt8 → Buffer 16) (password : List UInt8) :
    CarriesOut (u3DisableSecurity md5 password)
      (Script.attempt (.disableSecurity (u3PassToHash md5 password))) :=
  carriesOut_passwordCommand (.disableSecurity _) (by rw [Buffer.length_bytes]; rfl)

theorem carriesOut_u3Unlock (md5 : List UInt8 → Buffer 16) (password : List UInt8) :
    CarriesOut (u3Unlock md5 password) (Script.attempt (.unlock (u3PassToHash md5 password))) :=
  carriesOut_passwordCommand (.unlock _) (by rw [Buffer.length_bytes]; rfl)

theorem carriesOut_u3ChangePassword (md5 : List UInt8 → Buffer 16)
    (oldPassword newPassword : List UInt8) :
    CarriesOut (u3ChangePassword md5 oldPassword newPassword) (Script.attempt
      (.changePassword (u3PassToHash md5 oldPassword) (u3PassToHash md5 newPassword))) :=
  carriesOut_passwordCommand (.changePassword _ _) (by
    rw [List.length_append, Buffer.length_bytes, Buffer.length_bytes]
    rfl)

/-- Every call carries out its script. -/
theorem carriesOut_script (md5 : List UInt8 → Buffer 16) (call : CommandCall) :
    CarriesOut (call.run md5) (call.script md5) := by
  cases call with
  | readDeviceProperty propertyId bufferLength buffer =>
    exact (carriesOut_u3ReadDeviceProperty _ _).succeeds
  | partition cdSize stack => exact (carriesOut_u3Partition _ _).succeeds
  | cdWrite blockNum block => exact (carriesOut_u3CdWrite _ _).succeeds
  | partitionSectorRound direction size roundedSize =>
    exact (carriesOut_u3PartitionSectorRound _ _ _).succeeds
  | securitySectorRound direction size roundedSize =>
    exact (carriesOut_u3SecuritySectorRound _ _ _).succeeds
  | partitionInfo => exact carriesOut_u3PartitionInfo.succeeds
  | dataPartitionInfo => exact carriesOut_u3DataPartitionInfo.succeeds
  | chipInfo => exact carriesOut_u3ChipInfo.succeeds
  | reset => exact carriesOut_u3Reset.succeeds
  | enableSecurity password roundedSize => exact (carriesOut_u3EnableSecurity _ _ _).succeeds
  | disableSecurity password => exact carriesOut_u3DisableSecurity md5 password
  | unlock password => exact carriesOut_u3Unlock md5 password
  | changePassword oldPassword newPassword =>
    exact carriesOut_u3ChangePassword md5 oldPassword newPassword

end U3Tool
