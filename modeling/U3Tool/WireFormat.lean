import U3Tool.Operations
import U3Tool.UsbTransport

/-!
# What travels on the wire

`decodeOperation` reads a command block and its payload by the layouts of `doc/commands.txt`, field
by field and with the byte order given there; `decodeCbw` reads a command block wrapper by the
layout of the bulk-only transport.

The bytes written for an operation decode to that operation with its direction and transfer length
(`decodeWire_wireBytes`), so two operations never share their bytes; and what a call of the command
layer sends decodes to the operations of its script, with the arguments of the call
(`operations_decode`).
-/

set_option autoImplicit false
set_option relaxedAutoImplicit false

namespace U3Tool

open Interaction Bytes Program

/-! ### The layouts of the command blocks -/

/-- The bytes as an array of a size, if there are that many. -/
def toBuffer (size : ℕ) (bytes : List UInt8) : Option (Buffer size) :=
  if hsize : bytes.length = size then some ⟨bytes, hsize⟩ else none

/-- The direction to round in: 0 is down, 1 is up. -/
def decodeRoundDir (byte : UInt8) : Option RoundDir :=
  if byte = 0 then some .down else if byte = 1 then some .up else none

/-- Reads a command block by the layout of its command: byte 0 is the SCSI opcode, bytes 1 and 2 are
the command. All fields are little-endian except the block address of a CD write. The number of
bytes of partition information that are asked for is the transfer length. -/
def decodeOperation (cdb : Cdb) (length : UInt32) (data : List UInt8) : Option Operation :=
  if cdb.byte 0 ≠ 0xFF then none
  else
    match (cdb.word16 1).toNat with
    | 0x00 => some (.readProperty (cdb.word16 3) (cdb.word16 5))
    | 0x20 => (decodeRoundDir (cdb.byte 8)).map fun direction ↦
        .roundPartition direction (cdb.word32 4)
    | 0x21 => some (.partitionInfo length.toUInt16)
    | 0x22 => (toBuffer 17 data).map fun record ↦ .partition (PartInfo.decode record)
    | 0x42 => (toBuffer blockSize data).map fun block ↦
        .cdWrite (leUInt32 (cdb.slice 4 4).reverse) block
    | 0xA0 => some .dataPartitionInfo
    | 0xA2 => (toBuffer 16 (data.drop 4)).map fun hash ↦
        .enableSecurity (leUInt32 (data.take 4)) hash
    | 0xA3 => (decodeRoundDir (cdb.byte 8)).map fun direction ↦
        .roundSecurity direction (cdb.word32 4)
    | 0xA4 => (toBuffer 16 data).map .unlock
    | 0xA6 => (toBuffer 16 (data.take 16)).bind fun oldHash ↦
        (toBuffer 16 (data.drop 16)).map fun newHash ↦ .changePassword oldHash newHash
    | 0xA7 => (toBuffer 16 data).map .disableSecurity
    | 0x101 => some .reset
    | 0x103 => some .chipInfo
    | _ => none

@[simp] theorem toBuffer_bytes {size : ℕ} (buffer : Buffer size) :
    toBuffer size buffer.bytes = some buffer :=
  dif_pos buffer.length_bytes

@[simp] theorem decodeRoundDir_toByte (direction : RoundDir) :
    decodeRoundDir direction.toByte = some direction := by
  cases direction <;> rfl

/-- A record survives its layout. -/
theorem decode_encode (record : PartInfo) (hlength : record.encode.length = 17) :
    PartInfo.decode ⟨record.encode, hlength⟩ = record :=
  PartInfo.ext rfl (leUInt32_leBytes record.unknown1) (leUInt32_leBytes record.dataSize)
    (leUInt32_leBytes record.unknown2) (leUInt32_leBytes record.cdSize)

/-- The fields of a rounding command block. -/
theorem fields_roundCommand (cmd : Cdb) (direction : RoundDir) (size : UInt32) :
    (roundCommand cmd direction size).byte 0 = cmd.byte 0 ∧
      (roundCommand cmd direction size).byte 8 = direction.toByte ∧
      (roundCommand cmd direction size).word32 4 = size := by
  have hbytes : (roundCommand cmd direction size).byte 0 = cmd.byte 0 ∧
      (roundCommand cmd direction size).byte 8 = direction.toByte := by
    obtain ⟨bytes, hbytes⟩ := cmd
    match bytes, hbytes with
    | [_, _, _, _, _, _, _, _, _, _, _, _], _ => exact ⟨rfl, rfl⟩
  rw [Buffer.word32, slice_roundCommand, leUInt32_leBytes]
  exact ⟨hbytes.1, hbytes.2, rfl⟩

/-- The command block and the payload of an operation decode to it. -/
theorem decodeOperation_request (operation : Operation) :
    decodeOperation operation.request.cmd (UInt32.ofNat operation.request.length)
      operation.request.data = some operation := by
  cases operation with
  | readProperty propertyId length =>
    have hid : (propertyCommand propertyId length).word16 3 = propertyId :=
      leUInt16_leBytes propertyId
    have hlength : (propertyCommand propertyId length).word16 5 = length := leUInt16_leBytes length
    change some (Operation.readProperty ((propertyCommand propertyId length).word16 3)
      ((propertyCommand propertyId length).word16 5)) = _
    rw [hid, hlength]
  | roundPartition direction size =>
    obtain ⟨hopcode, hdirection, hsize⟩ := fields_roundCommand partitionRoundCommand direction size
    change decodeOperation (roundCommand partitionRoundCommand direction size) _ _ = _
    rw [decodeOperation, hopcode, word16_roundCommand, hdirection, hsize]
    rw [if_neg (by decide)]
    change (decodeRoundDir direction.toByte).map _ = _
    simp
  | partitionInfo length =>
    change some (Operation.partitionInfo (UInt32.ofNat length.toNat).toUInt16) = _
    simp
  | partition record =>
    have hlength : record.encode.length = 17 := by simp [PartInfo.encode]
    change (toBuffer 17 record.encode).map
      (fun bytes ↦ Operation.partition (PartInfo.decode bytes)) = _
    rw [toBuffer, dif_pos hlength, Option.map_some, decode_encode]
  | cdWrite blockNum block =>
    have hnum : leUInt32 ((cdWriteCommand blockNum).slice 4 4).reverse = blockNum := by
      rw [slice_cdWriteCommand]
      simp
    change (toBuffer blockSize block.bytes).map (fun block ↦
      Operation.cdWrite (leUInt32 ((cdWriteCommand blockNum).slice 4 4).reverse) block) = _
    rw [toBuffer_bytes, Option.map_some, hnum]
  | dataPartitionInfo => rfl
  | enableSecurity zoneSize hash =>
    change (toBuffer 16 ((leBytes 4 zoneSize.toNat ++ hash.bytes).drop 4)).map (fun hash' ↦
      Operation.enableSecurity (leUInt32 ((leBytes 4 zoneSize.toNat ++ hash.bytes).take 4))
        hash') = _
    simp
  | roundSecurity direction size =>
    obtain ⟨hopcode, hdirection, hsize⟩ := fields_roundCommand (plainCommand 0xA3) direction size
    change decodeOperation (roundCommand (plainCommand 0xA3) direction size) _ _ = _
    rw [decodeOperation, hopcode, word16_roundCommand, hdirection, hsize]
    rw [if_neg (by decide)]
    change (decodeRoundDir direction.toByte).map _ = _
    simp
  | unlock hash =>
    change (toBuffer 16 hash.bytes).map _ = _
    simp
  | changePassword oldHash newHash =>
    change (toBuffer 16 ((oldHash.bytes ++ newHash.bytes).take 16)).bind (fun first ↦
      (toBuffer 16 ((oldHash.bytes ++ newHash.bytes).drop 16)).map fun second ↦
        Operation.changePassword first second) = _
    simp
  | disableSecurity hash =>
    change (toBuffer 16 hash.bytes).map _ = _
    simp
  | reset => rfl
  | chipInfo => rfl

/-! ### The command block wrapper -/

/-- A command block wrapper of the bulk-only transport. -/
structure CommandBlockWrapper where
  tag : UInt32
  transferLength : UInt32
  flags : UInt8
  lun : UInt8
  cmd : Cdb

/-- Reads the 31 bytes of a wrapper with a command block of 12 bytes: signature, tag, transfer
length, flags, logical unit, length of the command block, command block. -/
def decodeCbw (bytes : List UInt8) : Option CommandBlockWrapper :=
  if hlength : bytes.length = 31 then
    let wrapper : Buffer 31 := ⟨bytes, hlength⟩
    if wrapper.slice 0 4 = ascii "USBC" ∧ wrapper.byte 14 = 12 then
      some {
        tag := wrapper.word32 4
        transferLength := wrapper.word32 8
        flags := wrapper.byte 12
        lun := wrapper.byte 13
        cmd := ⟨wrapper.slice 15 12, Buffer.length_slice (by decide)⟩ }
    else none
  else none

/-- The direction of the data phase a wrapper announces. -/
def CommandBlockWrapper.direction (wrapper : CommandBlockWrapper) : DataDirection :=
  if wrapper.flags = 0x80 then .fromDev
  else if wrapper.transferLength = 0 then .none
  else .toDev

/-- The bytes written to the device for a call: the wrapper and the outgoing data. -/
def wireBytes (request : CmdRequest) : List UInt8 := cbw request ++ request.data

/-- Reads the operation, the direction and the transfer length off the bytes written. -/
def decodeWire (bytes : List UInt8) : Option (Operation × DataDirection × UInt32) :=
  (decodeCbw (bytes.take 31)).bind fun wrapper ↦
    (decodeOperation wrapper.cmd wrapper.transferLength (bytes.drop 31)).map fun operation ↦
      (operation, wrapper.direction, wrapper.transferLength)

/-- A wrapper decodes to what it was built from. -/
theorem decodeCbw_cbw (request : CmdRequest) :
    decodeCbw (cbw request) = some {
      tag := cbwTag
      transferLength := UInt32.ofNat request.dxferLength
      flags := request.flags
      lun := 1
      cmd := request.cmd } := by
  have hlength : leUInt32 (leBytes 4 request.dxferLength) = UInt32.ofNat request.dxferLength := by
    apply UInt32.toNat_inj.mp
    rw [toNat_leUInt32 (by simp), leNat_leBytes, UInt32.toNat_ofNat']
    norm_num
  have hcmd : (request.cmd.bytes ++ [0, 0, 0, 0]).take 12 = request.cmd.bytes :=
    List.take_left' request.cmd.length_bytes
  rw [decodeCbw, dif_pos (length_cbw request), ← hlength, ← show
    (⟨(request.cmd.bytes ++ [0, 0, 0, 0]).take 12, by simp⟩ : Cdb) = request.cmd from
      Buffer.ext hcmd]
  exact if_pos ⟨rfl, rfl⟩

/-- A call has a data phase of a length that fits the wrapper: it receives and sends nothing, or it
sends as many bytes as it announces, at least one. -/
structure CmdRequest.HasDataPhase (request : CmdRequest) : Prop where
  length_lt : request.length < 2 ^ 32
  phase : request.direction = .fromDev ∧ request.data = [] ∨
    request.direction = .toDev ∧ 0 < request.length ∧ request.data.length = request.length

theorem hasDataPhase_incoming (cmd : Cdb) {length : ℕ} (hlt : length < 2 ^ 32) :
    CmdRequest.HasDataPhase ⟨cmd, .fromDev, length, []⟩ where
  length_lt := hlt
  phase := Or.inl ⟨rfl, rfl⟩

theorem hasDataPhase_outgoing (cmd : Cdb) {length : ℕ} {data : List UInt8} (hpos : 0 < length)
    (hlt : length < 2 ^ 32) (hdata : data.length = length) :
    CmdRequest.HasDataPhase ⟨cmd, .toDev, length, data⟩ where
  length_lt := hlt
  phase := Or.inr ⟨rfl, hpos, hdata⟩

/-- Every operation has a data phase. -/
theorem Operation.hasDataPhase (operation : Operation) : operation.request.HasDataPhase := by
  have hword (length : UInt16) : length.toNat < 2 ^ 32 := length.toNat_lt.trans (by norm_num)
  cases operation with
  | readProperty propertyId length => exact hasDataPhase_incoming _ (hword length)
  | roundPartition direction size => exact hasDataPhase_incoming _ (by norm_num)
  | partitionInfo length => exact hasDataPhase_incoming _ (hword length)
  | partition record =>
    exact hasDataPhase_outgoing _ (by norm_num) (by norm_num) (by simp [PartInfo.encode])
  | cdWrite blockNum block =>
    exact hasDataPhase_outgoing _ (by norm_num) (by norm_num) block.length_bytes
  | dataPartitionInfo => exact hasDataPhase_incoming _ (by norm_num)
  | enableSecurity zoneSize hash =>
    exact hasDataPhase_outgoing _ (by norm_num) (by norm_num) (by simp)
  | roundSecurity direction size => exact hasDataPhase_incoming _ (by norm_num)
  | unlock hash => exact hasDataPhase_outgoing _ (by norm_num) (by norm_num) hash.length_bytes
  | changePassword oldHash newHash =>
    exact hasDataPhase_outgoing _ (by norm_num) (by norm_num) (by simp)
  | disableSecurity hash =>
    exact hasDataPhase_outgoing _ (by norm_num) (by norm_num) hash.length_bytes
  | reset => exact hasDataPhase_outgoing _ (by norm_num) (by norm_num) rfl
  | chipInfo => exact hasDataPhase_incoming _ (by norm_num)

/-- The wrapper of a call with a data phase announces its direction and length. -/
theorem decodeCbw_of_hasDataPhase {request : CmdRequest} (hphase : request.HasDataPhase) :
    ∃ wrapper, decodeCbw (cbw request) = some wrapper ∧ wrapper.cmd = request.cmd ∧
      wrapper.transferLength = UInt32.ofNat request.length ∧
      wrapper.direction = request.direction := by
  refine ⟨_, decodeCbw_cbw request, rfl, ?_⟩
  rcases hphase.phase with ⟨hfrom, -⟩ | ⟨hto, hpos, -⟩
  · simp [CommandBlockWrapper.direction, CmdRequest.flags, CmdRequest.dxferLength, hfrom]
  · have hnonzero : UInt32.ofNat request.length ≠ 0 := by
      intro hzero
      have hnat := congrArg UInt32.toNat hzero
      rw [UInt32.toNat_ofNat', Nat.mod_eq_of_lt hphase.length_lt, UInt32.toNat_zero] at hnat
      omega
    simp [CommandBlockWrapper.direction, CmdRequest.flags, CmdRequest.dxferLength, hto, hnonzero]

/-- The bytes written for an operation decode to it, to its direction and to its length. -/
theorem decodeWire_wireBytes (operation : Operation) :
    decodeWire (wireBytes operation.request) = some (operation, operation.request.direction,
      UInt32.ofNat operation.request.length) := by
  obtain ⟨wrapper, hwrapper, hcmd, hlength, hdirection⟩ :=
    decodeCbw_of_hasDataPhase operation.hasDataPhase
  have htake : (wireBytes operation.request).take 31 = cbw operation.request :=
    List.take_left' (length_cbw _)
  have hdrop : (wireBytes operation.request).drop 31 = operation.request.data :=
    List.drop_left' (length_cbw _)
  rw [decodeWire, htake, hdrop, hwrapper, Option.bind_some, hcmd, hlength, hdirection,
    decodeOperation_request, Option.map_some]

/-! ### Every call of the command layer -/

/-- Operations that are written as the same bytes are the same. -/
theorem wireBytes_request_injective :
    Function.Injective fun operation : Operation ↦ wireBytes operation.request := by
  intro first second hsame
  have hdecoded := congrArg decodeWire hsame
  rw [decodeWire_wireBytes, decodeWire_wireBytes] at hdecoded
  exact (Prod.mk.inj (Option.some.inj hdecoded)).1

/-- The requests that were sent and their replies tell the operations that were asked for. -/
theorem sent_injective : Function.Injective Script.sent := by
  rintro ⟨first, reply⟩ ⟨second, reply'⟩ hsame
  obtain ⟨hrequest, hreply⟩ := Event.mk.inj hsame
  obtain rfl := wireBytes_request_injective (congrArg wireBytes hrequest)
  exact congrArg (Event.mk _) (eq_of_heq hreply)

/-- In every run, a call of the command layer asks for the operations of its script, that is, for
those with its own arguments: each command it sends is the request of the operation the script asks
for next, and what is written for it decodes to that operation. The bytes written for an operation,
its command block wrapper and its payload, decode by the documented layouts to the operation with
all its parameters, to the direction of its data phase and to its length; hence different operations
are never written as the same bytes. -/
theorem operations_decode :
    (∀ (md5 : List UInt8 → Buffer 16) (call : CommandCall) (trace : List (Event Scsi))
        (result : Except ErrMsg Bool), Run (call.run md5) trace result →
      ∃ events : List (Event Operations),
        Run (call.script md5) events (result.mapError fun _ ↦ ()) ∧
          trace = events.map Script.sent ∧
          trace.map (fun event ↦ decodeWire (wireBytes event.request)) =
            events.map fun event ↦ some (event.request, event.request.request.direction,
              UInt32.ofNat event.request.request.length)) ∧
      (∀ operation : Operation, operation.request.length < 2 ^ 32 ∧
        decodeOperation operation.request.cmd (UInt32.ofNat operation.request.length)
          operation.request.data = some operation ∧
        (cbw operation.request).length = 31 ∧
        decodeWire (wireBytes operation.request) = some (operation, operation.request.direction,
          UInt32.ofNat operation.request.length)) ∧
      Function.Injective fun operation : Operation ↦ wireBytes operation.request := by
  refine ⟨fun md5 call trace result hrun ↦ ?_,
    fun operation ↦ ⟨operation.hasDataPhase.length_lt, decodeOperation_request operation,
      length_cbw _, decodeWire_wireBytes operation⟩, wireBytes_request_injective⟩
  obtain ⟨events, hevents, rfl⟩ := (carriesOut_script md5 call).run hrun
  refine ⟨events, hevents, rfl, ?_⟩
  rw [List.map_map]
  exact List.map_congr_left fun event _ ↦ decodeWire_wireBytes event.request

/-- A device with a data partition of 1001 sectors that rounds secure zones to 1008. -/
def roundingDevice : Surroundings Scsi Unit := fun _ request ↦
  if request.command = 0xA0 then (.success 0 (leBytes 4 1001), ())
  else if request.command = 0xA3 then (.success 0 (leBytes 4 1008), ())
  else (.success 0 [], ())

/-- Securing that device asks for its size, has it rounded up, and sends the rounded size with the
hash of the password: what is written for the three commands decodes to this. -/
theorem operations_decode_witness :
    ((exec roundingDevice ((CommandCall.enableSecurity (ascii "secret") (.fill 4 0)).run
        fun text ↦ .fill 16 (text.headD 0)) ()).trace.map fun event ↦
          decodeWire (wireBytes event.request)) =
      [some (.dataPartitionInfo, .fromDev, 16), some (.roundSecurity .up 1001, .fromDev, 4),
        some (.enableSecurity 1008 (.fill 16 0x73), .toDev, 20)] := by
  obtain ⟨events, -, htrace, hdecodes⟩ := operations_decode.1
    (fun text ↦ .fill 16 (text.headD 0)) (.enableSecurity (ascii "secret") (.fill 4 0)) _ _
    (run_exec roundingDevice _ ())
  have hsent : events.map Script.sent = List.map Script.sent
      [⟨.dataPartitionInfo, .success 0 (leBytes 4 1001)⟩,
        ⟨.roundSecurity .up 1001, .success 0 (leBytes 4 1008)⟩,
        ⟨.enableSecurity 1008 (.fill 16 0x73), .success 0 []⟩] := by
    rw [← htrace]
    rfl
  rw [hdecodes, List.map_injective_iff.mpr sent_injective hsent]
  rfl

end U3Tool
