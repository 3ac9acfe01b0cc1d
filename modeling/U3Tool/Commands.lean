import U3Tool.Scsi

/-!
# The command layer, `u3_commands.c`

Every function of `u3_commands.c` that talks to the device, over the interface of `Scsi`. A packed
structure that is filled by a transfer is a `Buffer` of its size, read through its field offsets; a
local variable of the source that is not initialized is an argument giving its initial contents, so
that what depends on it is visible. The command blocks are the literals of the source with the
overlay fields stored at their offsets.

Functions of the source that differ only in a command block share one definition: `deviceCommand`
sends a command and turns a non-zero status into a failure, `passwordCommand` sends password hashes
and returns whether the status was zero.
-/

set_option autoImplicit false
set_option relaxedAutoImplicit false

namespace U3Tool

open Interaction Bytes

/-! ### Structures, `u3_commands.h` -/

/-- `sizeof(struct property_header)`. -/
def propertyHeaderSize : UInt16 := 6

/-- `hdr.length` of a property page, bytes 4 and 5. -/
def hdrLength {size : ℕ} (page : Buffer size) : UInt16 := page.word16 4

/-- `struct property_03` as received, 39 bytes. -/
abbrev Property03 := Buffer 39

/-- `device_size` of property page 0x03, in sectors. -/
def Property03.deviceSize (page : Property03) : UInt32 := page.word32 35

/-- `struct property_0C` as received, 10 bytes. -/
abbrev Property0C := Buffer 10

/-- `max_pass_try` of property page 0x0C. -/
def Property0C.maxPassTry (page : Property0C) : UInt32 := page.word32 6

/-- `struct part_info`; sizes in sectors. -/
@[ext] structure PartInfo where
  partitionCount : UInt8
  unknown1 : UInt32
  dataSize : UInt32
  unknown2 : UInt32
  cdSize : UInt32
  deriving DecidableEq

/-- The 17 bytes of a packed `struct part_info`. -/
def PartInfo.encode (info : PartInfo) : List UInt8 :=
  info.partitionCount :: (leBytes 4 info.unknown1.toNat ++ leBytes 4 info.dataSize.toNat ++
    leBytes 4 info.unknown2.toNat ++ leBytes 4 info.cdSize.toNat)

/-- The fields of a packed `struct part_info`. -/
def PartInfo.decode (record : Buffer 17) : PartInfo where
  partitionCount := (record.slice 0 1).headD 0
  unknown1 := record.word32 1
  dataSize := record.word32 5
  unknown2 := record.word32 9
  cdSize := record.word32 13

/-- `struct dpart_info` as received, 16 bytes. -/
abbrev DpartInfo := Buffer 16

/-- `total_size`, the size of the data partition in sectors. -/
def DpartInfo.totalSize (info : DpartInfo) : UInt32 := info.word32 0

/-- `secured_size`, the size of the secured zone in sectors. -/
def DpartInfo.securedSize (info : DpartInfo) : UInt32 := info.word32 4

/-- `unlocked`, non-zero when the secured zone is unlocked. -/
def DpartInfo.unlocked (info : DpartInfo) : UInt32 := info.word32 8

/-- `pass_try`, the number of wrong password tries. -/
def DpartInfo.passTry (info : DpartInfo) : UInt32 := info.word32 12

/-- `struct chip_info` as received: 8 bytes of revision, 16 bytes of manufacturer. -/
abbrev ChipInfo := Buffer 24

/-- `enum round_dir`. -/
inductive RoundDir
  | down
  | up
  deriving DecidableEq

/-- The value of a `round_dir`. -/
def RoundDir.toByte : RoundDir → UInt8
  | .down => 0
  | .up => 1

/-! ### Shared shapes -/

/-- Sends a command and fails, with the text the source has in every such place, when the device
answers a non-zero status. Returns the bytes received. -/
def deviceCommand (cmd : Cdb) (direction : DataDirection) (length : ℕ) (data : List UInt8) :
    Command (List UInt8) := do
  let (status, received) ← u3SendCmd cmd direction length data
  if status ≠ 0 then
    .fail (u3SetError s!"Device reported command failed: status {status.toNat}")
  else
    .done received

/-- Sends password hashes. A non-zero status is no failure here: it is returned as a false
`*result`. -/
def passwordCommand (cmd : Cdb) (hashes : List UInt8) : Command Bool := do
  let (status, _) ← u3SendCmd cmd .toDev hashes.length hashes
  .done (status = 0)

/-! ### Property pages -/

/-- The command block of a property read, patched with the page number and the length. -/
def propertyCommand (propertyId length : UInt16) : Cdb :=
  let cmd : Cdb := ⟨[0xff, 0x00, 0x00, 0x00, 0x00, 0x00, 0x00, 0x00, 0x00, 0x00, 0x00, 0x00], rfl⟩
  (cmd.store 3 (leBytes 2 propertyId.toNat)).store 5 (leBytes 2 length.toNat)

/-- The length the full read asks for, from the header in the buffer: `hdr->length`, at most the
`uint16_t` the size of the buffer was passed as. -/
def pageLength {size : ℕ} (header : Buffer size) : UInt16 :=
  if hdrLength header > UInt16.ofNat size then UInt16.ofNat size else hdrLength header

/-- The second half of `u3_read_device_property`: as much of the page as its length field says and
the buffer holds is read over the header. -/
def readFullProperty {size : ℕ} (propertyId : UInt16) (buffer : Buffer size) :
    Command (Buffer size) := do
  let length := pageLength buffer
  let (status, page) ← u3SendCmd (propertyCommand propertyId length) .fromDev length.toNat []
  if status ≠ 0 then
    .fail (u3SetError s!"Property 0x{upperHex 4 propertyId.toNat} could not be read.")
  else
    .done (buffer.store 0 page)

/-- `u3_read_device_property`: the header is read first, to prevent reading too much data, then the
page, both into the same buffer. -/
def u3ReadDeviceProperty {size : ℕ} (propertyId : UInt16) (buffer : Buffer size) :
    Command (Buffer size) :=
  let bufferLength := UInt16.ofNat size
  if bufferLength < 6 then
    .fail (u3SetError "buffer supplied to u3_read_device_property() is to small")
  else do
    let (status, header) ← u3SendCmd (propertyCommand propertyId propertyHeaderSize) .fromDev
      propertyHeaderSize.toNat []
    let buffer := buffer.store 0 header
    if status ≠ 0 then
      .fail (u3SetError
        s!"Header of property 0x{upperHex 4 propertyId.toNat} could not be read.")
    else if hdrLength buffer < propertyHeaderSize then
      .fail (u3SetError
        s!"Header of property 0x{upperHex 4 propertyId.toNat} indicates a length of smaller then the header size. (len = {(hdrLength buffer).toNat})")
    else
      readFullProperty propertyId buffer

/-! ### Partitioning -/

/-- The command block of rounding a partition size, before it is patched. -/
def partitionRoundCommand : Cdb :=
  ⟨[0xff, 0x20, 0x00, 0x02, 0x00, 0x00, 0x00, 0x00, 0x00, 0x00, 0x00, 0x00], rfl⟩

/-- A rounding command block, patched with the size and the direction. -/
def roundCommand (cmd : Cdb) (direction : RoundDir) (size : UInt32) : Cdb :=
  (cmd.store 4 (leBytes 4 size.toNat)).store 8 [direction.toByte]

/-- `u3_partition_sector_round`; `roundedSize` holds the initial bytes of `rounded_size`. -/
def u3PartitionSectorRound (direction : RoundDir) (size : UInt32) (roundedSize : Buffer 4) :
    Command UInt32 := do
  let received ← deviceCommand (roundCommand partitionRoundCommand direction size) .fromDev 4 []
  .done ((roundedSize.store 0 received).word32 0)

/-- `u3_security_sector_round`; `roundedSize` holds the initial bytes of `rounded_size`. -/
def u3SecuritySectorRound (direction : RoundDir) (size : UInt32) (roundedSize : Buffer 4) :
    Command UInt32 := do
  let cmd : Cdb := ⟨[0xff, 0xA3, 0x00, 0x00, 0x00, 0x00, 0x00, 0x00, 0x00, 0x00, 0x00, 0x00], rfl⟩
  let received ← deviceCommand (roundCommand cmd direction size) .fromDev 4 []
  .done ((roundedSize.store 0 received).word32 0)

/-- The initial contents of the locals of a `u3_partition` call that are not initialized:
`rounded_size` in either rounding call, and `device_properties`. -/
structure PartitionStack where
  roundUp : Buffer 4
  deviceProperties : Property03
  roundDown : Buffer 4

/-- The record `u3_partition` fills in from the sizes. -/
def partitionRecord (dataSize cdSize : UInt32) : PartInfo :=
  if cdSize = 0 then
    { partitionCount := 1, unknown1 := 0x02, dataSize := dataSize, unknown2 := 0, cdSize := 0 }
  else
    { partitionCount := 2, unknown1 := 0x02, dataSize := dataSize, unknown2 := 0x103,
      cdSize := cdSize }

/-- The command block of a repartition. -/
def partitionCommand : Cdb :=
  ⟨[0xff, 0x22, 0x00, 0x00, 0x00, 0x00, 0x00, 0x00, 0x00, 0x00, 0x00, 0x00], rfl⟩

/-- The first step of `u3_partition`: a `cd_size` other than zero is rounded up. -/
def roundCdSize (cdSize : UInt32) (roundedSize : Buffer 4) : Command UInt32 :=
  if cdSize ≠ 0 then
    (u3PartitionSectorRound .up cdSize roundedSize).mapError
      (u3PrependError "Failed rounding partition sectors")
  else
    .done cdSize

/-- The second step of `u3_partition`: property page 0x03 is read. -/
def readProperty03 (deviceProperties : Property03) : Command Property03 :=
  (u3ReadDeviceProperty 3 deviceProperties).mapError
    (u3PrependError "Failed reading device property 0x03")

/-- The third step of `u3_partition`: the page is checked, and what the CD partition leaves of the
device is rounded down. -/
def roundDataSize (cdSize : UInt32) (deviceProperties : Property03) (roundedSize : Buffer 4) :
    Command UInt32 :=
  if hdrLength deviceProperties ≠ 39 then
    .fail (u3SetError
      s!"Unexpected device property(0x03) length, won't risk breaking device. Aborting! (len={upperHex 1 (hdrLength deviceProperties).toNat})")
  else if cdSize > deviceProperties.deviceSize then
    -- the shift is one of 32 bits, and "%ull" prints an unsigned number followed by "ll"
    .fail (u3SetError
      s!"Requested CD size is larger than device ({(deviceProperties.deviceSize <<< 9).toNat}ll bytes)")
  else
    (u3PartitionSectorRound .down (deviceProperties.deviceSize - cdSize) roundedSize).mapError
      (u3PrependError "Failed rounding partition sectors")

/-- `u3_partition`. -/
def u3Partition (cdSize : UInt32) (stack : PartitionStack) : Command Unit := do
  -- calculate data partition size
  let cdSize ← roundCdSize cdSize stack.roundUp
  let deviceProperties ← readProperty03 stack.deviceProperties
  let dataSize ← roundDataSize cdSize deviceProperties stack.roundDown
  -- fill command data
  let data := partitionRecord dataSize cdSize
  let _ ← deviceCommand partitionCommand .toDev 17 data.encode
  .done ()

/-- `u3_partition_info`: the record is zeroed, its first 9 bytes are read, and when they announce a
second partition 16 bytes are read over them. Only the status of the last read is tested. -/
def u3PartitionInfo : Command PartInfo := do
  let cmd : Cdb := ⟨[0xff, 0x21, 0x00, 0x00, 0x00, 0x00, 0x00, 0x00, 0x00, 0x00, 0x00, 0x00], rfl⟩
  let (status, received) ← u3SendCmd cmd .fromDev 9 []
  let info := (Buffer.fill 17 0).store 0 received
  let (status, info) ←
    if (PartInfo.decode info).partitionCount = 2 then do
      let (status, received) ← u3SendCmd cmd .fromDev 16 []
      Program.done (status, info.store 0 received)
    else
      Program.done (status, info)
  if status ≠ 0 then
    .fail (u3SetError s!"Device reported command failed: status {status.toNat}")
  else
    .done (PartInfo.decode info)

/-! ### The CD partition -/

/-- The command block of a CD write, patched with the big-endian block number. -/
def cdWriteCommand (blockNum : UInt32) : Cdb :=
  let cmd : Cdb := ⟨[0xff, 0x42, 0x00, 0x01, 0x00, 0x00, 0x00, 0x00, 0x00, 0x00, 0x00, 0x01], rfl⟩
  cmd.store 4 (leBytes 4 blockNum.toNat).reverse

/-- `u3_cd_write`. -/
def u3CdWrite (blockNum : UInt32) (block : Buffer blockSize) : Command Unit := do
  let _ ← deviceCommand (cdWriteCommand blockNum) .toDev 2048 block.bytes
  .done ()

/-! ### Device information and reset -/

/-- The command block of reading the data partition info. -/
def dataPartitionInfoCommand : Cdb :=
  ⟨[0xff, 0xA0, 0x00, 0x00, 0x00, 0x00, 0x00, 0x00, 0x00, 0x00, 0x00, 0x00], rfl⟩

/-- `u3_data_partition_info`: the record is zeroed, then read. -/
def u3DataPartitionInfo : Command DpartInfo := do
  let received ← deviceCommand dataPartitionInfoCommand .fromDev 16 []
  .done ((Buffer.fill 16 0).store 0 received)

/-- `u3_chip_info`: the record is zeroed, then read. -/
def u3ChipInfo : Command ChipInfo := do
  let cmd : Cdb := ⟨[0xff, 0x03, 0x01, 0x00, 0x00, 0x00, 0x00, 0x00, 0x00, 0x00, 0x00, 0x00], rfl⟩
  let received ← deviceCommand cmd .fromDev 24 []
  .done ((Buffer.fill 24 0).store 0 received)

/-- `u3_reset`; the wait for the device to reconnect is not modelled. -/
def u3Reset : Command Unit := do
  let cmd : Cdb := ⟨[0xff, 0x01, 0x01, 0x00, 0x00, 0x00, 0x00, 0x00, 0x00, 0x00, 0x00, 0x00], rfl⟩
  let data := [0x50, 0x00, 0x00, 0x00, 0x40, 0x9c, 0x00, 0x00, 0x01, 0x00, 0x00, 0x00]
  let _ ← deviceCommand cmd .toDev 12 data
  .done ()

/-! ### Security -/

section Security

-- The vendored `md5`; nothing here depends on which function it is.
variable (md5 : List UInt8 → Buffer 16)

/-- `u3_pass_to_hash`: the bytes of the password, its terminating NUL included, go to the even
positions of a zeroed buffer of twice the length, which is hashed. -/
def u3PassToHash (password : List UInt8) : Buffer 16 :=
  let unicodePass := (List.range (password.length + 1)).foldl
    (fun (buffer : List UInt8) i ↦ buffer.set (i * 2) ((password ++ [0]).getD i 0))
    (List.replicate ((password.length + 1) * 2) 0)
  md5 unicodePass

/-- The command block of enabling security. -/
def enableSecurityCommand : Cdb :=
  ⟨[0xff, 0xA2, 0x00, 0x00, 0x00, 0x00, 0x00, 0x00, 0x00, 0x00, 0x00, 0x00], rfl⟩

/-- The rounding step of `u3_enable_security`: a zone size other than zero is rounded up;
`roundedSize` holds the initial bytes of `rounded_size`. -/
def roundZoneSize (secureZoneSize : UInt32) (roundedSize : Buffer 4) : Command UInt32 :=
  if secureZoneSize ≠ 0 then
    (u3SecuritySectorRound .up secureZoneSize roundedSize).mapError
      (u3PrependError "Failed rounding secure zone sectors")
  else
    .done secureZoneSize

/-- `u3_enable_security`: the size of the data partition, rounded up, becomes the size of the
secure zone. -/
def u3EnableSecurity (password : List UInt8) (roundedSize : Buffer 4) : Command Unit := do
  let dpInfo ← u3DataPartitionInfo.mapError (u3PrependError "Failed reading data partition info")
  let secureZoneSize ← roundZoneSize dpInfo.totalSize roundedSize
  let _ ← deviceCommand enableSecurityCommand .toDev 20
    (leBytes 4 secureZoneSize.toNat ++ (u3PassToHash md5 password).bytes)
  .done ()

/-- `u3_disable_security`. -/
def u3DisableSecurity (password : List UInt8) : Command Bool :=
  let cmd : Cdb := ⟨[0xff, 0xA7, 0x00, 0x00, 0x00, 0x00, 0x00, 0x00, 0x00, 0x00, 0x00, 0x00], rfl⟩
  passwordCommand cmd (u3PassToHash md5 password).bytes

/-- The command block of an unlock. -/
def unlockCommand : Cdb :=
  ⟨[0xff, 0xA4, 0x00, 0x00, 0x00, 0x00, 0x00, 0x00, 0x00, 0x00, 0x00, 0x00], rfl⟩

/-- `u3_unlock`. -/
def u3Unlock (password : List UInt8) : Command Bool :=
  passwordCommand unlockCommand (u3PassToHash md5 password).bytes

/-- `u3_change_password`: the old hash, then the new one. -/
def u3ChangePassword (oldPassword newPassword : List UInt8) : Command Bool :=
  let cmd : Cdb := ⟨[0xff, 0xA6, 0x00, 0x00, 0x00, 0x00, 0x00, 0x00, 0x00, 0x00, 0x00, 0x00], rfl⟩
  passwordCommand cmd
    ((u3PassToHash md5 oldPassword).bytes ++ (u3PassToHash md5 newPassword).bytes)

end Security

end U3Tool
