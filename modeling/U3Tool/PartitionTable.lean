import U3Tool.Repartition

/-!
# The stored partition table

`u3_partition` writes the 17 bytes of a `struct part_info` with command 0x22, and
`u3_partition_info` reads them back with command 0x21. `tableDevice` is a device that keeps the
record of the last accepted repartition and answers 0x21 with as many bytes of it as are asked for;
it answers everything else as an arbitrary inner device does.

`u3_partition_info` first reads 9 bytes and, when these announce two partitions, 16 bytes: one byte
less than the record has. The byte it leaves zero is the highest of `cd_size`, so the table survives
the round trip exactly when the CD partition has fewer than 2^24 sectors
(`partition_table_round_trip_iff`).
-/

set_option autoImplicit false
set_option relaxedAutoImplicit false

namespace U3Tool

open Interaction Bytes Program

variable {σ : Type}

/-! ### A device that stores the record -/

/-- The state of a device that stores a partition record. -/
structure Table (σ : Type) where
  inner : σ
  record : Option (List UInt8)

/-- What a call does to the stored record: an accepted repartition replaces it. -/
def storeRecord (record : Option (List UInt8)) (event : Event Scsi) : Option (List UInt8) :=
  if event.request.command = 0x22 ∧ event.reply.Accepted then some event.request.data else record

/-- Passes a call on to the inner device and stores the record of an accepted repartition. -/
def forward (inner : Surroundings Scsi σ) : Surroundings Scsi (Table σ) := fun state request ↦
  let (reply, next) := inner state.inner request
  (reply, ⟨next, storeRecord state.record ⟨request, reply⟩⟩)

/-- The device: once a record is stored, 0x21 is answered with as many bytes of it as are asked
for; everything else is answered as the inner device does. -/
def tableDevice (inner : Surroundings Scsi σ) : Surroundings Scsi (Table σ) := fun state request ↦
  match state.record with
  | some record =>
    if request.command = 0x21 then (.success 0 (record.take request.length), state)
    else forward inner state request
  | none => forward inner state request

variable {inner : Surroundings Scsi σ}

/-- One call changes the stored record as `storeRecord` says. -/
theorem record_tableDevice (state : Table σ) (request : CmdRequest) :
    (tableDevice inner state request).2.record =
      storeRecord state.record ⟨request, (tableDevice inner state request).1⟩ := by
  unfold tableDevice
  split
  · next record hrecord =>
    split_ifs with hread
    · simp [storeRecord, hread]
    · rfl
  · rfl

/-- When the last call of an execution is an accepted repartition, its record is stored. -/
theorem record_final_exec {α : Type} {p : Command α} {state : Table σ}
    {first : List (Event Scsi)} {event : Event Scsi}
    (htrace : (exec (tableDevice inner) p state).trace = first ++ [event])
    (hsent : event.request.command = 0x22) (haccepted : event.reply.Accepted) :
    (exec (tableDevice inner) p state).final.record = some event.request.data := by
  have hfinal : (exec (tableDevice inner) p state).final.record = _ :=
    view_final_exec record_tableDevice p state
  rw [hfinal, htrace, List.foldl_append,
    List.foldl_cons, List.foldl_nil, storeRecord, if_pos ⟨hsent, haccepted⟩]

/-! ### Reading the table back -/

/-- The record `u3_partition_info` ends with, when the device answers prefixes of the given
bytes. -/
def readBack (bytes : List UInt8) : PartInfo :=
  let info := (Buffer.fill 17 0).store 0 (bytes.take 9)
  if (PartInfo.decode info).partitionCount = 2 then
    PartInfo.decode (info.store 0 (bytes.take 16))
  else
    PartInfo.decode info

/-- On a stored record `u3_partition_info` succeeds. -/
theorem exec_u3PartitionInfo {state : Table σ} {bytes : List UInt8}
    (hrecord : state.record = some bytes) :
    (exec (tableDevice inner) u3PartitionInfo state).result = .ok (readBack bytes) := by
  have hread (request : CmdRequest) (hcommand : request.command = 0x21) :
      tableDevice inner state request = (.success 0 (bytes.take request.length), state) := by
    simp [tableDevice, hrecord, hcommand]
  unfold u3PartitionInfo readBack
  dsimp only
  rw [exec_u3SendCmd_bind (hread _ rfl), List.take_take, min_self]
  dsimp only
  split_ifs with hcount
  · rw [exec_u3SendCmd_bind (hread _ rfl), List.take_take, min_self]
    rfl
  · rfl

/-- Four bytes of which the last is zero denote the word without its highest byte. -/
theorem leUInt32_take_three (word : UInt32) :
    leUInt32 ((leBytes 4 word.toNat).take 3 ++ [0]) = .ofNat (word.toNat % 2 ^ 24) := by
  rw [take_leBytes (by decide), leUInt32, leNat_append, leNat_leBytes]
  simp [leNat]

/-- The highest byte of `cd_size` is not read back. -/
theorem readBack_encode_partitionRecord (dataSize cdSize : UInt32) :
    readBack (partitionRecord dataSize cdSize).encode =
      { partitionRecord dataSize cdSize with cdSize := .ofNat (cdSize.toNat % 2 ^ 24) } := by
  unfold partitionRecord
  split_ifs with hzero
  · subst hzero
    -- the four bytes of either last field are still the zeros of the cleared structure
    exact PartInfo.ext rfl (leUInt32_leBytes 2) (leUInt32_leBytes dataSize) (leUInt32_leBytes 0)
      (leUInt32_leBytes 0)
  · exact PartInfo.ext rfl (leUInt32_leBytes 2) (leUInt32_leBytes dataSize)
      (leUInt32_leBytes 0x103) (leUInt32_take_three cdSize)

/-- What `u3_partition_info` returns agrees with a record on the fields a caller uses. -/
def RoundTrips (env : Surroundings Scsi σ) (state : σ) (record : PartInfo) : Prop :=
  ∃ info, (exec env u3PartitionInfo state).result = .ok info ∧
    info.partitionCount = record.partitionCount ∧ info.dataSize = record.dataSize ∧
    info.cdSize = record.cdSize

/-- A number below 2^32 survives the loss of its highest byte when it is below 2^24. -/
theorem ofNat_mod_eq_iff (word : UInt32) :
    UInt32.ofNat (word.toNat % 2 ^ 24) = word ↔ word.toNat < 2 ^ 24 := by
  rw [← UInt32.toNat_inj, UInt32.toNat_ofNat']
  omega

/-- A device that never changes: it answers a rounding with the size it was given, a property read
with a prefix of the page, and accepts everything else. -/
def exampleDevice (page : List UInt8) : Surroundings Scsi Unit := fun _ request ↦
  if request.command = 0x20 then (.success 0 (request.cmd.slice 4 4), ())
  else if request.command = 0x00 then (.success 0 (page.take request.length), ())
  else (.success 0 [], ())

/-- Property page 0x03 of a device of 2^25 sectors. -/
def examplePage : List UInt8 := [3, 0, 0, 0, 39, 0] ++ List.replicate 29 0 ++ leBytes 4 0x2000000

/-- That device once it stores the partition record. -/
def exampleTable : Surroundings Scsi (Table Unit) := tableDevice (exampleDevice examplePage)

/-- Against a device that stores the partition record, a repartition it accepts stores the 17 bytes
of a record, and at any later moment at which that record is still stored `u3_partition_info`
returns its partition count, data size and CD size if and only if the CD partition has fewer than
2^24 sectors. -/
theorem partition_table_round_trip_iff (cdSize : UInt32) (stack : PartitionStack)
    (state : Table σ) {event : Event Scsi}
    (hevent : event ∈ (exec (tableDevice inner) (u3Partition cdSize stack) state).trace)
    (hsent : event.request.command = 0x22) (haccepted : event.reply.Accepted) :
    ∃ record : PartInfo, event.request = recordRequest record ∧
      (exec (tableDevice inner) (u3Partition cdSize stack) state).final.record =
        some record.encode ∧
      ∀ later : Table σ, later.record = some record.encode →
        (RoundTrips (tableDevice inner) later record ↔ record.cdSize.toNat < 2 ^ 24) := by
  obtain ⟨answers, -, htrace, hrecord, -⟩ :=
    queries_of_sent_record (run_exec _ _ state) hevent hsent
  refine ⟨_, hrecord, ?_, fun later hlater ↦ ?_⟩
  · rw [record_final_exec htrace hsent haccepted, hrecord]
    rfl
  · have hread : (exec (tableDevice inner) u3PartitionInfo later).result = _ :=
      exec_u3PartitionInfo hlater
    rw [readBack_encode_partitionRecord] at hread
    rw [RoundTrips, hread, partitionRecord_cdSize, ← ofNat_mod_eq_iff]
    constructor
    · rintro ⟨info, hinfo, -, -, hcdSize⟩
      obtain rfl := Except.ok.inj hinfo
      exact hcdSize
    · intro hcdSize
      exact ⟨_, rfl, rfl, rfl, hcdSize⟩

/-- A CD partition of 100 sectors on the example device. -/
theorem partition_table_round_trip_iff_witness :
    ∃ record : PartInfo,
      recordRequest (partitionRecord 0x1ffff9c 100) = recordRequest record ∧
      (exec exampleTable (u3Partition 100 zeroStack) ⟨(), none⟩).final.record =
        some record.encode ∧
      ∀ later : Table Unit, later.record = some record.encode →
        (RoundTrips exampleTable later record ↔ record.cdSize.toNat < 2 ^ 24) :=
  have hevent : (⟨recordRequest (partitionRecord 0x1ffff9c 100), .success 0 []⟩ : Event Scsi) ∈
      (exec exampleTable (u3Partition 100 zeroStack) ⟨(), none⟩).trace :=
    List.mem_of_getElem? (i := 4) rfl
  partition_table_round_trip_iff 100 zeroStack ⟨(), none⟩ hevent rfl ⟨[], rfl⟩

/-- A CD partition of 2^24 sectors is repartitioned and stored, and is not read back: the tool
reports a device without a CD partition of that size. -/
theorem partition_table_round_trip_counterexample :
    (exec exampleTable (u3Partition 0x1000000 zeroStack) ⟨(), none⟩).result = .ok () ∧
      (exec exampleTable (u3Partition 0x1000000 zeroStack) ⟨(), none⟩).final.record =
        some (partitionRecord 0x1000000 0x1000000).encode ∧
      ¬ RoundTrips exampleTable
        (exec exampleTable (u3Partition 0x1000000 zeroStack) ⟨(), none⟩).final
        (partitionRecord 0x1000000 0x1000000) := by
  have hrecord : (exec exampleTable (u3Partition 0x1000000 zeroStack) ⟨(), none⟩).final.record =
      some (partitionRecord 0x1000000 0x1000000).encode := by decide +kernel
  refine ⟨by decide +kernel, hrecord, ?_⟩
  rintro ⟨info, hinfo, -, -, hcdSize⟩
  obtain rfl := Except.ok.inj (hinfo.symm.trans (exec_u3PartitionInfo hrecord))
  exact absurd hcdSize (by decide +kernel)

end U3Tool
