import U3Tool.ActionRuns

/-!
# Resetting the security of a documented device

`do_reset_security` enables security with a known password and disables it again. The documentation
says of the two commands that the first is always accepted and stores a zone size and a hash, and
that the second is accepted only when the hash is the stored one and the zone occupies the whole
data partition (`SecureDevice`). The zone size that is sent is the size of the partition, rounded up
by the device, and it is not compared with the size of the partition: the reset works exactly when
rounding leaves the size of the partition as it is (`doResetSecurity_works_iff`). -/

set_option autoImplicit false
set_option relaxedAutoImplicit false

namespace U3Tool

open Interaction Bytes Program

/-! ### The device -/

/-- The call that asks for a rounded zone size. -/
def securityRoundRequest (direction : RoundDir) (size : UInt32) : CmdRequest where
  cmd := roundCommand (plainCommand 0xA3) direction size
  direction := .fromDev
  length := 4
  data := []

/-- The call that enables security with a zone size and a hash. -/
def enableRequest (zoneSize : UInt32) (hash : List UInt8) : CmdRequest where
  cmd := enableSecurityCommand
  direction := .toDev
  length := 20
  data := leBytes 4 zoneSize.toNat ++ hash

/-- The call that disables security with a hash. -/
def disableRequest (hash : List UInt8) : CmdRequest where
  cmd := plainCommand 0xA7
  direction := .toDev
  length := 16
  data := hash

/-- A device of the documented kind with a data partition of a positive size, over any states: it
tells the size of the partition, never rounds a size down when asked to round up, stores what an
accepted enabling sends, and accepts a disabling exactly when the hash is the stored one and the
stored zone size is the size of the partition. All transfers complete. -/
structure SecureDevice (σ : Type) where
  device : Surroundings Scsi σ
  partitionSize : UInt32
  roundUp : UInt32 → UInt32
  zoneSize : σ → UInt32
  passHash : σ → List UInt8
  partitionSize_pos : 0 < partitionSize
  le_roundUp : ∀ size, size ≤ roundUp size
  info : ∀ state, ∃ data, (device state dpartInfoRequest).1 = .success 0 data ∧
    data.length = 16 ∧ leUInt32 (data.take 4) = partitionSize
  round : ∀ state size, (device state (securityRoundRequest .up size)).1 =
    .success 0 (leBytes 4 (roundUp size).toNat)
  enable : ∀ state size hash, hash.length = 16 →
    (∃ data, (device state (enableRequest size hash)).1 = .success 0 data) ∧
      zoneSize (device state (enableRequest size hash)).2 = size ∧
      passHash (device state (enableRequest size hash)).2 = hash
  disable : ∀ state hash, hash.length = 16 →
    ∃ status data, (device state (disableRequest hash)).1 = .success status data ∧
      (status = 0 ↔ hash = passHash state ∧ zoneSize state = partitionSize)

/-- The zone sizes a trace sends to the device. -/
def sentZones (calls : List (Event Scsi)) : List UInt32 :=
  (calls.filter fun event ↦ event.request.command = 0xA2).map fun event ↦
    leUInt32 (event.request.data.take 4)

@[simp] theorem sentZones_append (first second : List (Event Scsi)) :
    sentZones (first ++ second) = sentZones first ++ sentZones second := by
  simp [sentZones]

/-! ### The two commands -/

section Reset

variable {σ : Type} (secure : SecureDevice σ) (md5 : List UInt8 → Buffer 16)

/-- The size of the partition, as `u3_data_partition_info` returns it. -/
theorem exec_info (state : σ) :
    ∃ info calls after, exec secure.device u3DataPartitionInfo state = ⟨.ok info, calls, after⟩ ∧
      DpartInfo.totalSize info = secure.partitionSize ∧ sentZones calls = [] := by
  obtain ⟨data, hinfo, hlength, hsize⟩ := secure.info state
  have hsent := exec_deviceCommand (Prod.ext hinfo rfl :
    secure.device state dpartInfoRequest = (.success 0 data, _))
  refine ⟨(Buffer.fill 16 0).store 0 (data.take 16), [⟨dpartInfoRequest, .success 0 data⟩], _,
    exec_bind_of_eq hsent _, ?_, rfl⟩
  rw [DpartInfo.totalSize, Buffer.word32, List.take_of_length_le hlength.le,
    Buffer.slice_store_zero (by omega) (by norm_num), List.drop_zero, hsize]

/-- The size of the partition, as the device rounds it up. -/
theorem exec_roundZoneSize (roundedSize : Buffer 4) (state : σ) :
    ∃ calls after, exec secure.device (roundZoneSize secure.partitionSize roundedSize) state =
        ⟨.ok (secure.roundUp secure.partitionSize), calls, after⟩ ∧ sentZones calls = [] := by
  have hsome : secure.partitionSize ≠ 0 := fun hzero ↦
    absurd (hzero ▸ secure.partitionSize_pos) (by decide)
  have hsent := exec_deviceCommand (Prod.ext (secure.round state secure.partitionSize) rfl :
    secure.device state (securityRoundRequest .up secure.partitionSize) =
      (.success 0 (leBytes 4 (secure.roundUp secure.partitionSize).toNat), _))
  have hrounded : exec secure.device
      (u3SecuritySectorRound .up secure.partitionSize roundedSize) state =
      ⟨.ok (secure.roundUp secure.partitionSize),
        [⟨securityRoundRequest .up secure.partitionSize,
          .success 0 (leBytes 4 (secure.roundUp secure.partitionSize).toNat)⟩],
        (secure.device state (securityRoundRequest .up secure.partitionSize)).2⟩ := by
    refine (exec_bind_of_eq hsent _).trans ?_
    rw [exec_done, word32_store_leBytes]
    rfl
  rw [roundZoneSize, if_pos hsome]
  exact ⟨_, _, exec_mapError_of_eq hrounded _, rfl⟩

/-- Enabling security on such a device succeeds, and the zone is the partition, rounded up. -/
theorem exec_u3EnableSecurity (password : List UInt8) (roundedSize : Buffer 4) (state : σ) :
    (exec secure.device (u3EnableSecurity md5 password roundedSize) state).result = .ok () ∧
      sentZones (exec secure.device (u3EnableSecurity md5 password roundedSize) state).trace =
        [secure.roundUp secure.partitionSize] ∧
      secure.zoneSize (exec secure.device (u3EnableSecurity md5 password roundedSize) state).final =
        secure.roundUp secure.partitionSize ∧
      secure.passHash (exec secure.device (u3EnableSecurity md5 password roundedSize) state).final =
        (u3PassToHash md5 password).bytes := by
  obtain ⟨info, infoCalls, afterInfo, hinfo, hsize, hinfoZones⟩ := exec_info secure state
  obtain ⟨roundCalls, afterRound, hround, hroundZones⟩ :=
    exec_roundZoneSize secure roundedSize afterInfo
  obtain ⟨⟨data, haccepted⟩, hzone, hhash⟩ := secure.enable afterRound
    (secure.roundUp secure.partitionSize) (u3PassToHash md5 password).bytes (by simp)
  have hsent := exec_deviceCommand (Prod.ext haccepted rfl :
    secure.device afterRound (enableRequest (secure.roundUp secure.partitionSize)
      (u3PassToHash md5 password).bytes) = (.success 0 data, _))
  rw [u3EnableSecurity, exec_bind_of_eq (exec_mapError_of_eq hinfo _), hsize,
    exec_bind_of_eq hround, exec_bind_of_eq hsent]
  refine ⟨rfl, ?_, hzone, hhash⟩
  rw [exec_done, sentZones_append, sentZones_append, hinfoZones, hroundZones]
  change [leUInt32 ((leBytes 4 _ ++ _).take 4)] = _
  rw [List.take_left' (by simp), leUInt32_leBytes]

/-- Disabling security on such a device returns whether the hash is the stored one and the zone is
the whole partition. -/
theorem exec_u3DisableSecurity (password : List UInt8) (state : σ) :
    ∃ accepted, (exec secure.device (u3DisableSecurity md5 password) state).result = .ok accepted ∧
      sentZones (exec secure.device (u3DisableSecurity md5 password) state).trace = [] ∧
      (accepted = true ↔ (u3PassToHash md5 password).bytes = secure.passHash state ∧
        secure.zoneSize state = secure.partitionSize) := by
  obtain ⟨status, data, hreply, hstatus⟩ := secure.disable state (u3PassToHash md5 password).bytes
    (by simp)
  have hdevice : secure.device state ⟨plainCommand 0xA7, .toDev,
      (u3PassToHash md5 password).bytes.length, (u3PassToHash md5 password).bytes⟩ =
      (.success status data, (secure.device state
        (disableRequest (u3PassToHash md5 password).bytes)).2) := by
    rw [Buffer.length_bytes]
    exact Prod.ext hreply rfl
  have hexec : exec secure.device (u3DisableSecurity md5 password) state = ⟨_, _, _⟩ :=
    exec_u3SendCmd_bind hdevice _
  rw [hexec]
  exact ⟨decide (status = 0), rfl, rfl, by rw [decide_eq_true_iff, hstatus]⟩

/-- The reset works on such a device, and the zone it sends is the partition, exactly when the
device rounds the size of the partition to itself. -/
theorem doResetSecurity_works_iff (roundedSize : Buffer 4) (start : Desk σ) :
    ((exec (desk secure.device) (doResetSecurity md5 roundedSize) start).result = .ok .success ∧
      sentZones (commands
        (exec (desk secure.device) (doResetSecurity md5 roundedSize) start).trace) =
        [secure.partitionSize]) ↔
      secure.roundUp secure.partitionSize = secure.partitionSize := by
  obtain ⟨henabled, hzones, hzone, hhash⟩ :=
    exec_u3EnableSecurity secure md5 (ascii "password") roundedSize start.device
  obtain ⟨accepted, hdisabled, hnoZones, haccepted⟩ := exec_u3DisableSecurity secure md5
    (ascii "password") (exec secure.device
      (u3EnableSecurity md5 (ascii "password") roundedSize) start.device).final
  rw [hhash, hzone] at haccepted
  rw [doResetSecurity, exec_command_bind]
  dsimp only
  rw [henabled]
  dsimp only
  rw [exec_command_bind]
  dsimp only
  rw [hdisabled]
  rw [commands_append, commands_map_sendEvent, commands_append, commands_map_sendEvent,
    sentZones_append, hzones, sentZones_append, hnoZones]
  cases accepted with
  | false =>
    refine iff_of_false (fun hworks ↦ absurd hworks.1 (by simp [printf, perform, exec_ask])) ?_
    exact fun hsame ↦ absurd (haccepted.mpr ⟨rfl, hsame⟩) (by simp)
  | true =>
    obtain ⟨-, hsame⟩ := haccepted.mp rfl
    exact iff_of_true ⟨rfl, congrArg (fun size ↦ [size]) hsame⟩ hsame

end Reset

/-! ### A device with blocks of eight sectors -/

/-- The next multiple of eight sectors; the last sizes below 2^32 stay as they are. -/
def roundToEight (size : UInt32) : UInt32 :=
  if size ≤ 0xfffffff8 then (size + 7) / 8 * 8 else size

theorem le_roundToEight (size : UInt32) : size ≤ roundToEight size := by
  unfold roundToEight
  rw [UInt32.le_iff_toNat_le]
  split_ifs with hsmall
  · have hbound : size.toNat ≤ 0xfffffff8 := UInt32.le_iff_toNat_le.mp hsmall
    simp only [UInt32.toNat_mul, UInt32.toNat_div, UInt32.toNat_add, UInt32.reduceToNat]
    omega
  · exact le_rfl

/-- A device that keeps the zone size and the hash of the last enabling, and rounds zone sizes to
multiples of eight sectors. -/
def zoneDevice (partitionSize : UInt32) : Surroundings Scsi (UInt32 × List UInt8) :=
  fun state request ↦
    if request.command = 0xA0 then
      (.success 0 (leBytes 4 partitionSize.toNat ++ List.replicate 12 0), state)
    else if request.command = 0xA3 then
      (.success 0 (leBytes 4 (roundToEight (leUInt32 (request.cmd.slice 4 4))).toNat), state)
    else if request.command = 0xA2 then
      (.success 0 [], leUInt32 (request.data.take 4), request.data.drop 4)
    else if request.command = 0xA7 then
      (.success (if request.data = state.2 ∧ state.1 = partitionSize then 0 else 1) [], state)
    else (.success 1 [], state)

/-- It is a device of the documented kind. -/
def eightSectors (partitionSize : UInt32) (hsome : 0 < partitionSize) :
    SecureDevice (UInt32 × List UInt8) where
  device := zoneDevice partitionSize
  partitionSize := partitionSize
  roundUp := roundToEight
  zoneSize := Prod.fst
  passHash := Prod.snd
  partitionSize_pos := hsome
  le_roundUp := le_roundToEight
  info state := ⟨_, rfl, by simp, by rw [List.take_left' (by simp), leUInt32_leBytes]⟩
  round state size := by
    have hcommand : (securityRoundRequest .up size).command = 0xA3 :=
      word16_roundCommand _ _ _
    rw [zoneDevice, hcommand, if_neg (by decide), if_pos rfl, securityRoundRequest,
      slice_roundCommand, leUInt32_leBytes]
  enable state size hash hlength := by
    have hdrop : (leBytes 4 size.toNat ++ hash).drop 4 = hash := List.drop_left' (by simp)
    have htake : (leBytes 4 size.toNat ++ hash).take 4 = leBytes 4 size.toNat :=
      List.take_left' (by simp)
    refine ⟨⟨[], rfl⟩, ?_, hdrop⟩
    change leUInt32 ((leBytes 4 size.toNat ++ hash).take 4) = size
    rw [htake, leUInt32_leBytes]
  disable state hash hlength := by
    refine ⟨if hash = state.2 ∧ state.1 = partitionSize then 0 else 1, [], rfl, ?_⟩
    split_ifs with hsame
    · exact iff_of_true rfl hsame
    · exact iff_of_false (by decide) hsame

/-- On a partition of 1001 sectors the zone that is sent has 1008, and the reset fails. -/
theorem doResetSecurity_sends_larger_zone :
    (exec (desk (eightSectors 1001 (by decide)).device)
        (doResetSecurity (fun _ ↦ .fill 16 0) (.fill 4 0))
        ⟨(0, []), fun _ ↦ none⟩).result = .ok .failure ∧
      sentZones (commands (exec (desk (eightSectors 1001 (by decide)).device)
        (doResetSecurity (fun _ ↦ .fill 16 0) (.fill 4 0)) ⟨(0, []), fun _ ↦ none⟩).trace) =
        [1008] := by
  constructor
  · decide +kernel
  · decide +kernel

end U3Tool
