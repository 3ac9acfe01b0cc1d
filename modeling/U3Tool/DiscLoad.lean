import U3Tool.LoadGuarantees
import U3Tool.TransportAgreement

/-!
# A load over the wire

A device with a CD partition reports its partition table and keeps the blocks that are written
(`discDevice`); a device keeps a disc when it does the same with these two commands (`KeepsDisc`).

Against such a device the whole program with `-l`, through the bytes of the bulk-only transport,
ends with 0 exactly when the image is not empty and fits the CD partition that
`u3_partition_info` finds; then the disc holds the image from block 0 on, the last block filled up
with zeros, and the rest of it as before. Otherwise it ends with 1 and the disc is as before
(`load_over_usb`).
-/

set_option autoImplicit false
set_option relaxedAutoImplicit false

namespace U3Tool

open Interaction Bytes Program

variable {ρ σ : Type}

/-! ### A device with a disc -/

/-- The blocks of the CD partition. -/
abbrev Disc := ℕ → List UInt8

/-- A partition query or a write of the CD partition. -/
def LoadCommand (request : CmdRequest) : Prop := request.command ∈ ([0x21, 0x42] : List UInt16)

/-- A device that reports a partition table and accepts the blocks that begin inside the CD
partition. -/
def discDevice (table : PartInfo) : DeviceModel Disc := fun disc request ↦
  if request.command = 0x21 then ((true, table.encode), disc)
  else if request.command = 0x42 ∧ 4 * request.blockNumber < table.cdSize.toNat then
    ((true, []), Function.update disc request.blockNumber request.data)
  else ((false, []), disc)

/-- A device that treats partition queries and writes of the CD partition as a device with a given
table does; `holds` says which disc it has in a state. -/
structure KeepsDisc (dev : DeviceModel σ) (table : PartInfo) (holds : σ → Disc → Prop) : Prop where
  answers : ∀ {state disc request}, LoadCommand request → holds state disc →
    (answering dev state request).1 = (answering (discDevice table) disc request).1
  keeps : ∀ {state disc request}, LoadCommand request → holds state disc →
    holds (dev state request).2 (discDevice table disc request).2

/-- The size of the CD partition that `u3_partition_info` finds in a table: only two partitions are
read out, and of the size only three bytes. -/
def PartInfo.foundSize (table : PartInfo) : ℕ :=
  if table.partitionCount = 2 then table.cdSize.toNat % 2 ^ 24 else 0

/-- A disc after an image was loaded. -/
def loaded (image : ImageFile) (disc : Disc) : Disc := fun k ↦
  if k < image.blocks then imageBlock image.content k else disc k

/-! ### The partition query -/

/-- On a device that answers with the beginning of a record `u3_partition_info` succeeds. -/
theorem exec_u3PartitionInfo_of_reads {env : Surroundings Scsi σ} {state : σ} {bytes : List UInt8}
    (hread : ∀ request : CmdRequest, request.command = 0x21 → request.direction = .fromDev →
      env state request = (.success 0 (bytes.take request.length), state)) :
    (exec env u3PartitionInfo state).result = .ok (readBack bytes) ∧
      (exec env u3PartitionInfo state).final = state := by
  unfold u3PartitionInfo readBack
  dsimp only
  rw [exec_u3SendCmd_bind (hread _ rfl rfl), List.take_take, min_self]
  dsimp only
  split_ifs with hcount
  · rw [exec_u3SendCmd_bind (hread _ rfl rfl), List.take_take, min_self]
    exact ⟨rfl, rfl⟩
  · exact ⟨rfl, rfl⟩

/-- Of the size of the CD partition three bytes are read back, when a second partition is
announced. -/
theorem cdSize_readBack_encode (table : PartInfo) :
    (readBack table.encode).cdSize.toNat = table.foundSize := by
  unfold readBack PartInfo.foundSize
  have hcount : (PartInfo.decode ((Buffer.fill 17 0).store 0
      (table.encode.take 9))).partitionCount = table.partitionCount := rfl
  dsimp only
  rw [hcount]
  split_ifs with htwo
  · have hthree : (PartInfo.decode (((Buffer.fill 17 0).store 0 (table.encode.take 9)).store 0
        (table.encode.take 16))).cdSize = .ofNat (table.cdSize.toNat % 2 ^ 24) :=
      leUInt32_take_three table.cdSize
    rw [hthree, UInt32.toNat_ofNat']
    omega
  · rfl

theorem foundSize_le (table : PartInfo) : table.foundSize ≤ table.cdSize.toNat := by
  unfold PartInfo.foundSize
  split_ifs
  · exact Nat.mod_le _ _
  · exact Nat.zero_le _

section Load

variable {table : PartInfo} {image : ImageFile} {disc : Disc}

/-- The query of a load returns the table as it is found, and leaves the disc alone. -/
theorem exec_u3PartitionInfo_disc :
    (exec (answering (discDevice table)) u3PartitionInfo disc).result =
        .ok (readBack table.encode) ∧
      (exec (answering (discDevice table)) u3PartitionInfo disc).final = disc :=
  exec_u3PartitionInfo_of_reads fun request hquery hfrom ↦ by
    simp only [answering, discDevice, if_pos hquery, CmdRequest.incoming, hfrom]
    rfl

/-- A write of a block that begins inside the CD partition is accepted and kept. -/
theorem discDevice_imageWrite {content : List UInt8} {k : ℕ} (hk : k < 2 ^ 32)
    (hinside : 4 * k < table.cdSize.toNat) :
    discDevice table disc (imageWrite content k) =
      ((true, []), Function.update disc k (imageBlock content k)) := by
  have hblock : (imageWrite content k).blockNumber = k := blockNumber_imageWrite hk
  have hcommand : (imageWrite content k).command = 0x42 := rfl
  have hquery : ¬ (imageWrite content k).command = 0x21 := by rw [hcommand]; decide
  have hwrite : (imageWrite content k).command = 0x42 ∧
      4 * (imageWrite content k).blockNumber < table.cdSize.toNat := ⟨hcommand, by rwa [hblock]⟩
  rw [discDevice, if_neg hquery, if_pos hwrite, hblock]
  rfl

/-- The blocks of an image written from block 0 on. -/
theorem foldl_discDevice {content : List UInt8} {count : ℕ} (hcount : count ≤ 2 ^ 32)
    (hinside : ∀ k, k < count → 4 * k < table.cdSize.toNat) :
    ((List.range count).map (imageWrite content)).foldl
        (fun disc request ↦ (discDevice table disc request).2) disc =
      fun k ↦ if k < count then imageBlock content k else disc k := by
  induction count with
  | zero => rfl
  | succ count ih =>
    rw [List.range_succ, List.map_append, List.foldl_append,
      ih (by omega) fun k hk ↦ hinside k (by omega), List.map_cons, List.map_nil, List.foldl_cons,
      List.foldl_nil, discDevice_imageWrite (by omega) (hinside count (by omega))]
    funext k
    dsimp only
    rcases lt_trichotomy k count with hlt | rfl | hgt
    · rw [Function.update_of_ne hlt.ne, if_pos hlt, if_pos (by omega)]
    · rw [Function.update_self, if_pos (by omega)]
    · rw [Function.update_of_ne hgt.ne', if_neg (by omega), if_neg (by omega)]

/-- The blocks of an image that fits begin inside the CD partition. -/
theorem block_inside (hfits : unitsFor image.stSize sectorSize ≤ table.cdSize.toNat) {k : ℕ}
    (hk : k < image.blocks) : 4 * k < table.cdSize.toNat := by
  have hbegins : 2048 * k < image.stSize := lt_blocks_iff.mp hk
  obtain ⟨hcover, -⟩ := unitsFor_spec image.stSize sectorSize (by decide)
  change image.stSize ≤ 512 * unitsFor image.stSize sectorSize at hcover
  omega

/-- The loop of a load writes the whole image. -/
theorem exec_loadLoop_disc (hfailing : image.failing = false)
    (hfits : unitsFor image.stSize sectorSize ≤ table.cdSize.toNat) (blockCnt : UInt32)
    (buffer : Buffer blockSize) (stdin : ℕ → Option UInt8) :
    let loop := exec (desk (answering (discDevice table)))
      (loadLoop blockCnt image.fopen 0 buffer 0) ⟨disc, stdin⟩
    loop.result = .ok .success ∧ loop.final.device = loaded image disc := by
  intro loop
  have hrun : Run _ loop.trace loop.result := run_exec _ _ _
  obtain ⟨status, hresult, hloading⟩ := loading_of_run_loadLoop (atBlock_fopen image) hrun
  have hbound (k : ℕ) (hk : k < image.blocks) : k < 2 ^ 32 := by
    have hinside := block_inside hfits hk
    have hsize := table.cdSize.toNat_lt
    omega
  have haccepted : ∀ event ∈ commands loop.trace, event.reply.Accepted := by
    intro event hevent
    obtain ⟨count, hrequests, hcount⟩ := hloading.requests
    have hmem := List.mem_map_of_mem (f := Event.request) hevent
    rw [hrequests] at hmem
    obtain ⟨k, hk, hrequest⟩ := List.mem_map.mp hmem
    have hlt : k < image.blocks := by
      have hlast := (List.mem_range'_1.mp hk).2
      have htotal := hcount (Nat.zero_le _)
      omega
    obtain ⟨before, hreply⟩ := reply_of_mem_trace_exec (mem_commands.mp hevent)
    have hanswer : event.reply =
        (answering (discDevice table) before.device event.request).1 := hreply
    rw [hanswer, ← hrequest, answering, discDevice_imageWrite (hbound k hlt)
      (block_inside hfits hlt)]
    exact ⟨_, rfl⟩
  have hquits : ∀ j, 0 + j + 1 < image.blocks → (quitReads loop.trace)[j]? ≠ some true := by
    intro j _ hquit
    obtain ⟨before, hreply⟩ :=
      reply_of_mem_trace_exec (mem_quitReads.mp (List.mem_of_getElem? hquit))
    exact absurd hreply (by simp [desk])
  obtain rfl := hloading.success hfailing haccepted
  obtain ⟨hwrites, -⟩ := (hloading.stored_iff (Nat.zero_le _)).mpr hquits rfl
  refine ⟨hresult, ?_⟩
  have hfinal : loop.final.device = ((commands loop.trace).map Event.request).foldl
      (fun disc request ↦ (discDevice table disc request).2) disc := by
    rw [List.foldl_map]
    exact device_final_exec _ _ _
  rw [hfinal, hwrites, Nat.sub_zero, ← List.range_eq_range']
  refine foldl_discDevice ?_ fun k hk ↦ block_inside hfits hk
  by_contra hmany
  exact absurd (hbound (2 ^ 32) (by omega)) (lt_irrefl _)

/-- A load is carried out when the image is not empty and fits what is found of the CD partition,
and fails without a write otherwise. -/
theorem exec_doLoad_disc (hsound : image.Sound) (buffer : Buffer blockSize)
    (stdin : ℕ → Option UInt8) :
    let load := exec (desk (answering (discDevice table))) (doLoad image buffer) ⟨disc, stdin⟩
    if image.stSize ≠ 0 ∧ unitsFor image.stSize sectorSize ≤ table.foundSize then
      load.result = .ok .success ∧ load.final.device = loaded image disc
    else load.result = .ok .failure ∧ load.final.device = disc := by
  dsimp only
  unfold doLoad
  rw [hsound.statError_eq]
  dsimp only
  by_cases hempty : image.stSize = 0
  · rw [if_neg (fun hloads ↦ hloads.1 hempty), if_pos hempty]
    exact ⟨rfl, rfl⟩
  · obtain ⟨hquery, hleft⟩ := @exec_u3PartitionInfo_disc table disc
    rw [if_neg hempty, exec_command_bind, hquery, hleft]
    dsimp only
    rw [cdSize_readBack_encode]
    by_cases hfits : unitsFor image.stSize sectorSize ≤ table.foundSize
    · rw [if_pos ⟨hempty, hfits⟩, if_neg (not_lt.mpr hfits), hsound.openError_eq]
      exact exec_loadLoop_disc hsound.not_failing (hfits.trans (foundSize_le table)) _ _ _
    · rw [if_neg (fun hloads ↦ hfits hloads.2), if_pos (not_le.mp hfits)]
      exact ⟨rfl, rfl⟩

end Load

/-! ### The whole program -/

/-- What a load asks of its surroundings. -/
def LoadRequest : ToolRequest → Prop
  | .sendCmd request => LoadCommand request
  | _ => True

theorem asks_doLoad (image : ImageFile) (buffer : Buffer blockSize) :
    Asks LoadRequest (doLoad image buffer) where
  of_run hrun event hevent := by
    obtain ⟨request, reply⟩ := event
    cases request with
    | sendCmd request =>
      exact command_of_run_doLoad hrun (mem_commands.mpr hevent : ⟨request, reply⟩ ∈ _)
    | fgetc => trivial
    | quit => trivial
    | print stream text => trivial

/-- With `-l` an open device is loaded, and nothing else. -/
theorem withDevice_load {world : World} {fuel : ℕ} {stack : MainStack} {options : Options}
    (haction : options.action = .load) : withDevice world fuel stack options =
      exitCode (doLoad (world.file options.filenameString) stack.loadBuffer) := by
  obtain ⟨action, filename, size⟩ := options
  obtain rfl : action = .load := haction
  rfl

/-- A load of a device is the load of its disc. -/
theorem exec_doLoad_keepsDisc {dev : DeviceModel σ} {table : PartInfo} {holds : σ → Disc → Prop}
    (hkeeps : KeepsDisc dev table holds) {state : σ} {disc : Disc} (hstate : holds state disc)
    (image : ImageFile) (buffer : Buffer blockSize) (stdin : ℕ → Option UInt8) :
    let load := exec (desk (answering dev)) (doLoad image buffer) ⟨state, stdin⟩
    let discLoad := exec (desk (answering (discDevice table))) (doLoad image buffer) ⟨disc, stdin⟩
    load.result = discLoad.result ∧ holds load.final.device discLoad.final.device := by
  have hstep (now : Desk σ) (other : Desk Disc) (request : ToolRequest)
      (hload : LoadRequest request) (hsame : SameDesk holds now other) :
      (desk (answering dev) now request).1 =
          (desk (answering (discDevice table)) other request).1 ∧
        SameDesk holds (desk (answering dev) now request).2
          (desk (answering (discDevice table)) other request).2 := by
    obtain ⟨hholds, hstdin⟩ := hsame
    cases request with
    | sendCmd request => exact ⟨hkeeps.answers hload hholds, hkeeps.keeps hload hholds, hstdin⟩
    | fgetc =>
      exact ⟨congrFun hstdin 0, hholds,
        congrArg (fun (stdin : ℕ → Option UInt8) index ↦ stdin (index + 1)) hstdin⟩
    | quit => exact ⟨rfl, hholds, hstdin⟩
    | print stream text => exact ⟨rfl, hholds, hstdin⟩
  have hsame : SameDesk holds ⟨state, stdin⟩ ⟨disc, stdin⟩ := ⟨hstate, rfl⟩
  obtain ⟨hresult, -, hfinal⟩ := exec_congr hstep (asks_doLoad image buffer) hsame
  exact ⟨hresult, hfinal.1⟩

/-- The whole program with `-l` over the bus. -/
theorem load_over_usb (libusb : Surroundings Libusb ρ) (dev : DeviceModel σ) {table : PartInfo}
    {holds : σ → Disc → Prop} (hkeeps : KeepsDisc dev table holds) (world : World) (fuel : ℕ)
    (stack : MainStack) (name : List UInt8) (stdin : ℕ → Option UInt8) {args : List (List UInt8)}
    {options : Options} {deviceName : List UInt8} {handle : UsbHandle} {host : ρ} {state : σ}
    {disc : Disc} (hdevice : deviceArgument args = some (options, deviceName))
    (haction : options.action = .load) (hsound : (world.file options.filenameString).Sound)
    (hopen : (exec libusb (openUsb (verbose args) (argumentText deviceName)) host).result =
      .ok (.ok handle)) (hstate : holds state disc) :
    let image := world.file options.filenameString
    let whole := exec (bench (usbBus libusb dev)) (mainOn usbSubsystem world fuel stack name args)
      ⟨(host, ⟨state, .ready⟩), stdin⟩
    ∃ final, whole.final.device.2 = ⟨final, .ready⟩ ∧
      if image.stSize ≠ 0 ∧ unitsFor image.stSize sectorSize ≤ table.foundSize then
        whole.result = .ok (.ok 0) ∧ holds final (loaded image disc)
      else whole.result = .ok (.ok 1) ∧ holds final disc := by
  intro image whole
  have houtcome := exec_usb_mainOn libusb dev world fuel stack name state stdin hdevice hopen
  have hmain : main (opensAs world none) fuel stack name args =
      exitCode (doLoad image stack.loadBuffer) :=
    (@main_opensAs world fuel stack name args _ _ hdevice).1.trans (withDevice_load haction)
  rw [hmain] at houtcome
  obtain ⟨hresult, hholds⟩ := exec_doLoad_keepsDisc hkeeps hstate image stack.loadBuffer stdin
  have hload := @exec_doLoad_disc table image disc hsound stack.loadBuffer stdin
  refine ⟨_, houtcome.desk.1, ?_⟩
  split_ifs at hload ⊢ with hloads
  · obtain ⟨hcode, hfinal⟩ := exec_exitCode (hresult.trans hload.1)
    rw [houtcome.result, hcode, hfinal]
    exact ⟨rfl, hload.2 ▸ hholds⟩
  · obtain ⟨hcode, hfinal⟩ := exec_exitCode (hresult.trans hload.1)
    rw [houtcome.result, hcode, hfinal]
    exact ⟨rfl, hload.2 ▸ hholds⟩

/-- A device keeps the disc it is. -/
theorem keepsDisc_discDevice (table : PartInfo) : KeepsDisc (discDevice table) table Eq where
  answers _ hsame := by rw [hsame]
  keeps _ hsame := by rw [hsame]

/-- A world in which every file is an image of two blocks. -/
def letterWorld : World := { plainWorld with file := fun _ ↦ letterImage }

theorem load_over_usb_witness :
    ∃ final : Disc,
      (exec (bench (usbBus openBus (discDevice (partitionRecord 0 8)))) (mainOn usbSubsystem
        letterWorld 0 zeroMainStack (ascii "u3-tool") [ascii "-lcd.iso", ascii "scan"])
        ⟨((), ⟨fun _ ↦ [], .ready⟩), fun _ ↦ none⟩).final.device.2 = ⟨final, .ready⟩ ∧
      (final 0)[7]? = some 65 ∧ (final 1)[0]? = some 66 ∧ (final 1)[7]? = some 0 ∧
        final 2 = [] := by
  have hargs : deviceArgument [ascii "-lcd.iso", ascii "scan"] =
      some (⟨.load, ascii "cd.iso", []⟩, ascii "scan") := by decide +kernel
  have hopen : (exec openBus (openUsb (verbose [ascii "-lcd.iso", ascii "scan"])
      (argumentText (ascii "scan"))) ()).result = .ok (.ok ⟨some 7, 0, 1, 0x81⟩) := by
    decide +kernel
  obtain ⟨final, hfinal, hload⟩ := load_over_usb openBus (discDevice (partitionRecord 0 8))
    (keepsDisc_discDevice _) letterWorld 0 zeroMainStack (ascii "u3-tool") (fun _ ↦ none) hargs rfl
    sound_letterImage hopen (rfl : (fun _ ↦ []) = fun _ ↦ [])
  have hsize : (letterWorld.file (ascii "cd.iso")).stSize = 2049 := stSize_letterImage
  have hblocks : (letterWorld.file (ascii "cd.iso")).blocks = 2 := blocks_letterImage
  have hfits : unitsFor 2049 sectorSize ≤ (partitionRecord 0 8).foundSize := by decide
  rw [hsize, if_pos ⟨by decide, hfits⟩] at hload
  obtain ⟨-, rfl⟩ := hload
  have hbyte {k index : ℕ} (hk : k < 2) (hindex : index < blockSize) :
      (loaded (letterWorld.file (ascii "cd.iso")) (fun _ ↦ []) k)[index]? =
        some ((letters[blockSize * k + index]?).getD 0) := by
    rw [loaded, if_pos (hblocks ▸ hk)]
    exact getElem?_imageBlock _ _ hindex
  refine ⟨_, hfinal, ?_, ?_, ?_, ?_⟩
  · rw [hbyte (by decide) (by decide), getElem?_letters]
    rfl
  · rw [hbyte (by decide) (by decide), getElem?_letters]
    rfl
  · rw [hbyte (by decide) (by decide), getElem?_letters]
    rfl
  · rw [loaded, if_neg (by rw [hblocks]; decide)]

end U3Tool
