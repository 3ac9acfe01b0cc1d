import U3Tool.ImageTransfer
import U3Tool.PartitionTable

/-!
# Guarantees of `do_load`

What holds of every run of `do_load`, proved on the abstract transfer. The blocks sent are a prefix
of the zero-padded image, in order, each under its own block number, and the loop looks at `quit` at
most once a whole block (`doLoad_sends_image_in_order`).

Two guarantees hold under a condition only. A run that reports success has stored the whole image
exactly when no look at `quit` before the last block found it set (`doLoad_stores_image_iff`): the
loop ends in the same way when it is interrupted and when it is done. And all blocks lie inside the
CD partition exactly when the partition holds the image rounded up to blocks of 2048 bytes
(`doLoad_stays_inside_iff`): the check before the loop rounds up to sectors of 512 bytes.
-/

set_option autoImplicit false
set_option relaxedAutoImplicit false

namespace U3Tool

open Interaction Bytes Program

variable {image : ImageFile} {buffer : Buffer blockSize} {trace : List (Event Tool)}
  {result : Except Halt ExitStatus}

/-! ### Transfers -/

/-- The blocks of an image are those that begin before its end. -/
theorem lt_blocks_iff {k : ℕ} : k < image.blocks ↔ blockSize * k < image.stSize := by
  obtain ⟨hcover, htight⟩ := unitsFor_spec image.stSize blockSize (by decide)
  change image.stSize ≤ 2048 * image.blocks at hcover
  change 2048 * image.blocks < image.stSize + 2048 at htight
  change k < image.blocks ↔ 2048 * k < image.stSize
  omega

/-- A whole block is followed by the rest of the image. -/
theorem lt_blocks_of_whole {k : ℕ} (hmore : blockSize * (k + 1) ≤ image.stSize) :
    k < image.blocks :=
  lt_blocks_iff.mpr
    (lt_of_lt_of_le (Nat.mul_lt_mul_of_pos_left (Nat.lt_succ_self k) (by decide)) hmore)

/-- The block in which an image ends is its last. -/
theorem blocks_eq_of_last {k : ℕ} (hmore : blockSize * k < image.stSize)
    (hend : image.stSize < blockSize * (k + 1)) : image.blocks = k + 1 :=
  le_antisymm (not_lt.mp fun hlt ↦ absurd (lt_blocks_iff.mp hlt) (by omega))
    (lt_blocks_iff.mpr hmore)

/-- An image that ends where block `k` would begin has `k` blocks, if it has that many. -/
theorem blocks_eq_of_exhausted {k : ℕ} (hend : image.stSize = blockSize * k)
    (hk : k ≤ image.blocks) : image.blocks = k :=
  le_antisymm (not_lt.mp fun hlt ↦ absurd (lt_blocks_iff.mp hlt) (by omega)) hk

namespace Loading

variable {k : ℕ} {writes : List (Event Scsi)} {quits : List Bool} {status : ExitStatus}

/-- The writes of a transfer are consecutive blocks of the image. -/
theorem requests (hloading : Loading image k writes quits status) :
    ∃ count, writes.map Event.request = (List.range' k count).map (imageWrite image.content) ∧
      (k ≤ image.blocks → k + count ≤ image.blocks) := by
  induction hloading with
  | readError hfailing => exact ⟨0, rfl, id⟩
  | exhausted hend => exact ⟨0, rfl, id⟩
  | refused hmore hreply => exact ⟨1, rfl, fun _ ↦ lt_blocks_iff.mpr hmore⟩
  | last hmore hend hreply => exact ⟨1, rfl, fun _ ↦ lt_blocks_iff.mpr hmore⟩
  | interrupted hmore hreply => exact ⟨1, rfl, fun _ ↦ lt_blocks_of_whole hmore⟩
  | next hmore hreply hrest ih =>
    obtain ⟨count, hwrites, hcount⟩ := ih
    refine ⟨count + 1, by rw [List.map_cons, hwrites, List.range'_succ, List.map_cons], fun _ ↦ ?_⟩
    have hbound := hcount (lt_blocks_of_whole hmore)
    omega

/-- A transfer looks at `quit` after whole blocks only. -/
theorem quits_le (hloading : Loading image k writes quits status) :
    quits = [] ∨ blockSize * (k + quits.length) ≤ image.stSize := by
  induction hloading with
  | readError hfailing => exact Or.inl rfl
  | exhausted hend => exact Or.inl rfl
  | refused hmore hreply => exact Or.inl rfl
  | last hmore hend hreply => exact Or.inl rfl
  | interrupted hmore hreply => exact Or.inr hmore
  | next hmore hreply hrest ih =>
    refine Or.inr ?_
    rcases ih with rfl | hbound
    · exact hmore
    · rw [List.length_cons, ← add_assoc, add_right_comm]
      exact hbound

/-- The writes and replies of a transfer that has stored the image from block `k` on. -/
def StoredFrom (image : ImageFile) (k : ℕ) (writes : List (Event Scsi)) : Prop :=
  writes.map Event.request =
      (List.range' k (image.blocks - k)).map (imageWrite image.content) ∧
    ∀ event ∈ writes, event.reply.Accepted

/-- Storing from block `k` on is storing block `k` and the rest. -/
theorem storedFrom_cons {reply : CmdReply} (hk : k < image.blocks) (hreply : reply.Accepted) :
    StoredFrom image k (⟨imageWrite image.content k, reply⟩ :: writes) ↔
      StoredFrom image (k + 1) writes := by
  have hcount : image.blocks - k = image.blocks - (k + 1) + 1 := by omega
  simp only [StoredFrom, hcount, List.map_cons, List.range'_succ, List.cons.injEq, true_and,
    List.forall_mem_cons, hreply]

/-- A transfer that reports success has stored the rest of the image exactly when no look at `quit`
before the last block ended it. -/
theorem stored_iff (hloading : Loading image k writes quits status) (hk : k ≤ image.blocks) :
    (status = .success → StoredFrom image k writes) ↔
      ∀ j, k + j + 1 < image.blocks → quits[j]? ≠ some true := by
  induction hloading with
  | readError hfailing => simp
  | exhausted hend =>
    simp [StoredFrom, blocks_eq_of_exhausted hend hk]
  | refused hmore hreply => simp
  | @last k reply hmore hend hreply =>
    simp [StoredFrom, blocks_eq_of_last hmore hend, hreply]
  | @interrupted k reply hmore hreply =>
    have hlt := lt_blocks_of_whole hmore
    simp only [true_implies, storedFrom_cons hlt hreply]
    constructor
    · rintro ⟨hwrites, -⟩ j hj
      have hnone := congrArg List.length hwrites
      simp at hnone
      omega
    · intro hquits
      have hlast : ¬ k + 0 + 1 < image.blocks := fun hlt ↦ hquits 0 hlt rfl
      have hcount : image.blocks - (k + 1) = 0 := by omega
      simp [StoredFrom, hcount]
  | @next k reply writes quits status hmore hreply hrest ih =>
    have hlt := lt_blocks_of_whole hmore
    rw [storedFrom_cons hlt hreply, ih hlt]
    constructor
    · intro hquits j hj
      cases j with
      | zero => simp
      | succ j => exact hquits j (by omega)
    · intro hquits j hj
      exact hquits (j + 1) (by omega)

end Loading

/-! ### Runs that reach the loop -/

/-- The block number of a CD write, big-endian in bytes 4 to 7 of the command block. -/
def CmdRequest.blockNumber (request : CmdRequest) : ℕ := leNat (request.cmd.slice 4 4).reverse

theorem blockNumber_imageWrite {content : List UInt8} {k : ℕ} (hk : k < 2 ^ 32) :
    (imageWrite content k).blockNumber = k := by
  have hword : (UInt32.ofNat k).toNat = k := by
    rw [UInt32.toNat_ofNat']
    exact Nat.mod_eq_of_lt hk
  rw [CmdRequest.blockNumber, imageWrite, slice_cdWriteCommand, List.reverse_reverse,
    leNat_leBytes, hword]
  exact Nat.mod_eq_of_lt hk

namespace Transfers

variable {info writes : List (Event Scsi)} {pinfo : PartInfo} {status : ExitStatus}

/-- Every call of a transfer is a write of the CD partition. -/
theorem command_of_mem (htransfers : Transfers image trace result info pinfo writes status)
    {event : Event Scsi} (hevent : event ∈ writes) : event.request.command = 0x42 := by
  obtain ⟨count, hrequests, -⟩ := htransfers.loading.requests
  have hmem := List.mem_map_of_mem (f := Event.request) hevent
  rw [hrequests] at hmem
  obtain ⟨k, -, hk⟩ := List.mem_map.mp hmem
  rw [← hk]
  rfl

/-- The writes of the CD partition are those of the transfer. -/
theorem cdWrites_eq (htransfers : Transfers image trace result info pinfo writes status) :
    cdWrites trace = writes := by
  have hinfo : ∀ event ∈ info, ¬ event.request.command = 0x42 := fun event hevent ↦ by
    rw [asks_u3PartitionInfo.of_run htransfers.info_run event hevent]
    decide
  rw [cdWrites, htransfers.commands_eq, List.filter_append, List.filter_eq_nil_iff.mpr,
    List.nil_append, List.filter_eq_self.mpr]
  · exact fun event hevent ↦ decide_eq_true (htransfers.command_of_mem hevent)
  · simpa using hinfo

/-- An image that passes the check has fewer than 2^32 blocks. -/
theorem blocks_lt (htransfers : Transfers image trace result info pinfo writes status) :
    image.blocks < 2 ^ 32 := by
  have hfits := htransfers.fits
  have hcdSize := pinfo.cdSize.toNat_lt
  obtain ⟨hcover, -⟩ := unitsFor_spec image.stSize sectorSize (by decide)
  obtain ⟨-, htight⟩ := unitsFor_spec image.stSize blockSize (by decide)
  change image.stSize ≤ 512 * unitsFor image.stSize sectorSize at hcover
  change 2048 * image.blocks < image.stSize + 2048 at htight
  omega

/-- Every block written is a block of the image. -/
theorem blockNumber_lt (htransfers : Transfers image trace result info pinfo writes status) :
    ∀ event ∈ cdWrites trace, event.request.blockNumber < image.blocks := by
  intro event hevent
  rw [htransfers.cdWrites_eq] at hevent
  obtain ⟨count, hrequests, hcount⟩ := htransfers.loading.requests
  have hbound := hcount (Nat.zero_le _)
  have hblocks := htransfers.blocks_lt
  have hmem := List.mem_map_of_mem (f := Event.request) hevent
  rw [hrequests] at hmem
  obtain ⟨k, hk, hrequest⟩ := List.mem_map.mp hmem
  have hlt := (List.mem_range'_1.mp hk).2
  rw [← hrequest, blockNumber_imageWrite (by omega)]
  omega

end Transfers

/-- A run that fails before the loop writes nothing. -/
theorem cdWrites_eq_nil (hqueries : ∀ event ∈ commands trace, event.request.command = 0x21) :
    cdWrites trace = [] := by
  rw [cdWrites, List.filter_eq_nil_iff]
  intro event hevent
  simp [hqueries event hevent]

/-! ### Loads against a device that accepts everything -/

/-- A file without defects. -/
structure ImageFile.Sound (image : ImageFile) : Prop where
  statError_eq : image.statError = none
  openError_eq : image.openError = none
  not_failing : image.failing = false

/-- A sound image that passes the check is transferred: there is a run that begins with any given
partition information, in which every block is accepted and every look at `quit` finds the given
value. -/
theorem exists_transfer (hsound : image.Sound) (hsize : image.stSize ≠ 0)
    (buffer : Buffer blockSize) {info : List (Event Scsi)} {pinfo : PartInfo}
    (hinfo : Run u3PartitionInfo info (.ok pinfo))
    (hfits : unitsFor image.stSize sectorSize ≤ pinfo.cdSize.toNat) (quit : Bool) :
    ∃ trace writes status, Run (doLoad image buffer) trace (.ok status) ∧
      Transfers image trace (.ok status) info pinfo writes status ∧
      (∀ event ∈ writes, event.reply.Accepted) ∧ ∀ value ∈ quitReads trace, value = quit := by
  have hat : AtBlock image 0 image.fopen := ⟨rfl, rfl, rfl, rfl, Nat.zero_le _⟩
  let loop := loadLoop (UInt32.ofNat (unitsFor image.stSize blockSize)) image.fopen 0 buffer 0
  let moved := (exec (acceptAll quit) loop ()).trace
  have hloop : Run loop moved (exec (acceptAll quit) loop ()).result := run_exec _ _ _
  obtain ⟨status, hresult, hloading⟩ := loading_of_run_loadLoop hat hloop
  rw [hresult] at hloop
  refine ⟨info.map sendEvent ++ moved, commands moved, status, ?_,
    ⟨hinfo, hfits, ?_, rfl, ?_⟩, ?_, ?_⟩
  · unfold doLoad
    rw [hsound.statError_eq]
    dsimp only
    rw [if_neg hsize]
    refine (run_command.mpr ⟨_, info, rfl, rfl, hinfo⟩).bind ?_
    dsimp only
    rw [if_neg (not_lt.mpr hfits), hsound.openError_eq]
    exact hloop
  · rw [commands_append, commands_map_sendEvent]
  · simpa using hloading
  · intro event hevent
    obtain ⟨before, hreply⟩ := reply_of_mem_trace_exec (mem_commands.mp hevent)
    exact ⟨[], hreply⟩
  · intro value hvalue
    rw [quitReads_append, quitReads_map_sendEvent, List.nil_append] at hvalue
    obtain ⟨before, hreply⟩ := reply_of_mem_trace_exec (mem_quitReads.mp hvalue)
    exact hreply

/-- A transfer fails only because reading failed or a block was refused. -/
theorem Loading.success {k : ℕ} {writes : List (Event Scsi)} {quits : List Bool}
    {status : ExitStatus} (hloading : Loading image k writes quits status)
    (hsound : image.failing = false) (haccepted : ∀ event ∈ writes, event.reply.Accepted) :
    status = .success := by
  induction hloading with
  | readError hfailing => exact absurd hfailing (by simp [hsound])
  | exhausted hend => rfl
  | refused hmore hreply => exact absurd (haccepted _ (List.mem_singleton_self _)) hreply
  | last hmore hend hreply => rfl
  | interrupted hmore hreply => rfl
  | next hmore hreply hrest ih => exact ih (List.forall_mem_cons.mp haccepted).2

/-- A device that reports a CD partition of so many sectors. -/
def reportedInfo (cdSize : UInt32) : List (Event Scsi) :=
  (exec exampleTable u3PartitionInfo ⟨(), some (partitionRecord 0 cdSize).encode⟩).trace

theorem run_reportedInfo (cdSize : UInt32) :
    Run u3PartitionInfo (reportedInfo cdSize)
      (.ok (readBack (partitionRecord 0 cdSize).encode)) := by
  have hresult : (exec exampleTable u3PartitionInfo
      ⟨(), some (partitionRecord 0 cdSize).encode⟩).result = _ := exec_u3PartitionInfo rfl
  rw [← hresult]
  exact run_exec _ _ _

/-- A file of so many zeros. -/
def zeroImage (size : ℕ) (hsize : size < 2 ^ 63) : ImageFile where
  content := List.replicate size 0
  statError := none
  openError := none
  readError := none
  length_lt := by rw [List.length_replicate]; exact hsize

theorem sound_zeroImage {size : ℕ} (hsize : size < 2 ^ 63) : (zeroImage size hsize).Sound :=
  ⟨rfl, rfl, rfl⟩

@[simp] theorem stSize_zeroImage {size : ℕ} (hsize : size < 2 ^ 63) :
    (zeroImage size hsize).stSize = size :=
  List.length_replicate

/-- A sound image that passes the check is stored when nothing interrupts the transfer: there is a run
that succeeds and sends every block. -/
theorem exists_load (hsound : image.Sound) (hsize : image.stSize ≠ 0) (buffer : Buffer blockSize)
    {info : List (Event Scsi)} {pinfo : PartInfo} (hinfo : Run u3PartitionInfo info (.ok pinfo))
    (hfits : unitsFor image.stSize sectorSize ≤ pinfo.cdSize.toNat) :
    ∃ trace writes, Run (doLoad image buffer) trace (.ok .success) ∧
      Transfers image trace (.ok .success) info pinfo writes .success ∧
      writes.map Event.request = (List.range image.blocks).map (imageWrite image.content) := by
  obtain ⟨trace, writes, status, hrun, htransfers, haccepted, hquits⟩ :=
    exists_transfer hsound hsize buffer hinfo hfits false
  obtain rfl := htransfers.loading.success hsound.not_failing haccepted
  have hstored := (htransfers.loading.stored_iff (Nat.zero_le _)).mpr
    (fun j _ hquit ↦ absurd (hquits _ (List.mem_of_getElem? hquit)) (by decide)) rfl
  exact ⟨trace, writes, hrun, htransfers, by rw [hstored.1, List.range_eq_range', Nat.sub_zero]⟩

/-! ### What a load guarantees -/

/-- Every run of `do_load` returns, and its CD writes are a prefix of the zero-padded image: write
number `k` carries block number `k` and the 2048 bytes of the file at its offset, with zeros past
the end. There are no more writes than blocks, and `quit` is looked at once for each whole block at
most. -/
theorem doLoad_sends_image_in_order (hrun : Run (doLoad image buffer) trace result) :
    (∃ status, result = .ok status) ∧
      (cdWrites trace).length ≤ image.blocks ∧
      blockSize * (quitReads trace).length ≤ image.stSize ∧
      ∀ k event, (cdWrites trace)[k]? = some event →
        event.request.blockNumber = k ∧ event.request.direction = .toDev ∧
          event.request.length = blockSize ∧ event.request.data.length = blockSize ∧
          ∀ index < blockSize, event.request.data[index]? =
            some ((image.content[blockSize * k + index]?).getD 0) := by
  rcases run_doLoad hrun with ⟨rfl, hquits, hqueries⟩ | ⟨info, pinfo, writes, status, htransfers⟩
  · rw [cdWrites_eq_nil hqueries, hquits]
    exact ⟨⟨_, rfl⟩, Nat.zero_le _, Nat.zero_le _, by simp⟩
  · obtain ⟨count, hrequests, hcount⟩ := htransfers.loading.requests
    have hblocks := htransfers.blocks_lt
    have hlength : writes.length = count := by simpa using congrArg List.length hrequests
    have hbound : writes.length ≤ image.blocks := by
      have hall := hcount (Nat.zero_le _)
      omega
    rw [htransfers.cdWrites_eq]
    refine ⟨⟨status, htransfers.result_eq⟩, hbound, ?_, fun k event hevent ↦ ?_⟩
    · rcases htransfers.loading.quits_le with hnone | hsome
      · simp [hnone]
      · simpa using hsome
    · have hk := (List.getElem?_eq_some_iff.mp hevent).1
      have hrequest : event.request = imageWrite image.content k := by
        have hsome := congrArg (fun requests ↦ requests[k]?) hrequests
        simp only [List.getElem?_map, hevent, Option.map_some] at hsome
        rw [List.getElem?_range' (by omega)] at hsome
        simpa using hsome
      rw [hrequest]
      exact ⟨blockNumber_imageWrite (by omega), rfl, rfl, length_imageBlock _ _,
        fun index hindex ↦ getElem?_imageBlock _ _ hindex⟩

/-- The whole image was stored: the CD writes are its blocks, each once and in order, and the device
accepted them all. -/
def Stored (image : ImageFile) (trace : List (Event Tool)) : Prop :=
  (cdWrites trace).map Event.request = (List.range image.blocks).map (imageWrite image.content) ∧
    ∀ event ∈ cdWrites trace, event.reply.Accepted

/-- A run of `do_load` keeps the promise of its exit status, that success means the whole image was
stored, if and only if no look at `quit` before the last block found it set. -/
theorem doLoad_stores_image_iff (hrun : Run (doLoad image buffer) trace result) :
    (result = .ok .success → Stored image trace) ↔
      ∀ j, j + 1 < image.blocks → (quitReads trace)[j]? ≠ some true := by
  rcases run_doLoad hrun with ⟨rfl, hquits, hqueries⟩ | ⟨info, pinfo, writes, status, htransfers⟩
  · simp [hquits]
  · have hstored := htransfers.loading.stored_iff (Nat.zero_le _)
    simp only [Loading.StoredFrom, Nat.sub_zero, Nat.zero_add, ← List.range_eq_range'] at hstored
    rw [htransfers.result_eq, Stored, htransfers.cdWrites_eq, ← hstored]
    simp

/-- Two blocks of zeros. -/
def twoBlocks : ImageFile := zeroImage 4096 (by norm_num)

theorem stSize_twoBlocks : twoBlocks.stSize = 4096 := stSize_zeroImage _

theorem blocks_twoBlocks : twoBlocks.blocks = 2 := by
  rw [ImageFile.blocks, stSize_twoBlocks]
  decide

/-- A load of two blocks to a device that reports 8 sectors, with `quit` fixed. -/
theorem exists_transfer_twoBlocks (quit : Bool) :
    ∃ trace info pinfo writes status,
      Run (doLoad twoBlocks (.fill blockSize 0)) trace (.ok status) ∧
        Transfers twoBlocks trace (.ok status) info pinfo writes status ∧
        (∀ event ∈ writes, event.reply.Accepted) ∧ ∀ value ∈ quitReads trace, value = quit := by
  have hfits : unitsFor twoBlocks.stSize sectorSize ≤
      (readBack (partitionRecord 0 8).encode).cdSize.toNat := by
    rw [stSize_twoBlocks, readBack_encode_partitionRecord]
    decide
  obtain ⟨trace, writes, status, htransfers⟩ := exists_transfer (sound_zeroImage _)
    (by rw [stSize_zeroImage]; decide) (.fill blockSize 0) (run_reportedInfo 8) hfits quit
  exact ⟨trace, _, _, writes, status, htransfers⟩

/-- An uninterrupted load of two blocks to a device that accepts everything stores them. -/
theorem doLoad_stores_image_iff_witness :
    ∃ trace, Run (doLoad twoBlocks (.fill blockSize 0)) trace (.ok .success) ∧
      Stored twoBlocks trace := by
  obtain ⟨trace, info, pinfo, writes, status, hrun, htransfers, haccepted, hquits⟩ :=
    exists_transfer_twoBlocks false
  obtain rfl := htransfers.loading.success rfl haccepted
  refine ⟨trace, hrun, (doLoad_stores_image_iff hrun).mpr (fun j _ hquit ↦ ?_) rfl⟩
  exact absurd (hquits _ (List.mem_of_getElem? hquit)) (by decide)

/-- A load of two blocks that is interrupted after the first reports success. -/
theorem doLoad_interrupted_reports_success :
    ∃ trace, Run (doLoad twoBlocks (.fill blockSize 0)) trace (.ok .success) ∧
      quitReads trace = [true] ∧ (cdWrites trace).length = 1 ∧ ¬ Stored twoBlocks trace := by
  obtain ⟨trace, info, pinfo, writes, status, hrun, htransfers, haccepted, hquits⟩ :=
    exists_transfer_twoBlocks true
  have hwrites := htransfers.cdWrites_eq
  have hloading := htransfers.loading
  obtain rfl := hloading.success rfl haccepted
  have hsize := stSize_twoBlocks
  have hone : quitReads trace = [true] ∧ writes.length = 1 := by
    generalize quitReads trace = quits at hloading hquits
    cases hloading with
    | exhausted hend => exact absurd (hsize.symm.trans hend) (by decide)
    | last hmore hend hreply => exact absurd hend (by rw [hsize]; decide)
    | interrupted hmore hreply => exact ⟨rfl, rfl⟩
    | next hmore hreply hrest => exact absurd (hquits false (List.mem_cons_self ..)) (by decide)
  refine ⟨trace, hrun, hone.1, by rw [hwrites, hone.2], fun hstored ↦ ?_⟩
  have hlength := congrArg List.length hstored.1
  rw [List.length_map, List.length_map, List.length_range, hwrites, hone.2,
    blocks_twoBlocks] at hlength
  exact absurd hlength (by decide)

/-- A block of one letter and the first byte of a second one. -/
@[irreducible] def letters : List UInt8 := List.replicate 2048 65 ++ [66]

theorem length_letters : letters.length = 2049 := by
  simp only [letters, List.length_append, List.length_replicate, List.length_singleton]

theorem getElem?_letters (index : ℕ) :
    letters[index]? = if index < 2048 then some 65 else [66][index - 2048]? := by
  rw [letters, List.getElem?_append, List.length_replicate, List.getElem?_replicate]
  split_ifs <;> rfl

/-- An image that ends with the first byte of its second block. -/
def letterImage : ImageFile where
  content := letters
  statError := none
  openError := none
  readError := none
  length_lt := by
    rw [length_letters]
    decide

theorem sound_letterImage : letterImage.Sound := ⟨rfl, rfl, rfl⟩

theorem stSize_letterImage : letterImage.stSize = 2049 := length_letters

theorem blocks_letterImage : letterImage.blocks = 2 := by
  rw [ImageFile.blocks, stSize_letterImage]
  decide

/-- Its load sends two blocks; the second is filled with zeros. -/
theorem doLoad_sends_image_in_order_witness :
    ∃ trace first second, Run (doLoad letterImage (.fill blockSize 0)) trace (.ok .success) ∧
      cdWrites trace = [first, second] ∧
      first.request.blockNumber = 0 ∧ first.request.data[7]? = some 65 ∧
      second.request.blockNumber = 1 ∧ second.request.data[0]? = some 66 ∧
      second.request.data[7]? = some 0 := by
  have hfits : unitsFor letterImage.stSize sectorSize ≤
      (readBack (partitionRecord 0 8).encode).cdSize.toNat := by
    rw [stSize_letterImage, readBack_encode_partitionRecord]
    decide
  obtain ⟨trace, writes, hrun, htransfers, hrequests⟩ := exists_load sound_letterImage
    (by rw [stSize_letterImage]; decide) (.fill blockSize 0) (run_reportedInfo 8) hfits
  have hlength : writes.length = 2 := by
    simpa [blocks_letterImage] using congrArg List.length hrequests
  obtain ⟨first, second, rfl⟩ := List.length_eq_two.mp hlength
  have hwrites := htransfers.cdWrites_eq
  have hblocks := (doLoad_sends_image_in_order hrun).2.2.2
  obtain ⟨hzero, -, -, -, hfirst⟩ := hblocks 0 first (by rw [hwrites]; rfl)
  obtain ⟨hone, -, -, -, hsecond⟩ := hblocks 1 second (by rw [hwrites]; rfl)
  have hletters (index : ℕ) : letterImage.content[index]? = _ := getElem?_letters index
  simp only [hletters] at hfirst hsecond
  exact ⟨trace, first, second, hrun, hwrites, hzero, hfirst 7 (by decide), hone,
    hsecond 0 (by decide), hsecond 7 (by decide)⟩

/-- For every image size that passes the capacity check against the CD size the device reports: all
blocks that any load of an image of this size writes lie inside the CD partition if and only if the
partition holds the image rounded up to whole blocks. -/
theorem doLoad_stays_inside_iff {size : ℕ} (hsize : size < 2 ^ 63)
    {info : List (Event Scsi)} {pinfo : PartInfo} (hinfo : Run u3PartitionInfo info (.ok pinfo))
    (hfits : unitsFor size sectorSize ≤ pinfo.cdSize.toNat) :
    (∀ (image : ImageFile) (buffer : Buffer blockSize) (trace : List (Event Tool))
        (result : Except Halt ExitStatus) (rest : List (Event Scsi)), image.stSize = size →
        Run (doLoad image buffer) trace result → commands trace = info ++ rest →
        ∀ event ∈ cdWrites trace, 4 * (event.request.blockNumber + 1) ≤ pinfo.cdSize.toNat) ↔
      4 * unitsFor size blockSize ≤ pinfo.cdSize.toNat := by
  constructor
  · intro hinside
    rcases Nat.eq_zero_or_pos size with rfl | hpos
    · exact Nat.zero_le _
    have hsizeEq := stSize_zeroImage hsize
    obtain ⟨trace, writes, hrun, htransfers, hrequests⟩ :=
      exists_load (sound_zeroImage hsize) (by omega) (.fill blockSize 0) hinfo
        (by rw [hsizeEq]; exact hfits)
    -- the last block is among the writes
    set blocks := (zeroImage size hsize).blocks with hblocks
    have hsome : 0 < blocks := lt_blocks_iff.mpr (by rw [hsizeEq]; simpa using hpos)
    have hlast : imageWrite (zeroImage size hsize).content (blocks - 1) ∈
        writes.map Event.request := by
      rw [hrequests]
      exact List.mem_map_of_mem (List.mem_range.mpr (by omega))
    obtain ⟨event, hevent, hrequest⟩ := List.mem_map.mp hlast
    have hbound := hinside _ _ trace _ writes hsizeEq hrun htransfers.commands_eq event
      (by rw [htransfers.cdWrites_eq]; exact hevent)
    have hlt := htransfers.blocks_lt
    rw [hrequest, blockNumber_imageWrite (by omega), Nat.sub_add_cancel hsome, hblocks,
      ImageFile.blocks, hsizeEq] at hbound
    exact hbound
  · intro hholds image buffer trace result rest himage hrun hcommands event hevent
    rcases run_doLoad hrun with ⟨-, -, hqueries⟩ | ⟨info', pinfo', writes, status, htransfers⟩
    · rw [cdWrites_eq_nil hqueries] at hevent
      simp at hevent
    · obtain ⟨rfl, hpinfo⟩ := hinfo.unique htransfers.info_run
        (hcommands.symm.trans htransfers.commands_eq)
      have hlt := htransfers.blockNumber_lt event hevent
      rw [ImageFile.blocks, himage] at hlt
      omega

/-- An image of one byte, rounded up to a block, does not fit a CD partition of one sector. -/
theorem doLoad_stays_inside_iff_witness :
    ¬ (∀ (image : ImageFile) (buffer : Buffer blockSize) (trace : List (Event Tool))
        (result : Except Halt ExitStatus) (rest : List (Event Scsi)), image.stSize = 1 →
        Run (doLoad image buffer) trace result → commands trace = reportedInfo 1 ++ rest →
        ∀ event ∈ cdWrites trace, 4 * (event.request.blockNumber + 1) ≤
          (readBack (partitionRecord 0 1).encode).cdSize.toNat) := by
  have hcdSize : (readBack (partitionRecord 0 1).encode).cdSize = 1 := by
    rw [readBack_encode_partitionRecord]
    rfl
  rw [doLoad_stays_inside_iff (by decide) (run_reportedInfo 1)
    (by rw [hcdSize]; decide), hcdSize]
  decide

/-- An image of one byte. -/
def oneByte : ImageFile := zeroImage 1 (by norm_num)

/-- An image of one byte passes the check for a CD partition of one sector, and its only block
reaches past the end of the partition. -/
theorem doLoad_writes_past_partition :
    ∃ trace event, Run (doLoad oneByte (.fill blockSize 0)) trace (.ok .success) ∧
      Run u3PartitionInfo (reportedInfo 1) (.ok (readBack (partitionRecord 0 1).encode)) ∧
      (readBack (partitionRecord 0 1).encode).cdSize = 1 ∧
      commands trace = reportedInfo 1 ++ [event] ∧ event.request.command = 0x42 ∧
      event.reply.Accepted ∧ ¬ 4 * (event.request.blockNumber + 1) ≤ 1 := by
  have hcdSize : (readBack (partitionRecord 0 1).encode).cdSize = 1 := by
    rw [readBack_encode_partitionRecord]
    rfl
  have hsize : oneByte.stSize = 1 := stSize_zeroImage _
  have hsound : oneByte.Sound := sound_zeroImage _
  obtain ⟨trace, writes, status, hrun, htransfers, haccepted, -⟩ :=
    exists_transfer hsound (by rw [hsize]; decide) (.fill blockSize 0)
      (run_reportedInfo 1) (by rw [hsize, hcdSize]; decide) false
  have hloading := htransfers.loading
  obtain rfl := hloading.success rfl haccepted
  have hcommands := htransfers.commands_eq
  generalize quitReads trace = quits at hloading
  cases hloading with
  | exhausted hend => exact absurd (hsize.symm.trans hend) (show ¬ 1 = blockSize * 0 by decide)
  | last hmore hend hreply =>
    exact ⟨trace, _, hrun, run_reportedInfo 1, hcdSize, hcommands, rfl, hreply, by
      rw [blockNumber_imageWrite (by decide)]; decide⟩
  | interrupted hmore hreply => exact absurd hmore (by rw [hsize]; decide)
  | next hmore hreply hrest => exact absurd hmore (by rw [hsize]; decide)

end U3Tool
