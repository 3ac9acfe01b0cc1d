import U3Tool.CommandRuns
import U3Tool.ImageLoad

/-!
# What `do_load` transfers

The abstract model of a load is `Loading`: from block `k` on, blocks of the zero-padded image are
sent one after the other until reading fails, a block is refused, the image is exhausted or a look
at `quit` ends the transfer. `loading_of_run_loadLoop` shows that every run of the loop is such a
transfer; its invariant ties the position in the file to the block counter, and the reused buffer
drops out because every block is either read whole or cleared behind the bytes read.

What is said of a load afterwards is said of a `Loading`, by induction on its cases, without the loop
and its state.
-/

set_option autoImplicit false
set_option relaxedAutoImplicit false

namespace U3Tool

open Interaction Bytes Program

variable {image : ImageFile}

/-! ### The blocks of an image -/

/-- Block `k` of a content: 2048 bytes from offset `2048 * k`, with zeros past the end. -/
def imageBlock (content : List UInt8) (k : ℕ) : List UInt8 :=
  let bytes := (content.drop (blockSize * k)).take blockSize
  bytes ++ List.replicate (blockSize - bytes.length) 0

/-- The call that writes block `k` of a content. -/
def imageWrite (content : List UInt8) (k : ℕ) : CmdRequest where
  cmd := cdWriteCommand (UInt32.ofNat k)
  direction := .toDev
  length := 2048
  data := imageBlock content k

/-- The number of blocks of an image. -/
def ImageFile.blocks (image : ImageFile) : ℕ := unitsFor image.stSize blockSize

@[simp] theorem length_imageBlock (content : List UInt8) (k : ℕ) :
    (imageBlock content k).length = blockSize := by
  simp only [imageBlock, List.length_append, List.length_replicate, List.length_take]
  omega

/-- Every byte of a block is the byte of the content at its offset, or zero past the end. -/
theorem getElem?_imageBlock (content : List UInt8) (k : ℕ) {index : ℕ}
    (hindex : index < blockSize) :
    (imageBlock content k)[index]? = some ((content[blockSize * k + index]?).getD 0) := by
  simp only [imageBlock, List.getElem?_append, List.length_take, List.length_drop,
    List.getElem?_take, List.getElem?_drop, List.getElem?_replicate]
  split_ifs with hin hout
  · rw [List.getElem?_eq_getElem (by omega)]
    rfl
  · rw [List.getElem?_eq_none (by omega)]
    rfl
  · omega

/-- Rounding up: the last unit is begun and the units cover. -/
theorem unitsFor_spec (size unit : ℕ) (hunit : 0 < unit) :
    size ≤ unit * unitsFor size unit ∧ unit * unitsFor size unit < size + unit := by
  have hdiv := Nat.div_add_mod size unit
  have hmod := Nat.mod_lt size hunit
  unfold unitsFor
  split_ifs with hrest
  · rw [Nat.mul_add]
    omega
  · rw [Nat.mul_add]
    omega

/-! ### The abstract transfer -/

/-- A transfer of an image from block `k` on: the writes it makes with their replies, the values it
sees `quit` have, and how it ends. -/
inductive Loading (image : ImageFile) : ℕ → List (Event Scsi) → List Bool → ExitStatus → Prop
  | readError {k : ℕ} (hfailing : image.failing = true) : Loading image k [] [] .failure
  | exhausted {k : ℕ} (hend : image.stSize = blockSize * k) : Loading image k [] [] .success
  | refused {k : ℕ} {reply : CmdReply} (hmore : blockSize * k < image.stSize)
      (hreply : ¬ reply.Accepted) :
      Loading image k [⟨imageWrite image.content k, reply⟩] [] .failure
  | last {k : ℕ} {reply : CmdReply} (hmore : blockSize * k < image.stSize)
      (hend : image.stSize < blockSize * (k + 1)) (hreply : reply.Accepted) :
      Loading image k [⟨imageWrite image.content k, reply⟩] [] .success
  | interrupted {k : ℕ} {reply : CmdReply} (hmore : blockSize * (k + 1) ≤ image.stSize)
      (hreply : reply.Accepted) :
      Loading image k [⟨imageWrite image.content k, reply⟩] [true] .success
  | next {k : ℕ} {reply : CmdReply} {writes : List (Event Scsi)} {quits : List Bool}
      {status : ExitStatus} (hmore : blockSize * (k + 1) ≤ image.stSize) (hreply : reply.Accepted)
      (hrest : Loading image (k + 1) writes quits status) :
      Loading image k (⟨imageWrite image.content k, reply⟩ :: writes) (false :: quits) status

/-! ### The loop is such a transfer -/

theorem silent_displayProgress (last cur total : UInt32) :
    Silent (displayProgress last cur total) := by
  unfold displayProgress
  dsimp only
  split_ifs
  · exact .done _
  · exact .done _
  · exact (Silent.print _ _).bind fun _ ↦ (Silent.print _ _).bind fun _ ↦
      (Silent.print _ _).bind fun _ ↦ (Silent.print _ _).bind fun _ ↦
      (Silent.print _ _).bind fun _ ↦ .done _

/-- What follows the loop reports success and touches nothing. -/
theorem run_loadEnd {last blockNum blockCnt : UInt32} {trace : List (Event Tool)}
    {result : Except Halt ExitStatus} (hrun : Run (loadEnd last blockNum blockCnt) trace result) :
    result = .ok .success ∧ commands trace = [] ∧ quitReads trace = [] := by
  obtain ⟨-, first, hfirst, hcommands, hquits⟩ := (silent_displayProgress _ _ _).run_bind hrun
  obtain ⟨-, second, hsecond, hcommands', hquits'⟩ := (Silent.print _ _).run_bind hfirst
  obtain ⟨-, third, hthird, hcommands'', hquits''⟩ := (Silent.print _ _).run_bind hsecond
  obtain ⟨rfl, rfl⟩ := run_done.mp hthird
  exact ⟨rfl, by simp [hcommands, hcommands', hcommands''], by simp [hquits, hquits', hquits'']⟩

/-- The write of a block is one call, and the loop goes on with the next block number exactly when
it is accepted. -/
theorem run_loadWrite {blockNum : UInt32} {buffer : Buffer blockSize} {trace : List (Event Tool)}
    {result : Except Halt (Option UInt32)} (hrun : Run (loadWrite blockNum buffer) trace result) :
    ∃ reply : CmdReply,
      commands trace = [⟨⟨cdWriteCommand blockNum, .toDev, 2048, buffer.bytes⟩, reply⟩] ∧
        quitReads trace = [] ∧
        (reply.Accepted ∧ result = .ok (some (blockNum + 1)) ∨
          ¬ reply.Accepted ∧ result = .ok none) := by
  rcases run_bind.mp hrun with ⟨error, rfl, herror⟩ | ⟨first, outcome, rest, rfl, hfirst, hrest⟩
  · obtain ⟨outcome, events, hcontra, -⟩ := run_command.mp herror
    exact absurd hcontra (by simp)
  · obtain ⟨_, events, houtcome, rfl, hevents⟩ := run_command.mp hfirst
    obtain rfl := Except.ok.inj houtcome
    rcases run_bind.mp hevents with
      ⟨error, rfl, herror⟩ | ⟨sent, received, last, rfl, hsent, hlast⟩
    · obtain ⟨reply, rfl, hreply⟩ := run_deviceCommand.mp herror
      obtain ⟨rfl, hcommands, hquits⟩ := run_print_done hrest
      refine ⟨reply, by simp [hcommands], by simp [hquits], Or.inr ⟨fun haccepted ↦ ?_, rfl⟩⟩
      obtain ⟨received, hreceived⟩ := haccepted.result_eq_ok 2048
      exact absurd (hreply.trans hreceived) (by simp)
    · obtain ⟨answer, rfl, -⟩ := run_deviceCommand_ok.mp hsent
      obtain ⟨rfl, rfl⟩ := run_done.mp hlast
      obtain ⟨rfl, rfl⟩ := run_done.mp hrest
      exact ⟨.success 0 answer, by simp, by simp, Or.inl ⟨⟨answer, rfl⟩, rfl⟩⟩

/-! ### The loop invariant -/

/-- The stream before block `k`: the position is the start of the block, and neither indicator is
set. -/
structure AtBlock (image : ImageFile) (k : ℕ) (file : File) : Prop where
  image_eq : file.image = image
  pos_eq : file.pos = blockSize * k
  not_eof : file.eof = false
  not_error : file.error = false
  pos_le : blockSize * k ≤ image.readEnd

/-- What one `fread` of the loop does before block `k`: it fails, or it returns the bytes of the
block; then the block is whole and the stream is before the next one, or the end of the file was
met. -/
inductive ReadOutcome (image : ImageFile) (k : ℕ) (read : List UInt8 × File) : Prop
  | failed (hless : read.1.length < blockSize) (herror : read.2.error = true)
      (hfailing : image.failing = true)
  | whole (hsound : read.2.error = false)
      (hbytes : read.1 = (image.content.drop (blockSize * k)).take blockSize)
      (hfull : read.1.length = blockSize) (heof : read.2.eof = false)
      (hnext : AtBlock image (k + 1) read.2)
  | short (hsound : read.2.error = false)
      (hbytes : read.1 = (image.content.drop (blockSize * k)).take blockSize)
      (hless : read.1.length < blockSize) (heof : read.2.eof = true)
      (hsize : image.stSize = blockSize * k + read.1.length)

/-- Every `fread` before block `k` has one of these outcomes. -/
theorem fread_atBlock {k : ℕ} {file : File} (hat : AtBlock image k file) :
    ReadOutcome image k (file.fread blockSize) := by
  have hsucc : blockSize * (k + 1) = blockSize * k + blockSize := Nat.mul_succ _ _
  have hlength := file.length_fread blockSize
  have hbytes : (file.fread blockSize).1 =
      ((image.content.take image.readEnd).drop (blockSize * k)).take blockSize := by
    rw [← hat.image_eq, ← hat.pos_eq]
    rfl
  have hend := image.readEnd_le
  rw [File.remaining, hat.image_eq, hat.pos_eq] at hlength
  have hpos := hat.pos_le
  have heof := file.eof_fread blockSize
  have herror := file.error_fread blockSize
  rw [hat.image_eq, hat.not_eof, Bool.false_or] at heof
  rw [hat.image_eq, hat.not_error, Bool.false_or] at herror
  rcases lt_or_ge image.readEnd (blockSize * (k + 1)) with hshort | hfull
  · have hless : (file.fread blockSize).1.length < blockSize := by omega
    rw [decide_eq_true hless, Bool.true_and] at heof herror
    cases hfailing : image.failing with
    | true => exact .failed hless (by rw [herror, hfailing]) hfailing
    | false =>
      have hwhole : image.readEnd = image.content.length := image.readEnd_eq hfailing
      refine .short (by rw [herror, hfailing]) ?_ hless (by rw [heof, hfailing]; rfl) ?_
      · rw [hbytes, hwhole, List.take_length]
      · rw [ImageFile.stSize]
        omega
  · have hwhole : (file.fread blockSize).1.length = blockSize := by omega
    have hnot : decide ((file.fread blockSize).1.length < blockSize) = false := by simp [hwhole]
    rw [hnot, Bool.false_and] at heof herror
    refine .whole herror ?_ hwhole heof ⟨hat.image_eq, ?_, heof, herror, hfull⟩
    · rw [hbytes, List.drop_take, List.take_take, min_eq_left (by omega)]
    · change file.pos + (file.fread blockSize).1.length = _
      rw [hwhole, hat.pos_eq]
      omega

/-! ### Runs of the loop -/

/-- The end of either writing branch of the body. -/
theorem run_loadWrite_map {α : Type} {f : UInt32 → α} {blockNum : UInt32}
    {buffer : Buffer blockSize} {trace : List (Event Tool)} {result : Except Halt (Option α)}
    (hrun : Run (loadWrite blockNum buffer >>= fun written ↦ .done (written.map f)) trace result) :
    ∃ reply : CmdReply,
      commands trace = [⟨⟨cdWriteCommand blockNum, .toDev, 2048, buffer.bytes⟩, reply⟩] ∧
        quitReads trace = [] ∧
        (reply.Accepted ∧ result = .ok (some (f (blockNum + 1))) ∨
          ¬ reply.Accepted ∧ result = .ok none) := by
  rcases run_bind.mp hrun with ⟨error, -, herror⟩ | ⟨first, written, rest, rfl, hfirst, hrest⟩
  · obtain ⟨reply, -, -, ⟨-, hcontra⟩ | ⟨-, hcontra⟩⟩ := run_loadWrite herror
    · exact absurd hcontra (by simp)
    · exact absurd hcontra (by simp)
  · obtain ⟨reply, hcommands, hquits, hend⟩ := run_loadWrite hfirst
    obtain ⟨rfl, rfl⟩ := run_done.mp hrest
    refine ⟨reply, by simp [hcommands], by simp [hquits], hend.imp ?_ ?_⟩
    · rintro ⟨haccepted, hwritten⟩
      exact ⟨haccepted, by rw [Except.ok.inj hwritten]; rfl⟩
    · rintro ⟨hrefused, hwritten⟩
      exact ⟨hrefused, by rw [Except.ok.inj hwritten]; rfl⟩

/-- The buffer after a whole read holds the block. -/
theorem bytes_whole_read {content : List UInt8} {k : ℕ} {buffer : Buffer blockSize}
    (hfull : ((content.drop (blockSize * k)).take blockSize).length = blockSize) :
    (buffer.store 0 ((content.drop (blockSize * k)).take blockSize)).bytes =
      imageBlock content k := by
  rw [Buffer.bytes_store_of_le (le_of_eq hfull.symm), imageBlock, hfull, Nat.sub_self,
    List.replicate_zero, List.append_nil, List.take_take, min_self]

/-- The buffer after a short read and the clearing behind it holds the padded block. -/
theorem bytes_short_read {content : List UInt8} {k : ℕ} {buffer : Buffer blockSize} :
    ((buffer.store 0 ((content.drop (blockSize * k)).take blockSize)).store
        ((content.drop (blockSize * k)).take blockSize).length
        (List.replicate
          (blockSize - ((content.drop (blockSize * k)).take blockSize).length) 0)).bytes =
      imageBlock content k := by
  have hle := List.length_take_le blockSize (content.drop (blockSize * k))
  rw [Buffer.bytes_store_store (by rw [List.length_replicate]; omega), imageBlock]

/-- What the body of the loop does before block `k`, by the commands it sends: it leaves the
function because reading failed or the block was refused, or it reaches the loop condition, having
written the block or having found nothing left to write. -/
inductive BodyOutcome (image : ImageFile) (k : ℕ) {read : List UInt8 × File} :
    List (Event Scsi) → Option (Loaded read) → Prop
  | readError (hfailing : image.failing = true) : BodyOutcome image k [] none
  | refused {reply : CmdReply} (hmore : blockSize * k < image.stSize)
      (hrefused : ¬ reply.Accepted) :
      BodyOutcome image k [⟨imageWrite image.content k, reply⟩] none
  | written {reply : CmdReply} {loaded : Loaded read} (hmore : blockSize * k < image.stSize)
      (haccepted : reply.Accepted) (hblock : loaded.blockNum = UInt32.ofNat (k + 1)) :
      BodyOutcome image k [⟨imageWrite image.content k, reply⟩] (some loaded)
  | nothingLeft {loaded : Loaded read} (hsize : image.stSize = blockSize * k)
      (heof : read.2.eof = true) : BodyOutcome image k [] (some loaded)

/-- The write of a block that is left to write ends the body in one of two ways. -/
theorem bodyOutcome_of_run_loadWrite {k : ℕ} {read : List UInt8 × File}
    {f : UInt32 → Loaded read} (hf : ∀ blockNum, (f blockNum).blockNum = blockNum)
    {buffer : Buffer blockSize} {trace : List (Event Tool)}
    {result : Except Halt (Option (Loaded read))} (hmore : blockSize * k < image.stSize)
    (hbuffer : buffer.bytes = imageBlock image.content k)
    (hrun : Run (loadWrite (UInt32.ofNat k) buffer >>= fun written ↦ .done (written.map f))
      trace result) :
    quitReads trace = [] ∧
      ∃ outcome, result = .ok outcome ∧ BodyOutcome image k (commands trace) outcome := by
  obtain ⟨reply, hcommands, hquits, hresult⟩ := run_loadWrite_map hrun
  rw [hbuffer] at hcommands
  refine ⟨hquits, ?_⟩
  rw [hcommands]
  rcases hresult with ⟨haccepted, rfl⟩ | ⟨hrefused, rfl⟩
  · exact ⟨_, rfl, .written hmore haccepted (by rw [hf]; simp)⟩
  · exact ⟨_, rfl, .refused hmore hrefused⟩

/-- Every run of the body before block `k` has one of these outcomes. -/
theorem run_loadBody {k : ℕ} {file : File} {buffer : Buffer blockSize} {trace : List (Event Tool)}
    {result : Except Halt (Option (Loaded (file.fread blockSize)))} (hat : AtBlock image k file)
    (hrun : Run (loadBody (file.fread blockSize) (UInt32.ofNat k)
      (buffer.store 0 (file.fread blockSize).1)) trace result) :
    quitReads trace = [] ∧
      ∃ outcome, result = .ok outcome ∧ BodyOutcome image k (commands trace) outcome := by
  have hend := image.readEnd_le
  have hread := fread_atBlock hat
  unfold loadBody at hrun
  split_ifs at hrun with hwhole herror hnone himpossible
  · -- a whole block
    cases hread with
    | failed hless => exact absurd hwhole (by omega)
    | short _ _ hless => exact absurd hwhole (by omega)
    | whole hsound hbytes hfull heof hnext =>
      have hmore : blockSize * k < image.stSize := by
        have hpos := hnext.pos_le
        have hsucc : blockSize * (k + 1) = blockSize * k + blockSize := Nat.mul_succ _ _
        have hblock : 0 < blockSize := by decide
        omega
      refine bodyOutcome_of_run_loadWrite (fun _ ↦ rfl) hmore ?_ hrun
      rw [hbytes, bytes_whole_read (hbytes ▸ hwhole)]
  · -- a short read because of an error
    obtain ⟨rfl, hcommands, hquits⟩ := run_print_done hrun
    rw [hcommands]
    cases hread with
    | failed hless _ hfailing => exact ⟨hquits, _, rfl, .readError hfailing⟩
    | whole hsound => exact absurd herror (by simp [hsound])
    | short hsound => exact absurd herror (by simp [hsound])
  · -- nothing was left to read
    obtain ⟨rfl, rfl⟩ := run_done.mp hrun
    cases hread with
    | failed hless hcontra => exact absurd hcontra herror
    | whole hsound hbytes hfull => exact absurd hfull hwhole
    | short hsound hbytes hless heof hsize => exact ⟨rfl, _, rfl, .nothingLeft (by omega) heof⟩
  · exact absurd (file.length_fread_le blockSize) (by omega)
  · -- the last, partial block
    cases hread with
    | failed hless hcontra => exact absurd hcontra herror
    | whole hsound hbytes hfull => exact absurd hfull hwhole
    | short hsound hbytes hless heof hsize =>
      refine bodyOutcome_of_run_loadWrite (fun _ ↦ rfl) (by omega) ?_ hrun
      rw [hbytes, bytes_short_read]

/-- Every run of the loop from block `k` on is a transfer of the image from block `k` on. -/
theorem loading_of_run_loadLoop {blockCnt last : UInt32} {k : ℕ} {file : File}
    {buffer : Buffer blockSize} {trace : List (Event Tool)} {result : Except Halt ExitStatus}
    (hat : AtBlock image k file)
    (hrun : Run (loadLoop blockCnt file (UInt32.ofNat k) buffer last) trace result) :
    ∃ status, result = .ok status ∧
      Loading image k (commands trace) (quitReads trace) status := by
  induction hremaining : file.remaining using Nat.strong_induction_on
    generalizing k file buffer last trace with
  | _ remaining ih =>
    rw [loadLoop] at hrun
    obtain ⟨last, drawn, hdrawn, hcommands, hquits⟩ := (silent_displayProgress _ _ _).run_bind hrun
    rw [hcommands, hquits]
    rcases run_bind.mp hdrawn with ⟨error, -, herror⟩ | ⟨body, outcome, rest, rfl, hbody, hrest⟩
    · obtain ⟨-, _, hcontra, -⟩ := run_loadBody hat herror
      exact absurd hcontra (by simp)
    · obtain ⟨hquitsBody, _, houtcome, hcases⟩ := run_loadBody hat hbody
      obtain rfl := Except.ok.inj houtcome
      rw [commands_append, quitReads_append, hquitsBody, List.nil_append]
      generalize commands body = sent at hcases
      cases hcases with
      | readError hfailing =>
        obtain ⟨rfl, rfl⟩ := run_done.mp hrest
        exact ⟨.failure, rfl, .readError hfailing⟩
      | refused hmore hrefused =>
        obtain ⟨rfl, rfl⟩ := run_done.mp hrest
        exact ⟨.failure, rfl, .refused hmore hrefused⟩
      | nothingLeft hsize heof =>
        dsimp only at hrest
        rw [dif_pos heof] at hrest
        obtain ⟨rfl, hnone, hnone'⟩ := run_loadEnd hrest
        rw [hnone, hnone']
        exact ⟨.success, rfl, .exhausted hsize⟩
      | @written reply loaded hmore haccepted hblock =>
        dsimp only at hrest
        cases fread_atBlock hat with
        | failed hless hfailed =>
          -- the body never reaches the loop condition after a failed read
          rcases loaded.sound with hwhole | hsound
          · exact absurd hwhole (ne_of_lt hless)
          · exact absurd hsound (by simp [hfailed])
        | short hsound hbytes hless heof hsize =>
          -- the block met the end of the file
          rw [dif_pos heof] at hrest
          obtain ⟨rfl, hnone, hnone'⟩ := run_loadEnd hrest
          rw [hnone, hnone']
          have hsucc : blockSize * (k + 1) = blockSize * k + blockSize := Nat.mul_succ _ _
          exact ⟨.success, rfl, .last hmore (by omega) haccepted⟩
        | whole hsound hbytes hfull heof hnext =>
          -- a whole block was written: the loop goes on unless `quit` is set
          rw [dif_neg (by simp [heof]), readQuit, perform, ask_bind, run_ask] at hrest
          obtain ⟨quit, after, rfl, hafter⟩ := hrest
          have hfits : blockSize * (k + 1) ≤ image.stSize := hnext.pos_le.trans image.readEnd_le
          cases quit with
          | true =>
            obtain ⟨rfl, hnone, hnone'⟩ := run_loadEnd hafter
            exact ⟨.success, rfl, by simpa [hnone, hnone'] using .interrupted hfits haccepted⟩
          | false =>
            rw [done_bind, hblock] at hafter
            obtain ⟨status, rfl, hloading⟩ := ih _
              (hremaining ▸ File.remaining_fread_lt (by decide) hfull) hnext hafter rfl
            exact ⟨status, rfl, by simpa using .next hfits haccepted hloading⟩

/-! ### Runs of `do_load` -/

/-- The writes of the CD partition in a trace. -/
def cdWrites (trace : List (Event Tool)) : List (Event Scsi) :=
  (commands trace).filter fun event ↦ event.request.command = 0x42

/-- A run of `do_load` that reaches the loop: the partition information it was given, the capacity
check it passed, and the transfer. -/
structure Transfers (image : ImageFile) (trace : List (Event Tool))
    (result : Except Halt ExitStatus) (info : List (Event Scsi)) (pinfo : PartInfo)
    (writes : List (Event Scsi)) (status : ExitStatus) : Prop where
  info_run : Run u3PartitionInfo info (.ok pinfo)
  fits : unitsFor image.stSize sectorSize ≤ pinfo.cdSize.toNat
  commands_eq : commands trace = info ++ writes
  result_eq : result = .ok status
  loading : Loading image 0 writes (quitReads trace) status

/-- A run of `do_load` that reaches the loop: the partition information it was given, the capacity
check it passed, and the run of the loop. -/
structure ReachesLoop (image : ImageFile) (buffer : Buffer blockSize) (trace : List (Event Tool))
    (result : Except Halt ExitStatus) (info : List (Event Scsi)) (pinfo : PartInfo)
    (moved : List (Event Tool)) : Prop where
  info_run : Run u3PartitionInfo info (.ok pinfo)
  fits : unitsFor image.stSize sectorSize ≤ pinfo.cdSize.toNat
  not_empty : image.stSize ≠ 0
  trace_eq : trace = info.map sendEvent ++ moved
  loop_run : Run (loadLoop (UInt32.ofNat (unitsFor image.stSize blockSize)) image.fopen
    (UInt32.ofNat 0) buffer 0) moved result

theorem atBlock_fopen (image : ImageFile) : AtBlock image 0 image.fopen :=
  ⟨rfl, rfl, rfl, rfl, Nat.zero_le _⟩

/-- A run of `do_load` fails before the loop, or reaches it. -/
theorem reachesLoop_of_run_doLoad {buffer : Buffer blockSize} {trace : List (Event Tool)}
    {result : Except Halt ExitStatus} (hrun : Run (doLoad image buffer) trace result) :
    (result = .ok .failure ∧ quitReads trace = [] ∧
        ∀ event ∈ commands trace, event.request.command = 0x21) ∨
      ∃ info pinfo moved, ReachesLoop image buffer trace result info pinfo moved := by
  unfold doLoad at hrun
  split at hrun
  · obtain ⟨rfl, hcommands, hquits⟩ := run_print_done hrun
    exact Or.inl ⟨rfl, hquits, by simp [hcommands]⟩
  · split_ifs at hrun with hempty
    · obtain ⟨rfl, hcommands, hquits⟩ := run_print_done hrun
      exact Or.inl ⟨rfl, hquits, by simp [hcommands]⟩
    · rcases run_bind.mp hrun with
        ⟨error, -, herror⟩ | ⟨asked, outcome, rest, rfl, hasked, hrest⟩
      · obtain ⟨_, _, hcontra, -⟩ := run_command.mp herror
        exact absurd hcontra (by simp)
      · obtain ⟨_, info, houtcome, rfl, hinfo⟩ := run_command.mp hasked
        obtain rfl := Except.ok.inj houtcome
        have hqueries := asks_u3PartitionInfo.of_run hinfo
        have hfailed {text : List UInt8}
            (hprint : Run (eprint text >>= fun _ ↦ .done .failure) rest result) :
            result = .ok .failure ∧ quitReads (info.map sendEvent ++ rest) = [] ∧
              ∀ event ∈ commands (info.map sendEvent ++ rest), event.request.command = 0x21 := by
          obtain ⟨rfl, hcommands, hquits⟩ := run_print_done hprint
          exact ⟨rfl, by simp [hquits], by simpa [hcommands] using hqueries⟩
        cases outcome with
        | error error => exact Or.inl (hfailed hrest)
        | ok pinfo =>
          dsimp only at hrest
          split_ifs at hrest with hlarge
          · exact Or.inl (hfailed hrest)
          · split at hrest
            · exact Or.inl (hfailed hrest)
            · exact Or.inr ⟨info, pinfo, rest, hinfo, not_lt.mp hlarge, hempty, rfl, hrest⟩

/-- A run of `do_load` fails before the first block, or reaches the loop. -/
theorem run_doLoad {buffer : Buffer blockSize} {trace : List (Event Tool)}
    {result : Except Halt ExitStatus} (hrun : Run (doLoad image buffer) trace result) :
    (result = .ok .failure ∧ quitReads trace = [] ∧
        ∀ event ∈ commands trace, event.request.command = 0x21) ∨
      ∃ info pinfo writes status, Transfers image trace result info pinfo writes status := by
  refine (reachesLoop_of_run_doLoad hrun).imp_right ?_
  rintro ⟨info, pinfo, moved, hreaches⟩
  obtain ⟨status, rfl, hloading⟩ :=
    loading_of_run_loadLoop (atBlock_fopen image) hreaches.loop_run
  exact ⟨info, pinfo, commands moved, status, hreaches.info_run, hreaches.fits,
    by simp [hreaches.trace_eq], rfl, by simpa [hreaches.trace_eq] using hloading⟩

end U3Tool
