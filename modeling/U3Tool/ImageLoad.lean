import U3Tool.Tool

/-!
# Loading a CD image, `do_load`

An image file has a content that does not change while it is read, and may refuse `stat`, `fopen` or
a read from some offset on (`ImageFile`). A `File` is an open stream over it with its position and
its end-of-file and error indicators; `fread` advances it. `displayProgress` draws the progress bar.

The loop of `do_load` is `loadLoop`: it terminates because a body that neither fails nor meets the
end of the file has read a whole block (`remaining_fread_lt`). The body hands to the loop condition
the proof that it did not fail (`Loaded`).
-/

set_option autoImplicit false
set_option relaxedAutoImplicit false

namespace U3Tool

open Interaction Bytes Program

/-! ### Files -/

/-- An image file: its content, the reasons for which `stat` and `fopen` fail on it, and the offset
from which reading fails with a reason. A reason is the text `perror` prints for `errno`. -/
structure ImageFile where
  content : List UInt8
  statError : Option (List UInt8)
  openError : Option (List UInt8)
  readError : Option (ℕ × List UInt8)
  length_lt : content.length < 2 ^ 63

namespace ImageFile

variable (image : ImageFile)

/-- `st_size`. -/
def stSize : ℕ := image.content.length

/-- Reading this file meets an error no later than its end. -/
def failing : Bool :=
  match image.readError with
  | some (offset, _) => offset ≤ image.stSize
  | none => false

/-- The number of bytes that can be read. -/
def readEnd : ℕ :=
  match image.readError with
  | some (offset, _) => min offset image.stSize
  | none => image.stSize

/-- The text of a read error. -/
def readErrorText : List UInt8 :=
  match image.readError with
  | some (_, text) => text
  | none => []

theorem readEnd_le : image.readEnd ≤ image.stSize := by
  unfold readEnd
  split
  · exact min_le_right _ _
  · exact le_rfl

/-- A file without an error up to its end can be read whole. -/
theorem readEnd_eq (hsound : image.failing = false) : image.readEnd = image.stSize := by
  unfold failing at hsound
  unfold readEnd
  split
  · next offset text herror =>
    rw [herror] at hsound
    exact min_eq_right (le_of_lt (not_le.mp (of_decide_eq_false hsound)))
  · rfl

end ImageFile

/-- An open `FILE`. -/
structure File where
  image : ImageFile
  pos : ℕ
  eof : Bool
  error : Bool

/-- The stream `fopen` returns. -/
def ImageFile.fopen (image : ImageFile) : File := ⟨image, 0, false, false⟩

namespace File

/-- The bytes that are still to be read. -/
def remaining (file : File) : ℕ := file.image.readEnd - file.pos

/-- `fread` of single bytes. A short count sets the error indicator where reading fails, and the
end-of-file indicator otherwise. -/
def fread (file : File) (count : ℕ) : List UInt8 × File :=
  let bytes := ((file.image.content.take file.image.readEnd).drop file.pos).take count
  let short := decide (bytes.length < count)
  (bytes, { file with
    pos := file.pos + bytes.length
    eof := file.eof || (short && !file.image.failing)
    error := file.error || (short && file.image.failing) })

theorem length_fread_le (file : File) (count : ℕ) : (file.fread count).1.length ≤ count :=
  List.length_take_le _ _

theorem length_fread (file : File) (count : ℕ) :
    (file.fread count).1.length = min count file.remaining := by
  have hend := file.image.readEnd_le
  simp only [fread, remaining, ImageFile.stSize, List.length_take, List.length_drop] at hend ⊢
  omega

theorem error_fread (file : File) (count : ℕ) : (file.fread count).2.error =
    (file.error || (decide ((file.fread count).1.length < count) && file.image.failing)) := rfl

theorem eof_fread (file : File) (count : ℕ) : (file.fread count).2.eof =
    (file.eof || (decide ((file.fread count).1.length < count) && !file.image.failing)) := rfl

/-- A read that meets neither an error nor the end of the file returns all it was asked for. -/
theorem length_fread_of_not_eof {file : File} {count : ℕ}
    (herror : (file.fread count).2.error = false) (heof : (file.fread count).2.eof = false) :
    (file.fread count).1.length = count := by
  refine le_antisymm (length_fread_le file count) (not_lt.mp fun hshort ↦ ?_)
  rw [error_fread, decide_eq_true hshort, Bool.true_and, Bool.or_eq_false_iff] at herror
  rw [eof_fread, decide_eq_true hshort, herror.2] at heof
  simp at heof

/-- A whole block read leaves less to read. -/
theorem remaining_fread_lt {file : File} {count : ℕ} (hcount : 0 < count)
    (hfull : (file.fread count).1.length = count) :
    (file.fread count).2.remaining < file.remaining := by
  have hlength := file.length_fread count
  have hpos : (file.fread count).2.remaining =
      file.image.readEnd - (file.pos + (file.fread count).1.length) := rfl
  rw [hpos, hfull]
  rw [hfull] at hlength
  unfold remaining at hlength ⊢
  omega

end File

/-! ### The progress bar, `display_progress.c` -/

/-- `PROGRESS_BAR_WIDTH`. -/
def progressBarWidth : UInt32 := 50

/-- `display_progress`; `last` is its static variable, whose new value is returned. -/
def displayProgress (last cur total : UInt32) : ToolProgram UInt32 := do
  if total = 0 then .done last
  else
    let percent := (cur * 100) / total
    if percent = last then .done last
    else
      let barLen := (cur * progressBarWidth) / total
      printf "|"
      printf (String.ofList (List.replicate barLen.toNat '*'))
      printf (String.ofList (List.replicate (progressBarWidth.toNat - barLen.toNat) ' '))
      printf "|"
      printf s!" {percent.toInt32}%\r"
      .done percent

/-! ### `do_load` -/

/-- What the body of the loop hands to the loop condition: the block number, the buffer, and that
the read it made was complete or met no error. -/
structure Loaded (read : List UInt8 × File) where
  blockNum : UInt32
  buffer : Buffer blockSize
  sound : read.1.length = blockSize ∨ read.2.error = false

/-- The write at the end of the loop body; nothing is returned when it failed. -/
def loadWrite (blockNum : UInt32) (buffer : Buffer blockSize) : ToolProgram (Option UInt32) := do
  match ← command (u3CdWrite blockNum buffer) with
  | .error error => do
    eprint (ascii "\nu3_cd_write() failed: " ++ error.text ++ ascii "\n")
    .done none
  | .ok () => .done (some (blockNum + 1))

/-- The body of the loop after `fread`; nothing is returned when it leaves the function with
`EXIT_FAILURE`. -/
def loadBody (read : List UInt8 × File) (blockNum : UInt32) (buffer : Buffer blockSize) :
    ToolProgram (Option (Loaded read)) := do
  if hfull : read.1.length = blockSize then do
    let written ← loadWrite blockNum buffer
    .done (written.map fun blockNum ↦ ⟨blockNum, buffer, Or.inl hfull⟩)
  else if herror : read.2.error = true then do
    eprint (ascii "\nFailed reading iso file: " ++ read.2.image.readErrorText ++ ascii "\n")
    .done none
  else if read.1.length = 0 then
    -- `continue`
    .done (some ⟨blockNum, buffer, Or.inr (Bool.eq_false_of_not_eq_true herror)⟩)
  else if read.1.length > blockSize then do
    eprint (ascii "\nRead more bytes then requested, impossible")
    .done none
  else do
    -- zeroize rest of buffer to prevent writing garbage
    let buffer := buffer.store read.1.length (List.replicate (blockSize - read.1.length) 0)
    let written ← loadWrite blockNum buffer
    .done (written.map fun blockNum ↦
      ⟨blockNum, buffer, Or.inr (Bool.eq_false_of_not_eq_true herror)⟩)

/-- What follows the loop. -/
def loadEnd (last blockNum blockCnt : UInt32) : ToolProgram ExitStatus := do
  let _ ← displayProgress last blockNum blockCnt
  printf "\n"
  printf "OK\n"
  .done .success

/-- The loop of `do_load`: a body, then the condition `!feof(fp) && !quit`. -/
def loadLoop (blockCnt : UInt32) (file : File) (blockNum : UInt32) (buffer : Buffer blockSize)
    (last : UInt32) : ToolProgram ExitStatus := do
  let last ← displayProgress last blockNum blockCnt
  match ← loadBody (file.fread blockSize) blockNum
      (buffer.store 0 (file.fread blockSize).1) with
  | none => .done .failure
  | some loaded =>
    if _ : (file.fread blockSize).2.eof = true then
      loadEnd last loaded.blockNum blockCnt
    else do
      let quit ← readQuit
      if quit then
        loadEnd last loaded.blockNum blockCnt
      else
        loadLoop blockCnt (file.fread blockSize).2 loaded.blockNum loaded.buffer last
termination_by file.remaining
decreasing_by
  have heof := Bool.eq_false_of_not_eq_true ‹¬(file.fread blockSize).2.eof = true›
  exact File.remaining_fread_lt (by decide)
    (loaded.sound.elim id fun herror ↦ File.length_fread_of_not_eof herror heof)

/-- The number of units of a size that hold a number of bytes, as the source rounds up. -/
def unitsFor (size unit : ℕ) : ℕ := size / unit + if size % unit ≠ 0 then 1 else 0

/-- `do_load`; `buffer` holds the initial bytes of its buffer. -/
def doLoad (image : ImageFile) (buffer : Buffer blockSize) : ToolProgram ExitStatus := do
  -- determine file size
  match image.statError with
  | some error => do
    eprint (ascii "Failed stating iso file: " ++ error ++ ascii "\n")
    .done .failure
  | none =>
    if image.stSize = 0 then do
      eprint (ascii "ISO file is empty\n")
      .done .failure
    else do
      let cdSize := unitsFor image.stSize sectorSize
      let blockCnt := UInt32.ofNat (unitsFor image.stSize blockSize)
      -- check partition size
      match ← command u3PartitionInfo with
      | .error error => do
        eprintFailure "u3_partition_info" error
        .done .failure
      | .ok pinfo =>
        if cdSize > pinfo.cdSize.toNat then do
          eprint (ascii s!"CD image ({image.stSize} bytes) is to big for current CD partition ({sectorSize * pinfo.cdSize.toNat} bytes)\n")
          .done .failure
        else
          -- open file
          match image.openError with
          | some error => do
            eprint (ascii "Failed opening iso file: " ++ error ++ ascii "\n")
            .done .failure
          | none =>
            -- write file to device
            loadLoop blockCnt image.fopen 0 buffer 0

end U3Tool
