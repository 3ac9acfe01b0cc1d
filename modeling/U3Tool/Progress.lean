import U3Tool.ActionPrompts

/-!
# The progress bar of a load

`display_progress` multiplies block numbers by 100 and 50 in 32 bits. `doLoad_progress` says that in
no load these products overflow: `u3_partition_info` reads 16 of the 17 bytes of its record, so that
the CD size is below 2^24 sectors (`cdSize_lt`) and an image that passes the check has at most 2^22
blocks. The percentage is then the exact quotient, it does not decrease, and a load that is not
interrupted and succeeds ends with a bar at 100%.

The calls of `display_progress` leave no trace when they draw nothing. `loadLoopLogged` is the loop
with a record of them; without the record it is `loadLoop` (`loadLoop_eq`). What a load writes to
stdout is what these calls draw, at most 50 stars each, and its closing text.
-/

set_option autoImplicit false
set_option relaxedAutoImplicit false

namespace U3Tool

open Interaction Bytes Program

variable {image : ImageFile} {buffer : Buffer blockSize} {trace : List (Event Tool)}

/-! ### The record of calls -/

/-- A call of `display_progress`: the value of its static variable, and its arguments. -/
structure ProgressCall where
  last : UInt32
  cur : UInt32
  total : UInt32

/-- Adds a call to the record of what follows it. -/
def recordCall (call : ProgressCall) (p : ToolProgram (ExitStatus × List ProgressCall)) :
    ToolProgram (ExitStatus × List ProgressCall) :=
  p >>= fun logged ↦ .done (logged.1, call :: logged.2)

/-- `loadEnd` with a record. -/
def loadEndLogged (last blockNum blockCnt : UInt32) :
    ToolProgram (ExitStatus × List ProgressCall) :=
  loadEnd last blockNum blockCnt >>= fun status ↦ .done (status, [⟨last, blockNum, blockCnt⟩])

/-- `loadLoop` with a record. -/
def loadLoopLogged (blockCnt : UInt32) (file : File) (blockNum : UInt32)
    (buffer : Buffer blockSize) (last : UInt32) : ToolProgram (ExitStatus × List ProgressCall) := do
  let next ← displayProgress last blockNum blockCnt
  recordCall ⟨last, blockNum, blockCnt⟩ do
    match ← loadBody (file.fread blockSize) blockNum
        (buffer.store 0 (file.fread blockSize).1) with
    | none => .done (.failure, [])
    | some loaded =>
      if _ : (file.fread blockSize).2.eof = true then
        loadEndLogged next loaded.blockNum blockCnt
      else do
        let quit ← readQuit
        if quit then
          loadEndLogged next loaded.blockNum blockCnt
        else
          loadLoopLogged blockCnt (file.fread blockSize).2 loaded.blockNum loaded.buffer next
termination_by file.remaining
decreasing_by
  have heof := Bool.eq_false_of_not_eq_true ‹¬(file.fread blockSize).2.eof = true›
  exact File.remaining_fread_lt (by decide)
    (loaded.sound.elim id fun herror ↦ File.length_fread_of_not_eof herror heof)

theorem recordCall_forget (call : ProgressCall)
    (p : ToolProgram (ExitStatus × List ProgressCall)) :
    (recordCall call p >>= fun logged ↦ .done logged.1) = p >>= fun logged ↦ .done logged.1 := by
  rw [recordCall, bind_assoc']
  rfl

theorem loadEndLogged_forget (last blockNum blockCnt : UInt32) :
    (loadEndLogged last blockNum blockCnt >>= fun logged ↦ .done logged.1) =
      loadEnd last blockNum blockCnt := by
  rw [loadEndLogged, bind_assoc']
  exact bind_done _

/-- Without the record, the two loops are the same program. -/
theorem loadLoop_eq (blockCnt : UInt32) (file : File) (blockNum : UInt32)
    (buffer : Buffer blockSize) (last : UInt32) :
    loadLoop blockCnt file blockNum buffer last =
      loadLoopLogged blockCnt file blockNum buffer last >>= fun logged ↦ .done logged.1 := by
  induction hremaining : file.remaining using Nat.strong_induction_on
    generalizing file blockNum buffer last with
  | _ remaining ih =>
    rw [loadLoop, loadLoopLogged, bind_assoc']
    refine congrArg (displayProgress last blockNum blockCnt >>= ·) (funext fun next ↦ ?_)
    rw [recordCall_forget, bind_assoc']
    refine congrArg (loadBody _ _ _ >>= ·) (funext fun outcome ↦ ?_)
    cases outcome with
    | none => rfl
    | some loaded =>
      by_cases heof : (file.fread blockSize).2.eof = true
      · simp only [dif_pos heof, loadEndLogged_forget]
      · simp only [dif_neg heof]
        rw [bind_assoc']
        refine congrArg (readQuit >>= ·) (funext fun quit ↦ ?_)
        cases quit with
        | true => exact (loadEndLogged_forget _ _ _).symm
        | false =>
          have hless : (file.fread blockSize).2.remaining < file.remaining :=
            File.remaining_fread_lt (by decide) (loaded.sound.elim id fun herror ↦
              File.length_fread_of_not_eof herror (Bool.eq_false_of_not_eq_true heof))
          exact ih _ (hremaining ▸ hless) _ _ _ _ rfl

/-! ### Bars -/

namespace ProgressCall

variable (call : ProgressCall)

/-- `percent`. -/
def percent : UInt32 := call.cur * 100 / call.total

/-- `bar_len`. -/
def barLen : UInt32 := call.cur * progressBarWidth / call.total

/-- The static variable after the call. -/
def next : UInt32 := if call.total = 0 then call.last else call.percent

/-- The text the call draws, if it draws one: the bar, filled with stars up to its length and with
spaces behind them, and the percentage. -/
def drawn : List UInt8 :=
  if call.total = 0 ∨ call.percent = call.last then []
  else
    ascii "|" ++ List.replicate call.barLen.toNat 0x2A ++
      List.replicate (50 - call.barLen.toNat) 0x20 ++ ascii "|" ++
        ascii s!" {call.percent.toInt32}%\r"

end ProgressCall

/-- The bar of a finished load. -/
def fullBar : List UInt8 := ascii "|**************************************************| 100%\r"

/-- The bytes written to stdout. -/
def stdoutBytes (trace : List (Event Tool)) : List UInt8 := (printed trace).flatten

@[simp] theorem stdoutBytes_nil : stdoutBytes [] = [] := rfl

@[simp] theorem stdoutBytes_append (first second : List (Event Tool)) :
    stdoutBytes (first ++ second) = stdoutBytes first ++ stdoutBytes second := by
  rw [stdoutBytes, printed, List.filterMap_append, List.flatten_append]
  rfl

@[simp] theorem stdoutBytes_quit (reply : Bool) (trace : List (Event Tool)) :
    stdoutBytes (⟨.quit, reply⟩ :: trace) = stdoutBytes trace := rfl

@[simp] theorem stdoutBytes_print (text : List UInt8) (reply : Unit) (trace : List (Event Tool)) :
    stdoutBytes (⟨.print .stdout text, reply⟩ :: trace) = text ++ stdoutBytes trace := rfl

@[simp] theorem stdoutBytes_map_sendEvent (events : List (Event Scsi)) :
    stdoutBytes (events.map sendEvent) = [] := by
  induction events with
  | nil => rfl
  | cons event rest ih => exact ih

/-- A request that writes nothing to stdout. -/
def OffStdout (request : ToolRequest) : Prop := ∀ text, request ≠ .print .stdout text

theorem stdoutBytes_eq_nil {α : Type} {p : ToolProgram α} (hp : Asks OffStdout p)
    {result : Except Halt α} (hrun : Run p trace result) : stdoutBytes trace = [] := by
  have hnone : printed trace = [] := List.filterMap_eq_nil_iff.mpr fun event hevent ↦ by
    have hoff := hp.of_run hrun event hevent
    split
    · next text htext => exact absurd htext (hoff text)
    · rfl
  rw [stdoutBytes, hnone]
  rfl

theorem offStdout_eprint (text : List UInt8) : OffStdout (.print .stderr text) :=
  fun _ heq ↦ by simp at heq

theorem asks_offStdout_command {α : Type} (p : Command α) : Asks OffStdout (command p) :=
  asks_command (.of_forall fun _ _ heq ↦ by simp at heq)

/-- The body of the loop writes to stderr only. -/
theorem asks_offStdout_loadBody (read : List UInt8 × File) (blockNum : UInt32)
    (buffer : Buffer blockSize) : Asks OffStdout (loadBody read blockNum buffer) := by
  have hwrite (buffer : Buffer blockSize) : Asks OffStdout (loadWrite blockNum buffer) :=
    asks_command_bind (asks_offStdout_command _)
      (fun _ ↦ .ask (offStdout_eprint _) fun _ ↦ .done _) fun _ ↦ .done _
  unfold loadBody
  split_ifs
  · exact (hwrite _).bind fun _ ↦ .done _
  · exact .ask (offStdout_eprint _) fun _ ↦ .done _
  · exact .done _
  · exact .ask (offStdout_eprint _) fun _ ↦ .done _
  · exact (hwrite _).bind fun _ ↦ .done _

/-- A call draws its bar and sets the static variable. -/
theorem run_displayProgress {last cur total : UInt32} {result : Except Halt UInt32}
    (hrun : Run (displayProgress last cur total) trace result) :
    result = .ok (ProgressCall.next ⟨last, cur, total⟩) ∧
      stdoutBytes trace = ProgressCall.drawn ⟨last, cur, total⟩ := by
  unfold displayProgress at hrun
  unfold ProgressCall.next ProgressCall.drawn ProgressCall.percent ProgressCall.barLen
  dsimp only at hrun ⊢
  split_ifs at hrun with htotal hsame
  · obtain ⟨rfl, rfl⟩ := run_done.mp hrun
    rw [if_pos htotal, if_pos (Or.inl htotal)]
    exact ⟨rfl, rfl⟩
  · obtain ⟨rfl, rfl⟩ := run_done.mp hrun
    rw [if_neg htotal, if_pos (Or.inr hsame), hsame]
    exact ⟨rfl, rfl⟩
  · -- five texts, one behind the other
    obtain ⟨_, _, rfl, hstars⟩ := run_ask.mp hrun
    obtain ⟨_, _, rfl, hspaces⟩ := run_ask.mp hstars
    obtain ⟨_, _, rfl, hclose⟩ := run_ask.mp hspaces
    obtain ⟨_, _, rfl, hpercent⟩ := run_ask.mp hclose
    obtain ⟨_, _, rfl, hlast⟩ := run_ask.mp hpercent
    obtain ⟨rfl, rfl⟩ := run_done.mp hlast
    rw [if_neg htotal, if_neg (not_or.mpr ⟨htotal, hsame⟩)]
    refine ⟨rfl, ?_⟩
    simp only [stdoutBytes_print, stdoutBytes_nil, ascii_replicate, List.append_nil,
      List.append_assoc]
    rfl

/-! ### The CD size -/

/-- The last byte of the record is not read. -/
theorem byte_store_partInfo (record : Buffer 17) {data : List UInt8} (hdata : data.length ≤ 16)
    (hlast : record.byte 16 = 0) : (record.store 0 data).byte 16 = 0 := by
  rw [Buffer.byte_store_zero (by omega), if_neg (by omega), hlast]

/-- A record whose last byte is zero gives a CD size below 2^24. -/
theorem cdSize_decode_lt {record : Buffer 17} (hlast : record.byte 16 = 0) :
    (PartInfo.decode record).cdSize.toNat < 2 ^ 24 := by
  have hword : (PartInfo.decode record).cdSize.toNat = _ :=
    Buffer.toNat_word32 (by decide : 13 + 4 ≤ 17)
  have h13 := (record.byte 13).toNat_lt
  have h14 := (record.byte (13 + 1)).toNat_lt
  have h15 := (record.byte (13 + 2)).toNat_lt
  rw [hword, show record.byte (13 + 3) = 0 from hlast]
  change _ + 256 * _ + 256 ^ 2 * _ + 256 ^ 3 * 0 < 2 ^ 24
  omega

/-- The test at the end of `u3_partition_info` passes the record on. -/
theorem eq_of_run_testStatus {α : Type} {status : UInt8} {error : ErrMsg} {value returned : α}
    {events : List (Event Scsi)}
    (hrun : Run (if status ≠ 0 then .fail error else .done value : Command α) events
      (.ok returned)) : returned = value := by
  split_ifs at hrun with hstatus
  · exact absurd (run_fail.mp hrun).2 (by simp)
  · exact Except.ok.inj (run_done.mp hrun).2

/-- `u3_partition_info` returns a CD size below 2^24, whatever the device replies. -/
theorem cdSize_lt {info : List (Event Scsi)} {pinfo : PartInfo}
    (hrun : Run u3PartitionInfo info (.ok pinfo)) : pinfo.cdSize.toNat < 2 ^ 24 := by
  have hzero : (Buffer.fill 17 0).byte 16 = 0 := rfl
  unfold u3PartitionInfo at hrun
  rcases run_u3SendCmd_bind.mp hrun with ⟨error, -, hcontra⟩ | ⟨status, data, rest, -, hrest⟩
  · exact absurd hcontra (by simp)
  · have hfirst : ((Buffer.fill 17 0).store 0 (data.take 9)).byte 16 = 0 :=
      byte_store_partInfo _ ((List.length_take_le _ _).trans (by decide)) hzero
    dsimp only at hrest
    split_ifs at hrest with hcount
    · rcases run_u3SendCmd_bind.mp hrest with
        ⟨error, -, hcontra⟩ | ⟨status', data', last, -, hlast⟩
      · exact absurd hcontra (by simp)
      · rw [done_bind] at hlast
        rw [eq_of_run_testStatus hlast]
        exact cdSize_decode_lt (byte_store_partInfo _ (List.length_take_le _ _) hfirst)
    · rw [done_bind] at hrest
      rw [eq_of_run_testStatus hrest]
      exact cdSize_decode_lt hfirst

/-- An image that passes the check has at most 2^22 blocks. -/
theorem ReachesLoop.blocks_le {result : Except Halt ExitStatus} {info : List (Event Scsi)}
    {pinfo : PartInfo} {moved : List (Event Tool)}
    (hreaches : ReachesLoop image buffer trace result info pinfo moved) :
    image.blocks ≤ 2 ^ 22 := by
  have hfits := hreaches.fits
  have hcdSize := cdSize_lt hreaches.info_run
  obtain ⟨hcover, -⟩ := unitsFor_spec image.stSize sectorSize (by decide)
  obtain ⟨-, htight⟩ := unitsFor_spec image.stSize blockSize (by decide)
  change image.stSize ≤ 512 * unitsFor image.stSize sectorSize at hcover
  change 2048 * image.blocks < image.stSize + 2048 at htight
  omega

/-! ### Iterations of the loop -/

/-- What the body of the loop leaves before block `k`: it leaves the function; or the file is read
to its end, with nothing left for a block or with the last block written; or a whole block is
written and the stream is before the next. -/
inductive Iteration (image : ImageFile) (k : ℕ) {read : List UInt8 × File} :
    Option (Loaded read) → Prop
  | fails : Iteration image k none
  | exhausted {loaded : Loaded read} (hend : image.stSize = blockSize * k)
      (heof : read.2.eof = true) (hblock : loaded.blockNum = UInt32.ofNat k) :
      Iteration image k (some loaded)
  | last {loaded : Loaded read} (hlast : image.blocks = k + 1) (heof : read.2.eof = true)
      (hblock : loaded.blockNum = UInt32.ofNat (k + 1)) : Iteration image k (some loaded)
  | whole {loaded : Loaded read} (hmore : k + 1 ≤ image.blocks)
      (heof : ¬ read.2.eof = true) (hblock : loaded.blockNum = UInt32.ofNat (k + 1))
      (hfull : read.1.length = blockSize) (hnext : AtBlock image (k + 1) read.2) :
      Iteration image k (some loaded)

/-- Every run of the body before block `k` is such an iteration, and writes nothing to stdout. -/
theorem iteration_of_run_loadBody {k : ℕ} {file : File} {buffer : Buffer blockSize}
    {result : Except Halt (Option (Loaded (file.fread blockSize)))} (hat : AtBlock image k file)
    (hrun : Run (loadBody (file.fread blockSize) (UInt32.ofNat k)
      (buffer.store 0 (file.fread blockSize).1)) trace result) :
    quitReads trace = [] ∧ stdoutBytes trace = [] ∧
      ∃ outcome, result = .ok outcome ∧ Iteration image k outcome := by
  obtain ⟨hquits, outcome, rfl, hcases⟩ := run_loadBody hat hrun
  refine ⟨hquits, stdoutBytes_eq_nil (asks_offStdout_loadBody _ _ _) hrun, outcome, rfl, ?_⟩
  generalize commands trace = sent at hcases
  have hread := fread_atBlock hat
  cases hcases with
  | readError hfailing => exact .fails
  | refused hmore hrefused => exact .fails
  | @nothingLeft loaded hsize heof =>
    cases hread with
    | failed hless hfailed =>
      rcases loaded.sound with hwhole | hsound
      · exact absurd hwhole (ne_of_lt hless)
      · exact absurd hsound (by simp [hfailed])
    | whole hsound hbytes hfull hnot => exact absurd heof (by simp [hnot])
    | short hsound hbytes hless hend hrest =>
      refine .exhausted hsize heof ?_
      -- nothing was read, so the body ends with `continue`
      have hnone : (file.fread blockSize).1.length = 0 := by omega
      rw [loadBody, dif_neg hless.ne, dif_neg (by simp [hsound]), if_pos hnone] at hrun
      have hloaded := Option.some.inj (Except.ok.inj (run_done.mp hrun).2)
      rw [hloaded]
  | @written reply loaded hmore haccepted hblock =>
    cases hread with
    | failed hless hfailed =>
      rcases loaded.sound with hwhole | hsound
      · exact absurd hwhole (ne_of_lt hless)
      · exact absurd hsound (by simp [hfailed])
    | whole hsound hbytes hfull hnot hnext =>
      have hfits : blockSize * (k + 1) ≤ image.stSize := hnext.pos_le.trans image.readEnd_le
      exact .whole (lt_blocks_of_whole hfits) (by simp [hnot]) hblock hfull hnext
    | short hsound hbytes hless heof hsize =>
      have hsucc : blockSize * (k + 1) = blockSize * k + blockSize := Nat.mul_succ _ _
      exact .last (blocks_eq_of_last hmore (by omega)) heof hblock

/-! ### The calls of a load -/

/-- The call before block `k`. -/
def callAt (blocks : ℕ) (last : UInt32) (k : ℕ) : ProgressCall :=
  ⟨last, UInt32.ofNat k, UInt32.ofNat blocks⟩

/-- The calls of a load from block `k` on, with the static variable before the first: one for each
iteration, and one behind the loop. -/
inductive Drawing (blocks : ℕ) :
    ℕ → UInt32 → List ProgressCall → List Bool → ExitStatus → Prop
  | fails {k : ℕ} {last : UInt32} : Drawing blocks k last [callAt blocks last k] [] .failure
  | exhausted {k : ℕ} {last : UInt32} (hend : blocks = k) :
      Drawing blocks k last
        [callAt blocks last k, callAt blocks (callAt blocks last k).next k] [] .success
  | last {k : ℕ} {last : UInt32} (hend : blocks = k + 1) :
      Drawing blocks k last
        [callAt blocks last k, callAt blocks (callAt blocks last k).next (k + 1)] [] .success
  | interrupted {k : ℕ} {last : UInt32} (hmore : k + 1 ≤ blocks) :
      Drawing blocks k last
        [callAt blocks last k, callAt blocks (callAt blocks last k).next (k + 1)] [true] .success
  | next {k : ℕ} {last : UInt32} {calls : List ProgressCall} {quits : List Bool}
      {status : ExitStatus} (hmore : k + 1 ≤ blocks)
      (hrest : Drawing blocks (k + 1) (callAt blocks last k).next calls quits status) :
      Drawing blocks k last (callAt blocks last k :: calls) (false :: quits) status

/-- What a load writes behind its bars. -/
def closing : ExitStatus → List UInt8
  | .success => ascii "\nOK\n"
  | .failure => []

/-- What follows the loop is a call, and the closing text. -/
theorem run_loadEndLogged {last blockNum blockCnt : UInt32}
    {result : Except Halt (ExitStatus × List ProgressCall)}
    (hrun : Run (loadEndLogged last blockNum blockCnt) trace result) :
    result = .ok (.success, [⟨last, blockNum, blockCnt⟩]) ∧ quitReads trace = [] ∧
      stdoutBytes trace = ProgressCall.drawn ⟨last, blockNum, blockCnt⟩ ++ closing .success := by
  obtain ⟨outcome, rfl, hend⟩ := run_bind_done.mp hrun
  obtain ⟨rfl, -, hquits⟩ := run_loadEnd hend
  refine ⟨rfl, hquits, ?_⟩
  obtain ⟨drawn, next, rest, rfl, hdrawn, hrest⟩ := run_bind_ok.mp hend
  obtain ⟨_, _, rfl, hnewline⟩ := run_ask.mp hrest
  obtain ⟨_, _, rfl, hok⟩ := run_ask.mp hnewline
  obtain ⟨rfl, -⟩ := run_done.mp hok
  rw [stdoutBytes_append, (run_displayProgress hdrawn).2, stdoutBytes_print, stdoutBytes_print]
  rfl

/-- Every run of the loop from block `k` on makes such calls, and writes what they draw. -/
theorem drawing_of_run_loadLoopLogged {k : ℕ} {file : File} {buffer : Buffer blockSize}
    {last : UInt32} {result : Except Halt (ExitStatus × List ProgressCall)}
    (hat : AtBlock image k file)
    (hrun : Run (loadLoopLogged (UInt32.ofNat image.blocks) file (UInt32.ofNat k) buffer last)
      trace result) :
    ∃ status calls, result = .ok (status, calls) ∧
      Drawing image.blocks k last calls (quitReads trace) status ∧
      stdoutBytes trace = calls.flatMap ProgressCall.drawn ++ closing status := by
  induction hremaining : file.remaining using Nat.strong_induction_on
    generalizing k file buffer last trace result with
  | _ remaining ih =>
    rw [loadLoopLogged] at hrun
    rcases run_bind.mp hrun with ⟨error, -, herror⟩ | ⟨drawn, next, rest, rfl, hdrawn, hrest⟩
    · exact absurd (run_displayProgress herror).1 (by simp)
    obtain ⟨hnext, hbars⟩ := run_displayProgress hdrawn
    obtain rfl := Except.ok.inj hnext
    obtain ⟨-, hquits⟩ := (silent_displayProgress _ _ _).of_run hdrawn
    obtain ⟨outcome, rfl, hlogged⟩ := run_bind_done.mp hrest
    rcases run_bind.mp hlogged with
      ⟨error, -, herror⟩ | ⟨body, loaded, after, rfl, hbody, hafter⟩
    · obtain ⟨-, -, _, hcontra, -⟩ := iteration_of_run_loadBody hat herror
      exact absurd hcontra (by simp)
    obtain ⟨hquitsBody, hbarsBody, _, hloaded, hiteration⟩ := iteration_of_run_loadBody hat hbody
    obtain rfl := Except.ok.inj hloaded
    simp only [quitReads_append, hquits.2, hquitsBody, stdoutBytes_append, hbars, hbarsBody,
      List.nil_append]
    cases hiteration with
    | fails =>
      obtain ⟨rfl, rfl⟩ := run_done.mp hafter
      exact ⟨_, _, rfl, .fails, by simp [closing]⟩
    | exhausted hend heof hblock =>
      dsimp only at hafter
      rw [dif_pos heof] at hafter
      obtain ⟨rfl, hquitsEnd, hbarsEnd⟩ := run_loadEndLogged hafter
      rw [hquitsEnd, hbarsEnd, hblock]
      have hcover : image.stSize ≤ 2048 * image.blocks :=
        (unitsFor_spec image.stSize blockSize (by decide)).1
      change image.stSize = 2048 * k at hend
      exact ⟨_, _, rfl, .exhausted (blocks_eq_of_exhausted hend (by omega)), by simp⟩
    | last hlast heof hblock =>
      dsimp only at hafter
      rw [dif_pos heof] at hafter
      obtain ⟨rfl, hquitsEnd, hbarsEnd⟩ := run_loadEndLogged hafter
      rw [hquitsEnd, hbarsEnd, hblock]
      exact ⟨_, _, rfl, .last hlast, by simp⟩
    | whole hmore heof hblock hfull hnext =>
      dsimp only at hafter
      rw [dif_neg heof, readQuit, perform, ask_bind, run_ask] at hafter
      obtain ⟨quit, events, rfl, hevents⟩ := hafter
      rw [done_bind, hblock] at hevents
      rw [quitReads_quit, stdoutBytes_quit]
      cases quit with
      | true =>
        obtain ⟨rfl, hquitsEnd, hbarsEnd⟩ := run_loadEndLogged hevents
        rw [hquitsEnd, hbarsEnd]
        exact ⟨_, _, rfl, .interrupted hmore, by simp⟩
      | false =>
        obtain ⟨status, calls, rfl, hdrawing, hcalls⟩ := ih _
          (hremaining ▸ File.remaining_fread_lt (by decide) hfull) hnext hevents rfl
        rw [hcalls]
        exact ⟨status, _, rfl, .next hmore hdrawing, by simp⟩

/-! ### The arithmetic of a call -/

/-- A call whose arithmetic is exact: neither product overflows, the percentage is the quotient of
the numbers, and neither exceeds its bound. -/
structure ProgressCall.Exact (call : ProgressCall) (blocks : ℕ) : Prop where
  total_eq : call.total.toNat = blocks
  cur_le : call.cur.toNat ≤ blocks
  mul_100 : (call.cur * 100).toNat = call.cur.toNat * 100
  mul_50 : (call.cur * progressBarWidth).toNat = call.cur.toNat * 50
  percent_eq : call.percent.toNat = 100 * call.cur.toNat / blocks
  percent_le : call.percent.toNat ≤ 100
  barLen_eq : call.barLen.toNat = 50 * call.cur.toNat / blocks
  barLen_le : call.barLen.toNat ≤ 50

theorem ProgressCall.Exact.total_ne_zero {call : ProgressCall} {blocks : ℕ}
    (hexact : call.Exact blocks) (hpos : 0 < blocks) : call.total ≠ 0 := fun hzero ↦
  hpos.ne (hexact.total_eq ▸ congrArg UInt32.toNat hzero).symm

theorem count_ascii_append (first rest : String) :
    (ascii (first ++ rest)).count 0x2A = (ascii first).count 0x2A + (ascii rest).count 0x2A := by
  simp [ascii, List.count_append]

/-- A number in decimal has no stars. -/
theorem count_ascii_repr (number : ℕ) : (ascii number.repr).count 0x2A = 0 := by
  refine List.count_eq_zero_of_not_mem fun hstar ↦ ?_
  obtain ⟨char, hchar, hvalue⟩ := List.mem_map.mp hstar
  rw [Nat.toList_repr] at hchar
  have hdigit := Nat.isDigit_of_mem_toDigits (by decide) (by decide) hchar
  simp only [Char.isDigit, Bool.and_eq_true, decide_eq_true_eq, ge_iff_le,
    UInt32.le_iff_toNat_le] at hdigit
  change 48 ≤ char.toNat ∧ char.toNat ≤ 57 at hdigit
  have hsame := congrArg UInt8.toNat hvalue
  rw [UInt8.toNat_ofNat'] at hsame
  change _ = 42 at hsame
  omega

theorem count_ascii_toString (number : Int32) : (ascii (toString number)).count 0x2A = 0 := by
  change (ascii (toString number.toInt)).count 0x2A = 0
  cases number.toInt with
  | ofNat n => exact count_ascii_repr n
  | negSucc n =>
    change (ascii ("-" ++ n.succ.repr)).count 0x2A = 0
    rw [count_ascii_append, count_ascii_repr]
    rfl

/-- A percentage has no stars. -/
theorem count_percentText (percent : Int32) : (ascii s!" {percent}%\r").count 0x2A = 0 := by
  change (ascii (" " ++ toString percent ++ "%\r")).count 0x2A = 0
  rw [count_ascii_append, count_ascii_append, count_ascii_toString]
  rfl

/-- The bar of an exact call has as many stars as it is long, at most 50. -/
theorem ProgressCall.Exact.count_drawn_le {call : ProgressCall} {blocks : ℕ}
    (hexact : call.Exact blocks) : call.drawn.count 0x2A ≤ 50 := by
  rw [ProgressCall.drawn]
  split_ifs
  · simp
  · have hsides : (ascii "|").count 0x2A = 0 := by decide
    have hspaces : (List.replicate (50 - call.barLen.toNat) (0x20 : UInt8)).count 0x2A = 0 := by
      rw [List.count_replicate, if_neg (by decide)]
    simp only [List.count_append, hsides, hspaces, count_percentText,
      List.count_replicate_self, Nat.zero_add, Nat.add_zero]
    exact hexact.barLen_le

theorem toNat_cur_callAt {blocks k : ℕ} (hblocks : blocks ≤ 2 ^ 22) (hk : k ≤ blocks)
    (last : UInt32) : (callAt blocks last k).cur.toNat = k := by
  rw [callAt, UInt32.toNat_ofNat']
  exact Nat.mod_eq_of_lt (by omega)

/-- A call with at most 2^22 blocks is exact. -/
theorem exact_callAt {blocks k : ℕ} (hblocks : blocks ≤ 2 ^ 22) (hk : k ≤ blocks)
    (last : UInt32) : (callAt blocks last k).Exact blocks := by
  have hcur := toNat_cur_callAt hblocks hk last
  have htotal : (callAt blocks last k).total.toNat = blocks := by
    rw [callAt, UInt32.toNat_ofNat']
    exact Nat.mod_eq_of_lt (by omega)
  have hmul_100 : ((callAt blocks last k).cur * 100).toNat =
      (callAt blocks last k).cur.toNat * 100 := by
    rw [UInt32.toNat_mul]
    exact Nat.mod_eq_of_lt (by change _ * 100 < 2 ^ 32; omega)
  have hmul_50 : ((callAt blocks last k).cur * progressBarWidth).toNat =
      (callAt blocks last k).cur.toNat * 50 := by
    rw [UInt32.toNat_mul]
    exact Nat.mod_eq_of_lt (by change _ * 50 < 2 ^ 32; omega)
  have hpercent : (callAt blocks last k).percent.toNat =
      100 * (callAt blocks last k).cur.toNat / blocks := by
    rw [ProgressCall.percent, UInt32.toNat_div, hmul_100, htotal, Nat.mul_comm]
  have hbarLen : (callAt blocks last k).barLen.toNat =
      50 * (callAt blocks last k).cur.toNat / blocks := by
    rw [ProgressCall.barLen, UInt32.toNat_div, hmul_50, htotal, Nat.mul_comm]
  refine ⟨htotal, by omega, hmul_100, hmul_50, hpercent, ?_, hbarLen, ?_⟩
  · rw [hpercent, hcur]
    exact Nat.div_le_of_le_mul (by rw [Nat.mul_comm]; exact Nat.mul_le_mul_right 100 hk)
  · rw [hbarLen, hcur]
    exact Nat.div_le_of_le_mul (by rw [Nat.mul_comm]; exact Nat.mul_le_mul_right 50 hk)

/-- Before the last block the percentage is below 100. -/
theorem next_callAt_lt {blocks k : ℕ} (hblocks : blocks ≤ 2 ^ 22) (hk : k < blocks)
    (last : UInt32) : (callAt blocks last k).next.toNat < 100 := by
  have hexact := exact_callAt hblocks hk.le last
  rw [ProgressCall.next, if_neg (hexact.total_ne_zero (by omega)), hexact.percent_eq,
    toNat_cur_callAt hblocks hk.le]
  exact Nat.div_lt_of_lt_mul (by omega)

/-- Behind the last block the percentage is 100, and the full bar is drawn unless it has been. -/
theorem callAt_blocks {blocks : ℕ} (hblocks : blocks ≤ 2 ^ 22) (hpos : 0 < blocks)
    (last : UInt32) :
    (callAt blocks last blocks).next = 100 ∧
      (callAt blocks last blocks).drawn = if last = 100 then [] else fullBar := by
  have hexact := exact_callAt hblocks le_rfl last
  have htotal := hexact.total_ne_zero hpos
  have hbefore : (callAt blocks last blocks).last = last := rfl
  have hpercent : (callAt blocks last blocks).percent = 100 := by
    refine UInt32.toNat_inj.mp ?_
    rw [hexact.percent_eq, toNat_cur_callAt hblocks le_rfl, Nat.mul_div_cancel _ hpos]
    rfl
  have hbarLen : (callAt blocks last blocks).barLen.toNat = 50 := by
    rw [hexact.barLen_eq, toNat_cur_callAt hblocks le_rfl, Nat.mul_div_cancel _ hpos]
  refine ⟨by rw [ProgressCall.next, if_neg htotal, hpercent], ?_⟩
  rw [ProgressCall.drawn, hpercent, hbarLen, hbefore]
  by_cases hlast : last = 100
  · rw [if_pos (Or.inr hlast.symm), if_pos hlast]
  · rw [if_neg (not_or.mpr ⟨htotal, fun heq ↦ hlast heq.symm⟩), if_neg hlast]
    decide

/-! ### The calls of a load, one after the other -/

namespace Drawing

variable {blocks k : ℕ} {last : UInt32} {calls : List ProgressCall} {quits : List Bool}
  {status : ExitStatus}

theorem of_getElem?_pair {first second call : ProgressCall} {index : ℕ}
    (hcall : [first, second][index]? = some call) :
    index = 0 ∧ call = first ∨ index = 1 ∧ call = second := by
  match index with
  | 0 => exact Or.inl ⟨rfl, (Option.some.inj hcall).symm⟩
  | 1 => exact Or.inr ⟨rfl, (Option.some.inj hcall).symm⟩
  | index + 2 => simp at hcall

/-- The calls count the blocks. -/
theorem getElem? (hdrawing : Drawing blocks k last calls quits status) (hk : k ≤ blocks)
    {index : ℕ} {call : ProgressCall} (hcall : calls[index]? = some call) :
    ∃ before, call = callAt blocks before (min (k + index) blocks) := by
  induction hdrawing generalizing index with
  | @fails k last =>
    cases index with
    | zero => exact ⟨last, by rw [← Option.some.inj hcall, Nat.add_zero, min_eq_left hk]⟩
    | succ index => simp at hcall
  | @exhausted k last hend =>
    rcases of_getElem?_pair hcall with ⟨rfl, rfl⟩ | ⟨rfl, rfl⟩
    · exact ⟨last, by rw [Nat.add_zero, min_eq_left hk]⟩
    · exact ⟨_, by rw [min_eq_right (by omega), hend]⟩
  | @last k last hend =>
    rcases of_getElem?_pair hcall with ⟨rfl, rfl⟩ | ⟨rfl, rfl⟩
    · exact ⟨last, by rw [Nat.add_zero, min_eq_left hk]⟩
    · exact ⟨_, by rw [min_eq_left hend.ge]⟩
  | @interrupted k last hmore =>
    rcases of_getElem?_pair hcall with ⟨rfl, rfl⟩ | ⟨rfl, rfl⟩
    · exact ⟨last, by rw [Nat.add_zero, min_eq_left hk]⟩
    · exact ⟨_, by rw [min_eq_left hmore]⟩
  | @next k last calls quits status hmore hrest ih =>
    cases index with
    | zero =>
      obtain rfl := Option.some.inj hcall
      exact ⟨last, by rw [Nat.add_zero, min_eq_left hk]⟩
    | succ index =>
      obtain ⟨before, rfl⟩ := ih hmore hcall
      exact ⟨before, by rw [Nat.add_right_comm]; rfl⟩

/-- The last bar of a load that is not interrupted and succeeds is the full one. -/
theorem fullBar_suffix (hdrawing : Drawing blocks k last calls quits status)
    (hblocks : blocks ≤ 2 ^ 22) (hpos : 0 < blocks) (hlast : last.toNat < 100)
    (hsuccess : status = .success) (hquits : ∀ value ∈ quits, value = false) :
    fullBar <:+ calls.flatMap ProgressCall.drawn := by
  have hbefore {before : UInt32} (hbelow : before.toNat < 100) : before ≠ 100 := fun heq ↦ by
    rw [heq] at hbelow
    exact absurd hbelow (by decide)
  induction hdrawing with
  | fails => exact absurd hsuccess (by decide)
  | @exhausted k last hend =>
    -- the bar is drawn by the call before the read that meets the end of the file
    subst hend
    obtain ⟨hnext, hdrawn⟩ := callAt_blocks hblocks hpos last
    obtain ⟨-, hagain⟩ := callAt_blocks hblocks hpos 100
    rw [List.flatMap_cons, List.flatMap_singleton, hnext, hdrawn, hagain, if_neg (hbefore hlast),
      if_pos rfl, List.append_nil]
  | @last k last hend =>
    have hbelow := next_callAt_lt hblocks (by omega : k < blocks) last
    obtain ⟨-, hdrawn⟩ := callAt_blocks hblocks hpos (callAt blocks last k).next
    rw [← hend, List.flatMap_cons, List.flatMap_singleton, hdrawn, if_neg (hbefore hbelow)]
    exact List.suffix_append _ _
  | interrupted hmore => exact absurd (hquits true (List.mem_cons_self ..)) (by decide)
  | @next k last calls quits status hmore hrest ih =>
    have hbelow := next_callAt_lt hblocks hmore last
    have hlater := ih hbelow hsuccess (List.forall_mem_cons.mp hquits).2
    exact hlater.trans (List.suffix_append _ _)

end Drawing

/-! ### What the bar of a load shows -/

/-- The arithmetic and the bars of a load: nothing was truncated on the way to the loop, call number
`i` is about block `i` and exact, the percentages do not decrease, and what is written to stdout is
what the calls draw, at most 50 stars each, and the closing text. A load that succeeds without an
interruption writes the full bar last. -/
structure ProgressSound (image : ImageFile) (pinfo : PartInfo) (calls : List ProgressCall)
    (trace : List (Event Tool)) (status : ExitStatus) : Prop where
  cdSize_lt : pinfo.cdSize.toNat < 2 ^ 24
  accepted : unitsFor image.stSize sectorSize ≤ pinfo.cdSize.toNat
  blocks_le : image.blocks ≤ 2 ^ 22
  exact : ∀ call ∈ calls, call.Exact image.blocks
  counts : ∀ index call, calls[index]? = some call → call.cur.toNat = min index image.blocks
  increases : calls.Pairwise fun earlier later ↦ earlier.percent ≤ later.percent
  draws : stdoutBytes trace = calls.flatMap ProgressCall.drawn ++ closing status
  stars_le : ∀ call ∈ calls, call.drawn.count 0x2A ≤ 50
  ends : status = .success → (∀ value ∈ quitReads trace, value = false) →
    fullBar ++ closing status <:+ stdoutBytes trace

/-- Calls that count the blocks have percentages that do not decrease. -/
theorem pairwise_percent {blocks : ℕ} {calls : List ProgressCall}
    (hexact : ∀ call ∈ calls, call.Exact blocks)
    (hcounts : ∀ index call, calls[index]? = some call → call.cur.toNat = min index blocks) :
    calls.Pairwise fun earlier later ↦ earlier.percent ≤ later.percent := by
  refine List.pairwise_iff_getElem.mpr fun i j hi hj hij ↦ ?_
  have hearlier := hcounts i _ (List.getElem?_eq_getElem hi)
  have hlater := hcounts j _ (List.getElem?_eq_getElem hj)
  rw [UInt32.le_iff_toNat_le, (hexact _ (List.getElem_mem hi)).percent_eq,
    (hexact _ (List.getElem_mem hj)).percent_eq, hearlier, hlater]
  exact Nat.div_le_div_right (Nat.mul_le_mul_left 100 (min_le_min_right _ hij.le))

/-- Every run of `do_load` fails before its loop, or is a run of the loop with sound progress. -/
theorem doLoad_progress {result : Except Halt ExitStatus}
    (hrun : Run (doLoad image buffer) trace result) :
    (result = .ok .failure ∧ ∀ event ∈ commands trace, event.request.command = 0x21) ∨
      ∃ info pinfo moved status calls, Run u3PartitionInfo info (.ok pinfo) ∧
        trace = info.map sendEvent ++ moved ∧ result = .ok status ∧
        Run (loadLoopLogged (UInt32.ofNat image.blocks) image.fopen 0 buffer 0) moved
          (.ok (status, calls)) ∧
        ProgressSound image pinfo calls trace status := by
  rcases reachesLoop_of_run_doLoad hrun with
    ⟨hfailure, -, hqueries⟩ | ⟨info, pinfo, moved, hreaches⟩
  · exact Or.inl ⟨hfailure, hqueries⟩
  · have hloop := hreaches.loop_run
    rw [loadLoop_eq, run_bind_done] at hloop
    obtain ⟨_, rfl, hlogged⟩ := hloop
    obtain ⟨status, calls, rfl, hdrawing, hbars⟩ :=
      drawing_of_run_loadLoopLogged (atBlock_fopen image) hlogged
    have hblocks := hreaches.blocks_le
    have hcounts : ∀ index call, calls[index]? = some call →
        call.Exact image.blocks ∧ call.cur.toNat = min index image.blocks := by
      intro index call hcall
      obtain ⟨before, rfl⟩ := hdrawing.getElem? (Nat.zero_le _) hcall
      rw [Nat.zero_add]
      exact ⟨exact_callAt hblocks (min_le_right _ _) before,
        toNat_cur_callAt hblocks (min_le_right _ _) before⟩
    have hexact : ∀ call ∈ calls, call.Exact image.blocks := fun call hcall ↦
      let ⟨index, hindex⟩ := List.mem_iff_getElem?.mp hcall
      (hcounts index call hindex).1
    have htrace : stdoutBytes trace = stdoutBytes moved ∧ quitReads trace = quitReads moved := by
      simp [hreaches.trace_eq]
    refine Or.inr ⟨info, pinfo, moved, status, calls, hreaches.info_run, hreaches.trace_eq, rfl,
      hlogged, cdSize_lt hreaches.info_run, hreaches.fits, hblocks, hexact,
      fun index call hcall ↦ (hcounts index call hcall).2,
      pairwise_percent hexact fun index call hcall ↦ (hcounts index call hcall).2,
      htrace.1.trans hbars, fun call hcall ↦ (hexact call hcall).count_drawn_le,
      fun hsuccess hquits ↦ ?_⟩
    rw [htrace.1, hbars]
    have hpos : 0 < image.blocks := lt_blocks_iff.mpr (Nat.pos_of_ne_zero hreaches.not_empty)
    obtain ⟨earlier, hearlier⟩ :=
      hdrawing.fullBar_suffix hblocks hpos (by decide) hsuccess (htrace.2 ▸ hquits)
    exact ⟨earlier, by rw [← hearlier, List.append_assoc]⟩

/-- The uninterrupted load of two blocks ends with a full bar. -/
theorem doLoad_progress_witness :
    ∃ trace, Run (doLoad twoBlocks (.fill blockSize 0)) trace (.ok .success) ∧
      ascii "|**************************************************| 100%\r\nOK\n" <:+
        stdoutBytes trace := by
  obtain ⟨trace, info, pinfo, writes, status, hrun, htransfers, haccepted, hquits⟩ :=
    exists_transfer_twoBlocks false
  obtain rfl := htransfers.loading.success rfl haccepted
  refine ⟨trace, hrun, ?_⟩
  rcases doLoad_progress hrun with
    ⟨hcontra, -⟩ | ⟨_, _, moved, status, calls, -, -, hstatus, -, hsound⟩
  · exact absurd hcontra (by simp)
  · obtain rfl := Except.ok.inj hstatus
    have htext : ascii "|**************************************************| 100%\r\nOK\n" =
        fullBar ++ closing .success := by decide +kernel
    rw [htext]
    exact hsound.ends rfl hquits

end U3Tool
