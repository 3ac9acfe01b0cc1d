import U3Tool.CommandGuard
import U3Tool.UsbOpen

/-!
# The SCSI generic subsystem, `u3_scsi_sg.c`

On Linux a device can be reached through its device node. `u3_open` opens the node, closes the tray
of a device that was ejected and opens it again, and asks the driver for its version; `u3_send_cmd`
passes a command through `SG_IO` and judges what the driver reports; `u3_close` closes the
descriptor.

`sgStep` states how descriptors are used: a descriptor that only serves to close the tray is closed
before the node is opened again, commands are sent only through a descriptor whose driver has told
its version, and every descriptor is closed. `keeps_sgSubsystem` says that the three functions keep
to this, so that the whole program does.
-/

set_option autoImplicit false
set_option relaxedAutoImplicit false

namespace U3Tool

open Interaction Bytes Program

/-! ### The calls -/

/-- The flags a device node is opened with: `O_RDWR`, or `O_RDONLY | O_NONBLOCK`. -/
inductive OpenFlags
  | rdwr
  | rdonlyNonblock
  deriving DecidableEq

/-- `errno`, and the text `strerror` gives for it. -/
structure Errno where
  code : ℤ
  text : List UInt8

/-- The fields of `sg_io_hdr_t` that `u3_send_cmd` sets to something else than zero, with the bytes
of the command and of an outgoing data phase. -/
structure SgIoHdr where
  interfaceId : UInt8
  dxferDirection : ℤ
  cmdLen : ℕ
  dxferLen : ℕ
  dxferp : List UInt8
  cmdp : List UInt8
  timeout : ℕ

/-- The fields of `sg_io_hdr_t` that `SG_IO` sets and `u3_send_cmd` reads, with the bytes of an
incoming data phase. -/
structure SgIoResult where
  info : UInt32
  status : UInt8
  maskedStatus : UInt8
  hostStatus : UInt16
  driverStatus : UInt16
  data : List UInt8

/-- A system call of the subsystem, and the allocation of the handle. -/
inductive SgRequest
  | open (path : List UInt8) (flags : OpenFlags)
  | closeTray (fd : ℕ)
  | getVersion (fd : ℕ)
  | malloc
  | sgIo (fd : ℕ) (hdr : SgIoHdr)
  | close (fd : ℕ)

/-- What a call answers: a descriptor or an error; whether asking for the version failed, and the
contents of the variable for it, which is not initialized; whether memory was allocated; what
`SG_IO` reports or the text of its error. -/
@[reducible] def SgRequest.Reply : SgRequest → Type
  | .open _ _ => Except Errno ℕ
  | .closeTray _ => Unit
  | .getVersion _ => Bool × ℤ
  | .malloc => Bool
  | .sgIo _ _ => Except (List UInt8) SgIoResult
  | .close _ => Unit

/-- The interface of the subsystem to the system. -/
@[reducible] def Sg : Interface where
  Request := SgRequest
  Reply := SgRequest.Reply

/-- A call. -/
def sg {ε : Type} (request : SgRequest) : Program Sg ε request.Reply := perform (I := Sg) request

/-! ### The functions -/

/-- `ENOMEDIUM`. -/
def enomedium : ℤ := 123

/-- The failure of `u3_open` with the text of an error. -/
def failErrno {α : Type} (errno : Errno) : Program Sg ErrMsg α :=
  .fail (setErrorBytes errno.text)

/-- The descriptor of a node, or the failure of `u3_open`. -/
def openNode (which : List UInt8) (flags : OpenFlags) : Program Sg ErrMsg ℕ := do
  match ← sg (.open which flags) with
  | .error errno => failErrno errno
  | .ok fd => .done fd

/-- The opening of a device whose tray is open: the tray is closed first. -/
def openTray (which : List UInt8) : Program Sg ErrMsg ℕ := do
  let fd ← openNode which .rdonlyNonblock
  sg (.closeTray fd)
  sg (.close fd)
  openNode which .rdwr

/-- The descriptor `u3_open` goes on with. -/
def openDescriptor (which : List UInt8) : Program Sg ErrMsg ℕ := do
  match ← sg (.open which .rdwr) with
  | .error errno => if errno.code = enomedium then openTray which else failErrno errno
  | .ok fd => .done fd

/-- Closes the descriptor and fails. -/
def closeFail {α : Type} (fd : ℕ) (message : String) : Program Sg ErrMsg α := do
  sg (.close fd)
  .fail (u3SetError message)

/-- `u3_open`. -/
def sgOpen (which : CText) : Program Sg ErrMsg ℕ := do
  let fd ← openDescriptor which.bytes
  let (failed, k) ← sg (.getVersion fd)
  if failed then
    closeFail fd (if k < 30000 then "device is not an SG device" else "SG driver to old")
  else do
    let allocated ← sg .malloc
    if allocated = false then closeFail fd "Failed allocating memory for file descriptor"
    else .done fd

/-- `u3_close`. -/
def sgClose (fd : ℕ) : Program Sg Abort Unit := sg (.close fd)

/-- `SG_DXFER_NONE`, `SG_DXFER_TO_DEV` and `SG_DXFER_FROM_DEV`. -/
def sgDirection : DataDirection → ℤ
  | .none => -1
  | .toDev => -2
  | .fromDev => -3

/-- The header of a command; 2000 milliseconds are `SG_TIMEOUT`. -/
def sgIoHdr (request : CmdRequest) : SgIoHdr where
  interfaceId := 83
  dxferDirection := sgDirection request.direction
  cmdLen := 12
  dxferLen := request.length
  dxferp := request.data
  cmdp := request.cmd.bytes
  timeout := 2000

/-- Whether `u3_send_cmd` takes a report of `SG_IO` for a command that was executed: without a
complaint, or with one that only tells of fresh sense data. -/
def SgIoResult.executed (result : SgIoResult) : Bool :=
  result.info &&& 1 = 0 ∨ result.hostStatus = 0 ∧ result.driverStatus &&& 8 ≠ 0

/-- `u3_send_cmd`. -/
def sgSendCmd (fd : ℕ) (request : CmdRequest) : Program Sg Abort CmdReply := do
  match ← sg (.sgIo fd (sgIoHdr request)) with
  | .error text =>
    .done (.failure (setErrorBytes
      (ascii "Failed executing scsi command: SG_IO ioctl failed with " ++ text)))
  | .ok result =>
    if result.executed then
      .done (.success result.maskedStatus (result.data.take request.length))
    else
      .done (.failure (u3SetError ("Failed executing scsi command: Status (S:0x" ++
        lowerHex 1 result.status.toNat ++ ",H:0x" ++ lowerHex 1 result.hostStatus.toNat ++
        ",D:0x" ++ lowerHex 1 result.driverStatus.toNat ++ ")")))

/-- The SCSI generic subsystem. -/
def sgSubsystem : Subsystem where
  Calls := Sg
  Handle := ℕ
  u3Open _ which := (sgOpen which).attempt
  u3SendCmd := sgSendCmd
  u3Close := sgClose

/-! ### Descriptors -/

/-- Where the descriptors of the subsystem are: one that serves to close the tray, one of a node
whose driver has not told its version yet, or one that commands go through. -/
inductive SgPhase
  | idle
  | tray (fd : ℕ)
  | opened (fd : ℕ)
  | checked (fd : ℕ)
  | closed

/-- The phase after an attempt to open a node. -/
def SgPhase.afterOpen (phase : ℕ → SgPhase) : Except Errno ℕ → SgPhase
  | .ok fd => phase fd
  | .error _ => .idle

/-- How descriptors are used. -/
def sgStep : Protocol Sg SgPhase
  | .idle, ⟨.open _ .rdwr, reply⟩ => some (.afterOpen .opened reply)
  | .idle, ⟨.open _ .rdonlyNonblock, reply⟩ => some (.afterOpen .tray reply)
  | .tray fd, ⟨.closeTray fd', _⟩ => if fd' = fd then some (.tray fd) else none
  | .tray fd, ⟨.close fd', _⟩ => if fd' = fd then some .idle else none
  | .opened fd, ⟨.getVersion fd', reply⟩ =>
    if fd' = fd then some (if reply.1 then .opened fd else .checked fd) else none
  | .opened fd, ⟨.close fd', _⟩ => if fd' = fd then some .closed else none
  | .checked fd, ⟨.malloc, _⟩ => some (.checked fd)
  | .checked fd, ⟨.sgIo fd' _, _⟩ => if fd' = fd then some (.checked fd) else none
  | .checked fd, ⟨.close fd', _⟩ => if fd' = fd then some .closed else none
  | _, _ => none

/-- No descriptor is open. -/
def SgPhase.AtRest (phase : SgPhase) : Prop := phase = .idle ∨ phase = .closed

/-- Opening a node leaves its descriptor open, or nothing. -/
def OpensNode (result : Except ErrMsg ℕ) (phase : SgPhase) : Prop :=
  match result with
  | .ok fd => phase = .opened fd
  | .error _ => phase = .idle

theorem safe_openNode (which : List UInt8) :
    Safe sgStep (openNode which .rdwr) OpensNode .idle := by
  refine safe_bind.mpr fun reply ↦ ⟨_, rfl, ?_⟩
  cases reply with
  | error errno => rfl
  | ok fd => rfl

theorem safe_openTray (which : List UInt8) : Safe sgStep (openTray which) OpensNode .idle := by
  refine safe_bind.mpr (safe_bind.mpr fun reply ↦ ⟨_, rfl, ?_⟩)
  cases reply with
  | error errno => rfl
  | ok fd =>
    refine safe_bind.mpr fun _ ↦ ⟨.tray fd, if_pos rfl, ?_⟩
    exact safe_bind.mpr fun _ ↦ ⟨.idle, if_pos rfl, safe_openNode which⟩

theorem safe_openDescriptor (which : List UInt8) :
    Safe sgStep (openDescriptor which) OpensNode .idle := by
  refine safe_bind.mpr fun reply ↦ ⟨_, rfl, ?_⟩
  cases reply with
  | error errno =>
    change Safe sgStep (if _ then _ else _) _ _
    split_ifs
    · exact safe_openTray which
    · rfl
  | ok fd => rfl

/-- `u3_open` leaves a descriptor whose driver has told its version, or none. -/
theorem safe_sgOpen (which : CText) : Safe sgStep (sgOpen which)
    (openedOr (fun fd phase ↦ phase = .checked fd) SgPhase.AtRest) .idle := by
  refine safe_bind.mpr ((safe_openDescriptor which.bytes).mono fun result phase hphase ↦ ?_)
  cases result with
  | error error => exact .inl hphase
  | ok fd =>
    obtain rfl : phase = .opened fd := hphase
    refine safe_bind.mpr fun reply ↦ ⟨_, if_pos rfl, ?_⟩
    obtain ⟨failed, k⟩ := reply
    cases failed with
    | true => exact safe_bind.mpr fun _ ↦ ⟨.closed, if_pos rfl, .inr rfl⟩
    | false =>
      refine safe_bind.mpr fun allocated ↦ ⟨.checked fd, rfl, ?_⟩
      cases allocated with
      | false => exact safe_bind.mpr fun _ ↦ ⟨.closed, if_pos rfl, .inr rfl⟩
      | true => rfl

/-! ### The whole program -/

/-- The command block of a call, if it begins a command. -/
def sgBlock (_ : SgPhase × List SgIoHdr) : Event Sg → Option (List UInt8)
  | ⟨.sgIo _ hdr, _⟩ => some hdr.cmdp
  | _ => none

/-- The header a call passes to the driver, if it does. -/
def passedHeader : Event Sg → List SgIoHdr
  | ⟨.sgIo _ hdr, _⟩ => [hdr]
  | _ => []

/-- How descriptors are used, and the headers passed through them. -/
def sgRecord : Protocol Sg (SgPhase × List SgIoHdr) := fun state call ↦
  (sgStep state.1 call).map fun after ↦ (after, state.2 ++ passedHeader call)

/-- The headers of commands. -/
def sgHeaders (sent : List (Event Scsi)) : List SgIoHdr :=
  sent.map fun event ↦ sgIoHdr event.request

/-- A descriptor is open and the headers of the commands have been passed. -/
def SgOpened (fd : ℕ) (sent : List (Event Scsi)) (state : SgPhase × List SgIoHdr) : Prop :=
  state.1 = .checked fd ∧ state.2 = sgHeaders sent

/-- No descriptor is open and the headers of the commands have been passed. -/
def SgFinished (sent : List (Event Scsi)) (state : SgPhase × List SgIoHdr) : Prop :=
  state.1.AtRest ∧ state.2 = sgHeaders sent

/-- A call that passes no header. -/
def NoHeader : SgRequest → Prop
  | .sgIo _ _ => False
  | _ => True

theorem asks_openNode (which : List UInt8) (flags : OpenFlags) :
    Asks NoHeader (openNode which flags) := by
  refine .ask trivial fun reply ↦ ?_
  cases reply with
  | error errno => exact .fail _
  | ok fd => exact .done fd

theorem asks_openDescriptor (which : List UInt8) : Asks NoHeader (openDescriptor which) := by
  refine .ask trivial fun reply ↦ ?_
  cases reply with
  | error errno =>
    change Asks _ (if _ then _ else _)
    split_ifs
    · exact (asks_openNode _ _).bind fun fd ↦ .ask trivial fun _ ↦ .ask trivial fun _ ↦
        asks_openNode _ _
    · exact .fail _
  | ok fd => exact .done fd

/-- `u3_open` passes no header. -/
theorem asks_sgOpen (which : CText) : Asks NoHeader (sgOpen which) := by
  refine (asks_openDescriptor _).bind fun fd ↦ .ask trivial fun reply ↦ ?_
  obtain ⟨failed, k⟩ := reply
  cases failed with
  | true => exact .ask trivial fun _ ↦ .fail _
  | false =>
    refine .ask trivial fun allocated ↦ ?_
    cases allocated with
    | false => exact .ask trivial fun _ ↦ .fail _
    | true => exact .done fd

/-- The calls have replies. -/
theorem nonempty_sgReply : ∀ request : SgRequest, Nonempty request.Reply
  | .open _ _ => ⟨.ok 0⟩
  | .closeTray _ => ⟨()⟩
  | .getVersion _ => ⟨true, 0⟩
  | .malloc => ⟨true⟩
  | .sgIo _ _ => ⟨.error []⟩
  | .close _ => ⟨()⟩

theorem sgRecord_of_noHeader {call : Event Sg} {state : SgPhase × List SgIoHdr} {after : SgPhase}
    (hheader : NoHeader call.request) (hafter : sgStep state.1 call = some after)
    (allowed : CmdRequest → Prop) :
    sgRecord.gated (Sends sgBlock allowed) state call = some (after, state.2) := by
  have hblock : sgBlock state call = none ∧ passedHeader call = [] := by
    obtain ⟨request, reply⟩ := call
    cases request with
    | sgIo fd hdr => exact hheader.elim
    | _ => exact ⟨rfl, rfl⟩
  have hsends : Sends sgBlock allowed state call := fun bytes hbytes ↦ by simp [hblock.1] at hbytes
  rw [Protocol.gated, if_pos hsends, sgRecord, hafter, hblock.2, List.append_nil, Option.map_some]

/-- Calls that pass no header leave the record of headers as it is. -/
theorem safe_sgRecord {ε α : Type} {p : Program Sg ε α} {post : Except ε α → SgPhase → Prop}
    {phase : SgPhase} (hsafe : Safe sgStep p post phase) (hasks : Asks NoHeader p)
    (allowed : CmdRequest → Prop) (hdrs : List SgIoHdr) :
    Safe (sgRecord.gated (Sends sgBlock allowed)) p
      (fun result state ↦ post result state.1 ∧ state.2 = hdrs) (phase, hdrs) := by
  let related (now : SgPhase) (state : SgPhase × List SgIoHdr) : Prop := state = (now, hdrs)
  have hstep {now : SgPhase} {state : SgPhase × List SgIoHdr} {call : Event Sg} {after : SgPhase}
      (hnow : related now state)
      (hafter : sgStep.gated (fun _ call ↦ NoHeader call.request) now call = some after) :
      ∃ next, sgRecord.gated (Sends sgBlock allowed) state call = some next ∧
        related after next := by
    obtain rfl := hnow
    unfold Protocol.gated at hafter
    split_ifs at hafter with hheader
    exact ⟨_, sgRecord_of_noHeader hheader hafter allowed, rfl⟩
  have hrecord : Safe (sgRecord.gated (Sends sgBlock allowed)) p
      (fun result next ↦ ∃ final, post result final ∧ related final next) (phase, hdrs) :=
    (hsafe.gated_of_asks nonempty_sgReply hasks).simulate hstep rfl
  refine hrecord.mono ?_
  rintro result _ ⟨final, hfinal, rfl⟩
  exact ⟨hfinal, rfl⟩

/-- A command goes through the descriptor of the handle. -/
theorem safe_sgSendCmd {allowed : CmdRequest → Prop} {request : CmdRequest}
    (hallowed : allowed request) (fd : ℕ) (sent : List (Event Scsi)) :
    Safe (sgRecord.gated (Sends sgBlock allowed)) (sgSendCmd fd request)
      (settled (fun reply ↦ SgOpened fd (sent ++ [⟨request, reply⟩])) fun _ _ ↦ False)
      (.checked fd, sgHeaders sent) := by
  have hsends (reply : Except (List UInt8) SgIoResult) :
      Sends sgBlock allowed (.checked fd, sgHeaders sent)
        ⟨SgRequest.sgIo fd (sgIoHdr request), reply⟩ := by
    rintro bytes hbytes
    exact ⟨request, hallowed, Option.some.inj hbytes⟩
  have hstep (reply : Except (List UInt8) SgIoResult) :
      sgStep (.checked fd) ⟨.sgIo fd (sgIoHdr request), reply⟩ = some (.checked fd) := if_pos rfl
  have hheaders (reply : CmdReply) :
      sgHeaders sent ++ [sgIoHdr request] = sgHeaders (sent ++ [⟨request, reply⟩]) := by
    simp [sgHeaders]
  refine safe_bind.mpr fun reply ↦ ⟨(.checked fd, sgHeaders sent ++ [sgIoHdr request]), ?_, ?_⟩
  · rw [Protocol.gated, if_pos (hsends reply), sgRecord, hstep]
    rfl
  · cases reply with
    | error text => exact ⟨rfl, hheaders _⟩
    | ok result =>
      change Safe _ (if _ then _ else _) _ _
      split_ifs
      · exact ⟨rfl, hheaders _⟩
      · exact ⟨rfl, hheaders _⟩

/-- The SCSI generic subsystem uses descriptors in order and passes every command once. -/
theorem keeps_sgSubsystem : sgSubsystem.Keeps sgRecord sgBlock (fun _ ↦ True) (.idle, []) SgOpened
    (fun _ ↦ False) SgFinished where
  finished_start := ⟨.inl rfl, rfl⟩
  u3Open allowed _ which := by
    have hopen : Safe sgStep ((sgOpen which).attempt : Program Sg Abort _)
        (settled (openedOr (fun fd phase ↦ phase = .checked fd) SgPhase.AtRest) fun _ _ ↦ False)
        .idle := safe_attempt.mpr (safe_sgOpen which)
    refine (safe_sgRecord hopen (asks_attempt (asks_sgOpen which)) allowed []).mono
      fun result state hstate ↦ ?_
    obtain ⟨hphase, hhdrs⟩ := hstate
    cases result with
    | error stop => exact hphase
    | ok opening =>
      cases opening with
      | error error => exact ⟨hphase, hhdrs⟩
      | ok fd => exact ⟨hphase, hhdrs⟩
  u3SendCmd allowed fd request sent state hallowed _ hopened := by
    obtain ⟨phase, hdrs⟩ := state
    obtain ⟨rfl, rfl⟩ : phase = .checked fd ∧ hdrs = sgHeaders sent := hopened
    exact safe_sgSendCmd hallowed fd sent
  u3Close allowed fd sent state hopened := by
    obtain ⟨phase, hdrs⟩ := state
    obtain ⟨rfl, rfl⟩ : phase = .checked fd ∧ hdrs = sgHeaders sent := hopened
    intro reply
    have hclosed : sgStep (.checked fd) ⟨.close fd, reply⟩ = some .closed := if_pos rfl
    have hheader : NoHeader (.close fd) := trivial
    exact ⟨_, sgRecord_of_noHeader hheader hclosed allowed, .inr rfl, rfl⟩

/-- Every run of the whole program over SCSI generic is a run of `main`: no assertion fails, the
headers passed to the driver are those of the commands of `main` in order, descriptors are used in
order, and none is open when `main` returned. -/
theorem sg_descriptors_in_order (world : World) (fuel : ℕ) (stack : MainStack) (name : List UInt8)
    (args : List (List UInt8)) {trace : List (Event (sgSubsystem.Calls.sum Console))}
    {result : Except Abort (Except Halt Int32)}
    (hrun : Run (mainOn sgSubsystem world fuel stack name args) trace result) :
    ∃ final outcome error events, result = .ok outcome ∧
      (sgRecord.left (J := Console)).follow (.idle, []) trace = some final ∧
        Run (main (opensAs world error) fuel stack name args) events outcome ∧
        Ends SgOpened SgFinished outcome (commands events) final ∧
        dialogue trace = talk events := by
  obtain ⟨final, hfollow, hleft⟩ := keeps_sgSubsystem.of_run_of_fits hrun
  cases result with
  | error stop => exact hleft.elim
  | ok outcome =>
    obtain ⟨error, events, hevents, hends, htalked⟩ := hleft
    exact ⟨final, outcome, error, events, rfl, hfollow, hevents, hends, htalked⟩

/-- A device node whose tray is open at first, with a device that answers with property page 3 of
one data partition. -/
def trayDevice : Surroundings Sg Bool := fun isOpen request ↦
  match request with
  | .open _ .rdwr =>
    (if isOpen then .error ⟨enomedium, ascii "No medium found"⟩ else .ok 3, isOpen)
  | .open _ .rdonlyNonblock => (.ok 4, isOpen)
  | .closeTray _ => ((), false)
  | .getVersion _ => ((false, 30536), isOpen)
  | .malloc => (true, isOpen)
  | .sgIo _ hdr =>
    (.ok ⟨0, 0, 0, 0, 0, (3 :: 0 :: 1 :: 0 :: 39 :: List.replicate 34 0).take hdr.dxferLen⟩, isOpen)
  | .close _ => ((), isOpen)

/-- An execution of a removal of the CD partition that is confirmed, on that device. -/
def removeCdOverSg : Execution (sgSubsystem.Calls.sum Console) Abort (Except Halt Int32)
    (Desk Bool) :=
  exec (bench trayDevice)
    (mainOn sgSubsystem plainWorld 2 zeroMainStack (ascii "u3-tool") removeCdArguments)
    ⟨true, fun index ↦ (ascii "y\n")[index]?⟩

theorem result_removeCdOverSg : removeCdOverSg.result = .ok (.ok 0) := by decide +kernel

theorem run_mainOn_witness : Linked sgSubsystem plainWorld 2 zeroMainStack (ascii "u3-tool")
    removeCdArguments removeCdOverSg.trace (.ok 0) :=
  run_mainOn (by
    rw [← result_removeCdOverSg]
    exact run_exec _ _ _)

theorem sg_descriptors_in_order_witness :
    removeCdOverSg.trace.length = 21 ∧
      ∃ final outcome error events, removeCdOverSg.result = .ok outcome ∧
        (sgRecord.left (J := Console)).follow (.idle, []) removeCdOverSg.trace = some final ∧
          Run (main (opensAs plainWorld error) 2 zeroMainStack (ascii "u3-tool") removeCdArguments)
            events outcome ∧
          Ends SgOpened SgFinished outcome (commands events) final ∧
          dialogue removeCdOverSg.trace = talk events :=
  ⟨by decide +kernel, sg_descriptors_in_order plainWorld 2 zeroMainStack (ascii "u3-tool")
    removeCdArguments (run_exec _ _ _)⟩

/-- Whether an event is an `SG_IO` with command 0x22 or 0xA2. -/
def sendsDestructive : Event (Sg.sum Console) → Bool
  | ⟨.left (.sgIo _ hdr), _⟩ => DestructiveCode (commandCode hdr.cmdp)
  | _ => false

end U3Tool
