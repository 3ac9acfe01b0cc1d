import U3Tool.PasswordGuard
import U3Tool.ReportRuns

/-!
# What `do_dump` reports

`do_dump` asks its five questions one after the other and prints a section for each that was
answered. A failure sets `retval`, but nothing sets it when there is no failure: `exec_doDump` gives
the whole of an execution, and `doDump_sound_iff` says that the action reports what happened, in its
output and in its result, exactly on the devices on which something fails.
-/

set_option autoImplicit false
set_option relaxedAutoImplicit false

namespace U3Tool

open Interaction Bytes Program

variable {α δ : Type} {device : Surroundings Scsi δ}

/-! ### Programs that print -/

/-- A message on stderr. -/
def OnStderr (event : Event Tool) : Prop := ∃ text, event.request = .print .stderr text

/-- What a program that only prints does, whatever its surroundings. -/
def printing (p : ToolProgram α) : Execution Tool Halt α Unit := exec (acceptAll false) p ()

/-- A program that only prints does so against every device and leaves the surroundings alone. -/
theorem exec_of_isPrint {p : ToolProgram α} (hp : Asks IsPrint p)
    (device : Surroundings Scsi δ) (state : Desk δ) :
    exec (desk device) p state = ⟨(printing p).result, (printing p).trace, state⟩ := by
  have hstep : ∀ (now : Desk δ) (other : Unit) (request : ToolRequest), IsPrint request →
      now = state → (desk device now request).1 = (acceptAll false other request).1 ∧
        (desk device now request).2 = state := by
    intro now _ request hrequest hnow
    cases request with
    | print _ _ => exact ⟨rfl, hnow⟩
    | sendCmd _ => exact hrequest.elim
    | fgetc => exact hrequest.elim
    | quit => exact hrequest.elim
  obtain ⟨hresult, htrace, hfinal⟩ := @exec_congr Tool Halt α (Desk δ) (desk device) Unit
    (acceptAll false) IsPrint (fun now _ ↦ now = state) hstep p hp state () rfl
  rw [printing, ← hresult, ← htrace]
  cases hexec : exec (desk device) p state
  rw [hexec] at hfinal
  exact congrArg _ hfinal

/-! ### Sections -/

/-- What is printed about an answer: the whole section when the answer fits, a message otherwise. -/
structure PrintsSection (prints : α → ToolProgram ExitStatus) (fits : α → Bool) : Prop where
  isPrint : ∀ answer, Asks IsPrint (prints answer)
  result : ∀ answer, (printing (prints answer)).result =
    .ok (if fits answer then .success else .failure)
  silent : ∀ answer, fits answer = false → ∀ event ∈ (printing (prints answer)).trace,
    OnStderr event

theorem printsSection_printPartInfo : PrintsSection printPartInfo fun _ ↦ true :=
  ⟨isPrint_printPartInfo, fun _ ↦ rfl, fun _ hfits ↦ absurd hfits (by simp)⟩

theorem printsSection_printDpartInfo : PrintsSection printDpartInfo fun _ ↦ true :=
  ⟨isPrint_printDpartInfo, fun _ ↦ rfl, fun _ hfits ↦ absurd hfits (by simp)⟩

theorem printsSection_printChipInfo : PrintsSection printChipInfo fun _ ↦ true :=
  ⟨isPrint_printChipInfo, fun _ ↦ rfl, fun _ hfits ↦ absurd hfits (by simp)⟩

/-- A section on a page of the expected length, and a message on any other. -/
theorem printsSection_of_length {size : ℕ} {prints shown : Buffer size → ToolProgram ExitStatus}
    {message : Buffer size → List UInt8} {expected : UInt16}
    (hprints : ∀ page, prints page = if hdrLength page ≠ expected then
      eprint (message page) >>= fun _ ↦ .done .failure else shown page)
    (hisPrint : ∀ page, Asks IsPrint (prints page))
    (hshown : ∀ page, (printing (shown page)).result = .ok .success) :
    PrintsSection prints fun page ↦ hdrLength page = expected where
  isPrint := hisPrint
  result page := by
    rw [hprints]
    by_cases hlength : hdrLength page = expected
    · rw [if_neg (not_not.mpr hlength), if_pos (decide_eq_true hlength), hshown]
    · rw [if_pos hlength, if_neg (by simpa using hlength)]
      rfl
  silent page hfits := by
    rw [hprints, if_pos (of_decide_eq_false hfits)]
    exact List.forall_mem_singleton.mpr ⟨_, rfl⟩

theorem printsSection_printProperty03 :
    PrintsSection printProperty03 fun page ↦ hdrLength page = 39 :=
  printsSection_of_length (fun _ ↦ rfl) isPrint_printProperty03 fun _ ↦ rfl

theorem printsSection_printProperty0C :
    PrintsSection printProperty0C fun page ↦ hdrLength page = 10 :=
  printsSection_of_length (fun _ ↦ rfl) isPrint_printProperty0C fun _ ↦ rfl

/-- A question was answered, with something that can be printed. -/
def shows (fits : α → Bool) : Except ErrMsg α → Bool
  | .ok answer => fits answer
  | .error _ => false

/-- What stands in the output after a question: its section, or messages on stderr only. -/
structure SectionPrinted (prints : α → ToolProgram ExitStatus) (fits : α → Bool)
    (outcome : Except ErrMsg α) (lines : List (Event Tool)) : Prop where
  shown : ∀ answer, outcome = .ok answer → fits answer → Run (prints answer) lines (.ok .success)
  silent : shows fits outcome = false → ∀ event ∈ lines, OnStderr event

/-! ### The questions -/

/-- A function of the command layer whose first command is known. -/
def AsksFirst (question : Command α) (request : CmdRequest) : Prop :=
  ∃ next, question = .ask request next

theorem AsksFirst.mem_exec {question : Command α} {request : CmdRequest}
    (hfirst : AsksFirst question request) (state : δ) :
    request ∈ (exec device question state).trace.map (·.request) := by
  obtain ⟨next, rfl⟩ := hfirst
  exact List.mem_cons_self

/-- The call of `u3_chip_info`. -/
def chipInfoRequest : CmdRequest where
  cmd := plainCommand 0x103
  direction := .fromDev
  length := 24
  data := []

/-- The first command of each of the five questions, in their order. -/
def dumpQuestions : List CmdRequest :=
  [partitionInfoRequest 9, dpartInfoRequest, chipInfoRequest, propertyRequest 0x03 6,
    propertyRequest 0x0C 6]

theorem asksFirst_u3PartitionInfo : AsksFirst u3PartitionInfo (partitionInfoRequest 9) := ⟨_, rfl⟩

theorem asksFirst_u3DataPartitionInfo : AsksFirst u3DataPartitionInfo dpartInfoRequest := ⟨_, rfl⟩

theorem asksFirst_u3ChipInfo : AsksFirst u3ChipInfo chipInfoRequest := ⟨_, rfl⟩

theorem asksFirst_u3ReadDeviceProperty_03 (page : Property03) :
    AsksFirst (u3ReadDeviceProperty 0x03 page) (propertyRequest 0x03 6) := ⟨_, rfl⟩

theorem asksFirst_u3ReadDeviceProperty_0C (page : Property0C) :
    AsksFirst (u3ReadDeviceProperty 0x0C page) (propertyRequest 0x0C 6) := ⟨_, rfl⟩

/-- The answers to the five questions. -/
structure DumpAnswers where
  pinfo : Except ErrMsg PartInfo
  dpinfo : Except ErrMsg DpartInfo
  cinfo : Except ErrMsg ChipInfo
  deviceProperties : Except ErrMsg Property03
  securityProperties : Except ErrMsg Property0C

/-- All questions were answered, the two pages with the length of their structures. -/
def DumpAnswers.allShown (answers : DumpAnswers) : Bool :=
  shows (fun _ ↦ true) answers.pinfo && shows (fun _ ↦ true) answers.dpinfo &&
    shows (fun _ ↦ true) answers.cinfo &&
    shows (fun page ↦ hdrLength page = 39) answers.deviceProperties &&
    shows (fun page ↦ hdrLength page = 10) answers.securityProperties

/-- What a device answers when it is asked the five questions one after the other. -/
def dumpAnswers (device : Surroundings Scsi δ) (stack : ReportStack) (start : δ) : DumpAnswers :=
  let pinfo := exec device u3PartitionInfo start
  let dpinfo := exec device u3DataPartitionInfo pinfo.final
  let cinfo := exec device u3ChipInfo dpinfo.final
  let deviceProperties :=
    exec device (u3ReadDeviceProperty 0x03 stack.deviceProperties) cinfo.final
  let securityProperties :=
    exec device (u3ReadDeviceProperty 0x0C stack.securityProperties) deviceProperties.final
  ⟨pinfo.result, dpinfo.result, cinfo.result, deviceProperties.result, securityProperties.result⟩

/-- A part of the output of `do_dump`: a question that begins with a command, and its section. -/
structure DumpPart (request : CmdRequest) (prints : α → ToolProgram ExitStatus) (fits : α → Bool)
    (outcome : Except ErrMsg α) (part : List (Event Tool)) : Prop where
  asked : request ∈ (commands part).map (·.request)
  printed : ∃ (sent : List (Event Scsi)) (lines : List (Event Tool)),
    part = sent.map sendEvent ++ lines ∧ SectionPrinted prints fits outcome lines

/-- A section of `do_dump` asks its question, prints its section or a message, and passes `retval`
on or sets it. -/
theorem exec_dumpSection {question : Command α} {request : CmdRequest}
    {fails : ErrMsg → ToolProgram Unit} {prints : α → ToolProgram ExitStatus} {fits : α → Bool}
    (hfirst : AsksFirst question request) (hfails : ∀ error, ∃ text, fails error = eprint text)
    (hprints : PrintsSection prints fits) (device : Surroundings Scsi δ) (retval : Int32)
    (state : Desk δ) :
    ∃ part retval' state',
      exec (desk device) (dumpSection question fails prints retval) state =
        ⟨.ok retval', part, state'⟩ ∧
      retval' = (if shows fits (exec device question state.device).result then retval else 1) ∧
      state'.device = (exec device question state.device).final ∧
      DumpPart request prints fits (exec device question state.device).result part := by
  have hasked (lines : List (Event Tool)) : request ∈ (commands
      ((exec device question state.device).trace.map sendEvent ++ lines)).map (·.request) := by
    rw [commands_append, commands_map_sendEvent, List.map_append]
    exact List.mem_append_left _ (hfirst.mem_exec _)
  rw [dumpSection, exec_command_bind]
  cases houtcome : (exec device question state.device).result with
  | error error =>
    obtain ⟨text, htext⟩ := hfails error
    refine ⟨_, 1, { state with device := (exec device question state.device).final }, ?_, rfl, rfl,
      hasked [⟨.print .stderr text, ()⟩], _, _, rfl, nofun, fun _ ↦ ?_⟩
    · dsimp only
      rw [htext]
      rfl
    · exact List.forall_mem_singleton.mpr ⟨text, rfl⟩
  | ok answer =>
    refine ⟨_, _, { state with device := (exec device question state.device).final }, ?_, rfl, rfl,
      hasked (printing (prints answer)).trace, _, _, rfl, ?_, hprints.silent answer⟩
    · dsimp only
      have hexec := exec_of_isPrint (hprints.isPrint answer) device
        { state with device := (exec device question state.device).final }
      rw [hprints.result answer] at hexec
      rw [exec_bind_of_eq hexec]
      cases hfits : fits answer <;> simp [shows, hfits]
    · rintro other hother hfits
      obtain rfl := Except.ok.inj hother
      have hrun := run_exec (acceptAll false) (prints answer) ()
      rwa [show (exec (acceptAll false) (prints answer) ()).result = _ from hprints.result answer,
        if_pos hfits] at hrun

/-- The output of `do_dump`: its five parts, each with its own question and section. -/
def DumpPrinted (answers : DumpAnswers) (trace : List (Event Tool)) : Prop :=
  ∃ part₁ part₂ part₃ part₄ part₅, trace = part₁ ++ (part₂ ++ (part₃ ++ (part₄ ++ part₅))) ∧
    DumpPart (partitionInfoRequest 9) printPartInfo (fun _ ↦ true) answers.pinfo part₁ ∧
    DumpPart dpartInfoRequest printDpartInfo (fun _ ↦ true) answers.dpinfo part₂ ∧
    DumpPart chipInfoRequest printChipInfo (fun _ ↦ true) answers.cinfo part₃ ∧
    DumpPart (propertyRequest 0x03 6) printProperty03 (fun page ↦ hdrLength page = 39)
      answers.deviceProperties part₄ ∧
    DumpPart (propertyRequest 0x0C 6) printProperty0C (fun page ↦ hdrLength page = 10)
      answers.securityProperties part₅

/-- An execution of `do_dump`: all five questions are asked and their sections printed, and the
result is 1, unless everything was shown: then it is what the variable held. -/
theorem exec_doDump (stack : ReportStack) (retval : Int32) (state : Desk δ) :
    (exec (desk device) (doDump stack retval) state).result =
        .ok (if (dumpAnswers device stack state.device).allShown then retval else 1) ∧
      DumpPrinted (dumpAnswers device stack state.device)
        (exec (desk device) (doDump stack retval) state).trace := by
  have hfailure (function : String) (error : ErrMsg) :
      ∃ text, eprintFailure function error = eprint text := ⟨_, rfl⟩
  have hproperty (propertyId : String) (error : ErrMsg) :
      ∃ text, eprintPropertyFailure propertyId error = eprint text := ⟨_, rfl⟩
  have hpass (earlier later : Bool) (value : Int32) :
      (if later then if earlier then value else 1 else 1) =
        if earlier && later then value else 1 := by
    cases earlier <;> cases later <;> rfl
  -- each section starts with the variable and the device as the one before leaves them
  obtain ⟨part₁, retval₁, state₁, hexec₁, hretval₁, hstate₁, hpart₁⟩ :=
    exec_dumpSection asksFirst_u3PartitionInfo (hfailure "u3_partition_info")
      printsSection_printPartInfo device retval state
  obtain ⟨part₂, retval₂, state₂, hexec₂, hretval₂, hstate₂, hpart₂⟩ :=
    exec_dumpSection asksFirst_u3DataPartitionInfo (hfailure "u3_data_partition_info")
      printsSection_printDpartInfo device retval₁ state₁
  obtain ⟨part₃, retval₃, state₃, hexec₃, hretval₃, hstate₃, hpart₃⟩ :=
    exec_dumpSection asksFirst_u3ChipInfo (hfailure "u3_chip_info")
      printsSection_printChipInfo device retval₂ state₂
  obtain ⟨part₄, retval₄, state₄, hexec₄, hretval₄, hstate₄, hpart₄⟩ :=
    exec_dumpSection (asksFirst_u3ReadDeviceProperty_03 stack.deviceProperties) (hproperty "0x03")
      printsSection_printProperty03 device retval₃ state₃
  obtain ⟨part₅, retval₅, state₅, hexec₅, hretval₅, hstate₅, hpart₅⟩ :=
    exec_dumpSection (asksFirst_u3ReadDeviceProperty_0C stack.securityProperties)
      (hproperty "0x0C") printsSection_printProperty0C device retval₄ state₄
  have hexec : exec (desk device) (doDump stack retval) state =
      ⟨.ok retval₅, part₁ ++ (part₂ ++ (part₃ ++ (part₄ ++ part₅))), state₅⟩ := by
    rw [doDump, exec_bind_of_eq hexec₁, exec_bind_of_eq hexec₂, exec_bind_of_eq hexec₃,
      exec_bind_of_eq hexec₄, hexec₅]
  have hanswers : dumpAnswers device stack state.device =
      ⟨(exec device u3PartitionInfo state.device).result,
        (exec device u3DataPartitionInfo state₁.device).result,
        (exec device u3ChipInfo state₂.device).result,
        (exec device (u3ReadDeviceProperty 0x03 stack.deviceProperties) state₃.device).result,
        (exec device (u3ReadDeviceProperty 0x0C stack.securityProperties)
          state₄.device).result⟩ := by
    rw [hstate₄, hstate₃, hstate₂, hstate₁]
    rfl
  rw [hexec, hanswers]
  refine ⟨?_, part₁, part₂, part₃, part₄, part₅, rfl, hpart₁, hpart₂, hpart₃, hpart₄, hpart₅⟩
  -- the variable is left alone by a section that is shown and is 1 after any other
  rw [hretval₅, hretval₄, hretval₃, hretval₂, hretval₁, hpass, hpass, hpass, hpass]
  simp only [DumpAnswers.allShown, Bool.and_assoc]

/-! ### When the report is right -/

/-- Every question was asked, in the order of the sections. -/
theorem DumpPrinted.questions {answers : DumpAnswers} {trace : List (Event Tool)}
    (hprinted : DumpPrinted answers trace) :
    dumpQuestions.Sublist ((commands trace).map (·.request)) := by
  obtain ⟨part₁, part₂, part₃, part₄, part₅, rfl, h₁, h₂, h₃, h₄, h₅⟩ := hprinted
  simp only [commands_append, List.map_append]
  exact (List.singleton_sublist.mpr h₁.asked).append <|
    (List.singleton_sublist.mpr h₂.asked).append <|
    (List.singleton_sublist.mpr h₃.asked).append <|
    (List.singleton_sublist.mpr h₄.asked).append (List.singleton_sublist.mpr h₅.asked)

/-- `do_dump` reports what happened on a device in a state: it asks all five questions, prints the
sections of those that were answered, returns `EXIT_SUCCESS` exactly when it printed all of them and
`EXIT_FAILURE` otherwise, and returns nothing else for another content of its stack and of stdin. -/
structure DumpSound (device : Surroundings Scsi δ) (start : δ) : Prop where
  asks : ∀ stack retval stdin, dumpQuestions.Sublist
    ((commands (exec (desk device) (doDump stack retval) ⟨start, stdin⟩).trace).map (·.request))
  prints : ∀ stack retval stdin, DumpPrinted (dumpAnswers device stack start)
    (exec (desk device) (doDump stack retval) ⟨start, stdin⟩).trace
  returns : ∀ stack retval stdin,
    (exec (desk device) (doDump stack retval) ⟨start, stdin⟩).result =
      .ok (if (dumpAnswers device stack start).allShown then 0 else 1)
  unvarying : ∀ stack retval stdin stack' retval' stdin',
    (exec (desk device) (doDump stack retval) ⟨start, stdin⟩).result =
      (exec (desk device) (doDump stack' retval') ⟨start, stdin'⟩).result

/-- `do_dump` reports what happened exactly on the devices that never let it show everything: there
is no assignment of `EXIT_SUCCESS` to the variable it returns. -/
theorem doDump_sound_iff (device : Surroundings Scsi δ) (start : δ) :
    DumpSound device start ↔
      ∀ stack, (dumpAnswers device stack start).allShown = false := by
  constructor
  · intro hsound stack
    -- the variable may well hold 1 to begin with
    have hreturns := hsound.returns stack 1 (fun _ ↦ none)
    rw [(exec_doDump stack 1 ⟨start, _⟩).1, ite_self] at hreturns
    cases hshown : (dumpAnswers device stack start).allShown with
    | false => rfl
    | true =>
      rw [hshown, if_pos rfl] at hreturns
      exact absurd (Except.ok.inj hreturns) (by decide)
  · intro hnever
    have hresult (stack : ReportStack) (retval : Int32) (stdin : ℕ → Option UInt8) :
        (exec (desk device) (doDump stack retval) ⟨start, stdin⟩).result = .ok 1 := by
      rw [(exec_doDump stack retval ⟨start, stdin⟩).1, hnever stack]
      rfl
    exact {
      asks := fun stack retval stdin ↦ (exec_doDump stack retval ⟨start, stdin⟩).2.questions
      prints := fun stack retval stdin ↦ (exec_doDump stack retval ⟨start, stdin⟩).2
      returns := fun stack retval stdin ↦ by
        rw [hresult, hnever stack]
        rfl
      unvarying := fun stack retval stdin stack' retval' stdin' ↦ by rw [hresult, hresult] }

/-- A device that answers every question with as many bytes as are asked for, a property page with
its own length. -/
def answeringDevice : Surroundings Scsi Unit := fun _ request ↦
  if request.cmd = propertyCommand 0x03 6 ∨ request.cmd = propertyCommand 0x03 39 then
    (.success 0 ((List.replicate 4 0 ++ [(39 : UInt8)]).rightpad request.length 0), ())
  else if request.cmd = propertyCommand 0x0C 6 ∨ request.cmd = propertyCommand 0x0C 10 then
    (.success 0 ((List.replicate 4 0 ++ [(10 : UInt8)]).rightpad request.length 0), ())
  else
    (.success 0 (List.replicate request.length 0), ())

/-- On a device that answers everything the action returns what its variable happened to hold: here
7, although all five sections were printed. -/
theorem doDump_returns_garbage :
    (dumpAnswers answeringDevice ⟨.fill 39 0, .fill 10 0⟩ ()).allShown ∧
      (exec (desk answeringDevice) (doDump ⟨.fill 39 0, .fill 10 0⟩ 7) ⟨(), fun _ ↦ none⟩).result =
        .ok 7 ∧
      ¬ DumpSound answeringDevice () := by
  have hshown : (dumpAnswers answeringDevice ⟨.fill 39 0, .fill 10 0⟩ ()).allShown = true := by
    decide +kernel
  have hresult : (exec (desk answeringDevice) (doDump ⟨.fill 39 0, .fill 10 0⟩ 7)
      ⟨(), fun _ ↦ none⟩).result = .ok 7 := by
    rw [(exec_doDump _ 7 ⟨(), _⟩).1, hshown]
    rfl
  refine ⟨hshown, hresult, fun hsound ↦ ?_⟩
  have hreturns := hsound.returns ⟨.fill 39 0, .fill 10 0⟩ 7 (fun _ ↦ none)
  rw [hresult, hshown] at hreturns
  exact absurd (Except.ok.inj hreturns) (by decide)

end U3Tool
