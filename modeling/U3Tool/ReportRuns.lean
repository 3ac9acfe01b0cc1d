import U3Tool.ActionRuns
import U3Tool.Reports

/-!
# Runs of the actions that print

`do_info` and `do_dump` send queries and print (`Asks Harmless`), so no run of them changes the
device (`reads_of_asks`).
-/

set_option autoImplicit false
set_option relaxedAutoImplicit false

namespace U3Tool

open Interaction Bytes Program

variable {α : Type} {trace : List (Event Tool)}

/-! ### Programs that change nothing -/

/-- A request that changes nothing on the device. -/
def Harmless : ToolRequest → Prop
  | .sendCmd request => request.command ∉ deviceChanging
  | _ => True

theorem reads_of_asks {p : ToolProgram α} (hp : Asks Harmless p) {result : Except Halt α}
    (hrun : Run p trace result) : Reads (commands trace) :=
  fun _ hevent ↦ hp.of_run hrun _ (mem_commands.mp hevent)

/-- A query of the command layer changes nothing. -/
theorem IsQuery.asks_command {p : Command α} (hp : IsQuery p) : Asks Harmless (command p) :=
  U3Tool.asks_command ⟨hp.not_changing⟩

theorem harmless_u3PartitionInfo : Asks Harmless (command u3PartitionInfo) :=
  asks_command (asks_u3PartitionInfo.mono fun request hrequest ↦ by
    rw [Harmless, hrequest]
    decide)

/-- A message followed by a return. -/
theorem harmless_print_done {stream : Stream} {text : List UInt8} (value : α) :
    Asks Harmless ((perform (I := Tool) (.print stream text) : ToolProgram Unit) >>=
      fun _ ↦ .done value) :=
  .ask trivial fun _ ↦ .done value

/-! ### `do_info` -/

theorem harmless_printSize (label : String) (sectors : UInt32) :
    Asks Harmless (printSize label sectors) :=
  .ask trivial fun _ ↦ .ask trivial fun _ ↦ .perform trivial

theorem harmless_printZoneStatus (dpinfo : DpartInfo) (securityProperties : Property0C) :
    Asks Harmless (printZoneStatus dpinfo securityProperties) := by
  refine .ask trivial fun _ ↦ ?_
  dsimp only [done_bind]
  split_ifs <;> exact .perform trivial

theorem harmless_printInfo (pinfo : PartInfo) (dpinfo : DpartInfo) (deviceProperties : Property03)
    (securityProperties : Property0C) :
    Asks Harmless (printInfo pinfo dpinfo deviceProperties securityProperties) := by
  refine (harmless_printSize _ _).bind fun _ ↦ (harmless_printSize _ _).bind fun _ ↦ ?_
  split_ifs
  · exact (harmless_printSize _ _).bind fun _ ↦ .done _
  · exact (harmless_printSize _ _).bind fun _ ↦ (harmless_printZoneStatus _ _).bind fun _ ↦ .done _

theorem harmless_infoRecords : Asks Harmless infoRecords :=
  asks_command_bind harmless_u3PartitionInfo (fun _ ↦ harmless_print_done _) fun _ ↦
    asks_command_bind isQuery_u3DataPartitionInfo.asks_command (fun _ ↦ harmless_print_done _)
      fun _ ↦ asks_command_bind isQuery_u3ChipInfo.asks_command (fun _ ↦ harmless_print_done _)
        fun _ ↦ .done _

theorem harmless_infoPages (stack : ReportStack) (pinfo : PartInfo) (dpinfo : DpartInfo) :
    Asks Harmless (infoPages stack pinfo dpinfo) :=
  asks_command_bind (isQuery_u3ReadDeviceProperty _ _).asks_command
    (fun _ ↦ harmless_print_done _) fun _ ↦
    asks_command_bind (isQuery_u3ReadDeviceProperty _ _).asks_command
      (fun _ ↦ harmless_print_done _) fun _ ↦ harmless_printInfo _ _ _ _

/-- `do_info` changes nothing. -/
theorem harmless_doInfo (stack : ReportStack) : Asks Harmless (doInfo stack) :=
  harmless_infoRecords.bind fun records ↦ by
    cases records with
    | none => exact .done _
    | some records => exact harmless_infoPages stack records.1 records.2

/-! ### `do_dump` -/

/-- A request to print. -/
def IsPrint : ToolRequest → Prop
  | .print _ _ => True
  | _ => False

/-- Printing changes nothing on the device. -/
theorem IsPrint.harmless : ∀ {request : ToolRequest}, IsPrint request → Harmless request
  | .print _ _, _ => trivial

/-- A program that only prints changes nothing. -/
theorem harmless_of_isPrint {p : ToolProgram α} (hp : Asks IsPrint p) : Asks Harmless p :=
  hp.mono fun _ ↦ IsPrint.harmless

theorem isPrint_print_done {stream : Stream} {text : List UInt8} (value : α) :
    Asks IsPrint ((perform (I := Tool) (.print stream text) : ToolProgram Unit) >>=
      fun _ ↦ .done value) :=
  .ask trivial fun _ ↦ .done value

theorem isPrint_printPartInfo (pinfo : PartInfo) : Asks IsPrint (printPartInfo pinfo) :=
  .ask trivial fun _ ↦ .ask trivial fun _ ↦ .ask trivial fun _ ↦ .ask trivial fun _ ↦
    .ask trivial fun _ ↦ .ask trivial fun _ ↦ isPrint_print_done _

theorem isPrint_printDpartInfo (dpinfo : DpartInfo) : Asks IsPrint (printDpartInfo dpinfo) :=
  .ask trivial fun _ ↦ .ask trivial fun _ ↦ .ask trivial fun _ ↦ .ask trivial fun _ ↦
    .ask trivial fun _ ↦ isPrint_print_done _

theorem isPrint_printChipInfo (cinfo : ChipInfo) : Asks IsPrint (printChipInfo cinfo) :=
  .ask trivial fun _ ↦ .ask trivial fun _ ↦ .ask trivial fun _ ↦ isPrint_print_done _

theorem isPrint_printProperty03 (page : Property03) : Asks IsPrint (printProperty03 page) := by
  unfold printProperty03
  split_ifs
  · exact isPrint_print_done _
  · exact .ask trivial fun _ ↦ .ask trivial fun _ ↦ .ask trivial fun _ ↦ .ask trivial fun _ ↦
      .ask trivial fun _ ↦ .ask trivial fun _ ↦ .ask trivial fun _ ↦ isPrint_print_done _

theorem isPrint_printProperty0C (page : Property0C) : Asks IsPrint (printProperty0C page) := by
  unfold printProperty0C
  split_ifs
  · exact isPrint_print_done _
  · exact .ask trivial fun _ ↦ .ask trivial fun _ ↦ isPrint_print_done _

theorem harmless_dumpSection {question : Command α} {fails : ErrMsg → ToolProgram Unit}
    {prints : α → ToolProgram ExitStatus} (hquestion : Asks Harmless (command question))
    (hfails : ∀ error, Asks Harmless (fails error))
    (hprints : ∀ answer, Asks Harmless (prints answer)) (retval : Int32) :
    Asks Harmless (dumpSection question fails prints retval) :=
  asks_command_bind hquestion (fun error ↦ (hfails error).bind fun _ ↦ .done _) fun answer ↦
    (hprints answer).bind fun status ↦ by cases status <;> exact .done _

/-- `do_dump` changes nothing. -/
theorem harmless_doDump (stack : ReportStack) (retval : Int32) :
    Asks Harmless (doDump stack retval) :=
  (harmless_dumpSection harmless_u3PartitionInfo (fun _ ↦ .perform trivial)
    (fun _ ↦ harmless_of_isPrint (isPrint_printPartInfo _)) _).bind fun _ ↦
  (harmless_dumpSection isQuery_u3DataPartitionInfo.asks_command (fun _ ↦ .perform trivial)
    (fun _ ↦ harmless_of_isPrint (isPrint_printDpartInfo _)) _).bind fun _ ↦
  (harmless_dumpSection isQuery_u3ChipInfo.asks_command (fun _ ↦ .perform trivial)
    (fun _ ↦ harmless_of_isPrint (isPrint_printChipInfo _)) _).bind fun _ ↦
  (harmless_dumpSection (isQuery_u3ReadDeviceProperty _ _).asks_command (fun _ ↦ .perform trivial)
    (fun _ ↦ harmless_of_isPrint (isPrint_printProperty03 _)) _).bind fun _ ↦
  harmless_dumpSection (isQuery_u3ReadDeviceProperty _ _).asks_command (fun _ ↦ .perform trivial)
    (fun _ ↦ harmless_of_isPrint (isPrint_printProperty0C _)) _

end U3Tool
