import U3Tool.Confirmation
import U3Tool.LoadGuarantees

/-!
# What the actions print and send

Nothing that an action prints besides `confirm` is the prompt of `confirm` (`Asks Unprompted`), and
the commands an action sends that change the device are its own (`ChangesOnce.command_of_changing`,
`ChangesTwice.command_of_changing`, `command_of_run_doLoad`). Together they give every action the
shape of a run with a confirmation (`Confirms`): a load and a password that is not the last try are
sent without asking, and are no guarded commands; a password on the last try, a repartition and the
enabling of security are sent after `confirm` returned true.
-/

set_option autoImplicit false
set_option relaxedAutoImplicit false

namespace U3Tool

open Interaction Bytes Program

variable {α β : Type} {trace : List (Event Tool)}

/-! ### Texts that are not the prompt -/

/-- A sequence that begins with a function of the command layer does not prompt when neither of its
ends does. -/
theorem unprompted_command_bind {p : Command α} {continuation : Except ErrMsg α → ToolProgram β}
    (herror : ∀ error, Asks Unprompted (continuation (.error error)))
    (hok : ∀ value, Asks Unprompted (continuation (.ok value))) :
    Asks Unprompted (command p >>= continuation) :=
  asks_command_bind (asks_command (.of_forall fun _ ↦ by simp [Unprompted, confirmPrompt])) herror
    hok

/-- What is printed to stderr is not the prompt. -/
theorem unprompted_eprint (text : List UInt8) : Asks Unprompted (eprint text) :=
  .perform (by simp [Unprompted, confirmPrompt])

/-- A message on stderr followed by a return. -/
theorem unprompted_eprint_done (text : List UInt8) (value : α) :
    Asks Unprompted (eprint text >>= fun _ ↦ .done value) :=
  (unprompted_eprint text).bind fun _ ↦ .done value

/-- A text that does not begin with a newline is not the prompt. -/
theorem unprompted_printf_of_head {text : String} (hhead : (ascii text).head? ≠ some 10) :
    Asks Unprompted (printf text) := by
  refine .perform fun hprompt ↦ hhead ?_
  have htext := (ToolRequest.print.inj hprompt).2
  rw [htext]
  rfl

/-- A single newline is not the prompt. -/
theorem unprompted_printf_newline : Asks Unprompted (printf "\n") :=
  .perform (by decide)

theorem head?_ascii_append {first rest : String} (hfirst : first ≠ "") :
    (ascii (first ++ rest)).head? = (ascii first).head? := by
  have hnonempty : first.toList ≠ [] := fun hnil ↦ hfirst (String.toList_eq_nil_iff.mp hnil)
  rw [ascii, ascii, String.toList_append, List.map_append]
  exact List.head?_append_of_ne_nil _ (by simpa using hnonempty)

/-- A repeated character is printed as repeated bytes. -/
theorem ascii_replicate (count : ℕ) (char : Char) :
    ascii (String.ofList (List.replicate count char)) =
      List.replicate count (UInt8.ofNat char.toNat) := by
  rw [ascii, String.toList_ofList, List.map_replicate]

/-- A repeated character other than a newline is not the prompt. -/
theorem unprompted_printf_replicate {count : ℕ} {char : Char}
    (hchar : UInt8.ofNat char.toNat ≠ 10) :
    Asks Unprompted (printf (String.ofList (List.replicate count char))) := by
  refine unprompted_printf_of_head ?_
  rw [ascii_replicate, List.head?_replicate]
  split_ifs
  · simp
  · simpa using hchar

/-! ### Actions that do not prompt -/

theorem unprompted_displayProgress (last cur total : UInt32) :
    Asks Unprompted (displayProgress last cur total) := by
  unfold displayProgress
  dsimp only
  split_ifs
  · exact .done _
  · exact .done _
  · refine (unprompted_printf_of_head (by decide)).bind fun _ ↦
      (unprompted_printf_replicate (by decide)).bind fun _ ↦
      (unprompted_printf_replicate (by decide)).bind fun _ ↦
      (unprompted_printf_of_head (by decide)).bind fun _ ↦
      (unprompted_printf_of_head ?_).bind fun _ ↦ .done _
    rw [String.append_assoc, head?_ascii_append (by decide)]
    decide

theorem unprompted_loadEnd (last blockNum blockCnt : UInt32) :
    Asks Unprompted (loadEnd last blockNum blockCnt) :=
  (unprompted_displayProgress _ _ _).bind fun _ ↦ unprompted_printf_newline.bind fun _ ↦
    (unprompted_printf_of_head (by decide)).bind fun _ ↦ .done _

theorem unprompted_loadWrite (blockNum : UInt32) (buffer : Buffer blockSize) :
    Asks Unprompted (loadWrite blockNum buffer) :=
  unprompted_command_bind (fun _ ↦ unprompted_eprint_done _ _) fun _ ↦ .done _

theorem unprompted_loadBody (read : List UInt8 × File) (blockNum : UInt32)
    (buffer : Buffer blockSize) :
    Asks Unprompted (loadBody read blockNum buffer) := by
  unfold loadBody
  split_ifs
  · exact (unprompted_loadWrite _ _).bind fun _ ↦ .done _
  · exact unprompted_eprint_done _ _
  · exact .done _
  · exact unprompted_eprint_done _ _
  · exact (unprompted_loadWrite _ _).bind fun _ ↦ .done _

theorem unprompted_loadLoop (blockCnt : UInt32) (file : File) (blockNum : UInt32)
    (buffer : Buffer blockSize) (last : UInt32) :
    Asks Unprompted (loadLoop blockCnt file blockNum buffer last) := by
  induction hremaining : file.remaining using Nat.strong_induction_on
    generalizing file blockNum buffer last with
  | _ remaining ih =>
    rw [loadLoop]
    refine (unprompted_displayProgress _ _ _).bind fun last ↦
      (unprompted_loadBody _ _ _).bind fun outcome ↦ ?_
    cases outcome with
    | none => exact .done _
    | some loaded =>
      dsimp only
      split_ifs with heof
      · exact unprompted_loadEnd _ _ _
      · refine .ask (by simp [Unprompted, confirmPrompt]) fun quit ↦ ?_
        have hwhole := loaded.sound.elim id fun herror ↦
          File.length_fread_of_not_eof herror (Bool.eq_false_of_not_eq_true heof)
        cases quit with
        | true => exact unprompted_loadEnd _ _ _
        | false =>
          exact ih _ (hremaining ▸ File.remaining_fread_lt (by decide) hwhole) _ _ _ _ rfl

theorem unprompted_doLoad (image : ImageFile) (buffer : Buffer blockSize) :
    Asks Unprompted (doLoad image buffer) := by
  unfold doLoad
  split
  · exact unprompted_eprint_done _ _
  · split_ifs
    · exact unprompted_eprint_done _ _
    · refine unprompted_command_bind (fun _ ↦ unprompted_eprint_done _ _) fun pinfo ↦ ?_
      dsimp only
      split_ifs
      · exact unprompted_eprint_done _ _
      · split
        · exact unprompted_eprint_done _ _
        · exact unprompted_loadLoop _ _ _ _ _

theorem unprompted_doPartition (sizeString : List UInt8) (stack : PartitionStack) :
    Asks Unprompted (doPartition sizeString stack) :=
  unprompted_command_bind (fun _ ↦ unprompted_eprint_done _ _) fun _ ↦
    unprompted_command_bind (fun _ ↦ unprompted_eprint_done _ _) fun _ ↦ .done _

theorem unprompted_getTriesLeft (securityProperties : Property0C) :
    Asks Unprompted (getTriesLeft securityProperties) :=
  unprompted_command_bind (fun _ ↦ unprompted_eprint_done _ _) fun _ ↦
    unprompted_command_bind (fun _ ↦ unprompted_eprint_done _ _) fun _ ↦ .done _

theorem unprompted_warnLastTry : Asks Unprompted warnLastTry :=
  (unprompted_printf_of_head (by decide)).bind fun _ ↦ unprompted_printf_of_head (by decide)

theorem unprompted_sendPassword (function : String) (p : Command Bool) :
    Asks Unprompted (sendPassword function p) :=
  unprompted_command_bind (fun _ ↦ unprompted_eprint_done _ _) fun correct ↦ by
    cases correct <;> exact (unprompted_printf_of_head (by decide)).bind fun _ ↦ .done _

section Security

variable (md5 : List UInt8 → Buffer 16)

theorem unprompted_doEnableSecurity (password : List UInt8) (roundedSize : Buffer 4) :
    Asks Unprompted (doEnableSecurity md5 password roundedSize) :=
  unprompted_command_bind (fun _ ↦ unprompted_eprint_done _ _) fun _ ↦ .done _

theorem unprompted_doResetSecurity (roundedSize : Buffer 4) :
    Asks Unprompted (doResetSecurity md5 roundedSize) :=
  unprompted_command_bind (fun _ ↦ unprompted_eprint_done _ _) fun _ ↦
    unprompted_command_bind (fun _ ↦ unprompted_eprint_done _ _) fun correct ↦ by
      cases correct <;> exact (unprompted_printf_of_head (by decide)).bind fun _ ↦ .done _

end Security

/-! ### The commands of an action -/

/-- The device-changing commands of an action that sends one. -/
theorem ChangesOnce.command_of_changing {code : UInt16} {calls : List (Event Scsi)}
    {result : Except Halt ExitStatus} (honce : ChangesOnce code calls result) {event : Event Scsi}
    (hevent : event ∈ calls) (hchanging : Changing event) : event.request.command ∈ [code] := by
  cases honce with
  | stopped hreads _ => exact absurd hchanging (hreads event hevent)
  | sent hcalls hreads hcommand _ =>
    subst hcalls
    rcases List.mem_append.mp hevent with hquery | hlast
    · exact absurd hchanging (hreads event hquery)
    · simp [List.mem_singleton.mp hlast, hcommand]

/-- The device-changing commands of an action that sends two. -/
theorem ChangesTwice.command_of_changing {first second : UInt16} {calls : List (Event Scsi)}
    {result : Except Halt ExitStatus} (htwice : ChangesTwice first second calls result)
    {event : Event Scsi} (hevent : event ∈ calls) (hchanging : Changing event) :
    event.request.command ∈ [first, second] := by
  cases htwice with
  | stopped honce =>
    exact List.mem_append_left [second] (honce.command_of_changing hevent hchanging)
  | sent hcalls hreads hfirst _ hsecond _ =>
    subst hcalls
    rcases List.mem_append.mp hevent with hquery | hlast
    · exact absurd hchanging (hreads event hquery)
    · rcases List.mem_pair.mp hlast with rfl | rfl <;> simp [hfirst, hsecond]

/-- `do_load` asks for the partition information and writes blocks. -/
theorem command_of_run_doLoad {image : ImageFile} {buffer : Buffer blockSize}
    {result : Except Halt ExitStatus} (hrun : Run (doLoad image buffer) trace result)
    {event : Event Scsi} (hevent : event ∈ commands trace) :
    event.request.command ∈ ([0x21, 0x42] : List UInt16) := by
  rcases run_doLoad hrun with ⟨-, -, hqueries⟩ | ⟨info, pinfo, writes, status, htransfers⟩
  · simp [hqueries event hevent]
  · rw [htransfers.commands_eq] at hevent
    rcases List.mem_append.mp hevent with hquery | hwrite
    · simp [asks_u3PartitionInfo.of_run htransfers.info_run event hquery]
    · simp [htransfers.command_of_mem hwrite]

/-! ### The shape of an action -/

/-- A guarded command is one of an action that sends only that. -/
theorem ChangesOnce.not_guarded {code : UInt16} {calls : List (Event Scsi)}
    {result : Except Halt ExitStatus} (honce : ChangesOnce code calls result)
    (hcode : code ∉ ([0x22, 0xA2] : List UInt16)) : ∀ event ∈ calls, ¬ Guarded event := by
  intro event hevent hguarded
  have hcommand := List.mem_singleton.mp (honce.command_of_changing hevent hguarded.changing)
  exact hcode (hcommand ▸ hguarded)

/-- A load does not ask, and its command is not guarded. -/
theorem confirms_doLoad (image : ImageFile) (buffer : Buffer blockSize) :
    Confirms (doLoad image buffer) :=
  .of_unguarded (unprompted_doLoad image buffer) fun hrun event hevent hguarded ↦ by
    have hcommand := command_of_run_doLoad hrun hevent
    unfold Guarded at hguarded
    generalize event.request.command = code at hcommand hguarded
    revert hcommand hguarded
    simp only [List.mem_cons, List.not_mem_nil, or_false]
    rintro (rfl | rfl) <;> decide

variable {fuel : ℕ} {verb function : String} {cmd : Cdb} {hashes : List UInt8}

/-- Before the last try a password is sent only after a confirmation, and it is no guarded command
in any case. -/
theorem confirms_guardPassword (hcmd : cmd.word16 1 ∉ ([0x22, 0xA2] : List UInt16))
    (triesLeft : Int32) :
    Confirms (guardPassword fuel verb function (passwordCommand cmd hashes) triesLeft) := by
  unfold guardPassword
  split_ifs
  · exact .of_talks (.ask trivial fun _ ↦ .done _)
  · exact .bind unprompted_warnLastTry
      (fun hrun ↦ by simp [(silent_warnLastTry.of_run hrun).2.1]) fun _ ↦
      .ifConfirmed (unprompted_sendPassword _ _)
  · exact .of_unguarded (unprompted_sendPassword _ _) fun hrun ↦
      (changesOnce_sendPassword hrun).not_guarded hcmd

theorem confirms_guardedAction (hcmd : cmd.word16 1 ∉ ([0x22, 0xA2] : List UInt16))
    (securityProperties : Property0C) :
    Confirms (guardedAction fuel securityProperties verb function (passwordCommand cmd hashes)) :=
  .bind (unprompted_getTriesLeft _) (fun hrun ↦ (run_getTriesLeft hrun).2) fun tries ↦ by
    cases tries with
    | none => exact .of_talks (.done _)
    | some triesLeft => exact confirms_guardPassword hcmd triesLeft

end U3Tool
