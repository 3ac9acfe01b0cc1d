import U3Tool.ActionRuns

/-!
# Runs with a confirmation

`confirm` is the only function that prints its prompt, so the runs of `confirm` inside a longer run
begin at the prompts (`PromptFree`). The replies decide what a run of `confirm` returns, whatever
its fuel (`run_confirm_unique`), and what follows a prompt inside it is a run of `confirm` with the
same answer (`run_confirm_suffix`).

`ConfirmedRun` is the shape of a run that sends the commands 0x22 and 0xA2 only after a
confirmation: it changes nothing, or it does not ask and sends neither of the two, or it changes
nothing before a confirmation that is given. In such a run both commands are preceded by a
confirmation (`ConfirmedRun.preceded`), and nothing is changed when one is refused
(`ConfirmedRun.refused`). The rules of `Confirms` give this shape to every run of a program.
-/

set_option autoImplicit false
set_option relaxedAutoImplicit false

namespace U3Tool

open Interaction Bytes Program

variable {α β : Type} {trace : List (Event Tool)}

/-! ### The prompt -/

/-- What `confirm` prints. -/
def confirmPrompt : ToolRequest :=
  .print .stdout (ascii "\nAre you sure you want to continue? [yn] ")

/-- The event of printing the prompt. -/
def promptEvent : Event Tool :=
  ⟨.print .stdout (ascii "\nAre you sure you want to continue? [yn] "), ()⟩

/-- A request that is not the prompt of `confirm`. -/
def Unprompted (request : ToolRequest) : Prop := request ≠ confirmPrompt

instance : DecidablePred Unprompted := fun request ↦
  inferInstanceAs (Decidable (request ≠ confirmPrompt))

/-- No request of a trace is the prompt of `confirm`. -/
def PromptFree (trace : List (Event Tool)) : Prop := ∀ event ∈ trace, Unprompted event.request

@[simp] theorem promptFree_nil : PromptFree [] := by simp [PromptFree]

@[simp] theorem promptFree_append (first second : List (Event Tool)) :
    PromptFree (first ++ second) ↔ PromptFree first ∧ PromptFree second :=
  List.forall_mem_append

/-- Where a trace that ends with a given rest is split at an event that is not in its first part. -/
theorem append_of_not_mem {first rest before after : List (Event Tool)} {event : Event Tool}
    (htrace : first ++ rest = before ++ event :: after) (hevent : event ∉ first) :
    ∃ between, before = first ++ between ∧ rest = between ++ event :: after := by
  rcases List.append_eq_append_iff.mp htrace with ⟨between, hbefore, hrest⟩ |
    ⟨between, hfirst, hrest⟩
  · exact ⟨between, hbefore, hrest⟩
  · cases between with
    | nil => exact ⟨[], by simpa using hfirst.symm, by simpa using hrest.symm⟩
    | cons head tail =>
      obtain ⟨rfl, -⟩ := List.cons.inj hrest
      exact absurd (by simp [hfirst]) hevent

/-! ### Runs of `confirm` -/

theorem run_dropLine_succ {fuel : ℕ} {c : Int8} (hrun : Run (dropLine fuel c) trace (.ok ())) :
    Run (dropLine (fuel + 1) c) trace (.ok ()) := by
  induction fuel generalizing c trace with
  | zero =>
    unfold dropLine at hrun ⊢
    split_ifs at hrun ⊢
    · exact hrun
    · exact absurd (run_fail.mp hrun).2 (by simp)
  | succ fuel ih =>
    unfold dropLine at hrun ⊢
    split_ifs at hrun ⊢
    · exact hrun
    · obtain ⟨next, rest, rfl, hrest⟩ := run_ask.mp hrun
      exact .ask (ih hrest)

/-- A returning turn of the loop of `confirm`: the prompt, a line, and an answer or the next turn.
-/
theorem run_confirmLoop_succ {fuel : ℕ} {answer : Bool} :
    Run (confirmLoop (fuel + 1)) trace (.ok answer) ↔
      ∃ (first : Option UInt8) (line rest : List (Event Tool)),
        trace = promptEvent :: ⟨.fgetc, first⟩ :: (line ++ rest) ∧
          Run (dropLine fuel (toChar first)) line (.ok ()) ∧
          (answerOf (toChar first) = some answer ∧ rest = [] ∨
            answerOf (toChar first) = none ∧ Run (confirmLoop fuel) rest (.ok answer)) := by
  constructor
  · intro hrun
    obtain ⟨reply, prompted, rfl, hprompted⟩ := run_ask.mp hrun
    obtain ⟨first, read, rfl, hread⟩ := run_ask.mp hprompted
    change Run (dropLine fuel (toChar first) >>= _) read (.ok answer) at hread
    obtain ⟨line, value, rest, rfl, hline, hrest⟩ := run_bind_ok.mp hread
    refine ⟨first, line, rest, rfl, hline, ?_⟩
    cases hanswer : answerOf (toChar first) with
    | some retval =>
      rw [hanswer] at hrest
      obtain ⟨rfl, hretval⟩ := run_done.mp hrest
      exact Or.inl ⟨congrArg some (Except.ok.inj hretval).symm, rfl⟩
    | none =>
      rw [hanswer] at hrest
      exact Or.inr ⟨rfl, hrest⟩
  · rintro ⟨first, line, rest, rfl, hline, hanswer⟩
    refine .ask (.ask ?_)
    change Run (dropLine fuel (toChar first) >>= _) (line ++ rest) (.ok answer)
    refine Run.bind hline ?_
    rcases hanswer with ⟨hanswer, rfl⟩ | ⟨hanswer, hrest⟩
    · rw [hanswer]
      exact .done answer
    · rw [hanswer]
      exact hrest

/-- More fuel changes nothing about a returning run of `confirm`. -/
theorem run_confirm_add {fuel : ℕ} {answer : Bool} (hrun : Run (confirm fuel) trace (.ok answer))
    (extra : ℕ) : Run (confirm (fuel + extra)) trace (.ok answer) := by
  have hsucc : ∀ {fuel : ℕ} {trace : List (Event Tool)},
      Run (confirmLoop fuel) trace (.ok answer) →
        Run (confirmLoop (fuel + 1)) trace (.ok answer) := by
    intro fuel
    induction fuel with
    | zero => exact fun hzero ↦ absurd (run_fail.mp hzero).2 (by simp)
    | succ fuel ih =>
      intro trace hloop
      obtain ⟨first, line, rest, rfl, hline, hanswer⟩ := run_confirmLoop_succ.mp hloop
      exact run_confirmLoop_succ.mpr ⟨first, line, rest, rfl, run_dropLine_succ hline,
        hanswer.imp_right fun ⟨hnone, hrest⟩ ↦ ⟨hnone, ih hrest⟩⟩
  induction extra with
  | zero => exact hrun
  | succ extra ih => exact hsucc ih

/-- The replies decide what a run of `confirm` returns, whatever its fuel. -/
theorem run_confirm_unique {fuel fuel' : ℕ} {answer answer' : Bool}
    {first second firstRest secondRest : List (Event Tool)}
    (hfirst : Run (confirm fuel) first (.ok answer))
    (hsecond : Run (confirm fuel') second (.ok answer'))
    (htraces : first ++ firstRest = second ++ secondRest) : answer = answer' := by
  have hmore := run_confirm_add hfirst fuel'
  rw [add_comm] at hmore
  exact Except.ok.inj (hmore.unique (run_confirm_add hsecond fuel) htraces).2

/-- A returning run of `confirm` begins with the prompt. -/
theorem prompt_of_run_confirm {fuel : ℕ} {answer : Bool}
    (hrun : Run (confirm fuel) trace (.ok answer)) :
    ∃ rest, trace = promptEvent :: rest := by
  cases fuel with
  | zero => exact absurd (run_fail.mp hrun).2 (by simp)
  | succ fuel =>
    obtain ⟨first, line, rest, rfl, -⟩ := run_confirmLoop_succ.mp hrun
    exact ⟨_, rfl⟩

theorem promptFree_dropLine {fuel : ℕ} {c : Int8} {result : Except Halt Unit}
    (hrun : Run (dropLine fuel c) trace result) : PromptFree trace := by
  induction fuel generalizing c trace with
  | zero =>
    unfold dropLine at hrun
    split_ifs at hrun
    · rw [(run_done.mp hrun).1]
      exact promptFree_nil
    · rw [(run_fail.mp hrun).1]
      exact promptFree_nil
  | succ fuel ih =>
    unfold dropLine at hrun
    split_ifs at hrun
    · rw [(run_done.mp hrun).1]
      exact promptFree_nil
    · obtain ⟨next, rest, rfl, hrest⟩ := run_ask.mp hrun
      exact List.forall_mem_cons.mpr ⟨by simp [Unprompted, confirmPrompt], ih hrest⟩

/-- What a prompt inside a returning run of `confirm` begins is a run of `confirm` with the same
answer. -/
theorem run_confirm_suffix {fuel : ℕ} {answer : Bool} {before after : List (Event Tool)}
    (hrun : Run (confirm fuel) (before ++ promptEvent :: after) (.ok answer)) :
    ∃ fuel', Run (confirm fuel') (promptEvent :: after) (.ok answer) := by
  induction fuel generalizing before with
  | zero => exact absurd (run_fail.mp hrun).2 (by simp)
  | succ fuel ih =>
    cases before with
    | nil => exact ⟨fuel + 1, hrun⟩
    | cons head tail =>
      obtain ⟨first, line, rest, htrace, hline, hanswer⟩ := run_confirmLoop_succ.mp hrun
      have htail : ((⟨.fgetc, first⟩ : Event Tool) :: line) ++ rest =
          tail ++ promptEvent :: after := (List.cons.inj htrace).2.symm
      -- the prompt is not in the line that follows the first prompt
      have hfree : promptEvent ∉ (⟨.fgetc, first⟩ : Event Tool) :: line := by
        intro hmem
        rcases List.mem_cons.mp hmem with heq | hmem
        · exact absurd (congrArg Event.request heq) (by simp [promptEvent])
        · exact promptFree_dropLine hline _ hmem rfl
      obtain ⟨between, -, hrest⟩ := append_of_not_mem htail hfree
      rcases hanswer with ⟨-, rfl⟩ | ⟨-, hloop⟩
      · exact absurd hrest (by simp)
      · rw [hrest] at hloop
        exact ih hloop

/-! ### The shape of a run with a confirmation -/

/-- A command that is sent only after a confirmation: a repartition or the enabling of security. -/
def Guarded (event : Event Scsi) : Prop := event.request.command ∈ ([0x22, 0xA2] : List UInt16)

theorem Guarded.changing {event : Event Scsi} (hguarded : Guarded event) : Changing event := by
  unfold Guarded at hguarded
  unfold Changing deviceChanging
  simp only [List.mem_cons, List.not_mem_nil, or_false] at hguarded ⊢
  tauto

/-- A run changes nothing, or it does not ask and sends no guarded command, or it has changed
nothing when a confirmation is given, and does not ask again. -/
inductive ConfirmedRun (trace : List (Event Tool)) : Prop
  | harmless (hreads : Reads (commands trace))
  | unasked (hprompt : PromptFree trace) (hunguarded : ∀ event ∈ commands trace, ¬ Guarded event)
  | confirmed {before asked after : List (Event Tool)} {fuel : ℕ}
      (htrace : trace = before ++ (asked ++ after)) (hbefore : PromptFree before)
      (hreads : Reads (commands before)) (hasked : Run (confirm fuel) asked (.ok true))
      (hafter : PromptFree after)

namespace ConfirmedRun

/-- Nothing is asked or changed first. -/
theorem prepend {first rest : List (Event Tool)} (hprompt : PromptFree first)
    (hreads : Reads (commands first)) (hrest : ConfirmedRun rest) :
    ConfirmedRun (first ++ rest) := by
  cases hrest with
  | harmless hrestReads => exact .harmless (by simp [hreads, hrestReads])
  | unasked hrestPrompt hunguarded =>
    refine .unasked (by simp [hprompt, hrestPrompt]) ?_
    rw [commands_append, List.forall_mem_append]
    exact ⟨fun event hevent hguarded ↦ hreads event hevent hguarded.changing, hunguarded⟩
  | confirmed htrace hbefore hbeforeReads hasked hafter =>
    exact .confirmed (by rw [htrace, List.append_assoc]) (by simp [hprompt, hbefore])
      (by simp [hreads, hbeforeReads]) hasked hafter

/-- A guarded command is preceded by a confirmation that was given. -/
theorem preceded (hshape : ConfirmedRun trace) {before after : List (Event Tool)}
    {event : Event Scsi} (htrace : trace = before ++ sendEvent event :: after)
    (hguarded : Guarded event) :
    ∃ first asked last fuel, before = first ++ asked ++ last ∧
      Run (confirm fuel) asked (.ok true) := by
  have hmem : event ∈ commands trace := mem_commands.mpr (by simp [htrace])
  cases hshape with
  | harmless hreads => exact absurd hguarded.changing (hreads event hmem)
  | unasked _ hunguarded => exact absurd hguarded (hunguarded event hmem)
  | @confirmed first asked last fuel hsplit _ hreads hasked _ =>
    -- the command is not before the end of the confirmation
    have hfirst : sendEvent event ∉ first ++ asked := by
      rw [List.mem_append, not_or]
      refine ⟨fun hin ↦ hreads event (mem_commands.mpr hin) hguarded.changing, fun hin ↦ ?_⟩
      have hnone := commands_eq_nil_of_talks (asks_confirm fuel) hasked
      exact absurd (mem_commands.mpr hin) (by simp [hnone])
    rw [htrace, ← List.append_assoc] at hsplit
    obtain ⟨between, hbefore, -⟩ := append_of_not_mem hsplit.symm hfirst
    exact ⟨first, asked, between, fuel, hbefore, hasked⟩

/-- When a confirmation is refused, nothing is changed. -/
theorem refused (hshape : ConfirmedRun trace) {first asked last : List (Event Tool)} {fuel : ℕ}
    (htrace : trace = first ++ asked ++ last) (hrefused : Run (confirm fuel) asked (.ok false)) :
    Reads (commands trace) := by
  obtain ⟨rest, rfl⟩ := prompt_of_run_confirm hrefused
  have hprompted : trace = first ++ promptEvent :: (rest ++ last) := by
    rw [htrace, List.append_assoc]
    rfl
  cases hshape with
  | harmless hreads => exact hreads
  | unasked hprompt _ =>
    exact absurd rfl (hprompt promptEvent (by simp [hprompted]))
  | @confirmed before given after fuel' hsplit hbefore _ hasked hafter =>
    exfalso
    -- the prompt is in the confirmation that was given
    have hnotBefore : promptEvent ∉ before :=
      fun hin ↦ hbefore _ hin rfl
    have hnotAfter : promptEvent ∉ after := fun hin ↦ hafter _ hin rfl
    obtain ⟨between, -, hgiven⟩ := append_of_not_mem (hsplit.symm.trans hprompted) hnotBefore
    rcases List.append_eq_append_iff.mp hgiven with ⟨tail, -, htail⟩ | ⟨tail, hcut, htail⟩
    · exact hnotAfter (by simp [htail])
    · cases tail with
      | nil =>
        rw [List.nil_append] at htail
        exact hnotAfter (htail ▸ List.mem_cons_self ..)
      | cons head tail =>
        obtain ⟨rfl, hrest⟩ := List.cons.inj htail
        rw [hcut] at hasked
        obtain ⟨fuel'', hsuffix⟩ := run_confirm_suffix hasked
        exact absurd (run_confirm_unique hrefused hsuffix (congrArg (promptEvent :: ·) hrest))
          (by simp)

end ConfirmedRun

/-- Every run of a program is a run with a confirmation. -/
structure Confirms (p : ToolProgram α) : Prop where
  of_run : ∀ {trace : List (Event Tool)} {result : Except Halt α}, Run p trace result →
    ConfirmedRun trace

namespace Confirms

variable {p : ToolProgram α}

/-- A program that only reads. -/
theorem of_reads (hreads : ∀ {trace : List (Event Tool)} {result : Except Halt α},
    Run p trace result → Reads (commands trace)) : Confirms p where
  of_run hrun := .harmless (hreads hrun)

/-- A program that reads stdin and prints. -/
theorem of_talks (hp : Asks Talks p) : Confirms p :=
  of_reads fun hrun ↦ by simp [commands_eq_nil_of_talks hp hrun]

/-- A program that does not ask and sends no guarded command. -/
theorem of_unguarded (hp : Asks Unprompted p)
    (hunguarded : ∀ {trace : List (Event Tool)} {result : Except Halt α}, Run p trace result →
      ∀ event ∈ commands trace, ¬ Guarded event) : Confirms p where
  of_run hrun := .unasked (hp.of_run hrun) (hunguarded hrun)

/-- A sequence whose first program only reads and does not ask. -/
theorem bind {continuation : α → ToolProgram β} (hp : Asks Unprompted p)
    (hreads : ∀ {trace : List (Event Tool)} {result : Except Halt α}, Run p trace result →
      Reads (commands trace)) (hcontinuation : ∀ value, Confirms (continuation value)) :
    Confirms (p >>= continuation) where
  of_run hrun := by
    rcases run_bind.mp hrun with ⟨halt, -, hhalt⟩ | ⟨first, value, rest, rfl, hfirst, hrest⟩
    · exact .harmless (hreads hhalt)
    · exact ((hcontinuation value).of_run hrest).prepend (hp.of_run hfirst) (hreads hfirst)

/-- A program that is run only when `confirm` returns true. -/
theorem ifConfirmed {fuel : ℕ} {value : α} (hp : Asks Unprompted p) :
    Confirms (confirm fuel >>= fun confirmed ↦ if confirmed then p else .done value) where
  of_run hrun := by
    rcases run_bind.mp hrun with ⟨halt, -, hhalt⟩ | ⟨asked, answer, rest, rfl, hasked, hrest⟩
    · exact .harmless (by simp [commands_eq_nil_of_talks (asks_confirm fuel) hhalt])
    · cases answer with
      | true =>
        exact .confirmed (List.nil_append _).symm promptFree_nil reads_nil hasked (hp.of_run hrest)
      | false =>
        obtain ⟨rfl, -⟩ := run_done.mp hrest
        exact .harmless (by simp [commands_eq_nil_of_talks (asks_confirm fuel) hasked])

end Confirms

end U3Tool
