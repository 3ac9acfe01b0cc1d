import U3Tool.PasswordGuard
import U3Tool.Subsystem

/-!
# What the whole program keeps over a subsystem

A subsystem keeps a protocol of its calls when `u3_open` begins it, `u3_send_cmd` leaves it where an
open device is and `u3_close` ends it (`Subsystem.Keeps`). Then the whole program keeps it
(`Keeps.safe_mainOn`), in every run, also in one that a failed assertion ends or that waits for
stdin for ever.

Two things are tracked along: the commands sent so far, so that a protocol can say that what is on
the wire is what `main` sent; and the dialogue on the console, so that a command block is sent only
when the dialogue before it permits. What is required of `main` is a property of its runs.
-/

set_option autoImplicit false
set_option relaxedAutoImplicit false

namespace U3Tool

open Interaction Bytes Program

variable {J : Interface}

/-! ### Dialogues -/

/-- An event of the console as one of the tool. -/
def toolEvent : Event Console → Event Tool
  | ⟨.fgetc, reply⟩ => ⟨.fgetc, reply⟩
  | ⟨.quit, reply⟩ => ⟨.quit, reply⟩
  | ⟨.print stream text, reply⟩ => ⟨.print stream text, reply⟩

/-- An event of the whole program, if it is one of the console. -/
def consoleEvent : Event (J.sum Console) → Option (Event Tool)
  | ⟨.left _, _⟩ => none
  | ⟨.right console, reply⟩ => some (toolEvent ⟨console, reply⟩)

/-- What a trace of the whole program shows of the console. -/
def dialogue (trace : List (Event (J.sum Console))) : List (Event Tool) :=
  trace.filterMap consoleEvent

/-- An event of the tool, unless it is a command. -/
def spoken : Event Tool → Option (Event Tool)
  | ⟨.sendCmd _, _⟩ => none
  | event => some event

/-- What a trace of the tool shows of the console. -/
def talk (events : List (Event Tool)) : List (Event Tool) := events.filterMap spoken

@[simp] theorem talk_append (first second : List (Event Tool)) :
    talk (first ++ second) = talk first ++ talk second := List.filterMap_append

@[simp] theorem talk_sendEvent (sent : Event Scsi) : talk [sendEvent sent] = [] := rfl

@[simp] theorem talk_toolEvent (event : Event Console) :
    talk [toolEvent event] = [toolEvent event] := by
  obtain ⟨request, reply⟩ := event
  cases request <;> rfl

@[simp] theorem commands_toolEvent (event : Event Console) : commands [toolEvent event] = [] := by
  obtain ⟨request, reply⟩ := event
  cases request <;> rfl

/-! ### Protocols along a dialogue -/

section Talk

variable {S : Type} (step : Protocol J S) (block : S → Event J → Option (List UInt8))
  (permitted : List (Event Tool) → CmdRequest → Prop)

/-- A call that begins a command begins one that is allowed; `block` reads the command block off
the call. -/
def Sends (allowed : CmdRequest → Prop) (state : S) (call : Event J) : Prop :=
  ∀ bytes, block state call = some bytes →
    ∃ request, allowed request ∧ request.cmd.bytes = bytes

/-- The protocol of the whole program: a protocol of the calls, with commands that are permitted by
the dialogue before them. -/
noncomputable def withTalk : Protocol (J.sum Console) (S × List (Event Tool))
  | (state, talked), ⟨.left call, reply⟩ =>
    (step.gated (Sends block (permitted talked)) state ⟨call, reply⟩).map fun after ↦
      (after, talked)
  | (state, talked), ⟨.right console, reply⟩ => some (state, talked ++ [toolEvent ⟨console, reply⟩])

variable {step block permitted}

/-- A trace that keeps the protocol of the whole program keeps that of the calls. -/
theorem follow_left_of_withTalk {trace : List (Event (J.sum Console))} {state final : S}
    {past talked : List (Event Tool)}
    (hfollow : (withTalk step block permitted).follow (state, past) trace = some (final, talked)) :
    (step.left (J := Console)).follow state trace = some final ∧
      talked = past ++ dialogue trace := by
  induction trace generalizing state past with
  | nil =>
    obtain ⟨rfl, rfl⟩ := Prod.mk.inj (Option.some.inj hfollow)
    exact ⟨rfl, (List.append_nil past).symm⟩
  | cons event rest ih =>
    obtain ⟨request, reply⟩ := event
    obtain ⟨⟨after, later⟩, hstep, hrest⟩ := Option.bind_eq_some_iff.mp hfollow
    cases request with
    | left call =>
      obtain ⟨next, hnext, heq⟩ := Option.map_eq_some_iff.mp hstep
      obtain ⟨rfl, rfl⟩ := Prod.mk.inj heq
      obtain ⟨hleft, htalked⟩ := ih hrest
      have hplain : step state ⟨call, reply⟩ = some next := by
        unfold Protocol.gated at hnext
        split_ifs at hnext
        exact hnext
      refine ⟨?_, htalked⟩
      change (step state ⟨call, reply⟩).bind _ = _
      rw [hplain]
      exact hleft
    | right console =>
      obtain ⟨rfl, rfl⟩ := Prod.mk.inj (Option.some.inj hstep)
      obtain ⟨hleft, htalked⟩ := ih hrest
      exact ⟨hleft, by rw [htalked, List.append_assoc]; rfl⟩

/-- In a trace that keeps the protocol, a call that begins a command is permitted by the dialogue
before it. -/
theorem sends_of_withTalk {before after : List (Event (J.sum Console))} {call : Event J}
    {start final : S} {talked : List (Event Tool)}
    (hfollow : (withTalk step block permitted).follow (start, [])
      (before ++ leftEvent call :: after) = some (final, talked)) :
    ∃ state, (step.left (J := Console)).follow start before = some state ∧
      Sends block (permitted (dialogue before)) state call := by
  rw [Protocol.follow_append] at hfollow
  obtain ⟨⟨state, past⟩, hbefore, hrest⟩ := Option.bind_eq_some_iff.mp hfollow
  obtain ⟨hleft, rfl⟩ := follow_left_of_withTalk hbefore
  obtain ⟨_, hstep, -⟩ := Option.bind_eq_some_iff.mp hrest
  obtain ⟨next, hnext, -⟩ := Option.map_eq_some_iff.mp hstep
  unfold Protocol.gated at hnext
  split_ifs at hnext with hsends
  exact ⟨state, hleft, hsends⟩

/-- A program over the calls, between two turns of the dialogue. -/
theorem safe_withTalk_left {ε α : Type} {p : Program J ε α} {post : Except ε α → S → Prop}
    {state : S} {talked : List (Event Tool)}
    (hsafe : Safe (step.gated (Sends block (permitted talked))) p post state) :
    Safe (withTalk step block permitted) (p.left (J := Console))
      (fun result final ↦ post result final.1 ∧ final.2 = talked) (state, talked) := by
  let related (now : S) (next : S × List (Event Tool)) : Prop := next = (now, talked)
  have hstep {now : S} {next : S × List (Event Tool)} {event : Event J} {after : S}
      (hnow : related now next)
      (hafter : step.gated (Sends block (permitted talked)) now event = some after) :
      ∃ later, (withTalk step block permitted).onLeft next event = some later ∧
        related after later := by
    obtain rfl := hnow
    exact ⟨(after, talked), by simp [Protocol.onLeft, withTalk, hafter], rfl⟩
  have hleft : Safe (withTalk step block permitted).onLeft p
      (fun result next ↦ ∃ final, post result final ∧ related final next) (state, talked) :=
    hsafe.simulate hstep rfl
  refine safe_left.mpr (hleft.mono ?_)
  rintro result _ ⟨final, hfinal, rfl⟩
  exact ⟨hfinal, rfl⟩

/-- What the commands a program of the tool sends keep, the program keeps over the subsystem. -/
theorem safe_interp_tool {α : Type} {send : CmdRequest → Program J Abort CmdReply}
    {asked : List (Event Tool) → CmdRequest → Prop} {related : List (Event Scsi) → S → Prop}
    {stopped : S → Prop}
    (hsend : ∀ talked request sent state, asked talked request → related sent state →
      Safe (step.gated (Sends block (permitted talked))) (send request)
        (settled (fun reply ↦ related (sent ++ [⟨request, reply⟩])) fun _ ↦ stopped) state)
    {p : ToolProgram α}
    (hp : ∀ {events result}, Run p events result → ∀ {before sent after},
      events = before ++ sendEvent sent :: after → asked (talk before) sent.request)
    {state : S} (hstate : related [] state) :
    Safe (withTalk step block permitted) (p.interp (toolHandler send))
      (settled (fun outcome final ↦ ∃ events, Run p events outcome ∧
        related (commands events) final.1 ∧ final.2 = talk events) fun _ final ↦ stopped final.1)
      (state, []) := by
  let may (past : List (Event Tool)) (event : Event Tool) : Prop :=
    ∀ sent, event = sendEvent sent → asked (talk past) sent.request
  have habove : Safe (onHistory may) p (fun result final ↦ ∃ trace, final = [] ++ trace ∧
      Run p trace result) [] := by
    refine safe_onHistory (fun request ↦ ?_) fun hrun before event after htrace sent hsent ↦ ?_
    · cases request with
      | sendCmd request => exact ⟨.success 0 []⟩
      | fgetc => exact ⟨none⟩
      | quit => exact ⟨true⟩
      | print stream text => exact ⟨()⟩
    · subst hsent
      exact hp hrun htrace
  let linked (past : List (Event Tool)) (down : S × List (Event Tool)) : Prop :=
    related (commands past) down.1 ∧ down.2 = talk past
  have hconsole (console : ConsoleRequest) (past : List (Event Tool))
      (down : S × List (Event Tool)) (hdown : linked past down) (reply : console.Reply) :
      ∃ after, withTalk step block permitted down ⟨.right console, reply⟩ = some after ∧
        linked (past ++ [toolEvent ⟨console, reply⟩]) after :=
    ⟨_, rfl, by simpa using hdown.1, by rw [talk_append, talk_toolEvent, ← hdown.2]⟩
  have hhandler (request : ToolRequest) (past : List (Event Tool)) (down : S × List (Event Tool))
      (hdown : linked past down)
      (hallowed : ∀ reply, ∃ after, onHistory may past ⟨request, reply⟩ = some after) :
      Safe (withTalk step block permitted) (toolHandler send request)
        (settled (fun reply final ↦ ∃ after, onHistory may past ⟨request, reply⟩ = some after ∧
          linked after final) fun _ final ↦ stopped final.1) down := by
    have hmay (reply : request.Reply) : may past ⟨request, reply⟩ :=
      (onHistory_eq_some.mp (hallowed reply).choose_spec).1
    cases request with
    | sendCmd request =>
      obtain ⟨now, talked⟩ := down
      obtain ⟨hnow, rfl⟩ := hdown
      have hasked : asked (talk past) request := hmay (.success 0 []) ⟨request, _⟩ rfl
      refine (safe_withTalk_left (hsend _ request _ now hasked hnow)).mono
        fun result final hfinal ↦ ?_
      cases result with
      | error stop => exact hfinal.1
      | ok reply =>
        exact ⟨_, onHistory_eq_some.mpr ⟨hmay reply, rfl⟩,
          by rw [commands_append]; exact hfinal.1,
          by rw [hfinal.2, talk_append]; exact (List.append_nil _).symm⟩
    | fgetc =>
      intro reply
      obtain ⟨after, hafter, hlinked⟩ := hconsole .fgetc past down hdown reply
      exact ⟨after, hafter, _, onHistory_eq_some.mpr ⟨hmay reply, rfl⟩, hlinked⟩
    | quit =>
      intro reply
      obtain ⟨after, hafter, hlinked⟩ := hconsole .quit past down hdown reply
      exact ⟨after, hafter, _, onHistory_eq_some.mpr ⟨hmay reply, rfl⟩, hlinked⟩
    | print stream text =>
      intro reply
      obtain ⟨after, hafter, hlinked⟩ := hconsole (.print stream text) past down hdown reply
      exact ⟨after, hafter, _, onHistory_eq_some.mpr ⟨hmay reply, rfl⟩, hlinked⟩
  have hinterp : Safe (withTalk step block permitted) (p.interp (toolHandler send))
      (settled (fun outcome final ↦ ∃ past, (∃ trace, past = [] ++ trace ∧ Run p trace outcome) ∧
        linked past final) fun _ final ↦ stopped final.1) (state, []) :=
    Safe.interp hhandler habove ⟨hstate, rfl⟩
  refine hinterp.mono fun result final hfinal ↦ ?_
  cases result with
  | error stop => exact hfinal
  | ok outcome =>
    obtain ⟨_, ⟨trace, rfl, hrun⟩, hrelated, htalk⟩ := hfinal
    exact ⟨_, hrun, hrelated, htalk⟩

end Talk

/-! ### Early exits -/

theorem silent_printAll (texts : List String) : Silent (printAll texts) := by
  induction texts with
  | nil => exact .done ()
  | cons text rest ih => exact (Silent.print _ _).bind fun _ ↦ ih

theorem silent_usage (world : World) (name : List UInt8) : Silent (usage world name) :=
  (silent_printAll _).bind fun _ ↦ (Silent.print _ _).bind fun _ ↦ silent_printAll _

/-- Without a device to open, `main` prints and returns. -/
theorem silent_main_of_none {world : World} {fuel : ℕ} {stack : MainStack} {name : List UInt8}
    {args : List (List UInt8)} (hnone : deviceArgument args = none) :
    Silent (main world fuel stack name args) := by
  unfold main
  unfold deviceArgument at hnone
  dsimp only
  cases hparse : parseOptions (parsedArguments args).1 .initial with
  | error exit =>
    cases exit with
    | version => exact (silent_printAll _).bind fun _ ↦ .done 0
    | usage => exact (silent_usage world name).bind fun _ ↦ .done 1
  | ok options =>
    rw [hparse] at hnone
    cases hoperands : (parsedArguments args).2 with
    | nil => exact (Silent.print _ _).bind fun _ ↦ (silent_usage world name).bind fun _ ↦ .done 1
    | cons deviceName rest =>
      rw [hoperands] at hnone
      exact absurd hnone (by simp)

theorem silent_openFailed (error : ErrMsg) : Silent (openFailed error) :=
  (Silent.print _ _).bind fun _ ↦ .done 1

/-- Without a device to open, `main` does not look at how opening one would end. -/
theorem main_opensAs_of_none {world : World} {fuel : ℕ} {stack : MainStack} {name : List UInt8}
    {args : List (List UInt8)} (hnone : deviceArgument args = none) :
    main (opensAs world none) fuel stack name args = main world fuel stack name args := by
  unfold main
  unfold deviceArgument at hnone
  dsimp only
  cases hparse : parseOptions (parsedArguments args).1 .initial with
  | error exit => cases exit <;> rfl
  | ok options =>
    rw [hparse] at hnone
    cases hoperands : (parsedArguments args).2 with
    | nil => rfl
    | cons deviceName rest =>
      rw [hoperands] at hnone
      exact absurd hnone (by simp)

/-! ### The protocol of a subsystem -/

/-- Where `u3_open` leaves the protocol: as a device that is open, or as after a closing. -/
def openedOr {Handle S : Type} (opened : Handle → S → Prop) (finished : S → Prop) :
    Except ErrMsg Handle → S → Prop
  | .ok handle, state => opened handle state
  | .error _, state => finished state

/-- The functions of a subsystem keep a protocol of its calls, for commands that fit: `u3_open`
begins it and sends nothing, `u3_send_cmd` sends a command that is allowed and leaves the protocol
where an open device is, or `stopped` when an assertion fails, and `u3_close` ends it. -/
structure Subsystem.Keeps (sub : Subsystem) {S : Type} (step : Protocol sub.Calls S)
    (block : S → Event sub.Calls → Option (List UInt8)) (fits : CmdRequest → Prop) (start : S)
    (opened : sub.Handle → List (Event Scsi) → S → Prop) (stopped : S → Prop)
    (finished : List (Event Scsi) → S → Prop) : Prop where
  finished_start : finished [] start
  u3Open : ∀ allowed debug which, Safe (step.gated (Sends block allowed)) (sub.u3Open debug which)
    (settled (openedOr (fun handle ↦ opened handle []) (finished [])) fun _ _ ↦ False) start
  u3SendCmd : ∀ allowed handle request sent state, allowed request → fits request →
    opened handle sent state →
    Safe (step.gated (Sends block allowed)) (sub.u3SendCmd handle request)
      (settled (fun reply ↦ opened handle (sent ++ [⟨request, reply⟩])) fun _ ↦ stopped) state
  u3Close : ∀ allowed handle sent state, opened handle sent state →
    Safe (step.gated (Sends block allowed)) (sub.u3Close handle)
      (settled (fun _ ↦ finished sent) fun _ _ ↦ False) state

/-- A protocol that does not look at command blocks. -/
def noBlock {S : Type} (_ : S) (_ : Event J) : Option (List UInt8) := none

theorem safe_noBlock {ε α S : Type} {step : Protocol J S} {p : Program J ε α}
    {post : Except ε α → S → Prop} {state : S} (hsafe : Safe step p post state)
    (allowed : CmdRequest → Prop) : Safe (step.gated (Sends noBlock allowed)) p post state := by
  have hsends (state : S) (call : Event J) : Sends noBlock allowed state call :=
    fun bytes hbytes ↦ by simp [noBlock] at hbytes
  rw [step.gated_eq hsends]
  exact hsafe

/-- Where a run of `main` leaves the protocol: finished when it returned, with a device open when it
waits for stdin. -/
def Ends {Handle S : Type} (opened : Handle → List (Event Scsi) → S → Prop)
    (finished : List (Event Scsi) → S → Prop) :
    Except Halt Int32 → List (Event Scsi) → S → Prop
  | .ok _, sent, state => finished sent state
  | .error _, sent, state => ∃ handle, opened handle sent state

/-- Where the whole program leaves the protocol and the dialogue: as a run of `main` does, or as
`u3_send_cmd` when an assertion fails. -/
def leftOver {Handle S : Type} (world : World) (fuel : ℕ) (stack : MainStack)
    (name : List UInt8) (args : List (List UInt8))
    (opened : Handle → List (Event Scsi) → S → Prop) (stopped : S → Prop)
    (finished : List (Event Scsi) → S → Prop) :
    Except Abort (Except Halt Int32) → S × List (Event Tool) → Prop :=
  settled (fun outcome final ↦ ∃ error events,
    Run (main (opensAs world error) fuel stack name args) events outcome ∧
      Ends opened finished outcome (commands events) final.1 ∧ final.2 = talk events)
    fun _ final ↦ stopped final.1

section Keeps

variable {sub : Subsystem} {world : World} {S : Type} {step : Protocol sub.Calls S}
  {block : S → Event sub.Calls → Option (List UInt8)} {fits : CmdRequest → Prop} {start : S}
  {opened : sub.Handle → List (Event Scsi) → S → Prop} {stopped : S → Prop}
  {finished : List (Event Scsi) → S → Prop}

/-- A session with an open device keeps the protocol and ends it. -/
theorem Subsystem.Keeps.safe_session
    (hkeeps : sub.Keeps step block fits start opened stopped finished)
    {permitted : List (Event Tool) → CmdRequest → Prop} {fuel : ℕ} {stack : MainStack}
    {options : Options}
    (hruns : ∀ {events result}, Run (withDevice world fuel stack options) events result →
      ∀ {before sent after}, events = before ++ sendEvent sent :: after →
        permitted (talk before) sent.request ∧ fits sent.request)
    {handle : sub.Handle} {state : S} (hstate : opened handle [] state) :
    Safe (withTalk step block permitted) (session sub world fuel stack options handle)
      (settled (fun outcome final ↦ ∃ events, Run (withDevice world fuel stack options) events
        outcome ∧ Ends opened finished outcome (commands events) final.1 ∧ final.2 = talk events)
          fun _ final ↦ stopped final.1) (state, []) := by
  have hsend (talked : List (Event Tool)) (request : CmdRequest) (sent : List (Event Scsi))
      (now : S) (hasked : permitted talked request ∧ fits request) (hnow : opened handle sent now) :
      Safe (step.gated (Sends block (permitted talked))) (sub.u3SendCmd handle request)
        (settled (fun reply ↦ opened handle (sent ++ [⟨request, reply⟩])) fun _ ↦ stopped) now :=
    hkeeps.u3SendCmd _ handle request sent now hasked.1 hasked.2 hnow
  refine Safe.bind (safe_interp_tool hsend hruns hstate) (fun outcome final hfinal ↦ ?_)
    fun stop final hfinal ↦ hfinal
  obtain ⟨events, hevents, hopened, htalked⟩ := hfinal
  obtain ⟨now, talked⟩ := final
  cases outcome with
  | error halt => exact ⟨events, hevents, ⟨handle, hopened⟩, htalked⟩
  | ok code =>
    refine safe_bind.mpr ((safe_withTalk_left (hkeeps.u3Close _ handle _ now hopened)).mono
      fun result final hfinal ↦ ?_)
    cases result with
    | error stop => exact hfinal.1.elim
    | ok _ => exact ⟨events, hevents, hfinal.1, hfinal.2.trans htalked⟩

/-- A program that prints and returns does so without a device. -/
theorem safe_interp_noDevice {p : ToolProgram Int32} (hp : Silent p)
    {permitted : List (Event Tool) → CmdRequest → Prop} (state : S) :
    Safe (withTalk step block permitted) (p.interp (toolHandler noDevice))
      (settled (fun outcome final ↦ ∃ events, Run p events outcome ∧
        (∃ code, outcome = .ok code) ∧ commands events = [] ∧ final = (state, talk events))
          fun _ _ ↦ False) (state, []) := by
  have hsend (talked : List (Event Tool)) (request : CmdRequest) (sent : List (Event Scsi))
      (now : S) (hasked : False) (hnow : now = state) :
      Safe (step.gated (Sends block (permitted talked))) (noDevice request)
        (settled (fun _ next ↦ next = state) fun _ _ ↦ False) now := hasked.elim
  have hruns {events : List (Event Tool)} {result : Except Halt Int32}
      (hrun : Run p events result) {before : List (Event Tool)} {sent : Event Scsi}
      {after : List (Event Tool)} (hevents : events = before ++ sendEvent sent :: after) :
      False := by
    have hnone := (hp.of_run hrun).2.1
    rw [hevents, commands_append, commands_sendEvent] at hnone
    exact absurd hnone (by simp)
  refine (safe_interp_tool hsend hruns rfl).mono fun result final hfinal ↦ ?_
  cases result with
  | error stop => exact hfinal
  | ok outcome =>
    obtain ⟨events, hevents, hnow, htalked⟩ := hfinal
    obtain ⟨hreturned, hnone, -⟩ := hp.of_run hevents
    exact ⟨events, hevents, hreturned, hnone, Prod.ext hnow htalked⟩

/-- What the three functions of a subsystem keep, the whole program keeps, when every command of
every run of `main` is permitted by the dialogue before it. -/
theorem Subsystem.Keeps.safe_mainOn
    (hkeeps : sub.Keeps step block fits start opened stopped finished)
    {permitted : List (Event Tool) → CmdRequest → Prop} {fuel : ℕ} {stack : MainStack}
    {name : List UInt8} {args : List (List UInt8)}
    (hruns : ∀ {error events result},
      Run (main (opensAs world error) fuel stack name args) events result →
        ∀ {before sent after}, events = before ++ sendEvent sent :: after →
          permitted (talk before) sent.request ∧ fits sent.request) :
    Safe (withTalk step block permitted) (mainOn sub world fuel stack name args)
      (leftOver world fuel stack name args opened stopped finished) (start, []) := by
  -- an early exit, in the state where the device is not opened
  have hexits {p : ToolProgram Int32} (hp : Silent p) {error : Option ErrMsg}
      (hmain : main (opensAs world error) fuel stack name args = p) {state : S}
      (hstate : finished [] state) :
      Safe (withTalk step block permitted) (p.interp (toolHandler noDevice))
        (leftOver world fuel stack name args opened stopped finished) (state, []) := by
    refine (safe_interp_noDevice hp state).mono fun result final hfinal ↦ ?_
    cases result with
    | error stop => exact hfinal.elim
    | ok outcome =>
      obtain ⟨events, hevents, ⟨code, rfl⟩, hnone, rfl⟩ := hfinal
      refine ⟨error, events, by rw [hmain]; exact hevents, ?_, rfl⟩
      rw [hnone]
      exact hstate
  unfold mainOn
  cases hdevice : deviceArgument args with
  | none =>
    exact hexits (silent_main_of_none hdevice) (main_opensAs_of_none hdevice) hkeeps.finished_start
  | some argument =>
    obtain ⟨options, deviceName⟩ := argument
    obtain ⟨hopens, hfails⟩ := @main_opensAs world fuel stack name args _ _ hdevice
    refine safe_bind.mpr ((safe_withTalk_left (hkeeps.u3Open _ _ _)).mono
      fun result final hfinal ↦ ?_)
    obtain ⟨now, talked⟩ := final
    cases result with
    | error stop => exact hfinal.1.elim
    | ok opening =>
      obtain ⟨hopening, rfl⟩ := hfinal
      cases opening with
      | error error => exact hexits (silent_openFailed error) (hfails error) hopening
      | ok handle =>
        have hsession {events : List (Event Tool)} {result : Except Halt Int32}
            (hrun : Run (withDevice world fuel stack options) events result)
            {before : List (Event Tool)} {sent : Event Scsi} {after : List (Event Tool)}
            (hevents : events = before ++ sendEvent sent :: after) :
            permitted (talk before) sent.request ∧ fits sent.request := by
          rw [← hopens] at hrun
          exact hruns hrun hevents
        refine (hkeeps.safe_session hsession hopening).mono fun result final hfinal ↦ ?_
        cases result with
        | error stop => exact hfinal
        | ok outcome =>
          obtain ⟨events, hevents, hends, htalked⟩ := hfinal
          exact ⟨none, events, by rw [hopens]; exact hevents, hends, htalked⟩

/-- What a run of the whole program is, over a subsystem that keeps a protocol. -/
theorem Subsystem.Keeps.of_run
    (hkeeps : sub.Keeps step block fits start opened stopped finished)
    {permitted : List (Event Tool) → CmdRequest → Prop} {fuel : ℕ} {stack : MainStack}
    {name : List UInt8} {args : List (List UInt8)}
    (hruns : ∀ {error events result},
      Run (main (opensAs world error) fuel stack name args) events result →
        ∀ {before sent after}, events = before ++ sendEvent sent :: after →
          permitted (talk before) sent.request ∧ fits sent.request)
    {trace : List (Event (sub.Calls.sum Console))} {result : Except Abort (Except Halt Int32)}
    (hrun : Run (mainOn sub world fuel stack name args) trace result) :
    ∃ final, (step.left (J := Console)).follow start trace = some final ∧
      leftOver world fuel stack name args opened stopped finished result
        (final, dialogue trace) ∧
      ∀ {before after : List (Event (sub.Calls.sum Console))} {call : Event sub.Calls},
        trace = before ++ leftEvent call :: after →
          ∃ state, (step.left (J := Console)).follow start before = some state ∧
            Sends block (permitted (dialogue before)) state call := by
  obtain ⟨⟨final, talked⟩, hfollow, hleft⟩ := (hkeeps.safe_mainOn hruns).of_run hrun
  obtain ⟨hcalls, rfl⟩ := follow_left_of_withTalk hfollow
  refine ⟨final, hcalls, hleft, fun htrace ↦ ?_⟩
  rw [htrace] at hfollow
  exact sends_of_withTalk hfollow

/-- The same without regard to the dialogue, when every command fits. -/
theorem Subsystem.Keeps.of_run_of_fits
    (hkeeps : sub.Keeps step block (fun _ ↦ True) start opened stopped finished) {fuel : ℕ}
    {stack : MainStack} {name : List UInt8} {args : List (List UInt8)}
    {trace : List (Event (sub.Calls.sum Console))} {result : Except Abort (Except Halt Int32)}
    (hrun : Run (mainOn sub world fuel stack name args) trace result) :
    ∃ final, (step.left (J := Console)).follow start trace = some final ∧
      leftOver world fuel stack name args opened stopped finished result
        (final, dialogue trace) := by
  let permitted (_ : List (Event Tool)) (_ : CmdRequest) : Prop := True
  have hruns {error : Option ErrMsg} {events : List (Event Tool)} {outcome : Except Halt Int32}
      (_ : Run (main (opensAs world error) fuel stack name args) events outcome)
      {before : List (Event Tool)} {sent : Event Scsi} {after : List (Event Tool)}
      (_ : events = before ++ sendEvent sent :: after) :
      permitted (talk before) sent.request ∧ True := ⟨trivial, trivial⟩
  obtain ⟨final, hfollow, hleft, -⟩ := hkeeps.of_run hruns hrun
  exact ⟨final, hfollow, hleft⟩

end Keeps

end U3Tool
