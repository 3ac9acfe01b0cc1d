import U3Tool.Interaction.Execution

/-!
# Protocols of interaction programs

A protocol says which requests are allowed, and when: it is an automaton that the events of a trace
move, and that gets stuck at an event out of order (`Protocol`, `follow`). `Safe step p post state`
is the weakest precondition of a program for a protocol: whatever its surroundings reply, the
program never gets the automaton stuck, and leaves it where `post` says. It is defined along the
syntax of the program, and says so of every run (`Safe.of_run`); the rules of sequencing, of
changing the error and of carrying out one interface over another (`safe_bind`, `safe_mapError`,
`Safe.interp`) take a program apart.

Two interfaces side by side are their sum; a program over one of them is one over both
(`Program.left`, `Program.right`). A protocol of the left interface lets the right one do what it
likes (`Protocol.left`).
-/

set_option autoImplicit false
set_option relaxedAutoImplicit false

namespace Interaction

/-- How an event moves the state of a protocol; an event that is not allowed has no next state. -/
abbrev Protocol (I : Interface) (S : Type) := S → Event I → Option S

/-- The state after a trace, when every event of it is allowed. -/
def Protocol.follow {I : Interface} {S : Type} (step : Protocol I S) : S → List (Event I) → Option S
  | state, [] => some state
  | state, event :: rest => (step state event).bind fun next ↦ step.follow next rest

theorem Protocol.follow_append {I : Interface} {S : Type} (step : Protocol I S) (state : S)
    (first second : List (Event I)) : step.follow state (first ++ second) =
      (step.follow state first).bind fun next ↦ step.follow next second := by
  induction first generalizing state with
  | nil => rfl
  | cons event rest ih =>
    rw [List.cons_append, follow, follow, Option.bind_assoc]
    exact congrArg _ (funext ih)

/-- The protocol without the events that are not permitted. -/
noncomputable def Protocol.gated {I : Interface} {S : Type} (step : Protocol I S)
    (may : S → Event I → Prop) : Protocol I S :=
  fun state event ↦ open Classical in if may state event then step state event else none

theorem Protocol.gated_eq {I : Interface} {S : Type} (step : Protocol I S)
    {may : S → Event I → Prop} (hmay : ∀ state event, may state event) : step.gated may = step :=
  funext fun state ↦ funext fun event ↦ if_pos (hmay state event)

/-- A condition on values and one on errors, as a condition on results. -/
def settled {ε α S : Type} (value : α → S → Prop) (error : ε → S → Prop) :
    Except ε α → S → Prop
  | .ok result, state => value result state
  | .error stop, state => error stop state

namespace Program

variable {I J : Interface} {ε δ α β S : Type} {step : Protocol I S}

/-- A program has a run. -/
theorem exists_run (hreply : ∀ request : I.Request, Nonempty (I.Reply request))
    (p : Program I ε α) : ∃ trace result, Run p trace result := by
  induction p with
  | done value => exact ⟨[], _, .done value⟩
  | fail error => exact ⟨[], _, .fail error⟩
  | ask request next ih =>
    obtain ⟨reply⟩ := hreply request
    obtain ⟨trace, result, hrun⟩ := ih reply
    exact ⟨⟨request, reply⟩ :: trace, result, .ask hrun⟩

/-- Whatever is replied, the program keeps the protocol and ends as stated. -/
def Safe (step : Protocol I S) : Program I ε α → (Except ε α → S → Prop) → S → Prop
  | .done value, post, state => post (.ok value) state
  | .fail error, post, state => post (.error error) state
  | .ask request next, post, state =>
    ∀ reply, ∃ after, step state ⟨request, reply⟩ = some after ∧ Safe step (next reply) post after

@[simp] theorem safe_done {value : α} {post : Except ε α → S → Prop} {state : S} :
    Safe step (.done value) post state ↔ post (.ok value) state := Iff.rfl

@[simp] theorem safe_fail {error : ε} {post : Except ε α → S → Prop} {state : S} :
    Safe step (.fail error) post state ↔ post (.error error) state := Iff.rfl

theorem safe_ask {request : I.Request} {next : I.Reply request → Program I ε α}
    {post : Except ε α → S → Prop} {state : S} :
    Safe step (.ask request next) post state ↔
      ∀ reply, ∃ after, step state ⟨request, reply⟩ = some after ∧
        Safe step (next reply) post after := Iff.rfl

/-- What a program that keeps a protocol does in every run. -/
theorem Safe.of_run {p : Program I ε α} {post : Except ε α → S → Prop} {state : S}
    (hsafe : Safe step p post state) {trace : List (Event I)} {result : Except ε α}
    (hrun : Run p trace result) :
    ∃ final, step.follow state trace = some final ∧ post result final := by
  induction hrun generalizing state with
  | done value => exact ⟨state, rfl, hsafe⟩
  | fail error => exact ⟨state, rfl, hsafe⟩
  | @ask request next reply rest result _ ih =>
    obtain ⟨after, hstep, hnext⟩ := hsafe reply
    obtain ⟨final, hfollow, hpost⟩ := ih hnext
    exact ⟨final, by rw [Protocol.follow, hstep]; exact hfollow, hpost⟩

/-- A weaker statement about the end. -/
theorem Safe.mono {p : Program I ε α} {post weaker : Except ε α → S → Prop} {state : S}
    (hsafe : Safe step p post state)
    (hweaker : ∀ result final, post result final → weaker result final) :
    Safe step p weaker state := by
  induction p generalizing state with
  | done value => exact hweaker _ _ hsafe
  | fail error => exact hweaker _ _ hsafe
  | ask request next ih =>
    intro reply
    obtain ⟨after, hstep, hnext⟩ := hsafe reply
    exact ⟨after, hstep, ih reply hnext⟩

/-- A protocol that is in step with another one is kept along with it. -/
theorem Safe.simulate {T : Type} {other : Protocol I T} {related : S → T → Prop}
    (hstep : ∀ {state now event after}, related state now → step state event = some after →
      ∃ next, other now event = some next ∧ related after next)
    {p : Program I ε α} {post : Except ε α → S → Prop} {state : S} {now : T}
    (hsafe : Safe step p post state) (hrelated : related state now) :
    Safe other p (fun result next ↦ ∃ final, post result final ∧ related final next) now := by
  induction p generalizing state now with
  | done value => exact ⟨state, hsafe, hrelated⟩
  | fail error => exact ⟨state, hsafe, hrelated⟩
  | ask request next ih =>
    intro reply
    obtain ⟨after, hafter, hnext⟩ := hsafe reply
    obtain ⟨later, hlater, hrelated⟩ := hstep hrelated hafter
    exact ⟨later, hlater, ih reply hnext hrelated⟩

/-- A program that asks requests of one kind keeps a protocol without the others. -/
theorem Safe.gated_of_asks (hreply : ∀ request : I.Request, Nonempty (I.Reply request))
    {kind : I.Request → Prop} {p : Program I ε α} {post : Except ε α → S → Prop} {state : S}
    (hsafe : Safe step p post state) (hasks : Asks kind p) :
    Safe (step.gated fun _ event ↦ kind event.request) p post state := by
  induction p generalizing state with
  | done value => exact hsafe
  | fail error => exact hsafe
  | ask request next ih =>
    intro reply
    obtain ⟨trace, result, hrun⟩ := exists_run hreply (next reply)
    have hkind : kind request := hasks.of_run (.ask hrun) _ (List.mem_cons_self ..)
    obtain ⟨after, hstep, hnext⟩ := hsafe reply
    refine ⟨after, (if_pos hkind).trans hstep, ih reply hnext ⟨fun hrun event hevent ↦ ?_⟩⟩
    exact hasks.of_run (.ask hrun) event (List.mem_cons_of_mem _ hevent)

/-- A sequence: what holds where the first program returns lets the continuation go on. -/
theorem safe_bind {p : Program I ε α} {continuation : α → Program I ε β}
    {post : Except ε β → S → Prop} {state : S} :
    Safe step (p >>= continuation) post state ↔
      Safe step p (settled (fun value ↦ Safe step (continuation value) post)
        fun error ↦ post (.error error)) state := by
  induction p generalizing state with
  | done value => exact Iff.rfl
  | fail error => exact Iff.rfl
  | ask request next ih =>
    rw [ask_bind, safe_ask, safe_ask]
    exact forall_congr' fun reply ↦ exists_congr fun after ↦ and_congr_right fun _ ↦ ih reply

/-- A sequence, from a statement about its first program. -/
theorem Safe.bind {p : Program I ε α} {continuation : α → Program I ε β}
    {value : α → S → Prop} {error : ε → S → Prop} {post : Except ε β → S → Prop} {state : S}
    (hp : Safe step p (settled value error) state)
    (hvalue : ∀ result after, value result after → Safe step (continuation result) post after)
    (herror : ∀ stop after, error stop after → post (.error stop) after) :
    Safe step (p >>= continuation) post state := by
  refine safe_bind.mpr (hp.mono fun result final hfinal ↦ ?_)
  cases result with
  | ok result => exact hvalue result final hfinal
  | error stop => exact herror stop final hfinal

/-- A program whose error is changed. -/
theorem safe_mapError {f : ε → δ} {p : Program I ε α} {post : Except δ α → S → Prop} {state : S} :
    Safe step (p.mapError f) post state ↔
      Safe step p (fun result ↦ post (result.mapError f)) state := by
  induction p generalizing state with
  | done value => exact Iff.rfl
  | fail error => exact Iff.rfl
  | ask request next ih =>
    rw [mapError, safe_ask, safe_ask]
    exact forall_congr' fun reply ↦ exists_congr fun after ↦ and_congr_right fun _ ↦ ih reply

/-- Carrying out a program over another interface: a protocol the program keeps above, in step with
one that the handlers keep below. -/
theorem Safe.interp {T : Type} {above : Protocol I T} {below : Protocol J S}
    {handler : (request : I.Request) → Program J δ (I.Reply request)} {related : T → S → Prop}
    {stopped : δ → S → Prop}
    (hhandler : ∀ request up down, related up down →
      (∀ reply, ∃ after, above up ⟨request, reply⟩ = some after) →
      Safe below (handler request) (settled (fun reply final ↦
        ∃ after, above up ⟨request, reply⟩ = some after ∧ related after final) stopped) down)
    {p : Program I ε α} {post : Except ε α → T → Prop} {up : T} {down : S}
    (hp : Safe above p post up) (hrelated : related up down) :
    Safe below (p.interp handler) (settled (fun outcome final ↦
      ∃ after, post outcome after ∧ related after final) stopped) down := by
  induction p generalizing up down with
  | done value => exact ⟨up, hp, hrelated⟩
  | fail error => exact ⟨up, hp, hrelated⟩
  | ask request next ih =>
    refine Safe.bind (hhandler request up down hrelated fun reply ↦ ?_)
      (fun reply final hfinal ↦ ?_) fun stop final hfinal ↦ hfinal
    · obtain ⟨after, hstep, -⟩ := hp reply
      exact ⟨after, hstep⟩
    · obtain ⟨after, hstep, hafter⟩ := hfinal
      obtain ⟨other, hother, hnext⟩ := hp reply
      obtain rfl := Option.some.inj (hstep.symm.trans hother)
      exact ih reply hnext hafter

/-- The protocol without rules. -/
def anything : Protocol I Unit := fun _ _ ↦ some ()

/-- From a state that no event leaves, a program does what it likes. -/
theorem safe_of_absorbing {post : Except ε α → S → Prop} {state : S}
    (hstep : ∀ event, step state event = some state) (hpost : ∀ result, post result state)
    (p : Program I ε α) : Safe step p post state := by
  induction p with
  | done value => exact hpost _
  | fail error => exact hpost _
  | ask request next ih => exact fun reply ↦ ⟨state, hstep _, ih reply⟩

theorem safe_anything (p : Program I ε α) : Safe anything p (fun _ _ ↦ True) () :=
  safe_of_absorbing (fun _ ↦ rfl) (fun _ ↦ trivial) p

/-- The protocol of a condition on every event and the events before it; its state is the trace so
far. -/
noncomputable def onHistory (may : List (Event I) → Event I → Prop) : Protocol I (List (Event I)) :=
  fun past event ↦ open Classical in if may past event then some (past ++ [event]) else none

theorem onHistory_eq_some {may : List (Event I) → Event I → Prop} {past after : List (Event I)}
    {event : Event I} :
    onHistory may past event = some after ↔ may past event ∧ past ++ [event] = after := by
  unfold onHistory
  split_ifs with hmay <;> simp [hmay]

/-- What holds at every event of every run is kept along the program. -/
theorem safe_onHistory (hreply : ∀ request : I.Request, Nonempty (I.Reply request))
    {may : List (Event I) → Event I → Prop} {p : Program I ε α} {past : List (Event I)}
    (hruns : ∀ {trace result}, Run p trace result → ∀ {before event after},
      trace = before ++ event :: after → may (past ++ before) event) :
    Safe (onHistory may) p (fun result final ↦ ∃ trace, final = past ++ trace ∧
      Run p trace result) past := by
  induction p generalizing past with
  | done value => exact ⟨[], (List.append_nil past).symm, .done value⟩
  | fail error => exact ⟨[], (List.append_nil past).symm, .fail error⟩
  | ask request next ih =>
    intro reply
    obtain ⟨trace, result, hrun⟩ := exists_run hreply (next reply)
    have hmay : may past ⟨request, reply⟩ := by
      simpa using hruns (.ask hrun) (List.nil_append _).symm
    refine ⟨_, onHistory_eq_some.mpr ⟨hmay, rfl⟩,
      (ih reply fun hrun before event after htrace ↦ ?_).mono ?_⟩
    · rw [List.append_assoc]
      exact hruns (.ask hrun) (congrArg (⟨request, reply⟩ :: ·) htrace)
    · rintro result final ⟨rest, rfl, hrest⟩
      exact ⟨⟨request, reply⟩ :: rest, by simp, .ask hrest⟩

/-- A program whose errors are values. -/
def attempt : Program I ε α → Program I δ (Except ε α)
  | .done value => .done (.ok value)
  | .fail error => .done (.error error)
  | .ask request next => .ask request fun reply ↦ (next reply).attempt

/-- The runs of a program whose errors are values. -/
theorem run_attempt {p : Program I ε α} {trace : List (Event I)}
    {result : Except δ (Except ε α)} :
    Run (p.attempt : Program I δ (Except ε α)) trace result ↔
      ∃ outcome, result = .ok outcome ∧ Run p trace outcome := by
  induction p generalizing trace with
  | done value => simp [attempt, and_comm]
  | fail error => simp [attempt, and_comm]
  | ask request next ih =>
    simp only [attempt, run_ask, ih]
    constructor
    · rintro ⟨reply, rest, rfl, outcome, rfl, hrest⟩
      exact ⟨outcome, rfl, reply, rest, rfl, hrest⟩
    · rintro ⟨outcome, rfl, reply, rest, rfl, hrest⟩
      exact ⟨reply, rest, rfl, outcome, rfl, hrest⟩

/-- A program whose errors are values asks what it asks. -/
theorem asks_attempt {kind : I.Request → Prop} {p : Program I ε α} (hp : Asks kind p) :
    Asks kind (p.attempt : Program I δ (Except ε α)) where
  of_run hrun := by
    obtain ⟨outcome, -, houtcome⟩ := run_attempt.mp hrun
    exact hp.of_run houtcome

/-- A program whose errors are values keeps what it keeps. -/
theorem safe_attempt {p : Program I ε α} {post : Except δ (Except ε α) → S → Prop} {state : S} :
    Safe step p.attempt post state ↔ Safe step p (fun result ↦ post (.ok result)) state := by
  induction p generalizing state with
  | done value => exact Iff.rfl
  | fail error => exact Iff.rfl
  | ask request next ih =>
    exact forall_congr' fun reply ↦ exists_congr fun after ↦ and_congr_right fun _ ↦ ih reply

end Program

/-! ### Two interfaces side by side -/

/-- The requests of two interfaces. -/
inductive SumRequest (I J : Interface)
  | left (request : I.Request)
  | right (request : J.Request)

/-- The replies to them. -/
@[reducible] def SumRequest.Reply {I J : Interface} : SumRequest I J → Type
  | .left request => I.Reply request
  | .right request => J.Reply request

/-- Two interfaces side by side. -/
@[reducible] def Interface.sum (I J : Interface) : Interface where
  Request := SumRequest I J
  Reply := SumRequest.Reply

/-- A protocol of the left interface; the right one may do what it likes. -/
def Protocol.left {I J : Interface} {S : Type} (step : Protocol I S) : Protocol (I.sum J) S
  | state, ⟨.left request, reply⟩ => step state ⟨request, reply⟩
  | state, ⟨.right _, _⟩ => some state

/-- What a protocol of two interfaces says about the left one. -/
def Protocol.onLeft {I J : Interface} {S : Type} (step : Protocol (I.sum J) S) : Protocol I S :=
  fun state event ↦ step state ⟨.left event.request, event.reply⟩

/-- What a protocol of two interfaces says about the right one. -/
def Protocol.onRight {I J : Interface} {S : Type} (step : Protocol (I.sum J) S) : Protocol J S :=
  fun state event ↦ step state ⟨.right event.request, event.reply⟩

namespace Program

variable {I J : Interface} {ε δ α β S : Type}

/-- A program over the left of two interfaces. -/
def left : Program I ε α → Program (I.sum J) ε α
  | .done value => .done value
  | .fail error => .fail error
  | .ask request next => .ask (.left request) fun reply ↦ (next reply).left

/-- A program over the right of two interfaces. -/
def right : Program J ε α → Program (I.sum J) ε α
  | .done value => .done value
  | .fail error => .fail error
  | .ask request next => .ask (.right request) fun reply ↦ (next reply).right

/-- An event of the left interface as one of both. -/
def leftEvent (event : Event I) : Event (I.sum J) := ⟨.left event.request, event.reply⟩

theorem leftEvent_injective :
    Function.Injective (leftEvent : Event I → Event (I.sum J)) := by
  rintro ⟨request, reply⟩ ⟨request', reply'⟩ heq
  simp only [leftEvent, Event.mk.injEq, SumRequest.left.injEq] at heq
  obtain ⟨rfl, hreply⟩ := heq
  rw [eq_of_heq hreply]

/-- The runs of a program over the left interface. -/
theorem run_left {p : Program I ε α} {trace : List (Event (I.sum J))} {result : Except ε α} :
    Run (p.left (J := J)) trace result ↔
      ∃ events : List (Event I), trace = events.map leftEvent ∧ Run p events result := by
  induction p generalizing trace with
  | done value => simp [left, and_left_comm]
  | fail error => simp [left, and_left_comm]
  | ask request next ih =>
    simp only [left, run_ask, ih]
    constructor
    · rintro ⟨reply, _, rfl, events, rfl, hrest⟩
      exact ⟨⟨request, reply⟩ :: events, rfl, reply, events, rfl, hrest⟩
    · rintro ⟨_, rfl, reply, events, rfl, hrest⟩
      exact ⟨reply, events.map leftEvent, rfl, events, rfl, hrest⟩

/-- A program over the left interface keeps what a protocol says about it. -/
theorem safe_left {step : Protocol (I.sum J) S} {p : Program I ε α}
    {post : Except ε α → S → Prop} {state : S} :
    Safe step p.left post state ↔ Safe step.onLeft p post state := by
  induction p generalizing state with
  | done value => exact Iff.rfl
  | fail error => exact Iff.rfl
  | ask request next ih =>
    exact forall_congr' fun reply ↦ exists_congr fun after ↦ and_congr_right fun _ ↦ ih reply

/-- A program over the right interface keeps what a protocol says about it. -/
theorem safe_right {step : Protocol (I.sum J) S} {p : Program J ε α}
    {post : Except ε α → S → Prop} {state : S} :
    Safe step p.right post state ↔ Safe step.onRight p post state := by
  induction p generalizing state with
  | done value => exact Iff.rfl
  | fail error => exact Iff.rfl
  | ask request next ih =>
    exact forall_congr' fun reply ↦ exists_congr fun after ↦ and_congr_right fun _ ↦ ih reply

/-- Returns or stops as a result says. -/
def ofExcept : Except ε α → Program I ε α
  | .ok value => .done value
  | .error error => .fail error

/-- Carries out every request by a program over another interface; an error of either ends the
whole. -/
def handledBy (handler : (request : I.Request) → Program J ε (I.Reply request))
    (p : Program I ε α) : Program J ε α :=
  p.interp handler >>= ofExcept

/-- Carrying out a sequence over another interface. -/
theorem handledBy_bind (handler : (request : I.Request) → Program J ε (I.Reply request))
    (p : Program I ε α) (continuation : α → Program I ε β) :
    (p >>= continuation).handledBy handler = p.handledBy handler >>= fun value ↦
      (continuation value).handledBy handler := by
  rw [handledBy, handledBy, interp_bind, bind_assoc', bind_assoc']
  refine congrArg _ (funext fun outcome ↦ ?_)
  cases outcome <;> rfl

/-- Carrying out a program over another interface: a protocol the program keeps above, in step with
one that the handlers keep below. -/
theorem Safe.handledBy {T : Type} {above : Protocol I T} {below : Protocol J S}
    {handler : (request : I.Request) → Program J ε (I.Reply request)} {related : T → S → Prop}
    (hhandler : ∀ request up down, related up down →
      (∀ reply, ∃ after, above up ⟨request, reply⟩ = some after) →
      Safe below (handler request) (settled (fun reply final ↦
        ∃ after, above up ⟨request, reply⟩ = some after ∧ related after final)
          fun _ _ ↦ False) down)
    {p : Program I ε α} {post : Except ε α → T → Prop} {up : T} {down : S}
    (hp : Safe above p post up) (hrelated : related up down) :
    Safe below (p.handledBy handler) (fun result final ↦
      ∃ after, post result after ∧ related after final) down := by
  refine Safe.bind (Safe.interp hhandler hp hrelated) (fun outcome final hfinal ↦ ?_)
    fun stop final hfinal ↦ hfinal.elim
  cases outcome <;> exact hfinal

end Program

end Interaction
