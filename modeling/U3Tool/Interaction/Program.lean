import Mathlib.Tactic

/-!
# Interaction programs

A program that talks to its surroundings is a tree: it returns, it stops with an error, or it
issues a request and continues with whatever the surroundings reply (`Program`). Nothing is said
about the replies, so a statement about every run of a program is a statement about every
behaviour of the surroundings. The tree is inductive, hence every run of a program is finite; a
loop of the source without a bound of its own is modelled by its unrollings up to a supply of
fuel, and running out of fuel is one of the errors.

`Run p trace result` says that `p`, receiving the replies recorded in `trace`, issues exactly the
requests recorded there and ends with `result`. The inversion rules `run_done`, `run_fail`,
`run_ask` and `run_bind` take a run apart along the syntax of the program. `mapError` changes the
error of a program, as a caller does that tests a return code and fails in turn.
-/

set_option autoImplicit false
set_option relaxedAutoImplicit false

namespace Interaction

/-- The requests a program may issue, and the type of the replies to each. -/
structure Interface where
  Request : Type
  Reply : Request → Type

/-- A request together with the reply it received. -/
structure Event (I : Interface) where
  request : I.Request
  reply : I.Reply request

/-- A program over an interface: it returns a value, stops with an error, or issues a request and
continues with the reply. -/
inductive Program (I : Interface) (ε α : Type)
  | done (value : α)
  | fail (error : ε)
  | ask (request : I.Request) (next : I.Reply request → Program I ε α)

namespace Program

variable {I J : Interface} {ε δ α β : Type}

/-! ### Sequencing -/

/-- Runs the first program and passes its value on; an error ends the whole. -/
def bind : Program I ε α → (α → Program I ε β) → Program I ε β
  | .done value, continuation => continuation value
  | .fail error, _ => .fail error
  | .ask request next, continuation => .ask request fun reply ↦ (next reply).bind continuation

instance : Monad (Program I ε) where
  pure := .done
  bind := bind

/-- Issues one request and returns its reply. -/
def perform (request : I.Request) : Program I ε (I.Reply request) :=
  .ask request .done

/-- Runs a program and changes the error it stops with. -/
def mapError (f : ε → δ) : Program I ε α → Program I δ α
  | .done value => .done value
  | .fail error => .fail (f error)
  | .ask request next => .ask request fun reply ↦ (next reply).mapError f

@[simp] theorem pure_eq_done (value : α) : (pure value : Program I ε α) = .done value := rfl

@[simp] theorem done_bind (value : α) (continuation : α → Program I ε β) :
    (.done value : Program I ε α) >>= continuation = continuation value := rfl

@[simp] theorem fail_bind (error : ε) (continuation : α → Program I ε β) :
    (.fail error : Program I ε α) >>= continuation = .fail error := rfl

@[simp] theorem ask_bind (request : I.Request) (next : I.Reply request → Program I ε α)
    (continuation : α → Program I ε β) :
    (.ask request next : Program I ε α) >>= continuation =
      .ask request fun reply ↦ next reply >>= continuation := rfl

/-- Sequencing is associative. -/
theorem bind_assoc' {γ : Type} (p : Program I ε α) (f : α → Program I ε β)
    (g : β → Program I ε γ) : p >>= f >>= g = p >>= fun value ↦ f value >>= g := by
  induction p with
  | done value => rfl
  | fail error => rfl
  | ask request next ih => exact congrArg (Program.ask request) (funext ih)

/-- Returning the value of a program changes nothing. -/
theorem bind_done (p : Program I ε α) : (p >>= fun value ↦ .done value) = p := by
  induction p with
  | done value => rfl
  | fail error => rfl
  | ask request next ih => exact congrArg (Program.ask request) (funext ih)

/-- Changing the error of a sequence. -/
theorem mapError_bind (f : ε → δ) (p : Program I ε α) (continuation : α → Program I ε β) :
    (p >>= continuation).mapError f = p.mapError f >>= fun value ↦
      (continuation value).mapError f := by
  induction p with
  | done value => rfl
  | fail error => rfl
  | ask request next ih => exact congrArg (Program.ask request) (funext ih)

/-- Changing the error twice. -/
theorem mapError_mapError {γ : Type} (f : ε → δ) (g : δ → γ) (p : Program I ε α) :
    (p.mapError f).mapError g = p.mapError (g ∘ f) := by
  induction p with
  | done value => rfl
  | fail error => rfl
  | ask request next ih => exact congrArg (Program.ask request) (funext ih)

/-! ### Runs -/

/-- `Run p trace result`: receiving the replies recorded in `trace`, the program issues exactly the
requests recorded there and ends with `result`. -/
inductive Run : Program I ε α → List (Event I) → Except ε α → Prop
  | done (value : α) : Run (.done value) [] (.ok value)
  | fail (error : ε) : Run (.fail error) [] (.error error)
  | ask {request : I.Request} {next : I.Reply request → Program I ε α}
      {reply : I.Reply request} {trace : List (Event I)} {result : Except ε α}
      (rest : Run (next reply) trace result) :
      Run (.ask request next) (⟨request, reply⟩ :: trace) result

@[simp] theorem run_done {value : α} {trace : List (Event I)} {result : Except ε α} :
    Run (.done value : Program I ε α) trace result ↔ trace = [] ∧ result = .ok value := by
  constructor
  · rintro ⟨⟩
    exact ⟨rfl, rfl⟩
  · rintro ⟨rfl, rfl⟩
    exact .done value

@[simp] theorem run_fail {error : ε} {trace : List (Event I)} {result : Except ε α} :
    Run (.fail error : Program I ε α) trace result ↔ trace = [] ∧ result = .error error := by
  constructor
  · rintro ⟨⟩
    exact ⟨rfl, rfl⟩
  · rintro ⟨rfl, rfl⟩
    exact .fail error

@[simp] theorem run_ask {request : I.Request} {next : I.Reply request → Program I ε α}
    {trace : List (Event I)} {result : Except ε α} :
    Run (.ask request next) trace result ↔
      ∃ reply rest, trace = ⟨request, reply⟩ :: rest ∧ Run (next reply) rest result := by
  constructor
  · rintro (_ | _ | hrest)
    exact ⟨_, _, rfl, hrest⟩
  · rintro ⟨reply, rest, rfl, hrest⟩
    exact .ask hrest

/-- A run of a sequence is a run of the first program that stops with an error, or a returning run
of the first program followed by a run of the continuation. -/
theorem run_bind {p : Program I ε α} {continuation : α → Program I ε β}
    {trace : List (Event I)} {result : Except ε β} :
    Run (p >>= continuation) trace result ↔
      (∃ error, result = .error error ∧ Run p trace (.error error)) ∨
        ∃ first value rest, trace = first ++ rest ∧ Run p first (.ok value) ∧
          Run (continuation value) rest result := by
  induction p generalizing trace with
  | done value => simp
  | fail error => simp [and_comm]
  | ask request next ih =>
    simp only [ask_bind, run_ask]
    constructor
    · rintro ⟨reply, rest, rfl, hrest⟩
      rcases (ih reply).mp hrest with
        ⟨error, rfl, herror⟩ | ⟨first, value, last, rfl, hfirst, hlast⟩
      · exact Or.inl ⟨error, rfl, reply, rest, rfl, herror⟩
      · exact Or.inr ⟨⟨request, reply⟩ :: first, value, last, rfl,
          ⟨reply, first, rfl, hfirst⟩, hlast⟩
    · rintro (⟨error, rfl, reply, rest, rfl, herror⟩ |
        ⟨_, value, last, rfl, ⟨reply, first, rfl, hfirst⟩, hlast⟩)
      · exact ⟨reply, rest, rfl, (ih reply).mpr (Or.inl ⟨error, rfl, herror⟩)⟩
      · exact ⟨reply, first ++ last, rfl,
          (ih reply).mpr (Or.inr ⟨first, value, last, rfl, hfirst, hlast⟩)⟩

/-- A sequence returns exactly when both of its parts do. -/
theorem run_bind_ok {p : Program I ε α} {continuation : α → Program I ε β}
    {trace : List (Event I)} {value : β} :
    Run (p >>= continuation) trace (.ok value) ↔
      ∃ first middle rest, trace = first ++ rest ∧ Run p first (.ok middle) ∧
        Run (continuation middle) rest (.ok value) := by
  simp [run_bind]

/-- A returning run of the first program followed by a run of the continuation is a run of the
sequence. -/
theorem Run.bind {p : Program I ε α} {continuation : α → Program I ε β} {value : α}
    {first rest : List (Event I)} {result : Except ε β} (hfirst : Run p first (.ok value))
    (hrest : Run (continuation value) rest result) :
    Run (p >>= continuation) (first ++ rest) result :=
  run_bind.mpr (Or.inr ⟨first, value, rest, rfl, hfirst, hrest⟩)

/-- A program whose value is changed runs as it does without the change. -/
theorem run_bind_done {f : α → β} {p : Program I ε α} {trace : List (Event I)}
    {result : Except ε β} :
    Run (p >>= fun value ↦ .done (f value)) trace result ↔
      ∃ outcome : Except ε α, result = outcome.map f ∧ Run p trace outcome := by
  induction p generalizing trace with
  | done value => simp [Except.map, and_comm]
  | fail error => simp [Except.map, and_comm]
  | ask request next ih =>
    simp only [ask_bind, run_ask, ih]
    constructor
    · rintro ⟨reply, rest, rfl, outcome, rfl, hrest⟩
      exact ⟨outcome, rfl, reply, rest, rfl, hrest⟩
    · rintro ⟨outcome, rfl, reply, rest, rfl, hrest⟩
      exact ⟨reply, rest, rfl, outcome, rfl, hrest⟩

/-- Every request of the program, whatever it is replied, is of a kind. -/
structure Asks (kind : I.Request → Prop) (p : Program I ε α) : Prop where
  of_run : ∀ {trace : List (Event I)} {result : Except ε α}, Run p trace result →
    ∀ event ∈ trace, kind event.request

namespace Asks

variable {kind : I.Request → Prop}

theorem done (value : α) : Asks kind (.done value : Program I ε α) where
  of_run hrun := by simp [(run_done.mp hrun).1]

theorem fail (error : ε) : Asks kind (.fail error : Program I ε α) where
  of_run hrun := by simp [(run_fail.mp hrun).1]

theorem ask {request : I.Request} {next : I.Reply request → Program I ε α}
    (hrequest : kind request) (hnext : ∀ reply, Asks kind (next reply)) :
    Asks kind (.ask request next) where
  of_run hrun := by
    obtain ⟨reply, rest, rfl, hrest⟩ := run_ask.mp hrun
    exact List.forall_mem_cons.mpr ⟨hrequest, (hnext reply).of_run hrest⟩

/-- One request of a kind. -/
theorem perform {request : I.Request} (hrequest : kind request) :
    Asks kind (Program.perform request : Program I ε (I.Reply request)) :=
  .ask hrequest .done

/-- A kind that all requests are of. -/
theorem of_forall {p : Program I ε α} (hkind : ∀ request, kind request) : Asks kind p where
  of_run _ event _ := hkind event.request

/-- Requests of a kind are requests of any wider kind. -/
theorem mono {wider : I.Request → Prop} {p : Program I ε α} (hp : Asks kind p)
    (hwider : ∀ request, kind request → wider request) : Asks wider p where
  of_run hrun event hevent := hwider _ (hp.of_run hrun event hevent)

/-- A sequence of programs that ask requests of a kind asks requests of that kind. -/
theorem bind {p : Program I ε α} {continuation : α → Program I ε β} (hp : Asks kind p)
    (hcontinuation : ∀ value, Asks kind (continuation value)) :
    Asks kind (p >>= continuation) where
  of_run hrun := by
    rcases run_bind.mp hrun with ⟨error, -, herror⟩ | ⟨first, value, rest, rfl, hfirst, hrest⟩
    · exact hp.of_run herror
    · exact List.forall_mem_append.mpr ⟨hp.of_run hfirst, (hcontinuation value).of_run hrest⟩

end Asks

/-- The replies determine a run: two runs of a program whose traces begin one sequence of events
have the same trace and the same result. -/
theorem Run.unique {p : Program I ε α} {first second firstRest secondRest : List (Event I)}
    {result result' : Except ε α} (hfirst : Run p first result) (hsecond : Run p second result')
    (htraces : first ++ firstRest = second ++ secondRest) : first = second ∧ result = result' := by
  induction hfirst generalizing second with
  | done value =>
    obtain ⟨rfl, rfl⟩ := run_done.mp hsecond
    exact ⟨rfl, rfl⟩
  | fail error =>
    obtain ⟨rfl, rfl⟩ := run_fail.mp hsecond
    exact ⟨rfl, rfl⟩
  | ask hrest ih =>
    obtain ⟨reply, rest, rfl, hsecondRest⟩ := run_ask.mp hsecond
    obtain ⟨hevent, hrests⟩ := List.cons.inj htraces
    obtain rfl := eq_of_heq (Event.mk.inj hevent).2
    obtain ⟨rfl, rfl⟩ := ih hsecondRest hrests
    exact ⟨rfl, rfl⟩

/-- A changed error changes nothing else about a run. -/
theorem run_mapError {f : ε → δ} {p : Program I ε α} {trace : List (Event I)}
    {result : Except δ α} :
    Run (p.mapError f) trace result ↔
      ∃ outcome : Except ε α, result = outcome.mapError f ∧ Run p trace outcome := by
  induction p generalizing trace with
  | done value => simp [mapError, Except.mapError, and_comm]
  | fail error => simp [mapError, Except.mapError, and_comm]
  | ask request next ih =>
    simp only [mapError, run_ask, ih]
    constructor
    · rintro ⟨reply, rest, rfl, outcome, rfl, hrest⟩
      exact ⟨outcome, rfl, reply, rest, rfl, hrest⟩
    · rintro ⟨outcome, rfl, reply, rest, rfl, hrest⟩
      exact ⟨reply, rest, rfl, outcome, rfl, hrest⟩

/-- A program whose error is changed returns as it does without the change. -/
@[simp] theorem run_mapError_ok {f : ε → δ} {p : Program I ε α} {trace : List (Event I)}
    {value : α} : Run (p.mapError f) trace (.ok value) ↔ Run p trace (.ok value) := by
  rw [run_mapError]
  constructor
  · rintro ⟨outcome, hvalue, hrun⟩
    cases outcome with
    | error error => exact absurd hvalue (by simp [Except.mapError])
    | ok other => rwa [Except.ok.inj hvalue]
  · exact fun hrun ↦ ⟨.ok value, rfl, hrun⟩

end Program

end Interaction
