import U3Tool.Interaction.Program

/-!
# Executing interaction programs

Surroundings that keep a state answer every request and move to a new state (`Surroundings`).
`exec` runs a program against them and records the result, the trace and the final state. Every
execution is a run (`run_exec`), so what holds of all runs holds against all surroundings;
`exec_bind_ok` and `exec_bind_error` execute a sequence piece by piece.

`interp` carries out the requests of one interface by programs over another, along the syntax of the
program (`interp_bind`, `interp_mapError`). A completed run of the composite is a run of the upper
program whose events are implemented, one after the other, by consecutive runs of the handler
(`Implements`, `run_interp_ok`).
-/

set_option autoImplicit false
set_option relaxedAutoImplicit false

namespace Interaction

/-- Surroundings with a state: the reply to a request in a state, and the state after it. -/
abbrev Surroundings (I : Interface) (σ : Type) :=
  σ → (request : I.Request) → I.Reply request × σ

/-- What an execution leaves behind. -/
structure Execution (I : Interface) (ε α σ : Type) where
  result : Except ε α
  trace : List (Event I)
  final : σ

namespace Program

variable {I J : Interface} {ε δ α β σ : Type}

/-! ### Executions -/

/-- Executes a program against surroundings with a state. -/
def exec (env : Surroundings I σ) : Program I ε α → σ → Execution I ε α σ
  | .done value, state => ⟨.ok value, [], state⟩
  | .fail error, state => ⟨.error error, [], state⟩
  | .ask request next, state =>
    let answer := env state request
    let rest := exec env (next answer.1) answer.2
    ⟨rest.result, ⟨request, answer.1⟩ :: rest.trace, rest.final⟩

variable {env : Surroundings I σ}

@[simp] theorem exec_done (value : α) (state : σ) :
    exec env (.done value : Program I ε α) state = ⟨.ok value, [], state⟩ := rfl

@[simp] theorem exec_fail (error : ε) (state : σ) :
    exec env (.fail error : Program I ε α) state = ⟨.error error, [], state⟩ := rfl

theorem exec_ask (request : I.Request) (next : I.Reply request → Program I ε α) (state : σ) :
    exec env (.ask request next) state =
      ⟨(exec env (next (env state request).1) (env state request).2).result,
        ⟨request, (env state request).1⟩ ::
          (exec env (next (env state request).1) (env state request).2).trace,
        (exec env (next (env state request).1) (env state request).2).final⟩ := rfl

/-- An execution is a run. -/
theorem run_exec (env : Surroundings I σ) (p : Program I ε α) (state : σ) :
    Run p (exec env p state).trace (exec env p state).result := by
  induction p generalizing state with
  | done value => exact .done value
  | fail error => exact .fail error
  | ask request next ih => exact .ask (ih _ _)

/-- Every reply in an execution is the one the surroundings give in some state. -/
theorem reply_of_mem_trace_exec {p : Program I ε α} {state : σ} {event : Event I}
    (hevent : event ∈ (exec env p state).trace) :
    ∃ before, event.reply = (env before event.request).1 := by
  induction p generalizing state with
  | done value => simp at hevent
  | fail error => simp at hevent
  | ask request next ih =>
    rw [exec_ask] at hevent
    rcases List.mem_cons.mp hevent with rfl | hrest
    · exact ⟨state, rfl⟩
    · exact ih _ hrest

/-- What a view of the state does with every event, a whole execution does event by event. -/
theorem view_final_exec {ν : Type} {view : σ → ν} {update : ν → Event I → ν}
    (hstep : ∀ state request,
      view (env state request).2 = update (view state) ⟨request, (env state request).1⟩)
    (p : Program I ε α) (state : σ) :
    view (exec env p state).final = (exec env p state).trace.foldl update (view state) := by
  induction p generalizing state with
  | done value => rfl
  | fail error => rfl
  | ask request next ih =>
    rw [exec_ask, List.foldl_cons, ← hstep]
    exact ih _ _

/-- Surroundings that agree, in related states, on the requests a program asks cannot be told apart
by it. -/
theorem exec_congr {τ : Type} {env' : Surroundings I τ} {kind : I.Request → Prop}
    {R : σ → τ → Prop}
    (hstep : ∀ state state' request, kind request → R state state' →
      (env state request).1 = (env' state' request).1 ∧
        R (env state request).2 (env' state' request).2)
    {p : Program I ε α} (hp : Asks kind p) {state : σ} {state' : τ}
    (hrelated : R state state') :
    (exec env p state).result = (exec env' p state').result ∧
      (exec env p state).trace = (exec env' p state').trace ∧
      R (exec env p state).final (exec env' p state').final := by
  induction p generalizing state state' with
  | done value => exact ⟨rfl, rfl, hrelated⟩
  | fail error => exact ⟨rfl, rfl, hrelated⟩
  | ask request next ih =>
    have hrequest : kind request :=
      hp.of_run (run_exec env _ state) ⟨request, (env state request).1⟩ (List.mem_cons_self ..)
    have hnext (reply : I.Reply request) : Asks kind (next reply) :=
      ⟨fun hrun event hevent ↦ hp.of_run (.ask hrun) event (List.mem_cons_of_mem _ hevent)⟩
    obtain ⟨hreply, hafter⟩ := hstep state state' request hrequest hrelated
    rw [exec_ask, exec_ask, ← hreply]
    obtain ⟨hresult, htrace, hfinal⟩ := ih _ (hnext _) hafter
    exact ⟨hresult, congrArg _ htrace, hfinal⟩

/-- A sequence whose first program stops with an error ends there. -/
theorem exec_bind_error {p : Program I ε α} {state : σ} {error : ε}
    (herror : (exec env p state).result = .error error) (continuation : α → Program I ε β) :
    exec env (p >>= continuation) state =
      ⟨.error error, (exec env p state).trace, (exec env p state).final⟩ := by
  induction p generalizing state with
  | done value => simp at herror
  | fail stop => simpa using herror
  | ask request next ih =>
    rw [exec_ask] at herror
    rw [ask_bind, exec_ask, exec_ask, ih _ herror]

/-- A sequence whose first program returns continues in the state that program leaves. -/
theorem exec_bind_ok {p : Program I ε α} {state : σ} {value : α}
    (hvalue : (exec env p state).result = .ok value) (continuation : α → Program I ε β) :
    exec env (p >>= continuation) state =
      ⟨(exec env (continuation value) (exec env p state).final).result,
        (exec env p state).trace ++ (exec env (continuation value) (exec env p state).final).trace,
        (exec env (continuation value) (exec env p state).final).final⟩ := by
  induction p generalizing state with
  | done other =>
    obtain rfl : other = value := by simpa using hvalue
    rfl
  | fail stop => simp at hvalue
  | ask request next ih =>
    rw [exec_ask] at hvalue
    rw [ask_bind, exec_ask, exec_ask, ih _ hvalue]
    rfl

/-- A sequence whose first program is known to return continues in the state it leaves. -/
theorem exec_bind_of_eq {p : Program I ε α} {state next : σ} {value : α} {trace : List (Event I)}
    (heq : exec env p state = ⟨.ok value, trace, next⟩) (continuation : α → Program I ε β) :
    exec env (p >>= continuation) state =
      ⟨(exec env (continuation value) next).result,
        trace ++ (exec env (continuation value) next).trace,
        (exec env (continuation value) next).final⟩ := by
  rw [exec_bind_ok (congrArg Execution.result heq), heq]

/-- Changing the error of a program changes the error of its executions and nothing else. -/
theorem exec_mapError (f : ε → δ) (p : Program I ε α) (state : σ) :
    exec env (p.mapError f) state =
      ⟨(exec env p state).result.mapError f, (exec env p state).trace,
        (exec env p state).final⟩ := by
  induction p generalizing state with
  | done value => rfl
  | fail error => rfl
  | ask request next ih =>
    rw [mapError, exec_ask, exec_ask, ih]

/-- A program that returns, returns the same when its error is changed. -/
theorem exec_mapError_of_eq {p : Program I ε α} {state next : σ} {value : α}
    {trace : List (Event I)} (heq : exec env p state = ⟨.ok value, trace, next⟩) (f : ε → δ) :
    exec env (p.mapError f) state = ⟨.ok value, trace, next⟩ := by
  rw [exec_mapError, heq]
  rfl

/-! ### Carrying out an interface over another -/

/-- Carries out every request by a program over another interface. An error of the program becomes
a value; an error of the lower layer ends the whole. -/
def interp (handler : (request : I.Request) → Program J δ (I.Reply request)) :
    Program I ε α → Program J δ (Except ε α)
  | .done value => .done (.ok value)
  | .fail error => .done (.error error)
  | .ask request next => handler request >>= fun reply ↦ (next reply).interp handler

variable {handler : (request : I.Request) → Program J δ (I.Reply request)}

@[simp] theorem interp_done (value : α) :
    (.done value : Program I ε α).interp handler = .done (.ok value) := rfl

@[simp] theorem interp_fail (error : ε) :
    (.fail error : Program I ε α).interp handler = .done (.error error) := rfl

@[simp] theorem interp_ask (request : I.Request) (next : I.Reply request → Program I ε α) :
    (.ask request next : Program I ε α).interp handler =
      handler request >>= fun reply ↦ (next reply).interp handler := rfl

/-- Carrying out a sequence: the continuation is carried out when the first program returned. -/
theorem interp_bind (p : Program I ε α) (continuation : α → Program I ε β) :
    (p >>= continuation).interp handler = p.interp handler >>= fun outcome ↦
      match outcome with
      | .ok value => (continuation value).interp handler
      | .error error => .done (.error error) := by
  induction p with
  | done value => rfl
  | fail error => rfl
  | ask request next ih =>
    rw [ask_bind, interp_ask, interp_ask, bind_assoc']
    exact congrArg _ (funext ih)

/-- Carrying out a program whose error is changed. -/
theorem interp_mapError {φ : Type} (f : ε → φ) (p : Program I ε α) :
    (p.mapError f).interp handler =
      p.interp handler >>= fun outcome ↦ .done (outcome.mapError f) := by
  induction p with
  | done value => rfl
  | fail error => rfl
  | ask request next ih =>
    rw [mapError, interp_ask, interp_ask, bind_assoc']
    exact congrArg _ (funext ih)

/-- The events of the upper interface are implemented by consecutive returning runs of the
handler. -/
inductive Implements (handler : (request : I.Request) → Program J δ (I.Reply request)) :
    List (Event I) → List (Event J) → Prop
  | nil : Implements handler [] []
  | cons {request : I.Request} {reply : I.Reply request} {events : List (Event I)}
      {first rest : List (Event J)} (hfirst : Run (handler request) first (.ok reply))
      (hrest : Implements handler events rest) :
      Implements handler (⟨request, reply⟩ :: events) (first ++ rest)

/-- A completed run of the composite is a run of the upper program whose events the handler
implements. -/
theorem run_interp_ok {p : Program I ε α} {trace : List (Event J)} {outcome : Except ε α} :
    Run (p.interp handler) trace (.ok outcome) ↔
      ∃ events, Run p events outcome ∧ Implements handler events trace := by
  induction p generalizing trace with
  | done value =>
    simp only [interp_done, run_done, Except.ok.injEq]
    constructor
    · rintro ⟨rfl, rfl⟩
      exact ⟨[], ⟨rfl, rfl⟩, .nil⟩
    · rintro ⟨events, ⟨rfl, rfl⟩, ⟨⟩⟩
      exact ⟨rfl, rfl⟩
  | fail error =>
    simp only [interp_fail, run_done, run_fail, Except.ok.injEq]
    constructor
    · rintro ⟨rfl, rfl⟩
      exact ⟨[], ⟨rfl, rfl⟩, .nil⟩
    · rintro ⟨events, ⟨rfl, rfl⟩, ⟨⟩⟩
      exact ⟨rfl, rfl⟩
  | ask request next ih =>
    rw [interp_ask, run_bind]
    constructor
    · rintro (⟨error, hcontra, -⟩ | ⟨first, reply, rest, rfl, hfirst, hrest⟩)
      · exact absurd hcontra (by simp)
      · obtain ⟨events, hevents, himplements⟩ := (ih reply).mp hrest
        exact ⟨⟨request, reply⟩ :: events, .ask hevents, .cons hfirst himplements⟩
    · rintro ⟨events, hevents, himplements⟩
      obtain ⟨reply, rest, rfl, hrest⟩ := run_ask.mp hevents
      cases himplements with
      | cons hfirst hlast =>
        exact Or.inr ⟨_, reply, _, rfl, hfirst, (ih reply).mpr ⟨rest, hrest, hlast⟩⟩

end Program

end Interaction
