import U3Tool.Interaction.Execution

/-!
# What a state keeps unless the trace excuses it

A program retains a property of the state of its surroundings when every execution that begins with
it ends with it, or leaves a trace that excuses the loss (`Retains`). An excuse stands wherever it
was made (`Lasting`), so a sequence retains what its parts retain (`Retains.bind`).

`kept_or_excused` is the same over a sequence of steps: what was lost at the end was lost in a step
with an excuse.
-/

set_option autoImplicit false
set_option relaxedAutoImplicit false

namespace Interaction

variable {σ ι : Type}

/-- Steps one after the other: when each keeps the property or has an excuse, the property is kept
to the end, or a step had an excuse in the state it was taken in. -/
theorem kept_or_excused {step : σ → ι → σ} {kept : σ → Prop} {excuse : σ → ι → Prop}
    (hstep : ∀ {state item}, kept state → kept (step state item) ∨ excuse state item)
    (items : List ι) {state : σ} (hkept : kept state) :
    kept (items.foldl step state) ∨ ∃ before item after,
      items = before ++ item :: after ∧ excuse (before.foldl step state) item := by
  induction items generalizing state with
  | nil => exact Or.inl hkept
  | cons item rest ih =>
    have hfirst : kept (step state item) ∨ excuse state item := hstep hkept
    rcases hfirst with hnext | hexcuse
    · rcases ih hnext with hlast | ⟨before, later, after, rfl, hexcuse⟩
      · exact Or.inl hlast
      · exact Or.inr ⟨item :: before, later, after, rfl, hexcuse⟩
    · exact Or.inr ⟨[], item, rest, rfl, hexcuse⟩

namespace Program

variable {I : Interface} {ε α β : Type}

/-- An excuse in a part of a trace is one in the trace. -/
structure Lasting (excused : List (Event I) → Prop) : Prop where
  prepend : ∀ (first : List (Event I)) {trace}, excused trace → excused (first ++ trace)
  append : ∀ {trace} (last : List (Event I)), excused trace → excused (trace ++ last)

/-- Every execution that begins in a state with the property ends in one, or its trace is
excused. -/
structure Retains (env : Surroundings I σ) (kept : σ → Prop) (excused : List (Event I) → Prop)
    (p : Program I ε α) : Prop where
  of_exec : ∀ {state}, kept state → kept (exec env p state).final ∨ excused (exec env p state).trace

namespace Retains

variable {env : Surroundings I σ} {kept : σ → Prop} {excused : List (Event I) → Prop}

theorem done (value : α) : Retains env kept excused (.done value : Program I ε α) where
  of_exec hkept := Or.inl hkept

/-- Requests that keep the property. -/
theorem of_asks {kind : I.Request → Prop} {p : Program I ε α} (hp : Asks kind p)
    (hkind : ∀ {state request}, kind request → kept state → kept (env state request).2) :
    Retains env kept excused p where
  of_exec {state} hkept := by
    refine Or.inl ?_
    induction p generalizing state with
    | done value => exact hkept
    | fail error => exact hkept
    | ask request next ih =>
      have hrequest : kind request :=
        hp.of_run (run_exec env _ state) ⟨request, (env state request).1⟩ (List.mem_cons_self ..)
      have hnext : Asks kind (next (env state request).1) :=
        ⟨fun hrun event hevent ↦ hp.of_run (.ask hrun) event (List.mem_cons_of_mem _ hevent)⟩
      exact ih _ hnext (hkind hrequest hkept)

/-- A sequence. -/
theorem bind (hexcused : Lasting excused) {p : Program I ε α} {continuation : α → Program I ε β}
    (hp : Retains env kept excused p)
    (hcontinuation : ∀ value, Retains env kept excused (continuation value)) :
    Retains env kept excused (p >>= continuation) where
  of_exec {state} hkept := by
    have hfirst := hp.of_exec hkept
    cases hresult : (exec env p state).result with
    | error error =>
      rw [exec_bind_error hresult]
      exact hfirst
    | ok value =>
      rw [exec_bind_ok hresult]
      rcases hfirst with hmiddle | hexcuse
      · exact ((hcontinuation value).of_exec hmiddle).imp_right (hexcused.prepend _)
      · exact Or.inr (hexcused.append _ hexcuse)

end Retains

end Program

end Interaction
