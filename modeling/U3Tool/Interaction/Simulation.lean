import U3Tool.Interaction.Protocol

/-!
# Surroundings that stand in for others

A program that is carried out over another interface meets other surroundings. They stand in for
those of the program when, in related states, the handler of every request returns what the upper
surroundings reply and leaves related states behind (`Simulates`). Then the whole program executes
below as it does above (`exec_interp`).

`exec_left` and `exec_right` execute a program over one of two interfaces in surroundings of both,
which may keep the state of the other interface beside that of its own.
-/

set_option autoImplicit false
set_option relaxedAutoImplicit false

namespace Interaction.Program

variable {I J : Interface} {ε δ α ρ σ τ : Type}

/-! ### Carrying out an interface over another -/

/-- In related states, the handler of a request of a kind returns below what the surroundings above
reply to it, and the states stay related. -/
structure Simulates (handler : (request : I.Request) → Program J δ (I.Reply request))
    (above : Surroundings I σ) (below : Surroundings J τ) (related : σ → τ → Prop)
    (kind : I.Request → Prop) : Prop where
  replies : ∀ {state now request}, kind request → related state now →
    (exec below (handler request) now).result = .ok (above state request).1
  keeps : ∀ {state now request}, kind request → related state now →
    related (above state request).2 (exec below (handler request) now).final

variable {handler : (request : I.Request) → Program J δ (I.Reply request)}
  {above : Surroundings I σ} {below : Surroundings J τ} {related : σ → τ → Prop}
  {kind : I.Request → Prop}

/-- What stands in for the surroundings of a program executes it as they do, request by request. -/
theorem exec_interp (hsimulates : Simulates handler above below related kind) {p : Program I ε α}
    (hp : Asks kind p) {state : σ} {now : τ} (hrelated : related state now) :
    (exec below (p.interp handler) now).result = .ok (exec above p state).result ∧
      related (exec above p state).final (exec below (p.interp handler) now).final ∧
      Implements handler (exec above p state).trace (exec below (p.interp handler) now).trace := by
  induction p generalizing state now with
  | done value => exact ⟨rfl, hrelated, .nil⟩
  | fail error => exact ⟨rfl, hrelated, .nil⟩
  | ask request next ih =>
    have hrequest : kind request :=
      hp.of_run (run_exec above _ state) ⟨request, (above state request).1⟩ (List.mem_cons_self ..)
    have hnext : Asks kind (next (above state request).1) :=
      ⟨fun hrun event hevent ↦ hp.of_run (.ask hrun) event (List.mem_cons_of_mem _ hevent)⟩
    have hreply := hsimulates.replies hrequest hrelated
    obtain ⟨hresult, hfinal, htrace⟩ := ih _ hnext (hsimulates.keeps hrequest hrelated)
    rw [interp_ask, exec_bind_ok hreply, exec_ask]
    refine ⟨hresult, hfinal, .cons ?_ htrace⟩
    have hrun := run_exec below (handler request) now
    rwa [hreply] at hrun

/-- The same where an error of either layer ends the whole. -/
theorem exec_handledBy {handler : (request : I.Request) → Program J ε (I.Reply request)}
    (hsimulates : Simulates handler above below related kind) {p : Program I ε α}
    (hp : Asks kind p) {state : σ} {now : τ} (hrelated : related state now) :
    (exec below (p.handledBy handler) now).result = (exec above p state).result ∧
      related (exec above p state).final (exec below (p.handledBy handler) now).final := by
  obtain ⟨hresult, hfinal, -⟩ := exec_interp hsimulates hp hrelated
  rw [handledBy, exec_bind_ok hresult]
  cases (exec above p state).result with
  | ok value => exact ⟨rfl, hfinal⟩
  | error stop => exact ⟨rfl, hfinal⟩

/-! ### Two interfaces side by side -/

/-- A program over the left of two interfaces, in surroundings that treat it as its own. -/
theorem exec_left (env : Surroundings I σ) (both : Surroundings (I.sum J) ρ) (embed : σ → ρ)
    (hboth : ∀ state request, both (embed state) (.left request) =
      ((env state request).1, embed (env state request).2)) (p : Program I ε α) (state : σ) :
    exec both (p.left (J := J)) (embed state) = ⟨(exec env p state).result,
      (exec env p state).trace.map leftEvent, embed (exec env p state).final⟩ := by
  induction p generalizing state with
  | done value => rfl
  | fail error => rfl
  | ask request next ih =>
    rw [left, exec_ask, hboth, ih, exec_ask]
    rfl

/-- A program over the right of two interfaces, in surroundings that treat it as its own. -/
theorem exec_right (env : Surroundings J σ) (both : Surroundings (I.sum J) ρ) (embed : σ → ρ)
    (hboth : ∀ state request, both (embed state) (.right request) =
      ((env state request).1, embed (env state request).2)) (p : Program J ε α) (state : σ) :
    (exec both (p.right (I := I)) (embed state)).result = (exec env p state).result ∧
      (exec both (p.right (I := I)) (embed state)).final = embed (exec env p state).final := by
  induction p generalizing state with
  | done value => exact ⟨rfl, rfl⟩
  | fail error => exact ⟨rfl, rfl⟩
  | ask request next ih =>
    rw [right, exec_ask, hboth, exec_ask]
    exact ih _ _

end Interaction.Program
