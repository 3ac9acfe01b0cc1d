import U3Tool.Interaction.Program

/-!
# What a returned value says of the run

A program vouches for its run with its good values when every event of a run that returns one was
fine (`Vouches`). The rule of a sequence (`Vouches.bind`) needs a middle: the first program vouches
with the values of the middle, the continuation vouches after these, and after any other value it
does not come to a good one (`Returns`).
-/

set_option autoImplicit false
set_option relaxedAutoImplicit false

namespace Interaction.Program

variable {I : Interface} {ε δ α β : Type}

/-! ### The values a program returns -/

/-- Every value the program returns is of a kind. -/
structure Returns (kind : α → Prop) (p : Program I ε α) : Prop where
  of_run : ∀ {trace : List (Event I)} {value : α}, Run p trace (.ok value) → kind value

namespace Returns

variable {kind : β → Prop}

theorem done {value : β} (hvalue : kind value) : Returns kind (.done value : Program I ε β) where
  of_run hrun := by
    obtain rfl := Except.ok.inj (run_done.mp hrun).2
    exact hvalue

/-- A sequence. -/
theorem bind {middle : α → Prop} {p : Program I ε α} {continuation : α → Program I ε β}
    (hp : Returns middle p)
    (hcontinuation : ∀ value, middle value → Returns kind (continuation value)) :
    Returns kind (p >>= continuation) where
  of_run hrun := by
    obtain ⟨first, value, rest, -, hfirst, hrest⟩ := run_bind_ok.mp hrun
    exact (hcontinuation value (hp.of_run hfirst)).of_run hrest

/-- Where the continuation alone decides what a sequence returns. -/
theorem of_continuation {p : Program I ε α} {continuation : α → Program I ε β}
    (hcontinuation : ∀ value, Returns kind (continuation value)) :
    Returns kind (p >>= continuation) :=
  have hany : Returns (fun _ : α ↦ True) p := ⟨fun _ ↦ trivial⟩
  hany.bind fun value _ ↦ hcontinuation value

end Returns

/-! ### Vouching -/

/-- Every event of a run that returns a good value was fine. -/
structure Vouches (fine : Event I → Prop) (good : α → Prop) (p : Program I ε α) : Prop where
  of_run : ∀ {trace : List (Event I)} {value : α}, Run p trace (.ok value) → good value →
    ∀ event ∈ trace, fine event

namespace Vouches

variable {fine : Event I → Prop} {good : β → Prop} {middle : α → Prop}

theorem done (value : β) : Vouches fine good (.done value : Program I ε β) where
  of_run hrun _ := by simp [(run_done.mp hrun).1]

theorem fail (error : ε) : Vouches fine good (.fail error : Program I ε β) where
  of_run hrun _ := absurd (run_fail.mp hrun).2 (by simp)

/-- Requests whose every reply is fine are vouched for whatever is returned. -/
theorem of_asks {kind : I.Request → Prop} {p : Program I ε β} (hp : Asks kind p)
    (hfine : ∀ event : Event I, kind event.request → fine event) : Vouches fine good p where
  of_run hrun _ event hevent := hfine event (hp.of_run hrun event hevent)

/-- A sequence. -/
theorem bind {p : Program I ε α} {continuation : α → Program I ε β} (hp : Vouches fine middle p)
    (hgood : ∀ value, middle value → Vouches fine good (continuation value))
    (hother : ∀ value, ¬ middle value →
      Returns (fun value ↦ ¬ good value) (continuation value)) :
    Vouches fine good (p >>= continuation) where
  of_run hrun hvalue := by
    obtain ⟨first, value, rest, rfl, hfirst, hrest⟩ := run_bind_ok.mp hrun
    by_cases hmiddle : middle value
    · exact List.forall_mem_append.mpr
        ⟨hp.of_run hfirst hmiddle, (hgood value hmiddle).of_run hrest hvalue⟩
    · exact absurd hvalue ((hother value hmiddle).of_run hrest)

/-- A sequence whose first program vouches with every value. -/
theorem bind_all {p : Program I ε α} {continuation : α → Program I ε β}
    (hp : Vouches fine (fun _ ↦ True) p)
    (hcontinuation : ∀ value, Vouches fine good (continuation value)) :
    Vouches fine good (p >>= continuation) :=
  hp.bind (fun value _ ↦ hcontinuation value) fun _ hfalse ↦ absurd trivial hfalse

/-- Another error at the end of a failed run changes nothing about the others. -/
theorem mapError {p : Program I ε β} (hp : Vouches fine good p) (f : ε → δ) :
    Vouches fine good (p.mapError f) where
  of_run hrun := hp.of_run (run_mapError_ok.mp hrun)

end Vouches

end Interaction.Program
