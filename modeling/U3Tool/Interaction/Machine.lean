import Mathlib.Data.List.Forall2

/-!
# Machines with outputs

A machine takes an input to an output and a new state. `drive` feeds it a list of inputs. Two
machines that answer related inputs alike, and stay in related states, answer whole lists alike
(`drive_simulates`).
-/

set_option autoImplicit false
set_option relaxedAutoImplicit false

namespace Interaction

variable {α α' β β' σ τ : Type}

/-- The outputs of a machine over a list of inputs, and the state it ends in. -/
def drive (machine : σ → α → β × σ) (state : σ) : List α → List β × σ
  | [] => ([], state)
  | input :: rest =>
    let answer := machine state input
    let others := drive machine answer.2 rest
    (answer.1 :: others.1, others.2)

variable {machine : σ → α → β × σ}

@[simp] theorem drive_nil (state : σ) : drive machine state [] = ([], state) := rfl

@[simp] theorem drive_cons (state : σ) (input : α) (rest : List α) :
    drive machine state (input :: rest) =
      ((machine state input).1 :: (drive machine (machine state input).2 rest).1,
        (drive machine (machine state input).2 rest).2) := rfl

/-- A machine that is fed two lists one after the other. -/
theorem drive_append (state : σ) (first second : List α) :
    drive machine state (first ++ second) =
      ((drive machine state first).1 ++ (drive machine (drive machine state first).2 second).1,
        (drive machine (drive machine state first).2 second).2) := by
  induction first generalizing state with
  | nil => rfl
  | cons input rest ih => rw [List.cons_append, drive_cons, ih, drive_cons, List.cons_append]

/-- What every input of a kind keeps, a list of such inputs keeps. -/
theorem drive_keeps {kind : α → Prop} {kept : σ → Prop}
    (hstep : ∀ {state input}, kind input → kept state → kept (machine state input).2)
    {inputs : List α} (hinputs : ∀ input ∈ inputs, kind input) {state : σ} (hkept : kept state) :
    kept (drive machine state inputs).2 := by
  induction inputs generalizing state with
  | nil => exact hkept
  | cons input rest ih =>
    exact ih (fun other hother ↦ hinputs other (List.mem_cons_of_mem _ hother))
      (hstep (hinputs input (List.mem_cons_self ..)) hkept)

/-- A machine in whose place another one is driven. -/
theorem drive_simulates {other : τ → α' → β' × τ} {related : σ → τ → Prop} {plays : α' → α → Prop}
    {shown : β → β'}
    (hstep : ∀ {state now input input'}, plays input' input → related state now →
      (other now input').1 = shown (machine state input).1 ∧
        related (machine state input).2 (other now input').2)
    {inputs : List α} {inputs' : List α'} (hplays : List.Forall₂ plays inputs' inputs)
    {state : σ} {now : τ} (hrelated : related state now) :
    (drive other now inputs').1 = (drive machine state inputs).1.map shown ∧
      related (drive machine state inputs).2 (drive other now inputs').2 := by
  induction hplays generalizing state now with
  | nil => exact ⟨rfl, hrelated⟩
  | cons hfirst _ ih =>
    obtain ⟨houtput, hnext⟩ := hstep hfirst hrelated
    obtain ⟨houtputs, hfinal⟩ := ih hnext
    exact ⟨List.cons_eq_cons.mpr ⟨houtput, houtputs⟩, hfinal⟩

/-- What holds of every pair of two lists from some number on, holds of all of them from one on. -/
theorem forall₂_of_enough {relation : ℕ → α → β → Prop} {inputs : List α} {others : List β}
    (henough : List.Forall₂ (fun input other ↦ ∃ enough, ∀ n ≥ enough, relation n input other)
      inputs others) :
    ∃ enough, ∀ n ≥ enough, List.Forall₂ (relation n) inputs others := by
  induction henough with
  | nil => exact ⟨0, fun _ _ ↦ .nil⟩
  | cons hfirst _ ih =>
    obtain ⟨enough, hfirst⟩ := hfirst
    obtain ⟨enough', hrest⟩ := ih
    refine ⟨max enough enough', fun n hn ↦ ?_⟩
    obtain ⟨hn, hn'⟩ := Nat.max_le.mp hn
    exact .cons (hfirst n hn) (hrest n hn')

end Interaction
