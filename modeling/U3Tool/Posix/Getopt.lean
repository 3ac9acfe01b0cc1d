import Mathlib.Tactic

/-!
# Parsing options, `getopt`

The results of calling `getopt` until it returns -1, as POSIX defines it, and the operands that are
left. An element of the arguments that begins with a dash and has more characters is a cluster of
options; the argument of an option is the rest of its cluster or, when nothing of the cluster is
left, the next element. The first element that is no cluster ends the options, as does the element
of two dashes, which is skipped. Elements are not reordered.

The characters are of any type with a dash and a colon. The colon marks, in the string of options,
an option with an argument, and is no option itself. An unknown option and an option whose argument
is missing are both reported as invalid, as `getopt` returns `?` for both; the diagnostic it prints
is left out.
-/

set_option autoImplicit false
set_option relaxedAutoImplicit false

namespace Getopt

variable {α : Type} [DecidableEq α]

/-- What a call of `getopt` returns before it returns -1: an option without an argument, an option
with its argument, or `?` for an invalid option. -/
inductive Item (α : Type)
  | flag (option : α)
  | valued (option : α) (value : List α)
  | invalid (option : α)
  deriving DecidableEq

/-- Whether a character is an option of the string, and whether that option takes an argument. -/
def takesArgument (colon : α) : (optstring : List α) → (c : α) → Option Bool
  | [], _ => none
  | option :: rest, c =>
    if c ≠ colon ∧ option = c then some (rest.head? = some colon)
    else takesArgument colon rest c

/-- The options of a cluster, and the last one if its argument is still to be taken from the next
element. -/
def cluster (syntaxOf : α → Option Bool) : List α → List (Item α) × Option α
  | [] => ([], none)
  | c :: rest =>
    match syntaxOf c with
    | none => ((cluster syntaxOf rest).map (.invalid c :: ·) id)
    | some false => ((cluster syntaxOf rest).map (.flag c :: ·) id)
    | some true => if rest = [] then ([], some c) else ([.valued c rest], none)

/-- The results of `getopt` for the arguments after the program name, and the operands. -/
def items (dash : α) (syntaxOf : α → Option Bool) :
    List (List α) → List (Item α) × List (List α)
  | [] => ([], [])
  | [] :: rest => ([], [] :: rest)
  | [c] :: rest => ([], [c] :: rest)
  | (first :: c :: more) :: rest =>
    if first ≠ dash then ([], (first :: c :: more) :: rest)
    else if c = dash ∧ more = [] then ([], rest)
    else
      match cluster syntaxOf (c :: more), rest with
      | (found, none), rest => (items dash syntaxOf rest).map (found ++ ·) id
      | (found, some c), [] => (found ++ [.invalid c], [])
      | (found, some c), value :: rest =>
        (items dash syntaxOf rest).map (found ++ [.valued c value] ++ ·) id

end Getopt
