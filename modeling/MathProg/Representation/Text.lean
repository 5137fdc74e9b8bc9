import MathProg.ConstraintSet.Text
import MathProg.Function.Text
import MathProg.Representation.Basic

/-!
# Representations as text

One line for the variables, one for the objective if there is one, and one for every constraint, as
in

    variables: x, _[2]
    minobjective: 1.0*x + 2.0
    cap: 1.0*x + 1.0*_[2] in LessThan(upper=4.0)

The text is impossible if a function uses a variable that is not declared.
-/

namespace MathProg

/-- A constraint under the given variable names. -/
def Entry.text (names : List String) (e : Entry Number Float) : Except NamingError String := do
  let label :=
    match e.name with
    | some name => if name.isEmpty then "" else name ++ ": "
    | none => ""
  return label ++ (← e.function.text names) ++ " in " ++ e.set.text

namespace Representation

/-- The lines that declare the objective. -/
def objectiveLines (r : Representation Number Float) : Except NamingError (List String) :=
  match r.sense with
  | .minimize => do return ["minobjective: " ++ (← r.objective.text r.displayNames)]
  | .maximize => do return ["maxobjective: " ++ (← r.objective.text r.displayNames)]
  | .feasibility => .ok []

def text (r : Representation Number Float) : Except NamingError String := do
  let names := r.displayNames
  let objective ← r.objectiveLines
  let constraints ← r.constraints.mapM (·.text names)
  let lines := ("variables: " ++ ", ".intercalate names) :: objective ++ constraints
  return "\n".intercalate lines

end Representation

end MathProg
