import MathProg.Session

/-!
# A small linear program

The program that the command line solves: maximize `x + 2 y` where `x + y ≤ 4`, `x + 3 y ≤ 6`,
`0 ≤ x ≤ 3` and `0 ≤ y`.
-/

namespace MathProg.SmallProgram

/-- A variable that is not negative. -/
def nonnegative (name : String) (upper : Option Number) : Model.VariableOptions Number where
  name := name
  fix := none
  lower := some (.integer 0)
  upper := upper
  integer := false
  binary := false

/-- The sum `x + c y`. -/
def weightedSum (x y : VariableRef) (c : Int) : Edit Number Float (Operand Number Float) :=
  Edit.ask (fun _ => do
    let scaled ← (Expression.mul (.number (.integer c)) (.var y)).mapError .expression
    return .expression (← (Expression.add (.var x) scaled).mapError .expression))

def build : Edit Number Float Unit := do
  let x ← Model.addVariable (nonnegative "x" (some (.integer 3)))
  let y ← Model.addVariable (nonnegative "y" none)
  let capacity ← weightedSum x y 1
  discard (Model.addConstraint capacity (.lessThan (.real 4.0)) (some "cap"))
  let mixture ← weightedSum x y 3
  discard (Model.addConstraint mixture (.lessThan (.real 6.0)) (some "mix"))
  Model.setObjective (some .maximize) (← weightedSum x y 2)

/-- The model, which belongs at the first place of a session. -/
def model : Model Number Float :=
  (build.run.run (.empty 0 (some "small_lp"))).2

/-- Why the program has no report. -/
inductive SolveError where
  | run (e : RunError)
  | result (e : ResultError Number Float)

/-- Runs the model with some settings and a solver, and gives the lines of the report. -/
def solve (settings : Settings) (solver : ScriptedSolver Number) :
    Except SolveError (List String) := do
  let workshop : Workshop Number Float Quantity := ⟨[], solver⟩
  let (a, _) ← (Attachment.run model settings workshop).2.mapError .run
  ((a.currentResults model).report model).mapError .result

end MathProg.SmallProgram
