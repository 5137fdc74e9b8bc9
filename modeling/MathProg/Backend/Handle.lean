import MathProg.Backend.Status
import MathProg.ConstraintSet.Text
import MathProg.Function.Operator
import MathProg.Function.Text
import MathProg.Text.Quoted

/-!
# Handles and failures of backends

A backend numbers its variables and constraints from one. The handle of a constraint also tells its
families of function and set.
-/

namespace MathProg

structure ConstraintHandle where
  number : Int
  function : FunctionFamily
  set : SetFamily
deriving DecidableEq, Repr

/-- Why a backend fails. -/
inductive BackendError where
  /-- A number or a value that is not there. -/
  | unknown
  /-- A constraint that is not there. -/
  | unknownConstraint (handle : ConstraintHandle)
  /-- Too few entries. -/
  | tooShort
  /-- A list where a number is needed, or a number where a list is. -/
  | wrongShape
  /-- Lists of different lengths. -/
  | lengthMismatch
  /-- A number alone in the place of a function, or a function of the wrong family. -/
  | wrongFunction
  | unknownTermination (name : String)
  | unknownResultStatus (name : String)
  | unknownStatistic (name : String)
  | number (e : NumberError)
  | operator (e : OperatorError)
  /-- A failure reported with a text of its own. -/
  | failed (text : String)
  | inexpressibleFunction (family : FunctionFamily)
  | inexpressibleSet (family : SetFamily)
  /-- A constraint that is a plain statement about numbers, or has impossible bounds. -/
  | invalidConstraint
  | divisionByZero
  | overflow
  /-- A function outside its domain, or a variable without a value. -/
  | noValue
  /-- A result that is not real. -/
  | notReal
  /-- A bound that has to be finite. -/
  | infiniteBound
  /-- There is no program for the solver of the name. -/
  | noSolver (name : String)
  /-- A file was given for the program of a solver. -/
  | givenProgram
  /-- No solver has the name that was asked for; the report tells about it. -/
  | unknownSolver (report : String)
deriving DecidableEq, Repr

def FunctionFamily.name : FunctionFamily → String
  | .number => "float"
  | .var => "SingleVariable"
  | .affine => "ScalarAffine"
  | .quadratic => "ScalarQuadratic"
  | .vars => "VectorOfVariables"
  | .rows => "VectorAffine"
  | .nonlinear => "NonlinearFunction"

def FunctionFamily.ofName? (name : String) : Option FunctionFamily :=
  [.number, .var, .affine, .quadratic, .vars, .rows, .nonlinear].find?
    (fun family => family.name == name)

instance : ToString FunctionFamily := ⟨FunctionFamily.name⟩

/-- A handle as it is shown. -/
def ConstraintHandle.text (h : ConstraintHandle) : String :=
  let number := toString h.number
  let function := match h.function with
    | .number => "float"
    | family => "optbridge.bridge.functions." ++ family.name
  let set := "optbridge.model.sets." ++ h.set.name
  s!"ConstraintIndex(value={number}, function_type=<class '{function}'>, set_type=<class '{set}'>)"

/-- The message of a failure; a failure of arithmetic or of the shape of data has none. -/
def BackendError.message? : BackendError → Option String
  | unknownStatistic name =>
    let known := ", ".intercalate (Statistic.all.map (fun s => "'" ++ s.name ++ "'"))
    some s!"unknown statistic '{name}'; expected one of ({known})"
  | failed text => some text
  | inexpressibleFunction family =>
    let name := family.name
    some s!"pyomo backend cannot express {name}"
  | inexpressibleSet family =>
    let name := family.name
    some s!"pyomo backend cannot express set {name}"
  | _ => none

/-- The text that a failed solve leaves as its raw status. -/
def BackendError.text : BackendError → String
  | unknownTermination name => Text.quoted name ++ " is not a valid TerminationStatus"
  | unknownResultStatus name => Text.quoted name ++ " is not a valid ResultStatus"
  | number .tooLarge => "int too large to convert to float"
  | number .infinite => "cannot convert float infinity to integer"
  | number .notANumber => "cannot convert float NaN to integer"
  | unknownConstraint handle => Text.quoted ("unknown constraint index " ++ handle.text)
  | noSolver name => s!"No executable found for solver '{name}'"
  | givenProgram => "'str' object is not callable"
  | unknownSolver report => report
  | e => e.message?.getD ""

end MathProg
