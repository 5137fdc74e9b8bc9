import MathProg.ConstraintSet.Basic
import MathProg.Function.Basic

/-!
# Representations

What a backend is given of a model: the names of its variables, an objective and the constraints,
all over positions of variables.
-/

namespace MathProg

/-- The direction of an objective. -/
inductive Sense where
  | minimize
  | maximize
  /-- Any feasible point will do. -/
  | feasibility
deriving DecidableEq, Repr

/-- A function in a set, with an optional name. -/
structure Entry (N K : Type) where
  name : Option String
  function : Function K
  set : ConstraintSet N

structure Representation (N K : Type) where
  variableNames : List (Option String)
  sense : Sense
  objective : Function K
  constraints : List (Entry N K)

namespace Sense

def name : Sense → String
  | minimize => "MIN"
  | maximize => "MAX"
  | feasibility => "FEASIBILITY"

def ofName? (name : String) : Option Sense :=
  [minimize, maximize, feasibility].find? (fun sense => sense.name == name)

instance : ToString Sense := ⟨name⟩

end Sense

variable {N K : Type}

namespace Entry

/-- The families of function and set. -/
def families (e : Entry N K) : FunctionFamily × SetFamily :=
  (e.function.family, e.set.family)

instance [BEq N] [BEq K] : BEq (Entry N K) where
  beq e f := e.name == f.name && e.function == f.function && e.set == f.set

end Entry

namespace Representation

def empty [Zero K] : Representation N K :=
  ⟨[], .feasibility, .affine .zero, []⟩

/-- The names to print: a variable without a name, or with an empty one, is written by its number.
-/
def displayNames (r : Representation N K) : List String :=
  r.variableNames.zipIdx.map (fun (name, i) =>
    match name with
    | some name => if name.isEmpty then placeholder i else name
    | none => placeholder i)
where
  placeholder (i : Nat) : String :=
    let number := i + 1
    s!"_[{number}]"

end Representation

end MathProg
