import MathProg.Model.Fit

/-!
# Editing models

An edit either succeeds and raises the revision, or fails. What an edit did before it failed stays
done: a variable whose bound is refused has been added without it.
-/

namespace MathProg

variable {N K : Type}

/-- An edit of a model. -/
abbrev Edit (N K : Type) := ExceptT (ModelError N K) (StateM (Model N K))

namespace Edit

/-- A question to the model. -/
def ask {α : Type} (f : Model N K → Except (ModelError N K) α) : Edit N K α := do
  match f (← get) with
  | .ok a => return a
  | .error e => throw e

/-- Changes the model and raises its revision. -/
def change (f : Model N K → Model N K) : Edit N K Unit :=
  modify (fun m => { f m with revision := m.revision + 1 })

end Edit

namespace Model

/-! ## Questions -/

/-- The data of an operand that is a variable of the model. -/
def checkVariable (m : Model N K) (o : Operand N K) :
    Except (ModelError N K) (VariableRef × VariableData) :=
  match o with
  | .expression (.var v) =>
    match m.variableData? v with
    | some d => .ok (v, d)
    | none => .error (.noVariable o)
  | _ => .error (.noVariable o)

/-- The data of an operand that is a constraint of the model. -/
def checkConstraint (m : Model N K) (o : Operand N K) :
    Except (ModelError N K) (ConstraintRef × ConstraintData N K) :=
  match o with
  | .constraint c =>
    match m.constraintData? c with
    | some d => .ok (c, d)
    | none => .error (.noConstraint o)
  | _ => .error (.noConstraint o)

/-- Every variable of the expression must belong to the model. -/
def checkExpression (m : Model N K) (e : Expression N K) : Except (ModelError N K) Unit :=
  match e.vars.find? (fun v => !m.owns v) with
  | some v => .error (.noVariable (.expression (.var v)))
  | none => .ok ()

def checkAll (m : Model N K) (es : List (Expression N K)) : Except (ModelError N K) Unit :=
  es.forM m.checkExpression

/-- The constraint that came with a variable in a role. -/
def boundRef (m : Model N K) (o : Operand N K) (role : BoundRole) :
    Except (ModelError N K) ConstraintRef := do
  let (v, d) ← m.checkVariable o
  match d.bounds.lookup role with
  | some c => return ⟨m.id, c⟩
  | none => .error (.noBound v role)

/-! ## Edits -/

variable [Zero K] [One K] [Add K] [Mul K] [Neg K] [BEq K] [Numeral N K]

/-- Adds the constraint `function in set`. -/
def addConstraint (function : Operand N K) (set : ConstraintSet N) (name : Option String) :
    Edit N K ConstraintRef := do
  let (function, set) ← Edit.ask (fun _ => set.fit function)
  Edit.ask (·.checkAll function.entries)
  let m ← get
  Edit.change (fun m => { m with constraints := m.constraints ++ [⟨function, set, name⟩] })
  return ⟨m.id, m.constraints.length⟩

/-- Notes the constraint that came with a variable in a role. -/
def recordBound (v : VariableRef) (role : BoundRole) (c : ConstraintRef) (m : Model N K) :
    Model N K :=
  { m with vars := m.vars.modify v.index (fun d =>
      { d with bounds := (role, c.index) :: d.bounds }) }

/-- Adds a constraint on a new variable and notes its role. -/
def addBound (v : VariableRef) (role : BoundRole) (set : ConstraintSet N) : Edit N K Unit := do
  let c ← addConstraint (.expression (.var v)) set none
  modify (recordBound v role c)

/-- The number as a bound. -/
def boundValue (n : N) : Edit N K N :=
  Edit.ask (fun _ => do
    let c : K ← (Numeral.toCoefficient n).mapError .number
    return Numeral.ofCoefficient c)

/-- What a new variable comes with. -/
structure VariableOptions (N : Type) where
  name : Option String
  fix : Option N
  lower : Option N
  upper : Option N
  integer : Bool
  binary : Bool

/-- A variable with nothing but a name. -/
def VariableOptions.named (name : Option String) : VariableOptions N :=
  ⟨name, none, none, none, false, false⟩

/-- Adds a variable, then its constraints one after the other. -/
def addVariable (options : VariableOptions N) : Edit N K VariableRef := do
  let m ← get
  let v : VariableRef := ⟨m.id, m.vars.length⟩
  Edit.change (fun m => { m with vars := m.vars ++ [⟨options.name, []⟩] })
  if let some n := options.fix then addBound v .fixed (.equalTo (← boundValue n))
  if let some n := options.lower then addBound v .lower (.greaterThan (← boundValue n))
  if let some n := options.upper then addBound v .upper (.lessThan (← boundValue n))
  if options.integer then addBound v .integer .integer
  if options.binary then addBound v .binary .zeroOne
  return v

/-- The name of the entry of a matrix. -/
def entryName (name : Option String) (i j : Nat) : Option String :=
  name.bind (fun name =>
    let row := i + 1
    let column := j + 1
    if name.isEmpty then none else some s!"{name}[{row},{column}]")

/-- Adds one variable for every entry on and above the diagonal of a symmetric matrix, column by
column, and gives the rows of the matrix. -/
def addSymmetricMatrix (side : Int) (name : Option String) :
    Edit N K (List (List VariableRef)) := do
  ExceptT.mk (return (checkSide side).mapError .side)
  let n := side.toNat
  let entries ← (MatrixLayout.triangle.positions n).mapM (fun (i, j) =>
    addVariable (.named (entryName name i j)))
  return (MatrixLayout.triangle.unflatten? n entries).getD []

/-- Names a variable, or a constraint if the operand is no variable at all. -/
def setName (o : Operand N K) (name : Option String) : Edit N K Unit :=
  match o with
  | .expression (.var _) => do
    let (v, _) ← Edit.ask (·.checkVariable o)
    Edit.change (fun m =>
      { m with vars := m.vars.modify v.index (fun d => { d with name := name }) })
  | o => do
    let (c, _) ← Edit.ask (·.checkConstraint o)
    Edit.change (fun m =>
      { m with constraints := m.constraints.modify c.index (fun d => { d with name := name }) })

/-- An objective must be affine or quadratic; numbers and variables count as affine. -/
def objectiveOf (o : Operand N K) : Except (ModelError N K) (Objective N K) :=
  match o with
  | .expression (.number n) => do
    return .linear (.ofConstant (← (Expression.coefficient n).mapError .expression))
  | .expression (.var v) => .ok (.linear (.ofVariable v))
  | .expression (.linear e) => .ok (.linear e)
  | .expression (.quadratic e) => .ok (.quadratic e)
  | other => .error (.objectiveKind other.kindName)

/-- Sets an affine or quadratic objective; `none` is a sense that is not known. -/
def setObjective (sense : Option Sense) (o : Operand N K) : Edit N K Unit := do
  let some sense := sense | throw .unknownSense
  let objective ← Edit.ask (fun _ => objectiveOf o)
  Edit.ask (·.checkExpression objective.toExpression)
  Edit.change (fun m => { m with sense, objective })

/-- Sets a nonlinear objective. The sense is looked at last. -/
def setNonlinearObjective (sense : Option Sense) (o : Operand N K) : Edit N K Unit := do
  match o with
  | .expression (.nonlinear op args) =>
    Edit.ask (·.checkExpression (.nonlinear op args))
    let some sense := sense | throw .unknownSense
    Edit.change (fun m => { m with sense, objective := .nonlinear op args })
  | other => throw (.nonlinearObjectiveKind other.kindName)

end Model

end MathProg
