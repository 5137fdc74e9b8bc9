import MathProg.Attachment.Basic

/-!
# The life of an attachment

A backend is attached by building it from a source, or by adopting one that is there, which is
emptied first. Either way its capabilities are checked against the whole model before it is written
to. A change of the model makes the attachment stale; the next solve then builds everything again.
What an operation did before it failed stays done.
-/

namespace MathProg

/-- What the operations on an attachment work on. -/
structure Linked (N K V : Type) where
  workshop : Workshop N K V
  attachment : Attachment N K

/-- An operation on an attachment. -/
abbrev Link (N K V : Type) := ExceptT AttachmentError (StateM (Linked N K V))

namespace Link

variable {N K V : Type}

def attachment : Link N K V (Attachment N K) := do
  return (← get).attachment

def change (f : Attachment N K → Attachment N K) : Link N K V Unit :=
  modify (fun l => { l with attachment := f l.attachment })

/-- A part of the library that may fail. -/
def lift {ε α : Type} (cause : ε → AttachmentError) : Except ε α → Link N K V α
  | .ok x => return x
  | .error e => throw (cause e)

def backend (number : Nat) : Link N K V (Backend N K V) := do
  match (← get).workshop.backends[number]? with
  | some b => return b
  | none => throw .notAttached

def put (number : Nat) (b : Backend N K V) : Link N K V Unit :=
  modify (fun l => { l with workshop := l.workshop.put number b })

/-- The number of a backend from a source. -/
def obtain [Zero K] (source : BackendSource N) : Link N K V Nat := do
  let l ← get
  let (number, workshop) := l.workshop.obtain source
  set { l with workshop }
  return number

end Link

namespace Attachment

variable {N K V : Type}

/-- The number of the attached backend. -/
def attached : Link N K V Nat := do
  match (← Link.attachment).backend with
  | some number => return number
  | none => throw .notAttached

def detach : Link N K V Unit :=
  Link.change detached

/-- Detaches and takes another source. -/
def setSource (source : Option (BackendSource N)) : Link N K V Unit :=
  Link.change (fun _ => withSource source)

/-- Refuses a backend that does not support some constraint. -/
def check (b : Backend N K V) (r : Representation N K) : Link N K V Unit :=
  match b.unsupported? r with
  | some (function, set) => throw (.unsupportedConstraint b.name function set)
  | none => return

variable [Zero K] [One K] [Add K] [Sub K] [Mul K] [Neg K] [Div K] [BEq K] [LT K] [DecidableLT K]
variable [TextNumber K] [OperatorMeaning K] [Numeral N K] [CheckedArithmetic N K V]

/-- Writes the representation of the model into a backend, and attaches it once all is written. -/
def load (m : Model N K) (number : Nat) (r : Representation N K) : Link N K V Unit := do
  let b ← Link.backend number
  Link.change (fun a => { a with handleMap := .none })
  let (b, result) := b.load r
  Link.put number b
  let loaded ← Link.lift .backend result
  Link.change (fun a => { a with
    backend := some number
    hasObjective := loaded.hasObjective
    solvedRevision := none
    results := .none
    handleMap := ⟨loaded.handles, some m.revision⟩ })

/-- Attaches a backend from a source: the given one, or else the one remembered. The source is
remembered as soon as its backend has passed the check. -/
def attach (m : Model N K) (source? : Option (BackendSource N)) : Link N K V Nat := do
  let some source := source?.or (← Link.attachment).source | throw .noSource
  let r ← Link.lift .number m.represent
  let number ← Link.obtain source
  check (← Link.backend number) r
  Link.change (fun a => { a with source := some source, isAdopted := false })
  load m number r
  return number

/-- Attaches a backend that is there already, emptied unless it holds nothing. -/
def adopt (m : Model N K) (number : Nat) : Link N K V Unit := do
  let r ← Link.lift .number m.represent
  let b ← Link.backend number
  check b r
  if !b.isEmpty then Link.put number b.clear
  Link.change (fun a => { a with isAdopted := true })
  load m number r

/-- Builds the backend again if the model has changed, and for the first time if there is none. -/
def ensureSynced (m : Model N K) : Link N K V Unit := do
  let a ← Link.attachment
  match a.state m with
  | .empty => discard (attach m none)
  | .stale => if a.isAdopted then adopt m (← attached) else discard (attach m none)
  | _ => return

/-- Refuses a problem whose objective the backend has not taken, and gives the backend's number. -/
def checkObjective (m : Model N K) : Link N K V Nat := do
  let number ← attached
  let b ← Link.backend number
  if m.objective.isNonlinear && !b.supportsNonlinear then throw .nonlinear
  if !(← Link.attachment).hasObjective then
    throw (.unsupportedObjective b.name m.objective.kindName)
  return number

/-- Lets a backend solve its problem. -/
def callBackend (number : Nat) : Link N K V (Except BackendError Unit) := do
  let b ← Link.backend number
  let l ← get
  let (b, solver, result) := b.solve l.workshop.solver
  set { l with workshop := { l.workshop.put number b with solver } }
  return result

/-- Reads the results of a backend that has solved the model. -/
def collect (m : Model N K) (number : Nat) : Link N K V Unit := do
  let b ← Link.backend number
  let handles := (← Link.attachment).handleMap.handles
  let results ← Link.lift .backend (Results.collect m.revision b handles)
  Link.change (fun a => { a with results, solvedRevision := some m.revision })

/-- Solves the model. A failure of the backend is itself a result. -/
def solve (m : Model N K) : Link N K V Unit := do
  let a ← Link.attachment
  if a.backend.isNone && a.source.isNone then throw .nothingToSolve
  ensureSynced m
  let number ← checkObjective m
  match ← callBackend number with
  | .ok () => collect m number
  | .error e =>
    Link.change (fun a => { a with results := .ofFailure m.revision e.text })
    throw (.backend e)

end Attachment

end MathProg
