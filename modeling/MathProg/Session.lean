import MathProg.Attachment.Run
import MathProg.Attachment.Text

/-!
# Sessions

Several models, the backends that they share, and the attachments between models and backends. An
edit of one model, or an operation on one attachment, leaves all others as they are.
-/

namespace MathProg

/-- Models are known by their places; an attachment stands beside the place of its model. -/
structure Session (N K V : Type) where
  models : List (Model N K)
  workshop : Workshop N K V
  attachments : List (Nat × Attachment N K)

namespace Session

variable {N K V : Type}

def empty : Session N K V :=
  ⟨[], .empty, []⟩

def labels (s : Session N K V) : Labels :=
  .ofModels s.models

/-- Adds a model without variables and gives its place. -/
def addModel [Zero K] (s : Session N K V) (name : Option String) : Nat × Session N K V :=
  let place := s.models.length
  (place, { s with models := s.models ++ [.empty place name] })

/-- Adds an attachment of a model and gives its place. -/
def addAttachment (s : Session N K V) (model : Nat) (a : Attachment N K) :
    Nat × Session N K V :=
  (s.attachments.length, { s with attachments := s.attachments ++ [(model, a)] })

/-- An attachment with its model. -/
def attachment? (s : Session N K V) (place : Nat) : Option (Model N K × Attachment N K) := do
  let (model, a) ← s.attachments[place]?
  return (← s.models[model]?, a)

/-- The number of a backend from a source, which is built if it is to be fresh. -/
def obtain [Zero K] (s : Session N K V) (source : BackendSource N) : Nat × Session N K V :=
  let (number, workshop) := s.workshop.obtain source
  (number, { s with workshop })

/-- Replaces a backend. -/
def put (s : Session N K V) (number : Nat) (b : Backend N K V) : Session N K V :=
  { s with workshop := s.workshop.put number b }

/-- Gives the solver another script. -/
def withScript (s : Session N K V) (script : Script N) : Session N K V :=
  { s with workshop := { s.workshop with solver := { s.workshop.solver with script } } }

/-- Edits a model. -/
def edit {α : Type} (s : Session N K V) (m : Model N K) (op : Edit N K α) :
    Except (ModelError N K) α × Session N K V :=
  let (result, edited) := op.run.run m
  (result, { s with models := s.models.set m.id edited })

/-- Runs an operation on an attachment. -/
def link {α : Type} (s : Session N K V) (place : Nat) (a : Attachment N K) (op : Link N K V α) :
    Except AttachmentError α × Session N K V :=
  let (result, l) := op.run.run ⟨s.workshop, a⟩
  (result, { s with
    workshop := l.workshop
    attachments := s.attachments.modify place (fun (model, _) => (model, l.attachment)) })

section

variable [Zero K] [One K] [Add K] [Sub K] [Mul K] [Neg K] [Div K] [BEq K] [LT K] [DecidableLT K]
variable [TextNumber K] [OperatorMeaning K] [Numeral N K] [CheckedArithmetic N K V]

/-- Lets a backend solve its problem outside any attachment. -/
def solve (s : Session N K V) (number : Nat) (b : Backend N K V) :
    Except BackendError Unit × Session N K V :=
  let (b, solver, result) := b.solve s.workshop.solver
  (result, { s with workshop := { s.workshop.put number b with solver } })

/-- Runs a model with some settings. Gives the place of the attachment and the level of logging. -/
def run (s : Session N K V) (m : Model N K) (settings : Settings) :
    Except RunError (Nat × Nat) × Session N K V :=
  let (workshop, result) := Attachment.run m settings s.workshop
  let s := { s with workshop }
  match result with
  | .ok (a, level) =>
    let (place, s) := s.addAttachment m.id a
    (.ok (place, level), s)
  | .error e => (.error e, s)

end

end Session

end MathProg
