import MathProg.Attachment.Results
import MathProg.Model.Represent

/-!
# Attachments

An attachment ties a model to a backend. It remembers where its backend comes from, which revision
of the model the backend has been built from, and the results of the last solve. Whether it is up
to date is seen from the revisions alone.
-/

namespace MathProg

/-- Where a backend comes from: built afresh every time, or one that is there already. -/
inductive BackendSource (N : Type) where
  | fresh (spec : BackendSpec N)
  | existing (number : Nat)

/-- The handles of the model's references, and the revision they belong to. -/
structure HandleMap where
  handles : Handles
  revision : Option Nat

structure Attachment (N K : Type) where
  source : Option (BackendSource N)
  /-- The number of the backend that is attached. -/
  backend : Option Nat
  /-- Whether the backend was handed in, so that it is emptied and used again. -/
  isAdopted : Bool
  hasObjective : Bool
  solvedRevision : Option Nat
  handleMap : HandleMap
  results : Results N K

inductive AttachmentState where
  | empty
  | stale
  | clean
  | solved
deriving DecidableEq, Repr

/-- Why an operation on an attachment fails. The taker is the backend that refuses, by its name. -/
inductive AttachmentError where
  | noSource
  | notAttached
  | nothingToSolve
  /-- A number of the model that no coefficient holds. -/
  | number (e : NumberError)
  | unsupportedConstraint (taker : String) (function : FunctionFamily) (set : SetFamily)
  | nonlinear
  | unsupportedObjective (taker kind : String)
  | backend (e : BackendError)
deriving DecidableEq, Repr

/-- The backends that have been built, and the solver that they call. -/
structure Workshop (N K V : Type) where
  backends : List (Backend N K V)
  solver : ScriptedSolver N

namespace HandleMap

def none : HandleMap :=
  ⟨⟨[], []⟩, Option.none⟩

end HandleMap

namespace AttachmentState

def name : AttachmentState → String
  | empty => "EMPTY"
  | stale => "ATTACHED_STALE"
  | clean => "ATTACHED_CLEAN"
  | solved => "SOLVED"

instance : ToString AttachmentState := ⟨name⟩

end AttachmentState

/-- The message of an error; a failure inside a backend has its own. -/
def AttachmentError.message? : AttachmentError → Option String
  | noSource => some "no backend factory; call set_optimizer() or pass a factory to attach()"
  | notAttached => some "no backend is attached"
  | nothingToSolve => some "no backend is attached; call set_optimizer() or attach() first"
  | number _ => none
  | unsupportedConstraint taker function set =>
    let function := function.name
    let set := set.name
    some s!"backend {taker} does not support constraints of type {function}-in-{set}"
  | nonlinear =>
    some "The solver does not support nonlinear problems (i.e., nonlinear objective or constraints)."
  | unsupportedObjective taker kind =>
    some s!"backend {taker} does not support objective functions of type {kind}"
  | backend e => e.message?

namespace Workshop

variable {N K V : Type}

def empty : Workshop N K V :=
  ⟨[], .standard⟩

/-- Puts a new backend on the shelf and gives its number. -/
def build [Zero K] (w : Workshop N K V) (spec : BackendSpec N) : Nat × Workshop N K V :=
  (w.backends.length, { w with backends := w.backends ++ [.ofSpec spec] })

/-- The number of a backend from a source, which is built if it is to be fresh. -/
def obtain [Zero K] (w : Workshop N K V) : BackendSource N → Nat × Workshop N K V
  | .fresh spec => w.build spec
  | .existing number => (number, w)

def put (w : Workshop N K V) (number : Nat) (b : Backend N K V) : Workshop N K V :=
  { w with backends := w.backends.set number b }

end Workshop

namespace Attachment

variable {N K : Type}

/-- An attachment without a backend. -/
def new (source : Option (BackendSource N)) : Attachment N K :=
  ⟨source, none, false, false, none, .none, .none⟩

/-- Whether the backend was built from the model as it is now. -/
def isSynced (a : Attachment N K) (m : Model N K) : Bool :=
  a.handleMap.revision == some m.revision

def state (a : Attachment N K) (m : Model N K) : AttachmentState :=
  if a.backend.isNone then .empty
  else if !a.isSynced m then .stale
  else if a.solvedRevision == some m.revision then .solved
  else .clean

/-- The attachment without its backend; the source stays. -/
def detached (a : Attachment N K) : Attachment N K :=
  new a.source

/-- The attachment detached, and with another source. -/
def withSource (source : Option (BackendSource N)) : Attachment N K :=
  new source

end Attachment

end MathProg
