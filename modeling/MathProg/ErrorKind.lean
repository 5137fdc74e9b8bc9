/-!
# Kinds of errors

Every error is of a kind, by whose name it is known where its wording does not matter.
-/

namespace MathProg

inductive ErrorKind where
  | malformedText
  | wrongValue
  | wrongType
  | wrongIndex
  | missingKey
  | missingPart
  | missingName
  | outOfRange
  | divisionByZero
  /-- There is no room for a value. -/
  | exhausted
  /-- There is no room for an array. -/
  | noRoom
  | dimension
  | reference
  | unsupportedConstraint
  | unsupportedProblem
  | noBackend
  | noResult
  | noData
  | invalidConstraint
  | noSolver
  | failure
  /-- A message that never ends, because it shows a reference without a label. -/
  | endless
deriving DecidableEq, Repr

namespace ErrorKind

def name : ErrorKind → String
  | malformedText => "SyntaxError"
  | wrongValue => "ValueError"
  | wrongType => "TypeError"
  | wrongIndex => "IndexError"
  | missingKey => "KeyError"
  | missingPart => "AttributeError"
  | missingName => "NameError"
  | outOfRange => "OverflowError"
  | divisionByZero => "ZeroDivisionError"
  | exhausted => "MemoryError"
  | noRoom => "_ArrayMemoryError"
  | dimension => "DimensionMismatch"
  | reference => "InvalidReferenceError"
  | unsupportedConstraint => "UnsupportedBackendError"
  | unsupportedProblem => "UnsupportedProblemError"
  | noBackend => "NoOptimizerError"
  | noResult => "ResultIndexOutOfRange"
  | noData => "ResultUnavailableError"
  | invalidConstraint => "InvalidConstraintError"
  | noSolver => "ApplicationError"
  | failure => "RuntimeError"
  | endless => "RecursionError"

/-- The kind in angle brackets, where a message quotes an error without its wording. -/
def quoted (kind : ErrorKind) : String :=
  "<" ++ kind.name ++ ">"

end ErrorKind

end MathProg
