import MathProg.ErrorKind
import MathProg.Expression.Equality
import MathProg.Representation.Difference
import MathProg.Representation.Reader
import MathProg.SmallProgram

/-!
# Reports of errors

An error is reported by its kind, and by a message where the library has words of its own for it. A
message that shows a reference needs the labels of the models. Every message of the reader of
representations starts with the number of the line; the wording of a malformed formula is not part of
the format, so it is only named by its kind in angle brackets.
-/

namespace MathProg

/-! ## Messages of the reader -/

namespace Formula

def SyntaxFault.kind : SyntaxFault → ErrorKind
  | malformed => .malformedText
  | nullCharacter => .wrongValue

/-- The message of an error; a number out of range has none. -/
def FormulaError.message? : FormulaError → Option String
  | number _ => none
  | nonNumericConstant => some "non-numeric constant in expression"
  | unknownVariable name => some s!"unknown variable '{name}' in expression"
  | operatorNotAllowed => some "operator not allowed in expression"
  | unaryOperatorNotAllowed => some "unary operator not allowed in expression"
  | unsupported => some "unsupported syntax in expression"
  | degree => some "products of degree greater than two are not supported"

end Formula

def SetCallError.message : SetCallError → String
  | unknownSet name => s!"unknown set '{name}'"
  | badArguments name => s!"bad arguments for set '{name}': " ++ ErrorKind.quoted .wrongType
  | number .notANumber => ErrorKind.quoted .wrongValue
  | number _ => ErrorKind.quoted .outOfRange

def LineFault.message : LineFault → String
  | syntaxFault e => e.kind.quoted
  | formula e => e.message?.getD (ErrorKind.quoted .outOfRange)
  | notAffine => "vector functions must be affine"
  | noSet text => s!"cannot parse set '{text}'"
  | setCall e => e.message
  | dimension e => e.message?.getD (ErrorKind.quoted .wrongValue)
  | noConstraint text => s!"cannot parse constraint '{text}'"
  | misplaced number position => s!"placeholder _[{number}] declared at position {position}"
  | longNumber => ErrorKind.quoted .wrongValue

/-- The message of an error; a number out of range has none. -/
def ReadError.message? : ReadError → Option String
  | atLine line fault =>
    let message := fault.message
    some s!"line {line}: {message}"
  | number _ => none

/-! ## Reports -/

structure ErrorReport where
  kind : ErrorKind
  message : Option String

/-- Errors that can be reported. -/
class Reported (ε : Type) where
  report : Labels → ε → ErrorReport

namespace ErrorReport

/-- A report of a kind alone. -/
def plain (kind : ErrorKind) : ErrorReport :=
  ⟨kind, none⟩

/-- A report whose message is missing when a label is. -/
def labelled (kind : ErrorKind) : Option (Option String) → ErrorReport
  | some message => ⟨kind, message⟩
  | none => plain .endless

end ErrorReport

open ErrorReport (plain labelled)

/-! ## Numbers and functions -/

instance : Reported NumberError where
  report _
    | .notANumber => plain .wrongValue
    | _ => plain .outOfRange

instance : Reported NamingError where
  report _
    | .missing => plain .wrongIndex
    | .bareNumber => plain .missingPart

instance : Reported OperatorError where
  report _
    | .unknownHead => plain .missingKey
    | .lengths => plain .wrongValue
    | .arity | .notSingle => plain .wrongType

def ArithmeticError.kind : ArithmeticError → ErrorKind
  | .divisionByZero => .divisionByZero
  | .overflow => .outOfRange
  | .complexOperand => .wrongType
  | .domain => .wrongValue

/-! ## Sets and representations -/

instance : Reported DimensionError where
  report _ e :=
    match e with
    | .negativeLength => plain .wrongValue
    | e => ⟨.dimension, e.message?⟩

instance : Reported SideError where
  report _
    | .impossible => plain .wrongValue
    | .noRoom => plain .noRoom

instance : Reported ReshapeError where
  report l
    | .wrongShape => plain .wrongType
    | .tooShort => plain .wrongIndex
    | .wrongLength => plain .wrongValue
    | .side e => Reported.report l e
    | .number e => Reported.report l e

instance : Reported ReadError where
  report l e :=
    match e with
    | .atLine _ _ => ⟨.wrongValue, e.message?⟩
    | .number e => Reported.report l e

/-! ## Configuration -/

def EvaluationError.kind : EvaluationError → ErrorKind
  | syntaxFault fault => fault.kind
  | unknownName _ => .missingName
  | arithmetic e => e.kind
  | _ => .wrongValue

instance : Reported EvaluationError where
  report _ e := ⟨e.kind, e.message?⟩

instance : Reported SettingsError where
  report l e :=
    match e with
    | .noItems => plain .wrongType
    | .option e => Reported.report l e
    | e => ⟨.wrongValue, e.message?⟩

instance : Reported Logging.LevelError where
  report _
    | .format => plain .wrongValue
    | .styles => plain .wrongType

/-! ## Expressions and models -/

instance : Reported ExpressionError where
  report l e :=
    match e with
    | .unknownOperator _ => ⟨.wrongValue, e.message?⟩
    | .arity _ _ _ => ⟨.wrongValue, e.message?⟩
    | .divisionByZero => plain .divisionByZero
    | .shapes => plain .wrongValue
    | .tooLong => plain .exhausted
    | .number e => Reported.report l e
    | e => ⟨.wrongType, e.message?⟩

instance : Reported ComparisonError where
  report _
    | .arrays => plain .wrongValue
    | .noKey => plain .wrongType

instance : Reported (ModelError Number Float) where
  report l e :=
    match e with
    | .expression e => Reported.report l e
    | .dimension e => Reported.report l e
    | .number e => Reported.report l e
    | .scalarNeeded _ _ => labelled .dimension (e.message? l)
    | .vectorNeeded _ => labelled .dimension (e.message? l)
    | .noVariable _ => labelled .reference (e.message? l)
    | .noConstraint _ => labelled .reference (e.message? l)
    | .noBound _ _ => labelled .reference (e.message? l)
    | .unknownSense => plain .wrongValue
    | .side e => Reported.report l e
    | e => labelled .wrongType (e.message? l)

/-! ## Backends and attachments -/

instance : Reported BackendError where
  report l e :=
    match e with
    | .unknown | .unknownConstraint _ => plain .missingKey
    | .tooShort => plain .wrongIndex
    | .wrongShape => plain .wrongType
    | .wrongFunction => plain .missingPart
    | .number e => Reported.report l e
    | .operator e => Reported.report l e
    | .failed _ => ⟨.failure, e.message?⟩
    | .inexpressibleFunction _ => ⟨.wrongType, e.message?⟩
    | .inexpressibleSet _ => ⟨.wrongType, e.message?⟩
    | .invalidConstraint => plain .invalidConstraint
    | .divisionByZero => plain .divisionByZero
    | .overflow => plain .outOfRange
    | .notReal => plain .wrongType
    | .noSolver _ => plain .noSolver
    | .givenProgram => plain .wrongType
    | .unknownSolver _ => plain .failure
    | e => ⟨.wrongValue, e.message?⟩

instance : Reported AttachmentError where
  report l e :=
    match e with
    | .number e => Reported.report l e
    | .backend e => Reported.report l e
    | .unsupportedConstraint _ _ _ => ⟨.unsupportedConstraint, e.message?⟩
    | .nonlinear => ⟨.unsupportedProblem, e.message?⟩
    | .unsupportedObjective _ _ => ⟨.unsupportedProblem, e.message?⟩
    | e => ⟨.noBackend, e.message?⟩

instance : Reported (HandleError Number Float) where
  report l e := labelled .reference ((e.message? l).map some)

instance : Reported (ResultError Number Float) where
  report l e :=
    match e with
    | .outOfRange _ _ _ => labelled .noResult (e.message? l)
    | .foreign _ => labelled .reference (e.message? l)
    | .noConstraint _ => labelled .wrongType (e.message? l)
    | .noValue _ => labelled .wrongType (e.message? l)
    | .noNumber => plain .wrongValue
    | .model e => Reported.report l e
    | .reshape e => Reported.report l e
    | .number e => Reported.report l e
    | .operator e => Reported.report l e
    | e => labelled .noData (e.message? l)

instance : Reported RunError where
  report l e :=
    match e with
    | .settings e => Reported.report l e
    | .level e => Reported.report l e
    | .attachment e => Reported.report l e

instance : Reported SmallProgram.SolveError where
  report l
    | .run e => Reported.report l e
    | .result e => Reported.report l e

end MathProg
