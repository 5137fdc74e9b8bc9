import MathProg.ConstraintSet.Basic

/-!
# Sets as text

A set is written as its name and its arguments by name, as in `Interval(lower=0.0, upper=4.0)`.
-/

namespace MathProg

/-- The name of a cone. -/
def Cone.name : Cone → String
  | zeros => "Zeros"
  | nonnegatives => "Nonnegatives"
  | nonpositives => "Nonpositives"
  | secondOrder => "SecondOrderCone"
  | rotatedSecondOrder => "RotatedSecondOrderCone"

def MatrixLayout.name : MatrixLayout → String
  | triangle => "PositiveSemidefiniteConeTriangle"
  | square => "PositiveSemidefiniteConeSquare"

namespace SetFamily

def name : SetFamily → String
  | lessThan => "LessThan"
  | greaterThan => "GreaterThan"
  | equalTo => "EqualTo"
  | interval => "Interval"
  | integer => "Integer"
  | zeroOne => "ZeroOne"
  | vector cone => cone.name
  | matrix layout => layout.name

def all : List SetFamily :=
  [lessThan, greaterThan, equalTo, interval, integer, zeroOne, vector .zeros, vector .nonnegatives,
    vector .nonpositives, vector .secondOrder, vector .rotatedSecondOrder, matrix .triangle,
    matrix .square]

def ofName? (name : String) : Option SetFamily :=
  all.find? (fun family => family.name == name)

instance : ToString SetFamily := ⟨name⟩

/-- The names of the arguments. -/
def fields : SetFamily → List String
  | lessThan => ["upper"]
  | greaterThan => ["lower"]
  | equalTo => ["value"]
  | interval => ["lower", "upper"]
  | integer => []
  | zeroOne => []
  | vector _ => ["dimension"]
  | matrix _ => ["side"]

end SetFamily

def SetKind.name : SetKind → String
  | scalar => "SCALAR"
  | vector => "VECTOR"
  | matrix .triangle => "PSD_TRIANGLE"
  | matrix .square => "PSD_SQUARE"

instance : ToString SetKind := ⟨SetKind.name⟩

namespace ConstraintSet

def sizeText : Option Number → String
  | some n => n.text
  | none => "None"

/-- The texts of the arguments, in the order of `SetFamily.fields`. -/
def arguments : ConstraintSet Number → List String
  | .lessThan upper => [upper.text]
  | .greaterThan lower => [lower.text]
  | .equalTo value => [value.text]
  | .interval lower upper => [lower.text, upper.text]
  | .integer => []
  | .zeroOne => []
  | .vector _ dimension => [sizeText dimension]
  | .matrix _ side => [sizeText side]

def text (s : ConstraintSet Number) : String :=
  let arguments :=
    List.zipWith (fun field value => field ++ "=" ++ value) s.family.fields s.arguments
  s.family.name ++ "(" ++ ", ".intercalate arguments ++ ")"

instance : ToString (ConstraintSet Number) := ⟨text⟩

end ConstraintSet

/-- The message of an error of dimension; a negative length has none. -/
def DimensionError.message? : DimensionError → Option String
  | scalarSet family n =>
    let name := family.name
    some s!"scalar set {name} cannot hold a function of dimension {n}"
  | mismatch family n expected =>
    let name := family.name
    some s!"function of dimension {n} does not match {name} of dimension {expected}"
  | notTriangular n => some s!"{n} is not the length of a triangular matrix vectorization"
  | notSquareNumber n => some s!"{n} is not the length of a square matrix vectorization"
  | negativeLength => none
  | noMatrix family =>
    let name := family.name
    some s!"set {name} does not take a matrix function"
  | notSquare => some "matrix function must be square"
  | sideMismatch family n expected =>
    let name := family.name
    some s!"matrix of side {n} does not match {name} of side {expected}"

end MathProg
