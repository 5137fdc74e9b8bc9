import MathProg.Config.Arithmetic
import MathProg.Text.Cutting

/-!
# Option tables

The options of a solver. A text that looks like arithmetic is replaced by its value; it may name the
numeric options of the table as they are at that moment, so earlier options are already replaced. A
text without a value is kept, since many options are plain texts.
-/

namespace MathProg

def Quantity.toData : Quantity → Data
  | number n => .number n
  | complex z => .complex z

namespace Options

/-- Whether a text is tried as arithmetic. -/
def looksArithmetic (s : List Char) : Bool :=
  s.any (fun c => "+-*/()".toList.contains c)

/-- What the value of an option becomes, the names being those of the table. -/
def resolveValue (names : Table) (value : Data) : Except EvaluationError Data :=
  match value with
  | .text s =>
    let s := Text.strip s.toList
    if looksArithmetic s then
      match Formula.evaluate names s with
      | .ok q => .ok q.toData
      | .error e => if e.isHarmless then .ok value else .error e
    else .ok value
  | _ => .ok value

/-- Replaces the values of the options behind those that are done. -/
def resolveFrom (done : Table) : Table → Except EvaluationError Table
  | [] => .ok done
  | (key, value) :: rest => do
    let value ← resolveValue (done ++ (key, value) :: rest) value
    resolveFrom (done ++ [(key, value)]) rest

/-- Replaces the values of all options in their order. -/
def resolve (options : Table) : Except EvaluationError Table :=
  resolveFrom [] options

end Options

end MathProg
