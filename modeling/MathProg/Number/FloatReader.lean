import MathProg.Number.Binary64
import MathProg.Text.Cutting
import MathProg.Text.Word

/-!
# Floats from text

A float is written with decimal digits, a point and an exponent, or as an infinity or not a number,
after an optional sign. Blanks may stand around it, the digits may be those of any script, and an
underscore may part two digits. The value is the float nearest to what is written.
-/

namespace MathProg.FloatText

/-- Whether a minus sign stands in front, and what follows the sign. -/
def signed : List Char → Bool × List Char
  | '-' :: rest => (true, rest)
  | '+' :: rest => (false, rest)
  | chars => (false, chars)

/-- The value of decimal digits. -/
def digitsValue (digits : List Char) : Nat :=
  digits.foldl (fun n c => 10 * n + (c.toNat - '0'.toNat)) 0

/-- The exponent that follows the digits, zero if nothing does. -/
def exponent? : List Char → Option Int
  | [] => some 0
  | mark :: rest =>
    let (negative, digits) := signed rest
    if (mark == 'e' || mark == 'E') && !digits.isEmpty && digits.all Char.isDigit then
      some (if negative then -(digitsValue digits : Int) else digitsValue digits)
    else none

/-- The digits before the point, those behind it, and the rest. -/
def splitDigits (chars : List Char) : List Char × List Char × List Char :=
  let whole := chars.takeWhile Char.isDigit
  match chars.dropWhile Char.isDigit with
  | '.' :: rest => (whole, rest.takeWhile Char.isDigit, rest.dropWhile Char.isDigit)
  | rest => (whole, [], rest)

def readDecimal? (negative : Bool) (chars : List Char) : Option Float := do
  let (whole, fraction, rest) := splitDigits chars
  let exponent ← exponent? rest
  if whole.isEmpty && fraction.isEmpty then none
  else
    let digits := digitsValue (whole ++ fraction)
    some (Binary64.ofDecimal negative digits (exponent - fraction.length))

/-- A decimal digit of any script as an ASCII one; other characters stay. -/
def asciiDigit (c : Char) : Char :=
  match Text.digitValue? c with
  | some n => .ofNat ('0'.toNat + n)
  | none => c

/-- The characters without the underscores that part two digits, if there are no others. -/
def joinGroups? : List Char → Option (List Char)
  | [] => some []
  | '_' :: _ => none
  | [c] => some [c]
  | c :: '_' :: d :: rest =>
    if c.isDigit && d.isDigit then do return c :: (← joinGroups? (d :: rest)) else none
  | c :: rest => do return c :: (← joinGroups? rest)

/-- The float that a text stands for. -/
def read? (text : String) : Option Float := do
  let (negative, chars) := signed (← joinGroups? ((Text.strip text.toList).map asciiDigit))
  let name := String.ofList (chars.map Char.toLower)
  if name == "inf" || name == "infinity" then some (Binary64.withSign negative (1.0 / 0.0))
  else if name == "nan" then some (0.0 / 0.0)
  else readDecimal? negative chars

end MathProg.FloatText
