import MathProg.Config.Data
import MathProg.Number.FloatReader
import MathProg.Text.Cutting

/-!
# Scalars of a configuration file

A scalar is a quoted text, or plain. A plain one is nothing, a truth value, an integer or a float if
it is spelled like one, and a text otherwise.
-/

namespace MathProg.Scalar

/-- Whether a text is a word in small letters, in capitals or with a first capital. -/
def spells (word text : String) : Bool :=
  text == word || text == word.toUpper || text == word.capitalize

/-! ## Integers -/

/-- The value of a digit or letter. -/
def digit? (base : Nat) (c : Char) : Option Nat :=
  let value :=
    if c.isDigit then c.toNat - '0'.toNat
    else if c.isLower then c.toNat - 'a'.toNat + 10
    else if c.isUpper then c.toNat - 'A'.toNat + 10
    else base
  if value < base then some value else none

/-- The value of some digits, between which underscores may stand. -/
def digits? (base : Nat) (digits : List Char) : Option Nat := do
  let values ← (digits.filter (· != '_')).mapM (digit? base)
  if values.isEmpty then none else return values.foldl (fun n d => base * n + d) 0

/-- A part of a number of base sixty behind its first part. -/
def sixtieth? (part : List Char) : Option Nat := do
  let n ← (if part.length ≤ 2 && !part.contains '_' then digits? 10 part else none)
  if n < 60 then some n else none

/-- A number whose first digit is not zero, or zero itself; parts of base sixty follow colons. -/
def decimal? (chars : List Char) : Option Nat :=
  match Text.splitAll ':' chars with
  | [['0']] => some 0
  | first :: parts => do
    if !first.head?.any (fun c => c.isDigit && c != '0') then none
    else
      let values ← parts.mapM sixtieth?
      return values.foldl (fun n d => 60 * n + d) (← digits? 10 first)
  | [] => none

def natural? : List Char → Option Nat
  | '0' :: 'b' :: digits => digits? 2 digits
  | '0' :: 'x' :: digits => digits? 16 digits
  | '0' :: c :: rest => if c == ':' then none else digits? 8 ('0' :: c :: rest)
  | chars => decimal? chars

def integer? (chars : List Char) : Option Int := do
  let (negative, chars) := FloatText.signed chars
  let n ← natural? chars
  return if negative then -(n : Int) else n

/-! ## Floats -/

/-- Whether an exponent, which needs a sign, or nothing is there. -/
def endsFloat : List Char → Bool
  | [] => true
  | mark :: sign :: digits =>
    (mark == 'e' || mark == 'E') && (sign == '+' || sign == '-') && !digits.isEmpty &&
      digits.all Char.isDigit
  | _ => false

def isGroup (c : Char) : Bool :=
  c.isDigit || c == '_'

/-- Whether a text is a float with a point. Only one with digits before the point has a sign. -/
def isPointed (chars : List Char) : Bool :=
  match Text.splitFirst? ['.'] chars with
  | some (before, after) =>
    let whole := (FloatText.signed before).2
    let starts := if before.isEmpty then after.head?.any Char.isDigit
      else whole.head?.any Char.isDigit && whole.all isGroup
    starts && endsFloat (after.dropWhile isGroup)
  | none => false

def float? (chars : List Char) : Option Float :=
  let (negative, unsigned) := FloatText.signed chars
  match unsigned with
  | '.' :: name =>
    let name := String.ofList name
    if ["inf", "Inf", "INF"].contains name then FloatText.read? (if negative then "-inf" else "inf")
    else if chars == unsigned && ["nan", "NaN", "NAN"].contains name then FloatText.read? "nan"
    else pointed
  | _ => pointed
where
  pointed : Option Float :=
    if isPointed chars then FloatText.read? (String.ofList (chars.filter (· != '_'))) else none

/-! ## Texts -/

/-- What a plain scalar stands for. -/
def plain (chars : List Char) : Data :=
  let text := String.ofList chars
  if text.isEmpty || text == "~" || spells "null" text then .null
  else if ["yes", "true", "on"].any (spells · text) then .truth true
  else if ["no", "false", "off"].any (spells · text) then .truth false
  else
    match integer? chars with
    | some n => .number (.integer n)
    | none =>
      match float? chars with
      | some x => .number (.real x)
      | none => .text text

/-- The character that a backslash and a letter stand for. -/
def escaped? : Char → Option Char
  | 'n' => some '\n'
  | 't' => some '\t'
  | 'r' => some '\r'
  | '0' => some (Char.ofNat 0)
  | c => if ['\\', '"', '/', ' '].contains c then some c else none

/-- The text after an opening mark of quotation, and what follows the closing one. A doubled mark is
one within single marks, and a backslash is special within double ones. -/
def quoted? (mark : Char) : List Char → Option (List Char × List Char)
  | [] => none
  | c :: d :: rest =>
    if c == '\\' && mark == '"' then do
      let (text, after) ← quoted? mark rest
      return ((← escaped? d) :: text, after)
    else if c == mark then
      if d == mark && mark == '\'' then
        (quoted? mark rest).map (fun (text, after) => (mark :: text, after))
      else some ([], d :: rest)
    else (quoted? mark (d :: rest)).map (fun (text, after) => (c :: text, after))
  | [c] => if c == mark then some ([], []) else none

end MathProg.Scalar
