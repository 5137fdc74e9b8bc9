import MathProg.ConstraintSet.Call
import MathProg.Formula.Grammar
import MathProg.Formula.Juxtaposition
import MathProg.Formula.Polynomial
import MathProg.Representation.Basic
import MathProg.Text.Cutting

/-!
# Reading representations

A representation is read line by line. A line declares the variables, sets the objective or adds a
constraint, written `function in set` or with one of the comparisons `<=`, `>=` and `==`. The rest
of a line behind `#` is a comment. An unnamed variable at position `i` is declared and used as
`_[i]`. The first line that cannot be read is reported with its number.
-/

namespace MathProg

/-- What is wrong with a line. -/
inductive LineFault where
  | syntaxFault (e : Formula.SyntaxFault)
  | formula (e : Formula.FormulaError)
  /-- A product of variables in a vector. -/
  | notAffine
  | noSet (text : String)
  | setCall (e : SetCallError)
  | dimension (e : DimensionError)
  | noConstraint (text : String)
  /-- The placeholder with the given number stands at another position. -/
  | misplaced (number : String) (position : Nat)
  /-- The number of a placeholder has too many digits. -/
  | longNumber
deriving DecidableEq, Repr

/-- Why a text is no representation. -/
inductive ReadError where
  | atLine (line : Nat) (fault : LineFault)
  /-- A number that no coefficient or size can hold; it is reported without its line. -/
  | number (e : NumberError)
deriving DecidableEq, Repr

namespace Reader

open MathProg.Formula (Tree Polynomial position)
open MathProg.Text

/-! ## Placeholders of unnamed variables -/

/-- The digits of a placeholder `[i]` behind its underscore, and the rest. -/
def bracketedNumber? (s : List Char) : Option (List Char × List Char) :=
  match s with
  | '[' :: rest =>
    match rest.dropWhile isDigit with
    | ']' :: after =>
      let digits := rest.takeWhile isDigit
      if digits.isEmpty then none else some (digits, after)
    | _ => none
  | _ => none

theorem length_bracketedNumber? {s digits rest : List Char}
    (h : bracketedNumber? s = some (digits, rest)) : rest.length < s.length := by
  unfold bracketedNumber? at h
  split at h
  · rename_i tail
    have bound := Formula.Juxtaposition.length_dropWhile_le isDigit tail
    split at h
    · rename_i heq
      simp only [Option.ite_none_left_eq_some, Option.some.injEq, Prod.mk.injEq] at h
      rw [heq, h.2.2] at bound
      simp at bound ⊢
      omega
    · simp at h
  · simp at h

/-- The name that stands for a placeholder while a line is read. -/
def placeholderName (digits : List Char) : List Char :=
  "_unnamed_".toList ++ digits

/-- Writes every placeholder as a name. -/
def namePlaceholders (s : List Char) : List Char :=
  match s with
  | [] => []
  | c :: rest =>
    if c == '_' then
      match _found : bracketedNumber? rest with
      | some (digits, after) => placeholderName digits ++ namePlaceholders after
      | none => c :: namePlaceholders rest
    else c :: namePlaceholders rest
termination_by s.length
decreasing_by
  · have := length_bracketedNumber? _found
    simp
    omega
  · simp
  · simp

/-- The digits of a name that stands for a placeholder. -/
def placeholderDigits? (name : List Char) : Option (List Char) :=
  let mark := "_unnamed_".toList
  let digits := name.drop mark.length
  if mark.isPrefixOf name && !digits.isEmpty && digits.all isDigit then some digits else none

/-- The name of the variable declared at a position. -/
def declaredName (name : List Char) (position : Nat) : Except LineFault (Option String) :=
  match placeholderDigits? name with
  | none => .ok (some (String.ofList name))
  | some digits =>
    if 4300 < digits.length then .error .longNumber
    else if digitsValue digits = position + 1 then .ok none
    else .error (.misplaced (String.ofList digits) (position + 1))

/-! ## Functions and sets -/

variable {N K : Type}

def readFormula (s : List Char) : Except LineFault Tree :=
  (Formula.read (Formula.Juxtaposition.expand none (strip s))).mapError .syntaxFault

variable [Zero K] [One K] [Add K] [Mul K] [Neg K] [BEq K] [TextNumber K]

def polynomial (names : List String) (t : Tree) : Except LineFault (Polynomial K) :=
  (Polynomial.ofTree names t).mapError .formula

def readPosition (names : List String) (name : String) : Except LineFault Int := do
  let v ← (position names name).mapError .formula
  return v

/-- A formula over declared variables; a name alone is a variable. -/
def scalarFunction (names : List String) (t : Tree) : Except LineFault (Function K) :=
  match t with
  | .name id => do return .var (← readPosition names id)
  | _ => do return (← polynomial names t).toFunction

/-- A list of formulas; names alone make a vector of variables. -/
def vectorFunction (names : List String) (items : List Tree) : Except LineFault (Function K) :=
  match items.mapM Tree.name? with
  | some ids => do return .vars (← ids.mapM (readPosition names))
  | none => do
    let rows ← items.mapM (fun t => do
      match (← polynomial names t).toFunction with
      | .affine f => return f
      | _ => .error .notAffine)
    return .rows rows

/-- The value of a formula without variables. -/
def constantValue (t : Tree) : Except LineFault K := do
  return (← polynomial [] t).constantTerm

def readSet [Numeral N K] (s : List Char) : Except LineFault (ConstraintSet N) := do
  match ← readFormula s with
  | .call (.name id) arguments named =>
    if (SetFamily.ofName? id).isNone then .error (.setCall (.unknownSet id))
    else
      let positional : List K ← arguments.mapM constantValue
      let named : List (Option String × K) ← named.mapM (fun (field, t) => do
        return (field, ← constantValue t))
      (ConstraintSet.ofCall id positional named).mapError .setCall
  | _ => .error (.noSet (String.ofList s))

/-- Moves the constant of an affine or quadratic function into a set with bounds. -/
def moveConstant [Numeral N K] (f : Function K) (s : ConstraintSet N) :
    Except LineFault (Function K × ConstraintSet N) :=
  if f.constantPart == 0 || !s.isShiftable then .ok (f, s)
  else do
    let s ← (s.shifted (Numeral.ofCoefficient f.constantPart)).mapError (.formula ∘ .number)
    return (f.withoutConstant, s)

/-- The comparisons with the families of their sets, in the order in which they are looked for. -/
def comparisons : List (String × SetFamily) :=
  [("<=", .lessThan), (">=", .greaterThan), ("==", .equalTo)]

/-- The set of the numbers in the given relation to a bound. -/
def comparisonSet [Numeral N K] (family : SetFamily) (bound : K) : ConstraintSet N :=
  match family with
  | .greaterThan => .greaterThan (Numeral.ofCoefficient bound)
  | .equalTo => .equalTo (Numeral.ofCoefficient bound)
  | _ => .lessThan (Numeral.ofCoefficient bound)

/-- A constraint. In `function in set` the set is read first, in a comparison the bound. -/
def readConstraint [Numeral N K] (names : List String) (s : List Char) :
    Except LineFault (Function K × ConstraintSet N) :=
  match splitLast? " in ".toList s with
  | some (left, right) => do
    let set ← readSet right
    match ← readFormula left with
    | .list items =>
      let f ← vectorFunction names items
      let set ← (set.withDimension f.dimension).mapError .dimension
      return (f, set)
    | t => moveConstant (← scalarFunction names t) set
  | none =>
    let cut (comparison : String × SetFamily) :=
      (splitFirst? comparison.1.toList s).map (fun parts => (comparison.2, parts))
    match comparisons.findSome? cut with
    | some (family, left, right) => do
      let bound ← constantValue (← readFormula right)
      let t ← readFormula left
      moveConstant (← scalarFunction names t) (comparisonSet family bound)
    | none => .error (.noConstraint (String.ofList s))

/-! ## Lines -/

/-- What has been read so far: the names as they are written, and the representation. -/
structure State (N K : Type) where
  names : List String
  representation : Representation N K

/-- Splits a name and a colon off a constraint; something must follow them. -/
def splitLabel (s : List Char) : Option String × List Char :=
  let name := s.takeWhile isWord
  match (s.dropWhile isWord).dropWhile isBlank with
  | ':' :: rest =>
    let body := rest.dropWhile isBlank
    if name.head?.any Formula.Juxtaposition.isNameLetter && !body.isEmpty then
      (some (String.ofList name), body)
    else (none, s)
  | _ => (none, s)

/-- The text behind a keyword and its colon. -/
def afterKeyword? (keyword : String) (s : List Char) : Option (List Char) :=
  let mark := keyword.toList ++ [':']
  if mark.isPrefixOf s then some (s.drop mark.length) else none

/-- The line without its comment and outer blanks, placeholders written as names. -/
def cleanLine (s : List Char) : List Char :=
  namePlaceholders (strip (s.takeWhile (fun c => c != '#')))

def readVariables (state : State N K) (s : List Char) : Except LineFault (State N K) := do
  let names := ((splitAll ',' s).map strip).filter (fun name => !name.isEmpty)
  let declared ← names.zipIdx.mapM (fun (name, i) => declaredName name i)
  return ⟨names.map String.ofList, { state.representation with variableNames := declared }⟩

def readObjective (state : State N K) (sense : Sense) (s : List Char) :
    Except LineFault (State N K) := do
  let p ← polynomial state.names (← readFormula s)
  return { state with representation :=
    { state.representation with sense, objective := p.toFunction } }

def readLine [Numeral N K] (state : State N K) (line : List Char) : Except LineFault (State N K) :=
  if line.isEmpty then .ok state
  else
    match afterKeyword? "variables" line with
    | some rest => readVariables state rest
    | none =>
      match afterKeyword? "minobjective" line with
      | some rest => readObjective state .minimize rest
      | none =>
        match afterKeyword? "maxobjective" line with
        | some rest => readObjective state .maximize rest
        | none => do
          let (name, body) := splitLabel line
          let (function, set) ← readConstraint state.names body
          let entry : Entry N K := ⟨name, function, set⟩
          return { state with representation :=
            { state.representation with
              constraints := state.representation.constraints ++ [entry] } }

/-- How a fault is reported: a number out of range has no line. -/
def report (line : Nat) : LineFault → ReadError
  | .formula (.number .tooLarge) => .number .tooLarge
  | .setCall (.number .tooLarge) => .number .tooLarge
  | .setCall (.number .infinite) => .number .infinite
  | fault => .atLine line fault

end Reader

/-- Reads a representation. -/
def Representation.read {N K : Type} [Zero K] [One K] [Add K] [Mul K] [Neg K] [BEq K] [TextNumber K]
    [Numeral N K] (text : String) : Except ReadError (Representation N K) := do
  let start : Reader.State N K := ⟨[], .empty⟩
  let final ← (Text.lines text.toList).zipIdx.foldlM
    (fun state (line, i) =>
      (Reader.readLine state (Reader.cleanLine line)).mapError (Reader.report (i + 1))) start
  return final.representation

end MathProg
