import MathProg.Number.Basic

/-!
# Formula trees

The syntax of a formula. Only numbers, names, operators, lists and calls carry a meaning here; the
other forms of the language are kept apart as far as the grammar has to tell them.
-/

namespace MathProg.Formula

/-- The operators between two operands. -/
inductive BinaryOp where
  | add
  | sub
  | mul
  | matMul
  | div
  | floorDiv
  | mod
  | pow
  | shiftLeft
  | shiftRight
  | bitAnd
  | bitOr
  | bitXor
deriving DecidableEq, Repr

/-- The operators in front of one operand. -/
inductive UnaryOp where
  | plus
  | minus
  | invert
  | not
deriving DecidableEq, Repr

/-- A formula as it is written. -/
inductive Tree where
  | number (value : Literal)
  /-- A constant that is no number: a text, a truth value, an imaginary number. -/
  | constant
  | name (id : String)
  | binary (op : BinaryOp) (left right : Tree)
  | unary (op : UnaryOp) (operand : Tree)
  | list (items : List Tree)
  /-- A call with its arguments by position and by name; a spread argument has no name. -/
  | call (callee : Tree) (arguments : List Tree) (named : List (Option String × Tree))
  /-- An attribute or an entry of something. -/
  | member
  /-- Items between commas without brackets of their own. -/
  | bundle (items : List Tree)
  | starred (inner : Tree)
  /-- Any other form. -/
  | compound

namespace Tree

mutual

/-- Whether a loop may bind the tree. -/
def isTarget : Tree → Bool
  | name _ => true
  | member => true
  | starred inner => inner.isPlainTarget
  | list items => areTargets items
  | bundle items => areTargets items
  | _ => false

/-- Whether a loop may bind the tree behind a star. -/
def isPlainTarget : Tree → Bool
  | name _ => true
  | member => true
  | list items => areTargets items
  | bundle items => areTargets items
  | _ => false

def areTargets : List Tree → Bool
  | [] => true
  | item :: items => item.isTarget && areTargets items

end

/-- The name, if the tree is one. -/
def name? : Tree → Option String
  | name id => some id
  | _ => none

end Tree

end MathProg.Formula
