import MathProg.Number.Basic

/-!
# Tokens of formulas
-/

namespace MathProg.Formula

/-- A lexical unit. -/
inductive Token where
  /-- A name or a keyword. -/
  | word (id : String)
  | number (value : Literal)
  | imaginary
  /-- A quoted text of characters. -/
  | text
  /-- A quoted text of bytes. -/
  | bytes
  /-- A quoted text with embedded formulas. -/
  | formatted (fields : List (List Char))
  | symbol (s : String)
deriving DecidableEq, Repr

/-- The words that are no names. -/
def keywords : List String :=
  ["False", "None", "True", "and", "as", "assert", "async", "await", "break", "class", "continue",
    "def", "del", "elif", "else", "except", "finally", "for", "from", "global", "if", "import", "in",
    "is", "lambda", "nonlocal", "not", "or", "pass", "raise", "return", "try", "while", "with",
    "yield"]

def isKeyword (s : String) : Bool :=
  keywords.contains s

end MathProg.Formula
