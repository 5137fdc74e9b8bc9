import MathProg.Formula.Numeral
import MathProg.Formula.Quotation
import MathProg.Text.Identifier

/-!
# The lexer

A formula is cut into tokens. Blanks between tokens do not count, a comment runs to the end of its
line, and inside brackets a line break is a blank. Outside of brackets a line break ends the
formula; then only blank lines may follow.
-/

namespace MathProg.Formula.Lexer

/-- Operators and delimiters, the longer before the shorter ones. -/
def symbols : List String :=
  ["**=", "//=", ">>=", "<<=", "...",
    "**", "//", ">>", "<<", "<=", ">=", "==", "!=", "->", "+=", "-=", "*=", "/=", "%=", "&=", "|=",
    "^=", "@=", ":=", "<>",
    "+", "-", "*", "/", "%", "@", "&", "|", "^", "~", "<", ">", "(", ")", "[", "]", "\x7b", "\x7d",
    ",", ":", ";", ".", "="]

/-- The longest symbol at the front of the text. -/
def symbol? (s : List Char) : Option (String × List Char) :=
  (symbols.find? (fun w => w.toList.isPrefixOf s)).map (fun w => (w, s.drop w.length))

/-- Every line break as one line feed. -/
def unifyBreaks : List Char → List Char
  | [] => []
  | '\r' :: '\n' :: rest => '\n' :: unifyBreaks rest
  | '\r' :: rest => '\n' :: unifyBreaks rest
  | c :: rest => c :: unifyBreaks rest

def isGap (c : Char) : Bool :=
  c == ' ' || c == '\t' || c == '\x0c'

def skipComment (s : List Char) : List Char :=
  s.dropWhile (· != '\n')

/-- Whether blanks lead away from the margin; a form feed goes back to it. -/
def indents (gap : List Char) : Bool :=
  !(gap.reverse.takeWhile (· != '\x0c')).isEmpty

/-- What is left behind blank lines and comments. It must start at the margin, and so must the end
of the text; a line that is continued gives its indentation to the next. -/
def skipBlankLines : Nat → Bool → List Char → Option (List Char)
  | 0, _, _ => none
  | fuel + 1, indented, s =>
    let rest := s.dropWhile isGap
    let indented := indented || indents (s.takeWhile isGap)
    match rest with
    | '\n' :: more => skipBlankLines fuel false more
    | '#' :: _ => skipBlankLines fuel false (skipComment rest)
    | '\\' :: '\n' :: more => if more.isEmpty then none else skipBlankLines fuel indented more
    | _ => if indented then none else some rest

/-- Whether nothing but blank lines and comments is left. -/
def onlyBlank (s : List Char) : Bool :=
  skipBlankLines (s.length + 1) false s == some []

/-- How many brackets may be open at once. -/
def maxDepth : Nat := 200

/-- The brackets that are open after a symbol. -/
def brackets? (brackets : List Char) (symbol : String) : Option (List Char) :=
  match symbol.toList with
  | [c] =>
    if c == '(' || c == '[' || c == '{' then
      if brackets.length < maxDepth then some (c :: brackets) else none
    else
      match Quotation.opener? c with
      | none => some brackets
      | some expected =>
        match brackets with
        | innermost :: outer => if innermost == expected then some outer else none
        | [] => none
  | _ => some brackets

/-- A word: an identifier, or the marks in front of a quoted text. -/
def word? (s : List Char) : Option (Token × List Char) :=
  let word := s.takeWhile Numeral.continuesWord
  let rest := s.dropWhile Numeral.continuesWord
  let quoted := match rest with
    | quote :: _ => if quote == '\'' || quote == '"' then Quotation.marks? word else none
    | [] => none
  match quoted, word with
  | some marks, _ => Quotation.scan? marks rest
  | none, c :: others =>
    if Text.isIdentifierStart c && others.all Text.isIdentifierContinue then
      some (.word (String.ofList word), rest)
    else none
  | none, [] => none

/-- The token at the front of the text, which starts with no blank. -/
def token? (s : List Char) : Option (Token × List Char) :=
  match s with
  | [] => none
  | c :: rest =>
    if c.isDigit || (c == '.' && (rest.head?.any Char.isDigit)) then Numeral.scan? s
    else if c == '\'' || c == '"' then Quotation.scan? ⟨false, false, false⟩ s
    else if Numeral.continuesWord c then word? s
    else (symbol? s).map (fun (w, left) => (.symbol w, left))

/-- The brackets that are open after a token. -/
def bracketsAfter? (brackets : List Char) : Token → Option (List Char)
  | .symbol w => brackets? brackets w
  | _ => some brackets

/-- The tokens of a text, of which the first line has begun. -/
def tokens? : Nat → List Char → List Char → Option (List Token)
  | 0, _, _ => none
  | fuel + 1, brackets, s =>
    match s with
    | [] => if brackets.isEmpty then some [] else none
    | c :: rest =>
      if isGap c then tokens? fuel brackets rest
      else if c == '#' then tokens? fuel brackets (skipComment s)
      else if c == '\n' then
        if brackets.isEmpty then (if onlyBlank rest then some [] else none)
        else tokens? fuel brackets rest
      else if c == '\\' then
        match rest with
        | '\n' :: more => if more.isEmpty then none else tokens? fuel brackets more
        | _ => none
      else do
        let (token, left) ← token? s
        let brackets ← bracketsAfter? brackets token
        let others ← tokens? fuel brackets left
        return token :: others

/-- The tokens of a formula, or `none` if it is malformed. -/
def run? (s : List Char) : Option (List Token) := do
  let text := unifyBreaks s
  let text ← skipBlankLines (text.length + 1) false text
  tokens? (text.length + 1) [] text

end MathProg.Formula.Lexer
