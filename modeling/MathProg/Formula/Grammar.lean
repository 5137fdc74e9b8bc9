import MathProg.Formula.Tree
import MathProg.Formula.Lexer
import MathProg.Text.NormalForm

/-!
# The grammar of formulas

The next token always decides how to go on, so nothing is read twice. Each rule of the grammar is
one step that calls other rules through `self`; `parse` ties the steps together for as many calls
as the text can need.
-/

namespace MathProg.Formula.Grammar

/-- Reads a part of the tokens; `none` when they do not fit. -/
abbrev Parser := StateT (List Token) Option

/-- The rules that call each other. -/
inductive Rule where
  /-- A choice between two values, or a function. -/
  | expression
  /-- An expression that may be given a name. -/
  | named
  | disjunction
  | inversion
  | comparison
  /-- Binary operators of a precedence, from the loosest at zero. -/
  | operation (level : Nat)
  | signed
  | power
  | primary
  | atom
  /-- What an embedded formula of a text holds. -/
  | embedded

/-! ## Reading tokens -/

def peek : Parser (Option Token) :=
  return (← get).head?

def advance : Parser Unit :=
  modify List.tail

def fail {α : Type} : Parser α :=
  fun _ => none

/-- Whether the token stands next. -/
def sees (t : Token) : Parser Bool :=
  return (← get).head? == some t

/-- Reads the token if it stands next. -/
def accept (t : Token) : Parser Bool := do
  if ← sees t then
    advance
    return true
  else return false

def expect (t : Token) : Parser Unit := do
  unless ← accept t do fail

/-- Reads a name that is no keyword as it is written. Names that have one normal form are the same.
-/
def nameToken : Parser String := do
  match ← peek with
  | some (.word id) =>
    if isKeyword id then fail
    else
      advance
      return Text.normalForm id
  | _ => fail

/-- Whether a name stands next and the symbol behind it. -/
def seesNameAnd (symbol : String) : Parser Bool := do
  match ← get with
  | .word id :: .symbol w :: _ => return !isKeyword id && w == symbol
  | _ => return false

/-- Items between commas up to the closing token, which is read too; a last comma may follow them.
Says also whether any comma stood there. -/
def items (closing : Token) (item : Parser Tree) : Nat → Parser (List Tree × Bool)
  | 0 => fail
  | fuel + 1 => do
    if ← accept closing then return ([], false)
    let first ← item
    if ← accept (.symbol ",") then
      let (others, _) ← items closing item fuel
      return (first :: others, true)
    else
      expect closing
      return ([first], false)

/-- One item and, as long as `more` agrees, a further one. -/
def chain (more : Parser Bool) (item : Parser Tree) : Nat → Parser Tree
  | 0 => fail
  | fuel + 1 => do
    let first ← item
    if ← more then
      let _ ← chain more item fuel
      return .compound
    else return first

/-- How many tokens are left, as a bound on repetition. -/
def remaining : Parser Nat :=
  return (← get).length + 1

/-! ## Operators -/

/-- The binary operators of each precedence but the power, from the loosest. -/
def levels : List (List (String × BinaryOp)) :=
  [[("|", .bitOr)],
    [("^", .bitXor)],
    [("&", .bitAnd)],
    [("<<", .shiftLeft), (">>", .shiftRight)],
    [("+", .add), ("-", .sub)],
    [("*", .mul), ("/", .div), ("//", .floorDiv), ("%", .mod), ("@", .matMul)]]

/-- The operator of a level that stands next. -/
def operator? (level : Nat) : Option Token → Option BinaryOp
  | some (.symbol w) => ((levels[level]?).getD []).lookup w
  | _ => none

/-- Further operands of a level, grouped from the left. -/
def operands (level : Nat) (operand : Parser Tree) (left : Tree) : Nat → Parser Tree
  | 0 => fail
  | fuel + 1 => do
    match operator? level (← peek) with
    | some op =>
      advance
      let right ← operand
      operands level operand (.binary op left right) fuel
    | none => return left

/-- Reads a comparison operator if one stands next. -/
def comparator : Parser Bool := do
  match ← get with
  | .symbol w :: _ =>
    if ["==", "!=", "<=", "<", ">=", ">"].contains w then
      advance
      return true
    else return false
  | .word "in" :: _ => advance; return true
  | .word "not" :: .word "in" :: _ => advance; advance; return true
  | .word "is" :: .word "not" :: _ => advance; advance; return true
  | .word "is" :: _ => advance; return true
  | _ => return false

section Rules

variable (self : Rule → Parser Tree)

/-! ## Loops and arguments -/

/-- An expression behind a star, or a named expression. -/
def starredOrNamed : Parser Tree := do
  if ← accept (.symbol "*") then return .starred (← self (.operation 0))
  else self .named

/-- An expression behind a star, or an expression. -/
def starredOrExpression : Parser Tree := do
  if ← accept (.symbol "*") then return .starred (← self (.operation 0))
  else self .expression

/-- What one loop variable may look like. -/
def target : Parser Tree := do
  if ← accept (.symbol "*") then return .starred (← self .primary)
  else self .primary

/-- The variables of a loop, up to and with the word `in`. -/
def targets : Nat → Parser Bool
  | 0 => fail
  | fuel + 1 => do
    let first ← target self
    if !first.isTarget then fail
    if ← accept (.word "in") then return true
    expect (.symbol ",")
    if ← accept (.word "in") then return true
    targets fuel

/-- The conditions of a loop. -/
def conditions : Nat → Parser Unit
  | 0 => fail
  | fuel + 1 => do
    if ← accept (.word "if") then
      let _ ← self .disjunction
      conditions fuel

/-- Whether a loop begins here. -/
def seesLoop : Parser Bool := do
  match ← get with
  | .word "for" :: _ => return true
  | .word "async" :: .word "for" :: _ => return true
  | _ => return false

/-- One or more loops. -/
def loops : Nat → Parser Unit
  | 0 => fail
  | fuel + 1 => do
    let _ ← accept (.word "async")
    expect (.word "for")
    let _ ← targets self fuel
    let _ ← self .disjunction
    conditions self fuel
    if ← seesLoop then loops fuel

/-- The loops behind an element and the closing token. -/
def loopsUpTo (closing : Token) : Parser Tree := do
  loops self (← remaining)
  expect closing
  return .compound

/-- What the arguments of a call have come to: by position, then named ones, then spread names. -/
inductive Phase where
  | positional
  | named
  | spread
deriving DecidableEq

/-- The arguments of a call behind its opening bracket. -/
def arguments : Nat → Phase → Parser (List Tree × List (Option String × Tree))
  | 0, _ => fail
  | fuel + 1, phase => do
    let more (phase : Phase) : Parser (List Tree × List (Option String × Tree)) := do
      if ← accept (.symbol ",") then arguments fuel phase
      else
        expect (.symbol ")")
        return ([], [])
    if ← accept (.symbol ")") then return ([], [])
    else if ← accept (.symbol "**") then
      let value ← self .expression
      let (args, named) ← more .spread
      return (args, (none, value) :: named)
    else if ← accept (.symbol "*") then
      if phase = .spread then fail
      let value ← self .expression
      let (args, named) ← more phase
      return (.starred value :: args, named)
    else if ← seesNameAnd "=" then
      let id ← nameToken
      advance
      let value ← self .expression
      let (args, named) ← more (if phase = .spread then .spread else .named)
      return (args, (some id, value) :: named)
    else
      if phase ≠ .positional then fail
      let value ← self .named
      let (args, named) ← more phase
      return (value :: args, named)

/-- A call behind its opening bracket. A lone element may be followed by loops. -/
def call (callee : Tree) : Parser Tree := do
  let start ← get
  let plain ← do
    match start with
    | .symbol ")" :: _ | .symbol "*" :: _ | .symbol "**" :: _ => pure true
    | _ => seesNameAnd "="
  if plain then
    let (args, named) ← arguments self (← remaining) .positional
    return .call callee args named
  else
    let first ← self .named
    if ← seesLoop then
      let _ ← loopsUpTo self (.symbol ")")
      return .call callee [.compound] []
    else if ← accept (.symbol ",") then
      let (args, named) ← arguments self (← remaining) .positional
      return .call callee (first :: args) named
    else
      expect (.symbol ")")
      return .call callee [first] []

/-! ## Entries -/

/-- Whether an entry's bound ends here. -/
def seesBoundEnd : Parser Bool := do
  match ← peek with
  | some (.symbol w) => return w == ":" || w == "," || w == "]"
  | _ => return false

def bound : Parser Unit := do
  unless ← seesBoundEnd do
    let _ ← self .expression

/-- One position of an entry: a value, or bounds between colons. -/
def entry : Parser Tree := do
  if ← accept (.symbol "*") then return .starred (← self .expression)
  let isSlice ← sees (.symbol ":")
  let namesValue ← seesNameAnd ":="
  let first ← if isSlice then pure .compound else self .named
  if namesValue then return first
  if ← accept (.symbol ":") then
    bound self
    if ← accept (.symbol ":") then bound self
    return .compound
  else return first

/-! ## Functions -/

/-- One parameter's default, if it has one. -/
def defaultValue : Parser Bool := do
  if ← accept (.symbol "=") then
    let _ ← self .expression
    return true
  else return false

/-- The parameters of a function up to and with the colon. `starred` is set behind the star, `bare`
when no parameter has followed a lone star yet; `count` and `defaults` concern those before it. -/
def parameters : Nat → Bool → Bool → Bool → Nat → Bool → Parser Unit
  | 0, _, _, _, _, _ => fail
  | fuel + 1, starred, bare, slashed, count, defaults => do
    if ← accept (.symbol ":") then
      if bare then fail
    else if ← accept (.symbol "**") then
      if bare then fail
      let _ ← nameToken
      let _ ← accept (.symbol ",")
      expect (.symbol ":")
    else if ← accept (.symbol "*") then
      if starred then fail
      if ← sees (.symbol ",") then
        advance
        parameters fuel true true slashed count defaults
      else
        let _ ← nameToken
        if ← sees (.symbol ":") then parameters fuel true false slashed count defaults
        else
          expect (.symbol ",")
          parameters fuel true false slashed count defaults
    else if ← accept (.symbol "/") then
      if starred || slashed || count = 0 then fail
      if ← sees (.symbol ":") then parameters fuel starred false true count defaults
      else
        expect (.symbol ",")
        parameters fuel starred false true count defaults
    else
      let _ ← nameToken
      let given ← defaultValue self
      if !starred && defaults && !given then fail
      let defaults := defaults || (!starred && given)
      if ← sees (.symbol ":") then parameters fuel starred false slashed (count + 1) defaults
      else
        expect (.symbol ",")
        parameters fuel starred false slashed (count + 1) defaults

/-! ## Brackets -/

/-- Items behind a first one and a comma. -/
def bundleUpTo (closing : Token) (first : Tree) : Parser Tree := do
  let (others, _) ← items closing (starredOrNamed self) (← remaining)
  return .bundle (first :: others)

/-- What a suspended function hands out, behind its word. -/
def handedOut (closing : Token) : Parser Tree := do
  if ← accept (.word "from") then
    let _ ← self .expression
    expect closing
    return .compound
  if ← accept closing then return .compound
  let _ ← starredOrExpression self
  if ← accept (.symbol ",") then
    let _ ← items closing (starredOrExpression self) (← remaining)
    return .compound
  else
    expect closing
    return .compound

/-- What stands between round brackets: nothing, one value, several, or a loop. -/
def group : Parser Tree := do
  let closing := Token.symbol ")"
  if ← accept closing then return .bundle []
  if ← accept (.word "yield") then return ← handedOut self closing
  let first ← starredOrNamed self
  if ← accept (.symbol ",") then bundleUpTo self closing first
  else
    match first with
    | .starred _ => fail
    | _ =>
      if ← seesLoop then loopsUpTo self closing
      else
        expect closing
        return first

/-- What stands between square brackets. -/
def listDisplay : Parser Tree := do
  let closing := Token.symbol "]"
  if ← accept closing then return .list []
  let first ← starredOrNamed self
  if ← accept (.symbol ",") then
    let (others, _) ← items closing (starredOrNamed self) (← remaining)
    return .list (first :: others)
  else
    match first with
    | .starred _ =>
      expect closing
      return .list [first]
    | _ =>
      if ← seesLoop then loopsUpTo self closing
      else
        expect closing
        return .list [first]

/-- A key with its value, or a spread table. -/
def keyValue : Parser Tree := do
  if ← accept (.symbol "**") then self (.operation 0)
  else
    let _ ← self .expression
    expect (.symbol ":")
    self .expression

/-- What stands between curly brackets: a table or a set. -/
def tableOrSet : Parser Tree := do
  let closing := Token.symbol "\x7d"
  if ← accept closing then return .compound
  if ← accept (.symbol "**") then
    let _ ← self (.operation 0)
    if ← accept (.symbol ",") then
      let _ ← items closing (keyValue self) (← remaining)
      return .compound
    else
      expect closing
      return .compound
  let isNamed ← seesNameAnd ":="
  let first ← starredOrNamed self
  let isStarred := match first with
    | .starred _ => true
    | _ => false
  if !isNamed && !isStarred && (← accept (.symbol ":")) then
    let _ ← self .expression
    if ← seesLoop then loopsUpTo self closing
    else if ← accept (.symbol ",") then
      let _ ← items closing (keyValue self) (← remaining)
      return .compound
    else
      expect closing
      return .compound
  else if ← accept (.symbol ",") then
    let _ ← items closing (starredOrNamed self) (← remaining)
    return .compound
  else if !isStarred && (← seesLoop) then loopsUpTo self closing
  else
    expect closing
    return .compound

/-! ## Texts -/

/-- Whether the formulas embedded in a text are well formed. -/
def fieldsOk : List (List Char) → Bool
  | [] => true
  | field :: fields =>
    match Lexer.run? ('(' :: field ++ [')']) with
    | some tokens => ((self .embedded).run tokens).isSome && fieldsOk fields
    | none => false

/-- Texts that stand side by side are one. Characters and bytes do not mix. -/
def texts (bytes formatted : Bool) : Nat → Parser Tree
  | 0 => fail
  | fuel + 1 => do
    match ← peek with
    | some .text =>
      if bytes then fail
      advance
      texts bytes formatted fuel
    | some (.formatted fields) =>
      if bytes || !fieldsOk self fields then fail
      advance
      texts bytes true fuel
    | some .bytes =>
      if !bytes then fail
      advance
      texts bytes formatted fuel
    | _ => return if formatted then .compound else .constant

/-! ## The rules -/

def atom : Parser Tree := do
  match ← peek with
  | some (.number value) => advance; return .number value
  | some .imaginary => advance; return .constant
  | some .text => texts self false false (← remaining)
  | some (.formatted _) => texts self false false (← remaining)
  | some .bytes => texts self true false (← remaining)
  | some (.word id) =>
    if ["True", "False", "None"].contains id then
      advance
      return .constant
    else return .name (← nameToken)
  | some (.symbol "(") => advance; group self
  | some (.symbol "[") => advance; listDisplay self
  | some (.symbol "\x7b") => advance; tableOrSet self
  | some (.symbol "...") => advance; return .constant
  | _ => fail

/-- Attributes, entries and calls behind a value. -/
def trailers (value : Tree) : Nat → Parser Tree
  | 0 => fail
  | fuel + 1 => do
    if ← accept (.symbol ".") then
      let _ ← nameToken
      trailers .member fuel
    else if ← accept (.symbol "[") then
      if ← sees (.symbol "]") then fail
      let _ ← items (.symbol "]") (entry self) (← remaining)
      trailers .member fuel
    else if ← accept (.symbol "(") then
      let value ← call self value
      trailers value fuel
    else return value

/-- One step of a rule. -/
def step : Rule → Parser Tree
  | .expression => do
    if ← accept (.word "lambda") then
      parameters self (← remaining) false false false 0 false
      let _ ← self .expression
      return .compound
    let value ← self .disjunction
    if ← accept (.word "if") then
      let _ ← self .disjunction
      expect (.word "else")
      let _ ← self .expression
      return .compound
    else return value
  | .named => do
    if ← seesNameAnd ":=" then
      advance
      advance
      let _ ← self .expression
      return .compound
    else self .expression
  | .disjunction => do
    let conjunction : Parser Tree := do
      chain (accept (.word "and")) (self .inversion) (← remaining)
    chain (accept (.word "or")) conjunction (← remaining)
  | .inversion => do
    if ← accept (.word "not") then return .unary .not (← self .inversion)
    else self .comparison
  | .comparison => do
    chain comparator (self (.operation 0)) (← remaining)
  | .operation level => do
    let operand := self (if level + 1 < levels.length then .operation (level + 1) else .signed)
    let left ← operand
    operands level operand left (← remaining)
  | .signed => do
    if ← accept (.symbol "+") then return .unary .plus (← self .signed)
    else if ← accept (.symbol "-") then return .unary .minus (← self .signed)
    else if ← accept (.symbol "~") then return .unary .invert (← self .signed)
    else self .power
  | .power => do
    let base ←
      if ← accept (.word "await") then do
        let _ ← self .primary
        pure Tree.compound
      else self .primary
    if ← accept (.symbol "**") then return .binary .pow base (← self .signed)
    else return base
  | .primary => do
    let value ← self .atom
    trailers self value (← remaining)
  | .atom => atom self
  | .embedded => do
    expect (.symbol "(")
    let value ← group self
    match ← peek with
    | none => return value
    | some _ => fail

end Rules

/-- Runs a rule with a bound on how deep rules may call each other. -/
def parse : Nat → Rule → Parser Tree
  | 0, _ => fail
  | fuel + 1, rule => step (parse fuel) rule

/-- A whole formula: one expression, or several between commas. -/
def formula (fuel : Nat) : Parser Tree := do
  let first ← parse fuel .expression
  match ← get with
  | [] => return first
  | .symbol "," :: _ =>
    advance
    rest first (← remaining)
  | _ => fail
where
  rest (first : Tree) : Nat → Parser Tree
    | 0 => fail
    | count + 1 => do
      match ← get with
      | [] => return .bundle [first]
      | _ =>
        let _ ← parse fuel .expression
        match ← get with
        | [] => return .bundle [first]
        | .symbol "," :: _ =>
          advance
          rest first count
        | _ => fail

end Grammar

/-- Why a text is no formula. -/
inductive SyntaxFault where
  | malformed
  /-- The text holds a null character. -/
  | nullCharacter
deriving DecidableEq, Repr

/-- Reads a whole text as a formula. -/
def read (s : List Char) : Except SyntaxFault Tree :=
  if s.contains '\x00' then .error .nullCharacter
  else
    match Lexer.run? s with
    | none => .error .malformed
    | some tokens =>
      -- between two brackets at most sixteen rules call each other
      match (Grammar.formula (16 * (s.length + 2))).run tokens with
      | some (tree, []) => .ok tree
      | _ => .error .malformed

end MathProg.Formula
