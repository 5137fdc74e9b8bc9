import MathProg.Formula.Token
import MathProg.Text.Word

/-!
# Numerals

Reading a number off the front of a text. Digits may be grouped by single underscores. An integer in
decimal notation has no leading zeros and at most 4300 digits, unless all of them are zeros. A
numeral ends before a letter only if an operator word follows.
-/

namespace MathProg.Formula.Numeral

/-- A run of digits with single underscores between them, and the rest of the text. A run that
breaks off at an underscore is malformed. -/
def digits? (ok : Char → Bool) : List Char → Option (List Char × List Char)
  | [] => some ([], [])
  | c :: rest =>
    if ok c then (digits? ok rest).map (fun (run, left) => (c :: run, left))
    else if c == '_' then
      match rest with
      | d :: _ => if ok d then digits? ok rest else none
      | [] => none
    else some ([], c :: rest)

def digitValue (c : Char) : Nat :=
  if c.isDigit then c.toNat - '0'.toNat else c.toLower.toNat - 'a'.toNat + 10

/-- The number written by the digits in the given base. -/
def value (base : Nat) (digits : List Char) : Nat :=
  digits.foldl (fun n c => base * n + digitValue c) 0

/-- The words that may stand right behind a numeral. -/
def operatorWords : List String :=
  ["and", "else", "for", "if", "in", "is", "or", "not"]

/-- A character that would continue a word. -/
def continuesWord (c : Char) : Bool :=
  c.isAlphanum || c == '_' || 128 ≤ c.toNat

/-- Whether a numeral may end in front of `rest`. -/
def endsAt (rest : List Char) : Bool :=
  match rest with
  | [] => true
  | c :: _ => !continuesWord c || operatorWords.any (fun w => w.toList.isPrefixOf rest)

def finish (token : Token) (rest : List Char) : Option (Token × List Char) :=
  if endsAt rest then some (token, rest) else none

/-- A whole number in another base, behind its mark. -/
def based? (base : Nat) (ok : Char → Bool) (s : List Char) : Option (Token × List Char) := do
  let (run, rest) ← digits? ok s
  match run, rest with
  | [], _ => none
  | _, c :: _ => if c.isDigit then none else finish (.number (.integer (value base run))) rest
  | _, [] => some (.number (.integer (value base run)), [])

/-- The exponent at the front of a text: its value and the rest. `none` within means that there is
no exponent; a sign without digits is malformed. -/
def exponent? (s : List Char) : Option (Option (Int × List Char)) :=
  match s with
  | e :: rest =>
    if e != 'e' && e != 'E' then some none
    else
      match rest with
      | sign :: d :: _ =>
        if sign == '+' || sign == '-' then
          if d.isDigit then do
            let (run, left) ← digits? Char.isDigit (rest.drop 1)
            let n : Int := value 10 run
            return some (if sign == '-' then -n else n, left)
          else none
        else if sign.isDigit then do
          let (run, left) ← digits? Char.isDigit rest
          return some (value 10 run, left)
        else some none
      | [d] =>
        if d == '+' || d == '-' then none
        else if d.isDigit then some (some (value 10 [d], []))
        else some none
      | [] => some none
  | [] => some none

def isImaginaryMark (s : List Char) : Bool :=
  match s with
  | c :: _ => c == 'j' || c == 'J'
  | [] => false

/-- The fraction digits at the front of a text that stands behind a point. -/
def fraction? (s : List Char) : Option (List Char × List Char) :=
  match s with
  | c :: _ => if c.isDigit then digits? Char.isDigit s else some ([], s)
  | [] => some ([], [])

/-- Reads what may follow the digits `whole` and `fraction` of a float. -/
def float? (whole fraction rest : List Char) : Option (Token × List Char) := do
  let exponent ← exponent? rest
  let (power, left) := exponent.getD (0, rest)
  if isImaginaryMark left then finish .imaginary (left.drop 1)
  else
    finish (.number (.decimal (value 10 (whole ++ fraction)) (power - fraction.length))) left

/-- Reads a decimal integer or a float, given its first run of digits. -/
def decimal? (run rest : List Char) : Option (Token × List Char) := do
  match rest with
  | '.' :: behind =>
    let (fraction, left) ← fraction? behind
    float? run fraction left
  | _ =>
    match ← exponent? rest with
    | some _ => float? run [] rest
    | none =>
      if isImaginaryMark rest then finish .imaginary (rest.drop 1)
      else if run.all (· == '0') then finish (.number (.integer 0)) rest
      else if run.head? == some '0' || 4300 < run.length then none
      else finish (.number (.integer (value 10 run))) rest

def isHexDigit (c : Char) : Bool :=
  c.isDigit || ('a' ≤ c && c ≤ 'f') || ('A' ≤ c && c ≤ 'F')

/-- Reads the numeral at the front of a text that starts with a digit, or with a point and a digit.
-/
def scan? (s : List Char) : Option (Token × List Char) :=
  match s with
  | '.' :: rest => do
    let (fraction, left) ← fraction? rest
    float? [] fraction left
  | '0' :: mark :: rest =>
    if mark == 'x' || mark == 'X' then based? 16 isHexDigit rest
    else if mark == 'o' || mark == 'O' then based? 8 (fun c => '0' ≤ c && c ≤ '7') rest
    else if mark == 'b' || mark == 'B' then based? 2 (fun c => c == '0' || c == '1') rest
    else do
      let (run, left) ← digits? Char.isDigit s
      decimal? run left
  | _ => do
    let (run, left) ← digits? Char.isDigit s
    decimal? run left

end MathProg.Formula.Numeral
