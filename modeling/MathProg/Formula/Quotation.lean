import MathProg.Formula.Token
import MathProg.Text.CharacterName
import MathProg.Text.Word

/-!
# Quoted texts

Reading a quoted text off the front of an input. The value of the text plays no part in formulas;
what counts is where it ends, whether its escapes are well formed and which formulas it embeds.
-/

namespace MathProg.Formula.Quotation

/-- What the letters in front of a quote ask for. -/
structure Marks where
  bytes : Bool
  raw : Bool
  formatted : Bool

/-- The marks that a word in front of a quote stands for. -/
def marks? (word : List Char) : Option Marks :=
  let letters := String.ofList (word.map Char.toLower)
  if letters == "" || letters == "u" then some ⟨false, false, false⟩
  else if letters == "r" then some ⟨false, true, false⟩
  else if letters == "b" then some ⟨true, false, false⟩
  else if letters == "br" || letters == "rb" then some ⟨true, true, false⟩
  else if letters == "f" then some ⟨false, false, true⟩
  else if letters == "fr" || letters == "rf" then some ⟨false, true, true⟩
  else none

/-- The body up to the closing quote and the rest behind it. One quote closes a short text, three a
long one; a backslash takes the next character along, and a short text ends on its line. -/
def body? (quote : Char) (long : Bool) : List Char → Option (List Char × List Char)
  | [] => none
  | '\\' :: c :: rest => (body? quote long rest).map (fun (body, left) => ('\\' :: c :: body, left))
  | c :: rest =>
    if c == quote then
      if !long then some ([], rest)
      else
        match rest with
        | d :: e :: left =>
          if d == quote && e == quote then some ([], left)
          else (body? quote long (d :: e :: left)).map (fun (body, left) => (c :: body, left))
        | _ => none
    else if c == '\n' && !long then none
    else (body? quote long rest).map (fun (body, left) => (c :: body, left))

def isHexDigit (c : Char) : Bool :=
  c.isDigit || ('a' ≤ c && c ≤ 'f') || ('A' ≤ c && c ≤ 'F')

def hexValue (digits : List Char) : Nat :=
  digits.foldl (fun n c =>
    16 * n + if c.isDigit then c.toNat - '0'.toNat else c.toLower.toNat - 'a'.toNat + 10) 0

/-- Whether `count` hexadecimal digits come first, with a value of at most `bound`. -/
def startsHex (count bound : Nat) (s : List Char) : Bool :=
  let digits := s.take count
  digits.length == count && digits.all isHexDigit && hexValue digits ≤ bound

/-- Whether every escape of the body is complete. -/
def escapesOk (bytes : Bool) : List Char → Bool
  | [] => true
  | '\\' :: c :: rest =>
    let ok :=
      if c == 'x' then startsHex 2 0xFF rest
      else if bytes then true
      else if c == 'u' then startsHex 4 0xFFFF rest
      else if c == 'U' then startsHex 8 0x10FFFF rest
      else if c == 'N' then
        match rest with
        | '{' :: named =>
          named.contains '}' && Text.isCharacterName (named.takeWhile (· != '}'))
        | _ => false
      else true
    ok && escapesOk bytes rest
  | _ :: rest => escapesOk bytes rest

/-- What ends an embedded formula. -/
def isFieldEnd (c : Char) : Bool :=
  c == '!' || c == ':' || c == '}' || c == '='

/-- What a closing bracket closes. -/
def opener? (c : Char) : Option Char :=
  if c == ')' then some '('
  else if c == ']' then some '['
  else if c == '\x7d' then some '\x7b'
  else none

/-- Skips a text inside an embedded formula, up to and with its closing quote. -/
def skipText? (quote : Char) (long : Bool) : List Char → Option (List Char × List Char)
  | [] => none
  | c :: rest =>
    if c == '\\' then none
    else if c == quote then
      if !long then some ([c], rest)
      else
        match rest with
        | d :: e :: left =>
          if d == quote && e == quote then some ([c, d, e], left)
          else (skipText? quote long (d :: e :: left)).map (fun (t, left) => (c :: t, left))
        | _ => none
    else (skipText? quote long rest).map (fun (t, left) => (c :: t, left))

/-- The embedded formula at the front of the input and the rest, which starts with what ends it. -/
def field? : Nat → List Char → List Char → Option (List Char × List Char)
  | 0, _, _ => none
  | _ + 1, _, [] => none
  | fuel + 1, brackets, c :: rest =>
    let take (n : Nat) (brackets : List Char) :=
      (field? fuel brackets (rest.drop (n - 1))).map
        (fun (field, left) => (c :: rest.take (n - 1) ++ field, left))
    if c == '\\' || c == '#' then none
    else if c == '\'' || c == '"' then do
      let long := (rest.take 2) == [c, c]
      let opening := if long then [c, c, c] else [c]
      let (text, left) ← skipText? c long (rest.drop (opening.length - 1))
      let (field, left) ← field? fuel brackets left
      return (opening ++ text ++ field, left)
    else if c == '(' || c == '[' || c == '{' then take 1 (c :: brackets)
    else
      match brackets with
      | innermost :: outer =>
        match opener? c with
        | some expected => if expected == innermost then take 1 outer else none
        | none => take 1 brackets
      | [] =>
        let next := rest.head?
        if (c == '!' || c == '=' || c == '<' || c == '>') && next == some '=' then take 2 []
        else if isFieldEnd c then some ([], c :: rest)
        else if (opener? c).isSome then none
        else take 1 []

/-- The embedded formulas of a body. Doubled braces stand for themselves outside of a format; inside
of one, at `level` one, a closing brace ends it. Formats nest once. -/
def fields? : Nat → Bool → Nat → List Char → Option (List (List Char) × List Char)
  | 0, _, _, _ => none
  | _ + 1, _, _, [] => some ([], [])
  | fuel + 1, raw, level, c :: rest =>
    if !raw && c == '\\' then
      match rest with
      | 'N' :: '{' :: named => fields? fuel raw level ((named.dropWhile (· != '}')).drop 1)
      | d :: left => if d == '{' || d == '}' then fields? fuel raw level rest
        else fields? fuel raw level left
      | [] => some ([], [])
    else if c == '{' then
      if level == 0 && rest.head? == some '{' then fields? fuel raw level (rest.drop 1)
      else if 2 ≤ level then none
      else do
        let (field, left) ← field? (rest.length + 1) [] rest
        if field.all (fun d => d == ' ' || ('\t' ≤ d && d ≤ '\r' && d != '\x0b')) then none
        let left := match left with
          | '=' :: more => more.dropWhile (fun d => d == ' ' || ('\t' ≤ d && d ≤ '\r'))
          | _ => left
        let left ← match left with
          | '!' :: mark :: more =>
            if mark == 's' || mark == 'r' || mark == 'a' then some more else none
          | '!' :: [] => none
          | _ => some left
        let (inner, left) ← match left with
          | ':' :: format => fields? fuel raw (level + 1) format
          | _ => some ([], left)
        match left with
        | '}' :: more =>
          let (others, left) ← fields? fuel raw level more
          return (field :: inner ++ others, left)
        | _ => none
    else if c == '}' then
      if level != 0 then some ([], c :: rest)
      else if rest.head? == some '}' then fields? fuel raw level (rest.drop 1)
      else none
    else fields? fuel raw level rest

/-- Reads a quoted text whose opening quote comes first. -/
def scan? (marks : Marks) (s : List Char) : Option (Token × List Char) := do
  match s with
  | quote :: rest =>
    let long := rest.take 2 == [quote, quote]
    let (body, left) ← body? quote long (if long then rest.drop 2 else rest)
    if !marks.raw && !escapesOk marks.bytes body then none
    if marks.bytes && body.any (fun c => 128 ≤ c.toNat) then none
    if marks.formatted then
      let (fields, unread) ← fields? (body.length + 1) marks.raw 0 body
      if unread.isEmpty then some (.formatted fields, left) else none
    else some (if marks.bytes then .bytes else .text, left)
  | [] => none

end MathProg.Formula.Quotation
