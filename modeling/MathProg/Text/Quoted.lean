import MathProg.Text.Printable

/-!
# Quoted text

A text between quotes: single ones, or double ones when the text holds a single quote and no double
one. Backslashes, the quote in use and characters that are not printable are escaped.
-/

namespace MathProg.Text

/-- `n` in hexadecimal with small letters, filled with zeros to `width`. -/
def hex (width n : Nat) : List Char :=
  let digits := Nat.toDigits 16 n
  List.replicate (width - digits.length) '0' ++ digits

def escape (quote c : Char) : List Char :=
  if c == quote || c == '\\' then ['\\', c]
  else if c == '\n' then ['\\', 'n']
  else if c == '\r' then ['\\', 'r']
  else if c == '\t' then ['\\', 't']
  else if isPrintable c then [c]
  else if c.toNat < 0x100 then '\\' :: 'x' :: hex 2 c.toNat
  else if c.toNat < 0x10000 then '\\' :: 'u' :: hex 4 c.toNat
  else '\\' :: 'U' :: hex 8 c.toNat

def quoted (s : String) : String :=
  let chars := s.toList
  let quote := if chars.contains '\'' && !chars.contains '"' then '"' else '\''
  String.ofList (quote :: chars.flatMap (escape quote) ++ [quote])

/-- A list of optional texts in brackets, absent ones spelt `None`. -/
def quotedList (names : List (Option String)) : String :=
  "[" ++ ", ".intercalate (names.map (fun n => (n.map quoted).getD "None")) ++ "]"

end MathProg.Text
