import MathProg.Text.CharacterName.Listed
import MathProg.Text.Ranges

/-!
# Character names

Which texts name a character of Unicode 14. The name of an ideograph ends in its code point and that
of a Hangul syllable in the names of its parts; both are in capitals. All other names are listed and
may be written in either case.
-/

namespace MathProg.Text.CharacterName

/-- The code points of the unified ideographs. -/
def ideographRanges : Array (Nat × Nat) :=
  #[(0x3400, 0x4DBF), (0x4E00, 0x9FFF), (0x20000, 0x2A6DF), (0x2A700, 0x2B738), (0x2B740, 0x2B81D),
    (0x2B820, 0x2CEA1), (0x2CEB0, 0x2EBE0), (0x30000, 0x3134A)]

/-- The value of a digit of a code point, in capitals. -/
def codeDigit? (c : Char) : Option Nat :=
  if c.isDigit then some (c.toNat - '0'.toNat)
  else if 'A' ≤ c && c ≤ 'F' then some (c.toNat - 'A'.toNat + 10)
  else none

/-- Whether the text is a code point of four or five digits that belongs to a unified ideograph. -/
def isIdeographCode (s : List Char) : Bool :=
  (s.length == 4 || s.length == 5) &&
    match s.mapM codeDigit? with
    | some digits => Ranges.mem ideographRanges (digits.foldl (fun n d => 16 * n + d) 0)
    | none => false

/-- The consonants that a syllable may begin with. -/
def initials : List String :=
  ["G", "GG", "N", "D", "DD", "R", "M", "B", "BB", "S", "SS", "", "J", "JJ", "C", "K", "T", "P",
    "H"]

def vowels : List String :=
  ["A", "AE", "YA", "YAE", "EO", "E", "YEO", "YE", "O", "WA", "WAE", "OE", "YO", "U", "WEO", "WE",
    "WI", "YU", "EU", "YI", "I"]

/-- The consonants that a syllable may end in. -/
def finals : List String :=
  ["", "G", "GG", "GS", "N", "NJ", "NH", "D", "L", "LG", "LM", "LB", "LS", "LT", "LP", "LH", "M",
    "B", "BS", "S", "SS", "NG", "J", "C", "K", "T", "P", "H"]

/-- What is left behind the longest of some parts, if one of them comes first. -/
def skipPart? (parts : List String) (s : List Char) : Option (List Char) :=
  let fitting := parts.filter (fun part => part.toList.isPrefixOf s)
  let longest := fitting.foldl (fun n part => max n part.length) 0
  if fitting.isEmpty then none else some (s.drop longest)

/-- Whether the text names a syllable by its parts. -/
def isSyllable (s : List Char) : Bool :=
  ((skipPart? initials s).bind (skipPart? vowels)).bind (skipPart? finals) == some []

/-- What is left behind some leading characters. -/
def behind? (start : String) (s : List Char) : Option (List Char) :=
  if start.toList.isPrefixOf s then some (s.drop start.length) else none

end CharacterName

/-- Whether the text names a character. -/
def isCharacterName (s : List Char) : Bool :=
  match CharacterName.behind? "HANGUL SYLLABLE " s with
  | some parts => CharacterName.isSyllable parts
  | none =>
    match CharacterName.behind? "CJK UNIFIED IDEOGRAPH-" s with
    | some code => CharacterName.isIdeographCode code
    | none => CharacterName.isListed (s.map Char.toUpper)

end MathProg.Text
