import MathProg.Config.Scalar
import MathProg.Text.Cutting

/-!
# Documents

The text of a configuration file: mappings and lists nested by their indentation, with scalars on
one line. An empty mapping or list is written with its brackets; other brackets, anchors, tags and
texts of several lines are not read.
-/

namespace MathProg.Document

/-- The line at which a document cannot be read. -/
structure Fault where
  line : Nat
deriving DecidableEq, Repr

def Fault.message (e : Fault) : String :=
  let line := e.line
  s!"line {line}: not a line of a configuration file"

/-- A line that holds something, without its indentation and comment. -/
structure Line where
  number : Nat
  indent : Nat
  content : List Char

/-! ## Lines -/

/-- The part before a comment. A quotation begins behind a blank, and holds no comment. -/
def uncomment (mark : Option Char) (behindBlank : Bool) : List Char → List Char
  | [] => []
  | c :: rest =>
    match mark with
    | some m => c :: uncomment (if c == m then none else mark) false rest
    | none =>
      if behindBlank && c == '#' then []
      else if behindBlank && (c == '"' || c == '\'') then c :: uncomment (some c) false rest
      else c :: uncomment none (c == ' ' || c == '\t') rest

def Line.of (number : Nat) (chars : List Char) : Line :=
  ⟨number, (chars.takeWhile (· == ' ')).length, Text.strip (uncomment none true chars)⟩

/-- The lines that hold something; a line of dashes opens the document. -/
def linesOf (text : String) : List Line :=
  let lines := (Text.lines text.toList).zipIdx.map (fun (chars, i) => Line.of (i + 1) chars)
  match lines.filter (fun l => !l.content.isEmpty) with
  | l :: rest => if l.content == ['-', '-', '-'] then rest else l :: rest
  | [] => []

/-- What follows the dash of an item of a list, as a line with a deeper indentation. -/
def Line.item? (l : Line) : Option Line :=
  match l.content with
  | ['-'] => some { l with indent := l.indent + 1, content := [] }
  | '-' :: ' ' :: rest =>
    let blanks := (rest.takeWhile (· == ' ')).length
    some { l with indent := l.indent + 2 + blanks, content := rest.drop blanks }
  | _ => none

/-- The text before a colon that ends a key, and what follows it. -/
def splitKey? : List Char → Option (List Char × List Char)
  | [] => none
  | [':'] => some ([], [])
  | ':' :: ' ' :: rest => some ([], Text.strip rest)
  | c :: rest => (splitKey? rest).map (fun (key, after) => (c :: key, after))

/-! ## Scalars -/

/-- Characters that give a plain scalar another meaning when they come first. -/
def reserved : List Char :=
  ['[', ']', '\x7b', '\x7d', '&', '*', '!', '|', '>', '%', '@', ',', Char.ofNat 0x60]

/-- The value of a scalar on one line. -/
def scalar (number : Nat) : List Char → Except Fault Data
  | ['[', ']'] => .ok (.list [])
  | ['\x7b', '\x7d'] => .ok (.map [])
  | c :: rest =>
    if c == '"' || c == '\'' then
      match Scalar.quoted? c rest with
      | some (text, []) => .ok (.text (String.ofList text))
      | _ => .error ⟨number⟩
    else if reserved.contains c then .error ⟨number⟩
    else .ok (Scalar.plain (c :: rest))
  | [] => .ok .null

/-- The key of a line, which may be quoted, and what follows it. -/
def Line.key? (l : Line) : Option (Data × List Char) :=
  match l.content with
  | c :: rest =>
    if c == '"' || c == '\'' then
      match Scalar.quoted? c rest with
      | some (text, after) =>
        (splitKey? after).bind (fun (between, value) =>
          if between.isEmpty then some (.text (String.ofList text), value) else none)
      | none => none
    else if reserved.contains c then none
    else (splitKey? l.content).map (fun (key, value) => (Scalar.plain (Text.strip key), value))
  | [] => none

/-! ## Blocks -/

/-- Whether a line belongs to the value of a key at some indentation: it is deeper, or an item. -/
def Line.isUnder (l : Line) (indent : Nat) : Bool :=
  indent < l.indent || (l.indent == indent && l.item?.isSome)

mutual

/-- The value that begins at the first line, and the lines behind it. Every call takes a line or a
dash, which bounds the depth. -/
def value : Nat → List Line → Except Fault (Data × List Line)
  | 0, lines => .error ⟨(lines.head?.map Line.number).getD 0⟩
  | _, [] => .ok (.null, [])
  | fuel + 1, l :: rest =>
    if l.item?.isSome then do
      let (items, rest) ← items fuel l.indent (l :: rest)
      return (.list items, rest)
    else if l.key?.isSome then do
      let (entries, rest) ← entries fuel l.indent (l :: rest)
      return (.map (Table.ofEntries entries), rest)
    else do return (← scalar l.number l.content, rest)

/-- The items of a list at some indentation. -/
def items : Nat → Nat → List Line → Except Fault (List Data × List Line)
  | 0, _, lines => .error ⟨(lines.head?.map Line.number).getD 0⟩
  | _, _, [] => .ok ([], [])
  | fuel + 1, indent, l :: rest =>
    match l.item? with
    | some inner =>
      if l.indent != indent then .ok ([], l :: rest)
      else do
        let (d, rest) ←
          if !inner.content.isEmpty then value fuel (inner :: rest)
          else if rest.head?.any (fun next => indent < next.indent) then value fuel rest
          else pure (.null, rest)
        let (ds, rest) ← items fuel indent rest
        return (d :: ds, rest)
    | none => .ok ([], l :: rest)

/-- The entries of a mapping at some indentation. -/
def entries : Nat → Nat → List Line → Except Fault (List (Data × Data) × List Line)
  | 0, _, lines => .error ⟨(lines.head?.map Line.number).getD 0⟩
  | _, _, [] => .ok ([], [])
  | fuel + 1, indent, l :: rest =>
    if l.indent != indent || l.item?.isSome then .ok ([], l :: rest)
    else
      match l.key? with
      | some (key, written) => do
        let (d, rest) ←
          if !written.isEmpty then pure (← scalar l.number written, rest)
          else if rest.head?.any (fun next => next.isUnder indent) then value fuel rest
          else pure (.null, rest)
        let (ds, rest) ← entries fuel indent rest
        return ((key, d) :: ds, rest)
      | none => .error ⟨l.number⟩

end

/-- The data that a document holds. -/
def read (text : String) : Except Fault Data := do
  let lines := linesOf text
  match ← value (2 * text.length + 3) lines with
  | (d, []) => return d
  | (_, l :: _) => .error ⟨l.number⟩

end MathProg.Document
