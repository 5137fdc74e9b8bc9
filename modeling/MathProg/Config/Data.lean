import MathProg.Number.Arithmetic
import MathProg.Number.Complex
import MathProg.Text.Quoted

/-!
# Configuration data

Values as a configuration file holds them. A mapping keeps the order of its keys, and each key
occurs once.
-/

namespace MathProg

inductive Data where
  | null
  | truth (b : Bool)
  | number (n : Number)
  /-- A result of arithmetic that is not real; no file holds one. -/
  | complex (z : Complex)
  | text (s : String)
  | list (items : List Data)
  | map (entries : List (Data × Data))

/-- A mapping as the list of its entries. -/
abbrev Table := List (Data × Data)

namespace Data

/-- Whether the value counts as given: nothing, zero and what is empty do not. -/
def isGiven : Data → Bool
  | null => false
  | truth b => b
  | number n => !n.isZero
  | complex z => !z.isZero
  | text s => !s.isEmpty
  | list items => !items.isEmpty
  | map entries => !entries.isEmpty

def truthText (b : Bool) : String :=
  if b then "True" else "False"

mutual

/-- The value as it stands within another one: texts are quoted. -/
def inner : Data → String
  | null => "None"
  | truth b => truthText b
  | number n => n.text
  | complex z => z.text
  | text s => Text.quoted s
  | list items => "[" ++ ", ".intercalate (innerAll items) ++ "]"
  | map entries => "\x7b" ++ ", ".intercalate (innerEntries entries) ++ "\x7d"

def innerAll : List Data → List String
  | [] => []
  | d :: ds => d.inner :: innerAll ds

def innerEntries : List (Data × Data) → List String
  | [] => []
  | (k, d) :: rest => (k.inner ++ ": " ++ d.inner) :: innerEntries rest

end

/-- The value as a text; a text is itself. -/
def toText : Data → String
  | text s => s
  | d => d.inner

/-- Whether the value can be written down: an integer has at most 4300 digits then. -/
def isWritable : Data → Bool
  | number (.integer n) => n.natAbs < pow10 4300
  | _ => true

/-- The number, unless the value is of another kind. -/
def number? : Data → Option Number
  | number n => some n
  | _ => none

/-- A truth value as a key is the number zero or one. -/
def keyNumber? : Data → Option Number
  | truth b => some (.integer (if b then 1 else 0))
  | number n => some n
  | _ => none

/-- Whether two values are the same key. -/
def sameKey (d e : Data) : Bool :=
  match d, e with
  | null, null => true
  | text s, text t => s == t
  | d, e =>
    match d.keyNumber?, e.keyNumber? with
    | some m, some n => m == n
    | _, _ => false

/-- Lists and mappings are no keys. -/
def isKey : Data → Bool
  | list _ => false
  | map _ => false
  | _ => true

end Data

namespace Table

/-- Changes the value of a key in place; a new key goes to the end. -/
def set (key value : Data) : Table → Table
  | [] => [(key, value)]
  | (k, d) :: rest => if k.sameKey key then (k, value) :: rest else (k, d) :: set key value rest

def get? (name : String) (table : Table) : Option Data :=
  (table.find? (fun (k, _) => k.sameKey (.text name))).map (·.2)

/-- The table of some entries; a key that is repeated keeps its place and takes the last value. -/
def ofEntries (entries : List (Data × Data)) : Table :=
  entries.foldl (fun table (k, d) => table.set k d) []

end Table

end MathProg
