import MathProg.Config.Options
import MathProg.Text.Case
import MathProg.Text.Cutting

/-!
# Settings

What a configuration file decides: the level of logging and the backend with its options. Keys that
are not known are ignored, and what is not given has a standard.

A level of logging is named in any case; a name that stands for nothing is read as the level of
information. Two further names belong to the logging facility without being levels and are refused.
-/

namespace MathProg

structure Settings where
  logLevel : String
  impl : String
  solver : String
  executable : Option String
  tee : Bool
  options : Table

/-- The two kinds of backends. -/
inductive BackendKind where
  | inMemory
  | algebraic
deriving DecidableEq, Repr

inductive SettingsError where
  /-- The file has another suffix. -/
  | format (suffix : String)
  | noMapping
  /-- An item of a list is no pair. -/
  | noPair
  /-- A value or an item of a list holds no items, or a key is a list or a mapping. -/
  | noItems
  | option (e : EvaluationError)
  | unknownBackend (impl : String)

/-- The message of an error; a value that makes no table has none. -/
def SettingsError.message? : SettingsError → Option String
  | format suffix => some s!"Unsupported config format '{suffix}'. Please provide a YAML file."
  | noMapping => some "Top-level YAML document must be a mapping"
  | noPair => none
  | noItems => none
  | option e => e.message?
  | unknownBackend impl => some s!"Unknown backend impl '{impl}'; expected 'mock' or 'pyomo'"

namespace Data

/-- The two items of a value that is a pair. -/
def pair? : Data → Except SettingsError (Data × Data)
  | list [k, d] => .ok (k, d)
  | map [(k, _), (l, _)] => .ok (k, l)
  | text s =>
    match s.toList with
    | [c, d] => .ok (text (String.singleton c), text (String.singleton d))
    | _ => .error .noPair
  | list _ => .error .noPair
  | map _ => .error .noPair
  | _ => .error .noItems

/-- An entry of a table, made from a pair. -/
def entry (d : Data) : Except SettingsError (Data × Data) := do
  let (k, v) ← d.pair?
  if k.isKey then return (k, v) else .error .noItems

/-- The table that a value stands for: a mapping, a list of pairs, or nothing. -/
def toTable (d : Data) : Except SettingsError Table :=
  if !d.isGiven then .ok []
  else
    match d with
    | map entries => .ok entries
    | list items => do return .ofEntries (← items.mapM entry)
    | text _ => .error .noPair
    | _ => .error .noItems

end Data

namespace Settings

/-- The settings without a configuration. -/
def standard : Settings :=
  ⟨"INFO", "mock", "glpk", none, false, []⟩

/-- The table under a key, empty if the key is missing. -/
def section? (document : Table) (key : String) : Except SettingsError Table :=
  ((document.get? key).getD .null).toTable

/-- The settings of a document, which must be a mapping or nothing. -/
def ofData (d : Data) : Except SettingsError Settings := do
  let document ←
    match d with
    | .map entries => pure entries
    | d => if d.isGiven then .error .noMapping else pure []
  let run ← section? document "run"
  let backend ← section? document "backend"
  let textOf (table : Table) (key initial : String) : String :=
    ((table.get? key).map Data.toText).getD initial
  let executable := (backend.get? "executable").filter Data.isGiven
  let options ← section? backend "options"
  return {
    logLevel := textOf run "log_level" standard.logLevel
    impl := Text.lower (textOf backend "impl" standard.impl)
    solver := textOf backend "solver" standard.solver
    executable := executable.map Data.toText
    tee := ((backend.get? "tee").map Data.isGiven).getD standard.tee
    options := ← (Options.resolve options).mapError .option }

/-- The suffix of the last part of a path with its point; none if the point is first or last. -/
def suffix (path : String) : String :=
  let name := match Text.splitLast? ['/'] path.toList with
    | some (_, name) => name
    | none => path.toList
  match Text.splitLast? ['.'] name with
  | some (stem, extension) =>
    if stem.isEmpty || extension.isEmpty then "" else String.ofList ('.' :: extension)
  | none => ""

/-- The settings in a file with the given name and content. -/
def ofFile (path : String) (content : Data) : Except SettingsError Settings :=
  let suffix := suffix path
  if [".yaml", ".yml"].contains (Text.lower suffix) then ofData content
  else .error (.format suffix)

def backendKind (s : Settings) : Except SettingsError BackendKind :=
  if s.impl == "mock" then .ok .inMemory
  else if s.impl == "pyomo" then .ok .algebraic
  else .error (.unknownBackend s.impl)

end Settings

end MathProg

/-! ## Levels of logging -/

namespace MathProg.Logging

/-- Why a name gives no level. -/
inductive LevelError where
  /-- The name stands for a text. -/
  | format
  /-- The name stands for a table. -/
  | styles
deriving DecidableEq, Repr

def levels : List (String × Nat) :=
  [("CRITICAL", 50), ("FATAL", 50), ("ERROR", 40), ("WARNING", 30), ("WARN", 30), ("INFO", 20),
    ("DEBUG", 10), ("NOTSET", 0)]

def level (name : String) : Except LevelError Nat :=
  let name := Text.upperToAscii name
  if name == "BASIC_FORMAT" then .error .format
  else if name == "_STYLES" then .error .styles
  else .ok ((levels.lookup name).getD 20)

/-- Whether a report is written beside the log. -/
def writesReport (name : String) : Bool :=
  Text.upperToAscii name == "DEBUG"

end MathProg.Logging
