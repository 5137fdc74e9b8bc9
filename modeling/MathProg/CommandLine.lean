import MathProg.Config.Document
import MathProg.ErrorReport

/-!
# The command line

The arguments name a configuration file, which may be missing. What the program prints is decided
here; reading the file and printing are left to the program itself.
-/

namespace MathProg.CommandLine

inductive Command where
  | help
  /-- Solve with the configuration file at a path. -/
  | solve (path : String)
deriving DecidableEq, Repr

inductive UsageError where
  | missingValue
  | unexpectedValue (option value : String)
  | unrecognized (arguments : List String)
deriving DecidableEq, Repr

/-- What a run of the program leaves: its exit code and the lines on both outputs. -/
structure Outcome where
  code : UInt32
  output : List String
  errors : List String

def usage : String :=
  "usage: mathprog [-h] [--config CONFIG]"

def help : List String :=
  [usage, "", "options:", "  -h, --help       show this help message and exit",
    "  --config CONFIG"]

def UsageError.message : UsageError → String
  | missingValue => "argument --config: expected one argument"
  | unexpectedValue option value =>
    "argument " ++ option ++ ": ignored explicit argument " ++ Text.quoted value
  | unrecognized arguments => "unrecognized arguments: " ++ " ".intercalate arguments

/-- Whether an argument is the option of the given name; two dashes and a letter are enough. -/
def abbreviates (argument name : String) : Bool :=
  3 ≤ argument.length && name.startsWith argument

def isOption (argument : String) : Bool :=
  argument.startsWith "-" && argument != "-"

/-- An option and the value that is joined to it by an equals sign. -/
def joined (argument : String) : String × Option String :=
  match Text.splitFirst? ['='] argument.toList with
  | some (option, value) => (String.ofList option, some (String.ofList value))
  | none => (argument, none)

/-- Reads the arguments: the last configuration counts, and help comes before what is behind it. -/
def parse (path : String) (unknown : List String) : List String → Except UsageError Command
  | [] => if unknown.isEmpty then .ok (.solve path) else .error (.unrecognized unknown)
  | argument :: rest =>
    let (option, value?) := joined argument
    if option == "-h" || abbreviates option "--help" then
      match value? with
      | some value => .error (.unexpectedValue "-h/--help" value)
      | none => .ok .help
    else if abbreviates option "--config" then
      match value?, rest with
      | some value, rest => parse value unknown rest
      | none, value :: rest =>
        if isOption value then .error .missingValue else parse value unknown rest
      | none, [] => .error .missingValue
    else parse path (unknown ++ [argument]) rest

/-- The command that the arguments give. -/
def command (arguments : List String) : Except UsageError Command :=
  parse "configs/pyomo_glpk.yaml" [] arguments

/-- Why a configuration file gives no settings. -/
inductive ConfigError where
  | document (e : Document.Fault)
  | settings (e : SettingsError)

/-- The settings in a file; the standard ones if there is no file. The suffix is looked at before
the content. -/
def settings (path : String) (content? : Option String) : Except ConfigError Settings := do
  match content? with
  | none => return .standard
  | some content =>
    discard ((Settings.ofFile path .null).mapError .settings)
    let d ← (Document.read content).mapError .document
    (Settings.ofFile path d).mapError .settings

/-- The line that shows an error. -/
def errorLine {ε : Type} [Reported ε] (e : ε) : String :=
  let r := Reported.report (.ofModels [SmallProgram.model]) e
  match r.message with
  | some message => r.kind.name ++ ": " ++ message
  | none => r.kind.name

def failed (code : UInt32) (errors : List String) : Outcome :=
  ⟨code, [], errors⟩

/-- Solves the small program with the settings in a file. -/
def solve (path : String) (content? : Option String) : Outcome :=
  match settings path content? with
  | .error (.document e) => failed 1 [e.message]
  | .error (.settings e) => failed 1 [errorLine e]
  | .ok s =>
    match SmallProgram.solve s .standard with
    | .ok lines => ⟨0, lines, []⟩
    | .error e => failed 1 [errorLine e]

def refuse (e : UsageError) : Outcome :=
  failed 2 [usage, "mathprog: error: " ++ e.message]

end MathProg.CommandLine
