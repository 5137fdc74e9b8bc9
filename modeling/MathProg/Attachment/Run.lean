import MathProg.Attachment.Lifecycle
import MathProg.Config.Settings

/-!
# Running a model

A run takes the settings, sets the level of logging, attaches the backend that the settings name and
solves.
-/

namespace MathProg

inductive RunError where
  | settings (e : SettingsError)
  | level (e : Logging.LevelError)
  | attachment (e : AttachmentError)

/-- The message of an error; a name that is no level has none. -/
def RunError.message? : RunError → Option String
  | settings e => e.message?
  | level _ => none
  | attachment e => e.message?

/-- The backend that the settings name. -/
def Settings.spec {N : Type} (s : Settings) : Except SettingsError (BackendSpec N) := do
  match ← s.backendKind with
  | .inMemory => return .inMemory .standard
  | .algebraic =>
    return .algebraic
      { solver := s.solver, executable := s.executable, options := s.options, tee := s.tee }

namespace Attachment

variable {N K V : Type}
variable [Zero K] [One K] [Add K] [Sub K] [Mul K] [Neg K] [Div K] [BEq K] [LT K] [DecidableLT K]
variable [TextNumber K] [OperatorMeaning K] [Numeral N K] [CheckedArithmetic N K V]

/-- Attaches a backend of the description and solves the model. -/
def attachAndSolve (m : Model N K) : Link N K V Unit := do
  discard (attach m none)
  solve m

/-- Runs a model with some settings. Gives the workshop that is left behind, and the attachment with
the level of logging. -/
def run (m : Model N K) (s : Settings) (w : Workshop N K V) :
    Workshop N K V × Except RunError (Attachment N K × Nat) :=
  match Logging.level s.logLevel, s.spec with
  | .error e, _ => (w, .error (.level e))
  | .ok _, .error e => (w, .error (.settings e))
  | .ok level, .ok spec =>
    let (result, l) := (attachAndSolve m).run.run ⟨w, new (some (.fresh spec))⟩
    match result with
    | .ok () => (l.workshop, .ok (l.attachment, level))
    | .error e => (l.workshop, .error (.attachment e))

end Attachment

end MathProg
