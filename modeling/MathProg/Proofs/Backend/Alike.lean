import MathProg.Attachment.Results
import MathProg.Proofs.Backend.Settings

/-!
# Backends that differ in their counters alone

An in-memory backend counts how often it was solved and how often it was emptied. Nothing that is
written into it or read from it depends on these numbers. Once a backend has been emptied, they are
all that tells it from a new one.
-/

namespace MathProg

variable {N K V : Type}

/-! ## Other counters -/

namespace InMemory

/-- The backend with other counters. -/
def counted (b : InMemory N K) (solves clears : Nat) : InMemory N K :=
  { b with solveCount := solves, clearCount := clears }

variable [Numeral N K] (b : InMemory N K) (solves clears : Nat)

theorem inject_counted (i : Injection N) :
    (b.counted solves clears).inject i = (b.inject i).map (·.counted solves clears) := by
  -- an injection is refused for what it is, or for a constraint that is not there
  cases i with
  | termination name =>
    simp only [inject]
    cases TerminationStatus.ofName? name <;> rfl
  | statistic name n =>
    simp only [inject]
    cases Statistic.ofName? name <;> rfl
  | primalStatus name r =>
    simp only [inject]
    cases resultStatus name <;> rfl
  | dualStatus name r =>
    simp only [inject]
    cases resultStatus name <;> rfl
  | objectiveValue n r =>
    simp only [inject]
    cases (coefficient n : Except BackendError K) <;> rfl
  | dualObjectiveValue n r =>
    simp only [inject]
    cases (coefficient n : Except BackendError K) <;> rfl
  | primal v n r =>
    simp only [inject]
    cases (coefficient n : Except BackendError K) <;> rfl
  | dual handle value r =>
    have same : (b.counted solves clears).holds handle = b.holds handle := rfl
    simp only [inject, same]
    cases b.holds handle with
    | false => rfl
    | true => cases (dualValue value : Except BackendError (DualValue N K)) <;> rfl
  | _ => rfl

theorem injectAll_counted (is : List (Injection N)) :
    (b.counted solves clears).injectAll is
      = ((b.injectAll is).1.counted solves clears, (b.injectAll is).2) := by
  induction is generalizing b with
  | nil => rfl
  | cons i is ih =>
    rw [injectAll, injectAll, inject_counted]
    cases b.inject i with
    | error e => rfl
    | ok c => exact ih c

theorem solve_counted : (b.counted solves clears).solve
    = (b.solve.1.counted (solves + 1) clears, b.solve.2) :=
  injectAll_counted { b with solveCount := b.solveCount + 1 } (solves + 1) clears b.settings.onSolve

end InMemory

namespace Backend

/-- The backend with other counters, if it has any. -/
def counted (b : Backend N K V) (solves clears : Nat) : Backend N K V :=
  match b with
  | inMemory b => inMemory (b.counted solves clears)
  | algebraic b => algebraic b

/-- Whether backends differ in their counters alone. -/
def Alike (b c : Backend N K V) : Prop :=
  ∃ solves clears, c = b.counted solves clears

/-- Whether there is nothing in a backend but its settings. -/
def IsBlank [Zero K] (b : Backend N K V) : Prop :=
  b.renewed.Alike b

section

variable (b : Backend N K V) (solves clears : Nat)

@[simp] theorem name_counted : (b.counted solves clears).name = b.name := by
  cases b <;> rfl

@[simp] theorem spec_counted : (b.counted solves clears).spec = b.spec := by
  cases b <;> rfl

@[simp] theorem isEmpty_counted : (b.counted solves clears).isEmpty = b.isEmpty := by
  cases b <;> rfl

@[simp] theorem supportsNonlinear_counted :
    (b.counted solves clears).supportsNonlinear = b.supportsNonlinear := by
  cases b <;> rfl

@[simp] theorem acceptsObjective_counted (f : Function K) :
    (b.counted solves clears).acceptsObjective f = b.acceptsObjective f := by
  cases b <;> cases f <;> rfl

theorem counted_counted (solves' clears' : Nat) :
    (b.counted solves clears).counted solves' clears' = b.counted solves' clears' := by
  cases b <;> rfl

theorem addVariables_counted (names : List (Option String)) :
    (b.counted solves clears).addVariables names
      = ((b.addVariables names).1, (b.addVariables names).2.counted solves clears) := by
  induction names generalizing b with
  | nil => rfl
  | cons name names ih =>
    have one : (b.counted solves clears).addVariable name
        = ((b.addVariable name).1, (b.addVariable name).2.counted solves clears) := by
      cases b <;> rfl
    rw [addVariables, one]
    simp only [ih]
    rfl

end

theorem Alike.refl (b : Backend N K V) : b.Alike b := by
  cases b with
  | inMemory b => exact ⟨b.solveCount, b.clearCount, rfl⟩
  | algebraic b => exact ⟨0, 0, rfl⟩

theorem Alike.symm {b c : Backend N K V} (h : b.Alike c) : c.Alike b := by
  obtain ⟨solves, clears, rfl⟩ := h
  obtain ⟨solves', clears', same⟩ := Alike.refl b
  exact ⟨solves', clears', by rw [counted_counted, ← same]⟩

theorem Alike.trans {b c d : Backend N K V} (h : b.Alike c) (h' : c.Alike d) : b.Alike d := by
  obtain ⟨solves, clears, rfl⟩ := h
  obtain ⟨solves', clears', rfl⟩ := h'
  exact ⟨solves', clears', counted_counted b solves clears solves' clears'⟩

/-! ## Writing -/

section

variable [LT K] [DecidableLT K] [Numeral N K] [CheckedArithmetic N K V]
variable (b : Backend N K V) (solves clears : Nat)

theorem addConstraints_counted (entries : List (Entry N K)) :
    (b.counted solves clears).addConstraints entries
      = ((b.addConstraints entries).1.counted solves clears, (b.addConstraints entries).2) := by
  induction entries generalizing b with
  | nil => rfl
  | cons e entries ih =>
    have one : (b.counted solves clears).addConstraint e
        = ((b.addConstraint e).1.counted solves clears, (b.addConstraint e).2) := by
      cases b <;> rfl
    rw [addConstraints, addConstraints, one]
    cases b.addConstraint e with
    | mk c result =>
      cases result with
      | error e => rfl
      | ok handle =>
        simp only [ih]

omit [LT K] [DecidableLT K] [Numeral N K] in
theorem setObjective_counted (sense : Sense) (f : Function K) :
    (b.counted solves clears).setObjective sense f
      = ((b.setObjective sense f).1.counted solves clears, (b.setObjective sense f).2) := by
  cases b <;> rfl

variable [Zero K] [Add K] [BEq K]

theorem load_counted (r : Representation N K) : (b.counted solves clears).load r
    = ((b.load r).1.counted solves clears, (b.load r).2) := by
  unfold load offerObjective
  rw [addVariables_counted]
  simp only [addConstraints_counted]
  cases (b.addVariables r.variableNames).2.addConstraints
      (r.constraints.map (numberedEntry (b.addVariables r.variableNames).1)) with
  | mk c result =>
    cases result with
    | error e => rfl
    | ok constraints =>
      simp only [acceptsObjective_counted]
      split
      · simp only [setObjective_counted]
      · rfl

end

/-- An emptied backend is as good as new. -/
theorem isBlank_clear [Zero K] (b : Backend N K V) : b.clear.IsBlank := by
  cases b with
  | inMemory b => exact ⟨b.solveCount, b.clearCount + 1, rfl⟩
  | algebraic b => exact ⟨0, 0, rfl⟩

theorem isBlank_renewed [Zero K] (b : Backend N K V) : b.renewed.IsBlank := by
  have again : b.renewed.renewed = b.renewed := by rw [renewed, renewed, spec_ofSpec]
  show b.renewed.renewed.Alike b.renewed
  rw [again]
  exact .refl _

theorem IsBlank.alike [Zero K] {b c : Backend N K V} (hb : b.IsBlank) (hc : c.IsBlank)
    (same : c.spec = b.spec) : b.Alike c := by
  have renewed : c.renewed = b.renewed := congrArg ofSpec same
  have started : b.renewed.Alike c := renewed ▸ hc
  exact Alike.trans (Alike.symm hb) started

/-! ## Solving and reading -/

section

variable [Zero K] [Add K] [Sub K] [Neg K] [LT K] [DecidableLT K] [Numeral N K]
variable [CheckedArithmetic N K V] (b : Backend N K V) (solves clears : Nat)

theorem solve_counted [Div K] [TextNumber K] (solver : ScriptedSolver N) :
    (b.counted solves clears).solve solver
      = ((b.solve solver).1.counted (solves + 1) clears, (b.solve solver).2) := by
  cases b with
  | inMemory b => simp only [counted, solve, InMemory.solve_counted]
  | algebraic b => rfl

variable [One K] [Mul K] [OperatorMeaning K]

theorem collect_counted (revision : Nat) (handles : Handles) :
    Results.collect revision (b.counted solves clears) handles
      = Results.collect revision b handles := by
  cases b <;> rfl

end

section

variable [Zero K] [One K] [Add K] [Sub K] [Mul K] [Neg K] [BEq K] [LT K] [DecidableLT K]
variable [OperatorMeaning K] [Numeral N K] [CheckedArithmetic N K V]

/-- What an in-memory backend shows of its problem. -/
def representation? : Backend N K V → Option (Except BackendError (Representation N K))
  | inMemory b => some b.representation
  | algebraic _ => none

/-- The problem of an algebraic backend. -/
def problem? : Backend N K V → Option (Algebraic.Problem N V)
  | inMemory _ => none
  | algebraic b => some b.problem

/-- Whether there is a place for the dual values of a solver. -/
def importsDuals : Backend N K V → Bool
  | inMemory _ => false
  | algebraic b => b.duals.isSome

/-- Whether everything that can be read of two backends is the same. -/
structure SameReads (b c : Backend N K V) : Prop where
  spec : c.spec = b.spec
  isEmpty : c.isEmpty = b.isEmpty
  representation : c.representation? = b.representation?
  problem : c.problem? = b.problem?
  importsDuals : c.importsDuals = b.importsDuals
  termination : c.terminationStatus = b.terminationStatus
  raw : c.rawStatus = b.rawStatus
  resultCount : c.resultCount = b.resultCount
  primalStatus : ∀ result, c.primalStatus result = b.primalStatus result
  dualStatus : ∀ result, c.dualStatus result = b.dualStatus result
  statistic : ∀ s, c.statistic s = b.statistic s
  variablePrimal : ∀ v result, c.variablePrimal v result = b.variablePrimal v result
  constraintDual : ∀ handle result, c.constraintDual handle result = b.constraintDual handle result
  objectiveValue : ∀ result, c.objectiveValue result = b.objectiveValue result
  dualObjectiveValue : ∀ result, c.dualObjectiveValue result = b.dualObjectiveValue result

theorem Alike.sameReads {b c : Backend N K V} (h : b.Alike c) : b.SameReads c := by
  obtain ⟨solves, clears, rfl⟩ := h
  cases b with
  | inMemory b => constructor <;> intros <;> rfl
  | algebraic b => constructor <;> intros <;> rfl

end

/-! ## Solutions that stay -/

/-- Whether two backends report the same solution, whatever their problems. -/
def SameSolution : Backend N K V → Backend N K V → Prop
  | inMemory b, inMemory c => c.solution = b.solution
  | algebraic b, algebraic c => c.outcome = b.outcome ∧ c.duals = b.duals
  | _, _ => False

/-- Writing a problem leaves the solution that is there. -/
theorem sameSolution_load [Zero K] [Add K] [BEq K] [LT K] [DecidableLT K] [Numeral N K]
    [CheckedArithmetic N K V] (b : Backend N K V) (r : Representation N K) :
    b.SameSolution (b.load r).1 := by
  have start : b.SameSolution b := by
    cases b with
    | inMemory b => rfl
    | algebraic b => exact ⟨rfl, rfl⟩
  -- no write leads from one kind of backend to the other
  apply load_keeps (P := b.SameSolution) start
  · intro c name same
    cases b <;> cases c <;> exact same
  · intro c e same
    cases b <;> cases c <;> first | exact same.elim | skip
    · exact same
    · rename_i b c
      show (c.addConstraint e).1.outcome = _ ∧ (c.addConstraint e).1.duals = _
      unfold Algebraic.addConstraint
      simp only
      split <;> exact same
  · intro c sense f same
    cases b <;> cases c <;> first | exact same.elim | skip
    · exact same
    · rename_i b c
      show (c.setObjective sense f).1.outcome = _ ∧ (c.setObjective sense f).1.duals = _
      unfold Algebraic.setObjective
      simp only
      split
      · split <;> exact same
      · exact same

end Backend

end MathProg
