import MathProg.Proofs.Attachment.Problem
import MathProg.Proofs.Backend.FeasibleSet

/-!
# What a backend never changes

A backend keeps the settings that it was built with, whatever is written into it. What it supports
depends on nothing else. Its constraints keep the families of the entries that they were added for.
-/

namespace MathProg

variable {N K V : Type}

namespace Backend

/-- What a backend was built from. -/
def spec : Backend N K V → BackendSpec N
  | inMemory b => .inMemory b.settings
  | algebraic b => .algebraic b.settings

/-- A backend as it was when it was built. -/
def renewed [Zero K] (b : Backend N K V) : Backend N K V :=
  .ofSpec b.spec

@[simp] theorem spec_ofSpec [Zero K] (spec : BackendSpec N) :
    (ofSpec spec : Backend N K V).spec = spec := by
  cases spec <;> rfl

@[simp] theorem spec_clear [Zero K] (b : Backend N K V) : b.clear.spec = b.spec := by
  cases b <;> rfl

theorem supportsConstraint_renewed [Zero K] (b : Backend N K V) :
    b.renewed.supportsConstraint = b.supportsConstraint := by
  cases b <;> rfl

theorem supportsConstraint_congr [Zero K] {b c : Backend N K V} (same : c.spec = b.spec) :
    c.supportsConstraint = b.supportsConstraint := by
  rw [← c.supportsConstraint_renewed, ← b.supportsConstraint_renewed, renewed, renewed, same]

theorem unsupported?_congr [Zero K] {b c : Backend N K V} (same : c.spec = b.spec)
    (r : Representation N K) : c.unsupported? r = b.unsupported? r := by
  have asked (seen pairs : List (FunctionFamily × SetFamily)) :
      c.firstUnsupported seen pairs = b.firstUnsupported seen pairs := by
    induction pairs generalizing seen with
    | nil => rfl
    | cons pair pairs ih =>
      rw [firstUnsupported, firstUnsupported, supportsConstraint_congr same]
      simp only [ih]
  exact asked [] _

theorem SameProblem.spec_eq {b c : Backend N K V} (h : b.SameProblem c) : c.spec = b.spec := by
  cases b <;> cases c <;> first | exact h.elim | skip
  · exact congrArg BackendSpec.inMemory h.settings
  · exact congrArg BackendSpec.algebraic h.settings

/-! ## Writing -/

/-- Variables are numbered one after the other. -/
theorem exists_start (b : Backend N K V) (names : List (Option String)) :
    ∃ start, (b.addVariables names).1 = List.range' start names.length := by
  cases b with
  | inMemory b => exact ⟨_, congrArg Prod.fst (addVariables_inMemory b names)⟩
  | algebraic b => exact ⟨_, congrArg Prod.fst (addVariables_algebraic b names)⟩

section

variable [LT K] [DecidableLT K] [Numeral N K] [CheckedArithmetic N K V]

theorem families_addConstraint {b c : Backend N K V} {e : Entry N K} {handle : ConstraintHandle}
    (h : b.addConstraint e = (c, .ok handle)) : (handle.function, handle.set) = e.families := by
  cases b with
  | inMemory b =>
    cases h
    rfl
  | algebraic b =>
    have result : (b.addConstraint e).2 = .ok handle := congrArg Prod.snd h
    unfold Algebraic.addConstraint at result
    simp only at result
    split at result
    · cases result
      rfl
    · cases result

/-- Every constraint that has been added has its handle. -/
theorem families_addConstraints {b c : Backend N K V} {entries : List (Entry N K)}
    {handles : List ConstraintHandle} (h : b.addConstraints entries = (c, .ok handles)) :
    handles.map (fun handle => (handle.function, handle.set)) = entries.map Entry.families := by
  induction entries generalizing b handles with
  | nil =>
    cases h
    rfl
  | cons e entries ih =>
    rw [addConstraints] at h
    split at h
    next => cases congrArg Prod.snd h
    next d handle first =>
      generalize added : d.addConstraints entries = rest at h
      obtain ⟨d', _ | others⟩ := rest
      · cases congrArg Prod.snd h
      · cases h
        rw [List.map_cons, List.map_cons, ih added, families_addConstraint first]

theorem spec_load [Zero K] [Add K] [BEq K] (b : Backend N K V) (r : Representation N K) :
    (b.load r).1.spec = b.spec := by
  apply load_keeps (P := fun c => c.spec = b.spec) rfl
  · intro c name same
    cases c <;> exact same
  · intro c e same
    cases c with
    | inMemory c => exact same
    | algebraic c =>
      rw [← same]
      show BackendSpec.algebraic (c.addConstraint e).1.settings = _
      unfold Algebraic.addConstraint
      simp only
      split <;> rfl
  · intro c sense f same
    cases c with
    | inMemory c => exact same
    | algebraic c =>
      rw [← same]
      show BackendSpec.algebraic (c.setObjective sense f).1.settings = _
      unfold Algebraic.setObjective
      simp only
      split
      · split <;> rfl
      · rfl

end

/-! ## Solving -/

theorem spec_solve [Zero K] [Add K] [Sub K] [Neg K] [Div K] [LT K] [DecidableLT K] [TextNumber K]
    [Numeral N K] [CheckedArithmetic N K V] (b : Backend N K V) (solver : ScriptedSolver N) :
    (b.solve solver).1.spec = b.spec :=
  (b.solve_sameProblem solver).spec_eq

end Backend

/-! ## The families of what is loaded -/

variable [Zero K] [Add K] [BEq K] [ZeroStart K]

/-- A tidy function stays in its family when its variables are numbered. -/
theorem Function.Tidy.family_mapVariables {start n : Nat} {f : Function K} (h : f.Tidy n) :
    (f.mapVariables (Handles.number (List.range' start n))).family = f.family :=
  h.renames.family_eq

/-- The handles of a load tell the families of the representation. -/
theorem Backend.families_load [LT K] [DecidableLT K] [Numeral N K] [CheckedArithmetic N K V]
    {b c : Backend N K V} {r : Representation N K} {x : Loaded} (tidy : r.Tidy)
    (h : b.load r = (c, .ok x)) :
    x.handles.constraints.map (fun handle => (handle.function, handle.set))
      = r.constraints.map Entry.families := by
  obtain ⟨start, numbers⟩ := b.exists_start r.variableNames
  unfold load at h
  simp only at h
  split at h
  next => cases congrArg Prod.snd h
  next d handles added =>
    generalize d.offerObjective r (b.addVariables r.variableNames).1 = offered at h
    obtain ⟨d', _ | taken⟩ := offered
    · cases congrArg Prod.snd h
    · cases h
      rw [families_addConstraints added, List.map_map]
      refine List.map_congr_left fun e he => ?_
      show (Function.family (e.function.mapVariables _), e.set.family) = _
      rw [numbers, (tidy.constraints e he).family_mapVariables]
      rfl

end MathProg
