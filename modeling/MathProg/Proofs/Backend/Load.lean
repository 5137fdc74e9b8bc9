import Mathlib
import MathProg.Backend.Load
import MathProg.Proofs.Function.Renaming
import MathProg.Proofs.Model.Represent

/-!
# Loading the in-memory backend

The in-memory backend takes whatever it is given. Once a representation is loaded into an empty one,
it holds the variables, the constraints and, if it was accepted, the objective, all under numbers
that count from one; what it shows of itself is the representation again.
-/

namespace MathProg

variable {N K V : Type}

/-! ## Numbers of positions -/

namespace Handles

/-- Positions of `n` variables are numbered one after the other. -/
theorem number_of_range {start n : Nat} {v : Int} (low : 0 ≤ v) (high : v < n) :
    number (List.range' start n) v = v + start := by
  obtain ⟨i, rfl⟩ := Int.eq_ofNat_of_zero_le low
  have inside : i < (List.range' start n).length := by simpa using high
  simp [number, List.getD_eq_getElem?_getD, List.getElem?_eq_getElem inside, Int.add_comm]

end Handles

/-- Positions get their numbers in their order, and numbers are counted back to positions. -/
theorem Function.Tidy.renames [Zero K] [BEq K] {start n : Nat} {f : Function K} (h : f.Tidy n) :
    f.Renames (Handles.number (List.range' start n)) (· - (start : Int)) := by
  have number : ∀ v ∈ f.support, Handles.number (List.range' start n) v = v + start := fun v hv =>
    Handles.number_of_range (h.within v hv).1 (h.within v hv).2
  refine ⟨h.canonical, fun v hv w hw below => ?_, fun v hv => ?_⟩
  · rw [number v hv, number w hw]
    omega
  · rw [number v hv]
    omega

/-- What was put under numbers comes back in positions. -/
theorem Function.Tidy.positioned_number [Zero K] [Add K] [BEq K] [ZeroStart K] {n : Nat}
    {f : Function K} (h : f.Tidy n) :
    InMemory.positioned n (f.mapVariables (Handles.number (List.range' 1 n))) = .ok f := by
  have number : ∀ v ∈ f.support, Handles.number (List.range' 1 n) v = v + 1 := fun v hv =>
    Handles.number_of_range (h.within v hv).1 (h.within v hv).2
  have back : (f.mapVariables (Handles.number (List.range' 1 n))).mapVariables (· - 1) = f :=
    h.renames.mapVariables_back
  have inside : (f.mapVariables (Handles.number (List.range' 1 n))).support.all
      (fun v => 1 ≤ v && v ≤ n) = true := by
    rw [List.all_eq_true]
    intro v hv
    obtain ⟨w, hw, rfl⟩ := List.mem_map.1 (Function.mem_support_mapVariables hv)
    have within := h.within w hw
    rw [number w hw]
    simp only [Bool.and_eq_true, decide_eq_true_eq]
    omega
  unfold InMemory.positioned
  split
  next c hc =>
    rw [hc] at back
    exact absurd (congrArg Function.family back).symm h.notNumber
  next => rw [if_pos inside, back]

/-! ## What a load leaves -/

namespace InMemory

/-- Constraints with their handles, numbered from a start. -/
def handled (start : Nat) (entries : List (Entry N K)) : List (ConstraintHandle × Entry N K) :=
  entries.zipIdx start |>.map (fun (e, i) => (⟨i, e.function.family, e.set.family⟩, e))

theorem handled_entries (start : Nat) (entries : List (Entry N K)) :
    (handled start entries).map Prod.snd = entries := by
  simp [handled, List.map_map, Function.comp_def]

theorem nodup_handles (start : Nat) (entries : List (Entry N K)) :
    ((handled start entries).map Prod.fst).Nodup := by
  have numbers : ((handled start entries).map Prod.fst).map ConstraintHandle.number
      = (List.range' start entries.length).map Int.ofNat := by
    simp only [handled, List.map_map, Function.comp_def, ← List.zipIdx_map_snd start entries]
    rfl
  refine List.Nodup.of_map ConstraintHandle.number ?_
  rw [numbers]
  exact List.Nodup.map (fun _ _ => Int.ofNat.inj) List.nodup_range'

/-- Among different keys, every key finds its own entry. -/
theorem lookup_of_nodup {α β : Type} [BEq α] [LawfulBEq α] {entries : List (α × β)} {i : Nat}
    {k : α} {x : β} (distinct : (entries.map Prod.fst).Nodup) (h : entries[i]? = some (k, x)) :
    entries.lookup k = some x := by
  induction entries generalizing i with
  | nil => simp at h
  | cons t entries ih =>
    obtain ⟨fresh, distinct⟩ := List.nodup_cons.1 distinct
    cases i with
    | zero =>
      obtain rfl : t = (k, x) := by simpa using h
      simp [List.lookup]
    | succ i =>
      rw [List.getElem?_cons_succ] at h
      have other : k ≠ t.1 := fun same => fresh (same ▸ List.mem_map_of_mem
        (List.mem_of_getElem? h) : t.1 ∈ entries.map Prod.fst)
      rw [List.lookup, beq_false_of_ne other]
      exact ih distinct h

/-- Whether the backend takes the function as an objective. -/
def accepts (b : InMemory N K) (f : Function K) : Bool :=
  match f with
  | .nonlinear _ _ => b.settings.supportsNonlinear
  | f => b.supportsObjective f.family

/-- The backend holds a representation under the given handles. -/
structure Holds [Zero K] [Add K] [BEq K] (b : InMemory N K) (r : Representation N K)
    (handles : Handles) (hasObjective : Bool) : Prop where
  names : b.problem.variableNames = r.variableNames
  vars : handles.vars = List.range' 1 r.variableNames.length
  entries : b.problem.constraints.map Prod.snd
    = r.constraints.map (Backend.numberedEntry handles.vars)
  constraints : b.problem.constraints.map Prod.fst = handles.constraints
  nodup : handles.constraints.Nodup
  accepted : hasObjective = b.accepts r.objective
  objective : hasObjective → b.problem.sense = r.sense ∧
    b.problem.objective = r.objective.mapVariables (Handles.number handles.vars)

/-- The backend with more variables. -/
def withVariables (b : InMemory N K) (names : List (Option String)) : InMemory N K :=
  { b with problem :=
    { b.problem with variableNames := b.problem.variableNames ++ names } }

/-- The backend with more constraints. -/
def withConstraints (b : InMemory N K) (entries : List (Entry N K)) : InMemory N K :=
  { b with problem :=
    { b.problem with
      constraints := b.problem.constraints ++ handled b.problem.nextConstraint entries
      nextConstraint := b.problem.nextConstraint + entries.length } }

end InMemory

namespace Backend

theorem acceptsObjective_inMemory (b : InMemory N K) (f : Function K) :
    (inMemory b : Backend N K V).acceptsObjective f = b.accepts f := by
  cases f <;> rfl

theorem addVariables_inMemory (b : InMemory N K) (names : List (Option String)) :
    (inMemory b : Backend N K V).addVariables names
      = (List.range' (b.problem.variableNames.length + 1) names.length,
        inMemory (b.withVariables names)) := by
  induction names generalizing b with
  | nil => simp [addVariables, InMemory.withVariables]
  | cons name names ih =>
    simp only [addVariables, addVariable, InMemory.addVariable, ih]
    simp [InMemory.withVariables, List.range'_succ]

theorem addVariables_keeps {P : Backend N K V → Prop} {b : Backend N K V} (h : P b)
    (vars : ∀ c name, P c → P (c.addVariable name).2) (names : List (Option String)) :
    P (b.addVariables names).2 := by
  induction names generalizing b with
  | nil => exact h
  | cons name names ih => exact ih (vars b name h)

variable [Numeral N K] [CheckedArithmetic N K V] [LT K] [DecidableLT K]

theorem addConstraints_inMemory (b : InMemory N K) (entries : List (Entry N K)) :
    (inMemory b : Backend N K V).addConstraints entries
      = (inMemory (b.withConstraints entries),
        .ok ((InMemory.handled b.problem.nextConstraint entries).map Prod.fst)) := by
  induction entries generalizing b with
  | nil => simp [addConstraints, InMemory.withConstraints, InMemory.handled]
  | cons e entries ih =>
    simp only [addConstraints, addConstraint, InMemory.addConstraint, ih]
    simp [InMemory.withConstraints, InMemory.handled, Except.map, Nat.add_comm, Nat.add_left_comm]

theorem addConstraints_keeps {P : Backend N K V → Prop} {b : Backend N K V} (h : P b)
    (constraints : ∀ c e, P c → P (c.addConstraint e).1) (entries : List (Entry N K)) :
    P (b.addConstraints entries).1 := by
  induction entries generalizing b with
  | nil => exact h
  | cons e entries ih =>
    have one := constraints b e h
    rw [addConstraints]
    split
    next d _ same =>
      rw [same] at one
      exact one
    next d _ same =>
      rw [same] at one
      exact ih one

variable [Zero K] [Add K] [BEq K]

/-- What every single write keeps, a load keeps too, whether it completes or fails. -/
theorem load_keeps {P : Backend N K V → Prop} {b : Backend N K V} (h : P b)
    (vars : ∀ c name, P c → P (c.addVariable name).2)
    (constraints : ∀ c e, P c → P (c.addConstraint e).1)
    (objective : ∀ c sense f, P c → P (c.setObjective sense f).1) (r : Representation N K) :
    P (b.load r).1 := by
  have named := addVariables_keeps h vars r.variableNames
  have written := addConstraints_keeps named constraints
    (r.constraints.map (numberedEntry (b.addVariables r.variableNames).1))
  unfold load
  simp only
  split
  next c e same =>
    rw [same] at written
    exact written
  next c handles same =>
    rw [same] at written
    unfold offerObjective
    split
    · exact objective c _ _ written
    · exact written

/-- An empty in-memory backend takes a representation and then holds it. Of what was in it before,
only an objective that is not replaced stays. -/
theorem load_inMemory {b : InMemory N K} (empty : b.isEmpty) (r : Representation N K) :
    ∃ (loaded : InMemory N K) (handles : Handles),
      (inMemory b : Backend N K V).load r
        = (inMemory loaded, .ok ⟨handles, b.accepts r.objective⟩) ∧
      loaded.Holds r handles (b.accepts r.objective) ∧
      (b.accepts r.objective = false → loaded.problem.objective = b.problem.objective) := by
  simp only [InMemory.isEmpty, Bool.and_eq_true, List.isEmpty_iff] at empty
  obtain ⟨names, constraints⟩ := empty
  have start : b.problem.variableNames.length + 1 = 1 := by simp [names]
  let vars := List.range' 1 r.variableNames.length
  let entries := r.constraints.map (numberedEntry vars)
  let written := (b.withVariables r.variableNames).withConstraints entries
  let handles : Handles := ⟨vars, (InMemory.handled b.problem.nextConstraint entries).map Prod.fst⟩
  -- nothing is refused, so the load is one write after the other
  have writing : (inMemory b : Backend N K V).load r =
      let offered := (inMemory written : Backend N K V).offerObjective r vars
      (offered.1, offered.2.map (fun hasObjective => ⟨handles, hasObjective⟩)) := by
    unfold load
    rw [addVariables_inMemory, start]
    simp only [addConstraints_inMemory]
    rfl
  have holds : written.problem.variableNames = r.variableNames ∧
      written.problem.constraints.map Prod.snd = entries ∧
      written.problem.constraints.map Prod.fst = handles.constraints := by
    simp [written, InMemory.withConstraints, InMemory.withVariables, names, constraints, handles,
      InMemory.handled_entries]
  have accepts : (inMemory written : Backend N K V).acceptsObjective r.objective
      = b.accepts r.objective := acceptsObjective_inMemory written r.objective
  rw [writing]
  unfold offerObjective
  rw [accepts]
  cases taken : b.accepts r.objective with
  | false =>
    refine ⟨written, handles, rfl, ⟨holds.1, rfl, holds.2.1, holds.2.2, ?_, taken.symm, ?_⟩, ?_⟩
    · exact InMemory.nodup_handles _ _
    · simp
    · exact fun _ => rfl
  | true =>
    refine ⟨written.setObjective r.sense (r.objective.mapVariables (Handles.number vars)),
      handles, rfl, ⟨holds.1, rfl, holds.2.1, holds.2.2, ?_, taken.symm, ?_⟩, ?_⟩
    · exact InMemory.nodup_handles _ _
    · exact fun _ => ⟨rfl, rfl⟩
    · simp

end Backend

/-! ## What the backend shows -/

namespace InMemory.Holds

variable [Zero K] [Add K] [BEq K] {b : InMemory N K} {r : Representation N K} {handles : Handles}
  {hasObjective : Bool}

theorem constraints_length (h : b.Holds r handles hasObjective) :
    handles.constraints.length = r.constraints.length := by
  rw [← h.constraints, List.length_map, ← List.length_map (f := Prod.snd), h.entries,
    List.length_map]

/-- Every handle finds its constraint. -/
theorem lookup (h : b.Holds r handles hasObjective) {i : Nat} {handle : ConstraintHandle}
    (hi : handles.constraints[i]? = some handle) :
    ∃ e, r.constraints[i]? = some e ∧
      b.problem.constraints.lookup handle = some (Backend.numberedEntry handles.vars e) := by
  rw [← h.constraints, List.getElem?_map, Option.map_eq_some_iff] at hi
  obtain ⟨⟨handle, e⟩, stored, rfl⟩ := hi
  have entry : (r.constraints.map (Backend.numberedEntry handles.vars))[i]? = some e := by
    rw [← h.entries, List.getElem?_map, stored]
    rfl
  rw [List.getElem?_map, Option.map_eq_some_iff] at entry
  obtain ⟨e', he', rfl⟩ := entry
  refine ⟨e', he', lookup_of_nodup ?_ stored⟩
  rw [h.constraints]
  exact h.nodup

/-- The backend shows the representation, as long as it can show its objective. -/
theorem representation_eq [ZeroStart K] (h : b.Holds r handles hasObjective) (tidy : r.Tidy) :
    b.representation = (positioned r.variableNames.length b.problem.objective).map
      (fun objective => ⟨r.variableNames, b.problem.sense, objective, r.constraints⟩) := by
  let shown : Entry N K → Except BackendError (Entry N K) := fun e => do
    return { e with function := ← positioned r.variableNames.length e.function }
  have each : ∀ e ∈ r.constraints, shown (Backend.numberedEntry handles.vars e) = .ok e := by
    intro e he
    have back := (tidy.constraints e he).positioned_number
    rw [← h.vars] at back
    simp only [shown, Backend.numberedEntry, back]
    rfl
  have constraints : b.problem.constraints.mapM (fun t => shown t.2) = .ok r.constraints := by
    rw [Fallible.mapM_eq_ok, ← List.forall₂_map_left_iff (f := Prod.snd)
      (R := fun e e' => shown e = .ok e'), h.entries, List.forall₂_map_left_iff]
    exact List.forall₂_same.2 each
  unfold representation
  simp only [h.names]
  change (do
    let objective ← positioned r.variableNames.length b.problem.objective
    let constraints ← b.problem.constraints.mapM (fun (t : ConstraintHandle × _) => shown t.2)
    return (⟨r.variableNames, b.problem.sense, objective, constraints⟩ : Representation N K)) = _
  rw [constraints]
  cases positioned r.variableNames.length b.problem.objective <;> rfl

/-- An objective that was taken is shown as it is in the representation. -/
theorem positioned_objective [ZeroStart K] (h : b.Holds r handles hasObjective) (tidy : r.Tidy)
    (taken : hasObjective) :
    positioned r.variableNames.length b.problem.objective = .ok r.objective := by
  rw [(h.objective taken).2, h.vars]
  exact tidy.objective.positioned_number

end InMemory.Holds

end MathProg
