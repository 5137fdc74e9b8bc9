import MathProg.Proofs.Attachment.FailedLoad
import MathProg.Proofs.Backend.FeasibleSet
import MathProg.Proofs.Backend.Expressible
import MathProg.Proofs.Model.Invariant

/-!
# What support does not promise

An algebraic backend answers for families of functions and sets. Whether it can express a single
constraint or objective depends on more: a row needs a variable and bounds in their order, and a
part of a nonlinear objective that has no variables needs a real value.
-/

namespace MathProg

open Fallible

/-- Whether an algebraic model can express the constraint, if it supports its families: a row has a
variable left, and the bounds of an interval are in their order. -/
structure Entry.IsPostable {N K : Type} [Numeral N K] (e : Entry N K) : Prop where
  hasVariable : e.set.family ∈ Algebraic.boundFamilies → e.function.support ≠ []
  ordered : ∀ lower upper, e.set = .interval lower upper → Numeral.le lower upper = true

namespace Algebraic

variable {p : Problem Number Quantity} {n : Nat}

/-! ## Writing one constraint -/

section Row

variable {f : Function Float} {s : ConstraintSet Number} {body : Node Quantity}

theorem boundsOf_bound (bound : s.family ∈ boundFamilies) :
    ((∀ lower upper, s = .interval lower upper → Numeral.le lower upper = true) ∧
      ∃ bounds, boundsOf s = .ok bounds) ∨
    ((∃ lower upper, s = .interval lower upper ∧ Numeral.le lower upper = false) ∧
      boundsOf s = .error .invalidConstraint) := by
  cases s with
  | interval lower upper =>
    cases ordered : Numeral.le lower upper with
    | true =>
      refine .inl ⟨fun _ _ same => ?_, _, if_pos ordered⟩
      cases same
      exact ordered
    | false => exact .inr ⟨⟨lower, upper, rfl, ordered⟩, if_neg (by simp [ordered])⟩
  | lessThan upper => exact .inl ⟨nofun, _, rfl⟩
  | greaterThan lower => exact .inl ⟨nofun, _, rfl⟩
  | equalTo value => exact .inl ⟨nofun, _, rfl⟩
  | _ => simp [ConstraintSet.family, boundFamilies] at bound

theorem checkBody_operand (operand : body.IsOperand) :
    checkBody (K := Float) body s = if body.isPlain then .error .invalidConstraint else .ok () := by
  unfold checkBody
  split
  next plain =>
    have real : body.isReal Number Float = true := operand.settled plain
    simp [real]
  next => rfl

/-- A scalar function gives a row between bounds, or there is nothing to bound, or no number is
within the bounds. -/
theorem Problem.row_scalar (covers : p.Covers f) (scalar : f.family ∈ scalarFamilies)
    (bound : s.family ∈ boundFamilies) :
    (f.support ≠ [] ∧ (∀ lower upper, s = .interval lower upper → Numeral.le lower upper = true) ∧
      ∃ row, p.row f s = .ok row) ∨
    ((f.support = [] ∨ ∃ lower upper, s = .interval lower upper ∧ Numeral.le lower upper = false) ∧
      p.row f s = .error .invalidConstraint) := by
  obtain ⟨body, built, operand, -, isPlain⟩ := p.exists_scalarNode covers scalar
  have check : checkBody (K := Float) body s =
      if f.support.isEmpty then .error .invalidConstraint else .ok () :=
    isPlain ▸ checkBody_operand operand
  unfold row
  rw [built]
  rcases boundsOf_bound bound with ⟨ordered, bounds, found⟩ | ⟨disordered, refused⟩
  · rw [found]
    simp only [bind, Except.bind, check]
    cases empty : f.support.isEmpty with
    | false => exact .inl ⟨List.isEmpty_eq_false_iff.1 empty, ordered, _, rfl⟩
    | true => exact .inr ⟨.inl (List.isEmpty_iff.1 empty), rfl⟩
  · rw [refused]
    exact .inr ⟨.inr disordered, rfl⟩

end Row

section Constraint

variable {b : Algebraic Number Float Quantity} {e : Entry Number Float}

theorem Problem.covers_numbered {f : Function Float} (within : f.Within n)
    (length : p.vars.length = n) : p.Covers (f.mapVariables (Handles.number (List.range' 1 n))) := by
  intro v used
  obtain ⟨w, mem, rfl⟩ := List.mem_map.1 (Function.mem_support_mapVariables used)
  obtain ⟨low, high⟩ := within w mem
  rw [Handles.number_of_range low high, length]
  omega

theorem scalar_of_supported (supported : supportsConstraint e.function.family e.set.family = true)
    (bound : e.set.family ∈ boundFamilies) : e.function.family ∈ scalarFamilies := by
  unfold supportsConstraint at supported
  generalize e.set.family = family at supported bound
  cases family <;> simp_all [boundFamilies]

/-- A supported constraint is written if it can be posted, and refused otherwise. -/
theorem extend_supported (tidy : e.function.Tidy n) (length : p.vars.length = n)
    (supported : supportsConstraint e.function.family e.set.family = true) :
    let φ := Handles.number (List.range' 1 n)
    (e.IsPostable ∧ ∃ q row, p.extend (e.function.mapVariables φ) e.set = .ok (q, row) ∧
      q.vars.length = n) ∨
    (¬ e.IsPostable ∧ p.extend (e.function.mapVariables φ) e.set = .error .invalidConstraint) := by
  intro φ
  cases given : e.domain? with
  | some t =>
    -- a domain is given to a variable that is there
    obtain ⟨v, D⟩ := t
    obtain ⟨function, domain⟩ := Entry.domain_eq_some.1 given
    have inside := p.covers_numbered tidy.within length
    rw [function] at inside
    have there := inside _ (List.mem_singleton_self _)
    have given (D : VariableDomain) :
        ∃ q, p.setDomain (e.function.mapVariables φ) D = .ok q ∧ q.vars.length = n := by
      have found : ∃ k, p.domainVariable (e.function.mapVariables φ) = .ok k := by
        rw [function]
        exact ⟨_, if_pos there⟩
      obtain ⟨k, found⟩ := found
      exact ⟨_, bind_eq_ok.2 ⟨k, found, rfl⟩, by simpa using length⟩
    have unbounded : e.set.family ∉ boundFamilies := by
      rcases domain with ⟨set, -⟩ | ⟨set, -⟩ <;> simp [set, ConstraintSet.family, boundFamilies]
    have postable : e.IsPostable := by
      refine ⟨fun bound => absurd bound unbounded, fun lower upper same => ?_⟩
      exact absurd (by simp [same, ConstraintSet.family, boundFamilies]) unbounded
    refine .inl ⟨postable, ?_⟩
    rcases domain with ⟨set, -⟩ | ⟨set, -⟩
    · obtain ⟨q, done, kept⟩ := given .integers
      refine ⟨q, none, ?_, kept⟩
      rw [set]
      exact bind_eq_ok.2 ⟨q, done, rfl⟩
    · obtain ⟨q, done, kept⟩ := given .binary
      refine ⟨q, none, ?_, kept⟩
      rw [set]
      exact bind_eq_ok.2 ⟨q, done, rfl⟩
  | none =>
    have bound := bound_of_supported supported given
    have scalar : (e.function.mapVariables φ).family ∈ scalarFamilies := by
      rw [tidy.family_mapVariables]
      exact scalar_of_supported supported bound
    have closed : (e.function.mapVariables φ).support = [] ↔ e.function.support = [] :=
      tidy.renames.support_eq_nil
    rw [Problem.extend_bound bound]
    rcases p.row_scalar (s := e.set) (p.covers_numbered tidy.within length) scalar bound with
      ⟨some, ordered, row, made⟩ | ⟨reason, refused⟩
    · exact .inl ⟨⟨fun _ => mt closed.2 some, ordered⟩, _, _, bind_eq_ok.2 ⟨row, made, rfl⟩, length⟩
    · refine .inr ⟨fun postable => ?_, ?_⟩
      · rcases reason with empty | ⟨lower, upper, same, disordered⟩
        · exact postable.hasVariable bound (closed.1 empty)
        · exact Bool.false_ne_true (disordered.symm.trans (postable.ordered lower upper same))
      · rw [refused]
        rfl

/-- Constraints are written one after the other, up to the first that cannot be posted. -/
theorem addConstraints_supported {es : List (Entry Number Float)}
    {b : Algebraic Number Float Quantity}
    (tidy : ∀ e ∈ es, e.function.Tidy n) (length : b.problem.vars.length = n)
    (supported : ∀ e ∈ es, supportsConstraint e.function.family e.set.family = true) :
    ((∀ e ∈ es, e.IsPostable) ∧ ∃ b' handles,
      (Backend.algebraic b).addConstraints (es.map (Backend.numberedEntry (List.range' 1 n))) =
        (.algebraic b', .ok handles) ∧ b'.problem.vars.length = n) ∨
    ((∃ e ∈ es, ¬ e.IsPostable) ∧ ∃ b',
      (Backend.algebraic b).addConstraints (es.map (Backend.numberedEntry (List.range' 1 n))) =
        (.algebraic b', .error .invalidConstraint)) := by
  induction es generalizing b with
  | nil => exact .inl ⟨by simp, b, [], rfl, length⟩
  | cons e es ih =>
    obtain ⟨first, tidy⟩ := List.forall_mem_cons.1 tidy
    obtain ⟨asked, supported⟩ := List.forall_mem_cons.1 supported
    -- the number of a constraint is counted up before it is posted, and stays so if it fails
    let counted := { b.problem with nextConstraint := b.problem.nextConstraint + 1 }
    rw [List.map_cons, Backend.addConstraints]
    rcases extend_supported (p := counted) first length asked with
      ⟨postable, q, row, extended, kept⟩ | ⟨refused, extended⟩
    · have step : ∃ b₁ handle, b.addConstraint (Backend.numberedEntry (List.range' 1 n) e) =
          (b₁, .ok handle) ∧ b₁.problem.vars.length = n := by
        unfold addConstraint Backend.numberedEntry
        simp only
        rw [extended]
        exact ⟨_, _, rfl, kept⟩
      obtain ⟨b₁, handle, one, kept⟩ := step
      rw [Backend.addConstraint, one]
      simp only
      rcases ih tidy kept supported with ⟨all, b', handles, rest, kept⟩ | ⟨some, b', rest⟩
      · rw [rest]
        exact .inl ⟨List.forall_mem_cons.2 ⟨postable, all⟩, b', handle :: handles, rfl, kept⟩
      · rw [rest]
        obtain ⟨d, mem, refused⟩ := some
        exact .inr ⟨⟨d, List.mem_cons_of_mem _ mem, refused⟩, b', rfl⟩
    · have step : ∃ b₁, b.addConstraint (Backend.numberedEntry (List.range' 1 n) e) =
          (b₁, .error .invalidConstraint) := by
        unfold addConstraint Backend.numberedEntry
        simp only
        rw [extended]
        exact ⟨_, rfl⟩
      obtain ⟨b₁, one⟩ := step
      rw [Backend.addConstraint, one]
      exact .inr ⟨⟨e, List.mem_cons_self .., refused⟩, b₁, rfl⟩

end Constraint

/-! ## Writing the objective -/

/-- An objective is set if its node is built and is not a number that is not real. -/
theorem setObjective_eq_ok {b : Algebraic Number Float Quantity} {sense : Sense}
    {f : Function Float} :
    (b.setObjective sense f).2 = .ok () ↔ ∃ a, b.problem.node f = .ok a ∧ a.IsSettled := by
  unfold setObjective
  simp only
  cases b.problem.node f with
  | error fault => simp
  | ok a =>
    have settled : a.IsSettled ↔ (a.isPlain && !a.isReal Number Float) = false := by
      unfold Node.IsSettled
      cases a.isPlain <;> cases a.isReal Number Float <;> simp
    cases unreal : (a.isPlain && !a.isReal Number Float) with
    | true => simp [settled, unreal]
    | false => simp [settled, unreal]

end Algebraic

namespace Backend

variable {b : Algebraic Number Float Quantity} {r : Representation Number Float}

theorem exists_offerObjective (vars : List Nat)
    (accepts : (algebraic b : Backend Number Float Quantity).acceptsObjective r.objective = true) :
    (∃ taken, ((algebraic b).offerObjective r vars).2 = .ok taken) ↔
      (b.setObjective r.sense (r.objective.mapVariables (Handles.number vars))).2 = .ok () := by
  rw [offerObjective, if_pos accepts]
  show (∃ taken, Except.map _ (b.setObjective r.sense _).2 = .ok taken) ↔ _
  rw [exists_map_eq_ok]
  constructor
  · rintro ⟨_, h⟩
    exact h
  · exact fun h => ⟨(), h⟩

/-- What becomes of a load of supported constraints into a backend without variables. -/
theorem load_supported (noVars : b.problem.vars = []) (tidy : r.Tidy)
    (supported : ∀ e ∈ r.constraints,
      Algebraic.supportsConstraint e.function.family e.set.family = true)
    (objective : r.objective.family ∈ [.affine, .quadratic, .nonlinear]) :
    ((∀ e ∈ r.constraints, e.IsPostable) ∧
      ((∃ x, ((algebraic b).load r).2 = .ok x) → r.objective.IsExpressible) ∧
      (r.objective.IsExpressible → r.objective.HasOperands →
        ∃ x, ((algebraic b).load r).2 = .ok x)) ∨
    ((∃ e ∈ r.constraints, ¬ e.IsPostable) ∧
      ((algebraic b).load r).2 = .error .invalidConstraint) := by
  unfold load
  rw [addVariables_algebraic]
  simp only [noVars, List.length_nil, List.nil_append, Nat.zero_add]
  rcases Algebraic.addConstraints_supported (n := r.variableNames.length)
      (b := { b with problem := { b.problem with
        vars := r.variableNames.map (⟨·, .reals, none⟩) } })
      tidy.constraints (by simp) supported with
    ⟨all, b', handles, written, length⟩ | ⟨some, b', refused⟩
  · have accepts : (algebraic b' : Backend Number Float Quantity).acceptsObjective r.objective
        = true := by
      cases family : r.objective with
      | affine f => rfl
      | quadratic f => rfl
      | nonlinear head args => rfl
      | _ => simp [family, Function.family] at objective
    have covers := b'.problem.covers_numbered tidy.objective.within length
    have renames : r.objective.Renames (Handles.number (List.range' 1 _)) _ :=
      tidy.objective.renames
    -- the constraints are in, so the load ends as its objective does
    rw [written]
    simp only [exists_map_eq_ok]
    rw [exists_offerObjective _ accepts, Algebraic.setObjective_eq_ok]
    refine .inl ⟨all, ?_, fun expressible operands => ?_⟩
    · rintro ⟨a, built, settled⟩
      exact renames.isExpressible_iff.1
        (Algebraic.Problem.isExpressible_of_node covers built settled)
    · obtain ⟨a, built, operand⟩ := Algebraic.Problem.exists_node covers
        (renames.hasOperands operands) (renames.isExpressible_iff.2 expressible)
      exact ⟨a, built, operand.settled⟩
  · rw [refused]
    exact .inr ⟨some, rfl⟩

end Backend

namespace Takeover

/-- Every model that has come about by finite calls has a representation. A new algebraic backend
that supports the families of all its constraints, and of whose kind its objective is, can be
attached only if every constraint can be posted and the objective is expressible, and then it is
attached unless a sum or a product without arguments occurs in the objective. A constraint that
cannot be posted is refused as invalid. -/
theorem run_supported (id : Nat) (name : Option String) (calls : List (ModelCall Number Float))
    (settings : Algebraic.Settings) (l : Linked Number Float Quantity) :
    let m : Model Number Float := ModelCall.afterAll calls (.empty id name)
    ((∀ call ∈ calls, call.IsFinite) → ∃ r, m.represent = .ok r) ∧
    ∀ r, m.represent = .ok r →
      (∀ e ∈ r.constraints, Algebraic.supportsConstraint e.function.family e.set.family) →
      r.objective.family ∈ [.affine, .quadratic, .nonlinear] →
      let attached := (((attach (.fresh (.algebraic settings))).op m).run.run l).1
      (attached = .ok () → (∀ e ∈ r.constraints, e.IsPostable) ∧ r.objective.IsExpressible) ∧
      ((∀ e ∈ r.constraints, e.IsPostable) → r.objective.IsExpressible → r.objective.HasOperands →
        attached = .ok ()) ∧
      ((∃ e ∈ r.constraints, ¬ e.IsPostable) →
        attached = .error (.backend .invalidConstraint)) := by
  intro m
  have closed : m.Closed := (ModelCall.follows_afterAll calls _).closed (Model.closed_empty id name)
  refine ⟨fun finite => ?_, fun r represented supported objective => ?_⟩
  · have regular : m.Regular := ModelCall.regular_afterAll finite (Model.regular_empty id name)
    exact regular.exists_represent closed
  · intro attached
    let b : Backend Number Float Quantity := .ofSpec (.algebraic settings)
    have offered := offered?_fresh l.workshop (.algebraic settings)
    have passes : b.unsupported? r = none := Backend.unsupported?_eq_none.2 supported
    have completes {x : Loaded} (h : (b.load r).2 = .ok x) : attached = .ok () :=
      congrArg Prod.fst (run_loaded (l := l) (t := .attach (.fresh (.algebraic settings)))
        represented offered passes (Prod.ext rfl h))
    have fails {e : BackendError} (h : (b.load r).2 = .error e) : attached = .error (.backend e) :=
      congrArg Prod.fst (run_failed (l := l) (t := .attach (.fresh (.algebraic settings)))
        represented offered passes (Prod.ext rfl h))
    rcases Backend.load_supported (b := .new settings) rfl (closed.tidy represented) supported
        objective with ⟨all, needs, enough⟩ | ⟨some, refused⟩
    · refine ⟨fun done => ⟨all, needs ?_⟩, fun _ expressible operands => ?_, fun some => ?_⟩
      · cases result : (b.load r).2 with
        | ok x => exact ⟨x, result⟩
        | error e => cases done.symm.trans (fails result)
      · obtain ⟨x, loaded⟩ := enough expressible operands
        exact completes loaded
      · obtain ⟨e, mem, unpostable⟩ := some
        exact absurd (all e mem) unpostable
    · refine ⟨fun done => ?_, fun all => ?_, fun _ => fails refused⟩
      · cases done.symm.trans (fails refused)
      · obtain ⟨e, mem, unpostable⟩ := some
        exact absurd (all e mem) unpostable

/-- One over a variable, which is at most one. -/
def reciprocalCalls : List (ModelCall Number Float) :=
  [.addVariable (.named (some "x")),
    .addConstraint (.expression (.var ⟨0, 0⟩)) (.lessThan (.integer 1)) none,
    .setNonlinearObjective (some .minimize)
      (.expression (.nonlinear .quotient [.number (.real 1), .var ⟨0, 0⟩]))]

def reciprocal : Representation Number Float where
  variableNames := [some "x"]
  sense := .minimize
  objective := .nonlinear "/" [.number 1, .var 0]
  constraints := [⟨none, .var 0, .lessThan (.integer 1)⟩]

theorem isExpressible_reciprocal : reciprocal.objective.IsExpressible := by
  have one : (Function.number (1 : Float)).IsExpressible :=
    .number (c := .number (.real 1)) ⟨rfl, rfl⟩ rfl
  have x : (Function.var 0 : Function Float).IsExpressible := .scalar (by decide)
  have known : Operator.ofHead? "/" = some .quotient := by decide
  refine .nonlinear known rfl
    (by simp [Function.supportAll, Function.support]) ?_ fun _ b second c folds => ?_
  · simpa using ⟨one, x⟩
  · cases second
    cases folds.1

/-- A constraint that has lost its only variable is refused, although its families are supported.
The reciprocal is taken. -/
theorem run_supported_vanished :
    let settings : Algebraic.Settings := ⟨"scripted", none, [], false⟩
    let l : Linked Number Float Quantity := ⟨.empty, .new none⟩
    let attached (calls : List (ModelCall Number Float)) :=
      (((attach (.fresh (.algebraic settings))).op
        (ModelCall.afterAll calls (.empty 0 none))).run.run l).1
    attached vanishedCalls = .error (.backend .invalidConstraint) ∧
      (∃ r, (ModelCall.afterAll reciprocalCalls (.empty 0 none)).represent = .ok r) ∧
      attached reciprocalCalls = .ok () := by
  intro settings l attached
  have finite : ∀ call ∈ reciprocalCalls, call.IsFinite := by
    have one : (Number.real 1).IsFinite := ⟨1, rfl, by decide +kernel⟩
    simp only [reciprocalCalls, List.forall_mem_cons]
    refine ⟨trivial, ⟨?_, rfl⟩, ⟨?_, rfl⟩, by simp⟩
    · simp [Expression.numbers]
    · simpa [Expression.numbers, Expression.numbersAll] using one
  have posts : ∀ e ∈ reciprocal.constraints, e.IsPostable := by
    intro e mem
    obtain rfl := List.mem_singleton.1 mem
    exact ⟨fun _ => by simp [Function.support], fun lower upper same => by cases same⟩
  have operands : reciprocal.objective.HasOperands :=
    .nonlinear (by simp) (by simpa using ⟨.leaf (by decide), .leaf (by decide)⟩)
  refine ⟨?_, (run_supported 0 none reciprocalCalls settings l).1 finite, ?_⟩
  · let r : Representation Number Float :=
      ⟨[some "x"], .feasibility, .affine .zero, [⟨none, .affine .zero, .lessThan (.integer 1)⟩]⟩
    have supported : ∀ e ∈ r.constraints,
        Algebraic.supportsConstraint e.function.family e.set.family := by decide
    refine ((run_supported 0 none vanishedCalls settings l).2 r rfl supported (by decide)).2.2 ?_
    exact ⟨_, List.mem_singleton_self _, fun postable => postable.hasVariable (by decide) rfl⟩
  · have supported : ∀ e ∈ reciprocal.constraints,
        Algebraic.supportsConstraint e.function.family e.set.family := by decide
    exact ((run_supported 0 none reciprocalCalls settings l).2 reciprocal rfl supported
      (by decide)).2.1 posts isExpressible_reciprocal operands

end Takeover

end MathProg
