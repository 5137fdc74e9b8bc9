import MathProg.Proofs.Function.Canonical

/-!
# Renaming back and forth

A canonical function keeps its shape when its variables are renamed in their order: it stays in its
family, and has no variables exactly if it had none.
-/

namespace MathProg

namespace Function

variable {K : Type}

/-! ## Arguments -/

theorem supportAll_eq_nil {fs : List (Function K)} :
    supportAll fs = [] ↔ ∀ f ∈ fs, f.support = [] := by
  induction fs with
  | nil => simp [supportAll]
  | cons f fs ih => rw [supportAll, List.append_eq_nil_iff, List.forall_mem_cons, ih]

theorem mem_supportAll {fs : List (Function K)} {f : Function K} (mem : f ∈ fs) {v : Int}
    (used : v ∈ f.support) : v ∈ supportAll fs := by
  induction fs with
  | nil => cases mem
  | cons g fs ih =>
    rcases List.mem_cons.1 mem with rfl | mem
    · exact List.mem_append_left _ used
    · exact List.mem_append_right _ (ih mem)

/-- Induction over functions, for all arguments of an operator at once. -/
theorem induction_args {P : Function K → Prop} (leaf : ∀ f, f.family ≠ .nonlinear → P f)
    (nonlinear : ∀ head args, (∀ a ∈ args, P a) → P (.nonlinear head args)) : ∀ f, P f
  | .nonlinear head args => nonlinear head args fun a _ => induction_args leaf nonlinear a
  | .number c => leaf _ nofun
  | .var v => leaf _ nofun
  | .affine f => leaf _ nofun
  | .quadratic f => leaf _ nofun
  | .vars vs => leaf _ nofun
  | .rows fs => leaf _ nofun

theorem allCanonical_iff [Zero K] [BEq K] {fs : List (Function K)} :
    AllCanonical fs ↔ ∀ f ∈ fs, f.IsCanonical := by
  induction fs with
  | nil => simp [AllCanonical]
  | cons f fs ih => rw [AllCanonical, ih, List.forall_mem_cons]

variable [Zero K] [Add K] [BEq K] {φ ψ : Int → Int} {f : Function K}

theorem mapAllVariables_eq_map (fs : List (Function K)) :
    mapAllVariables φ fs = fs.map (mapVariables φ) := by
  induction fs with
  | nil => rfl
  | cons f fs ih => rw [mapAllVariables, ih, List.map_cons]

/-! ## Renaming -/

/-- Whether the variables of a canonical function can be renamed and back, in their order. -/
structure Renames (f : Function K) (φ ψ : Int → Int) : Prop where
  canonical : f.IsCanonical
  mono : ∀ v ∈ f.support, ∀ w ∈ f.support, v < w → φ v < φ w
  back : ∀ v ∈ f.support, ψ (φ v) = v

omit [Add K] in
theorem Renames.arg {head : String} {args : List (Function K)}
    (h : (nonlinear head args).Renames φ ψ) {a : Function K} (mem : a ∈ args) : a.Renames φ ψ where
  canonical := allCanonical_iff.1 h.canonical a mem
  mono v hv w hw := h.mono v (mem_supportAll mem hv) w (mem_supportAll mem hw)
  back v hv := h.back v (mem_supportAll mem hv)

theorem Renames.mapVariables_back [ZeroStart K] (h : f.Renames φ ψ) :
    (f.mapVariables φ).mapVariables ψ = f :=
  Function.mapVariables_back h.canonical h.mono h.back

/-- Renaming leaves a function alone that has no variables. -/
theorem mapVariables_of_closed (canonical : f.IsCanonical) (closed : f.support = []) :
    f.mapVariables φ = f := by
  have affine {g : Affine K} (none : g.terms = []) : g.mapVariables φ = g := by
    obtain ⟨terms, c⟩ := g
    obtain rfl : terms = [] := none
    rfl
  induction f using induction_args with
  | leaf f other =>
    cases f with
    | number c => rfl
    | var v => cases closed
    | affine g => exact congrArg Function.affine (affine (List.map_eq_nil_iff.1 closed))
    | quadratic g =>
      have pairs := (List.append_eq_nil_iff.1 closed).1
      obtain ⟨t, mem⟩ := List.exists_mem_of_ne_nil _ canonical.hasPair
      cases List.flatMap_eq_nil_iff.1 pairs t mem
    | vars vs =>
      obtain rfl : vs = [] := closed
      rfl
    | rows gs =>
      have each := List.flatMap_eq_nil_iff.1 closed
      refine congrArg Function.rows ((List.map_congr_left fun g mem => ?_).trans (List.map_id _))
      exact affine (List.map_eq_nil_iff.1 (each g mem))
    | nonlinear head args => exact absurd rfl other
  | nonlinear head args ih =>
    have each := supportAll_eq_nil.1 closed
    refine congrArg (Function.nonlinear head) ?_
    rw [mapAllVariables_eq_map]
    exact (List.map_congr_left fun a mem =>
      ih a mem (allCanonical_iff.1 canonical a mem) (each a mem)).trans (List.map_id _)

theorem Renames.support_eq_nil [ZeroStart K] (h : f.Renames φ ψ) :
    (f.mapVariables φ).support = [] ↔ f.support = [] := by
  constructor
  · intro closed
    refine List.eq_nil_iff_forall_not_mem.2 fun v used => ?_
    rw [← h.mapVariables_back] at used
    have renamed := mem_support_mapVariables used
    rw [closed] at renamed
    cases renamed
  · intro closed
    rw [mapVariables_of_closed h.canonical closed, closed]

/-- A function stays in its family. -/
theorem Renames.family_eq [ZeroStart K] (h : f.Renames φ ψ) :
    (f.mapVariables φ).family = f.family := by
  cases f with
  | quadratic f =>
    -- no renaming makes a quadratic function of one that has lost its products
    have back := h.mapVariables_back
    cases image : (Function.quadratic f).mapVariables φ with
    | quadratic g => rfl
    | _ =>
      rw [image] at back
      cases back
  | _ => rfl

end Function

end MathProg
