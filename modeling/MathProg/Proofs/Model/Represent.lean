import MathProg.Model.Represent
import MathProg.Proofs.Function.Canonical
import MathProg.Proofs.Function.Totality
import MathProg.Proofs.Model.Fit
import MathProg.Proofs.Number.Exact

/-!
# What a model is represented by

The functions in a representation are canonical, and use no variable but those that occur in the
model. In a closed model every occurring variable belongs to it, so that its functions use no
position beyond the variables. Where every number is a coefficient, every expression has a function,
every set can be shifted and every model has a representation.
-/

namespace MathProg

open Fallible

variable {N K : Type}

/-! ## Closed models -/

/-- Whether an expression uses nothing but variables of the model. -/
def Model.Closes (m : Model N K) (e : Expression N K) : Prop :=
  ∀ v ∈ e.occurrences, m.owns v

/-- Whether the whole model uses nothing but its own variables, in functions that may be stored. -/
structure Model.Closed (m : Model N K) : Prop where
  objective : m.Closes m.objective.toExpression
  constraints : ∀ d ∈ m.constraints, ∀ e ∈ d.function.entries, m.Closes e
  fitted : ∀ d ∈ m.constraints, d.function.IsFitted

theorem Model.closed_empty [Zero K] (id : Nat) (name : Option String) :
    (Model.empty id name : Model N K).Closed :=
  ⟨by simp [Closes, empty, Objective.toExpression, Expression.occurrences], by simp [empty],
    by simp [empty]⟩

/-- Whether a function uses no positions but the first `n`. -/
def Function.Within (n : Nat) (f : Function K) : Prop :=
  ∀ v ∈ f.support, 0 ≤ v ∧ v < n

/-- What is known of a function over `n` variables: it is canonical, uses no position beyond the
variables and is no bare number. -/
structure Function.Tidy [Zero K] [BEq K] (n : Nat) (f : Function K) : Prop where
  canonical : f.IsCanonical
  within : f.Within n
  notNumber : f.family ≠ .number

/-- Whether all functions of a representation are tidy. -/
structure Representation.Tidy [Zero K] [BEq K] (r : Representation N K) : Prop where
  objective : r.objective.Tidy r.variableNames.length
  constraints : ∀ e ∈ r.constraints, e.function.Tidy r.variableNames.length

/-! ## Functions of expressions -/

section Functions

variable [Zero K] [Add K] [BEq K]

theorem LinearExpr.isCanonical_toAffine (e : LinearExpr K) : e.toAffine.IsCanonical :=
  Terms.isCanonical_canonical _

theorem LinearExpr.mem_toAffine {e : LinearExpr K} {v : Int}
    (h : v ∈ e.toAffine.terms.map Prod.fst) : ∃ w ∈ e.terms.map Prod.fst, v = w.index := by
  obtain ⟨t, ht, rfl⟩ := List.mem_map.1 h
  obtain ⟨u, hu, same⟩ := List.mem_map.1 (Terms.mem_canonical_key ht)
  obtain ⟨w, hw, rfl⟩ := List.mem_map.1 hu
  exact ⟨w.1, List.mem_map_of_mem hw, same.symm⟩

theorem QuadraticExpr.isCanonical_toFunction (e : QuadraticExpr K) :
    e.toFunction.IsCanonical := by
  refine Function.isCanonical_canonicalQuadratic fun t ht => ?_
  obtain ⟨u, -, rfl⟩ := List.mem_map.1 ht
  exact VariablePair.first_le_second _ _

theorem QuadraticExpr.mem_toFunction {e : QuadraticExpr K} {v : Int}
    (h : v ∈ e.toFunction.support) : ∃ w ∈ e.occurrences, v = w.index := by
  rcases Function.mem_support_canonicalQuadratic h with ⟨t, ht, hv⟩ | hv
  · obtain ⟨u, hu, rfl⟩ := List.mem_map.1 ht
    have inside : ∀ w ∈ [u.1.first, u.1.second], w ∈ e.occurrences := fun w hw =>
      List.mem_append_left _ (List.mem_flatMap.2 ⟨u, hu, hw⟩)
    rcases VariablePair.mem_of.1 hv with rfl | rfl
    · exact ⟨u.1.first, inside _ (by simp), rfl⟩
    · exact ⟨u.1.second, inside _ (by simp), rfl⟩
  · obtain ⟨t, ht, rfl⟩ := List.mem_map.1 hv
    obtain ⟨u, hu, rfl⟩ := List.mem_map.1 ht
    exact ⟨u.1, List.mem_append_right _ (List.mem_map_of_mem hu), rfl⟩

end Functions

namespace Expression

variable [Zero K] [Add K] [BEq K] [Numeral N K]

mutual

theorem isCanonical_toFunction : ∀ {e : Expression N K} {f : Function K},
    e.toFunction = .ok f → f.IsCanonical
  | .number n, f, h => by
    obtain ⟨c, -, h⟩ := bind_eq_ok.1 h
    cases h
    trivial
  | .var v, f, h => by
    cases h
    trivial
  | .linear e, f, h => by
    cases h
    exact e.isCanonical_toAffine
  | .quadratic e, f, h => by
    cases h
    exact e.isCanonical_toFunction
  | .nonlinear op args, f, h => by
    obtain ⟨fs, hfs, h⟩ := bind_eq_ok.1 h
    cases h
    exact allCanonical_toFunctions hfs

theorem allCanonical_toFunctions : ∀ {es : List (Expression N K)} {fs : List (Function K)},
    toFunctions es = .ok fs → Function.AllCanonical fs
  | [], fs, h => by
    cases h
    trivial
  | e :: es, fs, h => by
    obtain ⟨f, hf, h⟩ := bind_eq_ok.1 h
    obtain ⟨gs, hgs, h⟩ := bind_eq_ok.1 h
    cases h
    exact ⟨isCanonical_toFunction hf, allCanonical_toFunctions hgs⟩

end

mutual

theorem mem_support_toFunction : ∀ {e : Expression N K} {f : Function K} {v : Int},
    e.toFunction = .ok f → v ∈ f.support → ∃ w ∈ e.occurrences, v = w.index
  | .number n, f, v, h, hv => by
    obtain ⟨c, -, h⟩ := bind_eq_ok.1 h
    cases h
    simp [Function.support] at hv
  | .var w, f, v, h, hv => by
    cases h
    exact ⟨w, by simp [occurrences], by simpa [Function.support] using hv⟩
  | .linear e, f, v, h, hv => by
    cases h
    exact LinearExpr.mem_toAffine hv
  | .quadratic e, f, v, h, hv => by
    cases h
    exact QuadraticExpr.mem_toFunction hv
  | .nonlinear op args, f, v, h, hv => by
    obtain ⟨fs, hfs, h⟩ := bind_eq_ok.1 h
    cases h
    exact mem_supportAll_toFunctions hfs hv

theorem mem_supportAll_toFunctions : ∀ {es : List (Expression N K)} {fs : List (Function K)}
    {v : Int}, toFunctions es = .ok fs → v ∈ Function.supportAll fs →
      ∃ w ∈ occurrencesAll es, v = w.index
  | [], fs, v, h, hv => by
    cases h
    simp [Function.supportAll] at hv
  | e :: es, fs, v, h, hv => by
    obtain ⟨f, hf, h⟩ := bind_eq_ok.1 h
    obtain ⟨gs, hgs, h⟩ := bind_eq_ok.1 h
    cases h
    rcases List.mem_append.1 hv with hv | hv
    · obtain ⟨w, hw, same⟩ := mem_support_toFunction hf hv
      exact ⟨w, List.mem_append_left _ hw, same⟩
    · obtain ⟨w, hw, same⟩ := mem_supportAll_toFunctions hgs hv
      exact ⟨w, List.mem_append_right _ hw, same⟩

end

omit [Numeral N K] in
/-- The affine function of an entry of a vector is canonical and uses no other variables. -/
theorem isCanonical_toAffine [One K] (e : Expression N K) : e.toAffine.IsCanonical := by
  cases e with
  | var v => exact LinearExpr.isCanonical_toAffine _
  | linear e => exact e.isCanonical_toAffine
  | _ => exact Terms.IsCanonical.nil

omit [Numeral N K] in
theorem mem_toAffine [One K] {e : Expression N K} {v : Int}
    (h : v ∈ e.toAffine.terms.map Prod.fst) : ∃ w ∈ e.occurrences, v = w.index := by
  cases e with
  | var w =>
    obtain ⟨u, hu, same⟩ := LinearExpr.mem_toAffine h
    exact ⟨u, by simpa [LinearExpr.ofVariable, occurrences] using hu, same⟩
  | linear e => exact LinearExpr.mem_toAffine h
  | _ => simp [toAffine, Affine.zero] at h

omit [Zero K] [Add K] [BEq K] [Numeral N K] in
theorem mem_occurrences_of_index? {e : Expression N K} {v : Int} (h : e.index? = some v) :
    ∃ w ∈ e.occurrences, v = w.index := by
  cases e with
  | var w =>
    cases h
    exact ⟨w, by simp [occurrences], rfl⟩
  | _ => cases h

end Expression

/-! ## Conversions -/

namespace Expression

mutual

/-- The numbers that are written in an expression. -/
def numbers : Expression N K → List N
  | .number n => [n]
  | .nonlinear _ args => numbersAll args
  | _ => []

def numbersAll : List (Expression N K) → List N
  | [] => []
  | e :: es => e.numbers ++ numbersAll es

end

variable [Zero K] [Add K] [BEq K] [Numeral N K]

mutual

/-- Nothing but its written numbers can keep an expression from having a function. -/
theorem exists_toFunction_of : ∀ e : Expression N K,
    (∀ n ∈ e.numbers, ∃ c : K, Numeral.toCoefficient n = .ok c) → ∃ f, e.toFunction = .ok f
  | .number n, h => by
    obtain ⟨c, hc⟩ := h n (List.mem_singleton_self n)
    exact ⟨.number c, by rw [toFunction, hc]; rfl⟩
  | .var v, _ => ⟨_, rfl⟩
  | .linear e, _ => ⟨_, rfl⟩
  | .quadratic e, _ => ⟨_, rfl⟩
  | .nonlinear op args, h => by
    obtain ⟨fs, hfs⟩ := exists_toFunctions_of args h
    exact ⟨.nonlinear op.head fs, by rw [toFunction, hfs]; rfl⟩

theorem exists_toFunctions_of : ∀ es : List (Expression N K),
    (∀ n ∈ numbersAll es, ∃ c : K, Numeral.toCoefficient n = .ok c) → ∃ fs, toFunctions es = .ok fs
  | [], _ => ⟨_, rfl⟩
  | e :: es, h => by
    obtain ⟨f, hf⟩ := exists_toFunction_of e fun n hn => h n (List.mem_append_left _ hn)
    obtain ⟨fs, hfs⟩ := exists_toFunctions_of es fun n hn => h n (List.mem_append_right _ hn)
    exact ⟨f :: fs, by rw [toFunctions, hf, hfs]; rfl⟩

end

end Expression

namespace ConstraintFunction

variable [Zero K] [One K] [Add K] [BEq K] [Numeral N K]

theorem exists_toFunction_of (f : ConstraintFunction N K)
    (h : ∀ e ∈ f.entries, ∀ n ∈ e.numbers, ∃ c : K, Numeral.toCoefficient n = .ok c) :
    ∃ g, f.toFunction = .ok g := by
  cases f with
  | scalar e => exact e.exists_toFunction_of (h e (List.mem_singleton_self e))
  | vector es =>
    rw [toFunction]
    split
    · exact ⟨_, rfl⟩
    · exact ⟨_, rfl⟩

omit [Zero K] [One K] [Add K] [BEq K] [Numeral N K] in
/-- What may be stored has no written numbers. -/
theorem IsFitted.numbers_eq_nil {f : ConstraintFunction N K} (fitted : f.IsFitted)
    {e : Expression N K} (member : e ∈ f.entries) : e.numbers = [] := by
  cases f with
  | scalar e' =>
    obtain rfl := List.mem_singleton.1 member
    cases e <;> first | rfl | cases fitted
  | vector es =>
    have entry := fitted e member
    cases e <;> first | rfl | cases entry

theorem isCanonical_toFunction {f : ConstraintFunction N K} {g : Function K}
    (h : f.toFunction = .ok g) : g.IsCanonical := by
  cases f with
  | scalar e => exact Expression.isCanonical_toFunction h
  | vector es =>
    rw [toFunction] at h
    split at h
    next => cases h; trivial
    next =>
      cases h
      intro f hf
      obtain ⟨e, -, rfl⟩ := List.mem_map.1 hf
      exact e.isCanonical_toAffine

theorem mem_support_toFunction {f : ConstraintFunction N K} {g : Function K} {v : Int}
    (h : f.toFunction = .ok g) (hv : v ∈ g.support) :
    ∃ e ∈ f.entries, ∃ w ∈ e.occurrences, v = w.index := by
  cases f with
  | scalar e => exact ⟨e, by simp [entries], Expression.mem_support_toFunction h hv⟩
  | vector es =>
    rw [toFunction] at h
    split at h
    next vs hvs =>
      cases h
      obtain ⟨e, he, index⟩ := exists_of_mem_right (mapM_eq_some.1 hvs) hv
      exact ⟨e, he, Expression.mem_occurrences_of_index? index⟩
    next =>
      cases h
      obtain ⟨g, hg, hv⟩ := List.mem_flatMap.1 hv
      obtain ⟨e, he, rfl⟩ := List.mem_map.1 hg
      exact ⟨e, he, Expression.mem_toAffine hv⟩

end ConstraintFunction

section Family

variable [Zero K] [Add K] [BEq K]

theorem QuadraticExpr.family_toFunction (e : QuadraticExpr K) :
    e.toFunction.family ∈ Algebraic.scalarFamilies :=
  Function.family_canonicalQuadratic _ _ _

variable [Numeral N K]

/-- The function of a scalar expression is a scalar function. -/
theorem Expression.family_toFunction {e : Expression N K} {f : Function K}
    (h : e.toFunction = .ok f) (scalar : e.isScalarFunction) :
    f.family ∈ Algebraic.scalarFamilies := by
  cases e with
  | number n => cases scalar
  | nonlinear op args => cases scalar
  | quadratic e =>
    cases h
    exact e.family_toFunction
  | _ =>
    cases h
    simp [Function.family, Algebraic.scalarFamilies]

theorem Expression.toFunction_notNumber {e : Expression N K} {f : Function K}
    (h : e.toFunction = .ok f) (scalar : e.isScalarFunction) : f.family ≠ .number := by
  intro same
  have family := family_toFunction h scalar
  simp [same, Algebraic.scalarFamilies] at family

theorem Objective.toFunction_notNumber {o : Objective N K} {f : Function K}
    (h : o.toExpression.toFunction = .ok f) : f.family ≠ .number := by
  cases o with
  | linear e => exact Expression.toFunction_notNumber h rfl
  | quadratic e => exact Expression.toFunction_notNumber h rfl
  | nonlinear op args =>
    obtain ⟨fs, -, h⟩ := bind_eq_ok.1 h
    cases h
    simp [Function.family]

theorem ConstraintFunction.toFunction_notNumber [One K] {f : ConstraintFunction N K}
    (fitted : f.IsFitted) {g : Function K} (h : f.toFunction = .ok g) : g.family ≠ .number := by
  cases f with
  | scalar e => exact Expression.toFunction_notNumber h fitted
  | vector es =>
    rw [toFunction] at h
    split at h <;> cases h <;> simp [Function.family]

end Family

/-! ## Representations of closed models -/

variable [Zero K] [One K] [Add K] [BEq K] [Numeral N K]

/-- The parts of the representation of a model. -/
theorem Model.represent_eq_ok {m : Model N K} {r : Representation N K} :
    m.represent = .ok r ↔
      r.variableNames = m.vars.map (·.name) ∧ r.sense = m.sense ∧
      m.objective.toExpression.toFunction = .ok r.objective ∧
      List.Forall₂ (fun d e => d.toEntry = .ok e) m.constraints r.constraints := by
  unfold represent
  simp only [bind_eq_ok, pure_eq_ok, mapM_eq_ok]
  constructor
  · rintro ⟨objective, ho, constraints, hc, rfl⟩
    exact ⟨rfl, rfl, ho, hc⟩
  · rintro ⟨names, sense, ho, hc⟩
    refine ⟨_, ho, _, hc, ?_⟩
    rw [← names, ← sense]

theorem ConstraintData.toEntry_eq_ok {d : ConstraintData N K} {e : Entry N K} :
    d.toEntry = .ok e ↔ e.name = d.name ∧ e.set = d.set ∧ d.function.toFunction = .ok e.function := by
  unfold toEntry
  simp only [bind_eq_ok, pure_eq_ok]
  constructor
  · rintro ⟨f, hf, rfl⟩
    exact ⟨rfl, rfl, hf⟩
  · rintro ⟨name, set, hf⟩
    exact ⟨_, hf, by rw [← name, ← set]⟩

/-- A model has a representation if its objective and the functions of its constraints are
converted. -/
theorem Model.exists_represent_of {m : Model N K}
    (objective : ∃ f, m.objective.toExpression.toFunction = .ok f)
    (constraints : ∀ d ∈ m.constraints, ∃ f, d.function.toFunction = .ok f) :
    ∃ r, m.represent = .ok r := by
  have entries (ds : List (ConstraintData N K)) (h : ∀ d ∈ ds, ∃ f, d.function.toFunction = .ok f) :
      ∃ es, List.Forall₂ (fun d e => ConstraintData.toEntry d = .ok e) ds es := by
    induction ds with
    | nil => exact ⟨[], .nil⟩
    | cons d ds ih =>
      obtain ⟨es, hes⟩ := ih fun d hd => h d (List.mem_cons_of_mem _ hd)
      obtain ⟨f, hf⟩ := h d (List.mem_cons_self ..)
      exact ⟨⟨d.name, f, d.set⟩ :: es, .cons (ConstraintData.toEntry_eq_ok.2 ⟨rfl, rfl, hf⟩) hes⟩
  obtain ⟨f, hf⟩ := objective
  obtain ⟨es, hes⟩ := entries m.constraints constraints
  exact ⟨⟨_, _, f, es⟩, represent_eq_ok.2 ⟨rfl, rfl, hf, hes⟩⟩

theorem Model.Closed.tidy {m : Model N K} (closed : m.Closed) {r : Representation N K}
    (h : m.represent = .ok r) : r.Tidy := by
  obtain ⟨names, -, objective, constraints⟩ := represent_eq_ok.1 h
  have count : r.variableNames.length = m.vars.length := by simp [names]
  have bound : ∀ v, m.owns v → (0 : Int) ≤ v.index ∧ (v.index : Int) < r.variableNames.length := by
    intro v hv
    have := (Bool.and_eq_true_iff.1 hv).2
    simp only [decide_eq_true_eq] at this
    omega
  refine ⟨⟨Expression.isCanonical_toFunction objective, fun v hv => ?_, ?_⟩, fun e he => ?_⟩
  · obtain ⟨w, hw, rfl⟩ := Expression.mem_support_toFunction objective hv
    exact bound w (closed.objective w hw)
  · exact Objective.toFunction_notNumber objective
  · obtain ⟨d, hd, hde⟩ := exists_of_mem_right constraints he
    have function := (ConstraintData.toEntry_eq_ok.1 hde).2.2
    refine ⟨ConstraintFunction.isCanonical_toFunction function, fun v hv => ?_,
      ConstraintFunction.toFunction_notNumber (closed.fitted d hd) function⟩
    obtain ⟨g, hg, w, hw, rfl⟩ := ConstraintFunction.mem_support_toFunction function hv
    exact bound w (closed.constraints d hd g hg w hw)

end MathProg

/-! ## Exact numbers -/

namespace MathProg

open Fallible

variable {N K : Type} [CommRing K] [BEq K] [Numeral N K]

/-- Every model over exact numbers has a representation. -/
theorem Model.exists_represent [ExactNumeral N K] (m : Model N K) : ∃ r, m.represent = .ok r :=
  exists_represent_of
    (m.objective.toExpression.exists_toFunction_of fun n _ => ExactNumeral.exists_toCoefficient n)
    fun d _ => d.function.exists_toFunction_of fun _ _ n _ => ExactNumeral.exists_toCoefficient n

variable [ExactNumeral N K]

omit [BEq K] in
/-- Every difference of exact numbers is one. -/
theorem ExactNumeral.exists_sub (m n : N) : ∃ d : N, Numeral.sub m n = .ok d := by
  obtain ⟨c, hc⟩ := exists_toCoefficient (K := K) m
  obtain ⟨c', hc'⟩ := exists_toCoefficient (K := K) n
  obtain ⟨d, hd, -⟩ := toCoefficient_sub m n c c' hc hc'
  exact ⟨d, hd⟩

omit [BEq K] in
/-- Every set can be shifted by an exact number. -/
theorem ConstraintSet.exists_shifted (s : ConstraintSet N) (c : N) : ∃ t, s.shifted c = .ok t := by
  cases s with
  | lessThan n =>
    obtain ⟨d, hd⟩ := ExactNumeral.exists_sub (K := K) n c
    exact ⟨.lessThan d, by rw [shifted, hd]; rfl⟩
  | greaterThan n =>
    obtain ⟨d, hd⟩ := ExactNumeral.exists_sub (K := K) n c
    exact ⟨.greaterThan d, by rw [shifted, hd]; rfl⟩
  | equalTo n =>
    obtain ⟨d, hd⟩ := ExactNumeral.exists_sub (K := K) n c
    exact ⟨.equalTo d, by rw [shifted, hd]; rfl⟩
  | interval m n =>
    obtain ⟨d, hd⟩ := ExactNumeral.exists_sub (K := K) m c
    obtain ⟨d', hd'⟩ := ExactNumeral.exists_sub (K := K) n c
    exact ⟨.interval d d', by rw [shifted, hd, hd']; rfl⟩
  | _ => exact ⟨_, rfl⟩

end MathProg
