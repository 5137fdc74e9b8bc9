import MathProg.Proofs.Function.Renaming
import MathProg.Proofs.Function.Value
import MathProg.Proofs.Number.FloatLaws
import MathProg.Proofs.Representation.Structural

/-!
# Renaming twice

Renaming the variables of a function and renaming them again is renaming them once. With exact
coefficients this holds for all renamings, because a canonical sum depends on its value only. Floats
have no such law. There a canonical sum keeps its coefficients as long as no two of its keys become
one, and only their order is new.
-/

namespace MathProg

/-! ## Sums -/

namespace Terms

variable {κ ι μ K : Type}

section Fresh

variable [Ord κ] [Std.LawfulEqOrd κ] [Zero K] [Add K]

theorem insert_perm {k : κ} {c : K} {terms : List (κ × K)} (fresh : k ∉ terms.map Prod.fst) :
    (insert k c terms).Perm ((k, 0 + c) :: terms) := by
  induction terms with
  | nil => exact .refl _
  | cons t terms ih =>
    rw [List.map_cons, List.mem_cons, not_or] at fresh
    unfold insert
    split
    next => exact .refl _
    next same => exact absurd (Std.LawfulEqOrd.eq_of_compare same) fresh.1
    next => exact ((ih fresh.2).cons t).trans (.swap _ _ _)

theorem foldl_insert_perm {terms : List (κ × K)} (start : List (κ × K))
    (nodup : ((start ++ terms).map Prod.fst).Nodup) :
    (terms.foldl (fun sum (k, c) => insert k c sum) start).Perm
      (start ++ terms.map (fun t => (t.1, 0 + t.2))) := by
  -- `start` holds the terms that are already in their places
  induction terms generalizing start with
  | nil => simp
  | cons t terms ih =>
    obtain ⟨k, c⟩ := t
    have ahead : ((start ++ (k, c) :: terms).map Prod.fst).Perm
        (((k, 0 + c) :: start ++ terms).map Prod.fst) := by
      simp
    have nodup := ahead.nodup nodup
    have fresh : k ∉ start.map Prod.fst := by
      rw [List.cons_append, List.map_cons, List.nodup_cons, List.map_append] at nodup
      exact fun mem => nodup.1 (List.mem_append_left _ mem)
    have first := insert_perm (c := c) fresh
    have rest := ih _ ((first.append_right terms).map Prod.fst |>.nodup_iff.2 nodup)
    refine rest.trans ((first.append_right _).trans ?_)
    exact List.perm_middle.symm

end Fresh

section Sorted

variable [Ord κ] [Std.LawfulEqOrd κ] [Zero K] [Add K] [BEq K] [ZeroStart K]

/-- The canonical form of a sum without repetitions has the same terms in another order. -/
theorem canonical_perm {terms : List (κ × K)} (nodup : (terms.map Prod.fst).Nodup)
    (nonzero : ∀ t ∈ terms, (t.2 != 0) = true) : (canonical terms).Perm terms := by
  have same : terms.map (fun t => (t.1, 0 + t.2)) = terms := by
    refine (List.map_congr_left fun t ht => ?_).trans (List.map_id _)
    rw [ZeroStart.zero_add_of_ne (nonzero t ht)]
    rfl
  have sorted := foldl_insert_perm [] nodup
  rw [List.nil_append, same] at sorted
  have kept := sorted.filter (fun t => t.2 != 0)
  rwa [List.filter_eq_self.2 nonzero] at kept

/-- There is one way to sort terms by their keys. -/
theorem canonical_eq_of_perm [Std.TransOrd κ] {terms terms' : List (κ × K)}
    (nodup : (terms.map Prod.fst).Nodup) (nonzero : ∀ t ∈ terms, (t.2 != 0) = true)
    (perm : terms.Perm terms') : canonical terms = canonical terms' := by
  have one := canonical_perm nodup nonzero
  have other := canonical_perm ((perm.map Prod.fst).nodup nodup)
    fun t ht => nonzero t (perm.mem_iff.2 ht)
  refine (one.trans (perm.trans other.symm)).eq_of_pairwise (fun s t _ _ below above => ?_)
    (isCanonical_canonical _).ascending (isCanonical_canonical _).ascending
  rw [Std.OrientedCmp.gt_iff_lt.2 above] at below
  cases below

end Sorted

/-! ### New keys -/

section Keys

/-- Whether giving keys new names twice has the canonical form of giving them new names once. -/
def Composes [Ord ι] [Ord μ] [Zero K] [Add K] [BEq K] (α : κ → ι) (β : ι → μ)
    (terms : List (κ × K)) : Prop :=
  canonical ((canonical (terms.map (fun t => (α t.1, t.2)))).map (fun t => (β t.1, t.2)))
    = canonical (terms.map (fun t => (β (α t.1), t.2)))

variable [Ord ι] [Std.LawfulEqOrd ι] [Ord μ] [Std.TransOrd μ] [Std.LawfulEqOrd μ] [BEq K]
variable {α : κ → ι} {β : ι → μ}

/-- No two keys become one, so that no coefficients are added. -/
theorem composes_of_apart [Zero K] [Add K] [ZeroStart K] {terms : List (κ × K)}
    (apart : (terms.map (fun t => β (α t.1))).Nodup)
    (nonzero : ∀ t ∈ terms, (t.2 != 0) = true) : Composes α β terms := by
  have keys : ((terms.map (fun t => (α t.1, t.2))).map Prod.fst).Nodup := by
    rw [List.map_map]
    refine List.Nodup.of_map β ?_
    rwa [List.map_map]
  have renamed := (canonical_perm keys (List.forall_mem_map.2 nonzero)).map
    (fun t => (β t.1, t.2))
  rw [List.map_map] at renamed
  refine (canonical_eq_of_perm ?_ ?_ renamed.symm).symm
  · rwa [List.map_map]
  · exact List.forall_mem_map.2 nonzero

/-- New keys that stay apart take the coefficients with them. -/
theorem coefficients_renamed [Zero K] [Add K] [ZeroStart K] {terms : List (κ × K)}
    (apart : (terms.map (fun t => α t.1)).Nodup) (nonzero : ∀ t ∈ terms, (t.2 != 0) = true) :
    ((canonical (terms.map (fun t => (α t.1, t.2)))).map Prod.snd).Perm
      (terms.map Prod.snd) := by
  have keys : ((terms.map (fun t => (α t.1, t.2))).map Prod.fst).Nodup := by rwa [List.map_map]
  have renamed := (canonical_perm keys (List.forall_mem_map.2 nonzero)).map Prod.snd
  rwa [List.map_map] at renamed

/-- With exact coefficients, keys may become one in either step. -/
theorem composes_of_exact [CommRing K] [LawfulBEq K] [DecidableEq μ] (terms : List (κ × K)) :
    Composes α β terms :=
  canonical_congr fun w => by
    rw [value_map_key β, value_canonical, value_map_key α, value_map_key (fun k => β (α k))]

end Keys

end Terms

/-! ## Pairs -/

namespace VariablePair

/-- The pair of the renamed variables. -/
def rename (φ : Int → Int) (p : VariablePair) : VariablePair :=
  of (φ p.first) (φ p.second)

theorem rename_of (φ : Int → Int) (i j : Int) : (of i j).rename φ = of (φ i) (φ j) := by
  by_cases ordered : i ≤ j
  · simp only [rename, of, if_pos ordered]
  · have swapped : of i j = ⟨j, i⟩ := if_neg ordered
    rw [swapped, rename, of_comm]

theorem rename_rename (φ ψ : Int → Int) (p : VariablePair) :
    (p.rename φ).rename ψ = p.rename (ψ ∘ φ) :=
  rename_of ψ _ _

theorem rename_id {p : VariablePair} (ordered : p.first ≤ p.second) : p.rename id = p :=
  of_ordered ordered

/-- Two numbers can be multiplied in either order. -/
theorem product_of {K : Type} [CommRing K] (x : Int → K) (i j : Int) :
    x (of i j).first * x (of i j).second = x i * x j := by
  unfold of
  split
  · rfl
  · exact mul_comm _ _

theorem of_eq_of {i j k l : Int} (h : of i j = of k l) : i = k ∧ j = l ∨ i = l ∧ j = k := by
  unfold of at h
  split at h <;> split at h <;> cases h <;> simp

/-- Pairs stay different when their variables do. -/
theorem rename_injOn {φ : Int → Int} {p q : VariablePair} (hp : p.first ≤ p.second)
    (hq : q.first ≤ q.second)
    (apart : ∀ v ∈ [p.first, p.second], ∀ w ∈ [q.first, q.second], φ v = φ w → v = w)
    (same : p.rename φ = q.rename φ) : p = q := by
  have components : p.first = q.first ∧ p.second = q.second := by
    rcases of_eq_of same with ⟨first, second⟩ | ⟨first, second⟩
    · exact ⟨apart _ (by simp) _ (by simp) first, apart _ (by simp) _ (by simp) second⟩
    · have first := apart _ (by simp) _ (by simp) first
      have second := apart _ (by simp) _ (by simp) second
      omega
  cases p
  cases q
  cases components.1
  cases components.2
  rfl

end VariablePair

/-! ## Functions -/

namespace Function

variable {K : Type} {φ ψ χ : Int → Int} {f : Function K}

section Twice

variable [Zero K] [Add K] [BEq K]

theorem canonicalQuadratic_congr {pairs pairs' : List (VariablePair × K)}
    {terms terms' : List (Int × K)} (hp : Terms.canonical pairs = Terms.canonical pairs')
    (ht : Terms.canonical terms = Terms.canonical terms') (c : K) :
    canonicalQuadratic pairs terms c = canonicalQuadratic pairs' terms' c := by
  simp only [canonicalQuadratic, hp, ht]

/-- A function that has lost its pairs is renamed like the others. -/
theorem mapVariables_canonicalQuadratic (pairs : List (VariablePair × K))
    (terms : List (Int × K)) (c : K) :
    (canonicalQuadratic pairs terms c).mapVariables φ =
      canonicalQuadratic ((Terms.canonical pairs).map (fun t => (t.1.rename φ, t.2)))
        ((Terms.canonical terms).map (fun t => (φ t.1, t.2))) c := by
  by_cases none : Terms.canonical pairs = []
  · simp only [canonicalQuadratic, none]
    rfl
  · have some : (Terms.canonical pairs).isEmpty = false := by simpa using none
    have unfolded : canonicalQuadratic pairs terms c
        = .quadratic ⟨Terms.canonical pairs, Terms.canonical terms, c⟩ := by
      rw [canonicalQuadratic, some]
      rfl
    rw [unfolded]
    rfl

theorem affine_twice {g : Affine K} (terms : Terms.Composes φ ψ g.terms) :
    (g.mapVariables φ).mapVariables ψ = g.mapVariables (ψ ∘ φ) :=
  congrArg (Affine.mk · g.constant) terms

theorem quadratic_twice {g : Quadratic K}
    (pairs : Terms.Composes (VariablePair.rename φ) (VariablePair.rename ψ) g.pairs)
    (terms : Terms.Composes φ ψ g.terms) :
    ((quadratic g).mapVariables φ).mapVariables ψ = (quadratic g).mapVariables (ψ ∘ φ) := by
  refine (mapVariables_canonicalQuadratic _ _ _).trans (canonicalQuadratic_congr ?_ terms _)
  refine Eq.trans pairs ?_
  simp only [VariablePair.rename_rename]
  rfl

/-- A property that lets the sums of a function be renamed twice, and passes to its arguments. -/
structure ComposesOn (P : Function K → Prop) (φ ψ : Int → Int) : Prop where
  affine : ∀ {g}, P (.affine g) → Terms.Composes φ ψ g.terms
  pairs : ∀ {g}, P (.quadratic g) →
    Terms.Composes (VariablePair.rename φ) (VariablePair.rename ψ) g.pairs
  terms : ∀ {g}, P (.quadratic g) → Terms.Composes φ ψ g.terms
  rows : ∀ {gs}, P (.rows gs) → ∀ g ∈ gs, Terms.Composes φ ψ g.terms
  args : ∀ {head as}, P (.nonlinear head as) → ∀ a ∈ as, P a

theorem ComposesOn.mapVariables {P : Function K → Prop} (composes : ComposesOn P φ ψ) (h : P f) :
    (f.mapVariables φ).mapVariables ψ = f.mapVariables (ψ ∘ φ) := by
  induction f using induction_args with
  | leaf f other =>
    cases f with
    | number c => rfl
    | var v => rfl
    | affine g => exact congrArg Function.affine (affine_twice (composes.affine h))
    | quadratic g => exact quadratic_twice (composes.pairs h) (composes.terms h)
    | vars vs => exact congrArg Function.vars (List.map_map ..)
    | rows gs =>
      refine congrArg Function.rows ((List.map_map ..).trans (List.map_congr_left fun g mem => ?_))
      exact affine_twice (composes.rows h g mem)
    | nonlinear head args => exact absurd rfl other
  | nonlinear head args ih =>
    refine congrArg (Function.nonlinear head) ?_
    rw [mapAllVariables_eq_map, mapAllVariables_eq_map, mapAllVariables_eq_map, List.map_map]
    exact List.map_congr_left fun a mem => ih a mem (composes.args h a mem)

/-! ### Without loss -/

variable [ZeroStart K]

/-- A canonical function is not changed by renaming each variable to itself. -/
theorem mapVariables_id (h : f.IsCanonical) : f.mapVariables id = f := by
  have affine {g : Affine K} (h : g.IsCanonical) : g.mapVariables id = g := by
    unfold Affine.mapVariables Affine.canonical
    simp only [id, Prod.mk.eta, List.map_id']
    rw [Terms.canonical_of_isCanonical h]
  induction f using induction_args with
  | leaf f other =>
    cases f with
    | number c => rfl
    | var v => rfl
    | affine g => exact congrArg Function.affine (affine h)
    | quadratic g =>
      have pairs : g.pairs.map (fun t => (t.1.rename id, t.2)) = g.pairs := by
        refine (List.map_congr_left fun t ht => ?_).trans (List.map_id _)
        exact Prod.ext (VariablePair.rename_id (h.ordered t ht)) rfl
      have some : g.pairs.isEmpty = false := by simpa using h.hasPair
      change canonicalQuadratic (g.pairs.map (fun t => (t.1.rename id, t.2)))
        (g.terms.map (fun t => (t.1, t.2))) g.constant = _
      rw [pairs, canonicalQuadratic]
      simp only [Prod.mk.eta, List.map_id', Terms.canonical_of_isCanonical h.pairs,
        Terms.canonical_of_isCanonical h.terms, some]
      rfl
    | vars vs => exact congrArg Function.vars (List.map_id _)
    | rows gs =>
      exact congrArg Function.rows
        ((List.map_congr_left fun g mem => affine (h g mem)).trans (List.map_id _))
    | nonlinear head args => exact absurd rfl other
  | nonlinear head args ih =>
    refine congrArg (Function.nonlinear head) ?_
    rw [mapAllVariables_eq_map]
    exact (List.map_congr_left fun a mem =>
      ih a mem (allCanonical_iff.1 h a mem)).trans (List.map_id _)

/-- Whether no two variables of the function become one, as under every injective renaming. -/
def KeepsApart (f : Function K) (χ : Int → Int) : Prop :=
  ∀ v ∈ f.support, ∀ w ∈ f.support, χ v = χ w → v = w

omit [Add K] [ZeroStart K] in
theorem nodup_renamed_terms {terms : List (Int × K)} (canonical : Terms.IsCanonical terms)
    (apart : ∀ v ∈ terms.map Prod.fst, ∀ w ∈ terms.map Prod.fst, χ v = χ w → v = w) :
    (terms.map (fun t => χ t.1)).Nodup := by
  have keys := canonical.nodup_keys.map_on (f := χ) apart
  rwa [List.map_map] at keys

omit [Add K] [ZeroStart K] in
theorem nodup_renamed_pairs {g : Quadratic K} (canonical : g.IsCanonical)
    (apart : (quadratic g).KeepsApart χ) : (g.pairs.map (fun t => t.1.rename χ)).Nodup := by
  have inside {t : VariablePair × K} (ht : t ∈ g.pairs) :
      ∀ v ∈ [t.1.first, t.1.second], v ∈ (quadratic g).support := fun v hv =>
    List.mem_append_left _ (List.mem_flatMap.2 ⟨t, ht, hv⟩)
  have different : ∀ p ∈ g.pairs.map Prod.fst, ∀ q ∈ g.pairs.map Prod.fst,
      p.rename χ = q.rename χ → p = q := by
    intro p hp q hq same
    obtain ⟨s, hs, rfl⟩ := List.mem_map.1 hp
    obtain ⟨t, ht, rfl⟩ := List.mem_map.1 hq
    exact VariablePair.rename_injOn (canonical.ordered s hs) (canonical.ordered t ht)
      (fun v hv w hw => apart v (inside hs v hv) w (inside ht w hw)) same
  have keys := canonical.pairs.nodup_keys.map_on different
  rwa [List.map_map] at keys

/-- Canonical functions are renamed twice without loss if their variables stay apart. -/
theorem composesOn_apart :
    ComposesOn (fun f : Function K => f.IsCanonical ∧ f.KeepsApart (ψ ∘ φ)) φ ψ where
  affine h := Terms.composes_of_apart (nodup_renamed_terms h.1 h.2) h.1.nonzero
  pairs {g} h := by
    refine Terms.composes_of_apart ?_ h.1.pairs.nonzero
    simp only [VariablePair.rename_rename]
    exact nodup_renamed_pairs h.1 h.2
  terms h := Terms.composes_of_apart
    (nodup_renamed_terms h.1.terms fun v hv w hw =>
      h.2 v (List.mem_append_right _ hv) w (List.mem_append_right _ hw))
    h.1.terms.nonzero
  rows {gs} h g mem := by
    have inside : ∀ v ∈ g.terms.map Prod.fst, v ∈ (rows gs).support := fun v hv =>
      List.mem_flatMap.2 ⟨g, mem, hv⟩
    exact Terms.composes_of_apart
      (nodup_renamed_terms (h.1 g mem) fun v hv w hw => h.2 v (inside v hv) w (inside w hw))
      (h.1 g mem).nonzero
  args h a mem := ⟨allCanonical_iff.1 h.1 a mem, fun v hv w hw =>
    h.2 v (mem_supportAll mem hv) w (mem_supportAll mem hw)⟩

omit [Zero K] [Add K] [BEq K] [ZeroStart K] in
theorem coefficientsAll_eq_flatMap (fs : List (Function K)) :
    coefficientsAll fs = fs.flatMap coefficients := by
  induction fs with
  | nil => rfl
  | cons f fs ih => rw [coefficientsAll, ih, List.flatMap_cons]

/-- Renaming keeps the coefficients of a canonical function whose variables stay apart. -/
theorem coefficients_mapVariables (canonical : f.IsCanonical) (apart : f.KeepsApart χ) :
    (f.mapVariables χ).coefficients.Perm f.coefficients := by
  have affine {g : Affine K} (canonical : g.IsCanonical)
      (apart : ∀ v ∈ g.terms.map Prod.fst, ∀ w ∈ g.terms.map Prod.fst, χ v = χ w → v = w) :
      (g.mapVariables χ).coefficients.Perm g.coefficients :=
    (Terms.coefficients_renamed (nodup_renamed_terms canonical apart) canonical.nonzero).cons _
  induction f using induction_args with
  | leaf f other =>
    cases f with
    | number c => exact .refl _
    | var v => exact .refl _
    | affine g => exact affine canonical apart
    | quadratic g =>
      have pairs := Terms.coefficients_renamed (nodup_renamed_pairs canonical apart)
        canonical.pairs.nonzero
      have terms := Terms.coefficients_renamed (nodup_renamed_terms canonical.terms
        fun v hv w hw => apart v (List.mem_append_right _ hv) w (List.mem_append_right _ hw))
        canonical.terms.nonzero
      -- no product vanishes, so the function stays quadratic
      have some : (Terms.canonical (g.pairs.map (fun t => (t.1.rename χ, t.2)))).isEmpty
          = false := by
        rw [List.isEmpty_eq_false_iff, ← List.length_pos_iff]
        have length := pairs.length_eq
        rw [List.length_map, List.length_map] at length
        rw [length]
        exact List.length_pos_iff.2 canonical.hasPair
      change (canonicalQuadratic (g.pairs.map (fun t => (t.1.rename χ, t.2))) _
        _).coefficients.Perm _
      rw [canonicalQuadratic, some]
      exact (pairs.append terms).cons _
    | vars vs => exact .refl _
    | rows gs =>
      change ((gs.map (Affine.mapVariables χ)).flatMap Affine.coefficients).Perm
        (gs.flatMap Affine.coefficients)
      rw [List.flatMap_map]
      refine List.Perm.flatMap_left gs fun g mem => affine (canonical g mem) ?_
      exact fun v hv w hw => apart v (List.mem_flatMap.2 ⟨g, mem, hv⟩) w
        (List.mem_flatMap.2 ⟨g, mem, hw⟩)
    | nonlinear head args => exact absurd rfl other
  | nonlinear head args ih =>
    rw [mapVariables, coefficients, coefficients, mapAllVariables_eq_map,
      coefficientsAll_eq_flatMap, coefficientsAll_eq_flatMap, List.flatMap_map]
    refine List.Perm.flatMap_left args fun a mem => ?_
    exact ih a mem (allCanonical_iff.1 canonical a mem) fun v hv w hw =>
      apart v (mem_supportAll mem hv) w (mem_supportAll mem hw)

end Twice

/-! ### With exact coefficients -/

section Exact

variable [CommRing K] [BEq K] [LawfulBEq K]

theorem composesOn_exact : ComposesOn (fun _ : Function K => True) φ ψ where
  affine _ := Terms.composes_of_exact _
  pairs _ := Terms.composes_of_exact _
  terms _ := Terms.composes_of_exact _
  rows _ _ _ := Terms.composes_of_exact _
  args _ _ _ := trivial

/-- At an assignment, a renamed function has the value of the function at the renamed one. -/
theorem evaluate_mapVariables (s : Int → K) (operator : String → List (Shaped K) → Option K)
    (f : Function K) : (f.mapVariables φ).evaluate ⟨fun v => some (s v), operator⟩
      = f.evaluate ⟨fun v => some (s (φ v)), operator⟩ := by
  have affine (g : Affine K) : (g.mapVariables φ).evaluate (fun v => some (s v))
      = g.evaluate (fun v => some (s (φ v))) := by
    rw [Affine.evaluate_eq, Affine.evaluate_eq, Affine.mapVariables, Affine.canonical,
      Terms.value_canonical, Terms.value_map_key φ]
  have all {fs : List (Function K)} (each : ∀ f ∈ fs, (f.mapVariables φ).evaluate
        ⟨fun v => some (s v), operator⟩ = f.evaluate ⟨fun v => some (s (φ v)), operator⟩) :
      evaluateAll ⟨fun v => some (s v), operator⟩ (mapAllVariables φ fs)
        = evaluateAll ⟨fun v => some (s (φ v)), operator⟩ fs := by
    induction fs with
    | nil => rfl
    | cons f fs ih =>
      rw [mapAllVariables, evaluateAll, evaluateAll, each f (by simp),
        ih fun g mem => each g (List.mem_cons_of_mem _ mem)]
  induction f using induction_args with
  | leaf f other =>
    cases f with
    | number c => rfl
    | var v => rfl
    | affine g => rw [mapVariables, evaluate, evaluate, affine]
    | quadratic g =>
      have pairs : (fun p : VariablePair => s (p.rename φ).first * s (p.rename φ).second)
          = fun p => s (φ p.first) * s (φ p.second) :=
        funext fun p => VariablePair.product_of s _ _
      rw [evaluate_quadratic_at rfl, mapVariables, evaluate_canonicalQuadratic_at rfl,
        Terms.value_map_key φ]
      change some (Shaped.scalar (_ + Terms.value _ (g.pairs.map (fun t => (t.1.rename φ, t.2)))))
        = _
      rw [Terms.value_map_key (VariablePair.rename φ), pairs]
    | vars vs =>
      rw [mapVariables, evaluate, evaluate, List.mapM_map]
      rfl
    | rows gs =>
      rw [mapVariables, evaluate, evaluate, List.mapM_map]
      simp only [Function.comp_def, affine]
    | nonlinear head args => exact absurd rfl other
  | nonlinear head args ih =>
    rw [mapVariables, evaluate, evaluate, all ih]

end Exact

theorem IsNumeric.mapVariables {f : Function Float} (numeric : f.IsNumeric)
    (canonical : f.IsCanonical) (apart : f.KeepsApart χ) : (f.mapVariables χ).IsNumeric :=
  fun c mem => numeric c ((coefficients_mapVariables canonical apart).mem_iff.1 mem)

/-! ## Renaming is functorial -/

/-- A canonical function of floats is not changed by renaming each variable to itself, and renaming
twice is renaming once if its variables stay apart. With exact coefficients this holds for all
functions and renamings, and a renamed function has the value at the renamed assignment. -/
theorem mapVariables_functorial :
    (∀ f : Function Float, f.IsCanonical →
      f.mapVariables id = f ∧ (f.IsNumeric → (f.mapVariables id == f) = true) ∧
      ∀ φ ψ : Int → Int, f.KeepsApart (ψ ∘ φ) →
        (f.mapVariables φ).mapVariables ψ = f.mapVariables (ψ ∘ φ) ∧
        (f.IsNumeric →
          ((f.mapVariables φ).mapVariables ψ == f.mapVariables (ψ ∘ φ)) = true)) ∧
    (∀ (K : Type) [CommRing K] [BEq K] [LawfulBEq K] (f : Function K) (φ : Int → Int),
      (∀ ψ : Int → Int, (f.mapVariables φ).mapVariables ψ = f.mapVariables (ψ ∘ φ)) ∧
      ∀ (s : Int → K) (operator : String → List (Shaped K) → Option K),
        (f.mapVariables φ).evaluate ⟨fun v => some (s v), operator⟩
          = f.evaluate ⟨fun v => some (s (φ v)), operator⟩) := by
  constructor
  · intro f canonical
    refine ⟨mapVariables_id canonical, fun numeric => ?_, fun φ ψ apart => ?_⟩
    · rw [mapVariables_id canonical]
      exact (beq_iff_exact numeric).2 rfl
    · have once := composesOn_apart.mapVariables ⟨canonical, apart⟩
      refine ⟨once, fun numeric => ?_⟩
      rw [once]
      exact (beq_iff_exact (numeric.mapVariables canonical apart)).2 rfl
  · intro K _ _ _ f φ
    exact ⟨fun ψ => composesOn_exact.mapVariables trivial, fun s operator =>
      evaluate_mapVariables s operator f⟩

/-- Two variables of a product are exchanged, and then both get other numbers. -/
theorem exchanged_product_functorial :
    let f : Function Float := .quadratic ⟨[(⟨0, 1⟩, 2)], [(1, 3)], 0⟩
    let g : Function Int := .quadratic ⟨[(⟨0, 1⟩, 1), (⟨1, 2⟩, -1)], [], 5⟩
    f.IsCanonical ∧ f.KeepsApart ((· + 4) ∘ (1 - ·)) ∧ f.IsNumeric ∧
    ((f.mapVariables (1 - ·)).mapVariables (· + 4) == f.mapVariables ((· + 4) ∘ (1 - ·))) = true ∧
    (g.mapVariables (· % 2)).mapVariables (· + 4) = g.mapVariables ((· + 4) ∘ (· % 2)) := by
  intro f g
  have canonical : f.IsCanonical := by
    refine ⟨by simp, ⟨by simp, ?_⟩, ⟨by simp, ?_⟩, by simp⟩
    · simp only [List.mem_singleton, forall_eq]
      decide
    · simp only [List.mem_singleton, forall_eq]
      decide
  have apart : f.KeepsApart ((· + 4) ∘ (1 - ·)) := fun v _ w _ same => by
    simp only [Function.comp_apply] at same
    omega
  have numeric : f.IsNumeric := by
    simp only [f, IsNumeric, coefficients]
    decide
  exact ⟨canonical, apart, numeric,
    ((mapVariables_functorial.1 f canonical).2.2 _ _ apart).2 numeric,
    (mapVariables_functorial.2 Int g _).1 _⟩

end Function

end MathProg
