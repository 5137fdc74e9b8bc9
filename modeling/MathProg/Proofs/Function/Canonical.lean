import MathProg.Function.Basic
import MathProg.Proofs.Terms

/-!
# Canonical functions and renaming

A function is canonical if its sums are. Renaming keeps a canonical function canonical as long as the
variables keep their order, and can then be undone; this is how positions become the numbers of a
backend and come back.
-/

namespace MathProg

variable {K : Type}

/-- The canonical form of an affine function: a canonical sum and any constant. -/
def Affine.IsCanonical [Zero K] [BEq K] (f : Affine K) : Prop :=
  Terms.IsCanonical f.terms

/-- A canonical quadratic function has a pair, and the smaller variable of a pair comes first. -/
structure Quadratic.IsCanonical [Zero K] [BEq K] (f : Quadratic K) : Prop where
  hasPair : f.pairs ≠ []
  pairs : Terms.IsCanonical f.pairs
  terms : Terms.IsCanonical f.terms
  ordered : ∀ t ∈ f.pairs, t.1.first ≤ t.1.second

namespace Function

mutual

/-- Whether all sums of the function are canonical. -/
def IsCanonical [Zero K] [BEq K] : Function K → Prop
  | .number _ => True
  | .var _ => True
  | .affine f => f.IsCanonical
  | .quadratic f => f.IsCanonical
  | .vars _ => True
  | .rows fs => ∀ f ∈ fs, f.IsCanonical
  | .nonlinear _ args => AllCanonical args

def AllCanonical [Zero K] [BEq K] : List (Function K) → Prop
  | [] => True
  | f :: fs => f.IsCanonical ∧ AllCanonical fs

end

end Function

namespace VariablePair

theorem first_le_second (i j : Int) : (of i j).first ≤ (of i j).second := by
  unfold of
  split <;> simp only <;> omega

theorem of_comm (i j : Int) : of i j = of j i := by
  unfold of
  split <;> split <;> simp <;> omega

theorem of_ordered {p : VariablePair} (h : p.first ≤ p.second) : of p.first p.second = p := by
  simp [of, h]

theorem mem_of {i j v : Int} : (v = (of i j).first ∨ v = (of i j).second) ↔ v = i ∨ v = j := by
  unfold of
  split <;> simp only
  exact Or.comm

theorem compare_lt {p q : VariablePair} :
    compare p q = .lt ↔ p.first < q.first ∨ p.first = q.first ∧ p.second < q.second := by
  change (compare p.first q.first).then (compare p.second q.second) = .lt ↔ _
  rw [Ordering.then_eq_lt, Int.compare_eq_lt, Int.compare_eq_eq, Int.compare_eq_lt]

end VariablePair

namespace Function

section Build

variable [Zero K] [Add K] [BEq K]

theorem isCanonical_canonicalQuadratic {pairs : List (VariablePair × K)}
    {terms : List (Int × K)} {constant : K} (h : ∀ t ∈ pairs, t.1.first ≤ t.1.second) :
    (canonicalQuadratic pairs terms constant).IsCanonical := by
  have linear := Terms.isCanonical_canonical terms
  unfold canonicalQuadratic
  simp only
  split
  next => exact linear
  next some =>
    refine ⟨by simpa using some, Terms.isCanonical_canonical pairs, linear, fun t ht => ?_⟩
    obtain ⟨u, hu, same⟩ := List.mem_map.1 (Terms.mem_canonical_key ht)
    rw [← same]
    exact h u hu

theorem canonicalQuadratic_cases (pairs : List (VariablePair × K)) (terms : List (Int × K))
    (constant : K) : (∃ f, canonicalQuadratic pairs terms constant = .affine f) ∨
      ∃ f, canonicalQuadratic pairs terms constant = .quadratic f := by
  unfold canonicalQuadratic
  simp only
  split
  · exact .inl ⟨_, rfl⟩
  · exact .inr ⟨_, rfl⟩

theorem canonicalQuadratic_affine_iff {pairs : List (VariablePair × K)} {terms : List (Int × K)}
    {constant : K} : (∃ f, canonicalQuadratic pairs terms constant = .affine f) ↔
      Terms.canonical pairs = [] := by
  unfold canonicalQuadratic
  simp only
  split <;> simp_all

theorem mem_support_canonicalQuadratic {pairs : List (VariablePair × K)}
    {terms : List (Int × K)} {constant : K} {v : Int}
    (h : v ∈ (canonicalQuadratic pairs terms constant).support) :
    (∃ t ∈ pairs, v = t.1.first ∨ v = t.1.second) ∨ v ∈ terms.map Prod.fst := by
  have linear : ∀ v ∈ (Terms.canonical terms).map Prod.fst, v ∈ terms.map Prod.fst := by
    intro v hv
    obtain ⟨t, ht, rfl⟩ := List.mem_map.1 hv
    exact Terms.mem_canonical_key ht
  unfold canonicalQuadratic at h
  simp only at h
  split at h
  next => exact .inr (linear v h)
  next =>
    rcases List.mem_append.1 h with h | h
    · obtain ⟨t, ht, hv⟩ := List.mem_flatMap.1 h
      obtain ⟨u, hu, same⟩ := List.mem_map.1 (Terms.mem_canonical_key ht)
      refine .inl ⟨u, hu, ?_⟩
      rw [same]
      simpa using hv
    · exact .inr (linear v h)

end Build

/-! ## Renaming -/

section Rename

variable [Zero K] [Add K] [BEq K] [ZeroStart K] {φ ψ : Int → Int}

omit [Zero K] [Add K] [BEq K] [ZeroStart K] in
private theorem map_key_map_key {κ : Type} {terms : List (κ × K)} {φ ψ : κ → κ}
    (back : ∀ t ∈ terms, ψ (φ t.1) = t.1) :
    (terms.map (fun t => (φ t.1, t.2))).map (fun t => (ψ t.1, t.2)) = terms := by
  rw [List.map_map]
  refine (List.map_congr_left fun t ht => ?_).trans (List.map_id _)
  exact Prod.ext (back t ht) rfl

private theorem canonical_rename {terms : List (Int × K)} (h : Terms.IsCanonical terms)
    (mono : ∀ v ∈ terms.map Prod.fst, ∀ w ∈ terms.map Prod.fst, v < w → φ v < φ w) :
    Terms.canonical (terms.map (fun t => (φ t.1, t.2))) = terms.map (fun t => (φ t.1, t.2)) := by
  refine Terms.canonical_of_isCanonical (h.map fun s hs t ht below => ?_)
  rw [Int.compare_eq_lt] at below ⊢
  exact mono _ (List.mem_map_of_mem hs) _ (List.mem_map_of_mem ht) below

private theorem rename_affine {f : Affine K} (h : f.IsCanonical)
    (mono : ∀ v ∈ f.terms.map Prod.fst, ∀ w ∈ f.terms.map Prod.fst, v < w → φ v < φ w) :
    f.mapVariables φ = ⟨f.terms.map (fun t => (φ t.1, t.2)), f.constant⟩ :=
  congrArg (Affine.mk · f.constant) (canonical_rename h mono)

private theorem rename_affine_back {f : Affine K} (h : f.IsCanonical)
    (mono : ∀ v ∈ f.terms.map Prod.fst, ∀ w ∈ f.terms.map Prod.fst, v < w → φ v < φ w)
    (back : ∀ v ∈ f.terms.map Prod.fst, ψ (φ v) = v) :
    (f.mapVariables φ).mapVariables ψ = f := by
  rw [rename_affine h mono]
  unfold Affine.mapVariables Affine.canonical
  simp only
  rw [map_key_map_key fun t ht => back _ (List.mem_map_of_mem ht),
    Terms.canonical_of_isCanonical h]

omit [Zero K] [Add K] [BEq K] [ZeroStart K] in
private theorem mem_support_quadratic {f : Quadratic K} {t : VariablePair × K} (h : t ∈ f.pairs) :
    t.1.first ∈ (quadratic f).support ∧ t.1.second ∈ (quadratic f).support := by
  constructor <;>
    exact List.mem_append_left _ (List.mem_flatMap.2 ⟨t, h, by simp⟩)

omit [Add K] [ZeroStart K] in
/-- The pair of the renamed variables, which needs no exchange. -/
private theorem rename_pairs {f : Quadratic K} (h : f.IsCanonical)
    (mono : ∀ v ∈ (quadratic f).support, ∀ w ∈ (quadratic f).support, v < w → φ v < φ w) :
    f.pairs.map (fun t => (VariablePair.of (φ t.1.first) (φ t.1.second), t.2))
      = f.pairs.map (fun t => (⟨φ t.1.first, φ t.1.second⟩, t.2)) := by
  refine List.map_congr_left fun t ht => ?_
  obtain ⟨left, right⟩ := mem_support_quadratic ht
  have ordered : φ t.1.first ≤ φ t.1.second := by
    rcases Int.lt_or_eq_of_le (h.ordered t ht) with below | same
    · exact Int.le_of_lt (mono _ left _ right below)
    · exact Int.le_of_eq (congrArg φ same)
  rw [VariablePair.of, if_pos ordered]

private theorem rename_quadratic {f : Quadratic K} (h : f.IsCanonical)
    (mono : ∀ v ∈ (quadratic f).support, ∀ w ∈ (quadratic f).support, v < w → φ v < φ w) :
    (quadratic f).mapVariables φ = .quadratic
      ⟨f.pairs.map (fun t => (⟨φ t.1.first, φ t.1.second⟩, t.2)),
        f.terms.map (fun t => (φ t.1, t.2)), f.constant⟩ := by
  have linear := canonical_rename h.terms fun v hv w hw =>
    mono v (List.mem_append_right _ hv) w (List.mem_append_right _ hw)
  have pairs : Terms.canonical
      (f.pairs.map (fun t => ((⟨φ t.1.first, φ t.1.second⟩ : VariablePair), t.2)))
        = f.pairs.map (fun t => (⟨φ t.1.first, φ t.1.second⟩, t.2)) := by
    refine Terms.canonical_of_isCanonical
      (h.pairs.map (φ := fun p => VariablePair.mk (φ p.first) (φ p.second))
        fun s hs t ht below => ?_)
    obtain ⟨first, second⟩ := mem_support_quadratic hs
    obtain ⟨first', second'⟩ := mem_support_quadratic ht
    rw [VariablePair.compare_lt] at below ⊢
    rcases below with below | ⟨same, below⟩
    · exact .inl (mono _ first _ first' below)
    · exact .inr ⟨congrArg φ same, mono _ second _ second' below⟩
  have some : f.pairs ≠ [] := h.hasPair
  rw [mapVariables, canonicalQuadratic, rename_pairs h mono, pairs, linear]
  simp [some]

omit [Add K] [ZeroStart K] in
private theorem relabel_ordered {f : Quadratic K} (h : f.IsCanonical) :
    f.pairs.map (fun t => (VariablePair.of t.1.first t.1.second, t.2)) = f.pairs := by
  refine (List.map_congr_left fun t ht => ?_).trans (List.map_id _)
  exact Prod.ext (VariablePair.of_ordered (h.ordered t ht)) rfl

private theorem rename_quadratic_back {f : Quadratic K} (h : f.IsCanonical)
    (mono : ∀ v ∈ (quadratic f).support, ∀ w ∈ (quadratic f).support, v < w → φ v < φ w)
    (back : ∀ v ∈ (quadratic f).support, ψ (φ v) = v) :
    ((quadratic f).mapVariables φ).mapVariables ψ = .quadratic f := by
  have linear : (f.terms.map (fun t => (φ t.1, t.2))).map (fun t => (ψ t.1, t.2)) = f.terms :=
    map_key_map_key fun t ht => back _ (List.mem_append_right _ (List.mem_map_of_mem ht))
  have pairs : (f.pairs.map
      (fun t => ((⟨φ t.1.first, φ t.1.second⟩ : VariablePair), t.2))).map
        (fun t => (VariablePair.of (ψ t.1.first) (ψ t.1.second), t.2)) = f.pairs := by
    rw [List.map_map]
    refine Eq.trans (List.map_congr_left fun t ht => ?_) (relabel_ordered h)
    obtain ⟨left, right⟩ := mem_support_quadratic ht
    simp only [Function.comp_apply, back _ left, back _ right]
  have some : f.pairs ≠ [] := h.hasPair
  rw [rename_quadratic h mono, mapVariables, canonicalQuadratic]
  simp only [linear, pairs, Terms.canonical_of_isCanonical h.pairs,
    Terms.canonical_of_isCanonical h.terms]
  simp [some]

end Rename

section Back

variable [Zero K] [Add K] [BEq K] {φ ψ : Int → Int}

mutual

/-- A renaming that keeps the order of the variables of a canonical function can be undone. -/
theorem mapVariables_back [ZeroStart K] : ∀ {f : Function K}, f.IsCanonical →
    (∀ v ∈ f.support, ∀ w ∈ f.support, v < w → φ v < φ w) → (∀ v ∈ f.support, ψ (φ v) = v) →
    (f.mapVariables φ).mapVariables ψ = f
  | .number _, _, _, _ => rfl
  | .var _, _, _, back => congrArg Function.var (back _ (by simp [support]))
  | .affine _, h, mono, back => congrArg Function.affine (rename_affine_back h mono back)
  | .quadratic _, h, mono, back => rename_quadratic_back h mono back
  | .vars vs, _, _, back => by
    simp only [mapVariables, List.map_map]
    exact congrArg Function.vars ((List.map_congr_left back).trans (List.map_id _))
  | .rows fs, h, mono, back => by
    simp only [mapVariables, List.map_map]
    refine congrArg Function.rows ((List.map_congr_left fun f hf => ?_).trans (List.map_id _))
    have inside : ∀ v ∈ f.terms.map Prod.fst, v ∈ (rows fs).support := fun v hv =>
      List.mem_flatMap.2 ⟨f, hf, hv⟩
    exact rename_affine_back (h f hf)
      (fun v hv w hw => mono v (inside v hv) w (inside w hw)) (fun v hv => back v (inside v hv))
  | .nonlinear head args, h, mono, back => by
    simp only [mapVariables]
    rw [mapAllVariables_back h mono back]

theorem mapAllVariables_back [ZeroStart K] : ∀ {fs : List (Function K)}, AllCanonical fs →
    (∀ v ∈ supportAll fs, ∀ w ∈ supportAll fs, v < w → φ v < φ w) →
    (∀ v ∈ supportAll fs, ψ (φ v) = v) → mapAllVariables ψ (mapAllVariables φ fs) = fs
  | [], _, _, _ => rfl
  | f :: fs, h, mono, back => by
    simp only [mapAllVariables]
    rw [mapVariables_back h.1
        (fun v hv w hw => mono v (List.mem_append_left _ hv) w (List.mem_append_left _ hw))
        (fun v hv => back v (List.mem_append_left _ hv)),
      mapAllVariables_back h.2
        (fun v hv w hw => mono v (List.mem_append_right _ hv) w (List.mem_append_right _ hw))
        (fun v hv => back v (List.mem_append_right _ hv))]

end

end Back

section Support

variable [Zero K] [Add K] [BEq K] {φ : Int → Int}

private theorem mem_rename_affine {f : Affine K} {v : Int}
    (h : v ∈ (f.mapVariables φ).terms.map Prod.fst) : v ∈ (f.terms.map Prod.fst).map φ := by
  obtain ⟨t, ht, rfl⟩ := List.mem_map.1 h
  simpa using Terms.mem_canonical_key ht

mutual

/-- Renaming has no variables but the renamed ones. -/
theorem mem_support_mapVariables : ∀ {f : Function K} {v : Int},
    v ∈ (f.mapVariables φ).support → v ∈ f.support.map φ
  | .number _, _, h => by simp [mapVariables, support] at h
  | .var _, _, h => h
  | .affine _, _, h => mem_rename_affine h
  | .quadratic f, v, h => by
    rcases mem_support_canonicalQuadratic h with ⟨t, ht, hv⟩ | hv
    · obtain ⟨u, hu, rfl⟩ := List.mem_map.1 ht
      obtain ⟨left, right⟩ := mem_support_quadratic hu
      rcases VariablePair.mem_of.1 hv with rfl | rfl
      · exact List.mem_map_of_mem left
      · exact List.mem_map_of_mem right
    · refine List.mem_map.2 ?_
      obtain ⟨t, ht, rfl⟩ := List.mem_map.1 hv
      obtain ⟨u, hu, rfl⟩ := List.mem_map.1 ht
      exact ⟨u.1, List.mem_append_right _ (List.mem_map_of_mem hu), rfl⟩
  | .vars _, _, h => h
  | .rows fs, v, h => by
    obtain ⟨g, hg, hv⟩ := List.mem_flatMap.1 h
    obtain ⟨f, hf, rfl⟩ := List.mem_map.1 hg
    obtain ⟨w, hw, rfl⟩ := List.mem_map.1 (mem_rename_affine hv)
    exact List.mem_map_of_mem (List.mem_flatMap.2 ⟨f, hf, hw⟩)
  | .nonlinear _ _, _, h => mem_supportAll_mapAllVariables h

theorem mem_supportAll_mapAllVariables : ∀ {fs : List (Function K)} {v : Int},
    v ∈ supportAll (mapAllVariables φ fs) → v ∈ (supportAll fs).map φ
  | [], _, h => h
  | f :: fs, v, h => by
    simp only [supportAll, List.map_append]
    rcases List.mem_append.1 h with h | h
    · exact List.mem_append_left _ (mem_support_mapVariables h)
    · exact List.mem_append_right _ (mem_supportAll_mapAllVariables h)

end

end Support

end Function

end MathProg
