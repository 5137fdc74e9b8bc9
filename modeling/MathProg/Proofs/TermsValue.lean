import Mathlib
import MathProg.Proofs.Terms

/-!
# Values of sums

The value of a sum gives every key a weight. It does not depend on how a sum is written: adding,
inserting and bringing into canonical form keep it, and two sums with the same values at all weights
have the same canonical form.
-/

namespace MathProg.Terms

variable {κ ι K : Type} [CommRing K]

/-- The sum of the coefficients, each times the weight of its key. -/
def value (w : κ → K) (terms : List (κ × K)) : K :=
  (terms.map (fun t => t.2 * w t.1)).sum

variable {w : κ → K}

@[simp] theorem value_nil : value w [] = 0 := rfl

@[simp] theorem value_cons (t : κ × K) (terms : List (κ × K)) :
    value w (t :: terms) = t.2 * w t.1 + value w terms := by
  simp [value]

@[simp] theorem value_append (terms more : List (κ × K)) :
    value w (terms ++ more) = value w terms + value w more := by
  simp [value]

theorem value_congr {w' : κ → K} {terms : List (κ × K)}
    (h : ∀ t ∈ terms, w t.1 = w' t.1) : value w terms = value w' terms := by
  unfold value
  rw [List.map_congr_left fun t ht => by rw [h t ht]]

/-- Renaming keys renames the weights. -/
theorem value_map_key (φ : κ → ι) (w : ι → K) (terms : List (κ × K)) :
    value w (terms.map (fun t => (φ t.1, t.2))) = value (fun k => w (φ k)) terms := by
  simp [value, List.map_map, Function.comp_def]

/-- A sum of weights has the sum of the values. -/
theorem value_add_weight (w w' : κ → K) (terms : List (κ × K)) :
    value (fun k => w k + w' k) terms = value w terms + value w' terms := by
  induction terms with
  | nil => simp
  | cons t terms ih =>
    simp only [value_cons, ih]
    ring

theorem value_mul_weight (c : K) (w : κ → K) (terms : List (κ × K)) :
    value (fun k => c * w k) terms = c * value w terms := by
  induction terms with
  | nil => simp
  | cons t terms ih =>
    simp only [value_cons, ih]
    ring

theorem value_zero_weight (terms : List (κ × K)) : value (fun _ => (0 : K)) terms = 0 := by
  simp [value]

@[simp] theorem value_add [BEq κ] [LawfulBEq κ] (k : κ) (c : K) (terms : List (κ × K)) :
    value w (add k c terms) = value w terms + c * w k := by
  induction terms with
  | nil => simp [add]
  | cons t terms ih =>
    obtain ⟨l, d⟩ := t
    unfold add
    split
    next same =>
      obtain rfl := eq_of_beq same
      simp only [value_cons]
      ring
    next =>
      simp only [value_cons, ih]
      ring

@[simp] theorem value_addAll [BEq κ] [LawfulBEq κ] (terms more : List (κ × K)) :
    value w (addAll terms more) = value w terms + value w more := by
  induction more generalizing terms with
  | nil => simp [addAll]
  | cons t more ih =>
    change value w (addAll (add t.1 t.2 terms) more) = _
    rw [ih, value_add, value_cons]
    ring

@[simp] theorem value_neg (terms : List (κ × K)) :
    value w (mapCoefficients (fun c => -c) terms) = -value w terms := by
  induction terms with
  | nil => simp [mapCoefficients]
  | cons t terms ih =>
    simp only [mapCoefficients, List.map_cons, value_cons] at ih ⊢
    rw [ih]
    ring

@[simp] theorem value_scale (k : K) (terms : List (κ × K)) :
    value w (mapCoefficients (fun c => k * c) terms) = k * value w terms := by
  induction terms with
  | nil => simp [mapCoefficients]
  | cons t terms ih =>
    simp only [mapCoefficients, List.map_cons, value_cons] at ih ⊢
    rw [ih]
    ring

/-! ## Canonical sums -/

section Canonical

variable [Ord κ] [Std.LawfulEqOrd κ]

@[simp] theorem value_insert (k : κ) (c : K) (terms : List (κ × K)) :
    value w (insert k c terms) = value w terms + c * w k := by
  induction terms with
  | nil => simp [insert]
  | cons t terms ih =>
    obtain ⟨l, d⟩ := t
    unfold insert
    split
    next =>
      simp only [value_cons]
      ring
    next same =>
      obtain rfl := Std.LawfulEqOrd.eq_of_compare same
      simp only [value_cons]
      ring
    next =>
      simp only [value_cons, ih]
      ring

theorem value_foldl_insert (terms start : List (κ × K)) :
    value w (terms.foldl (fun sum (k, c) => insert k c sum) start)
      = value w start + value w terms := by
  induction terms generalizing start with
  | nil => simp
  | cons t terms ih =>
    rw [List.foldl_cons, ih]
    simp only [value_insert, value_cons]
    ring

variable [BEq K] [LawfulBEq K]

omit [Ord κ] [Std.LawfulEqOrd κ] in
theorem value_filter_nonzero (terms : List (κ × K)) :
    value w (terms.filter (fun t => t.2 != 0)) = value w terms := by
  induction terms with
  | nil => rfl
  | cons t terms ih =>
    rw [List.filter_cons]
    split
    next => simp only [value_cons, ih]
    next zero =>
      have zero : t.2 = 0 := by simpa using zero
      simp [ih, zero]

/-- The canonical form has the same value. -/
@[simp] theorem value_canonical (terms : List (κ × K)) :
    value w (canonical terms) = value w terms := by
  have folded := value_foldl_insert (w := w) terms []
  rw [value_nil, zero_add] at folded
  exact (value_filter_nonzero _).trans folded

/-! ## Sums with the same values -/

variable [DecidableEq κ] [Std.TransOrd κ]

omit [Std.LawfulEqOrd κ] [DecidableEq κ] in
private theorem not_below_self (k : κ) : compare k k ≠ .lt := by
  rw [Std.ReflOrd.compare_self]
  simp

/-- The weight that counts one key. -/
def only (k : κ) : κ → K :=
  fun l => if l = k then 1 else 0

omit [Ord κ] [Std.LawfulEqOrd κ] [Std.TransOrd κ] [BEq K] [LawfulBEq K] in
theorem value_only_of_absent {k : κ} {terms : List (κ × K)} (h : ∀ t ∈ terms, t.1 ≠ k) :
    value (only k) terms = 0 := by
  have same : value (only k) terms = value (fun _ => (0 : K)) terms :=
    value_congr fun t ht => if_neg (h t ht)
  rw [same, value_zero_weight]

omit [Ord κ] [Std.LawfulEqOrd κ] [Std.TransOrd κ] [BEq K] [LawfulBEq K] in
/-- The coefficient of a key in a sum where no key occurs twice. -/
theorem coefficient_eq_value {terms : List (κ × K)} (h : (terms.map Prod.fst).Nodup) (k : κ) :
    coefficient k terms = value (only k) terms := by
  induction terms with
  | nil => rfl
  | cons t terms ih =>
    obtain ⟨l, c⟩ := t
    obtain ⟨fresh, rest⟩ := List.nodup_cons.1 h
    have tail := ih rest
    unfold coefficient at tail ⊢
    rw [value_cons, List.lookup_cons]
    by_cases same : l = k
    · subst same
      have absent : ∀ u ∈ terms, u.1 ≠ l := fun u hu key => fresh (List.mem_map.2 ⟨u, hu, key⟩)
      simp [only, value_only_of_absent absent]
    · have other : (k == l) = false := beq_false_of_ne (Ne.symm same)
      simp [only, same, other, tail]

omit [Std.LawfulEqOrd κ] [BEq K] [LawfulBEq K] in
/-- The coefficient of a key that occurs in a canonical sum. -/
theorem value_only_of_mem {terms : List (κ × K)}
    (h : terms.Pairwise (fun s t => compare s.1 t.1 = .lt)) {t : κ × K} (ht : t ∈ terms) :
    value (only t.1) terms = t.2 := by
  induction terms with
  | nil => cases ht
  | cons s terms ih =>
    obtain ⟨first, others⟩ := List.pairwise_cons.1 h
    rw [value_cons]
    rcases List.mem_cons.1 ht with rfl | ht
    · have absent : ∀ u ∈ terms, u.1 ≠ t.1 := fun u hu same =>
        not_below_self t.1 (same ▸ first u hu)
      simp [only, value_only_of_absent absent]
    · have other : s.1 ≠ t.1 := fun same => not_below_self t.1 (same ▸ first t ht)
      rw [ih others ht]
      simp [only, other]

omit [Std.LawfulEqOrd κ] in
theorem mem_of_value_only {terms : List (κ × K)} (h : IsCanonical terms) {t : κ × K} :
    t ∈ terms ↔ t.2 ≠ 0 ∧ value (only t.1) terms = t.2 := by
  constructor
  · intro ht
    exact ⟨by simpa using h.nonzero t ht, value_only_of_mem h.ascending ht⟩
  · rintro ⟨nonzero, same⟩
    by_cases present : ∃ s ∈ terms, s.1 = t.1
    · obtain ⟨s, hs, key⟩ := present
      have value := value_only_of_mem h.ascending hs
      rw [key, same] at value
      exact Prod.ext key value.symm ▸ hs
    · have absent : ∀ s ∈ terms, s.1 ≠ t.1 := fun s hs key => present ⟨s, hs, key⟩
      rw [value_only_of_absent absent] at same
      exact absurd same.symm nonzero

/-- Sums have the same canonical form if every key counts the same in both. -/
theorem canonical_eq_iff {terms terms' : List (κ × K)} : canonical terms = canonical terms' ↔
    ∀ k, value (only k) terms = value (only k) terms' := by
  constructor
  · intro same k
    rw [← value_canonical terms, same, value_canonical]
  · intro same
    have one := isCanonical_canonical terms
    have other := isCanonical_canonical terms'
    have : Std.Irrefl (fun s t : κ × K => compare s.1 t.1 = .lt) :=
      ⟨fun s => not_below_self s.1⟩
    have : Std.Antisymm (fun s t : κ × K => compare s.1 t.1 = .lt) :=
      ⟨fun s t below above => by
        rw [Std.OrientedCmp.gt_iff_lt.2 above] at below
        cases below⟩
    refine List.Pairwise.eq_of_mem_iff one.ascending other.ascending fun t => ?_
    rw [mem_of_value_only one, mem_of_value_only other, value_canonical, value_canonical, same]

/-- Sums with the same values have the same canonical form. -/
theorem canonical_congr {terms terms' : List (κ × K)}
    (h : ∀ w : κ → K, value w terms = value w terms') : canonical terms = canonical terms' :=
  canonical_eq_iff.2 fun k => h (only k)

end Canonical

end MathProg.Terms
