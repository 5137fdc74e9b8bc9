import MathProg.Formula.Polynomial
import MathProg.Proofs.TermsValue

/-!
# Polynomials of formulas and their values

A polynomial is known by its values, where every monomial has a weight, and by its degree. Sums,
differences and products have the values and degrees that they should have; a product of degree
above two does not exist.
-/

namespace MathProg

namespace Formula

/-! ## Degrees -/

/-- The number of variables in a monomial. -/
def Monomial.degree : Monomial → Nat
  | .one => 0
  | .linear _ => 1
  | .pair _ => 2

theorem Monomial.isSome_mul? {m n : Monomial} :
    (m.mul? n).isSome ↔ m.degree + n.degree ≤ 2 := by
  cases m <;> cases n <;> simp [mul?, degree]

theorem Monomial.degree_mul? {m n k : Monomial} (h : m.mul? n = some k) :
    k.degree = m.degree + n.degree := by
  cases m <;> cases n <;> simp [mul?] at h <;> simp [← h, degree]

/-- The names that have a position are those of the list. -/
theorem position?_eq_none_iff {names : List String} {id : String} :
    position? names id = none ↔ id ∉ names := by
  induction names with
  | nil => simp [position?]
  | cons name names ih =>
    rw [position?]
    cases later : position? names id with
    | some v =>
      have inside : id ∈ names := by
        by_contra absent
        simp [ih.2 absent] at later
      simp [inside]
    | none =>
      have absent := ih.1 later
      by_cases same : name = id
      · simp [same]
      · simp [same, Ne.symm same, absent]

namespace Polynomial

variable {K : Type}

/-- Whether the polynomial has exactly the given degree: some monomial has it and none a larger one.
A coefficient zero counts like any other. -/
def HasDegree (p : Polynomial K) (d : Nat) : Prop :=
  (∃ m ∈ p.map Prod.fst, m.degree = d) ∧ ∀ m ∈ p.map Prod.fst, m.degree ≤ d

theorem HasDegree.unique {p : Polynomial K} {d e : Nat} (h : p.HasDegree d) (h' : p.HasDegree e) :
    d = e := by
  obtain ⟨⟨m, hm, rfl⟩, most⟩ := h
  obtain ⟨⟨n, hn, rfl⟩, most'⟩ := h'
  exact Nat.le_antisymm (most' m hm) (most n hn)

/-- Polynomials with the same monomials have the same degree. -/
theorem HasDegree.of_keys {p q : Polynomial K} {d : Nat} (h : p.HasDegree d)
    (same : ∀ m, m ∈ q.map Prod.fst ↔ m ∈ p.map Prod.fst) : q.HasDegree d := by
  obtain ⟨⟨m, hm, hd⟩, most⟩ := h
  exact ⟨⟨m, (same m).2 hm, hd⟩, fun n hn => most n ((same n).1 hn)⟩

/-! ## Sums -/

section Values

variable [CommRing K] {p q : Polynomial K} {d e : Nat}

omit [CommRing K] in
theorem hasDegree_constant (c : K) : (constant c).HasDegree 0 := by
  simp [constant, HasDegree, Monomial.degree]

theorem hasDegree_ofVariable (v : Nat) : (ofVariable v : Polynomial K).HasDegree 1 := by
  simp [ofVariable, HasDegree, Monomial.degree]

theorem HasDegree.add (hp : p.HasDegree d) (hq : q.HasDegree e) :
    (p.add q).HasDegree (max d e) := by
  obtain ⟨⟨m, hm, rfl⟩, most⟩ := hp
  obtain ⟨⟨n, hn, rfl⟩, most'⟩ := hq
  refine ⟨?_, fun k hk => ?_⟩
  · rcases Nat.le_total m.degree n.degree with low | low
    · exact ⟨n, Terms.mem_keys_addAll.2 (.inr hn), (Nat.max_eq_right low).symm⟩
    · exact ⟨m, Terms.mem_keys_addAll.2 (.inl hm), (Nat.max_eq_left low).symm⟩
  · rcases Terms.mem_keys_addAll.1 hk with hk | hk
    · exact Nat.le_trans (most k hk) (Nat.le_max_left _ _)
    · exact Nat.le_trans (most' k hk) (Nat.le_max_right _ _)

theorem HasDegree.neg (hp : p.HasDegree d) : p.neg.HasDegree d :=
  hp.of_keys fun m => by rw [Polynomial.neg, Terms.keys_mapCoefficients]

theorem HasDegree.sub (hp : p.HasDegree d) (hq : q.HasDegree e) :
    (p.sub q).HasDegree (max d e) :=
  hp.add hq.neg

/-! ## Products -/

/-- The weight of a product of monomials, zero if there is none. -/
def times (w : Monomial → K) (m n : Monomial) : K :=
  (m.mul? n).elim 0 w

private def row (m : Monomial) (c : K) (sum : Polynomial K) (t : Monomial × K) :
    Option (Polynomial K) :=
  (m.mul? t.1).map (fun k => Terms.add k (c * t.2) sum)

/-- A monomial times a polynomial, added to a sum. -/
private theorem foldlM_row {m : Monomial} (c : K) {q : Polynomial K}
    (fits : ∀ n ∈ q.map Prod.fst, m.degree + n.degree ≤ 2) (sum : Polynomial K) :
    ∃ r, q.foldlM (row m c) sum = some r ∧
      (∀ w, Terms.value w r = Terms.value w sum + c * Terms.value (times w m) q) ∧
      (∀ k, k ∈ r.map Prod.fst ↔
        k ∈ sum.map Prod.fst ∨ ∃ n ∈ q.map Prod.fst, m.mul? n = some k) ∧
      ((sum.map Prod.fst).Nodup → (r.map Prod.fst).Nodup) := by
  induction q generalizing sum with
  | nil => exact ⟨sum, rfl, by simp, by simp, id⟩
  | cons t q ih =>
    obtain ⟨k, hk⟩ := Option.isSome_iff_exists.1
      (Monomial.isSome_mul?.2 (fits t.1 (by simp)))
    obtain ⟨r, hr, values, keys, nodup⟩ :=
      ih (fun n hn => fits n (List.mem_cons_of_mem _ hn)) (Terms.add k (c * t.2) sum)
    refine ⟨r, ?_, fun w => ?_, fun l => ?_, fun h => nodup (Terms.nodup_keys_add h)⟩
    · rw [List.foldlM_cons]
      simp only [row, hk, Option.map_some]
      exact hr
    · have weight : times w m t.1 = w k := by simp [times, hk]
      rw [values, Terms.value_add, Terms.value_cons, weight]
      ring
    · rw [keys, Terms.mem_keys_add]
      simp only [List.map_cons, List.mem_cons, exists_eq_or_imp, hk, Option.some.injEq]
      rw [eq_comm, or_left_comm, or_assoc]

private theorem foldlM_row_none {m : Monomial} (c : K) {q : Polynomial K}
    (bad : ∃ n ∈ q.map Prod.fst, 2 < m.degree + n.degree) (sum : Polynomial K) :
    q.foldlM (row m c) sum = none := by
  -- The products before the bad one only change the sum, so the induction is for every sum.
  induction q generalizing sum with
  | nil => simp at bad
  | cons t q ih =>
    rw [List.foldlM_cons]
    by_cases fits : m.degree + t.1.degree ≤ 2
    · obtain ⟨k, hk⟩ := Option.isSome_iff_exists.1 (Monomial.isSome_mul?.2 fits)
      obtain ⟨n, hn, large⟩ := bad
      rcases List.mem_cons.1 hn with rfl | hn
      · omega
      · simp only [row, hk, Option.map_some]
        exact ih ⟨n, hn, large⟩ _
    · have none : m.mul? t.1 = none := by
        rw [← Option.not_isSome_iff_eq_none, Monomial.isSome_mul?]
        exact fits
      simp [row, none]

/-- Every monomial of a polynomial times another polynomial, added to a sum. -/
private theorem foldlM_rows {p q : Polynomial K}
    (fits : ∀ m ∈ p.map Prod.fst, ∀ n ∈ q.map Prod.fst, m.degree + n.degree ≤ 2)
    (sum : Polynomial K) :
    ∃ r, p.foldlM (fun sum t => q.foldlM (row t.1 t.2) sum) sum = some r ∧
      (∀ w, Terms.value w r
        = Terms.value w sum + Terms.value (fun m => Terms.value (times w m) q) p) ∧
      (∀ k, k ∈ r.map Prod.fst ↔ k ∈ sum.map Prod.fst ∨
        ∃ m ∈ p.map Prod.fst, ∃ n ∈ q.map Prod.fst, m.mul? n = some k) ∧
      ((sum.map Prod.fst).Nodup → (r.map Prod.fst).Nodup) := by
  induction p generalizing sum with
  | nil => exact ⟨sum, rfl, by simp, by simp, id⟩
  | cons t p ih =>
    obtain ⟨s, hs, values, keys, nodup⟩ :=
      foldlM_row t.2 (fun n hn => fits t.1 (by simp) n hn) sum
    obtain ⟨r, hr, values', keys', nodup'⟩ :=
      ih (fun m hm => fits m (List.mem_cons_of_mem _ hm)) s
    refine ⟨r, ?_, fun w => ?_, fun k => ?_, fun h => nodup' (nodup h)⟩
    · rw [List.foldlM_cons, hs]
      exact hr
    · rw [values', values, Terms.value_cons]
      ring
    · rw [keys', keys]
      simp only [List.map_cons, List.mem_cons, exists_eq_or_imp]
      rw [or_assoc]

private theorem foldlM_rows_none {p q : Polynomial K}
    (bad : ∃ m ∈ p.map Prod.fst, ∃ n ∈ q.map Prod.fst, 2 < m.degree + n.degree)
    (sum : Polynomial K) :
    p.foldlM (fun sum t => q.foldlM (row t.1 t.2) sum) sum = none := by
  induction p generalizing sum with
  | nil => simp at bad
  | cons t p ih =>
    rw [List.foldlM_cons]
    by_cases first : ∃ n ∈ q.map Prod.fst, 2 < t.1.degree + n.degree
    · rw [foldlM_row_none t.2 first]
      rfl
    · have fits : ∀ n ∈ q.map Prod.fst, t.1.degree + n.degree ≤ 2 := fun n hn =>
        Nat.le_of_not_lt fun large => first ⟨n, hn, large⟩
      obtain ⟨s, hs, -⟩ := foldlM_row t.2 fits sum
      obtain ⟨m, hm, large⟩ := bad
      rcases List.mem_cons.1 hm with rfl | hm
      · exact absurd large first
      · rw [hs]
        exact ih ⟨m, hm, large⟩ s

/-- A product exists if its degree is at most two, and has the values that it should have. -/
theorem exists_mul? (hp : p.HasDegree d) (hq : q.HasDegree e) (fits : d + e ≤ 2) :
    ∃ r, p.mul? q = some r ∧ r.HasDegree (d + e) ∧ (r.map Prod.fst).Nodup ∧
      ∀ w, Terms.value w r = Terms.value (fun m => Terms.value (times w m) q) p := by
  obtain ⟨⟨m, hm, hd⟩, most⟩ := hp
  obtain ⟨⟨n, hn, he⟩, most'⟩ := hq
  have all : ∀ m ∈ p.map Prod.fst, ∀ n ∈ q.map Prod.fst, m.degree + n.degree ≤ 2 := by
    intro m hm n hn
    have := most m hm
    have := most' n hn
    omega
  obtain ⟨r, hr, values, keys, nodup⟩ := foldlM_rows all []
  refine ⟨r, hr, ⟨?_, fun k hk => ?_⟩, nodup List.nodup_nil, fun w => by simpa using values w⟩
  · obtain ⟨k, hk⟩ := Option.isSome_iff_exists.1 (Monomial.isSome_mul?.2 (all m hm n hn))
    exact ⟨k, (keys k).2 (.inr ⟨m, hm, n, hn, hk⟩), by rw [Monomial.degree_mul? hk, hd, he]⟩
  · rcases (keys k).1 hk with hk | ⟨m, hm, n, hn, hk⟩
    · cases hk
    · rw [Monomial.degree_mul? hk]
      exact Nat.add_le_add (most m hm) (most' n hn)

/-- There is no product of a degree above two. -/
theorem mul?_eq_none (hp : p.HasDegree d) (hq : q.HasDegree e) (large : 2 < d + e) :
    p.mul? q = none := by
  obtain ⟨⟨m, hm, rfl⟩, -⟩ := hp
  obtain ⟨⟨n, hn, rfl⟩, -⟩ := hq
  exact foldlM_rows_none ⟨m, hm, n, hn, large⟩ []

end Values

/-! ## Functions -/

/-- The pairs of a polynomial. -/
def pairs (p : Polynomial K) : List (VariablePair × K) :=
  p.filterMap (fun | (.pair q, c) => some (q, c) | _ => none)

/-- The variables of a polynomial. -/
def linear (p : Polynomial K) : List (Int × K) :=
  p.filterMap (fun | (.linear v, c) => some (v, c) | _ => none)

section Functions

variable [CommRing K] {p : Polynomial K}

theorem value_pairs (w : VariablePair → K) (p : Polynomial K) :
    Terms.value w p.pairs
      = Terms.value (fun | Monomial.pair q => w q | _ => 0) p := by
  induction p with
  | nil => rfl
  | cons t p ih =>
    obtain ⟨m, c⟩ := t
    cases m <;> simpa [pairs] using ih

theorem value_linear (w : Int → K) (p : Polynomial K) :
    Terms.value w p.linear
      = Terms.value (fun | Monomial.linear v => w v | _ => 0) p := by
  induction p with
  | nil => rfl
  | cons t p ih =>
    obtain ⟨m, c⟩ := t
    cases m <;> simpa [linear] using ih

/-- The constant is the value that counts nothing else. -/
theorem constantTerm_eq_value (h : (p.map Prod.fst).Nodup) :
    p.constantTerm = Terms.value (Terms.only .one) p :=
  Terms.coefficient_eq_value h .one

end Functions

end Polynomial

end Formula

end MathProg
