import MathProg.Proofs.Representation.Structural

/-!
# Representations equal to themselves

A float that is not a number differs from everything, so a function, a set or a constraint with such
a float in it does so too. A representation is equal to one with the same constraints in another
order exactly if all of its numbers are numbers.
-/

namespace MathProg

/-! ## What is equal to something -/

section Containers

variable {α β : Type} [BEq α] [BEq β]

theorem forall_of_list_beq {P : α → Prop} (proper : ∀ a b : α, (a == b) = true → P a)
    {xs ys : List α} (h : (xs == ys) = true) : ∀ x ∈ xs, P x := by
  induction xs generalizing ys with
  | nil => simp
  | cons x xs ih =>
    cases ys with
    | nil => cases h
    | cons y ys =>
      rw [List.cons_beq_cons, Bool.and_eq_true] at h
      exact List.forall_mem_cons.2 ⟨proper x y h.1, ih h.2⟩

theorem forall_of_terms_beq {P : β → Prop} (proper : ∀ c d : β, (c == d) = true → P c)
    {ss ts : List (α × β)} (h : (ss == ts) = true) : ∀ c ∈ ss.map Prod.snd, P c := by
  refine List.forall_mem_map.2 (forall_of_list_beq (fun s t same => ?_) h)
  change (s.1 == t.1 && s.2 == t.2) = true at same
  exact proper s.2 t.2 (Bool.and_eq_true_iff.1 same).2

end Containers

section Functions

variable {K : Type} [BEq K] {P : K → Prop}

theorem Affine.forall_of_beq (proper : ∀ c d : K, (c == d) = true → P c) {f g : Affine K}
    (h : (f == g) = true) : ∀ c ∈ f.coefficients, P c := by
  change (f.terms == g.terms && f.constant == g.constant) = true at h
  rw [Bool.and_eq_true] at h
  exact List.forall_mem_cons.2 ⟨proper _ _ h.2, forall_of_terms_beq proper h.1⟩

namespace Function

mutual

/-- The coefficients of a function that is equal to something are, too. -/
theorem forall_of_same (proper : ∀ c d : K, (c == d) = true → P c) : ∀ {f g : Function K},
    f.same g = true → ∀ c ∈ f.coefficients, P c
  | f, g, h => by
    -- functions of two families differ
    cases f <;> cases g <;> first | (simp only [same] at h; contradiction) | skip
    case number.number c d =>
      rw [same] at h
      simpa [coefficients] using proper c d h
    case var.var | vars.vars => simp [coefficients]
    case affine.affine f g =>
      rw [same] at h
      rw [coefficients]
      exact Affine.forall_of_beq proper h
    case quadratic.quadratic f g =>
      simp only [same, Bool.and_eq_true] at h
      rw [coefficients, List.cons_append, List.forall_mem_cons, List.forall_mem_append]
      exact ⟨proper _ _ h.2, forall_of_terms_beq proper h.1.1, forall_of_terms_beq proper h.1.2⟩
    case rows.rows fs gs =>
      rw [same] at h
      rw [coefficients, List.forall_mem_flatMap]
      exact forall_of_list_beq (fun f g => Affine.forall_of_beq proper) h
    case nonlinear.nonlinear head args head' args' =>
      rw [same, Bool.and_eq_true] at h
      rw [coefficients]
      exact forall_of_sameAll proper h.2

theorem forall_of_sameAll (proper : ∀ c d : K, (c == d) = true → P c) :
    ∀ {fs gs : List (Function K)}, sameAll fs gs = true → ∀ c ∈ coefficientsAll fs, P c
  | [], _, _ => by simp [coefficientsAll]
  | _ :: _, [], h => by simp [sameAll] at h
  | f :: fs, g :: gs, h => by
    rw [sameAll, Bool.and_eq_true] at h
    rw [coefficientsAll, List.forall_mem_append]
    exact ⟨forall_of_same proper h.1, forall_of_sameAll proper h.2⟩

end

end Function

end Functions

theorem ConstraintSet.all_of_beq {N : Type} [BEq N] {P : N → Prop}
    (proper : ∀ m n : N, (m == n) = true → P m) {s t : ConstraintSet N} (h : (s == t) = true) :
    s.All P := by
  have size {m n : Option N} (same : (m == n) = true) : ∀ k ∈ m, P k := by
    rintro k rfl
    cases n with
    | none => cases same
    | some n => exact proper k n same
  cases s <;> cases t <;> first | (exact absurd h Bool.false_ne_true) | skip
  case lessThan.lessThan | greaterThan.greaterThan | equalTo.equalTo => exact proper _ _ h
  case interval.interval a b c d =>
    have both := Bool.and_eq_true_iff.1 (show (a == c && b == d) = true from h)
    exact ⟨proper _ _ both.1, proper _ _ both.2⟩
  case integer.integer | zeroOne.zeroOne => trivial
  case vector.vector cone m cone' n =>
    exact size (Bool.and_eq_true_iff.1 (show (cone == cone' && m == n) = true from h)).2
  case matrix.matrix layout m layout' n =>
    exact size (Bool.and_eq_true_iff.1 (show (layout == layout' && m == n) = true from h)).2

/-! ## Numbers -/

theorem FloatLaws.isNaN_of_beq (x y : Float) (h : (x == y) = true) : x.isNaN = false := by
  rw [beq_def, beq_iff] at h
  exact Bool.eq_false_iff.2 (mt (isNaN_iff x).1 h.2)

theorem Number.isNaN_of_beq (m n : Number) (h : (m == n) = true) : m.isNaN = false := by
  cases m with
  | integer m => rfl
  | real x =>
    cases n with
    | real y => exact FloatLaws.isNaN_of_beq x y h
    | integer n =>
      refine Bool.eq_false_iff.2 fun none => ?_
      have value := (FloatLaws.compareReal_eq_iff x n).1 h
      rw [ExactValue.ofFloat, FloatLaws.decode_eq, (FloatLaws.isNaN_iff x).1 none] at value
      cases value

theorem Function.isNumeric_of_beq {f g : Function Float} (h : (f == g) = true) : f.IsNumeric :=
  forall_of_same FloatLaws.isNaN_of_beq h

/-- A constraint that is equal to something has only numbers. -/
theorem Entry.isNumeric_of_beq {e f : Entry Number Float} (h : (e == f) = true) : e.IsNumeric := by
  change (e.name == f.name && e.function == f.function && e.set == f.set) = true at h
  simp only [Bool.and_eq_true] at h
  exact ⟨Function.isNumeric_of_beq h.1.2, ConstraintSet.all_of_beq Number.isNaN_of_beq h.2⟩

/-! ## Surplus -/

namespace Counting

variable {α : Type} [BEq α] {a : α}

/-- An item that differs from all is in surplus wherever it occurs. -/
theorem mem_surplus_of_apart (left : ∀ b, (a == b) = false) (right : ∀ b, (b == a) = false)
    {xs ys : List α} (mem : a ∈ xs) : a ∈ surplus xs ys := by
  -- it is counted anew each time, and no later item adds to its count
  have kept {b : α} {counts : List (α × Nat)} (counted : (a, 1) ∈ counts) :
      (a, 1) ∈ increment b counts := by
    induction counts with
    | nil => cases counted
    | cons t counts ih =>
      rw [increment]
      split
      next same =>
        rcases List.mem_cons.1 counted with rfl | counted
        · rw [left b] at same
          cases same
        · exact List.mem_cons_of_mem _ counted
      next =>
        rcases List.mem_cons.1 counted with rfl | counted
        · exact List.mem_cons_self
        · exact List.mem_cons_of_mem _ (ih counted)
  have added (counts : List (α × Nat)) : (a, 1) ∈ increment a counts := by
    induction counts with
    | nil => simp [increment]
    | cons t counts ih =>
      rw [increment, right t.1]
      exact List.mem_cons_of_mem _ ih
  have counted : (a, 1) ∈ tally xs := by
    obtain ⟨before, after, rfl⟩ := List.mem_iff_append.1 mem
    rw [tally, List.foldl_append, List.foldl_cons]
    exact List.foldlRecOn after _ (added _) fun _ counted _ _ => kept counted
  refine List.mem_flatMap.2 ⟨(a, 1), counted, ?_⟩
  have missing : (tally ys).lookup a = none := List.lookup_eq_none_iff.2 fun t _ => by
    simp [bne, left t.1]
  simp [missing]

end Counting

/-! ## Representations -/

namespace Representation

variable {r s : Representation Number Float}

theorem IsNumeric.congr (h : r.IsNumeric) (objective : r.objective = s.objective)
    (constraints : s.constraints.Perm r.constraints) : s.IsNumeric where
  objective := objective ▸ h.objective
  constraints e mem := h.constraints e (constraints.subset mem)

/-- A representation that is equal to something has only numbers. -/
theorem isNumeric_of_beq (h : (r == s) = true) : r.IsNumeric := by
  obtain ⟨-, -, objective, surplus, -⟩ := beq_iff_surplus r s |>.1 h
  refine ⟨Function.isNumeric_of_beq objective, fun e mem => ?_⟩
  by_contra odd
  have left (f : Entry Number Float) : (e == f) = false :=
    Bool.eq_false_iff.2 (mt Entry.isNumeric_of_beq odd)
  have inside : e ∈ Counting.surplus r.constraints s.constraints :=
    Counting.mem_surplus_of_apart left (fun f => (Entry.beq_comm f e).trans (left f)) mem
  rw [surplus] at inside
  cases inside

/-- Representations that differ in the order of their constraints are equal exactly if they have
only numbers. -/
theorem beq_iff_isNumeric (names : r.variableNames = s.variableNames) (sense : r.sense = s.sense)
    (objective : r.objective = s.objective) (constraints : s.constraints.Perm r.constraints) :
    (r == s) = true ↔ r.IsNumeric := by
  refine ⟨isNumeric_of_beq, fun numeric => ?_⟩
  rw [beq_iff_exact numeric (numeric.congr objective constraints)]
  exact ⟨names, sense, congrArg Function.exact objective, (constraints.map _).symm⟩

end Representation

end MathProg
