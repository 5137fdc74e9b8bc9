import MathProg.Proofs.Number.FloatLaws
import MathProg.Representation.Difference

/-!
# Equal representations

Equality by value is symmetric and transitive, though a float that is not a number differs from
itself. Representations have no difference if their constraints are equal one by one.
-/

namespace MathProg

/-! ## Equality of functions -/

section Containers

variable {α β : Type} [BEq α] [BEq β]

theorem beq_comm [PartialEquivBEq α] (a b : α) : (a == b) = (b == a) :=
  Bool.eq_iff_iff.2 ⟨PartialEquivBEq.symm, PartialEquivBEq.symm⟩

theorem beq_congr_left [PartialEquivBEq α] {a b : α} (h : (a == b) = true) (c : α) :
    (a == c) = (b == c) :=
  Bool.eq_iff_iff.2 ⟨PartialEquivBEq.trans (PartialEquivBEq.symm h), PartialEquivBEq.trans h⟩

instance instPartialEquivBEqProd [PartialEquivBEq α] [PartialEquivBEq β] :
    PartialEquivBEq (α × β) where
  symm {s t} h := by
    change (s.1 == t.1 && s.2 == t.2) = true at h
    change (t.1 == s.1 && t.2 == s.2) = true
    rwa [beq_comm t.1, beq_comm t.2]
  trans {s t u} h h' := by
    change (s.1 == t.1 && s.2 == t.2) = true at h
    change (t.1 == u.1 && t.2 == u.2) = true at h'
    change (s.1 == u.1 && s.2 == u.2) = true
    rw [Bool.and_eq_true] at h h' ⊢
    exact ⟨PartialEquivBEq.trans h.1 h'.1, PartialEquivBEq.trans h.2 h'.2⟩

instance instPartialEquivBEqList [PartialEquivBEq α] : PartialEquivBEq (List α) where
  symm {xs ys} h := by
    induction xs generalizing ys with
    | nil => cases ys <;> [rfl; cases h]
    | cons x xs ih =>
      cases ys with
      | nil => cases h
      | cons y ys =>
        rw [List.cons_beq_cons, Bool.and_eq_true] at h ⊢
        exact ⟨PartialEquivBEq.symm h.1, ih h.2⟩
  trans {xs ys zs} h h' := by
    induction xs generalizing ys zs with
    | nil =>
      cases ys with
      | nil => exact h'
      | cons => cases h
    | cons x xs ih =>
      cases ys with
      | nil => cases h
      | cons y ys =>
        cases zs with
        | nil => cases h'
        | cons z zs =>
          rw [List.cons_beq_cons, Bool.and_eq_true] at h h' ⊢
          exact ⟨PartialEquivBEq.trans h.1 h'.1, ih h.2 h'.2⟩

/-- A list equals itself if its members do. -/
theorem list_beq_self {xs : List α} (h : ∀ x ∈ xs, (x == x) = true) : (xs == xs) = true := by
  induction xs with
  | nil => rfl
  | cons x xs ih =>
    rw [List.cons_beq_cons, h x (by simp), ih fun y mem => h y (List.mem_cons_of_mem _ mem)]
    rfl

end Containers

variable {K : Type} [BEq K]

instance [PartialEquivBEq K] : PartialEquivBEq (Affine K) where
  symm {f g} h := by
    change (f.terms == g.terms && f.constant == g.constant) = true at h
    change (g.terms == f.terms && g.constant == f.constant) = true
    rwa [beq_comm g.terms, beq_comm g.constant]
  trans {f g h} hfg hgh := by
    change (f.terms == g.terms && f.constant == g.constant) = true at hfg
    change (g.terms == h.terms && g.constant == h.constant) = true at hgh
    change (f.terms == h.terms && f.constant == h.constant) = true
    rw [Bool.and_eq_true] at hfg hgh ⊢
    exact ⟨PartialEquivBEq.trans hfg.1 hgh.1, PartialEquivBEq.trans hfg.2 hgh.2⟩

namespace Function

mutual

theorem same_symm [PartialEquivBEq K] : ∀ {f g : Function K}, f.same g = true → g.same f = true
  | f, g, h => by
    cases f <;> cases g <;> first | (simp only [same] at h; contradiction) | skip
    case nonlinear.nonlinear head args head' args' =>
      simp only [same, Bool.and_eq_true, beq_iff_eq] at h ⊢
      exact ⟨h.1.symm, sameAll_symm h.2⟩
    all_goals
      simp only [same, Bool.and_eq_true] at h ⊢
      first
      | exact PartialEquivBEq.symm h
      | exact ⟨⟨PartialEquivBEq.symm h.1.1, PartialEquivBEq.symm h.1.2⟩, PartialEquivBEq.symm h.2⟩

theorem sameAll_symm [PartialEquivBEq K] : ∀ {fs gs : List (Function K)},
    sameAll fs gs = true → sameAll gs fs = true
  | [], [], _ => rfl
  | f :: fs, g :: gs, h => by
    simp only [sameAll, Bool.and_eq_true] at h ⊢
    exact ⟨same_symm h.1, sameAll_symm h.2⟩

end

mutual

theorem same_trans [PartialEquivBEq K] : ∀ {f g h : Function K}, f.same g = true →
    g.same h = true → f.same h = true
  | f, g, h, hfg, hgh => by
    cases f <;> cases g <;> first | (simp only [same] at hfg; contradiction) | skip
    all_goals cases h <;> first | (simp only [same] at hgh; contradiction) | skip
    case nonlinear.nonlinear.nonlinear head args head' args' head'' args'' =>
      simp only [same, Bool.and_eq_true, beq_iff_eq] at hfg hgh ⊢
      exact ⟨hfg.1.trans hgh.1, sameAll_trans hfg.2 hgh.2⟩
    all_goals
      simp only [same, Bool.and_eq_true] at hfg hgh ⊢
      first
      | exact PartialEquivBEq.trans hfg hgh
      | exact ⟨⟨PartialEquivBEq.trans hfg.1.1 hgh.1.1, PartialEquivBEq.trans hfg.1.2 hgh.1.2⟩,
          PartialEquivBEq.trans hfg.2 hgh.2⟩

theorem sameAll_trans [PartialEquivBEq K] : ∀ {fs gs hs : List (Function K)}, sameAll fs gs = true →
    sameAll gs hs = true → sameAll fs hs = true
  | [], [], [], _, _ => rfl
  | f :: fs, g :: gs, h :: hs, hfg, hgh => by
    simp only [sameAll, Bool.and_eq_true] at hfg hgh ⊢
    exact ⟨same_trans hfg.1 hgh.1, sameAll_trans hfg.2 hgh.2⟩

end

instance [PartialEquivBEq K] : PartialEquivBEq (Function K) where
  symm := same_symm
  trans := same_trans

end Function

/-! ## Equality of numbers and sets -/

theorem Number.beq_comm (m n : Number) : (m == n) = (n == m) := by
  cases m with
  | integer m =>
    cases n with
    | integer n => exact MathProg.beq_comm m n
    | real y => rfl
  | real x =>
    cases n with
    | integer n => rfl
    | real y => exact MathProg.beq_comm x y

theorem ConstraintSet.beq_comm (s t : ConstraintSet Number) : (s == t) = (t == s) := by
  have bound := Number.beq_comm
  have size : ∀ m n : Option Number, (m == n) = (n == m) := by
    intro m n
    cases m <;> cases n
    · rfl
    · rfl
    · rfl
    · exact bound _ _
  cases s with
  | lessThan | greaterThan | equalTo => cases t <;> first | rfl | exact bound _ _
  | interval a b =>
    cases t with
    | interval c d => exact congrArg₂ Bool.and (bound a c) (bound b d)
    | _ => rfl
  | integer | zeroOne => cases t <;> rfl
  | vector cone m =>
    cases t with
    | vector cone' n => exact congrArg₂ Bool.and (MathProg.beq_comm cone cone') (size m n)
    | _ => rfl
  | matrix layout m =>
    cases t with
    | matrix layout' n => exact congrArg₂ Bool.and (MathProg.beq_comm layout layout') (size m n)
    | _ => rfl

theorem Entry.beq_comm (e f : Entry Number Float) : (e == f) = (f == e) := by
  change (e.name == f.name && e.function == f.function && e.set == f.set) =
    (f.name == e.name && f.function == e.function && f.set == e.set)
  rw [MathProg.beq_comm e.name, MathProg.beq_comm e.function, ConstraintSet.beq_comm]

/-! ## Counting -/

namespace Counting

variable {α β : Type} [BEq α] [BEq β] {xs : List α} {w : α → β}

theorem increment_map {a : α} {counts : List (α × Nat)}
    (kept : ∀ t ∈ counts, (w t.1 == w a) = (t.1 == a)) :
    increment (w a) (counts.map (fun t => (w t.1, t.2))) =
      (increment a counts).map (fun t => (w t.1, t.2)) := by
  induction counts with
  | nil => rfl
  | cons t counts ih =>
    have rest := ih fun u mem => kept u (List.mem_cons_of_mem _ mem)
    rw [List.map_cons, increment, increment, kept t (by simp), rest]
    split <;> rfl

theorem mem_increment {a : α} {counts : List (α × Nat)} {t : α × Nat}
    (h : t ∈ increment a counts) : t.1 = a ∨ ∃ n, (t.1, n) ∈ counts := by
  induction counts with
  | nil =>
    obtain rfl := List.mem_singleton.1 h
    exact .inl rfl
  | cons u counts ih =>
    rw [increment] at h
    split at h
    · rcases List.mem_cons.1 h with rfl | h
      · exact .inr ⟨u.2, by simp⟩
      · exact .inr ⟨t.2, List.mem_cons_of_mem _ h⟩
    · rcases List.mem_cons.1 h with rfl | h
      · exact .inr ⟨u.2, by simp⟩
      · rcases ih h with same | ⟨n, mem⟩
        · exact .inl same
        · exact .inr ⟨n, List.mem_cons_of_mem _ mem⟩

/-- No two counted items are equal, each being compared with those behind it. -/
theorem pairwise_increment {a : α} {counts : List (α × Nat)}
    (h : counts.Pairwise (fun t u => (t.1 == u.1) = false)) :
    (increment a counts).Pairwise (fun t u => (t.1 == u.1) = false) := by
  induction counts with
  | nil => exact List.pairwise_singleton ..
  | cons t counts ih =>
    obtain ⟨first, rest⟩ := List.pairwise_cons.1 h
    rw [increment]
    split
    · exact List.pairwise_cons.2 ⟨first, rest⟩
    next other =>
      refine List.pairwise_cons.2 ⟨fun u mem => ?_, ih rest⟩
      rcases mem_increment mem with same | ⟨n, mem⟩
      · rw [same]
        simpa using other
      · exact first (u.1, n) mem

theorem foldl_increment_induction {P : List (α × Nat) → Prop} (nil : P [])
    (step : ∀ a ∈ xs, ∀ counts, P counts → P (increment a counts)) : P (tally xs) := by
  have from_start : ∀ {ys : List α} {counts : List (α × Nat)}, (∀ a ∈ ys, a ∈ xs) → P counts →
      P (ys.foldl (fun counts a => increment a counts) counts) := by
    intro ys
    induction ys with
    | nil => exact fun _ h => h
    | cons y ys ih =>
      exact fun inside h => ih (fun a mem => inside a (List.mem_cons_of_mem _ mem))
        (step y (inside y (by simp)) _ h)
  exact from_start (fun _ mem => mem) nil

theorem mem_of_mem_tally {t : α × Nat} (h : t ∈ tally xs) : t.1 ∈ xs := by
  have all : ∀ t ∈ tally xs, t.1 ∈ xs := by
    refine foldl_increment_induction (P := fun counts => ∀ t ∈ counts, t.1 ∈ xs) (by simp) ?_
    intro a inside counts known t mem
    rcases mem_increment mem with same | ⟨n, mem⟩
    · exact same ▸ inside
    · exact known (t.1, n) mem
  exact all t h

theorem pairwise_tally (xs : List α) :
    (tally xs).Pairwise (fun t u => (t.1 == u.1) = false) :=
  foldl_increment_induction List.Pairwise.nil fun _ _ _ h => pairwise_increment h

/-- Renaming items to equal ones renames what is counted. -/
theorem tally_map (kept : ∀ a ∈ xs, ∀ b ∈ xs, (w a == w b) = (a == b)) :
    tally (xs.map w) = (tally xs).map (fun t => (w t.1, t.2)) := by
  have from_start : ∀ {ys : List α} {counts : List (α × Nat)}, (∀ a ∈ ys, a ∈ xs) →
      (∀ t ∈ counts, t.1 ∈ xs) →
      (ys.map w).foldl (fun counts a => increment a counts)
          (counts.map (fun t => (w t.1, t.2))) =
        (ys.foldl (fun counts a => increment a counts) counts).map (fun t => (w t.1, t.2)) := by
    intro ys
    induction ys with
    | nil => exact fun _ _ => rfl
    | cons y ys ih =>
      intro counts inside known
      have here := inside y (by simp)
      rw [List.map_cons, List.foldl_cons, List.foldl_cons,
        increment_map fun t mem => kept t.1 (known t mem) y here]
      refine ih (fun a mem => inside a (List.mem_cons_of_mem _ mem)) fun t mem => ?_
      rcases mem_increment mem with same | ⟨n, mem⟩
      · exact same ▸ here
      · exact known (t.1, n) mem
  exact @from_start xs [] (fun _ mem => mem) (by simp)

/-- Under symmetric comparison every counted item finds its own number. -/
theorem lookup_of_mem {counts : List (α × Nat)} {t : α × Nat} (mem : t ∈ counts) {b : α}
    (distinct : counts.Pairwise (fun t u => (t.1 == u.1) = false))
    (same : ∀ u ∈ counts, (b == u.1) = (u.1 == t.1)) (self : (t.1 == t.1) = true) :
    counts.lookup b = some t.2 := by
  induction counts with
  | nil => cases mem
  | cons u counts ih =>
    obtain ⟨first, rest⟩ := List.pairwise_cons.1 distinct
    rw [List.lookup, same u (by simp)]
    rcases List.mem_cons.1 mem with rfl | mem
    · rw [self]
    · rw [first t mem]
      exact ih mem rest fun u inside => same u (List.mem_cons_of_mem _ inside)

/-- Nothing is in surplus over items that are renamed to equal ones, nor the other way round. -/
theorem surplus_map_eq_nil {w : α → α} (self : ∀ a ∈ xs, (a == a) = true)
    (symm : ∀ a ∈ xs, ∀ b ∈ xs, (a == b) = (b == a))
    (left : ∀ a ∈ xs, ∀ b ∈ xs, (w a == b) = (a == b))
    (right : ∀ a ∈ xs, ∀ b ∈ xs, (a == w b) = (a == b))
    (both : ∀ a ∈ xs, ∀ b ∈ xs, (w a == w b) = (a == b)) :
    surplus xs (xs.map w) = [] ∧ surplus (xs.map w) xs = [] := by
  have inside : ∀ {t}, t ∈ tally xs → t.1 ∈ xs := mem_of_mem_tally
  constructor
  · rw [surplus, tally_map both, List.flatMap_eq_nil_iff]
    intro t mem
    have found : ((tally xs).map (fun t => (w t.1, t.2))).lookup t.1 = some t.2 := by
      refine lookup_of_mem (t := (w t.1, t.2)) (List.mem_map_of_mem (f := fun t => (w t.1, t.2)) mem)
        ?_ ?_ ?_
      · rw [List.pairwise_map]
        exact (pairwise_tally xs).imp_of_mem fun first second apart =>
          (both _ (inside first) _ (inside second)).trans apart
      · intro u there
        obtain ⟨v, counted, rfl⟩ := List.mem_map.1 there
        rw [right _ (inside mem) _ (inside counted), both _ (inside counted) _ (inside mem),
          symm _ (inside mem) _ (inside counted)]
      · exact (both _ (inside mem) _ (inside mem)).trans (self _ (inside mem))
    simp [found]
  · rw [surplus, tally_map both, List.flatMap_eq_nil_iff]
    intro t mem
    obtain ⟨v, counted, rfl⟩ := List.mem_map.1 mem
    have found : (tally xs).lookup (w v.1) = some v.2 := by
      refine lookup_of_mem counted (pairwise_tally xs) (fun u there => ?_) (self _ (inside counted))
      rw [left _ (inside counted) _ (inside there), symm _ (inside counted) _ (inside there)]
    simp [found]

end Counting

end MathProg
