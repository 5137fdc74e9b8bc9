import MathProg.Proofs.Representation.Equality

/-!
# Multiplicities

Where equality is real, a tally finds for every item how often it occurs, and the surplus of one
list over another has each item as often as it occurs more in the first. So lists without a surplus
over one another are permutations of each other. Equality by value is real on the values that are
compared, so all this holds of them.
-/

namespace MathProg.Counting

/-! ## Items and their values -/

section Values

variable {α β : Type} [BEq α] [BEq β] {w : α → β}

theorem lookup_map {counts : List (α × Nat)} {a : α}
    (kept : ∀ t ∈ counts, (w a == w t.1) = (a == t.1)) :
    (counts.map (fun t => (w t.1, t.2))).lookup (w a) = counts.lookup a := by
  induction counts with
  | nil => rfl
  | cons t counts ih =>
    rw [List.map_cons, List.lookup, List.lookup, kept t (by simp),
      ih fun u mem => kept u (List.mem_cons_of_mem _ mem)]

/-- Items may be replaced by values that are equal exactly if the items are. -/
theorem surplus_map {xs ys : List α}
    (kept : ∀ a ∈ xs ++ ys, ∀ b ∈ xs ++ ys, (w a == w b) = (a == b)) :
    surplus (xs.map w) (ys.map w) = (surplus xs ys).map w := by
  have left {a : α} (mem : a ∈ xs) : a ∈ xs ++ ys := List.mem_append_left _ mem
  have right {a : α} (mem : a ∈ ys) : a ∈ xs ++ ys := List.mem_append_right _ mem
  rw [surplus, surplus, tally_map fun a ha b hb => kept a (left ha) b (left hb),
    tally_map fun a ha b hb => kept a (right ha) b (right hb), List.flatMap_map, List.map_flatMap]
  refine List.flatMap_congr fun t mem => ?_
  have apart : ∀ u ∈ tally ys, (w t.1 == w u.1) = (t.1 == u.1) := fun u there =>
    kept t.1 (left (mem_of_mem_tally mem)) u.1 (right (mem_of_mem_tally there))
  change List.replicate (t.2 - (List.lookup (w t.1) _).getD 0) (w t.1) = List.map w _
  rw [lookup_map apart, List.map_replicate]

end Values

theorem mem_of_mem_surplus {α : Type} [BEq α] {xs ys : List α} {a : α} (h : a ∈ surplus xs ys) :
    a ∈ xs := by
  obtain ⟨t, mem, written⟩ := List.mem_flatMap.1 h
  rw [List.eq_of_mem_replicate written]
  exact mem_of_mem_tally mem

/-! ## Multiplicities -/

section Lawful

variable {α : Type} [BEq α] [LawfulBEq α]

theorem lookup_increment (a b : α) (counts : List (α × Nat)) :
    ((increment a counts).lookup b).getD 0
      = (counts.lookup b).getD 0 + if a == b then 1 else 0 := by
  induction counts with
  | nil =>
    rw [increment, List.lookup, List.lookup, beq_comm b a]
    cases a == b <;> rfl
  | cons t counts ih =>
    rw [increment, List.lookup]
    by_cases counted : t.1 = a
    · rw [if_pos (beq_iff_eq.2 counted), List.lookup, ← counted, beq_comm t.1 b]
      cases b == t.1 <;> rfl
    · rw [if_neg (by simpa using counted), List.lookup]
      cases found : b == t.1 with
      | false => exact ih
      | true =>
        have other : (a == b) = false := by
          rw [eq_of_beq found]
          simpa using Ne.symm counted
        rw [other]
        rfl

/-- A tally has the number of occurrences of every item. -/
theorem lookup_tally (xs : List α) (b : α) : ((tally xs).lookup b).getD 0 = xs.count b := by
  have fold (counts : List (α × Nat)) :
      ((xs.foldl (fun counts a => increment a counts) counts).lookup b).getD 0
        = (counts.lookup b).getD 0 + xs.count b := by
    induction xs generalizing counts with
    | nil => rfl
    | cons x xs ih =>
      rw [List.foldl_cons, ih, lookup_increment, List.count_cons]
      omega
  have whole := fold []
  rwa [List.lookup_nil, Option.getD_none, Nat.zero_add] at whole

/-- How often an item is written, if each counted item is written by its number less a deduction. -/
theorem count_flatMap_replicate {counts : List (α × Nat)}
    (distinct : counts.Pairwise (fun t u => (t.1 == u.1) = false)) (deduction : α → Nat) (b : α) :
    (counts.flatMap (fun t => List.replicate (t.2 - deduction t.1) t.1)).count b
      = (counts.lookup b).getD 0 - deduction b := by
  induction counts with
  | nil => simp
  | cons t counts ih =>
    obtain ⟨first, rest⟩ := List.pairwise_cons.1 distinct
    rw [List.flatMap_cons, List.count_append, ih rest, List.count_replicate, List.lookup]
    cases found : b == t.1 with
    | false =>
      rw [beq_comm t.1 b, found]
      simp
    | true =>
      -- no item behind this one is the same
      have others : counts.lookup b = none := List.lookup_eq_none_iff.2 fun u mem => by
        rw [eq_of_beq found]
        simpa using first u mem
      rw [others, beq_comm t.1 b, found, eq_of_beq found]
      simp

/-- The surplus has each item as often as it occurs more in the first list. -/
theorem count_surplus (xs ys : List α) (b : α) :
    (surplus xs ys).count b = xs.count b - ys.count b := by
  have written := count_flatMap_replicate (pairwise_tally xs)
    (fun a => ((tally ys).lookup a).getD 0) b
  rw [lookup_tally, lookup_tally] at written
  exact written

/-- Lists without a surplus over one another are permutations of each other. -/
theorem perm_iff_surplus {xs ys : List α} :
    xs.Perm ys ↔ surplus xs ys = [] ∧ surplus ys xs = [] := by
  rw [List.perm_iff_count]
  constructor
  · intro same
    constructor <;> refine List.eq_nil_iff_forall_not_mem.2 fun a mem => ?_
    · have := List.count_pos_iff.2 mem
      rw [count_surplus, same] at this
      omega
    · have := List.count_pos_iff.2 mem
      rw [count_surplus, same] at this
      omega
  · rintro ⟨left, right⟩ a
    have more := count_surplus xs ys a
    have less := count_surplus ys xs a
    rw [left, List.count_nil] at more
    rw [right, List.count_nil] at less
    omega

end Lawful

end MathProg.Counting
