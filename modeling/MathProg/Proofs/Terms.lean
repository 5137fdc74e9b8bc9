import Mathlib
import MathProg.Function.Basic

/-!
# Keys and canonical sums

Which keys a sum has follows from what was added to it. A canonical sum has ascending keys and no coefficient zero. Sums made by `Terms.canonical` are
canonical, and a canonical sum is its own canonical form. The latter needs that a coefficient added
to zero stays what it is, which floats grant to all but the negative zero.
-/

namespace MathProg

/-- A coefficient that does not count as zero stays what it is when it is added to zero. -/
class ZeroStart (K : Type) [Zero K] [Add K] [BEq K] : Prop where
  zero_add_of_ne : ∀ {c : K}, (c != 0) = true → 0 + c = c

instance : Std.TransOrd VariablePair :=
  inferInstanceAs (Std.TransCmp
    (compareLex (compareOn VariablePair.first) (compareOn VariablePair.second)))

instance : Std.LawfulEqOrd VariablePair where
  eq_of_compare {p q} h := by
    change (compare p.first q.first).then (compare p.second q.second) = .eq at h
    rw [Ordering.then_eq_eq] at h
    have first := Std.LawfulEqOrd.eq_of_compare h.1
    have second := Std.LawfulEqOrd.eq_of_compare h.2
    cases p
    cases q
    simp_all

namespace Terms

variable {κ K : Type}

/-! ## Keys -/

section Keys

@[simp] theorem keys_mapCoefficients (f : K → K) (terms : List (κ × K)) :
    (mapCoefficients f terms).map Prod.fst = terms.map Prod.fst := by
  simp [mapCoefficients, List.map_map, Function.comp_def]

variable [BEq κ] [LawfulBEq κ] [Zero K] [Add K]

theorem mem_keys_add {k l : κ} {c : K} {terms : List (κ × K)} :
    l ∈ (add k c terms).map Prod.fst ↔ l = k ∨ l ∈ terms.map Prod.fst := by
  induction terms with
  | nil => simp [add]
  | cons t terms ih =>
    unfold add
    split
    next same =>
      obtain rfl := eq_of_beq same
      simp
    next =>
      simp only [List.map_cons, List.mem_cons, ih]
      exact or_left_comm

theorem nodup_keys_add {k : κ} {c : K} {terms : List (κ × K)}
    (h : (terms.map Prod.fst).Nodup) : ((add k c terms).map Prod.fst).Nodup := by
  induction terms with
  | nil => simp [add]
  | cons t terms ih =>
    obtain ⟨fresh, rest⟩ := List.nodup_cons.1 h
    unfold add
    split
    next => exact h
    next other =>
      refine List.nodup_cons.2 ⟨fun found => ?_, ih rest⟩
      rcases mem_keys_add.1 found with same | found
      · exact other (beq_of_eq same)
      · exact fresh found

theorem mem_keys_addAll {l : κ} {terms more : List (κ × K)} :
    l ∈ (addAll terms more).map Prod.fst ↔ l ∈ terms.map Prod.fst ∨ l ∈ more.map Prod.fst := by
  induction more generalizing terms with
  | nil => simp [addAll]
  | cons t more ih =>
    change l ∈ (addAll (add t.1 t.2 terms) more).map Prod.fst ↔ _
    rw [ih, mem_keys_add, List.map_cons, List.mem_cons, or_assoc, or_left_comm]

theorem nodup_keys_addAll {terms more : List (κ × K)} (h : (terms.map Prod.fst).Nodup) :
    ((addAll terms more).map Prod.fst).Nodup := by
  induction more generalizing terms with
  | nil => exact h
  | cons t more ih => exact ih (nodup_keys_add h)

end Keys

/-! ## Canonical sums -/

/-- Ascending keys, and no coefficient that counts as zero. -/
structure IsCanonical [Ord κ] [Zero K] [BEq K] (terms : List (κ × K)) : Prop where
  ascending : terms.Pairwise (fun s t => compare s.1 t.1 = .lt)
  nonzero : ∀ t ∈ terms, (t.2 != 0) = true

theorem IsCanonical.nil [Ord κ] [Zero K] [BEq K] : IsCanonical ([] : List (κ × K)) :=
  ⟨.nil, by simp⟩

section Insert

variable [Ord κ] [Zero K] [Add K]

theorem mem_insert_key {k : κ} {c : K} {terms : List (κ × K)} {t : κ × K}
    (h : t ∈ insert k c terms) : t.1 = k ∨ t.1 ∈ terms.map Prod.fst := by
  induction terms with
  | nil => simp_all [insert]
  | cons s terms ih =>
    unfold insert at h
    split at h
    · simp only [List.mem_cons] at h
      rcases h with rfl | rfl | h
      · exact .inl rfl
      · simp
      · exact .inr (List.mem_map_of_mem (List.mem_cons_of_mem _ h))
    · simp only [List.mem_cons] at h
      rcases h with rfl | h
      · simp
      · exact .inr (List.mem_map_of_mem (List.mem_cons_of_mem _ h))
    · simp only [List.mem_cons] at h
      rcases h with rfl | h
      · simp
      · rcases ih h with h | h
        · exact .inl h
        · exact .inr (List.mem_cons_of_mem _ h)

/-- A key above all others goes to the end. -/
theorem insert_last [Std.OrientedOrd κ] {k : κ} {c : K} {terms : List (κ × K)}
    (h : ∀ t ∈ terms, compare t.1 k = .lt) : insert k c terms = terms ++ [(k, 0 + c)] := by
  induction terms with
  | nil => rfl
  | cons s terms ih =>
    have above : compare k s.1 = .gt := Std.OrientedCmp.gt_iff_lt.2 (h s (by simp))
    have rest := ih fun t ht => h t (List.mem_cons_of_mem _ ht)
    simp only [insert, above, rest, List.cons_append]

theorem ascending_insert [Std.TransOrd κ] {k : κ} {c : K} {terms : List (κ × K)}
    (h : terms.Pairwise (fun s t => compare s.1 t.1 = .lt)) :
    (insert k c terms).Pairwise (fun s t => compare s.1 t.1 = .lt) := by
  induction terms with
  | nil => simp [insert]
  | cons s terms ih =>
    obtain ⟨first, others⟩ := List.pairwise_cons.1 h
    unfold insert
    split
    next below =>
      refine List.pairwise_cons.2 ⟨fun t ht => ?_, h⟩
      rcases List.mem_cons.1 ht with rfl | ht
      · exact below
      · exact Std.TransCmp.lt_trans below (first t ht)
    next => exact List.pairwise_cons.2 ⟨first, others⟩
    next above =>
      refine List.pairwise_cons.2 ⟨fun t ht => ?_, ih others⟩
      rcases mem_insert_key ht with hk | hk
      · rw [hk]
        exact Std.OrientedCmp.gt_iff_lt.1 above
      · obtain ⟨u, hu, hk⟩ := List.mem_map.1 hk
        rw [← hk]
        exact first u hu

theorem ascending_foldl_insert [Std.TransOrd κ] (terms : List (κ × K)) {start : List (κ × K)}
    (h : start.Pairwise (fun s t => compare s.1 t.1 = .lt)) :
    (terms.foldl (fun sum (k, c) => insert k c sum) start).Pairwise
      (fun s t => compare s.1 t.1 = .lt) := by
  induction terms generalizing start with
  | nil => exact h
  | cons t terms ih => exact ih (ascending_insert h)

theorem mem_foldl_insert_key {terms start : List (κ × K)} {t : κ × K}
    (h : t ∈ terms.foldl (fun sum (k, c) => insert k c sum) start) :
    t.1 ∈ start.map Prod.fst ∨ t.1 ∈ terms.map Prod.fst := by
  induction terms generalizing start with
  | nil => exact .inl (List.mem_map_of_mem h)
  | cons s terms ih =>
    rcases ih h with h | h
    · obtain ⟨u, hu, hk⟩ := List.mem_map.1 h
      rw [← hk]
      rcases mem_insert_key hu with h | h
      · exact .inr (by simp [h])
      · exact .inl h
    · exact .inr (List.mem_cons_of_mem _ h)

end Insert

section Canonical

variable [Ord κ] [Zero K] [Add K] [BEq K]

theorem isCanonical_canonical [Std.TransOrd κ] (terms : List (κ × K)) :
    IsCanonical (canonical terms) where
  ascending := (ascending_foldl_insert terms .nil).filter _
  nonzero _ ht := (List.mem_filter.1 ht).2

/-- The canonical form has no new keys. -/
theorem mem_canonical_key {terms : List (κ × K)} {t : κ × K} (h : t ∈ canonical terms) :
    t.1 ∈ terms.map Prod.fst := by
  simpa using mem_foldl_insert_key (List.mem_filter.1 h).1

omit [BEq K] in
/-- Ascending terms are inserted one behind the other. -/
theorem foldl_insert_ascending [Std.OrientedOrd κ] {terms start : List (κ × K)}
    (h : (start ++ terms).Pairwise (fun s t => compare s.1 t.1 = .lt)) :
    terms.foldl (fun sum (k, c) => insert k c sum) start =
      start ++ terms.map (fun t => (t.1, 0 + t.2)) := by
  induction terms generalizing start with
  | nil => simp
  | cons t terms ih =>
    obtain ⟨k, c⟩ := t
    obtain ⟨-, -, before⟩ := List.pairwise_append.1 h
    have last : insert k c start = start ++ [(k, 0 + c)] :=
      insert_last fun s hs => before s hs (k, c) (by simp)
    have next : (start ++ [(k, 0 + c)] ++ terms).Pairwise
        (fun s t => compare s.1 t.1 = .lt) := by
      have same : (start ++ (k, c) :: terms).map Prod.fst
          = (start ++ [(k, 0 + c)] ++ terms).map Prod.fst := by simp
      rw [← List.pairwise_map (f := Prod.fst) (R := fun k l => compare k l = .lt)] at h ⊢
      rwa [← same]
    change List.foldl _ (insert k c start) terms = _
    rw [last, ih next]
    simp

/-- A canonical sum is its own canonical form. -/
theorem canonical_of_isCanonical [Std.OrientedOrd κ] [ZeroStart K] {terms : List (κ × K)}
    (h : IsCanonical terms) : canonical terms = terms := by
  have same : terms.map (fun t => (t.1, 0 + t.2)) = terms := by
    refine (List.map_congr_left fun t ht => ?_).trans (List.map_id _)
    rw [ZeroStart.zero_add_of_ne (h.nonzero t ht)]
    rfl
  have sorted : terms.foldl (fun sum (k, c) => insert k c sum) [] = terms := by
    rw [foldl_insert_ascending (by simpa using h.ascending), same]
    rfl
  unfold canonical
  rw [sorted]
  exact List.filter_eq_self.2 fun t ht => h.nonzero t ht

omit [Add K] in
/-- No key of a canonical sum occurs twice. -/
theorem IsCanonical.nodup_keys [Std.OrientedOrd κ] {terms : List (κ × K)}
    (h : IsCanonical terms) : (terms.map Prod.fst).Nodup := by
  rw [List.nodup_iff_pairwise_ne, List.pairwise_map]
  refine h.ascending.imp fun {s t} below same => ?_
  rw [same] at below
  exact absurd (Std.ReflCmp.compare_self.symm.trans below) (by simp)

omit [Add K] in
/-- Renaming keys in their order keeps a sum canonical. -/
theorem IsCanonical.map {ι : Type} [Ord ι] {φ : κ → ι} {terms : List (κ × K)}
    (h : IsCanonical terms)
    (mono : ∀ s ∈ terms, ∀ t ∈ terms, compare s.1 t.1 = .lt → compare (φ s.1) (φ t.1) = .lt) :
    IsCanonical (terms.map (fun t => (φ t.1, t.2))) where
  ascending := by
    rw [List.pairwise_map]
    exact h.ascending.imp_of_mem fun hs ht below => mono _ hs _ ht below
  nonzero t ht := by
    obtain ⟨s, hs, rfl⟩ := List.mem_map.1 ht
    exact h.nonzero s hs

end Canonical

end Terms

end MathProg
