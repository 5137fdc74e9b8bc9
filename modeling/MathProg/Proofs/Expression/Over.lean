import MathProg.Proofs.Expression.Weigh

/-!
# Variables of sums and products

Arithmetic brings in no variables: what holds of the variables of both operands holds of those of
the result.
-/

namespace MathProg

variable {K : Type} [CommRing K] {P : VariableRef → Prop}

namespace LinearExpr

/-- Whether all variables have a property. -/
def Over (P : VariableRef → Prop) (e : LinearExpr K) : Prop :=
  ∀ v ∈ e.terms.map Prod.fst, P v

variable {e f : LinearExpr K}

omit [CommRing K] in
theorem over_ofConstant (c : K) : (ofConstant c).Over P := by
  simp [Over, ofConstant]

theorem over_ofVariable {v : VariableRef} (h : P v) : (ofVariable v : LinearExpr K).Over P := by
  simpa [Over, ofVariable] using h

theorem over_ofTerms {terms : List (VariableRef × K)} (c : K)
    (h : ∀ v ∈ terms.map Prod.fst, P v) : (ofTerms terms c).Over P := by
  intro v hv
  rcases Terms.mem_keys_addAll.1 hv with hv | hv
  · simp at hv
  · exact h v hv

theorem Over.copy (h : e.Over P) : e.copy.Over P :=
  over_ofTerms _ h

theorem Over.addConstant (h : e.Over P) (c : K) : (e.addConstant c).Over P :=
  over_ofTerms _ h

theorem Over.neg (h : e.Over P) : e.neg.Over P := by
  refine over_ofTerms _ ?_
  rw [Terms.keys_mapCoefficients]
  exact h

theorem Over.scale (h : e.Over P) (k : K) : (e.scale k).Over P := by
  refine over_ofTerms _ ?_
  rw [Terms.keys_mapCoefficients]
  exact h

theorem Over.add (h : e.Over P) (h' : f.Over P) : (e.add f).Over P := by
  intro v hv
  rcases Terms.mem_keys_addAll.1 hv with hv | hv
  · exact over_ofTerms 0 h v hv
  · exact h' v hv

theorem Over.sub (h : e.Over P) (h' : f.Over P) : (e.sub f).Over P :=
  h.add h'.copy.neg

end LinearExpr

namespace QuadraticExpr

/-- Whether all variables have a property. -/
structure Over (P : VariableRef → Prop) (e : QuadraticExpr K) : Prop where
  pairs : ∀ p ∈ e.pairs.map Prod.fst, P p.first ∧ P p.second
  linear : e.linear.Over P

variable {e f : QuadraticExpr K} {g : LinearExpr K}

theorem over_ofPairs {pairs : List (ReferencePair × K)}
    (h : ∀ p ∈ pairs.map Prod.fst, P p.first ∧ P p.second) (h' : g.Over P) :
    (ofPairs pairs g).Over P := by
  refine ⟨fun p hp => ?_, h'.copy⟩
  rcases Terms.mem_keys_addAll.1 hp with hp | hp
  · simp at hp
  · exact h p hp

theorem over_ofLinear (h : g.Over P) : (ofLinear g).Over P :=
  ⟨by simp [ofLinear], h.copy⟩

theorem Over.copy (h : e.Over P) : e.copy.Over P :=
  over_ofPairs h.pairs h.linear

theorem Over.addLinear (h : e.Over P) (h' : g.Over P) : (e.addLinear g).Over P :=
  over_ofPairs h.pairs (h.linear.add h')

theorem Over.addConstant (h : e.Over P) (c : K) : (e.addConstant c).Over P :=
  over_ofPairs h.pairs (h.linear.addConstant c)

theorem Over.scale (h : e.Over P) (k : K) : (e.scale k).Over P := by
  refine over_ofPairs ?_ (h.linear.scale k)
  rw [Terms.keys_mapCoefficients]
  exact h.pairs

theorem Over.neg (h : e.Over P) : e.neg.Over P :=
  h.scale (-1)

theorem Over.add (h : e.Over P) (h' : f.Over P) : (e.add f).Over P := by
  refine ⟨fun p hp => ?_, (h.linear.add h'.linear).copy⟩
  rcases Terms.mem_keys_addAll.1 hp with hp | hp
  · exact h.copy.pairs p hp
  · exact h'.pairs p hp

theorem Over.sub (h : e.Over P) (h' : f.Over P) : (e.sub f).Over P :=
  h.add h'.copy.neg

end QuadraticExpr

namespace LinearExpr

variable {e f : LinearExpr K}

/-- The pairs of a product come from its factors. -/
theorem mem_keys_mulTerms {p : ReferencePair} (h : p ∈ (e.mulTerms f).map Prod.fst) :
    ∃ v ∈ e.terms.map Prod.fst, ∃ x ∈ f.terms.map Prod.fst, p = .of v x := by
  have inner (v : VariableRef) (c : K) (terms : List (VariableRef × K))
      (sum : List (ReferencePair × K))
      (h : p ∈ (terms.foldl (fun sum t => Terms.add (.of v t.1) (c * t.2) sum) sum).map Prod.fst) :
      p ∈ sum.map Prod.fst ∨ ∃ x ∈ terms.map Prod.fst, p = .of v x := by
    induction terms generalizing sum with
    | nil => exact .inl h
    | cons t terms ih =>
      rcases ih _ h with h | ⟨x, hx, same⟩
      · rcases Terms.mem_keys_add.1 h with same | h
        · exact .inr ⟨t.1, by simp, same⟩
        · exact .inl h
      · exact .inr ⟨x, List.mem_cons_of_mem _ hx, same⟩
  have outer (terms : List (VariableRef × K)) (sum : List (ReferencePair × K))
      (h : p ∈ (terms.foldl (fun sum s =>
        f.terms.foldl (fun sum t => Terms.add (.of s.1 t.1) (s.2 * t.2) sum) sum) sum).map Prod.fst) :
      p ∈ sum.map Prod.fst ∨
        ∃ v ∈ terms.map Prod.fst, ∃ x ∈ f.terms.map Prod.fst, p = .of v x := by
    induction terms generalizing sum with
    | nil => exact .inl h
    | cons t terms ih =>
      rcases ih _ h with h | ⟨v, hv, found⟩
      · rcases inner t.1 t.2 f.terms sum h with h | ⟨x, hx, same⟩
        · exact .inl h
        · exact .inr ⟨t.1, by simp, x, hx, same⟩
      · exact .inr ⟨v, List.mem_cons_of_mem _ hv, found⟩
  rcases outer e.terms [] h with h | found
  · simp at h
  · exact found

theorem Over.mul (h : e.Over P) (h' : f.Over P) : (e.mul f).Over P := by
  refine ⟨fun p hp => ?_, fun v hv => ?_⟩
  · obtain ⟨v, hv, x, hx, rfl⟩ := mem_keys_mulTerms hp
    unfold ReferencePair.of
    split
    · exact ⟨h v hv, h' x hx⟩
    · exact ⟨h' x hx, h v hv⟩
  · simp only [LinearExpr.mul, Terms.mem_keys_addAll, Terms.keys_mapCoefficients, List.map_nil,
      List.not_mem_nil, false_or] at hv
    rcases hv with hv | hv
    · exact h' v hv
    · exact h v hv

end LinearExpr

omit [CommRing K] in
/-- What holds of all occurring variables holds of those of the parts. -/
theorem Expression.over_of_occurrences {N : Type} {e : QuadraticExpr K}
    (h : ∀ v ∈ (quadratic e : Expression N K).occurrences, P v) : e.Over P where
  pairs p hp := by
    obtain ⟨t, ht, rfl⟩ := List.mem_map.1 hp
    have inside : ∀ v ∈ [t.1.first, t.1.second], P v := fun v hv =>
      h v (List.mem_append_left _ (List.mem_flatMap.2 ⟨t, ht, hv⟩))
    exact ⟨inside _ (by simp), inside _ (by simp)⟩
  linear v hv := h v (List.mem_append_right _ hv)

end MathProg
