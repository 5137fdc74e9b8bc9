import MathProg.Proofs.Formula.Numbers

/-!
# Polynomials as expansions

The monomials of a polynomial are written one after the other, each as its coefficient and its
variables. What is read is the same polynomial: no monomial occurs twice, and a coefficient that is
not zero is not changed when it is added to zero or multiplied by one.
-/

namespace MathProg.Formula

open FloatLaws

/-- Variables at declared positions, the smaller one of a pair first. -/
def Monomial.Declared (n : Nat) : Monomial → Prop
  | one => True
  | linear v => v < n
  | pair p => 0 ≤ p.first ∧ p.first ≤ p.second ∧ p.second < n

namespace Polynomial

/-- A polynomial as it is written: a zero coefficient stands alone. -/
structure IsWritten (n : Nat) (p : Polynomial Float) : Prop where
  filled : p ≠ []
  distinct : (p.map Prod.fst).Nodup
  nonzero : ∀ t ∈ p, (t.2 != 0) = true ∨ p = [(.one, t.2)]
  positional : ∀ t ∈ p, IsPositional t.2
  declared : ∀ t ∈ p, t.1.Declared n

/-- The variables of a monomial. -/
def factors (lexeme : Nat → Lexeme) : Monomial → List Lexeme
  | .one => []
  | .linear v => [lexeme v]
  | .pair p => [lexeme p.first.toNat, lexeme p.second.toNat]

def summand (lexeme : Nat → Lexeme) (t : Monomial × Float) : Summand :=
  ⟨floatFactor t.2, factors lexeme t.1⟩

/-- The sum of the monomials; nothing is written as zero. -/
def expansion (lexeme : Nat → Lexeme) : Polynomial Float → Expansion
  | [] => ⟨summand lexeme (.one, 0), []⟩
  | t :: p => ⟨summand lexeme t, p.map (summand lexeme)⟩

variable {lexeme : Nat → Lexeme} {n : Nat} {p : Polynomial Float} {t : Monomial × Float}

theorem isOperand_factors (operands : ∀ i < n, (lexeme i).IsOperand) {m : Monomial}
    (declared : m.Declared n) : ∀ l ∈ factors lexeme m, l.IsOperand := by
  cases m with
  | one => simp [factors]
  | linear v => simpa [factors] using operands v declared
  | pair p =>
    obtain ⟨first, ordered, second⟩ := declared
    simpa [factors] using ⟨operands p.first.toNat (by omega), operands p.second.toNat (by omega)⟩

theorem isWritten_summand (operands : ∀ i < n, (lexeme i).IsOperand)
    (declared : t.1.Declared n) : (summand lexeme t).IsWritten :=
  ⟨isOperand_floatFactor t.2, isOperand_factors operands declared⟩

theorem isWritten_expansion (operands : ∀ i < n, (lexeme i).IsOperand)
    (declared : ∀ t ∈ p, t.1.Declared n) : (expansion lexeme p).IsWritten := by
  cases p with
  | nil => exact ⟨isWritten_summand operands trivial, by simp [expansion]⟩
  | cons t p =>
    refine ⟨isWritten_summand operands (declared t (by simp)), ?_⟩
    simp only [expansion, List.mem_map]
    rintro _ ⟨u, mem, rfl⟩
    exact isWritten_summand operands (declared u (List.mem_cons_of_mem _ mem))

/-! ## Reading -/

/-- A product of one monomial with a variable. -/
theorem mul?_ofVariable {m k : Monomial} {c : Float} {v : Nat} (nonzero : (c != 0) = true)
    (product : m.mul? (.linear v) = some k) :
    Polynomial.mul? [(m, c)] (ofVariable v) = some [(k, c)] := by
  have same : 0 + c * 1 = c := by rw [FloatLaws.mul_one, FloatLaws.zero_add nonzero]
  simp [mul?, ofVariable, product, Terms.add, same]

/-- The variables are read one after the other. -/
theorem ofTree_binary {names : List String} {left right : Tree} {p q r : Polynomial Float}
    (hp : ofTree names left = .ok p) (hq : ofTree names right = .ok q) (product : p.mul? q = some r) :
    ofTree names (.binary .mul left right) = .ok r := by
  simp [ofTree, hp, hq, product, bind, Except.bind, pure, Except.pure]

/-- A monomial is read back. -/
theorem ofTree_summand {names : List String}
    (reads : ∀ i < n, ofTree names (lexeme i).leaf = .ok (ofVariable i : Polynomial Float))
    (declared : t.1.Declared n) (finite : t.2.isFinite = true)
    (nonzero : (t.2 != 0) = true ∨ t.1 = .one) :
    ofTree names (summand lexeme t).tree = .ok [t] := by
  obtain ⟨m, c⟩ := t
  have number := ofTree_floatFactor names finite
  cases m with
  | one => exact number
  | linear v =>
    have nonzero := nonzero.resolve_right (by simp)
    exact ofTree_binary number (reads v declared) (mul?_ofVariable nonzero rfl)
  | pair p =>
    have nonzero := nonzero.resolve_right (by simp)
    obtain ⟨first, ordered, second⟩ := declared
    have pair : VariablePair.of p.first.toNat p.second.toNat = p := by
      rw [Int.toNat_of_nonneg first, Int.toNat_of_nonneg (by omega)]
      exact if_pos ordered
    refine ofTree_binary (ofTree_binary number (reads _ (by omega)) (mul?_ofVariable nonzero rfl))
      (reads _ (by omega)) (mul?_ofVariable nonzero ?_)
    rw [Monomial.mul?, pair]

/-- A new monomial goes to the end. -/
theorem add_single {p : Polynomial Float} (fresh : t.1 ∉ p.map Prod.fst)
    (nonzero : (t.2 != 0) = true) : Polynomial.add p [t] = p ++ [t] := by
  obtain ⟨m, c⟩ := t
  change Terms.add m c p = p ++ [(m, c)]
  induction p with
  | nil => simp [Terms.add, FloatLaws.zero_add nonzero]
  | cons u p ih =>
    obtain ⟨k, d⟩ := u
    simp only [List.map_cons, List.mem_cons, not_or] at fresh
    have other : (k == m) = false := beq_false_of_ne (Ne.symm fresh.1)
    simp only [Terms.add, other, Bool.false_eq_true, if_false, ih fresh.2, List.cons_append]

/-- A sum is read monomial by monomial. -/
theorem ofTree_sum {names : List String} {tree : Tree} {sum q : Polynomial Float}
    (first : ofTree names tree = .ok sum)
    (rest : ∀ t ∈ q, ofTree names (summand lexeme t).tree = .ok [t])
    (distinct : ((sum ++ q).map Prod.fst).Nodup) (nonzero : ∀ t ∈ q, (t.2 != 0) = true) :
    ofTree names ((q.map (summand lexeme)).foldl (fun t p => .binary .add t p.tree) tree) =
      .ok (sum ++ q) := by
  induction q generalizing tree sum with
  | nil => simpa using first
  | cons t q ih =>
    have fresh : t.1 ∉ sum.map Prod.fst := by
      rw [List.map_append, List.map_cons] at distinct
      exact fun mem => (List.nodup_append.1 distinct).2.2 _ mem _ (by simp) rfl
    have next : ofTree names (.binary .add tree (summand lexeme t).tree) = .ok (sum ++ [t]) := by
      have added := add_single fresh (nonzero t (by simp))
      simp [ofTree, first, rest t (by simp), added, bind, Except.bind, pure, Except.pure]
    have read := ih next (fun u mem => rest u (List.mem_cons_of_mem _ mem)) (by simpa using distinct)
      (fun u mem => nonzero u (List.mem_cons_of_mem _ mem))
    simpa using read

/-- What is written of a polynomial is read as the polynomial. -/
theorem ofTree_expansion {names : List String} (written : p.IsWritten n)
    (reads : ∀ i < n, ofTree names (lexeme i).leaf = .ok (ofVariable i : Polynomial Float)) :
    ofTree names (expansion lexeme p).tree = .ok p := by
  have single : ∀ t ∈ p, ofTree names (summand lexeme t).tree = .ok [t] := fun t mem => by
    refine ofTree_summand reads (written.declared t mem) (written.positional t mem).finite ?_
    refine (written.nonzero t mem).imp_right fun alone => ?_
    rw [alone, List.mem_singleton] at mem
    rw [mem]
  cases p with
  | nil => exact absurd rfl written.filled
  | cons t p =>
    refine ofTree_sum (single t (by simp)) (fun u mem => single u (List.mem_cons_of_mem _ mem))
      written.distinct fun u mem => ?_
    refine (written.nonzero u (List.mem_cons_of_mem _ mem)).resolve_right fun alone => ?_
    obtain ⟨-, rfl⟩ := List.cons.inj alone
    simp at mem

/-! ## Text -/

theorem text_expansion (filled : p ≠ []) :
    text (expansion lexeme p).lexemes =
      [' ', '+', ' '].intercalate (p.map (fun t => text (summand lexeme t).lexemes)) := by
  obtain ⟨t, p, rfl⟩ := List.exists_cons_of_ne_nil filled
  have tail : ∀ (w : List Char) (q : Polynomial Float), [' ', '+', ' '].intercalate
      (w :: q.map (fun t => text (summand lexeme t).lexemes)) =
        w ++ q.flatMap (fun t => ' ' :: '+' :: ' ' :: text (summand lexeme t).lexemes) := by
    intro w q
    induction q generalizing w with
    | nil => simp
    | cons u q ih =>
      rw [List.map_cons, List.intercalate_cons_cons, ih]
      simp
  rw [List.map_cons, tail]
  simp only [expansion, Expansion.lexemes, text, List.flatMap_append, List.flatMap_assoc,
    List.flatMap_map]
  rfl

end Polynomial

end MathProg.Formula
