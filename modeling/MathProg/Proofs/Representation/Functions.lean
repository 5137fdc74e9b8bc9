import MathProg.Proofs.Function.Monomials
import MathProg.Proofs.Representation.Names
import MathProg.Representation.Text

/-!
# Functions as lexemes

The text of a function is a row of lexemes, and what is read of it is the function with the constant
that was written.
-/

namespace MathProg

open Formula Text

/-- A sum as it is spelled. -/
def Quadratic.expansion (names : List (Option String)) (f : Quadratic Float) : Expansion :=
  Polynomial.expansion (variableLexeme names) f.monomials

/-- How one monomial is written. -/
def monomialText (names : List (Option String)) (t : Monomial × Float) : String :=
  String.ofList (text (Polynomial.summand (variableLexeme names) t).lexemes)

/-- The monomials with plus signs between them make the text of a sum. -/
theorem intercalate_monomialText {names : List (Option String)} {n : Nat} {f : Quadratic Float}
    (h : f.IsWritable n) : " + ".intercalate (f.monomials.map (monomialText names)) =
      String.ofList (text (f.expansion names).lexemes) := by
  rw [← String.toList_inj, String.toList_intercalate, List.map_map, String.toList_ofList,
    Quadratic.expansion, Polynomial.text_expansion (Quadratic.isWritten_monomials h).filled]
  simp [monomialText, Function.comp_def]

theorem constantText {names : List (Option String)} {c : Float} (positional : IsPositional c) :
    monomialText names (.one, c) = FloatText.shortest c := by
  rw [← String.toList_inj]
  simp [monomialText, Polynomial.summand, Polynomial.factors, Summand.lexemes,
    text_floatFactor positional]

/-- A variable that is declared. -/
def IsDeclared (n : Nat) (v : Int) : Prop :=
  0 ≤ v ∧ v < n

section Texts

variable {r : Representation Number Float} (naming : IsNaming r.variableNames)
include naming

theorem nameOf_displayNames {v : Int} (declared : IsDeclared r.variableNames.length v) :
    nameOf r.displayNames v =
      .ok (String.ofList (variableLexeme r.variableNames v.toNat).chars) := by
  obtain ⟨i, rfl⟩ := Int.eq_ofNat_of_zero_le declared.1
  have inside : i < r.variableNames.length := by exact_mod_cast declared.2
  have found := getElem?_displayNames naming inside
  simp only [nameOf, Position.get?_natCast, found, Int.toNat_natCast]

theorem termText_displayNames {v : Int} {c : Float}
    (declared : IsDeclared r.variableNames.length v) (positional : IsPositional c) :
    termText r.displayNames v c = .ok (monomialText r.variableNames (.linear v.toNat, c)) := by
  have name := nameOf_displayNames naming declared
  have joined : FloatText.shortest c ++ "*" ++
      String.ofList (variableLexeme r.variableNames v.toNat).chars =
        monomialText r.variableNames (.linear v.toNat, c) := by
    rw [← String.toList_inj]
    simp [monomialText, Polynomial.summand, Polynomial.factors, Summand.lexemes,
      text_floatFactor positional, Lexeme.chars]
  simp only [termText, name, bind, Except.bind, pure, Except.pure, joined]

/-- How a pair is written: a term and a second name. -/
theorem pairText_displayNames {p : VariablePair} {c : Float}
    (first : IsDeclared r.variableNames.length p.first)
    (second : IsDeclared r.variableNames.length p.second) (positional : IsPositional c) :
    (do
      let first ← termText r.displayNames p.first c
      return first ++ "*" ++ (← nameOf r.displayNames p.second)) =
      Except.ok (monomialText r.variableNames (.pair p, c)) := by
  have term := termText_displayNames naming first positional
  have name := nameOf_displayNames naming second
  have joined : monomialText r.variableNames (.linear p.first.toNat, c) ++ "*" ++
      String.ofList (variableLexeme r.variableNames p.second.toNat).chars =
        monomialText r.variableNames (.pair p, c) := by
    rw [← String.toList_inj]
    simp [monomialText, Polynomial.summand, Polynomial.factors, Summand.lexemes, Lexeme.chars]
  simp only [term, name, bind, Except.bind, pure, Except.pure, joined]

variable {f : Quadratic Float} (h : f.IsWritable r.variableNames.length)
include h

theorem terms_displayNames : f.terms.mapM (fun (v, c) => termText r.displayNames v c) =
    .ok (f.terms.map (fun t => monomialText r.variableNames (.linear t.1.toNat, t.2))) :=
  Fallible.mapM_ok fun t mem =>
    termText_displayNames naming (h.termsDeclared t mem) (h.termsPositional t mem)

theorem pairs_displayNames : f.pairs.mapM (fun (p, c) => do
      let first ← termText r.displayNames p.first c
      return first ++ "*" ++ (← nameOf r.displayNames p.second)) =
    .ok (f.pairs.map (fun t => monomialText r.variableNames (.pair t.1, t.2))) :=
  Fallible.mapM_ok fun t mem => by
    have ordered := h.ordered t mem
    obtain ⟨low, high⟩ := h.pairsDeclared t mem
    exact pairText_displayNames naming ⟨low, by omega⟩ ⟨by omega, high⟩ (h.pairsPositional t mem)

theorem Quadratic.text_displayNames (some : f.pairs ≠ []) :
    f.text r.displayNames = .ok (String.ofList (Formula.text (f.expansion r.variableNames).lexemes)) := by
  have shown : f.showsConstant = (f.constant != 0.0) := by simp [Quadratic.showsConstant, some]
  rw [← intercalate_monomialText h]
  simp only [Quadratic.text, pairs_displayNames naming h, terms_displayNames naming h]
  simp only [bind, Except.bind, pure, Except.pure, Quadratic.monomials, shown, List.map_append,
    List.map_map]
  split <;> simp [constantText h.constantPositional, Function.comp_def]

end Texts

section Affine

variable {r : Representation Number Float} (naming : IsNaming r.variableNames) {f : Affine Float}
  (h : f.toQuadratic.IsWritable r.variableNames.length)
include naming h

theorem Affine.text_displayNames : f.text r.displayNames =
    .ok (String.ofList (Formula.text (f.toQuadratic.expansion r.variableNames).lexemes)) := by
  have terms : f.terms.mapM (fun (v, c) => termText r.displayNames v c) =
      .ok (f.terms.map (fun t => monomialText r.variableNames (.linear t.1.toNat, t.2))) :=
    terms_displayNames naming h
  have constant : monomialText r.variableNames (.one, f.constant) =
      FloatText.shortest f.constant := constantText h.constantPositional
  rw [← intercalate_monomialText h]
  simp only [Affine.text, terms, bind, Except.bind, pure, Except.pure, Quadratic.monomials,
    Quadratic.showsConstant, Affine.toQuadratic, List.map_append, List.map_map, List.map_nil,
    List.nil_append, List.isEmpty_map, List.isEmpty_nil, Bool.true_and]
  split <;> simp [constant, Function.comp_def]

end Affine

/-! ## Functions -/

/-- A name alone. -/
def variableExpansion (names : List (Option String)) (v : Int) : Expansion :=
  ⟨⟨⟨false, variableLexeme names v.toNat⟩, []⟩, []⟩

namespace Function

/-- Canonical functions over `n` variables whose numbers are written without an exponent; a vector of
sums is not empty. -/
def IsWritable (n : Nat) : Function Float → Prop
  | .var v => IsDeclared n v
  | .affine f => f.toQuadratic.IsWritable n
  | .quadratic f => f.pairs ≠ [] ∧ f.IsWritable n
  | .vars vs => ∀ v ∈ vs, IsDeclared n v
  | .rows fs => fs ≠ [] ∧ ∀ f ∈ fs, f.toQuadratic.IsWritable n
  | _ => False

/-- The lexemes of a function. -/
def lexemes (names : List (Option String)) : Function Float → List Lexeme
  | .var v => (variableExpansion names v).lexemes
  | .affine f => (f.toQuadratic.expansion names).lexemes
  | .quadratic f => (f.expansion names).lexemes
  | .vars vs => listLexemes (vs.map (variableExpansion names))
  | .rows fs => listLexemes (fs.map (fun f => f.toQuadratic.expansion names))
  | _ => []

end Function

/-- Texts between brackets are a list of expansions. -/
theorem bracketed_eq {α : Type} (expansion : α → Expansion) (xs : List α) :
    bracketed (xs.map (fun x => String.ofList (text (expansion x).lexemes))) =
      String.ofList (text (listLexemes (xs.map expansion))) := by
  rw [← String.toList_inj, listLexemes]
  simp [bracketed, text_separated, Lexeme.chars, Function.comp_def]

/-- The text of a function is the text of its lexemes. -/
theorem Function.text_displayNames {r : Representation Number Float}
    (naming : IsNaming r.variableNames) {f : Function Float}
    (h : f.IsWritable r.variableNames.length) :
    f.text r.displayNames = .ok (String.ofList (Formula.text (f.lexemes r.variableNames))) := by
  have name : ∀ v, IsDeclared r.variableNames.length v → nameOf r.displayNames v =
      .ok (String.ofList (Formula.text (variableExpansion r.variableNames v).lexemes)) := by
    intro v declared
    rw [nameOf_displayNames naming declared]
    simp [variableExpansion, Expansion.lexemes, Summand.lexemes, Factor.lexemes]
  cases f with
  | number | nonlinear => exact h.elim
  | var v => exact name v h
  | affine f => exact Affine.text_displayNames naming h
  | quadratic f => exact Quadratic.text_displayNames naming h.2 h.1
  | vars vs =>
    have parts := Fallible.mapM_ok fun v mem => name v (h v mem)
    simp only [Function.text, argumentText, parts, bind, Except.bind, pure, Except.pure,
      bracketed_eq, lexemes]
  | rows fs =>
    have parts := Fallible.mapM_ok fun f mem => Affine.text_displayNames naming (h.2 f mem)
    simp only [Function.text, argumentText, parts, bind, Except.bind, pure, Except.pure,
      bracketed_eq (fun f : Affine Float => f.toQuadratic.expansion r.variableNames), lexemes]

/-! ## Reading -/

/-- Whether a tree is a number or an operation. -/
def Formula.Tree.isArithmetic : Tree → Bool
  | .number _ => true
  | .unary _ _ => true
  | .binary _ _ _ => true
  | _ => false

theorem isArithmetic_foldl {α : Type} (op : BinaryOp) (tree : α → Tree) (xs : List α) {t : Tree}
    (h : t.isArithmetic = true) :
    (xs.foldl (fun t x => .binary op t (tree x)) t).isArithmetic = true := by
  induction xs generalizing t with
  | nil => exact h
  | cons x xs ih => exact ih rfl

theorem isArithmetic_expansion (names : List (Option String)) (f : Quadratic Float) :
    (f.expansion names).tree.isArithmetic = true := by
  have number : ∀ x, (floatFactor x).tree.isArithmetic = true := by
    intro x
    unfold Factor.tree
    split
    · rfl
    · unfold floatFactor magnitudeLexeme
      split <;> split_ifs <;> rfl
  unfold Quadratic.expansion
  cases f.monomials with
  | nil => exact isArithmetic_foldl _ _ _ (isArithmetic_foldl _ _ _ (number 0))
  | cons t p => exact isArithmetic_foldl _ _ _ (isArithmetic_foldl _ _ _ (number t.2))

theorem name?_of_isArithmetic {t : Tree} (h : t.isArithmetic = true) : t.name? = none := by
  cases t <;> first | rfl | simp [Tree.isArithmetic] at h

theorem scalarFunction_of_isArithmetic {names : List String} {t : Tree} {p : Polynomial Float}
    (h : t.isArithmetic = true) (read : Polynomial.ofTree names t = .ok p) :
    Reader.scalarFunction names t = .ok p.toFunction := by
  have polynomial : Reader.polynomial names t = .ok p := by
    simp [Reader.polynomial, read, Except.mapError]
  cases t <;> simp [Tree.isArithmetic] at h <;>
    simp only [Reader.scalarFunction, polynomial, bind, Except.bind, pure, Except.pure]

variable {names : List (Option String)}

theorem isWritten_expansion (naming : IsNaming names) {f : Quadratic Float}
    (h : f.IsWritable names.length) : (f.expansion names).IsWritten :=
  Polynomial.isWritten_expansion (fun i _ => isOperand_variableLexeme naming i)
    (Quadratic.isWritten_monomials h).declared

theorem isWritten_variableExpansion (naming : IsNaming names) (v : Int) :
    (variableExpansion names v).IsWritten :=
  ⟨⟨isOperand_variableLexeme naming _, by simp [variableExpansion]⟩, by simp [variableExpansion]⟩

/-- A sum is read as its monomials. -/
theorem ofTree_sum_expansion (naming : IsNaming names) {f : Quadratic Float}
    (h : f.IsWritable names.length) :
    Polynomial.ofTree (readNames names) (f.expansion names).tree = .ok f.monomials :=
  Polynomial.ofTree_expansion (Quadratic.isWritten_monomials h)
    fun _ inside => ofTree_variable naming inside

theorem tree_variableExpansion {v : Int} (declared : IsDeclared names.length v) :
    (variableExpansion names v).tree = .name ((readNames names).getD v.toNat "") := by
  obtain ⟨low, high⟩ := declared
  exact getD_readNames_eq_leaf (by omega)

/-- The affine function as it is read. -/
def Affine.written (f : Affine Float) : Affine Float :=
  { f with constant := f.toQuadratic.written.constant }

namespace Function

/-- The function as it is read: a constant that is not written is zero. -/
def written : Function Float → Function Float
  | .affine f => .affine f.written
  | .quadratic f => .quadratic f.written
  | .rows fs => .rows (fs.map Affine.written)
  | f => f

/-- Whether the function is a vector. -/
def isVector : Function Float → Bool
  | .vars _ => true
  | .rows _ => true
  | _ => false

theorem toFunction_affine {n : Nat} {f : Affine Float} (h : f.toQuadratic.IsWritable n) :
    f.toQuadratic.monomials.toFunction = .affine f.written :=
  Quadratic.toFunction_monomials h

/-- A scalar function is read back. -/
theorem read_scalar (naming : IsNaming names) {f : Function Float}
    (h : f.IsWritable names.length) (scalar : f.isVector = false) :
    ∃ t, Reader.readFormula (Formula.text ((f.lexemes names).map Lexeme.named)) = .ok t ∧
      (∀ items, t ≠ .list items) ∧ Reader.scalarFunction (readNames names) t = .ok f.written := by
  have other : ∀ {t : Tree}, t.isArithmetic = true → ∀ items, t ≠ .list items := by
    rintro _ arithmetic items rfl
    simp [Tree.isArithmetic] at arithmetic
  cases f with
  | number | nonlinear => exact h.elim
  | vars | rows => simp [isVector] at scalar
  | var v =>
    refine ⟨_, Expansion.readFormula (isWritten_variableExpansion naming v), ?_, ?_⟩
    · rw [tree_variableExpansion h]
      simp
    · obtain ⟨low, high⟩ := h
      have position := readPosition_variable naming (i := v.toNat) (by omega)
      rw [tree_variableExpansion ⟨low, high⟩]
      simp only [Reader.scalarFunction, position, bind, Except.bind, pure, Except.pure, written,
        Int.toNat_of_nonneg low]
  | affine f =>
    have arithmetic := isArithmetic_expansion names f.toQuadratic
    have read := scalarFunction_of_isArithmetic arithmetic (ofTree_sum_expansion naming h)
    rw [toFunction_affine h] at read
    exact ⟨_, Expansion.readFormula (isWritten_expansion naming h), other arithmetic, read⟩
  | quadratic f =>
    have arithmetic := isArithmetic_expansion names f
    have read := scalarFunction_of_isArithmetic arithmetic (ofTree_sum_expansion naming h.2)
    rw [Quadratic.toFunction_monomials h.2, if_neg (by simpa using h.1)] at read
    exact ⟨_, Expansion.readFormula (isWritten_expansion naming h.2), other arithmetic, read⟩

/-- Written variables are read as names, and the names as the positions of the variables. -/
theorem read_variables (naming : IsNaming names) {vs : List Int}
    (declared : ∀ v ∈ vs, IsDeclared names.length v) :
    ∃ ids, ((vs.map (variableExpansion names)).map Expansion.tree).mapM Tree.name? = some ids ∧
      ids.mapM (Reader.readPosition (readNames names)) = .ok vs := by
  refine ⟨vs.map (fun v => (readNames names).getD v.toNat ""), ?_, ?_⟩
  · rw [Fallible.mapM_eq_some, List.forall₂_map_left_iff, List.forall₂_map_left_iff,
      List.forall₂_map_right_iff, List.forall₂_same]
    intro v mem
    rw [tree_variableExpansion (declared v mem)]
    rfl
  · rw [Fallible.mapM_eq_ok, List.forall₂_map_left_iff, List.forall₂_same]
    intro v mem
    obtain ⟨low, high⟩ := declared v mem
    have position := readPosition_variable naming (i := v.toNat) (by omega)
    rwa [Int.toNat_of_nonneg low] at position

/-- A vector is read back. -/
theorem read_vector (naming : IsNaming names) {f : Function Float}
    (h : f.IsWritable names.length) (vector : f.isVector = true) :
    ∃ items, Reader.readFormula (Formula.text ((f.lexemes names).map Lexeme.named)) =
        .ok (.list items) ∧
      Reader.vectorFunction (readNames names) items = .ok f.written := by
  cases f with
  | number | nonlinear | var | affine | quadratic => simp [isVector] at vector
  | vars vs =>
    refine ⟨_, readFormula_list ?_, ?_⟩
    · simp only [List.mem_map]
      rintro _ ⟨v, -, rfl⟩
      exact isWritten_variableExpansion naming v
    · obtain ⟨ids, named, positions⟩ := read_variables naming h
      simp only [Reader.vectorFunction, named, positions, bind, Except.bind, pure, Except.pure,
        written]
  | rows fs =>
    refine ⟨_, readFormula_list ?_, ?_⟩
    · simp only [List.mem_map]
      rintro _ ⟨f, mem, rfl⟩
      exact isWritten_expansion naming (h.2 f mem)
    · -- no row is a name alone, so the items are not taken for variables
      have unnamed : ((fs.map (fun f => f.toQuadratic.expansion names)).map
          Expansion.tree).mapM Tree.name? = none := by
        obtain ⟨f, fs, rfl⟩ := List.exists_cons_of_ne_nil h.1
        simp [name?_of_isArithmetic (isArithmetic_expansion names f.toQuadratic)]
      simp only [Reader.vectorFunction, unnamed, List.mapM_map]
      rw [Fallible.mapM_ok (g := Affine.written)]
      · rfl
      · intro f mem
        have read := ofTree_sum_expansion naming (h.2 f mem)
        simp only [Function.comp_apply, Reader.polynomial, read, Except.mapError, bind, Except.bind,
          toFunction_affine (h.2 f mem), pure, Except.pure]

end Function

end MathProg
