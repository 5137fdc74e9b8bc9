import MathProg.Proofs.ConstraintSet.Spelling
import MathProg.Proofs.Function.Canonical
import MathProg.Proofs.Model.Fit
import MathProg.Proofs.Model.Shape
import MathProg.Proofs.Representation.Accepted
import MathProg.Proofs.Representation.Functions

/-!
# Dimensions of constraints that are read

A constraint of a text fits if a number-valued function stands with a set of numbers, or a vector
with a set of vectors or matrices that has settled for its length. A list in a set of vectors is
checked like a list in a model, and refused for the same reason. What is not checked is the pairing
itself: a formula that is no list is let into any set, so a number may stand in a cone, and a list
with one entry is let into a set of numbers.
-/

namespace MathProg

open Fallible
open Formula (Tree)
open Text (splitLast?)

/-- Whether the function has numbers as values. -/
def Function.isScalar {K : Type} : Function K → Bool
  | .var _ => true
  | .affine _ => true
  | .quadratic _ => true
  | _ => false

/-- Whether the function and the set of an entry have the same dimension. -/
def Entry.Fits (e : Entry Number Float) : Prop :=
  (e.function.isScalar = true ∧ e.set.kind = .scalar) ∨
    e.function.isVector = true ∧ e.set.kind ≠ .scalar ∧
      ∃ d, e.set.dimension? = some d ∧ Numeral.isInt d e.function.dimension = true

/-! ## Functions -/

section Functions

variable {K : Type} [Zero K] [One K] [Add K] [Mul K] [Neg K] [BEq K]

omit [One K] [Mul K] [Neg K] in
theorem Formula.Polynomial.isScalar_toFunction (p : Formula.Polynomial K) :
    p.toFunction.isScalar = true := by
  rcases Function.canonicalQuadratic_cases (K := K) p.pairs p.linear p.constantTerm with
    ⟨f, shape⟩ | ⟨f, shape⟩
  · exact congrArg Function.isScalar shape
  · exact congrArg Function.isScalar shape

namespace Reader

theorem isScalar_scalarFunction [TextNumber K] {names : List String} {t : Tree} {f : Function K}
    (h : scalarFunction names t = .ok f) : f.isScalar = true := by
  unfold scalarFunction at h
  split at h
  next id =>
    obtain ⟨v, -, h⟩ := bind_eq_ok.1 h
    cases h
    rfl
  next =>
    obtain ⟨p, -, h⟩ := bind_eq_ok.1 h
    cases h
    exact p.isScalar_toFunction

omit [One K] [Add K] [Mul K] [Neg K] in
theorem isScalar_moveConstant {N : Type} [Numeral N K] {f g : Function K} {s t : ConstraintSet N}
    (scalar : f.isScalar = true) (h : moveConstant f s = .ok (g, t)) :
    g.isScalar = true ∧ t.kind = s.kind := by
  unfold moveConstant at h
  split at h
  next =>
    cases h
    exact ⟨scalar, rfl⟩
  next =>
    obtain ⟨moved, shifted, h⟩ := bind_eq_ok.1 h
    cases h
    refine ⟨?_, ConstraintSet.kind_shifted (mapError_eq_ok.1 shifted)⟩
    cases f with
    | var | affine | quadratic => rfl
    | number | vars | rows | nonlinear => cases scalar

end Reader

end Functions

theorem Reader.isVector_vectorFunction {names : List String} {items : List Tree}
    {f : Function Float} (h : vectorFunction names items = .ok f) :
    f.isVector = true ∧ f.dimension = items.length := by
  unfold vectorFunction at h
  split at h
  next ids found =>
    obtain ⟨vs, positions, h⟩ := bind_eq_ok.1 h
    cases h
    have named := (mapM_eq_some.1 found).length_eq
    have placed := (mapM_eq_ok.1 positions).length_eq
    exact ⟨rfl, by rw [Function.dimension, ← placed, named]⟩
  next =>
    obtain ⟨rows, read, h⟩ := bind_eq_ok.1 h
    cases h
    exact ⟨rfl, (mapM_eq_ok.1 read).length_eq.symm⟩

theorem Function.not_isScalar_of_isVector {f : Function Float} (h : f.isVector = true) :
    f.isScalar = false := by
  cases f with
  | vars | rows => rfl
  | number | var | affine | quadratic | nonlinear => cases h

/-! ## Sets -/

theorem ConstraintSet.kind_withDimension {s t : ConstraintSet Number} {n : Nat}
    (h : s.withDimension n = .ok t) : t.kind = s.kind := by
  by_cases scalar : s.kind = .scalar
  · rw [withDimension_scalar scalar] at h
    split at h <;> cases h
    rfl
  · exact (dimension?_withDimension scalar h).1

/-- Entries of the right number fit, and entries of another number are refused. -/
theorem ConstraintSet.fit_entries {s : ConstraintSet Number} (vector : s.kind ≠ .scalar)
    {es : List (Expression Number Float)} (entries : ∀ e ∈ es, e.isEntry) :
    s.fit (.list (es.map .expression)) =
      ((s.withDimension es.length).mapError .dimension).map (fun t => (.vector es, t)) := by
  have flat : s.flatEntries (.list (es.map .expression)) = .ok (es.map .expression) := by
    cases es with
    | nil => rfl
    | cons e es => rfl
  unfold fit
  split
  next scalar => exact absurd scalar vector
  next =>
    rw [flat]
    change ((es.map .expression).mapM Operand.vectorEntry >>= _) = _
    rw [Operand.mapM_vectorEntry entries]
    change ((s.withDimension es.length).mapError ModelError.dimension >>= _) = _
    cases s.withDimension es.length <;> rfl

/-! ## Entries -/

/-- How a constraint may be made: what is no list has numbers as values, whatever the set, and a list
has as many entries as the set has dimensions. -/
theorem Reader.Makes.shape {names : List String} {line : List Char} {f : Function Float}
    {s : ConstraintSet Number} (h : Makes names line f s) :
    f.isScalar = true ∨ f.isVector = true ∧ ∃ s' : ConstraintSet Number,
      s'.withDimension f.dimension = .ok s := by
  cases h with
  | display _ _ _ read sized =>
    exact .inr ⟨(isVector_vectorFunction read).1, _, sized⟩
  | member _ _ _ _ read moved =>
    exact .inl (isScalar_moveConstant (isScalar_scalarFunction read) moved).1
  | comparison _ _ _ _ _ read moved =>
    exact .inl (isScalar_moveConstant (isScalar_scalarFunction read) moved).1

/-- An entry fits unless a function of one kind stands with a set of the other. -/
theorem Entry.fits_iff {e : Entry Number Float} {names : List String} {line : List Char}
    (made : Reader.Makes names line e.function e.set) :
    e.Fits ↔ (e.function.isScalar = true ↔ e.set.kind = .scalar) := by
  -- The two kinds of function exclude each other, so each leaves one half of fitting.
  rcases made.shape with scalar | ⟨vector, s, sized⟩
  · have notVector : e.function.isVector ≠ true := fun vector => by
      rw [Function.not_isScalar_of_isVector vector] at scalar
      cases scalar
    simp [Fits, scalar, notVector]
  · have notScalar := Function.not_isScalar_of_isVector vector
    by_cases kind : e.set.kind = .scalar
    · simp [Fits, notScalar, kind]
    · have settled := (ConstraintSet.dimension?_withDimension
        (ConstraintSet.kind_withDimension sized ▸ kind) sized).2
      simp [Fits, notScalar, vector, kind, settled]

/-- A list in a set is checked against the length of the list. -/
theorem Reader.readConstraint_display {names : List String} {line left right : List Char}
    {items : List Tree} {s : ConstraintSet Number} {f : Function Float}
    (split : splitLast? " in ".toList line = some (left, right)) (set : readSet right = .ok s)
    (formula : readFormula left = .ok (.list items)) (read : vectorFunction names items = .ok f) :
    readConstraint names line =
      ((s.withDimension items.length).mapError .dimension).map (fun t => (f, t)) := by
  have length := (isVector_vectorFunction read).2
  unfold readConstraint
  rw [split]
  simp only [set, formula, read, bind, Except.bind, length]
  cases s.withDimension items.length <;> rfl

/-- Every accepted entry fits if its function and its set are of one kind, and only then. A vector in
a set of vectors is accepted or refused as a model accepts or refuses as many entries. -/
theorem read_dimensions (text : String) (names : List String) (line : List Char) :
    (∀ r : Representation Number Float, Representation.read text = .ok r →
      ∀ e ∈ r.constraints,
        (e.function.isScalar = true ∨ e.function.isVector = true) ∧
        (e.Fits ↔ (e.function.isScalar = true ↔ e.set.kind = .scalar)) ∧
        (e.function.isVector = true → e.set.kind = .scalar → e.function.dimension = 1)) ∧
    ∀ (left right : List Char) (items : List Tree) (s : ConstraintSet Number)
      (f : Function Float) (es : List (Expression Number Float)),
      splitLast? " in ".toList line = some (left, right) → Reader.readSet right = .ok s →
      Reader.readFormula left = .ok (.list items) → Reader.vectorFunction names items = .ok f →
      s.kind ≠ .scalar → es.length = items.length → (∀ e ∈ es, e.isEntry) →
      (∃ t, Reader.readConstraint names line = .ok (f, t) ∧
        s.fit (.list (es.map .expression)) = .ok (.vector es, t)) ∨
      ∃ why, Reader.readConstraint (N := Number) (K := Float) names line = .error (.dimension why) ∧
        s.fit (.list (es.map .expression)) = .error (.dimension why) := by
  constructor
  · intro r read e mem
    obtain ⟨_, _, made⟩ := Reader.makes_of_read read mem
    refine ⟨made.shape.imp_right And.left, Entry.fits_iff made, fun vector scalar => ?_⟩
    -- A vector has been a list, and a set of numbers lets in no list but one with one entry.
    rcases made.shape with number | ⟨-, s, sized⟩
    · rw [Function.not_isScalar_of_isVector vector] at number
      cases number
    · have kind : s.kind = .scalar := (ConstraintSet.kind_withDimension sized).symm.trans scalar
      rw [ConstraintSet.withDimension_scalar kind] at sized
      split at sized
      next one => exact Int.ofNat_inj.1 one
      next => cases sized
  · intro left right items s f es split set formula read vector count entries
    rw [Reader.readConstraint_display split set formula read,
      ConstraintSet.fit_entries vector entries, count]
    cases sized : s.withDimension items.length with
    | ok t => exact .inl ⟨t, rfl, rfl⟩
    | error why => exact .inr ⟨why, rfl, rfl⟩

section Mixed

open Reader

/-- `variables: x` and then `x in Zeros()`: a number in a cone whose dimension is left open. -/
def numberInCone : Representation Number Float :=
  { (Representation.empty : Representation Number Float) with
    variableNames := [some "x"]
    constraints := [⟨none, .var 0, .vector .zeros none⟩] }

theorem read_numberInCone :
    Representation.read "variables: x\nx in Zeros()" = .ok numberInCone := by
  have lines : Text.lines "variables: x\nx in Zeros()".toList =
      ["variables: x".toList, "x in Zeros()".toList] := by cbv
  have clean : cleanLine "variables: x".toList = "variables: x".toList := by cbv
  have clean' : cleanLine "x in Zeros()".toList = "x in Zeros()".toList := by cbv
  have name : readFormula "x".toList = .ok (.name "x") := by cbv
  have set : readSet "Zeros()".toList =
      (.ok (.vector .zeros none) : Except LineFault (ConstraintSet Number)) := by cbv
  have constraint : readConstraint ["x"] "x in Zeros()".toList =
      (.ok (.var 0, .vector .zeros none) :
        Except LineFault (Function Float × ConstraintSet Number)) := by
    have split : splitLast? " in ".toList "x in Zeros()".toList =
        some ("x".toList, "Zeros()".toList) := by rfl
    unfold readConstraint
    rw [split]
    simp only [set, name, bind, Except.bind]
    rw [show scalarFunction ["x"] (.name "x") = .ok (.var 0 : Function Float) from rfl]
    simp [moveConstant, ConstraintSet.isShiftable]
  let declared : State Number Float :=
    ⟨["x"], { Representation.empty with variableNames := [some "x"] }⟩
  have first : readLine ⟨[], .empty⟩ "variables: x".toList = .ok declared := rfl
  have second : readLine declared "x in Zeros()".toList = .ok ⟨["x"], numberInCone⟩ := by
    have whole : splitLabel "x in Zeros()".toList = (none, "x in Zeros()".toList) := by rfl
    have noKeyword : ∀ keyword ∈ ["variables", "minobjective", "maxobjective"],
        afterKeyword? keyword "x in Zeros()".toList = none := by decide
    unfold readLine
    simp only [noKeyword, List.mem_cons, true_or, or_true, whole, declared, constraint, bind,
      Except.bind]
    rfl
  unfold Representation.read
  rw [lines]
  simp only [List.zipIdx_cons, List.zipIdx_nil, List.foldlM_cons, List.foldlM_nil, clean, clean',
    first, second, Except.mapError, bind, Except.bind]
  rfl

theorem read_dimensions_mixed :
    (Representation.read "variables: x\nx in Zeros()" = .ok numberInCone ∧
      ∃ e ∈ numberInCone.constraints, ¬ e.Fits) ∧
    ∃ why : DimensionError,
      readConstraint (N := Number) (K := Float) ["x", "y"] "[x, y] in Zeros(dimension=3)".toList =
        .error (.dimension why) ∧
      ConstraintSet.fit (N := Number) (K := Float) (.vector .zeros (some (.integer 3)))
        (.list [.expression (.var ⟨0, 0⟩), .expression (.var ⟨0, 1⟩)]) =
          .error (.dimension why) := by
  constructor
  · refine ⟨read_numberInCone, ⟨none, .var 0, .vector .zeros none⟩, by simp [numberInCone], ?_⟩
    have entries := (read_dimensions _ [] []).1 _ read_numberInCone
    have pairing := (entries _ (List.mem_singleton_self _)).2.1
    rw [pairing]
    simp [Function.isScalar, ConstraintSet.kind]
  · let three : ConstraintSet Number := .vector .zeros (some (.integer 3))
    have spelled : Formula.text (three.lexemes.map Formula.Lexeme.named) =
        "Zeros(dimension=3)".toList := by decide
    have set := three.readSet_lexemes ⟨3, rfl⟩
      (by simp [three, ConstraintSet.numbers, Number.IsWritable])
    rw [spelled] at set
    have list : readFormula "[x, y]".toList = .ok (.list [.name "x", .name "y"]) := by cbv
    have vector : vectorFunction ["x", "y"] [.name "x", .name "y"] =
      (.ok (.vars [0, 1]) : Except LineFault (Function Float)) := rfl
    have split : splitLast? " in ".toList "[x, y] in Zeros(dimension=3)".toList =
        some ("[x, y]".toList, "Zeros(dimension=3)".toList) := by rfl
    have outcome := (read_dimensions "" ["x", "y"] _).2 _ _ _ _ _ [.var ⟨0, 0⟩, .var ⟨0, 1⟩] split
      set list vector (by simp [three, ConstraintSet.kind]) rfl (by simp [Expression.isEntry])
    rcases outcome with ⟨t, read, -⟩ | refused
    · rw [readConstraint_display split set list vector] at read
      cases read
    · exact refused

end Mixed

end MathProg
