import MathProg.ConstraintSet.Call
import MathProg.Proofs.Fallible
import MathProg.Proofs.Formula.Numbers

/-!
# Sets as lexemes

The text of a set is a call with named arguments, and what is read of it is the set.
-/

namespace MathProg

open Formula Text

/-- A number alone. -/
def numberExpansion (f : Factor) : Expansion :=
  ⟨⟨f, []⟩, []⟩

def numberFactor : Number → Factor
  | .real x => floatFactor x
  | .integer n => integerFactor n

/-- A number that is given back: a float whose text has no exponent, or an integer that a float
holds. -/
def Number.IsWritable : Number → Prop
  | real x => IsPositional x
  | integer n => n.natAbs ≤ 2 ^ 53

theorem text_numberFactor {n : Number} (h : n.IsWritable) :
    text (numberFactor n).lexemes = n.text.toList := by
  cases n with
  | real x => exact text_floatFactor h
  | integer n => exact text_integerFactor n

theorem isOperand_numberFactor {n : Number} (h : n.IsWritable) :
    (numberFactor n).value.IsOperand := by
  cases n with
  | real x => exact isOperand_floatFactor x
  | integer n => exact isOperand_integerFactor h

theorem isWritten_numberExpansion {n : Number} (h : n.IsWritable) :
    (numberExpansion (numberFactor n)).IsWritten :=
  ⟨⟨isOperand_numberFactor h, by simp [numberExpansion]⟩, by simp [numberExpansion]⟩

namespace SetFamily

theorem ofName?_name (family : SetFamily) : ofName? family.name = some family := by
  cases family with
  | vector cone => cases cone <;> rfl
  | matrix layout => cases layout <;> rfl
  | _ => rfl

theorem isName_name (family : SetFamily) : IsName family.name.toList := by
  have known : ∀ family ∈ all, isIdentifier family.name.toList = true ∧
      isKeyword (String.ofList family.name.toList) = false := by decide
  refine known family ?_
  cases family with
  | vector cone => cases cone <;> decide
  | matrix layout => cases layout <;> decide
  | _ => decide

theorem isName_field (family : SetFamily) : ∀ field ∈ family.fields, IsName field.toList := by
  have known : ∀ field ∈ ["upper", "lower", "value", "dimension", "side"],
      isIdentifier field.toList = true ∧ isKeyword (String.ofList field.toList) = false := by decide
  have fields : ∀ field ∈ family.fields, field ∈ ["upper", "lower", "value", "dimension", "side"] :=
    by cases family <;> simp [fields]
  exact fun field mem => known field (fields field mem)

end SetFamily

namespace ConstraintSet

/-- The numbers of a set, in the order of `SetFamily.fields`. -/
def numbers : ConstraintSet Number → List Number
  | .lessThan upper => [upper]
  | .greaterThan lower => [lower]
  | .equalTo value => [value]
  | .interval lower upper => [lower, upper]
  | .integer => []
  | .zeroOne => []
  | .vector _ dimension => dimension.toList
  | .matrix _ side => side.toList

/-- Whether a size is an integer and a bound is a float. -/
def IsTyped : ConstraintSet Number → Prop
  | .vector _ dimension => ∃ n, dimension = some (.integer n)
  | .matrix _ side => ∃ n, side = some (.integer n)
  | s => ∀ n ∈ s.numbers, ∃ x, n = .real x

/-- The arguments of a set with their names. -/
def namedArguments (s : ConstraintSet Number) : List (List Char × Expansion) :=
  List.zipWith (fun field n => (field.toList, numberExpansion (numberFactor n))) s.family.fields
    s.numbers

def lexemes (s : ConstraintSet Number) : List Lexeme :=
  callLexemes s.family.name.toList s.namedArguments

variable {s : ConstraintSet Number}

/-- Arguments by name are written as lexemes. -/
theorem map_zipWith_arguments (fields : List String) {numbers : List Number}
    (h : ∀ n ∈ numbers, n.IsWritable) :
    (List.zipWith (fun field value => field ++ "=" ++ value) fields
        (numbers.map Number.text)).map String.toList =
      (List.zipWith (fun field n => (field.toList, numberExpansion (numberFactor n))) fields
        numbers).map (fun a => Formula.text (argumentLexemes a)) := by
  induction fields generalizing numbers with
  | nil => rfl
  | cons field fields ih =>
    cases numbers with
    | nil => rfl
    | cons n numbers =>
      have rest := ih fun m mem => h m (List.mem_cons_of_mem _ mem)
      have value := text_numberFactor (h n (by simp))
      simp only [List.map_cons, List.zipWith_cons_cons, rest]
      simp [argumentLexemes, numberExpansion, Expansion.lexemes, Summand.lexemes, value,
        Lexeme.chars]

theorem text_lexemes (typed : s.IsTyped) (h : ∀ n ∈ s.numbers, n.IsWritable) :
    s.text = String.ofList (Formula.text s.lexemes) := by
  have texts : s.arguments = s.numbers.map Number.text := by
    cases s with
    | vector cone dimension =>
      obtain ⟨n, rfl⟩ := typed
      rfl
    | matrix layout side =>
      obtain ⟨n, rfl⟩ := typed
      rfl
    | _ => rfl
  rw [← String.toList_inj, ConstraintSet.text, texts]
  simp [map_zipWith_arguments _ h, lexemes, namedArguments, callLexemes, text_separated,
    Lexeme.chars]

theorem mem_namedArguments (h : ∀ n ∈ s.numbers, n.IsWritable) :
    ∀ a ∈ s.namedArguments, IsName a.1 ∧ a.2.IsWritten := by
  intro a mem
  rw [namedArguments, ← List.map_uncurry_zip_eq_zipWith] at mem
  obtain ⟨⟨field, n⟩, pair, rfl⟩ := List.mem_map.1 mem
  obtain ⟨known, number⟩ := List.of_mem_zip pair
  exact ⟨s.family.isName_field field known, isWritten_numberExpansion (h n number)⟩

/-- A number is read as what it becomes in a set. -/
theorem constantValue_number {n : Number} (h : n.IsWritable) :
    ∃ x : Float, Reader.constantValue (numberExpansion (numberFactor n)).tree = .ok x ∧
      (∀ y, n = .real y → x = y) ∧ ∀ k, n = .integer k → TextNumber.truncate x = .ok k := by
  have constant : ∀ {t : Tree} {x : Float}, Polynomial.ofTree [] t = .ok (Polynomial.constant x) →
      Reader.constantValue t = .ok x := by
    intro t x read
    simp only [Reader.constantValue, Reader.polynomial, read, Except.mapError, bind, Except.bind,
      pure, Except.pure]
    rfl
  cases n with
  | real y => exact ⟨y, constant (ofTree_floatFactor [] h.finite), by simp, by simp⟩
  | integer k =>
    obtain ⟨x, read, back⟩ := ofTree_integerFactor [] h
    exact ⟨x, constant read, by simp, fun _ same => (Number.integer.inj same) ▸ back⟩

/-- A bound is taken as it is. -/
theorem ofCall_scalar {family : SetFamily} (scalar : family.isScalar = true)
    {named : List (Option String × Float)}
    (found : family.ofCall? [] (named.map (fun a => (a.1, Number.real a.2))) = some s) :
    ofCall family.name [] named = .ok s := by
  have converted : named.mapM (fun a => (do
      let value ← Except.ok (Numeral.ofCoefficient a.2)
      pure (a.1, value) : Except SetCallError (Option String × Number))) =
        .ok (named.map (fun a => (a.1, Number.real a.2))) :=
    Fallible.mapM_ok fun a _ => rfl
  simp only [ofCall, SetFamily.ofName?_name, scalar, if_true, List.mapM_nil, converted]
  simp only [bind, Except.bind, pure, Except.pure, found]

/-- A size is truncated. -/
theorem ofCall_size {family : SetFamily} (sized : family.isScalar = false) {field : String}
    {x : Float} {k : Int} (back : TextNumber.truncate x = .ok k)
    (found : family.ofCall? [] [(some field, Number.integer k)] = some s) :
    ofCall family.name [] [(some field, x)] = .ok s := by
  have integer : (Numeral.ofInt k : Number) = .integer k := rfl
  simp only [ofCall, SetFamily.ofName?_name, sized, Bool.false_eq_true, if_false, List.mapM_nil,
    List.mapM_cons, back, Except.mapError, bind, Except.bind, pure, Except.pure, integer, found]

/-- A set is read back. -/
theorem readSet_lexemes (typed : s.IsTyped) (h : ∀ n ∈ s.numbers, n.IsWritable) :
    Reader.readSet (Formula.text (s.lexemes.map Lexeme.named)) = .ok s := by
  have read := readFormula_call s.family.isName_name (fun a mem => (mem_namedArguments h a mem).1)
    (fun a mem => (mem_namedArguments h a mem).2)
  rw [String.ofList_toList] at read
  have known : (SetFamily.ofName? s.family.name).isNone = false := by
    rw [SetFamily.ofName?_name]
    rfl
  have float : ∀ n ∈ s.numbers, (∃ x, n = .real x) → ∃ x, n = .real x ∧
      Reader.constantValue (numberExpansion (numberFactor n)).tree = .ok x := by
    rintro _ mem ⟨x, rfl⟩
    obtain ⟨y, value, same, -⟩ := constantValue_number (h (.real x) mem)
    obtain rfl := same x rfl
    exact ⟨y, rfl, value⟩
  have size : ∀ k, .integer k ∈ s.numbers → ∃ x : Float, Reader.constantValue
      (numberExpansion (numberFactor (.integer k))).tree = .ok x ∧ TextNumber.truncate x = .ok k := by
    intro k mem
    obtain ⟨x, value, -, back⟩ := constantValue_number (h (.integer k) mem)
    exact ⟨x, value, back k rfl⟩
  -- what is read are the arguments, which make the set again
  have finish : ∀ {l : List (Option String × Float)},
      (s.namedArguments.map (fun a => (some (String.ofList a.1), a.2.tree))).mapM
        (fun a => do return (a.1, ← Reader.constantValue a.2)) = .ok l →
      ofCall s.family.name [] l = .ok s →
      Reader.readSet (Formula.text (s.lexemes.map Lexeme.named)) = .ok s := by
    intro l values made
    simp only [Reader.readSet, lexemes, read, bind, Except.bind, known, Bool.false_eq_true,
      if_false, List.mapM_nil, pure, Except.pure] at values ⊢
    rw [values]
    simp only [made, Except.mapError]
  cases s with
  | lessThan upper =>
    obtain ⟨x, rfl, value⟩ := float upper (by simp [numbers]) (typed upper (by simp [numbers]))
    refine finish (l := [(some "upper", x)]) ?_ (ofCall_scalar rfl rfl)
    simp [namedArguments, numbers, family, SetFamily.fields, value]
  | greaterThan lower =>
    obtain ⟨x, rfl, value⟩ := float lower (by simp [numbers]) (typed lower (by simp [numbers]))
    refine finish (l := [(some "lower", x)]) ?_ (ofCall_scalar rfl rfl)
    simp [namedArguments, numbers, family, SetFamily.fields, value]
  | equalTo bound =>
    obtain ⟨x, rfl, value⟩ := float bound (by simp [numbers]) (typed bound (by simp [numbers]))
    refine finish (l := [(some "value", x)]) ?_ (ofCall_scalar rfl rfl)
    simp [namedArguments, numbers, family, SetFamily.fields, value]
  | interval lower upper =>
    obtain ⟨x, rfl, low⟩ := float lower (by simp [numbers]) (typed lower (by simp [numbers]))
    obtain ⟨y, rfl, high⟩ := float upper (by simp [numbers]) (typed upper (by simp [numbers]))
    refine finish (l := [(some "lower", x), (some "upper", y)]) ?_ (ofCall_scalar rfl rfl)
    simp [namedArguments, numbers, family, SetFamily.fields, low, high]
    rfl
  | integer => exact finish (l := []) rfl (ofCall_scalar rfl rfl)
  | zeroOne => exact finish (l := []) rfl (ofCall_scalar rfl rfl)
  | vector cone dimension =>
    obtain ⟨k, rfl⟩ := typed
    obtain ⟨x, value, back⟩ := size k (by simp [numbers])
    refine finish (l := [(some "dimension", x)]) ?_ (ofCall_size rfl back rfl)
    simp [namedArguments, numbers, family, SetFamily.fields, value]
  | matrix layout side =>
    obtain ⟨k, rfl⟩ := typed
    obtain ⟨x, value, back⟩ := size k (by simp [numbers])
    refine finish (l := [(some "side", x)]) ?_ (ofCall_size rfl back rfl)
    simp [namedArguments, numbers, family, SetFamily.fields, value]

end ConstraintSet

end MathProg
