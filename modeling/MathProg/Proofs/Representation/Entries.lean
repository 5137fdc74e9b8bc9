import MathProg.Proofs.ConstraintSet.Size
import MathProg.Proofs.Representation.Equality
import MathProg.Proofs.Representation.Lines

/-!
# Constraints as lines

A constraint is written with its label, its function and its set. Cleaned of placeholders its line is
cut into these three again, and the constraint that is read equals the one that was written.
-/

namespace MathProg

open Formula Text

/-! ## What can be written -/

/-- Whether a set goes with a function. A scalar function goes with float bounds that are written
without an exponent, its constant being zero if the set could take it; a vector goes with a set of
its own size, which for a matrix a negative side may have as well. -/
def ConstraintSet.Takes (s : ConstraintSet Number) (f : Function Float) : Prop :=
  match s with
  | .vector _ size => f.isVector = true ∧ size = some (.integer f.dimension)
  | .matrix layout size =>
    f.isVector = true ∧ ∃ side : Int, size = some (.integer side) ∧
      layout.sizeOf (.integer side : Number) = .integer f.dimension
  | s => f.isVector = false ∧ (s.isShiftable = true → (f.constantPart == 0) = true) ∧
    ∀ n ∈ s.numbers, ∃ x, n = .real x ∧ IsPositional x

/-- A constraint over `n` variables that can be given back. Its name is an identifier and no keyword
of a line. No vector is longer than the floats can count. -/
structure Entry.IsWritable (n : Nat) (e : Entry Number Float) : Prop where
  name : ∀ name, e.name = some name → isIdentifier name.toList = true ∧
    name ∉ ["variables", "minobjective", "maxobjective"]
  function : e.function.IsWritable n
  short : e.function.dimension ≤ 2 ^ 53
  takes : e.set.Takes e.function

/-! ## Sets of functions -/

namespace ConstraintSet

variable {s : ConstraintSet Number} {f : Function Float}

/-- From side three on, no side is larger than the number of entries. -/
theorem natAbs_le_of_sizeOf {layout : MatrixLayout} {side : Int} {n : Nat}
    (size : layout.sizeOf (.integer side : Number) = .integer n) : side.natAbs ≤ max 2 n := by
  by_contra! large
  cases layout with
  | triangle =>
    have count : side * (side + 1) / 2 = n := Number.integer.inj size
    have few : side * (side + 1) < (n + 1) * 2 := by omega
    -- a triangle of side `-k` has the entries of one of side `k - 1`
    rcases le_total 0 side with natural | negative
    · have : 3 ≤ side ∧ n + 1 ≤ side := by omega
      nlinarith
    · have : 3 ≤ -side ∧ n + 1 ≤ -side := by omega
      nlinarith
  | square =>
    have count : side * side = n := Number.integer.inj size
    have small := Int.natAbs_le_self_sq side
    rw [sq, count] at small
    omega

theorem Takes.isTyped (h : s.Takes f) : s.IsTyped := by
  have bounds : (∀ n ∈ s.numbers, ∃ x, n = .real x ∧ IsPositional x) →
      ∀ n ∈ s.numbers, ∃ x, n = .real x := fun each n mem =>
    ⟨_, (each n mem).choose_spec.1⟩
  cases s with
  | vector cone size => exact ⟨_, h.2⟩
  | matrix layout size =>
    obtain ⟨-, side, same, -⟩ := h
    exact ⟨side, same⟩
  | _ => exact bounds h.2.2

theorem Takes.isWritable (h : s.Takes f) (short : f.dimension ≤ 2 ^ 53) :
    ∀ n ∈ s.numbers, n.IsWritable := by
  have bounds : (∀ n ∈ s.numbers, ∃ x, n = .real x ∧ IsPositional x) →
      ∀ n ∈ s.numbers, n.IsWritable := by
    intro each n mem
    obtain ⟨x, rfl, positional⟩ := each n mem
    exact positional
  cases s with
  | vector cone size =>
    obtain ⟨-, rfl⟩ := h
    simpa [numbers, Number.IsWritable] using short
  | matrix layout size =>
    obtain ⟨-, side, rfl, size⟩ := h
    have := natAbs_le_of_sizeOf size
    simp only [numbers, Option.toList_some, List.mem_singleton, forall_eq, Number.IsWritable]
    omega
  | _ => exact bounds h.2.2

/-- A set that goes with a vector takes its size. -/
theorem Takes.withDimension_eq (h : s.Takes f) (vector : f.isVector = true) :
    s.withDimension f.dimension = .ok s := by
  cases s with
  | vector cone size =>
    obtain ⟨-, rfl⟩ := h
    rw [withDimension_of_some (by simp [kind]) rfl, if_pos (Number.isInt_integer_iff.2 rfl)]
  | matrix layout size =>
    obtain ⟨-, side, rfl, size⟩ := h
    have dimension : (matrix layout (some (.integer side)) : ConstraintSet Number).dimension?
        = some (.integer f.dimension) := congrArg some size
    rw [withDimension_of_some (by simp [kind]) dimension,
      if_pos (Number.isInt_integer_iff.2 rfl)]
  | _ => exact absurd vector (by simp [h.1])

/-- The constant of a scalar function is not moved. -/
theorem Takes.moveConstant_eq (h : s.Takes f) {g : Function Float}
    (same : (f.constantPart == 0) = true → (g.constantPart == 0) = true)
    (scalar : f.isVector = false) : Reader.moveConstant g s = .ok (g, s) := by
  have kept : (g.constantPart == 0 || !s.isShiftable) = true := by
    have zero : s.isShiftable = true → (f.constantPart == 0) = true := by
      cases s with
      | vector | matrix => exact absurd h.1 (by simp [scalar])
      | _ => exact h.2.1
    cases shiftable : s.isShiftable with
    | false => simp
    | true => simp [same (zero shiftable)]
  rw [Reader.moveConstant, if_pos kept]

end ConstraintSet

/-! ## Constants -/

namespace Quadratic

theorem written_constant_beq {n : Nat} {f : Quadratic Float} (h : f.IsWritable n) :
    (f.constant == f.written.constant) = true := by
  unfold written
  cases shown : f.showsConstant with
  | true => exact FloatLaws.beq_self h.constantPositional.finite
  | false =>
    unfold showsConstant at shown
    simp only [Bool.or_eq_false_iff, bne, Bool.not_eq_false'] at shown
    exact shown.1

end Quadratic

namespace Function

variable {n : Nat} {f : Function Float}

theorem dimension_written (f : Function Float) : f.written.dimension = f.dimension := by
  cases f <;> simp [written, dimension]

/-- What is read equals what was written. -/
theorem beq_written (h : f.IsWritable n) : (f == f.written) = true := by
  have terms : ∀ {α : Type} [BEq α] [ReflBEq α] {ts : List (α × Float)},
      (∀ t ∈ ts, IsPositional t.2) → (ts == ts) = true := fun positional =>
    list_beq_self fun t mem => by
      change (t.1 == t.1 && t.2 == t.2) = true
      rw [BEq.rfl, FloatLaws.beq_self (positional t mem).finite]
      rfl
  have affine : ∀ {f : Affine Float}, f.toQuadratic.IsWritable n →
      (f == f.written) = true := fun {f} h => by
    change (f.toQuadratic.terms == f.toQuadratic.terms &&
      f.toQuadratic.constant == f.toQuadratic.written.constant) = true
    rw [terms h.termsPositional]
    exact Quadratic.written_constant_beq h
  cases f with
  | number | nonlinear => exact h.elim
  | var v => exact beq_self_eq_true v
  | affine f => exact affine h
  | quadratic f =>
    change (f.pairs == f.pairs && f.terms == f.terms &&
      f.constant == f.written.constant) = true
    rw [terms h.2.pairsPositional, terms h.2.termsPositional]
    exact Quadratic.written_constant_beq h.2
  | vars vs => exact beq_self_eq_true vs
  | rows fs =>
    change (fs == fs.map Affine.written) = true
    have each := h.2
    clear h
    induction fs with
    | nil => rfl
    | cons f fs ih =>
      rw [List.map_cons, List.cons_beq_cons, affine (each f (by simp)),
        ih fun g mem => each g (List.mem_cons_of_mem _ mem)]
      rfl

theorem constantPart_written (h : f.IsWritable n) (zero : (f.constantPart == 0) = true) :
    (f.written.constantPart == 0) = true := by
  have kept : ∀ {g : Quadratic Float}, g.IsWritable n → (g.constant == 0) = true →
      (g.written.constant == 0) = true := fun h zero => by
    rw [← beq_congr_left (Quadratic.written_constant_beq h)]
    exact zero
  cases f with
  | affine f => exact kept h zero
  | quadratic f => exact kept h.2 zero
  | _ => exact zero

end Function

/-! ## Entries -/

/-- The label of a constraint with its colon. -/
def Entry.label (e : Entry Number Float) : List Char :=
  match e.name with
  | some name => name.toList ++ [':', ' ']
  | none => []

/-- What stands behind the label, placeholders being names. -/
def Entry.body (names : List (Option String)) (e : Entry Number Float) : List Char :=
  Formula.text ((e.function.lexemes names).map Lexeme.named) ++
    separator ++ Formula.text e.set.lexemes

/-- The line of a constraint. -/
def Entry.line (names : List (Option String)) (e : Entry Number Float) : List Char :=
  e.label ++ (Formula.text (e.function.lexemes names) ++ separator ++ Formula.text e.set.lexemes)

/-- The entry as it is read. -/
def Entry.written (e : Entry Number Float) : Entry Number Float :=
  { e with function := e.function.written }

theorem afterKeyword?_eq_none {keyword : String} {w s : List Char} (free : ':' ∉ keyword.toList)
    (other : w ≠ keyword.toList) (absent : ':' ∉ w) :
    Reader.afterKeyword? keyword (w ++ ':' :: s) = none := by
  have cut : ∀ {v t : List Char}, ':' ∉ v → (v ++ ':' :: t).takeWhile (· != ':') = v :=
    fun {v t} none => takeWhile_append_of_stop
      (fun c mem => by simpa using fun same : c = ':' => none (same ▸ mem)) (by simp)
  unfold Reader.afterKeyword?
  simp only [ite_eq_right_iff, reduceCtorEq, imp_false]
  intro mark
  obtain ⟨rest, same⟩ := List.isPrefixOf_iff_prefix.1 mark
  rw [List.append_assoc, List.singleton_append] at same
  have start := congrArg (List.takeWhile (· != ':')) same
  rw [cut free, cut absent] at start
  exact other start.symm

theorem afterKeyword?_eq_none_of_notMem {keyword : String} {s : List Char} (absent : ':' ∉ s) :
    Reader.afterKeyword? keyword s = none := by
  unfold Reader.afterKeyword?
  simp only [ite_eq_right_iff, reduceCtorEq, imp_false]
  intro mark
  obtain ⟨rest, rfl⟩ := List.isPrefixOf_iff_prefix.1 mark
  simp at absent

theorem afterKeyword?_append (keyword : String) (s : List Char) :
    Reader.afterKeyword? keyword (keyword.toList ++ ':' :: s) = some s := by
  have same : keyword.toList ++ ':' :: s = (keyword.toList ++ [':']) ++ s := by simp
  have mark : (keyword.toList ++ [':']).isPrefixOf ((keyword.toList ++ [':']) ++ s) = true :=
    List.isPrefixOf_iff_prefix.2 ⟨s, rfl⟩
  simp only [Reader.afterKeyword?, same, mark, List.drop_left, if_true]

/-- Without a colon there is no label. -/
theorem splitLabel_eq_of_notMem {s : List Char} (absent : ':' ∉ s) :
    Reader.splitLabel s = (none, s) := by
  unfold Reader.splitLabel
  split
  next rest same =>
    have mem : ':' ∈ (s.dropWhile isWord).dropWhile isBlank := by simp [same]
    exact absurd ((List.dropWhile_sublist _).subset ((List.dropWhile_sublist _).subset mem)) absent
  next => rfl

/-- A label is split off. -/
theorem splitLabel_label {w s : List Char} (name : isIdentifier w = true) (filled : s ≠ [])
    (first : ∀ c ∈ s.head?, isBlank c = false) :
    Reader.splitLabel (w ++ ':' :: ' ' :: s) = (some (String.ofList w), s) := by
  have words : ∀ c ∈ w, isWord c = true := fun c mem =>
    isWord_of_name (isNameCharacter_of_isIdentifier name c mem)
  have stop : ∀ c ∈ (':' :: ' ' :: s).head?, isWord c = false := by
    simp only [List.head?_cons, Option.mem_some_iff, forall_eq']
    decide
  have colon : isBlank ':' = false := by decide
  have blank : isBlank ' ' = true := by decide
  have body : s.dropWhile isBlank = s := stripLeft_eq_self first
  have letter : w.head?.any Juxtaposition.isNameLetter = true := by
    cases w with
    | nil => exact absurd name (by simp [isIdentifier])
    | cons c w => simpa using (Bool.and_eq_true_iff.1 name).1
  simp [Reader.splitLabel, takeWhile_append_of_stop words stop,
    dropWhile_append_of_stop words stop, colon, blank, body, letter, filled]

section Entries

/-- No name of a set starts like the word before it. -/
theorem SetFamily.head_name (family : SetFamily) :
    ∃ c w, family.name.toList = c :: w ∧ c ≠ 'i' := by
  cases family with
  | vector cone => cases cone <;> exact ⟨_, _, rfl, by decide⟩
  | matrix layout => cases layout <;> exact ⟨_, _, rfl, by decide⟩
  | _ => exact ⟨_, _, rfl, by decide⟩

variable {names : List (Option String)} {e : Entry Number Float}

theorem Entry.body_ne_nil (e : Entry Number Float) : e.body names ≠ [] := by
  simp [body, separator]

/-- Neither a comment nor a label is found in the text of a constraint. -/
theorem Entry.isPlain_body (naming : IsNaming names) (h : e.IsWritable names.length) :
    ∀ c ∈ e.body names, isPlain c = true := by
  have function := (Function.isPhrase_lexemes naming h.function).named
  have set := ConstraintSet.isPhrase_lexemes (h.takes.isWritable h.short)
  have blank : ∀ c ∈ separator, isPlain c = true := forall_mem_of_all (by decide)
  simp only [body, List.mem_append]
  rintro c ((mem | mem) | mem)
  · exact function.plain c mem
  · exact blank c mem
  · exact set.plain c mem

theorem Entry.noColon_body (naming : IsNaming names) (h : e.IsWritable names.length) :
    ':' ∉ e.body names := fun mem =>
  absurd (isPlain_body naming h _ mem) (by decide)

theorem Entry.head_body (naming : IsNaming names) (h : e.IsWritable names.length) :
    ∀ c ∈ (e.body names).head?, isBlank c = false := by
  have function := (Function.isPhrase_lexemes naming h.function).named
  intro c mem
  rw [body, List.append_assoc, List.head?_append_of_ne_nil _ function.text_ne_nil] at mem
  exact function.head_notBlank c mem

/-- The text of a constraint without its placeholders. -/
theorem Entry.namePlaceholders_body (naming : IsNaming names) (h : e.IsWritable names.length) :
    Reader.namePlaceholders (Formula.text (e.function.lexemes names) ++ separator ++
      Formula.text e.set.lexemes) = e.body names := by
  have function := Function.isPhrase_lexemes naming h.function
  have set := ConstraintSet.isPhrase_lexemes (h.takes.isWritable h.short)
  have last : Reader.namePlaceholders (Formula.text e.set.lexemes) =
      Formula.text e.set.lexemes := by
    have empty : Reader.namePlaceholders [] = [] := by rw [Reader.namePlaceholders]
    have named := namePlaceholders_text set.spaced (s := []) (by simp)
    rwa [e.set.map_named_lexemes, empty, List.append_nil] at named
  have middle : Reader.namePlaceholders (separator ++ Formula.text e.set.lexemes) =
      separator ++ Formula.text e.set.lexemes := by
    simp [separator, namePlaceholders_cons, last]
  rw [List.append_assoc, namePlaceholders_text function.spaced (by simp [separator]), middle, body,
    List.append_assoc]

/-- A constraint is written without outer blanks and without a mark of a comment. -/
theorem Entry.isTrimmed_line (naming : IsNaming names) (h : e.IsWritable names.length) :
    IsTrimmed (e.line names) := by
  have function := Function.isPhrase_lexemes naming h.function
  have set := ConstraintSet.isPhrase_lexemes (h.takes.isWritable h.short)
  have blank : ∀ c ∈ separator, isPlain c = true := forall_mem_of_all (by decide)
  have rest : ∀ c ∈ Formula.text (e.function.lexemes names) ++ separator ++
      Formula.text e.set.lexemes, isPlain c = true := by
    simp only [List.mem_append]
    rintro c ((mem | mem) | mem)
    · exact function.plain c mem
    · exact blank c mem
    · exact set.plain c mem
  have last : ∀ c ∈ (e.line names).getLast?, isBlank c = false := by
    intro c mem
    rw [line, ← List.append_assoc, List.getLast?_append_of_ne_nil _ set.text_ne_nil] at mem
    exact set.last_notBlank c mem
  -- the line starts with its label, if it has one
  cases named : e.name with
  | none =>
    have label : e.label = [] := by simp only [Entry.label, named]
    refine ⟨fun c mem => ?_, last, fun c mem => .inl ?_⟩
    · rw [line, label, List.nil_append, List.append_assoc,
        List.head?_append_of_ne_nil _ function.text_ne_nil] at mem
      exact function.head_notBlank c mem
    · rw [line, label] at mem
      exact rest c mem
  | some name =>
    have letters := isNameCharacter_of_isIdentifier (h.name name named).1
    have filled := ne_nil_of_isIdentifier (h.name name named).1
    have label : e.label = name.toList ++ [':', ' '] := by simp only [Entry.label, named]
    refine ⟨fun c mem => ?_, last, fun c mem => ?_⟩
    · rw [line, label, List.append_assoc, List.head?_append_of_ne_nil _ filled] at mem
      exact isBlank_of_name (letters c (List.mem_of_mem_head? mem))
    · rw [line, label, List.mem_append, List.mem_append] at mem
      rcases mem with (mem | mem) | mem
      · exact .inl (isPlain_of_name (letters c mem))
      · exact (forall_mem_of_all (by decide) : ∀ c ∈ [':', ' '], isPlain c = true ∨ c = ':') c mem
      · exact .inl (rest c mem)

/-- What is left of the line of a constraint. -/
theorem Entry.cleanLine_line (naming : IsNaming names) (h : e.IsWritable names.length) :
    Reader.cleanLine (e.line names) = e.label ++ e.body names := by
  have body := namePlaceholders_body naming h
  rw [(isTrimmed_line naming h).cleanLine_eq, line]
  cases named : e.name with
  | none =>
    have label : e.label = [] := by simp only [Entry.label, named]
    rw [label, List.nil_append, body, List.nil_append]
  | some name =>
    have letters := isNameCharacter_of_isIdentifier (h.name name named).1
    have label : e.label = name.toList ++ [':', ' '] := by simp only [Entry.label, named]
    rw [label, List.append_assoc, List.append_assoc,
      namePlaceholders_append (fun c mem => ne_bracket_of_name (letters c mem)) (by simp)]
    rw [List.append_assoc] at body
    simp [namePlaceholders_cons, body]

theorem Entry.line_ne_nil (e : Entry Number Float) : e.line names ≠ [] := by
  simp [line, separator]

/-- A constraint is read back. -/
theorem Entry.readConstraint_body (naming : IsNaming names) (h : e.IsWritable names.length) :
    Reader.readConstraint (readNames names) (e.body names) =
      .ok (e.function.written, e.set) := by
  have writable := h.takes.isWritable h.short
  have set : Reader.readSet (Formula.text e.set.lexemes) = .ok e.set := by
    have read := ConstraintSet.readSet_lexemes h.takes.isTyped writable
    rwa [e.set.map_named_lexemes] at read
  have last : splitLast? separator (['i', 'n', ' '] ++ Formula.text e.set.lexemes) = none := by
    refine splitLast?_append_eq_none (w := ['i', 'n']) (s := ' ' :: Formula.text e.set.lexemes)
      (by decide) (splitLast?_cons_eq_none ?_ (e.set.splitLast?_lexemes writable))
    obtain ⟨c, w, same, other⟩ := e.set.family.head_name
    simp [ConstraintSet.lexemes, callLexemes, Lexeme.chars, same, List.isPrefixOf, other.symm]
  have split : splitLast? " in ".toList (e.body names) =
      some (Formula.text ((e.function.lexemes names).map Lexeme.named),
        Formula.text e.set.lexemes) := by
    rw [body, List.append_assoc]
    exact splitLast?_append _ last
  have constant := Function.constantPart_written h.function
  simp only [Reader.readConstraint, split, set, bind, Except.bind]
  cases vector : e.function.isVector with
  | false =>
    obtain ⟨t, formula, scalar, read⟩ := Function.read_scalar naming h.function vector
    have moved := h.takes.moveConstant_eq constant vector
    rw [formula]
    cases t with
    | list items => exact absurd rfl (scalar items)
    | _ => simp only [read, moved]
  | true =>
    obtain ⟨items, formula, read⟩ := Function.read_vector naming h.function vector
    have sized := h.takes.withDimension_eq vector
    rw [← Function.dimension_written] at sized
    simp only [formula, read, sized, Except.mapError, pure, Except.pure]

end Entries

end MathProg
