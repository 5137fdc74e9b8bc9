import MathProg.Proofs.Representation.Entries

/-!
# Reading what was written

The text of a representation is read back: the same variables, sense and constraints in the same
order, and the same objective. Only the sign of a zero constant may be lost, which makes no
difference.
-/

namespace MathProg

open Formula Text

/-- Whether a function is affine or quadratic. -/
def Function.isSum : Function Float → Bool
  | .affine _ => true
  | .quadratic _ => true
  | _ => false

/-- A representation that can be given back. The number of its variables has no more digits than an
integer may have. -/
structure Representation.IsWritable (r : Representation Number Float) : Prop where
  naming : IsNaming r.variableNames
  few : (Nat.toDigits 10 r.variableNames.length).length ≤ 4300
  objective : r.sense ≠ .feasibility →
    r.objective.isSum = true ∧ r.objective.IsWritable r.variableNames.length
  noObjective : r.sense = .feasibility → r.objective = .affine .zero
  constraints : ∀ e ∈ r.constraints, e.IsWritable r.variableNames.length

/-! ## Lines that are read -/

section Lines

variable {names : List (Option String)}

/-- The state of reading once the variables are declared. -/
def declaredState (names : List (Option String)) (r : Representation Number Float) :
    Reader.State Number Float :=
  ⟨readNames names, r⟩

/-- A constraint is read and put behind the others. -/
theorem readLine_entry (naming : IsNaming names) {e : Entry Number Float}
    (h : e.IsWritable names.length) (r : Representation Number Float) :
    Reader.readLine (declaredState names r) (Reader.cleanLine (e.line names)) =
      .ok (declaredState names { r with constraints := r.constraints ++ [e.written] }) := by
  have absent := e.noColon_body naming h
  have read := e.readConstraint_body naming h
  -- a keyword is found neither in the label nor in the rest
  have noKeyword : ∀ keyword ∈ ["variables", "minobjective", "maxobjective"],
      Reader.afterKeyword? keyword (e.label ++ e.body names) = none := by
    intro keyword mem
    cases named : e.name with
    | none =>
      have label : e.label = [] := by simp only [Entry.label, named]
      rw [label]
      exact afterKeyword?_eq_none_of_notMem absent
    | some name =>
      obtain ⟨identifier, other⟩ := h.name name named
      have label : e.label = name.toList ++ [':', ' '] := by simp only [Entry.label, named]
      have free : ':' ∉ keyword.toList :=
        (by decide : ∀ k ∈ ["variables", "minobjective", "maxobjective"], ':' ∉ k.toList) _ mem
      rw [label, List.append_assoc]
      refine afterKeyword?_eq_none free (fun same => other ?_) fun colon => ?_
      · rw [String.toList_inj.1 same]
        exact mem
      · exact absurd (isNameCharacter_of_isIdentifier identifier _ colon) (by decide)
  have split : Reader.splitLabel (e.label ++ e.body names) = (e.name, e.body names) := by
    cases named : e.name with
    | none =>
      have label : e.label = [] := by simp only [Entry.label, named]
      rw [label]
      exact splitLabel_eq_of_notMem absent
    | some name =>
      have label : e.label = name.toList ++ [':', ' '] := by simp only [Entry.label, named]
      rw [label, List.append_assoc]
      simpa using splitLabel_label (h.name name named).1 e.body_ne_nil (e.head_body naming h)
  have filled : (e.label ++ e.body names).isEmpty = false := by
    simpa using fun _ => e.body_ne_nil
  have noVariables := noKeyword "variables" (by simp)
  have noMinimum := noKeyword "minobjective" (by simp)
  have noMaximum := noKeyword "maxobjective" (by simp)
  rw [e.cleanLine_line naming h]
  simp only [Reader.readLine, filled, Bool.false_eq_true, if_false, noVariables, noMinimum,
    noMaximum, split, declaredState, read, bind, Except.bind, pure, Except.pure]
  rfl

/-- A keyword with the lexemes behind its colon. -/
def headedLine (keyword : String) (ls : List Lexeme) : List Char :=
  keyword.toList ++ ':' :: ' ' :: Formula.text ls

section Headed

variable {keyword : String} {ls : List Lexeme}

theorem isTrimmed_headedLine (word : isIdentifier keyword.toList = true) (h : IsPhrase ls) :
    IsTrimmed (headedLine keyword ls) := by
  have letters := isNameCharacter_of_isIdentifier word
  have filled := ne_nil_of_isIdentifier word
  refine ⟨fun c mem => ?_, fun c mem => ?_, fun c mem => ?_⟩
  · rw [headedLine, List.head?_append_of_ne_nil _ filled] at mem
    exact isBlank_of_name (letters c (List.mem_of_mem_head? mem))
  · have same : headedLine keyword ls = (keyword.toList ++ [':', ' ']) ++ Formula.text ls := by
      simp [headedLine]
    rw [same, List.getLast?_append_of_ne_nil _ h.text_ne_nil] at mem
    exact h.last_notBlank c mem
  · simp only [headedLine, List.mem_append, List.mem_cons] at mem
    rcases mem with mem | rfl | rfl | mem
    · exact .inl (isPlain_of_name (letters c mem))
    · exact .inr rfl
    · exact .inl (by decide)
    · exact .inl (h.plain c mem)

theorem cleanLine_headedLine (word : isIdentifier keyword.toList = true) (h : IsPhrase ls) :
    Reader.cleanLine (headedLine keyword ls) =
      keyword.toList ++ ':' :: ' ' :: Formula.text (ls.map Lexeme.named) := by
  have letters := isNameCharacter_of_isIdentifier word
  have empty : Reader.namePlaceholders [] = [] := by rw [Reader.namePlaceholders]
  have text := namePlaceholders_text h.spaced (s := []) (by simp)
  rw [empty, List.append_nil, List.append_nil] at text
  rw [(isTrimmed_headedLine word h).cleanLine_eq, headedLine,
    namePlaceholders_append (fun c mem => ne_bracket_of_name (letters c mem)) (by simp)]
  simp [namePlaceholders_cons, text]

end Headed

/-- The variables between commas. -/
def variableLexemes (names : List (Option String)) : List Lexeme :=
  separated (fun i => [variableLexeme names i]) (List.range names.length)

theorem isPhrase_variableLexemes (naming : IsNaming names) (some : names ≠ []) :
    IsPhrase (variableLexemes names) := by
  have operand := isOperand_variableLexeme naming
  have spaced : Spaced (variableLexemes names ++ []) :=
    spaced_separated (fun i _ _ next rest => (operand i).spaced next rest) (by simp) .nil
  have positions : List.range names.length ≠ [] := by simpa using some
  obtain ⟨i, is, same⟩ := List.exists_cons_of_ne_nil positions
  have first : variableLexemes names = variableLexeme names i ::
      is.flatMap (fun i => [.comma, variableLexeme names i]) := by
    rw [variableLexemes, same]
    rfl
  refine ⟨by simpa using spaced, by simp [first], ?_, ?_⟩
  · simpa [first] using (operand i).isTight
  · rcases List.eq_nil_or_concat is with rfl | ⟨init, j, rfl⟩
    · simpa [first] using (operand i).isTight
    · have last : variableLexemes names = (variableLexeme names i ::
          init.flatMap (fun i => [.comma, variableLexeme names i]) ++ [.comma]) ++
            [variableLexeme names j] := by
        simp [first]
      rw [last, List.getLast?_concat]
      simpa using (operand j).isTight

/-- What is left of a declaration. -/
theorem cleanLine_variables (naming : IsNaming names) :
    Reader.cleanLine (headedLine "variables" (variableLexemes names)) =
      "variables".toList ++ ':' :: declaration (writtenNames names) := by
  by_cases none : names = []
  · subst none
    have trimmed : strip ((headedLine "variables" []).takeWhile (fun c => c != '#')) =
        "variables:".toList := by decide
    have empty : Reader.namePlaceholders [] = [] := by rw [Reader.namePlaceholders]
    have kept := namePlaceholders_append (w := "variables:".toList) (s := [])
      (forall_mem_of_all (by decide)) (by simp)
    rw [empty, List.append_nil] at kept
    change Reader.namePlaceholders (strip ((headedLine "variables" []).takeWhile _)) = _
    rw [trimmed, kept]
    rfl
  · have some : (writtenNames names).isEmpty = false := by simpa [writtenNames] using none
    rw [cleanLine_headedLine (by decide) (isPhrase_variableLexemes naming none), declaration, some,
      if_neg (by decide)]
    have names' : (variableLexemes names).map Lexeme.named =
        separated (fun i => [(variableLexeme names i).named]) (List.range names.length) := by
      unfold variableLexemes
      cases List.range names.length with
      | nil => rfl
      | cons i is => simp [separated, List.map_flatMap, Lexeme.named]
    rw [names', text_separated]
    simp [writtenNames]

/-- The variables are declared. -/
theorem readLine_variables (naming : IsNaming names)
    (few : (Nat.toDigits 10 names.length).length ≤ 4300)
    (state : Reader.State Number Float) :
    Reader.readLine state (Reader.cleanLine (headedLine "variables" (variableLexemes names))) =
      .ok (declaredState names { state.representation with variableNames := names }) := by
  have filled : ("variables".toList ++ ':' :: declaration (writtenNames names)).isEmpty = false := by
    simp
  rw [cleanLine_variables naming]
  simp only [Reader.readLine, filled, Bool.false_eq_true, if_false, afterKeyword?_append,
    readVariables_declaration naming few, declaredState]

/-- The polynomial of an objective is read back. -/
theorem polynomial_objective (naming : IsNaming names) {f : Function Float} (sum : f.isSum = true)
    (h : f.IsWritable names.length) :
    ∃ t p, Reader.readFormula (' ' :: Formula.text ((f.lexemes names).map Lexeme.named)) = .ok t ∧
      Reader.polynomial (readNames names) t = .ok p ∧ p.toFunction = f.written := by
  have blank : ∀ s, Reader.readFormula (' ' :: s) = Reader.readFormula s := fun s => by
    rw [Reader.readFormula, strip_cons (by decide), Reader.readFormula]
  cases f with
  | affine f =>
    have read := ofTree_sum_expansion naming h
    exact ⟨_, _, (blank _).trans (Expansion.readFormula (isWritten_expansion naming h)),
      by rw [Reader.polynomial, read]; rfl, Function.toFunction_affine h⟩
  | quadratic f =>
    have read := ofTree_sum_expansion naming h.2
    refine ⟨_, _, (blank _).trans (Expansion.readFormula (isWritten_expansion naming h.2)),
      by rw [Reader.polynomial, read]; rfl, ?_⟩
    rw [Quadratic.toFunction_monomials h.2, if_neg (by simpa using h.1)]
    rfl
  | _ => cases sum

/-- An objective is read with its sense. -/
theorem readLine_objective (naming : IsNaming names) {f : Function Float} (sum : f.isSum = true)
    (h : f.IsWritable names.length) (r : Representation Number Float) :
    Reader.readLine (declaredState names r)
        (Reader.cleanLine (headedLine "minobjective" (f.lexemes names))) =
      .ok (declaredState names { r with sense := .minimize, objective := f.written }) ∧
    Reader.readLine (declaredState names r)
        (Reader.cleanLine (headedLine "maxobjective" (f.lexemes names))) =
      .ok (declaredState names { r with sense := .maximize, objective := f.written }) := by
  have phrase := Function.isPhrase_lexemes naming h
  obtain ⟨t, p, formula, polynomial, function⟩ := polynomial_objective naming sum h
  have filled : ∀ (keyword : String) (s : List Char),
      (keyword.toList ++ ':' :: s).isEmpty = false := by simp
  -- a keyword is not mistaken for one that is looked for earlier
  have noVariables : ∀ keyword ∈ ["minobjective", "maxobjective"], ∀ s,
      Reader.afterKeyword? "variables" (keyword.toList ++ ':' :: s) = none := by
    intro keyword mem s
    have apart := (by decide : ∀ k ∈ ["minobjective", "maxobjective"],
      k.toList ≠ "variables".toList ∧ ':' ∉ k.toList) keyword mem
    exact afterKeyword?_eq_none (by decide) apart.1 apart.2
  have noMinimum : ∀ s, Reader.afterKeyword? "minobjective"
      ("maxobjective".toList ++ ':' :: s) = none := fun s =>
    afterKeyword?_eq_none (by decide) (by decide) (by decide)
  constructor
  · rw [cleanLine_headedLine (by decide) phrase]
    simp only [Reader.readLine, filled, Bool.false_eq_true, if_false,
      noVariables "minobjective" (by simp), afterKeyword?_append, Reader.readObjective,
      declaredState, formula, polynomial, function, bind, Except.bind, pure, Except.pure]
  · rw [cleanLine_headedLine (by decide) phrase]
    simp only [Reader.readLine, filled, Bool.false_eq_true, if_false,
      noVariables "maxobjective" (by simp), noMinimum, afterKeyword?_append, Reader.readObjective,
      declaredState, formula, polynomial, function, bind, Except.bind, pure, Except.pure]

end Lines

/-! ## Whole representations -/

namespace Representation

variable {r : Representation Number Float}

/-- The representation as it is read. -/
def written (r : Representation Number Float) : Representation Number Float :=
  { r with objective := r.objective.written, constraints := r.constraints.map Entry.written }

/-- The line of the objective, if there is one. -/
def objectiveRows (r : Representation Number Float) : List (List Char) :=
  match r.sense with
  | .minimize => [headedLine "minobjective" (r.objective.lexemes r.variableNames)]
  | .maximize => [headedLine "maxobjective" (r.objective.lexemes r.variableNames)]
  | .feasibility => []

/-- The lines of the text. -/
def rows (r : Representation Number Float) : List (List Char) :=
  headedLine "variables" (variableLexemes r.variableNames) ::
    (r.objectiveRows ++ r.constraints.map (Entry.line r.variableNames))

theorem displayNames_eq (naming : IsNaming r.variableNames) : r.displayNames =
    (List.range r.variableNames.length).map
      (fun i => String.ofList (variableLexeme r.variableNames i).chars) := by
  refine List.ext_getElem? fun i => ?_
  by_cases inside : i < r.variableNames.length
  · rw [getElem?_displayNames naming inside]
    simp [inside]
  · have outside : r.displayNames.length ≤ i := by
      simpa [displayNames] using Nat.le_of_not_lt inside
    rw [List.getElem?_eq_none outside, List.getElem?_eq_none (by simpa using inside)]

theorem objectiveLines_eq (h : r.IsWritable) :
    r.objectiveLines = .ok (r.objectiveRows.map String.ofList) := by
  have text : r.sense ≠ .feasibility → r.objective.text r.displayNames =
      .ok (String.ofList (Formula.text (r.objective.lexemes r.variableNames))) := fun some =>
    Function.text_displayNames h.naming (h.objective some).2
  have joined : ∀ keyword : String, ∀ ls, keyword ++ ": " ++ String.ofList (Formula.text ls) =
      String.ofList (headedLine keyword ls) := fun keyword ls => by
    rw [← String.toList_inj]
    simp [headedLine]
  unfold objectiveLines objectiveRows
  cases sense : r.sense with
  | minimize =>
    rw [text (by simp [sense])]
    exact congrArg Except.ok (congrArg (fun line => [line]) (joined "minobjective" _))
  | maximize =>
    rw [text (by simp [sense])]
    exact congrArg Except.ok (congrArg (fun line => [line]) (joined "maxobjective" _))
  | feasibility => rfl

theorem text_entry (naming : IsNaming r.variableNames) {e : Entry Number Float}
    (h : e.IsWritable r.variableNames.length) :
    e.text r.displayNames = .ok (String.ofList (e.line r.variableNames)) := by
  have function := Function.text_displayNames naming h.function
  have set := ConstraintSet.text_lexemes h.takes.isTyped (h.takes.isWritable h.short)
  simp only [Entry.text, function, set, bind, Except.bind, pure, Except.pure]
  refine congrArg Except.ok ?_
  rw [← String.toList_inj]
  cases named : e.name with
  | none => simp [Entry.line, Entry.label, named, separator]
  | some name =>
    have filled : name ≠ "" := by
      rintro rfl
      exact ne_nil_of_isIdentifier (h.name "" named).1 rfl
    simp [Entry.line, Entry.label, named, filled, separator]

/-- The text consists of the lines. -/
theorem text_eq (h : r.IsWritable) :
    r.text = .ok (String.ofList (['\n'].intercalate r.rows)) := by
  have objective := objectiveLines_eq h
  have constraints := Fallible.mapM_ok fun e mem => text_entry h.naming (h.constraints e mem)
  have declared : "variables: " ++ ", ".intercalate r.displayNames =
      String.ofList (headedLine "variables" (variableLexemes r.variableNames)) := by
    rw [← String.toList_inj, displayNames_eq h.naming]
    simp [headedLine, variableLexemes, text_separated, Function.comp_def]
  simp only [text, objective, constraints, declared, bind, Except.bind, pure, Except.pure]
  refine congrArg Except.ok ?_
  rw [← String.toList_inj]
  simp [rows, Function.comp_def]

/-- The text comes apart into its lines. -/
theorem lines_rows (h : r.IsWritable) : Text.lines (['\n'].intercalate r.rows) = r.rows := by
  have objective : r.sense ≠ .feasibility → ∀ keyword : String,
      isIdentifier keyword.toList = true →
      IsTrimmed (headedLine keyword (r.objective.lexemes r.variableNames)) := fun some _ word =>
    isTrimmed_headedLine word (Function.isPhrase_lexemes h.naming (h.objective some).2)
  have headed : ∀ keyword ls, headedLine keyword ls ≠ [] := by simp [headedLine]
  have variables' : ∀ c ∈ headedLine "variables" (variableLexemes r.variableNames),
      isLineBreak c = false := by
    by_cases none : r.variableNames = []
    · rw [none]
      exact forall_mem_of_all (by decide)
    · exact (isTrimmed_headedLine (by decide) (isPhrase_variableLexemes h.naming none)).noBreak
  have each : ∀ w ∈ r.objectiveRows, w ≠ [] ∧ ∀ c ∈ w, isLineBreak c = false := by
    unfold objectiveRows
    cases sense : r.sense with
    | minimize => simpa [headed] using (objective (by simp [sense]) "minobjective" (by decide)).noBreak
    | maximize => simpa [headed] using (objective (by simp [sense]) "maxobjective" (by decide)).noBreak
    | feasibility => simp
  refine lines_intercalate (fun w mem => ?_) (fun w mem => ?_)
  · rcases List.mem_cons.1 mem with rfl | mem
    · exact headed _ _
    rcases List.mem_append.1 mem with mem | mem
    · exact (each w mem).1
    · obtain ⟨e, -, rfl⟩ := List.mem_map.1 mem
      exact e.line_ne_nil
  · rcases List.mem_cons.1 mem with rfl | mem
    · exact variables'
    rcases List.mem_append.1 mem with mem | mem
    · exact (each w mem).2
    · obtain ⟨e, inside, rfl⟩ := List.mem_map.1 mem
      exact (e.isTrimmed_line h.naming (h.constraints e inside)).noBreak

/-- A line is read with its number. -/
def readNumbered (state : Reader.State Number Float) (line : List Char × Nat) :
    Except ReadError (Reader.State Number Float) :=
  (Reader.readLine state (Reader.cleanLine line.1)).mapError (Reader.report (line.2 + 1))

theorem foldlM_cons {state next : Reader.State Number Float} {w : List Char}
    (h : Reader.readLine state (Reader.cleanLine w) = .ok next) (ws : List (List Char)) (k : Nat) :
    ((w :: ws).zipIdx k).foldlM readNumbered state = (ws.zipIdx (k + 1)).foldlM readNumbered next := by
  have first : readNumbered state (w, k) = .ok next := by
    rw [readNumbered, h]
    rfl
  rw [List.zipIdx_cons, List.foldlM_cons, first]
  rfl

/-- The constraints are read one behind the other. -/
theorem foldlM_constraints {names : List (Option String)} (naming : IsNaming names)
    {es : List (Entry Number Float)} (h : ∀ e ∈ es, e.IsWritable names.length)
    (s : Representation Number Float) (k : Nat) :
    ((es.map (Entry.line names)).zipIdx k).foldlM readNumbered (declaredState names s) =
      .ok (declaredState names { s with constraints := s.constraints ++ es.map Entry.written }) := by
  induction es generalizing s k with
  | nil => simp [pure, Except.pure]
  | cons e es ih =>
    rw [List.map_cons, foldlM_cons (readLine_entry naming (h e (by simp)) s),
      ih fun e mem => h e (List.mem_cons_of_mem _ mem)]
    simp

/-- The text is read as it was written, up to constants that are not shown. -/
theorem read_rows (h : r.IsWritable) :
    read (String.ofList (['\n'].intercalate r.rows)) = .ok r.written := by
  -- the objective is declared before any constraint
  have objective : ∃ k, ∀ ws, ((r.objectiveRows ++ ws).zipIdx 1).foldlM readNumbered
      (declaredState r.variableNames { empty with variableNames := r.variableNames }) =
        (ws.zipIdx k).foldlM readNumbered
          (declaredState r.variableNames { r.written with constraints := [] }) := by
    unfold objectiveRows
    have read := fun some => readLine_objective h.naming (h.objective some).1 (h.objective some).2
      { empty with variableNames := r.variableNames }
    cases sense : r.sense with
    | minimize =>
      refine ⟨2, fun ws => ?_⟩
      rw [List.singleton_append, foldlM_cons (read (by simp [sense])).1, written, sense]
      rfl
    | maximize =>
      refine ⟨2, fun ws => ?_⟩
      rw [List.singleton_append, foldlM_cons (read (by simp [sense])).2, written, sense]
      rfl
    | feasibility =>
      refine ⟨1, fun ws => ?_⟩
      have shown : (Affine.zero : Affine Float).toQuadratic.showsConstant = true := Bool.or_true _
      have kept : (Function.affine .zero : Function Float).written = .affine .zero := by
        simp only [Function.written, Affine.written, Quadratic.written, shown, if_true]
        rfl
      rw [List.nil_append, written, sense, h.noObjective sense, kept]
      rfl
  obtain ⟨k, objective⟩ := objective
  have start : Reader.readLine (⟨[], empty⟩ : Reader.State Number Float) (Reader.cleanLine
      (headedLine "variables" (variableLexemes r.variableNames))) =
        .ok (declaredState r.variableNames { empty with variableNames := r.variableNames }) :=
    readLine_variables h.naming h.few _
  have fold : r.rows.zipIdx.foldlM readNumbered ⟨[], empty⟩ =
      .ok (declaredState r.variableNames r.written) := by
    rw [rows, foldlM_cons start, objective, foldlM_constraints h.naming h.constraints]
    simp [written]
  have lines : Text.lines (String.ofList (['\n'].intercalate r.rows)).toList = r.rows := by
    rw [String.toList_ofList, lines_rows h]
  unfold read
  rw [lines]
  change (r.rows.zipIdx.foldlM readNumbered ⟨[], empty⟩ >>= _) = _
  rw [fold]
  rfl

end Representation

/-! ## Comparison -/

theorem ConstraintSet.beq_self {s : ConstraintSet Number} (h : ∀ n ∈ s.numbers, n.IsWritable) :
    (s == s) = true := by
  have bound : ∀ n : Number, n.IsWritable → (n == n) = true := by
    intro n writable
    cases n with
    | integer n => exact beq_self_eq_true n
    | real x => exact FloatLaws.beq_self writable.finite
  cases s with
  | lessThan a | greaterThan a | equalTo a => exact bound a (h a (by simp [numbers]))
  | interval a b =>
    exact Bool.and_eq_true_iff.2 ⟨bound a (h a (by simp [numbers])), bound b (h b (by simp [numbers]))⟩
  | integer | zeroOne => rfl
  | vector cone size =>
    refine Bool.and_eq_true_iff.2 ⟨beq_self_eq_true cone, ?_⟩
    cases size with
    | none => rfl
    | some n => exact bound n (h n (by simp [numbers]))
  | matrix layout size =>
    refine Bool.and_eq_true_iff.2 ⟨beq_self_eq_true layout, ?_⟩
    cases size with
    | none => rfl
    | some n => exact bound n (h n (by simp [numbers]))

theorem Entry.beq_self {n : Nat} {e : Entry Number Float} (h : e.IsWritable n) :
    (e == e) = true := by
  have function : (e.function == e.function) = true := by
    have same := Function.beq_written h.function
    exact PartialEquivBEq.trans same (PartialEquivBEq.symm same)
  change (e.name == e.name && e.function == e.function && e.set == e.set) = true
  rw [function, ConstraintSet.beq_self (h.takes.isWritable h.short), BEq.rfl]
  rfl

/-- What is read compares like what was written. -/
theorem Entry.written_beq {n : Nat} {e : Entry Number Float} (h : e.IsWritable n)
    (f : Entry Number Float) : (e.written == f) = (e == f) := by
  have same := beq_congr_left (Function.beq_written h.function) f.function
  change (e.name == f.name && e.function.written == f.function && e.set == f.set) =
    (e.name == f.name && e.function == f.function && e.set == f.set)
  rw [same]

namespace Representation

variable {r : Representation Number Float}

/-- A representation is read back from its text: the variables, the sense and the constraints in
their order are the same, all functions are equal, and no difference is found from either side. -/
theorem read_text (h : r.IsWritable) :
    ∃ text s, r.text = .ok text ∧ read text = .ok s ∧ s.variableNames = r.variableNames ∧
      s.sense = r.sense ∧ (r.objective == s.objective) = true ∧
      List.Forall₂ (fun e e' => e'.name = e.name ∧ (e.function == e'.function) = true ∧
        e'.set = e.set) r.constraints s.constraints ∧
      r.differences s = [] ∧ s.differences r = [] := by
  have objective : (r.objective == r.written.objective) = true := by
    by_cases none : r.sense = .feasibility
    · have zero : ((0 : Float) == 0) = true := by
        rw [FloatLaws.beq_def, FloatLaws.unpack_zero]
        rfl
      have same : (Affine.zero : Affine Float).written = .zero := by
        simp only [Affine.written, Quadratic.written]
        rfl
      rw [written, h.noObjective none, Function.written, same]
      exact zero
    · exact Function.beq_written (h.objective none).2
  have constraints : List.Forall₂ (fun e e' => e'.name = e.name ∧
      (e.function == e'.function) = true ∧ e'.set = e.set) r.constraints r.written.constraints := by
    rw [written, List.forall₂_map_right_iff, List.forall₂_same]
    exact fun e mem => ⟨rfl, Function.beq_written (h.constraints e mem).function, rfl⟩
  have equal : ∀ {e}, e ∈ r.constraints → ∀ f, (e.written == f) = (e == f) := fun mem =>
    Entry.written_beq (h.constraints _ mem)
  obtain ⟨onlyLeft, onlyRight⟩ := @Counting.surplus_map_eq_nil _ _ r.constraints Entry.written
    (fun e mem => Entry.beq_self (h.constraints e mem)) (fun e _ f _ => e.beq_comm f)
    (fun e mem f _ => equal mem f)
    (fun e _ f mem => by rw [e.beq_comm, equal mem, f.beq_comm])
    (fun e mem f mem' => by rw [equal mem, e.beq_comm, equal mem', f.beq_comm])
  have reversed : (r.written.objective == r.objective) = true := PartialEquivBEq.symm objective
  have same : r.written.constraints = r.constraints.map Entry.written := rfl
  refine ⟨_, r.written, text_eq h, read_rows h, rfl, rfl, objective, constraints, ?_, ?_⟩
  · rw [differences, objective, same, onlyLeft, onlyRight]
    simp [written]
  · rw [differences, reversed, same, onlyLeft, onlyRight]
    simp [written]

/-- A square is minimized over `x` and an unnamed variable, with a bound and a cone. -/
def boundedSquare : Representation Number Float where
  variableNames := [some "x", none]
  sense := .minimize
  objective := .quadratic ⟨[(⟨0, 0⟩, 2.5)], [(1, -1)], 0.5⟩
  constraints := [
    ⟨some "cap", .affine ⟨[(0, 1), (1, 1)], 0⟩, .lessThan (.real 4.5)⟩,
    ⟨none, .vars [0, 1], .vector .nonnegatives (some (.integer 2))⟩]

theorem isWritable_boundedSquare : boundedSquare.IsWritable where
  naming := {
    name := by
      intro name mem
      obtain rfl : name = "x" := by simpa [boundedSquare] using mem
      exact ⟨by decide, by decide⟩
    free := by
      intro name mem digits number same
      obtain rfl : name = "x" := by simpa [boundedSquare] using mem
      simp at same
    distinct := by decide }
  few := by decide
  objective _ := ⟨rfl, by decide, {
    pairs := ⟨by simp, by decide⟩
    terms := ⟨by simp, by decide⟩
    ordered := by decide
    pairsDeclared := by decide
    termsDeclared := by decide
    pairsPositional := by simpa using ⟨by decide, by decide +kernel⟩
    termsPositional := by simpa using ⟨by decide, by decide +kernel⟩
    constantPositional := ⟨by decide, by decide +kernel⟩ }⟩
  noObjective := nofun
  constraints := by
    have unit : IsPositional 1 := ⟨by decide, by decide +kernel⟩
    have bound : IsPositional 4.5 := ⟨by decide, by decide +kernel⟩
    have zero : IsPositional 0 := ⟨by decide, by decide +kernel⟩
    have sum : (⟨[], [(0, 1), (1, 1)], 0⟩ : Quadratic Float).IsWritable 2 := {
      pairs := .nil
      terms := ⟨by decide, by decide⟩
      ordered := nofun
      pairsDeclared := nofun
      termsDeclared := by decide
      pairsPositional := nofun
      termsPositional := by simpa using unit
      constantPositional := zero }
    simp only [boundedSquare, List.forall_mem_cons, List.not_mem_nil, false_imp_iff,
      implies_true, and_true]
    refine ⟨⟨?_, sum, by decide, rfl, fun _ => by decide, ?_⟩, nofun, ?_, by decide, rfl, rfl⟩
    · rintro name ⟨rfl⟩
      exact ⟨by decide, by decide⟩
    · simpa [ConstraintSet.numbers] using bound
    · simp [Function.IsWritable, IsDeclared]

theorem read_text_boundedSquare : boundedSquare.IsWritable ∧
    ∃ text s, boundedSquare.text = .ok text ∧ read text = .ok s ∧
      s.variableNames = [some "x", none] ∧ s.sense = .minimize ∧
      (boundedSquare.objective == s.objective) = true ∧
      List.Forall₂ (fun e e' => e'.name = e.name ∧ (e.function == e'.function) = true ∧
        e'.set = e.set) boundedSquare.constraints s.constraints ∧
      boundedSquare.differences s = [] ∧ s.differences boundedSquare = [] :=
  ⟨isWritable_boundedSquare, read_text isWritable_boundedSquare⟩

end Representation

end MathProg
