import MathProg.Proofs.Representation.Reflexive
import MathProg.Proofs.Representation.Run

/-!
# Rearranged lines

Between two declarations of variables, every line is read by itself: a constraint is added to those
before it, an objective replaces the one before it. So constraints may be written in any order, and
before or behind an objective, and empty lines and comments may be put anywhere.
-/

namespace MathProg

/-! ## Comments and blanks -/

namespace Text

/-- Blanks behind a text are stripped off. -/
theorem strip_append_blank {s gap : List Char} (blank : ∀ c ∈ gap, isBlank c = true) :
    strip (s ++ gap) = strip s := by
  have behind (w : List Char) : stripRight (w ++ gap) = stripRight w := by
    rw [stripRight, stripRight, List.reverse_append,
      List.dropWhile_append_of_pos fun c mem => blank c (List.mem_reverse.1 mem)]
  rw [strip, strip, stripLeft, stripLeft, List.dropWhile_append]
  split
  next none =>
    rw [List.isEmpty_iff.1 none, List.dropWhile_eq_nil_iff.2 blank]
  next => exact behind _

theorem strip_eq_nil {s : List Char} (blank : ∀ c ∈ s, isBlank c = true) : strip s = [] := by
  rw [strip, stripLeft, List.dropWhile_eq_nil_iff.2 blank]
  rfl

end Text

namespace Reader

open Fallible Text

/-- Whether a line has nothing in front of its comment. -/
def isIdle (line : List Char) : Bool :=
  (line.takeWhile (fun c => c != '#')).all isBlank

/-- Whether a line sets the objective. -/
def isObjective (line : List Char) : Bool :=
  (afterKeyword? "minobjective" (cleanLine line)).isSome ||
    (afterKeyword? "maxobjective" (cleanLine line)).isSome

theorem cleanLine_idle {line : List Char} (idle : isIdle line = true) : cleanLine line = [] := by
  rw [cleanLine, strip_eq_nil (List.all_eq_true.1 idle), namePlaceholders]

/-- A comment leaves a line as it is, and so do blanks in front of the comment. -/
theorem cleanLine_comment {line gap words : List Char} (blank : ∀ c ∈ gap, isBlank c = true) :
    cleanLine (line ++ gap ++ '#' :: words) = cleanLine line := by
  have gapPlain : ∀ c ∈ gap, (c != '#') = true := fun c mem => by
    refine bne_iff_ne.2 fun same => ?_
    have := blank c mem
    rw [same] at this
    exact absurd this (by decide)
  rw [cleanLine, cleanLine, List.append_assoc, List.takeWhile_append]
  split
  next whole =>
    -- no comment so far
    have same : line.takeWhile (fun c => c != '#') = line :=
      (List.takeWhile_prefix _).eq_of_length whole
    rw [List.takeWhile_append_of_pos gapPlain, List.takeWhile_cons_of_neg (by decide),
      List.append_nil, strip_append_blank blank, same]
  next => rfl

/-! ## Lines by themselves -/

variable {N K : Type}

/-- What a line says that does not declare the variables. -/
inductive Statement (N K : Type) where
  | nothing
  | objective (sense : Sense) (f : Function K)
  | constraint (e : Entry N K)

namespace Statement

def objective? : Statement N K → Option (Sense × Function K)
  | objective sense f => some (sense, f)
  | _ => none

def constraint? : Statement N K → Option (Entry N K)
  | constraint e => some e
  | _ => none

end Statement

namespace State

/-- What is known after a statement. -/
def add (state : State N K) : Statement N K → State N K
  | .nothing => state
  | .objective sense f =>
    { state with representation := { state.representation with sense, objective := f } }
  | .constraint e =>
    { state with representation :=
      { state.representation with constraints := state.representation.constraints ++ [e] } }

@[simp] theorem names_add (state : State N K) (s : Statement N K) :
    (state.add s).names = state.names := by
  cases s <;> rfl

/-- What is known up to the order of the constraints. -/
structure Alike (s t : State N K) : Prop where
  names : s.names = t.names
  variableNames : s.representation.variableNames = t.representation.variableNames
  sense : s.representation.sense = t.representation.sense
  objective : s.representation.objective = t.representation.objective
  constraints : s.representation.constraints.Perm t.representation.constraints

theorem Alike.refl (s : State N K) : s.Alike s :=
  ⟨rfl, rfl, rfl, rfl, .refl _⟩

theorem Alike.symm {s t : State N K} (h : s.Alike t) : t.Alike s :=
  ⟨h.names.symm, h.variableNames.symm, h.sense.symm, h.objective.symm, h.constraints.symm⟩

theorem Alike.trans {s t u : State N K} (h : s.Alike t) (h' : t.Alike u) : s.Alike u :=
  ⟨h.names.trans h'.names, h.variableNames.trans h'.variableNames, h.sense.trans h'.sense,
    h.objective.trans h'.objective, h.constraints.trans h'.constraints⟩

theorem Alike.add {s t : State N K} (h : s.Alike t) (statement : Statement N K) :
    (s.add statement).Alike (t.add statement) := by
  cases statement with
  | nothing => exact h
  | objective sense f => exact ⟨h.names, h.variableNames, rfl, rfl, h.constraints⟩
  | constraint e =>
    exact ⟨h.names, h.variableNames, h.sense, h.objective, h.constraints.append_right [e]⟩

/-- What is known after statements: the last objective, and all constraints. -/
theorem foldl_add (ss : List (Statement N K)) (s : State N K) :
    ss.foldl State.add s =
      let last := (ss.filterMap Statement.objective?).foldl (fun _ o => o)
        (s.representation.sense, s.representation.objective)
      ⟨s.names, s.representation.variableNames, last.1, last.2,
        s.representation.constraints ++ ss.filterMap Statement.constraint?⟩ := by
  induction ss generalizing s with
  | nil => simp
  | cons statement ss ih =>
    rw [List.foldl_cons, ih]
    cases statement <;>
      simp [State.add, Statement.objective?, Statement.constraint?, List.filterMap_cons]

/-- Statements add up to the same if their objectives do, whatever the order of the constraints. -/
theorem Alike.foldl_add {ss ts : List (Statement N K)}
    (objectives : ss.filterMap Statement.objective? = ts.filterMap Statement.objective?)
    (constraints : (ss.filterMap Statement.constraint?).Perm
      (ts.filterMap Statement.constraint?)) {s t : State N K} (h : s.Alike t) :
    (ss.foldl State.add s).Alike (ts.foldl State.add t) := by
  rw [State.foldl_add, State.foldl_add, objectives, h.names, h.variableNames, h.sense, h.objective]
  exact ⟨rfl, rfl, rfl, rfl, h.constraints.append constraints⟩

end State

variable [Zero K] [One K] [Add K] [Mul K] [Neg K] [BEq K] [TextNumber K] [Numeral N K]

def readAim (names : List String) (sense : Sense) (s : List Char) :
    Except LineFault (Statement N K) := do
  let p ← polynomial names (← readFormula s)
  return .objective sense p.toFunction

/-- What a clean line says that does not declare the variables. -/
def readStatement (names : List String) (line : List Char) : Except LineFault (Statement N K) :=
  if line.isEmpty then .ok .nothing
  else
    match afterKeyword? "minobjective" line with
    | some rest => readAim names .minimize rest
    | none =>
      match afterKeyword? "maxobjective" line with
      | some rest => readAim names .maximize rest
      | none => do
        let (name, body) := splitLabel line
        let (function, set) ← readConstraint names body
        return .constraint ⟨name, function, set⟩

/-- Apart from declarations, reading a line is adding what it says. -/
theorem readLine_eq_add {line : List Char} (other : afterKeyword? "variables" line = none)
    (state : State N K) :
    readLine state line = (readStatement state.names line).map state.add := by
  have aim (sense : Sense) (rest : List Char) : readObjective state sense rest =
      (readAim state.names sense rest).map state.add := by
    rw [readObjective, readAim]
    cases readFormula rest with
    | error e => rfl
    | ok t =>
      change (polynomial state.names t >>= _) = Except.map _ (polynomial state.names t >>= _)
      cases polynomial (K := K) state.names t <;> rfl
  rw [readLine, readStatement, other]
  cases line.isEmpty with
  | true => rfl
  | false =>
    cases afterKeyword? "minobjective" line with
    | some rest => exact aim .minimize rest
    | none =>
      cases afterKeyword? "maxobjective" line with
      | some rest => exact aim .maximize rest
      | none =>
        dsimp only [Bool.false_eq_true, if_false]
        generalize constraint : readConstraint (N := N) (K := K) state.names _ = made
        cases made <;> rfl

theorem readLine_eq_ok {line : List Char} (other : afterKeyword? "variables" line = none)
    {state next : State N K} :
    readLine state line = .ok next ↔
      ∃ s : Statement N K, readStatement state.names line = .ok s ∧ state.add s = next := by
  rw [readLine_eq_add other]
  exact map_eq_ok

/-- A line sets the objective if it says one. -/
theorem isObjective_of_readStatement {names : List String} {line : List Char}
    {s : Statement N K} (h : readStatement names (cleanLine line) = .ok s) :
    isObjective line = s.objective?.isSome := by
  have aim {sense : Sense} {rest : List Char} (h : readAim names sense rest = .ok s) :
      s.objective?.isSome = true := by
    obtain ⟨t, -, h⟩ := bind_eq_ok.1 h
    obtain ⟨p, -, h⟩ := bind_eq_ok.1 h
    cases h
    rfl
  rw [isObjective]
  unfold readStatement at h
  split at h
  next empty =>
    cases h
    rw [List.isEmpty_iff.1 empty]
    rfl
  split at h
  next rest min =>
    rw [min, aim h]
    rfl
  next min =>
    split at h
    next rest max =>
      rw [max, aim h, Option.isSome_some, Bool.or_true]
    next max =>
      obtain ⟨⟨f, set⟩, -, h⟩ := bind_eq_ok.1 h
      cases h
      rw [min, max]
      rfl

/-- What is neither a declaration nor an objective is a constraint. -/
theorem readStatement_constraint {names : List String} {line body : List Char}
    {name : Option String} {f : Function K} {s : ConstraintSet N} (filled : line ≠ [])
    (other : ∀ keyword ∈ ["minobjective", "maxobjective"], afterKeyword? keyword line = none)
    (label : splitLabel line = (name, body)) (read : readConstraint names body = .ok (f, s)) :
    readStatement names line = .ok (.constraint ⟨name, f, s⟩) := by
  have empty : line.isEmpty = false := by simpa using filled
  rw [readStatement, empty, other _ (by simp), other _ (by simp), label]
  simp only [Bool.false_eq_true, if_false, read]
  rfl

/-! ## Rows of lines -/

/-- What is known after further lines. -/
def readOn (state : State N K) (ls : List (List Char)) : Except LineFault (State N K) :=
  ls.foldlM (fun state line => readLine state (cleanLine line)) state

theorem readOn_append {state next : State N K} {ls ls' : List (List Char)} :
    readOn state (ls ++ ls') = .ok next ↔
      ∃ mid : State N K, readOn state ls = .ok mid ∧ readOn mid ls' = .ok next := by
  rw [readOn, List.foldlM_append, bind_eq_ok]
  rfl

theorem readOn_cons {state next : State N K} {line : List Char} {ls : List (List Char)} :
    readOn state (line :: ls) = .ok next ↔
      ∃ mid : State N K, readLine state (cleanLine line) = .ok mid ∧ readOn mid ls = .ok next := by
  rw [readOn, List.foldlM_cons, bind_eq_ok]
  rfl

/-- Lines that declare no variables are read one by one. -/
theorem readOn_eq_ok {ls : List (List Char)} (plain : ∀ line ∈ ls, isDeclaration line = false)
    {state next : State N K} :
    readOn state ls = .ok next ↔ ∃ ss : List (Statement N K),
      List.Forall₂ (fun line s => readStatement state.names (cleanLine line) = .ok s) ls ss ∧
        ss.foldl State.add state = next := by
  induction ls generalizing state with
  | nil => simp [readOn, pure, Except.pure]
  | cons line ls ih =>
    obtain ⟨first, rest⟩ := List.forall_mem_cons.1 plain
    have other : afterKeyword? "variables" (cleanLine line) = none := by
      simpa [isDeclaration] using first
    simp only [readOn_cons, readLine_eq_ok (N := N) (K := K) other, ih rest,
      List.forall₂_cons_left_iff]
    constructor
    · rintro ⟨_, ⟨s, statement, rfl⟩, ss, read, rfl⟩
      rw [State.names_add] at read
      exact ⟨s :: ss, ⟨s, ss, statement, read, rfl⟩, rfl⟩
    · rintro ⟨_, ⟨s, ss, statement, read, rfl⟩, rfl⟩
      refine ⟨state.add s, ⟨s, statement, rfl⟩, ss, ?_, rfl⟩
      rwa [State.names_add]

/-- A line says the same to those who know the same up to the order of the constraints. -/
theorem State.Alike.readLine {s t next : State N K} (h : s.Alike t) {line : List Char}
    (read : Reader.readLine s line = .ok next) :
    ∃ next' : State N K, Reader.readLine t line = .ok next' ∧ next.Alike next' := by
  cases declaration : afterKeyword? "variables" line with
  | none =>
    obtain ⟨statement, said, rfl⟩ := (readLine_eq_ok declaration).1 read
    exact ⟨t.add statement, (readLine_eq_ok declaration).2 ⟨statement, h.names ▸ said, rfl⟩,
      h.add statement⟩
  | some rest =>
    have filled : line.isEmpty = false := by
      cases line with
      | nil => cases declaration
      | cons c line => rfl
    simp only [Reader.readLine, filled, declaration, Bool.false_eq_true, if_false, readVariables]
      at read ⊢
    obtain ⟨declared, named, read⟩ := bind_eq_ok.1 read
    cases read
    exact ⟨_, bind_eq_ok.2 ⟨declared, named, rfl⟩, rfl, rfl, h.sense, h.objective, h.constraints⟩

theorem State.Alike.readOn {s t next : State N K} (h : s.Alike t) {ls : List (List Char)}
    (read : Reader.readOn s ls = .ok next) :
    ∃ next' : State N K, Reader.readOn t ls = .ok next' ∧ next.Alike next' := by
  induction ls generalizing s t with
  | nil =>
    cases read
    exact ⟨t, rfl, h⟩
  | cons line ls ih =>
    obtain ⟨mid, first, rest⟩ := readOn_cons.1 read
    obtain ⟨mid', first', alike⟩ := h.readLine first
    obtain ⟨next', rest', alike⟩ := ih alike rest
    exact ⟨next', readOn_cons.2 ⟨mid', first', rest'⟩, alike⟩

/-! ## Edits -/

/-- An edit of lines: an empty line or a comment is put somewhere, or lines between two declarations
change places, those that set the objective keeping their order. -/
inductive LineEdit : List (List Char) → List (List Char) → Prop where
  | blank {before after : List (List Char)} {line : List Char} (idle : isIdle line = true) :
      LineEdit (before ++ after) (before ++ line :: after)
  | comment {before after : List (List Char)} {line gap words : List Char}
      (blank : ∀ c ∈ gap, isBlank c = true) :
      LineEdit (before ++ line :: after) (before ++ (line ++ gap ++ '#' :: words) :: after)
  | permute {before after segment segment' : List (List Char)}
      (plain : ∀ line ∈ segment, isDeclaration line = false) (perm : segment.Perm segment')
      (objectives : segment.filter isObjective = segment'.filter isObjective) :
      LineEdit (before ++ (segment ++ after)) (before ++ (segment' ++ after))

/-- Any number of edits, one after the other. -/
def Rearranges : List (List Char) → List (List Char) → Prop :=
  Relation.ReflTransGen LineEdit

/-- The objectives that lines say are those of the lines that set one. -/
theorem filterMap_objective {names : List String} {ls : List (List Char)}
    {ss : List (Statement N K)}
    (read : List.Forall₂ (fun line s => readStatement names (cleanLine line) = .ok s) ls ss) :
    List.Forall₂ (fun line (s : Sense × Function K) =>
      readStatement (N := N) names (cleanLine line) = .ok (.objective s.1 s.2))
      (ls.filter isObjective) (ss.filterMap Statement.objective?) := by
  induction read with
  | nil => exact .nil
  | @cons line s ls ss first _ ih =>
    have sets := isObjective_of_readStatement first
    cases s with
    | nothing | constraint =>
      rw [List.filter_cons_of_neg (by simp [sets, Statement.objective?])]
      exact ih
    | objective sense f =>
      rw [List.filter_cons_of_pos sets]
      exact .cons first ih

/-- Lines that change places say the same up to the order of the constraints. -/
theorem readOn_permute {state next : State N K} {segment segment' : List (List Char)}
    (plain : ∀ line ∈ segment, isDeclaration line = false) (perm : segment.Perm segment')
    (objectives : segment.filter isObjective = segment'.filter isObjective)
    (read : readOn state segment = .ok next) :
    ∃ next' : State N K, readOn state segment' = .ok next' ∧ next.Alike next' := by
  obtain ⟨ss, said, rfl⟩ := (readOn_eq_ok plain).1 read
  obtain ⟨ss', said', permuted⟩ : ∃ ss', List.Forall₂ (fun line s =>
      readStatement state.names (cleanLine line) = .ok s) segment' ss' ∧ ss'.Perm ss := by
    obtain ⟨ss', said', permuted⟩ := List.perm_comp_forall₂ perm.symm said
    exact ⟨ss', said', permuted⟩
  refine ⟨ss'.foldl State.add state,
    (readOn_eq_ok fun line mem => plain line (perm.symm.subset mem)).2 ⟨ss', said', rfl⟩, ?_⟩
  refine (State.Alike.refl state).foldl_add ?_ (permuted.symm.filterMap _)
  -- both are what the lines say that set the objective
  have sets := filterMap_objective said
  have sets' := filterMap_objective said'
  rw [← objectives] at sets'
  refine List.forall₂_eq_eq_eq ▸ forall₂_of_common sets sets' fun line _ s t read read' => ?_
  have same := Statement.objective.inj (Except.ok.inj (read.symm.trans read'))
  exact Prod.ext same.1 same.2

/-- An edit keeps what is known, up to the order of the constraints. -/
theorem LineEdit.readOn {ls ls' : List (List Char)} (edit : LineEdit ls ls') {state next : State N K}
    (read : Reader.readOn state ls = .ok next) :
    ∃ next' : State N K, Reader.readOn state ls' = .ok next' ∧ next.Alike next' := by
  cases edit with
  | blank idle =>
    obtain ⟨mid, first, rest⟩ := readOn_append.1 read
    refine ⟨next, readOn_append.2 ⟨mid, first, readOn_cons.2 ⟨mid, ?_, rest⟩⟩, .refl _⟩
    rw [cleanLine_idle idle]
    rfl
  | comment blank =>
    obtain ⟨mid, first, rest⟩ := readOn_append.1 read
    obtain ⟨mid', line, rest⟩ := readOn_cons.1 rest
    refine ⟨next, readOn_append.2 ⟨mid, first, readOn_cons.2 ⟨mid', ?_, rest⟩⟩, .refl _⟩
    rwa [cleanLine_comment blank]
  | permute plain perm objectives =>
    obtain ⟨mid, first, rest⟩ := readOn_append.1 read
    obtain ⟨mid', lines, rest⟩ := readOn_append.1 rest
    obtain ⟨mid'', lines', alike⟩ := readOn_permute plain perm objectives lines
    obtain ⟨next', rest', alike⟩ := alike.readOn rest
    exact ⟨next', readOn_append.2 ⟨mid, first, readOn_append.2 ⟨mid'', lines', rest'⟩⟩, alike⟩

/-- Edited lines are read, and what is known of them is the same up to the order of the constraints.
-/
theorem Rearranges.readOn {ls ls' : List (List Char)} (edits : Rearranges ls ls')
    {state next : State N K} (read : Reader.readOn state ls = .ok next) :
    ∃ next' : State N K, Reader.readOn state ls' = .ok next' ∧ next.Alike next' := by
  induction edits with
  | refl => exact ⟨next, read, .refl next⟩
  | tail _ edit ih =>
    obtain ⟨mid, read, alike⟩ := ih
    obtain ⟨next', read', alike'⟩ := edit.readOn read
    exact ⟨next', read', alike.trans alike'⟩

end Reader

open Reader Text

/-- Constraints may be written in any order after the variables, before or behind an objective, and
empty lines and comments may be put anywhere: a text that is read is then read as a representation
with the same variables, objective and constraints. The two are equal exactly if no coefficient is a
float that is not a number. -/
theorem Representation.read_rearranged {s t : String} {r : Representation Number Float}
    (read : Representation.read s = .ok r)
    (edits : Rearranges (lines s.toList) (lines t.toList)) :
    ∃ r', Representation.read t = .ok r' ∧ r'.variableNames = r.variableNames ∧
      r'.sense = r.sense ∧ r'.objective = r.objective ∧ r'.constraints.Perm r.constraints ∧
      ((r == r') = true ↔ r.IsNumeric) := by
  obtain ⟨final, known, rfl⟩ := read_eq_ok.1 read
  obtain ⟨final', known', alike⟩ := edits.readOn known
  refine ⟨final'.representation, read_eq_ok.2 ⟨final', known', rfl⟩, alike.variableNames.symm,
    alike.sense.symm, alike.objective.symm, alike.constraints.symm, ?_⟩
  exact Representation.beq_iff_isNumeric alike.variableNames alike.sense alike.objective
    alike.constraints.symm

/-! ### One variable -/

section OneVariable

/-- What is known after `variables: x`. -/
def oneVariable : State Number Float :=
  ⟨["x"], { Representation.empty with variableNames := [some "x"] }⟩

theorem read_oneVariable {text : String} {ls : List (List Char)}
    {ss : List (Statement Number Float)} (cut : lines text.toList = "variables: x".toList :: ls)
    (plain : ∀ line ∈ ls, isDeclaration line = false)
    (said : List.Forall₂ (fun line s => readStatement ["x"] (cleanLine line) = .ok s) ls ss) :
    Representation.read text = .ok (ss.foldl State.add oneVariable).representation := by
  have first : readLine .start (cleanLine "variables: x".toList) = .ok oneVariable := by
    rw [show cleanLine "variables: x".toList = "variables: x".toList by cbv]
    rfl
  refine read_eq_ok.2 ⟨_, ?_, rfl⟩
  rw [cut]
  exact readOn_cons.2 ⟨oneVariable, first, (readOn_eq_ok plain).2 ⟨ss, said, rfl⟩⟩

theorem readFormula_x : readFormula "x".toList = .ok (.name "x") := by
  cbv

theorem scalarFunction_x : scalarFunction (K := Float) ["x"] (.name "x") = .ok (.var 0) :=
  rfl

/-- A line that says that the variable is in a set without bounds. -/
theorem readStatement_member {line : List Char} (right : List Char) {s : ConstraintSet Number}
    (clean : cleanLine line = line)
    (other : ∀ keyword ∈ ["minobjective", "maxobjective"], afterKeyword? keyword line = none)
    (label : splitLabel line = (none, line))
    (split : splitLast? " in ".toList line = some ("x".toList, right))
    (set : readSet (K := Float) right = .ok s) (fixed : s.isShiftable = false) :
    readStatement (K := Float) ["x"] (cleanLine line) = .ok (.constraint ⟨none, .var 0, s⟩) := by
  have filled : line ≠ [] := by
    rintro rfl
    cases split
  have move : moveConstant (K := Float) (.var 0) s = .ok (.var 0, s) := by
    simp [moveConstant, fixed]
  rw [clean]
  refine readStatement_constraint filled other label ?_
  rw [readConstraint, split]
  simp only [set, readFormula_x, scalarFunction_x, move, bind, Except.bind]

theorem readStatement_integer : readStatement ["x"] (cleanLine "x in Integer()".toList) =
    .ok (.constraint (⟨none, .var 0, .integer⟩ : Entry Number Float)) :=
  readStatement_member "Integer()".toList (by cbv) (by decide) (by rfl) (by rfl) (by cbv) rfl

theorem readStatement_zeroOne : readStatement ["x"] (cleanLine "x in ZeroOne()".toList) =
    .ok (.constraint (⟨none, .var 0, .zeroOne⟩ : Entry Number Float)) :=
  readStatement_member "ZeroOne()".toList (by cbv) (by decide) (by rfl) (by rfl) (by cbv) rfl

theorem readStatement_objective : readStatement ["x"] (cleanLine "maxobjective: x".toList) =
    .ok (.objective .maximize (.affine ⟨[(0, 1)], 0⟩) : Statement Number Float) := by
  have clean : cleanLine "maxobjective: x".toList = "maxobjective: x".toList := by cbv
  have formula : readFormula " x".toList = .ok (.name "x") := by cbv
  rw [clean]
  change readAim ["x"] .maximize " x".toList = _
  rw [readAim, formula]
  rfl

/-- A variable that is to be both an integer and a bit. -/
def twoKinds : String := "variables: x\nx in Integer()\nmaxobjective: x\nx in ZeroOne()"

/-- The same in another order, with comments. -/
def twoKindsRearranged : String :=
  "# one variable\nvariables: x\n\nx in ZeroOne() # a bit\nx in Integer()\nmaxobjective: x"

theorem blank_space : ∀ c ∈ [' '], isBlank c = true := by
  simp [isBlank]

theorem rearranges_twoKinds :
    Rearranges (lines twoKinds.toList) (lines twoKindsRearranged.toList) := by
  have cut : lines twoKinds.toList = ["variables: x".toList] ++ (["x in Integer()".toList,
      "maxobjective: x".toList, "x in ZeroOne()".toList] ++ []) := by cbv
  have cut' : lines twoKindsRearranged.toList = ["# one variable".toList, "variables: x".toList,
      [], "x in ZeroOne() # a bit".toList, "x in Integer()".toList, "maxobjective: x".toList] := by
    cbv
  let declaration := "variables: x".toList
  let integer := "x in Integer()".toList
  let bit := "x in ZeroOne()".toList
  let aim := "maxobjective: x".toList
  have permuted : LineEdit ([declaration] ++ ([integer, aim, bit] ++ []))
      ([declaration] ++ ([bit, integer, aim] ++ [])) :=
    .permute (by decide +kernel) (List.perm_append_singleton bit [integer, aim])
      (by decide +kernel)
  have commented : LineEdit ([declaration] ++ bit :: [integer, aim])
      ([declaration] ++ (bit ++ [' '] ++ '#' :: " a bit".toList) :: [integer, aim]) :=
    .comment blank_space
  have spaced : LineEdit ([declaration] ++ "x in ZeroOne() # a bit".toList :: [integer, aim])
      ([declaration] ++ [] :: "x in ZeroOne() # a bit".toList :: [integer, aim]) :=
    .blank rfl
  have headed : LineEdit ([] ++ declaration :: [] :: "x in ZeroOne() # a bit".toList :: [integer, aim])
      ([] ++ "# one variable".toList :: declaration :: [] :: "x in ZeroOne() # a bit".toList ::
        [integer, aim]) :=
    .blank (by decide)
  rw [cut, cut']
  exact (((Relation.ReflTransGen.single permuted).tail commented).tail spaced).tail headed

theorem Representation.read_rearranged_twoKinds :
    ∃ r r' : Representation Number Float, Representation.read twoKinds = .ok r ∧
      Rearranges (lines twoKinds.toList) (lines twoKindsRearranged.toList) ∧
      Representation.read twoKindsRearranged = .ok r' ∧ r'.constraints.Perm r.constraints ∧
      (r == r') = true := by
  have cut : lines twoKinds.toList = ["variables: x".toList, "x in Integer()".toList,
      "maxobjective: x".toList, "x in ZeroOne()".toList] := by cbv
  have read := read_oneVariable cut (by decide +kernel)
    (.cons readStatement_integer (.cons readStatement_objective (.cons readStatement_zeroOne .nil)))
  obtain ⟨r', read', -, -, -, constraints, equal⟩ :=
    Representation.read_rearranged read rearranges_twoKinds
  refine ⟨_, r', read, rearranges_twoKinds, read', constraints, equal.2 ⟨?_, ?_⟩⟩
  · have numbers : ∀ c ∈ [(0 : Float), 1], c.isNaN = false := by decide +kernel
    exact numbers
  · intro e mem
    have either : e = ⟨none, .var 0, .integer⟩ ∨ e = ⟨none, .var 0, .zeroOne⟩ := by
      simpa [State.add, oneVariable, Representation.empty] using mem
    have numeric : (Function.var 0 : Function Float).IsNumeric := by
      simp [Function.IsNumeric, Function.coefficients]
    rcases either with rfl | rfl <;> exact ⟨numeric, trivial⟩

/-! ### A bound that is no number -/

/-- A bound that is the difference of two infinities. -/
def vagueBound : String := "variables: x\nx <= .1e999 - .1e999"

/-- The same with a comment. -/
def vagueBoundExplained : String := "variables: x\nx <= .1e999 - .1e999 # vague"

theorem readStatement_vagueBound : ∃ bound : Float, bound.isNaN = true ∧
    readStatement ["x"] (cleanLine "x <= .1e999 - .1e999".toList) =
      .ok (.constraint (⟨none, .var 0, .lessThan (.real bound)⟩ : Entry Number Float)) := by
  have clean : cleanLine "x <= .1e999 - .1e999".toList = "x <= .1e999 - .1e999".toList := by cbv
  have right : readFormula " .1e999 - .1e999".toList =
      .ok (.binary .sub (.number (.decimal 1 998)) (.number (.decimal 1 998))) := by cbv
  have left : readFormula "x ".toList = .ok (.name "x") := by cbv
  have value : constantValue (.binary .sub (.number (.decimal 1 998)) (.number (.decimal 1 998))) =
      .ok (Binary64.ofDecimal false 1 998 + -Binary64.ofDecimal false 1 998) := rfl
  have vague : (Binary64.ofDecimal false 1 998 + -Binary64.ofDecimal false 1 998).isNaN = true := by
    decide +kernel
  have split : splitLast? " in ".toList "x <= .1e999 - .1e999".toList = none := by rfl
  have found : comparisons.findSome? (fun c =>
      (splitFirst? c.1.toList "x <= .1e999 - .1e999".toList).map (fun parts => (c.2, parts))) =
        some (.lessThan, "x ".toList, " .1e999 - .1e999".toList) := by rfl
  have zero : ((0 : Float) == 0) = true := by decide +kernel
  have move (s : ConstraintSet Number) :
      moveConstant (K := Float) (.var 0) s = .ok (.var 0, s) := by
    simp [moveConstant, Function.constantPart, zero]
  generalize Binary64.ofDecimal false 1 998 + -Binary64.ofDecimal false 1 998 = bound at value vague
  refine ⟨bound, vague, ?_⟩
  rw [clean]
  refine readStatement_constraint (by decide) (by decide) (by rfl) ?_
  simp only [readConstraint, split, found, right, value, left, scalarFunction_x, move, bind,
    Except.bind]
  rfl

/-- A representation with a bound that is no number is not even equal to itself read anew. -/
theorem Representation.rearranged_unequal :
    ∃ r r' : Representation Number Float,
      Rearranges (lines vagueBound.toList) (lines vagueBoundExplained.toList) ∧
      Representation.read vagueBound = .ok r ∧ Representation.read vagueBoundExplained = .ok r' ∧
      (r == r') = false := by
  have cut : lines vagueBound.toList = ["variables: x".toList, "x <= .1e999 - .1e999".toList] := by
    cbv
  have cut' : lines vagueBoundExplained.toList =
      ["variables: x".toList, "x <= .1e999 - .1e999 # vague".toList] := by cbv
  have same : cleanLine ("x <= .1e999 - .1e999".toList ++ [' '] ++ '#' :: " vague".toList) =
      cleanLine "x <= .1e999 - .1e999".toList := cleanLine_comment blank_space
  have explained : LineEdit (["variables: x".toList] ++ "x <= .1e999 - .1e999".toList :: [])
      (["variables: x".toList] ++
        ("x <= .1e999 - .1e999".toList ++ [' '] ++ '#' :: " vague".toList) :: []) :=
    .comment blank_space
  obtain ⟨bound, vague, said⟩ := readStatement_vagueBound
  have read := read_oneVariable cut (by decide +kernel) (.cons said .nil)
  have read' := read_oneVariable cut' (by decide +kernel) (.cons (same ▸ said) .nil)
  refine ⟨_, _, ?_, read, read', Bool.eq_false_iff.2 fun equal => ?_⟩
  · rw [cut, cut']
    exact .single explained
  · have numeric := (Representation.isNumeric_of_beq equal).constraints _
      (List.mem_singleton_self _)
    cases vague.symm.trans numeric.set

end OneVariable

end MathProg
