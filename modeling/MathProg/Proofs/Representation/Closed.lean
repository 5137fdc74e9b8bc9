import MathProg.Proofs.Formula.Variables
import MathProg.Proofs.Representation.Dimensions
import MathProg.Proofs.Representation.Run
import MathProg.Proofs.Representation.Structural

/-!
# Where positions come from

Every position in an accepted text is that of a name in its line, among the names declared last
before that line. A declaration that comes later replaces the names but no positions, so a position
may then stand for another name or for none. Where the declarations come first, every position has
its name among the final ones, and the representation can be written and compared.
-/

namespace MathProg

open Fallible
open Formula (Tree)

namespace Reader

/-! ## Functions of a line -/

/-- Whether a formula of the line uses all variables of the function. -/
def Mentions (names : List String) (line : List Char) {K : Type}
    (f : Function K) : Prop :=
  ∃ t, HasFormula line t ∧ ∀ v ∈ f.support, t.Uses names v

section Functions

variable {K : Type} [Zero K] [One K] [Add K] [Mul K] [Neg K] [BEq K] [TextNumber K]
variable {names : List String} {line : List Char}

theorem uses_of_readPosition {id : String} {v : Int} (h : readPosition names id = .ok v) :
    (Tree.name id).Uses names v := by
  obtain ⟨k, found, h⟩ := bind_eq_ok.1 h
  cases h
  have found := mapError_eq_ok.1 found
  unfold Formula.position at found
  split at found <;> cases found
  next found => exact ⟨id, k, .self _, found, rfl⟩

theorem uses_of_scalarFunction {t : Tree} {f : Function K} (h : scalarFunction names t = .ok f) :
    ∀ v ∈ f.support, t.Uses names v := by
  intro v mem
  unfold scalarFunction at h
  split at h
  next id =>
    obtain ⟨w, found, h⟩ := bind_eq_ok.1 h
    cases h
    obtain rfl := List.mem_singleton.1 mem
    exact uses_of_readPosition found
  next =>
    obtain ⟨p, read, h⟩ := bind_eq_ok.1 h
    cases h
    exact Formula.Polynomial.uses_of_ofTree (mapError_eq_ok.1 read) v
      (Formula.Polynomial.mem_support_toFunction mem)

theorem uses_of_vectorFunction {items : List Tree} {f : Function K}
    (h : vectorFunction names items = .ok f) : ∀ v ∈ f.support, (Tree.list items).Uses names v := by
  intro v mem
  unfold vectorFunction at h
  split at h
  next ids found =>
    obtain ⟨vs, read, h⟩ := bind_eq_ok.1 h
    cases h
    obtain ⟨id, inside, position⟩ := exists_of_mem_right (mapM_eq_ok.1 read) mem
    obtain ⟨t, item, name⟩ := exists_of_mem_right (mapM_eq_some.1 found) inside
    cases t <;> cases name
    exact (uses_of_readPosition position).of_contains fun _ => .item item
  next =>
    obtain ⟨rows, read, h⟩ := bind_eq_ok.1 h
    cases h
    obtain ⟨row, inside, term⟩ := List.mem_flatMap.1 mem
    obtain ⟨t, item, made⟩ := exists_of_mem_right (mapM_eq_ok.1 read) inside
    obtain ⟨p, polynomial, made⟩ := bind_eq_ok.1 made
    split at made <;> cases made
    next shape =>
      have mem : v ∈ p.toFunction.support := by rwa [shape]
      exact (Formula.Polynomial.uses_of_ofTree (mapError_eq_ok.1 polynomial) v
        (Formula.Polynomial.mem_support_toFunction mem)).of_contains fun _ => .item item

omit [One K] [Add K] [Mul K] [Neg K] [TextNumber K] in
theorem support_moveConstant {N : Type} [Numeral N K] {f g : Function K} {s t : ConstraintSet N}
    (h : moveConstant f s = .ok (g, t)) : g.support = f.support := by
  unfold moveConstant at h
  split at h
  next =>
    cases h
    rfl
  next =>
    obtain ⟨moved, -, h⟩ := bind_eq_ok.1 h
    cases h
    cases f <;> rfl

theorem Makes.mentions {N : Type} [Numeral N K] {f : Function K} {s : ConstraintSet N}
    (h : Makes names line f s) : Mentions names line f := by
  cases h with
  | display split _ formula read _ =>
    exact ⟨_, ⟨_, (infix_of_splitLast? split).1, formula⟩, uses_of_vectorFunction read⟩
  | member split _ formula _ read moved =>
    refine ⟨_, ⟨_, (infix_of_splitLast? split).1, formula⟩, ?_⟩
    rw [support_moveConstant moved]
    exact uses_of_scalarFunction read
  | comparison _ found _ _ formula read moved =>
    refine ⟨_, ⟨_, (infix_of_comparison found).1, formula⟩, ?_⟩
    rw [support_moveConstant moved]
    exact uses_of_scalarFunction read

end Functions

/-! ## Names in force -/

/-- How a declared name is shown: a placeholder stands for a variable without a name. -/
def shownName (id : String) : Option String :=
  if (placeholderDigits? id.toList).isSome then none else some id

theorem declaredName_eq_ok {name : List Char} {position : Nat} {shown : Option String}
    (h : declaredName name position = .ok shown) : shown = shownName (String.ofList name) := by
  unfold declaredName at h
  unfold shownName
  rw [String.toList_ofList]
  split at h
  next absent =>
    cases h
    simp [absent]
  next digits found =>
    split at h
    · cases h
    · split at h <;> cases h
      simp [found]

section States

variable {N K : Type} {state next : State N K}

theorem variableNames_of_readVariables {rest : List Char}
    (h : readVariables state rest = .ok next) : next.representation.variableNames = next.names.map shownName := by
  have numbered (written : List (List Char)) :
      written.zipIdx.map (fun x => shownName (String.ofList x.1)) =
        (written.map String.ofList).map shownName := by
    rw [List.map_map]
    conv_rhs => rw [← List.zipIdx_map_fst 0 written, List.map_map]
    rfl
  obtain ⟨declared, read, h⟩ := bind_eq_ok.1 h
  cases h
  have shown := List.forall₂_map_left_iff.2
    ((mapM_eq_ok.1 read).imp fun x y h => (declaredName_eq_ok h).symm)
  rw [List.forall₂_eq_eq_eq] at shown
  exact shown.symm.trans (numbered _)

variable [Zero K] [One K] [Add K] [Mul K] [Neg K] [BEq K] [TextNumber K] [Numeral N K]

/-- Only a declaration changes the names. -/
theorem names_of_readLine {line : List Char} (other : isDeclaration line = false)
    (h : readLine state (cleanLine line) = .ok next) : next.names = state.names := by
  cases acts_of_readLine h with
  | idle => rfl
  | declares found _ =>
    rw [isDeclaration, found] at other
    cases other
  | aims _ _ _ _ h =>
    obtain ⟨t, -, h⟩ := bind_eq_ok.1 h
    obtain ⟨p, -, h⟩ := bind_eq_ok.1 h
    cases h
    rfl
  | requires => rfl

/-- The names stay as long as no line declares others. -/
theorem names_of_readLines {before rest : List (List Char)}
    (others : ∀ line ∈ rest, isDeclaration line = false) (first : readLines before = .ok state)
    (all : readLines (before ++ rest) = .ok next) : next.names = state.names := by
  induction rest using List.reverseRecOn generalizing next with
  | nil =>
    rw [List.append_nil, first] at all
    cases all
    rfl
  | append_singleton rest line ih =>
    rw [← List.append_assoc] at all
    obtain ⟨middle, read, last⟩ := readLines_concat.1 all
    have kept := names_of_readLine (others line (by simp)) last
    rw [kept]
    exact ih (fun l mem => others l (List.mem_append_left _ mem)) read

/-! ## Origins -/

/-- Where a function comes from: a line that mentions its variables by the names then in force. -/
def Origin (N : Type) [Numeral N K] (ls : List (List Char)) (f : Function K) : Prop :=
  ∃ before line after, ∃ state : State N K, ls = before ++ line :: after ∧
    readLines before = .ok state ∧ cleanLine line ≠ [] ∧ isDeclaration line = false ∧
    Mentions state.names (cleanLine line) f

theorem Origin.concat {ls : List (List Char)} {f : Function K} (h : Origin N ls f)
    (line : List Char) : Origin N (ls ++ [line]) f := by
  obtain ⟨before, origin, after, state, rfl, known⟩ := h
  exact ⟨before, origin, after ++ [line], state, by simp, known⟩

end States

end Reader

/-! ## Everything that is read -/

namespace Representation

/-- The objective and the functions of the constraints. -/
def functions (r : Representation Number Float) : List (Function Float) :=
  r.objective :: r.constraints.map Entry.function

theorem isWithin_iff {r : Representation Number Float} : r.IsWithin ↔
    ∀ f ∈ r.functions, f.Within r.variableNames.length ∧ f.family ≠ .number := by
  rw [functions, List.forall_mem_cons, List.forall_mem_map]
  exact ⟨fun h => ⟨h.objective, h.constraints⟩, fun h => ⟨h.1, h.2⟩⟩

end Representation

namespace Reader

/-- What holds after any number of lines. -/
structure IsTraced (ls : List (List Char)) (state : State Number Float) : Prop where
  names : state.representation.variableNames = state.names.map shownName
  feasibility : state.representation.sense = .feasibility →
    state.representation.objective.support = []
  origins : ∀ f ∈ state.representation.functions, f.support = [] ∨ Origin Number ls f
  families : ∀ f ∈ state.representation.functions, f.family ≠ .number

theorem isTraced_start : IsTraced [] .start where
  names := rfl
  feasibility _ := rfl
  origins f mem := by
    obtain rfl := List.mem_singleton.1 mem
    exact .inl rfl
  families f mem := by
    obtain rfl := List.mem_singleton.1 mem
    exact nofun

theorem family_ne_number {f : Function Float} (h : f.isScalar = true ∨ f.isVector = true) :
    f.family ≠ .number := by
  cases f with
  | number | nonlinear => simp [Function.isScalar, Function.isVector] at h
  | var | affine | quadratic | vars | rows => simp [Function.family]

variable {ls : List (List Char)} {line : List Char} {state next : State Number Float}

theorem IsTraced.concat (h : IsTraced ls state) (before : readLines ls = .ok state)
    (step : readLine state (cleanLine line) = .ok next) : IsTraced (ls ++ [line]) next := by
  have origins f mem := (h.origins f mem).imp_right fun origin => origin.concat line
  have here {f : Function Float} (filled : cleanLine line ≠ [])
      (other : afterKeyword? "variables" (cleanLine line) = none)
      (mentioned : Mentions state.names (cleanLine line) f) : Origin Number (ls ++ [line]) f :=
    ⟨ls, line, [], state, rfl, before, filled, by rw [isDeclaration, other]; rfl, mentioned⟩
  generalize cleanLine line = l at step here
  cases acts_of_readLine step with
  | idle => exact { h with origins }
  | declares _ read =>
    have names := variableNames_of_readVariables read
    obtain ⟨declared, -, read⟩ := bind_eq_ok.1 read
    cases read
    exact { h with names, origins }
  | aims filled other found sense read =>
    obtain ⟨t, formula, read⟩ := bind_eq_ok.1 read
    obtain ⟨p, polynomial, read⟩ := bind_eq_ok.1 read
    cases read
    have mentioned : Mentions state.names l p.toFunction := by
      refine ⟨t, .of_part (infix_of_afterKeyword? found) ⟨_, List.infix_refl _, formula⟩, ?_⟩
      exact fun v mem => Formula.Polynomial.uses_of_ofTree (mapError_eq_ok.1 polynomial) v
        (Formula.Polynomial.mem_support_toFunction mem)
    refine ⟨h.names, fun same => absurd same sense, ?_, ?_⟩
    · exact List.forall_mem_cons.2 ⟨.inr (here filled other mentioned),
        fun f mem => origins f (List.mem_cons_of_mem _ mem)⟩
    · exact List.forall_mem_cons.2 ⟨family_ne_number (.inl p.isScalar_toFunction),
        fun f mem => h.families f (List.mem_cons_of_mem _ mem)⟩
  | @requires name body f s filled other label read =>
    have made := makes_of_readConstraint read
    have inside : body <:+: l := by
      have := infix_splitLabel l
      rwa [label] at this
    have mentioned : Mentions state.names l f := by
      obtain ⟨t, formula, uses⟩ := made.mentions
      exact ⟨t, formula.of_part inside, uses⟩
    -- The new constraint comes last.
    have split {P : Function Float → Prop} (old : ∀ g ∈ state.representation.functions, P g)
        (new : P f) : ∀ g ∈ state.representation.objective ::
          (state.representation.constraints ++ [(⟨name, f, s⟩ : Entry Number Float)]).map
            Entry.function, P g := by
      rw [List.map_append, ← List.cons_append]
      exact List.forall_mem_append.2 ⟨old, List.forall_mem_singleton.2 new⟩
    exact ⟨h.names, h.feasibility, split origins (.inr (here filled other mentioned)),
      split h.families (family_ne_number (made.shape.imp_right And.left))⟩

theorem isTraced_of_readLines (h : readLines ls = .ok state) : IsTraced ls state := by
  induction ls using List.reverseRecOn generalizing state with
  | nil =>
    cases h
    exact isTraced_start
  | append_singleton ls line ih =>
    obtain ⟨middle, before, step⟩ := readLines_concat.1 h
    exact (ih before).concat before step

theorem IsTraced.positions (h : IsTraced ls state) :
    ∀ f ∈ state.representation.functions, ∀ v ∈ f.support, ∃ k : Nat, v = k := by
  intro f mem v used
  rcases h.origins f mem with none | ⟨_, _, _, _, -, -, -, -, t, -, uses⟩
  · rw [none] at used
    cases used
  · obtain ⟨id, k, -, -, same⟩ := uses v used
    exact ⟨k, same⟩

/-- Names that are not replaced any more are those that are shown. -/
theorem IsTraced.shows {before after : List (List Char)} {final : State Number Float} {k : Nat}
    {id : String} (h : IsTraced (before ++ line :: after) final)
    (all : readLines (before ++ line :: after) = .ok final) (first : readLines before = .ok state)
    (other : isDeclaration line = false) (none : ∀ later ∈ after, isDeclaration later = false)
    (named : state.names[k]? = some id) :
    final.representation.variableNames[k]? = some (shownName id) := by
  have same := names_of_readLines (List.forall_mem_cons.2 ⟨other, none⟩) first all
  rw [h.names, same, List.getElem?_map, named, Option.map_some]

/-- Whether no line is followed by a declaration but declarations and blank lines. -/
def DeclaresFirst (ls : List (List Char)) : Prop :=
  ls.Pairwise fun line later =>
    isDeclaration later = true → isDeclaration line = true ∨ cleanLine line = []

theorem DeclaresFirst.of_cut {before after : List (List Char)}
    (h : DeclaresFirst (before ++ line :: after)) (filled : cleanLine line ≠ [])
    (other : isDeclaration line = false) : ∀ later ∈ after, isDeclaration later = false := by
  rw [DeclaresFirst, List.pairwise_append, List.pairwise_cons] at h
  intro later mem
  by_contra declares
  rcases h.2.1.1 later mem (by simpa using declares) with here | blank
  · rw [other] at here
    cases here
  · exact filled blank

/-- Where the declarations come first, every position is that of a variable. -/
theorem IsTraced.isWithin (h : IsTraced ls state) (all : readLines ls = .ok state)
    (first : DeclaresFirst ls) : state.representation.IsWithin := by
  refine Representation.isWithin_iff.2 fun f mem => ⟨fun v used => ?_, h.families f mem⟩
  rcases h.origins f mem with none | ⟨_, _, _, _, rfl, known, filled, other, t, -, uses⟩
  · rw [none] at used
    cases used
  · obtain ⟨id, k, -, found, rfl⟩ := uses v used
    have shown := h.shows all known other (first.of_cut filled other)
      (Formula.getElem?_of_position? found)
    exact ⟨Int.natCast_nonneg k, Int.ofNat_lt.2 (List.getElem?_eq_some_iff.1 shown).1⟩

end Reader

/-! ## Texts -/

section Texts

variable {names : List String}

theorem nameOf_natCast {k : Nat} : (∃ name, nameOf names k = .ok name) ↔ k < names.length := by
  rw [nameOf, Position.get?_natCast]
  by_cases within : k < names.length
  · simp [within]
  · simp [within]

theorem exists_nameOf_of_termText {v : Int} {c : Float} {text : String}
    (h : termText names v c = .ok text) : ∃ name, nameOf names v = .ok name := by
  obtain ⟨name, named, -⟩ := bind_eq_ok.1 h
  exact ⟨name, named⟩

theorem exists_nameOf_of_affineText {f : Affine Float} {text : String}
    (h : f.text names = .ok text) :
    ∀ v ∈ f.terms.map Prod.fst, ∃ name, nameOf names v = .ok name := by
  intro v mem
  obtain ⟨t, term, rfl⟩ := List.mem_map.1 mem
  obtain ⟨parts, written, -⟩ := bind_eq_ok.1 h
  obtain ⟨part, -, text⟩ := exists_of_mem_right (mapM_eq_ok.1 written).flip term
  exact exists_nameOf_of_termText text

theorem exists_nameOf_of_quadraticText {f : Quadratic Float} {text : String}
    (h : f.text names = .ok text) :
    ∀ v ∈ (Function.quadratic f).support, ∃ name, nameOf names v = .ok name := by
  intro v mem
  obtain ⟨pairs, writtenPairs, h⟩ := bind_eq_ok.1 h
  obtain ⟨terms, writtenTerms, -⟩ := bind_eq_ok.1 h
  rcases List.mem_append.1 mem with mem | mem
  · -- in a pair, whose text names both its variables
    obtain ⟨t, term, mem⟩ := List.mem_flatMap.1 mem
    obtain ⟨part, -, text⟩ := exists_of_mem_right (mapM_eq_ok.1 writtenPairs).flip term
    obtain ⟨first, text, rest⟩ := bind_eq_ok.1 text
    obtain ⟨second, named, -⟩ := bind_eq_ok.1 rest
    simp only [List.mem_cons, List.not_mem_nil, or_false] at mem
    rcases mem with rfl | rfl
    · exact exists_nameOf_of_termText text
    · exact ⟨second, named⟩
  · -- in a linear term
    obtain ⟨t, term, rfl⟩ := List.mem_map.1 mem
    obtain ⟨part, -, text⟩ := exists_of_mem_right (mapM_eq_ok.1 writtenTerms).flip term
    exact exists_nameOf_of_termText text

namespace Function

mutual

/-- A function that has a text only uses variables with names. -/
theorem exists_nameOf_of_argumentText : ∀ {f : Function Float} {text : String},
    f.argumentText names = .ok text → ∀ v ∈ f.support, ∃ name, nameOf names v = .ok name
  | .number _, _, _, v, mem => by cases mem
  | .var w, text, h, v, mem => by
    obtain rfl := List.mem_singleton.1 mem
    rw [argumentText] at h
    exact ⟨text, h⟩
  | .affine f, text, h, v, mem => by
    rw [argumentText] at h
    exact exists_nameOf_of_affineText h v mem
  | .quadratic f, text, h, v, mem => by
    rw [argumentText] at h
    exact exists_nameOf_of_quadraticText h v mem
  | .vars vs, text, h, v, mem => by
    rw [argumentText] at h
    obtain ⟨parts, written, -⟩ := bind_eq_ok.1 h
    obtain ⟨part, -, named⟩ := exists_of_mem_right (mapM_eq_ok.1 written).flip mem
    exact ⟨part, named⟩
  | .rows fs, text, h, v, mem => by
    rw [argumentText] at h
    obtain ⟨parts, written, -⟩ := bind_eq_ok.1 h
    obtain ⟨f, row, mem⟩ := List.mem_flatMap.1 mem
    obtain ⟨part, -, text⟩ := exists_of_mem_right (mapM_eq_ok.1 written).flip row
    exact exists_nameOf_of_affineText text v mem
  | .nonlinear head args, text, h, v, mem => by
    rw [argumentText] at h
    obtain ⟨parts, written, -⟩ := bind_eq_ok.1 h
    exact exists_nameOf_of_argumentTexts written v (by rwa [support] at mem)

theorem exists_nameOf_of_argumentTexts : ∀ {fs : List (Function Float)} {texts : List String},
    argumentTexts names fs = .ok texts → ∀ v ∈ supportAll fs, ∃ name, nameOf names v = .ok name
  | [], _, _, v, mem => by cases mem
  | f :: fs, texts, h, v, mem => by
    rw [argumentTexts] at h
    obtain ⟨first, text, h⟩ := bind_eq_ok.1 h
    obtain ⟨others, rest, -⟩ := bind_eq_ok.1 h
    rw [supportAll] at mem
    rcases List.mem_append.1 mem with mem | mem
    · exact exists_nameOf_of_argumentText text v mem
    · exact exists_nameOf_of_argumentTexts rest v mem

end

theorem argumentText_of_text {f : Function Float} {text : String} (h : f.text names = .ok text) :
    f.argumentText names = .ok text := by
  cases f with
  | number => cases h
  | _ => exact h

end Function

end Texts

namespace Representation

variable {r : Representation Number Float}

/-- Where all positions are those of variables, there is a text. -/
theorem exists_text (h : r.IsWithin) : ∃ text, r.text = .ok text := by
  have count := r.length_displayNames
  have objective : ∃ lines, r.objectiveLines = .ok lines := by
    unfold objectiveLines
    split
    · exact exists_bind (Function.exists_text count h.objective) fun _ => ⟨_, rfl⟩
    · exact exists_bind (Function.exists_text count h.objective) fun _ => ⟨_, rfl⟩
    · exact ⟨_, rfl⟩
  have constraints := exists_mapM fun e mem => Entry.exists_text count (h.constraints e mem)
  exact exists_bind objective fun _ => exists_bind constraints fun _ => ⟨_, rfl⟩

/-- What has a text has a name for each of its positions. -/
theorem within_of_text {text : String}
    (positions : ∀ f ∈ r.functions, ∀ v ∈ f.support, ∃ k : Nat, v = k)
    (feasibility : r.sense = .feasibility → r.objective.support = []) (h : r.text = .ok text) :
    ∀ f ∈ r.functions, f.Within r.variableNames.length := by
  have within {f : Function Float} (mem : f ∈ r.functions) {text : String}
      (h : f.text r.displayNames = .ok text) : f.Within r.variableNames.length := by
    intro v used
    obtain ⟨k, rfl⟩ := positions f mem v used
    have named := nameOf_natCast.1
      (Function.exists_nameOf_of_argumentText (Function.argumentText_of_text h) _ used)
    rw [length_displayNames] at named
    exact ⟨Int.natCast_nonneg k, Int.ofNat_lt.2 named⟩
  obtain ⟨objective, aimed, h⟩ := bind_eq_ok.1 h
  obtain ⟨constraints, required, -⟩ := bind_eq_ok.1 h
  intro f mem
  rcases List.mem_cons.1 mem with rfl | entry
  · unfold objectiveLines at aimed
    split at aimed
    next =>
      obtain ⟨text, written, -⟩ := bind_eq_ok.1 aimed
      exact within mem written
    next =>
      obtain ⟨text, written, -⟩ := bind_eq_ok.1 aimed
      exact within mem written
    next sense =>
      intro v used
      rw [feasibility sense] at used
      cases used
  · obtain ⟨e, inside, rfl⟩ := List.mem_map.1 entry
    obtain ⟨line, -, written⟩ := exists_of_mem_right (mapM_eq_ok.1 required).flip inside
    obtain ⟨text, written, -⟩ := bind_eq_ok.1 written
    exact within mem written

end Representation

section Closed

open Reader Text

/-- Every position in an accepted text is that of a name in its line, among the names declared last
before the line. If no declaration follows, the name is among the final ones, shown as it is or as a
placeholder. The text can be written again exactly if all positions are positions of final names,
which they are if the declarations come first; it can then be compared with any other. -/
theorem read_closed {text : String} {r : Representation Number Float}
    (read : Representation.read text = .ok r) :
    (∀ f ∈ r.functions, f.support = [] ∨
      ∃ before line after, ∃ state : State Number Float,
        lines text.toList = before ++ line :: after ∧ readLines before = .ok state ∧
        ∃ t, HasFormula (cleanLine line) t ∧
          ∀ v ∈ f.support, ∃ (k : Nat) (id : String), v = k ∧ t.Contains (.name id) ∧
            state.names[k]? = some id ∧
            ((∀ later ∈ after, isDeclaration later = false) →
              r.variableNames[k]? = some (shownName id))) ∧
    (r.IsWithin ↔ ∃ s, r.text = .ok s) ∧
    (DeclaresFirst (lines text.toList) → r.IsWithin ∧
      ∀ s : Representation Number Float, s.IsWithin →
        (∃ told, r.explain s = .ok told) ∧ ∃ told, s.explain r = .ok told) := by
  obtain ⟨final, all, rfl⟩ := read_eq_ok.1 read
  have traced := isTraced_of_readLines all
  refine ⟨fun f mem => (traced.origins f mem).imp_right ?_, ⟨Representation.exists_text, ?_⟩, ?_⟩
  · rintro ⟨before, line, after, state, cut, known, -, other, t, formula, uses⟩
    refine ⟨before, line, after, state, cut, known, t, formula, fun v used => ?_⟩
    obtain ⟨id, k, written, found, same⟩ := uses v used
    have named := Formula.getElem?_of_position? found
    rw [cut] at traced all
    exact ⟨k, id, same, written, named, fun none => traced.shows all known other none named⟩
  · rintro ⟨s, written⟩
    have within := Representation.within_of_text traced.positions traced.feasibility written
    exact Representation.isWithin_iff.2 fun f mem => ⟨within f mem, traced.families f mem⟩
  · intro first
    have closed := traced.isWithin all first
    exact ⟨closed, fun s other => ⟨Representation.exists_explain closed other,
      Representation.exists_explain other closed⟩⟩

/-! ### Declaring twice -/

/-- The second variable is used before the declaration that leaves it out. -/
def redeclared : String := "variables: x, y\ny in Integer()\nvariables: x"

/-- A constraint on the second of one variable. -/
def unnamed : Representation Number Float :=
  ⟨[some "x"], .feasibility, .affine .zero, [⟨none, .var 1, .integer⟩]⟩

theorem read_redeclared : Representation.read redeclared = .ok unnamed := by
  have cut : lines redeclared.toList =
      ["variables: x, y".toList, "y in Integer()".toList, "variables: x".toList] := by cbv
  have clean : cleanLine "variables: x, y".toList = "variables: x, y".toList := by cbv
  have clean' : cleanLine "y in Integer()".toList = "y in Integer()".toList := by cbv
  have clean'' : cleanLine "variables: x".toList = "variables: x".toList := by cbv
  have split : splitLast? " in ".toList "y in Integer()".toList =
      some ("y".toList, "Integer()".toList) := by rfl
  have set : readSet "Integer()".toList =
      (.ok .integer : Except LineFault (ConstraintSet Number)) := by cbv
  have name : readFormula "y".toList = .ok (.name "y") := by cbv
  have whole : splitLabel "y in Integer()".toList = (none, "y in Integer()".toList) := by rfl
  have noKeyword : ∀ keyword ∈ ["variables", "minobjective", "maxobjective"],
      afterKeyword? keyword "y in Integer()".toList = none := by decide
  let declared : State Number Float :=
    ⟨["x", "y"], { Representation.empty with variableNames := [some "x", some "y"] }⟩
  let used : State Number Float :=
    ⟨["x", "y"], { unnamed with variableNames := [some "x", some "y"] }⟩
  have first : readLine .start "variables: x, y".toList = .ok declared := rfl
  have second : readLine declared "y in Integer()".toList = .ok used := by
    unfold readLine readConstraint
    simp only [noKeyword, List.mem_cons, true_or, or_true, whole, split, set, name, bind,
      Except.bind]
    rw [show scalarFunction declared.names (.name "y") = .ok (.var 1 : Function Float) from rfl]
    simp [moveConstant, ConstraintSet.isShiftable]
    rfl
  have third : readLine used "variables: x".toList = .ok ⟨["x"], unnamed⟩ := rfl
  refine read_eq_ok.2 ⟨⟨["x"], unnamed⟩, ?_, rfl⟩
  rw [cut, readLines]
  simp only [List.foldlM_cons, List.foldlM_nil, clean, clean', clean'', first, second, third, bind,
    Except.bind]
  rfl

/-- A declaration may leave a position without a name, which cannot happen if it comes first. -/
theorem read_closed_redeclared :
    (Representation.read redeclared = .ok unnamed ∧ ¬ unnamed.IsWithin ∧
      unnamed.text = .error .missing) ∧
    Representation.read "variables: x\nx in Zeros()" = .ok numberInCone ∧
      numberInCone.IsWithin := by
  have untold : unnamed.text = .error .missing := rfl
  refine ⟨⟨read_redeclared, fun within => ?_, untold⟩, read_numberInCone, ?_⟩
  · obtain ⟨s, written⟩ := (read_closed read_redeclared).2.1.1 within
    rw [untold] at written
    cases written
  · refine ((read_closed read_numberInCone).2.2 ?_).1
    have cut : lines "variables: x\nx in Zeros()".toList =
        ["variables: x".toList, "x in Zeros()".toList] := by cbv
    have clean : cleanLine "x in Zeros()".toList = "x in Zeros()".toList := by cbv
    have other : isDeclaration "x in Zeros()".toList = false := by
      rw [isDeclaration, clean]
      rfl
    rw [cut, DeclaresFirst, List.pairwise_pair, other]
    intro declares
    cases declares

end Closed

end MathProg
