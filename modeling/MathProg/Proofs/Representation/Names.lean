import MathProg.Proofs.Formula.Expanded
import MathProg.Proofs.Formula.Written
import MathProg.Representation.Reader

/-!
# Names of variables

A variable is written as its name or, without one, as its number between brackets. Read back, the
numbers have become names of their own, and every name stands for its place.
-/

namespace MathProg

open Formula Text

/-- The names that a declaration can give back: identifiers, none of them given twice and none that
stands for a number. -/
structure IsNaming (names : List (Option String)) : Prop where
  name : ∀ name, some name ∈ names → IsName name.toList
  free : ∀ name, some name ∈ names → ∀ digits, IsNumber digits →
    name.toList ≠ "_unnamed_".toList ++ digits
  distinct : (names.filterMap id).Nodup

/-- How the variable at a position is written. -/
def variableLexeme (names : List (Option String)) (i : Nat) : Lexeme :=
  match names.getD i none with
  | some name => .word name.toList
  | none => .placeholder (Nat.toDigits 10 (i + 1))

/-- The names that are read for the variables. -/
def readNames (names : List (Option String)) : List String :=
  (List.range names.length).map (fun i => String.ofList (variableLexeme names i).named.chars)

variable {names : List (Option String)} {i : Nat}

theorem length_readNames : (readNames names).length = names.length := by
  simp [readNames]

theorem getD_readNames (h : i < names.length) :
    (readNames names).getD i "" = String.ofList (variableLexeme names i).named.chars := by
  simp [readNames, h]

theorem getElem_of_getD {name : String} (h : names.getD i none = some name) :
    ∃ inside : i < names.length, names[i] = some name := by
  by_cases inside : i < names.length
  · exact ⟨inside, by simpa [inside] using h⟩
  · simp [inside] at h

theorem mem_of_getD {name : String} (h : names.getD i none = some name) : some name ∈ names := by
  obtain ⟨inside, same⟩ := getElem_of_getD h
  exact same ▸ List.getElem_mem inside

theorem isOperand_variableLexeme (naming : IsNaming names) (i : Nat) :
    (variableLexeme names i).IsOperand := by
  unfold variableLexeme
  split
  · rename_i found
    exact naming.name _ (mem_of_getD found)
  · exact isNumber_toDigits _

/-- The names are shown as they are written. -/
theorem getElem?_displayNames {r : Representation Number Float} (naming : IsNaming r.variableNames)
    (h : i < r.variableNames.length) :
    r.displayNames[i]? = some (String.ofList (variableLexeme r.variableNames i).chars) := by
  have entry : r.variableNames[i]? = some r.variableNames[i] := List.getElem?_eq_getElem h
  rw [Representation.displayNames, List.getElem?_map, List.getElem?_zipIdx, entry, variableLexeme,
    List.getD_eq_getElem?_getD, entry]
  simp only [Option.map_some, Option.getD_some, zero_add]
  cases found : r.variableNames[i] with
  | some name =>
    have mem : some name ∈ r.variableNames := found ▸ List.getElem_mem h
    have filled : name.isEmpty = false := by
      have := ne_nil_of_isIdentifier (naming.name name mem).1
      simpa [String.isEmpty_iff] using fun same : name = "" => this (by simp [same])
    simp [filled, Lexeme.chars]
  | none =>
    have shown : Representation.displayNames.placeholder i =
        "_[" ++ toString (i + 1) ++ "]" := rfl
    have digits : toString (i + 1) = String.ofList (Nat.toDigits 10 (i + 1)) :=
      Nat.toString_eq_ofList_toDigits
    rw [shown, digits]
    congr 1
    rw [← String.toList_inj]
    simp [Lexeme.chars]

/-- The digits of a name that stands for a number. -/
theorem placeholderDigits?_placeholderName {digits : List Char} (number : IsNumber digits) :
    Reader.placeholderDigits? (Reader.placeholderName digits) = some digits := by
  have all : digits.all isDigit = true := List.all_eq_true.2 fun c mem => by
    rw [isDigit_of_name (isNameCharacter_of_digit (number.2 c mem)), number.2 c mem]
  unfold Reader.placeholderDigits? Reader.placeholderName
  generalize "_unnamed_".toList = mark
  simp [number.1, all]

/-- A name that is given back stands for no number. -/
theorem IsNaming.placeholderDigits?_eq_none (naming : IsNaming names) {name : String}
    (mem : some name ∈ names) : Reader.placeholderDigits? name.toList = none := by
  unfold Reader.placeholderDigits?
  simp only [ite_eq_right_iff, reduceCtorEq, imp_false, Bool.and_eq_true, Bool.not_eq_true',
    List.isEmpty_eq_false_iff, List.all_eq_true, not_and]
  rintro ⟨marked, filled⟩ digits
  obtain ⟨rest, same⟩ := List.isPrefixOf_iff_prefix.1 marked
  rw [← same, List.drop_left] at filled digits
  refine naming.free name mem rest ⟨filled, fun c inside => ?_⟩ same.symm
  have letter : isNameCharacter c = true := isNameCharacter_of_isIdentifier (naming.name name mem).1
    c (same ▸ List.mem_append_right _ inside)
  rw [← isDigit_of_name letter]
  exact digits c inside

/-- No two variables are read under one name. -/
theorem nodup_readNames (naming : IsNaming names) : (readNames names).Nodup := by
  have twice : ∀ {i j : Nat} {name : String}, i < j → names.getD i none = some name →
      names.getD j none ≠ some name := by
    intro i j name below first
    have apart := List.pairwise_iff_getElem.1 (List.pairwise_filterMap.1 naming.distinct)
    intro second
    obtain ⟨hi, first⟩ := getElem_of_getD first
    obtain ⟨hj, second⟩ := getElem_of_getD second
    exact apart i j hi hj below name first name second rfl
  have marked : ∀ {i j : Nat} {name : String}, names.getD i none = some name →
      name.toList ≠ Reader.placeholderName (Nat.toDigits 10 (j + 1)) := fun found =>
    naming.free _ (mem_of_getD found) _ (isNumber_toDigits _)
  rw [readNames, List.nodup_map_iff_inj_on List.nodup_range]
  intro i _ j _ same
  rw [String.ofList_inj] at same
  unfold variableLexeme at same
  split at same <;> split at same
  · rename_i a first _ b second
    obtain rfl : a = b := String.toList_inj.1 same
    rcases lt_trichotomy i j with below | rfl | above
    · exact absurd second (twice below first)
    · rfl
    · exact absurd first (twice above second)
  · rename_i first _ second
    exact absurd same (marked first)
  · rename_i first _ second
    exact absurd same.symm (marked second)
  · have digits : Nat.toDigits 10 (i + 1) = Nat.toDigits 10 (j + 1) := List.append_cancel_left same
    have number : i + 1 = j + 1 := by
      rw [← Nat.ofDigitChars_ten_toDigits (n := i + 1), digits, Nat.ofDigitChars_ten_toDigits]
    omega

theorem getD_readNames_eq_leaf (h : i < names.length) :
    (variableLexeme names i).leaf = .name ((readNames names).getD i "") := by
  rw [getD_readNames h]
  unfold variableLexeme
  split <;> rfl

/-- A written variable is read as the one at its position. -/
theorem ofTree_variable (naming : IsNaming names) (h : i < names.length) :
    Polynomial.ofTree (readNames names) (variableLexeme names i).leaf =
      .ok (Polynomial.ofVariable i : Polynomial Float) := by
  have found := Written.position?_getD (nodup_readNames naming) (length_readNames.symm ▸ h)
  rw [getD_readNames_eq_leaf h]
  simp only [Polynomial.ofTree, position, found]
  rfl

theorem readPosition_variable (naming : IsNaming names) (h : i < names.length) :
    Reader.readPosition (readNames names) ((readNames names).getD i "") = .ok (i : Int) := by
  have found := Written.position?_getD (nodup_readNames naming) (length_readNames.symm ▸ h)
  simp only [Reader.readPosition, position, found]
  rfl

/-! ## The declaration -/

/-- Parts between commas and blanks come apart. -/
theorem splitAll_intercalate {ws : List (List Char)} (filled : ws ≠ [])
    (absent : ∀ w ∈ ws, ',' ∉ w) :
    splitAll ',' (' ' :: [',', ' '].intercalate ws) = ws.map (' ' :: ·) := by
  induction ws with
  | nil => exact absurd rfl filled
  | cons w ws ih =>
    have single : ',' ∉ ' ' :: w := by simpa using absent w (by simp)
    cases ws with
    | nil => simpa using splitAll_single single
    | cons v ws =>
      have rest := ih (by simp) fun u mem => absent u (List.mem_cons_of_mem _ mem)
      have cut : ' ' :: [',', ' '].intercalate (w :: v :: ws) =
          (' ' :: w) ++ ',' :: ' ' :: [',', ' '].intercalate (v :: ws) := by
        simp
      rw [cut, splitAll_append single, rest]
      rfl

/-- A smaller number has no more digits. -/
theorem length_toDigits_mono {m n k : Nat} (le : m ≤ n) (pos : 0 < k)
    (short : (Nat.toDigits 10 n).length ≤ k) : (Nat.toDigits 10 m).length ≤ k := by
  rw [Nat.length_toDigits_le_iff (by decide) pos] at short ⊢
  exact lt_of_le_of_lt le short

/-- A name is declared as it was given, and a number as no name. -/
theorem declaredName_variable (naming : IsNaming names) (h : i < names.length)
    (few : (Nat.toDigits 10 names.length).length ≤ 4300) :
    Reader.declaredName (variableLexeme names i).named.chars i = .ok (names.getD i none) := by
  unfold variableLexeme
  cases found : names.getD i none with
  | some name =>
    simp [Reader.declaredName, Lexeme.named, Lexeme.chars, naming.placeholderDigits?_eq_none (mem_of_getD found)]
  | none =>
    have number := isNumber_toDigits (i + 1)
    have short := length_toDigits_mono (Nat.succ_le_of_lt h) (by decide) few
    have value : digitsValue (Nat.toDigits 10 (i + 1)) = i + 1 := by
      rw [digitsValue_eq number.2, Nat.ofDigitChars_ten_toDigits]
    simp only [Reader.declaredName, Lexeme.named, Lexeme.chars,
      placeholderDigits?_placeholderName number, Nat.not_lt.2 short, if_false, value, if_true]

/-- The names behind the keyword of a declaration, without a blank at the end. -/
def declaration (ws : List (List Char)) : List Char :=
  if ws.isEmpty then [] else ' ' :: [',', ' '].intercalate ws

/-- The names of a declaration are found again. -/
theorem splitAll_declaration {ws : List (List Char)} (filled : ∀ w ∈ ws, w ≠ [])
    (letters : ∀ w ∈ ws, ∀ c ∈ w, isNameCharacter c = true) :
    ((splitAll ',' (declaration ws)).map strip).filter (fun name => !name.isEmpty) = ws := by
  by_cases none : ws = []
  · subst none
    rfl
  have absent : ∀ w ∈ ws, ',' ∉ w := fun w mem comma =>
    absurd (letters w mem _ comma) (by decide)
  have trimmed : ∀ w ∈ ws, strip (' ' :: w) = w := fun w mem => by
    have blank : ∀ c ∈ w, isBlank c = false := fun c inside => isBlank_of_name (letters w mem c inside)
    rw [strip_cons rfl]
    exact strip_eq_self (fun c head => blank c (List.mem_of_mem_head? head))
      (fun c last => blank c (List.mem_of_mem_getLast? last))
  have stripped : (ws.map (' ' :: ·)).map strip = ws := by
    rw [List.map_map]
    exact (List.map_congr_left trimmed).trans (List.map_id _)
  rw [declaration, if_neg (by simpa using none), splitAll_intercalate none absent, stripped]
  exact List.filter_eq_self.2 fun w mem => by simpa using filled w mem

/-- The names as they are read. -/
def writtenNames (names : List (Option String)) : List (List Char) :=
  (List.range names.length).map (fun i => (variableLexeme names i).named.chars)

theorem isIdentifier_named (naming : IsNaming names) (i : Nat) :
    isIdentifier (variableLexeme names i).named.chars = true := by
  unfold variableLexeme
  split
  · rename_i found
    exact (naming.name _ (mem_of_getD found)).1
  · exact isIdentifier_placeholderName (isNumber_toDigits _).2

/-- A declaration gives the names back. -/
theorem readVariables_declaration (naming : IsNaming names)
    (few : (Nat.toDigits 10 names.length).length ≤ 4300) (state : Reader.State Number Float) :
    Reader.readVariables state (declaration (writtenNames names)) =
      .ok ⟨readNames names, { state.representation with variableNames := names }⟩ := by
  have identifiers : ∀ w ∈ writtenNames names, isIdentifier w = true := by
    simp only [writtenNames, List.mem_map]
    rintro _ ⟨i, -, rfl⟩
    exact isIdentifier_named naming i
  have split := splitAll_declaration (fun w mem => ne_nil_of_isIdentifier (identifiers w mem))
    (fun w mem => isNameCharacter_of_isIdentifier (identifiers w mem))
  have declared : (writtenNames names).zipIdx.mapM
      (fun t => Reader.declaredName t.1 t.2) = .ok names := by
    rw [Fallible.mapM_eq_ok, List.forall₂_iff_get]
    refine ⟨by simp [writtenNames], fun i inside here => ?_⟩
    have value := declaredName_variable naming here few
    simpa [writtenNames, here] using value
  have same : (writtenNames names).map String.ofList = readNames names := by
    simp [writtenNames, readNames]
  have read : Reader.readVariables state (declaration (writtenNames names)) =
      ((writtenNames names).zipIdx.mapM (fun t => Reader.declaredName t.1 t.2)).map
        (fun declared => ⟨(writtenNames names).map String.ofList,
          { state.representation with variableNames := declared }⟩) := by
    rw [Reader.readVariables, split]
    rfl
  rw [read, declared, same]
  rfl

end MathProg
