import Mathlib
import MathProg.Text.Cutting

/-!
# Cutting what was joined

Lines that are joined by line feeds and parts that are joined by a separator come apart again, as
long as neither occurs in them.
-/

namespace MathProg.Text

/-! ## Blanks -/

theorem stripLeft_eq_self {s : List Char} (h : ∀ c ∈ s.head?, isBlank c = false) :
    stripLeft s = s := by
  cases s with
  | nil => rfl
  | cons c s => simp [stripLeft, h c rfl]

theorem stripRight_eq_self {s : List Char} (h : ∀ c ∈ s.getLast?, isBlank c = false) :
    stripRight s = s := by
  have first : stripLeft s.reverse = s.reverse :=
    stripLeft_eq_self (by rwa [List.head?_reverse])
  rw [stripLeft] at first
  rw [stripRight, first, List.reverse_reverse]

/-- A text without blanks at its ends is not changed by removing them. -/
theorem strip_eq_self {s : List Char} (first : ∀ c ∈ s.head?, isBlank c = false)
    (last : ∀ c ∈ s.getLast?, isBlank c = false) : strip s = s := by
  rw [strip, stripLeft_eq_self first, stripRight_eq_self last]

theorem strip_cons {c : Char} {s : List Char} (h : isBlank c = true) : strip (c :: s) = strip s := by
  simp [strip, stripLeft, h]

theorem mem_strip {s : List Char} {c : Char} (h : c ∈ strip s) : c ∈ s := by
  have right : c ∈ stripLeft s := by
    have mem : c ∈ (stripLeft s).reverse.dropWhile isBlank := List.mem_reverse.1 h
    exact List.mem_reverse.1 ((List.dropWhile_suffix isBlank).subset mem)
  exact (List.dropWhile_suffix isBlank).subset right

/-! ## Lines -/

/-- The first of several lines. -/
theorem lines_append {w s : List Char} (whole : ∀ c ∈ w, isLineBreak c = false) :
    lines (w ++ '\n' :: s) = w :: lines s := by
  induction w with
  | nil => simp [lines, isLineBreak]
  | cons c w ih =>
    have inner := ih fun d mem => whole d (List.mem_cons_of_mem _ mem)
    have same : isLineBreak c = false := whole c (by simp)
    have noReturn : c ≠ '\r' := by
      rintro rfl
      exact absurd same (by decide)
    rw [List.cons_append, lines]
    · simp [same, inner]
    · exact fun rest h _ => noReturn h

theorem lines_single {w : List Char} (filled : w ≠ []) (whole : ∀ c ∈ w, isLineBreak c = false) :
    lines w = [w] := by
  induction w with
  | nil => exact absurd rfl filled
  | cons c w ih =>
    have same : isLineBreak c = false := whole c (by simp)
    have noReturn : c ≠ '\r' := by
      rintro rfl
      exact absurd same (by decide)
    rw [lines]
    · cases w with
      | nil => simp [same, lines]
      | cons d w =>
        rw [ih (by simp) fun d mem => whole d (List.mem_cons_of_mem _ mem)]
        simp [same]
    · exact fun rest h _ => noReturn h

/-- Joined lines come apart. -/
theorem lines_intercalate {ls : List (List Char)} (filled : ∀ w ∈ ls, w ≠ [])
    (whole : ∀ w ∈ ls, ∀ c ∈ w, isLineBreak c = false) :
    lines (['\n'].intercalate ls) = ls := by
  induction ls with
  | nil => rfl
  | cons w ls ih =>
    cases ls with
    | nil =>
      simpa using lines_single (filled w (by simp)) (whole w (by simp))
    | cons v ls =>
      have inner := ih (fun w mem => filled w (List.mem_cons_of_mem _ mem))
        (fun w mem => whole w (List.mem_cons_of_mem _ mem))
      have cut : ['\n'].intercalate (w :: v :: ls) = w ++ '\n' :: ['\n'].intercalate (v :: ls) := by
        simp
      rw [cut, lines_append (whole w (by simp)), inner]

/-! ## Separators -/

theorem splitAll_append {separator : Char} {w s : List Char} (absent : separator ∉ w) :
    splitAll separator (w ++ separator :: s) = w :: splitAll separator s := by
  induction w with
  | nil => simp [splitAll]
  | cons c w ih =>
    simp only [List.mem_cons, not_or] at absent
    rw [List.cons_append, splitAll, ih absent.2]
    simp [Ne.symm absent.1]

theorem splitAll_single {separator : Char} {w : List Char} (absent : separator ∉ w) :
    splitAll separator w = [w] := by
  induction w with
  | nil => rfl
  | cons c w ih =>
    simp only [List.mem_cons, not_or] at absent
    rw [splitAll, ih absent.2]
    simp [Ne.symm absent.1]

theorem eq_append_of_isPrefixOf {separator s : List Char} (h : separator.isPrefixOf s = true) :
    s = separator ++ s.drop separator.length := by
  obtain ⟨rest, rfl⟩ := List.isPrefixOf_iff_prefix.1 h
  rw [List.drop_left]

/-- The parts around the first separator make up the text. -/
theorem eq_append_of_splitFirst? {separator s before after : List Char}
    (h : splitFirst? separator s = some (before, after)) : s = before ++ (separator ++ after) := by
  induction s generalizing before with
  | nil =>
    rw [splitFirst?] at h
    split at h
    next empty =>
      obtain ⟨rfl, rfl⟩ := Prod.mk.inj (Option.some.inj h)
      simp [List.isEmpty_iff.1 empty]
    next => cases h
  | cons c s ih =>
    rw [splitFirst?] at h
    split at h
    next here =>
      obtain ⟨rfl, rfl⟩ := Prod.mk.inj (Option.some.inj h)
      exact eq_append_of_isPrefixOf here
    next =>
      obtain ⟨⟨w, v⟩, found, same⟩ := Option.map_eq_some_iff.1 h
      obtain ⟨rfl, rfl⟩ := Prod.mk.inj same
      rw [ih found, List.cons_append]

/-- The parts around the last separator make up the text. -/
theorem eq_append_of_splitLast? {separator s before after : List Char}
    (h : splitLast? separator s = some (before, after)) : s = before ++ (separator ++ after) := by
  induction s generalizing before with
  | nil =>
    rw [splitLast?] at h
    split at h
    next empty =>
      obtain ⟨rfl, rfl⟩ := Prod.mk.inj (Option.some.inj h)
      simp [List.isEmpty_iff.1 empty]
    next => cases h
  | cons c s ih =>
    rw [splitLast?] at h
    split at h
    next w v found =>
      obtain ⟨rfl, rfl⟩ := Prod.mk.inj (Option.some.inj h)
      rw [ih found, List.cons_append]
    next =>
      split at h
      next here =>
        obtain ⟨rfl, rfl⟩ := Prod.mk.inj (Option.some.inj h)
        exact eq_append_of_isPrefixOf here
      next => cases h

/-- The last separator is found where none follows. -/
theorem splitLast?_append {first : Char} {separator : List Char} (w : List Char) {s : List Char}
    (last : splitLast? (first :: separator) (separator ++ s) = none) :
    splitLast? (first :: separator) (w ++ (first :: separator ++ s)) = some (w, s) := by
  induction w with
  | nil =>
    have here : (first :: separator).isPrefixOf (first :: (separator ++ s)) = true := by
      simp [List.isPrefixOf]
    rw [List.nil_append, List.cons_append, splitLast?, last]
    simp [here]
  | cons c w ih => rw [List.cons_append, splitLast?, ih]

/-- No separator starts where its first character is missing. -/
theorem splitLast?_eq_none {first : Char} {separator s : List Char} (absent : first ∉ s) :
    splitLast? (first :: separator) s = none := by
  induction s with
  | nil => rfl
  | cons c s ih =>
    simp only [List.mem_cons, not_or] at absent
    simp [splitLast?, ih absent.2, List.isPrefixOf, absent.1]

/-- No separator is found before a text without one if its first character is missing there. -/
theorem splitLast?_append_eq_none {first : Char} {separator w s : List Char} (absent : first ∉ w)
    (rest : splitLast? (first :: separator) s = none) :
    splitLast? (first :: separator) (w ++ s) = none := by
  induction w with
  | nil => exact rest
  | cons c w ih =>
    simp only [List.mem_cons, not_or] at absent
    simp [splitLast?, ih absent.2, List.isPrefixOf, absent.1]

/-- A first character that is not followed by the rest starts no separator. -/
theorem splitLast?_cons_eq_none {first : Char} {separator s : List Char}
    (other : separator.isPrefixOf s = false) (rest : splitLast? (first :: separator) s = none) :
    splitLast? (first :: separator) (first :: s) = none := by
  simp [splitLast?, rest, List.isPrefixOf, other]

end MathProg.Text
