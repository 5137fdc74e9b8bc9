import MathProg.Proofs.Representation.Accepted

/-!
# One line after the other

A text is read line by line. It is read to its end if each of its lines can be read after those
before it; otherwise the first line that cannot be is reported with its number.
-/

namespace MathProg

/-! ## Numbered steps -/

namespace Fallible

variable {α σ ε ε' : Type} {f : σ → α → Except ε σ} {g : Nat → ε → ε'}

/-- The step with the number `x.2`, which a failure reports. -/
def numberedStep (f : σ → α → Except ε σ) (g : Nat → ε → ε') (s : σ) (x : α × Nat) : Except ε' σ :=
  (f s x.1).mapError (g x.2)

/-- Numbered steps succeed as they do without numbers. -/
theorem foldlM_numberedStep_eq_ok {xs : List α} {n : Nat} {s t : σ} :
    (xs.zipIdx n).foldlM (numberedStep f g) s = .ok t ↔ xs.foldlM f s = .ok t := by
  induction xs generalizing n s with
  | nil => simp [pure, Except.pure]
  | cons x xs ih =>
    simp only [List.zipIdx_cons, List.foldlM_cons, bind_eq_ok, ih, numberedStep, mapError_eq_ok]

/-- The number that is reported is that of the first step that fails. -/
theorem foldlM_numberedStep_eq_error {xs : List α} {n : Nat} {s : σ} {e : ε'} :
    (xs.zipIdx n).foldlM (numberedStep f g) s = .error e ↔
      ∃ before x after t fault, xs = before ++ x :: after ∧ before.foldlM f s = .ok t ∧
        f t x = .error fault ∧ e = g (n + before.length) fault := by
  induction xs generalizing n s with
  | nil => simp [pure, Except.pure]
  | cons x xs ih =>
    rw [List.zipIdx_cons, List.foldlM_cons, numberedStep]
    cases first : f s x with
    | error fault =>
      change Except.error (g n fault) = Except.error e ↔ _
      rw [Except.error.injEq]
      constructor
      · rintro rfl
        exact ⟨[], x, xs, s, fault, rfl, rfl, first, rfl⟩
      · -- nothing can be read before the step that fails
        rintro ⟨_ | ⟨y, before⟩, z, after, t, fault', same, read, failed, rfl⟩
        · obtain ⟨rfl, rfl⟩ := List.cons.inj same
          cases read
          rw [first] at failed
          cases failed
          rfl
        · obtain ⟨rfl, rfl⟩ := List.cons.inj same
          rw [List.foldlM_cons, first] at read
          cases read
    | ok next =>
      change (xs.zipIdx (n + 1)).foldlM (numberedStep f g) next = .error e ↔ _
      rw [ih]
      constructor
      · rintro ⟨before, y, after, t, fault, rfl, read, failed, rfl⟩
        refine ⟨x :: before, y, after, t, fault, rfl, ?_, failed, ?_⟩
        · rw [List.foldlM_cons, first]
          exact read
        · rw [List.length_cons, Nat.add_right_comm, Nat.add_assoc]
      · rintro ⟨_ | ⟨z, before⟩, y, after, t, fault, same, read, failed, rfl⟩
        · obtain ⟨rfl, rfl⟩ := List.cons.inj same
          cases read
          rw [first] at failed
          cases failed
        · obtain ⟨rfl, rfl⟩ := List.cons.inj same
          rw [List.foldlM_cons, first] at read
          refine ⟨before, y, after, t, fault, rfl, read, failed, ?_⟩
          rw [List.length_cons, Nat.add_right_comm, Nat.add_assoc]

end Fallible

/-! ## Lines -/

namespace Reader

open Fallible
open Text (lines)

/-- Whether a line declares variables. -/
def isDeclaration (line : List Char) : Bool :=
  (afterKeyword? "variables" (cleanLine line)).isSome

variable {N K : Type} [Zero K] [One K] [Add K] [Mul K] [Neg K] [BEq K] [TextNumber K] [Numeral N K]

/-- What is known before the first line. -/
def State.start : State N K := ⟨[], .empty⟩

/-- What is known after the given lines. -/
def readLines (ls : List (List Char)) : Except LineFault (State N K) :=
  ls.foldlM (fun state line => readLine state (cleanLine line)) .start

theorem readLines_concat {ls : List (List Char)} {line : List Char} {next : State N K} :
    readLines (ls ++ [line]) = .ok next ↔
      ∃ state : State N K, readLines ls = .ok state ∧
        readLine state (cleanLine line) = .ok next := by
  rw [readLines, List.foldlM_append, bind_eq_ok]
  simp only [List.foldlM_cons, List.foldlM_nil, bind_eq_ok, pure_eq_ok, exists_eq_right]
  rfl

/-- Reading a text takes one numbered step for each line. -/
theorem read_eq (text : String) :
    Representation.read (N := N) text = State.representation <$>
      (lines text.toList).zipIdx.foldlM
        (numberedStep (fun state line => readLine state (cleanLine line)) (fun i => report (i + 1)))
        .start :=
  rfl

/-- A text is read if all of its lines are. -/
theorem read_eq_ok {text : String} {r : Representation N K} :
    Representation.read text = .ok r ↔
      ∃ state : State N K, readLines (lines text.toList) = .ok state ∧
        state.representation = r := by
  rw [read_eq, map_eq_ok]
  simp only [foldlM_numberedStep_eq_ok]
  rfl

/-- What is reported of a text is what is wrong with the first line that cannot be read after those
before it, and its number. -/
theorem read_eq_error {text : String} {e : ReadError} :
    Representation.read (N := N) text = .error e ↔
      ∃ before line after, ∃ state : State N K, ∃ fault,
        lines text.toList = before ++ line :: after ∧ readLines before = .ok state ∧
        readLine state (cleanLine line) = .error fault ∧
        e = report (before.length + 1) fault := by
  have failed (x : Except ReadError (State N K)) :
      State.representation <$> x = .error e ↔ x = .error e := by
    cases x <;> simp [Functor.map, Except.map]
  rw [read_eq, failed, foldlM_numberedStep_eq_error]
  simp only [Nat.zero_add]
  rfl

end Reader

end MathProg
