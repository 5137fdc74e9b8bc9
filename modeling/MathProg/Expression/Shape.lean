/-!
# Shapes of arrays

An array is a flat list of entries beside its shape, the lengths of its axes; the last axis runs
fastest. Arrays of different shapes go together when, aligned at the last axis, every two lengths
are equal or one of them is one. An axis of length one is then repeated, and a missing axis counts
as one of length one.
-/

namespace MathProg.Shape

/-- How many entries an array of the shape has. -/
def size (shape : List Nat) : Nat :=
  shape.foldl (· * ·) 1

/-- So many pieces of a list, all of one length. -/
def pieces {α : Type} (length : Nat) : Nat → List α → List (List α)
  | 0, _ => []
  | count + 1, xs => xs.take length :: pieces length count (xs.drop length)

/-- The entries of an array, cut along its first axis. -/
def slices {α : Type} (shape : List Nat) (entries : List α) : List (List α) :=
  match shape with
  | [] => [entries]
  | count :: rest => pieces (size rest) count entries

/-- The length that two axes have together. -/
def commonAxis? (m n : Nat) : Option Nat :=
  if m = n || n = 1 then some m
  else if m = 1 then some n
  else none

/-- The shape with axes of length one in front, up to so many axes. -/
def pad (axes : Nat) (shape : List Nat) : List Nat :=
  List.replicate (axes - shape.length) 1 ++ shape

/-- The shape that two arrays have together. -/
def common? (s t : List Nat) : Option (List Nat) :=
  let axes := max s.length t.length
  ((pad axes s).zip (pad axes t)).mapM (fun (m, n) => commonAxis? m n)

/-- The entries of an array repeated along the axes of length one, up to a shape of as many axes. -/
def stretch {α : Type} : List Nat → List Nat → List α → List α
  | m :: ms, n :: ns, entries =>
    let parts := (pieces (size ms) m entries).map (stretch ms ns)
    if m = n then parts.flatten else (List.replicate n parts.flatten).flatten
  | _, _, entries => entries

/-- The entries of two arrays in pairs, with the shape that they have together. -/
def pair? {α β : Type} (s : List Nat) (xs : List α) (t : List Nat) (ys : List β) :
    Option (List Nat × List (α × β)) :=
  (common? s t).map (fun shape =>
    let axes := shape.length
    (shape, (stretch (pad axes s) shape xs).zip (stretch (pad axes t) shape ys)))

theorem commonAxis?_self (n : Nat) : commonAxis? n n = some n := by
  simp [commonAxis?]

theorem stretch_nil {α : Type} (entries : List α) : stretch [] [] entries = entries := rfl

end MathProg.Shape
