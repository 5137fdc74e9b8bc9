/-!
# Positions in lists

An entry of a list is known by its position. Positions count from zero, and negative ones count back
from the end: `-1` is the last entry, the first of the reversed list.
-/

namespace MathProg.Position

/-- The entry at a position, if there is one. -/
def get? {α : Type} (xs : List α) (position : Int) : Option α :=
  let i := if position < 0 then position + xs.length else position
  if i < 0 then none else xs[i.toNat]?

theorem get?_natCast {α : Type} (xs : List α) (i : Nat) : get? xs i = xs[i]? := by
  have h : ¬ (i : Int) < 0 := by omega
  simp [get?, h]

theorem get?_negSucc {α : Type} (xs : List α) (i : Nat) :
    get? xs (Int.negSucc i) = xs.reverse[i]? := by
  have h : Int.negSucc i < 0 := Int.negSucc_lt_zero i
  by_cases hi : i < xs.length
  · have hn : ¬ Int.negSucc i + xs.length < 0 := by omega
    have hk : (Int.negSucc i + xs.length).toNat = xs.length - 1 - i := by omega
    simp [get?, h, hn, hk, List.getElem?_reverse hi]
  · have hn : Int.negSucc i + xs.length < 0 := by omega
    have hr : xs.reverse[i]? = none := by simp; omega
    simp [get?, h, hn, hr]

end MathProg.Position
