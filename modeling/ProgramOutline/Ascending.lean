/-!
# Ascending numbers

Numbers in ascending order, each of them once, and the place of a bound among them. The place is
found by bisection.
-/

namespace ProgramOutline.Ascending

/-- The listed numbers in ascending order and without repetition. -/
def ofList (numbers : List Nat) : Array Nat := numbers.mergeSort.eraseReps.toArray

/-- The first position from `lo` up to `hi` whose entry exceeds `bound`, in an ascending array. -/
def bisect (numbers : Array Nat) (bound lo hi : Nat) : Nat :=
  if lo < hi then
    let mid := (lo + hi) / 2
    if numbers.getD mid 0 ≤ bound then bisect numbers bound (mid + 1) hi
    else bisect numbers bound lo mid
  else lo
termination_by hi - lo

/-- The number of entries of an ascending array that do not exceed `bound`. -/
def rank (numbers : Array Nat) (bound : Nat) : Nat := bisect numbers bound 0 numbers.size

/-- The first entry of an ascending array that exceeds `bound`. -/
def above? (numbers : Array Nat) (bound : Nat) : Option Nat := numbers[rank numbers bound]?

end ProgramOutline.Ascending
