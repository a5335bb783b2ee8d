/-!
# Runs of code points

Character properties are given as sorted lists of runs.  A `Run` is an
arithmetic progression of code points, so that the alternating upper and lower
case letters of a script take one entry each.

Key definitions:

* `Run.covers` decides membership of one code point in one run.
* `inRuns` decides membership in a sorted list of runs and stops at the first
  run that starts beyond the code point.
* `ShiftRun` and `shifted` do the same for maps between code points.
-/

namespace DesignTokens.Text

/-! ## Sets of code points -/

/-- The code points `first`, `first + step`, ..., `last`. -/
structure Run where
  first : Nat
  last : Nat
  step : Nat
deriving Repr, DecidableEq

/-- Whether a code point belongs to the run. -/
def Run.covers (r : Run) (n : Nat) : Bool :=
  r.first ≤ n && n ≤ r.last && (n - r.first) % r.step == 0

/-- Whether a code point belongs to one of the runs.  The runs are sorted, so
the search ends at the first run that starts after the code point. -/
def inRuns (n : Nat) : List Run → Bool
  | [] => false
  | r :: rs => if n < r.first then false else r.covers n || inRuns n rs

/-! ## Maps between code points -/

/-- A run whose members are moved together: `first` goes to `target` and the
others keep their distance to it. -/
structure ShiftRun where
  first : Nat
  last : Nat
  step : Nat
  target : Nat
deriving Repr, DecidableEq

/-- The code points that the run moves. -/
def ShiftRun.source (r : ShiftRun) : Run := ⟨r.first, r.last, r.step⟩

/-- The image of a code point, or `none` where no run moves it. -/
def shifted (n : Nat) : List ShiftRun → Option Nat
  | [] => none
  | r :: rs =>
    if n < r.first then none
    else if r.source.covers n then some (r.target + (n - r.first))
    else shifted n rs

end DesignTokens.Text
