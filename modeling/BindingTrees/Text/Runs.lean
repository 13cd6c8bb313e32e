/-!
# Sets of characters by runs

A set of characters is given by its maximal runs of neighbouring code points, each
by its first and last, in ascending order.  Membership is decided by halving.
-/

set_option autoImplicit false

namespace BindingTrees.Text

/-- Runs of code points, each by its first and last, in ascending order. -/
abbrev Runs := Array (UInt32 × UInt32)

/-- Whether a code point lies in one of the runs numbered `low` to `high - 1`,
by halving the range. -/
def inRun (runs : Runs) (point : UInt32) (low high : Nat) : Bool :=
  if low < high then
    let middle := (low + high) / 2
    match runs[middle]? with
    | none => false
    | some (first, last) =>
        if point < first then inRun runs point low middle
        else if last < point then inRun runs point (middle + 1) high
        else true
  else false
termination_by high - low

/-- Whether a character lies in one of the runs. -/
def inRuns (runs : Runs) (c : Char) : Bool := inRun runs c.val 0 runs.size

end BindingTrees.Text
