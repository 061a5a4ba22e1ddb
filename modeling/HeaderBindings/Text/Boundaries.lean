/-!
Sets of code points. One way of writing a set is by its boundaries: the first code point inside, the
first one after it outside, the next one inside, and so on in ascending order. A code point is in the
set when an odd number of boundaries are at most as large as it. The other way is by runs, which suits
sets that alternate with others from one code point to the next.
-/

namespace HeaderBindings.Text

/-- Whether `code` is inside, when `inside` tells the side on which the list of boundaries starts. -/
def insideFrom (code : Nat) (inside : Bool) : List Nat → Bool
  | [] => inside
  | boundary :: rest => if code < boundary then inside else insideFrom code (!inside) rest

/-- Whether `code` is in the set with these boundaries. -/
def withinBoundaries (boundaries : List Nat) (code : Nat) : Bool :=
  insideFrom code false boundaries

/-- The code points `first`, `first + stride`, … up to `last`. -/
structure CodeRun where
  first : Nat
  last : Nat
  stride : Nat

/-- Whether a code point is in one of the runs. -/
def withinRuns (runs : List CodeRun) (code : Nat) : Bool :=
  runs.any fun run => run.first ≤ code && code ≤ run.last && (code - run.first) % run.stride = 0

end HeaderBindings.Text
