/-!
# Runs of code points

Properties of characters are tables: lists of code point ranges, or of runs that step through a
range with a stride (capital and small letters often alternate).
-/

namespace ValueBuilder.Unicode

/-- Whether some range of the list, both ends included, holds the code point. -/
def inRanges (ranges : List (Nat × Nat)) (code : Nat) : Bool :=
  ranges.any fun range => range.1 ≤ code && code ≤ range.2

/-- The code points `first`, `first + stride`, … up to `last`. -/
structure CodeRun where
  first : Nat
  last : Nat
  stride : Nat
  deriving Repr, DecidableEq

/-- Whether the code point is one of the run's. -/
def CodeRun.covers (run : CodeRun) (code : Nat) : Bool :=
  run.first ≤ code && code ≤ run.last && (code - run.first) % run.stride == 0

/-- Whether some run of the list holds the code point. -/
def inRuns (runs : List CodeRun) (code : Nat) : Bool :=
  runs.any (·.covers code)

end ValueBuilder.Unicode
