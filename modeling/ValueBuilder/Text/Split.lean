/-!
# Splitting texts

The parts of a text between separators.  There is always a first part, which may be empty.
-/

namespace ValueBuilder

/-- The parts between separators: the first one, and those behind each separator. -/
def splitBy (separator : Char) : List Char → List Char × List (List Char)
  | [] => ([], [])
  | c :: cs =>
    let (first, others) := splitBy separator cs
    if c == separator then ([], first :: others) else (c :: first, others)

/-- All parts between separators. -/
def parts (separator : Char) (s : String) : List String :=
  let (first, others) := splitBy separator s.toList
  (first :: others).map String.ofList

/-- The part behind the last separator. -/
def lastPart (separator : Char) (s : String) : String :=
  (parts separator s).getLastD ""

end ValueBuilder
