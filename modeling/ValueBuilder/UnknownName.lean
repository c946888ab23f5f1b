/-!
# Unknown names

The fault of a text that should be one of a fixed list of names and is not.
-/

namespace ValueBuilder

/-- A text that names nothing of its kind. -/
structure UnknownName where
  name : String
  deriving Repr, DecidableEq

/-- The text of the fault, which does not repeat the name. -/
def UnknownName.message (_fault : UnknownName) : String :=
  "Matching variant not found"

end ValueBuilder
