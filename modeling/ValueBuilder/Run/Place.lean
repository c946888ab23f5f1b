import ValueBuilder.Text.Split

/-!
# Places

A place is known by the names on the way to it from the directory of a run.  A way that leaves this
directory begins with steps up, or with `/` when it begins at the root of the disk.
-/

namespace ValueBuilder

/-- The names on the way to a file or a directory. -/
abbrev Place := List String

namespace Place

/-- The root of the disk. -/
def root : Place :=
  ["/"]

/-- Whether the place does not lie in the directory of the run. -/
def isOutside (place : Place) : Bool :=
  match place with
  | [] => false
  | name :: _ => name == ".." || name == "/"

/-- Whether there is a directory at the place in any case: the directory of the run and those it
lies in. -/
def isGiven (place : Place) : Bool :=
  place == root || place.all (· == "..")

/-- The directory around a place; the root has none but itself. -/
def above (place : Place) : Place :=
  if place == root then root
  else if place.isGiven then place ++ [".."]
  else place.dropLast

/-- Whether a step of a path leads nowhere else. -/
def staysHere (name : String) : Bool :=
  name == "" || name == "."

/-- Where a step of a path leads. -/
def step (here : Place) (name : String) : Place :=
  if staysHere name then here
  else if name == ".." then here.above
  else here ++ [name]

/-- Where a path starts. -/
def start (path : String) : Place :=
  if path.toList.head? == some '/' then root else []

/-- The place that a path leads to. -/
def ofPath (path : String) : Place :=
  (parts '/' path).foldl step (start path)

end Place

end ValueBuilder
