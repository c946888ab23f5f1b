import ValueBuilder.Java.ClassName
import ValueBuilder.Text.Sorted

/-!
# Class names in a unit

In a compilation unit each simple name belongs to one class.  The first top-level class that needs
a name gets it, and is imported if it lives elsewhere; other classes of that name are written with
their packages.  Names of member classes are reserved before anything is written.
-/

namespace ValueBuilder

open Java

/-- Why a class owns its simple name. -/
inductive Claim
  /-- It is a member class of the unit's own class. -/
  | member
  /-- It is a top-level class that the text names. -/
  | mention
  deriving Repr, DecidableEq

/-- The owner of a simple name. -/
structure Owner where
  name : String
  owner : ClassName
  claim : Claim
  deriving Repr, DecidableEq

/-- The simple names of a unit and their owners, in the order in which they were claimed. -/
structure NameTable where
  package : String
  owners : List Owner
  deriving Repr

namespace NameTable

/-- The table of a unit in which no name is claimed yet. -/
def empty (package : String) : NameTable :=
  ⟨package, []⟩

/-- The owner of a simple name. -/
def owner? (table : NameTable) (name : String) : Option ClassName :=
  (table.owners.find? (·.name == name)).map (·.owner)

/-- Gives a free name to a class; a name that has an owner keeps it. -/
def own (table : NameTable) (name : String) (c : ClassName) (claim : Claim) : NameTable :=
  match table.owner? name with
  | some _ => table
  | none => { table with owners := table.owners ++ [⟨name, c, claim⟩] }

/-- Reserves the simple name of a member class. -/
def reserve (table : NameTable) (c : ClassName) : NameTable :=
  table.own c.simpleName c .member

/-- Lets a class that the text names claim the simple name of its top-level class. -/
def mention (table : NameTable) (c : ClassName) : NameTable :=
  table.own c.outermost c.topLevelClass .mention

/-- The text of a class: the path from its top-level class if that class owns its name, else the
qualified name. -/
def spell (table : NameTable) (c : ClassName) : String :=
  if table.owner? c.outermost == some c.topLevelClass then c.nestedPath else c.qualifiedName

/-- Whether a top-level class is visible in the unit without an import. -/
def seesWithoutImport (table : NameTable) (c : ClassName) : Bool :=
  c.package == table.package || c.package.isEmpty || c.isLanguageClass

/-- Whether an owner of a name has to be imported. -/
def needsImport (table : NameTable) (entry : Owner) : Bool :=
  entry.claim == .mention && !table.seesWithoutImport entry.owner

/-- The qualified names of the imported classes, in ascending order. -/
def imports (table : NameTable) : List String :=
  sorted ((table.owners.filter table.needsImport).map (·.owner.qualifiedName))

end NameTable

/-- How a text names classes. -/
inductive Spelling
  /-- By the path from the top-level class, with no regard to packages. -/
  | bare
  /-- By the names that a unit gives to its classes. -/
  | importing (table : NameTable)
  deriving Repr

namespace Spelling

/-- The text of a class. -/
def spell : Spelling → ClassName → String
  | bare, c => c.nestedPath
  | importing table, c => table.spell c

/-- Takes note of a class that the text names. -/
def mention : Spelling → ClassName → Spelling
  | bare, _ => bare
  | importing table, c => importing (table.mention c)

/-- Takes note of a member class. -/
def reserve : Spelling → ClassName → Spelling
  | bare, _ => bare
  | importing table, c => importing (table.reserve c)

/-- The text of a class that is named now, and the spelling that took note of it. -/
def shorten (spelling : Spelling) (c : ClassName) : String × Spelling :=
  let noted := spelling.mention c
  (noted.spell c, noted)

/-- Takes note of classes in the order in which the text names them. -/
def mentionAll (spelling : Spelling) (classes : List ClassName) : Spelling :=
  classes.foldl mention spelling

/-- Takes note of member classes in order. -/
def reserveAll (spelling : Spelling) (classes : List ClassName) : Spelling :=
  classes.foldl reserve spelling

end Spelling

end ValueBuilder
