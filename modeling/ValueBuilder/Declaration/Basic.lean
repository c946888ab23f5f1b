import ValueBuilder.Blueprint.Factory
import ValueBuilder.Text.Split

/-!
# Declarations

What a declaration file asks for: value types by name, and the getters of each.  Names and types
are still plain text here.
-/

namespace ValueBuilder

/-- Whether a value type is a class or an interface. -/
inductive TypeKind
  | abstractClass
  | interface
  deriving Repr, DecidableEq

namespace TypeKind

/-- The kinds in the order of their definition. -/
def all : List TypeKind :=
  [abstractClass, interface]

/-- The name in declaration files. -/
def declaredName : TypeKind → String
  | abstractClass => "abstract_class"
  | interface => "interface"

end TypeKind

/-- The builder that a value type has as a member class. -/
structure BuilderDeclaration where
  name : String := "Builder"
  /-- How a new builder is made, if generated code can make one. -/
  factory : Option Factory := some .constructor
  serializable : Bool := false
  deriving Repr, DecidableEq

/-- A getter of a value type. -/
structure PropertyDeclaration where
  getter : String
  /-- The type expression of what the getter returns. -/
  type : String
  hasDefault : Bool := false
  deriving Repr, DecidableEq

/-- A value type. -/
structure TypeDeclaration where
  name : String
  kind : TypeKind := .abstractClass
  builder : BuilderDeclaration := {}
  gwtCompatible : Bool := false
  gwtSerializable : Bool := false
  /-- Classes that type expressions may name by their simple names. -/
  imports : List String := []
  properties : List PropertyDeclaration := []
  deriving Repr, DecidableEq

/-- The simple name of the type: what follows the last dot of its name. -/
def TypeDeclaration.simpleName (declaration : TypeDeclaration) : String :=
  lastPart '.' declaration.name

/-- A declaration file. -/
structure DeclarationFile where
  types : List TypeDeclaration
  deriving Repr, DecidableEq

end ValueBuilder
