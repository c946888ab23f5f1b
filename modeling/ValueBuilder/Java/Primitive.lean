import ValueBuilder.Java.ClassName
import ValueBuilder.UnknownName

/-!
# Primitive types

The eight primitive types, the classes that box them, and their names in serialization streams.
-/

namespace ValueBuilder.Java

/-- A primitive type other than `void`. -/
inductive Primitive
  | boolean
  | byte
  | short
  | int
  | long
  | char
  | float
  | double
  deriving Repr, DecidableEq

namespace Primitive

/-- The primitive types in the order of their definition. -/
def all : List Primitive :=
  [boolean, byte, short, int, long, char, float, double]

/-- The keyword. -/
def name : Primitive → String
  | boolean => "boolean"
  | byte => "byte"
  | short => "short"
  | int => "int"
  | long => "long"
  | char => "char"
  | float => "float"
  | double => "double"

instance : ToString Primitive := ⟨name⟩

/-- The primitive type with the given keyword. -/
def ofName? (s : String) : Option Primitive :=
  all.find? (·.name == s)

/-- Reads a keyword. -/
def parse (s : String) : Except UnknownName Primitive :=
  match ofName? s with
  | some p => .ok p
  | none => .error ⟨s⟩

/-- The simple name of the box class. -/
def boxedName : Primitive → String
  | boolean => "Boolean"
  | byte => "Byte"
  | short => "Short"
  | int => "Integer"
  | long => "Long"
  | char => "Character"
  | float => "Float"
  | double => "Double"

/-- The class whose objects hold one value of the type. -/
def boxedClass (p : Primitive) : ClassName :=
  .topLevel languagePackage p.boxedName

/-- The primitive type that a class boxes. -/
def ofBoxed? (c : ClassName) : Option Primitive :=
  all.find? (·.boxedClass == c)

/-- The last part of the names of the stream methods that read and write the type. -/
def streamSuffix : Primitive → String
  | boolean => "Boolean"
  | byte => "Byte"
  | short => "Short"
  | int => "Int"
  | long => "Long"
  | char => "Char"
  | float => "Float"
  | double => "Double"

theorem ofName?_name (p : Primitive) : ofName? p.name = some p := by
  cases p <;> decide

theorem ofBoxed?_boxedClass (p : Primitive) : ofBoxed? p.boxedClass = some p := by
  cases p <;> decide

end Primitive

end ValueBuilder.Java
