import ValueBuilder.Java.Identifier
import ValueBuilder.Text.Split

/-!
# Class names

A class is known by its package and by the simple names that lead to it from its top-level class.
A qualified name does not mark where the package ends: by convention the first segment with an
ASCII capital starts the class part, and a name without one has a single, lower-case class.
-/

namespace ValueBuilder.Java

/-- A top-level or nested class.  The default package is the empty text. -/
structure ClassName where
  package : String
  outermost : String
  /-- The simple names below the top-level class, outer ones first. -/
  inner : List String
  deriving Repr, DecidableEq

/-- The package whose classes need no import. -/
def languagePackage : String := "java.lang"

/-- Whether the text starts with one of the letters `A` to `Z`. -/
def startsWithCapital (segment : String) : Bool :=
  match segment.toList with
  | [] => false
  | c :: _ => c.isUpper

namespace ClassName

/-- A class directly in a package. -/
def topLevel (package simpleName : String) : ClassName :=
  ⟨package, simpleName, []⟩

/-- A member class. -/
def nested (c : ClassName) (simpleName : String) : ClassName :=
  { c with inner := c.inner ++ [simpleName] }

/-- All simple names, the top-level class first. -/
def names (c : ClassName) : List String :=
  c.outermost :: c.inner

/-- The class's own name, without those that enclose it. -/
def simpleName (c : ClassName) : String :=
  c.inner.getLastD c.outermost

/-- The top-level class that holds the class. -/
def topLevelClass (c : ClassName) : ClassName :=
  { c with inner := [] }

/-- The dotted path of simple names, such as `Person.Builder`. -/
def nestedPath (c : ClassName) : String :=
  ".".intercalate c.names

/-- The simple names joined by underscores, such as `Outer_Person`. -/
def flatName (c : ClassName) : String :=
  "_".intercalate c.names

/-- The path below the package, qualified unless the package is the default one. -/
def qualifiedName (c : ClassName) : String :=
  if c.package.isEmpty then c.nestedPath else c.package ++ "." ++ c.nestedPath

instance : ToString ClassName := ⟨qualifiedName⟩

/-- Whether the class is visible everywhere by its simple name. -/
def isLanguageClass (c : ClassName) : Bool :=
  c.package == languagePackage

/-! ## Reading qualified names -/

/-- The class that segments denote after those in `package`: the first with an ASCII capital opens
the class part, and the last one does so if none has. -/
def ofSegmentsBelow (package : List String) (first : String) : List String → ClassName
  | [] => topLevel (".".intercalate package) first
  | next :: rest =>
    if startsWithCapital first then ⟨".".intercalate package, first, next :: rest⟩
    else ofSegmentsBelow (package ++ [first]) next rest

/-- The class that the segments of a qualified name denote. -/
def ofSegments (first : String) (rest : List String) : ClassName :=
  ofSegmentsBelow [] first rest

end ClassName

/-- A dotted name with a segment that is no identifier. -/
structure InvalidSegment where
  input : String
  segment : String
  deriving Repr, DecidableEq

/-- The text of the fault. -/
def InvalidSegment.message (fault : InvalidSegment) : String :=
  s!"'{fault.segment}' is not a valid Java identifier in '{fault.input}'"

/-- Reads a qualified name; the first segment that is no identifier is the fault. -/
def ClassName.parse (qualified : String) : Except InvalidSegment ClassName :=
  let (first, rest) := splitBy '.' qualified.toList
  match (first :: rest).find? (!spellsIdentifier ·) with
  | some segment => .error ⟨qualified, String.ofList segment⟩
  | none => .ok (ofSegments (String.ofList first) (rest.map String.ofList))

end ValueBuilder.Java
