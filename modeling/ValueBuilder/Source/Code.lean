import ValueBuilder.Java.JavaType
import ValueBuilder.Source.NameTable

/-!
# Code as data

Generated code is a list of statements, each of which writes a line: a template with its arguments,
or a text that is taken as it is.  An argument is a word that is the same in every unit, or a class
or type whose spelling is settled when the line is written.  Words keep their origin, so that what
code says can be examined without reading its text.
-/

namespace ValueBuilder

open Java

/-- Language versions that differ in what generated code may use. -/
inductive SourceLevel
  | java6
  | java7
  deriving Repr, DecidableEq

/-- A text that is the same in every unit. -/
inductive Word
  /-- Text of the generator's own. -/
  | text (s : String)
  /-- A name or a text that comes from the declaration. -/
  | name (s : String)
  /-- A field of a given object. -/
  | field (object s : String)
  /-- A constant of the enum of required properties. -/
  | constant (s : String)
  /-- A constant behind the path of its enum. -/
  | member (enum : ClassName) (s : String)
  /-- An expression that makes a builder: the path of a class between two texts. -/
  | creation (opening : String) (c : ClassName) (closing : String)
  deriving Repr

/-- An argument of a template. -/
inductive Piece
  | word (w : Word)
  /-- A class, spelled as the unit names it. -/
  | cls (c : ClassName)
  /-- A type, its classes spelled as the unit names them. -/
  | type (t : JavaType)
  deriving Repr

instance : Coe String Word := ⟨.text⟩

instance : Coe String Piece := ⟨fun s => .word (.text s)⟩

instance : Coe Word Piece := ⟨.word⟩

instance : Coe ClassName Piece := ⟨.cls⟩

instance : Coe JavaType Piece := ⟨.type⟩

/-- A name or a text that comes from the declaration, as an argument. -/
@[match_pattern]
abbrev Piece.name (s : String) : Piece :=
  .word (.name s)

/-- What writes one line. -/
inductive Statement
  /-- A template with arguments for its placeholders. -/
  | template (text : String) (args : List Piece)
  /-- Words in a row, percent signs included. -/
  | verbatim (words : List Word)
  deriving Repr

instance : Coe String Statement := ⟨fun s => .verbatim [.text s]⟩

/-- Statements in order. -/
abbrev Code := List Statement

namespace SourceLevel

/-- The name in options and messages. -/
def name : SourceLevel → String
  | java6 => "java6"
  | java7 => "java7"

instance : ToString SourceLevel := ⟨name⟩

/-- Reads a level from one of its spellings. -/
def parse (s : String) : Except UnknownName SourceLevel :=
  if ["java6", "6", "1.6"].contains s then .ok java6
  else if ["java7", "7", "1.7"].contains s then .ok java7
  else .error ⟨s⟩

/-- Whether a constructor call may leave its type arguments to the compiler. -/
def infersTypeArguments : SourceLevel → Bool
  | java6 => false
  | java7 => true

end SourceLevel

/-! ## Text -/

/-- The text of a word. -/
def Word.render : Word → String
  | .text s | .name s | .constant s => s
  | .field object s => object ++ "." ++ s
  | .member enum s => enum.nestedPath ++ "." ++ s
  | .creation opening c closing => opening ++ c.nestedPath ++ closing

/-- The text of words in a row. -/
def renderWords (words : List Word) : String :=
  words.foldr (fun word rest => word.render ++ rest) ""

namespace Piece

/-- The classes whose spelling the unit decides, in the order of the text. -/
def classes : Piece → List ClassName
  | word _ => []
  | cls c => [c]
  | type t => t.classes

/-- The text of a piece. -/
def render (spelling : Spelling) : Piece → String
  | word w => w.render
  | cls c => spelling.spell c
  | type t => t.render spelling.spell

end Piece

/-- The text of pieces in a row. -/
def renderPieces (spelling : Spelling) (pieces : List Piece) : String :=
  pieces.foldr (fun piece rest => piece.render spelling ++ rest) ""

end ValueBuilder
