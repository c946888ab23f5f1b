import ValueBuilder.Declaration.Basic
import ValueBuilder.Json.Record

/-!
# Reading declaration files

Declaration files are JSON.  Keys that no record knows are refused.
-/

namespace ValueBuilder

open Json

/-- The kinds of types by name. -/
def TypeKind.decoder : Decoder TypeKind :=
  choice (TypeKind.all.map fun kind => (kind.declaredName, kind))

/-- The factories by name. -/
def Factory.decoder : Decoder Factory :=
  choice (Factory.all.map fun factory => (factory.declaredName, factory))

namespace BuilderDeclaration

/-- The fields of a builder's record. -/
def fields : Fields (String × Option Factory × Bool × Unit) :=
  let omitted : BuilderDeclaration := {}
  .and ⟨"name", text, omitted.name⟩ <|
  .and ⟨"factory", nullable Factory.decoder, some omitted.factory⟩ <|
  .and ⟨"serializable", boolean, omitted.serializable⟩ .done

/-- Reads a builder. -/
def decoder : Decoder BuilderDeclaration :=
  record "BuilderDeclaration" fields fun (name, factory, serializable, ()) =>
    ⟨name, factory, serializable⟩

end BuilderDeclaration

namespace PropertyDeclaration

/-- The fields of a property's record. -/
def fields : Fields (String × String × Bool × Unit) :=
  .and ⟨"getter", text, none⟩ <|
  .and ⟨"type", text, none⟩ <|
  .and ⟨"has_default", boolean, some false⟩ .done

/-- Reads a property. -/
def decoder : Decoder PropertyDeclaration :=
  record "PropertyDeclaration" fields fun (getter, type, hasDefault, ()) =>
    ⟨getter, type, hasDefault⟩

end PropertyDeclaration

namespace TypeDeclaration

/-- The fields of a type's record. -/
def fields : Fields (String × TypeKind × BuilderDeclaration × Bool × Bool × List String ×
    List PropertyDeclaration × Unit) :=
  .and ⟨"name", text, none⟩ <|
  .and ⟨"kind", TypeKind.decoder, some .abstractClass⟩ <|
  .and ⟨"builder", BuilderDeclaration.decoder, some {}⟩ <|
  .and ⟨"gwt_compatible", boolean, some false⟩ <|
  .and ⟨"gwt_serializable", boolean, some false⟩ <|
  .and ⟨"imports", list text, some []⟩ <|
  .and ⟨"properties", list PropertyDeclaration.decoder, some []⟩ .done

/-- Reads a type. -/
def decoder : Decoder TypeDeclaration :=
  record "TypeDeclaration" fields
    fun (name, kind, builder, gwtCompatible, gwtSerializable, imports, properties, ()) =>
      { name, kind, builder, gwtCompatible, gwtSerializable, imports, properties }

end TypeDeclaration

namespace DeclarationFile

/-- The fields of the file's record. -/
def fields : Fields (List TypeDeclaration × Unit) :=
  .and ⟨"types", list TypeDeclaration.decoder, none⟩ .done

/-- Reads a file's record. -/
def decoder : Decoder DeclarationFile :=
  record "DeclarationFile" fields fun (types, ()) => ⟨types⟩

/-- Reads a whole file. -/
def decode (bytes : List UInt8) : Except Fault DeclarationFile :=
  Json.decode decoder bytes

/-- The text of the error of a file that cannot be read.  Only a file that is JSON of another form
is told what is wrong with it. -/
def faultMessage : Fault → String
  | .mismatch cause => "invalid declaration file: " ++ cause.message
  | .malformed | .truncated => "invalid declaration file"

end DeclarationFile

end ValueBuilder
