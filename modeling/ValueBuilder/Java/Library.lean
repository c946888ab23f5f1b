import ValueBuilder.Java.JavaType

/-!
# Library classes

The classes of the platform and of its libraries that generated builders refer to, and the
platform's classes that a type expression may name without an import.
-/

namespace ValueBuilder.Java.Library

/-- Classes of `java.lang` that type expressions may name by their simple names. -/
def languageClassNames : List String :=
  ["Boolean", "Byte", "CharSequence", "Character", "Class", "Comparable", "Double", "Enum", "Float",
    "IllegalStateException", "Integer", "Iterable", "Long", "NullPointerException", "Number",
    "Object", "Override", "Short", "String", "SuppressWarnings", "UnsupportedOperationException",
    "Void"]

/-! ## The platform -/

def iterable : ClassName := .topLevel languagePackage "Iterable"

def suppressWarnings : ClassName := .topLevel languagePackage "SuppressWarnings"

def serializable : ClassName := .topLevel "java.io" "Serializable"

def arrayList : ClassName := .topLevel "java.util" "ArrayList"

def arrays : ClassName := .topLevel "java.util" "Arrays"

def collection : ClassName := .topLevel "java.util" "Collection"

def collections : ClassName := .topLevel "java.util" "Collections"

def enumSet : ClassName := .topLevel "java.util" "EnumSet"

def linkedHashMap : ClassName := .topLevel "java.util" "LinkedHashMap"

def linkedHashSet : ClassName := .topLevel "java.util" "LinkedHashSet"

def list : ClassName := .topLevel "java.util" "List"

def map : ClassName := .topLevel "java.util" "Map"

def mapEntry : ClassName := map.nested "Entry"

def platformOptional : ClassName := .topLevel "java.util" "Optional"

def set : ClassName := .topLevel "java.util" "Set"

def generated : ClassName := .topLevel "javax.annotation" "Generated"

def nullable : ClassName := .topLevel "javax.annotation" "Nullable"

/-! ## Guava -/

def gwtCompatible : ClassName := .topLevel "com.google.common.annotations" "GwtCompatible"

def visibleForTesting : ClassName := .topLevel "com.google.common.annotations" "VisibleForTesting"

def guavaOptional : ClassName := .topLevel "com.google.common.base" "Optional"

def joiner : ClassName := .topLevel "com.google.common.base" "Joiner"

def preconditions : ClassName := .topLevel "com.google.common.base" "Preconditions"

def immutableList : ClassName := .topLevel "com.google.common.collect" "ImmutableList"

def immutableMap : ClassName := .topLevel "com.google.common.collect" "ImmutableMap"

def immutableSet : ClassName := .topLevel "com.google.common.collect" "ImmutableSet"

/-! ## Remote procedure calls -/

def customFieldSerializer : ClassName :=
  .topLevel "com.google.gwt.user.client.rpc" "CustomFieldSerializer"

def serializationException : ClassName :=
  .topLevel "com.google.gwt.user.client.rpc" "SerializationException"

def streamReader : ClassName :=
  .topLevel "com.google.gwt.user.client.rpc" "SerializationStreamReader"

def streamWriter : ClassName :=
  .topLevel "com.google.gwt.user.client.rpc" "SerializationStreamWriter"

end ValueBuilder.Java.Library
