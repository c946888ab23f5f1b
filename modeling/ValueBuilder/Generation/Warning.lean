/-!
# Warnings

What a run reports about types without stopping.
-/

namespace ValueBuilder

/-- A report about one type or one requested name. -/
inductive Warning
  | conversionFailed (typeName error : String)
  | generationFailed (typeName error : String)
  | serializerOmitted (typeName : String)
  | unknownRequest (name : String)
  deriving Repr, DecidableEq

namespace Warning

/-- Whether the warning means that no file was generated for a declared type. -/
def isSkipped : Warning → Bool
  | conversionFailed .. | generationFailed .. => true
  | serializerOmitted _ | unknownRequest _ => false

/-- The text of the warning. -/
def message : Warning → String
  | conversionFailed typeName error => s!"Failed to convert type '{typeName}': {error}"
  | generationFailed typeName error => s!"Failed to generate builder for '{typeName}': {error}"
  | serializerOmitted typeName =>
    s!"Type '{typeName}': GWT serialization requires a builder factory; serializer omitted"
  | unknownRequest name => s!"Type '{name}' was requested with --only but is not declared"

end Warning

end ValueBuilder
