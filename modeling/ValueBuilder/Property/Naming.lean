import ValueBuilder.Java.JavaType
import ValueBuilder.Unicode.LetterCase

/-!
# Property names

A property takes its name from its getter.  The prefixes `get` and `is` are stripped only when
every getter of the type carries one; `is` counts for primitive `boolean` getters alone.  From the
name follow the capitalised form in method names and the constant form in the property enum.
-/

namespace ValueBuilder

/-! ## Letter case of names -/

/-- The name with its first character in capitals. -/
def capitalize (name : String) : String :=
  match name.toList with
  | [] => ""
  | c :: cs => String.ofList (Unicode.upper c ++ cs)

/-- Whether a name starts with two capitals, as abbreviations do. -/
def startsWithAbbreviation : List Char → Bool
  | c :: d :: _ => Unicode.isUppercase c && Unicode.isUppercase d
  | _ => false

/-- The name with its first character small, unless it starts with an abbreviation: `FirstName`
becomes `firstName`, and `URL` stays. -/
def decapitalize (name : String) : String :=
  match name.toList with
  | [] => ""
  | c :: cs =>
    if startsWithAbbreviation (c :: cs) then name else String.ofList (Unicode.lower c ++ cs)

/-- Characters that separate words. -/
def isWordSeparator (c : Char) : Bool :=
  c == ' ' || c == '-' || c == '_'

/-- The characters of a name with underscores between its words.  A word ends at a separator, and
where a small letter meets a capital. -/
def underscored : List Char → List Char
  | [] => []
  | [c] => [if isWordSeparator c then '_' else c]
  | c :: d :: cs =>
    let here := if isWordSeparator c then '_' else c
    if Unicode.isLowercase c && Unicode.isUppercase d then here :: '_' :: underscored (d :: cs)
    else here :: underscored (d :: cs)

/-- The form of constants: `firstName` becomes `FIRST_NAME`. -/
def constantCase (name : String) : String :=
  String.ofList ((underscored name.toList).flatMap Unicode.upper)

/-! ## Getters -/

/-- Characters that may follow a getter's prefix. -/
def opensStem (c : Char) : Bool :=
  c.isUpper || c.isDigit || c == '_' || c == '$'

/-- Whether a text can stand behind a getter's prefix; it holds no line break. -/
def isStem : List Char → Bool
  | [] => false
  | c :: cs => opensStem c && cs.all (· != '\n')

/-- What stands behind the getter's prefix, if it has a usable one. -/
def getterStem? (getter : String) (type : Java.JavaType) : Option String :=
  match getter.toList with
  | 'g' :: 'e' :: 't' :: stem => if isStem stem then some (String.ofList stem) else none
  | 'i' :: 's' :: stem =>
    if isStem stem && type.asPrimitive? == some .boolean then some (String.ofList stem) else none
  | _ => none

/-- The names of the properties that getters and their types stand for, in order. -/
def propertyNames (getters : List (String × Java.JavaType)) : List String :=
  if getters.all fun getter => (getterStem? getter.1 getter.2).isSome then
    getters.map fun getter => ((getterStem? getter.1 getter.2).map decapitalize).getD getter.1
  else getters.map (·.1)

end ValueBuilder
