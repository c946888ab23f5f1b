import ValueBuilder.Java.Library
import ValueBuilder.Reading
import ValueBuilder.Unicode.Blank

/-!
# Reading type expressions

A type expression is read the way a compilation unit would resolve it: a package and a list of
single-class imports decide what an unqualified name denotes.  Blanks may stand anywhere but inside
a dotted name.  Every reader takes a list of characters and leaves a rest that is shorter, which is
why reading ends; the first fault from the left is the answer.
-/

namespace ValueBuilder.Java

/-! ## Faults -/

/-- Why a text is no type expression. -/
inductive TypeFault
  | endOfInput
  /-- A character that cannot stand where it does, with its offset in bytes. -/
  | unexpected (position : Nat) (found : Char)
  | invalidIdentifier (word : String)
  | emptyArguments
  | primitiveArgument (p : Primitive)
  | void
  deriving Repr, DecidableEq

/-- A fault and the text that has it. -/
structure TypeError where
  input : String
  fault : TypeFault
  deriving Repr, DecidableEq

/-- The text of the error. -/
def TypeError.message (error : TypeError) : String :=
  match error.fault with
  | .endOfInput => s!"unexpected end of type '{error.input}'"
  | .unexpected position found =>
    s!"unexpected '{found}' at position {position} in type '{error.input}'"
  | .invalidIdentifier word => s!"'{word}' is not a valid Java identifier in '{error.input}'"
  | .emptyArguments => s!"empty type argument list in '{error.input}'"
  | .primitiveArgument p => s!"primitive '{p}' cannot be a type argument in '{error.input}'"
  | .void => "'void' is not a property type"

/-- The length of a text in bytes of UTF-8. -/
def utf8Length : List Char → Nat
  | [] => 0
  | c :: cs => c.utf8Size + utf8Length cs

/-- The fault of a reader that cannot go on in front of `rest`. -/
def stuckAt (input rest : List Char) : TypeFault :=
  match rest with
  | [] => .endOfInput
  | c :: _ => .unexpected (utf8Length input - utf8Length rest) c

/-! ## Characters and names -/

/-- The text behind leading blanks. -/
def skipBlanks (cs : List Char) : List Char :=
  cs.dropWhile Unicode.isBlank

/-- The text behind a given first character. -/
def dropChar? (expected : Char) : List Char → Option (List Char)
  | [] => none
  | c :: cs => if c == expected then some cs else none

theorem length_skipBlanks_le (cs : List Char) : (skipBlanks cs).length ≤ cs.length :=
  length_dropWhile_le _ cs

theorem eq_cons_of_dropChar? {expected : Char} {cs rest : List Char}
    (h : dropChar? expected cs = some rest) : cs = expected :: rest := by
  cases cs with
  | nil => simp [dropChar?] at h
  | cons c cs =>
    simp only [dropChar?, beq_iff_eq] at h
    split at h
    · simp_all
    · simp at h

theorem length_lt_of_dropChar? {expected : Char} {cs rest : List Char}
    (h : dropChar? expected cs = some rest) : rest.length < cs.length := by
  simp [eq_cons_of_dropChar? h]

theorem length_lt_of_dropChar?_skipBlanks {expected : Char} {cs rest : List Char}
    (h : dropChar? expected (skipBlanks cs) = some rest) : rest.length < cs.length :=
  Nat.lt_of_lt_of_le (length_lt_of_dropChar? h) (length_skipBlanks_le cs)

theorem length_dropWhile_lt {p : Char → Bool} {cs : List Char}
    (h : spellsIdentifier (cs.takeWhile p) = true) : (cs.dropWhile p).length < cs.length := by
  cases cs with
  | nil => simp [spellsIdentifier] at h
  | cons c cs =>
    by_cases hc : p c = true
    · simp only [List.dropWhile_cons, hc, if_true, List.length_cons]
      exact Nat.lt_succ_of_le (length_dropWhile_le p cs)
    · simp [hc, spellsIdentifier] at h

/-- A reading of what stands behind a character, which may stand behind blanks. -/
def behindChar {α : Type} {c : Char} {cs rest : List Char}
    (h : dropChar? c (skipBlanks cs) = some rest) (reading : Reading Char α (rest.length + 1)) :
    Reading Char α cs.length :=
  reading.weaken (length_lt_of_dropChar?_skipBlanks h)

/-- A reading of what stands behind blanks. -/
def behindBlanks {α : Type} {cs : List Char}
    (reading : Reading Char α ((skipBlanks cs).length + 1)) : Reading Char α (cs.length + 1) :=
  reading.weaken (Nat.succ_le_succ (length_skipBlanks_le cs))

/-- The reading of a value that takes blanks alone. -/
def blanksOnly {α : Type} (value : α) (cs : List Char) : Reading Char α (cs.length + 1) :=
  behindBlanks (.nothing value (skipBlanks cs))

/-- Reads a character that must follow, perhaps behind blanks. -/
def readChar (input : List Char) (expected : Char) (cs : List Char) :
    Except TypeFault (Reading Char Unit cs.length) :=
  match h : dropChar? expected (skipBlanks cs) with
  | some rest => .ok (behindChar h (.nothing () rest))
  | none => .error (stuckAt input (skipBlanks cs))

/-- Reads the longest run of identifier characters, which must be an identifier. -/
def readIdentifier (input cs : List Char) : Except TypeFault (Reading Char String cs.length) :=
  let word := cs.takeWhile isIdentifierPart
  if h : spellsIdentifier word then
    .ok ⟨String.ofList word, cs.dropWhile isIdentifierPart, length_dropWhile_lt h⟩
  else if word.isEmpty then .error (stuckAt input cs)
  else .error (.invalidIdentifier (String.ofList word))

/-- Reads identifiers with dots between them: the first one, and those behind the dots. -/
def readDottedName (input cs : List Char) :
    Except TypeFault (Reading Char (String × List String) cs.length) := do
  let first ← readIdentifier input cs
  have := first.shorter
  match h : dropChar? '.' first.rest with
  | none => return first.map (·, [])
  | some more =>
    have dropped := length_lt_of_dropChar? h
    let others ← readDottedName input more
    return first.after ((others.weaken (Nat.le_succ_of_le (Nat.le_of_lt dropped))).map fun others =>
      (first.value, others.1 :: others.2))
termination_by cs.length

/-! ## Resolution -/

/-- What unqualified names denote in a compilation unit. -/
structure TypeScope where
  package : String
  imports : List ClassName
  deriving Repr

namespace TypeScope

/-- The class that a capitalised name denotes: the last import of that simple name, else a class
that needs no import, else a class of the unit's own package. -/
def lookup (scope : TypeScope) (name : String) : ClassName :=
  match scope.imports.reverse.find? (·.simpleName == name) with
  | some imported => imported
  | none =>
    if Library.languageClassNames.contains name then .topLevel languagePackage name
    else .topLevel scope.package name

/-- The class that a dotted name denotes.  A capitalised first segment is looked up, and the others
are member classes; any other name is qualified. -/
def resolve (scope : TypeScope) (first : String) (others : List String) : ClassName :=
  if startsWithCapital first then others.foldl ClassName.nested (scope.lookup first)
  else ClassName.ofSegments first others

/-! ## Types -/

/-- The primitive type or `void` that a dotted name may be instead of a class. -/
def primitiveNamed? (first : String) : List String → Option Primitive
  | [] => Primitive.ofName? first
  | _ :: _ => none

/-- Whether a dotted name is the word `void`. -/
def namesVoid (first : String) (others : List String) : Bool :=
  others.isEmpty && first == "void"

/-- The wildcard that a keyword makes of a bound. -/
def boundedBy? (keyword : String) : Option (JavaType → JavaType) :=
  if keyword == "extends" then some .extending
  else if keyword == "super" then some .superOf
  else none

/-- The text behind the question mark of a wildcard, where one may stand. -/
def dropMark? (inArguments : Bool) (cs : List Char) : Option (List Char) :=
  if inArguments then dropChar? '?' cs else none

theorem length_lt_of_dropMark?_skipBlanks {inArguments : Bool} {cs rest : List Char}
    (h : dropMark? inArguments (skipBlanks cs) = some rest) : rest.length < cs.length := by
  rw [dropMark?] at h
  split at h
  · exact length_lt_of_dropChar?_skipBlanks h
  · exact absurd h (by simp)

/-- Whether a wildcard with a bound goes on here. -/
def startsKeyword (cs : List Char) : Bool :=
  cs.head?.any Unicode.isAlphabetic

/-- Reads the array suffixes behind a type. -/
def readSuffixes (input : List Char) (t : JavaType) (cs : List Char) :
    Except TypeFault (Reading Char JavaType (cs.length + 1)) := do
  match h : dropChar? '[' (skipBlanks cs) with
  | none => return blanksOnly t cs
  | some inside =>
    have := length_lt_of_dropChar?_skipBlanks h
    let closed ← readChar input ']' inside
    have := closed.shorter
    let suffixed ← readSuffixes input (.array t) closed.rest
    return (behindChar h (closed.after suffixed).loosen).loosen
termination_by cs.length

mutual

/-- Reads a type; a wildcard only where a type argument may stand. -/
def readType (scope : TypeScope) (input : List Char) (inArguments : Bool) (cs : List Char) :
    Except TypeFault (Reading Char JavaType cs.length) := do
  match h : dropMark? inArguments (skipBlanks cs) with
  | some rest =>
    have marked := length_lt_of_dropMark?_skipBlanks h
    let wildcard ← readWildcard scope input rest
    return wildcard.weaken marked
  | none =>
    have skipped := length_skipBlanks_le cs
    let name ← readDottedName input (skipBlanks cs)
    have := name.shorter
    match primitiveNamed? name.value.1 name.value.2 with
    | some p =>
      let suffixed ← readSuffixes input (.primitive p) name.rest
      if inArguments && suffixed.value.isPrimitive then throw (.primitiveArgument p)
      return (name.after suffixed).weaken skipped
    | none =>
      if namesVoid name.value.1 name.value.2 then throw .void
      let args ← readArguments scope input name.rest
      have := args.shorter
      let c := scope.resolve name.value.1 name.value.2
      let suffixed ← readSuffixes input (.declared c args.value) args.rest
      return (name.after (args.after suffixed)).weaken skipped
termination_by cs.length

/-- Reads what follows the question mark of a wildcard.  The bound is read before its keyword is
judged. -/
def readWildcard (scope : TypeScope) (input cs : List Char) :
    Except TypeFault (Reading Char JavaType (cs.length + 1)) := do
  have := length_skipBlanks_le cs
  if startsKeyword (skipBlanks cs) then
    let keyword ← readIdentifier input (skipBlanks cs)
    have := keyword.shorter
    let bound ← readType scope input true keyword.rest
    match boundedBy? keyword.value with
    | some wildcard => return behindBlanks (keyword.after bound.loosen).loosen |>.map wildcard
    | none => throw (stuckAt input (skipBlanks cs))
  else return blanksOnly .unbounded cs
termination_by cs.length

/-- Reads a type argument list, if one follows. -/
def readArguments (scope : TypeScope) (input cs : List Char) :
    Except TypeFault (Reading Char (List JavaType) (cs.length + 1)) := do
  match h : dropChar? '<' (skipBlanks cs) with
  | none => return blanksOnly [] cs
  | some inside =>
    have := length_lt_of_dropChar?_skipBlanks h
    if (dropChar? '>' (skipBlanks inside)).isSome then throw .emptyArguments
    let arg ← readType scope input true inside
    have := arg.shorter
    let others ← readMoreArguments scope input arg.rest
    return (behindChar h (arg.after (others.loosen.map (arg.value :: ·))).loosen).loosen
termination_by cs.length

/-- Reads from behind a type argument to the end of the list. -/
def readMoreArguments (scope : TypeScope) (input cs : List Char) :
    Except TypeFault (Reading Char (List JavaType) cs.length) := do
  match h : dropChar? '>' (skipBlanks cs) with
  | some rest => return behindChar h (.nothing [] rest)
  | none =>
    let comma ← readChar input ',' cs
    have := comma.shorter
    let arg ← readType scope input true comma.rest
    have := arg.shorter
    let others ← readMoreArguments scope input arg.rest
    return comma.after (arg.after (others.loosen.map (arg.value :: ·))).loosen
termination_by cs.length

end

/-- Reads a whole text as a type. -/
def parse (scope : TypeScope) (text : String) : Except TypeError JavaType :=
  match scope.readType text.toList false text.toList with
  | .error fault => .error ⟨text, fault⟩
  | .ok reading =>
    if (skipBlanks reading.rest).isEmpty then .ok reading.value
    else .error ⟨text, stuckAt text.toList (skipBlanks reading.rest)⟩

end TypeScope

end ValueBuilder.Java
