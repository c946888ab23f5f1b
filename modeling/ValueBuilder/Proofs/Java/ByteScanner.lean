import ValueBuilder.Java.TypeScope

/-!
# Type expressions scanned by byte offsets

A second reading of type expressions, which keeps the text whole and moves an offset in bytes along
it.  It looks at the text by cutting parts out of it, and a cut off the boundaries of characters
gives nothing.  Its loops, and the types inside types, know nothing of how much text is left: they
may take a number of turns that is given, and a scan that needs more of them gives nothing either.
What it cuts, where it begins types inside types, and which names it looks up is kept in a record.
-/

namespace ValueBuilder.Java

/-! ## Parts of a text -/

/-- The part of a text between two offsets in bytes, if it has boundaries of characters there. -/
def cut? (text : String) (start stop : Nat) : Option String := do
  let first ← text.pos? ⟨start⟩
  let last ← text.pos? ⟨stop⟩
  if first ≤ last then some (text.extract first last) else none

/-! ## Scanners -/

/-- What a scan does besides moving on. -/
inductive ScanStep
  /-- Cuts out the part of the text between two offsets. -/
  | cut (start stop : Nat)
  /-- Begins a type inside another one; each is known by the offset where it begins. -/
  | nest (outer inner : Nat)
  /-- Looks up the class that a dotted name denotes. -/
  | lookup (name : String)

/-- Where a scan stands, and what it has done. -/
structure ScanState where
  position : Nat
  steps : List ScanStep

/-- Scans a text: the answer is a value or a fault, and there is none if a cut is off the
boundaries of characters or the turns do not suffice. -/
abbrev Scanner := ExceptT TypeFault (StateT ScanState Option)

namespace Scanner

/-- Where the scan stands. -/
def position : Scanner Nat := do
  return (← get).position

/-- Moves behind a character. -/
def advance (c : Char) : Scanner Unit :=
  modify fun s => { s with position := s.position + c.utf8Size }

/-- Keeps a step in the record. -/
def record (step : ScanStep) : Scanner Unit :=
  modify fun s => { s with steps := s.steps ++ [step] }

/-- Gives nothing, for want of turns. -/
def exhausted {α : Type} : Scanner α :=
  ExceptT.lift (StateT.lift none)

/-- Cuts out the part of the text between two offsets. -/
def cut (text : String) (start stop : Nat) : Scanner String := do
  record (.cut start stop)
  ExceptT.lift (StateT.lift (cut? text start stop))

/-- The next character. -/
def peek (text : String) : Scanner (Option Char) := do
  let rest ← cut text (← position) text.utf8ByteSize
  return rest.toList.head?

/-- Moves behind a run of characters. -/
def skipWhile (p : Char → Bool) (text : String) : Nat → Scanner Unit
  | 0 => exhausted
  | turns + 1 => do
    match ← peek text with
    | some c =>
      if p c then
        advance c
        skipWhile p text turns
    | none => return

/-- Moves behind blanks. -/
def skipBlanks (text : String) (turns : Nat) : Scanner Unit :=
  skipWhile Unicode.isBlank text turns

/-- Moves behind a given character, if that comes next. -/
def eat (expected : Char) (text : String) : Scanner Bool := do
  if (← peek text) == some expected then
    advance expected
    return true
  else return false

/-- The fault of a scan that cannot go on in front of `next`. -/
def stuck {α : Type} (next : Option Char) : Scanner α := do
  match next with
  | some found => throw (.unexpected (← position) found)
  | none => throw .endOfInput

/-- Moves behind a character that must follow, perhaps behind blanks. -/
def expect (expected : Char) (text : String) (turns : Nat) : Scanner Unit := do
  skipBlanks text turns
  let next ← peek text
  if next == some expected then advance expected else stuck next

/-- Cuts out the longest run of characters. -/
def run (p : Char → Bool) (text : String) (turns : Nat) : Scanner String := do
  let start ← position
  skipWhile p text turns
  cut text start (← position)

/-- Cuts out the longest run of identifier characters, which must be an identifier. -/
def identifier (text : String) (turns : Nat) : Scanner String := do
  let word ← run isIdentifierPart text turns
  if isIdentifier word then return word
  let next ← peek text
  if word.isEmpty then stuck next else throw (.invalidIdentifier word)

/-- Identifiers with dots between them: the first one, and those behind the dots. -/
def segments (text : String) : Nat → Scanner (String × List String)
  | 0 => exhausted
  | turns + 1 => do
    let first ← identifier text (turns + 1)
    if ← eat '.' text then
      let others ← segments text turns
      return (first, others.1 :: others.2)
    else return (first, [])

/-- Identifiers with dots between them, as one name. -/
def dottedName (text : String) (turns : Nat) : Scanner String := do
  let found ← segments text turns
  return ".".intercalate (found.1 :: found.2)

/-- The class that a dotted name denotes, found from the text of the name. -/
def classNamed (scope : TypeScope) (name : String) : Except TypeFault ClassName :=
  let (first, others) := splitBy '.' name.toList
  if startsWithCapital (String.ofList first) then
    .ok ((others.map String.ofList).foldl ClassName.nested (scope.lookup (String.ofList first)))
  else
    match ClassName.parse name with
    | .ok c => .ok c
    | .error _ => .error (.invalidIdentifier name)

/-- Looks up the class that a dotted name denotes. -/
def resolve (scope : TypeScope) (name : String) : Scanner ClassName := do
  record (.lookup name)
  ExceptT.mk (pure (classNamed scope name))

/-- Array suffixes behind a type. -/
def suffixes (text : String) (t : JavaType) : Nat → Scanner JavaType
  | 0 => exhausted
  | turns + 1 => do
    skipBlanks text (turns + 1)
    if ← eat '[' text then
      expect ']' text (turns + 1)
      suffixes text (.array t) turns
    else return t

/-- Refuses a bare primitive type where a type argument must stand. -/
def checkArgument (inArguments : Bool) (t : JavaType) : Scanner JavaType := do
  match inArguments, t.asPrimitive? with
  | true, some p => throw (.primitiveArgument p)
  | _, _ => return t

/-- Moves behind the question mark of a wildcard, where one may stand. -/
def eatMark (inArguments : Bool) (text : String) : Scanner Bool :=
  if inArguments then eat '?' text else pure false

/-- Begins a type inside one that begins at `outer`. -/
def nest (outer : Nat) : Scanner Unit := do
  record (.nest outer (← position))

mutual

/-- A type; a wildcard only where a type argument may stand. -/
def type (scope : TypeScope) (text : String) (inArguments : Bool) : Nat → Scanner JavaType
  | 0 => exhausted
  | turns + 1 => do
    let start ← position
    skipBlanks text (turns + 1)
    if ← eatMark inArguments text then wildcard scope text start turns
    else
      let name ← dottedName text (turns + 1)
      let t ←
        match Primitive.ofName? name with
        | some p => pure (.primitive p)
        | none =>
          if name == "void" then throw .void
          else
            let c ← resolve scope name
            let args ← arguments scope text start turns
            pure (.declared c args)
      checkArgument inArguments (← suffixes text t (turns + 1))

/-- What follows the question mark of a wildcard in a type that begins at `outer`. -/
def wildcard (scope : TypeScope) (text : String) (outer : Nat) : Nat → Scanner JavaType
  | 0 => exhausted
  | turns + 1 => do
    skipBlanks text (turns + 1)
    match ← peek text with
    | some c =>
      if Unicode.isAlphabetic c then
        let start ← position
        let keyword ← identifier text (turns + 1)
        nest outer
        let bound ← type scope text true turns
        match TypeScope.boundedBy? keyword with
        | some f => return f bound
        | none => throw (.unexpected start c)
      else return .unbounded
    | none => return .unbounded

/-- The type arguments of a class in a type that begins at `outer`, if there are any. -/
def arguments (scope : TypeScope) (text : String) (outer : Nat) : Nat → Scanner (List JavaType)
  | 0 => exhausted
  | turns + 1 => do
    skipBlanks text (turns + 1)
    if ← eat '<' text then
      skipBlanks text (turns + 1)
      if ← eat '>' text then throw .emptyArguments
      nest outer
      let arg ← type scope text true turns
      return arg :: (← moreArguments scope text outer turns)
    else return []

/-- What follows a type argument in a type that begins at `outer`, to the end of the list. -/
def moreArguments (scope : TypeScope) (text : String) (outer : Nat) :
    Nat → Scanner (List JavaType)
  | 0 => exhausted
  | turns + 1 => do
    skipBlanks text (turns + 1)
    if ← eat '>' text then return []
    else
      expect ',' text (turns + 1)
      nest outer
      let arg ← type scope text true turns
      return arg :: (← moreArguments scope text outer turns)

end

/-- A whole text as a type. -/
def whole (scope : TypeScope) (text : String) (turns : Nat) : Scanner JavaType := do
  let t ← type scope text false turns
  skipBlanks text turns
  let next ← peek text
  if next.isNone then return t else stuck next

end Scanner

/-- Scans a text from its beginning, with no more than the given number of turns in any loop. -/
def scan (scope : TypeScope) (text : String) (turns : Nat) :
    Option (Except TypeFault JavaType × ScanState) :=
  Scanner.whole scope text turns ⟨0, []⟩

end ValueBuilder.Java
