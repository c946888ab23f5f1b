import ValueBuilder.Java.TypeScope

/-!
# The grammar of type expressions

Which texts are type expressions, and of which type.  The relations of this module take a text and
the rest of it behind the phrase, and say nothing about how a reader finds the phrase: blanks are
optional in any number, and only words are maximal.

    Type      ::= blanks Name [Arguments] (blanks '[' blanks ']')*
    Arguments ::= blanks '<' Argument (blanks ',' Argument)* blanks '>'
    Argument  ::= blanks '?' blanks [('extends' | 'super') Argument]
                | Type, unless it is a bare primitive

A primitive name takes no arguments, and `void` names no type.
-/

namespace ValueBuilder.Java.Grammar

/-! ## Words -/

/-- Any number of blanks stands before the rest. -/
def Blanks (cs rest : List Char) : Prop :=
  ∃ blanks : List Char, (∀ c ∈ blanks, Unicode.isBlank c = true) ∧ cs = blanks ++ rest

/-- A character, perhaps behind blanks. -/
def Mark (c : Char) (cs rest : List Char) : Prop :=
  Blanks cs (c :: rest)

/-- A run of identifier characters that is an identifier and that the next character does not
continue. -/
structure Word (cs : List Char) (word : String) (rest : List Char) : Prop where
  spelled : cs = word.toList ++ rest
  identifier : isIdentifier word = true
  maximal : ∀ c more, rest = c :: more → isIdentifierPart c = false

/-- Words with single dots between them. -/
inductive Name : List Char → String → List String → List Char → Prop
  | last {cs rest : List Char} {word : String} (hword : Word cs word rest) : Name cs word [] rest
  | dotted {cs more rest : List Char} {word next : String} {others : List String}
      (hword : Word cs word ('.' :: more)) (hmore : Name more next others rest) :
      Name cs word (next :: others) rest

/-! ## Types -/

/-- Array suffixes behind a type `t`, which make it the type `u`. -/
inductive Suffixes : JavaType → List Char → JavaType → List Char → Prop
  | none {t : JavaType} {cs : List Char} : Suffixes t cs t cs
  | array {t u : JavaType} {cs inside more rest : List Char} (hopen : Mark '[' cs inside)
      (hclose : Mark ']' inside more) (hmore : Suffixes (.array t) more u rest) :
      Suffixes t cs u rest

/-- A dotted name that is neither a primitive type nor `void`. -/
def NamesClass (first : String) (others : List String) : Prop :=
  others = [] → (∀ p : Primitive, first ≠ p.name) ∧ first ≠ "void"

mutual

/-- A type outside of type arguments. -/
inductive TypeText (scope : TypeScope) : List Char → JavaType → List Char → Prop
  | primitive {cs body more rest : List Char} {p : Primitive} {t : JavaType}
      (hblanks : Blanks cs body) (hname : Name body p.name [] more)
      (hsuffixes : Suffixes (.primitive p) more t rest) : TypeText scope cs t rest
  | declared {cs body more behind rest : List Char} {first : String} {others : List String}
      {args : List JavaType} {t : JavaType}
      (hblanks : Blanks cs body) (hname : Name body first others more)
      (hclass : NamesClass first others) (hargs : Arguments scope more args behind)
      (hsuffixes : Suffixes (.declared (scope.resolve first others) args) behind t rest) :
      TypeText scope cs t rest

/-- The type arguments of a class, if there are any. -/
inductive Arguments (scope : TypeScope) : List Char → List JavaType → List Char → Prop
  | none {cs : List Char} : Arguments scope cs [] cs
  | some {cs inside more rest : List Char} {arg : JavaType} {others : List JavaType}
      (hopen : Mark '<' cs inside) (harg : Argument scope inside arg more)
      (hmore : MoreArguments scope more others rest) : Arguments scope cs (arg :: others) rest

/-- What follows the first type argument, to the end of the list. -/
inductive MoreArguments (scope : TypeScope) : List Char → List JavaType → List Char → Prop
  | close {cs rest : List Char} (hclose : Mark '>' cs rest) : MoreArguments scope cs [] rest
  | comma {cs inside more rest : List Char} {arg : JavaType} {others : List JavaType}
      (hcomma : Mark ',' cs inside) (harg : Argument scope inside arg more)
      (hmore : MoreArguments scope more others rest) : MoreArguments scope cs (arg :: others) rest

/-- A type argument or the bound of a wildcard. -/
inductive Argument (scope : TypeScope) : List Char → JavaType → List Char → Prop
  | unbounded {cs more rest : List Char} (hmark : Mark '?' cs more) (hblanks : Blanks more rest) :
      Argument scope cs .unbounded rest
  | extending {cs more body behind rest : List Char} {bound : JavaType} (hmark : Mark '?' cs more)
      (hblanks : Blanks more body) (hkeyword : Word body "extends" behind)
      (hbound : Argument scope behind bound rest) : Argument scope cs (.extending bound) rest
  | superOf {cs more body behind rest : List Char} {bound : JavaType} (hmark : Mark '?' cs more)
      (hblanks : Blanks more body) (hkeyword : Word body "super" behind)
      (hbound : Argument scope behind bound rest) : Argument scope cs (.superOf bound) rest
  | type {cs rest : List Char} {t : JavaType} (htype : TypeText scope cs t rest)
      (hprimitive : t.isPrimitive = false) : Argument scope cs t rest

end

/-- The whole text, blanks at its end apart, is a type. -/
def Denotes (scope : TypeScope) (text : String) (t : JavaType) : Prop :=
  ∃ rest, TypeText scope text.toList t rest ∧ ∀ c ∈ rest, Unicode.isBlank c = true

/-! ## The shape of types -/

mutual

/-- Types that may stand outside of type arguments: no wildcard, and only proper type arguments
below. -/
def IsType : JavaType → Prop
  | .primitive _ => True
  | .declared _ args => AreArguments args
  | .array component => IsType component
  | .unbounded | .extending _ | .superOf _ => False
termination_by structural t => t

/-- Types that may stand as a type argument or as the bound of a wildcard: wildcards, and all types
but the primitive ones. -/
def IsArgument : JavaType → Prop
  | .primitive _ => False
  | .declared _ args => AreArguments args
  | .array component => IsType component
  | .unbounded => True
  | .extending bound | .superOf bound => IsArgument bound
termination_by structural t => t

/-- Lists of types that may stand as type arguments. -/
def AreArguments : List JavaType → Prop
  | [] => True
  | arg :: rest => IsArgument arg ∧ AreArguments rest
termination_by structural args => args

end

end ValueBuilder.Java.Grammar
