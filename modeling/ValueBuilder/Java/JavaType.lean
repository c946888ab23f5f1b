import ValueBuilder.Java.Primitive

/-!
# Java types

Types as they stand in declarations, and their text.  A writer takes the spelling of each class
from a function, so that one definition serves the fully qualified text and shorter ones.
-/

namespace ValueBuilder.Java

/-- A type, or a wildcard where a type argument may stand. -/
inductive JavaType where
  | primitive (p : Primitive)
  | declared (c : ClassName) (args : List JavaType)
  | array (component : JavaType)
  | unbounded
  | extending (bound : JavaType)
  | superOf (bound : JavaType)
  deriving Repr

namespace JavaType

/-- A class without type arguments. -/
def ofClass (c : ClassName) : JavaType :=
  declared c []

instance : Coe Primitive JavaType := ⟨primitive⟩

instance : Coe ClassName JavaType := ⟨ofClass⟩

/-! ## Text -/

mutual

/-- The text of the type, with each class spelled by `spell`. -/
def render (spell : ClassName → String) : JavaType → String
  | .primitive p => p.name
  | .declared c args => spell c ++ renderArgs spell args
  | .array component => render spell component ++ "[]"
  | .unbounded => "?"
  | .extending bound => "? extends " ++ render spell bound
  | .superOf bound => "? super " ++ render spell bound
termination_by structural t => t

/-- The text of a type argument list; an empty one leaves no trace. -/
def renderArgs (spell : ClassName → String) : List JavaType → String
  | [] => ""
  | arg :: rest => "<" ++ render spell arg ++ renderMore spell rest
termination_by structural args => args

/-- The text from behind a type argument to the end of the list. -/
def renderMore (spell : ClassName → String) : List JavaType → String
  | [] => ">"
  | arg :: rest => ", " ++ render spell arg ++ renderMore spell rest
termination_by structural args => args

end

/-- The text with qualified class names. -/
def display (t : JavaType) : String :=
  t.render ClassName.qualifiedName

instance : ToString JavaType := ⟨display⟩

mutual

/-- The classes that the type mentions, in the order of its text. -/
def classes : JavaType → List ClassName
  | .primitive _ | .unbounded => []
  | .declared c args => c :: classesOfArgs args
  | .array t | .extending t | .superOf t => classes t
termination_by structural t => t

/-- The classes that the types of a list mention. -/
def classesOfArgs : List JavaType → List ClassName
  | [] => []
  | arg :: rest => classes arg ++ classesOfArgs rest
termination_by structural args => args

end

/-! ## Shape -/

/-- Whether the type is a primitive one. -/
def isPrimitive : JavaType → Bool
  | primitive _ => true
  | _ => false

/-- The primitive type, if it is one. -/
def asPrimitive? : JavaType → Option Primitive
  | primitive p => some p
  | _ => none

/-- The class of a declared type, without its arguments. -/
def erasedClass? : JavaType → Option ClassName
  | declared c _ => some c
  | _ => none

/-- The type arguments of a declared type. -/
def arguments : JavaType → List JavaType
  | declared _ args => args
  | _ => []

/-- Whether the type's class is one of `classes`; only declared types have a class. -/
def isOneOf (classes : List ClassName) (t : JavaType) : Bool :=
  match t.erasedClass? with
  | some c => classes.contains c
  | none => false

/-- Whether a cast to the type is fully checked when the program runs. -/
def isReifiable : JavaType → Bool
  | primitive _ => true
  | declared _ args => args.isEmpty
  | array component => component.isReifiable
  | _ => false

/-! ## Boxes and bounds -/

/-- A primitive type's box, and any other type itself. -/
def boxed : JavaType → JavaType
  | primitive p => p.boxedClass
  | t => t

/-- The primitive type that the type boxes: a box class without type arguments. -/
def unboxed? : JavaType → Option Primitive
  | declared c [] => Primitive.ofBoxed? c
  | _ => none

/-- A type that boxes no primitive type. -/
structure NotBoxed where
  type : JavaType
  deriving Repr

/-- The text of the fault. -/
def NotBoxed.message (fault : NotBoxed) : String :=
  s!"'{fault.type}' has no primitive counterpart"

/-- The primitive type that the type boxes, or the fault that there is none. -/
def unbox (t : JavaType) : Except NotBoxed Primitive :=
  match t.unboxed? with
  | some p => .ok p
  | none => .error ⟨t⟩

/-- The class at the top of the hierarchy. -/
def objectClass : ClassName :=
  .topLevel languagePackage "Object"

/-- The type that a value read from a type argument is known to have. -/
def upperBound : JavaType → JavaType
  | extending bound => bound.upperBound
  | unbounded | superOf _ => objectClass
  | t => t

/-- The upper bound of the type argument at an index; a raw type has `Object` everywhere. -/
def argumentBound (t : JavaType) (index : Nat) : JavaType :=
  match t.arguments[index]? with
  | some arg => arg.upperBound
  | none => objectClass

end JavaType

end ValueBuilder.Java
