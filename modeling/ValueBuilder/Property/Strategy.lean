import ValueBuilder.Java.Library

/-!
# Storage strategies

How a builder stores one property: as it is, as a nullable element of an optional, or as a list,
set or map that grows.  The declared type decides; rules are tried in a fixed order, and the plain
strategy takes what no other one does.
-/

namespace ValueBuilder

open Java

/-- The element type of a container, with the primitive type that stands in for it in method
parameters when there is one. -/
structure Element where
  type : JavaType
  unboxed : Option Primitive
  deriving Repr

namespace Element

/-- An element that is unboxed whenever its type is a box class. -/
def ofType (t : JavaType) : Element :=
  ⟨t, t.unboxed?⟩

/-- The type of method parameters. -/
def parameter (e : Element) : JavaType :=
  match e.unboxed with
  | some p => p
  | none => e.type

/-- Whether callers can pass `null`. -/
def isNullable (e : Element) : Bool :=
  e.unboxed.isNone

end Element

/-- The two libraries that declare an optional class. -/
inductive OptionalFlavour
  | guava
  | platform
  deriving Repr, DecidableEq

namespace OptionalFlavour

/-- The optional class. -/
def optionalClass : OptionalFlavour → ClassName
  | guava => Library.guavaOptional
  | platform => Library.platformOptional

/-- The method that makes an empty optional. -/
def absentMethod : OptionalFlavour → String
  | guava => "absent"
  | platform => "empty"

/-- The method that makes an optional of a nullable value. -/
def nullableMethod : OptionalFlavour → String
  | guava => "fromNullable"
  | platform => "ofNullable"

/-- The optional class applied to a type argument. -/
def optionalOf (flavour : OptionalFlavour) (argument : JavaType) : JavaType :=
  .declared flavour.optionalClass [argument]

end OptionalFlavour

/-- The names of the methods that set and clear an optional property. -/
structure OptionalMethods where
  /-- Sets the property. -/
  optionalSetter : String
  /-- Sets the property, or clears it for `null`. -/
  nullableSetter : String
  /-- Clears the property. -/
  clearMethod : String
  deriving Repr

/-- The methods of a property that has the given name, capitalized. -/
def OptionalMethods.ofName (capitalized : String) : OptionalMethods where
  optionalSetter := "set" ++ capitalized
  nullableSetter := "setNullable" ++ capitalized
  clearMethod := "clear" ++ capitalized

/-- A capitalized name stands for the methods that are named after it. -/
instance : Coe String OptionalMethods := ⟨.ofName⟩

/-- How a property is stored.  A plain property without a default has to be set before the builder
can build. -/
inductive Strategy
  | plain (setter : String) (hasDefault : Bool)
  | optional (flavour : OptionalFlavour) (methods : OptionalMethods) (element : Element)
  | list (element : Element)
  | set (element : Element)
  | map (key value : Element)
  deriving Repr

/-- Strategies without their details. -/
inductive StrategyKind
  | plain
  | optional
  | list
  | set
  | map
  deriving Repr, DecidableEq

namespace StrategyKind

/-- The kinds, in the order of their names. -/
def all : List StrategyKind :=
  [plain, list, map, optional, set]

/-- The name in reports. -/
def name : StrategyKind → String
  | plain => "Default"
  | optional => "Optional"
  | list => "List"
  | set => "Set"
  | map => "Map"

/-- The name in statistics, in small letters. -/
def smallName : StrategyKind → String
  | plain => "default"
  | optional => "optional"
  | list => "list"
  | set => "set"
  | map => "map"

/-- The kind of a given name. -/
def ofName? (s : String) : Option StrategyKind :=
  all.find? (·.name == s)

end StrategyKind

namespace Strategy

/-- The kind of a strategy. -/
def kind : Strategy → StrategyKind
  | plain .. => .plain
  | optional .. => .optional
  | list _ => .list
  | set _ => .set
  | map .. => .map

/-- Whether the property starts unset and must be set before the builder can build. -/
def tracksUnset : Strategy → Bool
  | plain _ hasDefault => !hasDefault
  | _ => false

/-- Whether the stored value may be `null` in a finished value. -/
def isNullable : Strategy → Bool
  | optional .. => true
  | _ => false

/-- Whether clearing the property copies from a fresh builder. -/
def clearsFromTemplate : Strategy → Bool
  | plain .. | optional .. => true
  | _ => false

/-- The type that a finished value stores. -/
def storedType (declared : JavaType) : Strategy → JavaType
  | optional _ _ element => element.type
  | _ => declared

-- The methods are known by these names beside the other parts of a strategy, too.
export OptionalMethods (optionalSetter nullableSetter clearMethod)

/-! ## Binding -/

/-- What decides about a property's strategy. -/
structure Request where
  declared : JavaType
  capitalized : String
  hasDefault : Bool
  deriving Repr

/-- Lists and other collections. -/
def bindList? (r : Request) : Option Strategy :=
  if r.declared.isOneOf [Library.collection, Library.list, Library.immutableList] then
    some (.list (.ofType (r.declared.argumentBound 0)))
  else none

/-- Sets. -/
def bindSet? (r : Request) : Option Strategy :=
  if r.declared.isOneOf [Library.set, Library.immutableSet] then
    some (.set (.ofType (r.declared.argumentBound 0)))
  else none

/-- Maps. -/
def bindMap? (r : Request) : Option Strategy :=
  if r.declared.isOneOf [Library.map, Library.immutableMap] then
    some (.map (.ofType (r.declared.argumentBound 0)) (.ofType (r.declared.argumentBound 1)))
  else none

/-- Optionals of either library. -/
def bindOptional? (r : Request) : Option Strategy :=
  let bound (flavour : OptionalFlavour) : Strategy :=
    .optional flavour (.ofName r.capitalized) (.ofType (r.declared.argumentBound 0))
  if r.declared.isOneOf [Library.guavaOptional] then some (bound .guava)
  else if r.declared.isOneOf [Library.platformOptional] then some (bound .platform)
  else none

/-- Any type, with a setter that has the property's name. -/
def bindPlain (r : Request) : Strategy :=
  .plain ("set" ++ r.capitalized) r.hasDefault

/-- The rules in the order in which they are tried. -/
def rules : List (Request → Option Strategy) :=
  [bindList?, bindSet?, bindMap?, bindOptional?, fun r => some (bindPlain r)]

/-- The strategy of the first rule that applies. -/
def bind (r : Request) : Strategy :=
  (rules.findSome? (· r)).getD (bindPlain r)

end Strategy

end ValueBuilder
