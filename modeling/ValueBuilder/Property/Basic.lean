import ValueBuilder.Property.Naming
import ValueBuilder.Property.Strategy

/-!
# Properties

One getter of a value type, with every form of its name that generated code needs.
-/

namespace ValueBuilder

open Java

/-- A property of a value type. -/
structure Property where
  name : String
  capitalized : String
  /-- The name of the property's constant in the enum of properties that must be set. -/
  constant : String
  getter : String
  type : JavaType
  /-- Whether a cast from `Object` to the stored type is checked when the program runs. -/
  castIsChecked : Bool
  strategy : Strategy
  deriving Repr

namespace Property

/-- Whether the property must be set before the builder can build. -/
def tracksUnset (p : Property) : Bool :=
  p.strategy.tracksUnset

/-- The type of the property's field in finished values. -/
def storedType (p : Property) : JavaType :=
  p.strategy.storedType p.type

/-- The primitive type of that field, if it has one. -/
def storedPrimitive? (p : Property) : Option Primitive :=
  p.storedType.asPrimitive?

/-- Whether that field may be `null` in a finished value. -/
def isNullable (p : Property) : Bool :=
  p.strategy.isNullable

/-- The property of a getter under a given name: all else follows from the name, the type and
whether the builder's constructor sets a default. -/
def ofGetter (name getter : String) (type : JavaType) (hasDefault : Bool) : Property :=
  let strategy := Strategy.bind ⟨type, capitalize name, hasDefault⟩
  { name
    capitalized := capitalize name
    constant := constantCase name
    getter
    type
    castIsChecked := (strategy.storedType type).isReifiable
    strategy }

end Property

end ValueBuilder
