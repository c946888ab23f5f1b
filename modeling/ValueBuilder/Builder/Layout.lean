import ValueBuilder.Blueprint.Basic
import ValueBuilder.Source.Code

/-!
# Layout of generated code

The statements that recur in the members of a generated class.
-/

namespace ValueBuilder

open Java

/-- Parts of code, one behind the other. -/
def joined {α : Type} (parts : List (List α)) : List α :=
  parts.flatten

namespace Blueprint

/-- The builder's simple name. -/
def builderName (b : Blueprint) : Piece :=
  .name b.builder.simpleName

/-- Says in a comment that a method returns the builder itself. -/
def returnsBuilder (b : Blueprint) : Statement :=
  .template "   * @return this \x7b@code %s\x7d object" [b.builderName]

/-- The statement that returns the builder itself. -/
def returnBuilder (b : Blueprint) : Statement :=
  .template "    return (%s) this;" [b.builder]

/-- A line of a comment with a link to the getter of a property; the template has a placeholder for
the target and one for the getter. -/
def linkGetter (b : Blueprint) (p : Property) (template : String) : Statement :=
  .template template [b.target, .name p.getter]

/-- A reference to the enum constant of a required property. -/
def constantOf (b : Blueprint) (p : Property) : Word :=
  .member b.propertyEnum p.constant

end Blueprint

end ValueBuilder
