import ValueBuilder.Java.ClassName

/-!
# Builder factories

The three ways in which generated code can obtain a fresh builder.
-/

namespace ValueBuilder

open Java

/-- How a new builder is made. -/
inductive Factory
  | constructor
  | builderMethod
  | newBuilderMethod
  deriving Repr, DecidableEq

namespace Factory

/-- The factories in the order of their definition. -/
def all : List Factory :=
  [constructor, builderMethod, newBuilderMethod]

/-- The expression with the enclosing names left out. -/
def display : Factory → String
  | constructor => "new Builder()"
  | builderMethod => "builder()"
  | newBuilderMethod => "newBuilder()"

/-- The name in declaration files. -/
def declaredName : Factory → String
  | constructor => "no_args_constructor"
  | builderMethod => "builder_method"
  | newBuilderMethod => "new_builder_method"

/-- The factory of a name in declaration files. -/
def ofDeclaredName? (s : String) : Option Factory :=
  all.find? (·.declaredName == s)

/-- The class that the expression names: the builder, or the type whose static method is called. -/
def namedClass (factory : Factory) (builder target : ClassName) : ClassName :=
  match factory with
  | constructor => builder
  | builderMethod | newBuilderMethod => target

/-- What stands before the class in the expression. -/
def opening : Factory → String
  | constructor => "new "
  | builderMethod | newBuilderMethod => ""

/-- What stands behind the class in the expression. -/
def closing : Factory → String
  | constructor => "()"
  | builderMethod => ".builder()"
  | newBuilderMethod => ".newBuilder()"

/-- The expression that makes a new builder, such as `new Person.Builder()`. -/
def expression (factory : Factory) (builder target : ClassName) : String :=
  factory.opening ++ (factory.namedClass builder target).nestedPath ++ factory.closing

end Factory

end ValueBuilder
