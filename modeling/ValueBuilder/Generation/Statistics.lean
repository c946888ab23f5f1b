import ValueBuilder.Blueprint.Basic
import ValueBuilder.Generation.Warning

/-!
# Statistics

What a run counted.  The statistics of a run are the sum of what its steps count, so they can be
added up in any grouping; only the warnings and the strategies keep their order.
-/

namespace ValueBuilder

/-- Counts over the types of a run, and its warnings. -/
structure Statistics where
  declared : Nat := 0
  generated : Nat := 0
  filtered : Nat := 0
  properties : Nat := 0
  required : Nat := 0
  /-- The strategies of the properties. -/
  strategies : List StrategyKind := []
  serializers : Nat := 0
  warnings : List Warning := []
  deriving Repr, DecidableEq

namespace Statistics

instance : Zero Statistics := ⟨{}⟩

instance : Add Statistics where
  add a b :=
    { declared := a.declared + b.declared
      generated := a.generated + b.generated
      filtered := a.filtered + b.filtered
      properties := a.properties + b.properties
      required := a.required + b.required
      strategies := a.strategies ++ b.strategies
      serializers := a.serializers + b.serializers
      warnings := a.warnings ++ b.warnings }

/-! ## What one step counts -/

/-- A number of declared types. -/
def ofDeclared (count : Nat) : Statistics :=
  { declared := count }

/-- A declared type that was not requested. -/
def ofFiltered : Statistics :=
  { filtered := 1 }

/-- The strategy of a property. -/
def ofStrategy (kind : StrategyKind) : Statistics :=
  { strategies := [kind] }

/-- Warnings. -/
def ofWarnings (warnings : List Warning) : Statistics :=
  { warnings }

/-- A type for which a file was generated. -/
def ofGenerated (b : Blueprint) : Statistics :=
  { generated := 1
    properties := b.properties.length
    required := b.required.length
    strategies := b.properties.map (·.strategy.kind)
    serializers := if b.gwtSerializable then 1 else 0 }

/-! ## Derived counts -/

/-- The declared types without a file that were requested. -/
def skipped (s : Statistics) : Nat :=
  s.warnings.countP (·.isSkipped)

/-- The kinds of strategies that occur, in the order of their names, with their counts. -/
def strategyCounts (s : Statistics) : List (StrategyKind × Nat) :=
  (StrategyKind.all.map fun kind => (kind, s.strategies.count kind)).filter (0 < ·.2)

end Statistics

end ValueBuilder
