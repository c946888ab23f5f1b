import Mathlib.Algebra.GroupWithZero.Nat
import ValueBuilder.Proofs.Generation.Files
import ValueBuilder.Run.Script

/-!
# The accounts of a run

Every declared type is generated, left out or skipped, and the counts of a run fit together.

* A declared type has one plan: a blueprint, or one count of a type that was left out or skipped
  (`TypeDeclaration.length_add_filtered_add_skipped`).  The sum over the declarations accounts for
  all of them.
* `Statistics.Consistent` says which counts belong together.  Every step of a run counts
  consistently, and sums of consistent counts are consistent.
* `declared_types_accounted` assembles both and compares the counts with the table of properties.
-/

namespace ValueBuilder

namespace Statistics

variable {a b : Statistics}

/-! ## Sums -/

/-- What is counted over a run is the sum of what is counted in its steps. -/
theorem count_sum {count : Statistics → Nat} (hzero : count 0 = 0)
    (hadd : ∀ a b, count (a + b) = count a + count b) (steps : List Statistics) :
    count steps.sum = (steps.map count).sum := by
  induction steps with
  | nil => exact hzero
  | cons step steps ih => rw [List.sum_cons, hadd, ih, List.map_cons, List.sum_cons]

@[simp]
theorem declared_add (a b : Statistics) : (a + b).declared = a.declared + b.declared :=
  rfl

@[simp]
theorem generated_add (a b : Statistics) : (a + b).generated = a.generated + b.generated :=
  rfl

@[simp]
theorem filtered_add (a b : Statistics) : (a + b).filtered = a.filtered + b.filtered :=
  rfl

@[simp]
theorem properties_add (a b : Statistics) : (a + b).properties = a.properties + b.properties :=
  rfl

@[simp]
theorem required_add (a b : Statistics) : (a + b).required = a.required + b.required :=
  rfl

@[simp]
theorem serializers_add (a b : Statistics) :
    (a + b).serializers = a.serializers + b.serializers :=
  rfl

@[simp]
theorem strategies_add (a b : Statistics) : (a + b).strategies = a.strategies ++ b.strategies :=
  rfl

@[simp]
theorem skipped_add (a b : Statistics) : (a + b).skipped = a.skipped + b.skipped := by
  simp [skipped]

/-- A requested name that means no declared type is no skipped type. -/
theorem skipped_ofWarnings_unknown (names : List String) :
    (ofWarnings (names.map .unknownRequest)).skipped = 0 := by
  simp [skipped, ofWarnings, List.countP_map, Function.comp_def, Warning.isSkipped]

/-! ## Consistent counts -/

/-- Counts of generated types that belong together. -/
structure Consistent (s : Statistics) : Prop where
  /-- Each property has one strategy. -/
  strategies : s.strategies.length = s.properties
  required : s.required ≤ s.properties
  serializers : s.serializers ≤ s.generated

theorem consistent_zero : Consistent 0 :=
  ⟨rfl, Nat.le_refl 0, Nat.le_refl 0⟩

theorem Consistent.add (ha : a.Consistent) (hb : b.Consistent) : (a + b).Consistent where
  strategies := by simp [ha.strategies, hb.strategies]
  required := Nat.add_le_add ha.required hb.required
  serializers := Nat.add_le_add ha.serializers hb.serializers

theorem consistent_sum {steps : List Statistics} (h : ∀ step ∈ steps, step.Consistent) :
    steps.sum.Consistent := by
  induction steps with
  | nil => exact consistent_zero
  | cons step steps ih =>
    obtain ⟨hstep, hsteps⟩ := List.forall_mem_cons.1 h
    rw [List.sum_cons]
    exact hstep.add (ih hsteps)

theorem consistent_ofGenerated (b : Blueprint) : (ofGenerated b).Consistent where
  strategies := by simp [ofGenerated]
  required := List.length_filter_le _ _
  serializers := by
    rw [ofGenerated]
    split <;> simp

/-- Counts before anything is generated. -/
structure GeneratesNothing (s : Statistics) : Prop where
  generated : s.generated = 0
  properties : s.properties = 0
  required : s.required = 0
  strategies : s.strategies = []
  serializers : s.serializers = 0

theorem generatesNothing_ofDeclared (count : Nat) : (ofDeclared count).GeneratesNothing :=
  ⟨rfl, rfl, rfl, rfl, rfl⟩

theorem generatesNothing_ofFiltered : ofFiltered.GeneratesNothing :=
  ⟨rfl, rfl, rfl, rfl, rfl⟩

theorem generatesNothing_ofWarnings (warnings : List Warning) :
    (ofWarnings warnings).GeneratesNothing :=
  ⟨rfl, rfl, rfl, rfl, rfl⟩

theorem GeneratesNothing.add (ha : a.GeneratesNothing) (hb : b.GeneratesNothing) :
    (a + b).GeneratesNothing where
  generated := by simp [ha.generated, hb.generated]
  properties := by simp [ha.properties, hb.properties]
  required := by simp [ha.required, hb.required]
  strategies := by simp [ha.strategies, hb.strategies]
  serializers := by simp [ha.serializers, hb.serializers]

theorem generatesNothing_sum {steps : List Statistics} (h : ∀ step ∈ steps, step.GeneratesNothing) :
    steps.sum.GeneratesNothing := by
  induction steps with
  | nil => exact ⟨rfl, rfl, rfl, rfl, rfl⟩
  | cons step steps ih =>
    obtain ⟨hstep, hsteps⟩ := List.forall_mem_cons.1 h
    rw [List.sum_cons]
    exact hstep.add (ih hsteps)

theorem GeneratesNothing.consistent (h : a.GeneratesNothing) : a.Consistent where
  strategies := by rw [h.strategies, h.properties, List.length_nil]
  required := h.required ▸ Nat.zero_le _
  serializers := h.serializers ▸ Nat.zero_le _

/-! ## Strategies -/

/-- The counts of all kinds add up to the number of strategies. -/
theorem sum_count_kinds (kinds : List StrategyKind) :
    (StrategyKind.all.map fun kind => kinds.count kind).sum = kinds.length := by
  induction kinds with
  | nil => rfl
  | cons kind kinds ih =>
    simp only [StrategyKind.all, List.map_cons, List.map_nil, List.sum_cons, List.sum_nil,
      List.count_cons, List.length_cons] at ih ⊢
    cases kind <;> simp <;> omega

/-- Kinds that do not occur are left out of the counts, which does not change their sum. -/
theorem sum_strategyCounts (s : Statistics) :
    (s.strategyCounts.map Prod.snd).sum = s.strategies.length := by
  have hpositive (counts : List (StrategyKind × Nat)) :
      ((counts.filter (0 < ·.2)).map Prod.snd).sum = (counts.map Prod.snd).sum := by
    induction counts with
    | nil => rfl
    | cons count counts ih =>
      rw [List.filter_cons, List.map_cons, List.sum_cons]
      split
      · rw [List.map_cons, List.sum_cons, ih]
      · next hzero =>
        have hcount : count.2 = 0 := by simpa using hzero
        rw [ih, hcount, Nat.zero_add]
  rw [strategyCounts, hpositive, List.map_map]
  exact sum_count_kinds s.strategies

end Statistics

/-! ## Plans -/

namespace TypeDeclaration

/-- What planning a declared type comes to: a blueprint, or a warning that the type is skipped, or
the count of a type that was not requested. -/
theorem plan_cases (request : Request) (declaration : TypeDeclaration) :
    (∃ b warnings, declaration.plan request = ⟨[b], .ofWarnings warnings⟩ ∧
        warnings.countP (·.isSkipped) = 0) ∨
      (∃ warning, declaration.plan request = ⟨[], .ofWarnings [warning]⟩ ∧
        warning.isSkipped = true) ∨
      declaration.plan request = ⟨[], .ofFiltered⟩ := by
  rw [plan]
  split
  · cases hconvert : declaration.convert with
    | ok conversion =>
      obtain ⟨target, hwarnings⟩ := warnings_of_convert hconvert
      refine .inl ⟨_, _, rfl, ?_⟩
      rw [hwarnings, warnings]
      split <;> rfl
    | error error => exact .inr (.inl ⟨_, rfl, rfl⟩)
  · exact .inr (.inr rfl)

/-- A declared type has a blueprint, or it is left out, or it is skipped. -/
theorem length_add_filtered_add_skipped (request : Request) (declaration : TypeDeclaration) :
    (declaration.plan request).blueprints.length +
      (declaration.plan request).statistics.filtered +
        (declaration.plan request).statistics.skipped = 1 := by
  obtain ⟨b, warnings, hplan, hnone⟩ | ⟨warning, hplan, hskipped⟩ | hplan :=
    declaration.plan_cases request
  · simp [hplan, Statistics.skipped, Statistics.ofWarnings, hnone]
  · simp [hplan, Statistics.skipped, Statistics.ofWarnings, hskipped]
  · simp [hplan, Statistics.skipped, Statistics.ofFiltered]

/-- Planning a type counts neither declared nor generated types. -/
theorem generatesNothing_plan (request : Request) (declaration : TypeDeclaration) :
    (declaration.plan request).statistics.declared = 0 ∧
      (declaration.plan request).statistics.GeneratesNothing := by
  obtain ⟨b, warnings, hplan, -⟩ | ⟨warning, hplan, -⟩ | hplan := declaration.plan_cases request
  · exact hplan ▸ ⟨rfl, Statistics.generatesNothing_ofWarnings warnings⟩
  · exact hplan ▸ ⟨rfl, Statistics.generatesNothing_ofWarnings [warning]⟩
  · exact hplan ▸ ⟨rfl, Statistics.generatesNothing_ofFiltered⟩

end TypeDeclaration

namespace DeclarationFile

open Statistics

/-- The statistics of the plans of declared types, added up. -/
def planned (request : Request) (types : List TypeDeclaration) : Statistics :=
  (types.map fun declaration => (declaration.plan request).statistics).sum

theorem statistics_plan (request : Request) (file : DeclarationFile) :
    (file.plan request).statistics =
      ofDeclared file.types.length +
        ofWarnings ((unknownRequests request file.types).map .unknownRequest) +
        planned request file.types := by
  rw [planned, plan, List.map_map]
  rfl

theorem generatesNothing_plan (request : Request) (file : DeclarationFile) :
    (file.plan request).statistics.GeneratesNothing := by
  rw [statistics_plan]
  refine .add (.add (generatesNothing_ofDeclared _) (generatesNothing_ofWarnings _)) ?_
  refine generatesNothing_sum fun step hstep => ?_
  obtain ⟨declaration, -, rfl⟩ := List.mem_map.1 hstep
  exact (declaration.generatesNothing_plan request).2

/-- Planning counts all declarations, those without a blueprint included. -/
theorem declared_plan (request : Request) (file : DeclarationFile) :
    (file.plan request).statistics.declared = file.types.length := by
  have hplanned (types : List TypeDeclaration) : (planned request types).declared = 0 := by
    induction types with
    | nil => rfl
    | cons declaration types ih =>
      rw [planned, List.map_cons, List.sum_cons, declared_add,
        (declaration.generatesNothing_plan request).1, Nat.zero_add]
      exact ih
  rw [statistics_plan, declared_add, declared_add, hplanned]
  rfl

/-- Each declaration is counted once: by its blueprint, or as left out, or as skipped. -/
theorem length_add_filtered_add_skipped (request : Request) (file : DeclarationFile) :
    (file.converted request).length + (file.plan request).statistics.filtered +
      (file.plan request).statistics.skipped = file.types.length := by
  have hplanned (types : List TypeDeclaration) :
      (types.flatMap fun declaration => (declaration.plan request).blueprints).length +
        (planned request types).filtered + (planned request types).skipped = types.length := by
    induction types with
    | nil => rfl
    | cons declaration types ih =>
      have hone := declaration.length_add_filtered_add_skipped request
      simp only [planned] at ih
      simp only [planned, List.map_cons, List.flatMap_cons, List.length_append, List.sum_cons,
        filtered_add, skipped_add, List.length_cons]
      omega
  have hblueprints : file.converted request =
      file.types.flatMap fun declaration => (declaration.plan request).blueprints := by
    rw [← blueprints_plan, plan, List.flatMap_map]
  have hfiltered : (file.plan request).statistics.filtered = (planned request file.types).filtered := by
    rw [statistics_plan]
    exact Nat.zero_add _
  have hskipped : (file.plan request).statistics.skipped = (planned request file.types).skipped := by
    rw [statistics_plan, skipped_add, skipped_add, skipped_ofWarnings_unknown]
    exact Nat.zero_add _
  rw [hblueprints, hfiltered, hskipped]
  exact hplanned file.types

/-! ## Runs -/

/-- A run counts what it plans and each blueprint. -/
theorem statistics_generate (settings : Settings) (request : Request) (file : DeclarationFile) :
    (file.generate settings request).statistics =
      (file.plan request).statistics + ((file.converted request).map ofGenerated).sum := by
  have hparts (blueprints : List Blueprint) :
      (blueprints.map (·.generation settings)).map (·.statistics) = blueprints.map ofGenerated := by
    rw [List.map_map]
    refine List.map_congr_left fun b _ => ?_
    obtain ⟨generated, -, hgeneration⟩ := b.exists_generation_eq settings
    rw [Function.comp_apply, hgeneration]
  rw [generate, ← blueprints_plan]
  exact congrArg ((file.plan request).statistics + ·) (congrArg List.sum (hparts _))

/-- A count of a run is the count of its plan and that of each blueprint. -/
theorem count_generate {count : Statistics → Nat} (hzero : count 0 = 0)
    (hadd : ∀ a b, count (a + b) = count a + count b) (settings : Settings) (request : Request)
    (file : DeclarationFile) :
    count (file.generate settings request).statistics =
      count (file.plan request).statistics +
        ((file.converted request).map fun b => count (.ofGenerated b)).sum := by
  rw [statistics_generate, hadd, count_sum hzero hadd, List.map_map]
  rfl

theorem consistent_generate (settings : Settings) (request : Request) (file : DeclarationFile) :
    (file.generate settings request).statistics.Consistent := by
  rw [statistics_generate]
  refine (file.generatesNothing_plan request).consistent.add (consistent_sum fun step hstep => ?_)
  obtain ⟨b, -, rfl⟩ := List.mem_map.1 hstep
  exact consistent_ofGenerated b

end DeclarationFile

/-! ## The table of properties -/

/-- Whether a row of the table of properties says that the property is required. -/
def marksRequired (row : List String) : Bool :=
  row.getLast? == some "yes"

theorem marksRequired_propertyRow (target : Java.ClassName) (p : Property) :
    marksRequired (propertyRow target p) = p.tracksUnset := by
  cases h : p.tracksUnset <;> simp [marksRequired, propertyRow, h]

theorem length_propertyRows (blueprints : List Blueprint) :
    (propertyRows blueprints).length = (blueprints.map (·.properties.length)).sum := by
  simp [propertyRows, List.length_flatMap]

/-- As many rows say that a property is required as there are required properties. -/
theorem countP_propertyRows (blueprints : List Blueprint) :
    (propertyRows blueprints).countP marksRequired = (blueprints.map (·.required.length)).sum := by
  have hrows (b : Blueprint) :
      (b.properties.map (propertyRow b.target)).countP marksRequired = b.required.length := by
    rw [List.countP_map, Blueprint.required, requiredOf, ← List.countP_eq_length_filter]
    exact List.countP_congr fun p _ => by simp [marksRequired_propertyRow]
  simp only [propertyRows, List.countP_flatMap, Function.comp_def, hrows]

/-! ## All accounts -/

/-- The statistics of a run, against the declared types, the blueprints for which files were
generated, and the files. -/
structure Accounts (declared : Nat) (blueprints : List Blueprint) (files : List GeneratedFile)
    (s : Statistics) : Prop where
  declared : s.declared = declared
  /-- Every declared type is generated, left out or skipped, and only one of them. -/
  types : s.declared = s.generated + s.filtered + s.skipped
  files : files.length = s.generated
  /-- Every property is counted under one strategy. -/
  properties : s.properties = (s.strategyCounts.map Prod.snd).sum
  required : s.required = (blueprints.map (·.required.length)).sum
  required_le : s.required ≤ s.properties
  serializers : s.serializers ≤ s.generated

/-- The statistics of every run account for all declared types, and those of a run over all types
agree with the table of properties. -/
theorem declared_types_accounted (settings : Settings) (request : Request)
    (file : DeclarationFile) :
    ∃ blueprints,
      List.Forall₂ (fun b generated => b.file settings = .ok generated) blueprints
        (file.generate settings request).files ∧
      Accounts file.types.length blueprints (file.generate settings request).files
        (file.generate settings request).statistics ∧
      (request = none →
        (propertyRows (file.plan none).blueprints).length =
            (file.generate settings request).statistics.properties ∧
          (propertyRows (file.plan none).blueprints).countP marksRequired =
            (file.generate settings request).statistics.required) := by
  have hnothing := file.generatesNothing_plan request
  have hconsistent := file.consistent_generate settings request
  have hfiles : List.Forall₂ (fun b generated => b.file settings = .ok generated)
      (file.converted request) (file.generate settings request).files := by
    rw [← file.blueprints_plan request]
    exact forall₂_file settings (file.plan request).blueprints
  have hgenerated : (file.generate settings request).statistics.generated =
      (file.converted request).length := by
    rw [DeclarationFile.count_generate rfl Statistics.generated_add, hnothing.generated]
    simp [Statistics.ofGenerated]
  have hproperties : (file.generate settings request).statistics.properties =
      ((file.converted request).map (·.properties.length)).sum := by
    rw [DeclarationFile.count_generate rfl Statistics.properties_add, hnothing.properties]
    exact Nat.zero_add _
  have hrequired : (file.generate settings request).statistics.required =
      ((file.converted request).map (·.required.length)).sum := by
    rw [DeclarationFile.count_generate rfl Statistics.required_add, hnothing.required]
    exact Nat.zero_add _
  refine ⟨file.converted request, hfiles, ?accounts, ?table⟩
  case accounts =>
    have hdeclared : (file.generate settings request).statistics.declared = file.types.length := by
      rw [DeclarationFile.count_generate rfl Statistics.declared_add, file.declared_plan]
      simp [Statistics.ofGenerated]
    have hfiltered : (file.generate settings request).statistics.filtered =
        (file.plan request).statistics.filtered := by
      rw [DeclarationFile.count_generate rfl Statistics.filtered_add]
      simp [Statistics.ofGenerated]
    have hskipped : (file.generate settings request).statistics.skipped =
        (file.plan request).statistics.skipped := by
      rw [DeclarationFile.count_generate rfl Statistics.skipped_add]
      simp [Statistics.ofGenerated, Statistics.skipped]
    constructor
    case declared => exact hdeclared
    case types =>
      rw [hdeclared, hgenerated, hfiltered, hskipped, file.length_add_filtered_add_skipped request]
    case files => rw [hgenerated, hfiles.length_eq]
    case properties => rw [Statistics.sum_strategyCounts, hconsistent.strategies]
    case required => exact hrequired
    case required_le => exact hconsistent.required
    case serializers => exact hconsistent.serializers
  case table =>
    rintro rfl
    rw [hproperties, hrequired, file.blueprints_plan]
    exact ⟨length_propertyRows _, countP_propertyRows _⟩

end ValueBuilder
