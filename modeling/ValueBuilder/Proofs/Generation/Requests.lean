import Mathlib.Data.List.Sort
import ValueBuilder.Proofs.Generation.Independence
import ValueBuilder.Proofs.Text.Parts

/-!
# Requests

A run can be asked for types by name.  A name means all declared types that have it for their full
or their simple name, and several names can mean one type.

* `TypeDeclaration.IsMeantBy` says which names mean a type, and `TypeDeclaration.plan_some` what
  becomes of a type that is meant and of one that is not.
* `mem_unknownRequests_iff` is the search in the other direction, for names that mean no type.
* `DeclarationFile.planned_some` and `DeclarationFile.statistics_generate_some` add this up over the
  declarations: a type that is not meant leaves nothing but one count.
* `DeclarationFile.generate_congr`: a run does not depend on the order of the names, nor on how
  often one is given.
-/

namespace ValueBuilder

/-! ## What names mean -/

namespace TypeDeclaration

/-- Whether a name means a declared type: it is the full name of the type, or what stands behind the
last dot of that. -/
def IsMeantBy (declaration : TypeDeclaration) (name : String) : Prop :=
  declaration.name = name ∨ '.' ∉ name.toList ∧ ∃ before, declaration.name = before ++ "." ++ name

variable {declaration : TypeDeclaration} {name : String} {names : List String}

theorem isRequested_none (declaration : TypeDeclaration) : declaration.isRequested none = true :=
  rfl

theorem isNamed_iff : declaration.isNamed name = true ↔ declaration.IsMeantBy name := by
  rw [isNamed, Bool.or_eq_true, beq_iff_eq, beq_iff_eq, simpleName, eq_lastPart_iff, IsMeantBy]
  constructor
  · rintro (hself | ⟨hdot, hself | hlast⟩)
    · exact .inl hself.symm
    · exact .inl hself
    · exact .inr ⟨hdot, hlast⟩
  · rintro (hself | ⟨hdot, hlast⟩)
    · exact .inl hself.symm
    · exact .inr ⟨hdot, .inr hlast⟩

instance : Decidable (declaration.IsMeantBy name) :=
  decidable_of_iff _ isNamed_iff

theorem isRequested_some_iff :
    declaration.isRequested (some names) = true ↔ ∃ name ∈ names, declaration.IsMeantBy name := by
  simp only [isRequested, List.any_eq_true, isNamed_iff]

/-- A type that some name means is planned as it is without a request, and any other type is left
out. -/
theorem plan_some (declaration : TypeDeclaration) (names : List String) :
    declaration.plan (some names) =
      if ∃ name ∈ names, declaration.IsMeantBy name then declaration.plan none
      else ⟨[], .ofFiltered⟩ := by
  split
  · next h =>
    rw [plan, plan, if_pos (isRequested_some_iff.2 h), if_pos declaration.isRequested_none]
  · next h => rw [plan, if_neg fun hrequested => h (isRequested_some_iff.1 hrequested)]

theorem blueprint?_some (declaration : TypeDeclaration) (names : List String) :
    declaration.blueprint? (some names) =
      if ∃ name ∈ names, declaration.IsMeantBy name then declaration.blueprint? none else none := by
  split
  · next h =>
    rw [blueprint?, blueprint?, if_pos (isRequested_some_iff.2 h),
      if_pos declaration.isRequested_none]
  · next h => rw [blueprint?, if_neg fun hrequested => h (isRequested_some_iff.1 hrequested)]

theorem filtered_plan_none (declaration : TypeDeclaration) :
    (declaration.plan none).statistics.filtered = 0 := by
  rw [plan, if_pos declaration.isRequested_none]
  cases declaration.convert with
  | ok conversion => rfl
  | error error => rfl

/-- Planning a type does not warn of names. -/
theorem unknownRequest_notMem_plan (declaration : TypeDeclaration) (name : String) :
    .unknownRequest name ∉ (declaration.plan none).statistics.warnings := by
  rw [plan, if_pos declaration.isRequested_none]
  cases hconvert : declaration.convert with
  | ok conversion =>
    obtain ⟨target, hwarnings⟩ := warnings_of_convert hconvert
    intro hmem
    have hwarning : .unknownRequest name ∈ declaration.warnings target := hwarnings ▸ hmem
    cases (mem_warnings_iff.1 hwarning).2
  | error error =>
    intro hmem
    cases List.mem_singleton.1 hmem

end TypeDeclaration

/-- The declared types that some name means, in the order of the declarations. -/
def requestedTypes (names : List String) (types : List TypeDeclaration) : List TypeDeclaration :=
  types.filter fun declaration => ∃ name ∈ names, declaration.IsMeantBy name

/-- The declared types that no name means. -/
def otherTypes (names : List String) (types : List TypeDeclaration) : List TypeDeclaration :=
  types.filter fun declaration => ∀ name ∈ names, ¬declaration.IsMeantBy name

/-! ## Names without a type -/

theorem mem_unknownRequests_iff {names : List String} {types : List TypeDeclaration}
    {name : String} :
    name ∈ unknownRequests (some names) types ↔
      name ∈ names ∧ ∀ declaration ∈ types, ¬declaration.IsMeantBy name := by
  simp only [unknownRequests, Option.getD_some, mem_sorted, List.mem_filter, Bool.not_eq_true',
    List.any_eq_false, TypeDeclaration.isNamed_iff]

theorem unknownRequests_congr {names names' : List String} (types : List TypeDeclaration)
    (h : ∀ name, name ∈ names' ↔ name ∈ names) :
    unknownRequests (some names') types = unknownRequests (some names) types := by
  refine (pairwise_sorted _).eq_of_mem_iff (pairwise_sorted _) fun name => ?_
  exact mem_unknownRequests_iff.trans ((and_congr_left' (h name)).trans
    mem_unknownRequests_iff.symm)

/-! ## Sums -/

attribute [ext] Statistics

theorem Statistics.zero_add (s : Statistics) : 0 + s = s := by
  ext1
  case declared => exact Nat.zero_add s.declared
  case generated => exact Nat.zero_add s.generated
  case filtered => exact Nat.zero_add s.filtered
  case properties => exact Nat.zero_add s.properties
  case required => exact Nat.zero_add s.required
  case strategies => exact List.nil_append s.strategies
  case serializers => exact Nat.zero_add s.serializers
  case warnings => exact List.nil_append s.warnings

namespace DeclarationFile

open Statistics

variable (settings : Settings) (names : List String) (types : List TypeDeclaration)

theorem planned_cons (request : Request) (declaration : TypeDeclaration) :
    planned request (declaration :: types) =
      (declaration.plan request).statistics + planned request types := by
  rw [planned, List.map_cons, List.sum_cons]
  rfl

/-- The plans of the requested types are as they are without a request, and each other type is
counted once. -/
theorem planned_some :
    planned (some names) types =
      { planned none (requestedTypes names types) with
        filtered := (otherTypes names types).length } := by
  induction types with
  | nil => rfl
  | cons declaration types ih =>
    rw [planned_cons, ih, declaration.plan_some]
    by_cases h : ∃ name ∈ names, declaration.IsMeantBy name
    · have hrequested : requestedTypes names (declaration :: types) =
          declaration :: requestedTypes names types :=
        List.filter_cons_of_pos (decide_eq_true h)
      have hother : otherTypes names (declaration :: types) = otherTypes names types :=
        List.filter_cons_of_neg (by simpa using h)
      rw [if_pos h, hrequested, hother, planned_cons]
      ext1
      case filtered => rw [filtered_add, declaration.filtered_plan_none, Nat.zero_add]
      all_goals rfl
    · have hrequested : requestedTypes names (declaration :: types) = requestedTypes names types :=
        List.filter_cons_of_neg (by simpa using h)
      have hother : otherTypes names (declaration :: types) =
          declaration :: otherTypes names types :=
        List.filter_cons_of_pos (by simpa using h)
      rw [if_neg h, hrequested, hother, List.length_cons, Nat.add_comm]
      conv_rhs => rw [← (planned none (requestedTypes names types)).zero_add]
      rfl

theorem converted_some :
    DeclarationFile.converted (some names) ⟨types⟩ =
      DeclarationFile.converted none ⟨requestedTypes names types⟩ := by
  rw [converted, converted, requestedTypes, List.filterMap_filter]
  refine List.filterMap_congr fun declaration _ => ?_
  simp only [declaration.blueprint?_some, decide_eq_true_eq]

/-! ## Runs -/

/-- Generating files declares nothing, leaves nothing out and warns of nothing. -/
theorem sum_ofGenerated (blueprints : List Blueprint) :
    (blueprints.map ofGenerated).sum.declared = 0 ∧
      (blueprints.map ofGenerated).sum.filtered = 0 ∧
      (blueprints.map ofGenerated).sum.warnings = [] := by
  induction blueprints with
  | nil => exact ⟨rfl, rfl, rfl⟩
  | cons b blueprints ih =>
    obtain ⟨hdeclared, hfiltered, hwarnings⟩ := ih
    rw [List.map_cons, List.sum_cons, declared_add, filtered_add, warnings_add, hdeclared,
      hfiltered, hwarnings]
    exact ⟨rfl, rfl, rfl⟩

/-- A run warns of unknown names first, and then of each declared type that it plans. -/
theorem warnings_generate (request : Request) (file : DeclarationFile) :
    (file.generate settings request).statistics.warnings =
      (unknownRequests request file.types).map .unknownRequest ++
        (planned request file.types).warnings := by
  obtain ⟨-, -, hgenerated⟩ := sum_ofGenerated (file.converted request)
  rw [statistics_generate, statistics_plan, warnings_add, hgenerated, List.append_nil]
  rfl

/-- A run over all declared types reports no unknown names. -/
theorem unknownRequest_notMem_generate (file : DeclarationFile) (name : String) :
    .unknownRequest name ∉ (file.generate settings none).statistics.warnings := by
  rw [warnings_generate, planned]
  intro hmem
  obtain ⟨step, hstep, hwarning⟩ := mem_warnings_sum.1 hmem
  obtain ⟨declaration, -, rfl⟩ := List.mem_map.1 hstep
  exact declaration.unknownRequest_notMem_plan name hwarning

/-- A run for some names counts what a run over the types that they mean counts.  It counts all
declarations as declared, the others among them as left out, and reports the unknown names before
anything else. -/
theorem statistics_generate_some :
    (DeclarationFile.generate settings (some names) ⟨types⟩).statistics =
      { (DeclarationFile.generate settings none ⟨requestedTypes names types⟩).statistics with
        declared := types.length
        filtered := (otherTypes names types).length
        warnings :=
          (unknownRequests (some names) types).map .unknownRequest ++
            (DeclarationFile.generate settings none
              ⟨requestedTypes names types⟩).statistics.warnings } := by
  obtain ⟨hdeclared, hfiltered, -⟩ :=
    sum_ofGenerated (DeclarationFile.converted (some names) ⟨types⟩)
  ext1
  case declared =>
    rw [statistics_generate, declared_add, declared_plan, hdeclared]
    rfl
  case filtered =>
    rw [statistics_generate, statistics_plan, filtered_add, filtered_add, hfiltered, planned_some]
    exact Nat.zero_add _
  case warnings =>
    simp only [warnings_generate, planned_some]
    rfl
  all_goals
    simp only [statistics_generate, statistics_plan, planned_some, converted_some]
    rfl

theorem files_generate_some :
    (DeclarationFile.generate settings (some names) ⟨types⟩).files =
      (requestedTypes names types).filterMap (·.file? settings) := by
  have hrequested : types.filter (·.isRequested (some names)) = requestedTypes names types := by
    refine List.filter_congr fun declaration _ => ?_
    rw [Bool.eq_iff_iff, decide_eq_true_eq]
    exact TypeDeclaration.isRequested_some_iff
  rw [files_generate, hrequested]

theorem files_generate_none :
    (DeclarationFile.generate settings none ⟨types⟩).files =
      types.filterMap (·.file? settings) := by
  have hall : types.filter (·.isRequested none) = types :=
    List.filter_eq_self.2 fun declaration _ => declaration.isRequested_none
  rw [files_generate, hall]

/-- A run does not depend on the order of the names, nor on how often one is given. -/
theorem generate_congr {names names' : List String} (h : ∀ name, name ∈ names' ↔ name ∈ names) :
    DeclarationFile.generate settings (some names') ⟨types⟩ =
      DeclarationFile.generate settings (some names) ⟨types⟩ := by
  have hplans : types.map (·.plan (some names')) = types.map (·.plan (some names)) := by
    refine List.map_congr_left fun declaration _ => ?_
    simp only [declaration.plan_some, h]
  have hplan : DeclarationFile.plan (some names') ⟨types⟩ =
      DeclarationFile.plan (some names) ⟨types⟩ := by
    rw [plan, plan, hplans, unknownRequests_congr types h]
  rw [generate, generate, hplan]

end DeclarationFile

/-! ## Selection -/

/-- A run for some names converts the declared types that one of them means, and counts each other
type as left out.  Its files, counts and warnings are those of a run over the types that are meant,
but that it reports first which names mean no declared type, each once and in ascending order.  The
order of the names and how often one is given make no difference. -/
theorem requested_types_selected_exactly (settings : Settings) (names : List String)
    (types : List TypeDeclaration) :
    let run := DeclarationFile.generate settings (some names) ⟨types⟩
    let alone := DeclarationFile.generate settings none ⟨requestedTypes names types⟩
    (∀ declaration : TypeDeclaration,
      declaration.plan (some names) =
        if ∃ name ∈ names, declaration.IsMeantBy name then declaration.plan none
        else ⟨[], .ofFiltered⟩) ∧
    (DeclarationFile.plan (some names) ⟨types⟩).blueprints =
      (requestedTypes names types).filterMap (·.convert.toOption.map (·.blueprint)) ∧
    run.files = alone.files ∧
    (∃ unknown : List String,
      run.statistics =
        { alone.statistics with
          declared := types.length
          filtered := (otherTypes names types).length
          warnings := unknown.map .unknownRequest ++ alone.statistics.warnings } ∧
      unknown.Pairwise (· < ·) ∧
      (∀ name, name ∈ unknown ↔
        name ∈ names ∧ ∀ declaration ∈ types, ¬declaration.IsMeantBy name) ∧
      ∀ name, .unknownRequest name ∉ alone.statistics.warnings) ∧
    ∀ names', (∀ name, name ∈ names' ↔ name ∈ names) →
      DeclarationFile.generate settings (some names') ⟨types⟩ = run := by
  intro run alone
  refine ⟨?plans, ?converted, ?files, ?statistics, ?names⟩
  case plans =>
    intro declaration
    exact declaration.plan_some names
  case converted =>
    rw [DeclarationFile.blueprints_plan, DeclarationFile.converted_some]
    rfl
  case files =>
    rw [DeclarationFile.files_generate_some, DeclarationFile.files_generate_none]
  case statistics =>
    refine ⟨unknownRequests (some names) types, ?counts, pairwise_sorted _,
      fun name => mem_unknownRequests_iff, ?known⟩
    case counts => exact DeclarationFile.statistics_generate_some settings names types
    case known => exact DeclarationFile.unknownRequest_notMem_generate settings _
  case names =>
    intro names' h
    exact DeclarationFile.generate_congr settings types h

/-- A simple name, a full one and one that means nothing, in two orders. -/
theorem requested_types_selected_exactly_repeated :
    let types : List TypeDeclaration :=
      [{ name := "com.example.Person" }, { name := "com.example.Address" }]
    (∀ name, name ∈ ["Parson", "Person", "Parson"] ↔ name ∈ ["Person", "Parson"]) ∧
      DeclarationFile.generate {} (some ["Parson", "Person", "Parson"]) ⟨types⟩ =
        DeclarationFile.generate {} (some ["Person", "Parson"]) ⟨types⟩ := by
  intro types
  have hnames (name : String) :
      name ∈ ["Parson", "Person", "Parson"] ↔ name ∈ ["Person", "Parson"] := by
    simp only [List.mem_cons, List.not_mem_nil, or_false]
    tauto
  obtain ⟨-, -, -, -, hrun⟩ := requested_types_selected_exactly {} ["Person", "Parson"] types
  exact ⟨hnames, hrun _ hnames⟩

end ValueBuilder
