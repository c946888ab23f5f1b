import ValueBuilder.Proofs.Generation.Accounts

/-!
# Types are generated independently

A run carries nothing from one declared type to the next.

* `DeclarationFile.files_generate`: the files of a run are those that the requested types have by
  themselves, in the order of the declarations.
* `DeclarationFile.count_generate_append` and `DeclarationFile.typeWarnings_generate_append`: what a
  run counts and warns of is what is counted and warned of for each part of the declarations.  Only
  the warnings of unknown names look at all declarations at once.
* `types_generated_independently` puts them together.
-/

namespace ValueBuilder

/-! ## Files -/

/-- The file of a declared type by itself, if it can be converted. -/
def TypeDeclaration.file? (settings : Settings) (declaration : TypeDeclaration) :
    Option GeneratedFile :=
  declaration.convert.toOption.bind fun conversion => (conversion.blueprint.file settings).toOption

theorem Blueprint.files_generation (settings : Settings) (b : Blueprint) :
    (b.generation settings).files = (b.file settings).toOption.toList := by
  rw [generation]
  cases b.file settings with
  | ok file => rfl
  | error error => rfl

theorem TypeDeclaration.file?_of_blueprint? (settings : Settings) (request : Request)
    (declaration : TypeDeclaration) :
    ((declaration.blueprint? request).bind fun b => (b.file settings).toOption) =
      if declaration.isRequested request then declaration.file? settings else none := by
  rw [blueprint?, file?]
  split
  · rw [Option.bind_map]
    rfl
  · rfl

namespace DeclarationFile

variable (settings : Settings) (request : Request) (ds es : List TypeDeclaration)

/-- A run has the files of the requested types, each by itself. -/
theorem files_generate (file : DeclarationFile) :
    (file.generate settings request).files =
      (file.types.filter (·.isRequested request)).filterMap (·.file? settings) := by
  have hfiles : (file.generate settings request).files =
      (file.converted request).filterMap fun b => (b.file settings).toOption := by
    rw [generate, blueprints_plan, List.filterMap_eq_flatMap_toList, List.flatMap_map]
    exact List.flatMap_congr fun b _ => b.files_generation settings
  rw [hfiles, converted, List.filterMap_filterMap, List.filterMap_filter]
  exact List.filterMap_congr fun declaration _ => declaration.file?_of_blueprint? settings request

theorem files_generate_append :
    (DeclarationFile.generate settings request ⟨ds ++ es⟩).files =
      (DeclarationFile.generate settings request ⟨ds⟩).files ++
        (DeclarationFile.generate settings request ⟨es⟩).files := by
  rw [files_generate, files_generate, files_generate, List.filter_append, List.filterMap_append]

/-- A type that cannot be converted makes no difference to the files. -/
theorem files_generate_skip {declaration : TypeDeclaration} {error : ConversionError}
    (h : declaration.convert = .error error) :
    (DeclarationFile.generate settings request ⟨ds ++ declaration :: es⟩).files =
      (DeclarationFile.generate settings request ⟨ds ++ es⟩).files := by
  have hfile : declaration.file? settings = none := by
    rw [TypeDeclaration.file?, h]
    rfl
  rw [files_generate, files_generate, List.filter_append, List.filter_append, List.filter_cons]
  split
  · rw [List.filterMap_append, List.filterMap_append, List.filterMap_cons, hfile]
  · rfl

end DeclarationFile

/-! ## Counts -/

namespace Statistics

/-- A count that adds up over the steps of a run and over parts of the declarations. -/
structure IsAdditive (count : Statistics → Nat) : Prop where
  zero : count 0 = 0
  add : ∀ a b, count (a + b) = count a + count b
  declared : ∀ m n, count (ofDeclared (m + n)) = count (ofDeclared m) + count (ofDeclared n)
  /-- It takes no notice of unknown names. -/
  unknown : ∀ names : List String, count (ofWarnings (names.map .unknownRequest)) = 0

/-- The warnings about declared types, which are all but those of unknown names. -/
def typeWarnings (s : Statistics) : List Warning :=
  s.warnings.filter fun
    | .unknownRequest _ => false
    | _ => true

theorem typeWarnings_add (a b : Statistics) :
    (a + b).typeWarnings = a.typeWarnings ++ b.typeWarnings :=
  List.filter_append ..

theorem typeWarnings_sum (steps : List Statistics) :
    steps.sum.typeWarnings = steps.flatMap typeWarnings := by
  induction steps with
  | nil => rfl
  | cons step steps ih => rw [List.sum_cons, typeWarnings_add, ih, List.flatMap_cons]

theorem typeWarnings_ofUnknown (names : List String) :
    (ofWarnings (names.map .unknownRequest)).typeWarnings = [] := by
  simp [typeWarnings, ofWarnings]

/-- The statistics of a run are those of two others together, but for unknown names. -/
structure IsSumOf (s a b : Statistics) : Prop where
  declared : s.declared = a.declared + b.declared
  generated : s.generated = a.generated + b.generated
  filtered : s.filtered = a.filtered + b.filtered
  skipped : s.skipped = a.skipped + b.skipped
  properties : s.properties = a.properties + b.properties
  required : s.required = a.required + b.required
  serializers : s.serializers = a.serializers + b.serializers
  strategies : ∀ kind,
    s.strategies.count kind = a.strategies.count kind + b.strategies.count kind
  /-- The warnings keep their order. -/
  warnings : s.typeWarnings = a.typeWarnings ++ b.typeWarnings

end Statistics

namespace DeclarationFile

open Statistics

variable (settings : Settings) (request : Request) (ds es : List TypeDeclaration)

theorem converted_append :
    DeclarationFile.converted request ⟨ds ++ es⟩ =
      DeclarationFile.converted request ⟨ds⟩ ++ DeclarationFile.converted request ⟨es⟩ :=
  List.filterMap_append

/-- Planning counts each part of the declarations. -/
theorem count_plan_append {count : Statistics → Nat} (h : IsAdditive count) :
    count (DeclarationFile.plan request ⟨ds ++ es⟩).statistics =
      count (DeclarationFile.plan request ⟨ds⟩).statistics +
        count (DeclarationFile.plan request ⟨es⟩).statistics := by
  simp only [statistics_plan, h.add, h.unknown, planned, count_sum h.zero h.add, List.map_append,
    List.length_append, h.declared, List.sum_append_nat]
  omega

/-- So does a run. -/
theorem count_generate_append {count : Statistics → Nat} (h : IsAdditive count) :
    count (DeclarationFile.generate settings request ⟨ds ++ es⟩).statistics =
      count (DeclarationFile.generate settings request ⟨ds⟩).statistics +
        count (DeclarationFile.generate settings request ⟨es⟩).statistics := by
  simp only [count_generate h.zero h.add, count_plan_append request ds es h, converted_append,
    List.map_append, List.sum_append_nat]
  omega

/-- A run warns of each declared type when it is planned, and then no more. -/
theorem typeWarnings_generate (file : DeclarationFile) :
    (file.generate settings request).statistics.typeWarnings =
      file.types.flatMap fun declaration =>
        (declaration.plan request).statistics.typeWarnings := by
  have hgenerated (blueprints : List Blueprint) :
      (blueprints.map ofGenerated).sum.typeWarnings = [] := by
    rw [typeWarnings_sum, List.flatMap_eq_nil_iff]
    intro step hstep
    obtain ⟨b, -, rfl⟩ := List.mem_map.1 hstep
    rfl
  have hdeclared : (ofDeclared file.types.length).typeWarnings = [] := rfl
  rw [statistics_generate, statistics_plan, typeWarnings_add, typeWarnings_add, typeWarnings_add,
    hgenerated, hdeclared, typeWarnings_ofUnknown, planned, typeWarnings_sum, List.flatMap_map,
    List.append_nil]
  rfl

theorem typeWarnings_generate_append :
    (DeclarationFile.generate settings request ⟨ds ++ es⟩).statistics.typeWarnings =
      (DeclarationFile.generate settings request ⟨ds⟩).statistics.typeWarnings ++
        (DeclarationFile.generate settings request ⟨es⟩).statistics.typeWarnings := by
  simp only [typeWarnings_generate, List.flatMap_append]

theorem isSumOf_generate_append :
    (DeclarationFile.generate settings request ⟨ds ++ es⟩).statistics.IsSumOf
      (DeclarationFile.generate settings request ⟨ds⟩).statistics
      (DeclarationFile.generate settings request ⟨es⟩).statistics := by
  have hcount {count : Statistics → Nat} (h : IsAdditive count) :=
    count_generate_append settings request ds es h
  constructor
  case declared => exact hcount ⟨rfl, declared_add, fun _ _ => rfl, fun _ => rfl⟩
  case generated => exact hcount ⟨rfl, generated_add, fun _ _ => rfl, fun _ => rfl⟩
  case filtered => exact hcount ⟨rfl, filtered_add, fun _ _ => rfl, fun _ => rfl⟩
  case skipped => exact hcount ⟨rfl, skipped_add, fun _ _ => rfl, skipped_ofWarnings_unknown⟩
  case properties => exact hcount ⟨rfl, properties_add, fun _ _ => rfl, fun _ => rfl⟩
  case required => exact hcount ⟨rfl, required_add, fun _ _ => rfl, fun _ => rfl⟩
  case serializers => exact hcount ⟨rfl, serializers_add, fun _ _ => rfl, fun _ => rfl⟩
  case strategies =>
    intro kind
    have hkind : IsAdditive fun s => s.strategies.count kind :=
      ⟨rfl, fun _ _ => List.count_append, fun _ _ => rfl, fun _ => rfl⟩
    exact hcount hkind
  case warnings => exact typeWarnings_generate_append settings request ds es

end DeclarationFile

/-! ## Independence -/

/-- A run over two lists of declarations has the files of the first and then those of the second,
and its statistics are the sum of theirs.  So a run has the files that its requested types have by
themselves, and a type that cannot be converted makes no difference to the others. -/
theorem types_generated_independently (settings : Settings) (request : Request)
    (ds es : List TypeDeclaration) :
    let run (types : List TypeDeclaration) := DeclarationFile.generate settings request ⟨types⟩
    (run (ds ++ es)).files = (run ds).files ++ (run es).files ∧
      (run (ds ++ es)).statistics.IsSumOf (run ds).statistics (run es).statistics ∧
      (run ds).files = (ds.filter (·.isRequested request)).filterMap (·.file? settings) ∧
      ∀ declaration error, declaration.convert = .error error →
        (run (ds ++ declaration :: es)).files = (run (ds ++ es)).files := by
  intro run
  refine ⟨?append, ?statistics, ?each, ?skip⟩
  case append => exact DeclarationFile.files_generate_append settings request ds es
  case statistics => exact DeclarationFile.isSumOf_generate_append settings request ds es
  case each => exact DeclarationFile.files_generate settings request ⟨ds⟩
  case skip =>
    intro declaration error h
    exact DeclarationFile.files_generate_skip settings request ds es h

/-- A type with a type expression that breaks off, before one that can be converted. -/
theorem types_generated_independently_broken :
    let broken : TypeDeclaration :=
      { name := "com.example.Broken"
        properties := [{ getter := "getValue", type := "java.util.List<" }] }
    let person : TypeDeclaration :=
      { name := "com.example.Person", properties := [{ getter := "getName", type := "String" }] }
    (∃ error, broken.convert = .error error) ∧
      (DeclarationFile.generate {} none ⟨[broken, person]⟩).files =
        (DeclarationFile.generate {} none ⟨[person]⟩).files := by
  intro broken person
  have hnone : broken.convert.toOption.isNone = true := by decide +kernel
  cases hconvert : broken.convert with
  | ok conversion =>
    rw [hconvert] at hnone
    cases hnone
  | error error =>
    obtain ⟨-, -, -, hskip⟩ := types_generated_independently {} none [] [person]
    exact ⟨⟨error, rfl⟩, hskip broken error hconvert⟩

end ValueBuilder
