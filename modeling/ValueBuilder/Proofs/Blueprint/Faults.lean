import ValueBuilder.Proofs.Blueprint.Checks

/-!
# The fault that a draft is refused for

A check goes through the properties in order, once for their names and once for the constants of
those that are required.  This module says which properties it names when it refuses a draft.

* `RepeatsFirst` is about a whole list, some elements of which do not count, and
  `repeatsFirst_iff` ties it to the search among those that count.
* `Draft.drafts_refused_for_first_fault` says when each fault is reported, and when there is none.
-/

namespace ValueBuilder

open Java

/-! ## Repeated keys among elements that count -/

section Repeats

variable {α : Type} {counts : α → Bool} {key : α → String} {xs : List α} {earlier later : α}

/-- Whether the elements that count have distinct keys. -/
def KeysDistinct (counts : α → Bool) (key : α → String) (xs : List α) : Prop :=
  xs.Pairwise fun x y => counts x = true → counts y = true → key x ≠ key y

/-- Whether `later` is the first element in order whose key an element before it has, and `earlier`
the only element before it with that key, when some elements do not count. -/
def RepeatsFirst (counts : α → Bool) (key : α → String) (xs : List α) (earlier later : α) : Prop :=
  ∃ before behind, xs = before ++ later :: behind ∧
    KeysDistinct counts key before ∧ counts later = true ∧
    ∀ x, x ∈ before ∧ counts x = true ∧ key x = key later ↔ x = earlier

theorem keysDistinct_iff_nodup :
    KeysDistinct counts key xs ↔ ((xs.filter counts).map key).Nodup := by
  unfold KeysDistinct List.Nodup
  rw [List.pairwise_map, List.pairwise_filter]

/-- Elements with distinct keys are known by their keys. -/
theorem KeysDistinct.eq_of_key_eq (h : KeysDistinct counts key xs) {x y : α} (hx : x ∈ xs)
    (hy : y ∈ xs) (hcx : counts x = true) (hcy : counts y = true) (hkey : key x = key y) :
    x = y := by
  apply List.inj_on_of_nodup_map (keysDistinct_iff_nodup.1 h)
  · exact List.mem_filter.2 ⟨hx, hcx⟩
  · exact List.mem_filter.2 ⟨hy, hcy⟩
  · exact hkey

/-- A first repeat among the elements that count is one of the list without the others. -/
theorem repeatsFirst_iff :
    RepeatsFirst counts key xs earlier later ↔
      IsFirstRepeat key (xs.filter counts) earlier later := by
  constructor
  · rintro ⟨before, behind, rfl, hdistinct, hlater, honly⟩
    obtain ⟨hmem, hearlier, hkey⟩ := (honly earlier).2 rfl
    refine ⟨before.filter counts, behind.filter counts, ?_, keysDistinct_iff_nodup.1 hdistinct,
      List.mem_filter.2 ⟨hmem, hearlier⟩, hkey⟩
    rw [List.filter_append, List.filter_cons_of_pos hlater]
  · rintro ⟨kept, keptBehind, hsplit, hnodup, hmem, hkey⟩
    obtain ⟨before, rest, rfl, rfl, hrest⟩ := List.filter_eq_append_iff.1 hsplit
    obtain ⟨passed, behind, rfl, hpassed, hlater, -⟩ := List.filter_eq_cons_iff.1 hrest
    have hfilter : (before ++ passed).filter counts = before.filter counts := by
      rw [List.filter_append, List.filter_eq_nil_iff.2 hpassed, List.append_nil]
    have hdistinct : KeysDistinct counts key (before ++ passed) := by
      rw [keysDistinct_iff_nodup, hfilter]
      exact hnodup
    obtain ⟨hmem, hearlier⟩ := List.mem_filter.1 hmem
    have hmem : earlier ∈ before ++ passed := List.mem_append_left _ hmem
    refine ⟨before ++ passed, behind, (List.append_assoc _ _ _).symm, hdistinct, hlater, ?_⟩
    intro x
    constructor
    · rintro ⟨hx, hcounts, hsame⟩
      exact hdistinct.eq_of_key_eq hx hmem hcounts hearlier (hsame.trans hkey.symm)
    · rintro rfl
      exact ⟨hmem, hearlier, hkey⟩

end Repeats

/-! ## Checks -/

namespace Draft

variable {draft : Draft}

/-- Whether all properties have distinct names. -/
def NamesDistinct (draft : Draft) : Prop :=
  KeysDistinct (fun _ => true) (·.name) draft.properties

/-- Whether all required properties have distinct constants. -/
def ConstantsDistinct (draft : Draft) : Prop :=
  KeysDistinct (·.tracksUnset) (·.constant) draft.properties

/-- Whether there is no way to make the builder that a serializer needs. -/
def LacksFactory (draft : Draft) : Prop :=
  draft.gwtSerializable = true ∧ draft.factory = none

theorem namesDistinct_iff : draft.NamesDistinct ↔ (draft.properties.map (·.name)).Nodup := by
  rw [NamesDistinct, keysDistinct_iff_nodup, List.filter_true]

theorem constantsDistinct_iff :
    draft.ConstantsDistinct ↔ ((requiredOf draft.properties).map (·.constant)).Nodup :=
  keysDistinct_iff_nodup

theorem isSound_iff :
    draft.IsSound ↔ draft.NamesDistinct ∧ draft.ConstantsDistinct ∧ ¬draft.LacksFactory := by
  rw [namesDistinct_iff, constantsDistinct_iff, LacksFactory, not_and]
  exact ⟨fun h => ⟨h.names, h.constants, h.factory⟩, fun ⟨hn, hc, hf⟩ => ⟨hn, hc, hf⟩⟩

theorem hasFault_duplicateProperty_iff {target : ClassName} {name : String} :
    draft.HasFault (.duplicateProperty target name) ↔
      target = draft.target ∧ ∃ earlier later : Property, name = later.name ∧
        RepeatsFirst (fun _ => true) (·.name) draft.properties earlier later := by
  simp only [repeatsFirst_iff, List.filter_true]
  constructor
  · rintro ⟨⟩
    rename_i earlier later hrepeat
    exact ⟨rfl, earlier, later, rfl, hrepeat⟩
  · rintro ⟨rfl, earlier, later, rfl, hrepeat⟩
    exact .name hrepeat

theorem hasFault_duplicateConstant_iff {target : ClassName} {constant first second : String} :
    draft.HasFault (.duplicateConstant target constant first second) ↔
      target = draft.target ∧ draft.NamesDistinct ∧ ∃ earlier later : Property,
        constant = later.constant ∧ first = earlier.name ∧ second = later.name ∧
          RepeatsFirst (·.tracksUnset) (·.constant) draft.properties earlier later := by
  simp only [repeatsFirst_iff, namesDistinct_iff]
  constructor
  · rintro ⟨⟩
    rename_i earlier later hnames hrepeat
    exact ⟨rfl, hnames, earlier, later, rfl, rfl, rfl, hrepeat⟩
  · rintro ⟨rfl, hnames, earlier, later, rfl, rfl, rfl, hrepeat⟩
    exact .constant hnames hrepeat

theorem hasFault_missingFactory_iff {target : ClassName} :
    draft.HasFault (.missingFactory target) ↔
      target = draft.target ∧ draft.NamesDistinct ∧ draft.ConstantsDistinct ∧
        draft.LacksFactory := by
  rw [namesDistinct_iff, constantsDistinct_iff]
  constructor
  · rintro ⟨⟩
    rename_i hnames hconstants hserializes hlacks
    exact ⟨rfl, hnames, hconstants, hserializes, hlacks⟩
  · rintro ⟨rfl, hnames, hconstants, hserializes, hlacks⟩
    exact .factory hnames hconstants hserializes hlacks

/-- A draft makes a blueprint with its properties exactly if all names are distinct, the constants
of required properties are, and a serializer comes with a factory.  Else it is refused: for the
first property that repeats a name; if there is none, for the first required property that repeats
the constant of a required one, together with that one; and last for the missing factory. -/
theorem drafts_refused_for_first_fault (draft : Draft) :
    ((∃ b, draft.check = .ok b) ↔
      draft.NamesDistinct ∧ draft.ConstantsDistinct ∧ ¬draft.LacksFactory) ∧
    (∀ b, draft.check = .ok b → b.properties = draft.properties) ∧
    (∀ target name, draft.check = .error (.duplicateProperty target name) ↔
      target = draft.target ∧ ∃ earlier later : Property, name = later.name ∧
        RepeatsFirst (fun _ => true) (·.name) draft.properties earlier later) ∧
    (∀ target constant first second,
      draft.check = .error (.duplicateConstant target constant first second) ↔
        target = draft.target ∧ draft.NamesDistinct ∧ ∃ earlier later : Property,
          constant = later.constant ∧ first = earlier.name ∧ second = later.name ∧
            RepeatsFirst (·.tracksUnset) (·.constant) draft.properties earlier later) ∧
    ∀ target, draft.check = .error (.missingFactory target) ↔
      target = draft.target ∧ draft.NamesDistinct ∧ draft.ConstantsDistinct ∧
        draft.LacksFactory := by
  refine ⟨?accepted, ?kept, ?names, ?constants, ?factory⟩
  case accepted => rw [exists_check_eq_ok_iff, isSound_iff]
  case kept => exact fun b h => (isPlanOf_of_check h).properties
  case names =>
    intro target name
    rw [check_eq_error_iff, hasFault_duplicateProperty_iff]
  case constants =>
    intro target constant first second
    rw [check_eq_error_iff, hasFault_duplicateConstant_iff]
  case factory =>
    intro target
    rw [check_eq_error_iff, hasFault_missingFactory_iff]

/-- Three names with one constant.  The first property has a default, so it has no part in the
fault. -/
theorem drafts_refused_for_first_fault_constant :
    let text : JavaType := .declared (.topLevel "java.lang" "String") []
    let spaced : Property := .ofGetter "a b" "getA" text true
    let mixed : Property := .ofGetter "aB" "getB" text false
    let underscored : Property := .ofGetter "a_b" "getC" text false
    let draft : Draft :=
      { target := .topLevel "com.example" "Person", properties := [spaced, mixed, underscored] }
    draft.check = .error (.duplicateConstant draft.target "A_B" "aB" "a_b") := by
  intro text spaced mixed underscored draft
  obtain ⟨-, -, -, hconstants, -⟩ := drafts_refused_for_first_fault draft
  have hnames : draft.NamesDistinct := namesDistinct_iff.2 (by decide)
  have hdistinct : KeysDistinct (·.tracksUnset) (·.constant) [spaced, mixed] :=
    keysDistinct_iff_nodup.2 (by decide +kernel)
  refine (hconstants _ _ _ _).2 ⟨rfl, hnames, mixed, underscored, by decide +kernel, rfl, rfl,
    [spaced, mixed], [], rfl, hdistinct, rfl, fun p => ⟨?_, ?_⟩⟩
  · rintro ⟨hmem, htracked, -⟩
    obtain rfl | rfl := List.mem_pair.1 hmem
    · cases htracked
    · rfl
  · rintro rfl
    exact ⟨.tail _ (.head _), rfl, by decide +kernel⟩

end Draft

end ValueBuilder
