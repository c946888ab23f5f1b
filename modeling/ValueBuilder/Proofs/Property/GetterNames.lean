import ValueBuilder.Proofs.Builder.MethodSignatures
import ValueBuilder.Proofs.Declaration.PropertyNames

/-!
# Names of getters

The prefixes of getters are stripped from all of them or from none.  What stands behind a prefix is
the stem, and the name that it becomes gives the stem back.

* `Prefixed` says which getters have a usable prefix, and `getterStem?_eq_some_iff` that the stem is
  found exactly in these.
* `capitalize_decapitalize` is about stems only: other names may start with a capital beyond ASCII.
* `NamedByStems` is what holds of the names if all getters have a prefix; `namedByStems_of_prefixed`
  puts it together, and `getter_names_cases` has both cases.
-/

namespace ValueBuilder

open Java

/-! ## Prefixes -/

/-- Whether a text can be a stem: it starts with an ASCII capital, a digit, an underscore or a
dollar sign. -/
def OpensStem (stem : String) : Prop :=
  stem.toList.head?.any opensStem = true

/-- The prefixes of getters. -/
inductive GetterPrefix
  | get
  | is

/-- A getter and its type, the usable prefix of the getter and the stem behind it.  The prefix `is`
can be used for primitive conditions alone. -/
inductive Prefixed : String × JavaType → GetterPrefix → String → Prop
  | get {stem : String} {type : JavaType} (hstem : OpensStem stem) :
      Prefixed ("get" ++ stem, type) .get stem
  | is {stem : String} (hstem : OpensStem stem) :
      Prefixed ("is" ++ stem, .primitive .boolean) .is stem

theorem OpensStem.exists_eq {stem : String} (h : OpensStem stem) :
    ∃ c cs, opensStem c = true ∧ stem = String.ofList (c :: cs) := by
  rw [OpensStem] at h
  cases hchars : stem.toList with
  | nil => simp [hchars] at h
  | cons c cs =>
    refine ⟨c, cs, by simpa [hchars] using h, ?_⟩
    rw [← hchars, String.ofList_toList]

theorem opensStem_of_isStem {cs : List Char} (h : isStem cs = true) :
    OpensStem (String.ofList cs) := by
  cases cs with
  | nil => cases h
  | cons c cs =>
    rw [OpensStem, String.toList_ofList]
    exact (Bool.and_eq_true_iff.1 h).1

/-- No line break is in an identifier, so the characters behind the first one are no obstacle. -/
theorem isStem_of_opensStem {stem : String} (h : OpensStem stem)
    (hparts : stem.toList.all isIdentifierPart = true) : isStem stem.toList = true := by
  obtain ⟨c, cs, hc, rfl⟩ := h.exists_eq
  rw [String.toList_ofList] at hparts ⊢
  obtain ⟨-, hcs⟩ := Bool.and_eq_true_iff.1 (List.all_cons ▸ hparts)
  refine Bool.and_eq_true_iff.2 ⟨hc, List.all_eq_true.2 fun d hd => ?_⟩
  have hbreak : isIdentifierPart '\n' = false := isIdentifierPart_of_isBlank (by decide)
  have hpart : isIdentifierPart d = true := List.all_eq_true.1 hcs d hd
  rw [bne_iff_ne]
  rintro rfl
  rw [hbreak] at hpart
  cases hpart

theorem exists_prefixed_of_getterStem? {getter stem : String} {type : JavaType}
    (h : getterStem? getter type = some stem) :
    ∃ opening, Prefixed (getter, type) opening stem := by
  rw [getterStem?] at h
  split at h
  · next cs hget =>
    split at h
    · next hstem =>
      cases h
      have hself : getter = "get" ++ String.ofList cs :=
        String.toList_inj.1 (by rw [String.toList_append, @String.toList_ofList cs]; exact hget)
      rw [hself]
      exact ⟨_, .get (opensStem_of_isStem hstem)⟩
    · cases h
  · next cs his =>
    split at h
    · next hstem =>
      cases h
      obtain ⟨hstem, htype⟩ := Bool.and_eq_true_iff.1 hstem
      have hself : getter = "is" ++ String.ofList cs :=
        String.toList_inj.1 (by rw [String.toList_append, @String.toList_ofList cs]; exact his)
      have hboolean : type = .primitive .boolean := by
        cases type with
        | primitive p => simpa [JavaType.asPrimitive?] using htype
        | _ => cases htype
      rw [hself, hboolean]
      exact ⟨_, .is (opensStem_of_isStem hstem)⟩
    · cases h
  · cases h

theorem Prefixed.getterStem?_eq {getter : String × JavaType} {opening : GetterPrefix}
    {stem : String} (h : Prefixed getter opening stem) (hgetter : isIdentifier getter.1 = true) :
    getterStem? getter.1 getter.2 = some stem := by
  have hparts : getter.1.toList.all isIdentifierPart = true :=
    all_isIdentifierPart_of_spellsIdentifier hgetter
  cases h with
  | get hstem =>
    have hchars : ("get" ++ stem).toList = 'g' :: 'e' :: 't' :: stem.toList :=
      String.toList_append
    rw [String.toList_append, List.all_append] at hparts
    have hopen : isStem stem.toList = true :=
      isStem_of_opensStem hstem (Bool.and_eq_true_iff.1 hparts).2
    simp [getterStem?, hchars, hopen]
  | is hstem =>
    have hchars : ("is" ++ stem).toList = 'i' :: 's' :: stem.toList :=
      String.toList_append
    rw [String.toList_append, List.all_append] at hparts
    have hopen : isStem stem.toList = true :=
      isStem_of_opensStem hstem (Bool.and_eq_true_iff.1 hparts).2
    simp [getterStem?, hchars, hopen, JavaType.asPrimitive?]

/-- The stem of a getter is found exactly if the getter has a usable prefix. -/
theorem getterStem?_eq_some_iff {getter : String × JavaType} {stem : String}
    (hgetter : isIdentifier getter.1 = true) :
    getterStem? getter.1 getter.2 = some stem ↔ ∃ opening, Prefixed getter opening stem :=
  ⟨exists_prefixed_of_getterStem?, fun ⟨_, h⟩ => h.getterStem?_eq hgetter⟩

/-! ## Stems and names -/

/-- Capitals bring back the character that opens a stem, whether it was made small or not. -/
theorem upper_of_opensStem {c : Char} (h : opensStem c = true) :
    Unicode.upper c = [c] ∧ Unicode.upper c.toLower = [c] := by
  refine of_opensStem h ?_
  decide +kernel

/-- The name of a stem gives the stem back. -/
theorem capitalize_decapitalize {stem : String} (h : OpensStem stem) :
    capitalize (decapitalize stem) = stem := by
  obtain ⟨c, cs, hc, rfl⟩ := h.exists_eq
  obtain ⟨hsame, hsmall⟩ := upper_of_opensStem hc
  rcases @toList_decapitalize c cs hc with hname | hname
  · rw [capitalize, hname]
    dsimp only
    rw [hsame]
    rfl
  · rw [capitalize, hname]
    dsimp only
    rw [hsmall]
    rfl

/-- Different stems become different names. -/
theorem decapitalize_inj {s t : String} (hs : OpensStem s) (ht : OpensStem t) :
    decapitalize s = decapitalize t ↔ s = t := by
  constructor
  · intro h
    rw [← capitalize_decapitalize hs, h, capitalize_decapitalize ht]
  · rintro rfl
    rfl

namespace Prefixed

variable {getter other : String × JavaType} {opening opening' : GetterPrefix} {stem : String}

theorem opensStem (h : Prefixed getter opening stem) : OpensStem stem := by
  cases h with
  | get hstem => exact hstem
  | is hstem => exact hstem

/-- Two getters of one stem are the same, unless they differ in their prefixes. -/
theorem repeats (h : Prefixed getter opening stem)
    (h' : Prefixed other opening' stem) :
    getter.1 = other.1 ∨ getter.1 = "get" ++ stem ∧ other.1 = "is" ++ stem ∨
      getter.1 = "is" ++ stem ∧ other.1 = "get" ++ stem := by
  cases h with
  | get => cases h' with
    | get => exact .inl rfl
    | is => exact .inr (.inl ⟨rfl, rfl⟩)
  | is => cases h' with
    | get => exact .inr (.inr ⟨rfl, rfl⟩)
    | is => exact .inl rfl

/-- The builder's own getter for the property of a getter with the prefix `get` is called like the
getter. -/
theorem mem_signatures_accessors (h : Prefixed getter .get stem) (b : Blueprint)
    (hasDefault : Bool) :
    ⟨getter.1.toList, []⟩ ∈
      ((Property.ofGetter (decapitalize stem) getter.1 getter.2 hasDefault).accessors
        b).signatures := by
  rw [Property.signatures_accessors b (Strategy.isNamedAfter_bind _)]
  refine List.mem_map.2 ⟨_, Property.get_mem_methods _, ?_⟩
  have hcapitalized : (Property.ofGetter (decapitalize stem) getter.1 getter.2
      hasDefault).capitalized = stem :=
    capitalize_decapitalize h.opensStem
  cases h with
  | get =>
    rw [Property.signature, hcapitalized, String.toList_append]
    rfl

end Prefixed

/-! ## Lists of getters -/

/-- The names of getters that all have a prefix, with the stems behind the prefixes. -/
structure NamedByStems (getters : List (String × JavaType)) (stems : List String) : Prop where
  prefixed : List.Forall₂ (fun getter stem => ∃ opening, Prefixed getter opening stem) getters stems
  names : propertyNames getters = stems.map decapitalize
  restored : ∀ stem ∈ stems, capitalize (decapitalize stem) = stem
  /-- The builder's getter for a property is called like a getter that begins with `get`. -/
  accessor : ∀ pair ∈ getters.zip stems, Prefixed pair.1 .get pair.2 →
    ∀ b hasDefault, ⟨pair.1.1.toList, []⟩ ∈
      ((Property.ofGetter (decapitalize pair.2) pair.1.1 pair.1.2 hasDefault).accessors
        b).signatures
  injective : ∀ s ∈ stems, ∀ t ∈ stems, decapitalize s = decapitalize t ↔ s = t
  /-- Two getters whose properties have one name are the same or differ in the prefix alone. -/
  repeats : ∀ first ∈ getters.zip stems, ∀ second ∈ getters.zip stems,
    decapitalize first.2 = decapitalize second.2 →
      first.1.1 = second.1.1 ∨
        ∃ stem, first.1.1 = "get" ++ stem ∧ second.1.1 = "is" ++ stem ∨
          first.1.1 = "is" ++ stem ∧ second.1.1 = "get" ++ stem

theorem namedByStems_of_prefixed {getters : List (String × JavaType)} {stems : List String}
    (h : List.Forall₂ (fun getter stem => ∃ opening, Prefixed getter opening stem) getters stems)
    (hnames : propertyNames getters = stems.map decapitalize) : NamedByStems getters stems := by
  have hzip : ∀ pair ∈ getters.zip stems, ∃ opening, Prefixed pair.1 opening pair.2 :=
    fun _ hpair => (List.forall₂_iff_zip.1 h).2 hpair
  have hstems : ∀ stem ∈ stems, OpensStem stem := by
    intro stem hstem
    obtain ⟨i, hi, rfl⟩ := List.mem_iff_getElem.1 hstem
    have hlength : i < getters.length := h.length_eq ▸ hi
    obtain ⟨opening, hprefixed⟩ := h.get hlength hi
    exact hprefixed.opensStem
  refine ⟨h, hnames, fun stem hstem => capitalize_decapitalize (hstems stem hstem),
    fun pair _ hget b hasDefault => hget.mem_signatures_accessors b hasDefault,
    fun s hs t ht => decapitalize_inj (hstems s hs) (hstems t ht), ?_⟩
  intro first hfirst second hsecond hname
  obtain ⟨opening, hfirst⟩ := hzip first hfirst
  obtain ⟨opening', hsecond⟩ := hzip second hsecond
  have hstem : first.2 = second.2 := (decapitalize_inj hfirst.opensStem hsecond.opensStem).1 hname
  rw [← hstem] at hsecond
  exact (hfirst.repeats hsecond).imp_right fun hpair => ⟨first.2, hpair⟩

/-- If some getter has no usable prefix, all properties are called like their getters.  If all have
one, the properties are named after the stems, and the names determine the stems. -/
theorem getter_names_cases (getters : List (String × JavaType))
    (h : ∀ getter ∈ getters, isIdentifier getter.1 = true) :
    (∃ getter ∈ getters, ¬∃ opening stem, Prefixed getter opening stem) ∧
        propertyNames getters = getters.map (·.1) ∨
      ∃ stems, NamedByStems getters stems := by
  by_cases hall : getters.all fun getter => (getterStem? getter.1 getter.2).isSome
  · right
    let stemOf (getter : String × JavaType) : String := (getterStem? getter.1 getter.2).getD ""
    have hstem : ∀ getter ∈ getters, getterStem? getter.1 getter.2 = some (stemOf getter) := by
      intro getter hmem
      obtain ⟨stem, hstem⟩ := Option.isSome_iff_exists.1 (List.all_eq_true.1 hall getter hmem)
      simp [stemOf, hstem]
    refine ⟨getters.map stemOf, namedByStems_of_prefixed ?_ ?_⟩
    · rw [List.forall₂_map_right_iff, List.forall₂_same]
      intro getter hmem
      exact (getterStem?_eq_some_iff (h getter hmem)).1 (hstem getter hmem)
    · rw [propertyNames, if_pos hall, List.map_map]
      refine List.map_congr_left fun getter hmem => ?_
      simp [hstem getter hmem]
  · left
    obtain ⟨getter, hmem, hnone⟩ : ∃ getter ∈ getters, getterStem? getter.1 getter.2 = none := by
      simpa using hall
    refine ⟨⟨getter, hmem, ?_⟩, by rw [propertyNames, if_neg hall]⟩
    rintro ⟨opening, stem, hprefixed⟩
    have hsome : getterStem? getter.1 getter.2 = some stem :=
      (getterStem?_eq_some_iff (h getter hmem)).2 ⟨opening, hprefixed⟩
    rw [hnone] at hsome
    cases hsome

/-- A getter with an abbreviation, and two that differ in their prefixes alone and name two
properties alike. -/
theorem getter_names_cases_pair :
    let getters : List (String × JavaType) :=
      [("getURL", .ofClass JavaType.objectClass), ("getActive", .primitive .boolean),
        ("isActive", .primitive .boolean)]
    (∀ getter ∈ getters, isIdentifier getter.1 = true) ∧
      propertyNames getters = ["URL", "active", "active"] ∧
        ∃ stems, NamedByStems getters stems := by
  intro getters
  have hidentifiers : ∀ getter ∈ getters, isIdentifier getter.1 = true := by decide +kernel
  have hnames : propertyNames getters = ["URL", "active", "active"] := by decide +kernel
  refine ⟨hidentifiers, hnames, ?_⟩
  rcases getter_names_cases getters hidentifiers with ⟨-, hself⟩ | hstems
  · rw [hnames] at hself
    exact absurd hself (by decide)
  · exact hstems

end ValueBuilder
