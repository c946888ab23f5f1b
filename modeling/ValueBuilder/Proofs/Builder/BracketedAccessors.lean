import ValueBuilder.Builder.Storage
import ValueBuilder.Proofs.Source.BracketedLines

/-!
# Brackets of accessors

Each method of an accessor closes the blocks that it opens, whatever the property and its strategy.
A few parts of methods do not: the head of a method opens a block that the last lines close.

* `Property.effect_accessors` assembles the accessors of a property, method by method.
* `Accessors.effect_setOrClear` and `Accessors.effect_addEach` are about the parts that end the
  method around them.
-/

namespace ValueBuilder

open Java Effect

namespace Blueprint

variable (b : Blueprint)

@[simp]
theorem effect_returnsBuilder : b.returnsBuilder.effect = 1 := by
  simp (disch := (refine ofText_ofList (id rfl) ?_; decide)) [returnsBuilder, ofText_eq 1]

@[simp]
theorem effect_returnBuilder : b.returnBuilder.effect = 1 := by
  simp (disch := (refine ofText_ofList (id rfl) ?_; decide)) [returnBuilder, ofText_eq 1]

@[simp]
theorem effect_linkGetter (p : Property) (template : String) :
    (b.linkGetter p template).effect = .ofText template :=
  rfl

end Blueprint

namespace Accessors

variable {b : Blueprint} {p : Property} {e : Element}

/-! ## Plain properties -/

@[simp]
theorem effect_throwsIfArgumentNull : (throwsIfArgumentNull p).effect = 1 := by
  simp (disch := (refine ofText_ofList (id rfl) ?_; decide))
    [throwsIfArgumentNull, ofText_eq 1]

@[simp]
theorem effect_storeArgument (checked : Bool) : (storeArgument p checked).effect = 1 := by
  simp (disch := (refine ofText_ofList (id rfl) ?_; decide)) [storeArgument, ofText_eq 1]

theorem effect_plainSetter (setter : String) : (plainSetter b p setter).effect = 1 := by
  simp (disch := (refine ofText_ofList (id rfl) ?_; decide))
    [plainSetter, ofText_eq 1, ofText_eq opens, ofText_eq closes]

/-- The arguments of the check stand on lines of their own. -/
theorem effect_plainGetter : (plainGetter b p).effect = 1 := by
  simp (disch := (refine ofText_ofList (id rfl) ?_; decide))
    [plainGetter, ofText_eq 1, ofText_eq opens, ofText_eq closes, ofText_eq calls,
      ofText_eq returns]

theorem effect_plain (setter : String) : (plain b p setter).effect = 1 := by
  simp [plain, effect_plainSetter, effect_plainGetter]

/-! ## Optional properties -/

theorem effect_optionalDocumentation : (optionalDocumentation b p).effect = 1 := by
  simp (disch := (refine ofText_ofList (id rfl) ?_; decide))
    [optionalDocumentation, ofText_eq 1]

/-- The block that the condition opens is closed, and that of the method. -/
theorem effect_setOrClear (methods : OptionalMethods) (condition set : Statement) :
    (setOrClear methods condition set).effect =
      condition.effect * (set.effect * (closes * closes)) := by
  have helse : ofText "    \x7d else \x7b" = closes * opens := by
    refine ofText_ofList (id rfl) ?_
    decide
  simp (disch := (refine ofText_ofList (id rfl) ?_; decide))
    [setOrClear, helse, mul_assoc, ofText_eq 1, ofText_eq closes]

theorem effect_optionalSetter (methods : OptionalMethods) :
    (optionalSetter b p methods e).effect = 1 := by
  simp (disch := (refine ofText_ofList (id rfl) ?_; decide))
    [optionalSetter, effect_optionalDocumentation, ofText_eq 1, ofText_eq opens, ofText_eq closes]

theorem effect_optionalOptionalSetter (flavour : OptionalFlavour) (methods : OptionalMethods) :
    (optionalOptionalSetter b p flavour methods e).effect = 1 := by
  simp (disch := (refine ofText_ofList (id rfl) ?_; decide))
    [optionalOptionalSetter, effect_optionalDocumentation, effect_setOrClear, ofText_eq 1,
      ofText_eq opens]

theorem effect_optionalNullableSetter (methods : OptionalMethods) :
    (optionalNullableSetter b p methods e).effect = 1 := by
  simp (disch := (refine ofText_ofList (id rfl) ?_; decide))
    [optionalNullableSetter, effect_optionalDocumentation, effect_setOrClear, ofText_eq 1,
      ofText_eq opens]

theorem effect_optionalClear (flavour : OptionalFlavour) (methods : OptionalMethods) :
    (optionalClear b p flavour methods).effect = 1 := by
  simp (disch := (refine ofText_ofList (id rfl) ?_; decide))
    [optionalClear, ofText_eq 1, ofText_eq opens, ofText_eq closes]

theorem effect_optionalGetter (flavour : OptionalFlavour) :
    (optionalGetter b p flavour e).effect = 1 := by
  simp (disch := (refine ofText_ofList (id rfl) ?_; decide))
    [optionalGetter, returnOptional, ofText_eq 1, ofText_eq opens, ofText_eq closes]

theorem effect_optional (flavour : OptionalFlavour) (methods : OptionalMethods) :
    (optional b p flavour methods e).effect = 1 := by
  simp [optional, effect_optionalSetter, effect_optionalOptionalSetter,
    effect_optionalNullableSetter, effect_optionalClear, effect_optionalGetter]

/-! ## Collections -/

@[simp]
theorem effect_throwsIfElementNull : (throwsIfElementNull e).effect = 1 := by
  simp (disch := (refine ofText_ofList (id rfl) ?_; decide))
    [throwsIfElementNull, ofText_eq 1]

@[simp]
theorem effect_throwsIfContainsNull : throwsIfContainsNull.effect = 1 := by
  simp (disch := (refine ofText_ofList (id rfl) ?_; decide))
    [throwsIfContainsNull, ofText_eq 1]

theorem effect_addOne : (addOne b p e).effect = 1 := by
  simp (disch := (refine ofText_ofList (id rfl) ?_; decide))
    [addOne, addElement, ofText_eq 1, ofText_eq opens, ofText_eq closes]

theorem effect_addArrayHead : (addArrayHead b p e).effect = opens := by
  simp (disch := (refine ofText_ofList (id rfl) ?_; decide))
    [addArrayHead, ofText_eq 1, ofText_eq opens]

theorem effect_addAllHead : (addAllHead b p e).effect = opens := by
  simp (disch := (refine ofText_ofList (id rfl) ?_; decide))
    [addAllHead, ofText_eq 1, ofText_eq opens]

/-- Behind the loop, the block of the method is closed. -/
theorem effect_addEach : (addEach b p e).effect = closes := by
  simp (disch := (refine ofText_ofList (id rfl) ?_; decide))
    [addEach, ofText_eq 1, ofText_eq opens, ofText_eq closes]

theorem effect_clearAll (description : String) :
    (clearAll b p description).effect = .ofText description := by
  simp (disch := (refine ofText_ofList (id rfl) ?_; decide))
    [clearAll, ofText_eq 1, ofText_eq opens, ofText_eq closes]

theorem effect_unmodifiableView {noun answer : String} {head : Statement}
    (hnoun : noun ∈ ["list", "set", "map"]) :
    (unmodifiableView b p noun head answer).effect =
      head.effect * (.ofText answer * closes) := by
  have hline : (Statement.verbatim ["   * Returns an unmodifiable view of the ", noun,
      " that will be returned by"]).effect = 1 := by
    rw [Statement.effect_verbatim]
    simp only [List.mem_cons, List.not_mem_nil, or_false] at hnoun
    rcases hnoun with rfl | rfl | rfl <;>
      · refine ofTexts_ofList (by repeat constructor) ?_
        decide
  simp (disch := (refine ofText_ofList (id rfl) ?_; decide))
    [unmodifiableView, hline, ofText_eq 1, ofText_eq closes]

theorem effect_list : (list b p e).effect = 1 := by
  have hdocumentation : (listAddDocumentation b p).effect = 1 := by
    simp (disch := (refine ofText_ofList (id rfl) ?_; decide))
      [listAddDocumentation, ofText_eq 1]
  have hadd : (listAdd b p e).effect = 1 := by
    simp (disch := (refine ofText_ofList (id rfl) ?_; decide))
      [listAdd, effect_addOne, ofText_eq 1]
  have harray : (listAddArray b p e).effect = 1 := by
    simp (disch := (refine ofText_ofList (id rfl) ?_; decide))
      [listAddArray, hdocumentation, effect_addArrayHead, effect_addEach, ofText_eq 1]
  have hall : (listAddAll b p e).effect = 1 := by
    simp (disch := (refine ofText_ofList (id rfl) ?_; decide))
      [listAddAll, hdocumentation, effect_addAllHead, effect_addEach, ofText_eq 1,
        ofText_eq opens, ofText_eq closes]
  simp (disch := (refine ofText_ofList (id rfl) ?_; decide))
    [list, hadd, harray, hall, effect_clearAll,
      effect_unmodifiableView (show "list" ∈ ["list", "set", "map"] by simp), ofText_eq 1,
      ofText_eq opens]

theorem effect_set : (set b p e).effect = 1 := by
  have hdocumentation : (setAddDocumentation b p).effect = 1 := by
    simp (disch := (refine ofText_ofList (id rfl) ?_; decide))
      [setAddDocumentation, ofText_eq 1]
  have hadd : (setAdd b p e).effect = 1 := by
    simp (disch := (refine ofText_ofList (id rfl) ?_; decide))
      [setAdd, effect_addOne, ofText_eq 1]
  have harray : (setAddArray b p e).effect = 1 := by
    simp [setAddArray, hdocumentation, effect_addArrayHead, effect_addEach]
  have hall : (setAddAll b p e).effect = 1 := by
    simp [setAddAll, hdocumentation, effect_addAllHead, effect_addEach]
  have hremove : (setRemove b p e).effect = 1 := by
    simp (disch := (refine ofText_ofList (id rfl) ?_; decide))
      [setRemove, ofText_eq 1, ofText_eq opens, ofText_eq closes]
  simp (disch := (refine ofText_ofList (id rfl) ?_; decide))
    [set, hadd, harray, hall, hremove, effect_clearAll,
      effect_unmodifiableView (show "set" ∈ ["list", "set", "map"] by simp), ofText_eq 1,
      ofText_eq opens]

/-! ## Maps -/

@[simp]
theorem effect_throwsIfKeyNull : throwsIfKeyNull.effect = 1 := by
  simp (disch := (refine ofText_ofList (id rfl) ?_; decide)) [throwsIfKeyNull, ofText_eq 1]

@[simp]
theorem effect_throwsIfEntryNull (key value : Element) :
    (throwsIfEntryNull key value).effect = 1 := by
  have hboth : (Statement.verbatim ["   * @throws NullPointerException if either ",
      "\x7b@code key\x7d or \x7b@code value\x7d are null"]).effect = 1 := by
    rw [Statement.effect_verbatim]
    refine ofTexts_ofList (by repeat constructor) ?_
    decide
  rw [throwsIfEntryNull]
  split <;>
    simp (disch := (refine ofText_ofList (id rfl) ?_; decide)) [hboth, ofText_eq 1]

theorem effect_checkNotNull (template : String) (htemplate : ofText template = 1) :
    (checkNotNull e template).effect = 1 := by
  simp [checkNotNull, htemplate]

theorem effect_map (key value : Element) : (map b p key value).effect = 1 := by
  have hput : (mapPut b p key value).effect = 1 := by
    simp (disch := (refine ofText_ofList (id rfl) ?_; decide))
      [mapPut, checkKey, effect_checkNotNull, ofText_eq 1, ofText_eq opens, ofText_eq closes]
  have hputAll : (mapPutAll b p key value).effect = 1 := by
    simp (disch := (refine ofText_ofList (id rfl) ?_; decide))
      [mapPutAll, ofText_eq 1, ofText_eq opens, ofText_eq closes]
  have hremove : (mapRemove b p key).effect = 1 := by
    simp (disch := (refine ofText_ofList (id rfl) ?_; decide))
      [mapRemove, checkKey, effect_checkNotNull, ofText_eq 1, ofText_eq opens, ofText_eq closes]
  simp (disch := (refine ofText_ofList (id rfl) ?_; decide))
    [map, hput, hputAll, hremove, effect_clearAll,
      effect_unmodifiableView (show "map" ∈ ["list", "set", "map"] by simp), ofText_eq 1,
      ofText_eq opens]

end Accessors

/-! ## All strategies -/

theorem Property.effect_accessors (b : Blueprint) (p : Property) :
    (p.accessors b).effect = 1 := by
  rw [accessors]
  cases p.strategy with
  | plain setter hasDefault => exact Accessors.effect_plain setter
  | optional flavour methods e => exact Accessors.effect_optional flavour methods
  | list e => exact Accessors.effect_list
  | set e => exact Accessors.effect_set
  | map key value => exact Accessors.effect_map key value

end ValueBuilder
