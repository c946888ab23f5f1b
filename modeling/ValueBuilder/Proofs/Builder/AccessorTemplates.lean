import ValueBuilder.Builder.Storage
import ValueBuilder.Proofs.Source.Templates

/-!
# The templates of accessors

Every template of a property's accessors fits its arguments, for each of the five strategies.  The
shapes that methods share have a lemma each; a strategy's accessors are then checked method by
method.
-/

namespace ValueBuilder

open Java

/-! ## Shared statements -/

namespace Code

@[simp]
theorem fits_joined_nil : Code.Fits (joined []) :=
  fits_nil

@[simp]
theorem fits_joined_cons {code : Code} {parts : List Code} :
    Code.Fits (joined (code :: parts)) ↔ code.Fits ∧ Code.Fits (joined parts) := by
  simp [joined, Fits, or_imp, forall_and]

end Code

namespace Blueprint

@[simp]
theorem fits_returnsBuilder (b : Blueprint) : b.returnsBuilder.Fits :=
  Template.fits_ofList rfl rfl

@[simp]
theorem fits_returnBuilder (b : Blueprint) : b.returnBuilder.Fits :=
  Template.fits_ofList rfl rfl

/-- A link to a getter needs a template for two arguments. -/
@[simp]
theorem fits_linkGetter {b : Blueprint} {p : Property} {template : String} :
    (b.linkGetter p template).Fits ↔ Template.fits template 2 = true :=
  Iff.rfl

end Blueprint

namespace Accessors

section Methods

variable (b : Blueprint) (p : Property)

/-! ## Plain properties -/

@[simp]
theorem fits_throwsIfArgumentNull : (throwsIfArgumentNull p).Fits :=
  Template.fits_ofList rfl rfl

@[simp]
theorem fits_storeArgument (checked : Bool) : (storeArgument p checked).Fits := by
  cases checked with
  | true => exact Template.fits_ofList rfl rfl
  | false => exact Template.fits_ofList rfl rfl

theorem fits_plain (setter : String) : (plain b p setter).Fits := by
  have hsetter : (plainSetter b p setter).Fits := by
    simp (disch := exact Template.fits_ofList rfl rfl) [plainSetter, Template.fits_of_check]
  have hgetter : (plainGetter b p).Fits := by
    simp (disch := exact Template.fits_ofList rfl rfl) [plainGetter, Template.fits_of_check]
  simp [plain, hsetter, hgetter]

/-! ## Optional properties -/

@[simp]
theorem fits_optionalDocumentation : (optionalDocumentation b p).Fits := by
  simp (disch := exact Template.fits_ofList rfl rfl)
    [optionalDocumentation, Template.fits_of_check]

@[simp]
theorem fits_setOrClear {methods : OptionalMethods} {condition set : Statement} :
    (setOrClear methods condition set).Fits ↔ condition.Fits ∧ set.Fits := by
  simp (disch := exact Template.fits_ofList rfl rfl) [setOrClear, Template.fits_of_check]

@[simp]
theorem fits_returnOptional {template : String} {flavour : OptionalFlavour} :
    (returnOptional template p flavour).Fits ↔ Template.fits template 3 = true :=
  Iff.rfl

theorem fits_optional (flavour : OptionalFlavour) (methods : OptionalMethods) (e : Element) :
    (optional b p flavour methods e).Fits := by
  have hsetter : (optionalSetter b p methods e).Fits := by
    simp (disch := exact Template.fits_ofList rfl rfl) [optionalSetter, Template.fits_of_check]
  have hoptional : (optionalOptionalSetter b p flavour methods e).Fits := by
    simp (disch := exact Template.fits_ofList rfl rfl)
      [optionalOptionalSetter, Template.fits_of_check]
  have hnullable : (optionalNullableSetter b p methods e).Fits := by
    simp (disch := exact Template.fits_ofList rfl rfl)
      [optionalNullableSetter, Template.fits_of_check]
  have hclear : (optionalClear b p flavour methods).Fits := by
    simp (disch := exact Template.fits_ofList rfl rfl) [optionalClear, Template.fits_of_check]
  have hgetter : (optionalGetter b p flavour e).Fits := by
    simp (disch := exact Template.fits_ofList rfl rfl) [optionalGetter, Template.fits_of_check]
  simp [optional, hsetter, hoptional, hnullable, hclear, hgetter]

/-! ## Collections -/

variable (e : Element)

@[simp]
theorem fits_throwsIfElementNull : (throwsIfElementNull e).Fits := by
  simp [throwsIfElementNull]

@[simp]
theorem fits_throwsIfContainsNull : throwsIfContainsNull.Fits := by
  simp [throwsIfContainsNull]

@[simp]
theorem fits_addOne : (addOne b p e).Fits := by
  simp (disch := exact Template.fits_ofList rfl rfl)
    [addOne, addElement, Template.fits_of_check]

@[simp]
theorem fits_addArrayHead : (addArrayHead b p e).Fits := by
  simp (disch := exact Template.fits_ofList rfl rfl) [addArrayHead, Template.fits_of_check]

@[simp]
theorem fits_addAllHead : (addAllHead b p e).Fits := by
  simp (disch := exact Template.fits_ofList rfl rfl) [addAllHead, Template.fits_of_check]

@[simp]
theorem fits_addEach : (addEach b p e).Fits := by
  simp (disch := exact Template.fits_ofList rfl rfl) [addEach, Template.fits_of_check]

@[simp]
theorem fits_clearAll {description : String} :
    (clearAll b p description).Fits ↔ Template.fits description 2 = true := by
  simp (disch := exact Template.fits_ofList rfl rfl) [clearAll, Template.fits_of_check]

@[simp]
theorem fits_unmodifiableView {noun answer : String} {head : Statement} :
    (unmodifiableView b p noun head answer).Fits ↔
      head.Fits ∧ Template.fits answer 2 = true := by
  simp (disch := exact Template.fits_ofList rfl rfl) [unmodifiableView, Template.fits_of_check]

theorem fits_list : (list b p e).Fits := by
  have hdocumentation : (listAddDocumentation b p).Fits := by
    simp (disch := exact Template.fits_ofList rfl rfl)
      [listAddDocumentation, Template.fits_of_check]
  have hadd : (listAdd b p e).Fits := by
    simp (disch := exact Template.fits_ofList rfl rfl) [listAdd, Template.fits_of_check]
  have harray : (listAddArray b p e).Fits := by
    simp (disch := exact Template.fits_ofList rfl rfl)
      [listAddArray, hdocumentation, Template.fits_of_check]
  have hall : (listAddAll b p e).Fits := by
    simp (disch := exact Template.fits_ofList rfl rfl)
      [listAddAll, hdocumentation, Template.fits_of_check]
  simp (disch := exact Template.fits_ofList rfl rfl)
    [list, hadd, harray, hall, Template.fits_of_check]

theorem fits_set : (set b p e).Fits := by
  have hdocumentation : (setAddDocumentation b p).Fits := by
    simp (disch := exact Template.fits_ofList rfl rfl)
      [setAddDocumentation, Template.fits_of_check]
  have hadd : (setAdd b p e).Fits := by
    simp (disch := exact Template.fits_ofList rfl rfl) [setAdd, Template.fits_of_check]
  have harray : (setAddArray b p e).Fits := by simp [setAddArray, hdocumentation]
  have hall : (setAddAll b p e).Fits := by simp [setAddAll, hdocumentation]
  have hremove : (setRemove b p e).Fits := by
    simp (disch := exact Template.fits_ofList rfl rfl) [setRemove, Template.fits_of_check]
  simp (disch := exact Template.fits_ofList rfl rfl)
    [set, hadd, harray, hall, hremove, Template.fits_of_check]

theorem fits_map (key value : Element) : (map b p key value).Fits := by
  have hentry : (throwsIfEntryNull key value).Fits := by
    rw [throwsIfEntryNull]
    split <;> simp [throwsIfKeyNull]
  have hkey : (checkKey key).Fits := by
    simp (disch := exact Template.fits_ofList rfl rfl)
      [checkKey, checkNotNull, Template.fits_of_check]
  have hput : (mapPut b p key value).Fits := by
    simp (disch := exact Template.fits_ofList rfl rfl)
      [mapPut, hentry, hkey, checkNotNull, Template.fits_of_check]
  have hall : (mapPutAll b p key value).Fits := by
    simp (disch := exact Template.fits_ofList rfl rfl) [mapPutAll, Template.fits_of_check]
  have hremove : (mapRemove b p key).Fits := by
    simp (disch := exact Template.fits_ofList rfl rfl)
      [mapRemove, throwsIfKeyNull, hkey, Template.fits_of_check]
  simp (disch := exact Template.fits_ofList rfl rfl)
    [map, hput, hall, hremove, Template.fits_of_check]

end Methods

end Accessors

/-- Whatever the strategy of a property, the templates of its accessors fit. -/
theorem Property.fits_accessors (b : Blueprint) (p : Property) : (p.accessors b).Fits := by
  rw [accessors]
  cases p.strategy with
  | plain setter hasDefault => exact Accessors.fits_plain b p setter
  | optional flavour methods e => exact Accessors.fits_optional b p flavour methods e
  | list e => exact Accessors.fits_list b p e
  | set e => exact Accessors.fits_set b p e
  | map key value => exact Accessors.fits_map b p key value

end ValueBuilder
