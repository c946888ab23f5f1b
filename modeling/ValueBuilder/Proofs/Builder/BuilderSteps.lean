import ValueBuilder.Builder.Building
import ValueBuilder.Builder.Header
import ValueBuilder.Builder.Values
import ValueBuilder.Proofs.Source.Tokens

/-!
# Steps of a builder's methods

The methods of a generated builder assign its fields and keep the set of properties that are still
unset.  What a line does to either is a step.

* `Code.steps` reads the steps of code, and `Code.parameters` the types of the arguments that it
  takes.  `Code.copies` reads which fields a finished value takes from a builder as they are.
* `Property.setters` are the methods of a property with steps, and `Property.steps_accessors` says
  that its other methods have none.
* `Blueprint.steps_clear` finds the steps of clearing a builder of which no fresh one can be made.
-/

namespace ValueBuilder

open Java

/-! ## Steps -/

/-- What a line does to a builder. -/
inductive BuilderStep
  /-- Stores `null` in a field. -/
  | erase (field : List Char)
  /-- Stores the argument in the field of its name; if it is `checked`, `null` is refused first. -/
  | store (field : List Char) (checked : Bool)
  /-- Goes on only if no property is unset. -/
  | requireSet
  /-- Marks no property as unset. -/
  | unmarkAll
  /-- Marks all required properties as unset. -/
  | markAll
  /-- Marks the property of a constant as set. -/
  | unmark (constant : List Char)

namespace Token

/-- What an assignment to a field does. -/
def assignment? : List Token → Option BuilderStep
  | [word field _, symbol '=', word value own, symbol ';'] =>
    if own && value == "null".toList then some (.erase field)
    else if value = field then some (.store field false)
    else none
  | [word field _, symbol '=', type _, symbol '.', word check true, symbol '(', word value _,
      symbol ')', symbol ';'] =>
    if check = "checkNotNull".toList ∧ value = field then some (.store field true) else none
  | _ => none

/-- What a call of a method of the set of unset properties does. -/
def marking? : List Token → Option BuilderStep
  | [word call true, symbol '(', symbol ')', symbol ';'] =>
    if call = "clear".toList then some .unmarkAll else none
  | [word call true, symbol '(', path _, symbol '.', word constant _, symbol ')', symbol ';'] =>
    if call = "remove".toList then some (.unmark constant) else none
  | [word call true, symbol '(', type _, symbol '.', word all true, symbol '(', type _, symbol '.',
      word cls true, symbol ')', symbol ')', symbol ';'] =>
    if call = "addAll".toList ∧ all = "allOf".toList ∧ cls = "class".toList then some .markAll
    else none
  | _ => none

/-- What a line does.  The words around a name are the generator's own. -/
def step? : List Token → Option BuilderStep
  | word object true :: symbol '.' :: tokens =>
    if object = "this".toList then assignment? tokens
    else if object = "_unsetProperties".toList then marking? tokens
    else none
  | type _ :: symbol '.' :: word check true :: symbol '(' :: word object true :: symbol '.' ::
      word question true :: _ =>
    if check = "checkState".toList ∧ object = "_unsetProperties".toList ∧
        question = "isEmpty".toList then some .requireSet
    else none
  | tokens => assignment? tokens

/-- The type of the argument of a method that takes one. -/
def parameter? : List Token → Option JavaType
  | [word _ _, type _, word _ _, symbol '(', type t, word _ _, symbol ')', symbol '\x7b'] => some t
  | _ => none

/-- The field of a finished value that a line assigns, and the field of the builder that it takes as
it is. -/
def copy? : List Token → Option (List Char × List Char)
  | [word object _, symbol '.', word field _, symbol '=', word builder _, symbol '.',
      word source _, symbol ';'] =>
    if object = "this".toList ∧ builder = "builder".toList then some (field, source) else none
  | _ => none

end Token

namespace Statement

variable {s : Statement} {cs : List Char}

/-- What a line of code does to the builder. -/
def step? (s : Statement) : Option BuilderStep :=
  Token.step? (Token.significant s.tokens)

/-- The type of the argument of the method that a line declares. -/
def parameter? (s : Statement) : Option JavaType :=
  Token.parameter? (Token.significant s.tokens)

/-- The fields between which a line of a constructor copies. -/
def copy? (s : Statement) : Option (List Char × List Char) :=
  Token.copy? (Token.significant s.tokens)

/-- Judges a line whose own text is known character by character. -/
theorem step?_of_opening {step : Option BuilderStep} (hchars : s.opening = String.ofList cs)
    (hstep : Token.step? (Token.significant (s.tokensOver cs)) = step) : s.step? = step := by
  rw [step?, tokens_of_opening hchars, hstep]

theorem parameter?_of_opening {t : Option JavaType} (hchars : s.opening = String.ofList cs)
    (ht : Token.parameter? (Token.significant (s.tokensOver cs)) = t) : s.parameter? = t := by
  rw [parameter?, tokens_of_opening hchars, ht]

theorem copy?_of_opening {fields : Option (List Char × List Char)}
    (hchars : s.opening = String.ofList cs)
    (hfields : Token.copy? (Token.significant (s.tokensOver cs)) = fields) : s.copy? = fields := by
  rw [copy?, tokens_of_opening hchars, hfields]

end Statement

namespace Code

/-- What code does to the builder, in order. -/
abbrev steps (code : Code) : List BuilderStep :=
  code.filterMap Statement.step?

/-- The types of the arguments of the methods that code declares. -/
abbrev parameters (code : Code) : List JavaType :=
  code.filterMap Statement.parameter?

/-- The fields of finished values that code copies, and the fields of a builder that it copies. -/
abbrev copies (code : Code) : List (List Char × List Char) :=
  code.filterMap Statement.copy?

variable {α : Type} {read : Statement → Option α}

@[simp]
theorem filterMap_cons_ite {s t : Statement} {code : Code} {condition : Prop}
    [Decidable condition] :
    List.filterMap read ((if condition then s else t) :: code) =
      if condition then List.filterMap read (s :: code) else List.filterMap read (t :: code) := by
  split <;> rfl

@[simp]
theorem filterMap_ite {first second : Code} {condition : Prop} [Decidable condition] :
    List.filterMap read (if condition then first else second) =
      if condition then first.filterMap read else second.filterMap read :=
  apply_ite _ _ _ _

@[simp]
theorem filterMap_joined_nil : List.filterMap read (joined []) = [] :=
  rfl

@[simp]
theorem filterMap_joined_cons (code : Code) (parts : List Code) :
    List.filterMap read (joined (code :: parts)) =
      code.filterMap read ++ List.filterMap read (joined parts) :=
  List.filterMap_append

end Code

/-- Parts with at most one step each have the steps of those that have one. -/
theorem flatMap_ite {α β : Type} (keep : α → Bool) (f : α → β) (xs : List α) :
    (xs.flatMap fun x => if keep x then [f x] else []) = (xs.filter keep).map f := by
  induction xs with
  | nil => rfl
  | cons x xs ih =>
    rw [List.flatMap_cons, ih, List.filter_cons]
    split <;> rfl

/-! ## Accessors -/

namespace Accessors

variable (b : Blueprint) (p : Property)

theorem step?_storeArgument (checked : Bool) :
    (storeArgument p checked).step? = some (.store p.name.toList checked) := by
  cases checked with
  | false =>
    refine Statement.step?_of_opening rfl ?_
    show (if p.name.toList = p.name.toList then some (BuilderStep.store p.name.toList false)
      else none) = _
    exact if_pos rfl
  | true =>
    refine Statement.step?_of_opening rfl ?_
    show (if "checkNotNull".toList = "checkNotNull".toList ∧ p.name.toList = p.name.toList then
      some (BuilderStep.store p.name.toList true) else none) = _
    exact if_pos ⟨rfl, rfl⟩

theorem steps_plainSetter (setter : String) :
    (plainSetter b p setter).steps =
      .store p.name.toList (!p.type.isPrimitive) ::
        if p.tracksUnset then [.unmark p.constant.toList] else [] := by
  have hunmark : (Statement.template "    _unsetProperties.remove(%s);" [b.constantOf p]).step? =
      some (.unmark p.constant.toList) :=
    Statement.step?_of_opening rfl rfl
  simp (disch := exact Statement.step?_of_opening (id rfl) (id rfl))
    [List.filterMap_cons_none, plainSetter, throwsIfArgumentNull, List.filterMap_cons_some
      (step?_storeArgument p _), List.filterMap_cons_some hunmark]

theorem steps_plainGetter : (plainGetter b p).steps = [] := by
  simp (disch := exact Statement.step?_of_opening (id rfl) (id rfl))
    [List.filterMap_cons_none, plainGetter]

theorem steps_optionalSetter (methods : OptionalMethods) (e : Element) :
    (optionalSetter b p methods e).steps = [.store p.name.toList e.isNullable] := by
  simp (disch := exact Statement.step?_of_opening (id rfl) (id rfl))
    [List.filterMap_cons_none, optionalSetter, optionalDocumentation, throwsIfArgumentNull,
      List.filterMap_cons_some (step?_storeArgument p _)]

theorem steps_optionalClear (flavour : OptionalFlavour) (methods : OptionalMethods) :
    (optionalClear b p flavour methods).steps = [.erase p.name.toList] := by
  have herase : (Statement.template "    this.%s = null;" [.name p.name]).step? =
      some (.erase p.name.toList) :=
    Statement.step?_of_opening rfl rfl
  simp (disch := exact Statement.step?_of_opening (id rfl) (id rfl))
    [List.filterMap_cons_none, optionalClear, List.filterMap_cons_some herase]

theorem steps_optional (flavour : OptionalFlavour) (methods : OptionalMethods) (e : Element) :
    (optional b p flavour methods e).steps =
      (optionalSetter b p methods e).steps ++ (optionalClear b p flavour methods).steps := by
  have hrest : (optionalOptionalSetter b p flavour methods e).steps = [] ∧
      (optionalNullableSetter b p methods e).steps = [] ∧
      (optionalGetter b p flavour e).steps = [] := by
    simp (disch := exact Statement.step?_of_opening (id rfl) (id rfl))
      [List.filterMap_cons_none, optionalOptionalSetter, optionalNullableSetter, optionalGetter,
        optionalDocumentation, setOrClear]
  simp [optional, hrest]

theorem steps_list (e : Element) : (list b p e).steps = [] := by
  simp (disch := exact Statement.step?_of_opening (id rfl) (id rfl))
    [List.filterMap_cons_none, list, listAdd, listAddArray, listAddAll, listAddDocumentation,
      addOne, addElement, addArrayHead, addAllHead, addEach, clearAll, unmodifiableView,
      throwsIfElementNull, throwsIfContainsNull]

theorem steps_set (e : Element) : (set b p e).steps = [] := by
  simp (disch := exact Statement.step?_of_opening (id rfl) (id rfl))
    [List.filterMap_cons_none, set, setAdd, setAddArray, setAddAll, setRemove,
      setAddDocumentation, addOne, addElement, addArrayHead, addAllHead, addEach, clearAll,
      unmodifiableView, throwsIfElementNull, throwsIfContainsNull]

theorem steps_map (key value : Element) : (map b p key value).steps = [] := by
  have hthrows : (throwsIfEntryNull key value).steps = [] := by
    rw [throwsIfEntryNull]
    split <;>
      simp (disch := exact Statement.step?_of_opening (id rfl) (id rfl))
        [List.filterMap_cons_none, throwsIfKeyNull]
  simp (disch := exact Statement.step?_of_opening (id rfl) (id rfl))
    [List.filterMap_cons_none, map, mapPut, mapPutAll, mapRemove, hthrows, throwsIfKeyNull,
      checkKey, checkNotNull, clearAll, unmodifiableView]

theorem parameters_plainSetter (setter : String) :
    (plainSetter b p setter).parameters = [p.type] := by
  have hhead : (Statement.template "  public %s %s(%s %s) \x7b"
      [b.builder, .name setter, p.type, .name p.name]).parameter? = some p.type :=
    Statement.parameter?_of_opening rfl rfl
  have hstore (checked : Bool) : (storeArgument p checked).parameter? = none := by
    cases checked <;> exact Statement.parameter?_of_opening rfl rfl
  simp (disch := exact Statement.parameter?_of_opening (id rfl) (id rfl))
    [List.filterMap_cons_none, plainSetter, throwsIfArgumentNull, List.filterMap_cons_some hhead,
      List.filterMap_cons_none (hstore _)]

theorem parameters_optionalSetter (methods : OptionalMethods) (e : Element) :
    (optionalSetter b p methods e).parameters = [e.parameter] := by
  have hhead : (Statement.template "  public %s %s(%s %s) \x7b"
      [b.builder, .name methods.optionalSetter, e.parameter, .name p.name]).parameter? =
        some e.parameter :=
    Statement.parameter?_of_opening rfl rfl
  have hstore (checked : Bool) : (storeArgument p checked).parameter? = none := by
    cases checked <;> exact Statement.parameter?_of_opening rfl rfl
  simp (disch := exact Statement.parameter?_of_opening (id rfl) (id rfl))
    [List.filterMap_cons_none, optionalSetter, optionalDocumentation, throwsIfArgumentNull,
      List.filterMap_cons_some hhead, List.filterMap_cons_none (hstore _)]

end Accessors

namespace Property

variable (b : Blueprint) (p : Property)

/-- The methods of a property that assign its field.  The other setters of an optional property call
these, and collections are changed in place. -/
def setters (b : Blueprint) (p : Property) : List Code :=
  match p.strategy with
  | .plain setter _ => [Accessors.plainSetter b p setter]
  | .optional flavour methods e =>
    [Accessors.optionalSetter b p methods e, Accessors.optionalClear b p flavour methods]
  | .list _ | .set _ | .map .. => []

/-- No other method of a property has steps. -/
theorem steps_accessors :
    (p.accessors b).steps = (p.setters b).flatMap Code.steps := by
  rw [accessors, setters]
  cases p.strategy with
  | plain setter hasDefault =>
    simp [Accessors.plain, Accessors.steps_plainGetter]
  | optional flavour methods e =>
    simp [Accessors.steps_optional]
  | list e => exact Accessors.steps_list b p e
  | set e => exact Accessors.steps_set b p e
  | map key value => exact Accessors.steps_map b p key value

/-- Whether a builder without a fresh one to copy from clears the property by `null`. -/
def isErased (p : Property) : Bool :=
  match p.strategy with
  | .plain .. => !p.type.isPrimitive
  | .optional .. => true
  | .list _ | .set _ | .map .. => false

theorem steps_clearAlone :
    p.clearAlone.steps = if p.isErased then [.erase p.name.toList] else [] := by
  have herase : (Statement.template "    %s = null;" [.name p.name]).step? =
      some (.erase p.name.toList) :=
    Statement.step?_of_opening rfl rfl
  rw [clearAlone, isErased]
  cases p.strategy with
  | plain setter hasDefault =>
    cases p.type.isPrimitive <;> simp [List.filterMap_cons_some herase]
  | optional flavour methods e => simp [List.filterMap_cons_some herase]
  | list e | set e | map key value =>
    simp (disch := exact Statement.step?_of_opening (id rfl) (id rfl))
      [List.filterMap_cons_none]

end Property

namespace Blueprint

variable (b : Blueprint)

theorem steps_clear (hfactory : b.factory = none) :
    b.clear.steps =
      (b.properties.filter (·.isErased)).map (fun p => .erase p.name.toList) ++
        if b.hasRequired then [.unmarkAll, .markAll] else [] := by
  have hunmark : (Statement.verbatim ["    _unsetProperties.clear();"]).step? = some .unmarkAll :=
    Statement.step?_of_opening rfl rfl
  have hmark : (Statement.template "    _unsetProperties.addAll(%s.allOf(%s.class));"
      [Library.enumSet, b.propertyEnum]).step? = some .markAll :=
    Statement.step?_of_opening rfl rfl
  have herase : List.filterMap Statement.step? (b.properties.flatMap Property.clearAlone) =
      (b.properties.filter (·.isErased)).map fun p => .erase p.name.toList := by
    simp only [List.filterMap_flatMap, Property.steps_clearAlone, flatMap_ite]
  rw [clear, hfactory]
  simp (disch := exact Statement.step?_of_opening (id rfl) (id rfl))
    [List.filterMap_cons_none, clearToNothing, herase, List.filterMap_cons_some hunmark,
      List.filterMap_cons_some hmark]

theorem steps_build : b.build.steps = if b.hasRequired then [.requireSet] else [] := by
  have hcheck : (Statement.template
      "    %s.checkState(_unsetProperties.isEmpty(), \"Not set: %%s\", _unsetProperties);"
      [Library.preconditions]).step? = some .requireSet :=
    Statement.step?_of_opening rfl rfl
  simp (disch := exact Statement.step?_of_opening (id rfl) (id rfl))
    [List.filterMap_cons_none, build, List.filterMap_cons_some hcheck]

/-- Merging a value calls setters. -/
theorem steps_mergeFromValue : b.mergeFromValue.steps = [] := by
  have hmerge (p : Property) : (p.mergeValue "value").steps = [] := by
    rw [Property.mergeValue]
    cases p.strategy <;>
      simp (disch := exact Statement.step?_of_opening (id rfl) (id rfl))
        [List.filterMap_cons_none]
  simp (disch := exact Statement.step?_of_opening (id rfl) (id rfl))
    [List.filterMap_cons_none, mergeFromValue, hmerge, List.filterMap_flatMap]

/-- So does merging another builder. -/
theorem steps_mergeFromBuilder : b.mergeFromBuilder.steps = [] := by
  have hmerge (p : Property) : (p.mergeBuilder b b.template).steps = [] := by
    rw [Property.mergeBuilder]
    cases p.strategy <;>
      simp (disch := exact Statement.step?_of_opening (id rfl) (id rfl))
        [List.filterMap_cons_none]
  simp (disch := exact Statement.step?_of_opening (id rfl) (id rfl))
    [List.filterMap_cons_none, mergeFromBuilder, hmerge, List.filterMap_flatMap]

/-! ## Finished values -/

/-- The constructor of finished values. -/
def valueConstructor (b : Blueprint) : Code :=
  b.nestedConstructor "    private %s(%s builder) \x7b" b.valueClass

/-- Finished values take the fields of a builder as they are, but for collections. -/
theorem copies_valueConstructor :
    b.valueConstructor.copies =
      (b.properties.filter (!·.isCollection)).map fun p => (p.name.toList, p.name.toList) := by
  have hassign (p : Property) :
      (p.assignField (Word.field "this" p.name) "builder").copies =
        if !p.isCollection then [(p.name.toList, p.name.toList)] else [] := by
    have hcopy : (Statement.template "      %s = %s.%s;"
        [Word.field "this" p.name, .name "builder", .name p.name]).copy? =
        some (p.name.toList, p.name.toList) :=
      Statement.copy?_of_opening rfl rfl
    rw [Property.assignField, Property.isCollection]
    cases p.strategy <;>
      simp (disch := exact Statement.copy?_of_opening (id rfl) (id rfl))
        [List.filterMap_cons_none, List.filterMap_cons_some hcopy, Strategy.clearsFromTemplate]
  have hassigns : List.filterMap Statement.copy?
      (b.properties.flatMap fun p => p.assignField (Word.field "this" p.name) "builder") =
        (b.properties.filter (!·.isCollection)).map fun p => (p.name.toList, p.name.toList) := by
    simp only [List.filterMap_flatMap, hassign, flatMap_ite]
  simp (disch := exact Statement.copy?_of_opening (id rfl) (id rfl))
    [List.filterMap_cons_none, valueConstructor, nestedConstructor, hassigns]

end Blueprint

end ValueBuilder
