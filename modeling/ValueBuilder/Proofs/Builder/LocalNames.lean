import Mathlib.Data.List.Nodup
import ValueBuilder.Proofs.Builder.Emission
import ValueBuilder.Proofs.Outcomes
import ValueBuilder.Proofs.Source.Tokens

/-!
# Names of local variables

A method of a generated class may declare a parameter or a local variable that has the name of a
property.  Where the method then means the property's field but does not say so, it gets its own
variable instead: the variable captures the property.

* `Code.uses` reads the variables that code declares and those that it names.
* `Blueprint.localName_ne` is about the names that the generator chooses.
* A property is told from a variable of the same name by its mark: `Method` has the code of a method
  for the blueprint as it is and for the one whose properties are marked.
* `Blueprint.not_captures_of_mem_wholeMethods` and `Strategy.name_of_captures` judge each method.
* `Blueprint.exists_captures_iff` puts them together, and `local_captures_property_iff` ties the
  methods to the generated class.
-/

namespace ValueBuilder

open Java

/-! ## Variables of a line -/

/-- What a variable's name does where it stands. -/
inductive Use
  /-- It declares a parameter or a local variable. -/
  | declared (name : List Char)
  /-- It stands for a variable or a field, with nothing in front that says whose it is. -/
  | bare (name : List Char)

namespace Use

/-- The variable that is declared. -/
def declared? : Use → Option (List Char)
  | declared name => some name
  | bare _ => none

/-- The name that stands alone. -/
def bare? : Use → Option (List Char)
  | declared _ => none
  | bare name => some name

end Use

namespace Token

/-- Types among the words of the generator's own. -/
def isTypeName (cs : List Char) : Bool :=
  ["Object", "boolean", "int"].any (·.toList == cs)

/-- Numbers and keywords, which are no variables. -/
def isKeyword (cs : List Char) : Bool :=
  cs.head?.any Char.isDigit ||
    ["public", "for", "if", "return", "instanceof", "new", "throws", "extends", "this", "null",
      "true", "false"].any (·.toList == cs)

/-- What has been read last. -/
inductive Reading
  /-- A type, its arguments included. -/
  | type
  /-- A dot behind an expression, or the sign of an annotation. -/
  | member
  /-- The opening quote of a literal, and perhaps more of it. -/
  | literal
  | other

/-- The variables among tokens.  A word behind a type is declared.  A word before a parenthesis is a
method, and one behind a dot is a member of what stands before the dot. -/
def uses : Reading → List Token → List Use
  | _, [] => []
  | .literal, symbol '"' :: tokens => uses .other tokens
  | .literal, _ :: tokens => uses .literal tokens
  | _, symbol '"' :: tokens => uses .literal tokens
  | _, type _ :: tokens | _, symbol '>' :: tokens
  | _, symbol '.' :: symbol '.' :: symbol '.' :: tokens => uses .type tokens
  | _, symbol '.' :: tokens | _, symbol '@' :: tokens => uses .member tokens
  | _, word _ _ :: symbol '(' :: tokens => uses .other tokens
  | .type, word name _ :: tokens => .declared name :: uses .other tokens
  | .member, word _ _ :: tokens => uses .other tokens
  | .other, word name own :: tokens =>
    -- A name of the declaration is neither a type nor a keyword, whatever its characters.
    if own && isTypeName name then uses .type tokens
    else if own && isKeyword name then uses .other tokens
    else .bare name :: uses .other tokens
  | _, _ :: tokens => uses .other tokens

end Token

/-- The variables of a line. -/
def Statement.uses (s : Statement) : List Use :=
  Token.uses .other (Token.significant s.tokens)

/-- The variables of code, in order. -/
def Code.uses (code : Code) : List Use :=
  code.flatMap Statement.uses

/-- The parameters and the local variables that code declares. -/
def Code.locals (code : Code) : List (List Char) :=
  code.uses.filterMap Use.declared?

/-- The names that stand alone in code and that it does not declare. -/
def Code.outerNames (code : Code) : List (List Char) :=
  (code.uses.filterMap Use.bare?).filter fun name => decide (name ∉ code.locals)

namespace Statement

variable {s : Statement} {cs : List Char}

/-- Rewrites the variables of a line whose own text is known character by character. -/
theorem uses_of_opening (h : s.opening = String.ofList cs) :
    s.uses = Token.uses .other (Token.significant (s.tokensOver cs)) := by
  rw [uses, tokens_of_opening h]

/-- Judges what such a line declares. -/
theorem declared_of_opening {names : List (List Char)} (hchars : s.opening = String.ofList cs)
    (hnames : (Token.uses .other (Token.significant (s.tokensOver cs))).filterMap Use.declared? =
      names) :
    s.uses.filterMap Use.declared? = names := by
  rw [uses_of_opening hchars, hnames]

end Statement

namespace Code

variable {s t : Statement} {code first second : Code}

theorem uses_nil : Code.uses [] = [] :=
  rfl

theorem uses_cons (s : Statement) (code : Code) : Code.uses (s :: code) = s.uses ++ code.uses :=
  List.flatMap_cons

theorem uses_joined_nil : Code.uses (joined []) = [] :=
  rfl

theorem uses_joined_cons (code : Code) (parts : List Code) :
    Code.uses (joined (code :: parts)) = code.uses ++ Code.uses (joined parts) :=
  List.flatMap_append

theorem uses_flatMap {α : Type} (xs : List α) (f : α → Code) :
    Code.uses (xs.flatMap f) = xs.flatMap fun x => (f x).uses :=
  List.flatMap_assoc

@[simp]
theorem locals_nil : Code.locals [] = [] :=
  rfl

@[simp]
theorem locals_cons_nil (h : s.uses.filterMap Use.declared? = []) :
    Code.locals (s :: code) = code.locals := by
  rw [locals, uses_cons, List.filterMap_append, h]
  rfl

@[simp]
theorem locals_cons_one {name : List Char} (h : s.uses.filterMap Use.declared? = [name]) :
    Code.locals (s :: code) = name :: code.locals := by
  rw [locals, uses_cons, List.filterMap_append, h]
  rfl

@[simp]
theorem locals_cons_ite {condition : Prop} [Decidable condition] :
    Code.locals ((if condition then s else t) :: code) =
      if condition then Code.locals (s :: code) else Code.locals (t :: code) := by
  split <;> rfl

@[simp]
theorem locals_ite {condition : Prop} [Decidable condition] :
    Code.locals (if condition then first else second) =
      if condition then first.locals else second.locals :=
  apply_ite _ _ _ _

@[simp]
theorem locals_joined_nil : Code.locals (joined []) = [] :=
  rfl

@[simp]
theorem locals_joined_cons (code : Code) (parts : List Code) :
    Code.locals (joined (code :: parts)) = code.locals ++ Code.locals (joined parts) := by
  rw [locals, uses_joined_cons, List.filterMap_append]
  rfl

@[simp]
theorem locals_flatMap {α : Type} (xs : List α) (f : α → Code) :
    Code.locals (xs.flatMap f) = xs.flatMap fun x => (f x).locals := by
  rw [locals, uses_flatMap, List.filterMap_flatMap]
  rfl

end Code

/-! ## Methods that change a collection -/

namespace Accessors

open Use

variable (b : Blueprint) (p : Property) (e : Element)

theorem uses_addOne :
    (addOne b p e).uses = [declared "element".toList, bare "element".toList] := by
  cases hnullable : e.isNullable <;>
    simp (disch := exact id rfl) only [addOne, throwsIfElementNull, addElement,
      Blueprint.returnsBuilder, Blueprint.returnBuilder, hnullable, Bool.false_eq_true, if_true,
      if_false, Code.uses_joined_cons, Code.uses_joined_nil, Code.uses_cons, Code.uses_nil,
      Statement.uses_of_opening] <;>
    rfl

theorem uses_addEach :
    (addEach b p e).uses =
      [declared "element".toList, bare "elements".toList, bare "element".toList] := by
  simp (disch := exact id rfl) only [addEach, Blueprint.returnBuilder, Code.uses_cons,
    Code.uses_nil, Statement.uses_of_opening]
  rfl

theorem uses_listAdd :
    (listAdd b p e).uses = [declared "element".toList, bare "element".toList] := by
  simp (disch := exact id rfl) only [listAdd, Blueprint.linkGetter, uses_addOne,
    Code.uses_joined_cons, Code.uses_joined_nil, Code.uses_cons, Code.uses_nil,
    Statement.uses_of_opening]
  rfl

theorem uses_listAddArray :
    (listAddArray b p e).uses =
      [declared "elements".toList, bare p.name.toList, bare p.name.toList, bare "elements".toList,
        declared "element".toList, bare "elements".toList, bare "element".toList] := by
  cases hnullable : e.isNullable <;>
    simp (disch := exact id rfl) only [listAddArray, listAddDocumentation, addArrayHead,
      throwsIfContainsNull, Blueprint.linkGetter, Blueprint.returnsBuilder, uses_addEach, hnullable,
      Bool.false_eq_true, if_true, if_false, Code.uses_joined_cons, Code.uses_joined_nil,
      Code.uses_cons, Code.uses_nil, Statement.uses_of_opening] <;>
    rfl

theorem uses_listAddAll :
    (listAddAll b p e).uses =
      [declared "elements".toList, bare "elements".toList, bare p.name.toList, bare p.name.toList,
        bare "elements".toList, declared "element".toList, bare "elements".toList,
        bare "element".toList] := by
  simp (disch := exact id rfl) only [listAddAll, listAddDocumentation, addAllHead,
    throwsIfContainsNull, Blueprint.linkGetter, Blueprint.returnsBuilder, uses_addEach,
    Code.uses_joined_cons, Code.uses_joined_nil, Code.uses_cons, Code.uses_nil,
    Statement.uses_of_opening]
  rfl

theorem uses_setAdd :
    (setAdd b p e).uses = [declared "element".toList, bare "element".toList] := by
  simp (disch := exact id rfl) only [setAdd, Blueprint.linkGetter, uses_addOne,
    Code.uses_joined_cons, Code.uses_joined_nil, Code.uses_cons, Code.uses_nil,
    Statement.uses_of_opening]
  rfl

theorem uses_setAddArray :
    (setAddArray b p e).uses =
      [declared "elements".toList, declared "element".toList, bare "elements".toList,
        bare "element".toList] := by
  cases hnullable : e.isNullable <;>
    simp (disch := exact id rfl) only [setAddArray, setAddDocumentation, addArrayHead,
      throwsIfContainsNull, Blueprint.linkGetter, Blueprint.returnsBuilder, uses_addEach, hnullable,
      Bool.false_eq_true, if_true, if_false, Code.uses_joined_cons, Code.uses_joined_nil,
      Code.uses_cons, Code.uses_nil, Statement.uses_of_opening] <;>
    rfl

theorem uses_setAddAll :
    (setAddAll b p e).uses =
      [declared "elements".toList, declared "element".toList, bare "elements".toList,
        bare "element".toList] := by
  simp (disch := exact id rfl) only [setAddAll, setAddDocumentation, addAllHead,
    throwsIfContainsNull, Blueprint.linkGetter, Blueprint.returnsBuilder, uses_addEach,
    Code.uses_joined_cons, Code.uses_joined_nil, Code.uses_cons, Code.uses_nil,
    Statement.uses_of_opening]
  rfl

theorem uses_setRemove :
    (setRemove b p e).uses = [declared "element".toList, bare "element".toList] := by
  cases hnullable : e.isNullable <;>
    simp (disch := exact id rfl) only [setRemove, throwsIfElementNull, Blueprint.linkGetter,
      Blueprint.returnsBuilder, Blueprint.returnBuilder, hnullable, Bool.false_eq_true, if_true,
      if_false, Code.uses_joined_cons, Code.uses_joined_nil, Code.uses_cons, Code.uses_nil,
      Statement.uses_of_opening] <;>
    rfl

theorem uses_mapPut (key value : Element) :
    (mapPut b p key value).uses =
      [declared "key".toList, declared "value".toList] ++
        (if key.isNullable then [bare "key".toList] else []) ++
          (if value.isNullable then [bare "value".toList] else []) ++
            [bare "key".toList, bare "value".toList] := by
  cases hkey : key.isNullable <;> cases hvalue : value.isNullable <;>
    simp (disch := exact id rfl) only [mapPut, throwsIfEntryNull, throwsIfKeyNull, checkKey,
      checkNotNull, Blueprint.linkGetter, Blueprint.returnsBuilder, Blueprint.returnBuilder, hkey,
      hvalue, Bool.false_eq_true, if_true, if_false, Code.uses_joined_cons, Code.uses_joined_nil,
      Code.uses_cons, Code.uses_nil, Statement.uses_of_opening] <;>
    rfl

theorem uses_mapPutAll (key value : Element) :
    (mapPutAll b p key value).uses =
      [declared "map".toList, declared "entry".toList, bare "map".toList, bare "entry".toList,
        bare "entry".toList] := by
  simp (disch := exact id rfl) only [mapPutAll, Blueprint.linkGetter, Blueprint.returnsBuilder,
    Blueprint.returnBuilder, Code.uses_cons, Code.uses_nil, Statement.uses_of_opening]
  rfl

theorem uses_mapRemove (key : Element) :
    (mapRemove b p key).uses =
      [declared "key".toList] ++ (if key.isNullable then [bare "key".toList] else []) ++
        [bare "key".toList] := by
  cases hkey : key.isNullable <;>
    simp (disch := exact id rfl) only [mapRemove, throwsIfKeyNull, checkKey, checkNotNull,
      Blueprint.linkGetter, Blueprint.returnsBuilder, Blueprint.returnBuilder, hkey,
      Bool.false_eq_true, if_true, if_false, Code.uses_joined_cons, Code.uses_joined_nil,
      Code.uses_cons, Code.uses_nil, Statement.uses_of_opening] <;>
    rfl

/-- The comment that links the getter comes with the kind of the collection. -/
theorem uses_clearAll {description : String} (h : (b.linkGetter p description).uses = []) :
    (clearAll b p description).uses = [] := by
  simp (disch := exact id rfl) only [clearAll, h, Blueprint.returnsBuilder,
    Blueprint.returnBuilder, Code.uses_cons, Code.uses_nil, Statement.uses_of_opening]
  rfl

end Accessors

/-! ## Methods of the class -/

namespace Blueprint

variable (b : Blueprint)

theorem locals_mergeFromBuilder :
    b.mergeFromBuilder.locals =
      b.template.toList :: if b.hasRequired then [(Property.templateUnset b).toList] else [] := by
  have hmerge (p : Property) : (p.mergeBuilder b b.template).locals = [] := by
    rw [Property.mergeBuilder]
    cases p.strategy <;> simp (disch := exact Statement.declared_of_opening (id rfl) (id rfl))
  simp (disch := exact Statement.declared_of_opening (id rfl) (id rfl)) [mergeFromBuilder, hmerge]

theorem locals_clear :
    b.clear.locals =
      if b.factory.isSome && b.clearsFromTemplate then [b.template.toList] else [] := by
  have hclear (p : Property) (template : String) : (p.clear template).locals = [] := by
    rw [Property.clear]
    cases p.strategy <;> simp (disch := exact Statement.declared_of_opening (id rfl) (id rfl))
  have halone (p : Property) : p.clearAlone.locals = [] := by
    rw [Property.clearAlone]
    cases p.strategy <;> simp (disch := exact Statement.declared_of_opening (id rfl) (id rfl))
  rw [clear]
  cases b.factory with
  | none =>
    simp (disch := exact Statement.declared_of_opening (id rfl) (id rfl)) [clearToNothing, halone]
  | some factory => cases factory <;>
    simp (disch := exact Statement.declared_of_opening (id rfl) (id rfl))
      [clearToTemplate, hclear, newBuilder]

theorem locals_equals (c : ClassName) (nullSafe : Property → Bool) {result : Statement}
    (hresult : result.uses.filterMap Use.declared? = []) :
    (b.equals c nullSafe result).locals = [b.equalsArgument.toList, b.equalsOther.toList] := by
  have hcompare (p : Property) (nullSafe : Bool) (other : String) :
      (compareField p nullSafe other).locals = [] := by
    have hdiffers : (differs p nullSafe other).locals = [] := by
      rw [differs]
      split <;> simp (disch := exact Statement.declared_of_opening (id rfl) (id rfl))
    simp (disch := exact Statement.declared_of_opening (id rfl) (id rfl)) [compareField, hdiffers]
  have hend : Code.locals [result, "    \x7d"] = [] := by
    rw [Code.locals_cons_nil hresult]
    simp (disch := exact Statement.declared_of_opening (id rfl) (id rfl))
  simp (disch := exact Statement.declared_of_opening (id rfl) (id rfl))
    [equals, equalsHead, overriding, hcompare, hend]

/-- It names all fields in a row, as one word. -/
theorem locals_valueHash : b.valueHash.locals = [] := by
  simp (disch := exact Statement.declared_of_opening (id rfl) (id rfl)) [valueHash, overriding]

theorem locals_partialHash : b.partialHash.locals = [b.hashResult.toList] := by
  have hadd (p : Property) : Code.locals [b.shiftHash, b.addHash p] = [] := by
    have hline : (b.addHash p).uses.filterMap Use.declared? = [] := by
      rw [addHash]
      split <;> exact Statement.declared_of_opening rfl rfl
    rw [Code.locals_cons_nil (Statement.declared_of_opening rfl rfl), Code.locals_cons_nil hline,
      Code.locals_nil]
  simp (disch := exact Statement.declared_of_opening (id rfl) (id rfl))
    [partialHash, overriding, hadd]

theorem locals_instantiate (factory : Factory) :
    (b.instantiate factory).locals =
      b.streamReader.toList :: b.streamBuilder.toList :: b.properties.map (·.name.toList) := by
  have hread (p : Property) :
      (readField p b.streamReader).uses.filterMap Use.declared? = [p.name.toList] := by
    rw [readField]
    split
    · next primitive _ => cases primitive <;> exact Statement.declared_of_opening rfl rfl
    · exact Statement.declared_of_opening rfl rfl
  have hrestore (p : Property) : (b.restoreField p).locals = [p.name.toList] := by
    have hset : (p.setFromResult b.streamBuilder p.name).locals = [] := by
      rw [Property.setFromResult]
      cases p.strategy <;> simp (disch := exact Statement.declared_of_opening (id rfl) (id rfl))
    have hblock : Code.locals ["      \x7b", readField p b.streamReader] = [p.name.toList] := by
      rw [Code.locals_cons_nil (Statement.declared_of_opening rfl rfl),
        Code.locals_cons_one (hread p), Code.locals_nil]
    simp (disch := exact Statement.declared_of_opening (id rfl) (id rfl))
      [restoreField, hset, hblock]
  cases factory <;>
    simp (disch := exact Statement.declared_of_opening (id rfl) (id rfl))
      [instantiate, newBuilder, hrestore, ← List.map_eq_flatMap]

theorem locals_partialEquals :
    (b.equals b.partialClass (fun p => p.isNullable || p.tracksUnset)
      b.partialEqualsResult).locals = [b.equalsArgument.toList, b.equalsOther.toList] := by
  refine b.locals_equals _ _ ?_
  rw [partialEqualsResult]
  split <;> exact Statement.declared_of_opening rfl rfl

theorem uses_mergeFromValue :
    b.mergeFromValue.uses =
      Use.declared "value".toList :: b.properties.map fun _ => Use.bare "value".toList := by
  have hmerge (p : Property) : (p.mergeValue "value").uses = [Use.bare "value".toList] := by
    rw [Property.mergeValue]
    cases p.strategy <;>
      simp (disch := exact id rfl) only [Code.uses_cons, Code.uses_nil,
        Statement.uses_of_opening] <;>
      rfl
  simp (disch := exact id rfl) only [mergeFromValue, returnBuilder, hmerge, Code.uses_joined_cons,
    Code.uses_joined_nil, Code.uses_cons, Code.uses_nil, Code.uses_flatMap,
    Statement.uses_of_opening, ← List.map_eq_flatMap]
  exact congrArg _ (List.append_nil _)

/-! ## Names of the generator's own -/

theorem length_le_freshName (taken : List String) (name : String) :
    name.length ≤ (freshName taken name).length := by
  fun_induction freshName taken name with
  | case1 taken name hmem ih =>
    have hlength : ("_" ++ name).length = 1 + name.length := String.length_append _ _
    omega
  | case2 taken name hmem => exact Nat.le_refl _

/-- The name that is left out on the way is too short to come back. -/
theorem freshName_notMem (taken : List String) (name : String) : freshName taken name ∉ taken := by
  fun_induction freshName taken name with
  | case1 taken name hmem ih =>
    have hlonger := length_le_freshName (taken.erase name) ("_" ++ name)
    have hlength : ("_" ++ name).length = 1 + name.length := String.length_append _ _
    refine fun htaken => ih ((List.mem_erase_of_ne ?_).2 htaken)
    intro hsame
    rw [hsame] at hlonger
    omega
  | case2 taken name hmem => exact hmem

/-- A local variable has no name of a property. -/
theorem localName_ne (preferred : String) {p : Property} (hp : p ∈ b.properties) :
    p.name ≠ b.localName preferred := by
  intro hname
  refine freshName_notMem (b.properties.map (·.name)) preferred ?_
  rw [← localName, ← hname]
  exact List.mem_map_of_mem hp

end Blueprint

/-! ## Marked properties -/

namespace Property

/-- The property under a name that no other variable has. -/
def marked (p : Property) : Property :=
  { p with name := "#" ++ p.name }

theorem marked_name_inj {p q : Property} : p.marked.name = q.marked.name ↔ p.name = q.name :=
  String.append_right_inj _

end Property

/-- The blueprint with its properties marked. -/
def Blueprint.marked (b : Blueprint) : Blueprint :=
  { b with
    properties := b.properties.map Property.marked
    names_nodup := by
      have hnames : (b.properties.map Property.marked).map (·.name) =
          (b.properties.map (·.name)).map ("#" ++ ·) := by
        rw [List.map_map, List.map_map]
        rfl
      rw [hnames]
      exact b.names_nodup.map fun _ _ => (String.append_right_inj _).1
    constants_nodup := by
      have hrequired : requiredOf (b.properties.map Property.marked) =
          (requiredOf b.properties).map Property.marked := List.filter_map
      rw [hrequired, List.map_map]
      exact b.constants_nodup }

/-! ## Methods -/

/-- A method of a generated class, as it is and with the properties marked. -/
structure Method where
  code : Code
  marked : Code

/-- Whether a parameter or a local variable of a method has the name of a property that the method
names without saying whose it is.  With the properties marked, such a name is none that the method
declares. -/
def Method.Captures (m : Method) (p : Property) : Prop :=
  p.name.toList ∈ m.code.locals ∧ p.marked.name.toList ∈ m.marked.outerNames

open Accessors in
/-- The methods that change a collection. -/
def Strategy.mutators : Strategy → List (Blueprint → Property → Code)
  | plain .. | optional .. => []
  | list e =>
    [(listAdd · · e), (listAddArray · · e), (listAddAll · · e),
      (clearAll · · "   * Clears the list to be returned from \x7b@link %s#%s()\x7d.")]
  | set e =>
    [(setAdd · · e), (setAddArray · · e), (setAddAll · · e), (setRemove · · e),
      (clearAll · · "   * Clears the set to be returned from \x7b@link %s#%s()\x7d.")]
  | map key value =>
    [(mapPut · · key value), (mapPutAll · · key value), (mapRemove · · key),
      (clearAll · ·
        "   * Removes all of the mappings from the map to be returned from \x7b@link %s#%s()\x7d.")]

namespace Blueprint

/-- The method that makes a value from a stream, if the class has a serializer. -/
def instantiations (b : Blueprint) : List (Blueprint → Code) :=
  if b.gwtSerializable then b.factory.toList.map fun factory => (·.instantiate factory) else []

/-- The methods that concern all properties at once. -/
def wholeMethods (b : Blueprint) : List (Blueprint → Code) :=
  [mergeFromValue, mergeFromBuilder, clear,
    fun b => b.equals b.valueClass Property.isNullable "      return true;",
    valueHash,
    fun b => b.equals b.partialClass (fun p => p.isNullable || p.tracksUnset) b.partialEqualsResult,
    partialHash] ++ b.instantiations

/-- The methods that change a collection, and those that merge, clear, compare, hash or read all
properties. -/
def methods (b : Blueprint) : List Method :=
  (b.properties.flatMap fun p =>
    p.strategy.mutators.map fun make => ⟨make b p, make b.marked p.marked⟩) ++
  b.wholeMethods.map fun make => ⟨make b, make b.marked⟩

end Blueprint

/-! ## What each method captures -/

namespace Code

variable {code : Code} {name : List Char}

theorem mem_locals : name ∈ code.locals ↔ Use.declared name ∈ code.uses := by
  rw [locals, List.mem_filterMap]
  constructor
  · rintro ⟨_ | name, huse, hname⟩
    · cases hname
      exact huse
    · cases hname
  · exact fun huse => ⟨_, huse, rfl⟩

theorem mem_outerNames :
    name ∈ code.outerNames ↔ Use.bare name ∈ code.uses ∧ name ∉ code.locals := by
  have hbare : name ∈ code.uses.filterMap Use.bare? ↔ Use.bare name ∈ code.uses := by
    rw [List.mem_filterMap]
    constructor
    · rintro ⟨_ | name, huse, hname⟩
      · cases hname
      · cases hname
        exact huse
    · exact fun huse => ⟨_, huse, rfl⟩
  rw [outerNames, List.mem_filter, hbare, decide_eq_true_iff]

end Code

namespace Strategy

open Accessors Use

variable {b : Blueprint} {p q : Property}

/-- The methods that add several elements to a list name its field when they reserve room. -/
theorem captures_iff_of_reserving (make : Blueprint → Property → Code)
    (huses : ∀ b p use, use ∈ (make b p).uses ↔
      use ∈ [declared "elements".toList, declared "element".toList, bare "elements".toList,
        bare "element".toList, bare p.name.toList]) :
    Method.Captures ⟨make b p, make b.marked p.marked⟩ q ↔
      q.name = p.name ∧ (p.name = "element" ∨ p.name = "elements") := by
  have hlocals (b : Blueprint) (p : Property) (name : String) :
      name.toList ∈ (make b p).locals ↔ name = "element" ∨ name = "elements" := by
    rw [Code.mem_locals, huses, List.mem_cons, ← String.toList_inj,
      ← @String.toList_inj name "elements"]
    simp [or_comm]
  have hmarked : ¬(q.marked.name = "element" ∨ q.marked.name = "elements") := by
    simp [Property.marked, ← String.toList_inj]
  have houter : q.marked.name.toList ∈ (make b.marked p.marked).outerNames ↔ q.name = p.name := by
    rw [Code.mem_outerNames, hlocals, and_iff_left hmarked, huses, ← Property.marked_name_inj,
      ← String.toList_inj]
    simp [Property.marked]
  rw [Method.Captures, hlocals, houter, and_comm]
  exact and_congr_right fun hname => by rw [hname]

variable {make : Blueprint → Property → Code}

/-- All other methods that change a collection name nothing but their own variables. -/
theorem outerNames_of_mem_mutators {strategy : Strategy} (hmake : make ∈ strategy.mutators) :
    (∀ b p, (make b p).outerNames = []) ∨
      ∃ e, strategy = .list e ∧ (make = (listAddArray · · e) ∨ make = (listAddAll · · e)) := by
  have hclear {description : String} {cs : List Char} (hchars : description = String.ofList cs)
      (hcomment : ∀ b p, Token.uses .other (Token.significant
        ((Blueprint.linkGetter b p description).tokensOver cs)) = []) (b : Blueprint)
      (p : Property) : (clearAll b p description).outerNames = [] := by
    have huses : (b.linkGetter p description).uses = [] := by
      rw [Statement.uses_of_opening (s := b.linkGetter p description) hchars, hcomment]
    rw [Code.outerNames, Code.locals, uses_clearAll b p huses]
    rfl
  cases strategy with
  | plain setter hasDefault => cases hmake
  | optional flavour methods e => cases hmake
  | list e =>
    simp only [mutators, List.mem_cons, List.not_mem_nil, or_false] at hmake
    rcases hmake with rfl | harray | hall | rfl
    · left
      intro b p
      rw [Code.outerNames, Code.locals, uses_listAdd]
      rfl
    · exact .inr ⟨e, rfl, .inl harray⟩
    · exact .inr ⟨e, rfl, .inr hall⟩
    · exact .inl (hclear rfl fun _ _ => rfl)
  | set e =>
    left
    intro b p
    simp only [mutators, List.mem_cons, List.not_mem_nil, or_false] at hmake
    rcases hmake with rfl | rfl | rfl | rfl | rfl
    · rw [Code.outerNames, Code.locals, uses_setAdd]
      rfl
    · rw [Code.outerNames, Code.locals, uses_setAddArray]
      rfl
    · rw [Code.outerNames, Code.locals, uses_setAddAll]
      rfl
    · rw [Code.outerNames, Code.locals, uses_setRemove]
      rfl
    · exact hclear rfl (fun _ _ => rfl) b p
  | map key value =>
    left
    intro b p
    simp only [mutators, List.mem_cons, List.not_mem_nil, or_false] at hmake
    rcases hmake with rfl | rfl | rfl | rfl
    · rw [Code.outerNames, Code.locals, uses_mapPut]
      cases key.isNullable <;> cases value.isNullable <;> rfl
    · rw [Code.outerNames, Code.locals, uses_mapPutAll]
      rfl
    · rw [Code.outerNames, Code.locals, uses_mapRemove]
      cases key.isNullable <;> rfl
    · exact hclear rfl (fun _ _ => rfl) b p

theorem captures_listAddArray (b : Blueprint) (p q : Property) (e : Element) :
    Method.Captures ⟨listAddArray b p e, listAddArray b.marked p.marked e⟩ q ↔
      q.name = p.name ∧ (p.name = "element" ∨ p.name = "elements") := by
  refine captures_iff_of_reserving (listAddArray · · e) fun b p use => ?_
  rw [uses_listAddArray]
  simp only [List.mem_cons]
  tauto

theorem captures_listAddAll (b : Blueprint) (p q : Property) (e : Element) :
    Method.Captures ⟨listAddAll b p e, listAddAll b.marked p.marked e⟩ q ↔
      q.name = p.name ∧ (p.name = "element" ∨ p.name = "elements") := by
  refine captures_iff_of_reserving (listAddAll · · e) fun b p use => ?_
  rw [uses_listAddAll]
  simp only [List.mem_cons]
  tauto

/-- A method that changes a collection captures no property but its own, a list. -/
theorem name_of_captures (hmake : make ∈ p.strategy.mutators)
    (h : Method.Captures ⟨make b p, make b.marked p.marked⟩ q) :
    p.strategy.kind = .list ∧ q.name = p.name ∧ (p.name = "element" ∨ p.name = "elements") := by
  rcases outerNames_of_mem_mutators hmake with hnone | ⟨e, hlist, rfl | rfl⟩
  · have houter := h.2
    rw [hnone] at houter
    cases houter
  · rw [hlist]
    exact ⟨rfl, (captures_listAddArray b p q e).1 h⟩
  · rw [hlist]
    exact ⟨rfl, (captures_listAddAll b p q e).1 h⟩

end Strategy

namespace Blueprint

variable {b : Blueprint} {p : Property}

theorem mem_instantiations {make : Blueprint → Code} :
    make ∈ b.instantiations ↔
      b.gwtSerializable ∧ ∃ factory, b.factory = some factory ∧ make = (·.instantiate factory) := by
  rw [instantiations]
  cases b.gwtSerializable <;> simp [eq_comm (a := make)]

/-- The methods that concern all properties capture none. -/
theorem not_captures_of_mem_wholeMethods {make : Blueprint → Code} (hmake : make ∈ b.wholeMethods)
    (hp : p ∈ b.properties) : ¬Method.Captures ⟨make b, make b.marked⟩ p := by
  have hfresh (preferred : String) : p.name.toList ≠ (b.localName preferred).toList :=
    fun h => b.localName_ne preferred hp (String.toList_inj.1 h)
  rintro ⟨hlocal, houter⟩
  simp only [wholeMethods, List.mem_append, List.mem_cons, List.not_mem_nil, or_false] at hmake
  rcases hmake with (rfl | rfl | rfl | rfl | rfl | rfl | rfl) | hmake
  · obtain ⟨hbare, hlocal⟩ := Code.mem_outerNames.1 houter
    rw [Code.mem_locals] at hlocal
    rw [uses_mergeFromValue] at hbare hlocal
    simp_all
  · rw [locals_mergeFromBuilder, template, Property.templateUnset] at hlocal
    split at hlocal <;> simp_all
  · rw [locals_clear, template] at hlocal
    split at hlocal <;> simp_all
  · rw [locals_equals _ _ _ (Statement.declared_of_opening rfl rfl), equalsArgument,
      equalsOther] at hlocal
    simp_all
  · rw [locals_valueHash] at hlocal
    cases hlocal
  · rw [locals_partialEquals, equalsArgument, equalsOther] at hlocal
    simp_all
  · rw [locals_partialHash, hashResult] at hlocal
    simp_all
  · obtain ⟨-, factory, -, rfl⟩ := mem_instantiations.1 hmake
    have hread : p.marked.name.toList ∈ (b.marked.instantiate factory).locals := by
      have hmarked : p.marked ∈ b.marked.properties := List.mem_map_of_mem hp
      -- Each field is read into a variable that has the name of its property.
      rw [locals_instantiate]
      exact List.mem_cons_of_mem _ (List.mem_cons_of_mem _ (List.mem_map_of_mem hmarked))
    exact (Code.mem_outerNames.1 houter).2 hread

/-- The accessors of a property are the methods that change it, if it is a collection, and
others. -/
theorem exists_accessors_eq (b : Blueprint) (p : Property) :
    ∃ others, p.accessors b = joined (p.strategy.mutators.map (· b p) ++ [others]) := by
  rw [Property.accessors]
  cases p.strategy with
  | plain setter hasDefault => exact ⟨_, (List.append_nil _).symm⟩
  | optional flavour methods e => exact ⟨_, (List.append_nil _).symm⟩
  | list e => exact ⟨_, rfl⟩
  | set e => exact ⟨_, rfl⟩
  | map key value => exact ⟨_, rfl⟩

/-- The methods are part of the generated class. -/
theorem infix_classCode {m : Method} (hm : m ∈ b.methods) (generator : String)
    (level : SourceLevel) : m.code <:+: b.classCode generator level := by
  have hsection (s : Section) (happlies : s.appliesTo b) (hmem : s ∈ Section.all) :
      s.code generator level b <:+: b.classCode generator level :=
    List.infix_of_mem_flatten (List.mem_map_of_mem (List.mem_filter.2 ⟨hmem, happlies⟩))
  rcases List.mem_append.1 hm with hmutator | hwhole
  · obtain ⟨p, hp, hmade⟩ := List.mem_flatMap.1 hmutator
    obtain ⟨make, hmake, rfl⟩ := List.mem_map.1 hmade
    obtain ⟨others, haccessors⟩ := exists_accessors_eq b p
    have hmutator : make b p <:+: p.accessors b := by
      rw [haccessors]
      exact List.infix_of_mem_flatten (List.mem_append_left _ (List.mem_map_of_mem hmake))
    have hproperty : p.accessors b <:+: b.accessors :=
      List.infix_of_mem_flatten (List.mem_map_of_mem hp)
    exact (hmutator.trans hproperty).trans (hsection .accessors rfl (by decide))
  · obtain ⟨make, hmake, rfl⟩ := List.mem_map.1 hwhole
    simp only [wholeMethods, List.mem_append, List.mem_cons, List.not_mem_nil, or_false] at hmake
    have hvalue {code : Code} (h : code <:+: b.valueType) :
        code <:+: b.classCode generator level :=
      h.trans (hsection .valueType rfl (by decide))
    have hpartial {code : Code} (h : code <:+: b.partialType) :
        code <:+: b.classCode generator level :=
      h.trans (hsection .partialType rfl (by decide))
    rcases hmake with (rfl | rfl | rfl | rfl | rfl | rfl | rfl) | hmake
    · exact hsection .mergeFromValue rfl (by decide)
    · exact hsection .mergeFromBuilder rfl (by decide)
    · exact hsection .clear rfl (by decide)
    · exact hvalue (List.infix_of_mem_flatten (by simp))
    · exact hvalue (List.infix_of_mem_flatten (by simp))
    · exact hpartial (List.infix_of_mem_flatten (by simp))
    · exact hpartial (List.infix_of_mem_flatten (by simp))
    · obtain ⟨hserializable, factory, hfactory, rfl⟩ := mem_instantiations.1 hmake
      have hserializer : b.instantiate factory <:+: b.serializer := by
        rw [serializer, hfactory]
        exact List.infix_of_mem_flatten (.tail _ (.head _))
      exact hserializer.trans (hsection .serializer hserializable (by decide))

/-- Only lists of two names are captured. -/
theorem exists_captures_iff (hp : p ∈ b.properties) :
    (∃ m ∈ b.methods, m.Captures p) ↔
      p.strategy.kind = .list ∧ (p.name = "element" ∨ p.name = "elements") := by
  constructor
  · rintro ⟨m, hm, hcaptures⟩
    rcases List.mem_append.1 hm with hmutator | hwhole
    · obtain ⟨q, hq, hmade⟩ := List.mem_flatMap.1 hmutator
      obtain ⟨make, hmake, rfl⟩ := List.mem_map.1 hmade
      obtain ⟨hlist, hname, hnamed⟩ := Strategy.name_of_captures hmake hcaptures
      -- Distinct properties have distinct names, so the method is one of the property's own.
      obtain rfl := List.inj_on_of_nodup_map b.names_nodup hp hq hname
      exact ⟨hlist, hnamed⟩
    · obtain ⟨make, hmake, rfl⟩ := List.mem_map.1 hwhole
      exact absurd hcaptures (Blueprint.not_captures_of_mem_wholeMethods hmake hp)
  · rintro ⟨hkind, hnamed⟩
    have hlist : ∃ e, p.strategy = .list e := by
      cases hstrategy : p.strategy <;> simp_all [Strategy.kind]
    obtain ⟨e, hlist⟩ := hlist
    refine ⟨_, List.mem_append_left _ (List.mem_flatMap_of_mem hp ?_),
      (Strategy.captures_listAddArray b p p e).2 ⟨rfl, hnamed⟩⟩
    rw [hlist]
    exact .tail _ (.head _)

end Blueprint

/-- A generated class has methods that change a collection, and methods that merge, clear, compare,
hash or read all properties.  In one of them a parameter or a local variable has the name of a
property that the method names alone exactly if the property is a list named `element` or
`elements`. -/
theorem local_captures_property_iff (b : Blueprint) :
    (∀ generator level, ∀ m ∈ b.methods, m.code <:+: b.classCode generator level) ∧
      ∀ p ∈ b.properties, (∃ m ∈ b.methods, m.Captures p) ↔
        p.strategy.kind = .list ∧ (p.name = "element" ∨ p.name = "elements") :=
  ⟨fun generator level _ hm => Blueprint.infix_classCode hm generator level,
    fun _ hp => Blueprint.exists_captures_iff hp⟩

/-- A list whose elements are called that.  `addElements(String... elements)` reserves room in its
own parameter, which is an array. -/
theorem local_captures_elements :
    let declaration : TypeDeclaration :=
      { name := "com.example.Person"
        properties := [{ getter := "getElements", type := "java.util.List<String>" }] }
    ∃ conversion, declaration.convert = .ok conversion ∧
      ∃ m ∈ conversion.blueprint.methods, ∃ p ∈ conversion.blueprint.properties, m.Captures p := by
  intro declaration
  have hconverted : (declaration.convert.toOption.map fun conversion =>
      conversion.blueprint.properties.map fun p => (p.name, p.strategy.kind)) =
      some [("elements", .list)] := by
    decide +kernel
  obtain ⟨conversion, hconvert, hresult⟩ := map_toOption_eq_some_iff.1 hconverted
  obtain ⟨p, hproperties, hp⟩ := List.map_eq_singleton_iff.1 hresult
  obtain ⟨hname, hkind⟩ := Prod.mk.inj hp
  have hmem : p ∈ conversion.blueprint.properties := by
    rw [hproperties]
    exact List.mem_singleton_self p
  obtain ⟨m, hm, hcaptures⟩ := (Blueprint.exists_captures_iff hmem).2 ⟨hkind, .inr hname⟩
  exact ⟨conversion, hconvert, m, hm, p, hmem, hcaptures⟩

end ValueBuilder
