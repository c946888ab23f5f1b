import Mathlib.Data.List.Nodup
import Mathlib.Data.List.Pairwise
import ValueBuilder.Proofs.Declaration.ClassNames
import ValueBuilder.Proofs.Source.Tokens

/-!
# Signatures of accessors

Two methods of a class clash if they have the same name and take the same types, with type arguments
left out.  The accessors of a property are named after it, so they can clash with each other and
with those of another property.

* `Code.signatures` reads the methods that code declares, and `Property.signatures_accessors` finds
  those of a property.
* `Verb.append_eq_append_iff` says when two methods have the same name.
* `Property.exists_mem_signatures_iff` says when two properties have a method in common, and
  `Property.nodup_methods_iff` when one property has a method twice.
* `Property.nodup_signatures_iff` puts them together for a list of properties.
-/

namespace ValueBuilder

open Java

/-! ## Signatures -/

/-- What is left of a type when its arguments are erased. -/
inductive ErasedType
  | primitive (p : Primitive)
  | cls (c : ClassName)
  | array (component : ErasedType)
  deriving DecidableEq

theorem ErasedType.ne_array (t : ErasedType) : t ≠ .array t := by
  intro h
  have hsize := congrArg SizeOf.sizeOf h
  rw [ErasedType.array.sizeOf_spec] at hsize
  omega

/-- The type without its arguments. -/
def Java.JavaType.erasure : JavaType → ErasedType
  | primitive p => .primitive p
  | declared c _ => .cls c
  | array component => .array component.erasure
  | extending bound => bound.erasure
  | unbounded | superOf _ => .cls objectClass

/-- What tells methods of one class apart. -/
structure Signature where
  name : List Char
  parameters : List ErasedType
  deriving DecidableEq

namespace Token

/-- The types of the parameters from `tokens` to the closing parenthesis.  `depth` counts the open
brackets of type arguments, and `current` is the type of the parameter that is being read.  Dots
behind a type make an array of it, and an annotation is no type of a parameter. -/
def parameters (depth : Nat) (current : Option ErasedType) : List Token → List ErasedType
  | [] => []
  | symbol '@' :: type _ :: tokens => parameters depth current tokens
  | symbol '.' :: symbol '.' :: symbol '.' :: tokens =>
    parameters depth (current.map .array) tokens
  | symbol '<' :: tokens => parameters (depth + 1) current tokens
  | symbol '>' :: tokens => parameters (depth - 1) current tokens
  | symbol ')' :: _ => current.toList
  | symbol ',' :: tokens =>
    if depth = 0 then current.toList ++ parameters 0 none tokens
    else parameters depth current tokens
  | type t :: tokens => parameters depth (if depth = 0 then some t.erasure else current) tokens
  | _ :: tokens => parameters depth current tokens

/-- The method whose name is the first word before a parenthesis. -/
def method? : List Token → Option Signature
  | [] => none
  | word name _ :: symbol '(' :: tokens => some ⟨name, parameters 0 none tokens⟩
  | _ :: tokens => method? tokens

/-- The method that a line declares.  The members of a generated class are indented by two blanks,
and what stands in a method is indented further. -/
def signature? (tokens : List Token) : Option Signature :=
  if indentation tokens = 2 then method? (significant tokens) else none

end Token

/-- The signatures of the methods that code declares, in order. -/
def Code.signatures (code : Code) : List Signature :=
  code.tokens.filterMap Token.signature?

namespace Code

theorem signatures_flatMap {α : Type} (xs : List α) (f : α → Code) :
    Code.signatures (xs.flatMap f) = xs.flatMap fun x => (f x).signatures := by
  rw [signatures, tokens_flatMap, List.filterMap_flatMap]
  rfl

end Code

/-! ## Names of methods -/

/-- The words with which the names of accessors begin. -/
inductive Verb
  | set
  | setNullable
  | add
  | addAll
  | put
  | putAll
  | remove
  | clear
  | get
  deriving DecidableEq

namespace Verb

/-- The characters of the word. -/
def chars : Verb → List Char
  | set => ['s', 'e', 't']
  | setNullable => ['s', 'e', 't', 'N', 'u', 'l', 'l', 'a', 'b', 'l', 'e']
  | add => ['a', 'd', 'd']
  | addAll => ['a', 'd', 'd', 'A', 'l', 'l']
  | put => ['p', 'u', 't']
  | putAll => ['p', 'u', 't', 'A', 'l', 'l']
  | remove => ['r', 'e', 'm', 'o', 'v', 'e']
  | clear => ['c', 'l', 'e', 'a', 'r']
  | get => ['g', 'e', 't']

/-- A longer word with the same beginning, and what it has in addition. -/
def longer? : Verb → Option (Verb × List Char)
  | set => some (setNullable, ['N', 'u', 'l', 'l', 'a', 'b', 'l', 'e'])
  | add => some (addAll, ['A', 'l', 'l'])
  | put => some (putAll, ['A', 'l', 'l'])
  | _ => none

theorem chars_of_longer? {v w : Verb} {more : List Char} (h : v.longer? = some (w, more)) :
    w.chars = v.chars ++ more := by
  cases v <;> cases h <;> rfl

theorem ne_append_of_longer? {v w : Verb} {more : List Char} (h : v.longer? = some (w, more))
    {x : List Char} : x ≠ more ++ x := by
  intro hself
  rw [List.self_eq_append_left.1 hself] at h
  cases v <;> cases h

/-- No other word is the beginning of another one. -/
theorem eq_or_longer?_of_prefix {v w : Verb} (h : v.chars <+: w.chars) :
    v = w ∨ ∃ more, v.longer? = some (w, more) := by
  revert h
  cases v <;> cases w <;> simp [chars, longer?, List.cons_prefix_cons]

/-- Two names are equal only if their words are, or if the rest of one name makes its word a longer
one. -/
theorem append_eq_append_iff {v w : Verb} {x y : List Char} :
    v.chars ++ x = w.chars ++ y ↔
      v = w ∧ x = y ∨
        (∃ more, v.longer? = some (w, more) ∧ x = more ++ y) ∨
          ∃ more, w.longer? = some (v, more) ∧ y = more ++ x := by
  constructor
  · intro h
    have hcases {v w : Verb} {x y : List Char} (hstart : v.chars <+: w.chars)
        (h : v.chars ++ x = w.chars ++ y) :
        v = w ∧ x = y ∨ ∃ more, v.longer? = some (w, more) ∧ x = more ++ y := by
      rcases eq_or_longer?_of_prefix hstart with rfl | ⟨more, hmore⟩
      · exact .inl ⟨rfl, List.append_cancel_left h⟩
      · rw [chars_of_longer? hmore, List.append_assoc] at h
        exact .inr ⟨more, hmore, List.append_cancel_left h⟩
    rcases List.prefix_or_prefix_of_prefix (List.prefix_append v.chars x)
      (h ▸ List.prefix_append w.chars y) with hstart | hstart
    · exact (hcases hstart h).imp_right .inl
    · rcases hcases hstart h.symm with ⟨rfl, rfl⟩ | hlonger
      · exact .inl ⟨rfl, rfl⟩
      · exact .inr (.inr hlonger)
  · rintro (⟨rfl, rfl⟩ | ⟨more, hmore, rfl⟩ | ⟨more, hmore, rfl⟩)
    · rfl
    · rw [chars_of_longer? hmore, List.append_assoc]
    · rw [chars_of_longer? hmore, List.append_assoc]

end Verb

/-! ## Methods of one property -/

/-- Whether the methods that a strategy names itself are named after the capitalised name. -/
def Strategy.IsNamedAfter (capitalized : String) : Strategy → Prop
  | plain setter _ => setter = "set" ++ capitalized
  | optional _ methods _ => methods = .ofName capitalized
  | list _ | set _ | map .. => True

namespace Property

/-- The types that the setters of a property take. -/
def setterTypes (p : Property) : List ErasedType :=
  match p.strategy with
  | .plain .. => [p.type.erasure]
  | .optional flavour _ e => [e.parameter.erasure, .cls flavour.optionalClass]
  | .list _ | .set _ | .map .. => []

/-- The type that the setter for a nullable value takes. -/
def nullableType? (p : Property) : Option ErasedType :=
  match p.strategy with
  | .optional _ _ e => some e.type.erasure
  | _ => none

/-- The type of the elements that can be added one by one. -/
def addedType? (p : Property) : Option ErasedType :=
  match p.strategy with
  | .list e | .set e => some e.parameter.erasure
  | _ => none

/-- The accessors of a property, each with the types that it takes. -/
def methods (p : Property) : List (Verb × List ErasedType) :=
  match p.strategy with
  | .plain .. => [(.set, [p.type.erasure]), (.get, [])]
  | .optional flavour _ e =>
    [(.set, [e.parameter.erasure]), (.set, [.cls flavour.optionalClass]),
      (.setNullable, [e.type.erasure]), (.clear, []), (.get, [])]
  | .list e =>
    [(.add, [e.parameter.erasure]), (.add, [.array e.parameter.erasure]),
      (.addAll, [.cls Library.iterable]), (.clear, []), (.get, [])]
  | .set e =>
    [(.add, [e.parameter.erasure]), (.add, [.array e.parameter.erasure]),
      (.addAll, [.cls Library.iterable]), (.remove, [e.parameter.erasure]), (.clear, []),
      (.get, [])]
  | .map key value =>
    [(.put, [key.parameter.erasure, value.parameter.erasure]), (.putAll, [.cls Library.map]),
      (.remove, [key.parameter.erasure]), (.clear, []), (.get, [])]

/-- The signature of an accessor of a property. -/
def signature (p : Property) (method : Verb × List ErasedType) : Signature :=
  ⟨method.1.chars ++ p.capitalized.toList, method.2⟩

end Property

/-! ## What the accessors declare -/

namespace Accessors

variable (b : Blueprint) (p : Property)

theorem signatures_plain (setter : String) :
    (plain b p setter).signatures =
      [⟨setter.toList, [p.type.erasure]⟩, p.signature (.get, [])] := by
  cases hprimitive : p.type.isPrimitive <;> cases htracks : p.tracksUnset <;>
    simp (disch := exact id rfl) only [plain, plainSetter, plainGetter, throwsIfArgumentNull,
      storeArgument, Blueprint.linkGetter, Blueprint.returnsBuilder, Blueprint.returnBuilder,
      hprimitive, htracks, Bool.not_true, Bool.not_false, Bool.false_eq_true, if_true, if_false,
      Code.signatures, Code.tokens_joined_cons, Code.tokens_joined_nil, Code.tokens_cons,
      Code.tokens_nil, Statement.tokens_of_opening] <;>
    rfl

theorem signatures_optional (flavour : OptionalFlavour) (methods : OptionalMethods) (e : Element) :
    (optional b p flavour methods e).signatures =
      [⟨methods.optionalSetter.toList, [e.parameter.erasure]⟩,
        ⟨methods.optionalSetter.toList, [.cls flavour.optionalClass]⟩,
        ⟨methods.nullableSetter.toList, [e.type.erasure]⟩,
        ⟨methods.clearMethod.toList, []⟩, p.signature (.get, [])] := by
  cases hnullable : e.isNullable <;>
    simp (disch := exact id rfl) only [optional, optionalSetter, optionalOptionalSetter,
      optionalNullableSetter, optionalClear, optionalGetter, optionalDocumentation,
      throwsIfArgumentNull, storeArgument, setOrClear, returnOptional, Blueprint.linkGetter,
      Blueprint.returnsBuilder, Blueprint.returnBuilder, hnullable, Bool.false_eq_true, if_true,
      if_false, Code.signatures, Code.tokens_joined_cons, Code.tokens_joined_nil, Code.tokens_cons,
      Code.tokens_nil, Statement.tokens_of_opening] <;>
    rfl

theorem signatures_list (e : Element) :
    (list b p e).signatures =
      [p.signature (.add, [e.parameter.erasure]), p.signature (.add, [.array e.parameter.erasure]),
        p.signature (.addAll, [.cls Library.iterable]), p.signature (.clear, []),
        p.signature (.get, [])] := by
  cases hnullable : e.isNullable <;>
    simp (disch := exact id rfl) only [list, listAdd, listAddArray, listAddAll,
      listAddDocumentation, addOne, addElement, addArrayHead, addAllHead, addEach, clearAll,
      unmodifiableView, throwsIfElementNull, throwsIfContainsNull, Blueprint.linkGetter,
      Blueprint.returnsBuilder, Blueprint.returnBuilder, hnullable, Bool.false_eq_true, if_true,
      if_false, Code.signatures, Code.tokens_joined_cons, Code.tokens_joined_nil, Code.tokens_cons,
      Code.tokens_nil, Statement.tokens_of_opening] <;>
    rfl

theorem signatures_set (e : Element) :
    (set b p e).signatures =
      [p.signature (.add, [e.parameter.erasure]), p.signature (.add, [.array e.parameter.erasure]),
        p.signature (.addAll, [.cls Library.iterable]),
        p.signature (.remove, [e.parameter.erasure]), p.signature (.clear, []),
        p.signature (.get, [])] := by
  cases hnullable : e.isNullable <;>
    simp (disch := exact id rfl) only [set, setAdd, setAddArray, setAddAll, setRemove,
      setAddDocumentation, addOne, addElement, addArrayHead, addAllHead, addEach, clearAll,
      unmodifiableView, throwsIfElementNull, throwsIfContainsNull, Blueprint.linkGetter,
      Blueprint.returnsBuilder, Blueprint.returnBuilder, hnullable, Bool.false_eq_true, if_true,
      if_false, Code.signatures, Code.tokens_joined_cons, Code.tokens_joined_nil, Code.tokens_cons,
      Code.tokens_nil, Statement.tokens_of_opening] <;>
    rfl

theorem signatures_map (key value : Element) :
    (map b p key value).signatures =
      [p.signature (.put, [key.parameter.erasure, value.parameter.erasure]),
        p.signature (.putAll, [.cls Library.map]), p.signature (.remove, [key.parameter.erasure]),
        p.signature (.clear, []), p.signature (.get, [])] := by
  cases hkey : key.isNullable <;> cases hvalue : value.isNullable <;>
    simp (disch := exact id rfl) only [map, mapPut, mapPutAll, mapRemove, throwsIfEntryNull,
      throwsIfKeyNull, checkKey, checkNotNull, clearAll, unmodifiableView, Blueprint.linkGetter,
      Blueprint.returnsBuilder, Blueprint.returnBuilder, hkey, hvalue, Bool.false_eq_true, if_true,
      if_false, Code.signatures, Code.tokens_joined_cons, Code.tokens_joined_nil, Code.tokens_cons,
      Code.tokens_nil, Statement.tokens_of_opening] <;>
    rfl

end Accessors

namespace Property

variable {p q : Property}

/-- The accessors of a property whose strategy names them after it. -/
theorem signatures_accessors (b : Blueprint) (h : p.strategy.IsNamedAfter p.capitalized) :
    (p.accessors b).signatures = p.methods.map p.signature := by
  rw [accessors, methods]
  cases hcase : p.strategy with
  | plain setter hasDefault =>
    rw [hcase] at h
    have hsetter : setter.toList = Verb.set.chars ++ p.capitalized.toList := by
      rw [show setter = _ from h, String.toList_append]
      rfl
    rw [Accessors.signatures_plain, hsetter]
    rfl
  | optional flavour methods e =>
    rw [hcase] at h
    have hnames : methods.optionalSetter.toList = Verb.set.chars ++ p.capitalized.toList ∧
        methods.nullableSetter.toList = Verb.setNullable.chars ++ p.capitalized.toList ∧
          methods.clearMethod.toList = Verb.clear.chars ++ p.capitalized.toList := by
      rw [show methods = _ from h]
      simp only [OptionalMethods.ofName, String.toList_append]
      exact ⟨rfl, rfl, rfl⟩
    rw [Accessors.signatures_optional, hnames.1, hnames.2.1, hnames.2.2]
    rfl
  | list e => exact Accessors.signatures_list b p e
  | set e => exact Accessors.signatures_set b p e
  | map key value => exact Accessors.signatures_map b p key value

/-! ## Clashes -/

/-- Different accessors of a property have different signatures. -/
theorem signature_injective (p : Property) : Function.Injective p.signature := by
  rintro ⟨v, types⟩ ⟨w, types'⟩ h
  obtain ⟨hname, rfl⟩ := Signature.mk.inj h
  rcases Verb.append_eq_append_iff.1 hname with
    ⟨rfl, -⟩ | ⟨more, hmore, hself⟩ | ⟨more, hmore, hself⟩
  · rfl
  · exact absurd hself (Verb.ne_append_of_longer? hmore)
  · exact absurd hself (Verb.ne_append_of_longer? hmore)

/-- A property has no method twice, except for the setters of an optional of optionals. -/
theorem nodup_methods_iff : p.methods.Nodup ↔ p.setterTypes.Nodup := by
  rw [methods, setterTypes]
  cases p.strategy <;> simp [ErasedType.ne_array]

theorem get_mem_methods (p : Property) : (.get, []) ∈ p.methods := by
  rw [methods]
  cases p.strategy <;> simp

theorem set_mem_methods_iff {types : List ErasedType} :
    (.set, types) ∈ p.methods ↔ ∃ t ∈ p.setterTypes, types = [t] := by
  rw [methods, setterTypes]
  cases p.strategy <;> simp

theorem setNullable_mem_methods_iff {types : List ErasedType} :
    (.setNullable, types) ∈ p.methods ↔ ∃ t, p.nullableType? = some t ∧ types = [t] := by
  rw [methods, nullableType?]
  cases p.strategy <;> simp

theorem add_mem_methods_iff {types : List ErasedType} :
    (.add, types) ∈ p.methods ↔
      ∃ t, p.addedType? = some t ∧ (types = [t] ∨ types = [.array t]) := by
  rw [methods, addedType?]
  cases p.strategy <;> simp

theorem addAll_mem_methods_iff {types : List ErasedType} :
    (.addAll, types) ∈ p.methods ↔
      p.addedType?.isSome = true ∧ types = [.cls Library.iterable] := by
  rw [methods, addedType?]
  cases p.strategy <;> simp

/-- One entry has a key and a value, and all entries come as one map. -/
theorem putAll_notMem_methods {types : List ErasedType} (h : (.put, types) ∈ p.methods) :
    (.putAll, types) ∉ q.methods := by
  rw [methods] at h ⊢
  cases hp : p.strategy <;> cases hq : q.strategy <;> simp_all

/-- Whether a method of `p` has the signature of a method of `q` with a longer word.  A setter of
`p` can be the setter for a nullable `q`, and what adds to `p` one iterable can be what adds all
elements of an iterable to `q`. -/
def Shadows (p q : Property) : Prop :=
  (p.capitalized = "Nullable" ++ q.capitalized ∧ ∃ t ∈ p.setterTypes, q.nullableType? = some t) ∨
    (p.capitalized = "All" ++ q.capitalized ∧ q.addedType?.isSome = true ∧
      p.addedType? = some (.cls Library.iterable))

instance : Decidable (p.Shadows q) :=
  inferInstanceAs (Decidable (_ ∨ _))

theorem shadows_iff :
    p.Shadows q ↔
      ∃ v w more types, v.longer? = some (w, more) ∧
        p.capitalized.toList = more ++ q.capitalized.toList ∧
          (v, types) ∈ p.methods ∧ (w, types) ∈ q.methods := by
  constructor
  · rintro (⟨hname, t, ht, hnullable⟩ | ⟨hname, hadds, hiterable⟩)
    · refine ⟨.set, .setNullable, _, [t], rfl, ?_, set_mem_methods_iff.2 ⟨t, ht, rfl⟩,
        setNullable_mem_methods_iff.2 ⟨t, hnullable, rfl⟩⟩
      rw [hname, String.toList_append]
      rfl
    · refine ⟨.add, .addAll, _, [.cls Library.iterable], rfl, ?_,
        add_mem_methods_iff.2 ⟨_, hiterable, .inl rfl⟩, addAll_mem_methods_iff.2 ⟨hadds, rfl⟩⟩
      rw [hname, String.toList_append]
      rfl
  · rintro ⟨v, w, more, types, hmore, hrest, hv, hw⟩
    have hname {prefixed : String} (h : more = prefixed.toList) :
        p.capitalized = prefixed ++ q.capitalized :=
      String.toList_inj.1 (by rw [hrest, h, String.toList_append])
    cases v with
    | set =>
      cases hmore
      obtain ⟨t, ht, rfl⟩ := set_mem_methods_iff.1 hv
      obtain ⟨t', hnullable, hsame⟩ := setNullable_mem_methods_iff.1 hw
      cases hsame
      exact .inl ⟨hname rfl, t, ht, hnullable⟩
    | add =>
      cases hmore
      obtain ⟨hadds, rfl⟩ := addAll_mem_methods_iff.1 hw
      obtain ⟨t, ht, hsame | hsame⟩ := add_mem_methods_iff.1 hv
      · cases hsame
        exact .inr ⟨hname rfl, hadds, ht⟩
      · cases hsame
    | put =>
      cases hmore
      exact absurd hw (putAll_notMem_methods hv)
    | _ => cases hmore

theorem not_shadows_self (p : Property) : ¬p.Shadows p := by
  rw [shadows_iff]
  rintro ⟨v, w, more, types, hmore, hself, -⟩
  exact Verb.ne_append_of_longer? hmore hself

/-- Two properties have a method in common exactly if they have the same capitalised name, or if one
shadows the other. -/
theorem exists_mem_signatures_iff :
    (∃ s ∈ p.methods.map p.signature, s ∈ q.methods.map q.signature) ↔
      p.capitalized = q.capitalized ∨ p.Shadows q ∨ q.Shadows p := by
  constructor
  · rintro ⟨s, hp, hq⟩
    obtain ⟨⟨v, types⟩, hv, rfl⟩ := List.mem_map.1 hp
    obtain ⟨⟨w, types'⟩, hw, h⟩ := List.mem_map.1 hq
    obtain ⟨hname, rfl⟩ := Signature.mk.inj h
    rcases Verb.append_eq_append_iff.1 hname with ⟨rfl, hself⟩ | ⟨more, hmore, hrest⟩ |
      ⟨more, hmore, hrest⟩
    · exact .inl (String.toList_inj.1 hself).symm
    · exact .inr (.inr (shadows_iff.2 ⟨w, v, more, types', hmore, hrest, hw, hv⟩))
    · exact .inr (.inl (shadows_iff.2 ⟨v, w, more, types', hmore, hrest, hv, hw⟩))
  · have hshared {p q : Property} (h : p.Shadows q) :
        ∃ s ∈ p.methods.map p.signature, s ∈ q.methods.map q.signature := by
      obtain ⟨v, w, more, types, hmore, hrest, hv, hw⟩ := shadows_iff.1 h
      have hname : v.chars ++ p.capitalized.toList = w.chars ++ q.capitalized.toList :=
        Verb.append_eq_append_iff.2 (.inr (.inl ⟨more, hmore, hrest⟩))
      refine ⟨p.signature (v, types), List.mem_map_of_mem hv, ?_⟩
      rw [signature, hname]
      exact List.mem_map_of_mem hw
    rintro (hself | hpq | hqp)
    · refine ⟨p.signature (.get, []), List.mem_map_of_mem p.get_mem_methods, ?_⟩
      rw [signature, hself]
      exact List.mem_map_of_mem q.get_mem_methods
    · exact hshared hpq
    · obtain ⟨s, hq, hp⟩ := hshared hqp
      exact ⟨s, hp, hq⟩

/-- The accessors of two properties have distinct signatures exactly if their capitalised names are
distinct and neither property shadows the other. -/
theorem disjoint_signatures_iff :
    (p.methods.map p.signature).Disjoint (q.methods.map q.signature) ↔
      p.capitalized ≠ q.capitalized ∧ ¬p.Shadows q ∧ ¬q.Shadows p := by
  have hcommon := not_congr (exists_mem_signatures_iff (p := p) (q := q))
  simp only [not_exists, not_and, not_or] at hcommon
  exact List.disjoint_left.trans hcommon

theorem pairwise_not_shadows_iff {properties : List Property} :
    properties.Pairwise (fun p q => ¬p.Shadows q ∧ ¬q.Shadows p) ↔
      ∀ p ∈ properties, ∀ q ∈ properties, ¬p.Shadows q := by
  constructor
  · intro h p hp q hq
    have : Std.Symm fun p q : Property => ¬p.Shadows q ∧ ¬q.Shadows p := ⟨fun _ _ h => h.symm⟩
    have hself (p : Property) (_ : p ∈ properties) : ¬p.Shadows p ∧ ¬p.Shadows p :=
      ⟨p.not_shadows_self, p.not_shadows_self⟩
    exact (h.forall_of_forall hself hp hq).1
  · intro h
    exact List.pairwise_of_forall_mem_list fun p hp q hq => ⟨h p hp q hq, h q hq p hp⟩

/-- The accessors of properties have distinct signatures if the capitalised names are distinct, if
no property has a method twice, and if no property shadows another one. -/
theorem nodup_signatures_iff {properties : List Property} :
    (properties.flatMap fun p => p.methods.map p.signature).Nodup ↔
      (properties.map (·.capitalized)).Nodup ∧ (∀ p ∈ properties, p.setterTypes.Nodup) ∧
        ∀ p ∈ properties, ∀ q ∈ properties, ¬p.Shadows q := by
  have hown (p : Property) : (p.methods.map p.signature).Nodup ↔ p.setterTypes.Nodup := by
    rw [List.nodup_map_iff p.signature_injective, nodup_methods_iff]
  have hpairwise : properties.Pairwise
      (Function.onFun List.Disjoint fun p => p.methods.map p.signature) ↔
        (properties.map (·.capitalized)).Nodup ∧
          ∀ p ∈ properties, ∀ q ∈ properties, ¬p.Shadows q := by
    rw [List.Nodup, List.pairwise_map, ← pairwise_not_shadows_iff, ← List.pairwise_and_iff]
    exact List.Pairwise.iff_of_mem fun _ _ => disjoint_signatures_iff
  rw [List.nodup_flatMap, hpairwise]
  simp only [hown]
  exact and_left_comm

end Property

/-! ## All accessors of a class -/

/-- A strategy names its methods after the property that it is bound to. -/
theorem Strategy.isNamedAfter_bind (r : Request) : (bind r).IsNamedAfter r.capitalized := by
  simp only [bind, rules, List.findSome?_cons, bindList?, bindSet?, bindMap?, bindOptional?]
  split_ifs <;> trivial

namespace TypeDeclaration

variable {declaration : TypeDeclaration} {conversion : Conversion}

/-- The accessors of a converted declaration are those of its properties. -/
theorem signatures_of_convert (h : declaration.convert = .ok conversion) :
    conversion.blueprint.accessors.signatures =
      conversion.blueprint.properties.flatMap fun p => p.methods.map p.signature := by
  rw [Blueprint.accessors, Code.signatures_flatMap]
  refine List.flatMap_congr fun p hp => Property.signatures_accessors _ ?_
  obtain ⟨scope, -, property, type, name, -, rfl⟩ := exists_ofGetter_of_convert h hp
  exact Strategy.isNamedAfter_bind _

end TypeDeclaration

/-- The accessors of a converted declaration have distinct signatures exactly if the capitalised
names of its properties are distinct, if none of them is an optional of the same kind of optional,
and if no property shadows another one. -/
theorem accessor_signatures_distinct_iff (declaration : TypeDeclaration) (conversion : Conversion)
    (h : declaration.convert = .ok conversion) :
    conversion.blueprint.accessors.signatures.Nodup ↔
      (conversion.blueprint.properties.map (·.capitalized)).Nodup ∧
        (∀ p ∈ conversion.blueprint.properties, p.setterTypes.Nodup) ∧
          ∀ p ∈ conversion.blueprint.properties, ∀ q ∈ conversion.blueprint.properties,
            ¬p.Shadows q := by
  rw [TypeDeclaration.signatures_of_convert h]
  exact Property.nodup_signatures_iff

/-- Names that begin like the words of other accessors do no harm if the types differ. -/
theorem accessor_signatures_distinct_iff_prefixed :
    let declaration : TypeDeclaration :=
      { name := "com.example.Person"
        properties :=
          [{ getter := "getName", type := "java.util.Optional<String>" },
            { getter := "getNullableName", type := "int" },
            { getter := "getTags", type := "java.util.List<String>" },
            { getter := "getAllTags", type := "java.util.Set<Integer>" },
            { getter := "getScores", type := "java.util.Map<String, Integer>" }] }
    ∃ conversion, declaration.convert = .ok conversion ∧
      conversion.blueprint.properties.map (·.capitalized) =
          ["Name", "NullableName", "Tags", "AllTags", "Scores"] ∧
        conversion.blueprint.accessors.signatures.Nodup := by
  intro declaration
  have hconverted : (declaration.convert.toOption.map fun conversion =>
      (conversion.blueprint.properties.map (·.capitalized),
        conversion.blueprint.properties.all fun p => decide p.setterTypes.Nodup &&
          conversion.blueprint.properties.all fun q => decide ¬p.Shadows q)) =
      some (["Name", "NullableName", "Tags", "AllTags", "Scores"], true) := by
    decide +kernel
  obtain ⟨conversion, hconvert, hresult⟩ := map_toOption_eq_some_iff.1 hconverted
  obtain ⟨hnames, hchecks⟩ := Prod.mk.inj hresult
  simp only [List.all_eq_true, Bool.and_eq_true, decide_eq_true_eq] at hchecks
  refine ⟨conversion, hconvert, hnames, ?_⟩
  refine (accessor_signatures_distinct_iff declaration conversion hconvert).2 ⟨?_, ?_, ?_⟩
  · rw [hnames]
    decide
  · exact fun p hp => (hchecks p hp).1
  · exact fun p hp => (hchecks p hp).2

/-- Two getters that differ in the case of the first letter.  Both properties have a method
`setName` for a string, and both have a method `getName`. -/
theorem accessor_signature_repeats_name :
    let declaration : TypeDeclaration :=
      { name := "com.example.Person"
        properties :=
          [{ getter := "name", type := "String" },
            { getter := "Name", type := "String", hasDefault := true }] }
    ∃ conversion, declaration.convert = .ok conversion ∧
      ¬conversion.blueprint.accessors.signatures.Nodup := by
  intro declaration
  have hconverted : (declaration.convert.toOption.map fun conversion =>
      conversion.blueprint.properties.map (·.capitalized)) = some ["Name", "Name"] := by
    decide +kernel
  obtain ⟨conversion, hconvert, hnames⟩ := map_toOption_eq_some_iff.1 hconverted
  refine ⟨conversion, hconvert, fun hnodup => ?_⟩
  rw [TypeDeclaration.signatures_of_convert hconvert] at hnodup
  have hdistinct := (Property.nodup_signatures_iff.1 hnodup).1
  rw [hnames] at hdistinct
  exact absurd hdistinct (by decide)

end ValueBuilder
