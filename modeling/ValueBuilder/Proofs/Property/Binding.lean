import Mathlib.Logic.Relation
import ValueBuilder.Proofs.Java.TypeParsing
import ValueBuilder.Property.Strategy

/-!
# Binding of container types

A property whose type is a container is stored with elements of known types.  A type argument that
is a wildcard says less than the type that a value read from it has, and the strategy is the same
for both.

* `Reveals` is one step from a wildcard to what is read from it, and `Shows` the type at the end of
  such steps.  `shows_upperBound` says that upper bounds are these types.
* `Replaces` is one change of the type arguments.  `Replaces.shows` is the step, and
  `shows_of_reflTransGen` goes on to any number of changes.
* `containers` are the classes that are stored as containers; `bind_of_mem_containers` and
  `bind_of_forall_notMem_containers` say what is bound for these and for all other types.
-/

namespace ValueBuilder

open Java

/-! ## What is read from type arguments -/

namespace Java.JavaType

/-- Whether the type is a wildcard. -/
def isWildcard : JavaType → Bool
  | unbounded | extending _ | superOf _ => true
  | _ => false

/-- A wildcard, and a type that all values read from it have. -/
inductive Reveals : JavaType → JavaType → Prop
  | extending {bound : JavaType} : Reveals (.extending bound) bound
  | unbounded : Reveals .unbounded (.ofClass objectClass)
  | superOf {bound : JavaType} : Reveals (.superOf bound) (.ofClass objectClass)

/-- What stands in the place of a type argument, and the type of the values read from there. -/
inductive Shows : Option JavaType → JavaType → Prop
  | missing : Shows none (.ofClass objectClass)
  | proper {t : JavaType} (ht : t.isWildcard = false) : Shows (some t) t
  | wildcard {t u v : JavaType} (ht : Reveals t u) (hu : Shows (some u) v) : Shows (some t) v

theorem Reveals.unique {t u v : JavaType} (hu : Reveals t u) (hv : Reveals t v) : u = v := by
  cases hu <;> cases hv <;> rfl

theorem Reveals.isWildcard {t u : JavaType} (h : Reveals t u) : t.isWildcard = true := by
  cases h <;> rfl

namespace Shows

variable {arg : Option JavaType} {t u : JavaType}

theorem isWildcard (h : Shows arg t) : t.isWildcard = false := by
  induction h with
  | missing => rfl
  | proper ht => exact ht
  | wildcard _ _ ih => exact ih

/-- A step from a wildcard leads to what the wildcard shows. -/
theorem of_reveals (h : Shows (some t) u) {v : JavaType} (hv : Reveals t v) :
    Shows (some v) u := by
  cases h with
  | proper ht =>
    rw [hv.isWildcard] at ht
    cases ht
  | wildcard hw hu =>
    rw [hv.unique hw]
    exact hu

theorem unique (h : Shows arg t) (hu : Shows arg u) : t = u := by
  induction h with
  | missing =>
    cases hu
    rfl
  | proper ht =>
    cases hu with
    | proper => rfl
    | wildcard hw _ =>
      rw [hw.isWildcard] at ht
      cases ht
  | wildcard hw _ ih => exact ih (hu.of_reveals hw)

end Shows

theorem shows_upperBound (t : JavaType) : Shows (some t) t.upperBound := by
  fun_induction upperBound t with
  | case1 bound ih => exact .wildcard .extending ih
  | case2 => exact .wildcard .unbounded (.proper rfl)
  | case3 bound => exact .wildcard .superOf (.proper rfl)
  | case4 t hextending hunbounded hsuper =>
    refine .proper ?_
    cases t with
    | unbounded => exact absurd rfl hunbounded
    | extending bound => exact absurd rfl (hextending bound)
    | superOf bound => exact absurd rfl (hsuper bound)
    | _ => rfl

theorem shows_argumentBound (t : JavaType) (index : Nat) :
    Shows t.arguments[index]? (t.argumentBound index) := by
  rw [argumentBound]
  cases t.arguments[index]? with
  | none => exact .missing
  | some arg => exact shows_upperBound arg

/-! ## Other type arguments -/

/-- One change of type arguments: a wildcard gives way to a type that is read from it, or the
argument behind the last one is written down. -/
inductive Replaces : List JavaType → List JavaType → Prop
  | argument {args : List JavaType} {index : Nat} {old new : JavaType}
      (hold : args[index]? = some old) (hnew : Reveals old new) :
      Replaces args (args.set index new)
  | missing {args : List JavaType} : Replaces args (args ++ [.ofClass objectClass])

variable {args args' : List JavaType} {index : Nat} {t : JavaType}

/-- A change keeps what every argument shows. -/
theorem Replaces.shows (h : Replaces args args') (ht : Shows args[index]? t) :
    Shows args'[index]? t := by
  cases h with
  | @argument changed old new hold hnew =>
    rw [List.getElem?_set]
    split
    · next hindex =>
      subst hindex
      obtain ⟨hlt, -⟩ := List.getElem?_eq_some_iff.1 hold
      rw [hold] at ht
      rw [if_pos hlt]
      exact ht.of_reveals hnew
    · exact ht
  | missing =>
    by_cases hlt : index < args.length
    · rw [List.getElem?_append_left hlt]
      exact ht
    · rw [List.getElem?_eq_none (Nat.le_of_not_lt hlt)] at ht
      cases ht
      rw [List.getElem?_append_right (Nat.le_of_not_lt hlt)]
      cases index - args.length with
      | zero => exact .proper rfl
      | succ n => exact .missing

theorem shows_of_reflTransGen (h : Relation.ReflTransGen Replaces args args')
    (ht : Shows args[index]? t) : Shows args'[index]? t := by
  induction h with
  | refl => exact ht
  | tail _ hstep ih => exact hstep.shows ih

/-- The bounds of the arguments are the same after any changes. -/
theorem argumentBound_of_reflTransGen (c : ClassName)
    (h : Relation.ReflTransGen Replaces args args') (index : Nat) :
    (declared c args').argumentBound index = (declared c args).argumentBound index :=
  (shows_argumentBound (declared c args') index).unique
    (shows_of_reflTransGen h (shows_argumentBound (declared c args) index))

end Java.JavaType

/-! ## Boxes -/

namespace Java

theorem Primitive.boxedClass_of_ofBoxed? {c : ClassName} {p : Primitive}
    (h : Primitive.ofBoxed? c = some p) : p.boxedClass = c := by
  have hbox := List.find?_some h
  exact beq_iff_eq.1 hbox

theorem JavaType.unboxed?_eq_some_iff {t : JavaType} {p : Primitive} :
    t.unboxed? = some p ↔ t = .declared p.boxedClass [] := by
  constructor
  · intro h
    cases t with
    | declared c args =>
      cases args with
      | nil => rw [Primitive.boxedClass_of_ofBoxed? h]
      | cons => cases h
    | _ => cases h
  · rintro rfl
    exact Primitive.ofBoxed?_boxedClass p

end Java

/-! ## Parsed types -/

namespace Java.Grammar

theorem isArgument_of_mem {args : List JavaType} (h : AreArguments args) {arg : JavaType}
    (harg : arg ∈ args) : IsArgument arg := by
  induction args with
  | nil => cases harg
  | cons first args ih =>
    cases harg with
    | head => exact h.1
    | tail _ harg => exact ih h.2 harg

theorem isArgument_of_reveals {t u : JavaType} (h : JavaType.Reveals t u) (ht : IsArgument t) :
    IsArgument u := by
  cases h with
  | extending => exact ht
  | unbounded | superOf => exact trivial

/-- What a type argument of a parsed type shows is no primitive type: the bound of a wildcard is
read like an argument. -/
theorem isPrimitive_of_shows {arg : Option JavaType} {t : JavaType} (h : JavaType.Shows arg t)
    (harg : ∀ a, arg = some a → IsArgument a) : t.isPrimitive = false := by
  induction h with
  | missing => rfl
  | @proper t ht =>
    have hargument : IsArgument t := harg t rfl
    cases t with
    | primitive p => exact hargument.elim
    | _ => rfl
  | wildcard hw _ ih =>
    refine ih fun a ha => ?_
    cases ha
    exact isArgument_of_reveals hw (harg _ rfl)

theorem isPrimitive_argumentBound_of_parse {scope : TypeScope} {text : String} {c : ClassName}
    {args : List JavaType} (h : scope.parse text = .ok (.declared c args)) (index : Nat) :
    ((JavaType.declared c args).argumentBound index).isPrimitive = false := by
  obtain ⟨rest, htype, -⟩ := parse_eq_ok_iff_denotes.1 h
  have hargs : AreArguments args := htype.isType
  exact isPrimitive_of_shows (JavaType.shows_argumentBound _ index) fun _ harg =>
    isArgument_of_mem hargs (List.mem_of_getElem? harg)

end Java.Grammar

/-! ## Containers -/

namespace Strategy

/-- The kinds of containers. -/
inductive Container
  | list
  | set
  | map
  | optional (flavour : OptionalFlavour)

/-- The strategy of a container, given what stands in each place for an element. -/
def Container.strategy (capitalized : String) (element : Nat → Element) : Container → Strategy
  | list => .list (element 0)
  | set => .set (element 0)
  | map => .map (element 0) (element 1)
  | optional flavour => .optional flavour (.ofName capitalized) (element 0)

/-- The classes that are stored as containers. -/
def containers : List (ClassName × Container) :=
  [(Library.collection, .list), (Library.list, .list), (Library.immutableList, .list),
    (Library.set, .set), (Library.immutableSet, .set), (Library.map, .map),
    (Library.immutableMap, .map), (Library.guavaOptional, .optional .guava),
    (Library.platformOptional, .optional .platform)]

variable {c : ClassName} {kind : Container}

theorem bind_of_mem_containers (h : (c, kind) ∈ containers) (args : List JavaType)
    (capitalized : String) (hasDefault : Bool) :
    bind ⟨.declared c args, capitalized, hasDefault⟩ =
      kind.strategy capitalized fun index =>
        .ofType ((JavaType.declared c args).argumentBound index) := by
  simp only [containers, List.mem_cons, Prod.mk.injEq, List.not_mem_nil, or_false] at h
  rcases h with ⟨rfl, rfl⟩ | ⟨rfl, rfl⟩ | ⟨rfl, rfl⟩ | ⟨rfl, rfl⟩ | ⟨rfl, rfl⟩ | ⟨rfl, rfl⟩ |
    ⟨rfl, rfl⟩ | ⟨rfl, rfl⟩ | ⟨rfl, rfl⟩ <;> rfl

/-- Types of other classes, and types that have no class, are stored as they are. -/
theorem bind_of_forall_notMem_containers {t : JavaType}
    (h : ∀ c kind args, (c, kind) ∈ containers → t ≠ .declared c args) (capitalized : String)
    (hasDefault : Bool) :
    bind ⟨t, capitalized, hasDefault⟩ = .plain ("set" ++ capitalized) hasDefault := by
  have hother (classes : List ClassName) (hclasses : classes ⊆ containers.map (·.1)) :
      t.isOneOf classes = false := by
    cases t with
    | declared c args =>
      have hnot : c ∉ classes := by
        intro hmem
        obtain ⟨⟨_, kind⟩, hkind, rfl⟩ := List.mem_map.1 (hclasses hmem)
        exact h _ kind args hkind rfl
      simpa [JavaType.isOneOf, JavaType.erasedClass?] using hnot
    | _ => rfl
  simp [bind, rules, bindList?, bindSet?, bindMap?, bindOptional?, bindPlain,
    hother [Library.collection, Library.list, Library.immutableList] (by decide),
    hother [Library.set, Library.immutableSet] (by decide),
    hother [Library.map, Library.immutableMap] (by decide),
    hother [Library.guavaOptional] (by decide), hother [Library.platformOptional] (by decide)]

theorem tracksUnset_eq_true_iff {s : Strategy} :
    s.tracksUnset = true ↔ ∃ setter, s = .plain setter false := by
  cases s with
  | plain setter hasDefault => cases hasDefault <;> simp [tracksUnset]
  | _ => simp [tracksUnset]

/-- The strategy of a container depends on what its type arguments show, and neither on how they say
it nor on whether there is a default.  Its elements have these types: none is a wildcard, and none
a primitive type if the type was parsed.  An element is unboxed exactly if its type is a box class
without arguments.  All other types are stored as they are, with the given default, and must be set
exactly if they have none. -/
theorem binding_sees_through_wildcards (capitalized : String) :
    (∀ c kind, (c, kind) ∈ containers →
      (∀ args args' hasDefault hasDefault', Relation.ReflTransGen JavaType.Replaces args args' →
        bind ⟨.declared c args', capitalized, hasDefault'⟩ =
          bind ⟨.declared c args, capitalized, hasDefault⟩) ∧
      ∀ args hasDefault, ∃ element : Nat → Element,
        bind ⟨.declared c args, capitalized, hasDefault⟩ = kind.strategy capitalized element ∧
          ∀ index, JavaType.Shows args[index]? (element index).type ∧
            (element index).type.isWildcard = false ∧
              (∀ scope text, TypeScope.parse scope text = .ok (.declared c args) →
                (element index).type.isPrimitive = false) ∧
                ∀ p, (element index).unboxed = some p ↔
                  (element index).type = .declared p.boxedClass []) ∧
      (∀ t hasDefault, (∀ c kind args, (c, kind) ∈ containers → t ≠ .declared c args) →
        bind ⟨t, capitalized, hasDefault⟩ = .plain ("set" ++ capitalized) hasDefault) ∧
        ∀ s : Strategy, s.tracksUnset = true ↔ ∃ setter, s = .plain setter false := by
  refine ⟨fun c kind hkind => ⟨?_, ?_⟩, ?_, ?_⟩
  · intro args args' hasDefault hasDefault' h
    rw [bind_of_mem_containers hkind, bind_of_mem_containers hkind]
    simp only [JavaType.argumentBound_of_reflTransGen c h]
  · intro args hasDefault
    refine ⟨_, bind_of_mem_containers hkind args capitalized hasDefault, fun index => ?_⟩
    have hshows : JavaType.Shows args[index]? ((JavaType.declared c args).argumentBound index) :=
      JavaType.shows_argumentBound (.declared c args) index
    exact ⟨hshows, hshows.isWildcard,
      fun _ _ hparse => Grammar.isPrimitive_argumentBound_of_parse hparse index,
      fun _ => JavaType.unboxed?_eq_some_iff⟩
  · intro t hasDefault h
    exact bind_of_forall_notMem_containers h capitalized hasDefault
  · intro s
    exact tracksUnset_eq_true_iff

/-- A map whose key is read through two wildcards and whose value is not written down. -/
theorem binding_sees_through_wildcards_map :
    let long : JavaType := .ofClass Primitive.long.boxedClass
    let args : List JavaType := [.extending (.extending long)]
    let args' : List JavaType := [long, .ofClass JavaType.objectClass]
    Relation.ReflTransGen JavaType.Replaces args args' ∧
      bind ⟨.declared Library.map args', "Value", true⟩ =
        bind ⟨.declared Library.map args, "Value", false⟩ := by
  intro long args args'
  have hfirst : JavaType.Replaces args [.extending long] :=
    @JavaType.Replaces.argument args 0 _ _ rfl .extending
  have hsecond : JavaType.Replaces [.extending long] [long] :=
    @JavaType.Replaces.argument [.extending long] 0 _ _ rfl .extending
  have hsteps : Relation.ReflTransGen JavaType.Replaces args args' :=
    .tail (.tail (.single hfirst) hsecond) .missing
  have hmap : (Library.map, Container.map) ∈ containers := by simp [containers]
  obtain ⟨hsame, -⟩ := (binding_sees_through_wildcards "Value").1 _ _ hmap
  exact ⟨hsteps, hsame args args' false true hsteps⟩

end Strategy

end ValueBuilder
