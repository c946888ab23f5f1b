import Mathlib.Data.List.Nodup
import ValueBuilder.Declaration.Conversion
import ValueBuilder.Proofs.Builder.BuilderSteps
import ValueBuilder.Proofs.Outcomes

/-!
# Clearing without a fresh builder

Where generated code cannot make a fresh builder, `clear` stores `null` in the fields of plain and
optional properties.  A required property is marked as unset again, and an optional one may be
`null`.  What is left are properties with a default, which are neither.

* `BuilderState` is what matters of a builder, and `BuilderState.run` follows the steps of a method.
* `BuilderState.after_cases` says all that a call can do to a builder.
* `BuilderState.Safe.afterAll`: if clearing takes no default away, every `null` stays accounted for
  whatever is called.  `BuilderState.exists_null_of_hasDefault` builds a value otherwise.
* `cleared_nulls_accounted_iff` puts them together.
-/

namespace ValueBuilder

open Java

/-! ## Defaults -/

namespace Property

variable {p : Property}

/-- Whether the constructor of the builder sets the property. -/
def hasDefault (p : Property) : Bool :=
  match p.strategy with
  | .plain _ hasDefault => hasDefault
  | .optional .. | .list _ | .set _ | .map .. => false

/-- A property that is cleared by `null` is optional or required, unless it has a default. -/
theorem isNullable_or_tracksUnset_iff (h : p.isErased = true) :
    p.isNullable = true ∨ p.tracksUnset = true ↔ p.hasDefault = false := by
  rw [isErased] at h
  rw [isNullable, tracksUnset, hasDefault]
  cases hstrategy : p.strategy with
  | plain setter hasDefault => simp [Strategy.isNullable, Strategy.tracksUnset]
  | optional flavour methods e => simp [Strategy.isNullable]
  | list e | set e | map key value =>
    rw [hstrategy] at h
    cases h

theorem plain_of_hasDefault (h : p.hasDefault = true) :
    p.isCollection = false ∧ p.isNullable = false ∧ p.tracksUnset = false := by
  rw [hasDefault] at h
  rw [isCollection, isNullable, tracksUnset]
  cases hstrategy : p.strategy with
  | plain setter hasDefault =>
    rw [hstrategy] at h
    exact ⟨rfl, rfl, congrArg (!·) h⟩
  | optional flavour methods e | list e | set e | map key value =>
    rw [hstrategy] at h
    cases h

end Property

namespace Blueprint

variable {b : Blueprint} {p : Property}

/-- Whether clearing takes no default away: the fields that it sets to `null` are those of
properties without one. -/
def KeepsDefaults (b : Blueprint) : Prop :=
  ∀ p ∈ b.properties, p.isErased = true → p.hasDefault = false

/-- Properties are told apart by their names. -/
theorem name_mem_map_filter (keep : Property → Bool) (hp : p ∈ b.properties) :
    p.name.toList ∈ (b.properties.filter keep).map (·.name.toList) ↔ keep p = true := by
  rw [List.mem_map]
  constructor
  · rintro ⟨q, hq, hname⟩
    obtain ⟨hq, hkeep⟩ := List.mem_filter.1 hq
    rwa [List.inj_on_of_nodup_map b.names_nodup hp hq (String.toList_inj.1 hname.symm)]
  · exact fun hkeep => ⟨p, List.mem_filter.2 ⟨hp, hkeep⟩, rfl⟩

theorem constant_mem_required (hp : p ∈ b.properties) (h : p.tracksUnset = true) :
    p.constant.toList ∈ b.required.map (·.constant.toList) :=
  List.mem_map_of_mem (List.mem_filter.2 ⟨hp, h⟩)

theorem hasRequired_of_tracksUnset (hp : p ∈ b.properties) (h : p.tracksUnset = true) :
    b.hasRequired = true := by
  rw [hasRequired, Bool.not_eq_true', List.isEmpty_eq_false_iff]
  exact List.ne_nil_of_mem (List.mem_filter.2 ⟨hp, h⟩)

end Blueprint

/-! ## States of a builder -/

/-- What matters of a builder: the fields that are `null`, and the constants of the properties that
are marked as unset. -/
structure BuilderState where
  nulls : List (List Char)
  unset : List (List Char)

namespace BuilderState

variable (b : Blueprint) (argumentIsNull : Bool)

/-- A builder after a line of a method, unless the line throws. -/
def perform (s : BuilderState) : BuilderStep → Option BuilderState
  | .erase field => some { s with nulls := field :: s.nulls }
  | .store field checked =>
    if !argumentIsNull then some { s with nulls := s.nulls.filter (· ≠ field) }
    else if checked then none
    else some { s with nulls := field :: s.nulls }
  | .requireSet => if s.unset.isEmpty then some s else none
  | .unmarkAll => some { s with unset := [] }
  | .markAll => some { s with unset := b.required.map (·.constant.toList) }
  | .unmark constant => some { s with unset := s.unset.filter (· ≠ constant) }

/-- A builder after a method, and whether the method came to its end. -/
def run (s : BuilderState) : List BuilderStep → BuilderState × Bool
  | [] => (s, true)
  | step :: steps =>
    match s.perform b argumentIsNull step with
    | some next => next.run steps
    | none => (s, false)

end BuilderState

/-! ## Calls -/

/-- The methods of a builder that assign its fields or mark properties. -/
def Blueprint.writers (b : Blueprint) : List Code :=
  b.properties.flatMap (Property.setters b) ++ [b.clear]

/-- A call of such a method. -/
structure BuilderCall (b : Blueprint) where
  method : Code
  argumentIsNull : Bool
  mem : method ∈ b.writers
  /-- A primitive is not `null`. -/
  typed : argumentIsNull = true → ∀ t ∈ method.parameters, t.isPrimitive = false

/-- A call without an argument, or with one that is not `null`. -/
def BuilderCall.ofMem {b : Blueprint} {method : Code} (mem : method ∈ b.writers) :
    BuilderCall b where
  method
  argumentIsNull := false
  mem
  typed h := absurd h Bool.false_ne_true

/-- A new builder, when its constructor has set the defaults. -/
def Blueprint.fresh (b : Blueprint) : BuilderState where
  nulls := (b.properties.filter fun p => p.isErased && !p.hasDefault).map (·.name.toList)
  unset := b.required.map (·.constant.toList)

namespace BuilderState

variable {b : Blueprint}

/-- A builder after a call, whether it throws or not. -/
def after (s : BuilderState) (call : BuilderCall b) : BuilderState :=
  (s.run b call.argumentIsNull call.method.steps).1

/-- A builder after calls. -/
def afterAll (s : BuilderState) (calls : List (BuilderCall b)) : BuilderState :=
  calls.foldl after s

/-- Whether a value can be built. -/
def Builds (b : Blueprint) (s : BuilderState) : Prop :=
  (s.run b false b.build.steps).2 = true

/-- The fields that are `null` in the value that is built. -/
def valueNulls (b : Blueprint) (s : BuilderState) : List (List Char) :=
  (b.valueConstructor.copies.filter fun fields => s.nulls.contains fields.2).map (·.1)

/-! ## What calls do -/

/-- The field of a property is assigned, and the property is no longer unset. -/
def assigned (s : BuilderState) (p : Property) : BuilderState where
  nulls := s.nulls.filter (· ≠ p.name.toList)
  unset := if p.tracksUnset then s.unset.filter (· ≠ p.constant.toList) else s.unset

/-- The field of a property is `null`. -/
def erased (s : BuilderState) (p : Property) : BuilderState :=
  { s with nulls := p.name.toList :: s.nulls }

/-- All properties are cleared, and the required ones are unset again. -/
def cleared (b : Blueprint) (s : BuilderState) : BuilderState where
  nulls := ((b.properties.filter (·.isErased)).map (·.name.toList)).reverse ++ s.nulls
  unset := if b.hasRequired then b.required.map (·.constant.toList) else s.unset

variable {p : Property}

theorem run_erase (argumentIsNull : Bool) (s : BuilderState) (properties : List Property)
    (steps : List BuilderStep) :
    s.run b argumentIsNull (properties.map (fun p => .erase p.name.toList) ++ steps) =
      run b argumentIsNull
        { s with nulls := (properties.map (·.name.toList)).reverse ++ s.nulls } steps := by
  induction properties generalizing s with
  | nil => rfl
  | cons p properties ih =>
    rw [List.map_cons, List.cons_append, run]
    show run b argumentIsNull (s.erased p) _ = _
    rw [ih, List.map_cons, List.reverse_cons, List.append_assoc]
    rfl

theorem after_clear (s : BuilderState) (hfactory : b.factory = none) {call : BuilderCall b}
    (h : call.method = b.clear) : s.after call = s.cleared b := by
  rw [after, h, b.steps_clear hfactory, run_erase, cleared]
  cases b.hasRequired <;> rfl

/-- A method that refuses `null` or takes a primitive stores its argument, unless it throws. -/
theorem after_store (s : BuilderState) {call : BuilderCall b} {checked : Bool} {t : JavaType}
    {steps : List BuilderStep} (hsteps : call.method.steps = .store p.name.toList checked :: steps)
    (hparameters : call.method.parameters = [t]) (ht : checked = false → t.isPrimitive = true) :
    s.after call = s ∨
      s.after call =
        (run b call.argumentIsNull { s with nulls := s.nulls.filter (· ≠ p.name.toList) }
          steps).1 := by
  rw [after, hsteps, run, perform]
  cases hnull : call.argumentIsNull with
  | false => exact .inr rfl
  | true =>
    cases checked with
    | true => exact .inl rfl
    | false =>
      have htyped : t.isPrimitive = false := by
        refine call.typed hnull t ?_
        rw [hparameters]
        exact List.mem_singleton_self t
      rw [ht rfl] at htyped
      cases htyped

theorem after_plainSetter (s : BuilderState) {setter : String} {call : BuilderCall b}
    (h : call.method = Accessors.plainSetter b p setter) :
    s.after call = s ∨ s.after call = s.assigned p := by
  have hsteps := Accessors.steps_plainSetter b p setter
  have hparameters := Accessors.parameters_plainSetter b p setter
  rw [← h] at hsteps hparameters
  have hprimitive : (!p.type.isPrimitive) = false → p.type.isPrimitive = true := by
    cases p.type.isPrimitive <;> decide
  refine (s.after_store hsteps hparameters hprimitive).imp_right fun hafter => ?_
  rw [hafter, assigned]
  cases p.tracksUnset <;> rfl

theorem after_optionalSetter (s : BuilderState) {methods : OptionalMethods} {e : Element}
    {call : BuilderCall b} (hp : p.tracksUnset = false)
    (h : call.method = Accessors.optionalSetter b p methods e) :
    s.after call = s ∨ s.after call = s.assigned p := by
  have hsteps := Accessors.steps_optionalSetter b p methods e
  have hparameters := Accessors.parameters_optionalSetter b p methods e
  rw [← h] at hsteps hparameters
  have hprimitive : e.isNullable = false → e.parameter.isPrimitive = true := by
    rw [Element.isNullable, Element.parameter]
    cases e.unboxed with
    | none => exact fun h => nomatch h
    | some primitive => exact fun _ => rfl
  refine (s.after_store hsteps hparameters hprimitive).imp_right fun hafter => ?_
  rw [hafter, assigned, hp]
  rfl

theorem after_optionalClear (s : BuilderState) {flavour : OptionalFlavour}
    {methods : OptionalMethods} {call : BuilderCall b} (h : call.method = Accessors.optionalClear b p flavour methods) :
    s.after call = s.erased p := by
  rw [after, h, Accessors.steps_optionalClear]
  rfl

/-- All that a call can do to a builder.  One that throws does nothing. -/
theorem after_cases (hfactory : b.factory = none) (s : BuilderState) (call : BuilderCall b) :
    s.after call = s ∨ (∃ p ∈ b.properties, s.after call = s.assigned p) ∨
      (∃ p ∈ b.properties, p.isNullable = true ∧ s.after call = s.erased p) ∨
        s.after call = s.cleared b := by
  obtain hsetter | hclear := List.mem_append.1 call.mem
  · obtain ⟨p, hp, hmethod⟩ := List.mem_flatMap.1 hsetter
    cases hstrategy : p.strategy with
    | plain setter hasDefault =>
      rw [Property.setters, hstrategy] at hmethod
      obtain hsame | hassigned := s.after_plainSetter (List.mem_singleton.1 hmethod)
      · exact .inl hsame
      · exact .inr (.inl ⟨p, hp, hassigned⟩)
    | optional flavour methods e =>
      have huntracked : p.tracksUnset = false := by
        rw [Property.tracksUnset, hstrategy]
        rfl
      have hnullable : p.isNullable = true := by
        rw [Property.isNullable, hstrategy]
        rfl
      rw [Property.setters, hstrategy] at hmethod
      obtain hset | herase := List.mem_pair.1 hmethod
      · obtain hsame | hassigned := s.after_optionalSetter huntracked hset
        · exact .inl hsame
        · exact .inr (.inl ⟨p, hp, hassigned⟩)
      · exact .inr (.inr (.inl ⟨p, hp, hnullable, s.after_optionalClear herase⟩))
    | list e | set e | map key value =>
      rw [Property.setters, hstrategy] at hmethod
      cases hmethod
  · exact .inr (.inr (.inr (s.after_clear hfactory (List.mem_singleton.1 hclear))))

/-! ## What calls keep -/

/-- Every field of a builder that is `null` may be, or its property is marked as unset. -/
def Safe (b : Blueprint) (s : BuilderState) : Prop :=
  ∀ p ∈ b.properties, p.name.toList ∈ s.nulls →
    p.isNullable = true ∨ p.tracksUnset = true ∧ p.constant.toList ∈ s.unset

theorem safe_fresh (b : Blueprint) : b.fresh.Safe b := by
  intro p hp hnull
  have hkept := (Blueprint.name_mem_map_filter _ hp).1 hnull
  rw [Bool.and_eq_true, Bool.not_eq_true'] at hkept
  obtain hnullable | htracked := (Property.isNullable_or_tracksUnset_iff hkept.1).2 hkept.2
  · exact .inl hnullable
  · exact .inr ⟨htracked, Blueprint.constant_mem_required hp htracked⟩

variable {s : BuilderState}

theorem Safe.assigned (h : s.Safe b) (hp : p ∈ b.properties) : (s.assigned p).Safe b := by
  intro q hq hnull
  obtain ⟨hnull, hother⟩ := List.mem_filter.1 hnull
  have hne : q ≠ p := by
    rintro rfl
    simp at hother
  obtain hnullable | ⟨htracked, hunset⟩ := h q hq hnull
  · exact .inl hnullable
  · refine .inr ⟨htracked, ?_⟩
    rw [BuilderState.assigned]
    split
    · next hset =>
      -- The constants of required properties are distinct.
      refine List.mem_filter.2 ⟨hunset, decide_eq_true fun hconstant => hne ?_⟩
      exact List.inj_on_of_nodup_map b.constants_nodup (List.mem_filter.2 ⟨hq, htracked⟩)
        (List.mem_filter.2 ⟨hp, hset⟩) (String.toList_inj.1 hconstant)
    · exact hunset

theorem Safe.erased (h : s.Safe b) (hp : p ∈ b.properties) (hnullable : p.isNullable = true) :
    (s.erased p).Safe b := by
  intro q hq hnull
  obtain hname | hnull := List.mem_cons.1 hnull
  · left
    rwa [List.inj_on_of_nodup_map b.names_nodup hq hp (String.toList_inj.1 hname)]
  · exact h q hq hnull

/-- Clearing keeps a builder safe unless it takes a default away. -/
theorem Safe.cleared (h : s.Safe b)
    (hdefaults : b.KeepsDefaults) :
    (s.cleared b).Safe b := by
  intro p hp hnull
  have hsafe : p.isNullable = true ∨ p.tracksUnset = true := by
    obtain herased | hbefore := List.mem_append.1 hnull
    · have herased := (Blueprint.name_mem_map_filter _ hp).1 (List.mem_reverse.1 herased)
      exact (Property.isNullable_or_tracksUnset_iff herased).2 (hdefaults p hp herased)
    · exact (h p hp hbefore).imp_right And.left
  obtain hnullable | htracked := hsafe
  · exact .inl hnullable
  · refine .inr ⟨htracked, ?_⟩
    rw [BuilderState.cleared, if_pos (Blueprint.hasRequired_of_tracksUnset hp htracked)]
    exact Blueprint.constant_mem_required hp htracked

theorem Safe.after (hfactory : b.factory = none)
    (hdefaults : b.KeepsDefaults) (h : s.Safe b)
    (call : BuilderCall b) : (s.after call).Safe b := by
  obtain hafter | ⟨p, hp, hafter⟩ | ⟨p, hp, hnullable, hafter⟩ | hafter :=
    s.after_cases hfactory call
  all_goals rw [hafter]
  · exact h
  · exact h.assigned hp
  · exact h.erased hp hnullable
  · exact h.cleared hdefaults

theorem Safe.afterAll (hfactory : b.factory = none)
    (hdefaults : b.KeepsDefaults) (h : s.Safe b)
    (calls : List (BuilderCall b)) : (s.afterAll calls).Safe b := by
  induction calls generalizing s with
  | nil => exact h
  | cons call calls ih => exact ih (h.after hfactory hdefaults call)

/-! ## Building -/

theorem builds_iff : s.Builds b ↔ (b.hasRequired = true → s.unset = []) := by
  rw [Builds, b.steps_build]
  cases b.hasRequired with
  | false => simp [run]
  | true =>
    cases hunset : s.unset <;> simp [run, perform, hunset]

theorem name_mem_valueNulls_iff (hp : p ∈ b.properties) :
    p.name.toList ∈ s.valueNulls b ↔ p.isCollection = false ∧ p.name.toList ∈ s.nulls := by
  rw [valueNulls, b.copies_valueConstructor, List.filter_map, List.filter_filter, List.map_map]
  refine (Blueprint.name_mem_map_filter _ hp).trans ?_
  simp [and_comm]

/-- A value that is built from a safe builder has no `null` in a field that may not be. -/
theorem Safe.isNullable_of_mem_valueNulls (h : s.Safe b) (hbuilds : s.Builds b)
    (hp : p ∈ b.properties) (hnull : p.name.toList ∈ s.valueNulls b) : p.isNullable = true := by
  obtain hnullable | ⟨htracked, hunset⟩ := h p hp ((name_mem_valueNulls_iff hp).1 hnull).2
  · exact hnullable
  · rw [builds_iff.1 hbuilds (Blueprint.hasRequired_of_tracksUnset hp htracked)] at hunset
    cases hunset

/-! ## Cleared defaults -/

/-- A required property can be set. -/
theorem exists_after_eq_assigned (hp : p ∈ b.required) :
    ∃ call : BuilderCall b, ∀ s : BuilderState, s.after call = s.assigned p := by
  obtain ⟨hp, htracked⟩ := List.mem_filter.1 hp
  cases hstrategy : p.strategy with
  | plain setter hasDefault =>
    have hmem : Accessors.plainSetter b p setter ∈ b.writers := by
      refine List.mem_append_left _ (List.mem_flatMap.2 ⟨p, hp, ?_⟩)
      rw [Property.setters, hstrategy]
      exact List.mem_singleton_self _
    refine ⟨.ofMem hmem, fun s => ?_⟩
    rw [after, BuilderCall.ofMem, Accessors.steps_plainSetter, htracked, run, perform]
    rw [assigned, htracked]
    rfl
  | optional flavour methods e | list e | set e | map key value =>
    rw [Property.tracksUnset, hstrategy] at htracked
    cases htracked

theorem exists_afterAll_eq_foldl {properties : List Property}
    (h : ∀ p ∈ properties, p ∈ b.required) :
    ∃ calls : List (BuilderCall b), ∀ s : BuilderState,
      s.afterAll calls = properties.foldl BuilderState.assigned s := by
  induction properties with
  | nil => exact ⟨[], fun _ => rfl⟩
  | cons p properties ih =>
    obtain ⟨hp, hproperties⟩ := List.forall_mem_cons.1 h
    obtain ⟨call, hcall⟩ := exists_after_eq_assigned hp
    obtain ⟨calls, hcalls⟩ := ih hproperties
    refine ⟨call :: calls, fun s => ?_⟩
    rw [afterAll, List.foldl_cons, List.foldl_cons, hcall]
    exact hcalls (s.assigned p)

theorem mem_nulls_foldl_assigned {properties : List Property} {field : List Char}
    (hnull : field ∈ s.nulls) (h : ∀ p ∈ properties, p.name.toList ≠ field) :
    field ∈ (properties.foldl BuilderState.assigned s).nulls := by
  induction properties generalizing s with
  | nil => exact hnull
  | cons p properties ih =>
    obtain ⟨hp, hproperties⟩ := List.forall_mem_cons.1 h
    refine ih ?_ hproperties
    exact List.mem_filter.2 ⟨hnull, decide_eq_true hp.symm⟩

theorem mem_unset_of_foldl_assigned {properties : List Property} {constant : List Char}
    (htracked : ∀ p ∈ properties, p.tracksUnset = true)
    (hunset : constant ∈ (properties.foldl BuilderState.assigned s).unset) :
    constant ∈ s.unset ∧ ∀ p ∈ properties, p.constant.toList ≠ constant := by
  induction properties generalizing s with
  | nil => exact ⟨hunset, fun _ hp => nomatch hp⟩
  | cons p properties ih =>
    obtain ⟨hp, hproperties⟩ := List.forall_mem_cons.1 htracked
    obtain ⟨hleft, hothers⟩ := ih hproperties hunset
    rw [BuilderState.assigned, if_pos hp] at hleft
    obtain ⟨hleft, hother⟩ := List.mem_filter.1 hleft
    refine ⟨hleft, List.forall_mem_cons.2 ⟨?_, hothers⟩⟩
    exact (of_decide_eq_true hother).symm

/-- When a builder is cleared and all required properties are set, a value can be built, and a
default that was cleared is `null` in it. -/
theorem exists_null_of_hasDefault (hfactory : b.factory = none) (hp : p ∈ b.properties)
    (herased : p.isErased = true) (hdefault : p.hasDefault = true) :
    ∃ calls : List (BuilderCall b), (b.fresh.afterAll calls).Builds b ∧
      p.name.toList ∈ (b.fresh.afterAll calls).valueNulls b := by
  obtain ⟨hstored, -, huntracked⟩ := Property.plain_of_hasDefault hdefault
  have hrequired : ∀ q ∈ b.required, q ∈ b.properties ∧ q.tracksUnset = true :=
    fun q hq => List.mem_filter.1 hq
  obtain ⟨setters, hsetters⟩ := exists_afterAll_eq_foldl (b := b) fun q hq => hq
  have hclear : b.clear ∈ b.writers := List.mem_append_right _ (List.mem_singleton_self _)
  have hclearing : b.fresh.after (.ofMem hclear) = b.fresh.cleared b :=
    b.fresh.after_clear hfactory rfl
  have hafter : b.fresh.afterAll (.ofMem hclear :: setters) =
      b.required.foldl BuilderState.assigned (b.fresh.cleared b) := by
    rw [← hsetters, ← hclearing]
    rfl
  refine ⟨.ofMem hclear :: setters, ?_⟩
  rw [hafter]
  refine ⟨?builds, ?null⟩
  case builds =>
    refine builds_iff.2 fun hany => List.eq_nil_iff_forall_not_mem.2 fun constant hunset => ?_
    obtain ⟨hmarked, hothers⟩ :=
      mem_unset_of_foldl_assigned (fun q hq => (hrequired q hq).2) hunset
    rw [cleared, if_pos hany] at hmarked
    obtain ⟨q, hq, hconstant⟩ := List.mem_map.1 hmarked
    exact hothers q hq hconstant
  case null =>
    have hcleared : p.name.toList ∈ (b.fresh.cleared b).nulls :=
      List.mem_append_left _ (List.mem_reverse.2 ((Blueprint.name_mem_map_filter _ hp).2 herased))
    refine (name_mem_valueNulls_iff hp).2 ⟨hstored, mem_nulls_foldl_assigned hcleared ?_⟩
    intro q hq hname
    -- The setters are those of required properties, and a default is not required.
    obtain ⟨hq, htracked⟩ := hrequired q hq
    have hsame : q = p :=
      List.inj_on_of_nodup_map b.names_nodup hq hp (String.toList_inj.1 hname)
    rw [hsame, huntracked] at htracked
    cases htracked

end BuilderState

/-! ## All builders without a factory -/

namespace Blueprint

variable {b : Blueprint}

/-- A value that is built after any calls has no `null` in a field that may not be. -/
def BuildsNoNull (b : Blueprint) : Prop :=
  ∀ calls : List (BuilderCall b), (b.fresh.afterAll calls).Builds b → ∀ p ∈ b.properties,
    p.name.toList ∈ (b.fresh.afterAll calls).valueNulls b → p.isNullable = true

theorem buildsNoNull_iff (hfactory : b.factory = none) : b.BuildsNoNull ↔ b.KeepsDefaults := by
  constructor
  · intro h p hp herased
    rw [← Bool.not_eq_true]
    intro hdefault
    obtain ⟨calls, hbuilds, hnull⟩ :=
      BuilderState.exists_null_of_hasDefault hfactory hp herased hdefault
    have hnullable := h calls hbuilds p hp hnull
    rw [(Property.plain_of_hasDefault hdefault).2.1] at hnullable
    cases hnullable
  · intro hdefaults calls hbuilds p hp hnull
    have hsafe := (BuilderState.safe_fresh b).afterAll hfactory hdefaults calls
    exact hsafe.isNullable_of_mem_valueNulls hbuilds hp hnull

theorem erase_mem_clear_iff (hfactory : b.factory = none) {p : Property} (hp : p ∈ b.properties) :
    .erase p.name.toList ∈ b.clear.steps ↔ p.isErased = true := by
  have hmarks : .erase p.name.toList ∉
      if b.hasRequired then [BuilderStep.unmarkAll, .markAll] else [] := by
    split <;> simp
  rw [b.steps_clear hfactory, List.mem_append, or_iff_left hmarks,
    ← name_mem_map_filter (·.isErased) hp]
  simp only [List.mem_map, BuilderStep.erase.injEq]

/-- The required properties are marked at the end of the method, if there are any. -/
theorem marks_suffix_clear (hfactory : b.factory = none) {p : Property} (hp : p ∈ b.properties)
    (htracked : p.tracksUnset = true) : [.unmarkAll, .markAll] <:+ b.clear.steps := by
  rw [b.steps_clear hfactory, if_pos (hasRequired_of_tracksUnset hp htracked)]
  exact List.suffix_append _ _

/-- No other method of a builder has steps. -/
theorem steps_members (b : Blueprint) :
    Code.steps (joined [b.accessors, b.mergeFromValue, b.mergeFromBuilder, b.clear]) =
      b.writers.flatMap Code.steps := by
  have haccessors : b.accessors.steps =
      (b.properties.flatMap (Property.setters b)).flatMap Code.steps := by
    rw [accessors, Code.steps, List.filterMap_flatMap, List.flatMap_assoc]
    simp only [Property.steps_accessors]
  rw [writers, List.flatMap_append, ← haccessors]
  simp [steps_mergeFromValue, steps_mergeFromBuilder]

end Blueprint

/-- Without a factory, `clear` stores `null` in the fields of optional properties and of plain ones
that are no primitives.  Each of them may be `null` or is marked as unset again by the end of the
method, exactly unless it has a default.  So values that are built after any calls have no `null` in
a field that may not be exactly if no default is cleared. -/
theorem cleared_nulls_accounted_iff (b : Blueprint) (hfactory : b.factory = none) :
    Code.steps (joined [b.accessors, b.mergeFromValue, b.mergeFromBuilder, b.clear]) =
      b.writers.flatMap Code.steps ∧
    (∀ p ∈ b.properties, .erase p.name.toList ∈ b.clear.steps ↔ p.isErased = true) ∧
    (∀ p ∈ b.properties, .erase p.name.toList ∈ b.clear.steps →
      (p.isNullable = true ∨ p.tracksUnset = true ∧ [.unmarkAll, .markAll] <:+ b.clear.steps ↔
        p.hasDefault = false)) ∧
    (b.BuildsNoNull ↔ b.KeepsDefaults) := by
  refine ⟨b.steps_members, ?erased, ?accounted, Blueprint.buildsNoNull_iff hfactory⟩
  case erased =>
    intro p hp
    exact Blueprint.erase_mem_clear_iff hfactory hp
  case accounted =>
    intro p hp hstep
    have herased := (Blueprint.erase_mem_clear_iff hfactory hp).1 hstep
    rw [← Property.isNullable_or_tracksUnset_iff herased]
    refine or_congr_right (and_iff_left_of_imp fun htracked => ?_)
    exact Blueprint.marks_suffix_clear hfactory hp htracked

/-- A required name, and an age that is a primitive with a default. -/
theorem cleared_nulls_accounted_iff_person :
    let declaration : TypeDeclaration :=
      { name := "com.example.Person"
        builder := { factory := none }
        properties :=
          [{ getter := "getName", type := "String" },
            { getter := "getAge", type := "int", hasDefault := true }] }
    ∃ conversion, declaration.convert = .ok conversion ∧ conversion.blueprint.factory = none ∧
      conversion.blueprint.BuildsNoNull := by
  intro declaration
  have hconverted : (declaration.convert.toOption.map fun conversion =>
      (conversion.blueprint.factory,
        conversion.blueprint.properties.all fun p => !p.isErased || !p.hasDefault)) =
      some (none, true) := by
    decide +kernel
  obtain ⟨conversion, hconvert, hresult⟩ := map_toOption_eq_some_iff.1 hconverted
  obtain ⟨hfactory, hall⟩ := Prod.mk.inj hresult
  obtain ⟨-, -, -, hbuilds⟩ := cleared_nulls_accounted_iff conversion.blueprint hfactory
  refine ⟨conversion, hconvert, hfactory, hbuilds.2 fun p hp herased => ?_⟩
  simpa [herased] using List.all_eq_true.1 hall p hp

/-- A name with a default.  It is neither optional nor required, so when it is cleared a value can
be built whose name is `null`. -/
theorem cleared_default_is_null :
    let declaration : TypeDeclaration :=
      { name := "com.example.Person"
        builder := { factory := none }
        properties := [{ getter := "getName", type := "String", hasDefault := true }] }
    ∃ conversion, declaration.convert = .ok conversion ∧ conversion.blueprint.factory = none ∧
      (∃ p ∈ conversion.blueprint.properties,
        .erase p.name.toList ∈ conversion.blueprint.clear.steps ∧
          p.tracksUnset = false ∧ p.isNullable = false) ∧
      ¬conversion.blueprint.BuildsNoNull := by
  intro declaration
  have hconverted : (declaration.convert.toOption.map fun conversion =>
      (conversion.blueprint.factory,
        conversion.blueprint.properties.map fun p => (p.isErased, p.hasDefault))) =
      some (none, [(true, true)]) := by
    decide +kernel
  obtain ⟨conversion, hconvert, hresult⟩ := map_toOption_eq_some_iff.1 hconverted
  obtain ⟨hfactory, hproperties⟩ := Prod.mk.inj hresult
  obtain ⟨p, hone, hp⟩ := List.map_eq_singleton_iff.1 hproperties
  obtain ⟨herased, hdefault⟩ := Prod.mk.inj hp
  have hmem : p ∈ conversion.blueprint.properties := by
    rw [hone]
    exact List.mem_singleton_self p
  obtain ⟨-, hnullable, htracked⟩ := Property.plain_of_hasDefault hdefault
  refine ⟨conversion, hconvert, hfactory, ⟨p, hmem, ?erases, htracked, hnullable⟩, ?builds⟩
  case erases => exact (Blueprint.erase_mem_clear_iff hfactory hmem).2 herased
  case builds =>
    intro hbuilds
    have hkept := (Blueprint.buildsNoNull_iff hfactory).1 hbuilds p hmem herased
    rw [hdefault] at hkept
    cases hkept

end ValueBuilder
