import Mathlib.Order.Bounds.Basic
import ValueBuilder.Proofs.Builder.LocalNames

/-!
# Fresh names

A local variable is renamed around the properties: while some property has its name, an underscore
is put in front of it.

* `Renames` follows the renaming turn by turn, and `renames_iff` says where it ends: at the least
  number of underscores that gives a name that is not taken.
* `exists_renames_freshName`: it ends after at most one turn for each name that is taken.
* `stem_localName`: what stands behind the underscores stays, so locals that differ there differ.
* `nodup_locals_of_mem_wholeMethods` puts both together for the methods of a generated class.
-/

namespace ValueBuilder.Blueprint

/-! ## Renaming turn by turn -/

/-- A name behind a number of underscores. -/
def withUnderscores (count : Nat) (name : String) : String :=
  String.ofList (List.replicate count '_' ++ name.toList)

/-- The renaming of a variable.  A name that is taken gets an underscore more, and the first one
that is not taken stays; `count` is the number of turns. -/
inductive Renames (taken : List String) : Nat → String → String → Prop
  | stop {name : String} (free : name ∉ taken) : Renames taken 0 name name
  | turn {count : Nat} {name result : String} (occupied : name ∈ taken)
      (rest : Renames taken count ("_" ++ name) result) : Renames taken (count + 1) name result

variable {taken : List String} {count : Nat} {name result : String}

theorem withUnderscores_zero (name : String) : withUnderscores 0 name = name := by
  simp [withUnderscores]

/-- The underscore that is put in front first is the last one before the name. -/
theorem withUnderscores_succ (count : Nat) (name : String) :
    withUnderscores (count + 1) name = withUnderscores count ("_" ++ name) := by
  have hunderscore : "_".toList = ['_'] := rfl
  unfold withUnderscores
  rw [String.toList_append, hunderscore, List.replicate_succ', List.append_assoc]

/-- A count is least for a name that is taken exactly if it is one more than the least count for the
name behind one underscore. -/
theorem isLeast_succ_iff (hname : name ∈ taken) :
    IsLeast {k | withUnderscores k name ∉ taken} (count + 1) ↔
      IsLeast {k | withUnderscores k ("_" ++ name) ∉ taken} count := by
  constructor
  · intro h
    constructor
    · show withUnderscores count ("_" ++ name) ∉ taken
      rw [← withUnderscores_succ]
      exact h.1
    · intro k hk
      have hk' : withUnderscores (k + 1) name ∉ taken := by
        rw [withUnderscores_succ]
        exact hk
      have hle : count + 1 ≤ k + 1 := h.2 hk'
      omega
  · intro h
    constructor
    · show withUnderscores (count + 1) name ∉ taken
      rw [withUnderscores_succ]
      exact h.1
    · intro k hk
      cases k with
      | zero =>
        have hfree : name ∉ taken := by
          rw [← withUnderscores_zero name]
          exact hk
        exact absurd hname hfree
      | succ k =>
        have hk' : withUnderscores k ("_" ++ name) ∉ taken := by
          rw [← withUnderscores_succ]
          exact hk
        have hle : count ≤ k := h.2 hk'
        omega

/-- Renaming ends at the least number of underscores whose name is not taken. -/
theorem renames_iff :
    Renames taken count name result ↔
      result = withUnderscores count name ∧
        IsLeast {k | withUnderscores k name ∉ taken} count := by
  constructor
  · intro h
    induction h with
    | stop free =>
      rename_i name
      have hzero : withUnderscores 0 name ∉ taken := by
        rwa [withUnderscores_zero]
      exact ⟨(withUnderscores_zero name).symm, hzero, fun k _ => Nat.zero_le k⟩
    | turn occupied _ ih =>
      rw [withUnderscores_succ, isLeast_succ_iff occupied]
      exact ih
  · intro h
    induction count generalizing name with
    | zero =>
      obtain ⟨hresult, hleast⟩ := h
      have hfree : withUnderscores 0 name ∉ taken := hleast.1
      rw [withUnderscores_zero] at hresult hfree
      rw [hresult]
      exact .stop hfree
    | succ count ih =>
      have hname : name ∈ taken := by
        by_contra hfree
        have hzero : withUnderscores 0 name ∉ taken := by
          rwa [withUnderscores_zero]
        have hle : count + 1 ≤ 0 := h.2.2 hzero
        omega
      rw [withUnderscores_succ, isLeast_succ_iff hname] at h
      exact .turn hname (ih h)

/-! ## The end of renaming -/

/-- A name that is shorter than the one that is renamed does not come up any more. -/
theorem Renames.of_erase {short : String} (h : Renames (taken.erase short) count name result)
    (hlength : short.length < name.length) : Renames taken count name result := by
  have hne {name : String} (hlength : short.length < name.length) : name ≠ short := by
    intro hsame
    rw [hsame] at hlength
    omega
  induction h with
  | stop free =>
    apply Renames.stop
    intro hname
    exact free ((List.mem_erase_of_ne (hne hlength)).2 hname)
  | @turn count name result occupied _ ih =>
    have hlonger : ("_" ++ name).length = 1 + name.length := String.length_append _ _
    apply Renames.turn (List.mem_of_mem_erase occupied)
    apply ih
    omega

/-- Each turn passes another name that is taken, so there are no more turns than such names. -/
theorem exists_renames_freshName (taken : List String) (name : String) :
    ∃ count ≤ taken.length, Renames taken count name (freshName taken name) := by
  fun_induction freshName taken name with
  | case1 taken name hmem ih =>
    obtain ⟨count, hcount, hrest⟩ := ih
    have hlength : (taken.erase name).length = taken.length - 1 := List.length_erase_of_mem hmem
    have hpos : 0 < taken.length := List.length_pos_of_mem hmem
    have hlonger : ("_" ++ name).length = 1 + name.length := String.length_append _ _
    refine ⟨count + 1, by omega, .turn hmem (hrest.of_erase ?_)⟩
    omega
  | case2 taken name hmem => exact ⟨0, Nat.zero_le _, .stop hmem⟩

/-! ## What stays of a name -/

/-- What stands behind the underscores that a name begins with. -/
def stem (name : String) : List Char :=
  name.toList.dropWhile (· == '_')

theorem stem_withUnderscores (count : Nat) (name : String) :
    stem (withUnderscores count name) = stem name := by
  unfold stem withUnderscores
  simp

variable (b : Blueprint)

theorem stem_localName (preferred : String) : stem (b.localName preferred) = stem preferred := by
  obtain ⟨count, -, hrenames⟩ := exists_renames_freshName (b.properties.map (·.name)) preferred
  have hresult : b.localName preferred = withUnderscores count preferred :=
    (renames_iff.1 hrenames).1
  rw [hresult, stem_withUnderscores]

theorem localName_ne_localName {preferred other : String} (h : stem preferred ≠ stem other) :
    b.localName preferred ≠ b.localName other := by
  intro hsame
  apply h
  rw [← b.stem_localName preferred, hsame, b.stem_localName]

/-- Two locals of one scope and the properties have distinct names. -/
theorem nodup_localNames {preferred other : String} (h : stem preferred ≠ stem other) :
    (b.localName preferred :: b.localName other :: b.properties.map (·.name)).Nodup := by
  have hfresh (preferred : String) : b.localName preferred ∉ b.properties.map (·.name) :=
    freshName_notMem _ preferred
  rw [List.nodup_cons, List.nodup_cons, List.mem_cons, not_or]
  exact ⟨⟨b.localName_ne_localName h, hfresh preferred⟩, hfresh other, b.names_nodup⟩

/-! ## The locals of a method -/

/-- No method that concerns all properties declares a variable twice. -/
theorem nodup_locals_of_mem_wholeMethods {make : Blueprint → Code} (hmake : make ∈ b.wholeMethods) :
    (make b).locals.Nodup := by
  have hpair {preferred other : String} (h : stem preferred ≠ stem other) :
      [(b.localName preferred).toList, (b.localName other).toList].Nodup := by
    have hne := b.localName_ne_localName h
    simpa using fun hsame => hne (String.toList_inj.1 hsame)
  simp only [wholeMethods, List.mem_append, List.mem_cons, List.not_mem_nil, or_false] at hmake
  rcases hmake with (rfl | rfl | rfl | rfl | rfl | rfl | rfl) | hmake
  · have hlocals : b.mergeFromValue.locals = ["value".toList] := by
      rw [Code.locals, uses_mergeFromValue]
      simp [Use.declared?]
    rw [hlocals]
    exact List.nodup_singleton _
  · rw [locals_mergeFromBuilder]
    split
    · exact hpair (by decide)
    · exact List.nodup_singleton _
  · rw [locals_clear]
    split
    · exact List.nodup_singleton _
    · exact List.nodup_nil
  · rw [locals_equals _ _ _ (Statement.declared_of_opening rfl rfl)]
    exact hpair (by decide)
  · rw [locals_valueHash]
    exact List.nodup_nil
  · rw [locals_partialEquals]
    exact hpair (by decide)
  · rw [locals_partialHash]
    exact List.nodup_singleton _
  · obtain ⟨-, factory, -, rfl⟩ := mem_instantiations.1 hmake
    have hnames : (b.streamReader :: b.streamBuilder :: b.properties.map (·.name)).Nodup :=
      b.nodup_localNames (by decide)
    have hlocals : (b.instantiate factory).locals =
        (b.streamReader :: b.streamBuilder :: b.properties.map (·.name)).map String.toList := by
      rw [locals_instantiate, List.map_cons, List.map_cons, List.map_map]
      rfl
    rw [hlocals]
    exact hnames.map fun _ _ => String.toList_inj.1

/-- A local variable gets the least number of underscores that makes its name that of no property,
and it takes no more turns to find it than there are properties.  Names that differ behind their
underscores stay different, so the locals of one method are different from each other and from every
property. -/
theorem local_names_fresh_and_least (b : Blueprint) :
    (∀ preferred, ∃ count ≤ b.properties.length,
      Renames (b.properties.map (·.name)) count preferred (b.localName preferred) ∧
        b.localName preferred = withUnderscores count preferred ∧
        IsLeast {k | ∀ p ∈ b.properties, p.name ≠ withUnderscores k preferred} count) ∧
    (∀ preferred other, stem preferred ≠ stem other →
      b.localName preferred ≠ b.localName other) ∧
    (b.template :: Property.templateUnset b :: b.properties.map (·.name)).Nodup ∧
    (b.equalsArgument :: b.equalsOther :: b.properties.map (·.name)).Nodup ∧
    (b.streamReader :: b.streamBuilder :: b.properties.map (·.name)).Nodup ∧
    ∀ make ∈ b.wholeMethods, (make b).locals.Nodup := by
  refine ⟨?turns, fun _ _ => b.localName_ne_localName, ?template, ?equals, ?stream,
    fun _ => b.nodup_locals_of_mem_wholeMethods⟩
  case turns =>
    intro preferred
    obtain ⟨count, hcount, hrenames⟩ :=
      exists_renames_freshName (b.properties.map (·.name)) preferred
    obtain ⟨hresult, hleast⟩ := renames_iff.1 hrenames
    rw [List.length_map] at hcount
    refine ⟨count, hcount, hrenames, hresult, ?_⟩
    simpa [List.mem_map] using hleast
  case template => exact b.nodup_localNames (by decide)
  case equals => exact b.nodup_localNames (by decide)
  case stream => exact b.nodup_localNames (by decide)

/-- Properties that have the names of a local, without an underscore and with one. -/
theorem local_names_fresh_and_least_clash :
    let target : Java.ClassName := .topLevel "com.example" "Person"
    let text : Java.JavaType := .declared (.topLevel "java.lang" "String") []
    let template : Property := .ofGetter "template" "template" text false
    let renamed : Property := .ofGetter "_template" "_template" text true
    let b : Blueprint :=
      ⟨target, false, defaultBuilder target, some .constructor, defaultGenerated target,
        [template, renamed], false, false, false, by decide, by decide, by decide⟩
    stem "template" ≠ stem "_templateUnset" ∧
      b.localName "template" ≠ b.localName "_templateUnset" ∧
      b.localName "template" = "__template" ∧ mergeFromBuilder ∈ b.wholeMethods ∧
      b.mergeFromBuilder.locals.Nodup := by
  intro target text template renamed b
  have hstem : stem "template" ≠ stem "_templateUnset" := by decide
  have hmem : mergeFromBuilder ∈ b.wholeMethods := .tail _ (.head _)
  obtain ⟨hturns, hdistinct, -, -, -, hlocals⟩ := local_names_fresh_and_least b
  obtain ⟨count, -, -, hresult, hleast⟩ := hturns "template"
  have htwo : IsLeast {k | ∀ p ∈ b.properties, p.name ≠ withUnderscores k "template"} 2 := by
    constructor
    · show ∀ p ∈ b.properties, p.name ≠ "__template"
      decide
    · intro k hk
      by_contra hless
      obtain rfl | rfl : k = 0 ∨ k = 1 := by omega
      · exact hk template (.head _) rfl
      · exact hk renamed (.tail _ (.head _)) rfl
  rw [hleast.unique htwo] at hresult
  exact ⟨hstem, hdistinct _ _ hstem, hresult, hmem, hlocals _ hmem⟩

end ValueBuilder.Blueprint
