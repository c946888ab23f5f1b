import ValueBuilder.Proofs.Java.ClassNames

/-!
# Qualified names are split without loss

A text is read as a class exactly if each of its parts between dots is an identifier, and the text
is then the qualified name of the class (`ClassName.qualifiedName_of_parse`).  In the other
direction a class is read back from its qualified name if the name shows where the class part
begins: behind small package segments, with a capital (`ClassName.IsConventional`).  Member classes
of such a class are read back too.
-/

namespace ValueBuilder.Java.ClassName

/-! ## What is read -/

/-- The segment is no identifier, and all segments before it are. -/
def IsFirstInvalid (segments : List String) (segment : String) : Prop :=
  ∃ before behind, segments = before ++ segment :: behind ∧
    (∀ s ∈ before, isIdentifier s = true) ∧ isIdentifier segment = false

theorem isFirstInvalid_iff {segments : List String} {segment : String} :
    IsFirstInvalid segments segment ↔ segments.find? (!isIdentifier ·) = some segment := by
  rw [List.find?_eq_some_iff_append, IsFirstInvalid]
  constructor
  · rintro ⟨before, behind, hsegments, hbefore, hsegment⟩
    exact ⟨by simp [hsegment], before, behind, hsegments, fun s hs => by simp [hbefore s hs]⟩
  · rintro ⟨hsegment, before, behind, hsegments, hbefore⟩
    exact ⟨before, behind, hsegments, fun s hs => by simpa using hbefore s hs,
      by simpa using hsegment⟩

theorem parse_eq_error_iff_of_parts {text first : String} {rest : List String}
    {fault : InvalidSegment} (hparts : parts '.' text = first :: rest) :
    ClassName.parse text = .error fault ↔
      fault.input = text ∧ IsFirstInvalid (first :: rest) fault.segment := by
  rw [parse_of_parts hparts, isFirstInvalid_iff]
  split
  · next segment hfind =>
    rw [hfind, Except.error.injEq, Option.some.injEq]
    constructor
    · rintro rfl
      exact ⟨rfl, rfl⟩
    · rintro ⟨rfl, rfl⟩
      rfl
  · next hfind => simp [hfind]

/-! ## What is read back -/

/-- The qualified name of the class shows where its class part begins. -/
structure IsConventional (c : ClassName) : Prop where
  package : ∃ segments : List String, (∀ s ∈ segments, IsPackageSegment s) ∧
    c.package = ".".intercalate segments
  names : ∀ s ∈ c.names, isIdentifier s = true
  capital : startsWithCapital c.outermost = true

theorem IsConventional.nested {c : ClassName} (h : c.IsConventional) {name : String}
    (hname : isIdentifier name = true) : (c.nested name).IsConventional := by
  refine ⟨h.package, fun s hs => ?_, h.capital⟩
  have hs : s ∈ c.names ++ [name] := hs
  rcases List.mem_append.1 hs with hold | hnew
  · exact h.names s hold
  · exact List.mem_singleton.1 hnew ▸ hname

theorem IsConventional.foldl_nested {c : ClassName} (h : c.IsConventional) {inner : List String}
    (hinner : ∀ name ∈ inner, isIdentifier name = true) :
    (inner.foldl ClassName.nested c).IsConventional := by
  induction inner generalizing c with
  | nil => exact h
  | cons name inner ih =>
    obtain ⟨hname, hinner⟩ := List.forall_mem_cons.1 hinner
    exact ih (h.nested hname) hinner

/-- A class is read back from its qualified name. -/
theorem IsConventional.parse_qualifiedName {c : ClassName} (h : c.IsConventional) :
    ClassName.parse c.qualifiedName = .ok c := by
  obtain ⟨segments, hsegments, hpackage⟩ := h.package
  have hlower : ∀ s ∈ segments, startsWithCapital s = false := fun s hs => (hsegments s hs).2
  obtain ⟨first, rest, hsplit⟩ := List.exists_cons_of_ne_nil
    (List.append_ne_nil_of_right_ne_nil segments (List.cons_ne_nil c.outermost c.inner))
  have hidentifiers : ∀ s ∈ first :: rest, isIdentifier s = true := by
    intro s hs
    rw [← hsplit, List.mem_append] at hs
    exact hs.elim (fun hs => (hsegments s hs).1) (h.names s)
  have hne : ∀ s ∈ segments, s ≠ "" := fun s hs => ne_empty_of_isIdentifier (hsegments s hs).1
  rw [qualifiedName_eq_intercalate hpackage hne, ClassName.names, hsplit,
    parse_intercalate hidentifiers, ofSegments, ofSegmentsBelow_eq hsplit.symm hlower h.capital,
    List.nil_append, ← hpackage]

/-- A text is read exactly if all its segments are identifiers, and the fault of any other text is
the first segment that is none.  A class that is read has the text for its qualified name.  A class
whose name shows where it begins is read back from its name, and so are its member classes. -/
theorem names_split_losslessly (text : String) (c : ClassName) :
    (∃ segments : List String, segments ≠ [] ∧ (∀ s ∈ segments, '.' ∉ s.toList) ∧
      text = ".".intercalate segments ∧
      ((∃ d, ClassName.parse text = .ok d) ↔ ∀ s ∈ segments, isIdentifier s = true) ∧
      ∀ fault, ClassName.parse text = .error fault ↔
        fault.input = text ∧ IsFirstInvalid segments fault.segment) ∧
    (∀ d, ClassName.parse text = .ok d → d.qualifiedName = text) ∧
    (c.IsConventional → ∀ inner : List String, (∀ name ∈ inner, isIdentifier name = true) →
      ClassName.parse (inner.foldl ClassName.nested c).qualifiedName =
        .ok (inner.foldl ClassName.nested c)) := by
  obtain ⟨first, rest, hparts⟩ := exists_parts '.' text
  refine ⟨⟨parts '.' text, by simp [hparts], fun s => notMem_of_mem_parts,
    (intercalate_parts '.' text).symm, ?_, ?_⟩, fun d => qualifiedName_of_parse,
    fun h inner hinner => (h.foldl_nested hinner).parse_qualifiedName⟩
  · rw [hparts]
    constructor
    · rintro ⟨d, hd⟩
      exact ((parse_eq_ok_iff_of_parts hparts).1 hd).1
    · intro hvalid
      exact ⟨_, (parse_eq_ok_iff_of_parts hparts).2 ⟨hvalid, rfl⟩⟩
  · rw [hparts]
    exact fun fault => parse_eq_error_iff_of_parts hparts

/-- A nested class of a package, and two classes inside it. -/
theorem names_split_losslessly_entry :
    let map : ClassName := ⟨"java.util", "Map", []⟩
    let inner := ["Entry", "größe"]
    map.IsConventional ∧ (∀ name ∈ inner, isIdentifier name = true) ∧
      ClassName.parse "java.util.Map.Entry.größe" = .ok ⟨"java.util", "Map", inner⟩ ∧
      (ClassName.mk "java.util" "Map" inner).qualifiedName = "java.util.Map.Entry.größe" := by
  intro map inner
  have hmap : map.IsConventional := by
    refine ⟨⟨["java", "util"], ?_, by decide⟩, by decide +kernel, by decide⟩
    simp only [List.forall_mem_cons, IsPackageSegment]
    decide
  have hinner : ∀ name ∈ inner, isIdentifier name = true := by decide +kernel
  have hback := (names_split_losslessly "java.util.Map" map).2.2 hmap inner hinner
  exact ⟨hmap, hinner, hback,
    (names_split_losslessly "java.util.Map.Entry.größe" map).2.1 _ hback⟩

end ValueBuilder.Java.ClassName
