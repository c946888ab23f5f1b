import ValueBuilder.Java.ClassName
import ValueBuilder.Proofs.Text.Parts

/-!
# Packages and classes of qualified names

How the segments of a qualified name split into a package and a class.  The split is stable: the
segments of the qualified name of the class are the segments that were read, so a class is written
as it was read (`ClassName.qualifiedName_of_parse`).
-/

namespace ValueBuilder.Java

/-- Whether the text may be a segment of a package: an identifier that no class is taken to be
named by. -/
def IsPackageSegment (segment : String) : Prop :=
  isIdentifier segment = true ∧ startsWithCapital segment = false

/-- Dotted segments of a package, at least one of them. -/
def IsPackage (package : String) : Prop :=
  ∃ segments : List String, segments ≠ [] ∧ (∀ s ∈ segments, IsPackageSegment s) ∧
    package = ".".intercalate segments

theorem ne_empty_of_isIdentifier {s : String} (h : isIdentifier s = true) : s ≠ "" := by
  rintro rfl
  exact absurd h (by decide)

theorem dot_notMem_of_isIdentifier {s : String} (h : isIdentifier s = true) : '.' ∉ s.toList := by
  intro hdot
  have hpart : isIdentifierPart '.' = true :=
    List.all_eq_true.1 (all_isIdentifierPart_of_spellsIdentifier h) '.' hdot
  exact absurd hpart (by decide)

theorem intercalate_ne_empty {first : String} {rest : List String} (h : first ≠ "") :
    ".".intercalate (first :: rest) ≠ "" := by
  cases rest with
  | nil => simpa using h
  | cons next rest => simp [h]

namespace ClassName

theorem topLevelClass_eq_iff {c d : ClassName} :
    c.topLevelClass = d.topLevelClass ↔ c.package = d.package ∧ c.outermost = d.outermost := by
  simp [topLevelClass]

theorem simpleName_nested (c : ClassName) (name : String) : (c.nested name).simpleName = name := by
  simp [simpleName, nested]

/-! ## The split -/

/-- Where the class part begins: at the first segment with a capital, or at the last segment. -/
theorem ofSegmentsBelow_split (package : List String) (first : String) (rest : List String) :
    ∃ lower : List String,
      first :: rest = lower ++ (ofSegmentsBelow package first rest).names ∧
      (ofSegmentsBelow package first rest).package = ".".intercalate (package ++ lower) ∧
      (∀ s ∈ lower, startsWithCapital s = false) ∧
      (startsWithCapital (ofSegmentsBelow package first rest).outermost = true ∨
        (ofSegmentsBelow package first rest).inner = []) := by
  induction rest generalizing package first with
  | nil => exact ⟨[], by simp [ofSegmentsBelow, topLevel, names]⟩
  | cons next rest ih =>
    rw [ofSegmentsBelow]
    split
    · next hcapital => exact ⟨[], by simp [names, hcapital]⟩
    · next hcapital =>
      obtain ⟨lower, hsegments, hpackage, hlower, hclass⟩ := ih (package ++ [first]) next
      refine ⟨first :: lower, by rw [hsegments]; rfl, by simp [hpackage], ?_, hclass⟩
      exact List.forall_mem_cons.2 ⟨by simpa using hcapital, hlower⟩

/-- Small segments before a capital one are the package. -/
theorem ofSegmentsBelow_eq {package lower inner : List String} {first outermost : String}
    {rest : List String} (hsegments : first :: rest = lower ++ outermost :: inner)
    (hlower : ∀ s ∈ lower, startsWithCapital s = false)
    (hcapital : startsWithCapital outermost = true) :
    ofSegmentsBelow package first rest =
      ⟨".".intercalate (package ++ lower), outermost, inner⟩ := by
  induction lower generalizing package first rest with
  | nil =>
    obtain ⟨rfl, rfl⟩ := List.cons.inj hsegments
    cases rest <;> simp [ofSegmentsBelow, topLevel, hcapital]
  | cons segment lower ih =>
    obtain ⟨rfl, hrest⟩ := List.cons.inj hsegments
    obtain ⟨hfirst, hlower⟩ := List.forall_mem_cons.1 hlower
    cases rest with
    | nil => simp at hrest
    | cons next rest =>
      rw [ofSegmentsBelow, hfirst, if_neg (by simp), ih hrest hlower]
      simp

/-! ## Qualified names -/

theorem qualifiedName_eq_intercalate {c : ClassName} {segments : List String}
    (hpackage : c.package = ".".intercalate segments) (hsegments : ∀ s ∈ segments, s ≠ "") :
    c.qualifiedName = ".".intercalate (segments ++ c.names) := by
  rw [qualifiedName]
  cases segments with
  | nil => simp [hpackage, nestedPath]
  | cons first rest =>
    have hne : ".".intercalate (first :: rest) ≠ "" :=
      intercalate_ne_empty (hsegments first (by simp))
    have hnames : c.names ≠ [] := by simp [names]
    rw [hpackage, String.intercalate_append_of_ne_nil (by simp) hnames, nestedPath]
    simp [hne]

/-- A class that is read from segments is written as those segments. -/
theorem qualifiedName_ofSegments {first : String} {rest : List String}
    (h : ∀ s ∈ first :: rest, s ≠ "") :
    (ofSegments first rest).qualifiedName = ".".intercalate (first :: rest) := by
  obtain ⟨lower, hsegments, hpackage, -, -⟩ := ofSegmentsBelow_split [] first rest
  have hlower : ∀ s ∈ lower, s ≠ "" := fun s hs => h s (by rw [hsegments]; simp [hs])
  rw [ofSegments, qualifiedName_eq_intercalate hpackage (by simpa using hlower), hsegments]
  simp

/-! ## Reading -/

/-- A text is read from its parts between dots. -/
theorem parse_of_parts {text first : String} {rest : List String}
    (hparts : parts '.' text = first :: rest) :
    ClassName.parse text =
      match (first :: rest).find? (!isIdentifier ·) with
      | some segment => .error ⟨text, segment⟩
      | none => .ok (ofSegments first rest) := by
  have hspelled : (fun s => !isIdentifier s) ∘ String.ofList = (!spellsIdentifier ·) := by
    funext cs
    simp [isIdentifier]
  obtain ⟨hfirst, hrest⟩ := splitBy_of_parts hparts
  rw [ClassName.parse, ← hparts, parts]
  dsimp only
  rw [List.find?_map, hspelled, hfirst, hrest]
  cases ((splitBy '.' text.toList).1 :: (splitBy '.' text.toList).2).find?
      (!spellsIdentifier ·) <;> rfl

theorem parse_eq_ok_iff_of_parts {text first : String} {rest : List String} {c : ClassName}
    (hparts : parts '.' text = first :: rest) :
    ClassName.parse text = .ok c ↔
      (∀ s ∈ first :: rest, isIdentifier s = true) ∧ ofSegments first rest = c := by
  rw [parse_of_parts hparts]
  split
  · next segment hfind =>
    refine iff_of_false (by simp) fun h => ?_
    have hinvalid := List.find?_some hfind
    simp [h.1 segment (List.mem_of_find?_eq_some hfind)] at hinvalid
  · next hfind =>
    have hvalid : ∀ s ∈ first :: rest, isIdentifier s = true := by simpa using hfind
    rw [Except.ok.injEq, and_iff_right hvalid]

theorem parts_of_parse {text : String} {c : ClassName} (h : ClassName.parse text = .ok c) :
    ∃ first rest, parts '.' text = first :: rest ∧
      (∀ s ∈ first :: rest, isIdentifier s = true) ∧ c = ofSegments first rest := by
  obtain ⟨first, rest, hparts⟩ := exists_parts '.' text
  obtain ⟨hidentifiers, rfl⟩ := (parse_eq_ok_iff_of_parts hparts).1 h
  exact ⟨first, rest, hparts, hidentifiers, rfl⟩

theorem parts_of_identifiers {first : String} {rest : List String}
    (h : ∀ s ∈ first :: rest, isIdentifier s = true) :
    parts '.' (".".intercalate (first :: rest)) = first :: rest :=
  parts_intercalate (List.cons_ne_nil first rest) fun s hs => dot_notMem_of_isIdentifier (h s hs)

/-- Identifiers with dots between them are read as the class that they denote. -/
theorem parse_intercalate {first : String} {rest : List String}
    (h : ∀ s ∈ first :: rest, isIdentifier s = true) :
    ClassName.parse (".".intercalate (first :: rest)) = .ok (ofSegments first rest) :=
  (parse_eq_ok_iff_of_parts (parts_of_identifiers h)).2 ⟨h, rfl⟩

theorem exists_ofSegments_of_parse {text : String} {c : ClassName}
    (h : ClassName.parse text = .ok c) :
    ∃ first rest, (∀ s ∈ first :: rest, isIdentifier s = true) ∧ c = ofSegments first rest := by
  obtain ⟨first, rest, -, hsegments⟩ := parts_of_parse h
  exact ⟨first, rest, hsegments⟩

/-- The qualified name of a class is the text from which it was read. -/
theorem qualifiedName_of_parse {text : String} {c : ClassName} (h : ClassName.parse text = .ok c) :
    c.qualifiedName = text := by
  obtain ⟨first, rest, hparts, hidentifiers, rfl⟩ := parts_of_parse h
  rw [qualifiedName_ofSegments fun s hs => ne_empty_of_isIdentifier (hidentifiers s hs), ← hparts]
  exact intercalate_parts '.' text

/-- The package and the simple names of a class that was read are identifiers. -/
theorem exists_package_of_parse {text : String} {c : ClassName}
    (h : ClassName.parse text = .ok c) :
    ∃ segments : List String, (∀ s ∈ segments, isIdentifier s = true) ∧
      c.package = ".".intercalate segments ∧ ∀ s ∈ c.names, isIdentifier s = true := by
  obtain ⟨first, rest, -, hidentifiers, rfl⟩ := parts_of_parse h
  obtain ⟨lower, hsegments, hpackage, -, -⟩ := ofSegmentsBelow_split [] first rest
  rw [hsegments] at hidentifiers
  exact ⟨lower, fun s hs => hidentifiers s (List.mem_append_left _ hs), hpackage,
    fun s hs => hidentifiers s (List.mem_append_right _ hs)⟩

end ClassName

end ValueBuilder.Java
