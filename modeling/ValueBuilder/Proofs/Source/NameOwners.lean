import ValueBuilder.Proofs.Text.Parts
import ValueBuilder.Source.NameTable

/-!
# The owners of simple names

What a unit imports, against the texts of the classes that it names.

* `NameTable.owner?_own_of_some`: an owner is never replaced.  The text of a class is therefore
  settled when the class is named first, and `Spelling.shortenAll_importing` answers all texts of a
  run by its last table.
* `NameTable.Lawful` is the invariant: each entry is of a member class or of a top-level class that
  was named, and it is the only one for its name.
* `Spelling.shortenAll_tracksImports` assembles what a run of reservations and of named classes
  comes to.
-/

namespace ValueBuilder

open Java

namespace NameTable

variable {table : NameTable} {name other : String} {c owner : ClassName} {claim : Claim}
  {reserved named classes : List ClassName}

/-! ## One claim -/

/-- A name that has an owner keeps it, whatever is claimed. -/
theorem owner?_own_of_some (h : table.owner? name = some owner) :
    (table.own other c claim).owner? name = some owner := by
  rw [own]
  split
  · exact h
  · simp only [owner?, Option.map_eq_some_iff] at h ⊢
    obtain ⟨entry, hfind, howner⟩ := h
    exact ⟨entry, by rw [List.find?_append, hfind, Option.some_or], howner⟩

/-- A free name goes to the class that claims it. -/
theorem owner?_own_of_none (h : table.owner? name = none) :
    (table.own name c claim).owner? name = some c := by
  rw [own, h]
  simp only [owner?, Option.map_eq_none_iff] at h
  simp [owner?, List.find?_append, h]

/-- A claimed name has an owner. -/
theorem exists_owner?_own (table : NameTable) (name : String) (c : ClassName) (claim : Claim) :
    ∃ owner, (table.own name c claim).owner? name = some owner := by
  cases h : table.owner? name with
  | none => exact ⟨c, owner?_own_of_none h⟩
  | some owner => exact ⟨owner, owner?_own_of_some h⟩

/-! ## Many claims -/

theorem owner?_foldl_mention (h : table.owner? name = some owner) :
    (classes.foldl mention table).owner? name = some owner := by
  apply List.foldlRecOn (motive := fun table : NameTable => table.owner? name = some owner) _ _ h
  intro table h c _
  exact owner?_own_of_some h

theorem owner?_foldl_reserve (h : table.owner? name = some owner) :
    (classes.foldl reserve table).owner? name = some owner := by
  apply List.foldlRecOn (motive := fun table : NameTable => table.owner? name = some owner) _ _ h
  intro table h m _
  exact owner?_own_of_some h

/-- The text of a named class does not depend on the classes that are named later. -/
theorem spell_foldl_mention (table : NameTable) (c : ClassName) (classes : List ClassName) :
    (classes.foldl mention (table.mention c)).spell c = (table.mention c).spell c := by
  have hclaimed : ∃ owner, (table.mention c).owner? c.outermost = some owner :=
    exists_owner?_own table c.outermost c.topLevelClass .mention
  obtain ⟨owner, howner⟩ := hclaimed
  rw [spell, spell, owner?_foldl_mention howner, howner]

/-! ## The invariant -/

/-- An entry that a run may have made: of one of the member classes, or of the top-level class of
a class that was named. -/
inductive Rightful (reserved named : List ClassName) : Owner → Prop
  | member {m : ClassName} (h : m ∈ reserved) : Rightful reserved named ⟨m.simpleName, m, .member⟩
  | mention {c : ClassName} (h : c ∈ named) :
      Rightful reserved named ⟨c.outermost, c.topLevelClass, .mention⟩

/-- Every entry is rightful and owns its name. -/
structure Lawful (reserved named : List ClassName) (table : NameTable) : Prop where
  rightful : ∀ entry ∈ table.owners, Rightful reserved named entry
  owns : ∀ entry ∈ table.owners, table.owner? entry.name = some entry.owner

theorem lawful_empty (package : String) : Lawful reserved named (.empty package) :=
  ⟨by simp [empty], by simp [empty]⟩

/-- A rightful claim keeps a table lawful. -/
theorem Lawful.own (h : Lawful reserved named table)
    (hentry : Rightful reserved named ⟨name, c, claim⟩) :
    Lawful reserved named (table.own name c claim) := by
  cases howner : table.owner? name with
  | some owner => simpa [NameTable.own, howner] using h
  | none =>
    have howners : (table.own name c claim).owners = table.owners ++ [⟨name, c, claim⟩] := by
      simp [NameTable.own, howner]
    constructor
    · intro entry hmem
      rw [howners, List.mem_append, List.mem_singleton] at hmem
      rcases hmem with hmem | rfl
      · exact h.rightful entry hmem
      · exact hentry
    · intro entry hmem
      rw [howners, List.mem_append, List.mem_singleton] at hmem
      rcases hmem with hmem | rfl
      · exact owner?_own_of_some (h.owns entry hmem)
      · exact owner?_own_of_none howner

theorem Lawful.foldl_reserve (h : Lawful reserved named table) :
    Lawful reserved named (reserved.foldl reserve table) := by
  apply List.foldlRecOn (motive := Lawful reserved named) _ _ h
  intro table h m hm
  exact h.own (.member hm)

theorem Lawful.foldl_mention (h : Lawful reserved named table) :
    Lawful reserved named (named.foldl mention table) := by
  apply List.foldlRecOn (motive := Lawful reserved named) _ _ h
  intro table h c hc
  exact h.own (.mention hc)

@[simp]
theorem package_own : (table.own name c claim).package = table.package := by
  rw [NameTable.own]
  split <;> rfl

/-- The table of a run: the member classes claim their names before any class is named. -/
def ofRun (package : String) (reserved named : List ClassName) : NameTable :=
  named.foldl mention (reserved.foldl reserve (.empty package))

theorem package_ofRun (package : String) (reserved named : List ClassName) :
    (ofRun package reserved named).package = package := by
  have hreserve : (reserved.foldl reserve (.empty package)).package = package := by
    apply List.foldlRecOn (motive := fun table : NameTable => table.package = package) _ _ rfl
    intro table h m _
    exact package_own.trans h
  apply List.foldlRecOn (motive := fun table : NameTable => table.package = package) _ _ hreserve
  intro table h c _
  exact package_own.trans h

theorem lawful_ofRun (package : String) (reserved named : List ClassName) :
    Lawful reserved named (ofRun package reserved named) :=
  (lawful_empty package).foldl_reserve.foldl_mention

/-! ## What owners say about texts and imports -/

theorem exists_entry_of_owner? (h : table.owner? name = some owner) :
    ∃ entry ∈ table.owners, entry.name = name ∧ entry.owner = owner := by
  rw [owner?, Option.map_eq_some_iff] at h
  obtain ⟨entry, hfind, howner⟩ := h
  exact ⟨entry, List.mem_of_find?_eq_some hfind, by simpa using List.find?_some hfind, howner⟩

/-- A reserved name is never owned by a top-level class. -/
theorem owner?_simpleName_ofRun (package : String) (named : List ClassName) {m : ClassName}
    (hm : m ∈ reserved) :
    ∃ owner ∈ reserved, (ofRun package reserved named).owner? m.simpleName = some owner := by
  have hreserved : ∃ owner, (reserved.foldl reserve (.empty package)).owner? m.simpleName =
      some owner := by
    obtain ⟨before, behind, rfl⟩ := List.append_of_mem hm
    rw [List.foldl_append, List.foldl_cons]
    obtain ⟨owner, howner⟩ :=
      exists_owner?_own (before.foldl reserve (.empty package)) m.simpleName m .member
    exact ⟨owner, owner?_foldl_reserve howner⟩
  obtain ⟨owner, howner⟩ := hreserved
  have hlawful : Lawful reserved [] (reserved.foldl reserve (.empty package)) :=
    (lawful_empty package).foldl_reserve
  obtain ⟨entry, hentry, -, rfl⟩ := exists_entry_of_owner? howner
  refine ⟨entry.owner, ?_, owner?_foldl_mention howner⟩
  cases hlawful.rightful entry hentry with
  | member h => exact h
  | mention h => simp at h

/-- Below a package, a path says that the top-level class owns its name. -/
theorem spell_eq_nestedPath_iff (hpackage : c.package ≠ "") :
    table.spell c = c.nestedPath ↔ table.owner? c.outermost = some c.topLevelClass := by
  have hne : c.qualifiedName ≠ c.nestedPath := by
    intro heq
    have hlength := congrArg String.length heq
    simp [ClassName.qualifiedName, hpackage, String.length_append] at hlength
  rw [spell]
  split
  · next howner => simpa using howner
  · next howner => simpa [hne] using howner

theorem needsImport_mention (hpackage : c.package ≠ "") :
    table.needsImport ⟨c.outermost, c.topLevelClass, .mention⟩ = true ↔
      c.package ≠ table.package ∧ c.isLanguageClass = false := by
  have hpackage : c.topLevelClass.package ≠ "" := hpackage
  simp only [needsImport, seesWithoutImport, hpackage, beq_self_eq_true, Bool.true_and,
    Bool.not_eq_true', Bool.or_eq_false_iff, beq_eq_false_iff_ne, String.isEmpty_eq_false_iff,
    and_true, ne_eq, not_false_eq_true]
  exact Iff.rfl

theorem mem_imports {text : String} :
    text ∈ table.imports ↔
      ∃ entry ∈ table.owners, table.needsImport entry = true ∧ entry.owner.qualifiedName = text := by
  simp [imports, mem_sorted, and_assoc]

end NameTable

/-! ## Runs -/

/-- Names classes one after the other; each comes with its text. -/
def Spelling.shortenAll (spelling : Spelling) :
    List ClassName → List (ClassName × String) × Spelling
  | [] => ([], spelling)
  | c :: rest =>
    let (text, noted) := spelling.shorten c
    let (texts, last) := noted.shortenAll rest
    ((c, text) :: texts, last)

/-- The texts of a run are the texts that its last table gives. -/
theorem Spelling.shortenAll_importing (table : NameTable) (classes : List ClassName) :
    (Spelling.importing table).shortenAll classes =
      (classes.map fun c => (c, (classes.foldl NameTable.mention table).spell c),
        .importing (classes.foldl NameTable.mention table)) := by
  induction classes generalizing table with
  | nil => rfl
  | cons c classes ih =>
    simp only [shortenAll, shorten, mention, spell, ih, List.map_cons, List.foldl_cons]
    rw [NameTable.spell_foldl_mention]

theorem Spelling.reserveAll_importing (table : NameTable) (reserved : List ClassName) :
    (Spelling.importing table).reserveAll reserved =
      .importing (reserved.foldl NameTable.reserve table) := by
  rw [reserveAll]
  induction reserved generalizing table with
  | nil => rfl
  | cons m reserved ih => simpa [reserve] using ih (table.reserve m)

/-- The name of a top-level class ends in its simple name. -/
theorem lastPart_topLevelClass {c : ClassName} (hpackage : c.package ≠ "")
    (hdot : '.' ∉ c.outermost.toList) :
    lastPart '.' c.topLevelClass.qualifiedName = c.outermost := by
  have hname : c.topLevelClass.qualifiedName =
      c.package ++ String.singleton '.' ++ c.outermost := by
    simp [ClassName.qualifiedName, ClassName.nestedPath, ClassName.names, ClassName.topLevelClass,
      hpackage]
  rw [hname, lastPart_append hdot]

/-- Imports that are in step with the texts of the classes of a unit. -/
structure TracksImports (package : String) (reserved : List ClassName)
    (texts : List (ClassName × String)) (imports : List String) : Prop where
  /-- A path is only used where the top-level class can be seen. -/
  visible : ∀ c text, (c, text) ∈ texts → text = c.qualifiedName ∨
    text = c.nestedPath ∧
      (c.package = package ∨ c.isLanguageClass = true ∨ c.topLevelClass.qualifiedName ∈ imports)
  /-- No path starts with the name of a member class. -/
  unreserved : ∀ c, (c, c.nestedPath) ∈ texts → ∀ m ∈ reserved, c.outermost ≠ m.simpleName
  /-- Paths that start with one name start with one class. -/
  unambiguous : ∀ c d, (c, c.nestedPath) ∈ texts → (d, d.nestedPath) ∈ texts →
    c.outermost = d.outermost → c.topLevelClass = d.topLevelClass
  /-- Exactly the classes that paths need are imported. -/
  exact : ∀ text, text ∈ imports ↔ ∃ c, (c, c.nestedPath) ∈ texts ∧ c.package ≠ package ∧
    c.isLanguageClass = false ∧ text = c.topLevelClass.qualifiedName
  /-- Imports stand in ascending order, each once. -/
  ascending : imports.Pairwise (· < ·)
  /-- No two imports are of classes with one simple name. -/
  distinct : ∀ a ∈ imports, ∀ b ∈ imports, ∀ c d, (c, c.nestedPath) ∈ texts →
    (d, d.nestedPath) ∈ texts → a = c.topLevelClass.qualifiedName →
      b = d.topLevelClass.qualifiedName → c.outermost = d.outermost → a = b
  /-- Nor do the texts of two imports end in one name, unless simple names have dots. -/
  distinctEnds : (∀ c text, (c, text) ∈ texts → '.' ∉ c.outermost.toList) →
    ∀ a ∈ imports, ∀ b ∈ imports, lastPart '.' a = lastPart '.' b → a = b
  /-- A class always has the same text. -/
  stable : ∀ c text text', (c, text) ∈ texts → (c, text') ∈ texts → text = text'

section Run

variable {package : String} {reserved named : List ClassName} {c d : ClassName} {text : String}

open NameTable

theorem mem_texts : (c, text) ∈ (named.map fun c => (c, (ofRun package reserved named).spell c)) ↔
    c ∈ named ∧ (ofRun package reserved named).spell c = text := by
  simp only [List.mem_map, Prod.mk.injEq]
  constructor
  · rintro ⟨d, hd, rfl, htext⟩
    exact ⟨hd, htext⟩
  · rintro ⟨hc, htext⟩
    exact ⟨c, hc, rfl, htext⟩

/-- An owner that is a top-level class was named: member classes have an outer class. -/
theorem mem_owners_ofRun (hreserved : ∀ m ∈ reserved, m.inner ≠ [])
    (howner : (ofRun package reserved named).owner? c.outermost = some c.topLevelClass) :
    ⟨c.outermost, c.topLevelClass, .mention⟩ ∈ (ofRun package reserved named).owners := by
  obtain ⟨entry, hentry, hname, howner⟩ := exists_entry_of_owner? howner
  cases (lawful_ofRun package reserved named).rightful entry hentry with
  | member hm => exact absurd (congrArg ClassName.inner howner) (hreserved _ hm)
  | mention hd =>
    simp only at hname howner
    rwa [← hname, ← howner]

/-- An imported name is that of a class that was named and that owns its simple name. -/
theorem mem_imports_ofRun (package text : String) (hreserved : ∀ m ∈ reserved, m.inner ≠ [])
    (hpackages : ∀ c ∈ named, c.package ≠ "") :
    text ∈ (ofRun package reserved named).imports ↔
      ∃ c ∈ named, (ofRun package reserved named).spell c = c.nestedPath ∧ c.package ≠ package ∧
        c.isLanguageClass = false ∧ text = c.topLevelClass.qualifiedName := by
  have hlawful := lawful_ofRun package reserved named
  rw [mem_imports]
  constructor
  · rintro ⟨entry, hentry, himport, rfl⟩
    have howns := hlawful.owns entry hentry
    cases hlawful.rightful entry hentry with
    | member h => simp [needsImport] at himport
    | @mention c hc =>
      rw [needsImport_mention (hpackages c hc), package_ofRun] at himport
      exact ⟨c, hc, (spell_eq_nestedPath_iff (hpackages c hc)).2 howns, himport.1, himport.2, rfl⟩
  · rintro ⟨c, hc, hspell, hpackage, hlanguage, rfl⟩
    have howner := (spell_eq_nestedPath_iff (hpackages c hc)).1 hspell
    refine ⟨_, mem_owners_ofRun hreserved howner, ?_, rfl⟩
    rw [needsImport_mention (hpackages c hc), package_ofRun]
    exact ⟨hpackage, hlanguage⟩

/-- What a table that is lawful for a run says about the texts of that run. -/
theorem tracksImports_ofRun (hreserved : ∀ m ∈ reserved, m.inner ≠ [])
    (hpackages : ∀ c ∈ named, c.package ≠ "") :
    TracksImports package reserved
      (named.map fun c => (c, (ofRun package reserved named).spell c))
      (ofRun package reserved named).imports := by
  have hpath (c : ClassName) (hc : c ∈ named) : (ofRun package reserved named).spell c =
      c.nestedPath ↔ (ofRun package reserved named).owner? c.outermost = some c.topLevelClass :=
    spell_eq_nestedPath_iff (hpackages c hc)
  have himports (text : String) := mem_imports_ofRun package text hreserved hpackages
  have hunambiguous (c d : ClassName) (hc : c ∈ named) (hd : d ∈ named)
      (hcspell : (ofRun package reserved named).spell c = c.nestedPath)
      (hdspell : (ofRun package reserved named).spell d = d.nestedPath)
      (hname : c.outermost = d.outermost) : c.topLevelClass = d.topLevelClass := by
    have howner := (hpath c hc).1 hcspell
    rw [hname, (hpath d hd).1 hdspell] at howner
    exact (Option.some.inj howner).symm
  refine ⟨?visible, ?unreserved, ?unambiguous, ?exact, ?ascending, ?distinct, ?ends, ?stable⟩
  case visible =>
    intro c text htext
    obtain ⟨hc, rfl⟩ := mem_texts.1 htext
    by_cases howner : (ofRun package reserved named).owner? c.outermost = some c.topLevelClass
    · have hspell := (hpath c hc).2 howner
      refine .inr ⟨hspell, ?_⟩
      by_cases hpackage : c.package = package
      · exact .inl hpackage
      · cases hlanguage : c.isLanguageClass with
        | true => exact .inr (.inl rfl)
        | false => exact .inr (.inr ((himports _).2 ⟨c, hc, hspell, hpackage, hlanguage, rfl⟩))
    · exact .inl (by simp [spell, howner])
  case unreserved =>
    intro c htext m hm hname
    obtain ⟨hc, hspell⟩ := mem_texts.1 htext
    obtain ⟨owner, howner, hm⟩ := owner?_simpleName_ofRun package named hm
    rw [← hname, (hpath c hc).1 hspell, Option.some_inj] at hm
    exact hreserved owner howner (hm ▸ rfl)
  case unambiguous =>
    intro c d hc hd
    obtain ⟨hc, hcspell⟩ := mem_texts.1 hc
    obtain ⟨hd, hdspell⟩ := mem_texts.1 hd
    exact hunambiguous c d hc hd hcspell hdspell
  case exact =>
    intro text
    simp only [himports, mem_texts, and_assoc]
  case ascending => exact pairwise_sorted _
  case distinct =>
    rintro _ - _ - c d hc hd rfl rfl hname
    obtain ⟨hc, hcspell⟩ := mem_texts.1 hc
    obtain ⟨hd, hdspell⟩ := mem_texts.1 hd
    rw [hunambiguous c d hc hd hcspell hdspell hname]
  case ends =>
    intro hdots a ha b hb hlast
    obtain ⟨c, hc, hcspell, -, -, rfl⟩ := (himports a).1 ha
    obtain ⟨d, hd, hdspell, -, -, rfl⟩ := (himports b).1 hb
    have hlastPart (c : ClassName) (hc : c ∈ named) :=
      lastPart_topLevelClass (hpackages c hc) (hdots c _ (mem_texts.2 ⟨hc, rfl⟩))
    rw [hlastPart c hc, hlastPart d hd] at hlast
    rw [hunambiguous c d hc hd hcspell hdspell hlast]
  case stable =>
    intro c text text' htext htext'
    rw [← (mem_texts.1 htext).2, ← (mem_texts.1 htext').2]

end Run

/-- Reservations of member classes, and then classes named in any order: the imports are in step
with the texts. -/
theorem Spelling.shortenAll_tracksImports {package : String} {reserved classes : List ClassName}
    (hreserved : ∀ m ∈ reserved, m.inner ≠ []) (hpackages : ∀ c ∈ classes, c.package ≠ "") :
    ∃ texts table,
      ((Spelling.importing (.empty package)).reserveAll reserved).shortenAll classes =
        (texts, .importing table) ∧
      texts.map Prod.fst = classes ∧ TracksImports package reserved texts table.imports := by
  rw [reserveAll_importing, shortenAll_importing]
  exact ⟨_, _, rfl, by simp [Function.comp_def], tracksImports_ofRun hreserved hpackages⟩

/-- A class that clashes with another one, and one that clashes with a member class. -/
theorem Spelling.shortenAll_tracksImports_clash :
    let reserved : List ClassName := [⟨"a", "Person", ["Builder"]⟩]
    let classes : List ClassName := [⟨"b", "Date", []⟩, ⟨"c", "Date", []⟩, ⟨"c", "Builder", []⟩]
    let run := ((Spelling.importing (.empty "a")).reserveAll reserved).shortenAll classes
    run.1.map Prod.snd = ["Date", "c.Date", "c.Builder"] ∧
      (∀ m ∈ reserved, m.inner ≠ []) ∧ (∀ c ∈ classes, c.package ≠ "") ∧
        ∃ texts table, run = (texts, .importing table) ∧ texts.map Prod.fst = classes ∧
          TracksImports "a" reserved texts table.imports := by
  intro reserved classes run
  have hreserved : ∀ m ∈ reserved, m.inner ≠ [] := by simp [reserved]
  have hpackages : ∀ c ∈ classes, c.package ≠ "" := by simp [classes]
  exact ⟨by decide, hreserved, hpackages, shortenAll_tracksImports hreserved hpackages⟩

end ValueBuilder
