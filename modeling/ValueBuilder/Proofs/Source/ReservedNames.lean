import ValueBuilder.Proofs.Source.NameOwners

/-!
# Reserved names and free ones

What becomes of a simple name in a run, whichever classes are reserved.

* `NameTable.owner?_ofRun_of_free`: a name that is not reserved goes to the first class that needs
  it.
* `NameTable.simpleName_ne_of_mention`: a reserved name goes to no class that is named, from
  `SettlesReserved`, which each step of a run keeps.
* `NameTable.mem_imports_ofRun_iff`: so the imports are of the classes that own names which are not
  reserved.
-/

namespace ValueBuilder

open Java

namespace NameTable

variable {table : NameTable} {name other package text : String} {c : ClassName} {claim : Claim}
  {reserved classes named : List ClassName}

/-! ## Free names -/

/-- A claim concerns one name. -/
theorem owner?_own_of_ne (h : name ≠ other) :
    (table.own other c claim).owner? name = table.owner? name := by
  rw [own]
  split
  · rfl
  · have hentry : ((⟨other, c, claim⟩ : Owner).name == name) = false := by simpa using h.symm
    simp [owner?, List.find?_append, hentry]

theorem owner?_foldl_mention_of_ne (h : ∀ c ∈ classes, c.outermost ≠ name) :
    (classes.foldl mention table).owner? name = table.owner? name := by
  induction classes generalizing table with
  | nil => rfl
  | cons c classes ih =>
    obtain ⟨hc, hclasses⟩ := List.forall_mem_cons.1 h
    rw [List.foldl_cons, ih hclasses]
    exact owner?_own_of_ne hc.symm

theorem owner?_foldl_reserve_of_ne (h : ∀ m ∈ reserved, m.simpleName ≠ name) :
    (reserved.foldl reserve table).owner? name = table.owner? name := by
  induction reserved generalizing table with
  | nil => rfl
  | cons m reserved ih =>
    obtain ⟨hm, hreserved⟩ := List.forall_mem_cons.1 h
    rw [List.foldl_cons, ih hreserved]
    exact owner?_own_of_ne hm.symm

/-- A name that no member class has goes to the first class that needs it. -/
theorem owner?_ofRun_first {package : String} {before behind : List ClassName}
    (hmembers : ∀ m ∈ reserved, m.simpleName ≠ c.outermost)
    (hbefore : ∀ d ∈ before, d.outermost ≠ c.outermost) :
    (ofRun package reserved (before ++ c :: behind)).owner? c.outermost =
      some c.topLevelClass := by
  have hfree : (before.foldl mention (reserved.foldl reserve (.empty package))).owner? c.outermost =
      none := by
    rw [owner?_foldl_mention_of_ne hbefore, owner?_foldl_reserve_of_ne hmembers]
    rfl
  rw [ofRun, List.foldl_append, List.foldl_cons]
  exact owner?_foldl_mention (owner?_own_of_none hfree)

/-- The owner of a name that no member class has is found among the classes that are named. -/
theorem owner?_ofRun_of_free (package : String) (named : List ClassName)
    (hmembers : ∀ m ∈ reserved, m.simpleName ≠ name) :
    (ofRun package reserved named).owner? name =
      (named.find? (·.outermost == name)).map ClassName.topLevelClass := by
  cases hfind : named.find? (·.outermost == name) with
  | none =>
    have hnamed : ∀ c ∈ named, c.outermost ≠ name := by simpa using hfind
    rw [ofRun, owner?_foldl_mention_of_ne hnamed, owner?_foldl_reserve_of_ne hmembers]
    rfl
  | some c =>
    obtain ⟨hname, before, behind, rfl, hbefore⟩ := List.find?_eq_some_iff_append.1 hfind
    obtain rfl : c.outermost = name := by simpa using hname
    exact owner?_ofRun_first hmembers (by simpa using hbefore)

/-- To name one more class lengthens the run. -/
theorem mention_ofRun (package : String) (reserved named : List ClassName) (c : ClassName) :
    (ofRun package reserved named).mention c = ofRun package reserved (named ++ [c]) := by
  rw [ofRun, ofRun, List.foldl_append, List.foldl_cons, List.foldl_nil]

theorem exists_owner?_foldl_mention (hc : c ∈ named) :
    ∃ owner, (named.foldl mention table).owner? c.outermost = some owner := by
  obtain ⟨before, behind, rfl⟩ := List.append_of_mem hc
  rw [List.foldl_append, List.foldl_cons]
  obtain ⟨owner, howner⟩ :=
    exists_owner?_own (before.foldl mention table) c.outermost c.topLevelClass .mention
  exact ⟨owner, owner?_foldl_mention howner⟩

/-- To name a class again has no effect. -/
theorem mention_foldl_mention_of_mem (hc : c ∈ named) :
    (named.foldl mention table).mention c = named.foldl mention table := by
  have howned : ∃ owner, (named.foldl mention table).owner? c.outermost = some owner :=
    exists_owner?_foldl_mention hc
  obtain ⟨owner, howner⟩ := howned
  rw [mention, own, howner]

/-- A class that is named has a name with an owner. -/
theorem exists_owner?_of_mem (package : String) (reserved : List ClassName) (hc : c ∈ named) :
    ∃ owner, (ofRun package reserved named).owner? c.outermost = some owner :=
  exists_owner?_foldl_mention hc

theorem mention_ofRun_of_mem (package : String) (reserved : List ClassName) (hc : c ∈ named) :
    (ofRun package reserved named).mention c = ofRun package reserved named :=
  mention_foldl_mention_of_mem hc

/-! ## Reserved names -/

/-- Whether the reserved names have owners, none of which was merely named. -/
structure SettlesReserved (reserved : List ClassName) (table : NameTable) : Prop where
  owned : ∀ m ∈ reserved, ∃ owner, table.owner? m.simpleName = some owner
  unnamed : ∀ entry ∈ table.owners, entry.claim = .mention →
    ∀ m ∈ reserved, m.simpleName ≠ entry.name

/-- To name a class does not unsettle the reserved names: they are not free any more. -/
theorem SettlesReserved.mention (h : SettlesReserved reserved table) (c : ClassName) :
    SettlesReserved reserved (table.mention c) := by
  constructor
  · intro m hm
    obtain ⟨owner, howner⟩ := h.owned m hm
    exact ⟨owner, owner?_own_of_some howner⟩
  · intro entry hentry hclaim m hm
    rw [NameTable.mention, own] at hentry
    split at hentry
    · exact h.unnamed entry hentry hclaim m hm
    · next hfree =>
      rcases List.mem_append.1 hentry with hentry | hentry
      · exact h.unnamed entry hentry hclaim m hm
      · rw [List.mem_singleton.1 hentry]
        intro hname
        obtain ⟨owner, howner⟩ := h.owned m hm
        rw [hname, hfree] at howner
        cases howner

theorem settlesReserved_ofRun (package : String) (reserved named : List ClassName) :
    SettlesReserved reserved (ofRun package reserved named) := by
  have hreserved : SettlesReserved reserved (ofRun package reserved []) := by
    constructor
    · intro m hm
      obtain ⟨owner, -, howner⟩ := owner?_simpleName_ofRun package [] hm
      exact ⟨owner, howner⟩
    · intro entry hentry hclaim
      cases (lawful_ofRun package reserved []).rightful entry hentry with
      | member hm => cases hclaim
      | mention hc => cases hc
  apply List.foldlRecOn (motive := SettlesReserved reserved) _ _ hreserved
  intro table h c _
  exact h.mention c

/-- No class that is named takes a reserved name. -/
theorem simpleName_ne_of_mention {entry : Owner}
    (hentry : entry ∈ (ofRun package reserved named).owners) (hclaim : entry.claim = .mention)
    {m : ClassName} (hm : m ∈ reserved) : m.simpleName ≠ entry.name :=
  (settlesReserved_ofRun package reserved named).unnamed entry hentry hclaim m hm

/-! ## Imports -/

theorem package_ne_empty (h : table.seesWithoutImport c = false) : c.package ≠ "" := by
  intro hpackage
  simp [seesWithoutImport, hpackage] at h

/-- Whether a class needs an import is a matter of its package. -/
theorem seesWithoutImport_congr {d : ClassName} (h : c.package = d.package) :
    table.seesWithoutImport c = table.seesWithoutImport d := by
  simp only [seesWithoutImport, ClassName.isLanguageClass, h]

/-- The imports of a run are of the classes that own a name which is not reserved, as far as they
cannot be seen without one. -/
theorem mem_imports_ofRun_iff :
    text ∈ (ofRun package reserved named).imports ↔
      ∃ c ∈ named, (∀ m ∈ reserved, m.simpleName ≠ c.outermost) ∧
        (ofRun package reserved named).owner? c.outermost = some c.topLevelClass ∧
          (ofRun package reserved named).seesWithoutImport c = false ∧
            c.topLevelClass.qualifiedName = text := by
  have hlawful := lawful_ofRun package reserved named
  rw [mem_imports]
  constructor
  · rintro ⟨entry, hentry, himport, rfl⟩
    have howns := hlawful.owns entry hentry
    cases hlawful.rightful entry hentry with
    | member hm => simp [needsImport] at himport
    | @mention c hc =>
      have hsees : (ofRun package reserved named).seesWithoutImport c.topLevelClass = false := by
        simpa [needsImport] using himport
      exact ⟨c, hc, fun m hm => simpleName_ne_of_mention hentry rfl hm, howns, hsees, rfl⟩
  · rintro ⟨c, -, hfree, howner, hsees, rfl⟩
    obtain ⟨entry, hentry, hname, hclass⟩ := exists_entry_of_owner? howner
    refine ⟨entry, hentry, ?_, by rw [hclass]⟩
    cases hlawful.rightful entry hentry with
    | member hm => exact absurd hname (hfree _ hm)
    | mention hd =>
      have hsees : (ofRun package reserved named).seesWithoutImport c.topLevelClass = false := hsees
      rw [← hclass] at hsees
      simpa [needsImport] using hsees

end NameTable

end ValueBuilder
