import ValueBuilder.Declaration.Decoder
import ValueBuilder.Proofs.Json.RecordReading

/-!
# Declarations as JSON

How declarations are written, and that reading a file gives back what was written.  The members of
an object may stand in any order, and a member may be left out while its field holds the default.
The defaults are spelled out here: they belong to what a file means, not to how it is read.
-/

namespace ValueBuilder

open Json Json.Grammar

/-! ## Writing -/

/-- A name out of several, by itself or as the only key of an object. -/
inductive NamedBy (name : String) : Value → Prop
  | text : NamedBy name (.text name)
  | object : NamedBy name (.object [(name, .null)])

/-- A list, item by item. -/
inductive ListedBy {α : Type} (Writes : α → Value → Prop) : List α → Value → Prop
  | array {xs : List α} {vs : List Value} (h : List.Forall₂ Writes xs vs) :
      ListedBy Writes xs (.array vs)

/-- A factory by its name, or `null` where there is none. -/
inductive FactoryWrites : Option Factory → Value → Prop
  | none : FactoryWrites none .null
  | some {factory : Factory} {v : Value} (hv : NamedBy factory.declaredName v) :
      FactoryWrites (some factory) v

/-- Writes a builder.  A factory that is left out is the constructor, and `null` is none. -/
inductive BuilderDeclaration.Writes : BuilderDeclaration → Value → Prop
  | object {b : BuilderDeclaration} {name factory serializable entries : List (String × Value)}
      (hname : Member "name" (· = .text b.name) (b.name = "Builder") name)
      (hfactory : Member "factory" (FactoryWrites b.factory) (b.factory = some .constructor)
        factory)
      (hserializable : Member "serializable" (· = .boolean b.serializable)
        (b.serializable = false) serializable)
      (hentries : entries.Perm (name ++ factory ++ serializable)) : Writes b (.object entries)

/-- Writes a property. -/
inductive PropertyDeclaration.Writes : PropertyDeclaration → Value → Prop
  | object {p : PropertyDeclaration} {hasDefault entries : List (String × Value)}
      (hdefault : Member "has_default" (· = .boolean p.hasDefault) (p.hasDefault = false)
        hasDefault)
      (hentries : entries.Perm
        ([("getter", .text p.getter), ("type", .text p.type)] ++ hasDefault)) :
      Writes p (.object entries)

/-- Writes a type. -/
inductive TypeDeclaration.Writes : TypeDeclaration → Value → Prop
  | object {t : TypeDeclaration}
      {kind builder gwtCompatible gwtSerializable imports properties entries :
        List (String × Value)}
      (hkind : Member "kind" (NamedBy t.kind.declaredName) (t.kind = .abstractClass) kind)
      (hbuilder : Member "builder" t.builder.Writes
        (t.builder = ⟨"Builder", some .constructor, false⟩) builder)
      (hcompatible : Member "gwt_compatible" (· = .boolean t.gwtCompatible)
        (t.gwtCompatible = false) gwtCompatible)
      (hserializable : Member "gwt_serializable" (· = .boolean t.gwtSerializable)
        (t.gwtSerializable = false) gwtSerializable)
      (himports : Member "imports" (ListedBy (fun s v => v = .text s) t.imports) (t.imports = [])
        imports)
      (hproperties : Member "properties" (ListedBy PropertyDeclaration.Writes t.properties)
        (t.properties = []) properties)
      (hentries : entries.Perm ([("name", .text t.name)] ++ kind ++ builder ++ gwtCompatible ++
        gwtSerializable ++ imports ++ properties)) :
      Writes t (.object entries)

/-- Writes a file. -/
inductive DeclarationFile.Writes : DeclarationFile → Value → Prop
  | object {file : DeclarationFile} {types : Value}
      (htypes : ListedBy TypeDeclaration.Writes file.types types) :
      Writes file (.object [("types", types)])

/-- The bytes are a JSON text of the file. -/
def DeclarationFile.WrittenAs (file : DeclarationFile) (bytes : List UInt8) : Prop :=
  ∃ v, file.Writes v ∧ Document v bytes

/-! ## Reading what was written -/

theorem decodes_choice {α : Type} {variants : List (String × α)} {name : String} {x : α}
    {v : Value} (h : variants.lookup name = some x) (hv : NamedBy name v) :
    Decodes (choice variants) v x := by
  cases hv with
  | text => exact decodes_choice_text h
  | object => exact decodes_choice_object h

theorem decodes_listedBy {α : Type} {Writes : α → Value → Prop} {decoder : Decoder α}
    {xs : List α} {v : Value} (hitem : ∀ x v, Writes x v → Decodes decoder v x)
    (hv : ListedBy Writes xs v) : Decodes (list decoder) v xs := by
  cases hv with
  | array h => exact decodes_list (h.imp hitem).flip

theorem TypeKind.decodes {kind : TypeKind} {v : Value} (hv : NamedBy kind.declaredName v) :
    Decodes decoder v kind :=
  decodes_choice (by cases kind <;> rfl) hv

theorem Factory.decodes {factory : Option Factory} {v : Value} (hv : FactoryWrites factory v) :
    Decodes (nullable decoder) v factory := by
  cases hv with
  | none => exact decodes_nullable_null
  | @some factory v hv =>
    have hname : Decodes decoder v factory := decodes_choice (by cases factory <;> rfl) hv
    refine hname.nullable ?_
    rintro rfl
    cases hv

theorem decodes_boolean_of_eq {b : Bool} (v : Value) (hv : v = .boolean b) :
    Decodes boolean v b :=
  hv ▸ decodes_boolean

theorem decodes_text_of_eq (s : String) (v : Value) (hv : v = .text s) : Decodes text v s :=
  hv ▸ decodes_text

theorem BuilderDeclaration.decodes {b : BuilderDeclaration} {v : Value} (hv : b.Writes v) :
    Decodes decoder v b := by
  obtain ⟨hname, hfactory, hserializable, hentries⟩ := hv
  refine decodes_record _ fields _ (b.name, b.factory, b.serializable, ()) (by decide)
    (.and (hname.imp (decodes_text_of_eq _) fun h => congrArg some h.symm) <|
      .and (hfactory.imp (fun _ => Factory.decodes) fun h => congrArg some h.symm) <|
      .and (hserializable.imp decodes_boolean_of_eq fun h => congrArg some h.symm) .done) ?_
  simpa using hentries

theorem PropertyDeclaration.decodes {p : PropertyDeclaration} {v : Value} (hv : p.Writes v) :
    Decodes decoder v p := by
  obtain ⟨hdefault, hentries⟩ := hv
  refine decodes_record _ fields _ (p.getter, p.type, p.hasDefault, ()) (by decide)
    (.and (.written decodes_text) <| .and (.written decodes_text) <|
      .and (hdefault.imp decodes_boolean_of_eq fun h => congrArg some h.symm) .done) ?_
  simpa using hentries

theorem TypeDeclaration.decodes {t : TypeDeclaration} {v : Value} (hv : t.Writes v) :
    Decodes decoder v t := by
  obtain ⟨hkind, hbuilder, hcompatible, hserializable, himports, hproperties, hentries⟩ := hv
  refine decodes_record _ fields _ (t.name, t.kind, t.builder, t.gwtCompatible, t.gwtSerializable,
      t.imports, t.properties, ()) (by decide)
    (.and (.written decodes_text) <|
      .and (hkind.imp (fun _ => TypeKind.decodes) fun h => congrArg some h.symm) <|
      .and (hbuilder.imp (fun _ => BuilderDeclaration.decodes) fun h => congrArg some h.symm) <|
      .and (hcompatible.imp decodes_boolean_of_eq fun h => congrArg some h.symm) <|
      .and (hserializable.imp decodes_boolean_of_eq fun h => congrArg some h.symm) <|
      .and (himports.imp (fun _ => decodes_listedBy decodes_text_of_eq)
        fun h => congrArg some h.symm) <|
      .and (hproperties.imp (fun _ => decodes_listedBy fun _ _ => PropertyDeclaration.decodes)
        fun h => congrArg some h.symm) .done) ?_
  simpa using hentries

theorem DeclarationFile.decodes {file : DeclarationFile} {v : Value} (hv : file.Writes v) :
    Decodes decoder v file := by
  obtain ⟨htypes⟩ := hv
  refine decodes_record _ fields _ (file.types, ()) (by decide)
    (.and (.written (decodes_listedBy (fun _ _ => TypeDeclaration.decodes) htypes)) .done) ?_
  simp

/-! ## Every file can be written -/

theorem exists_listedBy {α : Type} {Writes : α → Value → Prop} (h : ∀ x, ∃ v, Writes x v)
    (xs : List α) : ∃ v, ListedBy Writes xs v := by
  have hitems : ∃ vs, List.Forall₂ Writes xs vs := by
    induction xs with
    | nil => exact ⟨[], .nil⟩
    | cons x xs ih =>
      obtain ⟨v, hv⟩ := h x
      obtain ⟨vs, hvs⟩ := ih
      exact ⟨v :: vs, .cons hv hvs⟩
  obtain ⟨vs, hvs⟩ := hitems
  exact ⟨_, .array hvs⟩

theorem exists_factoryWrites (factory : Option Factory) : ∃ v, FactoryWrites factory v := by
  cases factory with
  | none => exact ⟨_, .none⟩
  | some factory => exact ⟨_, .some .text⟩

theorem BuilderDeclaration.exists_writes (b : BuilderDeclaration) : ∃ v, b.Writes v := by
  obtain ⟨factory, hfactory⟩ := exists_factoryWrites b.factory
  exact ⟨_, .object (.written rfl) (.written hfactory) (.written rfl) (.refl _)⟩

theorem PropertyDeclaration.exists_writes (p : PropertyDeclaration) : ∃ v, p.Writes v :=
  ⟨_, .object (.written rfl) (.refl _)⟩

theorem TypeDeclaration.exists_writes (t : TypeDeclaration) : ∃ v, t.Writes v := by
  obtain ⟨builder, hbuilder⟩ := t.builder.exists_writes
  have htext : ∀ s : String, ∃ v : Value, v = .text s := fun s => ⟨_, rfl⟩
  obtain ⟨imports, himports⟩ := exists_listedBy htext t.imports
  obtain ⟨properties, hproperties⟩ := exists_listedBy PropertyDeclaration.exists_writes t.properties
  exact ⟨_, .object (.written .text) (.written hbuilder) (.written rfl) (.written rfl)
    (.written himports) (.written hproperties) (.refl _)⟩

theorem DeclarationFile.exists_writtenAs (file : DeclarationFile) :
    ∃ bytes, file.WrittenAs bytes := by
  obtain ⟨types, htypes⟩ := exists_listedBy TypeDeclaration.exists_writes file.types
  obtain ⟨text, htext⟩ := exists_valueText (.object [("types", types)])
  exact ⟨_, _, .object htypes, .value blanks_nil htext blanks_nil⟩

namespace DeclarationFile

/-- Reading undoes writing, however the file is written. -/
theorem decode_of_writtenAs {file : DeclarationFile} {bytes : List UInt8}
    (h : file.WrittenAs bytes) : decode bytes = .ok file := by
  obtain ⟨v, hv, hbytes⟩ := h
  exact decode_eq_ok (decodes hv) hbytes

theorem decode_of_writtenAs_factoryless :
    decode (ascii (String.toList
        "\x7b\"types\":[\x7b\"builder\": \x7b\"factory\":null\x7d, \"name\":\"\\u0050\"\x7d]\x7d")) =
      .ok ⟨[{ name := "P", builder := { factory := none } }]⟩ := by
  refine decode_of_writtenAs ⟨.object [("types", .array [.object
    [("builder", .object [("factory", .null)]), ("name", .text "P")]])], ?_, ?_⟩
  · have hbuilder : BuilderDeclaration.Writes { factory := none } (.object [("factory", .null)]) :=
      .object (.omitted rfl) (.written .none) (.omitted rfl) (.refl _)
    exact .object (.array (.cons (.object (.omitted rfl) (.written hbuilder) (.omitted rfl)
      (.omitted rfl) (.omitted rfl) (.omitted rfl) (.swap _ _ _)) .nil))
  · have hblank : Blanks (ascii [' ']) := by simp [Blanks]
    have hdigits : UnitText 'P'.toNat (ascii ['0', '0', '5', '0']) :=
      .digits (.decimal (show 0 < 10 by decide)) (.decimal (show 0 < 10 by decide))
        (.decimal (show 5 < 10 by decide)) (.decimal (show 0 < 10 by decide))
    have hbuilder := ValueText.object <| .first blanks_nil
      (.entry (quotedText_itself (s := "factory") (by decide)) blanks_nil blanks_nil .null)
      (.closed blanks_nil)
    have htype := ValueText.object <| .first blanks_nil
      (.entry (quotedText_itself (s := "builder") (by decide)) blanks_nil hblank hbuilder) <|
      .next blanks_nil hblank
        (.entry (quotedText_itself (s := "name") (by decide)) blanks_nil blanks_nil
          (.text (s := "P") (.quoted (.cons (.code hdigits) .nil))))
        (.closed blanks_nil)
    have hfile := ValueText.object <| .first blanks_nil
      (.entry (quotedText_itself (s := "types") (by decide)) blanks_nil blanks_nil
        (.array (.first blanks_nil htype (.closed blanks_nil))))
      (.closed blanks_nil)
    exact .value blanks_nil hfile blanks_nil

end DeclarationFile

end ValueBuilder
