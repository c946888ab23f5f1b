import ValueBuilder.Proofs.Builder.SectionTemplates
import ValueBuilder.Proofs.Source.Chunks

/-!
# Fields in a stream

The serializer reads what it writes.  Lines are taken apart into texts and arguments, and a line
counts as a read, a write or a field of the value class by what it says, wherever it stands.

* `Statement.read?`, `Statement.write?` and `Statement.field?` judge one line.
* `reads_instantiate`, `writes_serialize` and `fields_valueType` find all such lines of the
  serializer's methods and of the value class.
* `serializer_reads_what_it_writes` compares them, and `readBack_writeOut` says what that means for
  a value that passes through a stream.
-/

namespace ValueBuilder

open Java

/-! ## Lines of the serializer -/

/-- What stands between two texts, if a text starts with one and ends with the other. -/
def between? (opening closing cs : List Char) : Option String :=
  let rest := cs.drop opening.length
  if opening.isPrefixOf cs && closing.isSuffixOf rest then
    some (String.ofList (rest.take (rest.length - closing.length)))
  else none

/-- A value on its way through a stream: the last part of the name of the stream's method, and the
field that holds the value. -/
structure Transfer where
  suffix : String
  field : String

/-- A read of a value from a stream into a local variable of a type. -/
structure StreamRead where
  type : JavaType
  stream : String
  transfer : Transfer

namespace Statement

/-- The read that a line performs, either plainly or with a cast. -/
def read? (s : Statement) : Option StreamRead :=
  match s.chunks with
  | [.text _, .argument (.type t), .text gap, .argument (.name field), .text sign,
      .argument (.name stream), .text call] =>
    if gap = " ".toList ∧ sign = " = ".toList then
      (between? ".read".toList "();".toList call).map fun suffix => ⟨t, stream, suffix, field⟩
    else none
  | [.text _, .argument (.type t), .text gap, .argument (.name field), .text sign,
      .argument (.type _), .text cast, .argument (.name stream), .text call] =>
    if gap = " ".toList ∧ sign = " = (".toList ∧ cast = ") ".toList then
      (between? ".read".toList "();".toList call).map fun suffix => ⟨t, stream, suffix, field⟩
    else none
  | _ => none

/-- The field that a line writes. -/
def write? (s : Statement) : Option Transfer :=
  match s.chunks with
  | [.text opening, .argument (.name field), .text closing] =>
    if closing = ");".toList then
      (between? "      writer.write".toList "(instance.".toList opening).map (⟨·, field⟩)
    else none
  | _ => none

/-- The field that a line declares in a value class, with its type. -/
def field? (s : Statement) : Option (JavaType × String) :=
  match s.chunks with
  | [.text opening, .argument (.type t), .text gap, .argument (.name field), .text closing] =>
    if opening = "    private final ".toList ∧ gap = " ".toList ∧ closing = ";".toList then
      some (t, field)
    else none
  | _ => none

end Statement

/-- The last part of the names of the stream methods for a property. -/
def Property.streamSuffix (p : Property) : String :=
  match p.storedPrimitive? with
  | some primitive => primitive.streamSuffix
  | none => "Object"

namespace Blueprint

open Statement

variable (b : Blueprint) (p : Property)

/-! ## Values on their way through a stream -/

section Joined

variable {α : Type} (f : Statement → Option α)

theorem filterMap_joined_nil : (joined ([] : List Code)).filterMap f = [] :=
  rfl

theorem filterMap_joined_cons (code : Code) (parts : List Code) :
    (joined (code :: parts)).filterMap f = code.filterMap f ++ (joined parts).filterMap f :=
  List.filterMap_append

end Joined

theorem read?_readField (reader : String) :
    (readField p reader).read? = some ⟨p.storedType, reader, p.streamSuffix, p.name⟩ := by
  rw [readField, Property.streamSuffix]
  cases p.storedPrimitive? with
  | none => rfl
  | some primitive => cases primitive <;> rfl

theorem write?_readField (reader : String) : (readField p reader).write? = none := by
  rw [readField]
  split <;> rfl

theorem write?_writeField : (writeField p).write? = some ⟨p.streamSuffix, p.name⟩ := by
  rw [writeField, Property.streamSuffix]
  cases p.storedPrimitive? with
  | none => rfl
  | some primitive => cases primitive <;> rfl

theorem read?_writeField : (writeField p).read? = none := by
  rw [writeField]
  split <;> rfl

/-- To pass a value on to the builder touches no stream. -/
theorem setFromResult_moves_nothing (builder stored : String) :
    (p.setFromResult builder stored).filterMap read? = [] ∧
      (p.setFromResult builder stored).filterMap write? = [] := by
  rw [Property.setFromResult]
  cases p.strategy <;> exact ⟨rfl, rfl⟩

theorem reads_restoreField :
    (b.restoreField p).filterMap read? =
      [⟨p.storedType, b.streamReader, p.streamSuffix, p.name⟩] := by
  have hblock : List.filterMap read? ["      \x7b", readField p b.streamReader] =
      [⟨p.storedType, b.streamReader, p.streamSuffix, p.name⟩] := by
    rw [List.filterMap_cons_none rfl, List.filterMap_cons_some (read?_readField p b.streamReader),
      List.filterMap_nil]
  simp only [restoreField, filterMap_joined_cons, hblock, (setFromResult_moves_nothing ..).1]
  rfl

theorem writes_restoreField : (b.restoreField p).filterMap write? = [] := by
  have hblock : List.filterMap write? ["      \x7b", readField p b.streamReader] = [] := by
    rw [List.filterMap_cons_none rfl, List.filterMap_cons_none (write?_readField p b.streamReader),
      List.filterMap_nil]
  simp only [restoreField, filterMap_joined_cons, hblock, (setFromResult_moves_nothing ..).2]
  rfl

/-- The reads of the method that makes a value. -/
theorem reads_instantiate (factory : Factory) :
    (b.instantiate factory).filterMap read? =
      b.properties.map fun p => ⟨p.storedType, b.streamReader, p.streamSuffix, p.name⟩ := by
  -- The judgement of a line is left to `rfl`; behind `id` it may unfold what a discharger may not.
  simp (disch := exact id rfl) only [instantiate, filterMap_joined_cons, filterMap_joined_nil,
    apply_ite (List.filterMap read?), List.filterMap_flatMap, reads_restoreField,
    List.filterMap_cons_none, List.filterMap_nil, ite_self, List.nil_append, List.append_nil,
    ← List.map_eq_flatMap]

theorem writes_instantiate (factory : Factory) :
    (b.instantiate factory).filterMap write? = [] := by
  simp (disch := exact id rfl) only [instantiate, filterMap_joined_cons, filterMap_joined_nil,
    apply_ite (List.filterMap write?), List.filterMap_flatMap, writes_restoreField,
    List.filterMap_cons_none, List.filterMap_nil, ite_self, List.nil_append, List.append_nil,
    List.flatMap_eq_nil_iff, implies_true]

/-- The writes of the method that writes a value. -/
theorem writes_serialize :
    b.serialize.filterMap write? = b.properties.map fun p => ⟨p.streamSuffix, p.name⟩ := by
  simp (disch := exact id rfl) only [serialize, filterMap_joined_cons, filterMap_joined_nil,
    List.filterMap_map, Function.comp_def, write?_writeField, List.filterMap_cons_none,
    List.filterMap_nil, List.nil_append, List.append_nil, List.filterMap_eq_map']

theorem reads_serialize : b.serialize.filterMap read? = [] := by
  simp (disch := exact id rfl) only [serialize, filterMap_joined_cons, filterMap_joined_nil,
    List.filterMap_map, Function.comp_def, read?_writeField, List.filterMap_cons_none,
    List.filterMap_nil, List.nil_append, List.append_nil, List.filterMap_eq_nil_iff, implies_true]

/-! ## Fields of the value class -/

/-- A line of words alone declares no field: a declaration has a type. -/
theorem field?_verbatim (words : List Word) : (Statement.verbatim words).field? = none := by
  have hchunks (t : JavaType) :
      Chunk.argument (.type t) ∉ Chunk.ofPieces (words.map Piece.word) := by
    induction words with
    | nil => simp [Chunk.ofPieces]
    | cons w words ih =>
      cases w with
      | text s =>
        rw [List.map_cons, Chunk.ofPieces]
        generalize Chunk.ofPieces (words.map Piece.word) = chunks at ih
        fun_cases Chunk.consText s.toList chunks <;> simp_all
      | _ => simp_all [Chunk.ofPieces]
  rw [field?]
  split
  · next t gap field closing h =>
    have hmem : Chunk.argument (.type t) ∈ (Statement.verbatim words).chunks := by simp [h]
    exact absurd hmem (hchunks t)
  · rfl

theorem fields_argumentList (items : List (List Word)) :
    (argumentList items).filterMap field? = [] := by
  fun_induction argumentList items with
  | case1 => rfl
  | case2 last => rw [List.filterMap_cons_none (field?_verbatim _), List.filterMap_nil]
  | case3 item rest hrest ih => rw [List.filterMap_cons_none (field?_verbatim _), ih]

theorem fields_concatenated (properties : List Property) :
    (concatenated properties).filterMap field? = [] := by
  fun_induction concatenated properties with
  | case1 => rfl
  | case2 last => rw [List.filterMap_cons_none (field?_verbatim _), List.filterMap_nil]
  | case3 p rest hrest ih => rw [List.filterMap_cons_none (field?_verbatim _), ih]

theorem fields_valueField : p.valueField.filterMap field? = [(p.storedType, p.name)] := by
  rw [Property.valueField, Property.storedType]
  cases p.strategy <;> rfl

theorem fields_nestedConstructor (b : Blueprint) (c : ClassName) :
    (b.nestedConstructor "    private %s(%s builder) \x7b" c).filterMap field? = [] := by
  have hassign (p : Property) :
      (p.assignField (Word.field "this" p.name) "builder").filterMap field? = [] := by
    rw [Property.assignField]
    cases p.strategy <;> rfl
  simp (disch := exact id rfl) only [nestedConstructor, filterMap_joined_cons, filterMap_joined_nil,
    List.filterMap_flatMap, hassign, List.filterMap_cons_none, List.filterMap_nil,
    List.nil_append, List.append_nil, List.flatMap_eq_nil_iff, implies_true]

theorem fields_getter : (getter p p.getterBody).filterMap field? = [] := by
  have hbody : p.getterBody.filterMap field? = [] := by
    rw [Property.getterBody]
    cases p.strategy <;> rfl
  simp (disch := exact id rfl) only [getter, overriding, filterMap_joined_cons,
    filterMap_joined_nil, hbody, List.filterMap_cons_none, List.filterMap_nil, List.nil_append]

theorem fields_equals (c : ClassName) (nullSafe : Property → Bool) :
    (b.equals c nullSafe "      return true;").filterMap field? = [] := by
  have hcompare (p : Property) (nullSafe : Bool) (other : String) :
      (compareField p nullSafe other).filterMap field? = [] := by
    have hdiffers : (differs p nullSafe other).filterMap field? = [] := by
      rw [differs]
      split
      case h_4 => cases nullSafe <;> rfl
      all_goals rfl
    simp only [compareField, filterMap_joined_cons, hdiffers]
    rfl
  simp (disch := exact id rfl) only [equals, equalsHead, overriding, filterMap_joined_cons,
    filterMap_joined_nil, List.filterMap_flatMap, hcompare, List.filterMap_cons_none,
    List.filterMap_nil, List.nil_append, List.append_nil, List.flatMap_eq_nil_iff, implies_true]

theorem fields_toStringMethod : (toStringMethod b.valueText).filterMap field? = [] := by
  have htext : b.valueText.filterMap field? = [] := by
    rw [valueText]
    split
    · rfl
    · split
      · simp only [joinedText, filterMap_joined_cons, filterMap_joined_nil, fields_argumentList]
        rfl
      · simp only [filterMap_joined_cons, filterMap_joined_nil, fields_concatenated]
        rfl
  simp only [toStringMethod, filterMap_joined_cons, htext]
  rfl

/-- The fields that the value class declares. -/
theorem fields_valueType :
    b.valueType.filterMap field? = b.properties.map fun p => (p.storedType, p.name) := by
  have hhead : b.valueHead.filterMap field? = [] := by
    rw [valueHead]
    split <;> rfl
  have hhash : b.valueHash.filterMap field? = [] := by
    rw [valueHash]
    split <;> rfl
  have hnone : b.properties.flatMap (fun _ => ([] : List (JavaType × String))) = [] :=
    List.flatMap_eq_nil_iff.2 fun _ _ => rfl
  simp (disch := exact id rfl) only [valueType, filterMap_joined_cons, filterMap_joined_nil,
    List.filterMap_flatMap, hhead, hhash, fields_valueField, fields_nestedConstructor,
    fields_getter, fields_equals, fields_toStringMethod, List.filterMap_cons_none,
    List.filterMap_nil, List.nil_append, List.append_nil, hnone, List.map_eq_flatMap]

/-! ## The whole serializer -/

/-- A serializer that is in step with itself and with the value class. -/
structure StreamsInStep (b : Blueprint) (factory : Factory) : Prop where
  /-- Each property is written once, in the order of the properties, by the method for the
  primitive type that is stored, or else by the one for objects. -/
  writes : b.serialize.filterMap write? = b.properties.map fun p => ⟨p.streamSuffix, p.name⟩
  /-- What is read is what was written. -/
  reads : ((b.instantiate factory).filterMap read?).map (·.transfer) = b.serialize.filterMap write?
  /-- Everything is read from the stream that the method is given. -/
  stream : ∀ r ∈ (b.instantiate factory).filterMap read?, r.stream = b.streamReader
  /-- A local variable has the type of the field that the value class declares. -/
  types : (((b.instantiate factory).filterMap read?).map fun r => (r.type, r.transfer.field)) =
    b.valueType.filterMap field?
  /-- No other part of the serializer reads. -/
  reads_only : b.serializer.filterMap read? = (b.instantiate factory).filterMap read?
  /-- No other part of the serializer writes. -/
  writes_only : b.serializer.filterMap write? = b.serialize.filterMap write?

/-- A blueprint that asks for a serializer gets one, which is in step. -/
theorem serializer_reads_what_it_writes (b : Blueprint) (hserializable : b.gwtSerializable = true) :
    .serializer ∈ b.sections ∧ ∃ factory, b.factory = some factory ∧ StreamsInStep b factory := by
  have hsection : Section.serializer ∈ b.sections := by
    simp [sections, Section.all, Section.appliesTo, hserializable]
  obtain ⟨factory, hfactory⟩ := Option.isSome_iff_exists.1 (b.factory_isSome hserializable)
  have hserializer : b.serializer =
      joined [b.serializerHead, b.instantiate factory, b.serialize, ["  \x7d"]] := by
    rw [serializer, hfactory]
  have hheadReads : b.serializerHead.filterMap read? = [] := rfl
  have hheadWrites : b.serializerHead.filterMap write? = [] := rfl
  refine ⟨hsection, factory, hfactory, ?_⟩
  constructor
  case writes => exact b.writes_serialize
  case reads => simp [b.reads_instantiate, b.writes_serialize]
  case stream => simp [b.reads_instantiate]
  case types => simp [b.reads_instantiate, b.fields_valueType]
  case reads_only =>
    simp only [hserializer, filterMap_joined_cons, hheadReads, b.reads_serialize]
    exact List.append_nil _
  case writes_only =>
    simp only [hserializer, filterMap_joined_cons, hheadWrites, b.writes_instantiate]
    exact List.append_nil _

/-- A property that is stored as a primitive, and an optional one, which is stored as an object. -/
theorem serializer_reads_what_it_writes_mixed :
    let age : Property := ⟨"age", "Age", "AGE", "getAge", Primitive.int, true, .plain "setAge" false⟩
    let text : JavaType := .ofClass (.topLevel languagePackage "String")
    let name : Property :=
      ⟨"name", "Name", "NAME", "getName", OptionalFlavour.guava.optionalOf text, true,
        .optional .guava "Name" (.ofType text)⟩
    let target : ClassName := .topLevel "com.example" "Person"
    let b : Blueprint :=
      ⟨target, false, defaultBuilder target, some .constructor, defaultGenerated target,
        [age, name], false, true, true, by decide, by decide, fun _ => rfl⟩
    b.gwtSerializable = true ∧ .serializer ∈ b.sections ∧
      (∃ factory, b.factory = some factory ∧ StreamsInStep b factory) ∧
        b.serialize.filterMap write? = [⟨"Int", "age"⟩, ⟨"Object", "name"⟩] := by
  intro age text name target b
  obtain ⟨hsection, hfactory⟩ := b.serializer_reads_what_it_writes rfl
  exact ⟨rfl, hsection, hfactory, b.writes_serialize⟩

/-! ## A value that passes through a stream -/

/-- What writes put on a stream for a value with given fields: each item with the method that
wrote it. -/
def writeOut {α : Type} (fields : String → α) (writes : List Transfer) : List (String × α) :=
  writes.map fun w => (w.suffix, fields w.field)

/-- The local variables after all items of a stream were read, if each was read by the counterpart
of the method that wrote it. -/
def readBack {α : Type} : List StreamRead → List (String × α) → Option (List (String × α))
  | [], [] => some []
  | r :: reads, (suffix, value) :: items =>
    if r.transfer.suffix = suffix then
      (readBack reads items).map ((r.transfer.field, value) :: ·)
    else none
  | _, _ => none

/-- Reads that are in step with the writes find the fields that were written. -/
theorem readBack_writeOut_map {α : Type} (fields : String → α) (reads : List StreamRead) :
    readBack reads (writeOut fields (reads.map (·.transfer))) =
      some (reads.map fun r => (r.transfer.field, fields r.transfer.field)) := by
  induction reads with
  | nil => rfl
  | cons r reads ih =>
    rw [List.map_cons, writeOut, List.map_cons, readBack, if_pos rfl]
    exact congrArg (Option.map ((r.transfer.field, fields r.transfer.field) :: ·)) ih

/-- A value that was written to a stream is read back: each local variable gets the field of its
name, whatever the fields hold. -/
theorem readBack_writeOut {α : Type} (b : Blueprint) (factory : Factory) (fields : String → α) :
    readBack ((b.instantiate factory).filterMap read?)
        (writeOut fields (b.serialize.filterMap write?)) =
      some (b.properties.map fun p => (p.name, fields p.name)) := by
  have hreads : b.serialize.filterMap write? =
      ((b.instantiate factory).filterMap read?).map (·.transfer) := by
    simp [b.reads_instantiate, b.writes_serialize]
  rw [hreads, readBack_writeOut_map, b.reads_instantiate, List.map_map]
  rfl

end Blueprint

end ValueBuilder
