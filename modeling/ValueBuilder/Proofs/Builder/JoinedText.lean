import ValueBuilder.Builder.Section
import ValueBuilder.Declaration.Conversion
import ValueBuilder.Proofs.Outcomes
import ValueBuilder.Proofs.Source.SilentLines

/-!
# Joined texts

The method `toString` of a nested class may leave its items to a joiner.  The joiner has overloads
for a collection, an iterator, an array, and for two or more objects, so a call with a single text
does not compile.  Here the calls are found in the generator's own text of the method, and their
arguments are counted.

* `Shape.joinerCalls` reads the calls; names are gaps, so they neither open a call nor end an
  argument.
* `IsItem` is what a reader notices of an item: nothing.  From it, `argumentsFrom_argumentList`
  counts the items of a call by induction on them.
* `joiner_calls_compile_iff`: each call has one argument for each property, so all of them compile
  unless there is a single property.  `joiner_call_of_one_text` is such a type.
-/

namespace ValueBuilder

open Java

/-! ## Reading calls -/

namespace Shape

/-- The number of arguments of a call, read up to the parenthesis that closes it.  The reader has
seen the beginning of `count` arguments, stands in `depth` inner parentheses, and may be inside a
text in quotes, in which a backslash takes the next character along. -/
def argumentsFrom (count depth : Nat) : Bool → Shape → Option Nat
  | _, [] => none
  | true, some '\\' :: _ :: shape => argumentsFrom count depth true shape
  | true, some '"' :: shape => argumentsFrom count depth false shape
  | true, _ :: shape => argumentsFrom count depth true shape
  | false, some '"' :: shape => argumentsFrom count depth true shape
  | false, some '(' :: shape => argumentsFrom count (depth + 1) false shape
  | false, some ')' :: shape =>
    if depth = 0 then some count else argumentsFrom count (depth - 1) false shape
  | false, some ',' :: shape =>
    argumentsFrom (if depth = 0 then count + 1 else count) depth false shape
  | false, _ :: shape => argumentsFrom count depth false shape

/-- What opens a call of the joiner. -/
def joinerOpening : Shape :=
  "COMMA_JOINER.join(".toList.map some

/-- The calls of the joiner, each with the number of its arguments unless the call has no end. -/
def joinerCalls : Shape → List (Option Nat)
  | [] => []
  | c :: shape =>
    if joinerOpening.isPrefixOf (c :: shape) then
      argumentsFrom 1 0 false ((c :: shape).drop joinerOpening.length) :: joinerCalls shape
    else joinerCalls shape

/-- The shape of words in a row. -/
def ofWords (words : List Word) : Shape :=
  words.flatMap Word.shape

end Shape

/-- The shape of the lines of code. -/
def Code.shape (code : Code) : Shape :=
  code.flatMap fun s => s.shape ++ [some '\n']

/-- The calls of the joiner in code, each with the number of its arguments. -/
def Code.joinerCalls (code : Code) : List (Option Nat) :=
  code.shape.joinerCalls

/-- Whether the joiner has an overload for a call whose arguments are texts. -/
def joinerTakes (call : Option Nat) : Prop :=
  ∃ count, call = some count ∧ 2 ≤ count

/-- Whether words are one argument of a call: a reader of the call is behind them where it was
before, and they have no call of the joiner inside. -/
structure IsItem (item : List Word) : Prop where
  arguments : ∀ (count : Nat) (rest : Shape),
    Shape.argumentsFrom count 0 false (Shape.ofWords item ++ rest) =
      Shape.argumentsFrom count 0 false rest
  calls : ∀ rest : Shape,
    Shape.joinerCalls (Shape.ofWords item ++ rest) = Shape.joinerCalls rest

namespace Blueprint

variable {b : Blueprint} {rest : Shape} {item opening : List Word} {items : List (List Word)}

/-! ## Items -/

-- The names in an item are gaps, so a reader's way through its other characters is a computation
-- that does not depend on the property.

theorem isItem_labelled (p : Property) : IsItem (labelled p) :=
  ⟨fun _ _ => rfl, fun _ => rfl⟩

theorem isItem_labelledUnlessNull (p : Property) : IsItem (labelledUnlessNull p) :=
  ⟨fun _ _ => rfl, fun _ => rfl⟩

theorem isItem_labelledUnlessUnset (b : Blueprint) (p : Property) :
    IsItem (b.labelledUnlessUnset p) :=
  ⟨fun _ _ => rfl, fun _ => rfl⟩

/-! ## Calls -/

/-- The line of an item that others follow. -/
theorem shape_argumentList_cons_cons {next : List Word} :
    Code.shape (argumentList (item :: next :: items)) ++ rest =
      "              ".toList.map some ++ (Shape.ofWords item ++
        (some ',' :: some '\n' :: (Code.shape (argumentList (next :: items)) ++ rest))) := by
  simp [argumentList, Code.shape, joined, Word.shape, Statement.shape, Shape.ofWords]

/-- The line of the last item. -/
theorem shape_argumentList_singleton :
    Code.shape (argumentList [item]) ++ rest =
      "              ".toList.map some ++ (Shape.ofWords item ++ (some ')' :: some '\n' :: rest)) := by
  simp [argumentList, Code.shape, joined, Word.shape, Statement.shape, Shape.ofWords]

/-- Each line of an argument list has one item. -/
theorem argumentsFrom_argumentList_cons (h : ∀ i ∈ item :: items, IsItem i) (count : Nat) :
    Shape.argumentsFrom count 0 false (Code.shape (argumentList (item :: items)) ++ rest) =
      some (count + items.length) := by
  induction items generalizing item count with
  | nil =>
    rw [shape_argumentList_singleton]
    exact (h item List.mem_cons_self).arguments count _
  | cons next items ih =>
    obtain ⟨hitem, hitems⟩ := List.forall_mem_cons.1 h
    calc
      _ = Shape.argumentsFrom count 0 false (Shape.ofWords item ++
            (some ',' :: some '\n' :: (Code.shape (argumentList (next :: items)) ++ rest))) := by
        rw [shape_argumentList_cons_cons]
        rfl
      _ = Shape.argumentsFrom (count + 1) 0 false
            (Code.shape (argumentList (next :: items)) ++ rest) := by
        rw [hitem.arguments]
        rfl
      _ = some (count + (next :: items).length) := by
        rw [ih hitems, List.length_cons, Nat.add_right_comm, Nat.add_assoc]

theorem argumentsFrom_argumentList (hitems : items ≠ []) (h : ∀ i ∈ items, IsItem i) :
    Shape.argumentsFrom 1 0 false (Code.shape (argumentList items) ++ rest) =
      some items.length := by
  obtain ⟨item, others, rfl⟩ := List.exists_cons_of_ne_nil hitems
  rw [argumentsFrom_argumentList_cons h, List.length_cons, Nat.add_comm]

theorem joinerCalls_argumentList (h : ∀ i ∈ items, IsItem i) :
    Shape.joinerCalls (Code.shape (argumentList items) ++ rest) = Shape.joinerCalls rest := by
  induction items with
  | nil => rfl
  | cons item items ih =>
    obtain ⟨hitem, hitems⟩ := List.forall_mem_cons.1 h
    cases items with
    | nil =>
      rw [shape_argumentList_singleton]
      exact hitem.calls _
    | cons next items =>
      rw [shape_argumentList_cons_cons]
      exact (hitem.calls _).trans (ih hitems)

/-- Joined text has one call, with all items as arguments. -/
theorem joinerCalls_joinedText (hitems : items ≠ []) (h : ∀ i ∈ items, IsItem i)
    (hopening : ∀ rest : Shape,
      Shape.joinerCalls (Shape.ofWords opening ++ rest) = Shape.joinerCalls rest) :
    Shape.joinerCalls (Code.shape (joinedText opening items) ++ rest) =
      some items.length :: Shape.joinerCalls rest := by
  let behind : Shape := Code.shape (argumentList items) ++
    (Shape.ofWords ["          + \"\x7d\";"] ++ some '\n' :: rest)
  calc
    _ = Shape.joinerCalls (Shape.ofWords ["      return "] ++ (Shape.ofWords opening ++
          (some '\n' :: (Shape.ofWords ["          + COMMA_JOINER.join("] ++
            some '\n' :: behind)))) := by
      simp [joinedText, joined, Code.shape, Statement.shape, Shape.ofWords, behind]
    _ = Shape.joinerCalls (Shape.ofWords opening ++
          (some '\n' :: (Shape.ofWords ["          + COMMA_JOINER.join("] ++
            some '\n' :: behind))) :=
      rfl
    _ = Shape.argumentsFrom 1 0 false behind :: Shape.joinerCalls behind := by
      rw [hopening]
      rfl
    _ = some items.length :: Shape.joinerCalls rest := by
      rw [argumentsFrom_argumentList hitems h, joinerCalls_argumentList h]
      rfl

/-- A text whose parts are put together by `+` has no calls. -/
theorem joinerCalls_concatenated (properties : List Property) :
    Shape.joinerCalls (Code.shape (concatenated properties) ++ rest) = Shape.joinerCalls rest := by
  induction properties with
  | nil => rfl
  | cons p properties ih =>
    cases properties with
    | nil => rfl
    | cons next properties => exact ih

/-- The text of a finished value is joined if a property is optional. -/
theorem joinerCalls_valueText (b : Blueprint) (rest : Shape) :
    Shape.joinerCalls (Code.shape b.valueText ++ rest) =
      (if b.hasOptional then [some b.properties.length] else []) ++ Shape.joinerCalls rest := by
  rcases hproperties : b.properties with - | ⟨p, properties⟩
  · have hoptional : b.hasOptional = false := by rw [hasOptional, hproperties, List.any_nil]
    simp only [valueText, hproperties, hoptional]
    rfl
  · simp only [valueText, hproperties, List.isEmpty_cons, Bool.false_eq_true, if_false]
    split
    · rw [joinerCalls_joinedText (by simp) ?items fun _ => rfl, List.length_map]
      · rfl
      · intro item hitem
        obtain ⟨p, -, rfl⟩ := List.mem_map.1 hitem
        split
        · exact isItem_labelledUnlessNull p
        · exact isItem_labelled p
    · rw [joined, List.flatten_cons, List.flatten_singleton]
      exact joinerCalls_concatenated (p :: properties)

/-- The text of a partial value is joined whatever its properties are. -/
theorem joinerCalls_partialText (b : Blueprint) (rest : Shape) :
    Shape.joinerCalls (Code.shape b.partialText ++ rest) =
      (if b.properties.isEmpty then [] else [some b.properties.length]) ++
        Shape.joinerCalls rest := by
  rcases hproperties : b.properties with - | ⟨p, properties⟩
  · simp only [partialText, hproperties]
    rfl
  · simp only [partialText, hproperties, List.isEmpty_cons, Bool.false_eq_true, if_false]
    rw [joinerCalls_joinedText (by simp) ?items fun _ => rfl, List.length_map]
    · rfl
    · intro item hitem
      obtain ⟨p, -, rfl⟩ := List.mem_map.1 hitem
      split
      · exact b.isItem_labelledUnlessUnset p
      · split
        · exact isItem_labelledUnlessNull p
        · exact isItem_labelled p

/-- The calls of the method are those of its statements. -/
theorem joinerCalls_toStringMethod (body : Code) :
    Code.joinerCalls (toStringMethod body) =
      Shape.joinerCalls (Code.shape body ++ Code.shape ["    \x7d"]) := by
  have hshape : Code.shape (toStringMethod body) =
      Code.shape (joined [overriding, ["    public String toString() \x7b"]]) ++
        (Code.shape body ++ Code.shape ["    \x7d"]) := by
    simp [toStringMethod, joined, Code.shape]
  rw [Code.joinerCalls, hshape]
  rfl

theorem joinerCalls_closing : Shape.joinerCalls (Code.shape ["    \x7d"]) = [] :=
  rfl

theorem infix_valueType (b : Blueprint) : toStringMethod b.valueText <:+: b.valueType :=
  List.infix_of_mem_flatten (by simp)

theorem infix_partialType (b : Blueprint) : toStringMethod b.partialText <:+: b.partialType :=
  List.infix_of_mem_flatten (by simp)

theorem joinerCalls_valueMethod (b : Blueprint) :
    Code.joinerCalls (toStringMethod b.valueText) =
      if b.hasOptional then [some b.properties.length] else [] := by
  rw [joinerCalls_toStringMethod, joinerCalls_valueText, joinerCalls_closing, List.append_nil]

theorem joinerCalls_partialMethod (b : Blueprint) :
    Code.joinerCalls (toStringMethod b.partialText) =
      if b.properties.isEmpty then [] else [some b.properties.length] := by
  rw [joinerCalls_toStringMethod, joinerCalls_partialText, joinerCalls_closing, List.append_nil]

/-- Finished values join their text if a property is optional, and partial values if there is a
property at all.  Each call has one argument for each property, so the joiner takes all calls
exactly if the number of properties is not one. -/
theorem joiner_calls_compile_iff (b : Blueprint) :
    let valueCalls := Code.joinerCalls (toStringMethod b.valueText)
    let partialCalls := Code.joinerCalls (toStringMethod b.partialText)
    toStringMethod b.valueText <:+: b.valueType ∧
      toStringMethod b.partialText <:+: b.partialType ∧
        valueCalls = (if b.hasOptional then [some b.properties.length] else []) ∧
          partialCalls = (if b.properties.isEmpty then [] else [some b.properties.length]) ∧
            ((∀ call ∈ valueCalls ++ partialCalls, joinerTakes call) ↔
              b.properties.length ≠ 1) := by
  intro valueCalls partialCalls
  have hvalue : valueCalls = if b.hasOptional then [some b.properties.length] else [] :=
    b.joinerCalls_valueMethod
  have hpartial : partialCalls =
      if b.properties.isEmpty then [] else [some b.properties.length] :=
    b.joinerCalls_partialMethod
  refine ⟨b.infix_valueType, b.infix_partialType, hvalue, hpartial, fun h hone => ?one,
    fun h call hcall => ?other⟩
  case one =>
    have hnonempty : b.properties.isEmpty = false := by
      rw [List.isEmpty_eq_false_iff, ← List.length_pos_iff]
      omega
    have hcall : some 1 ∈ partialCalls := by
      rw [hpartial, hnonempty, hone]
      simp
    obtain ⟨count, hcount, htwo⟩ := h _ (List.mem_append_right _ hcall)
    cases hcount
    omega
  case other =>
    obtain ⟨rfl, hnonempty⟩ : call = some b.properties.length ∧ b.properties ≠ [] := by
      rcases List.mem_append.1 hcall with hcall | hcall
      · rw [hvalue, List.mem_ite_nil_right] at hcall
        obtain ⟨hoptional, hcall⟩ := hcall
        obtain ⟨p, hp, -⟩ := List.any_eq_true.1 hoptional
        exact ⟨List.mem_singleton.1 hcall, List.ne_nil_of_mem hp⟩
      · rw [hpartial, List.mem_ite_nil_left] at hcall
        obtain ⟨hnonempty, hcall⟩ := hcall
        exact ⟨List.mem_singleton.1 hcall, List.isEmpty_iff.not.1 hnonempty⟩
    have hpos : 0 < b.properties.length := List.length_pos_iff.2 hnonempty
    exact ⟨_, rfl, by omega⟩

/-- A type with one property.  The text of its partial values is joined by a call with one argument,
which the joiner does not take. -/
theorem joiner_call_of_one_text :
    let declaration : TypeDeclaration :=
      { name := "com.example.Person", properties := [{ getter := "getAge", type := "int" }] }
    ∃ conversion, declaration.convert = .ok conversion ∧
      conversion.blueprint.properties ≠ [] ∧
        ∃ call ∈ Code.joinerCalls (toStringMethod conversion.blueprint.partialText),
          call = some 1 ∧ ¬joinerTakes call := by
  intro declaration
  have hlength : (declaration.convert.toOption.map (·.blueprint.properties.length)) = some 1 := by
    decide +kernel
  obtain ⟨conversion, hconvert, hone⟩ := map_toOption_eq_some_iff.1 hlength
  have hproperties : conversion.blueprint.properties ≠ [] := by
    rw [← List.length_pos_iff, hone]
    decide
  refine ⟨conversion, hconvert, hproperties, some 1, ?_, rfl, ?_⟩
  · rw [joinerCalls_partialMethod, List.isEmpty_eq_false_iff.2 hproperties, hone]
    simp
  · rintro ⟨count, hcount, htwo⟩
    cases hcount
    omega

end Blueprint

end ValueBuilder
