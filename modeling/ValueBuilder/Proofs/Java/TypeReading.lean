import ValueBuilder.Proofs.Java.TypeGrammar
import ValueBuilder.Proofs.Unicode.Disjoint

/-!
# What the readers of types answer

`Reads` says what a reader answers and what it leaves.  One equivalence for each reader opens it;
no other proof about type expressions unfolds a reader.
-/

namespace ValueBuilder.Java

/-! ## What readers answer -/

/-- A reader answers a value and leaves a rest. -/
def Reads {α : Type} {bound : Nat} (answer : Except TypeFault (Reading Char α bound)) (value : α)
    (rest : List Char) : Prop :=
  ∃ reading, answer = .ok reading ∧ reading.value = value ∧ reading.rest = rest

section Reads

variable {α β : Type} {bound larger : Nat} {value : α} {rest : List Char}

theorem Reads.length_lt {answer : Except TypeFault (Reading Char α bound)}
    (h : Reads answer value rest) : rest.length < bound := by
  obtain ⟨reading, -, -, rfl⟩ := h
  exact reading.shorter

@[simp]
theorem reads_ok {reading : Reading Char α bound} :
    Reads (.ok reading) value rest ↔ reading.value = value ∧ reading.rest = rest := by
  simp [Reads]

@[simp]
theorem reads_pure {reading : Reading Char α bound} :
    Reads (pure reading) value rest ↔ reading.value = value ∧ reading.rest = rest :=
  reads_ok

@[simp]
theorem not_reads_error {fault : TypeFault} :
    ¬Reads (.error fault : Except TypeFault (Reading Char α bound)) value rest := by
  simp [Reads]

@[simp]
theorem not_reads_throw {fault : TypeFault} :
    ¬Reads (throw fault : Except TypeFault (Reading Char α bound)) value rest :=
  not_reads_error

theorem not_reads_throw_bind {γ : Type} {fault : TypeFault}
    {next : γ → Except TypeFault (Reading Char α bound)} :
    ¬Reads (throw fault >>= next) value rest :=
  not_reads_error

/-- Two readers in a row: the second one goes on behind what the first one left. -/
theorem reads_bind_iff {first : Except TypeFault (Reading Char β larger)}
    {next : Reading Char β larger → Except TypeFault (Reading Char α bound)}
    {goesOn : β → List Char → Prop}
    (hnext : ∀ reading, Reads (next reading) value rest ↔ goesOn reading.value reading.rest) :
    Reads (first >>= next) value rest ↔
      ∃ found behind, Reads first found behind ∧ goesOn found behind := by
  cases first with
  | error fault => simp [bind, Except.bind]
  | ok reading =>
    constructor
    · intro h
      exact ⟨reading.value, reading.rest, reads_ok.2 ⟨rfl, rfl⟩, (hnext reading).1 h⟩
    · rintro ⟨_, _, hfirst, h⟩
      obtain ⟨rfl, rfl⟩ := reads_ok.1 hfirst
      exact (hnext reading).2 h

end Reads

/-! ## Opening the readers -/

theorem dropChar?_eq_some_iff {expected : Char} {cs rest : List Char} :
    dropChar? expected cs = some rest ↔ cs = expected :: rest :=
  ⟨eq_cons_of_dropChar?, fun h => by simp [h, dropChar?]⟩

theorem reads_readChar_iff {input : List Char} {expected : Char} {cs rest : List Char} :
    Reads (readChar input expected cs) () rest ↔
      dropChar? expected (skipBlanks cs) = some rest := by
  rw [readChar]
  split
  · next found h => simp [behindChar, Reading.nothing, Reading.weaken, h]
  · next h => simp [h]

theorem reads_readIdentifier_iff {input cs rest : List Char} {word : String} :
    Reads (readIdentifier input cs) word rest ↔
      spellsIdentifier (cs.takeWhile isIdentifierPart) = true ∧
        String.ofList (cs.takeWhile isIdentifierPart) = word ∧
          cs.dropWhile isIdentifierPart = rest := by
  simp only [readIdentifier]
  split
  · next h => simp [h]
  · next h => split <;> simp [h]

/-- A dotted name is one word, or a word before a dot and a dotted name. -/
theorem reads_readDottedName_iff {input cs rest : List Char} {name : String × List String} :
    Reads (readDottedName input cs) name rest ↔
      ∃ word behind, Reads (readIdentifier input cs) word behind ∧
        (dropChar? '.' behind = none ∧ (word, []) = name ∧ behind = rest ∨
          ∃ more, dropChar? '.' behind = some more ∧
            ∃ others last, Reads (readDottedName input more) others last ∧
              (word, others.1 :: others.2) = name ∧ last = rest) := by
  rw [readDottedName]
  refine reads_bind_iff fun first => ?_
  split
  · next hdot => simp [hdot, Reading.map]
  · next more hdot =>
    simp only [hdot, reduceCtorEq, false_and, false_or, Option.some.injEq, exists_eq_left']
    refine reads_bind_iff fun others => ?_
    simp [Reading.map, Reading.weaken, Reading.after]

namespace TypeScope

variable {scope : TypeScope} {input cs rest : List Char}

theorem reads_readSuffixes_iff {t u : JavaType} :
    Reads (readSuffixes input t cs) u rest ↔
      dropChar? '[' (skipBlanks cs) = none ∧ t = u ∧ skipBlanks cs = rest ∨
        ∃ inside, dropChar? '[' (skipBlanks cs) = some inside ∧
          ∃ closed more, Reads (readChar input ']' inside) closed more ∧
            ∃ v last, Reads (readSuffixes input (.array t) more) v last ∧ v = u ∧ last = rest := by
  rw [readSuffixes]
  split
  · next h => simp [h, blanksOnly, behindBlanks, Reading.nothing, Reading.weaken]
  · next inside h =>
    simp only [h, reduceCtorEq, false_and, false_or, Option.some.injEq, exists_eq_left']
    refine reads_bind_iff fun closed => reads_bind_iff fun suffixed => ?_
    simp [behindChar, Reading.after, Reading.loosen, Reading.weaken]

/-- What stands where no wildcard does: a primitive type with suffixes, or a class with type
arguments and suffixes. -/
theorem reads_readType_iff {inArguments : Bool} {t : JavaType} :
    Reads (readType scope input inArguments cs) t rest ↔
      (∃ marked, dropMark? inArguments (skipBlanks cs) = some marked ∧
        ∃ wildcard last, Reads (readWildcard scope input marked) wildcard last ∧
          wildcard = t ∧ last = rest) ∨
      dropMark? inArguments (skipBlanks cs) = none ∧
        ∃ name more, Reads (readDottedName input (skipBlanks cs)) name more ∧
          ((∃ p, primitiveNamed? name.1 name.2 = some p ∧
              ∃ u last, Reads (readSuffixes input (.primitive p) more) u last ∧
                (inArguments && u.isPrimitive) = false ∧ u = t ∧ last = rest) ∨
            primitiveNamed? name.1 name.2 = none ∧ namesVoid name.1 name.2 = false ∧
              ∃ args behind, Reads (readArguments scope input more) args behind ∧
                ∃ u last, Reads (readSuffixes input
                    (.declared (scope.resolve name.1 name.2) args) behind) u last ∧
                  u = t ∧ last = rest) := by
  rw [readType]
  split
  · next marked h =>
    simp only [h, Option.some.injEq, exists_eq_left', reduceCtorEq, false_and, or_false]
    refine reads_bind_iff fun wildcard => ?_
    simp [Reading.weaken]
  · next h =>
    simp only [h, reduceCtorEq, false_and, exists_false, false_or, true_and]
    refine reads_bind_iff fun name => ?_
    split
    · next p hp =>
      simp only [hp, Option.some.injEq, exists_eq_left', reduceCtorEq, false_and, or_false]
      refine reads_bind_iff fun suffixed => ?_
      split
      · next hprimitive => exact iff_of_false not_reads_throw_bind (by simp [hprimitive])
      · next hprimitive =>
        simp [Bool.not_eq_true _ ▸ hprimitive, Reading.weaken, Reading.after]
    · next hp =>
      simp only [hp, reduceCtorEq, false_and, exists_false, false_or, true_and]
      split
      · next hvoid => exact iff_of_false not_reads_throw_bind (by simp [hvoid])
      · next hvoid =>
        simp only [hvoid, true_and]
        refine reads_bind_iff fun args => reads_bind_iff fun suffixed => ?_
        simp [Reading.weaken, Reading.after]

theorem reads_readWildcard_iff {t : JavaType} :
    Reads (readWildcard scope input cs) t rest ↔
      startsKeyword (skipBlanks cs) = false ∧ .unbounded = t ∧ skipBlanks cs = rest ∨
      startsKeyword (skipBlanks cs) = true ∧
        ∃ keyword behind, Reads (readIdentifier input (skipBlanks cs)) keyword behind ∧
          ∃ bound last, Reads (readType scope input true behind) bound last ∧
            ∃ wildcard, boundedBy? keyword = some wildcard ∧ wildcard bound = t ∧ last = rest := by
  rw [readWildcard]
  split
  · next h =>
    simp only [h, Bool.true_eq_false, false_and, false_or, true_and]
    refine reads_bind_iff fun keyword => reads_bind_iff fun bound => ?_
    split
    · next wildcard hw =>
      simp [hw, Reading.map, Reading.after, Reading.loosen, Reading.weaken, behindBlanks]
    · next hw => simp [hw]
  · next h => simp [h, blanksOnly, behindBlanks, Reading.nothing, Reading.weaken]

theorem reads_readArguments_iff {args : List JavaType} :
    Reads (readArguments scope input cs) args rest ↔
      dropChar? '<' (skipBlanks cs) = none ∧ [] = args ∧ skipBlanks cs = rest ∨
      ∃ inside, dropChar? '<' (skipBlanks cs) = some inside ∧
        dropChar? '>' (skipBlanks inside) = none ∧
          ∃ arg more, Reads (readType scope input true inside) arg more ∧
            ∃ others last, Reads (readMoreArguments scope input more) others last ∧
              arg :: others = args ∧ last = rest := by
  rw [readArguments]
  split
  · next h => simp [h, blanksOnly, behindBlanks, Reading.nothing, Reading.weaken]
  · next inside h =>
    simp only [h, reduceCtorEq, false_and, false_or, Option.some.injEq, exists_eq_left']
    split
    · next hempty =>
      refine iff_of_false not_reads_throw_bind fun hread => ?_
      rw [hread.1] at hempty
      simp at hempty
    · next hempty =>
      simp only [Option.not_isSome_iff_eq_none.1 hempty, true_and]
      refine reads_bind_iff fun arg => reads_bind_iff fun others => ?_
      simp [behindChar, Reading.map, Reading.after, Reading.loosen, Reading.weaken]

theorem reads_readMoreArguments_iff {args : List JavaType} :
    Reads (readMoreArguments scope input cs) args rest ↔
      dropChar? '>' (skipBlanks cs) = some rest ∧ [] = args ∨
      dropChar? '>' (skipBlanks cs) = none ∧
        ∃ comma inside, Reads (readChar input ',' cs) comma inside ∧
          ∃ arg more, Reads (readType scope input true inside) arg more ∧
            ∃ others last, Reads (readMoreArguments scope input more) others last ∧
              arg :: others = args ∧ last = rest := by
  rw [readMoreArguments]
  split
  · next found h => simp [h, behindChar, Reading.nothing, Reading.weaken, and_comm]
  · next h =>
    simp only [h, reduceCtorEq, false_and, false_or, true_and]
    refine reads_bind_iff fun comma => reads_bind_iff fun arg => reads_bind_iff fun others => ?_
    simp [Reading.map, Reading.after, Reading.loosen, Reading.weaken]

end TypeScope

end ValueBuilder.Java
