import ValueBuilder.Proofs.Source.PendingErrors
import ValueBuilder.Proofs.Source.ReservedNames

/-!
# What a failed call leaves behind

A template that cannot be expanded writes nothing, but the classes of the arguments before the fault
have been given names by then, and keep them.

* `Spelling.Settles` says that naming a class gives out no name.  Where it fails, a name goes to the
  class, and a later class of that name is spelled in another way (`exists_spelled_otherwise`).
* `failed_add_leaves_no_trace_iff`: a failed call leaves no trace exactly if the classes before the
  fault were settled.
-/

namespace ValueBuilder

open Java

/-! ## Names that are given out -/

namespace Spelling

/-- Whether naming a class gives out no name, as its simple name has an owner. -/
def Settles : Spelling → ClassName → Prop
  | bare, _ => True
  | importing table, c => ∃ owner, table.owner? c.outermost = some owner

variable {spelling : Spelling} {classes : List ClassName}

/-- Naming settled classes changes nothing. -/
theorem mentionAll_of_settles (h : ∀ c ∈ classes, spelling.Settles c) :
    spelling.mentionAll classes = spelling := by
  cases spelling with
  | bare => exact mentionAll_bare classes
  | importing table =>
    induction classes with
    | nil => rfl
    | cons c classes ih =>
      obtain ⟨⟨owner, howner⟩, hclasses⟩ := List.forall_mem_cons.1 h
      have hmention : table.mention c = table := by
        rw [NameTable.mention, NameTable.own, howner]
      rw [mentionAll, List.foldl_cons, mention, hmention]
      exact ih hclasses

/-- A name that has been given out spells another class of that name in another way. -/
theorem exists_spelled_otherwise {c : ClassName} (hc : c ∈ classes)
    (hfree : ¬spelling.Settles c) :
    ∃ d, ((spelling.mentionAll classes).shorten d).1 ≠ (spelling.shorten d).1 := by
  cases spelling with
  | bare => exact absurd trivial hfree
  | importing table =>
    have hnone : table.owner? c.outermost = none := by
      rw [Option.eq_none_iff_forall_not_mem]
      exact fun owner howner => hfree ⟨owner, howner⟩
    obtain ⟨owner, howner⟩ :
        ∃ owner, (classes.foldl NameTable.mention table).owner? c.outermost = some owner :=
      NameTable.exists_owner?_foldl_mention hc
    -- The other class has the simple name, and another package than the owner.
    let d : ClassName := ⟨owner.package ++ "x", c.outermost, []⟩
    have hpackage : d.package ≠ "" := fun h => by
      simpa [d] using congrArg String.length h
    have hne : d ≠ owner := fun h => by
      simpa [d] using congrArg (fun c : ClassName => c.package.length) h
    have hbefore : (table.mention d).spell d = d.nestedPath :=
      (NameTable.spell_eq_nestedPath_iff hpackage).2 (NameTable.owner?_own_of_none hnone)
    have hbehind : ((classes.foldl NameTable.mention table).mention d).spell d ≠ d.nestedPath := by
      rw [ne_eq, NameTable.spell_eq_nestedPath_iff hpackage, NameTable.mention,
        NameTable.owner?_own_of_some howner, Option.some_inj]
      exact fun h => hne h.symm
    refine ⟨d, ?_⟩
    rw [mentionAll_importing]
    exact fun h => hbehind (h.trans hbefore)

end Spelling

/-! ## Failed calls -/

namespace SourceUnit

/-- Units that nothing tells apart: they hold the same text, and whichever classes are named later
have the same texts and the same imports in both. -/
structure Alike (u v : SourceUnit) : Prop where
  body : u.body = v.body
  level : u.level = v.level
  error : u.error = v.error
  preamble : ∀ later : List ClassName,
    preamble (u.spelling.shortenAll later).2 = SourceUnit.preamble (v.spelling.shortenAll later).2
  texts : ∀ later : List ClassName,
    (u.spelling.shortenAll later).1 = (v.spelling.shortenAll later).1

theorem Alike.refl (u : SourceUnit) : Alike u u :=
  ⟨rfl, rfl, rfl, fun _ => rfl, fun _ => rfl⟩

variable {u : SourceUnit} {template : String} {args : List Piece} {error : TemplateError}

/-- A failed call leaves the text as it is, and its error is pending.  Behind it, nothing tells the
unit from the one before the call exactly if the classes of the arguments before the fault had
names with owners. -/
theorem failed_add_leaves_no_trace_iff (hu : u.error = none)
    (hfails : (Call.add template args).error? = some error) :
    u.addLine template args = u.add template args ∧
      (u.add template args).takeError =
        (some error, { u with spelling := (Call.add template args).note u.spelling }) ∧
      (Alike (u.add template args).takeError.2 u ↔
        ∀ piece ∈ (Template.expand template args).pieces, ∀ c ∈ piece.classes,
          u.spelling.Settles c) := by
  have hadd : u.add template args =
      { u with spelling := (Call.add template args).note u.spelling, error := some error } := by
    simp [add_eq hu, hfails]
  have htaken : (u.add template args).takeError =
      (some error, { u with spelling := (Call.add template args).note u.spelling }) := by
    rw [hadd, takeError]
    simp [hu]
  refine ⟨?_, htaken, ?_⟩
  · rw [addLine, put, hadd]
    rfl
  · rw [htaken, ← List.forall_mem_flatMap]
    constructor
    · intro halike c hc
      refine Classical.byContradiction fun hfree => ?_
      obtain ⟨d, hd⟩ := Spelling.exists_spelled_otherwise hc hfree
      have htexts := halike.texts [d]
      simp only [Spelling.shortenAll, List.cons.injEq, Prod.mk.injEq, true_and, and_true] at htexts
      exact hd htexts
    · intro hsettled
      have hnote : (Call.add template args).note u.spelling = u.spelling :=
        Spelling.mentionAll_of_settles hsettled
      rw [hnote]
      exact .refl u

/-- A unit that names `java.util.List` already does not change when naming it fails. -/
theorem failed_add_leaves_no_trace_iff_named :
    let u := (ofPackage "p" .java6).addLine "%s" [.cls ⟨"java.util", "List", []⟩]
    let args := [Piece.cls ⟨"java.util", "List", []⟩]
    u.error = none ∧ (Call.add "%s %q" args).error? = some ⟨"%s %q", .malformed 3⟩ ∧
      Alike (u.add "%s %q" args).takeError.2 u := by
  intro u args
  have hu : u.error = none := by decide
  have hfails : (Call.add "%s %q" args).error? = some ⟨"%s %q", .malformed 3⟩ := by decide
  have hclasses : (Template.expand "%s %q" args).pieces.flatMap Piece.classes =
      [⟨"java.util", "List", []⟩] := by decide
  refine ⟨hu, hfails, (failed_add_leaves_no_trace_iff hu hfails).2.2.2 ?_⟩
  rw [← List.forall_mem_flatMap, hclasses]
  exact List.forall_mem_singleton.2 ⟨⟨"java.util", "List", []⟩, by decide⟩

/-- In a fresh unit, a template that fails behind the argument `java.util.List` leaves an import of
that class, and `other.List` is then spelled with its package, although no text names a `List`. -/
theorem failed_add_leaves_import :
    let u := ofPackage "p" .java6
    let args := [Piece.cls ⟨"java.util", "List", []⟩]
    let other := [Piece.cls ⟨"other", "List", []⟩]
    u.error = none ∧ (Call.add "%s %q" args).error? = some ⟨"%s %q", .malformed 3⟩ ∧
      u.finish = .ok "package p;\n\n" ∧
      (u.add "%s %q" args).takeError.2.finish = .ok "package p;\n\nimport java.util.List;\n\n" ∧
      (u.addLine "%s" other).body = "List\n" ∧
      ((u.add "%s %q" args).takeError.2.addLine "%s" other).body = "other.List\n" := by
  intro u args other
  exact ⟨by decide, by decide, rfl, rfl, by decide, by decide⟩

end SourceUnit

end ValueBuilder
