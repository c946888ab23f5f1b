import ValueBuilder.Proofs.Builder.Emission
import ValueBuilder.Proofs.Source.Lines

/-!
# Units that a class is written into

What `write` comes to, for a unit without a pending error: it appends the text of the class, spelled
as the unit spells classes in the end.

* `Blueprint.write_eq` says so of any unit, `Blueprint.write_fragment` of a fragment, and
  `Blueprint.write_inPackage` of a fresh unit of a package, with the names that it gives out.
* `SourceUnit.finish_importing` is the file that a unit with imports makes.
-/

namespace ValueBuilder

open Java

theorem Spelling.reserveAll_bare (members : List ClassName) :
    Spelling.bare.reserveAll members = .bare := by
  rw [reserveAll]
  induction members with
  | nil => rfl
  | cons m members ih => exact ih

namespace Blueprint

variable {b : Blueprint} {generator package : String} {u : SourceUnit}

/-- How a unit spells classes once a class has been written into it. -/
def finalSpelling (generator : String) (b : Blueprint) (u : SourceUnit) : Spelling :=
  (u.spelling.reserveAll b.memberClasses).mentionAll
    (Code.classes (b.classCode generator u.level))

/-- Writing into a unit without a pending error appends the text of the class. -/
theorem write_eq (h : u.error = none) :
    b.write generator u = .ok
      { u with
        body := u.body ++ (b.classCode generator u.level).text (b.finalSpelling generator u)
        spelling := b.finalSpelling generator u } := by
  have hreserved : (u.reserve b.memberClasses).error = none := h
  rw [write_of_error_eq_none h, SourceUnit.append_eq hreserved (b.fits_classCode generator u.level)]
  rfl

/-- A fragment spells all classes by their paths. -/
theorem write_fragment (generator : String) (b : Blueprint) :
    b.write generator .fragment =
      .ok { SourceUnit.fragment with body := (b.classCode generator .java6).text .bare } := by
  have hspelling : b.finalSpelling generator .fragment = .bare := by
    rw [finalSpelling, SourceUnit.fragment, Spelling.reserveAll_bare, Spelling.mentionAll_bare]
  have hbody : SourceUnit.fragment.body = "" := rfl
  rw [write_eq rfl, hspelling, hbody, String.empty_append]
  rfl

/-- The names that a class has given out when it is written into a unit of a package. -/
def namesIn (package generator : String) (level : SourceLevel) (b : Blueprint) : NameTable :=
  .ofRun package b.memberClasses (Code.classes (b.classCode generator level))

/-- A fresh unit of a package spells classes by the names that it has given out in the end. -/
theorem write_inPackage (package generator : String) (level : SourceLevel) (b : Blueprint) :
    b.write generator (.ofPackage package level) =
      .ok
        { body := (b.classCode generator level).text
            (.importing (b.namesIn package generator level))
          spelling := .importing (b.namesIn package generator level)
          level
          error := none } := by
  have hspelling : b.finalSpelling generator (.ofPackage package level) =
      .importing (b.namesIn package generator level) := by
    rw [finalSpelling, SourceUnit.ofPackage, Spelling.reserveAll_importing,
      Spelling.mentionAll_importing]
    rfl
  have hbody : (SourceUnit.ofPackage package level).body = "" := rfl
  rw [write_eq rfl, hspelling, hbody, String.empty_append]
  rfl

end Blueprint

/-- A unit with imports has them and the package line in front of its body. -/
theorem SourceUnit.finish_importing {table : NameTable} (body : String) (level : SourceLevel) :
    (SourceUnit.mk body (.importing table) level none).finish =
      .ok (packageLine table.package ++ importBlock table.imports ++ body) :=
  rfl

end ValueBuilder
