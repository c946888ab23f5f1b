import ValueBuilder.Proofs.Text.Brackets
import ValueBuilder.Unicode.LetterCase

/-!
# Capitals are no marks

A bracket, a quote or a line break is the capital form of no other character, so names in capitals
have no marks that the names did not have.
-/

namespace ValueBuilder.Unicode

variable {c d : Char}

/-- A shift that moves no code point of its run to that of a mark. -/
def CaseShift.avoidsMarks (shift : CaseShift) : Bool :=
  marks.all fun mark =>
    (mark.toNat : Int) < shift.run.first + shift.distance ||
      shift.run.last + shift.distance < (mark.toNat : Int)

theorem CaseShift.notMem_marks {shift : CaseShift} (h : shift.avoidsMarks = true) {code : Nat}
    (hcovers : shift.run.covers code = true) :
    Char.ofNat (code + shift.distance).toNat ∉ marks := by
  intro hmark
  have hpositive : marks.all (0 < ·.toNat) = true := by decide
  have havoids := List.all_eq_true.1 h _ hmark
  have hzero := of_decide_eq_true (List.all_eq_true.1 hpositive _ hmark)
  rw [CodeRun.covers, Bool.and_eq_true, Bool.and_eq_true, decide_eq_true_eq,
    decide_eq_true_eq] at hcovers
  rw [Bool.or_eq_true, decide_eq_true_eq, decide_eq_true_eq] at havoids
  generalize hn : (code + shift.distance).toNat = n at havoids hzero
  by_cases hvalid : n.isValidChar
  · have hcode : (Char.ofNat n).toNat = n := by
      rw [Char.ofNat, dif_pos hvalid]
      rfl
    omega
  · have hcode : (Char.ofNat n).toNat = 0 := by
      rw [Char.ofNat, dif_neg hvalid]
      rfl
    omega

theorem notMem_marks_of_mem_mapCase {expansions : List (Nat × List Nat)} {shifts : List CaseShift}
    (hexpansions : expansions.all (fun entry => entry.2.all (Char.ofNat · ∉ marks)) = true)
    (hshifts : shifts.all CaseShift.avoidsMarks = true) (hc : c ∉ marks)
    (hd : d ∈ mapCase expansions shifts c) : d ∉ marks := by
  rw [mapCase] at hd
  split at hd
  · next codes hlookup =>
    obtain ⟨before, behind, rfl, -⟩ := List.lookup_eq_some_iff.1 hlookup
    obtain ⟨code, hcode, rfl⟩ := List.mem_map.1 hd
    have hentry := List.all_eq_true.1 hexpansions (c.toNat, codes) (by simp)
    simpa using List.all_eq_true.1 hentry code hcode
  · split at hd
    · next shift hfind =>
      rw [List.mem_singleton.1 hd]
      exact CaseShift.notMem_marks
        (List.all_eq_true.1 hshifts shift (List.mem_of_find?_eq_some hfind))
        (List.find?_some (p := fun shift : CaseShift => shift.run.covers c.toNat) hfind)
    · rwa [List.mem_singleton.1 hd]

/-- The capital form of a character that is no mark has none. -/
theorem notMem_marks_of_mem_upper (hc : c ∉ marks) (hd : d ∈ upper c) : d ∉ marks := by
  rw [upper] at hd
  split at hd
  · next hascii =>
    have htable : ∀ code < 128, Char.ofNat code ∉ marks → (Char.ofNat code).toUpper ∉ marks := by
      decide +kernel
    rw [List.mem_singleton.1 hd]
    have hupper := htable c.toNat hascii
    rw [Char.ofNat_toNat] at hupper
    exact hupper hc
  · exact notMem_marks_of_mem_mapCase (by decide +kernel) (by decide +kernel) hc hd

end ValueBuilder.Unicode
