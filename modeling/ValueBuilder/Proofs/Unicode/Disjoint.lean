import ValueBuilder.Java.Identifier
import ValueBuilder.Unicode.Blank

/-!
# Blanks are no letters

The table of blank characters meets neither the table of letters nor that of numbers, so a blank
never continues an identifier.
-/

namespace ValueBuilder.Unicode

/-- Whether no range of one list meets a range of the other. -/
def disjointRanges (first second : List (Nat × Nat)) : Bool :=
  first.all fun a => second.all fun b => Nat.blt a.2 b.1 || Nat.blt b.2 a.1

theorem inRanges_eq_false_of_disjointRanges {first second : List (Nat × Nat)} {code : Nat}
    (hdisjoint : disjointRanges first second = true) (hcode : inRanges first code = true) :
    inRanges second code = false := by
  simp only [disjointRanges, List.all_eq_true, Bool.or_eq_true, Nat.blt_eq] at hdisjoint
  simp only [inRanges, List.any_eq_true, Bool.and_eq_true, decide_eq_true_eq] at hcode
  obtain ⟨a, ha, hlow, hhigh⟩ := hcode
  simp only [inRanges, List.any_eq_false, Bool.and_eq_true, decide_eq_true_eq, not_and]
  intro b hb hbelow
  have := hdisjoint a ha b hb
  omega

theorem disjointRanges_blank_alphabetic :
    disjointRanges blankRanges alphabeticRanges = true := by
  decide +kernel

theorem disjointRanges_blank_numeric : disjointRanges blankRanges numericRanges = true := by
  decide +kernel

theorem isAlphanumeric_of_isBlank {c : Char} (h : isBlank c = true) :
    isAlphanumeric c = false := by
  have halphabetic := inRanges_eq_false_of_disjointRanges disjointRanges_blank_alphabetic h
  have hnumeric := inRanges_eq_false_of_disjointRanges disjointRanges_blank_numeric h
  simp only [isAlphanumeric, isAlphabetic, isNumeric, halphabetic, hnumeric]
  split
  · -- Below 128 the tables do not decide: the blanks are the controls 9 to 13 and the space.
    simp only [isBlank, inRanges, blankRanges, List.any_cons, List.any_nil, Bool.or_eq_true,
      Bool.and_eq_true, decide_eq_true_eq, Bool.false_eq_true, or_false] at h
    have houtside {low high : Char} (hrange : c.toNat < low.toNat ∨ high.toNat < c.toNat) :
        ¬ (c.val ≥ low.val ∧ c.val ≤ high.val) := by
      rw [ge_iff_le, UInt32.le_iff_toNat_le, UInt32.le_iff_toNat_le]
      change ¬ (low.toNat ≤ c.toNat ∧ c.toNat ≤ high.toNat)
      omega
    have hupper : c.isUpper = false := decide_eq_false (houtside (by simp; omega))
    have hlower : c.isLower = false :=
      (Bool.decide_and _ _).symm.trans (decide_eq_false (houtside (by simp; omega)))
    have hdigit : c.isDigit = false :=
      (Bool.decide_and _ _).symm.trans (decide_eq_false (houtside (by simp; omega)))
    change (c.isUpper || c.isLower || c.isDigit) = false
    simp only [hupper, hlower, hdigit, Bool.or_self]
  · rfl

end ValueBuilder.Unicode

namespace ValueBuilder.Java

theorem isIdentifierPart_of_isBlank {c : Char} (h : Unicode.isBlank c = true) :
    isIdentifierPart c = false := by
  have hplain : c ≠ '_' ∧ c ≠ '$' := by
    constructor <;> rintro rfl <;> revert h <;> decide
  simp [isIdentifierPart, Unicode.isAlphanumeric_of_isBlank h, hplain]

theorem isBlank_of_isIdentifierPart {c : Char} (h : isIdentifierPart c = true) :
    Unicode.isBlank c = false := by
  cases hblank : Unicode.isBlank c with
  | false => rfl
  | true => simp [isIdentifierPart_of_isBlank hblank] at h

end ValueBuilder.Java
