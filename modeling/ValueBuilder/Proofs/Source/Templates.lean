import ValueBuilder.Source.Unit

/-!
# Templates that fit their arguments

A template fits a number of arguments if all its placeholders are well formed and ask for arguments
that are given.  Such a template expands without a fault (`Template.expand_fault_eq_none_iff`), so
writing it leaves the pending error of a unit as it is, whatever the unit
(`SourceUnit.error_append`).
-/

namespace ValueBuilder

namespace Template

/-! ## Expanding -/

/-- Whether a part can be expanded with a number of arguments. -/
def Part.fits (count : Nat) : Part → Bool
  | .literal _ => true
  | .argument index => index - 1 < count
  | .malformed _ => false

/-- Whether a template can be expanded with a number of arguments. -/
def fits (template : String) (count : Nat) : Bool :=
  (parts template).all (Part.fits count)

theorem expandParts_fault_eq_none_iff {args : List Piece} {parts : List Part} :
    (expandParts args parts).fault = none ↔ parts.all (Part.fits args.length) = true := by
  induction parts with
  | nil => simp [expandParts]
  | cons part parts ih =>
    cases part with
    | literal c => simp [expandParts, Expansion.cons, Part.fits, ih]
    | malformed position => simp [expandParts, Part.fits]
    | argument index =>
      rw [expandParts]
      split
      · next piece hpiece =>
        obtain ⟨hindex, -⟩ := List.getElem?_eq_some_iff.1 hpiece
        simp [Expansion.cons, Part.fits, ih, hindex]
      · next hnone =>
        have hindex := List.getElem?_eq_none_iff.1 hnone
        simp [Part.fits, Nat.not_lt.2 hindex]

/-- A template is expanded in full exactly if it fits its arguments. -/
theorem expand_fault_eq_none_iff {template : String} {args : List Piece} :
    (expand template args).fault = none ↔ fits template args.length = true :=
  expandParts_fault_eq_none_iff

/-- A template whose characters are known fits if their parts do.  The characters of a literal are
found by unification, which is cheaper than to compute them. -/
theorem fits_ofList {template : String} {cs : List Char} {count : Nat}
    (hchars : template = String.ofList cs)
    (hparts : (partsFrom 0 0 .none cs).all (Part.fits count) = true) :
    fits template count = true := by
  rw [fits, parts, hchars, String.toList_ofList]
  exact hparts

/-- Rewrites by a check of the template, which is left to a discharger. -/
theorem fits_of_check {template : String} {count : Nat} (hcheck : fits template count = true) :
    fits template count = true :=
  hcheck

end Template

/-! ## Code -/

/-- Whether the template of a statement fits its arguments. -/
def Statement.Fits : Statement → Prop
  | .template text args => Template.fits text args.length = true
  | .verbatim _ => True

/-- Whether all templates of code fit their arguments. -/
def Code.Fits (code : Code) : Prop :=
  ∀ s ∈ code, s.Fits

@[simp]
theorem Statement.fits_verbatim (words : List Word) : (Statement.verbatim words).Fits :=
  trivial

@[simp]
theorem Statement.fits_template {text : String} {args : List Piece} :
    (Statement.template text args).Fits ↔ Template.fits text args.length = true :=
  Iff.rfl

@[simp]
theorem Statement.fits_ite {condition : Prop} [Decidable condition] {first second : Statement} :
    Statement.Fits (if condition then first else second) ↔
      (condition → first.Fits) ∧ (¬condition → second.Fits) := by
  split
  · next h => simp [h]
  · next h => simp [h]

namespace Code

@[simp]
theorem fits_nil : Code.Fits [] := by
  simp [Fits]

@[simp]
theorem fits_cons {s : Statement} {code : Code} :
    Code.Fits (s :: code) ↔ s.Fits ∧ code.Fits := by
  simp [Fits]

@[simp]
theorem fits_flatMap {α : Type} {xs : List α} {f : α → Code} :
    Code.Fits (xs.flatMap f) ↔ ∀ x ∈ xs, (f x).Fits := by
  simp only [Fits, List.mem_flatMap]
  exact ⟨fun h x hx s hs => h s ⟨x, hx, hs⟩, fun h s ⟨x, hx, hs⟩ => h x hx s hs⟩

@[simp]
theorem fits_map {α : Type} {xs : List α} {f : α → Statement} :
    Code.Fits (xs.map f) ↔ ∀ x ∈ xs, (f x).Fits := by
  simp [Fits]

/-- A choice fits if what is chosen does. -/
@[simp]
theorem fits_ite {condition : Prop} [Decidable condition] {first second : Code} :
    Code.Fits (if condition then first else second) ↔
      (condition → first.Fits) ∧ (¬condition → second.Fits) := by
  split
  · next h => simp [h]
  · next h => simp [h]

end Code

/-! ## Units -/

namespace SourceUnit

@[simp]
theorem error_put (u : SourceUnit) (text : String) : (u.put text).error = u.error := by
  rw [put]
  split <;> rfl

/-- A template that fits leaves the pending error as it is. -/
theorem error_add {u : SourceUnit} {template : String} {args : List Piece}
    (h : Template.fits template args.length = true) : (u.add template args).error = u.error := by
  rw [add]
  split
  · rfl
  · simp only [Template.expand_fault_eq_none_iff.2 h, error_put, mention]

/-- A statement that fits leaves the pending error as it is. -/
theorem error_write {u : SourceUnit} {s : Statement} (h : s.Fits) :
    (u.write s).error = u.error := by
  cases s with
  | template text args => rw [write, addLine, error_put, error_add h]
  | verbatim words => rw [write, line, error_put]

/-- Code that fits leaves the pending error as it is. -/
theorem error_append {u : SourceUnit} {code : Code} (h : code.Fits) :
    (u.append code).error = u.error := by
  induction code generalizing u with
  | nil => rfl
  | cons s code ih =>
    obtain ⟨hs, hcode⟩ := Code.fits_cons.1 h
    have hrest : ((u.write s).append code).error = (u.write s).error := ih hcode
    exact hrest.trans (error_write hs)

end SourceUnit

end ValueBuilder
