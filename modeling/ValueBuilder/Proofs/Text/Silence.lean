import Mathlib.Data.List.Infix

/-!
# Texts without a trace of a field

Generated code keeps the required properties that are still unset in a field.  A text is silent if
the field's name stands nowhere in it.  A text that is put together from silent parts can still have
the name across a boundary, so each way to put texts together has a lemma about its boundary.

* `Occurs` is occurrence of one text in another.
* `Silent.append` and `Silent.cons` are the two boundaries: behind a part, and behind a character.
* `Fills.silent` is the check of a shape, a line with gaps: if its own characters pass, then silent
  fillings make a silent line.
-/

namespace ValueBuilder

/-- Whether a text stands somewhere in another one. -/
def Occurs (part text : String) : Prop :=
  part.toList <:+: text.toList

instance (part text : String) : Decidable (Occurs part text) :=
  inferInstanceAs (Decidable (part.toList <:+: text.toList))

/-- The field with the required properties that are still unset. -/
def unsetField : String := "_unsetProperties"

/-- Whether the name of the field stands nowhere in a text. -/
def Silent (cs : List Char) : Prop :=
  ¬unsetField.toList <:+: cs

/-- Whether a character can stand in the name of the field, but not at its beginning. -/
def continuesField (c : Char) : Bool :=
  unsetField.toList.tail.contains c

/-- Whether a text, put behind another one, does not continue the name of the field. -/
def startsApart (cs : List Char) : Bool :=
  cs.head?.all (!continuesField ·)

instance (cs : List Char) : Decidable (Silent cs) :=
  inferInstanceAs (Decidable ¬unsetField.toList <:+: cs)

/-! ## Boundaries -/

namespace Silent

variable {cs ds : List Char} {c : Char}

theorem of_infix (h : Silent cs) (hpart : ds <:+: cs) : Silent ds :=
  fun hds => h (hds.trans hpart)

theorem nil : Silent [] := by
  decide

/-- The name begins with an underscore and a small letter. -/
theorem cons (h : Silent cs) (hc : c = '_' → cs.head? ≠ some 'u') : Silent (c :: cs) := by
  intro hfield
  rcases List.infix_cons_iff.1 hfield with hstart | hpart
  · have hname : unsetField.toList = '_' :: 'u' :: "nsetProperties".toList := by decide
    rw [hname, List.cons_prefix_cons] at hstart
    obtain ⟨hunderscore, rest, hrest⟩ := hstart
    exact hc hunderscore.symm (by rw [← hrest]; rfl)
  · exact h hpart

/-- The name can only run across a boundary into a character that it has behind its beginning. -/
theorem append (hcs : Silent cs) (hds : Silent ds) (hhead : startsApart ds = true) :
    Silent (cs ++ ds) := by
  intro hfield
  rcases List.infix_append_iff.1 hfield with hleft | hright | ⟨first, second, hname, hfirst, hsecond⟩
  · exact hcs hleft
  · exact hds hright
  · cases first with
    | nil =>
      rw [List.nil_append] at hname
      exact hds (hname ▸ hsecond.isInfix)
    | cons d first =>
      cases second with
      | nil =>
        rw [List.append_nil] at hname
        exact hcs (hname ▸ hfirst.isInfix)
      | cons e second =>
        obtain ⟨rest, rfl⟩ := hsecond
        have hcontinues : e ∈ unsetField.toList.tail := by
          rw [hname]
          simp
        have hnot : (!continuesField e) = true := hhead
        rw [continuesField, List.contains_eq_mem, Bool.not_eq_true',
          decide_eq_false_iff_not] at hnot
        exact hnot hcontinues

/-- Characters other than an underscore can stand in front. -/
theorem append_of_notMem (hcs : '_' ∉ cs) (hds : Silent ds) : Silent (cs ++ ds) := by
  induction cs with
  | nil => exact hds
  | cons c cs ih =>
    rw [List.mem_cons, not_or] at hcs
    obtain ⟨hc, hcs⟩ := hcs
    exact (ih hcs).cons fun h => absurd h.symm hc

end Silent

/-! ## Shapes -/

/-- A line with gaps for texts that are not known yet. -/
abbrev Shape := List (Option Char)

namespace Shape

/-- Whether a shape begins with a character of a kind. -/
def opensWith (kind : Char → Bool) : Shape → Bool
  | some c :: _ => kind c
  | _ => false

/-- Whether no silent fillings can put the name of the field into a line: no underscore stands
before a gap or before the second letter of the name, and what stands behind a gap does not continue
the name. -/
def isQuiet : Shape → Bool
  | [] => true
  | some c :: shape => (c != '_' || opensWith (· != 'u') shape) && isQuiet shape
  | none :: shape => (shape.isEmpty || opensWith (!continuesField ·) shape) && isQuiet shape

end Shape

/-- Whether characters are those of a shape, with silent texts in its gaps. -/
inductive Fills : Shape → List Char → Prop
  | done : Fills [] []
  | char {shape : Shape} {cs : List Char} (c : Char) : Fills shape cs → Fills (some c :: shape) (c :: cs)
  | gap {shape : Shape} {filling cs : List Char} :
    Silent filling → Fills shape cs → Fills (none :: shape) (filling ++ cs)

namespace Fills

variable {shape other : Shape} {cs ds behind : List Char}

theorem append (h : Fills shape cs) (hother : Fills other ds) :
    Fills (shape ++ other) (cs ++ ds) := by
  induction h with
  | done => exact hother
  | char c _ ih => exact ih.char c
  | gap hfilling _ ih =>
    rw [List.append_assoc]
    exact ih.gap hfilling

theorem literal (cs : List Char) : Fills (cs.map some) cs := by
  induction cs with
  | nil => exact .done
  | cons c cs ih => exact ih.char c

theorem filling (h : Silent cs) : Fills [none] cs := by
  have hfills := done.gap h
  rwa [List.append_nil] at hfills

theorem head_of_opensWith {kind : Char → Bool} (h : Fills shape cs)
    (hopens : Shape.opensWith kind shape = true) : ∃ c rest, cs = c :: rest ∧ kind c = true := by
  cases h with
  | done => cases hopens
  | char c _ => exact ⟨c, _, rfl, hopens⟩
  | gap _ _ => cases hopens

/-- A line of a quiet shape is silent, together with what is silent behind it. -/
theorem silent (h : Fills shape cs) (hquiet : Shape.isQuiet shape = true) (hbehind : Silent behind) :
    Silent (cs ++ '\n' :: behind) := by
  have hline : Silent ('\n' :: behind) := hbehind.cons fun h => absurd h (by decide)
  induction h with
  | done => exact hline
  | @char shape cs c h ih =>
    simp only [Shape.isQuiet, Bool.and_eq_true, Bool.or_eq_true, bne_iff_ne] at hquiet
    obtain ⟨hc, hquiet⟩ := hquiet
    refine (ih hquiet).cons fun hunderscore => ?_
    obtain ⟨d, rest, rfl, hd⟩ := h.head_of_opensWith (hc.resolve_left fun h => h hunderscore)
    simpa using hd
  | @gap shape filling cs hfilling h ih =>
    simp only [Shape.isQuiet, Bool.and_eq_true, Bool.or_eq_true] at hquiet
    obtain ⟨hopens, hquiet⟩ := hquiet
    rw [List.append_assoc]
    refine hfilling.append (ih hquiet) ?_
    rcases hopens with hempty | hopens
    · rw [List.isEmpty_iff] at hempty
      subst hempty
      cases h
      rfl
    · obtain ⟨e, rest, rfl, he⟩ := h.head_of_opensWith hopens
      exact he

end Fills

end ValueBuilder
