import ValueBuilder.Proofs.Text.Parts
import ValueBuilder.Run.Place
import ValueBuilder.Run.Script

/-!
# Paths that lead down

A path whose steps are plain names leads from a directory to something below it, wherever that
directory lies.

* `Place.foldl_step`: each of such steps goes down by one name.
* `Place.ofPath_intercalate`: the text of such a path is relative, and its steps are read back.
* `Place.ofPath_pathBelow`: behind the text of a directory it leads to a place below that directory.
-/

namespace ValueBuilder

namespace Place

/-- Whether a step of a path leads from a directory to something in it. -/
structure LeadsDown (name : String) : Prop where
  ne_empty : name ≠ ""
  ne_here : name ≠ "."
  ne_above : name ≠ ".."
  no_separator : '/' ∉ name.toList

variable {name root : String} {steps : List String}

theorem LeadsDown.step_eq (h : LeadsDown name) (here : Place) :
    step here name = here ++ [name] := by
  have hleaves : staysHere name = false := by
    unfold staysHere
    simp [h.ne_empty, h.ne_here]
  unfold step
  rw [hleaves, if_neg Bool.false_ne_true, if_neg]
  simpa using h.ne_above

theorem foldl_step (here : Place) (h : ∀ name ∈ steps, LeadsDown name) :
    steps.foldl step here = here ++ steps := by
  induction steps generalizing here with
  | nil => simp
  | cons name steps ih =>
    obtain ⟨hname, hsteps⟩ := List.forall_mem_cons.1 h
    rw [List.foldl_cons, hname.step_eq, ih _ hsteps, List.append_assoc, List.singleton_append]

theorem parts_path (h : ∀ name ∈ steps, LeadsDown name) (hne : steps ≠ []) :
    parts '/' ("/".intercalate steps) = steps :=
  parts_intercalate hne fun name hname => (h name hname).no_separator

/-! ## Relative paths -/

/-- The first character of a text decides whether its path is relative. -/
theorem start_append (hroot : root ≠ "") (behind : String) :
    start (root ++ behind) = start root := by
  have hchars : root.toList ≠ [] := by simpa using hroot
  have hhead : (root.toList ++ behind.toList).head? = root.toList.head? := by
    rw [List.head?_append, Option.or_of_isSome (List.isSome_head?.2 hchars)]
  unfold start
  rw [String.toList_append, hhead]

theorem start_eq_nil (h : '/' ∉ name.toList) : start name = [] := by
  unfold start
  rw [if_neg]
  intro hhead
  exact h (List.mem_of_head? (eq_of_beq hhead))

theorem start_path (h : ∀ name ∈ steps, LeadsDown name) : start ("/".intercalate steps) = [] := by
  cases steps with
  | nil => rfl
  | cons name steps =>
    have hname := h name List.mem_cons_self
    cases steps with
    | nil =>
      rw [String.intercalate_singleton]
      exact start_eq_nil hname.no_separator
    | cons next steps =>
      rw [String.intercalate_cons_cons, String.append_assoc, start_append hname.ne_empty]
      exact start_eq_nil hname.no_separator

/-- A path of steps down is relative, and leads where its steps lead. -/
theorem ofPath_intercalate (h : ∀ name ∈ steps, LeadsDown name) (hne : steps ≠ []) :
    ofPath ("/".intercalate steps) = steps := by
  unfold ofPath
  rw [parts_path h hne, start_path h, foldl_step _ h, List.nil_append]

/-! ## Paths behind a directory -/

/-- A separator at the end of a path leads nowhere. -/
theorem foldl_step_parts_append (here : Place) (before : String) :
    (parts '/' (before ++ "/")).foldl step here = (parts '/' before).foldl step here := by
  have hparts : parts '/' (before ++ "/" ++ "") = parts '/' before ++ parts '/' "" :=
    parts_append before ""
  rw [String.append_empty] at hparts
  rw [hparts, List.foldl_append]
  rfl

/-- Steps down behind a directory lead to a place below it. -/
theorem ofPath_pathBelow (hroot : root ≠ "") (h : ∀ name ∈ steps, LeadsDown name)
    (hne : steps ≠ []) : ofPath (Job.pathBelow root steps) = ofPath root ++ steps := by
  have hbelow (before : String) (here : Place) :
      (parts '/' (before ++ "/" ++ "/".intercalate steps)).foldl step here =
        (parts '/' before).foldl step here ++ steps := by
    have hparts : parts '/' (before ++ "/" ++ "/".intercalate steps) =
        parts '/' before ++ parts '/' ("/".intercalate steps) :=
      parts_append before _
    rw [hparts, List.foldl_append, parts_path h hne, foldl_step _ h]
  unfold Job.pathBelow ofPath
  dsimp only
  -- A directory that ends in a separator is followed by the steps right away.
  split
  · next hlast =>
    obtain ⟨before, hbefore⟩ := List.getLast?_eq_some_iff.1 hlast
    have hends : root = String.ofList before ++ "/" := by
      apply String.toList_inj.1
      rw [hbefore, String.toList_append, String.toList_ofList]
      rfl
    rw [String.append_empty, start_append hroot, hends, hbelow, foldl_step_parts_append]
  · next hlast =>
    rw [String.append_assoc, start_append hroot, ← String.append_assoc, hbelow]

end Place

end ValueBuilder
