import Mathlib.Tactic.SplitIfs
import ValueBuilder.Proofs.Source.Lines

/-!
# Errors that stay pending

A row of calls on a unit, against a row in which nothing fails silently.

* `Call.error?` is the error of a call, which its template and its arguments decide alone, and
  `surviving` leaves out the text calls that are made while an error is pending.
* `Call.perform_eq` is what one call comes to that is not left out, and `run_eq` what a row of calls
  comes to.
* `errors_are_sticky` assembles what the unit holds after the calls, and which error is pending.
-/

namespace ValueBuilder.SourceUnit

open Java

/-! ## Calls -/

/-- A call on a unit. -/
inductive Call
  | add (template : String) (args : List Piece)
  | addLine (template : String) (args : List Piece)
  | line (text : String)
  | reserve (members : List ClassName)
  | takeError

namespace Call

/-- The unit after the call. -/
def perform (u : SourceUnit) : Call → SourceUnit
  | add template args => u.add template args
  | addLine template args => u.addLine template args
  | line text => u.line text
  | reserve members => u.reserve members
  | takeError => u.takeError.2

/-- Whether the call is one that writes text. -/
def isText : Call → Bool
  | add .. | addLine .. | line _ => true
  | reserve _ | takeError => false

/-- The error of a call whose template cannot be expanded. -/
def error? : Call → Option TemplateError
  | add template args | addLine template args =>
    (Template.expand template args).fault.map fun fault => ⟨template, fault⟩
  | line _ | reserve _ | takeError => none

/-- What the call writes if it does not fail. -/
def text (spelling : Spelling) : Call → String
  | add template args => renderPieces spelling (Template.expand template args).pieces
  | addLine template args => renderPieces spelling (Template.expand template args).pieces ++ "\n"
  | line text => text ++ "\n"
  | reserve _ | takeError => ""

/-- The names behind the call: those of the classes before a fault are given out as well. -/
def note (spelling : Spelling) : Call → Spelling
  | add template args | addLine template args =>
    spelling.mentionAll ((Template.expand template args).pieces.flatMap Piece.classes)
  | reserve members => spelling.reserveAll members
  | line _ | takeError => spelling

/-- The error that is pending behind the call. -/
def pending (error : Option TemplateError) : Call → Option TemplateError
  | takeError => none
  | call => error.or call.error?

end Call

/-- Makes calls in order. -/
def run (u : SourceUnit) (calls : List Call) : SourceUnit :=
  calls.foldl Call.perform u

/-- The calls without the text calls that are made while an error is pending. -/
def surviving : Option TemplateError → List Call → List Call
  | _, [] => []
  | error, call :: calls =>
    if error.isSome && call.isText then surviving error calls
    else call :: surviving (call.pending error) calls

/-- What calls write that do not fail, each with the names of its time. -/
def written (spelling : Spelling) : List Call → List String
  | [] => []
  | call :: calls =>
    let noted := call.note spelling
    if call.error?.isSome then written noted calls else call.text noted :: written noted calls

/-! ## One call -/

section Call

variable {u : SourceUnit} {call : Call} {template : String} {args : List Piece}

/-- While an error is pending, a text call has no effect. -/
theorem perform_of_pending (herror : u.error.isSome = true) (htext : call.isText = true) :
    call.perform u = u := by
  have hput (text : String) : u.put text = u := if_pos herror
  have hadd (template : String) (args : List Piece) : u.add template args = u := if_pos herror
  cases call with
  | add template args => exact hadd template args
  | addLine template args => rw [Call.perform, addLine, hadd, hput]
  | line text => exact hput _
  | reserve members => cases htext
  | takeError => cases htext

/-- Expanding a template gives out names, and writes its text unless it fails. -/
theorem add_eq (h : u.error = none) (template : String) (args : List Piece) :
    u.add template args =
      { u with
        spelling := (Call.add template args).note u.spelling
        body := u.body ++ if (Call.add template args).error?.isSome then ""
          else (Call.add template args).text ((Call.add template args).note u.spelling)
        error := (Call.add template args).error? } := by
  have hmention (classes : List ClassName) : (u.mention classes).error = none := h
  rw [add, h]
  simp only [Option.isSome_none, Bool.false_eq_true, if_false, Call.error?, Call.note, Call.text]
  split
  · next hfault =>
    rw [put_eq (hmention _)]
    simp [hfault, mention, h]
  · next fault hfault => simp [hfault, mention]

/-- A call that is not left out gives out names, writes its text unless it fails, and adds its error
to the pending one. -/
theorem Call.perform_eq (hsurvives : u.error = none ∨ call.isText = false) :
    call.perform u =
      { u with
        spelling := call.note u.spelling
        body := u.body ++ if call.error?.isSome then "" else call.text (call.note u.spelling)
        error := call.pending u.error } := by
  cases call with
  | reserve members =>
    simp [perform, SourceUnit.reserve, note, error?, text, pending]
  | takeError => simp [perform, SourceUnit.takeError, note, error?, text, pending]
  | line text =>
    have h : u.error = none := hsurvives.resolve_right Bool.noConfusion
    simp [perform, SourceUnit.line, put_eq h, note, error?, Call.text, pending, h]
  | add template args =>
    have h : u.error = none := hsurvives.resolve_right Bool.noConfusion
    simp [perform, add_eq h, pending, h]
  | addLine template args =>
    have h : u.error = none := hsurvives.resolve_right Bool.noConfusion
    rw [perform, SourceUnit.addLine, add_eq h]
    cases herror : (Call.add template args).error? with
    | some error =>
      have hline : (Call.addLine template args).error? = some error := herror
      simp [put, note, pending, hline, h]
    | none =>
      have hline : (Call.addLine template args).error? = none := herror
      simp [put, note, pending, hline, h, text, String.append_assoc]

/-- Every call, left out or not, adds its error to the pending one. -/
theorem Call.error_perform (u : SourceUnit) (call : Call) :
    (call.perform u).error = call.pending u.error := by
  by_cases hsurvives : u.error = none ∨ call.isText = false
  · rw [perform_eq hsurvives]
  · rw [not_or, Bool.not_eq_false, ← ne_eq, Option.ne_none_iff_isSome] at hsurvives
    rw [perform_of_pending hsurvives.1 hsurvives.2]
    obtain ⟨error, herror⟩ := Option.isSome_iff_exists.1 hsurvives.1
    cases call with
    | takeError => cases hsurvives.2
    | _ => simp [pending, herror]

end Call

/-! ## Rows of calls -/

section Run

variable {u : SourceUnit} {calls before behind : List Call}

theorem run_append (u : SourceUnit) (before behind : List Call) :
    u.run (before ++ behind) = (u.run before).run behind :=
  List.foldl_append

theorem error_run (u : SourceUnit) (calls : List Call) :
    (u.run calls).error = calls.foldl Call.pending u.error := by
  induction calls generalizing u with
  | nil => rfl
  | cons call calls ih =>
    exact (ih (call.perform u)).trans (by rw [Call.error_perform, List.foldl_cons])

/-- The unit after calls: its names, and the text that the calls write. -/
theorem run_eq (u : SourceUnit) (calls : List Call) :
    u.run calls =
      { u with
        spelling := (surviving u.error calls).foldl Call.note u.spelling
        body := u.body ++ String.join (written u.spelling (surviving u.error calls))
        error := calls.foldl Call.pending u.error } := by
  induction calls generalizing u with
  | nil => simp [run, surviving, written]
  | cons call calls ih =>
    rw [surviving, List.foldl_cons]
    split_ifs with hsilenced
    · obtain ⟨herror, htext⟩ := Bool.and_eq_true _ _ ▸ hsilenced
      have hcall : call.perform u = u := perform_of_pending herror htext
      have hpending : call.pending u.error = u.error := by
        rw [← Call.error_perform, hcall]
      have hrun : u.run (call :: calls) = u.run calls := congrArg (run · calls) hcall
      rw [hrun, ih, hpending]
    · have hsurvives : u.error = none ∨ call.isText = false := by
        rw [Bool.not_eq_true, Bool.and_eq_false_iff, Option.isSome_eq_false_iff,
          Option.isNone_iff_eq_none] at hsilenced
        exact hsilenced
      have hrun : u.run (call :: calls) = (call.perform u).run calls := rfl
      rw [hrun, ih, Call.perform_eq hsurvives, List.foldl_cons, written]
      split_ifs with hfails
      · simp
      · simp [String.join_cons, String.append_assoc]

/-- Without taking errors, the first error stays. -/
theorem foldl_pending_of_notMem (error : Option TemplateError) (h : Call.takeError ∉ calls) :
    calls.foldl Call.pending error = error.or (calls.findSome? Call.error?) := by
  induction calls generalizing error with
  | nil => simp
  | cons call calls ih =>
    rw [List.mem_cons, not_or] at h
    obtain ⟨hcall, hcalls⟩ := h
    have hpending : call.pending error = error.or call.error? := by
      cases call with
      | takeError => exact absurd rfl hcall
      | _ => rfl
    rw [List.foldl_cons, ih _ hcalls, hpending, List.findSome?_cons, Option.or_assoc]
    cases call.error? <;> rfl

/-- Behind a call that fails an error is pending until one is taken. -/
theorem isSome_error_run {failing : Call} {between : List Call}
    (hfails : failing.error?.isSome = true) (htaken : Call.takeError ∉ between) :
    (u.run (before ++ failing :: between)).error.isSome = true := by
  have hpending (error : Option TemplateError) : (failing.pending error).isSome = true := by
    cases failing with
    | takeError => cases hfails
    | _ => simp [Call.pending, hfails]
  rw [error_run, List.foldl_append, List.foldl_cons, foldl_pending_of_notMem _ htaken]
  simp [hpending]

/-- Errors are sticky.  The body is what the calls write that succeed, in order, and the names are
those of the calls that survive: a text call between one that fails and the next taking of an error
has no effect at all.  The error that is pending is that of the first call that failed since an
error was taken, and it is what finishing answers. -/
theorem errors_are_sticky (u : SourceUnit) (calls : List Call) :
    (u.run calls).body = u.body ++ String.join (written u.spelling (surviving u.error calls)) ∧
      (u.run calls).spelling = (surviving u.error calls).foldl Call.note u.spelling ∧
      (∀ before failing between call behind,
        calls = before ++ failing :: between ++ call :: behind →
          failing.error?.isSome = true → Call.takeError ∉ between → call.isText = true →
            u.run calls = u.run (before ++ failing :: between ++ behind)) ∧
      (Call.takeError ∉ calls →
        (u.run calls).takeError.1 = u.error.or (calls.findSome? Call.error?)) ∧
      (∀ before since, calls = before ++ .takeError :: since → Call.takeError ∉ since →
        (u.run calls).takeError.1 = since.findSome? Call.error?) ∧
      ∀ error, (u.run calls).finish = .error error ↔ (u.run calls).takeError.1 = some error := by
  refine ⟨by rw [run_eq], by rw [run_eq], ?_, fun htaken => ?_, ?_, fun error => ?_⟩
  · rintro before failing between call behind rfl hfails htaken htext
    rw [run_append u _ (call :: behind), run_append u _ behind]
    exact congrArg (run · behind) (perform_of_pending (isSome_error_run hfails htaken) htext)
  · exact (error_run u calls).trans (foldl_pending_of_notMem u.error htaken)
  · rintro before since rfl htaken
    have hsince : (u.run (before ++ .takeError :: since)).takeError.1 =
        since.foldl Call.pending none := by
      rw [SourceUnit.takeError, error_run, List.foldl_append, List.foldl_cons, Call.pending]
    rw [hsince, foldl_pending_of_notMem none htaken, Option.none_or]
  · rw [finish, SourceUnit.takeError]
    cases (u.run calls).error <;> simp

end Run

end ValueBuilder.SourceUnit
