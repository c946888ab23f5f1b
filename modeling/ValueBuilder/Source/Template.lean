import ValueBuilder.Source.Code
import ValueBuilder.Text.Digits

/-!
# Templates

A template is text with placeholders: `%s` stands for the next argument, `%N$s` for the `N`-th one,
and `%%` for a percent sign.  The characters are read from left to right into parts; the first
placeholder that is malformed ends them.  Of a number `N` that is too big for 64 bits, the lowest 64
bits count.
-/

namespace ValueBuilder

/-- Why a template cannot be expanded. -/
inductive TemplateFault
  /-- A percent sign that starts no placeholder, with its offset in bytes. -/
  | malformed (position : Nat)
  /-- A placeholder for an argument that was not given; arguments count from one. -/
  | missing (index : Nat)
  deriving Repr, DecidableEq

/-- A fault and the template that has it. -/
structure TemplateError where
  template : String
  fault : TemplateFault
  deriving Repr, DecidableEq

/-- The text of the error. -/
def TemplateError.message (error : TemplateError) : String :=
  match error.fault with
  | .malformed position =>
    s!"malformed placeholder at position {position} in template '{error.template}'"
  | .missing index => s!"no argument {index} for template '{error.template}'"

namespace Template

/-- One part of a template. -/
inductive Part
  | literal (c : Char)
  /-- The argument of an index, which counts from one. -/
  | argument (index : Nat)
  /-- The end of what can be read. -/
  | malformed (position : Nat)
  deriving Repr, DecidableEq

/-- How far a placeholder has been read; `start` is the offset of its percent sign. -/
inductive Progress
  /-- No placeholder has begun. -/
  | none
  | percent (start : Nat)
  | digits (start : Nat) (value : UInt64)
  | dollar (start : Nat) (index : UInt64)
  deriving Repr, DecidableEq

/-- The parts of the characters from `position` on, after `ordinary` placeholders without an
index. -/
def partsFrom (position ordinary : Nat) : Progress → List Char → List Part
  | .none, [] => []
  | .percent start, [] | .digits start _, [] | .dollar start _, [] => [.malformed start]
  | .none, c :: cs =>
    let next := position + c.utf8Size
    if c == '%' then partsFrom next ordinary (.percent position) cs
    else .literal c :: partsFrom next ordinary .none cs
  | .percent start, c :: cs =>
    let next := position + c.utf8Size
    if c == '%' then .literal '%' :: partsFrom next ordinary .none cs
    else if c == 's' then .argument (ordinary + 1) :: partsFrom next (ordinary + 1) .none cs
    else if c.isDigit then partsFrom next ordinary (.digits start (.ofNat (digitValue c))) cs
    else [.malformed start]
  | .digits start value, c :: cs =>
    let next := position + c.utf8Size
    if c.isDigit then
      partsFrom next ordinary (.digits start (10 * value + .ofNat (digitValue c))) cs
    else if c == '$' then partsFrom next ordinary (.dollar start value) cs
    else [.malformed start]
  | .dollar start index, c :: cs =>
    let next := position + c.utf8Size
    if c == 's' && index != 0 then .argument index.toNat :: partsFrom next ordinary .none cs
    else [.malformed start]
termination_by structural _ cs => cs

/-- The parts of a template. -/
def parts (template : String) : List Part :=
  partsFrom 0 0 .none template.toList

/-- What expanding came to: the pieces before the fault, or all of them. -/
structure Expansion where
  pieces : List Piece
  fault : Option TemplateFault
  deriving Repr

/-- Puts a piece before an expansion. -/
def Expansion.cons (piece : Piece) (e : Expansion) : Expansion :=
  { e with pieces := piece :: e.pieces }

/-- Replaces the placeholders by arguments, as far as possible. -/
def expandParts (args : List Piece) : List Part → Expansion
  | [] => ⟨[], none⟩
  | .literal c :: rest => (expandParts args rest).cons (.word (.text (String.singleton c)))
  | .malformed position :: _ => ⟨[], some (.malformed position)⟩
  | .argument index :: rest =>
    match args[index - 1]? with
    | some piece => (expandParts args rest).cons piece
    | none => ⟨[], some (.missing index)⟩

/-- Expands a template. -/
def expand (template : String) (args : List Piece) : Expansion :=
  expandParts args (parts template)

end Template

end ValueBuilder
