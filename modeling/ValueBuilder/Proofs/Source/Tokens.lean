import ValueBuilder.Builder.Layout
import ValueBuilder.Proofs.Source.Lines

/-!
# Lines as tokens

To tell what a line declares or names, it is read as words, types and single characters.  Types and
classes stay what they are in the code, so that nothing depends on how a unit spells them.

* `Statement.tokens` are the tokens of a line, and `Statement.line_eq_tokens` says that they make
  its text.
* `Token.significant` are those that a compiler looks at.
* `Statement.tokens_of_opening` gives the tokens of a line whose own text is known character by
  character.  With it, the tokens of generated code can be computed.
-/

namespace ValueBuilder

open Java

/-- A part of a line. -/
inductive Token
  /-- Letters, digits and underscores in a row, and names of the declaration between them.  `own`
  says whether the word is the generator's own as a whole. -/
  | word (cs : List Char) (own : Bool)
  /-- A type, its classes spelled as the unit names them. -/
  | type (t : JavaType)
  /-- A class behind those around it. -/
  | path (c : ClassName)
  /-- Any other character. -/
  | symbol (c : Char)

namespace Token

/-! ## From pieces to tokens -/

/-- Whether a character of the generator's own text belongs to a word. -/
def isWordChar (c : Char) : Bool :=
  c.isAlphanum || c == '_'

/-- Puts characters of a word in front, as part of the word that stands there. -/
def consWord (cs : List Char) (own : Bool) : List Token → List Token
  | word ds others :: behind => word (cs ++ ds) (own && others) :: behind
  | behind => word cs own :: behind

/-- Puts a name in front. -/
def consName (name : String) (behind : List Token) : List Token :=
  consWord name.toList false behind

/-- Puts a character of the generator's own text in front. -/
def consChar (c : Char) (behind : List Token) : List Token :=
  if isWordChar c then consWord [c] true behind else symbol c :: behind

/-- Puts a text of the generator's own in front. -/
def consText (cs : List Char) (behind : List Token) : List Token :=
  cs.foldr consChar behind

/-- Puts a word in front.  A name is part of one word, whatever its characters. -/
def ofWord (w : Word) (behind : List Token) : List Token :=
  match w with
  | .text s => consText s.toList behind
  | .name s | .constant s => consName s behind
  | .field object s => consName object (symbol '.' :: consName s behind)
  | .member enum s => path enum :: symbol '.' :: consName s behind
  | .creation opening c closing =>
    consText opening.toList (path c :: consText closing.toList behind)

/-- Puts a piece in front. -/
def ofPiece (piece : Piece) (behind : List Token) : List Token :=
  match piece with
  | .word w => ofWord w behind
  | .cls c => type (.ofClass c) :: behind
  | .type t => type t :: behind

/-- The tokens of a template's parts. -/
def ofParts (args : List Piece) : List Template.Part → List Token
  | [] | .malformed _ :: _ => []
  | .literal c :: parts => consChar c (ofParts args parts)
  | .argument index :: parts =>
    match args[index - 1]? with
    | some piece => ofPiece piece (ofParts args parts)
    | none => []

/-- To expand a template first comes to the same. -/
theorem foldr_ofPiece_expandParts (args : List Piece) (parts : List Template.Part) :
    (Template.expandParts args parts).pieces.foldr ofPiece [] = ofParts args parts := by
  induction parts with
  | nil => rfl
  | cons part parts ih =>
    cases part with
    | malformed position => rfl
    | literal c =>
      have hpiece : (Template.expandParts args (.literal c :: parts)).pieces =
          .word (.text (String.singleton c)) :: (Template.expandParts args parts).pieces := rfl
      rw [hpiece, List.foldr_cons, ih, ofPiece, ofWord, String.toList_singleton]
      rfl
    | argument index =>
      rw [Template.expandParts, ofParts]
      cases args[index - 1]? with
      | none => rfl
      | some piece =>
        rw [← ih]
        rfl

end Token

/-! ## Tokens of statements -/

namespace Statement

/-- The tokens of a statement's line, blanks among them. -/
def tokens (s : Statement) : List Token :=
  s.pieces.foldr Token.ofPiece []

/-- The text of the generator's own with which a statement opens. -/
def opening : Statement → String
  | template text _ => text
  | verbatim (.text s :: _) => s
  | verbatim _ => ""

/-- The tokens of a statement that opens with given characters. -/
def tokensOver (cs : List Char) : Statement → List Token
  | template _ args => Token.ofParts args (Template.partsFrom 0 0 .none cs)
  | verbatim (.text _ :: words) => Token.consText cs (words.foldr Token.ofWord [])
  | verbatim words => words.foldr Token.ofWord []

theorem tokens_verbatim (words : List Word) :
    (verbatim words).tokens = words.foldr Token.ofWord [] :=
  List.foldr_map

/-- Rewrites the tokens of a statement once the characters of its text are known.  Those of a
literal are found by unification, which is cheaper than to compute them. -/
theorem tokens_of_opening {s : Statement} {cs : List Char} (h : s.opening = String.ofList cs) :
    s.tokens = s.tokensOver cs := by
  cases s with
  | template text args =>
    have htext : text = String.ofList cs := h
    rw [tokens, pieces, Template.expand, Template.parts, htext, String.toList_ofList]
    exact Token.foldr_ofPiece_expandParts args _
  | verbatim words =>
    rw [tokens_verbatim]
    cases words with
    | nil => rfl
    | cons word words =>
      cases word with
      | text s =>
        have htext : s = String.ofList cs := h
        rw [List.foldr_cons, Token.ofWord, htext, String.toList_ofList]
        rfl
      | _ => rfl

end Statement

/-- The tokens of each line of code. -/
def Code.tokens (code : Code) : List (List Token) :=
  code.map Statement.tokens

namespace Code

theorem tokens_nil : Code.tokens [] = [] :=
  rfl

theorem tokens_cons (s : Statement) (code : Code) :
    Code.tokens (s :: code) = s.tokens :: code.tokens :=
  rfl

theorem tokens_joined_nil : Code.tokens (joined []) = [] :=
  rfl

theorem tokens_joined_cons (code : Code) (parts : List Code) :
    Code.tokens (joined (code :: parts)) = code.tokens ++ Code.tokens (joined parts) :=
  List.map_append

theorem tokens_flatMap {α : Type} (xs : List α) (f : α → Code) :
    Code.tokens (xs.flatMap f) = xs.flatMap fun x => (f x).tokens :=
  List.map_flatMap

end Code

/-! ## The text of tokens -/

namespace Token

variable (spelling : Spelling)

/-- The text of a token. -/
def render : Token → String
  | word cs _ => String.ofList cs
  | type t => t.render spelling.spell
  | path c => c.nestedPath
  | symbol c => String.singleton c

/-- The text of tokens in a row. -/
def text (tokens : List Token) : String :=
  tokens.foldr (fun token rest => token.render spelling ++ rest) ""

theorem text_cons (token : Token) (tokens : List Token) :
    text spelling (token :: tokens) = token.render spelling ++ text spelling tokens :=
  rfl

theorem text_consWord (cs : List Char) (own : Bool) (tokens : List Token) :
    text spelling (consWord cs own tokens) = String.ofList cs ++ text spelling tokens := by
  fun_cases consWord cs own tokens with
  | case1 ds others behind =>
    simp only [text_cons, render, String.ofList_append, String.append_assoc]
  | case2 => rfl

theorem text_consText (cs : List Char) (tokens : List Token) :
    text spelling (consText cs tokens) = String.ofList cs ++ text spelling tokens := by
  induction cs with
  | nil => exact String.empty_append.symm
  | cons c cs ih =>
    have hchar (tokens : List Token) :
        text spelling (consChar c tokens) = String.singleton c ++ text spelling tokens := by
      rw [consChar]
      split
      · exact text_consWord spelling [c] true tokens
      · rfl
    rw [String.ofList_cons, String.append_assoc, ← ih]
    exact hchar _

theorem text_ofWord (w : Word) (tokens : List Token) :
    text spelling (ofWord w tokens) = w.render ++ text spelling tokens := by
  have hdot : String.singleton '.' = "." := rfl
  cases w <;>
    simp only [ofWord, Word.render, consName, text_consText, text_consWord, text_cons, render, hdot,
      String.ofList_toList, String.append_assoc]

theorem text_ofPiece (piece : Piece) (tokens : List Token) :
    text spelling (ofPiece piece tokens) = piece.render spelling ++ text spelling tokens := by
  cases piece with
  | word w => exact text_ofWord spelling w tokens
  | cls c =>
    have hclass : (JavaType.ofClass c).render spelling.spell = spelling.spell c :=
      String.append_empty
    rw [ofPiece, text_cons, render, hclass]
    rfl
  | type t => rfl

end Token

/-- The tokens of a line make its text. -/
theorem Statement.line_eq_tokens (spelling : Spelling) (s : Statement) :
    s.line spelling = Token.text spelling s.tokens ++ "\n" := by
  have hpieces (pieces : List Piece) :
      renderPieces spelling pieces = Token.text spelling (pieces.foldr Token.ofPiece []) := by
    induction pieces with
    | nil => rfl
    | cons piece pieces ih =>
      rw [List.foldr_cons, Token.text_ofPiece, ← ih]
      rfl
  rw [line, hpieces, tokens]

/-! ## What a compiler looks at -/

namespace Token

/-- Whether a token is a blank. -/
def isBlank : Token → Bool
  | symbol ' ' => true
  | _ => false

/-- How far a line is indented. -/
def indentation (tokens : List Token) : Nat :=
  (tokens.takeWhile isBlank).length

/-- The tokens of a line without its blanks, and none of a comment. -/
def significant (tokens : List Token) : List Token :=
  match tokens.dropWhile isBlank with
  | symbol '*' :: _ | symbol '/' :: _ => []
  | tokens => tokens.filter (!·.isBlank)

end Token

end ValueBuilder
