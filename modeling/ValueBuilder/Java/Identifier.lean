import ValueBuilder.Unicode.Alphabetic

/-!
# Java identifiers

An identifier starts with a letter, an underscore or a dollar sign and goes on with those or with
numbers, of any script.  Reserved words are not singled out.
-/

namespace ValueBuilder.Java

/-- Characters that may open an identifier. -/
def isIdentifierStart (c : Char) : Bool :=
  Unicode.isAlphabetic c || c == '_' || c == '$'

/-- Characters that may follow in an identifier. -/
def isIdentifierPart (c : Char) : Bool :=
  Unicode.isAlphanumeric c || c == '_' || c == '$'

/-- Whether the characters spell an identifier; the empty text does not. -/
def spellsIdentifier : List Char → Bool
  | [] => false
  | c :: cs => isIdentifierStart c && cs.all isIdentifierPart

/-- Whether the text is an identifier. -/
def isIdentifier (s : String) : Bool :=
  spellsIdentifier s.toList

theorem isIdentifierPart_of_isIdentifierStart {c : Char} (h : isIdentifierStart c = true) :
    isIdentifierPart c = true := by
  simp only [isIdentifierStart, isIdentifierPart, Unicode.isAlphanumeric, Bool.or_eq_true] at h ⊢
  rcases h with (h | h) | h <;> simp [h]

theorem all_isIdentifierPart_of_spellsIdentifier {cs : List Char}
    (h : spellsIdentifier cs = true) : cs.all isIdentifierPart = true := by
  cases cs with
  | nil => rfl
  | cons c cs =>
    simp only [spellsIdentifier, Bool.and_eq_true] at h
    simp [isIdentifierPart_of_isIdentifierStart h.1, h.2]

end ValueBuilder.Java
