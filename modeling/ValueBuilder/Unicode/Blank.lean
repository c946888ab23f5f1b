import ValueBuilder.Unicode.CodeRun

/-!
# Blank characters

The property `White_Space`, which is wider than the ASCII blanks.
-/

namespace ValueBuilder.Unicode

/-- Every code point with the property. -/
def blankRanges : List (Nat × Nat) :=
   [(0x9, 0xD), (0x20, 0x20), (0x85, 0x85), (0xA0, 0xA0), (0x1680, 0x1680), (0x2000, 0x200A),
    (0x2028, 0x2029), (0x202F, 0x202F), (0x205F, 0x205F), (0x3000, 0x3000)]

/-- Blank characters, line breaks included. -/
def isBlank (c : Char) : Bool :=
  inRanges blankRanges c.toNat

/-- A text without the blanks at its ends. -/
def trimBlanks (s : String) : String :=
  let kept := s.toList.dropWhile isBlank
  String.ofList (kept.reverse.dropWhile isBlank).reverse

end ValueBuilder.Unicode
