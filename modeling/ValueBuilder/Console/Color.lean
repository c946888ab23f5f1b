/-!
# Terminal colours

A colour is one of the sixteen that have names, one of 256 by number, one by its red, green and blue
parts, or the terminal's own.
-/

namespace ValueBuilder

/-- The colours with names, in the order of their numbers. -/
inductive NamedColor
  | black
  | darkRed
  | darkGreen
  | darkYellow
  | darkBlue
  | darkMagenta
  | darkCyan
  | grey
  | darkGrey
  | red
  | green
  | yellow
  | blue
  | magenta
  | cyan
  | white
  deriving Repr, DecidableEq

namespace NamedColor

/-- The named colours in the order of their numbers. -/
def all : List NamedColor :=
  [black, darkRed, darkGreen, darkYellow, darkBlue, darkMagenta, darkCyan, grey, darkGrey, red,
    green, yellow, blue, magenta, cyan, white]

/-- The name in capitalised words. -/
def name : NamedColor → String
  | black => "Black"
  | darkRed => "DarkRed"
  | darkGreen => "DarkGreen"
  | darkYellow => "DarkYellow"
  | darkBlue => "DarkBlue"
  | darkMagenta => "DarkMagenta"
  | darkCyan => "DarkCyan"
  | grey => "Grey"
  | darkGrey => "DarkGrey"
  | red => "Red"
  | green => "Green"
  | yellow => "Yellow"
  | blue => "Blue"
  | magenta => "Magenta"
  | cyan => "Cyan"
  | white => "White"

/-- The name in small words joined by underscores. -/
def smallName : NamedColor → String
  | black => "black"
  | darkRed => "dark_red"
  | darkGreen => "dark_green"
  | darkYellow => "dark_yellow"
  | darkBlue => "dark_blue"
  | darkMagenta => "dark_magenta"
  | darkCyan => "dark_cyan"
  | grey => "grey"
  | darkGrey => "dark_grey"
  | red => "red"
  | green => "green"
  | yellow => "yellow"
  | blue => "blue"
  | magenta => "magenta"
  | cyan => "cyan"
  | white => "white"

/-- The number among the 256 colours. -/
def number (c : NamedColor) : Nat :=
  all.idxOf c

end NamedColor

/-- A colour of text on a terminal. -/
inductive Color
  /-- The terminal's own colour. -/
  | reset
  | named (c : NamedColor)
  | numbered (n : UInt8)
  | rgb (red green blue : UInt8)
  deriving Repr, DecidableEq

namespace Color

/-- The colour of a name in small words. -/
def ofSmallName? (s : String) : Option Color :=
  if s == "reset" then some reset
  else (NamedColor.all.find? (·.smallName == s)).map named

/-- The parameters of the escape sequence that switches to the colour. -/
def code : Color → String
  | reset => "39"
  | named c => s!"38;5;{c.number}"
  | numbered n => s!"38;5;{n}"
  | rgb red green blue => s!"38;2;{red};{green};{blue}"

/-- The escape sequence that switches to the colour. -/
def escape (c : Color) : String :=
  "\x1b[" ++ c.code ++ "m"

/-- A text in the colour; behind it the terminal's own colour is switched on again. -/
def paint (c : Color) (s : String) : String :=
  c.escape ++ s ++ reset.escape

end Color

end ValueBuilder
