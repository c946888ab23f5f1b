import ValueBuilder.Console.Color
import ValueBuilder.Text.Digits
import ValueBuilder.Text.Split

/-!
# Palettes

Each role of a text has a colour for dark and one for light backgrounds.  Whether colours are used
and which background there is can be asked for, or is found out from the terminal.
-/

namespace ValueBuilder

/-! ## Themes -/

/-- The background of the terminal. -/
inductive Theme
  | dark
  | light
  deriving Repr, DecidableEq

/-- The theme that is asked for. -/
inductive ThemeMode
  | dark
  | light
  | auto
  deriving Repr, DecidableEq

/-- The number that decimal digits of a byte give; a plus may stand before them. -/
def byteNumber? (s : String) : Option Nat :=
  let digits := match s.toList with
    | '+' :: cs => cs
    | cs => cs
  if digits.isEmpty || !digits.all Char.isDigit then none
  else
    if digitsValue digits < 256 then some (digitsValue digits) else none

/-- Whether a colour of the terminal's palette is a light background. -/
def isLightBackground (number : Nat) : Bool :=
  7 ≤ number && number != 8

/-- The theme of a terminal that tells its colours: the last of them is the background. -/
def Theme.ofTerminalColors? (colors : String) : Option Theme :=
  (byteNumber? (lastPart ';' colors)).map fun n => if isLightBackground n then .light else .dark

namespace ThemeMode

/-- The modes by their names. -/
def names : List (String × ThemeMode) :=
  [("dark", dark), ("light", light), ("auto", auto)]

/-- The mode of a name. -/
def ofName? (s : String) : Option ThemeMode :=
  names.lookup s

/-- The theme to use on a terminal that may tell its colours. -/
def resolve (terminalColors : Option String) : ThemeMode → Theme
  | dark => .dark
  | light => .light
  | auto => (terminalColors.bind Theme.ofTerminalColors?).getD .dark

end ThemeMode

/-! ## Use of colours -/

/-- The use of colours that is asked for. -/
inductive ColorMode
  | always
  | auto
  | never
  deriving Repr, DecidableEq

namespace ColorMode

/-- The modes by their names. -/
def names : List (String × ColorMode) :=
  [("always", always), ("auto", auto), ("never", never)]

/-- The mode of a name. -/
def ofName? (s : String) : Option ColorMode :=
  names.lookup s

/-- Whether to use colours, given whether the output is a terminal that wants them. -/
def resolve (wanted : Bool) : ColorMode → Bool
  | always => true
  | auto => wanted
  | never => false

end ColorMode

/-! ## Colours by role -/

/-- What a text is there for. -/
inductive Role
  | timestamp
  | primary
  | accent
  | info
  | success
  | label
  | value
  | muted
  deriving Repr, DecidableEq

namespace Role

/-- The roles in the order of their definition. -/
def all : List Role :=
  [timestamp, primary, accent, info, success, label, value, muted]

/-- The name of the role. -/
def name : Role → String
  | timestamp => "timestamp"
  | primary => "primary"
  | accent => "accent"
  | info => "info"
  | success => "success"
  | label => "label"
  | value => "value"
  | muted => "muted"

/-- The colour on a dark background. -/
def onDark : Role → Color
  | timestamp => .rgb 128 150 170
  | primary => .rgb 222 170 110
  | accent => .rgb 232 112 76
  | info => .rgb 110 170 210
  | success => .rgb 120 190 130
  | label => .rgb 240 190 90
  | value => .rgb 245 225 160
  | muted => .rgb 120 120 120

/-- The colour on a light background. -/
def onLight : Role → Color
  | timestamp => .rgb 88 96 105
  | primary => .rgb 110 70 35
  | accent => .rgb 190 74 48
  | info => .rgb 36 100 160
  | success => .rgb 30 130 70
  | label => .rgb 160 100 40
  | value => .rgb 120 90 50
  | muted => .rgb 140 140 140

end Role

/-- The colours of a terminal. -/
structure Palette where
  usesColors : Bool
  theme : Theme
  deriving Repr, DecidableEq

namespace Palette

/-- The colour of a role. -/
def color (palette : Palette) (role : Role) : Color :=
  if palette.usesColors then
    match palette.theme with
    | .dark => role.onDark
    | .light => role.onLight
  else .reset

/-- A text in the colour of a role. -/
def paint (palette : Palette) (role : Role) (s : String) : String :=
  (palette.color role).paint s

end Palette

end ValueBuilder
