import ValueBuilder.Unicode.CodeRun

/-!
# Columns on a terminal

How many columns Java names take.  A letter takes one column, a wide letter of an East Asian script
two, and what attaches to another letter none.  Some letters are drawn as one when they stand side
by side; a text is measured from its end, and each letter looks at what stands behind it.
-/

namespace ValueBuilder.Unicode

/-! ## Single characters -/

/-- Marks that stand above, below or inside the letter before them: the general category Mn. -/
def markRanges : List (Nat × Nat) :=
   [(0x345, 0x36F), (0x5B0, 0x5C7), (0x610, 0x61A), (0x64B, 0x65F), (0x670, 0x670), (0x6D6, 0x6E4),
    (0x6E7, 0x6ED), (0x711, 0x711), (0x730, 0x73F), (0x7A6, 0x7B0), (0x816, 0x817), (0x81B, 0x823),
    (0x825, 0x827), (0x829, 0x82C), (0x897, 0x897), (0x8D4, 0x902), (0x93A, 0x93A), (0x941, 0x948),
    (0x955, 0x957), (0x962, 0x963), (0x981, 0x981), (0x9C1, 0x9C4), (0x9E2, 0x9E3), (0xA01, 0xA02),
    (0xA41, 0xA42), (0xA47, 0xA48), (0xA4B, 0xA4C), (0xA51, 0xA51), (0xA70, 0xA71), (0xA75, 0xA75),
    (0xA81, 0xA82), (0xAC1, 0xAC5), (0xAC7, 0xAC8), (0xAE2, 0xAE3), (0xAFA, 0xAFC), (0xB01, 0xB01),
    (0xB3F, 0xB3F), (0xB41, 0xB44), (0xB56, 0xB56), (0xB62, 0xB63), (0xB82, 0xB82), (0xBC0, 0xBC0),
    (0xC00, 0xC00), (0xC04, 0xC04), (0xC3E, 0xC40), (0xC46, 0xC48), (0xC4A, 0xC4C), (0xC55, 0xC56),
    (0xC62, 0xC63), (0xC81, 0xC81), (0xCBF, 0xCBF), (0xCC6, 0xCC6), (0xCCC, 0xCCC), (0xCE2, 0xCE3),
    (0xD00, 0xD01), (0xD41, 0xD44), (0xD62, 0xD63), (0xD81, 0xD81), (0xDD2, 0xDD4), (0xDD6, 0xDD6),
    (0xE31, 0xE31), (0xE34, 0xE3A), (0xE4D, 0xE4D), (0xEB1, 0xEB1), (0xEB4, 0xEBC), (0xECD, 0xECD),
    (0xF71, 0xF7E), (0xF80, 0xF83), (0xF8D, 0xF97), (0xF99, 0xFBC), (0x102D, 0x1030),
    (0x1032, 0x1036), (0x103D, 0x103E), (0x1058, 0x1059), (0x105E, 0x1060), (0x1071, 0x1074),
    (0x1082, 0x1082), (0x1085, 0x1086), (0x108D, 0x108D), (0x109D, 0x109D), (0x1712, 0x1713),
    (0x1732, 0x1733), (0x1752, 0x1753), (0x1772, 0x1773), (0x17B7, 0x17BD), (0x17C6, 0x17C6),
    (0x1885, 0x1886), (0x18A9, 0x18A9), (0x1920, 0x1922), (0x1927, 0x1928), (0x1932, 0x1932),
    (0x1A17, 0x1A18), (0x1A1B, 0x1A1B), (0x1A56, 0x1A56), (0x1A58, 0x1A5E), (0x1A62, 0x1A62),
    (0x1A65, 0x1A6C), (0x1A73, 0x1A74), (0x1ABF, 0x1ACE), (0x1B00, 0x1B03), (0x1B36, 0x1B3A),
    (0x1B3C, 0x1B3C), (0x1B42, 0x1B42), (0x1B80, 0x1B81), (0x1BA2, 0x1BA5), (0x1BA8, 0x1BAD),
    (0x1BE8, 0x1BE9), (0x1BED, 0x1BED), (0x1BEF, 0x1BF1), (0x1C2C, 0x1C33), (0x1C36, 0x1C36),
    (0x1DD3, 0x1DF4), (0x2DE0, 0x2DFF), (0xA674, 0xA67B), (0xA69E, 0xA69F), (0xA802, 0xA802),
    (0xA80B, 0xA80B), (0xA825, 0xA826), (0xA8C5, 0xA8C5), (0xA8FF, 0xA8FF), (0xA926, 0xA92A),
    (0xA947, 0xA951), (0xA980, 0xA982), (0xA9B6, 0xA9B9), (0xA9BC, 0xA9BD), (0xA9E5, 0xA9E5),
    (0xAA29, 0xAA2E), (0xAA31, 0xAA32), (0xAA35, 0xAA36), (0xAA43, 0xAA43), (0xAA4C, 0xAA4C),
    (0xAA7C, 0xAA7C), (0xAAB0, 0xAAB0), (0xAAB2, 0xAAB4), (0xAAB7, 0xAAB8), (0xAABE, 0xAABE),
    (0xAAEC, 0xAAED), (0xABE5, 0xABE5), (0xABE8, 0xABE8), (0xFB1E, 0xFB1E), (0x10376, 0x1037A),
    (0x10A01, 0x10A03), (0x10A05, 0x10A06), (0x10A0C, 0x10A0F), (0x10D24, 0x10D27),
    (0x10D69, 0x10D69), (0x10EAB, 0x10EAC), (0x10EFA, 0x10EFC), (0x11001, 0x11001),
    (0x11038, 0x11045), (0x11073, 0x11074), (0x11080, 0x11081), (0x110B3, 0x110B6),
    (0x110C2, 0x110C2), (0x11100, 0x11102), (0x11127, 0x1112B), (0x1112D, 0x11132),
    (0x11180, 0x11181), (0x111B6, 0x111BE), (0x111CF, 0x111CF), (0x1122F, 0x11231),
    (0x11234, 0x1123E), (0x11241, 0x11241), (0x112DF, 0x112DF), (0x112E3, 0x112E8),
    (0x11300, 0x11301), (0x11340, 0x11340), (0x113BB, 0x113C0), (0x11438, 0x1143F),
    (0x11443, 0x11444), (0x114B3, 0x114B8), (0x114BA, 0x114BA), (0x114BF, 0x114C0),
    (0x115B2, 0x115B5), (0x115BC, 0x115BD), (0x115DC, 0x115DD), (0x11633, 0x1163A),
    (0x1163D, 0x1163D), (0x11640, 0x11640), (0x116AB, 0x116AB), (0x116AD, 0x116AD),
    (0x116B0, 0x116B5), (0x1171D, 0x1171D), (0x1171F, 0x1171F), (0x11722, 0x11725),
    (0x11727, 0x1172A), (0x1182F, 0x11837), (0x1193B, 0x1193C), (0x119D4, 0x119D7),
    (0x119DA, 0x119DB), (0x11A01, 0x11A0A), (0x11A35, 0x11A38), (0x11A3B, 0x11A3E),
    (0x11A51, 0x11A56), (0x11A59, 0x11A5B), (0x11A8A, 0x11A96), (0x11B60, 0x11B60),
    (0x11B62, 0x11B64), (0x11B66, 0x11B66), (0x11C30, 0x11C36), (0x11C38, 0x11C3D),
    (0x11C92, 0x11CA7), (0x11CAA, 0x11CB0), (0x11CB2, 0x11CB3), (0x11CB5, 0x11CB6),
    (0x11D31, 0x11D36), (0x11D3A, 0x11D3A), (0x11D3C, 0x11D3D), (0x11D3F, 0x11D43),
    (0x11D47, 0x11D47), (0x11D90, 0x11D91), (0x11D95, 0x11D95), (0x11EF3, 0x11EF4),
    (0x11F00, 0x11F01), (0x11F36, 0x11F3A), (0x11F40, 0x11F40), (0x1611E, 0x16129),
    (0x1612D, 0x1612E), (0x16F4F, 0x16F4F), (0x16F8F, 0x16F92), (0x1BC9E, 0x1BC9E),
    (0x1E000, 0x1E006), (0x1E008, 0x1E018), (0x1E01B, 0x1E021), (0x1E023, 0x1E024),
    (0x1E026, 0x1E02A), (0x1E08F, 0x1E08F), (0x1E6E3, 0x1E6E3), (0x1E6E6, 0x1E6E6),
    (0x1E6EE, 0x1E6EF), (0x1E6F5, 0x1E6F5), (0x1E947, 0x1E947)]

/-- Further letters and marks that take no column of their own: other marks that attach to the
letter before them, the vowels and finals of Korean syllables, fillers, and letters that attach to
the letter behind them. -/
def attachedRanges : List (Nat × Nat) :=
   [(0x9BE, 0x9BE), (0x9D7, 0x9D7), (0xB3E, 0xB3E), (0xB57, 0xB57), (0xBBE, 0xBBE), (0xBD7, 0xBD7),
    (0xCC0, 0xCC0), (0xCC2, 0xCC2), (0xCC7, 0xCC8), (0xCCA, 0xCCB), (0xCD5, 0xCD6), (0xD3E, 0xD3E),
    (0xD4E, 0xD4E), (0xD57, 0xD57), (0xDCF, 0xDCF), (0xDDF, 0xDDF), (0x1160, 0x11FF),
    (0x1B35, 0x1B35), (0x1B3B, 0x1B3B), (0x1B3D, 0x1B3D), (0x1B43, 0x1B43), (0x3164, 0x3164),
    (0xD7B0, 0xD7C6), (0xD7CB, 0xD7FB), (0xFFA0, 0xFFA0), (0x111C2, 0x111C3), (0x1133E, 0x1133E),
    (0x11357, 0x11357), (0x113B8, 0x113B8), (0x113C2, 0x113C2), (0x113C5, 0x113C5),
    (0x113C7, 0x113C9), (0x113D1, 0x113D1), (0x114B0, 0x114B0), (0x114BD, 0x114BD),
    (0x115AF, 0x115AF), (0x11930, 0x11930), (0x1193F, 0x1193F), (0x11941, 0x11941),
    (0x11A84, 0x11A89), (0x11D46, 0x11D46), (0x11F02, 0x11F02), (0x16FF0, 0x16FF1)]

/-- Letters that take two columns. -/
def wideRanges : List (Nat × Nat) :=
   [(0x1100, 0x115F), (0x17A4, 0x17A4), (0x2E80, 0x3029), (0x302E, 0x303E), (0x3041, 0x3098),
    (0x309B, 0x3247), (0x3250, 0x4DBF), (0x4E00, 0xA4C6), (0xA960, 0xA97C), (0xAC00, 0xD7A3),
    (0xF900, 0xFAFF), (0xFF01, 0xFF60), (0xFFE0, 0xFFE6), (0x16FE0, 0x18DFF), (0x1AFF0, 0x1B2FF),
    (0x1D300, 0x1D376), (0x1F200, 0x1F265), (0x20000, 0x3FFFD)]

/-- Whether the character is a mark above, below or inside the letter before it. -/
def isMark (c : Char) : Bool :=
  inRanges markRanges c.toNat

/-- The columns of one character by itself. -/
def columnsOf (c : Char) : Nat :=
  if c.toNat < 0x80 then 1
  else if isMark c || inRanges attachedRanges c.toNat then 0
  else if inRanges wideRanges c.toNat then 2
  else 1

/-! ## Letters that are drawn as one -/

/-- The Arabic letters of the shape of an alef: the joining group Alef. -/
def alefRanges : List (Nat × Nat) :=
   [(0x622, 0x623), (0x625, 0x625), (0x627, 0x627), (0x671, 0x673), (0x675, 0x675),
    (0x773, 0x774), (0x870, 0x882)]

/-- The Arabic letters of the shape of a lam: the joining group Lam. -/
def lamRanges : List (Nat × Nat) :=
   [(0x644, 0x644), (0x6B5, 0x6B8), (0x76A, 0x76A), (0x8A6, 0x8A6), (0x8C7, 0x8C7)]

/-- Whether the character is a Lisu tone letter that another one may stand beside. -/
def isLeadingTone (c : Char) : Bool :=
  0xA4F8 ≤ c.toNat && c.toNat ≤ 0xA4FB

/-- Whether the character is a Lisu tone letter that may stand beside another one. -/
def isTrailingTone (c : Char) : Bool :=
  0xA4FC ≤ c.toNat && c.toNat ≤ 0xA4FD

/-- Whether the character is the Kirat Rai vowel aa. -/
def isVowelAa (c : Char) : Bool :=
  c.toNat == 0x16D63

/-- Whether the character is the Kirat Rai vowel e. -/
def isVowelE (c : Char) : Bool :=
  c.toNat == 0x16D67

/-- The characters that a character stands for: the Kirat Rai vowels ai, o and au are made of the
vowels aa and e. -/
def vowelParts (c : Char) : List Char :=
  let aa := Char.ofNat 0x16D63
  let e := Char.ofNat 0x16D67
  if c.toNat == 0x16D68 then [e, e]
  else if c.toNat == 0x16D69 then [aa, e]
  else if c.toNat == 0x16D6A then [aa, e, e]
  else [c]

/-- How a text starts, as far as it matters to a letter in front of it. -/
inductive Opening
  | plain
  /-- An alef, perhaps behind marks. -/
  | alef
  | trailingTone
  /-- One Kirat Rai vowel e. -/
  | vowelE
  /-- Two Kirat Rai vowels e, which are the vowel ai. -/
  | vowelAi
  deriving Repr, DecidableEq

/-- How a text starts whose first character is drawn by itself. -/
def Opening.of (c : Char) : Opening :=
  if inRanges alefRanges c.toNat then alef
  else if isTrailingTone c then trailingTone
  else if isVowelE c then vowelE
  else plain

/-- How a text starts when a character in front of it is drawn as one with its start. -/
def Opening.join? (c : Char) : Opening → Option Opening
  | plain => none
  | alef =>
    if inRanges lamRanges c.toNat then some plain
    else if isMark c then some alef
    else none
  | trailingTone => if isLeadingTone c then some plain else none
  | vowelE =>
    if isVowelAa c then some plain
    else if isVowelE c then some vowelAi
    else none
  | vowelAi => if isVowelAa c then some plain else none

/-- The columns of some characters and how they start. -/
def measure : List Char → Nat × Opening
  | [] => (0, .plain)
  | c :: cs =>
    let (behind, opening) := measure cs
    match opening.join? c with
    | some joined => (behind, joined)
    | none => (columnsOf c + behind, .of c)

/-- The columns of a text. -/
def columns (s : String) : Nat :=
  (measure (s.toList.flatMap vowelParts)).1

end ValueBuilder.Unicode
