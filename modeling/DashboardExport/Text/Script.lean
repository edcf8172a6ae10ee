import DashboardExport.Text.CodeRange

/-!
# Scripts

The scripts that some signs belong to: such a sign stands beside characters of its
script only.  The tables hold the characters that can stand in a host name.
-/

set_option autoImplicit false

namespace DashboardExport.Text

/-- The Greek script. -/
def greekRanges : List (Nat × Nat) :=
  [(0x0371, 0x0371), (0x0373, 0x0373), (0x0375, 0x0375), (0x0377, 0x0377), (0x037B, 0x037D),
   (0x0390, 0x0390), (0x03AC, 0x03CE), (0x03D7, 0x03D7), (0x03D9, 0x03D9), (0x03DB, 0x03DB),
   (0x03DD, 0x03DD), (0x03DF, 0x03DF), (0x03E1, 0x03E1), (0x03F3, 0x03F3), (0x03F8, 0x03F8),
   (0x03FB, 0x03FC), (0x1D26, 0x1D2A), (0x1F00, 0x1F07), (0x1F10, 0x1F15), (0x1F20, 0x1F27),
   (0x1F30, 0x1F37), (0x1F40, 0x1F45), (0x1F50, 0x1F57), (0x1F60, 0x1F67), (0x1F70, 0x1F70),
   (0x1F72, 0x1F72), (0x1F74, 0x1F74), (0x1F76, 0x1F76), (0x1F78, 0x1F78), (0x1F7A, 0x1F7A),
   (0x1F7C, 0x1F7C), (0x1FB0, 0x1FB1), (0x1FB6, 0x1FB6), (0x1FC6, 0x1FC6), (0x1FD0, 0x1FD2),
   (0x1FD6, 0x1FD7), (0x1FE0, 0x1FE2), (0x1FE4, 0x1FE7), (0x1FF6, 0x1FF6), (0xAB65, 0xAB65)]

/-- The Hebrew script. -/
def hebrewRanges : List (Nat × Nat) :=
  [(0x0591, 0x05BD), (0x05BF, 0x05BF), (0x05C1, 0x05C2), (0x05C4, 0x05C5), (0x05C7, 0x05C7),
   (0x05D0, 0x05EA), (0x05EF, 0x05F4), (0xFB1E, 0xFB1E)]

/-- The Hiragana script. -/
def hiraganaRanges : List (Nat × Nat) :=
  [(0x3041, 0x3096), (0x309D, 0x309E), (0x1B001, 0x1B11F), (0x1B150, 0x1B152)]

/-- The Katakana script. -/
def katakanaRanges : List (Nat × Nat) :=
  [(0x30A1, 0x30FA), (0x30FD, 0x30FE), (0x31F0, 0x31FF), (0x1AFF0, 0x1AFF3), (0x1AFF5, 0x1AFFB),
   (0x1AFFD, 0x1AFFE), (0x1B000, 0x1B000), (0x1B120, 0x1B122), (0x1B164, 0x1B167)]

/-- The Han script. -/
def hanRanges : List (Nat × Nat) :=
  [(0x3005, 0x3005), (0x3007, 0x3007), (0x3400, 0x4DBF), (0x4E00, 0x9FFF), (0xFA0E, 0xFA0F),
   (0xFA11, 0xFA11), (0xFA13, 0xFA14), (0xFA1F, 0xFA1F), (0xFA21, 0xFA21), (0xFA23, 0xFA24),
   (0xFA27, 0xFA29), (0x16FE3, 0x16FE3), (0x16FF0, 0x16FF1), (0x20000, 0x2A6DF), (0x2A700, 0x2B738),
   (0x2B740, 0x2B81D), (0x2B820, 0x2CEA1), (0x2CEB0, 0x2EBE0), (0x30000, 0x3134A)]

/-- Whether a character is Greek. -/
def isGreek (c : Char) : Bool := inRanges greekRanges c.toNat

/-- Whether a character is Hebrew. -/
def isHebrew (c : Char) : Bool := inRanges hebrewRanges c.toNat

/-- Whether a character belongs to a script that Japanese is written in. -/
def isJapanese (c : Char) : Bool :=
  inRanges hiraganaRanges c.toNat || inRanges katakanaRanges c.toNat ||
    inRanges hanRanges c.toNat

end DashboardExport.Text
