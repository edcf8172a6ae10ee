import DashboardExport.Text.Mark

/-!
# Directions of writing

The direction that a character is written in, as far as the character can stand in a
host name: most are written from left to right, and the tables hold the others.
-/

set_option autoImplicit false

namespace DashboardExport.Text

/-- The directions of writing. -/
inductive Direction where
  | leftToRight
  | rightToLeft
  /-- From right to left, with digits that have a direction of their own. -/
  | arabicLetter
  | arabicDigit
  | europeanDigit
  /-- The direction is the one of the characters around. -/
  | neutral
  /-- A mark, in the direction of its letter. -/
  | nonspacing
  deriving DecidableEq

/-- Letters that are written from right to left. -/
def rightToLeftRanges : List (Nat × Nat) :=
  [(0x05D0, 0x05EA), (0x05EF, 0x05F4), (0x07C0, 0x07EA), (0x07F4, 0x07F5), (0x0800, 0x0815),
   (0x081A, 0x081A), (0x0824, 0x0824), (0x0828, 0x0828), (0x0840, 0x0858), (0x10800, 0x10805),
   (0x10808, 0x10808), (0x1080A, 0x10835), (0x10837, 0x10838), (0x1083C, 0x1083C),
   (0x1083F, 0x10855), (0x10860, 0x10876), (0x10880, 0x1089E), (0x108E0, 0x108F2),
   (0x108F4, 0x108F5), (0x10900, 0x10915), (0x10920, 0x10939), (0x10980, 0x109B7),
   (0x109BE, 0x109BF), (0x10A00, 0x10A00), (0x10A10, 0x10A13), (0x10A15, 0x10A17),
   (0x10A19, 0x10A35), (0x10A60, 0x10A7C), (0x10A80, 0x10A9C), (0x10AC0, 0x10AC7),
   (0x10AC9, 0x10AE4), (0x10B00, 0x10B35), (0x10B40, 0x10B55), (0x10B60, 0x10B72),
   (0x10B80, 0x10B91), (0x10C00, 0x10C48), (0x10CC0, 0x10CF2), (0x10E80, 0x10EA9),
   (0x10EB0, 0x10EB1), (0x10F00, 0x10F1C), (0x10F27, 0x10F27), (0x10F70, 0x10F81),
   (0x10FB0, 0x10FC4), (0x10FE0, 0x10FF6), (0x1E800, 0x1E8C4), (0x1E922, 0x1E943),
   (0x1E94B, 0x1E94B), (0x1E950, 0x1E959)]

/-- Arabic letters and those of related scripts. -/
def arabicLetterRanges : List (Nat × Nat) :=
  [(0x0620, 0x063F), (0x0641, 0x064A), (0x066E, 0x066F), (0x0671, 0x0674), (0x0679, 0x06D3),
   (0x06D5, 0x06D5), (0x06E5, 0x06E6), (0x06EE, 0x06EF), (0x06FA, 0x06FF), (0x0710, 0x0710),
   (0x0712, 0x072F), (0x074D, 0x07A5), (0x07B1, 0x07B1), (0x0860, 0x086A), (0x0870, 0x0887),
   (0x0889, 0x088E), (0x08A0, 0x08C9), (0xFE73, 0xFE73), (0x10D00, 0x10D23), (0x10F30, 0x10F45)]

/-- Characters without a direction of their own: the hyphen, the joiners and a few signs. -/
def neutralRanges : List (Nat × Nat) :=
  [(0x002D, 0x002D), (0x200C, 0x200D),
   (0x00B7, 0x00B7), (0x02B9, 0x02BA), (0x02C6, 0x02CF), (0x02EC, 0x02EC), (0x0375, 0x0375),
   (0x2E2F, 0x2E2F), (0x30FB, 0x30FB), (0xA67F, 0xA67F), (0xA717, 0xA71F), (0xA788, 0xA788)]

/-- Digits in the direction of European digits. -/
def europeanDigitRanges : List (Nat × Nat) := [(0x0030, 0x0039), (0x06F0, 0x06F9)]

/-- Digits in the direction of Arabic digits. -/
def arabicDigitRanges : List (Nat × Nat) := [(0x0660, 0x0669), (0x10D30, 0x10D39)]

/-- Marks without a place of their own that are written from left to right all the same. -/
def directedMarkRanges : List (Nat × Nat) :=
  [(0x0CBF, 0x0CBF), (0x0CC6, 0x0CC6), (0x11A07, 0x11A08), (0x11C3F, 0x11C3F)]

/-- The direction of a character. -/
def direction (c : Char) : Direction :=
  if inRanges rightToLeftRanges c.toNat then .rightToLeft
  else if inRanges arabicLetterRanges c.toNat then .arabicLetter
  else if inRanges arabicDigitRanges c.toNat then .arabicDigit
  else if inRanges europeanDigitRanges c.toNat then .europeanDigit
  else if inRanges neutralRanges c.toNat then .neutral
  else if isNonspacing c && !inRanges directedMarkRanges c.toNat then .nonspacing
  else .leftToRight

end DashboardExport.Text
