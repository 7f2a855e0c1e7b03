/-
This file holds the characters that a display leaves out unless it supports them (the Unicode
property Default_Ignorable_Code_Point): fillers, joiners, selectors and tags.
-/
import PatternDispatch.Text.CharacterRange

namespace PatternDispatch.Text

/-- The code points with the property Default_Ignorable_Code_Point. -/
def ignorableRanges : List CharacterRange :=
  [(0xad, 0xad), (0x34f, 0x34f), (0x61c, 0x61c), (0x115f, 0x1160), (0x17b4, 0x17b5),
    (0x180b, 0x180f), (0x200b, 0x200f), (0x202a, 0x202e), (0x2060, 0x206f), (0x3164, 0x3164),
    (0xfe00, 0xfe0f), (0xfeff, 0xfeff), (0xffa0, 0xffa0), (0xfff0, 0xfff8),
    (0x1bca0, 0x1bca3), (0x1d173, 0x1d17a), (0xe0000, 0xe0fff)]

/-- Whether a display may leave the character out. -/
def isIgnorable (character : Char) : Bool := inRanges character.toNat ignorableRanges

/-- The Hangul fillers are letters, and still they are not seen. -/
example : ['\u115f', '\u1160', '\u3164', '\uffa0'].all isIgnorable = true := rfl

end PatternDispatch.Text
