/-
This file holds the blank characters (the Unicode property White_Space) and the removal of
blanks at both ends of a text.
-/
import PatternDispatch.Text.CharacterRange

namespace PatternDispatch.Text

/-- The code points with the property White_Space. -/
def blankRanges : List CharacterRange :=
  [(0x9, 0xd), (0x20, 0x20), (0x85, 0x85), (0xa0, 0xa0), (0x1680, 0x1680), (0x2000, 0x200a),
    (0x2028, 0x2029), (0x202f, 0x202f), (0x205f, 0x205f), (0x3000, 0x3000)]

/-- Whether the character is white space. -/
def isBlank (character : Char) : Bool := inRanges character.toNat blankRanges

/-- A list of characters without its leading and trailing blanks. -/
def trimmed (characters : List Char) : List Char :=
  ((characters.dropWhile isBlank).reverse.dropWhile isBlank).reverse

end PatternDispatch.Text
