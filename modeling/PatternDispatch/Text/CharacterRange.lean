/-
This file holds the representation of a set of characters as an ascending list of
ranges of code points, which the character properties of this library use.
-/

namespace PatternDispatch.Text

/-- The first and the last code point of a run of characters. -/
abbrev CharacterRange := Nat × Nat

/-- Membership in an ascending list of ranges; the search stops at the first range that lies
beyond the code point. -/
def inRanges (code : Nat) : List CharacterRange → Bool
  | [] => false
  | (first, last) :: later => first ≤ code && (code ≤ last || inRanges code later)

end PatternDispatch.Text
