/-
This file holds names: the interned identifiers of binders, fields and classes. A name is
its position in the table that issued it; comparing names compares positions.
-/

namespace PatternDispatch

/-- An interned identifier. -/
structure Name where
  raw : Nat
  deriving DecidableEq, Hashable, Inhabited

namespace Name

/-- The name of the empty text, which every table holds from the start. -/
def empty : Name := ⟨0⟩

/-- Names are ordered by their position in the table. -/
def compare (first second : Name) : Ordering := Ord.compare first.raw second.raw

/-- The name by its number. -/
def inspect (name : Name) : String := "Name(" ++ toString name.raw ++ ")"

end Name

end PatternDispatch
