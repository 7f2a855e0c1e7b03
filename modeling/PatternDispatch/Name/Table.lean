/-
This file holds the table that issues names. The table keeps each text once: a known text
gets the name it had before, a new text gets the next position. The two directions, from
texts to names and back, are stored side by side.
-/
import Std.Data.HashMap
import PatternDispatch.Name

namespace PatternDispatch

/-- The texts interned so far and the position of each. -/
structure NameTable where
  positions : Std.HashMap String Nat
  texts : Array String

/-- Why a text cannot be interned. -/
inductive InternError where
  /-- There are no more names than the texts that are interned already. -/
  | overflow (count : Nat)
  deriving DecidableEq

namespace NameTable

/-- The table that holds the empty text only. -/
def start : NameTable := ⟨Std.HashMap.emptyWithCapacity.insert "" 0, #[""]⟩

/-- The number of texts, the empty one among them. -/
def size (table : NameTable) : Nat := table.texts.size

/-- Whether nothing but the empty text has been interned. -/
def isEmpty (table : NameTable) : Bool := table.size ≤ 1

/-- The name of an interned text. -/
def find? (table : NameTable) (text : String) : Option Name := (table.positions[text]?).map Name.mk

/-- The name of `text`, and the table in which it has that name. -/
def intern (table : NameTable) (text : String) : Name × NameTable :=
  match table.positions[text]? with
  | some position => (⟨position⟩, table)
  | none =>
    (⟨table.size⟩, ⟨table.positions.insert text table.size, table.texts.push text⟩)

/-- The number of names that there are: positions are words of 32 bits. -/
def capacity : Nat := UInt32.size

/-- Interns `text` unless it would need a name and none is left. -/
def tryIntern (table : NameTable) (text : String) : Except InternError (Name × NameTable) :=
  if (table.find? text).isNone ∧ capacity ≤ table.size then .error (.overflow table.size)
  else .ok (table.intern text)

/-- The text of a name; a name that this table did not issue has no text of its own. -/
def textOf (table : NameTable) (name : Name) : String :=
  (table.texts[name.raw]?).getD "<unknown>"

end NameTable

namespace InternError

/-- The text of the error. -/
def message : InternError → String
  | overflow count =>
    "interner exceeded capacity: " ++ toString count ++ " strings, max is "
      ++ toString (NameTable.capacity - 1)

end InternError

end PatternDispatch
