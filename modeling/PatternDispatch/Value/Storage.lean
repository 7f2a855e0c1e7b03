/-
This file creates values. Every new text, sequence, array, map, tuple and object gets a cell
that no value had before.
-/
import PatternDispatch.Value

namespace PatternDispatch

/-- The cells handed out so far are those below `next`. -/
structure Storage where
  next : Cell

/-- A computation that may take new cells. -/
abbrev Allocation := StateM Storage

namespace Storage

/-- No cell has been handed out yet. -/
def start : Storage := ⟨0⟩

/-- Takes the next cell. -/
def fresh : Allocation Cell := fun storage => (storage.next, ⟨storage.next + 1⟩)

end Storage

namespace Value

/-- Adds an entry in the order of the keys; an entry with the same key is replaced. -/
def insertEntry (key : String) (value : Value) : List (String × Value) → List (String × Value)
  | [] => [(key, value)]
  | (other, content) :: later =>
    if key < other then (key, value) :: (other, content) :: later
    else if key = other then (key, value) :: later
    else (other, content) :: insertEntry key value later

/-- Entries in the order of their keys; of two with one key the later stays. -/
def sortedEntries (entries : List (String × Value)) : List (String × Value) :=
  entries.foldl (fun sorted entry => insertEntry entry.1 entry.2 sorted) []

/-- A string in a new cell. -/
def newText (text : String) : Allocation Value := do return str (← Storage.fresh) text

/-- A sequence in a new cell. -/
def newSeq (items : List Value) : Allocation Value := do
  return seq (View.whole (← Storage.fresh) items)

/-- An array in a new cell. -/
def newArray (element : Tag) (items : List Value) : Allocation Value := do
  return array element (View.whole (← Storage.fresh) items)

/-- A map in a new cell, its entries in the order of their keys. -/
def newMap (entries : List (String × Value)) : Allocation Value := do
  return map (← Storage.fresh) (sortedEntries entries)

/-- A tuple in a new cell. -/
def newTuple (items : List Value) : Allocation Value := do return tuple (← Storage.fresh) items

/-- An object in a new cell, its fields in the order given. -/
def newObject (className : Name) (fields : List (Name × Value)) : Allocation Value := do
  return object className (← Storage.fresh) fields

end Value

end PatternDispatch
