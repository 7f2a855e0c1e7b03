/-
This file holds bindings: the names that one match attempt bound, in the order in which they
were bound. A name may occur twice; the first entry is the one that is found.
-/
import PatternDispatch.Value.Equality
import PatternDispatch.Value.Inspect

namespace PatternDispatch

/-- Names and their values, in the order of binding. -/
structure Bindings where
  entries : List (Name × Value)

namespace Bindings

/-- No bindings at all. -/
def empty : Bindings := ⟨[]⟩

/-- One name and its value. -/
def single (name : Name) (value : Value) : Bindings := ⟨[(name, value)]⟩

instance : Append Bindings := ⟨fun first second => ⟨first.entries ++ second.entries⟩⟩

/-- The bindings with one more behind them. -/
def bind (bindings : Bindings) (name : Name) (value : Value) : Bindings :=
  bindings ++ single name value

/-- The first value bound to the name. -/
def get? (bindings : Bindings) (name : Name) : Option Value := Value.field? bindings.entries name

/-- Whether the name is bound. -/
def contains (bindings : Bindings) (name : Name) : Bool := (bindings.get? name).isSome

/-- The bound names in the order of binding, as often as they are bound. -/
def names (bindings : Bindings) : List Name := bindings.entries.map Prod.fst

/-- The number of bindings. -/
def length (bindings : Bindings) : Nat := bindings.entries.length

/-- Whether nothing is bound. -/
def isEmpty (bindings : Bindings) : Bool := bindings.entries.isEmpty

/-- Keeps the first `count` entries. -/
def truncate (bindings : Bindings) (count : Nat) : Bindings := ⟨bindings.entries.take count⟩

/-- The same names in the same order with equal values. -/
def equals (first second : Bindings) : Bool := Value.equalsFields first.entries second.entries

/-- Named values as a list of pairs. -/
def inspectEntries (entries : List (Name × Value)) : String :=
  Text.listing (Value.inspectFields entries)

/-- The bindings as a record with the list of its entries. -/
def inspect (bindings : Bindings) : String :=
  Text.record "Bindings" [Text.field "entries" (inspectEntries bindings.entries)]

/-! ### Order, names and lengths -/

theorem append_empty (bindings : Bindings) : bindings ++ empty = bindings :=
  congrArg mk (List.append_nil bindings.entries)

theorem append_assoc (first second third : Bindings) :
    first ++ second ++ third = first ++ (second ++ third) :=
  congrArg mk (List.append_assoc first.entries second.entries third.entries)

theorem names_append (first second : Bindings) :
    (first ++ second).names = first.names ++ second.names :=
  List.map_append

end Bindings

end PatternDispatch
