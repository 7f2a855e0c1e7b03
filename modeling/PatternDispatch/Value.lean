/-
This file holds the values that patterns are matched against. Texts, maps, tuples and the
fields of objects live in storage cells, as do the backing lists of sequences and arrays;
copying a value keeps its cells. The kind of a value is its run-time type tag.
-/
import PatternDispatch.Double
import PatternDispatch.Tag
import PatternDispatch.View

namespace PatternDispatch

/-- A run-time value. -/
inductive Value where
  | unit
  | bool (flag : Bool)
  | int (number : Int64)
  | float (number : Double)
  | char (character : Char)
  | str (cell : Cell) (text : String)
  /-- A sequence, which does not know the type of its elements. -/
  | seq (view : View Value)
  /-- A sequence that carries the declared tag of its elements. -/
  | array (element : Tag) (view : View Value)
  /-- A map from texts to values; its entries are kept in ascending order of their keys. -/
  | map (cell : Cell) (entries : List (String × Value))
  | tuple (cell : Cell) (items : List Value)
  /-- An instance of a class, with its fields in the order of their declaration. -/
  | object (className : Name) (cell : Cell) (fields : List (Name × Value))

namespace Value

instance : Inhabited Value := ⟨unit⟩

/-! ### Parts -/

/-- The number, if the value is an integer. -/
def asInt : Value → Option Int64
  | int number => some number
  | _ => none

/-- The truth value, if the value is one. -/
def asBool : Value → Option Bool
  | bool flag => some flag
  | _ => none

/-- The text, if the value is a string. -/
def asText : Value → Option String
  | str _ text => some text
  | _ => none

/-- The view of a sequence or of an array. -/
def asView : Value → Option (View Value)
  | seq view | array _ view => some view
  | _ => none

/-- The items, if the value is a tuple. -/
def asTuple : Value → Option (List Value)
  | tuple _ items => some items
  | _ => none

/-- The class name and the fields of an object. -/
def asObject : Value → Option (Name × List (Name × Value))
  | object className _ fields => some (className, fields)
  | _ => none

/-- The first of the fields with this name. -/
def field? (fields : List (Name × Value)) (name : Name) : Option Value :=
  (fields.find? fun field => field.1 = name).map Prod.snd

/-- The same kind of sequence over another view; an array keeps its element tag. -/
def withView : Value → View Value → Option Value
  | seq _, view => some (seq view)
  | array element _, view => some (array element view)
  | _, _ => none

/-! ### Kinds -/

/-- The run-time type tag; parameters that are not carried are `any`. -/
def tag : Value → Tag
  | unit => .unit
  | bool _ => .bool
  | int _ => .int
  | float _ => .float
  | char _ => .char
  | str _ _ => .str
  | seq _ => .seq .any
  | array element _ => .array element
  | map _ _ => .map .str .any
  | tuple _ items => .tuple items.length
  | object className _ _ => .object className

/-- The name of the kind, without any parameters. -/
def typeName : Value → String
  | unit => "Unit"
  | bool _ => "Bool"
  | int _ => "Int"
  | float _ => "Float"
  | char _ => "Char"
  | str _ _ => "Str"
  | seq _ => "Seq"
  | array _ _ => "Array"
  | map _ _ => "Map"
  | tuple _ _ => "Tuple"
  | object _ _ _ => "Struct"

/-- Whether two values of one kind live in the same cell; kinds without a cell, and values
of different kinds, cannot be compared so. -/
def sameCell : Value → Value → Option Bool
  | str first _, str second _ => some (first = second)
  | map first _, map second _ => some (first = second)
  | tuple first _, tuple second _ => some (first = second)
  | first, second => do return (← first.asView).sharesBacking (← second.asView)

/-! ### Views -/

section Views

variable {value part : Value} {view other : View Value}

theorem asView_of_withView (replaced : value.withView other = some part) :
    part.asView = some other := by
  cases value <;> cases replaced <;> rfl

/-- The view of a sequence can be replaced by any other. -/
theorem exists_withView (shown : value.asView = some view) (other : View Value) :
    ∃ part, value.withView other = some part := by
  cases value with
  | seq | array => exact ⟨_, rfl⟩
  | _ => cases shown

end Views

/-! ### Fields -/

section Fields

variable {fields : List (Name × Value)} {name : Name} {value : Value}

theorem field?_cons (field : Name × Value) (later : List (Name × Value)) (name : Name) :
    field? (field :: later) name = if field.1 = name then some field.2 else field? later name := by
  unfold field?
  rw [List.find?_cons]
  by_cases same : field.1 = name <;> simp [same]

theorem field?_eq_none_iff : field? fields name = none ↔ name ∉ fields.map Prod.fst := by
  rw [field?, Option.map_eq_none_iff, List.find?_eq_none]
  constructor
  · intro absent member
    obtain ⟨field, inside, rfl⟩ := List.mem_map.1 member
    exact absent field inside (decide_eq_true rfl)
  · intro absent field inside same
    exact absent (of_decide_eq_true same ▸ List.mem_map_of_mem inside)

theorem mem_of_field? (found : field? fields name = some value) : (name, value) ∈ fields := by
  induction fields with
  | nil => cases found
  | cons field later inductionHypothesis =>
    rw [field?_cons] at found
    by_cases same : field.1 = name
    · rw [if_pos same] at found
      cases found
      subst same
      exact List.mem_cons_self
    · rw [if_neg same] at found
      exact List.mem_cons_of_mem _ (inductionHypothesis found)

theorem exists_field? (member : name ∈ fields.map Prod.fst) :
    ∃ value, field? fields name = some value := by
  rw [← Option.ne_none_iff_exists']
  exact fun absent => field?_eq_none_iff.1 absent member

/-- Among distinct names, the value that is found is the only one with its name. -/
theorem filter_eq_of_field? (distinct : (fields.map Prod.fst).Nodup)
    (found : field? fields name = some value) :
    fields.filter (·.1 = name) = [(name, value)] := by
  induction fields with
  | nil => cases found
  | cons field later inductionHypothesis =>
    obtain ⟨fresh, distinct⟩ := List.nodup_cons.1 distinct
    rw [field?_cons] at found
    by_cases same : field.1 = name
    · rw [if_pos same] at found
      cases found
      subst same
      have others : ∀ other ∈ later, other.1 ≠ field.1 := fun other member same =>
        fresh (same ▸ List.mem_map_of_mem member)
      rw [List.filter_cons_of_pos (by simp), List.filter_eq_nil_iff.2 (by simpa using others)]
    · rw [if_neg same] at found
      rw [List.filter_cons_of_neg (by simpa using same)]
      exact inductionHypothesis distinct found

/-- Among distinct names, every field is the one that is found under its name. -/
theorem field?_of_mem (distinct : (fields.map Prod.fst).Nodup) (member : (name, value) ∈ fields) :
    field? fields name = some value := by
  obtain ⟨other, found⟩ := exists_field? (List.mem_map_of_mem member)
  have kept : (name, value) ∈ fields.filter (·.1 = name) :=
    List.mem_filter.2 ⟨member, decide_eq_true rfl⟩
  rw [filter_eq_of_field? distinct found, List.mem_singleton] at kept
  cases kept
  exact found

end Fields

end Value

end PatternDispatch
