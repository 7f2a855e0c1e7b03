/-
This file proves that equality and type tests see no more of a value than its content. The
content of a value holds the visible items of every sequence as a plain list: there is no
backing list, no offset and no hidden item in it. What stays is the cell that a text, a map,
a tuple, the fields of an object or a sequence lives in, since equal cells make equal values.
-/
import PatternDispatch.Proofs.Induction
import PatternDispatch.TagCheck

namespace PatternDispatch

/-- A value without views: sequences and arrays hold their items as lists. -/
inductive Content where
  | unit
  | bool (flag : Bool)
  | int (number : Int64)
  | float (number : Double)
  | char (character : Char)
  | str (cell : Cell) (text : String)
  | seq (cell : Cell) (items : List Content)
  | array (element : Tag) (cell : Cell) (items : List Content)
  | map (cell : Cell) (entries : List (String × Content))
  | tuple (cell : Cell) (items : List Content)
  | object (className : Name) (cell : Cell) (fields : List (Name × Content))

namespace Content

/-! ### The content of a value -/

mutual

/-- The content that a value shows. -/
def ofValue : Value → Content
  | .unit => unit
  | .bool flag => bool flag
  | .int number => int number
  | .float number => float number
  | .char character => char character
  | .str cell text => str cell text
  | .seq ⟨cell, ⟨backing⟩, offset, stop⟩ => seq cell ((ofEach backing).extract offset stop)
  | .array element ⟨cell, ⟨backing⟩, offset, stop⟩ =>
    array element cell ((ofEach backing).extract offset stop)
  | .map cell entries => map cell (ofEntries entries)
  | .tuple cell items => tuple cell (ofEach items)
  | .object className cell fields => object className cell (ofFields fields)
termination_by structural value => value

/-- The contents of the values, in their order. -/
def ofEach : List Value → List Content
  | [] => []
  | item :: items => ofValue item :: ofEach items

/-- The contents of the entries, each under its key. -/
def ofEntries : List (String × Value) → List (String × Content)
  | [] => []
  | (key, value) :: entries => (key, ofValue value) :: ofEntries entries

/-- The contents of the fields, each under its name. -/
def ofFields : List (Name × Value) → List (Name × Content)
  | [] => []
  | (name, value) :: fields => (name, ofValue value) :: ofFields fields

end

theorem ofEach_eq_map (items : List Value) : ofEach items = items.map ofValue := by
  induction items with
  | nil => rfl
  | cons item items inductionHypothesis => rw [ofEach, inductionHypothesis, List.map_cons]

theorem ofEach_extract (view : View Value) :
    (ofEach view.backing.toList).extract view.offset view.stop = view.items.map ofValue := by
  rw [ofEach_eq_map, View.extract_map]

theorem ofValue_seq (view : View Value) :
    ofValue (.seq view) = seq view.cell (view.items.map ofValue) :=
  congrArg (seq view.cell) (ofEach_extract view)

theorem ofValue_array (element : Tag) (view : View Value) :
    ofValue (.array element view) = array element view.cell (view.items.map ofValue) :=
  congrArg (array element view.cell) (ofEach_extract view)

theorem ofValue_tuple (cell : Cell) (items : List Value) :
    ofValue (.tuple cell items) = tuple cell (items.map ofValue) :=
  congrArg (tuple cell) (ofEach_eq_map items)

/-! ### Parts -/

/-- The items of a sequence or of an array. -/
def asItems : Content → Option (List Content)
  | seq _ items | array _ _ items => some items
  | _ => none

/-- The items of a tuple. -/
def asTuple : Content → Option (List Content)
  | tuple _ items => some items
  | _ => none

/-- The same kind of sequence in the same cell, with other items. -/
def withItems : Content → List Content → Content
  | seq cell _, items => seq cell items
  | array element cell _, items => array element cell items
  | other, _ => other

theorem asItems_ofValue (value : Value) :
    (ofValue value).asItems = value.asView.map fun view => view.items.map ofValue := by
  cases value with
  | seq view => rw [ofValue_seq]; rfl
  | array element view => rw [ofValue_array]; rfl
  | _ => rfl

theorem asTuple_ofValue (value : Value) :
    (ofValue value).asTuple = value.asTuple.map fun items => items.map ofValue := by
  cases value with
  | tuple cell items => rw [ofValue_tuple]; rfl
  | _ => rfl

/-- A view in the same cell, put in the place of the view of a sequence, shows its items. -/
theorem ofValue_withView {value part : Value} {view smaller : View Value}
    (shown : value.asView = some view) (sameCell : smaller.cell = view.cell)
    (replaced : value.withView smaller = some part) :
    ofValue part = (ofValue value).withItems (smaller.items.map ofValue) := by
  cases value with
  | seq =>
    cases shown
    cases replaced
    rw [ofValue_seq, ofValue_seq, withItems, sameCell]
  | array element =>
    cases shown
    cases replaced
    rw [ofValue_array, ofValue_array, withItems, sameCell]
  | _ => cases shown

/-! ### Type tests -/

/-- The run-time type tag; parameters that are not carried are `any`. -/
def tag : Content → Tag
  | unit => .unit
  | bool _ => .bool
  | int _ => .int
  | float _ => .float
  | char _ => .char
  | str _ _ => .str
  | seq _ _ => .seq .any
  | array element _ _ => .array element
  | map _ _ => .map .str .any
  | tuple _ items => .tuple items.length
  | object className _ _ => .object className

theorem tag_ofValue (value : Value) : (ofValue value).tag = value.tag := by
  cases value with
  | tuple cell items =>
    rw [ofValue_tuple, tag, Value.tag, List.length_map]
  | _ => rfl

/-! ### Equality -/

mutual

/-- Equality of contents. The cell of a sequence plays no part in it. -/
def equals : Content → Content → Bool
  | unit, unit => true
  | bool first, bool second => first = second
  | int first, int second => first = second
  | float first, float second => first.equals second
  | char first, char second => first = second
  | str cell text, str other otherText => cell = other || text = otherText
  | seq _ items, seq _ others => equalsEach items others
  | array element _ items, array otherElement _ others =>
    element = otherElement && equalsEach items others
  | map cell entries, map other otherEntries => cell = other || equalsEntries entries otherEntries
  | tuple cell items, tuple other others => cell = other || equalsEach items others
  | object className cell fields, object otherClass other otherFields =>
    className = otherClass && (cell = other || equalsFields fields otherFields)
  | _, _ => false
termination_by structural content => content

/-- Whether the contents are equal in every place, and as many. -/
def equalsEach : List Content → List Content → Bool
  | [], [] => true
  | item :: items, other :: others => equals item other && equalsEach items others
  | _, _ => false

/-- Whether the entries have equal keys and contents in every place, and are as many. -/
def equalsEntries : List (String × Content) → List (String × Content) → Bool
  | [], [] => true
  | (key, value) :: entries, (otherKey, other) :: others =>
    key = otherKey && equals value other && equalsEntries entries others
  | _, _ => false

/-- Whether the fields have equal names and contents in every place, and are as many. -/
def equalsFields : List (Name × Content) → List (Name × Content) → Bool
  | [], [] => true
  | (name, value) :: fields, (otherName, other) :: others =>
    name = otherName && equals value other && equalsFields fields others
  | _, _ => false

end

/-- Whether comparing a value comes to the same as comparing its content. -/
def Faithful (value : Value) : Prop :=
  ∀ other, value.equals other = (ofValue value).equals (ofValue other)

theorem equalsEach_map (items others : List Value) (faithful : ∀ item ∈ items, Faithful item) :
    Value.equalsEach items others = equalsEach (items.map ofValue) (others.map ofValue) := by
  induction items generalizing others with
  | nil => cases others <;> rfl
  | cons item items inductionHypothesis =>
    cases others with
    | nil => rfl
    | cons other others =>
      obtain ⟨first, rest⟩ := List.forall_mem_cons.1 faithful
      rw [Value.equalsEach, List.map_cons, List.map_cons, equalsEach, first,
        inductionHypothesis others rest]

theorem equalsEntries_ofEntries (entries others : List (String × Value))
    (faithful : ∀ entry ∈ entries, Faithful entry.2) :
    Value.equalsEntries entries others = equalsEntries (ofEntries entries) (ofEntries others) := by
  induction entries generalizing others with
  | nil => cases others <;> rfl
  | cons entry entries inductionHypothesis =>
    cases others with
    | nil => rfl
    | cons other others =>
      obtain ⟨first, rest⟩ := List.forall_mem_cons.1 faithful
      rw [Value.equalsEntries, ofEntries, ofEntries, equalsEntries, first,
        inductionHypothesis others rest]

theorem equalsFields_ofFields (fields others : List (Name × Value))
    (faithful : ∀ field ∈ fields, Faithful field.2) :
    Value.equalsFields fields others = equalsFields (ofFields fields) (ofFields others) := by
  induction fields generalizing others with
  | nil => cases others <;> rfl
  | cons field fields inductionHypothesis =>
    cases others with
    | nil => rfl
    | cons other others =>
      obtain ⟨first, rest⟩ := List.forall_mem_cons.1 faithful
      rw [Value.equalsFields, ofFields, ofFields, equalsFields, first,
        inductionHypothesis others rest]

theorem faithful (value : Value) : Faithful value := by
  induction value using Value.induction with
  | unit | bool | int | float | char | str => intro other; cases other <;> rfl
  | seq view items =>
    intro other
    cases other with
    | seq otherView =>
      rw [Value.equals_seq, ofValue_seq, ofValue_seq, equals, equalsEach_map _ _ items]
    | _ => rfl
  | array element view items =>
    intro other
    cases other with
    | array otherElement otherView =>
      rw [Value.equals_array, ofValue_array, ofValue_array, equals, equalsEach_map _ _ items]
    | _ => rfl
  | tuple cell items each =>
    intro other
    cases other with
    | tuple otherCell others =>
      rw [Value.equals_tuple, ofValue_tuple, ofValue_tuple, equals, equalsEach_map _ _ each]
    | _ => rfl
  | map cell entries each =>
    intro other
    cases other with
    | map otherCell others =>
      exact congrArg (decide (cell = otherCell) || ·) (equalsEntries_ofEntries entries others each)
    | _ => rfl
  | object className cell fields each =>
    intro other
    cases other with
    | object otherClass otherCell others =>
      have contents := equalsFields_ofFields fields others each
      exact congrArg (fun same => className = otherClass && (cell = otherCell || same)) contents
    | _ => rfl

/-- Two values are equal exactly if their contents are. -/
theorem equals_ofValue (value other : Value) :
    (ofValue value).equals (ofValue other) = value.equals other :=
  (faithful value other).symm

end Content

end PatternDispatch
