/-
This file holds equality of values. Texts, maps, tuples and the fields of objects are equal
if they share their cell or have equal contents; the visible items of sequences and arrays
are always compared one by one, wherever the views start. Floats compare as numbers, so a
NaN makes a sequence differ from itself, while a tuple that holds it equals itself.
-/
import PatternDispatch.Value

namespace PatternDispatch.Value

/-- Whether a list passes a list of tests, position by position; their numbers have to agree. -/
def passes : List (Value → Bool) → List Value → Bool
  | [], [] => true
  | test :: tests, item :: items => test item && passes tests items
  | _, _ => false

mutual

/-- Structural equality. Texts, maps, tuples and the fields of objects in one cell are equal unseen;
sequences and arrays are compared item by item even then. -/
def equals : Value → Value → Bool
  | unit, unit => true
  | bool first, bool second => first = second
  | int first, int second => first = second
  | float first, float second => first.equals second
  | char first, char second => first = second
  | str cell text, str other otherText => cell = other || text = otherText
  | seq ⟨_, ⟨backing⟩, offset, stop⟩, seq other =>
    passes ((testsFor backing).extract offset stop) other.items
  | array element ⟨_, ⟨backing⟩, offset, stop⟩, array otherElement other =>
    element = otherElement && passes ((testsFor backing).extract offset stop) other.items
  | map cell entries, map other otherEntries => cell = other || equalsEntries entries otherEntries
  | tuple cell items, tuple other others => cell = other || passes (testsFor items) others
  | object className cell fields, object otherClass other otherFields =>
    className = otherClass && (cell = other || equalsFields fields otherFields)
  | _, _ => false
termination_by structural value => value

/-- For each item the test of being equal to it. -/
def testsFor : List Value → List (Value → Bool)
  | [] => []
  | item :: items => (fun other => equals item other) :: testsFor items

/-- Equality of map entries: the same keys with equal values. -/
def equalsEntries : List (String × Value) → List (String × Value) → Bool
  | [], [] => true
  | (key, value) :: entries, (otherKey, other) :: others =>
    key = otherKey && equals value other && equalsEntries entries others
  | _, _ => false

/-- Equality of fields: the same names in the same order with equal values. -/
def equalsFields : List (Name × Value) → List (Name × Value) → Bool
  | [], [] => true
  | (name, value) :: fields, (otherName, other) :: others =>
    name = otherName && equals value other && equalsFields fields others
  | _, _ => false

end

/-- Equality of lists of values, position by position. -/
def equalsEach : List Value → List Value → Bool
  | [], [] => true
  | item :: items, other :: others => item.equals other && equalsEach items others
  | _, _ => false

/-! ### The visible items decide -/

theorem testsFor_eq_map (items : List Value) : testsFor items = items.map equals := by
  induction items with
  | nil => rfl
  | cons item items inductionHypothesis => rw [testsFor, inductionHypothesis, List.map_cons]

theorem passes_testsFor (items others : List Value) :
    passes (testsFor items) others = equalsEach items others := by
  induction items generalizing others with
  | nil => cases others <;> rfl
  | cons item items inductionHypothesis =>
    cases others with
    | nil => rfl
    | cons other others => rw [testsFor, passes, equalsEach, inductionHypothesis]

theorem passes_extract (view : View Value) (others : List Value) :
    passes ((testsFor view.backing.toList).extract view.offset view.stop) others =
      equalsEach view.items others := by
  rw [← passes_testsFor, View.items_eq, testsFor_eq_map, testsFor_eq_map, List.map_take,
    List.map_drop, List.extract_eq_take_drop]

theorem equals_seq (view other : View Value) :
    (seq view).equals (seq other) = equalsEach view.items other.items :=
  passes_extract view other.items

theorem equals_array (element otherElement : Tag) (view other : View Value) :
    (array element view).equals (array otherElement other) =
      (decide (element = otherElement) && equalsEach view.items other.items) :=
  congrArg (decide (element = otherElement) && ·) (passes_extract view other.items)

theorem equals_tuple (cell otherCell : Cell) (items others : List Value) :
    (tuple cell items).equals (tuple otherCell others) =
      (decide (cell = otherCell) || equalsEach items others) :=
  congrArg (decide (cell = otherCell) || ·) (passes_testsFor items others)

end PatternDispatch.Value
