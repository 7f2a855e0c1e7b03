/-
This file writes values for inspection: every constructor by its name, texts and characters
quoted, names by their number.
-/
import PatternDispatch.Text.Quoted
import PatternDispatch.Value.Text

namespace PatternDispatch.Value

mutual

/-- The value as a constructor with its content. -/
def inspect : Value → String
  | unit => "Unit"
  | bool flag => Text.applied "Bool" [boolText flag]
  | int number => Text.applied "Int" [intText number]
  | float number => Text.applied "Float" [number.text]
  | char character => Text.applied "Char" [Text.quotedCharacter character]
  | str _ text => Text.applied "Str" [Text.quoted text]
  | seq ⟨_, ⟨backing⟩, offset, stop⟩ =>
    Text.applied "Seq" [Text.listing ((inspectEach backing).extract offset stop)]
  | array element ⟨_, ⟨backing⟩, offset, stop⟩ =>
    Text.applied "Array"
      [element.inspect, Text.listing ((inspectEach backing).extract offset stop)]
  | map _ entries => Text.applied "Map" [braced (inspectEntries entries)]
  | tuple _ items => Text.applied "Tuple" [Text.listing (inspectEach items)]
  | object className _ fields =>
    Text.applied "Struct" [className.inspect, Text.listing (inspectFields fields)]
termination_by structural value => value

/-- The texts of the values, in their order. -/
def inspectEach : List Value → List String
  | [] => []
  | item :: items => inspect item :: inspectEach items

/-- The texts of the entries, each with its quoted key. -/
def inspectEntries : List (String × Value) → List String
  | [] => []
  | (key, value) :: entries =>
    Text.field (Text.quoted key) (inspect value) :: inspectEntries entries

/-- The texts of the fields as pairs of a name and a value. -/
def inspectFields : List (Name × Value) → List String
  | [] => []
  | (name, value) :: fields =>
    Text.applied "" [name.inspect, inspect value] :: inspectFields fields

end

/-- A view by its visible items. -/
def inspectView (view : View Value) : String := Text.listing (inspectEach view.items)

end PatternDispatch.Value
