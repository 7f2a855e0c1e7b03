/-
This file writes values for readers. `display` needs no table and shows an object by the
number of its class; it writes part after part behind what is written already. `render` looks
up the names of classes and fields; it collects the texts of the parts and joins them. The text
of a string is written between double quotes as it is.
-/
import PatternDispatch.Double.Decimal
import PatternDispatch.Name.Table
import PatternDispatch.Text.Shape
import PatternDispatch.Value

namespace PatternDispatch.Value

/-- An integer in decimal. -/
def intText (number : Int64) : String := toString number.toInt

/-- A truth value in small letters. -/
def boolText (flag : Bool) : String := if flag then "true" else "false"

/-- A map entry around the text of its value. -/
def entryText (key content : String) : String := "\"" ++ key ++ "\": " ++ content

/-- Entries between braces. -/
def braced (parts : List String) : String := "\x7b" ++ Text.joined parts ++ "\x7d"

/-! ### Without names -/

/-- Writes the parts behind what is written so far, a comma and a space in front of each of them
unless it has position 0. -/
def writeFrom : Nat → String → List String → String
  | _, written, [] => written
  | position, written, part :: later =>
    writeFrom (position + 1) ((if 0 < position then written ++ ", " else written) ++ part) later

/-- Writes the parts behind an opening. -/
def writeParts (opening : String) (parts : List String) : String := writeFrom 0 opening parts

theorem writeFrom_cons (position : Nat) (written part : String) (later : List String) :
    writeFrom position written (part :: later) =
      (if 0 < position then written ++ ", " else written) ++ Text.joined (part :: later) := by
  -- What is written grows with every part, so the induction is for any text written so far.
  induction later generalizing position written part with
  | nil => rw [writeFrom, writeFrom, Text.joined, String.intercalate_singleton]
  | cons next later inductionHypothesis =>
    rw [writeFrom, inductionHypothesis, if_pos position.succ_pos, Text.joined, Text.joined,
      String.intercalate_cons_cons]
    simp only [String.append_assoc]

/-- Writing part after part comes to the same as joining the parts. -/
theorem writeParts_eq (opening : String) (parts : List String) :
    writeParts opening parts = opening ++ Text.joined parts := by
  cases parts with
  | nil => exact String.append_empty.symm
  | cons part later => exact writeFrom_cons 0 opening part later

mutual

/-- The text of a value for readers who know no names. -/
def display : Value → String
  | unit => "()"
  | bool flag => boolText flag
  | int number => intText number
  | float number => number.text
  | char character => "'" ++ character.toString ++ "'"
  | str _ text => "\"" ++ text ++ "\""
  | seq ⟨_, ⟨backing⟩, offset, stop⟩ =>
    writeParts "[" ((displayEach backing).extract offset stop) ++ "]"
  | array _ ⟨_, ⟨backing⟩, offset, stop⟩ =>
    writeParts "Array(" ((displayEach backing).extract offset stop) ++ ")"
  | map _ entries => writeParts "\x7b" (displayEntries entries) ++ "\x7d"
  | tuple _ items => writeParts "(" (displayEach items) ++ ")"
  | object className _ _ => "<instance #" ++ toString className.raw ++ ">"
termination_by structural value => value

/-- The texts of the values, in their order. -/
def displayEach : List Value → List String
  | [] => []
  | item :: items => display item :: displayEach items

/-- The texts of the entries, each with its key. -/
def displayEntries : List (String × Value) → List String
  | [] => []
  | (key, value) :: entries => entryText key (display value) :: displayEntries entries

end

/-! ### With names -/

mutual

/-- The text of a value with the names of its classes and fields. -/
def render (names : NameTable) : Value → String
  | seq ⟨_, ⟨backing⟩, offset, stop⟩ =>
    Text.listing ((renderEach names backing).extract offset stop)
  | array _ ⟨_, ⟨backing⟩, offset, stop⟩ =>
    Text.applied "Array" ((renderEach names backing).extract offset stop)
  | map _ entries => braced (renderEntries names entries)
  | tuple _ items => Text.applied "" (renderEach names items)
  | object className _ fields =>
    Text.applied (names.textOf className) (renderFields names fields)
  | value => display value
termination_by structural value => value

/-- The texts of the values with names, in their order. -/
def renderEach (names : NameTable) : List Value → List String
  | [] => []
  | item :: items => render names item :: renderEach names items

/-- The texts of the entries with names, each with its key. -/
def renderEntries (names : NameTable) : List (String × Value) → List String
  | [] => []
  | (key, value) :: entries =>
    entryText key (render names value) :: renderEntries names entries

/-- The texts of the fields, each with its name. -/
def renderFields (names : NameTable) : List (Name × Value) → List String
  | [] => []
  | (name, value) :: fields =>
    (names.textOf name ++ " = " ++ render names value) :: renderFields names fields

end

end PatternDispatch.Value
