/-
This file holds the shapes in which structured data is written out for inspection: lists
with commas, constructors with arguments, and records with named fields.
-/

namespace PatternDispatch.Text

/-- The parts with a comma and a space between neighbours. -/
def joined (parts : List String) : String := ", ".intercalate parts

/-- A list in square brackets. -/
def listing (parts : List String) : String := "[" ++ joined parts ++ "]"

/-- A constructor with its arguments in parentheses. -/
def applied (head : String) (parts : List String) : String := head ++ "(" ++ joined parts ++ ")"

/-- One named field of a record. -/
def field (label content : String) : String := label ++ ": " ++ content

/-- A record with all its fields. -/
def record (head : String) (fields : List String) : String :=
  head ++ " \x7b " ++ joined fields ++ " \x7d"

/-- A record that shows some of its fields and says that there are more. -/
def openRecord (head : String) (fields : List String) : String :=
  head ++ " \x7b " ++ joined (fields ++ [".."]) ++ " \x7d"

/-- An optional content. -/
def optional : Option String → String
  | none => "None"
  | some content => applied "Some" [content]

/-- A text filled with blanks up to a number of characters. -/
def padded (width : Nat) (text : String) : String :=
  text ++ String.ofList (List.replicate (width - text.length) ' ')

end PatternDispatch.Text
