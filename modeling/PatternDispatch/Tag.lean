/-
This file holds type tags. Sequences and maps name element types only as declared: a value
of these kinds does not carry them, so a test against such a tag cannot look at them.
Arrays do carry their element tag.
-/
import PatternDispatch.Name
import PatternDispatch.Text.Shape

namespace PatternDispatch

/-- The type that a value shows at run time, or that a type test asks for. -/
inductive Tag where
  /-- The tag above all others. -/
  | any
  | unit
  | bool
  | int
  | float
  /-- The tag above `int` and `float`. -/
  | number
  | char
  | str
  | seq (element : Tag)
  | map (key value : Tag)
  | array (element : Tag)
  | tuple (arity : Nat)
  /-- The instances of one class. -/
  | object (className : Name)
  deriving DecidableEq

namespace Tag

/-! ### Erased parameters -/

/-- Whether the values of this tag carry none of its parameters. -/
def isErasedAggregate : Tag → Bool
  | seq _ | map _ _ => true
  | _ => false

/-- Whether a test against this tag leaves a part of it unchecked. -/
def hasUncheckedParameters : Tag → Bool
  | seq element => element ≠ any
  | map key value => key ≠ any || value ≠ any
  | array element => element.hasUncheckedParameters
  | _ => false

/-! ### Inspection -/

/-- The tag as a constructor with its parts. -/
def inspect : Tag → String
  | any => "Any"
  | unit => "Unit"
  | bool => "Bool"
  | int => "Int"
  | float => "Float"
  | number => "Number"
  | char => "Char"
  | str => "Str"
  | seq element => Text.applied "Seq" [element.inspect]
  | map key value => Text.applied "Map" [key.inspect, value.inspect]
  | array element => Text.applied "Array" [element.inspect]
  | tuple arity => Text.applied "Tuple" [toString arity]
  | object className => Text.applied "Class" [className.inspect]

end Tag

end PatternDispatch
