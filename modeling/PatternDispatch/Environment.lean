/-
This file holds the names that a guard or a producer can see: those bound by its pattern,
and behind them those captured from the scope for its guard.
-/
import PatternDispatch.Bindings
import PatternDispatch.Fault

namespace PatternDispatch

/-- Bindings of the pattern in front of values captured from the scope. -/
structure Environment where
  bindings : Bindings
  captured : List (Name × Value)

namespace Environment

/-- A name bound by the pattern hides a captured one. -/
def get? (environment : Environment) (name : Name) : Option Value :=
  (environment.bindings.get? name).or (Value.field? environment.captured name)

/-- The value of a name; a missing name is a fault. -/
def require (environment : Environment) (name : Name) : Except Fault Value :=
  match environment.get? name with
  | some value => .ok value
  | none => .error (.ofMessage (name.inspect ++ " is not bound"))

/-- The value of a name that has to be an integer. -/
def requireInt (environment : Environment) (name : Name) : Except Fault Int64 := do
  match ← environment.require name with
  | .int number => return number
  | other =>
    throw (.ofMessage (name.inspect ++ " is a " ++ other.typeName ++ ", not an Int"))

/-- Both kinds of names with their values. -/
def inspect (environment : Environment) : String :=
  Text.record "MatchEnv"
    [Text.field "bindings" environment.bindings.inspect,
      Text.field "captured" (Bindings.inspectEntries environment.captured)]

end Environment

end PatternDispatch
