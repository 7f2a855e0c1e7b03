/-
This file holds the defects for which a clause is refused before it ever runs.
-/
import PatternDispatch.Text.Quoted
import PatternDispatch.Text.Shape

namespace PatternDispatch

/-- Why a clause cannot be built; names are given by their text. -/
inductive Defect where
  | guardReadsUnbound (name : String)
  | duplicateBinder (name : String)
  | inconsistentArity (pattern : String) (arity : Nat) (reason : String)
  | undefinedReference (name : String)
  | unstableReference (name : String)
  | unknownClass (name : String)
  deriving DecidableEq

namespace Defect

/-- The text of the defect. -/
def message : Defect → String
  | guardReadsUnbound name =>
    "guard reads `" ++ name ++ "`, which is bound neither by its pattern nor by the enclosing scope"
  | duplicateBinder name => "`" ++ name ++ "` is bound more than once in the same pattern"
  | inconsistentArity pattern arity reason =>
    pattern ++ " pattern has arity " ++ toString arity ++ ": " ++ reason
  | undefinedReference name =>
    "stable reference `" ++ name ++ "` is not bound in the enclosing scope"
  | unstableReference name =>
    "`" ++ name ++ "` refers to a mutable binding and cannot be used as a stable reference"
  | unknownClass name => "type test names undeclared class `" ++ name ++ "`"

/-- The name of the kind of defect. -/
def kind : Defect → String
  | guardReadsUnbound _ => "GuardReadsUnbound"
  | duplicateBinder _ => "DuplicateBinder"
  | inconsistentArity _ _ _ => "InconsistentArity"
  | undefinedReference _ => "UndefinedStableRef"
  | unstableReference _ => "UnstableIdentifier"
  | unknownClass _ => "UnknownClass"

/-- The defect as a record with all that is known of it. -/
def inspect (defect : Defect) : String :=
  Text.record defect.kind <|
    match defect with
    | guardReadsUnbound name | duplicateBinder name | undefinedReference name
    | unstableReference name | unknownClass name => [Text.field "name" (Text.quoted name)]
    | inconsistentArity pattern arity reason =>
      [Text.field "pattern" (Text.quoted pattern), Text.field "arity" (toString arity),
        Text.field "reason" (Text.quoted reason)]

end Defect

end PatternDispatch
