/-
This file holds clauses as they are written: a pattern, an optional guard that refines it,
and the producer of the result. Guards and producers are functions of the environment.
-/
import PatternDispatch.Environment
import PatternDispatch.Pattern.Written

namespace PatternDispatch

/-- A condition on the environment. `reads` names what it looks up beyond its pattern. -/
structure Guard where
  reads : List Name
  holds : Environment → Except Fault Bool

/-- A pattern, an optional guard and a producer. -/
structure Clause (Result : Type) where
  pattern : WrittenPattern
  guard : Option Guard
  produce : Environment → Except Fault Result

namespace Guard

/-- The names that the guard reads; its condition has no text. -/
def inspect (guard : Guard) : String :=
  Text.openRecord "Guard" [Text.field "reads" (Text.listing (guard.reads.map Name.inspect))]

end Guard

namespace Clause

variable {Result : Type}

/-- A clause without a guard. -/
def unguarded (pattern : WrittenPattern) (produce : Environment → Except Fault Result) :
    Clause Result :=
  ⟨pattern, none, produce⟩

/-- A clause with one result, whatever its pattern binds. -/
def returning (pattern : WrittenPattern) (result : Result) : Clause Result :=
  unguarded pattern fun _ => .ok result

/-- The clause with this guard instead of any other. -/
def guarded (clause : Clause Result) (guard : Guard) : Clause Result :=
  { clause with guard := some guard }

/-- The pattern and the guard; the producer has no text. -/
def inspect (clause : Clause Result) : String :=
  Text.openRecord "Clause"
    [Text.field "pattern" clause.pattern.inspect,
      Text.field "guard" (Text.optional (clause.guard.map Guard.inspect))]

end Clause

end PatternDispatch
