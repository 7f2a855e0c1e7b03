/-
This file holds what an evaluation reports while it runs, and the observers that receive
it. An observer ignores the events, records them, or logs a warning for each erased type
test; the journal keeps what observers wrote, so reports are values like all others.
-/
import PatternDispatch.Text.Quoted
import PatternDispatch.Text.Shape

namespace PatternDispatch

/-- A type test that could check no more than the outer kind of its tag. -/
structure ErasureNotice where
  clause : Nat
  /-- The tag that the pattern asked for. -/
  expected : String
  /-- The tag that the subject shows. -/
  shown : String
  deriving DecidableEq

/-- One step of an evaluation. -/
inductive Event where
  | patternRejected (clause : Nat)
  | guardRejected (clause : Nat)
  | selected (clause : Nat)
  | exhausted (clausesTried : Nat)
  | elementTypeErased (notice : ErasureNotice)
  deriving DecidableEq

/-- A type test of a clause that will not be able to check all of its tag. -/
structure UncheckedTest where
  clause : Nat
  tag : String
  deriving DecidableEq

/-- A warning to the operator. -/
inductive Warning where
  | uncheckedTest (test : UncheckedTest)
  | erasedTest (notice : ErasureNotice)
  deriving DecidableEq

/-- Who receives the events of an evaluation. -/
inductive Observer where
  | silent
  | recorder
  /-- Logs a warning for every erased type test. -/
  | warner
  deriving DecidableEq

/-- The recorded events and the logged warnings, oldest first. -/
structure Journal where
  events : List Event
  log : List Warning

/-! ### Inspection -/

/-- The notice as a record. -/
def ErasureNotice.inspect (notice : ErasureNotice) : String :=
  Text.record "ErasureNotice"
    [Text.field "clause_index" (toString notice.clause),
      Text.field "expected" (Text.quoted notice.expected),
      Text.field "subject_tag" (Text.quoted notice.shown)]

/-- The event as a constructor with its argument. -/
def Event.inspect : Event → String
  | patternRejected clause => Text.applied "PatternRejected" [toString clause]
  | guardRejected clause => Text.applied "GuardRejected" [toString clause]
  | selected clause => Text.applied "Selected" [toString clause]
  | exhausted clausesTried => Text.applied "Exhausted" [toString clausesTried]
  | elementTypeErased notice => Text.applied "ElementTypeErased" [notice.inspect]

/-- The test as a record. -/
def UncheckedTest.inspect (test : UncheckedTest) : String :=
  Text.record "UncheckedTypeTest"
    [Text.field "clause_index" (toString test.clause), Text.field "tag" (Text.quoted test.tag)]

/-- The text that is logged; what the warning is about stands in fields beside it. -/
def Warning.message : Warning → String
  | uncheckedTest _ => "type test is unchecked: element types are not available at run time"
  | erasedTest _ => "type test accepted without checking element types"

/-! ### Delivery -/

namespace Journal

/-- A journal in which nothing has been written. -/
def empty : Journal := ⟨[], []⟩

/-- Hands events to an observer. -/
def deliver (journal : Journal) (observer : Observer) (events : List Event) : Journal :=
  match observer with
  | .silent => journal
  | .recorder => { journal with events := journal.events ++ events }
  | .warner => { journal with log := journal.log ++ events.filterMap warning? }
where
  warning? : Event → Option Warning
    | .elementTypeErased notice => some (.erasedTest notice)
    | _ => none

/-- Logs the type tests that were found unchecked while a dispatcher was built. -/
def warn (journal : Journal) (tests : List UncheckedTest) : Journal :=
  { journal with log := journal.log ++ tests.map .uncheckedTest }

/-- The journal without its events. -/
def withoutEvents (journal : Journal) : Journal := { journal with events := [] }

/-- The journal without its warnings. -/
def withoutLog (journal : Journal) : Journal := { journal with log := [] }

end Journal

end PatternDispatch
