/-
This file holds run-time type tests. A test looks at the tag that a value shows: of a
sequence or a map only the kind, of an array also its element tag. When a test accepts
without having seen all that it asks for, the answer says so.
-/
import PatternDispatch.ClassTable
import PatternDispatch.Value

namespace PatternDispatch

/-- The answer of a run-time type test. -/
inductive TagCheck where
  | accepted
  /-- Accepted by the outer kind; the parameters were not looked at. -/
  | acceptedErased
  | rejected
  deriving DecidableEq

/-- The constructor of the answer. -/
def TagCheck.inspect : TagCheck → String
  | accepted => "Accepted"
  | acceptedErased => "AcceptedErased"
  | rejected => "Rejected"

/-- Tests the tag that a value shows against the tag asked for. -/
def ClassTable.conforms (classes : ClassTable) : Tag → Tag → TagCheck
  | _, .any => .accepted
  | .seq _, .seq element =>
    if (Tag.seq element).hasUncheckedParameters then .acceptedErased else .accepted
  | .map _ _, .map key value =>
    if (Tag.map key value).hasUncheckedParameters then .acceptedErased else .accepted
  | .array shown, .array expected => conforms classes shown expected
  | shown, expected => if classes.isSubtype shown expected then .accepted else .rejected

/-- Tests a value against a tag. -/
def Value.checkTag (classes : ClassTable) (subject : Value) (expected : Tag) : TagCheck :=
  classes.conforms subject.tag expected

end PatternDispatch
