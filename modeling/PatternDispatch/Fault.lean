/-
This file holds the failures of callbacks and the failures of evaluations. A fault is handed
back as the callback raised it.
-/
import PatternDispatch.Text.Quoted
import PatternDispatch.Text.Shape

namespace PatternDispatch

/-- A failure raised by a guard or a producer; `cause` is the text of the error that it wraps. -/
structure Fault where
  message : String
  cause : Option String
  deriving DecidableEq

namespace Fault

/-- A fault that wraps no other error. -/
def ofMessage (message : String) : Fault := ⟨message, none⟩

/-- Wraps an error, whose text becomes the message. -/
def wrapping (error : String) : Fault := ⟨error, some error⟩

/-- The fault as a record, which tells of the wrapped error no more than that it is there. -/
def inspect (fault : Fault) : String :=
  Text.record "ClauseFault"
    [Text.field "message" (Text.quoted fault.message),
      Text.field "wrapped" (if fault.cause.isSome then "true" else "false")]

end Fault

/-- Why an evaluation has no result. -/
inductive EvaluationError where
  /-- Every clause was tried in vain. -/
  | noClauseAccepted (subjectTag : String) (clausesTried : Nat)
  | guardFault (clause : Nat) (fault : Fault)
  | produceFault (clause : Nat) (fault : Fault)
  deriving DecidableEq

namespace EvaluationError

/-- The text of the error. -/
def message : EvaluationError → String
  | noClauseAccepted subjectTag clausesTried =>
    "no clause accepted subject of type `" ++ subjectTag ++ "` (" ++ toString clausesTried
      ++ " clauses tried)"
  | guardFault clause fault =>
    "guard of clause " ++ toString clause ++ " failed: " ++ fault.message
  | produceFault clause fault =>
    "clause " ++ toString clause ++ " failed while producing its result: " ++ fault.message

/-- The fault that the error carries. -/
def fault? : EvaluationError → Option Fault
  | noClauseAccepted _ _ => none
  | guardFault _ fault | produceFault _ fault => some fault

/-- Whether the evaluation failed for want of an accepting clause. -/
def isNoClauseAccepted (error : EvaluationError) : Bool := error.fault?.isNone

/-- The name of the kind of error. -/
def kind : EvaluationError → String
  | noClauseAccepted _ _ => "NoClauseAccepted"
  | guardFault _ _ => "GuardFault"
  | produceFault _ _ => "ProduceFault"

/-- The error as a record with all that is known of it. -/
def inspect (error : EvaluationError) : String :=
  Text.record error.kind <|
    match error with
    | noClauseAccepted subjectTag clausesTried =>
      [Text.field "subject_tag" (Text.quoted subjectTag),
        Text.field "clauses_tried" (toString clausesTried)]
    | guardFault clause fault | produceFault clause fault =>
      [Text.field "clause_index" (toString clause), Text.field "fault" fault.inspect]

end EvaluationError

end PatternDispatch
