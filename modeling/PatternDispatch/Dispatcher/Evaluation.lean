/-
This file evaluates dispatchers. Clauses are tried in order; the first whose pattern accepts
the subject and whose guard holds is selected, and its producer runs once. An evaluation
shows its result, the callbacks it ran and the events it reported.
-/
import PatternDispatch.Dispatcher
import PatternDispatch.Pattern.Extraction

namespace PatternDispatch

/-! ### Attempts -/

/-- The result of matching one subject against one pattern. -/
inductive MatchOutcome where
  | accepted (bindings : Bindings)
  | rejected

namespace MatchOutcome

/-- Whether the pattern accepts the subject. -/
def isAccepted : MatchOutcome → Bool
  | accepted _ => true
  | rejected => false

/-- The outcome as a constructor with its bindings. -/
def inspect : MatchOutcome → String
  | accepted bindings => Text.applied "Accepted" [bindings.inspect]
  | rejected => "Rejected"

end MatchOutcome

/-- An outcome and the notices of the type tests that it erased. -/
structure Attempt where
  outcome : MatchOutcome
  notices : List ErasureNotice

/-- Describes an erased type test of a clause. -/
def Erasure.notice (erasure : Erasure) (classes : ClassTable) (clause : Nat) : ErasureNotice :=
  ⟨clause, classes.describe erasure.expected, classes.describe erasure.shown⟩

/-- Matches a subject on behalf of a clause. Notices are given only if the whole pattern
accepts. -/
def Pattern.attempt (pattern : Pattern) (classes : ClassTable) (clause : Nat) (subject : Value) :
    Attempt :=
  match pattern.extract classes subject with
  | none => ⟨.rejected, []⟩
  | some capture =>
    ⟨.accepted capture.bindings, capture.erasures.map fun erasure => erasure.notice classes clause⟩

/-! ### Evaluation -/

/-- A callback that an evaluation ran. -/
inductive Call where
  | guard (clause : Nat)
  | produce (clause : Nat)
  deriving DecidableEq

/-- What an evaluation shows. -/
structure Evaluation (Result : Type) where
  result : Except EvaluationError Result
  calls : List Call
  events : List Event

variable {Result : Type}

/-- The evaluation with earlier calls and events in front. -/
def Evaluation.after (later : Evaluation Result) (calls : List Call) (events : List Event) :
    Evaluation Result :=
  ⟨later.result, calls ++ later.calls, events ++ later.events⟩

/-- What the callbacks of a clause see once its pattern has bound its names. -/
def CompiledClause.environment (clause : CompiledClause Result) (bindings : Bindings) :
    Environment :=
  ⟨bindings, clause.captured⟩

/-- Runs the producer of a selected clause. -/
def CompiledClause.select (clause : CompiledClause Result) (index : Nat)
    (environment : Environment) : Evaluation Result :=
  ⟨(clause.produce environment).mapError (.produceFault index), [.produce index],
    [.selected index]⟩

/-- Tries clauses, the first of which has position `index`. -/
def evaluateFrom (classes : ClassTable) (subject : Value) :
    Nat → List (CompiledClause Result) → Evaluation Result
  | index, [] =>
    ⟨.error (.noClauseAccepted (classes.describe subject.tag) index), [], [.exhausted index]⟩
  | index, clause :: later =>
    match clause.pattern.attempt classes index subject with
    | ⟨.rejected, _⟩ =>
      (evaluateFrom classes subject (index + 1) later).after [] [.patternRejected index]
    | ⟨.accepted bindings, notices⟩ =>
      let environment := clause.environment bindings
      let erased := notices.map .elementTypeErased
      match clause.holds with
      | none => (clause.select index environment).after [] erased
      | some holds =>
        match holds environment with
        | .error fault => ⟨.error (.guardFault index fault), [.guard index], erased⟩
        | .ok true => (clause.select index environment).after [.guard index] erased
        | .ok false =>
          (evaluateFrom classes subject (index + 1) later).after [.guard index]
            (erased ++ [.guardRejected index])

/-- Runs the first clause that accepts the subject. -/
def Dispatcher.evaluate (dispatcher : Dispatcher Result) (subject : Value) : Evaluation Result :=
  evaluateFrom dispatcher.classes subject 0 dispatcher.clauses

/-- Evaluates a subject and hands the events to the observer of the dispatcher. -/
def Dispatcher.observe (dispatcher : Dispatcher Result) (journal : Journal) (subject : Value) :
    Evaluation Result × Journal :=
  let evaluation := dispatcher.evaluate subject
  (evaluation, journal.deliver dispatcher.observer evaluation.events)

end PatternDispatch
