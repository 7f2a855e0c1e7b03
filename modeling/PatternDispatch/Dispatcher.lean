/-
This file holds dispatchers and how they are built. Every clause is resolved against its
surroundings, and the values that its guard reads from the scope are copied, so that later
changes of the scope do not matter. The first clause with a defect refuses the whole list;
the type tests found unchecked before it have been reported by then.
-/
import PatternDispatch.Clause
import PatternDispatch.Event
import PatternDispatch.Pattern.Resolution

namespace PatternDispatch

/-- A clause that is ready to run. -/
structure CompiledClause (Result : Type) where
  pattern : Pattern
  holds : Option (Environment → Except Fault Bool)
  /-- The values that the guard reads from the scope. -/
  captured : List (Name × Value)
  produce : Environment → Except Fault Result

/-- An ordered list of clauses, the first of which to accept a subject is run. -/
structure Dispatcher (Result : Type) where
  clauses : List (CompiledClause Result)
  classes : ClassTable
  observer : Observer
  /-- The type tests that cannot check all of their tag. -/
  warnings : List UncheckedTest

/-- A defect and the position of the clause that has it. -/
structure BuildError where
  clause : Nat
  defect : Defect
  deriving DecidableEq

/-- The outcome of building and the unchecked type tests reported on the way. -/
structure Build (Outcome : Type) where
  reported : List UncheckedTest
  outcome : Except BuildError Outcome

namespace BuildError

/-- The text of the error. -/
def message (error : BuildError) : String :=
  "clause " ++ toString error.clause ++ ": " ++ error.defect.message

/-- The error as a record with its defect. -/
def inspect (error : BuildError) : String :=
  Text.record "BuildError"
    [Text.field "clause_index" (toString error.clause), Text.field "kind" error.defect.inspect]

end BuildError

variable {Result : Type}

/-! ### One clause -/

/-- Copies from the scope what the guard reads and the pattern does not bind. -/
def captureReads (surroundings : Surroundings) (binders : List Name) :
    List Name → Except Defect (List (Name × Value))
  | [] => .ok []
  | name :: later =>
    if name ∈ binders then captureReads surroundings binders later
    else
      match surroundings.scope.valueOf? name with
      | none => .error (.guardReadsUnbound (surroundings.names.textOf name))
      | some value => do return (name, value) :: (← captureReads surroundings binders later)

/-- The names that the guard of a clause reads. -/
def Clause.reads (clause : Clause Result) : List Name :=
  match clause.guard with
  | none => []
  | some guard => guard.reads

/-- Resolves the pattern of a clause, and copies what its guard reads beyond it. -/
def Clause.compile (surroundings : Surroundings) (clause : Clause Result) :
    Except Defect (CompiledClause Result) := do
  let pattern ← clause.pattern.resolve surroundings
  let captured ← captureReads surroundings pattern.binders clause.reads
  return ⟨pattern, clause.guard.map (·.holds), captured, clause.produce⟩

/-- The type tests of a clause that cannot check all of their tag. -/
def CompiledClause.uncheckedTests (clause : CompiledClause Result) (classes : ClassTable)
    (index : Nat) : List UncheckedTest :=
  clause.pattern.uncheckedTags.map fun tag => ⟨index, classes.describe tag⟩

/-! ### The list of clauses -/

/-- Compiles clauses, the first of which has position `index`. -/
def compileFrom (surroundings : Surroundings) :
    Nat → List (Clause Result) → Build (List (CompiledClause Result))
  | _, [] => ⟨[], .ok []⟩
  | index, clause :: later =>
    match clause.compile surroundings with
    | .error defect => ⟨[], .error ⟨index, defect⟩⟩
    | .ok compiled =>
      let rest := compileFrom surroundings (index + 1) later
      ⟨compiled.uncheckedTests surroundings.classes index ++ rest.reported,
        rest.outcome.map (compiled :: ·)⟩

namespace Dispatcher

/-- Builds a dispatcher whose events go to `observer`. -/
def build (surroundings : Surroundings) (observer : Observer) (clauses : List (Clause Result)) :
    Build (Dispatcher Result) :=
  let compiled := compileFrom surroundings 0 clauses
  ⟨compiled.reported,
    compiled.outcome.map fun ready => ⟨ready, surroundings.classes, observer, compiled.reported⟩⟩

/-- Builds a dispatcher without classes and without an observer. -/
def ofClauses (names : NameTable) (scope : Scope) (clauses : List (Clause Result)) :
    Build (Dispatcher Result) :=
  build ⟨names, scope, .empty⟩ .silent clauses

/-- The number of clauses. -/
def length (dispatcher : Dispatcher Result) : Nat := dispatcher.clauses.length

/-- Whether there is no clause. -/
def isEmpty (dispatcher : Dispatcher Result) : Bool := dispatcher.clauses.isEmpty

/-- The resolved patterns in the order of the clauses. -/
def patterns (dispatcher : Dispatcher Result) : List Pattern := dispatcher.clauses.map (·.pattern)

/-- The patterns and the warnings; callbacks have no text. -/
def inspect (dispatcher : Dispatcher Result) : String :=
  Text.openRecord "Dispatcher"
    [Text.field "patterns" (Text.listing (dispatcher.patterns.map Pattern.inspect)),
      Text.field "warnings" (Text.listing (dispatcher.warnings.map UncheckedTest.inspect))]

end Dispatcher

end PatternDispatch
