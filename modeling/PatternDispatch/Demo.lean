/-
This file holds what the demonstrations share: their names, how they can fail, and the stage
on which they run. A stage collects the text that a demonstration writes, hands out names
and cells, and may have room for a limited number of bytes only.
-/
import PatternDispatch.Dispatcher.Evaluation
import PatternDispatch.Value.Storage

namespace PatternDispatch

/-- The demonstrations that come with the program. -/
inductive Demo where
  | literals
  | sequences
  | tuples
  | types
  | streams
  deriving DecidableEq

namespace Demo

/-! ### Names -/

/-- All demonstrations, in the order in which they are listed and run. -/
def all : List Demo := [literals, sequences, tuples, types, streams]

/-- The word by which the command line asks for the demonstration. -/
def name : Demo → String
  | literals => "literals"
  | sequences => "sequences"
  | tuples => "tuples"
  | types => "types"
  | streams => "streams"

/-- What the list of demonstrations says about it. -/
def description : Demo → String
  | literals => "literals, stable references and binders"
  | sequences => "fixed, head/tail and init/last sequence patterns"
  | tuples => "tuple patterns with literal positions"
  | types => "run-time type tests and element type erasure"
  | streams => "dispatching over generated primes and parsed input"

/-- The constructor of the demonstration. -/
def inspect : Demo → String
  | literals => "Literals"
  | sequences => "Sequences"
  | tuples => "Tuples"
  | types => "Types"
  | streams => "Streams"

/-- The demonstration with this name. -/
def ofName? (text : String) : Option Demo := all.find? fun demo => demo.name = text

/-! ### Failures -/

/-- Why a demonstration stops early. -/
inductive Failure where
  | build (error : BuildError)
  | evaluation (error : EvaluationError)
  | classes (error : ClassError)
  | output (reason : String)
  deriving DecidableEq

/-- The text of the failure. -/
def Failure.message : Failure → String
  | build error => "could not build dispatcher: " ++ error.message
  | evaluation error => error.message
  | classes error => error.message
  | output reason => "could not write output: " ++ reason

/-! ### The stage -/

/-- The state of a running demonstration. -/
structure Stage where
  text : String
  /-- The number of bytes that can still be written; `none` if there is no limit. -/
  room : Option Nat
  names : NameTable
  storage : Storage

/-- A stage on which nothing has happened yet. -/
def Stage.start (room : Option Nat) : Stage := ⟨"", room, .start, .start⟩

/-- A part of a demonstration. What was written before a failure stays written. -/
abbrev Act := ExceptT Failure (StateM Stage)

/-- The longest part in front of the characters that fits into `room` bytes. -/
def fitting (room : Nat) : List Char → List Char
  | [] => []
  | character :: later =>
    if character.utf8Size ≤ room then character :: fitting (room - character.utf8Size) later
    else []

namespace Act

/-- Writes a text as far as there is room for it. -/
def write (text : String) : Act Unit := do
  let stage ← get
  match stage.room with
  | none => set { stage with text := stage.text ++ text }
  | some room =>
    let part := String.ofList (fitting room text.toList)
    set { stage with text := stage.text ++ part, room := some (room - part.utf8ByteSize) }
    if part.utf8ByteSize < text.utf8ByteSize then throw (.output "disk full")

/-- Writes a text and the end of the line. -/
def writeLine (text : String) : Act Unit := write (text ++ "\n")

/-- The name of a text on this stage. -/
def intern (text : String) : Act Name := do
  let stage ← get
  let (name, names) := stage.names.intern text
  set { stage with names := names }
  return name

/-- Carries out an allocation in the storage of this stage. -/
def allocate {Content : Type} (allocation : Allocation Content) : Act Content := do
  let stage ← get
  let (content, storage) := allocation stage.storage
  set { stage with storage := storage }
  return content

/-- A sequence of integers. -/
def integers (numbers : List Int64) : Act Value := allocate (Value.newSeq (numbers.map Value.int))

/-- A literal pattern for a text. -/
def textLiteral (text : String) : Act WrittenPattern :=
  return .literal (← allocate (Value.newText text))

/-- One line with a subject and what became of it. -/
def report (subject : Value) (result : String) : Act Unit := do
  let names := (← get).names
  writeLine ("  " ++ Text.padded 24 (subject.render names) ++ " => " ++ result)

/-- The outcome of building, on this stage. -/
def built {Outcome : Type} (build : Build Outcome) : Act Outcome :=
  match build.outcome with
  | .ok outcome => return outcome
  | .error error => throw (.build error)

/-- Builds a dispatcher without classes and without an observer. -/
def dispatcher {Result : Type} (scope : Scope) (clauses : List (Clause Result)) :
    Act (Dispatcher Result) := do
  built (Dispatcher.ofClauses (← get).names scope clauses)

/-- The result of evaluating a subject. -/
def evaluate {Result : Type} (dispatcher : Dispatcher Result) (subject : Value) : Act Result :=
  match (dispatcher.evaluate subject).result with
  | .ok result => return result
  | .error error => throw (.evaluation error)

/-- Evaluates every subject in turn and reports the results. -/
def reportAll (dispatcher : Dispatcher String) (subjects : List Value) : Act Unit :=
  subjects.forM fun subject => do report subject (← evaluate dispatcher subject)

end Act

end Demo

end PatternDispatch
