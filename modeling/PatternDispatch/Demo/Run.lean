/-
This file runs demonstrations: a heading, then the demonstration on a fresh stage.
-/
import PatternDispatch.Demo.Literals
import PatternDispatch.Demo.Sequences
import PatternDispatch.Demo.Streams
import PatternDispatch.Demo.Tuples
import PatternDispatch.Demo.Types

namespace PatternDispatch.Demo

/-- What each demonstration does on its stage. -/
def perform : Demo → Act Unit
  | literals => Literals.run
  | sequences => Sequences.run
  | tuples => Tuples.run
  | types => Types.run
  | streams => Streams.run

/-- What a demonstration wrote, and the failure that stopped it, if any. -/
structure Performance where
  text : String
  failure : Option Failure

/-- Runs a demonstration with room for a number of bytes, or without a limit. -/
def run (demo : Demo) (room : Option Nat) : Performance :=
  let act : Act Unit := do
    Act.writeLine ("== " ++ demo.name ++ " ==")
    demo.perform
  match act.run (.start room) with
  | (.ok _, stage) => ⟨stage.text, none⟩
  | (.error failure, stage) => ⟨stage.text, some failure⟩

end PatternDispatch.Demo
