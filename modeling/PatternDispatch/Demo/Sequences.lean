/-
This demonstration matches sequences of fixed length, by their head and by their last
element, and adds up a sequence by splitting off one head after the other. Each rest is a
view, so nothing is copied on the way.
-/
import PatternDispatch.Checked
import PatternDispatch.Demo

namespace PatternDispatch.Demo.Sequences

/-! ### Adding up by heads and tails -/

/-- One step of the sum: nothing is left, or a number and the rest. -/
inductive Step where
  | done
  | more (number : Int64) (rest : Value)

/-- The empty sequence ends the sum; any other is split into its head and its tail. -/
def stepClauses (head tail : Name) : List (Clause Step) := [
  .returning .emptySequence .done,
  .unguarded (.cons (.identifier head) (.identifier tail)) fun environment => do
    return .more (← environment.requireInt head) (← environment.require tail)]

/-- How a sum ends. -/
inductive SumEnding where
  | total (sum : Int64)
  | overflow
  | failed (error : EvaluationError)
  /-- The steps granted were not enough. -/
  | unfinished

/-- The values left over after each step, and the end of the sum. -/
structure SumRun where
  rests : List Value
  ending : SumEnding

/-- Repeats the step on what is left, adding to `total`. -/
def sumSteps (dispatcher : Dispatcher Step) : Nat → Int64 → Value → SumRun
  | 0, _, _ => ⟨[], .unfinished⟩
  | steps + 1, total, subject =>
    match (dispatcher.evaluate subject).result with
    | .error error => ⟨[], .failed error⟩
    | .ok .done => ⟨[], .total total⟩
    | .ok (.more number rest) =>
      match Checked.add? total number with
      | none => ⟨[rest], .overflow⟩
      | some sum =>
        let later := sumSteps dispatcher steps sum rest
        ⟨rest :: later.rests, later.ending⟩

/-- Adds up a sequence; every element takes one step, and the end one more. -/
def sum (dispatcher : Dispatcher Step) (subject : Value) : SumRun :=
  let elements := (subject.asView.map View.length).getD 0
  sumSteps dispatcher (elements + 1) 0 subject

/-! ### The demonstration -/

/-- Describes four sequences and adds up the numbers from 1 to 100. -/
def run : Act Unit := do
  let first ← Act.intern "first"
  let head ← Act.intern "head"
  let tail ← Act.intern "tail"
  let init ← Act.intern "init"
  let last ← Act.intern "last"
  let describe ← Act.dispatcher .start [
    .returning (.sequence [.literal (.int 1), .literal (.int 2), .literal (.int 3)])
      "exactly 1, 2, 3",
    .unguarded (.sequenceHead (.identifier first) 3) fun environment => do
      return "starts with " ++ (← environment.require first).display ++ ", at least 3 long",
    .unguarded (.snoc (.identifier init) (.identifier last)) fun environment => do
      return (← environment.require init).display ++ " followed by "
        ++ (← environment.require last).display,
    .returning .emptySequence "Empty sequence"]
  for numbers in [[1, 2, 3], [1, 2, 3, 4], [7, 8], []] do
    let subject ← Act.integers numbers
    Act.report subject (← Act.evaluate describe subject)
  let step ← Act.dispatcher .start (stepClauses head tail)
  let hundred ← Act.integers ((List.range 100).map fun index => Int64.ofNat (index + 1))
  match (sum step hundred).ending with
  | .total total =>
    Act.writeLine ("  sum of 1..=100 by head/tail   => " ++ Value.intText total)
  | .failed error => throw (.evaluation error)
  | .overflow | .unfinished => return

end PatternDispatch.Demo.Sequences
