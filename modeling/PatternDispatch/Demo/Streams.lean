/-
This demonstration matches sequences taken from the stream of primes, and reads integers from
texts without stopping at those that are none.
-/
import PatternDispatch.Demo
import PatternDispatch.Primes
import PatternDispatch.Text.Blank
import PatternDispatch.Text.Integer

namespace PatternDispatch.Demo.Streams

/-- Holds if two primes are two apart. -/
def twins (p q : Name) : Guard where
  reads := [p, q]
  holds environment := do
    return (← environment.requireInt q) - (← environment.requireInt p) = 2

/-- Two primes at the front of a sequence are compared if they are twins; otherwise the first is
said to have none. -/
def gapClauses (p q rest : Name) : List (Clause String) := [
  (Clause.unguarded (.cons (.identifier p) (.cons (.identifier q) (.identifier rest)))
    fun environment => do
      let first ← environment.requireInt p
      let second ← environment.requireInt q
      return Value.intText first ++ " and " ++ Value.intText second ++ " are "
        ++ Value.intText (second - first) ++ " apart").guarded (twins p q),
  .unguarded (.cons (.identifier p) .wildcard) fun environment => do
    return Value.intText (← environment.requireInt p) ++ " has no twin next",
  .returning .emptySequence "no primes"]

/-- Reads the text that a name stands for as an integer. -/
def readText (name : Name) (environment : Environment) : Except Fault Int64 := do
  let text := ((← environment.require name).asText).getD ""
  (Text.readInteger (Text.trimmed text.toList)).mapError fun error => .wrapping error.message

/-- The primes among the first candidates, none if their search has no end. -/
def primes (candidates : Nat) : List Int64 := (Primes.amongFirst candidates).getD []

/-- Compares neighbours among the first primes and some above 1000, then reads four texts. -/
def run : Act Unit := do
  let p ← Act.intern "p"
  let q ← Act.intern "q"
  let rest ← Act.intern "rest"
  let text ← Act.intern "text"
  let gaps ← Act.dispatcher .start (gapClauses p q rest)
  let window := (primes 28).take 10
  for (first, second) in window.zip (window.drop 1) do
    let subject ← Act.integers [first, second]
    Act.report subject (← Act.evaluate gaps subject)
  let large := ((primes 1018).dropWhile (· < 1000)).take 3
  let subject ← Act.integers large
  Act.report subject (← Act.evaluate gaps subject)
  let parse ← Act.dispatcher .start
    [.unguarded (.named text (.typed .str)) (readText text)]
  for input in ["42", " -7 ", "x1", ""] do
    let subject ← Act.allocate (Value.newText input)
    match (parse.evaluate subject).result with
    | .ok number => Act.report subject ("parsed " ++ Value.intText number)
    | .error (.produceFault _ fault) => Act.report subject ("rejected: " ++ fault.message)
    | .error error => throw (.evaluation error)

end PatternDispatch.Demo.Streams
