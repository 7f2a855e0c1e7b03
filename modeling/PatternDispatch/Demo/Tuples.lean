/-
This demonstration matches tuples with literals and binders in them, and a tuple with a name
of its own.
-/
import PatternDispatch.Demo

namespace PatternDispatch.Demo.Tuples

/-- Evaluates pairs with and without a certain hour in them, and a triple. -/
def run : Act Unit := do
  let what ← Act.intern "what"
  let moment ← Act.intern "when"
  let pair ← Act.intern "pair"
  let noon ← Act.textLiteral "12:00"
  let dispatcher ← Act.dispatcher .start [
    .unguarded (.tuple [.identifier what, noon]) fun environment => do
      return (← environment.require what).display ++ " at noon",
    .unguarded (.named pair (.tuple [.identifier what, .identifier moment])) fun environment => do
      return (← environment.require what).display ++ " at "
        ++ (← environment.require moment).display ++ " (whole pair "
        ++ (← environment.require pair).display ++ ")",
    .returning (.tuple [.wildcard, .wildcard, .wildcard]) "some triple"]
  for (subject, hour) in [("lunch", "12:00"), ("tea", "13:00")] do
    let texts ← [subject, hour].mapM fun text => Act.allocate (Value.newText text)
    let subject ← Act.allocate (Value.newTuple texts)
    Act.report subject (← Act.evaluate dispatcher subject)
  let triple ← Act.allocate (Value.newTuple [.int 1, .int 2, .int 3])
  Act.report triple (← Act.evaluate dispatcher triple)
  let quadruple ← Act.allocate (Value.newTuple (List.replicate 4 .unit))
  match (dispatcher.evaluate quadruple).result with
  | .ok result => Act.report quadruple result
  | .error error => Act.report quadruple error.message

end PatternDispatch.Demo.Tuples
