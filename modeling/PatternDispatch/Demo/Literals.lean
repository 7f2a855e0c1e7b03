/-
This demonstration matches literals, refers to constants of the scope, and ends with a guarded
and an unguarded binder.
-/
import PatternDispatch.Demo

namespace PatternDispatch.Demo.Literals

/-- Holds if the name stands for a negative integer. -/
def negative (name : Name) : Guard where
  reads := [name]
  holds environment := do
    match (← environment.require name).asInt with
    | some number => return number < 0
    | none => return false

/-- Evaluates literals of several kinds, two constants and two numbers. -/
def run : Act Unit := do
  let unity ← Act.intern "unity"
  let subunitary ← Act.intern "subunitary"
  let x ← Act.intern "x"
  let half : Value := .float ⟨0x3fe0000000000000⟩
  let scope := (Scope.start.define unity (.int 1) .immutable).define subunitary half .immutable
  let dispatcher ← Act.dispatcher scope [
    .returning (.literal (.int 3)) "three",
    .returning (.identifier subunitary) "subunitary",
    .returning (.identifier unity) "unity",
    (Clause.returning (.identifier x) "negative").guarded (negative x),
    .unguarded (.identifier x) fun environment => do
      return "unity? no, " ++ (← environment.require x).display]
  let one ← Act.allocate (Value.newText "one")
  Act.reportAll dispatcher [.int 1, .int 3, half, .int (-4), one]

end PatternDispatch.Demo.Literals
