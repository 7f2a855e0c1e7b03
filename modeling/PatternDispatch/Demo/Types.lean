/-
This demonstration tests types over a small class hierarchy. It lists the tests that cannot
be checked in full when they are built, and the subjects that such a test accepted.
-/
import PatternDispatch.Demo

namespace PatternDispatch.Demo.Types

/-- Declares a class on the stage. -/
def declare (classes : ClassTable) (display : String) (parent : Option Name) :
    Act (Name × ClassTable) := do
  let stage ← get
  let (names, outcome) := classes.declare stage.names display parent
  set { stage with names := names }
  match outcome with
  | .ok declared => return declared
  | .error error => throw (.classes error)

/-- A clause that tests a type. -/
def typed (tag : Tag) (label : String) : Clause String := .returning (.typed tag) label

/-- The line for a test that cannot look at the elements, written when it is built. -/
def warningLine (test : UncheckedTest) : String :=
  "  warning: clause " ++ toString test.clause ++ " tests `" ++ test.tag
    ++ "`, element types are unchecked"

/-- The line for a test that could not look at the elements. -/
def noticeLine? : Event → Option String
  | .elementTypeErased notice =>
    some ("    (accepted " ++ notice.shown ++ " as " ++ notice.expected
      ++ " without checking elements)")
  | _ => none

/-- The values that the demonstration tests. -/
def subjects (circle radius : Name) : Allocation (List Value) := do
  let unitRadius : Value := .float ⟨0x3ff0000000000000⟩
  let no ← Value.newText "no"
  let half ← Value.newText "1/2"
  let threeQuarters ← Value.newText "3/4"
  let v ← Value.newText "v"
  return [
    .int 7,
    .float ⟨0x4004000000000000⟩,
    ← Value.newObject circle [(radius, unitRadius)],
    ← Value.newArray .int [.int 1, .int 2],
    ← Value.newArray .str [no],
    ← Value.newSeq [half, threeQuarters],
    ← Value.newMap [("k", v)]]

/-- Declares three classes, warns of the unchecked tests and evaluates the subjects. -/
def run : Act Unit := do
  let (shape, classes) ← declare .empty "Shape" none
  let (circle, classes) ← declare classes "Circle" (some shape)
  let (rational, classes) ← declare classes "Rational" none
  let radius ← Act.intern "radius"
  let dispatcher ← Act.built (Dispatcher.build ⟨(← get).names, .start, classes⟩ .recorder [
    typed .int "an Int",
    typed .number "some other Number",
    typed (.object shape) "a Shape",
    typed (.array .int) "an Array[Int]",
    typed (.seq (.object rational)) "a Seq[Rational]?",
    typed (.map .str .int) "a Map[Str, Int]?",
    typed .any "something else"])
  dispatcher.warnings.forM fun test => Act.writeLine (warningLine test)
  for subject in ← Act.allocate (subjects circle radius) do
    Act.report subject (← Act.evaluate dispatcher subject)
    let journal := (dispatcher.observe .empty subject).2
    (journal.events.filterMap noticeLine?).forM Act.writeLine

end PatternDispatch.Demo.Types
