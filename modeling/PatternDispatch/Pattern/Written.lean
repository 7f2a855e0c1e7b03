/-
This file holds patterns as they are written. A bare identifier is ambiguous in them: it
refers to a value if its name is in scope and binds a new name if it is not. The other two
forms of identifiers say which of the two is meant.
-/
import PatternDispatch.Value.Equality
import PatternDispatch.Value.Inspect

namespace PatternDispatch

/-- A pattern before its identifiers are resolved. -/
inductive WrittenPattern where
  | wildcard
  /-- A reference if the name is in scope, a binder if it is not. -/
  | identifier (name : Name)
  /-- Always a binder. -/
  | binding (name : Name)
  /-- Always a reference. -/
  | stable (name : Name)
  | literal (value : Value)
  | typed (tag : Tag)
  | sequence (elements : List WrittenPattern)
  | sequenceHead (head : WrittenPattern) (minimum : Nat)
  /-- The first element of a sequence and the rest. -/
  | cons (head tail : WrittenPattern)
  /-- All but the last element of a sequence, and the last. -/
  | snoc (init last : WrittenPattern)
  | emptySequence
  | tuple (elements : List WrittenPattern)
  /-- A name for the whole value next to a pattern for it. -/
  | named (name : Name) (inner : WrittenPattern)

namespace WrittenPattern

instance : Inhabited WrittenPattern := ⟨wildcard⟩

/-! ### Equality -/

mutual

/-- The same tree, with equal values in the same places. -/
def equals : WrittenPattern → WrittenPattern → Bool
  | wildcard, wildcard => true
  | identifier name, identifier otherName => name = otherName
  | binding name, binding otherName => name = otherName
  | stable name, stable otherName => name = otherName
  | literal value, literal other => value.equals other
  | typed tag, typed otherTag => tag = otherTag
  | sequence elements, sequence others => equalsEach elements others
  | sequenceHead head minimum, sequenceHead otherHead otherMinimum =>
    equals head otherHead && minimum = otherMinimum
  | cons head tail, cons otherHead otherTail => equals head otherHead && equals tail otherTail
  | snoc init last, snoc otherInit otherLast => equals init otherInit && equals last otherLast
  | emptySequence, emptySequence => true
  | tuple elements, tuple others => equalsEach elements others
  | named name inner, named otherName otherInner => name = otherName && equals inner otherInner
  | _, _ => false
termination_by structural pattern => pattern

/-- Whether the patterns are equal in every place, and as many. -/
def equalsEach : List WrittenPattern → List WrittenPattern → Bool
  | [], [] => true
  | pattern :: patterns, other :: others => equals pattern other && equalsEach patterns others
  | _, _ => false

end

/-! ### Inspection -/

mutual

/-- The pattern as a constructor with its parts. -/
def inspect : WrittenPattern → String
  | wildcard => "Wildcard"
  | identifier name => Text.applied "Ident" [name.inspect]
  | binding name => Text.applied "Bind" [name.inspect]
  | stable name => Text.applied "Stable" [name.inspect]
  | literal value => Text.applied "Literal" [value.inspect]
  | typed tag => Text.applied "Typed" [tag.inspect]
  | sequence elements => Text.applied "Seq" [Text.listing (inspectEach elements)]
  | sequenceHead head minimum =>
    Text.record "SeqHeadVar"
      [Text.field "head" (inspect head), Text.field "min_len" (toString minimum)]
  | cons head tail =>
    Text.record "Cons" [Text.field "head" (inspect head), Text.field "tail" (inspect tail)]
  | snoc init last =>
    Text.record "Snoc" [Text.field "init" (inspect init), Text.field "last" (inspect last)]
  | emptySequence => "EmptySeq"
  | tuple elements => Text.applied "Tuple" [Text.listing (inspectEach elements)]
  | named name inner =>
    Text.record "At" [Text.field "name" name.inspect, Text.field "pattern" (inspect inner)]
termination_by structural pattern => pattern

/-- The texts of the patterns, in their order. -/
def inspectEach : List WrittenPattern → List String
  | [] => []
  | pattern :: patterns => inspect pattern :: inspectEach patterns

end

end WrittenPattern

end PatternDispatch
