/-
This file holds resolved patterns. Every identifier in them has been settled to be a binder
or a reference to a value known beforehand, so matching needs no scope. The traversal
`nodes` visits a pattern before its parts and parts from left to right; binders and type
tests are read off it.
-/
import PatternDispatch.Value.Equality
import PatternDispatch.Value.Inspect

namespace PatternDispatch

/-- A rule that accepts some values and binds names to parts of them. -/
inductive Pattern where
  /-- Accepts what equals the value. -/
  | literal (value : Value)
  /-- Accepts what equals the value that the name had when the pattern was resolved. -/
  | stableReference (name : Name) (value : Value)
  | wildcard
  | binder (name : Name)
  /-- Accepts values of the tag, as far as they show it. -/
  | typeTest (tag : Tag)
  /-- A sequence of exactly these elements. -/
  | fixedSequence (elements : List Pattern)
  /-- A sequence with a first element and at least `minimum` elements. -/
  | sequenceHead (head : Pattern) (minimum : Nat)
  /-- A nonempty sequence: its first element and the rest. -/
  | headTail (head tail : Pattern)
  /-- A nonempty sequence: all but its last element, and the last. -/
  | initLast (init last : Pattern)
  | emptySequence
  /-- A tuple of exactly these elements. -/
  | tuple (elements : List Pattern)
  /-- Binds the whole value and matches the inner pattern. -/
  | bound (name : Name) (inner : Pattern)

namespace Pattern

instance : Inhabited Pattern := ⟨wildcard⟩

/-! ### Traversal -/

mutual

/-- The nodes of the pattern in front of `later`. -/
def nodesBefore : Pattern → List Pattern → List Pattern
  | fixedSequence elements, later => fixedSequence elements :: nodesEachBefore elements later
  | tuple elements, later => tuple elements :: nodesEachBefore elements later
  | sequenceHead head minimum, later => sequenceHead head minimum :: nodesBefore head later
  | headTail head tail, later => headTail head tail :: nodesBefore head (nodesBefore tail later)
  | initLast init last, later => initLast init last :: nodesBefore init (nodesBefore last later)
  | bound name inner, later => bound name inner :: nodesBefore inner later
  | leaf, later => leaf :: later
termination_by structural pattern => pattern

/-- The nodes of the patterns, one after the other, in front of `later`. -/
def nodesEachBefore : List Pattern → List Pattern → List Pattern
  | [], later => later
  | pattern :: patterns, later => nodesBefore pattern (nodesEachBefore patterns later)

end

/-- The pattern and all its parts, each before its own parts, from left to right. -/
def nodes (pattern : Pattern) : List Pattern := pattern.nodesBefore []

mutual

theorem nodesBefore_eq (pattern : Pattern) (later : List Pattern) :
    pattern.nodesBefore later = pattern.nodes ++ later := by
  cases pattern with
  | fixedSequence elements | tuple elements =>
    rw [nodes, nodesBefore, nodesBefore, nodesEachBefore_eq elements later,
      nodesEachBefore_eq elements [], List.cons_append, List.append_nil]
  | sequenceHead part | bound _ part => exact congrArg (_ :: ·) (nodesBefore_eq part later)
  | headTail first second | initLast first second =>
    change _ :: first.nodesBefore (second.nodesBefore later) =
      _ :: first.nodesBefore second.nodes ++ later
    rw [nodesBefore_eq second later, nodesBefore_eq first (second.nodes ++ later),
      nodesBefore_eq first second.nodes, List.cons_append, List.append_assoc]
  | _ => rfl
termination_by structural pattern

/-- The nodes of a list of patterns are those of its members, one after the other. -/
theorem nodesEachBefore_eq (patterns later : List Pattern) :
    nodesEachBefore patterns later = patterns.flatMap nodes ++ later := by
  cases patterns with
  | nil => rfl
  | cons pattern patterns =>
    rw [nodesEachBefore, nodesBefore_eq pattern, nodesEachBefore_eq patterns later,
      List.flatMap_cons, List.append_assoc]
termination_by structural patterns

end

theorem nodes_fixedSequence (elements : List Pattern) :
    (fixedSequence elements).nodes = fixedSequence elements :: elements.flatMap nodes := by
  rw [nodes, nodesBefore, nodesEachBefore_eq, List.append_nil]

theorem nodes_tuple (elements : List Pattern) :
    (tuple elements).nodes = tuple elements :: elements.flatMap nodes := by
  rw [nodes, nodesBefore, nodesEachBefore_eq, List.append_nil]

theorem nodes_sequenceHead (head : Pattern) (minimum : Nat) :
    (sequenceHead head minimum).nodes = sequenceHead head minimum :: head.nodes := rfl

theorem nodes_headTail (head tail : Pattern) :
    (headTail head tail).nodes = headTail head tail :: (head.nodes ++ tail.nodes) :=
  congrArg (headTail head tail :: ·) (nodesBefore_eq head tail.nodes)

theorem nodes_initLast (init last : Pattern) :
    (initLast init last).nodes = initLast init last :: (init.nodes ++ last.nodes) :=
  congrArg (initLast init last :: ·) (nodesBefore_eq init last.nodes)

theorem nodes_bound (name : Name) (inner : Pattern) :
    (bound name inner).nodes = bound name inner :: inner.nodes := rfl

/-- The name that this node binds, its parts aside. -/
def boundName? : Pattern → Option Name
  | binder name | bound name _ => some name
  | _ => none

/-- The names that the pattern binds, outermost first. -/
def binders (pattern : Pattern) : List Name := pattern.nodes.filterMap boundName?

/-- The tag that this node tests without being able to check all of it. -/
def uncheckedTag? : Pattern → Option Tag
  | typeTest tag => if tag.hasUncheckedParameters then some tag else none
  | _ => none

/-- The tags that are tested without being checked in full, in the order of the tests. -/
def uncheckedTags (pattern : Pattern) : List Tag := pattern.nodes.filterMap uncheckedTag?

/-- Whether the pattern accepts every value. -/
def isIrrefutable : Pattern → Bool
  | wildcard | binder _ => true
  | typeTest tag => tag = .any
  | bound _ inner => inner.isIrrefutable
  | _ => false

/-- A short name of the kind of this node. -/
def kindName : Pattern → String
  | literal _ => "literal"
  | stableReference _ _ => "stable reference"
  | wildcard => "wildcard"
  | binder _ => "binder"
  | typeTest _ => "type test"
  | fixedSequence _ => "fixed sequence"
  | sequenceHead _ _ => "sequence head"
  | headTail _ _ => "head/tail"
  | initLast _ _ => "init/last"
  | emptySequence => "empty sequence"
  | tuple _ => "tuple"
  | bound _ _ => "bound pattern"

/-! ### Equality -/

mutual

/-- The same tree, with equal values in the same places. -/
def equals : Pattern → Pattern → Bool
  | literal value, literal other => value.equals other
  | stableReference name value, stableReference otherName other =>
    name = otherName && value.equals other
  | wildcard, wildcard => true
  | binder name, binder otherName => name = otherName
  | typeTest tag, typeTest otherTag => tag = otherTag
  | fixedSequence elements, fixedSequence others => equalsEach elements others
  | sequenceHead head minimum, sequenceHead otherHead otherMinimum =>
    equals head otherHead && minimum = otherMinimum
  | headTail head tail, headTail otherHead otherTail =>
    equals head otherHead && equals tail otherTail
  | initLast init last, initLast otherInit otherLast =>
    equals init otherInit && equals last otherLast
  | emptySequence, emptySequence => true
  | tuple elements, tuple others => equalsEach elements others
  | bound name inner, bound otherName otherInner => name = otherName && equals inner otherInner
  | _, _ => false
termination_by structural pattern => pattern

/-- Whether the patterns are equal in every place, and as many. -/
def equalsEach : List Pattern → List Pattern → Bool
  | [], [] => true
  | pattern :: patterns, other :: others => equals pattern other && equalsEach patterns others
  | _, _ => false

end

/-! ### Inspection -/

mutual

/-- The pattern as a constructor with its parts. -/
def inspect : Pattern → String
  | literal value => Text.applied "Literal" [value.inspect]
  | stableReference name value =>
    Text.record "StableRef" [Text.field "name" name.inspect, Text.field "value" value.inspect]
  | wildcard => "Wildcard"
  | binder name => Text.applied "Binder" [name.inspect]
  | typeTest tag => Text.applied "TypedClass" [tag.inspect]
  | fixedSequence elements => Text.applied "SeqFixed" [Text.listing (inspectEach elements)]
  | sequenceHead head minimum =>
    Text.record "SeqHeadVar"
      [Text.field "head" (inspect head), Text.field "min_len" (toString minimum)]
  | headTail head tail =>
    Text.record "SeqHeadTail" [Text.field "head" (inspect head), Text.field "tail" (inspect tail)]
  | initLast init last =>
    Text.record "SeqInitLast" [Text.field "init" (inspect init), Text.field "last" (inspect last)]
  | emptySequence => "SeqEmpty"
  | tuple elements => Text.applied "Tuple" [Text.listing (inspectEach elements)]
  | bound name inner =>
    Text.record "Bound" [Text.field "name" name.inspect, Text.field "inner" (inspect inner)]
termination_by structural pattern => pattern

/-- The texts of the patterns, in their order. -/
def inspectEach : List Pattern → List String
  | [] => []
  | pattern :: patterns => inspect pattern :: inspectEach patterns

end

end Pattern

end PatternDispatch
