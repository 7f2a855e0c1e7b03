/-
This file proves that resolving keeps the tree. The rules say node by node which form a written
pattern takes when it is resolved; they allow one resolved pattern at most, and its nodes stand
in the order in which the written nodes stand. What is read off the nodes of both trees in that
order, such as the bound names and the type tests, is therefore the same.
-/
import PatternDispatch.Proofs.Induction
import PatternDispatch.Proofs.ListsInStep
import PatternDispatch.Proofs.WellFormed

namespace PatternDispatch

namespace WrittenPattern

variable (surroundings : Surroundings)

/-- The resolved pattern has the tree of the written one, and each node the constructor that
belongs to it: an identifier that the scope knows and a reference keep its innermost value, any
other identifier binds its name. -/
inductive Resolves : WrittenPattern → Pattern → Prop
  | wildcard : Resolves .wildcard .wildcard
  | known {name value} (visible : surroundings.scope.Innermost name ⟨value, .immutable⟩) :
    Resolves (.identifier name) (.stableReference name value)
  | fresh {name} (absent : ∀ definition, ¬surroundings.scope.Innermost name definition) :
    Resolves (.identifier name) (.binder name)
  | binding {name} : Resolves (.binding name) (.binder name)
  | stable {name value} (visible : surroundings.scope.Innermost name ⟨value, .immutable⟩) :
    Resolves (.stable name) (.stableReference name value)
  | literal {value} : Resolves (.literal value) (.literal value)
  | typed {tag} : Resolves (.typed tag) (.typeTest tag)
  | sequence {elements patterns} (each : List.Forall₂ Resolves elements patterns) :
    Resolves (.sequence elements) (.fixedSequence patterns)
  | sequenceHead {head minimum pattern} (inHead : Resolves head pattern) :
    Resolves (.sequenceHead head minimum) (.sequenceHead pattern minimum)
  | cons {head tail first rest} (inHead : Resolves head first) (inTail : Resolves tail rest) :
    Resolves (.cons head tail) (.headTail first rest)
  | snoc {init last front final} (inInit : Resolves init front) (inLast : Resolves last final) :
    Resolves (.snoc init last) (.initLast front final)
  | emptySequence : Resolves .emptySequence .emptySequence
  | tuple {elements patterns} (each : List.Forall₂ Resolves elements patterns) :
    Resolves (.tuple elements) (.tuple patterns)
  | named {name inner pattern} (within : Resolves inner pattern) :
    Resolves (.named name inner) (.bound name pattern)

variable {surroundings}

/-! ### Corresponding nodes -/

/-- Resolving this pattern keeps its nodes and their order. -/
def KeepsNodes (surroundings : Surroundings) (written : WrittenPattern) : Prop :=
  ∀ pattern, Resolves surroundings written pattern →
    List.Forall₂ (Resolves surroundings) written.nodes pattern.nodes

theorem forall₂_flatMap_nodes {elements : List WrittenPattern} {patterns : List Pattern}
    (each : ∀ element ∈ elements, KeepsNodes surroundings element)
    (resolved : List.Forall₂ (Resolves surroundings) elements patterns) :
    List.Forall₂ (Resolves surroundings) (elements.flatMap nodes)
      (patterns.flatMap Pattern.nodes) :=
  List.rel_flatMap (forall₂_imp_of_mem (fun element member pattern _ => each element member pattern)
    resolved) fun _ _ same => same

/-- The nodes of the resolved tree are the written nodes, each resolved, in the same order. -/
theorem keepsNodes (written : WrittenPattern) : KeepsNodes surroundings written := by
  induction written using WrittenPattern.induction with
  | wildcard | identifier | binding | stable | literal | typed | emptySequence =>
    intro pattern resolved
    have leaf : pattern.nodes = [pattern] := by cases resolved <;> rfl
    rw [leaf]
    exact .cons resolved .nil
  | sequence elements each =>
    intro pattern resolved
    cases resolved with
    | sequence resolved =>
      rw [nodes, nodesEach_eq_flatMap, Pattern.nodes_fixedSequence]
      exact .cons (.sequence resolved) (forall₂_flatMap_nodes each resolved)
  | sequenceHead head minimum inHead =>
    intro pattern resolved
    cases resolved with
    | sequenceHead resolved => exact .cons (.sequenceHead resolved) (inHead _ resolved)
  | cons head tail inHead inTail =>
    intro pattern resolved
    cases resolved with
    | cons left right =>
      rw [nodes, Pattern.nodes_headTail]
      exact .cons (.cons left right) (List.rel_append (inHead _ left) (inTail _ right))
  | snoc init last inInit inLast =>
    intro pattern resolved
    cases resolved with
    | snoc left right =>
      rw [nodes, Pattern.nodes_initLast]
      exact .cons (.snoc left right) (List.rel_append (inInit _ left) (inLast _ right))
  | tuple elements each =>
    intro pattern resolved
    cases resolved with
    | tuple resolved =>
      rw [nodes, nodesEach_eq_flatMap, Pattern.nodes_tuple]
      exact .cons (.tuple resolved) (forall₂_flatMap_nodes each resolved)
  | named name inner within =>
    intro pattern resolved
    cases resolved with
    | named resolved => exact .cons (.named resolved) (within _ resolved)

theorem boundName?_of_resolves (written : WrittenPattern) (pattern : Pattern)
    (resolved : Resolves surroundings written pattern) :
    boundName? surroundings written = pattern.boundName? := by
  cases resolved with
  | known visible =>
    have found := Scope.find?_eq_some_iff.2 visible
    simp only [Pattern.boundName?, boundName?, found, Option.isNone_some, Bool.false_eq_true,
      if_false]
  | fresh absent =>
    simp only [Pattern.boundName?, boundName?, find?_eq_none absent, Option.isNone_none, if_true]
  | _ => rfl

/-- Resolving keeps the bound names and their order. -/
theorem binders_of_resolves {written : WrittenPattern} {pattern : Pattern}
    (resolved : Resolves surroundings written pattern) :
    pattern.binders = written.boundNames surroundings :=
  (filterMap_eq_of_forall₂ boundName?_of_resolves (written.keepsNodes pattern resolved)).symm

/-! ### One resolved pattern at most -/

/-- At most one resolved pattern belongs to the written one. -/
def Determines (surroundings : Surroundings) (written : WrittenPattern) : Prop :=
  ∀ first second, Resolves surroundings written first → Resolves surroundings written second →
    first = second

theorem eq_of_forall₂_resolves {elements : List WrittenPattern} {firsts seconds : List Pattern}
    (each : ∀ element ∈ elements, Determines surroundings element)
    (one : List.Forall₂ (Resolves surroundings) elements firsts)
    (other : List.Forall₂ (Resolves surroundings) elements seconds) : firsts = seconds := by
  have unique : Relator.RightUnique fun element pattern =>
      Determines surroundings element ∧ Resolves surroundings element pattern :=
    fun _ _ _ left right => left.1 _ _ left.2 right.2
  exact List.right_unique_forall₂' unique ((List.forall₂_and_left _ _).2 ⟨each, one⟩)
    ((List.forall₂_and_left _ _).2 ⟨each, other⟩)

theorem determines (written : WrittenPattern) : Determines surroundings written := by
  induction written using WrittenPattern.induction with
  | wildcard | binding | literal | typed | emptySequence =>
    intro first second one other
    cases one
    cases other
    rfl
  | identifier name =>
    intro first second one other
    cases one with
    | known visible =>
      cases other with
      | known again =>
        have same := Scope.innermost_unique visible again
        cases same
        rfl
      | fresh absent => exact absurd visible (absent _)
    | fresh absent =>
      cases other with
      | known visible => exact absurd visible (absent _)
      | fresh => rfl
  | stable name =>
    intro first second one other
    cases one with
    | stable visible =>
      cases other with
      | stable again =>
        have same := Scope.innermost_unique visible again
        cases same
        rfl
  | sequence elements each =>
    intro first second one other
    cases one with
    | sequence one =>
      cases other with
      | sequence other => rw [eq_of_forall₂_resolves each one other]
  | sequenceHead head minimum inHead =>
    intro first second one other
    cases one with
    | sequenceHead one =>
      cases other with
      | sequenceHead other => rw [inHead _ _ one other]
  | cons head tail inHead inTail =>
    intro first second one other
    cases one with
    | cons left right =>
      cases other with
      | cons otherLeft otherRight =>
        rw [inHead _ _ left otherLeft, inTail _ _ right otherRight]
  | snoc init last inInit inLast =>
    intro first second one other
    cases one with
    | snoc left right =>
      cases other with
      | snoc otherLeft otherRight =>
        rw [inInit _ _ left otherLeft, inLast _ _ right otherRight]
  | tuple elements each =>
    intro first second one other
    cases one with
    | tuple one =>
      cases other with
      | tuple other => rw [eq_of_forall₂_resolves each one other]
  | named name inner within =>
    intro first second one other
    cases one with
    | named one =>
      cases other with
      | named other => rw [within _ _ one other]

end WrittenPattern

end PatternDispatch
