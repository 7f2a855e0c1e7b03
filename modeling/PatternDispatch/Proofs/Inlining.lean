/-
This file proves that a reference means the value it captures. In a written pattern the value of
every name that the scope knows can be written out in place of the name. What is left needs no
scope: it resolves without one, to the pattern whose references are literals, and that pattern
binds the same names and matches every subject in the same way. Names that the scope does not
know stay binders, and names that are bound whatever the scope says are not touched.
-/
import PatternDispatch.Dispatcher.Evaluation
import PatternDispatch.Proofs.FirstDefect

namespace PatternDispatch

/-! ### Without a scope -/

/-- The same names and classes, and a scope without definitions. -/
def Surroundings.withoutScope (surroundings : Surroundings) : Surroundings :=
  { surroundings with scope := .start }

theorem Scope.not_innermost_start (name : Name) (definition : Definition) :
    ¬start.Innermost name definition := by
  rw [← find?_eq_some_iff]
  nofun

/-! ### Values written out -/

namespace WrittenPattern

/-- The value that the scope has for the name, or else the node. -/
def valueOr (scope : Scope) (name : Name) (node : WrittenPattern) : WrittenPattern :=
  match scope.valueOf? name with
  | none => node
  | some value => literal value

mutual

/-- The pattern with the values of all names that the scope knows written out. -/
def inlined (scope : Scope) : WrittenPattern → WrittenPattern
  | identifier name => valueOr scope name (identifier name)
  | stable name => valueOr scope name (stable name)
  | sequence elements => sequence (inlinedEach scope elements)
  | sequenceHead head minimum => sequenceHead (inlined scope head) minimum
  | cons head tail => cons (inlined scope head) (inlined scope tail)
  | snoc init last => snoc (inlined scope init) (inlined scope last)
  | tuple elements => tuple (inlinedEach scope elements)
  | named name inner => named name (inlined scope inner)
  | leaf => leaf
termination_by structural pattern => pattern

/-- The patterns with the known values written out, in their order. -/
def inlinedEach (scope : Scope) : List WrittenPattern → List WrittenPattern
  | [] => []
  | pattern :: patterns => inlined scope pattern :: inlinedEach scope patterns

end

theorem inlinedEach_eq_map (scope : Scope) (patterns : List WrittenPattern) :
    inlinedEach scope patterns = patterns.map (inlined scope) := by
  induction patterns with
  | nil => rfl
  | cons pattern patterns inductionHypothesis =>
    rw [inlinedEach, inductionHypothesis, List.map_cons]

theorem nodesEach_inlinedEach {scope : Scope} {elements : List WrittenPattern}
    (each : ∀ element ∈ elements,
      (element.inlined scope).nodes = element.nodes.map (inlined scope)) :
    nodesEach (inlinedEach scope elements) = (nodesEach elements).map (inlined scope) := by
  rw [nodesEach_eq_flatMap, nodesEach_eq_flatMap, inlinedEach_eq_map, List.flatMap_map,
    List.map_flatMap]
  exact List.flatMap_congr each

/-- What is written out is a single node, so the nodes stay in their places. -/
theorem nodes_inlined (scope : Scope) (written : WrittenPattern) :
    (written.inlined scope).nodes = written.nodes.map (inlined scope) := by
  induction written using WrittenPattern.induction with
  | wildcard | binding | literal | typed | emptySequence => rfl
  | identifier name | stable name =>
    rw [inlined, valueOr]
    cases known : scope.valueOf? name <;> simp [nodes, inlined, valueOr, known]
  | sequence elements each | tuple elements each =>
    rw [inlined, nodes, nodes, List.map_cons, nodesEach_inlinedEach each, inlined]
  | sequenceHead head minimum inHead =>
    rw [inlined, nodes, nodes, List.map_cons, inHead, inlined]
  | cons head tail inHead inTail =>
    rw [inlined, nodes, nodes, List.map_cons, List.map_append, inHead, inTail, inlined]
  | snoc init last inInit inLast =>
    rw [inlined, nodes, nodes, List.map_cons, List.map_append, inInit, inLast, inlined]
  | named name inner within =>
    rw [inlined, nodes, nodes, List.map_cons, within, inlined]

variable {surroundings : Surroundings}

theorem sound_inlined {node : WrittenPattern} (sound : Sound surroundings node) :
    Sound surroundings.withoutScope (node.inlined surroundings.scope) := by
  cases node with
  | identifier name =>
    rw [inlined, valueOr]
    cases surroundings.scope.valueOf? name with
    | none => exact fun definition visible => absurd visible (Scope.not_innermost_start _ _)
    | some value => trivial
  | stable name =>
    obtain ⟨definition, visible, -⟩ := sound
    rw [inlined, valueOr, Scope.valueOf?_eq_some visible]
    trivial
  | tuple elements =>
    have arity : (inlinedEach surroundings.scope elements).length = elements.length := by
      rw [inlinedEach_eq_map, List.length_map]
    rw [inlined, Sound, arity]
    exact sound
  | _ => exact sound

theorem boundName?_inlined (surroundings : Surroundings) (node : WrittenPattern) :
    boundName? surroundings.withoutScope (node.inlined surroundings.scope) =
      boundName? surroundings node := by
  cases node with
  | identifier name =>
    rw [inlined, valueOr, boundName?, Scope.valueOf?]
    cases surroundings.scope.find? name <;> rfl
  | stable name =>
    rw [inlined, valueOr]
    cases surroundings.scope.valueOf? name <;> rfl
  | _ => rfl

theorem boundNames_inlined (surroundings : Surroundings) (written : WrittenPattern) :
    (written.inlined surroundings.scope).boundNames surroundings.withoutScope =
      written.boundNames surroundings := by
  rw [boundNames, nodes_inlined, List.filterMap_map]
  exact congrArg (List.filterMap · _) (funext (boundName?_inlined surroundings))

theorem WellFormed.inlined {written : WrittenPattern}
    (wellFormed : written.WellFormed surroundings) :
    (written.inlined surroundings.scope).WellFormed surroundings.withoutScope := by
  refine ⟨fun node member => ?_, ?_⟩
  · rw [nodes_inlined] at member
    obtain ⟨original, inside, rfl⟩ := List.mem_map.1 member
    exact sound_inlined (wellFormed.sound original inside)
  · rw [boundNames_inlined]
    exact wellFormed.distinct

end WrittenPattern

/-! ### References as literals -/

namespace Pattern

mutual

/-- The pattern with each reference replaced by a literal of its value. -/
def dereferenced : Pattern → Pattern
  | stableReference _ value => literal value
  | fixedSequence elements => fixedSequence (dereferencedEach elements)
  | sequenceHead head minimum => sequenceHead (dereferenced head) minimum
  | headTail head tail => headTail (dereferenced head) (dereferenced tail)
  | initLast init last => initLast (dereferenced init) (dereferenced last)
  | tuple elements => tuple (dereferencedEach elements)
  | bound name inner => bound name (dereferenced inner)
  | leaf => leaf
termination_by structural pattern => pattern

/-- The patterns with their references replaced, in their order. -/
def dereferencedEach : List Pattern → List Pattern
  | [] => []
  | pattern :: patterns => dereferenced pattern :: dereferencedEach patterns

end

theorem dereferencedEach_eq_map (patterns : List Pattern) :
    dereferencedEach patterns = patterns.map dereferenced := by
  induction patterns with
  | nil => rfl
  | cons pattern patterns inductionHypothesis =>
    rw [dereferencedEach, inductionHypothesis, List.map_cons]

theorem length_dereferencedEach (patterns : List Pattern) :
    (dereferencedEach patterns).length = patterns.length := by
  rw [dereferencedEach_eq_map, List.length_map]

/-- Writing out the references of this pattern does not change what it finds. -/
def MatchesAlike (classes : ClassTable) (pattern : Pattern) : Prop :=
  pattern.dereferenced.extractBefore classes = pattern.extractBefore classes

theorem extractEachBefore_dereferenced {classes : ClassTable} {patterns : List Pattern}
    (each : ∀ pattern ∈ patterns, MatchesAlike classes pattern) :
    extractEachBefore classes (dereferencedEach patterns) =
      extractEachBefore classes patterns := by
  induction patterns with
  | nil => rfl
  | cons pattern patterns inductionHypothesis =>
    obtain ⟨first, rest⟩ := List.forall_mem_cons.1 each
    funext items later
    cases items with
    | nil => rfl
    | cons item items =>
      rw [dereferencedEach, extractEachBefore, extractEachBefore, inductionHypothesis rest, first]

/-- A reference compares with its value as a literal does. -/
theorem matchesAlike (classes : ClassTable) (pattern : Pattern) :
    MatchesAlike classes pattern := by
  induction pattern using Pattern.induction with
  | literal | stableReference | wildcard | binder | typeTest | emptySequence => rfl
  | fixedSequence elements each | tuple elements each =>
    funext subject later
    rw [dereferenced, extractBefore, extractBefore, extractEachBefore_dereferenced each,
      length_dereferencedEach]
  | sequenceHead head minimum inHead =>
    funext subject later
    rw [dereferenced, extractBefore, extractBefore, inHead]
  | headTail head tail inHead inTail =>
    funext subject later
    rw [dereferenced, extractBefore, extractBefore, inHead, inTail]
  | initLast init last inInit inLast =>
    funext subject later
    rw [dereferenced, extractBefore, extractBefore, inInit, inLast]
  | bound name inner within =>
    funext subject later
    rw [dereferenced, extractBefore, extractBefore, within]

theorem attempt_dereferenced (classes : ClassTable) (pattern : Pattern) (clause : Nat)
    (subject : Value) :
    pattern.dereferenced.attempt classes clause subject =
      pattern.attempt classes clause subject := by
  rw [attempt, extract, pattern.matchesAlike classes]
  rfl

end Pattern

/-! ### Resolving what is written out -/

namespace WrittenPattern

variable {surroundings : Surroundings}

/-- Writing out the values of this pattern turns the references of its resolved form into
literals. -/
def InlinesReferences (surroundings : Surroundings) (written : WrittenPattern) : Prop :=
  ∀ pattern, Resolves surroundings written pattern →
    Resolves surroundings.withoutScope (written.inlined surroundings.scope) pattern.dereferenced

theorem forall₂_inlinedEach {elements : List WrittenPattern} {patterns : List Pattern}
    (each : ∀ element ∈ elements, InlinesReferences surroundings element)
    (resolved : List.Forall₂ (Resolves surroundings) elements patterns) :
    List.Forall₂ (Resolves surroundings.withoutScope) (inlinedEach surroundings.scope elements)
      (Pattern.dereferencedEach patterns) := by
  rw [inlinedEach_eq_map, Pattern.dereferencedEach_eq_map, List.forall₂_map_left_iff,
    List.forall₂_map_right_iff]
  exact forall₂_imp_of_mem (fun element member pattern _ => each element member pattern) resolved

theorem inlinesReferences (written : WrittenPattern) :
    InlinesReferences surroundings written := by
  induction written using WrittenPattern.induction with
  | wildcard | binding | literal | typed | emptySequence =>
    intro pattern resolved
    cases resolved
    constructor
  | identifier name =>
    intro pattern resolved
    rw [inlined, valueOr]
    cases resolved with
    | known visible =>
      rw [Scope.valueOf?_eq_some visible]
      exact .literal
    | fresh absent =>
      rw [Scope.valueOf?_eq_none absent]
      exact .fresh (Scope.not_innermost_start name)
  | stable name =>
    intro pattern resolved
    cases resolved with
    | stable visible =>
      rw [inlined, valueOr, Scope.valueOf?_eq_some visible]
      exact .literal
  | sequence elements each =>
    intro pattern resolved
    cases resolved with
    | sequence resolved => exact .sequence (forall₂_inlinedEach each resolved)
  | sequenceHead head minimum inHead =>
    intro pattern resolved
    cases resolved with
    | sequenceHead resolved => exact .sequenceHead (inHead _ resolved)
  | cons head tail inHead inTail =>
    intro pattern resolved
    cases resolved with
    | cons left right => exact .cons (inHead _ left) (inTail _ right)
  | snoc init last inInit inLast =>
    intro pattern resolved
    cases resolved with
    | snoc left right => exact .snoc (inInit _ left) (inLast _ right)
  | tuple elements each =>
    intro pattern resolved
    cases resolved with
    | tuple resolved => exact .tuple (forall₂_inlinedEach each resolved)
  | named name inner within =>
    intro pattern resolved
    cases resolved with
    | named resolved => exact .named (within _ resolved)

/-- If a pattern resolves, it also resolves without the scope once the values of the names that
the scope knows are written out. Both resolved patterns bind the same names and do the same on
every subject: they accept or reject it together, with the same bindings in the same order and the
same notices. -/
theorem inlined_attempts_alike {written : WrittenPattern} {pattern : Pattern}
    (resolved : written.resolve surroundings = .ok pattern) :
    ∃ plain,
      (written.inlined surroundings.scope).resolve surroundings.withoutScope = .ok plain ∧
      plain.binders = pattern.binders ∧
      ∀ classes clause subject,
        plain.attempt classes clause subject = pattern.attempt classes clause subject := by
  obtain ⟨wellFormed, tree⟩ := resolve_eq_ok_iff.1 resolved
  have plainTree := inlinesReferences written pattern tree
  have binders : pattern.dereferenced.binders = pattern.binders := by
    rw [binders_of_resolves plainTree, boundNames_inlined, binders_of_resolves tree]
  exact ⟨pattern.dereferenced, resolve_eq_ok_iff.2 ⟨wellFormed.inlined, plainTree⟩, binders,
    fun classes => pattern.attempt_dereferenced classes⟩

/-- The inner definition of a name is the one that is written out. A binder may have the name of a
definition, and a name without a definition stays a binder. A sequence is accepted with the inner
value at both ends, and rejected with the outer one there. -/
theorem inlined_attempts_alike_shadowed :
    let limit : Name := ⟨1⟩
    let rest : Name := ⟨2⟩
    let scope := (Scope.start.define limit (.int 4) .mutable).push.define limit (.int 5) .immutable
    let surroundings : Surroundings := ⟨.start, scope, .empty⟩
    let written : WrittenPattern :=
      .named limit (.cons (.identifier limit) (.snoc (.identifier rest) (.stable limit)))
    let plain : Pattern := .bound limit (.headTail (.literal (.int 5))
      (.initLast (.binder rest) (.literal (.int 5))))
    let ends (value : Int64) : Value := .seq (.whole 0 [.int value, .int 8, .int value])
    let found : Bindings := ⟨[(limit, ends 5), (rest, .seq ⟨0, #[.int 5, .int 8, .int 5], 1, 2⟩)]⟩
    ∃ pattern, written.resolve surroundings = .ok pattern ∧
      (written.inlined scope).resolve surroundings.withoutScope = .ok plain ∧
      plain.binders = [limit, rest] ∧
      (∀ subject, plain.attempt .empty 0 subject = pattern.attempt .empty 0 subject) ∧
      plain.attempt .empty 0 (ends 5) = ⟨.accepted found, []⟩ ∧
      pattern.attempt .empty 0 (ends 5) = ⟨.accepted found, []⟩ ∧
      plain.attempt .empty 0 (ends 4) = ⟨.rejected, []⟩ ∧
      pattern.attempt .empty 0 (ends 4) = ⟨.rejected, []⟩ := by
  intro limit rest scope surroundings written plain ends found
  have resolved : written.resolve surroundings = .ok _ := rfl
  have resolvedPlain : (written.inlined scope).resolve surroundings.withoutScope = .ok plain := rfl
  obtain ⟨other, resolvedOther, -, alike⟩ := inlined_attempts_alike resolved
  cases resolvedPlain.symm.trans resolvedOther
  have accepted : plain.attempt .empty 0 (ends 5) = ⟨.accepted found, []⟩ := rfl
  have rejected : plain.attempt .empty 0 (ends 4) = ⟨.rejected, []⟩ := rfl
  exact ⟨_, resolved, resolvedPlain, rfl, alike .empty 0, accepted,
    (alike .empty 0 _).symm.trans accepted, rejected, (alike .empty 0 _).symm.trans rejected⟩

end WrittenPattern

end PatternDispatch
