/-
This file proves that a resolved pattern can be written down so that it resolves to itself. The
explicit spelling says of every name what it is, a binder or a reference, so nothing is left for
the scope to decide. A reference is spelled by its name alone: the value comes back because the
name still means in the same scope what it meant when the pattern was resolved. What was checked of
the written pattern holds of the spelling too, node by node.
-/
import PatternDispatch.Proofs.FirstDefect

namespace PatternDispatch

/-! ### The explicit spelling -/

namespace Pattern

mutual

/-- The pattern in written form, each binder and each reference by the form that is always one. -/
def spelled : Pattern → WrittenPattern
  | literal value => .literal value
  | stableReference name _ => .stable name
  | wildcard => .wildcard
  | binder name => .binding name
  | typeTest tag => .typed tag
  | fixedSequence elements => .sequence (spelledEach elements)
  | sequenceHead head minimum => .sequenceHead (spelled head) minimum
  | headTail head tail => .cons (spelled head) (spelled tail)
  | initLast init last => .snoc (spelled init) (spelled last)
  | emptySequence => .emptySequence
  | tuple elements => .tuple (spelledEach elements)
  | bound name inner => .named name (spelled inner)
termination_by structural pattern => pattern

/-- The spellings of the patterns, in their order. -/
def spelledEach : List Pattern → List WrittenPattern
  | [] => []
  | pattern :: patterns => spelled pattern :: spelledEach patterns

end

theorem spelledEach_eq_map (patterns : List Pattern) :
    spelledEach patterns = patterns.map spelled := by
  induction patterns with
  | nil => rfl
  | cons pattern patterns inductionHypothesis =>
    rw [spelledEach, inductionHypothesis, List.map_cons]

theorem nodesEach_spelledEach {elements : List Pattern}
    (each : ∀ element ∈ elements, element.spelled.nodes = element.nodes.map spelled) :
    WrittenPattern.nodesEach (spelledEach elements) = (elements.flatMap nodes).map spelled := by
  rw [WrittenPattern.nodesEach_eq_flatMap, spelledEach_eq_map, List.flatMap_map, List.map_flatMap]
  exact List.flatMap_congr each

/-- The nodes of the spelling are the nodes of the pattern, each spelled, in the same order. -/
theorem nodes_spelled (pattern : Pattern) : pattern.spelled.nodes = pattern.nodes.map spelled := by
  induction pattern using Pattern.induction with
  | literal | stableReference | wildcard | binder | typeTest | emptySequence => rfl
  | fixedSequence elements each =>
    rw [spelled, WrittenPattern.nodes, nodesEach_spelledEach each, nodes_fixedSequence,
      List.map_cons, spelled]
  | tuple elements each =>
    rw [spelled, WrittenPattern.nodes, nodesEach_spelledEach each, nodes_tuple, List.map_cons,
      spelled]
  | sequenceHead head minimum inHead =>
    rw [spelled, WrittenPattern.nodes, inHead, nodes_sequenceHead, List.map_cons, spelled]
  | headTail head tail inHead inTail =>
    rw [spelled, WrittenPattern.nodes, inHead, inTail, nodes_headTail, List.map_cons,
      List.map_append, spelled]
  | initLast init last inInit inLast =>
    rw [spelled, WrittenPattern.nodes, inInit, inLast, nodes_initLast, List.map_cons,
      List.map_append, spelled]
  | bound name inner within =>
    rw [spelled, WrittenPattern.nodes, within, nodes_bound, List.map_cons, spelled]

/-- The spelling has no bare identifiers. -/
theorem identifier_notMem_spelled (pattern : Pattern) (name : Name) :
    .identifier name ∉ pattern.spelled.nodes := by
  rw [nodes_spelled, List.mem_map]
  rintro ⟨node, -, bare⟩
  cases node <;> cases bare

end Pattern

/-! ### Resolving the spelling -/

namespace WrittenPattern

variable {surroundings : Surroundings} {written : WrittenPattern} {pattern : Pattern}

/-- What this pattern resolves to is also what the spelling of the result resolves to. -/
def SpellsBack (surroundings : Surroundings) (written : WrittenPattern) : Prop :=
  ∀ pattern, Resolves surroundings written pattern →
    Resolves surroundings pattern.spelled pattern

theorem forall₂_spelledEach {elements : List WrittenPattern} {patterns : List Pattern}
    (each : ∀ element ∈ elements, SpellsBack surroundings element)
    (resolved : List.Forall₂ (Resolves surroundings) elements patterns) :
    List.Forall₂ (Resolves surroundings) (Pattern.spelledEach patterns) patterns := by
  induction resolved with
  | nil => exact .nil
  | cons first _ inductionHypothesis =>
    obtain ⟨spellsBack, others⟩ := List.forall_mem_cons.1 each
    exact .cons (spellsBack _ first) (inductionHypothesis others)

theorem spellsBack (written : WrittenPattern) : SpellsBack surroundings written := by
  induction written using WrittenPattern.induction with
  | wildcard | binding | literal | typed | emptySequence =>
    intro pattern resolved
    cases resolved
    constructor
  | identifier name =>
    intro pattern resolved
    cases resolved with
    | known visible => exact .stable visible
    | fresh absent => exact .binding
  | stable name =>
    intro pattern resolved
    cases resolved with
    | stable visible => exact .stable visible
  | sequence elements each =>
    intro pattern resolved
    cases resolved with
    | sequence resolved => exact .sequence (forall₂_spelledEach each resolved)
  | sequenceHead head minimum inHead =>
    intro pattern resolved
    cases resolved with
    | sequenceHead resolved => exact .sequenceHead (inHead _ resolved)
  | cons head tail inHead inTail =>
    intro pattern resolved
    cases resolved with
    | cons left right => exact .cons (inHead _ left) (inTail _ right)
  | snoc init last inInit inLast =>
    intro pattern resolved
    cases resolved with
    | snoc left right => exact .snoc (inInit _ left) (inLast _ right)
  | tuple elements each =>
    intro pattern resolved
    cases resolved with
    | tuple resolved => exact .tuple (forall₂_spelledEach each resolved)
  | named name inner within =>
    intro pattern resolved
    cases resolved with
    | named resolved => exact .named (within _ resolved)

/-- A sound node is sound in its explicit spelling. -/
theorem sound_spelled (node : WrittenPattern) (part : Pattern)
    (resolved : Resolves surroundings node part) (sound : Sound surroundings node) :
    Sound surroundings part.spelled := by
  cases resolved with
  | known visible | stable visible => exact ⟨_, visible, rfl⟩
  | tuple each =>
    rw [Pattern.spelled, Sound, Pattern.spelledEach_eq_map, List.length_map, ← each.length_eq]
    exact sound
  | typed | sequenceHead => exact sound
  | _ => trivial

theorem WellFormed.spelled (wellFormed : written.WellFormed surroundings)
    (resolved : Resolves surroundings written pattern) :
    pattern.spelled.WellFormed surroundings := by
  have sound := forall_mem_of_forall₂ sound_spelled (written.keepsNodes pattern resolved)
    wellFormed.sound
  have binders : pattern.spelled.boundNames surroundings = written.boundNames surroundings :=
    calc pattern.spelled.boundNames surroundings
      _ = pattern.binders := (binders_of_resolves (spellsBack written pattern resolved)).symm
      _ = written.boundNames surroundings := binders_of_resolves resolved
  refine ⟨?_, binders ▸ wellFormed.distinct⟩
  rw [Pattern.nodes_spelled, List.forall_mem_map]
  exact sound

/-- If a pattern resolves, the explicit spelling of the result is free of bare identifiers and
resolves to the same result in the same scope. Bare identifiers therefore say nothing that cannot
be said without them. -/
theorem spelled_resolves_to_itself (resolved : written.resolve surroundings = .ok pattern) :
    (∀ name, .identifier name ∉ pattern.spelled.nodes) ∧
      pattern.spelled.resolve surroundings = .ok pattern := by
  obtain ⟨wellFormed, tree⟩ := resolve_eq_ok_iff.1 resolved
  refine ⟨pattern.identifier_notMem_spelled, resolve_eq_ok_iff.2 ⟨?_, ?_⟩⟩
  · exact wellFormed.spelled tree
  · exact spellsBack written pattern tree

/-- A binder may have the name of a definition, even of a mutable one, and a reference comes back
with the value of the inner definition. -/
theorem spelled_resolves_to_itself_shadowed :
    let limit : Name := ⟨1⟩
    let bonus : Name := ⟨2⟩
    let rest : Name := ⟨3⟩
    let outer := (Scope.start.define limit (.int 4) .mutable).define bonus (.int 7) .mutable
    let surroundings : Surroundings :=
      ⟨.start, outer.push.define limit (.int 5) .immutable, .empty⟩
    let written : WrittenPattern := .named limit
      (.cons (.identifier limit) (.tuple [.identifier rest, .binding bonus, .stable limit]))
    let pattern : Pattern := .bound limit (.headTail (.stableReference limit (.int 5))
      (.tuple [.binder rest, .binder bonus, .stableReference limit (.int 5)]))
    let spelling : WrittenPattern := .named limit
      (.cons (.stable limit) (.tuple [.binding rest, .binding bonus, .stable limit]))
    written.resolve surroundings = .ok pattern ∧ pattern.spelled = spelling ∧
      .identifier rest ∉ spelling.nodes ∧ spelling.resolve surroundings = .ok pattern := by
  intro limit bonus rest outer surroundings written pattern spelling
  have resolved : written.resolve surroundings = .ok pattern := rfl
  obtain ⟨explicit, back⟩ := spelled_resolves_to_itself resolved
  exact ⟨resolved, rfl, explicit rest, back⟩

end WrittenPattern

end PatternDispatch
