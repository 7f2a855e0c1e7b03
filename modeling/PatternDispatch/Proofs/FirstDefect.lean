/-
This file proves that resolving accepts exactly the well-formed patterns, and which defect it
reports for the others. Resolving goes over the nodes in the order of the traversal, so it
reports what is wrong with the first node that is not sound; names are compared only after
that, and the first that repeats an earlier one is reported.
-/
import PatternDispatch.Proofs.ResolvedTree

namespace PatternDispatch

namespace WrittenPattern

variable {surroundings : Surroundings}

/-! ### The first defect -/

variable (surroundings) in
/-- The outcome reports the first defect of the nodes; if they have none, it is as expected. -/
inductive Settles (nodes : List WrittenPattern) {Outcome : Type} (expected : Outcome → Prop) :
    Except Defect Outcome → Prop
  | refused {defect} (first : nodes.findSome? (defect? surroundings) = some defect) :
    Settles nodes expected (.error defect)
  | accepted {outcome} (sound : nodes.findSome? (defect? surroundings) = none)
    (valid : expected outcome) : Settles nodes expected (.ok outcome)

namespace Settles

variable {First Second : Type} {front back : List WrittenPattern} {valid : First → Prop}
  {expected : Second → Prop}

/-- Sound nodes in front do not matter. -/
theorem behind {outcome : Except Defect Second}
    (sound : front.findSome? (defect? surroundings) = none)
    (settles : Settles surroundings back expected outcome) :
    Settles surroundings (front ++ back) expected outcome := by
  cases settles with
  | refused first =>
    refine .refused ?_
    rw [List.findSome?_append, sound, first, Option.none_or]
  | accepted rest valid =>
    refine .accepted ?_ valid
    rw [List.findSome?_append, sound, rest, Option.none_or]

/-- A node without a check of its own. -/
theorem below {node : WrittenPattern} {outcome : Except Defect Second}
    (unchecked : defect? surroundings node = none)
    (settles : Settles surroundings back expected outcome) :
    Settles surroundings (node :: back) expected outcome :=
  settles.behind (List.findSome?_singleton.trans unchecked)

/-- A check of the nodes in front and then one of those behind check them all. -/
theorem bind {outcome : Except Defect First} {next : First → Except Defect Second}
    (settles : Settles surroundings front valid outcome)
    (rest : ∀ result, valid result → Settles surroundings back expected (next result)) :
    Settles surroundings (front ++ back) expected (outcome >>= next) := by
  cases settles with
  | refused first =>
    refine .refused ?_
    rw [List.findSome?_append, first, Option.some_or]
  | accepted sound holds => exact (rest _ holds).behind sound

theorem map {outcome : Except Defect First} {build : First → Second}
    (settles : Settles surroundings front valid outcome)
    (builds : ∀ result, valid result → expected (build result)) :
    Settles surroundings front expected (do return build (← outcome)) := by
  cases settles with
  | refused first => exact .refused first
  | accepted sound holds => exact .accepted sound (builds _ holds)

/-- A node that is checked on its own. -/
theorem single {node : WrittenPattern} {outcome : Except Defect Second}
    (checked : defect? surroundings node = refusal outcome)
    (builds : ∀ result, outcome = .ok result → expected result) :
    Settles surroundings [node] expected outcome := by
  cases outcome with
  | error defect => exact .refused (by rw [List.findSome?_singleton, checked, refusal])
  | ok result =>
    exact .accepted (by rw [List.findSome?_singleton, checked, refusal]) (builds result rfl)

end Settles

theorem resolves_of_reference {name : Name} {pattern : Pattern}
    (referred : surroundings.reference name = .ok pattern) :
    ∃ value, surroundings.scope.Innermost name ⟨value, .immutable⟩ ∧
      pattern = .stableReference name value := by
  unfold Surroundings.reference at referred
  split at referred
  · next value found =>
    cases referred
    exact ⟨value, Scope.find?_eq_some_iff.1 found, rfl⟩
  · cases referred
  · cases referred

theorem resolves_of_identify {name : Name} {pattern : Pattern}
    (identified : surroundings.identify name = .ok pattern) :
    Resolves surroundings (.identifier name) pattern := by
  unfold Surroundings.identify at identified
  split at identified
  · next absent =>
    cases identified
    exact .fresh fun definition visible =>
      nomatch absent.symm.trans (Scope.find?_eq_some_iff.2 visible)
  · obtain ⟨value, visible, rfl⟩ := resolves_of_reference identified
    exact .known visible

theorem settles_resolveEach {elements : List WrittenPattern}
    (each : ∀ element ∈ elements, Settles surroundings element.nodes
      (Resolves surroundings element) (element.resolveNodes surroundings)) :
    Settles surroundings (elements.flatMap nodes)
      (List.Forall₂ (Resolves surroundings) elements) (resolveEach surroundings elements) := by
  induction elements with
  | nil => exact .accepted rfl .nil
  | cons element elements inductionHypothesis =>
    obtain ⟨first, rest⟩ := List.forall_mem_cons.1 each
    rw [List.flatMap_cons, resolveEach]
    exact first.bind fun pattern resolved =>
      (inductionHypothesis rest).map fun patterns others => .cons resolved others

/-- Resolving the nodes reports the first defect in the order of the traversal, or it yields the
resolved tree. -/
theorem settles_resolveNodes (surroundings : Surroundings) (written : WrittenPattern) :
    Settles surroundings written.nodes (Resolves surroundings written)
      (written.resolveNodes surroundings) := by
  induction written using WrittenPattern.induction with
  | wildcard => exact .accepted rfl .wildcard
  | identifier name => exact .single rfl fun pattern => resolves_of_identify
  | binding name => exact .accepted rfl .binding
  | stable name =>
    refine .single rfl fun pattern referred => ?_
    obtain ⟨value, visible, rfl⟩ := resolves_of_reference referred
    exact .stable visible
  | literal value => exact .accepted rfl .literal
  | typed tag =>
    refine .single rfl fun pattern tested => ?_
    rw [resolveNodes, Surroundings.typeTest] at tested
    split at tested
    · cases tested
      exact .typed
    · cases tested
  | sequence elements each =>
    rw [nodes, nodesEach_eq_flatMap, resolveNodes]
    exact .below rfl ((settles_resolveEach each).map fun patterns resolved => .sequence resolved)
  | sequenceHead head minimum inHead =>
    have checked : Settles surroundings [.sequenceHead head minimum] (fun _ => True)
      (checkHead minimum) := .single rfl fun _ _ => trivial
    exact checked.bind fun _ _ => inHead.map fun pattern resolved => .sequenceHead resolved
  | cons head tail inHead inTail =>
    exact .below rfl (inHead.bind fun first inFirst =>
      inTail.map fun rest inRest => .cons inFirst inRest)
  | snoc init last inInit inLast =>
    exact .below rfl (inInit.bind fun front inFront =>
      inLast.map fun final inFinal => .snoc inFront inFinal)
  | emptySequence => exact .accepted rfl .emptySequence
  | tuple elements each =>
    have checked : Settles surroundings [.tuple elements] (fun _ => True)
      (checkTuple elements.length) := .single rfl fun _ _ => trivial
    rw [nodes, nodesEach_eq_flatMap, resolveNodes]
    exact checked.bind fun _ _ =>
      (settles_resolveEach each).map fun patterns resolved => .tuple resolved
  | named name inner within =>
    exact .below rfl (within.map fun pattern resolved => .named resolved)

/-! ### Names bound twice -/

/-- The first name that equals an earlier one stands behind names that do not. -/
theorem firstRepeated_eq_some_iff {earlier names : List Name} {name : Name} :
    firstRepeated earlier names = some name ↔
      ∃ before later, names = before ++ name :: later ∧ before.Nodup ∧
        (∀ other ∈ before, other ∉ earlier) ∧ (name ∈ earlier ∨ name ∈ before) := by
  induction names generalizing earlier with
  | nil => simp [firstRepeated]
  | cons head later inductionHypothesis =>
    rw [firstRepeated]
    by_cases repeated : head ∈ earlier
    · rw [if_pos repeated, Option.some.injEq]
      constructor
      · rintro rfl
        exact ⟨[], later, rfl, .nil, List.forall_mem_nil _, .inl repeated⟩
      · rintro ⟨before, rest, split, -, fresh, -⟩
        cases before with
        | nil => exact (List.cons.inj split).1
        | cons first before =>
          obtain ⟨rfl, -⟩ := List.cons.inj split
          exact absurd repeated (fresh head List.mem_cons_self)
    · rw [if_neg repeated, inductionHypothesis]
      constructor
      · rintro ⟨before, rest, rfl, distinct, fresh, again⟩
        simp only [List.mem_cons, not_or] at fresh again
        refine ⟨head :: before, rest, rfl, List.nodup_cons.2 ⟨fun member => ?_, distinct⟩,
          List.forall_mem_cons.2 ⟨repeated, fun other member => (fresh other member).2⟩, ?_⟩
        · exact (fresh head member).1 rfl
        · rw [List.mem_cons, ← or_assoc, or_comm (a := name ∈ earlier)]
          exact again
      · rintro ⟨before, rest, split, distinct, fresh, again⟩
        cases before with
        | nil =>
          obtain ⟨rfl, -⟩ := List.cons.inj split
          exact absurd again (by simp [repeated])
        | cons first before =>
          obtain ⟨rfl, rfl⟩ := List.cons.inj split
          obtain ⟨new, distinct⟩ := List.nodup_cons.1 distinct
          obtain ⟨-, fresh⟩ := List.forall_mem_cons.1 fresh
          refine ⟨before, rest, rfl, distinct, fun other member => ?_, ?_⟩
          · rw [List.mem_cons, not_or]
            exact ⟨fun same => new (same ▸ member), fresh other member⟩
          · rw [List.mem_cons, or_comm (a := name = head), or_assoc, ← List.mem_cons]
            exact again

/-! ### Resolving -/

variable (surroundings) in
/-- A node is unsound, those in front of it are sound, and the defect is its own. -/
def FirstDefect (written : WrittenPattern) (defect : Defect) : Prop :=
  ∃ before node after, written.nodes = before ++ node :: after ∧
    (∀ other ∈ before, Sound surroundings other) ∧ Offends surroundings node defect

theorem findSome?_eq_some_iff {written : WrittenPattern} {defect : Defect} :
    written.nodes.findSome? (defect? surroundings) = some defect ↔
      written.FirstDefect surroundings defect := by
  rw [List.findSome?_eq_some_iff]
  constructor
  · rintro ⟨before, node, after, split, found, sound⟩
    exact ⟨before, node, after, split, fun other member =>
      defect?_eq_none_iff.1 (sound other member), defect?_eq_some_iff.1 found⟩
  · rintro ⟨before, node, after, split, sound, offends⟩
    exact ⟨before, node, after, split, defect?_eq_some_iff.2 offends, fun other member =>
      defect?_eq_none_iff.2 (sound other member)⟩

theorem findSome?_eq_none_iff {written : WrittenPattern} :
    written.nodes.findSome? (defect? surroundings) = none ↔
      ∀ node ∈ written.nodes, Sound surroundings node := by
  simp only [List.findSome?_eq_none_iff, defect?_eq_none_iff]

variable (surroundings) in
/-- The first of the bound names that equals an earlier one. -/
def FirstDuplicate (written : WrittenPattern) (name : Name) : Prop :=
  ∃ earlier later, written.boundNames surroundings = earlier ++ name :: later ∧
    earlier.Nodup ∧ name ∈ earlier

theorem firstRepeated_boundNames_iff {written : WrittenPattern} {name : Name} :
    firstRepeated [] (written.boundNames surroundings) = some name ↔
      written.FirstDuplicate surroundings name := by
  simp only [firstRepeated_eq_some_iff, FirstDuplicate, List.not_mem_nil, not_false_eq_true,
    implies_true, true_and, false_or]

theorem resolve_of_unsound {written : WrittenPattern} {defect : Defect}
    (first : written.FirstDefect surroundings defect) :
    written.resolve surroundings = .error defect := by
  have settles := written.settles_resolveNodes surroundings
  rw [← findSome?_eq_some_iff] at first
  unfold resolve
  generalize written.resolveNodes surroundings = outcome at settles ⊢
  cases settles with
  | refused found =>
    cases first.symm.trans found
    rfl
  | accepted sound => cases first.symm.trans sound

/-- Resolving sound nodes yields their resolved tree, unless a name is bound again. -/
theorem resolve_of_sound {written : WrittenPattern}
    (sound : ∀ node ∈ written.nodes, Sound surroundings node) :
    ∃ pattern, Resolves surroundings written pattern ∧
      written.resolve surroundings =
        match firstRepeated [] (written.boundNames surroundings) with
        | none => .ok pattern
        | some name => .error (.duplicateBinder (surroundings.names.textOf name)) := by
  have settles := written.settles_resolveNodes surroundings
  rw [← findSome?_eq_none_iff] at sound
  unfold resolve
  generalize written.resolveNodes surroundings = outcome at settles ⊢
  cases settles with
  | refused found => cases sound.symm.trans found
  | @accepted pattern _ resolved =>
    rw [← binders_of_resolves resolved]
    exact ⟨pattern, resolved, rfl⟩

theorem sound_or_firstDefect (surroundings : Surroundings) (written : WrittenPattern) :
    (∀ node ∈ written.nodes, Sound surroundings node) ∨
      ∃ defect, written.FirstDefect surroundings defect := by
  simp only [← findSome?_eq_none_iff, ← findSome?_eq_some_iff]
  cases written.nodes.findSome? (defect? surroundings) with
  | none => exact .inl rfl
  | some defect => exact .inr ⟨defect, rfl⟩

theorem resolves_of_resolve {written : WrittenPattern} {pattern : Pattern}
    (resolved : written.resolve surroundings = .ok pattern) :
    written.WellFormed surroundings ∧ Resolves surroundings written pattern := by
  obtain sound | ⟨defect, unsound⟩ := written.sound_or_firstDefect surroundings
  · obtain ⟨tree, sameTree, outcome⟩ := resolve_of_sound sound
    rw [outcome] at resolved
    cases repeated : firstRepeated [] (written.boundNames surroundings) with
    | some name => rw [repeated] at resolved; cases resolved
    | none =>
      rw [repeated] at resolved
      cases resolved
      exact ⟨⟨sound, ((firstRepeated_eq_none_iff [] _).1 repeated).1⟩, sameTree⟩
  · rw [resolve_of_unsound unsound] at resolved
    cases resolved

theorem exists_resolve {written : WrittenPattern} (wellFormed : written.WellFormed surroundings) :
    ∃ pattern, written.resolve surroundings = .ok pattern := by
  obtain ⟨tree, -, outcome⟩ := resolve_of_sound wellFormed.sound
  have unrepeated : firstRepeated [] (written.boundNames surroundings) = none :=
    (firstRepeated_eq_none_iff [] _).2 ⟨wellFormed.distinct, fun name _ => List.not_mem_nil⟩
  rw [unrepeated] at outcome
  exact ⟨tree, outcome⟩

/-- Resolving yields the tree of a well-formed pattern and nothing else. -/
theorem resolve_eq_ok_iff {written : WrittenPattern} {pattern : Pattern} :
    written.resolve surroundings = .ok pattern ↔
      written.WellFormed surroundings ∧ Resolves surroundings written pattern := by
  refine ⟨resolves_of_resolve, ?_⟩
  rintro ⟨wellFormed, tree⟩
  obtain ⟨found, resolved⟩ := exists_resolve wellFormed
  rw [resolved, determines _ _ _ (resolves_of_resolve resolved).2 tree]

theorem resolve_eq_error_iff {written : WrittenPattern} {defect : Defect} :
    written.resolve surroundings = .error defect ↔
      written.FirstDefect surroundings defect ∨
        (∀ node ∈ written.nodes, Sound surroundings node) ∧
          ∃ name, written.FirstDuplicate surroundings name ∧
            defect = .duplicateBinder (surroundings.names.textOf name) := by
  constructor
  · intro refused
    obtain sound | ⟨other, unsound⟩ := written.sound_or_firstDefect surroundings
    · obtain ⟨tree, -, outcome⟩ := resolve_of_sound sound
      rw [outcome] at refused
      cases repeated : firstRepeated [] (written.boundNames surroundings) with
      | none => rw [repeated] at refused; cases refused
      | some name =>
        rw [repeated] at refused
        cases refused
        exact .inr ⟨sound, name, firstRepeated_boundNames_iff.1 repeated, rfl⟩
    · rw [resolve_of_unsound unsound] at refused
      cases refused
      exact .inl unsound
  · rintro (unsound | ⟨sound, name, repeated, rfl⟩)
    · exact resolve_of_unsound unsound
    · obtain ⟨tree, -, outcome⟩ := resolve_of_sound sound
      rw [firstRepeated_boundNames_iff.2 repeated] at outcome
      exact outcome

/-- Resolving succeeds exactly on well-formed patterns and keeps their tree. Otherwise it reports
the defect of the first node that is not sound, or, if every node is sound, the first bound name
that equals an earlier one. -/
theorem resolve_reports_first_defect (surroundings : Surroundings) (written : WrittenPattern) :
    ((∃ pattern, written.resolve surroundings = .ok pattern) ↔
        written.WellFormed surroundings) ∧
      (∀ pattern, written.resolve surroundings = .ok pattern →
        Resolves surroundings written pattern) ∧
      ∀ defect, written.resolve surroundings = .error defect ↔
        written.FirstDefect surroundings defect ∨
          (∀ node ∈ written.nodes, Sound surroundings node) ∧
            ∃ name, written.FirstDuplicate surroundings name ∧
              defect = .duplicateBinder (surroundings.names.textOf name) := by
  refine ⟨⟨?_, exists_resolve⟩, fun pattern resolved => ?_, fun defect => resolve_eq_error_iff⟩
  · rintro ⟨pattern, resolved⟩
    exact (resolves_of_resolve resolved).1
  · exact (resolves_of_resolve resolved).2

/-- An inner definition hides a mutable one, the arity of a tuple is reported before the head in
it, and the third of three names repeats the first. -/
theorem resolve_reports_first_defect_shadowed :
    let limit : Name := ⟨1⟩
    let rest : Name := ⟨2⟩
    let scope := (Scope.start.define limit (.int 4) .mutable).push.define limit (.int 5) .immutable
    let surroundings : Surroundings := ⟨.start, scope, .empty⟩
    let plain : WrittenPattern := .cons (.identifier limit) (.identifier rest)
    let resolved : Pattern := .headTail (.stableReference limit (.int 5)) (.binder rest)
    let narrow : WrittenPattern := .cons (.binding rest) (.tuple [.sequenceHead (.stable rest) 0])
    let again : WrittenPattern := .tuple [.identifier rest, .binding limit, .named rest .wildcard]
    plain.resolve surroundings = .ok resolved ∧ Resolves surroundings plain resolved ∧
      narrow.FirstDefect surroundings
        (.inconsistentArity "tuple" 1 "tuples have between 2 and 22 elements") ∧
      ∃ name, again.FirstDuplicate surroundings name := by
  intro limit rest scope surroundings plain resolved narrow again
  have accepted : plain.resolve surroundings = .ok resolved := rfl
  have refused : narrow.resolve surroundings =
    .error (.inconsistentArity "tuple" 1 "tuples have between 2 and 22 elements") := rfl
  have duplicated : again.resolve surroundings =
    .error (.duplicateBinder (surroundings.names.textOf rest)) := rfl
  refine ⟨accepted, (resolve_reports_first_defect surroundings plain).2.1 resolved accepted, ?_, ?_⟩
  · obtain first | ⟨-, name, -, other⟩ :=
      ((resolve_reports_first_defect surroundings narrow).2.2 _).1 refused
    · exact first
    · cases other
  · obtain ⟨before, node, after, -, -, offends⟩ | ⟨-, name, first, -⟩ :=
      ((resolve_reports_first_defect surroundings again).2.2 _).1 duplicated
    · cases offends
    · exact ⟨name, first⟩

end WrittenPattern

end PatternDispatch
