/-
This file proves that building a dispatcher looks at the scope only through the names that matter:
those that occur as a bare identifier or as a reference, and those that guards read. Of the first it
sees the definition, of the others the value alone. Two scopes that agree on these names lead to the
same dispatcher or to the same refusal, however many frames they have and whatever else they define.
A name that is always a binder is never looked up.
-/
import PatternDispatch.Proofs.Scoping
import PatternDispatch.Proofs.WellFormed
import PatternDispatch.Proofs.Induction
import PatternDispatch.Dispatcher

namespace PatternDispatch

/-! ### Names that are looked up -/

/-- The name occurs in the pattern as a bare identifier or as a reference. -/
def WrittenPattern.LooksUp (written : WrittenPattern) (name : Name) : Prop :=
  identifier name ∈ written.nodes ∨ stable name ∈ written.nodes

/-- Both scopes give the same definition to every name that the pattern looks up, or both give
none. -/
def Scope.AgreeOn (first second : Scope) (written : WrittenPattern) : Prop :=
  ∀ name, written.LooksUp name → first.find? name = second.find? name

theorem Scope.AgreeOn.part {first second : Scope} {written part : WrittenPattern}
    (agree : first.AgreeOn second written) (inside : part.nodes ⊆ written.nodes) :
    first.AgreeOn second part :=
  fun name looksUp => agree name (looksUp.imp (inside ·) (inside ·))

/-! ### Patterns -/

section Patterns

variable {names : NameTable} {classes : ClassTable} {first second : Scope}

theorem reference_congr {name : Name} (same : first.find? name = second.find? name) :
    Surroundings.reference ⟨names, first, classes⟩ name =
      Surroundings.reference ⟨names, second, classes⟩ name := by
  simp only [Surroundings.reference, same]

theorem identify_congr {name : Name} (same : first.find? name = second.find? name) :
    Surroundings.identify ⟨names, first, classes⟩ name =
      Surroundings.identify ⟨names, second, classes⟩ name := by
  simp only [Surroundings.identify, reference_congr same, same]

namespace WrittenPattern

/-- The pattern resolves in the same way, or has the same defect, in every scope that agrees on
what it looks up. -/
def ResolvesAlike (names : NameTable) (classes : ClassTable) (first second : Scope)
    (written : WrittenPattern) : Prop :=
  first.AgreeOn second written →
    written.resolveNodes ⟨names, first, classes⟩ = written.resolveNodes ⟨names, second, classes⟩

theorem resolveEach_congr {elements : List WrittenPattern}
    (each : ∀ element ∈ elements, ResolvesAlike names classes first second element)
    (agree : ∀ element ∈ elements, first.AgreeOn second element) :
    resolveEach ⟨names, first, classes⟩ elements =
      resolveEach ⟨names, second, classes⟩ elements := by
  induction elements with
  | nil => rfl
  | cons element elements inductionHypothesis =>
    obtain ⟨alike, others⟩ := List.forall_mem_cons.1 each
    obtain ⟨agreeHere, agreeBehind⟩ := List.forall_mem_cons.1 agree
    rw [resolveEach, resolveEach, alike agreeHere, inductionHypothesis others agreeBehind]

theorem subset_nodesEach {elements : List WrittenPattern} {element : WrittenPattern}
    (member : element ∈ elements) : element.nodes ⊆ nodesEach elements := by
  rw [nodesEach_eq_flatMap]
  exact fun node inside => List.mem_flatMap.2 ⟨element, member, inside⟩

theorem resolvesAlike (written : WrittenPattern) :
    ResolvesAlike names classes first second written := by
  induction written using WrittenPattern.induction with
  | wildcard | binding | literal | typed | emptySequence => exact fun _ => rfl
  | identifier name =>
    exact fun agree => identify_congr (agree name (.inl (List.mem_singleton_self _)))
  | stable name =>
    exact fun agree => reference_congr (agree name (.inr (List.mem_singleton_self _)))
  | sequence elements each | tuple elements each =>
    intro agree
    have inside (element) (member : element ∈ elements) : first.AgreeOn second element :=
      agree.part (List.subset_cons_of_subset _ (subset_nodesEach member))
    rw [resolveNodes, resolveNodes, resolveEach_congr each inside]
  | sequenceHead head minimum inHead =>
    intro agree
    rw [resolveNodes, resolveNodes, inHead (agree.part (List.subset_cons_self _ _))]
  | cons left right inLeft inRight | snoc left right inLeft inRight =>
    intro agree
    have onLeft : first.AgreeOn second left :=
      agree.part (List.subset_cons_of_subset _ (List.subset_append_left _ _))
    have onRight : first.AgreeOn second right :=
      agree.part (List.subset_cons_of_subset _ (List.subset_append_right _ _))
    rw [resolveNodes, resolveNodes, inLeft onLeft, inRight onRight]
  | named name inner within =>
    intro agree
    rw [resolveNodes, resolveNodes, within (agree.part (List.subset_cons_self _ _))]

theorem resolve_congr {written : WrittenPattern} (agree : first.AgreeOn second written) :
    written.resolve ⟨names, first, classes⟩ = written.resolve ⟨names, second, classes⟩ := by
  rw [resolve, resolve, written.resolvesAlike agree]

end WrittenPattern

end Patterns

/-! ### Clauses -/

variable {Result : Type}

/-- Both scopes agree on what the pattern of the clause looks up, and give every name that its guard
reads the same value, or both give none. -/
structure Scope.AgreeFor (first second : Scope) (clause : Clause Result) : Prop where
  pattern : first.AgreeOn second clause.pattern
  reads : ∀ name ∈ clause.reads, first.valueOf? name = second.valueOf? name

/-- Defining a name that the clause neither looks up nor reads is not seen, not even if its pattern
binds that name. -/
theorem Scope.agreeFor_define {clause : Clause Result} {name : Name}
    (unseen : ¬clause.pattern.LooksUp name) (unread : name ∉ clause.reads) (scope : Scope)
    (value : Value) (mutability : Mutability) :
    (scope.define name value mutability).AgreeFor scope clause := by
  have elsewhere {other : Name} (different : name ≠ other) :
      (scope.define name value mutability).find? other = scope.find? other := by
    rw [find?_define, if_neg different]
  refine ⟨fun other looksUp => elsewhere ?_, fun other read => ?_⟩
  · rintro rfl
    exact unseen looksUp
  · rw [valueOf?, valueOf?, elsewhere (ne_of_mem_of_not_mem read unread).symm]

section Clauses

variable {names : NameTable} {classes : ClassTable} {first second : Scope}

theorem captureReads_congr {binders reads : List Name}
    (same : ∀ name ∈ reads, first.valueOf? name = second.valueOf? name) :
    captureReads ⟨names, first, classes⟩ binders reads =
      captureReads ⟨names, second, classes⟩ binders reads := by
  induction reads with
  | nil => rfl
  | cons name later inductionHypothesis =>
    obtain ⟨here, behind⟩ := List.forall_mem_cons.1 same
    simp only [captureReads, here, inductionHypothesis behind]

theorem Clause.compile_congr {clause : Clause Result} (agree : first.AgreeFor second clause) :
    clause.compile ⟨names, first, classes⟩ = clause.compile ⟨names, second, classes⟩ := by
  unfold compile
  rw [WrittenPattern.resolve_congr agree.pattern]
  exact congrArg _ (funext fun pattern => by rw [captureReads_congr agree.reads])

theorem compileFrom_congr {clauses : List (Clause Result)}
    (agree : ∀ clause ∈ clauses, first.AgreeFor second clause) (index : Nat) :
    compileFrom ⟨names, first, classes⟩ index clauses =
      compileFrom ⟨names, second, classes⟩ index clauses := by
  induction clauses generalizing index with
  | nil => rfl
  | cons clause later inductionHypothesis =>
    obtain ⟨here, behind⟩ := List.forall_mem_cons.1 agree
    rw [compileFrom, compileFrom, Clause.compile_congr here, inductionHypothesis behind]

end Clauses

namespace Dispatcher

/-- Two scopes that agree for every clause lead to the same build: to equal dispatchers, with the
same patterns, captured values and warnings, or to the same refusal, after the same reports. So it
does not matter whether the scope defines a name that no clause looks up and no guard reads, such as
the name of a binder. -/
theorem build_sees_relevant_names (names : NameTable) (classes : ClassTable) (observer : Observer)
    (clauses : List (Clause Result)) :
    (∀ first second : Scope, (∀ clause ∈ clauses, first.AgreeFor second clause) →
      build ⟨names, first, classes⟩ observer clauses =
        build ⟨names, second, classes⟩ observer clauses) ∧
      ∀ (scope : Scope) (name : Name) (value : Value) (mutability : Mutability),
        (∀ clause ∈ clauses, ¬clause.pattern.LooksUp name ∧ name ∉ clause.reads) →
        build ⟨names, scope.define name value mutability, classes⟩ observer clauses =
          build ⟨names, scope, classes⟩ observer clauses := by
  have congr {first second : Scope} (agree : ∀ clause ∈ clauses, first.AgreeFor second clause) :
      build ⟨names, first, classes⟩ observer clauses =
        build ⟨names, second, classes⟩ observer clauses := by
    rw [build, build, compileFrom_congr agree]
  refine ⟨fun first second => congr, fun scope name value mutability unseen => ?_⟩
  exact congr fun clause member =>
    Scope.agreeFor_define (unseen clause member).1 (unseen clause member).2 scope value mutability

/-- A flat scope and one with three frames. They differ in depth, in whether `bonus` may be
assigned, and in `rest`, which the pattern binds and only the second scope defines. -/
theorem build_sees_relevant_names_nested :
    let limit : Name := ⟨1⟩
    let bonus : Name := ⟨2⟩
    let rest : Name := ⟨3⟩
    let flat := (Scope.start.define limit (.int 5) .immutable).define bonus (.int 7) .mutable
    let outer := (Scope.start.define limit (.int 4) .mutable).define rest (.int 1) .mutable
    let nested := (outer.push.define bonus (.int 7) .immutable).push.define limit (.int 5) .immutable
    let clause : Clause Nat :=
      (Clause.returning (.cons (.identifier limit) (.binding rest)) 8).guarded
        ⟨[bonus], fun _ => .ok true⟩
    let built (scope : Scope) : Build (Dispatcher Nat) :=
      build ⟨.start, scope, .empty⟩ .silent [clause]
    (∃ dispatcher, (built flat).outcome = .ok dispatcher ∧
        dispatcher.clauses.map (·.captured) = [[(bonus, .int 7)]]) ∧
      (flat.find? rest).isSome = false ∧ (nested.find? rest).isSome = true ∧
      (flat.AgreeFor nested clause ∧ built flat = built nested) ∧
      (¬clause.pattern.LooksUp rest ∧ rest ∉ clause.reads) ∧
      built (flat.define rest (.int 1) .mutable) = built flat := by
  intro limit bonus rest flat outer nested clause built
  have lookedUp {name : Name} (looksUp : clause.pattern.LooksUp name) : name = limit := by
    simpa [clause, Clause.guarded, Clause.returning, Clause.unguarded, WrittenPattern.LooksUp,
      WrittenPattern.nodes] using looksUp
  have agree : flat.AgreeFor nested clause := by
    refine ⟨fun name looksUp => ?_, List.forall_mem_singleton.2 rfl⟩
    rw [lookedUp looksUp]
    rfl
  have unseen : ¬clause.pattern.LooksUp rest ∧ rest ∉ clause.reads :=
    ⟨fun looksUp => absurd (lookedUp looksUp) (by decide), by decide⟩
  obtain ⟨alike, ignored⟩ := build_sees_relevant_names .start .empty .silent [clause]
  exact ⟨⟨_, rfl, rfl⟩, rfl, rfl, ⟨agree, alike flat nested (List.forall_mem_singleton.2 agree)⟩,
    unseen, ignored flat rest (.int 1) .mutable (List.forall_mem_singleton.2 unseen)⟩

end Dispatcher

end PatternDispatch
