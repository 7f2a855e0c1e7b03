/-
This file proves that equal subjects are dispatched alike. An attempt accepts both or rejects
both, with equal notices and with bindings that are equal name by name. Without guards nothing
else decides between the clauses, so the same clause is selected for both subjects, or both
evaluations fail with the same error.
-/
import PatternDispatch.Proofs.Congruence

namespace PatternDispatch

/-! ### Attempts -/

/-- Both reject, or both accept with alike bindings. -/
inductive MatchOutcome.Alike : MatchOutcome → MatchOutcome → Prop
  | rejected : Alike .rejected .rejected
  | accepted {first second : Bindings} (alike : first.Alike second) :
    Alike (.accepted first) (.accepted second)

/-- Alike outcomes and equal notices. -/
structure Attempt.Alike (first second : Attempt) : Prop where
  outcome : first.outcome.Alike second.outcome
  notices : first.notices = second.notices

variable {Result : Type} {heap : Heap} {first second : Value}

theorem Pattern.attempt_alike {pattern : Pattern} (stored : pattern.StoredIn heap)
    (same : first.EqualIn heap second) (classes : ClassTable) (clause : Nat) :
    (pattern.attempt classes clause first).Alike (pattern.attempt classes clause second) := by
  have respected := Pattern.respects classes stored same
  unfold Pattern.attempt
  generalize pattern.extract classes first = found at respected ⊢
  generalize pattern.extract classes second = other at respected ⊢
  cases respected with
  | none => exact ⟨.rejected, rfl⟩
  | some alike =>
    have notices := congrArg (List.map fun erasure => erasure.notice classes clause) alike.erasures
    exact ⟨.accepted alike.bindings, notices⟩

/-! ### Dispatchers without guards -/

/-- The clause has no guard, and its pattern compares with stored values. -/
structure CompiledClause.PlainIn (heap : Heap) (clause : CompiledClause Result) : Prop where
  unguarded : clause.holds = none
  stored : clause.pattern.StoredIn heap

namespace CompiledClause.PlainIn

variable {clause : CompiledClause Result} (plain : clause.PlainIn heap)

include plain

theorem admits (bindings : Bindings) : clause.Admits bindings :=
  admits_of_unguarded plain.unguarded bindings

theorem guardCalls_eq_nil (classes : ClassTable) (index : Nat) (subject : Value) :
    clause.guardCalls classes index subject = [] := by
  rw [guardCalls, plain.unguarded]
  exact if_neg fun guarded => nomatch guarded.1

variable (same : first.EqualIn heap second)

include same

/-- A clause that settles one subject settles an equal one, with alike bindings. -/
theorem exists_settles {classes : ClassTable} {index : Nat} {bindings : Bindings}
    (settles : clause.Settles classes index first bindings) :
    ∃ others, clause.Settles classes index second others ∧ bindings.Alike others := by
  have attempts := (clause.pattern.attempt_alike plain.stored same classes index).outcome
  rw [settles.accepted] at attempts
  generalize accepted : (clause.pattern.attempt classes index second).outcome = outcome at attempts
  cases attempts with
  | accepted alike => exact ⟨_, ⟨accepted, .inl (plain.admits _)⟩, alike⟩

theorem erased_eq (classes : ClassTable) (index : Nat) :
    clause.erased classes index first = clause.erased classes index second := by
  rw [erased, erased, (clause.pattern.attempt_alike plain.stored same classes index).notices]

theorem passedEvents_eq (classes : ClassTable) (index : Nat) :
    clause.passedEvents classes index first = clause.passedEvents classes index second := by
  have attempts := (clause.pattern.attempt_alike plain.stored same classes index).outcome
  rw [passedEvents, passedEvents, plain.erased_eq same]
  generalize (clause.pattern.attempt classes index first).outcome = outcome at attempts ⊢
  generalize (clause.pattern.attempt classes index second).outcome = other at attempts ⊢
  cases attempts <;> rfl

end CompiledClause.PlainIn

namespace Dispatcher

variable {dispatcher : Dispatcher Result}
  (plain : ∀ clause ∈ dispatcher.clauses, clause.PlainIn heap)

include plain

theorem guardsRun_eq_nil (subject : Value) (count : Nat) :
    dispatcher.guardsRun subject count = [] := by
  rw [guardsRun, guardsFrom, List.flatMap_eq_nil_iff]
  intro numbered member
  have inside := List.mem_of_mem_take (List.fst_mem_of_mem_zipIdx member)
  exact (plain numbered.1 inside).guardCalls_eq_nil _ _ _

variable (same : first.EqualIn heap second)

include same

theorem passedTrace_eq (count : Nat) :
    dispatcher.passedTrace first count = dispatcher.passedTrace second count := by
  rw [passedTrace, passedTrace, passedFrom, passedFrom]
  refine List.flatMap_congr fun numbered member => ?_
  have inside := List.mem_of_mem_take (List.fst_mem_of_mem_zipIdx member)
  exact (plain numbered.1 inside).passedEvents_eq same _ _

theorem passes_of_passes {position : Nat} (passes : dispatcher.Passes first position) :
    dispatcher.Passes second position := by
  intro clause located bindings settles
  have inside := List.mem_of_getElem? located
  obtain ⟨others, settled, -⟩ := (plain clause inside).exists_settles same.symm settles
  exact passes clause located others settled

theorem exists_firstSettled {position : Nat} {clause : CompiledClause Result}
    {bindings : Bindings} (settled : dispatcher.FirstSettled first position clause bindings) :
    ∃ others, dispatcher.FirstSettled second position clause others ∧ bindings.Alike others := by
  have inside := List.mem_of_getElem? settled.located
  obtain ⟨others, settles, alike⟩ := (plain clause inside).exists_settles same settled.settles
  exact ⟨others, ⟨settled.located, settles, fun earlier before =>
    passes_of_passes plain same (settled.first earlier before)⟩, alike⟩

/-- The clause selected for one subject is selected for the other and sees alike bindings, so the
two evaluations run the same callback and report the same events. -/
theorem evaluate_of_firstSettled_alike {position : Nat} {clause : CompiledClause Result}
    {bindings others : Bindings}
    (settled : dispatcher.FirstSettled first position clause bindings)
    (settledOther : dispatcher.FirstSettled second position clause others) :
    ∃ events,
      dispatcher.evaluate first =
        ⟨(clause.produce (clause.environment bindings)).mapError (.produceFault position),
          [.produce position], events⟩ ∧
      dispatcher.evaluate second =
        ⟨(clause.produce (clause.environment others)).mapError (.produceFault position),
          [.produce position], events⟩ := by
  have plainClause := plain clause (List.mem_of_getElem? settled.located)
  have front := evaluate_of_selected settled (plainClause.admits bindings)
  have back := evaluate_of_selected settledOther (plainClause.admits others)
  rw [guardsRun_eq_nil plain, List.nil_append] at front back
  rw [← passedTrace_eq plain same, ← plainClause.erased_eq same] at back
  exact ⟨_, front, back⟩

theorem evaluate_of_passes
    (passes : ∀ position < dispatcher.clauses.length, dispatcher.Passes first position) :
    (dispatcher.evaluate first).result =
        .error (.noClauseAccepted (dispatcher.classes.describe first.tag) dispatcher.length) ∧
      dispatcher.evaluate second = dispatcher.evaluate first := by
  have passesOther := fun position inside => passes_of_passes plain same (passes position inside)
  rw [evaluate_of_exhausted passes, evaluate_of_exhausted passesOther, guardsRun_eq_nil plain,
    guardsRun_eq_nil plain, passedTrace_eq plain same, same.tag_eq]
  exact ⟨rfl, rfl⟩

end Dispatcher

/-- On two equal subjects every pattern accepts both or rejects both, with equal notices and alike
bindings. A dispatcher without guards selects the same clause for both subjects, the first that
accepts them, or its evaluations of both are the same failure. -/
theorem matching_respects_equality (same : first.EqualIn heap second) :
    (∀ (pattern : Pattern) (classes : ClassTable) (clause : Nat), pattern.StoredIn heap →
      (pattern.attempt classes clause first).Alike (pattern.attempt classes clause second)) ∧
    ∀ {Result : Type} (dispatcher : Dispatcher Result),
      (∀ clause ∈ dispatcher.clauses, clause.PlainIn heap) →
      (∃ position clause bindings others events,
        dispatcher.FirstSettled first position clause bindings ∧
          dispatcher.FirstSettled second position clause others ∧ bindings.Alike others ∧
          dispatcher.evaluate first =
            ⟨(clause.produce (clause.environment bindings)).mapError (.produceFault position),
              [.produce position], events⟩ ∧
          dispatcher.evaluate second =
            ⟨(clause.produce (clause.environment others)).mapError (.produceFault position),
              [.produce position], events⟩) ∨
        (dispatcher.evaluate first).result =
            .error (.noClauseAccepted (dispatcher.classes.describe first.tag)
              dispatcher.length) ∧
          dispatcher.evaluate second = dispatcher.evaluate first := by
  refine ⟨fun pattern classes clause stored => Pattern.attempt_alike stored same classes clause,
    fun dispatcher plain => ?_⟩
  obtain ⟨position, clause, bindings, settled⟩ | passes :=
    dispatcher.firstSettled_or_passes first
  · obtain ⟨others, settledOther, alike⟩ := Dispatcher.exists_firstSettled plain same settled
    obtain ⟨events, front, back⟩ :=
      Dispatcher.evaluate_of_firstSettled_alike plain same settled settledOther
    exact .inl ⟨position, clause, bindings, others, events, settled, settledOther, alike, front,
      back⟩
  · exact .inr (Dispatcher.evaluate_of_passes plain same passes)

/-- A heap with a tuple that holds a NaN, and two lists that end with the tuple. -/
def unevenHeap (number : Double) : Heap
  | 0 => .items [.float number]
  | 1 => .items [.tuple 0 [.float number]]
  | _ => .items [.unit, .tuple 0 [.float number]]

/-- Two views with different offsets show a tuple in one cell. Both are accepted and the NaN in the
tuple is bound in both, although it does not equal itself; one clause is selected for both. -/
theorem matching_respects_equality_nan :
    let number : Double := ⟨0x7ff8000000000000⟩
    let shared : Value := .tuple 0 [.float number]
    let first : Value := .seq (.whole 1 [shared])
    let second : Value := .seq ⟨2, #[.unit, shared], 1, 2⟩
    let pattern : Pattern := .fixedSequence [.tuple [.binder ⟨1⟩]]
    let clause : CompiledClause Nat := ⟨pattern, none, [], fun _ => .ok 7⟩
    let dispatcher : Dispatcher Nat := ⟨[clause], .empty, .silent, []⟩
    ¬(Value.float number).Equal (.float number) ∧ first.EqualIn (unevenHeap number) second ∧
      (pattern.attempt .empty 0 first).outcome = .accepted (.single ⟨1⟩ (.float number)) ∧
      (pattern.attempt .empty 0 second).outcome = .accepted (.single ⟨1⟩ (.float number)) ∧
      (pattern.attempt .empty 0 first).Alike (pattern.attempt .empty 0 second) ∧
      (dispatcher.evaluate first).result = .ok 7 ∧ (dispatcher.evaluate second).result = .ok 7 ∧
      (dispatcher.evaluate second).calls = (dispatcher.evaluate first).calls := by
  intro number shared first second pattern clause dispatcher
  have storedShared : shared.StoredIn (unevenHeap number) :=
    .tuple rfl (List.forall_mem_singleton.2 (.float number))
  have storedFirst : first.StoredIn (unevenHeap number) :=
    .seq rfl (List.forall_mem_singleton.2 storedShared)
  have storedSecond : second.StoredIn (unevenHeap number) :=
    .seq rfl (List.forall_mem_cons.2 ⟨.unit, List.forall_mem_singleton.2 storedShared⟩)
  have same : first.EqualIn (unevenHeap number) second := ⟨storedFirst, storedSecond, rfl⟩
  have storedBinder : (Pattern.binder ⟨1⟩).StoredIn (unevenHeap number) :=
    List.forall_mem_singleton.2 fun value held => nomatch held
  have storedPattern : pattern.StoredIn (unevenHeap number) :=
    Pattern.storedIn_fixedSequence_iff.2 (List.forall_mem_singleton.2
      (Pattern.storedIn_tuple_iff.2 (List.forall_mem_singleton.2 storedBinder)))
  obtain ⟨attempts, dispatched⟩ := matching_respects_equality same
  refine ⟨by decide, same, rfl, rfl, attempts pattern .empty 0 storedPattern, rfl, rfl, ?_⟩
  have plain : ∀ other ∈ dispatcher.clauses, other.PlainIn (unevenHeap number) :=
    List.forall_mem_singleton.2 ⟨rfl, storedPattern⟩
  obtain ⟨_, _, _, _, _, -, -, -, front, back⟩ | ⟨-, failed⟩ := dispatched dispatcher plain
  · rw [front, back]
  · rw [failed]

end PatternDispatch
