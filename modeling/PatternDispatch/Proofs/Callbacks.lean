/-
This file proves what the callbacks of a clause see. A name that the pattern binds has its
one bound value; any other name that the guard reads has the value that the scope had when
the dispatcher was built; every other name is absent. The binders are distinct because the
pattern was resolved, and what the guard reads is present because the clause was compiled.
An evaluation asks the guard of a clause that it reaches about this environment and about no
other: the answer alone decides whether the clause fails, is selected or is passed over.
-/
import PatternDispatch.Proofs.Building
import PatternDispatch.Proofs.FirstMatch
import PatternDispatch.Proofs.Traversal

namespace PatternDispatch

variable {Result : Type}

/-! ### Environments -/

theorem CompiledClause.get?_of_unbound {clause : CompiledClause Result} {bindings : Bindings}
    {name : Name} (bound : bindings.names = clause.pattern.binders)
    (unbound : name ∉ clause.pattern.binders) :
    (clause.environment bindings).get? name = Value.field? clause.captured name := by
  rw [← bound] at unbound
  rw [Environment.get?, environment, Bindings.get?, Value.field?_eq_none_iff.2 unbound]
  rfl

namespace Clause.CompilesTo

variable {surroundings : Surroundings} {clause : Clause Result} {compiled : CompiledClause Result}
  {bindings : Bindings} {name : Name} (compiles : clause.CompilesTo surroundings compiled)

include compiles

theorem mem_captured_iff :
    name ∈ compiled.captured.map Prod.fst ↔
      name ∈ clause.reads ∧ name ∉ compiled.pattern.binders := by
  rw [(captureReads_ok compiles.captured).1, List.mem_filter, decide_eq_true_eq]

variable (bound : bindings.names = compiled.pattern.binders)

include bound

/-- A name that the pattern binds has one value, which is the value that is seen. -/
theorem get?_of_bound (member : name ∈ compiled.pattern.binders) :
    ∃ value, bindings.entries.filter (·.1 = name) = [(name, value)] ∧
      (compiled.environment bindings).get? name = some value := by
  rw [← bound] at member
  obtain ⟨value, found⟩ := Value.exists_field? member
  have distinct : bindings.names.Nodup :=
    bound ▸ WrittenPattern.nodup_binders_of_resolve compiles.pattern
  refine ⟨value, Value.filter_eq_of_field? distinct found, ?_⟩
  rw [Environment.get?, CompiledClause.environment, Bindings.get?, found]
  rfl

/-- A name that the guard reads and the pattern does not bind has its value in the scope. -/
theorem get?_of_read (unbound : name ∉ compiled.pattern.binders) (read : name ∈ clause.reads) :
    ∃ value, surroundings.scope.valueOf? name = some value ∧
      (compiled.environment bindings).get? name = some value := by
  obtain ⟨value, found⟩ := Value.exists_field? (compiles.mem_captured_iff.2 ⟨read, unbound⟩)
  rw [CompiledClause.get?_of_unbound bound unbound]
  exact ⟨value, (captureReads_ok compiles.captured).2 _ (Value.mem_of_field? found), found⟩

theorem get?_of_unread (unbound : name ∉ compiled.pattern.binders)
    (unread : name ∉ clause.reads) : (compiled.environment bindings).get? name = none := by
  rw [CompiledClause.get?_of_unbound bound unbound, Value.field?_eq_none_iff,
    compiles.mem_captured_iff]
  exact fun captured => unread captured.1

/-- What the guard reads is always there. -/
theorem require_of_read (read : name ∈ clause.reads) :
    ∃ value, (compiled.environment bindings).get? name = some value ∧
      (compiled.environment bindings).require name = .ok value := by
  have seen : ∃ value, (compiled.environment bindings).get? name = some value := by
    by_cases member : name ∈ compiled.pattern.binders
    · obtain ⟨value, -, found⟩ := compiles.get?_of_bound bound member
      exact ⟨value, found⟩
    · obtain ⟨value, -, found⟩ := compiles.get?_of_read bound member read
      exact ⟨value, found⟩
  obtain ⟨value, found⟩ := seen
  refine ⟨value, found, ?_⟩
  rw [Environment.require, found]

end Clause.CompilesTo

/-! ### Selected clauses -/

namespace Dispatcher

variable {dispatcher : Dispatcher Result} {subject : Value} {position : Nat}

theorem produce_notMem_guardsRun (count : Nat) :
    .produce position ∉ dispatcher.guardsRun subject count := by
  intro member
  obtain ⟨numbered, -, called⟩ := List.mem_flatMap.1 member
  cases CompiledClause.eq_guard_of_mem_guardCalls called

/-- A producer runs only for the first clause that settles the subject, and only if its guard
does not fail. -/
theorem selected_of_produce
    (called : .produce position ∈ (dispatcher.evaluate subject).calls) :
    ∃ clause bindings, dispatcher.FirstSettled subject position clause bindings ∧
      clause.Admits bindings := by
  obtain ⟨first, clause, bindings, settled⟩ | passed :=
    dispatcher.firstSettled_or_passes subject
  · obtain admits | ⟨fault, fails⟩ := settled.settles.answered
    · rw [evaluate_of_selected settled admits] at called
      obtain guards | last := List.mem_append.1 called
      · exact absurd guards (produce_notMem_guardsRun _)
      · cases List.mem_singleton.1 last
        exact ⟨clause, bindings, settled, admits⟩
    · rw [evaluate_of_failed settled fails] at called
      exact absurd called (produce_notMem_guardsRun _)
  · rw [evaluate_of_exhausted passed] at called
    exact absurd called (produce_notMem_guardsRun _)

/-! ### Reached clauses -/

section Reached

variable {clause : CompiledClause Result} {bindings : Bindings}
  (located : dispatcher.clauses[position]? = some clause)

include located

/-- An evaluation that reaches a clause and passes it over goes on behind it. -/
theorem evaluate_of_passes_at (reached : ∀ earlier < position, dispatcher.Passes subject earlier)
    (passes : dispatcher.Passes subject position) :
    dispatcher.evaluate subject =
      (evaluateFrom dispatcher.classes subject (position + 1)
        (dispatcher.clauses.drop (position + 1))).after
        (dispatcher.guardsRun subject (position + 1))
        (dispatcher.passedTrace subject (position + 1)) := by
  refine evaluate_of_passed (List.getElem?_eq_some_iff.1 located).1 fun earlier before => ?_
  obtain ahead | rfl := Nat.lt_succ_iff_lt_or_eq.1 before
  · exact reached earlier ahead
  · exact passes

/-- The guards of the clauses up to one that is reached run before anything else is called. -/
theorem guardsRun_prefix_calls (reached : ∀ earlier < position, dispatcher.Passes subject earlier) :
    dispatcher.guardsRun subject (position + 1) <+: (dispatcher.evaluate subject).calls := by
  by_cases passes : dispatcher.Passes subject position
  · rw [evaluate_of_passes_at located reached passes]
    exact List.prefix_append _ _
  · simp only [Passes, not_forall, not_not] at passes
    obtain ⟨other, otherLocated, bindings, settles⟩ := passes
    have settled : dispatcher.FirstSettled subject position other bindings :=
      ⟨otherLocated, settles, reached⟩
    obtain admits | ⟨fault, fails⟩ := settles.answered
    · rw [evaluate_of_selected settled admits]
      exact List.prefix_append _ _
    · exact ⟨[], by rw [List.append_nil, evaluate_of_failed settled fails]⟩

variable (accepted : (clause.pattern.attempt dispatcher.classes position subject).outcome =
  .accepted bindings)

include accepted

theorem guard_mem_guardsRun (guarded : clause.holds.isSome = true) :
    .guard position ∈ dispatcher.guardsRun subject (position + 1) := by
  rw [guardsRun_succ located, CompiledClause.guardCalls, accepted, if_pos ⟨guarded, rfl⟩]
  exact List.mem_append_right _ (List.mem_singleton_self _)

theorem passes_of_refused {holds : Environment → Except Fault Bool}
    (guarded : clause.holds = some holds)
    (refused : holds (clause.environment bindings) = .ok false) :
    dispatcher.Passes subject position := by
  rintro other otherLocated otherBindings ⟨otherAccepted, answered⟩
  cases located.symm.trans otherLocated
  cases accepted.symm.trans otherAccepted
  obtain admits | ⟨fault, fails⟩ := answered
  · cases refused.symm.trans ((CompiledClause.admits_iff guarded bindings).1 admits)
  · cases refused.symm.trans ((CompiledClause.fails_iff guarded bindings fault).1 fails)

variable (reached : ∀ earlier < position, dispatcher.Passes subject earlier)

include reached

theorem result_of_admits (admits : clause.Admits bindings) :
    (dispatcher.evaluate subject).result =
      (clause.produce (clause.environment bindings)).mapError (.produceFault position) := by
  rw [evaluate_of_selected ⟨located, ⟨accepted, .inl admits⟩, reached⟩ admits]

theorem result_of_fails {fault : Fault} (fails : clause.Fails bindings fault) :
    (dispatcher.evaluate subject).result = .error (.guardFault position fault) := by
  rw [evaluate_of_failed ⟨located, ⟨accepted, .inr ⟨fault, fails⟩⟩, reached⟩ fails]

end Reached

/-! ### Callbacks -/

/-- In every subject that its pattern accepts, a clause sees the bound names, behind them what
its guard reads, and nothing else. If the evaluation reaches the clause, this is what the guard is
asked about: its fault ends the evaluation, its no leaves the subject to the clauses behind, and
its yes has the producer run in the same environment. -/
theorem callbacks_see_environment {surroundings : Surroundings} {observer : Observer}
    {clauses : List (Clause Result)} {clause : Clause Result}
    (built : (Dispatcher.build surroundings observer clauses).outcome = .ok dispatcher)
    (written : clauses[position]? = some clause) :
    ∃ compiled, dispatcher.clauses[position]? = some compiled ∧
      clause.pattern.resolve surroundings = .ok compiled.pattern ∧
      (∀ subject bindings,
        (compiled.pattern.attempt dispatcher.classes position subject).outcome =
          .accepted bindings →
        (∀ name,
          (name ∈ compiled.pattern.binders →
            ∃ value, bindings.entries.filter (·.1 = name) = [(name, value)] ∧
              (compiled.environment bindings).get? name = some value) ∧
          (name ∉ compiled.pattern.binders → name ∈ clause.reads →
            (compiled.environment bindings).get? name = surroundings.scope.valueOf? name) ∧
          (name ∉ compiled.pattern.binders → name ∉ clause.reads →
            (compiled.environment bindings).get? name = none)) ∧
        ∀ name ∈ clause.reads, ∃ value,
          (compiled.environment bindings).get? name = some value ∧
            (compiled.environment bindings).require name = .ok value) ∧
      (∀ subject bindings, (∀ earlier < position, dispatcher.Passes subject earlier) →
        (compiled.pattern.attempt dispatcher.classes position subject).outcome =
          .accepted bindings →
        let environment := compiled.environment bindings
        let produced := (clause.produce environment).mapError (.produceFault position)
        (clause.guard = none → (dispatcher.evaluate subject).result = produced) ∧
        ∀ guard ∈ clause.guard,
          .guard position ∈ (dispatcher.evaluate subject).calls ∧
          (∀ fault, guard.holds environment = .error fault →
            (dispatcher.evaluate subject).result = .error (.guardFault position fault)) ∧
          (guard.holds environment = .ok true →
            (dispatcher.evaluate subject).result = produced) ∧
          (guard.holds environment = .ok false →
            dispatcher.Passes subject position ∧
            dispatcher.evaluate subject =
              (evaluateFrom dispatcher.classes subject (position + 1)
                (dispatcher.clauses.drop (position + 1))).after
                (dispatcher.guardsRun subject (position + 1))
                (dispatcher.passedTrace subject (position + 1)))) ∧
      ∀ subject, .produce position ∈ (dispatcher.evaluate subject).calls →
        ∃ bindings,
          (compiled.pattern.attempt dispatcher.classes position subject).outcome =
            .accepted bindings ∧
          (∀ guard ∈ clause.guard,
            guard.holds (compiled.environment bindings) = .ok true) ∧
          (dispatcher.evaluate subject).result =
            (clause.produce (compiled.environment bindings)).mapError
              (.produceFault position) := by
  obtain ⟨compiled, located, compiles⟩ := (builtFrom_of_build built).compiled_at written
  refine ⟨compiled, located, compiles.pattern, fun subject bindings accepted => ?_,
    fun subject bindings reached accepted => ?_, fun subject called => ?_⟩
  · have bound := Pattern.names_of_accepted accepted
    refine ⟨fun name => ⟨compiles.get?_of_bound bound, fun unbound read => ?_,
      compiles.get?_of_unread bound⟩, fun name => compiles.require_of_read bound⟩
    obtain ⟨value, visible, found⟩ := compiles.get?_of_read bound unbound read
    rw [visible, found]
  · refine ⟨fun unguarded => ?_, fun guard guarded => ?_⟩
    · have admits : compiled.Admits bindings :=
        CompiledClause.admits_of_unguarded (by rw [compiles.holds, unguarded]; rfl) bindings
      rw [result_of_admits located accepted reached admits, compiles.produce]
    · have holds : compiled.holds = some guard.holds := by
        rw [compiles.holds, Option.mem_def.1 guarded, Option.map_some]
      refine ⟨(guardsRun_prefix_calls located reached).subset ?_, fun fault failed => ?_,
        fun agrees => ?_, fun refused => ?_⟩
      · exact guard_mem_guardsRun located accepted (by rw [holds, Option.isSome_some])
      · have fails := (CompiledClause.fails_iff holds bindings fault).2 failed
        exact result_of_fails located accepted reached fails
      · have admits := (CompiledClause.admits_iff holds bindings).2 agrees
        rw [result_of_admits located accepted reached admits, compiles.produce]
      · have passes := passes_of_refused located accepted holds refused
        exact ⟨passes, evaluate_of_passes_at located reached passes⟩
  · obtain ⟨other, bindings, settled, admits⟩ := selected_of_produce called
    cases located.symm.trans settled.located
    refine ⟨bindings, settled.settles.accepted, fun guard guarded => ?_, ?_⟩
    · refine admits guard.holds ?_
      rw [compiles.holds]
      exact Option.mem_map_of_mem _ guarded
    · rw [evaluate_of_selected settled admits, compiles.produce]

/-- The guard reads a mutable name of the scope and the name that the pattern binds. Of three
subjects that the clause in front passes over, one is selected, one is refused by the guard, and
one makes the guard fail; the fault is about the subject and not about the name of the scope. -/
theorem callbacks_see_environment_mutable :
    let bound : Name := ⟨1⟩
    let limit : Name := ⟨2⟩
    let scope := Scope.start.define limit (.int 5) .mutable
    let guard : Guard := ⟨[limit, bound], fun environment => do
      return (← environment.requireInt limit) ≤ (← environment.requireInt bound)⟩
    let clause : Clause Int64 := ⟨.binding bound, some guard, (·.requireInt bound)⟩
    let compiled : CompiledClause Int64 :=
      ⟨.binder bound, some guard.holds, [(limit, .int 5)], clause.produce⟩
    let dispatcher : Dispatcher Int64 :=
      ⟨[⟨.literal .unit, none, [], fun _ => .ok 0⟩, compiled], .empty, .silent, []⟩
    (build ⟨.start, scope, .empty⟩ .silent [.returning (.literal .unit) 0, clause]).outcome =
        .ok dispatcher ∧
      (compiled.environment (.single bound (.int 9))).get? limit = some (.int 5) ∧
      (dispatcher.evaluate (.int 9)).result = .ok 9 ∧
      (dispatcher.evaluate (.int 3)).result = .error (.noClauseAccepted "Int" 2) ∧
      (dispatcher.evaluate (.bool true)).result =
        .error (.guardFault 1 (.ofMessage "Name(1) is a Bool, not an Int")) := by
  intro bound limit scope guard clause compiled dispatcher
  have built : (build ⟨.start, scope, .empty⟩ .silent
    [.returning (.literal .unit) 0, clause]).outcome = .ok dispatcher := rfl
  have written : [Clause.returning (.literal .unit) 0, clause][1]? = some clause := rfl
  have ahead (subject : Value) (other : subject.equals .unit = false) :
      ∀ earlier < 1, dispatcher.Passes subject earlier := by
    have rejected (clause : Nat) :
        (Pattern.literal .unit).attempt .empty clause subject = ⟨.rejected, []⟩ := by
      have missed : (Pattern.literal .unit).extract .empty subject = none :=
        if_neg (by simp [other])
      rw [Pattern.attempt, missed]
    rintro earlier before first located bindings ⟨accepted, -⟩
    cases Nat.lt_one_iff.1 before
    cases located
    cases (congrArg Attempt.outcome (rejected 0)).symm.trans accepted
  obtain ⟨other, located, -, seen, asked, -⟩ := callbacks_see_environment built written
  cases located
  obtain ⟨names, -⟩ := seen (.int 9) (.single bound (.int 9)) rfl
  have answer (subject : Value) (unlike : subject.equals .unit = false) :=
    (asked subject (.single bound subject) (ahead subject unlike) rfl).2 guard rfl
  obtain ⟨-, -, selects, -⟩ := answer (.int 9) rfl
  obtain ⟨-, -, -, refuses⟩ := answer (.int 3) rfl
  obtain ⟨-, fails, -⟩ := answer (.bool true) rfl
  refine ⟨built, (names limit).2.1 (by decide) (by decide), selects rfl, ?_, ?_⟩
  · rw [(refuses rfl).2]
    rfl
  · have text : bound.inspect ++ " is a " ++ (Value.bool true).typeName ++ ", not an Int" =
        "Name(1) is a Bool, not an Int" := by decide
    rw [← text]
    exact fails _ rfl

end Dispatcher

end PatternDispatch
