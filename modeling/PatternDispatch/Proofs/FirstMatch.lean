/-
This file proves that a dispatcher runs the first clause that settles its subject, and
nothing behind it. A clause settles a subject if its pattern accepts and its guard, if it
has one, does not answer no; a guard that fails settles the subject as well, with its
fault. The clauses in front of the first such clause leave a trace of their own, so the
result, the callbacks and the events of an evaluation are determined all together.
-/
import Mathlib.Data.Nat.Find
import PatternDispatch.Dispatcher.Evaluation

namespace PatternDispatch

variable {Result : Type}

/-! ### What one clause does to a subject -/

namespace CompiledClause

/-- The clause has no guard, or its guard holds. -/
def Admits (clause : CompiledClause Result) (bindings : Bindings) : Prop :=
  ∀ holds ∈ clause.holds, holds (clause.environment bindings) = .ok true

/-- The clause has a guard, which raises the fault. -/
def Fails (clause : CompiledClause Result) (bindings : Bindings) (fault : Fault) : Prop :=
  ∃ holds ∈ clause.holds, holds (clause.environment bindings) = .error fault

/-- The pattern of the clause accepts the subject, and the guard does not answer no. -/
structure Settles (clause : CompiledClause Result) (classes : ClassTable) (index : Nat)
    (subject : Value) (bindings : Bindings) : Prop where
  accepted : (clause.pattern.attempt classes index subject).outcome = .accepted bindings
  answered : clause.Admits bindings ∨ ∃ fault, clause.Fails bindings fault

/-- The guard runs if there is one and the pattern accepted. -/
def guardCalls (clause : CompiledClause Result) (classes : ClassTable) (index : Nat)
    (subject : Value) : List Call :=
  if clause.holds.isSome ∧ (clause.pattern.attempt classes index subject).outcome.isAccepted then
    [.guard index]
  else []

/-- The notices of the type tests that the pattern erased. -/
def erased (clause : CompiledClause Result) (classes : ClassTable) (index : Nat)
    (subject : Value) : List Event :=
  (clause.pattern.attempt classes index subject).notices.map .elementTypeErased

/-- The events of a clause that does not settle the subject. -/
def passedEvents (clause : CompiledClause Result) (classes : ClassTable) (index : Nat)
    (subject : Value) : List Event :=
  match (clause.pattern.attempt classes index subject).outcome with
  | .rejected => [.patternRejected index]
  | .accepted _ => clause.erased classes index subject ++ [.guardRejected index]

theorem admits_of_unguarded {clause : CompiledClause Result} (unguarded : clause.holds = none)
    (bindings : Bindings) : clause.Admits bindings := fun holds guarded => by
  rw [unguarded] at guarded
  cases guarded

theorem admits_iff {clause : CompiledClause Result} {holds : Environment → Except Fault Bool}
    (guarded : clause.holds = some holds) (bindings : Bindings) :
    clause.Admits bindings ↔ holds (clause.environment bindings) = .ok true := by
  simp only [Admits, guarded, Option.mem_some_iff, forall_eq']

theorem fails_iff {clause : CompiledClause Result} {holds : Environment → Except Fault Bool}
    (guarded : clause.holds = some holds) (bindings : Bindings) (fault : Fault) :
    clause.Fails bindings fault ↔ holds (clause.environment bindings) = .error fault := by
  simp only [Fails, guarded, Option.mem_some_iff, exists_eq_left']

theorem eq_guard_of_mem_guardCalls {clause : CompiledClause Result} {classes : ClassTable}
    {index : Nat} {subject : Value} {call : Call}
    (member : call ∈ clause.guardCalls classes index subject) : call = .guard index := by
  unfold guardCalls at member
  split at member
  · exact List.mem_singleton.1 member
  · cases member

end CompiledClause

/-! ### One step of an evaluation -/

theorem Evaluation.after_after (evaluation : Evaluation Result) (calls earlierCalls : List Call)
    (events earlierEvents : List Event) :
    (evaluation.after calls events).after earlierCalls earlierEvents =
      evaluation.after (earlierCalls ++ calls) (earlierEvents ++ events) := by
  simp only [after, List.append_assoc]

section Step

variable {classes : ClassTable} {subject : Value} {index : Nat} {clause : CompiledClause Result}
  {bindings : Bindings} (later : List (CompiledClause Result))

/-- A clause that does not settle the subject leaves it to the clauses behind. -/
theorem evaluateFrom_cons_of_passed
    (passed : ∀ bindings, ¬clause.Settles classes index subject bindings) :
    evaluateFrom classes subject index (clause :: later) =
      (evaluateFrom classes subject (index + 1) later).after
        (clause.guardCalls classes index subject) (clause.passedEvents classes index subject) := by
  unfold CompiledClause.guardCalls CompiledClause.passedEvents CompiledClause.erased
  rw [evaluateFrom]
  cases tried : clause.pattern.attempt classes index subject with
  | mk outcome notices =>
    cases outcome with
    | rejected => simp only [MatchOutcome.isAccepted, Bool.false_eq_true, and_false, if_false]
    | accepted bindings =>
      have unsettled := fun answered =>
        passed bindings ⟨congrArg Attempt.outcome tried, answered⟩
      cases guarded : clause.holds with
      | none =>
        refine absurd (Or.inl fun holds member => ?_) unsettled
        rw [guarded] at member
        cases member
      | some holds =>
        simp only [MatchOutcome.isAccepted, Option.isSome_some, and_self, if_true]
        cases answer : holds (clause.environment bindings) with
        | error fault => exact absurd (Or.inr ⟨fault, holds, guarded, answer⟩) unsettled
        | ok verdict =>
          cases verdict with
          | false => rfl
          | true =>
            refine absurd (Or.inl fun other member => ?_) unsettled
            cases guarded.symm.trans member
            exact answer

/-- A clause whose pattern accepts and whose guard does not object is selected. -/
theorem evaluateFrom_cons_of_admits
    (accepted : (clause.pattern.attempt classes index subject).outcome = .accepted bindings)
    (admits : clause.Admits bindings) :
    evaluateFrom classes subject index (clause :: later) =
      (clause.select index (clause.environment bindings)).after
        (clause.guardCalls classes index subject) (clause.erased classes index subject) := by
  unfold CompiledClause.guardCalls CompiledClause.erased
  rw [evaluateFrom]
  cases tried : clause.pattern.attempt classes index subject with
  | mk outcome notices =>
    rw [tried] at accepted
    cases accepted
    cases guarded : clause.holds with
    | none => simp only [Option.isSome_none, Bool.false_eq_true, false_and, if_false]
    | some holds =>
      simp only [admits holds guarded, MatchOutcome.isAccepted, Option.isSome_some, and_self,
        if_true]

/-- A guard that fails ends the evaluation. -/
theorem evaluateFrom_cons_of_fails {fault : Fault}
    (accepted : (clause.pattern.attempt classes index subject).outcome = .accepted bindings)
    (fails : clause.Fails bindings fault) :
    evaluateFrom classes subject index (clause :: later) =
      ⟨.error (.guardFault index fault), clause.guardCalls classes index subject,
        clause.erased classes index subject⟩ := by
  obtain ⟨holds, guarded, failed⟩ := fails
  unfold CompiledClause.guardCalls CompiledClause.erased
  rw [evaluateFrom]
  cases tried : clause.pattern.attempt classes index subject with
  | mk outcome notices =>
    rw [tried] at accepted
    cases accepted
    rw [Option.mem_def] at guarded
    simp only [guarded, failed, MatchOutcome.isAccepted, Option.isSome_some, and_self, if_true]

end Step

/-! ### A run of clauses -/

/-- One item more adds its own entries at the end. -/
theorem flatMap_zipIdx_take_succ {Item Entry : Type} {items : List Item} {position : Nat}
    {item : Item} (located : items[position]? = some item) (block : Item → Nat → List Entry) :
    ((items.take (position + 1)).zipIdx.flatMap fun numbered => block numbered.1 numbered.2) =
      ((items.take position).zipIdx.flatMap fun numbered => block numbered.1 numbered.2) ++
        block item position := by
  have inside := (List.getElem?_eq_some_iff.1 located).1
  rw [List.take_add_one, located, List.zipIdx_append, List.flatMap_append,
    List.length_take_of_le (Nat.le_of_lt inside), Nat.zero_add]
  simp only [Option.toList_some, List.zipIdx_cons, List.zipIdx_nil, List.flatMap_cons,
    List.flatMap_nil, List.append_nil]

/-- The guards that run while these clauses are tried, the first of which has position
`index`. -/
def guardsFrom (classes : ClassTable) (subject : Value) (index : Nat)
    (clauses : List (CompiledClause Result)) : List Call :=
  (clauses.zipIdx index).flatMap fun numbered => numbered.1.guardCalls classes numbered.2 subject

/-- The events of these clauses, the first of which has position `index`, if none settles the
subject. -/
def passedFrom (classes : ClassTable) (subject : Value) (index : Nat)
    (clauses : List (CompiledClause Result)) : List Event :=
  (clauses.zipIdx index).flatMap fun numbered => numbered.1.passedEvents classes numbered.2 subject

/-- Clauses that do not settle the subject leave it to the clauses behind them. -/
theorem evaluateFrom_append_of_passed (classes : ClassTable) (subject : Value) (index : Nat)
    (passed later : List (CompiledClause Result))
    (unsettled : ∀ position (clause : CompiledClause Result), passed[position]? = some clause →
      ∀ bindings, ¬clause.Settles classes (index + position) subject bindings) :
    evaluateFrom classes subject index (passed ++ later) =
      (evaluateFrom classes subject (index + passed.length) later).after
        (guardsFrom classes subject index passed) (passedFrom classes subject index passed) := by
  induction passed generalizing index with
  | nil => rfl
  | cons clause passed inductionHypothesis =>
    have ahead : ∀ bindings, ¬clause.Settles classes index subject bindings :=
      unsettled 0 clause rfl
    have behind : ∀ position (clause : CompiledClause Result), passed[position]? = some clause →
        ∀ bindings, ¬clause.Settles classes (index + 1 + position) subject bindings := by
      intro position clause located
      rw [Nat.add_assoc, Nat.add_comm 1 position]
      exact unsettled (position + 1) clause located
    rw [List.cons_append, evaluateFrom_cons_of_passed _ ahead, inductionHypothesis _ behind,
      Evaluation.after_after, List.length_cons, Nat.add_assoc, Nat.add_comm 1]
    rfl

namespace Dispatcher

variable (dispatcher : Dispatcher Result) (subject : Value)

/-- No clause at this position settles the subject. -/
def Passes (position : Nat) : Prop :=
  ∀ clause, dispatcher.clauses[position]? = some clause →
    ∀ bindings, ¬clause.Settles dispatcher.classes position subject bindings

/-- The first clause that settles the subject, and what its pattern binds. -/
structure FirstSettled (position : Nat) (clause : CompiledClause Result)
    (bindings : Bindings) : Prop where
  located : dispatcher.clauses[position]? = some clause
  settles : clause.Settles dispatcher.classes position subject bindings
  first : ∀ earlier < position, dispatcher.Passes subject earlier

/-- The guards that run among the first `count` clauses, in order: those of the guarded clauses
whose pattern accepts. -/
def guardsRun (count : Nat) : List Call :=
  guardsFrom dispatcher.classes subject 0 (dispatcher.clauses.take count)

/-- The events of the first `count` clauses if none of them settles the subject: a rejection by
the pattern, or the erasure notices and a rejection by the guard. -/
def passedTrace (count : Nat) : List Event :=
  passedFrom dispatcher.classes subject 0 (dispatcher.clauses.take count)

variable {dispatcher subject}

/-- The evaluation starts over at the first position that the clauses in front do not settle. -/
theorem evaluate_of_passed {count : Nat} (inside : count ≤ dispatcher.clauses.length)
    (passed : ∀ earlier < count, dispatcher.Passes subject earlier) :
    dispatcher.evaluate subject =
      (evaluateFrom dispatcher.classes subject count (dispatcher.clauses.drop count)).after
        (dispatcher.guardsRun subject count) (dispatcher.passedTrace subject count) := by
  have split := evaluateFrom_append_of_passed dispatcher.classes subject 0
    (dispatcher.clauses.take count) (dispatcher.clauses.drop count)
    fun position clause located => by
      rw [List.getElem?_take, Option.ite_none_right_eq_some] at located
      rw [Nat.zero_add]
      exact passed position located.1 clause located.2
  rw [List.take_append_drop, Nat.zero_add, List.length_take_of_le inside] at split
  exact split

theorem guardsRun_succ {position : Nat} {clause : CompiledClause Result}
    (located : dispatcher.clauses[position]? = some clause) :
    dispatcher.guardsRun subject (position + 1) =
      dispatcher.guardsRun subject position ++
        clause.guardCalls dispatcher.classes position subject :=
  flatMap_zipIdx_take_succ located fun clause index =>
    clause.guardCalls dispatcher.classes index subject

theorem evaluate_of_firstSettled {position : Nat} {clause : CompiledClause Result}
    {bindings : Bindings} (settled : dispatcher.FirstSettled subject position clause bindings) :
    dispatcher.evaluate subject =
      (evaluateFrom dispatcher.classes subject position
        (clause :: dispatcher.clauses.drop (position + 1))).after
        (dispatcher.guardsRun subject position) (dispatcher.passedTrace subject position) := by
  obtain ⟨inside, found⟩ := List.getElem?_eq_some_iff.1 settled.located
  rw [evaluate_of_passed (Nat.le_of_lt inside) settled.first, List.drop_eq_getElem_cons inside,
    found]

theorem evaluate_of_selected {position : Nat} {clause : CompiledClause Result}
    {bindings : Bindings} (settled : dispatcher.FirstSettled subject position clause bindings)
    (admits : clause.Admits bindings) :
    dispatcher.evaluate subject =
      ⟨(clause.produce (clause.environment bindings)).mapError (.produceFault position),
        dispatcher.guardsRun subject (position + 1) ++ [.produce position],
        dispatcher.passedTrace subject position ++
          clause.erased dispatcher.classes position subject ++ [.selected position]⟩ := by
  rw [evaluate_of_firstSettled settled,
    evaluateFrom_cons_of_admits _ settled.settles.accepted admits, Evaluation.after_after,
    guardsRun_succ settled.located]
  rfl

theorem evaluate_of_failed {position : Nat} {clause : CompiledClause Result}
    {bindings : Bindings} {fault : Fault}
    (settled : dispatcher.FirstSettled subject position clause bindings)
    (fails : clause.Fails bindings fault) :
    dispatcher.evaluate subject =
      ⟨.error (.guardFault position fault), dispatcher.guardsRun subject (position + 1),
        dispatcher.passedTrace subject position ++
          clause.erased dispatcher.classes position subject⟩ := by
  rw [evaluate_of_firstSettled settled,
    evaluateFrom_cons_of_fails _ settled.settles.accepted fails, guardsRun_succ settled.located]
  rfl

theorem evaluate_of_exhausted
    (passed : ∀ position < dispatcher.clauses.length, dispatcher.Passes subject position) :
    dispatcher.evaluate subject =
      ⟨.error (.noClauseAccepted (dispatcher.classes.describe subject.tag) dispatcher.length),
        dispatcher.guardsRun subject dispatcher.length,
        dispatcher.passedTrace subject dispatcher.length ++ [.exhausted dispatcher.length]⟩ := by
  rw [evaluate_of_passed (Nat.le_refl _) passed, List.drop_length, evaluateFrom, Evaluation.after,
    List.append_nil]
  rfl

variable (dispatcher subject)

/-- Either some clause is the first to settle the subject, or no clause settles it. -/
theorem firstSettled_or_passes :
    (∃ position clause bindings, dispatcher.FirstSettled subject position clause bindings) ∨
      ∀ position < dispatcher.clauses.length, dispatcher.Passes subject position := by
  classical
  by_cases settled : ∃ position, ¬dispatcher.Passes subject position
  · obtain ⟨position, unsettled, first⟩ : ∃ position, ¬dispatcher.Passes subject position ∧
        ∀ earlier < position, dispatcher.Passes subject earlier :=
      ⟨Nat.find settled, Nat.find_spec settled,
        fun earlier before => not_not.1 (Nat.find_min settled before)⟩
    simp only [Passes, not_forall, not_not] at unsettled
    obtain ⟨clause, located, bindings, settles⟩ := unsettled
    exact .inl ⟨position, clause, bindings, located, settles, first⟩
  · exact .inr fun position _ => not_not.1 fun unsettled => settled ⟨position, unsettled⟩

/-- The first clause that settles the subject decides the result, the callbacks and the events
of the evaluation; without such a clause the evaluation fails for want of one. A recorder holds
exactly these events. -/
theorem evaluate_first_settled :
    ((∃ position clause bindings, dispatcher.FirstSettled subject position clause bindings) ∨
      ∀ position < dispatcher.clauses.length, dispatcher.Passes subject position) ∧
    (∀ position clause bindings, dispatcher.FirstSettled subject position clause bindings →
      (clause.Admits bindings →
        dispatcher.evaluate subject =
          ⟨(clause.produce (clause.environment bindings)).mapError (.produceFault position),
            dispatcher.guardsRun subject (position + 1) ++ [.produce position],
            dispatcher.passedTrace subject position ++
              clause.erased dispatcher.classes position subject ++ [.selected position]⟩) ∧
      ∀ fault, clause.Fails bindings fault →
        dispatcher.evaluate subject =
          ⟨.error (.guardFault position fault), dispatcher.guardsRun subject (position + 1),
            dispatcher.passedTrace subject position ++
              clause.erased dispatcher.classes position subject⟩) ∧
    ((∀ position < dispatcher.clauses.length, dispatcher.Passes subject position) →
      dispatcher.evaluate subject =
        ⟨.error (.noClauseAccepted (dispatcher.classes.describe subject.tag) dispatcher.length),
          dispatcher.guardsRun subject dispatcher.length,
          dispatcher.passedTrace subject dispatcher.length ++ [.exhausted dispatcher.length]⟩) ∧
    ∀ journal, dispatcher.observer = .recorder →
      (dispatcher.observe journal subject).2.events =
        journal.events ++ (dispatcher.evaluate subject).events := by
  refine ⟨dispatcher.firstSettled_or_passes subject, fun position clause bindings settled =>
    ⟨evaluate_of_selected settled, fun fault => evaluate_of_failed settled⟩,
    evaluate_of_exhausted, fun journal recorded => ?_⟩
  rw [observe, recorded]
  rfl

/-- A guard that answers no leaves the subject to the clause behind. -/
theorem evaluate_first_settled_second :
    let refusing : CompiledClause Nat :=
      ⟨.typeTest (.seq .int), some fun _ => .ok false, [], fun _ => .ok 5⟩
    let selected : CompiledClause Nat := ⟨.wildcard, none, [], fun _ => .ok 7⟩
    let dispatcher : Dispatcher Nat := ⟨[refusing, selected], .empty, .recorder, []⟩
    dispatcher.evaluate (.seq (.whole 0 [.unit])) =
      ⟨.ok 7, [.guard 0, .produce 1],
        [.elementTypeErased ⟨0, "Seq[Int]", "Seq[Any]"⟩, .guardRejected 0, .selected 1]⟩ := by
  intro refusing selected dispatcher
  have refuses : dispatcher.Passes (.seq (.whole 0 [.unit])) 0 := by
    rintro clause located bindings ⟨accepted, answered⟩
    cases located
    obtain admits | ⟨fault, holds, guarded, failed⟩ := answered
    · cases admits _ rfl
    · cases guarded
      cases failed
  have admits : selected.Admits .empty := fun holds guarded => by cases guarded
  have settled : dispatcher.FirstSettled (.seq (.whole 0 [.unit])) 1 selected .empty :=
    ⟨rfl, ⟨rfl, .inl admits⟩, fun earlier before => Nat.lt_one_iff.1 before ▸ refuses⟩
  exact ((dispatcher.evaluate_first_settled _).2.1 1 selected .empty settled).1 admits

end Dispatcher

end PatternDispatch
