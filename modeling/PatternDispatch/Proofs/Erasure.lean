/-
This file proves that the type tests a dispatcher warns about when it is built are those it
erases when it runs. A clause that accepts a subject reports one notice for each of its
warnings, in their order; a clause that rejects reports none, however many tests had passed
by then. So a dispatcher without warnings never reports an erased type test.
-/
import PatternDispatch.Proofs.Building
import PatternDispatch.Proofs.FirstMatch
import PatternDispatch.Proofs.Traversal

namespace PatternDispatch

variable {Result : Type}

/-! ### Attempts -/

/-- The type test that a notice is about. -/
def ErasureNotice.test (notice : ErasureNotice) : UncheckedTest := ⟨notice.clause, notice.expected⟩

namespace Pattern

variable {classes : ClassTable} {index : Nat} {subject : Value} {pattern : Pattern}

theorem notices_of_rejected
    (rejected : (pattern.attempt classes index subject).outcome = .rejected) :
    (pattern.attempt classes index subject).notices = [] := by
  unfold attempt at rejected ⊢
  cases found : pattern.extract classes subject with
  | none => rfl
  | some capture => rw [found] at rejected; cases rejected

theorem clause_of_mem_notices {notice : ErasureNotice}
    (member : notice ∈ (pattern.attempt classes index subject).notices) :
    notice.clause = index := by
  unfold attempt at member
  cases found : pattern.extract classes subject with
  | none => rw [found] at member; cases member
  | some capture =>
    rw [found] at member
    obtain ⟨erasure, -, rfl⟩ := List.mem_map.1 member
    rfl

end Pattern

/-- An accepting clause reports the type tests that it cannot check in full. -/
theorem CompiledClause.tests_of_accepted {clause : CompiledClause Result} {classes : ClassTable}
    {index : Nat} {subject : Value} {bindings : Bindings}
    (accepted : (clause.pattern.attempt classes index subject).outcome = .accepted bindings) :
    (clause.pattern.attempt classes index subject).notices.map ErasureNotice.test =
      clause.uncheckedTests classes index := by
  unfold Pattern.attempt at accepted ⊢
  cases found : clause.pattern.extract classes subject with
  | none => rw [found] at accepted; cases accepted
  | some capture =>
    have tags := (Pattern.extract_eq_some_iff.1 found).expected_eq_uncheckedTags
    rw [uncheckedTests, ← tags, List.map_map, List.map_map]
    rfl

/-! ### Evaluations -/

/-- The notice that an event carries. -/
def Event.notice? : Event → Option ErasureNotice
  | elementTypeErased notice => some notice
  | _ => none

/-- The notices that an evaluation reports, in order. -/
def Evaluation.notices (evaluation : Evaluation Result) : List ErasureNotice :=
  evaluation.events.filterMap Event.notice?

theorem Evaluation.mem_notices {evaluation : Evaluation Result} {notice : ErasureNotice} :
    notice ∈ evaluation.notices ↔ .elementTypeErased notice ∈ evaluation.events := by
  rw [notices, List.mem_filterMap]
  constructor
  · rintro ⟨event, member, carried⟩
    cases event with
    | elementTypeErased other => cases carried; exact member
    | _ => cases carried
  · exact fun member => ⟨_, member, rfl⟩

/-- The notices of these clauses, the first of which has position `index`. -/
def noticesFrom (classes : ClassTable) (subject : Value) (index : Nat)
    (clauses : List (CompiledClause Result)) : List ErasureNotice :=
  (clauses.zipIdx index).flatMap fun numbered =>
    (numbered.1.pattern.attempt classes numbered.2 subject).notices

section Events

variable (classes : ClassTable) (subject : Value) (index : Nat)

theorem filterMap_erased (clause : CompiledClause Result) :
    (clause.erased classes index subject).filterMap Event.notice? =
      (clause.pattern.attempt classes index subject).notices := by
  rw [CompiledClause.erased, List.filterMap_map]
  exact List.filterMap_some

theorem filterMap_passedEvents (clause : CompiledClause Result) :
    (clause.passedEvents classes index subject).filterMap Event.notice? =
      (clause.pattern.attempt classes index subject).notices := by
  unfold CompiledClause.passedEvents
  cases outcome : (clause.pattern.attempt classes index subject).outcome with
  | rejected => exact (Pattern.notices_of_rejected outcome).symm
  | accepted bindings =>
    rw [List.filterMap_append, filterMap_erased]
    exact List.append_nil _

theorem filterMap_passedFrom (clauses : List (CompiledClause Result)) :
    (passedFrom classes subject index clauses).filterMap Event.notice? =
      noticesFrom classes subject index clauses := by
  unfold passedFrom noticesFrom
  rw [List.filterMap_flatMap]
  exact congrArg (List.flatMap · _) (funext fun numbered => filterMap_passedEvents _ _ _ _)

end Events

namespace Dispatcher

variable (dispatcher : Dispatcher Result) (subject : Value)

variable {dispatcher subject} in
theorem notices_of_firstSettled {position : Nat} {clause : CompiledClause Result}
    {bindings : Bindings} (settled : dispatcher.FirstSettled subject position clause bindings) :
    (dispatcher.evaluate subject).notices =
      noticesFrom dispatcher.classes subject 0 (dispatcher.clauses.take (position + 1)) := by
  have tried : noticesFrom dispatcher.classes subject 0 (dispatcher.clauses.take (position + 1)) =
      (dispatcher.passedTrace subject position ++
        clause.erased dispatcher.classes position subject).filterMap Event.notice? := by
    rw [List.filterMap_append, passedTrace, filterMap_passedFrom, filterMap_erased]
    exact flatMap_zipIdx_take_succ settled.located fun clause index =>
      (clause.pattern.attempt dispatcher.classes index subject).notices
  rw [tried, Evaluation.notices]
  obtain admits | ⟨fault, fails⟩ := settled.settles.answered
  · rw [evaluate_of_selected settled admits, List.filterMap_append]
    exact List.append_nil _
  · rw [evaluate_of_failed settled fails]

/-- An evaluation reports the notices of the clauses that it tries. It tries the clause at a
position if no clause in front settles the subject. -/
theorem exists_tried :
    ∃ tried, (dispatcher.evaluate subject).notices =
        noticesFrom dispatcher.classes subject 0 (dispatcher.clauses.take tried) ∧
      ∀ position < dispatcher.clauses.length,
        position < tried ↔ ∀ earlier < position, dispatcher.Passes subject earlier := by
  obtain ⟨position, clause, bindings, settled⟩ | passed :=
    dispatcher.firstSettled_or_passes subject
  · refine ⟨position + 1, notices_of_firstSettled settled, fun other _ => ⟨fun before => ?_,
      fun passed => ?_⟩⟩
    · exact fun earlier ahead => settled.first earlier (by omega)
    · by_contra behind
      exact passed position (by omega) clause settled.located bindings settled.settles
  · refine ⟨dispatcher.clauses.length, ?_, fun position inside => ⟨fun _ earlier ahead => ?_,
      fun _ => inside⟩⟩
    · rw [evaluate_of_exhausted passed, Evaluation.notices, List.filterMap_append, passedTrace,
        filterMap_passedFrom]
      exact List.append_nil _
    · exact passed earlier (Nat.lt_trans ahead inside)

/-- The notices of a clause in an evaluation: those of its attempt if the clause is tried. -/
theorem filter_notices {position : Nat} {clause : CompiledClause Result}
    (located : dispatcher.clauses[position]? = some clause) :
    ((∀ earlier < position, dispatcher.Passes subject earlier) →
      (dispatcher.evaluate subject).notices.filter (·.clause = position) =
        (clause.pattern.attempt dispatcher.classes position subject).notices) ∧
    (¬(∀ earlier < position, dispatcher.Passes subject earlier) →
      (dispatcher.evaluate subject).notices.filter (·.clause = position) = []) := by
  obtain ⟨tried, reported, reached⟩ := dispatcher.exists_tried subject
  have atPosition := filter_flatMap_zipIdx (dispatcher.clauses.take tried) 0 position
    (fun clause index => (clause.pattern.attempt dispatcher.classes index subject).notices)
    (·.clause) fun clause index notice => Pattern.clause_of_mem_notices
  rw [Nat.zero_add, List.getElem?_take, located] at atPosition
  rw [reported, noticesFrom, atPosition,
    ← reached position (List.getElem?_eq_some_iff.1 located).1]
  refine ⟨fun before => ?_, fun behind => ?_⟩
  · rw [if_pos before]
    exact List.flatMap_singleton _ clause
  · rw [if_neg behind]
    rfl

end Dispatcher

/-! ### Warnings and notices -/

namespace Dispatcher

section Built

variable {surroundings : Surroundings} {observer : Observer} {clauses : List (Clause Result)}
  {dispatcher : Dispatcher Result}

namespace BuiltFrom

variable (built : dispatcher.BuiltFrom surroundings observer clauses) {position : Nat}
  {clause : CompiledClause Result} (located : dispatcher.clauses[position]? = some clause)
  {subject : Value}

include built located

theorem tests_eq_warnings {bindings : Bindings}
    (accepted : (clause.pattern.attempt dispatcher.classes position subject).outcome =
      .accepted bindings) :
    (clause.pattern.attempt dispatcher.classes position subject).notices.map ErasureNotice.test =
      dispatcher.warnings.filter (·.clause = position) := by
  rw [CompiledClause.tests_of_accepted accepted, built.warnings_at located]

theorem notices_eq_nil (unwarned : dispatcher.warnings = []) :
    (clause.pattern.attempt dispatcher.classes position subject).notices = [] := by
  cases outcome : (clause.pattern.attempt dispatcher.classes position subject).outcome with
  | rejected => exact Pattern.notices_of_rejected outcome
  | accepted bindings =>
    have tests := built.tests_eq_warnings located outcome
    rw [unwarned] at tests
    exact List.map_eq_nil_iff.1 tests

end BuiltFrom

theorem BuiltFrom.evaluate_notices_eq_nil
    (built : dispatcher.BuiltFrom surroundings observer clauses)
    (unwarned : dispatcher.warnings = []) (subject : Value) :
    (dispatcher.evaluate subject).notices = [] := by
  obtain ⟨tried, reported, -⟩ := dispatcher.exists_tried subject
  rw [reported, noticesFrom, List.flatMap_eq_nil_iff]
  intro numbered member
  have located := List.mem_zipIdx_iff_getElem?.1 member
  rw [List.getElem?_take, Option.ite_none_right_eq_some] at located
  exact built.notices_eq_nil located.2 unwarned

/-- A clause that accepts reports one notice for each of its warnings, in their order, and a
clause that rejects reports none. An evaluation passes on the notices of the clauses that it
tries, so nothing is ever erased by a dispatcher without warnings. -/
theorem notices_agree_with_warnings
    (built : (Dispatcher.build surroundings observer clauses).outcome = .ok dispatcher) :
    (∀ position clause, dispatcher.clauses[position]? = some clause → ∀ subject,
      (∀ bindings, (clause.pattern.attempt dispatcher.classes position subject).outcome =
          .accepted bindings →
        (clause.pattern.attempt dispatcher.classes position subject).notices.map
            ErasureNotice.test =
          dispatcher.warnings.filter (·.clause = position)) ∧
      ((clause.pattern.attempt dispatcher.classes position subject).outcome = .rejected →
        (clause.pattern.attempt dispatcher.classes position subject).notices = []) ∧
      ((∀ earlier < position, dispatcher.Passes subject earlier) →
        (dispatcher.evaluate subject).notices.filter (·.clause = position) =
          (clause.pattern.attempt dispatcher.classes position subject).notices) ∧
      (¬(∀ earlier < position, dispatcher.Passes subject earlier) →
        (dispatcher.evaluate subject).notices.filter (·.clause = position) = [])) ∧
    (dispatcher.warnings = [] → ∀ subject notice,
      .elementTypeErased notice ∉ (dispatcher.evaluate subject).events) := by
  have origin := builtFrom_of_build built
  refine ⟨fun position clause located subject => ?_, fun unwarned subject notice member => ?_⟩
  · obtain ⟨tried, behind⟩ := dispatcher.filter_notices subject located
    exact ⟨fun bindings => origin.tests_eq_warnings located, Pattern.notices_of_rejected, tried,
      behind⟩
  · have carried := Evaluation.mem_notices.2 member
    rw [origin.evaluate_notices_eq_nil unwarned] at carried
    cases carried

end Built

/-- The test of the first part is reported if the second part accepts as well, and withheld if
that rejects. -/
theorem notices_agree_with_warnings_pair :
    let written : WrittenPattern := .tuple [.typed (.seq .int), .literal (.bool true)]
    let pattern : Pattern := .tuple [.typeTest (.seq .int), .literal (.bool true)]
    let view : View Value := .whole 0 [.unit]
    let clause : CompiledClause Nat := ⟨pattern, none, [], fun _ => .ok 7⟩
    let dispatcher : Dispatcher Nat := ⟨[clause], .empty, .recorder, [⟨0, "Seq[Int]"⟩]⟩
    (build ⟨.start, .start, .empty⟩ .recorder [.returning written 7]).outcome = .ok dispatcher ∧
      (pattern.attempt .empty 0 (.tuple 1 [.seq view, .bool true])).notices.map
        ErasureNotice.test = [⟨0, "Seq[Int]"⟩] ∧
      (pattern.attempt .empty 0 (.tuple 1 [.seq view, .bool false])).notices = [] := by
  intro written pattern view clause dispatcher
  have built : (build ⟨.start, .start, .empty⟩ .recorder [.returning written 7]).outcome =
    .ok dispatcher := rfl
  obtain ⟨atClause, -⟩ := notices_agree_with_warnings built
  refine ⟨built, ?_, ?_⟩
  · exact (atClause 0 clause rfl (.tuple 1 [.seq view, .bool true])).1 .empty rfl
  · exact (atClause 0 clause rfl (.tuple 1 [.seq view, .bool false])).2.1 rfl

end Dispatcher

end PatternDispatch
