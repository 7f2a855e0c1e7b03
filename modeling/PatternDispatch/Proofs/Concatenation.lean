/-
This file proves that dispatchers compose. A dispatcher that is built from two clause lists, one
behind the other, does what the first list does on its own; only where that exhausts all its
clauses does the second list go on, as it would on its own but for the numbers of its clauses.
Every number that a dispatcher shows is counted from its first clause, so evaluating a list from
a later position shifts all of them alike and changes nothing else.
-/
import PatternDispatch.Proofs.FirstMatch
import PatternDispatch.Proofs.Refusal

namespace PatternDispatch

variable {Result : Type}

/-! ### Shifted numbers -/

/-- The call with its clause behind `count` others. -/
def Call.shift (count : Nat) : Call → Call
  | guard clause => guard (clause + count)
  | produce clause => produce (clause + count)

/-- The notice with its clause behind `count` others. -/
def ErasureNotice.shift (count : Nat) (notice : ErasureNotice) : ErasureNotice :=
  { notice with clause := notice.clause + count }

/-- The event with its clause, or the number of clauses tried, counted from `count` others on. -/
def Event.shift (count : Nat) : Event → Event
  | patternRejected clause => patternRejected (clause + count)
  | guardRejected clause => guardRejected (clause + count)
  | selected clause => selected (clause + count)
  | exhausted clausesTried => exhausted (clausesTried + count)
  | elementTypeErased notice => elementTypeErased (notice.shift count)

/-- The error with its clause, or the number of clauses tried, counted from `count` others on. -/
def EvaluationError.shift (count : Nat) : EvaluationError → EvaluationError
  | noClauseAccepted subjectTag clausesTried => noClauseAccepted subjectTag (clausesTried + count)
  | guardFault clause fault => guardFault (clause + count) fault
  | produceFault clause fault => produceFault (clause + count) fault

/-- The test with its clause behind `count` others. -/
def UncheckedTest.shift (count : Nat) (test : UncheckedTest) : UncheckedTest :=
  { test with clause := test.clause + count }

/-- The evaluation of the same clauses behind `count` others. -/
def Evaluation.shift (count : Nat) (evaluation : Evaluation Result) : Evaluation Result :=
  ⟨evaluation.result.mapError (·.shift count), evaluation.calls.map (·.shift count),
    evaluation.events.map (·.shift count)⟩

theorem Evaluation.shift_after (count : Nat) (evaluation : Evaluation Result) (calls : List Call)
    (events : List Event) :
    (evaluation.after calls events).shift count =
      (evaluation.shift count).after (calls.map (·.shift count)) (events.map (·.shift count)) := by
  simp only [shift, after, List.map_append]

theorem CompiledClause.select_add (clause : CompiledClause Result) (index count : Nat)
    (environment : Environment) :
    clause.select (index + count) environment = (clause.select index environment).shift count := by
  unfold select Evaluation.shift
  cases clause.produce environment <;> rfl

/-- The notices of an attempt carry the number of its clause; the outcome does not depend on it. -/
theorem Pattern.attempt_add (pattern : Pattern) (classes : ClassTable) (index count : Nat)
    (subject : Value) :
    pattern.attempt classes (index + count) subject =
      ⟨(pattern.attempt classes index subject).outcome,
        (pattern.attempt classes index subject).notices.map (·.shift count)⟩ := by
  unfold attempt
  cases pattern.extract classes subject with
  | none => rfl
  | some capture =>
    simp only [List.map_map]
    rfl

theorem map_erased_shift (notices : List ErasureNotice) (count : Nat) :
    (notices.map (·.shift count)).map Event.elementTypeErased =
      (notices.map Event.elementTypeErased).map (·.shift count) := by
  simp only [List.map_map]
  rfl

/-- Clauses do the same from any position, but for the shift of all numbers. -/
theorem evaluateFrom_add (classes : ClassTable) (subject : Value) (index count : Nat)
    (clauses : List (CompiledClause Result)) :
    evaluateFrom classes subject (index + count) clauses =
      (evaluateFrom classes subject index clauses).shift count := by
  induction clauses generalizing index with
  | nil => rfl
  | cons clause later inductionHypothesis =>
    have behind : evaluateFrom classes subject (index + count + 1) later =
        (evaluateFrom classes subject (index + 1) later).shift count := by
      rw [Nat.add_right_comm]
      exact inductionHypothesis (index + 1)
    -- Both sides take the same branch, since outcomes and guards do not depend on the position.
    rw [evaluateFrom, evaluateFrom, Pattern.attempt_add, behind]
    cases clause.pattern.attempt classes index subject with
    | mk outcome notices =>
      cases outcome with
      | rejected =>
        simp only [Evaluation.shift_after]
        rfl
      | accepted bindings =>
        simp only [CompiledClause.select_add, map_erased_shift]
        cases clause.holds with
        | none =>
          simp only [Evaluation.shift_after]
          rfl
        | some holds =>
          dsimp only
          cases holds (clause.environment bindings) with
          | error fault => rfl
          | ok verdict =>
            cases verdict with
            | true =>
              simp only [Evaluation.shift_after]
              rfl
            | false =>
              simp only [Evaluation.shift_after, List.map_append]
              rfl

theorem uncheckedFrom_add (classes : ClassTable) (index count : Nat)
    (clauses : List (CompiledClause Result)) :
    uncheckedFrom classes (index + count) clauses =
      (uncheckedFrom classes index clauses).map (·.shift count) := by
  induction clauses generalizing index with
  | nil => rfl
  | cons clause later inductionHypothesis =>
    have own : clause.uncheckedTests classes (index + count) =
        (clause.uncheckedTests classes index).map (·.shift count) := by
      simp only [CompiledClause.uncheckedTests, List.map_map]
      rfl
    rw [uncheckedFrom_cons, uncheckedFrom_cons, List.map_append, own, Nat.add_right_comm,
      inductionHypothesis]

theorem uncheckedFrom_append (classes : ClassTable) (index : Nat)
    (front back : List (CompiledClause Result)) :
    uncheckedFrom classes index (front ++ back) =
      uncheckedFrom classes index front ++ uncheckedFrom classes (index + front.length) back := by
  simp only [uncheckedFrom, List.zipIdx_append, List.flatMap_append]

namespace Dispatcher

/-- The clauses of the second dispatcher behind those of the first. -/
def followedBy (first second : Dispatcher Result) : Dispatcher Result :=
  ⟨first.clauses ++ second.clauses, first.classes, first.observer,
    first.warnings ++ second.warnings.map (·.shift first.length)⟩

/-! ### Building -/

theorem outcome_build_append {surroundings : Surroundings} {observer : Observer}
    {front back : List (Clause Result)} {first second : Dispatcher Result}
    (builtFirst : (build surroundings observer front).outcome = .ok first)
    (builtSecond : (build surroundings observer back).outcome = .ok second) :
    (build surroundings observer (front ++ back)).outcome = .ok (first.followedBy second) := by
  have ofFront := builtFrom_of_build builtFirst
  have ofBack := builtFrom_of_build builtSecond
  have each := List.rel_append ofFront.compiled ofBack.compiled
  rw [build_of_compiled each, ofCompiled, followedBy, ofFront.classes, ofFront.observer,
    ofFront.warnings, ofBack.warnings, ofFront.classes, ofBack.classes, uncheckedFrom_append,
    uncheckedFrom_add]
  rfl

/-- A dispatcher consists of the one that its first `count` clauses make and of another one behind
it. -/
theorem exists_eq_followedBy {surroundings : Surroundings} {observer : Observer}
    {clauses : List (Clause Result)} {dispatcher : Dispatcher Result}
    (built : (build surroundings observer clauses).outcome = .ok dispatcher) (count : Nat) :
    ∃ front back, (build surroundings observer (clauses.take count)).outcome = .ok front ∧
      dispatcher = front.followedBy back := by
  have sound := exists_build_iff.1 ⟨dispatcher, built⟩
  obtain ⟨front, builtFront⟩ : ∃ front,
      (build surroundings observer (clauses.take count)).outcome = .ok front :=
    exists_build_iff.2 fun clause member => sound clause (List.mem_of_mem_take member)
  obtain ⟨back, builtBack⟩ : ∃ back,
      (build surroundings observer (clauses.drop count)).outcome = .ok back :=
    exists_build_iff.2 fun clause member => sound clause (List.mem_of_mem_drop member)
  have joined := outcome_build_append builtFront builtBack
  rw [List.take_append_drop] at joined
  exact ⟨front, back, builtFront, Except.ok.inj (built.symm.trans joined)⟩

/-! ### Evaluating -/

section Evaluate

variable {first second : Dispatcher Result} {subject : Value} {position : Nat}

theorem passes_followedBy_iff (inside : position < first.clauses.length) :
    (first.followedBy second).Passes subject position ↔ first.Passes subject position := by
  unfold Passes followedBy
  rw [List.getElem?_append_left inside]

theorem guardsRun_followedBy {count : Nat} (inside : count ≤ first.clauses.length) :
    (first.followedBy second).guardsRun subject count = first.guardsRun subject count := by
  unfold guardsRun followedBy
  rw [List.take_append_of_le_length inside]

theorem passedTrace_followedBy {count : Nat} (inside : count ≤ first.clauses.length) :
    (first.followedBy second).passedTrace subject count = first.passedTrace subject count := by
  unfold passedTrace followedBy
  rw [List.take_append_of_le_length inside]

/-- Clauses behind the first one that settles the subject do not matter. -/
theorem evaluate_followedBy_of_firstSettled {clause : CompiledClause Result} {bindings : Bindings}
    (settled : first.FirstSettled subject position clause bindings) :
    (first.followedBy second).evaluate subject = first.evaluate subject := by
  have inside := (List.getElem?_eq_some_iff.1 settled.located).1
  have joined : (first.followedBy second).FirstSettled subject position clause bindings := by
    refine ⟨?_, settled.settles, fun earlier ahead => ?_⟩
    · exact (List.getElem?_append_left inside).trans settled.located
    · exact (passes_followedBy_iff (Nat.lt_trans ahead inside)).2 (settled.first earlier ahead)
  obtain admits | ⟨fault, fails⟩ := settled.settles.answered
  · rw [evaluate_of_selected joined admits, evaluate_of_selected settled admits,
      guardsRun_followedBy inside, passedTrace_followedBy (Nat.le_of_lt inside)]
    rfl
  · rw [evaluate_of_failed joined fails, evaluate_of_failed settled fails,
      guardsRun_followedBy inside, passedTrace_followedBy (Nat.le_of_lt inside)]
    rfl

/-- If no clause in front settles the subject, the clauses behind do what they do on their own. -/
theorem evaluate_followedBy_of_passes (sameClasses : second.classes = first.classes)
    (passed : ∀ position < first.clauses.length, first.Passes subject position) :
    (first.followedBy second).evaluate subject =
      ((second.evaluate subject).shift first.length).after (first.guardsRun subject first.length)
        (first.passedTrace subject first.length) := by
  have inside : first.clauses.length ≤ (first.followedBy second).clauses.length := by
    simp only [followedBy, List.length_append, Nat.le_add_right]
  have behind : (first.followedBy second).clauses.drop first.clauses.length = second.clauses :=
    List.drop_left
  have restart : (first.followedBy second).evaluate subject = _ :=
    evaluate_of_passed inside fun earlier ahead =>
      (passes_followedBy_iff ahead).2 (passed earlier ahead)
  have shifted := evaluateFrom_add first.classes subject 0 first.clauses.length second.clauses
  rw [Nat.zero_add] at shifted
  rw [restart, behind, guardsRun_followedBy (Nat.le_refl _),
    passedTrace_followedBy (Nat.le_refl _), evaluate, sameClasses]
  exact congrArg (Evaluation.after · _ _) shifted

theorem result_ne_noClauseAccepted {clause : CompiledClause Result} {bindings : Bindings}
    (settled : first.FirstSettled subject position clause bindings) (tag : String) (tried : Nat) :
    (first.evaluate subject).result ≠ .error (.noClauseAccepted tag tried) := by
  obtain admits | ⟨fault, fails⟩ := settled.settles.answered
  · rw [evaluate_of_selected settled admits]
    cases clause.produce (clause.environment bindings) <;> nofun
  · rw [evaluate_of_failed settled fails]
    nofun

end Evaluate

/-- Two lists that are built make one that is built. It does what the first list does unless that
exhausts its clauses; then the events of the first list but for the last are followed by those of
the second, whose clauses are counted from behind the first. -/
theorem build_append_composes {surroundings : Surroundings} {observer : Observer}
    {front back : List (Clause Result)} {first second : Dispatcher Result}
    (builtFirst : (build surroundings observer front).outcome = .ok first)
    (builtSecond : (build surroundings observer back).outcome = .ok second) :
    ∃ joined, (build surroundings observer (front ++ back)).outcome = .ok joined ∧
      joined.clauses = first.clauses ++ second.clauses ∧
      joined.warnings = first.warnings ++ second.warnings.map (·.shift front.length) ∧
      ∀ subject,
        ((∀ tag tried, (first.evaluate subject).result ≠ .error (.noClauseAccepted tag tried)) →
          joined.evaluate subject = first.evaluate subject) ∧
        ∀ tag tried, (first.evaluate subject).result = .error (.noClauseAccepted tag tried) →
          ∃ passed, (first.evaluate subject).events = passed ++ [.exhausted front.length] ∧
            joined.evaluate subject =
              ((second.evaluate subject).shift front.length).after
                (first.evaluate subject).calls passed := by
  have ofFront := builtFrom_of_build builtFirst
  have ofBack := builtFrom_of_build builtSecond
  have counted : first.length = front.length := ofFront.compiled.length_eq.symm
  have sameClasses : second.classes = first.classes := ofBack.classes.trans ofFront.classes.symm
  have warnings : (first.followedBy second).warnings =
      first.warnings ++ second.warnings.map (·.shift front.length) := by
    rw [followedBy, counted]
  refine ⟨first.followedBy second, outcome_build_append builtFirst builtSecond, rfl, warnings,
    fun subject => ?_⟩
  obtain ⟨position, clause, bindings, settled⟩ | passed := first.firstSettled_or_passes subject
  · refine ⟨fun _ => evaluate_followedBy_of_firstSettled settled, fun tag tried exhausted => ?_⟩
    exact absurd exhausted (result_ne_noClauseAccepted settled tag tried)
  · have alone := evaluate_of_exhausted passed
    have joined := evaluate_followedBy_of_passes sameClasses passed
    refine ⟨fun settled => ?_, fun tag tried _ => ⟨first.passedTrace subject first.length, ?_, ?_⟩⟩
    · exact absurd (congrArg Evaluation.result alone) (settled _ _)
    · rw [alone, counted]
    · rw [joined, alone, counted]

/-- The guard of the first list answers no, so the second list goes on. Its clauses are counted
behind the one in front, in the result, in the events, in the notices and in the warnings. -/
theorem build_append_composes_three :
    let surroundings : Surroundings := ⟨.start, .start, .empty⟩
    let refusing : Clause Nat :=
      (Clause.returning (.typed (.seq .int)) 5).guarded ⟨[], fun _ => .ok false⟩
    let failing : Clause Nat :=
      .unguarded (.typed (.seq .bool)) fun _ => .error (.ofMessage "empty")
    let front := [refusing]
    let back := [.returning (.literal .unit) 7, failing]
    let subject : Value := .seq (.whole 0 [.unit])
    ∃ joined : Dispatcher Nat,
      (build surroundings .recorder (front ++ back)).outcome = .ok joined ∧
      joined.warnings = [⟨0, "Seq[Int]"⟩, ⟨2, "Seq[Bool]"⟩] ∧
      joined.evaluate subject =
        ⟨.error (.produceFault 2 (.ofMessage "empty")), [.guard 0, .produce 2],
          [.elementTypeErased ⟨0, "Seq[Int]", "Seq[Any]"⟩, .guardRejected 0, .patternRejected 1,
            .elementTypeErased ⟨2, "Seq[Bool]", "Seq[Any]"⟩, .selected 2]⟩ := by
  intro surroundings refusing failing front back subject
  have builtFirst : (build surroundings .recorder front).outcome = .ok _ := rfl
  have builtSecond : (build surroundings .recorder back).outcome = .ok _ := rfl
  obtain ⟨joined, built, -, warnings, runs⟩ := build_append_composes builtFirst builtSecond
  obtain ⟨passed, trace, run⟩ := (runs subject).2 "Seq[Any]" 1 rfl
  have split : [.elementTypeErased ⟨0, "Seq[Int]", "Seq[Any]"⟩, .guardRejected 0] ++
      [.exhausted 1] = passed ++ [Event.exhausted 1] := trace
  rw [← List.append_cancel_right split] at run
  refine ⟨joined, built, warnings, ?_⟩
  rw [run]
  rfl

end Dispatcher

end PatternDispatch
