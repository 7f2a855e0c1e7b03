/-
This file proves that the irrefutable patterns are those that accept every value, and that no
clause behind an unguarded irrefutable one is ever tried. Two values refute all other patterns,
whatever the classes are: the unit value and a truth value differ from each other, share no tag
but `any`, and are neither sequences nor tuples. A clause that accepts every value settles every
subject unless a clause in front of it does, so each evaluation ends with it at the latest.
-/
import PatternDispatch.Proofs.Concatenation
import PatternDispatch.Proofs.Erasure

namespace PatternDispatch

variable {Result : Type}

/-! ### Patterns -/

/-- No value equals both the unit value and a truth value. -/
theorem Value.not_equals_both {value : Value} (unit : Value.unit.equals value = true) :
    ¬(Value.bool true).equals value = true := by
  cases value with
  | unit => nofun
  | _ => cases unit

namespace Pattern

variable {classes : ClassTable} {pattern : Pattern}

theorem exists_finds (irrefutable : pattern.isIrrefutable = true) (subject : Value) :
    ∃ capture, Finds classes pattern subject capture := by
  induction pattern using Pattern.induction with
  | wildcard => exact ⟨_, .wildcard⟩
  | binder name => exact ⟨_, .binder⟩
  | typeTest tag =>
    cases of_decide_eq_true irrefutable
    refine ⟨_, .checked ?_⟩
    rw [Value.checkTag, ClassTable.conforms]
  | bound name inner within =>
    obtain ⟨capture, found⟩ := within irrefutable
    exact ⟨_, .bound found⟩
  | _ => cases irrefutable

/-- A pattern that finds something in the unit value and in a truth value is irrefutable. -/
theorem isIrrefutable_of_finds {inUnit inTruth : Capture}
    (unit : Finds classes pattern .unit inUnit)
    (truth : Finds classes pattern (.bool true) inTruth) : pattern.isIrrefutable = true := by
  induction pattern using Pattern.induction generalizing inUnit inTruth with
  | literal value =>
    cases unit with
    | literal equalUnit =>
      cases truth with
      | literal equalTruth => exact (Value.not_equals_both equalUnit equalTruth).elim
  | stableReference name value =>
    cases unit with
    | stableReference equalUnit =>
      cases truth with
      | stableReference equalTruth => exact (Value.not_equals_both equalUnit equalTruth).elim
  | wildcard | binder name => rfl
  | typeTest tag =>
    cases tag with
    | any => rfl
    | unit => exact absurd rfl truth.checkTag_ne_rejected
    | _ => exact absurd rfl unit.checkTag_ne_rejected
  | bound name inner within =>
    cases unit with
    | bound inUnit =>
      cases truth with
      | bound inTruth => exact within inUnit inTruth
  | fixedSequence | sequenceHead | headTail | initLast | emptySequence =>
    cases unit
    cases ‹Value.unit.asView = some _›
  | tuple =>
    cases unit
    cases ‹Value.unit.asTuple = some _›

/-- The irrefutable patterns are those that accept every value. -/
theorem isIrrefutable_iff (pattern : Pattern) (classes : ClassTable) (clause : Nat) :
    pattern.isIrrefutable = true ↔
      ∀ subject, ∃ bindings,
        (pattern.attempt classes clause subject).outcome = .accepted bindings := by
  simp only [exists_accepted_iff]
  refine ⟨exists_finds, fun finds => ?_⟩
  obtain ⟨inUnit, unit⟩ := finds .unit
  obtain ⟨inTruth, truth⟩ := finds (.bool true)
  exact isIrrefutable_of_finds unit truth

end Pattern

/-! ### The clauses that an evaluation shows -/

/-- The clause whose callback ran. -/
def Call.clause : Call → Nat
  | guard clause | produce clause => clause

/-- The clause that an event is about; that all clauses are exhausted is about none of them. -/
def Event.clause? : Event → Option Nat
  | patternRejected clause | guardRejected clause | selected clause => some clause
  | exhausted _ => none
  | elementTypeErased notice => some notice.clause

/-- The evaluation comes to an answer at this position at the latest: it does not fail for want
of an accepting clause, and it neither runs nor reports anything of the clauses behind. -/
structure Evaluation.EndsBy (evaluation : Evaluation Result) (position : Nat) : Prop where
  answered : ∀ tag tried, evaluation.result ≠ .error (.noClauseAccepted tag tried)
  calls : ∀ call ∈ evaluation.calls, call.clause ≤ position
  events : ∀ event ∈ evaluation.events, ∃ clause ≤ position, event.clause? = some clause

theorem Evaluation.EndsBy.mono {evaluation : Evaluation Result} {position later : Nat}
    (ends : evaluation.EndsBy position) (before : position ≤ later) :
    evaluation.EndsBy later where
  answered := ends.answered
  calls call called := Nat.le_trans (ends.calls call called) before
  events event reported :=
    have ⟨clause, inside, own⟩ := ends.events event reported
    ⟨clause, Nat.le_trans inside before, own⟩

namespace CompiledClause

variable {clause : CompiledClause Result} {classes : ClassTable} {index : Nat} {subject : Value}
  {event : Event}

theorem clause?_of_mem_erased (member : event ∈ clause.erased classes index subject) :
    event.clause? = some index := by
  obtain ⟨notice, reported, rfl⟩ := List.mem_map.1 member
  exact congrArg some (Pattern.clause_of_mem_notices reported)

theorem clause?_of_mem_passedEvents (member : event ∈ clause.passedEvents classes index subject) :
    event.clause? = some index := by
  unfold passedEvents at member
  split at member
  · cases List.mem_singleton.1 member
    rfl
  · obtain erased | last := List.mem_append.1 member
    · exact clause?_of_mem_erased erased
    · cases List.mem_singleton.1 last
      rfl

end CompiledClause

theorem index_lt_of_mem_zipIdx_take {Item : Type} {items : List Item} {count : Nat}
    {numbered : Item × Nat} (member : numbered ∈ (items.take count).zipIdx) :
    numbered.2 < count := by
  have bound := (List.mem_zipIdx member).2.1
  rw [Nat.zero_add, List.length_take] at bound
  exact Nat.lt_of_lt_of_le bound (Nat.min_le_left _ _)

namespace Dispatcher

variable {dispatcher : Dispatcher Result} {subject : Value} {position count : Nat}

theorem clause_lt_of_mem_guardsRun {call : Call}
    (called : call ∈ dispatcher.guardsRun subject count) : call.clause < count := by
  obtain ⟨numbered, inside, own⟩ := List.mem_flatMap.1 called
  rw [CompiledClause.eq_guard_of_mem_guardCalls own]
  exact index_lt_of_mem_zipIdx_take inside

theorem exists_clause_of_mem_passedTrace {event : Event}
    (reported : event ∈ dispatcher.passedTrace subject count) :
    ∃ clause < count, event.clause? = some clause := by
  obtain ⟨numbered, inside, own⟩ := List.mem_flatMap.1 reported
  exact ⟨numbered.2, index_lt_of_mem_zipIdx_take inside,
    CompiledClause.clause?_of_mem_passedEvents own⟩

/-- The first clause that settles the subject ends the evaluation. -/
theorem FirstSettled.endsBy {clause : CompiledClause Result} {bindings : Bindings}
    (settled : dispatcher.FirstSettled subject position clause bindings) :
    (dispatcher.evaluate subject).EndsBy position := by
  have guards : ∀ call ∈ dispatcher.guardsRun subject (position + 1), call.clause ≤ position :=
    fun call called => Nat.le_of_lt_succ (clause_lt_of_mem_guardsRun called)
  have tried : ∀ event ∈ dispatcher.passedTrace subject position ++
      clause.erased dispatcher.classes position subject,
      ∃ clause ≤ position, event.clause? = some clause := by
    intro event reported
    obtain passed | own := List.mem_append.1 reported
    · obtain ⟨earlier, before, about⟩ := exists_clause_of_mem_passedTrace passed
      exact ⟨earlier, Nat.le_of_lt before, about⟩
    · exact ⟨position, Nat.le_refl _, CompiledClause.clause?_of_mem_erased own⟩
  have answered := result_ne_noClauseAccepted settled
  obtain admits | ⟨fault, fails⟩ := settled.settles.answered
  · refine ⟨answered, ?_, ?_⟩ <;> rw [evaluate_of_selected settled admits]
    · exact List.forall_mem_append.2 ⟨guards, List.forall_mem_singleton.2 (Nat.le_refl _)⟩
    · exact List.forall_mem_append.2
        ⟨tried, List.forall_mem_singleton.2 ⟨position, Nat.le_refl _, rfl⟩⟩
  · refine ⟨answered, ?_, ?_⟩ <;> rw [evaluate_of_failed settled fails]
    · exact guards
    · exact tried

end Dispatcher

/-! ### Clauses that catch all subjects -/

/-- The clause has no guard, and its pattern accepts every value. -/
structure CompiledClause.CatchesAll (clause : CompiledClause Result) : Prop where
  unguarded : clause.holds = none
  irrefutable : clause.pattern.isIrrefutable = true

theorem CompiledClause.CatchesAll.settles {clause : CompiledClause Result}
    (catches : clause.CatchesAll) (classes : ClassTable) (index : Nat) (subject : Value) :
    ∃ bindings, clause.Settles classes index subject bindings := by
  obtain ⟨bindings, accepted⟩ :=
    (Pattern.isIrrefutable_iff clause.pattern classes index).1 catches.irrefutable subject
  exact ⟨bindings, accepted, .inl (admits_of_unguarded catches.unguarded bindings)⟩

namespace Dispatcher

/-- The first clause that settles a subject is not behind one that catches all. -/
theorem exists_firstSettled_of_catchesAll {dispatcher : Dispatcher Result} {position : Nat}
    {clause : CompiledClause Result} (located : dispatcher.clauses[position]? = some clause)
    (catches : clause.CatchesAll) (subject : Value) :
    ∃ first ≤ position, ∃ clause bindings,
      dispatcher.FirstSettled subject first clause bindings := by
  obtain ⟨bindings, settles⟩ := catches.settles dispatcher.classes position subject
  obtain ⟨first, other, found, settled⟩ | passed := dispatcher.firstSettled_or_passes subject
  · refine ⟨first, Nat.le_of_not_lt fun behind => ?_, other, found, settled⟩
    exact settled.first position behind clause located bindings settles
  · have inside := (List.getElem?_eq_some_iff.1 located).1
    exact absurd settles (passed position inside clause located bindings)

/-- A pattern is irrefutable exactly if it accepts every value, whatever the classes are. The
clauses behind an unguarded clause with such a pattern are dead: without them the dispatcher is
still built and evaluates every subject in the same way, and no evaluation gets past the clause
that catches all. -/
theorem irrefutable_clause_ends_search :
    (∀ (pattern : Pattern) (classes : ClassTable) (clause : Nat),
      pattern.isIrrefutable = true ↔
        ∀ subject, ∃ bindings,
          (pattern.attempt classes clause subject).outcome = .accepted bindings) ∧
    ∀ {surroundings : Surroundings} {observer : Observer} {clauses : List (Clause Result)}
      {dispatcher : Dispatcher Result} {position : Nat} {clause : Clause Result}
      {pattern : Pattern},
      (build surroundings observer clauses).outcome = .ok dispatcher →
      clauses[position]? = some clause → clause.guard = none →
      clause.pattern.resolve surroundings = .ok pattern → pattern.isIrrefutable = true →
      ∃ truncated,
        (build surroundings observer (clauses.take (position + 1))).outcome = .ok truncated ∧
        ∀ subject,
          (dispatcher.evaluate subject).EndsBy position ∧
          truncated.evaluate subject = dispatcher.evaluate subject ∧
          ∀ journal, truncated.observe journal subject = dispatcher.observe journal subject := by
  refine ⟨Pattern.isIrrefutable_iff, ?_⟩
  intro surroundings observer clauses dispatcher position clause pattern built written unguarded
    resolved irrefutable
  obtain ⟨front, back, builtFront, rfl⟩ := exists_eq_followedBy built (position + 1)
  refine ⟨front, builtFront, fun subject => ?_⟩
  have kept : (clauses.take (position + 1))[position]? = some clause := by
    rw [List.getElem?_take_of_lt (Nat.lt_succ_self position), written]
  obtain ⟨compiled, located, compiles⟩ := (builtFrom_of_build builtFront).compiled_at kept
  have catches : compiled.CatchesAll := by
    constructor
    · rw [compiles.holds, unguarded]
      rfl
    · rwa [Except.ok.inj (compiles.pattern.symm.trans resolved)]
  obtain ⟨first, before, other, bindings, settled⟩ :=
    exists_firstSettled_of_catchesAll located catches subject
  have same : (front.followedBy back).evaluate subject = front.evaluate subject :=
    evaluate_followedBy_of_firstSettled settled
  refine ⟨?_, same.symm, fun journal => ?_⟩
  · rw [same]
    exact settled.endsBy.mono before
  · rw [observe, observe, same]
    rfl

/-- The guard in front answers no, so the second clause gets the subject, whatever it is. The
failing clause behind it is dead. -/
theorem irrefutable_clause_ends_search_second :
    let surroundings : Surroundings := ⟨.start, .start, .empty⟩
    let whole : Name := ⟨1⟩
    let refusing : Clause Nat :=
      (Clause.returning (.typed (.seq .int)) 5).guarded ⟨[], fun _ => .ok false⟩
    let catching : Clause Nat := .returning (.named whole (.typed .any)) 7
    let failing : Clause Nat := .unguarded .wildcard fun _ => .error (.ofMessage "empty")
    let subject : Value := .seq (.whole 0 [.unit])
    ∃ dispatcher truncated : Dispatcher Nat,
      (build surroundings .recorder [refusing, catching, failing]).outcome = .ok dispatcher ∧
      (build surroundings .recorder [refusing, catching]).outcome = .ok truncated ∧
      (dispatcher.evaluate subject).EndsBy 1 ∧
      truncated.evaluate subject = dispatcher.evaluate subject ∧
      dispatcher.evaluate subject =
        ⟨.ok 7, [.guard 0, .produce 1],
          [.elementTypeErased ⟨0, "Seq[Int]", "Seq[Any]"⟩, .guardRejected 0, .selected 1]⟩ := by
  intro surroundings whole refusing catching failing subject
  let clauses := [refusing, catching, failing]
  have built : (build surroundings .recorder clauses).outcome = .ok _ := rfl
  have written : clauses[1]? = some catching := rfl
  have resolved : catching.pattern.resolve surroundings = .ok (.bound whole (.typeTest .any)) := rfl
  obtain ⟨truncated, builtFront, same⟩ :=
    irrefutable_clause_ends_search.2 built written rfl resolved rfl
  obtain ⟨ends, evaluated, -⟩ := same subject
  exact ⟨_, truncated, built, builtFront, ends, evaluated, rfl⟩

end Dispatcher

end PatternDispatch
