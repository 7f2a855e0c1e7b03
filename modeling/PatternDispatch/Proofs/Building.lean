/-
This file proves what a dispatcher is built from. The clauses of a built dispatcher are the
written clauses, compiled one by one and in the same order, and its warnings are the
unchecked type tests of these clauses, each under the position of its clause.
-/
import Mathlib.Data.List.Forall2
import PatternDispatch.Dispatcher

namespace PatternDispatch

variable {Result : Type}

/-! ### Numbered items -/

/-- If every item of a list contributes entries under its own number, then the entries under
one number are those of the item there. -/
theorem filter_flatMap_zipIdx {Item Entry : Type} (items : List Item) (index position : Nat)
    (block : Item → Nat → List Entry) (number : Entry → Nat)
    (own : ∀ item index, ∀ entry ∈ block item index, number entry = index) :
    ((items.zipIdx index).flatMap fun numbered => block numbered.1 numbered.2).filter
        (number · = index + position) =
      items[position]?.toList.flatMap (block · (index + position)) := by
  induction items generalizing index position with
  | nil => rfl
  | cons item later inductionHypothesis =>
    rw [List.zipIdx_cons, List.flatMap_cons, List.filter_append]
    cases position with
    | zero =>
      have behind : ∀ entry ∈ (later.zipIdx (index + 1)).flatMap fun numbered =>
          block numbered.1 numbered.2, number entry ≠ index := by
        intro entry member
        obtain ⟨numbered, inside, inBlock⟩ := List.mem_flatMap.1 member
        rw [own _ _ entry inBlock]
        exact Nat.ne_of_gt (List.mem_zipIdx inside).1
      rw [Nat.add_zero, List.filter_eq_self.2 (by simpa using own item index),
        List.filter_eq_nil_iff.2 (by simpa using behind), List.append_nil, List.getElem?_cons_zero]
      exact (List.flatMap_singleton (block · index) item).symm
    | succ position =>
      have ahead : ∀ entry ∈ block item index, number entry ≠ index + (position + 1) := by
        intro entry member
        rw [own item index entry member]
        omega
      rw [List.filter_eq_nil_iff.2 (by simpa using ahead), List.nil_append,
        List.getElem?_cons_succ, Nat.add_comm position, ← Nat.add_assoc]
      exact inductionHypothesis (index + 1) position

/-! ### Outcomes -/

theorem bind_eq_ok_iff {Failure First Second : Type} {outcome : Except Failure First}
    {next : First → Except Failure Second} {result : Second} :
    outcome >>= next = .ok result ↔ ∃ first, outcome = .ok first ∧ next first = .ok result := by
  cases outcome <;> simp [bind, Except.bind]

theorem map_eq_ok_iff {Failure First Second : Type} {outcome : Except Failure First}
    {build : First → Second} {result : Second} :
    outcome.map build = .ok result ↔ ∃ first, outcome = .ok first ∧ build first = result := by
  cases outcome <;> simp [Except.map]

/-! ### One clause -/

/-- What it takes to compile a clause. -/
structure Clause.CompilesTo (surroundings : Surroundings) (clause : Clause Result)
    (compiled : CompiledClause Result) : Prop where
  pattern : clause.pattern.resolve surroundings = .ok compiled.pattern
  captured : captureReads surroundings compiled.pattern.binders clause.reads =
    .ok compiled.captured
  holds : compiled.holds = clause.guard.map (·.holds)
  produce : compiled.produce = clause.produce

theorem Clause.compile_eq_ok_iff {surroundings : Surroundings} {clause : Clause Result}
    {compiled : CompiledClause Result} :
    clause.compile surroundings = .ok compiled ↔ clause.CompilesTo surroundings compiled := by
  constructor
  · intro compiles
    obtain ⟨pattern, resolved, compiles⟩ := bind_eq_ok_iff.1 compiles
    obtain ⟨values, captured, ⟨⟩⟩ := bind_eq_ok_iff.1 compiles
    exact ⟨resolved, captured, rfl, rfl⟩
  · rintro ⟨resolved, captured, holds, produce⟩
    refine bind_eq_ok_iff.2 ⟨_, resolved, bind_eq_ok_iff.2 ⟨_, captured, ?_⟩⟩
    rw [← holds, ← produce]
    rfl

/-- The captured names are the reads that the pattern does not bind, in their order, and each
has its value in the scope. -/
theorem captureReads_ok {surroundings : Surroundings} {binders reads : List Name}
    {captured : List (Name × Value)}
    (copied : captureReads surroundings binders reads = .ok captured) :
    captured.map Prod.fst = reads.filter (· ∉ binders) ∧
      ∀ entry ∈ captured, surroundings.scope.valueOf? entry.1 = some entry.2 := by
  induction reads generalizing captured with
  | nil =>
    cases copied
    exact ⟨rfl, fun entry member => by cases member⟩
  | cons name later inductionHypothesis =>
    rw [captureReads] at copied
    by_cases bound : name ∈ binders
    · rw [if_pos bound] at copied
      rw [List.filter_cons_of_neg (by simpa using bound)]
      exact inductionHypothesis copied
    · rw [if_neg bound] at copied
      cases visible : surroundings.scope.valueOf? name with
      | none => rw [visible] at copied; cases copied
      | some value =>
        rw [visible] at copied
        obtain ⟨others, rest, ⟨⟩⟩ := bind_eq_ok_iff.1 copied
        obtain ⟨names, values⟩ := inductionHypothesis rest
        rw [List.filter_cons_of_pos (by simpa using bound), List.map_cons, names]
        exact ⟨rfl, List.forall_mem_cons.2 ⟨visible, values⟩⟩

/-! ### The list of clauses -/

/-- The unchecked type tests of clauses, the first of which has position `index`. -/
def uncheckedFrom (classes : ClassTable) (index : Nat) (clauses : List (CompiledClause Result)) :
    List UncheckedTest :=
  (clauses.zipIdx index).flatMap fun numbered => numbered.1.uncheckedTests classes numbered.2

theorem uncheckedFrom_cons (classes : ClassTable) (index : Nat) (clause : CompiledClause Result)
    (later : List (CompiledClause Result)) :
    uncheckedFrom classes index (clause :: later) =
      clause.uncheckedTests classes index ++ uncheckedFrom classes (index + 1) later :=
  rfl

theorem compileFrom_ok {surroundings : Surroundings} {index : Nat}
    {clauses : List (Clause Result)} {ready : List (CompiledClause Result)}
    (built : (compileFrom surroundings index clauses).outcome = .ok ready) :
    List.Forall₂ (Clause.CompilesTo surroundings) clauses ready ∧
      (compileFrom surroundings index clauses).reported =
        uncheckedFrom surroundings.classes index ready := by
  induction clauses generalizing index ready with
  | nil =>
    cases built
    exact ⟨.nil, rfl⟩
  | cons clause later inductionHypothesis =>
    rw [compileFrom] at built ⊢
    cases compiles : clause.compile surroundings with
    | error defect => rw [compiles] at built; cases built
    | ok compiled =>
      simp only [compiles] at built ⊢
      obtain ⟨others, rest, rfl⟩ := map_eq_ok_iff.1 built
      obtain ⟨each, reported⟩ := inductionHypothesis rest
      refine ⟨.cons (Clause.compile_eq_ok_iff.1 compiles) each, ?_⟩
      rw [reported, uncheckedFrom_cons]

theorem clause_of_mem_uncheckedTests {classes : ClassTable} {index : Nat}
    {clause : CompiledClause Result} {test : UncheckedTest}
    (member : test ∈ clause.uncheckedTests classes index) : test.clause = index := by
  obtain ⟨tag, -, rfl⟩ := List.mem_map.1 member
  rfl

/-! ### Built dispatchers -/

/-- What a dispatcher holds that was built from these clauses. -/
structure Dispatcher.BuiltFrom (surroundings : Surroundings) (observer : Observer)
    (clauses : List (Clause Result)) (dispatcher : Dispatcher Result) : Prop where
  compiled : List.Forall₂ (Clause.CompilesTo surroundings) clauses dispatcher.clauses
  classes : dispatcher.classes = surroundings.classes
  observer : dispatcher.observer = observer
  warnings : dispatcher.warnings = uncheckedFrom dispatcher.classes 0 dispatcher.clauses

theorem Dispatcher.builtFrom_of_build {surroundings : Surroundings} {observer : Observer}
    {clauses : List (Clause Result)} {dispatcher : Dispatcher Result}
    (built : (Dispatcher.build surroundings observer clauses).outcome = .ok dispatcher) :
    dispatcher.BuiltFrom surroundings observer clauses := by
  obtain ⟨ready, outcome, rfl⟩ := map_eq_ok_iff.1 built
  obtain ⟨compiled, reported⟩ := compileFrom_ok outcome
  exact ⟨compiled, rfl, rfl, reported⟩

namespace Dispatcher.BuiltFrom

variable {surroundings : Surroundings} {observer : Observer} {clauses : List (Clause Result)}
  {dispatcher : Dispatcher Result} {position : Nat}

/-- The warnings under one position are the unchecked type tests of the clause there. -/
theorem warnings_at (built : dispatcher.BuiltFrom surroundings observer clauses)
    {compiled : CompiledClause Result} (located : dispatcher.clauses[position]? = some compiled) :
    dispatcher.warnings.filter (·.clause = position) =
      compiled.uncheckedTests dispatcher.classes position := by
  have unchecked := filter_flatMap_zipIdx dispatcher.clauses 0 position
    (fun clause index => clause.uncheckedTests dispatcher.classes index) (·.clause)
    fun clause index test => clause_of_mem_uncheckedTests
  rw [Nat.zero_add, located] at unchecked
  rw [built.warnings, uncheckedFrom, unchecked]
  exact List.flatMap_singleton _ compiled

/-- Every written clause has its compiled clause at the same position. -/
theorem compiled_at (built : dispatcher.BuiltFrom surroundings observer clauses)
    {clause : Clause Result} (located : clauses[position]? = some clause) :
    ∃ compiled, dispatcher.clauses[position]? = some compiled ∧
      clause.CompilesTo surroundings compiled := by
  have inside := (List.getElem?_eq_some_iff.1 located).1
  have behind : position < dispatcher.clauses.length := built.compiled.length_eq ▸ inside
  refine ⟨dispatcher.clauses[position], List.getElem?_eq_getElem behind, ?_⟩
  have compiles := built.compiled.get inside behind
  rwa [List.get_eq_getElem, (List.getElem?_eq_some_iff.1 located).2] at compiles

end Dispatcher.BuiltFrom

end PatternDispatch
