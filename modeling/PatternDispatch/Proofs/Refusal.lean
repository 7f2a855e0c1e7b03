/-
This file proves which clause lists can be built and how the others are refused. A clause is
sound if its pattern resolves and every name that its guard reads is bound by that pattern or
known to the scope. A list of sound clauses is built clause by clause; any other list is refused
for its first clause that is not sound. The clauses in front of it have been compiled by then,
so their unchecked type tests, and no others, have been reported.
-/
import PatternDispatch.Proofs.Building
import PatternDispatch.Proofs.FirstDefect

namespace PatternDispatch

variable {Result : Type}

/-- Either all items pass, or the list splits at the first one that does not. -/
theorem forall_mem_or_split {Item : Type} (passes : Item → Prop) (items : List Item) :
    (∀ item ∈ items, passes item) ∨
      ∃ before item after, items = before ++ item :: after ∧
        (∀ other ∈ before, passes other) ∧ ¬passes item := by
  classical
  cases found : items.find? fun item => !decide (passes item) with
  | none =>
    have none := List.find?_eq_none.1 found
    exact .inl fun item member => by simpa using none item member
  | some item =>
    obtain ⟨fails, before, after, split, passed⟩ := List.find?_eq_some_iff_append.1 found
    exact .inr ⟨before, item, after, split, by simpa using passed, by simpa using fails⟩

/-! ### What a guard reads -/

/-- One of the binders has the name, or the scope knows it. -/
def Surroundings.Supplies (surroundings : Surroundings) (binders : List Name) (name : Name) :
    Prop :=
  name ∈ binders ∨ ∃ definition, surroundings.scope.Innermost name definition

section Reads

variable {surroundings : Surroundings} {binders : List Name} {name : Name}

/-- A name that is supplied adds at most its own entry to the copied values. -/
theorem captureReads_cons_of_supplied (supplied : surroundings.Supplies binders name) :
    ∃ own, ∀ later, captureReads surroundings binders (name :: later) =
      (captureReads surroundings binders later).map (own ++ ·) := by
  by_cases bound : name ∈ binders
  · refine ⟨[], fun later => ?_⟩
    rw [captureReads, if_pos bound]
    cases captureReads surroundings binders later <;> rfl
  · obtain ⟨definition, known⟩ := supplied.resolve_left bound
    refine ⟨[(name, definition.value)], fun later => ?_⟩
    rw [captureReads, if_neg bound, Scope.valueOf?_eq_some known]
    cases captureReads surroundings binders later <;> rfl

theorem captureReads_append_of_supplied {supplied : List Name}
    (each : ∀ name ∈ supplied, surroundings.Supplies binders name) :
    ∃ own, ∀ later, captureReads surroundings binders (supplied ++ later) =
      (captureReads surroundings binders later).map (own ++ ·) := by
  induction supplied with
  | nil =>
    refine ⟨[], fun later => ?_⟩
    rw [List.nil_append]
    cases captureReads surroundings binders later <;> rfl
  | cons name supplied inductionHypothesis =>
    obtain ⟨first, rest⟩ := List.forall_mem_cons.1 each
    obtain ⟨own, atName⟩ := captureReads_cons_of_supplied first
    obtain ⟨others, behind⟩ := inductionHypothesis rest
    refine ⟨own ++ others, fun later => ?_⟩
    rw [List.cons_append, atName, behind]
    cases captureReads surroundings binders later with
    | error => rfl
    | ok values => exact congrArg Except.ok (List.append_assoc own others values).symm

theorem captureReads_cons_of_missing (missing : ¬surroundings.Supplies binders name)
    (later : List Name) :
    captureReads surroundings binders (name :: later) =
      .error (.guardReadsUnbound (surroundings.names.textOf name)) := by
  obtain ⟨unbound, unknown⟩ := not_or.1 missing
  rw [captureReads, if_neg unbound, Scope.valueOf?_eq_none (not_exists.1 unknown)]

end Reads

/-! ### One clause -/

namespace Clause

variable (surroundings : Surroundings)

/-- The pattern resolves, and the guard reads only names that the pattern binds or the scope
knows. -/
def Sound (clause : Clause Result) : Prop :=
  ∃ pattern, clause.pattern.resolve surroundings = .ok pattern ∧
    ∀ name ∈ clause.reads, surroundings.Supplies pattern.binders name

/-- The defect of a clause that is not sound: the defect of its pattern or, if that resolves, the
first name that its guard reads and that is not supplied. -/
inductive RefusedFor (clause : Clause Result) : Defect → Prop
  | malformed {defect} (refused : clause.pattern.resolve surroundings = .error defect) :
    RefusedFor clause defect
  | unbound {pattern supplied name later}
    (resolved : clause.pattern.resolve surroundings = .ok pattern)
    (reads : clause.reads = supplied ++ name :: later)
    (before : ∀ other ∈ supplied, surroundings.Supplies pattern.binders other)
    (missing : ¬surroundings.Supplies pattern.binders name) :
    RefusedFor clause (.guardReadsUnbound (surroundings.names.textOf name))

variable {surroundings} {clause : Clause Result}

theorem Sound.exists_compiled (sound : clause.Sound surroundings) :
    ∃ compiled, clause.CompilesTo surroundings compiled := by
  obtain ⟨pattern, resolved, supplied⟩ := sound
  obtain ⟨captured, copied⟩ := captureReads_append_of_supplied supplied
  have all := copied []
  rw [List.append_nil] at all
  exact ⟨⟨pattern, clause.guard.map (·.holds), captured ++ [], clause.produce⟩, resolved, all,
    rfl, rfl⟩

theorem RefusedFor.compile_eq_error {defect : Defect}
    (refused : clause.RefusedFor surroundings defect) :
    clause.compile surroundings = .error defect := by
  unfold compile
  cases refused with
  | malformed refused =>
    rw [refused]
    rfl
  | @unbound pattern supplied name later resolved reads before missing =>
    obtain ⟨own, copied⟩ := captureReads_append_of_supplied before
    have unread := copied (name :: later)
    rw [captureReads_cons_of_missing missing] at unread
    rw [resolved]
    simp only [bind, Except.bind, reads, unread, Except.map]

theorem sound_or_refusedFor (surroundings : Surroundings) (clause : Clause Result) :
    clause.Sound surroundings ∨ ∃ defect, clause.RefusedFor surroundings defect := by
  cases resolved : clause.pattern.resolve surroundings with
  | error defect => exact .inr ⟨defect, .malformed resolved⟩
  | ok pattern =>
    obtain supplied | ⟨supplied, name, later, reads, before, missing⟩ :=
      forall_mem_or_split (surroundings.Supplies pattern.binders) clause.reads
    · exact .inl ⟨pattern, resolved, supplied⟩
    · exact .inr ⟨_, .unbound resolved reads before missing⟩

/-- A clause is sound or has a defect, never both. -/
theorem not_sound_iff :
    ¬clause.Sound surroundings ↔ ∃ defect, clause.RefusedFor surroundings defect := by
  refine ⟨(sound_or_refusedFor surroundings clause).resolve_left, ?_⟩
  rintro ⟨defect, refused⟩ sound
  obtain ⟨compiled, compiles⟩ := sound.exists_compiled
  have outcome := compile_eq_ok_iff.2 compiles
  rw [refused.compile_eq_error] at outcome
  cases outcome

end Clause

/-! ### Unchecked type tests -/

/-- The tag that this written node tests without being able to check all of it. -/
def WrittenPattern.uncheckedTag? : WrittenPattern → Option Tag
  | typed tag => if tag.hasUncheckedParameters then some tag else none
  | _ => none

/-- The type tests of a written clause that cannot check all of their tag, a node before its
parts and parts from left to right. -/
def Clause.uncheckedTests (clause : Clause Result) (classes : ClassTable) (index : Nat) :
    List UncheckedTest :=
  (clause.pattern.nodes.filterMap WrittenPattern.uncheckedTag?).map fun tag =>
    ⟨index, classes.describe tag⟩

/-- The unchecked type tests of written clauses, the first of which has position `index`. -/
def uncheckedWritten (classes : ClassTable) (index : Nat) (clauses : List (Clause Result)) :
    List UncheckedTest :=
  (clauses.zipIdx index).flatMap fun numbered => numbered.1.uncheckedTests classes numbered.2

/-- Resolving keeps the unchecked type tests and their order. -/
theorem WrittenPattern.uncheckedTags_of_resolves {surroundings : Surroundings}
    {written : WrittenPattern} {pattern : Pattern}
    (resolved : Resolves surroundings written pattern) :
    pattern.uncheckedTags = written.nodes.filterMap uncheckedTag? := by
  have agree : ∀ node part, Resolves surroundings node part →
      node.uncheckedTag? = part.uncheckedTag? := by
    intro node part same
    cases same <;> rfl
  exact (filterMap_eq_of_forall₂ agree (written.keepsNodes pattern resolved)).symm

theorem Clause.CompilesTo.uncheckedTests_eq {surroundings : Surroundings}
    {clause : Clause Result} {compiled : CompiledClause Result}
    (compiles : clause.CompilesTo surroundings compiled) (classes : ClassTable) (index : Nat) :
    compiled.uncheckedTests classes index = clause.uncheckedTests classes index := by
  have resolved := (WrittenPattern.resolves_of_resolve compiles.pattern).2
  rw [CompiledClause.uncheckedTests, WrittenPattern.uncheckedTags_of_resolves resolved,
    Clause.uncheckedTests]

theorem uncheckedFrom_eq_uncheckedWritten {surroundings : Surroundings}
    {clauses : List (Clause Result)} {ready : List (CompiledClause Result)}
    (each : List.Forall₂ (Clause.CompilesTo surroundings) clauses ready) (classes : ClassTable)
    (index : Nat) : uncheckedFrom classes index ready = uncheckedWritten classes index clauses := by
  induction each generalizing index with
  | nil => rfl
  | cons compiles rest inductionHypothesis =>
    rw [uncheckedFrom_cons, compiles.uncheckedTests_eq, inductionHypothesis]
    rfl

/-! ### The list of clauses -/

theorem compileFrom_cons_of_compiles {surroundings : Surroundings} {clause : Clause Result}
    {compiled : CompiledClause Result} (compiles : clause.CompilesTo surroundings compiled)
    (index : Nat) (later : List (Clause Result)) :
    compileFrom surroundings index (clause :: later) =
      ⟨compiled.uncheckedTests surroundings.classes index ++
          (compileFrom surroundings (index + 1) later).reported,
        (compileFrom surroundings (index + 1) later).outcome.map (compiled :: ·)⟩ := by
  rw [compileFrom, Clause.compile_eq_ok_iff.2 compiles]

/-- Clauses that compile report their own unchecked type tests and leave the rest of the list as
it would be on its own, counted from behind them. -/
theorem compileFrom_append {surroundings : Surroundings} {passed : List (Clause Result)}
    {ready : List (CompiledClause Result)}
    (each : List.Forall₂ (Clause.CompilesTo surroundings) passed ready) (index : Nat)
    (later : List (Clause Result)) :
    compileFrom surroundings index (passed ++ later) =
      ⟨uncheckedFrom surroundings.classes index ready ++
          (compileFrom surroundings (index + passed.length) later).reported,
        (compileFrom surroundings (index + passed.length) later).outcome.map (ready ++ ·)⟩ := by
  induction each generalizing index with
  | nil =>
    rw [List.nil_append, List.length_nil, Nat.add_zero]
    cases compileFrom surroundings index later with
    | mk reported outcome => cases outcome <;> rfl
  | @cons clause compiled passed ready compiles rest inductionHypothesis =>
    rw [List.cons_append, compileFrom_cons_of_compiles compiles, inductionHypothesis,
      List.length_cons, uncheckedFrom_cons, List.append_assoc, Nat.add_assoc, Nat.add_comm 1]
    cases (compileFrom surroundings (index + (passed.length + 1)) later).outcome <;> rfl

theorem exists_forall₂_compiled {surroundings : Surroundings} {clauses : List (Clause Result)}
    (sound : ∀ clause ∈ clauses, clause.Sound surroundings) :
    ∃ ready, List.Forall₂ (Clause.CompilesTo surroundings) clauses ready := by
  induction clauses with
  | nil => exact ⟨[], .nil⟩
  | cons clause later inductionHypothesis =>
    obtain ⟨first, rest⟩ := List.forall_mem_cons.1 sound
    obtain ⟨compiled, compiles⟩ := first.exists_compiled
    obtain ⟨ready, each⟩ := inductionHypothesis rest
    exact ⟨compiled :: ready, .cons compiles each⟩

namespace Dispatcher

variable (surroundings : Surroundings) (observer : Observer)

/-- The dispatcher that these compiled clauses make. -/
def ofCompiled (ready : List (CompiledClause Result)) : Dispatcher Result :=
  ⟨ready, surroundings.classes, observer, uncheckedFrom surroundings.classes 0 ready⟩

variable {surroundings observer}

/-- Clauses that compile are built, and what they report are their warnings. -/
theorem build_of_compiled {clauses : List (Clause Result)} {ready : List (CompiledClause Result)}
    (each : List.Forall₂ (Clause.CompilesTo surroundings) clauses ready) :
    build surroundings observer clauses =
      ⟨uncheckedFrom surroundings.classes 0 ready,
        .ok (ofCompiled surroundings observer ready)⟩ := by
  have compiled := compileFrom_append each 0 []
  simp only [List.append_nil, compileFrom, Except.map] at compiled
  rw [build, compiled]
  rfl

variable (surroundings) in
/-- The clause at the position of the failure is not sound and has the defect of the failure, and
the clauses in front of it are sound. -/
def FirstRefused (clauses : List (Clause Result)) (failure : BuildError) : Prop :=
  ∃ passed clause later, clauses = passed ++ clause :: later ∧ passed.length = failure.clause ∧
    (∀ other ∈ passed, other.Sound surroundings) ∧ ¬clause.Sound surroundings ∧
    clause.RefusedFor surroundings failure.defect

theorem sound_or_firstRefused (surroundings : Surroundings) (clauses : List (Clause Result)) :
    (∀ clause ∈ clauses, clause.Sound surroundings) ∨
      ∃ failure, FirstRefused surroundings clauses failure := by
  obtain sound | ⟨passed, clause, later, split, sound, unsound⟩ :=
    forall_mem_or_split (Clause.Sound surroundings) clauses
  · exact .inl sound
  · obtain ⟨defect, refused⟩ := Clause.not_sound_iff.1 unsound
    exact .inr ⟨⟨passed.length, defect⟩, passed, clause, later, split, rfl, sound, unsound,
      refused⟩

/-- Behind sound clauses, a clause with a defect refuses the whole list. -/
theorem build_of_firstRefused {clauses : List (Clause Result)} {failure : BuildError}
    (first : FirstRefused surroundings clauses failure) :
    build surroundings observer clauses =
      ⟨uncheckedWritten surroundings.classes 0 (clauses.take failure.clause),
        .error failure⟩ := by
  obtain ⟨passed, clause, later, rfl, position, sound, -, refused⟩ := first
  obtain ⟨ready, each⟩ := exists_forall₂_compiled sound
  have stopped := compileFrom_append each 0 (clause :: later)
  rw [compileFrom, refused.compile_eq_error, Nat.zero_add, position] at stopped
  rw [build, stopped, ← position, List.take_left, ← uncheckedFrom_eq_uncheckedWritten each,
    position]
  simp only [List.append_nil, Except.map]

/-- A list is built exactly if each of its clauses is sound. -/
theorem exists_build_iff {clauses : List (Clause Result)} :
    (∃ dispatcher, (build surroundings observer clauses).outcome = .ok dispatcher) ↔
      ∀ clause ∈ clauses, clause.Sound surroundings := by
  constructor
  · rintro ⟨dispatcher, built⟩
    obtain sound | ⟨failure, first⟩ := sound_or_firstRefused surroundings clauses
    · exact sound
    · rw [build_of_firstRefused first] at built
      cases built
  · intro sound
    obtain ⟨ready, each⟩ := exists_forall₂_compiled sound
    exact ⟨_, congrArg Build.outcome (build_of_compiled each)⟩

theorem build_eq_error_iff {clauses : List (Clause Result)} {failure : BuildError} :
    (build surroundings observer clauses).outcome = .error failure ↔
      FirstRefused surroundings clauses failure := by
  refine ⟨fun failed => ?_, fun first => congrArg Build.outcome (build_of_firstRefused first)⟩
  obtain sound | ⟨other, first⟩ := sound_or_firstRefused surroundings clauses
  · obtain ⟨dispatcher, built⟩ := exists_build_iff.2 sound
    cases built.symm.trans failed
  · rw [build_of_firstRefused first] at failed
    cases failed
    exact first

/-- A list is built exactly if each of its clauses is sound: every clause becomes its resolved
pattern with its callbacks, in the same order, and the warnings are the type tests that cannot be
checked in full, clause by clause in the order of the nodes. Any other list is refused for its
first clause that is not sound, after the type tests of the clauses in front have been reported. -/
theorem build_refuses_first_unsound (surroundings : Surroundings) (observer : Observer)
    (clauses : List (Clause Result)) :
    ((∃ dispatcher, (build surroundings observer clauses).outcome = .ok dispatcher) ↔
        ∀ clause ∈ clauses, clause.Sound surroundings) ∧
      (∀ dispatcher, (build surroundings observer clauses).outcome = .ok dispatcher →
        List.Forall₂ (Clause.CompilesTo surroundings) clauses dispatcher.clauses ∧
        List.Forall₂ (fun clause pattern => clause.pattern.resolve surroundings = .ok pattern)
          clauses dispatcher.patterns ∧
        dispatcher.warnings = uncheckedFrom surroundings.classes 0 dispatcher.clauses ∧
        dispatcher.warnings = uncheckedWritten surroundings.classes 0 clauses ∧
        (build surroundings observer clauses).reported = dispatcher.warnings) ∧
      (∀ failure, (build surroundings observer clauses).outcome = .error failure ↔
        FirstRefused surroundings clauses failure) ∧
      ∀ failure, (build surroundings observer clauses).outcome = .error failure →
        (build surroundings observer clauses).reported =
          uncheckedWritten surroundings.classes 0 (clauses.take failure.clause) := by
  refine ⟨exists_build_iff, fun dispatcher built => ?_, fun failure => build_eq_error_iff,
    fun failure failed => ?_⟩
  · have each := (builtFrom_of_build built).compiled
    have patterns : List.Forall₂
        (fun clause pattern => clause.pattern.resolve surroundings = .ok pattern)
        clauses dispatcher.patterns :=
      List.forall₂_map_right_iff.2 (each.imp fun _ _ compiles => compiles.pattern)
    rw [build_of_compiled each] at built ⊢
    have warnings := congrArg Dispatcher.warnings (Except.ok.inj built).symm
    exact ⟨each, patterns, warnings, warnings.trans (uncheckedFrom_eq_uncheckedWritten each _ 0),
      warnings.symm⟩
  · rw [build_of_firstRefused (build_eq_error_iff.1 failed)]

/-- The second guard reads a name that nothing binds. Its own type test is not reported, those of
the clause in front of it are. -/
theorem build_refuses_first_unsound_ghost :
    let ghost : Name := ⟨1⟩
    let surroundings : Surroundings := ⟨.start, .start, .empty⟩
    let first : Clause Nat :=
      .returning (.tuple [.typed (.seq .int), .typed (.array (.map .str .int))]) 5
    let second : Clause Nat :=
      (Clause.returning (.typed (.seq .bool)) 7).guarded ⟨[ghost], fun _ => .ok true⟩
    let failure : BuildError := ⟨1, .guardReadsUnbound (surroundings.names.textOf ghost)⟩
    (build surroundings .silent [first, second]).outcome = .error failure ∧
      FirstRefused surroundings [first, second] failure ∧
      (build surroundings .silent [first, second]).reported =
        [⟨0, "Seq[Int]"⟩, ⟨0, "Array[Map[Str, Int]]"⟩] := by
  intro ghost surroundings first second failure
  have failed : (build surroundings .silent [first, second]).outcome = .error failure := rfl
  obtain ⟨-, -, refusedIff, reported⟩ :=
    build_refuses_first_unsound surroundings .silent [first, second]
  refine ⟨failed, (refusedIff failure).1 failed, (reported failure failed).trans ?_⟩
  rfl

end Dispatcher

end PatternDispatch
