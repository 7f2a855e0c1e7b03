/-
This file proves that scoping is lexical: a name means its most recent definition among those
whose block has not been left, whatever has been entered, left and defined before. Leaving a
block gives back exactly the scope in which it was entered, so a history ends with a block
entered, a definition, a surplus exit, or a whole block that might as well not have been there.
-/
import Mathlib.Data.List.Induction
import Mathlib.Data.List.Infix
import PatternDispatch.Scope

namespace PatternDispatch.Scope

/-! ### Histories -/

/-- One change of a scope. -/
inductive Operation where
  | push
  | pop
  | define (name : Name) (definition : Definition)

/-- The scope after one change. -/
def apply (scope : Scope) : Operation → Scope
  | .push => scope.push
  | .pop => scope.pop
  | .define name definition => scope.define name definition.value definition.mutability

/-- The scope after changes, the first of which comes first. -/
def run (scope : Scope) (operations : List Operation) : Scope := operations.foldl apply scope

theorem run_append (scope : Scope) (operations later : List Operation) :
    scope.run (operations ++ later) = (scope.run operations).run later :=
  List.foldl_append

/-- The scope after a history of changes. -/
def after (history : List Operation) : Scope := start.run history

theorem after_append (history later : List Operation) :
    after (history ++ later) = (after history).run later :=
  run_append start history later

/-! ### Levels -/

/-- How many blocks are open after a change; where none is, there is none to leave. -/
def Operation.levelAfter (level : Nat) : Operation → Nat
  | push => level + 1
  | pop => level - 1
  | define _ _ => level

/-- How many blocks are open after changes that begin inside `outer` blocks. -/
def levelFrom (outer : Nat) (operations : List Operation) : Nat :=
  operations.foldl Operation.levelAfter outer

/-- How many blocks are open after a history. -/
def level (history : List Operation) : Nat := levelFrom 0 history

theorem levelFrom_append (outer : Nat) (operations later : List Operation) :
    levelFrom outer (operations ++ later) = levelFrom (levelFrom outer operations) later :=
  List.foldl_append

theorem level_append (history later : List Operation) :
    level (history ++ later) = levelFrom (level history) later :=
  levelFrom_append 0 history later

/-- Only an exit from an open block lowers the level. -/
theorem level_le_level_concat {history : List Operation} {operation : Operation}
    (stays : operation = .pop → level history = 0) :
    level history ≤ level (history ++ [operation]) := by
  rw [level_append]
  cases operation with
  | push => exact Nat.le_succ _
  | define => exact Nat.le_refl _
  | pop =>
    rw [stays rfl]
    exact Nat.zero_le _

theorem length_enclosing_after (history : List Operation) :
    (after history).enclosing.length = level history := by
  induction history using List.reverseRecOn with
  | nil => rfl
  | append_singleton history operation inductionHypothesis =>
    rw [after_append, level_append, ← inductionHypothesis]
    cases operation with
    | push => rfl
    | define => rfl
    | pop =>
      show (after history).pop.enclosing.length = (after history).enclosing.length - 1
      rw [pop]
      split <;> simp [*]

/-- The changes between entering a block and leaving it. -/
structure Encloses (before inside : List Operation) : Prop where
  deeper : ∀ done, done <+: inside → level before < level (before ++ .push :: done)
  back : level (before ++ .push :: inside) = level before + 1

/-- Each open block was entered at some point and not left since. -/
theorem exists_entered {history : List Operation} {outer : Nat} (opened : outer < level history) :
    ∃ before inside, history = before ++ .push :: inside ∧ level before = outer ∧
      ∀ done, done <+: inside → outer < level (before ++ .push :: done) := by
  induction history using List.reverseRecOn with
  | nil => cases opened
  | append_singleton history operation inductionHypothesis =>
    by_cases earlier : outer < level history
    · obtain ⟨before, inside, rfl, same, deeper⟩ := inductionHypothesis earlier
      refine ⟨before, inside ++ [operation], by simp, same, fun done reached => ?_⟩
      rcases List.prefix_concat_iff.1 reached with rfl | within
      · simpa using opened
      · exact deeper done within
    · rw [level_append] at opened
      cases operation with
      | push =>
        have same : level history = outer := by
          change outer < level history + 1 at opened
          omega
        refine ⟨history, [], rfl, same, fun done reached => ?_⟩
        rw [List.prefix_nil.1 reached, level_append, same]
        exact Nat.lt_succ_self outer
      | pop => exact absurd (Nat.lt_of_lt_of_le opened (Nat.sub_le _ 1)) earlier
      | define => exact absurd opened earlier

/-- A history ends with a block entered, a definition, an exit where no block is open, or a whole
block. -/
@[elab_as_elim]
theorem history_induction {motive : List Operation → Prop} (nil : motive [])
    (push : ∀ history, motive history → motive (history ++ [.push]))
    (define : ∀ history name definition, motive history →
      motive (history ++ [.define name definition]))
    (surplus : ∀ history, level history = 0 → motive history → motive (history ++ [.pop]))
    (block : ∀ before inside, Encloses before inside → motive before →
      motive (before ++ .push :: (inside ++ [.pop])))
    (history : List Operation) : motive history := by
  -- What is in front of a block can be much shorter, so the induction is on the length.
  induction size : history.length using Nat.strongRecOn generalizing history with
  | ind size inductionHypothesis =>
    rcases history.eq_nil_or_concat' with rfl | ⟨earlier, operation, rfl⟩
    · exact nil
    · rw [List.length_append, List.length_singleton] at size
      have shorter := inductionHypothesis earlier.length (by omega) earlier rfl
      cases operation with
      | push => exact push earlier shorter
      | define name definition => exact define earlier name definition shorter
      | pop =>
        by_cases outermost : level earlier = 0
        · exact surplus earlier outermost shorter
        · obtain ⟨before, inside, rfl, same, deeper⟩ :=
            exists_entered (show level earlier - 1 < level earlier by omega)
          rw [List.length_append] at size
          have encloses : Encloses before inside := by
            refine ⟨fun done reached => same ▸ deeper done reached, ?_⟩
            omega
          rw [List.append_assoc, List.cons_append]
          have front := inductionHypothesis before.length (by omega) before rfl
          exact block before inside encloses front

/-! ### Whole blocks -/

/-- Frames that are never left are not touched. -/
theorem suffix_enclosing_run {base : List Frame} {scope : Scope} {operations : List Operation}
    (above : base <:+ scope.enclosing)
    (deep : ∀ done, done <+: operations → base.length ≤ (scope.run done).enclosing.length) :
    base <:+ (scope.run operations).enclosing := by
  induction operations using List.reverseRecOn with
  | nil => exact above
  | append_singleton operations operation inductionHypothesis =>
    have kept := inductionHypothesis fun done reached =>
      deep done (reached.trans (List.prefix_append _ _))
    have still := deep _ List.prefix_rfl
    rw [run_append] at still ⊢
    cases operation with
    | push => exact kept.trans (List.suffix_cons _ _)
    | define => exact kept
    | pop =>
      change base.length ≤ (scope.run operations).pop.enclosing.length at still
      show base <:+ (scope.run operations).pop.enclosing
      unfold pop at still ⊢
      cases outer : (scope.run operations).enclosing with
      | nil => simpa [outer] using kept
      | cons frame frames =>
        simp only [outer] at still kept ⊢
        rcases List.suffix_cons_iff.1 kept with rfl | within
        · exact absurd still (Nat.not_succ_le_self _)
        · exact within

/-- Leaving a block gives back the scope in which it was entered. -/
theorem after_block {before inside : List Operation} (encloses : Encloses before inside) :
    after (before ++ .push :: (inside ++ [.pop])) = after before := by
  let outer := (after before).innermost :: (after before).enclosing
  have same (done : List Operation) :
      (after before).push.run done = after (before ++ .push :: done) :=
    (after_append before (.push :: done)).symm
  have size : outer.length = level before + 1 := congrArg (· + 1) (length_enclosing_after before)
  have kept : outer <:+ ((after before).push.run inside).enclosing := by
    refine suffix_enclosing_run List.suffix_rfl fun done reached => ?_
    rw [size, same, length_enclosing_after]
    exact encloses.deeper done reached
  have whole : outer = ((after before).push.run inside).enclosing := by
    refine kept.eq_of_length ?_
    rw [size, same, length_enclosing_after, encloses.back]
  have left : after (before ++ .push :: (inside ++ [.pop])) =
      ((after before).push.run inside).pop := by
    rw [← List.cons_append, ← List.append_assoc, after_append, same]
    rfl
  rw [left, pop, ← whole]

/-! ### Balanced changes -/

/-- Whether the change enters a block. -/
def Operation.isPush : Operation → Bool
  | push => true
  | _ => false

/-- Whether the change leaves a block. -/
def Operation.isPop : Operation → Bool
  | pop => true
  | _ => false

/-- As many blocks are left as are entered, and each of them only after it has been entered. -/
structure Balanced (operations : List Operation) : Prop where
  covered : ∀ done, done <+: operations →
    done.countP Operation.isPop ≤ done.countP Operation.isPush
  even : operations.countP Operation.isPop = operations.countP Operation.isPush

instance (operations : List Operation) : Decidable (Balanced operations) :=
  decidable_of_iff
    ((∀ done ∈ operations.inits, done.countP Operation.isPop ≤ done.countP Operation.isPush) ∧
      operations.countP Operation.isPop = operations.countP Operation.isPush)
    ⟨fun both => ⟨fun done reached => both.1 done ((List.mem_inits _ _).2 reached), both.2⟩,
      fun balanced => ⟨fun done reached => balanced.covered done ((List.mem_inits _ _).1 reached),
        balanced.even⟩⟩

theorem levelFrom_add_countP {operations : List Operation}
    (covered : ∀ done, done <+: operations →
      done.countP Operation.isPop ≤ done.countP Operation.isPush) (outer : Nat) :
    levelFrom outer operations + operations.countP Operation.isPop =
      outer + operations.countP Operation.isPush := by
  induction operations using List.reverseRecOn with
  | nil => rfl
  | append_singleton operations operation inductionHypothesis =>
    have counted := inductionHypothesis fun done reached =>
      covered done (reached.trans (List.prefix_append _ _))
    have whole := covered _ List.prefix_rfl
    rw [List.countP_append, List.countP_append] at whole ⊢
    rw [levelFrom_append]
    cases operation with
    | push =>
      show levelFrom outer operations + 1 + (operations.countP Operation.isPop + 0) =
        outer + (operations.countP Operation.isPush + 1)
      omega
    | pop =>
      change operations.countP Operation.isPop + 1 ≤ operations.countP Operation.isPush + 0 at whole
      show levelFrom outer operations - 1 + (operations.countP Operation.isPop + 1) =
        outer + (operations.countP Operation.isPush + 0)
      omega
    | define => exact counted

theorem Balanced.encloses {operations : List Operation} (balanced : Balanced operations)
    (before : List Operation) : Encloses before operations := by
  have inner (done : List Operation) (reached : done <+: operations) :
      level (before ++ .push :: done) + done.countP Operation.isPop =
        level before + 1 + done.countP Operation.isPush := by
    rw [level_append]
    exact levelFrom_add_countP (fun earlier within => balanced.covered earlier
      (within.trans reached)) (level before + 1)
  refine ⟨fun done reached => ?_, ?_⟩
  · have counted := inner done reached
    have covered := balanced.covered done reached
    omega
  · have counted := inner operations List.prefix_rfl
    have even := balanced.even
    omega

/-! ### Definitions that stand -/

/-- The change at this position defines the name, in a block that has not been left since: at no
point behind it are fewer blocks open than where it was made. -/
structure Stands (history : List Operation) (position : Nat) (name : Name)
    (definition : Definition) : Prop where
  made : history[position]? = some (.define name definition)
  kept : ∀ now, now <+: history → position ≤ now.length →
    level (history.take position) ≤ level now

/-- What a name means by its history: the most recent of its definitions that stand. -/
def Means (history : List Operation) (name : Name) : Option Definition → Prop
  | some definition => ∃ position, Stands history position name definition ∧
    ∀ later other, Stands history later name other → later ≤ position
  | none => ∀ position definition, ¬Stands history position name definition

section Stands

variable {history : List Operation} {position : Nat} {name : Name} {definition : Definition}

theorem Stands.lt_length (stands : Stands history position name definition) :
    position < history.length :=
  (List.getElem?_eq_some_iff.1 stands.made).1

/-- What is made in front of later changes stands if they never leave its block. -/
theorem stands_append_iff {before later : List Operation} (early : position < before.length) :
    Stands (before ++ later) position name definition ↔
      Stands before position name definition ∧
        ∀ done, done <+: later → level (before.take position) ≤ level (before ++ done) := by
  have same : (before ++ later).take position = before.take position :=
    List.take_append_of_le_length (Nat.le_of_lt early)
  constructor
  · intro stands
    have made := stands.made
    rw [List.getElem?_append_left early] at made
    refine ⟨⟨made, fun now reached behind => ?_⟩, fun done reached => ?_⟩
    · have kept := stands.kept now (reached.trans (List.prefix_append _ _)) behind
      rwa [same] at kept
    · have kept := stands.kept (before ++ done) ((List.prefix_append_right_inj before).2 reached)
        (by rw [List.length_append]; omega)
      rwa [same] at kept
  · rintro ⟨stands, kept⟩
    refine ⟨(List.getElem?_append_left early).trans stands.made, fun now reached behind => ?_⟩
    rw [same]
    rcases List.prefix_or_prefix_of_prefix reached (List.prefix_append before later) with
      within | ⟨done, rfl⟩
    · exact stands.kept now within behind
    · exact kept done ((List.prefix_append_right_inj before).1 reached)

/-- A change that leaves no open block keeps what stands and adds what it defines. -/
theorem stands_concat_iff {operation : Operation}
    (stays : operation = .pop → level history = 0) :
    Stands (history ++ [operation]) position name definition ↔
      Stands history position name definition ∨
        position = history.length ∧ operation = .define name definition := by
  have remains := level_le_level_concat stays
  by_cases early : position < history.length
  · rw [stands_append_iff early, or_iff_left fun last => Nat.ne_of_lt early last.1]
    refine and_iff_left_of_imp fun stands done reached => ?_
    have still := stands.kept history List.prefix_rfl (Nat.le_of_lt early)
    rcases List.prefix_concat_iff.1 (show done <+: [] ++ [operation] from reached) with rfl | none
    · exact Nat.le_trans still remains
    · rwa [List.prefix_nil.1 none, List.append_nil]
  · rw [or_iff_right fun stands => early stands.lt_length]
    constructor
    · intro stands
      have last : position = history.length := by
        have inside := stands.lt_length
        rw [List.length_append, List.length_singleton] at inside
        omega
      have made := stands.made
      rw [last, List.getElem?_concat_length] at made
      exact ⟨last, Option.some.inj made⟩
    · rintro ⟨rfl, rfl⟩
      refine ⟨List.getElem?_concat_length, fun now reached behind => ?_⟩
      rw [List.take_left]
      rcases List.prefix_concat_iff.1 reached with rfl | within
      · exact remains
      · exact Nat.le_of_eq (congrArg level (within.eq_of_length_le behind).symm)

/-- A whole block leaves nothing behind. -/
theorem stands_block_iff {before inside : List Operation} (encloses : Encloses before inside) :
    Stands (before ++ .push :: (inside ++ [.pop])) position name definition ↔
      Stands before position name definition := by
  have back : level (before ++ .push :: (inside ++ [.pop])) = level before := by
    rw [← List.cons_append, ← List.append_assoc, level_append, encloses.back]
    rfl
  constructor
  · intro stands
    refine ((stands_append_iff (Nat.lt_of_not_le fun late => ?_)).1 stands).1
    -- What is made inside is one level too deep at the end.
    obtain ⟨offset, rfl⟩ := Nat.exists_eq_add_of_le late
    have made := stands.made
    have kept := stands.kept _ List.prefix_rfl (Nat.le_of_lt stands.lt_length)
    rw [List.getElem?_append_right (Nat.le_add_right _ _), Nat.add_sub_cancel_left] at made
    rw [back, List.take_length_add_append] at kept
    rcases offset with _ | offset
    · cases made
    · rw [List.getElem?_cons_succ] at made
      by_cases within : offset < inside.length
      · rw [List.take_succ_cons, List.take_append_of_le_length (Nat.le_of_lt within)] at kept
        exact Nat.not_lt_of_le kept (encloses.deeper _ (List.take_prefix _ _))
      · obtain ⟨bounded, same⟩ := List.getElem?_eq_some_iff.1 made
        rw [List.getElem_append_right (Nat.le_of_not_lt within), List.getElem_singleton] at same
        cases same
  · intro stands
    refine (stands_append_iff stands.lt_length).2 ⟨stands, fun done reached => ?_⟩
    refine Nat.le_trans
      (stands.kept before List.prefix_rfl (Nat.le_of_lt stands.lt_length)) ?_
    rcases List.prefix_cons_iff.1 reached with rfl | ⟨rest, rfl, further⟩
    · exact Nat.le_of_eq (congrArg level (List.append_nil before).symm)
    · rcases List.prefix_concat_iff.1 further with rfl | within
      · exact Nat.le_of_eq back.symm
      · exact Nat.le_of_lt (encloses.deeper rest within)

end Stands

/-! ### Lookup -/

theorem find?_define (scope : Scope) (other name : Name) (value : Value) (mutability : Mutability) :
    (scope.define other value mutability).find? name =
      if other = name then some ⟨value, mutability⟩ else scope.find? name := by
  by_cases same : other = name <;> simp [find?, define, findIn, List.findSome?_cons, same]

theorem pop_of_outermost {scope : Scope} (outermost : scope.enclosing.length = 0) :
    scope.pop = scope := by
  rw [pop, List.length_eq_zero_iff.1 outermost]

theorem Means.congr {history later : List Operation} {name : Name} {answer : Option Definition}
    (same : ∀ position definition, Stands later position name definition ↔
      Stands history position name definition) (means : Means history name answer) :
    Means later name answer := by
  cases answer <;> simpa only [Means, same] using means

/-- What a name means is settled. -/
theorem Means.unique {history : List Operation} {name : Name} {first second : Option Definition}
    (means : Means history name first) (other : Means history name second) : first = second := by
  rcases first with _ | first <;> rcases second with _ | second
  · rfl
  · obtain ⟨position, stands, -⟩ := other
    exact absurd stands (means position second)
  · obtain ⟨position, stands, -⟩ := means
    exact absurd stands (other position first)
  · obtain ⟨position, stands, newest⟩ := means
    obtain ⟨otherPosition, otherStands, otherNewest⟩ := other
    obtain rfl := Nat.le_antisymm (otherNewest _ _ stands) (newest _ _ otherStands)
    have same := stands.made.symm.trans otherStands.made
    injection same with same
    injection same with _ same
    rw [same]

/-- A name is looked up by what it means. -/
theorem means_find? (history : List Operation) (name : Name) :
    Means history name ((after history).find? name) := by
  induction history using history_induction with
  | nil => exact fun position definition stands => absurd stands.lt_length (Nat.not_lt_zero _)
  | push history inductionHypothesis =>
    rw [after_append]
    exact inductionHypothesis.congr fun position definition => by simp [stands_concat_iff]
  | define history other definition inductionHypothesis =>
    rw [after_append]
    show Means _ name (((after history).define other _ _).find? name)
    rw [find?_define]
    by_cases same : other = name
    · rw [if_pos same]
      refine ⟨history.length, (stands_concat_iff ?_).2 (.inr ⟨rfl, same ▸ rfl⟩), ?_⟩
      · exact Operation.noConfusion
      intro later another stands
      have inside := stands.lt_length
      rw [List.length_append] at inside
      exact Nat.le_of_lt_succ inside
    · rw [if_neg same]
      exact inductionHypothesis.congr fun position another => by
        simp [stands_concat_iff, same]
  | surplus history outermost inductionHypothesis =>
    rw [after_append]
    show Means _ name ((after history).pop.find? name)
    rw [pop_of_outermost ((length_enclosing_after history).trans outermost)]
    exact inductionHypothesis.congr fun position definition => by
      simp [stands_concat_iff fun _ => outermost]
  | block before inside encloses inductionHypothesis =>
    rw [after_block encloses]
    exact inductionHypothesis.congr fun position definition => stands_block_iff encloses

/-- After every history a scope has one frame for each open block and one around them all, and a
name stands for the most recent of its definitions whose block has not been left, or for
nothing if there is none. So a block, whatever is balanced inside it, changes no name. -/
theorem after_scopes_lexically (history : List Operation) :
    (1 ≤ (after history).depth ∧ (after history).depth = level history + 1) ∧
      (∀ name definition, (after history).find? name = some definition ↔
        ∃ position, Stands history position name definition ∧
          ∀ later other, Stands history later name other → later ≤ position) ∧
      (∀ name, (after history).find? name = none ↔
        ∀ position definition, ¬Stands history position name definition) ∧
      ∀ inside, Balanced inside → ∀ name,
        (after (history ++ .push :: (inside ++ [.pop]))).find? name =
          (after history).find? name := by
  have means (name : Name) (answer : Option Definition) :
      (after history).find? name = answer ↔ Means history name answer :=
    ⟨fun found => found ▸ means_find? history name, (means_find? history name).unique⟩
  refine ⟨⟨Nat.le_add_left 1 _, congrArg (· + 1) (length_enclosing_after history)⟩,
    fun name definition => means name (some definition), fun name => means name none,
    fun inside balanced name => ?_⟩
  rw [after_block (balanced.encloses history)]

/-- The first exit is surplus, the definition behind it shadows the first one, and the two blocks
that follow leave no trace. -/
theorem after_scopes_lexically_shadowed :
    let x : Name := ⟨1⟩
    let value (number : Int64) (mutability : Mutability) : Operation :=
      .define x ⟨.int number, mutability⟩
    let history :=
      [value 1 .immutable, .pop, .push, value 2 .mutable, .push, value 3 .immutable, .pop]
    let inside := [value 4 .immutable, .push, value 5 .mutable, .pop]
    ((after history).find? x = some ⟨.int 2, .mutable⟩ ∧
        ∃ position, Stands history position x ⟨.int 2, .mutable⟩ ∧
          ∀ later other, Stands history later x other → later ≤ position) ∧
      ((after history).find? ⟨2⟩ = none ∧
        ∀ position definition, ¬Stands history position ⟨2⟩ definition) ∧
      Balanced inside ∧
        (after (history ++ .push :: (inside ++ [.pop]))).find? x = some ⟨.int 2, .mutable⟩ := by
  intro x value history inside
  obtain ⟨-, newest, absent, kept⟩ := after_scopes_lexically history
  have balanced : Balanced inside := by decide
  exact ⟨⟨rfl, (newest x _).1 rfl⟩, ⟨rfl, (absent ⟨2⟩).1 rfl⟩, balanced, kept inside balanced x⟩

end PatternDispatch.Scope
