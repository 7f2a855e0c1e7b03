/-
This file proves that the sum by heads and tails adds up its sequence and always ends. One step
takes one item off the front, so the sequence left over gets shorter and is always a run of the
first one; the sum so far is that of the items taken. Steps go on until nothing is left, until an
item is no integer, or until the sum does not fit any more, and whichever comes first, the number of
items bounds the number of steps.
-/
import Mathlib.Algebra.Ring.Int.Defs
import Mathlib.Data.List.Infix
import PatternDispatch.Demo.Sequences
import PatternDispatch.Proofs.Refusal
import PatternDispatch.Proofs.Views

namespace PatternDispatch

/-! ### Taking items off the front -/

/-- The view without its first items, as many as are counted. -/
def View.behind {Item : Type} (view : View Item) (count : Nat) : View Item :=
  { view with offset := view.offset + count }

theorem View.items_behind {Item : Type} (view : View Item) (count : Nat) :
    (view.behind count).items = view.items.drop count := by
  rw [items_eq, items_eq, List.drop_take, List.drop_drop, behind, Nat.sub_sub]

theorem View.length_behind {Item : Type} (view : View Item) (count : Nat) :
    (view.behind count).length = view.length - count :=
  (Nat.sub_sub _ _ _).symm

theorem View.isRun_behind {Item : Type} {view : View Item} {count : Nat}
    (inside : count ≤ view.length) :
    IsRun count (view.length - count) (view.behind count) view := by
  refine ⟨rfl, rfl, inside, rfl, ?_⟩
  rw [items_behind, List.take_of_length_le]
  rw [List.length_drop, length_items]

namespace Value

/-- The sequence without its first items, in the same kind of sequence. -/
def dropItems : Value → Nat → Value
  | seq view, count => seq (view.behind count)
  | array element view, count => array element (view.behind count)
  | other, _ => other

theorem dropItems_zero (subject : Value) : subject.dropItems 0 = subject := by
  cases subject <;> rfl

theorem dropItems_dropItems (subject : Value) (first second : Nat) :
    (subject.dropItems first).dropItems second = subject.dropItems (first + second) := by
  cases subject with
  | seq view | array element view =>
    simp only [dropItems, View.behind, Nat.add_assoc]
  | _ => rfl

section

variable {subject : Value} {view : View Value}

theorem asView_dropItems (shown : subject.asView = some view) (count : Nat) :
    (subject.dropItems count).asView = some (view.behind count) := by
  cases subject <;> cases shown <;> rfl

theorem withView_behind (shown : subject.asView = some view) (count : Nat) :
    subject.withView (view.behind count) = some (subject.dropItems count) := by
  cases subject <;> cases shown <;> rfl

end

/-- What is left of the sequence after one item, after two, and so on up to `count` items. -/
def rests (subject : Value) (count : Nat) : List Value :=
  (List.range count).map fun taken => subject.dropItems (taken + 1)

theorem rests_succ (subject : Value) (count : Nat) :
    subject.rests (count + 1) = subject.dropItems 1 :: (subject.dropItems 1).rests count := by
  rw [rests, List.range_succ_eq_map, List.map_cons, List.map_map, rests]
  refine congrArg (subject.dropItems 1 :: ·) (List.map_congr_left fun taken _ => ?_)
  rw [dropItems_dropItems, Function.comp_apply, Nat.succ_eq_add_one, Nat.add_comm 1]

end Value

section

variable {environment : Environment} {name : Name} {value : Value}

theorem Environment.require_of_get? (found : environment.get? name = some value) :
    environment.require name = .ok value := by
  rw [require, found]

theorem Environment.requireInt_of_get? (found : environment.get? name = some value) :
    environment.requireInt name =
      match value.asInt with
      | some number => .ok number
      | none =>
        .error (.ofMessage (name.inspect ++ " is a " ++ value.typeName ++ ", not an Int")) := by
  rw [requireInt, require_of_get? found]
  cases value <;> rfl

end

namespace Demo.Sequences

/-! ### One step -/

/-- The dispatcher of the step, ready to run. -/
def stepDispatcher (head tail : Name) : Dispatcher Step where
  clauses := [
    ⟨.emptySequence, none, [], fun _ => .ok .done⟩,
    ⟨.headTail (.binder head) (.binder tail), none, [], fun environment => do
      return .more (← environment.requireInt head) (← environment.require tail)⟩]
  classes := .empty
  observer := .silent
  warnings := []

theorem outcome_stepClauses {head tail : Name} (distinct : head ≠ tail) (names : NameTable) :
    (Dispatcher.ofClauses names .start (stepClauses head tail)).outcome =
      .ok (stepDispatcher head tail) := by
  let pattern : Pattern := .headTail (.binder head) (.binder tail)
  have once : firstRepeated [] pattern.binders = none :=
    (firstRepeated_eq_none_iff [] [head, tail]).2 ⟨by simpa using distinct, by simp⟩
  have nodes : (WrittenPattern.cons (.identifier head) (.identifier tail)).resolveNodes
      ⟨names, .start, .empty⟩ = .ok pattern := rfl
  have resolved : (WrittenPattern.cons (.identifier head) (.identifier tail)).resolve
      ⟨names, .start, .empty⟩ = .ok pattern := by
    simp only [WrittenPattern.resolve, nodes, bind, Except.bind, once]
    rfl
  have compiled : List.Forall₂ (Clause.CompilesTo ⟨names, .start, .empty⟩)
      (stepClauses head tail) (stepDispatcher head tail).clauses :=
    .cons ⟨rfl, rfl, rfl, rfl⟩ (.cons ⟨resolved, rfl, rfl, rfl⟩ .nil)
  exact congrArg Build.outcome (Dispatcher.build_of_compiled compiled)

section Step

variable {head tail : Name} {subject : Value} {view : View Value}

theorem step_of_other (other : subject.asView = none) :
    ((stepDispatcher head tail).evaluate subject).result =
      .error (.noClauseAccepted (ClassTable.empty.describe subject.tag) 2) := by
  have empty (classes : ClassTable) : Pattern.emptySequence.extract classes subject = none := by
    rw [Pattern.extract_emptySequence, other]
    rfl
  have split (classes : ClassTable) :
      (Pattern.headTail (.binder head) (.binder tail)).extract classes subject = none := by
    rw [Pattern.extract_headTail, other]
    rfl
  simp only [Dispatcher.evaluate, stepDispatcher, evaluateFrom, Pattern.attempt, empty, split]
  rfl

theorem step_of_empty (shown : subject.asView = some view) (empty : view.items = []) :
    ((stepDispatcher head tail).evaluate subject).result = .ok .done := by
  have found (classes : ClassTable) :
      Pattern.emptySequence.extract classes subject = some .empty := by
    rw [Pattern.extract_emptySequence, shown]
    show Pattern.captureIf view.isEmpty .empty = _
    rw [(View.isEmpty_iff view).2 empty]
    rfl
  simp only [Dispatcher.evaluate, stepDispatcher, evaluateFrom, Pattern.attempt, found]
  rfl

theorem step_of_cons (distinct : head ≠ tail) (shown : subject.asView = some view) {item : Value}
    {others : List Value} (items : view.items = item :: others) :
    ((stepDispatcher head tail).evaluate subject).result =
      match item.asInt with
      | some number => .ok (.more number (subject.dropItems 1))
      | none => .error (.produceFault 1
          (.ofMessage (head.inspect ++ " is a " ++ item.typeName ++ ", not an Int"))) := by
  have occupied : ¬view.isEmpty = true := by
    rw [View.isEmpty_iff, items]
    exact List.cons_ne_nil item others
  have missed (classes : ClassTable) : Pattern.emptySequence.extract classes subject = none := by
    rw [Pattern.extract_emptySequence, shown]
    show Pattern.captureIf view.isEmpty .empty = _
    rw [Bool.eq_false_iff.2 occupied]
    rfl
  have first : view.first? = some item := by rw [View.first?_eq_head?, items, List.head?_cons]
  have shorter : view.tail? = some (view.behind 1) := if_neg occupied
  have found (classes : ClassTable) :
      (Pattern.headTail (.binder head) (.binder tail)).extract classes subject =
        some (.ofBinding head item ++ .ofBinding tail (subject.dropItems 1)) := by
    rw [Pattern.extract_headTail, shown]
    simp only [Option.bind_eq_bind, Option.bind_some, shorter, first, Value.withView_behind shown]
    rfl
  let environment : Environment := ⟨.single head item ++ .single tail (subject.dropItems 1), []⟩
  have number : environment.get? head = some item := by
    show (Value.field? [(head, item), (tail, subject.dropItems 1)] head).or _ = _
    rw [Value.field?_cons, if_pos rfl]
    rfl
  have rest : environment.get? tail = some (subject.dropItems 1) := by
    show (Value.field? [(head, item), (tail, subject.dropItems 1)] tail).or _ = _
    rw [Value.field?_cons, if_neg distinct, Value.field?_cons, if_pos rfl]
    rfl
  simp only [Dispatcher.evaluate, stepDispatcher, evaluateFrom, Pattern.attempt, missed, found]
  show (do return Step.more (← environment.requireInt head) (← environment.require tail) :
    Except Fault Step).mapError (EvaluationError.produceFault 1) = _
  rw [Environment.requireInt_of_get? number, Environment.require_of_get? rest]
  cases item.asInt <;> rfl

end Step

/-! ### Many steps -/

/-- Every sum of the numbers in front, up to that of all of them, is a signed 64-bit integer. -/
def SumsFit (numbers : List Int64) : Prop :=
  ∀ front, front <+: numbers → Checked.fits (front.map Int64.toInt).sum = true

theorem sumsFit_iff {numbers : List Int64} :
    SumsFit numbers ↔
      ∀ front ∈ numbers.inits, Checked.fits (front.map Int64.toInt).sum = true := by
  simp only [SumsFit, List.mem_inits]

/-- The run with earlier values left over in front. -/
def SumRun.after (later : SumRun) (rests : List Value) : SumRun :=
  ⟨rests ++ later.rests, later.ending⟩

section Steps

variable {head tail : Name} {subject : Value} {view : View Value}

/-- A run that has ended goes on in the same way however many further steps are granted. -/
theorem sumSteps_add_of_ended {dispatcher : Dispatcher Step} {steps : Nat} {total : Int64}
    (ended : (sumSteps dispatcher steps total subject).ending ≠ .unfinished) (more : Nat) :
    sumSteps dispatcher (steps + more) total subject = sumSteps dispatcher steps total subject := by
  induction steps generalizing total subject with
  | zero => exact absurd rfl ended
  | succ steps continues =>
    rw [Nat.add_right_comm, sumSteps, sumSteps]
    rw [sumSteps] at ended
    cases evaluated : (dispatcher.evaluate subject).result with
    | error error => rfl
    | ok step =>
      cases step with
      | done => rfl
      | more number rest =>
        simp only [evaluated] at ended ⊢
        cases added : Checked.add? total number with
        | none => rfl
        | some sum =>
          simp only [added] at ended ⊢
          rw [continues ended]

theorem sumSteps_of_other (other : subject.asView = none) (steps : Nat) (total : Int64) :
    sumSteps (stepDispatcher head tail) (steps + 1) total subject =
      ⟨[], .failed (.noClauseAccepted (ClassTable.empty.describe subject.tag) 2)⟩ := by
  rw [sumSteps, step_of_other other]

theorem sumSteps_of_empty (shown : subject.asView = some view) (empty : view.items = [])
    (steps : Nat) (total : Int64) :
    sumSteps (stepDispatcher head tail) (steps + 1) total subject = ⟨[], .total total⟩ := by
  rw [sumSteps, step_of_empty shown empty]

section

variable (distinct : head ≠ tail) (shown : subject.asView = some view)

include distinct shown

theorem sumSteps_of_noNumber {item : Value} {others : List Value}
    (items : view.items = item :: others) (noNumber : item.asInt = none) (steps : Nat)
    (total : Int64) :
    sumSteps (stepDispatcher head tail) (steps + 1) total subject =
      ⟨[], .failed (.produceFault 1
        (.ofMessage (head.inspect ++ " is a " ++ item.typeName ++ ", not an Int")))⟩ := by
  rw [sumSteps, step_of_cons distinct shown items, noNumber]

theorem sumSteps_of_number {item : Value} {others : List Value} {number : Int64}
    (items : view.items = item :: others) (isNumber : item.asInt = some number) (steps : Nat)
    (total : Int64) :
    sumSteps (stepDispatcher head tail) (steps + 1) total subject =
      match Checked.add? total number with
      | none => ⟨[subject.dropItems 1], .overflow⟩
      | some sum =>
        (sumSteps (stepDispatcher head tail) steps sum (subject.dropItems 1)).after
          [subject.dropItems 1] := by
  rw [sumSteps, step_of_cons distinct shown items, isNumber]
  rfl

/-- As long as the items are numbers and their sums fit, each step takes one number, and what
follows is the run on what is left with the sum so far. -/
theorem sumSteps_of_numbers {numbers : List Int64} {others : List Value} {total : Int64}
    (items : view.items = numbers.map .int ++ others)
    (fitting : ∀ front, front <+: numbers →
      Checked.fits (total.toInt + (front.map Int64.toInt).sum) = true) :
    ∃ reached, reached.toInt = total.toInt + (numbers.map Int64.toInt).sum ∧
      ∀ steps, sumSteps (stepDispatcher head tail) (steps + numbers.length) total subject =
        (sumSteps (stepDispatcher head tail) steps reached
          (subject.dropItems numbers.length)).after (subject.rests numbers.length) := by
  induction numbers generalizing subject view total with
  | nil =>
    refine ⟨total, (Int.add_zero _).symm, fun steps => ?_⟩
    rw [List.length_nil, Value.dropItems_zero]
    rfl
  | cons number numbers continues =>
    have fits := fitting [number] ⟨numbers, rfl⟩
    rw [List.map_singleton, List.sum_singleton] at fits
    obtain ⟨sum, added⟩ : ∃ sum, Checked.add? total number = some sum := ⟨_, if_pos fits⟩
    have value : sum.toInt = total.toInt + number.toInt := Checked.toInt_of_ofInt? added
    have behind : (view.behind 1).items = numbers.map .int ++ others := by
      rw [View.items_behind, items]
      rfl
    have fittingBehind (front : List Int64) (before : front <+: numbers) :
        Checked.fits (sum.toInt + (front.map Int64.toInt).sum) = true := by
      have fits := fitting (number :: front) ((List.prefix_cons_inj number).2 before)
      rwa [List.map_cons, List.sum_cons, ← Int.add_assoc, ← value] at fits
    obtain ⟨reached, reachedValue, run⟩ :=
      continues (Value.asView_dropItems shown 1) behind fittingBehind
    refine ⟨reached, ?_, fun steps => ?_⟩
    · rw [reachedValue, value, List.map_cons, List.sum_cons, Int.add_assoc]
    · rw [List.length_cons, ← Nat.add_assoc, sumSteps_of_number distinct shown items rfl, added]
      simp only
      rw [run, Value.rests_succ, Value.dropItems_dropItems, Nat.add_comm 1]
      rfl

end

/-- One step more than there are items is enough to reach an end: each step that goes on takes an
item off. -/
theorem sumSteps_ends (distinct : head ≠ tail) {steps : Nat}
    (enough : (subject.asView.map View.length).getD 0 < steps) (total : Int64) :
    (sumSteps (stepDispatcher head tail) steps total subject).ending ≠ .unfinished := by
  induction steps generalizing total subject with
  | zero => exact absurd enough (Nat.not_lt_zero _)
  | succ steps ends =>
    cases shown : subject.asView with
    | none =>
      rw [sumSteps_of_other shown]
      exact SumEnding.noConfusion
    | some view =>
      cases items : view.items with
      | nil =>
        rw [sumSteps_of_empty shown items]
        exact SumEnding.noConfusion
      | cons item others =>
        cases isNumber : item.asInt with
        | none =>
          rw [sumSteps_of_noNumber distinct shown items isNumber]
          exact SumEnding.noConfusion
        | some number =>
          rw [sumSteps_of_number distinct shown items isNumber]
          cases Checked.add? total number with
          | none => exact SumEnding.noConfusion
          | some sum =>
            refine ends ?_ sum
            have occupied := view.length_items
            rw [items, List.length_cons] at occupied
            rw [Value.asView_dropItems shown]
            rw [shown] at enough
            simp only [Option.map_some, Option.getD_some, View.length_behind] at enough ⊢
            omega

end Steps

/-! ### The sum -/

section Sum

variable {head tail : Name} {subject : Value} {view : View Value} {numbers : List Int64}

theorem sum_eq_sumSteps (shown : subject.asView = some view) (dispatcher : Dispatcher Step) :
    sum dispatcher subject = sumSteps dispatcher (view.items.length + 1) 0 subject := by
  rw [sum, shown, View.length_items]
  rfl

/-- The sum reaches whatever comes behind the numbers in front, with their sum and one step for
each of them. -/
theorem sum_of_numbers (distinct : head ≠ tail) (shown : subject.asView = some view)
    {others : List Value} (items : view.items = numbers.map .int ++ others)
    (fitting : SumsFit numbers) :
    ∃ reached, reached.toInt = (numbers.map Int64.toInt).sum ∧
      sum (stepDispatcher head tail) subject =
        (sumSteps (stepDispatcher head tail) (others.length + 1) reached
          (subject.dropItems numbers.length)).after (subject.rests numbers.length) := by
  have fittingFromZero (front : List Int64) (before : front <+: numbers) :
      Checked.fits ((0 : Int64).toInt + (front.map Int64.toInt).sum) = true := by
    rw [Int64.toInt_zero, Int.zero_add]
    exact fitting front before
  obtain ⟨reached, value, run⟩ := sumSteps_of_numbers distinct shown items fittingFromZero
  refine ⟨reached, ?_, ?_⟩
  · rw [value, Int64.toInt_zero, Int.zero_add]
  · have granted : view.items.length + 1 = others.length + 1 + numbers.length := by
      rw [items, List.length_append, List.length_map]
      omega
    rw [sum_eq_sumSteps shown, granted, run]

/-- What is left behind the numbers in front, in the view of what is left of the sequence. -/
theorem items_behind_numbers {others : List Value}
    (items : view.items = numbers.map .int ++ others) :
    (view.behind numbers.length).items = others := by
  rw [View.items_behind, items, List.drop_left' (List.length_map _)]

end Sum

/-- The step is built under any two names. After each step the rest is a run of the first sequence,
behind the items taken so far and of the same kind. If all items are numbers and their sums fit,
each takes one step and the sum is theirs. The first item that is no number fails the producer after
as many steps as there are items in front of it, and the first that makes the sum too large ends the
run one step later. Anything but a sequence fails at once, and no run is cut short by the number of
steps that it is granted. -/
theorem sum_adds_up_and_ends {head tail : Name} (distinct : head ≠ tail) (names : NameTable) :
    ∃ dispatcher, (Dispatcher.ofClauses names .start (stepClauses head tail)).outcome =
        .ok dispatcher ∧
      (∀ subject view, subject.asView = some view →
        (∀ taken ≤ view.length, ∃ part, (subject.dropItems taken).asView = some part ∧
          subject.withView part = some (subject.dropItems taken) ∧
          View.IsRun taken (view.length - taken) part view) ∧
        (∀ numbers, view.items = numbers.map .int → SumsFit numbers →
          ∃ total, total.toInt = (numbers.map Int64.toInt).sum ∧
            sum dispatcher subject = ⟨subject.rests view.length, .total total⟩) ∧
        ∀ numbers item later, view.items = numbers.map .int ++ item :: later → SumsFit numbers →
          (item.asInt = none → sum dispatcher subject = ⟨subject.rests numbers.length,
            .failed (.produceFault 1
              (.ofMessage (head.inspect ++ " is a " ++ item.typeName ++ ", not an Int")))⟩) ∧
          ∀ number, item = .int number →
            Checked.fits ((numbers.map Int64.toInt).sum + number.toInt) = false →
            sum dispatcher subject = ⟨subject.rests (numbers.length + 1), .overflow⟩) ∧
      (∀ subject, subject.asView = none → sum dispatcher subject =
        ⟨[], .failed (.noClauseAccepted (ClassTable.empty.describe subject.tag) 2)⟩) ∧
      ∀ subject, (sum dispatcher subject).ending ≠ .unfinished ∧
        ∀ steps, (subject.asView.map View.length).getD 0 < steps →
          sumSteps dispatcher steps 0 subject = sum dispatcher subject := by
  refine ⟨stepDispatcher head tail, outcome_stepClauses distinct names,
    fun subject view shown => ⟨?_, ?_, ?_⟩, ?_, ?_⟩
  · intro taken inside
    exact ⟨view.behind taken, Value.asView_dropItems shown taken,
      Value.withView_behind shown taken, View.isRun_behind inside⟩
  · intro numbers items fitting
    rw [← List.append_nil (numbers.map _)] at items
    obtain ⟨total, value, run⟩ := sum_of_numbers distinct shown items fitting
    refine ⟨total, value, ?_⟩
    have length : view.length = numbers.length := by
      rw [← View.length_items, items, List.append_nil, List.length_map]
    rw [run, sumSteps_of_empty (Value.asView_dropItems shown _) (items_behind_numbers items),
      length, SumRun.after, List.append_nil]
  · intro numbers item later items fitting
    obtain ⟨reached, value, run⟩ := sum_of_numbers distinct shown items fitting
    have left := Value.asView_dropItems shown numbers.length
    have leftItems := items_behind_numbers items
    refine ⟨fun noNumber => ?_, ?_⟩
    · rw [run, sumSteps_of_noNumber distinct left leftItems noNumber, SumRun.after,
        List.append_nil]
    · rintro number rfl tooLarge
      have overflow : Checked.add? reached number = none := by
        rw [Checked.add?, Checked.ofInt?, value, tooLarge]
        rfl
      rw [run, sumSteps_of_number distinct left leftItems rfl, overflow, SumRun.after,
        Value.dropItems_dropItems, Value.rests, Value.rests, List.range_succ, List.map_append,
        List.map_singleton]
  · intro subject other
    rw [sum, sumSteps_of_other other]
  · intro subject
    have ends := sumSteps_ends distinct
      (Nat.lt_succ_self ((subject.asView.map View.length).getD 0)) 0
    refine ⟨ends, fun steps enough => ?_⟩
    obtain ⟨more, rfl⟩ := Nat.exists_eq_add_of_lt enough
    rw [Nat.add_right_comm]
    exact sumSteps_add_of_ended ends more

/-- The first subject hides an item at either end and is a view of an array throughout. In the
second a text follows the first number, in the third a number that makes the sum too large. -/
theorem sum_adds_up_and_ends_hidden :
    let head : Name := ⟨2⟩
    let tail : Name := ⟨3⟩
    let past (offset : Nat) : Value :=
      .array .int ⟨7, #[.unit, .int 4, .int (-6), .int 9, .unit], offset, 4⟩
    let mixed : Value := .seq (.whole 8 [.int 1, .str 9 "two", .int 3])
    let large : Value := .seq (.whole 8 [.int Int64.maxValue, .int 1])
    head ≠ tail ∧ ∃ dispatcher,
      (Dispatcher.ofClauses .start .start (stepClauses head tail)).outcome = .ok dispatcher ∧
      sum dispatcher (past 1) = ⟨[past 2, past 3, past 4], .total 7⟩ ∧
      sum dispatcher mixed = ⟨[mixed.dropItems 1],
        .failed (.produceFault 1 (.ofMessage "Name(2) is a Str, not an Int"))⟩ ∧
      sum dispatcher large = ⟨[large.dropItems 1, large.dropItems 2], .overflow⟩ ∧
      sum dispatcher .unit = ⟨[], .failed (.noClauseAccepted "Unit" 2)⟩ ∧
      sumSteps dispatcher 1000 0 mixed = sum dispatcher mixed := by
  intro head tail past mixed large
  have distinct : head ≠ tail := by decide
  obtain ⟨dispatcher, built, sums, others, ends⟩ := sum_adds_up_and_ends distinct .start
  obtain ⟨-, adds, -⟩ := sums (past 1) _ rfl
  obtain ⟨-, -, stops⟩ := sums mixed _ rfl
  obtain ⟨-, -, overflows⟩ := sums large _ rfl
  obtain ⟨total, value, run⟩ := adds [4, -6, 9] rfl (sumsFit_iff.2 (by decide))
  have seven : total = 7 := Int64.toInt_inj.1 (value.trans (by decide))
  have one : SumsFit [1] := sumsFit_iff.2 (by decide)
  have most : SumsFit [Int64.maxValue] := sumsFit_iff.2 (by decide)
  have stopped := (stops [1] (.str 9 "two") [.int 3] rfl one).1 rfl
  have text : head.inspect ++ " is a " ++ (Value.str 9 "two").typeName ++ ", not an Int" =
      "Name(2) is a Str, not an Int" := by decide
  rw [text] at stopped
  refine ⟨distinct, dispatcher, built, seven ▸ run, stopped,
    (overflows [Int64.maxValue] _ _ rfl most).2 1 rfl (by decide), others .unit rfl,
    (ends mixed).2 1000 (by decide)⟩

end Demo.Sequences

end PatternDispatch
