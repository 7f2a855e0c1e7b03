/-
This file proves what a successful match consists of. `Finds` says form by form which parts
of the subject a pattern looks at and how the findings of its parts are put together, so
whatever holds of every successful match is proved from these rules and not from the search.
-/
import PatternDispatch.Dispatcher.Evaluation
import PatternDispatch.Proofs.Induction

namespace PatternDispatch

mutual

/-- The pattern accepts the subject and captures what it finds there. -/
inductive Finds (classes : ClassTable) : Pattern → Value → Capture → Prop
  | literal {value subject} (equal : subject.equals value = true) :
    Finds classes (.literal value) subject .empty
  | stableReference {name value subject} (equal : subject.equals value = true) :
    Finds classes (.stableReference name value) subject .empty
  | wildcard {subject} : Finds classes .wildcard subject .empty
  | binder {name subject} : Finds classes (.binder name) subject (.ofBinding name subject)
  | checked {tag subject} (conforms : subject.checkTag classes tag = .accepted) :
    Finds classes (.typeTest tag) subject .empty
  | erased {tag subject} (conforms : subject.checkTag classes tag = .acceptedErased) :
    Finds classes (.typeTest tag) subject (.ofErasure ⟨tag, subject.tag⟩)
  | fixedSequence {elements subject view found} (shown : subject.asView = some view)
    (each : FindsEach classes elements view.items found) :
    Finds classes (.fixedSequence elements) subject found
  | sequenceHead {head minimum subject view item found} (shown : subject.asView = some view)
    (long : minimum ≤ view.length) (first : view.first? = some item)
    (inHead : Finds classes head item found) :
    Finds classes (.sequenceHead head minimum) subject found
  | headTail {head tail subject view rest part item found later}
    (shown : subject.asView = some view) (shorter : view.tail? = some rest)
    (kept : subject.withView rest = some part) (first : view.first? = some item)
    (inHead : Finds classes head item found) (inTail : Finds classes tail part later) :
    Finds classes (.headTail head tail) subject (found ++ later)
  | initLast {init last subject view front part item found later}
    (shown : subject.asView = some view) (shorter : view.init? = some front)
    (kept : subject.withView front = some part) (final : view.last? = some item)
    (inInit : Finds classes init part found) (inLast : Finds classes last item later) :
    Finds classes (.initLast init last) subject (found ++ later)
  | emptySequence {subject view} (shown : subject.asView = some view)
    (empty : view.isEmpty = true) : Finds classes .emptySequence subject .empty
  | tuple {elements subject items found} (shown : subject.asTuple = some items)
    (each : FindsEach classes elements items found) :
    Finds classes (.tuple elements) subject found
  | bound {name inner subject found} (within : Finds classes inner subject found) :
    Finds classes (.bound name inner) subject (.ofBinding name subject ++ found)

/-- As many patterns as values accept position by position. -/
inductive FindsEach (classes : ClassTable) : List Pattern → List Value → Capture → Prop
  | nil : FindsEach classes [] [] .empty
  | cons {pattern patterns item items found later} (inFirst : Finds classes pattern item found)
    (inRest : FindsEach classes patterns items later) :
    FindsEach classes (pattern :: patterns) (item :: items) (found ++ later)

end

theorem Finds.checkTag_ne_rejected {classes : ClassTable} {tag : Tag} {subject : Value}
    {capture : Capture} (found : Finds classes (.typeTest tag) subject capture) :
    subject.checkTag classes tag ≠ .rejected := by
  cases found with
  | checked conforms | erased conforms =>
    rw [conforms]
    exact TagCheck.noConfusion

namespace Pattern

/-- Whether the search for this pattern succeeds exactly as the rules say. -/
def FoundAsRuled (classes : ClassTable) (pattern : Pattern) : Prop :=
  ∀ subject capture, pattern.extract classes subject = some capture ↔
    Finds classes pattern subject capture

theorem captureIf_eq_some {condition : Bool} {later capture : Capture} :
    captureIf condition later = some capture ↔ condition = true ∧ later = capture := by
  rw [captureIf, Option.ite_none_right_eq_some, Option.some.injEq]

theorem captureTest_eq_some {classes : ClassTable} {tag : Tag} {subject : Value}
    {capture : Capture} :
    captureTest classes tag subject .empty = some capture ↔
      Finds classes (.typeTest tag) subject capture := by
  unfold captureTest
  constructor
  · intro found
    cases conforms : subject.checkTag classes tag <;> rw [conforms] at found
    · cases found
      exact .checked conforms
    · cases found
      exact .erased conforms
    · cases found
  · intro found
    cases found with
    | checked conforms => rw [conforms]
    | erased conforms => rw [conforms]; rfl

theorem extractEach_eq_some (classes : ClassTable) (patterns : List Pattern)
    (ruled : ∀ pattern ∈ patterns, FoundAsRuled classes pattern) (items : List Value)
    (capture : Capture) :
    extractEach classes patterns items = some capture ↔
      FindsEach classes patterns items capture := by
  induction patterns generalizing items capture with
  | nil =>
    cases items with
    | nil =>
      refine ⟨fun found => ?_, fun found => ?_⟩ <;> cases found
      · exact .nil
      · rfl
    | cons => refine ⟨fun found => ?_, fun found => ?_⟩ <;> cases found
  | cons pattern patterns inductionHypothesis =>
    cases items with
    | nil => refine ⟨fun found => ?_, fun found => ?_⟩ <;> cases found
    | cons item items =>
      obtain ⟨first, rest⟩ := List.forall_mem_cons.1 ruled
      simp only [extractEach, Option.bind_eq_bind, Option.bind_eq_some_iff, Option.pure_def,
        Option.some.injEq]
      constructor
      · rintro ⟨found, inFirst, later, inRest, rfl⟩
        exact .cons ((first _ _).1 inFirst) ((inductionHypothesis rest _ _).1 inRest)
      · intro found
        cases found with
        | cons inFirst inRest =>
          exact ⟨_, (first _ _).2 inFirst, _, (inductionHypothesis rest _ _).2 inRest, rfl⟩

theorem foundAsRuled (classes : ClassTable) (pattern : Pattern) :
    FoundAsRuled classes pattern := by
  induction pattern using Pattern.induction with
  | literal value | stableReference name value =>
    intro subject capture
    refine captureIf_eq_some.trans ⟨?_, fun found => ?_⟩
    · rintro ⟨equal, rfl⟩
      constructor
      exact equal
    · cases found
      exact ⟨‹_›, rfl⟩
  | wildcard =>
    intro subject capture
    refine ⟨fun found => ?_, fun found => ?_⟩ <;> cases found
    · exact .wildcard
    · rfl
  | binder name =>
    intro subject capture
    refine ⟨fun found => ?_, fun found => ?_⟩ <;> cases found
    · exact .binder
    · rfl
  | typeTest tag => exact fun subject capture => captureTest_eq_some
  | fixedSequence elements each =>
    intro subject capture
    rw [extract_fixedSequence]
    simp only [Option.bind_eq_bind, Option.bind_eq_some_iff,
      extractEach_eq_some classes elements each]
    constructor
    · rintro ⟨view, shown, found⟩
      exact .fixedSequence shown found
    · intro found
      cases found with
      | fixedSequence shown found => exact ⟨_, shown, found⟩
  | sequenceHead head minimum inHead =>
    intro subject capture
    rw [extract_sequenceHead]
    simp only [Option.bind_eq_bind, Option.bind_eq_some_iff, Option.ite_none_right_eq_some,
      inHead _ _]
    constructor
    · rintro ⟨view, shown, long, item, first, found⟩
      exact .sequenceHead shown long first found
    · intro found
      cases found with
      | sequenceHead shown long first found => exact ⟨_, shown, long, _, first, found⟩
  | headTail head tail inHead inTail =>
    intro subject capture
    rw [extract_headTail]
    simp only [Option.bind_eq_bind, Option.bind_eq_some_iff, Option.pure_def, Option.some.injEq,
      inHead _ _, inTail _ _]
    constructor
    · rintro ⟨view, shown, rest, shorter, part, kept, item, first, found, left, later, right, rfl⟩
      exact .headTail shown shorter kept first left right
    · intro found
      cases found with
      | headTail shown shorter kept first left right =>
        exact ⟨_, shown, _, shorter, _, kept, _, first, _, left, _, right, rfl⟩
  | initLast init last inInit inLast =>
    intro subject capture
    rw [extract_initLast]
    simp only [Option.bind_eq_bind, Option.bind_eq_some_iff, Option.pure_def, Option.some.injEq,
      inInit _ _, inLast _ _]
    constructor
    · rintro ⟨view, shown, front, shorter, part, kept, item, final, found, left, later, right, rfl⟩
      exact .initLast shown shorter kept final left right
    · intro found
      cases found with
      | initLast shown shorter kept final left right =>
        exact ⟨_, shown, _, shorter, _, kept, _, final, _, left, _, right, rfl⟩
  | emptySequence =>
    intro subject capture
    rw [extract_emptySequence]
    simp only [Option.bind_eq_bind, Option.bind_eq_some_iff, captureIf_eq_some]
    constructor
    · rintro ⟨view, shown, empty, rfl⟩
      exact .emptySequence shown empty
    · intro found
      cases found with
      | emptySequence shown empty => exact ⟨_, shown, empty, rfl⟩
  | tuple elements each =>
    intro subject capture
    rw [extract_tuple]
    simp only [Option.bind_eq_bind, Option.bind_eq_some_iff,
      extractEach_eq_some classes elements each]
    constructor
    · rintro ⟨items, shown, found⟩
      exact .tuple shown found
    · intro found
      cases found with
      | tuple shown found => exact ⟨_, shown, found⟩
  | bound name inner within =>
    intro subject capture
    rw [extract_bound]
    simp only [Option.bind_eq_bind, Option.bind_eq_some_iff, Option.pure_def, Option.some.injEq,
      within _ _]
    constructor
    · rintro ⟨found, inInner, rfl⟩
      exact .bound inInner
    · intro found
      cases found with
      | bound inInner => exact ⟨_, inInner, rfl⟩

/-- The search captures exactly what the rules allow. -/
theorem extract_eq_some_iff {classes : ClassTable} {pattern : Pattern} {subject : Value}
    {capture : Capture} :
    pattern.extract classes subject = some capture ↔ Finds classes pattern subject capture :=
  foundAsRuled classes pattern subject capture

/-! ### Attempts -/

variable (classes : ClassTable) (clause : Nat) (pattern : Pattern) (subject : Value)

theorem attempt_accepted_iff (bindings : Bindings) :
    (pattern.attempt classes clause subject).outcome = .accepted bindings ↔
      ∃ capture, Finds classes pattern subject capture ∧ capture.bindings = bindings := by
  simp only [← extract_eq_some_iff, attempt]
  cases pattern.extract classes subject with
  | none => simp
  | some capture => simp

theorem exists_accepted_iff :
    (∃ bindings, (pattern.attempt classes clause subject).outcome = .accepted bindings) ↔
      ∃ capture, Finds classes pattern subject capture := by
  simp only [attempt_accepted_iff]
  constructor
  · rintro ⟨bindings, capture, found, -⟩
    exact ⟨capture, found⟩
  · rintro ⟨capture, found⟩
    exact ⟨capture.bindings, capture, found, rfl⟩

theorem attempt_rejected_iff :
    (pattern.attempt classes clause subject).outcome = .rejected ↔
      ∀ capture, ¬Finds classes pattern subject capture := by
  simp only [← extract_eq_some_iff, attempt]
  cases pattern.extract classes subject with
  | none => simp
  | some capture => simp

end Pattern

end PatternDispatch
