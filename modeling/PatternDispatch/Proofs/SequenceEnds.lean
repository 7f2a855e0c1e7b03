/-
This file proves how patterns that take elements off the ends of a sequence fit together. Where a
subject is long enough, a head/tail or an init/last pattern joins what its two parts find, and
joining is associative. So it makes no difference which end of a sequence is taken off first: what
is left in the middle is one and the same view. And a first element in front of a chain of
wildcards asks for nothing but that element and enough others behind it.
-/
import Mathlib.Data.List.Basic
import PatternDispatch.Proofs.SequenceForms
import PatternDispatch.Proofs.Views

namespace PatternDispatch

/-! ### Both ends of a view -/

namespace View

variable {Item : Type} {view rest front inner : View Item}

theorem first?_of_init? (shorter : view.init? = some front) (long : 1 < view.length) :
    front.first? = view.first? := by
  rw [first?_eq_head?, first?_eq_head?, items_of_init? shorter, List.head?_dropLast, length_items,
    if_pos long]

theorem last?_of_tail? (shorter : view.tail? = some rest) (long : 1 < view.length) :
    rest.last? = view.last? := by
  rw [last?_eq_getLast?, last?_eq_getLast?, items_of_tail? shorter, List.getLast?_tail,
    length_items, if_neg (Nat.ne_of_gt long)]

/-- The first and the last item can be taken away in either order. -/
theorem init?_eq_tail? (shorter : view.tail? = some rest) (shorterFront : view.init? = some front) :
    rest.init? = front.tail? := by
  have together : rest.isEmpty = front.isEmpty := by
    rw [isEmpty, isEmpty, length_of_step? (.inl rfl) shorter,
      length_of_step? (.inr rfl) shorterFront]
  rw [init?, tail?, together]
  simp only [tail?, init?, Option.ite_none_left_eq_some, Option.some.injEq]
    at shorter shorterFront
  obtain ⟨-, rfl⟩ := shorter
  obtain ⟨-, rfl⟩ := shorterFront
  rfl

theorem exists_first?_iff : (∃ item, view.first? = some item) ↔ 0 < view.length := by
  rw [first?_eq_head?, ← Option.isSome_iff_exists, List.isSome_head?, ← length_items,
    List.length_pos_iff]

section OneEnd

variable {one other : Step}

theorem exists_step?_of_pos (oneEnd : one = .tail ∨ one = .init) (occupied : 0 < view.length) :
    ∃ rest, view.step? one = some rest := by
  refine Option.ne_none_iff_exists'.1 fun refused => Nat.ne_of_gt occupied ?_
  rcases oneEnd with rfl | rfl <;> exact (step?_eq_none_iff view _).1 refused

/-- Two items cannot be taken off the ends of a view that does not show as many. -/
theorem step?_eq_none_of_short (oneEnd : one = .tail ∨ one = .init)
    (otherEnd : other = .tail ∨ other = .init) (shorter : view.step? one = some rest)
    (short : view.length < 2) : rest.step? other = none := by
  have emptied : rest.length = 0 := by
    rw [length_of_step? oneEnd shorter]
    exact Nat.sub_eq_zero_of_le (Nat.le_of_lt_succ short)
  rcases otherEnd with rfl | rfl <;> exact (step?_eq_none_iff rest _).2 emptied

end OneEnd

/-- What is left once both ends are taken away is the run of the items between them. -/
theorem isRun_of_both (shorter : view.tail? = some rest) (shortest : rest.init? = some inner) :
    IsRun 1 (view.length - 2) inner view := by
  have one : view.step? .tail = some rest := shorter
  have other : rest.step? .init = some inner := shortest
  have behind : IsRun 1 _ rest view := isRun_of_step? one
  have within : IsRun 0 _ inner rest := isRun_of_step? other
  refine ⟨within.cell.trans behind.cell, within.backing.trans behind.backing, behind.inside,
    within.offset.trans behind.offset, ?_⟩
  rw [items_of_init? shortest, items_of_tail? shorter, List.dropLast_eq_take, List.length_tail,
    length_items, List.drop_one, Nat.sub_sub]

end View

/-! ### A subject with two ends -/

namespace Value

variable {subject part : Value} {view inner : View Value}

/-- A replaced view can be replaced again. -/
theorem withView_of_withView (replaced : subject.withView view = some part) (other : View Value) :
    part.withView other = subject.withView other := by
  cases subject <;> cases replaced <;> rfl

/-- The sequence over `view` has a first item and another one, the last; what lies between them is
the view `inner`, and `part` is the same kind of sequence over it. -/
structure SplitAt (subject : Value) (view inner : View Value) (first part final : Value) :
    Prop where
  shown : subject.asView = some view
  long : 1 < view.length
  first : view.first? = some first
  final : view.last? = some final
  fromFront : view.tail?.bind View.init? = some inner
  fromBack : view.init?.bind View.tail? = some inner
  run : View.IsRun 1 (view.length - 2) inner view
  length : inner.length = view.length - 2
  kept : subject.withView inner = some part

theorem exists_splitAt (shown : subject.asView = some view) (long : 1 < view.length) :
    ∃ inner first part final, subject.SplitAt view inner first part final := by
  have occupied : 0 < view.length := Nat.zero_lt_of_lt long
  obtain ⟨rest, shorter⟩ : ∃ rest, view.tail? = some rest :=
    View.exists_step?_of_pos (.inl rfl) occupied
  obtain ⟨front, shorterFront⟩ : ∃ front, view.init? = some front :=
    View.exists_step?_of_pos (.inr rfl) occupied
  have several : 0 < rest.length := by
    rw [View.length_of_step? (.inl rfl) shorter]
    exact Nat.sub_pos_of_lt long
  obtain ⟨inner, shortest⟩ : ∃ inner, rest.init? = some inner :=
    View.exists_step?_of_pos (.inr rfl) several
  have shortestFront : front.tail? = some inner :=
    (View.init?_eq_tail? shorter shorterFront).symm.trans shortest
  have filled : view.items ≠ [] := by
    rwa [← List.length_pos_iff, View.length_items]
  obtain ⟨part, kept⟩ := exists_withView shown inner
  refine ⟨inner, view.items.head filled, part, view.items.getLast filled, shown, long, ?_, ?_, ?_,
    ?_, View.isRun_of_both shorter shortest, ?_, kept⟩
  · rw [View.first?_eq_head?, List.head?_eq_some_head]
  · rw [View.last?_eq_getLast?, List.getLast?_eq_some_getLast]
  · rw [shorter, Option.bind_some, shortest]
  · rw [shorterFront, Option.bind_some, shortestFront]
  · rw [View.length_of_step? (.inr rfl) shortest, View.length_of_step? (.inl rfl) shorter,
      Nat.sub_sub]

end Value

/-! ### Joined searches -/

/-- What two searches find, the first in front; nothing if one of them fails. -/
def Capture.join (front back : Option Capture) : Option Capture := do
  return (← front) ++ (← back)

theorem Capture.join_assoc (front middle back : Option Capture) :
    join (join front middle) back = join front (join middle back) := by
  cases front <;> cases middle <;> cases back <;>
    simp [join, Capture.append_assoc]

namespace Pattern

variable (classes : ClassTable) (head tail init middle last : Pattern)
  {subject part item : Value} {view rest front : View Value}

theorem extract_headTail_eq_join (shown : subject.asView = some view)
    (shorter : view.tail? = some rest) (kept : subject.withView rest = some part)
    (first : view.first? = some item) :
    (headTail head tail).extract classes subject =
      Capture.join (head.extract classes item) (tail.extract classes part) := by
  simp only [extract_headTail, shown, shorter, kept, first, Option.bind_eq_bind, Option.bind_some,
    Capture.join]

theorem extract_initLast_eq_join (shown : subject.asView = some view)
    (shorter : view.init? = some front) (kept : subject.withView front = some part)
    (final : view.last? = some item) :
    (initLast init last).extract classes subject =
      Capture.join (init.extract classes part) (last.extract classes item) := by
  simp only [extract_initLast, shown, shorter, kept, final, Option.bind_eq_bind, Option.bind_some,
    Capture.join]

theorem extract_headTail_eq_none
    (fails : ∀ view rest part, subject.asView = some view → view.tail? = some rest →
      subject.withView rest = some part → tail.extract classes part = none) :
    (headTail head tail).extract classes subject = none := by
  rw [extract_headTail]
  refine Option.bind_eq_none_iff.2 fun view shown => Option.bind_eq_none_iff.2 fun rest shorter =>
    Option.bind_eq_none_iff.2 fun part kept => ?_
  rw [fails view rest part shown shorter kept]
  simp

theorem extract_initLast_eq_none (fails : ∀ view front part, subject.asView = some view →
      view.init? = some front → subject.withView front = some part →
        init.extract classes part = none) :
    (initLast init last).extract classes subject = none := by
  rw [extract_initLast]
  refine Option.bind_eq_none_iff.2 fun view shown => Option.bind_eq_none_iff.2 fun front shorter =>
    Option.bind_eq_none_iff.2 fun part kept => ?_
  rw [fails view front part shown shorter kept]
  simp

/-! ### Both ends of a sequence -/

section BothEnds

variable {inner : View Value} {first final : Value}
  (split : subject.SplitAt view inner first part final)

include split

/-- Whichever end is taken off first, the same three parts are matched, from left to right. -/
theorem extract_headTail_initLast :
    (headTail head (initLast middle last)).extract classes subject =
      Capture.join (head.extract classes first)
        (Capture.join (middle.extract classes part) (last.extract classes final)) := by
  obtain ⟨rest, shorter, shortest⟩ := Option.bind_eq_some_iff.1 split.fromFront
  obtain ⟨behind, replaced⟩ := Value.exists_withView split.shown rest
  have kept := (Value.withView_of_withView replaced inner).trans split.kept
  have finalBehind := (View.last?_of_tail? shorter split.long).trans split.final
  rw [extract_headTail_eq_join classes head _ split.shown shorter replaced split.first,
    extract_initLast_eq_join classes middle last (Value.asView_of_withView replaced) shortest kept
      finalBehind]

theorem extract_initLast_headTail :
    (initLast (headTail head middle) last).extract classes subject =
      Capture.join (head.extract classes first)
        (Capture.join (middle.extract classes part) (last.extract classes final)) := by
  obtain ⟨front, shorter, shortest⟩ := Option.bind_eq_some_iff.1 split.fromBack
  obtain ⟨before, replaced⟩ := Value.exists_withView split.shown front
  have kept := (Value.withView_of_withView replaced inner).trans split.kept
  have firstBefore := (View.first?_of_init? shorter split.long).trans split.first
  rw [extract_initLast_eq_join classes _ last split.shown shorter replaced split.final,
    extract_headTail_eq_join classes head middle (Value.asView_of_withView replaced) shortest kept
      firstBefore, Capture.join_assoc]

end BothEnds

/-- A subject without two ends is refused whichever end is taken off first. -/
theorem extract_bothEnds_of_short
    (short : ∀ view, subject.asView = some view → view.length < 2) :
    (headTail head (initLast middle last)).extract classes subject = none ∧
      (initLast (headTail head middle) last).extract classes subject = none := by
  constructor
  · refine extract_headTail_eq_none classes head _ fun view rest part shown shorter kept => ?_
    have refused : rest.init? = none :=
      View.step?_eq_none_of_short (.inl rfl) (.inr rfl) shorter (short view shown)
    simp only [extract_initLast, Value.asView_of_withView kept, refused, Option.bind_eq_bind,
      Option.bind_some, Option.bind_none]
  · refine extract_initLast_eq_none classes _ last fun view front part shown shorter kept => ?_
    have refused : front.tail? = none :=
      View.step?_eq_none_of_short (.inr rfl) (.inl rfl) shorter (short view shown)
    simp only [extract_headTail, Value.asView_of_withView kept, refused, Option.bind_eq_bind,
      Option.bind_some, Option.bind_none]

theorem extract_headTail_initLast_eq :
    (headTail head (initLast middle last)).extract classes =
      (initLast (headTail head middle) last).extract classes := by
  funext subject
  by_cases short : ∀ view, subject.asView = some view → view.length < 2
  -- Of one element both forms take the element off; what fails is the second step of each.
  · obtain ⟨refused, refusedToo⟩ := extract_bothEnds_of_short classes head middle last short
    rw [refused, refusedToo]
  · push Not at short
    obtain ⟨view, shown, long⟩ := short
    obtain ⟨inner, first, part, final, split⟩ := Value.exists_splitAt shown long
    rw [extract_headTail_initLast classes head middle last split,
      extract_initLast_headTail classes head middle last split]

/-- It makes no difference whether a pattern takes off the first element or the last one first.
Both ways refuse whatever is not a sequence of at least two elements. Of any other subject both
match the first element, what lies between, shown by one and the same view, and the last. -/
theorem peeling_ends_commutes (clause : Nat) (subject : Value) :
    (headTail head (initLast middle last)).attempt classes clause subject =
        (initLast (headTail head middle) last).attempt classes clause subject ∧
      ((∀ view, subject.asView = some view → view.length < 2) →
        (headTail head (initLast middle last)).attempt classes clause subject = ⟨.rejected, []⟩) ∧
      ∀ view, subject.asView = some view → 2 ≤ view.length →
        ∃ inner first part final, subject.SplitAt view inner first part final ∧
          (headTail head (initLast middle last)).extract classes subject =
            Capture.join (head.extract classes first)
              (Capture.join (middle.extract classes part) (last.extract classes final)) ∧
          (initLast (headTail head middle) last).extract classes subject =
            Capture.join (head.extract classes first)
              (Capture.join (middle.extract classes part) (last.extract classes final)) := by
  have alike := extract_headTail_initLast_eq classes head middle last
  refine ⟨attempt_of_extract_eq alike clause subject, fun short => ?_, fun view shown long => ?_⟩
  · rw [attempt, (extract_bothEnds_of_short classes head middle last short).1]
  · obtain ⟨inner, first, part, final, split⟩ := Value.exists_splitAt shown long
    have fromFront := extract_headTail_initLast classes head middle last split
    have fromBack := extract_initLast_headTail classes head middle last split
    exact ⟨inner, first, part, final, split, fromFront, fromBack⟩

/-- An array view behind a hidden item is split at both ends: the middle is bound as an array that
starts one item later. A sequence of one element is refused. -/
theorem peeling_ends_commutes_offset :
    let view : View Value := ⟨1, #[.int 9, .int 1, .int 2, .int 3, .int 8], 1, 4⟩
    let inner : View Value := ⟨1, #[.int 9, .int 1, .int 2, .int 3, .int 8], 2, 3⟩
    let pattern := headTail (binder ⟨1⟩) (initLast (binder ⟨2⟩) (binder ⟨3⟩))
    let mirrored := initLast (headTail (binder ⟨1⟩) (binder ⟨2⟩)) (binder ⟨3⟩)
    pattern.attempt .empty 0 (.seq (.whole 0 [.unit])) = ⟨.rejected, []⟩ ∧ 2 ≤ view.length ∧
      (Value.array .int view).SplitAt view inner (.int 1) (.array .int inner) (.int 3) ∧
      pattern.attempt .empty 0 (.array .int view) = mirrored.attempt .empty 0 (.array .int view) ∧
      (mirrored.attempt .empty 0 (.array .int view)).outcome =
        .accepted ⟨[(⟨1⟩, .int 1), (⟨2⟩, .array .int inner), (⟨3⟩, .int 3)]⟩ := by
  intro view inner pattern mirrored
  have long : 2 ≤ view.length := by decide
  have single : ∀ other, (Value.seq (.whole 0 [.unit])).asView = some other → other.length < 2 := by
    intro other shown
    cases shown
    decide
  obtain ⟨-, refused, -⟩ := peeling_ends_commutes .empty (binder ⟨1⟩) (binder ⟨2⟩) (binder ⟨3⟩) 0
    (.seq (.whole 0 [.unit]))
  obtain ⟨alike, -, around⟩ := peeling_ends_commutes .empty (binder ⟨1⟩) (binder ⟨2⟩) (binder ⟨3⟩) 0
    (.array .int view)
  obtain ⟨found, first, part, final, split, -, fromBack⟩ := around view rfl long
  cases split.fromFront
  cases split.first
  cases split.final
  cases split.kept
  refine ⟨refused single, long, split, alike, ?_⟩
  rw [attempt, fromBack]
  rfl

/-! ### A least number of elements -/

/-- Of sequences the pattern accepts those of at least `count` elements, and finds nothing there. -/
def AcceptsFrom (classes : ClassTable) (count : Nat) (pattern : Pattern) : Prop :=
  ∀ subject view, subject.asView = some view →
    pattern.extract classes subject = if count ≤ view.length then some .empty else none

variable {tail} in
/-- With a tail that only counts, a head/tail pattern is a sequence head with a minimum. -/
theorem extract_headTail_of_acceptsFrom {count : Nat} (accepts : AcceptsFrom classes count tail) :
    (headTail head tail).extract classes =
      (sequenceHead head (count + 1)).extract classes := by
  funext subject
  rw [extract_headTail, extract_sequenceHead]
  refine Option.bind_congr fun view shown => ?_
  cases items : view.items with
  | nil =>
    have empty : view.length = 0 := by rw [← View.length_items, items, List.length_nil]
    rw [(View.tail?_eq_none_iff view).2 items, empty, if_neg (Nat.not_succ_le_zero count)]
    rfl
  | cons item others =>
    obtain ⟨rest, shorter, rfl, first⟩ := View.exists_tail? items
    obtain ⟨part, kept⟩ := Value.exists_withView shown rest
    have longer : view.length = rest.length + 1 := by
      rw [← View.length_items, items, List.length_cons, View.length_items]
    have counted := accepts part rest (Value.asView_of_withView kept)
    simp only [shorter, kept, first, Option.bind_eq_bind, Option.bind_some, counted, longer,
      Nat.add_le_add_iff_right]
    by_cases enough : count ≤ rest.length <;> simp [enough, Capture.append_empty]

/-- A head asks for one element, whatever the minimum. -/
theorem extract_sequenceHead_max_one (minimum : Nat) :
    (sequenceHead head (max minimum 1)).extract classes =
      (sequenceHead head minimum).extract classes := by
  funext subject
  rw [extract_sequenceHead, extract_sequenceHead]
  refine Option.bind_congr fun view shown => ?_
  cases first : view.first? with
  | none => simp
  | some item =>
    have occupied : 1 ≤ view.length := View.exists_first?_iff.1 ⟨item, first⟩
    simp only [Nat.max_le, occupied, and_true]

/-- A sequence of at least `count` elements, whatever they are; for `count = 0` any value. -/
def wildcardChain : Nat → Pattern
  | 0 => wildcard
  | count + 1 => headTail wildcard (wildcardChain count)

theorem acceptsFrom_wildcardChain (count : Nat) :
    AcceptsFrom classes count (wildcardChain count) := by
  induction count with
  | zero => exact fun _ view _ => (if_pos (Nat.zero_le view.length)).symm
  | succ count inductionHypothesis =>
    intro subject view shown
    rw [wildcardChain, extract_headTail_of_acceptsFrom classes wildcard inductionHypothesis,
      extract_sequenceHead, shown, Option.bind_eq_bind, Option.bind_some]
    split
    · next long =>
      obtain ⟨item, first⟩ := View.exists_first?_iff.2 (Nat.zero_lt_of_lt long)
      rw [first]
      rfl
    · rfl

/-- A sequence head with a minimum asks for what its unfolding does: the head in front of as many
elements of any kind as the minimum leaves, and anything behind them. -/
theorem attempt_sequenceHead_eq_wildcardChain (minimum clause : Nat) (subject : Value) :
    (sequenceHead head minimum).attempt classes clause subject =
      (headTail head (wildcardChain (max minimum 1 - 1))).attempt classes clause subject := by
  refine attempt_of_extract_eq ?_ clause subject
  have positive : max minimum 1 - 1 + 1 = max minimum 1 := Nat.sub_add_cancel (Nat.le_max_right _ _)
  have counts := acceptsFrom_wildcardChain classes (max minimum 1 - 1)
  calc (sequenceHead head minimum).extract classes
      = (sequenceHead head (max minimum 1)).extract classes :=
        (extract_sequenceHead_max_one classes head minimum).symm
    _ = (sequenceHead head (max minimum 1 - 1 + 1)).extract classes := by rw [positive]
    _ = (headTail head (wildcardChain (max minimum 1 - 1))).extract classes :=
        (extract_headTail_of_acceptsFrom classes head counts).symm

/-- A minimum of three unfolds to two wildcards in front of the rest. -/
example : headTail head (wildcardChain (max 3 1 - 1)) =
    headTail head (headTail wildcard (headTail wildcard wildcard)) := rfl

end Pattern

end PatternDispatch
