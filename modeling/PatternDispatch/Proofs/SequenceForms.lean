/-
This file proves that a sequence of fixed length can be written in three ways. A fixed sequence
compares the lengths once and then lists its elements; a chain takes one element after the other
off one end of the subject and reaches the empty sequence last. What joins them is one step of
each chain: a first element in front of a fixed sequence, or a last one behind it, finds what the
fixed sequence with one element more finds. No length occurs in these steps, as a subject that is
too short or too long fails on both sides.
-/
import Mathlib.Data.List.Basic
import Mathlib.Data.List.Induction
import PatternDispatch.Dispatcher.Evaluation

namespace PatternDispatch.Pattern

variable (classes : ClassTable)

/-! ### One element more -/

/-- The last position can be matched apart from those in front of it, whether their numbers agree
or not. -/
theorem extractEach_concat (patterns : List Pattern) (pattern : Pattern) (items : List Value)
    (item : Value) :
    extractEach classes (patterns ++ [pattern]) (items ++ [item]) = do
      let found ← extractEach classes patterns items
      return found ++ (← pattern.extract classes item) := by
  induction patterns generalizing items with
  | nil =>
    cases items with
    | nil =>
      simp only [List.nil_append, extractEach, Option.bind_eq_bind, Option.bind_some,
        Option.pure_def, Capture.append_empty, Capture.empty_append]
    | cons other others => cases others <;> simp [extractEach]
  | cons first patterns inductionHypothesis =>
    cases items with
    | nil => cases patterns <;> simp [extractEach]
    | cons other others =>
      simp only [List.cons_append, extractEach, inductionHypothesis others, Option.bind_eq_bind,
        Option.pure_def, Option.bind_assoc, Option.bind_some, Capture.append_assoc]

/-- The empty sequence is the fixed sequence without elements. -/
theorem extract_emptySequence_fixedSequence :
    emptySequence.extract classes = (fixedSequence []).extract classes := by
  funext subject
  rw [extract_emptySequence, extract_fixedSequence]
  refine congrArg _ (funext fun view => ?_)
  cases items : view.items with
  | nil => rw [(View.isEmpty_iff view).2 items]; rfl
  | cons item others =>
    have occupied : view.isEmpty = false := by
      rw [← Bool.not_eq_true, View.isEmpty_iff, items]
      exact List.cons_ne_nil item others
    rw [occupied]
    rfl

/-- A first element in front of a fixed sequence makes a longer one. -/
theorem extract_headTail_fixedSequence (element : Pattern) (later : List Pattern) :
    (headTail element (fixedSequence later)).extract classes =
      (fixedSequence (element :: later)).extract classes := by
  funext subject
  rw [extract_headTail, extract_fixedSequence]
  refine Option.bind_congr fun view shown => ?_
  cases items : view.items with
  | nil =>
    rw [(View.tail?_eq_none_iff view).2 items]
    rfl
  | cons item others =>
    obtain ⟨rest, shorter, rfl, first⟩ := View.exists_tail? items
    obtain ⟨part, kept⟩ := Value.exists_withView shown rest
    simp only [shorter, kept, first, extract_fixedSequence, Value.asView_of_withView kept,
      extractEach, Option.bind_eq_bind, Option.bind_some]

/-- A last element behind a fixed sequence makes a longer one. -/
theorem extract_initLast_fixedSequence (earlier : List Pattern) (element : Pattern) :
    (initLast (fixedSequence earlier) element).extract classes =
      (fixedSequence (earlier ++ [element])).extract classes := by
  funext subject
  rw [extract_initLast, extract_fixedSequence]
  refine Option.bind_congr fun view shown => ?_
  obtain items | ⟨others, item, items⟩ := List.eq_nil_or_concat' view.items
  · have unmatched : extractEach classes (earlier ++ [element]) [] = none := by
      cases earlier <;> rfl
    rw [(View.init?_eq_none_iff view).2 items, items, unmatched]
    rfl
  · obtain ⟨front, shorter, rfl, final⟩ := View.exists_init? items
    obtain ⟨part, kept⟩ := Value.exists_withView shown front
    simp only [shorter, kept, final, items, extract_fixedSequence, Value.asView_of_withView kept,
      extractEach_concat, Option.bind_eq_bind, Option.bind_some]

/-! ### Chains -/

/-- The elements, each in front of the rest of the sequence. -/
def headTailChain : List Pattern → Pattern
  | [] => emptySequence
  | element :: later => headTail element (headTailChain later)

/-- The elements, each behind the front of the sequence. -/
def initLastChain (elements : List Pattern) : Pattern := elements.foldl initLast emptySequence

theorem initLastChain_concat (earlier : List Pattern) (element : Pattern) :
    initLastChain (earlier ++ [element]) = initLast (initLastChain earlier) element := by
  rw [initLastChain, List.foldl_concat, initLastChain]

theorem extract_headTailChain (elements : List Pattern) :
    (headTailChain elements).extract classes = (fixedSequence elements).extract classes := by
  induction elements with
  | nil => exact extract_emptySequence_fixedSequence classes
  | cons element later inductionHypothesis =>
    rw [← extract_headTail_fixedSequence]
    funext subject
    rw [headTailChain, extract_headTail, extract_headTail, inductionHypothesis]

theorem extract_initLastChain (elements : List Pattern) :
    (initLastChain elements).extract classes = (fixedSequence elements).extract classes := by
  induction elements using List.reverseRecOn with
  | nil => exact extract_emptySequence_fixedSequence classes
  | append_singleton earlier element inductionHypothesis =>
    rw [← extract_initLast_fixedSequence, initLastChain_concat]
    funext subject
    rw [extract_initLast, extract_initLast, inductionHypothesis]

/-! ### Attempts -/

variable {classes} in
/-- Patterns that find the same make the same attempts. -/
theorem attempt_of_extract_eq {first second : Pattern}
    (alike : first.extract classes = second.extract classes) (clause : Nat) (subject : Value) :
    first.attempt classes clause subject = second.attempt classes clause subject := by
  rw [attempt, attempt, alike]

/-- Both chains of a list of patterns do to every value what the fixed sequence of the list does:
they accept the same values, with the same bindings and the same notices in the same order. -/
theorem attempt_chain_eq_fixedSequence (clause : Nat) (elements : List Pattern)
    (subject : Value) :
    (headTailChain elements).attempt classes clause subject =
        (fixedSequence elements).attempt classes clause subject ∧
      (initLastChain elements).attempt classes clause subject =
        (fixedSequence elements).attempt classes clause subject :=
  ⟨attempt_of_extract_eq (extract_headTailChain classes elements) clause subject,
    attempt_of_extract_eq (extract_initLastChain classes elements) clause subject⟩

/-- The two chains nest in opposite directions. -/
example (first second : Pattern) :
    headTailChain [first, second] = headTail first (headTail second emptySequence) ∧
      initLastChain [first, second] = initLast (initLast emptySequence first) second :=
  ⟨rfl, rfl⟩

end PatternDispatch.Pattern
