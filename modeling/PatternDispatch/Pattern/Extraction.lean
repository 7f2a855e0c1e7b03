/-
This file matches values against patterns. A match either fails as a whole or yields the
bindings and the erased type tests of all parts, from left to right. Each part puts what it
finds in front of what the parts behind it found, so no list is copied on the way. A list of
patterns is compared with the items by its length first, and then position by position as far
as both lists go. The laws of the second half read the same search part by part:
`extract_headTail` and its neighbours say what each form finds in terms of what its parts find
on their own.
-/
import PatternDispatch.Bindings
import PatternDispatch.Pattern
import PatternDispatch.TagCheck

namespace PatternDispatch

/-- A type test that accepted by the outer kind only. -/
structure Erasure where
  expected : Tag
  /-- The tag that the tested value shows. -/
  shown : Tag
  deriving DecidableEq

/-- What a successful match finds. -/
structure Capture where
  bindings : Bindings
  erasures : List Erasure

namespace Capture

/-- A match that found nothing to keep. -/
def empty : Capture := ⟨.empty, []⟩

/-- One binding. -/
def ofBinding (name : Name) (value : Value) : Capture := ⟨.single name value, []⟩

/-- One erased type test. -/
def ofErasure (erasure : Erasure) : Capture := ⟨.empty, [erasure]⟩

/-- What two parts found, one after the other. -/
instance : Append Capture :=
  ⟨fun first second => ⟨first.bindings ++ second.bindings, first.erasures ++ second.erasures⟩⟩

theorem empty_append (capture : Capture) : empty ++ capture = capture := rfl

theorem append_empty (capture : Capture) : capture ++ empty = capture :=
  congr (congrArg Capture.mk (Bindings.append_empty capture.bindings))
    (List.append_nil capture.erasures)

theorem append_assoc (first second third : Capture) :
    first ++ second ++ third = first ++ (second ++ third) := by
  have bindings := Bindings.append_assoc first.bindings second.bindings third.bindings
  have erasures := List.append_assoc first.erasures second.erasures third.erasures
  exact show Capture.mk _ _ = Capture.mk _ _ from congr (congrArg Capture.mk bindings) erasures

end Capture

namespace Pattern

/-- Passes `later` on if the condition holds. -/
def captureIf (condition : Bool) (later : Capture) : Option Capture :=
  if condition then some later else none

/-- What a type test finds, in front of `later`. -/
def captureTest (classes : ClassTable) (tag : Tag) (subject : Value) (later : Capture) :
    Option Capture :=
  match subject.checkTag classes tag with
  | .accepted => some later
  | .acceptedErased => some (.ofErasure ⟨tag, subject.tag⟩ ++ later)
  | .rejected => none

mutual

/-- What the pattern finds in the subject, in front of `later`. -/
def extractBefore (classes : ClassTable) : Pattern → Value → Capture → Option Capture
  | literal value, subject, later => captureIf (subject.equals value) later
  | stableReference _ value, subject, later => captureIf (subject.equals value) later
  | wildcard, _, later => some later
  | binder name, subject, later => some (.ofBinding name subject ++ later)
  | typeTest tag, subject, later => captureTest classes tag subject later
  | fixedSequence elements, subject, later => do
    let view ← subject.asView
    if view.length = elements.length then extractEachBefore classes elements view.items later
    else none
  | sequenceHead head minimum, subject, later => do
    let view ← subject.asView
    if minimum ≤ view.length then extractBefore classes head (← view.first?) later else none
  | headTail head tail, subject, later => do
    let view ← subject.asView
    let rest ← subject.withView (← view.tail?)
    let first ← view.first?
    extractBefore classes head first (← extractBefore classes tail rest later)
  | initLast init last, subject, later => do
    let view ← subject.asView
    let front ← subject.withView (← view.init?)
    let final ← view.last?
    extractBefore classes init front (← extractBefore classes last final later)
  | emptySequence, subject, later => do
    let view ← subject.asView
    captureIf view.isEmpty later
  | tuple elements, subject, later => do
    let items ← subject.asTuple
    if items.length = elements.length then extractEachBefore classes elements items later
    else none
  | bound name inner, subject, later => do
    return .ofBinding name subject ++ (← extractBefore classes inner subject later)
termination_by structural pattern => pattern

/-- What the patterns find in the items, position by position as far as both lists go, in front
of `later`. -/
def extractEachBefore (classes : ClassTable) :
    List Pattern → List Value → Capture → Option Capture
  | pattern :: patterns, item :: items, later => do
    extractBefore classes pattern item (← extractEachBefore classes patterns items later)
  | _, _, later => some later

end

/-- Matches a value against a pattern. -/
def extract (classes : ClassTable) (pattern : Pattern) (subject : Value) : Option Capture :=
  pattern.extractBefore classes subject .empty

/-- Matches values against patterns position by position; their numbers have to agree. -/
def extractEach (classes : ClassTable) : List Pattern → List Value → Option Capture
  | [], [] => some .empty
  | pattern :: patterns, item :: items => do
    let found ← extract classes pattern item
    return found ++ (← extractEach classes patterns items)
  | _, _ => none

/-! ### What the parts of a pattern find -/

/-- A search puts what it finds in front of what it is given, which it does not look at. -/
def Prepends (search : Capture → Option Capture) : Prop :=
  ∀ later, search later = (search .empty).map (· ++ later)

namespace Prepends

theorem fail : Prepends fun _ => none := fun _ => rfl

theorem find (found : Capture) : Prepends fun later => some (found ++ later) := fun later => by
  rw [Option.map_some, Capture.append_empty]

theorem pass : Prepends some := fun _ => rfl

theorem bind {Part : Type} {search : Part → Capture → Option Capture}
    (each : ∀ part, Prepends (search part)) (part? : Option Part) :
    Prepends fun later => part?.bind fun part => search part later := by
  cases part? with
  | none => exact fail
  | some part => exact each part

/-- A search that is made under a condition only. -/
theorem guarded {search : Capture → Option Capture} (found : Prepends search) (condition : Prop)
    [Decidable condition] : Prepends fun later => if condition then search later else none := by
  by_cases holds : condition
  · simpa only [if_pos holds] using found
  · simpa only [if_neg holds] using fail

/-- Searching in one part and then in a part in front of it. -/
theorem andThen {front back : Capture → Option Capture} (before : Prepends front)
    (behind : Prepends back) : Prepends fun later => (back later).bind front := fun later => by
  change (back later).bind front = ((back .empty).bind front).map (· ++ later)
  rw [behind later]
  cases back .empty with
  | none => rfl
  | some found =>
    change front (found ++ later) = (front found).map (· ++ later)
    rw [before (found ++ later), before found]
    cases front .empty with
    | none => rfl
    | some earlier => exact congrArg some (Capture.append_assoc earlier found later).symm

end Prepends

theorem prepends_captureIf (condition : Bool) : Prepends (captureIf condition) := by
  cases condition with
  | false => exact .fail
  | true => exact .pass

theorem prepends_captureTest (classes : ClassTable) (tag : Tag) (subject : Value) :
    Prepends (captureTest classes tag subject) := by
  unfold captureTest
  cases subject.checkTag classes tag with
  | accepted => exact .pass
  | acceptedErased => exact .find _
  | rejected => exact .fail

mutual

theorem prepends_extractBefore (classes : ClassTable) (pattern : Pattern) (subject : Value) :
    Prepends (pattern.extractBefore classes subject) := by
  cases pattern with
  | literal | stableReference => exact prepends_captureIf _
  | wildcard => exact .pass
  | binder => exact .find _
  | typeTest => exact prepends_captureTest _ _ _
  | fixedSequence elements =>
    exact .bind (fun view : View Value =>
      .guarded (prepends_extractEachBefore classes elements view.items) _) _
  | sequenceHead head minimum =>
    exact .bind (fun view : View Value =>
      .guarded (.bind (fun first => prepends_extractBefore classes head first) _) _) _
  | headTail head tail =>
    exact .bind (fun view => .bind (fun _ => .bind (fun rest => .bind (fun first =>
      .andThen (prepends_extractBefore classes head first)
        (prepends_extractBefore classes tail rest)) _) _) _) _
  | initLast init last =>
    exact .bind (fun view => .bind (fun _ => .bind (fun front => .bind (fun final =>
      .andThen (prepends_extractBefore classes init front)
        (prepends_extractBefore classes last final)) _) _) _) _
  | emptySequence => exact .bind (fun view : View Value => prepends_captureIf view.isEmpty) _
  | tuple elements =>
    exact .bind (fun items : List Value =>
      .guarded (prepends_extractEachBefore classes elements items) _) _
  | bound name inner =>
    exact .andThen (.find (.ofBinding name subject)) (prepends_extractBefore classes inner subject)
termination_by structural pattern

theorem prepends_extractEachBefore (classes : ClassTable) (patterns : List Pattern)
    (items : List Value) : Prepends (extractEachBefore classes patterns items) := by
  cases patterns with
  | nil => exact .pass
  | cons pattern patterns =>
    cases items with
    | nil => exact .pass
    | cons item items =>
      exact .andThen (prepends_extractBefore classes pattern item)
        (prepends_extractEachBefore classes patterns items)
termination_by structural patterns

end

/-- What a pattern finds comes in front of what the parts behind it find. -/
theorem bind_extractBefore (classes : ClassTable) (pattern : Pattern) (subject : Value)
    (later? : Option Capture) :
    later?.bind (pattern.extractBefore classes subject) = do
      let found ← pattern.extract classes subject
      return found ++ (← later?) := by
  change _ = (pattern.extract classes subject).bind fun found =>
    later?.bind fun later => some (found ++ later)
  cases later? with
  | none => cases pattern.extract classes subject <;> rfl
  | some later =>
    change pattern.extractBefore classes subject later = _
    rw [prepends_extractBefore classes pattern subject later]
    exact Option.map_eq_bind

/-- Comparing the lengths first comes to the same as failing where one list ends first. -/
theorem extractEachBefore_empty (classes : ClassTable) (patterns : List Pattern)
    (items : List Value) :
    (if items.length = patterns.length then extractEachBefore classes patterns items .empty
      else none) = extractEach classes patterns items := by
  induction patterns generalizing items with
  | nil => cases items <;> rfl
  | cons pattern patterns inductionHypothesis =>
    cases items with
    | nil => rfl
    | cons item items =>
      rw [extractEach, ← inductionHypothesis]
      simp only [List.length_cons, Nat.add_right_cancel_iff]
      split
      · exact bind_extractBefore classes pattern item
          (extractEachBefore classes patterns items .empty)
      · -- Where the lengths differ, both fail, whatever is found in the first item.
        cases pattern.extract classes item <;> rfl

theorem extract_fixedSequence (classes : ClassTable) (elements : List Pattern) (subject : Value) :
    (fixedSequence elements).extract classes subject = (do
      let view ← subject.asView
      extractEach classes elements view.items) := by
  simp only [← extractEachBefore_empty, View.length_items]
  rfl

theorem extract_tuple (classes : ClassTable) (elements : List Pattern) (subject : Value) :
    (tuple elements).extract classes subject = (do
      let items ← subject.asTuple
      extractEach classes elements items) := by
  simp only [← extractEachBefore_empty]
  rfl

theorem extract_sequenceHead (classes : ClassTable) (head : Pattern) (minimum : Nat)
    (subject : Value) :
    (sequenceHead head minimum).extract classes subject = (do
      let view ← subject.asView
      if minimum ≤ view.length then head.extract classes (← view.first?) else none) :=
  rfl

theorem extract_emptySequence (classes : ClassTable) (subject : Value) :
    emptySequence.extract classes subject = (do
      let view ← subject.asView
      captureIf view.isEmpty .empty) :=
  rfl

theorem extract_headTail (classes : ClassTable) (head tail : Pattern) (subject : Value) :
    (headTail head tail).extract classes subject = do
      let view ← subject.asView
      let rest ← subject.withView (← view.tail?)
      let first ← view.first?
      let found ← head.extract classes first
      return found ++ (← tail.extract classes rest) := by
  simp only [← bind_extractBefore]
  rfl

theorem extract_initLast (classes : ClassTable) (init last : Pattern) (subject : Value) :
    (initLast init last).extract classes subject = do
      let view ← subject.asView
      let front ← subject.withView (← view.init?)
      let final ← view.last?
      let found ← init.extract classes front
      return found ++ (← last.extract classes final) := by
  simp only [← bind_extractBefore]
  rfl

theorem extract_bound (classes : ClassTable) (name : Name) (inner : Pattern) (subject : Value) :
    (bound name inner).extract classes subject = (do
      return .ofBinding name subject ++ (← inner.extract classes subject)) :=
  rfl

end Pattern

end PatternDispatch
