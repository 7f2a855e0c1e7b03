/-
This file proves that matching computes the declarative meaning of patterns. `Matches` says
on contents alone, where a sequence is a plain list, when a pattern accepts and what it
binds; a match finds exactly that, wherever the views of the subject start, and fails
exactly if there is nothing to find.
-/
import PatternDispatch.Proofs.Content
import PatternDispatch.Proofs.Search

namespace PatternDispatch

/-! ### The meaning of patterns -/

mutual

/-- The pattern accepts the subject and binds these names to these contents, in this order. -/
inductive Matches (classes : ClassTable) : Pattern → Content → List (Name × Content) → Prop
  | literal {value subject} (equal : subject.equals (.ofValue value) = true) :
    Matches classes (.literal value) subject []
  | stableReference {name value subject} (equal : subject.equals (.ofValue value) = true) :
    Matches classes (.stableReference name value) subject []
  | wildcard {subject} : Matches classes .wildcard subject []
  | binder {name subject} : Matches classes (.binder name) subject [(name, subject)]
  | typeTest {tag subject} (conforms : classes.conforms subject.tag tag ≠ .rejected) :
    Matches classes (.typeTest tag) subject []
  | fixedSequence {elements subject items found} (shown : subject.asItems = some items)
    (each : MatchesEach classes elements items found) :
    Matches classes (.fixedSequence elements) subject found
  | sequenceHead {head minimum subject item others found}
    (shown : subject.asItems = some (item :: others))
    (long : max minimum 1 ≤ (item :: others).length) (inHead : Matches classes head item found) :
    Matches classes (.sequenceHead head minimum) subject found
  | headTail {head tail subject item rest found later}
    (shown : subject.asItems = some (item :: rest)) (inHead : Matches classes head item found)
    (inTail : Matches classes tail (subject.withItems rest) later) :
    Matches classes (.headTail head tail) subject (found ++ later)
  | initLast {init last subject front item found later}
    (shown : subject.asItems = some (front ++ [item]))
    (inInit : Matches classes init (subject.withItems front) found)
    (inLast : Matches classes last item later) :
    Matches classes (.initLast init last) subject (found ++ later)
  | emptySequence {subject} (shown : subject.asItems = some []) :
    Matches classes .emptySequence subject []
  | tuple {elements subject items found} (shown : subject.asTuple = some items)
    (each : MatchesEach classes elements items found) :
    Matches classes (.tuple elements) subject found
  | bound {name inner subject found} (within : Matches classes inner subject found) :
    Matches classes (.bound name inner) subject ((name, subject) :: found)

/-- As many patterns as contents accept position by position, and bind one after the other. -/
inductive MatchesEach (classes : ClassTable) :
    List Pattern → List Content → List (Name × Content) → Prop
  | nil : MatchesEach classes [] [] []
  | cons {pattern patterns item items found later} (inFirst : Matches classes pattern item found)
    (inRest : MatchesEach classes patterns items later) :
    MatchesEach classes (pattern :: patterns) (item :: items) (found ++ later)

end

/-- The bound names with the contents of their values. -/
def Bindings.contents (bindings : Bindings) : List (Name × Content) :=
  bindings.entries.map fun entry => (entry.1, .ofValue entry.2)

/-- The bound names of a capture with the contents of their values. -/
def Capture.contents (capture : Capture) : List (Name × Content) := capture.bindings.contents

theorem Capture.contents_append (first second : Capture) :
    (first ++ second).contents = first.contents ++ second.contents :=
  List.map_append

/-! ### What is found matches -/

namespace Finds

variable {classes : ClassTable}

/-- Whatever this pattern finds in a value, it matches on the content of the value. -/
def Sound (classes : ClassTable) (pattern : Pattern) : Prop :=
  ∀ {subject capture}, Finds classes pattern subject capture →
    Matches classes pattern (.ofValue subject) capture.contents

theorem matchesEach {patterns : List Pattern} {items : List Value} {capture : Capture}
    (sound : ∀ pattern ∈ patterns, Sound classes pattern)
    (found : FindsEach classes patterns items capture) :
    MatchesEach classes patterns (items.map .ofValue) capture.contents := by
  induction patterns generalizing items capture with
  | nil =>
    cases found
    exact .nil
  | cons pattern patterns inductionHypothesis =>
    obtain ⟨first, rest⟩ := List.forall_mem_cons.1 sound
    cases found with
    | cons inFirst inRest =>
      rw [Capture.contents_append]
      exact .cons (first inFirst) (inductionHypothesis rest inRest)

theorem asItems_of_shown {subject : Value} {view : View Value}
    (shown : subject.asView = some view) :
    (Content.ofValue subject).asItems = some (view.items.map .ofValue) := by
  rw [Content.asItems_ofValue, shown, Option.map_some]

theorem sound (pattern : Pattern) : Sound classes pattern := by
  intro subject capture found
  induction pattern using Pattern.induction generalizing subject capture with
  | literal =>
    cases found with
    | literal equal => exact .literal ((Content.equals_ofValue _ _).trans equal)
  | stableReference =>
    cases found with
    | stableReference equal => exact .stableReference ((Content.equals_ofValue _ _).trans equal)
  | wildcard =>
    cases found
    exact .wildcard
  | binder =>
    cases found
    exact .binder
  | typeTest tag =>
    have unbound : capture.contents = [] := by cases found <;> rfl
    rw [unbound]
    refine .typeTest ?_
    rw [Content.tag_ofValue]
    exact found.checkTag_ne_rejected
  | fixedSequence elements each =>
    cases found with
    | fixedSequence shown found =>
      exact .fixedSequence (asItems_of_shown shown)
        (matchesEach (fun _ member => each _ member) found)
  | sequenceHead head minimum inHead =>
    cases found with
    | sequenceHead shown long first found =>
      rw [View.first?_eq_head?] at first
      obtain ⟨others, items⟩ := List.head?_eq_some_iff.1 first
      have listed := asItems_of_shown shown
      rw [← View.length_items] at long
      rw [items] at listed long
      refine .sequenceHead listed ?_ (inHead found)
      rw [List.length_cons, List.length_map]
      exact Nat.max_le.2 ⟨long, Nat.le_add_left 1 _⟩
  | headTail head tail inHead inTail =>
    cases found with
    | headTail shown shorter kept first left right =>
      have listed := asItems_of_shown shown
      rw [View.items_eq_cons first shorter] at listed
      rw [Capture.contents_append]
      refine .headTail listed (inHead left) ?_
      rw [← Content.ofValue_withView shown (View.cell_of_tail? shorter) kept]
      exact inTail right
  | initLast init last inInit inLast =>
    cases found with
    | initLast shown shorter kept final left right =>
      have listed := asItems_of_shown shown
      rw [View.items_eq_concat final shorter, List.map_append] at listed
      rw [Capture.contents_append]
      refine .initLast listed ?_ (inLast right)
      rw [← Content.ofValue_withView shown (View.cell_of_init? shorter) kept]
      exact inInit left
  | emptySequence =>
    cases found with
    | emptySequence shown empty =>
      have listed := asItems_of_shown shown
      rw [(View.isEmpty_iff _).1 empty] at listed
      exact .emptySequence listed
  | tuple elements each =>
    cases found with
    | tuple shown found =>
      refine .tuple ?_ (matchesEach (fun _ member => each _ member) found)
      rw [Content.asTuple_ofValue, shown, Option.map_some]
  | bound name inner within =>
    cases found with
    | bound found => exact .bound (within found)

end Finds

/-! ### What matches is found -/

namespace Matches

variable {classes : ClassTable}

/-- Whatever this pattern matches on the content of a value, it finds in the value. -/
def Complete (classes : ClassTable) (pattern : Pattern) : Prop :=
  ∀ {subject found}, Matches classes pattern (.ofValue subject) found →
    ∃ capture, Finds classes pattern subject capture ∧ capture.contents = found

theorem findsEach {patterns : List Pattern} {items : List Value} {found : List (Name × Content)}
    (complete : ∀ pattern ∈ patterns, Complete classes pattern)
    (matched : MatchesEach classes patterns (items.map .ofValue) found) :
    ∃ capture, FindsEach classes patterns items capture ∧ capture.contents = found := by
  induction patterns generalizing items found with
  | nil =>
    cases items with
    | nil =>
      cases matched
      exact ⟨_, .nil, rfl⟩
    | cons => cases matched
  | cons pattern patterns inductionHypothesis =>
    obtain ⟨first, rest⟩ := List.forall_mem_cons.1 complete
    cases items with
    | nil => cases matched
    | cons item items =>
      cases matched with
      | cons inFirst inRest =>
        obtain ⟨earlier, foundFirst, rfl⟩ := first inFirst
        obtain ⟨later, foundRest, rfl⟩ := inductionHypothesis rest inRest
        exact ⟨_, .cons foundFirst foundRest, Capture.contents_append earlier later⟩

/-- The items of a content come from the view of the value. -/
theorem view_of_asItems {subject : Value} {contents : List Content}
    (shown : (Content.ofValue subject).asItems = some contents) :
    ∃ view, subject.asView = some view ∧ view.items.map .ofValue = contents := by
  rw [Content.asItems_ofValue, Option.map_eq_some_iff] at shown
  exact shown

theorem complete (pattern : Pattern) : Complete classes pattern := by
  intro subject found matched
  induction pattern using Pattern.induction generalizing subject found with
  | literal =>
    cases matched with
    | literal equal => exact ⟨_, .literal ((Content.equals_ofValue _ _).symm.trans equal), rfl⟩
  | stableReference =>
    cases matched with
    | stableReference equal =>
      exact ⟨_, .stableReference ((Content.equals_ofValue _ _).symm.trans equal), rfl⟩
  | wildcard =>
    cases matched
    exact ⟨_, .wildcard, rfl⟩
  | binder =>
    cases matched
    exact ⟨_, .binder, rfl⟩
  | typeTest tag =>
    cases matched with
    | typeTest conforms =>
      rw [Content.tag_ofValue] at conforms
      cases answer : subject.checkTag classes tag with
      | accepted => exact ⟨_, .checked answer, rfl⟩
      | acceptedErased => exact ⟨_, .erased answer, rfl⟩
      | rejected => exact absurd answer conforms
  | fixedSequence elements each =>
    cases matched with
    | fixedSequence listed matched =>
      obtain ⟨view, shown, rfl⟩ := view_of_asItems listed
      obtain ⟨capture, foundEach, same⟩ := findsEach (fun _ member => each _ member) matched
      exact ⟨capture, .fixedSequence shown foundEach, same⟩
  | sequenceHead head minimum inHead =>
    cases matched with
    | sequenceHead listed long matched =>
      obtain ⟨view, shown, same⟩ := view_of_asItems listed
      obtain ⟨item, others, items, rfl, rfl⟩ := List.map_eq_cons_iff.1 same
      obtain ⟨capture, inFirst, equal⟩ := inHead matched
      rw [List.length_cons, List.length_map] at long
      refine ⟨capture, .sequenceHead shown ?_ ?_ inFirst, equal⟩
      · rw [← View.length_items, items]
        exact Nat.le_trans (Nat.le_max_left minimum 1) long
      · rw [View.first?_eq_head?, items, List.head?_cons]
  | headTail head tail inHead inTail =>
    cases matched with
    | headTail listed left right =>
      obtain ⟨view, shown, same⟩ := view_of_asItems listed
      obtain ⟨item, others, items, rfl, rfl⟩ := List.map_eq_cons_iff.1 same
      obtain ⟨rest, shorter, rfl, first⟩ := View.exists_tail? items
      obtain ⟨part, kept⟩ := Value.exists_withView shown rest
      rw [← Content.ofValue_withView shown (View.cell_of_tail? shorter) kept] at right
      obtain ⟨earlier, foundHead, rfl⟩ := inHead left
      obtain ⟨later, foundTail, rfl⟩ := inTail right
      exact ⟨_, .headTail shown shorter kept first foundHead foundTail,
        Capture.contents_append earlier later⟩
  | initLast init last inInit inLast =>
    cases matched with
    | initLast listed left right =>
      obtain ⟨view, shown, same⟩ := view_of_asItems listed
      obtain ⟨others, final, items, rfl, single⟩ := List.map_eq_append_iff.1 same
      obtain ⟨item, rfl, rfl⟩ := List.map_eq_singleton_iff.1 single
      obtain ⟨front, shorter, rfl, atEnd⟩ := View.exists_init? items
      obtain ⟨part, kept⟩ := Value.exists_withView shown front
      rw [← Content.ofValue_withView shown (View.cell_of_init? shorter) kept] at left
      obtain ⟨earlier, foundInit, rfl⟩ := inInit left
      obtain ⟨later, foundLast, rfl⟩ := inLast right
      exact ⟨_, .initLast shown shorter kept atEnd foundInit foundLast,
        Capture.contents_append earlier later⟩
  | emptySequence =>
    cases matched with
    | emptySequence listed =>
      obtain ⟨view, shown, same⟩ := view_of_asItems listed
      have empty := (View.isEmpty_iff view).2 (List.map_eq_nil_iff.1 same)
      exact ⟨_, .emptySequence shown empty, rfl⟩
  | tuple elements each =>
    cases matched with
    | tuple shown matched =>
      rw [Content.asTuple_ofValue, Option.map_eq_some_iff] at shown
      obtain ⟨items, shown, rfl⟩ := shown
      obtain ⟨capture, foundEach, same⟩ := findsEach (fun _ member => each _ member) matched
      exact ⟨capture, .tuple shown foundEach, same⟩
  | bound name inner within =>
    cases matched with
    | bound matched =>
      obtain ⟨capture, foundInner, rfl⟩ := within matched
      exact ⟨_, .bound foundInner, rfl⟩

end Matches

/-! ### Attempts -/

namespace Pattern

variable (classes : ClassTable) (clause : Nat) (pattern : Pattern) (subject : Value)

/-- An attempt accepts with exactly the bindings that the pattern has by its meaning, and rejects
exactly if it has none. -/
theorem attempt_iff_matches :
    (∀ found, (∃ bindings, (pattern.attempt classes clause subject).outcome = .accepted bindings ∧
        bindings.contents = found) ↔ Matches classes pattern (.ofValue subject) found) ∧
      ((pattern.attempt classes clause subject).outcome = .rejected ↔
        ∀ found, ¬Matches classes pattern (.ofValue subject) found) := by
  have meaning : ∀ found, (∃ capture, Finds classes pattern subject capture ∧
      capture.contents = found) ↔ Matches classes pattern (.ofValue subject) found := by
    refine fun found => ⟨?_, fun matched => Matches.complete pattern matched⟩
    rintro ⟨capture, foundInSubject, rfl⟩
    exact Finds.sound pattern foundInSubject
  constructor
  · intro found
    rw [← meaning found]
    simp only [attempt_accepted_iff]
    constructor
    · rintro ⟨bindings, ⟨capture, foundInSubject, rfl⟩, rfl⟩
      exact ⟨capture, foundInSubject, rfl⟩
    · rintro ⟨capture, foundInSubject, rfl⟩
      exact ⟨capture.bindings, ⟨capture, foundInSubject, rfl⟩, rfl⟩
  · rw [attempt_rejected_iff]
    constructor
    · intro rejects found matched
      obtain ⟨capture, foundInSubject, -⟩ := (meaning found).2 matched
      exact rejects capture foundInSubject
    · intro unmatched capture foundInSubject
      exact unmatched _ ((meaning _).1 ⟨capture, foundInSubject, rfl⟩)

end Pattern

end PatternDispatch
