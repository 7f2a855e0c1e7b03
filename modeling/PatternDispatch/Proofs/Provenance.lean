/-
This file proves where bound values come from. A match only ever binds parts of its subject: what
is reached by taking visible elements of sequences, arrays and tuples, and by narrowing the views
of sequences and arrays. Which parts they are is read off the pattern without regard to the values
in it, so a literal or a reference decides whether the subject is accepted and never what is bound.
Hidden items and the contents of maps and objects are not looked into either: subjects that differ
only there have corresponding parts bound.
-/
import Mathlib.Data.List.Forall2
import Mathlib.Logic.Relation
import PatternDispatch.Proofs.Search
import PatternDispatch.Proofs.Views

namespace PatternDispatch

/-! ### Narrower views -/

namespace View

variable {Item : Type} {view part : View Item}

/-- The part is a run of the visible items, in the same cell. -/
structure Within (part view : View Item) : Prop where
  cell : part.cell = view.cell
  backing : part.backing = view.backing
  start : view.offset ≤ part.offset
  stop : part.offset + part.length ≤ view.offset + view.length
  items : part.items <:+: view.items

theorem IsRun.within {skipped count : Nat} (run : IsRun skipped count part view) :
    part.Within view := by
  have inside := run.inside
  have shorter : part.length = min count (view.length - skipped) := by
    rw [← length_items, run.items, List.length_take, List.length_drop, length_items]
  refine ⟨run.cell, run.backing, ?_, ?_, ?_⟩
  · rw [run.offset]
    exact Nat.le_add_right _ skipped
  · rw [run.offset, shorter]
    omega
  · rw [run.items]
    exact (List.take_prefix _ _).isInfix.trans (List.drop_suffix _ _).isInfix

/-- Two views in the same place whose visible items are related one by one. -/
structure Aligned (related : Item → Item → Prop) (view other : View Item) : Prop where
  cell : view.cell = other.cell
  offset : view.offset = other.offset
  items : List.Forall₂ related view.items other.items

/-- Aligned views stay so when both are narrowed by the same step. -/
theorem Aligned.step {related : Item → Item → Prop} {other otherPart : View Item} {step : Step}
    (aligned : Aligned related view other) (found : view.step? step = some part)
    (otherFound : other.step? step = some otherPart) : Aligned related part otherPart := by
  have run := isRun_of_step? found
  have otherRun := isRun_of_step? otherFound
  have sameLength : view.length = other.length := by
    rw [← length_items, ← length_items, aligned.items.length_eq]
  refine ⟨?_, ?_, ?_⟩
  · rw [run.cell, otherRun.cell, aligned.cell]
  · rw [run.offset, otherRun.offset, aligned.offset]
  · rw [run.items, otherRun.items, sameLength]
    exact List.forall₂_take _ (List.forall₂_drop _ aligned.items)

end View

/-! ### Parts of values -/

namespace Value

/-- The visible elements of a sequence, an array or a tuple. -/
def elements? : Value → Option (List Value)
  | seq view | array _ view => some view.items
  | tuple _ items => some items
  | _ => none

/-- One step from a value to a part of it: a visible element, or the same kind of sequence over a
narrower view. -/
inductive Exposes : Value → Value → Prop
  | element {value items item} (shown : elements? value = some items) (member : item ∈ items) :
    Exposes value item
  | seq {view part : View Value} (within : part.Within view) : Exposes (.seq view) (.seq part)
  | array {element} {view part : View Value} (within : part.Within view) :
    Exposes (.array element view) (.array element part)

/-- One way to a part of a value. -/
inductive Selection where
  | element (position : Nat)
  | last
  | narrow (step : View.Step)
  deriving DecidableEq

/-- The part of the value that a step leads to, if there is one. -/
def select? (value : Value) : Selection → Option Value
  | .element position => do (← value.elements?)[position]?
  | .last => do (← value.elements?).getLast?
  | .narrow step => do value.withView (← (← value.asView).step? step)

/-- The part at the end of a path, if every step of it can be taken. -/
def follow? (value : Value) : List Selection → Option Value
  | [] => some value
  | selection :: path => do (← value.select? selection).follow? path

theorem elements?_of_asView {value : Value} {view : View Value}
    (shown : value.asView = some view) : value.elements? = some view.items := by
  cases value <;> cases shown <;> rfl

theorem elements?_of_asTuple {value : Value} {items : List Value}
    (shown : value.asTuple = some items) : value.elements? = some items := by
  cases value <;> cases shown
  rfl

section Select

variable {value part item : Value} {view rest : View Value} (shown : value.asView = some view)

include shown

theorem select?_first (first : view.first? = some item) :
    value.select? (.element 0) = some item := by
  rw [select?, elements?_of_asView shown, ← first, View.first?_eq_head?, List.head?_eq_getElem?]
  rfl

theorem select?_last (final : view.last? = some item) : value.select? .last = some item := by
  rw [select?, elements?_of_asView shown, ← final, View.last?_eq_getLast?]
  rfl

theorem select?_narrow (step : View.Step) (narrowed : view.step? step = some rest)
    (kept : value.withView rest = some part) : value.select? (.narrow step) = some part := by
  simp only [select?, shown, narrowed, Option.bind_eq_bind, Option.bind_some, kept]

end Select

theorem exposes_of_select? {value part : Value} {selection : Selection}
    (selected : value.select? selection = some part) : value.Exposes part := by
  cases selection with
  | element position =>
    obtain ⟨items, shown, found⟩ := Option.bind_eq_some_iff.1 selected
    exact .element shown (List.mem_of_getElem? found)
  | last =>
    obtain ⟨items, shown, found⟩ := Option.bind_eq_some_iff.1 selected
    exact .element shown (List.mem_of_getLast? found)
  | narrow step =>
    obtain ⟨view, shown, narrowed⟩ := Option.bind_eq_some_iff.1 selected
    obtain ⟨rest, found, kept⟩ := Option.bind_eq_some_iff.1 narrowed
    have within := (View.isRun_of_step? found).within
    cases value <;> cases shown <;> cases kept
    · exact .seq within
    · exact .array within

theorem exposes_of_follow? {value part : Value} {path : List Selection}
    (followed : value.follow? path = some part) :
    Relation.ReflTransGen Exposes value part := by
  induction path generalizing value with
  | nil =>
    cases followed
    exact .refl
  | cons selection path inductionHypothesis =>
    obtain ⟨next, selected, rest⟩ := Option.bind_eq_some_iff.1 followed
    exact .head (exposes_of_select? selected) (inductionHypothesis rest)

end Value

/-! ### Places -/

open Value (Selection)

/-- Where in the subject a name is bound. -/
structure Place where
  name : Name
  path : List Selection
  deriving DecidableEq

/-- The place in a value of which the selection is a part. -/
def Place.under (selection : Selection) (place : Place) : Place :=
  { place with path := selection :: place.path }

namespace Pattern

mutual

/-- The places that the pattern binds, in the order of binding. No value in the pattern is looked
at. -/
def places : Pattern → List Place
  | binder name => [⟨name, []⟩]
  | fixedSequence elements | tuple elements => placesEach 0 elements
  | sequenceHead head _ => (places head).map (.under (.element 0))
  | headTail head tail =>
    (places head).map (.under (.element 0)) ++ (places tail).map (.under (.narrow .tail))
  | initLast init last =>
    (places init).map (.under (.narrow .init)) ++ (places last).map (.under .last)
  | bound name inner => ⟨name, []⟩ :: places inner
  | _ => []
termination_by structural pattern => pattern

/-- The places of patterns for the elements from `position` on. -/
def placesEach (position : Nat) : List Pattern → List Place
  | [] => []
  | pattern :: patterns =>
    (places pattern).map (.under (.element position)) ++ placesEach (position + 1) patterns

end

end Pattern

/-- Each entry has the name of its place and the part of the value that is there. -/
def Value.Holds (value : Value) (places : List Place) (entries : List (Name × Value)) : Prop :=
  List.Forall₂ (fun place entry => entry.1 = place.name ∧ value.follow? place.path = some entry.2)
    places entries

theorem Value.Holds.under {value part : Value} {selection : Selection} {places : List Place}
    {entries : List (Name × Value)} (selected : value.select? selection = some part)
    (holds : part.Holds places entries) : value.Holds (places.map (.under selection)) entries := by
  refine List.forall₂_map_left_iff.2 (holds.imp fun place entry located => ⟨located.1, ?_⟩)
  rw [Place.under, follow?, selected]
  exact located.2

namespace Pattern

/-- What this pattern binds is found at its places. -/
def BindsPlaces (classes : ClassTable) (pattern : Pattern) : Prop :=
  ∀ subject found, Finds classes pattern subject found →
    subject.Holds pattern.places found.bindings.entries

theorem holds_placesEach {classes : ClassTable} {patterns : List Pattern} {subject : Value}
    {front items : List Value} {found : Capture}
    (each : ∀ pattern ∈ patterns, BindsPlaces classes pattern)
    (shown : subject.elements? = some (front ++ items))
    (finds : FindsEach classes patterns items found) :
    subject.Holds (placesEach front.length patterns) found.bindings.entries := by
  induction patterns generalizing front items found with
  | nil =>
    cases finds
    exact List.Forall₂.nil
  | cons pattern patterns inductionHypothesis =>
    obtain ⟨first, rest⟩ := List.forall_mem_cons.1 each
    cases finds with
    | @cons _ _ item items found later inFirst inRest =>
      have selected : subject.select? (.element front.length) = some item := by
        simp only [Value.select?, shown, Option.bind_eq_bind, Option.bind_some,
          List.getElem?_append_right (Nat.le_refl _), Nat.sub_self, List.getElem?_cons_zero]
      have behind : subject.elements? = some ((front ++ [item]) ++ items) := by
        rw [shown, List.append_assoc, List.singleton_append]
      have others := inductionHypothesis rest behind inRest
      rw [List.length_append] at others
      exact List.rel_append ((first item found inFirst).under selected) others

theorem bindsPlaces (classes : ClassTable) (pattern : Pattern) : BindsPlaces classes pattern := by
  induction pattern using Pattern.induction with
  | literal | stableReference | wildcard | typeTest | emptySequence =>
    intro subject found finds
    cases finds <;> exact List.Forall₂.nil
  | binder name =>
    intro subject found finds
    cases finds
    exact List.Forall₂.cons ⟨rfl, rfl⟩ List.Forall₂.nil
  | fixedSequence elements each =>
    intro subject found finds
    cases finds with
    | @fixedSequence _ _ view _ shown finds =>
      have elements : subject.elements? = some ([] ++ view.items) := Value.elements?_of_asView shown
      exact holds_placesEach each elements finds
  | sequenceHead head minimum inHead =>
    intro subject found finds
    cases finds with
    | sequenceHead shown _ first finds =>
      exact (inHead _ _ finds).under (Value.select?_first shown first)
  | headTail head tail inHead inTail =>
    intro subject found finds
    cases finds with
    | headTail shown shorter kept first left right =>
      have atHead := (inHead _ _ left).under (Value.select?_first shown first)
      have atTail := (inTail _ _ right).under (Value.select?_narrow shown .tail shorter kept)
      exact List.rel_append atHead atTail
  | initLast init last inInit inLast =>
    intro subject found finds
    cases finds with
    | initLast shown shorter kept final left right =>
      have atInit := (inInit _ _ left).under (Value.select?_narrow shown .init shorter kept)
      have atLast := (inLast _ _ right).under (Value.select?_last shown final)
      exact List.rel_append atInit atLast
  | tuple elements each =>
    intro subject found finds
    cases finds with
    | @tuple _ _ items _ shown finds =>
      have elements : subject.elements? = some ([] ++ items) := Value.elements?_of_asTuple shown
      exact holds_placesEach each elements finds
  | bound name inner within =>
    intro subject found finds
    cases finds with
    | bound finds => exact List.Forall₂.cons ⟨rfl, rfl⟩ (within subject _ finds)

end Pattern

/-! ### What is not looked into -/

namespace Value

/-- Two values that differ at most in hidden items and in what maps and objects hold. -/
inductive ShownAlike : Value → Value → Prop
  | same (value) : ShownAlike value value
  | seq {view other : View Value} (cell : view.cell = other.cell)
    (offset : view.offset = other.offset) (each : List.Forall₂ ShownAlike view.items other.items) :
    ShownAlike (.seq view) (.seq other)
  | array {element} {view other : View Value} (cell : view.cell = other.cell)
    (offset : view.offset = other.offset) (each : List.Forall₂ ShownAlike view.items other.items) :
    ShownAlike (.array element view) (.array element other)
  | tuple {cell} {items others : List Value} (each : List.Forall₂ ShownAlike items others) :
    ShownAlike (.tuple cell items) (.tuple cell others)
  | map {cell entries others} : ShownAlike (.map cell entries) (.map cell others)
  | object {className cell fields others} :
    ShownAlike (.object className cell fields) (.object className cell others)

namespace ShownAlike

variable {value other part otherPart : Value}

theorem elements (alike : value.ShownAlike other) {items others : List Value}
    (shown : value.elements? = some items) (otherShown : other.elements? = some others) :
    List.Forall₂ ShownAlike items others := by
  cases alike with
  | same =>
    cases shown.symm.trans otherShown
    exact List.forall₂_same.2 fun item _ => .same item
  | seq _ _ each | array _ _ each | tuple each =>
    cases shown
    cases otherShown
    exact each
  | map | object => cases shown

theorem of_getElem? {items others : List Value} {position : Nat}
    (each : List.Forall₂ ShownAlike items others) (found : items[position]? = some part)
    (otherFound : others[position]? = some otherPart) : part.ShownAlike otherPart := by
  obtain ⟨inside, rfl⟩ := List.getElem?_eq_some_iff.1 found
  obtain ⟨otherInside, rfl⟩ := List.getElem?_eq_some_iff.1 otherFound
  exact each.get inside otherInside

theorem narrow (alike : value.ShownAlike other) {step : View.Step}
    (narrowed : value.select? (.narrow step) = some part)
    (otherNarrowed : other.select? (.narrow step) = some otherPart) :
    part.ShownAlike otherPart := by
  obtain ⟨view, shown, viewed⟩ := Option.bind_eq_some_iff.1 narrowed
  obtain ⟨rest, found, kept⟩ := Option.bind_eq_some_iff.1 viewed
  obtain ⟨otherView, otherShown, otherViewed⟩ := Option.bind_eq_some_iff.1 otherNarrowed
  obtain ⟨otherRest, otherFound, otherKept⟩ := Option.bind_eq_some_iff.1 otherViewed
  cases alike with
  | same =>
    cases narrowed.symm.trans otherNarrowed
    exact .same _
  | seq cell offset each =>
    cases shown
    cases otherShown
    cases kept
    cases otherKept
    obtain ⟨cell, offset, each⟩ := View.Aligned.step ⟨cell, offset, each⟩ found otherFound
    exact .seq cell offset each
  | array cell offset each =>
    cases shown
    cases otherShown
    cases kept
    cases otherKept
    obtain ⟨cell, offset, each⟩ := View.Aligned.step ⟨cell, offset, each⟩ found otherFound
    exact .array cell offset each
  | tuple | map | object => cases shown

/-- The same selection from values that are shown alike gives such values. -/
theorem select (alike : value.ShownAlike other) {selection : Selection}
    (selected : value.select? selection = some part)
    (otherSelected : other.select? selection = some otherPart) : part.ShownAlike otherPart := by
  cases selection with
  | element position =>
    obtain ⟨items, shown, found⟩ := Option.bind_eq_some_iff.1 selected
    obtain ⟨others, otherShown, otherFound⟩ := Option.bind_eq_some_iff.1 otherSelected
    exact of_getElem? (alike.elements shown otherShown) found otherFound
  | last =>
    obtain ⟨items, shown, found⟩ := Option.bind_eq_some_iff.1 selected
    obtain ⟨others, otherShown, otherFound⟩ := Option.bind_eq_some_iff.1 otherSelected
    have each := alike.elements shown otherShown
    rw [List.getLast?_eq_getElem?] at found otherFound
    rw [← each.length_eq] at otherFound
    exact of_getElem? each found otherFound
  | narrow step => exact alike.narrow selected otherSelected

theorem follow (alike : value.ShownAlike other) {path : List Selection}
    (followed : value.follow? path = some part)
    (otherFollowed : other.follow? path = some otherPart) : part.ShownAlike otherPart := by
  induction path generalizing value other with
  | nil =>
    cases followed
    cases otherFollowed
    exact alike
  | cons selection path inductionHypothesis =>
    obtain ⟨next, selected, rest⟩ := Option.bind_eq_some_iff.1 followed
    obtain ⟨otherNext, otherSelected, otherRest⟩ := Option.bind_eq_some_iff.1 otherFollowed
    exact inductionHypothesis (alike.select selected otherSelected) rest otherRest

/-- The same places in values that are shown alike hold such values. -/
theorem entries (alike : value.ShownAlike other) {places : List Place}
    {entries otherEntries : List (Name × Value)} (holds : value.Holds places entries)
    (otherHolds : other.Holds places otherEntries) :
    List.Forall₂ (fun entry otherEntry =>
      entry.1 = otherEntry.1 ∧ entry.2.ShownAlike otherEntry.2) entries otherEntries := by
  induction holds generalizing otherEntries with
  | nil =>
    cases otherHolds
    exact .nil
  | cons located _ inductionHypothesis =>
    cases otherHolds with
    | cons otherLocated otherHolds =>
      exact .cons ⟨located.1.trans otherLocated.1.symm, alike.follow located.2 otherLocated.2⟩
        (inductionHypothesis otherHolds)

end ShownAlike

end Value

namespace Pattern

theorem holds_of_accepted {classes : ClassTable} {clause : Nat} {pattern : Pattern}
    {subject : Value} {bindings : Bindings}
    (accepted : (pattern.attempt classes clause subject).outcome = .accepted bindings) :
    subject.Holds pattern.places bindings.entries := by
  obtain ⟨capture, finds, rfl⟩ := (attempt_accepted_iff classes clause pattern subject _).1 accepted
  exact bindsPlaces classes pattern subject capture finds

/-- Every value that an accepting pattern binds is a part of the subject, reached through visible
elements and narrower views. It is the part at a place that the pattern has whatever the values in
it are: another pattern with the same places, on a subject that is shown alike, binds the same
names to values that are shown alike. -/
theorem bindings_expose_parts {classes : ClassTable} {clause : Nat} {pattern : Pattern}
    {subject : Value} {bindings : Bindings}
    (accepted : (pattern.attempt classes clause subject).outcome = .accepted bindings) :
    (∀ entry ∈ bindings.entries, Relation.ReflTransGen Value.Exposes subject entry.2) ∧
      subject.Holds pattern.places bindings.entries ∧
      ∀ otherClasses otherClause (other : Pattern) otherSubject otherBindings,
        other.places = pattern.places → subject.ShownAlike otherSubject →
        (other.attempt otherClasses otherClause otherSubject).outcome =
          .accepted otherBindings →
        List.Forall₂ (fun entry otherEntry =>
          entry.1 = otherEntry.1 ∧ entry.2.ShownAlike otherEntry.2)
          bindings.entries otherBindings.entries := by
  have holds := holds_of_accepted accepted
  refine ⟨fun entry member => ?_, holds, ?_⟩
  · obtain ⟨position, inside, rfl⟩ := List.getElem_of_mem member
    have located := holds.get (holds.length_eq ▸ inside) inside
    exact Value.exposes_of_follow? located.2
  · intro otherClasses otherClause other otherSubject otherBindings samePlaces alike otherAccepted
    have otherHolds := holds_of_accepted otherAccepted
    rw [samePlaces] at otherHolds
    exact alike.entries holds otherHolds

/-- A part of an array is an array over the same backing list. Neither the literal nor the hidden
item in front of it matters to what is bound. -/
theorem bindings_expose_parts_inner :
    let middle : Name := ⟨1⟩
    let last : Name := ⟨2⟩
    let backing (hidden : Value) : Array Value := #[hidden, .unit, .int 5, .str 3 "end"]
    let subject (hidden : Value) : Value := .array .any ⟨0, backing hidden, 1, 4⟩
    let inner (hidden : Value) : Value := .array .any ⟨0, backing hidden, 2, 3⟩
    let rest : Pattern := .initLast (.binder middle) (.binder last)
    let pattern : Pattern := .headTail (.literal .unit) rest
    (pattern.attempt .empty 0 (subject (.int 9))).outcome =
        .accepted ⟨[(middle, inner (.int 9)), (last, .str 3 "end")]⟩ ∧
      Relation.ReflTransGen Value.Exposes (subject (.int 9)) (inner (.int 9)) ∧
      (subject (.int 9)).follow? [.narrow .tail, .narrow .init] = some (inner (.int 9)) ∧
      (inner (.int 9)).ShownAlike (inner (.bool true)) := by
  intro middle last backing subject inner rest pattern
  have accepted : (pattern.attempt .empty 0 (subject (.int 9))).outcome =
    .accepted ⟨[(middle, inner (.int 9)), (last, .str 3 "end")]⟩ := rfl
  have otherAccepted : ((headTail .wildcard rest).attempt .empty 0 (subject (.bool true))).outcome =
    .accepted ⟨[(middle, inner (.bool true)), (last, .str 3 "end")]⟩ := rfl
  have alike : (subject (.int 9)).ShownAlike (subject (.bool true)) :=
    .array rfl rfl (List.forall₂_same.2 fun item _ => .same item)
  obtain ⟨parts, holds, others⟩ := bindings_expose_parts accepted
  have related := others _ _ _ _ _ rfl alike otherAccepted
  obtain _ | ⟨⟨-, located⟩, -⟩ := holds
  obtain _ | ⟨⟨-, same⟩, -⟩ := related
  exact ⟨accepted, parts _ List.mem_cons_self, located, same⟩

end Pattern

end PatternDispatch
