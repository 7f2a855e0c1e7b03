/-
This file proves that matching respects equality of values. Two runs of a pattern on equal
subjects stay in step: whatever parts of the subjects the pattern looks at are equal again, so
both runs accept or both reject, erase the same type tests and bind equal values. Elements of
a tuple that is compared by its cell need not equal themselves, but there both runs see the
very same values. A dispatcher without guards therefore selects the same clause for both.
-/
import PatternDispatch.Proofs.Equality
import PatternDispatch.Proofs.FirstMatch

namespace PatternDispatch

/-! ### Alike findings -/

/-- Equal, or one and the same value: a NaN is the same as itself without being equal to it. -/
def Value.Alike (first second : Value) : Prop := first.Equal second ∨ first = second

/-- The same names in the same order, bound to alike values. -/
def Bindings.Alike (first second : Bindings) : Prop :=
  List.Forall₂ (fun entry other => entry.1 = other.1 ∧ entry.2.Alike other.2)
    first.entries second.entries

/-- Alike bindings and the same erased type tests. -/
structure Capture.Alike (first second : Capture) : Prop where
  bindings : first.bindings.Alike second.bindings
  erasures : first.erasures = second.erasures

theorem Bindings.Alike.refl (bindings : Bindings) : bindings.Alike bindings :=
  List.forall₂_same.2 fun _ _ => ⟨rfl, .inr rfl⟩

namespace Capture.Alike

theorem refl (capture : Capture) : capture.Alike capture := ⟨.refl _, rfl⟩

theorem append {first second later behind : Capture} (front : first.Alike second)
    (back : later.Alike behind) : (first ++ later).Alike (second ++ behind) := by
  have erasures : first.erasures ++ later.erasures = second.erasures ++ behind.erasures := by
    rw [front.erasures, back.erasures]
  exact ⟨List.rel_append front.bindings back.bindings, erasures⟩

theorem ofBinding (name : Name) {first second : Value} (alike : first.Alike second) :
    (Capture.ofBinding name first).Alike (Capture.ofBinding name second) :=
  ⟨.cons ⟨rfl, alike⟩ .nil, rfl⟩

end Capture.Alike

/-! ### Steps that fail together -/

section Steps

variable {First Second Front Back : Type} {related : First → Second → Prop}
  {further : Front → Back → Prop} {first? : Option First} {second? : Option Second}

theorem rel_bind {next : First → Option Front} {other : Second → Option Back}
    (parts : Option.Rel related first? second?)
    (each : ∀ {first second}, related first second →
      Option.Rel further (next first) (other second)) :
    Option.Rel further (first? >>= next) (second? >>= other) := by
  cases parts with
  | none => exact .none
  | some same => exact each same

theorem rel_of_none_iff (together : first? = none ↔ second? = none)
    (each : ∀ {first second}, first? = some first → second? = some second →
      related first second) : Option.Rel related first? second? := by
  cases first? with
  | none =>
    rw [together.1 rfl]
    exact .none
  | some first =>
    cases second? with
    | none => cases together.2 rfl
    | some second => exact .some (each rfl rfl)

theorem rel_head? {firsts : List First} {seconds : List Second}
    (inStep : List.Forall₂ related firsts seconds) :
    Option.Rel related firsts.head? seconds.head? := by
  cases inStep with
  | nil => exact .none
  | cons same => exact .some same

end Steps

theorem rel_alike_self (found : Option Capture) : Option.Rel Capture.Alike found found := by
  cases found with
  | none => exact .none
  | some capture => exact .some (.refl capture)

/-! ### Parts of equal values -/

variable {heap : Heap}

/-- Two equal values whose cells hold what the values say. -/
structure Value.EqualIn (heap : Heap) (first second : Value) : Prop where
  stored : first.StoredIn heap
  storedOther : second.StoredIn heap
  equal : first.Equal second

/-- Two views whose sequences are equal. -/
abbrev View.EqualIn (heap : Heap) (view other : View Value) : Prop :=
  (Value.seq view).EqualIn heap (.seq other)

namespace Value.EqualIn

variable {first second : Value}

theorem symm (same : first.EqualIn heap second) : second.EqualIn heap first :=
  ⟨same.storedOther, same.stored, same.equal.symm⟩

theorem tag_eq (same : first.EqualIn heap second) : first.tag = second.tag :=
  same.equal.tag_eq same.stored same.storedOther

/-- Equal values compare alike with any third. -/
theorem equals_eq (same : first.EqualIn heap second) {value : Value}
    (stored : value.StoredIn heap) : first.equals value = second.equals value := by
  rw [Bool.eq_iff_iff]
  exact ⟨same.equal.symm.trans same.storedOther same.stored stored,
    same.equal.trans same.stored same.storedOther stored⟩

theorem forall₂_of_equal {items others : List Value} (stored : ∀ item ∈ items, item.StoredIn heap)
    (storedOthers : ∀ other ∈ others, other.StoredIn heap)
    (equal : List.Forall₂ Value.Equal items others) :
    List.Forall₂ (Value.EqualIn heap) items others :=
  forall₂_imp_of_mem (fun item member other memberOther same =>
    ⟨stored item member, storedOthers other memberOther, same⟩) equal

theorem asView (same : first.EqualIn heap second) :
    Option.Rel (View.EqualIn heap) first.asView second.asView := by
  cases agrees_of_equal same.equal with
  | seq => exact .some same
  | array element items =>
    have stored := storedIn_array_iff.1 same.stored
    have storedOther := storedIn_array_iff.1 same.storedOther
    exact .some ⟨stored, storedOther, equal_seq_iff.2 items⟩
  | _ => exact .none

/-- Tuples in one cell have the very same items, and other equal tuples have equal ones. -/
theorem asTuple (same : first.EqualIn heap second) :
    Option.Rel (fun items others =>
        items = others ∨ List.Forall₂ (Value.EqualIn heap) items others)
      first.asTuple second.asTuple := by
  cases agrees_of_equal same.equal with
  | tuple shared =>
    have stored := storedIn_tuple_iff.1 same.stored
    have storedOther := storedIn_tuple_iff.1 same.storedOther
    obtain rfl | equal := shared
    · exact .some (.inl (Stored.items.inj (stored.1.symm.trans storedOther.1)))
    · exact .some (.inr (forall₂_of_equal stored.2 storedOther.2 equal))
  | _ => exact .none

theorem withView (same : first.EqualIn heap second) {view other : View Value}
    (views : view.EqualIn heap other) :
    Option.Rel (Value.EqualIn heap) (first.withView view) (second.withView other) := by
  cases agrees_of_equal same.equal with
  | seq => exact .some views
  | array element =>
    have items := equal_seq_iff.1 views.equal
    exact .some ⟨storedIn_array_iff.2 views.stored, storedIn_array_iff.2 views.storedOther,
      equal_array_iff.2 ⟨rfl, items⟩⟩
  | _ => exact .none

end Value.EqualIn

namespace View.EqualIn

variable {view other : View Value}

theorem equal_items (same : view.EqualIn heap other) :
    List.Forall₂ Value.Equal view.items other.items :=
  Value.equal_seq_iff.1 same.equal

theorem items (same : view.EqualIn heap other) :
    List.Forall₂ (Value.EqualIn heap) view.items other.items :=
  Value.EqualIn.forall₂_of_equal (fun _ => same.stored.of_mem_items)
    (fun _ => same.storedOther.of_mem_items) same.equal_items

theorem length_eq (same : view.EqualIn heap other) : view.length = other.length := by
  rw [← View.length_items, ← View.length_items, same.items.length_eq]

theorem items_eq_nil_iff (same : view.EqualIn heap other) :
    view.items = [] ↔ other.items = [] := by
  rw [← List.length_eq_zero_iff, ← List.length_eq_zero_iff, same.items.length_eq]

theorem isEmpty_eq (same : view.EqualIn heap other) : view.isEmpty = other.isEmpty := by
  rw [View.isEmpty, View.isEmpty, same.length_eq]

theorem first? (same : view.EqualIn heap other) :
    Option.Rel (Value.EqualIn heap) view.first? other.first? := by
  rw [View.first?_eq_head?, View.first?_eq_head?]
  exact rel_head? same.items

theorem last? (same : view.EqualIn heap other) :
    Option.Rel (Value.EqualIn heap) view.last? other.last? := by
  rw [View.last?_eq_getLast?, View.last?_eq_getLast?, List.getLast?_eq_head?_reverse,
    List.getLast?_eq_head?_reverse]
  exact rel_head? (List.rel_reverse same.items)

/-- A shorter view of the same list is stored as the list is. -/
theorem storedIn_of_backing {part : View Value} (cell : part.cell = view.cell)
    (backing : part.backing = view.backing) (stored : (Value.seq view).StoredIn heap) :
    (Value.seq part).StoredIn heap := by
  rw [Value.storedIn_seq_iff] at stored ⊢
  rwa [cell, backing]

theorem tail? (same : view.EqualIn heap other) :
    Option.Rel (View.EqualIn heap) view.tail? other.tail? := by
  refine rel_of_none_iff ?_ fun shorter shorterOther => ⟨?_, ?_, ?_⟩
  · rw [View.tail?_eq_none_iff, View.tail?_eq_none_iff, same.items_eq_nil_iff]
  · exact storedIn_of_backing (cell_of_tail? shorter) (backing_of_tail? shorter) same.stored
  · exact storedIn_of_backing (cell_of_tail? shorterOther) (backing_of_tail? shorterOther)
      same.storedOther
  · refine Value.equal_seq_iff.2 ?_
    rw [items_of_tail? shorter, items_of_tail? shorterOther, ← List.drop_one, ← List.drop_one]
    exact List.forall₂_drop 1 same.equal_items

theorem init? (same : view.EqualIn heap other) :
    Option.Rel (View.EqualIn heap) view.init? other.init? := by
  refine rel_of_none_iff ?_ fun shorter shorterOther => ⟨?_, ?_, ?_⟩
  · rw [View.init?_eq_none_iff, View.init?_eq_none_iff, same.items_eq_nil_iff]
  · exact storedIn_of_backing (cell_of_init? shorter) (backing_of_init? shorter) same.stored
  · exact storedIn_of_backing (cell_of_init? shorterOther) (backing_of_init? shorterOther)
      same.storedOther
  · refine Value.equal_seq_iff.2 ?_
    rw [items_of_init? shorter, items_of_init? shorterOther, List.dropLast_eq_take,
      List.dropLast_eq_take, same.items.length_eq]
    exact List.forall₂_take _ same.equal_items

end View.EqualIn

/-! ### Patterns -/

namespace Pattern

/-- The value that this node compares with, its parts aside. -/
def heldValue? : Pattern → Option Value
  | literal value | stableReference _ value => some value
  | _ => none

/-- Every value that the pattern compares with is stored. -/
def StoredIn (heap : Heap) (pattern : Pattern) : Prop :=
  ∀ node ∈ pattern.nodes, ∀ value ∈ node.heldValue?, value.StoredIn heap

section Stored

variable {elements : List Pattern} {name : Name} {minimum : Nat} {first second inner : Pattern}

theorem storedIn_of_eq_cons {pattern : Pattern} {parts : List Pattern}
    (shape : pattern.nodes = pattern :: parts) (unheld : pattern.heldValue? = none) :
    pattern.StoredIn heap ↔ ∀ node ∈ parts, ∀ value ∈ node.heldValue?, value.StoredIn heap := by
  rw [StoredIn, shape, List.forall_mem_cons, unheld]
  exact and_iff_right fun value held => nomatch held

theorem storedIn_fixedSequence_iff :
    (fixedSequence elements).StoredIn heap ↔ ∀ element ∈ elements, element.StoredIn heap := by
  rw [storedIn_of_eq_cons (nodes_fixedSequence elements) rfl, List.forall_mem_flatMap]
  rfl

theorem storedIn_tuple_iff :
    (tuple elements).StoredIn heap ↔ ∀ element ∈ elements, element.StoredIn heap := by
  rw [storedIn_of_eq_cons (nodes_tuple elements) rfl, List.forall_mem_flatMap]
  rfl

theorem storedIn_sequenceHead_iff :
    (sequenceHead inner minimum).StoredIn heap ↔ inner.StoredIn heap :=
  storedIn_of_eq_cons (nodes_sequenceHead inner minimum) rfl

theorem storedIn_bound_iff : (bound name inner).StoredIn heap ↔ inner.StoredIn heap :=
  storedIn_of_eq_cons (nodes_bound name inner) rfl

theorem storedIn_headTail_iff :
    (headTail first second).StoredIn heap ↔ first.StoredIn heap ∧ second.StoredIn heap := by
  rw [storedIn_of_eq_cons (nodes_headTail first second) rfl, List.forall_mem_append]
  rfl

theorem storedIn_initLast_iff :
    (initLast first second).StoredIn heap ↔ first.StoredIn heap ∧ second.StoredIn heap := by
  rw [storedIn_of_eq_cons (nodes_initLast first second) rfl, List.forall_mem_append]
  rfl

end Stored

/-- On equal subjects the pattern finds nothing twice or finds alike captures. -/
def Respects (heap : Heap) (classes : ClassTable) (pattern : Pattern) : Prop :=
  ∀ {first second : Value}, first.EqualIn heap second →
    Option.Rel Capture.Alike (pattern.extract classes first) (pattern.extract classes second)

theorem extractEach_respects {classes : ClassTable} {patterns : List Pattern}
    (respects : ∀ pattern ∈ patterns, Respects heap classes pattern) {items others : List Value}
    (inStep : List.Forall₂ (Value.EqualIn heap) items others) :
    Option.Rel Capture.Alike (extractEach classes patterns items)
      (extractEach classes patterns others) := by
  induction patterns generalizing items others with
  | nil => cases inStep <;> exact rel_alike_self _
  | cons pattern patterns inductionHypothesis =>
    obtain ⟨first, rest⟩ := List.forall_mem_cons.1 respects
    cases inStep with
    | nil => exact rel_alike_self _
    | cons same inStep =>
      exact rel_bind (first same) fun found =>
        rel_bind (inductionHypothesis rest inStep) fun later => .some (found.append later)

/-- Matching respects equality, form by form: the parts that a form looks at are equal again. -/
theorem respects (classes : ClassTable) {pattern : Pattern} (stored : pattern.StoredIn heap) :
    Respects heap classes pattern := by
  induction pattern using Pattern.induction with
  | literal value | stableReference name value =>
    intro first second same
    have held := stored _ List.mem_cons_self value rfl
    change Option.Rel _ (captureIf (first.equals value) _) (captureIf (second.equals value) _)
    rw [same.equals_eq held]
    exact rel_alike_self _
  | wildcard => exact fun _ => rel_alike_self _
  | binder name => exact fun same => .some (.ofBinding name (.inl same.equal))
  | typeTest tag =>
    intro first second same
    change Option.Rel _ (captureTest classes tag first _) (captureTest classes tag second _)
    rw [captureTest, captureTest, Value.checkTag, Value.checkTag, same.tag_eq]
    exact rel_alike_self _
  | fixedSequence elements each =>
    rw [storedIn_fixedSequence_iff] at stored
    intro first second same
    rw [extract_fixedSequence, extract_fixedSequence]
    exact rel_bind same.asView fun views =>
      extractEach_respects (fun element member => each element member (stored element member))
        views.items
  | sequenceHead head minimum inHead =>
    rw [storedIn_sequenceHead_iff] at stored
    intro first second same
    rw [extract_sequenceHead, extract_sequenceHead]
    refine rel_bind same.asView fun views => ?_
    rw [views.length_eq]
    split
    · exact rel_bind views.first? (inHead stored)
    · exact .none
  | headTail head tail inHead inTail =>
    rw [storedIn_headTail_iff] at stored
    intro first second same
    rw [extract_headTail, extract_headTail]
    exact rel_bind same.asView fun views => rel_bind views.tail? fun rests =>
      rel_bind (same.withView rests) fun parts => rel_bind views.first? fun firsts =>
        rel_bind (inHead stored.1 firsts) fun found => rel_bind (inTail stored.2 parts) fun later =>
          .some (found.append later)
  | initLast init last inInit inLast =>
    rw [storedIn_initLast_iff] at stored
    intro first second same
    rw [extract_initLast, extract_initLast]
    exact rel_bind same.asView fun views => rel_bind views.init? fun fronts =>
      rel_bind (same.withView fronts) fun parts => rel_bind views.last? fun lasts =>
        rel_bind (inInit stored.1 parts) fun found => rel_bind (inLast stored.2 lasts) fun later =>
          .some (found.append later)
  | emptySequence =>
    intro first second same
    rw [extract_emptySequence, extract_emptySequence]
    refine rel_bind same.asView fun views => ?_
    rw [views.isEmpty_eq]
    exact rel_alike_self _
  | tuple elements each =>
    rw [storedIn_tuple_iff] at stored
    intro first second same
    rw [extract_tuple, extract_tuple]
    refine rel_bind same.asTuple fun shown => ?_
    obtain rfl | inStep := shown
    · exact rel_alike_self _
    · exact extractEach_respects (fun element member => each element member (stored element member))
        inStep
  | bound name inner within =>
    rw [storedIn_bound_iff] at stored
    intro first second same
    rw [extract_bound, extract_bound]
    exact rel_bind (within stored same) fun found =>
      .some (.append (.ofBinding name (.inl same.equal)) found)

end Pattern

end PatternDispatch
