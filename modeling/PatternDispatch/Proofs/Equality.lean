/-
This file proves that equality of values is a partial equivalence as long as a cell has one
content. `Agrees` says kind by kind what it takes for two values to be equal. Two values in
one cell are equal without a look at their content, so transitivity needs the heap: a step
that only compares cells and a step that compares contents fit together because equal cells
hold equal contents. Equality is not reflexive, as a NaN differs from itself.
-/
import PatternDispatch.Proofs.Induction
import PatternDispatch.Proofs.ListsInStep
import PatternDispatch.Value.Equality

namespace PatternDispatch

/-! ### Heaps -/

/-- What a cell holds. -/
inductive Stored where
  | text (text : String)
  | items (items : List Value)
  | entries (entries : List (String × Value))
  | fields (fields : List (Name × Value))

/-- The content of every cell. -/
abbrev Heap := Cell → Stored

namespace Value

/-- Every cell that the value reaches holds what the value says it does. -/
inductive StoredIn (heap : Heap) : Value → Prop
  | unit : StoredIn heap .unit
  | bool (flag) : StoredIn heap (.bool flag)
  | int (number) : StoredIn heap (.int number)
  | float (number) : StoredIn heap (.float number)
  | char (character) : StoredIn heap (.char character)
  | str {cell text} (held : heap cell = .text text) : StoredIn heap (.str cell text)
  | seq {view : View Value} (held : heap view.cell = .items view.backing.toList)
    (each : ∀ item ∈ view.backing.toList, StoredIn heap item) : StoredIn heap (.seq view)
  | array {element : Tag} {view : View Value} (held : heap view.cell = .items view.backing.toList)
    (each : ∀ item ∈ view.backing.toList, StoredIn heap item) : StoredIn heap (.array element view)
  | map {cell entries} (held : heap cell = .entries entries)
    (each : ∀ entry ∈ entries, StoredIn heap entry.2) : StoredIn heap (.map cell entries)
  | tuple {cell items} (held : heap cell = .items items)
    (each : ∀ item ∈ items, StoredIn heap item) : StoredIn heap (.tuple cell items)
  | object {className cell fields} (held : heap cell = .fields fields)
    (each : ∀ field ∈ fields, StoredIn heap field.2) :
    StoredIn heap (.object className cell fields)

variable {heap : Heap}

theorem storedIn_str_iff {cell : Cell} {text : String} :
    (str cell text).StoredIn heap ↔ heap cell = .text text :=
  ⟨fun stored => by cases stored; assumption, .str⟩

theorem storedIn_seq_iff {view : View Value} : (seq view).StoredIn heap ↔
    heap view.cell = .items view.backing.toList ∧
      ∀ item ∈ view.backing.toList, item.StoredIn heap :=
  ⟨fun stored => by cases stored; exact ⟨‹_›, ‹_›⟩, fun stored => .seq stored.1 stored.2⟩

theorem storedIn_array_iff {element : Tag} {view : View Value} :
    (array element view).StoredIn heap ↔ (seq view).StoredIn heap := by
  rw [storedIn_seq_iff]
  exact ⟨fun stored => by cases stored; exact ⟨‹_›, ‹_›⟩, fun stored => .array stored.1 stored.2⟩

theorem storedIn_map_iff {cell : Cell} {entries : List (String × Value)} :
    (map cell entries).StoredIn heap ↔
      heap cell = .entries entries ∧ ∀ entry ∈ entries, entry.2.StoredIn heap :=
  ⟨fun stored => by cases stored; exact ⟨‹_›, ‹_›⟩, fun stored => .map stored.1 stored.2⟩

theorem storedIn_tuple_iff {cell : Cell} {items : List Value} :
    (tuple cell items).StoredIn heap ↔
      heap cell = .items items ∧ ∀ item ∈ items, item.StoredIn heap :=
  ⟨fun stored => by cases stored; exact ⟨‹_›, ‹_›⟩, fun stored => .tuple stored.1 stored.2⟩

theorem storedIn_object_iff {className : Name} {cell : Cell} {fields : List (Name × Value)} :
    (object className cell fields).StoredIn heap ↔
      heap cell = .fields fields ∧ ∀ field ∈ fields, field.2.StoredIn heap :=
  ⟨fun stored => by cases stored; exact ⟨‹_›, ‹_›⟩, fun stored => .object stored.1 stored.2⟩

theorem StoredIn.of_mem_items {view : View Value} {item : Value}
    (stored : (Value.seq view).StoredIn heap) (shown : item ∈ view.items) : item.StoredIn heap :=
  (storedIn_seq_iff.1 stored).2 item (View.mem_backing shown)

/-! ### Equality kind by kind -/

/-- Two values that compare as equal. -/
abbrev Equal (first second : Value) : Prop := first.equals second = true

/-- Equal values under the same key. -/
def EqualAt {Key : Type} (first second : Key × Value) : Prop :=
  first.1 = second.1 ∧ first.2.Equal second.2

/-- What it takes for two values to be equal, in terms of their parts. -/
inductive Agrees : Value → Value → Prop
  | unit : Agrees .unit .unit
  | bool (flag) : Agrees (.bool flag) (.bool flag)
  | int (number) : Agrees (.int number) (.int number)
  | float {first second : Double} (equal : first.equals second = true) :
    Agrees (.float first) (.float second)
  | char (character) : Agrees (.char character) (.char character)
  | str {cell other : Cell} {text otherText} (same : cell = other ∨ text = otherText) :
    Agrees (.str cell text) (.str other otherText)
  | seq {view other : View Value} (items : List.Forall₂ Equal view.items other.items) :
    Agrees (.seq view) (.seq other)
  | array (element : Tag) {view other : View Value}
    (items : List.Forall₂ Equal view.items other.items) :
    Agrees (.array element view) (.array element other)
  | map {cell other : Cell} {entries others}
    (same : cell = other ∨ List.Forall₂ EqualAt entries others) :
    Agrees (.map cell entries) (.map other others)
  | tuple {cell other : Cell} {items others}
    (same : cell = other ∨ List.Forall₂ Equal items others) :
    Agrees (.tuple cell items) (.tuple other others)
  | object (className : Name) {cell other : Cell} {fields others}
    (same : cell = other ∨ List.Forall₂ EqualAt fields others) :
    Agrees (.object className cell fields) (.object className other others)

theorem equalsEach_iff {items others : List Value} :
    equalsEach items others = true ↔ List.Forall₂ Equal items others := by
  induction items generalizing others with
  | nil => cases others <;> simp [equalsEach]
  | cons item items inductionHypothesis =>
    cases others with
    | nil => simp [equalsEach]
    | cons other others =>
      rw [equalsEach, Bool.and_eq_true, inductionHypothesis, List.forall₂_cons]

theorem equalsEntries_iff {entries others : List (String × Value)} :
    equalsEntries entries others = true ↔ List.Forall₂ EqualAt entries others := by
  induction entries generalizing others with
  | nil => cases others <;> simp [equalsEntries]
  | cons entry entries inductionHypothesis =>
    cases others with
    | nil => simp [equalsEntries]
    | cons other others =>
      rw [equalsEntries, Bool.and_eq_true, Bool.and_eq_true, decide_eq_true_eq,
        inductionHypothesis, List.forall₂_cons, EqualAt]

theorem equalsFields_iff {fields others : List (Name × Value)} :
    equalsFields fields others = true ↔ List.Forall₂ EqualAt fields others := by
  induction fields generalizing others with
  | nil => cases others <;> simp [equalsFields]
  | cons field fields inductionHypothesis =>
    cases others with
    | nil => simp [equalsFields]
    | cons other others =>
      rw [equalsFields, Bool.and_eq_true, Bool.and_eq_true, decide_eq_true_eq,
        inductionHypothesis, List.forall₂_cons, EqualAt]

section Kinds

variable {cell other : Cell} {view otherView : View Value} {items others : List Value}

theorem equal_str_iff {text otherText : String} :
    (str cell text).Equal (str other otherText) ↔ cell = other ∨ text = otherText := by
  have contents : (str cell text).equals (str other otherText) =
      (decide (cell = other) || decide (text = otherText)) := rfl
  rw [Equal, contents, Bool.or_eq_true, decide_eq_true_eq, decide_eq_true_eq]

theorem equal_seq_iff :
    (seq view).Equal (seq otherView) ↔ List.Forall₂ Equal view.items otherView.items := by
  rw [Equal, equals_seq, equalsEach_iff]

theorem equal_array_iff {element otherElement : Tag} :
    (array element view).Equal (array otherElement otherView) ↔
      element = otherElement ∧ List.Forall₂ Equal view.items otherView.items := by
  rw [Equal, equals_array, Bool.and_eq_true, decide_eq_true_eq, equalsEach_iff]

theorem equal_map_iff {entries otherEntries : List (String × Value)} :
    (map cell entries).Equal (map other otherEntries) ↔
      cell = other ∨ List.Forall₂ EqualAt entries otherEntries := by
  have contents : (map cell entries).equals (map other otherEntries) =
      (decide (cell = other) || equalsEntries entries otherEntries) := rfl
  rw [Equal, contents, Bool.or_eq_true, decide_eq_true_eq, equalsEntries_iff]

theorem equal_tuple_iff :
    (tuple cell items).Equal (tuple other others) ↔
      cell = other ∨ List.Forall₂ Equal items others := by
  rw [Equal, equals_tuple, Bool.or_eq_true, decide_eq_true_eq, equalsEach_iff]

theorem equal_object_iff {className otherClass : Name} {fields otherFields : List (Name × Value)} :
    (object className cell fields).Equal (object otherClass other otherFields) ↔
      className = otherClass ∧ (cell = other ∨ List.Forall₂ EqualAt fields otherFields) := by
  have contents : (object className cell fields).equals (object otherClass other otherFields) =
      (decide (className = otherClass) &&
        (decide (cell = other) || equalsFields fields otherFields)) := rfl
  rw [Equal, contents, Bool.and_eq_true, Bool.or_eq_true, decide_eq_true_eq, decide_eq_true_eq,
    equalsFields_iff]

end Kinds

theorem agrees_of_equal {first second : Value} (equal : first.Equal second) :
    Agrees first second := by
  cases first with
  | unit =>
    cases second with
    | unit => exact .unit
    | _ => cases equal
  | bool flag =>
    cases second with
    | bool other =>
      rw [of_decide_eq_true equal]
      exact .bool other
    | _ => cases equal
  | int number =>
    cases second with
    | int other =>
      rw [of_decide_eq_true equal]
      exact .int other
    | _ => cases equal
  | float number =>
    cases second with
    | float other => exact .float equal
    | _ => cases equal
  | char character =>
    cases second with
    | char other =>
      rw [of_decide_eq_true equal]
      exact .char other
    | _ => cases equal
  | str cell text =>
    cases second with
    | str other otherText => exact .str (equal_str_iff.1 equal)
    | _ => cases equal
  | seq view =>
    cases second with
    | seq other => exact .seq (equal_seq_iff.1 equal)
    | _ => cases equal
  | array element view =>
    cases second with
    | array otherElement other =>
      obtain ⟨rfl, items⟩ := equal_array_iff.1 equal
      exact .array element items
    | _ => cases equal
  | map cell entries =>
    cases second with
    | map other others => exact .map (equal_map_iff.1 equal)
    | _ => cases equal
  | tuple cell items =>
    cases second with
    | tuple other others => exact .tuple (equal_tuple_iff.1 equal)
    | _ => cases equal
  | object className cell fields =>
    cases second with
    | object otherClass other others =>
      obtain ⟨rfl, same⟩ := equal_object_iff.1 equal
      exact .object className same
    | _ => cases equal

/-- Two values are equal exactly if their parts agree. -/
theorem equal_iff_agrees {first second : Value} : first.Equal second ↔ Agrees first second := by
  refine ⟨agrees_of_equal, fun agrees => ?_⟩
  cases agrees with
  | unit => rfl
  | bool | int | char => exact decide_eq_true rfl
  | float equal => exact equal
  | str same => exact equal_str_iff.2 same
  | seq items => exact equal_seq_iff.2 items
  | array element items => exact equal_array_iff.2 ⟨rfl, items⟩
  | map same => exact equal_map_iff.2 same
  | tuple same => exact equal_tuple_iff.2 same
  | object className same => exact equal_object_iff.2 ⟨rfl, same⟩

/-! ### A partial equivalence -/

theorem forall₂_swapAt {Key : Type} {entries others : List (Key × Value)}
    (each : ∀ entry ∈ entries, ∀ value, entry.2.Equal value → value.Equal entry.2)
    (inStep : List.Forall₂ EqualAt entries others) : List.Forall₂ EqualAt others entries :=
  forall₂_swap (fun entry member other same => ⟨same.1.symm, each entry member other.2 same.2⟩)
    inStep

theorem Equal.symm {first second : Value} (equal : first.Equal second) : second.Equal first := by
  induction first using Value.induction generalizing second with
  | unit | bool | int | char =>
    cases agrees_of_equal equal
    exact equal
  | float number =>
    cases agrees_of_equal equal with
    | @float _ other =>
      have swapped := number.equals_comm other
      exact swapped.symm.trans equal
  | str cell text =>
    cases agrees_of_equal equal with
    | str same => exact equal_str_iff.2 (same.imp Eq.symm Eq.symm)
  | seq view each =>
    cases agrees_of_equal equal with
    | seq items => exact equal_seq_iff.2 (forall₂_swap each items)
  | array element view each =>
    cases agrees_of_equal equal with
    | array _ items => exact equal_array_iff.2 ⟨rfl, forall₂_swap each items⟩
  | map cell entries each =>
    cases agrees_of_equal equal with
    | map same =>
      exact equal_map_iff.2 (same.imp Eq.symm (forall₂_swapAt fun entry member _ =>
        each entry member))
  | tuple cell items each =>
    cases agrees_of_equal equal with
    | tuple same => exact equal_tuple_iff.2 (same.imp Eq.symm (forall₂_swap each))
  | object className cell fields each =>
    cases agrees_of_equal equal with
    | object _ same =>
      exact equal_object_iff.2 ⟨rfl, same.imp Eq.symm (forall₂_swapAt fun field member _ =>
        each field member)⟩

/-- A comparison of cells and a comparison of contents fit together. -/
theorem shared_compose {Content : Type} {first second third : Cell} {one two three : Content}
    {wrap : Content → Stored} {related : Content → Content → Prop}
    (injective : ∀ {content other}, wrap content = wrap other → content = other)
    (inFirst : heap first = wrap one) (inSecond : heap second = wrap two)
    (inThird : heap third = wrap three)
    (compose : related one two → related two three → related one three)
    (front : first = second ∨ related one two) (back : second = third ∨ related two three) :
    first = third ∨ related one three := by
  obtain rfl | inStep := front
  · cases injective (inFirst.symm.trans inSecond)
    exact back
  · obtain rfl | inStepBehind := back
    · cases injective (inSecond.symm.trans inThird)
      exact .inr inStep
    · exact .inr (compose inStep inStepBehind)

/-- Whatever equals something that the value equals, equals the value. -/
def Joins (heap : Heap) (first : Value) : Prop :=
  ∀ {second third : Value}, second.StoredIn heap → third.StoredIn heap →
    first.Equal second → second.Equal third → first.Equal third

theorem forall₂_join {items others thirds : List Value}
    (joins : ∀ item ∈ items, Joins heap item) (stored : ∀ other ∈ others, other.StoredIn heap)
    (storedBehind : ∀ third ∈ thirds, third.StoredIn heap)
    (one : List.Forall₂ Equal items others) (other : List.Forall₂ Equal others thirds) :
    List.Forall₂ Equal items thirds := by
  refine forall₂_compose (fun first inFirst second inSecond third inThird same next => ?_) one other
  exact joins first inFirst (stored second inSecond) (storedBehind third inThird) same next

theorem forall₂_joinAt {Key : Type} {entries others thirds : List (Key × Value)}
    (joins : ∀ entry ∈ entries, Joins heap entry.2)
    (stored : ∀ other ∈ others, other.2.StoredIn heap)
    (storedBehind : ∀ third ∈ thirds, third.2.StoredIn heap)
    (one : List.Forall₂ EqualAt entries others) (other : List.Forall₂ EqualAt others thirds) :
    List.Forall₂ EqualAt entries thirds := by
  refine forall₂_compose (fun first inFirst second inSecond third inThird same next => ?_) one other
  exact ⟨same.1.trans next.1, joins first inFirst (stored second inSecond)
    (storedBehind third inThird) same.2 next.2⟩

theorem joins_of_agrees {first : Value}
    (join : ∀ {second third : Value}, second.StoredIn heap → third.StoredIn heap →
      Agrees first second → Agrees second third → Agrees first third) : Joins heap first :=
  fun inSecond inThird one other => equal_iff_agrees.2
    (join inSecond inThird (agrees_of_equal one) (agrees_of_equal other))

theorem StoredIn.joins {first : Value} (inFirst : first.StoredIn heap) : Joins heap first := by
  -- The induction is on the stored value, since every part of it has to be stored as well.
  induction inFirst with
  | unit | bool | int | char =>
    refine joins_of_agrees fun inSecond inThird one other => ?_
    cases one
    exact other
  | float number =>
    refine joins_of_agrees fun inSecond inThird one other => ?_
    cases one with
    | float same =>
      cases other with
      | float next => exact .float (Double.equals_trans same next)
  | str held =>
    refine joins_of_agrees fun inSecond inThird one other => ?_
    cases one with
    | str same =>
      cases other with
      | str next =>
        rw [storedIn_str_iff] at inSecond inThird
        exact .str (shared_compose Stored.text.inj held inSecond inThird Eq.trans same next)
  | seq held each inductionHypothesis =>
    refine joins_of_agrees fun inSecond inThird one other => ?_
    cases one with
    | seq same =>
      cases other with
      | seq next =>
        exact .seq (forall₂_join
          (fun item shown => inductionHypothesis item (View.mem_backing shown))
          (fun other => inSecond.of_mem_items) (fun third => inThird.of_mem_items) same next)
  | array held each inductionHypothesis =>
    refine joins_of_agrees fun inSecond inThird one other => ?_
    cases one with
    | array _ same =>
      cases other with
      | array _ next =>
        rw [storedIn_array_iff] at inSecond inThird
        exact .array _ (forall₂_join
          (fun item shown => inductionHypothesis item (View.mem_backing shown))
          (fun other => inSecond.of_mem_items) (fun third => inThird.of_mem_items) same next)
  | map held each inductionHypothesis =>
    refine joins_of_agrees fun inSecond inThird one other => ?_
    cases one with
    | map same =>
      cases other with
      | map next =>
        rw [storedIn_map_iff] at inSecond inThird
        exact .map (shared_compose Stored.entries.inj held inSecond.1 inThird.1
          (forall₂_joinAt inductionHypothesis inSecond.2 inThird.2) same next)
  | tuple held each inductionHypothesis =>
    refine joins_of_agrees fun inSecond inThird one other => ?_
    cases one with
    | tuple same =>
      cases other with
      | tuple next =>
        rw [storedIn_tuple_iff] at inSecond inThird
        exact .tuple (shared_compose Stored.items.inj held inSecond.1 inThird.1
          (forall₂_join inductionHypothesis inSecond.2 inThird.2) same next)
  | object held each inductionHypothesis =>
    refine joins_of_agrees fun inSecond inThird one other => ?_
    cases one with
    | object _ same =>
      cases other with
      | object _ next =>
        rw [storedIn_object_iff] at inSecond inThird
        exact .object _ (shared_compose Stored.fields.inj held inSecond.1 inThird.1
          (forall₂_joinAt inductionHypothesis inSecond.2 inThird.2) same next)

theorem Equal.trans {first second third : Value} (inFirst : first.StoredIn heap)
    (inSecond : second.StoredIn heap) (inThird : third.StoredIn heap)
    (one : first.Equal second) (other : second.Equal third) : first.Equal third :=
  inFirst.joins inSecond inThird one other

/-- Equal values are of one kind. A tuple may be compared by its cell alone, and has the arity
of whatever else the cell is said to hold. -/
theorem Equal.tag_eq {first second : Value} (inFirst : first.StoredIn heap)
    (inSecond : second.StoredIn heap) (equal : first.Equal second) : first.tag = second.tag := by
  cases agrees_of_equal equal with
  | tuple same =>
    rw [storedIn_tuple_iff] at inFirst inSecond
    obtain rfl | inStep := same
    · cases inFirst.1.symm.trans inSecond.1
      rfl
    · exact congrArg Tag.tuple inStep.length_eq
  | _ => rfl

theorem Equal.typeName_eq {first second : Value} (equal : first.Equal second) :
    first.typeName = second.typeName := by
  cases agrees_of_equal equal <;> rfl

/-- The order of a comparison does not matter. -/
theorem equals_comm (first second : Value) : first.equals second = second.equals first :=
  Bool.eq_iff_iff.2 ⟨Equal.symm, Equal.symm⟩

/-- Equality of the values of a heap is symmetric and transitive, and equal values show the same
tag and are of the same kind. -/
theorem equals_is_partial_equivalence {first second third : Value} (inFirst : first.StoredIn heap)
    (inSecond : second.StoredIn heap) (inThird : third.StoredIn heap) :
    (first.equals second = true → second.equals first = true) ∧
      (first.equals second = true → second.equals third = true → first.equals third = true) ∧
      (first.equals second = true →
        first.tag = second.tag ∧ first.typeName = second.typeName) := by
  refine ⟨Equal.symm, Equal.trans inFirst inSecond inThird, fun equal => ⟨?_, ?_⟩⟩
  · exact Equal.tag_eq inFirst inSecond equal
  · exact Equal.typeName_eq equal

/-- Three lists that show one tuple with a NaN in it, and the two zeros in turn. The tuple equals
itself by its cell and the zeros equal each other as numbers, although the NaN equals nothing. -/
theorem equals_is_partial_equivalence_shared :
    let number : Double := ⟨0x7ff8000000000000⟩
    let zero : Value := .float ⟨0⟩
    let minusZero : Value := .float ⟨0x8000000000000000⟩
    let shared : Value := .tuple 0 [.float number]
    let heap : Heap := fun cell => .items ([[.float number], [shared, zero],
      [.unit, shared, minusZero], [shared, zero]].getD cell [])
    let first : Value := .seq (.whole 1 [shared, zero])
    let second : Value := .seq ⟨2, #[.unit, shared, minusZero], 1, 3⟩
    let third : Value := .seq (.whole 3 [shared, zero])
    first.StoredIn heap ∧ second.StoredIn heap ∧ third.StoredIn heap ∧
      ¬(Value.float number).Equal (.float number) ∧ first.Equal second ∧ second.Equal third ∧
      second.Equal first ∧ first.Equal third ∧ first.tag = second.tag := by
  intro number zero minusZero shared heap first second third
  have storedShared : shared.StoredIn heap := .tuple rfl (List.forall_mem_singleton.2 (.float _))
  have ends : ∀ bits, ∀ item ∈ [shared, .float bits], item.StoredIn heap := fun bits =>
    List.forall_mem_cons.2 ⟨storedShared, List.forall_mem_singleton.2 (.float bits)⟩
  have inFirst : first.StoredIn heap := .seq rfl (ends _)
  have inSecond : second.StoredIn heap := .seq rfl (List.forall_mem_cons.2 ⟨.unit, ends _⟩)
  have inThird : third.StoredIn heap := .seq rfl (ends _)
  have one : first.Equal second := by decide
  have other : second.Equal third := by decide
  obtain ⟨symmetric, transitive, determined⟩ :=
    equals_is_partial_equivalence inFirst inSecond inThird
  exact ⟨inFirst, inSecond, inThird, by decide, one, other, symmetric one, transitive one other,
    (determined one).1⟩

end Value

end PatternDispatch
