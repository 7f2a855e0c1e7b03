/-
This file proves that equality is a matter of structure, as long as no NaN is involved. `Resembles`
compares two values by what they show and by nothing else: neither a cell nor an offset occurs in
it. Values that resemble each other are equal. The converse needs a word on sharing: two values in
one cell are equal unseen, so their common content has to resemble itself, and it does unless it
shows a NaN. Copying parts of a value into other cells, behind other offsets, keeps what it shows,
so that no comparison can tell the copy from its original.
-/
import Mathlib.Logic.Relation
import PatternDispatch.Proofs.Congruence

namespace PatternDispatch

/-- A literal accepts without binding anything, or it rejects, as the comparison decides. -/
theorem Pattern.attempt_literal (held subject : Value) (classes : ClassTable) (clause : Nat) :
    (literal held).attempt classes clause subject =
      if subject.equals held then ⟨.accepted .empty, []⟩ else ⟨.rejected, []⟩ := by
  have found : (literal held).extract classes subject =
      captureIf (subject.equals held) .empty := rfl
  rw [attempt, found]
  cases subject.equals held <;> rfl

/-- Equal comparisons make for equal attempts of literals. -/
theorem Pattern.attempt_literal_congr {subject other held otherHeld : Value}
    (same : subject.equals held = other.equals otherHeld) (classes : ClassTable) (clause : Nat) :
    (literal held).attempt classes clause subject =
      (literal otherHeld).attempt classes clause other := by
  rw [attempt_literal, attempt_literal, same]

namespace Value

/-! ### What a value shows -/

/-- The values directly inside a value, as far as it shows them. -/
def parts : Value → List Value
  | seq view | array _ view => view.items
  | map _ entries => entries.map Prod.snd
  | tuple _ items => items
  | object _ _ fields => fields.map Prod.snd
  | _ => []

/-- The part is the value itself, or somewhere inside of it where it is shown. -/
abbrev Shows : Value → Value → Prop := Relation.ReflTransGen fun value part => part ∈ value.parts

/-- No float that the value shows is a NaN. -/
def NaNFree (value : Value) : Prop :=
  ∀ number, value.Shows (.float number) → number.isNaN = false

theorem NaNFree.of_mem_parts {value part : Value} (free : value.NaNFree)
    (member : part ∈ value.parts) : part.NaNFree :=
  fun number shown => free number (.head member shown)

theorem NaNFree.of_mem_entries {cell : Cell} {entries : List (String × Value)}
    {entry : String × Value} (free : (map cell entries).NaNFree) (member : entry ∈ entries) :
    entry.2.NaNFree :=
  free.of_mem_parts (List.mem_map_of_mem member)

theorem NaNFree.of_mem_fields {className : Name} {cell : Cell} {fields : List (Name × Value)}
    {field : Name × Value} (free : (object className cell fields).NaNFree)
    (member : field ∈ fields) : field.2.NaNFree :=
  free.of_mem_parts (List.mem_map_of_mem member)

theorem nanFree_iff {value : Value} : value.NaNFree ↔
    (∀ number, value = .float number → number.isNaN = false) ∧
      ∀ part ∈ value.parts, part.NaNFree := by
  refine ⟨fun free => ⟨?_, fun part => free.of_mem_parts⟩, fun ⟨itself, inside⟩ number shown => ?_⟩
  · rintro number rfl
    exact free number .refl
  · obtain same | ⟨part, member, shown⟩ := Relation.ReflTransGen.cases_head_iff.1 shown
    · exact itself number same
    · exact inside part member number shown

theorem nanFree_float_iff {number : Double} :
    (float number).NaNFree ↔ number.isNaN = false := by
  refine ⟨fun free => free number .refl, fun real => nanFree_iff.2 ⟨?_, List.forall_mem_nil _⟩⟩
  rintro other same
  rwa [← Value.float.inj same]

/-! ### Resemblance -/

/-- Related values under the same key. -/
inductive RelatedAt {Key : Type} (related : Value → Value → Prop) :
    Key × Value → Key × Value → Prop
  | intro (key : Key) {first second : Value} (values : related first second) :
    RelatedAt related (key, first) (key, second)

theorem relatedAt_iff {Key : Type} {related : Value → Value → Prop} {entry other : Key × Value} :
    RelatedAt related entry other ↔ entry.1 = other.1 ∧ related entry.2 other.2 := by
  obtain ⟨key, value⟩ := entry
  obtain ⟨otherKey, otherValue⟩ := other
  constructor
  · intro keyed
    cases keyed with
    | intro _ values => exact ⟨rfl, values⟩
  · rintro ⟨same, values⟩
    cases same
    exact .intro key values

/-- The same structure with the same contents, where floats are compared as numbers. -/
inductive Resembles : Value → Value → Prop
  | unit : Resembles .unit .unit
  | bool (flag) : Resembles (.bool flag) (.bool flag)
  | int (number) : Resembles (.int number) (.int number)
  | float {first second : Double} (equal : first.equals second = true) :
    Resembles (.float first) (.float second)
  | char (character) : Resembles (.char character) (.char character)
  | str {cell other : Cell} (text) : Resembles (.str cell text) (.str other text)
  | seq {view other : View Value} (items : List.Forall₂ Resembles view.items other.items) :
    Resembles (.seq view) (.seq other)
  | array (element : Tag) {view other : View Value}
    (items : List.Forall₂ Resembles view.items other.items) :
    Resembles (.array element view) (.array element other)
  | map {cell other : Cell} {entries others}
    (each : List.Forall₂ (RelatedAt Resembles) entries others) :
    Resembles (.map cell entries) (.map other others)
  | tuple {cell other : Cell} {items others} (each : List.Forall₂ Resembles items others) :
    Resembles (.tuple cell items) (.tuple other others)
  | object (className : Name) {cell other : Cell} {fields others}
    (each : List.Forall₂ (RelatedAt Resembles) fields others) :
    Resembles (.object className cell fields) (.object className other others)

variable {heap : Heap} {first second value : Value}

/-- Without NaN, what a value shows is equal to itself all the way down. -/
theorem Resembles.refl (free : value.NaNFree) : value.Resembles value := by
  induction value using Value.induction with
  | unit => exact .unit
  | bool flag => exact .bool flag
  | int number => exact .int number
  | float number =>
    refine .float ?_
    rw [number.equals_self, nanFree_float_iff.1 free]
    rfl
  | char character => exact .char character
  | str cell text => exact .str text
  | seq view each =>
    exact .seq (List.forall₂_same.2 fun item shown => each item shown (free.of_mem_parts shown))
  | array element view each =>
    exact .array element (List.forall₂_same.2 fun item shown =>
      each item shown (free.of_mem_parts shown))
  | map cell entries each =>
    exact .map (List.forall₂_same.2 fun entry member =>
      .intro entry.1 (each entry member (free.of_mem_entries member)))
  | tuple cell items each =>
    exact .tuple (List.forall₂_same.2 fun item member =>
      each item member (free.of_mem_parts member))
  | object className cell fields each =>
    exact .object className (List.forall₂_same.2 fun field member =>
      .intro field.1 (each field member (free.of_mem_fields member)))

/-- Values that resemble each other are equal, wherever they are stored. -/
theorem Resembles.equal (resembles : first.Resembles second) : first.Equal second := by
  induction first using Value.induction generalizing second with
  | unit | bool | int | char =>
    cases resembles
    exact equal_iff_agrees.2 (by constructor)
  | float number =>
    cases resembles with
    | float equal => exact equal
  | str cell text =>
    cases resembles
    exact equal_str_iff.2 (.inr rfl)
  | seq view each =>
    cases resembles with
    | seq items =>
      exact equal_seq_iff.2 (forall₂_imp_of_mem (fun item shown _ _ => each item shown) items)
  | array element view each =>
    cases resembles with
    | array _ items =>
      exact equal_array_iff.2
        ⟨rfl, forall₂_imp_of_mem (fun item shown _ _ => each item shown) items⟩
  | map cell entries each =>
    cases resembles with
    | map inStep =>
      exact equal_map_iff.2 (.inr (forall₂_imp_of_mem (fun entry member _ _ keyed =>
        (relatedAt_iff.1 keyed).imp_right (each entry member)) inStep))
  | tuple cell items each =>
    cases resembles with
    | tuple inStep =>
      exact equal_tuple_iff.2
        (.inr (forall₂_imp_of_mem (fun item member _ _ => each item member) inStep))
  | object className cell fields each =>
    cases resembles with
    | object _ inStep =>
      exact equal_object_iff.2 ⟨rfl, .inr (forall₂_imp_of_mem (fun field member _ _ keyed =>
        (relatedAt_iff.1 keyed).imp_right (each field member)) inStep)⟩

theorem NaNFree.equal_self (free : value.NaNFree) : value.Equal value := (Resembles.refl free).equal

/-! ### Equal values resemble each other -/

section Contents

variable {cell other : Cell}

/-- Where a comparison of cells settles that contents are equal, a comparison of the contents would
have settled it as well, if the content is equal to itself. -/
theorem equal_contents {Content : Type} {content others : Content} {wrap : Content → Stored}
    {related : Content → Content → Prop}
    (injective : ∀ {one two}, wrap one = wrap two → one = two) (held : heap cell = wrap content)
    (heldOther : heap other = wrap others) (self : related content content)
    (same : cell = other ∨ related content others) : related content others := by
  obtain rfl | inStep := same
  · cases injective (held.symm.trans heldOther)
    exact self
  · exact inStep

/-- Equal contents of two maps or of two objects resemble each other if their values do. -/
theorem contents_resemble {Key : Type} {entries others : List (Key × Value)}
    {wrap : List (Key × Value) → Stored}
    (injective : ∀ {one two}, wrap one = wrap two → one = two) (held : heap cell = wrap entries)
    (heldOther : heap other = wrap others) (free : ∀ entry ∈ entries, entry.2.NaNFree)
    (resemble : ∀ entry ∈ entries, ∀ other ∈ others, entry.2.Equal other.2 →
      entry.2.Resembles other.2) (same : cell = other ∨ List.Forall₂ EqualAt entries others) :
    List.Forall₂ (RelatedAt Resembles) entries others := by
  have self : List.Forall₂ EqualAt entries entries :=
    List.forall₂_same.2 fun entry member => ⟨rfl, (free entry member).equal_self⟩
  have inStep := equal_contents injective held heldOther self same
  refine forall₂_imp_of_mem (fun entry member other memberOther same => ?_) inStep
  exact relatedAt_iff.2 ⟨same.1, resemble entry member other memberOther same.2⟩

end Contents

/-- Equal values of which the first shows no NaN resemble each other. -/
theorem Equal.resembles (inFirst : first.StoredIn heap) (inSecond : second.StoredIn heap)
    (free : first.NaNFree) (equal : first.Equal second) : first.Resembles second := by
  -- The induction is on how the first value is stored: where two parts are in one cell, it is the
  -- heap that tells that they have the same content.
  induction inFirst generalizing second with
  | unit | bool | int | char =>
    cases agrees_of_equal equal
    constructor
  | float number =>
    cases agrees_of_equal equal with
    | float equal => exact .float equal
  | str held =>
    cases agrees_of_equal equal with
    | str same =>
      have heldOther := storedIn_str_iff.1 inSecond
      cases equal_contents Stored.text.inj held heldOther rfl same
      exact .str _
  | seq held each inductionHypothesis =>
    cases agrees_of_equal equal with
    | seq items =>
      refine .seq (forall₂_imp_of_mem (fun item shown other shownOther same => ?_) items)
      exact inductionHypothesis item (View.mem_backing shown) (inSecond.of_mem_items shownOther)
        (free.of_mem_parts shown) same
  | array held each inductionHypothesis =>
    cases agrees_of_equal equal with
    | array _ items =>
      rw [storedIn_array_iff] at inSecond
      refine .array _ (forall₂_imp_of_mem (fun item shown other shownOther same => ?_) items)
      exact inductionHypothesis item (View.mem_backing shown) (inSecond.of_mem_items shownOther)
        (free.of_mem_parts shown) same
  | map held each inductionHypothesis =>
    cases agrees_of_equal equal with
    | map same =>
      rw [storedIn_map_iff] at inSecond
      have freeEach := fun entry (member : entry ∈ _) => free.of_mem_entries member
      exact .map (contents_resemble Stored.entries.inj held inSecond.1 freeEach
        (fun entry member other memberOther => inductionHypothesis entry member
          (inSecond.2 other memberOther) (freeEach entry member)) same)
  | tuple held each inductionHypothesis =>
    cases agrees_of_equal equal with
    | tuple same =>
      rw [storedIn_tuple_iff] at inSecond
      have self := List.forall₂_same.2 fun item member => (free.of_mem_parts member).equal_self
      have inStep := equal_contents Stored.items.inj held inSecond.1 self same
      refine .tuple (forall₂_imp_of_mem (fun item member other memberOther same => ?_) inStep)
      exact inductionHypothesis item member (inSecond.2 other memberOther)
        (free.of_mem_parts member) same
  | object held each inductionHypothesis =>
    cases agrees_of_equal equal with
    | object _ same =>
      rw [storedIn_object_iff] at inSecond
      have freeEach := fun field (member : field ∈ _) => free.of_mem_fields member
      exact .object _ (contents_resemble Stored.fields.inj held inSecond.1 freeEach
        (fun field member other memberOther => inductionHypothesis field member
          (inSecond.2 other memberOther) (freeEach field member)) same)

/-! ### Copies -/

/-- The same structure with the very same contents, but possibly in other cells and behind other
offsets. Any part may have been kept as it is instead of being copied. -/
inductive CopiedTo : Value → Value → Prop
  | kept (original : Value) : CopiedTo original original
  | str {cell other : Cell} (text) : CopiedTo (.str cell text) (.str other text)
  | seq {view other : View Value} (items : List.Forall₂ CopiedTo view.items other.items) :
    CopiedTo (.seq view) (.seq other)
  | array (element : Tag) {view other : View Value}
    (items : List.Forall₂ CopiedTo view.items other.items) :
    CopiedTo (.array element view) (.array element other)
  | map {cell other : Cell} {entries others}
    (each : List.Forall₂ (RelatedAt CopiedTo) entries others) :
    CopiedTo (.map cell entries) (.map other others)
  | tuple {cell other : Cell} {items others} (each : List.Forall₂ CopiedTo items others) :
    CopiedTo (.tuple cell items) (.tuple other others)
  | object (className : Name) {cell other : Cell} {fields others}
    (each : List.Forall₂ (RelatedAt CopiedTo) fields others) :
    CopiedTo (.object className cell fields) (.object className other others)

/-- A value that shows no NaN resembles its copies. -/
theorem CopiedTo.resembles (copied : first.CopiedTo second) (free : first.NaNFree) :
    first.Resembles second := by
  induction first using Value.induction generalizing second with
  | unit | bool | int | float | char =>
    cases copied
    exact .refl free
  | str cell text => cases copied <;> exact .str text
  | seq view each =>
    cases copied with
    | kept => exact .refl free
    | seq items =>
      exact .seq (forall₂_imp_of_mem (fun item shown _ _ copied =>
        each item shown copied (free.of_mem_parts shown)) items)
  | array element view each =>
    cases copied with
    | kept => exact .refl free
    | array _ items =>
      exact .array element (forall₂_imp_of_mem (fun item shown _ _ copied =>
        each item shown copied (free.of_mem_parts shown)) items)
  | map cell entries each =>
    cases copied with
    | kept => exact .refl free
    | map inStep =>
      exact .map (forall₂_imp_of_mem (fun entry member _ _ keyed =>
        relatedAt_iff.2 ((relatedAt_iff.1 keyed).imp_right fun copied =>
          each entry member copied (free.of_mem_entries member))) inStep)
  | tuple cell items each =>
    cases copied with
    | kept => exact .refl free
    | tuple inStep =>
      exact .tuple (forall₂_imp_of_mem (fun item member _ _ copied =>
        each item member copied (free.of_mem_parts member)) inStep)
  | object className cell fields each =>
    cases copied with
    | kept => exact .refl free
    | object _ inStep =>
      exact .object className (forall₂_imp_of_mem (fun field member _ _ keyed =>
        relatedAt_iff.2 ((relatedAt_iff.1 keyed).imp_right fun copied =>
          each field member copied (free.of_mem_fields member))) inStep)

/-- Putting the copy in the place of the value changes no comparison with a value of the heap: not
equality, on either side of it, and no attempt of a literal or of a stable reference, whether the
two are the subject or the value that is held. -/
structure Interchangeable (heap : Heap) (value copy : Value) : Prop where
  left {other : Value} (stored : other.StoredIn heap) : copy.equals other = value.equals other
  right {other : Value} (stored : other.StoredIn heap) : other.equals copy = other.equals value
  literal {other : Value} (stored : other.StoredIn heap) (classes : ClassTable) (clause : Nat) :
    (Pattern.literal other).attempt classes clause copy =
      (Pattern.literal other).attempt classes clause value
  heldByLiteral {other : Value} (stored : other.StoredIn heap) (classes : ClassTable)
    (clause : Nat) :
    (Pattern.literal copy).attempt classes clause other =
      (Pattern.literal value).attempt classes clause other
  reference {other : Value} (stored : other.StoredIn heap) (classes : ClassTable) (clause : Nat)
    (name : Name) :
    (Pattern.stableReference name other).attempt classes clause copy =
      (Pattern.stableReference name other).attempt classes clause value
  heldByReference {other : Value} (stored : other.StoredIn heap) (classes : ClassTable)
    (clause : Nat) (name : Name) :
    (Pattern.stableReference name copy).attempt classes clause other =
      (Pattern.stableReference name value).attempt classes clause other

/-- Equal values of a heap take each other's place, with NaN or without. -/
theorem EqualIn.interchangeable {copy : Value} (same : value.EqualIn heap copy) :
    value.Interchangeable heap copy := by
  have left : ∀ {other : Value}, other.StoredIn heap → copy.equals other = value.equals other :=
    fun stored => (same.equals_eq stored).symm
  have right : ∀ {other : Value}, other.StoredIn heap → other.equals copy = other.equals value :=
    fun {other} stored => by rw [equals_comm other, equals_comm other, left stored]
  -- A stable reference makes the very comparison that a literal makes.
  exact {
    left := left
    right := right
    literal := fun stored => Pattern.attempt_literal_congr (left stored)
    heldByLiteral := fun stored => Pattern.attempt_literal_congr (right stored)
    reference := fun stored classes clause _ =>
      Pattern.attempt_literal_congr (left stored) classes clause
    heldByReference := fun stored classes clause _ =>
      Pattern.attempt_literal_congr (right stored) classes clause }

/-- Values that resemble each other are equal, and equal values resemble each other if the first
shows no NaN. Copying parts of such a value into other cells, behind other offsets, gives a value
that takes its place in every comparison. -/
theorem equality_is_structural (first second : Value) :
    (first.Resembles second → first.equals second = true) ∧
      ∀ heap : Heap, first.StoredIn heap → first.NaNFree →
        (second.StoredIn heap → first.equals second = true → first.Resembles second) ∧
          ∀ copy : Value, copy.StoredIn heap → first.CopiedTo copy →
            first.Interchangeable heap copy := by
  refine ⟨Resembles.equal, fun heap inFirst free => ⟨?_, fun copy inCopy copied => ?_⟩⟩
  · exact fun inSecond => Equal.resembles inFirst inSecond free
  · have same : first.EqualIn heap copy := ⟨inFirst, inCopy, (copied.resembles free).equal⟩
    exact same.interchangeable

/-- A tuple with a half in it, shown behind a hidden NaN, and a map. The copy has the tuple and the
sequence in other cells, without the hidden item, and shares the map. -/
theorem equality_is_structural_hidden :
    let half : Value := .float ⟨0x3fe0000000000000⟩
    let hidden : Value := .float ⟨0x7ff8000000000000⟩
    let kept : Value := .map 2 [("key", .str 3 "text")]
    let shifted : Value := .seq ⟨1, #[hidden, half], 1, 2⟩
    let fresh : Value := .seq (.whole 5 [half])
    let heap : Heap := fun cell => [.items [shifted, kept], .items [hidden, half],
      .entries [("key", .str 3 "text")], .text "text", .items [fresh, kept]].getD cell
        (.items [half])
    let value : Value := .tuple 0 [shifted, kept]
    let copy : Value := .tuple 4 [fresh, kept]
    value.StoredIn heap ∧ copy.StoredIn heap ∧ value.NaNFree ∧ value.CopiedTo copy ∧
      value.equals copy = true ∧ value.Resembles copy ∧ value.Interchangeable heap copy := by
  intro half hidden kept shifted fresh heap value copy
  have storedKept : kept.StoredIn heap := .map rfl (List.forall_mem_singleton.2 (.str rfl))
  have storedShifted : shifted.StoredIn heap :=
    .seq rfl (List.forall_mem_cons.2 ⟨.float _, List.forall_mem_singleton.2 (.float _)⟩)
  have storedFresh : fresh.StoredIn heap := .seq rfl (List.forall_mem_singleton.2 (.float _))
  have inValue : value.StoredIn heap :=
    .tuple rfl (List.forall_mem_cons.2 ⟨storedShifted, List.forall_mem_singleton.2 storedKept⟩)
  have inCopy : copy.StoredIn heap :=
    .tuple rfl (List.forall_mem_cons.2 ⟨storedFresh, List.forall_mem_singleton.2 storedKept⟩)
  have freeHalf : half.NaNFree := nanFree_float_iff.2 (by decide)
  have freeText : (Value.str 3 "text").NaNFree := nanFree_iff.2 ⟨nofun, List.forall_mem_nil _⟩
  have freeKept : kept.NaNFree := nanFree_iff.2 ⟨nofun, List.forall_mem_singleton.2 freeText⟩
  have freeShifted : shifted.NaNFree := nanFree_iff.2 ⟨nofun, List.forall_mem_singleton.2 freeHalf⟩
  have free : value.NaNFree := nanFree_iff.2 ⟨nofun,
    List.forall_mem_cons.2 ⟨freeShifted, List.forall_mem_singleton.2 freeKept⟩⟩
  have copied : value.CopiedTo copy :=
    .tuple (.cons (.seq (.cons (.kept half) .nil)) (.cons (.kept kept) .nil))
  have equal : value.equals copy = true := by decide
  obtain ⟨-, stored⟩ := equality_is_structural value copy
  obtain ⟨resembles, interchangeable⟩ := stored heap inValue free
  exact ⟨inValue, inCopy, free, copied, equal, resembles inCopy equal,
    interchangeable copy inCopy copied⟩

end Value

end PatternDispatch
