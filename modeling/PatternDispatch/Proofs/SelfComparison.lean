/-
This file proves which values differ from themselves. Nothing but a NaN does so on its own, and what
holds one differs from itself only if the comparison gets as far as the NaN. Sequences and arrays
are compared item by item, even with themselves; whatever is kept in a cell of its own is equal
before its content is looked at. So a NaN counts if a way leads to it through visible items of
sequences and arrays alone, and a tuple, a map or an object on the way makes it harmless.
-/
import PatternDispatch.Proofs.Resemblance

namespace PatternDispatch.Value

/-! ### What a comparison goes through -/

/-- The visible items of a sequence or of an array. No other value lists anything. -/
def listed : Value → List Value
  | seq view | array _ view => view.items
  | _ => []

/-- The part is the value itself, or it is selected from it through sequences and arrays alone. -/
abbrev Lists : Value → Value → Prop := Relation.ReflTransGen fun value item => item ∈ value.listed

/-- Selecting visible items of sequences and arrays, and nothing else, leads to a NaN. -/
def ListsNaN (value : Value) : Prop :=
  ∃ number, value.Lists (.float number) ∧ number.isNaN = true

theorem listsNaN_iff {value : Value} : value.ListsNaN ↔
    (∃ number, value = .float number ∧ number.isNaN = true) ∨
      ∃ item ∈ value.listed, item.ListsNaN := by
  constructor
  · rintro ⟨number, reached, nan⟩
    obtain same | ⟨item, inside, further⟩ := Relation.ReflTransGen.cases_head_iff.1 reached
    · exact .inl ⟨number, same, nan⟩
    · exact .inr ⟨item, inside, number, further, nan⟩
  · rintro (⟨number, rfl, nan⟩ | ⟨item, inside, number, further, nan⟩)
    · exact ⟨number, .refl, nan⟩
    · exact ⟨number, .head inside further, nan⟩

/-- A property of all values, from the values that each of them lists. -/
theorem listed_induction {motive : Value → Prop}
    (step : ∀ value, (∀ item ∈ value.listed, motive item) → motive value) (value : Value) :
    motive value := by
  induction value using Value.induction with
  | seq view each => exact step (.seq view) each
  | array element view each => exact step (.array element view) each
  | _ => exact step _ (List.forall_mem_nil _)

/-! ### One value on both sides -/

/-- A value is equal to itself unless it is a NaN or lists an item that differs from itself. Its
cell, if it has one, is its own, so no content behind a cell is compared. -/
theorem equal_self_iff {value : Value} : value.Equal value ↔
    (∀ number, value = .float number → number.isNaN = false) ∧
      ∀ item ∈ value.listed, item.Equal item := by
  cases value with
  | float number =>
    have self : (float number).Equal (float number) ↔ number.isNaN = false := by
      rw [Equal, equals, number.equals_self, Bool.not_eq_true']
    rw [self]
    refine ⟨fun real => ⟨?_, List.forall_mem_nil _⟩, fun free => free.1 number rfl⟩
    rintro other same
    rwa [← Value.float.inj same]
  | seq view =>
    rw [equal_seq_iff, List.forall₂_same]
    exact (and_iff_right (by simp)).symm
  | array element view =>
    rw [equal_array_iff, List.forall₂_same, eq_self, true_and]
    exact (and_iff_right (by simp)).symm
  | unit | bool | int | char =>
    exact iff_of_true (equal_iff_agrees.2 (by constructor)) ⟨by simp, List.forall_mem_nil _⟩
  | str cell text =>
    exact iff_of_true (equal_str_iff.2 (.inl rfl)) ⟨by simp, List.forall_mem_nil _⟩
  | map cell entries =>
    exact iff_of_true (equal_map_iff.2 (.inl rfl)) ⟨by simp, List.forall_mem_nil _⟩
  | tuple cell items =>
    exact iff_of_true (equal_tuple_iff.2 (.inl rfl)) ⟨by simp, List.forall_mem_nil _⟩
  | object className cell fields =>
    exact iff_of_true (equal_object_iff.2 ⟨rfl, .inl rfl⟩) ⟨by simp, List.forall_mem_nil _⟩

theorem equal_self_iff_not_listsNaN (value : Value) : value.Equal value ↔ ¬value.ListsNaN := by
  induction value using listed_induction with
  | step value each =>
    have itself : (∀ number, value = .float number → number.isNaN = false) ↔
        ¬∃ number, value = .float number ∧ number.isNaN = true := by
      simp only [not_exists, not_and, Bool.not_eq_true]
    have items : (∀ item ∈ value.listed, item.Equal item) ↔
        ¬∃ item ∈ value.listed, item.ListsNaN := by
      simp only [not_exists, not_and]
      exact forall₂_congr each
    rw [equal_self_iff, listsNaN_iff, not_or, itself, items]

/-! ### Copies in the same cells -/

/-- A value differs from itself exactly if it lists a NaN. A copy that keeps its cells is the value
itself, so a literal and a stable reference that hold such a value reject every copy of it, and
those that hold any other value accept its copies. -/
theorem differs_from_itself_iff_listsNaN (value : Value) :
    (value.equals value = false ↔ value.ListsNaN) ∧
      ∀ classes clause,
        ((Pattern.literal value).attempt classes clause value = ⟨.rejected, []⟩ ↔
          value.ListsNaN) ∧
        ((Pattern.literal value).attempt classes clause value = ⟨.accepted .empty, []⟩ ↔
          ¬value.ListsNaN) ∧
        ∀ name, (Pattern.stableReference name value).attempt classes clause value =
          (Pattern.literal value).attempt classes clause value := by
  have decided : value.equals value = false ↔ value.ListsNaN := by
    rw [← Bool.not_eq_true, ← Equal, equal_self_iff_not_listsNaN, not_not]
  refine ⟨decided, fun classes clause => ⟨?_, ?_, fun name => rfl⟩⟩
  · rw [Pattern.attempt_literal, ← decided]
    cases value.equals value <;> simp
  · rw [Pattern.attempt_literal, ← decided]
    cases value.equals value <;> simp

/-- A NaN counts as an item of a sequence, but not inside a tuple and not where a view hides it. -/
example :
    let nan : Value := .float ⟨0x7ff8000000000000⟩
    let seq : Value := .seq (.whole 0 [.unit, nan])
    let tuple : Value := .seq (.whole 1 [.tuple 2 [nan]])
    let hidden : Value := .seq ⟨0, #[.unit, nan], 0, 1⟩
    seq.equals seq = false ∧ tuple.equals tuple = true ∧ hidden.equals hidden = true := by
  decide

end PatternDispatch.Value
