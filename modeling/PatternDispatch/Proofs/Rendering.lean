/-
This file proves that names matter only to values that show objects. `render` joins the texts of the
visible parts of a container and `display` writes them one behind the other, which gives the same
text, and all that is left, the objects aside, is written by `display` in both. So the two texts of
a value agree unless an object is shown somewhere in it; one that a view hides does no harm, since
neither of them reads that far.
-/
import PatternDispatch.Proofs.Resemblance
import PatternDispatch.Value.Text

namespace PatternDispatch.Value

/-! ### The texts of the parts -/

theorem displayEach_eq_map (items : List Value) : displayEach items = items.map display := by
  induction items with
  | nil => rfl
  | cons item items inductionHypothesis => rw [displayEach, inductionHypothesis, List.map_cons]

theorem displayEntries_eq_map (entries : List (String × Value)) :
    displayEntries entries = entries.map fun entry => entryText entry.1 entry.2.display := by
  induction entries with
  | nil => rfl
  | cons entry entries inductionHypothesis =>
    rw [displayEntries, inductionHypothesis, List.map_cons]

theorem renderEach_eq_map (names : NameTable) (items : List Value) :
    renderEach names items = items.map (render names) := by
  induction items with
  | nil => rfl
  | cons item items inductionHypothesis => rw [renderEach, inductionHypothesis, List.map_cons]

theorem renderEntries_eq_map (names : NameTable) (entries : List (String × Value)) :
    renderEntries names entries =
      entries.map fun entry => entryText entry.1 (entry.2.render names) := by
  induction entries with
  | nil => rfl
  | cons entry entries inductionHypothesis =>
    rw [renderEntries, inductionHypothesis, List.map_cons]

/-! ### Containers -/

section Containers

variable (names : NameTable) (element : Tag) (view : View Value) (cell : Cell)

theorem display_seq : (seq view).display = Text.listing (view.items.map display) := by
  rw [← view.extract_map, ← displayEach_eq_map]
  exact congrArg (· ++ "]") (writeParts_eq "[" _)

theorem render_seq : (seq view).render names = Text.listing (view.items.map (render names)) := by
  rw [← view.extract_map, ← renderEach_eq_map]
  rfl

theorem display_array :
    (array element view).display = Text.applied "Array" (view.items.map display) := by
  rw [← view.extract_map, ← displayEach_eq_map]
  exact congrArg (· ++ ")") (writeParts_eq "Array(" _)

theorem render_array :
    (array element view).render names = Text.applied "Array" (view.items.map (render names)) := by
  rw [← view.extract_map, ← renderEach_eq_map]
  rfl

theorem display_map (entries : List (String × Value)) :
    (map cell entries).display =
      braced (entries.map fun entry => entryText entry.1 entry.2.display) := by
  rw [← displayEntries_eq_map]
  exact congrArg (· ++ "\x7d") (writeParts_eq "\x7b" _)

theorem render_map (entries : List (String × Value)) :
    (map cell entries).render names =
      braced (entries.map fun entry => entryText entry.1 (entry.2.render names)) :=
  congrArg braced (renderEntries_eq_map names entries)

theorem display_tuple (items : List Value) :
    (tuple cell items).display = Text.applied "" (items.map display) := by
  rw [← displayEach_eq_map]
  exact congrArg (· ++ ")") (writeParts_eq "(" _)

theorem render_tuple (items : List Value) :
    (tuple cell items).render names = Text.applied "" (items.map (render names)) :=
  congrArg (Text.applied "") (renderEach_eq_map names items)

end Containers

/-! ### Values without objects -/

/-- No object is shown anywhere in the value. -/
def ObjectFree (value : Value) : Prop :=
  ∀ className cell fields, ¬value.Shows (.object className cell fields)

theorem ObjectFree.of_mem_parts {value part : Value} (free : value.ObjectFree)
    (member : part ∈ value.parts) : part.ObjectFree :=
  fun className cell fields shown => free className cell fields (.head member shown)

theorem objectFree_iff {value : Value} : value.ObjectFree ↔
    (∀ className cell fields, value ≠ .object className cell fields) ∧
      ∀ part ∈ value.parts, part.ObjectFree := by
  refine ⟨fun free => ⟨?_, fun part => free.of_mem_parts⟩,
    fun ⟨itself, inside⟩ className cell fields shown => ?_⟩
  · rintro className cell fields rfl
    exact free className cell fields .refl
  · obtain same | ⟨part, member, shown⟩ := Relation.ReflTransGen.cases_head_iff.1 shown
    · exact itself className cell fields same
    · exact inside part member className cell fields shown

/-- A value that shows no object has the same text with names and without, whatever the names. -/
theorem render_eq_display_of_objectFree {value : Value} (free : value.ObjectFree)
    (names : NameTable) : value.render names = value.display := by
  induction value using Value.induction with
  | seq view each =>
    have items : view.items.map (render names) = view.items.map display :=
      List.map_congr_left fun item member => each item member (free.of_mem_parts member)
    rw [render_seq, display_seq, items]
  | array element view each =>
    have items : view.items.map (render names) = view.items.map display :=
      List.map_congr_left fun item member => each item member (free.of_mem_parts member)
    rw [render_array, display_array, items]
  | map cell entries each =>
    have texts : (entries.map fun entry => entryText entry.1 (entry.2.render names)) =
        entries.map fun entry => entryText entry.1 entry.2.display :=
      List.map_congr_left fun entry member => congrArg (entryText entry.1)
        (each entry member (free.of_mem_parts (List.mem_map_of_mem member)))
    rw [render_map, display_map, texts]
  | tuple cell items each =>
    have texts : items.map (render names) = items.map display :=
      List.map_congr_left fun item member => each item member (free.of_mem_parts member)
    rw [render_tuple, display_tuple, texts]
  | object className cell fields => exact absurd .refl (free className cell fields)
  | _ => rfl

/-- The array has objects for elements and hides one in front and one behind; what it shows is a
map with a tuple in it. -/
theorem render_eq_display_of_objectFree_hidden :
    let hidden : Value := .object ⟨1⟩ 4 [(⟨2⟩, .unit)]
    let nested : Value := .tuple 2 [.seq (.whole 3 []), .char 'c', .int 5]
    let value : Value := .array (.object ⟨1⟩) ⟨0, #[hidden, .map 1 [("k", nested)], hidden], 1, 2⟩
    value.ObjectFree ∧ value.render .start = value.display ∧
      value.display = "Array(\x7b\"k\": ([], 'c', 5)\x7d)" := by
  intro hidden nested value
  have freeEmpty : (Value.seq (.whole 3 [])).ObjectFree :=
    objectFree_iff.2 ⟨nofun, List.forall_mem_nil _⟩
  have freeChar : (Value.char 'c').ObjectFree := objectFree_iff.2 ⟨nofun, List.forall_mem_nil _⟩
  have freeInt : (Value.int 5).ObjectFree := objectFree_iff.2 ⟨nofun, List.forall_mem_nil _⟩
  have freeNested : nested.ObjectFree := objectFree_iff.2 ⟨nofun, List.forall_mem_cons.2
    ⟨freeEmpty, List.forall_mem_cons.2 ⟨freeChar, List.forall_mem_singleton.2 freeInt⟩⟩⟩
  have freeMap : (Value.map 1 [("k", nested)]).ObjectFree :=
    objectFree_iff.2 ⟨nofun, List.forall_mem_singleton.2 freeNested⟩
  have free : value.ObjectFree := objectFree_iff.2 ⟨nofun, List.forall_mem_singleton.2 freeMap⟩
  exact ⟨free, render_eq_display_of_objectFree free .start, by decide⟩

end PatternDispatch.Value
