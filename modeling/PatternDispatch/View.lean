/-
This file holds views: a run of visible items inside a longer backing list. A view is the
backing list with the two ends of the run, so the first or the last item is taken away by
moving one end. A run is read only as far as the backing list goes, so that every view is in
range whatever its ends are. The backing list lives in one storage cell, and all views made
from it share that cell.
-/

namespace PatternDispatch

/-- The identity of a storage cell: two values share storage exactly if their cells agree. -/
abbrev Cell := Nat

/-- A run of visible items of a backing list. -/
structure View (Item : Type) where
  cell : Cell
  /-- The list that the view is a run of. -/
  backing : Array Item
  /-- The number of hidden items in front of the run. -/
  offset : Nat
  /-- The position behind the run. -/
  stop : Nat

namespace View

variable {Item : Type}

/-- The view of a whole list. -/
def whole (cell : Cell) (items : List Item) : View Item :=
  ⟨cell, items.toArray, 0, items.length⟩

/-- The visible items. -/
def items (view : View Item) : List Item := (view.backing.extract view.offset view.stop).toList

/-- The position behind the last item that can be read. -/
def bound (view : View Item) : Nat := min view.stop view.backing.size

/-- The number of visible items. -/
def length (view : View Item) : Nat := view.bound - view.offset

/-- Whether no item is visible. -/
def isEmpty (view : View Item) : Bool := view.length = 0

/-- The first visible item. -/
def first? (view : View Item) : Option Item :=
  if view.isEmpty then none else view.backing[view.offset]?

/-- The last visible item. -/
def last? (view : View Item) : Option Item :=
  if view.isEmpty then none else view.backing[view.bound - 1]?

/-- Everything behind the first item. -/
def tail? (view : View Item) : Option (View Item) :=
  if view.isEmpty then none else some { view with offset := view.offset + 1 }

/-- Everything in front of the last item. -/
def init? (view : View Item) : Option (View Item) :=
  if view.isEmpty then none else some { view with stop := view.bound - 1 }

/-- The items from position `start` up to position `stop`, counted inside the view. -/
def sub? (view : View Item) (start stop : Nat) : Option (View Item) :=
  if start ≤ stop ∧ stop ≤ view.length then
    some { view with offset := view.offset + start, stop := view.offset + stop }
  else none

/-- Whether two views are runs of one list in one cell. -/
def sharesBacking (first second : View Item) : Bool := first.cell = second.cell

/-! ### Paths -/

/-- One way to a smaller view. -/
inductive Step where
  | tail
  | init
  | sub (start stop : Nat)
  deriving DecidableEq

/-- The view that one step leads to, if there are enough items for it. -/
def step? (view : View Item) : Step → Option (View Item)
  | .tail => view.tail?
  | .init => view.init?
  | .sub start stop => view.sub? start stop

/-- The view at the end of a path, if every step of it can be taken. -/
def follow? (view : View Item) : List Step → Option (View Item)
  | [] => some view
  | step :: path => do (← view.step? step).follow? path

/-- The views along a list of paths, from the view itself up to the first path that cannot be
followed. -/
def along (view : View Item) : List (List Step) → List (View Item)
  | [] => [view]
  | path :: later =>
    match view.follow? path with
    | none => [view]
    | some next => view :: next.along later

/-! ### The visible items -/

theorem items_whole (cell : Cell) (items : List Item) : (whole cell items).items = items := by
  simp [View.items, whole]

/-- The visible items as a part of the backing list. -/
theorem items_eq (view : View Item) :
    view.items = (view.backing.toList.drop view.offset).take (view.stop - view.offset) := by
  rw [items, Array.toList_extract, List.extract_eq_take_drop]

/-- What is made of each item of the backing list, as far as the item is visible. -/
theorem extract_map {Image : Type} (view : View Item) (image : Item → Image) :
    (view.backing.toList.map image).extract view.offset view.stop = view.items.map image := by
  rw [items_eq, List.extract_eq_take_drop, List.map_take, List.map_drop]

theorem length_items (view : View Item) : view.items.length = view.length := by
  simp only [items, length, bound, Array.length_toList, Array.size_extract]

theorem length_pos {view : View Item} (occupied : ¬view.isEmpty = true) : 0 < view.length :=
  Nat.pos_of_ne_zero fun none => occupied (decide_eq_true none)

theorem isEmpty_iff (view : View Item) : view.isEmpty = true ↔ view.items = [] := by
  rw [← List.length_eq_zero_iff, length_items, isEmpty, decide_eq_true_iff]

theorem getElem?_items {view : View Item} {position : Nat} (inside : position < view.length) :
    view.items[position]? = view.backing[view.offset + position]? := by
  have bounded : position < min view.stop view.backing.size - view.offset := inside
  rw [items, Array.getElem?_toList, Array.getElem?_extract, if_pos bounded]

theorem first?_eq_head? (view : View Item) : view.first? = view.items.head? := by
  rw [first?]
  split
  · next empty => rw [(isEmpty_iff view).1 empty, List.head?_nil]
  · next occupied =>
    have inside := length_pos occupied
    rw [List.head?_eq_getElem?, getElem?_items inside, Nat.add_zero]

theorem last?_eq_getLast? (view : View Item) : view.last? = view.items.getLast? := by
  rw [last?]
  split
  · next empty => rw [(isEmpty_iff view).1 empty, List.getLast?_nil]
  · next occupied =>
    have inside := length_pos occupied
    rw [List.getLast?_eq_getElem?, length_items, getElem?_items (Nat.sub_one_lt_of_lt inside)]
    congr 1
    simp only [length] at inside ⊢
    omega

/-! ### The visible items of each step -/

theorem tail?_eq_none_iff (view : View Item) : view.tail? = none ↔ view.items = [] := by
  rw [← isEmpty_iff, tail?]
  split <;> simp_all

theorem init?_eq_none_iff (view : View Item) : view.init? = none ↔ view.items = [] := by
  rw [← isEmpty_iff, init?]
  split <;> simp_all

theorem items_of_tail? {view rest : View Item} (found : view.tail? = some rest) :
    rest.items = view.items.tail := by
  simp only [tail?, Option.ite_none_left_eq_some, Option.some.injEq] at found
  rw [← found.2, items_eq, items_eq, ← List.drop_one, List.drop_take, List.drop_drop, Nat.sub_sub]

theorem items_of_init? {view front : View Item} (found : view.init? = some front) :
    front.items = view.items.dropLast := by
  simp only [init?, Option.ite_none_left_eq_some, Option.some.injEq] at found
  rw [List.dropLast_eq_take, length_items, ← found.2, items_eq, items_eq, List.take_take]
  congr 1
  simp only [length, bound]
  omega

theorem cell_of_tail? {view rest : View Item} (found : view.tail? = some rest) :
    rest.cell = view.cell := by
  simp only [tail?, Option.ite_none_left_eq_some, Option.some.injEq] at found
  rw [← found.2]

theorem cell_of_init? {view front : View Item} (found : view.init? = some front) :
    front.cell = view.cell := by
  simp only [init?, Option.ite_none_left_eq_some, Option.some.injEq] at found
  rw [← found.2]

theorem backing_of_tail? {view rest : View Item} (found : view.tail? = some rest) :
    rest.backing = view.backing := by
  simp only [tail?, Option.ite_none_left_eq_some, Option.some.injEq] at found
  rw [← found.2]

theorem backing_of_init? {view front : View Item} (found : view.init? = some front) :
    front.backing = view.backing := by
  simp only [init?, Option.ite_none_left_eq_some, Option.some.injEq] at found
  rw [← found.2]

theorem items_of_sub? {view part : View Item} {start stop : Nat}
    (found : view.sub? start stop = some part) :
    part.items = (view.items.drop start).take (stop - start) := by
  simp only [sub?, Option.ite_none_right_eq_some, Option.some.injEq] at found
  obtain ⟨⟨ordered, inside⟩, rfl⟩ := found
  rw [items_eq, items_eq, List.drop_take, List.drop_drop, List.take_take]
  congr 1
  simp only [length, bound] at inside ⊢
  omega

/-! ### Both ends -/

theorem items_eq_cons {view rest : View Item} {item : Item} (first : view.first? = some item)
    (shorter : view.tail? = some rest) : view.items = item :: rest.items := by
  rw [first?_eq_head?] at first
  obtain ⟨others, shown⟩ := List.head?_eq_some_iff.1 first
  rw [items_of_tail? shorter, shown, List.tail_cons]

theorem items_eq_concat {view front : View Item} {item : Item} (final : view.last? = some item)
    (shorter : view.init? = some front) : view.items = front.items ++ [item] := by
  rw [last?_eq_getLast?] at final
  obtain ⟨others, shown⟩ := List.getLast?_eq_some_iff.1 final
  rw [items_of_init? shorter, shown, List.dropLast_concat]

/-- A view whose items have a first one can be split there. -/
theorem exists_tail? {view : View Item} {item : Item} {others : List Item}
    (shown : view.items = item :: others) :
    ∃ rest, view.tail? = some rest ∧ rest.items = others ∧ view.first? = some item := by
  obtain ⟨rest, shorter⟩ := Option.ne_none_iff_exists'.1 fun none =>
    List.cons_ne_nil item others (shown.symm.trans ((tail?_eq_none_iff view).1 none))
  refine ⟨rest, shorter, ?_, ?_⟩
  · rw [items_of_tail? shorter, shown, List.tail_cons]
  · rw [first?_eq_head?, shown, List.head?_cons]

/-- A view whose items have a last one can be split there. -/
theorem exists_init? {view : View Item} {item : Item} {others : List Item}
    (shown : view.items = others ++ [item]) :
    ∃ front, view.init? = some front ∧ front.items = others ∧ view.last? = some item := by
  obtain ⟨front, shorter⟩ := Option.ne_none_iff_exists'.1 fun none =>
    List.concat_ne_nil item others (shown.symm.trans ((init?_eq_none_iff view).1 none))
  refine ⟨front, shorter, ?_, ?_⟩
  · rw [items_of_init? shorter, shown, List.dropLast_concat]
  · rw [last?_eq_getLast?, shown, List.getLast?_concat]

end View

end PatternDispatch
