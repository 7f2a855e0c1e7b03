/-
This file proves that every view reached from a whole list is a slice of it. A step moves one
end of the view or both, and counts from the view's own start; because the ends stay in order
inside the backing list, ranges counted inside a view add up to one range of the list, however
many steps are taken. So reading a view never leaves the list, and what the view shows is what
the same steps leave of the list itself.
-/
import Mathlib.Algebra.Ring.Nat
import PatternDispatch.View

namespace PatternDispatch.View

variable {Item : Type} {view part : View Item}

/-! ### Single steps -/

/-- The part shows `count` of the visible items, or as many as there are, behind `skipped` ones. -/
structure IsRun (skipped count : Nat) (part view : View Item) : Prop where
  cell : part.cell = view.cell
  backing : part.backing = view.backing
  inside : skipped ≤ view.length
  offset : part.offset = view.offset + skipped
  items : part.items = (view.items.drop skipped).take count

/-- The items that a step passes by. -/
def Step.skipped : Step → Nat
  | tail => 1
  | init => 0
  | sub start _ => start

/-- The items that a step keeps of a view of this length. -/
def Step.kept (length : Nat) : Step → Nat
  | tail | init => length - 1
  | sub start stop => stop - start

theorem isRun_of_step? {step : Step} (found : view.step? step = some part) :
    IsRun step.skipped (step.kept view.length) part view := by
  cases step with
  | tail =>
    have shown := items_of_tail? found
    simp only [step?, tail?, Option.ite_none_left_eq_some, Option.some.injEq] at found
    obtain ⟨occupied, rfl⟩ := found
    refine ⟨rfl, rfl, length_pos occupied, rfl, shown.trans ?_⟩
    rw [Step.skipped, Step.kept, List.drop_one, ← length_items, ← List.length_tail,
      List.take_length]
  | init =>
    have shown := items_of_init? found
    simp only [step?, init?, Option.ite_none_left_eq_some, Option.some.injEq] at found
    obtain ⟨-, rfl⟩ := found
    refine ⟨rfl, rfl, Nat.zero_le _, rfl, shown.trans ?_⟩
    rw [Step.skipped, Step.kept, List.drop_zero, List.dropLast_eq_take, length_items]
  | sub start stop =>
    have shown := items_of_sub? found
    simp only [step?, sub?, Option.ite_none_right_eq_some, Option.some.injEq] at found
    obtain ⟨⟨ordered, inside⟩, rfl⟩ := found
    exact ⟨rfl, rfl, Nat.le_trans ordered inside, rfl, shown⟩

/-- A step that cannot be taken from a view of this length. -/
def Step.Refused (length : Nat) : Step → Prop
  | tail | init => length = 0
  | sub start stop => stop < start ∨ length < stop

instance (length : Nat) : (step : Step) → Decidable (step.Refused length)
  | .tail | .init => inferInstanceAs (Decidable (length = 0))
  | .sub start stop => inferInstanceAs (Decidable (stop < start ∨ length < stop))

theorem step?_eq_none_iff (view : View Item) (step : Step) :
    view.step? step = none ↔ step.Refused view.length := by
  cases step with
  | tail => simp [step?, tail?, isEmpty, Step.Refused]
  | init => simp [step?, init?, isEmpty, Step.Refused]
  | sub start stop =>
    show view.sub? start stop = none ↔ stop < start ∨ view.length < stop
    simp only [sub?, ite_eq_right_iff, reduceCtorEq, imp_false]
    omega

/-- What the step leaves of a list. -/
def Step.cut : Step → List Item → List Item
  | tail, items => items.drop 1
  | init, items => items.take (items.length - 1)
  | sub start stop, items => (items.drop start).take (stop - start)

theorem items_of_step? {step : Step} (found : view.step? step = some part) :
    part.items = step.cut view.items := by
  cases step with
  | tail => rw [items_of_tail? found, Step.cut, List.drop_one]
  | init => rw [items_of_init? found, Step.cut, List.dropLast_eq_take]
  | sub start stop => exact items_of_sub? found

/-! ### Ranges -/

/-- The two ends are in order and inside the backing list. -/
structure InRange (view : View Item) : Prop where
  ordered : view.offset ≤ view.stop
  inside : view.stop ≤ view.backing.size

theorem inRange_whole (cell : Cell) (items : List Item) : (whole cell items).InRange :=
  ⟨Nat.zero_le _, Nat.le_refl _⟩

namespace InRange

theorem bound_eq (inRange : view.InRange) : view.bound = view.stop :=
  Nat.min_eq_left inRange.inside

/-- Nothing of the run is cut off by the end of the backing list. -/
theorem offset_add_length (inRange : view.InRange) : view.offset + view.length = view.stop := by
  rw [length, inRange.bound_eq]
  exact Nat.add_sub_of_le inRange.ordered

theorem step (inRange : view.InRange) {step : Step} (found : view.step? step = some part) :
    part.InRange := by
  have ends := inRange.offset_add_length
  have inside := inRange.inside
  cases step with
  | tail =>
    simp only [step?, tail?, Option.ite_none_left_eq_some, Option.some.injEq] at found
    obtain ⟨occupied, rfl⟩ := found
    have longer := length_pos occupied
    exact ⟨show view.offset + 1 ≤ view.stop by omega, inside⟩
  | init =>
    simp only [step?, init?, Option.ite_none_left_eq_some, Option.some.injEq] at found
    obtain ⟨occupied, rfl⟩ := found
    have longer := length_pos occupied
    refine ⟨?_, ?_⟩ <;> simp only [inRange.bound_eq] <;> omega
  | sub start stop =>
    simp only [step?, sub?, Option.ite_none_right_eq_some, Option.some.injEq] at found
    obtain ⟨⟨ordered, short⟩, rfl⟩ := found
    exact ⟨Nat.add_le_add_left ordered _, show view.offset + stop ≤ view.backing.size by omega⟩

/-- In words that can count the backing list, no position up to the end of the view overflows. -/
theorem uaddOverflow_eq_false (inRange : view.InRange) {width distance : Nat}
    (fits : view.backing.size < 2 ^ width) (within : distance ≤ view.length) :
    (BitVec.ofNat width view.offset).uaddOverflow (BitVec.ofNat width distance) = false := by
  have ends := inRange.offset_add_length
  have inside := inRange.inside
  have offsetFits : view.offset < 2 ^ width := by omega
  have distanceFits : distance < 2 ^ width := by omega
  simp only [BitVec.uaddOverflow, BitVec.toNat_ofNat, Nat.mod_eq_of_lt offsetFits,
    Nat.mod_eq_of_lt distanceFits, decide_eq_false_iff_not]
  omega

end InRange

/-! ### Paths -/

/-- The part is the slice of the view that the path leads to. -/
structure IsSlice (path : List Step) (part view : View Item) : Prop where
  cell : part.cell = view.cell
  backing : part.backing = view.backing
  offset : part.offset = view.offset + (path.map Step.skipped).sum
  items : part.items = path.foldl (fun shown step => step.cut shown) view.items

/-- Steps keep a view in range and add up to one slice, so a path does. -/
theorem inRange_and_isSlice_of_follow? {path : List Step} (inRange : view.InRange)
    (followed : view.follow? path = some part) : part.InRange ∧ IsSlice path part view := by
  induction path generalizing view with
  | nil =>
    cases followed
    exact ⟨inRange, rfl, rfl, rfl, rfl⟩
  | cons step path inductionHypothesis =>
    obtain ⟨next, found, rest⟩ := Option.bind_eq_some_iff.1 followed
    have run := isRun_of_step? found
    obtain ⟨partInRange, slice⟩ := inductionHypothesis (inRange.step found) rest
    refine ⟨partInRange, slice.cell.trans run.cell, slice.backing.trans run.backing, ?_, ?_⟩
    · rw [slice.offset, run.offset, List.map_cons, List.sum_cons, Nat.add_assoc]
    · rw [slice.items, items_of_step? found, List.foldl_cons]

theorem length_of_step? {step : Step} (oneEnd : step = .tail ∨ step = .init)
    (found : view.step? step = some part) : part.length = view.length - 1 := by
  rw [← length_items, ← length_items, items_of_step? found]
  rcases oneEnd with rfl | rfl <;> simp [Step.cut]

/-- A step from one end can be repeated once for each visible item. -/
theorem isSome_follow?_replicate_iff {step : Step} (oneEnd : step = .tail ∨ step = .init)
    (count : Nat) (view : View Item) :
    (view.follow? (List.replicate count step)).isSome = true ↔ count ≤ view.length := by
  induction count generalizing view with
  | zero => exact iff_of_true rfl (Nat.zero_le _)
  | succ count inductionHypothesis =>
    rw [List.replicate_succ, follow?]
    cases found : view.step? step with
    | none =>
      have empty : view.length = 0 := by
        rcases oneEnd with rfl | rfl <;> exact (step?_eq_none_iff view _).1 found
      simp [empty]
    | some next =>
      have occupied : view.length ≠ 0 := by
        rcases oneEnd with rfl | rfl <;>
          exact fun empty => nomatch found.symm.trans ((step?_eq_none_iff view _).2 empty)
      have shorter : next.length = view.length - 1 := length_of_step? oneEnd found
      show (next.follow? (List.replicate count step)).isSome = true ↔ count + 1 ≤ view.length
      rw [inductionHypothesis next]
      omega

/-- Whatever steps lead to it from a whole list, a view is in range and shows what the steps
leave of the list, as far behind its start as items were passed by; it shares the list with all
other such views. It refuses a step only for lack of items, and words that can count the list
can hold each position in it. -/
theorem paths_show_slices (cell : Cell) (items : List Item) {path : List Step}
    {view : View Item} (followed : (whole cell items).follow? path = some view) :
    (view.offset + view.length = view.stop ∧ view.stop ≤ view.backing.size ∧
        view.items.length = view.length) ∧
      view.items = path.foldl (fun shown step => step.cut shown) items ∧
      view.offset = (path.map Step.skipped).sum ∧
      (view.first? = view.items.head? ∧ view.last? = view.items.getLast?) ∧
      (view.backing = items.toArray ∧ ∀ otherPath other,
        (whole cell items).follow? otherPath = some other → view.sharesBacking other = true) ∧
      (∀ step, view.step? step = none ↔ step.Refused view.length) ∧
      (∀ count, ((view.follow? (List.replicate count .tail)).isSome = true ↔
          count ≤ view.length) ∧
        ((view.follow? (List.replicate count .init)).isSome = true ↔ count ≤ view.length)) ∧
      ∀ width, items.length < 2 ^ width → ∀ distance ≤ view.length,
        (BitVec.ofNat width view.offset).uaddOverflow (BitVec.ofNat width distance) = false := by
  obtain ⟨inRange, slice⟩ := inRange_and_isSlice_of_follow? (inRange_whole cell items) followed
  refine ⟨⟨inRange.offset_add_length, inRange.inside, length_items view⟩, ?_, ?_,
    ⟨first?_eq_head? view, last?_eq_getLast? view⟩, ⟨slice.backing, ?_⟩, step?_eq_none_iff view,
    fun count => ⟨isSome_follow?_replicate_iff (.inl rfl) count view,
      isSome_follow?_replicate_iff (.inr rfl) count view⟩, fun width fits distance within => ?_⟩
  · rw [slice.items, items_whole]
  · rw [slice.offset, whole, Nat.zero_add]
  · intro otherPath other otherFollowed
    obtain ⟨-, otherSlice⟩ :=
      inRange_and_isSlice_of_follow? (inRange_whole cell items) otherFollowed
    exact decide_eq_true (slice.cell.trans otherSlice.cell.symm)
  · refine inRange.uaddOverflow_eq_false ?_ within
    rwa [slice.backing]

/-- The range of the first step is counted inside the whole list, the later steps inside what is
left. The empty range at the very end can still be taken, one item further cannot. -/
theorem paths_show_slices_middle :
    let whole : View Nat := .whole 7 [10, 11, 12, 13, 14, 15]
    let middle : View Nat := ⟨7, #[10, 11, 12, 13, 14, 15], 2, 4⟩
    whole.follow? [.sub 1 5, .tail, .init] = some middle ∧ middle.items = [12, 13] ∧
      (middle.step? (.sub 2 2) ≠ none ∧ middle.step? (.sub 2 3) = none) ∧
      (whole.follow? [.init] = some { whole with stop := 5 } ∧
        middle.sharesBacking { whole with stop := 5 } = true) ∧
      [10, 11, 12, 13, 14, 15].length < 2 ^ 3 ∧ 2 ≤ middle.length ∧
        (2#3).uaddOverflow 2#3 = false := by
  intro whole middle
  have followed : whole.follow? [.sub 1 5, .tail, .init] = some middle := rfl
  obtain ⟨-, shown, -, -, ⟨-, shared⟩, refused, -, fits⟩ := paths_show_slices 7 _ followed
  refine ⟨followed, shown, ⟨fun none => ?_, (refused _).2 (by decide)⟩, ⟨rfl, shared [.init] _ rfl⟩,
    by decide, by decide, fits 3 (by decide) 2 (by decide)⟩
  exact absurd ((refused (.sub 2 2)).1 none) (by decide)

end PatternDispatch.View
