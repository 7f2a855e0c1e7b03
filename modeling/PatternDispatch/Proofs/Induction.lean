/-
This file proves how to reason about all values and about all patterns. A value is built
from the values it shows: the visible items of a view and the contents of maps, tuples and
objects, so hidden items carry no obligation. A pattern is built from its parts, as it is
written and as it is resolved.
-/
import PatternDispatch.Pattern
import PatternDispatch.Pattern.Written

namespace PatternDispatch

/-! ### Values -/

theorem View.mem_backing {Item : Type} {view : View Item} {item : Item}
    (shown : item ∈ view.items) : item ∈ view.backing.toList := by
  rw [View.items_eq] at shown
  exact List.mem_of_mem_drop (List.mem_of_mem_take shown)

/-- A property of all values, from the values that each of them shows. -/
@[elab_as_elim]
theorem Value.induction {motive : Value → Prop}
    (unit : motive .unit)
    (bool : ∀ flag, motive (.bool flag))
    (int : ∀ number, motive (.int number))
    (float : ∀ number, motive (.float number))
    (char : ∀ character, motive (.char character))
    (str : ∀ cell text, motive (.str cell text))
    (seq : ∀ view : View Value, (∀ item ∈ view.items, motive item) → motive (.seq view))
    (array : ∀ element (view : View Value), (∀ item ∈ view.items, motive item) →
      motive (.array element view))
    (map : ∀ cell (entries : List (String × Value)), (∀ entry ∈ entries, motive entry.2) →
      motive (.map cell entries))
    (tuple : ∀ cell (items : List Value), (∀ item ∈ items, motive item) →
      motive (.tuple cell items))
    (object : ∀ className cell (fields : List (Name × Value)),
      (∀ field ∈ fields, motive field.2) → motive (.object className cell fields))
    (value : Value) : motive value :=
  @Value.rec motive (fun view => ∀ item ∈ view.items, motive item)
    (fun entries => ∀ entry ∈ entries, motive entry.2) (fun items => ∀ item ∈ items, motive item)
    (fun fields => ∀ field ∈ fields, motive field.2)
    (fun backing => ∀ item ∈ backing.toList, motive item) (fun entry => motive entry.2)
    (fun field => motive field.2) unit bool int float char str seq array map tuple object
    (fun _ _ _ _ backing item shown => backing item (View.mem_backing shown))
    (List.forall_mem_nil _) (fun _ _ first rest => List.forall_mem_cons.2 ⟨first, rest⟩)
    (List.forall_mem_nil _) (fun _ _ first rest => List.forall_mem_cons.2 ⟨first, rest⟩)
    (List.forall_mem_nil _) (fun _ _ first rest => List.forall_mem_cons.2 ⟨first, rest⟩)
    (fun _ items => items) (fun _ _ content => content) (fun _ _ content => content) value

/-! ### Patterns -/

/-- A property of all patterns, from their parts. -/
@[elab_as_elim]
theorem Pattern.induction {motive : Pattern → Prop}
    (literal : ∀ value, motive (.literal value))
    (stableReference : ∀ name value, motive (.stableReference name value))
    (wildcard : motive .wildcard)
    (binder : ∀ name, motive (.binder name))
    (typeTest : ∀ tag, motive (.typeTest tag))
    (fixedSequence : ∀ elements : List Pattern, (∀ element ∈ elements, motive element) →
      motive (.fixedSequence elements))
    (sequenceHead : ∀ head minimum, motive head → motive (.sequenceHead head minimum))
    (headTail : ∀ head tail, motive head → motive tail → motive (.headTail head tail))
    (initLast : ∀ init last, motive init → motive last → motive (.initLast init last))
    (emptySequence : motive .emptySequence)
    (tuple : ∀ elements : List Pattern, (∀ element ∈ elements, motive element) →
      motive (.tuple elements))
    (bound : ∀ name inner, motive inner → motive (.bound name inner))
    (pattern : Pattern) : motive pattern :=
  @Pattern.rec motive (fun elements => ∀ element ∈ elements, motive element) literal
    stableReference wildcard binder typeTest fixedSequence sequenceHead headTail initLast
    emptySequence tuple bound (List.forall_mem_nil _)
    (fun _ _ first rest => List.forall_mem_cons.2 ⟨first, rest⟩) pattern

/-- A property of all written patterns, from their parts. -/
@[elab_as_elim]
theorem WrittenPattern.induction {motive : WrittenPattern → Prop}
    (wildcard : motive .wildcard)
    (identifier : ∀ name, motive (.identifier name))
    (binding : ∀ name, motive (.binding name))
    (stable : ∀ name, motive (.stable name))
    (literal : ∀ value, motive (.literal value))
    (typed : ∀ tag, motive (.typed tag))
    (sequence : ∀ elements : List WrittenPattern, (∀ element ∈ elements, motive element) →
      motive (.sequence elements))
    (sequenceHead : ∀ head minimum, motive head → motive (.sequenceHead head minimum))
    (cons : ∀ head tail, motive head → motive tail → motive (.cons head tail))
    (snoc : ∀ init last, motive init → motive last → motive (.snoc init last))
    (emptySequence : motive .emptySequence)
    (tuple : ∀ elements : List WrittenPattern, (∀ element ∈ elements, motive element) →
      motive (.tuple elements))
    (named : ∀ name inner, motive inner → motive (.named name inner))
    (written : WrittenPattern) : motive written :=
  @WrittenPattern.rec motive (fun elements => ∀ element ∈ elements, motive element) wildcard
    identifier binding stable literal typed sequence sequenceHead cons snoc emptySequence tuple
    named (List.forall_mem_nil _)
    (fun _ _ first rest => List.forall_mem_cons.2 ⟨first, rest⟩) written

end PatternDispatch
