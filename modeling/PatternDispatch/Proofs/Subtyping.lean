/-
This file proves that declared subtyping is a partial order. `Below` gives its rules one by
one: a tag is below `any`, the two kinds of numbers are below `number`, classes are ordered
as they are declared, and containers are ordered as their parameters. The order is
antisymmetric because the classes are a forest.
-/
import PatternDispatch.Proofs.Hierarchy

namespace PatternDispatch

/-! ### Rules -/

/-- The rules of declared subtyping. -/
inductive Tag.Below (classes : ClassTable) : Tag → Tag → Prop
  | self (tag) : Tag.Below classes tag tag
  | any {lower} : Tag.Below classes lower .any
  | int : Tag.Below classes .int .number
  | float : Tag.Below classes .float .number
  | seq {lower upper} (element : Tag.Below classes lower upper) :
    Tag.Below classes (.seq lower) (.seq upper)
  | array {lower upper} (element : Tag.Below classes lower upper) :
    Tag.Below classes (.array lower) (.array upper)
  | map {lowerKey lowerValue upperKey upperValue} (key : Tag.Below classes lowerKey upperKey)
    (value : Tag.Below classes lowerValue upperValue) :
    Tag.Below classes (.map lowerKey lowerValue) (.map upperKey upperValue)
  | object {lower upper} (subclass : classes.isSubclass lower upper = true) :
    Tag.Below classes (.object lower) (.object upper)

namespace ClassTable

variable {classes : ClassTable}

theorem isSubtype_refl (classes : ClassTable) (tag : Tag) : classes.isSubtype tag tag = true := by
  induction tag with
  | seq element inductionHypothesis => exact inductionHypothesis
  | array element inductionHypothesis => exact inductionHypothesis
  | map key value inKey inValue => exact Bool.and_eq_true_iff.2 ⟨inKey, inValue⟩
  | object name => exact classes.isSubclass_refl name
  | tuple arity => exact decide_eq_true rfl
  | _ => rfl

/-- Subtyping is decided by its rules. -/
theorem isSubtype_iff_below {lower upper : Tag} :
    classes.isSubtype lower upper = true ↔ Tag.Below classes lower upper := by
  constructor
  · intro subtype
    fun_induction isSubtype classes lower upper with
    | case1 => exact .any
    | case2 => exact .int
    | case3 => exact .float
    | case4 lower upper inductionHypothesis => exact .seq (inductionHypothesis subtype)
    | case5 lower upper inductionHypothesis => exact .array (inductionHypothesis subtype)
    | case6 lowerKey lowerValue upperKey upperValue inKey inValue =>
      obtain ⟨key, value⟩ := Bool.and_eq_true_iff.1 subtype
      exact .map (inKey key) (inValue value)
    | case7 lower upper => exact .object subtype
    | case8 lower upper =>
      rw [of_decide_eq_true subtype]
      exact .self upper
  · intro below
    induction below with
    | self tag => exact classes.isSubtype_refl tag
    | any => rw [isSubtype]
    | int | float => rfl
    | seq element inductionHypothesis => exact inductionHypothesis
    | array element inductionHypothesis => exact inductionHypothesis
    | map key value inKey inValue => exact Bool.and_eq_true_iff.2 ⟨inKey, inValue⟩
    | object subclass => exact subclass

end ClassTable

/-! ### The order -/

namespace Tag.Below

variable {classes : ClassTable}

theorem eq_any {tag : Tag} (above : Below classes .any tag) : tag = .any := by
  cases above <;> rfl

variable (rooted : ClassTable.Rooted classes.declared)

include rooted

theorem trans {lower middle upper : Tag} (first : Below classes lower middle)
    (second : Below classes middle upper) : Below classes lower upper := by
  induction first generalizing upper with
  | self => exact second
  | any =>
    rw [second.eq_any]
    exact .any
  | int =>
    cases second with
    | self => exact .int
    | any => exact .any
  | float =>
    cases second with
    | self => exact .float
    | any => exact .any
  | seq element inductionHypothesis =>
    cases second with
    | self => exact .seq element
    | any => exact .any
    | seq further => exact .seq (inductionHypothesis further)
  | array element inductionHypothesis =>
    cases second with
    | self => exact .array element
    | any => exact .any
    | array further => exact .array (inductionHypothesis further)
  | map key value inKey inValue =>
    cases second with
    | self => exact .map key value
    | any => exact .any
    | map furtherKey furtherValue => exact .map (inKey furtherKey) (inValue furtherValue)
  | object subclass =>
    cases second with
    | self => exact .object subclass
    | any => exact .any
    | object further => exact .object (ClassTable.isSubclass_trans rooted subclass further)

theorem antisymm {lower upper : Tag} (up : Below classes lower upper)
    (down : Below classes upper lower) : lower = upper := by
  induction up with
  | self => rfl
  | any => exact down.eq_any
  | int | float => cases down
  | seq element inductionHypothesis =>
    cases down with
    | self => rfl
    | seq back => rw [inductionHypothesis back]
  | array element inductionHypothesis =>
    cases down with
    | self => rfl
    | array back => rw [inductionHypothesis back]
  | map key value inKey inValue =>
    cases down with
    | self => rfl
    | map backKey backValue => rw [inKey backKey, inValue backValue]
  | object subclass =>
    cases down with
    | self => rfl
    | object back => rw [ClassTable.isSubclass_antisymm rooted subclass back]

end Tag.Below

namespace ClassTable

/-- After every history, subtyping is a partial order on all tags, whether their classes are
declared or not, and `any` alone is above them all. -/
theorem isSubtype_partial_order (history : List Declaration) :
    (∀ tag, (afterRequests history).isSubtype tag tag = true) ∧
      (∀ lower middle upper, (afterRequests history).isSubtype lower middle = true →
        (afterRequests history).isSubtype middle upper = true →
        (afterRequests history).isSubtype lower upper = true) ∧
      (∀ lower upper, (afterRequests history).isSubtype lower upper = true →
        (afterRequests history).isSubtype upper lower = true → lower = upper) ∧
      ∀ top, (∀ tag, (afterRequests history).isSubtype tag top = true) ↔ top = .any := by
  have rooted := rooted_afterRequests history
  simp only [isSubtype_iff_below]
  refine ⟨.self, fun lower middle upper first => first.trans rooted,
    fun lower upper up => up.antisymm rooted, fun top => ⟨fun above => (above .any).eq_any, ?_⟩⟩
  rintro rfl tag
  exact .any

/-- Two steps inside a map of arrays, and a class that is not declared. -/
theorem isSubtype_partial_order_nested :
    let classes := afterRequests circularRequests
    let arrays (key : Tag) (className : Nat) : Tag := .map key (.array (.object ⟨className⟩))
    let undeclared : Tag := .seq (.object ⟨9⟩)
    (classes.isSubtype (arrays .int 3) (arrays .number 2) = true ∧
        classes.isSubtype (arrays .number 2) (arrays .any 1) = true) ∧
      classes.isSubtype (arrays .int 3) (arrays .any 1) = true ∧
      classes.isSubtype undeclared undeclared = true ∧ undeclared = undeclared := by
  obtain ⟨refl, trans, antisymm, -⟩ := isSubtype_partial_order circularRequests
  have first : (afterRequests circularRequests).isSubtype
      (.map .int (.array (.object ⟨3⟩))) (.map .number (.array (.object ⟨2⟩))) = true := by cbv
  have second : (afterRequests circularRequests).isSubtype
      (.map .number (.array (.object ⟨2⟩))) (.map .any (.array (.object ⟨1⟩))) = true := by cbv
  exact ⟨⟨first, second⟩, trans _ _ _ first second, refl _, antisymm _ _ (refl _) (refl _)⟩

end ClassTable

end PatternDispatch
