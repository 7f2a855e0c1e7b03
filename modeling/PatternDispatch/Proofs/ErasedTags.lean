/-
This file proves that a run-time type test is declared subtyping up to what values do not
carry. `erased` forgets those parameters of a tag: a sequence or a map keeps its kind alone,
an array keeps its element tag but forgets inside it. A value passes the test if the tag it
shows is below the erased tag, and the test owns up to the erasure if it forgot anything. A test
takes more than subtyping does, but it follows the order all the same, since erasure keeps it.
-/
import PatternDispatch.Proofs.Subtyping
import PatternDispatch.Proofs.Traversal

namespace PatternDispatch

/-! ### Erasure -/

namespace Tag

/-- The tag without the parameters that no value carries. -/
def erased : Tag → Tag
  | seq _ => seq any
  | map _ _ => map any any
  | array element => array element.erased
  | tag => tag

/-- Erasure changes the tags that a test leaves partly unchecked and no others. -/
theorem erased_eq_self_iff (tag : Tag) :
    tag.erased = tag ↔ tag.hasUncheckedParameters = false := by
  induction tag with
  | seq element => simp [erased, hasUncheckedParameters, eq_comm (a := any)]
  | map key value => simp [erased, hasUncheckedParameters, eq_comm (a := any)]
  | array element inductionHypothesis =>
    rw [erased, array.injEq]
    exact inductionHypothesis
  | _ => exact iff_of_true rfl rfl

theorem hasUncheckedParameters_iff (tag : Tag) :
    tag.hasUncheckedParameters = true ↔ tag.erased ≠ tag := by
  rw [ne_eq, erased_eq_self_iff, Bool.not_eq_false]

namespace Below

variable {classes : ClassTable}

theorem self_erased (tag : Tag) : Below classes tag tag.erased := by
  induction tag with
  | seq element => exact .seq .any
  | map key value => exact .map .any .any
  | array element inductionHypothesis => exact .array inductionHypothesis
  | _ => exact .self _

/-- What is below a tag is below the erased tag. This needs no transitivity, so it holds of
tables of classes that are not a forest as well. -/
theorem erased {lower upper : Tag} (below : Below classes lower upper) :
    Below classes lower upper.erased := by
  induction below with
  | self tag => exact self_erased tag
  | any => exact .any
  | int => exact .int
  | float => exact .float
  | seq => exact .seq .any
  | map => exact .map .any .any
  | array _ inductionHypothesis => exact .array inductionHypothesis
  | object subclass => exact .object subclass

/-- Erasure keeps the order. Two sequences or two maps become one tag, whatever they were of. -/
theorem erased_mono {lower upper : Tag} (below : Below classes lower upper) :
    Below classes lower.erased upper.erased := by
  induction below with
  | self tag => exact .self tag.erased
  | any => exact .any
  | int => exact .int
  | float => exact .float
  | seq => exact .self (.seq Tag.any)
  | map => exact .self (.map Tag.any Tag.any)
  | array _ inductionHypothesis => exact .array inductionHypothesis
  | object subclass => exact .object subclass

end Below

end Tag

/-! ### Type tests -/

namespace ClassTable

variable (classes : ClassTable)

/-- Between tags that are not of one kind of container, erasure does not matter. -/
theorem isSubtype_erased_of_ne {shown expected : Tag}
    (notSeq : ∀ lower upper, shown = .seq lower → expected = .seq upper → False)
    (notMap : ∀ lowerKey lowerValue upperKey upperValue, shown = .map lowerKey lowerValue →
      expected = .map upperKey upperValue → False)
    (notArray : ∀ lower upper, shown = .array lower → expected = .array upper → False) :
    classes.isSubtype shown expected.erased = classes.isSubtype shown expected := by
  cases expected with
  | seq upper =>
    cases shown with
    | seq lower => exact (notSeq _ _ rfl rfl).elim
    | _ => rfl
  | map upperKey upperValue =>
    cases shown with
    | map lowerKey lowerValue => exact (notMap _ _ _ _ rfl rfl).elim
    | _ => rfl
  | array upper =>
    cases shown with
    | array lower => exact (notArray _ _ rfl rfl).elim
    | _ => rfl
  | _ => rfl

/-- A test refuses the tags that are not below the erased one. -/
theorem conforms_ne_rejected_iff (shown expected : Tag) :
    classes.conforms shown expected ≠ .rejected ↔
      classes.isSubtype shown expected.erased = true := by
  fun_induction conforms classes shown expected with
  | case1 | case2 | case3 | case4 | case5 =>
    exact iff_of_true TagCheck.noConfusion (by simp [Tag.erased, isSubtype])
  | case6 shown expected inductionHypothesis => exact inductionHypothesis
  | case7 shown expected _ notSeq notMap notArray subtype =>
    rw [classes.isSubtype_erased_of_ne notSeq notMap notArray]
    exact iff_of_true TagCheck.noConfusion subtype
  | case8 shown expected _ notSeq notMap notArray refused =>
    rw [classes.isSubtype_erased_of_ne notSeq notMap notArray]
    exact iff_of_false (fun differs => differs rfl) refused

/-- A test that is passed without reserve has forgotten nothing. -/
theorem conforms_eq_accepted_iff (shown expected : Tag) :
    classes.conforms shown expected = .accepted ↔
      classes.isSubtype shown expected.erased = true ∧ expected.erased = expected := by
  have unreserved (passed : classes.conforms shown expected ≠ .rejected) :
      expected.hasUncheckedParameters = false ↔ classes.conforms shown expected = .accepted := by
    rw [← Bool.not_eq_true, ← conforms_eq_acceptedErased_iff passed]
    cases answer : classes.conforms shown expected with
    | accepted => simp
    | acceptedErased => simp
    | rejected => exact absurd answer passed
  rw [← conforms_ne_rejected_iff, Tag.erased_eq_self_iff, and_congr_right unreserved]
  exact (and_iff_right_of_imp fun answer => by rw [answer]; decide).symm

/-- A test that is passed with reserve has forgotten something. -/
theorem conforms_with_reserve_iff (shown expected : Tag) :
    classes.conforms shown expected = .acceptedErased ↔
      classes.isSubtype shown expected.erased = true ∧ expected.erased ≠ expected := by
  rw [← conforms_ne_rejected_iff, ← Tag.hasUncheckedParameters_iff,
    and_congr_right fun passed => (conforms_eq_acceptedErased_iff passed).symm]
  exact (and_iff_right_of_imp fun answer => by rw [answer]; decide).symm

/-- A wider test takes what a narrower one takes, and with a tag all tags below it. -/
theorem conforms_mono {classes : ClassTable} (rooted : Rooted classes.declared)
    {lower shown expected wider : Tag} (narrowed : classes.isSubtype lower shown = true)
    (widened : classes.isSubtype expected wider = true)
    (passes : classes.conforms shown expected ≠ .rejected) :
    classes.conforms lower wider ≠ .rejected := by
  rw [conforms_ne_rejected_iff, isSubtype_iff_below] at passes ⊢
  rw [isSubtype_iff_below] at narrowed widened
  have wide : Tag.Below classes shown wider.erased := passes.trans rooted widened.erased_mono
  exact narrowed.trans rooted wide

end ClassTable

namespace Value

/-- A test rejects a value exactly if its tag is not below the erased tag, and accepts it
without reserve exactly if nothing was erased. So plain acceptance is subtyping, and a value
whose tag is below the tag asked for is never rejected. -/
theorem checkTag_is_erased_subtyping (classes : ClassTable) (subject : Value) (expected : Tag) :
    (subject.checkTag classes expected = .rejected ↔
        ¬classes.isSubtype subject.tag expected.erased = true) ∧
      (subject.checkTag classes expected = .accepted ↔
        classes.isSubtype subject.tag expected.erased = true ∧ expected.erased = expected) ∧
      (subject.checkTag classes expected = .acceptedErased ↔
        classes.isSubtype subject.tag expected.erased = true ∧ expected.erased ≠ expected) ∧
      (expected.hasUncheckedParameters = true ↔ expected.erased ≠ expected) ∧
      (subject.checkTag classes expected = .accepted →
        classes.isSubtype subject.tag expected = true) ∧
      (classes.isSubtype subject.tag expected = true →
        subject.checkTag classes expected ≠ .rejected) := by
  have passes := classes.conforms_ne_rejected_iff subject.tag expected
  have accepted := classes.conforms_eq_accepted_iff subject.tag expected
  have reserved := classes.conforms_with_reserve_iff subject.tag expected
  refine ⟨?_, accepted, reserved, expected.hasUncheckedParameters_iff, ?_, ?_⟩
  · rw [← passes, ne_eq, Decidable.not_not]
    rfl
  · intro answer
    obtain ⟨below, kept⟩ := accepted.1 answer
    rwa [kept] at below
  · intro below
    refine passes.2 ?_
    rw [ClassTable.isSubtype_iff_below] at below ⊢
    exact below.erased

/-- Two levels inside an array a test still sees that the elements are maps, and no longer of
what: it refuses sequences, and takes maps to floats for maps to integers. -/
theorem checkTag_is_erased_subtyping_nested :
    let subject (element : Tag) : Value := .array (.array element) (.whole 0 [])
    let expected (value : Tag) : Tag := .array (.array (.map .any value))
    (subject (.seq .any)).checkTag .empty (expected .int) = .rejected ∧
      (subject (.map .str .float)).checkTag .empty (expected .int) = .acceptedErased ∧
      ((subject (.map .str .float)).checkTag .empty (expected .any) = .accepted ∧
        ClassTable.empty.isSubtype (subject (.map .str .float)).tag (expected .any) = true) ∧
      ClassTable.empty.isSubtype (subject (.map .str .float)).tag (expected .number) = true ∧
      (subject (.map .str .float)).checkTag .empty (expected .number) ≠ .rejected := by
  intro subject expected
  have rejected := (checkTag_is_erased_subtyping .empty (subject (.seq .any)) (expected .int)).1
  have erased :=
    (checkTag_is_erased_subtyping .empty (subject (.map .str .float)) (expected .int)).2.2.1
  have plain :=
    (checkTag_is_erased_subtyping .empty (subject (.map .str .float)) (expected .any)).2.2.2.2.1
  have below :=
    (checkTag_is_erased_subtyping .empty (subject (.map .str .float)) (expected .number)).2.2.2.2.2
  exact ⟨rejected.2 (by decide), erased.2 (by decide), ⟨rfl, plain rfl⟩, rfl, below rfl⟩

/-- After every history of declarations, a value that passes a test passes every wider test, and
so does every value that shows a tag below the tag of that value. -/
theorem checkTag_monotone (history : List Declaration) {subject narrower : Value}
    {tested wider : Tag}
    (widened : (ClassTable.afterRequests history).isSubtype tested wider = true)
    (narrowed : (ClassTable.afterRequests history).isSubtype narrower.tag subject.tag = true)
    (passes : subject.checkTag (ClassTable.afterRequests history) tested ≠ .rejected) :
    subject.checkTag (ClassTable.afterRequests history) wider ≠ .rejected ∧
      narrower.checkTag (ClassTable.afterRequests history) wider ≠ .rejected := by
  have rooted := ClassTable.rooted_afterRequests history
  have same := ClassTable.isSubtype_refl (ClassTable.afterRequests history) subject.tag
  exact ⟨ClassTable.conforms_mono rooted same widened passes,
    ClassTable.conforms_mono rooted narrowed widened passes⟩

/-- A test for maps to discs takes maps to anything, although their tag is not below its own. The
test for maps to shapes is wider and takes them as well, and with them maps to numbers. -/
theorem checkTag_monotone_erased :
    let classes := ClassTable.afterRequests ClassTable.circularRequests
    let subject (value : Tag) : Value := .array (.map .str value) (.whole 0 [])
    let expected (key : Tag) (className : Nat) : Tag := .array (.map key (.object ⟨className⟩))
    (classes.isSubtype (expected .int 3) (expected .number 1) = true ∧
        classes.isSubtype (subject .number).tag (subject .any).tag = true ∧
        (subject .any).checkTag classes (expected .int 3) ≠ .rejected ∧
        classes.isSubtype (subject .any).tag (expected .int 3) = false) ∧
      (subject .any).checkTag classes (expected .number 1) ≠ .rejected ∧
      (subject .number).checkTag classes (expected .number 1) ≠ .rejected := by
  intro classes subject expected
  have widened : (ClassTable.afterRequests ClassTable.circularRequests).isSubtype
      (expected .int 3) (expected .number 1) = true := by cbv
  have passes : (subject .any).checkTag
      (ClassTable.afterRequests ClassTable.circularRequests) (expected .int 3) ≠ .rejected :=
    TagCheck.noConfusion
  exact ⟨⟨widened, rfl, passes, rfl⟩,
    checkTag_monotone ClassTable.circularRequests widened rfl passes⟩

end Value

end PatternDispatch
