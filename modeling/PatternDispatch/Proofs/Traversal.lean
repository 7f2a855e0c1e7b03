/-
This file proves that a match collects its findings in the order of the traversal. Each node
of the pattern contributes the same on every subject that the pattern accepts: a binder its
name, a type test its tag if that cannot be checked in full, every other node nothing. The
names and the erased tests of a match are therefore those that the pattern shows beforehand.
-/
import PatternDispatch.Proofs.Search

namespace PatternDispatch

/-! ### Type tests -/

/-- A tag with unchecked parameters has no subtypes but tags of its own kind. -/
theorem ClassTable.hasUncheckedParameters_of_isSubtype {classes : ClassTable} {shown expected : Tag}
    (notSeq : ∀ lower upper, shown = .seq lower → expected = .seq upper → False)
    (notMap : ∀ lowerKey lowerValue upperKey upperValue, shown = .map lowerKey lowerValue →
      expected = .map upperKey upperValue → False)
    (notArray : ∀ lower upper, shown = .array lower → expected = .array upper → False)
    (subtype : classes.isSubtype shown expected = true) :
    expected.hasUncheckedParameters = false := by
  cases expected with
  | seq upper =>
    cases shown with
    | seq lower => exact (notSeq _ _ rfl rfl).elim
    | _ => cases subtype
  | map upperKey upperValue =>
    cases shown with
    | map lowerKey lowerValue => exact (notMap _ _ _ _ rfl rfl).elim
    | _ => cases subtype
  | array upper =>
    cases shown with
    | array lower => exact (notArray _ _ rfl rfl).elim
    | _ => cases subtype
  | _ => rfl

theorem ClassTable.conforms_eq_acceptedErased_iff {classes : ClassTable} {shown expected : Tag}
    (conforms : classes.conforms shown expected ≠ .rejected) :
    classes.conforms shown expected = .acceptedErased ↔ expected.hasUncheckedParameters = true := by
  fun_induction ClassTable.conforms classes shown expected with
  | case1 shown => exact iff_of_false TagCheck.noConfusion Bool.noConfusion
  | case2 _ _ unchecked | case4 _ _ _ _ unchecked => exact iff_of_true rfl unchecked
  | case3 _ _ checked | case5 _ _ _ _ checked => exact iff_of_false TagCheck.noConfusion checked
  | case6 shown expected inductionHypothesis => exact inductionHypothesis conforms
  | case7 shown expected _ notSeq notMap notArray subtype =>
    have checked := hasUncheckedParameters_of_isSubtype notSeq notMap notArray subtype
    rw [checked]
    exact iff_of_false TagCheck.noConfusion Bool.noConfusion
  | case8 => exact absurd rfl conforms

/-- A test that is not refused is erased exactly if its tag has parameters that no value carries. -/
theorem Value.checkTag_eq_acceptedErased_iff {classes : ClassTable} {subject : Value}
    {expected : Tag} (conforms : subject.checkTag classes expected ≠ .rejected) :
    subject.checkTag classes expected = .acceptedErased ↔
      expected.hasUncheckedParameters = true :=
  ClassTable.conforms_eq_acceptedErased_iff conforms

/-! ### Readings -/

/-- A way to read captures and a way to read the nodes of patterns that agree on what a single
node captures. -/
structure Reading (Item : Type) where
  ofCapture : Capture → List Item
  ofNode : Pattern → Option Item
  empty : ofCapture .empty = []
  append : ∀ first second, ofCapture (first ++ second) = ofCapture first ++ ofCapture second
  binding : ∀ pattern name value, pattern.boundName? = some name →
    ofCapture (.ofBinding name value) = (ofNode pattern).toList
  erasure : ∀ pattern tag shown, pattern.uncheckedTag? = some tag →
    ofCapture (.ofErasure ⟨tag, shown⟩) = (ofNode pattern).toList
  silent : ∀ pattern, pattern.boundName? = none → pattern.uncheckedTag? = none →
    ofNode pattern = none

namespace Reading

variable {Item : Type} (reading : Reading Item) {classes : ClassTable}

/-- Whether captures of this pattern read as its nodes do. -/
def Follows (classes : ClassTable) (pattern : Pattern) : Prop :=
  ∀ {subject capture}, Finds classes pattern subject capture →
    reading.ofCapture capture = pattern.nodes.filterMap reading.ofNode

theorem filterMap_silent {pattern : Pattern} {nodes : List Pattern}
    (unbound : pattern.boundName? = none) (checked : pattern.uncheckedTag? = none) :
    (pattern :: nodes).filterMap reading.ofNode = nodes.filterMap reading.ofNode := by
  rw [List.filterMap_cons, reading.silent pattern unbound checked]

theorem ofCapture_leaf {pattern : Pattern} (leaf : pattern.nodes = [pattern])
    (unbound : pattern.boundName? = none) (checked : pattern.uncheckedTag? = none) :
    reading.ofCapture .empty = pattern.nodes.filterMap reading.ofNode := by
  rw [leaf, reading.filterMap_silent unbound checked, reading.empty, List.filterMap_nil]

theorem filterMap_single (pattern : Pattern) :
    [pattern].filterMap reading.ofNode = (reading.ofNode pattern).toList := by
  cases node : reading.ofNode pattern <;> simp [node]

theorem ofCapture_each {patterns : List Pattern} {items : List Value} {capture : Capture}
    (follows : ∀ pattern ∈ patterns, reading.Follows classes pattern)
    (found : FindsEach classes patterns items capture) :
    reading.ofCapture capture = (patterns.flatMap Pattern.nodes).filterMap reading.ofNode := by
  induction patterns generalizing items capture with
  | nil =>
    cases found
    exact reading.empty
  | cons pattern patterns inductionHypothesis =>
    obtain ⟨first, rest⟩ := List.forall_mem_cons.1 follows
    cases found with
    | cons inFirst inRest =>
      rw [reading.append, first inFirst, inductionHypothesis rest inRest, List.flatMap_cons,
        List.filterMap_append]

theorem ofCapture_typeTest {tag : Tag} {subject : Value} {capture : Capture}
    (found : Finds classes (.typeTest tag) subject capture) :
    reading.ofCapture capture = (Pattern.typeTest tag).nodes.filterMap reading.ofNode := by
  have passed := found.checkTag_ne_rejected
  cases found with
  | checked conforms =>
    have checked : ¬tag.hasUncheckedParameters = true := by
      rw [← Value.checkTag_eq_acceptedErased_iff passed, conforms]
      decide
    exact reading.ofCapture_leaf rfl rfl (if_neg checked)
  | erased conforms =>
    have unchecked := (Value.checkTag_eq_acceptedErased_iff passed).1 conforms
    rw [reading.erasure (.typeTest tag) tag subject.tag (if_pos unchecked)]
    exact (reading.filterMap_single _).symm

/-- Whatever a pattern captures reads as its nodes do, from the outermost to the last. -/
theorem ofCapture_eq (pattern : Pattern) : reading.Follows classes pattern := by
  intro subject capture found
  induction pattern using Pattern.induction generalizing subject capture with
  | literal | stableReference | wildcard | emptySequence =>
    cases found
    exact reading.ofCapture_leaf rfl rfl rfl
  | binder name =>
    cases found
    rw [reading.binding (.binder name) name subject rfl]
    exact (reading.filterMap_single _).symm
  | typeTest tag => exact reading.ofCapture_typeTest found
  | fixedSequence elements each =>
    cases found with
    | fixedSequence shown found =>
      rw [Pattern.nodes_fixedSequence, reading.filterMap_silent rfl rfl]
      exact reading.ofCapture_each (fun _ member => each _ member) found
  | sequenceHead head minimum inHead =>
    cases found with
    | sequenceHead shown long first found =>
      rw [Pattern.nodes_sequenceHead, reading.filterMap_silent rfl rfl]
      exact inHead found
  | headTail head tail inHead inTail =>
    cases found with
    | headTail shown shorter kept first left right =>
      rw [reading.append, inHead left, inTail right, Pattern.nodes_headTail,
        reading.filterMap_silent rfl rfl, List.filterMap_append]
  | initLast init last inInit inLast =>
    cases found with
    | initLast shown shorter kept final left right =>
      rw [reading.append, inInit left, inLast right, Pattern.nodes_initLast,
        reading.filterMap_silent rfl rfl, List.filterMap_append]
  | tuple elements each =>
    cases found with
    | tuple shown found =>
      rw [Pattern.nodes_tuple, reading.filterMap_silent rfl rfl]
      exact reading.ofCapture_each (fun _ member => each _ member) found
  | bound name inner within =>
    cases found with
    | bound found =>
      rw [reading.append, reading.binding (.bound name inner) name subject rfl, within found,
        Pattern.nodes_bound, ← reading.filterMap_single, ← List.filterMap_append]
      rfl

/-- The names in the order of binding. -/
def names : Reading Name where
  ofCapture capture := capture.bindings.names
  ofNode := Pattern.boundName?
  empty := rfl
  append first second := Bindings.names_append first.bindings second.bindings
  binding pattern name value bound := by rw [bound]; rfl
  erasure pattern tag shown unchecked := by
    cases pattern with
    | typeTest => rfl
    | _ => cases unchecked
  silent pattern unbound checked := unbound

/-- The tags of the erased type tests. -/
def erasedTags : Reading Tag where
  ofCapture capture := capture.erasures.map (·.expected)
  ofNode := Pattern.uncheckedTag?
  empty := rfl
  append first second := List.map_append
  binding pattern name value bound := by
    cases pattern with
    | binder | bound => rfl
    | _ => cases bound
  erasure pattern tag shown unchecked := by rw [unchecked]; rfl
  silent pattern unbound checked := checked

end Reading

/-! ### Names and erased tests of a match -/

namespace Finds

variable {classes : ClassTable} {pattern : Pattern} {subject : Value} {capture : Capture}

/-- A match binds the names that the pattern binds, in that order. -/
theorem names_eq_binders (found : Finds classes pattern subject capture) :
    capture.bindings.names = pattern.binders :=
  Reading.names.ofCapture_eq pattern found

/-- A match erases the type tests that the pattern cannot check in full, in that order. -/
theorem expected_eq_uncheckedTags (found : Finds classes pattern subject capture) :
    capture.erasures.map (·.expected) = pattern.uncheckedTags :=
  Reading.erasedTags.ofCapture_eq pattern found

end Finds

namespace Pattern

theorem names_of_accepted {classes : ClassTable} {clause : Nat} {pattern : Pattern}
    {subject : Value} {bindings : Bindings}
    (accepted : (pattern.attempt classes clause subject).outcome = .accepted bindings) :
    bindings.names = pattern.binders := by
  obtain ⟨capture, found, rfl⟩ := (attempt_accepted_iff _ _ _ _ _).1 accepted
  exact found.names_eq_binders

/-- Whatever the subject is, an accepting attempt binds the names that the pattern binds, in their
order and as often. If the pattern was resolved, these names are distinct, so that every entry is
the only one of its name and is found under it. -/
theorem accepted_binds_binders {classes : ClassTable} {clause : Nat} {pattern : Pattern}
    {subject : Value} {bindings : Bindings}
    (accepted : (pattern.attempt classes clause subject).outcome = .accepted bindings) :
    bindings.names = pattern.binders ∧
      ∀ (surroundings : Surroundings) (written : WrittenPattern),
        written.resolve surroundings = .ok pattern →
          bindings.names.Nodup ∧ ∀ entry ∈ bindings.entries,
            bindings.entries.filter (·.1 = entry.1) = [entry] ∧
              bindings.get? entry.1 = some entry.2 := by
  have bound := names_of_accepted accepted
  refine ⟨bound, fun surroundings written resolved => ?_⟩
  have distinct : bindings.names.Nodup :=
    bound ▸ WrittenPattern.nodup_binders_of_resolve resolved
  refine ⟨distinct, fun entry member => ?_⟩
  have found := Value.field?_of_mem distinct member
  exact ⟨Value.filter_eq_of_field? distinct found, found⟩

/-- A name for the whole sequence comes before the names in its front, and these before the name
of its last element. A pattern that was not resolved may bind one name twice, and then does. -/
theorem accepted_binds_binders_twice :
    let whole : Name := ⟨1⟩
    let first : Name := ⟨2⟩
    let last : Name := ⟨3⟩
    let numbers : View Value := .whole 0 [.int 4, .int 5, .int 6]
    let pattern : Pattern :=
      .bound whole (.initLast (.headTail (.binder first) .wildcard) (.binder last))
    let written : WrittenPattern :=
      .named whole (.snoc (.cons (.identifier first) .wildcard) (.binding last))
    let bindings : Bindings := ⟨[(whole, .seq numbers), (first, .int 4), (last, .int 6)]⟩
    let repeating : Pattern :=
      .bound first (.fixedSequence [.wildcard, .binder last, .binder first])
    let repeated : Bindings := ⟨[(first, .seq numbers), (last, .int 5), (first, .int 6)]⟩
    ((pattern.attempt .empty 0 (.seq numbers)).outcome = .accepted bindings ∧
      written.resolve ⟨.start, .start, .empty⟩ = .ok pattern ∧
        (repeating.attempt .empty 0 (.seq numbers)).outcome = .accepted repeated) ∧
      bindings.names = [whole, first, last] ∧ bindings.get? last = some (.int 6) ∧
        repeated.names = repeating.binders ∧ repeating.binders = [first, last, first] := by
  intro whole first last numbers pattern written bindings repeating repeated
  have accepted : (pattern.attempt .empty 0 (.seq numbers)).outcome = .accepted bindings := rfl
  have resolved : written.resolve ⟨.start, .start, .empty⟩ = .ok pattern := rfl
  have unresolved : (repeating.attempt .empty 0 (.seq numbers)).outcome = .accepted repeated := rfl
  obtain ⟨names, onlyEntries⟩ := accepted_binds_binders accepted
  have found := ((onlyEntries _ written resolved).2 (last, .int 6) (by simp [bindings])).2
  exact ⟨⟨accepted, resolved, unresolved⟩, names, found, (accepted_binds_binders unresolved).1, rfl⟩

end Pattern

end PatternDispatch
