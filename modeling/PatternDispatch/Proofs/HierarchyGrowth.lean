/-
This file proves that declaring classes only ever extends the hierarchy. A new class is a leaf: it
hides no older class and is nobody's ancestor yet, so every older class keeps its entry and its
line of ancestors. Subtyping looks at the lines of the lower tag alone, a description at the entries
of the tag, and a type test at the tag that the value shows; what is asked about classes of the
first table is therefore answered alike ever after. A refused declaration leaves no trace but its
spelling.
-/
import PatternDispatch.Proofs.ErasedTags
import PatternDispatch.Proofs.Interning
import PatternDispatch.Proofs.WellFormed

namespace PatternDispatch

/-! ### Spellings -/

namespace NameTable

/-- The table is as it was, or `text` was not in it and stands behind all others now. No other text
becomes known, and none gets another name. -/
inductive InternsAtMost (before : NameTable) (text : String) : NameTable → Prop
  | nothing : InternsAtMost before text before
  | behind {after} (new : before.find? text = none) (texts : after.texts = before.texts.push text)
    (found : after.find? text = some ⟨before.size⟩)
    (others : ∀ other, other ≠ text → after.find? other = before.find? other) :
    InternsAtMost before text after

theorem internsAtMost_intern (table : NameTable) (text : String) :
    table.InternsAtMost text (table.intern text).2 := by
  obtain ⟨position, -, same⟩ | ⟨new, grown⟩ := table.intern_cases text
  · rw [same]
    exact .nothing
  · rw [grown]
    have find (other : String) :
        find? ⟨table.positions.insert text table.size, table.texts.push text⟩ other =
          if text = other then some ⟨table.size⟩ else table.find? other := by
      rw [find?, Std.HashMap.getElem?_insert]
      by_cases same : text = other <;> simp [same, find?]
    refine .behind ?_ rfl ?_ fun other different => ?_
    · rw [find?, new, Option.map_none]
    · rw [find, if_pos rfl]
    · rw [find, if_neg different.symm]

end NameTable

/-! ### Classes of the first table -/

namespace ClassTable

/-- Every class that the tag mentions is declared. -/
def Declares (classes : ClassTable) (tag : Tag) : Prop :=
  ∀ name ∈ tag.classNames, classes.contains name = true

theorem declares_iff {classes : ClassTable} {tag : Tag} :
    classes.Declares tag ↔ classes.firstUndeclared tag = none := by
  rw [firstUndeclared_eq_find?, List.find?_eq_none]
  simp only [Declares, Bool.not_eq_true', Bool.not_eq_false]

/-- Every class of the first table keeps its entry and its line of ancestors in the second. -/
structure ExtendedTo (before after : ClassTable) : Prop where
  entry : ∀ name, before.contains name = true → after.get? name = before.get? name
  line : ∀ name, before.contains name = true → after.lineage name = before.lineage name

namespace ExtendedTo

variable {before between after : ClassTable}

theorem refl (classes : ClassTable) : classes.ExtendedTo classes :=
  ⟨fun _ _ => rfl, fun _ _ => rfl⟩

theorem contains (extended : before.ExtendedTo after) {name : Name}
    (declared : before.contains name = true) : after.contains name = true := by
  rwa [ClassTable.contains, extended.entry name declared]

theorem trans (first : before.ExtendedTo between) (second : between.ExtendedTo after) :
    before.ExtendedTo after where
  entry name declared :=
    (second.entry name (first.contains declared)).trans (first.entry name declared)
  line name declared :=
    (second.line name (first.contains declared)).trans (first.line name declared)

/-- A class with a new name changes nothing for the others. -/
theorem cons {classes : ClassTable} {info : ClassInfo}
    (fresh : info.name ∉ classes.declared.map (·.name)) :
    classes.ExtendedTo ⟨info :: classes.declared⟩ := by
  have other {name : Name} (declared : classes.contains name = true) : info.name ≠ name :=
    (ne_of_mem_of_not_mem (contains_iff.1 declared) fresh).symm
  refine ⟨fun name declared => ?_, fun name declared => ?_⟩
  · rw [get?, List.find?_cons_of_neg (by simpa using other declared), get?]
  · exact lineage_cons_of_ne classes.declared (other declared)

theorem next (classes : ClassTable) (declaration : Declaration) :
    classes.ExtendedTo (classes.next declaration) := by
  obtain ⟨_, -, refused⟩ | ⟨info, fresh, -, -, added⟩ := classes.request_cases declaration
  · rw [refused]
    exact refl classes
  · rw [added]
    exact cons fresh

/-- Requests extend the table further and further. -/
theorem foldl_next (later : List Declaration) (classes : ClassTable) :
    classes.ExtendedTo (later.foldl ClassTable.next classes) := by
  induction later generalizing classes with
  | nil => exact refl classes
  | cons declaration later inductionHypothesis =>
    exact (next classes declaration).trans (inductionHypothesis _)

end ExtendedTo

/-! ### Answers about these classes -/

/-- Whether a tag is below another is settled by the lines of its own classes. -/
theorem below_congr {first second : ClassTable} {lower upper : Tag}
    (same : ∀ name ∈ lower.classNames, second.lineage name = first.lineage name)
    (below : Tag.Below first lower upper) : Tag.Below second lower upper := by
  induction below with
  | self tag => exact .self tag
  | any => exact .any
  | int => exact .int
  | float => exact .float
  | seq _ inductionHypothesis => exact .seq (inductionHypothesis same)
  | array _ inductionHypothesis => exact .array (inductionHypothesis same)
  | map _ _ inKey inValue =>
    exact .map (inKey fun name member => same name (List.mem_append_left _ member))
      (inValue fun name member => same name (List.mem_append_right _ member))
  | @object lower upper subclass =>
    have line := same lower (List.mem_singleton_self lower)
    refine .object ?_
    rwa [isSubclass_iff_mem, line, ← isSubclass_iff_mem]

theorem isSubtype_congr {first second : ClassTable} {lower : Tag}
    (same : ∀ name ∈ lower.classNames, second.lineage name = first.lineage name) (upper : Tag) :
    second.isSubtype lower upper = first.isSubtype lower upper := by
  rw [Bool.eq_iff_iff, isSubtype_iff_below, isSubtype_iff_below]
  exact ⟨below_congr fun name member => (same name member).symm, below_congr same⟩

/-- A test asks for subtyping alone, so tables that agree on that give the same answer. -/
theorem conforms_congr {first second : ClassTable} {shown expected : Tag}
    (same : second.isSubtype shown expected.erased = first.isSubtype shown expected.erased) :
    second.conforms shown expected = first.conforms shown expected := by
  cases answer : first.conforms shown expected with
  | accepted =>
    rw [conforms_eq_accepted_iff, same, ← conforms_eq_accepted_iff, answer]
  | acceptedErased =>
    rw [conforms_with_reserve_iff, same, ← conforms_with_reserve_iff, answer]
  | rejected =>
    rw [← not_ne_iff, conforms_ne_rejected_iff, same, ← conforms_ne_rejected_iff, not_ne_iff,
      answer]

theorem describe_congr {first second : ClassTable} {tag : Tag}
    (same : ∀ name ∈ tag.classNames, second.get? name = first.get? name) :
    second.describe tag = first.describe tag := by
  induction tag with
  | seq element inductionHypothesis | array element inductionHypothesis =>
    rw [describe, describe, inductionHypothesis same]
  | map key value inKey inValue =>
    have key := inKey fun name member => same name (List.mem_append_left _ member)
    have value := inValue fun name member => same name (List.mem_append_right _ member)
    rw [describe, describe, key, value]
  | object name => rw [describe, describe, same name (List.mem_singleton_self name)]
  | _ => rfl

/-- What was known of the first table and its classes is the same in the second. The upper tag of a
comparison and the tag that a test asks for may mention any classes. -/
structure Persists (before after : ClassTable) : Prop where
  entry : ∀ name info, before.get? name = some info → after.get? name = some info
  isSubtype : ∀ lower upper, before.Declares lower →
    after.isSubtype lower upper = before.isSubtype lower upper
  describe : ∀ tag, before.Declares tag → after.describe tag = before.describe tag
  firstUndeclared : ∀ tag, before.Declares tag →
    before.firstUndeclared tag = none ∧ after.firstUndeclared tag = none
  checkTag : ∀ (subject : Value) expected, before.Declares subject.tag →
    subject.checkTag after expected = subject.checkTag before expected

theorem ExtendedTo.persists {before after : ClassTable} (extended : before.ExtendedTo after) :
    before.Persists after := by
  have lines (tag : Tag) (declared : before.Declares tag) : ∀ name ∈ tag.classNames,
      after.lineage name = before.lineage name :=
    fun name member => extended.line name (declared name member)
  refine ⟨fun name info found => ?_, fun lower upper declared => ?_, fun tag declared => ?_,
    fun tag declared => ⟨declares_iff.1 declared, declares_iff.1 ?_⟩,
    fun subject expected declared => ?_⟩
  · have declared : before.contains name = true := by
      rw [ClassTable.contains, found, Option.isSome_some]
    rw [extended.entry name declared, found]
  · exact isSubtype_congr (lines lower declared) upper
  · exact describe_congr fun name member => extended.entry name (declared name member)
  · exact fun name member => extended.contains (declared name member)
  · exact conforms_congr (isSubtype_congr (lines subject.tag declared) expected.erased)

/-! ### Declarations -/

section Declarations

variable {classes extended : ClassTable} {names : NameTable} {display : String}
  {parent : Option Name} {name : Name}

/-- A declaration that is refused leaves the table as it was. -/
theorem next_of_refused {refusal : ClassError}
    (refused : (classes.declare names display parent).2 = .error refusal) :
    classes.next ⟨names, display, parent⟩ = classes := by
  obtain ⟨_, -, kept⟩ | ⟨info, -, -, answer, -⟩ := classes.request_cases ⟨names, display, parent⟩
  · exact kept
  · rw [declare, answer] at refused
    cases refused

/-- A declaration that is accepted adds a class that was unknown. -/
theorem next_of_accepted
    (accepted : (classes.declare names display parent).2 = .ok (name, extended)) :
    classes.next ⟨names, display, parent⟩ = extended ∧
      classes.contains name = false ∧ extended.contains name = true := by
  obtain ⟨_, answer, -⟩ | ⟨info, fresh, -, answer, added⟩ :=
    classes.request_cases ⟨names, display, parent⟩
  · rw [declare, answer] at accepted
    cases accepted
  · rw [declare, answer] at accepted
    cases accepted
    refine ⟨rfl, Bool.eq_false_iff.2 fun old => fresh (contains_iff.1 old), contains_iff.2 ?_⟩
    rw [next] at added
    rw [added]
    exact List.mem_cons_self

/-- A new spelling names a class that is yet to be added. -/
theorem declare_of_new {history : List String} (new : display ∉ "" :: history) :
    (classes.declare (NameTable.after history) display parent).2 =
      let (extended, answer) :=
        classes.insert ⟨⟨(NameTable.after history).size⟩, display, parent⟩
      answer.map fun name => (name, extended) := by
  rw [declare, request,
    NameTable.intern_of_new ((NameTable.positions_after_eq_none_iff history _).2 new)]
  simp only [NameTable.textOf, NameTable.size, Array.getElem?_push_size, Option.getD_some]

end Declarations

/-- Whatever has been declared, a further declaration takes nothing back. It interns its own
spelling and no other. If it is refused, the table stays as it was; if it is accepted, the class is
new, and subtyping, descriptions and type tests answer as before about the older classes. The same
goes for any number of later declarations. -/
theorem declarations_extend_hierarchy (history : List Declaration) :
    (∀ names display parent,
      names.InternsAtMost display ((afterRequests history).declare names display parent).1 ∧
        (∀ refusal, ((afterRequests history).declare names display parent).2 = .error refusal →
          afterRequests (history ++ [⟨names, display, parent⟩]) = afterRequests history) ∧
        ∀ name extended,
          ((afterRequests history).declare names display parent).2 = .ok (name, extended) →
          afterRequests (history ++ [⟨names, display, parent⟩]) = extended ∧
            (afterRequests history).contains name = false ∧ extended.contains name = true ∧
            (afterRequests history).Persists extended) ∧
      ∀ later, (afterRequests history).Persists (afterRequests (history ++ later)) := by
  have resumed (later : List Declaration) :
      afterRequests (history ++ later) = later.foldl next (afterRequests history) :=
    List.foldl_append
  refine ⟨fun names display parent => ⟨names.internsAtMost_intern display,
    fun refusal refused => ?_, fun name extended accepted => ?_⟩, fun later => ?_⟩
  · rw [resumed, List.foldl_cons, List.foldl_nil, next_of_refused refused]
  · obtain ⟨rfl, fresh, added⟩ := next_of_accepted accepted
    rw [resumed, List.foldl_cons, List.foldl_nil]
    exact ⟨rfl, fresh, added, (ExtendedTo.next _ _).persists⟩
  · rw [resumed]
    exact (ExtendedTo.foldl_next later _).persists

/-- Behind three classes in a line, a fourth is refused below a class that does not exist and
accepted below the third. An array of instances of the third is one of the first before and after,
and so it stays when the fourth gets a subclass too. -/
theorem declarations_extend_hierarchy_leaf :
    let classes := afterRequests circularRequests
    let names := NameTable.after ["Shape", "Circle", "Disc"]
    let extended : ClassTable := ⟨⟨⟨4⟩, "Ring", some ⟨3⟩⟩ :: classes.declared⟩
    let later : List Declaration :=
      [⟨names, "Ring", some ⟨3⟩⟩, ⟨(names.intern "Ring").2, "Washer", some ⟨4⟩⟩]
    (classes.declare names "Ring" (some ⟨7⟩)).2 = .error (.undeclaredParent ⟨7⟩) ∧
      afterRequests (circularRequests ++ [⟨names, "Ring", some ⟨7⟩⟩]) = classes ∧
      (classes.declare names "Ring" (some ⟨3⟩)).2 = .ok (⟨4⟩, extended) ∧
      classes.contains ⟨4⟩ = false ∧ extended.contains ⟨4⟩ = true ∧
      extended.isSubtype (.array (.object ⟨3⟩)) (.array (.object ⟨1⟩)) = true ∧
      (afterRequests (circularRequests ++ later)).isSubtype (.array (.object ⟨3⟩))
        (.array (.object ⟨1⟩)) = true := by
  intro classes names extended later
  have start : classes =
      ⟨[⟨⟨3⟩, "Disc", some ⟨2⟩⟩, ⟨⟨2⟩, "Circle", some ⟨1⟩⟩, ⟨⟨1⟩, "Shape", none⟩]⟩ := by
    unfold classes
    cbv
  have ring (parent : Name) : (classes.declare names "Ring" (some parent)).2 =
      let (extended, answer) := classes.insert ⟨⟨4⟩, "Ring", some parent⟩
      answer.map fun name => (name, extended) := by
    have size : names.size = 4 := NameTable.size_after ["Shape", "Circle", "Disc"]
    rw [declare_of_new (by decide), size]
  have refused : (classes.declare names "Ring" (some ⟨7⟩)).2 = .error (.undeclaredParent ⟨7⟩) := by
    rw [ring, start]
    rfl
  have accepted : (classes.declare names "Ring" (some ⟨3⟩)).2 = .ok (⟨4⟩, extended) := by
    unfold extended
    rw [ring, start]
    rfl
  have disc : classes.Declares (.array (.object ⟨3⟩)) := by
    intro name member
    rw [List.mem_singleton.1 member, start]
    rfl
  obtain ⟨declared, ever⟩ := declarations_extend_hierarchy circularRequests
  obtain ⟨-, kept, -⟩ := declared names "Ring" (some ⟨7⟩)
  obtain ⟨-, -, grown⟩ := declared names "Ring" (some ⟨3⟩)
  obtain ⟨-, fresh, added, persists⟩ := grown ⟨4⟩ extended accepted
  have shape : classes.isSubtype (.array (.object ⟨3⟩)) (.array (.object ⟨1⟩)) = true := by
    rw [start]
    rfl
  refine ⟨refused, kept _ refused, accepted, fresh, added, ?_, ?_⟩
  · exact (persists.isSubtype _ _ disc).trans shape
  · exact ((ever later).isSubtype _ _ disc).trans shape

end ClassTable

end PatternDispatch
