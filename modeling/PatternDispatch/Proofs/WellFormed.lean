/-
This file proves which written patterns are well formed. A pattern is well formed if each of
its nodes is sound on its own and no name is bound twice. A node that is not sound has exactly
one defect, which depends on the node and its surroundings but not on its parts.
-/
import PatternDispatch.Pattern.Resolution
import PatternDispatch.Pattern.Written

namespace PatternDispatch

/-! ### Names and classes in reach -/

/-- The innermost frame that defines the name defines it so. -/
def Scope.Innermost (scope : Scope) (name : Name) (definition : Definition) : Prop :=
  ∃ nearer frame outer, scope.innermost :: scope.enclosing = nearer ++ frame :: outer ∧
    findIn name frame = some definition ∧ ∀ other ∈ nearer, findIn name other = none

theorem Scope.find?_eq_some_iff {scope : Scope} {name : Name} {definition : Definition} :
    scope.find? name = some definition ↔ scope.Innermost name definition :=
  List.findSome?_eq_some_iff

theorem Scope.innermost_unique {scope : Scope} {name : Name} {first second : Definition}
    (one : scope.Innermost name first) (other : scope.Innermost name second) : first = second :=
  Option.some.inj ((find?_eq_some_iff.2 one).symm.trans (find?_eq_some_iff.2 other))

theorem Scope.valueOf?_eq_some {scope : Scope} {name : Name} {definition : Definition}
    (visible : scope.Innermost name definition) :
    scope.valueOf? name = some definition.value := by
  rw [valueOf?, find?_eq_some_iff.2 visible, Option.map_some]

theorem Scope.valueOf?_eq_none {scope : Scope} {name : Name}
    (absent : ∀ definition, ¬scope.Innermost name definition) : scope.valueOf? name = none := by
  rw [valueOf?, Option.map_eq_none_iff, Option.eq_none_iff_forall_ne_some]
  exact fun definition found => absent definition (find?_eq_some_iff.1 found)

/-- The classes that a tag mentions, from left to right. -/
def Tag.classNames : Tag → List Name
  | .object name => [name]
  | .seq element | .array element => element.classNames
  | .map key value => key.classNames ++ value.classNames
  | _ => []

theorem ClassTable.firstUndeclared_eq_find? (classes : ClassTable) (tag : Tag) :
    classes.firstUndeclared tag = tag.classNames.find? fun name => !classes.contains name := by
  induction tag with
  | object name =>
    rw [firstUndeclared, Tag.classNames, List.find?_singleton]
    cases classes.contains name <;> rfl
  | seq element inductionHypothesis => exact inductionHypothesis
  | array element inductionHypothesis => exact inductionHypothesis
  | map key value inKey inValue =>
    rw [firstUndeclared, Tag.classNames, List.find?_append, inKey, inValue]
  | _ => rfl

/-! ### Nodes of written patterns -/

namespace WrittenPattern

mutual

/-- The pattern and all its parts, each before its own parts, from left to right. -/
def nodes : WrittenPattern → List WrittenPattern
  | sequence elements => sequence elements :: nodesEach elements
  | tuple elements => tuple elements :: nodesEach elements
  | sequenceHead head minimum => sequenceHead head minimum :: nodes head
  | cons head tail => cons head tail :: (nodes head ++ nodes tail)
  | snoc init last => snoc init last :: (nodes init ++ nodes last)
  | named name inner => named name inner :: nodes inner
  | leaf => [leaf]
termination_by structural pattern => pattern

/-- The nodes of the patterns, one after the other. -/
def nodesEach : List WrittenPattern → List WrittenPattern
  | [] => []
  | pattern :: patterns => nodes pattern ++ nodesEach patterns

end

theorem nodesEach_eq_flatMap (patterns : List WrittenPattern) :
    nodesEach patterns = patterns.flatMap nodes := by
  induction patterns with
  | nil => rfl
  | cons pattern patterns inductionHypothesis =>
    rw [nodesEach, inductionHypothesis, List.flatMap_cons]

variable (surroundings : Surroundings)

/-- What a node of a well-formed pattern keeps to, its parts aside. -/
def Sound : WrittenPattern → Prop
  | identifier name => ∀ definition, surroundings.scope.Innermost name definition →
    definition.mutability = .immutable
  | stable name => ∃ definition, surroundings.scope.Innermost name definition ∧
    definition.mutability = .immutable
  | typed tag => ∀ name ∈ tag.classNames, surroundings.classes.contains name = true
  | sequenceHead _ minimum => 1 ≤ minimum
  | tuple elements => 2 ≤ elements.length ∧ elements.length ≤ 22
  | _ => True

/-- The defect of a node that is not sound, its parts aside. -/
inductive Offends : WrittenPattern → Defect → Prop
  | unstableIdentifier {name value}
    (mutable : surroundings.scope.Innermost name ⟨value, .mutable⟩) :
    Offends (.identifier name) (.unstableReference (surroundings.names.textOf name))
  | unstableReference {name value}
    (mutable : surroundings.scope.Innermost name ⟨value, .mutable⟩) :
    Offends (.stable name) (.unstableReference (surroundings.names.textOf name))
  | undefinedReference {name}
    (absent : ∀ definition, ¬surroundings.scope.Innermost name definition) :
    Offends (.stable name) (.undefinedReference (surroundings.names.textOf name))
  | unknownClass {tag known name later} (mentioned : tag.classNames = known ++ name :: later)
    (declared : ∀ other ∈ known, surroundings.classes.contains other = true)
    (undeclared : surroundings.classes.contains name = false) :
    Offends (.typed tag) (.unknownClass (surroundings.names.textOf name))
  | emptyHead {head} :
    Offends (.sequenceHead head 0)
      (.inconsistentArity "sequence head" 0 "a head needs at least one element")
  | tupleArity {elements : List WrittenPattern}
    (outside : elements.length < 2 ∨ 22 < elements.length) :
    Offends (.tuple elements)
      (.inconsistentArity "tuple" elements.length "tuples have between 2 and 22 elements")

/-- The name that a node binds, its parts aside. -/
def boundName? : WrittenPattern → Option Name
  | binding name | named name _ => some name
  | identifier name => if (surroundings.scope.find? name).isNone then some name else none
  | _ => none

/-- The names that the pattern binds, outermost first. -/
def boundNames (written : WrittenPattern) : List Name :=
  written.nodes.filterMap (boundName? surroundings)

/-- Every node is sound and no name is bound twice. -/
structure WellFormed (written : WrittenPattern) : Prop where
  sound : ∀ node ∈ written.nodes, Sound surroundings node
  distinct : (written.boundNames surroundings).Nodup

/-! ### The defect of a node -/

variable {surroundings}

/-- What an outcome reports, if it is a refusal. -/
def refusal {Outcome : Type} : Except Defect Outcome → Option Defect
  | .error defect => some defect
  | .ok _ => none

variable (surroundings) in
/-- The outcome of the check of a node. -/
def defect? : WrittenPattern → Option Defect
  | identifier name => refusal (surroundings.identify name)
  | stable name => refusal (surroundings.reference name)
  | typed tag => refusal (surroundings.typeTest tag)
  | sequenceHead _ minimum => refusal (checkHead minimum)
  | tuple elements => refusal (checkTuple elements.length)
  | _ => none

/-- A scope does not know a name, or it gives it an immutable or a mutable value. -/
theorem innermost_cases (scope : Scope) (name : Name) :
    (scope.find? name = none ∧ ∀ definition, ¬scope.Innermost name definition) ∨
      (∃ value, scope.Innermost name ⟨value, .immutable⟩) ∨
      ∃ value, scope.Innermost name ⟨value, .mutable⟩ := by
  simp only [← Scope.find?_eq_some_iff]
  cases scope.find? name with
  | none => exact .inl ⟨rfl, fun definition found => nomatch found⟩
  | some definition =>
    obtain ⟨value, _ | _⟩ := definition
    · exact .inr (.inr ⟨value, rfl⟩)
    · exact .inr (.inl ⟨value, rfl⟩)

theorem find?_eq_none {scope : Scope} {name : Name}
    (absent : ∀ definition, ¬scope.Innermost name definition) : scope.find? name = none :=
  Option.eq_none_iff_forall_ne_some.2 fun definition found =>
    absent definition (Scope.find?_eq_some_iff.1 found)

theorem defect?_of_offends {node : WrittenPattern} {defect : Defect}
    (offends : Offends surroundings node defect) : defect? surroundings node = some defect := by
  cases offends with
  | unstableIdentifier mutable =>
    have found := Scope.find?_eq_some_iff.2 mutable
    simp only [defect?, Surroundings.identify, Surroundings.reference, found, refusal]
  | unstableReference mutable =>
    have found := Scope.find?_eq_some_iff.2 mutable
    simp only [defect?, Surroundings.reference, found, refusal]
  | undefinedReference absent =>
    simp only [defect?, Surroundings.reference, find?_eq_none absent, refusal]
  | @unknownClass tag known name later mentioned declared undeclared =>
    have first : surroundings.classes.firstUndeclared tag = some name := by
      rw [ClassTable.firstUndeclared_eq_find?, List.find?_eq_some_iff_append]
      exact ⟨by simp [undeclared], known, later, mentioned, by simpa using declared⟩
    simp only [defect?, Surroundings.typeTest, first, refusal]
  | emptyHead => rfl
  | @tupleArity elements outside =>
    have refused : ¬(leastTupleArity ≤ elements.length ∧ elements.length ≤ greatestTupleArity) := by
      unfold leastTupleArity greatestTupleArity
      omega
    rw [defect?, checkTuple, if_neg refused, refusal]

theorem sound_or_offends (surroundings : Surroundings) (node : WrittenPattern) :
    Sound surroundings node ∨ ∃ defect, Offends surroundings node defect := by
  cases node with
  | identifier name =>
    obtain ⟨-, absent⟩ | ⟨value, visible⟩ | ⟨value, mutable⟩ :=
      innermost_cases surroundings.scope name
    · exact .inl fun definition found => absurd found (absent definition)
    · exact .inl fun definition found => congrArg _ (Scope.innermost_unique found visible)
    · exact .inr ⟨_, .unstableIdentifier mutable⟩
  | stable name =>
    obtain ⟨-, absent⟩ | ⟨value, visible⟩ | ⟨value, mutable⟩ :=
      innermost_cases surroundings.scope name
    · exact .inr ⟨_, .undefinedReference absent⟩
    · exact .inl ⟨_, visible, rfl⟩
    · exact .inr ⟨_, .unstableReference mutable⟩
  | typed tag =>
    cases first : tag.classNames.find? fun name => !surroundings.classes.contains name with
    | none =>
      exact .inl fun name member => by simpa using List.find?_eq_none.1 first name member
    | some name =>
      obtain ⟨undeclared, known, later, mentioned, declared⟩ :=
        List.find?_eq_some_iff_append.1 first
      exact .inr ⟨_, .unknownClass mentioned (by simpa using declared) (by simpa using undeclared)⟩
  | sequenceHead head minimum =>
    cases minimum with
    | zero => exact .inr ⟨_, .emptyHead⟩
    | succ minimum => exact .inl (Nat.le_add_left 1 minimum)
  | tuple elements =>
    by_cases inside : 2 ≤ elements.length ∧ elements.length ≤ 22
    · exact .inl inside
    · exact .inr ⟨_, .tupleArity (by omega)⟩
  | _ => exact .inl trivial

theorem defect?_of_sound {node : WrittenPattern} (sound : Sound surroundings node) :
    defect? surroundings node = none := by
  cases node with
  | identifier name =>
    obtain ⟨unknown, -⟩ | ⟨value, visible⟩ | ⟨value, mutable⟩ :=
      innermost_cases surroundings.scope name
    · simp only [defect?, Surroundings.identify, unknown, refusal]
    · have found := Scope.find?_eq_some_iff.2 visible
      simp only [defect?, Surroundings.identify, Surroundings.reference, found, refusal]
    · cases sound _ mutable
  | stable name =>
    obtain ⟨⟨value, mutability⟩, visible, rfl⟩ := sound
    have found := Scope.find?_eq_some_iff.2 visible
    simp only [defect?, Surroundings.reference, found, refusal]
  | typed tag =>
    have known : surroundings.classes.firstUndeclared tag = none := by
      rw [ClassTable.firstUndeclared_eq_find?, List.find?_eq_none]
      exact fun name member => by simp [sound name member]
    simp only [defect?, Surroundings.typeTest, known, refusal]
  | sequenceHead head minimum =>
    rw [defect?, checkHead, if_neg (Nat.ne_of_gt sound), refusal]
  | tuple elements =>
    have accepted : checkTuple elements.length = .ok () := if_pos sound
    rw [defect?, accepted, refusal]
  | _ => rfl

/-- The check of a node reports exactly its defect. -/
theorem defect?_eq_some_iff {node : WrittenPattern} {defect : Defect} :
    defect? surroundings node = some defect ↔ Offends surroundings node defect := by
  refine ⟨fun found => ?_, defect?_of_offends⟩
  obtain sound | ⟨other, offends⟩ := sound_or_offends surroundings node
  · rw [defect?_of_sound sound] at found
    cases found
  · cases (defect?_of_offends offends).symm.trans found
    exact offends

theorem defect?_eq_none_iff {node : WrittenPattern} :
    defect? surroundings node = none ↔ Sound surroundings node := by
  refine ⟨fun unreported => ?_, defect?_of_sound⟩
  obtain sound | ⟨defect, offends⟩ := sound_or_offends surroundings node
  · exact sound
  · rw [defect?_of_offends offends] at unreported
    cases unreported

end WrittenPattern

end PatternDispatch
