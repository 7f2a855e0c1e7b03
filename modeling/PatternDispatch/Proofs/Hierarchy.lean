/-
This file proves that the declared classes form a finite forest, in which the search for an
ancestor always ends. Whatever has been asked for in whatever order, a class is declared once
and after its parent, so its line of ancestors leads only to older classes and a search goes
round once for each class of that line.
-/
import Mathlib.Logic.Relation
import PatternDispatch.ClassTable

namespace PatternDispatch

/-! ### Histories -/

namespace ClassTable

/-- The table of classes that a request leaves behind. -/
def next (classes : ClassTable) (declaration : Declaration) : ClassTable :=
  (classes.request declaration).classes

/-- The table after a history of requests, which starts without any class. -/
def afterRequests (history : List Declaration) : ClassTable := history.foldl next empty

theorem contains_iff {classes : ClassTable} {name : Name} :
    classes.contains name = true ↔ name ∈ classes.declared.map (·.name) := by
  rw [contains, get?, List.find?_isSome, List.mem_map]
  simp only [decide_eq_true_eq]

/-- A class is added if it is new and its parent is not; otherwise the table stays as it is. -/
theorem insert_cases (classes : ClassTable) (info : ClassInfo) :
    (∃ refusal, classes.insert info = (classes, .error refusal)) ∨
      info.name ∉ classes.declared.map (·.name) ∧
        (∀ parent ∈ info.parent, parent ∈ classes.declared.map (·.name)) ∧
        classes.insert info = (⟨info :: classes.declared⟩, .ok info.name) := by
  simp only [← contains_iff, insert]
  by_cases known : classes.contains info.name = true
  · exact .inl ⟨_, if_pos known⟩
  · rw [if_neg known]
    cases info.parent with
    | none => exact .inr ⟨known, nofun, rfl⟩
    | some parent =>
      by_cases present : classes.contains parent = true
      · exact .inr ⟨known, fun _ same => Option.some.inj same ▸ present, if_pos present⟩
      · exact .inl ⟨_, if_neg present⟩

/-- A request is refused, or it adds a new class whose parent is known. -/
theorem request_cases (classes : ClassTable) (declaration : Declaration) :
    (∃ refusal, (classes.request declaration).answer = .error refusal ∧
      classes.next declaration = classes) ∨
    ∃ info : ClassInfo, info.name ∉ classes.declared.map (·.name) ∧
      (∀ parent ∈ info.parent, parent ∈ classes.declared.map (·.name)) ∧
      (classes.request declaration).answer = .ok info.name ∧
      classes.next declaration = ⟨info :: classes.declared⟩ := by
  cases interned : declaration.names.intern declaration.display with
  | mk name names =>
    rw [next, request, interned]
    obtain ⟨refusal, refused⟩ | ⟨fresh, known, added⟩ :=
      classes.insert_cases ⟨name, names.textOf name, declaration.parent⟩
    · simp only [refused]
      exact .inl ⟨refusal, rfl, trivial⟩
    · simp only [added]
      exact .inr ⟨_, fresh, known, rfl, rfl⟩

/-! ### Declarations in order -/

/-- Every class is declared once, and its parent among the older classes. -/
inductive Rooted : List ClassInfo → Prop
  | nil : Rooted []
  | cons {info : ClassInfo} {older : List ClassInfo} (fresh : info.name ∉ older.map (·.name))
    (known : ∀ parent ∈ info.parent, parent ∈ older.map (·.name)) (below : Rooted older) :
    Rooted (info :: older)

theorem rooted_next {classes : ClassTable} (rooted : Rooted classes.declared)
    (declaration : Declaration) : Rooted (classes.next declaration).declared := by
  obtain ⟨_, -, refused⟩ | ⟨info, fresh, known, -, added⟩ := classes.request_cases declaration
  · rwa [refused]
  · rw [added]
    exact .cons fresh known rooted

/-- Requests keep the order, so every history leaves the classes in order. -/
theorem rooted_foldl_next (history : List Declaration) {classes : ClassTable}
    (rooted : Rooted classes.declared) : Rooted (history.foldl next classes).declared := by
  induction history generalizing classes with
  | nil => exact rooted
  | cons declaration later inductionHypothesis =>
    exact inductionHypothesis (rooted_next rooted declaration)

theorem rooted_afterRequests (history : List Declaration) :
    Rooted (afterRequests history).declared :=
  rooted_foldl_next history .nil

namespace Rooted

variable {declared : List ClassInfo}

theorem nodup_names (rooted : Rooted declared) : (declared.map (·.name)).Nodup := by
  induction rooted with
  | nil => exact .nil
  | cons fresh known below inductionHypothesis =>
    exact List.nodup_cons.2 ⟨fresh, inductionHypothesis⟩

theorem parent_mem (rooted : Rooted declared) :
    ∀ info ∈ declared, ∀ parent ∈ info.parent, parent ∈ declared.map (·.name) := by
  induction rooted with
  | nil => exact fun info member => nomatch member
  | cons fresh known below inductionHypothesis =>
    refine List.forall_mem_cons.2 ⟨fun parent extended => ?_, fun info member parent extended => ?_⟩
    · exact List.mem_cons_of_mem _ (known parent extended)
    · exact List.mem_cons_of_mem _ (inductionHypothesis info member parent extended)

end Rooted

/-! ### Parent steps -/

/-- The class that a class extends. -/
def parent? (classes : ClassTable) (name : Name) : Option Name :=
  (classes.get? name).bind (·.parent)

/-- One step from a class to its parent. -/
def Extends (classes : ClassTable) (lower upper : Name) : Prop :=
  classes.parent? lower = some upper

theorem parent?_cons (info : ClassInfo) (older : List ClassInfo) (name : Name) :
    parent? ⟨info :: older⟩ name =
      if info.name = name then info.parent else parent? ⟨older⟩ name := by
  unfold parent? get?
  rw [List.find?_cons]
  by_cases same : info.name = name <;> simp [same]

theorem lineage_cons_of_ne {info : ClassInfo} {name : Name} (older : List ClassInfo)
    (other : info.name ≠ name) : lineage ⟨info :: older⟩ name = lineage ⟨older⟩ name := by
  rw [lineage, lineage, ancestors, if_neg other]

theorem mem_lineage_self (classes : ClassTable) (name : Name) : name ∈ classes.lineage name := by
  obtain ⟨declared⟩ := classes
  induction declared with
  | nil => exact List.mem_singleton_self name
  | cons info older inductionHypothesis =>
    by_cases same : info.name = name
    · rw [lineage, ancestors, if_pos same]
      cases info.parent with
      | none => exact List.mem_singleton_self name
      | some parent => exact List.mem_cons_self
    · rw [lineage_cons_of_ne older same]
      exact inductionHypothesis

/-- Every declared class has at most one place in a line of ancestors. -/
theorem length_lineage_le (classes : ClassTable) (name : Name) :
    (classes.lineage name).length ≤ classes.declared.length + 1 := by
  obtain ⟨declared⟩ := classes
  induction declared generalizing name with
  | nil => exact Nat.le_refl 1
  | cons info older inductionHypothesis =>
    by_cases same : info.name = name
    · rw [lineage, ancestors, if_pos same]
      cases info.parent with
      | none => exact Nat.le_add_left 1 _
      | some parent => exact Nat.succ_le_succ (inductionHypothesis parent)
    · rw [lineage_cons_of_ne older same]
      exact Nat.le_succ_of_le (inductionHypothesis name)

/-- The line of ancestors of a class without a parent is the class alone. -/
theorem lineage_of_root {classes : ClassTable} {name : Name} (root : classes.parent? name = none) :
    classes.lineage name = [name] := by
  obtain ⟨declared⟩ := classes
  induction declared with
  | nil => rfl
  | cons info older inductionHypothesis =>
    rw [parent?_cons] at root
    by_cases same : info.name = name
    · rw [if_pos same] at root
      rw [lineage, ancestors, if_pos same, root]
    · rw [if_neg same] at root
      rw [lineage_cons_of_ne older same]
      exact inductionHypothesis root

theorem mem_of_extends {classes : ClassTable} {lower upper : Name}
    (rooted : Rooted classes.declared) (extended : classes.Extends lower upper) :
    upper ∈ classes.declared.map (·.name) := by
  obtain ⟨info, found, parent⟩ := Option.bind_eq_some_iff.1 extended
  exact rooted.parent_mem info (List.mem_of_find?_eq_some found) upper parent

/-- The line of ancestors of a class goes on with that of its parent. -/
theorem lineage_of_extends {classes : ClassTable} {lower upper : Name}
    (rooted : Rooted classes.declared) (extended : classes.Extends lower upper) :
    classes.lineage lower = lower :: classes.lineage upper := by
  obtain ⟨declared⟩ := classes
  change Rooted declared at rooted
  induction rooted with
  | nil => cases extended
  | @cons info older fresh known below inductionHypothesis =>
    rw [Extends, parent?_cons] at extended
    by_cases same : info.name = lower
    · rw [if_pos same] at extended
      have newer : info.name ≠ upper := fun equal => fresh (equal ▸ known upper extended)
      rw [lineage_cons_of_ne older newer, lineage, ancestors, if_pos same, extended]
      rfl
    · rw [if_neg same] at extended
      have known := mem_of_extends (show Rooted (mk older).declared from below) extended
      have newer : info.name ≠ upper := fun equal => fresh (equal ▸ known)
      rw [lineage_cons_of_ne older newer, lineage_cons_of_ne older same]
      exact inductionHypothesis extended

/-! ### Subclasses -/

section Subclasses

variable {classes : ClassTable} {lower upper : Name}

theorem isSubclass_iff_mem :
    classes.isSubclass lower upper = true ↔ upper ∈ classes.lineage lower :=
  decide_eq_true_iff

theorem isSubclass_refl (classes : ClassTable) (name : Name) :
    classes.isSubclass name name = true :=
  isSubclass_iff_mem.2 (classes.mem_lineage_self name)

variable (rooted : Rooted classes.declared)

include rooted

theorem isSubclass_of_extends (extended : classes.Extends lower upper) (top : Name) :
    classes.isSubclass lower top = true ↔ top = lower ∨ classes.isSubclass upper top = true := by
  rw [isSubclass_iff_mem, lineage_of_extends rooted extended, List.mem_cons, isSubclass_iff_mem]

/-- The ancestors of a class are the classes that parent steps lead to. -/
theorem isSubclass_iff_reflTransGen :
    classes.isSubclass lower upper = true ↔ Relation.ReflTransGen classes.Extends lower upper := by
  constructor
  · intro subclass
    -- Each step leaves the rest of the line of ancestors.
    induction line : classes.lineage lower generalizing lower with
    | nil => exact absurd (classes.mem_lineage_self lower) (line ▸ List.not_mem_nil)
    | cons first rest inductionHypothesis =>
      cases extended : classes.parent? lower with
      | none =>
        rw [isSubclass_iff_mem, lineage_of_root extended] at subclass
        rw [List.mem_singleton.1 subclass]
      | some parent =>
        obtain rfl | further := (isSubclass_of_extends rooted extended upper).1 subclass
        · exact .refl
        · rw [lineage_of_extends rooted extended] at line
          exact .head extended (inductionHypothesis further (List.cons.inj line).2)
  · intro reached
    induction reached using Relation.ReflTransGen.head_induction_on with
    | refl => exact isSubclass_refl classes upper
    | head extended _ inductionHypothesis =>
      exact (isSubclass_of_extends rooted extended upper).2 (.inr inductionHypothesis)

theorem length_lineage_lt (reached : Relation.TransGen classes.Extends lower upper) :
    (classes.lineage upper).length < (classes.lineage lower).length := by
  induction reached using Relation.TransGen.head_induction_on with
  | single extended =>
    rw [lineage_of_extends rooted extended]
    exact Nat.lt_succ_self _
  | head extended _ inductionHypothesis =>
    rw [lineage_of_extends rooted extended]
    exact Nat.lt_succ_of_lt inductionHypothesis

/-- No class is among the ancestors of its own parent. -/
theorem not_transGen_self (name : Name) : ¬Relation.TransGen classes.Extends name name :=
  fun reached => Nat.lt_irrefl _ (length_lineage_lt rooted reached)

theorem isSubclass_trans {middle : Name} (first : classes.isSubclass lower middle = true)
    (second : classes.isSubclass middle upper = true) : classes.isSubclass lower upper = true := by
  rw [isSubclass_iff_reflTransGen rooted] at first second ⊢
  exact first.trans second

theorem isSubclass_antisymm (up : classes.isSubclass lower upper = true)
    (down : classes.isSubclass upper lower = true) : lower = upper := by
  rw [isSubclass_iff_reflTransGen rooted] at up down
  obtain same | further := Relation.reflTransGen_iff_eq_or_transGen.1 up
  · exact same.symm
  · exact absurd (further.trans_left down) (not_transGen_self rooted lower)

/-- Two ancestors of one class lie on one line. -/
theorem isSubclass_total {first second : Name} (toFirst : classes.isSubclass lower first = true)
    (toSecond : classes.isSubclass lower second = true) :
    classes.isSubclass first second = true ∨ classes.isSubclass second first = true := by
  rw [isSubclass_iff_reflTransGen rooted] at toFirst toSecond ⊢
  rw [isSubclass_iff_reflTransGen rooted]
  have single : Relator.RightUnique classes.Extends :=
    fun _ _ _ one other => Option.some.inj (one.symm.trans other)
  exact Relation.ReflTransGen.total_of_right_unique single toFirst toSecond

end Subclasses

/-! ### The search for an ancestor -/

/-- The search that goes from a class to its parent until it meets `upper` or finds no parent.
It has no answer if so many rounds do not end it. -/
def searchUp (classes : ClassTable) (upper : Name) : Nat → Name → Option Bool
  | 0, _ => none
  | rounds + 1, lower =>
    if lower = upper then some true
    else
      match classes.parent? lower with
      | none => some false
      | some parent => searchUp classes upper rounds parent

/-- The search ends within one round for each class of the line of ancestors. -/
theorem searchUp_eq_isSubclass {classes : ClassTable} (rooted : Rooted classes.declared)
    (upper : Name) {rounds : Nat} {lower : Name}
    (enough : (classes.lineage lower).length ≤ rounds) :
    classes.searchUp upper rounds lower = some (classes.isSubclass lower upper) := by
  induction rounds generalizing lower with
  | zero => exact absurd (List.length_pos_of_mem (classes.mem_lineage_self lower)) (by omega)
  | succ rounds inductionHypothesis =>
    rw [searchUp]
    by_cases met : lower = upper
    · rw [if_pos met, met, isSubclass_refl]
    · rw [if_neg met]
      cases extended : classes.parent? lower with
      | none =>
        rw [isSubclass, lineage_of_root extended]
        simp [Ne.symm met]
      | some parent =>
        rw [lineage_of_extends rooted extended, List.length_cons] at enough
        have below := isSubclass_of_extends rooted extended upper
        rw [or_iff_right (Ne.symm met)] at below
        rw [Bool.eq_iff_iff.2 below]
        exact inductionHypothesis (Nat.le_of_succ_le_succ enough)

/-- After every history the classes are a finite forest: each is declared once, each parent is
declared, and no class is its own ancestor. A search for an ancestor ends after at most one
round more than there are classes, and it answers whether parent steps lead there; any two
ancestors of a class are on one line. -/
theorem afterRequests_forest (history : List Declaration) :
    ((afterRequests history).declared.map (·.name)).Nodup ∧
      (∀ info ∈ (afterRequests history).declared, ∀ parent ∈ info.parent,
        (afterRequests history).contains parent = true) ∧
      (∀ name, ¬Relation.TransGen (afterRequests history).Extends name name) ∧
      (∀ lower upper,
        (∀ rounds, (afterRequests history).declared.length + 1 ≤ rounds →
          (afterRequests history).searchUp upper rounds lower =
            some ((afterRequests history).isSubclass lower upper)) ∧
        ((afterRequests history).isSubclass lower upper = true ↔
          Relation.ReflTransGen (afterRequests history).Extends lower upper)) ∧
      ∀ lower first second, (afterRequests history).isSubclass lower first = true →
        (afterRequests history).isSubclass lower second = true →
        (afterRequests history).isSubclass first second = true ∨
          (afterRequests history).isSubclass second first = true := by
  have rooted := rooted_afterRequests history
  refine ⟨rooted.nodup_names, fun info member parent extended => ?_, not_transGen_self rooted,
    fun lower upper => ⟨fun rounds enough => ?_, isSubclass_iff_reflTransGen rooted⟩,
    fun lower first second => isSubclass_total rooted⟩
  · exact contains_iff.2 (rooted.parent_mem info member parent extended)
  · exact searchUp_eq_isSubclass rooted upper
      (Nat.le_trans ((afterRequests history).length_lineage_le lower) enough)

/-- A class, a class below it, a class below that, and the first class once more, this time as a
subclass of the last. -/
def circularRequests : List Declaration :=
  let (_, shapeNames) := NameTable.start.intern "Shape"
  let (_, circleNames) := shapeNames.intern "Circle"
  let (_, discNames) := circleNames.intern "Disc"
  [⟨.start, "Shape", none⟩, ⟨shapeNames, "Circle", some ⟨1⟩⟩, ⟨circleNames, "Disc", some ⟨2⟩⟩,
    ⟨discNames, "Shape", some ⟨3⟩⟩]

/-- The last of these requests is refused, and the search that it would have led in a circle
ends. -/
theorem afterRequests_forest_circular :
    let classes := afterRequests circularRequests
    classes.declared = [⟨⟨3⟩, "Disc", some ⟨2⟩⟩, ⟨⟨2⟩, "Circle", some ⟨1⟩⟩, ⟨⟨1⟩, "Shape", none⟩] ∧
      classes.contains ⟨2⟩ = true ∧
      classes.searchUp ⟨3⟩ 4 ⟨1⟩ = some (classes.isSubclass ⟨1⟩ ⟨3⟩) ∧
      (classes.isSubclass ⟨1⟩ ⟨2⟩ = true ∨ classes.isSubclass ⟨2⟩ ⟨1⟩ = true) := by
  have declared : (afterRequests circularRequests).declared =
      [⟨⟨3⟩, "Disc", some ⟨2⟩⟩, ⟨⟨2⟩, "Circle", some ⟨1⟩⟩, ⟨⟨1⟩, "Shape", none⟩] := by cbv
  obtain ⟨-, known, -, searches, total⟩ := afterRequests_forest circularRequests
  have enough : (afterRequests circularRequests).declared.length + 1 ≤ 4 := by
    rw [declared]
    exact Nat.le_refl 4
  refine ⟨declared, known ⟨⟨3⟩, "Disc", some ⟨2⟩⟩ ?_ ⟨2⟩ rfl, (searches ⟨1⟩ ⟨3⟩).1 4 enough,
    total ⟨3⟩ ⟨1⟩ ⟨2⟩ (by cbv) (by cbv)⟩
  rw [declared]
  exact List.mem_cons_self

end ClassTable

end PatternDispatch
