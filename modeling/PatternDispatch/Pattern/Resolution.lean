/-
This file resolves written patterns. Each identifier is settled against the scope, and each
written form becomes its resolved form. The first defect of the tree is reported, a pattern
before its parts and parts from left to right; names that are bound twice are looked for
only in a tree without any other defect.
-/
import PatternDispatch.ClassTable
import PatternDispatch.Defect
import PatternDispatch.Pattern
import PatternDispatch.Pattern.Written
import PatternDispatch.Scope

namespace PatternDispatch

/-- What a pattern is resolved against. -/
structure Surroundings where
  names : NameTable
  scope : Scope
  classes : ClassTable

/-- The fewest and the most elements that a tuple pattern may have. -/
def leastTupleArity : Nat := 2

/-- The greatest number of elements that a tuple pattern may have. -/
def greatestTupleArity : Nat := 22

namespace Surroundings

/-- The pattern that compares with the present value of an immutable name. -/
def reference (surroundings : Surroundings) (name : Name) : Except Defect Pattern :=
  match surroundings.scope.find? name with
  | some ⟨value, .immutable⟩ => .ok (.stableReference name value)
  | some ⟨_, .mutable⟩ => .error (.unstableReference (surroundings.names.textOf name))
  | none => .error (.undefinedReference (surroundings.names.textOf name))

/-- A bare identifier: a reference if the scope knows it and a binder otherwise. -/
def identify (surroundings : Surroundings) (name : Name) : Except Defect Pattern :=
  match surroundings.scope.find? name with
  | none => .ok (.binder name)
  | some _ => surroundings.reference name

/-- A type test, all of whose classes have to be declared. -/
def typeTest (surroundings : Surroundings) (tag : Tag) : Except Defect Pattern :=
  match surroundings.classes.firstUndeclared tag with
  | none => .ok (.typeTest tag)
  | some className => .error (.unknownClass (surroundings.names.textOf className))

end Surroundings

/-! ### Arities -/

/-- A head needs a first element. -/
def checkHead (minimum : Nat) : Except Defect Unit :=
  if minimum = 0 then
    .error (.inconsistentArity "sequence head" 0 "a head needs at least one element")
  else .ok ()

/-- Refuses a tuple pattern with too few or too many elements. -/
def checkTuple (arity : Nat) : Except Defect Unit :=
  if leastTupleArity ≤ arity ∧ arity ≤ greatestTupleArity then .ok ()
  else .error (.inconsistentArity "tuple" arity "tuples have between 2 and 22 elements")

/-! ### Distinct names -/

/-- The first name that equals an earlier one; `earlier` holds the names passed by. -/
def firstRepeated (earlier : List Name) : List Name → Option Name
  | [] => none
  | name :: later => if name ∈ earlier then some name else firstRepeated (name :: earlier) later

theorem firstRepeated_eq_none_iff (earlier names : List Name) :
    firstRepeated earlier names = none ↔ names.Nodup ∧ ∀ name ∈ names, name ∉ earlier := by
  induction names generalizing earlier with
  | nil => simp [firstRepeated]
  | cons name later inductionHypothesis =>
    rw [firstRepeated]
    by_cases repeated : name ∈ earlier
    · simp [repeated]
    · rw [if_neg repeated, inductionHypothesis, List.nodup_cons, List.forall_mem_cons]
      simp only [List.mem_cons, not_or]
      constructor
      · rintro ⟨distinct, fresh⟩
        exact ⟨⟨fun member => (fresh name member).1 rfl, distinct⟩, repeated,
          fun other member => (fresh other member).2⟩
      · rintro ⟨⟨fresh, distinct⟩, -, others⟩
        exact ⟨distinct, fun other member =>
          ⟨fun same => fresh (same ▸ member), others other member⟩⟩

namespace WrittenPattern

/-! ### The tree -/

mutual

/-- The resolved form of each node, without regard to names that are bound twice. -/
def resolveNodes (surroundings : Surroundings) : WrittenPattern → Except Defect Pattern
  | wildcard => .ok .wildcard
  | identifier name => surroundings.identify name
  | binding name => .ok (.binder name)
  | stable name => surroundings.reference name
  | literal value => .ok (.literal value)
  | typed tag => surroundings.typeTest tag
  | sequence elements => do return .fixedSequence (← resolveEach surroundings elements)
  | sequenceHead head minimum => do
    checkHead minimum
    return .sequenceHead (← resolveNodes surroundings head) minimum
  | cons head tail => do
    return .headTail (← resolveNodes surroundings head) (← resolveNodes surroundings tail)
  | snoc init last => do
    return .initLast (← resolveNodes surroundings init) (← resolveNodes surroundings last)
  | emptySequence => .ok .emptySequence
  | tuple elements => do
    checkTuple elements.length
    return .tuple (← resolveEach surroundings elements)
  | named name inner => do return .bound name (← resolveNodes surroundings inner)
termination_by structural pattern => pattern

/-- Resolves the patterns in their order; the first defect ends it. -/
def resolveEach (surroundings : Surroundings) :
    List WrittenPattern → Except Defect (List Pattern)
  | [] => .ok []
  | pattern :: patterns => do
    return (← resolveNodes surroundings pattern) :: (← resolveEach surroundings patterns)

end

/-- The resolved pattern, in which no name is bound twice. -/
def resolve (surroundings : Surroundings) (written : WrittenPattern) : Except Defect Pattern := do
  let pattern ← written.resolveNodes surroundings
  match firstRepeated [] pattern.binders with
  | none => return pattern
  | some name => throw (.duplicateBinder (surroundings.names.textOf name))

theorem nodup_binders_of_resolve {surroundings : Surroundings}
    {written : WrittenPattern} {pattern : Pattern}
    (resolved : written.resolve surroundings = .ok pattern) : pattern.binders.Nodup := by
  unfold resolve at resolved
  cases nodes : written.resolveNodes surroundings with
  | error defect => rw [nodes] at resolved; cases resolved
  | ok tree =>
    rw [nodes] at resolved
    simp only [bind, Except.bind] at resolved
    cases repeated : firstRepeated [] tree.binders with
    | some name => rw [repeated] at resolved; cases resolved
    | none =>
      rw [repeated] at resolved
      cases resolved
      exact ((firstRepeated_eq_none_iff [] _).1 repeated).1

end WrittenPattern

end PatternDispatch
