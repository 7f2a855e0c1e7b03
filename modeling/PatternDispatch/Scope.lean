/-
This file holds lexical scopes: a nonempty stack of frames, the innermost first. A frame
keeps its definitions newest first, and a name means its newest definition in the innermost
frame that defines it.
-/
import PatternDispatch.Value

namespace PatternDispatch

/-- Whether a definition may be assigned again. -/
inductive Mutability where
  | mutable
  | immutable
  deriving DecidableEq

namespace Mutability

/-- Whether the definition may be assigned again. -/
def isMutable (mutability : Mutability) : Bool := mutability = mutable

/-- The constructor of the mutability. -/
def inspect : Mutability → String
  | mutable => "Mutable"
  | immutable => "Immutable"

end Mutability

/-- What a name stands for in a scope. -/
structure Definition where
  value : Value
  mutability : Mutability

/-- The definitions of one block, newest first. -/
abbrev Frame := List (Name × Definition)

/-- The frames around a place in the program. -/
structure Scope where
  innermost : Frame
  /-- The frames around the innermost one, from the inside out. -/
  enclosing : List Frame

namespace Scope

/-- The outermost frame alone, without definitions. -/
def start : Scope := ⟨[], []⟩

/-- Enters a block. -/
def push (scope : Scope) : Scope := ⟨[], scope.innermost :: scope.enclosing⟩

/-- Leaves a block; the outermost frame stays. -/
def pop (scope : Scope) : Scope :=
  match scope.enclosing with
  | [] => scope
  | frame :: outer => ⟨frame, outer⟩

/-- The number of frames, which is never zero. -/
def depth (scope : Scope) : Nat := scope.enclosing.length + 1

/-- Defines a name in the innermost frame. -/
def define (scope : Scope) (name : Name) (value : Value) (mutability : Mutability) : Scope :=
  { scope with innermost := (name, ⟨value, mutability⟩) :: scope.innermost }

/-- The newest definition of a name in one frame. -/
def findIn (name : Name) (frame : Frame) : Option Definition :=
  (frame.find? fun entry => entry.1 = name).map Prod.snd

/-- The definition that a name stands for. -/
def find? (scope : Scope) (name : Name) : Option Definition :=
  (scope.innermost :: scope.enclosing).findSome? (findIn name)

/-- The value that a name stands for, mutable or not. -/
def valueOf? (scope : Scope) (name : Name) : Option Value := (scope.find? name).map (·.value)

end Scope

end PatternDispatch
