/-
This file holds class hierarchies with single inheritance. A class is declared at most once
and after its parent, so the declarations, newest first, hold every class in front of its
ancestors: one pass over them finds the whole line of ancestors of a class.
-/
import PatternDispatch.Name.Table
import PatternDispatch.Tag
import PatternDispatch.Text.Quoted

namespace PatternDispatch

/-- A declared class: its name, its spelling and the class that it extends. -/
structure ClassInfo where
  name : Name
  display : String
  parent : Option Name
  deriving DecidableEq

/-- The declared classes, newest first. -/
structure ClassTable where
  declared : List ClassInfo
  deriving DecidableEq

/-- Why a class cannot be declared. -/
inductive ClassError where
  | undeclaredParent (parent : Name)
  | alreadyDeclared (display : String)
  deriving DecidableEq

/-- A request to declare a class, and the names that are known when it is made. -/
structure Declaration where
  names : NameTable
  display : String
  parent : Option Name

/-- Both tables as a request leaves them, and the answer to it. -/
structure Reply where
  names : NameTable
  classes : ClassTable
  answer : Except ClassError Name

namespace ClassTable

/-! ### Declarations -/

/-- The table without any class. -/
def empty : ClassTable := ⟨[]⟩

/-- What has been declared under a name. -/
def get? (classes : ClassTable) (name : Name) : Option ClassInfo :=
  classes.declared.find? fun info => info.name = name

/-- Whether a class has this name. -/
def contains (classes : ClassTable) (name : Name) : Bool := (classes.get? name).isSome

/-- Adds a class, unless it is known or its parent is not. The table comes back in either case. -/
def insert (classes : ClassTable) (info : ClassInfo) : ClassTable × Except ClassError Name :=
  if classes.contains info.name then (classes, .error (.alreadyDeclared info.display))
  else
    match info.parent with
    | none => (⟨info :: classes.declared⟩, .ok info.name)
    | some parent =>
      if classes.contains parent then (⟨info :: classes.declared⟩, .ok info.name)
      else (classes, .error (.undeclaredParent parent))

/-- Asks for a class to be declared. The spelling is interned before anything is checked. -/
def request (classes : ClassTable) (declaration : Declaration) : Reply :=
  let (name, names) := declaration.names.intern declaration.display
  let (classes, answer) := classes.insert ⟨name, names.textOf name, declaration.parent⟩
  ⟨names, classes, answer⟩

/-- Declares the class spelled `display`, for a caller that goes on with the table of classes only
if the request is accepted. -/
def declare (classes : ClassTable) (names : NameTable) (display : String)
    (parent : Option Name) : NameTable × Except ClassError (Name × ClassTable) :=
  let reply := classes.request ⟨names, display, parent⟩
  (reply.names, reply.answer.map fun name => (name, reply.classes))

/-! ### Subclasses and subtypes -/

/-- The ancestors of a class among `declared`, from the class itself upwards. -/
def ancestors : List ClassInfo → Name → List Name
  | [], name => [name]
  | info :: older, name =>
    if info.name = name then
      match info.parent with
      | none => [name]
      | some parent => name :: ancestors older parent
    else ancestors older name

/-- The class itself, its parent, the parent of that, and so on. -/
def lineage (classes : ClassTable) (name : Name) : List Name := ancestors classes.declared name

/-- Whether `upper` is `lower` or one of its ancestors; a name that is not declared is a
subclass of itself only. -/
def isSubclass (classes : ClassTable) (lower upper : Name) : Bool :=
  upper ∈ classes.lineage lower

/-- Declared subtyping; all containers are covariant. -/
def isSubtype (classes : ClassTable) : Tag → Tag → Bool
  | _, .any => true
  | .int, .number | .float, .number => true
  | .seq lower, .seq upper | .array lower, .array upper => isSubtype classes lower upper
  | .map lowerKey lowerValue, .map upperKey upperValue =>
    isSubtype classes lowerKey upperKey && isSubtype classes lowerValue upperValue
  | .object lower, .object upper => classes.isSubclass lower upper
  | lower, upper => lower = upper

/-- The first class of a tag that is not declared. -/
def firstUndeclared (classes : ClassTable) : Tag → Option Name
  | .object name => if classes.contains name then none else some name
  | .seq element | .array element => firstUndeclared classes element
  | .map key value => (firstUndeclared classes key).or (firstUndeclared classes value)
  | _ => none

/-! ### Description -/

/-- The text of a tag, with classes by their spelling. -/
def describe (classes : ClassTable) : Tag → String
  | .any => "Any"
  | .unit => "Unit"
  | .bool => "Bool"
  | .int => "Int"
  | .float => "Float"
  | .number => "Number"
  | .char => "Char"
  | .str => "Str"
  | .seq element => "Seq[" ++ describe classes element ++ "]"
  | .array element => "Array[" ++ describe classes element ++ "]"
  | .map key value => "Map[" ++ describe classes key ++ ", " ++ describe classes value ++ "]"
  | .tuple arity => "Tuple" ++ toString arity
  | .object name =>
    match classes.get? name with
    | some info => info.display
    | none => "<class #" ++ toString name.raw ++ ">"

end ClassTable

namespace ClassError

/-- The text of the error. -/
def message : ClassError → String
  | undeclaredParent parent => "parent class " ++ parent.inspect ++ " is not declared"
  | alreadyDeclared display => "class `" ++ display ++ "` is already declared"

/-- The name of the kind of error. -/
def kind : ClassError → String
  | undeclaredParent _ => "UndeclaredParent"
  | alreadyDeclared _ => "AlreadyDeclared"

/-- The error as a constructor with its argument. -/
def inspect (error : ClassError) : String :=
  Text.applied error.kind <|
    match error with
    | undeclaredParent parent => [parent.inspect]
    | alreadyDeclared display => [Text.quoted display]

end ClassError

end PatternDispatch
