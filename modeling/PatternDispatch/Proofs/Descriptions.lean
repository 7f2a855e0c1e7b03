/-
This file proves that descriptions of tags are unambiguous as long as no class has a spelling of its
own. Such a description can be read back without the table: its first characters tell the kind of
the tag, brackets tell where a part ends, and a number ends where its digits do. A reader that goes
by these rules undoes every description, whatever stands behind it, so no two tags share one. What a
dispatcher reports about a tag is the description and nothing else; so equal texts in warnings,
notices and failures are about equal tags.
-/
import Mathlib.Data.Nat.Digits.Defs
import PatternDispatch.Proofs.Concatenation
import PatternDispatch.Proofs.WellFormed

namespace PatternDispatch

/-! ### Reading back -/

/-- No digit at the front of this text can be taken for a part of a number in front of it. -/
def EndsNumber (text : List Char) : Prop := ∀ character ∈ text.head?, character.isDigit = false

/-- The number in decimal at the front of a text, and what stands behind it. -/
def readNumber (text : List Char) : Nat × List Char :=
  (Nat.ofDigitChars 10 (text.takeWhile Char.isDigit) 0, text.dropWhile Char.isDigit)

theorem readNumber_toString (number : Nat) {rest : List Char} (ends : EndsNumber rest) :
    readNumber ((toString number).toList ++ rest) = (number, rest) := by
  have digits : ∀ character ∈ Nat.toDigits 10 number, character.isDigit = true :=
    fun character member => Nat.isDigit_of_mem_toDigits (by decide) (by decide) member
  have none : rest.takeWhile Char.isDigit = [] ∧ rest.dropWhile Char.isDigit = rest := by
    cases rest with
    | nil => exact ⟨rfl, rfl⟩
    | cons character later =>
      have stop : ¬character.isDigit = true := Bool.eq_false_iff.1 (ends character rfl)
      exact ⟨List.takeWhile_cons_of_neg stop, List.dropWhile_cons_of_neg stop⟩
  rw [readNumber, show (toString number).toList = Nat.toDigits 10 number from Nat.toList_repr,
    List.takeWhile_append_of_pos digits, List.dropWhile_append_of_pos digits, none.1, none.2,
    List.append_nil, Nat.ofDigitChars_toDigits (by decide) (by decide)]

/-- Takes off the mark that has to stand behind what was read. -/
def upTo? {Read : Type} (mark : Char) : Option (Read × List Char) → Option (Read × List Char)
  | some (content, character :: rest) => if character = mark then some (content, rest) else none
  | _ => none

theorem upTo?_of_eq_some {Read : Type} {mark : Char} {read : Option (Read × List Char)}
    {content : Read} {rest : List Char} (found : read = some (content, mark :: rest)) :
    upTo? mark read = some (content, rest) := by
  rw [found]
  exact if_pos rfl

namespace Tag

/-- How deep tags are nested in this one. -/
def nesting : Tag → Nat
  | seq element | array element => element.nesting + 1
  | map key value => max key.nesting value.nesting + 1
  | _ => 0

/-- Reads a tag off the front of a text, with fewer than `depth` levels of nesting. -/
def read? : Nat → List Char → Option (Tag × List Char)
  | 0, _ => none
  | depth + 1, text =>
    match text with
    | 'A' :: 'n' :: 'y' :: rest => some (any, rest)
    | 'U' :: 'n' :: 'i' :: 't' :: rest => some (unit, rest)
    | 'B' :: 'o' :: 'o' :: 'l' :: rest => some (bool, rest)
    | 'I' :: 'n' :: 't' :: rest => some (int, rest)
    | 'F' :: 'l' :: 'o' :: 'a' :: 't' :: rest => some (float, rest)
    | 'N' :: 'u' :: 'm' :: 'b' :: 'e' :: 'r' :: rest => some (number, rest)
    | 'C' :: 'h' :: 'a' :: 'r' :: rest => some (char, rest)
    | 'S' :: 't' :: 'r' :: rest => some (str, rest)
    | 'S' :: 'e' :: 'q' :: '[' :: inner => (upTo? ']' (read? depth inner)).map (Prod.map seq id)
    | 'A' :: 'r' :: 'r' :: 'a' :: 'y' :: '[' :: inner =>
      (upTo? ']' (read? depth inner)).map (Prod.map array id)
    | 'M' :: 'a' :: 'p' :: '[' :: inner => do
      let (key, behind) ← upTo? ' ' (upTo? ',' (read? depth inner))
      (upTo? ']' (read? depth behind)).map (Prod.map (map key) id)
    | 'T' :: 'u' :: 'p' :: 'l' :: 'e' :: inner => some (Prod.map tuple id (readNumber inner))
    | '<' :: 'c' :: 'l' :: 'a' :: 's' :: 's' :: ' ' :: '#' :: inner =>
      (upTo? '>' (some (readNumber inner))).map (Prod.map (object ⟨·⟩) id)
    | _ => none

section Rules

variable {depth : Nat} {text rest : List Char}

theorem read?_seq {element : Tag} (inner : read? depth text = some (element, ']' :: rest)) :
    read? (depth + 1) ("Seq[".toList ++ text) = some (seq element, rest) :=
  congrArg (Option.map (Prod.map seq id)) (upTo?_of_eq_some inner)

theorem read?_array {element : Tag} (inner : read? depth text = some (element, ']' :: rest)) :
    read? (depth + 1) ("Array[".toList ++ text) = some (array element, rest) :=
  congrArg (Option.map (Prod.map array id)) (upTo?_of_eq_some inner)

theorem read?_map {key value : Tag} {behind : List Char}
    (first : read? depth text = some (key, ',' :: ' ' :: behind))
    (second : read? depth behind = some (value, ']' :: rest)) :
    read? (depth + 1) ("Map[".toList ++ text) = some (map key value, rest) := by
  show (do
    let (key, behind) ← upTo? ' ' (upTo? ',' (read? depth text))
    (upTo? ']' (read? depth behind)).map (Prod.map (map key) id)) = some (map key value, rest)
  rw [upTo?_of_eq_some (upTo?_of_eq_some first)]
  exact congrArg (Option.map (Prod.map (map key) id)) (upTo?_of_eq_some second)

theorem read?_tuple {arity : Nat} (inner : readNumber text = (arity, rest)) :
    read? (depth + 1) ("Tuple".toList ++ text) = some (tuple arity, rest) :=
  congrArg (fun read => some (Prod.map tuple id read)) inner

theorem read?_object {raw : Nat} (inner : readNumber text = (raw, '>' :: rest)) :
    read? (depth + 1) ("<class #".toList ++ text) = some (object ⟨raw⟩, rest) :=
  congrArg (Option.map (Prod.map (object ⟨·⟩) id)) (upTo?_of_eq_some (congrArg some inner))

end Rules

end Tag

namespace ClassTable

/-- No class that the tag mentions is declared. -/
def DeclaresNone (classes : ClassTable) (tag : Tag) : Prop :=
  ∀ name ∈ tag.classNames, classes.contains name = false

instance (classes : ClassTable) (tag : Tag) : Decidable (classes.DeclaresNone tag) :=
  inferInstanceAs (Decidable (∀ name ∈ tag.classNames, classes.contains name = false))

theorem describe_undeclared {classes : ClassTable} {name : Name}
    (unknown : classes.contains name = false) :
    classes.describe (.object name) = "<class #" ++ toString name.raw ++ ">" := by
  rw [contains, Option.isSome_eq_false_iff, Option.isNone_iff_eq_none] at unknown
  rw [describe, unknown]

/-- A description is read back as the tag, and the reader stops right behind it. -/
theorem read?_describe {classes : ClassTable} {tag : Tag} (unknown : classes.DeclaresNone tag)
    {depth : Nat} (deep : tag.nesting ≤ depth) {rest : List Char} (ends : EndsNumber rest) :
    Tag.read? (depth + 1) ((classes.describe tag).toList ++ rest) = some (tag, rest) := by
  -- What stands behind a part, a bracket or a comma, is never a digit.
  have stops (character : Char) (behind : List Char) (stop : character.isDigit = false) :
      EndsNumber (character :: behind) := by
    rintro _ ⟨⟩
    exact stop
  induction tag generalizing depth rest with
  | any | unit | bool | int | float | number | char | str =>
    rw [describe]
    rfl
  | seq element inductionHypothesis =>
    obtain ⟨levels, rfl⟩ := Nat.exists_eq_add_of_le' deep
    have inner := inductionHypothesis unknown (Nat.le_add_left _ levels) (stops ']' rest rfl)
    rw [describe]
    simp only [String.toList_append, List.append_assoc]
    exact Tag.read?_seq inner
  | array element inductionHypothesis =>
    obtain ⟨levels, rfl⟩ := Nat.exists_eq_add_of_le' deep
    have inner := inductionHypothesis unknown (Nat.le_add_left _ levels) (stops ']' rest rfl)
    rw [describe]
    simp only [String.toList_append, List.append_assoc]
    exact Tag.read?_array inner
  | map key value inKey inValue =>
    obtain ⟨levels, rfl⟩ := Nat.exists_eq_add_of_le' deep
    obtain ⟨keyDeep, valueDeep⟩ :=
      Nat.max_le.1 (Nat.le_add_left (max key.nesting value.nesting) levels)
    have second := inValue (fun name member => unknown name (List.mem_append_right _ member))
      valueDeep (stops ']' rest rfl)
    have first := inKey (fun name member => unknown name (List.mem_append_left _ member))
      keyDeep (stops ',' (' ' :: ((classes.describe value).toList ++ ']' :: rest)) rfl)
    rw [describe]
    simp only [String.toList_append, List.append_assoc]
    exact Tag.read?_map first second
  | tuple arity =>
    rw [describe, String.toList_append, List.append_assoc]
    exact Tag.read?_tuple (readNumber_toString arity ends)
  | object name =>
    rw [describe_undeclared (unknown name (List.mem_singleton_self name)), String.toList_append,
      String.toList_append, List.append_assoc, List.append_assoc]
    exact Tag.read?_object (readNumber_toString name.raw (stops '>' rest rfl))

/-- Tags with undeclared classes only have one description each. -/
theorem describe_inj {classes : ClassTable} {first second : Tag}
    (firstUnknown : classes.DeclaresNone first) (secondUnknown : classes.DeclaresNone second) :
    classes.describe first = classes.describe second ↔ first = second := by
  refine ⟨fun same => ?_, congrArg classes.describe⟩
  have ends : EndsNumber [] := nofun
  have one := read?_describe firstUnknown (Nat.le_max_left first.nesting second.nesting) ends
  have other := read?_describe secondUnknown (Nat.le_max_right first.nesting second.nesting) ends
  rw [same, other] at one
  cases one
  rfl

end ClassTable

/-! ### Reports -/

variable {Result : Type}

namespace Dispatcher

/-- A clause that accepts some subject gives the notice for the erased test in the same place. -/
def GivesNotice (dispatcher : Dispatcher Result) (erasure : Erasure) (notice : ErasureNotice) :
    Prop :=
  ∃ (index : Nat) (clause : CompiledClause Result) (subject : Value) (capture : Capture)
    (place : Nat), dispatcher.clauses[index]? = some clause ∧
      clause.pattern.extract dispatcher.classes subject = some capture ∧
      capture.erasures[place]? = some erasure ∧
      (clause.pattern.attempt dispatcher.classes index subject).notices[place]? = some notice

/-- The dispatcher shows the text in a report about the tag. -/
inductive Reports (dispatcher : Dispatcher Result) : Tag → String → Prop
  /-- In a warning, about the unchecked type test in the same place. -/
  | warning {place : Nat} {tag : Tag} {test : UncheckedTest}
    (unchecked : (dispatcher.patterns.flatMap Pattern.uncheckedTags)[place]? = some tag)
    (warned : dispatcher.warnings[place]? = some test) : dispatcher.Reports tag test.tag
  /-- In a notice, about the tag that was asked for. -/
  | expected {erasure : Erasure} {notice : ErasureNotice}
    (given : dispatcher.GivesNotice erasure notice) :
    dispatcher.Reports erasure.expected notice.expected
  /-- In a notice, about the tag that the tested value showed. -/
  | shown {erasure : Erasure} {notice : ErasureNotice}
    (given : dispatcher.GivesNotice erasure notice) :
    dispatcher.Reports erasure.shown notice.shown
  /-- In a failure for want of an accepting clause, about the tag of the subject. -/
  | unaccepted {subject : Value} {text : String} {tried : Nat}
    (failed : (dispatcher.evaluate subject).result = .error (.noClauseAccepted text tried)) :
    dispatcher.Reports subject.tag text

variable {dispatcher : Dispatcher Result}

theorem map_tag_uncheckedFrom (classes : ClassTable) (index : Nat)
    (clauses : List (CompiledClause Result)) :
    (uncheckedFrom classes index clauses).map (·.tag) =
      ((clauses.map (·.pattern)).flatMap Pattern.uncheckedTags).map classes.describe := by
  induction clauses generalizing index with
  | nil => rfl
  | cons clause later inductionHypothesis =>
    rw [uncheckedFrom_cons, List.map_append, inductionHypothesis, List.map_cons,
      List.flatMap_cons, List.map_append, CompiledClause.uncheckedTests, List.map_map]
    rfl

theorem GivesNotice.texts {erasure : Erasure} {notice : ErasureNotice}
    (given : dispatcher.GivesNotice erasure notice) :
    notice.expected = dispatcher.classes.describe erasure.expected ∧
      notice.shown = dispatcher.classes.describe erasure.shown := by
  obtain ⟨index, clause, subject, capture, place, -, found, erased, noticed⟩ := given
  have notices : (clause.pattern.attempt dispatcher.classes index subject).notices =
      capture.erasures.map fun erasure => erasure.notice dispatcher.classes index := by
    rw [Pattern.attempt, found]
  rw [notices, List.getElem?_map, erased] at noticed
  cases noticed
  exact ⟨rfl, rfl⟩

theorem text_of_noClauseAccepted {subject : Value} {text : String} {tried : Nat}
    (failed : (dispatcher.evaluate subject).result = .error (.noClauseAccepted text tried)) :
    text = dispatcher.classes.describe subject.tag := by
  obtain ⟨position, clause, bindings, settled⟩ | passed :=
    dispatcher.firstSettled_or_passes subject
  · exact absurd failed (result_ne_noClauseAccepted settled text tried)
  · rw [evaluate_of_exhausted passed] at failed
    cases failed
    rfl

/-- Whatever a dispatcher reports about a tag, it shows the description of the tag. -/
theorem Reports.text_eq {surroundings : Surroundings} {observer : Observer}
    {clauses : List (Clause Result)} (built : dispatcher.BuiltFrom surroundings observer clauses)
    {tag : Tag} {text : String} (reports : dispatcher.Reports tag text) :
    text = surroundings.classes.describe tag := by
  rw [← built.classes]
  cases reports with
  | @warning place tag test unchecked warned =>
    have texts := map_tag_uncheckedFrom dispatcher.classes 0 dispatcher.clauses
    rw [← built.warnings] at texts
    have inPlace := congrArg (·[place]?) texts
    rw [List.getElem?_map, List.getElem?_map, warned] at inPlace
    rw [patterns] at unchecked
    rw [unchecked] at inPlace
    exact Option.some.inj inPlace
  | expected given => exact given.texts.1
  | shown given => exact given.texts.2
  | unaccepted failed => exact text_of_noClauseAccepted failed

end Dispatcher

namespace ClassTable

/-- As long as their classes are undeclared, different tags have different descriptions, however
they are nested. So two warnings, notices or failures of dispatchers over the same classes that show
the same text for such tags are about the same tag. -/
theorem descriptions_are_unambiguous (classes : ClassTable) :
    (∀ first second, classes.DeclaresNone first → classes.DeclaresNone second →
      (classes.describe first = classes.describe second ↔ first = second)) ∧
    ∀ {Result Other : Type} {surroundings others : Surroundings} {observer watcher : Observer}
      {clauses : List (Clause Result)} {later : List (Clause Other)}
      {dispatcher : Dispatcher Result} {other : Dispatcher Other},
      (Dispatcher.build surroundings observer clauses).outcome = .ok dispatcher →
      (Dispatcher.build others watcher later).outcome = .ok other →
      surroundings.classes = classes → others.classes = classes →
      ∀ {first second text otherText}, dispatcher.Reports first text →
        other.Reports second otherText → classes.DeclaresNone first →
        classes.DeclaresNone second → (text = otherText ↔ first = second) := by
  refine ⟨fun first second => describe_inj, ?_⟩
  intro Result Other surroundings others observer watcher clauses later dispatcher other built
    builtOther rfl sameClasses first second text otherText reports otherReports unknown otherUnknown
  rw [reports.text_eq (Dispatcher.builtFrom_of_build built),
    otherReports.text_eq (Dispatcher.builtFrom_of_build builtOther), sameClasses]
  exact describe_inj unknown otherUnknown

/-- The numbers in the two tags have the same digits in the same order, and each ends where its own
does. The class that is called `Int` shows why only undeclared classes count. -/
theorem descriptions_are_unambiguous_long :
    let classes : ClassTable := ⟨[⟨⟨3⟩, "Int", none⟩]⟩
    let surroundings : Surroundings := ⟨.start, .start, classes⟩
    let first : Tag := .map (.array (.object ⟨1⟩)) (.tuple 12)
    let second : Tag := .map (.array (.object ⟨11⟩)) (.tuple 2)
    let tested : Tag := .array (.seq .int)
    let subject : Value := .array (.seq .int) (.whole 0 [])
    let warning : Dispatcher Nat := ⟨[⟨.typeTest tested, none, [], fun _ => .ok 5⟩], classes,
      .recorder, [⟨0, "Array[Seq[Int]]"⟩]⟩
    let refusing : Dispatcher Nat := ⟨[⟨.literal .unit, none, [], fun _ => .ok 7⟩], classes,
      .silent, []⟩
    (classes.DeclaresNone first ∧ classes.DeclaresNone second ∧
        classes.describe first ≠ classes.describe second) ∧
      ((Dispatcher.build surroundings .recorder [.returning (.typed tested) 5]).outcome =
          .ok warning ∧
        (Dispatcher.build surroundings .silent [.returning (.literal .unit) 7]).outcome =
          .ok refusing ∧
        warning.Reports tested "Array[Seq[Int]]" ∧
        refusing.Reports subject.tag "Array[Seq[Int]]" ∧
        classes.DeclaresNone tested ∧ classes.DeclaresNone subject.tag ∧ tested = subject.tag) ∧
      classes.describe (.object ⟨3⟩) = classes.describe .int := by
  intro classes surroundings first second tested subject warning refusing
  have firstUnknown : classes.DeclaresNone first := by decide
  have secondUnknown : classes.DeclaresNone second := by decide
  obtain ⟨injective, reported⟩ := descriptions_are_unambiguous classes
  refine ⟨⟨firstUnknown, secondUnknown, ?_⟩, ?_, rfl⟩
  · rw [ne_eq, injective first second firstUnknown secondUnknown]
    decide
  · have built : (Dispatcher.build surroundings .recorder
      [.returning (.typed tested) 5]).outcome = .ok warning := rfl
    have builtOther : (Dispatcher.build surroundings .silent
      [.returning (.literal .unit) 7]).outcome = .ok refusing := rfl
    have warned : warning.Reports tested "Array[Seq[Int]]" :=
      @Dispatcher.Reports.warning _ warning 0 tested ⟨0, "Array[Seq[Int]]"⟩ rfl rfl
    have failed : refusing.Reports subject.tag "Array[Seq[Int]]" :=
      @Dispatcher.Reports.unaccepted _ refusing subject _ 1 rfl
    have unknown : classes.DeclaresNone tested := by decide
    have otherUnknown : classes.DeclaresNone subject.tag := by decide
    have same := (reported built builtOther rfl rfl warned failed unknown otherUnknown).1 rfl
    exact ⟨built, builtOther, warned, failed, unknown, otherUnknown, same⟩

end ClassTable

end PatternDispatch
