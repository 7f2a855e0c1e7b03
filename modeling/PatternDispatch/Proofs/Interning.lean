/-
This file proves that interning is a bijection that never changes. The table grows at its end
only, and only by a text that it does not hold yet, so the two directions stay inverse to each
other and a name keeps its text in every later table. Names run out only after as many
different texts as there are names.
-/
import Mathlib.Data.Finset.Card
import PatternDispatch.Name.Table

namespace PatternDispatch.NameTable

variable {table : NameTable} {text : String}

/-! ### One call -/

theorem intern_of_known {position : Nat} (known : table.positions[text]? = some position) :
    table.intern text = (⟨position⟩, table) := by
  rw [intern, known]

theorem intern_of_new (new : table.positions[text]? = none) :
    table.intern text =
      (⟨table.size⟩, ⟨table.positions.insert text table.size, table.texts.push text⟩) := by
  rw [intern, new]

/-- A call finds the text, or it puts the text behind all others. -/
theorem intern_cases (table : NameTable) (text : String) :
    (∃ position, table.positions[text]? = some position ∧
        table.intern text = (⟨position⟩, table)) ∨
      (table.positions[text]? = none ∧ table.intern text =
        (⟨table.size⟩, ⟨table.positions.insert text table.size, table.texts.push text⟩)) := by
  cases found : table.positions[text]? with
  | some position => exact .inl ⟨position, rfl, intern_of_known found⟩
  | none => exact .inr ⟨rfl, intern_of_new found⟩

/-- Texts and positions determine each other, and the empty text is the first. -/
structure Consistent (table : NameTable) : Prop where
  inverse : ∀ (text : String) (position : Nat),
    table.positions[text]? = some position ↔ table.texts[position]? = some text
  first : table.texts[0]? = some ""

theorem consistent_start : Consistent start := by
  refine ⟨fun text position => ?_, rfl⟩
  show (Std.HashMap.emptyWithCapacity.insert "" 0)[text]? = some position ↔
    #[""][position]? = some text
  rw [Std.HashMap.getElem?_insert]
  rcases position with _ | position <;> by_cases empty : "" = text <;> simp [empty]

namespace Consistent

variable (consistent : Consistent table)

include consistent

theorem intern (text : String) : Consistent (table.intern text).2 := by
  obtain ⟨position, -, same⟩ | ⟨new, grown⟩ := table.intern_cases text
  · rwa [same]
  · rw [grown]
    have old (position : Nat) (other : String) : (table.texts.push text)[position]? = some other ↔
        position = table.size ∧ text = other ∨ table.texts[position]? = some other := by
      rw [Array.getElem?_push]
      by_cases last : position = table.texts.size <;> simp [size, last]
    refine ⟨fun other position => ?_, (old 0 "").2 (.inr consistent.first)⟩
    show (table.positions.insert text table.size)[other]? = some position ↔
      (table.texts.push text)[position]? = some other
    rw [Std.HashMap.getElem?_insert, old, ← consistent.inverse]
    by_cases same : text = other
    · subst same
      simp [new, eq_comm]
    · simp [same]

/-- The name of a call belongs to the text that was asked for. -/
theorem texts_of_intern (text : String) :
    (table.intern text).2.texts[(table.intern text).1.raw]? = some text := by
  obtain ⟨position, known, same⟩ | ⟨-, grown⟩ := table.intern_cases text
  · rw [same]
    exact (consistent.inverse text position).1 known
  · rw [grown]
    exact Array.getElem?_push_size

end Consistent

theorem texts_intern {position : Nat} {held : String}
    (found : table.texts[position]? = some held) (text : String) :
    (table.intern text).2.texts[position]? = some held := by
  obtain ⟨_, -, same⟩ | ⟨-, grown⟩ := table.intern_cases text
  · rwa [same]
  · obtain ⟨inside, -⟩ := Array.getElem?_eq_some_iff.1 found
    rw [grown]
    show (table.texts.push text)[position]? = some held
    rwa [Array.getElem?_push, if_neg (Nat.ne_of_lt inside)]

theorem positions_intern_eq_none_iff (table : NameTable) (text other : String) :
    (table.intern text).2.positions[other]? = none ↔
      text ≠ other ∧ table.positions[other]? = none := by
  obtain ⟨position, known, same⟩ | ⟨-, grown⟩ := table.intern_cases text
  · rw [same, iff_and_self]
    rintro new rfl
    exact nomatch known.symm.trans new
  · rw [grown]
    show (table.positions.insert text table.size)[other]? = none ↔ _
    rw [Std.HashMap.getElem?_insert]
    by_cases asked : text = other <;> simp [asked]

/-! ### Histories of calls -/

/-- The table after interning texts one after another. -/
def internEach (table : NameTable) (texts : List String) : NameTable :=
  texts.foldl (fun table text => (table.intern text).2) table

/-- The table after a history of calls. -/
def after (history : List String) : NameTable := start.internEach history

theorem after_append (earlier later : List String) :
    after (earlier ++ later) = (after earlier).internEach later :=
  List.foldl_append

theorem after_concat (history : List String) (text : String) :
    after (history ++ [text]) = ((after history).intern text).2 :=
  after_append history [text]

theorem consistent_after (history : List String) : Consistent (after history) := by
  induction history using List.reverseRecOn with
  | nil => exact consistent_start
  | append_singleton history text inductionHypothesis =>
    rw [after_concat]
    exact inductionHypothesis.intern text

theorem texts_internEach {position : Nat} {held : String} (texts : List String)
    (found : table.texts[position]? = some held) :
    (table.internEach texts).texts[position]? = some held := by
  induction texts generalizing table with
  | nil => exact found
  | cons text texts inductionHypothesis => exact inductionHypothesis (texts_intern found text)

/-- A table knows the empty text and what was asked for, nothing else. -/
theorem positions_after_eq_none_iff (history : List String) (text : String) :
    (after history).positions[text]? = none ↔ text ∉ "" :: history := by
  induction history using List.reverseRecOn with
  | nil =>
    show (Std.HashMap.emptyWithCapacity.insert "" 0)[text]? = none ↔ text ∉ [""]
    rw [Std.HashMap.getElem?_insert]
    by_cases empty : "" = text <;> simp [empty, eq_comm (a := text)]
  | append_singleton history asked inductionHypothesis =>
    rw [after_concat, positions_intern_eq_none_iff, inductionHypothesis]
    simp only [List.mem_cons, List.mem_append, List.not_mem_nil, or_false, not_or]
    tauto

/-- A known text changes nothing. -/
theorem intern_after_of_mem {history : List String} (known : text ∈ "" :: history) :
    ((after history).intern text).2 = after history := by
  obtain ⟨position, -, same⟩ | ⟨new, -⟩ := (after history).intern_cases text
  · rw [same]
  · exact absurd known ((positions_after_eq_none_iff history text).1 new)

/-- A new text gets the name behind all others. -/
theorem intern_after_of_notMem {history : List String} (new : text ∉ "" :: history) :
    ((after history).intern text).1 = ⟨(after history).size⟩ ∧
      ((after history).intern text).2.size = (after history).size + 1 := by
  rw [intern_of_new ((positions_after_eq_none_iff history text).2 new)]
  exact ⟨rfl, Array.size_push _⟩

/-- A table holds each text that it knows once. -/
theorem size_after (history : List String) :
    (after history).size = ("" :: history).toFinset.card := by
  induction history using List.reverseRecOn with
  | nil => rfl
  | append_singleton history text inductionHypothesis =>
    have asked : ("" :: (history ++ [text])).toFinset = insert text ("" :: history).toFinset := by
      ext other
      simp [or_left_comm]
    rw [after_concat, asked]
    by_cases known : text ∈ "" :: history
    · rw [intern_after_of_mem known, Finset.insert_eq_of_mem (List.mem_toFinset.2 known),
        inductionHypothesis]
    · rw [(intern_after_of_notMem known).2, inductionHypothesis,
        Finset.card_insert_of_notMem (List.mem_toFinset.not.2 known)]

/-! ### Calls at different times -/

/-- The name that a call for `text` gets at this point of a history. -/
def nameAt (history : List String) (point : Nat) (text : String) : Name :=
  ((after (history.take point)).intern text).1

theorem take_succ_of_asked {history : List String} {point : Nat}
    (asked : history[point]? = some text) :
    history.take (point + 1) = history.take point ++ [text] := by
  rw [List.take_add_one, asked, Option.toList_some]

/-- The next table of a history is the one that the call leaves. -/
theorem after_take_succ {history : List String} {point : Nat}
    (asked : history[point]? = some text) :
    after (history.take (point + 1)) = ((after (history.take point)).intern text).2 := by
  rw [take_succ_of_asked asked, after_concat]

/-- Every table behind a call holds the text that was asked for, under the name of the call. -/
theorem texts_nameAt {history : List String} {point later : Nat}
    (asked : history[point]? = some text) (behind : point < later) :
    (after (history.take later)).texts[(nameAt history point text).raw]? = some text := by
  obtain ⟨between, rfl⟩ := Nat.exists_eq_add_of_le behind
  have upTo : history.take (point + 1 + between) =
      (history.take point ++ [text]) ++ (history.drop (point + 1)).take between := by
    rw [List.take_add, take_succ_of_asked asked]
  rw [upTo, after_append, after_concat]
  exact texts_internEach _ ((consistent_after _).texts_of_intern text)

/-- At the end of a history each of its calls has left its text. -/
theorem texts_after {history : List String} {point : Nat} (asked : history[point]? = some text) :
    (after history).texts[(nameAt history point text).raw]? = some text := by
  have held := texts_nameAt asked (List.getElem?_eq_some_iff.1 asked).1
  rwa [List.take_length] at held

theorem textOf_nameAt {history : List String} {point later : Nat}
    (asked : history[point]? = some text) (behind : point < later) :
    (after (history.take later)).textOf (nameAt history point text) = text := by
  rw [textOf, texts_nameAt asked behind, Option.getD_some]

/-- Calls are answered alike exactly if they ask for the same text. -/
theorem nameAt_eq_iff {history : List String} {first second : Nat} {text other : String}
    (asked : history[first]? = some text) (otherAsked : history[second]? = some other) :
    nameAt history first text = nameAt history second other ↔ text = other := by
  have held := texts_after asked
  have otherHeld := texts_after otherAsked
  constructor
  · intro same
    rw [same, otherHeld] at held
    exact (Option.some.inj held).symm
  · rintro rfl
    rw [← (consistent_after history).inverse] at held otherHeld
    exact congrArg Name.mk (Option.some.inj (held.symm.trans otherHeld))

/-! ### The supply of names -/

section Supply

variable {history : List String} (few : history.toFinset.card < capacity) {point : Nat}
  (asked : history[point]? = some text)

include few asked

theorem raw_nameAt_lt : (nameAt history point text).raw < capacity := by
  have inside : (nameAt history point text).raw < (after history).size :=
    (Array.getElem?_eq_some_iff.1 (texts_after asked)).1
  have bounded : (after history).size ≤ history.toFinset.card + 1 := by
    rw [size_after, List.toFinset_cons]
    exact Finset.card_insert_le _ _
  omega

/-- With fewer different texts than names, a name is left whenever one is needed. -/
theorem tryIntern_of_few :
    (after (history.take point)).tryIntern text =
      .ok (nameAt history point text, after (history.take (point + 1))) := by
  rw [after_take_succ asked]
  refine if_neg ?_
  rintro ⟨unknown, full⟩
  have new : text ∉ "" :: history.take point := by
    rw [← positions_after_eq_none_iff]
    simpa [find?] using unknown
  have fresh : text ∉ (history.take point).toFinset := fun known =>
    new (List.mem_cons_of_mem _ (List.mem_toFinset.1 known))
  have within : insert text (history.take point).toFinset ⊆ history.toFinset := by
    intro other member
    rcases Finset.mem_insert.1 member with rfl | earlier
    · exact List.mem_toFinset.2 (List.mem_of_getElem? asked)
    · exact List.mem_toFinset.2 (List.mem_of_mem_take (List.mem_toFinset.1 earlier))
  have counted : (after (history.take point)).size ≤ history.toFinset.card :=
    calc (after (history.take point)).size
      _ = (insert "" (history.take point).toFinset).card := by
        rw [size_after, List.toFinset_cons]
      _ ≤ (history.take point).toFinset.card + 1 := Finset.card_insert_le _ _
      _ = (insert text (history.take point).toFinset).card :=
        (Finset.card_insert_of_notMem fresh).symm
      _ ≤ history.toFinset.card := Finset.card_le_card within
  omega

end Supply

/-! ### The bijection -/

/-- While fewer different texts are asked for than there are names, every call is answered and
leads from each table of the history to the next, which is the same if the text is known and
one text longer if it is new. The table is always a bijection between texts and positions, and
names are what they were when they were issued: equal exactly for equal texts, and read back as
their text ever after. -/
theorem after_is_stable_bijection {history : List String}
    (few : history.toFinset.card < capacity) :
    (∀ (text : String) (position : Nat), (after history).positions[text]? = some position ↔
        (after history).texts[position]? = some text) ∧
      (∀ point text, history[point]? = some text →
        ((after (history.take point)).tryIntern text =
            .ok (nameAt history point text, after (history.take (point + 1))) ∧
          (nameAt history point text).raw < capacity) ∧
        (text ∈ "" :: history.take point →
          after (history.take (point + 1)) = after (history.take point)) ∧
        (text ∉ "" :: history.take point →
          (nameAt history point text).raw = (after (history.take point)).size ∧
            (after (history.take (point + 1))).size = (after (history.take point)).size + 1) ∧
        (∀ later, point < later →
          (after (history.take later)).textOf (nameAt history point text) = text) ∧
        ∀ second other, history[second]? = some other →
          (nameAt history point text = nameAt history second other ↔ text = other)) ∧
      (after history).intern "" = (Name.empty, after history) ∧
      ∀ name : Name, (after history).size ≤ name.raw →
        (after history).textOf name = "<unknown>" := by
  have consistent := consistent_after history
  refine ⟨consistent.inverse, fun point text asked => ⟨⟨tryIntern_of_few few asked,
    raw_nameAt_lt few asked⟩, fun known => ?_, fun new => ?_, fun later => textOf_nameAt asked,
    fun second other => nameAt_eq_iff asked⟩, ?_, fun name foreign => ?_⟩
  · rw [after_take_succ asked, intern_after_of_mem known]
  · obtain ⟨last, longer⟩ := intern_after_of_notMem new
    rw [after_take_succ asked]
    exact ⟨congrArg Name.raw last, longer⟩
  · exact intern_of_known ((consistent.inverse "" 0).2 consistent.first)
  · rw [textOf, Array.getElem?_eq_none foreign, Option.getD_none]

/-- The third call repeats the first: it gets the name of the first and leaves the table as it
was. The second asks for another text, which gets the next name. -/
theorem after_is_stable_bijection_repeated :
    let history := ["x", "y", "x"]
    history.toFinset.card < capacity ∧
      (history[0]? = some "x" ∧ (0 < 2 ∧
        (after (history.take 2)).textOf (nameAt history 0 "x") = "x")) ∧
      (history[2]? = some "x" ∧ nameAt history 0 "x" = nameAt history 2 "x" ∧
        ("x" ∈ "" :: history.take 2 ∧ after (history.take 3) = after (history.take 2))) ∧
      (history[1]? = some "y" ∧ nameAt history 0 "x" ≠ nameAt history 1 "y" ∧
        ("y" ∉ "" :: history.take 1 ∧ (nameAt history 1 "y").raw = 2)) ∧
      ((after history).size ≤ 9 ∧ (after history).textOf ⟨9⟩ = "<unknown>") := by
  intro history
  have few : history.toFinset.card < capacity := by decide
  have size (count : Nat) : (after (history.take count)).size = _ := size_after _
  have short : (after history).size ≤ 9 := (size 3).trans_le (by decide)
  obtain ⟨-, calls, -, foreign⟩ := after_is_stable_bijection few
  obtain ⟨-, -, -, readBack, alike⟩ := calls 0 "x" rfl
  obtain ⟨-, -, new, -⟩ := calls 1 "y" rfl
  obtain ⟨-, known, -⟩ := calls 2 "x" rfl
  have fresh : "y" ∉ "" :: history.take 1 := by decide
  have held : "x" ∈ "" :: history.take 2 := by decide
  refine ⟨few, ⟨rfl, by decide, readBack 2 (by decide)⟩,
    ⟨rfl, (alike 2 "x" rfl).2 rfl, held, known held⟩,
    ⟨rfl, fun same => ?_, fresh, (new fresh).1.trans (size 1)⟩, short, foreign ⟨9⟩ short⟩
  exact absurd ((alike 1 "y" rfl).1 same) (by decide)

end PatternDispatch.NameTable
