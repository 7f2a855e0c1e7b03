/-
This file holds what follows for two lists whose items correspond position by position. Each law
asks for its premise at the items of the lists only, which is what an induction over the parts of a
value or of a pattern provides.
-/
import Mathlib.Data.List.Forall2

namespace PatternDispatch

variable {First Second Third : Type} {firsts : List First} {seconds : List Second}
  {thirds : List Third}

/-- A step that can be taken from corresponding items is taken in all places at once. -/
theorem forall₂_imp_of_mem {related further : First → Second → Prop}
    (each : ∀ first ∈ firsts, ∀ second ∈ seconds, related first second → further first second)
    (inStep : List.Forall₂ related firsts seconds) : List.Forall₂ further firsts seconds := by
  induction inStep with
  | nil => exact .nil
  | cons same _ inductionHypothesis =>
    refine .cons (each _ List.mem_cons_self _ List.mem_cons_self same) (inductionHypothesis ?_)
    exact fun first inFirsts second inSeconds =>
      each first (List.mem_cons_of_mem _ inFirsts) second (List.mem_cons_of_mem _ inSeconds)

theorem forall₂_swap {related : First → Second → Prop} {swapped : Second → First → Prop}
    (each : ∀ first ∈ firsts, ∀ second, related first second → swapped second first)
    (inStep : List.Forall₂ related firsts seconds) : List.Forall₂ swapped seconds firsts :=
  (forall₂_imp_of_mem (fun first member second _ => each first member second) inStep).flip

theorem forall₂_compose {related : First → Second → Prop} {further : Second → Third → Prop}
    {composed : First → Third → Prop}
    (each : ∀ first ∈ firsts, ∀ second ∈ seconds, ∀ third ∈ thirds, related first second →
      further second third → composed first third)
    (one : List.Forall₂ related firsts seconds) (other : List.Forall₂ further seconds thirds) :
    List.Forall₂ composed firsts thirds := by
  induction one generalizing thirds with
  | nil =>
    cases other
    exact .nil
  | cons same _ inductionHypothesis =>
    cases other with
    | cons next others =>
      refine .cons ?_ (inductionHypothesis ?_ others)
      · exact each _ List.mem_cons_self _ List.mem_cons_self _ List.mem_cons_self same next
      · exact fun first inFirsts second inSeconds third inThirds =>
          each first (List.mem_cons_of_mem _ inFirsts) second (List.mem_cons_of_mem _ inSeconds)
            third (List.mem_cons_of_mem _ inThirds)

/-- What corresponding items hand on reaches every item of the second list. -/
theorem forall_mem_of_forall₂ {related : First → Second → Prop} {before : First → Prop}
    {after : Second → Prop}
    (hand : ∀ first second, related first second → before first → after second)
    (inStep : List.Forall₂ related firsts seconds) (all : ∀ first ∈ firsts, before first) :
    ∀ second ∈ seconds, after second := by
  induction inStep with
  | nil => exact List.forall_mem_nil _
  | cons same _ inductionHypothesis =>
    obtain ⟨head, rest⟩ := List.forall_mem_cons.1 all
    exact List.forall_mem_cons.2 ⟨hand _ _ same head, inductionHypothesis rest⟩

/-- Entries that corresponding items agree on are the same in both lists. -/
theorem filterMap_eq_of_forall₂ {Entry : Type} {related : First → Second → Prop}
    {ofFirst : First → Option Entry} {ofSecond : Second → Option Entry}
    (agree : ∀ first second, related first second → ofFirst first = ofSecond second)
    (inStep : List.Forall₂ related firsts seconds) :
    firsts.filterMap ofFirst = seconds.filterMap ofSecond := by
  have entries : List.Forall₂ Eq (firsts.filterMap ofFirst) (seconds.filterMap ofSecond) := by
    refine List.rel_filterMap (fun first second same => ?_) inStep
    rw [agree first second same]
    cases ofSecond second with
    | none => exact .none
    | some entry => exact .some rfl
  rwa [List.forall₂_eq_eq_eq] at entries

end PatternDispatch
