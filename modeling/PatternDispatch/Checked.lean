/-
This file holds arithmetic in signed 64-bit integers that reports when a result does not
fit, instead of wrapping around.
-/

namespace PatternDispatch.Checked

/-- Whether an integer is a signed 64-bit integer. -/
def fits (number : Int) : Bool :=
  decide (Int64.minValue.toInt ≤ number) && decide (number ≤ Int64.maxValue.toInt)

/-- The signed 64-bit integer that equals an integer. -/
def ofInt? (number : Int) : Option Int64 :=
  if fits number then some (Int64.ofInt number) else none

/-- The sum, if it is a signed 64-bit integer. -/
def add? (first second : Int64) : Option Int64 := ofInt? (first.toInt + second.toInt)

theorem toInt_of_ofInt? {number : Int} {word : Int64} (found : ofInt? number = some word) :
    word.toInt = number := by
  simp only [ofInt?] at found
  split at found
  next fitting =>
    simp only [fits, Bool.and_eq_true, decide_eq_true_eq] at fitting
    rw [← Option.some.inj found]
    exact Int64.toInt_ofInt_of_le fitting.1 (by
      have bound : Int64.maxValue.toInt < 2 ^ 63 := by decide
      omega)
  next => exact absurd found (by simp)

end PatternDispatch.Checked
