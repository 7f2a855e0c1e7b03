/-
This file holds primality by trial division in signed 64-bit arithmetic. Divisors are tried
as long as their square does not exceed the number; a square that does not fit into 64 bits
ends the test without an answer.
-/
import PatternDispatch.Checked

namespace PatternDispatch.Primes

/-- The square of a divisor, if it is a signed 64-bit integer. -/
def square? (divisor : Nat) : Option Nat :=
  if Checked.fits (divisor * divisor : Nat) then some (divisor * divisor) else none

theorem square?_eq_some {divisor square : Nat} (found : square? divisor = some square) :
    square = divisor * divisor := by
  simp only [square?] at found
  split at found
  · exact (Option.some.inj found).symm
  · exact absurd found (by simp)

/-- Whether no divisor from `divisor` up to the square root divides the number. -/
def hasNoDivisorFrom (number divisor : Nat) : Option Bool :=
  match found : square? divisor with
  | none => none
  | some square =>
    if square ≤ number then
      if number % divisor = 0 then some false else hasNoDivisorFrom number (divisor + 1)
    else some true
termination_by number + 2 - divisor
decreasing_by
  have equal := square?_eq_some found
  have bound : divisor ≤ divisor * divisor := Nat.le_mul_self divisor
  omega

/-- Whether a number is prime; `none` if a square on the way does not fit into 64 bits. -/
def isPrime? (number : Int64) : Option Bool :=
  if number.toInt < 2 then some false else hasNoDivisorFrom number.toInt.toNat 2

/-- The primes among the first candidates 2, 3, 4 and so on, in this order; `none` if one of
the tests has no answer. -/
def amongFirst : Nat → Option (List Int64)
  | 0 => some []
  | count + 1 => do
    let earlier ← amongFirst count
    let candidate := Int64.ofNat (count + 2)
    if ← isPrime? candidate then return earlier ++ [candidate] else return earlier

end PatternDispatch.Primes
