/-
This file holds double-precision numbers as their 64 bits: the parts of the binary format,
the classes of numbers, and the comparison that tells NaN from everything, itself included,
and does not tell the two zeros apart.
-/

namespace PatternDispatch

/-- A double-precision number, given by its IEEE 754 bits. -/
structure Double where
  bits : UInt64
  deriving DecidableEq

namespace Double

/-! ### The parts of the format -/

/-- Whether the sign bit is set; there is a negative zero. -/
def isNegative (number : Double) : Bool := decide (Nat.pow 2 63 ≤ number.bits.toNat)

/-- The number without its sign bit. -/
def magnitude (number : Double) : Nat := number.bits.toNat % Nat.pow 2 63

/-- The biased exponent, from 0 to 2047. -/
def exponentField (number : Double) : Nat := number.magnitude / Nat.pow 2 52

/-- The 52 bits behind the leading bit of the mantissa. -/
def fractionField (number : Double) : Nat := number.magnitude % Nat.pow 2 52

/-! ### Classes -/

/-- Whether the number is none, which may take any fraction but zero. -/
def isNaN (number : Double) : Bool :=
  decide (number.exponentField = 2047) && decide (number.fractionField ≠ 0)

/-- Whether the number is infinite in either direction. -/
def isInfinite (number : Double) : Bool :=
  decide (number.exponentField = 2047) && decide (number.fractionField = 0)

/-- Whether the number is one of the two zeros. -/
def isZero (number : Double) : Bool := decide (number.magnitude = 0)

/-! ### Comparison -/

/-- Numeric equality: NaN equals nothing and the two zeros are equal. -/
def equals (first second : Double) : Bool :=
  !first.isNaN && !second.isNaN && (decide (first = second) || (first.isZero && second.isZero))

theorem equals_self (number : Double) : number.equals number = !number.isNaN := by
  simp [equals]

theorem equals_comm (first second : Double) : first.equals second = second.equals first := by
  simp only [equals, eq_comm (a := first)]
  cases first.isNaN <;> cases second.isNaN <;> cases first.isZero <;> cases second.isZero <;> rfl

theorem equals_trans {first second third : Double} (one : first.equals second = true)
    (other : second.equals third = true) : first.equals third = true := by
  simp only [equals, Bool.and_eq_true, Bool.or_eq_true, Bool.not_eq_true', decide_eq_true_eq]
    at one other ⊢
  obtain ⟨⟨number, -⟩, same⟩ := one
  obtain ⟨⟨-, numberBehind⟩, next⟩ := other
  refine ⟨⟨number, numberBehind⟩, ?_⟩
  obtain rfl | zero := same
  · exact next
  · obtain rfl | zeroBehind := next
    · exact .inr zero
    · exact .inr ⟨zero.1, zeroBehind.2⟩

/-! ### The value of a finite number -/

/-- The integer mantissa of a finite number. -/
def mantissa (number : Double) : Nat :=
  if number.exponentField = 0 then number.fractionField else Nat.pow 2 52 + number.fractionField

/-- The exponent of two that scales the mantissa of a finite number. -/
def scale (number : Double) : Int :=
  if number.exponentField = 0 then -1074 else (number.exponentField : Int) - 1075

end Double

end PatternDispatch
