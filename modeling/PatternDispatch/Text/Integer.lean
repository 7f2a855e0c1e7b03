/-
This file reads signed 64-bit integers from decimal text. Characters are read from the left
and the first defect decides: a character that is no digit, or a digit that carries the
number out of range.
-/
import PatternDispatch.Checked

namespace PatternDispatch.Text

/-- Why a text is no signed 64-bit integer. -/
inductive IntegerError where
  | empty
  | invalidDigit
  | tooLarge
  | tooSmall
  deriving DecidableEq

/-- The text of the error. -/
def IntegerError.message : IntegerError → String
  | empty => "cannot parse integer from empty string"
  | invalidDigit => "invalid digit found in string"
  | tooLarge => "number too large to fit in target type"
  | tooSmall => "number too small to fit in target type"

/-- The value of an ASCII decimal digit. -/
def digitValue (character : Char) : Option Nat :=
  if character.isDigit then some (character.toNat - '0'.toNat) else none

/-- Reads the digits of a number whose digits so far stand for `number`; `sign` is 1 or -1. -/
def readDigits (sign : Int) (overflow : IntegerError) :
    Int → List Char → Except IntegerError Int64
  | number, [] => .ok (Int64.ofInt number)
  | number, character :: later =>
    match digitValue character with
    | none => .error .invalidDigit
    | some digit =>
      let next := number * 10 + sign * digit
      if Checked.fits next then readDigits sign overflow next later else .error overflow

/-- Reads an optional sign and at least one digit. -/
def readInteger : List Char → Except IntegerError Int64
  | [] => .error .empty
  | ['+'] | ['-'] => .error .invalidDigit
  | '+' :: digits => readDigits 1 .tooLarge 0 digits
  | '-' :: digits => readDigits (-1) .tooSmall 0 digits
  | digits => readDigits 1 .tooLarge 0 digits

end PatternDispatch.Text
