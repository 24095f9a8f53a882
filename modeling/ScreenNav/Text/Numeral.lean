/-!
# Numerals

Natural numbers in decimal and in fixed-width hexadecimal notation.

**Reading.** `decimalValue` reads a run of ASCII digits, however long and with any number of
leading zeros.

**Writing.** Decimal numerals are those of the core library; `hexadecimal` writes lower-case
digits, filled up with zeros on the left.
-/

namespace ScreenNav.Text

/-- The number that a run of decimal digits stands for; the empty run stands for zero. -/
def decimalValue (digits : List Char) : Nat :=
  digits.foldl (fun value digit => 10 * value + (digit.toNat - '0'.toNat)) 0

/-- The decimal digits of a number, without leading zeros. -/
def decimalDigits (n : Nat) : List Char := Nat.toDigits 10 n

/-- A number in lower-case hexadecimal, with at least the given number of digits. -/
def hexadecimal (width n : Nat) : List Char :=
  let digits := Nat.toDigits 16 n
  List.replicate (width - digits.length) '0' ++ digits

end ScreenNav.Text
