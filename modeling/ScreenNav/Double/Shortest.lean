import ScreenNav.Double

/-!
# Shortest decimals

The text of a double-precision number: the fewest decimal digits that read back to it, and of the
shortest candidates the one nearest to the number.

**The search.** For one, two, … seventeen digits the number lies between two neighbours on the grid
of decimals with that many digits. The first grid on which a neighbour reads back gives the
digits; if both do, the nearer wins, and at equal distance the even one. Every number has been
found by then, but the search does not rely on it: it ends with the exact decimal expansion.

**The layout.** A number from `0.0001` up to but not including `10¹⁶` is written positionally, with
a point and at least one digit behind it; any other number has an exponent with a sign and at least
two digits. Infinity and not-a-number have words of their own, and zero keeps its sign.

Main statement: `Magnitude.shortest?_readsBack`, that what the search finds reads back.
-/

namespace ScreenNav

/-- A decimal `digits · 10 ^ exponent`. -/
structure Decimal where
  /-- The digits, as one number. -/
  digits : Nat
  /-- The place of the last digit. -/
  exponent : Int
deriving DecidableEq, Repr

namespace Magnitude

/-- The decimal reads back to the magnitude. -/
def readsBack (m : Magnitude) (d : Decimal) : Bool := decide (ofDecimal d.digits d.exponent = m)

/-- The exponent of the least power of ten above a finite magnitude other than zero. It is found on
a grid of `10⁻⁴⁰⁰`, fine enough to hold a digit of every such magnitude. -/
def decimalPlaces (m : Magnitude) : Int :=
  ((Nat.toDigits 10 (m.units * tenPow 400 / twoPow 1074)).length : Int) - 400

/-- The magnitude in units of `10 ^ exponent`, as a quotient. -/
def inUnitsOf (m : Magnitude) (exponent : Int) : Nat × Nat :=
  (m.units * tenPow (-exponent).toNat, twoPow 1074 * tenPow exponent.toNat)

/-- The neighbour that reads back on the grid of decimals with the given number of digits. -/
def neighbour? (m : Magnitude) (count : Nat) : Option Decimal :=
  let exponent := m.decimalPlaces - count
  let (num, den) := m.inUnitsOf exponent
  let below := num / den
  let rest := 2 * (num % den)
  let nearer := if rest < den ∨ rest = den ∧ below % 2 = 0 then below else below + 1
  let farther := if nearer = below then below + 1 else below
  [⟨nearer, exponent⟩, ⟨farther, exponent⟩].find? m.readsBack

/-- The decimal on the first grid that has one, up to seventeen digits. -/
def shortest? (m : Magnitude) : Option Decimal :=
  (List.range 17).findSome? fun count => m.neighbour? (count + 1)

/-- The exact decimal expansion of a finite magnitude. -/
def expansion (m : Magnitude) : Decimal := ⟨m.units * Nat.pow 5 1074, -1074⟩

/-- The decimal that stands for a finite magnitude. -/
def shortest (m : Magnitude) : Decimal := m.shortest?.getD m.expansion

/-- What the search finds reads back. -/
theorem shortest?_readsBack {m : Magnitude} {d : Decimal} (h : m.shortest? = some d) :
    m.readsBack d = true := by
  obtain ⟨_, _, hd⟩ := List.exists_of_findSome?_eq_some h
  exact List.find?_some hd

end Magnitude

namespace Decimal

/-- The digits up to the last that is not zero, and the number of places before the point. -/
def significant (d : Decimal) : List Char × Int :=
  let digits := Nat.toDigits 10 d.digits
  ((digits.reverse.dropWhile (· == '0')).reverse, digits.length + d.exponent)

/-- The text of a decimal other than zero. -/
def layout (d : Decimal) : String :=
  let (digits, places) := d.significant
  let zeros (n : Int) : List Char := List.replicate n.toNat '0'
  String.ofList <|
    if places ≤ -4 ∨ 16 < places then
      let exponent := places - 1
      let size := Nat.toDigits 10 exponent.natAbs
      digits.take 1 ++ (if digits.length ≤ 1 then [] else '.' :: digits.drop 1)
        ++ ['e', if exponent < 0 then '-' else '+'] ++ zeros (2 - size.length) ++ size
    else if places ≤ 0 then '0' :: '.' :: zeros (-places) ++ digits
    else if digits.length ≤ places then digits ++ zeros (places - digits.length) ++ ['.', '0']
    else digits.take places.toNat ++ '.' :: digits.drop places.toNat

end Decimal

/-- The text of a magnitude. -/
def Magnitude.text (m : Magnitude) : String :=
  if m.rank = 0 then "0.0"
  else if m.rank = infinityRank then "inf"
  else m.shortest.layout

/-- The text of a number: shortest digits, behind a minus sign if it is negative. -/
def Double.text : Double → String
  | .nan => "nan"
  | .signed negative magnitude => (if negative then "-" else "") ++ magnitude.text

end ScreenNav
