/-!
# Double-precision numbers

The numbers that a declaration may give with a point or an exponent: binary floating point with 53
significant bits, held exactly.

**Rank.** The non-negative numbers of the format, with infinity at the top, are counted off in
ascending order from zero; a number is its sign and its *rank* in that count. The smallest numbers
lie `2⁻¹⁰⁷⁴` apart. From rank `2⁵³` on the distance doubles after every `2⁵²` ranks, which is why
`Magnitude.units` needs only a shift.

**Rounding.** `Magnitude.ofRatio` takes a quotient to the nearest number of the format, a half to
the even rank. A quotient that rounds beyond the largest finite number is infinite.

Main statements: `Magnitude.units_eq_rank`, that the least numbers are evenly spaced, and
`roundHalfEven_self`, that a quotient without remainder is not changed by rounding.
-/

namespace ScreenNav

/-- A power of two. -/
def twoPow (n : Nat) : Nat := Nat.pow 2 n

/-- A power of ten. -/
def tenPow (n : Nat) : Nat := Nat.pow 10 n

/-- The rank of infinity. -/
def infinityRank : Nat := 2047 * twoPow 52

/-- A non-negative number of the format, or infinity, as its place in ascending order. -/
structure Magnitude where
  /-- How many numbers of the format lie below. -/
  rank : Nat
  rank_le : rank ≤ infinityRank := by decide
deriving DecidableEq, Repr

/-- A double-precision number. Zero has two signs; not-a-number has none. -/
inductive Double where
  | nan
  | signed (negative : Bool) (magnitude : Magnitude)
deriving DecidableEq, Repr

namespace Magnitude

/-- Zero. -/
def zero : Magnitude := ⟨0, by decide⟩

/-- Infinity. -/
def infinity : Magnitude := ⟨infinityRank, Nat.le_refl _⟩

/-- The magnitude of a rank; every rank beyond infinity is infinity. -/
def ofRank (rank : Nat) : Magnitude := ⟨min rank infinityRank, Nat.min_le_right _ _⟩

/-- The value of a finite magnitude, in units of `2⁻¹⁰⁷⁴`. -/
def units (m : Magnitude) : Nat :=
  if m.rank < twoPow 52 then m.rank
  else (twoPow 52 + m.rank % twoPow 52) * twoPow (m.rank / twoPow 52 - 1)

/-- The least numbers are evenly spaced. -/
theorem units_eq_rank (m : Magnitude) (h : m.rank < twoPow 52) : m.units = m.rank := if_pos h

end Magnitude

/-! ## Rounding -/

/-- The whole number nearest to a quotient, a half going to the even neighbour. -/
def roundHalfEven (num den : Nat) : Nat :=
  let below := num / den
  let twice := 2 * (num % den)
  if twice < den then below
  else if den < twice then below + 1
  else if below % 2 = 0 then below else below + 1

/-- A quotient without remainder is not changed by rounding. -/
theorem roundHalfEven_self (n den : Nat) (h : 0 < den) : roundHalfEven (n * den) den = n := by
  simp [roundHalfEven, Nat.mul_div_cancel _ h, h]

/-- The magnitude nearest to a quotient. With `q` the quotient in units of `2⁻¹⁰⁷⁴`, all but its 53
leading bits are rounded away; a carry into a 54th bit lands on the right rank by itself. -/
def Magnitude.ofRatio (num den : Nat) : Magnitude :=
  let scaled := num * twoPow 1074
  let shift := (scaled / den).log2 - 52
  .ofRank (shift * twoPow 52 + roundHalfEven scaled (den * twoPow shift))

/-- The magnitude nearest to `digits · 10 ^ exponent`. Decimals of `10³¹⁰` and more are infinite and
those below `10⁻³²⁹` are zero, so neither needs its power of ten. -/
def Magnitude.ofDecimal (digits : Nat) (exponent : Int) : Magnitude :=
  let length : Int := (Nat.toDigits 10 digits).length
  if digits = 0 ∨ length + exponent < -329 then .zero
  else if 310 < length + exponent then .infinity
  else if 0 ≤ exponent then .ofRatio (digits * tenPow exponent.toNat) 1
  else .ofRatio digits (tenPow (-exponent).toNat)

end ScreenNav
