import ScreenNav.Double
import ScreenNav.Text.Numeral

/-!
# Number literals

The written form of a number in a declaration, and the number it stands for.

**Form.** An optional sign, then digits, a point with digits on at least one side of it, or either
of these with an exponent. A literal keeps its spelling: `007` and `7` are two literals of one
number.

**Scanning** is greedy. What follows the digits belongs to the literal as long as it completes a
form, so `1.e5` is one literal, while `1e` and `1e+` are the literal `1` with something behind it.

Main statement: `scan_append`, that a literal and the rest put together are the text scanned.
-/

namespace ScreenNav

/-- The power of ten at the end of a literal. -/
structure ExponentPart where
  /-- The letter that opens it. -/
  mark : Char
  sign : Option Char
  digits : List Char
deriving DecidableEq, Repr

/-- A number as it is spelled. -/
structure NumberLiteral where
  sign : Option Char
  /-- The digits before the point. -/
  whole : List Char
  /-- The digits behind the point, if there is one. -/
  fraction : Option (List Char)
  exponent : Option ExponentPart
deriving DecidableEq, Repr

/-- The spelling of an exponent. -/
def ExponentPart.spelling (e : ExponentPart) : List Char := e.mark :: e.sign.toList ++ e.digits

namespace NumberLiteral

/-- The spelling of a literal. -/
def spelling (n : NumberLiteral) : List Char :=
  n.sign.toList ++ n.whole ++ (n.fraction.elim [] ('.' :: ·))
    ++ (n.exponent.elim [] ExponentPart.spelling)

/-! ## Scanning -/

/-- An optional sign and what follows it. -/
def scanSign : List Char → Option Char × List Char
  | [] => (none, [])
  | c :: rest => if c = '+' ∨ c = '-' then (some c, rest) else (none, c :: rest)

/-- An exponent, if the text starts with a complete one. -/
def scanExponent : List Char → Option ExponentPart × List Char
  | [] => (none, [])
  | c :: rest =>
    let (sign, tail) := scanSign rest
    let digits := tail.takeWhile Char.isDigit
    if (c = 'e' ∨ c = 'E') ∧ digits ≠ [] then
      (some ⟨c, sign, digits⟩, tail.dropWhile Char.isDigit)
    else (none, c :: rest)

/-- A point and the digits behind it, if the text starts with a point and has enough of them. -/
def scanFraction (least : Nat) : List Char → Option (List Char) × List Char
  | [] => (none, [])
  | c :: rest =>
    let digits := rest.takeWhile Char.isDigit
    if c = '.' ∧ least ≤ digits.length then (some digits, rest.dropWhile Char.isDigit)
    else (none, c :: rest)

/-- The literal at the start of the text, and the rest. Before the point or behind it, a literal has
a digit. -/
def scan (text : List Char) : Option (NumberLiteral × List Char) :=
  let (sign, unsigned) := scanSign text
  let whole := unsigned.takeWhile Char.isDigit
  let (fraction, tail) := scanFraction (1 - whole.length) (unsigned.dropWhile Char.isDigit)
  if whole = [] ∧ fraction = none then none
  else
    let (exponent, rest) := scanExponent tail
    some (⟨sign, whole, fraction, exponent⟩, rest)

theorem scanSign_append (text : List Char) :
    (scanSign text).1.toList ++ (scanSign text).2 = text := by
  cases text with
  | nil => rfl
  | cons c rest => simp only [scanSign]; split <;> simp

theorem scanExponent_append (text : List Char) :
    (scanExponent text).1.elim [] ExponentPart.spelling ++ (scanExponent text).2 = text := by
  cases text with
  | nil => rfl
  | cons c rest =>
    simp only [scanExponent]
    split
    · have := scanSign_append rest
      simp [ExponentPart.spelling, List.takeWhile_append_dropWhile, this]
    · simp

theorem scanFraction_append (least : Nat) (text : List Char) :
    (scanFraction least text).1.elim [] ('.' :: ·) ++ (scanFraction least text).2 = text := by
  cases text with
  | nil => rfl
  | cons c rest =>
    simp only [scanFraction]
    split
    · rename_i h
      simp [h.1, List.takeWhile_append_dropWhile]
    · simp

/-- A literal and the rest put together are the text that was scanned. -/
theorem scan_append {text rest : List Char} {n : NumberLiteral} (h : scan text = some (n, rest)) :
    n.spelling ++ rest = text := by
  simp only [scan] at h
  split at h
  · simp at h
  · simp only [Option.some.injEq, Prod.mk.injEq] at h
    obtain ⟨rfl, rfl⟩ := h
    simp only [spelling, List.append_assoc, scanExponent_append, scanFraction_append,
      List.takeWhile_append_dropWhile, scanSign_append]

/-! ## What a literal stands for -/

/-- A literal with neither point nor exponent. -/
def IsWhole (n : NumberLiteral) : Prop := n.fraction = none ∧ n.exponent = none

instance (n : NumberLiteral) : Decidable n.IsWhole := inferInstanceAs (Decidable (_ ∧ _))

/-- A literal with a minus sign. -/
def isNegative (n : NumberLiteral) : Bool := n.sign == some '-'

/-- The integer that a whole literal stands for. -/
def toInt (n : NumberLiteral) : Int :=
  let size : Int := Text.decimalValue n.whole
  if n.isNegative then -size else size

/-- The power of ten that an exponent stands for. -/
def exponentValue (n : NumberLiteral) : Int :=
  match n.exponent with
  | none => 0
  | some e =>
    let size : Int := Text.decimalValue e.digits
    if e.sign = some '-' then -size else size

/-- The double-precision number nearest to the literal. -/
def toDouble (n : NumberLiteral) : Double :=
  let fraction := n.fraction.getD []
  .signed n.isNegative <|
    .ofDecimal (Text.decimalValue (n.whole ++ fraction)) (n.exponentValue - fraction.length)

/-- The greatest number of digits that an integer may be given with, leading zeros included. -/
def integerDigitLimit : Nat := 4300

/-- A whole literal with too many digits. -/
def IsOverlong (n : NumberLiteral) : Prop := n.IsWhole ∧ integerDigitLimit < n.whole.length

instance (n : NumberLiteral) : Decidable n.IsOverlong := inferInstanceAs (Decidable (_ ∧ _))

end NumberLiteral

/-- The number with the given text: a literal, or one of the words for infinity and not-a-number. -/
def Double.ofText? (text : String) : Option Double :=
  if text = "nan" then some .nan
  else if text = "inf" then some (.signed false .infinity)
  else if text = "-inf" then some (.signed true .infinity)
  else
    match NumberLiteral.scan text.toList with
    | some (literal, []) => some literal.toDouble
    | _ => none

end ScreenNav
