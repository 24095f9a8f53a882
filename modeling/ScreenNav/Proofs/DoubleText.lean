import Mathlib.Data.List.TakeWhile
import ScreenNav.Proofs.Literals
import ScreenNav.Proofs.Rounding

/-!
# Numbers read back from their text

The text of an integer or of a finite double-precision number is one number literal, and the literal
stands for that very number (`toInt_ofInt`, `Double.exists_literal`).

The text of a double-precision number comes in four layouts, by where the point falls. Each of them
holds the significant digits, perhaps with zeros around them, and an exponent that makes up for the
zeros; so it is read as the decimal that was laid out, and that reads back to the number.
-/

namespace ScreenNav

open Text

/-! ## Runs of digits -/

theorem decimalValue_append (first second : List Char) :
    decimalValue (first ++ second) = decimalValue first * tenPow second.length + decimalValue second := by
  show Nat.ofDigitChars 10 (first ++ second) 0 = _
  rw [Nat.ofDigitChars_append, Nat.ofDigitChars_eq_ofDigitChars_zero, Nat.mul_comm]
  rfl

theorem decimalValue_replicate_zero (count : Nat) :
    decimalValue (List.replicate count '0') = 0 :=
  Nat.ofDigitChars_replicate_zero

theorem decimalValue_append_zeros (digits : List Char) (count : Nat) :
    decimalValue (digits ++ List.replicate count '0') = decimalValue digits * tenPow count := by
  rw [decimalValue_append, decimalValue_replicate_zero, List.length_replicate, Nat.add_zero]

theorem decimalValue_zeros_append (count : Nat) (digits : List Char) :
    decimalValue (List.replicate count '0' ++ digits) = decimalValue digits := by
  rw [decimalValue_append, decimalValue_replicate_zero, Nat.zero_mul, Nat.zero_add]

theorem decimalValue_toDigits (n : Nat) : decimalValue (Nat.toDigits 10 n) = n :=
  Nat.ofDigitChars_ten_toDigits

theorem areDigits_toDigits (n : Nat) : AreDigits (Nat.toDigits 10 n) :=
  fun _ => Nat.isDigit_of_mem_toDigits (by decide) (by decide)

theorem areDigits_replicate_zero (count : Nat) : AreDigits (List.replicate count '0') := by
  intro c hc
  rw [List.eq_of_mem_replicate hc]
  rfl

theorem AreDigits.append {first second : List Char} (hf : AreDigits first)
    (hs : AreDigits second) : AreDigits (first ++ second) :=
  fun c hc => (List.mem_append.1 hc).elim (hf c) (hs c)

/-! ## Integers -/

namespace NumberLiteral

/-- The sign of a number that is negative, or not. -/
def signOf (negative : Bool) : Option Char := if negative then some '-' else none

theorem isSign_signOf (negative : Bool) : IsSign (signOf negative) := by
  cases negative <;> simp [signOf, IsSign]

/-- The literal of an integer. -/
def ofInt (value : Int) : NumberLiteral :=
  ⟨signOf (decide (value < 0)), Nat.toDigits 10 value.natAbs, none, none⟩

theorem wellFormed_ofInt (value : Int) : (ofInt value).WellFormed where
  sign := isSign_signOf _
  whole := areDigits_toDigits _
  some_digit := Nat.toDigits_ne_nil
  fraction := by simp [ofInt]
  exponent := by simp [ofInt]

theorem isWhole_ofInt (value : Int) : (ofInt value).IsWhole := ⟨rfl, rfl⟩

theorem toInt_ofInt (value : Int) : (ofInt value).toInt = value := by
  unfold toInt isNegative ofInt
  rw [decimalValue_toDigits]
  by_cases negative : value < 0
  · rw [if_pos (by simp [signOf, negative])]
    omega
  · rw [if_neg (by simp [signOf, negative])]
    omega

theorem spelling_ofInt (value : Int) : String.ofList (ofInt value).spelling = toString value := by
  apply String.ext
  rw [String.toList_ofList]
  cases value with
  | ofNat n =>
    show _ = n.repr.toList
    simp [ofInt, spelling, signOf]
  | negSucc n =>
    show _ = ("-" ++ (n + 1).repr).toList
    simp [ofInt, spelling, signOf]

/-! ## Decimals -/

/-- The magnitude of the number that a literal stands for. -/
def magnitude (n : NumberLiteral) : Magnitude :=
  .ofDecimal (decimalValue (n.whole ++ n.fraction.getD []))
    (n.exponentValue - (n.fraction.getD []).length)

theorem toDouble_eq (n : NumberLiteral) : n.toDouble = .signed n.isNegative n.magnitude := rfl

end NumberLiteral

namespace Decimal

variable {digits : List Char} {places : Int}

/-- The digits of a decimal are its significant digits with zeros behind them. -/
theorem exists_zeros (d : Decimal) :
    ∃ count, Nat.toDigits 10 d.digits = d.significant.1 ++ List.replicate count '0' := by
  set digits := Nat.toDigits 10 d.digits with hdigits
  have zeros : ∀ c ∈ digits.reverse.takeWhile (· == '0'), c = '0' := fun c hc => by
    simpa using List.mem_takeWhile_imp hc
  refine ⟨(digits.reverse.takeWhile (· == '0')).length, ?_⟩
  calc digits = digits.reverse.reverse := by rw [List.reverse_reverse]
    _ = (digits.reverse.takeWhile (· == '0') ++ digits.reverse.dropWhile (· == '0')).reverse := by
      rw [List.takeWhile_append_dropWhile]
    _ = _ := by
      rw [List.reverse_append, List.eq_replicate_of_mem zeros, List.reverse_replicate,
        List.length_replicate]
      rfl

/-- The number without its zeros, and the place of its last significant digit. -/
theorem ofDecimal_significant (d : Decimal) :
    Magnitude.ofDecimal d.digits d.exponent =
      .ofDecimal (decimalValue d.significant.1) (d.significant.2 - d.significant.1.length) := by
  obtain ⟨count, hcount⟩ := d.exists_zeros
  have value : d.digits = decimalValue d.significant.1 * tenPow count := by
    rw [← decimalValue_append_zeros, ← hcount, decimalValue_toDigits]
  have length := congrArg List.length hcount
  rw [List.length_append, List.length_replicate] at length
  have place : d.significant.2 - d.significant.1.length = d.exponent + count := by
    show (((Nat.toDigits 10 d.digits).length : Int) + d.exponent) - _ = _
    omega
  rw [place, ← Magnitude.ofDecimal_mul_tenPow, ← value]

/-! ## Layouts -/

/-- A literal with an exponent. -/
def scientific (digits : List Char) (places : Int) : NumberLiteral :=
  let exponent := places - 1
  let size := Nat.toDigits 10 exponent.natAbs
  { sign := none
    whole := digits.take 1
    fraction := if digits.length ≤ 1 then none else some (digits.drop 1)
    exponent := some ⟨'e', some (if exponent < 0 then '-' else '+'),
      List.replicate (2 - (size.length : Int)).toNat '0' ++ size⟩ }

/-- A literal with a point. -/
def positional (digits : List Char) (places : Int) : NumberLiteral :=
  if places ≤ 0 then
    ⟨none, ['0'], some (List.replicate (-places).toNat '0' ++ digits), none⟩
  else if digits.length ≤ places then
    ⟨none, digits ++ List.replicate (places - digits.length).toNat '0', some ['0'], none⟩
  else ⟨none, digits.take places.toNat, some (digits.drop places.toNat), none⟩

/-- The literal that a decimal is laid out as. -/
def literal (d : Decimal) : NumberLiteral :=
  let (digits, places) := d.significant
  if places ≤ -4 ∨ 16 < places then scientific digits places else positional digits places

theorem spelling_scientific (digits : List Char) (places : Int) :
    (scientific digits places).spelling =
      digits.take 1 ++ (if digits.length ≤ 1 then [] else '.' :: digits.drop 1)
        ++ ['e', if places - 1 < 0 then '-' else '+']
        ++ List.replicate (2 - ((Nat.toDigits 10 (places - 1).natAbs).length : Int)).toNat '0'
        ++ Nat.toDigits 10 (places - 1).natAbs := by
  unfold scientific NumberLiteral.spelling
  by_cases single : digits.length ≤ 1 <;> simp [single, ExponentPart.spelling]

theorem spelling_positional (digits : List Char) (places : Int) :
    (positional digits places).spelling =
      if places ≤ 0 then '0' :: '.' :: List.replicate (-places).toNat '0' ++ digits
      else if digits.length ≤ places then
        digits ++ List.replicate (places - digits.length).toNat '0' ++ ['.', '0']
      else digits.take places.toNat ++ '.' :: digits.drop places.toNat := by
  unfold positional
  split_ifs <;> simp [NumberLiteral.spelling]

theorem layout_eq (d : Decimal) : d.layout = String.ofList d.literal.spelling := by
  unfold layout literal
  simp only
  by_cases far : d.significant.2 ≤ -4 ∨ 16 < d.significant.2
  · rw [if_pos far, if_pos far, spelling_scientific]
  · rw [if_neg far, if_neg far, spelling_positional]

theorem exponentValue_scientific (digits : List Char) (places : Int) :
    (scientific digits places).exponentValue = places - 1 := by
  unfold NumberLiteral.exponentValue scientific
  simp only [decimalValue_zeros_append, decimalValue_toDigits, Option.some.injEq]
  by_cases negative : places - 1 < 0
  · rw [if_pos (by simp [negative])]
    omega
  · rw [if_neg (by simp [negative])]
    omega

theorem magnitude_scientific (h : digits ≠ []) :
    (scientific digits places).magnitude =
      .ofDecimal (decimalValue digits) (places - digits.length) := by
  have positive := List.length_pos_iff.2 h
  have behind : (scientific digits places).fraction.getD [] = digits.drop 1 := by
    unfold scientific
    by_cases single : digits.length ≤ 1
    · simp [single, List.drop_eq_nil_of_le single]
    · simp [single]
  have place : places - 1 - ((digits.length - 1 : Nat) : Int) = places - digits.length := by
    omega
  rw [NumberLiteral.magnitude, behind, exponentValue_scientific, List.length_drop, place]
  show Magnitude.ofDecimal (decimalValue (digits.take 1 ++ digits.drop 1)) _ = _
  rw [List.take_append_drop]

theorem magnitude_positional (digits : List Char) (places : Int) :
    (positional digits places).magnitude =
      .ofDecimal (decimalValue digits) (places - digits.length) := by
  unfold positional NumberLiteral.magnitude
  split_ifs with small whole
  · have place : 0 - (((-places).toNat + digits.length : Nat) : Int) = places - digits.length := by
      omega
    show Magnitude.ofDecimal (decimalValue (List.replicate 1 '0' ++ (_ ++ digits))) (0 - _) = _
    rw [decimalValue_zeros_append, decimalValue_zeros_append, Option.getD_some, List.length_append,
      List.length_replicate, place]
  · have place : 0 - 1 + (((places - digits.length).toNat + 1 : Nat) : Int) =
        places - digits.length := by
      omega
    have zeros : digits ++ List.replicate (places - digits.length).toNat '0' ++ ['0'] =
        digits ++ List.replicate ((places - digits.length).toNat + 1) '0' := by
      rw [List.append_assoc, List.replicate_succ']
    show Magnitude.ofDecimal (decimalValue (_ ++ ['0'])) (0 - 1) = _
    rw [zeros, decimalValue_append_zeros, Magnitude.ofDecimal_mul_tenPow, place]
  · have place : 0 - ((digits.length - places.toNat : Nat) : Int) = places - digits.length := by
      omega
    show Magnitude.ofDecimal (decimalValue (digits.take _ ++ digits.drop _)) (0 - _) = _
    rw [List.take_append_drop, Option.getD_some, List.length_drop, place]

/-! ## Form -/

theorem areDigits_significant (d : Decimal) : AreDigits d.significant.1 := by
  obtain ⟨count, hcount⟩ := d.exists_zeros
  intro c hc
  exact areDigits_toDigits d.digits c (hcount ▸ List.mem_append_left _ hc)

theorem significant_ne_nil {d : Decimal} (h : d.digits ≠ 0) : d.significant.1 ≠ [] := by
  obtain ⟨count, hcount⟩ := d.exists_zeros
  intro none
  have value := decimalValue_toDigits d.digits
  rw [hcount, none, List.nil_append, decimalValue_replicate_zero] at value
  exact h value.symm

theorem wellFormed_scientific (hd : AreDigits digits) (h : digits ≠ []) :
    (scientific digits places).WellFormed where
  sign := by simp [scientific, IsSign]
  whole := fun c hc => hd c (List.mem_of_mem_take hc)
  some_digit := by simpa [scientific] using h
  fraction := by
    intro behind hbehind
    unfold scientific at hbehind
    by_cases single : digits.length ≤ 1
    · simp [single] at hbehind
    · obtain rfl : digits.drop 1 = behind := by simpa [single] using hbehind
      exact fun c hc => hd c (List.mem_of_mem_drop hc)
  exponent := by
    rintro e he
    obtain rfl := Option.mem_some_iff.1 he
    refine ⟨.inl rfl, ?_, (areDigits_replicate_zero _).append (areDigits_toDigits _), by simp⟩
    intro c hc
    obtain rfl := Option.mem_some_iff.1 hc
    by_cases negative : places - 1 < 0 <;> simp [negative]

theorem wellFormed_positional (hd : AreDigits digits) (h : digits ≠ []) :
    (positional digits places).WellFormed := by
  have zero : AreDigits ['0'] := areDigits_replicate_zero 1
  unfold positional
  split_ifs with small whole
  · refine ⟨by simp [IsSign], zero, by simp, ?_, by simp⟩
    intro behind hbehind
    obtain rfl := Option.mem_some_iff.1 hbehind
    exact (areDigits_replicate_zero _).append hd
  · refine ⟨by simp [IsSign], hd.append (areDigits_replicate_zero _), by simp [h], ?_, by simp⟩
    intro behind hbehind
    obtain rfl := Option.mem_some_iff.1 hbehind
    exact zero
  · have some_place : places.toNat ≠ 0 := by omega
    refine ⟨by simp [IsSign], fun c hc => hd c (List.mem_of_mem_take hc), by simp [h, some_place],
      ?_, by simp⟩
    intro behind hbehind
    obtain rfl := Option.mem_some_iff.1 hbehind
    exact fun c hc => hd c (List.mem_of_mem_drop hc)

theorem not_isWhole_literal (d : Decimal) : ¬ d.literal.IsWhole := by
  rintro ⟨pointless, unscaled⟩
  unfold literal at pointless unscaled
  simp only at pointless unscaled
  split_ifs at pointless unscaled with far
  · simp [scientific] at unscaled
  · unfold positional at pointless
    split_ifs at pointless

theorem wellFormed_literal {d : Decimal} (h : d.digits ≠ 0) : d.literal.WellFormed := by
  have digits := areDigits_significant d
  have some_digit := significant_ne_nil h
  unfold literal
  simp only
  split_ifs
  · exact wellFormed_scientific digits some_digit
  · exact wellFormed_positional digits some_digit

/-- The literal stands for the decimal. -/
theorem magnitude_literal {d : Decimal} (h : d.digits ≠ 0) :
    d.literal.magnitude = .ofDecimal d.digits d.exponent := by
  rw [ofDecimal_significant]
  unfold literal
  simp only
  split_ifs
  · exact magnitude_scientific (significant_ne_nil h)
  · exact magnitude_positional _ _

theorem sign_literal (d : Decimal) : d.literal.sign = none := by
  unfold literal scientific positional
  simp only
  split_ifs <;> rfl

end Decimal

/-! ## Double-precision numbers -/

/-- Neither infinite nor not-a-number. -/
def Double.IsFinite : Double → Prop
  | .nan => False
  | .signed _ magnitude => magnitude.rank < infinityRank

instance : (x : Double) → Decidable x.IsFinite
  | .nan => inferInstanceAs (Decidable False)
  | .signed _ magnitude => inferInstanceAs (Decidable (magnitude.rank < infinityRank))

theorem Magnitude.exists_literal {m : Magnitude} (h : m.rank < infinityRank) :
    ∃ n : NumberLiteral, n.WellFormed ∧ ¬ n.IsWhole ∧ n.sign = none ∧ n.magnitude = m ∧
      m.text = String.ofList n.spelling := by
  rcases Nat.eq_zero_or_pos m.rank with zero | positive
  · refine ⟨⟨none, ['0'], some ['0'], none⟩, ?_, by decide, rfl, ?_, ?_⟩
    · refine ⟨by simp [IsSign], areDigits_replicate_zero 1, by simp, ?_, by simp⟩
      intro behind hbehind
      obtain rfl := Option.mem_some_iff.1 hbehind
      exact areDigits_replicate_zero 1
    · cases m
      obtain rfl := zero
      rfl
    · rw [text, if_pos zero]
      rfl
  · have back := ofDecimal_shortest h positive
    have some_digit : m.shortest.digits ≠ 0 := by
      intro none
      rw [none, ofDecimal, if_pos (.inl rfl)] at back
      rw [← back] at positive
      exact absurd positive (by decide)
    refine ⟨m.shortest.literal, Decimal.wellFormed_literal some_digit,
      Decimal.not_isWhole_literal _, Decimal.sign_literal _, ?_, ?_⟩
    · rw [Decimal.magnitude_literal some_digit, back]
    · rw [text, if_neg (Nat.ne_of_gt positive), if_neg (Nat.ne_of_lt h), Decimal.layout_eq]

/-- The text of a finite number is one literal, with a point or an exponent, that stands for the
number. -/
theorem Double.exists_literal {x : Double} (h : x.IsFinite) :
    ∃ n : NumberLiteral, n.WellFormed ∧ ¬ n.IsWhole ∧ n.toDouble = x ∧
      x.text = String.ofList n.spelling := by
  cases x with
  | nan => exact h.elim
  | signed negative magnitude =>
    obtain ⟨n, wf, fractional, unsigned, value, text⟩ := Magnitude.exists_literal h
    refine ⟨{ n with sign := NumberLiteral.signOf negative }, { wf with
      sign := NumberLiteral.isSign_signOf negative }, fractional, ?_, ?_⟩
    · have minus : (NumberLiteral.signOf negative == some '-') = negative := by
        cases negative <;> rfl
      rw [NumberLiteral.toDouble_eq, NumberLiteral.isNegative, minus, ← value]
      rfl
    · show (if negative then "-" else "") ++ magnitude.text = _
      rw [text]
      apply String.ext
      cases negative <;> simp [NumberLiteral.spelling, NumberLiteral.signOf, unsigned]

end ScreenNav
