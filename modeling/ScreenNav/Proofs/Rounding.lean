import Mathlib.Tactic.Ring
import ScreenNav.Double.Shortest

/-!
# Decimals that read back

Which double-precision number a decimal is read as depends on its value alone: factors common to both
sides of a quotient make no difference to rounding (`ofRatio_mul`), and zeros at the end of the
digits can be moved into the exponent (`ofDecimal_mul_tenPow`).

Every finite magnitude is read back from the decimal that stands for it (`ofDecimal_shortest`). Where
the search has found that decimal this is how it was found; otherwise it is the exact expansion, and a
number of the format is not changed by rounding.
-/

namespace ScreenNav

theorem tenPow_eq (n : Nat) : tenPow n = 10 ^ n := rfl

theorem twoPow_pos (n : Nat) : 0 < twoPow n := Nat.two_pow_pos n

theorem twoPow_le_twoPow {a b : Nat} (h : a ≤ b) : twoPow a ≤ twoPow b :=
  Nat.pow_le_pow_right (by decide) h

theorem tenPow_pos (n : Nat) : 0 < tenPow n := Nat.pow_pos (by decide)

/-! ## Quotients -/

/-- A common factor makes no difference to rounding. -/
theorem roundHalfEven_mul (num den : Nat) {c : Nat} (hc : 0 < c) :
    roundHalfEven (num * c) (den * c) = roundHalfEven num den := by
  have below : num * c / (den * c) = num / den := Nat.mul_div_mul_right num den hc
  have twice : 2 * (num * c % (den * c)) = 2 * (num % den) * c := by
    rw [Nat.mul_mod_mul_right, Nat.mul_assoc]
  simp only [roundHalfEven, below, twice, Nat.mul_lt_mul_right hc]

namespace Magnitude

theorem ofRatio_mul (num den : Nat) {c : Nat} (hc : 0 < c) :
    ofRatio (num * c) (den * c) = ofRatio num den := by
  have scaled : num * c * twoPow 1074 = num * twoPow 1074 * c := Nat.mul_right_comm ..
  have rounded : ∀ shift, roundHalfEven (num * twoPow 1074 * c) (den * c * twoPow shift) =
      roundHalfEven (num * twoPow 1074) (den * twoPow shift) := by
    intro shift
    rw [Nat.mul_right_comm den]
    exact roundHalfEven_mul _ _ hc
  simp only [ofRatio, scaled, rounded, Nat.mul_div_mul_right _ den hc]

/-! ## Decimals -/

theorem toDigits_mul_tenPow {n : Nat} (hn : 0 < n) (count : Nat) :
    Nat.toDigits 10 (n * tenPow count) = Nat.toDigits 10 n ++ List.replicate count '0' := by
  induction count with
  | zero => simp [tenPow_eq]
  | succ count ih =>
    have shifted : n * tenPow (count + 1) = 10 * (n * tenPow count) + 0 := by
      rw [tenPow_eq, tenPow_eq, Nat.pow_succ]
      ring
    have positive : 0 < n * tenPow count := Nat.mul_pos hn (tenPow_pos count)
    rw [shifted, ← Nat.toDigits_append_toDigits (by decide) positive (by decide), ih,
      List.replicate_succ', List.append_assoc]
    rfl

theorem length_toDigits_mul_tenPow {n : Nat} (hn : 0 < n) (count : Nat) :
    (Nat.toDigits 10 (n * tenPow count)).length = (Nat.toDigits 10 n).length + count := by
  rw [toDigits_mul_tenPow hn, List.length_append, List.length_replicate]

theorem length_toDigits_le_iff {n count : Nat} (h : 0 < count) :
    (Nat.toDigits 10 n).length ≤ count ↔ n < tenPow count :=
  Nat.length_toDigits_le_iff (by decide) h

/-- The quotient that stands for a decimal of moderate size. -/
def ofModerate (digits : Nat) (exponent : Int) : Magnitude :=
  if 0 ≤ exponent then .ofRatio (digits * tenPow exponent.toNat) 1
  else .ofRatio digits (tenPow (-exponent).toNat)

theorem ofModerate_mul_tenPow (digits count : Nat) (exponent : Int) :
    ofModerate (digits * tenPow count) exponent = ofModerate digits (exponent + count) := by
  have add : ∀ a b, tenPow (a + b) = tenPow a * tenPow b := fun a b => Nat.pow_add 10 a b
  unfold ofModerate
  by_cases whole : 0 ≤ exponent
  · have sum : (exponent + count).toNat = count + exponent.toNat := by omega
    rw [if_pos whole, if_pos (by omega), sum, add, Nat.mul_assoc]
  · rw [if_neg whole]
    by_cases both : 0 ≤ exponent + count
    · have sum : count = (exponent + count).toNat + (-exponent).toNat := by omega
      rw [if_pos both]
      nth_rewrite 1 [sum]
      rw [add, ← Nat.mul_assoc, ← ofRatio_mul _ 1 (tenPow_pos (-exponent).toNat), Nat.one_mul]
    · have sum : (-exponent).toNat = (-(exponent + count)).toNat + count := by omega
      rw [if_neg both, sum, add, ofRatio_mul _ _ (tenPow_pos count)]

/-- Zeros at the end of the digits can be moved into the exponent. -/
theorem ofDecimal_mul_tenPow (digits count : Nat) (exponent : Int) :
    ofDecimal (digits * tenPow count) exponent = ofDecimal digits (exponent + count) := by
  rcases Nat.eq_zero_or_pos digits with rfl | positive
  · simp [ofDecimal]
  · have nonzero : digits * tenPow count ≠ 0 :=
      Nat.ne_of_gt (Nat.mul_pos positive (tenPow_pos count))
    have places : ((Nat.toDigits 10 digits).length + count : Int) + exponent =
        (Nat.toDigits 10 digits).length + (exponent + count) := by
      ring
    have moderate := ofModerate_mul_tenPow digits count exponent
    unfold ofModerate at moderate
    simp only [ofDecimal, length_toDigits_mul_tenPow positive, Nat.cast_add, places, moderate,
      nonzero, Nat.ne_of_gt positive, false_or]

/-! ## Numbers of the format -/

variable {m : Magnitude}

/-- A finite magnitude as a significand and a power of two. -/
structure Split (m : Magnitude) (significand shift : Nat) : Prop where
  units : m.units = significand * twoPow shift
  rank : m.rank = shift * twoPow 52 + significand
  small : significand < twoPow 53
  /-- Only the least numbers have fewer than 53 bits. -/
  full : shift = 0 ∨ twoPow 52 ≤ significand
  bounded : shift ≤ 2045

theorem exists_split (h : m.rank < infinityRank) : ∃ significand shift, Split m significand shift := by
  have double : twoPow 53 = 2 * twoPow 52 := by decide
  by_cases least : m.rank < twoPow 52
  · refine ⟨m.rank, 0, ?_, by simp, by omega, .inl rfl, by decide⟩
    rw [units_eq_rank m least]
    exact (Nat.mul_one _).symm
  · have positive : 0 < twoPow 52 := twoPow_pos 52
    have parts := Nat.div_add_mod m.rank (twoPow 52)
    have rest : m.rank % twoPow 52 < twoPow 52 := Nat.mod_lt _ positive
    have above : 1 ≤ m.rank / twoPow 52 := (Nat.one_le_div_iff positive).2 (by omega)
    have below : m.rank / twoPow 52 < 2047 := (Nat.div_lt_iff_lt_mul positive).2 h
    refine ⟨twoPow 52 + m.rank % twoPow 52, m.rank / twoPow 52 - 1, if_neg least, ?_, by omega,
      .inr (by omega), by omega⟩
    rw [Nat.sub_mul]
    have least_le : 1 * twoPow 52 ≤ m.rank / twoPow 52 * twoPow 52 := Nat.mul_le_mul_right _ above
    rw [Nat.mul_comm (twoPow 52)] at parts
    omega

theorem Split.log2 {significand shift : Nat} (hm : Split m significand shift) :
    m.units.log2 - 52 = shift := by
  rcases hm.full with rfl | full
  · have units : m.units = significand := hm.units.trans (Nat.mul_one _)
    rw [units]
    rcases Nat.eq_zero_or_pos significand with rfl | positive
    · rfl
    · have := (Nat.log2_lt (Nat.ne_of_gt positive)).2 hm.small
      omega
  · have add : ∀ k, twoPow k * twoPow shift = 2 ^ (k + shift) := fun k => (Nat.pow_add 2 k shift).symm
    have above : 2 ^ (52 + shift) ≤ m.units := by
      rw [hm.units, ← add]
      exact Nat.mul_le_mul_right _ full
    have below : m.units < 2 ^ (53 + shift) := by
      rw [hm.units, ← add]
      exact Nat.mul_lt_mul_of_pos_right hm.small (twoPow_pos shift)
    have nonzero : m.units ≠ 0 := Nat.ne_of_gt (Nat.lt_of_lt_of_le (Nat.two_pow_pos _) above)
    have log2 : m.units.log2 = 52 + shift :=
      (Nat.log2_eq_iff nonzero).2 ⟨above, by rwa [Nat.add_right_comm]⟩
    omega

/-- A number of the format is not changed by rounding. -/
theorem ofRatio_eq {num den : Nat} (h : m.rank < infinityRank) (hden : 0 < den)
    (value : num * twoPow 1074 = m.units * den) : ofRatio num den = m := by
  obtain ⟨significand, shift, hm⟩ := exists_split h
  have exact : m.units * den = significand * (den * twoPow shift) := by
    rw [hm.units]
    ring
  simp only [ofRatio, value, Nat.mul_div_cancel _ hden, hm.log2]
  rw [exact, roundHalfEven_self _ _ (Nat.mul_pos hden (twoPow_pos shift)), ← hm.rank]
  cases m
  simp [ofRank, Nat.le_of_lt h]

theorem units_pos (h : m.rank < infinityRank) (nonzero : 0 < m.rank) : 0 < m.units := by
  obtain ⟨significand, shift, hm⟩ := exists_split h
  have positive : 0 < significand := by
    have := hm.rank
    have := twoPow_pos 52
    rcases hm.full with rfl | full <;> omega
  rw [hm.units]
  exact Nat.mul_pos positive (twoPow_pos shift)

theorem units_lt (h : m.rank < infinityRank) : m.units < twoPow 2098 := by
  obtain ⟨significand, shift, hm⟩ := exists_split h
  have below : significand * twoPow shift < twoPow 53 * twoPow shift :=
    Nat.mul_lt_mul_of_pos_right hm.small (twoPow_pos shift)
  have bounded : twoPow shift ≤ twoPow 2045 := twoPow_le_twoPow hm.bounded
  calc m.units = significand * twoPow shift := hm.units
    _ < twoPow 53 * twoPow shift := below
    _ ≤ twoPow 53 * twoPow 2045 := Nat.mul_le_mul_left _ bounded
    _ = twoPow 2098 := by decide +kernel

/-- The exact expansion is read back. -/
theorem ofDecimal_expansion (h : m.rank < infinityRank) (nonzero : 0 < m.rank) :
    ofDecimal m.expansion.digits m.expansion.exponent = m := by
  have positive := units_pos h nonzero
  have lower : tenPow 744 ≤ m.expansion.digits := calc
    tenPow 744 ≤ Nat.pow 5 1074 := by decide +kernel
    _ ≤ m.units * Nat.pow 5 1074 := Nat.le_mul_of_pos_left _ positive
  have upper : m.expansion.digits < tenPow 1384 := calc
    m.units * Nat.pow 5 1074 < twoPow 2098 * Nat.pow 5 1074 :=
      Nat.mul_lt_mul_of_pos_right (units_lt h) (by decide +kernel)
    _ ≤ tenPow 1384 := by decide +kernel
  have value : m.expansion.digits * twoPow 1074 = m.units * tenPow 1074 := by
    have tens : Nat.pow 5 1074 * twoPow 1074 = tenPow 1074 := by decide +kernel
    rw [expansion, Nat.mul_assoc, tens]
  have many : ¬ (Nat.toDigits 10 m.expansion.digits).length ≤ 744 := by
    rw [length_toDigits_le_iff (by decide)]
    exact Nat.not_lt.2 lower
  have few : (Nat.toDigits 10 m.expansion.digits).length ≤ 1384 := by
    rw [length_toDigits_le_iff (by decide)]
    exact upper
  have some_digit : m.expansion.digits ≠ 0 := by
    intro zero
    rw [zero] at lower
    exact absurd (tenPow_pos 744) (Nat.not_lt.2 lower)
  have exponent : m.expansion.exponent = -1074 := rfl
  rw [ofDecimal, exponent, if_neg (by omega), if_neg (by omega), if_neg (by decide)]
  exact ofRatio_eq h (tenPow_pos _) value

/-- The decimal that stands for a finite magnitude other than zero is read back as that. -/
theorem ofDecimal_shortest (h : m.rank < infinityRank) (nonzero : 0 < m.rank) :
    ofDecimal m.shortest.digits m.shortest.exponent = m := by
  unfold shortest
  cases found : m.shortest? with
  | none => exact ofDecimal_expansion h nonzero
  | some d => exact of_decide_eq_true (shortest?_readsBack found)

end Magnitude

end ScreenNav
