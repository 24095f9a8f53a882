import ScreenNav.Text.CodeTable

/-!
# Blanks

The characters that count as white space around a type argument, and the removal of those at the
two ends of a piece of text.

**The table** holds the white space of Unicode and the four information separators `U+001C` to
`U+001F`. It extends the white space that the core library knows (`isBlank_of_isWhitespace`).

Main statements: `trim_eq_self`, that text without blanks at its ends is left alone, and
`length_trim_le`, that trimming never adds anything.
-/

namespace ScreenNav.Text

/-- The blanks, as ascending ranges of code points. -/
def blankTable : CodeTable := [
  (0x9, 0xD), (0x1C, 0x20), (0x85, 0x85), (0xA0, 0xA0), (0x1680, 0x1680), (0x2000, 0x200A),
  (0x2028, 0x2029), (0x202F, 0x202F), (0x205F, 0x205F), (0x3000, 0x3000)]

/-- A character that counts as white space. -/
def isBlank (c : Char) : Bool := blankTable.covers c

/-- The text without the blanks at its start. -/
def trimStart (text : List Char) : List Char := text.dropWhile isBlank

/-- The text without the blanks at its two ends. -/
def trim (text : List Char) : List Char := (trimStart (trimStart text).reverse).reverse

/-- White space of the core library is blank. -/
theorem isBlank_of_isWhitespace (c : Char) (h : c.isWhitespace = true) : isBlank c = true := by
  simp only [Char.isWhitespace, Bool.or_eq_true, decide_eq_true_eq] at h
  rcases h with ((h | h) | h) | h <;> subst h <;> decide

theorem length_trimStart_le (text : List Char) : (trimStart text).length ≤ text.length :=
  (List.dropWhile_suffix _).length_le

/-- Trimming never adds anything. -/
theorem length_trim_le (text : List Char) : (trim text).length ≤ text.length := by
  have h := length_trimStart_le (trimStart text).reverse
  have h' := length_trimStart_le text
  simp only [trim, List.length_reverse] at *
  omega

/-- Text that starts with no blank loses nothing at its start. -/
theorem trimStart_eq_self (text : List Char) (h : ∀ c ∈ text.head?, isBlank c = false) :
    trimStart text = text := by
  cases text with
  | nil => rfl
  | cons c rest => simp [trimStart, h c (by simp)]

/-- Text with no blank at either end is left alone. -/
theorem trim_eq_self (text : List Char) (first : ∀ c ∈ text.head?, isBlank c = false)
    (last : ∀ c ∈ text.getLast?, isBlank c = false) : trim text = text := by
  rw [trim, trimStart_eq_self text first, trimStart_eq_self, List.reverse_reverse]
  simpa using last

end ScreenNav.Text
