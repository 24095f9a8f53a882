import ScreenNav.Declaration.Lexeme

/-!
# Number literals in a text

A number literal that stands in a text is scanned as the literal it is, as long as nothing follows
that would go on with it (`scan_spelling_append`). A space, the start of a comment and the end of the
text do not.
-/

namespace ScreenNav

/-! ## Runs -/

section

variable {α : Type} {p : α → Bool} {run rest : List α}

theorem takeWhile_run (inside : ∀ a ∈ run, p a = true) (ends : ∀ a ∈ rest.head?, p a = false) :
    (run ++ rest).takeWhile p = run := by
  rw [List.takeWhile_append_of_pos inside]
  cases rest with
  | nil => simp
  | cons a rest => simp [ends a rfl]

theorem dropWhile_run (inside : ∀ a ∈ run, p a = true) (ends : ∀ a ∈ rest.head?, p a = false) :
    (run ++ rest).dropWhile p = rest := by
  rw [List.dropWhile_append_of_pos inside]
  cases rest with
  | nil => simp
  | cons a rest => simp [ends a rfl]

end

/-- Neither a word nor a number goes on in the text: it is empty, or starts with a character that is
neither part of a word nor a point. -/
def Lexeme.Delimits (rest : List Char) : Prop :=
  ∀ c ∈ rest.head?, isWordPart c = false ∧ c ≠ '.'

theorem Lexeme.Delimits.not_isDigit {rest : List Char} (h : Delimits rest) :
    ∀ c ∈ rest.head?, c.isDigit = false := by
  intro c hc
  have outside := (h c hc).1
  simp only [isWordPart, Char.isAlphanum, Bool.or_eq_false_iff] at outside
  exact outside.1.2

/-! ## Form -/

/-- Nothing but digits. -/
def AreDigits (digits : List Char) : Prop := ∀ c ∈ digits, c.isDigit = true

/-- A sign, or none. -/
def IsSign (sign : Option Char) : Prop := ∀ c ∈ sign, c = '+' ∨ c = '-'

/-- One of the letters, and digits behind it. -/
structure ExponentPart.WellFormed (e : ExponentPart) : Prop where
  mark : e.mark = 'e' ∨ e.mark = 'E'
  sign : IsSign e.sign
  digits : AreDigits e.digits
  some_digit : e.digits ≠ []

namespace NumberLiteral

open Lexeme

variable {rest : List Char} {n : NumberLiteral}

/-- The form of a number with digits before the point. -/
structure WellFormed (n : NumberLiteral) : Prop where
  sign : IsSign n.sign
  whole : AreDigits n.whole
  some_digit : n.whole ≠ []
  fraction : ∀ digits ∈ n.fraction, AreDigits digits
  exponent : ∀ e ∈ n.exponent, e.WellFormed

/-! ## The parts of a literal -/

theorem ne_sign_of_isDigit {c : Char} (h : c.isDigit = true) : ¬ (c = '+' ∨ c = '-') := by
  rintro (rfl | rfl) <;> revert h <;> decide

theorem scanSign_append_digits {sign : Option Char} {digits : List Char} (hs : IsSign sign)
    (hd : AreDigits digits) (some_digit : digits ≠ []) (rest : List Char) :
    scanSign (sign.toList ++ (digits ++ rest)) = (sign, digits ++ rest) := by
  cases sign with
  | none =>
    obtain ⟨d, digits, rfl⟩ := List.exists_cons_of_ne_nil some_digit
    exact if_neg (ne_sign_of_isDigit (hd d (List.mem_cons_self ..)))
  | some c => exact if_pos (hs c rfl)

theorem scanExponent_spelling_append {exponent : Option ExponentPart}
    (he : ∀ e ∈ exponent, e.WellFormed) (hr : Delimits rest) :
    scanExponent (exponent.elim [] ExponentPart.spelling ++ rest) = (exponent, rest) := by
  cases exponent with
  | none =>
    cases rest with
    | nil => rfl
    | cons c rest =>
      have other : ¬ (c = 'e' ∨ c = 'E') := by
        rintro (rfl | rfl) <;> exact absurd (hr _ rfl).1 (by decide)
      simp [scanExponent, other]
  | some e =>
    have wf := he e rfl
    have signed := scanSign_append_digits wf.sign wf.digits wf.some_digit rest
    have text : (some e).elim [] ExponentPart.spelling ++ rest =
        e.mark :: (e.sign.toList ++ (e.digits ++ rest)) := by
      simp [ExponentPart.spelling]
    rw [text, scanExponent, signed]
    simp only [takeWhile_run wf.digits hr.not_isDigit, dropWhile_run wf.digits hr.not_isDigit]
    exact if_pos ⟨wf.mark, wf.some_digit⟩

/-- Behind the digits of a literal there is an exponent or the rest of the text. -/
theorem head?_exponent_append {exponent : Option ExponentPart} (he : ∀ e ∈ exponent, e.WellFormed)
    (hr : Delimits rest) : ∀ c ∈ (exponent.elim [] ExponentPart.spelling ++ rest).head?,
      c.isDigit = false ∧ c ≠ '.' := by
  cases exponent with
  | none => exact fun c hc => ⟨hr.not_isDigit c hc, (hr c hc).2⟩
  | some e =>
    intro c hc
    obtain rfl : e.mark = c := by simpa [ExponentPart.spelling] using hc
    rcases (he e rfl).mark with mark | mark <;> rw [mark] <;> decide

theorem scanFraction_spelling_append {fraction : Option (List Char)} {tail : List Char}
    (hf : ∀ digits ∈ fraction, AreDigits digits)
    (ht : ∀ c ∈ tail.head?, c.isDigit = false ∧ c ≠ '.') :
    scanFraction 0 (fraction.elim [] ('.' :: ·) ++ tail) = (fraction, tail) := by
  cases fraction with
  | none =>
    cases tail with
    | nil => rfl
    | cons c tail => simp [scanFraction, (ht c rfl).2]
  | some digits =>
    have wf := hf digits rfl
    have ends : ∀ c ∈ tail.head?, c.isDigit = false := fun c hc => (ht c hc).1
    simp [scanFraction, takeWhile_run wf ends, dropWhile_run wf ends]

/-- Behind the whole part of a literal there is no digit. -/
theorem head?_fraction_append {fraction : Option (List Char)} {tail : List Char}
    (ht : ∀ c ∈ tail.head?, c.isDigit = false ∧ c ≠ '.') :
    ∀ c ∈ (fraction.elim [] ('.' :: ·) ++ tail).head?, c.isDigit = false := by
  cases fraction with
  | none => exact fun c hc => (ht c hc).1
  | some digits =>
    intro c hc
    obtain rfl : '.' = c := by simpa using hc
    decide

/-- A literal with nothing behind it that would go on with it is scanned as it is. -/
theorem scan_spelling_append (h : n.WellFormed) (hr : Delimits rest) :
    scan (n.spelling ++ rest) = some (n, rest) := by
  have behind := head?_exponent_append h.exponent hr
  have text : n.spelling ++ rest = n.sign.toList ++ (n.whole ++ (n.fraction.elim [] ('.' :: ·) ++
      (n.exponent.elim [] ExponentPart.spelling ++ rest))) := by
    simp [spelling]
  have least : 1 - n.whole.length = 0 := by
    have := List.length_pos_iff.2 h.some_digit
    omega
  rw [text, scan, scanSign_append_digits h.sign h.whole h.some_digit]
  simp only [takeWhile_run h.whole (head?_fraction_append behind),
    dropWhile_run h.whole (head?_fraction_append behind), least,
    scanFraction_spelling_append h.fraction behind, scanExponent_spelling_append h.exponent hr,
    h.some_digit, false_and, if_false]

/-- A literal starts with a sign or a digit. -/
theorem exists_head (h : n.WellFormed) :
    ∃ c cs, n.spelling = c :: cs ∧ (c = '+' ∨ c = '-' ∨ c.isDigit = true) := by
  obtain ⟨d, whole, hwhole⟩ := List.exists_cons_of_ne_nil h.some_digit
  have digit : d.isDigit = true := h.whole d (hwhole ▸ List.mem_cons_self ..)
  cases hsign : n.sign with
  | none => exact ⟨d, _, by simp [spelling, hsign, hwhole]; rfl, .inr (.inr digit)⟩
  | some c =>
    refine ⟨c, _, by simp [spelling, hsign]; rfl, ?_⟩
    rcases h.sign c hsign with rfl | rfl <;> simp

/-- The literal with the given text. -/
def ofText? (text : String) : Option NumberLiteral :=
  match scan text.toList with
  | some (literal, []) => some literal
  | _ => none

theorem ofText?_spelling (h : n.WellFormed) : ofText? (String.ofList n.spelling) = some n := by
  have scanned : scan (n.spelling ++ []) = some (n, []) :=
    scan_spelling_append h (by simp [Delimits])
  rw [List.append_nil] at scanned
  rw [ofText?, String.toList_ofList, scanned]

end NumberLiteral

end ScreenNav
