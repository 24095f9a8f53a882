import ScreenNav.Proofs.Literals

/-!
# Tokens in a text

A token that is spelled out, with something behind it that goes on with neither a word nor a number,
is the first candidate for the text that it starts (`candidates_spelling_append`). So it is the one
that is taken wherever its kind is asked for, whatever else the text could start with: a keyword that
is also a name, a keyword at the front of a name, a point that could open a number.

For this a name must not be a keyword, and what a string holds must be `IsQuotable`: a string ends at
the first quote that is not escaped, and escapes are kept as they are written.
-/

namespace ScreenNav

open Lexeme

/-! ## Tokens as they are written -/

/-- A letter or underscore, and then letters, digits and underscores. -/
def IsIdentifier (word : String) : Prop :=
  word.toList ≠ [] ∧ (∀ c ∈ word.toList.head?, isWordStart c = true) ∧
    ∀ c ∈ word.toList, isWordPart c = true

theorem isIdentifier_iff (word : String) : IsIdentifier word ↔
    (!word.toList.isEmpty && word.toList.head?.all isWordStart && word.toList.all isWordPart) =
      true := by
  simp [IsIdentifier, and_assoc, Option.all_eq_true]

instance (word : String) : Decidable (IsIdentifier word) :=
  decidable_of_iff' _ (isIdentifier_iff word)

/-- The number of backslashes at the end. -/
def backslashesBehind (text : List Char) : Nat := (text.reverse.takeWhile (· == '\\')).length

/-- What can stand between the quotes of a string: no newline, no quote that an even number of
backslashes precedes, and not an odd number of backslashes at the end. -/
structure IsQuotable (content : List Char) : Prop where
  one_line : '\n' ∉ content
  escaped : ∀ before behind, content = before ++ '"' :: behind → backslashesBehind before % 2 = 1
  ended : backslashesBehind content % 2 = 0

theorem isQuotable_iff (content : List Char) : IsQuotable content ↔ '\n' ∉ content ∧
    (∀ i < content.length, content[i]? = some '"' → backslashesBehind (content.take i) % 2 = 1) ∧
      backslashesBehind content % 2 = 0 := by
  constructor
  · intro h
    refine ⟨h.one_line, ?_, h.ended⟩
    intro i _ quote
    obtain ⟨hi, hquote⟩ := List.getElem?_eq_some_iff.1 quote
    refine h.escaped _ (content.drop (i + 1)) ?_
    rw [← hquote, List.getElem_cons_drop, List.take_append_drop]
  · intro h
    refine ⟨h.1, ?_, h.2.2⟩
    intro before behind hsplit
    have inside : before.length < content.length := by simp [hsplit]
    simpa [hsplit] using h.2.1 before.length inside

instance (content : List Char) : Decidable (IsQuotable content) :=
  decidable_of_iff' _ (isQuotable_iff content)

/-- The token is what its spelling reads as. -/
def Token.IsWritten : Token → Prop
  | .keyword _ | .symbol _ => True
  | .name word => IsIdentifier word ∧ Keyword.ofSpelling? word = none
  | .number literal => literal.WellFormed
  | .string content => IsQuotable content.toList

variable {rest : List Char} {t : Token}

/-! ## Words -/

theorem isIdentifier_spelling (k : Keyword) : IsIdentifier k.spelling := by
  cases k <;> decide

theorem exists_head_of_isIdentifier {word : String} (h : IsIdentifier word) :
    ∃ c cs, word.toList = c :: cs ∧ isWordStart c = true := by
  obtain ⟨c, cs, hword⟩ := List.exists_cons_of_ne_nil h.1
  exact ⟨c, cs, hword, h.2.1 c (by rw [hword]; rfl)⟩

theorem candidates_word {word : String} (h : IsIdentifier word)
    (hr : ∀ c ∈ rest.head?, isWordPart c = false) :
    candidates (word.toList ++ rest) =
      (Keyword.ofSpelling? word).toList.map .keyword
        ++ .name word :: (leadingKeywords (word.toList ++ rest)).map .keyword := by
  have whole : Lexeme.word (word.toList ++ rest) = word.toList :=
    takeWhile_run h.2.2 hr
  obtain ⟨c, cs, hword, starts⟩ := exists_head_of_isIdentifier h
  have same := String.ofList_toList (s := word)
  rw [hword] at whole same ⊢
  rw [List.cons_append] at whole ⊢
  simp only [candidates, starts, if_true, whole, same]

/-! ## Strings -/

theorem backslashesBehind_append (text : List Char) (c : Char) :
    backslashesBehind (text ++ [c]) = if c = '\\' then backslashesBehind text + 1 else 0 := by
  unfold backslashesBehind
  rw [List.reverse_append, List.reverse_singleton, List.singleton_append]
  by_cases h : c = '\\' <;> simp [h]

/-- The next character is escaped if an odd number of backslashes precedes it. -/
theorem escaped_append (before : List Char) (c : Char) :
    (c == '\\' && !decide (backslashesBehind before % 2 = 1)) =
      decide (backslashesBehind (before ++ [c]) % 2 = 1) := by
  rw [backslashesBehind_append]
  by_cases hc : c = '\\'
  · rw [if_pos hc, ← decide_not, hc]
    exact (Bool.true_and _).trans (decide_eq_decide.2 (by omega))
  · simp [hc]

/-- A string is read to its closing quote. The invariant is that `escaped` says whether the number of
backslashes just read is odd. -/
theorem stringContent?_quotable {content : List Char} (h : IsQuotable content)
    (before behind : List Char) (hcontent : content = before ++ behind) (rest : List Char) :
    stringContent? (decide (backslashesBehind before % 2 = 1)) (behind ++ '"' :: rest) =
      some behind := by
  induction behind generalizing before with
  | nil =>
    rw [List.append_nil] at hcontent
    have ended := h.ended
    rw [hcontent] at ended
    simp [stringContent?, ended]
  | cons c behind ih =>
    have newline : c ≠ '\n' := by
      rintro rfl
      exact h.one_line (by simp [hcontent])
    have inside : ¬ (c = '"' ∧ decide (backslashesBehind before % 2 = 1) = false) := by
      rintro ⟨rfl, even⟩
      exact absurd (h.escaped before behind hcontent) (of_decide_eq_false even)
    rw [List.cons_append, stringContent?, if_neg newline, if_neg inside,
      escaped_append, ih (before ++ [c]) (by simp [hcontent])]
    rfl

/-! ## One token -/

theorem not_isWordStart_of_isDigit {c : Char} (h : c.isDigit = true) : isWordStart c = false := by
  have small : c.val ≤ '9'.val := of_decide_eq_true (Bool.and_eq_true_iff.1 h).2
  have letter : c.isAlpha = false := by
    rw [Bool.eq_false_iff]
    intro letter
    obtain upper | lower := Bool.or_eq_true_iff.1 letter
    · have large : 'A'.val ≤ c.val := (of_decide_eq_true upper).1
      exact absurd (UInt32.le_trans large small) (by decide)
    · have large : 'a'.val ≤ c.val := of_decide_eq_true (Bool.and_eq_true_iff.1 lower).1
      exact absurd (UInt32.le_trans large small) (by decide)
  have underscore : c ≠ '_' := by
    rintro rfl
    exact absurd h (by decide)
  simp [isWordStart, letter, underscore]

theorem scan_symbol (s : Symbol) (hr : ∀ c ∈ rest.head?, c.isDigit = false) :
    NumberLiteral.scan (s.char :: rest) = none := by
  have digits : rest.takeWhile Char.isDigit = [] :=
    takeWhile_run (fun _ h => absurd h List.not_mem_nil) hr
  cases s <;> simp [NumberLiteral.scan, NumberLiteral.scanSign, NumberLiteral.scanFraction,
    Symbol.char, digits]

/-- The character starts white space or a comment. -/
def StartsLayout (c : Char) : Prop := isSpace c = true ∨ c = '#' ∨ c = '/'

instance (c : Char) : Decidable (StartsLayout c) := inferInstanceAs (Decidable (_ ∨ _))

/-- Layout goes on with neither a word nor a number. -/
theorem StartsLayout.delimits {c : Char} (h : StartsLayout c) : isWordPart c = false ∧ c ≠ '.' := by
  simp only [StartsLayout, isSpace, Bool.or_eq_true, beq_iff_eq, or_assoc] at h
  rcases h with rfl | rfl | rfl | rfl | rfl | rfl | rfl <;> decide

theorem not_startsLayout_of_isWordPart {c : Char} (part : isWordPart c = true) :
    ¬ StartsLayout c := by
  intro layout
  rw [layout.delimits.1] at part
  exact Bool.false_ne_true part

theorem IsIdentifier.exists_head {word : String} (h : IsIdentifier word) :
    ∃ c cs, word.toList = c :: cs ∧ ¬ StartsLayout c := by
  obtain ⟨c, cs, hcs, -⟩ := exists_head_of_isIdentifier h
  exact ⟨c, cs, hcs, not_startsLayout_of_isWordPart (h.2.2 c (hcs ▸ List.mem_cons_self ..))⟩

theorem not_startsLayout_char (s : Symbol) : ¬ StartsLayout s.char := by
  cases s <;> decide

/-- A token starts with no layout. -/
theorem exists_head_of_isWritten (h : t.IsWritten) :
    ∃ c cs, t.spelling = c :: cs ∧ ¬ StartsLayout c := by
  cases t with
  | keyword k => exact (isIdentifier_spelling k).exists_head
  | name w => exact h.1.exists_head
  | symbol s => exact ⟨s.char, [], rfl, not_startsLayout_char s⟩
  | number literal =>
    obtain ⟨c, cs, hcs, rfl | rfl | digit⟩ := NumberLiteral.exists_head h
    · exact ⟨_, cs, hcs, by decide⟩
    · exact ⟨_, cs, hcs, by decide⟩
    · have part : isWordPart c = true := by simp [isWordPart, Char.isAlphanum, digit]
      exact ⟨c, cs, hcs, not_startsLayout_of_isWordPart part⟩
  | string content => exact ⟨'"', content.toList ++ ['"'], rfl, by decide⟩

/-- A symbol is the only candidate, unless it could be the point of a number. -/
theorem candidates_symbol (s : Symbol) (hr : ∀ c ∈ rest.head?, c.isDigit = false) :
    candidates (s.char :: rest) = [.symbol s] := by
  have wordless : isWordStart s.char = false := by cases s <;> decide
  have unquoted : s.char ≠ '"' := by cases s <;> decide
  simp [candidates, wordless, unquoted, scan_symbol s hr, Symbol.ofChar?_char]

/-- A token with something behind it that does not go on with it is the first candidate. -/
theorem candidates_spelling_append (h : t.IsWritten) (hr : Delimits rest) :
    (candidates (t.spelling ++ rest)).head? = some t := by
  have wordEnds : ∀ c ∈ rest.head?, isWordPart c = false := fun c hc => (hr c hc).1
  cases t with
  | keyword k =>
    show (candidates (k.spelling.toList ++ rest)).head? = _
    rw [candidates_word (isIdentifier_spelling k) wordEnds, Keyword.ofSpelling?_spelling]
    rfl
  | name word =>
    show (candidates (word.toList ++ rest)).head? = _
    rw [candidates_word h.1 wordEnds, h.2]
    rfl
  | symbol s =>
    show (candidates (s.char :: rest)).head? = _
    rw [candidates_symbol s hr.not_isDigit, List.head?_cons]
  | number literal =>
    have scanned := NumberLiteral.scan_spelling_append h hr
    obtain ⟨c, cs, hspelling, start⟩ := NumberLiteral.exists_head h
    have wordless : isWordStart c = false := by
      rcases start with rfl | rfl | digit
      · decide
      · decide
      · exact not_isWordStart_of_isDigit digit
    have unquoted : c ≠ '"' := by
      rintro rfl
      exact absurd start (by decide)
    show (candidates (literal.spelling ++ rest)).head? = _
    rw [hspelling, List.cons_append] at scanned ⊢
    simp [candidates, wordless, unquoted, scanned]
  | string content =>
    have closed : stringContent? false (content.toList ++ '"' :: rest) = some content.toList :=
      stringContent?_quotable h [] content.toList rfl rest
    show (candidates ('"' :: (content.toList ++ ['"'] ++ rest))).head? = _
    rw [List.append_assoc, List.singleton_append]
    simp [candidates, isWordStart, closed]

/-- Where a token is asked for, it is the one that is taken. -/
theorem select?_spelling_append (h : t.IsWritten) (hr : Delimits rest) {asked : TokenKind → Bool}
    (ht : asked t.kind = true) : select? asked (t.spelling ++ rest) = some t := by
  have first := candidates_spelling_append h hr
  unfold select?
  cases hc : candidates (t.spelling ++ rest) with
  | nil => simp [hc] at first
  | cons other others =>
    rw [hc] at first
    obtain rfl := Option.some.inj first
    exact List.find?_cons_of_pos ht

end ScreenNav
