import Mathlib.Data.List.TakeWhile
import ScreenNav.Proofs.Reading

/-!
# The text that was read

A text that is read consists of the tokens that were read from it, with layout around them, and
nothing else (`Reader.spells_of_read`). This holds for every text, well written or not, as long as it
is read to its end.

What has to be shown is that the reading skips exactly what it has accounted for: a piece of layout is
passed over as a whole, and a token that is taken has the form of its kind and stands at the start of
the text. The forms are those of the grammar's terminals; a number may start with its point here.
-/

namespace ScreenNav

open Lexeme

/-! ## Forms of tokens -/

/-- Digits with at most one point among them, perhaps with a sign in front and an exponent behind. -/
structure NumberLiteral.IsSpelled (n : NumberLiteral) : Prop where
  sign : IsSign n.sign
  whole : AreDigits n.whole
  fraction : ∀ digits ∈ n.fraction, AreDigits digits
  some_digit : n.whole ≠ [] ∨ ∃ digits ∈ n.fraction, digits ≠ []
  exponent : ∀ e ∈ n.exponent, e.WellFormed

/-- The token has the form of its kind. -/
def Token.IsLexeme : Token → Prop
  | .keyword _ | .symbol _ => True
  | .name word => IsIdentifier word
  | .number literal => literal.IsSpelled
  | .string content => IsQuotable content.toList

/-- The text consists of the tokens, with white space and comments before, between and behind them. A
comment goes up to the end of its line, or of the text. -/
inductive Spells : List Token → List Char → Prop
  | nil : Spells [] []
  | space {tokens : List Token} {c : Char} {rest : List Char} : isSpace c = true →
      Spells tokens rest → Spells tokens (c :: rest)
  | comment {tokens : List Token} {mark body rest : List Char} : mark = ['#'] ∨ mark = ['/', '/'] →
      '\n' ∉ body → (∀ c ∈ rest.head?, c = '\n') → Spells tokens rest →
      Spells tokens (mark ++ body ++ rest)
  | token {token : Token} {tokens : List Token} {rest : List Char} : token.IsLexeme →
      Spells tokens rest → Spells (token :: tokens) (token.spelling ++ rest)

/-! ## Numbers -/

namespace NumberLiteral

theorem areDigits_takeWhile (text : List Char) : AreDigits (text.takeWhile Char.isDigit) :=
  fun _ hc => List.mem_takeWhile_imp hc

theorem isSign_scanSign (text : List Char) : IsSign (scanSign text).1 := by
  cases text with
  | nil => simp [scanSign, IsSign]
  | cons c rest =>
    simp only [scanSign]
    split
    · rename_i sign
      intro d hd
      obtain rfl := Option.some.inj hd
      exact sign
    · simp [IsSign]

theorem wellFormed_scanExponent (text : List Char) :
    ∀ e ∈ (scanExponent text).1, e.WellFormed := by
  cases text with
  | nil => simp [scanExponent]
  | cons c rest =>
    simp only [scanExponent]
    split
    · rename_i complete
      intro e he
      obtain rfl := Option.some.inj he
      exact ⟨complete.1, isSign_scanSign rest, areDigits_takeWhile _, complete.2⟩
    · simp

theorem scanFraction_spelled (least : Nat) (text : List Char) :
    ∀ digits ∈ (scanFraction least text).1, AreDigits digits ∧ least ≤ digits.length := by
  cases text with
  | nil => simp [scanFraction]
  | cons c rest =>
    simp only [scanFraction]
    split
    · rename_i complete
      intro digits hd
      obtain rfl := Option.some.inj hd
      exact ⟨areDigits_takeWhile _, complete.2⟩
    · simp

/-- What is scanned has the form of a number. -/
theorem isSpelled_of_scan {text rest : List Char} {n : NumberLiteral}
    (h : scan text = some (n, rest)) : n.IsSpelled := by
  simp only [scan] at h
  split at h
  · simp at h
  · rename_i some_digit
    obtain ⟨rfl, -⟩ := Prod.mk.inj (Option.some.inj h)
    have fraction := scanFraction_spelled
      (1 - ((scanSign text).2.takeWhile Char.isDigit).length)
      ((scanSign text).2.dropWhile Char.isDigit)
    refine ⟨isSign_scanSign text, areDigits_takeWhile _, fun digits hd => (fraction digits hd).1, ?_,
      wellFormed_scanExponent _⟩
    by_cases none : (scanSign text).2.takeWhile Char.isDigit = []
    · obtain ⟨digits, hd⟩ := Option.ne_none_iff_exists'.1 fun absent => some_digit ⟨none, absent⟩
      have least := (fraction digits hd).2
      rw [none] at least
      exact .inr ⟨digits, hd, List.length_pos_iff.1 least⟩
    · exact .inl none

end NumberLiteral

/-! ## Strings -/

/-- What is read up to a closing quote can stand between quotes. The invariant is that `escaped` says
whether the number of backslashes before is odd. -/
theorem quotable_of_stringContent? {text content : List Char} (before : List Char)
    (h : stringContent? (decide (backslashesBehind before % 2 = 1)) text = some content) :
    '\n' ∉ content ∧
      (∀ inside behind, content = inside ++ '"' :: behind →
        backslashesBehind (before ++ inside) % 2 = 1) ∧
      backslashesBehind (before ++ content) % 2 = 0 := by
  induction text generalizing before content with
  | nil => cases h
  | cons c text ih =>
    rw [stringContent?] at h
    split at h
    · cases h
    rename_i newline
    split at h
    · rename_i closes
      obtain rfl := Option.some.inj h
      have even := of_decide_eq_false closes.2
      refine ⟨List.not_mem_nil, by simp, ?_⟩
      rw [List.append_nil]
      omega
    rename_i goes_on
    obtain ⟨content, hcontent, rfl⟩ := Option.map_eq_some_iff.1 h
    rw [escaped_append] at hcontent
    obtain ⟨one_line, escaped, ended⟩ := ih (before ++ [c]) hcontent
    rw [← List.append_cons] at ended
    refine ⟨?_, fun inside behind same => ?_, ended⟩
    · rintro (_ | ⟨_, later⟩)
      · exact newline rfl
      · exact one_line later
    · cases inside with
      | nil =>
        obtain ⟨rfl, -⟩ := List.cons.inj same
        rw [List.append_nil]
        by_contra even
        exact goes_on ⟨rfl, decide_eq_false even⟩
      | cons d inside =>
        obtain ⟨rfl, rest⟩ := List.cons.inj same
        rw [List.append_cons]
        exact escaped inside behind rest

theorem isQuotable_of_stringContent? {text content : List Char}
    (h : stringContent? false text = some content) : IsQuotable content := by
  obtain ⟨one_line, escaped, ended⟩ := quotable_of_stringContent? [] h
  exact ⟨one_line, escaped, ended⟩

/-! ## Candidates -/

theorem isWordPart_of_isWordStart {c : Char} (h : isWordStart c = true) : isWordPart c = true := by
  simp only [isWordStart, isWordPart, Char.isAlphanum, Bool.or_eq_true] at h ⊢
  exact h.imp_left .inl

/-- What a text can start with has the form of a token. -/
theorem isLexeme_of_mem_candidates {text : List Char} {t : Token} (h : t ∈ candidates text) :
    t.IsLexeme := by
  cases text with
  | nil => exact absurd h List.not_mem_nil
  | cons c rest =>
    rw [candidates] at h
    split at h
    · rename_i start
      simp only [List.mem_append, List.mem_map, List.mem_cons] at h
      rcases h with ⟨k, -, rfl⟩ | rfl | ⟨k, -, rfl⟩
      · trivial
      · have part := isWordPart_of_isWordStart start
        show IsIdentifier _
        refine ⟨?_, ?_, ?_⟩ <;> rw [String.toList_ofList]
        · simp [word, part]
        · simp [word, part, start]
        · exact fun _ hc => List.mem_takeWhile_imp hc
      · trivial
    split at h
    · obtain ⟨content, hcontent, rfl⟩ := List.mem_map.1 h
      show IsQuotable (String.ofList content).toList
      rw [String.toList_ofList]
      exact isQuotable_of_stringContent? (Option.mem_toList.1 hcontent)
    · simp only [List.mem_append, List.mem_map, Option.mem_toList] at h
      rcases h with ⟨⟨literal, tail⟩, scanned, rfl⟩ | ⟨s, -, rfl⟩
      · exact NumberLiteral.isSpelled_of_scan scanned
      · trivial

theorem spelling_ne_nil_of_isLexeme {t : Token} (h : t.IsLexeme) : t.spelling ≠ [] := by
  cases t with
  | keyword k => exact (isIdentifier_spelling k).1
  | name word => exact h.1
  | symbol s => exact List.cons_ne_nil _ _
  | number literal =>
    intro empty
    simp only [Token.spelling, NumberLiteral.spelling, List.append_eq_nil_iff] at empty
    obtain ⟨⟨⟨-, whole⟩, fraction⟩, -⟩ := empty
    obtain digit | ⟨digits, hd, -⟩ := h.some_digit
    · exact digit whole
    · rw [Option.mem_def.1 hd] at fraction
      exact absurd fraction (List.cons_ne_nil _ _)
  | string content => exact List.cons_ne_nil _ _

/-! ## Layout -/

/-- A comment goes up to the end of its line. -/
theorem exists_comment {text : List Char} (h : startsComment text = true) :
    ∃ mark body, (mark = ['#'] ∨ mark = ['/', '/']) ∧ '\n' ∉ body ∧
      text.takeWhile (· ≠ '\n') = mark ++ body := by
  have inside : ∀ rest : List Char, '\n' ∉ rest.takeWhile (· ≠ '\n') := by
    intro rest newline
    simpa using List.mem_takeWhile_imp newline
  unfold startsComment at h
  split at h
  · exact ⟨['#'], _, .inl rfl, inside _, rfl⟩
  · exact ⟨['/', '/'], _, .inr rfl, inside _, rfl⟩
  · exact nomatch h

/-- White space or a comment is passed over as a whole. -/
theorem spells_of_layoutLength {tokens : List Token} {c : Char} {rest : List Char} {length : Nat}
    (h : layoutLength (c :: rest) = length + 1) (hrest : Spells tokens (rest.drop length)) :
    Spells tokens (c :: rest) := by
  rw [layoutLength] at h
  split at h
  · obtain rfl := Nat.succ.inj h
    exact .space ‹_› hrest
  split at h
  · obtain ⟨mark, body, hmark, hbody, line⟩ := exists_comment ‹_›
    have whole := List.takeWhile_append_dropWhile (p := (· ≠ '\n')) (l := c :: rest)
    have behind : rest.drop length = (c :: rest).dropWhile (· ≠ '\n') := by
      have dropped := congrArg (List.drop (length + 1)) whole
      rw [List.drop_left' h] at dropped
      exact dropped.symm
    rw [line, ← behind] at whole
    rw [← whole]
    refine .comment hmark hbody (fun d hd => ?_) hrest
    rw [behind, ← List.find?_not_eq_head?_dropWhile] at hd
    simpa using List.find?_some hd
  · cases h

/-! ## Reading -/

namespace Reader

/-- **A text that is read is spelled by its tokens**, and the tokens lead the reading to its end. -/
theorem spells_of_read {r : Reader} {last here : Position} {skip : Nat} {text : List Char}
    {reading : Reading} (h : r.read last here skip text = .ok reading) :
    Spells reading.tokens (text.drop skip) ∧
      ∃ final, r.run reading.tokens = some final ∧ final.finish = some reading.declarations := by
  -- Characters that are skipped belong to layout or to a token that is accounted for where it starts,
  -- so the statement is about the text behind them.
  induction text generalizing r last here skip reading with
  | nil =>
    rw [read] at h
    split at h
    · obtain rfl := Except.ok.inj h
      rw [List.drop_nil]
      exact ⟨.nil, r, rfl, ‹_›⟩
    · cases h
  | cons c text ih =>
    cases skip with
    | succ skip => exact ih h
    | zero =>
      rw [read] at h
      split at h
      · obtain ⟨spelled, accepted⟩ := ih h
        exact ⟨spells_of_layoutLength ‹_› spelled, accepted⟩
      split at h
      · cases h
      rename_i token selected
      split at h
      · cases h
      rename_i next stepped
      cases hread : read next here (here.after c) (token.spelling.length - 1) text with
      | error e =>
        rw [hread] at h
        cases h
      | ok later =>
        rw [hread] at h
        obtain rfl := Except.ok.inj h
        obtain ⟨spelled, final, run, finish⟩ := ih hread
        have candidate := List.mem_of_find?_eq_some selected
        have lexeme := isLexeme_of_mem_candidates candidate
        obtain ⟨rest, hrest⟩ := spelling_isPrefix_of_mem_candidates candidate
        have behind : text.drop (token.spelling.length - 1) = rest := by
          obtain ⟨d, word, hword⟩ :=
            List.exists_cons_of_ne_nil (spelling_ne_nil_of_isLexeme lexeme)
          rw [hword, List.cons_append] at hrest
          rw [hword, ← (List.cons.inj hrest).2]
          exact List.drop_left
        have taken : r.take token = some next := by
          rw [take, if_pos (List.find?_some selected), stepped]
        rw [behind] at spelled
        rw [List.drop_zero, ← hrest, run_cons, taken]
        exact ⟨.token lexeme spelled, final, run, finish⟩

end Reader

end ScreenNav
