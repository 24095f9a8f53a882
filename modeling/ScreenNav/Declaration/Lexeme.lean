import ScreenNav.Declaration.Token

/-!
# Lexemes

Which tokens a piece of text can start with, and how much of it is layout.

**Layout** is white space (space, tab, form feed, carriage return, newline) and comments, which
reach from `#` or `//` to the end of the line. It may stand before any token.

**Candidates.** Text may start with more than one token: a word is a keyword or a name, and any
keyword that the text starts with could be split off it; `.5` is a number or a dot with something
behind it. `candidates` lists them, the most telling first, and `select?` takes the first that a
place asks for. Hence a place that asks for a name gets the longest word, while a place that asks
for keywords only reads `classA` as `class` and `A`.

Main statement: `spelling_isPrefix_of_mem_candidates`, that the spelling of a candidate stands at
the start of the text.
-/

namespace ScreenNav

namespace Lexeme

/-! ## Layout -/

/-- White space between tokens. -/
def isSpace (c : Char) : Bool :=
  c == ' ' || c == '\t' || c == '\x0c' || c == '\r' || c == '\n'

/-- The text starts with a comment. -/
def startsComment : List Char → Bool
  | '#' :: _ => true
  | '/' :: '/' :: _ => true
  | _ => false

/-- The length of the white space character or the comment that the text starts with. -/
def layoutLength : List Char → Nat
  | [] => 0
  | c :: rest =>
    if isSpace c then 1
    else if startsComment (c :: rest) then ((c :: rest).takeWhile (· ≠ '\n')).length
    else 0

/-! ## Words, strings and the rest -/

/-- A character that a word may start with. -/
def isWordStart (c : Char) : Bool := c.isAlpha || c == '_'

/-- A character that a word may go on with. -/
def isWordPart (c : Char) : Bool := c.isAlphanum || c == '_'

/-- The longest word that the text starts with. -/
def word (text : List Char) : List Char := text.takeWhile isWordPart

/-- The keywords that the text starts with, whatever follows them. -/
def leadingKeywords (text : List Char) : List Keyword :=
  Keyword.all.filter fun k => k.spelling.toList.isPrefixOf text

/-- The characters up to the quote that ends a string. A quote behind a backslash does not end it,
unless that backslash is itself behind one; `escaped` says that the first character is. A string
does not go beyond its line. -/
def stringContent? (escaped : Bool) : List Char → Option (List Char)
  | [] => none
  | c :: rest =>
    if c = '\n' then none
    else if c = '"' ∧ escaped = false then some []
    else (stringContent? (c == '\\' && !escaped) rest).map (c :: ·)

/-- The tokens that the text can start with, the most telling first. -/
def candidates : List Char → List Token
  | [] => []
  | c :: rest =>
    let text := c :: rest
    if isWordStart c then
      let word := String.ofList (word text)
      (Keyword.ofSpelling? word).toList.map .keyword
        ++ .name word :: (leadingKeywords text).map .keyword
    else if c = '"' then
      (stringContent? false rest).toList.map fun content => .string (String.ofList content)
    else
      (NumberLiteral.scan text).toList.map (fun scanned => .number scanned.1)
        ++ (Symbol.ofChar? c).toList.map .symbol

/-- The token at the start of the text, at a place that asks for certain kinds. -/
def select? (asked : TokenKind → Bool) (text : List Char) : Option Token :=
  (candidates text).find? fun t => asked t.kind

/-! ## Candidates and the text -/

theorem stringContent?_append {escaped : Bool} {text content : List Char}
    (h : stringContent? escaped text = some content) : content ++ ['"'] <+: text := by
  induction text generalizing escaped content with
  | nil => simp [stringContent?] at h
  | cons c rest ih =>
    simp only [stringContent?] at h
    split at h
    · simp at h
    · split at h
      · rename_i closes
        obtain rfl := by simpa using h
        simp [closes.1]
      · obtain ⟨inner, hinner, rfl⟩ := Option.map_eq_some_iff.1 h
        simpa using ih hinner

theorem ofChar?_eq_some {c : Char} {s : Symbol} (h : Symbol.ofChar? c = some s) : s.char = c := by
  simpa using List.find?_some h

theorem ofSpelling?_eq_some {word : String} {k : Keyword} (h : Keyword.ofSpelling? word = some k) :
    k.spelling = word := by
  simpa using List.find?_some h

/-- The spelling of a candidate stands at the start of the text. -/
theorem spelling_isPrefix_of_mem_candidates {text : List Char} {t : Token}
    (h : t ∈ candidates text) : t.spelling <+: text := by
  cases text with
  | nil => simp [candidates] at h
  | cons c rest =>
    simp only [candidates] at h
    split at h
    · simp only [List.mem_append, List.mem_map, Option.mem_toList, List.mem_cons] at h
      rcases h with ⟨k, hk, rfl⟩ | rfl | ⟨k, hk, rfl⟩
      · simp only [Token.spelling, ofSpelling?_eq_some hk, String.toList_ofList]
        exact List.takeWhile_prefix _
      · simp only [Token.spelling, String.toList_ofList]
        exact List.takeWhile_prefix _
      · simpa [Token.spelling, leadingKeywords] using (List.mem_filter.1 hk).2
    · split at h
      · rename_i quote
        simp only [List.mem_map, Option.mem_toList] at h
        obtain ⟨content, hcontent, rfl⟩ := h
        simpa [Token.spelling, quote] using stringContent?_append hcontent
      · simp only [List.mem_append, List.mem_map, Option.mem_toList] at h
        rcases h with ⟨⟨literal, tail⟩, hscan, rfl⟩ | ⟨s, hs, rfl⟩
        · exact ⟨tail, NumberLiteral.scan_append hscan⟩
        · simp [Token.spelling, ofChar?_eq_some hs]

end Lexeme

end ScreenNav
