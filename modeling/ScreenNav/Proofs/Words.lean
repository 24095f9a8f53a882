import ScreenNav.Proofs.Reading

/-!
# Words and the places where they stand

A word is spelled the same whether it is a keyword or a name. Where a text is read, the place decides:
a word that spells a keyword is read as that keyword if the place asks for it, and as a name otherwise
(`Place.reading`). So a text of words and symbols, with any layout that keeps its words apart, is read
like this, word by word: `Reader.follow`.

There are two results. If the words and symbols lead to the end of a file, the text is read as that file
(`Reader.read_of_follow`). If they lead to a place that asks for the next of them but has no use for it,
the text is refused there (`Reader.read_refused`); a place may do so, since what it asks for is decided
for several uses of names at once.
-/

namespace ScreenNav

open Lexeme

variable {rest : List Char} {token : Token} {tokens : List Token} {text : List Char}

/-! ## Words and symbols in a text -/

/-- No word goes on in the text. -/
def Lexeme.EndsWord (rest : List Char) : Prop := ∀ c ∈ rest.head?, isWordPart c = false

/-- A word that ends where the rest of the text starts, or a symbol. -/
def Token.StandsBefore (rest : List Char) : Token → Prop
  | .name word => IsIdentifier word ∧ EndsWord rest
  | .symbol _ => True
  | _ => False

instance : (rest : List Char) → Decidable (EndsWord rest)
  | [] => .isTrue (by simp [EndsWord])
  | c :: _ => decidable_of_iff (isWordPart c = false) (by simp [EndsWord])

instance (rest : List Char) : (token : Token) → Decidable (token.StandsBefore rest)
  | .name word => inferInstanceAs (Decidable (IsIdentifier word ∧ EndsWord rest))
  | .symbol _ => .isTrue trivial
  | .keyword _ | .number _ | .string _ => .isFalse id

/-- A comment that is not ended by a newline. -/
def IsOpenComment (text : List Char) : Prop :=
  ∃ mark body, (mark = ['#'] ∨ mark = ['/', '/']) ∧ '\n' ∉ body ∧ text = mark ++ body

/-- The text consists of the words and symbols, with white space and comments before, between and behind
them. The last comment may be open. -/
def IsLaidOut : List Token → List Char → Prop
  | [], text => ∃ gap ending, text = gap ++ ending ∧ IsLayout gap ∧
      (ending = [] ∨ IsOpenComment ending)
  | token :: tokens, text => ∃ gap rest, text = gap ++ (token.spelling ++ rest) ∧ IsLayout gap ∧
      token.StandsBefore rest ∧ IsLaidOut tokens rest

theorem IsOpenComment.startsLayout (h : IsOpenComment text) : ∀ c ∈ text.head?, StartsLayout c := by
  obtain ⟨mark, body, rfl | rfl, -, rfl⟩ := h
  · intro c hc
    obtain rfl := Option.mem_some_iff.1 hc
    exact .inr (.inl rfl)
  · intro c hc
    obtain rfl := Option.mem_some_iff.1 hc
    exact .inr (.inr rfl)

theorem Token.StandsBefore.word_or_symbol (h : token.StandsBefore rest) :
    (∃ word, token = .name word ∧ IsIdentifier word ∧ EndsWord rest) ∨ ∃ s, token = .symbol s := by
  cases token with
  | name word => exact .inl ⟨word, rfl, h⟩
  | symbol s => exact .inr ⟨s, rfl⟩
  | keyword k => exact h.elim
  | number literal => exact h.elim
  | string content => exact h.elim

theorem Token.StandsBefore.exists_head (h : token.StandsBefore rest) :
    ∃ c cs, token.spelling = c :: cs ∧ ¬ StartsLayout c ∧ c.isDigit = false := by
  obtain ⟨word, rfl, identifier, -⟩ | ⟨s, rfl⟩ := h.word_or_symbol
  · obtain ⟨c, cs, hword, start⟩ := exists_head_of_isIdentifier identifier
    have part : isWordPart c = true := identifier.2.2 c (hword ▸ List.mem_cons_self ..)
    refine ⟨c, cs, hword, not_startsLayout_of_isWordPart part, Bool.eq_false_iff.2 fun digit => ?_⟩
    rw [not_isWordStart_of_isDigit digit] at start
    exact Bool.false_ne_true start
  · exact ⟨s.char, [], rfl, not_startsLayout_char s, by cases s <;> decide⟩

theorem IsLayout.not_isDigit_append {gap : List Char} (h : IsLayout gap)
    (hrest : ∀ c ∈ rest.head?, c.isDigit = false) : ∀ c ∈ (gap ++ rest).head?, c.isDigit = false := by
  cases gap with
  | nil => exact hrest
  | cons c gap => exact (delimits_of_startsLayout h.startsLayout).not_isDigit

/-- No number starts in a text of words and symbols. -/
theorem IsLaidOut.not_isDigit (h : IsLaidOut tokens text) : ∀ c ∈ text.head?, c.isDigit = false := by
  cases tokens with
  | nil =>
    obtain ⟨gap, ending, rfl, layout, rfl | comment⟩ := h
    · exact layout.not_isDigit_append (by simp)
    · exact layout.not_isDigit_append (delimits_of_startsLayout comment.startsLayout).not_isDigit
  | cons token tokens =>
    obtain ⟨gap, rest, rfl, layout, stands, -⟩ := h
    obtain ⟨c, cs, hspelling, -, digit⟩ := stands.exists_head
    refine layout.not_isDigit_append fun d hd => ?_
    rw [hspelling, List.cons_append] at hd
    exact Option.mem_some_iff.1 hd ▸ digit

/-- The text with a space in front of each word and symbol. -/
def spaced (tokens : List Token) : List Char := tokens.flatMap fun token => ' ' :: token.spelling

theorem endsWord_spaced (tokens : List Token) : EndsWord (spaced tokens) := by
  cases tokens with
  | nil => simp [spaced, EndsWord]
  | cons token tokens =>
    intro c hc
    obtain rfl := Option.some.inj hc
    decide

theorem isLaidOut_spaced (h : ∀ token ∈ tokens, token.StandsBefore []) :
    IsLaidOut tokens (spaced tokens) := by
  induction tokens with
  | nil => exact ⟨[], [], rfl, .nil, .inl rfl⟩
  | cons token tokens ih =>
    obtain ⟨stands, others⟩ := List.forall_mem_cons.1 h
    refine ⟨[' '], spaced tokens, rfl, .space rfl .nil, ?_, ih others⟩
    obtain ⟨word, rfl, identifier, -⟩ | ⟨s, rfl⟩ := stands.word_or_symbol
    · exact ⟨identifier, endsWord_spaced tokens⟩
    · trivial

/-! ## What a word is read as -/

/-- A word is plain, or it is that of a keyword. -/
theorem Keyword.plain_or_spelling (word : String) :
    ofSpelling? word = none ∨ ∃ k : Keyword, word = k.spelling := by
  cases found : ofSpelling? word with
  | none => exact .inl rfl
  | some k => exact .inr ⟨k, (Lexeme.ofSpelling?_eq_some found).symm⟩

/-- A word that spells a keyword is that keyword where the place asks for it. -/
def Place.reading (place : Place) : Token → Token
  | .name word =>
    match Keyword.ofSpelling? word with
    | some k => if place.asksFor (.keyword k) then .keyword k else .name word
    | none => .name word
  | token => token

namespace Place

variable {place : Place} {word : String}

theorem reading_of_plain (place : Place) (plain : Keyword.ofSpelling? word = none) :
    place.reading (.name word) = .name word := by
  simp only [reading, plain]

theorem reading_spelling (place : Place) (k : Keyword) : place.reading (.name k.spelling) =
    if place.asksFor (.keyword k) then .keyword k else .name k.spelling := by
  simp only [reading, Keyword.ofSpelling?_spelling]

/-- Where a name starts, or goes on behind a dot, every word is a name. -/
theorem reading_component (use : NameUse) (before : Option String) (word : String) :
    (Place.component use before).reading (.name word) = .name word := by
  rcases Keyword.plain_or_spelling word with plain | ⟨k, rfl⟩
  · exact reading_of_plain _ plain
  · exact reading_spelling _ k

theorem spelling_reading (place : Place) (token : Token) :
    (place.reading token).spelling = token.spelling := by
  cases token with
  | name word =>
    rcases Keyword.plain_or_spelling word with plain | ⟨k, rfl⟩
    · rw [reading_of_plain place plain]
    · rw [reading_spelling]
      split <;> rfl
  | _ => rfl

/-- What is read as a word or symbol is no number. -/
theorem isOverlong_reading (place : Place) (h : token.StandsBefore rest) :
    (place.reading token).isOverlong = false := by
  obtain ⟨word, rfl, -⟩ | ⟨s, rfl⟩ := h.word_or_symbol
  · rcases Keyword.plain_or_spelling word with plain | ⟨k, rfl⟩
    · rw [reading_of_plain place plain]
      rfl
    · rw [reading_spelling]
      split <;> rfl
  · rfl

/-- A place that asks for the reading of a word or symbol selects it. -/
theorem select?_reading (stands : token.StandsBefore rest)
    (hr : ∀ c ∈ rest.head?, c.isDigit = false)
    (asked : place.asksFor (place.reading token).kind = true) :
    select? place.asksFor (token.spelling ++ rest) = some (place.reading token) := by
  rw [select?]
  obtain ⟨word, rfl, identifier, ends⟩ | ⟨s, rfl⟩ := stands.word_or_symbol
  · show (candidates (word.toList ++ rest)).find? _ = _
    rw [candidates_word identifier ends]
    rcases Keyword.plain_or_spelling word with plain | ⟨k, rfl⟩
    · rw [reading_of_plain place plain] at asked ⊢
      rw [plain]
      exact List.find?_cons_of_pos asked
    · rw [Keyword.ofSpelling?_spelling]
      rw [reading_spelling] at asked ⊢
      -- Behind the keyword the name is the next candidate.
      by_cases keyword : place.asksFor (.keyword k) = true
      · rw [if_pos keyword]
        exact List.find?_cons_of_pos keyword
      · rw [if_neg keyword] at asked ⊢
        exact (List.find?_cons_of_neg (a := Token.keyword k) keyword).trans
          (List.find?_cons_of_pos asked)
  · show (candidates (s.char :: rest)).find? _ = _
    rw [candidates_symbol s hr]
    exact List.find?_cons_of_pos asked

end Place

/-! ## Reading word by word -/

namespace Reader

variable {r next final : Reader} {d : Declarations}

/-- The reading after words and symbols, each of which is read as its place has it. -/
def follow (r : Reader) (tokens : List Token) : Option Reader :=
  tokens.foldlM (fun r token => r.take (r.place.reading token)) r

theorem follow_cons (r : Reader) (token : Token) (tokens : List Token) :
    r.follow (token :: tokens) =
      (r.take (r.place.reading token)).bind fun next => next.follow tokens := rfl

theorem follow_of_take (h : r.take (r.place.reading token) = some next)
    (hfollow : next.follow tokens = some final) : r.follow (token :: tokens) = some final := by
  rw [follow_cons, h, Option.bind_some, hfollow]

theorem follow_of_follow {first second : List Token} (h : r.follow first = some next)
    (hfollow : next.follow second = some final) : r.follow (first ++ second) = some final := by
  rw [follow, List.foldlM_append]
  exact Option.bind_eq_some_iff.2 ⟨next, h, hfollow⟩

/-- The layout at the end makes no difference. -/
theorem read_end (h : IsLaidOut [] text) (r : Reader) (last here : Position) :
    ∃ there, r.read last here 0 text = r.read last there 0 [] := by
  obtain ⟨gap, ending, rfl, layout, hending⟩ := h
  obtain ⟨behind, hbehind⟩ := read_layout layout r last here ending
  rcases hending with rfl | ⟨mark, body, hmark, hbody, rfl⟩
  · exact ⟨behind, hbehind⟩
  · have length : layoutLength (mark ++ body ++ []) = (mark ++ body).length :=
      layoutLength_comment hmark hbody (by simp)
    obtain ⟨there, hthere⟩ :=
      read_layoutLength r last behind (mark_append_ne_nil hmark body) length
    rw [List.append_nil] at hthere
    exact ⟨there, hbehind.trans hthere⟩

/-- The first word or symbol is read as its place has it, if the place asks for that. -/
theorem read_first (h : IsLaidOut (token :: tokens) text)
    (asked : r.place.asksFor (r.place.reading token).kind = true) (last here : Position) :
    ∃ rest position there, IsLaidOut tokens rest ∧
      (r.place.reading token).isOverlong = false ∧
      r.read last here 0 text =
        match r.step (r.place.reading token) with
        | none => .error ((r.place.reading token).refused position)
        | some next => (next.read position there 0 rest).map fun reading =>
            { reading with tokens := r.place.reading token :: reading.tokens } := by
  obtain ⟨gap, rest, rfl, layout, stands, hrest⟩ := h
  obtain ⟨position, hposition⟩ := read_layout layout r last here (token.spelling ++ rest)
  obtain ⟨c, cs, hspelling, start, -⟩ := stands.exists_head
  have same := r.place.spelling_reading token
  have selected := Place.select?_reading stands hrest.not_isDigit asked
  rw [← same] at hspelling selected
  obtain ⟨there, hthere⟩ := read_selected hspelling start selected last position
  rw [same] at hthere
  exact ⟨rest, position, there, hrest, r.place.isOverlong_reading stands, hposition.trans hthere⟩

/-- **Words and symbols that lead to the end of a file are read as that file.** -/
theorem read_of_follow (laid : IsLaidOut tokens text) (h : r.follow tokens = some final)
    (hfinish : final.finish = some d) (last here : Position) :
    ∃ read, r.read last here 0 text = .ok ⟨read, d⟩ ∧ read.any Token.isOverlong = false := by
  induction tokens generalizing r text last here with
  | nil =>
    obtain rfl := Option.some.inj h
    obtain ⟨there, hthere⟩ := read_end laid r last here
    refine ⟨[], ?_, rfl⟩
    rw [hthere, Reader.read, hfinish]
  | cons token tokens ih =>
    obtain ⟨next, taken, hnext⟩ := Option.bind_eq_some_iff.1 h
    obtain ⟨asked, stepped⟩ := take_eq_some taken
    obtain ⟨rest, position, there, hrest, overlong, hread⟩ := read_first laid asked last here
    obtain ⟨read, later, others⟩ := ih hrest hnext position there
    refine ⟨r.place.reading token :: read, ?_, ?_⟩
    · rw [hread, stepped]
      simp only [later]
      rfl
    · rw [List.any_cons, overlong, others]
      rfl

/-- **Words and symbols that lead to a place without use for the next one are refused there.** -/
theorem read_refused {before behind : List Token}
    (laid : IsLaidOut (before ++ token :: behind) text) (h : r.follow before = some next)
    (asked : next.place.asksFor (next.place.reading token).kind = true)
    (refused : next.step (next.place.reading token) = none) (last here : Position) :
    ∃ position, r.read last here 0 text =
      .error ((next.place.reading token).refused position) := by
  induction before generalizing r text last here with
  | nil =>
    obtain rfl := Option.some.inj h
    obtain ⟨rest, position, there, -, -, hread⟩ := read_first laid asked last here
    rw [refused] at hread
    exact ⟨position, hread⟩
  | cons first before ih =>
    obtain ⟨second, taken, hsecond⟩ := Option.bind_eq_some_iff.1 h
    obtain ⟨firstAsked, stepped⟩ := take_eq_some taken
    obtain ⟨rest, start, there, hrest, -, hread⟩ := read_first laid firstAsked last here
    obtain ⟨position, later⟩ := ih hrest hsecond start there
    rw [hread, stepped]
    simp only [later]
    exact ⟨position, rfl⟩

end Reader

end ScreenNav
