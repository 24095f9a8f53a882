import ScreenNav.Declaration.Parse
import ScreenNav.Proofs.Lexing

/-!
# Tokens spread over a text

Tokens that are written one after the other, with any layout between them, are read back one by one.

**Theorem (`Reader.read_spread`).** Let the tokens lead from one place to another, where every place on
the way asks for the kind of the token that comes next. Then any text that the tokens are spread over
is read the same way, whatever the layout in it.
-/

namespace ScreenNav

open Lexeme

/-! ## Layout -/

/-- A run of white space and of comments that end with their lines. -/
inductive IsLayout : List Char → Prop
  | nil : IsLayout []
  | space {c : Char} {rest : List Char} : isSpace c = true → IsLayout rest → IsLayout (c :: rest)
  | comment {mark body rest : List Char} : mark = ['#'] ∨ mark = ['/', '/'] → '\n' ∉ body →
      IsLayout rest → IsLayout (mark ++ body ++ '\n' :: rest)

/-- The text consists of the spellings of the tokens, with layout between any two of them, and
perhaps at the end. -/
def IsSpread : List Token → List Char → Prop
  | [], text => IsLayout text
  | token :: tokens, text => ∃ gap rest, text = token.spelling ++ (gap ++ rest) ∧ IsLayout gap ∧
      (tokens ≠ [] → gap ≠ []) ∧ IsSpread tokens rest

theorem IsLayout.startsLayout {gap : List Char} (h : IsLayout gap) :
    ∀ c ∈ gap.head?, StartsLayout c := by
  cases h with
  | nil => simp
  | space space =>
    intro c hc
    obtain rfl := Option.mem_some_iff.1 hc
    exact .inl space
  | comment mark =>
    intro c hc
    rcases mark with rfl | rfl
    · obtain rfl := Option.mem_some_iff.1 hc
      exact .inr (.inl rfl)
    · obtain rfl := Option.mem_some_iff.1 hc
      exact .inr (.inr rfl)

theorem delimits_of_startsLayout {rest : List Char} (h : ∀ c ∈ rest.head?, StartsLayout c) :
    Delimits rest :=
  fun c hc => (h c hc).delimits

/-- What stands behind a token does not go on with it. -/
theorem delimits_of_isSpread {gap rest : List Char} {tokens : List Token} (hgap : IsLayout gap)
    (apart : tokens ≠ [] → gap ≠ []) (h : IsSpread tokens rest) : Delimits (gap ++ rest) := by
  cases gap with
  | cons c gap => exact delimits_of_startsLayout hgap.startsLayout
  | nil =>
    cases tokens with
    | nil => exact delimits_of_startsLayout (IsLayout.startsLayout h)
    | cons token tokens => exact absurd rfl (apart (by simp))

namespace Reader

variable {r next : Reader} {rest : List Char}

/-! ## Layout is passed over -/

theorem read_skip (r : Reader) (last here : Position) (skipped rest : List Char) :
    ∃ there, r.read last here skipped.length (skipped ++ rest) = r.read last there 0 rest := by
  induction skipped generalizing here with
  | nil => exact ⟨here, rfl⟩
  | cons c skipped ih => exact ih (here.after c)

/-- White space or a comment at the start of the text is passed over as a whole. -/
theorem read_layoutLength (r : Reader) (last here : Position) {piece : List Char}
    (some_char : piece ≠ []) (h : layoutLength (piece ++ rest) = piece.length) :
    ∃ there, r.read last here 0 (piece ++ rest) = r.read last there 0 rest := by
  obtain ⟨c, piece, rfl⟩ := List.exists_cons_of_ne_nil some_char
  obtain ⟨there, hthere⟩ := read_skip r last (here.after c) piece rest
  refine ⟨there, ?_⟩
  rw [← hthere, List.cons_append, read]
  rw [List.cons_append, List.length_cons] at h
  rw [h]

theorem layoutLength_space {c : Char} (h : isSpace c = true) (rest : List Char) :
    layoutLength (c :: rest) = 1 := if_pos h

/-- A comment goes up to the end of its line, or of the text. -/
theorem layoutLength_comment {mark body : List Char} (hmark : mark = ['#'] ∨ mark = ['/', '/'])
    (hbody : '\n' ∉ body) (hrest : ∀ c ∈ rest.head?, c = '\n') :
    layoutLength (mark ++ body ++ rest) = (mark ++ body).length := by
  have inside : ∀ c ∈ mark ++ body, decide (c ≠ '\n') = true := by
    intro c hc
    rw [decide_eq_true_eq]
    rintro rfl
    rcases List.mem_append.1 hc with hc | hc
    · rcases hmark with rfl | rfl <;> simp at hc
    · exact hbody hc
  have line : (mark ++ body ++ rest).takeWhile (· ≠ '\n') = mark ++ body :=
    takeWhile_run inside fun c hc => by simp [hrest c hc]
  rcases hmark with rfl | rfl
  · exact congrArg List.length line
  · exact congrArg List.length line

theorem mark_append_ne_nil {mark : List Char} (h : mark = ['#'] ∨ mark = ['/', '/'])
    (body : List Char) : mark ++ body ≠ [] := by
  rcases h with rfl | rfl <;> simp

theorem layoutLength_eq_zero {c : Char} (h : ¬ StartsLayout c) (rest : List Char) :
    layoutLength (c :: rest) = 0 := by
  simp only [StartsLayout, not_or] at h
  have commentless : startsComment (c :: rest) = false := by
    unfold startsComment
    split
    · rename_i same
      exact absurd (List.cons.inj same).1 h.2.1
    · rename_i same
      exact absurd (List.cons.inj same).1 h.2.2
    · rfl
  simp [layoutLength, h.1, commentless]

/-- Layout makes no difference to what is read. -/
theorem read_layout {gap : List Char} (h : IsLayout gap) (r : Reader) (last here : Position)
    (rest : List Char) : ∃ there, r.read last here 0 (gap ++ rest) = r.read last there 0 rest := by
  induction h generalizing here with
  | nil => exact ⟨here, rfl⟩
  | @space c gap space _ ih =>
    have length : layoutLength ([c] ++ (gap ++ rest)) = [c].length := layoutLength_space space _
    obtain ⟨behind, hbehind⟩ := read_layoutLength r last here (by simp) length
    obtain ⟨there, hthere⟩ := ih behind
    exact ⟨there, hbehind.trans hthere⟩
  | @comment mark body gap hmark hbody _ ih =>
    have length : layoutLength (mark ++ body ++ '\n' :: (gap ++ rest)) = (mark ++ body).length :=
      layoutLength_comment hmark hbody (by simp)
    obtain ⟨ending, hending⟩ := read_layoutLength r last here (mark_append_ne_nil hmark body) length
    have newline : layoutLength (['\n'] ++ (gap ++ rest)) = ['\n'].length :=
      layoutLength_space rfl _
    obtain ⟨behind, hbehind⟩ := read_layoutLength r last ending (by simp) newline
    obtain ⟨there, hthere⟩ := ih behind
    refine ⟨there, ?_⟩
    rw [List.append_assoc, List.cons_append, hending]
    exact hbehind.trans hthere

/-! ## Tokens -/

/-- The reading after a token that its place asks for. -/
def take (r : Reader) (token : Token) : Option Reader :=
  if r.place.asksFor token.kind then r.step token else none

/-- The reading after several tokens. -/
def run (r : Reader) (tokens : List Token) : Option Reader := tokens.foldlM take r

@[simp] theorem run_nil (r : Reader) : r.run [] = some r := rfl

theorem run_cons (r : Reader) (token : Token) (tokens : List Token) :
    r.run (token :: tokens) = (r.take token).bind fun next => next.run tokens := rfl

theorem run_append (r : Reader) (first second : List Token) :
    r.run (first ++ second) = (r.run first).bind fun next => next.run second :=
  List.foldlM_append

theorem take_eq_some {token : Token} (h : r.take token = some next) :
    r.place.asksFor token.kind = true ∧ r.step token = some next := by
  unfold take at h
  split at h
  · exact ⟨‹_›, h⟩
  · simp at h

/-- The token that its place selects is refused, or it is taken and the reading goes on behind it. -/
theorem read_selected {token : Token} {c : Char} {cs : List Char} (hspelling : token.spelling = c :: cs)
    (start : ¬ StartsLayout c)
    (selected : select? r.place.asksFor (token.spelling ++ rest) = some token) (last here : Position) :
    ∃ there, r.read last here 0 (token.spelling ++ rest) =
      match r.step token with
      | none => .error (token.refused here)
      | some next => (next.read here there 0 rest).map fun reading =>
          { reading with tokens := token :: reading.tokens } := by
  rw [hspelling, List.cons_append] at selected
  rw [hspelling, List.cons_append, read]
  simp only [layoutLength_eq_zero start, selected]
  cases r.step token with
  | none => exact ⟨here, rfl⟩
  | some next =>
    obtain ⟨there, hthere⟩ := read_skip next here (here.after c) cs rest
    refine ⟨there, ?_⟩
    simp only [hspelling, List.length_cons, Nat.add_sub_cancel, hthere]

theorem read_token {token : Token} (written : token.IsWritten) (hr : Delimits rest)
    (h : r.take token = some next) (last here : Position) :
    ∃ there, r.read last here 0 (token.spelling ++ rest) =
      (next.read here there 0 rest).map fun reading =>
        { reading with tokens := token :: reading.tokens } := by
  obtain ⟨asked, stepped⟩ := take_eq_some h
  have selected := select?_spelling_append written hr asked
  obtain ⟨c, cs, hspelling, start⟩ := exists_head_of_isWritten written
  obtain ⟨there, hthere⟩ := read_selected hspelling start selected last here
  rw [stepped] at hthere
  exact ⟨there, hthere⟩

/-- Tokens that are spread over a text are read back. -/
theorem read_spread {tokens : List Token} {text : List Char} {final : Reader} {d : Declarations}
    (spread : IsSpread tokens text) (written : ∀ token ∈ tokens, token.IsWritten)
    (hrun : r.run tokens = some final) (hfinish : final.finish = some d) (last here : Position) :
    r.read last here 0 text = .ok ⟨tokens, d⟩ := by
  induction tokens generalizing r text last here with
  | nil =>
    obtain rfl := Option.some.inj hrun
    obtain ⟨there, hthere⟩ := read_layout spread r last here []
    rw [List.append_nil] at hthere
    rw [hthere, read, hfinish]
  | cons token tokens ih =>
    obtain ⟨gap, rest, rfl, hgap, apart, hrest⟩ := spread
    obtain ⟨next, htake, hnext⟩ := Option.bind_eq_some_iff.1 ((run_cons r token tokens).symm.trans hrun)
    have delimited := delimits_of_isSpread hgap apart hrest
    obtain ⟨behind, hbehind⟩ := read_token (written _ (List.mem_cons_self ..)) delimited htake last here
    obtain ⟨there, hthere⟩ := read_layout hgap next here behind rest
    have later := ih hrest (fun token ht => written token (List.mem_cons_of_mem _ ht)) hnext here there
    rw [hbehind, hthere, later]
    rfl

end Reader

end ScreenNav
