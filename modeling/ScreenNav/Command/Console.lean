import ScreenNav.Text.CellWidth
import ScreenNav.Text.Emoji

/-!
# The console

How a message appears on the console, which reads bracketed words as styling: `[bold]` sets a
style and `[/bold]` ends it, and a backslash takes the meaning from a bracket.

**Tags** in a message are protected, so they appear as they are, with any backslashes before them.
A bracket that opens no tag needs no protection, and there a backslash before it is lost. A single
backslash at the end of the message is doubled.

**Emoji codes** become emoji, unless a code would reach across the border of a tag.

**Controls** that would move the cursor without a new line, and the bell, do not appear. Tabs become
spaces up to the next tab stop.

Main statements: `flatten_pieces`, that cutting a message at its tags loses nothing, and
`errorLine_eq_self`, that a message of ordinary characters appears as it is.
-/

namespace ScreenNav.Console

/-! ## Tags -/

/-- A character that the word of a tag starts with. -/
def startsTag (c : Char) : Bool := c.isLower || c == '#' || c == '/' || c == '@'

/-- A tag and what stands behind it, if a text starts with one: a bracketed word without another
opening bracket. -/
def cutTag? : List Char → Option (List Char × List Char)
  | '[' :: c :: rest =>
    match Text.cut? ']' rest with
    | some (word, behind) =>
      if startsTag c ∧ '[' ∉ word then some ('[' :: c :: word ++ [']'], behind) else none
    | none => none
  | _ => none

theorem cutTag?_eq_some {text tag behind : List Char} (h : cutTag? text = some (tag, behind)) :
    text = tag ++ behind ∧ tag ≠ [] := by
  fun_cases cutTag? text with
  | case1 c rest word behind' heq hc =>
    obtain ⟨rfl, rfl⟩ := by simpa [cutTag?, heq, hc] using h
    simp [(Text.cut?_eq_some heq).1]
  | case2 c rest word behind' heq hc => simp [cutTag?, heq, hc] at h
  | case3 c rest heq => simp [cutTag?, heq] at h
  | case4 => simp_all [cutTag?]

theorem length_cutTag? {text tag behind : List Char} (h : cutTag? text = some (tag, behind)) :
    behind.length < text.length := by
  obtain ⟨rfl, hne⟩ := cutTag?_eq_some h
  have := List.length_pos_iff.2 hne
  rw [List.length_append]
  omega

/-- The text cut before and behind each of its tags. -/
def pieces (text : List Char) : List (List Char) :=
  match text with
  | [] => []
  | c :: rest =>
    match _ : cutTag? (c :: rest) with
    | some (tag, behind) => [] :: tag :: pieces behind
    | none => Text.consFirst c (pieces rest)
termination_by text.length
decreasing_by
  · exact length_cutTag? ‹_›
  · simp

/-- Cutting a text at its tags loses nothing. -/
theorem flatten_pieces (text : List Char) : (pieces text).flatten = text := by
  fun_induction pieces text with
  | case1 => rfl
  | case2 c rest tag behind h ih => simp [ih, (cutTag?_eq_some h).1]
  | case3 c rest _ ih => cases h : pieces rest <;> simp_all [Text.consFirst]

/-! ## Backslashes and controls -/

/-- The text without the backslashes right before an opening bracket, one for each bracket. -/
def dropBackslashes : List Char → List Char
  | [] => []
  | '\\' :: '[' :: rest => '[' :: dropBackslashes rest
  | c :: rest => c :: dropBackslashes rest

/-- A backslash is the last character, and not the one before it. -/
def endsInBackslash (text : List Char) : Bool :=
  text.getLast? == some '\\' && text.dropLast.getLast? ≠ some '\\'

/-- The text with a second backslash behind a single one at the end. -/
def doubleLast (text : List Char) : List Char :=
  if endsInBackslash text then text ++ ['\\'] else text

/-- A control that does not appear. -/
def isSilent (c : Char) : Bool :=
  c == '\x07' || c == '\x08' || c == '\x0b' || c == '\x0c' || c == '\r'

/-- What appears of a text between two borders of tags. -/
def shownPiece (piece : List Char) : List Char := Text.Emoji.replaceCodes (dropBackslashes piece)

/-- What appears of a message. -/
def shown (message : List Char) : List Char :=
  ((pieces (doubleLast message)).flatMap shownPiece).filter fun c => !isSilent c

/-! ## Tabs -/

/-- The number of cells from one tab stop to the next. -/
def tabWidth : Nat := 8

/-- The first tab stop that is not before the cell. -/
def tabStop (cell : Nat) : Nat := (cell + tabWidth - 1) / tabWidth * tabWidth

/-- The parts between the tabs of a line with spaces in place of the tabs. The first part starts at
the given cell. A tab is one space at least. -/
def fillTabs (cell : Nat) : List (List Char) → List Char
  | [] => []
  | [part] => part
  | part :: parts =>
    let reached := cell + Text.cells (part ++ [' '])
    part ++ List.replicate (tabStop reached - reached + 1) ' ' ++ fillTabs (tabStop reached) parts

/-- A line with spaces in place of its tabs. -/
def expandLine (line : List Char) : List Char := fillTabs 0 (Text.split '\t' line)

/-- The text with spaces in place of its tabs. -/
def expandTabs (text : List Char) : List Char :=
  Text.join '\n' ((Text.split '\n' text).map expandLine)

/-! ## Errors -/

/-- What a message of an error starts with. -/
def errorHeading : String := "error: "

/-- The line, or the lines, that a message of an error appears in. -/
def errorLine (message : String) : String :=
  String.ofList (expandTabs (errorHeading.toList ++ shown message.toList)) ++ "\n"

/-! ## Ordinary messages -/

theorem dropBackslashes_eq_self {text : List Char} (h : '\\' ∉ text) :
    dropBackslashes text = text := by
  fun_induction dropBackslashes text with
  | case1 => rfl
  | case2 => simp at h
  | case3 c rest _ ih => rw [ih (List.not_mem_of_not_mem_cons h)]

theorem doubleLast_eq_self {text : List Char} (h : '\\' ∉ text) : doubleLast text = text := by
  refine if_neg fun ends => h ?_
  simp only [endsInBackslash, Bool.and_eq_true, beq_iff_eq] at ends
  exact List.mem_of_getLast? ends.1

theorem expandLine_eq_self {line : List Char} (h : '\t' ∉ line) : expandLine line = line := by
  rw [expandLine, Text.split_eq_singleton h]
  rfl

/-- Text without tabs is left alone. -/
theorem expandTabs_eq_self {text : List Char} (h : '\t' ∉ text) : expandTabs text = text := by
  have lines : (Text.split '\n' text).map expandLine = Text.split '\n' text := by
    refine List.map_congr_left (fun line mem => expandLine_eq_self fun tab => h ?_) |>.trans
      (List.map_id _)
    exact Text.mem_of_mem_split mem tab
  rw [expandTabs, lines, Text.join_split]

/-- An ordinary character: no backslash, colon, tab or silent control. -/
def isOrdinary (c : Char) : Bool := c ≠ '\\' && c ≠ ':' && c ≠ '\t' && !isSilent c

theorem shown_eq_self {message : List Char} (h : ∀ c ∈ message, isOrdinary c = true) :
    shown message = message := by
  have backslash : '\\' ∉ message := fun mem => absurd (h _ mem) (by decide)
  have colon : ':' ∉ message := fun mem => absurd (h _ mem) (by decide)
  have piece : ∀ piece ∈ pieces message, shownPiece piece = piece := fun piece mem => by
    have sub : ∀ c ∈ piece, c ∈ message := fun c hc => by
      rw [← flatten_pieces message]
      exact List.mem_flatten_of_mem mem hc
    rw [shownPiece, dropBackslashes_eq_self fun hc => backslash (sub _ hc),
      Text.Emoji.replaceCodes_eq_self fun hc => colon (sub _ hc)]
  rw [shown, doubleLast_eq_self backslash, List.flatMap_def, List.map_congr_left piece,
    List.map_id', flatten_pieces, List.filter_eq_self]
  intro c mem
  have := h c mem
  simp_all [isOrdinary]

/-- A message of ordinary characters appears as it is. -/
theorem errorLine_eq_self {message : String} (h : ∀ c ∈ message.toList, isOrdinary c = true) :
    errorLine message = errorHeading ++ message ++ "\n" := by
  have tab : '\t' ∉ errorHeading.toList ++ message.toList := fun mem => by
    rcases List.mem_append.1 mem with mem | mem
    · exact absurd mem (by decide)
    · exact absurd (h _ mem) (by decide)
  rw [errorLine, shown_eq_self h, expandTabs_eq_self tab, String.ofList_append,
    String.ofList_toList, String.ofList_toList]

end ScreenNav.Console
