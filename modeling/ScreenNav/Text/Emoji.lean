import ScreenNav.Text.Blank
import ScreenNav.Text.EmojiNames
import ScreenNav.Text.Selector
import ScreenNav.Text.Split

/-!
# Emoji codes

Text with emoji in place of their codes: the name of an emoji between two colons.

**Codes** are found from left to right. What stands between two colons is a code if it holds no
blank, and then both colons belong to it; a code that names no emoji stays as it is.

**Names** are the same in capital and small letters. A name may end in `-text` or `-emoji`, which
asks for one of the two styles in which an emoji is shown. Of an emoji that shows skin, a name may
also end in a skin tone.

Main statement: `replaceCodes_eq_self`, that text without colons is left alone.
-/

namespace ScreenNav.Text.Emoji

/-! ## Names -/

/-- The emoji that a line of a table gives to a name. -/
def inLine? (name : List Char) (line : String) : Option (List Char) :=
  (split ' ' line.toList).findSome? fun entry =>
    match cut? '=' entry with
    | some (known, emoji) => if known = name then some emoji else none
    | none => none

/-- The emoji that a table gives to a name. -/
def inTable? (table : List String) (name : List Char) : Option (List Char) :=
  table.findSome? (inLine? name)

/-- The endings that name a skin tone, each with the character that gives it. -/
def skinTones : List (String × Char) := [
  ("_light_skin_tone", '🏻'), ("_medium-light_skin_tone", '🏼'), ("_medium_skin_tone", '🏽'),
  ("_medium-dark_skin_tone", '🏾'), ("_dark_skin_tone", '🏿')]

/-- The emoji in a skin tone. The tone follows the first character, in place of a request for an
emoji. -/
def withTone (tone : Char) : List Char → List Char
  | first :: second :: rest =>
    first :: tone :: if second = emojiSelector then rest else second :: rest
  | [first] => [first, tone]
  | [] => []

/-- The text before an ending. -/
def dropEnding? (ending : String) (text : List Char) : Option (List Char) :=
  let length := text.length - ending.length
  if text.drop length = ending.toList then some (text.take length) else none

/-- The emoji whose name ends in a skin tone. -/
def toned? (name : List Char) : Option (List Char) :=
  skinTones.findSome? fun (ending, tone) => do
    let emoji ← inTable? tonedNames (← dropEnding? ending name)
    return withTone tone emoji

/-- The emoji of a name in small letters. -/
def named? (name : List Char) : Option (List Char) :=
  (inTable? plainNames name <|> inTable? tonedNames name) <|> toned? name

/-- The capitals beyond the basic alphabet whose small letter occurs in the name of an emoji. -/
def capitals : List (Char × Char) := [
  ('Ã', 'ã'), ('Å', 'å'), ('Ç', 'ç'), ('É', 'é'), ('Í', 'í'), ('Ô', 'ô'), ('\u212A', 'k'),
  ('\u212B', 'å')]

/-- The small letter of a capital that may occur in a name. -/
def small (c : Char) : Char := if c.isUpper then c.toLower else (capitals.lookup c).getD c

/-- The styles that a name may ask for at its end. -/
def styles : List (String × Char) := [("-text", textSelector), ("-emoji", emojiSelector)]

/-- The name without the style that it asks for, and what gives the emoji that style. -/
def cutStyle (name : List Char) : List Char × List Char :=
  let asked := styles.findSome? fun (ending, selector) =>
    (dropEnding? ending name).map fun bare => (bare, [selector])
  asked.getD (name, [])

/-- The emoji of a code, given by what stands between its colons. -/
def ofCode? (code : List Char) : Option (List Char) :=
  let (name, style) := cutStyle code
  (named? (name.map small)).map (· ++ style)

/-! ## Codes -/

/-- The code that follows a colon, and what stands behind it. -/
def code? (text : List Char) : Option (List Char × List Char) :=
  match cut? ':' text with
  | some (code, behind) => if code.any isBlank then none else some (code, behind)
  | none => none

/-- What appears for a code. -/
def shownFor (code : List Char) : List Char := (ofCode? code).getD (':' :: code ++ [':'])

theorem length_code? {text code behind : List Char} (h : code? text = some (code, behind)) :
    behind.length < text.length := by
  simp only [code?] at h
  split at h
  · rename_i before rest heq
    rw [(cut?_eq_some heq).1]
    split at h
    · simp at h
    · obtain ⟨rfl, rfl⟩ := by simpa using h
      simp only [List.length_append, List.length_cons]
      omega
  · simp at h

/-- The text with emoji in place of their codes. -/
def replaceCodes (text : List Char) : List Char :=
  match text with
  | ':' :: rest =>
    match _ : code? rest with
    | some (code, behind) => shownFor code ++ replaceCodes behind
    | none => ':' :: replaceCodes rest
  | c :: rest => c :: replaceCodes rest
  | [] => []
termination_by text.length
decreasing_by
  · have := length_code? ‹_›
    simp only [List.length_cons]
    omega
  · simp
  · simp

/-- Text without colons is left alone. -/
theorem replaceCodes_eq_self {text : List Char} (h : ':' ∉ text) : replaceCodes text = text := by
  fun_induction replaceCodes text with
  | case1 => simp at h
  | case2 => simp at h
  | case3 c rest _ ih => rw [ih (List.not_mem_of_not_mem_cons h)]
  | case4 => rfl

end ScreenNav.Text.Emoji
