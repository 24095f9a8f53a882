import ScreenNav.Text.Numeral
import ScreenNav.Text.Printable

/-!
# Quoted text

How a message shows a piece of text that came from outside: between quotation marks, on one line,
with everything visible.

**The quotation mark** is the apostrophe, unless the text holds an apostrophe and no double quote.
So a mark has to be escaped only in text that holds both.

**Escapes.** The backslash and the chosen mark stand behind a backslash; newline, carriage return
and tab have letters; any other character that has no printed shape is written as `\x`, `\u` or
`\U` with two, four or eight hexadecimal digits, the shortest that fits.
-/

namespace ScreenNav.Text

/-- The mark that encloses the text. -/
def quotationMark (text : List Char) : Char :=
  if '\'' ∈ text ∧ '"' ∉ text then '"' else '\''

/-- A character that cannot be printed, by its code point. -/
def escapeCode (c : Char) : List Char :=
  let code := c.toNat
  if code < 0x100 then '\\' :: 'x' :: hexadecimal 2 code
  else if code < 0x10000 then '\\' :: 'u' :: hexadecimal 4 code
  else '\\' :: 'U' :: hexadecimal 8 code

/-- One character of quoted text. -/
def escape (mark c : Char) : List Char :=
  if c = '\\' ∨ c = mark then ['\\', c]
  else if c = '\n' then ['\\', 'n']
  else if c = '\r' then ['\\', 'r']
  else if c = '\t' then ['\\', 't']
  else if isPrintable c then [c]
  else escapeCode c

/-- The text between quotation marks, on one line. -/
def quoted (text : String) : String :=
  let mark := quotationMark text.toList
  String.ofList (mark :: text.toList.flatMap (escape mark) ++ [mark])

end ScreenNav.Text
