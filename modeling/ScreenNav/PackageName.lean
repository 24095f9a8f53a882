import ScreenNav.Text.WordCharacter

/-!
# Package names

Which text names a package that code can be generated into: components with single dots between
them, each starting with an ASCII letter, an underscore or a dollar sign and going on with word
characters and dollar signs. A component so made is no path of its own: it is neither empty nor
`..`, and it holds no slash.

The test reads the text once, remembering only whether a component is about to start.
-/

namespace ScreenNav.PackageName

/-- A character that a component may start with. -/
def isStart (c : Char) : Bool := c.isAlpha || c == '_' || c == '$'

/-- A character that a component may go on with. -/
def isPart (c : Char) : Bool := Text.isWordCharacter c || c == '$'

/-- The rest of a package name; `starting` says that a component is about to start. -/
def continues (starting : Bool) : List Char → Bool
  | [] => !starting
  | c :: rest =>
    if starting then isStart c && continues false rest
    else if c = '.' then continues true rest
    else isPart c && continues false rest

/-- The text names a package. -/
def isValid (text : String) : Bool := continues true text.toList

end ScreenNav.PackageName
