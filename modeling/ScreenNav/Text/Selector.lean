/-!
# Invisible characters that change others

Characters without a shape of their own that decide how the characters beside them are shown.
-/

namespace ScreenNav.Text

/-- Makes one sign of the character before it and the character behind it. -/
def zeroWidthJoiner : Char := '\u200D'

/-- Asks for the symbol before it as text. -/
def textSelector : Char := '\uFE0E'

/-- Asks for the symbol before it as an emoji. -/
def emojiSelector : Char := '\uFE0F'

end ScreenNav.Text
