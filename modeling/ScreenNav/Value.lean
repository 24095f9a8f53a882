import ScreenNav.NumberLiteral
import ScreenNav.Double.Shortest
import ScreenNav.Text.Quoted

/-!
# Values

What an option is set to and what an annotation's argument holds. A declaration writes a value as a
number, a string, `true`, `false`, or a dotted name, which stands for its own text; `null` occurs
only in declarations that were not read from a file.
-/

namespace ScreenNav

/-- The value of an option or of an annotation's argument. -/
inductive Value where
  | null
  | bool (b : Bool)
  | int (n : Int)
  | float (x : Double)
  | string (text : String)
deriving DecidableEq, Repr

namespace Value

/-- The value of a number: an integer, or with a point or an exponent a double-precision number. -/
def ofNumber (n : NumberLiteral) : Value :=
  if n.IsWhole then .int n.toInt else .float n.toDouble

/-- The value as a message shows it. -/
def shown : Value → String
  | .null => "None"
  | .bool true => "True"
  | .bool false => "False"
  | .int n => toString n
  | .float x => x.text
  | .string text => Text.quoted text

/-- The truth value, of a value that is one. -/
def toBool? : Value → Option Bool
  | .bool b => some b
  | _ => none

/-- The text, of a value that is text. -/
def toText? : Value → Option String
  | .string text => some text
  | _ => none

end Value

end ScreenNav
