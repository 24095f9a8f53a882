/-!
# Generated methods

The methods of the generated class as data: parameters and statements, with their text in one
place. Types stand in them as the text that refers to them in the generated file.
-/

namespace ScreenNav

/-- A parameter of a generated method. -/
structure Parameter where
  type : String
  name : String
deriving DecidableEq, Repr

/-- The text of a parameter. -/
def Parameter.text (p : Parameter) : String := "final " ++ p.type ++ " " ++ p.name

/-- A statement of a generated method. -/
inductive Statement where
  /-- Makes an intent for a screen. -/
  | newIntent (intentType screenType : String)
  /-- Puts a parameter into the intent, under its own name. -/
  | putExtra (name : String)
  /-- Starts the screen. -/
  | startActivity
  /-- Takes the intent that started the screen. -/
  | getIntent (intentType : String)
  /-- Assigns a field from the extra of the same name. -/
  | assign (name : String) (cast : Option String) (method : String) (fallback : Option String)
deriving DecidableEq, Repr

/-- The text of a statement, without the semicolon. -/
def Statement.text : Statement → String
  | .newIntent intentType screenType =>
    intentType ++ " intent = new " ++ intentType ++ "(context, " ++ screenType ++ ".class)"
  | .putExtra name => "intent.putExtra(\"" ++ name ++ "\", " ++ name ++ ")"
  | .startActivity => "context.startActivity(intent)"
  | .getIntent intentType => intentType ++ " intent = activity.getIntent()"
  | .assign name cast method fallback =>
    let conversion := cast.elim "" fun type => "(" ++ type ++ ") "
    let missing := fallback.elim "" fun value => ", " ++ value
    "activity." ++ name ++ " = " ++ conversion ++ "intent." ++ method ++ "(\"" ++ name ++ "\""
      ++ missing ++ ")"

/-- A generated method. -/
structure Method where
  name : String
  parameters : List Parameter
  statements : List Statement
deriving DecidableEq, Repr

/-- The text of the parameters. -/
def Method.signature (m : Method) : String := ", ".intercalate (m.parameters.map Parameter.text)

end ScreenNav
