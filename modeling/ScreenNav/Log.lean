/-!
# Log records

What a run reports on the way, apart from its result.
-/

namespace ScreenNav

/-- How much a record matters. -/
inductive LogLevel where
  | debug
  | warning
  | error
deriving DecidableEq, Repr

/-- The name of a level. -/
def LogLevel.name : LogLevel → String
  | .debug => "DEBUG"
  | .warning => "WARNING"
  | .error => "ERROR"

/-- A reported event. -/
inductive LogRecord where
  /-- The methods of a screen are done. -/
  | generated (simpleName className : String)
  /-- A bound field is left out, because its type cannot be read back. -/
  | notBinding (className fieldName typeName : String)
  /-- The generated source is on disk. -/
  | wrote (path : String)
  /-- The generated source could not be put on disk. -/
  | couldNotWrite (path : String)
deriving DecidableEq, Repr

namespace LogRecord

/-- How much a record matters. -/
def level : LogRecord → LogLevel
  | .generated .. | .wrote _ => .debug
  | .notBinding .. => .warning
  | .couldNotWrite _ => .error

/-- The wording of a record. -/
def message : LogRecord → String
  | .generated simpleName className =>
    "Generated start" ++ simpleName ++ " and bind for " ++ className
  | .notBinding className fieldName typeName =>
    "Not binding " ++ className ++ "." ++ fieldName ++ ": type " ++ typeName
      ++ " cannot be read from an Intent"
  | .wrote path => "Wrote " ++ path
  | .couldNotWrite path => "Could not write " ++ path

end LogRecord

end ScreenNav
