import ScreenNav.Navigator

/-!
# The source text of a navigator

The generated file, line by line: a comment, the package, the imports, and the class with its
methods. A blank line stands between the imports and the class if there are imports, and between
any two methods.
-/

namespace ScreenNav

/-- The lines of a method. -/
def Method.lines (m : Method) : List String :=
  ("  public static void " ++ m.name ++ "(" ++ m.signature ++ ") \x7b")
    :: m.statements.map (fun s => "    " ++ s.text ++ ";")
    ++ ["  \x7d"]

/-- The lines of several methods, with a blank line between any two. -/
def methodLines : List Method → List String
  | [] => []
  | [m] => m.lines
  | m :: rest => m.lines ++ "" :: methodLines rest

/-- The lines of the imports, with a blank line behind them if there are any. -/
def importLines (imports : List String) : List String :=
  if imports.isEmpty then []
  else imports.map (fun name => "import " ++ name ++ ";") ++ [""]

namespace Navigator

/-- The lines of the generated file. -/
def lines (n : Navigator) : List String :=
  ["", "// Generated by navgen. Do not modify.", "package " ++ n.package ++ ";", ""]
    ++ importLines n.imports
    ++ ["public final class " ++ n.name ++ " \x7b"]
    ++ methodLines n.methods
    ++ ["\x7d"]

/-- The text of the generated file; every line ends with a newline. -/
def source (n : Navigator) : String := String.join (n.lines.map (· ++ "\n"))

end Navigator

end ScreenNav
