import ScreenNav.Declaration
import ScreenNav.Report

/-!
# JSON documents

Declarations and reports for other programs to read.

**Layout.** Every item of an array and every member of an object stands on a line of its own, two
spaces further in than what encloses it. An array or object without items is written on one line.

**Strings** are written with the printable characters of ASCII: any other character stands as its
UTF-16 units, apart from the controls that have a letter of their own. Of the printable characters
only the quote and the backslash are escaped.

**Numbers** with a point or an exponent are written with the fewest digits that read back, and
infinity and not-a-number by name.
-/

namespace ScreenNav

/-- A JSON document; the members of an object keep their order. -/
inductive Document where
  | null
  | bool (b : Bool)
  | int (n : Int)
  | float (x : Double)
  | string (text : String)
  | array (items : List Document)
  | object (members : List (String × Document))

namespace Document

/-! ## Strings and numbers -/

/-- A code unit that cannot stand for itself. -/
def unitEscape (unit : Nat) : List Char := '\\' :: 'u' :: Text.hexadecimal 4 unit

/-- The escape of a character by its one or two code units. -/
def codeEscape (c : Char) : List Char :=
  let code := c.toNat
  if code < 0x10000 then unitEscape code
  else
    let offset := code - 0x10000
    unitEscape (0xD800 + offset / 0x400) ++ unitEscape (0xDC00 + offset % 0x400)

/-- A character inside a string. -/
def escape (c : Char) : List Char :=
  if c = '"' ∨ c = '\\' then ['\\', c]
  else if c = '\n' then ['\\', 'n']
  else if c = '\r' then ['\\', 'r']
  else if c = '\t' then ['\\', 't']
  else if c = '\x08' then ['\\', 'b']
  else if c = '\x0c' then ['\\', 'f']
  else if ' '.toNat ≤ c.toNat ∧ c.toNat ≤ '~'.toNat then [c]
  else codeEscape c

/-- A string between quotes. -/
def quote (text : String) : String := String.ofList ('"' :: text.toList.flatMap escape ++ ['"'])

/-- The text of a number with a point or an exponent. -/
def floatText (x : Double) : String :=
  match x with
  | .nan => "NaN"
  | .signed negative magnitude =>
    if magnitude = .infinity then (if negative then "-Infinity" else "Infinity") else x.text

/-! ## Documents -/

/-- Items between two brackets, one on a line. -/
def enclose (opening closing : String) (margin : Nat) (items : List String) : String :=
  if items.isEmpty then opening ++ closing
  else
    let inner := "\n" ++ spaces (margin + 2)
    opening ++ inner ++ ("," ++ inner).intercalate items ++ "\n" ++ spaces margin ++ closing

mutual

/-- The text of a document that is indented by the given margin. -/
def render (margin : Nat) : Document → String
  | .null => "null"
  | .bool b => if b then "true" else "false"
  | .int n => toString n
  | .float x => floatText x
  | .string text => quote text
  | .array items => enclose "[" "]" margin (renderItems (margin + 2) items)
  | .object members => enclose "\x7b" "\x7d" margin (renderMembers (margin + 2) members)

/-- The texts of the items of an array. -/
def renderItems (margin : Nat) : List Document → List String
  | [] => []
  | item :: rest => item.render margin :: renderItems margin rest

/-- The texts of the members of an object. -/
def renderMembers (margin : Nat) : List (String × Document) → List String
  | [] => []
  | (key, value) :: rest => (quote key ++ ": " ++ value.render margin) :: renderMembers margin rest

end

/-- The text of a document, with a newline at the end. -/
def text (document : Document) : String := document.render 0 ++ "\n"

/-- An array of strings. -/
def strings (items : List String) : Document := .array (items.map .string)

/-- A string, or null where there is none. -/
def optional (text : Option String) : Document := text.elim .null .string

end Document

/-! ## Declarations -/

/-- The document of a value. -/
def Value.document : Value → Document
  | .null => .null
  | .bool b => .bool b
  | .int n => .int n
  | .float x => .float x
  | .string text => .string text

/-- The document of an option. -/
def OptionDecl.document (o : OptionDecl) : Document :=
  .object [("name", .string o.name), ("value", o.value.document)]

/-- The document of a type declaration. -/
def TypeDecl.document (d : TypeDecl) : Document :=
  .object [("name", .string d.name), ("extends", .strings d.parents),
    ("implements", .strings d.interfaces)]

mutual

/-- The document of a type reference. -/
def TypeRef.document : TypeRef → Document
  | .mk name args dims =>
    .object [("name", .string name), ("dims", .int dims), ("args", .array (TypeRef.documents args))]

/-- The documents of several type references. -/
def TypeRef.documents : List TypeRef → List Document
  | [] => []
  | t :: ts => t.document :: TypeRef.documents ts

end

/-- The document of an argument. -/
def Argument.document (a : Argument) : Document :=
  .object [("name", .optional a.name), ("value", a.value.document)]

/-- The document of an annotation. -/
def Annotation.document (a : Annotation) : Document :=
  .object [("name", .string a.name), ("arguments", .array (a.arguments.map Argument.document))]

/-- The document of a field. -/
def FieldDecl.document (f : FieldDecl) : Document :=
  .object [("name", .string f.name), ("type", f.type.document), ("modifiers", .strings f.modifiers),
    ("annotations", .array (f.annotations.map Annotation.document))]

/-- The document of a class block. -/
def ClassDecl.document (c : ClassDecl) : Document :=
  .object [("name", .string c.name), ("fields", .array (c.fields.map FieldDecl.document))]

/-- The document of the declarations of a file. -/
def Declarations.document (d : Declarations) : Document :=
  .object [("options", .array (d.options.map OptionDecl.document)),
    ("types", .array (d.types.map TypeDecl.document)),
    ("classes", .array (d.classes.map ClassDecl.document))]

/-! ## Reports -/

/-- The document of what a report says about one extra. -/
def ReportRow.document (r : ReportRow) : Document :=
  .object [("name", .string r.name), ("type", .string r.type),
    ("category", .string r.category.name), ("accessor", .optional r.accessor),
    ("default", .optional r.fallback), ("cast", .bool r.cast), ("bind", .bool r.bound),
    ("writable", .bool r.writable)]

/-- The document of what a report says about a screen. -/
def Screen.document (s : Screen) : Document :=
  .object [("launcher", .string s.launcherName), ("fields", .array (s.rows.map ReportRow.document))]

/-- The document of a report on the screens that a navigator would serve. -/
def reportDocument (package : String) (screens : List Screen) : Document :=
  .object [("package", .string package),
    ("classes", .object (screens.map fun s => (s.className, s.document)))]

end ScreenNav
