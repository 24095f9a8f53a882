import ScreenNav.Navigator
import ScreenNav.Text.Split

/-!
# Paths of files

Where a generated file goes.

**Form.** A path is a root and components. Slashes at the start make the root: two of them stay two,
any other number counts as one. Empty components and `.` vanish; `..` stays, since what it leads to
depends on the files that are there. A path without components and root is written as `.`.

**Joining.** A relative path goes below the path it is joined to, while a path with a root replaces
it.
-/

namespace ScreenNav

/-- Where a path starts. -/
inductive PathRoot where
  /-- In the working directory. -/
  | none
  | single
  | double
deriving DecidableEq, Repr

/-- The text of a root. -/
def PathRoot.text : PathRoot → List Char
  | .none => []
  | .single => ['/']
  | .double => ['/', '/']

/-- A path, by its root and its components. -/
structure Path where
  root : PathRoot
  components : List (List Char)
deriving DecidableEq, Repr

namespace Path

/-- The root of the path with the given text. -/
def rootOf (text : List Char) : PathRoot :=
  match (text.takeWhile (· = '/')).length with
  | 0 => .none
  | 2 => .double
  | _ => .single

/-- A component that is not left out. -/
def isKept (component : List Char) : Bool := component ≠ [] && component ≠ ['.']

/-- The path with the given text. -/
def ofChars (text : List Char) : Path := ⟨rootOf text, (Text.split '/' text).filter isKept⟩

/-- The path with the given text. -/
def ofText (text : String) : Path := ofChars text.toList

/-- The text of a path. -/
def text (p : Path) : String :=
  if p.root = .none ∧ p.components = [] then "."
  else String.ofList (p.root.text ++ Text.join '/' p.components)

/-- The path of the directory that a path leads through at the end. -/
def parent (p : Path) : Path := { p with components := p.components.dropLast }

/-- The path holds a null character, so it cannot be that of a file. -/
def hasNull (p : Path) : Bool := p.components.any (·.contains '\x00')

/-- The second path as seen from the first. -/
def append (p q : Path) : Path :=
  if q.root = .none then { p with components := p.components ++ q.components } else q

/-- The path from a directory through several more. -/
def join (p : Path) (more : List Path) : Path := more.foldl append p

end Path

/-- The place of the generated class below a directory: a directory for each component of the
package, and a file named after the class. -/
def outputPath (directory package : String) : Path :=
  (Path.ofText directory).join <|
    (Text.split '.' package.toList).map Path.ofChars
      ++ [Path.ofText (Navigator.className ++ ".java")]

end ScreenNav
