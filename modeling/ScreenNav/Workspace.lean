import ScreenNav.Path

/-!
# Workspaces

The files of a system, as a command sees them from its working directory.

**Places.** A file has a location, the names that lead to it from the root of the system. A path
without a root starts in the working directory and any other path at the root. Two dots lead back,
and at the root nowhere.

**Directories** are the places that lead to a file or to the working directory, and those that were
made.

**Reading** follows a path component by component, as the file system does: each component before
the last has to be a directory, an empty component included.

**Writing** makes the directories on the way that are missing, and then replaces the file or puts
it there. It fails where a file stands in the way of a directory or a directory in the place of the
file, even one that was made on the way to it, where the system lets nothing be made, and where a
name or the whole path is too long. The directories made before that stay.
-/

namespace ScreenNav

/-- Why a file cannot be read. -/
inductive FileError where
  | notFound
  | isDirectory
  | notDirectory
  | nameTooLong
  /-- The path holds a null character, which no path can. -/
  | nullCharacter
deriving DecidableEq, Repr

/-- The wording of an error. -/
def FileError.message : FileError → String
  | .notFound => "No such file or directory"
  | .isDirectory => "Is a directory"
  | .notDirectory => "Not a directory"
  | .nameTooLong => "File name too long"
  | .nullCharacter => "embedded null byte"

/-- The names that lead to a place from the root of the system. -/
abbrev Location := List (List Char)

/-- A file, by its place and its content. -/
structure File where
  location : Location
  content : ByteArray

/-- The files of a system, seen from a working directory. -/
structure Workspace where
  /-- The working directory. -/
  directory : Location
  files : List File
  /-- The directories that were made, whether they lead to a file or not. -/
  directories : List Location
  /-- The system lets nothing be made or replaced there. -/
  isClosed : Location → Bool

namespace Workspace

/-- The content of the file at a location. -/
def content? (w : Workspace) (l : Location) : Option ByteArray :=
  (w.files.find? fun f => f.location = l).map File.content

/-- The location is that of a directory. -/
def isDirectory (w : Workspace) (l : Location) : Bool :=
  l.isPrefixOf w.directory || w.directories.any (fun made => l.isPrefixOf made) ||
    w.files.any fun f => l.isPrefixOf f.location && f.location ≠ l

/-- The greatest number of bytes in the name of a file. -/
def nameLimit : Nat := 255

/-- The greatest number of bytes in a path. -/
def pathLimit : Nat := 4095

/-- The component can name a file. -/
def fits (component : List Char) : Bool := (String.ofList component).utf8ByteSize ≤ nameLimit

/-! ## Places -/

/-- Where a path with this root starts. -/
def start (w : Workspace) (root : PathRoot) : Location := if root = .none then w.directory else []

/-- The location that one more component leads to. -/
def enter (l : Location) (component : List Char) : Location :=
  if component = [] ∨ component = ['.'] then l
  else if component = ['.', '.'] then l.dropLast
  else l ++ [component]

/-- The location that a path leads to. -/
def place (w : Workspace) (path : Path) : Location := path.components.foldl enter (w.start path.root)

/-! ## Reading -/

/-- Follows the components of a path from a location. -/
def follow (w : Workspace) (l : Location) : List (List Char) → Except FileError Location
  | [] => .ok l
  | component :: rest =>
    if (w.content? l).isSome then .error .notDirectory
    else if ¬ w.isDirectory l then .error .notFound
    else if ¬ fits component then .error .nameTooLong
    else follow w (enter l component) rest

/-- The content of the file at a location, or why there is none. -/
def readAt (w : Workspace) (l : Location) : Except FileError ByteArray :=
  match w.content? l with
  | some content => .ok content
  | none => .error (if w.isDirectory l then .isDirectory else .notFound)

/-- Reads a file. -/
def read (w : Workspace) (path : String) : Except FileError ByteArray :=
  if (Path.ofText path).hasNull then .error .nullCharacter
  else if path = "" then .error .notFound
  else if pathLimit < path.utf8ByteSize then .error .nameTooLong
  else do
    let l ← w.follow (w.start (Path.ofText path).root) (Text.split '/' path.toList)
    w.readAt l

/-! ## Writing -/

/-- The workspace with a directory at a location. -/
def addDirectory (w : Workspace) (l : Location) : Workspace :=
  { w with directories := l :: w.directories }

/-- Makes a directory at a location, unless there is one already. -/
def makeDirectory (w : Workspace) (l : Location) : Option Workspace :=
  if (w.content? l).isSome ∨ ¬ w.isDirectory l ∧ w.isClosed l then none else some (w.addDirectory l)

/-- Makes directories from a location on, along the components of a path. Gives what is left, and
whether all of them are there. -/
def makeDirectories (w : Workspace) (l : Location) (components : List (List Char)) :
    Workspace × Bool :=
  match w.makeDirectory l with
  | none => (w, false)
  | some made =>
    match components with
    | [] => (made, true)
    | component :: rest =>
      if fits component then made.makeDirectories (enter l component) rest else (made, false)

/-- Makes the directories that lead to a path. -/
def makeWay (w : Workspace) (path : Path) : Workspace × Bool :=
  w.makeDirectories (w.start path.root) path.parent.components

/-- The workspace with the given content at a location. -/
def put (w : Workspace) (l : Location) (content : ByteArray) : Workspace :=
  { w with files := w.files.filter (fun f => f.location ≠ l) ++ [⟨l, content⟩] }

/-- In its directory, there is room for a file at the path. -/
def hasRoom (w : Workspace) (path : Path) : Bool :=
  !w.isDirectory (w.place path) && !w.isClosed (w.place path) && path.components.all fits &&
    path.text.utf8ByteSize ≤ pathLimit

/-- Writes a file and the directories that lead to it. Gives what is left, and whether the file has
been written. -/
def write (w : Workspace) (path : Path) (content : ByteArray) : Workspace × Bool :=
  if pathLimit < path.parent.text.utf8ByteSize then (w, false)
  else
    let (made, done) := w.makeWay path
    if done && made.hasRoom path then (made.put (made.place path) content, true) else (made, false)

/-! ## Systems -/

/-- A place to work in. -/
def workplace : Location := ["tmp".toList, "workplace".toList]

/-- The given files in a working directory, in a system with the places that every system has: some
directories, of which two are not for files, and a device that reads as an empty file. -/
def ofFiles (files : List File) : Workspace where
  directory := workplace
  files := ⟨["dev".toList, "null".toList], .empty⟩
    :: files.map fun f => { f with location := workplace ++ f.location }
  directories := ["bin", "etc", "home", "lib", "proc", "root", "run", "sbin", "sys", "tmp", "usr",
    "var"].map fun name => [name.toList]
  isClosed l := ["proc", "sys"].any fun name => [name.toList].isPrefixOf l && l ≠ [name.toList]

/-- The workspace has this file with this content. -/
def holds (w : Workspace) (f : File) : Bool :=
  match w.content? f.location with
  | none => false
  | some content => content.toList == f.content.toList

/-- The files in the working directory that are new or have another content than before, by their
places in it. -/
def changes (before after : Workspace) : List File :=
  let changed := after.files.filter fun f =>
    before.directory.isPrefixOf f.location && !before.holds f
  changed.map fun f => { f with location := f.location.drop before.directory.length }

end Workspace

end ScreenNav
