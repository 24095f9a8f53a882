import ScreenNav.Marker
import ScreenNav.PackageName

/-!
# Validation

Whether a set of declarations makes sense, beyond being well written. The checks go through the
options, the types and the classes in order, and the first fault is the one reported.

**Uniqueness.** An option is set at most once and a type declared at most once. A class may be
declared in several blocks, but two classes may not share a simple name, and a field name occurs
once in all blocks of a class together.

**Markers.** A marked field becomes a parameter of generated code, so it must not be called like
another variable there, and the arguments of its marker must be right.
-/

namespace ScreenNav

/-! ## Options -/

/-- The options there are. -/
def optionNames : List String := ["package", "strict"]

/-- The value is the name of a package. -/
def Value.isPackageName (value : Value) : Bool := value.toText?.any PackageName.isValid

/-- Checks one option; `seen` holds the names of the options before it. -/
def OptionDecl.check (seen : List String) (o : OptionDecl) : Except DeclarationError Unit :=
  if o.name ∉ optionNames then .error (.unknownOption o.name)
  else if o.name ∈ seen then .error (.repeatedOption o.name)
  else if o.name = "strict" ∧ o.value.toBool? = none then .error .strictNotBoolean
  else if o.name = "package" ∧ o.value.isPackageName = false then .error (.packageNotName o.value)
  else .ok ()

/-- Checks options in order. -/
def checkOptions (seen : List String) : List OptionDecl → Except DeclarationError Unit
  | [] => .ok ()
  | o :: rest => do
    o.check seen
    checkOptions (o.name :: seen) rest

/-! ## Types -/

/-- Checks type declarations in order; `seen` holds the names declared before. -/
def checkTypes (seen : List String) : List TypeDecl → Except DeclarationError Unit
  | [] => .ok ()
  | d :: rest =>
    if d.name ∈ seen then .error (.repeatedType d.name) else checkTypes (d.name :: seen) rest

/-! ## Classes -/

/-- The names that generated code uses for a parameter and a variable of its own. -/
def reservedNames : List String := ["context", "intent"]

/-- Checks the marker of a field, if it has one. -/
def FieldDecl.checkMarker (className : String) (f : FieldDecl) : Except DeclarationError Unit :=
  match f.marker? with
  | none => .ok ()
  | some marker =>
    if f.name ∈ reservedNames then .error (.reservedField className f.name)
    else (marker.bindFlag className f.name).map fun _ => ()

/-- Checks the fields of a class block in order; `seen` holds the names of the fields before. -/
def checkFields (className : String) (seen : List String) :
    List FieldDecl → Except DeclarationError Unit
  | [] => .ok ()
  | f :: rest =>
    if f.name ∈ seen then .error (.repeatedField className f.name)
    else do
      f.checkMarker className
      checkFields className (f.name :: seen) rest

/-- The names of the fields that the given blocks declare for a class. -/
def fieldNames (className : String) (blocks : List ClassDecl) : List String :=
  (blocks.filter fun c => c.name = className).flatMap fun c => c.fields.map (·.name)

/-- Checks class blocks in order; `seen` holds the blocks before. -/
def checkClasses (seen : List ClassDecl) : List ClassDecl → Except DeclarationError Unit
  | [] => .ok ()
  | c :: rest =>
    let simple := QualifiedName.simple c.name
    match seen.find? fun d => QualifiedName.simple d.name = simple ∧ d.name ≠ c.name with
    | some other => .error (.sharedSimpleName other.name c.name simple)
    | none => do
      checkFields c.name (fieldNames c.name seen) c.fields
      checkClasses (seen ++ [c]) rest

/-- Checks a set of declarations. -/
def Declarations.validate (d : Declarations) : Except DeclarationError Unit := do
  checkOptions [] d.options
  checkTypes [] d.types
  checkClasses [] d.classes

/-! ## Settings -/

/-- The options in force, by name. -/
abbrev Settings := List (String × Value)

namespace Settings

/-- The package that code is generated into if no other is named. -/
def defaultPackage : String := "navgen.generated"

/-- What holds where nothing is set. -/
def defaults : Settings := [("package", .string defaultPackage), ("strict", .bool true)]

/-- Gives an option a value, in the place it already has. -/
def set (name : String) (value : Value) : Settings → Settings
  | [] => [(name, value)]
  | entry :: rest =>
    if entry.1 = name then (name, value) :: rest else entry :: set name value rest

/-- The options in force after those of a file; the last setting of an option counts. -/
def ofOptions (options : List OptionDecl) : Settings :=
  options.foldl (fun settings o => settings.set o.name o.value) defaults

/-- The package that code is generated into. -/
def package (settings : Settings) : String :=
  ((settings.lookup "package").bind Value.toText?).getD defaultPackage

/-- A bound field that cannot be read back is an error. -/
def strict (settings : Settings) : Bool :=
  ((settings.lookup "strict").bind Value.toBool?).getD true

end Settings

end ScreenNav
