import ScreenNav.Declaration
import ScreenNav.QualifiedName

/-!
# The marker annotation

Which fields of a class a screen needs to be started with: those that carry the annotation
`Required`, under any package. Only the first such annotation of a field counts.

**Binding.** A marked field is bound, that is, assigned from the intent again, unless its marker
says `bind = false`. Of several `bind` arguments the last counts, but all have to be right.

**Scanning** lists the marked fields of all classes in the order of the file.
-/

namespace ScreenNav

/-- What is wrong with a set of declarations. -/
inductive DeclarationError where
  | unknownOption (name : String)
  | repeatedOption (name : String)
  | strictNotBoolean
  | packageNotName (value : Value)
  | repeatedType (name : String)
  /-- Two classes with one simple name, for which their launchers would be called alike. -/
  | sharedSimpleName (first second simple : String)
  | repeatedField (className fieldName : String)
  /-- A marked field has a name that the generated code uses for something else. -/
  | reservedField (className fieldName : String)
  | unknownMarkerArgument (className fieldName : String) (argument : Argument)
  | bindNotBoolean (className fieldName : String)
deriving DecidableEq, Repr

/-- The simple name of the marker annotation. -/
def markerName : String := "Required"

/-- The name of the marker's argument. -/
def bindName : String := "bind"

/-- An argument as a message names it: by its name, or by its value if it has none. -/
def Argument.shown (a : Argument) : String :=
  match a.name with
  | none => a.value.shown
  | some name => if name = "" then a.value.shown else name

/-- The wording of an error. -/
def DeclarationError.message : DeclarationError → String
  | .unknownOption name => "Unknown option " ++ name
  | .repeatedOption name => "Option " ++ name ++ " set more than once"
  | .strictNotBoolean => "Option strict must be true or false"
  | .packageNotName value => "Option package must be a package name, not " ++ value.shown
  | .repeatedType name => "Type " ++ name ++ " declared more than once"
  | .sharedSimpleName first second simple =>
    "Classes " ++ first ++ " and " ++ second ++ " share the name " ++ simple
  | .repeatedField className fieldName =>
    "Field " ++ className ++ "." ++ fieldName ++ " declared more than once"
  | .reservedField className fieldName =>
    "Field " ++ className ++ "." ++ fieldName ++ " clashes with a generated local variable"
  | .unknownMarkerArgument className fieldName argument =>
    className ++ "." ++ fieldName ++ ": unknown @" ++ markerName ++ " argument " ++ argument.shown
  | .bindNotBoolean className fieldName =>
    className ++ "." ++ fieldName ++ ": bind must be true or false"

/-- The marker of a field, if it is marked. -/
def FieldDecl.marker? (f : FieldDecl) : Option Annotation :=
  f.annotations.find? fun a => QualifiedName.simple a.name = markerName

/-- What one argument of a marker says about binding. -/
def Argument.bindFlag (className fieldName : String) (a : Argument) :
    Except DeclarationError Bool :=
  if a.name ≠ some bindName then .error (.unknownMarkerArgument className fieldName a)
  else match a.value.toBool? with
    | none => .error (.bindNotBoolean className fieldName)
    | some flag => .ok flag

/-- What a marker says about binding. -/
def Annotation.bindFlag (className fieldName : String) (marker : Annotation) :
    Except DeclarationError Bool :=
  marker.arguments.foldlM (fun _ argument => argument.bindFlag className fieldName) true

/-- A marked field, with the text of its type. -/
structure MarkedField where
  className : String
  fieldName : String
  typeText : String
  modifiers : List String
  bound : Bool
deriving DecidableEq, Repr

/-- The marked field that a field of a class is, if it is one. -/
def FieldDecl.marked? (className : String) (f : FieldDecl) :
    Except DeclarationError (Option MarkedField) :=
  match f.marker? with
  | none => .ok none
  | some marker => do
    let bound ← marker.bindFlag className f.name
    return some ⟨className, f.name, f.type.text, f.modifiers, bound⟩

/-- The marked fields of a class, in order. -/
def ClassDecl.markedFields (c : ClassDecl) : Except DeclarationError (List MarkedField) := do
  let fields ← c.fields.mapM (FieldDecl.marked? c.name)
  return fields.filterMap id

/-- The marked fields of several classes, in order. -/
def scan (classes : List ClassDecl) : Except DeclarationError (List MarkedField) := do
  let fields ← classes.mapM ClassDecl.markedFields
  return fields.flatten

end ScreenNav
