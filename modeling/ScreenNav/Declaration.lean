import ScreenNav.TypeRef
import ScreenNav.Value

/-!
# Declarations

What a declaration file says: the options of the generated code, the types that screens exchange,
and the classes of the screens with their fields.

The three kinds of declaration are kept apart, each in the order of the file. Names and modifiers
are any text, so a set of declarations need not come from a file.
-/

namespace ScreenNav

/-- A setting of the generated code. -/
structure OptionDecl where
  name : String
  value : Value
deriving DecidableEq, Repr

/-- A type and its direct supertypes. -/
structure TypeDecl where
  name : String
  /-- The types that it extends. -/
  parents : List String
  /-- The interfaces that it implements. -/
  interfaces : List String
deriving DecidableEq, Repr

/-- The direct supertypes, those extended before those implemented. -/
def TypeDecl.supertypes (d : TypeDecl) : List String := d.parents ++ d.interfaces

/-- An argument of an annotation, which may have a name. -/
structure Argument where
  name : Option String
  value : Value
deriving DecidableEq, Repr

/-- An annotation on a field. -/
structure Annotation where
  name : String
  arguments : List Argument
deriving DecidableEq, Repr

/-- A field of a class. -/
structure FieldDecl where
  name : String
  type : TypeRef
  modifiers : List String
  annotations : List Annotation
deriving DecidableEq, Repr

/-- A class and its fields. A class may be declared in several blocks. -/
structure ClassDecl where
  name : String
  fields : List FieldDecl
deriving DecidableEq, Repr

/-- Everything that a file declares. -/
structure Declarations where
  options : List OptionDecl
  types : List TypeDecl
  classes : List ClassDecl
deriving DecidableEq, Repr

/-- The declarations of an empty file. -/
def Declarations.empty : Declarations := ⟨[], [], []⟩

end ScreenNav
