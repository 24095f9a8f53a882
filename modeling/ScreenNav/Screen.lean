import ScreenNav.Descriptor
import ScreenNav.Marker

/-!
# Screens

The screens of an application, each with the extras that an intent carries to it: the marked fields
of a class, with what is known of their types.

**Gathering.** All marked fields of one class belong to one screen, however many blocks declare
them. Screens come in the order in which they were first met, and extras in the order of the file,
which is the order of the parameters in generated code. A type is described in the package of its
class.
-/

namespace ScreenNav

/-- A value that an intent carries to a screen. -/
structure Extra where
  /-- The name of the field, and the key of the value in the intent. -/
  name : String
  type : Descriptor
  /-- Other classes can assign the field. -/
  writable : Bool
  /-- The field is assigned from the intent. -/
  bound : Bool
deriving DecidableEq, Repr

/-- A class with its extras. -/
structure Screen where
  className : String
  extras : List Extra
deriving DecidableEq, Repr

/-- The simple name of the class. -/
def Screen.simpleName (s : Screen) : String := QualifiedName.simple s.className

/-- The name of the generated method that starts the screen. -/
def Screen.launcherName (s : Screen) : String := "start" ++ s.simpleName

/-- A field with these modifiers can be assigned from another class. -/
def isWritable (modifiers : List String) : Bool :=
  decide ("public" ∈ modifiers) && !decide ("final" ∈ modifiers)

/-- The extra that a marked field is, with the name of its class. -/
def MarkedField.extra (u : Universe) (f : MarkedField) : Except TypeNameError (String × Extra) := do
  let type ← u.describe (QualifiedName.package f.className) f.typeText
  return (f.className, ⟨f.fieldName, type, isWritable f.modifiers, f.bound⟩)

namespace Screen

/-- Adds an extra to the screen of a class, or a screen for it at the end. -/
def addExtra (className : String) (extra : Extra) : List Screen → List Screen
  | [] => [⟨className, [extra]⟩]
  | screen :: rest =>
    if screen.className = className then ⟨className, screen.extras ++ [extra]⟩ :: rest
    else screen :: addExtra className extra rest

/-- The screens of extras that stand with the names of their classes. -/
def group (extras : List (String × Extra)) : List Screen :=
  extras.foldl (fun screens entry => addExtra entry.1 entry.2 screens) []

/-- The screens that marked fields make up. -/
def gather (u : Universe) (fields : List MarkedField) : Except TypeNameError (List Screen) := do
  let extras ← fields.mapM (MarkedField.extra u)
  return group extras

end Screen

end ScreenNav
