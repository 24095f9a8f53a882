import ScreenNav.QualifiedName
import ScreenNav.TypeName

/-!
# The import scope of a generated file

Which types a generated file may call by their simple names.

**Claims.** The first type referred to under a simple name owns that name for the whole file; any
other type with the same simple name is written in full. A reserved simple name belongs from the
start to the type of that name in the file's own package. A name without a dot claims nothing and
is always written as it is.

**Imports.** An owner is imported unless it is visible anyway, as the types of `java.lang` and of
the file's own package are. Imports are listed in ascending order.

A claim once made is never lost, so a reference keeps its text however many others follow it.
-/

namespace ScreenNav

/-- The simple names that are taken in a generated file. -/
structure Scope where
  /-- The package of the file. -/
  package : String
  /-- Simple names that belong to types of the file's own package. -/
  reserved : List String
  /-- The other types that own their simple names, in the order of their claims. -/
  owners : List String
deriving DecidableEq, Repr

namespace Scope

/-- The scope of a file that refers to nothing yet. -/
def start (package : String) (reserved : List String) : Scope := ⟨package, reserved, []⟩

/-- The type that owns a simple name. -/
def owner? (s : Scope) (simple : String) : Option String :=
  if simple ∈ s.reserved then some (s.package ++ "." ++ simple)
  else s.owners.find? fun name => QualifiedName.simple name = simple

/-- Gives a type its simple name, if the name is free. -/
def claim (s : Scope) (name : String) : Scope :=
  if QualifiedName.IsDotted name ∧ s.owner? (QualifiedName.simple name) = none then
    { s with owners := s.owners ++ [name] }
  else s

/-- Makes claims in order, up to the first place where there is no name. -/
def claimAll (s : Scope) : List (Option String) → Scope
  | some name :: rest => (s.claim name).claimAll rest
  | _ => s

/-- The text for a name: its simple name if it owns that, else the name itself. -/
def display (s : Scope) (name : String) : String :=
  if QualifiedName.IsDotted name ∧ s.owner? (QualifiedName.simple name) = some name then
    QualifiedName.simple name
  else name

/-- The members of the package are visible without an import. -/
def IsVisible (s : Scope) (package : String) : Prop := package = "java.lang" ∨ package = s.package

instance (s : Scope) (package : String) : Decidable (s.IsVisible package) :=
  inferInstanceAs (Decidable (_ ∨ _))

/-- The types to import, in ascending order. -/
def imports (s : Scope) : List String :=
  (s.owners.filter fun name => ¬ s.IsVisible (QualifiedName.package name)).mergeSort
    fun a b => decide (a ≤ b)

/-- Makes the claims of a type: its base first, then those of its arguments. -/
def claimType (s : Scope) (type : TypeName) : Scope := s.claimAll type.bases

/-- The text of a type in this scope. -/
def displayType (s : Scope) (type : TypeName) : Except TypeNameError String :=
  type.render s.display

end Scope

end ScreenNav
