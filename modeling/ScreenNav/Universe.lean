import ScreenNav.Declaration
import ScreenNav.QualifiedName

/-!
# The universe of types

Which types exist, what a simple name stands for, and which type can be used as which.

**Built in** are the primitives, the types of the platform that an intent knows how to carry, and
the usual collections, with their direct supertypes. Declarations add to them.

**Simple names.** A built-in type has its simple name for itself; of several declared types with one
simple name the first has it. Any other simple name stands for a type of the package it is used in.

**Supertypes.** The last declaration of a name says what its direct supertypes are, also where the
name is that of a built-in type. Simple names among them are looked up in the package of the
declared type, after all declarations are known, so the order of declarations does not matter.

**Assignability** is a search along direct supertypes. Each known name is expanded once, so the
search ends on a hierarchy with cycles too.
-/

namespace ScreenNav

/-! ## Built-in types -/

/-- The names of the primitive types. -/
def primitiveNames : List String :=
  ["boolean", "byte", "short", "char", "int", "long", "float", "double", "void"]

/-- The name is that of a primitive type. -/
def IsPrimitive (name : String) : Prop := name ∈ primitiveNames

instance (name : String) : Decidable (IsPrimitive name) :=
  inferInstanceAs (Decidable (name ∈ primitiveNames))

namespace Platform

def parcelable : String := "android.os.Parcelable"
def serializable : String := "java.io.Serializable"
def bundle : String := "android.os.Bundle"
def string : String := "java.lang.String"
def charSequence : String := "java.lang.CharSequence"
def number : String := "java.lang.Number"

/-- The built-in types that are not primitive, with their direct supertypes. -/
def types : List (String × List String) := [
  ("java.lang.Object", []),
  (serializable, []),
  (parcelable, []),
  (charSequence, []),
  (string, [charSequence, serializable]),
  (bundle, [parcelable]),
  (number, [serializable]),
  ("java.lang.Boolean", [serializable]),
  ("java.lang.Character", [serializable]),
  ("java.lang.Byte", [number]),
  ("java.lang.Short", [number]),
  ("java.lang.Integer", [number]),
  ("java.lang.Long", [number]),
  ("java.lang.Float", [number]),
  ("java.lang.Double", [number]),
  ("java.util.ArrayList", [serializable]),
  ("java.util.LinkedList", [serializable]),
  ("java.util.HashMap", [serializable]),
  ("java.util.LinkedHashMap", ["java.util.HashMap"]),
  ("java.util.TreeMap", [serializable]),
  ("java.util.HashSet", [serializable]),
  ("java.util.LinkedHashSet", ["java.util.HashSet"]),
  ("java.util.TreeSet", [serializable])]

end Platform

/-! ## Names and supertypes -/

/-- The built-in types together with declared ones. -/
structure Universe where
  declared : List TypeDecl
deriving Repr

namespace Universe

/-- The universe of the built-in types alone. -/
def builtIn : Universe := ⟨[]⟩

/-- The qualified names of all known types, the built-in ones first. -/
def names (u : Universe) : List String := Platform.types.map (·.1) ++ u.declared.map (·.name)

/-- The type exists. -/
def Knows (u : Universe) (name : String) : Prop := name ∈ u.names

instance (u : Universe) (name : String) : Decidable (u.Knows name) :=
  inferInstanceAs (Decidable (name ∈ u.names))

/-- The known type with the given simple name. -/
def ofSimple? (u : Universe) (simple : String) : Option String :=
  u.names.find? fun name => QualifiedName.simple name = simple

/-- The qualified name that a name stands for in a package. -/
def qualify (u : Universe) (package name : String) : String :=
  if QualifiedName.IsDotted name ∨ IsPrimitive name then name
  else (u.ofSimple? name).getD (QualifiedName.inPackage package name)

/-- The declaration that says what the supertypes of a name are. -/
def declaration? (u : Universe) (name : String) : Option TypeDecl :=
  u.declared.reverse.find? fun d => d.name = name

/-- The qualified names of the direct supertypes; an unknown type has none. -/
def supertypes (u : Universe) (name : String) : List String :=
  match u.declaration? name with
  | some d => d.supertypes.map (u.qualify (QualifiedName.package d.name))
  | none => (Platform.types.lookup name).getD []

/-! ## Assignability -/

/-- The names other than the given one. -/
def without (names : List String) (name : String) : List String := names.filter (· ≠ name)

theorem without_cons_self (name : String) (names : List String) :
    without (name :: names) name = without names name :=
  List.filter_cons_of_neg (by simp)

theorem without_cons_of_ne {first name : String} (h : first ≠ name) (names : List String) :
    without (first :: names) name = first :: without names name :=
  List.filter_cons_of_pos (by simp [h])

theorem length_flatMap_without_le (f : String → List String) (names : List String) (name : String) :
    ((without names name).flatMap f).length ≤ (names.flatMap f).length := by
  induction names with
  | nil => exact Nat.le_refl _
  | cons first rest ih =>
    rw [List.flatMap_cons, List.length_append]
    by_cases same : first = name
    · rw [same, without_cons_self]
      exact Nat.le_add_left_of_le ih
    · rw [without_cons_of_ne same, List.flatMap_cons, List.length_append]
      exact Nat.add_le_add_left ih _

/-- Without a name of the list, what this name brings is missing. -/
theorem length_flatMap_without_add_le (f : String → List String) {names : List String} {name : String}
    (h : name ∈ names) :
    ((without names name).flatMap f).length + (f name).length ≤ (names.flatMap f).length := by
  induction names with
  | nil => exact absurd h List.not_mem_nil
  | cons first rest ih =>
    rw [List.flatMap_cons, List.length_append]
    by_cases same : first = name
    · rw [same, without_cons_self, Nat.add_comm]
      exact Nat.add_le_add_left (length_flatMap_without_le f rest name) _
    · have others := ih ((List.mem_cons.1 h).resolve_left (Ne.symm same))
      rw [without_cons_of_ne same, List.flatMap_cons, List.length_append, Nat.add_assoc]
      exact Nat.add_le_add_left others _

/-- The number of names that are still to be looked at, at most: those that are pending, and what the
unvisited ones can bring. -/
def remaining (u : Universe) (unvisited pending : List String) : Nat :=
  (unvisited.flatMap fun name => name :: u.supertypes name).length + pending.length

/-- Looks for a type among pending ones and everything above them. A known type leaves `unvisited`
when its supertypes are taken up. -/
def reaches (u : Universe) (target : String) : List String → List String → Bool
  | _, [] => false
  | unvisited, current :: pending =>
    if current = target then true
    else if current ∈ unvisited then
      reaches u target (without unvisited current) (u.supertypes current ++ pending)
    else reaches u target unvisited pending
termination_by unvisited pending => u.remaining unvisited pending
decreasing_by
  · have visited := length_flatMap_without_add_le (fun name => name :: u.supertypes name)
      ‹current ∈ unvisited›
    simp only [remaining, List.length_append, List.length_cons] at visited ⊢
    omega
  · exact Nat.lt_succ_self _

/-- A value of the first type can be used where the second is asked for. -/
def isAssignable (u : Universe) (candidate capability : String) : Bool :=
  u.reaches capability u.names [candidate]

end Universe

end ScreenNav
