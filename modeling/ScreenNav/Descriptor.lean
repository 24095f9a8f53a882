import ScreenNav.TypeName
import ScreenNav.Universe

/-!
# Type descriptors

What a type is to an intent: the information about a declared type that decides how its values
travel.

**Describing.** The pairs of square brackets at the end of a type name are array dimensions, each a
layer around the element below it. What is under the layers is decided by the qualified base alone:
a primitive or the box of one, text, a bundle, a type that the platform can pack, one that can be
serialized, or none of these, in this order. Type arguments play no part in the decision; they are
kept, qualified, in the descriptor's name.

**Names.** Every layer has a name, the qualified text of the type up to that layer.
-/

namespace ScreenNav

/-- What is known of a type. Every descriptor has the qualified name of its type. -/
inductive Descriptor where
  /-- A number. -/
  | numeric (name primitive : String) (width : Int) (signed floating boxed : Bool)
  | char (name : String) (boxed : Bool)
  | boolean (name : String) (boxed : Bool)
  | arrayOf (name : String) (element : Descriptor)
  /-- A value with an accessor of its own, named after the type `base`. -/
  | stringLike (name base : String) (transferable : Bool)
  /-- A value that the platform can pack. -/
  | transferable (name : String)
  /-- A value that can be serialized, but not packed. -/
  | serializable (name : String)
  /-- A value that cannot travel in an intent. -/
  | unsupported (name : String)
  /-- A type of which only the name is known. -/
  | plain (name : String)
deriving DecidableEq, Repr

/-- The qualified name of the type. -/
def Descriptor.name : Descriptor → String
  | .numeric name .. | .char name _ | .boolean name _ | .arrayOf name _ | .stringLike name ..
  | .transferable name | .serializable name | .unsupported name | .plain name => name

/-! ## Primitives and boxes -/

/-- The numeric primitives, with their width in bits and whether they have a fraction. -/
def numericPrimitives : List (String × Int × Bool) := [
  ("byte", 8, false),
  ("short", 16, false),
  ("int", 32, false),
  ("long", 64, false),
  ("float", 32, true),
  ("double", 64, true)]

/-- The classes that hold one value of a primitive type, with that type. -/
def boxes : List (String × String) := [
  ("java.lang.Byte", "byte"),
  ("java.lang.Short", "short"),
  ("java.lang.Integer", "int"),
  ("java.lang.Long", "long"),
  ("java.lang.Float", "float"),
  ("java.lang.Double", "double"),
  ("java.lang.Character", "char"),
  ("java.lang.Boolean", "boolean")]

/-- The primitive that a box holds; any other type stands for itself. -/
def unboxed (name : String) : String := (boxes.lookup name).getD name

/-! ## Describing -/

namespace Descriptor

/-- The descriptor of a type without dimensions. The qualified base `erased` decides, and `name` is
only recorded. -/
def ofErased (u : Universe) (erased name : String) : Descriptor :=
  let primitive := unboxed erased
  let boxed := (boxes.lookup erased).isSome
  match numericPrimitives.lookup primitive with
  | some (width, floating) => .numeric name primitive width true floating boxed
  | none =>
    if primitive = "char" then .char name boxed
    else if primitive = "boolean" then .boolean name boxed
    else if ¬ u.Knows erased then .unsupported name
    else if erased = Platform.string ∨ erased = Platform.charSequence then
      .stringLike name name false
    else if u.isAssignable erased Platform.bundle then .stringLike name Platform.bundle true
    else if u.isAssignable erased Platform.parcelable then .transferable name
    else if u.isAssignable erased Platform.serializable then .serializable name
    else .unsupported name

/-- An array of the given elements. -/
def array (element : Descriptor) : Descriptor := .arrayOf (element.name ++ "[]") element

/-- An array of the given elements with several dimensions. -/
def arrays : Nat → Descriptor → Descriptor
  | 0, element => element
  | count + 1, element => array (arrays count element)

/-- The number of bracket pairs at the end of reversed text, and the reversed text before them. -/
def peelReversed : List Char → Nat × List Char
  | ']' :: '[' :: rest => ((peelReversed rest).1 + 1, (peelReversed rest).2)
  | text => (0, text)

/-- The number of bracket pairs at the end of a text, and the text before them. -/
def peel (dims : String) : Nat × String :=
  let (count, rest) := peelReversed dims.toList.reverse
  (count, String.ofList rest.reverse)

end Descriptor

namespace Universe

/-- The text of a type with every name in it qualified. -/
def qualifyType (u : Universe) (package text : String) : Except TypeNameError String :=
  (TypeName.ofText text).render (u.qualify package)

/-- What is known of the type with the given text, used in the given package. -/
def describe (u : Universe) (package text : String) : Except TypeNameError Descriptor :=
  match TypeName.ofText text with
  | .malformed _ => .error .unopenedArguments
  | .node base args dims => do
    let (count, rest) := Descriptor.peel dims
    let name ← (TypeName.node base args rest).render (u.qualify package)
    return .arrays count (.ofErased u (u.qualify package base) name)

end Universe

end ScreenNav
