import ScreenNav.Descriptor
import ScreenNav.Text.Capital

/-!
# Reading a value back

How a value that travelled in an intent is taken out again: which of the intent's accessors reads
it, what the accessor is given for the case that the value is missing, and whether what it returns
has to be cast.

**Categories** sort descriptors by the way they are read. The whole numbers of 32 bits and the
narrower ones each have a category of their own, and so have arrays of values that the platform can
pack, which come back as an array of a more general type.

**Plans.** An accessor's name is `get…Extra` around a suffix, which is fixed by the category or made
from the name of the type. Primitives have a default; everything else comes back as null.
-/

namespace ScreenNav

/-- The ways of reading a value back. -/
inductive Category where
  | wideNumeric
  | narrowInteger
  | char
  | int
  | boolean
  | transferableArray
  | array
  | stringLike
  | transferable
  | serializable
  | unsupported
deriving DecidableEq, Repr

namespace Category

/-- All categories. -/
def all : List Category := [.wideNumeric, .narrowInteger, .char, .int, .boolean, .transferableArray,
  .array, .stringLike, .transferable, .serializable, .unsupported]

/-- The name of a category. -/
def name : Category → String
  | .wideNumeric => "wide_numeric"
  | .narrowInteger => "narrow_integer"
  | .char => "char"
  | .int => "int"
  | .boolean => "boolean"
  | .transferableArray => "transferable_array"
  | .array => "array"
  | .stringLike => "string_like"
  | .transferable => "transferable"
  | .serializable => "serializable"
  | .unsupported => "unsupported"

/-- The category with the given name. -/
def ofName? (name : String) : Option Category := all.find? (·.name = name)

/-- Every category is found by its name. -/
theorem ofName?_name (c : Category) : ofName? c.name = some c := by cases c <;> decide

end Category

/-! ## Classification -/

/-- The element types whose arrays have an accessor of their own. -/
def typedArrayElements : List String := [
  "boolean", "byte", "short", "char", "int", "long", "float", "double",
  Platform.string, Platform.charSequence]

namespace Descriptor

/-- A value that the platform can pack, one of the bundles included. -/
def isTransferable : Descriptor → Bool
  | .transferable _ => true
  | .stringLike _ _ packed => packed
  | _ => false

/-- The way in which values of the type are read back. -/
def category : Descriptor → Category
  | .numeric _ primitive .. =>
    if primitive = "int" then .int
    else if primitive = "byte" ∨ primitive = "short" then .narrowInteger
    else .wideNumeric
  | .char .. => .char
  | .boolean .. => .boolean
  | .arrayOf _ element =>
    if element.isTransferable then .transferableArray
    else if element.name ∈ typedArrayElements then .array
    else .unsupported
  | .stringLike .. => .stringLike
  | .transferable _ => .transferable
  | .serializable _ => .serializable
  | .unsupported _ | .plain _ => .unsupported

end Descriptor

/-! ## Plans -/

/-- How one value is read back. -/
structure AccessorPlan where
  /-- What the accessor returns for a missing value, if it has to be told. -/
  fallback : Option String
  /-- The part of the accessor's name that tells the type. -/
  suffix : String
  /-- What the accessor returns has to be cast to the declared type. -/
  needsCast : Bool
deriving DecidableEq, Repr

/-- The name of the accessor. -/
def AccessorPlan.method (plan : AccessorPlan) : String := "get" ++ plan.suffix ++ "Extra"

/-- The name of a type without its last two characters, which are the brackets of an array. -/
def elementName (name : String) : String :=
  String.ofList (name.toList.take (name.toList.length - 2))

/-- The plan for a type of the given category; there is none for an unsupported one. -/
def Category.plan? (category : Category) (type : Descriptor) : Option AccessorPlan :=
  let primitive := unboxed type.name
  match category with
  | .wideNumeric => some ⟨some "-1", Text.capitalize primitive, false⟩
  | .narrowInteger => some ⟨some ("(" ++ primitive ++ ") -1"), Text.capitalize primitive, false⟩
  | .char => some ⟨some "'m'", "Char", false⟩
  | .int => some ⟨some "-1", "Int", false⟩
  | .boolean => some ⟨some "false", "Boolean", false⟩
  | .transferableArray => some ⟨none, "ParcelableArray", true⟩
  | .array =>
    let element := QualifiedName.simple (elementName type.name)
    some ⟨none, Text.capitalize element ++ "Array", false⟩
  | .stringLike =>
    let base := match type with
      | .stringLike _ base _ => base
      | _ => type.name
    some ⟨none, QualifiedName.simple base, decide (type.name ≠ base)⟩
  | .transferable => some ⟨none, "Parcelable", false⟩
  | .serializable => some ⟨none, "Serializable", true⟩
  | .unsupported => none

/-- The plan for a type, if its values can be read back. -/
def Descriptor.plan? (type : Descriptor) : Option AccessorPlan := type.category.plan? type

end ScreenNav
