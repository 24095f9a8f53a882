/-!
# Type references

A type as a declaration writes it: a name, type arguments, and pairs of square brackets for the
dimensions of an array. Arguments are type references themselves, with dimensions of their own.

**Text.** Arguments stand between angle brackets with a comma and a space between them, and each
dimension is one pair of brackets at the end. The text is what later stages work on: a name in a
reference is any text, so they read the reference anew from it (`ScreenNav.TypeName`).
-/

namespace ScreenNav

/-- The text of a type with the given base, texts of arguments, and brackets at the end. -/
def typeText (base : String) (args : List String) (dims : String) : String :=
  base ++ (if args.isEmpty then "" else "<" ++ ", ".intercalate args ++ ">") ++ dims

/-- Pairs of square brackets, one for each dimension. -/
def bracketPairs (count : Nat) : String := String.join (List.replicate count "[]")

/-- A type as a declaration writes it. -/
inductive TypeRef where
  | mk (name : String) (args : List TypeRef) (dims : Nat)
deriving Repr

namespace TypeRef

/-- The name, without arguments and dimensions. -/
def name : TypeRef → String
  | .mk name _ _ => name

/-- The type arguments, in order. -/
def args : TypeRef → List TypeRef
  | .mk _ args _ => args

/-- The number of array dimensions. -/
def dims : TypeRef → Nat
  | .mk _ _ dims => dims

mutual

/-- Type references are compared part by part. -/
def decideEq : (t u : TypeRef) → Decidable (t = u)
  | .mk name args dims, .mk name' args' dims' =>
    have := decideEqAll args args'
    have parts : (name = name' ∧ args = args' ∧ dims = dims') ↔ mk name args dims = mk name' args' dims' := by
      simp
    decidable_of_decidable_of_iff parts

/-- Lists of type references are compared one by one. -/
def decideEqAll : (ts us : List TypeRef) → Decidable (ts = us)
  | [], [] => isTrue rfl
  | [], _ :: _ => isFalse nofun
  | _ :: _, [] => isFalse nofun
  | t :: ts, u :: us =>
    have := decideEq t u
    have := decideEqAll ts us
    have parts : (t = u ∧ ts = us) ↔ t :: ts = u :: us := by
      simp
    decidable_of_decidable_of_iff parts

end

instance : DecidableEq TypeRef := decideEq

mutual

/-- The text of a type reference. -/
def text : TypeRef → String
  | .mk name args dims => typeText name (texts args) (bracketPairs dims)

/-- The texts of several type references. -/
def texts : List TypeRef → List String
  | [] => []
  | t :: ts => t.text :: texts ts

end

@[simp] theorem texts_eq_map (ts : List TypeRef) : texts ts = ts.map text := by
  induction ts with
  | nil => rfl
  | cons t ts ih => simp [texts, ih]

end TypeRef

end ScreenNav
