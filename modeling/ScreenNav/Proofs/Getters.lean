import Mathlib.Data.List.Nodup
import ScreenNav.Proofs.Descriptions

/-!
# The getters of an intent

A plan names the method that takes a value out of an intent. This module lists the methods that
there are, with the types they return, and shows that every plan fits exactly one of them
(`accessor_reads`): the method is in the list; a default is given to the methods that want one; what
the method returns is a value of the declared type, as it is or when it is unboxed or boxed; and where
it has to be cast, the declared type can be what is returned.

A bundle, a value that can be packed and one that can be serialized are told apart by what the base
is assignable to; every other method is found by the name of the type.
-/

namespace ScreenNav

/-- A method that takes one value out of an intent. -/
structure Getter where
  method : String
  /-- The type that is returned. -/
  returns : String
deriving DecidableEq

namespace Getter

/-- The getters of primitives. They are told what to return for a missing value. -/
def ofValues : List Getter := [
  ⟨"getByteExtra", "byte"⟩, ⟨"getShortExtra", "short"⟩, ⟨"getIntExtra", "int"⟩,
  ⟨"getLongExtra", "long"⟩, ⟨"getFloatExtra", "float"⟩, ⟨"getDoubleExtra", "double"⟩,
  ⟨"getCharExtra", "char"⟩, ⟨"getBooleanExtra", "boolean"⟩]

/-- The getters of text. -/
def ofTexts : List Getter := [
  ⟨"getStringExtra", Platform.string⟩, ⟨"getCharSequenceExtra", Platform.charSequence⟩]

/-- The getters of arrays by the type of the elements. -/
def ofArrays : List Getter := [
  ⟨"getByteArrayExtra", "byte[]"⟩, ⟨"getShortArrayExtra", "short[]"⟩,
  ⟨"getIntArrayExtra", "int[]"⟩, ⟨"getLongArrayExtra", "long[]"⟩,
  ⟨"getFloatArrayExtra", "float[]"⟩, ⟨"getDoubleArrayExtra", "double[]"⟩,
  ⟨"getCharArrayExtra", "char[]"⟩, ⟨"getBooleanArrayExtra", "boolean[]"⟩,
  ⟨"getStringArrayExtra", "java.lang.String[]"⟩,
  ⟨"getCharSequenceArrayExtra", "java.lang.CharSequence[]"⟩]

def bundle : Getter := ⟨"getBundleExtra", Platform.bundle⟩

/-- What this getter returns is taken for any type of which all values can be packed. -/
def parcelable : Getter := ⟨"getParcelableExtra", Platform.parcelable⟩

def serializable : Getter := ⟨"getSerializableExtra", Platform.serializable⟩

def parcelableArray : Getter := ⟨"getParcelableArrayExtra", "android.os.Parcelable[]"⟩

/-- All getters. -/
def all : List Getter :=
  ofValues ++ ofTexts ++ ofArrays ++ [bundle, parcelable, serializable, parcelableArray]

/-- A getter is known by its method. -/
theorem eq_of_method_eq {g g' : Getter} (h : g ∈ all) (h' : g' ∈ all) (same : g.method = g'.method) :
    g = g' := by
  have distinct : (all.map method).Nodup := by decide +kernel
  exact List.inj_on_of_nodup_map distinct h h' same

/-- Values of the type with the given qualified base, dimensions and text can be cast from what the
getter returns. -/
inductive CastsTo (u : Universe) (base : String) : Nat → Getter → Prop
  | bundle : u.isAssignable base Platform.bundle = true → CastsTo u base 0 bundle
  | serializable : u.isAssignable base Platform.serializable = true → CastsTo u base 0 serializable
  | array : u.isAssignable base Platform.bundle = true ∨
      u.isAssignable base Platform.parcelable = true → CastsTo u base 1 parcelableArray

/-- What the getter returns is a value of the type without a cast. -/
inductive Yields (u : Universe) (base : String) : Nat → String → Getter → Prop
  | same {dims : Nat} {name : String} {g : Getter} : name = g.returns → Yields u base dims name g
  | box {name : String} {g : Getter} : boxes.lookup name = some g.returns → Yields u base 0 name g
  | parcelable {name : String} : u.isAssignable base Platform.parcelable = true →
      Yields u base 0 name parcelable

/-- The plan uses the getter as it is meant to be used. -/
structure Reads (u : Universe) (base : String) (dims : Nat) (name : String) (plan : AccessorPlan)
    (g : Getter) : Prop where
  listed : g ∈ all
  method : plan.method = g.method
  fallback : plan.fallback.isSome = true ↔ g ∈ ofValues
  direct : plan.needsCast = false → Yields u base dims name g
  cast : plan.needsCast = true → CastsTo u base dims g

variable {u : Universe} {base name : String} {plan : AccessorPlan}

theorem Reads.unique {dims : Nat} {g g' : Getter} (h : g.Reads u base dims name plan)
    (h' : g'.Reads u base dims name plan) : g = g' :=
  eq_of_method_eq h.listed h'.listed (h.method.symm.trans h'.method)

/-! ## Values -/

/-- A primitive or a box is read by the getter of the primitive. -/
theorem reads_value {fallback suffix : String} {g : Getter} (listed : g ∈ ofValues)
    (returns : unboxed base = g.returns) (method : "get" ++ suffix ++ "Extra" = g.method) :
    g.Reads u base 0 base ⟨some fallback, suffix, false⟩ := by
  refine ⟨by simp [all, listed], method, iff_of_true rfl listed, fun _ => ?_, fun cast => nomatch cast⟩
  unfold unboxed at returns
  cases box : boxes.lookup base with
  | none =>
    rw [box] at returns
    obtain rfl : base = g.returns := returns
    exact .same rfl
  | some primitive =>
    rw [box] at returns
    exact .box (box.trans (congrArg some returns))

theorem reads_numeric {entry : Int × Bool} {signed boxed : Bool}
    (number : numericPrimitives.lookup (unboxed base) = some entry)
    (h : (Descriptor.numeric base (unboxed base) entry.1 signed entry.2 boxed).plan? = some plan) :
    ∃ g : Getter, g.Reads u base 0 base plan := by
  have getters : ∀ primitive ∈ numericPrimitives.map (·.1), ∃ g ∈ ofValues, g.returns = primitive ∧
      g.method = "get" ++ Text.capitalize primitive ++ "Extra" := by decide +kernel
  obtain ⟨g, hg, returns, method⟩ := getters _ (isPrimitive_of_lookup number)
  have planned : ∃ fallback, plan = ⟨some fallback, Text.capitalize (unboxed base), false⟩ := by
    simp only [Descriptor.plan?, Descriptor.category] at h
    split_ifs at h with int narrow
    · have capital : Text.capitalize "int" = "Int" := by decide +kernel
      exact ⟨_, int ▸ capital ▸ (Option.some.inj h).symm⟩
    · exact ⟨_, (Option.some.inj h).symm⟩
    · exact ⟨_, (Option.some.inj h).symm⟩
  obtain ⟨fallback, rfl⟩ := planned
  exact ⟨g, reads_value hg returns.symm method.symm⟩

theorem reads_text (text : IsText base)
    (h : (Descriptor.stringLike base base false).plan? = some plan) :
    ∃ g : Getter, g.Reads u base 0 base plan := by
  obtain rfl : ⟨none, QualifiedName.simple base, decide (base ≠ base)⟩ = plan := Option.some.inj h
  have uncast : decide (base ≠ base) = false := by simp
  rw [uncast]
  rcases text with rfl | rfl
  · exact ⟨⟨"getStringExtra", Platform.string⟩, by decide, by decide +kernel, by decide,
      fun _ => .same rfl, fun cast => nomatch cast⟩
  · exact ⟨⟨"getCharSequenceExtra", Platform.charSequence⟩, by decide, by decide +kernel, by decide,
      fun _ => .same rfl, fun cast => nomatch cast⟩

/-! ## Types without dimensions -/

theorem reads_bundle (assignable : u.isAssignable base Platform.bundle = true)
    (h : (Descriptor.stringLike name Platform.bundle true).plan? = some plan) :
    ∃ g : Getter, g.Reads u base 0 name plan := by
  obtain rfl : ⟨none, QualifiedName.simple Platform.bundle, decide (name ≠ Platform.bundle)⟩ = plan :=
    Option.some.inj h
  have method : "get" ++ QualifiedName.simple Platform.bundle ++ "Extra" = bundle.method := by
    decide +kernel
  have unlisted : bundle ∉ ofValues := by decide
  exact ⟨bundle, by decide, method, iff_of_false (by simp) unlisted,
    fun direct => .same (not_not.1 (of_decide_eq_false direct)), fun _ => .bundle assignable⟩

/-- A type without dimensions is read by a getter, if its text is the base or the base is not a plain
value. -/
theorem reads_scalar {kind : String → Descriptor} (k : Kind u base kind)
    (named : name = base ∨ ¬ IsPlainValue base) (h : (kind name).plan? = some plan) :
    ∃ g : Getter, g.Reads u base 0 name plan := by
  have named_of_plain : IsPlainValue base → name = base := fun plain => named.resolve_right (· plain)
  cases k with
  | numeric number =>
    have plain : ∀ primitive ∈ numericPrimitives.map (·.1), primitive ∈ typedArrayElements := by decide
    obtain rfl := named_of_plain (plain _ (isPrimitive_of_lookup number))
    exact reads_numeric number h
  | char value =>
    obtain rfl := named_of_plain (by rw [IsPlainValue, value]; decide)
    obtain rfl := Option.some.inj h
    exact ⟨⟨"getCharExtra", "char"⟩, reads_value (by decide) value (by decide +kernel)⟩
  | boolean value =>
    obtain rfl := named_of_plain (by rw [IsPlainValue, value]; decide)
    obtain rfl := Option.some.inj h
    exact ⟨⟨"getBooleanExtra", "boolean"⟩, reads_value (by decide) value (by decide +kernel)⟩
  | text text =>
    obtain rfl := named_of_plain (by rcases text with rfl | rfl <;> decide)
    exact reads_text text h
  | bundle _ assignable => exact reads_bundle assignable h
  | transferable _ assignable =>
    obtain rfl := Option.some.inj h
    exact ⟨parcelable, by decide, by decide +kernel, by decide, fun _ => .parcelable assignable,
      fun cast => nomatch cast⟩
  | serializable _ assignable =>
    obtain rfl := Option.some.inj h
    exact ⟨serializable, by decide, by decide +kernel, by decide, fun direct => (nomatch direct),
      fun _ => .serializable assignable⟩
  | unsupported => exact nomatch h

/-! ## Arrays -/

theorem assignable_of_isTransferable {kind : String → Descriptor} (k : Kind u base kind)
    (h : (kind name).isTransferable = true) :
    u.isAssignable base Platform.bundle = true ∨ u.isAssignable base Platform.parcelable = true := by
  cases k with
  | bundle _ assignable => exact .inl assignable
  | transferable _ assignable => exact .inr assignable
  | _ => exact nomatch h

/-- An array with one dimension is read by a getter. -/
theorem reads_array {kind : String → Descriptor} (k : Kind u base kind)
    (h : (Descriptor.array (kind name)).plan? = some plan) :
    ∃ g : Getter, g.Reads u base 1 (name ++ "[]") plan := by
  rw [Descriptor.plan?, Descriptor.array_category, k.name] at h
  by_cases packed : (kind name).isTransferable = true
  · rw [if_pos packed] at h
    obtain rfl := Option.some.inj h
    exact ⟨parcelableArray, by decide, by decide +kernel, by decide, fun direct => absurd direct (by decide),
      fun _ => .array (assignable_of_isTransferable k packed)⟩
  rw [if_neg packed] at h
  by_cases typed : name ∈ typedArrayElements
  · rw [if_pos typed] at h
    have getters : ∀ element ∈ typedArrayElements, ∃ g ∈ ofArrays, g.returns = element ++ "[]" ∧
        g.method = "get" ++ (Text.capitalize (QualifiedName.simple (elementName (element ++ "[]")))
          ++ "Array") ++ "Extra" := by decide +kernel
    have unvalued : ∀ g ∈ ofArrays, g ∈ all ∧ g ∉ ofValues := by decide
    obtain ⟨g, hg, returns, method⟩ := getters name typed
    obtain ⟨listed, other⟩ := unvalued g hg
    have planned : plan = ⟨none, Text.capitalize (QualifiedName.simple (elementName (name ++ "[]")))
        ++ "Array", false⟩ := by
      rw [← k.name name]
      exact (Option.some.inj h).symm
    subst planned
    exact ⟨g, listed, method.symm, iff_of_false (by simp) other, fun _ => .same returns.symm,
      fun cast => absurd cast Bool.false_ne_true⟩
  · rw [if_neg typed] at h
    cases h

/-! ## All types -/

/-- **Every plan is the use of a getter.** If type arguments stand only behind names that are not
plain values, whatever can be read back is read by a method of the intent, and this method yields a
value of the declared type, or one from which it can be cast. -/
theorem accessor_reads (u : Universe) (package : String) {t : TypeRef} (wf : t.IsWellNamed)
    (plain : t.args = [] ∨ ¬ IsPlainValue (u.qualify package t.name)) :
    ∃ d, u.describe package t.text = .ok d ∧ d.name = (t.rename (u.qualify package)).text ∧
      ∀ plan, d.plan? = some plan →
        ∃! g : Getter, g.Reads u (u.qualify package t.name) t.dims d.name plan := by
  have k := kind_ofErased u (u.qualify package t.name)
  have dims : (t.rename (u.qualify package)).dims = t.dims := by cases t; rfl
  have name := Descriptor.name_arrays t.dims (.ofErased u (u.qualify package t.name)
    (t.rename (u.qualify package)).innermost.text)
  rw [k.name] at name
  refine ⟨_, u.describe_text package wf, ?_, fun plan h => ?_⟩
  · rw [name, ← dims, ← TypeRef.text_eq_innermost]
  rw [name]
  refine existsUnique_of_exists_of_unique ?_ fun _ _ => Reads.unique
  match count : t.dims with
  | 0 =>
    rw [count] at h
    have named : (t.rename (u.qualify package)).innermost.text = u.qualify package t.name ∨
        ¬ IsPlainValue (u.qualify package t.name) := by
      obtain ⟨-, same⟩ | ⟨args, -⟩ := t.innermost_rename_cases (u.qualify package)
      · exact .inl same
      · exact .inr (plain.resolve_left args)
    have none : bracketPairs 0 = "" := rfl
    rw [none, String.append_empty]
    exact reads_scalar k named h
  | 1 =>
    rw [count] at h
    exact reads_array k h
  | deep + 2 =>
    rw [count, Descriptor.plan?_arrays_add_two] at h
    exact nomatch h

/-- An array of a declared type that can be packed, with an argument, is read as an array of packed
values and cast. -/
theorem accessor_reads_users :
    let u : Universe := ⟨[⟨"a.User", [], ["Parcelable"]⟩]⟩
    let users : TypeRef := .mk "User" [.mk "String" [] 0] 1
    let plan : AccessorPlan := ⟨none, "ParcelableArray", true⟩
    users.IsWellNamed ∧ ¬ IsPlainValue (u.qualify "a" users.name) ∧
      ∃ d, u.describe "a" users.text = .ok d ∧ d.name = "a.User<java.lang.String>[]" ∧
        d.plan? = some plan ∧ ∃ g : Getter, g.Reads u "a.User" 1 d.name plan := by
  intro u users plan
  have wf : users.IsWellNamed := .mk (by decide) (List.forall_mem_singleton.2 (.ofName (by decide)))
  have base : u.qualify "a" users.name = "a.User" := by decide +kernel
  have other : ¬ IsPlainValue (u.qualify "a" users.name) := by decide +kernel
  obtain ⟨d, described, -, plans⟩ := accessor_reads u "a" wf (.inr other)
  rw [base] at plans
  have array : u.describe "a" users.text =
      .ok (.array (.transferable "a.User<java.lang.String>")) := by decide +kernel
  obtain rfl := Except.ok.inj (described.symm.trans array)
  exact ⟨wf, other, _, described, by decide +kernel, by decide +kernel,
    (plans plan (by decide +kernel)).exists⟩

end Getter

end ScreenNav
