import ScreenNav.Proofs.Structure

/-!
# Readable types

Which types can be read back from an intent.

**Theorem (`readable_iff`).** A type without dimensions can be read back if its base is a plain value, or
is known and can be used as a bundle, as something that the platform can pack, or as something that can be
serialized. A type with one dimension can be read back if the elements are of a known type that can be used
as a bundle or packed, and is not a plain value; or if they are written as one of the value primitives or
text types, where the type arguments count. Types with more dimensions cannot be read back.

Whether there is a plan depends on the kind of the base, and for arrays on the name of the elements. So it
is enough to know of each kind which bases are of this kind. A plain value is of its kind whatever the
universe says of it, also where it is declared anew with other supertypes.
-/

namespace ScreenNav

variable {u : Universe} {base : String}

/-! ## Bases -/

/-- The primitives that have values. -/
def valuePrimitives : List String :=
  ["boolean", "byte", "short", "char", "int", "long", "float", "double"]

theorem mem_typedArrayElements_iff {text : String} :
    text ∈ typedArrayElements ↔ text ∈ valuePrimitives ∨ IsText text := by
  simp only [typedArrayElements, valuePrimitives, IsText, List.mem_cons, List.not_mem_nil, or_false,
    or_assoc]

/-- The plain values are the primitives with values, their boxes, and the text types. -/
theorem isPlainValue_iff :
    IsPlainValue base ↔ base ∈ valuePrimitives ∨ base ∈ boxes.map (·.1) ∨ IsText base := by
  constructor
  · intro plain
    obtain box | self := unboxed_cases base
    · exact .inr (.inl (List.mem_map_of_mem box))
    · rw [IsPlainValue, self, mem_typedArrayElements_iff] at plain
      exact plain.imp_right .inr
  · intro h
    rcases h with primitive | box | rfl | rfl
    · have listed : ∀ name ∈ valuePrimitives, IsPlainValue name := by decide
      exact listed base primitive
    · have listed : ∀ name ∈ boxes.map (·.1), IsPlainValue name := by decide
      exact listed base box
    · decide
    · decide

namespace Universe

/-- The type with this qualified base can be used as one that an intent can carry packed. -/
def IsPackable (u : Universe) (base : String) : Prop :=
  u.isAssignable base Platform.bundle = true ∨ u.isAssignable base Platform.parcelable = true

/-- Types with this qualified base, which have no dimensions, can be read back. -/
def IsReadable (u : Universe) (base : String) : Prop :=
  IsPlainValue base ∨
    u.Knows base ∧ (u.IsPackable base ∨ u.isAssignable base Platform.serializable = true)

/-- Arrays can be read back whose elements have this qualified base and this text. -/
def HasReadableArrays (u : Universe) (base text : String) : Prop :=
  (text ∈ valuePrimitives ∨ IsText text) ∨ ¬ IsPlainValue base ∧ u.Knows base ∧ u.IsPackable base

end Universe

/-! ## Kinds -/

theorem isPlainValue_iff_mem_plainValues :
    IsPlainValue base ↔ base ∈ BaseKind.plainValues.map (·.1) := by
  rw [isPlainValue_iff]
  simp only [IsText, valuePrimitives, boxes, BaseKind.plainValues, Platform.string,
    Platform.charSequence, List.map_cons, List.map_nil, List.mem_cons, List.not_mem_nil, or_false]
  tauto

namespace Universe

/-- The kind of a plain value does not depend on the universe. -/
theorem baseKind_mem_plainValues (u : Universe) (h : IsPlainValue base) :
    (base, u.baseKind base) ∈ BaseKind.plainValues := by
  unfold baseKind
  cases listed : BaseKind.plainValues.lookup base with
  | some kind => exact mem_of_lookup_eq_some listed
  | none => exact absurd (isPlainValue_iff_mem_plainValues.1 h) (lookup_eq_none_iff.1 listed)

/-- Any other type is of the first kind that it can be used as. -/
theorem baseKind_of_not_isPlainValue (u : Universe) (h : ¬ IsPlainValue base) : u.baseKind base =
    if ¬ u.Knows base then .unsupported
    else if u.isAssignable base Platform.bundle then .bundle
    else if u.isAssignable base Platform.parcelable then .transferable
    else if u.isAssignable base Platform.serializable then .serializable
    else .unsupported := by
  have unlisted : BaseKind.plainValues.lookup base = none :=
    lookup_eq_none_iff.2 (mt isPlainValue_iff_mem_plainValues.2 h)
  rw [baseKind, unlisted]

theorem baseKind_ne_unsupported_iff : u.baseKind base ≠ .unsupported ↔ u.IsReadable base := by
  by_cases plain : IsPlainValue base
  · have supported : ∀ entry ∈ BaseKind.plainValues, entry.2 ≠ .unsupported := by decide
    exact iff_of_true (supported _ (u.baseKind_mem_plainValues plain)) (.inl plain)
  · rw [u.baseKind_of_not_isPlainValue plain, IsReadable, IsPackable]
    split_ifs <;> simp_all

theorem baseKind_packed_iff : u.baseKind base = .bundle ∨ u.baseKind base = .transferable ↔
    ¬ IsPlainValue base ∧ u.Knows base ∧ u.IsPackable base := by
  by_cases plain : IsPlainValue base
  · have unpacked : ∀ entry ∈ BaseKind.plainValues, ¬ (entry.2 = .bundle ∨ entry.2 = .transferable) := by
      decide
    exact iff_of_false (unpacked _ (u.baseKind_mem_plainValues plain)) fun h => h.1 plain
  · rw [u.baseKind_of_not_isPlainValue plain, IsPackable]
    split_ifs <;> simp_all

end Universe

/-! ## Plans -/

theorem Descriptor.exists_plan?_iff {d : Descriptor} :
    (∃ plan, d.plan? = some plan) ↔ d.category ≠ .unsupported := by
  unfold Descriptor.plan?
  cases d.category <;> simp [Category.plan?]

namespace BaseKind

variable (kind : BaseKind) (name : String)

theorem category_descriptor_eq_unsupported_iff :
    (kind.descriptor name).category = .unsupported ↔ kind = .unsupported := by
  cases kind with
  | numeric primitive width floating boxed =>
    simp only [descriptor, Descriptor.category]
    split_ifs <;> simp
  | _ => simp [descriptor, Descriptor.category]

theorem isTransferable_descriptor_iff :
    (kind.descriptor name).isTransferable = true ↔ kind = .bundle ∨ kind = .transferable := by
  cases kind <;> simp [descriptor, Descriptor.isTransferable]

theorem exists_plan?_descriptor_iff :
    (∃ plan, (kind.descriptor name).plan? = some plan) ↔ kind ≠ .unsupported := by
  rw [Descriptor.exists_plan?_iff, Ne, category_descriptor_eq_unsupported_iff]

/-- An array is read back by the kind of its elements, or by what they are called. -/
theorem exists_plan?_array_iff : (∃ plan, (Descriptor.array (kind.descriptor name)).plan? = some plan) ↔
    name ∈ typedArrayElements ∨ kind = .bundle ∨ kind = .transferable := by
  rw [Descriptor.exists_plan?_iff, Descriptor.array_category, name_descriptor,
    ← isTransferable_descriptor_iff kind name]
  split_ifs <;> simp_all

end BaseKind

/-- **The types that can be read back.** Everything is said of the qualified base, but for arrays of
plain values, whose elements have to be without type arguments. -/
theorem readable_iff (u : Universe) (package : String) {t : TypeRef} (wf : t.IsWellNamed) :
    ∃ d, u.describe package t.text = .ok d ∧
      ((∃ plan, d.plan? = some plan) ↔
        t.dims = 0 ∧ u.IsReadable (u.qualify package t.name) ∨
        t.dims = 1 ∧ u.HasReadableArrays (u.qualify package t.name)
          (t.rename (u.qualify package)).innermost.text) ∧
      (2 ≤ t.dims → d.plan? = none) := by
  refine ⟨_, u.describe_text package wf, ?_⟩
  rw [u.ofErased_eq_descriptor]
  match t.dims with
  | 0 =>
    rw [Descriptor.arrays, BaseKind.exists_plan?_descriptor_iff, Universe.baseKind_ne_unsupported_iff]
    simp
  | 1 =>
    rw [Descriptor.arrays, Descriptor.arrays, BaseKind.exists_plan?_array_iff,
      Universe.baseKind_packed_iff, mem_typedArrayElements_iff, Universe.HasReadableArrays]
    simp
  | count + 2 =>
    rw [Descriptor.plan?_arrays_add_two]
    simp

/-- A type of the platform that is declared anew. Its arrays can be read back, with type arguments too,
because the declaration says that it is a bundle. -/
theorem readable_iff_redeclared :
    let u : Universe := ⟨[⟨"java.util.ArrayList", ["Bundle"], []⟩]⟩
    let t : TypeRef := .mk "ArrayList" [.mk "String" [] 0] 1
    t.IsWellNamed ∧
      (∃ d, u.describe "app" t.text = .ok d ∧
        ((∃ plan, d.plan? = some plan) ↔
          t.dims = 0 ∧ u.IsReadable (u.qualify "app" t.name) ∨
          t.dims = 1 ∧ u.HasReadableArrays (u.qualify "app" t.name)
            (t.rename (u.qualify "app")).innermost.text) ∧
        (2 ≤ t.dims → d.plan? = none)) ∧
      u.HasReadableArrays (u.qualify "app" t.name)
        (t.rename (u.qualify "app")).innermost.text := by
  intro u t
  have wf : t.IsWellNamed := by decide +kernel
  have base : u.qualify "app" t.name = "java.util.ArrayList" := by decide +kernel
  have packable : u.IsPackable "java.util.ArrayList" := .inl (by decide +kernel)
  refine ⟨wf, readable_iff u "app" wf, .inr ?_⟩
  rw [base]
  exact ⟨by decide, by decide, packable⟩

end ScreenNav
