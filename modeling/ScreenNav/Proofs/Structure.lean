import ScreenNav.Proofs.Descriptions

/-!
# Describing a type by its structure

A type is described by the text that it has. This module describes the type reference itself, by recursion
on its structure, without putting a text together and cutting it again.

**Kinds** (`BaseKind`). What is under all dimensions is of a kind that the qualified base alone decides:
plain values are listed one by one, and every other type is of the kind of the first thing that it is
assignable to. A kind has no place for a name or for type arguments.

**Layers** (`TypeRef.layers`). Each dimension is a layer around the one below, and each layer is called by
the text of the type up to there.

**Theorem (`describe_eq_descriptor`).** Both descriptions are the same, and the name of a descriptor is the
qualified text of its type.
-/

namespace ScreenNav

/-! ## Kinds -/

/-- What the qualified base of a type says about the type. -/
inductive BaseKind where
  | numeric (primitive : String) (width : Int) (floating boxed : Bool)
  | char (boxed : Bool)
  | boolean (boxed : Bool)
  /-- `String` or `CharSequence`. -/
  | text
  | bundle
  | transferable
  | serializable
  | unsupported
deriving DecidableEq, Repr

namespace BaseKind

/-- The descriptor of the type of this kind with the given text. -/
def descriptor : BaseKind → String → Descriptor
  | .numeric primitive width floating boxed, name =>
    .numeric name primitive width true floating boxed
  | .char boxed, name => .char name boxed
  | .boolean boxed, name => .boolean name boxed
  | .text, name => .stringLike name name false
  | .bundle, name => .stringLike name Platform.bundle true
  | .transferable, name => .transferable name
  | .serializable, name => .serializable name
  | .unsupported, name => .unsupported name

/-- The plain values, which are of the same kind in every universe. -/
def plainValues : List (String × BaseKind) := [
  ("byte", .numeric "byte" 8 false false), ("java.lang.Byte", .numeric "byte" 8 false true),
  ("short", .numeric "short" 16 false false), ("java.lang.Short", .numeric "short" 16 false true),
  ("int", .numeric "int" 32 false false), ("java.lang.Integer", .numeric "int" 32 false true),
  ("long", .numeric "long" 64 false false), ("java.lang.Long", .numeric "long" 64 false true),
  ("float", .numeric "float" 32 true false), ("java.lang.Float", .numeric "float" 32 true true),
  ("double", .numeric "double" 64 true false), ("java.lang.Double", .numeric "double" 64 true true),
  ("char", .char false), ("java.lang.Character", .char true),
  ("boolean", .boolean false), ("java.lang.Boolean", .boolean true),
  ("java.lang.String", .text), ("java.lang.CharSequence", .text)]

@[simp] theorem name_descriptor (kind : BaseKind) (name : String) :
    (kind.descriptor name).name = name := by
  cases kind <;> rfl

end BaseKind

namespace Universe

variable (u : Universe) (base : String)

/-- The kind of all types with the given qualified base. -/
def baseKind : BaseKind :=
  match BaseKind.plainValues.lookup base with
  | some kind => kind
  | none =>
    if ¬ u.Knows base then .unsupported
    else if u.isAssignable base Platform.bundle then .bundle
    else if u.isAssignable base Platform.parcelable then .transferable
    else if u.isAssignable base Platform.serializable then .serializable
    else .unsupported

/-- A plain value is described without a look at the universe. -/
theorem ofErased_plainValue {kind : BaseKind} (h : (base, kind) ∈ BaseKind.plainValues)
    (name : String) : Descriptor.ofErased u base name = kind.descriptor name := by
  simp only [BaseKind.plainValues, List.mem_cons, List.not_mem_nil, or_false, Prod.mk.injEq] at h
  rcases h with h | h | h | h | h | h | h | h | h | h | h | h | h | h | h | h | h | h
  all_goals
    obtain ⟨rfl, rfl⟩ := h
    rfl

/-- The kind of the base is all that its descriptor depends on. -/
theorem ofErased_eq_descriptor (name : String) :
    Descriptor.ofErased u base name = (u.baseKind base).descriptor name := by
  unfold baseKind
  cases listed : BaseKind.plainValues.lookup base with
  | some kind => exact u.ofErased_plainValue base (mem_of_lookup_eq_some listed) name
  | none =>
    have other (names : List String) (h : names ⊆ BaseKind.plainValues.map (·.1)) : base ∉ names :=
      fun hbase => lookup_eq_none_iff.1 listed (h hbase)
    have unboxed_eq : boxes.lookup base = none := lookup_eq_none_iff.2 (other _ (by decide))
    have number : numericPrimitives.lookup base = none :=
      lookup_eq_none_iff.2 (other _ (by decide))
    have char : base ≠ "char" := by simpa using other ["char"] (by decide)
    have boolean : base ≠ "boolean" := by simpa using other ["boolean"] (by decide)
    have text : ¬ (base = Platform.string ∨ base = Platform.charSequence) := by
      simpa using other [Platform.string, Platform.charSequence] (by decide)
    simp only [Descriptor.ofErased, unboxed, unboxed_eq, Option.getD_none, number, if_neg char,
      if_neg boolean, if_neg text]
    simp only [apply_ite (BaseKind.descriptor · name)]
    rfl

end Universe

/-! ## Layers -/

namespace TypeRef

/-- The kind of a type's base, with a layer for each dimension around it. A layer is called by the text
of the type that it makes. -/
def layers (kind : BaseKind) (name : String) (args : List TypeRef) : Nat → Descriptor
  | 0 => kind.descriptor (mk name args 0).text
  | dims + 1 => .arrayOf (mk name args (dims + 1)).text (layers kind name args dims)

/-- What is known of a type used in a package, where all names in it are qualified. -/
def descriptor (u : Universe) (package : String) (t : TypeRef) : Descriptor :=
  let qualified := t.rename (u.qualify package)
  layers (u.baseKind qualified.name) qualified.name qualified.args qualified.dims

theorem name_layers (kind : BaseKind) (name : String) (args : List TypeRef) (dims : Nat) :
    (layers kind name args dims).name = (mk name args dims).text := by
  cases dims with
  | zero => exact kind.name_descriptor _
  | succ dims => rfl

/-- The name of a descriptor is the text of its type with all names qualified. -/
theorem name_descriptor (u : Universe) (package : String) (t : TypeRef) :
    (t.descriptor u package).name = (t.rename (u.qualify package)).text := by
  obtain ⟨name, args, dims⟩ := t
  exact name_layers _ _ _ _

/-- Layers that are named after the layer below have the text of their type as name. -/
theorem arrays_eq_layers (kind : BaseKind) (name : String) (args : List TypeRef) (dims : Nat) :
    Descriptor.arrays dims (kind.descriptor (mk name args 0).text) = layers kind name args dims := by
  induction dims with
  | zero => rfl
  | succ dims ih =>
    rw [Descriptor.arrays, ih, Descriptor.array, name_layers, ← text_succ]
    rfl

end TypeRef

/-! ## Both descriptions -/

theorem Universe.describe_eq_descriptor_of_isLegible (u : Universe) (package : String) {t : TypeRef}
    (h : t.IsLegible) : u.describe package t.text = .ok (t.descriptor u package) := by
  obtain ⟨name, args, dims⟩ := t
  rw [u.describe_text_of_isLegible package h, u.ofErased_eq_descriptor]
  exact congrArg Except.ok (TypeRef.arrays_eq_layers _ _ _ dims)

theorem Universe.qualifyType_eq_name_of_isLegible (u : Universe) (package : String) {t : TypeRef}
    (h : t.IsLegible) : u.qualifyType package t.text = .ok (t.descriptor u package).name := by
  rw [u.qualifyType_text package h, t.name_descriptor]

/-- **A type's text is described as its structure says.** The name in the description is the text with
every name in it qualified. -/
theorem Universe.describe_eq_descriptor (u : Universe) (package : String) {t : TypeRef}
    (wf : t.IsWellNamed) :
    u.describe package t.text = .ok (t.descriptor u package) ∧
      u.qualifyType package t.text = .ok (t.descriptor u package).name :=
  ⟨u.describe_eq_descriptor_of_isLegible package wf.isLegible,
    u.qualifyType_eq_name_of_isLegible package wf.isLegible⟩

/-- A declared type inside of the arguments, with dimensions at every level. -/
theorem Universe.describe_eq_descriptor_nested :
    let u : Universe := ⟨[⟨"model.User", ["Bundle"], []⟩]⟩
    let t : TypeRef := .mk "HashMap" [.mk "String" [] 0, .mk "ArrayList" [.mk "User" [] 1] 2] 1
    t.IsWellNamed ∧
      (u.describe "app" t.text = .ok (t.descriptor u "app") ∧
        u.qualifyType "app" t.text = .ok (t.descriptor u "app").name) ∧
      t.descriptor u "app" = .arrayOf
        "java.util.HashMap<java.lang.String, java.util.ArrayList<model.User[]>[][]>[]"
        (.serializable
          "java.util.HashMap<java.lang.String, java.util.ArrayList<model.User[]>[][]>") := by
  intro u t
  have wf : t.IsWellNamed := by decide +kernel
  exact ⟨wf, u.describe_eq_descriptor "app" wf, by decide +kernel⟩

end ScreenNav
